import TagSelection.TagSet
import TagSelection.Text.Blank

namespace TagSelection.TagSet

/-- The pieces of a comma-separated list that are tags, trimmed. -/
def commaPieces (characters : List Char) : List Tag :=
  (((characters.splitOn ',').map Text.trimChars).filter (!·.isEmpty)).map String.ofList

/-- The tags of a comma-separated list. -/
def ofCommaList (value : String) : TagSet :=
  ofList (commaPieces value.toList)

def ofCommaLists (values : List String) : TagSet :=
  ofList (values.flatMap fun value => (ofCommaList value).toList)

end TagSelection.TagSet
