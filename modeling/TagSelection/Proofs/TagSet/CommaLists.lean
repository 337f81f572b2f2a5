import Mathlib.Data.List.Basic
import TagSelection.Proofs.TagSet.FirstOccurrence
import TagSelection.Proofs.Text.Trimming
import TagSelection.TagSet.CommaList

/-!
# Comma-separated lists in a row

A comma between two lists joins them: the tags of the whole are those of the first list
and then the new ones of the second.  So it makes no difference whether several lists
are read one by one or as one list, or whether they have been cut at their commas
before.  The tags of a list are the listable ones, and a set of listable tags is read
back from its tags with commas between them, whatever blanks stand around the commas.
-/

namespace TagSelection.TagSet

/-- A tag that a comma-separated list can give. -/
structure Listable (tag : Tag) : Prop where
  nonempty : tag ≠ ""
  trimmed : Text.trim tag = tag
  noComma : ',' ∉ tag.toList

instance (tag : Tag) : Decidable (Listable tag) :=
  decidable_of_iff
    (tag ≠ "" ∧ Text.trim tag = tag ∧ ',' ∉ tag.toList)
    ⟨fun ⟨nonempty, trimmed, noComma⟩ => ⟨nonempty, trimmed, noComma⟩,
      fun listable => ⟨listable.nonempty, listable.trimmed, listable.noComma⟩⟩

def Padded (written : String) (tag : Tag) : Prop :=
  ∃ before after, Text.isBlankText before = true ∧ Text.isBlankText after = true ∧
    written = before ++ tag ++ after

theorem commaPieces_append_comma (first second : List Char) :
    commaPieces (first ++ ',' :: second) = commaPieces first ++ commaPieces second := by
  have cut :
      (first ++ ',' :: second).splitOn ',' = first.splitOn ',' ++ second.splitOn ',' :=
    List.splitOnP_append_cons first second rfl
  rw [commaPieces, cut, List.map_append, List.filter_append, List.map_append]
  rfl

theorem commaPieces_of_no_comma {piece : List Char} (noComma : ',' ∉ piece)
    (notBlank : Text.trimChars piece ≠ []) :
    commaPieces piece = [String.ofList (Text.trimChars piece)] := by
  have whole : piece.splitOn ',' = [piece] := List.splitOn_eq_singleton noComma
  rw [commaPieces, whole, List.map_singleton, List.filter_cons_of_pos (by simpa using notBlank)]
  rfl

theorem not_mem_of_mem_splitOn {separator : Char} {characters piece : List Char}
    (isPiece : piece ∈ characters.splitOn separator) : separator ∉ piece := by
  induction characters generalizing piece with
  | nil =>
      rw [List.splitOn_nil, List.mem_singleton] at isPiece
      rw [isPiece]
      exact List.not_mem_nil
  | cons c rest inductionHypothesis =>
      have pieces := List.splitOnP_cons_eq_if_modifyHead (p := (· == separator)) c rest
      change (c :: rest).splitOn separator =
        if (c == separator) = true then [] :: rest.splitOn separator
        else (rest.splitOn separator).modifyHead (List.cons c) at pieces
      rw [pieces] at isPiece
      by_cases separates : (c == separator) = true
      · rw [if_pos separates] at isPiece
        rcases List.mem_cons.1 isPiece with rfl | later
        · exact List.not_mem_nil
        · exact inductionHypothesis later
      · rw [if_neg separates] at isPiece
        have other : separator ≠ c := by
          rintro rfl
          exact separates (beq_self_eq_true _)
        -- The character belongs to the first piece of the rest, the others stay.
        cases cut : rest.splitOn separator with
        | nil =>
            rw [cut] at isPiece
            cases isPiece
        | cons head tail =>
            rw [cut, List.modifyHead_cons] at isPiece
            rw [cut] at inductionHypothesis
            rcases List.mem_cons.1 isPiece with rfl | later
            · have notInHead : separator ∉ head := inductionHypothesis List.mem_cons_self
              simp [other, notInHead]
            · exact inductionHypothesis (List.mem_cons_of_mem _ later)

theorem listable_of_mem_commaPieces {characters : List Char} {tag : Tag}
    (isPiece : tag ∈ commaPieces characters) : Listable tag := by
  obtain ⟨trimmed, kept, rfl⟩ := List.mem_map.1 isPiece
  obtain ⟨among, notEmpty⟩ := List.mem_filter.1 kept
  obtain ⟨piece, cut, rfl⟩ := List.mem_map.1 among
  have noComma : ',' ∉ piece := not_mem_of_mem_splitOn cut
  refine ⟨?_, Text.trim_trimmed piece, ?_⟩
  · rw [Ne, String.ofList_eq_empty_iff]
    simpa using notEmpty
  · rw [String.toList_ofList]
    exact fun member => noComma (Text.mem_of_mem_trimChars member)

theorem listable_of_mem_ofCommaList {value : String} {tag : Tag}
    (member : tag ∈ ofCommaList value) : Listable tag :=
  listable_of_mem_commaPieces ((mem_ofList _ _).1 member)

theorem ofCommaList_append_comma (first second : String) :
    ofCommaList (first ++ "," ++ second) = ofCommaList first ∪ ofCommaList second := by
  have characters :
      (first ++ "," ++ second).toList = first.toList ++ ',' :: second.toList := by
    simp
  rw [ofCommaList, characters, commaPieces_append_comma, ofList_append]
  rfl

theorem ofCommaLists_append (first second : List String) :
    ofCommaLists (first ++ second) = ofCommaLists first ∪ ofCommaLists second := by
  rw [ofCommaLists, List.flatMap_append, ofList_append]
  rfl

theorem ofCommaLists_singleton (value : String) :
    ofCommaLists [value] = ofCommaList value := by
  rw [ofCommaLists, List.flatMap_singleton, ofList_toList]

theorem ofCommaLists_cons (value : String) (later : List String) :
    ofCommaLists (value :: later) = ofCommaList value ∪ ofCommaLists later := by
  rw [← List.singleton_append, ofCommaLists_append, ofCommaLists_singleton]

/-- Lists are read one by one as the list of their texts with commas between them. -/
theorem ofCommaLists_eq_ofCommaList (values : List String) :
    ofCommaLists values = ofCommaList (",".intercalate values) := by
  induction values with
  | nil => rfl
  | cons value later inductionHypothesis =>
      cases later with
      | nil => rw [ofCommaLists_singleton, String.intercalate_singleton]
      | cons next others =>
          rw [ofCommaLists_cons, inductionHypothesis, String.intercalate_cons_cons,
            ofCommaList_append_comma]

def commaCuts (value : String) : List String :=
  (value.toList.splitOn ',').map String.ofList

theorem intercalate_commaCuts (value : String) :
    ",".intercalate (commaCuts value) = value := by
  have characters : (commaCuts value).map String.toList = value.toList.splitOn ',' := by
    simp [commaCuts, Function.comp_def]
  rw [← String.toList_inj, String.toList_intercalate, characters]
  exact List.intercalate_splitOn ','

/-- Cutting the lists at their commas before they are read makes no difference. -/
theorem ofCommaLists_commaCuts (values : List String) :
    ofCommaLists (values.flatMap commaCuts) = ofCommaLists values := by
  induction values with
  | nil => rfl
  | cons value later inductionHypothesis =>
      have first : ofCommaLists (commaCuts value) = ofCommaList value := by
        rw [ofCommaLists_eq_ofCommaList, intercalate_commaCuts]
      rw [List.flatMap_cons, ofCommaLists_append, first, inductionHypothesis,
        ofCommaLists_cons]

theorem noComma_of_blank {text : String} (blank : Text.isBlankText text = true) :
    ',' ∉ text.toList := by
  intro member
  have notBlank : Text.isBlank ',' = false := by decide
  have blankComma := List.all_eq_true.1 blank ',' member
  rw [notBlank] at blankComma
  cases blankComma

theorem Padded.noComma {written : String} {tag : Tag} (padded : Padded written tag)
    (listable : Listable tag) : ',' ∉ written.toList := by
  obtain ⟨before, after, blankBefore, blankAfter, rfl⟩ := padded
  rw [String.toList_append, String.toList_append, List.mem_append, List.mem_append]
  rintro ((inBefore | inTag) | inAfter)
  · exact noComma_of_blank blankBefore inBefore
  · exact listable.noComma inTag
  · exact noComma_of_blank blankAfter inAfter

theorem Padded.trimChars_eq {written : String} {tag : Tag} (padded : Padded written tag)
    (listable : Listable tag) : Text.trimChars written.toList = tag.toList := by
  obtain ⟨before, after, blankBefore, blankAfter, rfl⟩ := padded
  rw [String.toList_append, String.toList_append, Text.trimChars_append_blanks blankAfter,
    Text.trimChars_blanks_append blankBefore, ← Text.toList_trim, listable.trimmed]

theorem Padded.commaPieces_eq {written : String} {tag : Tag} (padded : Padded written tag)
    (listable : Listable tag) : commaPieces written.toList = [tag] := by
  have trimmed := padded.trimChars_eq listable
  have notBlank : Text.trimChars written.toList ≠ [] := by
    rw [trimmed, Ne, String.toList_eq_nil_iff]
    exact listable.nonempty
  rw [commaPieces_of_no_comma (padded.noComma listable) notBlank, trimmed,
    String.ofList_toList]

theorem commaPieces_padded {written : List String} {tags : List Tag}
    (padded : List.Forall₂ Padded written tags) (listable : ∀ tag ∈ tags, Listable tag) :
    commaPieces (",".intercalate written).toList = tags := by
  induction padded with
  | nil => rfl
  | @cons text tag laterTexts laterTags first others inductionHypothesis =>
      obtain ⟨isListable, areListable⟩ := List.forall_mem_cons.1 listable
      have firstPieces := first.commaPieces_eq isListable
      cases others with
      | nil => rw [String.intercalate_singleton, firstPieces]
      | @cons next nextTag moreTexts moreTags second more =>
          have characters :
              (",".intercalate (text :: next :: moreTexts)).toList =
                text.toList ++ ',' :: (",".intercalate (next :: moreTexts)).toList := by
            simp
          rw [characters, commaPieces_append_comma, firstPieces,
            inductionHypothesis areListable, List.singleton_append]

/-- A set of listable tags is read back from its tags with commas between them. -/
theorem ofCommaList_padded {tags : TagSet} {written : List String}
    (listable : ∀ tag ∈ tags, Listable tag)
    (padded : List.Forall₂ Padded written tags.toList) :
    ofCommaList (",".intercalate written) = tags := by
  rw [ofCommaList, commaPieces_padded padded listable, ofList_toList]

end TagSelection.TagSet
