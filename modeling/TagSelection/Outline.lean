import TagSelection.Suite.Inheritance

/-!
# The outline of a suite

The outline shows a suite as an indented tree, one line for each group and each
test.  A group shows its own tags, a test its effective ones.  With colours the
name of a group is bold, the tags are dim and the mark of an ignored test is
yellow.
-/

namespace TagSelection

inductive Emphasis where
  | bold
  | dim
  | yellow
  deriving DecidableEq, Repr

namespace Emphasis

def start : Emphasis → String
  | .bold => "\x1b[1m"
  | .dim => "\x1b[2m"
  | .yellow => "\x1b[33m"

/-- The control sequence that ends every emphasis. -/
def reset : String := "\x1b[0m"

/-- A piece of a line, set off if colours are wanted. -/
def paint (emphasis : Emphasis) (colored : Bool) (text : String) : String :=
  if colored then emphasis.start ++ text ++ reset else text

end Emphasis

namespace Outline

/-- Two blanks for each level of depth. -/
def indent : Nat → String
  | 0 => ""
  | depth + 1 => "  " ++ indent depth

/-- The tags in brackets after a blank; nothing if there are none. -/
def tagList (colored : Bool) (tags : TagSet) : String :=
  if tags.isEmpty then ""
  else
    " " ++ Emphasis.dim.paint colored ("[" ++ ", ".intercalate tags.toList ++ "]")

def groupLine (colored : Bool) (depth : Nat) (name : String) (tags : TagSet) : String :=
  indent depth ++ "* " ++ Emphasis.bold.paint colored name ++ tagList colored tags

def testLine (colored : Bool) (depth : Nat) (inherited : TagSet) (test : TestCase) :
    String :=
  indent depth ++ "  - " ++ test.name ++ tagList colored (inherited ∪ test.tags) ++
    if test.ignored then " " ++ Emphasis.yellow.paint colored "(ignored)" else ""

mutual

/-- The lines of a group at a depth that inherits tags: the group, its tests, and
then its child groups one level deeper. -/
def linesFrom (colored : Bool) (inherited : TagSet) (depth : Nat) : Group → List String
  | ⟨name, tags, groups, tests⟩ =>
      groupLine colored depth name tags ::
        (tests.map (testLine colored depth (inherited ∪ tags)) ++
          linesOfAll colored (inherited ∪ tags) (depth + 1) groups)

def linesOfAll (colored : Bool) (inherited : TagSet) (depth : Nat) :
    List Group → List String
  | [] => []
  | group :: rest =>
      linesFrom colored inherited depth group ++ linesOfAll colored inherited depth rest

end

end Outline

/-- The lines that show the suite. -/
def Group.outline (suite : Group) (colored : Bool) : List String :=
  Outline.linesFrom colored ∅ 0 suite

end TagSelection
