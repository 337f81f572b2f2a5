import TagSelection.Outline
import TagSelection.Proofs.Selection.Skeleton

/-!
# The lines of an outline

Every line of an outline is made of pieces, some of which are set off.  Colours wrap those
pieces and change nothing else.  A group is shown as a block: its own line, a line for each
of its tests, and then the blocks of its child groups.  The lines of the tests show the
entries of the suite, in the order of the entries.
-/

namespace TagSelection

namespace Outline

structure Piece where
  text : String
  emphasis : Option Emphasis := none

/-- The piece as it is printed: with colours, a piece that is set off stands between the
start of its emphasis and the reset. -/
def Piece.shown (colored : Bool) (piece : Piece) : String :=
  match piece.emphasis with
  | none => piece.text
  | some emphasis =>
      if colored then emphasis.start ++ piece.text ++ Emphasis.reset else piece.text

def lineOf (colored : Bool) (pieces : List Piece) : String :=
  String.join (pieces.map (Piece.shown colored))

/-- Two blanks for each of the groups around a line. -/
def margin (around : Nat) : String := String.ofList (List.replicate (2 * around) ' ')

/-- The entry of a test inside groups, the outermost of which comes first. -/
def entryInside (around : List Group) (test : TestCase) : PlacedTest where
  path := around.map Group.name
  test := test
  tags := Group.tagsInside around test

def tagPieces (tags : TagSet) : List Piece :=
  if tags = ∅ then []
  else [⟨" ", none⟩, ⟨"[" ++ ", ".intercalate tags.toList ++ "]", some .dim⟩]

def groupPieces (around : List Group) (group : Group) : List Piece :=
  [⟨margin around.length ++ "* ", none⟩, ⟨group.name, some .bold⟩] ++ tagPieces group.tags

/-- A test with its effective tags, and with a mark if it is ignored. -/
def testPieces (entry : PlacedTest) : List Piece :=
  [⟨margin entry.path.length ++ "- " ++ entry.test.name, none⟩] ++ tagPieces entry.tags ++
    if entry.test.ignored then [⟨" ", none⟩, ⟨"(ignored)", some .yellow⟩] else []

/-- Whether the line is that of a group: behind the margin it starts with a star. -/
def isGroupLine (line : String) : Bool :=
  (line.toList.dropWhile (· == ' ')).head? == some '*'

mutual

/-- The lines of a group inside others: its own line, one for each of its tests, and then
the lines of its child groups. -/
def block (around : List Group) : Group → List (List Piece)
  | ⟨name, tags, groups, tests⟩ =>
      let group : Group := ⟨name, tags, groups, tests⟩
      groupPieces around group ::
        (tests.map (fun test => testPieces (entryInside (around ++ [group]) test)) ++
          blocks (around ++ [group]) groups)

def blocks (around : List Group) : List Group → List (List Piece)
  | [] => []
  | group :: rest => block around group ++ blocks around rest

end

theorem blocks_eq_flatMap (around groups : List Group) :
    blocks around groups = groups.flatMap (block around) := by
  induction groups with
  | nil => rfl
  | cons group rest inductionHypothesis => simp [blocks, inductionHypothesis]

theorem margin_succ (around : Nat) : margin (around + 1) = "  " ++ margin around := by
  rw [← String.toList_inj]
  simp [margin, Nat.mul_add, List.replicate_succ]

theorem indent_eq_margin (depth : Nat) : indent depth = margin depth := by
  induction depth with
  | zero => rfl
  | succ depth inductionHypothesis => rw [indent, inductionHypothesis, margin_succ]

theorem shown_tagPieces (colored : Bool) (tags : TagSet) :
    lineOf colored (tagPieces tags) = tagList colored tags := by
  unfold tagPieces tagList
  by_cases empty : tags = ∅
  · rw [if_pos empty, if_pos ((TagSet.isEmpty_iff tags).2 empty)]
    rfl
  · rw [if_neg empty, if_neg (mt (TagSet.isEmpty_iff tags).1 empty)]
    simp [lineOf, Piece.shown, Emphasis.paint]

theorem lineOf_append (colored : Bool) (first second : List Piece) :
    lineOf colored (first ++ second) = lineOf colored first ++ lineOf colored second := by
  rw [lineOf, List.map_append, String.join_append]
  rfl

theorem groupLine_eq (colored : Bool) (around : List Group) (group : Group) :
    groupLine colored around.length group.name group.tags =
      lineOf colored (groupPieces around group) := by
  rw [groupPieces, lineOf_append, shown_tagPieces, groupLine, indent_eq_margin]
  simp [lineOf, Piece.shown, Emphasis.paint]

theorem margin_append_blanks (around : Nat) : margin around ++ "  " = "  " ++ margin around := by
  rw [← String.toList_inj]
  simp only [margin, String.toList_append, String.toList_ofList]
  change List.replicate (2 * around) ' ' ++ List.replicate 2 ' ' =
    List.replicate 2 ' ' ++ List.replicate (2 * around) ' '
  rw [List.replicate_append_replicate, List.replicate_append_replicate, Nat.add_comm]

theorem testLine_eq (colored : Bool) (inherited : TagSet) (path : List String) (name : String)
    (test : TestCase) :
    testLine colored path.length inherited test =
      lineOf colored
        (testPieces { path := path ++ [name], test, tags := inherited ∪ test.tags }) := by
  have start : indent path.length ++ "  - " = margin (path ++ [name]).length ++ "- " := by
    rw [indent_eq_margin, List.length_append, List.length_singleton, margin_succ,
      ← margin_append_blanks, String.append_assoc]
    rfl
  rw [testPieces, lineOf_append, lineOf_append, shown_tagPieces, testLine, start]
  cases test.ignored <;> simp [lineOf, Piece.shown, Emphasis.paint]

theorem isGroupLine_margin (around : Nat) (rest : String) :
    isGroupLine (margin around ++ rest) = isGroupLine rest := by
  have blank : ∀ char ∈ List.replicate (2 * around) ' ', (char == ' ') = true := by
    intro char member
    rw [List.eq_of_mem_replicate member]
    rfl
  rw [isGroupLine, String.toList_append, margin, String.toList_ofList,
    List.dropWhile_append_of_pos blank]
  rfl

theorem isGroupLine_groupLine (colored : Bool) (depth : Nat) (name : String) (tags : TagSet) :
    isGroupLine (groupLine colored depth name tags) = true := by
  rw [groupLine, indent_eq_margin, String.append_assoc, String.append_assoc,
    isGroupLine_margin, isGroupLine, String.toList_append]
  rfl

theorem isGroupLine_testLine (colored : Bool) (entry : PlacedTest) :
    isGroupLine (lineOf colored (testPieces entry)) = false := by
  rw [testPieces, List.append_assoc, lineOf_append]
  have start :
      lineOf colored [⟨margin entry.path.length ++ "- " ++ entry.test.name, none⟩] =
        margin entry.path.length ++ ("- " ++ entry.test.name) := by
    simp [lineOf, Piece.shown, String.append_assoc]
  rw [start, String.append_assoc, isGroupLine_margin, String.append_assoc, isGroupLine,
    String.toList_append]
  rfl

def inheritedTags (around : List Group) : TagSet :=
  .ofList (around.flatMap fun group => group.tags.toList)

theorem inheritedTags_concat (around : List Group) (group : Group) :
    inheritedTags (around ++ [group]) = inheritedTags around ∪ group.tags := by
  rw [inheritedTags, inheritedTags, TagSet.ofList_union, List.flatMap_append]
  simp

theorem testLine_inside (colored : Bool) (around : List Group) (group : Group)
    (test : TestCase) :
    testLine colored around.length (inheritedTags around ∪ group.tags) test =
      lineOf colored (testPieces (entryInside (around ++ [group]) test)) := by
  have line := testLine_eq colored (inheritedTags around ∪ group.tags)
    (around.map Group.name) group.name test
  rw [List.length_map] at line
  rw [line, entryInside, Group.tagsInside_concat, List.map_append]
  rfl

theorem linesOfAll_eq_flatMap (colored : Bool) (inherited : TagSet) (depth : Nat)
    (groups : List Group) :
    linesOfAll colored inherited depth groups =
      groups.flatMap (linesFrom colored inherited depth) := by
  induction groups with
  | nil => rfl
  | cons group rest inductionHypothesis => simp [linesOfAll, inductionHypothesis]

/-- The walk with depths and inherited tags shows the same lines as the groups around. -/
theorem linesFrom_eq_block (colored : Bool) (around : List Group) (group : Group) :
    linesFrom colored (inheritedTags around) around.length group =
      (block around group).map (lineOf colored) := by
  induction group using Group.induction generalizing around with
  | group name tags groups tests inductionHypothesis =>
      let parent : Group := ⟨name, tags, groups, tests⟩
      have own : groupLine colored around.length name tags =
          lineOf colored (groupPieces around parent) :=
        groupLine_eq colored around parent
      have ofTests : ∀ test ∈ tests,
          testLine colored around.length (inheritedTags around ∪ tags) test =
            lineOf colored (testPieces (entryInside (around ++ [parent]) test)) :=
        fun test _ => testLine_inside colored around parent test
      -- The children are inside one group more, which brings their depth and their tags.
      have below : ∀ child ∈ groups,
          linesFrom colored (inheritedTags around ∪ tags) (around.length + 1) child =
            (block (around ++ [parent]) child).map (lineOf colored) := by
        intro child member
        have ofChild := inductionHypothesis child member (around ++ [parent])
        rwa [inheritedTags_concat, List.length_append] at ofChild
      rw [linesFrom, own, linesOfAll_eq_flatMap, List.map_congr_left ofTests,
        List.flatMap_congr below, block, blocks_eq_flatMap, List.map_cons, List.map_append,
        List.map_map, List.map_flatMap]
      rfl

theorem testLines_own (colored : Bool) (inherited : TagSet) (path : List String)
    (name : String) (tests : List TestCase) :
    (tests.map (testLine colored path.length inherited)).filter (!isGroupLine ·) =
      (Group.ownPlacedTests inherited (path ++ [name]) tests).map fun entry =>
        lineOf colored (testPieces entry) := by
  have areTests : ∀ line ∈ tests.map (testLine colored path.length inherited),
      (!isGroupLine line) = true := by
    intro line member
    obtain ⟨test, _, rfl⟩ := List.mem_map.1 member
    rw [testLine_eq colored inherited path name, isGroupLine_testLine]
    rfl
  rw [List.filter_eq_self.2 areTests, Group.ownPlacedTests, List.map_map]
  exact List.map_congr_left fun test _ => testLine_eq colored inherited path name test

/-- Without the lines of the groups an outline shows the entries of the suite. -/
theorem testLines_linesFrom (colored : Bool) (inherited : TagSet) (path : List String)
    (suite : Group) :
    (linesFrom colored inherited path.length suite).filter (!isGroupLine ·) =
      (Group.placedTestsFrom inherited path suite).map fun entry =>
        lineOf colored (testPieces entry) := by
  induction suite using Group.induction generalizing inherited path with
  | group name tags groups tests inductionHypothesis =>
      -- The path grows by one name with each level, as the depth does.
      have below : ∀ child ∈ groups,
          (linesFrom colored (inherited ∪ tags) (path.length + 1) child).filter
              (!isGroupLine ·) =
            (Group.placedTestsFrom (inherited ∪ tags) (path ++ [name]) child).map
              fun entry => lineOf colored (testPieces entry) := by
        intro child member
        have ofChild := inductionHypothesis child member (inherited ∪ tags) (path ++ [name])
        rwa [List.length_append] at ofChild
      rw [linesFrom, Group.placedTestsFrom_group,
        List.filter_cons_of_neg (by simp [isGroupLine_groupLine]), List.filter_append,
        testLines_own colored (inherited ∪ tags) path name, linesOfAll_eq_flatMap,
        List.filter_flatMap, List.flatMap_congr below, List.map_append, List.map_flatMap]

end Outline

end TagSelection
