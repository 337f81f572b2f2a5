import TagSelection.Proofs.SuiteFile.JsonForm

/-!
# Levels

The readers count the brackets that are open around them.  So whatever text a suite is
read from, it is no deeper than the levels that its reader was allowed.
-/

namespace TagSelection

namespace Json

/-- What the reader gives, if it gives anything, has the property. -/
def Gives {α : Type} (read : Reader α) (good : α → Prop) : Prop :=
  ∀ characters value rest, read characters = .ok (value, rest) → good value

theorem forall_getD {α : Type} {good : α → Prop} {field : Option α} {default : α}
    (given : ∀ value, field = some value → good value) (atDefault : good default) :
    good (field.getD default) := by
  cases field with
  | none => exact atDefault
  | some value => exact given value rfl

section Readers

variable {α : Type} {element : Reader α} {good : α → Prop}

theorem gives_more (each : Gives element good) (fuel : Nat) :
    Gives (readMore element fuel) fun values => ∀ value ∈ values, good value := by
  induction fuel with
  | zero =>
      intro characters values rest read
      cases read
  | succ fuel inductionHypothesis =>
      intro characters values rest read
      rw [readMore] at read
      split at read
      · cases read
        exact List.forall_mem_nil _
      · obtain ⟨⟨value, afterFirst⟩, first, read⟩ := (bind_eq_ok_iff _ _ _).1 read
        obtain ⟨⟨others, afterOthers⟩, later, read⟩ := (bind_eq_ok_iff _ _ _).1 read
        cases read
        exact List.forall_mem_cons.2
          ⟨each _ _ _ first, inductionHypothesis _ _ _ later⟩
      · cases read

theorem gives_elements (each : Gives element good) :
    Gives (readElements element) fun values => ∀ value ∈ values, good value := by
  intro characters values rest read
  rw [readElements] at read
  split at read
  · cases read
    exact List.forall_mem_nil _
  · obtain ⟨⟨value, afterFirst⟩, first, read⟩ := (bind_eq_ok_iff _ _ _).1 read
    obtain ⟨⟨others, afterOthers⟩, later, read⟩ := (bind_eq_ok_iff _ _ _).1 read
    cases read
    exact List.forall_mem_cons.2 ⟨each _ _ _ first, gives_more each _ _ _ _ later⟩

theorem gives_array {depth : α → Nat} {levels : Nat} (wanted : Document.Wanted)
    (each : ∀ inner, levels = inner + 1 → Gives element fun value => depth value ≤ inner) :
    Gives (readArray wanted levels element) fun values =>
      listDepth (values.map depth) ≤ levels := by
  intro characters values rest read
  rw [readArray] at read
  split at read
  · cases levels with
    | zero => cases read
    | succ inner =>
        have shallow := gives_elements (each inner rfl) _ _ _ read
        refine (listDepth_le_iff _ _).2 (Or.inr ⟨inner, rfl, ?_⟩)
        exact List.forall_mem_map.2 shallow
  · cases read

theorem gives_optional {absent : α} (each : Gives element good) (atAbsent : good absent) :
    Gives (readOptional absent element) good := by
  intro characters value rest read
  obtain ⟨next, _, read⟩ := (bind_eq_ok_iff _ _ _).1 read
  cases next with
  | none =>
      cases read
      exact atAbsent
  | some remaining => exact each _ _ _ read

theorem gives_field (each : Gives element good) (name : String) (present : Option α) :
    Gives (readField name present element) fun field =>
      ∀ value, field = some value → good value := by
  intro characters field rest read value given
  rw [readField] at read
  split at read
  · cases read
  · obtain ⟨remaining, _, read⟩ := (bind_eq_ok_iff _ _ _).1 read
    obtain ⟨⟨found, afterValue⟩, first, read⟩ := (bind_eq_ok_iff _ _ _).1 read
    cases read
    cases given
    exact each _ _ _ first

end Readers

section Objects

variable {σ : Type} {field : σ → String → Reader σ} {good : σ → Prop}

theorem gives_fields (kept : ∀ state name, good state → Gives (field state name) good)
    (fuel : Nat) {state : σ} (start : good state) :
    Gives (readFields field fuel state) good := by
  induction fuel generalizing state with
  | zero =>
      intro characters last rest read
      cases read
  | succ fuel inductionHypothesis =>
      intro characters last rest read
      rw [readFields] at read
      split at read
      · obtain ⟨⟨name, afterName⟩, _, read⟩ := (bind_eq_ok_iff _ _ _).1 read
        obtain ⟨⟨next, afterField⟩, first, read⟩ := (bind_eq_ok_iff _ _ _).1 read
        have nextGood := kept state name start _ _ _ first
        dsimp only at read
        split at read
        · cases read
          exact nextGood
        · exact inductionHypothesis nextGood _ _ _ read
        · cases read
      · cases read

theorem gives_object (kept : ∀ state name, good state → Gives (field state name) good)
    {initial : σ} (start : good initial) : Gives (readObject field initial) good := by
  intro characters last rest read
  rw [readObject] at read
  split at read
  · cases read
    exact start
  · exact gives_fields kept _ start _ _ _ read

end Objects

theorem gives_tags (levels : Nat) :
    Gives (readTags levels) fun tags => tags.jsonDepth ≤ levels := by
  intro characters tags rest read
  obtain ⟨⟨texts, afterTexts⟩, first, read⟩ := (bind_eq_ok_iff _ _ _).1 read
  cases read
  have shallow := gives_array .tagSet (fun inner _ _ _ _ _ => Nat.zero_le inner) _ _ _ first
  rcases (listDepth_le_iff _ _).1 shallow with nothing | ⟨inner, rfl, _⟩
  · rw [List.map_eq_nil_iff] at nothing
    rw [nothing]
    exact Nat.zero_le levels
  · refine (listDepth_le_iff _ _).2 (Or.inr ⟨inner, rfl, ?_⟩)
    intro depth member
    obtain ⟨_, _, rfl⟩ := List.mem_map.1 member
    exact Nat.zero_le inner

def TestFields.Shallow (levels : Nat) (fields : TestFields) : Prop :=
  ∀ tags, fields.tags = some tags → tags.jsonDepth ≤ levels

theorem gives_testField {levels : Nat} {fields : TestFields} (name : String)
    (shallow : fields.Shallow levels) :
    Gives (readTestField levels fields name) (TestFields.Shallow levels) := by
  intro characters next rest read
  unfold readTestField at read
  split at read
  · obtain ⟨⟨value, after⟩, _, read⟩ := (bind_eq_ok_iff _ _ _).1 read
    cases read
    exact shallow
  · obtain ⟨⟨tags, after⟩, tagsRead, read⟩ := (bind_eq_ok_iff _ _ _).1 read
    cases read
    exact gives_field (gives_tags levels) _ _ _ _ _ tagsRead
  · obtain ⟨⟨value, after⟩, _, read⟩ := (bind_eq_ok_iff _ _ _).1 read
    cases read
    exact shallow
  · obtain ⟨after, _, read⟩ := (bind_eq_ok_iff _ _ _).1 read
    cases read
    exact shallow

theorem gives_testFields (levels : Nat) :
    Gives (readObject (readTestField levels) {}) (TestFields.Shallow levels) := by
  have nothingRead : TestFields.Shallow levels {} := fun _ impossible => nomatch impossible
  exact gives_object (fun _ name => gives_testField name) nothingRead

theorem gives_testElements (levels : Nat) :
    Gives (readTestElements levels) fun test => test.tags.jsonDepth ≤ levels := by
  intro characters test rest read
  obtain ⟨start, _, read⟩ := (bind_eq_ok_iff _ _ _).1 read
  cases start with
  | none => cases read
  | some remaining =>
      obtain ⟨⟨name, afterName⟩, _, read⟩ := (bind_eq_ok_iff _ _ _).1 read
      obtain ⟨⟨tags, afterTags⟩, tagsRead, read⟩ := (bind_eq_ok_iff _ _ _).1 read
      obtain ⟨⟨ignored, afterIgnored⟩, _, read⟩ := (bind_eq_ok_iff _ _ _).1 read
      obtain ⟨afterArray, _, read⟩ := (bind_eq_ok_iff _ _ _).1 read
      cases read
      refine gives_optional (gives_tags levels) ?_ _ _ _ tagsRead
      exact Nat.zero_le levels

theorem TestFields.Shallow.toTest {levels : Nat} {fields : TestFields} {test : TestCase}
    (shallow : fields.Shallow levels) (made : fields.toTest = .ok test) :
    test.tags.jsonDepth ≤ levels := by
  rw [TestFields.toTest] at made
  split at made
  · cases made
  · cases made
    exact forall_getD shallow (Nat.zero_le levels)

theorem gives_test (levels : Nat) :
    Gives (readTest levels) fun test => test.jsonDepth ≤ levels := by
  intro characters test rest read
  unfold readTest at read
  rw [TestCase.jsonDepth]
  split at read
  · cases read
  · cases read
  · have tagsFit := gives_testElements _ _ _ _ read
    omega
  · obtain ⟨⟨fields, afterFields⟩, object, read⟩ := (bind_eq_ok_iff _ _ _).1 read
    obtain ⟨made, toTest, read⟩ := (bind_eq_ok_iff _ _ _).1 read
    cases read
    have tagsFit := (gives_testFields _ _ _ _ object).toTest toTest
    omega
  · cases read

/-! ## Groups -/

/-- The parts among the fields of a group that have been read are no deeper than the
levels. -/
structure GroupFields.Shallow (levels : Nat) (fields : GroupFields) : Prop where
  tags : ∀ tags, fields.tags = some tags → tags.jsonDepth ≤ levels
  groups : ∀ groups, fields.groups = some groups →
    listDepth (groups.map Group.jsonDepth) ≤ levels
  tests : ∀ tests, fields.tests = some tests →
    listDepth (tests.map TestCase.jsonDepth) ≤ levels

structure GroupReaders.Shallow (levels : Nat) (readers : GroupReaders) : Prop where
  tags : Gives readers.tags fun tags => tags.jsonDepth ≤ levels
  groups : Gives readers.groups fun groups =>
    listDepth (groups.map Group.jsonDepth) ≤ levels
  tests : Gives readers.tests fun tests =>
    listDepth (tests.map TestCase.jsonDepth) ≤ levels

section Groups

variable {levels : Nat} {readers : GroupReaders}

theorem gives_groupField (allowed : readers.Shallow levels) {fields : GroupFields}
    (name : String) (shallow : fields.Shallow levels) :
    Gives (readGroupField readers fields name) (GroupFields.Shallow levels) := by
  intro characters next rest read
  unfold readGroupField at read
  split at read
  · obtain ⟨⟨value, after⟩, _, read⟩ := (bind_eq_ok_iff _ _ _).1 read
    cases read
    exact ⟨shallow.tags, shallow.groups, shallow.tests⟩
  · obtain ⟨⟨value, after⟩, valueRead, read⟩ := (bind_eq_ok_iff _ _ _).1 read
    cases read
    exact ⟨gives_field allowed.tags _ _ _ _ _ valueRead, shallow.groups, shallow.tests⟩
  · obtain ⟨⟨value, after⟩, valueRead, read⟩ := (bind_eq_ok_iff _ _ _).1 read
    cases read
    exact ⟨shallow.tags, gives_field allowed.groups _ _ _ _ _ valueRead, shallow.tests⟩
  · obtain ⟨⟨value, after⟩, valueRead, read⟩ := (bind_eq_ok_iff _ _ _).1 read
    cases read
    exact ⟨shallow.tags, shallow.groups, gives_field allowed.tests _ _ _ _ _ valueRead⟩
  · obtain ⟨after, _, read⟩ := (bind_eq_ok_iff _ _ _).1 read
    cases read
    exact shallow

theorem gives_groupFields (allowed : readers.Shallow levels) :
    Gives (readObject (readGroupField readers) {}) (GroupFields.Shallow levels) := by
  have nothingRead : GroupFields.Shallow levels {} := by
    constructor <;> exact fun _ impossible => nomatch impossible
  exact gives_object (fun _ name => gives_groupField allowed name) nothingRead

theorem gives_groupElements (allowed : readers.Shallow levels) :
    Gives (readGroupElements readers) fun suite => suite.jsonDepth ≤ levels + 1 := by
  intro characters suite rest read
  obtain ⟨start, _, read⟩ := (bind_eq_ok_iff _ _ _).1 read
  cases start with
  | none => cases read
  | some remaining =>
      obtain ⟨⟨name, afterName⟩, _, read⟩ := (bind_eq_ok_iff _ _ _).1 read
      obtain ⟨⟨tags, afterTags⟩, tagsRead, read⟩ := (bind_eq_ok_iff _ _ _).1 read
      obtain ⟨⟨groups, afterGroups⟩, groupsRead, read⟩ := (bind_eq_ok_iff _ _ _).1 read
      obtain ⟨⟨tests, afterTests⟩, testsRead, read⟩ := (bind_eq_ok_iff _ _ _).1 read
      obtain ⟨afterArray, _, read⟩ := (bind_eq_ok_iff _ _ _).1 read
      cases read
      refine (Group.jsonDepth_le_iff _ _ _ _ _).2 ⟨levels, rfl, ?_, ?_, ?_⟩
      -- A part in front of which the array ends is empty, and that has no depth.
      · refine gives_optional allowed.tags ?_ _ _ _ tagsRead
        exact Nat.zero_le levels
      · refine gives_optional allowed.groups ?_ _ _ _ groupsRead
        exact Nat.zero_le levels
      · refine gives_optional allowed.tests ?_ _ _ _ testsRead
        exact Nat.zero_le levels

theorem GroupFields.Shallow.toGroup {fields : GroupFields} {suite : Group}
    (shallow : fields.Shallow levels) (made : fields.toGroup = .ok suite) :
    suite.jsonDepth ≤ levels + 1 := by
  rw [GroupFields.toGroup] at made
  split at made
  · cases made
  · cases made
    refine (Group.jsonDepth_le_iff _ _ _ _ _).2 ⟨levels, rfl, ?_, ?_, ?_⟩
    · exact forall_getD shallow.tags (Nat.zero_le levels)
    · exact forall_getD shallow.groups (Nat.zero_le levels)
    · exact forall_getD shallow.tests (Nat.zero_le levels)

theorem gives_groupWith (allowed : readers.Shallow levels) :
    Gives (readGroupWith readers) fun suite => suite.jsonDepth ≤ levels + 1 := by
  intro characters suite rest read
  rw [readGroupWith] at read
  split at read
  · exact gives_groupElements allowed _ _ _ read
  · obtain ⟨⟨fields, afterFields⟩, object, read⟩ := (bind_eq_ok_iff _ _ _).1 read
    obtain ⟨made, toGroup, read⟩ := (bind_eq_ok_iff _ _ _).1 read
    cases read
    exact (gives_groupFields allowed _ _ _ object).toGroup toGroup
  · cases read

end Groups

theorem within_shallow {levels : Nat} {child : Reader Group}
    (childGives : ∀ inner, levels = inner + 1 →
      Gives child fun suite => suite.jsonDepth ≤ inner) :
    (GroupReaders.within levels child).Shallow levels where
  tags := gives_tags levels
  groups := gives_array .list childGives
  tests := by
    refine gives_array .list ?_
    rintro inner rfl
    exact gives_test inner

/-- The reader for a child group when `levels` brackets may be open inside its parent. -/
def readChild : (levels : Nat) → Reader Group
  | 0 => fun _ => .error malformed
  | inner + 1 => readGroup inner

theorem readGroup_succ (inner : Nat) (characters : List Char) :
    readGroup (inner + 1) characters =
      readGroupWith (.within inner (readChild inner)) characters := by
  cases inner with
  | zero => rfl
  | succ inner => rfl

/-- The recursion goes two levels down at a time: a group opens its object and the array
in which its children stand. -/
theorem gives_group (levels : Nat) :
    Gives (readGroup levels) fun suite => suite.jsonDepth ≤ levels := by
  induction levels using Nat.strongRecOn with
  | ind levels inductionHypothesis =>
      intro characters suite rest read
      cases levels with
      | zero =>
          rw [readGroup] at read
          split at read <;> cases read
      | succ inner =>
          rw [readGroup_succ] at read
          refine gives_groupWith (within_shallow ?_) _ _ _ read
          rintro below rfl
          exact inductionHypothesis below (by omega)

end Json

end TagSelection
