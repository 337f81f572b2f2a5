import TagSelection.Proofs.Suite.Entries

/-!
# Groups by their descents

A descent names the child groups to enter, one after another from the root on, by their
positions among their siblings.  It leads to one group of the suite at most, and the
groups that it passes are those around that group.
-/

namespace TagSelection.Group

/-- The groups around the group at the end of a descent, outermost first, and that group
itself; nothing if the descent leads nowhere. -/
def descend? (group : Group) : (descent : List Nat) → Option (List Group × Group)
  | [] => some ([], group)
  | index :: descent => do
      let child ← group.groups[index]?
      let (around, below) ← child.descend? descent
      some (group :: around, below)

def groupAt? (suite : Group) (descent : List Nat) : Option Group :=
  (suite.descend? descent).map Prod.snd

variable {suite below : Group} {index : Nat} {descent : List Nat}

theorem descend?_cons_eq_some_iff {around : List Group} :
    suite.descend? (index :: descent) = some (around, below) ↔
      ∃ child inner, suite.groups[index]? = some child ∧
        child.descend? descent = some (inner, below) ∧ around = suite :: inner := by
  rw [descend?]
  constructor
  · intro reached
    obtain ⟨child, isChild, reached⟩ := Option.bind_eq_some_iff.1 reached
    obtain ⟨⟨inner, last⟩, isInner, reached⟩ := Option.bind_eq_some_iff.1 reached
    cases reached
    exact ⟨child, inner, isChild, isInner, rfl⟩
  · rintro ⟨child, inner, isChild, isInner, rfl⟩
    simp [isChild, isInner]

@[simp]
theorem groupAt?_nil (suite : Group) : suite.groupAt? [] = some suite := rfl

theorem groupAt?_eq_some_iff :
    suite.groupAt? descent = some below ↔
      ∃ around, suite.descend? descent = some (around, below) := by
  simp [groupAt?]

theorem groupAt?_cons_eq_some_iff :
    suite.groupAt? (index :: descent) = some below ↔
      ∃ child : Group, suite.groups[index]? = some child ∧
        child.groupAt? descent = some below := by
  simp only [groupAt?_eq_some_iff, descend?_cons_eq_some_iff]
  constructor
  · rintro ⟨_, child, inner, isChild, reached, _⟩
    exact ⟨child, isChild, inner, reached⟩
  · rintro ⟨child, isChild, inner, reached⟩
    exact ⟨_, child, inner, isChild, reached, rfl⟩

end TagSelection.Group
