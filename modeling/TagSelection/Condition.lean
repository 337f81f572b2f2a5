import TagSelection.TagSet

/-!
# Conditions on tags

A condition is a boolean combination of statements "the test carries this tag".
`Condition.holds` evaluates it on the tags of a test, `Condition.render` writes
it in its canonical form, and `Condition.tags` lists the tags it speaks of.
-/

namespace TagSelection

/-- A boolean condition on a set of tags. -/
inductive Condition where
  | has (tag : Tag)
  /-- Every operand holds; without operands the condition always holds. -/
  | and (operands : List Condition)
  /-- Some operand holds; without operands the condition never holds. -/
  | or (operands : List Condition)
  /-- The operand fails; a missing operand counts as one that always holds. -/
  | not (operand : Option Condition)
  deriving Inhabited, Repr

namespace Condition

/-- The condition that every set of tags meets. -/
def unrestricted : Condition := .and []

def isUnrestricted : Condition → Bool
  | .and [] => true
  | _ => false

mutual

/-- Whether the condition is true of a set of tags. -/
def holds (tags : TagSet) : Condition → Bool
  | .has tag => decide (tag ∈ tags)
  | .and operands => allHold tags operands
  | .or operands => someHolds tags operands
  | .not (some operand) => !holds tags operand
  | .not none => false

def allHold (tags : TagSet) : List Condition → Bool
  | [] => true
  | operand :: rest => holds tags operand && allHold tags rest

def someHolds (tags : TagSet) : List Condition → Bool
  | [] => false
  | operand :: rest => holds tags operand || someHolds tags rest

end

mutual

/-- The canonical text: operators in lower case, operands joined by `, `. -/
def render : Condition → String
  | .has tag => tag
  | .and operands => "and(" ++ ", ".intercalate (renderEach operands) ++ ")"
  | .or operands => "or(" ++ ", ".intercalate (renderEach operands) ++ ")"
  | .not (some operand) => "not(" ++ render operand ++ ")"
  | .not none => "not()"

def renderEach : List Condition → List String
  | [] => []
  | operand :: rest => render operand :: renderEach rest

end

mutual

/-- The tags at the leaves, from left to right, with repetitions. -/
def leaves : Condition → List Tag
  | .has tag => [tag]
  | .and operands => leavesOfAll operands
  | .or operands => leavesOfAll operands
  | .not (some operand) => leaves operand
  | .not none => []

def leavesOfAll : List Condition → List Tag
  | [] => []
  | operand :: rest => leaves operand ++ leavesOfAll rest

end

/-- The tags that the condition speaks of, in the order of first appearance. -/
def tags (condition : Condition) : TagSet := .ofList condition.leaves

mutual

def decEq : (left right : Condition) → Decidable (left = right)
  | .has leftTag, .has rightTag =>
      if equality : leftTag = rightTag then isTrue (by rw [equality])
      else isFalse (by simpa using equality)
  | .and leftOperands, .and rightOperands =>
      match decEqAll leftOperands rightOperands with
      | isTrue equality => isTrue (by rw [equality])
      | isFalse different => isFalse (by simpa using different)
  | .or leftOperands, .or rightOperands =>
      match decEqAll leftOperands rightOperands with
      | isTrue equality => isTrue (by rw [equality])
      | isFalse different => isFalse (by simpa using different)
  | .not none, .not none => isTrue rfl
  | .not (some leftOperand), .not (some rightOperand) =>
      match decEq leftOperand rightOperand with
      | isTrue equality => isTrue (by rw [equality])
      | isFalse different => isFalse (by simpa using different)
  | .not none, .not (some _) => isFalse (by simp)
  | .not (some _), .not none => isFalse (by simp)
  | .has _, .and _ => isFalse (by simp)
  | .has _, .or _ => isFalse (by simp)
  | .has _, .not _ => isFalse (by simp)
  | .and _, .has _ => isFalse (by simp)
  | .and _, .or _ => isFalse (by simp)
  | .and _, .not _ => isFalse (by simp)
  | .or _, .has _ => isFalse (by simp)
  | .or _, .and _ => isFalse (by simp)
  | .or _, .not _ => isFalse (by simp)
  | .not _, .has _ => isFalse (by simp)
  | .not _, .and _ => isFalse (by simp)
  | .not _, .or _ => isFalse (by simp)

def decEqAll : (left right : List Condition) → Decidable (left = right)
  | [], [] => isTrue rfl
  | leftHead :: leftTail, rightHead :: rightTail =>
      match decEq leftHead rightHead, decEqAll leftTail rightTail with
      | isTrue headEquality, isTrue tailEquality =>
          isTrue (by rw [headEquality, tailEquality])
      | isFalse different, _ => isFalse (by simp [different])
      | _, isFalse different => isFalse (by simp [different])
  | [], _ :: _ => isFalse (by simp)
  | _ :: _, [] => isFalse (by simp)

end

instance : DecidableEq Condition := decEq

theorem allHold_eq_all (tags : TagSet) (operands : List Condition) :
    allHold tags operands = operands.all (holds tags) := by
  induction operands with
  | nil => rfl
  | cons operand rest inductionHypothesis =>
      simp [allHold, inductionHypothesis]

theorem someHolds_eq_any (tags : TagSet) (operands : List Condition) :
    someHolds tags operands = operands.any (holds tags) := by
  induction operands with
  | nil => rfl
  | cons operand rest inductionHypothesis =>
      simp [someHolds, inductionHypothesis]

theorem renderEach_eq_map (operands : List Condition) :
    renderEach operands = operands.map render := by
  induction operands with
  | nil => rfl
  | cons operand rest inductionHypothesis =>
      simp [renderEach, inductionHypothesis]

theorem leavesOfAll_eq_flatMap (operands : List Condition) :
    leavesOfAll operands = operands.flatMap leaves := by
  induction operands with
  | nil => rfl
  | cons operand rest inductionHypothesis =>
      simp [leavesOfAll, inductionHypothesis]

end Condition

end TagSelection
