import TagSelection.Proofs.Expression.Grammar

/-!
# Well-formed conditions

Not every condition can be written as an expression.  A tag that is written down has no
blanks at its ends and no delimiters, and every operator that is written down has the
operands that it needs.  The grammar derives conditions of this form only.
-/

namespace TagSelection

/-- A tag that can be written down: it is a word that is not empty and that trimming
does not change. -/
structure CleanTag (tag : Tag) : Prop where
  nonempty : tag ≠ ""
  trimmed : Text.trim tag = tag
  isWord : Expression.IsWord tag.toList

instance (tag : Tag) : Decidable (CleanTag tag) :=
  decidable_of_iff
    (tag ≠ "" ∧ Text.trim tag = tag ∧ Expression.IsWord tag.toList)
    ⟨fun ⟨nonempty, trimmed, isWord⟩ => ⟨nonempty, trimmed, isWord⟩,
      fun clean => ⟨clean.nonempty, clean.trimmed, clean.isWord⟩⟩

namespace Condition

mutual

/-- A property of all conditions follows from its passing from operands to conditions. -/
@[elab_as_elim]
theorem induction {motive : Condition → Prop} (has : ∀ tag, motive (.has tag))
    (and : ∀ operands, (∀ operand ∈ operands, motive operand) → motive (.and operands))
    (or : ∀ operands, (∀ operand ∈ operands, motive operand) → motive (.or operands))
    (negation : ∀ operand, motive operand → motive (.not (some operand)))
    (missing : motive (.not none)) : ∀ condition, motive condition
  | .has tag => has tag
  | .and operands =>
      and operands (inductionOfAll has and or negation missing operands)
  | .or operands =>
      or operands (inductionOfAll has and or negation missing operands)
  | .not (some operand) =>
      negation operand (induction has and or negation missing operand)
  | .not none => missing

theorem inductionOfAll {motive : Condition → Prop} (has : ∀ tag, motive (.has tag))
    (and : ∀ operands, (∀ operand ∈ operands, motive operand) → motive (.and operands))
    (or : ∀ operands, (∀ operand ∈ operands, motive operand) → motive (.or operands))
    (negation : ∀ operand, motive operand → motive (.not (some operand)))
    (missing : motive (.not none)) :
    ∀ operands : List Condition, ∀ operand ∈ operands, motive operand
  | [], operand, member => by
      cases member
  | first :: rest, operand, member => by
      have firstHolds := induction has and or negation missing first
      rcases List.mem_cons.1 member with isFirst | later
      · rwa [isFirst]
      · exact inductionOfAll has and or negation missing rest operand later

end

/-- Conjunctions and disjunctions have operands, and negations are not without one, at
every depth. -/
inductive Complete : Condition → Prop
  | has (tag : Tag) : Complete (.has tag)
  | and {operands : List Condition} :
      operands ≠ [] →
      (∀ operand ∈ operands, Complete operand) →
      Complete (.and operands)
  | or {operands : List Condition} :
      operands ≠ [] →
      (∀ operand ∈ operands, Complete operand) →
      Complete (.or operands)
  | not {operand : Condition} :
      Complete operand →
      Complete (.not (some operand))

/-- A condition that can be written down. -/
structure WellFormed (condition : Condition) : Prop where
  cleanLeaves : ∀ tag ∈ condition.leaves, CleanTag tag
  complete : condition.Complete

theorem WellFormed.not_unrestricted {condition : Condition}
    (wellFormed : condition.WellFormed) : condition.isUnrestricted = false := by
  cases wellFormed.complete with
  | has | or | not => rfl
  | @and operands nonempty _ =>
      cases operands with
      | nil => exact absurd rfl nonempty
      | cons => rfl

theorem mem_leavesOfAll {operands : List Condition} {tag : Tag} :
    tag ∈ leavesOfAll operands ↔ ∃ operand ∈ operands, tag ∈ operand.leaves := by
  rw [leavesOfAll_eq_flatMap, List.mem_flatMap]

theorem cleanLeaves_of_operands {operands : List Condition}
    (wellFormed : ∀ operand ∈ operands, operand.WellFormed) :
    ∀ tag ∈ leavesOfAll operands, CleanTag tag := by
  intro tag member
  obtain ⟨operand, among, leaf⟩ := mem_leavesOfAll.1 member
  exact (wellFormed operand among).cleanLeaves tag leaf

theorem forall_leaves_of_mem {property : Tag → Prop} {operands : List Condition}
    (all : ∀ tag ∈ leavesOfAll operands, property tag) {operand : Condition}
    (among : operand ∈ operands) : ∀ tag ∈ operand.leaves, property tag :=
  fun tag isLeaf => all tag (mem_leavesOfAll.2 ⟨operand, among, isLeaf⟩)

end Condition

namespace Expression

open Condition

theorem Composes.wellFormed {operator : Operator} {operands : List Condition}
    {condition : Condition} (composes : Composes operator operands condition)
    (wellFormed : ∀ operand ∈ operands, operand.WellFormed) : condition.WellFormed := by
  have leaves := cleanLeaves_of_operands wellFormed
  cases composes with
  | and operand rest =>
      exact ⟨leaves, Complete.and (by simp) fun other among =>
        (wellFormed other among).complete⟩
  | or operand rest =>
      exact ⟨leaves, Complete.or (by simp) fun other among =>
        (wellFormed other among).complete⟩
  | not operand =>
      have inner := wellFormed operand (by simp)
      exact ⟨inner.cleanLeaves, Complete.not inner.complete⟩

theorem cleanTag_of_word {word : List Char} (isWord : IsWord word)
    (notBlank : word.all Text.isBlank = false) :
    CleanTag (String.ofList (Text.trimChars word)) where
  nonempty := by
    rw [Ne, String.ofList_eq_empty_iff, Text.trimChars_eq_nil_iff, notBlank]
    exact Bool.false_ne_true
  trimmed := Text.trim_trimmed word
  isWord := by
    rw [String.toList_ofList]
    exact isWord.trimChars

theorem wellFormed_of_word {word : List Char} (isWord : IsWord word) :
    ∀ operand ∈ wordOperands word, operand.WellFormed := by
  intro operand member
  cases blank : word.all Text.isBlank with
  | true =>
      rw [wordOperands_of_blank blank] at member
      cases member
  | false =>
      rw [wordOperands_of_not_blank blank, List.mem_singleton] at member
      subst member
      refine ⟨?_, Complete.has _⟩
      intro tag leaf
      rw [leaves, List.mem_singleton] at leaf
      subst leaf
      exact cleanTag_of_word isWord blank

theorem Body.wellFormed {text : List Char} {operands : List Condition}
    (body : Body text operands) : ∀ operand ∈ operands, operand.WellFormed := by
  induction body with
  | last isWord =>
      exact wellFormed_of_word isWord
  | separated isWord _ _ inductionHypothesis =>
      intro operand member
      rcases List.mem_append.1 member with fromWord | later
      · exact wellFormed_of_word isWord operand fromWord
      · exact inductionHypothesis operand later
  | call _ _ _ composes _ innerHypothesis restHypothesis =>
      intro operand member
      rcases List.mem_cons.1 member with rfl | later
      · exact composes.wellFormed innerHypothesis
      · exact restHypothesis operand later

/-- An expression describes well-formed conditions only. -/
theorem Describes.wellFormed {text : List Char} {condition : Condition}
    (describes : Describes text condition) : condition.WellFormed := by
  cases describes with
  | tag isWord notBlank =>
      apply wellFormed_of_word isWord
      rw [wordOperands_of_not_blank notBlank]
      exact List.mem_singleton_self _
  | call isCall _ =>
      cases isCall with
      | mk _ _ body composes => exact composes.wellFormed body.wellFormed

end Expression

end TagSelection
