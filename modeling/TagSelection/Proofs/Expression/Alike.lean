import Mathlib.Data.List.Forall2
import TagSelection.Proofs.Expression.Run

/-!
# Scans side by side

Scans of two texts with different layout go out of step: their columns differ, and the word
of one may have blanks in front that the other word has not.  States that differ in nothing
else are alike.  Whatever ends a word looks at the trimmed word alone, so a character leads
states that are alike to states that are alike, or both of them to faults of one kind.
-/

namespace TagSelection

namespace Expression

inductive FaultKind where
  | missingOperator
  | unknownOperator
  | negationOf (count : Nat)
  | malformed
  deriving DecidableEq, Repr

/-- The kind of a fault.  Columns and names do not count, the number of operands of a
negation does. -/
def Fault.kind : Fault → FaultKind
  | .missingOperator _ => .missingOperator
  | .call (.unknownOperator _) => .unknownOperator
  | .call (.negationOf count) => .negationOf count
  | .separatorOutside _ | .unmatchedClose _ | .noOperands _ _ | .neverClosed _ _
  | .conditionCount _ => .malformed

/-- Two attempts both give results, which are related, or both fail with faults of one
kind. -/
inductive EndAlike {First Second : Type} (related : First → Second → Prop) :
    Except Fault First → Except Fault Second → Prop
  | ok {first : First} {second : Second} :
      related first second →
      EndAlike related (.ok first) (.ok second)
  | error {fault other : Fault} :
      fault.kind = other.kind →
      EndAlike related (.error fault) (.error other)

namespace EndAlike

variable {Result Other : Type}

theorem same {related : Result → Result → Prop} (reflexive : ∀ result, related result result)
    (attempt : Except Fault Result) : EndAlike related attempt attempt := by
  cases attempt with
  | error fault => exact error rfl
  | ok result => exact ok (reflexive result)

theorem refl (attempt : Except Fault Result) : EndAlike Eq attempt attempt :=
  same (fun _ => rfl) attempt

theorem symm {first second : Except Fault Result} (alike : EndAlike Eq first second) :
    EndAlike Eq second first := by
  cases alike with
  | ok same => exact ok same.symm
  | error sameKind => exact error sameKind.symm

theorem trans {first second third : Except Fault Result} (alike : EndAlike Eq first second)
    (alikeNext : EndAlike Eq second third) : EndAlike Eq first third := by
  cases alike with
  | ok same =>
      cases alikeNext with
      | ok sameNext => exact ok (same.trans sameNext)
  | error sameKind =>
      cases alikeNext with
      | error sameKindNext => exact error (sameKind.trans sameKindNext)

theorem bind {First Second : Type} {related : First → Second → Prop}
    {relatedNext : Result → Other → Prop} {first : Except Fault First}
    {second : Except Fault Second} {firstNext : First → Except Fault Result}
    {secondNext : Second → Except Fault Other} (alike : EndAlike related first second)
    (alikeNext : ∀ result other, related result other →
      EndAlike relatedNext (firstNext result) (secondNext other)) :
    EndAlike relatedNext (first >>= firstNext) (second >>= secondNext) := by
  cases alike with
  | ok isRelated => exact alikeNext _ _ isRelated
  | error sameKind => exact error sameKind

theorem followed {First Second : Type} {related : First → Second → Prop}
    {first : Except Fault First} {second : Except Fault Second}
    {next : Second → Except Fault Second} (alike : EndAlike related first second)
    (keeps : ∀ result other, second = .ok other → related result other →
      ∃ last, next other = .ok last ∧ related result last) :
    EndAlike related first (second >>= next) := by
  cases alike with
  | error sameKind => exact error sameKind
  | ok isRelated =>
      obtain ⟨last, reached, stillRelated⟩ := keeps _ _ rfl isRelated
      change EndAlike related _ (next _)
      rw [reached]
      exact ok stillRelated

end EndAlike

/-! ## States that are alike -/

/-- Two calls of the same operator with the same operands so far. -/
structure OpenCall.Alike (call other : OpenCall) : Prop where
  operator_eq : call.operator = other.operator
  operands_eq : call.operands = other.operands

namespace Scan

/-- Two states that differ in their words and in the columns of their open calls at
most. -/
structure AlikeButWord (scan other : Scan) : Prop where
  calls : List.Forall₂ OpenCall.Alike scan.calls other.calls
  results_eq : scan.results = other.results

/-- Two states that differ in blanks in front of their words and in the columns of their
open calls at most. -/
structure Alike (scan other : Scan) : Prop extends AlikeButWord scan other where
  word_eq : scan.word.toList.dropWhile Text.isBlank = other.word.toList.dropWhile Text.isBlank

theorem Alike.trimmed {scan other : Scan} (alike : scan.Alike other) :
    Text.trimChars scan.word.toList = Text.trimChars other.word.toList :=
  congrArg Text.trimEnd alike.word_eq

theorem alike_of_no_word {calls otherCalls : List OpenCall} {results : Array Condition}
    (alike : List.Forall₂ OpenCall.Alike calls otherCalls) :
    Alike { calls, results } { calls := otherCalls, results } where
  calls := alike
  results_eq := rfl
  word_eq := rfl

end Scan

theorem OpenCall.Alike.refl (call : OpenCall) : call.Alike call := ⟨rfl, rfl⟩

theorem alikeCalls_refl (calls : List OpenCall) : List.Forall₂ OpenCall.Alike calls calls :=
  List.forall₂_same.2 fun call _ => OpenCall.Alike.refl call

theorem Scan.Alike.refl (scan : Scan) : scan.Alike scan where
  calls := alikeCalls_refl scan.calls
  results_eq := rfl
  word_eq := rfl

theorem isBlankText_eq_of_trimmed {word other : String}
    (trimmed :
      (Text.trimChars word.toList).map Char.toLower =
        (Text.trimChars other.toList).map Char.toLower) :
    Text.isBlankText word = Text.isBlankText other := by
  rw [Text.isBlankText, Text.isBlankText, Bool.eq_iff_iff, ← Text.trimChars_eq_nil_iff,
    ← Text.trimChars_eq_nil_iff, ← List.map_eq_nil_iff, trimmed, List.map_eq_nil_iff]

theorem tagOf_eq_of_trimmed {word other : String}
    (trimmed : Text.trimChars word.toList = Text.trimChars other.toList) :
    tagOf word = tagOf other := by
  have sameBlank := isBlankText_eq_of_trimmed (congrArg (List.map Char.toLower) trimmed)
  have sameTag : Text.trim word = Text.trim other := congrArg String.ofList trimmed
  rw [tagOf, tagOf, sameBlank, sameTag]

/-- Whether a word is the name of an operator, and of which, is decided by the trimmed word
up to the case of ASCII letters. -/
theorem ofName_endAlike {word other : String}
    (trimmed :
      (Text.trimChars word.toList).map Char.toLower =
        (Text.trimChars other.toList).map Char.toLower) :
    EndAlike Eq ((Operator.ofName word).mapError .call)
      ((Operator.ofName other).mapError .call) := by
  have sameName : Operator.named? (Text.trim word) = Operator.named? (Text.trim other) := by
    rw [Operator.named?, Operator.named?, Text.toList_trim, Text.toList_trim, trimmed]
  rw [Operator.ofName, Operator.ofName, sameName]
  cases Operator.named? (Text.trim other) with
  | none => exact EndAlike.error rfl
  | some operator => exact EndAlike.refl _

theorem OpenCall.Alike.add {call other : OpenCall} (alike : call.Alike other)
    (operand : Option Condition) : (call.add operand).Alike (other.add operand) := by
  cases operand with
  | none => exact alike
  | some operand => exact ⟨alike.operator_eq, by simp [OpenCall.add, alike.operands_eq]⟩

theorem OpenCall.Alike.reduce {call other : OpenCall} (alike : call.Alike other) :
    EndAlike Eq call.reduce other.reduce := by
  rw [OpenCall.reduce, OpenCall.reduce, alike.operator_eq, alike.operands_eq]
  split
  · exact EndAlike.error rfl
  · exact EndAlike.refl _

namespace Scan

variable {scan other : Scan}

theorem AlikeButWord.openCall (alike : scan.AlikeButWord other)
    (trimmed :
      (Text.trimChars scan.word.toList).map Char.toLower =
        (Text.trimChars other.word.toList).map Char.toLower)
    (column otherColumn : Nat) :
    EndAlike Alike (scan.openCall column) (other.openCall otherColumn) := by
  rw [Scan.openCall, Scan.openCall, isBlankText_eq_of_trimmed trimmed]
  split
  · exact EndAlike.error rfl
  · refine EndAlike.bind (ofName_endAlike trimmed) ?_
    rintro operator _ rfl
    refine EndAlike.ok ⟨⟨List.Forall₂.cons ⟨rfl, rfl⟩ alike.calls, alike.results_eq⟩, rfl⟩

theorem AlikeButWord.endOperand (alike : scan.AlikeButWord other)
    (trimmed : Text.trimChars scan.word.toList = Text.trimChars other.word.toList)
    (column otherColumn : Nat) :
    EndAlike Alike (scan.endOperand column) (other.endOperand otherColumn) := by
  obtain ⟨word, calls, results⟩ := scan
  obtain ⟨otherWord, otherCalls, otherResults⟩ := other
  obtain ⟨alikeCalls, rfl⟩ := alike
  have sameTag : tagOf word = tagOf otherWord := tagOf_eq_of_trimmed trimmed
  cases alikeCalls with
  | nil => exact EndAlike.error rfl
  | cons alikeCall alikeOuter =>
      refine EndAlike.ok (alike_of_no_word (List.Forall₂.cons ?_ alikeOuter))
      rw [sameTag]
      exact alikeCall.add (tagOf otherWord)

theorem complete_alike {outer otherOuter : List OpenCall}
    (alike : List.Forall₂ OpenCall.Alike outer otherOuter) (results : Array Condition)
    (condition : Condition) :
    (complete outer results condition).Alike (complete otherOuter results condition) := by
  cases alike with
  | nil => exact Alike.refl _
  | cons alikeParent alikeRest =>
      exact alike_of_no_word (List.Forall₂.cons (alikeParent.add _) alikeRest)

theorem AlikeButWord.closeCall (alike : scan.AlikeButWord other)
    (trimmed : Text.trimChars scan.word.toList = Text.trimChars other.word.toList)
    (column otherColumn : Nat) :
    EndAlike Alike (scan.closeCall column) (other.closeCall otherColumn) := by
  obtain ⟨word, calls, results⟩ := scan
  obtain ⟨otherWord, otherCalls, otherResults⟩ := other
  obtain ⟨alikeCalls, rfl⟩ := alike
  have sameTag : tagOf word = tagOf otherWord := tagOf_eq_of_trimmed trimmed
  cases alikeCalls with
  | nil => exact EndAlike.error rfl
  | @cons call otherCall outer otherOuter alikeCall alikeOuter =>
      -- Both calls get the same last operand; their columns show in faults only.
      have reduced :
          EndAlike Eq (call.add (tagOf word)).reduce
            (otherCall.add (tagOf otherWord)).reduce := by
        rw [sameTag]
        exact (alikeCall.add (tagOf otherWord)).reduce
      refine EndAlike.bind reduced ?_
      rintro condition _ rfl
      exact EndAlike.ok (complete_alike alikeOuter results condition)

/-- A delimiter does not see more of a word than its trimmed characters. -/
theorem AlikeButWord.delimiter (alike : scan.AlikeButWord other)
    (trimmed : Text.trimChars scan.word.toList = Text.trimChars other.word.toList) {c : Char}
    (delimiter : isDelimiter c = true) (column otherColumn : Nat) :
    EndAlike Alike (scan.step column c) (other.step otherColumn c) := by
  rcases step_cases scan column c with
    ⟨rfl, _⟩ | ⟨rfl, _⟩ | ⟨separates, ends⟩ | ⟨plain, _⟩
  · exact alike.openCall (congrArg (List.map Char.toLower) trimmed) column otherColumn
  · exact alike.closeCall trimmed column otherColumn
  · rw [ends, step_separator separates]
    exact alike.endOperand trimmed column otherColumn
  · rw [plain] at delimiter
    cases delimiter

theorem Alike.push (alike : scan.Alike other) (c : Char) :
    Alike { scan with word := scan.word.push c } { other with word := other.word.push c } where
  calls := alike.calls
  results_eq := alike.results_eq
  word_eq := by
    simp only [String.toList_push, List.dropWhile_append, alike.word_eq]

theorem Alike.step (alike : scan.Alike other) (c : Char) (column otherColumn : Nat) :
    EndAlike Alike (scan.step column c) (other.step otherColumn c) := by
  cases delimiter : isDelimiter c with
  | true => exact alike.toAlikeButWord.delimiter alike.trimmed delimiter column otherColumn
  | false =>
      rw [step_of_not_delimiter delimiter, step_of_not_delimiter delimiter]
      exact EndAlike.ok (alike.push c)

/-- The same text leads states that are alike to ends that are alike. -/
theorem Alike.run (alike : scan.Alike other) (text : List Char) (column otherColumn : Nat) :
    EndAlike Alike (scan.run column text) (other.run otherColumn text) := by
  induction text generalizing scan other column otherColumn with
  | nil => exact EndAlike.ok alike
  | cons c rest inductionHypothesis =>
      rw [run_cons, run_cons]
      refine EndAlike.bind (alike.step c column otherColumn) ?_
      intro next otherNext alikeNext
      exact inductionHypothesis alikeNext (column + 1) (otherColumn + 1)

theorem AlikeButWord.conclude (alike : scan.AlikeButWord other)
    (trimmed : Text.trimChars scan.word.toList = Text.trimChars other.word.toList) :
    EndAlike Eq scan.conclude other.conclude := by
  obtain ⟨word, calls, results⟩ := scan
  obtain ⟨otherWord, otherCalls, otherResults⟩ := other
  obtain ⟨alikeCalls, rfl⟩ := alike
  have sameTag : tagOf word = tagOf otherWord := tagOf_eq_of_trimmed trimmed
  cases alikeCalls with
  | cons alikeCall alikeOuter => exact EndAlike.error rfl
  | nil =>
      rw [Scan.conclude, Scan.conclude, sameTag]
      exact EndAlike.refl _

end Scan

end Expression

end TagSelection
