import Mathlib.Data.List.Basic
import TagSelection.Proofs.Condition.Canonical

/-!
# Conditions with gaps

A condition that was put together by hand can have calls without operands in it.  Such
a call is printed as a name with `()` behind it, and no scan gets past these two
characters, whatever has come before them.  So a condition with clean tags is either
read back from its printed form, or it has a gap somewhere and its printed form is
refused; it is never read as another condition.
-/

namespace TagSelection

namespace Condition

/-- The part is the condition itself or stands somewhere in it. -/
inductive Within (part : Condition) : Condition → Prop
  | whole : Within part part
  | and {operand : Condition} {operands : List Condition} :
      operand ∈ operands →
      Within part operand →
      Within part (.and operands)
  | or {operand : Condition} {operands : List Condition} :
      operand ∈ operands →
      Within part operand →
      Within part (.or operands)
  | not {operand : Condition} :
      Within part operand →
      Within part (.not (some operand))

/-- The call of an operator without operands. -/
inductive IsGap : Condition → Prop
  | and : IsGap (.and [])
  | or : IsGap (.or [])
  | not : IsGap (.not none)

theorem Complete.no_gap {condition part : Condition} (complete : condition.Complete)
    (within : part.Within condition) : ¬ part.IsGap := by
  induction within with
  | whole =>
      intro gap
      cases gap with
      | and =>
          cases complete with
          | and nonempty _ => exact nonempty rfl
      | or =>
          cases complete with
          | or nonempty _ => exact nonempty rfl
      | not => cases complete
  | and among _ inductionHypothesis =>
      cases complete with
      | and _ completeEach => exact inductionHypothesis (completeEach _ among)
  | or among _ inductionHypothesis =>
      cases complete with
      | or _ completeEach => exact inductionHypothesis (completeEach _ among)
  | not _ inductionHypothesis =>
      cases complete with
      | not completeOperand => exact inductionHypothesis completeOperand

theorem complete_of_no_gap {condition : Condition}
    (noGap : ∀ part : Condition, part.Within condition → ¬ part.IsGap) : condition.Complete := by
  induction condition using Condition.induction with
  | has tag =>
      exact Complete.has tag
  | and operands inductionHypothesis =>
      have nonempty : operands ≠ [] := by
        rintro rfl
        exact noGap _ Within.whole IsGap.and
      refine Complete.and nonempty fun operand among => ?_
      -- A gap in an operand is a gap of the whole condition.
      exact inductionHypothesis operand among fun part within =>
        noGap part (Within.and among within)
  | or operands inductionHypothesis =>
      have nonempty : operands ≠ [] := by
        rintro rfl
        exact noGap _ Within.whole IsGap.or
      refine Complete.or nonempty fun operand among => ?_
      exact inductionHypothesis operand among fun part within =>
        noGap part (Within.or among within)
  | negation operand inductionHypothesis =>
      exact Complete.not (inductionHypothesis fun part within =>
        noGap part (Within.not within))
  | missing =>
      exact absurd IsGap.not (noGap _ Within.whole)

theorem complete_iff_no_gap (condition : Condition) :
    condition.Complete ↔ ∀ part : Condition, part.Within condition → ¬ part.IsGap :=
  ⟨fun complete _ within => complete.no_gap within, complete_of_no_gap⟩

theorem render_infix_renderEach {operand : Condition} {operands : List Condition}
    (among : operand ∈ operands) :
    operand.render.toList <:+: (", ".intercalate (renderEach operands)).toList := by
  induction operands with
  | nil => cases among
  | cons first rest inductionHypothesis =>
      cases rest with
      | nil =>
          rw [List.mem_singleton] at among
          subst among
          simp [renderEach]
      | cons second others =>
          have joined :
              (", ".intercalate (renderEach (first :: second :: others))).toList =
                first.render.toList ++ (", ".toList ++
                  (", ".intercalate (renderEach (second :: others))).toList) := by
            simp [renderEach]
          rw [joined]
          -- The first operand starts the joined text, the later ones stand in its end.
          rcases List.mem_cons.1 among with rfl | later
          · exact (List.prefix_append _ _).isInfix
          · have inRest := inductionHypothesis later
            have inTail := inRest.trans (List.suffix_append ", ".toList _).isInfix
            exact inTail.trans (List.suffix_append first.render.toList _).isInfix

theorem infix_call (name inner : List Char) :
    inner <:+: name ++ '(' :: (inner ++ [')']) :=
  ⟨name ++ ['('], [')'], by simp⟩

theorem render_infix_listCall (name : List Char) {operand : Condition}
    {operands : List Condition} (among : operand ∈ operands) :
    operand.render.toList <:+:
      name ++ '(' :: ((", ".intercalate (renderEach operands)).toList ++ [')']) :=
  (render_infix_renderEach among).trans (infix_call name _)

/-- What stands in a condition is printed as a part of its text. -/
theorem Within.render_infix {part condition : Condition}
    (within : part.Within condition) :
    part.render.toList <:+: condition.render.toList := by
  induction within with
  | whole =>
      exact List.infix_rfl
  | and among _ inductionHypothesis =>
      have inCall := render_infix_listCall "and".toList among
      exact inductionHypothesis.trans (by simpa [render] using inCall)
  | or among _ inductionHypothesis =>
      have inCall := render_infix_listCall "or".toList among
      exact inductionHypothesis.trans (by simpa [render] using inCall)
  | @not operand _ inductionHypothesis =>
      have inCall := infix_call "not".toList operand.render.toList
      exact inductionHypothesis.trans (by simpa [render] using inCall)

theorem IsGap.emptyCall_suffix {condition : Condition} (gap : condition.IsGap) :
    ['(', ')'] <:+ condition.render.toList := by
  cases gap <;> decide

end Condition

namespace Expression

theorem OpenCall.reduce_without_operands (operator : Operator) (column : Nat) :
    ∃ fault, (OpenCall.mk operator column #[]).reduce = .error fault := by
  cases operator <;> exact ⟨_, rfl⟩

theorem Scan.run_emptyCall (scan : Scan) (column : Nat) (rest : List Char) :
    ∃ fault, scan.run column ('(' :: ')' :: rest) = .error fault := by
  rw [run_cons]
  cases opened : scan.step column '(' with
  | error fault => exact ⟨fault, rfl⟩
  | ok next =>
      change scan.openCall column = .ok next at opened
      unfold openCall at opened
      split at opened
      · cases opened
      · obtain ⟨operator, _, equality⟩ := (bind_eq_ok_iff _ _ _).1 opened
        cases equality
        obtain ⟨fault, refused⟩ := OpenCall.reduce_without_operands operator column
        refine ⟨fault, ?_⟩
        change ((OpenCall.mk operator column #[]).reduce >>= fun condition =>
          Except.ok (complete scan.calls scan.results condition)) >>= _ = _
        rw [refused]
        rfl

/-- No scan gets past an empty call. -/
theorem Scan.run_of_emptyCall_infix {text : List Char} (empty : ['(', ')'] <:+: text)
    (scan : Scan) (column : Nat) : ∃ fault, scan.run column text = .error fault := by
  obtain ⟨before, after, rfl⟩ := empty
  rw [List.append_assoc, run_append]
  cases scan.run column before with
  | error fault => exact ⟨fault, rfl⟩
  | ok next => exact next.run_emptyCall _ after

theorem parse_of_emptyCall_infix {expression : String}
    (empty : ['(', ')'] <:+: expression.toList) :
    ∃ fault, parse expression = .error fault := by
  have notBlank : Text.isBlankText expression = false := by
    rw [Text.isBlankText, List.all_eq_false]
    exact ⟨'(', empty.subset (by decide), by decide⟩
  obtain ⟨fault, refused⟩ := Scan.run_of_emptyCall_infix empty {} 1
  refine ⟨fault, ?_⟩
  rw [parse_of_not_blank notBlank, scan, refused]
  rfl

theorem parse_render_of_gap {condition part : Condition}
    (within : part.Within condition) (gap : part.IsGap) :
    ∃ fault, parse condition.render = .error fault :=
  parse_of_emptyCall_infix (gap.emptyCall_suffix.isInfix.trans within.render_infix)

theorem wellFormed_of_parse_render {condition : Condition}
    (readBack : parse condition.render = .ok condition) : condition.WellFormed := by
  cases blank : Text.isBlankText condition.render with
  | false => exact wellFormed_of_parse blank readBack
  | true =>
      -- A blank text is read as the conjunction of nothing, whose own text is not blank.
      rw [parse_of_blank blank] at readBack
      cases readBack
      have notBlank : Text.isBlankText Condition.unrestricted.render = false := by decide
      rw [notBlank] at blank
      cases blank

/-- A condition is read back from its printed form exactly if its tags are clean and no
operator in it lacks operands; with clean tags, the printed form is refused otherwise. -/
theorem read_back_iff_clean_without_gaps (condition : Condition) :
    (parse condition.render = .ok condition ↔
        (∀ tag ∈ condition.leaves, CleanTag tag) ∧
          ∀ part : Condition, part.Within condition → ¬ part.IsGap) ∧
      ((∀ tag ∈ condition.leaves, CleanTag tag) →
        (parse condition.render = .ok condition ∨
            ∃ fault, parse condition.render = .error fault) ∧
          ((∃ fault, parse condition.render = .error fault) ↔
            ∃ part : Condition, part.Within condition ∧ part.IsGap)) := by
  have readBack_iff :
      parse condition.render = .ok condition ↔
        (∀ tag ∈ condition.leaves, CleanTag tag) ∧
          ∀ part : Condition, part.Within condition → ¬ part.IsGap := by
    rw [← Condition.complete_iff_no_gap]
    constructor
    · intro readBack
      have wellFormed := wellFormed_of_parse_render readBack
      exact ⟨wellFormed.cleanLeaves, wellFormed.complete⟩
    · rintro ⟨clean, complete⟩
      exact parse_render ⟨clean, complete⟩
  refine ⟨readBack_iff, fun clean => ?_⟩
  -- With clean tags a gap is the only reason for a refusal, so there is no third case.
  by_cases gap : ∃ part : Condition, part.Within condition ∧ part.IsGap
  · obtain ⟨part, within, isGap⟩ := gap
    have refused := parse_render_of_gap within isGap
    exact ⟨Or.inr refused, fun _ => ⟨part, within, isGap⟩, fun _ => refused⟩
  · have noGap : ∀ part : Condition, part.Within condition → ¬ part.IsGap :=
      fun part within isGap => gap ⟨part, within, isGap⟩
    have readBack := readBack_iff.2 ⟨clean, noGap⟩
    refine ⟨Or.inl readBack, ?_, fun found => absurd found gap⟩
    rintro ⟨fault, refused⟩
    rw [readBack] at refused
    cases refused

theorem read_back_iff_clean_without_gaps_nested :
    let condition : Condition :=
      .or [.has "slow test", .and [.has "or", .not none], .has "b"]
    condition.render = "or(slow test, and(or, not()), b)" ∧
      (∀ tag ∈ condition.leaves, CleanTag tag) ∧
      (Condition.not none).Within condition ∧
      ∃ fault, parse condition.render = .error fault := by
  have clean :
      ∀ tag ∈
        Condition.leaves (.or [.has "slow test", .and [.has "or", .not none], .has "b"]),
        CleanTag tag := by
    decide
  have within :
      (Condition.not none).Within
        (.or [.has "slow test", .and [.has "or", .not none], .has "b"]) :=
    .or (.tail _ (.head _)) (.and (.tail _ (.head _)) .whole)
  have refused :=
    ((read_back_iff_clean_without_gaps _).2 clean).2.2 ⟨_, within, Condition.IsGap.not⟩
  exact ⟨by decide, clean, within, refused⟩

end Expression

end TagSelection
