import TagSelection.CommandLine
import TagSelection.Proofs.Condition.WellFormed
import TagSelection.Proofs.Expression.Separation

/-!
# The canonical form

A well-formed condition is printed as a term of the documented form, with one
separator and one blank between operands, and the scan reads that text as the same
condition.  So whatever expression a condition was read from, checking its canonical
form shows the same lines as checking the expression.
-/

namespace TagSelection

namespace Expression

theorem Term.cons_blank {c : Char} (blank : Text.isBlank c = true)
    (notDelimiter : isDelimiter c = false) {text : List Char}
    {operands : List Condition} (term : Term text operands) :
    Term (c :: text) operands := by
  cases term with
  | word isWord =>
      rw [← wordOperands_cons_blank blank]
      exact Term.word (isWord_cons.2 ⟨notDelimiter, isWord⟩)
  | call isWord names inner composes blanks =>
      exact Term.call (isWord_cons.2 ⟨notDelimiter, isWord⟩) (names.cons_blank blank)
        inner composes blanks

theorem TermList.cons_blank {c : Char} (blank : Text.isBlank c = true)
    (notDelimiter : isDelimiter c = false) {text : List Char}
    {operands : List Condition} (list : TermList text operands) :
    TermList (c :: text) operands := by
  cases list with
  | last term => exact TermList.last (term.cons_blank blank notDelimiter)
  | more term separates rest =>
      exact TermList.more (term.cons_blank blank notDelimiter) separates rest

theorem CleanTag.term {tag : Tag} (clean : CleanTag tag) :
    Term tag.toList [.has tag] := by
  have sameCharacters : Text.trimChars tag.toList = tag.toList := by
    rw [← Text.toList_trim, clean.trimmed]
  have notBlank : tag.toList.all Text.isBlank = false := by
    rw [← Bool.not_eq_true, ← Text.trimChars_eq_nil_iff, sameCharacters]
    simpa using clean.nonempty
  have operand := wordOperands_of_not_blank notBlank
  rw [sameCharacters, String.ofList_toList] at operand
  rw [← operand]
  exact Term.word clean.isWord

theorem termList_renderEach {operands : List Condition} (nonempty : operands ≠ [])
    (terms : ∀ operand ∈ operands, Term operand.render.toList [operand]) :
    TermList (", ".intercalate (Condition.renderEach operands)).toList operands := by
  induction operands with
  | nil => exact absurd rfl nonempty
  | cons first rest inductionHypothesis =>
      have firstTerm := terms first (List.mem_cons_self ..)
      cases rest with
      | nil =>
          rw [Condition.renderEach, Condition.renderEach, String.intercalate_singleton]
          exact TermList.last firstTerm
      | cons second others =>
          have list :=
            inductionHypothesis (by simp) fun operand later =>
              terms operand (List.mem_cons_of_mem first later)
          -- The blank behind the comma belongs to the next term.
          have behindComma := list.cons_blank (c := ' ') (by decide) (by decide)
          have joined :=
            @TermList.more _ _ ',' _ _ firstTerm (by decide) behindComma
          simpa [Condition.renderEach] using joined

theorem term_call {operator : Operator} {inner : List Char} {operands : List Condition}
    {condition : Condition} (list : TermList inner operands)
    (composes : Composes operator operands condition) :
    Term (operator.name.toList ++ '(' :: (inner ++ [')'])) [condition] :=
  Term.call (isWord_name operator) (names_name operator) list composes isBlankWord_nil

theorem term_render {condition : Condition} (complete : condition.Complete)
    (clean : ∀ tag ∈ condition.leaves, CleanTag tag) :
    Term condition.render.toList [condition] := by
  induction complete with
  | has tag =>
      exact CleanTag.term (clean tag (List.mem_singleton_self tag))
  | @and operands nonempty _ inductionHypothesis =>
      have list :=
        termList_renderEach nonempty fun operand among =>
          inductionHypothesis operand among (Condition.forall_leaves_of_mem clean among)
      obtain ⟨first, rest, rfl⟩ := List.exists_cons_of_ne_nil nonempty
      simpa [Condition.render, Operator.name] using term_call list (Composes.and first rest)
  | @or operands nonempty _ inductionHypothesis =>
      have list :=
        termList_renderEach nonempty fun operand among =>
          inductionHypothesis operand among (Condition.forall_leaves_of_mem clean among)
      obtain ⟨first, rest, rfl⟩ := List.exists_cons_of_ne_nil nonempty
      simpa [Condition.render, Operator.name] using term_call list (Composes.or first rest)
  | @not operand _ inductionHypothesis =>
      have list := TermList.last (inductionHypothesis clean)
      simpa [Condition.render, Operator.name] using term_call list (Composes.not operand)

theorem describes_render {condition : Condition} (wellFormed : condition.WellFormed) :
    Describes condition.render.toList condition :=
  ((term_iff_describes _ _).1
    (term_render wellFormed.complete wellFormed.cleanLeaves)).1

/-- The canonical form of a well-formed condition is read as that condition. -/
theorem parse_render {condition : Condition} (wellFormed : condition.WellFormed) :
    parse condition.render = .ok condition :=
  (describes_render wellFormed).parse

/-- A condition that was read from an expression is well-formed. -/
theorem wellFormed_of_parse {expression : String} {condition : Condition}
    (notBlank : Text.isBlankText expression = false)
    (parsed : Expression.parse expression = .ok condition) : condition.WellFormed :=
  (describes_of_parse notBlank parsed).wellFormed

end Expression

namespace CommandLine

theorem ofWords_check (expression : String) :
    Request.ofWords ["check", "--", expression] =
      .ok { color := none, command := .check expression } :=
  rfl

theorem run_check (files : Files) (environment : Environment) (terminal : Bool)
    (expression : String) :
    run files environment terminal ["check", "--", expression] =
      .ofReport
        (checkReport (usesColors (environment.withFile files) terminal none)
          expression) := by
  rw [run, ofWords_check]
  rfl

theorem checkReport_of_parse {expression : String} {condition : Condition}
    (parsed : Expression.parse expression = .ok condition)
    (wellFormed : condition.WellFormed) (colored : Bool) :
    checkReport colored expression =
      .ok
        [condition.render,
          Emphasis.dim.paint colored "tags:" ++ " " ++
            ", ".intercalate condition.tags.toList] := by
  rw [checkReport, parsed]
  change Except.ok (conditionLines colored condition) = _
  rw [conditionLines, if_neg (by simp [wellFormed.not_unrestricted])]

/-- The canonical form of a condition that was read from an expression can be written
down, is read as the same condition, and checks to the same lines. -/
theorem canonical_form_stable {expression : String} {condition : Condition}
    (notBlank : Text.isBlankText expression = false)
    (parsed : Expression.parse expression = .ok condition) :
    (∀ tag ∈ condition.leaves, CleanTag tag) ∧ condition.Complete ∧
      Expression.parse condition.render = .ok condition ∧
      (∀ files settings colored,
        (Command.check condition.render).report files settings colored =
            (Command.check expression).report files settings colored ∧
          (Command.check expression).report files settings colored =
            .ok
              [condition.render,
                Emphasis.dim.paint colored "tags:" ++ " " ++
                  ", ".intercalate condition.tags.toList]) ∧
      ∀ files environment terminal,
        run files environment terminal ["check", "--", condition.render] =
          run files environment terminal ["check", "--", expression] := by
  have wellFormed := Expression.wellFormed_of_parse notBlank parsed
  have parsedAgain := Expression.parse_render wellFormed
  refine ⟨wellFormed.cleanLeaves, wellFormed.complete, parsedAgain, ?_, ?_⟩
  · intro files settings colored
    have lines := checkReport_of_parse parsed wellFormed colored
    exact ⟨(checkReport_of_parse parsedAgain wellFormed colored).trans lines.symm, lines⟩
  · intro files environment terminal
    rw [run_check, run_check, checkReport_of_parse parsed wellFormed,
      checkReport_of_parse parsedAgain wellFormed]

theorem canonical_form_stable_loose_spelling :
    Text.isBlankText " AND ( slow test ;; Not(and) ) " = false ∧
      Expression.parse " AND ( slow test ;; Not(and) ) " =
        .ok (.and [.has "slow test", .not (some (.has "and"))]) ∧
      Expression.parse "and(slow test, not(and))" =
        .ok (.and [.has "slow test", .not (some (.has "and"))]) := by
  have notBlank : Text.isBlankText " AND ( slow test ;; Not(and) ) " = false := by decide
  have parsed :
      Expression.parse " AND ( slow test ;; Not(and) ) " =
        .ok (.and [.has "slow test", .not (some (.has "and"))]) := by
    decide
  have rendered :
      Condition.render (.and [.has "slow test", .not (some (.has "and"))]) =
        "and(slow test, not(and))" := by
    decide
  have stable := (canonical_form_stable notBlank parsed).2.2.1
  rw [rendered] at stable
  exact ⟨notBlank, parsed, stable⟩

end CommandLine

end TagSelection
