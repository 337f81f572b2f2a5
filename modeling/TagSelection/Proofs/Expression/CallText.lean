import TagSelection.Proofs.Expression.Nesting

/-!
# The text of a call

A name with operands in parentheses behind it is read as the call of that name: the scan
gives what `Condition.ofCall` makes of the conditions of the operands, and refuses the text
for the same fault.  Each operand may be any expression that is accepted on its own, since
the scan of a body does not see what calls are open around it.

Only where there are no operands at all the two differ, namely for a conjunction and a
disjunction, which are refused in a text.
-/

namespace TagSelection

namespace Expression

/-- An expression that is not blank, with the condition that it is read as. -/
structure Operand where
  text : String
  condition : Condition
  notBlank : Text.isBlankText text = false
  parsed : parse text = .ok condition

abbrev Separator := { c : Char // isSeparator c = true }

/-- The texts of operands, each of them but the first behind a separator. -/
def operandsText (first : Operand) : List (Separator × Operand) → String
  | [] => first.text
  | (separator, next) :: rest =>
      first.text ++ String.singleton separator.val ++ operandsText next rest

def callText (name inner : String) : String := name ++ "(" ++ inner ++ ")"

theorem Operand.describes (operand : Operand) :
    Describes operand.text.toList operand.condition :=
  describes_of_parse operand.notBlank operand.parsed

/-- Operands with separators between them are a body with their conditions. -/
theorem body_operandsText (first : Operand) (rest : List (Separator × Operand)) :
    Body (operandsText first rest).toList
      (first.condition :: rest.map fun (_, operand) => operand.condition) := by
  induction rest generalizing first with
  | nil => exact first.describes.body
  | cons entry rest inductionHypothesis =>
      obtain ⟨separator, next⟩ := entry
      have leads := first.describes.leads separator.property
      simpa [operandsText] using leads _ _ (inductionHypothesis next)

theorem OpenCall.reduce_of_operands {operator : Operator} {column : Nat}
    {operands : List Condition} (someOperand : operands ≠ []) :
    (addAll { operator, column } operands).reduce =
      (operator.combine operands).mapError .call := by
  simp [reduce, addAll, someOperand]

theorem toList_callText (name inner : String) :
    (callText name inner).toList = name.toList ++ '(' :: (inner.toList ++ [')']) := by
  simp [callText]

/-- The text of a call is read as its name and then as the reduction of its operands. -/
theorem parse_callText {name inner : String} {operands : List Condition}
    (isWord : IsWord name.toList) (notBlank : Text.isBlankText name = false)
    (body : Body inner.toList operands) :
    parse (callText name inner) =
      (Operator.ofName name).mapError .call >>= fun operator =>
        (OpenCall.addAll { operator, column := name.length + 1 } operands).reduce := by
  have notBlankCall : Text.isBlankText (callText name inner) = false := by
    rw [Text.isBlankText, toList_callText, List.all_append]
    rw [Text.isBlankText] at notBlank
    rw [notBlank, Bool.false_and]
  have opened := @Scan.run_opening [] #[] _ isWord notBlank 1 (inner.toList ++ [')'])
  rw [parse_of_not_blank notBlankCall, scan, toList_callText]
  refine (congrArg (· >>= Scan.conclude) opened).trans ?_
  rw [String.ofList_toList, String.length_toList, Nat.add_comm 1]
  -- If the name is refused, so is the whole text; otherwise the body belongs to the call.
  cases Operator.ofName name with
  | error fault => rfl
  | ok operator =>
      have closed :=
        @Scan.run_body #[] _ _ body { operator, column := name.length + 1 } []
          (name.length + 1 + 1)
      refine (congrArg (· >>= Scan.conclude) closed).trans ?_
      change _ = (OpenCall.addAll { operator, column := name.length + 1 } operands).reduce
      cases (OpenCall.addAll { operator, column := name.length + 1 } operands).reduce with
      | error fault => rfl
      | ok condition => rfl

theorem parse_callText_of_operands {name inner : String} {operands : List Condition}
    (isWord : IsWord name.toList) (notBlank : Text.isBlankText name = false)
    (body : Body inner.toList operands) (someOperand : operands ≠ []) :
    parse (callText name inner) = (Condition.ofCall name operands).mapError .call := by
  rw [parse_callText isWord notBlank body, Condition.ofCall, mapError_bind]
  simp only [OpenCall.reduce_of_operands someOperand]

theorem parse_callText_without_operands {name : String} {operator : Operator}
    (isWord : IsWord name.toList) (names : Names name.toList operator) :
    parse (callText name "") =
      (OpenCall.addAll { operator, column := name.length + 1 } []).reduce := by
  have noOperands : Body "".toList [] := Body.last isWord_nil
  rw [parse_callText isWord names.not_blank noOperands, (ofName_eq_ok_iff _ _).2 names]
  rfl

theorem ofCall_of_names {name : String} {operator : Operator}
    (names : Names name.toList operator) (operands : List Condition) :
    Condition.ofCall name operands = operator.combine operands := by
  rw [Condition.ofCall, (ofName_eq_ok_iff _ _).2 names]
  rfl

theorem ofCall_of_unnamed {name : String} (unnamed : ∀ operator, ¬ Names name.toList operator)
    (operands : List Condition) :
    Condition.ofCall name operands = .error (.unknownOperator (Text.trim name)) := by
  have refused := (ofName_eq_error_iff name _).2 ⟨unnamed, rfl⟩
  rw [Condition.ofCall, refused]
  rfl

/-- The text of a call with operands is read as the call of its name with their conditions,
and refused for the fault of that call.  Without operands it is refused as a negation of
nothing is, and for an unknown name; but a conjunction and a disjunction are refused in a
text only. -/
theorem parse_agrees_with_ofCall {name : String} (isWord : IsWord name.toList)
    (notBlank : Text.isBlankText name = false) :
    (∀ (first : Operand) (rest : List (Separator × Operand)),
        parse (callText name (operandsText first rest)) =
          (Condition.ofCall name
            (first.condition :: rest.map fun (_, operand) => operand.condition)).mapError
              .call) ∧
      (∀ operator, Names name.toList operator → operator ≠ .not →
        parse (callText name "") = .error (.noOperands operator (name.length + 1)) ∧
          Condition.ofCall name [] = operator.combine [] ∧
          ∃ condition, operator.combine [] = .ok condition) ∧
      (Names name.toList .not →
        parse (callText name "") = .error (.call (.negationOf 0)) ∧
          Condition.ofCall name [] = .error (.negationOf 0)) ∧
      ((∀ operator, ¬ Names name.toList operator) →
        parse (callText name "") = .error (.call (.unknownOperator (Text.trim name))) ∧
          Condition.ofCall name [] = .error (.unknownOperator (Text.trim name))) := by
  refine ⟨?_, ?_, ?_, ?_⟩
  · intro first rest
    exact parse_callText_of_operands isWord notBlank (body_operandsText first rest) (by simp)
  -- Without operands the condition can be combined but not written.
  · intro operator names notNegation
    rw [parse_callText_without_operands isWord names, ofCall_of_names names]
    cases operator with
    | and | or => exact ⟨rfl, rfl, _, rfl⟩
    | not => exact absurd rfl notNegation
  · intro names
    rw [parse_callText_without_operands isWord names, ofCall_of_names names]
    exact ⟨rfl, rfl⟩
  · intro unnamed
    have refused := (ofName_eq_error_iff name _).2 ⟨unnamed, rfl⟩
    have noOperands : Body "".toList [] := Body.last isWord_nil
    rw [parse_callText isWord notBlank noOperands, refused, ofCall_of_unnamed unnamed]
    exact ⟨rfl, rfl⟩

theorem parse_agrees_with_ofCall_nested :
    IsWord " Not ".toList ∧ Text.isBlankText " Not " = false ∧
      parse " Not ( or(a;b) )" = .ok (.not (some (.or [.has "a", .has "b"]))) ∧
      parse " Not ( or(a;b) ;c d )" = .error (.call (.negationOf 2)) ∧
      parse " Not ()" = .error (.call (.negationOf 0)) := by
  have isWord : IsWord " Not ".toList := by decide
  have notBlank : Text.isBlankText " Not " = false := by decide
  have names : Names " Not ".toList .not := by decide
  obtain ⟨withOperands, _, negation, _⟩ := parse_agrees_with_ofCall isWord notBlank
  refine ⟨isWord, notBlank, ?_, ?_, (negation names).1⟩
  · exact withOperands ⟨" or(a;b) ", .or [.has "a", .has "b"], by decide, by decide⟩ []
  · exact withOperands ⟨" or(a;b) ", .or [.has "a", .has "b"], by decide, by decide⟩
      [(⟨';', rfl⟩, ⟨"c d ", .has "c d", by decide, by decide⟩)]

end Expression

end TagSelection
