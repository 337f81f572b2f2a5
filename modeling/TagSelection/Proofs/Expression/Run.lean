import TagSelection.Proofs.Expression.Grammar
import TagSelection.Proofs.Steps

/-!
# Scanning derived texts

The scan reads what the grammar derives.  A body behind an open call adds its operands
to that call, and a whole call puts its condition where completed conditions go,
whatever calls are open around it and whatever has been completed before.
-/

namespace TagSelection

namespace Expression

theorem toList_tagOf (word : String) :
    (tagOf word).toList = wordOperands word.toList := by
  unfold tagOf wordOperands Text.isBlankText
  split <;> rfl

theorem named?_eq_some_iff (text : String) (operator : Operator) :
    Operator.named? text = some operator ↔
      text.toList.map Char.toLower = operator.name.toList := by
  unfold Operator.named? Operator.all
  constructor
  · intro found
    have matched := List.find?_some found
    simpa using (beq_iff_eq.1 matched).symm
  · intro equality
    rw [equality]
    cases operator <;> decide

theorem ofName_eq_ok_iff (word : String) (operator : Operator) :
    Operator.ofName word = .ok operator ↔ Names word.toList operator := by
  rw [Names, ← Text.toList_trim, ← named?_eq_some_iff, Operator.ofName]
  cases found : Operator.named? (Text.trim word) <;> simp

theorem ofName_eq_error_iff (word : String) (fault : CallFault) :
    Operator.ofName word = .error fault ↔
      (∀ operator, ¬ Names word.toList operator) ∧
        fault = .unknownOperator (String.ofList (Text.trimChars word.toList)) := by
  simp only [← ofName_eq_ok_iff]
  rw [Operator.ofName]
  cases Operator.named? (Text.trim word) with
  | none => simp [Text.trim, eq_comm]
  | some operator => simp

theorem composes_iff (operator : Operator) (operands : List Condition)
    (condition : Condition) :
    Composes operator operands condition ↔
      operator.combine operands = .ok condition ∧
        (operands = [] → operator = .not) := by
  constructor
  · intro composes
    cases composes <;> simp [Operator.combine]
  · rintro ⟨combined, someOperand⟩
    cases operator with
    | and =>
        cases operands with
        | nil => cases someOperand rfl
        | cons operand rest =>
            cases combined
            exact Composes.and operand rest
    | or =>
        cases operands with
        | nil => cases someOperand rfl
        | cons operand rest =>
            cases combined
            exact Composes.or operand rest
    | not =>
        match operands, combined with
        | [operand], rfl => exact Composes.not operand

namespace OpenCall

def addAll (call : OpenCall) (operands : List Condition) : OpenCall :=
  { call with operands := call.operands ++ operands.toArray }

theorem toList_operands_addAll (call : OpenCall) (operands : List Condition) :
    (call.addAll operands).operands.toList = call.operands.toList ++ operands := by
  simp [addAll]

theorem addAll_addAll (call : OpenCall) (first second : List Condition) :
    (call.addAll first).addAll second = call.addAll (first ++ second) := by
  simp [addAll, Array.append_assoc]

theorem add_eq_addAll (call : OpenCall) (operand : Option Condition) :
    call.add operand = call.addAll operand.toList := by
  cases operand <;> simp [add, addAll]

theorem add_tagOf (call : OpenCall) (word : String) :
    call.add (tagOf word) = call.addAll (wordOperands word.toList) := by
  rw [add_eq_addAll, toList_tagOf]

theorem reduce_eq_ok_iff (call : OpenCall) (condition : Condition) :
    call.reduce = .ok condition ↔
      Composes call.operator call.operands.toList condition := by
  rw [composes_iff, reduce]
  split
  case isTrue missing =>
    simp only [Bool.and_eq_true, Array.isEmpty_iff, bne_iff_ne] at missing
    simp [missing]
  case isFalse present =>
    simp only [Bool.and_eq_true, Array.isEmpty_iff, bne_iff_ne, not_and,
      Decidable.not_not] at present
    rw [mapError_eq_ok_iff]
    constructor
    · intro combined
      exact ⟨combined, fun empty => present (by simpa using empty)⟩
    · exact And.left

/-- The call that is opened at a column is reduced to what its operands compose. -/
theorem reduce_opened {operator : Operator} {column : Nat} {children : List Condition}
    {condition : Condition} (composes : Composes operator children condition) :
    (addAll { operator, column } children).reduce = .ok condition := by
  rw [reduce_eq_ok_iff]
  simpa [addAll] using composes

end OpenCall

namespace Scan

theorem run_cons (scan : Scan) (column : Nat) (c : Char) (rest : List Char) :
    scan.run column (c :: rest) =
      scan.step column c >>= fun next => next.run (column + 1) rest :=
  rfl

theorem run_singleton (scan : Scan) (column : Nat) (c : Char) :
    scan.run column [c] = scan.step column c := by
  rw [run_cons]
  cases scan.step column c <;> rfl

theorem step_of_not_delimiter {c : Char} (notDelimiter : isDelimiter c = false)
    (scan : Scan) (column : Nat) :
    scan.step column c = .ok { scan with word := scan.word.push c } := by
  unfold step
  split
  case h_5 => rfl
  all_goals cases notDelimiter

theorem step_separator {c : Char} (separates : isSeparator c = true)
    (scan : Scan) (column : Nat) : scan.step column c = scan.endOperand column := by
  simp only [isSeparator, Bool.or_eq_true, beq_iff_eq] at separates
  rcases separates with rfl | rfl <;> rfl

/-- What a character does is decided by its kind. -/
theorem step_cases (scan : Scan) (column : Nat) (c : Char) :
    (c = '(' ∧ scan.step column c = scan.openCall column) ∨
      (c = ')' ∧ scan.step column c = scan.closeCall column) ∨
      (isSeparator c = true ∧ scan.step column c = scan.endOperand column) ∨
      (isDelimiter c = false ∧
        scan.step column c = .ok { scan with word := scan.word.push c }) := by
  by_cases delimiter : isDelimiter c = true
  · simp only [isDelimiter, Bool.or_eq_true, beq_iff_eq] at delimiter
    rcases delimiter with (rfl | rfl) | separates
    · exact Or.inl ⟨rfl, rfl⟩
    · exact Or.inr (Or.inl ⟨rfl, rfl⟩)
    · exact Or.inr (Or.inr (Or.inl ⟨separates, step_separator separates scan column⟩))
  · rw [Bool.not_eq_true] at delimiter
    exact Or.inr (Or.inr (Or.inr ⟨delimiter, step_of_not_delimiter delimiter scan column⟩))

/-- The state that a character leads to, if it is not refused. -/
inductive Steps (scan : Scan) (column : Nat) : Char → Scan → Prop
  | opens {operator : Operator} :
      Names scan.word.toList operator →
      Steps scan column '('
        { scan with word := "", calls := { operator, column } :: scan.calls }
  | separates {c : Char} {call : OpenCall} {outer : List OpenCall} :
      isSeparator c = true →
      scan.calls = call :: outer →
      Steps scan column c
        { scan with
          word := "", calls := call.addAll (wordOperands scan.word.toList) :: outer }
  | closes {call : OpenCall} {outer : List OpenCall} {condition : Condition} :
      scan.calls = call :: outer →
      (call.addAll (wordOperands scan.word.toList)).reduce = .ok condition →
      Steps scan column ')' (complete outer scan.results condition)
  | writes {c : Char} :
      isDelimiter c = false →
      Steps scan column c { scan with word := scan.word.push c }

theorem steps_of_openCall {scan next : Scan} {column : Nat}
    (stepped : scan.openCall column = .ok next) : Steps scan column '(' next := by
  unfold openCall at stepped
  split at stepped
  · cases stepped
  · obtain ⟨operator, named, equality⟩ := (bind_eq_ok_iff _ _ _).1 stepped
    rw [mapError_eq_ok_iff, ofName_eq_ok_iff] at named
    cases equality
    exact Steps.opens named

theorem steps_of_endOperand {scan next : Scan} {column : Nat} {c : Char}
    (separates : isSeparator c = true) (stepped : scan.endOperand column = .ok next) :
    Steps scan column c next := by
  unfold endOperand at stepped
  split at stepped
  · cases stepped
  case h_2 call outer isOpen =>
    cases stepped
    rw [OpenCall.add_tagOf]
    exact Steps.separates separates isOpen

theorem steps_of_closeCall {scan next : Scan} {column : Nat}
    (stepped : scan.closeCall column = .ok next) : Steps scan column ')' next := by
  unfold closeCall at stepped
  split at stepped
  · cases stepped
  case h_2 call outer isOpen =>
    obtain ⟨condition, reduced, equality⟩ := (bind_eq_ok_iff _ _ _).1 stepped
    cases equality
    rw [OpenCall.add_tagOf] at reduced
    exact Steps.closes isOpen reduced

theorem steps_of_step {scan next : Scan} {column : Nat} {c : Char}
    (stepped : scan.step column c = .ok next) : Steps scan column c next := by
  rcases step_cases scan column c with
    ⟨rfl, opens⟩ | ⟨rfl, closes⟩ | ⟨separates, ends⟩ | ⟨plain, writes⟩
  · exact steps_of_openCall (opens.symm.trans stepped)
  · exact steps_of_closeCall (closes.symm.trans stepped)
  · exact steps_of_endOperand separates (ends.symm.trans stepped)
  · cases writes.symm.trans stepped
    exact Steps.writes plain

theorem run_append (scan : Scan) (column : Nat) (first second : List Char) :
    scan.run column (first ++ second) =
      scan.run column first >>= fun next => next.run (column + first.length) second := by
  induction first generalizing scan column with
  | nil => rfl
  | cons c rest inductionHypothesis =>
      rw [List.cons_append, run_cons, run_cons]
      cases scan.step column c with
      | error fault => rfl
      | ok next =>
          change next.run (column + 1) (rest ++ second) =
            next.run (column + 1) rest >>= fun last =>
              last.run (column + (c :: rest).length) second
          rw [inductionHypothesis, List.length_cons, Nat.add_right_comm, Nat.add_assoc]

/-- What holds of a text and its state, and is kept by every character that follows, holds
still where a scan has got to. -/
theorem run_preserves {holds : List Char → Scan → Prop}
    (kept : ∀ text scan c next, holds text scan →
      scan.step (text.length + 1) c = .ok next → holds (text ++ [c]) next)
    {text rest : List Char} {scan last : Scan} (holdsFirst : holds text scan)
    (reached : scan.run (text.length + 1) rest = .ok last) : holds (text ++ rest) last := by
  induction rest generalizing text scan with
  | nil =>
      cases reached
      rwa [List.append_nil]
  | cons c rest inductionHypothesis =>
      rw [run_cons, bind_eq_ok_iff] at reached
      obtain ⟨next, stepped, reached⟩ := reached
      have holdsNext := kept text scan c next holdsFirst stepped
      have whole := inductionHypothesis holdsNext (by simpa using reached)
      simpa using whole

theorem run_word {word : List Char} (isWord : IsWord word) (scan : Scan)
    (column : Nat) :
    scan.run column word =
      .ok { scan with word := scan.word ++ String.ofList word } := by
  induction word generalizing scan column with
  | nil => simp [run]
  | cons c rest inductionHypothesis =>
      obtain ⟨notDelimiter, isRest⟩ := isWord_cons.1 isWord
      rw [run_cons, step_of_not_delimiter notDelimiter]
      change Scan.run _ (column + 1) rest = _
      rw [inductionHypothesis isRest]
      have sameWord :
          scan.word.push c ++ String.ofList rest =
            scan.word ++ String.ofList (c :: rest) := by
        rw [← String.toList_inj]
        simp
      rw [sameWord]

/-! ## Bodies and calls -/

variable {calls outer : List OpenCall} {results : Array Condition}

theorem run_word_after_delimiter {word : List Char} (isWord : IsWord word) (column : Nat) :
    Scan.run { calls, results } column word =
      .ok { word := String.ofList word, calls, results } := by
  rw [run_word isWord]
  simp

theorem run_opening {word : List Char} (isWord : IsWord word)
    (notBlank : word.all Text.isBlank = false) (column : Nat) (rest : List Char) :
    Scan.run { calls := outer, results } column (word ++ '(' :: rest) =
      (Operator.ofName (String.ofList word)).mapError .call >>= fun operator =>
        Scan.run
          { calls := { operator, column := column + word.length } :: outer, results }
          (column + word.length + 1) rest := by
  have notBlankText : Text.isBlankText (String.ofList word) = false := by
    simpa [Text.isBlankText] using notBlank
  rw [run_append, run_word_after_delimiter isWord]
  change openCall { word := String.ofList word, calls := outer, results } _ >>= _ = _
  rw [openCall, if_neg (by rw [notBlankText]; decide)]
  cases Operator.ofName (String.ofList word) <;> rfl

theorem run_open {word : List Char} {operator : Operator} (isWord : IsWord word)
    (names : Names word operator) (column : Nat) (rest : List Char) :
    Scan.run { calls := outer, results } column (word ++ '(' :: rest) =
      Scan.run
        { calls := { operator, column := column + word.length } :: outer, results }
        (column + word.length + 1) rest := by
  have named : Operator.ofName (String.ofList word) = .ok operator := by
    rw [ofName_eq_ok_iff]
    simpa using names
  rw [run_opening isWord names.not_blank, named]
  rfl

theorem run_separated {word : List Char} {separator : Char} (isWord : IsWord word)
    (separates : isSeparator separator = true) (call : OpenCall) (column : Nat)
    (rest : List Char) :
    Scan.run { calls := call :: outer, results } column (word ++ separator :: rest) =
      Scan.run { calls := call.addAll (wordOperands word) :: outer, results }
        (column + word.length + 1) rest := by
  rw [run_append, run_word_after_delimiter isWord]
  change Scan.run _ _ (separator :: rest) = _
  rw [run_cons, step_separator separates]
  change Scan.run { calls := call.add (tagOf (String.ofList word)) :: outer, results }
    _ rest = _
  rw [OpenCall.add_tagOf, String.toList_ofList]

theorem run_close {word : List Char} (isWord : IsWord word) (call : OpenCall)
    (column : Nat) :
    Scan.run { calls := call :: outer, results } column (word ++ [')']) =
      (call.addAll (wordOperands word)).reduce >>= fun condition =>
        .ok (complete outer results condition) := by
  rw [run_append, run_word_after_delimiter isWord]
  change Scan.run _ _ [')'] = _
  rw [run_singleton]
  change ((call.add (tagOf (String.ofList word))).reduce >>= fun condition =>
    .ok (complete outer results condition)) = _
  rw [OpenCall.add_tagOf, String.toList_ofList]

/-- Behind an open call, a body and a closing parenthesis reduce that call with the
operands of the body. -/
theorem run_body {text : List Char} {operands : List Condition}
    (body : Body text operands) (call : OpenCall) (outer : List OpenCall) (column : Nat) :
    Scan.run { calls := call :: outer, results } column (text ++ [')']) =
      (call.addAll operands).reduce >>= fun condition =>
        .ok (complete outer results condition) := by
  induction body generalizing call outer column with
  | last isWord =>
      exact run_close isWord call column
  | @separated word separator rest operands isWord separates _ inductionHypothesis =>
      rw [List.append_assoc, List.cons_append, run_separated isWord separates,
        inductionHypothesis, OpenCall.addAll_addAll]
  | @call word inner rest operator children operands condition isWord names _ composes _
      innerHypothesis restHypothesis =>
      -- The closing parenthesis of the inner call belongs to its body's hypothesis, the
      -- last one to that of the rest.
      have regroup :
          (word ++ '(' :: (inner ++ ')' :: rest)) ++ [')'] =
            word ++ '(' :: ((inner ++ [')']) ++ (rest ++ [')'])) := by
        simp
      rw [regroup, run_open isWord names, run_append, innerHypothesis,
        OpenCall.reduce_opened composes]
      change Scan.run { calls := call.add (some condition) :: outer, results } _ _ = _
      rw [restHypothesis, OpenCall.add_eq_addAll, OpenCall.addAll_addAll]
      rfl

/-- A call is read as its condition in every surrounding. -/
theorem run_call {text : List Char} {condition : Condition} (call : Call text condition)
    (column : Nat) :
    Scan.run { calls := outer, results } column text =
      .ok (complete outer results condition) := by
  cases call with
  | mk isWord names body composes =>
      rw [run_open isWord names, run_body body, OpenCall.reduce_opened composes]
      rfl

end Scan

end Expression

end TagSelection
