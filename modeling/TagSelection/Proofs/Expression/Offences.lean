import TagSelection.Proofs.Expression.Trace

/-!
# The first offence in an expression

Whether a character is an offence is decided by the text in front of it: by its last
word, by its depth, and by what stands between the matching parentheses of a call.  An
expression is refused for the first offence that it holds.  Only if there is none can the
end of the text be wrong, where a call is still open or where there is another number of
conditions than one.  So what follows an offence has no influence on the fault.
-/

namespace TagSelection

namespace Expression

/-- The character behind a text is an offence. -/
inductive Offence : List Char → Char → Fault → Prop
  | missingOperator {before : List Char} :
      (lastWord before).all Text.isBlank = true →
      Offence before '(' (.missingOperator (before.length + 1))
  | unknownOperator {before : List Char} :
      (lastWord before).all Text.isBlank = false →
      (∀ operator, ¬ Names (lastWord before) operator) →
      Offence before '('
        (.call (.unknownOperator (String.ofList (Text.trimChars (lastWord before)))))
  | separatorOutside {before : List Char} {separator : Char} :
      isSeparator separator = true →
      depth before = 0 →
      Offence before separator (.separatorOutside (before.length + 1))
  | unmatchedClose {before : List Char} :
      depth before = 0 →
      Offence before ')' (.unmatchedClose (before.length + 1))
  | noOperands {outer inner : List Char} {operator : Operator} :
      Names (lastWord outer) operator →
      operator ≠ .not →
      Balanced inner →
      Body inner [] →
      Offence (outer ++ '(' :: inner) ')' (.noOperands operator (outer.length + 1))
  | negationOf {outer inner : List Char} {operands : List Condition} :
      Names (lastWord outer) .not →
      Balanced inner →
      Body inner operands →
      operands.length ≠ 1 →
      Offence (outer ++ '(' :: inner) ')' (.call (.negationOf operands.length))

def Unoffending (text : List Char) : Prop :=
  ∀ before c after fault, text = before ++ c :: after → ¬ Offence before c fault

/-- The first offence in the text is the given fault. -/
def FirstOffence (text : List Char) (fault : Fault) : Prop :=
  ∃ before c after, text = before ++ c :: after ∧ Offence before c fault ∧
    Unoffending before

/-- The text ends in a fault: its last unmatched parenthesis is that of a call, or there
is none and the calls and the last word are another number of conditions than one. -/
inductive EndOffence : List Char → Fault → Prop
  | neverClosed {outer inner : List Char} {operator : Operator} :
      IsGreatest {column | Unclosed (outer ++ '(' :: inner) column} (outer.length + 1) →
      Names (lastWord outer) operator →
      EndOffence (outer ++ '(' :: inner) (.neverClosed operator (outer.length + 1))
  | conditionCount {calls word : List Char} {conditions : List Condition} :
      Calls calls conditions →
      IsWord word →
      (conditions ++ wordOperands word).length ≠ 1 →
      EndOffence (calls ++ word) (.conditionCount (conditions ++ wordOperands word).length)

/-! ## Faults of the parts -/

theorem Names.unique {word : List Char} {operator other : Operator}
    (names : Names word operator) (otherNames : Names word other) : operator = other := by
  have sameName : operator.name.toList = other.name.toList := names.symm.trans otherNames
  revert sameName
  cases operator <;> cases other <;> decide

theorem combine_eq_error_iff (operator : Operator) (operands : List Condition)
    (fault : CallFault) :
    operator.combine operands = .error fault ↔
      operator = .not ∧ operands.length ≠ 1 ∧ fault = .negationOf operands.length := by
  cases operator with
  | and | or => simp [Operator.combine]
  | not =>
      rcases operands with _ | ⟨first, _ | ⟨second, rest⟩⟩
      · simp [Operator.combine, eq_comm]
      · simp [Operator.combine]
      · simp [Operator.combine, eq_comm]

theorem OpenCall.reduce_eq_error_iff (call : OpenCall) (fault : Fault) :
    call.reduce = .error fault ↔
      (call.operands.toList = [] ∧ call.operator ≠ .not ∧
          fault = .noOperands call.operator call.column) ∨
        (call.operator = .not ∧ call.operands.toList.length ≠ 1 ∧
          fault = .call (.negationOf call.operands.toList.length)) := by
  unfold reduce
  split
  case isTrue missing =>
    simp only [Bool.and_eq_true, Array.isEmpty_iff, bne_iff_ne] at missing
    simp [missing, eq_comm]
  case isFalse present =>
    simp only [Bool.and_eq_true, Array.isEmpty_iff, bne_iff_ne, not_and,
      Decidable.not_not] at present
    rw [mapError_eq_error_iff]
    simp only [combine_eq_error_iff]
    constructor
    · rintro ⟨cause, ⟨isNot, count, rfl⟩, rfl⟩
      exact Or.inr ⟨isNot, count, rfl⟩
    · rintro (⟨noOperands, notNot, _⟩ | ⟨isNot, count, rfl⟩)
      · exact absurd (present (by simpa using noOperands)) notNot
      · exact ⟨_, ⟨isNot, count, rfl⟩, rfl⟩

namespace Scan

theorem openCall_eq_error_iff (scan : Scan) (column : Nat) (fault : Fault) :
    scan.openCall column = .error fault ↔
      (scan.word.toList.all Text.isBlank = true ∧ fault = .missingOperator column) ∨
        (scan.word.toList.all Text.isBlank = false ∧
          (∀ operator, ¬ Names scan.word.toList operator) ∧
          fault =
            .call (.unknownOperator
              (String.ofList (Text.trimChars scan.word.toList)))) := by
  unfold openCall Text.isBlankText
  cases blank : scan.word.toList.all Text.isBlank with
  | true => simp [eq_comm]
  | false =>
      simp only [Bool.false_eq_true, if_false, false_and, false_or, true_and]
      rw [bind_eq_error_iff, mapError_eq_error_iff]
      simp [ofName_eq_error_iff]

/-- A scan is refused at the first character that it cannot take. -/
theorem run_eq_error_iff (scan : Scan) (column : Nat) (text : List Char) (fault : Fault) :
    scan.run column text = .error fault ↔
      ∃ before c after middle, text = before ++ c :: after ∧
        scan.run column before = .ok middle ∧
        middle.step (column + before.length) c = .error fault := by
  constructor
  · intro refused
    -- The scan is refused at the first character, or behind it from the next state on.
    induction text generalizing scan column with
    | nil => cases refused
    | cons c rest inductionHypothesis =>
        rw [run_cons, bind_eq_error_iff] at refused
        rcases refused with atFirst | ⟨next, stepped, refused⟩
        · exact ⟨[], c, rest, scan, rfl, rfl, atFirst⟩
        · obtain ⟨before, other, after, middle, rfl, reached, atLater⟩ :=
            inductionHypothesis next (column + 1) refused
          refine ⟨c :: before, other, after, middle, rfl, ?_, ?_⟩
          · rw [run_cons, stepped]
            exact reached
          · rw [List.length_cons, Nat.add_comm before.length, ← Nat.add_assoc]
            exact atLater
  · rintro ⟨before, c, after, middle, rfl, reached, refused⟩
    rw [run_append, reached]
    change middle.run (column + before.length) (c :: after) = _
    rw [run_cons, refused]
    rfl

theorem conclude_eq_error_iff (scan : Scan) (fault : Fault) :
    scan.conclude = .error fault ↔
      (∃ call outer, scan.calls = call :: outer ∧
          fault = .neverClosed call.operator call.column) ∨
        (scan.calls = [] ∧
          (scan.results.toList ++ wordOperands scan.word.toList).length ≠ 1 ∧
          fault =
            .conditionCount
              (scan.results.toList ++ wordOperands scan.word.toList).length) := by
  unfold conclude
  rw [← toList_tagOf]
  cases scan.calls with
  | cons call outer => simp [eq_comm]
  | nil =>
      simp only [reduceCtorEq, false_and, exists_false, false_or, true_and]
      split
      case h_1 single equality => simp [equality]
      case h_2 several =>
        have notSingle :
            (scan.results.toList ++ (tagOf scan.word).toList).length ≠ 1 := by
          intro single
          obtain ⟨condition, equality⟩ := List.length_eq_one_iff.1 single
          exact several condition equality
        simp only [notSingle, Except.error.injEq, ne_eq, not_false_eq_true, true_and]
        exact eq_comm

theorem exists_run_behind_open {before inner : List Char} {operator : Operator}
    {scan : Scan} (reached : Scan.run {} 1 (before ++ '(' :: inner) = .ok scan)
    (names : Names (lastWord before) operator) :
    ∃ outer results,
      Scan.run { calls := { operator, column := before.length + 1 } :: outer, results }
        (before.length + 2) inner = .ok scan := by
  rw [run_append, bind_eq_ok_iff] at reached
  obtain ⟨middle, reachedBefore, reached⟩ := reached
  rw [run_cons, bind_eq_ok_iff] at reached
  obtain ⟨opened, stepped, reachedInner⟩ := reached
  have noSeparator : ¬ isSeparator '(' = true := by decide
  have noPlain : ¬ isDelimiter '(' = false := by decide
  rw [Nat.add_comm 1] at stepped reachedInner
  -- A parenthesis that is not refused opens the call that the word in front of it names.
  cases steps_of_step stepped with
  | separates separates _ => exact absurd separates noSeparator
  | writes plain => exact absurd plain noPlain
  | opens named =>
      rw [(tracks_of_run reachedBefore).word_eq] at named
      obtain rfl := named.unique names
      exact ⟨middle.calls, middle.results, reachedInner⟩

/-- A closing parenthesis behind a body reduces the call around it with the operands of
the body. -/
theorem step_close_of_body {before inner : List Char} {operator : Operator}
    {operands : List Condition} {scan : Scan}
    (reached : Scan.run {} 1 (before ++ '(' :: inner) = .ok scan)
    (names : Names (lastWord before) operator) (body : Body inner operands) :
    ∃ outer results,
      scan.step ((before ++ '(' :: inner).length + 1) ')' =
        (OpenCall.addAll { operator, column := before.length + 1 } operands).reduce >>=
          fun condition => .ok (complete outer results condition) := by
  obtain ⟨outer, results, reachedInner⟩ := exists_run_behind_open reached names
  refine ⟨outer, results, ?_⟩
  have closed :=
    @run_body results _ _ body { operator, column := before.length + 1 } outer
      (before.length + 2)
  rw [run_append, reachedInner] at closed
  change scan.run _ [')'] = _ at closed
  have sameColumn :
      before.length + 2 + inner.length = (before ++ '(' :: inner).length + 1 := by
    rw [List.length_append, List.length_cons]
    omega
  rwa [run_singleton, sameColumn] at closed

end Scan

variable {text : List Char} {state : Scan} {c : Char} {fault : Fault}

theorem Offence.refused (offence : Offence text c fault)
    (reached : Scan.run {} 1 text = .ok state) :
    state.step (text.length + 1) c = .error fault := by
  have tracks := tracks_of_run reached
  cases offence with
  | missingOperator blank =>
      rw [← tracks.word_eq] at blank
      exact (Scan.openCall_eq_error_iff _ _ _).2 (Or.inl ⟨blank, rfl⟩)
  | unknownOperator notBlank unnamed =>
      rw [← tracks.word_eq] at notBlank unnamed ⊢
      exact (Scan.openCall_eq_error_iff _ _ _).2 (Or.inr ⟨notBlank, unnamed, rfl⟩)
  | separatorOutside separates outside =>
      rw [Scan.step_separator separates, Scan.endOperand,
        tracks.calls_eq_nil_iff.2 outside]
  | unmatchedClose outside =>
      change state.closeCall _ = _
      rw [Scan.closeCall, tracks.calls_eq_nil_iff.2 outside]
  -- Behind a body the scan reduces the call with the operands of that body.
  | noOperands names notNegation _ body =>
      obtain ⟨outer, results, closed⟩ := Scan.step_close_of_body reached names body
      rw [closed, bind_eq_error_iff, OpenCall.reduce_eq_error_iff]
      exact Or.inl (Or.inl ⟨rfl, notNegation, rfl⟩)
  | negationOf names _ body count =>
      obtain ⟨outer, results, closed⟩ := Scan.step_close_of_body reached names body
      rw [closed, bind_eq_error_iff, OpenCall.reduce_eq_error_iff,
        OpenCall.toList_operands_addAll]
      exact Or.inl (Or.inr ⟨rfl, count, rfl⟩)

theorem offence_of_openCall (reached : Scan.run {} 1 text = .ok state)
    (refused : state.openCall (text.length + 1) = .error fault) : Offence text '(' fault := by
  have word := (tracks_of_run reached).word_eq
  rw [Scan.openCall_eq_error_iff, word] at refused
  rcases refused with ⟨blank, rfl⟩ | ⟨notBlank, unnamed, rfl⟩
  · exact Offence.missingOperator blank
  · exact Offence.unknownOperator notBlank unnamed

theorem offence_of_endOperand (separates : isSeparator c = true)
    (reached : Scan.run {} 1 text = .ok state)
    (refused : state.endOperand (text.length + 1) = .error fault) : Offence text c fault := by
  unfold Scan.endOperand at refused
  split at refused
  case h_1 outside =>
    cases refused
    exact Offence.separatorOutside separates ((tracks_of_run reached).calls_eq_nil_iff.1 outside)
  case h_2 => cases refused

theorem offence_of_closeCall (reached : Scan.run {} 1 text = .ok state)
    (refused : state.closeCall (text.length + 1) = .error fault) : Offence text ')' fault := by
  unfold Scan.closeCall at refused
  split at refused
  case h_1 outside =>
    cases refused
    exact Offence.unmatchedClose ((tracks_of_run reached).calls_eq_nil_iff.1 outside)
  case h_2 call outer isOpen =>
    -- The operands of the innermost call are those of the text behind its parenthesis, so
    -- the fault is one of the text.
    obtain ⟨before, inner, rfl, column, names, body⟩ := innermost_of_run reached isOpen
    have balanced := body.balanced
    rw [OpenCall.add_tagOf, bind_eq_error_iff, OpenCall.reduce_eq_error_iff,
      OpenCall.toList_operands_addAll] at refused
    rcases refused with
      (⟨none, notNegation, rfl⟩ | ⟨negation, count, rfl⟩) | ⟨_, _, impossible⟩
    · rw [none] at body
      change Offence _ _ (.noOperands call.operator call.column)
      rw [column]
      exact Offence.noOperands names notNegation balanced body
    · change call.operator = .not at negation
      rw [negation] at names
      exact Offence.negationOf names balanced body count
    · cases impossible

theorem offence_of_step (reached : Scan.run {} 1 text = .ok state)
    (refused : state.step (text.length + 1) c = .error fault) : Offence text c fault := by
  rcases Scan.step_cases state (text.length + 1) c with
    ⟨rfl, opens⟩ | ⟨rfl, closes⟩ | ⟨separates, ends⟩ | ⟨_, writes⟩
  · exact offence_of_openCall reached (opens.symm.trans refused)
  · exact offence_of_closeCall reached (closes.symm.trans refused)
  · exact offence_of_endOperand separates reached (ends.symm.trans refused)
  · cases writes.symm.trans refused

theorem exists_run_of_unoffending (unoffending : Unoffending text) :
    ∃ last, Scan.run {} 1 text = .ok last := by
  cases result : Scan.run {} 1 text with
  | ok last => exact ⟨last, rfl⟩
  | error fault =>
      obtain ⟨before, c, after, middle, split, reached, refused⟩ :=
        (Scan.run_eq_error_iff _ _ _ _).1 result
      rw [Nat.add_comm] at refused
      exact absurd (offence_of_step reached refused) (unoffending before c after fault split)

theorem unoffending_of_run (reached : Scan.run {} 1 text = .ok state) : Unoffending text := by
  rintro before c after fault rfl offence
  rw [Scan.run_append, bind_eq_ok_iff] at reached
  obtain ⟨middle, reachedBefore, reached⟩ := reached
  have refused := offence.refused reachedBefore
  rw [Scan.run_cons, Nat.add_comm, refused] at reached
  cases reached

theorem run_eq_error_iff_firstOffence (text : List Char) (fault : Fault) :
    Scan.run {} 1 text = .error fault ↔ FirstOffence text fault := by
  rw [Scan.run_eq_error_iff]
  constructor
  · rintro ⟨before, c, after, middle, split, reached, refused⟩
    rw [Nat.add_comm] at refused
    exact ⟨before, c, after, split, offence_of_step reached refused,
      unoffending_of_run reached⟩
  · rintro ⟨before, c, after, split, offence, unoffending⟩
    obtain ⟨middle, reached⟩ := exists_run_of_unoffending unoffending
    have refused := offence.refused reached
    rw [Nat.add_comm] at refused
    exact ⟨before, c, after, middle, split, reached, refused⟩

/-! ## The end of the text -/

theorem Calls.balanced {conditions : List Condition} (calls : Calls text conditions) :
    Balanced text := by
  induction calls with
  | nil => exact Balanced.nil
  | snoc _ call inductionHypothesis =>
      have body := Body.of_call call (Body.last isWord_nil)
      rw [List.append_nil] at body
      exact inductionHypothesis.append body.balanced

theorem Scan.run_calls {conditions : List Condition} (calls : Calls text conditions) :
    Scan.run {} 1 text = .ok { results := conditions.toArray } := by
  induction calls with
  | nil => rfl
  | snoc _ call inductionHypothesis =>
      rw [Scan.run_append, inductionHypothesis]
      change Scan.run _ _ _ = _
      rw [Scan.run_call call]
      simp [Scan.complete]

theorem calls_of_run (reached : Scan.run {} 1 text = .ok state) (closed : state.calls = []) :
    ∃ before, text = before ++ state.word.toList ∧ Calls before state.results.toList ∧
      IsWord state.word.toList := by
  cases reads_of_run reached with
  | @mk before word calls results opened isWord =>
      cases closed
      cases opened with
      | outside calls => exact ⟨before, rfl, calls, isWord⟩

theorem endOffence_of_conclude (reached : Scan.run {} 1 text = .ok state)
    (refused : state.conclude = .error fault) : EndOffence text fault := by
  rcases (Scan.conclude_eq_error_iff _ _).1 refused with
    ⟨call, outer, isOpen, rfl⟩ | ⟨closed, count, rfl⟩
  · obtain ⟨before, inner, rfl, column, names, body⟩ := innermost_of_run reached isOpen
    rw [column]
    exact EndOffence.neverClosed (body.balanced.isGreatest_unclosed before) names
  · obtain ⟨before, split, calls, isWord⟩ := calls_of_run reached closed
    have atEnd := EndOffence.conditionCount calls isWord count
    rwa [← split] at atEnd

theorem EndOffence.refused (offence : EndOffence text fault)
    (reached : Scan.run {} 1 text = .ok state) : state.conclude = .error fault := by
  rw [Scan.conclude_eq_error_iff]
  cases offence with
  | @neverClosed outer inner operator greatest names =>
      cases isOpen : state.calls with
      | nil =>
          obtain ⟨before, split, calls, isWord⟩ := calls_of_run reached isOpen
          have balanced := calls.balanced.append isWord.balanced
          rw [← split] at balanced
          exact absurd greatest.1 (balanced.not_unclosed _)
      | cons call others =>
          obtain ⟨before, rest, split, column, callNames, body⟩ :=
            innermost_of_run reached isOpen
          -- There is only one last unmatched parenthesis: that of the innermost call.
          have callGreatest := body.balanced.isGreatest_unclosed before
          rw [← split] at callGreatest
          have sameColumn := greatest.unique callGreatest
          obtain ⟨sameOuter, _⟩ := List.append_inj split (by omega)
          rw [← sameOuter] at callNames
          obtain rfl := names.unique callNames
          exact Or.inl ⟨call, others, rfl, by rw [sameColumn, column]⟩
  | @conditionCount calls word conditions isCalls isWord count =>
      rw [Scan.run_append, Scan.run_calls isCalls] at reached
      change Scan.run _ _ _ = _ at reached
      rw [Scan.run_word_after_delimiter isWord] at reached
      cases reached
      refine Or.inr ⟨rfl, ?_, ?_⟩
      · simpa using count
      · simp

inductive Fault.AtEnd : Fault → Prop
  | neverClosed (operator : Operator) (column : Nat) : AtEnd (.neverClosed operator column)
  | conditionCount (count : Nat) : AtEnd (.conditionCount count)

theorem EndOffence.atEnd (offence : EndOffence text fault) : fault.AtEnd := by
  cases offence with
  | neverClosed => exact Fault.AtEnd.neverClosed _ _
  | conditionCount => exact Fault.AtEnd.conditionCount _

theorem scan_eq_error_iff (expression : String) (fault : Fault) :
    scan expression = .error fault ↔
      FirstOffence expression.toList fault ∨
        (Unoffending expression.toList ∧ EndOffence expression.toList fault) := by
  rw [scan, bind_eq_error_iff, run_eq_error_iff_firstOffence]
  refine or_congr_right ⟨?_, ?_⟩
  · rintro ⟨last, reached, refused⟩
    exact ⟨unoffending_of_run reached, endOffence_of_conclude reached refused⟩
  · rintro ⟨unoffending, atEnd⟩
    obtain ⟨last, reached⟩ := exists_run_of_unoffending unoffending
    exact ⟨last, reached, atEnd.refused reached⟩

theorem FirstOffence.append (first : FirstOffence text fault) (suffix : List Char) :
    FirstOffence (text ++ suffix) fault := by
  obtain ⟨before, c, after, rfl, offence, unoffending⟩ := first
  exact ⟨before, c, after ++ suffix, by simp, offence, unoffending⟩

/-- An expression is refused for its first offence, or for what is wrong at its end if it
holds none; a text behind an offence does not change the fault. -/
theorem parse_reports_first_offence (expression : String) (fault : Fault) :
    (parse expression = .error fault ↔
        Text.isBlankText expression = false ∧
          (FirstOffence expression.toList fault ∨
            (Unoffending expression.toList ∧ EndOffence expression.toList fault))) ∧
      (parse expression = .error fault → ¬ fault.AtEnd →
        ∀ suffix, parse (expression ++ suffix) = .error fault) := by
  have refused_iff : ∀ text : String,
      parse text = .error fault ↔
        Text.isBlankText text = false ∧
          (FirstOffence text.toList fault ∨
            (Unoffending text.toList ∧ EndOffence text.toList fault)) := by
    intro text
    cases blank : Text.isBlankText text with
    | true => simp [parse_of_blank blank]
    | false => simp [parse_of_not_blank blank, scan_eq_error_iff]
  refine ⟨refused_iff expression, ?_⟩
  intro refused notAtEnd suffix
  -- A first offence stays the first one whatever follows; anything else is at the end.
  obtain ⟨notBlank, first | ⟨_, atEnd⟩⟩ := (refused_iff expression).1 refused
  · rw [refused_iff, Text.isBlankText, String.toList_append, List.all_append]
    refine ⟨?_, Or.inl (first.append suffix.toList)⟩
    rw [Text.isBlankText] at notBlank
    rw [notBlank, Bool.false_and]
  · exact absurd atEnd.atEnd notAtEnd

theorem parse_reports_first_offence_nested :
    (FirstOffence "and(é, not(a; b)".toList (.call (.negationOf 2)) ∧
        ∀ suffix, parse ("and(é, not(a; b)" ++ suffix) = .error (.call (.negationOf 2))) ∧
      (Unoffending "or(é, and(a), not(b".toList ∧
        EndOffence "or(é, and(a), not(b".toList (.neverClosed .not 18)) := by
  have twoOperands : parse "and(é, not(a; b)" = .error (.call (.negationOf 2)) := by decide
  have stillOpen : parse "or(é, and(a), not(b" = .error (.neverClosed .not 18) := by decide
  obtain ⟨refused_iff, lasts⟩ := parse_reports_first_offence _ (.call (.negationOf 2))
  refine ⟨⟨?_, lasts twoOperands (by rintro ⟨⟩)⟩, ?_⟩
  · rcases (refused_iff.1 twoOperands).2 with first | ⟨_, atEnd⟩
    · exact first
    · cases atEnd.atEnd
  · have refused := (parse_reports_first_offence _ _).1.1 stillOpen
    rcases refused.2 with first | atEnd
    · obtain ⟨_, _, _, _, offence, _⟩ := first
      cases offence
    · exact atEnd

end Expression

end TagSelection
