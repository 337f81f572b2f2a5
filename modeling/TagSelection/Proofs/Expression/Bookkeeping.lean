import TagSelection.Proofs.Condition.WellFormed
import TagSelection.Proofs.Expression.OuterCalls

/-!
# The state of the scan

Everything that the scan keeps can be read off the text behind it.  The open calls stand
for the parentheses that are not matched yet, in their order; the word is the last one of
the text; and the results stand for the calls that have ended outside of all others.  All
conditions that it keeps, complete or as operands of an open call, can be written down.
-/

namespace TagSelection

namespace Expression

variable {text : List Char} {calls : List OpenCall} {results : Array Condition}

/-- The open calls, innermost first, have the columns of the unmatched parentheses, and
these fall. -/
theorem Opened.columns (opened : Opened text calls results) :
    (calls.map OpenCall.column).Pairwise (· > ·) ∧
      ∀ column, column ∈ calls.map OpenCall.column ↔ Unclosed text column := by
  induction opened with
  | outside isCalls =>
      refine ⟨List.Pairwise.nil, ?_⟩
      intro column
      exact iff_of_false List.not_mem_nil (isCalls.balanced.not_unclosed column)
  | @inside before word elements operator operands results outer _ isWord _ leads
      inductionHypothesis =>
      obtain ⟨falling, mem_iff⟩ := inductionHypothesis
      -- The elements behind the new parenthesis are balanced, so it is the only one that
      -- comes in.
      have balanced : Balanced elements := by
        simpa using (leads.body isWord_nil).balanced
      have unclosed_iff (column : Nat) :
          Unclosed (before ++ (word ++ '(' :: elements)) column ↔
            Unclosed before column ∨ column = (before ++ word).length + 1 := by
        rw [← List.append_assoc, balanced.unclosed_opening_iff,
          isWord.balanced.unclosed_append_iff]
      constructor
      · rw [List.map_cons, List.pairwise_cons]
        refine ⟨?_, falling⟩
        intro column isOuter
        have within := ((mem_iff column).1 isOuter).le_length
        change column < (before ++ word).length + 1
        rw [List.length_append]
        omega
      · intro column
        rw [List.map_cons, List.mem_cons, mem_iff, unclosed_iff, or_comm]

theorem columns_of_run {state : Scan} (reached : Scan.run {} 1 text = .ok state) :
    (state.calls.map OpenCall.column).Pairwise (· > ·) ∧
      ∀ column, column ∈ state.calls.map OpenCall.column ↔ Unclosed text column := by
  cases reads_of_run reached with
  | @mk before word calls results opened isWord =>
      obtain ⟨falling, mem_iff⟩ := opened.columns
      refine ⟨falling, ?_⟩
      intro column
      rw [mem_iff, isWord.balanced.unclosed_append_iff]

/-- The conditions in a state of the scan: the operands of the open calls and the
results. -/
def Scan.stored (scan : Scan) : List Condition :=
  scan.calls.flatMap (fun call => call.operands.toList) ++ scan.results.toList

theorem Call.wellFormed {condition : Condition} (call : Call text condition) :
    condition.WellFormed :=
  (Describes.call call isBlankWord_nil).wellFormed

theorem Calls.wellFormed {conditions : List Condition} (calls : Calls text conditions) :
    ∀ condition ∈ conditions, condition.WellFormed := by
  induction calls with
  | nil => exact List.forall_mem_nil _
  | snoc _ call inductionHypothesis =>
      exact List.forall_mem_append.2
        ⟨inductionHypothesis, List.forall_mem_singleton.2 call.wellFormed⟩

theorem Leads.wellFormed {operands : List Condition} (leads : Leads text operands) :
    ∀ operand ∈ operands, operand.WellFormed := by
  intro operand member
  have body := leads.body isWord_nil
  exact body.wellFormed operand (List.mem_append_left _ member)

theorem Opened.wellFormed (opened : Opened text calls results) :
    (∀ call ∈ calls, ∀ operand ∈ call.operands.toList, operand.WellFormed) ∧
      ∀ condition ∈ results.toList, condition.WellFormed := by
  induction opened with
  | outside isCalls => exact ⟨List.forall_mem_nil _, isCalls.wellFormed⟩
  | inside _ _ _ leads inductionHypothesis =>
      obtain ⟨outerOperands, areResults⟩ := inductionHypothesis
      exact ⟨List.forall_mem_cons.2 ⟨leads.wellFormed, outerOperands⟩, areResults⟩

theorem wellFormed_of_stored {state : Scan} (reached : Scan.run {} 1 text = .ok state) :
    ∀ condition ∈ state.stored, condition.WellFormed := by
  cases reads_of_run reached with
  | mk opened _ =>
      obtain ⟨operands, areResults⟩ := opened.wellFormed
      intro condition isStored
      rcases List.mem_append.1 isStored with isOperand | isResult
      · obtain ⟨call, isOpen, among⟩ := List.mem_flatMap.1 isOperand
        exact operands call isOpen condition among
      · exact areResults condition isResult

/-- What the scan keeps is what the text that it has read says: an open call for each
parenthesis that is not matched yet, at its column and in its order; the characters since
the last delimiter; a result for each call that has ended outside of all others; and only
conditions that can be written down. -/
theorem state_reflects_read_text {read : List Char} {state : Scan}
    (reached : Scan.run {} 1 read = .ok state) :
    (state.calls.length : Int) = read.count '(' - read.count ')' ∧
      (state.calls.reverse.map OpenCall.column).Pairwise (· < ·) ∧
      (∀ column,
        column ∈ state.calls.reverse.map OpenCall.column ↔ Unclosed read column) ∧
      state.word.toList = lastWord read ∧
      (∀ condition ∈ state.stored, condition.WellFormed) ∧
      state.results.size = (outerCallEnds read).length := by
  have counts := countsOuterCalls_of_run reached
  obtain ⟨falling, mem_iff⟩ := columns_of_run reached
  refine ⟨counts.depth_eq, ?_, ?_, counts.word_eq, wellFormed_of_stored reached,
    counts.size_eq⟩
  · rw [List.map_reverse, List.pairwise_reverse]
    exact falling
  · intro column
    rw [List.map_reverse, List.mem_reverse, mem_iff]

theorem state_reflects_read_text_two_open :
    let read := "or(a) and(é, not( b c;d".toList
    let state : Scan :=
      { word := "d"
        calls :=
          [{ operator := .not, column := 17, operands := #[.has "b c"] },
            { operator := .and, column := 10, operands := #[.has "é"] }]
        results := #[.or [.has "a"]] }
    Scan.run {} 1 read = .ok state ∧
      (∀ column, Unclosed read column ↔ column = 10 ∨ column = 17) ∧
      lastWord read = ['d'] ∧ (Condition.has "b c").WellFormed ∧
      (outerCallEnds read).length = 1 := by
  intro read state
  have reached : Scan.run {} 1 read = .ok state := by decide
  obtain ⟨_, _, unclosed_iff, word, wellFormed, ends⟩ := state_reflects_read_text reached
  refine ⟨reached, ?_, word.symm.trans (by decide), wellFormed _ (by decide), ends.symm⟩
  intro column
  rw [← unclosed_iff]
  simp [state]

end Expression

end TagSelection
