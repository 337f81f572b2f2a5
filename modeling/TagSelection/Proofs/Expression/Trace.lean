import TagSelection.Proofs.Expression.Language
import TagSelection.Proofs.Expression.Parentheses

/-!
# What the scan knows of the text

At every moment the scan has the last word of the text behind it, and one open call for
each level of depth.  Every open call has the column of an opening parenthesis and the
operator that the word in front of it names.  The operands of the innermost call are
those of the text behind its parenthesis.
-/

namespace TagSelection

namespace Expression

/-- The call was opened at its column by a word that names its operator. -/
def OpenedIn (text : List Char) (call : OpenCall) : Prop :=
  ∃ before after, text = before ++ '(' :: after ∧ call.column = before.length + 1 ∧
    Names (lastWord before) call.operator

/-- The state has the last word of the text, and an open call for each level of its
depth. -/
structure Tracks (text : List Char) (scan : Scan) : Prop where
  word_eq : scan.word.toList = lastWord text
  depth_eq : (scan.calls.length : Int) = depth text
  openedIn : ∀ call ∈ scan.calls, OpenedIn text call

theorem tracks_nil : Tracks [] {} where
  word_eq := rfl
  depth_eq := rfl
  openedIn := by simp

theorem OpenedIn.concat {text : List Char} {call : OpenCall} (opened : OpenedIn text call)
    (c : Char) : OpenedIn (text ++ [c]) call := by
  obtain ⟨before, after, rfl, column, names⟩ := opened
  exact ⟨before, after ++ [c], by simp, column, names⟩

theorem Scan.complete_calls {outer : List OpenCall} {results : Array Condition}
    {condition : Condition} {text : List Char} (opened : ∀ call ∈ outer, OpenedIn text call) :
    (∀ call ∈ (Scan.complete outer results condition).calls, OpenedIn text call) ∧
      (Scan.complete outer results condition).calls.length = outer.length ∧
      (Scan.complete outer results condition).word = "" := by
  cases outer with
  | nil => exact ⟨by simp [complete], rfl, rfl⟩
  | cons parent rest =>
      obtain ⟨openedParent, openedRest⟩ := List.forall_mem_cons.1 opened
      refine ⟨?_, rfl, rfl⟩
      exact List.forall_mem_cons.2 ⟨openedParent, openedRest⟩

theorem Tracks.step {text : List Char} {scan next : Scan} {c : Char}
    (tracks : Tracks text scan) (steps : scan.Steps (text.length + 1) c next) :
    Tracks (text ++ [c]) next := by
  -- A further character moves no call that is open already.
  have openedBefore : ∀ call ∈ scan.calls, OpenedIn (text ++ [c]) call :=
    fun call isOpen => (tracks.openedIn call isOpen).concat c
  have level := tracks.depth_eq
  cases steps with
  | opens names =>
      have opening : depth ['('] = 1 := rfl
      rw [tracks.word_eq] at names
      refine ⟨(lastWord_concat_delimiter rfl text).symm, ?_, ?_⟩
      · rw [depth_append, opening, ← level, List.length_cons]
        rfl
      · exact List.forall_mem_cons.2 ⟨⟨text, [], rfl, rfl, names⟩, openedBefore⟩
  | @separates _ call outer isSeparator isOpen =>
      obtain ⟨notOpening, notClosing⟩ := ne_parenthesis_of_separator isSeparator
      have delimiter := isDelimiter_of_isSeparator isSeparator
      rw [isOpen] at openedBefore level
      refine ⟨(lastWord_concat_delimiter delimiter text).symm, ?_, ?_⟩
      · rw [depth_append, depth_plain notOpening notClosing, ← level]
        simp
      · obtain ⟨openedCall, openedOuter⟩ := List.forall_mem_cons.1 openedBefore
        exact List.forall_mem_cons.2 ⟨openedCall, openedOuter⟩
  | @closes call outer condition isOpen _ =>
      have closing : depth [')'] = -1 := rfl
      rw [isOpen] at openedBefore level
      obtain ⟨opened, sameLength, noWord⟩ :=
        Scan.complete_calls (List.forall_mem_cons.1 openedBefore).2
      refine ⟨?_, ?_, opened⟩
      · rw [noWord]
        exact (lastWord_concat_delimiter rfl text).symm
      · rw [sameLength, depth_append, closing, ← level, List.length_cons]
        omega
  | writes plain =>
      obtain ⟨notOpening, notClosing⟩ := ne_parenthesis_of_plain plain
      refine ⟨?_, ?_, openedBefore⟩
      · rw [String.toList_push, tracks.word_eq, lastWord_concat_plain plain]
      · rw [depth_append, depth_plain notOpening notClosing, Int.add_zero]
        exact level

theorem tracks_of_run {text : List Char} {scan : Scan}
    (reached : Scan.run {} 1 text = .ok scan) : Tracks text scan :=
  Scan.run_preserves
    (fun _ _ _ _ tracks stepped => tracks.step (Scan.steps_of_step stepped))
    tracks_nil reached

theorem reads_of_run {text : List Char} {scan : Scan}
    (reached : Scan.run {} 1 text = .ok scan) : Reads text scan :=
  reads_nil.run reached

theorem Tracks.calls_eq_nil_iff {text : List Char} {scan : Scan}
    (tracks : Tracks text scan) : scan.calls = [] ↔ depth text = 0 := by
  rw [← tracks.depth_eq, ← List.length_eq_zero_iff]
  omega

theorem Leads.body {text : List Char} {operands : List Condition}
    (leads : Leads text operands) {word : List Char} (isWord : IsWord word) :
    Body (text ++ word) (operands ++ wordOperands word) :=
  leads word _ (Body.last isWord)

/-- Behind the parenthesis of the innermost call stands a body with the operands that the
call has so far and that of the last word. -/
theorem innermost_of_run {text : List Char} {scan : Scan}
    (reached : Scan.run {} 1 text = .ok scan) {call : OpenCall} {outer : List OpenCall}
    (isOpen : scan.calls = call :: outer) :
    ∃ before inner, text = before ++ '(' :: inner ∧ call.column = before.length + 1 ∧
      Names (lastWord before) call.operator ∧
      Body inner (call.operands.toList ++ wordOperands scan.word.toList) := by
  have tracks := tracks_of_run reached
  have reads := reads_of_run reached
  have isMember : call ∈ scan.calls := by simp [isOpen]
  obtain ⟨before, inner, split, column, names⟩ := tracks.openedIn call isMember
  refine ⟨before, inner, split, column, names, ?_⟩
  cases reads with
  | @mk _ word calls results opened isWord =>
      cases isOpen
      cases opened with
      | @inside earlier name elements operator operands _ outer _ _ _ leads =>
          -- Both splits of the text are at the column of the call.
          have sameText :
              (earlier ++ name) ++ '(' :: (elements ++ word.toList) =
                before ++ '(' :: inner := by
            simpa using split
          have sameLength : (earlier ++ name).length = before.length := by
            simpa using column
          obtain ⟨_, sameRest⟩ := List.append_inj sameText sameLength
          cases sameRest
          exact leads.body isWord

end Expression

end TagSelection
