import TagSelection.Proofs.Expression.Offences

/-!
# Calls outside of every other call

A closing parenthesis behind a text of depth 1 ends a call that stands in no other one.
The scan has completed one condition for each of these calls, and outside of all calls it
collects what stands behind the last of them.  At the end of an expression that is not
blank there is thus always a condition, and if there are several, their number is that of
the calls and of what stands behind them.
-/

namespace TagSelection

namespace Expression

/-- The character at the position closes a call that stands in no other call. -/
def EndsOuterCall (text : List Char) (position : Nat) : Prop :=
  text[position]? = some ')' ∧ depth (text.take position) = 1

instance (text : List Char) (position : Nat) : Decidable (EndsOuterCall text position) :=
  inferInstanceAs
    (Decidable (text[position]? = some ')' ∧ depth (text.take position) = 1))

def outerCallEnds (text : List Char) : List Nat :=
  (List.range text.length).filter fun position => EndsOuterCall text position

def lastOuterEnd (text : List Char) : Nat :=
  ((outerCallEnds text).getLast?.map (· + 1)).getD 0

/-- The text behind the last outer call; all of it if there is no such call. -/
def behindOuterCalls (text : List Char) : List Char :=
  text.drop (lastOuterEnd text)

/-- The number of conditions that the text holds outside of every call: one for each outer
call, and one for what stands behind them if that is not blank. -/
def conditionCount (text : List Char) : Nat :=
  (outerCallEnds text).length + if (behindOuterCalls text).all Text.isBlank then 0 else 1

variable {text : List Char} {c : Char}

theorem endsOuterCall_append_iff {position : Nat} (within : position < text.length)
    (more : List Char) : EndsOuterCall (text ++ more) position ↔ EndsOuterCall text position := by
  rw [EndsOuterCall, EndsOuterCall, List.getElem?_append_left within,
    List.take_append_of_le_length (Nat.le_of_lt within)]

theorem endsOuterCall_concat_iff :
    EndsOuterCall (text ++ [c]) text.length ↔ c = ')' ∧ depth text = 1 := by
  simp [EndsOuterCall]

theorem outerCallEnds_concat (text : List Char) (c : Char) :
    outerCallEnds (text ++ [c]) =
      outerCallEnds text ++ if c = ')' ∧ depth text = 1 then [text.length] else [] := by
  have earlier :
      (List.range text.length).filter (fun position => EndsOuterCall (text ++ [c]) position) =
        outerCallEnds text := by
    apply List.filter_congr
    intro position member
    simp [endsOuterCall_append_iff (List.mem_range.1 member)]
  rw [outerCallEnds, List.length_append, List.length_singleton, List.range_succ,
    List.filter_append, earlier, List.filter_singleton]
  simp [endsOuterCall_concat_iff]

theorem lastOuterEnd_le_length (text : List Char) : lastOuterEnd text ≤ text.length := by
  rw [lastOuterEnd]
  cases last : (outerCallEnds text).getLast? with
  | none => exact Nat.zero_le _
  | some position =>
      have member := List.mem_of_getLast? last
      have within := List.mem_range.1 (List.mem_filter.1 member).1
      exact within

theorem behindOuterCalls_concat_end (outer : depth text = 1) :
    behindOuterCalls (text ++ [')']) = [] := by
  have atEnd : lastOuterEnd (text ++ [')']) = (text ++ [')']).length := by
    rw [lastOuterEnd, outerCallEnds_concat, if_pos ⟨rfl, outer⟩]
    simp
  rw [behindOuterCalls, atEnd, List.drop_length]

theorem behindOuterCalls_concat (other : ¬ (c = ')' ∧ depth text = 1)) :
    behindOuterCalls (text ++ [c]) = behindOuterCalls text ++ [c] := by
  have sameEnd : lastOuterEnd (text ++ [c]) = lastOuterEnd text := by
    rw [lastOuterEnd, outerCallEnds_concat, if_neg other, List.append_nil, lastOuterEnd]
  rw [behindOuterCalls, sameEnd, List.drop_append_of_le_length (lastOuterEnd_le_length text),
    behindOuterCalls]

/-! ## The results of the scan -/

/-- The state has a result for each outer call that has ended, and outside of all calls the
word is what stands behind the last of them. -/
structure CountsOuterCalls (text : List Char) (scan : Scan) : Prop extends
    Tracks text scan where
  size_eq : scan.results.size = (outerCallEnds text).length
  behind_eq : scan.calls = [] → scan.word.toList = behindOuterCalls text

theorem countsOuterCalls_nil : CountsOuterCalls [] {} where
  toTracks := tracks_nil
  size_eq := rfl
  behind_eq := fun _ => rfl

theorem CountsOuterCalls.keep {scan next : Scan} (counts : CountsOuterCalls text scan)
    (tracks : Tracks (text ++ [c]) next) (other : ¬ (c = ')' ∧ depth text = 1))
    (sameResults : next.results = scan.results)
    (behind : next.calls = [] → next.word.toList = behindOuterCalls text ++ [c]) :
    CountsOuterCalls (text ++ [c]) next := by
  refine ⟨tracks, ?_, ?_⟩
  · rw [sameResults, counts.size_eq, outerCallEnds_concat, if_neg other, List.append_nil]
  · rw [behindOuterCalls_concat other]
    exact behind

theorem CountsOuterCalls.step {scan next : Scan} (counts : CountsOuterCalls text scan)
    (steps : scan.Steps (text.length + 1) c next) : CountsOuterCalls (text ++ [c]) next := by
  have tracks := counts.toTracks.step steps
  have level := counts.depth_eq
  cases steps with
  | opens _ =>
      apply counts.keep tracks (by simp) rfl
      intro closed
      cases closed
  | separates separates _ =>
      obtain ⟨_, notClosing⟩ := ne_parenthesis_of_separator separates
      apply counts.keep tracks (fun ends => notClosing ends.1) rfl
      intro closed
      cases closed
  | @closes call outer condition isOpen _ =>
      rw [isOpen, List.length_cons] at level
      -- The call stands in no other one exactly if the text in front of it has depth 1.
      cases outer with
      | nil =>
          have outermost : depth text = 1 := level.symm
          refine ⟨tracks, ?_, ?_⟩
          · rw [outerCallEnds_concat, if_pos ⟨rfl, outermost⟩]
            simp [Scan.complete, counts.size_eq]
          · intro _
            rw [behindOuterCalls_concat_end outermost]
            rfl
      | cons parent rest =>
          have inner : depth text ≠ 1 := by
            rw [List.length_cons] at level
            omega
          apply counts.keep tracks (fun ends => inner ends.2) rfl
          intro closed
          cases closed
  | writes plain =>
      obtain ⟨_, notClosing⟩ := ne_parenthesis_of_plain plain
      apply counts.keep tracks (fun ends => notClosing ends.1) rfl
      intro closed
      rw [String.toList_push, counts.behind_eq closed]

theorem countsOuterCalls_of_run {scan : Scan} (reached : Scan.run {} 1 text = .ok scan) :
    CountsOuterCalls text scan :=
  Scan.run_preserves
    (fun _ _ _ _ counts stepped => counts.step (Scan.steps_of_step stepped))
    countsOuterCalls_nil reached

/-- The conditions at the end of the text: those completed and that of the last word. -/
def Scan.found (scan : Scan) : List Condition :=
  scan.results.toList ++ (tagOf scan.word).toList

/-- The end of the expression in two steps: there must be one condition, and the last one is
taken.  The given answer is that for the case that there is none to take. -/
def Scan.concludeOr (nothing : Except Fault Condition) (scan : Scan) :
    Except Fault Condition :=
  match scan.calls with
  | call :: _ => .error (.neverClosed call.operator call.column)
  | [] =>
      if scan.found.length ≠ 1 then .error (.conditionCount scan.found.length)
      else (scan.found.getLast?.map Except.ok).getD nothing

variable {state : Scan}

theorem length_wordOperands (word : List Char) :
    (wordOperands word).length = if word.all Text.isBlank then 0 else 1 := by
  cases blank : word.all Text.isBlank with
  | true => rw [wordOperands_of_blank blank, if_pos rfl, List.length_nil]
  | false => rw [wordOperands_of_not_blank blank, if_neg Bool.false_ne_true, List.length_singleton]

theorem length_found (reached : Scan.run {} 1 text = .ok state) (closed : state.calls = []) :
    state.found.length = conditionCount text := by
  have counts := countsOuterCalls_of_run reached
  rw [Scan.found, List.length_append, Array.length_toList, counts.size_eq, toList_tagOf,
    length_wordOperands, counts.behind_eq closed, conditionCount]

theorem conditionCount_of_blank (blank : text.all Text.isBlank = true) :
    conditionCount text = 0 := by
  have isWord := (isBlankWord_of_blank blank).1
  have reached : Scan.run {} 1 text = .ok { word := String.ofList text } :=
    Scan.run_word_after_delimiter isWord 1
  have length := length_found reached rfl
  rw [Scan.found, toList_tagOf, String.toList_ofList, wordOperands_of_blank blank] at length
  exact length.symm

theorem found_ne_nil (notBlank : text.all Text.isBlank = false)
    (reached : Scan.run {} 1 text = .ok state) (closed : state.calls = []) :
    state.found ≠ [] := by
  intro none
  obtain ⟨noResults, noTag⟩ := List.append_eq_nil_iff.1 none
  obtain ⟨before, split, calls, _⟩ := calls_of_run reached closed
  rw [noResults] at calls
  have noCalls : before = [] := calls.eq_nil
  rw [noCalls, List.nil_append] at split
  rw [toList_tagOf, ← split, wordOperands_of_not_blank notBlank] at noTag
  cases noTag

/-- Where there is one condition, there is one to take. -/
theorem concludeOr_eq_conclude (nothing : Except Fault Condition) (scan : Scan) :
    scan.concludeOr nothing = scan.conclude := by
  rw [Scan.concludeOr, Scan.conclude]
  cases scan.calls with
  | cons call outer => rfl
  | nil =>
      rw [Scan.found]
      cases scan.results.toList ++ (tagOf scan.word).toList with
      | nil => rfl
      | cons first rest =>
          cases rest with
          | nil => rfl
          | cons second others =>
              have several : (first :: second :: others).length ≠ 1 := by simp
              exact if_pos several

theorem not_offence_conditionCount (count : Nat) :
    ¬ Offence text c (.conditionCount count) := by
  rintro ⟨⟩

/-- Another number of conditions than one is the fault of a text that has been read to its
end outside of all calls. -/
theorem scan_eq_conditionCount_iff (expression : String) (count : Nat) :
    scan expression = .error (.conditionCount count) ↔
      ∃ state, Scan.run {} 1 expression.toList = .ok state ∧ state.calls = [] ∧
        count ≠ 1 ∧ count = conditionCount expression.toList := by
  rw [scan, bind_eq_error_iff, run_eq_error_iff_firstOffence]
  constructor
  · rintro (⟨_, _, _, _, offence, _⟩ | ⟨state, reached, refused⟩)
    · exact absurd offence (not_offence_conditionCount count)
    · rcases (Scan.conclude_eq_error_iff _ _).1 refused with
        ⟨_, _, _, impossible⟩ | ⟨closed, several, isCount⟩
      · cases impossible
      · have isLength : count = state.found.length := by
          rw [Scan.found, toList_tagOf]
          exact Fault.conditionCount.inj isCount
        refine ⟨state, reached, closed, ?_, ?_⟩
        · rwa [isLength, Scan.found, toList_tagOf]
        · rw [isLength, length_found reached closed]
  · rintro ⟨state, reached, closed, several, rfl⟩
    refine Or.inr ⟨state, reached, (Scan.conclude_eq_error_iff _ _).2 (Or.inr ?_)⟩
    have isLength := length_found reached closed
    rw [Scan.found, toList_tagOf] at isLength
    rw [isLength]
    exact ⟨closed, several, rfl⟩

/-- At the end of an expression that is not blank the scan has found a condition, and where
it has found one alone, it never lacks one to give back.  An expression is refused for the
number of its conditions exactly if it is read to its end outside of all calls and holds two
conditions or more, and the fault tells how many. -/
theorem end_of_scan_finds_conditions (expression : String) :
    (∀ state, Text.isBlankText expression = false →
        Scan.run {} 1 expression.toList = .ok state → state.calls = [] →
          state.found ≠ [] ∧ ∀ nothing, state.concludeOr nothing = state.conclude) ∧
      ∀ count,
        parse expression = .error (.conditionCount count) ↔
          (∃ state, Scan.run {} 1 expression.toList = .ok state ∧ state.calls = []) ∧
            2 ≤ count ∧
            count =
              (outerCallEnds expression.toList).length +
                if (behindOuterCalls expression.toList).all Text.isBlank then 0 else 1 := by
  constructor
  · intro state notBlank reached closed
    refine ⟨found_ne_nil notBlank reached closed, ?_⟩
    intro nothing
    exact concludeOr_eq_conclude nothing state
  · intro count
    change _ ↔ _ ∧ 2 ≤ count ∧ count = conditionCount expression.toList
    cases blank : Text.isBlankText expression with
    | true =>
        rw [parse_of_blank blank, conditionCount_of_blank blank]
        constructor
        · intro impossible
          cases impossible
        · rintro ⟨_, several, rfl⟩
          cases several
    | false =>
        rw [parse_of_not_blank blank, scan_eq_conditionCount_iff]
        constructor
        · rintro ⟨state, reached, closed, notOne, isCount⟩
          -- There is a condition, and it is not one alone.
          have positive := List.length_pos_iff.2 (found_ne_nil blank reached closed)
          rw [length_found reached closed, ← isCount] at positive
          exact ⟨⟨state, reached, closed⟩, by omega, isCount⟩
        · rintro ⟨⟨state, reached, closed⟩, several, isCount⟩
          exact ⟨state, reached, closed, by omega, isCount⟩

theorem end_of_scan_finds_conditions_several :
    let expression := "and(a) or(b; not(c)) é"
    let last : Scan :=
      { word := " é"
        results := #[.and [.has "a"], .or [.has "b", .not (some (.has "c"))]] }
    Text.isBlankText expression = false ∧ Scan.run {} 1 expression.toList = .ok last ∧
      last.found ≠ [] ∧ parse expression = .error (.conditionCount 3) ∧
      Scan.concludeOr (.error (.conditionCount 0)) { word := " a\n" } = .ok (.has "a") := by
  intro expression last
  have notBlank : Text.isBlankText expression = false := by decide
  have reached : Scan.run {} 1 expression.toList = .ok last := by decide
  have single : Scan.run {} 1 " a\n".toList = .ok { word := " a\n" } := by decide
  have concluded : Scan.conclude { word := " a\n" } = .ok (.has "a") := by decide
  obtain ⟨finds, counted⟩ := end_of_scan_finds_conditions expression
  obtain ⟨_, taken⟩ := (end_of_scan_finds_conditions " a\n").1 _ (by decide) single rfl
  refine ⟨notBlank, reached, (finds last notBlank reached rfl).1, ?_,
    (taken _).trans concluded⟩
  exact (counted 3).2 ⟨⟨last, reached, rfl⟩, by decide, by decide⟩

end Expression

end TagSelection
