import TagSelection.Proofs.Expression.Run

/-!
# The language of the scan

The scan accepts exactly the expressions of the grammar, each with the condition that
the grammar gives it.

What has been read is at every moment a derivation that is not complete: `Opened`
assigns to each open call the name and the elements behind it, and to the results the
calls that stand outside.  `Reads` adds the word that is being collected.  Every
character keeps this relation, so an accepted text has a derivation.  The converse is
the reading of derived texts, `Scan.run_call`.
-/

namespace TagSelection

namespace Expression

/-- Elements of a body: in front of every body they add their operands to it. -/
def Leads (text : List Char) (operands : List Condition) : Prop :=
  ∀ (rest : List Char) (more : List Condition),
    Body rest more → Body (text ++ rest) (operands ++ more)

inductive Calls : List Char → List Condition → Prop
  | nil : Calls [] []
  | snoc {text last : List Char} {conditions : List Condition} {condition : Condition} :
      Calls text conditions →
      Call last condition →
      Calls (text ++ last) (conditions ++ [condition])

/-- The text up to the last delimiter, with the calls that it leaves open, innermost
first, and with the conditions outside of every call. -/
inductive Opened : List Char → List OpenCall → Array Condition → Prop
  | outside {text : List Char} {results : Array Condition} :
      Calls text results.toList →
      Opened text [] results
  | inside {before word elements : List Char} {operator : Operator}
      {operands results : Array Condition} {outer : List OpenCall} :
      Opened before outer results →
      IsWord word →
      Names word operator →
      Leads elements operands.toList →
      Opened (before ++ (word ++ '(' :: elements))
        ({ operator, column := (before ++ word).length + 1, operands } :: outer) results

/-- The text that leads to a state of the scan. -/
inductive Reads : List Char → Scan → Prop
  | mk {before : List Char} {word : String} {calls : List OpenCall}
      {results : Array Condition} :
      Opened before calls results →
      IsWord word.toList →
      Reads (before ++ word.toList) { word, calls, results }

theorem leads_nil : Leads [] [] :=
  fun _ _ body => body

theorem Leads.separated {text word : List Char} {operands : List Condition}
    {separator : Char} (leads : Leads text operands) (isWord : IsWord word)
    (separates : isSeparator separator = true) :
    Leads (text ++ (word ++ [separator])) (operands ++ wordOperands word) := by
  intro rest more body
  simpa using leads _ _ (Body.separated isWord separates body)

theorem Leads.call {text last : List Char} {operands : List Condition}
    {condition : Condition} (leads : Leads text operands) (call : Call last condition) :
    Leads (text ++ last) (operands ++ [condition]) := by
  intro rest more body
  simpa using leads _ _ (Body.of_call call body)

theorem Opened.reads {text : List Char} {calls : List OpenCall}
    {results : Array Condition} (opened : Opened text calls results) :
    Reads text { calls, results } := by
  have noWord : IsWord "".toList := isWord_nil
  simpa using Reads.mk opened noWord

theorem reads_nil : Reads [] {} :=
  Opened.reads (Opened.outside Calls.nil)

theorem Opened.complete {before last : List Char} {outer : List OpenCall}
    {results : Array Condition} {condition : Condition}
    (opened : Opened before outer results) (call : Call last condition) :
    Reads (before ++ last) (Scan.complete outer results condition) := by
  cases opened with
  | outside calls =>
      apply Opened.reads
      apply Opened.outside
      simpa using Calls.snoc calls call
  | @inside before word elements operator operands _ rest parent isWord names leads =>
      apply Opened.reads
      have extended : Leads (elements ++ last) (operands.push condition).toList := by
        simpa using leads.call call
      simpa [OpenCall.add] using Opened.inside parent isWord names extended

theorem Reads.opens {text : List Char} {scan : Scan} {operator : Operator}
    (reads : Reads text scan) (named : Names scan.word.toList operator) :
    Reads (text ++ ['('])
      { scan with
        word := "", calls := { operator, column := text.length + 1 } :: scan.calls } := by
  cases reads with
  | @mk before word calls results opened isWord =>
      have noElements : Leads [] (#[] : Array Condition).toList := leads_nil
      simpa using (Opened.inside opened isWord named noElements).reads

theorem Reads.separates {text : List Char} {scan : Scan} {call : OpenCall}
    {outer : List OpenCall} {separator : Char} (reads : Reads text scan)
    (separates : isSeparator separator = true) (isOpen : scan.calls = call :: outer) :
    Reads (text ++ [separator])
      { scan with
        word := "", calls := call.addAll (wordOperands scan.word.toList) :: outer } := by
  cases reads with
  | @mk before word calls results opened isWord =>
      cases isOpen
      cases opened with
      | @inside before name elements operator operands _ outer parent isName names leads =>
          have extended :
              Leads (elements ++ (word.toList ++ [separator]))
                (operands ++ (wordOperands word.toList).toArray).toList := by
            simpa using leads.separated isWord separates
          simpa [OpenCall.addAll] using (Opened.inside parent isName names extended).reads

theorem Reads.closes {text : List Char} {scan : Scan} {call : OpenCall}
    {outer : List OpenCall} {condition : Condition} (reads : Reads text scan)
    (isOpen : scan.calls = call :: outer)
    (reduced : (call.addAll (wordOperands scan.word.toList)).reduce = .ok condition) :
    Reads (text ++ [')']) (Scan.complete outer scan.results condition) := by
  cases reads with
  | @mk before word calls results opened isWord =>
      cases isOpen
      cases opened with
      | @inside before name elements operator operands _ outer parent isName names leads =>
          rw [OpenCall.reduce_eq_ok_iff, OpenCall.toList_operands_addAll] at reduced
          have body := leads _ _ (Body.last isWord)
          have call := Call.mk isName names body reduced
          simpa using parent.complete call

theorem Reads.push {text : List Char} {scan : Scan} {c : Char}
    (reads : Reads text scan) (notDelimiter : isDelimiter c = false) :
    Reads (text ++ [c]) { scan with word := scan.word.push c } := by
  cases reads with
  | @mk before word calls results opened isWord =>
      have longer : IsWord (word.push c).toList := by
        rw [String.toList_push, isWord_append, isWord_cons]
        exact ⟨isWord, notDelimiter, isWord_nil⟩
      simpa using Reads.mk opened longer

/-- Each character keeps the relation between the text and the state. -/
theorem Reads.step {text : List Char} {scan next : Scan} {c : Char}
    (reads : Reads text scan) (steps : scan.Steps (text.length + 1) c next) :
    Reads (text ++ [c]) next := by
  cases steps with
  | opens named => exact reads.opens named
  | separates separates isOpen => exact reads.separates separates isOpen
  | closes isOpen reduced => exact reads.closes isOpen reduced
  | writes plain => exact reads.push plain

theorem Reads.run {text rest : List Char} {scan last : Scan} (reads : Reads text scan)
    (reached : scan.run (text.length + 1) rest = .ok last) :
    Reads (text ++ rest) last :=
  Scan.run_preserves
    (fun _ _ _ _ earlier stepped => earlier.step (Scan.steps_of_step stepped))
    reads reached

theorem Scan.conclude_eq_ok_iff (scan : Scan) (condition : Condition) :
    scan.conclude = .ok condition ↔
      scan.calls = [] ∧
        scan.results.toList ++ wordOperands scan.word.toList = [condition] := by
  unfold Scan.conclude
  rw [← toList_tagOf]
  cases scan.calls with
  | cons call outer => simp
  | nil =>
      simp only [true_and]
      split
      case h_1 single equality => simp [equality]
      case h_2 several => simpa using several condition

theorem Calls.eq_nil {text : List Char} (calls : Calls text []) : text = [] := by
  generalize none : ([] : List Condition) = conditions at calls
  cases calls with
  | nil => rfl
  | snoc _ _ => simp at none

theorem Calls.single {text : List Char} {condition : Condition}
    (calls : Calls text [condition]) : Call text condition := by
  generalize one : [condition] = conditions at calls
  cases calls with
  | nil => cases one
  | @snoc before last earlier final calls call =>
      have parts : earlier = [] ∧ condition = final := by
        cases earlier <;> simp_all
      obtain ⟨rfl, rfl⟩ := parts
      rw [calls.eq_nil]
      exact call

theorem Reads.conclude {text : List Char} {scan : Scan} {condition : Condition}
    (reads : Reads text scan) (concluded : scan.conclude = .ok condition) :
    Describes text condition := by
  obtain ⟨closed, single⟩ := (Scan.conclude_eq_ok_iff _ _).1 concluded
  cases reads with
  | @mk before word calls results opened isWord =>
      cases closed
      cases opened with
      | outside calls =>
          -- One condition is left: that of the only call, or that of the last word.
          by_cases blank : word.toList.all Text.isBlank = true
          · rw [wordOperands_of_blank blank, List.append_nil] at single
            rw [single] at calls
            exact Describes.call calls.single ⟨isWord, blank⟩
          · rw [Bool.not_eq_true] at blank
            rw [wordOperands_of_not_blank blank] at single
            have noCalls : results.toList = [] := by
              cases equality : results.toList with
              | nil => rfl
              | cons first others => simp [equality] at single
            rw [noCalls] at single calls
            cases single
            rw [calls.eq_nil]
            exact Describes.tag isWord blank

/-- The scan of a text gives exactly the condition that the text describes. -/
theorem scan_eq_ok_iff (expression : String) (condition : Condition) :
    scan expression = .ok condition ↔ Describes expression.toList condition := by
  rw [scan, bind_eq_ok_iff]
  constructor
  · rintro ⟨last, reached, concluded⟩
    exact (reads_nil.run reached).conclude concluded
  · intro describes
    generalize expression.toList = text at describes
    cases describes with
    | @tag word isWord notBlank =>
        refine ⟨_, Scan.run_word_after_delimiter isWord 1, ?_⟩
        rw [Scan.conclude_eq_ok_iff, String.toList_ofList,
          wordOperands_of_not_blank notBlank]
        exact ⟨rfl, rfl⟩
    | @call before blanks condition call blank =>
        refine ⟨{ word := String.ofList blanks, results := #[condition] }, ?_, ?_⟩
        · rw [Scan.run_append, Scan.run_call call]
          exact Scan.run_word_after_delimiter blank.1 _
        · rw [Scan.conclude_eq_ok_iff, String.toList_ofList,
            wordOperands_of_blank blank.2]
          exact ⟨rfl, rfl⟩

theorem parse_of_blank {expression : String}
    (blank : Text.isBlankText expression = true) :
    parse expression = .ok .unrestricted :=
  if_pos blank

theorem parse_of_not_blank {expression : String}
    (notBlank : Text.isBlankText expression = false) :
    parse expression = scan expression := by
  rw [parse, notBlank]
  rfl

theorem Describes.parse {expression : String} {condition : Condition}
    (describes : Describes expression.toList condition) :
    parse expression = .ok condition := by
  rw [parse_of_not_blank describes.not_blank, scan_eq_ok_iff]
  exact describes

theorem describes_of_parse {expression : String} {condition : Condition}
    (notBlank : Text.isBlankText expression = false)
    (parsed : parse expression = .ok condition) :
    Describes expression.toList condition := by
  rwa [parse_of_not_blank notBlank, scan_eq_ok_iff] at parsed

/-- An expression that is not blank parses to exactly the condition that it describes
and is refused if it describes none; a blank one restricts nothing. -/
theorem parse_accepts_exactly (expression : String) :
    (∀ condition,
      parse expression = .ok condition ↔
        (Text.isBlankText expression = true ∧ condition = .unrestricted) ∨
          (Text.isBlankText expression = false ∧
            Describes expression.toList condition)) ∧
      ((∃ fault, parse expression = .error fault) ↔
        Text.isBlankText expression = false ∧
          ∀ condition, ¬ Describes expression.toList condition) := by
  cases blank : Text.isBlankText expression with
  | true =>
      rw [parse_of_blank blank]
      simp [eq_comm]
  | false =>
      rw [parse_of_not_blank blank]
      refine ⟨fun condition => by simp [scan_eq_ok_iff], ?_⟩
      simp only [← scan_eq_ok_iff, true_and]
      cases scan expression <;> simp

example : parse " Not ( a b ;) " = .ok (.not (some (.has "a b"))) := by decide

end Expression

end TagSelection
