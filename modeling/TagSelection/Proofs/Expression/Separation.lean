import TagSelection.Proofs.Expression.Language

/-!
# Separated operands

The documented form of a call is `name(term, …, term)` with a separator between each
term and the next; a term is a tag, a call, or blank.  `Term` and `TermList` state that
form.

The scan asks for less: behind a closing parenthesis inside a call it takes a further
operand also when no separator has come.  The expressions of the documented form are
exactly the accepted ones in which no character of a word follows a closing
parenthesis with blanks alone in between.
-/

namespace TagSelection

namespace Expression

mutual

/-- A term with the operands that it stands for: a word, which may be blank, or a call
with blanks around it. -/
inductive Term : List Char → List Condition → Prop
  | word {word : List Char} :
      IsWord word →
      Term word (wordOperands word)
  | call {word inner blanks : List Char} {operator : Operator}
      {children : List Condition} {condition : Condition} :
      IsWord word →
      Names word operator →
      TermList inner children →
      Composes operator children condition →
      IsBlankWord blanks →
      Term (word ++ '(' :: (inner ++ ')' :: blanks)) [condition]

/-- Terms with one separator between each of them and the next. -/
inductive TermList : List Char → List Condition → Prop
  | last {text : List Char} {operands : List Condition} :
      Term text operands →
      TermList text operands
  | more {text rest : List Char} {separator : Char}
      {operands others : List Condition} :
      Term text operands →
      isSeparator separator = true →
      TermList rest others →
      TermList (text ++ separator :: rest) (operands ++ others)

end

/-- The text goes on, blanks aside, with a character of a word. -/
def StartsWord (text : List Char) : Prop :=
  ∃ blanks c after,
    text = blanks ++ c :: after ∧ IsBlankWord blanks ∧
      isDelimiter c = false ∧ Text.isBlank c = false

/-- Somewhere a word follows a closing parenthesis without a separator. -/
def Juxtaposed (text : List Char) : Prop :=
  ∃ before after, text = before ++ ')' :: after ∧ StartsWord after

/-! ## Watching for words behind closing parentheses -/

/-- Whether blanks alone have come since the last closing parenthesis, after one more
character; no answer if that character is one of a word behind the parenthesis. -/
def watch (closed : Bool) (c : Char) : Option Bool :=
  if c = ')' then some true
  else if isDelimiter c then some false
  else if Text.isBlank c then some closed
  else if closed then none
  else some false

theorem watch_separator {c : Char} (separates : isSeparator c = true) (closed : Bool) :
    watch closed c = some false := by
  simp only [isSeparator, Bool.or_eq_true, beq_iff_eq] at separates
  rcases separates with rfl | rfl <;> rfl

theorem watch_word_character {c : Char} (notDelimiter : isDelimiter c = false)
    (closed : Bool) :
    watch closed c =
      if Text.isBlank c then some closed else if closed then none else some false := by
  rw [watch, if_neg (ne_parenthesis_of_plain notDelimiter).2, if_neg (by simp [notDelimiter])]

theorem watch_blanks {blanks : List Char} (blank : IsBlankWord blanks) (closed : Bool) :
    blanks.foldlM watch closed = some closed := by
  induction blanks with
  | nil => rfl
  | cons c rest inductionHypothesis =>
      obtain ⟨isWord, allBlank⟩ := blank
      obtain ⟨notDelimiter, isRest⟩ := isWord_cons.1 isWord
      rw [List.all_cons, Bool.and_eq_true] at allBlank
      rw [List.foldlM_cons, watch_word_character notDelimiter, if_pos allBlank.1]
      exact inductionHypothesis ⟨isRest, allBlank.2⟩

theorem watch_word {word : List Char} (isWord : IsWord word) :
    word.foldlM watch false = some false := by
  induction word with
  | nil => rfl
  | cons c rest inductionHypothesis =>
      obtain ⟨notDelimiter, isRest⟩ := isWord_cons.1 isWord
      have step : watch false c = some false := by
        simp [watch_word_character notDelimiter]
      rw [List.foldlM_cons, step]
      exact inductionHypothesis isRest

theorem startsWord_cons (c : Char) (rest : List Char) :
    StartsWord (c :: rest) ↔
      isDelimiter c = false ∧ (Text.isBlank c = true → StartsWord rest) := by
  constructor
  · rintro ⟨blanks, head, after, equality, ⟨isWord, allBlank⟩, notDelimiter, notBlank⟩
    cases blanks with
    | nil =>
        cases equality
        refine ⟨notDelimiter, fun blank => ?_⟩
        rw [notBlank] at blank
        cases blank
    | cons first others =>
        cases equality
        obtain ⟨firstPlain, isOthers⟩ := isWord_cons.1 isWord
        rw [List.all_cons, Bool.and_eq_true] at allBlank
        exact ⟨firstPlain, fun _ =>
          ⟨others, head, after, rfl, ⟨isOthers, allBlank.2⟩, notDelimiter, notBlank⟩⟩
  · rintro ⟨notDelimiter, later⟩
    by_cases blank : Text.isBlank c = true
    · obtain ⟨blanks, head, after, rfl, ⟨isWord, allBlank⟩, plain, notBlank⟩ :=
        later blank
      refine ⟨c :: blanks, head, after, rfl, ⟨?_, ?_⟩, plain, notBlank⟩
      · exact isWord_cons.2 ⟨notDelimiter, isWord⟩
      · rw [List.all_cons, blank, allBlank]
        rfl
    · exact ⟨[], c, rest, rfl, isBlankWord_nil, notDelimiter, by simpa using blank⟩

theorem juxtaposed_cons (c : Char) (rest : List Char) :
    Juxtaposed (c :: rest) ↔ (c = ')' ∧ StartsWord rest) ∨ Juxtaposed rest := by
  constructor
  · rintro ⟨before, after, equality, starts⟩
    cases before with
    | nil =>
        cases equality
        exact Or.inl ⟨rfl, starts⟩
    | cons first others =>
        cases equality
        exact Or.inr ⟨others, after, rfl, starts⟩
  · rintro (⟨rfl, starts⟩ | ⟨before, after, rfl, starts⟩)
    · exact ⟨[], rest, rfl, starts⟩
    · exact ⟨c :: before, after, rfl, starts⟩

/-- Watching fails exactly where a word follows a closing parenthesis. -/
theorem watch_eq_none_iff (text : List Char) (closed : Bool) :
    text.foldlM watch closed = none ↔
      Juxtaposed text ∨ (closed = true ∧ StartsWord text) := by
  induction text generalizing closed with
  | nil =>
      simp [Juxtaposed, StartsWord]
  | cons c rest inductionHypothesis =>
      rw [List.foldlM_cons, juxtaposed_cons, startsWord_cons]
      -- What is watched for next depends on the kind of the character alone.
      by_cases closing : c = ')'
      · subst closing
        have delimiter : isDelimiter ')' = true := by decide
        have step : watch closed ')' = some true := rfl
        simp [step, inductionHypothesis, delimiter, or_comm]
      · by_cases delimiter : isDelimiter c = true
        · have step : watch closed c = some false := by
            rw [watch, if_neg closing, if_pos delimiter]
          simp [step, inductionHypothesis, delimiter, closing]
        · rw [Bool.not_eq_true] at delimiter
          rw [watch_word_character delimiter]
          by_cases blank : Text.isBlank c = true
          · simp [blank, inductionHypothesis, delimiter, closing]
          · cases closed <;> simp [blank, inductionHypothesis, delimiter, closing]

theorem not_juxtaposed_iff (text : List Char) :
    ¬ Juxtaposed text ↔ ∃ closed, text.foldlM watch false = some closed := by
  have failure := watch_eq_none_iff text false
  simp only [Bool.false_eq_true, false_and, or_false] at failure
  rw [← failure, ← ne_eq, Option.ne_none_iff_exists']

theorem watch_separated {word : List Char} {separator : Char} (isWord : IsWord word)
    (separates : isSeparator separator = true) (rest : List Char) :
    (word ++ separator :: rest).foldlM watch false = rest.foldlM watch false := by
  rw [List.foldlM_append, watch_word isWord]
  change (separator :: rest).foldlM watch false = _
  rw [List.foldlM_cons, watch_separator separates]
  rfl

theorem watch_call {word : List Char} (isWord : IsWord word)
    (inner rest : List Char) (closed : Bool) :
    (word ++ '(' :: (inner ++ ')' :: rest)).foldlM watch false = some closed ↔
      (∃ last, inner.foldlM watch false = some last) ∧
        rest.foldlM watch true = some closed := by
  rw [List.foldlM_append, watch_word isWord]
  change (inner ++ ')' :: rest).foldlM watch false = _ ↔ _
  rw [List.foldlM_append, Option.bind_eq_bind, Option.bind_eq_some_iff]
  have closing :
      ∀ last, (')' :: rest).foldlM watch last = rest.foldlM watch true :=
    fun last => rfl
  simp only [closing, exists_and_right]

theorem startsWord_of_not_blank {word : List Char} (isWord : IsWord word)
    (notBlank : word.all Text.isBlank = false) (rest : List Char) :
    StartsWord (word ++ rest) := by
  induction word with
  | nil => cases notBlank
  | cons c others inductionHypothesis =>
      obtain ⟨notDelimiter, isOthers⟩ := isWord_cons.1 isWord
      rw [List.cons_append, startsWord_cons]
      refine ⟨notDelimiter, fun blank => ?_⟩
      rw [List.all_cons, blank, Bool.true_and] at notBlank
      exact inductionHypothesis isOthers notBlank

theorem Term.isBlankWord {text : List Char} {operands : List Condition}
    (term : Term text operands) (rest : List Char)
    (noWord : ¬ StartsWord (text ++ rest)) : IsBlankWord text ∧ operands = [] := by
  cases term with
  | word isWord =>
      cases blank : text.all Text.isBlank with
      | true => exact ⟨⟨isWord, blank⟩, wordOperands_of_blank blank⟩
      | false => exact absurd (startsWord_of_not_blank isWord blank rest) noWord
  | @call word inner blanks operator children condition isWord names =>
      rw [List.append_assoc] at noWord
      exact absurd (startsWord_of_not_blank isWord names.not_blank _) noWord

theorem leads_of_call {text blanks : List Char} {condition : Condition}
    {separator : Char} (call : Call text condition) (blank : IsBlankWord blanks)
    (separates : isSeparator separator = true) :
    Leads (text ++ (blanks ++ [separator])) [condition] := by
  have leads := (leads_nil.call call).separated blank.1 separates
  rw [wordOperands_of_blank blank.2] at leads
  simpa using leads

mutual

theorem Term.word_or_call :
    ∀ {text : List Char} {operands : List Condition},
      Term text operands →
        (IsWord text ∧ operands = wordOperands text) ∨
          ∃ call blanks condition,
            text = call ++ blanks ∧ Call call condition ∧ IsBlankWord blanks ∧
              operands = [condition]
  | _, _, .word isWord =>
      Or.inl ⟨isWord, rfl⟩
  | _, _, .call isWord names inner composes blank =>
      Or.inr ⟨_, _, _, by simp, Call.mk isWord names inner.body composes, blank, rfl⟩

theorem TermList.body :
    ∀ {text : List Char} {operands : List Condition},
      TermList text operands → Body text operands
  | _, _, .last term => by
      rcases term.word_or_call with
        ⟨isWord, rfl⟩ | ⟨call, blanks, condition, rfl, isCall, blank, rfl⟩
      · exact Body.last isWord
      · have body := Body.of_call isCall (Body.last blank.1)
        rwa [wordOperands_of_blank blank.2] at body
  | _, _, @TermList.more _ rest separator _ others term separates list => by
      rcases term.word_or_call with
        ⟨isWord, rfl⟩ | ⟨call, blanks, condition, rfl, isCall, blank, rfl⟩
      · exact Body.separated isWord separates list.body
      · have body := leads_of_call isCall blank separates _ _ list.body
        simpa using body

end

mutual

theorem Term.watched :
    ∀ {text : List Char} {operands : List Condition},
      Term text operands → ∃ closed, text.foldlM watch false = some closed
  | _, _, .word isWord =>
      ⟨false, watch_word isWord⟩
  | _, _, .call isWord _ inner _ blank =>
      ⟨true, (watch_call isWord _ _ _).2 ⟨inner.watched, watch_blanks blank true⟩⟩

theorem TermList.watched :
    ∀ {text : List Char} {operands : List Condition},
      TermList text operands → ∃ closed, text.foldlM watch false = some closed
  | _, _, .last term => term.watched
  | _, _, @TermList.more text rest separator _ _ term separates list => by
      obtain ⟨closed, watchedTerm⟩ := term.watched
      obtain ⟨last, watchedList⟩ := list.watched
      refine ⟨last, ?_⟩
      rw [List.foldlM_append, watchedTerm]
      change (separator :: rest).foldlM watch closed = some last
      rw [List.foldlM_cons, watch_separator separates]
      exact watchedList

end

theorem Body.termList {text : List Char} {operands : List Condition}
    (body : Body text operands) {closed : Bool}
    (watched : text.foldlM watch false = some closed) : TermList text operands := by
  induction body generalizing closed with
  | last isWord =>
      exact TermList.last (Term.word isWord)
  | separated isWord separates _ inductionHypothesis =>
      rw [watch_separated isWord separates] at watched
      exact TermList.more (Term.word isWord) separates (inductionHypothesis watched)
  | @call word inner rest operator children operands condition isWord names _ composes _
      innerHypothesis restHypothesis =>
      obtain ⟨⟨_, watchedInner⟩, watchedRest⟩ := (watch_call isWord _ _ _).1 watched
      have calm : ¬ (Juxtaposed rest ∨ (true = true ∧ StartsWord rest)) := by
        rw [← watch_eq_none_iff, watchedRest]
        simp
      have noWord : ¬ StartsWord rest := fun starts => calm (Or.inr ⟨rfl, starts⟩)
      obtain ⟨_, watchedAlone⟩ :=
        (not_juxtaposed_iff rest).1 fun juxtaposed => calm (Or.inl juxtaposed)
      have inside := innerHypothesis watchedInner
      -- No word may follow the call, so the first term of the rest is blank and joins it.
      cases restHypothesis watchedAlone with
      | last term =>
          obtain ⟨blank, rfl⟩ := term.isBlankWord [] (by simpa using noWord)
          exact TermList.last (Term.call isWord names inside composes blank)
      | more term separates list =>
          obtain ⟨blank, rfl⟩ := term.isBlankWord _ noWord
          have first := Term.call isWord names inside composes blank
          simpa using TermList.more first separates list

theorem term_iff_describes (text : List Char) (condition : Condition) :
    Term text [condition] ↔ Describes text condition ∧ ¬ Juxtaposed text := by
  rw [not_juxtaposed_iff]
  constructor
  · intro term
    refine ⟨?_, term.watched⟩
    rcases term.word_or_call with
      ⟨isWord, single⟩ | ⟨call, blanks, composed, rfl, isCall, blank, single⟩
    · cases blank : text.all Text.isBlank with
      | true =>
          rw [wordOperands_of_blank blank] at single
          cases single
      | false =>
          rw [wordOperands_of_not_blank blank] at single
          cases single
          exact Describes.tag isWord blank
    · cases single
      exact Describes.call isCall blank
  · rintro ⟨describes, _, watched⟩
    cases describes with
    | tag isWord notBlank =>
        rw [← wordOperands_of_not_blank notBlank]
        exact Term.word isWord
    | call isCall blank =>
        cases isCall with
        | mk isWord names body composes =>
            rw [List.append_assoc, List.cons_append, List.append_assoc] at watched ⊢
            obtain ⟨⟨_, watchedInner⟩, _⟩ := (watch_call isWord _ _ _).1 watched
            exact Term.call isWord names (body.termList watchedInner) composes blank

/-- The accepted expressions without a word behind a closing parenthesis are exactly
those in which a separator stands between each operand of a call and the next. -/
theorem separated_iff_not_juxtaposed (expression : String) (condition : Condition) :
    Term expression.toList [condition] ↔
      parse expression = .ok condition ∧ Text.isBlankText expression = false ∧
        ¬ Juxtaposed expression.toList := by
  rw [term_iff_describes]
  constructor
  · rintro ⟨describes, apart⟩
    have notBlank : Text.isBlankText expression = false := describes.not_blank
    refine ⟨?_, notBlank, apart⟩
    rw [parse_of_not_blank notBlank, scan_eq_ok_iff]
    exact describes
  · rintro ⟨parsed, notBlank, apart⟩
    rw [parse_of_not_blank notBlank, scan_eq_ok_iff] at parsed
    exact ⟨parsed, apart⟩

/-- Operands of a call are accepted without a separator behind an inner call. -/
theorem accepts_juxtaposed_operands :
    parse "and(or(a)b)" = .ok (.and [.or [.has "a"], .has "b"]) ∧
      Juxtaposed "and(or(a)b)".toList ∧
      ¬ ∃ condition, Term "and(or(a)b)".toList [condition] := by
  have juxtaposed : Juxtaposed "and(or(a)b)".toList :=
    ⟨"and(or(a".toList, "b)".toList, by decide, [], 'b', [')'], by decide,
      isBlankWord_nil, by decide, by decide⟩
  refine ⟨by decide, juxtaposed, ?_⟩
  rintro ⟨condition, term⟩
  exact ((term_iff_describes _ _).1 term).2 juxtaposed

end Expression

end TagSelection
