import Mathlib.Data.List.DropRight
import Mathlib.Order.Bounds.Basic
import TagSelection.Proofs.Expression.Grammar

/-!
# Words and parentheses of a text

The word that a delimiter ends, the depth that a text has reached, and the matching of
parentheses, all read off the characters alone.  A closing parenthesis matches an opening
one if the text between them is balanced.  Bodies of calls are balanced, so the
parentheses of a call match each other.
-/

namespace TagSelection

namespace Expression

/-- The characters since the last delimiter, or since the start if there is none. -/
def lastWord (text : List Char) : List Char :=
  text.rtakeWhile fun c => !isDelimiter c

theorem lastWord_concat_delimiter {c : Char} (delimiter : isDelimiter c = true)
    (text : List Char) : lastWord (text ++ [c]) = [] :=
  List.rtakeWhile_concat_neg _ _ _ (by simp [delimiter])

theorem lastWord_concat_plain {c : Char} (plain : isDelimiter c = false)
    (text : List Char) : lastWord (text ++ [c]) = lastWord text ++ [c] :=
  List.rtakeWhile_concat_pos _ _ _ (by simp [plain])

/-- How many more parentheses the text opens than it closes. -/
def depth (text : List Char) : Int := text.count '(' - text.count ')'

theorem depth_append (first second : List Char) :
    depth (first ++ second) = depth first + depth second := by
  simp only [depth, List.count_append]
  omega

theorem depth_cons (c : Char) (rest : List Char) :
    depth (c :: rest) = depth [c] + depth rest :=
  depth_append [c] rest

theorem depth_plain {c : Char} (notOpening : c ≠ '(') (notClosing : c ≠ ')') :
    depth [c] = 0 := by
  simp [depth, notOpening, notClosing]

/-- Every parenthesis in the text has its match in the text. -/
inductive Balanced : List Char → Prop
  | nil : Balanced []
  | plain {c : Char} {rest : List Char} :
      c ≠ '(' →
      c ≠ ')' →
      Balanced rest →
      Balanced (c :: rest)
  | pair {inner rest : List Char} :
      Balanced inner →
      Balanced rest →
      Balanced ('(' :: (inner ++ ')' :: rest))

theorem IsWord.balanced {word : List Char} (isWord : IsWord word) : Balanced word := by
  induction word with
  | nil => exact Balanced.nil
  | cons c rest inductionHypothesis =>
      obtain ⟨plain, isRest⟩ := isWord_cons.1 isWord
      obtain ⟨notOpening, notClosing⟩ := ne_parenthesis_of_plain plain
      exact Balanced.plain notOpening notClosing (inductionHypothesis isRest)

theorem Balanced.append {first second : List Char} (balanced : Balanced first)
    (balancedSecond : Balanced second) : Balanced (first ++ second) := by
  induction balanced with
  | nil => exact balancedSecond
  | plain notOpening notClosing _ inductionHypothesis =>
      exact Balanced.plain notOpening notClosing inductionHypothesis
  | pair inner _ _ inductionHypothesis =>
      rw [List.cons_append, List.append_assoc, List.cons_append]
      exact Balanced.pair inner inductionHypothesis

theorem Body.balanced {text : List Char} {operands : List Condition}
    (body : Body text operands) : Balanced text := by
  induction body with
  | last isWord => exact isWord.balanced
  | separated isWord separates _ inductionHypothesis =>
      obtain ⟨notOpening, notClosing⟩ := ne_parenthesis_of_separator separates
      exact isWord.balanced.append
        (Balanced.plain notOpening notClosing inductionHypothesis)
  | call isWord _ _ _ _ innerHypothesis restHypothesis =>
      exact isWord.balanced.append (Balanced.pair innerHypothesis restHypothesis)

theorem Balanced.depth_eq_zero {text : List Char} (balanced : Balanced text) :
    depth text = 0 := by
  induction balanced with
  | nil => rfl
  | plain notOpening notClosing _ inductionHypothesis =>
      rw [depth_cons, depth_plain notOpening notClosing, inductionHypothesis]
      rfl
  | @pair inner rest _ _ innerHypothesis restHypothesis =>
      rw [depth_cons, depth_append, depth_cons ')' rest, innerHypothesis, restHypothesis]
      rfl

theorem Balanced.depth_nonneg {text start : List Char} (balanced : Balanced text)
    (isStart : start <+: text) : 0 ≤ depth start := by
  induction balanced generalizing start with
  | nil =>
      rw [List.prefix_nil.1 isStart]
      decide
  | plain notOpening notClosing _ inductionHypothesis =>
      rcases List.prefix_cons_iff.1 isStart with rfl | ⟨further, rfl, isFurther⟩
      · decide
      · rw [depth_cons, depth_plain notOpening notClosing, Int.zero_add]
        exact inductionHypothesis isFurther
  | @pair inner rest balancedInner _ innerHypothesis restHypothesis =>
      rcases List.prefix_cons_iff.1 isStart with rfl | ⟨further, rfl, isFurther⟩
      · decide
      · have opening : depth ['('] = 1 := rfl
        have closing : depth [')'] = -1 := rfl
        rw [depth_cons, opening]
        -- The start ends within the inner text, or it reaches behind the closing one.
        rcases List.prefix_or_prefix_of_prefix isFurther (List.prefix_append inner _) with
          within | ⟨beyond, rfl⟩
        · have inside := innerHypothesis within
          omega
        · rw [List.prefix_append_right_inj] at isFurther
          rcases List.prefix_cons_iff.1 isFurther with rfl | ⟨last, rfl, isLast⟩
          · rw [List.append_nil, balancedInner.depth_eq_zero]
            decide
          · have behind := restHypothesis isLast
            rw [depth_append, depth_cons, balancedInner.depth_eq_zero, closing]
            omega

/-- A closing parenthesis in a balanced text stands behind no balanced start. -/
theorem Balanced.not_balanced_of_close {inner rest : List Char}
    (balanced : Balanced (inner ++ ')' :: rest)) : ¬ Balanced inner := by
  intro balancedInner
  have isStart : inner ++ [')'] <+: inner ++ ')' :: rest := ⟨rest, by simp⟩
  have nonneg := balanced.depth_nonneg isStart
  rw [depth_append, balancedInner.depth_eq_zero] at nonneg
  cases nonneg

theorem Balanced.exists_match {text before after : List Char} (balanced : Balanced text)
    (split : text = before ++ '(' :: after) :
    ∃ inner rest, after = inner ++ ')' :: rest ∧ Balanced inner := by
  induction balanced generalizing before after with
  | nil => simp at split
  | plain notOpening _ _ inductionHypothesis =>
      cases before with
      | nil =>
          obtain ⟨rfl, _⟩ := List.cons.inj split
          exact absurd rfl notOpening
      | cons first others => exact inductionHypothesis (List.cons.inj split).2
  | @pair inner rest balancedInner balancedRest innerHypothesis restHypothesis =>
      cases before with
      | nil =>
          obtain ⟨_, rfl⟩ := List.cons.inj split
          exact ⟨inner, rest, rfl, balancedInner⟩
      | cons first others =>
          -- The parenthesis stands within the inner text or behind the closing one.
          rcases List.append_eq_append_iff.1 (List.cons.inj split).2 with
            ⟨between, isBefore, isRest⟩ | ⟨between, isInner, isAfter⟩
          · cases between with
            | nil => cases isRest
            | cons closing further =>
                exact restHypothesis (List.cons.inj isRest).2
          · cases between with
            | nil => cases isAfter
            | cons opening further =>
                obtain ⟨rfl, rfl⟩ := List.cons.inj isAfter
                obtain ⟨matched, last, rfl, balancedMatched⟩ := innerHypothesis isInner
                exact ⟨matched, last ++ ')' :: rest, by simp, balancedMatched⟩

/-! ## Unmatched parentheses -/

/-- At the column stands an opening parenthesis that no closing one matches. -/
def Unclosed (text : List Char) (column : Nat) : Prop :=
  ∃ before after, text = before ++ '(' :: after ∧ column = before.length + 1 ∧
    ∀ inner rest, after = inner ++ ')' :: rest → ¬ Balanced inner

theorem Balanced.not_unclosed {text : List Char} (balanced : Balanced text)
    (column : Nat) : ¬ Unclosed text column := by
  rintro ⟨before, after, split, _, unmatched⟩
  obtain ⟨inner, rest, isAfter, balancedInner⟩ := balanced.exists_match split
  exact unmatched inner rest isAfter balancedInner

theorem Unclosed.le_length {text : List Char} {column : Nat}
    (unclosed : Unclosed text column) : column ≤ text.length := by
  obtain ⟨before, after, rfl, rfl, _⟩ := unclosed
  rw [List.length_append, List.length_cons]
  omega

theorem Unclosed.behind {text : List Char} {column : Nat} (unclosed : Unclosed text column)
    (before : List Char) : Unclosed (before ++ text) (before.length + column) := by
  obtain ⟨between, after, rfl, rfl, unmatched⟩ := unclosed
  refine ⟨before ++ between, after, by simp, ?_, unmatched⟩
  rw [List.length_append, Nat.add_assoc]

/-- A text that nowhere closes more than it opens matches no parenthesis in front of it. -/
theorem Unclosed.append {before after : List Char} {column : Nat}
    (unclosed : Unclosed before column)
    (nonneg : ∀ start, start <+: after → 0 ≤ depth start) :
    Unclosed (before ++ after) column := by
  obtain ⟨outer, behind, rfl, rfl, unmatched⟩ := unclosed
  refine ⟨outer, behind ++ after, by simp, rfl, ?_⟩
  intro inner rest isInner balanced
  rcases List.append_eq_append_iff.1 isInner with
    ⟨start, rfl, isAfter⟩ | ⟨between, isBehind, isRest⟩
  · -- The match would stand in the text behind, which then closes more than it opens.
    have isStart : start ++ [')'] <+: after := ⟨rest, by simp [isAfter]⟩
    have closing : depth [')'] = -1 := rfl
    have closed := nonneg _ isStart
    have behindNonneg := balanced.depth_nonneg (List.prefix_append behind start)
    have whole := balanced.depth_eq_zero
    rw [depth_append] at whole
    rw [depth_append, closing] at closed
    omega
  · cases between with
    | nil =>
        have isStart : [')'] <+: after := ⟨rest, by simpa using isRest⟩
        have closed := nonneg _ isStart
        cases closed
    | cons c further =>
        obtain ⟨rfl, _⟩ := List.cons.inj isRest
        exact unmatched inner further isBehind balanced

/-- The unmatched parentheses of two texts in a row, where the second nowhere closes more
than it opens, are those of both. -/
theorem unclosed_append_iff {before after : List Char} {column : Nat}
    (nonneg : ∀ start, start <+: after → 0 ≤ depth start) :
    Unclosed (before ++ after) column ↔
      Unclosed before column ∨
        ∃ further, Unclosed after further ∧ column = before.length + further := by
  constructor
  · rintro ⟨outer, behind, split, rfl, unmatched⟩
    -- The parenthesis stands in the second text or in the first one.
    rcases List.append_eq_append_iff.1 split with
      ⟨between, isOuter, isAfter⟩ | ⟨between, isBefore, isBehind⟩
    · refine Or.inr ⟨between.length + 1, ⟨between, behind, isAfter, rfl, unmatched⟩, ?_⟩
      rw [isOuter, List.length_append, Nat.add_assoc]
    · cases between with
      | nil =>
          refine Or.inr ⟨1, ⟨[], behind, by simpa using isBehind.symm, rfl, unmatched⟩, ?_⟩
          rw [isBefore, List.append_nil]
      | cons c further =>
          obtain ⟨rfl, rfl⟩ := List.cons.inj isBehind
          refine Or.inl ⟨outer, further, isBefore, rfl, ?_⟩
          rintro inner rest rfl
          exact unmatched inner (rest ++ after) (by simp)
  · rintro (unclosed | ⟨further, unclosed, rfl⟩)
    · exact unclosed.append nonneg
    · exact unclosed.behind before

theorem Balanced.unclosed_append_iff {after : List Char} (balanced : Balanced after)
    (before : List Char) (column : Nat) :
    Unclosed (before ++ after) column ↔ Unclosed before column := by
  rw [Expression.unclosed_append_iff fun start isStart => balanced.depth_nonneg isStart]
  constructor
  · rintro (unclosed | ⟨further, unclosed, _⟩)
    · exact unclosed
    · exact absurd unclosed (balanced.not_unclosed further)
  · exact Or.inl

theorem Balanced.unclosed_cons_iff {after : List Char} (balanced : Balanced after)
    (column : Nat) : Unclosed ('(' :: after) column ↔ column = 1 := by
  constructor
  · rintro ⟨outer, behind, split, rfl, unmatched⟩
    cases outer with
    | nil => rfl
    | cons c further =>
        have within : Unclosed after (further.length + 1) :=
          ⟨further, behind, (List.cons.inj split).2, rfl, unmatched⟩
        exact absurd within (balanced.not_unclosed _)
  · rintro rfl
    refine ⟨[], after, rfl, rfl, ?_⟩
    rintro inner rest rfl
    exact balanced.not_balanced_of_close

theorem Balanced.unclosed_opening_iff {after : List Char} (balanced : Balanced after)
    (before : List Char) (column : Nat) :
    Unclosed (before ++ '(' :: after) column ↔
      Unclosed before column ∨ column = before.length + 1 := by
  have nonneg : ∀ start, start <+: '(' :: after → 0 ≤ depth start := by
    intro start isStart
    rcases List.prefix_cons_iff.1 isStart with rfl | ⟨further, rfl, isFurther⟩
    · decide
    · have opening : depth ['('] = 1 := rfl
      have behind := balanced.depth_nonneg isFurther
      rw [depth_cons, opening]
      omega
  rw [Expression.unclosed_append_iff nonneg]
  simp only [balanced.unclosed_cons_iff, exists_eq_left]

theorem Balanced.isGreatest_unclosed {after : List Char} (balanced : Balanced after)
    (before : List Char) :
    IsGreatest {column | Unclosed (before ++ '(' :: after) column} (before.length + 1) := by
  constructor
  · exact (balanced.unclosed_opening_iff before _).2 (Or.inr rfl)
  · intro column unclosed
    rcases (balanced.unclosed_opening_iff before column).1 unclosed with earlier | rfl
    · exact Nat.le_succ_of_le earlier.le_length
    · exact Nat.le_refl _

end Expression

end TagSelection
