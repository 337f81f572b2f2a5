import TagSelection.Expression
import TagSelection.Proofs.Text.Trimming

/-!
# The grammar of tag expressions

The texts that describe a condition, given without the scan that reads them.  A word
is a run of characters none of which is a delimiter.  The body of a call is a sequence
of elements and a last word; an element is a word with a separator behind it or a
whole call, `word ( body )`.  Words that are not blank and calls are the operands, in
the order of the text.

An expression is a single word that is not blank, or a single call with blanks alone
behind it.
-/

namespace TagSelection

namespace Expression

def isSeparator (c : Char) : Bool := c == ',' || c == ';'

def isDelimiter (c : Char) : Bool := c == '(' || c == ')' || isSeparator c

/-- A run of characters that are no delimiters; it may be empty. -/
def IsWord (characters : List Char) : Prop :=
  ∀ c ∈ characters, isDelimiter c = false

instance (characters : List Char) : Decidable (IsWord characters) :=
  List.decidableBAll (fun c => isDelimiter c = false) characters

def IsBlankWord (characters : List Char) : Prop :=
  IsWord characters ∧ characters.all Text.isBlank = true

/-- The operands that a word stands for: its trimmed text as a tag, and nothing for
a blank word. -/
def wordOperands (word : List Char) : List Condition :=
  if word.all Text.isBlank then []
  else [.has (String.ofList (Text.trimChars word))]

/-- The trimmed word is the name of the operator up to the case of ASCII letters. -/
def Names (word : List Char) (operator : Operator) : Prop :=
  (Text.trimChars word).map Char.toLower = operator.name.toList

instance (word : List Char) (operator : Operator) : Decidable (Names word operator) :=
  inferInstanceAs
    (Decidable ((Text.trimChars word).map Char.toLower = operator.name.toList))

/-- The condition of a call with the given operands.  A conjunction and a disjunction
have one operand at least, a negation has exactly one. -/
inductive Composes : Operator → List Condition → Condition → Prop
  | and (operand : Condition) (rest : List Condition) :
      Composes .and (operand :: rest) (.and (operand :: rest))
  | or (operand : Condition) (rest : List Condition) :
      Composes .or (operand :: rest) (.or (operand :: rest))
  | not (operand : Condition) :
      Composes .not [operand] (.not (some operand))

/-- The text between the parentheses of a call, with its operands: elements one after
another and a last word. -/
inductive Body : List Char → List Condition → Prop
  | last {word : List Char} :
      IsWord word →
      Body word (wordOperands word)
  | separated {word : List Char} {separator : Char} {rest : List Char}
      {operands : List Condition} :
      IsWord word →
      isSeparator separator = true →
      Body rest operands →
      Body (word ++ separator :: rest) (wordOperands word ++ operands)
  | call {word inner rest : List Char} {operator : Operator}
      {children operands : List Condition} {condition : Condition} :
      IsWord word →
      Names word operator →
      Body inner children →
      Composes operator children condition →
      Body rest operands →
      Body (word ++ '(' :: (inner ++ ')' :: rest)) (condition :: operands)

/-- The text `word ( body )` of a call, with its condition. -/
inductive Call : List Char → Condition → Prop
  | mk {word inner : List Char} {operator : Operator} {children : List Condition}
      {condition : Condition} :
      IsWord word →
      Names word operator →
      Body inner children →
      Composes operator children condition →
      Call (word ++ '(' :: (inner ++ [')'])) condition

/-- The text of an expression that is not blank, with its condition. -/
inductive Describes : List Char → Condition → Prop
  | tag {word : List Char} :
      IsWord word →
      word.all Text.isBlank = false →
      Describes word (.has (String.ofList (Text.trimChars word)))
  | call {text blanks : List Char} {condition : Condition} :
      Call text condition →
      IsBlankWord blanks →
      Describes (text ++ blanks) condition

theorem Body.of_call {text rest : List Char} {condition : Condition}
    {operands : List Condition} (call : Call text condition)
    (body : Body rest operands) : Body (text ++ rest) (condition :: operands) := by
  cases call with
  | mk isWord names inner composes =>
      simpa using Body.call isWord names inner composes body

theorem isDelimiter_of_isSeparator {c : Char} (separates : isSeparator c = true) :
    isDelimiter c = true := by
  rw [isDelimiter, separates, Bool.or_true]

theorem not_isDelimiter_of_isBlank {c : Char} (blank : Text.isBlank c = true) :
    isDelimiter c = false := by
  rw [← Bool.not_eq_true]
  intro delimiter
  simp only [isDelimiter, isSeparator, Bool.or_eq_true, beq_iff_eq] at delimiter
  rcases delimiter with (rfl | rfl) | rfl | rfl <;> cases blank

theorem not_isBlank_of_isDelimiter {c : Char} (delimiter : isDelimiter c = true) :
    Text.isBlank c = false := by
  rw [← Bool.not_eq_true]
  intro blank
  rw [not_isDelimiter_of_isBlank blank] at delimiter
  cases delimiter

theorem ne_parenthesis_of_plain {c : Char} (plain : isDelimiter c = false) :
    c ≠ '(' ∧ c ≠ ')' := by
  constructor
  · rintro rfl
    cases plain
  · rintro rfl
    cases plain

theorem ne_parenthesis_of_separator {c : Char} (separates : isSeparator c = true) :
    c ≠ '(' ∧ c ≠ ')' := by
  constructor
  · rintro rfl
    cases separates
  · rintro rfl
    cases separates

theorem isWord_nil : IsWord [] := by
  intro c member
  cases member

theorem isWord_append {first second : List Char} :
    IsWord (first ++ second) ↔ IsWord first ∧ IsWord second := by
  simp only [IsWord, List.forall_mem_append]

theorem isWord_cons {c : Char} {rest : List Char} :
    IsWord (c :: rest) ↔ isDelimiter c = false ∧ IsWord rest := by
  simp only [IsWord, List.forall_mem_cons]

theorem IsWord.trimChars {word : List Char} (isWord : IsWord word) :
    IsWord (Text.trimChars word) :=
  fun c member => isWord c (Text.mem_of_mem_trimChars member)

theorem isBlankWord_nil : IsBlankWord [] :=
  ⟨isWord_nil, rfl⟩

theorem isBlankWord_of_blank {blanks : List Char}
    (blank : blanks.all Text.isBlank = true) : IsBlankWord blanks := by
  refine ⟨?_, blank⟩
  intro c member
  exact not_isDelimiter_of_isBlank (List.all_eq_true.1 blank c member)

theorem wordOperands_of_blank {word : List Char}
    (blank : word.all Text.isBlank = true) : wordOperands word = [] :=
  if_pos blank

theorem wordOperands_of_not_blank {word : List Char}
    (notBlank : word.all Text.isBlank = false) :
    wordOperands word = [.has (String.ofList (Text.trimChars word))] := by
  rw [wordOperands, notBlank]
  rfl

theorem Names.not_blank {word : List Char} {operator : Operator}
    (names : Names word operator) : word.all Text.isBlank = false := by
  rw [← Bool.not_eq_true, ← Text.trimChars_eq_nil_iff]
  intro empty
  rw [Names, empty] at names
  cases operator <;> simp [Operator.name] at names

theorem Describes.not_blank {text : List Char} {condition : Condition}
    (describes : Describes text condition) : text.all Text.isBlank = false := by
  cases describes with
  | tag _ notBlank => exact notBlank
  | call isCall _ =>
      cases isCall with
      | mk _ names _ _ => simp [names.not_blank]

theorem isWord_name (operator : Operator) : IsWord operator.name.toList := by
  cases operator <;> decide

theorem names_name (operator : Operator) : Names operator.name.toList operator := by
  cases operator <;> decide

theorem wordOperands_cons_blank {c : Char} (blank : Text.isBlank c = true)
    (word : List Char) : wordOperands (c :: word) = wordOperands word := by
  simp only [wordOperands, List.all_cons, blank, Bool.true_and,
    Text.trimChars_cons_of_isBlank blank]

theorem Names.cons_blank {c : Char} (blank : Text.isBlank c = true)
    {word : List Char} {operator : Operator} (names : Names word operator) :
    Names (c :: word) operator := by
  rw [Names, Text.trimChars_cons_of_isBlank blank]
  exact names

end Expression

end TagSelection
