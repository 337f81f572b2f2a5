import Mathlib.Data.List.Forall2
import TagSelection.Proofs.Condition.WellFormed
import TagSelection.Proofs.Expression.Language
import TagSelection.Proofs.TagSet.FirstOccurrence

/-!
# The leaves of a condition

A position in a condition says which operand to enter, from the whole condition on.  The
leaves are listed in the lexicographic order of their positions, which is the order from
left to right.  Of a condition that was read from an expression they are the tags that are
written in the text, in the order of the text.
-/

namespace TagSelection

namespace Condition

def operands : Condition → List Condition
  | .has _ => []
  | .and operands => operands
  | .or operands => operands
  | .not operand => operand.toList

/-- The part at a position; nothing if the position is none of the condition. -/
def partAt? (condition : Condition) : (position : List Nat) → Option Condition
  | [] => some condition
  | index :: rest => do
      let operand ← condition.operands[index]?
      operand.partAt? rest

/-- At the position stands the leaf with the tag. -/
def LeafAt (condition : Condition) (position : List Nat) (tag : Tag) : Prop :=
  condition.partAt? position = some (.has tag)

theorem partAt?_cons_eq_some_iff {condition part : Condition} {index : Nat}
    {rest : List Nat} :
    condition.partAt? (index :: rest) = some part ↔
      ∃ operand, condition.operands[index]? = some operand ∧
        operand.partAt? rest = some part := by
  rw [partAt?]
  exact Option.bind_eq_some_iff

/-- Among the operands from a place on, the position leads to the leaf with the tag. -/
def LeafAmong (start : Nat) (operands : List Condition) (position : List Nat)
    (tag : Tag) : Prop :=
  ∃ (index : Nat) (operand : Condition) (rest : List Nat),
    operands[index]? = some operand ∧ position = (start + index) :: rest ∧
      operand.LeafAt rest tag

theorem leafAmong_cons_iff {start : Nat} {first : Condition} {operands : List Condition}
    {position : List Nat} {tag : Tag} :
    LeafAmong start (first :: operands) position tag ↔
      (∃ rest, position = start :: rest ∧ first.LeafAt rest tag) ∨
        LeafAmong (start + 1) operands position tag := by
  constructor
  · rintro ⟨index, operand, rest, isOperand, rfl, isLeaf⟩
    cases index with
    | zero =>
        cases isOperand
        exact Or.inl ⟨rest, rfl, isLeaf⟩
    | succ index =>
        refine Or.inr ⟨index, operand, rest, isOperand, ?_, isLeaf⟩
        rw [Nat.add_right_comm, Nat.add_assoc]
  · rintro (⟨rest, rfl, isLeaf⟩ | ⟨index, operand, rest, isOperand, rfl, isLeaf⟩)
    · exact ⟨0, first, rest, rfl, rfl, isLeaf⟩
    · refine ⟨index + 1, operand, rest, isOperand, ?_, isLeaf⟩
      rw [Nat.add_right_comm, Nat.add_assoc]

/-- The tags stand in the order of their positions, one for each position that has a tag. -/
def InOrder (tagAt : List Nat → Tag → Prop) (tags : List Tag) : Prop :=
  ∃ positions : List (List Nat),
    positions.Pairwise (List.Lex (· < ·)) ∧
      (∀ position, position ∈ positions ↔ ∃ tag, tagAt position tag) ∧
      List.Forall₂ tagAt positions tags

theorem inOrder_leavesOfAll {operands : List Condition}
    (each : ∀ operand ∈ operands, InOrder operand.LeafAt operand.leaves) (start : Nat) :
    InOrder (LeafAmong start operands) (leavesOfAll operands) := by
  induction operands generalizing start with
  | nil =>
      refine ⟨[], List.Pairwise.nil, ?_, List.Forall₂.nil⟩
      simp [LeafAmong]
  | cons first operands inductionHypothesis =>
      obtain ⟨positions, ordered, mem_iff, leaves⟩ := each first List.mem_cons_self
      obtain ⟨others, otherOrdered, other_mem_iff, otherLeaves⟩ :=
        inductionHypothesis (fun operand among => each operand (List.mem_cons_of_mem _ among))
          (start + 1)
      -- Positions in the first operand start with `start`, those in later ones with a
      -- greater number.
      refine ⟨positions.map (start :: ·) ++ others, ?_, ?_, ?_⟩
      · rw [List.pairwise_append]
        refine ⟨ordered.map _ fun _ _ smaller => List.Lex.cons smaller, otherOrdered, ?_⟩
        intro position isFirst other isOther
        obtain ⟨rest, _, rfl⟩ := List.mem_map.1 isFirst
        obtain ⟨tag, index, operand, otherRest, _, rfl, _⟩ := (other_mem_iff other).1 isOther
        have smaller : start < start + 1 + index := by omega
        exact List.Lex.rel smaller
      · intro position
        rw [List.mem_append, List.mem_map, other_mem_iff]
        simp only [leafAmong_cons_iff, exists_or, mem_iff]
        refine or_congr_left ⟨?_, ?_⟩
        · rintro ⟨rest, ⟨tag, isLeaf⟩, rfl⟩
          exact ⟨tag, rest, rfl, isLeaf⟩
        · rintro ⟨tag, rest, rfl, isLeaf⟩
          exact ⟨rest, ⟨tag, isLeaf⟩, rfl⟩
      · refine List.rel_append ?_ (otherLeaves.imp fun position tag isLeaf =>
          leafAmong_cons_iff.2 (Or.inr isLeaf))
        rw [List.forall₂_map_left_iff]
        exact leaves.imp fun rest tag isLeaf =>
          leafAmong_cons_iff.2 (Or.inl ⟨rest, rfl, isLeaf⟩)

theorem leafAt_iff_leafAmong {condition : Condition} (notLeaf : ∀ tag, condition ≠ .has tag)
    (position : List Nat) (tag : Tag) :
    condition.LeafAt position tag ↔ LeafAmong 0 condition.operands position tag := by
  cases position with
  | nil => simp [LeafAt, partAt?, LeafAmong, notLeaf tag]
  | cons index rest =>
      rw [LeafAt, partAt?_cons_eq_some_iff]
      constructor
      · rintro ⟨operand, isOperand, isLeaf⟩
        exact ⟨index, operand, rest, isOperand, by rw [Nat.zero_add], isLeaf⟩
      · rintro ⟨other, operand, otherRest, isOperand, same, isLeaf⟩
        rw [Nat.zero_add] at same
        cases same
        exact ⟨operand, isOperand, isLeaf⟩

theorem inOrder_leaves_of_operands {condition : Condition}
    (notLeaf : ∀ tag, condition ≠ .has tag)
    (leaves_eq : condition.leaves = leavesOfAll condition.operands)
    (each : ∀ operand ∈ condition.operands, InOrder operand.LeafAt operand.leaves) :
    InOrder condition.LeafAt condition.leaves := by
  have sameLeaves : condition.LeafAt = LeafAmong 0 condition.operands := by
    funext position tag
    exact propext (leafAt_iff_leafAmong notLeaf position tag)
  rw [sameLeaves, leaves_eq]
  exact inOrder_leavesOfAll each 0

theorem inOrder_leaves (condition : Condition) :
    InOrder condition.LeafAt condition.leaves := by
  induction condition using Condition.induction with
  | has tag =>
      refine ⟨[[]], List.pairwise_singleton _ _, ?_, List.Forall₂.cons rfl List.Forall₂.nil⟩
      intro position
      cases position with
      | nil => simp [LeafAt, partAt?]
      | cons index rest => simp [LeafAt, partAt?, operands]
  | and operands inductionHypothesis =>
      exact inOrder_leaves_of_operands (by simp) rfl inductionHypothesis
  | or operands inductionHypothesis =>
      exact inOrder_leaves_of_operands (by simp) rfl inductionHypothesis
  | negation operand inductionHypothesis =>
      refine inOrder_leaves_of_operands (by simp) (by simp [leaves, operands, leavesOfAll]) ?_
      intro other among
      obtain rfl := List.mem_singleton.1 among
      exact inductionHypothesis
  | missing =>
      exact inOrder_leaves_of_operands (by simp) rfl (by simp [operands])

/-- The tags of a condition are its leaves with the later duplicates removed. -/
theorem toList_tags (condition : Condition) :
    condition.tags.toList = condition.leaves.eraseDups :=
  TagSet.toList_ofList condition.leaves

theorem mem_tags (condition : Condition) (tag : Tag) :
    tag ∈ condition.tags ↔ tag ∈ condition.leaves :=
  TagSet.mem_ofList condition.leaves tag

end Condition

namespace Expression

open Condition

/-- The tag that a word stands for, unless it is blank. -/
def writtenTag (word : List Char) : List Tag :=
  if word.all Text.isBlank then [] else [String.ofList (Text.trimChars word)]

/-- The tags that a text writes behind the beginning of a word: one for each word that is
not blank and has no opening parenthesis behind it. -/
def writtenTagsFrom (word : List Char) : List Char → List Tag
  | [] => writtenTag word
  | c :: rest =>
      if c = '(' then writtenTagsFrom [] rest
      else if isDelimiter c then writtenTag word ++ writtenTagsFrom [] rest
      else writtenTagsFrom (word ++ [c]) rest

def writtenTags (text : List Char) : List Tag := writtenTagsFrom [] text

theorem leavesOfAll_wordOperands (word : List Char) :
    leavesOfAll (wordOperands word) = writtenTag word := by
  unfold wordOperands writtenTag
  split <;> rfl

theorem writtenTagsFrom_word {word : List Char} (isWord : IsWord word) (before rest : List Char) :
    writtenTagsFrom before (word ++ rest) = writtenTagsFrom (before ++ word) rest := by
  induction word generalizing before with
  | nil => rw [List.nil_append, List.append_nil]
  | cons c word inductionHypothesis =>
      obtain ⟨plain, isRest⟩ := isWord_cons.1 isWord
      have notOpening := (ne_parenthesis_of_plain plain).1
      rw [List.cons_append, writtenTagsFrom, if_neg notOpening, plain,
        if_neg Bool.false_ne_true, inductionHypothesis isRest]
      simp

theorem writtenTags_opening {word : List Char} (isWord : IsWord word) (rest : List Char) :
    writtenTags (word ++ '(' :: rest) = writtenTags rest := by
  rw [writtenTags, writtenTagsFrom_word isWord]
  rfl

theorem writtenTags_ended {word : List Char} (isWord : IsWord word) {delimiter : Char}
    (ends : isDelimiter delimiter = true) (notOpening : delimiter ≠ '(') (rest : List Char) :
    writtenTags (word ++ delimiter :: rest) = writtenTag word ++ writtenTags rest := by
  rw [writtenTags, writtenTagsFrom_word isWord, writtenTagsFrom, if_neg notOpening,
    if_pos ends]
  rfl

theorem writtenTags_of_isWord {word : List Char} (isWord : IsWord word) :
    writtenTags word = writtenTag word := by
  have written := writtenTagsFrom_word isWord [] []
  rwa [List.append_nil] at written

theorem Composes.leaves_eq {operator : Operator} {operands : List Condition}
    {condition : Condition} (composes : Composes operator operands condition) :
    condition.leaves = leavesOfAll operands := by
  cases composes with
  | and | or => rfl
  | not operand => simp [leaves, leavesOfAll]

theorem leavesOfAll_append (first second : List Condition) :
    leavesOfAll (first ++ second) = leavesOfAll first ++ leavesOfAll second := by
  simp only [leavesOfAll_eq_flatMap, List.flatMap_append]

theorem Body.writtenTags_eq {text : List Char} {operands : List Condition}
    (body : Body text operands) (rest : List Char) :
    writtenTags (text ++ ')' :: rest) = leavesOfAll operands ++ writtenTags rest := by
  induction body generalizing rest with
  | last isWord =>
      rw [writtenTags_ended isWord rfl (by decide), leavesOfAll_wordOperands]
  | @separated word separator _ operands isWord separates _ inductionHypothesis =>
      have ends := isDelimiter_of_isSeparator separates
      have notOpening := (ne_parenthesis_of_separator separates).1
      rw [List.append_assoc, List.cons_append, writtenTags_ended isWord ends notOpening,
        inductionHypothesis, leavesOfAll_append, leavesOfAll_wordOperands, List.append_assoc]
  | @call word inner _ operator children operands condition isWord _ _ composes _
      innerHypothesis restHypothesis =>
      rw [List.append_assoc, List.cons_append, List.append_assoc, List.cons_append,
        writtenTags_opening isWord, innerHypothesis, restHypothesis, leavesOfAll,
        composes.leaves_eq, List.append_assoc]

/-- The leaves of the condition that a text describes are the tags that the text writes. -/
theorem Describes.leaves_eq {text : List Char} {condition : Condition}
    (describes : Describes text condition) : condition.leaves = writtenTags text := by
  cases describes with
  | tag isWord notBlank =>
      rw [writtenTags_of_isWord isWord, writtenTag, if_neg (by simp [notBlank])]
      rfl
  | @call _ blanks _ isCall isBlankWord =>
      cases isCall with
      | mk isWord _ body composes =>
          rw [List.append_assoc, List.cons_append, List.append_assoc, List.singleton_append,
            writtenTags_opening isWord, body.writtenTags_eq,
            writtenTags_of_isWord isBlankWord.1, writtenTag, if_pos isBlankWord.2,
            List.append_nil, composes.leaves_eq]

/-- The leaves of what is read are the tags that the expression writes, which are none if it
is blank. -/
theorem leaves_of_parse {expression : String} {condition : Condition}
    (parsed : parse expression = .ok condition) :
    condition.leaves = writtenTags expression.toList := by
  cases blank : Text.isBlankText expression with
  | true =>
      have isBlankWord := isBlankWord_of_blank blank
      rw [parse_of_blank blank] at parsed
      cases parsed
      rw [writtenTags_of_isWord isBlankWord.1, writtenTag, if_pos isBlankWord.2]
      rfl
  | false => exact (describes_of_parse blank parsed).leaves_eq

end Expression

end TagSelection
