import Mathlib.Data.List.DropRight
import TagSelection.Text.Blank

namespace TagSelection.Text

theorem trimEnd_isPrefix (characters : List Char) :
    trimEnd characters <+: characters :=
  List.rdropWhile_prefix isBlank characters

theorem mem_of_mem_trimChars {c : Char} {characters : List Char}
    (member : c ∈ trimChars characters) : c ∈ characters := by
  have kept : c ∈ characters.dropWhile isBlank :=
    (trimEnd_isPrefix _).subset member
  exact (List.dropWhile_suffix isBlank).subset kept

theorem trimChars_cons_of_isBlank {c : Char} (blank : isBlank c = true)
    (rest : List Char) : trimChars (c :: rest) = trimChars rest := by
  rw [trimChars, List.dropWhile_cons_of_pos blank, trimChars]

theorem trimChars_concat_of_isBlank {c : Char} (blank : isBlank c = true)
    (text : List Char) : trimChars (text ++ [c]) = trimChars text := by
  have dropped :
      (text ++ [c]).dropWhile isBlank = [] ∧ text.dropWhile isBlank = [] ∨
        (text ++ [c]).dropWhile isBlank = text.dropWhile isBlank ++ [c] := by
    rw [List.dropWhile_append]
    by_cases empty : (text.dropWhile isBlank).isEmpty = true
    · left
      simp [blank, List.isEmpty_iff.1 empty]
    · right
      simp [empty]
  rcases dropped with ⟨none, noneBefore⟩ | concatenated
  · rw [trimChars, trimChars, none, noneBefore]
  · rw [trimChars, trimChars, concatenated]
    exact List.rdropWhile_concat_pos isBlank _ c blank

theorem trimChars_append_blanks {blanks : List Char}
    (blank : blanks.all isBlank = true) (text : List Char) :
    trimChars (text ++ blanks) = trimChars text := by
  induction blanks generalizing text with
  | nil => rw [List.append_nil]
  | cons c rest inductionHypothesis =>
      rw [List.all_cons, Bool.and_eq_true] at blank
      rw [List.append_cons, inductionHypothesis blank.2,
        trimChars_concat_of_isBlank blank.1]

theorem trimChars_blanks_append {blanks : List Char}
    (blank : blanks.all isBlank = true) (text : List Char) :
    trimChars (blanks ++ text) = trimChars text := by
  induction blanks with
  | nil => rfl
  | cons c rest inductionHypothesis =>
      rw [List.all_cons, Bool.and_eq_true] at blank
      rw [List.cons_append, trimChars_cons_of_isBlank blank.1,
        inductionHypothesis blank.2]

theorem not_isBlank_of_trimChars_eq_cons {characters tail : List Char} {head : Char}
    (trimmed : trimChars characters = head :: tail) : isBlank head = false := by
  obtain ⟨dropped, equality⟩ := trimEnd_isPrefix (characters.dropWhile isBlank)
  have first := List.head?_dropWhile_not isBlank characters
  rw [← equality] at first
  change trimEnd (characters.dropWhile isBlank) = head :: tail at trimmed
  rw [trimmed] at first
  simpa using first

theorem trimChars_trimChars (characters : List Char) :
    trimChars (trimChars characters) = trimChars characters := by
  have unchanged :
      (trimChars characters).dropWhile isBlank = trimChars characters := by
    cases trimmed : trimChars characters with
    | nil => rfl
    | cons head tail =>
        have notBlank := not_isBlank_of_trimChars_eq_cons trimmed
        exact List.dropWhile_cons_of_neg (by simp [notBlank])
  calc
    trimChars (trimChars characters) = trimEnd (trimChars characters) :=
      congrArg trimEnd unchanged
    _ = trimChars characters := List.rdropWhile_idempotent isBlank _

theorem trim_trimmed (characters : List Char) :
    trim (String.ofList (trimChars characters)) = String.ofList (trimChars characters) := by
  rw [trim, String.toList_ofList, trimChars_trimChars]

end TagSelection.Text
