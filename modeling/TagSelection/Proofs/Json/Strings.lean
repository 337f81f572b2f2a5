import TagSelection.Json.Reader

namespace TagSelection.Json

open Text (hexValue?)

theorem hexValue?_digitChar :
    ∀ digit < 16, hexValue? (Nat.digitChar digit) = some digit := by
  decide

theorem codeUnit?_of_control {value : Nat} (control : value < 0x20) :
    codeUnit? '0' '0' (Nat.digitChar (value / 16)) (Nat.digitChar (value % 16)) =
      some value := by
  have upper := hexValue?_digitChar (value / 16) (by omega)
  have lower := hexValue?_digitChar (value % 16) (by omega)
  have zero : hexValue? '0' = some 0 := rfl
  have together : value / 16 * 16 + value % 16 = value := by omega
  simp [codeUnit?, upper, lower, zero, together]

/-- A control character without a letter of its own is read from its code. -/
theorem readQuoted_code (collected : String) {c : Char} (control : c.toNat < 0x20)
    (rest : List Char) :
    readQuoted collected
        ('\\' :: 'u' :: '0' :: '0' :: Nat.digitChar (c.toNat / 16) ::
          Nat.digitChar (c.toNat % 16) :: rest) =
      readQuoted (collected.push c) rest := by
  have notLow : isLowSurrogate c.toNat = false := by
    simp only [isLowSurrogate, Bool.and_eq_false_iff, decide_eq_false_iff_not]
    omega
  have notHigh : isHighSurrogate c.toNat = false := by
    simp only [isHighSurrogate, Bool.and_eq_false_iff, decide_eq_false_iff_not]
    omega
  rw [readQuoted, codeUnit?_of_control control]
  simp [notLow, notHigh, Char.ofNat_toNat]

theorem readQuoted_plain (collected : String) {c : Char} (notQuote : c ≠ '"')
    (notBackslash : c ≠ '\\') (printable : ¬ c.toNat < 0x20) (rest : List Char) :
    readQuoted collected (c :: rest) = readQuoted (collected.push c) rest := by
  rw [readQuoted]
  · rw [if_neg printable]
  · exact notQuote
  · intro _ _ _ _ _ isBackslash
    exact absurd isBackslash notBackslash
  · intro _ _ isBackslash
    exact absurd isBackslash notBackslash

theorem readQuoted_escapedChar (collected : String) (c : Char) (rest : List Char) :
    readQuoted collected (escapedChar c ++ rest) =
      readQuoted (collected.push c) rest := by
  unfold escapedChar
  split
  case h_8 notQuote notBackslash _ _ _ _ _ =>
    by_cases control : c.toNat < 0x20
    · rw [if_pos control]
      exact readQuoted_code collected control rest
    · rw [if_neg control]
      exact readQuoted_plain collected notQuote notBackslash control rest
  all_goals simp [readQuoted, unescaped?]

theorem readQuoted_escaped (collected : String) (characters rest : List Char) :
    readQuoted collected (characters.flatMap escapedChar ++ '"' :: rest) =
      some (collected ++ String.ofList characters, rest) := by
  induction characters generalizing collected with
  | nil => simp [readQuoted]
  | cons c later inductionHypothesis =>
      rw [List.flatMap_cons, List.append_assoc, readQuoted_escapedChar,
        inductionHypothesis]
      congr 2
      apply String.ext
      simp

theorem toList_quote (text : String) :
    (quote text).toList = '"' :: (text.toList.flatMap escapedChar ++ ['"']) := by
  simp [quote]

theorem readQuoted_of_text (text : String) (rest : List Char) :
    readQuoted "" (text.toList.flatMap escapedChar ++ '"' :: rest) =
      some (text, rest) := by
  rw [readQuoted_escaped, String.ofList_toList, String.empty_append]

end TagSelection.Json
