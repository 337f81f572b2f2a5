namespace TagSelection.Text

/-- Whether the character has the Unicode property `White_Space`. -/
def isBlank (c : Char) : Bool :=
  let code := c.toNat
  (0x09 ≤ code && code ≤ 0x0D) || code == 0x20 || code == 0x85 || code == 0xA0 ||
    code == 0x1680 || (0x2000 ≤ code && code ≤ 0x200A) || code == 0x2028 ||
    code == 0x2029 || code == 0x202F || code == 0x205F || code == 0x3000

def trimEnd (characters : List Char) : List Char :=
  (characters.reverse.dropWhile isBlank).reverse

/-- The characters between the first and the last one that is not blank. -/
def trimChars (characters : List Char) : List Char :=
  trimEnd (characters.dropWhile isBlank)

def trim (text : String) : String :=
  String.ofList (trimChars text.toList)

def isBlankText (text : String) : Bool :=
  text.toList.all isBlank

@[simp]
theorem trimEnd_nil : trimEnd [] = [] := rfl

@[simp]
theorem toList_trim (text : String) :
    (trim text).toList = trimChars text.toList := by
  simp [trim]

theorem trimChars_eq_nil_iff (characters : List Char) :
    trimChars characters = [] ↔ characters.all isBlank = true := by
  have dropped : ∀ items : List Char,
      items.dropWhile isBlank = [] ↔ items.all isBlank = true := by
    intro items
    induction items with
    | nil => simp
    | cons head tail inductionHypothesis =>
        by_cases blank : isBlank head <;> simp [blank, inductionHypothesis]
  constructor
  · intro empty
    have reversed : ((characters.dropWhile isBlank).reverse).all isBlank = true :=
      (dropped _).1 (List.reverse_eq_nil_iff.1 empty)
    rw [List.all_reverse] at reversed
    cases equality : characters.dropWhile isBlank with
    | nil => exact (dropped _).1 equality
    | cons head tail =>
        have notBlank := List.head?_dropWhile_not isBlank characters
        simp [equality] at notBlank reversed
        simp [reversed.1] at notBlank
  · intro blank
    simp [trimChars, (dropped characters).2 blank]

end TagSelection.Text
