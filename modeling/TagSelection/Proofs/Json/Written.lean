import TagSelection.Proofs.Json.Strings
import TagSelection.Proofs.Steps

/-!
# Written values read back

A text stands for a value if a reader takes exactly this text in front of any other and
gives the value.  Arrays and objects without white space are put together from texts that
stand for their elements and for the values of their fields.
-/

namespace TagSelection.Json

/-- The text starts with a character that an array neither passes over nor takes for its
end. -/
def StartsElement (characters : List Char) : Prop :=
  ∃ first later, characters = first :: later ∧ isSpace first = false ∧ first ≠ ']'

theorem StartsElement.append {characters : List Char} (starts : StartsElement characters)
    (rest : List Char) : StartsElement (characters ++ rest) := by
  obtain ⟨first, later, rfl, notSpace, notEnd⟩ := starts
  exact ⟨first, later ++ rest, rfl, notSpace, notEnd⟩

/-- The reader takes exactly the text and gives the value. -/
structure Reads {α : Type} (read : Reader α) (text : String) (value : α) : Prop where
  starts : StartsElement text.toList
  reads : ∀ rest, read (text.toList ++ rest) = .ok (value, rest)

theorem reads_text (text : String) : Reads readText (quote text) text where
  starts := ⟨'"', _, toList_quote text, rfl, by decide⟩
  reads rest := by
    rw [toList_quote, List.cons_append, List.append_assoc]
    change strict (readQuoted "" (text.toList.flatMap escapedChar ++ '"' :: rest)) = _
    rw [readQuoted_of_text]
    rfl

theorem reads_true : Reads readFlag "true" true where
  starts := ⟨'t', _, rfl, rfl, by decide⟩
  reads _ := rfl

def afterCommas (parts : List (List Char)) : List Char :=
  parts.flatMap fun part => ',' :: part

theorem afterCommas_cons (part : List Char) (parts : List (List Char)) :
    afterCommas (part :: parts) = ',' :: (part ++ afterCommas parts) := by
  rw [afterCommas, afterCommas, List.flatMap_cons, List.cons_append]

theorem afterCommas_append (first second : List (List Char)) :
    afterCommas (first ++ second) = afterCommas first ++ afterCommas second :=
  List.flatMap_append

/-- Every part takes its comma, so the length of the text is fuel enough for their
number. -/
theorem length_le_length_afterCommas (parts : List (List Char)) :
    parts.length ≤ (afterCommas parts).length := by
  induction parts with
  | nil => exact Nat.le_refl 0
  | cons part parts inductionHypothesis =>
      rw [afterCommas_cons, List.length_cons, List.length_cons, List.length_append]
      omega

theorem toList_intercalate_cons (first : String) (later : List String) :
    (",".intercalate (first :: later)).toList =
      first.toList ++ afterCommas (later.map String.toList) := by
  induction later generalizing first with
  | nil => simp [afterCommas]
  | cons second others inductionHypothesis =>
      have joined :
          (",".intercalate (first :: second :: others)).toList =
            first.toList ++ ',' :: (",".intercalate (second :: others)).toList := by
        simp
      rw [joined, inductionHypothesis, List.map_cons, afterCommas_cons]

section Arrays

variable {α : Type} {element : Reader α} {write : α → String} {values : List α}

theorem readMore_written
    (each : ∀ value ∈ values, Reads element (write value) value) {fuel : Nat}
    (enough : values.length < fuel) (rest : List Char) :
    readMore element fuel
        (afterCommas ((values.map write).map String.toList) ++ ']' :: rest) =
      .ok (values, rest) := by
  induction values generalizing fuel with
  | nil =>
      cases fuel with
      | zero => cases enough
      | succ fuel => rfl
  | cons value values inductionHypothesis =>
      cases fuel with
      | zero => cases enough
      | succ fuel =>
          obtain ⟨first, others⟩ := List.forall_mem_cons.1 each
          have remaining := inductionHypothesis others (Nat.lt_of_succ_lt_succ enough)
          rw [List.map_cons, List.map_cons, afterCommas_cons, List.cons_append,
            List.append_assoc]
          refine (bind_eq_ok_iff _ _ _).2 ⟨_, first.reads _, ?_⟩
          exact (bind_eq_ok_iff _ _ _).2 ⟨_, remaining, rfl⟩

theorem readElements_of_starts {characters : List Char}
    (starts : StartsElement characters) :
    readElements element characters = (do
      let (value, rest) ← element characters
      let (values, rest) ← readMore element (rest.length + 1) rest
      .ok (value :: values, rest)) := by
  obtain ⟨first, later, rfl, notSpace, notEnd⟩ := starts
  have noSpace : skipSpace (first :: later) = first :: later := by
    simp [skipSpace, notSpace]
  rw [readElements, noSpace]
  split
  case h_1 rest ends =>
    cases ends
    exact absurd rfl notEnd
  case h_2 => rfl

def arrayText (write : α → String) (values : List α) : String :=
  "[" ++ ",".intercalate (values.map write) ++ "]"

theorem toList_arrayText :
    (arrayText write values).toList =
      '[' :: ((",".intercalate (values.map write)).toList ++ [']']) := by
  rw [arrayText, String.toList_append, String.toList_append]
  rfl

theorem reads_array (each : ∀ value ∈ values, Reads element (write value) value)
    (wanted : Document.Wanted) (levels : Nat) :
    Reads (readArray wanted (levels + 1) element) (arrayText write values) values where
  starts := ⟨'[', _, toList_arrayText, rfl, by decide⟩
  reads rest := by
    rw [toList_arrayText, List.cons_append, List.append_assoc]
    change readElements element _ = _
    cases values with
    | nil => rfl
    | cons value values =>
        obtain ⟨first, others⟩ := List.forall_mem_cons.1 each
        -- Each further value takes its comma, so the fuel outlasts them.
        have enough :
            values.length <
              (afterCommas ((values.map write).map String.toList) ++
                ']' :: rest).length + 1 := by
          have commas :=
            length_le_length_afterCommas ((values.map write).map String.toList)
          rw [List.length_map, List.length_map] at commas
          rw [List.length_append]
          omega
        have remaining := readMore_written others enough rest
        rw [List.map_cons, toList_intercalate_cons, List.append_assoc,
          readElements_of_starts (first.starts.append _)]
        refine (bind_eq_ok_iff _ _ _).2 ⟨_, first.reads _, ?_⟩
        exact (bind_eq_ok_iff _ _ _).2 ⟨_, remaining, rfl⟩

end Arrays

section Objects

variable {σ : Type} {field : σ → String → Reader σ}

abbrev Field : Type := String × String

def fieldText (written : Field) : List Char :=
  (quote written.1).toList ++ ':' :: written.2.toList

/-- Reading the fields one after another leads from a state to another one. -/
inductive FieldsLead (field : σ → String → Reader σ) : σ → List Field → σ → Prop where
  | nil (state : σ) : FieldsLead field state [] state
  | cons {state next last : σ} {name value : String} {later : List Field} :
      (∀ rest, field state name (':' :: (value.toList ++ rest)) = .ok (next, rest)) →
      FieldsLead field next later last →
      FieldsLead field state ((name, value) :: later) last

theorem FieldsLead.append {state middle last : σ} {first second : List Field}
    (leads : FieldsLead field state first middle)
    (leadsOn : FieldsLead field middle second last) :
    FieldsLead field state (first ++ second) last := by
  induction leads with
  | nil => exact leadsOn
  | cons read _ inductionHypothesis =>
      exact FieldsLead.cons read (inductionHypothesis leadsOn)

theorem readFields_fieldText {state next : σ} {name value : String}
    (read : ∀ rest, field state name (':' :: (value.toList ++ rest)) = .ok (next, rest))
    (fuel : Nat) (rest : List Char) :
    readFields field (fuel + 1) state (fieldText (name, value) ++ rest) =
      match skipSpace rest with
      | '\x7d' :: rest => .ok (next, rest)
      | ',' :: rest => readFields field fuel next rest
      | _ => .error malformed := by
  have spelled :
      fieldText (name, value) ++ rest =
        '"' :: (name.toList.flatMap escapedChar ++
          '"' :: ':' :: (value.toList ++ rest)) := by
    simp [fieldText, toList_quote]
  rw [spelled]
  change (strict (readQuoted "" _) >>= fun _ => _) = _
  rw [readQuoted_of_text]
  change (field state name _ >>= fun _ => _) = _
  rw [read]
  rfl

theorem readFields_written {state last : σ} {first : Field} {later : List Field}
    (leads : FieldsLead field state (first :: later) last) {fuel : Nat}
    (enough : later.length < fuel) (rest : List Char) :
    readFields field fuel state
        (fieldText first ++ (afterCommas (later.map fieldText) ++ '\x7d' :: rest)) =
      .ok (last, rest) := by
  induction later generalizing state first fuel with
  | nil =>
      cases fuel with
      | zero => cases enough
      | succ fuel =>
          -- The reader of a field stops right in front of the comma or of the closing
          -- brace.
          cases leads with
          | cons read done =>
              cases done
              exact readFields_fieldText read fuel _
  | cons second others inductionHypothesis =>
      cases fuel with
      | zero => cases enough
      | succ fuel =>
          cases leads with
          | cons read leadsOn =>
              have remaining :=
                inductionHypothesis leadsOn (Nat.lt_of_succ_lt_succ enough)
              rw [List.map_cons, afterCommas_cons, List.cons_append, List.append_assoc,
                readFields_fieldText read]
              exact remaining

/-- An object without white space reads back field by field. -/
theorem readObject_written {initial last : σ} {first : Field} {later : List Field}
    (leads : FieldsLead field initial (first :: later) last) (rest : List Char) :
    readObject field initial
        (fieldText first ++ (afterCommas (later.map fieldText) ++ '\x7d' :: rest)) =
      .ok (last, rest) := by
  have enough :
      later.length <
        (fieldText first ++
          (afterCommas (later.map fieldText) ++ '\x7d' :: rest)).length + 1 := by
    have commas := length_le_length_afterCommas (later.map fieldText)
    rw [List.length_map] at commas
    rw [List.length_append, List.length_append]
    omega
  have starts : ∃ inner, fieldText first = '"' :: inner := by
    rw [fieldText, toList_quote]
    exact ⟨_, rfl⟩
  rw [← readFields_written leads enough rest]
  obtain ⟨inner, spelled⟩ := starts
  rw [spelled]
  rfl

theorem FieldsLead.single {α : Type} {state : σ} {name text : String} {value : α}
    {read : Reader α} (update : Option α → σ)
    (step : ∀ characters, field state name characters = (do
      let (value, rest) ← readField name none read characters
      .ok (update value, rest)))
    (reads : Reads read text value) :
    FieldsLead field state [(name, text)] (update (some value)) := by
  refine FieldsLead.cons ?_ (FieldsLead.nil _)
  intro rest
  rw [step]
  change ((read (text.toList ++ rest) >>= fun _ => _) >>= fun _ => _) = _
  rw [reads.reads]
  rfl

def optionalField (name : String) (absent : Bool) (text : String) : List Field :=
  if absent then [] else [(name, text)]

def unlessAbsent {α : Type} (absent : Bool) (value : α) : Option α :=
  if absent then none else some value

theorem getD_unlessAbsent {α : Type} {absent : Bool} {value default : α}
    (otherwise : absent = true → value = default) :
    (unlessAbsent absent value).getD default = value := by
  cases absent with
  | true => exact (otherwise rfl).symm
  | false => rfl

theorem FieldsLead.optional {α : Type} {state : σ} {name text : String} {absent : Bool}
    {value : α} {read : Reader α} (update : Option α → σ) (unread : update none = state)
    (step : ∀ characters, field state name characters = (do
      let (value, rest) ← readField name none read characters
      .ok (update value, rest)))
    (reads : absent = false → Reads read text value) :
    FieldsLead field state (optionalField name absent text)
      (update (unlessAbsent absent value)) := by
  cases absent with
  | true =>
      rw [← unread]
      exact FieldsLead.nil _
  | false => exact FieldsLead.single update step (reads rfl)

end Objects

end TagSelection.Json
