import Mathlib.Logic.Relation
import TagSelection.Proofs.Expression.Alike
import TagSelection.Proofs.Expression.Language

/-!
# The layout of an expression

Blanks beside delimiters, the choice of separators, repeated and superfluous separators and
the case of operator names are layout.  They can be edited one after another without a
change in what the expression describes, and where it is refused it is refused for a fault
of the same kind.

An edit replaces a piece of the text by another piece.  Each pair of pieces leads every
state of the scan to states that are alike, and the text behind them keeps the states alike.
-/

namespace TagSelection

namespace Expression

/-! ## Edits -/

/-- Pieces of text that differ by one edit of the layout: a blank beside a delimiter,
another separator, other letter cases in an operator name, a separator that is repeated,
and a separator behind an opening or before a closing parenthesis. -/
inductive PieceEdit : List Char → List Char → Prop
  | blankBefore {blank delimiter : Char} :
      Text.isBlank blank = true →
      isDelimiter delimiter = true →
      PieceEdit [delimiter] [blank, delimiter]
  | blankBehind {blank delimiter : Char} :
      Text.isBlank blank = true →
      isDelimiter delimiter = true →
      PieceEdit [delimiter] [delimiter, blank]
  | otherSeparator {separator other : Char} :
      isSeparator separator = true →
      isSeparator other = true →
      PieceEdit [separator] [other]
  | otherCase {word other : List Char} :
      IsWord word →
      word.map Char.toLower = other.map Char.toLower →
      PieceEdit (word ++ ['(']) (other ++ ['('])
  | repeated {separator other : Char} :
      isSeparator separator = true →
      isSeparator other = true →
      PieceEdit [separator] [separator, other]
  | behindOpening {separator : Char} :
      isSeparator separator = true →
      PieceEdit ['('] ['(', separator]
  | beforeClosing {separator : Char} :
      isSeparator separator = true →
      PieceEdit [')'] [separator, ')']

/-- Texts that differ by one edit of the layout: within the text, or by a blank at one of
its ends. -/
inductive LayoutEdit : List Char → List Char → Prop
  | within {before piece other after : List Char} :
      PieceEdit piece other →
      LayoutEdit (before ++ (piece ++ after)) (before ++ (other ++ after))
  | blankFirst {blank : Char} {text : List Char} :
      Text.isBlank blank = true →
      LayoutEdit text (blank :: text)
  | blankLast {blank : Char} {text : List Char} :
      Text.isBlank blank = true →
      LayoutEdit text (text ++ [blank])

/-- Expressions that edits of the layout, made or undone, turn into each other. -/
def LayoutEquivalent (first second : String) : Prop :=
  Relation.EqvGen LayoutEdit first.toList second.toList

/-- What is the same of capital letters and of their small ones is the same of every
character and its lower case. -/
theorem toLower_invariant {kind : Char → Bool}
    (letters : ∀ letter : Fin 26,
      kind (Char.ofNat (65 + letter)).toLower = kind (Char.ofNat (65 + letter)))
    (c : Char) : kind c.toLower = kind c := by
  by_cases upper : c.val ≥ 'A'.val ∧ c.val ≤ 'Z'.val
  · have first : 65 ≤ c.toNat := upper.1
    have last : c.toNat ≤ 90 := upper.2
    have letter := letters ⟨c.toNat - 65, by omega⟩
    have code : 65 + (c.toNat - 65) = c.toNat := by omega
    rwa [code, Char.ofNat_toNat] at letter
  · have unchanged : c.toLower = c := dif_neg upper
    rw [unchanged]

theorem isDelimiter_toLower (c : Char) : isDelimiter c.toLower = isDelimiter c :=
  toLower_invariant (by decide) c

theorem isBlank_toLower (c : Char) : Text.isBlank c.toLower = Text.isBlank c :=
  toLower_invariant (by decide) c

theorem IsWord.of_sameLower {word other : List Char} (isWord : IsWord word)
    (same : word.map Char.toLower = other.map Char.toLower) : IsWord other := by
  intro c member
  have lowered : c.toLower ∈ word.map Char.toLower := by
    rw [same]
    exact List.mem_map_of_mem member
  obtain ⟨written, isWritten, sameLower⟩ := List.mem_map.1 lowered
  rw [← isDelimiter_toLower, ← sameLower, isDelimiter_toLower]
  exact isWord written isWritten

theorem map_toLower_trimChars (word : List Char) :
    (Text.trimChars word).map Char.toLower = Text.trimChars (word.map Char.toLower) := by
  have sameBlanks : Text.isBlank ∘ Char.toLower = Text.isBlank := funext isBlank_toLower
  have dropped : ∀ text : List Char,
      (text.map Char.toLower).dropWhile Text.isBlank =
        (text.dropWhile Text.isBlank).map Char.toLower := by
    intro text
    rw [List.dropWhile_map, sameBlanks]
  rw [Text.trimChars, Text.trimChars, Text.trimEnd, Text.trimEnd, dropped,
    ← List.map_reverse, dropped, List.map_reverse]

namespace Scan

variable {scan next : Scan} {column : Nat} {c : Char}

theorem word_of_delimiter (delimiter : isDelimiter c = true)
    (stepped : scan.step column c = .ok next) : next.word = "" := by
  cases steps_of_step stepped with
  | opens | separates => rfl
  | @closes call outer condition isOpen reduced =>
      cases outer with
      | nil => rfl
      | cons parent rest => rfl
  | writes plain =>
      rw [plain] at delimiter
      cases delimiter

theorem calls_of_inside (inside : c = '(' ∨ isSeparator c = true)
    (stepped : scan.step column c = .ok next) : next.calls ≠ [] := by
  cases steps_of_step stepped with
  | opens | separates => simp
  | closes => rcases inside with impossible | impossible <;> cases impossible
  | writes plain =>
      rcases inside with rfl | separates
      · cases plain
      · rw [isDelimiter_of_isSeparator separates] at plain
        cases plain

/-- A separator in front of which nothing was written inside a call changes nothing. -/
theorem endOperand_of_no_word (noWord : next.word = "") (isInside : next.calls ≠ [])
    (column : Nat) : next.endOperand column = .ok next := by
  obtain ⟨word, calls, results⟩ := next
  cases noWord
  cases calls with
  | nil => exact absurd rfl isInside
  | cons call outer => rfl

end Scan

/-! ## Pieces that may stand for each other -/

/-- From every state the two pieces lead to ends that are alike. -/
def Interchangeable (piece other : List Char) : Prop :=
  ∀ (scan : Scan) (column otherColumn : Nat),
    EndAlike Scan.Alike (scan.run column piece) (scan.run otherColumn other)

theorem interchangeable_blankBefore {blank delimiter : Char}
    (isBlank : Text.isBlank blank = true) (isDelimiter : isDelimiter delimiter = true) :
    Interchangeable [delimiter] [blank, delimiter] := by
  intro scan column otherColumn
  have plain := not_isDelimiter_of_isBlank isBlank
  have trimmed :
      Text.trimChars scan.word.toList = Text.trimChars (scan.word.push blank).toList := by
    rw [String.toList_push, Text.trimChars_concat_of_isBlank isBlank]
  rw [Scan.run_singleton, Scan.run_cons, Scan.step_of_not_delimiter plain]
  change EndAlike Scan.Alike _ (Scan.run _ (otherColumn + 1) [delimiter])
  rw [Scan.run_singleton]
  have alike : scan.AlikeButWord { scan with word := scan.word.push blank } :=
    ⟨alikeCalls_refl scan.calls, rfl⟩
  exact alike.delimiter trimmed isDelimiter column (otherColumn + 1)

/-- What stands behind a delimiter may be left out if it changes nothing in a state that has
no word. -/
theorem interchangeable_behind {delimiter : Char} {further : List Char}
    (isDelimiter : isDelimiter delimiter = true)
    (keeps : ∀ (scan first next : Scan) (column : Nat),
      scan.step column delimiter = .ok next → first.Alike next →
        ∃ last, next.run (column + 1) further = .ok last ∧ first.Alike last) :
    Interchangeable [delimiter] (delimiter :: further) := by
  intro scan column otherColumn
  have alike :=
    (Scan.Alike.refl scan).toAlikeButWord.delimiter rfl isDelimiter column otherColumn
  rw [Scan.run_singleton, Scan.run_cons]
  refine alike.followed ?_
  intro first next stepped alikeNext
  exact keeps scan first next otherColumn stepped alikeNext

theorem interchangeable_blankBehind {blank delimiter : Char}
    (isBlank : Text.isBlank blank = true) (isDelimiter : isDelimiter delimiter = true) :
    Interchangeable [delimiter] [delimiter, blank] := by
  apply interchangeable_behind isDelimiter
  intro scan first next column stepped alike
  have noWord := Scan.word_of_delimiter isDelimiter stepped
  have sameStart := alike.word_eq
  rw [Scan.run_singleton, Scan.step_of_not_delimiter (not_isDelimiter_of_isBlank isBlank)]
  refine ⟨_, rfl, ⟨alike.calls, alike.results_eq⟩, ?_⟩
  rw [noWord] at sameStart
  simp [sameStart, noWord, isBlank]

/-- A separator is idle where a call is open and no word stands in front of it. -/
theorem interchangeable_idleSeparator {c separator : Char}
    (inside : c = '(' ∨ isSeparator c = true) (separates : isSeparator separator = true) :
    Interchangeable [c] [c, separator] := by
  have delimiter : isDelimiter c = true := by
    rcases inside with rfl | isSeparator
    · rfl
    · exact isDelimiter_of_isSeparator isSeparator
  apply interchangeable_behind delimiter
  intro scan first next column stepped alike
  have noWord := Scan.word_of_delimiter delimiter stepped
  have isInside := Scan.calls_of_inside inside stepped
  rw [Scan.run_singleton, Scan.step_separator separates,
    Scan.endOperand_of_no_word noWord isInside]
  exact ⟨next, rfl, alike⟩

theorem interchangeable_otherSeparator {separator other : Char}
    (separates : isSeparator separator = true) (otherSeparates : isSeparator other = true) :
    Interchangeable [separator] [other] := by
  intro scan column otherColumn
  rw [Scan.run_singleton, Scan.run_singleton, Scan.step_separator separates,
    Scan.step_separator otherSeparates]
  exact (Scan.Alike.refl scan).toAlikeButWord.endOperand rfl column otherColumn

theorem interchangeable_otherCase {word other : List Char} (isWord : IsWord word)
    (same : word.map Char.toLower = other.map Char.toLower) :
    Interchangeable (word ++ ['(']) (other ++ ['(']) := by
  intro scan column otherColumn
  -- What the state holds in front of the word belongs to the name as well.
  have trimmed :
      (Text.trimChars (scan.word ++ String.ofList word).toList).map Char.toLower =
        (Text.trimChars (scan.word ++ String.ofList other).toList).map Char.toLower := by
    rw [map_toLower_trimChars, map_toLower_trimChars]
    simp [same]
  have alike :
      Scan.AlikeButWord { scan with word := scan.word ++ String.ofList word }
        { scan with word := scan.word ++ String.ofList other } :=
    ⟨alikeCalls_refl scan.calls, rfl⟩
  rw [Scan.run_append, Scan.run_append, Scan.run_word isWord,
    Scan.run_word (isWord.of_sameLower same)]
  change EndAlike Scan.Alike (Scan.run _ (column + word.length) ['('])
    (Scan.run _ (otherColumn + other.length) ['('])
  rw [Scan.run_singleton, Scan.run_singleton]
  exact alike.openCall trimmed _ _

theorem interchangeable_beforeClosing {separator : Char}
    (separates : isSeparator separator = true) :
    Interchangeable [')'] [separator, ')'] := by
  intro scan column otherColumn
  rw [Scan.run_singleton, Scan.run_cons, Scan.step_separator separates]
  obtain ⟨word, calls, results⟩ := scan
  cases calls with
  | nil => exact EndAlike.error rfl
  | cons call outer =>
      -- The separator hands the word over, and the parenthesis finds no word any more.
      change EndAlike Scan.Alike _
        (Scan.run { calls := call.add (tagOf word) :: outer, results } _ [')'])
      rw [Scan.run_singleton]
      exact EndAlike.same Scan.Alike.refl _

theorem PieceEdit.interchangeable {piece other : List Char} (edit : PieceEdit piece other) :
    Interchangeable piece other := by
  cases edit with
  | blankBefore isBlank isDelimiter => exact interchangeable_blankBefore isBlank isDelimiter
  | blankBehind isBlank isDelimiter => exact interchangeable_blankBehind isBlank isDelimiter
  | otherSeparator separates otherSeparates =>
      exact interchangeable_otherSeparator separates otherSeparates
  | otherCase isWord same => exact interchangeable_otherCase isWord same
  | repeated separates otherSeparates =>
      exact interchangeable_idleSeparator (Or.inr separates) otherSeparates
  | behindOpening separates => exact interchangeable_idleSeparator (Or.inl rfl) separates
  | beforeClosing separates => exact interchangeable_beforeClosing separates

theorem scan_ofList (text : List Char) :
    scan (String.ofList text) = Scan.run {} 1 text >>= Scan.conclude := by
  rw [scan, String.toList_ofList]

theorem scan_of_interchangeable {piece other : List Char}
    (interchangeable : Interchangeable piece other) (before after : List Char) :
    EndAlike Eq (scan (String.ofList (before ++ (piece ++ after))))
      (scan (String.ofList (before ++ (other ++ after)))) := by
  have alikeBehind : EndAlike Scan.Alike (Scan.run {} 1 (before ++ (piece ++ after)))
      (Scan.run {} 1 (before ++ (other ++ after))) := by
    rw [Scan.run_append, Scan.run_append]
    -- Up to the piece the two scans are one.
    cases Scan.run {} 1 before with
    | error fault => exact EndAlike.error rfl
    | ok middle =>
        change EndAlike Scan.Alike (middle.run (1 + before.length) (piece ++ after))
          (middle.run (1 + before.length) (other ++ after))
        rw [Scan.run_append, Scan.run_append]
        refine EndAlike.bind (interchangeable middle _ _) ?_
        intro next otherNext alike
        exact alike.run after _ _
  rw [scan_ofList, scan_ofList]
  refine EndAlike.bind alikeBehind ?_
  intro last otherLast alike
  exact alike.toAlikeButWord.conclude alike.trimmed

theorem scan_of_blankFirst {blank : Char} (isBlank : Text.isBlank blank = true)
    (text : List Char) :
    EndAlike Eq (scan (String.ofList text)) (scan (String.ofList (blank :: text))) := by
  have plain := not_isDelimiter_of_isBlank isBlank
  have alike : Scan.Alike {} { word := "".push blank } :=
    ⟨⟨List.Forall₂.nil, rfl⟩, by simp [isBlank]⟩
  rw [scan_ofList, scan_ofList, Scan.run_cons, Scan.step_of_not_delimiter plain]
  refine EndAlike.bind (alike.run text 1 2) ?_
  intro last otherLast alikeLast
  exact alikeLast.toAlikeButWord.conclude alikeLast.trimmed

theorem scan_of_blankLast {blank : Char} (isBlank : Text.isBlank blank = true)
    (text : List Char) :
    EndAlike Eq (scan (String.ofList text)) (scan (String.ofList (text ++ [blank]))) := by
  have plain := not_isDelimiter_of_isBlank isBlank
  rw [scan_ofList, scan_ofList, Scan.run_append]
  cases Scan.run {} 1 text with
  | error fault => exact EndAlike.error rfl
  | ok last =>
      change EndAlike Eq last.conclude (last.run _ [blank] >>= Scan.conclude)
      rw [Scan.run_singleton, Scan.step_of_not_delimiter plain]
      have trimmed :
          Text.trimChars last.word.toList = Text.trimChars (last.word.push blank).toList := by
        rw [String.toList_push, Text.trimChars_concat_of_isBlank isBlank]
      have alike : last.AlikeButWord { last with word := last.word.push blank } :=
        ⟨alikeCalls_refl last.calls, rfl⟩
      exact alike.conclude trimmed

theorem LayoutEdit.scan_endAlike {text other : List Char} (edit : LayoutEdit text other) :
    EndAlike Eq (scan (String.ofList text)) (scan (String.ofList other)) := by
  cases edit with
  | within edit => exact scan_of_interchangeable edit.interchangeable _ _
  | blankFirst isBlank => exact scan_of_blankFirst isBlank text
  | blankLast isBlank => exact scan_of_blankLast isBlank text

theorem PieceEdit.not_blank {piece other : List Char} (edit : PieceEdit piece other) :
    piece.all Text.isBlank = false ∧ other.all Text.isBlank = false := by
  have opening : Text.isBlank '(' = false := rfl
  have closing : Text.isBlank ')' = false := rfl
  cases edit with
  | blankBefore _ isDelimiter | blankBehind _ isDelimiter =>
      simp [not_isBlank_of_isDelimiter isDelimiter]
  | otherSeparator separates otherSeparates | repeated separates otherSeparates =>
      have first := not_isBlank_of_isDelimiter (isDelimiter_of_isSeparator separates)
      have second := not_isBlank_of_isDelimiter (isDelimiter_of_isSeparator otherSeparates)
      simp [first, second]
  | otherCase | behindOpening => simp [opening]
  | beforeClosing => simp [closing]

theorem LayoutEdit.sameBlank {text other : List Char} (edit : LayoutEdit text other) :
    text.all Text.isBlank = other.all Text.isBlank := by
  cases edit with
  | within edit =>
      obtain ⟨notBlank, otherNotBlank⟩ := edit.not_blank
      simp only [List.all_append, notBlank, otherNotBlank]
  | blankFirst isBlank => rw [List.all_cons, isBlank, Bool.true_and]
  | blankLast isBlank => simp [isBlank]

theorem LayoutEdit.parse_endAlike {text other : List Char} (edit : LayoutEdit text other) :
    EndAlike Eq (parse (String.ofList text)) (parse (String.ofList other)) := by
  have sameBlank : Text.isBlankText (String.ofList text) =
      Text.isBlankText (String.ofList other) := by
    simpa only [Text.isBlankText, String.toList_ofList] using edit.sameBlank
  rw [parse, parse, sameBlank]
  split
  · exact EndAlike.refl _
  · exact edit.scan_endAlike

theorem LayoutEquivalent.parse_endAlike {first second : String}
    (same : LayoutEquivalent first second) : EndAlike Eq (parse first) (parse second) := by
  have onCharacters : ∀ text other : List Char, Relation.EqvGen LayoutEdit text other →
      EndAlike Eq (parse (String.ofList text)) (parse (String.ofList other)) := by
    intro text other edits
    induction edits with
    | rel _ _ edit => exact edit.parse_endAlike
    | refl text => exact EndAlike.refl _
    | symm _ _ _ inductionHypothesis => exact inductionHypothesis.symm
    | trans _ _ _ _ _ firstHypothesis secondHypothesis =>
        exact firstHypothesis.trans secondHypothesis
  have alike := onCharacters _ _ same
  rwa [String.ofList_toList, String.ofList_toList] at alike

/-- The layout of an expression makes no difference to the condition that it describes, nor
to the kind of fault for which it is refused. -/
theorem parse_regardless_of_layout {first second : String}
    (same : LayoutEquivalent first second) :
    (∀ condition, parse first = .ok condition ↔ parse second = .ok condition) ∧
      ((∀ condition, parse first ≠ .ok condition) →
        ∃ fault other, parse first = .error fault ∧ parse second = .error other ∧
          fault.kind = other.kind) := by
  have alike := same.parse_endAlike
  generalize parse first = firstEnd at alike
  generalize parse second = secondEnd at alike
  cases alike with
  | @ok condition other sameCondition =>
      refine ⟨by simp [sameCondition], ?_⟩
      intro refused
      exact absurd rfl (refused condition)
  | @error fault other sameKind => exact ⟨by simp, fun _ => ⟨fault, other, rfl, rfl, sameKind⟩⟩

theorem parse_regardless_of_layout_edited :
    LayoutEquivalent " And(a b;not( c ),)" "aND (a b;,not( c ))" ∧
      parse "aND (a b;,not( c ))" = .ok (.and [.has "a b", .not (some (.has "c"))]) ∧
      LayoutEquivalent "not( a;b)" "not(a;b)" ∧
      ∃ fault other, parse "not( a;b)" = .error fault ∧ parse "not(a;b)" = .error other ∧
        fault.kind = other.kind := by
  have leading : LayoutEdit "And(a b;not( c ),)".toList " And(a b;not( c ),)".toList :=
    LayoutEdit.blankFirst rfl
  have otherCase : LayoutEdit "And(a b;not( c ),)".toList "aND(a b;not( c ),)".toList :=
    @LayoutEdit.within [] _ _ "a b;not( c ),)".toList
      (@PieceEdit.otherCase "And".toList "aND".toList (by decide) (by decide))
  have spaced : LayoutEdit "aND(a b;not( c ),)".toList "aND (a b;not( c ),)".toList :=
    @LayoutEdit.within "aND".toList _ _ "a b;not( c ),)".toList
      (@PieceEdit.blankBefore ' ' '(' rfl rfl)
  have closing : LayoutEdit "aND (a b;not( c ))".toList "aND (a b;not( c ),)".toList :=
    @LayoutEdit.within "aND (a b;not( c )".toList _ _ []
      (@PieceEdit.beforeClosing ',' rfl)
  have repeated : LayoutEdit "aND (a b;not( c ))".toList "aND (a b;,not( c ))".toList :=
    @LayoutEdit.within "aND (a b".toList _ _ "not( c ))".toList
      (@PieceEdit.repeated ';' ',' rfl rfl)
  have inner : LayoutEdit "not(a;b)".toList "not( a;b)".toList :=
    @LayoutEdit.within "not".toList _ _ "a;b)".toList (@PieceEdit.blankBehind ' ' '(' rfl rfl)
  have same : LayoutEquivalent " And(a b;not( c ),)" "aND (a b;,not( c ))" :=
    ((((Relation.EqvGen.rel _ _ leading).symm.trans _ _ _ (.rel _ _ otherCase)).trans _ _ _
      (.rel _ _ spaced)).trans _ _ _ (.symm _ _ (.rel _ _ closing))).trans _ _ _
      (.rel _ _ repeated)
  have sameRefused : LayoutEquivalent "not( a;b)" "not(a;b)" :=
    .symm _ _ (.rel _ _ inner)
  have accepted :
      parse " And(a b;not( c ),)" = .ok (.and [.has "a b", .not (some (.has "c"))]) := by
    decide
  have refused : ∀ condition, parse "not( a;b)" ≠ .ok condition := by
    have fault : parse "not( a;b)" = .error (.call (.negationOf 2)) := by decide
    simp [fault]
  exact ⟨same, ((parse_regardless_of_layout same).1 _).1 accepted, sameRefused,
    (parse_regardless_of_layout sameRefused).2 refused⟩

end Expression

end TagSelection
