import Retrieval.Json.Text

/-!
# Tokens read back

A literal and a numeral in their written form are read as they were, whatever
stands behind them; behind a numeral there may be nothing that goes on with it
(`EndsNumeral`).
-/

namespace Retrieval

/-! ## Numerals -/

structure Digits.Run (digits : List Char) : Prop where
  filled : digits ≠ []
  all : ∀ digit ∈ digits, digit.isDigit = true

/-- A numeral that can be written: digits in every place, and no zero in front of others. -/
structure Numeral.WellFormed (numeral : Numeral) : Prop where
  whole : Digits.Run numeral.whole
  unpadded : ¬ (numeral.whole.head? = some '0' ∧ 1 < numeral.whole.length)
  fraction : ∀ digits, numeral.fraction = some digits → Digits.Run digits
  exponent : ∀ lowers digits, numeral.exponent = some (lowers, digits) → Digits.Run digits

namespace Json

/-- A text that does not go on with a numeral before it. -/
def EndsNumeral (text : List Char) : Prop :=
  ∀ character rest, text = character :: rest →
    character.isDigit = false ∧ character ≠ '.' ∧ character ≠ 'e' ∧ character ≠ 'E'

/-- A text that does not go on with digits before it. -/
def EndsDigits (text : List Char) : Prop :=
  ∀ character rest, text = character :: rest → character.isDigit = false

theorem EndsNumeral.endsDigits {text : List Char} (ends : EndsNumeral text) :
    EndsDigits text := by
  intro character rest same
  exact (ends character rest same).1

theorem endsDigits_cons {character : Char} (other : character.isDigit = false)
    (rest : List Char) : EndsDigits (character :: rest) := by
  intro head tail same
  cases same
  exact other

theorem digits?_append {digits rest : List Char} (run : Digits.Run digits)
    (ends : EndsDigits rest) : digits? (digits ++ rest) = some (digits, rest) := by
  have stopsTaking : rest.takeWhile Char.isDigit = [] := by
    cases rest with
    | nil => rfl
    | cons character tail => simp [ends character tail rfl]
  have stopsDropping : rest.dropWhile Char.isDigit = rest := by
    cases rest with
    | nil => rfl
    | cons character tail => simp [ends character tail rfl]
  unfold digits?
  rw [List.takeWhile_append_of_pos run.all, List.dropWhile_append_of_pos run.all, stopsTaking,
    stopsDropping, List.append_nil]
  cases digits with
  | nil => exact absurd rfl run.filled
  | cons digit others => rfl

theorem whole?_append {digits rest : List Char} (run : Digits.Run digits)
    (unpadded : ¬ (digits.head? = some '0' ∧ 1 < digits.length)) (ends : EndsDigits rest) :
    whole? (digits ++ rest) = some (digits, rest) := by
  simp only [whole?, digits?_append run ends, Option.bind_eq_bind, Option.bind_some,
    if_neg unpadded]

/-- What stands between the digits of a numeral and its exponent. -/
def fractionText : Option (List Char) → List Char
  | none => []
  | some digits => '.' :: digits

def exponentText : Option (Bool × List Char) → List Char
  | none => []
  | some (lowers, digits) => 'e' :: ((if lowers then ['-'] else []) ++ digits)

theorem numeralText_eq (numeral : Numeral) :
    numeralText numeral = (if numeral.negative then ['-'] else []) ++ (numeral.whole ++
      (fractionText numeral.fraction ++ exponentText numeral.exponent)) := by
  obtain ⟨negative, whole, fraction, exponent⟩ := numeral
  cases fraction <;> cases exponent <;> simp [numeralText, fractionText, exponentText]

theorem fraction?_append {fraction : Option (List Char)} {rest : List Char}
    (runs : ∀ digits, fraction = some digits → Digits.Run digits) (ends : EndsDigits rest)
    (pointless : ∀ tail, rest ≠ '.' :: tail) :
    fraction? (fractionText fraction ++ rest) = some (fraction, rest) := by
  cases fraction with
  | none =>
      unfold fraction?
      split
      · next tail same => exact absurd same (pointless tail)
      · rfl
  | some digits =>
      simp [fraction?, fractionText, digits?_append (runs digits rfl) ends]

theorem exponentDigits?_append (lowers : Bool) {digits rest : List Char}
    (run : Digits.Run digits) (ends : EndsDigits rest) :
    exponentDigits? ((if lowers then ['-'] else []) ++ digits ++ rest) =
      some ((lowers, digits), rest) := by
  cases lowers with
  | true => simp [exponentDigits?, digits?_append run ends]
  | false =>
      cases digits with
      | nil => exact absurd rfl run.filled
      | cons digit others =>
          have isDigit : digit.isDigit = true := run.all digit List.mem_cons_self
          have read := digits?_append run ends
          unfold exponentDigits?
          split
          · next same =>
            cases same
            cases isDigit
          · next same =>
            cases same
            cases isDigit
          · simp only [Bool.false_eq_true, if_false, List.nil_append, read, Option.map_some]

theorem exponent?_append {exponent : Option (Bool × List Char)} {rest : List Char}
    (runs : ∀ lowers digits, exponent = some (lowers, digits) → Digits.Run digits)
    (ends : EndsNumeral rest) :
    exponent? (exponentText exponent ++ rest) = some (exponent, rest) := by
  cases exponent with
  | none =>
      unfold exponent?
      split
      · next tail same => exact absurd rfl (ends 'e' tail same).2.2.1
      · next tail same => exact absurd rfl (ends 'E' tail same).2.2.2
      · rfl
  | some read =>
      obtain ⟨lowers, digits⟩ := read
      have back := exponentDigits?_append lowers (runs lowers digits rfl) ends.endsDigits
      simp only [exponentText, exponent?, List.cons_append, back, Option.map_some]

theorem numeral?_append {numeral : Numeral} {rest : List Char} (formed : numeral.WellFormed)
    (ends : EndsNumeral rest) :
    numeral? numeral.negative (numeral.whole ++
      (fractionText numeral.fraction ++ (exponentText numeral.exponent ++ rest))) =
      some (numeral, rest) := by
  have exponentEnds : EndsDigits (exponentText numeral.exponent ++ rest) := by
    cases numeral.exponent with
    | none => exact ends.endsDigits
    | some read => exact endsDigits_cons rfl _
  have pointless : ∀ tail, exponentText numeral.exponent ++ rest ≠ '.' :: tail := by
    intro tail
    cases numeral.exponent with
    | none =>
        intro same
        exact (ends '.' tail same).2.1 rfl
    | some read =>
        intro same
        cases same
  have fractionEnds : EndsDigits
      (fractionText numeral.fraction ++ (exponentText numeral.exponent ++ rest)) := by
    cases numeral.fraction with
    | none => exact exponentEnds
    | some digits => exact endsDigits_cons rfl _
  simp only [numeral?, whole?_append formed.whole formed.unpadded fractionEnds,
    fraction?_append formed.fraction exponentEnds pointless,
    exponent?_append formed.exponent ends, Option.bind_eq_bind, Option.bind_some,
    Option.pure_def]

theorem next?_digit {digit : Char} (isDigit : digit.isDigit = true) (rest : List Char) :
    next? (digit :: rest) =
      (numeral? false (digit :: rest)).map fun read => (.number read.1, read.2) := by
  unfold next?
  split <;> next same =>
    first
    | rfl
    | cases same
      cases isDigit

theorem next?_numeralText {numeral : Numeral} {rest : List Char} (formed : numeral.WellFormed)
    (ends : EndsNumeral rest) :
    next? (numeralText numeral ++ rest) = some (.number numeral, rest) := by
  have back := numeral?_append formed ends
  rw [numeralText_eq]
  simp only [List.append_assoc]
  cases negative : numeral.negative with
  | true =>
      rw [negative] at back
      simp only [if_true, List.cons_append, List.nil_append, next?, back, Option.map_some]
  | false =>
      rw [negative] at back
      cases whole : numeral.whole with
      | nil => exact absurd whole formed.whole.filled
      | cons digit others =>
          have isDigit : digit.isDigit = true :=
            formed.whole.all digit (whole ▸ List.mem_cons_self)
          rw [whole] at back
          simp only [Bool.false_eq_true, if_false, List.nil_append, List.cons_append] at back ⊢
          rw [next?_digit isDigit, back, Option.map_some]

/-! ## Literals -/

/-- How a character is written: as it is, behind a backslash, or by its number. -/
inductive Escaped (character : Char) : List Char → Prop where
  | plain (quote : character ≠ '"') (backslash : character ≠ '\\')
      (printed : ¬ character.toNat < 0x20) : Escaped character [character]
  | short {letter : Char} (meant : escaped? letter = some character) :
      Escaped character ['\\', letter]
  | long (control : character.toNat < 0x20) :
      Escaped character ['\\', 'u', '0', '0', hexDigitOf (character.toNat / 16),
        hexDigitOf (character.toNat % 16)]

theorem escaped_escape (character : Char) : Escaped character (escape character) := by
  unfold escape
  split
  · exact .short rfl
  · exact .short rfl
  · exact .short rfl
  · exact .short rfl
  · exact .short rfl
  · exact .short rfl
  · exact .short rfl
  · next quote backslash _ _ _ _ _ =>
    split
    · next control => exact .long control
    · next printed => exact .plain quote backslash printed

theorem hexDigitOf_read (value : Nat) (small : value < 16) :
    Digits.hexValue? (hexDigitOf value) = some value ∧ hexDigitOf value ≠ '"' ∧
      hexDigitOf value ≠ '\\' ∧ ¬ (hexDigitOf value).toNat < 0x20 := by
  revert value
  decide

theorem untilQuote?_plain {character : Char} (quote : character ≠ '"')
    (backslash : character ≠ '\\') (printed : ¬ character.toNat < 0x20) (rest : List Char) :
    untilQuote? (character :: rest) =
      (untilQuote? rest).map fun read => (character :: read.1, read.2) := by
  rw [untilQuote?.eq_def]
  split
  · next same => cases same
  · next same =>
    cases same
    exact absurd rfl quote
  · next same =>
    cases same
    exact absurd rfl backslash
  · next other tail _ _ same =>
    cases same
    rw [if_neg printed]
    cases untilQuote? rest <;> rfl

theorem untilQuote?_escape (character : Char) (rest : List Char) :
    untilQuote? (escape character ++ rest) =
      (untilQuote? rest).map fun read => (escape character ++ read.1, read.2) := by
  have written := escaped_escape character
  generalize escape character = text at written ⊢
  cases written with
  | plain quote backslash printed => exact untilQuote?_plain quote backslash printed rest
  | short =>
      simp only [List.cons_append, List.nil_append, untilQuote?]
      cases untilQuote? rest <;> rfl
  | long control =>
      have high : character.toNat / 16 < 16 := by omega
      have low : character.toNat % 16 < 16 := by omega
      obtain ⟨-, highQuote, highBackslash, highPrinted⟩ := hexDigitOf_read _ high
      obtain ⟨-, lowQuote, lowBackslash, lowPrinted⟩ := hexDigitOf_read _ low
      have zero (tail : List Char) : untilQuote? ('0' :: tail) =
          (untilQuote? tail).map fun read => ('0' :: read.1, read.2) :=
        untilQuote?_plain (by decide) (by decide) (by decide) tail
      simp only [List.cons_append, List.nil_append, untilQuote?, zero,
        untilQuote?_plain highQuote highBackslash highPrinted,
        untilQuote?_plain lowQuote lowBackslash lowPrinted]
      cases untilQuote? rest <;> rfl

theorem untilQuote?_flatMap (characters rest : List Char) :
    untilQuote? (characters.flatMap escape ++ '"' :: rest) =
      some (characters.flatMap escape, rest) := by
  induction characters with
  | nil => rfl
  | cons character others ih =>
      rw [List.flatMap_cons, List.append_assoc, untilQuote?_escape, ih, Option.map_some]

/-- An element that stands for a character on its own. -/
inductive Denotes (character : Char) : Element → Prop where
  | character : Denotes character (.character character)
  | unit (control : character.toNat < 0x20) : Denotes character (.unit character.toNat)

theorem join_cons {character : Char} {element : Element} (denotes : Denotes character element)
    (rest : List Element) :
    Element.join (element :: rest) = (Element.join rest).map (character :: ·) := by
  cases denotes with
  | character => rfl
  | unit control =>
      have low : Element.isLow character.toNat = false := by
        simp only [Element.isLow, Bool.and_eq_false_iff, decide_eq_false_iff_not]
        omega
      have high : Element.isHigh character.toNat = false := by
        simp only [Element.isHigh, Bool.and_eq_false_iff, decide_eq_false_iff_not]
        omega
      cases rest with
      | nil => simp [Element.join, low, high, Char.ofNat_toNat]
      | cons next others =>
          cases next with
          | character value =>
              simp [Element.join, low, high, Char.ofNat_toNat, Function.comp_def]
          | unit code => simp [Element.join, low, high, Char.ofNat_toNat]

theorem elements?_plain {character : Char} (backslash : character ≠ '\\') (rest : List Char) :
    elements? (character :: rest) =
      (elements? rest).map (.character character :: ·) := by
  rw [elements?.eq_def]
  split
  · next same => cases same
  · next same =>
    cases same
    exact absurd rfl backslash
  · next same =>
    cases same
    exact absurd rfl backslash
  · next same =>
    cases same
    cases elements? rest <;> rfl

theorem elements?_escape (character : Char) :
    ∃ element, Denotes character element ∧ ∀ rest, elements? (escape character ++ rest) =
      (elements? rest).map (element :: ·) := by
  have written := escaped_escape character
  generalize escape character = text at written ⊢
  cases written with
  | plain _ backslash _ => exact ⟨_, .character, elements?_plain backslash⟩
  | @short letter meant =>
      refine ⟨_, .character, ?_⟩
      intro rest
      have other : letter ≠ 'u' := by
        rintro rfl
        cases meant
      rw [List.cons_append, List.cons_append, List.nil_append, elements?.eq_def]
      split
      · next same => cases same
      · next same =>
        cases same
        exact absurd rfl other
      · next same =>
        cases same
        rw [meant]
        cases elements? rest <;> rfl
      · next unlike same =>
        cases same
        exact absurd rfl (unlike _ _ rfl)
  | long control =>
      refine ⟨_, .unit control, ?_⟩
      intro rest
      have high : character.toNat / 16 < 16 := by omega
      have low : character.toNat % 16 < 16 := by omega
      have zero : Digits.hexValue? '0' = some 0 := by decide
      have whole : 0x10 * (character.toNat / 16) + character.toNat % 16 = character.toNat :=
        Nat.div_add_mod _ _
      simp only [List.cons_append, List.nil_append, elements?, zero, (hexDigitOf_read _ high).1,
        (hexDigitOf_read _ low).1, Option.bind_eq_bind, Option.bind_some, Nat.mul_zero,
        Nat.zero_add, whole]
      cases elements? rest <;> rfl

theorem elements?_flatMap (characters : List Char) :
    ∃ elements, elements? (characters.flatMap escape) = some elements ∧
      Element.join elements = some characters := by
  induction characters with
  | nil => exact ⟨[], rfl, rfl⟩
  | cons character others ih =>
      obtain ⟨elements, read, joined⟩ := ih
      obtain ⟨element, denotes, step⟩ := elements?_escape character
      refine ⟨element :: elements, ?_, ?_⟩
      · rw [List.flatMap_cons, step, read, Option.map_some]
      · rw [join_cons denotes, joined, Option.map_some]

theorem next?_quoted (text : String) (rest : List Char) :
    next? (quoted (some text) ++ rest) = some (.string (some text), rest) := by
  obtain ⟨elements, read, joined⟩ := elements?_flatMap text.toList
  have written : quoted (some text) ++ rest =
      '"' :: (text.toList.flatMap escape ++ '"' :: rest) := by
    simp [quoted]
  rw [written, next?, literal?, untilQuote?_flatMap]
  simp only [Option.bind_eq_bind, Option.bind_some, read, joined, Option.map_some,
    String.ofList_toList, Option.pure_def]

end Json

end Retrieval
