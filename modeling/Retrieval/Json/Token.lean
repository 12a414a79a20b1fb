import Retrieval.Json.Basic
import Retrieval.Number.Digits

/-!
# Tokens of JSON text

A text is a sequence of tokens with spaces between them.  Reading one token
leaves a shorter text (`next?_shorter`).  Writing a token gives its one written
form: control characters, the quotation mark and the backslash are escaped in
strings, and nothing else is.
-/

namespace Retrieval

namespace Json

inductive Token where
  | openArray
  | closeArray
  | openObject
  | closeObject
  | comma
  | colon
  | null
  | boolean (value : Bool)
  | number (numeral : Numeral)
  | string (literal : Literal)
  deriving Repr

/-- What a backslash can stand for in a string, besides a character. -/
inductive Element where
  | character (value : Char)
  /-- A UTF-16 unit given by its number. -/
  | unit (code : Nat)

namespace Element

def isHigh (code : Nat) : Bool := 0xD800 ≤ code && code < 0xDC00

def isLow (code : Nat) : Bool := 0xDC00 ≤ code && code < 0xE000

/-- The characters denoted; none if half of a surrogate pair stands alone. -/
def join : List Element → Option (List Char)
  | [] => some []
  | .character value :: rest => (join rest).map (value :: ·)
  | [.unit code] => if isHigh code || isLow code then none else some [Char.ofNat code]
  | .unit first :: .unit second :: rest =>
      if isHigh first && isLow second then
        (join rest).map (Char.ofNat (0x10000 + 0x400 * (first - 0xD800) + (second - 0xDC00)) :: ·)
      else if isHigh first || isLow first then none
      else (join (.unit second :: rest)).map (Char.ofNat first :: ·)
  | .unit code :: .character value :: rest =>
      if isHigh code || isLow code then none
      else (join rest).map fun others => Char.ofNat code :: value :: others

end Element

/-- The character that a letter stands for behind a backslash. -/
def escaped? : Char → Option Char
  | '"' => some '"'
  | '\\' => some '\\'
  | '/' => some '/'
  | 'b' => some '\x08'
  | 'f' => some '\x0c'
  | 'n' => some '\n'
  | 'r' => some '\r'
  | 't' => some '\t'
  | _ => none

def elements? : List Char → Option (List Element)
  | [] => some []
  | '\\' :: 'u' :: a :: b :: c :: d :: rest => do
      let code := 0x1000 * (← Digits.hexValue? a) + 0x100 * (← Digits.hexValue? b) +
        0x10 * (← Digits.hexValue? c) + (← Digits.hexValue? d)
      return .unit code :: (← elements? rest)
  | '\\' :: letter :: rest => do
      return .character (← escaped? letter) :: (← elements? rest)
  | character :: rest => do
      return .character character :: (← elements? rest)

/-- What stands before the closing quotation mark, and what stands after it. -/
def untilQuote? : List Char → Option (List Char × List Char)
  | [] => none
  | '"' :: rest => some ([], rest)
  | '\\' :: next :: rest => do
      let (inside, after) ← untilQuote? rest
      return ('\\' :: next :: inside, after)
  | character :: rest =>
      if character.toNat < 0x20 then none
      else do
        let (inside, after) ← untilQuote? rest
        return (character :: inside, after)

/-- A string literal whose opening quotation mark has been read. -/
def literal? (text : List Char) : Option (Literal × List Char) := do
  let (inside, after) ← untilQuote? text
  let elements ← elements? inside
  return ((Element.join elements).map String.ofList, after)

def digits? (text : List Char) : Option (List Char × List Char) :=
  match text.takeWhile Char.isDigit with
  | [] => none
  | digits => some (digits, text.dropWhile Char.isDigit)

/-- The digits before the point: no zero in front of another digit. -/
def whole? (text : List Char) : Option (List Char × List Char) := do
  let (digits, rest) ← digits? text
  if digits.head? = some '0' ∧ 1 < digits.length then none else some (digits, rest)

/-- A point and the digits after it, if a point follows. -/
def fraction? : List Char → Option (Option (List Char) × List Char)
  | '.' :: rest => do
      let (digits, after) ← digits? rest
      return (some digits, after)
  | rest => some (none, rest)

/-- The digits of an exponent behind its sign; the flag tells a minus sign. -/
def exponentDigits? : List Char → Option ((Bool × List Char) × List Char)
  | '-' :: rest => (digits? rest).map fun read => ((true, read.1), read.2)
  | '+' :: rest => (digits? rest).map fun read => ((false, read.1), read.2)
  | rest => (digits? rest).map fun read => ((false, read.1), read.2)

def exponent? : List Char → Option (Option (Bool × List Char) × List Char)
  | 'e' :: rest => (exponentDigits? rest).map fun read => (some read.1, read.2)
  | 'E' :: rest => (exponentDigits? rest).map fun read => (some read.1, read.2)
  | rest => some (none, rest)

def numeral? (negative : Bool) (text : List Char) : Option (Numeral × List Char) := do
  let (whole, afterWhole) ← whole? text
  let (fraction, afterFraction) ← fraction? afterWhole
  let (exponent, rest) ← exponent? afterFraction
  return (⟨negative, whole, fraction, exponent⟩, rest)

def next? : List Char → Option (Token × List Char)
  | '[' :: rest => some (.openArray, rest)
  | ']' :: rest => some (.closeArray, rest)
  | '\x7b' :: rest => some (.openObject, rest)
  | '\x7d' :: rest => some (.closeObject, rest)
  | ',' :: rest => some (.comma, rest)
  | ':' :: rest => some (.colon, rest)
  | 'n' :: 'u' :: 'l' :: 'l' :: rest => some (.null, rest)
  | 't' :: 'r' :: 'u' :: 'e' :: rest => some (.boolean true, rest)
  | 'f' :: 'a' :: 'l' :: 's' :: 'e' :: rest => some (.boolean false, rest)
  | '"' :: rest => (literal? rest).map fun read => (.string read.1, read.2)
  | '-' :: rest => (numeral? true rest).map fun read => (.number read.1, read.2)
  | rest => (numeral? false rest).map fun read => (.number read.1, read.2)

theorem untilQuote?_shorter {text inside after : List Char}
    (read : untilQuote? text = some (inside, after)) : after.length < text.length := by
  fun_induction untilQuote? text generalizing inside after with
  | case1 => simp at read
  | case2 => simp_all
  | case3 next rest ih =>
      simp only [Option.bind_eq_bind, Option.bind_eq_some_iff, Option.pure_def] at read
      obtain ⟨⟨first, second⟩, found, same⟩ := read
      have := ih found
      simp at same
      obtain ⟨-, rfl⟩ := same
      simp; omega
  | case4 => simp at read
  | case5 character rest _ _ _ ih =>
      simp only [Option.bind_eq_bind, Option.bind_eq_some_iff, Option.pure_def] at read
      obtain ⟨⟨first, second⟩, found, same⟩ := read
      have := ih found
      simp at same
      obtain ⟨-, rfl⟩ := same
      simp; omega

theorem length_dropWhile_le {α : Type} (test : α → Bool) (items : List α) :
    (items.dropWhile test).length ≤ items.length :=
  (List.dropWhile_sublist test).length_le

theorem digits?_shorter {text digits rest : List Char}
    (read : digits? text = some (digits, rest)) : rest.length < text.length := by
  unfold digits? at read
  split at read
  · simp at read
  · next taken nonempty =>
    simp only [Option.some.injEq, Prod.mk.injEq] at read
    obtain ⟨-, rfl⟩ := read
    have split := congrArg List.length
      (List.takeWhile_append_dropWhile (p := Char.isDigit) (l := text))
    have := List.length_pos_iff.mpr nonempty
    simp only [List.length_append] at split
    omega

theorem fraction?_length {text rest : List Char} {fraction : Option (List Char)}
    (read : fraction? text = some (fraction, rest)) : rest.length ≤ text.length := by
  unfold fraction? at read
  split at read
  · simp only [Option.bind_eq_bind, Option.bind_eq_some_iff, Option.pure_def] at read
    obtain ⟨⟨digits, after⟩, found, same⟩ := read
    have := digits?_shorter found
    simp at same
    obtain ⟨-, rfl⟩ := same
    simp; omega
  · simp_all

theorem exponentDigits?_length {text rest : List Char} {exponent : Bool × List Char}
    (read : exponentDigits? text = some (exponent, rest)) : rest.length ≤ text.length := by
  unfold exponentDigits? at read
  split at read <;>
    · simp only [Option.map_eq_some_iff] at read
      obtain ⟨⟨digits, after⟩, found, same⟩ := read
      have := digits?_shorter found
      simp at same
      obtain ⟨-, rfl⟩ := same
      simp; omega

theorem exponent?_length {text rest : List Char} {exponent : Option (Bool × List Char)}
    (read : exponent? text = some (exponent, rest)) : rest.length ≤ text.length := by
  unfold exponent? at read
  split at read
  · simp only [Option.map_eq_some_iff] at read
    obtain ⟨⟨digits, after⟩, found, same⟩ := read
    have := exponentDigits?_length found
    simp at same
    obtain ⟨-, rfl⟩ := same
    simp; omega
  · simp only [Option.map_eq_some_iff] at read
    obtain ⟨⟨digits, after⟩, found, same⟩ := read
    have := exponentDigits?_length found
    simp at same
    obtain ⟨-, rfl⟩ := same
    simp; omega
  · simp_all

theorem numeral?_shorter {negative : Bool} {text rest : List Char} {numeral : Numeral}
    (read : numeral? negative text = some (numeral, rest)) : rest.length < text.length := by
  simp only [numeral?, whole?, Option.bind_eq_bind, Option.bind_eq_some_iff,
    Option.pure_def] at read
  obtain ⟨⟨whole, afterWhole⟩, ⟨⟨digits, afterDigits⟩, digitsFound, wholeSame⟩,
    ⟨fraction, afterFraction⟩, fractionFound,
    ⟨exponent, afterExponent⟩, exponentFound, same⟩ := read
  have first := digits?_shorter digitsFound
  have second := fraction?_length fractionFound
  have third := exponent?_length exponentFound
  split at wholeSame
  · simp at wholeSame
  · simp at wholeSame same
    obtain ⟨-, rfl⟩ := wholeSame
    obtain ⟨-, rfl⟩ := same
    simp only at *
    omega

theorem literal?_shorter {text rest : List Char} {literal : Literal}
    (read : literal? text = some (literal, rest)) : rest.length < text.length := by
  simp only [literal?, Option.bind_eq_bind, Option.bind_eq_some_iff, Option.pure_def] at read
  obtain ⟨⟨inside, after⟩, found, elements, _, same⟩ := read
  simp at same
  obtain ⟨-, rfl⟩ := same
  exact untilQuote?_shorter found

/-- Reading a token leaves a shorter text. -/
theorem next?_shorter {text rest : List Char} {token : Token}
    (read : next? text = some (token, rest)) : rest.length < text.length := by
  unfold next? at read
  split at read
  case h_10 =>
    obtain ⟨⟨literal, after⟩, found, same⟩ := Option.map_eq_some_iff.mp read
    have := literal?_shorter found
    grind
  case h_11 =>
    obtain ⟨⟨numeral, after⟩, found, same⟩ := Option.map_eq_some_iff.mp read
    have := numeral?_shorter found
    grind
  case h_12 =>
    obtain ⟨⟨numeral, after⟩, found, same⟩ := Option.map_eq_some_iff.mp read
    have := numeral?_shorter found
    grind
  all_goals grind

def isSpace (character : Char) : Bool :=
  character == ' ' || character == '\n' || character == '\t' || character == '\r'

end Json

end Retrieval
