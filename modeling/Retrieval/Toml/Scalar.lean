import Retrieval.Json.Number
import Retrieval.Json.Token
import Retrieval.Toml.Basic

/-!
# Numbers, truth values, dates and times in TOML text

Such a value is a run of letters, digits, signs, dots, colons and underscores,
and is understood as a whole.
-/

namespace Retrieval

namespace Toml

/-- A character of a value that is neither a string nor a container. -/
def isScalar (character : Char) : Bool :=
  character.isAlphanum || character == '_' || character == '-' || character == '+' ||
    character == '.' || character == ':'

/-- Digits with single underscores between them; the underscores are dropped. -/
def grouped? (isDigit : Char → Bool) : List Char → Option (List Char)
  | [] => none
  | [digit] => if isDigit digit then some [digit] else none
  | digit :: '_' :: rest =>
      if isDigit digit then (grouped? isDigit rest).map (digit :: ·) else none
  | digit :: rest => if isDigit digit then (grouped? isDigit rest).map (digit :: ·) else none

/-- A sign taken off the front; the flag tells a minus sign. -/
def signed : List Char → Bool × List Char
  | '-' :: rest => (true, rest)
  | '+' :: rest => (false, rest)
  | rest => (false, rest)

/-- Decimal digits without a zero in front of another digit. -/
def whole? (text : List Char) : Option (List Char) := do
  let digits ← grouped? Char.isDigit text
  if digits.head? = some '0' ∧ 1 < digits.length then none else some digits

def bounded? (value : Int) : Option Int :=
  let reach : Int := (UInt64.size / 2 : Nat)
  if -reach ≤ value ∧ value < reach then some value else none

def digitsValue? (base : Nat) (text : List Char) : Option Int := do
  let digits ← grouped? (fun digit => (Digits.valueIn? base digit).isSome) text
  bounded? (← Digits.numberIn? base digits)

def integer? : List Char → Option Int
  | '0' :: 'x' :: rest => digitsValue? 16 rest
  | '0' :: 'o' :: rest => digitsValue? 8 rest
  | '0' :: 'b' :: rest => digitsValue? 2 rest
  | start => do
      let (negative, rest) := signed start
      let magnitude := Digits.number (← whole? rest)
      bounded? (if negative then -(magnitude : Int) else magnitude)

/-- The digits behind an exponent letter, as a number. -/
def exponentOf? (text : List Char) : Option Int := do
  let (negative, rest) := signed text
  let magnitude := Digits.number (← grouped? Char.isDigit rest)
  return if negative then -(magnitude : Int) else magnitude

/-- The number nearest to digits times a power of ten. -/
def nearest (digits : List Char) (exponent : Int) : Float :=
  let mantissa := Digits.number digits
  let length : Int := digits.length
  let reach : Int := length + 400
  if mantissa = 0 then 0.0
  else if exponent < -reach then 0.0
  else if exponent < 0 then Float.ofScientific mantissa true (-exponent).toNat
  else Float.ofScientific mantissa false (min exponent reach).toNat

def isExponentMark (character : Char) : Bool := character == 'e' || character == 'E'

/-- A number with a fraction or an exponent; the sign has been read. -/
def magnitude? (text : List Char) : Option Float := do
  let mantissa := text.takeWhile fun character => !isExponentMark character
  let exponent ← match text.dropWhile fun character => !isExponentMark character with
    | [] => some none
    | _ :: digits => (exponentOf? digits).map some
  let digits ← whole? (mantissa.takeWhile (· != '.'))
  let fraction ← match mantissa.dropWhile (· != '.') with
    | [] => some none
    | _ :: decimals => (grouped? Char.isDigit decimals).map some
  if fraction.isNone && exponent.isNone then none
  else
    let decimals := fraction.getD []
    return nearest (digits ++ decimals) (exponent.getD 0 - (decimals.length : Nat))

/-- A floating-point number; one that is written with digits is not infinite above. -/
def real? (text : List Char) : Option Float :=
  let (negative, rest) := signed text
  if rest = ['i', 'n', 'f'] then some (if negative then -(1.0 / 0.0) else 1.0 / 0.0)
  else if rest = ['n', 'a', 'n'] then some (0.0 / 0.0)
  else do
    let magnitude ← magnitude? rest
    if negative then return -magnitude
    else if magnitude.isInf then none
    else return magnitude

/-- A number of exactly so many digits, up to a limit. -/
def fixed? (width least most : Nat) (text : List Char) : Option Nat :=
  let number := Digits.number text
  if text.length = width && text.all Char.isDigit && least ≤ number && number ≤ most then
    some number
  else none

def isLeapYear (year : Nat) : Bool := year % 4 == 0 && (year % 100 != 0 || year % 400 == 0)

def monthLength (year month : Nat) : Nat :=
  if month = 2 then (if isLeapYear year then 29 else 28)
  else if month = 4 ∨ month = 6 ∨ month = 9 ∨ month = 11 then 30
  else 31

def isDate (text : List Char) : Bool :=
  match text.splitOnP (· == '-') with
  | [year, month, day] =>
      match fixed? 4 0 9999 year, fixed? 2 1 12 month with
      | some year, some month => (fixed? 2 1 (monthLength year month) day).isSome
      | _, _ => false
  | _ => false

/-- Hours, minutes and seconds, perhaps with decimals. -/
def isTime (text : List Char) : Bool :=
  match text.splitOnP (· == ':') with
  | [hour, minute, second] =>
      let decimals := second.drop 3
      (fixed? 2 0 23 hour).isSome && (fixed? 2 0 59 minute).isSome &&
        (fixed? 2 0 60 (second.take 2)).isSome &&
        (second.length == 2 ||
          (second[2]? == some '.' && decimals != [] && decimals.all Char.isDigit))
  | _ => false

def isOffset (text : List Char) : Bool :=
  match text with
  | ['Z'] => true
  | ['z'] => true
  | sign :: rest =>
      (sign == '+' || sign == '-') &&
        match rest.splitOnP (· == ':') with
        | [hour, minute] => (fixed? 2 0 23 hour).isSome && (fixed? 2 0 59 minute).isSome
        | _ => false
  | [] => false

/-- A character that ends a time and starts an offset. -/
def startsOffset (character : Char) : Bool :=
  character == 'Z' || character == 'z' || character == '+' || character == '-'

def isZonedTime (text : List Char) : Bool :=
  let time := text.takeWhile fun character => !startsOffset character
  let offset := text.dropWhile fun character => !startsOffset character
  isTime time && (offset == [] || isOffset offset)

def isMoment (text : List Char) : Bool :=
  isDate text || isTime text ||
    (isDate (text.take 10) && (text[10]? == some 'T' || text[10]? == some 't') &&
      isZonedTime (text.drop 11))

def scalarOf? (text : List Char) : Option Toml :=
  if text = ['t', 'r', 'u', 'e'] then some (.boolean true)
  else if text = ['f', 'a', 'l', 's', 'e'] then some (.boolean false)
  else if isMoment text then some (.moment (String.ofList text))
  else
    match integer? text with
    | some value => some (.integer value)
    | none => (real? text).map .real

/-- A value that is neither a string nor a container; a space may join a date and a time. -/
def scalar? (text : List Char) : Option (Toml × List Char) := do
  let run := text.takeWhile isScalar
  let rest := text.dropWhile isScalar
  let time := (rest.drop 1).takeWhile isScalar
  if isDate run && rest.head? == some ' ' && isZonedTime time then
    return (.moment (String.ofList (run ++ ' ' :: time)), rest.drop (1 + time.length))
  else return (← scalarOf? run, rest)

end Toml

end Retrieval
