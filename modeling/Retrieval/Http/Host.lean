import Retrieval.Http.Domain
import Retrieval.Number.Digits

/-!
# Hosts

A host is named by four bytes, by eight groups of sixteen bits, or by a word.
Bytes and words are written as domains, and the last label of the domain
decides: if it is a number, the whole has to be the four bytes, which may be
given as fewer and larger numbers, and in octal or hexadecimal digits.  Escapes
are read as what they stand for.
-/

namespace Retrieval

namespace Http

inductive Host where
  | bytes (number : Nat)
  | groups (values : List Nat)
  | word (name : String)
  deriving DecidableEq, Repr

namespace Host

/-! ### Escapes -/

/-- The bytes of a text in which percent signs escape bytes. -/
def unescaped : List Char → List UInt8
  | '%' :: high :: low :: rest =>
      match Digits.hexValue? high, Digits.hexValue? low with
      | some upper, some lower => UInt8.ofNat (16 * upper + lower) :: unescaped rest
      | _, _ => '%'.toUInt8 :: unescaped (high :: low :: rest)
  | character :: rest => (String.ofList [character]).toUTF8.toList ++ unescaped rest
  | [] => []

/-! ### Four bytes -/

/-- A number in octal digits behind a zero, in hexadecimal ones behind `0x`, or in decimal ones. -/
def number? : List Char → Option Nat
  | [] => none
  | '0' :: 'x' :: digits => Digits.numberIn? 16 digits
  | '0' :: digit :: digits => Digits.numberIn? 8 (digit :: digits)
  | digits => Digits.numberIn? 10 digits

/-- The parts between dots; a dot at the end closes the last part. -/
def parts (text : List Char) : List (List Char) :=
  let all := text.splitOnP (· == '.')
  if all.getLast? = some [] then all.dropLast else all

/-- The last part is a number, or looks like one. -/
def endsInNumber (text : List Char) : Bool :=
  (parts text).getLast?.any fun last =>
    (!last.isEmpty && last.all Char.isDigit) || (number? last).isSome

/-- The number of four bytes; the last part stands for all bytes that are left. -/
def bytes? (text : List Char) : Option Nat := do
  let numbers ← (parts text).mapM number?
  let last ← numbers.getLast?
  let leading := numbers.dropLast
  if leading.length ≤ 3 ∧ leading.all (· < 256) ∧ last < Nat.pow 256 (4 - leading.length) then
    let front := leading.foldl (fun whole byte => 256 * whole + byte) 0
    return front * Nat.pow 256 (4 - leading.length) + last
  else none

/-! ### Eight groups -/

def group? (digits : List Char) : Option Nat :=
  if digits.isEmpty ∨ 4 < digits.length then none else Digits.numberIn? 16 digits

/-- A byte in decimal digits, without zeros in front. -/
def byte? (digits : List Char) : Option Nat := do
  let number ← Digits.numberIn? 10 digits
  if digits.isEmpty ∨ 255 < number ∨ Nat.toDigits 10 number ≠ digits then none else return number

def byteGroups? (text : List Char) : Option (List Nat) := do
  match ← (text.splitOnP (· == '.')).mapM byte? with
  | [first, second, third, fourth] => return [256 * first + second, 256 * third + fourth]
  | _ => none

/-- The groups between colons; the last two may be given as four bytes. -/
def groupsOf? : List (List Char) → Option (List Nat)
  | [] => some []
  | [last] => if last.contains '.' then byteGroups? last else (group? last).map fun value => [value]
  | first :: rest => do return (← group? first) :: (← groupsOf? rest)

/-- What stands before and after the first two colons in a row. -/
def cutAtGap? : List Char → Option (List Char × List Char)
  | ':' :: ':' :: rest => some ([], rest)
  | character :: rest => (cutAtGap? rest).map fun (before, after) => (character :: before, after)
  | [] => none

def side? (text : List Char) : Option (List Nat) :=
  if text.isEmpty then some [] else groupsOf? (text.splitOnP (· == ':'))

/-- Eight groups; two colons in a row stand for the groups that are missing. -/
def groups? (text : List Char) : Option (List Nat) :=
  match cutAtGap? text with
  | none => (groupsOf? (text.splitOnP (· == ':'))).filter (·.length == 8)
  | some (before, after) => do
      let left ← side? before
      let right ← side? after
      if before.contains '.' ∨ 7 < left.length + right.length then none
      else return left ++ List.replicate (8 - left.length - right.length) 0 ++ right

/-! ### Hosts -/

def ofDomain? (domain : Domain) : Option Host :=
  if domain.text.isEmpty then none
  else if endsInNumber domain.text then (bytes? domain.text).map .bytes
  else some (.word (String.ofList domain.text))

/-- The host that a text names; groups stand between brackets. -/
def read? (text : List Char) : Option Host :=
  match text with
  | '[' :: rest =>
      if rest.getLast? = some ']' then (groups? rest.dropLast).map .groups else none
  | text => do
      let unescaped ← String.fromUTF8? ⟨(unescaped text).toArray⟩
      ofDomain? (← Domain.read? unescaped.toList)

/-- A host that can be reached without asking for its number. -/
def isKnown : Host → Bool
  | .word name => name == "localhost"
  | _ => true

/-! ### Written hosts -/

def bytesText (number : Nat) : String :=
  String.intercalate "." ([3, 2, 1, 0].map fun place => toString (number / Nat.pow 256 place % 256))

/-- Where the longest run of groups that are zero begins, and its length; of several the first. -/
def zeroRun (values : List Nat) : Nat × Nat :=
  let runs := (List.range values.length).map fun place =>
    (place, ((values.drop place).takeWhile (· == 0)).length)
  runs.foldl (fun best run => if best.2 < run.2 then run else best) (0, 0)

/-- Groups with colons between them; two colons stand for a run of groups that are zero. -/
def groupsText (values : List Nat) : String :=
  let joined (values : List Nat) : String :=
    String.intercalate ":" (values.map fun value => String.ofList (Nat.toDigits 16 value))
  match zeroRun values with
  | (place, count) =>
      if count < 2 then joined values
      else joined (values.take place) ++ "::" ++ joined (values.drop (place + count))

def text : Host → String
  | .bytes number => bytesText number
  | .groups values => "[" ++ groupsText values ++ "]"
  | .word name => name

/-- A character in the name of a host, as addresses of every scheme have it. -/
def isLetter (character : Char) : Bool :=
  character.isAlphanum ||
    ['-', '.', '_', '~', '!', '$', '&', '\x27', '(', ')', '*', '+', ',', ';', '='].contains
      character

/-- A host that an address can be asked for; letters of other scripts are spelled there. -/
def isAskable : Host → Bool
  | .word name => name.toList.all fun character => !Text.isPlain character || isLetter character
  | _ => true

end Host

end Http

end Retrieval
