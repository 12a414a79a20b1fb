import Retrieval.Http.Field
import Retrieval.Number.Digits
import Retrieval.Text.Bytes

/-!
# Bodies in transfer

The header fields of a reply tell how its body is framed: it is chunked if that
is the last transfer encoding, it goes on until the connection closes if there
is another one, and otherwise it has the length that the fields give.  A body
that breaks off is no body.
-/

namespace Retrieval

namespace Http

inductive Framing where
  | sized (length : Nat)
  | chunked
  | untilClose
  deriving DecidableEq, Repr

/-! ### Chunks -/

def closingChunk : String := "0\r\n\r\n"

/-- A body in one chunk: its length in bytes, the body, and the end. -/
def chunk (body : String) : String :=
  if body = "" then closingChunk
  else
    String.ofList (Nat.toDigits 16 body.utf8ByteSize) ++ "\r\n" ++ body ++ "\r\n" ++ closingChunk

/-- What stands before and after the first line end. -/
def cutLine? : List Char → Option (List Char × List Char)
  | '\r' :: '\n' :: rest => some ([], rest)
  | character :: rest =>
      if character == '\r' || character == '\n' then none
      else (cutLine? rest).map fun (before, after) => (character :: before, after)
  | [] => none

/-- What the first line of a chunk gives: its length, and how many bytes follow a semicolon. -/
def chunkLine? (line : List Char) : Option (Nat × Nat) := do
  let isDigit (character : Char) : Bool := (Digits.hexValue? character).isSome
  let digits := line.takeWhile isDigit
  let length ← Digits.numberIn? 16 digits
  if digits.isEmpty then none
  else
    match (line.dropWhile isDigit).dropWhile Field.isBlank with
    | [] => return (length, 0)
    | ';' :: extension => return (length, (String.ofList extension).utf8ByteSize)
    | _ => none

/-- The bytes behind semicolons stay below this number in all chunks of a body together, and so
do the bytes of a trailer. -/
def extraLimit : Nat := 16384

/-- The lines of a trailer as they are written, up to the empty one, and how many they are.
A line ends at its first carriage return. -/
def trailer? (text : List Char) : Option (List Char × Nat) :=
  let line := text.takeWhile (· != '\r')
  match text.dropWhile (· != '\r') with
  | '\r' :: '\n' :: rest =>
      if line.isEmpty then some (['\r', '\n'], 0)
      else if rest.length < text.length then
        (trailer? rest).map fun (lines, count) => (line ++ '\r' :: '\n' :: lines, count + 1)
      else none
  | _ => none
termination_by text.length

/-- A trailer holds header fields or nothing, and no more fields than lines. -/
def closes (text : List Char) : Bool :=
  match trailer? text with
  | none => false
  | some (_, 0) => true
  | some (written, count) =>
      decide (count < Field.limit) && decide ((String.ofList written).utf8ByteSize < extraLimit) &&
        (Field.lines? [] written).any fun (lines, _) =>
          decide (lines.length ≤ count) && lines.all fun line => (Field.ofLine? line).isSome

/-- The body that chunks carry, with a number of bytes behind semicolons before them. -/
def dechunk? (extra : Nat) (text : List Char) : Option (List Char) := do
  let (line, rest) ← cutLine? text
  let (length, more) ← chunkLine? line
  let extra := extra + more
  if extraLimit ≤ extra then none
  else if length = 0 then if closes rest then return [] else none
  else
    match ← Text.cutBytes? length rest with
    | (inside, '\r' :: '\n' :: after) =>
        if after.length < text.length then return inside ++ (← dechunk? extra after) else none
    | _ => none
termination_by text.length

/-! ### Framing -/

def lengthLimit : Nat := UInt64.size - 3

/-- The length that fields give, if all of them give the same. -/
def lengthOf? (values : List String) : Option Nat := do
  let members := (← values.mapM Field.visible?).flatMap Field.members
  let lengths ← members.mapM fun digits =>
    if digits.isEmpty then none else Digits.numberIn? 10 digits
  let length ← lengths.head?
  if lengths.all (· == length) && length ≤ lengthLimit then return length else none

/-- The last of the transfer encodings is the chunked one. -/
def endsChunked (values : List String) : Bool :=
  ((values.getLast?.bind Field.visible?).bind fun value => (Field.members value).getLast?).any
    fun last => (String.ofList last).toLower == "chunked"

/-- The framing that header fields give; only newer messages have transfer encodings. -/
def Framing.of? (isNew : Bool) (fields : List Field) : Option Framing :=
  match Field.valuesOf "transfer-encoding" fields, Field.valuesOf "content-length" fields with
  | [], [] => some .untilClose
  | [], lengths => (lengthOf? lengths).map .sized
  | encodings, _ =>
      if !isNew then none else if endsChunked encodings then some .chunked else some .untilClose

/-- The first bytes of a text; the mark for the unknown stands for half a character. -/
def firstBytes (count : Nat) : List Char → List Char
  | [] => []
  | character :: rest =>
      if count = 0 then []
      else if count < character.utf8Size then ['\uFFFD']
      else character :: firstBytes (count - character.utf8Size) rest

/-- The body that the receiver sees; one that breaks off is empty. -/
def Framing.body (framing : Framing) (text : List Char) : String :=
  match framing with
  | .untilClose => String.ofList text
  | .chunked => String.ofList ((dechunk? 0 text).getD [])
  | .sized length =>
      if (String.ofList text).utf8ByteSize < length then ""
      else String.ofList (firstBytes length text)

end Http

end Retrieval
