/-!
# Bytes that may be no text

Bytes are read one after the other, as the characters that they encode.  Where
they encode none, one mark stands for the bytes that began a character and did
not finish it, or for the single byte that begins none.
-/

namespace Retrieval

namespace Text

/-- The mark that stands for bytes that encode no character. -/
def mark : Char := '\uFFFD'

/-- A character of which some bytes have been read. -/
structure Begun where
  bits : Nat
  /-- The bounds of the next byte. -/
  least : Nat
  greatest : Nat
  /-- How many bytes come after the next one. -/
  later : Nat
  deriving DecidableEq, Repr

/-- What is read from one byte: whole characters and marks, and what was begun. -/
abbrev Reading := List Char × Option Begun

/-- The character that a first byte begins, unless the byte is one by itself. -/
def Begun.ofFirst? (byte : Nat) : Option Begun :=
  if 0xC2 ≤ byte ∧ byte ≤ 0xDF then some ⟨byte - 0xC0, 0x80, 0xBF, 0⟩
  else if byte = 0xE0 then some ⟨0, 0xA0, 0xBF, 1⟩
  else if byte = 0xED then some ⟨0xD, 0x80, 0x9F, 1⟩
  else if 0xE1 ≤ byte ∧ byte ≤ 0xEF then some ⟨byte - 0xE0, 0x80, 0xBF, 1⟩
  else if byte = 0xF0 then some ⟨0, 0x90, 0xBF, 2⟩
  else if 0xF1 ≤ byte ∧ byte ≤ 0xF3 then some ⟨byte - 0xF0, 0x80, 0xBF, 2⟩
  else if byte = 0xF4 then some ⟨4, 0x80, 0x8F, 2⟩
  else none

def readFirst (byte : Nat) : Reading :=
  if byte < 0x80 then ([Char.ofNat byte], none)
  else
    match Begun.ofFirst? byte with
    | some begun => ([], some begun)
    | none => ([mark], none)

/-- A byte that does not go on with the character is a first byte behind a mark. -/
def readNext (begun : Begun) (byte : Nat) : Reading :=
  if begun.least ≤ byte ∧ byte ≤ begun.greatest then
    let bits := begun.bits * 0x40 + (byte - 0x80)
    match begun.later with
    | 0 => ([Char.ofNat bits], none)
    | later + 1 => ([], some ⟨bits, 0x80, 0xBF, later⟩)
  else
    let (characters, next) := readFirst byte
    (mark :: characters, next)

/-- The characters and marks of bytes, behind what was begun. -/
def readLossy : Option Begun → List UInt8 → List Char
  | none, [] => []
  | some _, [] => [mark]
  | begun, byte :: rest =>
      let (characters, next) := (begun.elim readFirst readNext) byte.toNat
      characters ++ readLossy next rest

/-- The text of some bytes, with marks where they are none. -/
def ofBytes (bytes : List UInt8) : String := String.ofList (readLossy none bytes)

end Text

end Retrieval
