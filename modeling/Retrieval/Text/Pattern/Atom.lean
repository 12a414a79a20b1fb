import Retrieval.Number.Digits
import Retrieval.Text.Bytes
import Retrieval.Text.Pattern.Mode

/-!
# Smallest parts of patterns

A letter, a kind of letters, a boundary of words, an edge of a line or of the
text, or any letter at all.  Patterns know the case, the kinds and the words of
plain letters only, so where letters of all scripts count, nothing may depend on
them.  And where plain letters alone count, nothing may stand for half a letter
of another script.
-/

namespace Retrieval

namespace Pattern

inductive Atom where
  /-- A letter; it may be given by its number in two digits. -/
  | letter (character : Char) (isNumbered : Bool)
  /-- Digits, blanks or letters of words, or all but those. -/
  | kind (isOpposite : Bool)
  | boundary
  | edge
  | any
  deriving DecidableEq, Repr

namespace Atom

def fits (mode : Mode) : Atom → Bool
  | .letter character isNumbered =>
      if mode.coversScripts then !mode.foldsCase else Text.isPlain character || !isNumbered
  | .kind isOpposite => !mode.coversScripts && !isOpposite
  | .boundary => !mode.coversScripts
  | .edge => true
  | .any => mode.coversScripts

def fitsSet (mode : Mode) : Atom → Bool
  | .letter character _ =>
      if mode.coversScripts then !mode.foldsCase else Text.isPlain character
  | .kind isOpposite => !mode.coversScripts && !isOpposite
  | _ => false

/-! ### Escapes -/

/-- A number of hexadecimal digits at the front of a text. -/
def digits? (mode : Mode) : Nat → List Char → Option (List Char × List Char)
  | 0, text => some ([], text)
  | count + 1, digit :: rest =>
      if (Digits.hexValue? digit).isSome then
        (digits? mode count (mode.skip rest)).map fun (digits, after) => (digit :: digits, after)
      else none
  | _, [] => none

/-- The letter whose number is written in some digits. -/
def numbered? (mode : Mode) (count : Nat) (text : List Char) : Option (Atom × List Char) := do
  let (digits, rest) ← digits? mode count (mode.skip text)
  let code ← Digits.numberIn? 16 digits
  if code.isValidChar then return (.letter (Char.ofNat code) (count == 2), rest) else none

/-- Letters with a meaning of their own behind a backslash. -/
def named : List (Char × Atom) :=
  [('a', .letter '\x07' false), ('f', .letter '\x0c' false), ('t', .letter '\t' false),
    ('n', .letter '\n' false), ('r', .letter '\r' false), ('v', .letter '\x0b' false),
    ('A', .edge), ('z', .edge), ('b', .boundary), ('B', .boundary), ('<', .boundary),
    ('>', .boundary), ('d', .kind false), ('s', .kind false), ('w', .kind false),
    ('D', .kind true), ('S', .kind true), ('W', .kind true)]

def escaped? (mode : Mode) : List Char → Option (Atom × List Char)
  | [] => none
  | 'x' :: rest => numbered? mode 2 rest
  | 'u' :: rest => numbered? mode 4 rest
  | 'U' :: rest => numbered? mode 8 rest
  | character :: rest =>
      match named.lookup character with
      | some atom => some (atom, rest)
      | none =>
          if Text.isPlain character && !character.isAlphanum then
            some (.letter character false, rest)
          else none

/-- A letter, or what a backslash makes of the text behind it. -/
def letter? (mode : Mode) : List Char → Option (Atom × List Char)
  | [] => none
  | '\\' :: rest => escaped? mode rest
  | character :: rest => some (.letter character false, rest)

/-- The smallest part at the front of a pattern. -/
def read? (mode : Mode) : List Char → Option (Atom × List Char)
  | '.' :: rest => some (.any, rest)
  | '^' :: rest => some (.edge, rest)
  | '$' :: rest => some (.edge, rest)
  | text => letter? mode text

end Atom

end Pattern

end Retrieval
