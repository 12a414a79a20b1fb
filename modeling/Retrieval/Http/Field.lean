import Retrieval.Text.Line

/-!
# Header fields

A header field is a name and a value.  Names are tokens; values hold any
characters but controls and have no blanks at their ends.  Fields stand on lines
of their own, and an empty line comes after the last one.
-/

namespace Retrieval

namespace Http

abbrev Field := String × String

namespace Field

/-- A character that stands in a value: none of the controls but the tab. -/
def isLetter (character : Char) : Bool :=
  character == '\t' || (0x20 ≤ character.toNat && character.toNat != 0x7F)

def isVisible (character : Char) : Bool :=
  character == '\t' || (0x20 ≤ character.toNat && character.toNat < 0x7F)

def isNameLetter (character : Char) : Bool :=
  character.isAlphanum ||
    ['!', '#', '$', '%', '&', '\x27', '*', '+', '-', '.', '^', '_', '\x60', '|', '~'].contains
      character

def isBlank (character : Char) : Bool := character == ' ' || character == '\t'

def trim (text : List Char) : List Char :=
  ((text.dropWhile isBlank).reverse.dropWhile isBlank).reverse

/-- The field that a line holds: a name, a colon right behind it, and a value. -/
def ofLine? (line : List Char) : Option Field :=
  let name := line.takeWhile isNameLetter
  match line.dropWhile isNameLetter with
  | ':' :: rest =>
      let value := trim rest
      if !name.isEmpty && value.all isLetter then some (String.ofList name, String.ofList value)
      else none
  | _ => none

/-- The lines up to an empty one, and what comes after it; a line has been begun. -/
def lines? (begun : List Char) : List Char → Option (List (List Char) × List Char)
  | [] => none
  | '\n' :: rest =>
      let line := Text.closedLine begun.reverse
      if line.isEmpty then some ([], rest)
      else (lines? [] rest).map fun (lines, after) => (line :: lines, after)
  | character :: rest => lines? (character :: begun) rest

def line (field : Field) : String := field.1 ++ ": " ++ field.2 ++ "\r\n"

def limit : Nat := 100

/-- The values of the fields of a name, which is given in small letters. -/
def valuesOf (name : String) (fields : List Field) : List String :=
  (fields.filter fun field => field.1.toLower == name).map (·.2)

def visible? (value : String) : Option String :=
  if value.toList.all isVisible then some value else none

/-- The members of a list in a value, with commas between them. -/
def members (value : String) : List (List Char) :=
  (value.toList.splitOnP (· == ',')).map trim

end Field

end Http

end Retrieval
