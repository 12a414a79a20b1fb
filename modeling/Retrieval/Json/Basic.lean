import Retrieval.Number.Narrow
import Retrieval.Number.Shortest

/-!
# JSON values

A value keeps its numbers as they are written and its strings as the text they
denote.  A string literal with half of a surrogate pair in it denotes no text;
it is a value all the same, and only a reader that wants the text refuses it.
-/

namespace Retrieval

/-- A number as it is written: a sign, digits, and perhaps a fraction and an exponent. -/
structure Numeral where
  negative : Bool
  whole : List Char
  fraction : Option (List Char)
  exponent : Option (Bool × List Char)
  deriving DecidableEq, Repr

/-- The text of a string literal, if it denotes one. -/
abbrev Literal := Option String

inductive Json where
  | null
  | boolean (value : Bool)
  | number (numeral : Numeral)
  | string (literal : Literal)
  | array (items : List Json)
  | object (fields : List (Literal × Json))
  deriving Repr, Inhabited

namespace Json

def ofText (text : String) : Json := .string (some text)

/-- An object with the given names in the given order. -/
def record (fields : List (String × Json)) : Json :=
  .object (fields.map fun field => (some field.1, field.2))

end Json

end Retrieval
