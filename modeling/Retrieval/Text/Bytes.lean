/-!
# Places in bytes

Where something stands in a text, counted in the bytes that encode it.  A text
can be cut between two characters only, so not every place is one to cut at.
-/

namespace Retrieval

namespace Text

def isPlain (character : Char) : Bool := character.toNat < 0x80

/-- The characters that make up a number of bytes, and those after them. -/
def cutBytes? (count : Nat) : List Char → Option (List Char × List Char)
  | [] => if count = 0 then some ([], []) else none
  | character :: rest =>
      if count = 0 then some ([], character :: rest)
      else if count < character.utf8Size then none
      else
        (cutBytes? (count - character.utf8Size) rest).map fun (before, after) =>
          (character :: before, after)

def behind? (first : Nat) (text : List Char) : Option (List Char) :=
  (cutBytes? first text).map fun (_, after) => after

def between? (first stop : Nat) (text : List Char) : Option (List Char) := do
  let (inside, _) ← cutBytes? (stop - first) (← behind? first text)
  return inside

/-- The characters of a text, each with the place where it begins. -/
def placed (place : Nat) : List Char → List (Char × Nat)
  | [] => []
  | character :: rest => (character, place) :: placed (place + character.utf8Size) rest

end Text

end Retrieval
