import Retrieval.Text.Split

/-!
# Blank characters

The characters with the Unicode property White_Space, and the operations on a
text that look at nothing else: its words, the text without blanks at its ends,
and whether it is blank throughout.
-/

namespace Retrieval

namespace Text

/-- The code points with the property White_Space. -/
def isBlank (character : Char) : Bool :=
  let code := character.toNat
  (0x09 ≤ code && code ≤ 0x0D) || code == 0x20 || code == 0x85 || code == 0xA0 ||
    code == 0x1680 || (0x2000 ≤ code && code ≤ 0x200A) || code == 0x2028 ||
    code == 0x2029 || code == 0x202F || code == 0x205F || code == 0x3000

/-- The words of a text, blanks of every kind between them. -/
def words (text : String) : List String :=
  (Split.runs isBlank text.toList).map String.ofList

/-- The text without the blanks at its two ends. -/
def trim (text : String) : String :=
  String.ofList ((text.toList.dropWhile isBlank).reverse.dropWhile isBlank).reverse

def allBlank (text : String) : Bool := text.toList.all isBlank

end Text

end Retrieval
