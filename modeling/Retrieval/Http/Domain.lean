import Retrieval.Http.Domain.Direction
import Retrieval.Http.Domain.Joining
import Retrieval.Http.Domain.Letters
import Retrieval.Http.Domain.Punycode
import Retrieval.Text.Bytes

/-!
# Domains

A domain is read from a text by putting the letters in it that its characters
stand for, in their composed form.  It has labels with dots between them.  A
label with letters of other scripts may be spelled in plain letters behind a
sign, and counts as what it spells out.
-/

namespace Retrieval

namespace Http

/-- The labels of a domain, in their own letters. -/
structure Domain where
  labels : List (List Char)
  deriving DecidableEq, Repr

namespace Domain

/-- A character that may not stand in a domain, nor in the name of a host at all. -/
def isStop (character : Char) : Bool :=
  character.toNat ≤ 0x20 || character.toNat == 0x7F ||
    ['#', '%', '/', ':', '<', '>', '?', '@', '[', '\\', ']', '^', '|'].contains character

/-! ### Labels -/

/-- What a label begins with if it is spelled in plain letters. -/
def spellingSign : List Char := "xn--".toList

/-- The greatest length of a label that is spelled, behind its sign. -/
def spelledLimit : Nat := 2000

/-- The greatest length of a label that has other letters than plain ones. -/
def lettersLimit : Nat := 1000

/-- The label that is spelled behind the sign.  It has to be a label as it would be read, and
to need its spelling. -/
def spelledLabel? (text : List Char) : Option (List Char) := do
  let label ← Punycode.decode? text
  let isNeeded := !text.isEmpty && text.getLast? != some '-' && !label.all Text.isPlain &&
    !spellingSign.isPrefixOf label
  if text.all Text.isPlain && text.length ≤ spelledLimit && isNeeded then
    if image label = some label ∧ composed label = label then return label else none
  else none

def label? (text : List Char) : Option (List Char) := do
  let label ←
    if spellingSign.isPrefixOf text then spelledLabel? (text.drop spellingSign.length)
    else some text
  let isShort := label.all Text.isPlain || label.length ≤ lettersLimit
  if isShort && !label.head?.any mark.contains && joinersFit [] label then return label else none

/-! ### Domains -/

/-- All labels have one direction each, if something in them runs to the left. -/
def directionsFit (labels : List (List Char)) : Bool :=
  !labels.flatten.any (fun character => (Direction.of character).runsLeft) ||
    labels.all Direction.fitsLabel

def read? (text : List Char) : Option Domain := do
  let letters := composed (← image text)
  if letters.any isStop then none
  else
    let labels ← (letters.splitOnP (· == '.')).mapM label?
    if directionsFit labels then return ⟨labels⟩ else none

def text (domain : Domain) : List Char := ['.'].intercalate domain.labels

end Domain

end Http

end Retrieval
