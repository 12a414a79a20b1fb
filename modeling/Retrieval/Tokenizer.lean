import Retrieval.Text.Split
import Retrieval.Window

/-!
# Tokenizers

A tokenizer turns a text into token numbers and gives each window of them its
text again.  An exact one decodes the tokens of the window; the word tokenizer
counts words and takes them from the document, one blank between them.
-/

namespace Retrieval

abbrev TokenId := Nat

namespace Tokenizer

/-- How faithfully the text of a window comes back. -/
inductive Kind where
  | simple
  | tiktoken
  deriving DecidableEq, Repr

namespace Kind

def name : Kind → String
  | .simple => "simple"
  | .tiktoken => "tiktoken"

def isExact : Kind → Bool
  | .simple => false
  | .tiktoken => true

/-- Letter case does not matter. -/
def ofName (text : String) : Except Failure Kind :=
  match text.toLower with
  | "simple" => .ok .simple
  | "tiktoken" => .ok .tiktoken
  | other => .error (.configuration (.unknownTokenizer other))

end Kind

end Tokenizer

structure Tokenizer where
  kind : Tokenizer.Kind
  encode : String → List TokenId
  /-- The texts of the windows of a document, each given with its tokens. -/
  decode : String → List (Window × List TokenId) → Except Failure (List String)

namespace Tokenizer

/-- What stands between two words of the word tokenizer. -/
def separatesWords (character : Char) : Bool :=
  character == ' ' || character == '\n' || character == '\t'

def plainWords (text : String) : List String :=
  (Split.runs separatesWords text.toList).map String.ofList

/-- The words of a window, one blank between them. -/
def windowText (words : List String) (window : Window) : String :=
  String.intercalate " " (window.slice words)

/-- Every word is token 1. -/
def encodeWords (text : String) : List TokenId := (plainWords text).map fun _ => 1

/-- Token numbers that all agree tell no more than how many there are. -/
def decodeCounts (windows : List (List TokenId)) : List String :=
  windows.map fun tokens => toString tokens.length

/-- The texts of windows given by three lists; each window needs a start and a length. -/
def decodeAligned? (document : String) (windows : List (List TokenId))
    (starts lengths : List Nat) : Option (List String) :=
  if windows.length ≤ starts.length ∧ windows.length ≤ lengths.length then
    let words := plainWords document
    some ((windows.zip (starts.zip lengths)).map fun entry =>
      windowText words ⟨entry.2.1, entry.2.2⟩)
  else none

/-- One token for each word. -/
def simple : Tokenizer where
  kind := .simple
  encode := encodeWords
  decode := fun document windows =>
    let words := plainWords document
    .ok (windows.map fun entry => windowText words entry.1)

def ofKind? : Kind → Option Tokenizer
  | .simple => some simple
  | .tiktoken => none

/-- The tokenizer of a name; none for a name without one. -/
def named? (name : String) : Option Tokenizer :=
  match Kind.ofName name with
  | .ok kind => ofKind? kind
  | .error _ => none

/-- The tokenizer of a name, or the word tokenizer for a name without one. -/
def namedOrSimple (name : String) : Tokenizer := (named? name).getD simple

end Tokenizer

end Retrieval
