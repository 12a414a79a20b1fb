import Retrieval.Text.Lossy
import Retrieval.Tokenizer

/-!
# Vocabularies

The exact tokenizer reads and writes tokens of a vocabulary, which comes from
outside.  A window that ends inside a character has no text of its own there, so
a mark stands for the bytes of that character.  Without a vocabulary the word
tokenizer does the work.
-/

namespace Retrieval

structure Vocabulary where
  encode : String → List TokenId
  /-- The text of some tokens, or what is wrong with them. -/
  decode : List TokenId → Except String String
  /-- The bytes of tokens that are all known. -/
  bytes : List TokenId → List UInt8

namespace Vocabulary

/-- How the message of a token starts that is not known. -/
def strangerMessage : String := "Invalid token"

/-- A known token may still have no text by itself. -/
def knows (vocabulary : Vocabulary) (token : TokenId) : Bool :=
  match vocabulary.decode [token] with
  | .ok _ => true
  | .error message => !strangerMessage.toList.isPrefixOf message.toList

/-- The text of a window, with marks for characters that it does not hold whole. -/
def textOf (vocabulary : Vocabulary) (tokens : List TokenId) : Except Failure String :=
  match vocabulary.decode tokens with
  | .ok text => .ok text
  | .error _ =>
      match tokens.find? fun token => !vocabulary.knows token with
      | some stranger => .error (.tokenizer s!"unknown token id {stranger}")
      | none => .ok (Text.ofBytes (vocabulary.bytes tokens))

/-- What a program has of the vocabulary of its exact tokenizer. -/
inductive Supply where
  /-- It is built without one. -/
  | absent
  /-- It comes with one that cannot be loaded. -/
  | broken (message : String)
  | loaded (vocabulary : Vocabulary)

end Vocabulary

namespace Tokenizer

/-- Each window by itself; where it stands in the document does not matter. -/
def exact (vocabulary : Vocabulary) : Tokenizer where
  kind := .tiktoken
  encode := vocabulary.encode
  decode := fun _ windows => windows.mapM fun entry => vocabulary.textOf entry.2

open Vocabulary (Supply)

/-- The tokenizer of a kind, if the supply has it. -/
def supplied : Supply → Kind → Except Failure (Option Tokenizer)
  | .loaded vocabulary, .tiktoken => .ok (some (exact vocabulary))
  | .broken message, .tiktoken => .error (.tokenizer s!"failed to load o200k_base: {message}")
  | _, kind => .ok (ofKind? kind)

/-- The tokenizer of a name; a name that is not known has none. -/
def suppliedByName (supply : Supply) (name : String) : Except Failure (Option Tokenizer) :=
  match Kind.ofName name with
  | .ok kind => supplied supply kind
  | .error _ => .ok none

/-- The tokenizer of a name, or the word tokenizer for a name that has none. -/
def suppliedOrSimple (supply : Supply) (name : String) : Except Failure Tokenizer :=
  (suppliedByName supply name).map fun found => found.getD simple

end Tokenizer

end Retrieval
