import Retrieval.Json.Token

/-!
# Strings, keys and space in TOML text

A string stands between single or double quotation marks, and over several
lines between three of them; only double ones know escapes.  A key is a string
or a run of letters, digits, underscores and hyphens, and dots join keys.
-/

namespace Retrieval

namespace Toml

/-- Reading takes something from the front of a text and leaves the rest. -/
abbrev Reader (α : Type) := List Char → Option (α × List Char)

def isSpace (character : Char) : Bool := character == ' ' || character == '\t'

def skipSpace (text : List Char) : List Char := text.dropWhile isSpace

def isVisible (character : Char) : Bool :=
  character == '\t' || (0x20 ≤ character.toNat && character.toNat ≤ 0x7E) ||
    0x80 ≤ character.toNat

def newline? : List Char → Option (List Char)
  | '\n' :: rest => some rest
  | '\r' :: '\n' :: rest => some rest
  | _ => none

def skipComment : List Char → List Char
  | '#' :: rest => rest.dropWhile isVisible
  | rest => rest

/-- The text behind the end of a line on which only a comment may follow. -/
def lineEnd? (text : List Char) : Option (List Char) :=
  match skipComment (skipSpace text) with
  | [] => some []
  | rest => newline? rest

/-- The text behind spaces, comments and line ends. -/
def skipFiller (text : List Char) : List Char :=
  match newline? (skipComment (skipSpace text)) with
  | none => skipSpace text
  | some rest => if rest.length < text.length then skipFiller rest else rest
termination_by text.length

def skipLines (text : List Char) : List Char :=
  match newline? (skipSpace text) with
  | none => skipSpace text
  | some rest => if rest.length < text.length then skipLines rest else rest
termination_by text.length

/-- The character with a number that is written in hexadecimal digits. -/
def codePoint? (digits : List Char) : Option Char := do
  let code ← Digits.numberIn? 16 digits
  if code.isValidChar then some (Char.ofNat code) else none

/-- The character that an escape stands for; its backslash has been read. -/
def escape? : Reader Char
  | 'b' :: rest => some ('\x08', rest)
  | 't' :: rest => some ('\t', rest)
  | 'n' :: rest => some ('\n', rest)
  | 'f' :: rest => some ('\x0c', rest)
  | 'r' :: rest => some ('\r', rest)
  | '"' :: rest => some ('"', rest)
  | '\\' :: rest => some ('\\', rest)
  | 'u' :: rest =>
      if rest.length < 4 then none
      else do return (← codePoint? (rest.take 4), rest.drop 4)
  | 'U' :: rest =>
      if rest.length < 8 then none
      else do return (← codePoint? (rest.take 8), rest.drop 8)
  | _ => none

/-- The characters up to the closing quotation mark of a string on one line. -/
def escaped? (text : List Char) : Option (List Char × List Char) :=
  match text with
  | [] => none
  | '"' :: rest => some ([], rest)
  | '\\' :: rest => do
      let (character, after) ← escape? rest
      if after.length ≤ rest.length then
        let (inside, remaining) ← escaped? after
        return (character :: inside, remaining)
      else none
  | character :: rest =>
      if isVisible character then do
        let (inside, remaining) ← escaped? rest
        return (character :: inside, remaining)
      else none
termination_by text.length

/-- The characters up to the closing apostrophe of a string on one line. -/
def literal? : Reader (List Char)
  | [] => none
  | '\'' :: rest => some ([], rest)
  | character :: rest =>
      if isVisible character then do
        let (inside, remaining) ← literal? rest
        return (character :: inside, remaining)
      else none

/-- How many marks stand in a row, and how many of them belong to the text if they close it:
three close, and up to two before these are text. -/
def closing? (mark : Char) (text : List Char) : Option (Nat × List Char) :=
  let count := (text.takeWhile (· == mark)).length
  if count < 3 then none else some (min count 5 - 3, text.drop (min count 5))

/-- The characters of a string over several lines, up to its closing marks. -/
def multiline? (mark : Char) (escapes : Bool) (text : List Char) :
    Option (List Char × List Char) :=
  match text with
  | [] => none
  | character :: rest =>
      match closing? mark (character :: rest), newline? (character :: rest) with
      | some (kept, after), _ => some (List.replicate kept mark, after)
      | none, some after =>
          if after.length ≤ rest.length then do
            let (inside, remaining) ← multiline? mark escapes after
            return ('\n' :: inside, remaining)
          else none
      | none, none =>
          if escapes && character == '\\' then
            match newline? (skipSpace rest) with
            | some lines =>
                if (skipLines lines).length ≤ rest.length then
                  multiline? mark escapes (skipLines lines)
                else none
            | none => do
                let (meant, after) ← escape? rest
                if after.length ≤ rest.length then
                  let (inside, remaining) ← multiline? mark escapes after
                  return (meant :: inside, remaining)
                else none
          else if isVisible character then do
            let (inside, remaining) ← multiline? mark escapes rest
            return (character :: inside, remaining)
          else none
termination_by text.length

/-- The text behind a line end right after opening marks. -/
def skipFirstLineEnd (text : List Char) : List Char := (newline? text).getD text

def string? : Reader String
  | '"' :: '"' :: '"' :: rest =>
      (multiline? '"' true (skipFirstLineEnd rest)).map fun read => (String.ofList read.1, read.2)
  | '\'' :: '\'' :: '\'' :: rest =>
      (multiline? '\'' false (skipFirstLineEnd rest)).map fun read => (String.ofList read.1, read.2)
  | '"' :: rest => (escaped? rest).map fun read => (String.ofList read.1, read.2)
  | '\'' :: rest => (literal? rest).map fun read => (String.ofList read.1, read.2)
  | _ => none

/-- A character of a key without quotation marks. -/
def isBare (character : Char) : Bool :=
  character.isAlphanum || character == '_' || character == '-'

def keyPart? : Reader String
  | '"' :: rest => (escaped? rest).map fun read => (String.ofList read.1, read.2)
  | '\'' :: rest => (literal? rest).map fun read => (String.ofList read.1, read.2)
  | start =>
      let name := start.takeWhile isBare
      if name = [] then none else some (String.ofList name, start.dropWhile isBare)

/-- A key with dots between its parts, and spaces around them. -/
def key? (text : List Char) : Option (List String × List Char) := do
  let (part, rest) ← keyPart? (skipSpace text)
  match skipSpace rest with
  | '.' :: after =>
      if after.length < text.length then
        let (parts, remaining) ← key? after
        return (part :: parts, remaining)
      else none
  | after => return ([part], after)
termination_by text.length

end Toml

end Retrieval
