import Retrieval.Complaint
import Retrieval.Environment
import Retrieval.Text.Alphanumeric
import Retrieval.Text.Bytes
import Retrieval.Text.Pattern

/-!
# Log filters

A filter is a list of directives with commas between them.  A directive is a
level, or it names a target, or a span between brackets, and may give a level
behind an equals sign.  A span may have fields between braces, and a field a
value that is a number or a pattern.  A level in settings has to be a filter as
well, which leaves out a number behind a plus sign.

The blanks in front of a directive count for nothing where its parts are told
apart, but they count where the parts are taken out.  So a part may be asked for
that begins or ends inside a character, and then nothing can go on.
-/

namespace Retrieval

namespace LogFilter

/-- Why a directive cannot be read.  The second fault breaks the reader off. -/
inductive Fault where
  | notDirective
  /-- A part of the directive begins or ends inside a character. -/
  | insideCharacter
  deriving DecidableEq, Repr

/-- Where the reading of a directive is.  Spans, fields and levels are taken from the directive
once they end, so the place where they start is kept. -/
inductive Place where
  | start
  | target
  | span (first : Nat)
  | field (first : Nat)
  | afterFields
  | afterSpan
  | level (first : Nat)
  deriving DecidableEq, Repr

/-- A character with which the name of a target starts. -/
def startsTarget (character : Char) : Bool :=
  ['-', ':', '_'].contains character || Text.alphanumeric.contains character

/-- Digits, perhaps with a point among them or at one of their ends. -/
def isDecimal (text : List Char) : Bool :=
  text.any Char.isDigit && text.all (fun letter => letter.isDigit || letter == '.') &&
    text.count '.' ≤ 1

def unsigned (text : List Char) : List Char :=
  if text.head? = some '+' ∨ text.head? = some '-' then text.drop 1 else text

/-- A number, or one of the words that stand for numbers. -/
def isNumber (text : List Char) : Bool :=
  let magnitude := unsigned text
  let isExponent (letter : Char) : Bool := letter == 'e' || letter == 'E'
  ["inf", "infinity", "nan"].contains (String.ofList magnitude).toLower ||
    isDecimal (magnitude.takeWhile (!isExponent ·)) &&
      match magnitude.dropWhile (!isExponent ·) with
      | [] => true
      | _ :: exponent => !(unsigned exponent).isEmpty && (unsigned exponent).all Char.isDigit

/-- A field: a name, and perhaps a value behind an equals sign. -/
def isField (text : List Char) : Bool :=
  match (text.splitOnP (· == '=')) with
  | _ :: value :: _ => isNumber value || Pattern.isPattern value
  | _ => !text.isEmpty

/-- No level stands for all levels. -/
def isLevel (text : List Char) : Bool :=
  text.isEmpty || (LogLevel.ofText (String.ofList text)).isOk

/-- What stands between two places of a directive. -/
def part (written : List Char) (first stop : Nat) : Except Fault (List Char) :=
  match Text.between? first stop written with
  | some inside => .ok inside
  | none => .error .insideCharacter

/-- One character further.  Places count from the first character that is no blank, and parts
are taken from the directive with its blanks. -/
def advance (written : List Char) (place : Place) (next : Char × Nat) : Except Fault Place :=
  let (character, index) := next
  match place with
  | .start =>
      if character == '[' then .ok (.span (index + 1))
      else if startsTarget character then .ok .target
      else .error .notDirective
  | .target =>
      if character == '=' then do
        let _ ← part written 0 index
        return .level (index + 1)
      else if character == '[' then do
        let _ ← part written 0 index
        return .span (index + 1)
      else .ok .target
  | .span first =>
      if character == ']' then do
        let _ ← part written first index
        return .afterSpan
      else if character == '\x7b' then do
        let _ ← part written first index
        return .field (index + 1)
      else .ok (.span first)
  | .field first =>
      if character == '\x7d' then do
        if isField (← part written first index) then return .afterFields
        else .error .notDirective
      else .ok (.field first)
  | .afterFields => if character == ']' then .ok .afterSpan else .error .notDirective
  | .afterSpan =>
      if character == '=' then .ok (.level (index + 1)) else .error .notDirective
  | .level first => .ok (.level first)

/-- A directive has to end somewhere fit, and with a level if it gives one. -/
def Place.finish (written : List Char) : Place → Except Fault Unit
  | .target => .ok ()
  | .afterSpan => .ok ()
  | .level first =>
      match Text.behind? first written with
      | none => .error .insideCharacter
      | some given => if isLevel given then .ok () else .error .notDirective
  | _ => .error .notDirective

def readDirective (written : List Char) : Except Fault Unit := do
  let characters := (Text.trim (String.ofList written)).toList
  let place ← (Text.placed 0 characters).foldlM (advance written) Place.start
  place.finish written

/-- The directives are read in order, up to the first fault. -/
def read (text : String) : Except Fault Unit :=
  (Split.runs (· == ',') text.toList).forM readDirective

/-- How logging starts: as asked, not at all, or not before everything comes to an end. -/
inductive Start where
  | started
  | refused (complaint : Complaint)
  | broken
  deriving DecidableEq, Repr

def startAt (level : String) : Start :=
  match read level with
  | .ok () => .started
  | .error .notDirective => .refused (.logFilter level)
  | .error .insideCharacter => .broken

/-- Logging starts at a level unless the environment says something else. -/
def start (environment : Environment) (level : String) : Start :=
  if environment.forcesDebug then .started
  else
    match environment.logFilter.map read with
    | some (.ok ()) => .started
    | some (.error .insideCharacter) => .broken
    | some (.error .notDirective) => startAt level
    | none => startAt level

end LogFilter

end Retrieval
