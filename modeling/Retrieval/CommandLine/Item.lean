import Retrieval.Number.Digits

/-!
# Items of a command line

The arguments taken one by one as options with a value, flags and operands.
Which options take a value is known beforehand, so the items do not depend on
the command.  What comes after two hyphens alone is an operand whatever it looks
like, and reading ends at an argument that makes no sense.
-/

namespace Retrieval

namespace CommandLine

inductive Item where
  | option (name value : String)
  | flag (name : String)
  | operand (text : String)
  /-- Two hyphens alone. -/
  | separator
  | fault
  deriving DecidableEq, Repr

def valuedOptions : List String :=
  ["config", "doc", "mode", "top-k", "max-tokens", "response-type"]

def shortFlag? (letter : Char) : Option String :=
  match letter with
  | 'h' => some "help"
  | 'V' => some "version"
  | _ => none

inductive Look where
  /-- The part behind an equals sign is the value. -/
  | long (name : String) (value : Option String)
  | short (letter : Char)
  | separator
  | plain (text : String)
  deriving DecidableEq, Repr

def longLook (text : List Char) : Look :=
  let name := String.ofList (text.takeWhile (· != '='))
  match text.dropWhile (· != '=') with
  | [] => .long name none
  | _ :: value => .long name (some (String.ofList value))

/-- A single hyphen alone is an operand. -/
def Look.ofArgument (argument : String) : Look :=
  match argument.toList with
  | ['-', '-'] => .separator
  | '-' :: '-' :: text => longLook text
  | '-' :: letter :: _ => .short letter
  | _ => .plain argument

/-- The argument can be the value of the option before it. -/
def isValue (argument : String) : Bool :=
  match Look.ofArgument argument with
  | .plain _ => true
  | _ => false

def items : List String → List Item
  | [] => []
  | argument :: rest =>
      match Look.ofArgument argument with
      | .plain text => .operand text :: items rest
      | .separator => .separator :: rest.map .operand
      | .short letter =>
          match shortFlag? letter with
          | none => [.fault]
          | some name => .flag name :: items rest
      | .long name (some value) =>
          if valuedOptions.contains name then .option name value :: items rest else [.fault]
      | .long name none =>
          if valuedOptions.contains name then
            match rest with
            | [] => [.fault]
            | value :: rest => if isValue value then .option name value :: items rest else [.fault]
          else .flag name :: items rest

end CommandLine

end Retrieval
