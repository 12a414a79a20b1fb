import Retrieval.CommandLine.Item

/-!
# Shapes of command lines

A shape says which options, flags and operands there may be.  Items are taken in
their order; the first one that does not fit makes the whole line unusable,
unless help was asked for before it.
-/

namespace Retrieval

namespace CommandLine

inductive Kind where
  | text
  /-- A path is not empty. -/
  | path
  /-- A number of sixty-four bits. -/
  | number
  deriving DecidableEq, Repr

structure OptionShape where
  name : String
  kind : Kind
  repeatable : Bool := false
  deriving DecidableEq, Repr

structure Shape where
  options : List OptionShape
  flags : List String
  operands : List Kind
  deriving DecidableEq, Repr

def number? (value : String) : Option Nat :=
  (Digits.natural? value).filter fun number => number < UInt64.size

namespace Kind

def admits : Kind → String → Bool
  | .text, _ => true
  | .path, value => value != ""
  | .number, value => (number? value).isSome

end Kind

structure Given where
  options : List (String × String) := []
  flags : List String := []
  operands : List String := []
  deriving DecidableEq, Repr

namespace Given

def values (given : Given) (name : String) : List String :=
  (given.options.filter fun option => option.1 == name).map (·.2)

def value? (given : Given) (name : String) : Option String := given.options.lookup name

end Given

inductive Outcome where
  | help
  | given (given : Given)
  deriving DecidableEq, Repr

namespace Shape

/-- An option that the shape has, with a value of its kind, not given before unless it repeats. -/
def addOption? (shape : Shape) (given : Given) (name value : String) : Option Given := do
  let option ← shape.options.find? fun option => option.name == name
  let isFree := option.repeatable || (given.value? name).isNone
  if isFree && option.kind.admits value then
    return { given with options := given.options ++ [(name, value)] }
  else none

def addFlag? (shape : Shape) (given : Given) (name : String) : Option Given :=
  if shape.flags.contains name && !given.flags.contains name then
    some { given with flags := given.flags ++ [name] }
  else none

def addOperand? (shape : Shape) (given : Given) (text : String) : Option Given := do
  let kind ← shape.operands[given.operands.length]?
  if kind.admits text then return { given with operands := given.operands ++ [text] } else none

def collect? (shape : Shape) (given : Given) : List Item → Option Outcome
  | [] => some (.given given)
  | .separator :: rest => shape.collect? given rest
  | .fault :: _ => none
  | .flag name :: rest =>
      if name = "help" then some .help
      else
        match shape.addFlag? given name with
        | none => none
        | some grown => shape.collect? grown rest
  | .option name value :: rest =>
      match shape.addOption? given name value with
      | none => none
      | some grown => shape.collect? grown rest
  | .operand text :: rest =>
      match shape.addOperand? given text with
      | none => none
      | some grown => shape.collect? grown rest

end Shape

end CommandLine

end Retrieval
