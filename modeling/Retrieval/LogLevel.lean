import Retrieval.Number.Digits

/-!
# Log levels

A level is written as its name, in letters of either case, or as a number from
zero to five.
-/

namespace Retrieval

inductive LogLevel where
  | off
  | error
  | warn
  | info
  | debug
  | trace
  deriving DecidableEq, Repr

inductive LogLevelFault where
  | empty
  | unrecognised (text : String)
  deriving DecidableEq, Repr

namespace LogLevelFault

def message : LogLevelFault → String
  | .empty => "log level must not be empty"
  | .unrecognised text => s!"unrecognised log level: '{text}'"

end LogLevelFault

namespace LogLevel

def all : List LogLevel := [.off, .error, .warn, .info, .debug, .trace]

def name : LogLevel → String
  | .off => "off"
  | .error => "error"
  | .warn => "warn"
  | .info => "info"
  | .debug => "debug"
  | .trace => "trace"

def ofText (text : String) : Except LogLevelFault LogLevel :=
  if text.isEmpty then .error .empty
  else
    let numbered := (Digits.natural? text).bind fun number => all[number]?
    let named := all.find? fun level => level.name == text.toLower
    match numbered.or named with
    | some level => .ok level
    | none => .error (.unrecognised text)

end LogLevel

end Retrieval
