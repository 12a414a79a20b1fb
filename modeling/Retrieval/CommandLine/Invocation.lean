import Retrieval.Command
import Retrieval.CommandLine.Shape

/-!
# Invocations

What a whole command line asks for.  The settings file may be named before the
command or behind its name; the name behind it counts.
-/

namespace Retrieval

namespace CommandLine

inductive Invocation where
  | help
  | version
  | run (settings : Path) (command : Command)
  deriving DecidableEq, Repr

/-- Where settings are looked for unless another file is named. -/
def defaultSettings : String := "./config/ngrag.toml"

def settingsOption : OptionShape := ⟨"config", .path, false⟩

def globalShape : Shape := ⟨[settingsOption], [], []⟩

def chunkShape : Shape := ⟨[settingsOption], ["json"], [.path]⟩

def graphShape : Shape := ⟨[settingsOption], [], [.path]⟩

def queryShape : Shape :=
  ⟨[settingsOption, ⟨"doc", .path, true⟩, ⟨"mode", .text, false⟩, ⟨"top-k", .number, false⟩,
      ⟨"max-tokens", .number, false⟩, ⟨"response-type", .text, false⟩],
    ["only-context"], [.text]⟩

def shape? (name : String) : Option Shape :=
  match name with
  | "chunk" => some chunkShape
  | "query" => some queryShape
  | "graph" => some graphShape
  | _ => none

def overridesOf (given : Given) : Overrides where
  mode := given.value? "mode"
  matchLimit := (given.value? "top-k").bind number?
  contextBudget := (given.value? "max-tokens").bind number?
  contextOnly := given.flags.contains "only-context"
  responseType := given.value? "response-type"

/-- The command of a name; its operand and the documents of a query have to be there. -/
def command? (name : String) (given : Given) : Option Command := do
  let operand ← given.operands.head?
  match name with
  | "chunk" => return .chunk ⟨operand⟩ (given.flags.contains "json")
  | "graph" => return .graph ⟨operand⟩
  | "query" =>
      let documents := (given.values "doc").map Path.mk
      if documents.isEmpty then none
      else return .query ⟨operand, documents, overridesOf given⟩
  | _ => none

/-- A command with what follows its name, after what stood before it. -/
def commandInvocation? (before : Given) (name : String) (rest : List Item) : Option Invocation := do
  match ← (← shape? name).collect? {} rest with
  | .help => return .help
  | .given given =>
      let settings := ((given.value? "config").or (before.value? "config")).getD defaultSettings
      return .run ⟨settings⟩ (← command? name given)

/-- The names of commands that help can be asked about. -/
def isTopic (name : String) : Bool := name == "help" || (shape? name).isSome

def helpInvocation? : List Item → Option Invocation
  | [] => some .help
  | [.operand topic] => if isTopic topic then some .help else none
  | _ => none

/-- What the items ask for; the first operand is the name of the command. -/
def invocationOf? (before : Given) : List Item → Option Invocation
  | .flag "help" :: _ => some .help
  | .flag "version" :: _ => some .version
  | .option name value :: rest =>
      match globalShape.addOption? before name value with
      | none => none
      | some grown => invocationOf? grown rest
  | .operand name :: rest =>
      if name = "help" then helpInvocation? rest else commandInvocation? before name rest
  | _ => none

/-- What the arguments ask for; nothing if they cannot be used. -/
def invocation? (arguments : List String) : Option Invocation :=
  invocationOf? {} (items arguments)

end CommandLine

end Retrieval
