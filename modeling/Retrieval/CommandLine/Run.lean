import Retrieval.CommandLine.Invocation
import Retrieval.LogFilter
import Retrieval.Settings.Read

/-!
# Runs

A run reads the settings, starts the log, and carries out the command.  It ends
with a code: zero for success, one for a complaint, two for a command line that
cannot be used, and a larger one where it breaks off.
-/

namespace Retrieval

namespace CommandLine

open Http (Network)

structure Ending where
  code : Nat
  /-- What was printed. -/
  output : String := ""
  complaint : Option Complaint := none
  deriving DecidableEq, Repr

namespace Ending

def success (output : String) : Ending := ⟨0, output, none⟩

def failure (complaint : Complaint) : Ending := ⟨1, "", some complaint⟩

def misuse : Ending := ⟨2, "", none⟩

/-- An end without a complaint, where nothing can go on. -/
def collapse : Ending := ⟨101, "", none⟩

def ofExcept : Except Complaint String → Ending
  | .ok output => success output
  | .error complaint => failure complaint

end Ending

def versionText : String := "ngrag 0.1.0\n"

def helpText : String :=
  "Usage: ngrag [--config FILE] COMMAND\n\n" ++
    "  chunk FILE [--json]\n" ++
    "  query QUESTION --doc FILE [--mode MODE] [--top-k COUNT] [--max-tokens COUNT]\n" ++
    "        [--only-context] [--response-type TYPE]\n" ++
    "  graph FILE\n"

/-- The files that a run looks at before it knows its settings. -/
def Invocation.reads : Invocation → List Path
  | .help => []
  | .version => []
  | .run settings command => settings :: command.files

def storage (settings : Settings) : List Path :=
  match settings.corpusOptions with
  | .error _ => []
  | .ok options =>
      options.workingDirectory ::
        [Corpus.chunkIndexName, Corpus.entityIndexName].map fun name =>
          (Corpus.indexOptions options name).file

/-- A run with some arguments, and the host after it. -/
def run (arguments : List String) (environment : Environment) (host : Host Network) :
    Ending × Host Network :=
  match invocation? arguments with
  | none => (.misuse, host)
  | some .help => (.success helpText, host)
  | some .version => (.success versionText, host)
  | some (.run file command) =>
      match Settings.loadOrDefault host.files file with
      | .error complaint => (.failure complaint, host)
      | .ok settings =>
          match LogFilter.start environment settings.logging.level with
          | .refused complaint => (.failure complaint, host)
          | .broken => (.collapse, host)
          | .started =>
              let (printed, later) := command.run settings environment host
              (if command.ends settings environment host then .ofExcept printed else .collapse,
                later)

end CommandLine

end Retrieval
