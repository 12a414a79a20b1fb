import Retrieval.EdgeList
import Retrieval.LogLevel
import Retrieval.Path

/-!
# Complaints

Why a command ends without a result.  A complaint names what the command was
doing; the failures of the library that led to it are its causes.
-/

namespace Retrieval

inductive SettingsFault where
  | zeroChunkSize
  | overlap (shared size : Nat)
  | tokenizer (name : String)
  | metric (cause : Failure)
  | backend (cause : Failure)
  | embedder (name : String)
  | zeroDimension
  | generator (name : String)
  | zeroMatchLimit
  | mode (cause : Failure)
  | logLevel (cause : LogLevelFault)
  deriving DecidableEq, Repr

inductive Complaint where
  | failure (cause : Failure)
  | settings (fault : SettingsFault)
  | unreadableSettings (file : Path)
  | malformedSettings
  | unreadableFile (file : Path)
  | workingDirectory (directory : Path) (cause : Failure)
  /-- The number of matches asked for on the command line is zero. -/
  | zeroMatchLimit
  | selfLoop (loop : EdgeList.SelfLoop)
  /-- The level is one, but the log filter does not take its spelling. -/
  | logFilter (level : String)
  deriving DecidableEq, Repr

namespace SettingsFault

def message : SettingsFault → String
  | .zeroChunkSize => "chunking.chunk_token_size must be > 0"
  | .overlap shared size =>
      s!"chunking.chunk_overlap_token_size ({shared}) must be smaller than " ++
        s!"chunking.chunk_token_size ({size})"
  | .tokenizer name => s!"Unknown tokenizer: '{name}'. Must be simple or tiktoken."
  | .metric _ => "invalid vector.metric"
  | .backend _ => "invalid vector.storage_backend"
  | .embedder name =>
      s!"Unknown embedding provider: '{name}'. Must be disabled, hash, or openai."
  | .zeroDimension => "embedding.dims must be > 0 when provider is 'hash'"
  | .generator name => s!"Unknown llm provider: '{name}'. Must be disabled or openai."
  | .zeroMatchLimit => "query.top_k must be >= 1"
  | .mode _ => "invalid query.mode"
  | .logLevel _ => "invalid logging.level"

def causes : SettingsFault → List Failure
  | .metric cause => [cause]
  | .backend cause => [cause]
  | .mode cause => [cause]
  | _ => []

end SettingsFault

namespace Complaint

def message : Complaint → String
  | .failure cause => cause.message
  | .settings fault => fault.message
  | .unreadableSettings file => s!"Failed to read config file: {file.text}"
  | .malformedSettings => "Failed to parse config file"
  | .unreadableFile file => s!"Failed to read {file.text}"
  | .workingDirectory directory _ => s!"Failed to initialize working dir {directory.text}"
  | .zeroMatchLimit => "--top-k must be >= 1"
  | .selfLoop loop => s!"line {loop.line}: self-loop on '{loop.node}'"
  | .logFilter level => s!"invalid log level '{level}': invalid filter directive"

/-- The failures behind a complaint that is not one itself. -/
def causes : Complaint → List Failure
  | .settings fault => fault.causes
  | .workingDirectory _ cause => [cause]
  | _ => []

end Complaint

end Retrieval
