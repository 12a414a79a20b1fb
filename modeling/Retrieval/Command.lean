import Retrieval.EdgeList
import Retrieval.Inquiry
import Retrieval.Preview

/-!
# Commands

What can be asked for on a command line.  A command gives the text that it
prints, all of it or none.
-/

namespace Retrieval

open Http (Network)

inductive Command where
  /-- How a file would be cut into chunks, as a table or as JSON. -/
  | chunk (file : Path) (asJson : Bool)
  | query (inquiry : Inquiry)
  /-- The communities of an edge list. -/
  | graph (file : Path)
  deriving DecidableEq, Repr

def Settings.preview (settings : Settings) (environment : Environment) (text : String) :
    Except Failure (List Preview) := do
  let tokenizer ← settings.tokenizer environment
  Preview.ofText tokenizer settings.chunking.size settings.chunking.overlap text

namespace Command

def files : Command → List Path
  | .chunk file _ => [file]
  | .query inquiry => inquiry.documents
  | .graph file => [file]

def runChunk (settings : Settings) (environment : Environment) (files : FileStore) (file : Path)
    (asJson : Bool) : Except Complaint String := do
  let text ← files.require file
  let previews ← (settings.preview environment text).mapError .failure
  return if asJson then Preview.listing previews else Preview.table previews

def runGraph (files : FileStore) (file : Path) : Except Complaint String := do
  let graph ← (EdgeList.read (← files.require file)).mapError .selfLoop
  return EdgeList.report graph

def runQuery (settings : Settings) (environment : Environment) (inquiry : Inquiry)
    (host : Host Network) : Except Complaint String × Host Network :=
  let (response, host) := inquiry.answer settings environment host
  (response.map fun response => response.text ++ "\n", host)

/-- What the command prints, and the host after it. -/
def run (settings : Settings) (environment : Environment) (command : Command)
    (host : Host Network) : Except Complaint String × Host Network :=
  match command with
  | .chunk file asJson => (runChunk settings environment host.files file asJson, host)
  | .query inquiry => runQuery settings environment inquiry host
  | .graph file => (runGraph host.files file, host)

def ends (settings : Settings) (environment : Environment) (command : Command)
    (host : Host Network) : Bool :=
  match command with
  | .query inquiry => inquiry.ends settings environment host
  | _ => true

end Command

end Retrieval
