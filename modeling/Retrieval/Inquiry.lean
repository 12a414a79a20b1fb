import Retrieval.Complaint
import Retrieval.Corpus.Answer
import Retrieval.Corpus.Insert
import Retrieval.Overrides
import Retrieval.Provider
import Retrieval.Text.Line

/-!
# Inquiries

A question over the paragraphs of some files, answered from a corpus that is
built for it as the settings say.
-/

namespace Retrieval

open Http (Network)

def FileStore.require (files : FileStore) (file : Path) : Except Complaint String :=
  match files.readText? file with
  | none => .error (.unreadableFile file)
  | some text => .ok text

namespace Settings

def tokenizer (settings : Settings) (environment : Environment) : Except Failure Tokenizer :=
  Tokenizer.suppliedOrSimple environment.vocabulary settings.chunking.tokenizer

/-- What a corpus is made of, besides its options. -/
structure Parts where
  tokenizer : Tokenizer
  embedder : Option (Embedder Network)
  generator : Option (Generator Network)

/-- The parts of a corpus and then its options, in this order of faults. -/
def parts (settings : Settings) (environment : Environment) :
    Except Failure (CorpusOptions × Parts) := do
  let tokenizer ← settings.tokenizer environment
  let embedder ← settings.embeddings.embedder? environment
  let generator ← settings.generation.generator? environment
  return (← settings.corpusOptions, { tokenizer, embedder, generator })

/-- A corpus with the tokenizer, the embedder and the generator of the settings. -/
def startCorpus (settings : Settings) (environment : Environment) (files : FileStore) :
    Except Complaint (Corpus Network) × FileStore :=
  match settings.parts environment with
  | .error failure => (.error (.failure failure), files)
  | .ok (options, parts) =>
      let (started, files) := Corpus.start options parts.tokenizer parts.embedder files
      ((started.mapError (.workingDirectory options.workingDirectory)).map
        fun corpus => corpus.withGenerator parts.generator, files)

end Settings

structure Inquiry where
  question : String
  documents : List Path
  overrides : Overrides := {}
  deriving DecidableEq, Repr

namespace Inquiry

/-- The options of the query and the paragraphs of the files, in this order of faults. -/
def preparation (inquiry : Inquiry) (settings : Settings) (files : FileStore) :
    Except Complaint (QueryOptions × List String) := do
  let options ← inquiry.overrides.apply (← settings.queryOptions.mapError .failure)
  let texts ← inquiry.documents.mapM files.require
  return (options, texts.flatMap Text.paragraphs)

/-- The paragraphs inserted into a corpus and saved. -/
def fill (paragraphs : List String) (corpus : Corpus Network) (host : Host Network) :
    Except Failure (Corpus Network) × Host Network :=
  match corpus.insert paragraphs host with
  | (.error failure, _, host) => (.error failure, host)
  | (.ok _, corpus, host) =>
      let (saved, files) := corpus.save host.files
      (saved.map fun _ => corpus, { host with files })

/-- The options of the query, and a corpus of the files. -/
def corpus (inquiry : Inquiry) (settings : Settings) (environment : Environment)
    (host : Host Network) : Except Complaint (QueryOptions × Corpus Network) × Host Network :=
  match inquiry.preparation settings host.files with
  | .error complaint => (.error complaint, host)
  | .ok (options, paragraphs) =>
      match settings.startCorpus environment host.files with
      | (.error complaint, files) => (.error complaint, { host with files })
      | (.ok corpus, files) =>
          let (filled, host) := fill paragraphs corpus { host with files }
          ((filled.mapError .failure).map fun corpus => (options, corpus), host)

/-- The response to the question, from a corpus of its files. -/
def answer (inquiry : Inquiry) (settings : Settings) (environment : Environment)
    (host : Host Network) : Except Complaint Response × Host Network :=
  match inquiry.corpus settings environment host with
  | (.error complaint, host) => (.error complaint, host)
  | (.ok (options, corpus), host) =>
      let (response, outside) := corpus.answer inquiry.question options host.outside
      (response.mapError .failure, { host with outside })

/-- The query for the question does not break off. -/
def ends (inquiry : Inquiry) (settings : Settings) (environment : Environment)
    (host : Host Network) : Bool :=
  match inquiry.corpus settings environment host with
  | (.error _, _) => true
  | (.ok (options, corpus), host) =>
      corpus.ends corpus.visits inquiry.question options host.outside

end Inquiry

end Retrieval
