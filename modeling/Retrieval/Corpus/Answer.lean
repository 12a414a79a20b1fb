import Retrieval.Corpus.Basic
import Retrieval.Index.Search
import Retrieval.Prompt
import Retrieval.Query

/-!
# Answers

A naive query retrieves chunks, joins as many of them as the budget allows, and
lets the generator answer from that context.  The context itself is the response
when it is asked for, when there is no generator, and when the generator has
nothing to say.
-/

namespace Retrieval

inductive Response where
  | answer (text : String)
  | context (text : String)
  /-- Nothing was found to answer from. -/
  | noContext
  /-- The mode has no way to retrieve. -/
  | unsupported (mode : QueryMode)
  deriving DecidableEq, Repr

namespace Response

def text : Response → String
  | .answer text => text
  | .context text => text
  | .noContext => Prompt.failResponse
  | .unsupported _ => Prompt.unsupportedResponse

def kindName : Response → String
  | .answer _ => "answer"
  | .context _ => "context"
  | .noContext => "no_context"
  | .unsupported _ => "unsupported"

def unsupportedMode? : Response → Option QueryMode
  | .unsupported mode => some mode
  | _ => none

def isDegenerate : Response → Bool
  | .answer _ => false
  | .context _ => false
  | .noContext => true
  | .unsupported _ => true

end Response

namespace Corpus

variable {σ : Type}

/-- The contents of the chunks up to the first that goes over a budget, a separator behind
each.  The chunks before them count for a number of tokens. -/
def gather (budget spent : Nat) (context : String) : List Chunk → String
  | [] => context
  | chunk :: rest =>
      let total := spent + chunk.tokens
      if budget < total then context
      else gather budget total (context ++ chunk.content ++ Prompt.chunkSeparator) rest

/-- The text without the separator it ends in, if it does. -/
def withoutSeparator (context : String) : String :=
  let separator := Prompt.chunkSeparator.toList
  let characters := context.toList
  if separator.isSuffixOf characters then
    String.ofList (characters.take (characters.length - separator.length))
  else context

/-- The context that chunks give within a budget. -/
def assembleContext (budget : Nat) (chunks : List Chunk) : String :=
  withoutSeparator (gather budget 0 "" chunks)

/-- The chunks of some matches; a match without a chunk is passed over. -/
def matchedChunks (corpus : Corpus σ) (found : List Match) : List Chunk :=
  (corpus.chunks.getMany (found.map Match.id)).filterMap id

/-- The response to a context: what the generator makes of it, or the context itself. -/
def respond (corpus : Corpus σ) (question context : String) (options : QueryOptions)
    (outside : σ) : Except Failure Response × σ :=
  match corpus.generator with
  | none => (.ok (.context context), outside)
  | some generator =>
      if options.contextOnly then (.ok (.context context), outside)
      else
        let (reply, outside) :=
          generator.generate question (Prompt.instructions context options.responseType) outside
        (reply.map fun text => if text = "" then .context context else .answer text, outside)

/-- A query that retrieves chunks by their embeddings. -/
def answerNaive (corpus : Corpus σ) (question : String) (options : QueryOptions) (outside : σ) :
    Except Failure Response × σ :=
  match corpus.chunkIndex with
  | none => (.ok .noContext, outside)
  | some index =>
      match index.query question options.matchLimit outside with
      | (.error failure, outside) => (.error failure, outside)
      | (.ok found, outside) =>
          let chunks := corpus.matchedChunks found
          if chunks.isEmpty then (.ok .noContext, outside)
          else
            corpus.respond question (assembleContext options.contextBudget chunks) options outside

def answer (corpus : Corpus σ) (question : String) (options : QueryOptions) (outside : σ) :
    Except Failure Response × σ :=
  match options.mode with
  | .naive => corpus.answerNaive question options outside
  | mode => (.ok (.unsupported mode), outside)

/-- The records of the chunk index, in the order in which it visits them. -/
def visits (corpus : Corpus σ) : List (String × StoredVector) :=
  match corpus.chunkIndex with
  | none => []
  | some index => index.records.entries

/-- The query for a question does not break off, in a given order of visits. -/
def ends (corpus : Corpus σ) (order : List (String × StoredVector)) (question : String)
    (options : QueryOptions) (outside : σ) : Bool :=
  match options.mode, corpus.chunkIndex with
  | .naive, some index => index.ends order question outside
  | _, _ => true

/-- The response to a question, unless its query breaks off. -/
def answer? (corpus : Corpus σ) (question : String) (options : QueryOptions) (outside : σ) :
    Option (Except Failure Response × σ) :=
  if corpus.ends corpus.visits question options outside then
    some (corpus.answer question options outside)
  else none

end Corpus

end Retrieval
