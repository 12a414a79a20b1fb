/-!
# Prompts and fixed answers
-/

namespace Retrieval

namespace Prompt

/-- The answer when nothing was found to answer from. -/
def failResponse : String := "Sorry, I'm not able to provide an answer to that question."

/-- The answer for the modes that retrieve nothing. -/
def unsupportedResponse : String :=
  "This query mode is not available yet; use the naive mode instead."

/-- What stands between two chunks of a context. -/
def chunkSeparator : String := "\n--New Chunk--\n"

/-- What a generator is told before the question. -/
def instructions (context responseType : String) : String :=
  "You're a helpful assistant\n" ++
  "Below are the knowledge you know:\n" ++
  context ++ "\n" ++
  "---\n" ++
  "If you don't know the answer or if the provided knowledge do not contain sufficient " ++
  "information to provide an answer, just say so. Do not make anything up.\n" ++
  "Generate a response of the target length and format that responds to the user's " ++
  "question, summarizing all information in the input data tables appropriate for the " ++
  "response length and format, and incorporating any relevant general knowledge.\n" ++
  "If you don't know the answer, just say so. Do not make anything up.\n" ++
  "Do not include information where the supporting evidence for it is not provided.\n" ++
  "---Target response length and format---\n" ++
  responseType

end Prompt

end Retrieval
