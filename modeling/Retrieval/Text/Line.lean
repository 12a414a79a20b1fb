import Retrieval.Text.Blank

/-!
# Lines and paragraphs

A line ends at a line feed, and a carriage return right before that line feed
belongs to the end of the line.  A text that ends with a line feed has no
further line after it.  Paragraphs are the runs of lines between blank lines.
-/

namespace Retrieval

namespace Text

/-- A line that a line feed closed, without the carriage return before it. -/
def closedLine (line : List Char) : List Char :=
  if line.getLast? = some '\r' then line.dropLast else line

/-- The pieces between line feeds, read as lines. -/
def linesOfPieces : List (List Char) → List (List Char)
  | [] => []
  | [last] => if last.isEmpty then [] else [last]
  | piece :: next :: rest => closedLine piece :: linesOfPieces (next :: rest)

def lines (text : String) : List String :=
  (linesOfPieces (text.toList.splitOnP (· == '\n'))).map String.ofList

/-- The runs of lines that are not blank, each joined by line feeds. -/
def paragraphs (text : String) : List String :=
  (Split.runs allBlank (lines text)).map (String.intercalate "\n")

end Text

end Retrieval
