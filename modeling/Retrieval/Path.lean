import Retrieval.Text.Split

/-!
# Paths

A path is a text with slashes between its names.  Slashes in a row count as
one, and a single dot counts only at the start of a relative path; neither is
removed from the text unless the piece before it goes.
-/

namespace Retrieval

structure Path where
  text : String
  deriving DecidableEq, Repr, Inhabited

namespace Path

/-- The pieces between slashes that hold something. -/
def pieces (path : Path) : List String :=
  (Split.runs (· == '/') path.text.toList).map String.ofList

def isAbsolute (path : Path) : Bool := path.text.toList.head? == some '/'

def endsWithSlash (path : Path) : Bool := path.text.toList.getLast? == some '/'

/-- A path read backwards, from its last piece that counts. -/
def trimReversed : List Char → List Char
  | '/' :: next :: rest => trimReversed (next :: rest)
  | '.' :: '/' :: rest => trimReversed ('/' :: rest)
  | other => other

def trimmedReversed (path : Path) : List Char := trimReversed path.text.toList.reverse

/-- The last name of a path; the root, a dot and two dots are no names. -/
def fileName? (path : Path) : Option String :=
  let name := String.ofList (path.trimmedReversed.takeWhile (· != '/')).reverse
  if name = "" ∨ name = "." ∨ name = ".." then none else some name

/-- The path without its last piece; the root and the empty path have none. -/
def parent? (path : Path) : Option Path :=
  let reversed := path.trimmedReversed
  if reversed = [] ∨ reversed = ['/'] then none
  else some ⟨String.ofList (trimReversed (reversed.dropWhile (· != '/'))).reverse⟩

/-- The second path seen from the first; an absolute one stays as it is. -/
def join (base child : Path) : Path :=
  if child.isAbsolute then child
  else if base.text = "" ∨ base.endsWithSlash then ⟨base.text ++ child.text⟩
  else ⟨base.text ++ "/" ++ child.text⟩

/-- The last name replaced, or the name added where there is none. -/
def withFileName (path : Path) (name : String) : Path :=
  match path.fileName?, path.parent? with
  | some _, some parent => parent.join ⟨name⟩
  | _, _ => path.join ⟨name⟩

/-- The path and all its parents, the longest first. -/
def ancestors (path : Path) : List Path := go path.text.length path
where
  go : Nat → Path → List Path
    | 0, path => [path]
    | steps + 1, path =>
        match path.parent? with
        | none => [path]
        | some parent => path :: go steps parent

end Path

end Retrieval
