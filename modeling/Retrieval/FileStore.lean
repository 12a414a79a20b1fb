import Retrieval.Path
import Retrieval.Table

/-!
# Files

A file store is a tree of directories and files, given as a table from places
to what stands there.  A place is the list of names from the root.  A path leads
to a place if everything before its last piece is a directory, and paths that
are not absolute start at the working directory.
-/

namespace Retrieval

abbrev Place := List String

inductive Contents where
  | text (content : String)
  /-- Bytes that are no text. -/
  | bytes (content : List UInt8)
  deriving DecidableEq

def Contents.ofBytes (bytes : ByteArray) : Contents :=
  match String.fromUTF8? bytes with
  | some content => .text content
  | none => .bytes bytes.toList

inductive FileEntry where
  | directory
  | file (contents : Contents)
  deriving DecidableEq

structure FileStore where
  entries : Table Place FileEntry
  workingDirectory : Place

namespace FileStore

def empty : FileStore := ⟨Table.empty, []⟩

instance : Inhabited FileStore := ⟨empty⟩

/-- What stands at a place; the root is always a directory. -/
def entryAt? (files : FileStore) (place : Place) : Option FileEntry :=
  if place = [] then some .directory else files.entries.get? place

def isDirectoryAt (files : FileStore) (place : Place) : Bool :=
  files.entryAt? place == some .directory

/-- The longest name that a directory takes, in bytes. -/
def nameLimit : Nat := 255

/-- The longest path that is looked up, in bytes. -/
def pathLimit : Nat := 4095

def isUsable (path : Path) : Bool :=
  path.text != "" && !path.text.toList.contains '\x00' && path.text.utf8ByteSize ≤ pathLimit

/-- The place that a list of pieces leads to; each step starts at a directory. -/
def walk? (files : FileStore) (place : Place) : List String → Option Place
  | [] => some place
  | piece :: rest =>
      if !files.isDirectoryAt place then none
      else if piece = "." then walk? files place rest
      else if piece = ".." then walk? files place.dropLast rest
      else if nameLimit < piece.utf8ByteSize then none
      else walk? files (place ++ [piece]) rest

def origin (files : FileStore) (path : Path) : Place :=
  if path.isAbsolute then [] else files.workingDirectory

def place? (files : FileStore) (path : Path) : Option Place :=
  if isUsable path then files.walk? (files.origin path) path.pieces else none

/-- What stands at the end of a path; a slash at the end asks for a directory. -/
def found? (files : FileStore) (path : Path) : Option FileEntry := do
  let entry ← files.entryAt? (← files.place? path)
  if path.endsWithSlash && entry != .directory then none else some entry

def contains (files : FileStore) (path : Path) : Bool := (files.found? path).isSome

def isDirectory (files : FileStore) (path : Path) : Bool := files.found? path == some .directory

def readText? (files : FileStore) (path : Path) : Option String :=
  match files.found? path with
  | some (.file (.text content)) => some content
  | _ => none

/-- A file with the given contents, in a directory that is there. -/
def write? (files : FileStore) (path : Path) (contents : Contents) : Option FileStore := do
  let place ← files.place? path
  if path.endsWithSlash || files.isDirectoryAt place ||
      !files.isDirectoryAt place.dropLast then none
  else some { files with entries := files.entries.insert place (.file contents) }

def makeDirectory? (files : FileStore) (path : Path) : Option FileStore := do
  if files.isDirectory path then return files
  let place ← files.place? path
  let isNamed := path.pieces.getLast? != some "." && path.pieces.getLast? != some ".."
  if isNamed && (files.entryAt? place).isNone && files.isDirectoryAt place.dropLast then
    return { files with entries := files.entries.insert place .directory }
  else none

/-- The directories of a list of paths, until one cannot be made. -/
def makeEach (files : FileStore) : List Path → Bool × FileStore
  | [] => (true, files)
  | path :: rest =>
      match files.makeDirectory? path with
      | none => (false, files)
      | some made => makeEach made rest

/-- A directory with all that lead to it; what was made stays even if not all can be. -/
def makeDirectories (files : FileStore) (path : Path) : Bool × FileStore :=
  if path.text = "" then (true, files)
  else if isUsable path then
    files.makeEach (path.ancestors.reverse.filter fun ancestor => ancestor.text != "")
  else (false, files)

/-- A file with the given contents and the directories that lead to it; what was made stays. -/
def writeThrough (files : FileStore) (path : Path) (contents : Contents) : Bool × FileStore :=
  let (isMade, files) :=
    match path.parent? with
    | none => (true, files)
    | some parent => files.makeDirectories parent
  if isMade then
    match files.write? path contents with
    | none => (false, files)
    | some written => (true, written)
  else (false, files)

/-- Everything below a place, by the names from there. -/
def below (files : FileStore) (place : Place) : List (Place × FileEntry) :=
  files.entries.entries.filterMap fun (other, entry) =>
    if place.isPrefixOf other && place != other then some (other.drop place.length, entry) else none

end FileStore

end Retrieval
