import Retrieval.CommandLine.Run

/-!
# The program

The files that a run needs are taken into a store, the run is carried out on it,
and what it changed is written back.  There is no network, so that every remote
service is out of reach.
-/

namespace Retrieval

namespace Program

/-- What stands at a path; a file that cannot be read holds no text. -/
def look (path : Path) : IO (Option FileEntry) := do
  try return some (.file (.ofBytes (← IO.FS.readBinFile path.text)))
  catch failure =>
    match failure with
    | .noFileOrDirectory .. => return none
    | .inappropriateType .. => return some .directory
    | _ => return some (.file (.bytes []))

/-- The store with what stands at a path to which its directories lead. -/
def fetchOne (files : FileStore) (path : Path) : IO FileStore := do
  match files.place? path with
  | none => return files
  | some place =>
      if (files.entryAt? place).isSome then return files
      match ← look path with
      | none => return files
      | some entry => return { files with entries := files.entries.insert place entry }

/-- The store with some paths and all that leads to them. -/
def fetch (files : FileStore) (paths : List Path) : IO FileStore :=
  (paths.flatMap fun path => path.ancestors.reverse).foldlM fetchOne files

/-- A store that knows the directories above the current one. -/
def currentStore : IO FileStore := do
  let place := Path.pieces ⟨(← IO.currentDir).toString⟩
  let above := (List.range place.length).map fun count => place.take (count + 1)
  let entries := above.foldl (fun entries names => entries.insert names .directory) Table.empty
  return { entries, workingDirectory := place }

def gather (arguments : List String) : IO FileStore := do
  let files ← currentStore
  match CommandLine.invocation? arguments with
  | none => return files
  | some invocation =>
      let files ← fetch files invocation.reads
      match invocation with
      | .run file _ =>
          match Settings.loadOrDefault files file with
          | .error _ => return files
          | .ok settings => fetch files (CommandLine.storage settings)
      | _ => return files

def writeEntry (place : Place) (entry : FileEntry) : IO Unit := do
  let path := "/" ++ String.intercalate "/" place
  match entry with
  | .directory => IO.FS.createDirAll path
  | .file (.text content) => IO.FS.writeFile path content
  | .file (.bytes content) => IO.FS.writeBinFile path ⟨content.toArray⟩

/-- What changed from one store to another, written; directories come before what they hold. -/
def writeBack (before after : FileStore) : IO Unit :=
  after.entries.entries.forM fun (place, entry) => do
    unless before.entryAt? place == some entry do writeEntry place entry

def environment : IO Environment := do
  let names :=
    [Environment.keyVariable, Environment.debugVariable, Environment.logFilterVariable]
  let values ← names.mapM fun name => do return (name, ← IO.getEnv name)
  return Environment.ofVariables fun name => (values.lookup name).join

def report (ending : CommandLine.Ending) : IO Unit := do
  IO.print ending.output
  match ending.complaint with
  | none => return ()
  | some complaint =>
      IO.eprintln ("Error: " ++ complaint.message)
      complaint.causes.forM fun cause => IO.eprintln ("  " ++ cause.message)

/-- A run on the files of the machine, and its code. -/
def run (arguments : List String) : IO UInt32 := do
  let files ← gather arguments
  let (ending, host) := CommandLine.run arguments (← environment) ⟨files, {}⟩
  writeBack files host.files
  report ending
  return UInt32.ofNat ending.code

end Program

end Retrieval

def main (arguments : List String) : IO UInt32 := Retrieval.Program.run arguments
