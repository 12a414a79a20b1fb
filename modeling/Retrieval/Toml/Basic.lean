/-!
# TOML values

A table remembers how it came to be, since only some tables may be extended
later: one that a longer header implied, and one that dotted keys made.
-/

namespace Retrieval

namespace Toml

inductive Origin where
  /-- By a header of its own. -/
  | header
  /-- As a step of a longer header. -/
  | implied
  /-- As a step of a dotted key. -/
  | dotted
  /-- As a value between braces. -/
  | closed
  deriving DecidableEq, Repr

end Toml

inductive Toml where
  | text (content : String)
  | integer (value : Int)
  | real (value : Float)
  | boolean (value : Bool)
  /-- A date or a time, as it is written. -/
  | moment (content : String)
  | array (items : List Toml)
  | table (origin : Toml.Origin) (entries : List (String × Toml))
  /-- Tables under a repeated header, in order. -/
  | tables (items : List (List (String × Toml)))
  deriving Inhabited

namespace Toml

abbrev Entries := List (String × Toml)

/-- The entries with one key bound anew, at its old place if it had one. -/
def bound (key : String) (value : Toml) : Entries → Entries
  | [] => [(key, value)]
  | (other, old) :: rest =>
      if other = key then (key, value) :: rest else (other, old) :: bound key value rest

/-- The entries with a value under a dotted key; nothing may be bound twice. -/
def bindPath? (entries : Entries) : List String → Toml → Option Entries
  | [], _ => none
  | [key], value =>
      match entries.lookup key with
      | none => some (bound key value entries)
      | some _ => none
  | key :: next :: rest, value =>
      match entries.lookup key with
      | none => do
          let inner ← bindPath? [] (next :: rest) value
          return bound key (.table .dotted inner) entries
      | some (.table .dotted inner) => do
          let grown ← bindPath? inner (next :: rest) value
          return bound key (.table .dotted grown) entries
      | some (.table .implied inner) =>
          if rest = [] then none
          else do
            let grown ← bindPath? inner (next :: rest) value
            return bound key (.table .implied grown) entries
      | some (.tables items) =>
          if rest = [] then none
          else do
            let grown ← bindPath? (items.getLastD []) (next :: rest) value
            return bound key (.tables (items.dropLast ++ [grown])) entries
      | some _ => none

/-- The entries with those under a header changed; the steps to it may be implied. -/
def changePath? (entries : Entries) (change : Option Toml → Option Toml) :
    List String → Option Entries
  | [] => none
  | [key] => do return bound key (← change (entries.lookup key)) entries
  | key :: next :: rest =>
      match entries.lookup key with
      | none => do
          let inner ← changePath? [] change (next :: rest)
          return bound key (.table .implied inner) entries
      | some (.table .closed _) => none
      | some (.table origin inner) => do
          let grown ← changePath? inner change (next :: rest)
          return bound key (.table origin grown) entries
      | some (.tables items) => do
          let grown ← changePath? (items.getLastD []) change (next :: rest)
          return bound key (.tables (items.dropLast ++ [grown])) entries
      | some _ => none

/-- A binding of a dotted key. -/
abbrev Binding := List String × Toml

/-- The entries with some bindings added in order. -/
def bindAll? (entries : Entries) (bindings : List Binding) : Option Entries :=
  bindings.foldlM (fun grown binding => bindPath? grown binding.1 binding.2) entries

/-- A header names a table that is new or was only implied. -/
def openTable? (bindings : List Binding) : Option Toml → Option Toml
  | none => do return .table .header (← bindAll? [] bindings)
  | some (.table .implied entries) => do return .table .header (← bindAll? entries bindings)
  | some _ => none

/-- A repeated header adds a table behind those it has. -/
def appendTable? (bindings : List Binding) : Option Toml → Option Toml
  | none => do return .tables [← bindAll? [] bindings]
  | some (.tables items) => do return .tables (items ++ [← bindAll? [] bindings])
  | some _ => none

end Toml

end Retrieval
