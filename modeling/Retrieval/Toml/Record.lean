import Retrieval.Toml.Basic
import Retrieval.Json.Record

/-!
# Typed reading of TOML values

A section is a table, whose unknown keys do not matter, or an array of the
fields in their order; what an array has beyond them does not matter either.  A
date or a time counts as a table without any known key.
-/

namespace Retrieval

namespace Toml

def text? : Toml → Option String
  | .text content => some content
  | _ => none

def boolean? : Toml → Option Bool
  | .boolean value => some value
  | _ => none

def natural? : Toml → Option Nat
  | .integer value => if 0 ≤ value then some value.toNat else none
  | _ => none

def singleOfInteger (value : Int) : Float32 :=
  if 0 ≤ value then (Number.natural value.toNat).toSingle
  else (Number.negative value.natAbs).toSingle

def single? : Toml → Option Float32
  | .real value => some (narrow value)
  | .integer value => some (singleOfInteger value)
  | _ => none

structure Members where
  bindings : Entries

def members? (names : List String) : Toml → Option Members
  | .table _ entries => some ⟨entries⟩
  | .array items => some ⟨names.zip items⟩
  | .tables items => some ⟨names.zip (items.map (.table .header))⟩
  | .moment _ => some ⟨[]⟩
  | _ => none

def Members.field? {α : Type} (members : Members) (name : String) (absent : α)
    (read? : Toml → Option α) : Option α :=
  match members.bindings.lookup name with
  | none => some absent
  | some value => read? value

end Toml

end Retrieval
