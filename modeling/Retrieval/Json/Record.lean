import Retrieval.Json.Number
import Retrieval.Json.Text
import Retrieval.Table

/-!
# Typed reading of JSON values

Each reader takes one kind of value and refuses every other.  A record is an
object, whose unknown fields do not matter and whose known fields occur once at
most, or an array of the fields in their order.  An object taken as a plain
mapping binds a repeated key to its last value.
-/

namespace Retrieval

namespace Number

def toSingle : Number → Float32
  | .natural value => (UInt64.ofNat value).toFloat32
  | .negative magnitude => -(UInt64.ofNat magnitude).toFloat32
  | .real value => narrow value

def toDouble : Number → Float
  | .natural value => (UInt64.ofNat value).toFloat
  | .negative magnitude => -(UInt64.ofNat magnitude).toFloat
  | .real value => value

end Number

namespace Json

def text? : Json → Option String
  | .string literal => literal
  | _ => none

def boolean? : Json → Option Bool
  | .boolean value => some value
  | _ => none

def number? : Json → Option Number
  | .number numeral => numeral.value?
  | _ => none

def natural? (limit : Nat) (json : Json) : Option Nat :=
  match json.number? with
  | some (.natural value) => if value ≤ limit then some value else none
  | _ => none

def natural32? : Json → Option Nat := natural? (UInt32.size - 1)

def natural64? : Json → Option Nat := natural? (UInt64.size - 1)

def single? (json : Json) : Option Float32 := json.number?.map Number.toSingle

def double? (json : Json) : Option Float := json.number?.map Number.toDouble

def items? : Json → Option (List Json)
  | .array items => some items
  | _ => none

def list? {α : Type} (item? : Json → Option α) (json : Json) : Option (List α) := do
  (← json.items?).mapM item?

def pair? {α β : Type} (first? : Json → Option α) (second? : Json → Option β) :
    Json → Option (α × β)
  | .array [first, second] => do return (← first? first, ← second? second)
  | _ => none

/-- The fields of an object whose keys all denote text. -/
def fields? : Json → Option (List (String × Json))
  | .object fields => fields.mapM fun (key, value) => do return (← key, value)
  | _ => none

def textTable? (json : Json) : Option Properties := do
  let fields ← json.fields?
  let bindings ← fields.mapM fun (key, value) => do return (key, ← value.text?)
  return Table.ofList bindings

/-- One of some names, alone or as the only key of an object that binds it to null. -/
def choice? {α : Type} (choices : List (String × α)) : Json → Option α
  | .string (some name) => choices.lookup name
  | .object [(some name, .null)] => choices.lookup name
  | _ => none

/-- The values of a record's fields that are there. -/
structure Members where
  bindings : List (String × Json)

/-- The known fields of an object, if none of them is repeated. -/
def knownFields? (names : List String) (json : Json) : Option Members := do
  let known := (← json.fields?).filter fun field => names.contains field.1
  if (known.map (·.1)).Nodup then some ⟨known⟩ else none

/-- The fields of a record; an array gives them by place, and has no item left over. -/
def members? (names : List String) : Json → Option Members
  | .array items => if items.length ≤ names.length then some ⟨names.zip items⟩ else none
  | json => json.knownFields? names

namespace Members

variable {α : Type}

def required? (members : Members) (name : String) (read? : Json → Option α) : Option α := do
  read? (← members.bindings.lookup name)

def optional? (members : Members) (name : String) (absent : α) (read? : Json → Option α) :
    Option α :=
  match members.bindings.lookup name with
  | none => some absent
  | some value => read? value

end Members

mutual

/-- Every literal denotes text, every numeral has a value, and containers nest no deeper than
a bound. -/
def isPlain (depth : Nat) : Json → Bool
  | .null => true
  | .boolean _ => true
  | .number numeral => numeral.value?.isSome
  | .string literal => literal.isSome
  | .array items => 0 < depth && arePlain (depth - 1) items
  | .object fields => 0 < depth && arePlainFields (depth - 1) fields

def arePlain (depth : Nat) : List Json → Bool
  | [] => true
  | item :: rest => item.isPlain depth && arePlain depth rest

def arePlainFields (depth : Nat) : List (Literal × Json) → Bool
  | [] => true
  | (key, value) :: rest => key.isSome && value.isPlain depth && arePlainFields depth rest

end

/-- How deep the containers of a freely structured value may nest. -/
def depthLimit : Nat := 127

def readPlain? (text : String) : Option Json :=
  (read? text).filter (isPlain depthLimit)

/-- The value of a key; of several the last. -/
def field? (name : String) : Json → Option Json
  | .object fields => (fields.reverse.find? fun field => field.1 == some name).map (·.2)
  | _ => none

def item? (place : Nat) : Json → Option Json
  | .array items => items[place]?
  | _ => none

end Json

/-- An object that binds every key to its text. -/
def Properties.toJson (properties : Properties) : Json :=
  .record (properties.entries.map fun entry => (entry.1, .ofText entry.2))

end Retrieval
