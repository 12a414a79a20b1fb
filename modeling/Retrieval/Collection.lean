import Retrieval.Table

/-!
# Collections

A collection is a named table of records.  A record that is not there is an
answer, never a failure.
-/

namespace Retrieval

structure Collection (β : Type) where
  name : String
  records : Table String β

namespace Collection

variable {β : Type}

def empty (name : String) : Collection β := ⟨name, Table.empty⟩

def size (collection : Collection β) : Nat := collection.records.size

def isEmpty (collection : Collection β) : Bool := collection.records.isEmpty

/-- The identifiers, ascending. -/
def ids (collection : Collection β) : List String := collection.records.keys

def get? (collection : Collection β) (id : String) : Option β := collection.records.get? id

/-- One answer for each identifier, in the order asked. -/
def getMany (collection : Collection β) (ids : List String) : List (Option β) :=
  ids.map collection.get?

/-- Those of some identifiers that have no record. -/
def missing (collection : Collection β) (ids : List String) : List String :=
  ids.filter fun id => !collection.records.contains id

/-- The records of a table added, in the place of those they share an identifier with. -/
def upsert (collection : Collection β) (newer : Table String β) : Collection β :=
  { collection with records := collection.records.merge newer }

def clear (collection : Collection β) : Collection β := empty collection.name

end Collection

end Retrieval
