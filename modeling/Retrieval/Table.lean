/-!
# Tables

A table binds keys to values and lists its bindings by ascending key.  Strings
ascend by code point, which is also the order of their UTF-8 bytes.  The order is
part of the type, so two tables that answer every look-up alike are equal
(`Table.ext_get?`).
-/

namespace Retrieval

variable {κ β γ : Type} [Ord κ]

/-- A list of bindings whose keys strictly ascend. -/
def Ascending (entries : List (κ × β)) : Prop :=
  entries.Pairwise fun earlier later => compare earlier.1 later.1 = .lt

structure Table (κ : Type) (β : Type) [Ord κ] where
  entries : List (κ × β)
  ascending : Ascending entries

namespace Table

/-- The list with one binding set, at its place in the order. -/
def setEntry (key : κ) (value : β) : List (κ × β) → List (κ × β)
  | [] => [(key, value)]
  | (other, bound) :: rest =>
      match compare key other with
      | .lt => (key, value) :: (other, bound) :: rest
      | .eq => (key, value) :: rest
      | .gt => (other, bound) :: setEntry key value rest

def valueOf? (key : κ) : List (κ × β) → Option β
  | [] => none
  | (other, bound) :: rest =>
      match compare key other with
      | .lt => none
      | .eq => some bound
      | .gt => valueOf? key rest

theorem mem_setEntry {key : κ} {value : β} {entries : List (κ × β)} {entry : κ × β}
    (member : entry ∈ setEntry key value entries) : entry = (key, value) ∨ entry ∈ entries := by
  induction entries with
  | nil => simpa [setEntry] using member
  | cons head rest ih =>
      obtain ⟨other, bound⟩ := head
      simp only [setEntry] at member
      split at member
      · simpa using member
      · rcases List.mem_cons.mp member with rfl | inside
        · exact .inl rfl
        · exact .inr (List.mem_cons_of_mem _ inside)
      · rcases List.mem_cons.mp member with rfl | inside
        · exact .inr List.mem_cons_self
        · exact (ih inside).imp id (List.mem_cons_of_mem _)

theorem ascending_setEntry [Std.TransOrd κ] (key : κ) (value : β) {entries : List (κ × β)}
    (sorted : Ascending entries) : Ascending (setEntry key value entries) := by
  induction entries with
  | nil => simp [setEntry, Ascending]
  | cons head rest ih =>
      obtain ⟨other, bound⟩ := head
      have later := (List.pairwise_cons.mp sorted).1
      have tail := (List.pairwise_cons.mp sorted).2
      simp only [setEntry]
      split
      · next before =>
        refine List.pairwise_cons.mpr ⟨?_, sorted⟩
        intro entry member
        rcases List.mem_cons.mp member with rfl | inside
        · exact before
        · exact Std.TransCmp.lt_trans before (later entry inside)
      · next same =>
        refine List.pairwise_cons.mpr ⟨?_, tail⟩
        intro entry inside
        exact Std.TransCmp.lt_of_eq_of_lt same (later entry inside)
      · next after =>
        refine List.pairwise_cons.mpr ⟨?_, ih tail⟩
        intro entry member
        rcases mem_setEntry member with rfl | inside
        · exact Std.OrientedCmp.lt_of_gt after
        · exact later entry inside

def empty : Table κ β := ⟨[], List.Pairwise.nil⟩

instance : EmptyCollection (Table κ β) := ⟨empty⟩

instance : Inhabited (Table κ β) := ⟨empty⟩

def get? (table : Table κ β) (key : κ) : Option β := valueOf? key table.entries

def contains (table : Table κ β) (key : κ) : Bool := (table.get? key).isSome

def size (table : Table κ β) : Nat := table.entries.length

def isEmpty (table : Table κ β) : Bool := table.entries.isEmpty

/-- The keys, ascending. -/
def keys (table : Table κ β) : List κ := table.entries.map (·.1)

def values (table : Table κ β) : List β := table.entries.map (·.2)

def insert [Std.TransOrd κ] (table : Table κ β) (key : κ) (value : β) : Table κ β :=
  ⟨setEntry key value table.entries, ascending_setEntry key value table.ascending⟩

def ensure [Std.TransOrd κ] (table : Table κ β) (key : κ) (value : β) : Table κ β :=
  if table.contains key then table else table.insert key value

/-- Of two bindings of one key the later one stays. -/
def insertMany [Std.TransOrd κ] (table : Table κ β) (bindings : List (κ × β)) : Table κ β :=
  bindings.foldl (fun grown binding => grown.insert binding.1 binding.2) table

/-- Of two bindings of one key the later one stays. -/
def ofList [Std.TransOrd κ] (bindings : List (κ × β)) : Table κ β := insertMany empty bindings

/-- The bindings of the second table added, and preferred. -/
def merge [Std.TransOrd κ] (table newer : Table κ β) : Table κ β :=
  table.insertMany newer.entries

def map (change : κ → β → γ) (table : Table κ β) : Table κ γ :=
  ⟨table.entries.map fun entry => (entry.1, change entry.1 entry.2), by
    simpa [Ascending, List.pairwise_map] using table.ascending⟩

def filter (keep : κ → β → Bool) (table : Table κ β) : Table κ β :=
  ⟨table.entries.filter fun entry => keep entry.1 entry.2, table.ascending.filter _⟩

@[simp] theorem get?_empty (key : κ) : (empty : Table κ β).get? key = none := rfl

section Lookup

variable [Std.TransOrd κ] [Std.LawfulEqOrd κ]

theorem valueOf?_eq_some_iff {key : κ} {value : β} {entries : List (κ × β)}
    (sorted : Ascending entries) : valueOf? key entries = some value ↔ (key, value) ∈ entries := by
  induction entries with
  | nil => simp [valueOf?]
  | cons head rest ih =>
      obtain ⟨other, bound⟩ := head
      have later := (List.pairwise_cons.mp sorted).1
      have tail := (List.pairwise_cons.mp sorted).2
      simp only [valueOf?]
      split
      · next before =>
        have differs : key ≠ other := by
          rintro rfl
          simp [Std.ReflCmp.compare_self] at before
        have absent : (key, value) ∉ rest := by
          intro inside
          have := Std.TransCmp.lt_trans before (later _ inside)
          simp [Std.ReflCmp.compare_self] at this
        simp [differs, absent]
      · next same =>
        have equal : key = other := Std.LawfulEqCmp.eq_of_compare same
        subst equal
        have absent : (key, value) ∉ rest := by
          intro inside
          have := later _ inside
          simp [Std.ReflCmp.compare_self] at this
        simp [absent, eq_comm]
      · next after =>
        have differs : key ≠ other := by
          rintro rfl
          simp [Std.ReflCmp.compare_self] at after
        simp [differs, ih tail]

theorem get?_eq_some_iff {table : Table κ β} {key : κ} {value : β} :
    table.get? key = some value ↔ (key, value) ∈ table.entries :=
  valueOf?_eq_some_iff table.ascending

theorem valueOf?_setEntry (key other : κ) (value : β) {entries : List (κ × β)}
    (sorted : Ascending entries) :
    valueOf? other (setEntry key value entries) =
      if compare other key = .eq then some value else valueOf? other entries := by
  induction entries with
  | nil =>
      simp only [setEntry, valueOf?]
      cases compare other key <;> simp
  | cons head rest ih =>
      obtain ⟨first, bound⟩ := head
      have later := (List.pairwise_cons.mp sorted).1
      have tail := (List.pairwise_cons.mp sorted).2
      simp only [setEntry]
      split
      · next before =>
        simp only [valueOf?]
        cases order : compare other key with
        | lt =>
            have := Std.TransCmp.lt_trans order before
            simp [this]
        | eq => simp
        | gt => simp
      · next same =>
        have equal : key = first := Std.LawfulEqCmp.eq_of_compare same
        subst equal
        simp only [valueOf?]
        cases compare other key <;> simp
      · next after =>
        simp only [valueOf?]
        cases order : compare other first with
        | lt =>
            have := Std.TransCmp.lt_trans order (Std.OrientedCmp.lt_of_gt after)
            simp [this]
        | eq =>
            have equal : other = first := Std.LawfulEqCmp.eq_of_compare order
            subst equal
            have := Std.OrientedCmp.lt_of_gt after
            simp [this]
        | gt => simpa using ih tail

theorem get?_insert [DecidableEq κ] (table : Table κ β) (key other : κ) (value : β) :
    (table.insert key value).get? other = if other = key then some value else table.get? other := by
  simp only [get?, insert, valueOf?_setEntry key other value table.ascending,
    Std.LawfulEqCmp.compare_eq_iff_eq]

@[simp] theorem get?_insert_self (table : Table κ β) (key : κ) (value : β) :
    (table.insert key value).get? key = some value := by
  simp [get?, insert, valueOf?_setEntry key key value table.ascending]

theorem get?_insert_of_ne (table : Table κ β) {key other : κ} (value : β) (differs : other ≠ key) :
    (table.insert key value).get? other = table.get? other := by
  simp [get?, insert, valueOf?_setEntry key other value table.ascending, differs]

theorem ext_get? {first second : Table κ β} (alike : ∀ key, first.get? key = second.get? key) :
    first = second := by
  have members : ∀ entry, entry ∈ first.entries ↔ entry ∈ second.entries := by
    intro entry
    have left : first.get? entry.1 = some entry.2 ↔ entry ∈ first.entries := get?_eq_some_iff
    have right : second.get? entry.1 = some entry.2 ↔ entry ∈ second.entries := get?_eq_some_iff
    rw [← left, ← right, alike]
  obtain ⟨left, leftSorted⟩ := first
  obtain ⟨right, rightSorted⟩ := second
  simp only at members
  have irreflexive : ∀ entry : κ × β, ¬ compare entry.1 entry.1 = .lt := by
    simp [Std.ReflCmp.compare_self]
  have equal : left = right := by
    clear alike
    induction left generalizing right with
    | nil =>
        cases right with
        | nil => rfl
        | cons head rest => simpa using (members head).mpr List.mem_cons_self
    | cons leftHead leftRest ih =>
        cases right with
        | nil => simpa using (members leftHead).mp List.mem_cons_self
        | cons rightHead rightRest =>
            have leftLater := (List.pairwise_cons.mp leftSorted).1
            have rightLater := (List.pairwise_cons.mp rightSorted).1
            have heads : leftHead = rightHead := by
              rcases List.mem_cons.mp ((members leftHead).mp List.mem_cons_self) with same | inside
              · exact same
              · rcases List.mem_cons.mp ((members rightHead).mpr List.mem_cons_self)
                  with same | within
                · exact same.symm
                · exact absurd (Std.TransCmp.lt_trans (rightLater _ inside) (leftLater _ within))
                    (irreflexive rightHead)
            subst heads
            have tails : leftRest = rightRest := by
              refine ih (List.pairwise_cons.mp leftSorted).2 rightRest
                (List.pairwise_cons.mp rightSorted).2 ?_
              intro entry
              constructor
              · intro inside
                rcases List.mem_cons.mp ((members entry).mp (List.mem_cons_of_mem _ inside)) with
                  rfl | within
                · exact absurd (leftLater _ inside) (irreflexive _)
                · exact within
              · intro inside
                rcases List.mem_cons.mp ((members entry).mpr (List.mem_cons_of_mem _ inside)) with
                  rfl | within
                · exact absurd (rightLater _ inside) (irreflexive _)
                · exact within
            rw [tails]
  subst equal
  rfl

end Lookup

instance [DecidableEq κ] [DecidableEq β] : DecidableEq (Table κ β) := fun first second =>
  if same : first.entries = second.entries then
    .isTrue (by cases first; cases second; simp_all)
  else
    .isFalse (by rintro rfl; exact same rfl)

end Table

/-- A set of keys, listed in ascending order. -/
abbrev KeySet (κ : Type) [Ord κ] := Table κ Unit

namespace KeySet

variable [Std.TransOrd κ]

def add (set : KeySet κ) (key : κ) : KeySet κ := set.insert key ()

def ofKeys (keys : List κ) : KeySet κ := keys.foldl add Table.empty

def toList (set : KeySet κ) : List κ := Table.keys set

end KeySet

/-- Named texts: what a graph node, a graph edge or a stored vector carries. -/
abbrev Properties := Table String String

end Retrieval
