import Retrieval.Proofs.Json.Number
import Retrieval.Proofs.Json.Record

/-!
# Fields in any order, and fields left out

What a record is read as does not depend on the order of its fields, and a field
that may be absent has its own value or the one for its absence, whatever other
fields are there.  A value that is kept whole before it is read is one that its
own text gives (`isPlain`).
-/

namespace Retrieval

/-- The number is read back from its numeral. -/
def RereadsDouble (value : Float) : Prop := (Json.ofDouble value).double? = some value

namespace Json

variable {α : Type}

/-- The text of the JSON value is read as a value of another type. -/
def Restores (json : Json) (ofJson? : Json → Option α) (value : α) : Prop :=
  (read? json.write).bind ofJson? = some value

theorem restores_of_readable {json : Json} {ofJson? : Json → Option α} {value : α}
    (readable : Readable json) (taken : ofJson? json = some value) :
    json.Restores ofJson? value := by
  rw [Restores, read?_write readable]
  exact taken

/-! ## Fields that are there -/

section Fields

variable {names deleted : List String} {name : String} {fields kept : List (String × Json)}

/-- Some fields of a record without those of the given names. -/
def without (deleted : List String) (fields : List (String × Json)) : List (String × Json) :=
  fields.filter fun field => !deleted.contains field.1

/-- Fields that an object has without those of the given names, in whatever order they stand. -/
def LeftOf (json : Json) (deleted : List String) (kept : List (String × Json)) : Prop :=
  ∃ fields, json.fields? = some fields ∧ kept.Perm (without deleted fields)

theorem leftOf_record_iff : (record fields).LeftOf deleted kept ↔
    kept.Perm (without deleted fields) := by
  rw [LeftOf, fields?_record]
  exact ⟨fun ⟨_, same, left⟩ => Option.some.inj same ▸ left, fun left => ⟨_, rfl, left⟩⟩

theorem leftOf_nil : (record fields).LeftOf [] fields := by
  have whole : without [] fields = fields := List.filter_eq_self.mpr fun _ _ => rfl
  rw [leftOf_record_iff, whole]

theorem lookup_eq_some_iff_mem {value : Json} (distinct : (fields.map (·.1)).Nodup) :
    fields.lookup name = some value ↔ (name, value) ∈ fields := by
  rw [List.lookup_eq_some_iff]
  constructor
  · rintro ⟨before, behind, rfl, -⟩
    exact List.mem_append_right _ List.mem_cons_self
  · intro member
    obtain ⟨before, behind, rfl⟩ := List.append_of_mem member
    refine ⟨before, behind, rfl, fun field inside => bne_iff_ne.mpr ?_⟩
    rintro rfl
    rw [List.map_append, List.nodup_append] at distinct
    exact distinct.2.2 _ (List.mem_map_of_mem inside) _ List.mem_cons_self rfl

/-- What is left of a record whose fields have different names. -/
structure Leaves (fields : List (String × Json)) (deleted : List String)
    (kept : List (String × Json)) : Prop where
  left : (record fields).LeftOf deleted kept
  distinct : (fields.map (·.1)).Nodup

namespace Leaves

theorem same (leaves : Leaves fields deleted kept) : kept.Perm (without deleted fields) :=
  leftOf_record_iff.mp leaves.left

theorem nodup (leaves : Leaves fields deleted kept) : (kept.map (·.1)).Nodup :=
  (leaves.same.map _).nodup_iff.mpr (leaves.distinct.sublist (List.filter_sublist.map _))

theorem mem_iff (leaves : Leaves fields deleted kept) {field : String × Json} :
    field ∈ kept ↔ field ∈ fields ∧ field.1 ∉ deleted := by
  rw [leaves.same.mem_iff, without, List.mem_filter, Bool.not_eq_true', ← Bool.not_eq_true,
    List.contains_iff_mem]

theorem lookup_eq (leaves : Leaves fields deleted kept) (name : String) :
    kept.lookup name = if name ∈ deleted then none else fields.lookup name := by
  refine Option.ext fun value => ?_
  rw [lookup_eq_some_iff_mem leaves.nodup, leaves.mem_iff]
  by_cases gone : name ∈ deleted
  · rw [if_pos gone]
    exact iff_of_false (fun there => there.2 gone) (Option.some_ne_none value).symm
  · rw [if_neg gone, lookup_eq_some_iff_mem leaves.distinct]
    exact and_iff_left gone

theorem members? (leaves : Leaves fields deleted kept)
    (known : ∀ field ∈ fields, field.1 ∈ names) :
    (record kept).members? names = some ⟨kept⟩ :=
  members?_record (fun field member => known field (leaves.mem_iff.mp member).1) leaves.nodup

/-- A field that is gone has the value for its absence, and every other one its own. -/
theorem optional? (leaves : Leaves fields deleted kept) {json : Json} {value : α} (absent : α)
    {read? : Json → Option α} (found : fields.lookup name = some json)
    (taken : read? json = some value) :
    (Members.mk kept).optional? name absent read? =
      some (if name ∈ deleted then absent else value) := by
  rw [Members.optional?, leaves.lookup_eq]
  by_cases gone : name ∈ deleted
  · rw [if_pos gone, if_pos gone]
  · rw [if_neg gone, if_neg gone, found]
    exact taken

theorem bind_optional? (leaves : Leaves fields deleted kept) {β : Type} {json : Json} {value : α}
    {absent : α} {read? : Json → Option α} {next : α → Option β} {result : β}
    (found : fields.lookup name = some json) (taken : read? json = some value)
    (rest : next (if name ∈ deleted then absent else value) = some result) :
    ((Members.mk kept).optional? name absent read?).bind next = some result :=
  Option.bind_eq_some_iff.mpr ⟨_, leaves.optional? absent found taken, rest⟩

theorem readable (leaves : Leaves fields deleted kept)
    (inside : ∀ field ∈ fields, Readable field.2) : Readable (record kept) :=
  readable_record fun field member => inside field (leaves.mem_iff.mp member).1

end Leaves

end Fields

/-! ## Values kept whole -/

theorem arePlain_iff {depth : Nat} {items : List Json} :
    arePlain depth items = true ↔ ∀ item ∈ items, item.isPlain depth = true := by
  induction items with
  | nil => exact iff_of_true rfl (by simp)
  | cons first rest ih => rw [arePlain, Bool.and_eq_true, ih, List.forall_mem_cons]

theorem isPlain_ofText (depth : Nat) (text : String) : (ofText text).isPlain depth = true := by
  simp [ofText, isPlain]

theorem isPlain_ofNat {number : Nat} (fits : number ≤ Numeral.largest) (depth : Nat) :
    (ofNat number).isPlain depth = true := by
  simp [ofNat, isPlain, Numeral.value?_ofNat fits]

theorem isPlain_ofDouble {value : Float} (rereads : RereadsDouble value) (depth : Nat) :
    (ofDouble value).isPlain depth = true := by
  obtain ⟨number, taken, -⟩ := Option.map_eq_some_iff.mp rereads
  cases written : ofDouble value with
  | number numeral =>
      rw [written] at taken
      rw [isPlain]
      exact Option.isSome_of_eq_some taken
  | _ =>
      rw [written] at taken
      cases taken

theorem isPlain_list {β : Type} {depth : Nat} {write : β → Json} {items : List β}
    (plain : ∀ item ∈ items, (write item).isPlain depth = true) :
    (Json.array (items.map write)).isPlain (depth + 1) = true := by
  rw [isPlain, Bool.and_eq_true, decide_eq_true_eq]
  exact ⟨Nat.succ_pos depth, arePlain_iff.mpr (List.forall_mem_map.mpr plain)⟩

end Json

end Retrieval
