import Retrieval.Json.Record
import Retrieval.Proofs.Json.Text
import Retrieval.Proofs.Table.Order

/-!
# Records and lists read back

A record is read as its fields, a list as its items and a table of texts as
itself, as long as each member is read as what was written.
-/

namespace Retrieval

namespace Json

@[simp] theorem text?_ofText (text : String) : (ofText text).text? = some text := rfl

theorem readable_ofText (text : String) : Readable (ofText text) := .string text

@[simp] theorem fields?_record (fields : List (String × Json)) :
    (record fields).fields? = some fields := by
  change (fields.map fun field => ((some field.1 : Literal), field.2)).mapM _ = _
  induction fields with
  | nil => rfl
  | cons field rest ih =>
      rw [List.map_cons, List.mapM_cons, ih]
      rfl

/-- Of the fields of a record those with known names are taken, if none of them stands twice. -/
theorem knownFields?_record {names : List String} {fields known : List (String × Json)}
    (kept : (fields.filter fun field => names.contains field.1) = known)
    (distinct : (known.map (·.1)).Nodup) : (record fields).knownFields? names = some ⟨known⟩ := by
  rw [knownFields?, fields?_record]
  change (if ((fields.filter fun field => names.contains field.1).map (·.1)).Nodup then
    some (Members.mk (fields.filter fun field => names.contains field.1)) else none) = _
  rw [kept, if_pos distinct]

theorem members?_record {names : List String} {fields : List (String × Json)}
    (known : ∀ field ∈ fields, field.1 ∈ names) (distinct : (fields.map (·.1)).Nodup) :
    (record fields).members? names = some ⟨fields⟩ :=
  knownFields?_record (List.filter_eq_self.mpr fun field member =>
    List.contains_iff_mem.mpr (known field member)) distinct

theorem members?_of_names {names : List String} {fields : List (String × Json)}
    (named : fields.map (·.1) = names) (distinct : names.Nodup) :
    (record fields).members? names = some ⟨fields⟩ :=
  members?_record (fun _ inside => named ▸ List.mem_map_of_mem inside) (named ▸ distinct)

section List

variable {α β : Type} {item? : β → Option α} {write : α → β} {items : List α}

theorem mapM_of_reads {reread? : α → Option α} (reads : ∀ item ∈ items, reread? item = some item) :
    items.mapM reread? = some items := by
  induction items with
  | nil => rfl
  | cons first rest ih =>
      rw [List.mapM_cons, reads first List.mem_cons_self,
        ih fun item member => reads item (List.mem_cons_of_mem _ member)]
      rfl

theorem isSome_mapM (item? : β → Option α) (written : List β) :
    (written.mapM item?).isSome = written.all fun item => (item? item).isSome := by
  induction written with
  | nil => rfl
  | cons first rest ih =>
      rw [List.mapM_cons, List.all_cons, ← ih]
      cases item? first with
      | none => rfl
      | some item => cases rest.mapM item? <;> rfl

theorem map_of_mapM {γ : Type} {key : β → γ} {keyOf : α → γ} {written : List β}
    (kept : ∀ item result, item? item = some result → keyOf result = key item)
    (read : written.mapM item? = some items) : items.map keyOf = written.map key := by
  induction written generalizing items with
  | nil =>
      cases read
      rfl
  | cons first rest ih =>
      rw [List.mapM_cons] at read
      cases head : item? first with
      | none =>
          rw [head] at read
          cases read
      | some item =>
          cases tail : rest.mapM item? with
          | none =>
              rw [head, tail] at read
              cases read
          | some others =>
              rw [head, tail] at read
              cases read
              rw [List.map_cons, List.map_cons, kept first item head, ih tail]

theorem list?_map (item? : Json → Option α) (write : α → Json) (items : List α) :
    list? item? (.array (items.map write)) = items.mapM fun item => item? (write item) :=
  List.mapM_map

theorem readable_list {write : α → Json} (readable : ∀ item ∈ items, Readable (write item)) :
    Readable (.array (items.map write)) := by
  refine .array ?_
  intro json member
  obtain ⟨item, inside, rfl⟩ := List.mem_map.mp member
  exact readable item inside

theorem list?_texts (texts : List String) :
    list? text? (.array (texts.map ofText)) = some texts :=
  (list?_map text? ofText texts).trans (mapM_of_reads fun text _ => text?_ofText text)

theorem readable_texts (texts : List String) : Readable (.array (texts.map ofText)) :=
  readable_list fun text _ => readable_ofText text

end List

/-! ## Tables of texts -/

/-- An object that binds every key to its text, in the order of the list. -/
def ofTexts (order : List (String × String)) : Json :=
  record (order.map fun entry => (entry.1, ofText entry.2))

theorem textTable?_ofTexts {properties : Properties} {order : List (String × String)}
    (same : order.Perm properties.entries) : textTable? (ofTexts order) = some properties := by
  let binding? (field : String × Json) : Option (String × String) :=
    do return (field.1, ← field.2.text?)
  let field (entry : String × String) : String × Json := (entry.1, ofText entry.2)
  have texts : (order.map field).mapM binding? = some order := by
    rw [List.mapM_map]
    exact mapM_of_reads fun entry _ => rfl
  rw [textTable?, ofTexts, fields?_record]
  change ((order.map field).mapM binding?).bind _ = _
  rw [texts]
  exact congrArg some (Table.ofList_of_perm same)

theorem textTable?_toJson (properties : Properties) :
    textTable? properties.toJson = some properties :=
  textTable?_ofTexts (.refl _)

theorem readable_ofTexts (order : List (String × String)) : Readable (ofTexts order) := by
  refine readable_record fun field member => ?_
  obtain ⟨entry, -, rfl⟩ := List.mem_map.mp member
  exact readable_ofText entry.2

theorem readable_properties (properties : Properties) : Readable properties.toJson :=
  readable_ofTexts properties.entries

end Json

end Retrieval
