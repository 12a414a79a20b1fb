import Retrieval.Proofs.Index.Batch
import Retrieval.Proofs.Remote.Service
import Retrieval.Remote.Embedder

/-!
# The order of a remote answer

The embeddings of an answer are taken in the order of its items, and the indices
of the items are not looked at.  So the embeddings stand by index, and the records
of a batch are stored with those of their own texts, exactly when every place
holds what the item with its index holds (`InPlace`).  Where the embeddings differ
from each other, that is when the items come by ascending index.
-/

namespace Retrieval

namespace Embedder

open Http (Network Reply)

/-- The index that an item of an answer carries. -/
def indexOf? (item : Json) : Option Nat := (item.field? "index").bind Json.natural64?

/-- The items of an answer to some texts: each with an embedding, and with the places of the texts
as indices, each of them once. -/
structure Answers (answer : Json) (count : Nat) (items : List Json) : Prop where
  data : answer.field? "data" = some (.array items)
  held : ∀ item ∈ items, ∃ embedding, ofItem? item = some embedding
  indexed : (items.map indexOf?).Perm ((List.range count).map some)

def Ascend (count : Nat) (items : List Json) : Prop :=
  items.map indexOf? = (List.range count).map some

/-- The embedding of every item stands at its index. -/
def ByIndex (items : List Json) (embeddings : List Embedding) : Prop :=
  ∀ item ∈ items, ∀ place, indexOf? item = some place → embeddings[place]? = ofItem? item

/-- The item at every place holds the embedding of the item with that index. -/
def InPlace (items : List Json) : Prop :=
  ∀ item ∈ items, ∀ place, indexOf? item = some place →
    items[place]?.bind ofItem? = ofItem? item

/-- Every record of a batch is stored with the embedding of the item that has the index of its
text. -/
def StoresOwn (after : Index Network) (batch : Table String Properties) (items : List Json) :
    Prop :=
  ∀ id record, batch.get? id = some record →
    ∀ item ∈ items, indexOf? item = some (batch.keys.idxOf id) →
      ∃ stored, after.records.get? id = some stored ∧ ofItem? item = some stored.embedding

section Items

variable {answer : Json} {count : Nat} {items : List Json}

theorem map_some_filterMap (held : ∀ item ∈ items, ∃ embedding, ofItem? item = some embedding) :
    (items.filterMap ofItem?).map some = items.map ofItem? := by
  induction items with
  | nil => rfl
  | cons item rest ih =>
      obtain ⟨embedding, found⟩ := held item List.mem_cons_self
      have others := ih fun other member => held other (List.mem_cons_of_mem _ member)
      rw [List.filterMap_cons_some found, List.map_cons, List.map_cons, others, found]

theorem inPlace_of_ascend (ascends : Ascend count items) : InPlace items := by
  intro item member place index
  obtain ⟨own, listed, rfl⟩ := List.getElem_of_mem member
  have numbered := congrArg (·[own]?) ascends
  simp only [List.getElem?_map, List.getElem?_eq_getElem listed, Option.map_some, index] at numbered
  obtain ⟨other, found, same⟩ := Option.map_eq_some_iff.mp numbered.symm
  obtain ⟨inside, rfl⟩ := List.getElem?_eq_some_iff.mp found
  rw [List.getElem_range, Option.some.injEq] at same
  rw [← same, List.getElem?_eq_getElem listed]
  rfl

namespace Answers

theorem length_eq (answers : Answers answer count items) : items.length = count := by
  have same := answers.indexed.length_eq
  rwa [List.length_map, List.length_map, List.length_range] at same

theorem ofAnswer_eq (answers : Answers answer count items) :
    ofAnswer answer = items.filterMap ofItem? := by
  rw [ofAnswer, answers.data]
  rfl

theorem exists_index (answers : Answers answer count items) {item : Json} (member : item ∈ items) :
    ∃ place < count, indexOf? item = some place := by
  have listed := answers.indexed.subset (List.mem_map_of_mem member)
  obtain ⟨place, inside, same⟩ := List.mem_map.mp listed
  exact ⟨place, List.mem_range.mp inside, same.symm⟩

theorem index_lt (answers : Answers answer count items) {item : Json} (member : item ∈ items)
    {place : Nat} (index : indexOf? item = some place) : place < count := by
  obtain ⟨other, inside, same⟩ := answers.exists_index member
  rw [index] at same
  exact Option.some.inj same ▸ inside

theorem length_filterMap (answers : Answers answer count items) :
    (items.filterMap ofItem?).length = count := by
  have same := congrArg List.length (map_some_filterMap answers.held)
  rw [List.length_map, List.length_map] at same
  exact same.trans answers.length_eq

theorem getElem?_filterMap (answers : Answers answer count items) (place : Nat) :
    (items.filterMap ofItem?)[place]? = items[place]?.bind ofItem? := by
  have same := congrArg (·[place]?) (map_some_filterMap answers.held)
  simp only [List.getElem?_map] at same
  cases listed : items[place]? with
  | none =>
      rw [listed] at same
      exact Option.map_eq_none_iff.mp same
  | some item =>
      rw [listed] at same
      obtain ⟨embedding, found, held⟩ := Option.map_eq_some_iff.mp same
      rw [found, Option.bind_some, held]

theorem byIndex_iff (answers : Answers answer count items) :
    ByIndex items (items.filterMap ofItem?) ↔ InPlace items := by
  simp only [ByIndex, InPlace, answers.getElem?_filterMap]

/-- Among different embeddings each one has one place, so that all indices are places. -/
theorem ascend_of_inPlace (answers : Answers answer count items)
    (distinct : (items.map ofItem?).Nodup) (inPlace : InPlace items) : Ascend count items := by
  apply List.ext_getElem
  · rw [List.length_map, List.length_map, List.length_range, answers.length_eq]
  · intro place listed counted
    rw [List.length_map] at listed
    rw [List.getElem_map, List.getElem_map, List.getElem_range]
    obtain ⟨other, inside, index⟩ := answers.exists_index (List.getElem_mem listed)
    have known : other < items.length := answers.length_eq ▸ inside
    have same := inPlace _ (List.getElem_mem listed) other index
    rw [List.getElem?_eq_getElem known, Option.bind_some] at same
    have first : other < (items.map ofItem?).length := by rwa [List.length_map]
    have second : place < (items.map ofItem?).length := by rwa [List.length_map]
    have held : (items.map ofItem?)[other] = (items.map ofItem?)[place] := by
      rw [List.getElem_map, List.getElem_map, same]
    rw [index, distinct.getElem_inj_iff.mp held]

/-- A record of the batch is stored with what the item at the place of its identifier holds. -/
theorem storesOwn_iff {index grown : Index Network} {batch : Table String Properties}
    (answers : Answers answer batch.size items)
    (accepted : index.accept batch (items.filterMap ofItem?) = .ok grown) :
    StoresOwn grown batch items ↔ InPlace items := by
  have stored (id : String) (record : Properties) (given : batch.get? id = some record) :
      ∃ stored, grown.records.get? id = some stored ∧
        items[batch.keys.idxOf id]?.bind ofItem? = some stored.embedding := by
    obtain ⟨vector, found, placed, -⟩ :=
      (Index.placed_of_accept accepted).own answers.length_filterMap id record given
    rw [answers.getElem?_filterMap] at placed
    exact ⟨vector, found, placed⟩
  constructor
  · intro stores item member place index
    have inside : place < batch.keys.length :=
      batch.length_keys ▸ answers.index_lt member index
    have own : batch.keys.idxOf batch.keys[place] = place :=
      batch.nodup_keys.idxOf_getElem place inside
    obtain ⟨record, given⟩ := Table.contains_iff.mp
      (Table.mem_keys.mp (List.getElem_mem inside))
    obtain ⟨vector, found, placed⟩ := stored _ record given
    obtain ⟨other, kept, held⟩ := stores _ record given item member (own.symm ▸ index)
    obtain rfl := Option.some.inj (found.symm.trans kept)
    rw [own] at placed
    exact placed.trans held.symm
  · intro inPlace id record given item member index
    obtain ⟨vector, found, placed⟩ := stored id record given
    exact ⟨vector, found, (inPlace item member _ index).symm.trans placed⟩

end Answers

end Items

section Remote

variable {service : Service} {model : String} {dimension tokenLimit : Nat} {texts : List String}
  {network after : Network} {answer : Json} {items : List Json}

/-- An answer to all texts is taken as it is listed. -/
theorem embed_remote
    (answered : service.call (requestBody model texts) network = (.ok answer, after))
    (answers : Answers answer texts.length items) :
    ((remote service model dimension tokenLimit).embed texts network).1 =
      .ok (items.filterMap ofItem?) := by
  by_cases none : texts = []
  · have empty : items = [] := by
      rw [← List.length_eq_zero_iff, answers.length_eq, none, List.length_nil]
    rw [none, empty]
    rfl
  · have some : ¬ texts.isEmpty = true := mt List.isEmpty_iff.mp none
    simp only [remote, if_neg some, answered, Except.map, answers.ofAnswer_eq]

/-- A remote embedder gives one embedding for each text, and at every place the one of the item at
that place of the answer.  The embeddings stand by index exactly when every item stands in place,
and so it is with the records of a batch and the embeddings of their own texts.  Items that come
by ascending index are in place; if their embeddings all differ, no others are. -/
theorem remote_embeds_by_index_iff
    (answered : service.call (requestBody model texts) network = (.ok answer, after))
    (answers : Answers answer texts.length items) :
    (∃ embeddings,
      ((remote service model dimension tokenLimit).embed texts network).1 = .ok embeddings ∧
        embeddings.length = texts.length ∧
        (∀ place : Nat, embeddings[place]? = items[place]?.bind ofItem?) ∧
        (ByIndex items embeddings ↔ InPlace items)) ∧
      (∀ (index : Index Network) (batch : Table String Properties) (files : FileStore),
        index.embedder = remote service model dimension tokenLimit → batch ≠ Table.empty →
          Index.contents batch = texts → (index.upsert batch ⟨files, network⟩).1 = .ok () →
            (StoresOwn (index.upsert batch ⟨files, network⟩).2.1 batch items ↔ InPlace items)) ∧
      (Ascend texts.length items → InPlace items) ∧
      ((items.map ofItem?).Nodup → (InPlace items ↔ Ascend texts.length items)) := by
  refine ⟨⟨_, embed_remote answered answers, answers.length_filterMap,
    answers.getElem?_filterMap, answers.byIndex_iff⟩, ?_, inPlace_of_ascend, ?_⟩
  · intro index batch files embedder filled contents succeeded
    have replied : index.replyTo batch ⟨files, network⟩ = .ok (items.filterMap ofItem?) := by
      rw [Index.replyTo, embedder, contents]
      exact embed_remote answered answers
    rcases index.taken_or_refused filled ⟨files, network⟩ with
      ⟨reply, other, accepted⟩ | ⟨failure, failed, -, -⟩
    · obtain rfl := Except.ok.inj (replied.symm.trans other)
      rw [← contents, Index.length_contents] at answers
      exact answers.storesOwn_iff accepted
    · cases succeeded.symm.trans failed
  · exact fun distinct => ⟨answers.ascend_of_inPlace distinct, inPlace_of_ascend⟩

end Remote

/-! ## An answer in descending order -/

/-- An item with one embedding of one element, which is its index. -/
def numbered (place : Nat) : Json :=
  .record [("index", .ofNat place), ("embedding", .array [.ofNat place])]

def reversed : Json := .record [("data", .array [numbered 1, numbered 0])]

def reversedReply : Reply := ⟨200, [("Content-Type", "application/json")], reversed.write⟩

/-- A network that gives this reply once. -/
def answering : Network := ⟨[some reversedReply], []⟩

theorem readable_numbered (place : Nat) : Json.Readable (numbered place) := by
  refine Json.readable_record (List.forall_mem_cons.mpr ⟨Json.readable_ofNat place, ?_⟩)
  refine List.forall_mem_singleton.mpr (Json.Readable.array ?_)
  exact List.forall_mem_singleton.mpr (Json.readable_ofNat place)

theorem readPlain?_reversed : Json.readPlain? reversed.write = some reversed := by
  have readable : Json.Readable reversed := by
    refine Json.readable_record (List.forall_mem_singleton.mpr (Json.Readable.array ?_))
    exact List.forall_mem_cons.mpr
      ⟨readable_numbered 1, List.forall_mem_singleton.mpr (readable_numbered 0)⟩
  have plain : reversed.isPlain Json.depthLimit = true := by decide +kernel
  rw [Json.readPlain?, Json.read?_write readable, Option.filter_some, if_pos plain]

theorem call_reversed (body : Json) :
    Service.loopback.call body answering =
      (.ok reversed, ⟨[], [Service.loopbackRequest body]⟩) := by
  have taken : reversedReply.json Service.loopback.address = .ok reversed := by
    have streamed : reversedReply.isStreamed = false := by decide +kernel
    have chunked : reversedReply.isChunked = false := by decide +kernel
    have read : Json.readPlain? reversedReply.body = some reversed := readPlain?_reversed
    rw [Reply.json, streamed, chunked, read]
    rfl
  rw [answering, Service.call_of_reach (Service.to?_loopback body)
    (@Service.reach_loopback body reversedReply rfl [] []), taken]
  rfl

theorem answers_reversed : Answers reversed 2 [numbered 1, numbered 0] where
  data := rfl
  held := List.forall_mem_cons.mpr ⟨⟨_, rfl⟩, List.forall_mem_singleton.mpr ⟨_, rfl⟩⟩
  indexed := by
    have first : indexOf? (numbered 1) = some 1 := by decide +kernel
    have second : indexOf? (numbered 0) = some 0 := by decide +kernel
    rw [List.map_cons, List.map_cons, first, second]
    decide

theorem not_inPlace_reversed : ¬ InPlace [numbered 1, numbered 0] := by
  intro inPlace
  have same := inPlace (numbered 1) List.mem_cons_self 1 (by decide +kernel)
  revert same
  decide +kernel

def shelf : Index Network := Index.fresh "shelf" {} (remote Service.loopback "m" 1 8)

def twoTexts : Table String Properties :=
  Table.ofList
    [("a", Table.ofList [("content", "first")]), ("b", Table.ofList [("content", "second")])]

theorem upsert_shelf : (shelf.upsert twoTexts ⟨FileStore.empty, answering⟩).1 = .ok () := by
  have replied : shelf.replyTo twoTexts ⟨FileStore.empty, answering⟩ =
      .ok ([numbered 1, numbered 0].filterMap ofItem?) :=
    @embed_remote _ "m" 1 8 ["first", "second"] _ _ _ _ (call_reversed _) answers_reversed
  obtain ⟨grown, fits⟩ : ∃ grown,
      shelf.accept twoTexts ([numbered 1, numbered 0].filterMap ofItem?) = .ok grown := ⟨_, rfl⟩
  have ending := shelf.upserted twoTexts ⟨FileStore.empty, answering⟩
  generalize (shelf.upsert twoTexts ⟨FileStore.empty, answering⟩).1 = outcome,
    (shelf.upsert twoTexts ⟨FileStore.empty, answering⟩).2.1 = after,
    (shelf.upsert twoTexts ⟨FileStore.empty, answering⟩).2.2.files = files at ending ⊢
  cases ending with
  | nothing => rfl
  | refused _ refusal =>
      rw [replied] at refusal
      cases fits.symm.trans refusal
  | kept => rfl
  | saved _ _ _ saves => cases saves

/-- In descending order the embeddings do not stand by index, and the records of a batch are stored
with each other's. -/
theorem remote_embeds_by_index_iff_of_reversed :
    (∃ embeddings,
      ((remote Service.loopback "m" 1 8).embed ["first", "second"] answering).1 =
        .ok embeddings ∧ ¬ ByIndex [numbered 1, numbered 0] embeddings) ∧
      (shelf.upsert twoTexts ⟨FileStore.empty, answering⟩).1 = .ok () ∧
      ¬ StoresOwn (shelf.upsert twoTexts ⟨FileStore.empty, answering⟩).2.1
        twoTexts [numbered 1, numbered 0] := by
  obtain ⟨⟨embeddings, given, -, -, byIndex⟩, stored, -⟩ :=
    @remote_embeds_by_index_iff Service.loopback "m" 1 8 ["first", "second"] _ _ _ _
      (call_reversed _) answers_reversed
  exact ⟨⟨embeddings, given, mt byIndex.mp not_inPlace_reversed⟩, upsert_shelf,
    mt (stored shelf twoTexts _ rfl (by decide) rfl upsert_shelf).mp not_inPlace_reversed⟩

/-- Not every answer to all texts has its embeddings taken by index. -/
theorem remote_answer_may_be_misplaced :
    ¬ ∀ (service : Service) (model : String) (dimension tokenLimit : Nat) (texts : List String)
        (network after : Network) (answer : Json) (items : List Json) (embeddings : List Embedding),
      service.call (requestBody model texts) network = (.ok answer, after) →
      Answers answer texts.length items →
      ((remote service model dimension tokenLimit).embed texts network).1 = .ok embeddings →
      ByIndex items embeddings := by
  intro byIndex
  have answered := call_reversed (requestBody "m" ["first", "second"])
  have given := @embed_remote _ "m" 1 8 _ _ _ _ _ answered answers_reversed
  have placed := byIndex _ _ _ _ _ _ _ _ _ _ answered answers_reversed given
  exact not_inPlace_reversed (answers_reversed.byIndex_iff.mp placed)

end Embedder

end Retrieval
