import Mathlib.Data.List.Nodup
import Retrieval.Index.Search
import Retrieval.Proofs.Embedding
import Retrieval.Proofs.Number.Order
import Retrieval.Proofs.Index.Upsert
import Retrieval.Proofs.Sorting.Stable

/-!
# The order of matches

Where all scores are numbers, `precedes` is a total preorder that tells matches
with different identifiers apart (`precedes_eq_before`).  Then the best matches
come first, and they do not depend on the order in which the records are
visited.  A cosine that is no number ties with every other, and the order by
identifier then carries worse matches before better ones.
-/

namespace Retrieval

open Single (level)

namespace Match

/-- The order of matches by the levels of their scores, whether these are numbers or not. -/
def before (first second : Match) : Bool :=
  decide (level second.score < level first.score ∨
    level first.score = level second.score ∧ first.id ≤ second.id)

theorem before_iff {first second : Match} :
    first.before second = true ↔ level second.score < level first.score ∨
      level first.score = level second.score ∧ first.id ≤ second.id :=
  decide_eq_true_iff

theorem before_trans (first second third : Match) (left : first.before second = true)
    (right : second.before third = true) : first.before third = true := by
  rw [before_iff] at left right ⊢
  rcases left with above | ⟨same, earlier⟩
  · rcases right with higher | ⟨equal, -⟩
    · exact .inl (higher.trans above)
    · exact .inl (equal ▸ above)
  · rcases right with higher | ⟨equal, later⟩
    · exact .inl (same ▸ higher)
    · exact .inr ⟨same.trans equal, String.le_trans earlier later⟩

theorem before_total (first second : Match) :
    (first.before second || second.before first) = true := by
  rw [Bool.or_eq_true, before_iff, before_iff]
  rcases lt_trichotomy (level first.score) (level second.score) with below | same | above
  · exact .inr (.inl below)
  · rcases String.le_total first.id second.id with earlier | later
    · exact .inl (.inr ⟨same, earlier⟩)
    · exact .inr (.inr ⟨same.symm, later⟩)
  · exact .inl (.inl above)

theorem id_eq_of_before {first second : Match} (left : first.before second = true)
    (right : second.before first = true) : first.id = second.id := by
  rw [before_iff] at left right
  rcases left with above | ⟨same, earlier⟩
  · rcases right with higher | ⟨equal, -⟩
    · exact absurd above higher.not_gt
    · exact absurd equal above.ne
  · rcases right with higher | ⟨-, later⟩
    · exact absurd same higher.ne
    · exact String.le_antisymm earlier later

section Numbers

variable {first second : Match} {candidates : List Match}

theorem precedes_eq_before (left : first.score.isNaN = false)
    (right : second.score.isNaN = false) : first.precedes second = first.before second := by
  unfold precedes before
  simp only [Single.lt_iff_level left right, Single.lt_iff_level right left]
  rcases lt_trichotomy (level first.score) (level second.score) with below | same | above
  · simp [below, below.not_gt, below.ne]
  · simp [same]
  · simp [above]

theorem not_lt_of_before (left : first.score.isNaN = false) (right : second.score.isNaN = false)
    (earlier : first.before second = true) : ¬ first.score < second.score := by
  rw [Single.lt_iff_level left right]
  rcases before_iff.mp earlier with above | ⟨same, -⟩
  · exact above.not_gt
  · exact same.not_lt

theorem exists_stable? (numbers : ∀ found ∈ candidates, found.score.isNaN = false) :
    ∃ sorted, Sorting.stable? precedes candidates = some sorted ∧ sorted.Perm candidates ∧
      sorted.Pairwise fun earlier later => earlier.before later = true := by
  have agree (first : Match) (left : first ∈ candidates) (second : Match)
      (right : second ∈ candidates) : first.precedes second = first.before second :=
    precedes_eq_before (numbers first left) (numbers second right)
  have consistent : Sorting.Consistent precedes candidates := by
    constructor
    case total =>
      intro first left second right notBefore
      have either := before_total first second
      rw [← agree first left second right, ← agree second right first left] at either
      rwa [notBefore, Bool.false_or] at either
    case trans =>
      intro first left second between third right before behind
      rw [agree first left second between] at before
      rw [agree second between third right] at behind
      rw [agree first left third right]
      exact before_trans first second third before behind
  have sorts := Sorting.stable?_sorts precedes
  obtain ⟨sorted, done, ordered⟩ := sorts.inOrder consistent
  have same := sorts.perm done
  refine ⟨sorted, done, same, ordered.imp_of_mem fun left right earlier => ?_⟩
  rwa [← agree _ (same.mem_iff.mp left) _ (same.mem_iff.mp right)]

/-- Matches with different identifiers have one order, in whatever order they come. -/
theorem sorted_eq_of_perm {sorted others : List Match} (same : sorted.Perm others)
    (distinct : (sorted.map Match.id).Nodup)
    (ordered : sorted.Pairwise fun earlier later => earlier.before later = true)
    (otherOrdered : others.Pairwise fun earlier later => earlier.before later = true) :
    sorted = others := by
  refine same.eq_of_pairwise ?_ ordered otherOrdered
  intro first second left right earlier later
  exact List.inj_on_of_nodup_map distinct left (same.mem_iff.mpr right)
    (id_eq_of_before earlier later)

end Numbers

/-- Matches picked from candidates, the best first, and none below a candidate left out. -/
structure Best (candidates found : List Match) : Prop where
  picked : ∀ kept ∈ found, kept ∈ candidates
  falling : found.Pairwise fun earlier later => ¬ earlier.score < later.score
  highest : ∀ kept ∈ found, ∀ other ∈ candidates, other ∉ found → ¬ kept.score < other.score

theorem best_take {candidates sorted : List Match}
    (numbers : ∀ found ∈ candidates, found.score.isNaN = false) (same : sorted.Perm candidates)
    (ordered : sorted.Pairwise fun earlier later => earlier.before later = true) (limit : Nat) :
    Best candidates (sorted.take limit) := by
  have number : ∀ found ∈ sorted, found.score.isNaN = false :=
    fun found member => numbers found (same.mem_iff.mp member)
  have falling : sorted.Pairwise fun earlier later => ¬ earlier.score < later.score :=
    ordered.imp_of_mem fun left right => not_lt_of_before (number _ left) (number _ right)
  constructor
  case picked =>
    intro kept member
    exact same.mem_iff.mp (List.mem_of_mem_take member)
  case falling => exact falling.sublist (List.take_sublist limit _)
  case highest =>
    intro kept member other candidate cut
    have split := List.take_append_drop limit sorted
    rw [← split] at falling
    have placed := same.mem_iff.mpr candidate
    rw [← split] at placed
    exact (List.pairwise_append.mp falling).2.2 kept member other
      ((List.mem_append.mp placed).resolve_left cut)

end Match

namespace Index

variable {σ : Type}

/-- A query that visits the records in a given order. -/
def queryThrough (index : Index σ) (order : List (String × StoredVector)) (text : String)
    (limit : Nat) (outside : σ) : Except Failure (List Match) × σ :=
  if index.dimension = 0 ∨ index.records.isEmpty then (.ok [], outside)
  else
    let (reply, outside) := index.embedder.embed [text] outside
    let found := do
      let embedding ← index.queryEmbedding (← reply)
      return ranked index.options embedding limit order
    (found, outside)

theorem query_eq (index : Index σ) : index.query = index.queryThrough index.records.entries := rfl

/-- The scores of a query are numbers, unless the threshold keeps all others out. -/
def Numeric (index : Index σ) (query : Embedding) : Prop :=
  index.options.threshold ≤ 0.0 → ∀ id stored, index.records.get? id = some stored →
    (index.options.metric.score query stored.embedding).isNaN = false

/-- Of finite numbers are the embedding of a query and the stored ones. -/
structure Finite (index : Index σ) (query : Embedding) : Prop where
  query : query.all Float32.isFinite = true
  stored : ∀ id stored, index.records.get? id = some stored →
    stored.embedding.all Float32.isFinite = true

theorem Finite.numeric {index : Index σ} {query : Embedding} (finite : index.Finite query)
    (cosines : index.options.metric = .cosine → index.Numeric query) : index.Numeric query := by
  cases metric : index.options.metric with
  | cosine => exact cosines metric
  | euclidean =>
      intro _ id stored found
      rw [metric]
      exact Metric.isNaN_score_euclidean finite.query (finite.stored id stored found)

theorem ids_candidates (options : IndexOptions) (query : Embedding)
    (records : List (String × StoredVector)) :
    ((candidates options query records).map Match.id).Sublist (records.map Prod.fst) := by
  have kept : ((candidates options query records).map Match.id).Sublist _ :=
    List.filter_sublist.map Match.id
  rwa [List.map_map] at kept

theorem nodup_candidates (index : Index σ) (query : Embedding) :
    ((candidates index.options query index.records.entries).map Match.id).Nodup :=
  (ids_candidates index.options query index.records.entries).nodup index.records.nodup_keys

theorem candidates_perm (options : IndexOptions) (query : Embedding)
    {first second : List (String × StoredVector)} (same : first.Perm second) :
    (candidates options query first).Perm (candidates options query second) :=
  (same.map _).filter _

/-- A threshold above zero, or that is no number, keeps only scores that are numbers. -/
theorem Numeric.candidates {index : Index σ} {query : Embedding} (numeric : index.Numeric query) :
    ∀ found ∈ candidates index.options query index.records.entries,
      found.score.isNaN = false := by
  intro found member
  obtain ⟨scored, kept⟩ := List.mem_filter.mp member
  obtain ⟨⟨id, stored⟩, inside, rfl⟩ := List.mem_map.mp scored
  by_cases all : index.options.threshold ≤ 0.0
  · exact numeric all id stored (Table.get?_eq_some_iff.mpr inside)
  · rw [keeps, decide_eq_false all, Bool.false_or, decide_eq_true_iff] at kept
    exact Single.isNaN_of_le kept

theorem ranked_of_stable? {options : IndexOptions} {query : Embedding}
    {records : List (String × StoredVector)} {sorted : List Match}
    (done : Sorting.stable? Match.precedes (candidates options query records) = some sorted)
    (limit : Nat) : ranked options query limit records = sorted.take limit := by
  rw [ranked, done]
  rfl

/-- Where scores are numbers, there is one list that the records are ranked in, and they may be
visited in any order. -/
theorem exists_ranked {index : Index σ} {query : Embedding} (numeric : index.Numeric query) :
    ∃ sorted, sorted.Perm (candidates index.options query index.records.entries) ∧
      (sorted.Pairwise fun earlier later => earlier.before later = true) ∧
      ∀ order : List (String × StoredVector), order.Perm index.records.entries →
        Sorting.stable? Match.precedes (candidates index.options query order) = some sorted := by
  obtain ⟨sorted, -, same, ordered⟩ := Match.exists_stable? numeric.candidates
  refine ⟨sorted, same, ordered, ?_⟩
  intro order visits
  have permuted := candidates_perm index.options query visits
  obtain ⟨others, done, alsoSame, alsoOrdered⟩ := Match.exists_stable? fun found member =>
    numeric.candidates found (permuted.mem_iff.mp member)
  have distinct := (same.map Match.id).nodup_iff.mpr (nodup_candidates index query)
  rw [done, Match.sorted_eq_of_perm (same.trans (alsoSame.trans permuted).symm) distinct ordered
    alsoOrdered]

theorem ranked_eq_of_perm {index : Index σ} {query : Embedding} (numeric : index.Numeric query)
    {order : List (String × StoredVector)} (same : order.Perm index.records.entries)
    (limit : Nat) :
    ranked index.options query limit order =
      ranked index.options query limit index.records.entries := by
  obtain ⟨sorted, -, -, sorts⟩ := exists_ranked numeric
  rw [ranked_of_stable? (sorts order same), ranked_of_stable? (sorts _ (.refl _))]

/-- The scores of a query are numbers, or else few enough to be sorted by insertion. -/
def Sortable (index : Index σ) (query : Embedding) : Prop :=
  index.Numeric query ∨ index.records.size ≤ Sorting.insertionLimit

theorem Sortable.isSome_stable? {index : Index σ} {query : Embedding}
    (sortable : index.Sortable query) {order : List (String × StoredVector)}
    (same : order.Perm index.records.entries) :
    (Sorting.stable? Match.precedes (candidates index.options query order)).isSome = true := by
  rcases sortable with numeric | few
  · obtain ⟨sorted, -, -, sorts⟩ := exists_ranked numeric
    rw [sorts order same, Option.isSome_some]
  · refine Sorting.isSome_stable?_of_few ?_
    rw [(candidates_perm index.options query same).length_eq]
    refine (List.length_filter_le _ _).trans ?_
    rwa [List.length_map]

theorem ends_eq_isSome {index : Index σ} {text : String} {outside : σ} {embedding : Embedding}
    (answered : (index.embedder.embed [text] outside).1.bind index.queryEmbedding = .ok embedding)
    (asked : ¬ (index.dimension = 0 ∨ index.records.isEmpty))
    (order : List (String × StoredVector)) :
    index.ends order text outside =
      (Sorting.stable? Match.precedes (candidates index.options embedding order)).isSome := by
  unfold ends
  rw [if_neg asked, answered]

theorem ends_of_sortable {index : Index σ} {text : String} {outside : σ}
    (sortable : ∀ embedding,
      (index.embedder.embed [text] outside).1.bind index.queryEmbedding = .ok embedding →
        index.Sortable embedding)
    {order : List (String × StoredVector)} (same : order.Perm index.records.entries) :
    index.ends order text outside = true := by
  unfold ends
  split
  · rfl
  · cases answered : (index.embedder.embed [text] outside).1.bind index.queryEmbedding with
    | error failure => rfl
    | ok embedding => exact (sortable embedding answered).isSome_stable? same

section Query

variable {index : Index σ} {text : String} {outside : σ} {embedding : Embedding}

/-- A query that is put to the embedder ranks the records by the embedding of its text. -/
theorem queryThrough_eq (index : Index σ) (order : List (String × StoredVector)) (text : String)
    (limit : Nat) (outside : σ) :
    index.queryThrough order text limit outside =
      if index.dimension = 0 ∨ index.records.isEmpty then (.ok [], outside)
      else
        (((index.embedder.embed [text] outside).1.bind index.queryEmbedding).map
            fun embedding => ranked index.options embedding limit order,
          (index.embedder.embed [text] outside).2) := by
  unfold queryThrough
  split
  · rfl
  · obtain ⟨answer, later⟩ := index.embedder.embed [text] outside
    cases answer with
    | error failure => rfl
    | ok reply =>
        change ((index.queryEmbedding reply).bind _, _) = ((index.queryEmbedding reply).map _, _)
        cases index.queryEmbedding reply <;> rfl

theorem queryThrough_fst (order : List (String × StoredVector)) (limit : Nat) :
    (index.queryThrough order text limit outside).1 =
      if index.dimension = 0 ∨ index.records.isEmpty then .ok []
      else ((index.embedder.embed [text] outside).1.bind index.queryEmbedding).map
        fun embedding => ranked index.options embedding limit order := by
  rw [queryThrough_eq]
  split <;> rfl

theorem queryThrough_ok (answered :
    (index.embedder.embed [text] outside).1.bind index.queryEmbedding = .ok embedding)
    (asked : ¬ (index.dimension = 0 ∨ index.records.isEmpty))
    (order : List (String × StoredVector)) (limit : Nat) :
    index.queryThrough order text limit outside =
      (.ok (ranked index.options embedding limit order),
        (index.embedder.embed [text] outside).2) := by
  rw [queryThrough_eq, if_neg asked, answered]
  rfl

/-- Where scores are numbers, a query does not depend on the order of its visits. -/
theorem queryThrough_eq_query
    (numeric : ∀ embedding,
      (index.embedder.embed [text] outside).1.bind index.queryEmbedding = .ok embedding →
        index.Numeric embedding)
    {order : List (String × StoredVector)} (same : order.Perm index.records.entries)
    (limit : Nat) :
    index.queryThrough order text limit outside = index.query text limit outside := by
  rw [query_eq, queryThrough_eq, queryThrough_eq]
  cases answered : (index.embedder.embed [text] outside).1.bind index.queryEmbedding with
  | error failure => rfl
  | ok embedding => simp only [Except.map, ranked_eq_of_perm (numeric embedding answered) same]

/-- Among finite embeddings, with the Euclidean metric, a threshold above zero or cosines that
are numbers, a query answers with the best matches, the best first and as many as it may, in
whatever order the records are visited. -/
theorem best_matches_first (answered :
    (index.embedder.embed [text] outside).1.bind index.queryEmbedding = .ok embedding)
    (finite : index.Finite embedding)
    (cosines : index.options.metric = .cosine → index.Numeric embedding) (limit : Nat) :
    ∃ found, (index.query text limit outside).1 = .ok found ∧
      Match.Best (candidates index.options embedding index.records.entries) found ∧
      (index.dimension ≠ 0 → found.length =
        min limit (candidates index.options embedding index.records.entries).length) ∧
      ∀ order : List (String × StoredVector), order.Perm index.records.entries →
        index.queryThrough order text limit outside = index.query text limit outside := by
  have numeric := finite.numeric cosines
  by_cases asked : index.dimension = 0 ∨ index.records.isEmpty
  · have nothing (order : List (String × StoredVector)) :
        index.queryThrough order text limit outside = (.ok [], outside) := by
      rw [queryThrough_eq, if_pos asked]
    refine ⟨[], by rw [query_eq, nothing], ⟨?_, .nil, ?_⟩, ?_, ?_⟩
    · exact fun _ absent => absurd absent List.not_mem_nil
    · exact fun _ absent => absurd absent List.not_mem_nil
    · intro sized
      have none := index.records.isEmpty_iff.mp (asked.resolve_left sized)
      rw [none]
      exact (Nat.min_zero limit).symm
    · intro order _
      rw [query_eq, nothing, nothing]
  · have answer := queryThrough_ok answered asked
    obtain ⟨sorted, same, ordered, sorts⟩ := exists_ranked numeric
    refine ⟨sorted.take limit, ?_, Match.best_take numeric.candidates same ordered limit, ?_, ?_⟩
    · rw [query_eq, answer, ranked_of_stable? (sorts _ (.refl _))]
    · intro _
      rw [List.length_take, same.length_eq]
    · intro order visits
      rw [query_eq, answer, answer, ranked_eq_of_perm numeric visits]

end Query

/-! ## A norm beyond single precision -/

/-- Two to the hundredth, whose square is infinite in single precision. -/
def huge : Float32 := Float32.ofBits 0x71800000

/-- Two to the thirty-third, whose product with `huge` is infinite as well. -/
def large : Float32 := Float32.ofBits 0x50000000

/-- A bad match, two matches without a score, and a perfect match. -/
def overflowing : Index Unit where
  name := "chunks"
  options := { threshold := 0.0 }
  embedder := .uniform [large, 0.0]
  dimension := 2
  records := Table.ofList
    [("a", ⟨[0.0, 1.0], Table.empty⟩), ("b", ⟨[huge, 0.0], Table.empty⟩),
      ("c", ⟨[huge, 0.0], Table.empty⟩), ("d", ⟨[1.0, 0.0], Table.empty⟩)]

def bad : Match := ⟨"a", 0.0, Table.empty⟩

def perfect : Match := ⟨"d", 1.0, Table.empty⟩

/-- A match whose score is no number. -/
def unscored (id : String) : Match := ⟨id, Float32.ofBits 0x7fc00000, Table.empty⟩

/-- The index without the records that have no score. -/
def ordinary : Index Unit :=
  { overflowing with
    records := Table.ofList
      [("a", ⟨[0.0, 1.0], Table.empty⟩), ("d", ⟨[1.0, 0.0], Table.empty⟩)] }

theorem finite_ordinary : ordinary.Finite [large, 0.0] where
  query := by decide +kernel
  stored := by
    have numbers : ∀ entry ∈ ordinary.records.entries,
        entry.2.embedding.all Float32.isFinite = true := by
      decide +kernel
    intro id stored found
    exact numbers (id, stored) (Table.get?_eq_some_iff.mp found)

theorem numeric_ordinary : ordinary.Numeric [large, 0.0] := by
  have scored : ∀ entry ∈ ordinary.records.entries,
      (ordinary.options.metric.score [large, 0.0] entry.2.embedding).isNaN = false := by
    decide +kernel
  intro _ id stored found
  exact scored (id, stored) (Table.get?_eq_some_iff.mp found)

/-- Of a bad match and a perfect one, a query for one match answers with the perfect one. -/
theorem best_matches_first_of_two :
    ordinary.Finite [large, 0.0] ∧ ordinary.Numeric [large, 0.0] ∧
      (ordinary.query "q" 1 ()).1 = .ok [perfect] := by
  have embedded : (ordinary.embedder.embed ["q"] ()).1.bind ordinary.queryEmbedding =
      .ok [large, 0.0] := rfl
  have two : candidates ordinary.options [large, 0.0] ordinary.records.entries =
      [bad, perfect] := by
    decide +kernel
  obtain ⟨found, answered, best, count, -⟩ :=
    best_matches_first embedded finite_ordinary (fun _ => numeric_ordinary) 1
  rw [two] at best count
  obtain ⟨kept, rfl⟩ := List.length_eq_one_iff.mp (count (by decide))
  have known := best.picked kept List.mem_cons_self
  rcases List.mem_pair.mp known with rfl | rfl
  · have placed := best.highest bad List.mem_cons_self perfect (by decide +kernel)
      (by decide +kernel)
    exact absurd (by decide +kernel) placed
  · exact ⟨finite_ordinary, numeric_ordinary, answered⟩

theorem candidates_overflowing :
    candidates overflowing.options [large, 0.0] overflowing.records.entries =
      [bad, unscored "b", unscored "c", perfect] := by
  decide +kernel

theorem ranked_overflowing :
    ranked overflowing.options [large, 0.0] 1 overflowing.records.entries = [bad] := by
  decide +kernel

/-- Finite embeddings of one length do not make the best match come first. -/
theorem best_match_may_be_cut :
    ¬ ∀ (index : Index Unit) (text : String) (embedding : Embedding) (limit : Nat),
      (∀ id stored, index.records.get? id = some stored →
        stored.embedding.length = index.dimension) →
      embedding.length = index.dimension → index.Finite embedding →
      (index.embedder.embed [text] ()).1 = .ok [embedding] →
      ∃ found, (index.query text limit ()).1 = .ok found ∧
        Match.Best (candidates index.options embedding index.records.entries) found ∧
        ∀ order : List (String × StoredVector), order.Perm index.records.entries →
          index.queryThrough order text limit () = index.query text limit () := by
  intro ranking
  have stored : ∀ entry ∈ overflowing.records.entries,
      entry.2.embedding.length = 2 ∧ entry.2.embedding.all Float32.isFinite = true := by
    decide +kernel
  have held (id : String) (vector : StoredVector)
      (bound : overflowing.records.get? id = some vector) :=
    stored (id, vector) (Table.get?_eq_some_iff.mp bound)
  have finite : overflowing.Finite [large, 0.0] :=
    ⟨by decide +kernel, fun id vector bound => (held id vector bound).2⟩
  obtain ⟨found, answered, best, -⟩ := ranking overflowing "q" [large, 0.0] 1
    (fun id vector bound => (held id vector bound).1) rfl finite rfl
  have asked : ¬ (overflowing.dimension = 0 ∨ overflowing.records.isEmpty) := by decide
  have embedded : (overflowing.embedder.embed ["q"] ()).1.bind overflowing.queryEmbedding =
      .ok [large, 0.0] := rfl
  rw [query_eq, queryThrough_ok embedded asked, ranked_overflowing] at answered
  cases answered
  have placed := best.highest bad List.mem_cons_self perfect
    (by rw [candidates_overflowing]; decide +kernel) (by decide +kernel)
  exact placed (by decide +kernel)

end Index

end Retrieval
