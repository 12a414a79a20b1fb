import Retrieval.Proofs.Calls
import Retrieval.Proofs.Index.Ranking

/-!
# The list that a query answers from

Where all scores are numbers, the records that pass the threshold have one order
by falling score and, of equal scores, by rising identifier (`Listing.unique`).
A query embeds its text once and answers with the front of that list.
-/

namespace Retrieval

open Single (level)

namespace Match

/-- A higher score, or an equal one and a smaller identifier.  The two zeros are equal. -/
def Above (first second : Match) : Prop :=
  second.score < first.score ∨ (first.score == second.score) = true ∧ first.id < second.id

instance (first second : Match) : Decidable (first.Above second) :=
  inferInstanceAs (Decidable (_ ∨ _))

section Numbers

variable {first second : Match}

theorem above_iff (left : first.score.isNaN = false) (right : second.score.isNaN = false) :
    first.Above second ↔ level second.score < level first.score ∨
      level first.score = level second.score ∧ first.id < second.id := by
  rw [Above, Single.lt_iff_level right left, Single.beq_iff_level left right]

theorem above_of_before (left : first.score.isNaN = false) (right : second.score.isNaN = false)
    (earlier : first.before second = true) (differ : first.id ≠ second.id) :
    first.Above second := by
  rw [above_iff left right]
  rcases before_iff.mp earlier with higher | ⟨same, smaller⟩
  · exact .inl higher
  · exact .inr ⟨same, lt_of_le_of_ne smaller differ⟩

theorem before_of_above (left : first.score.isNaN = false) (right : second.score.isNaN = false)
    (above : first.Above second) : first.before second = true := by
  rw [before_iff]
  rcases (above_iff left right).mp above with higher | ⟨same, smaller⟩
  · exact .inl higher
  · exact .inr ⟨same, le_of_lt smaller⟩

end Numbers

end Match

namespace Index

variable {σ : Type} {index : Index σ} {embedding : Embedding}

/-- All scores of a query are numbers. -/
def Scored (index : Index σ) (embedding : Embedding) : Prop :=
  ∀ id stored, index.records.get? id = some stored →
    (index.options.metric.score embedding stored.embedding).isNaN = false

/-- A list of the records whose score is at least the threshold, or of all records if the
threshold is not above zero.  Each is listed once and with what belongs to it, the best first and
those with equal scores by identifier. -/
structure Listing (index : Index σ) (embedding : Embedding) (found : List Match) : Prop where
  mem_iff : ∀ one, one ∈ found ↔ ∃ stored, index.records.get? one.id = some stored ∧
    one.score = index.options.metric.score embedding stored.embedding ∧
    one.shown = stored.shown ∧
    (index.options.threshold ≤ 0.0 ∨ index.options.threshold ≤ one.score)
  once : (found.map Match.id).Nodup
  ordered : found.Pairwise Match.Above

theorem mem_candidates {one : Match} :
    one ∈ candidates index.options embedding index.records.entries ↔
      ∃ stored, index.records.get? one.id = some stored ∧
        one.score = index.options.metric.score embedding stored.embedding ∧
        one.shown = stored.shown ∧
        (index.options.threshold ≤ 0.0 ∨ index.options.threshold ≤ one.score) := by
  rw [candidates, List.mem_filter, keeps, Bool.or_eq_true, decide_eq_true_iff, decide_eq_true_iff,
    List.mem_map]
  constructor
  · rintro ⟨⟨⟨id, stored⟩, inside, rfl⟩, kept⟩
    exact ⟨stored, Table.get?_eq_some_iff.mpr inside, rfl, rfl, kept⟩
  · rintro ⟨stored, found, score, shown, kept⟩
    refine ⟨⟨(one.id, stored), Table.get?_eq_some_iff.mp found, ?_⟩, kept⟩
    cases one
    cases score
    cases shown
    rfl

theorem listing_of_sorted (scored : index.Scored embedding) {sorted : List Match}
    (same : sorted.Perm (candidates index.options embedding index.records.entries))
    (ordered : sorted.Pairwise fun earlier later => earlier.before later = true) :
    index.Listing embedding sorted := by
  have numeric : index.Numeric embedding := fun _ => scored
  have numbers := numeric.candidates
  have once := (same.map Match.id).nodup_iff.mpr (index.nodup_candidates embedding)
  constructor
  case mem_iff => exact fun one => same.mem_iff.trans mem_candidates
  case once => exact once
  case ordered =>
    have apart := List.pairwise_map.mp once
    refine (ordered.and apart).imp_of_mem ?_
    rintro first second left right ⟨earlier, differ⟩
    exact Match.above_of_before (numbers first (same.mem_iff.mp left))
      (numbers second (same.mem_iff.mp right)) earlier differ

theorem Listing.unique {found others : List Match} (scored : index.Scored embedding)
    (first : index.Listing embedding found) (second : index.Listing embedding others) :
    found = others := by
  have number (one : Match) (member : one ∈ found) : one.score.isNaN = false := by
    obtain ⟨stored, known, score, -⟩ := (first.mem_iff one).mp member
    rw [score]
    exact scored one.id stored known
  have same : found.Perm others := by
    refine (List.perm_ext_iff_of_nodup first.once.of_map second.once.of_map).mpr ?_
    intro one
    rw [first.mem_iff, second.mem_iff]
  refine same.eq_of_pairwise ?_ first.ordered second.ordered
  intro one other left right above below
  have inside := same.mem_iff.mpr right
  have earlier := Match.before_of_above (number one left) (number other inside) above
  have later := Match.before_of_above (number other inside) (number one left) below
  exact List.inj_on_of_nodup_map first.once left inside (Match.id_eq_of_before earlier later)

/-- An index with a dimension and with records embeds a query text once.  Where the embedding has
the dimension and all scores are numbers, there is one listing of the records that pass the
threshold, and the query answers with as much of its front as it may, in whatever order the
records are visited. -/
theorem query_answers_front {text : String} {outside : σ} (sized : index.dimension ≠ 0)
    (filled : index.records ≠ Table.empty)
    (embedded : (index.embedder.embed [text] outside).1.bind index.queryEmbedding =
      .ok embedding)
    (scored : index.Scored embedding) :
    ∃ found, index.Listing embedding found ∧
      (∀ others, index.Listing embedding others → others = found) ∧
      ∀ limit log,
        index.recorded.query text limit (outside, log) =
          (.ok (found.take limit), (index.embedder.embed [text] outside).2,
            log ++ [.embedding [text]]) ∧
        ∀ order : List (String × StoredVector), order.Perm index.records.entries →
          index.queryThrough order text limit outside =
            (.ok (found.take limit), (index.embedder.embed [text] outside).2) := by
  have asked : ¬ (index.dimension = 0 ∨ index.records.isEmpty) := by
    rintro (unsized | none)
    · exact sized unsized
    · exact filled (index.records.isEmpty_iff.mp none)
  obtain ⟨found, same, ordered, sorts⟩ := exists_ranked fun _ => scored
  have listing := listing_of_sorted scored same ordered
  refine ⟨found, listing, fun others other => other.unique scored listing, ?_⟩
  intro limit log
  have through (order : List (String × StoredVector)) (visits : order.Perm index.records.entries) :=
    (queryThrough_ok embedded asked order limit).trans
      (by rw [ranked_of_stable? (sorts order visits)])
  refine ⟨?_, through⟩
  rw [query_recorded, query_eq, through _ (List.Perm.refl _), queryCalls, if_neg asked]

/-! ## Zeros of both signs -/

/-- The negative number next to zero. -/
def slightlyBelow : Float32 := Float32.ofBits 0x80000001

/-- A record whose score is rounded to negative zero, one with score zero, and a perfect one. -/
def bothZeros : Index Unit where
  name := "chunks"
  options := { threshold := 0.0 }
  embedder := .uniform [1.0, 0.0]
  dimension := 2
  records := Table.ofList
    [("a", ⟨[slightlyBelow, 4.0], Table.empty⟩), ("b", ⟨[0.0, 1.0], Table.empty⟩),
      ("c", ⟨[1.0, 0.0], Table.empty⟩)]

def bothZerosListed : List Match :=
  [⟨"c", 1.0, Table.empty⟩, ⟨"a", -0.0, Table.empty⟩, ⟨"b", 0.0, Table.empty⟩]

theorem candidates_bothZeros :
    candidates bothZeros.options [1.0, 0.0] bothZeros.records.entries =
      [⟨"a", -0.0, Table.empty⟩, ⟨"b", 0.0, Table.empty⟩, ⟨"c", 1.0, Table.empty⟩] := by
  decide +kernel

theorem scored_bothZeros : bothZeros.Scored [1.0, 0.0] := by
  have scored : ∀ entry ∈ bothZeros.records.entries,
      (bothZeros.options.metric.score [1.0, 0.0] entry.2.embedding).isNaN = false := by
    decide +kernel
  intro id stored found
  exact scored (id, stored) (Table.get?_eq_some_iff.mp found)

theorem listing_bothZeros : bothZeros.Listing [1.0, 0.0] bothZerosListed where
  mem_iff := by
    intro one
    have same : bothZerosListed.Perm
        (candidates bothZeros.options [1.0, 0.0] bothZeros.records.entries) := by
      rw [candidates_bothZeros]
      exact @List.perm_append_comm _ [_] [_, _]
    exact same.mem_iff.trans mem_candidates
  once := by decide
  ordered := by decide +kernel

/-- Of the two zeros the one with the smaller identifier comes first, whatever its sign. -/
theorem query_answers_front_of_zeros :
    bothZeros.Scored [1.0, 0.0] ∧ bothZeros.Listing [1.0, 0.0] bothZerosListed ∧
      (bothZeros.query "q" 2 ()).1 = .ok (bothZerosListed.take 2) := by
  have filled : bothZeros.records ≠ Table.empty := by decide
  have sized : bothZeros.dimension ≠ 0 := by decide
  have embedded : (bothZeros.embedder.embed ["q"] ()).1.bind bothZeros.queryEmbedding =
      .ok [1.0, 0.0] := rfl
  obtain ⟨found, -, unique, answers⟩ := query_answers_front sized filled embedded scored_bothZeros
  obtain rfl := unique bothZerosListed listing_bothZeros
  refine ⟨scored_bothZeros, listing_bothZeros, ?_⟩
  rw [query_eq, (answers 2 []).2 _ (List.Perm.refl _)]

end Index

end Retrieval
