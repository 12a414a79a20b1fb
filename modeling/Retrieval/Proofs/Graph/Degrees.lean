import Mathlib.Data.List.Nodup
import Mathlib.Data.Sym.Sym2
import Retrieval.Proofs.Graph.Clusters
import Retrieval.Proofs.Table.Size

/-!
# Degrees and edges

An edge can be walked from either end, and a loop in one way only.  Every node
lists the walks that start at it, so the degrees count the walks of all edges:
two for each edge, less one for each loop.
-/

namespace Retrieval

namespace Link

/-- The ways to walk along a link, each from its first node to its second. -/
def walks (link : Link) : List (String × String) :=
  if link.source = link.target then [(link.source, link.target)]
  else [(link.source, link.target), (link.target, link.source)]

theorem mem_walks {link : Link} {walk : String × String} :
    walk ∈ link.walks ↔
      walk = (link.source, link.target) ∨ walk = (link.target, link.source) := by
  unfold walks
  by_cases loop : link.source = link.target
  · rw [if_pos loop, loop, or_self]
    exact List.mem_singleton
  · rw [if_neg loop]
    exact List.mem_pair

theorem nodup_walks (link : Link) : link.walks.Nodup := by
  unfold walks
  by_cases loop : link.source = link.target
  · rw [if_pos loop]
    exact List.nodup_singleton _
  · rw [if_neg loop]
    simp [loop]

theorem length_walks (link : Link) :
    link.walks.length + (if link.source = link.target then 1 else 0) = 2 := by
  unfold walks
  by_cases loop : link.source = link.target
  · rw [if_pos loop, if_pos loop]
    rfl
  · rw [if_neg loop, if_neg loop]
    rfl

theorem sum_length_walks (links : List Link) :
    (links.map fun link => link.walks.length).sum +
      (links.filter fun link => link.source = link.target).length = 2 * links.length := by
  induction links with
  | nil => rfl
  | cons link rest ih =>
      have one := link.length_walks
      rw [List.map_cons, List.sum_cons, List.filter_cons, List.length_cons]
      by_cases loop : link.source = link.target
      · rw [if_pos loop] at one
        rw [if_pos (decide_eq_true loop), List.length_cons]
        omega
      · rw [if_neg loop] at one
        rw [if_neg (by simp [loop])]
        omega

def pair (link : Link) : Sym2 String := s(link.source, link.target)

theorem canonical_canonical (source target : String) :
    canonical (canonical source target).source (canonical source target).target =
      canonical source target := by
  by_cases forward : source ≤ target
  · have given : canonical source target = ⟨source, target⟩ := if_pos forward
    rw [given, given]
  · have turned : canonical source target = ⟨target, source⟩ := if_neg forward
    rw [turned, canonical_comm, turned]

theorem canonical_of_mem_walks {link : Link} (self : canonical link.source link.target = link)
    {walk : String × String} (along : walk ∈ link.walks) : canonical walk.1 walk.2 = link := by
  rcases mem_walks.mp along with rfl | rfl
  · exact self
  · rw [canonical_comm]
    exact self

theorem mem_walks_canonical (walk : String × String) :
    walk ∈ (canonical walk.1 walk.2).walks := by
  rw [mem_walks]
  by_cases forward : walk.1 ≤ walk.2
  · rw [canonical, if_pos forward]
    exact .inl rfl
  · rw [canonical, if_neg forward]
    exact .inr rfl

theorem canonical_eq_iff_pair {source target other another : String} :
    canonical source target = canonical other another ↔ s(source, target) = s(other, another) := by
  rw [canonical_eq_iff, Sym2.eq_iff]

end Link

namespace Graph

/-- Every edge is kept under its canonical link. -/
def Canonical (graph : Graph) : Prop :=
  ∀ link, graph.edges.contains link = true → Link.canonical link.source link.target = link

section Edges

variable {graph : Graph}

theorem edgesFrom_pairwise (graph : Graph) (node : String) :
    (graph.edgesFrom node).Pairwise fun earlier later => earlier.2 < later.2 :=
  List.pairwise_map.mpr (Table.pairwise_keys_lt ((graph.adjacency.get? node).getD Table.empty))

theorem nodup_edgesFrom (graph : Graph) (node : String) : (graph.edgesFrom node).Nodup := by
  refine (graph.edgesFrom_pairwise node).imp ?_
  rintro earlier later before rfl
  exact lt_irrefl _ before

theorem length_edgesFrom (graph : Graph) (node : String) :
    (graph.edgesFrom node).length = graph.degree node :=
  List.length_map _

theorem mem_edgesFrom (formed : graph.WellFormed) {node : String} {walk : String × String} :
    walk ∈ graph.edgesFrom node ↔ walk.1 = node ∧ graph.hasEdge node walk.2 = true := by
  rw [edgesFrom, List.mem_map]
  constructor
  · rintro ⟨other, near, rfl⟩
    exact ⟨rfl, (formed.joined node other).mp near⟩
  · rintro ⟨rfl, joined⟩
    exact ⟨walk.2, (formed.joined walk.1 walk.2).mpr joined, rfl⟩

def walks (graph : Graph) : List (String × String) := graph.nodes.keys.flatMap graph.edgesFrom

theorem mem_walks (formed : graph.WellFormed) {walk : String × String} :
    walk ∈ graph.walks ↔ graph.hasEdge walk.1 walk.2 = true := by
  rw [walks, List.mem_flatMap]
  constructor
  · rintro ⟨node, -, listed⟩
    obtain ⟨rfl, joined⟩ := (mem_edgesFrom formed).mp listed
    exact joined
  · intro joined
    have near : walk.2 ∈ graph.neighbours walk.1 := (formed.joined walk.1 walk.2).mpr joined
    exact ⟨walk.1, Table.mem_keys.mpr (formed.hasNode_of_mem near),
      (mem_edgesFrom formed).mpr ⟨rfl, joined⟩⟩

theorem nodup_walks (formed : graph.WellFormed) : graph.walks.Nodup := by
  refine List.nodup_flatMap.mpr ⟨fun node _ => graph.nodup_edgesFrom node, ?_⟩
  refine graph.nodes.nodup_keys.imp ?_
  intro node other differ walk first second
  exact differ (((mem_edgesFrom formed).mp first).1.symm.trans ((mem_edgesFrom formed).mp second).1)

theorem length_walks (graph : Graph) :
    graph.walks.length = (graph.nodes.keys.map graph.degree).sum := by
  rw [walks, List.length_flatMap]
  simp only [length_edgesFrom]

theorem mem_walks_links (canonical : graph.Canonical) {walk : String × String} :
    walk ∈ graph.edges.keys.flatMap Link.walks ↔ graph.hasEdge walk.1 walk.2 = true := by
  rw [List.mem_flatMap]
  constructor
  · rintro ⟨link, listed, along⟩
    have present := Table.mem_keys.mp listed
    rw [hasEdge, Link.canonical_of_mem_walks (canonical link present) along]
    exact present
  · intro joined
    exact ⟨Link.canonical walk.1 walk.2, Table.mem_keys.mpr joined, Link.mem_walks_canonical walk⟩

theorem nodup_walks_links (canonical : graph.Canonical) :
    (graph.edges.keys.flatMap Link.walks).Nodup := by
  refine List.nodup_flatMap.mpr ⟨fun link _ => link.nodup_walks, ?_⟩
  refine graph.edges.nodup_keys.imp_of_mem ?_
  intro link other listed otherListed differ walk first second
  have left := Link.canonical_of_mem_walks (canonical link (Table.mem_keys.mp listed)) first
  have right := Link.canonical_of_mem_walks (canonical other (Table.mem_keys.mp otherListed)) second
  exact differ (left.symm.trans right)

/-- The links that lead from a node to itself. -/
def loops (graph : Graph) : List Link :=
  graph.edges.keys.filter fun link => link.source = link.target

theorem sum_degree_add_length_loops (formed : graph.WellFormed) (canonical : graph.Canonical) :
    (graph.nodes.keys.map graph.degree).sum + graph.loops.length = 2 * graph.edgeCount := by
  have same : graph.walks.Perm (graph.edges.keys.flatMap Link.walks) := by
    refine (List.perm_ext_iff_of_nodup (nodup_walks formed) (nodup_walks_links canonical)).mpr ?_
    intro walk
    rw [mem_walks formed, mem_walks_links canonical]
  rw [← length_walks, same.length_eq, List.length_flatMap, loops, Link.sum_length_walks,
    Table.length_keys]
  rfl

/-! ## Edges and loops counted -/

theorem encard_pairs (canonical : graph.Canonical) :
    {pair | ∃ node other, pair = s(node, other) ∧ graph.hasEdge node other = true}.encard =
      graph.edgeCount := by
  have once : (graph.edges.keys.map Link.pair).Nodup := by
    refine graph.edges.nodup_keys.map_on ?_
    intro link listed other otherListed same
    rw [← canonical link (Table.mem_keys.mp listed),
      ← canonical other (Table.mem_keys.mp otherListed)]
    exact Link.canonical_eq_iff_pair.mpr same
  have listed : {pair | ∃ node other, pair = s(node, other) ∧ graph.hasEdge node other = true} =
      {pair | pair ∈ graph.edges.keys.map Link.pair} := by
    ext pair
    rw [Set.mem_ofPred_eq, Set.mem_ofPred_eq, List.mem_map]
    constructor
    · rintro ⟨node, other, rfl, joined⟩
      refine ⟨Link.canonical node other, Table.mem_keys.mpr joined, ?_⟩
      exact Link.canonical_eq_iff_pair.mp (Link.canonical_canonical node other)
    · rintro ⟨link, listed, rfl⟩
      have present := Table.mem_keys.mp listed
      rw [← canonical link present] at present
      exact ⟨link.source, link.target, rfl, present⟩
  rw [listed, encard_setOf_mem once, List.length_map, Table.length_keys]
  rfl

theorem encard_looped (graph : Graph) :
    {node | graph.hasEdge node node = true}.encard = graph.loops.length := by
  have once : (graph.loops.map Link.source).Nodup := by
    refine (graph.edges.nodup_keys.filter _).map_on ?_
    intro link listed other otherListed same
    have loop := of_decide_eq_true (List.mem_filter.mp listed).2
    have otherLoop := of_decide_eq_true (List.mem_filter.mp otherListed).2
    cases link
    cases other
    cases loop
    cases otherLoop
    cases same
    rfl
  have listed : {node | graph.hasEdge node node = true} =
      {node | node ∈ graph.loops.map Link.source} := by
    ext node
    have here : Link.canonical node node = ⟨node, node⟩ := if_pos (String.le_refl node)
    rw [Set.mem_ofPred_eq, Set.mem_ofPred_eq, List.mem_map, hasEdge, here]
    constructor
    · intro joined
      exact ⟨⟨node, node⟩, List.mem_filter.mpr ⟨Table.mem_keys.mpr joined, decide_eq_true rfl⟩, rfl⟩
    · rintro ⟨⟨source, target⟩, member, rfl⟩
      obtain ⟨present, loop⟩ := List.mem_filter.mp member
      obtain rfl : source = target := of_decide_eq_true loop
      exact Table.mem_keys.mp present
  rw [listed, encard_setOf_mem once, List.length_map]

end Edges

end Graph

end Retrieval
