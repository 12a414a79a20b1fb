import Retrieval.Proofs.EdgeList
import Retrieval.Proofs.Json.Number

/-!
# The clusters of an edge list

The communities of a list that is accepted have the nodes of the finest partition
that keeps the two nodes of every line together, and they share out the edges.
They are numbered by their least nodes, and sorted by their numbers, not by the
texts of these.  So they depend on nothing but what the lines tell.
-/

namespace Retrieval

def Community.nodeSet (community : Community) : Set String :=
  {node | community.nodes.contains node = true}

namespace EdgeList

/-- Labelled communities that part what some facts mention, and share out the edges of a graph. -/
structure Splits (facts : Set Fact) (graph : Graph) (listed : List (String × Community)) :
    Prop where
  labels : listed.map (·.1) = (List.range listed.length).map toString
  /-- The sets of nodes are the parts of the finest partition that separates no joined nodes. -/
  finest : ∃ partition : Partition (mentioned facts),
    IsLeast {coarser : Partition (mentioned facts) |
      ∀ source target, Fact.edge s(source, target) ∈ facts → coarser.Rel source target}
      partition ∧
    ∀ nodes, nodes ∈ partition ↔ ∃ entry ∈ listed, entry.2.nodeSet = nodes
  ascending : listed.Pairwise fun earlier later => ∃ first second,
    IsLeast earlier.2.nodeSet first ∧ IsLeast later.2.nodeSet second ∧ first < second
  /-- Every edge is in a single community. -/
  once : ∀ link, graph.edges.contains link = true →
    ∃! entry, entry ∈ listed ∧ entry.2.edges.contains link = true
  inside : ∀ entry ∈ listed, ∀ link, entry.2.edges.contains link = true →
    graph.edges.contains link = true ∧ link.source ∈ entry.2.nodeSet ∧
      link.target ∈ entry.2.nodeSet
  counted : (listed.map fun entry => entry.2.edges.size).sum = graph.edgeCount

/-! ## Sorting by number -/

theorem labelNumber_toString {number : Nat} (fits : number < UInt64.size) :
    labelNumber (toString number) = number := by
  rw [labelNumber, Digits.natural?_toString, Option.filter_some, decide_eq_true fits]
  rfl

section Clusters

variable {graph : Graph} {known : Set Fact}

/-- The community at a place of a component, with the place as its label. -/
def clusterAt (graph : Graph) (place : Nat) : String × Community :=
  (toString place, graph.communityAt place)

section Sorting

variable (counted : graph.nodeCount ≤ 2 ^ 64)

include counted

theorem labelNumber_clusterAt {place : Nat} (listed : place < graph.components.length) :
    labelNumber (clusterAt graph place).1 = place := by
  have fits : place < 2 ^ 64 := listed.trans_le (graph.length_components_le.trans counted)
  exact labelNumber_toString fits

theorem pairwise_clusterAt :
    ((List.range graph.components.length).map (clusterAt graph)).Pairwise fun first second =>
      labelNumber first.1 < labelNumber second.1 := by
  refine List.pairwise_map.mpr (List.pairwise_lt_range.imp_of_mem ?_)
  intro place other listed otherListed before
  rw [labelNumber_clusterAt counted (List.mem_range.mp listed),
    labelNumber_clusterAt counted (List.mem_range.mp otherListed)]
  exact before

theorem perm_entries_schema (formed : graph.WellFormed) :
    graph.labelComponents.schema.entries.Perm
      ((List.range graph.components.length).map (clusterAt graph)) := by
  have apart : (((List.range graph.components.length).map (clusterAt graph)).map (·.1)).Nodup := by
    refine List.pairwise_map.mpr ((pairwise_clusterAt counted).imp ?_)
    intro first second before same
    rw [same] at before
    exact lt_irrefl _ before
  have bindings : graph.labelComponents.schema =
      Table.ofList ((List.range graph.components.length).map (clusterAt graph)) := by
    rw [Graph.schema, Graph.communities_labelComponents counted formed, List.map_map]
    rfl
  rw [bindings]
  exact Table.perm_entries_ofList apart

/-- Sorting puts the communities where their components stand, in whatever order they come. -/
theorem mergeSort_eq_clusterAt (formed : graph.WellFormed) {visits : List (String × Community)}
    (listed : visits.Perm graph.labelComponents.schema.entries) :
    visits.mergeSort (fun first second => labelNumber first.1 ≤ labelNumber second.1) =
      (List.range graph.components.length).map (clusterAt graph) := by
  have same := listed.trans (perm_entries_schema counted formed)
  have ascending := pairwise_clusterAt counted
  generalize labelNumber = number at ascending ⊢
  exact mergeSort_eq_of_ascending (fun entry => number entry.1) (fun _ _ => decide_eq_true_iff)
    same ascending

theorem clusters_eq (formed : graph.WellFormed) :
    clusters graph = (List.range graph.components.length).map (clusterAt graph) :=
  mergeSort_eq_clusterAt counted formed (List.Perm.refl _)

end Sorting

/-! ## Parts and edges -/

theorem mem_clusters_iff (formed : graph.WellFormed) (counted : graph.nodeCount ≤ 2 ^ 64)
    {entry : String × Community} :
    entry ∈ clusters graph ↔ ∃ place < graph.components.length, clusterAt graph place = entry := by
  rw [clusters_eq counted formed, List.mem_map]
  simp only [List.mem_range]

theorem nodeSet_clusterAt (counted : graph.nodeCount ≤ 2 ^ 64) {place : Nat}
    (listed : place < graph.components.length) :
    (clusterAt graph place).2.nodeSet = graph.membersAt place :=
  Graph.nodes_communityAt counted listed

theorem splits_clusters (shows : Shows graph known) (counted : graph.nodeCount ≤ 2 ^ 64) :
    Splits known graph (clusters graph) := by
  have formed := shows.reached.wellFormed
  have canonical := shows.reached.canonical
  have listed := clusters_eq counted formed
  constructor
  case labels =>
    rw [listed, List.map_map, List.length_map, List.length_range]
    rfl
  case finest =>
    have named : mentioned known = {node | graph.hasNode node = true} := by
      ext node
      exact (shows.nodes node).symm
    rw [named]
    refine ⟨graph.partition formed, ?_, ?_⟩
    · simpa only [shows.joined] using Graph.isLeast_partition formed
    · intro nodes
      rw [Graph.mem_partition_iff formed]
      constructor
      · rintro ⟨place, within, rfl⟩
        exact ⟨_, (mem_clusters_iff formed counted).mpr ⟨place, within, rfl⟩,
          nodeSet_clusterAt counted within⟩
      · rintro ⟨_, member, rfl⟩
        obtain ⟨place, within, rfl⟩ := (mem_clusters_iff formed counted).mp member
        exact ⟨place, within, (nodeSet_clusterAt counted within).symm⟩
  case ascending =>
    rw [listed]
    refine List.pairwise_map.mpr (List.pairwise_lt_range.imp_of_mem ?_)
    intro place other inside otherInside before
    rw [nodeSet_clusterAt counted (List.mem_range.mp inside),
      nodeSet_clusterAt counted (List.mem_range.mp otherInside)]
    exact Graph.exists_least_lt formed before (List.mem_range.mp otherInside)
  case once =>
    intro link present
    have joined := canonical.joined_of_contains present
    refine ⟨clusterAt graph (graph.placeOf link.source), ⟨?_, ?_⟩, ?_⟩
    · have within := Graph.placeOf_lt (formed.hasNode_of_joined joined).1
      exact (mem_clusters_iff formed counted).mpr ⟨_, within, rfl⟩
    · exact (Graph.contains_edges_communityAt counted formed canonical).mpr
        ⟨present, rfl, (formed.placeOf_eq_of_joined joined).symm⟩
    · rintro _ ⟨member, holds⟩
      obtain ⟨place, -, rfl⟩ := (mem_clusters_iff formed counted).mp member
      rw [((Graph.contains_edges_communityAt counted formed canonical).mp holds).2.1]
  case inside =>
    intro entry member link holds
    obtain ⟨place, -, rfl⟩ := (mem_clusters_iff formed counted).mp member
    obtain ⟨present, source, target⟩ :=
      (Graph.contains_edges_communityAt counted formed canonical).mp holds
    obtain ⟨sourceNode, targetNode⟩ :=
      formed.hasNode_of_joined (canonical.joined_of_contains present)
    exact ⟨present, (Graph.contains_nodes_communityAt counted).mpr ⟨sourceNode, source⟩,
      (Graph.contains_nodes_communityAt counted).mpr ⟨targetNode, target⟩⟩
  case counted =>
    rw [listed, List.map_map]
    exact Graph.sum_edges_communityAt counted formed canonical

/-- Graphs that show the same facts have the same clusters, whatever else they carry. -/
theorem clusters_eq_of_shows {other : Graph} (shows : Shows graph known)
    (otherShows : Shows other known) (counted : graph.nodeCount ≤ 2 ^ 64) :
    clusters graph = clusters other := by
  have same : graph.SameShape other := by
    constructor
    · intro node
      rw [Bool.eq_iff_iff, shows.nodes, otherShows.nodes]
    · intro node another
      rw [shows.joined, otherShows.joined]
  have communities := same.communities_eq shows.reached.wellFormed otherShows.reached.wellFormed
    counted
  have schemas : graph.labelComponents.schema = other.labelComponents.schema := by
    rw [Graph.schema, communities, ← Graph.schema]
  simp only [clusters, Graph.cluster, schemas]

end Clusters

/-- The clusters of an edge list that is accepted are labelled by their places.  They part the
nodes as finely as the lines allow, by ascending least node, and every edge is in the one that has
both its ends.  Lines may be reordered, and those that tell nothing new be added or left out, and
the two nodes of a line be exchanged as long as that makes no comment of it: the list is accepted
again and has the same clusters. -/
theorem clusters_of_read {text : String} {graph : Graph} (accepted : read text = .ok graph)
    (counted : graph.nodeCount ≤ 2 ^ 64) :
    Splits (facts (Text.lines text)) graph (clusters graph) ∧
    ∀ other, Relation.EqvGen Edit (Text.lines text) (Text.lines other) →
      ∃ regraph, read other = .ok regraph ∧ clusters regraph = clusters graph := by
  have shows := shows_of_read accepted
  refine ⟨splits_clusters shows counted, ?_⟩
  intro other edits
  have same := facts_eq_of_edits edits
  obtain ⟨straight, -⟩ := read_eq_ok_iff.mp accepted
  rw [same] at straight
  have reread := read_eq_ok_iff.mpr ⟨straight, rfl⟩
  refine ⟨_, reread, ?_⟩
  rw [same] at shows
  exact (clusters_eq_of_shows shows (shows_of_read reread) counted).symm

/-- Lines in another order, one of them turned and one written again, with lines that tell
nothing. -/
theorem clusters_of_read_of_edits :
    ∃ graph regraph, read "b a knows\nd\n" = .ok graph ∧ graph.nodeCount = 3 ∧
      read "# names\n\nd\r\n a  b knows\nd" = .ok regraph ∧ clusters regraph = clusters graph ∧
      (clusters graph).map (·.1) = (List.range (clusters graph).length).map toString := by
  have lines : Text.lines "b a knows\nd\n" = ["b a knows", "d"] := by decide +kernel
  have others : Text.lines "# names\n\nd\r\n a  b knows\nd" =
      ["# names", "", "d", " a  b knows", "d"] := by decide +kernel
  have joins : Statement.ofLine "b a knows" = .edge "b" "a" ["knows"] := by decide +kernel
  have exchanged : Text.words " a  b knows" = ["a", "b", "knows"] := by decide +kernel
  have plain : "a".toList.head? ≠ some '#' := by decide
  have silent : Statement.Silent "# names" := .inr (by decide +kernel)
  have blank : Statement.Silent "" := .inl rfl
  have edits : Relation.EqvGen Edit (Text.lines "b a knows\nd\n")
      (Text.lines "# names\n\nd\r\n a  b knows\nd") := by
    rw [lines, others]
    refine .trans _ _ _ (.rel _ _ (.exchange _ joins exchanged plain)) ?_
    refine .trans _ _ _ (.rel _ _ (.repetition (List.mem_cons_of_mem _ List.mem_cons_self))) ?_
    exact .trans _ _ _ (.rel _ _ (.silence _ blank)) (.rel _ _ (.silence _ silent))
  let graph := ((Graph.empty graphName).upsertEdge "b" "a"
    (Statement.described ["knows"])).ensureNode "d"
  have accepted : read "b a knows\nd\n" = .ok graph := by decide +kernel
  have three : graph.nodeCount = 3 := by decide
  have counted : graph.nodeCount ≤ 2 ^ 64 := by
    rw [three]
    decide
  obtain ⟨splits, kept⟩ := clusters_of_read accepted counted
  obtain ⟨regraph, reread, same⟩ := kept _ edits
  exact ⟨graph, regraph, accepted, three, reread, same, splits.labels⟩

/-! ## Nodes that begin with a number sign -/

/-- A line whose second node begins with a number sign is a comment once its nodes are
exchanged. -/
theorem clusters_may_change_by_exchange :
    ¬ ∀ (text other line turned source target : String) (description rest : List String)
        (graph : Graph), Text.lines text = line :: rest → Text.lines other = turned :: rest →
      Statement.ofLine line = .edge source target description →
      Text.words turned = target :: source :: description → read text = .ok graph →
      ∃ regraph, read other = .ok regraph ∧ clusters regraph = clusters graph := by
  intro unchanged
  let graph := (Graph.empty graphName).upsertEdge "a" "#b" Table.empty
  have accepted : read "a #b" = .ok graph := by decide +kernel
  have comment : read "#b a" = .ok (Graph.empty graphName) := by decide +kernel
  obtain ⟨regraph, reread, same⟩ := unchanged "a #b" "#b a" "a #b" "#b a" "a" "#b" [] [] graph
    (by decide +kernel) (by decide +kernel) (by decide +kernel) (by decide +kernel) accepted
  obtain rfl := Except.ok.inj (comment.symm.trans reread)
  have present : graph.hasNode "a" = true := by decide
  have some := Graph.placeOf_lt present
  have none := (Graph.empty graphName).length_components_le
  have lengths := congrArg List.length same
  rw [clusters_eq (by decide) (shows_of_read reread).reached.wellFormed,
    clusters_eq (by decide) (shows_of_read accepted).reached.wellFormed, List.length_map,
    List.length_map, List.length_range, List.length_range] at lengths
  rw [lengths] at none
  exact absurd some (Nat.not_lt_of_le (none.trans (Nat.zero_le _)))

end EdgeList

end Retrieval
