import Mathlib.Data.List.Sort
import Mathlib.Order.Partition.Basic
import Retrieval.Proofs.Graph.History
import Retrieval.Proofs.Table.Order

/-!
# Communities of a clustered graph

After clustering there is one community for each component, at the place of the
component.  It has the nodes of the component and the edges between them, so the
communities share out the nodes and the edges, and their nodes are the parts of
the finest partition that keeps the ends of every edge together.
-/

namespace Retrieval

namespace Graph

variable {graph other : Graph}

theorem Reachable.recalls (reached : Reachable graph) : ∃ history, graph.Recalls history := by
  induction reached with
  | empty name => exact ⟨[], recalls_empty name⟩
  | perform _ operation ih =>
      obtain ⟨history, recalls⟩ := ih
      exact ⟨_, recalls.perform operation⟩

theorem Reachable.canonical (reached : Reachable graph) : graph.Canonical := by
  obtain ⟨_, recalls⟩ := reached.recalls
  exact recalls.canonical

/-! ## Any community -/

section Community

variable {labelled : List (String × Nat)} {label : Nat} {node : String} {link : Link}

theorem mem_members :
    node ∈ (labelled.filter fun entry => entry.2 == label).map (·.1) ↔
      (node, label) ∈ labelled := by
  rw [List.mem_map]
  constructor
  · rintro ⟨⟨listed, other⟩, member, rfl⟩
    obtain ⟨inside, same⟩ := List.mem_filter.mp member
    obtain rfl := beq_iff_eq.mp same
    exact inside
  · intro inside
    exact ⟨(node, label), List.mem_filter.mpr ⟨inside, beq_self_eq_true label⟩, rfl⟩

theorem contains_nodes_communityOf :
    (graph.communityOf labelled label).nodes.contains node = true ↔ (node, label) ∈ labelled :=
  KeySet.contains_ofKeys.trans mem_members

theorem Canonical.joined_of_contains (canonical : graph.Canonical)
    (present : graph.edges.contains link = true) : graph.Joined link.source link.target := by
  rw [Joined, hasEdge, canonical link present]
  exact present

theorem mem_linksAt (formed : graph.WellFormed) (canonical : graph.Canonical) :
    link ∈ graph.linksAt node ↔
      graph.edges.contains link = true ∧ (link.source = node ∨ link.target = node) := by
  rw [linksAt, List.mem_map]
  constructor
  · rintro ⟨near, listed, rfl⟩
    refine ⟨(formed.joined node near).mp listed, ?_⟩
    rcases Link.mem_walks.mp (Link.mem_walks_canonical (node, near)) with forward | backward
    · exact .inl (Prod.mk.inj forward).1.symm
    · exact .inr (Prod.mk.inj backward).1.symm
  · rintro ⟨present, rfl | rfl⟩
    · have joined := canonical.joined_of_contains present
      exact ⟨link.target, (formed.joined _ _).mpr joined, canonical link present⟩
    · have joined := canonical.joined_of_contains present
      refine ⟨link.source, (formed.joined _ _).mpr joined.symm, ?_⟩
      rw [Link.canonical_comm]
      exact canonical link present

theorem contains_edges_communityOf (formed : graph.WellFormed) (canonical : graph.Canonical) :
    (graph.communityOf labelled label).edges.contains link = true ↔
      graph.edges.contains link = true ∧
        ((link.source, label) ∈ labelled ∨ (link.target, label) ∈ labelled) := by
  refine KeySet.contains_ofKeys.trans ?_
  simp only [List.mem_flatMap, mem_members, mem_linksAt formed canonical]
  constructor
  · rintro ⟨node, listed, present, rfl | rfl⟩
    · exact ⟨present, .inl listed⟩
    · exact ⟨present, .inr listed⟩
  · rintro ⟨present, listed | listed⟩
    · exact ⟨link.source, listed, present, .inl rfl⟩
    · exact ⟨link.target, listed, present, .inr rfl⟩

theorem communities_congr (neighbours : graph.neighbours = other.neighbours)
    (labels : graph.labelledNodes = other.labelledNodes) :
    graph.communities = other.communities := by
  unfold communities communityOf linksAt
  rw [neighbours, labels]

end Community

/-! ## The communities after clustering -/

theorem WellFormed.hasNode_of_joined (formed : graph.WellFormed) {node another : String}
    (joined : graph.Joined node another) :
    graph.hasNode node = true ∧ graph.hasNode another = true :=
  ⟨formed.hasNode_of_mem ((formed.joined node another).mpr joined),
    formed.hasNode_of_mem ((formed.joined another node).mpr joined.symm)⟩

theorem WellFormed.placeOf_eq_of_joined (formed : graph.WellFormed) {node another : String}
    (joined : graph.Joined node another) : graph.placeOf node = graph.placeOf another := by
  obtain ⟨present, alsoPresent⟩ := formed.hasNode_of_joined joined
  exact (placeOf_eq_iff formed present alsoPresent).mpr (Relation.ReflTransGen.single joined)

theorem Canonical.labelComponents (canonical : graph.Canonical) :
    graph.labelComponents.Canonical := by
  intro link
  rw [graph.sameEdges_labelComponents.edges]
  exact canonical link

def communityAt (graph : Graph) (place : Nat) : Community :=
  graph.labelComponents.communityOf graph.labelComponents.labelledNodes place

section Clustered

variable (counted : graph.nodeCount ≤ 2 ^ 64)

include counted

theorem labelledNodes_labelComponents :
    graph.labelComponents.labelledNodes =
      graph.nodes.keys.map fun node => (node, graph.placeOf node) := by
  rw [labelledNodes, keys_labelComponents, ← List.filterMap_eq_map]
  refine List.filterMap_congr ?_
  intro node listed
  rw [clusterOf?_labelComponents counted (Table.mem_keys.mp listed)]
  rfl

theorem mem_labelledNodes {node : String} {place : Nat} :
    (node, place) ∈ graph.labelComponents.labelledNodes ↔
      graph.hasNode node = true ∧ graph.placeOf node = place := by
  rw [labelledNodes_labelComponents counted, List.mem_map]
  constructor
  · rintro ⟨known, listed, same⟩
    cases same
    exact ⟨Table.mem_keys.mp listed, rfl⟩
  · rintro ⟨present, rfl⟩
    exact ⟨node, Table.mem_keys.mpr present, rfl⟩

theorem contains_nodes_communityAt {place : Nat} {node : String} :
    (graph.communityAt place).nodes.contains node = true ↔
      graph.hasNode node = true ∧ graph.placeOf node = place :=
  contains_nodes_communityOf.trans (mem_labelledNodes counted)

theorem nodes_communityAt {place : Nat} (listed : place < graph.components.length) :
    {node | (graph.communityAt place).nodes.contains node = true} = graph.membersAt place := by
  rw [membersAt_eq listed]
  ext node
  refine (contains_nodes_communityAt counted).trans ?_
  constructor
  · rintro ⟨present, rfl⟩
    exact mem_component_placeOf listed
  · intro inside
    exact ⟨(graph.exists_component_iff node).mp ⟨_, List.getElem_mem listed, inside⟩,
      placeOf_eq listed inside⟩

/-- Both ends of an edge are in one component, and the edge is in its community. -/
theorem contains_edges_communityAt (formed : graph.WellFormed) (canonical : graph.Canonical)
    {place : Nat} {link : Link} :
    (graph.communityAt place).edges.contains link = true ↔
      graph.edges.contains link = true ∧ graph.placeOf link.source = place ∧
        graph.placeOf link.target = place := by
  refine (contains_edges_communityOf formed.labelComponents canonical.labelComponents).trans ?_
  rw [graph.sameEdges_labelComponents.edges, mem_labelledNodes counted,
    mem_labelledNodes counted, and_congr_right_iff]
  intro present
  have joined := canonical.joined_of_contains present
  obtain ⟨source, target⟩ := formed.hasNode_of_joined joined
  rw [formed.placeOf_eq_of_joined joined]
  simp only [source, target, true_and, and_self, or_self]

/-- There is a community for every component, and they stand as the components do. -/
theorem communities_labelComponents (formed : graph.WellFormed) :
    graph.labelComponents.communities =
      (List.range graph.components.length).map fun place => (place, graph.communityAt place) := by
  have places : (KeySet.ofKeys (graph.labelComponents.labelledNodes.map (·.2))).toList =
      List.range graph.components.length := by
    have ascending : (KeySet.ofKeys (graph.labelComponents.labelledNodes.map (·.2))).toList.Pairwise
        (· < ·) :=
      (Table.pairwise_keys _).imp fun before => compare_lt_iff_lt.mp before
    refine ascending.eq_of_mem_iff List.pairwise_lt_range ?_
    intro place
    rw [KeySet.mem_toList_ofKeys, List.mem_range, ← exists_label_iff formed counted, List.mem_map]
    constructor
    · rintro ⟨⟨node, place⟩, listed, rfl⟩
      obtain ⟨present, rfl⟩ := (mem_labelledNodes counted).mp listed
      exact ⟨node, present, clusterOf?_labelComponents counted present⟩
    · rintro ⟨node, present, labelled⟩
      rw [clusterOf?_labelComponents counted present] at labelled
      cases labelled
      exact ⟨(node, graph.placeOf node), (mem_labelledNodes counted).mpr ⟨present, rfl⟩, rfl⟩
  unfold communities
  dsimp only
  rw [places]
  rfl

theorem sum_edges_communityAt (formed : graph.WellFormed) (canonical : graph.Canonical) :
    ((List.range graph.components.length).map fun place =>
      (graph.communityAt place).edges.size).sum = graph.edgeCount := by
  have apart : ((List.range graph.components.length).flatMap fun place =>
      (graph.communityAt place).edges.keys).Nodup := by
    refine List.nodup_flatMap.mpr ⟨fun place _ => Table.nodup_keys _, ?_⟩
    refine List.nodup_range.imp ?_
    intro place another differ link first second
    have here := (contains_edges_communityAt counted formed canonical).mp (Table.mem_keys.mp first)
    have there :=
      (contains_edges_communityAt counted formed canonical).mp (Table.mem_keys.mp second)
    exact differ (here.2.1.symm.trans there.2.1)
  have same : ((List.range graph.components.length).flatMap fun place =>
      (graph.communityAt place).edges.keys).Perm graph.edges.keys := by
    refine (List.perm_ext_iff_of_nodup apart graph.edges.nodup_keys).mpr ?_
    intro link
    simp only [List.mem_flatMap, List.mem_range, Table.mem_keys,
      contains_edges_communityAt counted formed canonical]
    constructor
    · rintro ⟨place, -, present, -⟩
      exact present
    · intro present
      have joined := canonical.joined_of_contains present
      exact ⟨graph.placeOf link.source, placeOf_lt (formed.hasNode_of_joined joined).1, present,
        rfl, (formed.placeOf_eq_of_joined joined).symm⟩
  have sizes := same.length_eq
  rw [List.length_flatMap] at sizes
  simp only [Table.length_keys] at sizes
  exact sizes

end Clustered

theorem exists_least_lt (formed : graph.WellFormed) {place other : Nat} (before : place < other)
    (listed : other < graph.components.length) :
    ∃ first second, IsLeast (graph.membersAt place) first ∧
      IsLeast (graph.membersAt other) second ∧ first < second := by
  have earlier := before.trans listed
  rw [membersAt_eq earlier, membersAt_eq listed]
  exact ⟨_, _, isLeast_first formed (List.getElem_mem earlier),
    isLeast_first formed (List.getElem_mem listed), first_lt_first before earlier listed⟩

/-! ## Graphs of one shape -/

/-- The same nodes, and edges between the same nodes, whatever they carry. -/
structure SameShape (graph other : Graph) : Prop where
  nodes : ∀ node, graph.hasNode node = other.hasNode node
  joined : ∀ node another, graph.Joined node another ↔ other.Joined node another

theorem SameShape.neighbours_eq (same : graph.SameShape other) (formed : graph.WellFormed)
    (otherFormed : other.WellFormed) : graph.neighbours = other.neighbours := by
  funext node
  refine Table.keys_eq_of_contains ?_
  intro another
  rw [Bool.eq_iff_iff, ← KeySet.mem_toList, ← KeySet.mem_toList]
  exact (formed.joined node another).trans
    ((same.joined node another).trans (otherFormed.joined node another).symm)

theorem SameShape.keys_eq (same : graph.SameShape other) : graph.nodes.keys = other.nodes.keys :=
  Table.keys_eq_of_contains same.nodes

theorem SameShape.communities_eq (same : graph.SameShape other) (formed : graph.WellFormed)
    (otherFormed : other.WellFormed) (counted : graph.nodeCount ≤ 2 ^ 64) :
    graph.labelComponents.communities = other.labelComponents.communities := by
  have near := same.neighbours_eq formed otherFormed
  have otherCounted : other.nodeCount ≤ 2 ^ 64 := by
    rw [nodeCount, ← Table.length_keys, ← same.keys_eq, Table.length_keys]
    exact counted
  have places : graph.placeOf = other.placeOf := by
    unfold placeOf components
    rw [near, same.keys_eq]
  refine communities_congr ?_ ?_
  · rw [graph.sameEdges_labelComponents.neighbours_eq, near,
      other.sameEdges_labelComponents.neighbours_eq]
  · rw [labelledNodes_labelComponents counted, labelledNodes_labelComponents otherCounted,
      same.keys_eq, places]

/-! ## The classes as a partition -/

theorem Connected.classOf_eq {node another : String} (connected : graph.Connected node another) :
    graph.classOf node = graph.classOf another := by
  ext member
  exact ⟨connected.symm.trans, connected.trans⟩

theorem WellFormed.hasNode_of_connected (formed : graph.WellFormed) {node another : String}
    (present : graph.hasNode node = true) (connected : graph.Connected node another) :
    graph.hasNode another = true := by
  induction connected with
  | refl => exact present
  | tail _ joined _ => exact (formed.hasNode_of_joined joined).2

/-- The nodes parted into the classes of connected ones. -/
def partition (formed : graph.WellFormed) : Partition {node | graph.hasNode node = true} where
  parts := graph.classes
  sSupIndep' := by
    refine sSupIndep_iff_pairwiseDisjoint.mpr ?_
    rintro _ ⟨node, -, rfl⟩ _ ⟨another, -, rfl⟩ differ
    refine Set.disjoint_left.mpr fun member here there => differ ?_
    exact (Connected.classOf_eq here).trans (Connected.classOf_eq there).symm
  bot_notMem' := by
    rintro ⟨node, -, empty⟩
    have own : node ∈ graph.classOf node := Relation.ReflTransGen.refl
    rw [← empty] at own
    exact own
  sSup_eq' := by
    ext member
    rw [Set.sSup_eq_sUnion, Set.mem_sUnion]
    constructor
    · rintro ⟨_, ⟨node, present, rfl⟩, connected⟩
      exact formed.hasNode_of_connected present connected
    · intro present
      exact ⟨graph.classOf member, ⟨member, present, rfl⟩, Relation.ReflTransGen.refl⟩

theorem mem_partition_iff (formed : graph.WellFormed) {nodes : Set String} :
    nodes ∈ graph.partition formed ↔
      ∃ place < graph.components.length, graph.membersAt place = nodes := by
  have parts : nodes ∈ graph.partition formed ↔ nodes ∈ graph.classes := Iff.rfl
  rw [parts, classes_eq formed, Set.mem_image]
  simp only [Finset.mem_coe, Finset.mem_range]

theorem rel_partition_iff (formed : graph.WellFormed) {node another : String} :
    (graph.partition formed).Rel node another ↔
      graph.hasNode node = true ∧ graph.Connected node another := by
  constructor
  · rintro ⟨_, ⟨start, present, rfl⟩, first, second⟩
    exact ⟨formed.hasNode_of_connected present first, (Connected.symm first).trans second⟩
  · rintro ⟨present, connected⟩
    exact ⟨graph.classOf node, ⟨node, present, rfl⟩, Relation.ReflTransGen.refl, connected⟩

theorem isLeast_partition (formed : graph.WellFormed) :
    IsLeast {coarser : Partition {node | graph.hasNode node = true} |
      ∀ node another, graph.Joined node another → coarser.Rel node another}
      (graph.partition formed) := by
  constructor
  · intro node another joined
    exact (rel_partition_iff formed).mpr
      ⟨(formed.hasNode_of_joined joined).1, Relation.ReflTransGen.single joined⟩
  · intro coarser together
    refine Partition.rel_le_iff_le.mp ?_
    intro node another related
    obtain ⟨present, connected⟩ := (rel_partition_iff formed).mp related
    clear related
    induction connected with
    | refl => exact Partition.rel_rfl_iff.mpr present
    | tail _ joined ih => exact ih.trans (together _ _ joined)

end Graph

end Retrieval
