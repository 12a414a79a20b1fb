import Mathlib.Data.Set.Card
import Retrieval.Proofs.Graph.Label
import Retrieval.Proofs.Table.Order

/-!
# Clusters of a graph

Clustering finds the classes of nodes that edges connect.  It numbers them by
their smallest nodes, from zero on without a gap, and writes to every node the
number of its class; everything else about the graph stays, and a second
clustering writes what is there.
-/

namespace Retrieval

namespace Graph

def placeOf (graph : Graph) (node : String) : Nat :=
  graph.components.findIdx fun component => node ∈ component

def Connected (graph : Graph) : String → String → Prop := Relation.ReflTransGen graph.Joined

def classOf (graph : Graph) (node : String) : Set String := {other | graph.Connected node other}

def classes (graph : Graph) : Set (Set String) :=
  {members | ∃ node, graph.hasNode node = true ∧ members = graph.classOf node}

/-- The classes with a smaller least node than that of the class of a node. -/
def classesBefore (graph : Graph) (node : String) : Set (Set String) :=
  {members | members ∈ graph.classes ∧ ∃ smaller least, IsLeast members smaller ∧
    IsLeast (graph.classOf node) least ∧ smaller < least}

/-! ## Components and nodes -/

theorem disjoint_components (graph : Graph) : graph.components.Pairwise List.Disjoint := by
  have once : graph.components.flatten.Nodup :=
    (Flood.perm_flatten_components graph.neighbours graph.nodes.keys).nodup_iff.mpr
      graph.nodes.nodup_keys
  exact (List.nodup_flatten.mp once).2

theorem exists_component_iff (graph : Graph) (node : String) :
    (∃ component ∈ graph.components, node ∈ component) ↔ graph.hasNode node = true := by
  rw [← List.mem_flatten]
  exact (Flood.perm_flatten_components _ _).mem_iff.trans Table.mem_keys

theorem length_components_le (graph : Graph) : graph.components.length ≤ graph.nodeCount := by
  have firsts := (Flood.sublist_firsts graph.neighbours graph.nodes.keys).length_le
  rw [List.length_map, Table.length_keys] at firsts
  exact firsts

theorem placeOf_lt {graph : Graph} {node : String} (present : graph.hasNode node = true) :
    graph.placeOf node < graph.components.length := by
  obtain ⟨component, listed, inside⟩ := (graph.exists_component_iff node).mpr present
  exact List.findIdx_lt_length_of_exists ⟨component, listed, decide_eq_true inside⟩

theorem mem_component_placeOf {graph : Graph} {node : String}
    (found : graph.placeOf node < graph.components.length) :
    node ∈ graph.components[graph.placeOf node] :=
  of_decide_eq_true (List.findIdx_getElem (w := found))

theorem placeOf_eq {graph : Graph} {place : Nat} (listed : place < graph.components.length)
    {node : String} (inside : node ∈ graph.components[place]) : graph.placeOf node = place := by
  refine (List.findIdx_eq listed).mpr ⟨decide_eq_true inside, ?_⟩
  intro earlier before
  have apart := List.pairwise_iff_getElem.mp graph.disjoint_components earlier place
    (before.trans listed) listed before
  exact decide_eq_false fun both => apart both inside

/-! ## The graph after clustering -/

theorem sameEdges_labelComponents (graph : Graph) : graph.SameEdges graph.labelComponents := by
  rw [labelComponents_eq]
  exact sameEdges_labelFrom 0 graph graph.components

/-- Every node has the place of its component written to it. -/
theorem node?_labelComponents (graph : Graph) (node : String) :
    graph.labelComponents.node? node =
      (graph.node? node).map (labelled (graph.placeOf node)) := by
  rw [labelComponents_eq, node?_labelFrom 0 graph graph.disjoint_components]
  cases present : graph.node? node with
  | none =>
      have absent : graph.components.findIdx? (node ∈ ·) = none := by
        rw [List.findIdx?_eq_none_iff]
        intro component listed
        refine decide_eq_false fun inside => ?_
        have known := (graph.exists_component_iff node).mp ⟨component, listed, inside⟩
        rw [hasNode, Table.contains, ← node?, present] at known
        cases known
      rw [absent]
      rfl
  | some properties =>
      have known : graph.hasNode node = true := Table.contains_iff.mpr ⟨properties, present⟩
      obtain ⟨component, listed, inside⟩ := (graph.exists_component_iff node).mpr known
      have found : graph.components.findIdx? (node ∈ ·) = some (graph.placeOf node) :=
        List.findIdx?_eq_some_of_exists ⟨component, listed, decide_eq_true inside⟩
      rw [found]
      simp only [Nat.zero_add, Option.getD_some, Option.map_some]

theorem hasNode_labelComponents (graph : Graph) (node : String) :
    graph.labelComponents.hasNode node = graph.hasNode node := by
  have found := graph.node?_labelComponents node
  rw [hasNode, hasNode, Table.contains, Table.contains, ← node?, ← node?, found,
    Option.isSome_map]

theorem keys_labelComponents (graph : Graph) :
    graph.labelComponents.nodes.keys = graph.nodes.keys :=
  Table.keys_eq_of_contains graph.hasNode_labelComponents

theorem components_labelComponents (graph : Graph) :
    graph.labelComponents.components = graph.components := by
  rw [components, components, graph.sameEdges_labelComponents.neighbours_eq,
    graph.keys_labelComponents]

theorem labelComponents_labelComponents (graph : Graph) :
    graph.labelComponents.labelComponents = graph.labelComponents := by
  have again := graph.labelComponents.sameEdges_labelComponents
  have nodes : graph.labelComponents.labelComponents.nodes = graph.labelComponents.nodes := by
    apply Table.ext_get?
    intro node
    have second := graph.labelComponents.node?_labelComponents node
    have place : graph.labelComponents.placeOf node = graph.placeOf node := by
      rw [placeOf, placeOf, components_labelComponents]
    rw [place, graph.node?_labelComponents, Option.map_map] at second
    refine second.trans ?_
    refine Eq.trans ?_ (graph.node?_labelComponents node).symm
    congr 1
    funext properties
    exact labelled_labelled _ _
  cases first : graph.labelComponents.labelComponents with
  | mk name table edges adjacency =>
      rw [first] at again nodes
      cases second : graph.labelComponents with
      | mk name' table' edges' adjacency' =>
          rw [second] at again nodes
          obtain ⟨sameName, sameEdges, sameAdjacency⟩ := again
          cases sameName
          cases sameEdges
          cases sameAdjacency
          cases nodes
          rfl

theorem WellFormed.labelComponents {graph : Graph} (formed : graph.WellFormed) :
    graph.labelComponents.WellFormed where
  adjacent := by
    intro node
    rw [graph.sameEdges_labelComponents.adjacency, hasNode_labelComponents]
    exact formed.adjacent node
  joined := by
    intro node other
    rw [graph.sameEdges_labelComponents.neighbours_eq, formed.joined, Joined, Joined, hasEdge,
      hasEdge, graph.sameEdges_labelComponents.edges]

theorem Reachable.wellFormed {graph : Graph} (reached : Reachable graph) : graph.WellFormed := by
  induction reached with
  | empty name => exact wellFormed_empty name
  | perform _ operation ih =>
      cases operation with
      | upsertNode node properties => exact ih.upsertNode node properties
      | upsertEdge source target properties => exact ih.upsertEdge source target properties
      | cluster algorithm =>
          cases algorithm
          exact ih.labelComponents

/-! ## Components and classes -/

variable {graph : Graph}

theorem WellFormed.path_eq (formed : graph.WellFormed) :
    Flood.Path graph.neighbours = graph.Connected := by
  have steps : Flood.Step graph.neighbours = graph.Joined := by
    funext node other
    exact propext (formed.joined node other)
  rw [Flood.Path, Connected, steps]

theorem Connected.symm {node other : String} (connected : graph.Connected node other) :
    graph.Connected other node := by
  induction connected with
  | refl => exact Relation.ReflTransGen.refl
  | tail _ joined ih => exact Relation.ReflTransGen.head joined.symm ih

theorem mem_component_iff (formed : graph.WellFormed) {component : List String}
    (listed : component ∈ graph.components) (node : String) :
    node ∈ component ↔ graph.Connected (Flood.first component) node := by
  rw [← formed.path_eq]
  exact Flood.mem_component_iff formed.undirected listed node

theorem first_mem (formed : graph.WellFormed) {component : List String}
    (listed : component ∈ graph.components) : Flood.first component ∈ component :=
  (mem_component_iff formed listed _).mpr Relation.ReflTransGen.refl

theorem classOf_eq (formed : graph.WellFormed) {component : List String}
    (listed : component ∈ graph.components) {node : String} (inside : node ∈ component) :
    graph.classOf node = {other | other ∈ component} := by
  have reached := (mem_component_iff formed listed node).mp inside
  ext other
  change graph.Connected node other ↔ other ∈ component
  rw [mem_component_iff formed listed]
  constructor
  · intro connected
    exact reached.trans connected
  · intro connected
    exact reached.symm.trans connected

theorem isLeast_first (formed : graph.WellFormed) {component : List String}
    (listed : component ∈ graph.components) :
    IsLeast {node | node ∈ component} (Flood.first component) := by
  refine ⟨first_mem formed listed, ?_⟩
  intro node inside
  exact Flood.first_le graph.nodes.pairwise_keys_lt listed inside

theorem first_lt_first {place other : Nat} (before : place < other)
    (listed : place < graph.components.length) (otherListed : other < graph.components.length) :
    Flood.first graph.components[place] < Flood.first graph.components[other] := by
  have ascending : (graph.components.map Flood.first).Pairwise (· < ·) :=
    graph.nodes.pairwise_keys_lt.sublist (Flood.sublist_firsts _ _)
  exact List.pairwise_iff_getElem.mp (List.pairwise_map.mp ascending) place other listed
    otherListed before

theorem first_lt_first_iff {place other : Nat} (listed : place < graph.components.length)
    (otherListed : other < graph.components.length) :
    Flood.first graph.components[place] < Flood.first graph.components[other] ↔
      place < other := by
  constructor
  · intro smaller
    rcases Nat.lt_trichotomy place other with before | same | after
    · exact before
    · subst same
      exact absurd smaller (lt_irrefl _)
    · exact absurd smaller (first_lt_first after otherListed listed).asymm
  · intro before
    exact first_lt_first before listed otherListed

/-! ## Counting classes -/

def membersAt (graph : Graph) (place : Nat) : Set String :=
  {node | node ∈ graph.components.getD place []}

theorem membersAt_eq {place : Nat} (listed : place < graph.components.length) :
    graph.membersAt place = {node | node ∈ graph.components[place]} := by
  rw [membersAt, List.getD_eq_getElem?_getD, List.getElem?_eq_getElem listed, Option.getD_some]

theorem injOn_membersAt (formed : graph.WellFormed) (count : Nat)
    (within : count ≤ graph.components.length) :
    Set.InjOn graph.membersAt (Finset.range count) := by
  intro place inside other otherInside same
  have listed := (Finset.mem_range.mp inside).trans_le within
  have otherListed := (Finset.mem_range.mp otherInside).trans_le within
  rw [membersAt_eq listed, membersAt_eq otherListed] at same
  have first := first_mem formed (List.getElem_mem listed)
  have elsewhere : Flood.first graph.components[place] ∈ graph.components[other] :=
    (Set.ext_iff.mp same _).mp first
  rw [← placeOf_eq listed first, ← placeOf_eq otherListed elsewhere]

theorem encard_membersAt (formed : graph.WellFormed) {count : Nat}
    (within : count ≤ graph.components.length) :
    (graph.membersAt '' Finset.range count).encard = count := by
  rw [(injOn_membersAt formed count within).encard_image, Set.encard_coe_eq_coe_finsetCard,
    Finset.card_range]

theorem classes_eq (formed : graph.WellFormed) :
    graph.classes = graph.membersAt '' Finset.range graph.components.length := by
  ext members
  constructor
  · rintro ⟨node, present, rfl⟩
    have listed := placeOf_lt present
    refine ⟨graph.placeOf node, Finset.mem_coe.mpr (Finset.mem_range.mpr listed), ?_⟩
    rw [membersAt_eq listed]
    exact (classOf_eq formed (List.getElem_mem listed) (mem_component_placeOf listed)).symm
  · rintro ⟨place, inside, rfl⟩
    have listed := Finset.mem_range.mp (Finset.mem_coe.mp inside)
    have first := first_mem formed (List.getElem_mem listed)
    refine ⟨Flood.first graph.components[place],
      (graph.exists_component_iff _).mp ⟨_, List.getElem_mem listed, first⟩, ?_⟩
    rw [membersAt_eq listed]
    exact (classOf_eq formed (List.getElem_mem listed) first).symm

theorem classesBefore_eq (formed : graph.WellFormed) {node : String}
    (present : graph.hasNode node = true) :
    graph.classesBefore node = graph.membersAt '' Finset.range (graph.placeOf node) := by
  have listed := placeOf_lt present
  have own := classOf_eq formed (List.getElem_mem listed) (mem_component_placeOf listed)
  have ownLeast := isLeast_first formed (List.getElem_mem listed)
  ext members
  constructor
  · rintro ⟨among, smaller, least, isSmaller, isLeast, before⟩
    rw [classes_eq formed] at among
    obtain ⟨place, inside, rfl⟩ := among
    have otherListed := Finset.mem_range.mp (Finset.mem_coe.mp inside)
    rw [membersAt_eq otherListed] at isSmaller
    rw [own] at isLeast
    rw [isSmaller.unique (isLeast_first formed (List.getElem_mem otherListed)),
      isLeast.unique ownLeast, first_lt_first_iff otherListed listed] at before
    exact ⟨place, Finset.mem_coe.mpr (Finset.mem_range.mpr before), rfl⟩
  · rintro ⟨place, inside, rfl⟩
    have before := Finset.mem_range.mp (Finset.mem_coe.mp inside)
    have otherListed := before.trans listed
    refine ⟨?_, _, _, ?_, ?_, first_lt_first before otherListed listed⟩
    · rw [classes_eq formed]
      exact ⟨place, Finset.mem_coe.mpr (Finset.mem_range.mpr otherListed), rfl⟩
    · rw [membersAt_eq otherListed]
      exact isLeast_first formed (List.getElem_mem otherListed)
    · rw [own]
      exact ownLeast

theorem placeOf_eq_iff (formed : graph.WellFormed) {node other : String}
    (present : graph.hasNode node = true) (otherPresent : graph.hasNode other = true) :
    graph.placeOf node = graph.placeOf other ↔ graph.Connected node other := by
  have listed := placeOf_lt present
  have otherListed := placeOf_lt otherPresent
  have own := classOf_eq formed (List.getElem_mem listed) (mem_component_placeOf listed)
  have shared : graph.Connected node other ↔ other ∈ graph.components[graph.placeOf node] :=
    Set.ext_iff.mp own other
  rw [shared]
  constructor
  · intro same
    simp only [same]
    exact mem_component_placeOf otherListed
  · intro inside
    exact (placeOf_eq listed inside).symm

/-! ## Labels -/

/-- After clustering the label of a node is the place of its component. -/
theorem clusterOf?_labelComponents (counted : graph.nodeCount ≤ 2 ^ 64) {node : String}
    (present : graph.hasNode node = true) :
    graph.labelComponents.clusterOf? node = some (graph.placeOf node) := by
  have fits : graph.placeOf node < 2 ^ 64 :=
    (placeOf_lt present).trans_le (graph.length_components_le.trans counted)
  obtain ⟨properties, found⟩ := Table.contains_iff.mp present
  have carried : graph.labelComponents.node? node =
      some (labelled (graph.placeOf node) properties) := by
    rw [node?_labelComponents, node?, found, Option.map_some]
  have written : (labelled (graph.placeOf node) properties).get? ClusterLabel.property =
      some (ClusterLabel.write ⟨0, graph.placeOf node⟩) :=
    Table.get?_insert_self _ _ _
  have level : 0 < 2 ^ 32 := by decide
  have read : ClusterLabel.readAll? (ClusterLabel.write ⟨0, graph.placeOf node⟩) =
      some [⟨0, graph.placeOf node⟩] := ClusterLabel.readAll?_write level fits
  simp only [clusterOf?, carried, written, read, Option.bind_eq_bind, Option.bind_some,
    List.head?_cons, Option.map_some]

theorem exists_label_iff (formed : graph.WellFormed) (counted : graph.nodeCount ≤ 2 ^ 64)
    (label : Nat) :
    (∃ node, graph.hasNode node = true ∧ graph.labelComponents.clusterOf? node = some label) ↔
      label < graph.components.length := by
  constructor
  · rintro ⟨node, present, labelled⟩
    rw [clusterOf?_labelComponents counted present] at labelled
    cases labelled
    exact placeOf_lt present
  · intro listed
    have first := first_mem formed (List.getElem_mem listed)
    have present := (graph.exists_component_iff _).mp ⟨_, List.getElem_mem listed, first⟩
    refine ⟨Flood.first graph.components[label], present, ?_⟩
    rw [clusterOf?_labelComponents counted present, placeOf_eq listed first]

theorem get?_node?_labelComponents (graph : Graph) (node : String) {key : String}
    (other : key ≠ ClusterLabel.property) :
    (graph.labelComponents.node? node).map (·.get? key) =
      (graph.node? node).map (·.get? key) := by
  rw [node?_labelComponents, Option.map_map]
  congr 1
  funext properties
  exact Table.get?_insert_of_ne _ _ other

/-- Clustering a graph, as every run may have left it and with as many nodes as can be counted
in sixty-four bits, labels each node with the number of connected components that have a smaller
least node than its own.  So nodes share a label exactly if a path joins them, and the labels are
the numbers below the number of components.  It changes nothing else, and nothing at all if it is
done again. -/
theorem cluster_labels_components {graph clustered : Graph} (reached : Reachable graph)
    (counted : graph.nodeCount ≤ 2 ^ 64)
    (done : graph.cluster .connectedComponents = clustered) :
    (∀ node, graph.hasNode node = true → ∃ label, clustered.clusterOf? node = some label ∧
      (graph.classesBefore node).encard = label) ∧
    (∀ node other, graph.hasNode node = true → graph.hasNode other = true →
      (clustered.clusterOf? node = clustered.clusterOf? other ↔ graph.Connected node other)) ∧
    (∃ count : Nat, graph.classes.encard = count ∧ ∀ label,
      (∃ node, graph.hasNode node = true ∧ clustered.clusterOf? node = some label) ↔
        label < count) ∧
    clustered.nodes.keys = graph.nodes.keys ∧ clustered.edges = graph.edges ∧
    clustered.adjacency = graph.adjacency ∧ clustered.name = graph.name ∧
    (∀ node key, key ≠ ClusterLabel.property →
      (clustered.node? node).map (·.get? key) = (graph.node? node).map (·.get? key)) ∧
    clustered.cluster .connectedComponents = clustered := by
  obtain rfl : graph.labelComponents = clustered := done
  have formed := reached.wellFormed
  have same := graph.sameEdges_labelComponents
  refine ⟨?_, ?_, ⟨graph.components.length, ?_, exists_label_iff formed counted⟩,
    graph.keys_labelComponents, same.edges, same.adjacency, same.name, ?_,
    graph.labelComponents_labelComponents⟩
  · intro node present
    refine ⟨graph.placeOf node, clusterOf?_labelComponents counted present, ?_⟩
    rw [classesBefore_eq formed present]
    exact encard_membersAt formed (placeOf_lt present).le
  · intro node other present otherPresent
    rw [clusterOf?_labelComponents counted present,
      clusterOf?_labelComponents counted otherPresent, Option.some.injEq]
    exact placeOf_eq_iff formed present otherPresent
  · rw [classes_eq formed]
    exact encard_membersAt formed le_rfl
  · intro node key other
    exact graph.get?_node?_labelComponents node other

/-- An edge between two nodes, one of which came with a label of its own. -/
theorem cluster_labels_components_of_one_edge :
    ∃ graph clustered : Graph, Reachable graph ∧ graph.nodeCount = 2 ∧
      graph.cluster .connectedComponents = clustered ∧
      (graph.node? "a").bind (·.get? ClusterLabel.property) = some "7" ∧
      clustered.clusterOf? "a" = clustered.clusterOf? "b" ∧
      (∃ label, clustered.clusterOf? "a" = some label ∧
        (graph.classesBefore "a").encard = label) ∧
      clustered.cluster .connectedComponents = clustered := by
  let planted : Properties := Table.ofList [(ClusterLabel.property, "7")]
  let graph := ((empty "test").upsertNode "a" planted).upsertEdge "a" "b" Table.empty
  have reached : Reachable graph :=
    ((Reachable.empty "test").perform (.upsertNode "a" planted)).perform
      (.upsertEdge "a" "b" Table.empty)
  have counted : graph.nodeCount = 2 := by decide
  have first : graph.hasNode "a" = true := by decide
  have second : graph.hasNode "b" = true := by decide
  have joined : graph.Joined "a" "b" := by
    change graph.hasEdge "a" "b" = true
    decide
  have bound : graph.nodeCount ≤ 2 ^ 64 := by
    rw [counted]
    decide
  obtain ⟨labels, shared, -, -, -, -, -, -, again⟩ := cluster_labels_components reached bound rfl
  refine ⟨graph, _, reached, counted, rfl, by decide, ?_, labels "a" first, again⟩
  exact (shared "a" "b" first second).mpr (Relation.ReflTransGen.single joined)

end Graph

end Retrieval
