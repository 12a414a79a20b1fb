import Retrieval.Proofs.Graph.Communities

/-!
# Communities by label

The communities of a graph are told by the labels that its nodes carry at the
time, whether they are of the last clustering, out of date or planted.  Each
label makes one community, of the nodes that carry it and the edges that touch
one of these; an edge between two labels is in both communities.
-/

namespace Retrieval

namespace Graph

variable {graph : Graph} {node key : String} {label : Nat} {community : Community}

theorem hasNode_of_clusterOf? (labelled : graph.clusterOf? node = some label) :
    graph.hasNode node = true := by
  rw [hasNode, Table.contains_iff]
  obtain ⟨properties, found, -⟩ := Option.bind_eq_some_iff.mp labelled
  exact ⟨properties, found⟩

theorem mem_labelledNodes_iff :
    (node, label) ∈ graph.labelledNodes ↔ graph.clusterOf? node = some label := by
  rw [labelledNodes, List.mem_filterMap]
  constructor
  · rintro ⟨listed, -, found⟩
    obtain ⟨other, labelled, same⟩ := Option.map_eq_some_iff.mp found
    cases same
    exact labelled
  · intro labelled
    refine ⟨node, Table.mem_keys.mpr (hasNode_of_clusterOf? labelled), ?_⟩
    rw [labelled]
    rfl

theorem mem_labels_iff :
    label ∈ graph.labelledNodes.map (·.2) ↔ ∃ node, graph.clusterOf? node = some label := by
  rw [List.mem_map]
  constructor
  · rintro ⟨⟨node, label⟩, listed, rfl⟩
    exact ⟨node, mem_labelledNodes_iff.mp listed⟩
  · rintro ⟨node, labelled⟩
    exact ⟨(node, label), mem_labelledNodes_iff.mpr labelled, rfl⟩

/-- The community of a label, of all nodes that carry it now. -/
def communityBy (graph : Graph) (label : Nat) : Community :=
  graph.communityOf graph.labelledNodes label

/-- Labels in writing differ as the labels do, so every community has its own key. -/
theorem mem_entries_schema_iff :
    (key, community) ∈ graph.schema.entries ↔
      ∃ label, (∃ node, graph.clusterOf? node = some label) ∧ toString label = key ∧
        graph.communityBy label = community := by
  let labels := (KeySet.ofKeys (graph.labelledNodes.map (·.2))).toList
  let bindings := labels.map fun label => (toString label, graph.communityBy label)
  have written : graph.schema = Table.ofList bindings := by
    rw [schema, communities, List.map_map]
    rfl
  have apart : (bindings.map (·.1)).Nodup := by
    rw [List.map_map]
    exact (Table.nodup_keys _).map Digits.toString_injective
  rw [written, (Table.perm_entries_ofList apart).mem_iff, List.mem_map]
  simp only [labels, KeySet.mem_toList_ofKeys, mem_labels_iff, Prod.mk.injEq]

theorem get?_schema_eq_some_iff :
    graph.schema.get? key = some community ↔
      ∃ label, (∃ node, graph.clusterOf? node = some label) ∧ toString label = key ∧
        graph.communityBy label = community :=
  Table.get?_eq_some_iff.trans mem_entries_schema_iff

theorem get?_schema_toString_iff :
    graph.schema.get? (toString label) = some community ↔
      (∃ node, graph.clusterOf? node = some label) ∧ graph.communityBy label = community := by
  rw [get?_schema_eq_some_iff]
  constructor
  · rintro ⟨other, carried, same, rfl⟩
    rw [Digits.toString_injective same] at carried ⊢
    exact ⟨carried, rfl⟩
  · rintro ⟨carried, rfl⟩
    exact ⟨label, carried, rfl, rfl⟩

theorem contains_nodes_communityBy :
    (graph.communityBy label).nodes.contains node = true ↔ graph.clusterOf? node = some label :=
  contains_nodes_communityOf.trans mem_labelledNodes_iff

/-- An edge is in a community if one of its ends is, whatever the label of the other. -/
theorem contains_edges_communityBy (formed : graph.WellFormed) (canonical : graph.Canonical)
    {source target : String} (joined : graph.Joined source target) :
    (graph.communityBy label).edges.contains (Link.canonical source target) = true ↔
      graph.clusterOf? source = some label ∨ graph.clusterOf? target = some label := by
  refine (contains_edges_communityOf formed canonical).trans ((and_iff_right joined).trans ?_)
  rw [mem_labelledNodes_iff, mem_labelledNodes_iff]
  rcases Link.mem_walks.mp (Link.mem_walks_canonical (source, target)) with forward | backward
  · obtain ⟨first, second⟩ := Prod.mk.inj forward
    rw [← first, ← second]
  · obtain ⟨first, second⟩ := Prod.mk.inj backward
    rw [← first, ← second]
    exact or_comm

/-- The communities of a graph, each under a label that nodes carry. -/
structure ByLabel (graph : Graph) (schema : Table String Community) : Prop where
  /-- The keys are the labels of nodes. -/
  key_iff : ∀ key, schema.contains key = true ↔
    ∃ label : Nat, toString label = key ∧ ∃ node, graph.clusterOf? node = some label
  /-- A community is named by its label. -/
  named : ∀ (label : Nat) community, schema.get? (toString label) = some community →
    community.level = 0 ∧ community.title = "Cluster " ++ toString label
  /-- Its nodes are those that carry the label. -/
  node_iff : ∀ (label : Nat) community, schema.get? (toString label) = some community →
    ∀ node, community.nodes.contains node = true ↔ graph.clusterOf? node = some label
  /-- Its edges are those with an end among its nodes. -/
  edge_iff : ∀ (label : Nat) community, schema.get? (toString label) = some community →
    ∀ link, community.edges.contains link = true ↔
      ∃ source target, graph.hasEdge source target = true ∧ link = Link.canonical source target ∧
        (community.nodes.contains source = true ∨ community.nodes.contains target = true)
  /-- Nothing else is known of it. -/
  bare : ∀ (label : Nat) community, schema.get? (toString label) = some community →
    community.chunkIds = [] ∧ community.subCommunities = [] ∧
      community.occurrence = community.countedOccurrence
  /-- A labelled node is in a single community. -/
  once : ∀ node label, graph.clusterOf? node = some label →
    ∃! entry, entry ∈ schema.entries ∧ entry.2.nodes.contains node = true
  /-- A node without a label is in none. -/
  unlabelled : ∀ node, graph.clusterOf? node = none →
    ∀ entry ∈ schema.entries, entry.2.nodes.contains node = false
  /-- An edge is in the communities of its ends. -/
  between : ∀ source target, graph.hasEdge source target = true →
    ∀ (label : Nat) community, schema.get? (toString label) = some community →
      (community.edges.contains (Link.canonical source target) = true ↔
        graph.clusterOf? source = some label ∨ graph.clusterOf? target = some label)

/-- In every state of a graph, with labels of the last clustering, out of date, missing or planted,
there is one community for each label that a node carries.  It has the nodes with that label and
the edges that touch them, so an edge is in the communities of its labelled ends. -/
theorem communities_by_label (reached : Reachable graph) : graph.ByLabel graph.schema := by
  have formed := reached.wellFormed
  have canonical := reached.canonical
  constructor
  case key_iff =>
    intro key
    rw [Table.contains_iff]
    simp only [get?_schema_eq_some_iff]
    constructor
    · rintro ⟨community, label, carried, written, -⟩
      exact ⟨label, written, carried⟩
    · rintro ⟨label, written, carried⟩
      exact ⟨_, label, carried, written, rfl⟩
  case named =>
    intro label community found
    obtain ⟨-, rfl⟩ := get?_schema_toString_iff.mp found
    exact ⟨rfl, rfl⟩
  case node_iff =>
    intro label community found node
    obtain ⟨-, rfl⟩ := get?_schema_toString_iff.mp found
    exact contains_nodes_communityBy
  case edge_iff =>
    intro label community found link
    obtain ⟨-, rfl⟩ := get?_schema_toString_iff.mp found
    simp only [contains_nodes_communityBy]
    constructor
    · intro inside
      have present := ((contains_edges_communityOf formed canonical).mp inside).1
      have joined := canonical.joined_of_contains present
      have self := canonical link present
      refine ⟨link.source, link.target, joined, self.symm, ?_⟩
      rw [← self] at inside
      exact (contains_edges_communityBy formed canonical joined).mp inside
    · rintro ⟨source, target, joined, rfl, carried⟩
      exact (contains_edges_communityBy formed canonical joined).mpr carried
  case bare =>
    intro label community found
    obtain ⟨-, rfl⟩ := get?_schema_toString_iff.mp found
    exact ⟨rfl, rfl, rfl⟩
  case once =>
    intro node label labelled
    refine ⟨(toString label, graph.communityBy label), ⟨?_, ?_⟩, ?_⟩
    · exact mem_entries_schema_iff.mpr ⟨label, ⟨node, labelled⟩, rfl, rfl⟩
    · exact contains_nodes_communityBy.mpr labelled
    · rintro ⟨key, community⟩ ⟨listed, inside⟩
      obtain ⟨other, -, rfl, rfl⟩ := mem_entries_schema_iff.mp listed
      rw [contains_nodes_communityBy, labelled] at inside
      cases inside
      rfl
  case unlabelled =>
    rintro node missing ⟨key, community⟩ listed
    obtain ⟨label, -, rfl, rfl⟩ := mem_entries_schema_iff.mp listed
    rw [Bool.eq_false_iff]
    intro inside
    rw [contains_nodes_communityBy, missing] at inside
    cases inside
  case between =>
    intro source target joined label community found
    obtain ⟨-, rfl⟩ := get?_schema_toString_iff.mp found
    exact contains_edges_communityBy formed canonical joined

/-- An edge from a node with a label of the last clustering to one with a planted label, and an
edge on to a node without any. -/
theorem communities_by_label_of_planted :
    ∃ graph : Graph, Reachable graph ∧ graph.clusterOf? "a" = some 0 ∧
      graph.clusterOf? "b" = some 7 ∧ graph.clusterOf? "c" = none ∧
      (∃ stale planted, graph.schema.get? "0" = some stale ∧ graph.schema.get? "7" = some planted ∧
        stale.edges.contains (Link.canonical "b" "a") = true ∧
        planted.edges.contains (Link.canonical "b" "a") = true) ∧
      ∀ entry ∈ graph.schema.entries, entry.2.nodes.contains "c" = false := by
  let planted : Properties :=
    Table.ofList [(ClusterLabel.property, "[\x7b\"level\":0,\"cluster\":7\x7d]")]
  let operations : List Operation := [.upsertNode "a" Table.empty, .cluster .connectedComponents,
    .upsertNode "b" planted, .upsertEdge "b" "a" Table.empty, .upsertEdge "b" "c" Table.empty]
  let graph := operations.foldl Operation.perform (empty "test")
  have reached : Reachable graph := (Reachable.empty "test").performAll operations
  have first : graph.clusterOf? "a" = some 0 := by decide +kernel
  have second : graph.clusterOf? "b" = some 7 := by decide +kernel
  have third : graph.clusterOf? "c" = none := by decide +kernel
  have joined : graph.hasEdge "b" "a" = true := by decide +kernel
  have told := communities_by_label reached
  obtain ⟨stale, staleFound⟩ := Table.contains_iff.mp ((told.key_iff "0").mpr ⟨0, rfl, "a", first⟩)
  obtain ⟨other, otherFound⟩ := Table.contains_iff.mp ((told.key_iff "7").mpr ⟨7, rfl, "b", second⟩)
  refine ⟨graph, reached, first, second, third, ⟨stale, other, staleFound, otherFound, ?_, ?_⟩,
    told.unlabelled "c" third⟩
  · exact (told.between "b" "a" joined 0 stale staleFound).mpr (.inr first)
  · exact (told.between "b" "a" joined 7 other otherFound).mpr (.inl second)

end Graph

end Retrieval
