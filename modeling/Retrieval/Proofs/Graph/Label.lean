import Retrieval.Proofs.Graph.Run
import Retrieval.Proofs.Json.Number

/-!
# Labelling nodes

Clustering writes to the nodes alone, and to every node the place of its
component.  What it writes is read back as long as places fit sixty-four bits.
-/

namespace Retrieval

namespace ClusterLabel

theorem readable_toJson (label : ClusterLabel) : Json.Readable label.toJson := by
  apply Json.readable_record
  intro field member
  rcases List.mem_cons.mp member with rfl | member
  · exact Json.readable_ofNat label.cluster
  · obtain rfl := List.mem_singleton.mp member
    exact Json.readable_ofNat label.level

theorem ofJson?_toJson {label : ClusterLabel} (level : label.level < UInt32.size)
    (cluster : label.cluster < UInt64.size) : ofJson? label.toJson = some label := by
  have known : label.toJson.members? fieldNames =
      some ⟨[("cluster", .ofNat label.cluster), ("level", .ofNat label.level)]⟩ := rfl
  have levelFound : ([("cluster", Json.ofNat label.cluster), ("level", .ofNat label.level)] :
      List (String × Json)).lookup "level" = some (.ofNat label.level) := rfl
  have clusterFound : ([("cluster", Json.ofNat label.cluster), ("level", .ofNat label.level)] :
      List (String × Json)).lookup "cluster" = some (.ofNat label.cluster) := rfl
  simp only [ofJson?, known, Json.Members.required?, levelFound, clusterFound,
    Json.natural32?_ofNat level, Json.natural64?_ofNat cluster, Option.bind_eq_bind,
    Option.bind_some, Option.pure_def]

theorem readAll?_write {label : ClusterLabel} (level : label.level < UInt32.size)
    (cluster : label.cluster < UInt64.size) : readAll? label.write = some [label] := by
  have readable : Json.Readable (.array [label.toJson]) := by
    refine .array ?_
    intro item member
    rw [List.mem_singleton.mp member]
    exact readable_toJson label
  simp only [readAll?, write, Json.read?_write readable, Json.list?, Json.items?,
    Option.bind_eq_bind, Option.bind_some, List.mapM_cons, List.mapM_nil,
    ofJson?_toJson level cluster, Option.pure_def]

end ClusterLabel

namespace Graph

/-- Properties with the number of a cluster among them. -/
def labelled (cluster : Nat) (properties : Properties) : Properties :=
  properties.insert ClusterLabel.property (ClusterLabel.write ⟨0, cluster⟩)

theorem labelled_labelled (cluster : Nat) (properties : Properties) :
    labelled cluster (labelled cluster properties) = labelled cluster properties :=
  Table.insert_insert _ _ _ _

def labelEach (cluster : Nat) (graph : Graph) (component : List String) : Graph :=
  component.foldl (fun grown node => grown.labelNode cluster node) graph

/-- The components labelled with their places, counted from a number on. -/
def labelFrom (cluster : Nat) (graph : Graph) : List (List String) → Graph
  | [] => graph
  | component :: rest => labelFrom (cluster + 1) (graph.labelEach cluster component) rest

theorem foldl_zipIdx_eq_labelFrom (components : List (List String)) (cluster : Nat)
    (graph : Graph) :
    (components.zipIdx cluster).foldl
      (fun labelled entry => labelled.labelEach entry.2 entry.1) graph =
      graph.labelFrom cluster components := by
  induction components generalizing cluster graph with
  | nil => rfl
  | cons component rest ih => exact ih (cluster + 1) (graph.labelEach cluster component)

theorem labelComponents_eq (graph : Graph) :
    graph.labelComponents = graph.labelFrom 0 graph.components :=
  foldl_zipIdx_eq_labelFrom graph.components 0 graph

/-! ## Nothing but nodes -/

/-- Two graphs with the same name, edges and neighbours. -/
structure SameEdges (graph other : Graph) : Prop where
  name : other.name = graph.name
  edges : other.edges = graph.edges
  adjacency : other.adjacency = graph.adjacency

theorem SameEdges.refl (graph : Graph) : graph.SameEdges graph := ⟨rfl, rfl, rfl⟩

theorem SameEdges.trans {graph other another : Graph} (first : graph.SameEdges other)
    (second : other.SameEdges another) : graph.SameEdges another :=
  ⟨second.name.trans first.name, second.edges.trans first.edges,
    second.adjacency.trans first.adjacency⟩

theorem SameEdges.neighbours_eq {graph other : Graph} (same : graph.SameEdges other) :
    other.neighbours = graph.neighbours := by
  funext node
  rw [neighbours, neighbours, same.adjacency]

theorem sameEdges_labelEach (cluster : Nat) (graph : Graph) (component : List String) :
    graph.SameEdges (graph.labelEach cluster component) := by
  induction component generalizing graph with
  | nil => exact .refl graph
  | cons node rest ih =>
      have first : graph.SameEdges (graph.labelNode cluster node) := ⟨rfl, rfl, rfl⟩
      exact first.trans (ih (graph.labelNode cluster node))

theorem sameEdges_labelFrom (cluster : Nat) (graph : Graph) (components : List (List String)) :
    graph.SameEdges (graph.labelFrom cluster components) := by
  induction components generalizing cluster graph with
  | nil => exact .refl graph
  | cons component rest ih =>
      exact (sameEdges_labelEach cluster graph component).trans (ih (cluster + 1) _)

/-! ## What the nodes carry -/

theorem node?_labelNode (graph : Graph) (cluster : Nat) (node other : String) :
    (graph.labelNode cluster node).node? other =
      if other = node then some (labelled cluster ((graph.node? node).getD Table.empty))
      else graph.node? other :=
  Table.get?_insert _ _ _ _

/-- Labelling a node again with the same number changes nothing, so repetitions do not matter. -/
theorem node?_labelEach (cluster : Nat) (graph : Graph) (component : List String)
    (node : String) :
    (graph.labelEach cluster component).node? node =
      if node ∈ component then some (labelled cluster ((graph.node? node).getD Table.empty))
      else graph.node? node := by
  induction component generalizing graph with
  | nil => rfl
  | cons first rest ih =>
      have step : (graph.labelEach cluster (first :: rest)).node? node =
          ((graph.labelNode cluster first).labelEach cluster rest).node? node := rfl
      rw [step, ih, node?_labelNode]
      by_cases same : node = first
      · subst same
        simp [labelled_labelled]
      · simp [same]

theorem node?_labelFrom (cluster : Nat) (graph : Graph) {components : List (List String)}
    (disjoint : components.Pairwise List.Disjoint) (node : String) :
    (graph.labelFrom cluster components).node? node =
      match components.findIdx? (node ∈ ·) with
      | none => graph.node? node
      | some place =>
          some (labelled (cluster + place) ((graph.node? node).getD Table.empty)) := by
  induction components generalizing cluster graph with
  | nil => rfl
  | cons component rest ih =>
      obtain ⟨apart, later⟩ := List.pairwise_cons.mp disjoint
      rw [labelFrom, ih _ _ later, List.findIdx?_cons, node?_labelEach]
      by_cases inside : node ∈ component
      · have absent : rest.findIdx? (node ∈ ·) = none := by
          rw [List.findIdx?_eq_none_iff]
          intro other listed
          exact decide_eq_false (apart other listed inside)
        simp [absent, inside]
      · cases rest.findIdx? (node ∈ ·) with
        | none => simp [inside]
        | some place => simp [inside, Nat.add_assoc, Nat.add_comm 1]

end Graph

end Retrieval
