import Retrieval.Graph.Cluster
import Retrieval.Proofs.Graph.Flood
import Retrieval.Proofs.Table

/-!
# Runs of a graph

The operations on a graph, the graphs that runs of them lead to, and what holds
of all those: the neighbours that are kept beside the edges are those that the
edges give, and both ends of an edge are nodes (`WellFormed`).
-/

namespace Retrieval

theorem Link.canonical_eq_iff {source target other another : String} :
    canonical source target = canonical other another ↔
      source = other ∧ target = another ∨ source = another ∧ target = other := by
  constructor
  · intro same
    unfold canonical at same
    split at same <;> split at same <;> cases same
    · exact .inl ⟨rfl, rfl⟩
    · exact .inr ⟨rfl, rfl⟩
    · exact .inr ⟨rfl, rfl⟩
    · exact .inl ⟨rfl, rfl⟩
  · rintro (⟨rfl, rfl⟩ | ⟨rfl, rfl⟩)
    · rfl
    · exact canonical_comm source target

namespace Graph

/-- What can be done to a graph. -/
inductive Operation where
  | upsertNode (node : String) (properties : Properties)
  | upsertEdge (source target : String) (properties : Properties)
  | cluster (algorithm : ClusterAlgorithm)

def Operation.perform (graph : Graph) : Operation → Graph
  | .upsertNode node properties => graph.upsertNode node properties
  | .upsertEdge source target properties => graph.upsertEdge source target properties
  | .cluster algorithm => graph.cluster algorithm

/-- A graph that any number of operations have made out of an empty one. -/
inductive Reachable : Graph → Prop where
  | empty (name : String) : Reachable (Graph.empty name)
  | perform {graph : Graph} (before : Reachable graph) (operation : Operation) :
      Reachable (operation.perform graph)

theorem Reachable.ensureNode {graph : Graph} (reached : Reachable graph) (node : String) :
    Reachable (graph.ensureNode node) := by
  unfold Graph.ensureNode
  split
  · exact reached
  · exact reached.perform (.upsertNode node Table.empty)

/-- Two nodes are the ends of an edge. -/
def Joined (graph : Graph) (node other : String) : Prop := graph.hasEdge node other = true

theorem Joined.symm {graph : Graph} {node other : String} (joined : graph.Joined node other) :
    graph.Joined other node := by
  rw [Joined, hasEdge, Link.canonical_comm]
  exact joined

/-- The neighbours of a node are what edges join to it, and only nodes have any. -/
structure WellFormed (graph : Graph) : Prop where
  adjacent : ∀ node, graph.adjacency.contains node = graph.hasNode node
  joined : ∀ node other, other ∈ graph.neighbours node ↔ graph.Joined node other

/-! ## What the operations do to nodes, edges and neighbours -/

variable {graph : Graph}

theorem hasNode_upsertNode (graph : Graph) (node other : String) (properties : Properties) :
    (graph.upsertNode node properties).hasNode other =
      (decide (other = node) || graph.hasNode other) :=
  Table.contains_insert _ _ _ _

theorem hasNode_ensureNode (graph : Graph) (node other : String) :
    (graph.ensureNode node).hasNode other = (decide (other = node) || graph.hasNode other) := by
  unfold ensureNode
  split
  · next present =>
    by_cases same : other = node
    · rw [same, present, Bool.or_true]
    · rw [decide_eq_false same, Bool.false_or]
  · exact hasNode_upsertNode graph node other Table.empty

theorem joined_ensureNode (graph : Graph) (node other another : String) :
    (graph.ensureNode node).Joined other another ↔ graph.Joined other another := by
  unfold ensureNode
  split <;> exact Iff.rfl

theorem neighbours_upsertNode (graph : Graph) (node other : String) (properties : Properties) :
    (graph.upsertNode node properties).neighbours other = graph.neighbours other := by
  unfold neighbours upsertNode
  dsimp only
  rw [Table.get?_ensure]
  by_cases same : other = node
  · rw [if_pos same, same]
    rfl
  · rw [if_neg same]

theorem hasNode_join (graph : Graph) (node neighbour other : String) :
    (graph.join node neighbour).hasNode other = (decide (other = node) || graph.hasNode other) :=
  Table.contains_ensure _ _ _ _

theorem mem_neighbours_join (graph : Graph) (node neighbour other another : String) :
    another ∈ (graph.join node neighbour).neighbours other ↔
      other = node ∧ another = neighbour ∨ another ∈ graph.neighbours other := by
  unfold neighbours join
  dsimp only
  rw [Table.get?_insert]
  by_cases same : other = node
  · subst same
    simp [KeySet.mem_toList_add]
  · simp [same]

theorem mem_neighbours_upsertEdge (graph : Graph) (source target : String)
    (properties : Properties) (node other : String) :
    other ∈ (graph.upsertEdge source target properties).neighbours node ↔
      (node = source ∧ other = target ∨ node = target ∧ other = source) ∨
        other ∈ graph.neighbours node := by
  unfold upsertEdge
  rw [mem_neighbours_join, mem_neighbours_join]
  constructor
  · rintro (last | first | before)
    · exact .inl (.inr last)
    · exact .inl (.inl first)
    · exact .inr before
  · rintro ((first | last) | before)
    · exact .inr (.inl first)
    · exact .inl last
    · exact .inr (.inr before)

theorem hasNode_upsertEdge (graph : Graph) (source target : String) (properties : Properties)
    (node : String) :
    (graph.upsertEdge source target properties).hasNode node =
      (decide (node = target) || (decide (node = source) || graph.hasNode node)) := by
  unfold upsertEdge
  rw [hasNode_join, hasNode_join]
  rfl

theorem joined_upsertEdge (graph : Graph) (source target : String) (properties : Properties)
    (node other : String) :
    (graph.upsertEdge source target properties).Joined node other ↔
      (node = source ∧ other = target ∨ node = target ∧ other = source) ∨
        graph.Joined node other := by
  have edges : (graph.upsertEdge source target properties).hasEdge node other =
      (graph.edges.insert (Link.canonical source target) properties).contains
        (Link.canonical node other) := rfl
  rw [Joined, edges, Table.contains_insert, Bool.or_eq_true, decide_eq_true_eq,
    Link.canonical_eq_iff]
  rfl

/-! ## Preservation -/

theorem wellFormed_empty (name : String) : (empty name).WellFormed where
  adjacent := fun _ => rfl
  joined := by
    intro node other
    constructor
    · intro member
      cases member
    · intro joined
      cases joined

theorem WellFormed.upsertNode (formed : graph.WellFormed) (node : String)
    (properties : Properties) : (graph.upsertNode node properties).WellFormed where
  adjacent := by
    intro other
    rw [hasNode_upsertNode, ← formed.adjacent]
    exact Table.contains_ensure _ _ _ _
  joined := by
    intro other another
    rw [neighbours_upsertNode]
    exact formed.joined other another

theorem contains_adjacency_join (graph : Graph) (node neighbour other : String) :
    (graph.join node neighbour).adjacency.contains other =
      (decide (other = node) || graph.adjacency.contains other) :=
  Table.contains_insert _ _ _ _

theorem WellFormed.upsertEdge (formed : graph.WellFormed) (source target : String)
    (properties : Properties) : (graph.upsertEdge source target properties).WellFormed where
  adjacent := by
    intro node
    rw [hasNode_upsertEdge, ← formed.adjacent, Graph.upsertEdge, contains_adjacency_join,
      contains_adjacency_join]
  joined := by
    intro node other
    rw [mem_neighbours_upsertEdge, joined_upsertEdge, formed.joined]

theorem WellFormed.hasNode_of_mem (formed : graph.WellFormed) {node other : String}
    (near : other ∈ graph.neighbours node) : graph.hasNode node = true := by
  refine (formed.adjacent node).symm.trans ?_
  cases found : graph.adjacency.get? node with
  | none =>
      rw [neighbours, found] at near
      cases near
  | some set =>
      rw [Table.contains, found]
      rfl

theorem WellFormed.undirected (formed : graph.WellFormed) :
    Flood.Undirected graph.neighbours graph.nodes.keys where
  symmetric := by
    intro node other step
    exact (formed.joined other node).mpr ((formed.joined node other).mp step).symm
  inside := by
    intro node _ other step
    have back : node ∈ graph.neighbours other :=
      (formed.joined other node).mpr ((formed.joined node other).mp step).symm
    exact Table.mem_keys.mpr (formed.hasNode_of_mem back)

end Graph

end Retrieval
