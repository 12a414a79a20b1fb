import Retrieval.Proofs.Graph.Degrees

/-!
# What a graph was told

A graph answers by the operations that it went through.  A node is there if an
operation named it, with the properties of its last upsert; an edge is there if
an operation joined its ends, in either order, with the properties of the last
one that did.  Neighbours are the other ends of edges, so the degrees count every
edge twice, and a loop once.
-/

namespace Retrieval

namespace Graph

namespace Operation

def named : Operation → List String
  | .upsertNode node _ => [node]
  | .upsertEdge source target _ => [source, target]
  | .cluster _ => []

/-- The properties that an operation gives to a node. -/
def forNode? (node : String) : Operation → Option Properties
  | .upsertNode other properties => if node = other then some properties else none
  | _ => none

/-- The properties that an operation gives to the edge between a pair of nodes. -/
def forPair? (pair : Sym2 String) : Operation → Option Properties
  | .upsertEdge source target properties =>
      if pair = s(source, target) then some properties else none
  | _ => none

end Operation

/-- What can be asked of a graph: an operation, or several upserts of one kind at once. -/
inductive Request where
  | single (operation : Operation)
  | upsertNodes (nodes : List (String × Properties))
  | upsertEdges (edges : List (String × String × Properties))

namespace Request

def perform (graph : Graph) : Request → Graph
  | .single operation => operation.perform graph
  | .upsertNodes nodes => graph.upsertNodes nodes
  | .upsertEdges edges => graph.upsertEdges edges

/-- The operations that a request stands for, in order. -/
def operations : Request → List Operation
  | .single operation => [operation]
  | .upsertNodes nodes => nodes.map fun node => .upsertNode node.1 node.2
  | .upsertEdges edges => edges.map fun edge => .upsertEdge edge.1 edge.2.1 edge.2.2

theorem perform_eq (graph : Graph) (request : Request) :
    request.perform graph = request.operations.foldl Operation.perform graph := by
  cases request with
  | single operation => rfl
  | upsertNodes nodes =>
      rw [operations, List.foldl_map]
      rfl
  | upsertEdges edges =>
      rw [operations, List.foldl_map]
      rfl

end Request

/-- A graph after some requests, without nodes before them. -/
def ofRequests (name : String) (requests : List Request) : Graph :=
  requests.foldl Request.perform (empty name)

/-- All operations that some requests stand for. -/
def history (requests : List Request) : List Operation := requests.flatMap Request.operations

/-- The properties of the last upsert of a node. -/
def lastOfNode? (history : List Operation) (node : String) : Option Properties :=
  history.findSomeRev? (Operation.forNode? node)

/-- The properties of the last upsert of the edge between a pair of nodes. -/
def lastOfPair? (history : List Operation) (pair : Sym2 String) : Option Properties :=
  history.findSomeRev? (Operation.forPair? pair)

/-- The pairs of nodes that operations joined. -/
def joinedPairs (history : List Operation) : Set (Sym2 String) :=
  {pair | ∃ operation ∈ history, (operation.forPair? pair).isSome}

theorem ofRequests_eq (name : String) (requests : List Request) :
    ofRequests name requests = (history requests).foldl Operation.perform (empty name) := by
  rw [ofRequests, history, List.foldl_flatMap]
  congr 1
  funext graph request
  exact request.perform_eq graph

/-! ## One operation -/

/-- The nodes, the properties and the edges of a graph are those that a history tells. -/
structure Recalls (graph : Graph) (history : List Operation) : Prop where
  nodes : ∀ node, graph.hasNode node = true ↔ ∃ operation ∈ history, node ∈ operation.named
  properties : ∀ node key, key ≠ ClusterLabel.property →
    ((graph.node? node).getD Table.empty).get? key =
      ((lastOfNode? history node).getD Table.empty).get? key
  edges : ∀ node other, graph.edge? node other = lastOfPair? history s(node, other)
  canonical : graph.Canonical

section Step

variable {graph : Graph} {history : List Operation}

theorem named_concat (history : List Operation) (operation : Operation) (node : String) :
    (∃ earlier ∈ history ++ [operation], node ∈ earlier.named) ↔
      node ∈ operation.named ∨ ∃ earlier ∈ history, node ∈ earlier.named := by
  simp only [List.mem_append, List.mem_singleton, or_and_right, exists_or, exists_eq_left]
  exact or_comm

theorem findSomeRev?_concat {α β : Type} (answer? : α → Option β) (items : List α) (item : α) :
    (items ++ [item]).findSomeRev? answer? = (answer? item).or (items.findSomeRev? answer?) := by
  rw [List.findSomeRev?_eq_findSome?_reverse, List.findSomeRev?_eq_findSome?_reverse,
    List.reverse_append, List.findSome?_append, List.reverse_singleton, List.findSome?_singleton]

theorem lastOfNode?_concat (history : List Operation) (operation : Operation) (node : String) :
    lastOfNode? (history ++ [operation]) node =
      (operation.forNode? node).or (lastOfNode? history node) :=
  findSomeRev?_concat _ history operation

theorem lastOfPair?_concat (history : List Operation) (operation : Operation)
    (pair : Sym2 String) :
    lastOfPair? (history ++ [operation]) pair =
      (operation.forPair? pair).or (lastOfPair? history pair) :=
  findSomeRev?_concat _ history operation

theorem isSome_lastOfPair? (history : List Operation) (pair : Sym2 String) :
    (lastOfPair? history pair).isSome = true ↔ pair ∈ joinedPairs history := by
  simp [lastOfPair?, joinedPairs]

theorem recalls_empty (name : String) : (empty name).Recalls [] where
  nodes := by simp [hasNode, empty, Table.contains]
  properties := fun _ _ _ => rfl
  edges := fun _ _ => rfl
  canonical := by
    intro link present
    cases present

theorem node?_upsertNode (graph : Graph) (node other : String) (properties : Properties) :
    (graph.upsertNode node properties).node? other =
      if other = node then some properties else graph.node? other :=
  Table.get?_insert _ _ _ _

theorem Recalls.upsertNode (recalls : graph.Recalls history) (node : String)
    (properties : Properties) :
    (graph.upsertNode node properties).Recalls (history ++ [.upsertNode node properties]) where
  nodes := by
    intro other
    rw [hasNode_upsertNode, Bool.or_eq_true, decide_eq_true_eq, recalls.nodes, named_concat,
      Operation.named, List.mem_singleton]
  properties := by
    intro other key unlabelled
    rw [lastOfNode?_concat, node?_upsertNode]
    by_cases same : other = node
    · simp [Operation.forNode?, same]
    · simpa [Operation.forNode?, same] using recalls.properties other key unlabelled
  edges := by
    intro other another
    rw [lastOfPair?_concat]
    exact recalls.edges other another
  canonical := recalls.canonical

theorem getD_node?_join (graph : Graph) (node neighbour other : String) :
    ((graph.join node neighbour).node? other).getD Table.empty =
      (graph.node? other).getD Table.empty := by
  have ensured : (graph.join node neighbour).node? other =
      if other = node then some ((graph.node? node).getD Table.empty) else graph.node? other :=
    Table.get?_ensure _ _ _ _
  rw [ensured]
  by_cases same : other = node
  · rw [if_pos same, same]
    rfl
  · rw [if_neg same]

theorem edge?_upsertEdge (graph : Graph) (source target : String) (properties : Properties)
    (node other : String) :
    (graph.upsertEdge source target properties).edge? node other =
      if s(node, other) = s(source, target) then some properties else graph.edge? node other := by
  have inserted : (graph.upsertEdge source target properties).edge? node other =
      if Link.canonical node other = Link.canonical source target then some properties
      else graph.edge? node other :=
    Table.get?_insert _ _ _ _
  rw [inserted]
  simp only [Link.canonical_eq_iff_pair]

theorem Recalls.upsertEdge (recalls : graph.Recalls history) (source target : String)
    (properties : Properties) :
    (graph.upsertEdge source target properties).Recalls
      (history ++ [.upsertEdge source target properties]) where
  nodes := by
    intro node
    rw [hasNode_upsertEdge, Bool.or_eq_true, Bool.or_eq_true, decide_eq_true_eq,
      decide_eq_true_eq, recalls.nodes, named_concat, Operation.named, List.mem_pair, or_left_comm,
      or_assoc]
  properties := by
    intro node key unlabelled
    rw [lastOfNode?_concat, Graph.upsertEdge, getD_node?_join, getD_node?_join]
    exact recalls.properties node key unlabelled
  edges := by
    intro node other
    rw [lastOfPair?_concat, edge?_upsertEdge, recalls.edges]
    by_cases same : s(node, other) = s(source, target)
    · simp [Operation.forPair?, same]
    · simp [Operation.forPair?, same]
  canonical := by
    intro link present
    have inserted : (graph.edges.insert (Link.canonical source target) properties).contains link =
        true := present
    rw [Table.contains_insert, Bool.or_eq_true, decide_eq_true_eq] at inserted
    rcases inserted with rfl | before
    · exact Link.canonical_canonical source target
    · exact recalls.canonical link before

theorem Recalls.cluster (recalls : graph.Recalls history) (algorithm : ClusterAlgorithm) :
    (graph.cluster algorithm).Recalls (history ++ [.cluster algorithm]) := by
  cases algorithm with
  | connectedComponents =>
      have same := graph.sameEdges_labelComponents
      constructor
      case nodes =>
        intro node
        refine (Bool.eq_iff_iff.mp (graph.hasNode_labelComponents node)).trans ?_
        rw [recalls.nodes, named_concat, Operation.named]
        simp only [List.not_mem_nil, false_or]
      case properties =>
        intro node key unlabelled
        have kept := graph.get?_node?_labelComponents node unlabelled
        have getD_get? (found : Option Properties) :
            (found.getD Table.empty).get? key = (found.map (·.get? key)).getD none := by
          cases found <;> rfl
        rw [lastOfNode?_concat]
        refine Eq.trans ?_ (recalls.properties node key unlabelled)
        change ((graph.labelComponents.node? node).getD Table.empty).get? key = _
        rw [getD_get?, kept, ← getD_get?]
      case edges =>
        intro node other
        rw [lastOfPair?_concat]
        refine Eq.trans ?_ (recalls.edges node other)
        change graph.labelComponents.edges.get? _ = graph.edges.get? _
        rw [same.edges]
      case canonical =>
        intro link present
        change graph.labelComponents.edges.contains link = true at present
        rw [same.edges] at present
        exact recalls.canonical link present

theorem Recalls.perform (recalls : graph.Recalls history) (operation : Operation) :
    (operation.perform graph).Recalls (history ++ [operation]) := by
  cases operation with
  | upsertNode node properties => exact recalls.upsertNode node properties
  | upsertEdge source target properties => exact recalls.upsertEdge source target properties
  | cluster algorithm => exact recalls.cluster algorithm

theorem Recalls.performAll (recalls : graph.Recalls history) (operations : List Operation) :
    (operations.foldl Operation.perform graph).Recalls (history ++ operations) := by
  induction operations generalizing graph history with
  | nil =>
      rw [List.append_nil]
      exact recalls
  | cons operation rest ih =>
      have step := ih (recalls.perform operation)
      rwa [List.append_assoc] at step

end Step

theorem Reachable.performAll {graph : Graph} (reached : Reachable graph)
    (operations : List Operation) : Reachable (operations.foldl Operation.perform graph) := by
  induction operations generalizing graph with
  | nil => exact reached
  | cons operation rest ih => exact ih (reached.perform operation)

/-! ## All answers of a graph -/

/-- The answers of a graph are told by a history of operations. -/
structure AnswersBy (graph : Graph) (history : List Operation) : Prop where
  /-- The nodes are those that an operation named. -/
  hasNode_iff : ∀ node,
    graph.hasNode node = true ↔ ∃ operation ∈ history, node ∈ operation.named
  /-- A node has the properties that it was last given, or none; the labels are left aside. -/
  node?_eq : ∀ node, graph.hasNode node = true → ∃ properties,
    graph.node? node = some properties ∧ ∀ key, key ≠ ClusterLabel.property →
      properties.get? key = ((lastOfNode? history node).getD Table.empty).get? key
  /-- An edge has the properties that its pair of nodes was last given. -/
  edge?_eq : ∀ node other, graph.edge? node other = lastOfPair? history s(node, other)
  edge?_comm : ∀ node other, graph.edge? node other = graph.edge? other node
  hasEdge_iff : ∀ node other,
    graph.hasEdge node other = true ↔ s(node, other) ∈ joinedPairs history
  /-- A node lists its edges, each of them once, by ascending other end. -/
  mem_edgesFrom_iff : ∀ node walk,
    walk ∈ graph.edgesFrom node ↔ walk.1 = node ∧ graph.hasEdge node walk.2 = true
  edgesFrom_ascending : ∀ node,
    (graph.edgesFrom node).Pairwise fun earlier later => earlier.2 < later.2
  degree_eq : ∀ node, graph.degree node = (graph.edgesFrom node).length
  /-- As many edges as pairs of nodes that were joined. -/
  edgeCount_eq : (joinedPairs history).encard = graph.edgeCount
  /-- The degrees sum to twice the edges less the loops. -/
  sum_degree : ∃ loops : Nat, {node | graph.hasEdge node node = true}.encard = loops ∧
    (graph.nodes.keys.map graph.degree).sum + loops = 2 * graph.edgeCount

/-- A graph that went through any requests, clusterings among them, answers as their history
tells: by the last upsert of a node, and by the last upsert of an edge in either direction. -/
theorem ofRequests_answersBy (name : String) (requests : List Request) :
    (ofRequests name requests).AnswersBy (history requests) := by
  have recalls : (ofRequests name requests).Recalls (history requests) := by
    rw [ofRequests_eq]
    exact (recalls_empty name).performAll (history requests)
  have formed : (ofRequests name requests).WellFormed := by
    rw [ofRequests_eq]
    exact ((Reachable.empty name).performAll (history requests)).wellFormed
  have joined : ∀ node other, (ofRequests name requests).hasEdge node other = true ↔
      s(node, other) ∈ joinedPairs (history requests) := by
    intro node other
    rw [← isSome_lastOfPair?, ← recalls.edges]
    rfl
  constructor
  case hasNode_iff => exact recalls.nodes
  case node?_eq =>
    intro node present
    obtain ⟨properties, found⟩ := Table.contains_iff.mp present
    refine ⟨properties, found, ?_⟩
    intro key unlabelled
    have given := recalls.properties node key unlabelled
    rw [node?, found] at given
    exact given
  case edge?_eq => exact recalls.edges
  case edge?_comm =>
    intro node other
    rw [edge?, Link.canonical_comm]
    rfl
  case hasEdge_iff => exact joined
  case mem_edgesFrom_iff => exact fun node walk => mem_edgesFrom formed
  case edgesFrom_ascending => exact edgesFrom_pairwise _
  case degree_eq => exact fun node => (length_edgesFrom _ node).symm
  case edgeCount_eq =>
    have same : joinedPairs (history requests) = {pair | ∃ node other, pair = s(node, other) ∧
        (ofRequests name requests).hasEdge node other = true} := by
      ext pair
      induction pair with
      | _ first second =>
          constructor
          · intro member
            exact ⟨first, second, rfl, (joined first second).mpr member⟩
          · rintro ⟨node, other, same, edge⟩
            rw [same]
            exact (joined node other).mp edge
    rw [same]
    exact encard_pairs recalls.canonical
  case sum_degree =>
    exact ⟨_, encard_looped _,
      sum_degree_add_length_loops formed recalls.canonical⟩

end Graph

end Retrieval
