import Retrieval.Proofs.Graph.History

/-!
# Labels over a history

Where no upsert of a node brings labels of its own, a node has the label that
the last clustering gave it until it is upserted again.  Edges leave labels
alone, and the nodes that they bring in have none.
-/

namespace Retrieval

namespace ClusterLabel

/-- The first label among the properties of a node. -/
def ofProperties? (properties : Properties) : Option Nat := do
  let labels ← readAll? (← properties.get? property)
  labels.head?.map cluster

theorem ofProperties?_of_unlabelled {properties : Properties}
    (unlabelled : properties.contains property = false) : ofProperties? properties = none := by
  rw [ofProperties?, Table.get?_eq_none_iff.mpr unlabelled]
  rfl

end ClusterLabel

namespace Graph

variable {graph : Graph} {operation : Operation} {operations : List Operation} {node : String}
  {label : Nat}

/-! ## One operation -/

theorem clusterOf?_eq (graph : Graph) (node : String) :
    graph.clusterOf? node =
      ClusterLabel.ofProperties? ((graph.node? node).getD Table.empty) := by
  rw [clusterOf?]
  cases graph.node? node <;> rfl

theorem clusterOf?_of_absent (absent : graph.hasNode node = false) :
    graph.clusterOf? node = none := by
  have missing : graph.node? node = none := Table.get?_eq_none_iff.mpr absent
  rw [clusterOf?, missing]
  rfl

theorem clusterOf?_upsertNode (graph : Graph) (node other : String) (properties : Properties) :
    (graph.upsertNode node properties).clusterOf? other =
      if other = node then ClusterLabel.ofProperties? properties else graph.clusterOf? other := by
  rw [clusterOf?_eq, clusterOf?_eq, node?_upsertNode]
  by_cases same : other = node
  · rw [if_pos same, if_pos same, Option.getD_some]
  · rw [if_neg same, if_neg same]

theorem clusterOf?_upsertEdge (graph : Graph) (source target : String) (properties : Properties)
    (node : String) :
    (graph.upsertEdge source target properties).clusterOf? node = graph.clusterOf? node := by
  rw [clusterOf?_eq, clusterOf?_eq, upsertEdge, getD_node?_join, getD_node?_join]
  rfl

/-- An operation that brings in no labels, by clustering or with the properties of a node. -/
def Operation.Plain : Operation → Prop
  | .upsertNode _ properties => properties.contains ClusterLabel.property = false
  | .upsertEdge _ _ _ => True
  | .cluster _ => False

theorem clusterOf?_perform_iff (plain : operation.Plain) :
    (operation.perform graph).clusterOf? node = some label ↔
      operation.forNode? node = none ∧ graph.clusterOf? node = some label := by
  cases operation with
  | upsertNode upserted properties =>
      rw [Operation.perform, Operation.forNode?, clusterOf?_upsertNode,
        ClusterLabel.ofProperties?_of_unlabelled plain]
      by_cases same : node = upserted <;> simp [same]
  | upsertEdge source target properties =>
      have apart : (Operation.upsertEdge source target properties).forNode? node = none := rfl
      rw [Operation.perform, clusterOf?_upsertEdge, apart]
      exact (and_iff_right rfl).symm
  | cluster algorithm => exact plain.elim

/-! ## Runs without clusterings -/

theorem lastOfNode?_cons_eq_none_iff :
    lastOfNode? (operation :: operations) node = none ↔
      lastOfNode? operations node = none ∧ operation.forNode? node = none := by
  simp [lastOfNode?, List.findSomeRev?_eq_findSome?_reverse, List.findSome?_append]

theorem lastOfNode?_eq_none_iff :
    lastOfNode? operations node = none ↔
      ∀ properties, .upsertNode node properties ∉ operations := by
  induction operations with
  | nil => simp [lastOfNode?]
  | cons operation rest ih =>
      have untouched : operation.forNode? node = none ↔
          ∀ properties, operation ≠ .upsertNode node properties := by
        cases operation <;> simp [Operation.forNode?, eq_comm]
      rw [lastOfNode?_cons_eq_none_iff, ih, untouched]
      simp only [List.mem_cons, not_or, forall_and, ne_comm, and_comm]

/-- A run of such operations leaves the labels of the nodes that it does not upsert. -/
theorem clusterOf?_performAll_iff (plain : ∀ operation ∈ operations, operation.Plain) :
    (operations.foldl Operation.perform graph).clusterOf? node = some label ↔
      lastOfNode? operations node = none ∧ graph.clusterOf? node = some label := by
  induction operations generalizing graph with
  | nil => simp [lastOfNode?]
  | cons operation rest ih =>
      have first := plain operation List.mem_cons_self
      have others := fun later member => plain later (List.mem_cons_of_mem _ member)
      rw [List.foldl_cons, ih others, clusterOf?_perform_iff first, lastOfNode?_cons_eq_none_iff,
        and_assoc]

/-- The properties that nodes are given hold no labels. -/
def Unplanted (operations : List Operation) : Prop :=
  ∀ node properties, .upsertNode node properties ∈ operations →
    properties.contains ClusterLabel.property = false

theorem Unplanted.plain (unplanted : Unplanted operations)
    (unclustered : ∀ algorithm, .cluster algorithm ∉ operations) :
    ∀ operation ∈ operations, operation.Plain := by
  intro operation member
  cases operation with
  | upsertNode node properties => exact unplanted node properties member
  | upsertEdge source target properties => trivial
  | cluster algorithm => exact absurd member (unclustered algorithm)

/-! ## Runs since a clustering -/

theorem clusterOf?_cluster_iff (counted : graph.nodeCount ≤ 2 ^ 64) (algorithm : ClusterAlgorithm) :
    (graph.cluster algorithm).clusterOf? node = some label ↔
      graph.hasNode node = true ∧ graph.placeOf node = label := by
  cases algorithm with
  | connectedComponents =>
      rw [cluster]
      cases present : graph.hasNode node with
      | true =>
          rw [clusterOf?_labelComponents counted present, Option.some.injEq]
          exact (and_iff_right rfl).symm
      | false =>
          rw [clusterOf?_of_absent ((graph.hasNode_labelComponents node).trans present)]
          simp

theorem recalls_ofRequests (name : String) (requests : List Request) :
    (ofRequests name requests).Recalls (history requests) := by
  rw [ofRequests_eq]
  exact (recalls_empty name).performAll (history requests)

theorem reachable_ofRequests (name : String) (requests : List Request) :
    Reachable (ofRequests name requests) := by
  rw [ofRequests_eq]
  exact (Reachable.empty name).performAll (history requests)

/-- The last clustering of a run, with the requests before it and since. -/
structure LastClustering (requests before : List Request) (algorithm : ClusterAlgorithm)
    (since : List Request) : Prop where
  split : requests = before ++ .single (.cluster algorithm) :: since
  last : ∀ another, .cluster another ∉ history since

theorem exists_lastClustering {requests : List Request} {algorithm : ClusterAlgorithm}
    (clustered : .cluster algorithm ∈ history requests) :
    ∃ before last since, LastClustering requests before last since := by
  induction requests generalizing algorithm with
  | nil => cases clustered
  | cons request rest ih =>
      by_cases later : ∃ another, .cluster another ∈ history rest
      · obtain ⟨another, member⟩ := later
        obtain ⟨before, last, since, split, none⟩ := ih member
        exact ⟨request :: before, last, since, congrArg (request :: ·) split, none⟩
      · have first : .cluster algorithm ∈ request.operations := by
          rw [history, List.flatMap_cons, List.mem_append] at clustered
          exact clustered.resolve_right fun member => later ⟨algorithm, member⟩
        cases request with
        | single operation =>
            cases List.mem_singleton.mp first
            exact ⟨[], algorithm, rest, rfl, fun another member => later ⟨another, member⟩⟩
        | upsertNodes nodes => simp [Request.operations] at first
        | upsertEdges edges => simp [Request.operations] at first

namespace LastClustering

variable {name : String} {requests before since : List Request} {algorithm : ClusterAlgorithm}

theorem history_eq (clustering : LastClustering requests before algorithm since) :
    history requests = history before ++ .cluster algorithm :: history since := by
  rw [clustering.split, history, List.flatMap_append, List.flatMap_cons]
  rfl

theorem ofRequests_eq (clustering : LastClustering requests before algorithm since)
    (name : String) :
    ofRequests name requests =
      (history since).foldl Operation.perform ((ofRequests name before).cluster algorithm) := by
  rw [Graph.ofRequests_eq, Graph.ofRequests_eq, clustering.history_eq, List.foldl_append,
    List.foldl_cons]
  rfl

theorem hasNode (clustering : LastClustering requests before algorithm since)
    (present : (ofRequests name before).hasNode node = true) :
    (ofRequests name requests).hasNode node = true := by
  obtain ⟨operation, member, named⟩ := ((recalls_ofRequests name before).nodes node).mp present
  refine ((recalls_ofRequests name requests).nodes node).mpr ⟨operation, ?_, named⟩
  rw [clustering.history_eq]
  exact List.mem_append_left _ member

theorem nodeCount_le (clustering : LastClustering requests before algorithm since)
    (name : String) :
    (ofRequests name before).nodeCount ≤ (ofRequests name requests).nodeCount := by
  have kept : {node | (ofRequests name before).nodes.contains node = true} ⊆
      {node | (ofRequests name requests).nodes.contains node = true} :=
    fun _ present => clustering.hasNode present
  have sizes := Set.encard_le_encard kept
  rw [Table.encard_keys, Table.encard_keys] at sizes
  exact Nat.cast_le.mp sizes

/-- Since a clustering, the labels are those it gave to nodes that were not upserted. -/
theorem clusterOf?_iff (clustering : LastClustering requests before algorithm since)
    (unplanted : Unplanted (history requests)) :
    (ofRequests name requests).clusterOf? node = some label ↔
      (∀ properties, .upsertNode node properties ∉ history since) ∧
        ((ofRequests name before).cluster algorithm).clusterOf? node = some label := by
  have recent : Unplanted (history since) := by
    intro upserted properties member
    refine unplanted upserted properties ?_
    rw [clustering.history_eq]
    exact List.mem_append_right _ (List.mem_cons_of_mem _ member)
  rw [clustering.ofRequests_eq, clusterOf?_performAll_iff (recent.plain clustering.last),
    lastOfNode?_eq_none_iff]

theorem clusterOf?_iff_placeOf (clustering : LastClustering requests before algorithm since)
    (unplanted : Unplanted (history requests))
    (counted : (ofRequests name requests).nodeCount ≤ 2 ^ 64) :
    (ofRequests name requests).clusterOf? node = some label ↔
      (∀ properties, .upsertNode node properties ∉ history since) ∧
        (ofRequests name before).hasNode node = true ∧
          (ofRequests name before).placeOf node = label := by
  have fits := (clustering.nodeCount_le name).trans counted
  rw [clustering.clusterOf?_iff unplanted, clusterOf?_cluster_iff fits]

end LastClustering

/-! ## Labels by history -/

/-- The labels of a run are those of its last clustering, but for what was upserted since. -/
structure LabelledSince (name : String) (requests : List Request) : Prop where
  /-- Before the first clustering there are none. -/
  unclustered : (∀ algorithm, .cluster algorithm ∉ history requests) →
    ∀ node, (ofRequests name requests).clusterOf? node = none
  /-- After it there is always a last one. -/
  clustered : ∀ algorithm, .cluster algorithm ∈ history requests →
    ∃ before last since, LastClustering requests before last since
  /-- A node has a label if it was there at the last clustering and was not upserted since. -/
  isSome_iff : ∀ before algorithm since, LastClustering requests before algorithm since →
    ∀ node, ((ofRequests name requests).clusterOf? node).isSome = true ↔
      (ofRequests name before).hasNode node = true ∧
        ∀ properties, .upsertNode node properties ∉ history since
  /-- It is the label that this clustering gave the node. -/
  given : ∀ before algorithm since, LastClustering requests before algorithm since →
    ∀ node label, (ofRequests name requests).clusterOf? node = some label →
      ((ofRequests name before).cluster algorithm).clusterOf? node = some label ∧
        ((ofRequests name before).classesBefore node).encard = label
  /-- A node that came in since has none. -/
  newcomer : ∀ before algorithm since, LastClustering requests before algorithm since →
    ∀ node, (ofRequests name before).hasNode node = false →
      (ofRequests name requests).clusterOf? node = none
  /-- An edge that comes next changes no label. -/
  edge : ∀ source target properties node,
    ((ofRequests name requests).upsertEdge source target properties).clusterOf? node =
      (ofRequests name requests).clusterOf? node

/-- Where the properties that nodes are given hold no labels, a node has a label exactly if it was
there at the last clustering and was not upserted since, and it is the one that this clustering
gave it: the number of components with a smaller least node. -/
theorem labels_since_clustering {name : String} {requests : List Request}
    (unplanted : Unplanted (history requests))
    (counted : (ofRequests name requests).nodeCount ≤ 2 ^ 64) : LabelledSince name requests := by
  constructor
  case unclustered =>
    intro unclustered node
    rw [Option.eq_none_iff_forall_ne_some]
    intro label labelled
    rw [ofRequests_eq, clusterOf?_performAll_iff (unplanted.plain unclustered)] at labelled
    cases labelled.2
  case clustered => exact fun _ => exists_lastClustering
  case isSome_iff =>
    intro before algorithm since clustering node
    simp only [Option.isSome_iff_exists, clustering.clusterOf?_iff_placeOf unplanted counted]
    constructor
    · rintro ⟨label, untouched, present, -⟩
      exact ⟨present, untouched⟩
    · rintro ⟨present, untouched⟩
      exact ⟨_, untouched, present, rfl⟩
  case given =>
    intro before algorithm since clustering node label labelled
    obtain ⟨-, present, rfl⟩ := (clustering.clusterOf?_iff_placeOf unplanted counted).mp labelled
    have formed := (reachable_ofRequests name before).wellFormed
    refine ⟨((clustering.clusterOf?_iff unplanted).mp labelled).2, ?_⟩
    rw [classesBefore_eq formed present]
    exact encard_membersAt formed (placeOf_lt present).le
  case newcomer =>
    intro before algorithm since clustering node absent
    rw [Option.eq_none_iff_forall_ne_some]
    intro label labelled
    obtain ⟨-, present, -⟩ := (clustering.clusterOf?_iff_placeOf unplanted counted).mp labelled
    rw [absent] at present
    cases present
  case edge => exact clusterOf?_upsertEdge _

/-- Of two labelled nodes one is upserted again, the other gets an edge to a new node. -/
theorem labels_since_clustering_of_new_edge :
    ∃ requests : List Request,
      requests = [.upsertEdges [("a", "b", Table.empty)], .single (.cluster .connectedComponents),
        .single (.upsertNode "a" Table.empty), .single (.upsertEdge "b" "c" Table.empty)] ∧
      ((ofRequests "test" requests).clusterOf? "b").isSome = true ∧
      (ofRequests "test" requests).clusterOf? "a" = none ∧
      (ofRequests "test" requests).clusterOf? "c" = none := by
  let before : List Request := [.upsertEdges [("a", "b", Table.empty)]]
  let since : List Request :=
    [.single (.upsertNode "a" Table.empty), .single (.upsertEdge "b" "c" Table.empty)]
  let requests : List Request := before ++ .single (.cluster .connectedComponents) :: since
  have unplanted : Unplanted (history requests) := by
    intro node properties member
    have given : node = "a" ∧ properties = Table.empty := by
      simpa [requests, before, since, history, Request.operations] using member
    rw [given.2]
    rfl
  have clustering : LastClustering requests before .connectedComponents since := by
    refine ⟨rfl, ?_⟩
    simp [since, history, Request.operations]
  have counted : (ofRequests "test" requests).nodeCount ≤ 2 ^ 64 := by
    decide +kernel
  have labelled := labels_since_clustering unplanted counted
  refine ⟨requests, rfl, ?_, ?_, ?_⟩
  · refine (labelled.isSome_iff _ _ _ clustering "b").mpr ⟨by decide, ?_⟩
    simp [since, history, Request.operations]
  · rw [← Option.not_isSome_iff_eq_none, labelled.isSome_iff _ _ _ clustering]
    rintro ⟨-, untouched⟩
    exact untouched Table.empty List.mem_cons_self
  · exact labelled.newcomer _ _ _ clustering "c" (by decide)

end Graph

end Retrieval
