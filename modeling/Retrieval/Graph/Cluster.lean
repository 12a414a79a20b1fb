import Retrieval.Failure
import Retrieval.Graph.Basic
import Retrieval.Graph.Flood

/-!
# Clusters

Clustering numbers the connected components by their smallest nodes and writes
the number of its component into a property of every node, as JSON.  A
community is made of the nodes that carry one number, whoever wrote it.
-/

namespace Retrieval

inductive ClusterAlgorithm where
  | connectedComponents
  deriving DecidableEq, Repr, Inhabited

namespace ClusterAlgorithm

def name : ClusterAlgorithm → String
  | .connectedComponents => "connected_components"

/-- Letter case matters. -/
def ofName : String → Except Failure ClusterAlgorithm
  | "connected_components" => .ok .connectedComponents
  | "components" => .ok .connectedComponents
  | other => .error (.configuration (.unknownAlgorithm other))

end ClusterAlgorithm

/-- A number given to a node at a level of clustering. -/
structure ClusterLabel where
  level : Nat
  cluster : Nat
  deriving DecidableEq, Repr

namespace ClusterLabel

/-- The property that holds the labels of a node. -/
def property : String := "clusters"

def fieldNames : List String := ["level", "cluster"]

def toJson (label : ClusterLabel) : Json :=
  .record [("cluster", .ofNat label.cluster), ("level", .ofNat label.level)]

def ofJson? (json : Json) : Option ClusterLabel := do
  let members ← json.members? fieldNames
  return {
    level := ← members.required? "level" Json.natural32?
    cluster := ← members.required? "cluster" Json.natural64? }

/-- The text of the property of a node with one label. -/
def write (label : ClusterLabel) : String := (Json.array [label.toJson]).write

/-- The labels that a text lists, if it lists labels. -/
def readAll? (text : String) : Option (List ClusterLabel) := do
  (← Json.read? text).list? ofJson?

end ClusterLabel

namespace Graph

def clusterOf? (graph : Graph) (node : String) : Option Nat := do
  let text ← (← graph.node? node).get? ClusterLabel.property
  let labels ← ClusterLabel.readAll? text
  labels.head?.map ClusterLabel.cluster

/-- The connected components, ascending by their smallest nodes. -/
def components (graph : Graph) : List (List String) :=
  Flood.components graph.neighbours graph.nodes.keys

/-- A node with the number of its cluster among its properties. -/
def labelNode (graph : Graph) (cluster : Nat) (node : String) : Graph :=
  let properties := (graph.node? node).getD Table.empty
  { graph with
    nodes := graph.nodes.insert node
      (properties.insert ClusterLabel.property (ClusterLabel.write ⟨0, cluster⟩)) }

/-- Every node labelled with the place of its component. -/
def labelComponents (graph : Graph) : Graph :=
  graph.components.zipIdx.foldl
    (fun labelled (component, cluster) =>
      component.foldl (fun grown node => grown.labelNode cluster node) labelled)
    graph

def cluster (graph : Graph) : ClusterAlgorithm → Graph
  | .connectedComponents => graph.labelComponents

def labelledNodes (graph : Graph) : List (String × Nat) :=
  graph.nodes.keys.filterMap fun node => (graph.clusterOf? node).map fun label => (node, label)

def linksAt (graph : Graph) (node : String) : List Link :=
  (graph.neighbours node).map (Link.canonical node)

/-- The nodes with one label, and every edge that touches one of them. -/
def communityOf (graph : Graph) (labelled : List (String × Nat)) (label : Nat) : Community :=
  let members := (labelled.filter fun entry => entry.2 == label).map (·.1)
  let community : Community := {
    level := 0
    title := s!"Cluster {label}"
    edges := KeySet.ofKeys (members.flatMap graph.linksAt)
    nodes := KeySet.ofKeys members }
  { community with occurrence := community.countedOccurrence }

def communities (graph : Graph) : List (Nat × Community) :=
  let labelled := graph.labelledNodes
  (KeySet.ofKeys (labelled.map (·.2))).toList.map fun label =>
    (label, graph.communityOf labelled label)

/-- The communities by what their labels are in writing. -/
def schema (graph : Graph) : Table String Community :=
  Table.ofList (graph.communities.map fun (label, community) => (toString label, community))

end Graph

end Retrieval
