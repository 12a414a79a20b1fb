import Retrieval.Community

/-!
# Graphs

A graph is undirected.  Nodes and edges carry properties; an edge is kept under
its canonical link, and its ends are nodes.  Beside the edges the graph keeps the
set of neighbours of every node, so that a traversal looks at no edge.
-/

namespace Retrieval

structure Graph where
  name : String
  nodes : Table String Properties
  edges : Table Link Properties
  /-- The neighbours of every node, a node with a loop among its own. -/
  adjacency : Table String (KeySet String)
  deriving DecidableEq

namespace Graph

def empty (name : String) : Graph := ⟨name, Table.empty, Table.empty, Table.empty⟩

def hasNode (graph : Graph) (node : String) : Bool := graph.nodes.contains node

def node? (graph : Graph) (node : String) : Option Properties := graph.nodes.get? node

/-- The edge between two nodes, in either direction. -/
def edge? (graph : Graph) (source target : String) : Option Properties :=
  graph.edges.get? (Link.canonical source target)

def hasEdge (graph : Graph) (source target : String) : Bool :=
  graph.edges.contains (Link.canonical source target)

/-- The nodes joined to a node by an edge, ascending. -/
def neighbours (graph : Graph) (node : String) : List String :=
  ((graph.adjacency.get? node).getD Table.empty).toList

/-- The edges at a node, each from that node to the other end. -/
def edgesFrom (graph : Graph) (node : String) : List (String × String) :=
  (graph.neighbours node).map fun other => (node, other)

def degree (graph : Graph) (node : String) : Nat := (graph.neighbours node).length

def edgeDegree (graph : Graph) (source target : String) : Nat :=
  graph.degree source + graph.degree target

def nodeCount (graph : Graph) : Nat := graph.nodes.size

def edgeCount (graph : Graph) : Nat := graph.edges.size

/-- A node with properties that replace all it had; it keeps its neighbours. -/
def upsertNode (graph : Graph) (node : String) (properties : Properties) : Graph :=
  { graph with
    nodes := graph.nodes.insert node properties
    adjacency := graph.adjacency.ensure node Table.empty }

/-- A node that stays as it is, or comes in without properties. -/
def ensureNode (graph : Graph) (node : String) : Graph :=
  if graph.hasNode node then graph else graph.upsertNode node Table.empty

/-- A node at one end of an edge: it comes in without properties if it is not there, and
the other end is among its neighbours. -/
def join (graph : Graph) (node neighbour : String) : Graph :=
  { graph with
    nodes := graph.nodes.ensure node Table.empty
    adjacency := graph.adjacency.insert node
      (((graph.adjacency.get? node).getD Table.empty).add neighbour) }

/-- An edge with properties that replace all it had; its ends become nodes. -/
def upsertEdge (graph : Graph) (source target : String) (properties : Properties) : Graph :=
  ({ graph with edges := graph.edges.insert (Link.canonical source target) properties }
    |>.join source target).join target source

def upsertNodes (graph : Graph) (nodes : List (String × Properties)) : Graph :=
  nodes.foldl (fun grown node => grown.upsertNode node.1 node.2) graph

def upsertEdges (graph : Graph) (edges : List (String × String × Properties)) : Graph :=
  edges.foldl (fun grown edge => grown.upsertEdge edge.1 edge.2.1 edge.2.2) graph

end Graph

end Retrieval
