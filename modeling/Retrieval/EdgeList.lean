import Retrieval.Graph.Cluster
import Retrieval.Number.Digits
import Retrieval.Text.Line

/-!
# Edge lists

A line names a node, or two nodes that an edge joins and perhaps a description
of the edge.  Blank lines and lines that start with a number sign say nothing.
-/

namespace Retrieval

namespace EdgeList

/-- A line that joins a node to itself; lines count from one. -/
structure SelfLoop where
  line : Nat
  node : String
  deriving DecidableEq, Repr

inductive Statement where
  | nothing
  | node (name : String)
  | edge (source target : String) (description : List String)
  deriving DecidableEq, Repr

namespace Statement

def ofLine (line : String) : Statement :=
  let trimmed := Text.trim line
  if trimmed.toList.head? = some '#' then .nothing
  else
    match Text.words trimmed with
    | [] => .nothing
    | [name] => .node name
    | source :: target :: description => .edge source target description

/-- The properties of an edge with a description. -/
def described (description : List String) : Properties :=
  if description = [] then Table.empty
  else Table.ofList [("description", String.intercalate " " description)]

/-- The graph with what the statement adds; the number is that of its line. -/
def apply (graph : Graph) (number : Nat) : Statement → Except SelfLoop Graph
  | .nothing => .ok graph
  | .node name => .ok (graph.ensureNode name)
  | .edge source target description =>
      if source = target then .error ⟨number, source⟩
      else .ok (graph.upsertEdge source target (described description))

end Statement

/-- The name of the graph that an edge list makes. -/
def graphName : String := "chunk_entity_relation"

def read (text : String) : Except SelfLoop Graph :=
  (Text.lines text).zipIdx.foldlM
    (fun graph (line, index) => (Statement.ofLine line).apply graph (index + 1))
    (Graph.empty graphName)

/-- The number that a label writes; a label that writes none counts as the largest number. -/
def labelNumber (label : String) : Nat :=
  ((Digits.natural? label).filter (· < UInt64.size)).getD (UInt64.size - 1)

/-- The communities of the clustered graph with their labels, ordered as numbers are. -/
def clusters (graph : Graph) : List (String × Community) :=
  (graph.cluster .connectedComponents).schema.entries.mergeSort
    fun first second => labelNumber first.1 ≤ labelNumber second.1

/-- A clustered graph as lines of text: its size, then each community. -/
def report (graph : Graph) : String :=
  let sizes := s!"nodes: {graph.nodeCount}  edges: {graph.edgeCount}\n"
  let sections := (clusters graph).map fun (_, community) =>
    s!"{community.title} (level {community.level}): " ++
      s!"{community.nodes.size} nodes, {community.edges.size} edges\n" ++
      "    nodes: " ++ String.intercalate ", " community.nodes.keys ++ "\n" ++
      String.join (community.edges.keys.map fun link => s!"    {link.source} -- {link.target}\n")
  sizes ++ String.join sections

end EdgeList

end Retrieval
