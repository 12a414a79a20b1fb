/-!
# Flooding

Starting from one node, everything that can be reached by steps is taken out of
the nodes not visited so far.  What is taken out and what stays are together the
nodes that were there before, so repeating it splits all nodes into components.
-/

namespace Retrieval

namespace Flood

def within (near nodes : List String) : List String := nodes.filter near.contains

def outside (near nodes : List String) : List String := nodes.filter fun node => !near.contains node

theorem length_within_add_length_outside (near nodes : List String) :
    (within near nodes).length + (outside near nodes).length = nodes.length := by
  simp only [within, outside, ← List.countP_eq_length_filter]
  rw [List.length_eq_countP_add_countP near.contains (l := nodes)]
  congr 2
  funext node
  cases near.contains node <;> rfl

/-- The nodes reached from a queue, and those of the unvisited that are not. -/
def spread (neighbours : String → List String) (queue unvisited : List String) :
    List String × List String :=
  match queue with
  | [] => ([], unvisited)
  | current :: rest =>
      let near := neighbours current
      let flooded := spread neighbours (rest ++ within near unvisited) (outside near unvisited)
      (current :: flooded.1, flooded.2)
termination_by queue.length + unvisited.length
decreasing_by
  have := length_within_add_length_outside (neighbours current) unvisited
  simp only [List.length_append, List.length_cons]
  omega

theorem length_spread (neighbours : String → List String) (queue unvisited : List String) :
    (spread neighbours queue unvisited).2.length ≤ unvisited.length := by
  fun_induction spread neighbours queue unvisited with
  | case1 => simp
  | case2 unvisited current rest near flooded ih =>
      exact Nat.le_trans ih (List.length_filter_le _ _)

/-- The components of a list of nodes, each with its first node in front. -/
def components (neighbours : String → List String) (nodes : List String) : List (List String) :=
  match nodes with
  | [] => []
  | start :: rest =>
      let flooded := spread neighbours [start] rest
      flooded.1 :: components neighbours flooded.2
termination_by nodes.length
decreasing_by
  have := length_spread neighbours [start] rest
  simp only [List.length_cons]
  omega

end Flood

end Retrieval
