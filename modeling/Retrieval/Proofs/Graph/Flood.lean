import Mathlib.Data.String.Basic
import Mathlib.Logic.Relation
import Retrieval.Graph.Flood

/-!
# What a flood reaches

A flood sorts the unvisited nodes into those that a path from the queue leads to
and those that no step from there leads to.  Where steps go both ways and stay
among the nodes, the components are therefore the classes of nodes joined by
paths, and their first nodes stand in the order of the nodes.
-/

namespace Retrieval

namespace Flood

variable {neighbours : String → List String} {nodes queue unvisited : List String}

def Step (neighbours : String → List String) (node other : String) : Prop :=
  other ∈ neighbours node

abbrev Path (neighbours : String → List String) : String → String → Prop :=
  Relation.ReflTransGen (Step neighbours)

/-! ## One flood -/

theorem perm_within_outside (near nodes : List String) :
    (within near nodes ++ outside near nodes).Perm nodes :=
  List.filter_append_perm near.contains nodes

theorem perm_spread (neighbours : String → List String) (queue unvisited : List String) :
    ((spread neighbours queue unvisited).1 ++ (spread neighbours queue unvisited).2).Perm
      (queue ++ unvisited) := by
  fun_induction spread neighbours queue unvisited with
  | case1 => exact List.Perm.refl _
  | case2 unvisited current rest near flooded ih =>
      refine List.Perm.cons current (ih.trans ?_)
      rw [List.append_assoc]
      exact (perm_within_outside near unvisited).append_left rest

theorem sublist_spread (neighbours : String → List String) (queue unvisited : List String) :
    (spread neighbours queue unvisited).2.Sublist unvisited := by
  fun_induction spread neighbours queue unvisited with
  | case1 => exact List.Sublist.refl _
  | case2 unvisited current rest near flooded ih => exact ih.trans List.filter_sublist

theorem path_of_mem_spread {node : String}
    (reached : node ∈ (spread neighbours queue unvisited).1) :
    ∃ start ∈ queue, Path neighbours start node := by
  fun_induction spread neighbours queue unvisited with
  | case1 => cases reached
  | case2 unvisited current rest near flooded ih =>
      rcases List.mem_cons.mp reached with rfl | later
      · exact ⟨node, List.mem_cons_self, Relation.ReflTransGen.refl⟩
      · obtain ⟨start, queued, path⟩ := ih later
        rcases List.mem_append.mp queued with waiting | found
        · exact ⟨start, List.mem_cons_of_mem _ waiting, path⟩
        · have step : Step neighbours current start :=
            List.elem_iff.mp (List.mem_filter.mp found).2
          exact ⟨current, List.mem_cons_self, Relation.ReflTransGen.head step path⟩

theorem not_step_of_spread {node other : String}
    (reached : node ∈ (spread neighbours queue unvisited).1)
    (left : other ∈ (spread neighbours queue unvisited).2) : ¬ Step neighbours node other := by
  fun_induction spread neighbours queue unvisited with
  | case1 => cases reached
  | case2 unvisited current rest near flooded ih =>
      rcases List.mem_cons.mp reached with rfl | later
      · have away := (List.mem_filter.mp ((sublist_spread _ _ _).subset left)).2
        intro step
        have met : near.contains other = true := List.elem_iff.mpr step
        rw [met] at away
        cases away
      · exact ih later left

theorem mem_spread_or (neighbours : String → List String) (start : String) (rest : List String)
    (node : String) :
    node ∈ (spread neighbours [start] rest).1 ∨ node ∈ (spread neighbours [start] rest).2 ↔
      node ∈ start :: rest := by
  rw [← List.mem_append]
  exact (perm_spread neighbours [start] rest).mem_iff

/-! ## Components -/

/-- Steps go both ways and do not leave the nodes. -/
structure Undirected (neighbours : String → List String) (nodes : List String) : Prop where
  symmetric : ∀ node other, Step neighbours node other → Step neighbours other node
  inside : ∀ node ∈ nodes, ∀ other, Step neighbours node other → other ∈ nodes

variable {start : String} {rest : List String}

theorem Undirected.left (undirected : Undirected neighbours (start :: rest)) :
    Undirected neighbours (spread neighbours [start] rest).2 where
  symmetric := undirected.symmetric
  inside := by
    intro node left other step
    have given : node ∈ start :: rest := (mem_spread_or neighbours start rest node).mp (.inr left)
    have kept : other ∈ start :: rest := undirected.inside node given other step
    rcases (mem_spread_or neighbours start rest other).mpr kept with reached | unreached
    · exact absurd (undirected.symmetric node other step) (not_step_of_spread reached left)
    · exact unreached

/-- A flood from one node reaches what paths from it lead to. -/
theorem mem_spread_iff (undirected : Undirected neighbours (start :: rest)) (node : String) :
    node ∈ (spread neighbours [start] rest).1 ↔ Path neighbours start node := by
  constructor
  · intro reached
    obtain ⟨source, queued, path⟩ := path_of_mem_spread reached
    rw [List.mem_singleton.mp queued] at path
    exact path
  · intro path
    -- By induction on the path: what was reached is closed under steps, as no step leads from it
    -- to a node that was left.
    induction path with
    | refl =>
        rw [spread]
        exact List.mem_cons_self
    | @tail before after _ step ih =>
        have given : before ∈ start :: rest :=
          (mem_spread_or neighbours start rest before).mp (.inl ih)
        have kept : after ∈ start :: rest := undirected.inside before given after step
        rcases (mem_spread_or neighbours start rest after).mpr kept with reached | left
        · exact reached
        · exact absurd step (not_step_of_spread ih left)

/-- Every node is in one component, once. -/
theorem perm_flatten_components (neighbours : String → List String) (nodes : List String) :
    (components neighbours nodes).flatten.Perm nodes := by
  fun_induction components neighbours nodes with
  | case1 => exact List.Perm.refl _
  | case2 start rest flooded ih =>
      rw [List.flatten_cons]
      exact (ih.append_left flooded.1).trans (perm_spread neighbours [start] rest)

def first (component : List String) : String := component.headD ""

theorem first_spread (neighbours : String → List String) (start : String) (rest : List String) :
    first (spread neighbours [start] rest).1 = start := by
  rw [spread]
  rfl

theorem sublist_firsts (neighbours : String → List String) (nodes : List String) :
    ((components neighbours nodes).map first).Sublist nodes := by
  fun_induction components neighbours nodes with
  | case1 => exact List.Sublist.refl _
  | case2 start rest flooded ih =>
      rw [List.map_cons, first_spread]
      exact (ih.trans (sublist_spread neighbours [start] rest)).cons_cons start

theorem mem_component_iff (undirected : Undirected neighbours nodes) {component : List String}
    (listed : component ∈ components neighbours nodes) (node : String) :
    node ∈ component ↔ Path neighbours (first component) node := by
  fun_induction components neighbours nodes with
  | case1 => cases listed
  | case2 start rest flooded ih =>
      rcases List.mem_cons.mp listed with rfl | later
      · rw [first_spread]
        exact mem_spread_iff undirected node
      · exact ih undirected.left later

theorem first_le (ascending : nodes.Pairwise (· < ·)) {component : List String}
    (listed : component ∈ components neighbours nodes) {node : String}
    (inside : node ∈ component) : first component ≤ node := by
  fun_induction components neighbours nodes with
  | case1 => cases listed
  | case2 start rest flooded ih =>
      obtain ⟨later, tail⟩ := List.pairwise_cons.mp ascending
      rcases List.mem_cons.mp listed with rfl | elsewhere
      · rw [first_spread]
        have given := (mem_spread_or neighbours start rest node).mp (.inl inside)
        rcases List.mem_cons.mp given with rfl | behind
        · exact le_rfl
        · exact le_of_lt (later node behind)
      · exact ih (tail.sublist (sublist_spread neighbours [start] rest)) elsewhere

end Flood

end Retrieval
