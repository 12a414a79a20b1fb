import Mathlib.Data.Sym.Sym2
import Mathlib.Logic.Relation
import Retrieval.EdgeList
import Retrieval.Proofs.Graph.Communities
import Retrieval.Proofs.Words

/-!
# What an edge list tells

Apart from descriptions, each line of an edge list tells one fact or none: that
there is a node, or that two nodes are joined.  The facts alone decide whether
the list is accepted and which graph it makes up to what nodes and edges carry,
so that lines may be edited as long as the facts stay.
-/

namespace Retrieval

namespace EdgeList

/-- A node that is named by itself, or two nodes that are joined. -/
inductive Fact where
  | node (name : String)
  | edge (ends : Sym2 String)

namespace Statement

variable {statement : Statement} {line source target : String} {description : List String}

def fact? : Statement → Option Fact
  | .nothing => none
  | .node name => some (.node name)
  | .edge source target _ => some (.edge s(source, target))

def ofWords (words : List String) : Statement :=
  if (words.head?.bind fun word => word.toList.head?) = some '#' then .nothing
  else
    match words with
    | [] => .nothing
    | [name] => .node name
    | source :: target :: description => .edge source target description

theorem ofLine_eq (line : String) : ofLine line = ofWords (Text.words line) := by
  unfold ofLine ofWords
  dsimp only
  rewrite [Text.head?_trim, Text.words_trim]
  rfl

theorem ofLine_eq_edge_iff :
    ofLine line = .edge source target description ↔
      Text.words line = source :: target :: description ∧ source.toList.head? ≠ some '#' := by
  rw [ofLine_eq]
  unfold ofWords
  split
  · next comment =>
    constructor
    · intro told
      cases told
    · rintro ⟨words, plain⟩
      rw [words] at comment
      exact absurd comment plain
  · next plain =>
    split
    · next words => simp [words]
    · next name words => simp [words]
    · next first second rest words =>
      rw [words] at plain ⊢
      constructor
      · intro told
        cases told
        exact ⟨rfl, plain⟩
      · rintro ⟨same, -⟩
        cases same
        rfl

def Silent (line : String) : Prop :=
  Text.allBlank line = true ∨ (Text.trim line).toList.head? = some '#'

theorem ofLine_of_silent (silent : Silent line) : ofLine line = .nothing := by
  rcases silent with blank | comment
  · rw [ofLine_eq, Text.words_of_allBlank blank]
    rfl
  · unfold ofLine
    dsimp only
    rw [if_pos comment]

/-! ## Statements and graphs -/

def extend (graph : Graph) : Statement → Graph
  | .nothing => graph
  | .node name => graph.ensureNode name
  | .edge source target description => graph.upsertEdge source target (described description)

theorem apply_eq_ok_iff {graph next : Graph} {number : Nat} :
    statement.apply graph number = .ok next ↔
      (∀ node, statement.fact? ≠ some (.edge s(node, node))) ∧ statement.extend graph = next := by
  cases statement with
  | nothing => simp [apply, fact?, extend]
  | node name => simp [apply, fact?, extend]
  | edge source target description =>
      rw [apply, extend]
      by_cases loop : source = target
      · subst loop
        rw [if_pos rfl]
        constructor
        · intro refused
          cases refused
        · rintro ⟨straight, -⟩
          exact absurd rfl (straight source)
      · have straight : ∀ node, fact? (.edge source target description) ≠
            some (.edge s(node, node)) := by
          intro node same
          have ends := Fact.edge.inj (Option.some.inj same)
          rcases Sym2.eq_iff.mp ends with ⟨rfl, rfl⟩ | ⟨rfl, rfl⟩ <;> exact loop rfl
        rw [if_neg loop, Except.ok.injEq]
        exact (and_iff_right straight).symm

end Statement

/-! ## The facts of all lines -/

def facts (lines : List String) : Set Fact :=
  {fact | ∃ line ∈ lines, (Statement.ofLine line).fact? = some fact}

def mentioned (facts : Set Fact) : Set String :=
  {node | .node node ∈ facts ∨ ∃ other, .edge s(node, other) ∈ facts}

theorem mem_facts_cons {line : String} {rest : List String} {fact : Fact} :
    fact ∈ facts (line :: rest) ↔
      (Statement.ofLine line).fact? = some fact ∨ fact ∈ facts rest := by
  simp [facts]

/-- A change to the lines of an edge list that leaves what it tells. -/
inductive Edit : List String → List String → Prop where
  | reorder {lines others : List String} (same : lines.Perm others) : Edit lines others
  /-- A line has the two nodes that it joins exchanged, and that makes no comment of it. -/
  | exchange {line other source target : String} {description : List String}
      (rest : List String) (joins : Statement.ofLine line = .edge source target description)
      (exchanged : Text.words other = target :: source :: description)
      (plain : target.toList.head? ≠ some '#') : Edit (line :: rest) (other :: rest)
  | silence {line : String} (rest : List String) (silent : Statement.Silent line) :
      Edit rest (line :: rest)
  | repetition {line : String} {rest : List String} (known : line ∈ rest) :
      Edit rest (line :: rest)

theorem Edit.facts_eq {lines others : List String} (edit : Edit lines others) :
    facts lines = facts others := by
  ext fact
  cases edit with
  | reorder same => simp only [facts, Set.mem_ofPred_eq, same.mem_iff]
  | exchange rest joins exchanged plain =>
      have turned := Statement.ofLine_eq_edge_iff.mpr ⟨exchanged, plain⟩
      rw [mem_facts_cons, mem_facts_cons, joins, turned, Statement.fact?, Statement.fact?,
        Sym2.eq_swap]
  | silence rest silent =>
      rw [mem_facts_cons, Statement.ofLine_of_silent silent]
      simp [Statement.fact?]
  | repetition known =>
      rw [mem_facts_cons]
      refine (or_iff_right_of_imp fun told => ?_).symm
      exact ⟨_, known, told⟩

/-- Lines that edits lead to, one after the other and in either direction, tell the same. -/
theorem facts_eq_of_edits {lines others : List String}
    (edits : Relation.EqvGen Edit lines others) : facts lines = facts others := by
  induction edits with
  | rel _ _ edit => exact edit.facts_eq
  | refl _ => rfl
  | symm _ _ _ ih => exact ih.symm
  | trans _ _ _ _ _ first second => exact first.trans second

/-! ## The graph of all lines -/

def extendAll (graph : Graph) (lines : List String) : Graph :=
  lines.foldl (fun grown line => (Statement.ofLine line).extend grown) graph

theorem extendAll_cons (graph : Graph) (line : String) (rest : List String) :
    extendAll graph (line :: rest) = extendAll ((Statement.ofLine line).extend graph) rest := by
  rw [extendAll, List.foldl_cons, extendAll]

theorem foldlM_apply_eq_ok_iff {lines : List String} (start : Nat) {graph next : Graph} :
    (lines.zipIdx start).foldlM
        (fun grown (entry : String × Nat) => (Statement.ofLine entry.1).apply grown (entry.2 + 1))
        graph = .ok next ↔
      (∀ node, .edge s(node, node) ∉ facts lines) ∧ extendAll graph lines = next := by
  induction lines generalizing start graph with
  | nil => simp [facts, extendAll, pure, Except.pure]
  | cons line rest ih =>
      have facts_cons : (∀ node, .edge s(node, node) ∉ facts (line :: rest)) ↔
          (∀ node, (Statement.ofLine line).fact? ≠ some (.edge s(node, node))) ∧
            ∀ node, .edge s(node, node) ∉ facts rest := by
        simp only [mem_facts_cons, not_or, forall_and]
      rw [List.zipIdx_cons, List.foldlM_cons, facts_cons, and_assoc, extendAll_cons]
      cases applied : (Statement.ofLine line).apply graph (start + 1) with
      | error loop =>
          have refused : ¬ ∀ node, (Statement.ofLine line).fact? ≠ some (.edge s(node, node)) := by
            intro straight
            cases applied.symm.trans (Statement.apply_eq_ok_iff.mpr ⟨straight, rfl⟩)
          constructor
          · intro read
            cases read
          · exact fun told => absurd told.1 refused
      | ok grown =>
          obtain ⟨straight, rfl⟩ := Statement.apply_eq_ok_iff.mp applied
          exact (ih (start + 1)).trans (and_iff_right straight).symm

theorem read_eq_ok_iff {text : String} {graph : Graph} :
    read text = .ok graph ↔ (∀ node, .edge s(node, node) ∉ facts (Text.lines text)) ∧
      extendAll (Graph.empty graphName) (Text.lines text) = graph :=
  foldlM_apply_eq_ok_iff 0

/-- The nodes and the edges of a graph are those that facts tell. -/
structure Shows (graph : Graph) (facts : Set Fact) : Prop where
  reached : Graph.Reachable graph
  nodes : ∀ node, graph.hasNode node = true ↔ node ∈ mentioned facts
  joined : ∀ node other, graph.Joined node other ↔ .edge s(node, other) ∈ facts

theorem shows_empty (name : String) : Shows (Graph.empty name) ∅ where
  reached := .empty name
  nodes := by simp [Graph.hasNode, Graph.empty, Table.contains, mentioned]
  joined := by simp [Graph.Joined, Graph.hasEdge, Graph.empty, Table.contains]

section Step

variable {graph : Graph} {known : Set Fact}

theorem Shows.extend (shows : Shows graph known) (statement : Statement) :
    Shows (statement.extend graph) {fact | statement.fact? = some fact ∨ fact ∈ known} := by
  obtain ⟨reached, nodes, joined⟩ := shows
  cases statement with
  | nothing =>
      constructor
      case reached => exact reached
      case nodes => simpa [Statement.fact?, Statement.extend, mentioned] using nodes
      case joined => simpa [Statement.fact?, Statement.extend] using joined
  | node name =>
      constructor
      case reached => exact reached.ensureNode name
      case nodes =>
        intro node
        rw [Statement.extend, Graph.hasNode_ensureNode, Bool.or_eq_true, decide_eq_true_eq, nodes]
        simp only [mentioned, Set.mem_ofPred_eq, Statement.fact?, Option.some.injEq,
          Fact.node.injEq, reduceCtorEq, false_or, or_assoc, eq_comm]
      case joined =>
        intro node other
        rw [Statement.extend, Graph.joined_ensureNode, joined]
        simp [Statement.fact?]
  | edge source target description =>
      constructor
      case reached => exact reached.perform (.upsertEdge source target _)
      case nodes =>
        intro node
        rw [Statement.extend, Graph.hasNode_upsertEdge, Bool.or_eq_true, Bool.or_eq_true,
          decide_eq_true_eq, decide_eq_true_eq, nodes]
        simp only [mentioned, Set.mem_ofPred_eq, Statement.fact?, Option.some.injEq,
          Fact.edge.injEq, reduceCtorEq, false_or, Sym2.eq_iff]
        constructor
        · rintro (rfl | rfl | named | ⟨other, told⟩)
          · exact .inr ⟨source, .inl (.inr ⟨rfl, rfl⟩)⟩
          · exact .inr ⟨target, .inl (.inl ⟨rfl, rfl⟩)⟩
          · exact .inl named
          · exact .inr ⟨other, .inr told⟩
        · rintro (named | ⟨other, (⟨rfl, -⟩ | ⟨-, rfl⟩) | told⟩)
          · exact .inr (.inr (.inl named))
          · exact .inr (.inl rfl)
          · exact .inl rfl
          · exact .inr (.inr (.inr ⟨other, told⟩))
      case joined =>
        intro node other
        rw [Statement.extend, Graph.joined_upsertEdge, joined, ← Sym2.eq_iff, eq_comm]
        simp only [Set.mem_ofPred_eq, Statement.fact?, Option.some.injEq, Fact.edge.injEq]

end Step

theorem Shows.extendAll {graph : Graph} {known : Set Fact} (shows : Shows graph known)
    (lines : List String) : Shows (extendAll graph lines) (facts lines ∪ known) := by
  induction lines generalizing graph known with
  | nil =>
      have none : facts [] ∪ known = known := by simp [facts]
      rw [none]
      exact shows
  | cons line rest ih =>
      have step := ih (shows.extend (Statement.ofLine line))
      have grown : facts rest ∪
          {fact | (Statement.ofLine line).fact? = some fact ∨ fact ∈ known} =
            facts (line :: rest) ∪ known := by
        ext fact
        rw [Set.mem_union, Set.mem_union, mem_facts_cons, Set.mem_ofPred_eq, or_left_comm, or_assoc]
      rw [grown, ← extendAll_cons] at step
      exact step

theorem shows_of_read {text : String} {graph : Graph} (accepted : read text = .ok graph) :
    Shows graph (facts (Text.lines text)) := by
  obtain ⟨-, rfl⟩ := read_eq_ok_iff.mp accepted
  have shown := (shows_empty graphName).extendAll (Text.lines text)
  rwa [Set.union_empty] at shown

end EdgeList

end Retrieval
