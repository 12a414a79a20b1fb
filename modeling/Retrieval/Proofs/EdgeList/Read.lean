import Retrieval.Complaint
import Retrieval.Proofs.EdgeList

/-!
# Edge lists as they are read

A line that is neither blank nor a comment names the nodes that are its first two
words.  Reading fails at the first line where these are the same node.  Otherwise
nodes carry nothing, and an edge carries what the last line for its two nodes
says about it, whichever of them that line names first.
-/

namespace Retrieval

namespace EdgeList

/-- A line that is neither blank nor a comment, beginning with two words. -/
structure Begins (line source target : String) (others : List String) : Prop where
  speaks : ¬ Statement.Silent line
  words : Text.words line = source :: target :: others

/-- A line that begins with two nodes in either order. -/
def Joins (line node other : String) (others : List String) : Prop :=
  Begins line node other others ∨ Begins line other node others

/-- A loop on the first line that joins a node to itself; lines count from one. -/
def FirstLoop (lines : List String) (loop : SelfLoop) : Prop :=
  ∃ before line after others, lines = before ++ line :: after ∧
    Begins line loop.node loop.node others ∧
    (∀ earlier ∈ before, ∀ node others, ¬ Begins earlier node node others) ∧
    loop.line = before.length + 1

/-- The graph that some lines without loops tell. -/
structure Told (lines : List String) (graph : Graph) : Prop where
  /-- Its nodes are the first two words of the lines that say something. -/
  hasNode_iff : ∀ node, graph.hasNode node = true ↔
    ∃ line ∈ lines, ¬ Statement.Silent line ∧ node ∈ (Text.words line).take 2
  /-- They carry nothing. -/
  node?_eq : ∀ node properties, graph.node? node = some properties → properties = Table.empty
  /-- Its edges are between the nodes that lines begin with. -/
  hasEdge_iff : ∀ node other, graph.hasEdge node other = true ↔
    ∃ line ∈ lines, ∃ others, Joins line node other others
  /-- An edge carries the other words of the last of its lines, if there are any. -/
  edge?_iff : ∀ node other properties, graph.edge? node other = some properties ↔
    ∃ before line after others, lines = before ++ line :: after ∧ Joins line node other others ∧
      (∀ later ∈ after, ∀ others, ¬ Joins later node other others) ∧
      properties.entries =
        if others = [] then [] else [("description", String.intercalate " " others)]

/-- What comes of reading an edge list. -/
structure ReadsAs (text : String) (outcome : Except SelfLoop Graph) : Prop where
  /-- Only a line that begins twice with one word is refused. -/
  refused_iff : (∃ loop, outcome = .error loop) ↔
    ∃ line ∈ Text.lines text, ∃ node others, Begins line node node others
  first : ∀ loop, outcome = .error loop → FirstLoop (Text.lines text) loop ∧
    (Complaint.selfLoop loop).message =
      "line " ++ toString loop.line ++ ": self-loop on '" ++ loop.node ++ "'"
  told : ∀ graph, outcome = .ok graph → Told (Text.lines text) graph

/-! ## One line -/

section Line

variable {line node other : String} {others : List String}

theorem ofLine_of_speaks (speaks : ¬ Statement.Silent line) :
    Statement.ofLine line =
      match Text.words line with
      | [] => .nothing
      | [name] => .node name
      | source :: target :: description => .edge source target description := by
  unfold Statement.ofLine
  dsimp only
  rewrite [if_neg fun comment => speaks (.inr comment), Text.words_trim]
  rfl

theorem ofLine_eq_edge_iff_begins :
    Statement.ofLine line = .edge node other others ↔ Begins line node other others := by
  by_cases silent : Statement.Silent line
  · rw [Statement.ofLine_of_silent silent]
    exact ⟨nofun, fun begins => absurd silent begins.speaks⟩
  · rw [ofLine_of_speaks silent]
    constructor
    · intro told
      split at told
      · cases told
      · cases told
      · next words =>
        cases told
        exact ⟨silent, words⟩
    · intro begins
      rw [begins.words]

def Statement.named : Statement → List String
  | .nothing => []
  | .node name => [name]
  | .edge source target _ => [source, target]

theorem mem_named_iff :
    node ∈ (Statement.ofLine line).named ↔
      ¬ Statement.Silent line ∧ node ∈ (Text.words line).take 2 := by
  by_cases silent : Statement.Silent line
  · rw [Statement.ofLine_of_silent silent]
    exact ⟨nofun, fun told => absurd silent told.1⟩
  · rw [ofLine_of_speaks silent, and_iff_right silent]
    cases Text.words line with
    | nil => exact Iff.rfl
    | cons first rest => cases rest <;> exact Iff.rfl

/-- The properties that a statement gives to the edge between a pair of nodes. -/
def Statement.forPair? (pair : Sym2 String) : Statement → Option Properties
  | .edge source target description =>
      if pair = s(source, target) then some (described description) else none
  | _ => none

theorem forPair?_eq_some_iff {properties : Properties} :
    (Statement.ofLine line).forPair? s(node, other) = some properties ↔
      ∃ others, Joins line node other others ∧ properties = Statement.described others := by
  simp only [Joins, ← ofLine_eq_edge_iff_begins]
  cases Statement.ofLine line with
  | nothing => simp [Statement.forPair?]
  | node name => simp [Statement.forPair?]
  | edge source target description =>
      rw [Statement.forPair?]
      simp only [Option.ite_none_right_eq_some, Option.some.injEq, Statement.edge.injEq,
        Sym2.eq_iff]
      constructor
      · rintro ⟨⟨rfl, rfl⟩ | ⟨rfl, rfl⟩, rfl⟩
        · exact ⟨_, .inl ⟨rfl, rfl, rfl⟩, rfl⟩
        · exact ⟨_, .inr ⟨rfl, rfl, rfl⟩, rfl⟩
      · rintro ⟨_, ⟨rfl, rfl, rfl⟩ | ⟨rfl, rfl, rfl⟩, rfl⟩
        · exact ⟨.inl ⟨rfl, rfl⟩, rfl⟩
        · exact ⟨.inr ⟨rfl, rfl⟩, rfl⟩

theorem isSome_forPair?_iff :
    ((Statement.ofLine line).forPair? s(node, other)).isSome = true ↔
      ∃ others, Joins line node other others := by
  rw [Option.isSome_iff_exists]
  constructor
  · rintro ⟨properties, given⟩
    obtain ⟨others, joins, -⟩ := forPair?_eq_some_iff.mp given
    exact ⟨others, joins⟩
  · rintro ⟨others, joins⟩
    exact ⟨_, forPair?_eq_some_iff.mpr ⟨others, joins, rfl⟩⟩

theorem forPair?_eq_none_iff :
    (Statement.ofLine line).forPair? s(node, other) = none ↔
      ∀ others, ¬ Joins line node other others := by
  rw [← Option.not_isSome_iff_eq_none, isSome_forPair?_iff, not_exists]

theorem eq_described_iff {properties : Properties} {description : List String} :
    properties = Statement.described description ↔
      properties.entries =
        if description = [] then [] else [("description", String.intercalate " " description)] := by
  have given : (Statement.described description).entries =
      if description = [] then [] else [("description", String.intercalate " " description)] := by
    unfold Statement.described
    split <;> rfl
  rw [← given]
  exact ⟨congrArg Table.entries, Table.ext_entries⟩

end Line

/-! ## The graph of all lines -/

section Lines

variable {lines : List String} {graph : Graph} {node : String}

theorem mem_named_iff_fact? {statement : Statement} :
    node ∈ statement.named ↔
      statement.fact? = some (.node node) ∨
        ∃ other, statement.fact? = some (.edge s(node, other)) := by
  cases statement with
  | nothing => simp [Statement.named, Statement.fact?]
  | node name => simp [Statement.named, Statement.fact?, eq_comm]
  | edge source target description =>
      simp only [Statement.named, Statement.fact?, List.mem_cons, List.not_mem_nil, or_false,
        Option.some.injEq, reduceCtorEq, Fact.edge.injEq, Sym2.eq_iff, false_or]
      constructor
      · rintro (rfl | rfl)
        · exact ⟨target, .inl ⟨rfl, rfl⟩⟩
        · exact ⟨source, .inr ⟨rfl, rfl⟩⟩
      · rintro ⟨other, ⟨rfl, -⟩ | ⟨-, rfl⟩⟩
        · exact .inl rfl
        · exact .inr rfl

theorem mem_mentioned_iff :
    node ∈ mentioned (facts lines) ↔
      ∃ line ∈ lines, ¬ Statement.Silent line ∧ node ∈ (Text.words line).take 2 := by
  simp only [← mem_named_iff, mem_named_iff_fact?]
  constructor
  · rintro (⟨line, listed, told⟩ | ⟨other, line, listed, told⟩)
    · exact ⟨line, listed, .inl told⟩
    · exact ⟨line, listed, .inr ⟨other, told⟩⟩
  · rintro ⟨line, listed, told | ⟨other, told⟩⟩
    · exact .inl ⟨line, listed, told⟩
    · exact .inr ⟨other, line, listed, told⟩

theorem edge?_extend (graph : Graph) (statement : Statement) (node other : String) :
    (statement.extend graph).edge? node other =
      (statement.forPair? s(node, other)).or (graph.edge? node other) := by
  cases statement with
  | nothing => rfl
  | node name =>
      rw [Statement.extend, Graph.ensureNode]
      split <;> rfl
  | edge source target description =>
      rw [Statement.extend, Graph.edge?_upsertEdge, Statement.forPair?]
      split <;> rfl

theorem edge?_extendAll (graph : Graph) (lines : List String) (node other : String) :
    (extendAll graph lines).edge? node other =
      (lines.findSomeRev? fun line => (Statement.ofLine line).forPair? s(node, other)).or
        (graph.edge? node other) := by
  induction lines using List.reverseRecOn with
  | nil => rfl
  | append_singleton front line ih =>
      have last : extendAll graph (front ++ [line]) =
          (Statement.ofLine line).extend (extendAll graph front) := List.foldl_concat _ _ _ _
      rw [last, edge?_extend, ih, Graph.findSomeRev?_concat, Option.or_assoc]

/-- Nodes without properties. -/
def Bare (graph : Graph) : Prop :=
  ∀ node, (graph.node? node).getD Table.empty = Table.empty

theorem Bare.extend (bare : Bare graph) (statement : Statement) :
    Bare (statement.extend graph) := by
  cases statement with
  | nothing => exact bare
  | node name =>
      intro node
      rw [Statement.extend, Graph.ensureNode]
      split
      · exact bare node
      · rw [Graph.node?_upsertNode]
        split
        · rfl
        · exact bare node
  | edge source target description =>
      intro node
      rw [Statement.extend, Graph.upsertEdge, Graph.getD_node?_join, Graph.getD_node?_join]
      exact bare node

theorem Bare.extendAll (bare : Bare graph) (lines : List String) :
    Bare (extendAll graph lines) := by
  induction lines generalizing graph with
  | nil => exact bare
  | cons line rest ih =>
      rw [extendAll_cons]
      exact ih (bare.extend (Statement.ofLine line))

end Lines

/-! ## Loops -/

theorem Statement.eq_edge_of_apply_error {statement : Statement} {graph : Graph} {number : Nat}
    {loop : SelfLoop} (refused : statement.apply graph number = .error loop) :
    ∃ others, statement = .edge loop.node loop.node others ∧ loop.line = number := by
  cases statement with
  | nothing => cases refused
  | node name => cases refused
  | edge source target description =>
      rw [apply] at refused
      split at refused
      · next same =>
        subst same
        cases refused
        exact ⟨description, rfl, rfl⟩
      · cases refused

theorem firstLoop_of_refused {lines : List String} (start : Nat) {graph : Graph} {loop : SelfLoop}
    (refused : (lines.zipIdx start).foldlM
      (fun grown (entry : String × Nat) => (Statement.ofLine entry.1).apply grown (entry.2 + 1))
      graph = .error loop) :
    ∃ before line after others, lines = before ++ line :: after ∧
      Begins line loop.node loop.node others ∧
      (∀ earlier ∈ before, ∀ node others, ¬ Begins earlier node node others) ∧
      loop.line = start + before.length + 1 := by
  induction lines generalizing start graph with
  | nil => cases refused
  | cons line rest ih =>
      rw [List.zipIdx_cons, List.foldlM_cons] at refused
      cases applied : (Statement.ofLine line).apply graph (start + 1) with
      | error other =>
          rw [applied] at refused
          cases refused
          obtain ⟨others, said, counted⟩ := Statement.eq_edge_of_apply_error applied
          exact ⟨[], line, rest, others, rfl, ofLine_eq_edge_iff_begins.mp said, nofun, counted⟩
      | ok grown =>
          rw [applied] at refused
          obtain ⟨straight, -⟩ := Statement.apply_eq_ok_iff.mp applied
          obtain ⟨before, second, after, others, rfl, begins, earlier, counted⟩ :=
            ih (start + 1) refused
          refine ⟨line :: before, second, after, others, rfl, begins, ?_, ?_⟩
          · refine List.forall_mem_cons.mpr ⟨?_, earlier⟩
            intro node others begins
            rw [ofLine_eq_edge_iff_begins.mpr begins] at straight
            exact straight node rfl
          · rw [counted, List.length_cons]
            omega

theorem firstLoop_of_read {text : String} {loop : SelfLoop} (refused : read text = .error loop) :
    FirstLoop (Text.lines text) loop := by
  obtain ⟨before, line, after, others, split, begins, earlier, counted⟩ :=
    firstLoop_of_refused 0 refused
  rw [Nat.zero_add] at counted
  exact ⟨before, line, after, others, split, begins, earlier, counted⟩

theorem not_begins_of_read {text : String} {graph : Graph} (accepted : read text = .ok graph)
    {line : String} (listed : line ∈ Text.lines text) (node : String) (others : List String) :
    ¬ Begins line node node others := by
  obtain ⟨straight, -⟩ := read_eq_ok_iff.mp accepted
  intro begins
  refine straight node ⟨line, listed, ?_⟩
  rw [ofLine_eq_edge_iff_begins.mpr begins, Statement.fact?]

/-! ## Graphs -/

theorem findSomeRev?_eq_some_iff {α β : Type} {answer? : α → Option β} {items : List α}
    {answer : β} :
    items.findSomeRev? answer? = some answer ↔
      ∃ before item after, items = before ++ item :: after ∧ answer? item = some answer ∧
        ∀ later ∈ after, answer? later = none := by
  rw [List.findSomeRev?_eq_findSome?_reverse, List.findSome?_eq_some_iff]
  constructor
  · rintro ⟨after, item, before, split, found, none⟩
    refine ⟨before.reverse, item, after.reverse, ?_, found, ?_⟩
    · rw [List.reverse_eq_iff] at split
      simpa using split
    · intro later member
      exact none later (List.mem_reverse.mp member)
  · rintro ⟨before, item, after, rfl, found, none⟩
    refine ⟨after.reverse, item, before.reverse, by simp, found, ?_⟩
    intro later member
    exact none later (List.mem_reverse.mp member)

theorem edge?_of_read {text : String} {graph : Graph} (accepted : read text = .ok graph)
    (node other : String) :
    graph.edge? node other = (Text.lines text).findSomeRev? fun line =>
      (Statement.ofLine line).forPair? s(node, other) := by
  obtain ⟨-, rfl⟩ := read_eq_ok_iff.mp accepted
  rw [edge?_extendAll]
  exact Option.or_none

theorem told_of_read {text : String} {graph : Graph} (accepted : read text = .ok graph) :
    Told (Text.lines text) graph := by
  have shows := shows_of_read accepted
  constructor
  case hasNode_iff =>
    intro node
    rw [shows.nodes, mem_mentioned_iff]
  case node?_eq =>
    intro node properties found
    obtain ⟨-, rfl⟩ := read_eq_ok_iff.mp accepted
    have bare : Bare (extendAll (Graph.empty graphName) (Text.lines text)) :=
      Bare.extendAll (fun _ => rfl) (Text.lines text)
    have none := bare node
    rw [found] at none
    exact none
  case hasEdge_iff =>
    intro node other
    have present : graph.hasEdge node other = true ↔
        ∃ properties, graph.edge? node other = some properties := Table.contains_iff
    rw [present, edge?_of_read accepted, ← Option.isSome_iff_exists,
      List.findSomeRev?_eq_findSome?_reverse, List.findSome?_isSome_iff]
    simp only [List.mem_reverse, isSome_forPair?_iff]
  case edge?_iff =>
    intro node other properties
    rw [edge?_of_read accepted, findSomeRev?_eq_some_iff]
    simp only [forPair?_eq_some_iff, forPair?_eq_none_iff, eq_described_iff]
    constructor
    · rintro ⟨before, line, after, split, ⟨others, joins, given⟩, last⟩
      exact ⟨before, line, after, others, split, joins, last, given⟩
    · rintro ⟨before, line, after, others, split, joins, last, given⟩
      exact ⟨before, line, after, split, ⟨others, joins, given⟩, last⟩

/-- Reading an edge list fails exactly if a line that is neither blank nor a comment has one node
as its first two words, and names the first such line by its number.  Otherwise the nodes are the
first two words of these lines and carry nothing, and the edges are between two words that such a
line begins with, in either order; they carry the rest of the words of the last such line. -/
theorem read_follows_lines (text : String) : ReadsAs text (read text) := by
  constructor
  case refused_iff =>
    constructor
    · rintro ⟨loop, refused⟩
      obtain ⟨before, line, after, others, split, begins, -⟩ := firstLoop_of_read refused
      refine ⟨line, ?_, loop.node, others, begins⟩
      rw [split]
      exact List.mem_append_right before List.mem_cons_self
    · rintro ⟨line, listed, node, others, begins⟩
      cases outcome : read text with
      | error loop => exact ⟨loop, rfl⟩
      | ok graph => exact absurd begins (not_begins_of_read outcome listed node others)
  case first => exact fun loop refused => ⟨firstLoop_of_read refused, rfl⟩
  case told => exact fun graph accepted => told_of_read accepted

/-- Blank lines and comments count. -/
example : read "a b\n\n# c c\n c  c d\ne e\n" = .error ⟨4, "c"⟩ := by
  decide +kernel

end EdgeList

end Retrieval
