import Retrieval.Proofs.Path

/-!
# The components of a path

A path leads from the root, or from the place where it is read, through the
components that its pieces stand for.  Joining a relative path goes on from where
the first path ends, and a new last name replaces the last component if that is a
name, and is added behind it otherwise (`components_withFileName_of_named`,
`components_withFileName_of_nameless`).
-/

namespace Retrieval

inductive Path.Component where
  | root
  /-- A dot at the start of a relative path. -/
  | here
  | above
  | name (text : String)
  deriving DecidableEq, Repr

namespace Path

/-- What a piece stands for that is not a dot. -/
def Component.ofPiece (piece : String) : Component :=
  if piece = ".." then .above else .name piece

/-- What pieces stand for that do not start a relative path. -/
def steps (pieces : List String) : List Component :=
  (pieces.filter (· != ".")).map Component.ofPiece

/-- The pieces that characters write between slashes. -/
def piecesOf (characters : List Char) : List String :=
  (Split.runs (· == '/') characters).map String.ofList

/-- Where the path that characters write starts, if that is a component. -/
def startOf (characters : List Char) : List Component :=
  if characters.head? = some '/' then [.root]
  else if (piecesOf characters).head? = some "." then [.here]
  else []

def componentsOf (characters : List Char) : List Component :=
  startOf characters ++ steps (piecesOf characters)

def components (path : Path) : List Component := componentsOf path.text.toList

/-- The path ends in no name: it is empty, or ends at the root, a dot or two dots. -/
def Nameless (path : Path) : Prop := ∀ name, path.components.getLast? ≠ some (.name name)

/-- The path goes through the directory, and from there on only down. -/
def Within (path directory : Path) : Prop :=
  ∃ rest, path.components = directory.components ++ rest ∧ rest ≠ [] ∧ .above ∉ rest

/-! ## Pieces -/

theorem steps_append (pieces others : List String) :
    steps (pieces ++ others) = steps pieces ++ steps others := by
  simp [steps]

theorem mem_steps {pieces : List String} {step : Component} (member : step ∈ steps pieces) :
    step = .above ∨ ∃ name, step = .name name := by
  obtain ⟨piece, -, rfl⟩ := List.mem_map.mp member
  unfold Component.ofPiece
  split
  · exact .inl rfl
  · exact .inr ⟨piece, rfl⟩

theorem piecesOf_append_slash (front back : List Char) :
    piecesOf (front ++ '/' :: back) = piecesOf front ++ piecesOf back := by
  simp [piecesOf, Split.runs_append_cons]

theorem piecesOf_of_plain {word : List Char} (filled : word ≠ []) (plain : '/' ∉ word) :
    piecesOf word = [String.ofList word] := by
  have run : Split.runs (· == '/') word = [word] := by
    refine Split.runs_of_forall filled fun character member => beq_false_of_ne ?_
    rintro rfl
    exact plain member
  rw [piecesOf, run, List.map_singleton]

theorem piecesOf_ne_nil {first : Char} (inside : first ≠ '/') (rest : List Char) :
    piecesOf (first :: rest) ≠ [] := by
  intro none
  have plain : (first == '/') = false := beq_false_of_ne inside
  have head := @Split.head?_runs_cons _ (· == '/') _ plain rest
  rw [List.map_eq_nil_iff.mp none] at head
  cases head

/-! ## Components and slashes -/

theorem startOf_append_slash {front : List Char} (filled : front ≠ []) (back : List Char) :
    startOf (front ++ '/' :: back) = startOf front := by
  cases front with
  | nil => exact absurd rfl filled
  | cons first rest =>
      by_cases slash : first = '/'
      · simp [startOf, slash]
      · have pieces : (piecesOf (first :: rest ++ '/' :: back)).head? =
            (piecesOf (first :: rest)).head? := by
          rw [piecesOf_append_slash]
          exact List.head?_append_of_ne_nil _ (piecesOf_ne_nil slash rest)
        rw [startOf, startOf, pieces]
        rfl

theorem componentsOf_append_slash {front : List Char} (filled : front ≠ []) (back : List Char) :
    componentsOf (front ++ '/' :: back) = componentsOf front ++ steps (piecesOf back) := by
  rw [componentsOf, componentsOf, startOf_append_slash filled, piecesOf_append_slash, steps_append,
    List.append_assoc]

theorem componentsOf_append_slash_nil {front : List Char} (filled : front ≠ []) :
    componentsOf (front ++ ['/']) = componentsOf front := by
  rw [componentsOf_append_slash filled]
  exact List.append_nil _

theorem componentsOf_append_root (front back : List Char) :
    componentsOf (front ++ '/' :: back) =
      componentsOf (front ++ ['/']) ++ steps (piecesOf back) := by
  cases front with
  | nil =>
      rw [List.nil_append, componentsOf, ← List.nil_append ('/' :: back), piecesOf_append_slash,
        steps_append]
      rfl
  | cons first rest =>
      rw [componentsOf_append_slash (List.cons_ne_nil first rest),
        componentsOf_append_slash_nil (List.cons_ne_nil first rest)]

/-! ## The last component -/

theorem componentsOf_trimReversed (reversed : List Char) :
    componentsOf (trimReversed reversed).reverse = componentsOf reversed.reverse := by
  induction reversed using trimReversed.induct with
  | case1 next rest ih =>
      have filled : (next :: rest).reverse ≠ [] := by simp
      rw [trimReversed, ih, List.reverse_cons (a := '/'), componentsOf_append_slash_nil filled]
  | case2 rest ih =>
      have dotted : ('.' :: '/' :: rest).reverse = rest.reverse ++ '/' :: ['.'] := by simp
      rw [trimReversed, ih, dotted, componentsOf_append_root, List.reverse_cons]
      exact (List.append_nil _).symm
  | case3 other trimmed undotted => rw [trimReversed]; exacts [trimmed, undotted]

/-- The characters, read backwards, begin with a word; nothing is behind a dot. -/
structure LastWord (reversed : List Char) : Prop where
  filled : reversed.takeWhile (· != '/') ≠ []
  undotted : reversed.takeWhile (· != '/') = ['.'] → reversed.dropWhile (· != '/') = []

theorem trimReversed_cases (reversed : List Char) :
    trimReversed reversed = [] ∨ trimReversed reversed = ['/'] ∨
      LastWord (trimReversed reversed) := by
  induction reversed using trimReversed.induct with
  | case1 next rest ih => rwa [trimReversed]
  | case2 rest ih => rwa [trimReversed]
  | case3 other trimmed undotted =>
      have same : trimReversed other = other := by rw [trimReversed]; exacts [trimmed, undotted]
      rw [same]
      cases other with
      | nil => exact .inl rfl
      | cons first rest =>
          by_cases slash : first = '/'
          · subst slash
            cases rest with
            | nil => exact .inr (.inl rfl)
            | cons next rest => exact absurd rfl (trimmed next rest)
          · refine .inr (.inr ⟨by simp [slash], ?_⟩)
            intro dot
            have split := List.takeWhile_append_dropWhile (p := (· != '/')) (l := first :: rest)
            have stops := List.head?_dropWhile_not (· != '/') (first :: rest)
            cases behind : (first :: rest).dropWhile (· != '/') with
            | nil => rfl
            | cons next others =>
                rw [behind] at split stops
                obtain rfl : next = '/' := by simpa using stops
                exact absurd (split.symm.trans (congrArg (· ++ _) dot)) (undotted others)

/-- The last word is a component by itself, behind what the path before it leads through. -/
theorem LastWord.componentsOf_reverse {reversed : List Char} (last : LastWord reversed) :
    componentsOf reversed.reverse =
      if reversed.takeWhile (· != '/') = ['.'] then [.here]
      else componentsOf (reversed.dropWhile (· != '/')).reverse ++
        [.ofPiece (String.ofList (reversed.takeWhile (· != '/')).reverse)] := by
  have split := List.takeWhile_append_dropWhile (p := (· != '/')) (l := reversed)
  have stops := List.head?_dropWhile_not (· != '/') reversed
  have filled := last.filled
  have undotted := last.undotted
  have plain : '/' ∉ reversed.takeWhile (· != '/') := fun member => by
    simpa using List.mem_takeWhile_imp member
  generalize reversed.takeWhile (· != '/') = word, reversed.dropWhile (· != '/') = rest
    at split stops filled undotted plain ⊢
  subst split
  by_cases dot : word = ['.']
  · rw [if_pos dot, dot, undotted dot]
    decide
  · have pieces : piecesOf word.reverse = [String.ofList word.reverse] :=
      piecesOf_of_plain (by simpa using filled) (by simpa using plain)
    have other : String.ofList word.reverse ≠ "." := by
      intro same
      exact dot (List.reverse_injective (String.ofList_injective same))
    have named : steps (piecesOf word.reverse) = [.ofPiece (String.ofList word.reverse)] := by
      rw [pieces, steps, List.filter_cons_of_pos (by simpa using other)]
      rfl
    rw [if_neg dot, List.reverse_append]
    cases rest with
    | nil =>
        have first : word.reverse.head? ≠ some '/' := by
          intro slash
          exact plain (List.mem_reverse.mp (List.mem_of_mem_head? slash))
        rw [List.reverse_nil, List.nil_append, componentsOf, startOf, if_neg first, pieces,
          if_neg (by simpa using other), ← pieces, named]
        rfl
    | cons next others =>
        obtain rfl : next = '/' := by simpa using stops
        rw [List.reverse_cons, List.append_assoc, List.singleton_append, componentsOf_append_root,
          named]

theorem components_eq_trimmed (path : Path) :
    path.components = componentsOf path.trimmedReversed.reverse := by
  rw [trimmedReversed, componentsOf_trimReversed, List.reverse_reverse, components]

theorem components_cases (path : Path) :
    path.fileName? = none ∧ path.Nameless ∨
    ∃ name parent, path.fileName? = some name ∧ path.parent? = some parent ∧
      path.components = parent.components ++ [.name name] := by
  unfold Nameless fileName? parent?
  dsimp only
  rw [components_eq_trimmed]
  rcases trimReversed_cases path.text.toList.reverse with empty | slash | last
  · rw [trimmedReversed, empty]
    exact .inl ⟨rfl, nofun⟩
  · rw [trimmedReversed, slash]
    refine .inl ⟨rfl, ?_⟩
    intro name
    change some Component.root ≠ _
    simp
  · change LastWord path.trimmedReversed at last
    rw [last.componentsOf_reverse]
    have filled := last.filled
    have present : ¬ (path.trimmedReversed = [] ∨ path.trimmedReversed = ['/']) := by
      rintro (empty | slash)
      · simp [empty] at filled
      · simp [slash] at filled
    rw [if_neg present]
    generalize path.trimmedReversed.takeWhile (· != '/') = word at filled ⊢
    by_cases dot : word = ['.']
    · rw [if_pos dot, dot]
      exact .inl ⟨rfl, nofun⟩
    · rw [if_neg dot]
      by_cases up : String.ofList word.reverse = ".."
      · rw [if_pos (.inr (.inr up)), up]
        refine .inl ⟨rfl, ?_⟩
        intro name
        rw [List.getLast?_concat]
        exact nofun
      · have named : ¬ (String.ofList word.reverse = "" ∨ String.ofList word.reverse = "." ∨
            String.ofList word.reverse = "..") := by
          rintro (none | same | same)
          · exact filled (List.reverse_eq_nil_iff.mp (String.ofList_injective none))
          · exact dot (List.reverse_injective (String.ofList_injective same))
          · exact up same
        rw [if_neg named]
        refine .inr ⟨_, _, rfl, rfl, ?_⟩
        rw [components, String.toList_ofList, componentsOf_trimReversed, Component.ofPiece,
          if_neg up]

theorem fileName?_eq_none_iff {path : Path} : path.fileName? = none ↔ path.Nameless := by
  rcases path.components_cases with ⟨none, nameless⟩ | ⟨name, parent, named, -, ends⟩
  · exact iff_of_true none nameless
  · refine iff_of_false (by simp [named]) fun nameless => nameless name ?_
    rw [ends, List.getLast?_concat]

/-! ## Joining -/

theorem steps_of_isName {name : String} (isName : IsName name) : steps [name] = [.name name] := by
  rw [steps, List.filter_cons_of_pos (by simpa using isName.down.1)]
  exact congrArg (fun step => [step]) (if_neg isName.down.2)

theorem components_of_empty {path : Path} (empty : path.text = "") : path.components = [] := by
  rw [components, empty]
  rfl

/-- A relative path goes on from where the path before it ends. -/
theorem components_join {base child : Path} (relative : child.isAbsolute = false) :
    (base.join child).components =
      base.components ++
        ((if base.text = "" then startOf child.text.toList else []) ++ steps child.pieces) := by
  unfold join
  rw [relative, if_neg Bool.false_ne_true]
  by_cases empty : base.text = ""
  · rw [if_pos (.inl empty), if_pos empty, components_of_empty empty, empty, String.empty_append]
    rfl
  · rw [if_neg empty, List.nil_append]
    have filled : base.text.toList ≠ [] := fun none => empty (String.toList_eq_nil_iff.mp none)
    by_cases slash : base.endsWithSlash = true
    · obtain ⟨front, split⟩ := List.getLast?_eq_some_iff.mp (beq_iff_eq.mp slash)
      rw [if_pos (.inr slash), components, components, String.toList_append, split,
        List.append_assoc, List.singleton_append, componentsOf_append_root]
      rfl
    · rw [if_neg (by simp [empty, slash]), components, String.toList_append, String.toList_append,
        List.append_assoc]
      exact componentsOf_append_slash filled child.text.toList

theorem startOf_of_relative {path : Path} (relative : path.isAbsolute = false) :
    startOf path.text.toList = [] ∨ startOf path.text.toList = [.here] := by
  rw [startOf, if_neg (ne_of_beq_false relative)]
  split
  · exact .inr rfl
  · exact .inl rfl

theorem components_join_name {name : String} (isName : IsName name) (base : Path) :
    (base.join ⟨name⟩).components = base.components ++ [.name name] := by
  have absent : name.toList.head? ≠ some '/' := fun slash =>
    isName.plain (List.mem_of_mem_head? slash)
  have pieces : piecesOf name.toList = [name] := pieces_of_name isName.filled isName.plain
  have start : startOf name.toList = [] := by
    rw [startOf, if_neg absent, pieces, if_neg (by simpa using isName.down.1)]
  rw [components_join (beq_false_of_ne absent), start, ite_self, List.nil_append]
  exact congrArg (base.components ++ ·) (congrArg steps pieces |>.trans (steps_of_isName isName))

theorem components_withFileName_of_nameless {path : Path} (nameless : path.Nameless)
    {name : String} (isName : IsName name) :
    (path.withFileName name).components = path.components ++ [.name name] := by
  rw [withFileName, fileName?_eq_none_iff.mpr nameless]
  exact components_join_name isName path

theorem components_withFileName_of_named {path : Path} {front : List Component} {old : String}
    (ends : path.components = front ++ [.name old]) {name : String} (isName : IsName name) :
    (path.withFileName name).components = front ++ [.name name] := by
  rcases path.components_cases with ⟨-, nameless⟩ | ⟨last, parent, named, above, split⟩
  · refine absurd ?_ (nameless old)
    rw [ends, List.getLast?_concat]
  · obtain ⟨same, -⟩ := List.append_inj' (ends.symm.trans split) rfl
    rw [withFileName, named, above, same]
    exact components_join_name isName parent

theorem getLast?_components_withFileName {name : String} (isName : IsName name) (path : Path) :
    (path.withFileName name).components.getLast? = some (.name name) := by
  rcases path.components_cases with ⟨-, nameless⟩ | ⟨last, parent, -, -, split⟩
  · rw [components_withFileName_of_nameless nameless isName, List.getLast?_concat]
  · rw [components_withFileName_of_named split isName, List.getLast?_concat]

end Path

end Retrieval
