import Retrieval.Proofs.Words
import Retrieval.Text.Line

/-!
# Paragraphs

A paragraph can be gathered line by line: a line that is not blank waits behind
those before it, and a blank line closes what waits.  So nothing but blank lines
is lost, and two lines that follow each other are parted by a blank line alone.
-/

namespace Retrieval

namespace Split

variable {α : Type} {separates : α → Bool}

/-! ## Gathering runs -/

/-- The runs that a separator has closed, and the members of the run that may go on. -/
structure Gathered (α : Type) where
  closed : List (List α)
  pending : List α

namespace Gathered

def close (gathered : Gathered α) : Gathered α :=
  if gathered.pending.isEmpty then gathered else ⟨gathered.closed ++ [gathered.pending], []⟩

/-- A separator closes the run, and any other member waits in it. -/
def read (separates : α → Bool) (gathered : Gathered α) (item : α) : Gathered α :=
  if separates item then gathered.close
  else { gathered with pending := gathered.pending ++ [item] }

/-- The pending members are the last of those that were read, behind a separator if any. -/
structure Holds (separates : α → Bool) (items : List α) (gathered : Gathered α) (front : List α) :
    Prop where
  split : items = front ++ gathered.pending
  closed : gathered.closed = runs separates front
  plain : ∀ item ∈ gathered.pending, separates item = false
  ends : ∀ last ∈ front.getLast?, separates last = true

end Gathered

/-- The runs of a list, gathered from its members one by one. -/
def gather (separates : α → Bool) (items : List α) : List (List α) :=
  (items.foldl (Gathered.read separates) ⟨[], []⟩).close.closed

theorem runs_append_of_plain {front back : List α}
    (ends : ∀ last ∈ front.getLast?, separates last = true) (filled : back ≠ [])
    (plain : ∀ item ∈ back, separates item = false) :
    runs separates (front ++ back) = runs separates front ++ [back] := by
  induction front using List.reverseRecOn with
  | nil => exact runs_of_forall filled plain
  | append_singleton front last _ =>
      have stands : separates last = true := ends last List.getLast?_concat
      rw [List.append_assoc, List.singleton_append, runs_append_cons stands,
        runs_append_cons stands, runs_nil, List.append_nil, runs_of_forall filled plain]

namespace Gathered

variable {items front : List α} {gathered : Gathered α}

theorem Holds.closed_close (holds : Holds separates items gathered front) :
    gathered.close.closed = runs separates items := by
  unfold close
  rw [holds.split]
  split
  · next none =>
    rw [List.isEmpty_iff.mp none, List.append_nil, holds.closed]
  · next waits =>
    rw [runs_append_of_plain holds.ends (fun none => waits (List.isEmpty_iff.mpr none)) holds.plain,
      holds.closed]

theorem pending_close : gathered.close.pending = [] := by
  unfold close
  split
  · next none => exact List.isEmpty_iff.mp none
  · rfl

theorem Holds.read (holds : Holds separates items gathered front) (item : α) :
    ∃ front, Holds separates (items ++ [item]) (gathered.read separates item) front := by
  cases stands : separates item with
  | true =>
      refine ⟨items ++ [item], ?_⟩
      rw [Gathered.read, if_pos stands]
      constructor
      case split => rw [pending_close, List.append_nil]
      case closed => rw [holds.closed_close, runs_append_cons stands, runs_nil, List.append_nil]
      case plain => simp [pending_close]
      case ends => simp [stands]
  | false =>
      refine ⟨front, ?_⟩
      rw [Gathered.read, if_neg (Bool.eq_false_iff.mp stands)]
      constructor
      case split => rw [holds.split, List.append_assoc]
      case closed => exact holds.closed
      case plain =>
        intro other member
        rcases List.mem_append.mp member with earlier | last
        · exact holds.plain other earlier
        · rw [List.mem_singleton.mp last]
          exact stands
      case ends => exact holds.ends

theorem exists_holds (items : List α) :
    ∃ front, Holds separates items (items.foldl (Gathered.read separates) ⟨[], []⟩) front := by
  induction items using List.reverseRecOn with
  | nil => exact ⟨[], rfl, rfl, by simp, by simp⟩
  | append_singleton items item ih =>
      obtain ⟨front, holds⟩ := ih
      rw [List.foldl_append]
      exact holds.read item

end Gathered

theorem gather_eq_runs (items : List α) : gather separates items = runs separates items := by
  obtain ⟨front, holds⟩ := @Gathered.exists_holds α separates items
  exact holds.closed_close

/-! ## Members of runs -/

theorem LongestRuns.flatten_eq {items : List α} {found : List (List α)}
    (longest : LongestRuns separates items found) :
    found.flatten = items.filter fun item => !separates item := by
  induction longest with
  | nil => rfl
  | separator stands _ ih => simpa [stands] using ih
  | run _ plain _ _ ih =>
      rw [List.flatten_cons, ih, List.filter_append]
      congr 1
      exact (List.filter_eq_self.mpr (by simpa using plain)).symm

theorem flatten_runs (items : List α) :
    (runs separates items).flatten = items.filter fun item => !separates item :=
  (longestRuns_runs items).flatten_eq

theorem plain_of_mem_splitOnP {items piece : List α} (member : piece ∈ items.splitOnP separates) :
    ∀ item ∈ piece, separates item = false := by
  intro item inside
  have run : piece ∈ runs separates items := by
    refine List.mem_filter.mpr ⟨member, ?_⟩
    simpa using List.ne_nil_of_mem inside
  exact (longestRuns_runs items).plain_of_mem run item inside

/-- The members at a place and at the next one, counted through all pieces, are in one piece. -/
def Together (pieces : List (List α)) (place : Nat) : Prop :=
  ∃ front left first second right back,
    pieces = front ++ (left ++ first :: second :: right) :: back ∧
      front.flatten.length + left.length = place

theorem Together.cons {pieces : List (List α)} {place : Nat} (together : Together pieces place)
    (piece : List α) : Together (piece :: pieces) (piece.length + place) := by
  obtain ⟨front, left, first, second, right, back, rfl, rfl⟩ := together
  refine ⟨piece :: front, left, first, second, right, back, rfl, ?_⟩
  rw [List.flatten_cons, List.length_append, Nat.add_assoc]

theorem not_together_append {before after : List (List α)} {place : Nat}
    (ends : before.flatten.length = place + 1) : ¬ Together (before ++ after) place := by
  rintro ⟨front, left, first, second, right, back, split, reached⟩
  rcases List.append_eq_append_iff.mp split with ⟨more, rfl, -⟩ | ⟨more, rfl, later⟩
  · rw [List.flatten_append, List.length_append] at reached
    omega
  · rw [List.flatten_append, List.length_append] at ends
    cases more with
    | nil =>
        rw [List.flatten_nil, List.length_nil] at ends
        omega
    | cons piece more =>
        obtain ⟨rfl, -⟩ := List.cons.inj later
        simp only [List.flatten_cons, List.length_append, List.length_cons] at ends
        omega

theorem countP_of_plain {items : List α} (plain : ∀ item ∈ items, separates item = false) :
    items.countP (fun item => !separates item) = items.length :=
  List.countP_eq_length.mpr (by simpa using plain)

theorem LongestRuns.together {items : List α} {found : List (List α)}
    (longest : LongestRuns separates items found) {before after : List α} {first second : α}
    (split : items = before ++ first :: second :: after) (leads : separates first = false)
    (follows : separates second = false) :
    Together found (before.countP fun item => !separates item) := by
  induction longest generalizing before with
  | nil => simp at split
  | separator stands _ ih =>
      cases before with
      | nil =>
          obtain ⟨rfl, -⟩ := List.cons.inj split
          rw [leads] at stands
          cases stands
      | cons other before =>
          obtain ⟨rfl, rest⟩ := List.cons.inj split
          rw [List.countP_cons_of_neg (by simp [stands])]
          exact ih rest
  | @run items rest found _ plain ends _ ih =>
      have beyond {more : List α} (inside : before = items ++ more)
          (later : rest = more ++ first :: second :: after) :
          Together (items :: found) (before.countP fun item => !separates item) := by
        rw [inside, List.countP_append, countP_of_plain plain]
        exact (ih later).cons items
      rcases List.append_eq_append_iff.mp split with ⟨more, inside, later⟩ | ⟨more, inside, later⟩
      · exact beyond inside later
      · match more, later with
        | [], later =>
            rw [List.append_nil] at inside
            exact beyond (inside.symm.trans (List.append_nil items).symm) later.symm
        | [_], later =>
            obtain ⟨rfl, rfl⟩ := List.cons.inj later
            have stands := ends second rfl
            rw [follows] at stands
            cases stands
        | _ :: _ :: right, later =>
            obtain ⟨rfl, others⟩ := List.cons.inj later
            obtain ⟨rfl, -⟩ := List.cons.inj others
            have early : ∀ item ∈ before, separates item = false := by
              intro item member
              exact plain item (inside ▸ List.mem_append_left _ member)
            refine ⟨[], before, first, second, right, found, ?_, ?_⟩
            · rw [inside, List.nil_append]
            · rw [countP_of_plain early, List.flatten_nil, List.length_nil, Nat.zero_add]

/-- Two members with nothing but separators between them are in one run exactly if there is no
separator between them. -/
theorem together_runs_iff {before between after : List α} {first second : α}
    (leads : separates first = false) (follows : separates second = false)
    (parted : ∀ item ∈ between, separates item = true) :
    Together (runs separates (before ++ first :: (between ++ second :: after)))
        (before.countP fun item => !separates item) ↔ between = [] := by
  cases between with
  | nil => exact iff_of_true ((longestRuns_runs _).together rfl leads follows) rfl
  | cons separator between =>
      refine iff_of_false ?_ (List.cons_ne_nil separator between)
      have cut : before ++ first :: (separator :: between ++ second :: after) =
          (before ++ [first]) ++ separator :: (between ++ second :: after) := by simp
      rw [cut, runs_append_cons (parted separator List.mem_cons_self)]
      apply not_together_append
      rw [flatten_runs, ← List.countP_eq_length_filter, List.countP_append,
        List.countP_singleton, leads]
      rfl

end Split

namespace Text

def linesWithin (text : String) : List String :=
  (text.toList.splitOn '\n').map String.ofList

theorem exists_piece_of_mem_linesOfPieces {pieces : List (List Char)} {line : List Char}
    (member : line ∈ linesOfPieces pieces) : ∃ piece ∈ pieces, line.Sublist piece := by
  induction pieces using linesOfPieces.induct with
  | case1 => cases member
  | case2 last none => simp [linesOfPieces, none] at member
  | case3 last filled =>
      obtain rfl : line = last := by simpa [linesOfPieces, filled] using member
      exact ⟨line, List.mem_singleton_self line, .refl line⟩
  | case4 piece next rest ih =>
      rcases List.mem_cons.mp member with rfl | later
      · refine ⟨piece, List.mem_cons_self, ?_⟩
        unfold closedLine
        split
        · exact List.dropLast_sublist piece
        · exact .refl piece
      · obtain ⟨other, inside, within⟩ := ih later
        exact ⟨other, List.mem_cons_of_mem piece inside, within⟩

theorem lineFeed_not_mem_of_mem_lines {text line : String} (listed : line ∈ lines text) :
    '\n' ∉ line.toList := by
  obtain ⟨characters, member, rfl⟩ := List.mem_map.mp listed
  obtain ⟨piece, inside, within⟩ := exists_piece_of_mem_linesOfPieces member
  rw [String.toList_ofList]
  intro feed
  exact absurd (Split.plain_of_mem_splitOnP inside _ (within.subset feed)) (by simp)

theorem linesWithin_intercalate {run : List String} (filled : run ≠ [])
    (plain : ∀ line ∈ run, '\n' ∉ line.toList) :
    linesWithin (String.intercalate "\n" run) = run := by
  have feed : "\n".toList = ['\n'] := rfl
  have spelled : String.ofList ∘ String.toList = id := funext fun _ => String.ofList_toList
  rw [linesWithin, String.toList_intercalate, feed, List.splitOn_intercalate, List.map_map, spelled,
    List.map_id]
  · simpa using plain
  · simpa using filled

theorem linesWithin_of_run {text : String} {run : List String}
    (member : run ∈ Split.runs allBlank (lines text)) :
    linesWithin (String.intercalate "\n" run) = run := by
  refine linesWithin_intercalate (Split.ne_nil_of_mem_runs member) fun line inside => ?_
  have kept : line ∈ (Split.runs allBlank (lines text)).flatten :=
    List.mem_flatten_of_mem member inside
  rw [Split.flatten_runs] at kept
  exact lineFeed_not_mem_of_mem_lines (List.mem_of_mem_filter kept)

theorem map_linesWithin_paragraphs (text : String) :
    (paragraphs text).map linesWithin = Split.runs allBlank (lines text) := by
  rw [paragraphs, List.map_map]
  exact (List.map_congr_left fun _ member => linesWithin_of_run member).trans (List.map_id _)

theorem allBlank_eq_false_iff {text : String} :
    allBlank text = false ↔ ∃ character ∈ text.toList, isBlank character = false := by
  simp [allBlank]

/-- The texts hold the lines that are not blank, and change where a blank line stands. -/
structure ParagraphsOf (text : String) (found : List String) : Prop where
  /-- They are gathered line by line. -/
  gathered : found = (Split.gather allBlank (lines text)).map (String.intercalate "\n")
  filled : ∀ paragraph ∈ found, paragraph ≠ ""
  written : ∀ paragraph ∈ found, ∀ line ∈ linesWithin paragraph,
    ∃ character ∈ line.toList, isBlank character = false
  kept : found.flatMap linesWithin = (lines text).filter fun line => !allBlank line
  /-- Two lines that are not blank, and nothing but blank lines between them. -/
  together_iff : ∀ before first between second after,
    lines text = before ++ first :: (between ++ second :: after) →
    allBlank first = false → allBlank second = false → (∀ line ∈ between, allBlank line = true) →
    (Split.Together (found.map linesWithin) (before.countP fun line => !allBlank line) ↔
      between = [])

/-- The paragraphs of a text have all lines that are not blank, in order and no others.  No
paragraph is empty, and two such lines in a row are in one paragraph exactly if no blank line
stands between them. -/
theorem paragraphs_follow_lines (text : String) : ParagraphsOf text (paragraphs text) := by
  have sections := map_linesWithin_paragraphs text
  have written : ∀ paragraph ∈ paragraphs text, ∀ line ∈ linesWithin paragraph,
      ∃ character ∈ line.toList, isBlank character = false := by
    intro paragraph member line inside
    have run : linesWithin paragraph ∈ Split.runs allBlank (lines text) :=
      sections ▸ List.mem_map_of_mem member
    exact allBlank_eq_false_iff.mp ((Split.longestRuns_runs _).plain_of_mem run line inside)
  constructor
  case gathered => rw [Split.gather_eq_runs, paragraphs]
  case filled =>
    rintro paragraph member rfl
    obtain ⟨character, inside, -⟩ := written "" member "" (List.mem_singleton_self "")
    cases inside
  case written => exact written
  case kept => rw [List.flatMap_def, sections, Split.flatten_runs]
  case together_iff =>
    intro before first between second after split leads follows parted
    rw [sections, split]
    exact Split.together_runs_iff leads follows parted

/-- Only the last line keeps its carriage return. -/
example : paragraphs "\na\n\tb\n\n \u2003\nc\r\n\r\nd\r" = ["a\n\tb", "c", "d\r"] := by
  decide +kernel

end Text

end Retrieval
