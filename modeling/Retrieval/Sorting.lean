/-!
# Sorting

A stable sort for an order that is given by comparisons.  Few items are sorted by
insertion.  Among more of them the runs that are there are kept, stretches without
a run are partitioned around pivots, and neighbours are merged in a balanced way.

A small piece is sorted in two halves, and these are merged from both ends at
once.  If the order contradicts itself the two ends may fail to meet, and then the
sort breaks off without a result.
-/

namespace Retrieval

namespace Sorting

/-- The most items that are sorted by insertion alone. -/
def insertionLimit : Nat := 20

/-- The most items of a piece that is sorted in two halves. -/
def smallLimit : Nat := 32

section Small

variable {α : Type} (precedes : α → α → Bool)

/-- An item put among sorted ones, the last of which stands first. -/
def place (item : α) : List α → List α
  | [] => [item]
  | last :: falling =>
      if precedes last item then item :: last :: falling else last :: place item falling

def extend (falling items : List α) : List α :=
  items.foldl (fun falling item => place precedes item falling) falling

def insertion (items : List α) : List α := (extend precedes [] items).reverse

def pair (first second : α) : α × α :=
  if precedes first second then (first, second) else (second, first)

def between (left right last : α) : List α :=
  let (low, high) := pair precedes left right
  [low, high, last]

def fromPairs (low high least most : α) : List α :=
  match precedes low least, precedes high most with
  | true, true => low :: between precedes high least most
  | true, false => low :: between precedes least most high
  | false, true => least :: between precedes low high most
  | false, false => least :: between precedes low most high

def four (first second third fourth : α) : List α :=
  let (low, high) := pair precedes first second
  let (least, most) := pair precedes third fourth
  fromPairs precedes low high least most

/-- A half of a small piece; that of a wide one starts with four items at once. -/
def sortHalf (wide : Bool) (items : List α) : List α :=
  match wide, items with
  | true, first :: second :: third :: fourth :: rest =>
      (extend precedes (four precedes first second third fourth).reverse rest).reverse
  | _, items => insertion precedes items

/-- The first items of a merge, and how many of them come from the left. -/
def front : Nat → List α → List α → List α × Nat
  | count + 1, left :: lefts, right :: rights =>
      if precedes left right then
        let (merged, taken) := front count lefts (right :: rights)
        (left :: merged, taken + 1)
      else
        let (merged, taken) := front count (left :: lefts) rights
        (right :: merged, taken)
  | _, _, _ => ([], 0)

/-- Two sorted halves, merged from both ends.  The right one may be longer by an item, which
then stands between the ends. -/
def mergeEnds? (left right : List α) : Option (List α) :=
  let half := left.length
  let (first, fromLeft) := front precedes half left right
  let (last, fromRight) := front (fun later earlier => precedes earlier later) half
    right.reverse left.reverse
  let rightStart := half - fromLeft
  let rightEnd := right.length - fromRight
  if fromLeft ≤ fromRight ∧ rightStart ≤ rightEnd then
    some (first ++ ((left.take fromRight).drop fromLeft ++
      (right.take rightEnd).drop rightStart) ++ last.reverse)
  else none

def small? (items : List α) : Option (List α) :=
  let half := items.length / 2
  let wide := decide (8 ≤ items.length)
  if items.length < 2 then some items
  else
    mergeEnds? precedes (sortHalf precedes wide (items.take half))
      (sortHalf precedes wide (items.drop half))

/-- A merge that starts at the end where the shorter list runs out later. -/
def merge (left right : List α) : List α :=
  if left.length ≤ right.length then left.merge right precedes
  else
    (right.reverse.merge left.reverse fun later earlier => precedes earlier later).reverse

end Small

section Runs

variable {α : Type} (precedes : α → α → Bool)

/-- A stretch of items, which may have to be sorted yet. -/
structure Run (α : Type) where
  items : List α
  sorted : Bool

/-- How many items follow one another in a relation. -/
def streak (follows : α → α → Bool) : α → List α → Nat
  | _, [] => 0
  | last, item :: rest => if follows last item then streak follows item rest + 1 else 0

/-- The run that items start with; one that falls is turned round. -/
def foundRun : List α → List α
  | first :: second :: rest =>
      if precedes first second then
        first :: second :: rest.take (streak precedes second rest)
      else
        let falls (earlier later : α) : Bool := !precedes earlier later
        (first :: second :: rest.take (streak falls second rest)).reverse
  | items => items

/-- The first stretch of some items: a run that is long enough, a small piece that is sorted at
once, or else items that are sorted later. -/
def firstRun? (eager : Bool) (enough : Nat) (items : List α) : Option (Run α) :=
  let found := foundRun precedes items
  if enough ≤ found.length then some ⟨found, true⟩
  else if eager then (small? precedes (items.take smallLimit)).map fun sorted => ⟨sorted, true⟩
  else some ⟨items.take enough, false⟩

def runs? (eager : Bool) (enough : Nat) : List α → Option (List (Run α))
  | [] => some []
  | item :: rest => do
      let run ← firstRun? precedes eager enough (item :: rest)
      let others ← runs? eager enough (rest.drop (run.items.length - 1))
      return run :: others
termination_by items => items.length
decreasing_by
  rw [List.length_drop, List.length_cons]
  exact Nat.lt_succ_of_le (Nat.sub_le _ _)

/-- The depth of the border between two neighbours in a balanced tree of merges, where the left
one goes from a start to the border and the right one from there to an end. -/
def depth (total start border stop : Nat) : Nat :=
  let scale := (1 <<< 62 + total - 1) / total
  let gap := (scale * (start + border)) ^^^ (scale * (border + stop))
  if gap = 0 then 64 else 63 - Nat.log2 gap

variable (room : Nat) (finish : List α → Option (List α))

def Run.finish? (run : Run α) : Option (List α) :=
  if run.sorted then some run.items else finish run.items

/-- Neighbours as one run.  They are merged if one of them is sorted, or if there is no room to
sort them together later. -/
def join? (left right : Run α) : Option (Run α) :=
  if room < left.items.length + right.items.length ∨ left.sorted ∨ right.sorted then do
    return ⟨merge precedes (← left.finish? finish) (← right.finish? finish), true⟩
  else some ⟨left.items ++ right.items, false⟩

/-- A run joined to the earlier ones whose borders are as deep as the one behind it. -/
def collapse? (border : Nat) :
    List (Run α × Nat) → Run α → Option (List (Run α × Nat) × Run α)
  | [], run => some ([], run)
  | (left, leftBorder) :: earlier, run =>
      if border ≤ leftBorder then do
        collapse? border earlier (← join? precedes room finish left run)
      else some ((left, leftBorder) :: earlier, run)

def joinAll? (total : Nat) : Nat → List (Run α × Nat) → Run α → List (Run α) → Option (Run α)
  | _, earlier, run, [] =>
      (collapse? precedes room finish 0 earlier run).map fun collapsed => collapsed.2
  | start, earlier, run, next :: rest => do
      let border := start + run.items.length
      let level := depth total start border (border + next.items.length)
      let (earlier, joined) ← collapse? precedes room finish level earlier run
      joinAll? total border ((joined, level) :: earlier) next rest

def root (total : Nat) : Nat :=
  let shift := (1 + Nat.log2 total) / 2
  (1 <<< shift + total >>> shift) / 2

def enough (total : Nat) : Nat :=
  if total ≤ 64 * 64 then min (total - total / 2) 64 else root total

end Runs

section Whole

variable {α : Type} (precedes : α → α → Bool)

/-- Items sorted run by run.  An eager sort leaves no stretch for later. -/
def byRuns? (eager : Bool) (finish : List α → Option (List α)) (items : List α) :
    Option (List α) := do
  let total := items.length
  let room := max (total - total / 2) (min total 100000)
  match ← runs? precedes eager (enough total) items with
  | [] => return []
  | first :: rest => (← joinAll? precedes room finish total 0 [] first rest).finish? finish

def median (earlier : Nat → Nat → Bool) (first second third : Nat) : Nat :=
  if earlier second first = earlier third first then
    if earlier third second = earlier second first then second else third
  else first

/-- The place of a median of three medians, these of stretches that are an eighth as long. -/
def middle (earlier : Nat → Nat → Bool) (step start : Nat) : Nat :=
  if 8 ≤ step then
    median earlier (middle earlier (step / 8) start)
      (middle earlier (step / 8) (start + 4 * step))
      (middle earlier (step / 8) (start + 7 * step))
  else median earlier start (start + 4 * step) (start + 7 * step)
termination_by step

def pivotPlace (items : List α) : Nat :=
  let earlier (first second : Nat) : Bool :=
    match items[first]?, items[second]? with
    | some left, some right => precedes left right
    | _, _ => false
  middle earlier (items.length / 8) 0

/-- Items partitioned around pivots, as deep as there is a limit.  None of them stands before the
floor, if there is one; where the pivot does not stand behind it, equals of the pivot come first. -/
def byPivots? : Nat → Option α → List α → Option (List α)
  | limit, floor, items =>
      if items.length ≤ smallLimit then small? precedes items
      else
        match limit, items.splitAt (pivotPlace precedes items) with
        | limit + 1, (before, pivot :: behind) =>
            let others := before ++ behind
            let smaller := others.filter fun item => !precedes pivot item
            if floor.any (precedes pivot) ∨ smaller.isEmpty then do
              let larger ← byPivots? limit none (others.filter fun item => !precedes item pivot)
              return before.filter (precedes · pivot) ++
                pivot :: behind.filter (precedes · pivot) ++ larger
            else do
              let larger ← byPivots? limit (some pivot)
                (before.filter (precedes pivot) ++ pivot :: behind.filter (precedes pivot))
              return (← byPivots? limit floor smaller) ++ larger
        | _, _ => byRuns? precedes true (small? precedes) items

/-- The items in their order, unless comparing them breaks the sort off. -/
def stable? (items : List α) : Option (List α) :=
  if items.length ≤ insertionLimit then some (insertion precedes items)
  else
    byRuns? precedes (decide (items.length ≤ 2 * smallLimit))
      (fun rest => byPivots? precedes (2 * Nat.log2 rest.length) none rest) items

end Whole

end Sorting

end Retrieval
