import Retrieval.Text.Pattern.Atom
import Retrieval.Text.Pattern.Depth

/-!
# Sets in patterns

A set stands between brackets.  It holds letters, ranges, kinds of letters,
classes with names and other sets, and operators may stand between its members.
Where plain letters alone count, a set cannot be turned into its opposite.
-/

namespace Retrieval

namespace Pattern

/-- A set whose bracket has not been closed yet. -/
structure OpenSet where
  /-- The members behind the last operator. -/
  members : Row := {}
  /-- The depth of what stands before the last operator. -/
  left : Option Nat := none
  deriving DecidableEq, Repr

namespace OpenSet

def add (set : OpenSet) (depth : Nat) : OpenSet := { set with members := set.members.add depth }

/-- The depth of the members and all operators between them. -/
def inside (set : OpenSet) : Nat :=
  match set.left with
  | none => set.members.depth
  | some left => max left set.members.depth + 1

def operate (set : OpenSet) : OpenSet := ⟨{}, some set.inside⟩

def depth (set : OpenSet) : Nat := set.inside + 1

/-! ### Members -/

def classNames : List String :=
  ["alnum", "alpha", "ascii", "blank", "cntrl", "digit", "graph", "lower", "print", "punct",
    "space", "upper", "word", "xdigit"]

/-- A class that is given by its name between colons, or the opposite of one; its bracket has
been read. -/
def class? : List Char → Option (Atom × List Char)
  | ':' :: rest =>
      let isOpposite := rest.head? == some '^'
      let named := if isOpposite then rest.drop 1 else rest
      match named.dropWhile (· != ':') with
      | ':' :: ']' :: after =>
          if classNames.contains (String.ofList (named.takeWhile (· != ':'))) then
            some (.kind isOpposite, after)
          else none
      | _ => none
  | _ => none

/-- A class with a name is plain, so it also stands where all scripts count. -/
def fitsClass (mode : Mode) (isOpposite : Bool) : Bool :=
  if mode.coversScripts then !mode.foldsCase else !isOpposite

/-- The character that comes next; where blanks do not count, neither does a number sign. -/
def next? (mode : Mode) (text : List Char) : Option Char :=
  let shown := text.dropWhile Text.isBlank
  let unmarked := if shown.head? = some '#' then (shown.drop 1).dropWhile Text.isBlank else shown
  if mode.ignoresBlanks then unmarked.head?.or text.head? else text.head?

/-- The text behind a range or a single member.  A hyphen makes a range, unless a bracket or
another hyphen comes next. -/
def afterMember? (mode : Mode) (text : List Char) : Option (List Char) := do
  let (first, rest) ← Atom.letter? mode text
  match mode.skip rest with
  | [] => none
  | '-' :: after =>
      if next? mode after = some ']' ∨ next? mode after = some '-' then
        if first.fitsSet mode then return '-' :: after else none
      else
        let (last, behind) ← Atom.letter? mode (mode.skip after)
        match first, last with
        | .letter least _, .letter most _ =>
            if first.fitsSet mode && last.fitsSet mode && least ≤ most then return behind else none
        | _, _ => none
  | after => if first.fitsSet mode then return after else none

/-- How many hyphens stand at the front, and the text behind them. -/
def hyphens (mode : Mode) : List Char → Nat × List Char
  | '-' :: rest =>
      let (count, behind) := hyphens mode (mode.skip rest)
      (count + 1, behind)
  | text => (0, text)
termination_by text => text.length
decreasing_by exact Nat.lt_succ_of_le (mode.skip_length rest)

/-- A set that begins behind a bracket.  What comes first may be a sign for the opposite, and
then plain hyphens or one plain bracket. -/
def begin? (mode : Mode) (text : List Char) : Option (OpenSet × List Char) :=
  let behind := mode.skip text
  let isOpposite := behind.head? == some '^'
  let inside := if isOpposite then mode.skip (behind.drop 1) else behind
  let (front, rest) :=
    match hyphens mode inside with
    | (0, ']' :: rest) => (1, rest)
    | found => found
  let isFit := front == 0 || (Atom.letter '-' false).fitsSet mode
  if (mode.coversScripts || !isOpposite) && isFit then
    some ((List.replicate front 0).foldl add {}, rest)
  else none

/-- The depth of the outermost of some sets, and the text behind the bracket that closes it. -/
def close? (mode : Mode) (set : OpenSet) (outer : List OpenSet) (text : List Char) :
    Option (Nat × List Char) :=
  let goOn (set : OpenSet) (outer : List OpenSet) (rest : List Char) : Option (Nat × List Char) :=
    if rest.length < text.length then close? mode set outer rest else none
  match mode.skip text with
  | [] => none
  | ']' :: rest =>
      match outer with
      | [] => some (set.depth, rest)
      | around :: outer => goOn (around.add set.depth) outer rest
  | '[' :: rest =>
      match class? rest with
      | some (.kind isOpposite, after) =>
          if fitsClass mode isOpposite then goOn (set.add 0) outer after else none
      | _ => (begin? mode rest).bind fun (inner, after) => goOn inner (set :: outer) after
  | '&' :: '&' :: rest => goOn set.operate outer rest
  | '-' :: '-' :: rest => goOn set.operate outer rest
  | '~' :: '~' :: rest => goOn set.operate outer rest
  | shown => (afterMember? mode shown).bind (goOn (set.add 0) outer)
termination_by text.length

/-- The depth of the set that begins behind a bracket, and the text behind the set. -/
def read? (mode : Mode) (text : List Char) : Option (Nat × List Char) := do
  let (set, rest) ← begin? mode text
  close? mode set [] rest

end OpenSet

end Pattern

end Retrieval
