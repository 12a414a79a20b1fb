import Retrieval.Text.Alphanumeric
import Retrieval.Text.Pattern.Set

/-!
# Search patterns

Which texts are search patterns: letters, sets between brackets, groups between
parentheses, alternatives and repetitions.  Repetitions by counts are left out,
and with them all other uses of braces, which close what a pattern stands in.
-/

namespace Retrieval

namespace Pattern

/-! ### Groups -/

/-- A group whose parenthesis has not been closed yet. -/
structure Group where
  /-- How the text behind the group is read. -/
  outside : Mode := {}
  /-- The alternatives before the last one. -/
  branches : Row := {}
  /-- The parts of the last alternative. -/
  parts : Row := {}
  deriving DecidableEq, Repr

namespace Group

def inside (group : Group) : Nat := (group.branches.add group.parts.depth).depth

def add (group : Group) (depth : Nat) : Group := { group with parts := group.parts.add depth }

def branch (group : Group) : Group :=
  { group with branches := group.branches.add group.parts.depth, parts := {} }

end Group

structure Place where
  mode : Mode := {}
  group : Group := {}
  /-- The groups around the innermost one. -/
  outer : List Group := []
  /-- The depth of the last part, if that can be repeated. -/
  last : Option Nat := none
  /-- The names of groups. -/
  names : List String := []
  deriving DecidableEq, Repr

namespace Place

def put (place : Place) (depth : Nat) : Place :=
  { place with group := place.group.add depth, last := some depth }

def repeat? (place : Place) : Option Place :=
  place.last.map fun depth =>
    let parts := place.group.parts
    let deeper := { parts with deepest := max parts.deepest (depth + 1) }
    { place with group := { place.group with parts := deeper }, last := some (depth + 1) }

def branch (place : Place) : Place := { place with group := place.group.branch, last := none }

/-- Switches count as a part that cannot be repeated. -/
def switch (place : Place) (switches : List Char) : Place :=
  { place with
    mode := place.mode.switch switches
    group := place.group.add 0
    last := none }

def enter (place : Place) (switches : List Char) : Place :=
  { place with
    mode := place.mode.switch switches
    group := { outside := place.mode }
    outer := place.group :: place.outer
    last := none }

def enterNamed? (place : Place) (name : String) : Option Place :=
  if place.names.contains name then none
  else some { place.enter [] with names := name :: place.names }

def leave? (place : Place) : Option Place :=
  match place.outer with
  | [] => none
  | around :: outer =>
      let depth := place.group.inside + 1
      some { place with
        mode := place.group.outside
        group := around.add depth
        outer := outer
        last := some depth }

def isEnd (place : Place) : Bool :=
  place.outer.isEmpty && place.group.inside ≤ depthLimit

/-! ### Names and switches -/

def isNameLetter (character : Char) : Bool :=
  ['_', '.', '[', ']'].contains character || Text.alphanumeric.contains character

/-- A letter with which the name of a group starts. -/
def startsName (character : Char) : Bool :=
  character == '_' ||
    (Text.alphanumeric.contains character && !Text.numeral.contains character)

/-- The name of a group, up to the bracket behind it. -/
def name? (text : List Char) : Option (String × List Char) :=
  let name := text.takeWhile isNameLetter
  match text.dropWhile isNameLetter with
  | '>' :: rest => if name.head?.any startsName then some (String.ofList name, rest) else none
  | _ => none

/-- Behind the parenthesis and the question mark of a group, and behind its name or its
switches. -/
def marked? (place : Place) (text : List Char) : Option (Place × List Char) :=
  let ends (character : Char) : Bool := character == ')' || character == ':'
  let named (rest : List Char) : Option (Place × List Char) := do
    let (name, after) ← name? rest
    return (← place.enterNamed? name, after)
  match text with
  | 'P' :: '<' :: rest => named rest
  | '<' :: rest => named rest
  | _ =>
      let switches := text.takeWhile (!ends ·)
      if !Mode.areSwitches switches then none
      else
        match text.dropWhile (!ends ·) with
        | ':' :: rest => some (place.enter switches, rest)
        | ')' :: rest => if switches.isEmpty then none else some (place.switch switches, rest)
        | _ => none

/-! ### Reading -/

/-- A question mark behind a repetition makes it take as little as it can. -/
def afterLazy : List Char → List Char
  | '?' :: rest => rest
  | text => text

/-- One part further, from a text without blanks in front. -/
def step? (place : Place) : List Char → Option (Place × List Char)
  | '(' :: rest =>
      match place.mode.skip rest with
      | '?' :: after => place.marked? after
      | after => some (place.enter [], after)
  | ')' :: rest => place.leave?.map fun place => (place, rest)
  | '[' :: rest =>
      (OpenSet.read? place.mode rest).map fun (depth, after) => (place.put depth, after)
  | '|' :: rest => some (place.branch, rest)
  | '*' :: rest => place.repeat?.map fun place => (place, afterLazy rest)
  | '+' :: rest => place.repeat?.map fun place => (place, afterLazy rest)
  | '?' :: rest => place.repeat?.map fun place => (place, afterLazy rest)
  | '\x7b' :: _ => none
  | text =>
      match Atom.read? place.mode text with
      | some (atom, rest) => if atom.fits place.mode then some (place.put 0, rest) else none
      | none => none

def endsWith (place : Place) (text : List Char) : Bool :=
  match place.mode.skip text with
  | [] => place.isEnd
  | shown =>
      (place.step? shown).any fun (further, rest) =>
        if rest.length < text.length then further.endsWith rest else false
termination_by text.length

end Place

def isPattern (text : List Char) : Bool := Place.endsWith {} text

end Pattern

end Retrieval
