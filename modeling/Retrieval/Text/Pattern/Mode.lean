import Retrieval.Text.Blank

/-!
# Modes of patterns

A part of a pattern is read in a mode, which letters switch on and off.  Case
may count for nothing, letters may be those of all scripts or plain ones only,
and blanks may count for nothing, together with remarks that reach from a number
sign to the end of the line.  The other switches make no difference to what a
pattern is.
-/

namespace Retrieval

namespace Pattern

structure Mode where
  foldsCase : Bool := false
  coversScripts : Bool := true
  ignoresBlanks : Bool := false
  deriving DecidableEq, Repr

def afterBlanks (inRemark : Bool) : List Char → List Char
  | [] => []
  | character :: rest =>
      if inRemark then afterBlanks (character != '\n') rest
      else if Text.isBlank character then afterBlanks false rest
      else if character == '#' then afterBlanks true rest
      else character :: rest

theorem afterBlanks_length (inRemark : Bool) (text : List Char) :
    (afterBlanks inRemark text).length ≤ text.length := by
  induction text generalizing inRemark with
  | nil => simp [afterBlanks]
  | cons character rest ih =>
      simp only [afterBlanks]
      split
      · exact Nat.le_succ_of_le (ih _)
      · split
        · exact Nat.le_succ_of_le (ih _)
        · split
          · exact Nat.le_succ_of_le (ih _)
          · exact Nat.le_refl _

namespace Mode

def skip (mode : Mode) (text : List Char) : List Char :=
  if mode.ignoresBlanks then afterBlanks false text else text

theorem skip_length (mode : Mode) (text : List Char) : (mode.skip text).length ≤ text.length := by
  unfold skip
  split
  · exact afterBlanks_length _ _
  · exact Nat.le_refl _

/-- The letters that switch how a group is read. -/
def switches : List Char := ['i', 'm', 's', 'R', 'U', 'u', 'x']

/-- Switches, each once at most, and perhaps a hyphen before those that are switched off. -/
def areSwitches (text : List Char) : Bool :=
  let letters := text.filter (· != '-')
  letters.all switches.contains && letters.eraseDups.length == letters.length &&
    text.count '-' ≤ 1 && text.getLast? != some '-'

/-- Whether a letter is on behind some switches. -/
def isOn (text : List Char) (letter : Char) (before : Bool) : Bool :=
  if (text.takeWhile (· != '-')).contains letter then true
  else before && !text.contains letter

def switch (mode : Mode) (text : List Char) : Mode where
  foldsCase := isOn text 'i' mode.foldsCase
  coversScripts := isOn text 'u' mode.coversScripts
  ignoresBlanks := isOn text 'x' mode.ignoresBlanks

end Mode

end Pattern

end Retrieval
