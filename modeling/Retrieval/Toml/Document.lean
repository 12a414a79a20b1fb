import Retrieval.Toml.Scalar
import Retrieval.Toml.Text

/-!
# TOML documents

A document is a list of sections: bindings before the first header, then the
bindings under each header.  Containers nest up to a limit, and so do the parts
of a key.
-/

namespace Retrieval

namespace Toml

def depthLimit : Nat := 79

/-- A key of a binding, with its length checked, and the text behind the equals sign. -/
def bindingKey? (text : List Char) : Option (List String × List Char) := do
  let (path, rest) ← key? text
  match rest with
  | '=' :: after => if path.length ≤ depthLimit then some (path, skipSpace after) else none
  | _ => none

mutual

/-- A value; its containers may nest as deep as the first argument says. -/
def value? (depth : Nat) (text : List Char) : Option (Toml × List Char) :=
  match text with
  | '[' :: rest =>
      match depth with
      | 0 => none
      | inner + 1 => (items? inner (skipFiller rest)).map fun read => (.array read.1, read.2)
  | '\x7b' :: rest =>
      match depth with
      | 0 => none
      | inner + 1 => do
          let (bindings, after) ← match skipSpace rest with
            | '\x7d' :: after => some ([], after)
            | start => bindings? inner start
          return (.table .closed (← bindAll? [] bindings), after)
  | '"' :: _ => (string? text).map fun read => (.text read.1, read.2)
  | '\'' :: _ => (string? text).map fun read => (.text read.1, read.2)
  | _ => scalar? text
termination_by (depth, 0, 0)

/-- The items of an array up to its end; a comma may stand behind the last one. -/
def items? (depth : Nat) (text : List Char) : Option (List Toml × List Char) :=
  match text with
  | ']' :: rest => some ([], rest)
  | start => do
      let (item, rest) ← value? depth start
      match skipFiller rest with
      | ']' :: after => return ([item], after)
      | ',' :: after =>
          if (skipFiller after).length < start.length then
            let (others, remaining) ← items? depth (skipFiller after)
            return (item :: others, remaining)
          else none
      | _ => none
termination_by (depth, 1, text.length)

/-- The bindings between braces up to the closing one. -/
def bindings? (depth : Nat) (text : List Char) : Option (List Binding × List Char) := do
  let (path, start) ← bindingKey? text
  let (value, rest) ← value? depth start
  match skipSpace rest with
  | '\x7d' :: after => return ([(path, value)], after)
  | ',' :: after =>
      if after.length < text.length then
        let (others, remaining) ← bindings? depth (skipSpace after)
        return ((path, value) :: others, remaining)
      else none
  | _ => none
termination_by (depth, 1, text.length)
decreasing_by
  · exact Prod.Lex.right _ (Prod.Lex.left _ _ (by decide))
  · have := (List.dropWhile_sublist isSpace (l := after)).length_le
    refine Prod.Lex.right _ (Prod.Lex.right _ ?_)
    simp only [skipSpace]
    omega

end

/-- One line of a document, or one binding whose value takes more lines. -/
inductive Statement where
  | nothing
  | header (path : List String)
  | repeatedHeader (path : List String)
  | binding (path : List String) (value : Toml)

/-- A key between brackets that have been opened. -/
def headerPath? (closing : List Char) (text : List Char) : Option (List String × List Char) := do
  let (path, rest) ← key? text
  if closing.isPrefixOf rest && path.length ≤ depthLimit then
    some (path, rest.drop closing.length)
  else none

def statement? (text : List Char) : Option (Statement × List Char) := do
  match skipSpace text with
  | '[' :: '[' :: rest =>
      let (path, after) ← headerPath? [']', ']'] rest
      return (.repeatedHeader path, ← lineEnd? after)
  | '[' :: rest =>
      let (path, after) ← headerPath? [']'] rest
      return (.header path, ← lineEnd? after)
  | start =>
      match lineEnd? start with
      | some after => return (.nothing, after)
      | none =>
          let (path, after) ← bindingKey? start
          let (value, rest) ← value? depthLimit after
          return (.binding path value, ← lineEnd? rest)

def statements? (text : List Char) : Option (List Statement) :=
  if text = [] then some []
  else do
    let (statement, rest) ← statement? text
    if rest.length < text.length then
      return statement :: (← statements? rest)
    else none
termination_by text.length

/-- The bindings before the first header, and what follows them. -/
def leadingBindings : List Statement → List Binding × List Statement
  | .binding path value :: rest =>
      let (bindings, others) := leadingBindings rest
      ((path, value) :: bindings, others)
  | .nothing :: rest => leadingBindings rest
  | rest => ([], rest)

theorem length_leadingBindings (statements : List Statement) :
    (leadingBindings statements).2.length ≤ statements.length := by
  fun_induction leadingBindings statements with
  | case1 path value rest bindings others same ih =>
      simp only [same] at ih
      simp only [List.length_cons]
      omega
  | case2 rest ih =>
      simp only [List.length_cons]
      omega
  | case3 => simp

/-- The entries with the sections of some statements added. -/
def sections? (entries : Entries) (statements : List Statement) : Option Entries :=
  match statements with
  | [] => some entries
  | .header path :: rest => do
      let read := leadingBindings rest
      sections? (← changePath? entries (openTable? read.1) path) read.2
  | .repeatedHeader path :: rest => do
      let read := leadingBindings rest
      sections? (← changePath? entries (appendTable? read.1) path) read.2
  | .nothing :: rest => sections? entries rest
  | .binding path value :: rest => do
      sections? (← bindPath? entries path value) rest
termination_by statements.length
decreasing_by
  all_goals
    try have := length_leadingBindings rest
    simp only [List.length_cons]
    omega

def read? (text : String) : Option Toml := do
  let characters := text.toList
  let content := if characters.head? = some '\uFEFF' then characters.drop 1 else characters
  let statements ← statements? content
  let (bindings, rest) := leadingBindings statements
  return .table .header (← sections? (← bindAll? [] bindings) rest)

end Toml

end Retrieval
