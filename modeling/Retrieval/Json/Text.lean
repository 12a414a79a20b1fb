import Retrieval.Json.Token

/-!
# JSON text

Reading keeps the containers that are still open on a stack, takes one token at
a time, and ends with the one value of the whole text.  Writing is compact, or
spread over lines with two blanks for each level.
-/

namespace Retrieval

namespace Json

/-- A container that is still open; its latest member stands first. -/
inductive Frame where
  | array (items : List Json)
  /-- The key is that of the member being read. -/
  | object (fields : List (Literal × Json)) (key : Literal)

inductive Phase where
  | value
  | firstItem
  | firstKey
  | nextKey (fields : List (Literal × Json))
  | colon (fields : List (Literal × Json)) (key : Literal)
  | complete (value : Json)

structure State where
  frames : List Frame
  phase : Phase

namespace State

def start : State := ⟨[], .value⟩

def beginValue? (frames : List Frame) : Token → Option State
  | .null => some ⟨frames, .complete .null⟩
  | .boolean value => some ⟨frames, .complete (.boolean value)⟩
  | .number numeral => some ⟨frames, .complete (.number numeral)⟩
  | .string literal => some ⟨frames, .complete (.string literal)⟩
  | .openArray => some ⟨.array [] :: frames, .firstItem⟩
  | .openObject => some ⟨frames, .firstKey⟩
  | _ => none

def beginKey? (frames : List Frame) (fields : List (Literal × Json)) : Token → Option State
  | .string literal => some ⟨frames, .colon fields literal⟩
  | _ => none

def afterValue? (value : Json) : List Frame → Token → Option State
  | .array items :: frames, .comma => some ⟨.array (value :: items) :: frames, .value⟩
  | .array items :: frames, .closeArray =>
      some ⟨frames, .complete (.array (value :: items).reverse)⟩
  | .object fields key :: frames, .comma => some ⟨frames, .nextKey ((key, value) :: fields)⟩
  | .object fields key :: frames, .closeObject =>
      some ⟨frames, .complete (.object ((key, value) :: fields).reverse)⟩
  | _, _ => none

def step? (state : State) (token : Token) : Option State :=
  match state.phase, token with
  | .value, token => beginValue? state.frames token
  | .firstItem, .closeArray =>
      match state.frames with
      | .array items :: frames => some ⟨frames, .complete (.array items.reverse)⟩
      | _ => none
  | .firstItem, token => beginValue? state.frames token
  | .firstKey, .closeObject => some ⟨state.frames, .complete (.object [])⟩
  | .firstKey, token => beginKey? state.frames [] token
  | .nextKey fields, token => beginKey? state.frames fields token
  | .colon fields key, .colon => some ⟨.object fields key :: state.frames, .value⟩
  | .colon _ _, _ => none
  | .complete value, token => afterValue? value state.frames token

def finish? (state : State) : Option Json :=
  match state.frames, state.phase with
  | [], .complete value => some value
  | _, _ => none

end State

def resume? (state : State) (text : List Char) : Option Json :=
  let rest := text.dropWhile isSpace
  if rest.isEmpty then state.finish?
  else
    match read : next? rest with
    | none => none
    | some (token, remaining) =>
        match state.step? token with
        | none => none
        | some advanced => resume? advanced remaining
termination_by text.length
decreasing_by
  have shorter := next?_shorter read
  have := length_dropWhile_le isSpace text
  simp only [rest] at shorter
  omega

def read? (text : String) : Option Json := resume? State.start text.toList

def hexDigitOf (value : Nat) : Char := (Nat.toDigits 16 value).getLastD '0'

def escape (character : Char) : List Char :=
  match character with
  | '"' => ['\\', '"']
  | '\\' => ['\\', '\\']
  | '\x08' => ['\\', 'b']
  | '\x0c' => ['\\', 'f']
  | '\n' => ['\\', 'n']
  | '\r' => ['\\', 'r']
  | '\t' => ['\\', 't']
  | other =>
      if other.toNat < 0x20 then
        ['\\', 'u', '0', '0', hexDigitOf (other.toNat / 16), hexDigitOf (other.toNat % 16)]
      else [other]

def quoted (literal : Literal) : List Char :=
  '"' :: ((literal.getD "").toList.flatMap escape ++ ['"'])

def numeralText (numeral : Numeral) : List Char :=
  (if numeral.negative then ['-'] else []) ++ numeral.whole ++
    (match numeral.fraction with
      | none => []
      | some digits => '.' :: digits) ++
    (match numeral.exponent with
      | none => []
      | some (negative, digits) => 'e' :: ((if negative then ['-'] else []) ++ digits))

mutual

def compact : Json → List Char
  | .null => ['n', 'u', 'l', 'l']
  | .boolean true => ['t', 'r', 'u', 'e']
  | .boolean false => ['f', 'a', 'l', 's', 'e']
  | .number numeral => numeralText numeral
  | .string literal => quoted literal
  | .array items => '[' :: (compactItems items ++ [']'])
  | .object fields => '\x7b' :: (compactFields fields ++ ['\x7d'])

def compactItems : List Json → List Char
  | [] => []
  | [item] => compact item
  | item :: next :: rest => compact item ++ ',' :: compactItems (next :: rest)

def compactFields : List (Literal × Json) → List Char
  | [] => []
  | [(key, value)] => quoted key ++ ':' :: compact value
  | (key, value) :: next :: rest =>
      quoted key ++ ':' :: (compact value ++ ',' :: compactFields (next :: rest))

end

def write (json : Json) : String := String.ofList (compact json)

def newLine (level : Nat) : List Char := '\n' :: List.replicate (2 * level) ' '

mutual

/-- The written form with every member of a container on a line of its own. -/
def spread (level : Nat) : Json → List Char
  | .array (item :: rest) =>
      '[' :: (spreadItems (level + 1) (item :: rest) ++ newLine level ++ [']'])
  | .object (field :: rest) =>
      '\x7b' :: (spreadFields (level + 1) (field :: rest) ++ newLine level ++ ['\x7d'])
  | .array [] => ['[', ']']
  | .object [] => ['\x7b', '\x7d']
  | .null => ['n', 'u', 'l', 'l']
  | .boolean true => ['t', 'r', 'u', 'e']
  | .boolean false => ['f', 'a', 'l', 's', 'e']
  | .number numeral => numeralText numeral
  | .string literal => quoted literal

def spreadItems (level : Nat) : List Json → List Char
  | [] => []
  | [item] => newLine level ++ spread level item
  | item :: next :: rest =>
      newLine level ++ spread level item ++ ',' :: spreadItems level (next :: rest)

def spreadFields (level : Nat) : List (Literal × Json) → List Char
  | [] => []
  | [(key, value)] => newLine level ++ quoted key ++ ':' :: ' ' :: spread level value
  | (key, value) :: next :: rest =>
      newLine level ++ quoted key ++ ':' :: ' ' ::
        (spread level value ++ ',' :: spreadFields level (next :: rest))

end

def writeSpread (json : Json) : String := String.ofList (spread 0 json)

end Json

end Retrieval
