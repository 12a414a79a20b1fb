import Retrieval.Proofs.Json.Token

/-!
# Written values read back

Reading the compact form of a value, whatever containers are open around it and
whatever stands behind it, completes that value (`resume?_compact`).  So a value
whose numerals are well formed and whose literals denote text is read back from
its text (`read?_write`).
-/

namespace Retrieval

namespace Json

/-- A value that its written form tells apart from every other. -/
inductive Readable : Json → Prop where
  | null : Readable .null
  | boolean (value : Bool) : Readable (.boolean value)
  | number {numeral : Numeral} (formed : numeral.WellFormed) : Readable (.number numeral)
  | string (text : String) : Readable (.string (some text))
  | array {items : List Json} (inside : ∀ item ∈ items, Readable item) : Readable (.array items)
  | object {fields : List (Literal × Json)} (named : ∀ field ∈ fields, field.1.isSome)
      (inside : ∀ field ∈ fields, Readable field.2) : Readable (.object fields)

theorem readable_record {fields : List (String × Json)}
    (inside : ∀ field ∈ fields, Readable field.2) : Readable (record fields) := by
  refine .object ?_ ?_
  · intro field member
    obtain ⟨source, -, rfl⟩ := List.mem_map.mp member
    rfl
  · intro field member
    obtain ⟨source, inList, rfl⟩ := List.mem_map.mp member
    exact inside source inList

/-! ## Tokens of the machine -/

/-- Characters that may stand behind a value. -/
def isClosing (character : Char) : Bool :=
  character == ',' || character == ']' || character == '\x7d'

def EndsValue (text : List Char) : Prop :=
  ∀ character rest, text = character :: rest → isClosing character = true

theorem endsValue_cons {character : Char} (closing : isClosing character = true)
    (rest : List Char) : EndsValue (character :: rest) := by
  intro head tail same
  cases same
  exact closing

theorem EndsValue.endsNumeral {text : List Char} (ends : EndsValue text) : EndsNumeral text := by
  intro character rest same
  have closing := ends character rest same
  simp only [isClosing, Bool.or_eq_true, beq_iff_eq] at closing
  rcases closing with (rfl | rfl) | rfl <;> decide

theorem dropWhile_isSpace_of_next? {text rest : List Char} {token : Token}
    (read : next? text = some (token, rest)) : text.dropWhile isSpace = text := by
  cases text with
  | nil => rfl
  | cons character others =>
      cases space : isSpace character with
      | false => simp [space]
      | true =>
          simp only [isSpace, Bool.or_eq_true, beq_iff_eq] at space
          rcases space with ((rfl | rfl) | rfl) | rfl <;>
            simp [next?, numeral?, whole?, digits?] at read

theorem resume?_next {state advanced : State} {text rest : List Char} (token : Token)
    (read : next? text = some (token, rest)) (fits : state.step? token = some advanced) :
    resume? state text = resume? advanced rest := by
  have filled : text.isEmpty = false := by
    cases text with
    | nil => simp [next?, numeral?, whole?, digits?] at read
    | cons character others => rfl
  rw [resume?.eq_def]
  simp only [dropWhile_isSpace_of_next? read, filled, Bool.false_eq_true, if_false]
  split
  · next refused =>
    rw [dropWhile_isSpace_of_next? read, read] at refused
    cases refused
  · next token' rest' found =>
    rw [dropWhile_isSpace_of_next? read, read] at found
    cases found
    rw [fits]

/-! ## Values -/

inductive Expects : Phase → Prop where
  | value : Expects .value
  | firstItem : Expects .firstItem

theorem step?_begin {phase : Phase} (expects : Expects phase) (token : Token)
    (opens : token ≠ .closeArray) (frames : List Frame) :
    State.step? ⟨frames, phase⟩ token = State.beginValue? frames token := by
  cases expects with
  | value => rfl
  | firstItem =>
      cases token with
      | closeArray => exact absurd rfl opens
      | _ => rfl

/-- Wherever the written form of a value begins, reading it completes the value. -/
def ReadsBack (json : Json) : Prop :=
  ∀ frames phase rest, Expects phase → EndsValue rest →
    resume? ⟨frames, phase⟩ (compact json ++ rest) = resume? ⟨frames, .complete json⟩ rest

theorem readsBack_of_token {json : Json} (token : Token) (opens : token ≠ .closeArray)
    (read : ∀ rest, EndsValue rest → next? (compact json ++ rest) = some (token, rest))
    (complete : ∀ frames, State.beginValue? frames token = some ⟨frames, .complete json⟩) :
    ReadsBack json := by
  intro frames phase rest expects ends
  have begun := (step?_begin expects token opens frames).trans (complete frames)
  exact resume?_next token (read rest ends) begun

theorem resume?_compactItems {items : List Json} (inside : ∀ item ∈ items, ReadsBack item)
    (filled : items ≠ []) {frames : List Frame} {phase : Phase} (done : List Json)
    (rest : List Char) (expects : Expects phase) :
    resume? ⟨.array done :: frames, phase⟩ (compactItems items ++ ']' :: rest) =
      resume? ⟨frames, .complete (.array (done.reverse ++ items))⟩ rest := by
  induction items generalizing done phase with
  | nil => exact absurd rfl filled
  | cons item others ih =>
      have first := inside item List.mem_cons_self
      cases others with
      | nil =>
          rw [compactItems, first _ _ _ expects (endsValue_cons rfl rest),
            resume?_next .closeArray rfl rfl, List.reverse_cons]
      | cons next tail =>
          have later := ih (fun item member => inside item (List.mem_cons_of_mem _ member))
            (List.cons_ne_nil next tail) (item :: done) .value
          rw [compactItems, List.append_assoc, List.cons_append,
            first _ _ _ expects (endsValue_cons rfl _),
            resume?_next .comma rfl rfl, later, List.reverse_cons,
            List.append_assoc, List.singleton_append]

theorem resume?_field {state : State} {frames : List Frame} {fields : List (Literal × Json)}
    {key : String} {value : Json} {rest : List Char}
    (awaits : state.step? (.string (some key)) = some ⟨frames, .colon fields (some key)⟩)
    (inside : ReadsBack value) (ends : EndsValue rest) :
    resume? state (quoted (some key) ++ ':' :: (compact value ++ rest)) =
      resume? ⟨.object fields (some key) :: frames, .complete value⟩ rest := by
  rw [resume?_next _ (next?_quoted key _) awaits, resume?_next .colon rfl rfl,
    inside _ _ _ .value ends]

theorem resume?_compactFields {fields : List (Literal × Json)}
    (named : ∀ field ∈ fields, field.1.isSome) (inside : ∀ field ∈ fields, ReadsBack field.2)
    (filled : fields ≠ []) {state : State} {frames : List Frame}
    (done : List (Literal × Json)) (rest : List Char)
    (awaits : ∀ key, state.step? (.string key) = some ⟨frames, .colon done key⟩) :
    resume? state (compactFields fields ++ '\x7d' :: rest) =
      resume? ⟨frames, .complete (.object (done.reverse ++ fields))⟩ rest := by
  -- The first field follows the brace and the others a comma, in different states that await a key.
  induction fields generalizing done state with
  | nil => exact absurd rfl filled
  | cons field others ih =>
      obtain ⟨literal, value⟩ := field
      have first : ReadsBack value := inside _ List.mem_cons_self
      obtain ⟨key, rfl⟩ := Option.isSome_iff_exists.mp (named _ List.mem_cons_self)
      cases others with
      | nil =>
          rw [compactFields, List.append_assoc, List.cons_append,
            resume?_field (awaits _) first (endsValue_cons rfl rest),
            resume?_next .closeObject rfl rfl, List.reverse_cons]
      | cons next tail =>
          have later : resume? ⟨frames, .nextKey ((some key, value) :: done)⟩
              (compactFields (next :: tail) ++ '\x7d' :: rest) =
              resume? ⟨frames, .complete
                (.object (((some key, value) :: done).reverse ++ next :: tail))⟩ rest :=
            ih (fun field member => named field (List.mem_cons_of_mem _ member))
              (fun field member => inside field (List.mem_cons_of_mem _ member))
              (List.cons_ne_nil next tail) _ fun _ => rfl
          rw [compactFields, List.append_assoc, List.cons_append, List.append_assoc,
            List.cons_append, resume?_field (awaits _) first (endsValue_cons rfl _),
            resume?_next .comma rfl rfl, later, List.reverse_cons,
            List.append_assoc, List.singleton_append]

theorem readsBack_array {items : List Json} (inside : ∀ item ∈ items, ReadsBack item) :
    ReadsBack (.array items) := by
  intro frames phase rest expects _
  have opened := step?_begin expects .openArray Token.noConfusion frames
  rw [compact, List.cons_append, List.append_assoc, List.singleton_append,
    resume?_next .openArray rfl opened]
  by_cases none : items = []
  · rw [none, compactItems, List.nil_append]
    exact resume?_next .closeArray rfl rfl
  · exact resume?_compactItems inside none [] rest .firstItem

theorem readsBack_object {fields : List (Literal × Json)}
    (named : ∀ field ∈ fields, field.1.isSome) (inside : ∀ field ∈ fields, ReadsBack field.2) :
    ReadsBack (.object fields) := by
  intro frames phase rest expects _
  have opened := step?_begin expects .openObject Token.noConfusion frames
  rw [compact, List.cons_append, List.append_assoc, List.singleton_append,
    resume?_next .openObject rfl opened]
  by_cases none : fields = []
  · rw [none, compactFields, List.nil_append]
    exact resume?_next .closeObject rfl rfl
  · exact resume?_compactFields named inside none [] rest (fun _ => rfl)

theorem resume?_compact {json : Json} (readable : Readable json) : ReadsBack json := by
  induction readable with
  | null => exact readsBack_of_token .null Token.noConfusion (fun _ _ => rfl) fun _ => rfl
  | boolean value =>
      refine readsBack_of_token (.boolean value) Token.noConfusion ?_ fun _ => rfl
      intro rest _
      cases value <;> rfl
  | @number numeral formed =>
      refine readsBack_of_token (.number numeral) Token.noConfusion ?_ fun _ => rfl
      intro rest ends
      exact next?_numeralText formed ends.endsNumeral
  | string text =>
      refine readsBack_of_token (.string (some text)) Token.noConfusion ?_ fun _ => rfl
      intro rest _
      exact next?_quoted text rest
  | array _ ih => exact readsBack_array ih
  | object named _ ih => exact readsBack_object named ih

/-- A readable value is read back from its text. -/
theorem read?_write {json : Json} (readable : Readable json) : read? json.write = some json := by
  have ends : EndsValue [] := by
    intro character rest same
    cases same
  have whole := resume?_compact readable [] .value [] .value ends
  rw [List.append_nil] at whole
  rw [read?, write, String.toList_ofList, State.start, whole, resume?.eq_def]
  rfl

end Json

end Retrieval
