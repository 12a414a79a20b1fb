import Retrieval.Proofs.Outcome
import Retrieval.Vocabulary

/-!
# Tokenizers from a vocabulary

The exact tokenizer fails only on tokens that its vocabulary does not know
(`textOf_error`), and a vocabulary knows the tokens that it gives a text.  So a
tokenizer from a sound supply gives every window of a text its text again.
-/

namespace Retrieval

namespace Vocabulary

/-- The tokens of every text are known. -/
def KnowsOwn (vocabulary : Vocabulary) : Prop :=
  ∀ text, ∀ token ∈ vocabulary.encode text, vocabulary.knows token = true

namespace Supply

/-- There is no vocabulary that cannot be loaded. -/
def Loads (supply : Supply) : Prop := ∀ message, supply ≠ .broken message

/-- What there is can be loaded, and knows its own tokens. -/
structure Sound (supply : Supply) : Prop where
  loads : supply.Loads
  knowsOwn : ∀ vocabulary, supply = .loaded vocabulary → vocabulary.KnowsOwn

end Supply

/-- The tokens of single printable characters, which are numbered from the exclamation mark on.  A
text in which single digits and marks take turns has no longer ones. -/
def printable : Vocabulary where
  encode := fun text =>
    ((text.toList.map Char.toNat).filter fun code => 0x21 ≤ code ∧ code < 0x7F).map (· - 0x21)
  decode := fun tokens =>
    match tokens.find? (0x5E ≤ ·) with
    | some stranger => .error s!"Invalid token for decoding: {stranger}"
    | none => .ok (String.ofList (tokens.map fun token => Char.ofNat (token + 0x21)))
  bytes := fun tokens => tokens.map fun token => UInt8.ofNat (token + 0x21)

theorem knowsOwn_printable : printable.KnowsOwn := by
  intro text token member
  obtain ⟨code, inside, rfl⟩ := List.mem_map.mp member
  have bounds := of_decide_eq_true (List.mem_filter.mp inside).2
  have known : ([code - 0x21].find? (0x5E ≤ ·)) = none := by
    refine List.find?_eq_none.mpr ?_
    intro own given reached
    obtain rfl := List.mem_singleton.mp given
    have bound : (0x5E : Nat) ≤ code - 0x21 := of_decide_eq_true reached
    omega
  unfold knows printable
  dsimp only
  rw [known]

theorem Supply.sound_printable : Sound (.loaded .printable) where
  loads := nofun
  knowsOwn := by
    rintro _ ⟨⟩
    exact knowsOwn_printable

variable {vocabulary : Vocabulary} {tokens : List TokenId}

/-- A window without text has a token that is not known, and this is the failure. -/
theorem textOf_error {failure : Failure} (failed : vocabulary.textOf tokens = .error failure) :
    ∃ stranger ∈ tokens, vocabulary.knows stranger = false ∧
      failure = .tokenizer s!"unknown token id {stranger}" := by
  unfold textOf at failed
  split at failed
  · cases failed
  · split at failed
    · next stranger found =>
      cases failed
      refine ⟨stranger, List.mem_of_find?_eq_some found, ?_, rfl⟩
      simpa using List.find?_some found
    · cases failed

end Vocabulary

namespace Tokenizer

open Vocabulary (Supply)

/-- Whatever it fails on, the tokenizer does not blame the settings. -/
def BlamesNoSettings (tokenizer : Tokenizer) : Prop :=
  ∀ text windows cause, tokenizer.decode text windows ≠ .error (.configuration cause)

/-- Each window of a text has its text, and there are as many texts as windows. -/
structure Restores (tokenizer : Tokenizer) : Prop where
  faithful : ∀ text windows texts, tokenizer.decode text windows = .ok texts →
    texts.length = windows.length
  restores : ∀ text (windows : List Window), ∃ texts, tokenizer.decode text
    (windows.map fun window => (window, window.slice (tokenizer.encode text))) = .ok texts

theorem blamesNoSettings_simple : simple.BlamesNoSettings := nofun

theorem restores_simple : simple.Restores where
  faithful := by
    rintro text windows _ ⟨⟩
    exact List.length_map _
  restores := fun _ _ => ⟨_, rfl⟩

variable {vocabulary : Vocabulary}

theorem blamesNoSettings_exact (vocabulary : Vocabulary) : (exact vocabulary).BlamesNoSettings := by
  intro text windows cause failed
  obtain ⟨-, entry, -, -, -, failed⟩ := mapM_error_iff.mp failed
  obtain ⟨stranger, -, -, other⟩ := Vocabulary.textOf_error failed
  cases other

theorem restores_exact (knowsOwn : vocabulary.KnowsOwn) : (exact vocabulary).Restores where
  faithful := fun _ _ _ done => (mapM_ok_iff.mp done).length_eq.symm
  restores := by
    intro text windows
    cases outcome : (exact vocabulary).decode text
        (windows.map fun window => (window, window.slice ((exact vocabulary).encode text))) with
    | ok texts => exact ⟨texts, rfl⟩
    | error failure =>
        obtain ⟨before, entry, after, split, -, failed⟩ := mapM_error_iff.mp outcome
        have given : entry ∈ before ++ entry :: after :=
          List.mem_append_right before List.mem_cons_self
        rw [← split] at given
        obtain ⟨window, -, rfl⟩ := List.mem_map.mp given
        obtain ⟨stranger, member, unknown, -⟩ := Vocabulary.textOf_error failed
        rw [knowsOwn text stranger (List.mem_of_mem_drop (List.mem_of_mem_take member))] at unknown
        cases unknown

/-! ## Tokenizers of a supply -/

variable {supply : Supply} {name : String} {tokenizer : Tokenizer}

theorem exists_suppliedOrSimple (loads : supply.Loads) (name : String) :
    ∃ tokenizer, suppliedOrSimple supply name = .ok tokenizer := by
  unfold suppliedOrSimple suppliedByName
  cases Kind.ofName name with
  | error failure => exact ⟨_, rfl⟩
  | ok kind =>
      cases supply with
      | absent => cases kind <;> exact ⟨_, rfl⟩
      | broken message => exact absurd rfl (loads message)
      | loaded vocabulary => cases kind <;> exact ⟨_, rfl⟩

theorem suppliedOrSimple_of_tiktoken (named : Kind.ofName name = .ok .tiktoken)
    (vocabulary : Vocabulary) :
    suppliedOrSimple (.loaded vocabulary) name = .ok (exact vocabulary) := by
  unfold suppliedOrSimple suppliedByName
  rw [named]
  rfl

/-- A name stands for the word tokenizer or for the exact one of the vocabulary. -/
theorem suppliedOrSimple_cases (found : suppliedOrSimple supply name = .ok tokenizer) :
    tokenizer = simple ∨
      ∃ vocabulary, supply = .loaded vocabulary ∧ tokenizer = exact vocabulary := by
  obtain ⟨choice, made, rfl⟩ := map_ok_iff.mp found
  unfold suppliedByName at made
  generalize Kind.ofName name = named at made
  cases named with
  | error failure =>
      cases made
      exact .inl rfl
  | ok kind =>
      cases kind with
      | simple => cases supply <;> cases made <;> exact .inl rfl
      | tiktoken =>
          cases supply with
          | absent =>
              cases made
              exact .inl rfl
          | broken message => cases made
          | loaded vocabulary =>
              cases made
              exact .inr ⟨vocabulary, rfl, rfl⟩

theorem blamesNoSettings_of_supplied (found : suppliedOrSimple supply name = .ok tokenizer) :
    tokenizer.BlamesNoSettings := by
  rcases suppliedOrSimple_cases found with rfl | ⟨vocabulary, -, rfl⟩
  · exact blamesNoSettings_simple
  · exact blamesNoSettings_exact vocabulary

theorem restores_of_supplied (sound : supply.Sound)
    (found : suppliedOrSimple supply name = .ok tokenizer) : tokenizer.Restores := by
  rcases suppliedOrSimple_cases found with rfl | ⟨vocabulary, loaded, rfl⟩
  · exact restores_simple
  · exact restores_exact (sound.knowsOwn vocabulary loaded)

end Tokenizer

end Retrieval
