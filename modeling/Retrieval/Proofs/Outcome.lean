import Mathlib.Data.List.Forall2

/-!
# Outcomes of steps

When steps that may fail succeed, one after the other, and which of them gives the
failure.
-/

namespace Retrieval

section Bound

variable {α β ε : Type} {outcome : Except ε α} {next : α → Except ε β}

theorem bind_ok_iff {result : β} :
    (outcome >>= next) = .ok result ↔ ∃ value, outcome = .ok value ∧ next value = .ok result := by
  cases outcome with
  | error failure =>
      constructor
      · intro done
        cases done
      · rintro ⟨value, done, -⟩
        cases done
  | ok value =>
      constructor
      · exact fun done => ⟨value, rfl, done⟩
      · rintro ⟨_, ⟨⟩, done⟩
        exact done

theorem bind_error_iff {failure : ε} :
    (outcome >>= next) = .error failure ↔
      outcome = .error failure ∨ ∃ value, outcome = .ok value ∧ next value = .error failure := by
  cases outcome with
  | error other =>
      constructor
      · intro failed
        cases failed
        exact .inl rfl
      · rintro (failed | ⟨value, done, -⟩)
        · rw [Except.error.inj failed]
          rfl
        · cases done
  | ok value =>
      constructor
      · exact fun failed => .inr ⟨value, rfl, failed⟩
      · rintro (failed | ⟨_, ⟨⟩, failed⟩)
        · cases failed
        · exact failed

end Bound

section Renamed

variable {α ε δ : Type} {change : ε → δ} {outcome : Except ε α}

theorem mapError_ok_iff {value : α} :
    outcome.mapError change = .ok value ↔ outcome = .ok value := by
  cases outcome with
  | error failure => exact ⟨(nomatch ·), (nomatch ·)⟩
  | ok other =>
      constructor
      · exact fun done => congrArg Except.ok (Except.ok.inj done)
      · exact fun done => congrArg Except.ok (Except.ok.inj done)

theorem mapError_error_iff {failure : δ} :
    outcome.mapError change = .error failure ↔
      ∃ cause, outcome = .error cause ∧ change cause = failure := by
  cases outcome with
  | error cause =>
      constructor
      · exact fun failed => ⟨cause, rfl, Except.error.inj failed⟩
      · rintro ⟨_, ⟨⟩, rfl⟩
        rfl
  | ok value =>
      constructor
      · intro failed
        cases failed
      · rintro ⟨cause, failed, -⟩
        cases failed

end Renamed

section Mapped

variable {α β ε : Type} {change : α → β} {outcome : Except ε α}

theorem map_error_iff {failure : ε} :
    outcome.map change = .error failure ↔ outcome = .error failure := by
  cases outcome with
  | error other =>
      constructor
      · intro failed
        cases failed
        rfl
      · intro failed
        cases failed
        rfl
  | ok value => exact ⟨(nomatch ·), (nomatch ·)⟩

theorem map_ok_iff {result : β} :
    outcome.map change = .ok result ↔ ∃ value, outcome = .ok value ∧ change value = result := by
  cases outcome with
  | error failure =>
      constructor
      · intro done
        cases done
      · rintro ⟨value, done, -⟩
        cases done
  | ok value =>
      constructor
      · intro done
        exact ⟨value, rfl, Except.ok.inj done⟩
      · rintro ⟨_, ⟨⟩, rfl⟩
        rfl

end Mapped

section Sequence

variable {α β ε : Type} {step : α → Except ε β}

theorem mapM_ok_iff {items : List α} {results : List β} :
    items.mapM step = .ok results ↔
      List.Forall₂ (fun item result => step item = .ok result) items results := by
  induction items generalizing results with
  | nil =>
      rw [List.forall₂_nil_left_iff]
      exact ⟨fun done => (Except.ok.inj done).symm, fun none => none ▸ rfl⟩
  | cons first rest ih =>
      rw [List.mapM_cons, List.forall₂_cons_left_iff]
      constructor
      · intro done
        cases head : step first with
        | error failure =>
            rw [head] at done
            cases done
        | ok result =>
            cases tail : rest.mapM step with
            | error failure =>
                rw [head, tail] at done
                cases done
            | ok others =>
                rw [head, tail] at done
                cases done
                exact ⟨result, others, rfl, ih.mp tail, rfl⟩
      · rintro ⟨result, others, head, tail, rfl⟩
        rw [head, ih.mpr tail]
        rfl

theorem mem_mapM_ok {items : List α} {results : List β}
    (done : items.mapM step = .ok results) :
    (∀ item ∈ items, ∃ result ∈ results, step item = .ok result) ∧
      ∀ result ∈ results, ∃ item ∈ items, step item = .ok result := by
  induction mapM_ok_iff.mp done with
  | nil =>
      exact ⟨fun _ absent => absurd absent List.not_mem_nil,
        fun _ absent => absurd absent List.not_mem_nil⟩
  | @cons first result rest others head tail ih =>
      obtain ⟨forward, backward⟩ := ih (mapM_ok_iff.mpr tail)
      refine ⟨List.forall_mem_cons.mpr ⟨⟨result, List.mem_cons_self, head⟩, ?_⟩,
        List.forall_mem_cons.mpr ⟨⟨first, List.mem_cons_self, head⟩, ?_⟩⟩
      · intro item member
        obtain ⟨found, inside, same⟩ := forward item member
        exact ⟨found, List.mem_cons_of_mem _ inside, same⟩
      · intro found member
        obtain ⟨item, inside, same⟩ := backward found member
        exact ⟨item, List.mem_cons_of_mem _ inside, same⟩

/-- A sequence fails as the first of its steps that fails. -/
theorem mapM_error_iff {items : List α} {failure : ε} :
    items.mapM step = .error failure ↔
      ∃ before item after, items = before ++ item :: after ∧
        (∀ earlier ∈ before, ∃ result, step earlier = .ok result) ∧ step item = .error failure := by
  induction items with
  | nil =>
      constructor
      · intro failed
        cases failed
      · rintro ⟨before, item, after, split, -⟩
        cases before <;> cases split
  | cons first rest ih =>
      rw [List.mapM_cons]
      constructor
      · intro failed
        cases head : step first with
        | error other =>
            rw [head] at failed
            cases failed
            exact ⟨[], first, rest, rfl, fun _ absent => absurd absent List.not_mem_nil, head⟩
        | ok result =>
            have fails : rest.mapM step = .error failure := by
              cases tail : rest.mapM step with
              | error other =>
                  rw [head, tail] at failed
                  cases failed
                  rfl
              | ok others =>
                  rw [head, tail] at failed
                  cases failed
            obtain ⟨before, item, after, split, done, here⟩ := ih.mp fails
            exact ⟨first :: before, item, after, congrArg _ split,
              List.forall_mem_cons.mpr ⟨⟨result, head⟩, done⟩, here⟩
      · rintro ⟨before, item, after, split, done, here⟩
        cases before with
        | nil =>
            cases split
            rw [here]
            rfl
        | cons other before =>
            cases split
            obtain ⟨⟨result, head⟩, others⟩ := List.forall_mem_cons.mp done
            rw [head, ih.mpr ⟨before, item, after, rfl, others, here⟩]
            rfl

end Sequence

end Retrieval
