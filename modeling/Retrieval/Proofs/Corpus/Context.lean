import Mathlib.Algebra.GroupWithZero.Nat
import Retrieval.Corpus.Answer

/-!
# Contexts within a budget

The context of some chunks joins the contents of the longest run of them, from
the first one on, that the budget pays for (`affordable`).  Contents may be
empty and may end in a separator themselves: the separator that is taken off at
the end is always the one that was put behind the last content.
-/

namespace Retrieval

namespace Corpus

def tokensOf (chunks : List Chunk) : Nat := (chunks.map Chunk.tokens).sum

/-- The chunks up to the first that goes over a budget. -/
def affordable (budget : Nat) : List Chunk → List Chunk
  | [] => []
  | chunk :: rest =>
      if chunk.tokens ≤ budget then chunk :: affordable (budget - chunk.tokens) rest else []

/-- Some chunks are the longest prefix of others that a budget pays for. -/
structure LongestWithin (budget : Nat) (chunks taken : List Chunk) : Prop where
  begins : taken <+: chunks
  paid : tokensOf taken ≤ budget
  longest : ∀ other, other <+: chunks → tokensOf other ≤ budget → other <+: taken

theorem tokensOf_cons (chunk : Chunk) (rest : List Chunk) :
    tokensOf (chunk :: rest) = chunk.tokens + tokensOf rest := by
  rw [tokensOf, List.map_cons, List.sum_cons]
  rfl

theorem longestWithin_affordable (budget : Nat) (chunks : List Chunk) :
    LongestWithin budget chunks (affordable budget chunks) := by
  induction chunks generalizing budget with
  | nil =>
      refine ⟨List.prefix_rfl, Nat.zero_le budget, ?_⟩
      intro other begins _
      exact begins
  | cons chunk rest ih =>
      rw [affordable]
      split
      · next pays =>
        obtain ⟨begins, paid, longest⟩ := ih (budget - chunk.tokens)
        refine ⟨(List.prefix_cons_inj chunk).mpr begins, ?_, ?_⟩
        · rw [tokensOf_cons]
          omega
        · intro other otherBegins otherPaid
          cases other with
          | nil => exact List.nil_prefix
          | cons head tail =>
              obtain ⟨rfl, tailBegins⟩ := List.cons_prefix_cons.mp otherBegins
              rw [tokensOf_cons] at otherPaid
              have tailPaid : tokensOf tail ≤ budget - head.tokens := by omega
              exact (List.prefix_cons_inj head).mpr (longest tail tailBegins tailPaid)
      · next exceeds =>
        refine ⟨List.nil_prefix, Nat.zero_le budget, ?_⟩
        intro other otherBegins otherPaid
        cases other with
        | nil => exact List.prefix_rfl
        | cons head tail =>
            obtain ⟨rfl, -⟩ := List.cons_prefix_cons.mp otherBegins
            rw [tokensOf_cons] at otherPaid
            omega

/-! ## Contents and separators -/

def separated (contents : List String) : String :=
  String.join (contents.map (· ++ Prompt.chunkSeparator))

theorem gather_eq {budget spent : Nat} (within : spent ≤ budget) (context : String)
    (chunks : List Chunk) :
    gather budget spent context chunks =
      context ++ separated ((affordable (budget - spent) chunks).map Chunk.content) := by
  induction chunks generalizing spent context with
  | nil => simp [gather, affordable, separated]
  | cons chunk rest ih =>
      rw [gather, affordable]
      by_cases pays : chunk.tokens ≤ budget - spent
      · have total : spent + chunk.tokens ≤ budget := by omega
        have left : budget - (spent + chunk.tokens) = budget - spent - chunk.tokens := by omega
        rw [if_pos pays, if_neg (Nat.not_lt_of_le total), ih total, left]
        simp [separated, String.append_assoc]
      · have exceeds : budget < spent + chunk.tokens := by omega
        rw [if_neg pays, if_pos exceeds]
        simp [separated]

theorem separated_eq {contents : List String} (given : contents ≠ []) :
    separated contents =
      Prompt.chunkSeparator.intercalate contents ++ Prompt.chunkSeparator := by
  induction contents with
  | nil => exact absurd rfl given
  | cons content rest ih =>
      cases rest with
      | nil => simp [separated]
      | cons next others =>
          have unfolded : separated (content :: next :: others) =
              content ++ Prompt.chunkSeparator ++ separated (next :: others) := by
            simp [separated]
          rw [unfolded, ih (List.cons_ne_nil next others), String.intercalate_cons_cons]
          simp only [String.append_assoc]

theorem withoutSeparator_append (context : String) :
    withoutSeparator (context ++ Prompt.chunkSeparator) = context := by
  have ends : Prompt.chunkSeparator.toList.isSuffixOf
      (context ++ Prompt.chunkSeparator).toList = true := by
    rw [List.isSuffixOf_iff_suffix, String.toList_append]
    exact List.suffix_append _ _
  unfold withoutSeparator
  dsimp only
  rw [if_pos ends, String.toList_append, List.length_append, Nat.add_sub_cancel,
    List.take_left, String.ofList_toList]

theorem withoutSeparator_empty : withoutSeparator "" = "" := by
  decide

/-- The context joins the contents of the longest prefix that the budget pays for. -/
theorem assembleContext_eq (budget : Nat) (chunks : List Chunk) :
    assembleContext budget chunks =
      Prompt.chunkSeparator.intercalate ((affordable budget chunks).map Chunk.content) := by
  rw [assembleContext, gather_eq (Nat.zero_le budget), Nat.sub_zero, String.empty_append]
  by_cases none : (affordable budget chunks).map Chunk.content = []
  · rw [none]
    exact withoutSeparator_empty
  · rw [separated_eq none, withoutSeparator_append]

end Corpus

end Retrieval
