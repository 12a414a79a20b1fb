import Retrieval.Json.Record
import Retrieval.Proofs.Json.Text
import Retrieval.Proofs.Number.Shortest

/-!
# Numbers in JSON

A natural number has a numeral that is written without zeros in front, and that
stands for the number again while it fits sixty-four bits.  Every finite number
of single or double precision has a numeral that can be written.
-/

namespace Retrieval

theorem Digits.number_toDigits (number : Nat) :
    Digits.number (Nat.toDigits 10 number) = number := by
  have read := Nat.ofDigitChars_ten_toDigits (n := number)
  rwa [Nat.ofDigitChars_eq_foldl] at read

theorem Digits.natural?_toString (number : Nat) : natural? (toString number) = some number := by
  have written : (toString number).toList = Nat.toDigits 10 number := Nat.toList_repr
  have digits : ∀ digit ∈ Nat.toDigits 10 number, digit.isDigit = true := fun _ =>
    Nat.isDigit_of_mem_toDigits (by decide) (by decide)
  have all : (Nat.toDigits 10 number).all Char.isDigit = true := List.all_eq_true.mpr digits
  have filled : (Nat.toDigits 10 number).isEmpty = false :=
    List.isEmpty_eq_false_iff.mpr Nat.toDigits_ne_nil
  have unsigned : (Nat.toDigits 10 number).head? ≠ some '+' := by
    intro plus
    cases digits '+' (List.mem_of_mem_head? plus)
  unfold natural?
  dsimp only
  rw [written, if_neg unsigned, all, filled, number_toDigits]
  rfl

theorem Digits.toString_injective : Function.Injective (toString : Nat → String) := by
  intro first second same
  have read := natural?_toString second
  rw [← same, natural?_toString] at read
  exact Option.some.inj read

namespace Numeral

theorem digitChar_ne_zero : ∀ digit < 10, 0 < digit → Nat.digitChar digit ≠ '0' := by
  decide

theorem head?_toDigits_ne {number : Nat} (positive : 0 < number) :
    (Nat.toDigits 10 number).head? ≠ some '0' := by
  induction number using Nat.strongRecOn with
  | ind number ih =>
      by_cases small : number < 10
      · rw [Nat.toDigits_of_lt_base small]
        intro same
        exact digitChar_ne_zero number small positive (Option.some.inj same)
      · have large : 10 ≤ number := Nat.le_of_not_lt small
        have front : 0 < number / 10 := Nat.div_pos large (by decide)
        rw [Nat.toDigits_of_base_le (by decide) large,
          List.head?_append]
        have before := ih (number / 10) (Nat.div_lt_self positive (by decide)) front
        cases digits : Nat.toDigits 10 (number / 10) with
        | nil => exact absurd digits Nat.toDigits_ne_nil
        | cons digit others =>
            rw [digits] at before
            exact before

theorem run_toDigits (number : Nat) : Digits.Run (Nat.toDigits 10 number) :=
  ⟨Nat.toDigits_ne_nil, fun _ => Nat.isDigit_of_mem_toDigits (by decide) (by decide)⟩

theorem wellFormed_ofNat (number : Nat) : (ofNat number).WellFormed where
  whole := run_toDigits number
  unpadded := by
    rintro ⟨zero, long⟩
    by_cases positive : 0 < number
    · exact head?_toDigits_ne positive zero
    · obtain rfl : number = 0 := Nat.eq_zero_of_not_pos positive
      exact absurd long (by decide)
  fraction := by
    intro digits same
    cases same
  exponent := by
    intro lowers digits same
    cases same

theorem value?_ofNat {number : Nat} (fits : number ≤ largest) :
    (ofNat number).value? = some (.natural number) := by
  simp only [value?, ofNat, Digits.number_toDigits, if_neg (Nat.not_lt_of_le fits), Bool.not_false,
    if_true]

/-! ## Decimals -/

theorem run_zero : Digits.Run ['0'] where
  filled := List.cons_ne_nil _ _
  all := by
    intro digit member
    rw [List.mem_singleton.mp member]
    rfl

theorem wellFormed_of_zero {negative : Bool} {behind : List Char} (run : Digits.Run behind) :
    (Numeral.mk negative ['0'] (some behind) none).WellFormed where
  whole := run_zero
  unpadded := fun padded => absurd padded.2 (Nat.lt_irrefl 1)
  fraction := by
    intro digits same
    cases same
    exact run
  exponent := fun _ _ none => nomatch none

theorem isDigit_of_mem_zeros {count : Nat} {digit : Char}
    (member : digit ∈ List.replicate count '0') : digit.isDigit = true := by
  rw [List.eq_of_mem_replicate member]
  rfl

theorem wellFormed_of_head? {negative : Bool} {whole : List Char} {fraction : Option (List Char)}
    {exponent : Option (Bool × List Char)} (run : Digits.Run whole)
    (front : whole.head? ≠ some '0')
    (decimals : ∀ digits, fraction = some digits → Digits.Run digits)
    (power : ∀ lowers digits, exponent = some (lowers, digits) → Digits.Run digits) :
    (Numeral.mk negative whole fraction exponent).WellFormed :=
  ⟨run, fun padded => front padded.1, decimals, power⟩

theorem wellFormed_ofDecimal (style : Style) (negative : Bool) {decimal : Decimal}
    (filled : decimal.digits ≠ 0) : (ofDecimal style negative decimal).WellFormed := by
  have run := run_toDigits decimal.digits
  have front := head?_toDigits_ne (Nat.pos_of_ne_zero filled)
  unfold ofDecimal
  dsimp only
  generalize Nat.toDigits 10 decimal.digits = digits at run front
  obtain ⟨first, rest, rfl⟩ := List.exists_cons_of_ne_nil run.filled
  have digit := run.all first List.mem_cons_self
  have others : ∀ other ∈ rest, other.isDigit = true := fun other member =>
    run.all other (List.mem_cons_of_mem first member)
  split
  · refine wellFormed_of_head? ⟨List.cons_ne_nil _ _, ?_⟩ front ?_ (fun _ _ none => nomatch none)
    · intro other member
      rcases List.mem_append.mp member with inside | zero
      · exact run.all other inside
      · exact isDigit_of_mem_zeros zero
    · intro zero same
      cases same
      exact run_zero
  · split
    · next large within =>
      obtain ⟨place, inFront⟩ : ∃ place : Nat, ((first :: rest).length + decimal.exponent).toNat =
          place + 1 := ⟨_, (Nat.succ_pred_eq_of_pos (by omega)).symm⟩
      have short : place + 1 < (first :: rest).length := by omega
      rw [inFront]
      refine wellFormed_of_head? ⟨List.cons_ne_nil _ _, ?_⟩ front ?_
        (fun _ _ none => nomatch none)
      · exact fun other member => run.all other (List.mem_of_mem_take member)
      · intro behind same
        cases same
        refine ⟨?_, fun other member => run.all other (List.mem_of_mem_drop member)⟩
        exact List.ne_nil_of_length_pos (by rw [List.length_drop]; omega)
    · split
      · refine wellFormed_of_zero ⟨List.append_ne_nil_of_right_ne_nil _ run.filled, ?_⟩
        intro other member
        rcases List.mem_append.mp member with zero | inside
        · exact isDigit_of_mem_zeros zero
        · exact run.all other inside
      · refine wellFormed_of_head? ⟨List.cons_ne_nil _ _, ?_⟩ front ?_ ?_
        · intro other member
          rw [List.mem_singleton.mp member]
          exact digit
        · intro behind same
          split at same
          · cases same
          · next several =>
            cases same
            refine ⟨?_, others⟩
            rintro rfl
            exact several rfl
        · intro lowers power same
          cases same
          exact run_toDigits _

theorem wellFormed_ofParts? {style : Style} {exponentWidth mantissaWidth bits : Nat}
    (narrow : mantissaWidth < 53) {numeral : Numeral}
    (finite : ofParts? style (.ofBits exponentWidth mantissaWidth bits) = some numeral) :
    numeral.WellFormed := by
  cases taken : Parts.ofBits exponentWidth mantissaWidth bits with
  | notANumber =>
      rw [taken] at finite
      cases finite
  | infinite negative =>
      rw [taken] at finite
      cases finite
  | zero negative =>
      rw [taken] at finite
      cases finite
      exact wellFormed_of_zero run_zero
  | finite negative magnitude =>
      rw [taken] at finite
      cases finite
      obtain ⟨positive, small⟩ := Parts.mantissa_of_finite taken
      have bits : magnitude.mantissa < 2 ^ 53 :=
        Nat.lt_of_lt_of_le small (Nat.pow_le_pow_right (by decide) narrow)
      exact wellFormed_ofDecimal style negative
        (Binary.digits_shortest_ne_zero .toEven positive bits)

end Numeral

namespace Json

theorem readable_ofNat (number : Nat) : Readable (ofNat number) :=
  .number (Numeral.wellFormed_ofNat number)

theorem natural?_ofNat {limit number : Nat} (fits : number ≤ Numeral.largest)
    (within : number ≤ limit) : natural? limit (ofNat number) = some number := by
  simp only [natural?, number?, ofNat, Numeral.value?_ofNat fits, if_pos within]

theorem natural64?_ofNat {number : Nat} (fits : number < UInt64.size) :
    natural64? (ofNat number) = some number :=
  natural?_ofNat (Nat.le_pred_of_lt fits) (Nat.le_pred_of_lt fits)

theorem natural32?_ofNat {number : Nat} (fits : number < UInt32.size) :
    natural32? (ofNat number) = some number := by
  have wide : number < UInt64.size := Nat.lt_trans fits (by decide)
  exact natural?_ofNat (Nat.le_pred_of_lt wide) (Nat.le_pred_of_lt fits)

theorem readable_ofSingle (value : Float32) : Readable (ofSingle value) := by
  unfold ofSingle ofParts
  split
  · next numeral finite => exact .number (Numeral.wellFormed_ofParts? (by decide) finite)
  · exact .null

theorem readable_ofDouble (value : Float) : Readable (ofDouble value) := by
  unfold ofDouble ofParts
  split
  · next numeral finite => exact .number (Numeral.wellFormed_ofParts? (by decide) finite)
  · exact .null

end Json

end Retrieval
