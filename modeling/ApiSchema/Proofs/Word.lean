import ApiSchema.Word
import Mathlib

/-!
Numbers of sixty-four bits against numbers without bound. A result is given where the unbounded one
fits, and it is that one; the power by repeated squaring misses none, since no number that is met on
the way is greater than the power.
-/

set_option autoImplicit false

namespace ApiSchema.Word

variable {factor base result : UInt64} {exponent : Nat}

theorem exists_toNat_eq {number : Nat} (fits : number < UInt64.size) :
    ∃ word : UInt64, word.toNat = number :=
  ⟨.ofNat number, UInt64.toNat_ofNat_of_lt' fits⟩

theorem ofNat?_eq_some_iff {number : Nat} : ofNat? number = some result ↔ result.toNat = number := by
  unfold ofNat?
  split
  · rename_i fits
    rw [Option.some.injEq, ← UInt64.toNat_inj, UInt64.toNat_ofNat_of_lt' fits, eq_comm]
  · rename_i tooGreat
    have bounded := result.toNat_lt_size
    constructor
    · nofun
    · omega

theorem mul?_eq_some_iff {first second : UInt64} :
    mul? first second = some result ↔ result.toNat = first.toNat * second.toNat :=
  ofNat?_eq_some_iff

theorem mulOdd?_eq_some_iff :
    mulOdd? factor base exponent = some result ↔
      result.toNat = factor.toNat * base.toNat ^ (exponent % 2) := by
  unfold mulOdd?
  split
  · rename_i odd
    rw [odd, pow_one, mul?_eq_some_iff]
  · rename_i even
    have zero : exponent % 2 = 0 := by omega
    rw [zero, pow_zero, mul_one, Option.some.injEq, ← UInt64.toNat_inj, eq_comm]

/-- One squaring: what is left of the exponent is halved. -/
theorem mulPow?_step (several : 2 ≤ exponent) :
    mulPow? factor base exponent = some result ↔
      ∃ product square : UInt64,
        product.toNat = factor.toNat * base.toNat ^ (exponent % 2) ∧
          square.toNat = base.toNat * base.toNat ∧
          mulPow? product square (exponent / 2) = some result := by
  have filled : exponent ≠ 0 := by omega
  have more : exponent ≠ 1 := by omega
  rw [mulPow?, if_neg filled, if_neg more]
  simp only [bind, Option.bind_eq_some_iff, mulOdd?_eq_some_iff, mul?_eq_some_iff,
    exists_and_left]

theorem pow_halves (factor base exponent : Nat) :
    factor * base ^ (exponent % 2) * (base * base) ^ (exponent / 2) = factor * base ^ exponent := by
  rw [mul_assoc, ← pow_two, ← pow_mul, ← pow_add, Nat.mod_add_div]

/-- Neither number of the next step is greater than the power. -/
theorem step_le_pow {factor base exponent : Nat} (positive : 0 < factor) (positiveToo : 0 < base)
    (several : 2 ≤ exponent) :
    factor * base ^ (exponent % 2) ≤ factor * base ^ exponent ∧
      base * base ≤ factor * base ^ exponent := by
  constructor
  · exact Nat.mul_le_mul_left factor (Nat.pow_le_pow_right positiveToo (Nat.mod_le exponent 2))
  · calc
      base * base = base ^ 2 := (pow_two base).symm
      _ ≤ base ^ exponent := Nat.pow_le_pow_right positiveToo several
      _ ≤ factor * base ^ exponent := Nat.le_mul_of_pos_left _ positive

/-- Repeated squaring gives the power whenever the power fits. -/
theorem mulPow?_eq_some_iff (positive : 0 < factor.toNat) (positiveToo : 0 < base.toNat) :
    mulPow? factor base exponent = some result ↔
      result.toNat = factor.toNat * base.toNat ^ exponent := by
  induction exponent using Nat.strong_induction_on generalizing factor base with
  | _ exponent ih =>
      rcases Nat.lt_or_ge exponent 2 with few | several
      · interval_cases exponent
        · rw [mulPow?, if_pos rfl, pow_zero, mul_one, Option.some.injEq, ← UInt64.toNat_inj, eq_comm]
        · rw [mulPow?, if_neg one_ne_zero, if_pos rfl, pow_one, mul?_eq_some_iff]
      · have half : exponent / 2 < exponent := by omega
        have step {product square : UInt64}
            (multiplied : product.toNat = factor.toNat * base.toNat ^ (exponent % 2))
            (squared : square.toNat = base.toNat * base.toNat) :
            mulPow? product square (exponent / 2) = some result ↔
              result.toNat = factor.toNat * base.toNat ^ exponent := by
          rw [ih _ half (multiplied ▸ by positivity) (squared ▸ by positivity), multiplied, squared,
            pow_halves]
        rw [mulPow?_step several]
        constructor
        · rintro ⟨product, square, multiplied, squared, left⟩
          exact (step multiplied squared).mp left
        · intro fits
          have bounded := result.toNat_lt_size
          have ⟨less, lessToo⟩ := step_le_pow positive positiveToo several
          obtain ⟨product, multiplied⟩ := exists_toNat_eq (less.trans_lt (fits ▸ bounded))
          obtain ⟨square, squared⟩ := exists_toNat_eq (lessToo.trans_lt (fits ▸ bounded))
          exact ⟨product, square, multiplied, squared, (step multiplied squared).mpr fits⟩

/-- The power in sixty-four bits, where it fits. -/
theorem pow?_eq_some_iff {exponent : UInt32} (positive : 0 < base.toNat) :
    pow? base exponent = some result ↔ result.toNat = base.toNat ^ exponent.toNat := by
  rw [pow?, mulPow?_eq_some_iff one_pos positive, UInt64.toNat_one, one_mul]

theorem toNat_boundedPow {exponent : UInt32} (positive : 0 < base.toNat) :
    (boundedPow base exponent).toNat = min (base.toNat ^ exponent.toNat) (2 ^ 64 - 1) := by
  unfold boundedPow
  cases power : pow? base exponent with
  | some result =>
      have bounded := result.toNat_lt
      rw [pow?_eq_some_iff positive] at power
      rw [Option.getD_some]
      omega
  | none =>
      have tooGreat : 2 ^ 64 ≤ base.toNat ^ exponent.toNat := by
        by_contra less
        obtain ⟨result, fits⟩ := exists_toNat_eq (not_le.mp less)
        rw [← pow?_eq_some_iff positive, power] at fits
        cases fits
      have greatest : (0xFFFFFFFFFFFFFFFF : UInt64).toNat = 2 ^ 64 - 1 := rfl
      rw [Option.getD_none, greatest]
      omega

theorem toNat_wrappedPow {exponent : UInt32} (fits : base.toNat ^ exponent.toNat < 2 ^ 64) :
    (wrappedPow base exponent).toNat = base.toNat ^ exponent.toNat :=
  UInt64.toNat_ofNat_of_lt' fits

theorem toNat_boundedSub (first second : UInt64) :
    (boundedSub first second).toNat = first.toNat - second.toNat := by
  unfold boundedSub
  split
  · rename_i smaller
    exact UInt64.toNat_sub_of_le _ _ smaller
  · rename_i greater
    rw [UInt64.le_iff_toNat_le] at greater
    rw [UInt64.toNat_zero]
    omega

theorem toNat_boundedHalf (number : UInt64) :
    (boundedHalf number).toNat = min number.toNat (2 ^ 32 - 1) := by
  have greatest : (0xFFFFFFFF : UInt64).toNat = 2 ^ 32 - 1 := rfl
  unfold boundedHalf
  split
  · rename_i fits
    rw [UInt64.le_iff_toNat_le, greatest] at fits
    rw [UInt64.toNat_toUInt32]
    omega
  · rename_i tooGreat
    have greatestHalf : (0xFFFFFFFF : UInt32).toNat = 2 ^ 32 - 1 := rfl
    rw [UInt64.le_iff_toNat_le, greatest] at tooGreat
    rw [greatestHalf]
    omega

end ApiSchema.Word
