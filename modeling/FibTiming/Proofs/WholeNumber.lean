import FibTiming.Number.Extended
import Mathlib.Algebra.Order.Field.Rat
import Mathlib.Tactic.Positivity
import Mathlib.Tactic.Ring

/-!
# Whole numbers among binary values

A binary value is a rational number (`Binary.value`).  The mantissa of a value other than zero is odd, so the value is
a whole number exactly when its exponent is not negative; `toIntBetween?` finds whole numbers between bounds and
rounds nothing (`Extended.toIntBetween?_eq_some_iff`).
-/

namespace FibTiming.Number

theorem bitLength_le_iff (n k : Nat) : bitLength n ≤ k ↔ n < 2 ^ k := by
  unfold bitLength
  by_cases h : n = 0
  · simp [h]
  · rw [if_neg h, Nat.add_one_le_iff, Nat.log2_lt h]

/-- A product with a power of two has at least as many bits as its factors together. -/
theorem bitLength_add_le {m e k : Nat} (hm : m ≠ 0) (h : m * 2 ^ e < 2 ^ k) : bitLength m + e ≤ k := by
  have hek : e ≤ k := by
    by_contra hn
    have h1 : 2 ^ k ≤ 2 ^ e := Nat.pow_le_pow_right (by omega) (by omega)
    have h2 : 2 ^ e ≤ m * 2 ^ e := Nat.le_mul_of_pos_left _ (by omega)
    omega
  have hpow : 2 ^ k = 2 ^ (k - e) * 2 ^ e := by rw [← Nat.pow_add, Nat.sub_add_cancel hek]
  have hlt : m < 2 ^ (k - e) := by
    rw [hpow] at h
    exact Nat.lt_of_mul_lt_mul_right h
  have := (bitLength_le_iff m (k - e)).2 hlt
  omega

namespace Binary

/-- The number that a binary value is. -/
def value (x : Binary) : ℚ := x.signedMantissa * 2 ^ x.exponent

theorem natAbs_signedMantissa (x : Binary) : x.signedMantissa.natAbs = x.mantissa := by
  unfold signedMantissa
  split <;> simp

/-- Without a fraction, nothing is lost when a value is rounded towards zero. -/
theorem truncate_of_nonneg {x : Binary} (h : 0 ≤ x.exponent) :
    x.truncate = x.signedMantissa * 2 ^ x.exponent.toNat := by
  simp only [truncate, ratio, signedMantissa, h, ↓reduceIte, Nat.div_one, Nat.shiftLeft_eq]
  split <;> push_cast <;> ring

private theorem value_of_nonneg {x : Binary} (h : 0 ≤ x.exponent) : x.value = x.truncate := by
  rw [truncate_of_nonneg h, value]
  push_cast
  rw [← zpow_natCast, Int.toNat_of_nonneg h]

/-- An odd mantissa with a negative exponent is a fraction. -/
theorem value_ne_of_neg {x : Binary} (hm : x.mantissa ≠ 0) (h : x.exponent < 0) (i : Int) : x.value ≠ i := by
  intro hv
  have hodd : x.mantissa % 2 = 1 := x.odd.resolve_left hm
  obtain ⟨k, hk⟩ : ∃ k : Nat, x.exponent = -(k + 1 : Nat) := ⟨(-x.exponent).toNat - 1, by omega⟩
  have heq : x.signedMantissa = i * 2 ^ (k + 1) := by
    have : (x.signedMantissa : ℚ) = i * 2 ^ (k + 1) := by
      have hne : (2 : ℚ) ^ (k + 1) ≠ 0 := by positivity
      rw [← hv, value, hk, zpow_neg, zpow_natCast, inv_mul_cancel_right₀ hne]
    exact_mod_cast this
  have habs := x.natAbs_signedMantissa
  rw [heq, Int.natAbs_mul, Int.natAbs_pow, Nat.pow_succ] at habs
  have h2 : (2 : Int).natAbs = 2 := rfl
  rw [h2, ← Nat.mul_assoc] at habs
  -- The mantissa would be even.
  omega

theorem value_of_mantissa_eq_zero {x : Binary} (h : x.mantissa = 0) : x.value = 0 := by
  have hs : x.signedMantissa = 0 := by
    rw [← Int.natAbs_eq_zero, natAbs_signedMantissa, h]
  rw [value, hs]
  simp

end Binary

namespace Extended

/-- The number that a value is, if it is finite. -/
def value? : Extended → Option ℚ
  | finite x => some x.value
  | infinite _ _ => none

/-- The value is the given whole number. -/
def IsWhole (x : Extended) (i : Int) : Prop := x.value? = some (i : ℚ)

theorem isWhole_finite_of_eq_zero {x : Binary} (h : x.mantissa = 0) (i : Int) : (finite x).IsWhole i ↔ i = 0 := by
  simp [IsWhole, value?, Binary.value_of_mantissa_eq_zero h, eq_comm]

theorem isWhole_finite_of_ne_zero {x : Binary} (h : x.mantissa ≠ 0) (i : Int) :
    (finite x).IsWhole i ↔ 0 ≤ x.exponent ∧ x.truncate = i := by
  simp only [IsWhole, value?, Option.some.injEq]
  by_cases he : 0 ≤ x.exponent
  · rw [Binary.value_of_nonneg he]
    simp [he]
  · have := Binary.value_ne_of_neg h (by omega) i
    simp [he, this]

theorem isInt_iff (x : Extended) : x.isInt = true ↔ ∃ i, x.IsWhole i := by
  cases x with
  | infinite p s => simp [isInt, IsWhole, value?]
  | finite x =>
    by_cases hm : x.mantissa = 0
    · simp [isInt, isWhole_finite_of_eq_zero hm, hm]
    · simp [isInt, Binary.isInt, isWhole_finite_of_ne_zero hm, hm]

/-- A whole number between bounds has no more bits than the bounds. -/
private theorem bitLength_of_between {x : Binary} (hm : x.mantissa ≠ 0) (he : 0 ≤ x.exponent) {lo hi : Int}
    (hlo : lo ≤ x.truncate) (hhi : x.truncate ≤ hi) :
    bitLength x.mantissa + x.exponent.toNat ≤ max (bitLength lo.natAbs) (bitLength hi.natAbs) := by
  have habs : x.truncate.natAbs = x.mantissa * 2 ^ x.exponent.toNat := by
    rw [Binary.truncate_of_nonneg he, Int.natAbs_mul, Int.natAbs_pow, Binary.natAbs_signedMantissa]
    rfl
  have hle : x.truncate.natAbs ≤ lo.natAbs ∨ x.truncate.natAbs ≤ hi.natAbs := by omega
  rw [habs] at hle
  rcases hle with hle | hle
  · have := bitLength_add_le hm (hle.trans_lt (lt_two_pow_bitLength lo.natAbs))
    omega
  · have := bitLength_add_le hm (hle.trans_lt (lt_two_pow_bitLength hi.natAbs))
    omega

/-- Whole numbers between bounds are found, and nothing else. -/
theorem toIntBetween?_eq_some_iff (lo hi : Int) (x : Extended) (i : Int) :
    x.toIntBetween? lo hi = some i ↔ x.IsWhole i ∧ lo ≤ i ∧ i ≤ hi := by
  cases x with
  | infinite p s => simp [toIntBetween?, IsWhole, value?]
  | finite x =>
    unfold toIntBetween?
    by_cases hm : x.mantissa = 0
    · rw [isWhole_finite_of_eq_zero hm]
      simp only [hm, ↓reduceIte, Option.ite_none_right_eq_some, Option.some.injEq]
      constructor
      · rintro ⟨hb, rfl⟩
        exact ⟨rfl, hb⟩
      · rintro ⟨rfl, hb⟩
        exact ⟨hb, rfl⟩
    · rw [isWhole_finite_of_ne_zero hm]
      by_cases he : 0 ≤ x.exponent
      · simp only [hm, ↓reduceIte, Binary.isInt, he, decide_true, Bool.not_true, Bool.false_eq_true, true_and]
        -- The guard on the bits only spares the computation of numbers that are out of bounds.
        split
        · rename_i hbits
          simp only [reduceCtorEq, false_iff]
          rintro ⟨rfl, hlo, hhi⟩
          have := bitLength_of_between hm he hlo hhi
          omega
        · simp only [Option.ite_none_right_eq_some, Option.some.injEq]
          constructor
          · rintro ⟨hb, rfl⟩
            exact ⟨rfl, hb⟩
          · rintro ⟨rfl, hb⟩
            exact ⟨hb, rfl⟩
      · simp [hm, Binary.isInt, he]

end Extended

end FibTiming.Number
