import FibTiming.Number.Binary64
import FibTiming.Proofs.DecimalNumerals
import Mathlib.Algebra.Order.Field.Power
import Mathlib.Data.Nat.Cast.Order.Field
import Mathlib.Tactic.GCongr
import Mathlib.Tactic.Linarith

/-!
# Rounding errors

A quotient is rounded to an integer with an error of at most one half (`abs_roundDiv_sub_le`).  To round to a precision
is to scale the quotient until it has this number of bits and then to round it to an integer, so a result below `2 ^ m`
is off by at most `2 ^ (m - precision - 1)` (`Binary.abs_value_ofScaledRatio_sub_le`).  The same holds of quotients and
sums of binary values, and whole numbers within the precision are exact (`value_double`).
-/

namespace FibTiming.Number

/-- A quotient goes down when its remainder is at most one half of the divisor, and up when it is at least this. -/
private theorem roundDiv_mul (n d : Nat) :
    roundDiv n d * d = n - n % d ∧ 2 * (n % d) ≤ d ∨ roundDiv n d * d = n - n % d + d ∧ d ≤ 2 * (n % d) := by
  have hdown : n / d * d = n - n % d := by
    have := Nat.div_add_mod' n d
    omega
  have hup : (n / d + 1) * d = n - n % d + d := by rw [Nat.add_one_mul, hdown]
  unfold roundDiv
  dsimp only
  split_ifs with hless hmore
  · exact .inl ⟨hdown, by omega⟩
  · exact .inr ⟨hup, by omega⟩
  · rcases Nat.mod_two_eq_zero_or_one (n / d) with heven | hodd
    · rw [heven]
      exact .inl ⟨hdown, by omega⟩
    · rw [hodd]
      exact .inr ⟨hup, by omega⟩

/-- The integer next to a quotient is at most one half away from it. -/
theorem abs_roundDiv_sub_le (n : Nat) {d : Nat} (hd : d ≠ 0) : |(roundDiv n d : ℚ) - n / d| ≤ 1 / 2 := by
  have hdist : |((roundDiv n d * d : Nat) : Int) - n| * 2 ≤ d := by
    have hmod : n % d ≤ n := Nat.mod_le n d
    have hlt : n % d < d := Nat.mod_lt n (by omega)
    rw [abs_eq_max_neg]
    rcases roundDiv_mul n d with ⟨hround, hrest⟩ | ⟨hround, hrest⟩
    · omega
    · omega
  have hpos : (0 : ℚ) < d := by exact_mod_cast Nat.pos_of_ne_zero hd
  have hquot : (roundDiv n d : ℚ) - n / d = (roundDiv n d * d - n) / d := by
    rw [sub_div, mul_div_cancel_right₀ _ hpos.ne']
  have hcast : |(roundDiv n d : ℚ) * d - n| * 2 ≤ d := by exact_mod_cast hdist
  rw [hquot, abs_div, abs_of_pos hpos, div_le_iff₀ hpos]
  linarith

/-- A positive number has no more bits than it needs. -/
private theorem two_zpow_bitLength_le {n : Nat} (h : n ≠ 0) : (2 : ℚ) ^ ((bitLength n : Int) - 1) ≤ n := by
  have hbits : 0 < bitLength n := by
    by_contra hzero
    have := (bitLength_le_iff n 0).1 (by omega)
    omega
  have hle : 2 ^ (bitLength n - 1) ≤ n := by
    by_contra hlt
    have := (bitLength_le_iff n (bitLength n - 1)).2 (by omega)
    omega
  have hexp : (bitLength n : Int) - 1 = (bitLength n - 1 : Nat) := by omega
  rw [hexp, zpow_natCast]
  exact_mod_cast hle

private theorem lt_two_zpow_bitLength (n : Nat) : (n : ℚ) < 2 ^ (bitLength n : Int) := by
  rw [zpow_natCast]
  exact_mod_cast lt_two_pow_bitLength n

/-! ### Scaled quotients -/

/-- A quotient times a power of two, as a quotient. -/
def scaled (num den : Nat) (k : Int) : Nat × Nat :=
  if 0 ≤ k then (num <<< k.toNat, den) else (num, den <<< (-k).toNat)

private theorem scaled_snd_ne_zero (num : Nat) {den : Nat} (hden : den ≠ 0) (k : Int) : (scaled num den k).2 ≠ 0 := by
  unfold scaled
  split
  · exact hden
  · simp [Nat.shiftLeft_eq, hden]

theorem scaled_div (num den : Nat) (k : Int) :
    ((scaled num den k).1 : ℚ) / (scaled num den k).2 = num / den * 2 ^ k := by
  unfold scaled
  split
  · rename_i hk
    have hpow : (2 : ℚ) ^ k = 2 ^ k.toNat := by rw [← zpow_natCast, Int.toNat_of_nonneg hk]
    rw [hpow, Nat.shiftLeft_eq]
    push_cast
    ring
  · have hpow : (2 : ℚ) ^ k = (2 ^ (-k).toNat)⁻¹ := by
      rw [← zpow_natCast, Int.toNat_of_nonneg (by omega), zpow_neg, inv_inv]
    rw [hpow, Nat.shiftLeft_eq]
    push_cast
    rw [div_mul_eq_div_div, div_eq_mul_inv _ (2 ^ _)]

/-- The bits of numerator and denominator bound a quotient from below. -/
private theorem two_zpow_lt_div {num den : Nat} (hnum : num ≠ 0) (hden : den ≠ 0) :
    (2 : ℚ) ^ ((bitLength num : Int) - 1 - bitLength den) < num / den := by
  have hpos : (0 : ℚ) < den := by exact_mod_cast Nat.pos_of_ne_zero hden
  have hlow : (2 : ℚ) ^ ((bitLength num : Int) - 1) ≤ num := two_zpow_bitLength_le hnum
  rw [lt_div_iff₀ hpos, zpow_sub₀ two_ne_zero, div_mul_eq_mul_div, div_lt_iff₀ (by positivity)]
  exact mul_lt_mul' hlow (lt_two_zpow_bitLength den) hpos.le (by positivity)

namespace Binary

/-- The factor that a sign stands for. -/
def sign (negative : Bool) : ℚ := if negative then -1 else 1

@[simp] theorem abs_sign (negative : Bool) : |sign negative| = 1 := by
  cases negative <;> simp [sign]

private theorem sign_mul (negative : Bool) (q : ℚ) : sign negative * q = if negative then -q else q := by
  cases negative <;> simp [sign]

/-- An integer as its sign and its absolute value. -/
private theorem sign_mul_natAbs (n : Int) : sign (n < 0) * (n.natAbs : ℚ) = n := by
  rw [sign_mul, Nat.cast_natAbs, Int.cast_abs]
  by_cases hneg : n < 0
  · have hcast : (n : ℚ) < 0 := by exact_mod_cast hneg
    simp [hneg, abs_of_neg hcast]
  · have hcast : (0 : ℚ) ≤ n := by exact_mod_cast not_lt.1 hneg
    simp [hneg, abs_of_nonneg hcast]

private theorem sign_bne (s t : Bool) : sign (s != t) = sign s * sign t := by
  cases s <;> cases t <;> simp [sign]

theorem value_eq (x : Binary) : x.value = sign x.negative * (x.mantissa * 2 ^ x.exponent) := by
  unfold value signedMantissa sign
  split <;> push_cast <;> ring

private theorem abs_value (x : Binary) : |x.value| = x.mantissa * 2 ^ x.exponent := by
  rw [value_eq, abs_mul, abs_sign, one_mul, abs_of_nonneg (by positivity)]

@[simp] theorem negative_ofScaledRatio (p : Nat) (negative : Bool) (num den : Nat) (e : Int) :
    (ofScaledRatio p negative num den e).negative = negative := by
  unfold ofScaledRatio normalize
  dsimp only
  split_ifs <;> rfl

/-- A quotient is scaled until it has at least as many bits as the precision, and then rounded to an integer. -/
private theorem exists_ofScaledRatio (p : Nat) (negative : Bool) {num den : Nat} (hnum : num ≠ 0) (hden : den ≠ 0)
    (e : Int) :
    ∃ k : Int, (2 : ℚ) ^ ((p : Int) - 1) ≤ num / den * 2 ^ k ∧
      ofScaledRatio p negative num den e =
        normalize p negative (roundDiv (scaled num den k).1 (scaled num den k).2) (e - k) := by
  have hlow : (2 : ℚ) ^ ((p : Int) - 1) ≤ num / den * 2 ^ ((p : Int) + bitLength den - bitLength num) := by
    have hexp : (p : Int) - 1 =
        ((bitLength num : Int) - 1 - bitLength den) + ((p : Int) + bitLength den - bitLength num) := by omega
    rw [hexp, zpow_add₀ two_ne_zero]
    have hquot := (two_zpow_lt_div hnum hden).le
    gcongr
  set s := (p : Int) + bitLength den - bitLength num
  have hround : ofScaledRatio p negative num den e =
      let k := if bitLength ((scaled num den s).1 / (scaled num den s).2) ≤ p then s else s - 1
      normalize p negative (roundDiv (scaled num den k).1 (scaled num den k).2) (e - k) := by
    rw [ofScaledRatio, if_neg hnum]
    rfl
  by_cases hbits : bitLength ((scaled num den s).1 / (scaled num den s).2) ≤ p
  · exact ⟨s, hlow, by rw [hround, if_pos hbits]⟩
  · refine ⟨s - 1, ?_, by rw [hround, if_neg hbits]⟩
    -- There is one bit too many, so the quotient stays large enough when it is halved.
    rw [bitLength_le_iff, not_lt] at hbits
    have hfloor : ((2 ^ p : Nat) : ℚ) ≤ (scaled num den s).1 / (scaled num den s).2 :=
      le_trans (by exact_mod_cast hbits) Nat.cast_div_le
    rw [scaled_div] at hfloor
    push_cast at hfloor
    rw [zpow_sub_one₀ two_ne_zero, zpow_sub_one₀ two_ne_zero, ← mul_assoc, zpow_natCast]
    gcongr

/-- A value below `2 ^ m` is rounded by at most half of its last bit. -/
theorem abs_value_ofScaledRatio_sub_le (p : Nat) (negative : Bool) (num : Nat) {den : Nat} (hden : den ≠ 0) {e m : Int}
    (h : (num : ℚ) / den * 2 ^ e < 2 ^ m) :
    |(ofScaledRatio p negative num den e).value - sign negative * (num / den * 2 ^ e)| ≤ 2 ^ (m - p - 1) := by
  by_cases hnum : num = 0
  · simp [ofScaledRatio, hnum, value_zero]
    positivity
  obtain ⟨k, hlow, hround⟩ := exists_ofScaledRatio p negative hnum hden e
  -- The last bit that is kept has the place `e - k`, and the number of bits bounds this place.
  have hplace : e - k ≤ m - p := by
    have hlt : (2 : ℚ) ^ ((p : Int) - 1) < 2 ^ (m + (k - e)) := by
      calc (2 : ℚ) ^ ((p : Int) - 1) ≤ num / den * 2 ^ k := hlow
        _ = num / den * 2 ^ e * 2 ^ (k - e) := by
          rw [mul_assoc, ← zpow_add₀ two_ne_zero, add_sub_cancel]
        _ < 2 ^ m * 2 ^ (k - e) := by gcongr
        _ = 2 ^ (m + (k - e)) := (zpow_add₀ two_ne_zero _ _).symm
    have := (zpow_lt_zpow_iff_right₀ one_lt_two).1 hlt
    omega
  have herror := abs_roundDiv_sub_le (scaled num den k).1 (scaled_snd_ne_zero num hden k)
  rw [scaled_div] at herror
  have hvalue : (ofScaledRatio p negative num den e).value - sign negative * (num / den * 2 ^ e) =
      sign negative *
        ((roundDiv (scaled num den k).1 (scaled num den k).2 - num / den * 2 ^ k) * 2 ^ (e - k)) := by
    have hpow : (2 : ℚ) ^ e = 2 ^ k * 2 ^ (e - k) := by
      rw [← zpow_add₀ two_ne_zero]
      congr 1
      omega
    rw [hround, value_normalize, hpow, ← sign_mul]
    ring
  rw [hvalue, abs_mul, abs_sign, one_mul, abs_mul, abs_of_pos (by positivity : (0 : ℚ) < 2 ^ (e - k))]
  calc _ ≤ 1 / 2 * (2 : ℚ) ^ (m - p) := by gcongr; exact one_le_two
    _ = 2 ^ (m - p - 1) := by rw [zpow_sub₀ two_ne_zero (m - p), zpow_one]; ring

/-! ### Operations -/

private theorem abs_value_divTo_sub_le (p : Nat) {x y : Binary} (hy : y.value ≠ 0) {m : Int}
    (h : |x.value / y.value| < 2 ^ m) : |(divTo p x y).value - x.value / y.value| ≤ 2 ^ (m - p - 1) := by
  have hmantissa : y.mantissa ≠ 0 := fun hzero => hy (value_of_mantissa_eq_zero hzero)
  have hpow : (2 : ℚ) ^ (x.exponent - y.exponent) = 2 ^ x.exponent / 2 ^ y.exponent := zpow_sub₀ two_ne_zero _ _
  have hquot : x.value / y.value =
      sign (x.negative != y.negative) * (x.mantissa / y.mantissa * 2 ^ (x.exponent - y.exponent)) := by
    rw [value_eq x, value_eq y, sign_bne, hpow]
    generalize sign x.negative = s
    cases y.negative <;> simp only [sign, Bool.false_eq_true, ↓reduceIte] <;> ring
  have hbound : (x.mantissa : ℚ) / y.mantissa * 2 ^ (x.exponent - y.exponent) < 2 ^ m := by
    rw [abs_div, abs_value, abs_value] at h
    rw [hpow]
    calc _ = (x.mantissa * 2 ^ x.exponent : ℚ) / (y.mantissa * 2 ^ y.exponent) := by ring
      _ < _ := h
  rw [hquot]
  exact abs_value_ofScaledRatio_sub_le p _ _ hmantissa hbound

/-- The value with a smaller exponent. -/
private theorem signedMantissa_mul_eq {x : Binary} {e : Int} (h : e ≤ x.exponent) :
    ((x.signedMantissa * Nat.pow 2 (x.exponent - e).toNat : Int) : ℚ) * 2 ^ e = x.value := by
  have hexp : x.exponent = (x.exponent - e).toNat + e := by omega
  unfold value
  conv_rhs => rw [hexp, zpow_add₀ two_ne_zero, zpow_natCast]
  rw [Nat.pow_eq]
  push_cast
  ring

private theorem align_sum (x y : Binary) :
    (((align x y).1 + (align x y).2.1 : Int) : ℚ) * 2 ^ (align x y).2.2 = x.value + y.value := by
  rw [Int.cast_add, add_mul]
  exact congrArg₂ _ (signedMantissa_mul_eq (min_le_left _ _)) (signedMantissa_mul_eq (min_le_right _ _))

private theorem abs_value_addTo_sub_le (p : Nat) (x y : Binary) {m : Int} (h : |x.value + y.value| < 2 ^ m) :
    |(addTo p x y).value - (x.value + y.value)| ≤ 2 ^ (m - p - 1) := by
  unfold addTo
  dsimp only
  rw [← align_sum] at h ⊢
  generalize (align x y).1 + (align x y).2.1 = s at h ⊢
  generalize (align x y).2.2 = e at h ⊢
  split
  · rename_i hs
    rw [hs, value_zero]
    simp
    positivity
  · have habs : (s.natAbs : ℚ) / (1 : Nat) * 2 ^ e < 2 ^ m := by
      rw [abs_mul, abs_of_pos (by positivity : (0 : ℚ) < 2 ^ e)] at h
      rw [Nat.cast_one, div_one, Nat.cast_natAbs, Int.cast_abs]
      exact h
    have hsign : sign (s < 0) * ((s.natAbs : ℚ) / (1 : Nat) * 2 ^ e) = s * 2 ^ e := by
      rw [Nat.cast_one, div_one, ← mul_assoc, sign_mul_natAbs]
    have herror := abs_value_ofScaledRatio_sub_le p (s < 0) s.natAbs one_ne_zero habs
    rwa [hsign] at herror

/-- A sum with a summand that is off itself: the two errors are added. -/
theorem abs_value_addTo_sub_le_add (p : Nat) {x y : Binary} {b δ : ℚ} {m : Int} (hy : |y.value - b| ≤ δ)
    (hsize : |x.value + b| + δ < 2 ^ m) : |(addTo p x y).value - (x.value + b)| ≤ 2 ^ (m - p - 1) + δ := by
  have hsum : |x.value + y.value - (x.value + b)| ≤ δ := by rwa [add_sub_add_left_eq_sub]
  have htriangle := abs_add_le (x.value + b) (x.value + y.value - (x.value + b))
  rw [add_sub_cancel] at htriangle
  have hrounded := abs_value_addTo_sub_le p x y (m := m) (by linarith)
  calc |(addTo p x y).value - (x.value + b)|
      ≤ |(addTo p x y).value - (x.value + y.value)| + |x.value + y.value - (x.value + b)| := abs_sub_le _ _ _
    _ ≤ 2 ^ (m - p - 1) + δ := add_le_add hrounded hsum

end Binary

/-! ### Doubles -/

theorem value_double {n : Int} (h : |n| < 2 ^ doublePrecision) : (double n).value = n := by
  have hbits : n.natAbs < 2 ^ doublePrecision := by
    rw [Int.abs_eq_natAbs] at h
    exact_mod_cast h
  unfold double Binary.ofInt Binary.ofRatio
  rw [Binary.value_ofScaledRatio_one hbits, zpow_zero, mul_one, ← Binary.sign_mul, Binary.sign_mul_natAbs]

theorem negative_double (n : Int) : (double n).negative = decide (n < 0) :=
  Binary.negative_ofScaledRatio ..

/-- The quotient of two whole numbers as a double. -/
theorem abs_value_divTo_double_sub_le {n d : Int} (hn : |n| < 2 ^ doublePrecision) (hd : |d| < 2 ^ doublePrecision)
    (hpos : 0 < d) {m : Int} (h : |(n : ℚ)| < 2 ^ m * d) :
    |(Binary.divTo doublePrecision (double n) (double d)).value - n / d| ≤ 2 ^ (m - doublePrecision - 1) := by
  have hcast : (0 : ℚ) < d := by exact_mod_cast hpos
  have hquot : |(double n).value / (double d).value| < 2 ^ m := by
    rwa [value_double hn, value_double hd, abs_div, abs_of_pos hcast, div_lt_iff₀ hcast]
  have hne : (double d).value ≠ 0 := by
    rw [value_double hd]
    exact hcast.ne'
  have herror := Binary.abs_value_divTo_sub_le doublePrecision hne hquot
  rwa [value_double hn, value_double hd] at herror

end FibTiming.Number
