import FibTiming.Proofs.IntegerText
import FibTiming.Proofs.Settings
import Mathlib.Data.List.TakeWhile

/-!
# Decimal numerals and number settings

A number that has no more bits than the precision is not rounded (`Binary.value_ofScaledRatio_one`), so the decimal
text of an integer below `2 ^ 512` is read as this integer (`readNumeral?_toString`).  Number settings take a value
exactly when it is, or as a text converts to, a whole number in the range of the setting, and give this number.
-/

namespace FibTiming.Number

/-! ### Values without rounding -/

private theorem stripTwos_mul (fuel m : Nat) (e : Int) :
    ((stripTwos fuel m e).1 : ℚ) * 2 ^ (stripTwos fuel m e).2 = m * 2 ^ e := by
  induction fuel generalizing m e with
  | zero => rfl
  | succ fuel ih =>
    unfold stripTwos
    split
    · rename_i heven
      have hhalf : (m : ℚ) = (m / 2 : Nat) * 2 := by
        have : m = m / 2 * 2 := by omega
        exact_mod_cast this
      rw [ih, zpow_add_one₀ (by norm_num), hhalf]
      ring
    · rfl

private theorem roundDiv_one (n : Nat) : roundDiv n 1 = n := by
  simp [roundDiv, Nat.mod_one]

namespace Binary

theorem value_zero (p : Nat) (negative : Bool) : (zero p negative).value = 0 :=
  value_of_mantissa_eq_zero rfl

/-- An odd mantissa is found without a change of the value. -/
theorem value_normalize (p : Nat) (negative : Bool) (m : Nat) (e : Int) :
    (normalize p negative m e).value = (if negative then -(m : ℚ) else m) * 2 ^ e := by
  by_cases hm : m = 0
  · simp [normalize, hm, value_zero]
  · rw [normalize, dif_neg hm]
    have hstrip := stripTwos_mul (bitLength m) m e
    cases negative
    · simpa [value, signedMantissa] using hstrip
    · simpa [value, signedMantissa] using hstrip

/-- A natural number with enough room is only shifted to the left. -/
private theorem exists_ofScaledRatio_one {p m : Nat} (hm : m ≠ 0) (h : m < 2 ^ p) (negative : Bool) (e : Int) :
    ∃ k : Nat, ofScaledRatio p negative m 1 e = normalize p negative (m * 2 ^ k) (e - k) := by
  have hroom : bitLength m ≤ p := (bitLength_le_iff m p).2 h
  have hone : bitLength 1 = 1 := by decide
  have hshift : ∀ k : Int, 0 ≤ k →
      (if 0 ≤ k then (m <<< k.toNat, 1) else (m, 1 <<< (-k).toNat)) = (m * 2 ^ k.toNat, 1) := by
    intro k hk
    rw [if_pos hk, Nat.shiftLeft_eq]
  unfold ofScaledRatio
  rw [if_neg hm]
  simp only
  -- Whichever of the two shifts is taken, it is not negative.
  generalize hk : (if bitLength _ ≤ p then _ else _ : Int) = k
  have hnonneg : 0 ≤ k := by
    split at hk <;> omega
  rw [hshift k hnonneg, roundDiv_one]
  exact ⟨k.toNat, by rw [Int.toNat_of_nonneg hnonneg]⟩

theorem value_ofScaledRatio_one {p m : Nat} (h : m < 2 ^ p) (negative : Bool) (e : Int) :
    (ofScaledRatio p negative m 1 e).value = (if negative then -(m : ℚ) else m) * 2 ^ e := by
  by_cases hm : m = 0
  · simp [ofScaledRatio, hm, value_zero]
  · obtain ⟨k, hk⟩ := exists_ofScaledRatio_one hm h negative e
    rw [hk, value_normalize, zpow_sub₀ (by norm_num), zpow_natCast]
    have hpow : (2 : ℚ) ^ k ≠ 0 := by positivity
    split
    · push_cast
      rw [neg_mul, mul_assoc, mul_div_cancel₀ _ hpow, neg_mul]
    · push_cast
      rw [mul_assoc, mul_div_cancel₀ _ hpow]

end Binary

namespace Extended

/-- Whole numbers below the precision of texts stay in the range of exponents. -/
private theorem isWhole_clamp {x : Binary} {i : Int} (hx : x.value = i) (hi : i.natAbs < 2 ^ textPrecision) :
    (clamp x).IsWhole i := by
  have hwhole : (finite x).IsWhole i := by rw [IsWhole, value?, hx]
  unfold clamp
  by_cases hm : x.mantissa = 0
  · rwa [if_pos hm]
  · obtain ⟨hexp, htrunc⟩ := (isWhole_finite_of_ne_zero hm i).1 hwhole
    have hbits : bitLength x.mantissa + x.exponent.toNat ≤ textPrecision := by
      apply bitLength_add_le hm
      rw [← htrunc, Binary.truncate_of_nonneg hexp, Int.natAbs_mul, Int.natAbs_pow,
        Binary.natAbs_signedMantissa] at hi
      exact hi
    have hmax : maxExponent = 2147483647 := rfl
    have hprec : textPrecision = 512 := rfl
    simp only
    rw [if_neg hm, if_neg (by omega), if_neg (by omega)]
    exact hwhole

end Extended

/-! ### Decimal digits -/

theorem digitsValue_append (start : Nat) (cs ds : List Char) :
    digitsValue start (cs ++ ds) = digitsValue (digitsValue start cs) ds :=
  List.foldl_append

theorem digitsValue_digitChar {d : Nat} (start : Nat) (h : d < 10) :
    digitsValue start [d.digitChar] = 10 * start + d := by
  simp only [digitsValue, List.foldl_cons, List.foldl_nil, Nat.toNat_digitChar_of_lt_ten h]
  omega

theorem digitsValue_toDigits (n : Nat) : digitsValue 0 (Nat.toDigits 10 n) = n := by
  induction n using Nat.strongRecOn with
  | ind n ih =>
    by_cases hn : n < 10
    · rw [Nat.toDigits_of_lt_base hn, digitsValue_digitChar 0 hn]
      omega
    · rw [Nat.toDigits_of_base_le (by omega) (by omega), digitsValue_append, ih (n / 10) (by omega),
        digitsValue_digitChar _ (by omega)]
      omega

private theorem fivePower_zero : (fivePower 0).mantissa = 1 ∧ (fivePower 0).exponent = 0 := by
  decide +kernel

/-- Without a power of ten, the digits are the number. -/
private theorem exists_assemble {m : Nat} (h : m < 2 ^ Extended.textPrecision) (negative : Bool) :
    ∃ x, assemble negative m 0 0 = some x ∧ x.IsWhole (if negative then -(m : Int) else m) := by
  unfold assemble
  by_cases hm : m = 0
  · refine ⟨.finite (.zero Extended.textPrecision negative), by simp [hm], ?_⟩
    simp [Extended.isWhole_finite_of_eq_zero, Binary.zero, hm]
  · have hroom : bitLength m ≤ Extended.textPrecision := (bitLength_le_iff m _).2 h
    have hmax : Extended.maxExponent = 2147483647 := rfl
    have hprec : Extended.textPrecision = 512 := rfl
    simp only
    rw [if_neg hm, if_neg (by omega)]
    refine ⟨_, rfl, Extended.isWhole_clamp ?_ ?_⟩
    · rw [if_neg (by omega), Int.natAbs_zero, fivePower_zero.1, fivePower_zero.2, Nat.mul_one,
        Binary.value_ofScaledRatio_one h]
      split <;> simp
    · split <;> simpa using h

/-- A list of digits is read as the number that they make. -/
private theorem exists_readUnsigned? {ds : List Char} (hne : ds ≠ []) (hdigit : ∀ c ∈ ds, c.isDigit = true)
    (h : digitsValue 0 ds < 2 ^ Extended.textPrecision) (negative : Bool) :
    ∃ x, readUnsigned? negative ds = some x ∧
      x.IsWhole (if negative then -(digitsValue 0 ds : Int) else digitsValue 0 ds) := by
  have htake : ds.takeWhile Char.isDigit = ds := List.takeWhile_eq_self_iff.2 hdigit
  have hdrop : ds.dropWhile Char.isDigit = [] := List.dropWhile_eq_nil_iff.2 hdigit
  have hempty : ds.isEmpty = false := by simpa using hne
  unfold readUnsigned?
  simp only [htake, hdrop, hempty, Bool.false_and, Bool.false_eq_true, ↓reduceIte, readPower?, List.length_nil]
  exact exists_assemble h negative

private theorem splitSign_of_isDigit {ds : List Char} (hdigit : ∀ c ∈ ds, c.isDigit = true) :
    splitSign ds = (false, ds) := by
  unfold splitSign
  split
  · exact absurd (hdigit '+' (List.mem_cons_self ..)) (by decide)
  · exact absurd (hdigit '-' (List.mem_cons_self ..)) (by decide)
  · rfl

/-- The decimal text of an integer is a numeral of it. -/
theorem readNumeral?_toString {i : Int} (h : i.natAbs < 2 ^ Extended.textPrecision) :
    ∃ x, readNumeral? (toString i) = some x ∧ x.IsWhole i := by
  have hdigit : ∀ n : Nat, ∀ c ∈ Nat.toDigits 10 n, c.isDigit = true := fun n c =>
    Nat.isDigit_of_mem_toDigits (by omega) (by omega)
  have hsplit : splitSign (toString i).toList = (decide (i < 0), Nat.toDigits 10 i.natAbs) := by
    cases i with
    | ofNat n =>
      rw [show toString (Int.ofNat n) = toString n from rfl, Nat.toString_eq_ofList_toDigits, String.toList_ofList,
        splitSign_of_isDigit (hdigit n)]
      rfl
    | negSucc n =>
      rw [show toString (Int.negSucc n) = "-" ++ toString (n + 1) from rfl, Nat.toString_eq_ofList_toDigits,
        String.toList_append]
      simp [splitSign]
  have hletter : ∀ c cs, c.isDigit = false → Nat.toDigits 10 i.natAbs ≠ c :: cs := by
    intro c cs hc heq
    have := hdigit i.natAbs c (heq ▸ List.mem_cons_self ..)
    rw [hc] at this
    exact absurd this (by decide)
  unfold readNumeral?
  simp only [hsplit]
  rw [if_neg (by rintro (heq | heq) <;> exact hletter _ _ (by decide) heq)]
  have hvalue := digitsValue_toDigits i.natAbs
  obtain ⟨x, hx, hwhole⟩ := exists_readUnsigned? (Nat.toDigits_ne_nil) (hdigit i.natAbs) (by rwa [hvalue])
    (decide (i < 0))
  refine ⟨x, hx, ?_⟩
  rw [hvalue] at hwhole
  have hi : (if decide (i < 0) = true then -(i.natAbs : Int) else i.natAbs) = i := by
    simp only [decide_eq_true_eq]
    split <;> omega
  rwa [hi] at hwhole

end FibTiming.Number

namespace FibTiming.SuiteFile

open Number

namespace Value

/-- The value is a number or a text that converts to one, and the number is `q`. -/
def StandsFor (v : Value) (q : ℚ) : Prop :=
  ∃ x, (v = .number x ∨ ∃ s, v = .text s ∧ readNumeral? s = some x) ∧ x.value? = some q

private theorem toNumber_eq_ok_iff (v : Value) (x : Extended) :
    v.toNumber = .ok x ↔ v = .number x ∨ ∃ s, v = .text s ∧ readNumeral? s = some x := by
  cases v with
  | number y => simp [toNumber]
  | text s =>
    simp only [toNumber, reduceCtorEq, false_or, text.injEq, exists_eq_left']
    cases readNumeral? s <;> simp
  | _ => simp [toNumber]

private theorem isWhole_iff (v : Value) (i : Int) : v.IsWhole i ↔ v.StandsFor i := by
  simp only [IsWhole, StandsFor, toNumber_eq_ok_iff, Extended.IsWhole]

private theorem StandsFor.isNull {v : Value} {q : ℚ} (h : v.StandsFor q) : v.isNull = false := by
  obtain ⟨x, rfl | ⟨s, rfl, _⟩, _⟩ := h <;> rfl

private theorem StandsFor.unique {v : Value} {q r : ℚ} (hq : v.StandsFor q) (hr : v.StandsFor r) : q = r := by
  obtain ⟨x, hx, hq⟩ := hq
  obtain ⟨y, hy, hr⟩ := hr
  rw [← toNumber_eq_ok_iff] at hx hy
  obtain rfl : x = y := Except.ok.inj (hx.symm.trans hy)
  exact Option.some.inj (hq.symm.trans hr)

/-- The decimal text of an integer stands for this integer. -/
private theorem standsFor_text_toString {i : Int} (h : i.natAbs ≤ 2 ^ 64) : (Value.text (toString i)).StandsFor i := by
  have hbits : i.natAbs < 2 ^ Extended.textPrecision := h.trans_lt (Nat.pow_lt_pow_right (by omega) (by decide))
  obtain ⟨x, hread, hwhole⟩ := readNumeral?_toString hbits
  exact ⟨x, .inr ⟨_, rfl, hread⟩, hwhole⟩

end Value

private theorem signedOf_eq_ok_iff_standsFor (v : Value) (i : Int) :
    signedOf v = .ok i ↔ v.isNull = false ∧ v.StandsFor i ∧ -2 ^ 63 ≤ i ∧ i < 2 ^ 63 := by
  rw [signedOf_eq_ok_iff, Value.isWhole_iff]
  constructor
  · rintro ⟨hv, hrange⟩
    exact ⟨hv.isNull, hv, hrange⟩
  · rintro ⟨_, hv, hrange⟩
    exact ⟨hv, hrange⟩

private theorem exists_unsignedOf_iff_standsFor (v : Value) (i : Int) :
    (∃ n : UInt64, unsignedOf v = .ok n ∧ (n.toNat : Int) = i) ↔
      v.isNull = false ∧ v.StandsFor i ∧ 0 ≤ i ∧ i < 2 ^ 64 := by
  simp only [unsignedOf_eq_ok_iff, Value.isWhole_iff]
  constructor
  · rintro ⟨n, hv, rfl⟩
    have := n.toNat_lt
    exact ⟨hv.isNull, hv, by omega, by omega⟩
  · rintro ⟨_, hv, hmin, hmax⟩
    have hn : (UInt64.ofNat i.toNat).toNat = i.toNat := by
      rw [UInt64.toNat_ofNat', Nat.mod_eq_of_lt (by omega)]
    have hi : ((UInt64.ofNat i.toNat).toNat : Int) = i := by omega
    exact ⟨UInt64.ofNat i.toNat, by rwa [hi], hi⟩

private theorem unsignedOf_of_standsFor {v : Value} {n : UInt64} (h : v.StandsFor n.toNat) : unsignedOf v = .ok n :=
  (unsignedOf_eq_ok_iff v n).2 ((Value.isWhole_iff v n.toNat).2 h)

private theorem exists_eq_error_iff {ε α : Type} (x : Except ε α) : (∃ e, x = .error e) ↔ ∀ a, x ≠ .ok a := by
  cases x <;> simp

/-- Settings with and without a sign take the whole numbers in their ranges as they are, written as numbers or as
texts, and refuse everything else. -/
theorem number_settings_exact (v : Value) :
    (∀ i : Int, signedOf v = .ok i ↔ v.isNull = false ∧ v.StandsFor i ∧ -2 ^ 63 ≤ i ∧ i < 2 ^ 63) ∧
    (∀ i : Int, (∃ n : UInt64, unsignedOf v = .ok n ∧ (n.toNat : Int) = i) ↔
      v.isNull = false ∧ v.StandsFor i ∧ 0 ≤ i ∧ i < 2 ^ 64) ∧
    ((∃ e, signedOf v = .error e) ↔ ∀ i : Int, -2 ^ 63 ≤ i → i < 2 ^ 63 → ¬ v.StandsFor i) ∧
    ((∃ e, unsignedOf v = .error e) ↔ ∀ i : Int, 0 ≤ i → i < 2 ^ 64 → ¬ v.StandsFor i) ∧
    ∀ n : UInt64, (∀ x : Extended, x.value? = some (n.toNat : ℚ) → unsignedOf (.number x) = .ok n) ∧
      unsignedOf (.text (toString n.toNat)) = .ok n := by
  refine ⟨signedOf_eq_ok_iff_standsFor v, exists_unsignedOf_iff_standsFor v, ?_, ?_, fun n => ⟨?_, ?_⟩⟩
  · rw [exists_eq_error_iff]
    constructor
    · intro hnone i hmin hmax hv
      exact hnone i ((signedOf_eq_ok_iff_standsFor v i).2 ⟨hv.isNull, hv, hmin, hmax⟩)
    · intro hnone i hok
      obtain ⟨_, hv, hmin, hmax⟩ := (signedOf_eq_ok_iff_standsFor v i).1 hok
      exact hnone i hmin hmax hv
  · rw [exists_eq_error_iff]
    constructor
    · intro hnone i hmin hmax hv
      obtain ⟨n, hok, _⟩ := (exists_unsignedOf_iff_standsFor v i).2 ⟨hv.isNull, hv, hmin, hmax⟩
      exact hnone n hok
    · intro hnone n hok
      obtain ⟨_, hv, hmin, hmax⟩ := (exists_unsignedOf_iff_standsFor v n.toNat).1 ⟨n, hok, rfl⟩
      exact hnone n.toNat hmin hmax hv
  · intro x hx
    exact unsignedOf_of_standsFor ⟨x, .inl rfl, hx⟩
  · have hlt : n.toNat < 2 ^ 64 := n.toNat_lt
    have hbound : (n.toNat : Int).natAbs ≤ 2 ^ 64 := by omega
    exact unsignedOf_of_standsFor (Value.standsFor_text_toString hbound)

theorem number_settings_exact_borders :
    signedOf (.text "-9223372036854775808") = .ok (-2 ^ 63) ∧
    (∃ e, signedOf (.text "9223372036854775808") = .error e) ∧
    unsignedOf (.text "18446744073709551615") = .ok 18446744073709551615 ∧
    (∃ e, unsignedOf (.text "18446744073709551616") = .error e) ∧
    ∃ e, unsignedOf (.number (.finite ⟨512, false, 3, -1, .inr rfl⟩)) = .error e := by
  have hmin : (Value.text "-9223372036854775808").StandsFor (-2 ^ 63 : Int) := by
    rw [show "-9223372036854775808" = toString (-2 ^ 63 : Int) from rfl]
    exact Value.standsFor_text_toString (by decide)
  have htwo63 : (Value.text "9223372036854775808").StandsFor (2 ^ 63 : Int) := by
    rw [show "9223372036854775808" = toString (2 ^ 63 : Int) from rfl]
    exact Value.standsFor_text_toString (by decide)
  have htwo64 : (Value.text "18446744073709551616").StandsFor (2 ^ 64 : Int) := by
    rw [show "18446744073709551616" = toString (2 ^ 64 : Int) from rfl]
    exact Value.standsFor_text_toString (by decide)
  refine ⟨((number_settings_exact _).1 _).2 ⟨rfl, hmin, by decide, by decide⟩,
    (number_settings_exact _).2.2.1.2 ?_, ((number_settings_exact .untypedNull).2.2.2.2 18446744073709551615).2,
    (number_settings_exact _).2.2.2.1.2 ?_, (number_settings_exact _).2.2.2.1.2 ?_⟩
  · intro i _ hmax hv
    have hi : i = 2 ^ 63 := by exact_mod_cast hv.unique htwo63
    omega
  · intro i _ hmax hv
    have hi : i = 2 ^ 64 := by exact_mod_cast hv.unique htwo64
    omega
  · rintro i _ _ ⟨x, heq | ⟨s, heq, _⟩, hx⟩
    · cases heq
      exact Binary.value_ne_of_neg (by decide) (by decide) i (Option.some.inj hx)
    · cases heq

end FibTiming.SuiteFile
