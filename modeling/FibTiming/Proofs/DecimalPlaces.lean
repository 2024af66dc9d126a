import FibTiming.Number.FixedPlaces
import FibTiming.Proofs.RoundingErrors

/-!
# Decimal places

A text with decimal places has the digits of the whole part, a point and as many digits as there are places
(`toList_withPoint`), and it is read back as its number and its places (`Binary.readPlaces?_fixed`).  The number is off
from the binary value by at most half of the last place (`Binary.abs_shownDigits_sub_le`).
-/

namespace FibTiming.Number

/-! ### Digits behind the point -/

/-- The last digits of a number. -/
def lastDigits : (places n : Nat) → List Char
  | 0, _ => []
  | places + 1, n => lastDigits places (n / 10) ++ [(n % 10).digitChar]

@[simp] theorem length_lastDigits (places n : Nat) : (lastDigits places n).length = places := by
  induction places generalizing n with
  | zero => rfl
  | succ places ih => simp [lastDigits, ih]

private theorem isDigit_of_mem_lastDigits {places n : Nat} {c : Char} (h : c ∈ lastDigits places n) :
    c.isDigit = true := by
  induction places generalizing n with
  | zero => simp [lastDigits] at h
  | succ places ih =>
    rw [lastDigits, List.mem_append, List.mem_singleton] at h
    rcases h with h | rfl
    · exact ih h
    · have hlt : n % 10 < 10 := Nat.mod_lt n (by decide)
      refine Nat.isDigit_of_mem_toDigits (b := 10) (n := n % 10) (by decide) (by decide) ?_
      rw [Nat.toDigits_of_lt_base hlt]
      exact List.mem_singleton_self _

private theorem digitsValue_lastDigits (start places n : Nat) :
    digitsValue start (lastDigits places n) = start * 10 ^ places + n % 10 ^ places := by
  induction places generalizing n with
  | zero => simp [lastDigits, digitsValue, Nat.mod_one]
  | succ places ih =>
    rw [lastDigits, digitsValue_append, ih, digitsValue_digitChar _ (Nat.mod_lt n (by decide)), Nat.pow_succ',
      Nat.mod_mul]
    ring

/-- A number filled up with zeros on the left, divided before its last digits. -/
private theorem replicate_append_toDigits (places n : Nat) :
    List.replicate (places + 1 - (Nat.toDigits 10 n).length) '0' ++ Nat.toDigits 10 n =
      Nat.toDigits 10 (n / 10 ^ places) ++ lastDigits places n := by
  induction places generalizing n with
  | zero =>
    have hpos : 0 < (Nat.toDigits 10 n).length := List.length_pos_of_ne_nil Nat.toDigits_ne_nil
    have hnone : 0 + 1 - (Nat.toDigits 10 n).length = 0 := by omega
    simp [hnone, lastDigits]
  | succ places ih =>
    have hshift : List.replicate (places + 1 + 1 - (Nat.toDigits 10 n).length) '0' ++ Nat.toDigits 10 n =
        List.replicate (places + 1 - (Nat.toDigits 10 (n / 10)).length) '0' ++ Nat.toDigits 10 (n / 10) ++
          [(n % 10).digitChar] := by
      by_cases hn : n < 10
      · have hzero : n / 10 = 0 := by omega
        rw [hzero, Nat.mod_eq_of_lt hn, Nat.toDigits_of_lt_base hn]
        simp [List.replicate_succ']
      · rw [Nat.toDigits_of_base_le (by omega) (by omega), List.length_append, List.length_singleton,
          Nat.add_sub_add_right, List.append_assoc]
    rw [hshift, ih, Nat.div_div_eq_div_mul, ← Nat.pow_succ', lastDigits, List.append_assoc]

theorem toList_withPoint {places : Nat} (h : 0 < places) (n : Nat) :
    (withPoint places n).toList = Nat.toDigits 10 (n / 10 ^ places) ++ '.' :: lastDigits places n := by
  have hlength : (Nat.toDigits 10 (n / 10 ^ places) ++ lastDigits places n).length - places =
      (Nat.toDigits 10 (n / 10 ^ places)).length := by
    rw [List.length_append, length_lastDigits, Nat.add_sub_cancel]
  unfold withPoint
  rw [if_neg (by omega)]
  dsimp only
  rw [replicate_append_toDigits, hlength, List.take_left, List.drop_left]
  simp

/-! ### Reading decimal places -/

/-- The number at the start of a text: its digits as an integer, how many of them stand behind the point, and the rest
of the text. -/
def readPlaces? (cs : List Char) : Option (Int × Nat × List Char) :=
  let (minus, body) := splitSign cs
  let whole := body.takeWhile Char.isDigit
  let rest := body.dropWhile Char.isDigit
  let (fraction, rest) := match rest with
    | '.' :: more => (more.takeWhile Char.isDigit, more.dropWhile Char.isDigit)
    | _ => ([], rest)
  let n := digitsValue 0 (whole ++ fraction)
  if whole.isEmpty then none else some (if minus then -(n : Int) else n, fraction.length, rest)

/-- The text does not go on with a digit or a point. -/
def EndsNumber (rest : List Char) : Prop := ∀ c ∈ rest.head?, c.isDigit = false ∧ c ≠ '.'

private theorem span_isDigit_append {ds rest : List Char} (hds : ∀ c ∈ ds, c.isDigit = true)
    (hrest : ∀ c ∈ rest.head?, c.isDigit = false) :
    (ds ++ rest).takeWhile Char.isDigit = ds ∧ (ds ++ rest).dropWhile Char.isDigit = rest := by
  rw [List.takeWhile_append_of_pos hds, List.dropWhile_append_of_pos hds]
  cases rest with
  | nil => simp
  | cons c rest =>
    have hc : c.isDigit = false := hrest c rfl
    simp [hc]

private theorem isDigit_of_mem_toDigits {n : Nat} {c : Char} (h : c ∈ Nat.toDigits 10 n) : c.isDigit = true :=
  Nat.isDigit_of_mem_toDigits (by decide) (by decide) h

private theorem splitSign_toDigits (negative : Bool) (n : Nat) (rest : List Char) :
    splitSign ((if negative then ['-'] else []) ++ (Nat.toDigits 10 n ++ rest)) =
      (negative, Nat.toDigits 10 n ++ rest) := by
  cases negative with
  | true => rfl
  | false =>
    obtain ⟨d, ds, hds⟩ := List.exists_cons_of_ne_nil (Nat.toDigits_ne_nil (b := 10) (n := n))
    have hd : d.isDigit = true := isDigit_of_mem_toDigits (hds ▸ List.mem_cons_self)
    rw [hds]
    simp only [Bool.false_eq_true, ↓reduceIte, List.nil_append, List.cons_append, splitSign]
    split
    · exact absurd hd (by simp_all)
    · exact absurd hd (by simp_all)
    · rfl

/-- A number without decimal places is read back. -/
private theorem readPlaces?_toDigits (negative : Bool) (n : Nat) {rest : List Char} (hrest : EndsNumber rest) :
    readPlaces? ((if negative then ['-'] else []) ++ (Nat.toDigits 10 n ++ rest)) =
      some (if negative then -(n : Int) else n, 0, rest) := by
  obtain ⟨htake, hdrop⟩ := span_isDigit_append (fun _ => isDigit_of_mem_toDigits (n := n)) fun c hc => (hrest c hc).1
  have hpoint : (match rest with
      | '.' :: more => (more.takeWhile Char.isDigit, more.dropWhile Char.isDigit)
      | _ => ([], rest)) = ([], rest) := by
    split
    · exact absurd rfl (hrest '.' rfl).2
    · rfl
  unfold readPlaces?
  rw [splitSign_toDigits]
  simp only [htake, hdrop, hpoint, List.append_nil, digitsValue_toDigits]
  simp

/-- A number with decimal places is read back. -/
private theorem readPlaces?_lastDigits (negative : Bool) (places n : Nat) {rest : List Char} (hrest : EndsNumber rest) :
    readPlaces? ((if negative then ['-'] else []) ++
        (Nat.toDigits 10 (n / 10 ^ places) ++ '.' :: (lastDigits places n ++ rest))) =
      some (if negative then -(n : Int) else n, places, rest) := by
  have hfirst : ∀ c ∈ ('.' :: (lastDigits places n ++ rest)).head?, c.isDigit = false := by
    rintro c ⟨⟩
    decide
  have hlast : ∀ c ∈ lastDigits places n, c.isDigit = true := fun _ => isDigit_of_mem_lastDigits
  obtain ⟨hwhole, hpoint⟩ := span_isDigit_append (fun _ => isDigit_of_mem_toDigits (n := n / 10 ^ places)) hfirst
  obtain ⟨hfraction, hend⟩ := span_isDigit_append hlast fun c hc => (hrest c hc).1
  unfold readPlaces?
  rw [splitSign_toDigits]
  simp only [hwhole, hpoint, hfraction, hend, digitsValue_append, digitsValue_toDigits, digitsValue_lastDigits]
  rw [Nat.div_add_mod']
  simp

/-- The text of a number is read back, with its places. -/
private theorem readPlaces?_withPoint (negative : Bool) (places n : Nat) {rest : List Char} (hrest : EndsNumber rest) :
    readPlaces? ((if negative then ['-'] else []) ++ ((withPoint places n).toList ++ rest)) =
      some (if negative then -(n : Int) else n, places, rest) := by
  rcases Nat.eq_zero_or_pos places with rfl | hplaces
  · rw [withPoint, if_pos rfl, Nat.toString_eq_ofList_toDigits, String.toList_ofList]
    exact readPlaces?_toDigits negative n hrest
  · rw [toList_withPoint hplaces, List.append_assoc, List.cons_append]
    exact readPlaces?_lastDigits negative places n hrest

namespace Binary

/-- The digits that are shown of a value, as a number. -/
def shownDigits (places : Nat) (x : Binary) : Int :=
  let n := roundDiv (x.ratio.1 * 10 ^ places) x.ratio.2
  if x.negative then -(n : Int) else n

theorem fixed_eq (places : Nat) (x : Binary) :
    x.fixed places = (if x.negative then "-" else "") ++ withPoint places (x.shownDigits places).natAbs := by
  have habs : (x.shownDigits places).natAbs = roundDiv (x.ratio.1 * 10 ^ places) x.ratio.2 := by
    unfold shownDigits
    split <;> simp
  rw [habs]
  unfold fixed
  dsimp only
  rw [Nat.pow_eq]
  split <;> simp

theorem readPlaces?_fixed (places : Nat) (x : Binary) {rest : String} (hrest : EndsNumber rest.toList) :
    readPlaces? (x.fixed places ++ rest).toList = some (x.shownDigits places, places, rest.toList) := by
  have htext : (x.fixed places ++ rest).toList = (if x.negative then ['-'] else []) ++
      ((withPoint places (x.shownDigits places).natAbs).toList ++ rest.toList) := by
    rw [fixed_eq, String.toList_append, String.toList_append, List.append_assoc]
    split <;> rfl
  rw [htext, readPlaces?_withPoint _ _ _ hrest]
  unfold shownDigits
  cases x.negative <;> simp

/-- What is shown is off from the value by at most half of the last place. -/
theorem abs_shownDigits_sub_le (places : Nat) (x : Binary) :
    |(x.shownDigits places : ℚ) - x.value * (10 ^ places : Nat)| ≤ 1 / 2 := by
  have hden : x.ratio.2 ≠ 0 := by
    unfold ratio
    split <;> simp [Nat.shiftLeft_eq]
  have hratio : (x.ratio.1 : ℚ) / x.ratio.2 = x.mantissa * 2 ^ x.exponent := by
    have h := scaled_div x.mantissa 1 x.exponent
    rw [Nat.cast_one, div_one] at h
    exact h
  have hquot : ((x.ratio.1 * 10 ^ places : Nat) : ℚ) / x.ratio.2 =
      x.mantissa * 2 ^ x.exponent * (10 ^ places : Nat) := by
    rw [Nat.cast_mul, mul_div_right_comm, hratio]
  have hsigned : (x.shownDigits places : ℚ) =
      sign x.negative * roundDiv (x.ratio.1 * 10 ^ places) x.ratio.2 := by
    unfold shownDigits sign
    split <;> simp
  have herror := abs_roundDiv_sub_le (x.ratio.1 * 10 ^ places) hden
  rw [hquot] at herror
  rw [hsigned, value_eq, mul_assoc, ← mul_sub, abs_mul, abs_sign, one_mul]
  exact herror

end Binary

end FibTiming.Number
