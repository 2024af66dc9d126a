import FibTiming.Proofs.DecimalPlaces
import FibTiming.TimeUnit
import Mathlib.Tactic.FieldSimp
import Mathlib.Tactic.NormNum

/-!
# Times as they are shown

A time goes through double precision before its decimal places are rounded.  Up to `2 ^ 52` nanoseconds the double is
less than half a nanosecond off (`TimeUnit.abs_scale_sub_lt`), and the last place of every unit is a whole number of
nanoseconds.  So the two roundings together do no worse than one: the number that is shown is off by at most half of its
last place, and nanoseconds and microseconds are exact (`TimeUnit.format_nearest`).
-/

namespace FibTiming.TimeUnit

open Number

/-- How many nanoseconds the unit has. -/
def nanosecondsPer : TimeUnit → Nat
  | nanoseconds => 1
  | microseconds => 10 ^ 3
  | milliseconds => 10 ^ 6
  | seconds => 10 ^ 9

/-- How many decimal places are shown of a time. -/
def places : TimeUnit → Nat
  | nanoseconds => 0
  | _ => 3

/-- What stands behind the number of a time. -/
def caption : TimeUnit → String
  | nanoseconds => " nanoseconds"
  | microseconds => " microseconds"
  | milliseconds => "ms"
  | seconds => "s"

/-- How many nanoseconds the last place has that is shown. -/
def lastPlace : TimeUnit → Nat
  | nanoseconds => 1
  | microseconds => 1
  | milliseconds => 10 ^ 3
  | seconds => 10 ^ 6

private theorem nanosecondsPer_eq (u : TimeUnit) : u.nanosecondsPer = 10 ^ u.places * u.lastPlace := by
  cases u <;> rfl

private theorem lastPlace_pos (u : TimeUnit) : 0 < u.lastPlace := by
  cases u <;> decide

private theorem endsNumber_caption (u : TimeUnit) : EndsNumber u.caption.toList := by
  intro c hc
  cases u <;> obtain rfl : _ = c := Option.some.inj hc <;> decide

private theorem format_eq (u : TimeUnit) (ns : Int) : u.format ns = (u.scale ns).fixed u.places ++ u.caption := by
  cases u <;> rfl

private theorem nanosecondsPer_shown (unit : String) :
    (shown unit).nanosecondsPer =
      if unit = "ns" then 1 else if unit = "us" then 10 ^ 3 else if unit = "s" then 10 ^ 9 else 10 ^ 6 := by
  unfold shown ofName?
  split_ifs <;> first | rfl | simp_all

private theorem abs_mul_sub_lt {v d e : ℚ} {n : Nat} (hn : 0 < n) (h : |v - d / n| ≤ e) (he : e * n < 1 / 2) :
    |v * n - d| < 1 / 2 := by
  have hpos : (0 : ℚ) < n := by exact_mod_cast hn
  have hscale : v * n - d = (v - d / n) * n := by
    rw [sub_mul, div_mul_cancel₀ _ hpos.ne']
  rw [hscale, abs_mul, abs_of_pos hpos]
  exact (mul_le_mul_of_nonneg_right h hpos.le).trans_lt he

private theorem abs_tmod_lt (n : Int) {d : Nat} (hd : 0 < d) : |n.tmod d| < d := by
  have hlt : n.natAbs % d < d := Nat.mod_lt _ hd
  rw [Int.abs_eq_natAbs, Int.natAbs_tmod, Int.natAbs_natCast]
  exact_mod_cast hlt

/-- Whole seconds are exact, so that only the quotient of the rest and the sum are rounded. -/
private theorem abs_value_seconds_sub_le {ns : Int} (h : |ns| ≤ 2 ^ 52) :
    |(seconds.scale ns).value - ns / (10 ^ 9 : Nat)| ≤ 2 ^ (-31 : Int) + 2 ^ (-54 : Int) := by
  have hparts : 1000000000 * ns.tdiv 1000000000 + ns.tmod 1000000000 = ns := Int.mul_tdiv_add_tmod ns 1000000000
  have hrest : |ns.tmod 1000000000| < 1000000000 := abs_tmod_lt ns (d := 1000000000) (by decide)
  unfold scale
  dsimp only
  generalize ns.tdiv 1000000000 = whole at hparts ⊢
  generalize ns.tmod 1000000000 = rest at hparts hrest ⊢
  have hwhole : |whole| < 2 ^ doublePrecision := by
    rw [abs_le] at h
    rw [abs_lt] at hrest ⊢
    unfold doublePrecision
    omega
  have hexact : (double whole).value + rest / (1000000000 : Int) = ns / (10 ^ 9 : Nat) := by
    rw [value_double hwhole, ← hparts]
    push_cast
    ring
  have hfraction := abs_value_divTo_double_sub_le (d := 1000000000) (hrest.trans (by decide)) (by decide)
    (by decide) (m := 0) (by rw [zpow_zero, one_mul]; exact_mod_cast hrest)
  have hsize : |(double whole).value + rest / (1000000000 : Int)| + 2 ^ (-54 : Int) < 2 ^ (23 : Int) := by
    have hcast : |(ns : ℚ)| ≤ 2 ^ 52 := by exact_mod_cast h
    have hquot : |(ns : ℚ) / (10 ^ 9 : Nat)| ≤ 2 ^ 52 / 10 ^ 9 := by
      rw [abs_div, Nat.abs_cast, Nat.cast_pow, Nat.cast_ofNat]
      exact div_le_div_of_nonneg_right hcast (by norm_num)
    rw [hexact]
    refine (add_le_add_left hquot _).trans_lt ?_
    norm_num
  have herror := Binary.abs_value_addTo_sub_le_add doublePrecision hfraction hsize
  rwa [hexact] at herror

/-- A time in double precision is less than half a nanosecond off. -/
theorem abs_scale_sub_lt (u : TimeUnit) {ns : Int} (h : |ns| ≤ 2 ^ 52) :
    |(u.scale ns).value * u.nanosecondsPer - ns| < 1 / 2 := by
  have hfits : |ns| < 2 ^ doublePrecision := h.trans_lt (by decide)
  have hcast : |(ns : ℚ)| ≤ 2 ^ 52 := by exact_mod_cast h
  cases u with
  | nanoseconds => simp [scale, nanosecondsPer, value_double hfits]
  | microseconds =>
    have herror := abs_value_divTo_double_sub_le (d := 1000) hfits (by decide) (by decide) (m := 43)
      (hcast.trans_lt (by norm_num))
    exact abs_mul_sub_lt (n := 10 ^ 3) (by decide) herror (by norm_num [doublePrecision])
  | milliseconds =>
    have herror := abs_value_divTo_double_sub_le (d := 1000000) hfits (by decide) (by decide) (m := 33)
      (hcast.trans_lt (by norm_num))
    exact abs_mul_sub_lt (n := 10 ^ 6) (by decide) herror (by norm_num [doublePrecision])
  | seconds => exact abs_mul_sub_lt (n := 10 ^ 9) (by decide) (abs_value_seconds_sub_le h) (by norm_num)

/-- The number that is shown is as near to the time as a number with these places can be.  Its distance from the time is
a whole number of nanoseconds, so less than half a nanosecond in the double does not count. -/
private theorem two_mul_abs_shownDigits_sub_le (u : TimeUnit) {ns : Int} (h : |ns| ≤ 2 ^ 52) :
    2 * |(u.scale ns).shownDigits u.places * u.lastPlace - ns| ≤ u.lastPlace := by
  have hshown := (u.scale ns).abs_shownDigits_sub_le u.places
  have hvalue := u.abs_scale_sub_lt h
  generalize (u.scale ns).shownDigits u.places = c at hshown ⊢
  generalize (u.scale ns).value = v at hshown hvalue
  have hpos : (0 : ℚ) < u.lastPlace := by exact_mod_cast u.lastPlace_pos
  have hscaled : |(c * u.lastPlace : ℚ) - v * u.nanosecondsPer| ≤ u.lastPlace / 2 := by
    have hfactor : (c * u.lastPlace : ℚ) - v * u.nanosecondsPer = (c - v * (10 ^ u.places : Nat)) * u.lastPlace := by
      rw [nanosecondsPer_eq, Nat.cast_mul]
      ring
    rw [hfactor, abs_mul, abs_of_pos hpos]
    linarith [mul_le_mul_of_nonneg_right hshown hpos.le]
  have hsum : 2 * |(c * u.lastPlace : ℚ) - ns| < u.lastPlace + 1 := by
    have := abs_sub_le (c * u.lastPlace : ℚ) (v * u.nanosecondsPer) ns
    linarith
  have hint : 2 * |c * u.lastPlace - ns| < u.lastPlace + 1 := by exact_mod_cast hsum
  omega

private theorem abs_shown_sub_le (u : TimeUnit) {ns : Int} (h : |ns| ≤ 2 ^ 52) :
    |((u.scale ns).shownDigits u.places : ℚ) / 10 ^ u.places - ns / u.nanosecondsPer| ≤ 1 / 2 / 10 ^ u.places := by
  have hnear := u.two_mul_abs_shownDigits_sub_le h
  generalize (u.scale ns).shownDigits u.places = c at hnear ⊢
  have hpos : (0 : ℚ) < u.lastPlace := by exact_mod_cast u.lastPlace_pos
  have hpow : (0 : ℚ) < 10 ^ u.places := by positivity
  have hcast : 2 * |(c * u.lastPlace : ℚ) - ns| ≤ u.lastPlace := by exact_mod_cast hnear
  have hquot : (c : ℚ) / 10 ^ u.places - ns / u.nanosecondsPer =
      (c * u.lastPlace - ns) / (10 ^ u.places * u.lastPlace) := by
    rw [nanosecondsPer_eq]
    push_cast
    field_simp
  rw [hquot, abs_div, abs_of_pos (mul_pos hpow hpos), div_le_div_iff₀ (mul_pos hpow hpos) hpow]
  linarith [mul_le_mul_of_nonneg_left hcast hpow.le]

/-! ### Exact times -/

/-- Where the last place is a nanosecond, all of the time is shown. -/
private theorem shownDigits_eq {u : TimeUnit} (hu : u.lastPlace = 1) {ns : Int} (h : |ns| ≤ 2 ^ 52) :
    (u.scale ns).shownDigits u.places = ns := by
  have hnear := u.two_mul_abs_shownDigits_sub_le h
  rw [hu, Nat.cast_one, mul_one, abs_eq_max_neg] at hnear
  omega

private theorem negative_scale {u : TimeUnit} (hu : u.lastPlace = 1) (ns : Int) :
    (u.scale ns).negative = decide (ns < 0) := by
  cases u with
  | nanoseconds => exact negative_double ns
  | microseconds =>
    have hsign : (scale microseconds ns).negative = ((double ns).negative != (double 1000).negative) :=
      Binary.negative_ofScaledRatio ..
    rw [hsign, negative_double, negative_double]
    simp
  | milliseconds => exact absurd hu (by decide)
  | seconds => exact absurd hu (by decide)

/-- The sign, the digits and the unit of a time that is shown exactly. -/
theorem format_of_exact {u : TimeUnit} (hu : u.lastPlace = 1) {ns : Int} (h : |ns| ≤ 2 ^ 52) :
    u.format ns = (if ns < 0 then "-" else "") ++ withPoint u.places ns.natAbs ++ u.caption := by
  rw [format_eq, Binary.fixed_eq, shownDigits_eq hu h, negative_scale hu]
  simp only [decide_eq_true_eq]

private theorem toString_eq_sign_append (i : Int) : toString i = (if i < 0 then "-" else "") ++ toString i.natAbs := by
  cases i with
  | ofNat n => exact (String.empty_append).symm
  | negSucc n =>
    rw [if_pos (Int.negSucc_lt_zero n)]
    rfl

private theorem toString_digit {d : Nat} (h : d < 10) : (toString d).toList = [d.digitChar] := by
  rw [Nat.toString_eq_ofList_toDigits, String.toList_ofList, Nat.toDigits_of_lt_base h]

private theorem withPoint_three (n : Nat) :
    withPoint 3 n = s!"{n / 1000}.{n % 1000 / 100}{n % 1000 / 10 % 10}{n % 1000 % 10}" := by
  have hlast : lastDigits 3 n =
      [(n % 1000 / 100).digitChar, (n % 1000 / 10 % 10).digitChar, (n % 1000 % 10).digitChar] := by
    have hfirst : n / 10 / 10 % 10 = n % 1000 / 100 := by omega
    have hsecond : n / 10 % 10 = n % 1000 / 10 % 10 := by omega
    have hthird : n % 10 = n % 1000 % 10 := by omega
    simp only [lastDigits, hfirst, hsecond, ← hthird, List.nil_append, List.cons_append]
  apply String.toList_injective
  rw [toList_withPoint (by decide), hlast]
  simp only [String.toList_append, toString_digit (show n % 1000 / 100 < 10 by omega),
    toString_digit (show n % 1000 / 10 % 10 < 10 by omega), toString_digit (show n % 1000 % 10 < 10 by omega)]
  simp only [Nat.toString_eq_ofList_toDigits, String.toList_ofList, List.append_assoc, List.cons_append,
    List.nil_append]
  rfl

/-- A time of microseconds, with the three digits of the nanoseconds that remain. -/
def microsecondText (ns : Nat) : String :=
  s!"{ns / 1000}.{ns % 1000 / 100}{ns % 1000 / 10 % 10}{ns % 1000 % 10} microseconds"

/-- The number that is shown of a time is nearest to it: it is off by at most half of its last place, under every name of
a unit.  Nanoseconds and microseconds are exact. -/
theorem format_nearest (unit : String) {ns : Int} (h : |ns| ≤ 2 ^ 52) :
    (shown unit).nanosecondsPer =
      (if unit = "ns" then 1 else if unit = "us" then 10 ^ 3 else if unit = "s" then 10 ^ 9 else 10 ^ 6) ∧
    (∃ c : Int, readPlaces? ((shown unit).format ns).toList =
        some (c, (shown unit).places, (shown unit).caption.toList) ∧
      |(c : ℚ) / 10 ^ (shown unit).places - ns / (shown unit).nanosecondsPer| ≤ 1 / 2 / 10 ^ (shown unit).places) ∧
    (unit = "ns" → (shown unit).format ns = s!"{ns} nanoseconds") ∧
    (unit = "us" → (shown unit).format ns = (if ns < 0 then "-" else "") ++ microsecondText ns.natAbs) := by
  refine ⟨nanosecondsPer_shown unit, ⟨_, ?_, (shown unit).abs_shown_sub_le h⟩, ?_, ?_⟩
  · rw [format_eq, Binary.readPlaces?_fixed _ _ (shown unit).endsNumber_caption]
  · rintro rfl
    have hexact : (shown "ns").format ns = _ := format_of_exact rfl h
    rw [hexact, toString_eq_sign_append ns]
    rfl
  · rintro rfl
    have hexact : (shown "us").format ns = _ := format_of_exact rfl h
    rw [hexact, show (shown "us").places = 3 from rfl, withPoint_three]
    simp only [microsecondText, String.append_assoc]
    rfl

/-- The longest time of the range, a time below zero, and a tie under a name that is no unit. -/
theorem format_nearest_tie :
    |(4503599627370496 : Int)| ≤ 2 ^ 52 ∧ (shown "us").format 4503599627370496 = "4503599627370.496 microseconds" ∧
      (shown "us").format (-1) = "-0.001 microseconds" ∧
      ∃ c : Int, readPlaces? ((shown "min").format 500).toList = some (c, 3, ['m', 's']) ∧
        |(c : ℚ) / 10 ^ 3 - (500 : Int) / (10 ^ 6 : Nat)| ≤ 1 / 2 / 10 ^ 3 := by
  have hlongest : |(4503599627370496 : Int)| ≤ 2 ^ 52 := by decide
  have hbelow : |(-1 : Int)| ≤ 2 ^ 52 := by decide
  have htie : |(500 : Int)| ≤ 2 ^ 52 := by decide
  refine ⟨hlongest, ?_, ?_, (format_nearest "min" htie).2.1⟩
  · rw [(format_nearest "us" hlongest).2.2.2 rfl]
    rfl
  · rw [(format_nearest "us" hbelow).2.2.2 rfl]
    rfl

end FibTiming.TimeUnit
