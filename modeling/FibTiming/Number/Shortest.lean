import FibTiming.Number.Binary

/-!
# The shortest decimal

A value of a given precision is read back from every decimal that lies closer to it than half a unit of its last
bit, and from one that lies exactly half a unit away when its mantissa is even.  `shortest` gives the fewest
digits with that property.  For each number of digits it looks at the two neighbours of the value with that many
digits: the first number of digits for which one of them reads back wins, and of two the nearer one does.
-/

namespace FibTiming.Number

/-- The digits of `coefficient`, with the point after the first `point` of them. -/
structure Decimal where
  coefficient : Nat
  point : Int
deriving Repr, DecidableEq, Inhabited

/-- The interval of the values that read back as a given value, over one denominator.  The ends belong to it
when `closed` holds. -/
structure ReadBack where
  lower : Nat
  value : Nat
  upper : Nat
  denominator : Nat
  closed : Bool
deriving Repr, DecidableEq, Inhabited

namespace ReadBack

/-- The interval of a value that is not zero; its sign is left out. -/
def of (x : Binary) : ReadBack :=
  let shift := x.precision + 1 - bitLength x.mantissa
  let m := x.mantissa <<< shift
  let e : Int := x.exponent - shift
  let up := if 0 ≤ e then Nat.pow 2 e.toNat else 1
  let den := if 0 ≤ e then 1 else Nat.pow 2 (-e).toNat
  ⟨(m - 1) * up, m * up, (m + 1) * up, den, m / 2 % 2 == 0⟩

/-- Whether the interval contains `n / d`. -/
def contains (r : ReadBack) (n d : Nat) : Bool :=
  let p := n * r.denominator
  let lo := r.lower * d
  let hi := r.upper * d
  (decide (lo < p) && decide (p < hi)) || (r.closed && (decide (lo = p) || decide (p = hi)))

/-- Whether the value is at least `10 ^ k`. -/
def reachesTen (r : ReadBack) (k : Int) : Bool :=
  if 0 ≤ k then decide (r.denominator * Nat.pow 10 k.toNat ≤ r.value)
  else decide (r.denominator ≤ r.value * Nat.pow 10 (-k).toNat)

/-- The least `k` from `start` on with the value below `10 ^ k`, among the first `fuel` candidates. -/
def climb (r : ReadBack) : (fuel : Nat) → (start : Int) → Int
  | 0, k => k
  | fuel + 1, k => if r.reachesTen k then r.climb fuel (k + 1) else k

/-- The place of the decimal point: the value lies between `10 ^ (point - 1)` and `10 ^ point`. -/
def point (r : ReadBack) : Int :=
  let bits : Int := (bitLength r.value : Int) - bitLength r.denominator
  r.climb 6 ((bits * 30103).fdiv 100000 - 2)

/-- The coefficient of the value, cut off after `k` digits, as a quotient and a remainder over a divisor. -/
def cut (r : ReadBack) (place : Int) (k : Nat) : Nat × Nat × Nat :=
  let s := place - k
  let n := if 0 ≤ s then r.value else r.value * Nat.pow 10 (-s).toNat
  let d := if 0 ≤ s then r.denominator * Nat.pow 10 s.toNat else r.denominator
  (n / d, n % d, d)

/-- Whether the interval contains `c * 10 ^ s`. -/
def containsScaled (r : ReadBack) (c : Nat) (s : Int) : Bool :=
  if 0 ≤ s then r.contains (c * Nat.pow 10 s.toNat) 1 else r.contains c (Nat.pow 10 (-s).toNat)

/-- The first decimal that reads back, with `k` digits or up to `fuel` more. -/
def search (r : ReadBack) (place : Int) : (fuel k : Nat) → Nat × Int
  | 0, k => ((r.cut place k).1, place - k)
  | fuel + 1, k =>
    let s := place - k
    let (q, rest, d) := r.cut place k
    let down := r.containsScaled q s
    let up := r.containsScaled (q + 1) s
    if down && up then
      if 2 * rest < d ∨ (2 * rest = d ∧ q % 2 = 0) then (q, s) else (q + 1, s)
    else if down then (q, s)
    else if up then (q + 1, s)
    else r.search place fuel (k + 1)

end ReadBack

/-- Strips at most `fuel` trailing zeros from a coefficient, raising its power of ten for each. -/
def stripTens : (fuel n : Nat) → (e : Int) → Nat × Int
  | 0, n, e => (n, e)
  | fuel + 1, n, e => if n % 10 = 0 then stripTens fuel (n / 10) (e + 1) else (n, e)

/-- The digits of a natural number, none for zero. -/
def decimalDigits (n : Nat) : List Char := if n = 0 then [] else Nat.toDigits 10 n

/-- The shortest decimal that reads back as the value; its sign is left out. -/
def shortest (x : Binary) : Decimal :=
  if x.mantissa = 0 then ⟨0, 0⟩
  else
    let r := ReadBack.of x
    let found := r.search r.point (x.precision + 2) 1
    let s := stripTens (decimalDigits found.1).length found.1 found.2
    ⟨s.1, (decimalDigits s.1).length + s.2⟩

namespace Decimal

/-- The decimal in full, without an exponent. -/
def plain (d : Decimal) : String :=
  let digits := decimalDigits d.coefficient
  let whole := if 0 < d.point then digits.take d.point.toNat ++ List.replicate (d.point.toNat - digits.length) '0' else ['0']
  let fraction := if 0 < d.point then digits.drop d.point.toNat else List.replicate (-d.point).toNat '0' ++ digits
  String.ofList (if digits.isEmpty ∨ fraction.isEmpty then whole else whole ++ '.' :: fraction)

/-- The decimal with one digit before the point and an exponent of at least two digits. -/
def scientific (d : Decimal) : String :=
  let e := d.point - 1
  let mantissa := match decimalDigits d.coefficient with
    | [] => ['0']
    | [c] => [c]
    | c :: rest => c :: '.' :: rest
  let power := decimalDigits e.natAbs
  let padded := List.replicate (2 - power.length) '0' ++ power
  String.ofList (mantissa ++ 'e' :: (if e < 0 then '-' else '+') :: padded)

/-- The decimal in full when its exponent lies between -4 and 5, and with an exponent otherwise. -/
def general (d : Decimal) : String :=
  if d.coefficient ≠ 0 ∧ (d.point - 1 < -4 ∨ 6 ≤ d.point - 1) then d.scientific else d.plain

end Decimal

end FibTiming.Number
