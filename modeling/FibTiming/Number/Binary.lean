import FibTiming.Number.Rounding

/-!
# Binary floating point of any precision

A `Binary` is a sign, a natural mantissa and a power of two, together with the number of mantissa bits that
arithmetic keeps.  `ofRatio` rounds an exact quotient to the nearest value with that many bits, ties to even;
every operation computes its exact result first and rounds once.  Exponents are unbounded.
-/

namespace FibTiming.Number

/-- The value `± mantissa * 2 ^ exponent`, kept to `precision` bits.  A value that is not zero has an odd
mantissa, so that equal values have equal fields. -/
structure Binary where
  precision : Nat
  negative : Bool
  mantissa : Nat
  exponent : Int
  odd : mantissa = 0 ∨ mantissa % 2 = 1
deriving Repr, DecidableEq

/-- The number of bits of `n`, zero for zero. -/
def bitLength (n : Nat) : Nat := if n = 0 then 0 else n.log2 + 1

/-- Strips at most `fuel` factors of two from `m`, raising the exponent for each. -/
def stripTwos : (fuel m : Nat) → (e : Int) → Nat × Int
  | 0, m, e => (m, e)
  | fuel + 1, m, e => if m % 2 = 0 then stripTwos fuel (m / 2) (e + 1) else (m, e)

/-- Enough fuel strips all factors of two. -/
theorem stripTwos_odd (fuel m : Nat) (e : Int) (hm : m ≠ 0) (hfuel : m < Nat.pow 2 fuel) :
    (stripTwos fuel m e).1 % 2 = 1 := by
  induction fuel generalizing m e with
  | zero => exact absurd (Nat.lt_one_iff.1 hfuel) hm
  | succ fuel ih =>
    have hdouble : Nat.pow 2 (fuel + 1) = Nat.pow 2 fuel * 2 := rfl
    unfold stripTwos
    split
    · exact ih (m / 2) (e + 1) (by omega) (by omega)
    · show m % 2 = 1
      omega

/-- The number of bits is enough for the number. -/
theorem lt_two_pow_bitLength (n : Nat) : n < Nat.pow 2 (bitLength n) := by
  unfold bitLength
  split
  · rename_i h
    rw [h]
    exact Nat.one_pos
  · exact Nat.lt_log2_self

namespace Binary

/-- The zero of a sign. -/
def zero (precision : Nat) (negative : Bool) : Binary := ⟨precision, negative, 0, 0, .inl rfl⟩

instance : Inhabited Binary := ⟨zero 0 false⟩

/-- The value `± m * 2 ^ e` with an odd mantissa. -/
def normalize (precision : Nat) (negative : Bool) (m : Nat) (e : Int) : Binary :=
  if h : m = 0 then zero precision negative
  else
    ⟨precision, negative, (stripTwos (bitLength m) m e).1, (stripTwos (bitLength m) m e).2,
      .inr (stripTwos_odd _ m e h (lt_two_pow_bitLength m))⟩

/-- The value `± (num / den) * 2 ^ e` rounded to `precision` bits, ties to the even mantissa. -/
def ofScaledRatio (precision : Nat) (negative : Bool) (num den : Nat) (e : Int) : Binary :=
  if num = 0 then zero precision negative
  else
    -- A shift after which the quotient has `precision` or `precision + 1` bits.
    let s : Int := (precision : Int) + bitLength den - bitLength num
    let shifted (k : Int) : Nat × Nat :=
      if 0 ≤ k then (num <<< k.toNat, den) else (num, den <<< (-k).toNat)
    let q := shifted s
    let k := if bitLength (q.1 / q.2) ≤ precision then s else s - 1
    let p := shifted k
    normalize precision negative (roundDiv p.1 p.2) (e - k)

/-- The value `± num / den` rounded to `precision` bits. -/
def ofRatio (precision : Nat) (negative : Bool) (num den : Nat) : Binary :=
  ofScaledRatio precision negative num den 0

/-- The integer `n` rounded to `precision` bits. -/
def ofInt (precision : Nat) (n : Int) : Binary :=
  ofRatio precision (n < 0) n.natAbs 1

/-- The signed mantissa. -/
def signedMantissa (x : Binary) : Int :=
  if x.negative then -(x.mantissa : Int) else x.mantissa

/-- The numerator and the denominator of the absolute value. -/
def ratio (x : Binary) : Nat × Nat :=
  if 0 ≤ x.exponent then (x.mantissa <<< x.exponent.toNat, 1)
  else (x.mantissa, 1 <<< (-x.exponent).toNat)

/-- Whether the value is an integer. -/
def isInt (x : Binary) : Bool := decide (0 ≤ x.exponent)

/-- The value rounded towards zero to an integer. -/
def truncate (x : Binary) : Int :=
  let a : Nat := x.ratio.1 / x.ratio.2
  if x.negative then -(a : Int) else a

/-- Both values as integers over one power of two. -/
def align (x y : Binary) : Int × Int × Int :=
  let e := min x.exponent y.exponent
  (x.signedMantissa * Nat.pow 2 (x.exponent - e).toNat, y.signedMantissa * Nat.pow 2 (y.exponent - e).toNat, e)

/-- The same value rounded to another precision. -/
def withPrecision (precision : Nat) (x : Binary) : Binary :=
  ofScaledRatio precision x.negative x.mantissa 1 x.exponent

/-- The opposite value; the opposite of zero is the zero of the other sign. -/
def neg (x : Binary) : Binary := { x with negative := !x.negative }

/-- The sum, rounded to `precision` bits.  An exact zero is positive unless both summands are negative zeros. -/
def addTo (precision : Nat) (x y : Binary) : Binary :=
  let a := align x y
  let s := a.1 + a.2.1
  if s = 0 then zero precision (x.negative && y.negative && x.mantissa == 0 && y.mantissa == 0)
  else ofScaledRatio precision (s < 0) s.natAbs 1 a.2.2

/-- The product, rounded to `precision` bits. -/
def mulTo (precision : Nat) (x y : Binary) : Binary :=
  ofScaledRatio precision (x.negative != y.negative) (x.mantissa * y.mantissa) 1 (x.exponent + y.exponent)

/-- The quotient by a value that is not zero, rounded to `precision` bits. -/
def divTo (precision : Nat) (x y : Binary) : Binary :=
  ofScaledRatio precision (x.negative != y.negative) x.mantissa y.mantissa (x.exponent - y.exponent)

/-- Whether `x` is below `y`. -/
def blt (x y : Binary) : Bool :=
  let a := align x y
  decide (a.1 < a.2.1)

end Binary

end FibTiming.Number
