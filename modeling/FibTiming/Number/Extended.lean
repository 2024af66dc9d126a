import FibTiming.Number.Shortest

/-!
# Numbers with infinities

The numbers of suite files: binary floating point values of some precision, and the two infinities.  Values whose
exponent leaves the 32-bit range become infinite or zero.  An operation without a meaningful result is an error of
its own kind.
-/

namespace FibTiming.Number

/-- A finite value or an infinity; an infinity keeps the precision of the operation it came from. -/
inductive Extended where
  | finite (x : Binary)
  | infinite (precision : Nat) (negative : Bool)
deriving Repr, DecidableEq, Inhabited

/-- The operations that can fail on infinities and zeros. -/
inductive ArithmeticError where
  | sum
  | difference
  | product
  | quotient
  | remainder
deriving Repr, DecidableEq, Inhabited

/-- The wording of an arithmetic error. -/
def ArithmeticError.message : ArithmeticError → String
  | sum => "can't compute sum of opposing infinities"
  | difference => "can't subtract infinity from itself"
  | product => "can't multiply zero by infinity"
  | quotient => "can't divide zero by zero or infinity by infinity"
  | remainder => "can't use modulo with zero and infinity"

namespace Extended

/-- The precision of numbers read from text. -/
def textPrecision : Nat := 512

/-- The precision of counted positions. -/
def wordPrecision : Nat := 64

/-- The largest exponent of a finite value. -/
def maxExponent : Int := 2147483647

/-- A value within the range of exponents: a larger one is infinite, a smaller one zero. -/
def clamp (x : Binary) : Extended :=
  if x.mantissa = 0 then .finite x
  else
    let e : Int := x.exponent + bitLength x.mantissa
    if maxExponent < e then .infinite x.precision x.negative
    else if e < -maxExponent - 1 then .finite (.zero x.precision x.negative)
    else .finite x

/-- A counted position. -/
def ofNat (n : Nat) : Extended := .finite (Binary.ofInt wordPrecision n)

/-- The number of bits that operations on the value keep. -/
def precision : Extended → Nat
  | finite x => x.precision
  | infinite p _ => p

/-- Whether the sign is negative. -/
def negative : Extended → Bool
  | finite x => x.negative
  | infinite _ s => s

/-- Whether the value is a zero of either sign. -/
def isZero : Extended → Bool
  | finite x => x.mantissa == 0
  | infinite _ _ => false

/-- Whether the value is an integer. -/
def isInt : Extended → Bool
  | finite x => x.mantissa == 0 || x.isInt
  | infinite _ _ => false

/-- The value as an integer between the given bounds, if it is one. -/
def toIntBetween? (lo hi : Int) : Extended → Option Int
  | infinite _ _ => none
  | finite x =>
    if x.mantissa = 0 then (if lo ≤ 0 ∧ 0 ≤ hi then some 0 else none)
    else if !x.isInt then none
    else if max (bitLength lo.natAbs) (bitLength hi.natAbs) < bitLength x.mantissa + x.exponent.toNat then none
    else
      let n := x.truncate
      if lo ≤ n ∧ n ≤ hi then some n else none

/-- The opposite value. -/
def neg : Extended → Extended
  | finite x => .finite x.neg
  | infinite p s => .infinite p (!s)

/-- The sum, at the larger precision of the two; `e` is the error of opposing infinities. -/
def addOr (e : ArithmeticError) (x y : Extended) : Except ArithmeticError Extended :=
  let p := max x.precision y.precision
  match x, y with
  | finite a, finite b => .ok (clamp (Binary.addTo p a b))
  | infinite _ s, finite _ => .ok (.infinite p s)
  | finite _, infinite _ s => .ok (.infinite p s)
  | infinite _ s, infinite _ t => if s = t then .ok (.infinite p s) else .error e

/-- The sum. -/
def add (x y : Extended) : Except ArithmeticError Extended := addOr .sum x y

/-- The difference. -/
def sub (x y : Extended) : Except ArithmeticError Extended := addOr .difference x y.neg

/-- The product, at the larger precision of the two or at that which the exact product needs, up to the precision
of numbers read from text. -/
def mul (x y : Extended) : Except ArithmeticError Extended :=
  let p := max x.precision y.precision
  let s := x.negative != y.negative
  match x, y with
  | finite a, finite b =>
    let exact := Binary.mulTo textPrecision a b
    .ok (clamp (Binary.withPrecision (max p (bitLength exact.mantissa)) exact))
  | _, _ => if x.isZero || y.isZero then .error .product else .ok (.infinite p s)

/-- The quotient, at the larger precision of the two. -/
def div (x y : Extended) : Except ArithmeticError Extended :=
  let p := max x.precision y.precision
  let s := x.negative != y.negative
  match x, y with
  | finite a, finite b =>
    if b.mantissa = 0 then (if a.mantissa = 0 then .error .quotient else .ok (.infinite p s))
    else .ok (clamp (Binary.divTo p a b))
  | infinite _ _, finite _ => .ok (.infinite p s)
  | finite _, infinite _ _ => .ok (.finite (.zero p s))
  | infinite _ _, infinite _ _ => .error .quotient

/-- The remainder `x - y * q` for the quotient `q` rounded towards zero, at the precision of `x`; the remainder by
zero is `x`, and with an infinity it is infinite as the product is. -/
def mod (x y : Extended) : Except ArithmeticError Extended :=
  match x, y with
  | finite a, finite b =>
    if b.mantissa = 0 then .ok x
    else
      let p := a.precision
      let q := (Binary.divTo (max p b.precision) a b).truncate
      let part := Binary.mulTo p b (Binary.ofInt p q)
      .ok (clamp (Binary.addTo p a part.neg))
  | _, _ => (x.mul y).mapError fun _ => .remainder

/-- Whether `x` is below `y`. -/
def blt (x y : Extended) : Bool :=
  match x, y with
  | finite a, finite b => a.blt b
  | infinite _ s, finite _ => s
  | finite _, infinite _ s => !s
  | infinite _ s, infinite _ t => s && !t

/-- The sign, the digits and the form of a number's text. -/
def textBy (form : Decimal → String) : Extended → String
  | finite x => (if x.negative then "-" else "") ++ form (shortest x)
  | infinite _ s => if s then "-Inf" else "+Inf"

/-- The shortest text without an exponent. -/
def plainText : Extended → String := textBy Decimal.plain

/-- The shortest text, with an exponent for very large and very small numbers. -/
def generalText : Extended → String := textBy Decimal.general

/-- Whether two numbers are the same: both zero, or of the same text. -/
def same (x y : Extended) : Bool :=
  (x.isZero && y.isZero) || (!x.isZero && !y.isZero && x.plainText == y.plainText)

end Extended

end FibTiming.Number
