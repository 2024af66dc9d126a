import FibTiming.Number.Extended

/-!
# Reading numerals

A numeral is an optional sign, digits with at most one point among or around them, and an optional exponent: after
`e` a power of ten, after `p` a power of two.  `Inf` and `inf` are infinite.  A numeral is read to 512 bits: its
digits are taken exactly, and one division or multiplication by a power of five is rounded.
-/

namespace FibTiming.Number

/-- The value of a list of digits, after the digits read so far. -/
def digitsValue (start : Nat) (ds : List Char) : Nat :=
  ds.foldl (fun n c => 10 * n + (c.toNat - 48)) start

/-- Splits an optional sign off; the flag says whether it was a minus. -/
def splitSign : List Char → Bool × List Char
  | '+' :: rest => (false, rest)
  | '-' :: rest => (true, rest)
  | cs => (false, cs)

/-- The largest 64-bit signed integer. -/
def maxInt64 : Nat := 9223372036854775807

/-- A signed integer of 64 bits in decimal digits. -/
def readExponent? (cs : List Char) : Option Int :=
  let (minus, ds) := splitSign cs
  if ds.isEmpty || !ds.all Char.isDigit then none
  else
    let n := digitsValue 0 ds
    if minus then (if n ≤ maxInt64 + 1 then some (-(n : Int)) else none)
    else if n ≤ maxInt64 then some n else none

/-- The precision to which powers of five are multiplied up. -/
def powerPrecision : Nat := 576

/-- The precision to which the factors of a power of five are squared. -/
def factorPrecision : Nat := 640

/-- The product of `z` with the powers `f ^ (2 ^ i)` for the bits `i` of `n`. -/
def powerLoop : (fuel n : Nat) → (z f : Binary) → Binary
  | 0, _, z, _ => z
  | fuel + 1, n, z, f =>
    if n = 0 then z
    else
      let z := if n % 2 = 1 then Binary.mulTo powerPrecision z f else z
      powerLoop fuel (n / 2) z (Binary.mulTo factorPrecision f f)

/-- The power `5 ^ n`: exactly up to 27, and from there by repeated squaring. -/
def fivePower (n : Nat) : Binary :=
  if n ≤ 27 then Binary.ofInt powerPrecision (Nat.pow 5 n)
  else powerLoop (bitLength n) (n - 27) (Binary.ofInt powerPrecision (Nat.pow 5 27)) (Binary.ofInt factorPrecision 5)

/-- The number `± m * 5 ^ exp5 * 2 ^ exp2`, or none when the exponent leaves the 32-bit range. -/
def assemble (negative : Bool) (m : Nat) (exp5 exp2 : Int) : Option Extended :=
  let p := Extended.textPrecision
  if m = 0 then some (.finite (.zero p negative))
  else
    let e := exp2 + bitLength m
    if e < -Extended.maxExponent - 1 ∨ Extended.maxExponent < e then none
    else
      let five := fivePower exp5.natAbs
      some (Extended.clamp
        (if exp5 < 0 then Binary.ofScaledRatio p negative m five.mantissa (exp2 - five.exponent)
        else Binary.ofScaledRatio p negative (m * five.mantissa) 1 (exp2 + five.exponent)))

/-- The number of an exponent part, with its base: nothing, a power of ten or a power of two. -/
def readPower? : List Char → Option (Int × Int)
  | [] => some (0, 0)
  | c :: rest =>
    if c = 'e' ∨ c = 'E' then (readExponent? rest).map fun e => (e, e)
    else if c = 'p' ∨ c = 'P' then (readExponent? rest).map fun e => (0, e)
    else none

/-- The number written by an unsigned numeral. -/
def readUnsigned? (negative : Bool) (cs : List Char) : Option Extended :=
  let whole := cs.takeWhile Char.isDigit
  let rest := cs.dropWhile Char.isDigit
  let (fraction, rest) := match rest with
    | '.' :: more => (more.takeWhile Char.isDigit, more.dropWhile Char.isDigit)
    | _ => ([], rest)
  if whole.isEmpty && fraction.isEmpty then none
  else
    match readPower? rest with
    | none => none
    | some (p5, p2) =>
      let shift : Int := fraction.length
      assemble negative (digitsValue (digitsValue 0 whole) fraction) (p5 - shift) (p2 - shift)

/-- The number written by a numeral. -/
def readNumeral? (s : String) : Option Extended :=
  let (minus, body) := splitSign s.toList
  if body = ['I', 'n', 'f'] ∨ body = ['i', 'n', 'f'] then some (.infinite Extended.textPrecision minus)
  else readUnsigned? minus body

end FibTiming.Number
