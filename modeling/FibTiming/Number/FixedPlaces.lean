import FibTiming.Number.Binary

/-!
# Fixed numbers of decimal places

The decimal text of a binary value with a given number of places, rounded from the exact value with ties to the
even digit.  The sign of a negative value stays when all its digits are zero.
-/

namespace FibTiming.Number

/-- The digits of `n` with a point before the last `places` of them. -/
def withPoint (places n : Nat) : String :=
  if places = 0 then toString n
  else
    let digits := (Nat.toDigits 10 n)
    let padded := List.replicate (places + 1 - digits.length) '0' ++ digits
    let whole := padded.length - places
    String.ofList (padded.take whole) ++ "." ++ String.ofList (padded.drop whole)

/-- The value with `places` decimal places. -/
def Binary.fixed (places : Nat) (x : Binary) : String :=
  let r := x.ratio
  let text := withPoint places (roundDiv (r.1 * Nat.pow 10 places) r.2)
  if x.negative then "-" ++ text else text

end FibTiming.Number
