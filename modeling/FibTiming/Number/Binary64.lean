import FibTiming.Number.Binary

/-!
# Double precision

The values that durations scale to fit in the normal range of double precision, so a `Binary` of 53 bits is a
double there.
-/

namespace FibTiming.Number

/-- The number of mantissa bits of a double. -/
def doublePrecision : Nat := 53

/-- The integer `n` as a double. -/
def double (n : Int) : Binary := Binary.ofInt doublePrecision n

end FibTiming.Number
