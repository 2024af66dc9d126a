/-!
# Sets of characters given by their boundaries

A property of characters is stored as the increasing list of code points at which it changes: it is false
before the first boundary, true up to the second, and so on.  A character has the property exactly when an odd
number of boundaries do not exceed it, and that number is found by bisection.
-/

namespace FibTiming.Text

/-- A set of characters, as the increasing code points at which membership changes. -/
structure CharRanges where
  /-- The code points at which membership changes, in increasing order. -/
  bounds : Array Nat

namespace CharRanges

/-- How many of the boundaries at the positions from `lo` up to `hi` do not exceed `c`, counted from the front;
the boundaries before `lo` are known not to exceed `c`, those from `hi` on are known to exceed it. -/
def countUpTo (bounds : Array Nat) (c lo hi : Nat) : Nat :=
  if _h : lo < hi then
    let mid := (lo + hi) / 2
    match bounds[mid]? with
    | none => lo
    | some b =>
      if b ≤ c then countUpTo bounds c (mid + 1) hi
      else countUpTo bounds c lo mid
  else lo
termination_by hi - lo

/-- Whether the code point `c` belongs to the set. -/
def containsCode (r : CharRanges) (c : Nat) : Bool :=
  countUpTo r.bounds c 0 r.bounds.size % 2 == 1

/-- Whether the character `c` belongs to the set. -/
def contains (r : CharRanges) (c : Char) : Bool :=
  r.containsCode c.toNat

end CharRanges

end FibTiming.Text
