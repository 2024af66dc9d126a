/-!
# The Fibonacci numbers and three ways to compute them

The sequence starts with `fib 0 = fib 1 = 1`.  The three algorithms work on 64-bit words, so they wrap past
the largest index whose number still fits, `maxIndex`, and answer `1` below zero.
-/

namespace FibTiming

/-- The `n`-th Fibonacci number, exactly. -/
def fib : Nat → Nat
  | 0 => 1
  | 1 => 1
  | n + 2 => fib (n + 1) + fib n

/-- The largest index whose Fibonacci number fits in 64 bits. -/
def maxIndex : Nat := 92

namespace Naive

/-- Plain double recursion on words. -/
def term : Nat → UInt64
  | 0 => 1
  | 1 => 1
  | n + 2 => term (n + 1) + term n

/-- The word at index `n`, by plain double recursion. -/
def compute (n : Int) : UInt64 := term n.toNat

end Naive

namespace Accumulator

/-- Shifts the pair `(a, b)` forward by `steps` terms and returns its second component. -/
def shift (a b : UInt64) : Nat → UInt64
  | 0 => b
  | steps + 1 => shift b (a + b) steps

/-- Shifts the pair `(a, b)` forward `it` times, never when `it` is not positive. -/
def accumulate (a b : UInt64) (it : Int) : UInt64 := shift a b it.toNat

/-- The word at index `n`, by one recursion that carries the last two terms. -/
def compute (n : Int) : UInt64 :=
  if n < 1 then 1 else accumulate 1 1 (n - 1)

end Accumulator

namespace Iterative

/-- The pair of running values after `steps` rounds. -/
def advance (p : UInt64 × UInt64) : Nat → UInt64 × UInt64
  | 0 => p
  | steps + 1 => advance (p.2, p.1 + p.2) steps

/-- The word at index `n`, by a loop over two running values that starts from `(0, 1)`. -/
def compute (n : Int) : UInt64 := (advance (0, 1) n.toNat).2

end Iterative

end FibTiming
