import FibTiming.Proofs.Fibonacci
import Mathlib.Logic.Function.Iterate

/-!
# Shifted pairs

A pair of words that is shifted forward stays a combination of the words it started from, with two neighbouring
Fibonacci numbers as coefficients (`Accumulator.shift_succ_eq`).  So shifting is linear, and it can be interrupted after
any number of steps and taken up again from the pair that has been reached (`Accumulator.accumulate_combines`).
-/

namespace FibTiming.Accumulator

/-- The pair one term further on. -/
def next (p : UInt64 × UInt64) : UInt64 × UInt64 := (p.2, p.1 + p.2)

private theorem ofNat_fib_add_two (k : Nat) :
    UInt64.ofNat (fib (k + 2)) = UInt64.ofNat (fib (k + 1)) + UInt64.ofNat (fib k) := by
  rw [fib, UInt64.ofNat_add]

/-! ### Shifts -/

/-- After at least one step, both words count as often as two neighbouring Fibonacci numbers say. -/
theorem shift_succ_eq (a b : UInt64) (steps : Nat) :
    shift a b (steps + 1) = UInt64.ofNat (fib steps) * a + UInt64.ofNat (fib (steps + 1)) * b := by
  induction steps generalizing a b with
  | zero => simp [shift, fib]
  | succ steps ih =>
    rw [shift, ih b (a + b), ofNat_fib_add_two]
    grind

private theorem shift_linear (c d a b a' b' : UInt64) (steps : Nat) :
    shift (c * a + d * a') (c * b + d * b') steps = c * shift a b steps + d * shift a' b' steps := by
  cases steps with
  | zero => rfl
  | succ steps =>
    simp only [shift_succ_eq]
    grind

/-- A shift goes on from the pair that some steps lead to. -/
theorem shift_iterate_next (p : UInt64 × UInt64) (s t : Nat) :
    shift (next^[s] p).1 (next^[s] p).2 t = shift p.1 p.2 (s + t) := by
  induction s generalizing p with
  | zero => rw [Function.iterate_zero_apply, Nat.zero_add]
  | succ s ih => rw [Function.iterate_succ_apply, ih, Nat.add_right_comm, shift, next]

/-- The second word of the pair is the end of a shift, and the first word is the second one of the step before. -/
private theorem iterate_succ_next (p : UInt64 × UInt64) (s : Nat) :
    next^[s + 1] p = (shift p.1 p.2 s, shift p.1 p.2 (s + 1)) := by
  have hend : ∀ k, (next^[k] p).2 = shift p.1 p.2 k := fun k => shift_iterate_next p k 0
  rw [← hend, ← hend, Function.iterate_succ_apply']
  rfl

/-! ### Any number of steps -/

private theorem accumulate_natCast (a b : UInt64) (steps : Nat) : accumulate a b steps = shift a b steps := rfl

private theorem accumulate_of_nonpos (a b : UInt64) {it : Int} (h : it ≤ 0) : accumulate a b it = b := by
  rw [accumulate, Int.toNat_of_nonpos h, shift]

private theorem toNat_accumulate (a b : UInt64) {it : Int} (h : 1 ≤ it) :
    (accumulate a b it).toNat = (fib (it - 1).toNat * a.toNat + fib it.toNat * b.toNat) % 2 ^ 64 := by
  obtain ⟨steps, rfl⟩ : ∃ steps : Nat, it = (steps + 1 : Nat) := ⟨(it - 1).toNat, by omega⟩
  have hbefore : ((steps + 1 : Nat) - 1 : Int).toNat = steps := by omega
  rw [accumulate_natCast, shift_succ_eq, hbefore, Int.toNat_natCast]
  simp only [UInt64.toNat_add, UInt64.toNat_mul, UInt64.toNat_ofNat', Nat.mod_mul_mod, Nat.add_mod_mod,
    Nat.mod_add_mod]

/-- Without a positive number of steps the second word is given back.  Otherwise the two words are added as often as two
neighbouring Fibonacci numbers say, modulo the number of words.  So the outcome is linear in the two words, and it does
not matter whether a number of steps is made at once or in two parts. -/
theorem accumulate_combines (a b : UInt64) :
    (∀ it : Int, it ≤ 0 → accumulate a b it = b) ∧
    (∀ it : Int, 1 ≤ it →
      (accumulate a b it).toNat = (fib (it - 1).toNat * a.toNat + fib it.toNat * b.toNat) % 2 ^ 64) ∧
    (∀ (it : Int) (c d a' b' : UInt64),
      accumulate (c * a + d * a') (c * b + d * b') it = c * accumulate a b it + d * accumulate a' b' it) ∧
    ∀ s t : Nat,
      next^[s + 1] (a, b) = (accumulate a b s, accumulate a b (s + 1)) ∧
      accumulate (next^[s] (a, b)).1 (next^[s] (a, b)).2 t = accumulate a b (s + t) := by
  refine ⟨fun _ => accumulate_of_nonpos a b, fun _ => toNat_accumulate a b, ?_, fun s t => ⟨?_, ?_⟩⟩
  · intro it c d a' b'
    exact shift_linear c d a b a' b' it.toNat
  · exact iterate_succ_next (a, b) s
  · exact shift_iterate_next (a, b) s t

/-- A hundred steps from the largest words, where the sum has long left the range of words. -/
theorem accumulate_combines_wrapped :
    (1 : Int) ≤ 100 ∧ 2 ^ 64 < fib 99 ∧
      (accumulate 18446744073709551615 18446744073709551615 100).toNat = 13411255566108133240 ∧
      accumulate 3 7 (-1) = 7 := by
  obtain ⟨-, hsum, -⟩ := accumulate_combines 18446744073709551615 18446744073709551615
  have h99 : fib 99 = 354224848179261915075 := by rw [fib_eq_natFib]; norm_num
  have h100 : fib 100 = 573147844013817084101 := by rw [fib_eq_natFib]; norm_num
  refine ⟨by decide, ?_, ?_, (accumulate_combines 3 7).1 (-1) (by decide)⟩
  · rw [h99]
    norm_num
  · rw [hsum 100 (by decide)]
    show (fib 99 * 18446744073709551615 + fib 100 * 18446744073709551615) % 2 ^ 64 = _
    rw [h99, h100]
    norm_num

end FibTiming.Accumulator
