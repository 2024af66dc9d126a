import FibTiming.Fibonacci
import Mathlib.Data.Nat.Fib.Basic
import Mathlib.Tactic.NormNum.NatFib

/-!
# What the three algorithms compute

All three algorithms give the word of the same Fibonacci number, also past the largest index whose number fits and
below zero (`compute_eq`).  Up to that index the word is the number itself (`toNat_fibWord`).
-/

namespace FibTiming

/-- The word of the Fibonacci number at an index; below zero it is that of the number at zero. -/
def fibWord (n : Int) : UInt64 := UInt64.ofNat (fib n.toNat)

theorem fib_eq_natFib (n : Nat) : fib n = Nat.fib (n + 1) := by
  induction n using fib.induct with
  | case1 => rfl
  | case2 => rfl
  | case3 n ih1 ih2 =>
    rw [fib, ih1, ih2, Nat.fib_add_two (n := n + 1), Nat.add_comm]

private theorem fib_le_fib {m n : Nat} (h : m ≤ n) : fib m ≤ fib n := by
  rw [fib_eq_natFib, fib_eq_natFib]
  exact Nat.fib_mono (by omega)

/-- The numbers that fit in a word are those up to the largest index. -/
theorem fib_lt_word_iff (n : Nat) : fib n < UInt64.size ↔ n ≤ maxIndex := by
  constructor
  · intro h
    by_contra hn
    have hle : fib 93 ≤ fib n := fib_le_fib (by unfold maxIndex at hn; omega)
    have h93 : fib 93 = 19740274219868223167 := by rw [fib_eq_natFib]; norm_num
    have : UInt64.size = 18446744073709551616 := rfl
    omega
  · intro h
    have hle : fib n ≤ fib 92 := fib_le_fib h
    have h92 : fib 92 = 12200160415121876738 := by rw [fib_eq_natFib]; norm_num
    have : UInt64.size = 18446744073709551616 := rfl
    omega

/-- Up to the largest index the word is the number. -/
theorem toNat_fibWord {n : Int} (h : n ≤ maxIndex) : (fibWord n).toNat = fib n.toNat := by
  unfold fibWord
  exact UInt64.toNat_ofNat_of_lt ((fib_lt_word_iff _).2 (by omega))

/-! ### The algorithms -/

private theorem Naive.term_eq (n : Nat) : term n = UInt64.ofNat (fib n) := by
  induction n using term.induct with
  | case1 => rfl
  | case2 => rfl
  | case3 n ih1 ih2 => rw [term, fib, ih1, ih2, UInt64.ofNat_add]

/-- Two neighbouring terms, shifted forward. -/
private theorem Accumulator.shift_fib (k steps : Nat) :
    shift (UInt64.ofNat (fib k)) (UInt64.ofNat (fib (k + 1))) steps = UInt64.ofNat (fib (k + 1 + steps)) := by
  induction steps generalizing k with
  | zero => rfl
  | succ steps ih =>
    have hsum : UInt64.ofNat (fib k) + UInt64.ofNat (fib (k + 1)) = UInt64.ofNat (fib (k + 2)) := by
      rw [fib, UInt64.ofNat_add, UInt64.add_comm]
    rw [shift, hsum, ih (k + 1)]
    congr 2
    omega

/-- The second running value is the end of a shift. -/
private theorem Iterative.advance_snd (p : UInt64 × UInt64) (steps : Nat) :
    (advance p steps).2 = Accumulator.shift p.1 p.2 steps := by
  induction steps generalizing p with
  | zero => rfl
  | succ steps ih => exact ih (p.2, p.1 + p.2)

theorem Naive.compute_eq (n : Int) : compute n = fibWord n := term_eq n.toNat

theorem Accumulator.compute_eq (n : Int) : compute n = fibWord n := by
  unfold compute fibWord
  split
  · have : n.toNat = 0 := by omega
    rw [this]
    rfl
  · have hn : n.toNat = 0 + 1 + (n - 1).toNat := by omega
    rw [hn]
    exact shift_fib 0 _

theorem Iterative.compute_eq (n : Int) : compute n = fibWord n := by
  unfold compute fibWord
  -- The loop starts one term before the sequence, at the pair `(0, 1)`.
  cases n.toNat with
  | zero => rfl
  | succ k =>
    have h := Accumulator.shift_fib 0 k
    rw [show 0 + 1 + k = k + 1 by omega] at h
    rw [advance_snd]
    exact h

end FibTiming
