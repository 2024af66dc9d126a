import FibTiming.Proofs.Fibonacci
import FibTiming.Proofs.Validation

/-!
# Where the algorithms are exact

The three algorithms give the same word at every index.  It is the exact Fibonacci number up to the largest index and
a wrong number at every index past it (`toNat_fibWord_eq_iff`), and these are the indices that the check of a benchmark
refuses because of an overflow (`algorithms_agree`).
-/

namespace FibTiming

private theorem toNat_fibWord_mod (n : Int) : (fibWord n).toNat = fib n.toNat % 2 ^ 64 := UInt64.toNat_ofNat'

private theorem fibWord_of_neg {n : Int} (h : n < 0) : fibWord n = 1 := by
  have hzero : n.toNat = 0 := by omega
  rw [fibWord, hzero]
  rfl

/-- Past the largest index no word is the number. -/
theorem toNat_fibWord_eq_iff (n : Int) : (fibWord n).toNat = fib n.toNat ↔ n ≤ maxIndex := by
  constructor
  · intro h
    have hfits : fib n.toNat < UInt64.size := h ▸ (fibWord n).toNat_lt_size
    have hle := (fib_lt_word_iff n.toNat).1 hfits
    omega
  · exact toNat_fibWord

namespace Benchmark

private theorem headFault_eq_overflow_iff (b : Benchmark) (name : String) (n : Int) :
    b.headFault = some (.overflow name n) ↔
      (name = b.name ∧ n = b.n) ∧ b.name ≠ "" ∧ b.algorithm ≠ "" ∧ b.n > maxIndex := by
  unfold headFault
  by_cases hname : b.name = ""
  · simp [hname]
  · by_cases halgorithm : b.algorithm = ""
    · simp [hname, halgorithm]
    · by_cases hneg : b.n < 0
      · have hle : ¬ b.n > maxIndex := by omega
        simp [hname, halgorithm, hneg, hle]
      · by_cases hmax : b.n > maxIndex
        · simp [hname, halgorithm, hneg, hmax, eq_comm]
        · simp [hname, halgorithm, hneg, hmax]

/-- A check reports an overflow when the name and the algorithm are there and the index is too large. -/
theorem check_fault_eq_overflow_iff (b : Benchmark) (name : String) (n : Int) :
    b.check.fault = some (.overflow name n) ↔
      (name = b.name ∧ n = b.n) ∧ b.name ≠ "" ∧ b.algorithm ≠ "" ∧ b.n > maxIndex := by
  rw [← headFault_eq_overflow_iff]
  unfold check
  cases hh : b.headFault with
  | some f => rfl
  | none =>
    -- The checks of the unit and of the repetitions report faults of their own.
    cases TimeUnit.ofName? b.unit with
    | none => simp
    | some u =>
      by_cases hneg : b.repetitions < 0
      · simp [hneg]
      · by_cases hzero : b.repetitions = 0 <;> simp [hneg, hzero]

end Benchmark

/-- The three algorithms agree at every index.  They give the Fibonacci number modulo the number of words, and `1`
below zero.  The number fits in a word, so that it is given exactly, up to the largest index and nowhere past it.  A
benchmark with a name and an algorithm is refused for an overflow when its index is not negative and the algorithms are
wrong there, and no benchmark with such an index passes its check. -/
theorem algorithms_agree (n : Int) :
    (Accumulator.compute n = Naive.compute n ∧ Iterative.compute n = Naive.compute n) ∧
    (0 ≤ n → (Naive.compute n).toNat = fib n.toNat % 2 ^ 64) ∧
    (n < 0 → Naive.compute n = 1) ∧
    (0 ≤ n → (fib n.toNat < 2 ^ 64 ↔ n ≤ maxIndex)) ∧
    (0 ≤ n → ((Naive.compute n).toNat = fib n.toNat ↔ n ≤ maxIndex)) ∧
    ∀ b : Benchmark, b.n = n →
      ((∃ name i, b.check.fault = some (.overflow name i)) ↔
        (b.name ≠ "" ∧ b.algorithm ≠ "") ∧ 0 ≤ n ∧ (Naive.compute n).toNat ≠ fib n.toNat) ∧
      (0 ≤ n → (Naive.compute n).toNat ≠ fib n.toNat → b.check.fault ≠ none) := by
  rw [Accumulator.compute_eq, Iterative.compute_eq, Naive.compute_eq]
  refine ⟨⟨rfl, rfl⟩, fun _ => toNat_fibWord_mod n, fibWord_of_neg, fun h => ?_, fun _ => toNat_fibWord_eq_iff n, ?_⟩
  · have hfits := fib_lt_word_iff n.toNat
    have hindex : n.toNat ≤ maxIndex ↔ n ≤ maxIndex := by omega
    rwa [hindex] at hfits
  · rintro b rfl
    have hwrong : (fibWord b.n).toNat ≠ fib b.n.toNat ↔ ¬ b.n ≤ maxIndex := (toNat_fibWord_eq_iff b.n).not
    rw [hwrong]
    constructor
    · constructor
      · rintro ⟨name, i, hfault⟩
        obtain ⟨_, hname, halgorithm, hmax⟩ := (b.check_fault_eq_overflow_iff name i).1 hfault
        exact ⟨⟨hname, halgorithm⟩, by omega, by omega⟩
      · rintro ⟨⟨hname, halgorithm⟩, _, hmax⟩
        exact ⟨b.name, b.n, (b.check_fault_eq_overflow_iff _ _).2 ⟨⟨rfl, rfl⟩, hname, halgorithm, by omega⟩⟩
    · intro _ hmax hnone
      exact hmax (b.check_fault_eq_none_iff.1 hnone).le_maxIndex

/-- The first index past the largest one, where all three algorithms wrap. -/
theorem algorithms_agree_wrapped :
    (Naive.compute 93).toNat = 1293530146158671551 ∧ Iterative.compute 93 = Naive.compute 93 ∧
      (Naive.compute 93).toNat ≠ fib 93 ∧ Naive.compute (-1) = 1 ∧
      ∃ name i, (Benchmark.mk "big" "naive" 93 0 "" 0).check.fault = some (.overflow name i) := by
  obtain ⟨⟨_, hagree⟩, hmod, _, _, hexact, hcheck⟩ := algorithms_agree 93
  have hfib : fib 93 = 19740274219868223167 := by rw [fib_eq_natFib]; norm_num
  have hwrong : (Naive.compute 93).toNat ≠ fib 93 := fun h => absurd ((hexact (by decide)).1 h) (by decide)
  refine ⟨?_, hagree, hwrong, (algorithms_agree (-1)).2.2.1 (by decide), ?_⟩
  · rw [hmod (by decide)]
    show fib 93 % 2 ^ 64 = _
    rw [hfib]
    norm_num
  · exact (hcheck ⟨"big", "naive", 93, 0, "", 0⟩ rfl).1.2 ⟨⟨by decide, by decide⟩, by decide, hwrong⟩

end FibTiming
