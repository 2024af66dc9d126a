import FibTiming.Proofs.Fibonacci
import FibTiming.Runner

/-!
# Known algorithms

A suite passes the registry's check when all its algorithms are registered, and what is registered can be looked up.
The three algorithms of the program compute the word of the Fibonacci number.
-/

namespace FibTiming

namespace Registry

theorem checkSuite_eq_ok_iff (r : Registry) (s : Suite) :
    r.checkSuite s = .ok () ↔ ∀ b ∈ s.benchmarks, b.algorithm ∈ r.names := by
  have hunknown : r.unknown s = [] ↔ ∀ b ∈ s.benchmarks, b.algorithm ∈ r.names := by
    simp [unknown, List.filter_eq_nil_iff]
  rw [← hunknown]
  unfold checkSuite
  split
  · rename_i h
    simp [h]
  · rename_i h
    simpa using h

theorem exists_lookup {r : Registry} {name : String} (h : name ∈ r.names) :
    ∃ a ∈ r.algorithms, r.lookup name = .ok a := by
  unfold lookup
  cases hf : r.find? name with
  | some a => exact ⟨a, List.mem_of_find?_eq_some hf, rfl⟩
  | none =>
    obtain ⟨a, ha, hn⟩ := List.mem_map.1 h
    have := List.find?_eq_none.1 hf a ha
    simp [hn] at this

theorem mem_names_of_lookup {r : Registry} {name : String} {a : Algorithm} (h : r.lookup name = .ok a) :
    name ∈ r.names := by
  unfold lookup at h
  cases hf : r.find? name with
  | some a =>
    have hn := List.find?_some hf
    exact List.mem_map.2 ⟨a, List.mem_of_find?_eq_some hf, by simpa using hn⟩
  | none => simp [hf] at h

theorem core_names : core.names = ["accumulator", "iterative", "naive"] := rfl

/-- Every algorithm of the program computes the word of the Fibonacci number. -/
theorem core_computation {a : Algorithm} (h : a ∈ core.algorithms) : a.computation = .ofFunction fibWord := by
  have hall : core.algorithms.map (·.computation) =
      [.ofFunction Accumulator.compute, .ofFunction Iterative.compute, .ofFunction Naive.compute] := rfl
  have hmem := List.mem_map_of_mem (f := (·.computation)) h
  rw [hall, funext Accumulator.compute_eq, funext Iterative.compute_eq, funext Naive.compute_eq] at hmem
  simpa using hmem

end Registry

namespace ClockKind

/-- The names of the clocks and the empty name, which stands for the program's processor time. -/
def names : List String := ["", "process", "thread", "wall"]

theorem ofName?_isSome_iff (s : String) : (ofName? s).isSome ↔ s ∈ names := by
  unfold ofName? names
  by_cases h1 : s = "" <;> by_cases h2 : s = "process" <;> by_cases h3 : s = "thread" <;> by_cases h4 : s = "wall" <;>
    simp [h1, h2, h3, h4]

end ClockKind

namespace Runner

/-- A runner with a clock that exists runs every suite on a clock that exists. -/
theorem clockFor_make {clock : String} (h : clock ∈ ClockKind.names) (registry : Registry) (workers : Int)
    (size : Nat) : (make registry clock workers).clockFor size ∈ ClockKind.names := by
  unfold clockFor
  split
  · simp [ClockKind.names, ClockKind.name]
  · show (if clock = "" then ClockKind.process.name else clock) ∈ _
    split
    · simp [ClockKind.names, ClockKind.name]
    · exact h

theorem workers_make_pos (registry : Registry) (clock : String) (workers : Int) :
    0 < (make registry clock workers).workers.toNat := by
  show 0 < (if workers < 1 then 1 else workers : Int).toNat
  split <;> omega

theorem lookup_of_prepare {r : Runner} {b : Benchmark} {clock : String} {a : Algorithm} {k : ClockKind}
    (h : r.prepare b clock = .ok (a, k)) : r.registry.lookup b.algorithm = .ok a := by
  unfold prepare at h
  by_cases hn : b.n < 0 ∨ b.n > maxIndex
  · simp [hn] at h
  · cases hl : r.registry.lookup b.algorithm with
    | error e => simp [hn, hl] at h
    | ok a' =>
      cases hk : ClockKind.ofName? clock with
      | none => simp [hn, hl, hk] at h
      | some k' =>
        simp only [hn, ↓reduceIte, hl, hk, Except.ok.injEq, Prod.mk.injEq] at h
        rw [h.1]

/-- Nothing prevents a benchmark in range, with a known algorithm and a clock that exists, from being called. -/
theorem exists_prepare (r : Runner) {b : Benchmark} {clock : String} (hn : 0 ≤ b.n ∧ b.n ≤ maxIndex)
    (ha : b.algorithm ∈ r.registry.names) (hc : clock ∈ ClockKind.names) :
    ∃ a ∈ r.registry.algorithms, ∃ k, r.prepare b clock = .ok (a, k) := by
  obtain ⟨a, hmem, hlookup⟩ := Registry.exists_lookup ha
  obtain ⟨k, hk⟩ := Option.isSome_iff_exists.1 ((ClockKind.ofName?_isSome_iff clock).2 hc)
  have hrange : ¬ (b.n < 0 ∨ b.n > maxIndex) := by omega
  refine ⟨a, hmem, k, ?_⟩
  simp only [prepare, hrange, ↓reduceIte, hlookup, hk]

end Runner

end FibTiming
