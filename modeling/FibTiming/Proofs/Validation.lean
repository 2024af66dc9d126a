import FibTiming.Suite
import Mathlib.Data.List.Nodup

/-!
# What the checks accept

A benchmark passes its check when its fields are in range (`Benchmark.Valid`), and a suite when all its benchmarks do
and no name occurs twice.  A check that passes only fills in the unit and the repetitions (`Benchmark.filledIn`).
-/

namespace FibTiming

/-- The names of the units and the empty name, which stands for the default. -/
def TimeUnit.names : List String := ["", "ns", "us", "ms", "s"]

theorem TimeUnit.ofName?_eq_none_iff (s : String) : ofName? s = none ↔ s ∉ names := by
  unfold ofName? names
  by_cases h1 : s = "" <;> by_cases h2 : s = "ns" <;> by_cases h3 : s = "us" <;> by_cases h4 : s = "ms" <;>
    by_cases h5 : s = "s" <;> simp [h1, h2, h3, h4, h5]

/-- A unit is filled in only when none was named. -/
theorem TimeUnit.name_of_ofName? {s : String} {u : TimeUnit} (h : ofName? s = some u) :
    u.name = if s = "" then "ms" else s := by
  unfold ofName? at h
  repeat' split at h
  all_goals simp_all [TimeUnit.name, TimeUnit.default]
  all_goals subst h; rfl

namespace Benchmark

/-- All fields of the benchmark are in range. -/
structure Valid (b : Benchmark) : Prop where
  name : b.name ≠ ""
  algorithm : b.algorithm ≠ ""
  nonneg : 0 ≤ b.n
  le_maxIndex : b.n ≤ maxIndex
  unit : b.unit ∈ TimeUnit.names
  repetitions : 0 ≤ b.repetitions

/-- The benchmark with the default unit and a single repetition where they were left out. -/
def filledIn (b : Benchmark) : Benchmark :=
  { b with
    unit := if b.unit = "" then "ms" else b.unit
    repetitions := if b.repetitions = 0 then 1 else b.repetitions }

private theorem headFault_eq_none_iff (b : Benchmark) :
    b.headFault = none ↔ b.name ≠ "" ∧ b.algorithm ≠ "" ∧ 0 ≤ b.n ∧ b.n ≤ maxIndex := by
  unfold headFault
  by_cases h1 : b.name = "" <;> by_cases h2 : b.algorithm = "" <;> by_cases h3 : b.n < 0 <;>
    by_cases h4 : b.n > maxIndex <;> simp [h1, h2, h3, h4]
  all_goals omega

theorem check_fault_eq_none_iff (b : Benchmark) : b.check.fault = none ↔ b.Valid := by
  unfold check
  cases hh : b.headFault with
  | some f =>
    simp only [reduceCtorEq, false_iff]
    intro hv
    have := b.headFault_eq_none_iff.2 ⟨hv.name, hv.algorithm, hv.nonneg, hv.le_maxIndex⟩
    rw [hh] at this
    cases this
  | none =>
    obtain ⟨h1, h2, h3, h4⟩ := b.headFault_eq_none_iff.1 hh
    cases hu : TimeUnit.ofName? b.unit with
    | none =>
      simp only [reduceCtorEq, false_iff]
      intro hv
      exact (TimeUnit.ofName?_eq_none_iff _).1 hu hv.unit
    | some u =>
      have hunit : b.unit ∈ TimeUnit.names := by
        by_contra hn
        rw [(TimeUnit.ofName?_eq_none_iff _).2 hn] at hu
        cases hu
      by_cases hr : b.repetitions < 0
      · simp only [hr, ↓reduceIte, reduceCtorEq, false_iff]
        intro hv
        have := hv.repetitions
        omega
      · simp only [hr, ↓reduceIte]
        constructor
        · intro _
          exact ⟨h1, h2, h3, h4, hunit, by omega⟩
        · intro _
          split <;> rfl

theorem check_value_of_valid {b : Benchmark} (h : b.Valid) : b.check.value = b.filledIn := by
  have hh : b.headFault = none := b.headFault_eq_none_iff.2 ⟨h.name, h.algorithm, h.nonneg, h.le_maxIndex⟩
  have hr : ¬ b.repetitions < 0 := by have := h.repetitions; omega
  unfold check
  cases hu : TimeUnit.ofName? b.unit with
  | none => exact absurd h.unit ((TimeUnit.ofName?_eq_none_iff _).1 hu)
  | some u =>
    simp only [hh, hr, ↓reduceIte, filledIn, TimeUnit.name_of_ofName? hu]
    split <;> rfl

theorem Valid.one_le_repetitions {b : Benchmark} (h : b.Valid) : 1 ≤ b.filledIn.repetitions := by
  have := h.repetitions
  unfold filledIn
  show 1 ≤ if b.repetitions = 0 then 1 else b.repetitions
  split <;> omega

end Benchmark

namespace Suite

private theorem checkList_fault_eq_none_iff (seen : List String) (bs : List Benchmark) :
    (checkList seen bs).fault = none ↔
      (∀ b ∈ bs, b.Valid) ∧ (bs.map (·.name)).Nodup ∧ ∀ b ∈ bs, b.name ∉ seen := by
  induction bs generalizing seen with
  | nil => simp [checkList]
  | cons b bs ih =>
    cases hf : b.check.fault with
    | some f =>
      have hv : ¬ b.Valid := by rw [← b.check_fault_eq_none_iff, hf]; simp
      simp [checkList, hf, hv]
    | none =>
      have hv : b.Valid := b.check_fault_eq_none_iff.1 hf
      have hn : b.check.value.name = b.name := by rw [Benchmark.check_value_of_valid hv]; rfl
      by_cases hs : b.name ∈ seen
      · simp [checkList, hf, hn, hs]
      · simp only [checkList, hf, hn, hs, ↓reduceIte, ih, List.map_cons, List.nodup_cons, List.mem_map,
          List.mem_cons, forall_eq_or_imp, not_or]
        constructor
        · rintro ⟨hvs, hnd, hnew⟩
          exact ⟨⟨hv, hvs⟩, ⟨fun ⟨c, hc, he⟩ => (hnew c hc).1 he, hnd⟩, not_false, fun c hc => (hnew c hc).2⟩
        · rintro ⟨⟨_, hvs⟩, ⟨hb, hnd⟩, _, hnew⟩
          exact ⟨hvs, hnd, fun c hc => ⟨fun he => hb ⟨c, hc, he⟩, hnew c hc⟩⟩

private theorem checkList_value {seen : List String} {bs : List Benchmark} (h : (checkList seen bs).fault = none) :
    (checkList seen bs).value = bs.map (·.filledIn) := by
  induction bs generalizing seen with
  | nil => rfl
  | cons b bs ih =>
    have hv : b.Valid := ((checkList_fault_eq_none_iff _ _).1 h).1 b (by simp)
    have hf : b.check.fault = none := b.check_fault_eq_none_iff.2 hv
    have hn : b.check.value.name ∉ seen := by
      rw [Benchmark.check_value_of_valid hv]
      exact ((checkList_fault_eq_none_iff _ _).1 h).2.2 b (by simp)
    simp only [checkList, hf, hn, ↓reduceIte] at h ⊢
    rw [ih h, Benchmark.check_value_of_valid hv]
    rfl

theorem check_fault_eq_none_iff (s : Suite) :
    s.check.fault = none ↔ (∀ b ∈ s.benchmarks, b.Valid) ∧ (s.benchmarks.map (·.name)).Nodup := by
  show (checkList [] s.benchmarks).fault = none ↔ _
  rw [checkList_fault_eq_none_iff]
  simp

theorem check_value {s : Suite} (h : s.check.fault = none) : s.check.value = ⟨s.benchmarks.map (·.filledIn)⟩ := by
  show Suite.mk (checkList [] s.benchmarks).value = _
  rw [checkList_value h]

end Suite

end FibTiming
