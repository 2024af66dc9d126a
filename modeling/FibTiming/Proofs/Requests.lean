import FibTiming.CommandLine.Request
import FibTiming.Proofs.Registry
import FibTiming.Proofs.Validation

/-!
# What command lines ask for

When flags describe an ad-hoc benchmark and which one it is (`adHocBenchmark_eq_ok_iff`), and what holds of every
configuration that a command line asks for: its ad-hoc benchmark is the one of the flags, and its clock exists
(`exists_flags_of_request`).
-/

namespace FibTiming

/-- Nothing is filled in where nothing was left out. -/
theorem Benchmark.filledIn_eq_self {b : Benchmark} (hu : b.unit ≠ "") (hr : b.repetitions ≠ 0) : b.filledIn = b := by
  simp [filledIn, hu, hr]

theorem Benchmark.check_of_valid {b : Benchmark} (h : b.Valid) : b.check = ⟨b.filledIn, none⟩ := by
  have hf := b.check_fault_eq_none_iff.2 h
  have hv := check_value_of_valid h
  cases hc : b.check with
  | mk value fault =>
    rw [hc] at hf hv
    rw [← hv, ← hf]

private theorem ClockKind.name_mem_names (k : ClockKind) : k.name ∈ names := by
  cases k <;> decide

private theorem TimeUnit.name_ne_empty (u : TimeUnit) : u.name ≠ "" := by
  cases u <;> decide

private theorem TimeUnit.name_mem_names (u : TimeUnit) : u.name ∈ names := by
  cases u <;> decide

/-- A benchmark with an algorithm of the program that passes every check as it is. -/
structure Benchmark.Ready (b : Benchmark) : Prop where
  valid : b.Valid
  unit : b.unit ≠ ""
  repetitions : 1 ≤ b.repetitions
  algorithm : b.algorithm ∈ Registry.core.names

theorem Benchmark.Ready.check {b : Benchmark} (h : b.Ready) : b.check = ⟨b, none⟩ := by
  have hr : b.repetitions ≠ 0 := by have := h.repetitions; omega
  rw [check_of_valid h.valid, filledIn_eq_self h.unit hr]

namespace CommandLine

theorem adHocName_ne_empty (algorithm : String) (n : Int) : adHocName algorithm n ≠ "" := by
  intro h
  have hlen := congrArg String.length h
  simp only [adHocName, String.length_append] at hlen
  have : (toString "(").length = 1 := rfl
  have : "".length = 0 := rfl
  omega

/-- The benchmark that flags describe, when they describe one. -/
theorem adHocBenchmark_eq_ok_iff (algorithm : String) (n : Int) (expect : Option UInt64) (unit : String) (count : Int)
    (b : Benchmark) :
    adHocBenchmark algorithm n expect unit count = .ok b ↔
      algorithm ∈ Registry.core.names ∧ unit ∈ TimeUnit.names ∧ 1 ≤ count ∧ 0 ≤ n ∧ n ≤ maxIndex ∧
      b = ⟨adHocName algorithm n, algorithm, n, expect.getD (fibWord n), if unit = "" then "ms" else unit, count⟩ := by
  unfold adHocBenchmark
  by_cases ha : algorithm ∈ Registry.core.names
  swap
  · simp [ha]
  have hne : algorithm ≠ "" := by
    rintro rfl
    exact absurd ha (by decide)
  cases hu : TimeUnit.ofName? unit with
  | none => simp [ha, (TimeUnit.ofName?_eq_none_iff unit).1 hu]
  | some u =>
    have hunit : unit ∈ TimeUnit.names := by
      by_contra hn
      rw [(TimeUnit.ofName?_eq_none_iff _).2 hn] at hu
      cases hu
    by_cases hc : count < 1
    · simp only [ha, not_true_eq_false, hc, ↓reduceIte, reduceCtorEq, false_iff]
      rintro ⟨_, _, hcount, _⟩
      omega
    · simp only [ha, hunit, not_true_eq_false, hc, ↓reduceIte, true_and, ← TimeUnit.name_of_ofName? hu,
        ← Iterative.compute_eq]
      by_cases hn : 0 ≤ n ∧ n ≤ maxIndex
      · have hready : (Benchmark.mk (adHocName algorithm n) algorithm n (expect.getD 0) u.name count).Ready :=
          { valid := ⟨adHocName_ne_empty algorithm n, hne, hn.1, hn.2, u.name_mem_names, by simp; omega⟩
            unit := u.name_ne_empty
            repetitions := by simp; omega
            algorithm := ha }
        simp only [hready.check, Except.ok.injEq, hn, true_and]
        constructor
        · rintro rfl
          exact ⟨by omega, rfl⟩
        · rintro ⟨_, rfl⟩
          rfl
      · have hfault : ¬ (Benchmark.mk (adHocName algorithm n) algorithm n (expect.getD 0) u.name count).Valid :=
          fun hv => hn ⟨hv.nonneg, hv.le_maxIndex⟩
        rw [← Benchmark.check_fault_eq_none_iff] at hfault
        split
        · simp only [reduceCtorEq, false_iff]
          rintro ⟨_, h0, h1, _⟩
          exact hn ⟨h0, h1⟩
        · rename_i hcheck
          rw [hcheck] at hfault
          exact absurd rfl hfault

/-- Settings of other flags leave the expected answer as it is. -/
theorem Flags.expect_foldl_set {settings : List Setting} (h : ∀ x ∈ settings, x.flag ≠ .expect) (fs : Flags) :
    (settings.foldl set fs).expect = fs.expect := by
  induction settings generalizing fs with
  | nil => rfl
  | cons x rest ih =>
    rw [List.forall_mem_cons] at h
    rw [List.foldl_cons, ih h.2]
    cases x with
    | expect v => exact absurd rfl h.1
    | _ => rfl

/-- The ad-hoc benchmark of flags passes every check as it is. -/
theorem Flags.ready_of_adHoc {fs : Flags} {b : Benchmark} (h : fs.adHoc = .ok (some b)) :
    b.Ready ∧ b.expect = fs.expect.getD (fibWord b.n) := by
  unfold adHoc at h
  split at h
  · cases hb : adHocBenchmark fs.algorithm fs.index fs.expect fs.unitName fs.runs with
    | error e => simp [hb, Except.map] at h
    | ok b' =>
      simp only [hb, Except.map, Except.ok.injEq, Option.some.injEq] at h
      obtain ⟨ha, hu, hr, h0, h1, rfl⟩ := (adHocBenchmark_eq_ok_iff ..).1 hb
      subst h
      have hname : fs.algorithm ≠ "" := by assumption
      refine ⟨⟨⟨adHocName_ne_empty _ _, hname, h0, h1, ?_, by simp; omega⟩, ?_, hr, ha⟩, rfl⟩
      · show (if fs.unitName = "" then "ms" else fs.unitName) ∈ _
        split
        · decide
        · exact hu
      · show (if fs.unitName = "" then "ms" else fs.unitName) ≠ ""
        split
        · decide
        · assumption
  · split at h <;> cases h

end CommandLine

/-- A check that passes keeps the ad-hoc benchmark, if it needs nothing filled in, and leaves a clock that exists. -/
private theorem Config.of_check {c c' : Config} (h : c.check = .ok c') (hready : ∀ b, c.adHoc = some b → b.Ready) :
    c'.adHoc = c.adHoc ∧ c'.clock ∈ ClockKind.names ∧ c'.reportPath = c.reportPath := by
  have hadHoc : ∀ o, c.checkAdHoc = .ok o → o = c.adHoc := by
    intro o ho
    unfold checkAdHoc at ho
    cases hb : c.adHoc with
    | none => simpa [hb, eq_comm] using ho
    | some b =>
      simp only [hb, (hready b hb).check] at ho
      split at ho
      · cases ho
      · exact (Except.ok.inj ho).symm
  unfold check at h
  split at h
  · cases h
  · rename_i o ho
    split at h
    · cases h
    · rename_i k _
      split at h
      · cases h
      · split at h
        · cases h
        · cases h
          exact ⟨hadHoc o ho, k.name_mem_names, rfl⟩

namespace CommandLine

/-- The flags behind a configuration that a command line asks for. -/
theorem exists_flags_of_request {args : List String} {c : Config} (h : request args = .run c) :
    c.clock ∈ ClockKind.names ∧ ∃ settings positional, readSettings args = .ok (settings, positional) ∧
      (Flags.ofSettings settings).adHoc = .ok c.adHoc ∧ c.reportPath = (Flags.ofSettings settings).report := by
  unfold request at h
  split at h
  · cases h
  · cases h
  · rename_i settings positional hread
    split at h
    · cases h
    · rename_i c' hconfig
      cases h
      unfold Flags.toConfig at hconfig
      simp only at hconfig
      repeat' split at hconfig
      all_goals try cases hconfig
      rename_i adHoc hadHoc
      cases hcheck : Config.check _ with
      | error e => rw [hcheck] at hconfig; cases hconfig
      | ok c' =>
        rw [hcheck] at hconfig
        cases hconfig
        obtain ⟨hb, hc, hp⟩ := Config.of_check hcheck fun b hb => (Flags.ready_of_adHoc (hadHoc.trans (by rw [← hb]))).1
        exact ⟨hc, settings, positional, hread, by rw [hadHoc, hb], hp⟩

end CommandLine

end FibTiming
