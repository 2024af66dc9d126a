import FibTiming.Invocation
import FibTiming.Proofs.Requests

/-!
# Configurations of command lines

A configuration that passed its check passes it again and stays as it is (`Config.check_check`).  What a command line
asks for has passed it, with a log format and a log level that exist, and its ad-hoc benchmark is the one of the flags,
so all its fields are settled (`CommandLine.request_settled`).
-/

namespace FibTiming

theorem ClockKind.ofName?_name (k : ClockKind) : ofName? k.name = some k := by
  cases k <;> decide

theorem Report.ColorMode.ofName?_name (m : ColorMode) : ofName? m.name = some m := by
  cases m <;> decide +kernel

/-- What was filled in needs nothing more. -/
private theorem Benchmark.Valid.check_filledIn {b : Benchmark} (h : b.Valid) :
    b.filledIn.check = ⟨b.filledIn, none⟩ := by
  have hunit : b.filledIn.unit ∈ TimeUnit.names ∧ b.filledIn.unit ≠ "" := by
    show (if b.unit = "" then "ms" else b.unit) ∈ TimeUnit.names ∧ (if b.unit = "" then "ms" else b.unit) ≠ ""
    split
    · decide
    · exact ⟨h.unit, by assumption⟩
  have hpos := h.one_le_repetitions
  have hvalid : b.filledIn.Valid := ⟨h.name, h.algorithm, h.nonneg, h.le_maxIndex, hunit.1, by omega⟩
  rw [check_of_valid hvalid, filledIn_eq_self hunit.2 (by omega)]

namespace Config

variable {c c' : Config}

private theorem checkAdHoc_eq_ok {o : Option Benchmark} (h : c.checkAdHoc = .ok o) :
    o = none ∧ c.adHoc = none ∨ ∃ b, c.adHoc = some b ∧ c.suitePaths = [] ∧ b.Valid ∧ o = some b.filledIn := by
  unfold checkAdHoc at h
  cases hb : c.adHoc with
  | none =>
    simp only [hb, Except.ok.injEq] at h
    exact .inl ⟨h.symm, rfl⟩
  | some b =>
    simp only [hb] at h
    by_cases hpaths : c.suitePaths = []
    · by_cases hv : b.Valid
      · simp only [hpaths, Benchmark.check_of_valid hv, ne_eq, not_true_eq_false, ↓reduceIte, Except.ok.injEq] at h
        exact .inr ⟨b, rfl, hpaths, hv, h.symm⟩
      · rw [← Benchmark.check_fault_eq_none_iff] at hv
        simp only [hpaths, ne_eq, not_true_eq_false, ↓reduceIte] at h
        split at h
        · cases h
        · rename_i hcheck
          rw [hcheck] at hv
          exact absurd rfl hv
    · simp [hpaths] at h

private theorem checkWorkers_eq_ok {count w : Int} (h : checkWorkers count = .ok w) : 1 ≤ w := by
  unfold checkWorkers at h
  split at h
  · cases h
  · split at h
    · cases h
      omega
    · cases h
      omega

theorem checkWorkers_of_pos {count : Int} (h : 1 ≤ count) : checkWorkers count = .ok count := by
  have hneg : ¬ count < 0 := by omega
  have hzero : count ≠ 0 := by omega
  simp [checkWorkers, hneg, hzero]

/-- What a check that passes leaves behind. -/
theorem eq_of_check (h : c.check = .ok c') :
    ∃ adHoc clock color workers, c.checkAdHoc = .ok adHoc ∧ checkWorkers c.workers = .ok workers ∧
      c' = { c with adHoc := adHoc, clock := ClockKind.name clock, color := Report.ColorMode.name color,
                    workers := workers } := by
  unfold check at h
  split at h
  · cases h
  · rename_i adHoc hadHoc
    split at h
    · cases h
    · rename_i clock _
      split at h
      · cases h
      · rename_i color _
        split at h
        · cases h
        · rename_i workers hworkers
          cases h
          exact ⟨adHoc, clock, color, workers, hadHoc, hworkers, rfl⟩

/-- A configuration that passed the check passes it again as it is. -/
theorem check_check (h : c.check = .ok c') : c'.check = .ok c' := by
  obtain ⟨adHoc, clock, color, workers, hadHoc, hworkers, rfl⟩ := eq_of_check h
  have hsame : checkAdHoc { c with adHoc := adHoc, clock := clock.name, color := color.name, workers := workers } =
      .ok adHoc := by
    rcases checkAdHoc_eq_ok hadHoc with ⟨rfl, _⟩ | ⟨b, _, hpaths, hv, rfl⟩
    · rfl
    · simp [checkAdHoc, hpaths, hv.check_filledIn]
  unfold check
  rw [hsame]
  simp only [ClockKind.ofName?_name, Report.ColorMode.ofName?_name, checkWorkers_of_pos (checkWorkers_eq_ok hworkers)]

end Config

namespace CommandLine

/-- The last setting of the expected answer counts. -/
private theorem Flags.expect_ofSettings_append {before after : List Setting} {answer : UInt64}
    (h : ∀ x ∈ after, x.flag ≠ .expect) : (ofSettings (before ++ .expect answer :: after)).expect = some answer := by
  unfold ofSettings
  rw [List.foldl_append, List.foldl_cons, expect_foldl_set h]
  rfl

theorem Flags.adHoc_eq_some_iff (fs : Flags) (b : Benchmark) :
    fs.adHoc = .ok (some b) ↔ fs.algorithm ≠ "" ∧
      adHocBenchmark fs.algorithm fs.index fs.expect fs.unitName fs.runs = .ok b := by
  unfold adHoc
  by_cases ha : fs.algorithm = ""
  · simp only [ha, ne_eq, not_true_eq_false, ↓reduceIte, false_and, iff_false]
    split <;> simp
  · simp only [ha, ne_eq, not_false_eq_true, ↓reduceIte, true_and]
    cases adHocBenchmark fs.algorithm fs.index fs.expect fs.unitName fs.runs <;> simp [Except.map]

/-- Flags that make a configuration name a log format and a log level, and the rest has passed the check. -/
theorem Flags.exists_check_of_toConfig {fs : Flags} {positional : List String} {c : Config}
    (h : fs.toConfig positional = .ok c) :
    Text.lower fs.logFormat ∈ logFormats ∧ Text.lower fs.logLevel ∈ logLevels ∧
      ∃ adHoc clock color, fs.adHoc = .ok adHoc ∧ Config.check
        { suitePaths := fs.paths positional, adHoc := adHoc, clock := clock, workers := fs.workers, color := color
          reportPath := fs.report, logFormat := Text.lower fs.logFormat, logLevel := Text.lower fs.logLevel } = .ok c := by
  unfold toConfig at h
  dsimp only at h
  by_cases hformat : Text.lower fs.logFormat ∈ logFormats
  swap
  · simp [hformat] at h
  by_cases hlevel : Text.lower fs.logLevel ∈ logLevels
  swap
  · simp [hformat, hlevel] at h
  simp only [hformat, hlevel, not_true_eq_false, ↓reduceIte] at h
  refine ⟨hformat, hlevel, ?_⟩
  split at h
  · cases h
  · split at h
    · cases h
    · split at h
      · cases h
      · rename_i clock _ _ color _ _ adHoc hadHoc
        refine ⟨adHoc, clock.name, color.name, hadHoc, ?_⟩
        cases hcheck : Config.check _ with
        | error e =>
          rw [hcheck] at h
          cases h
        | ok c' =>
          rw [hcheck] at h
          cases h
          rfl

private theorem exists_toConfig_of_request {args : List String} {c : Config} (h : request args = .run c) :
    ∃ settings positional, readSettings args = .ok (settings, positional) ∧
      (Flags.ofSettings settings).toConfig positional = .ok c := by
  unfold request at h
  split at h
  · cases h
  · cases h
  · rename_i settings positional hread
    split at h
    · cases h
    · rename_i c' hconfig
      cases h
      exact ⟨settings, positional, hread, hconfig⟩

/-- The fields of a configuration that a command line asks for. -/
structure Settled (c : Config) : Prop where
  workers : 1 ≤ c.workers
  clock : c.clock ∈ ["process", "thread", "wall"]
  color : c.color ∈ ["auto", "always", "never"]
  logFormat : c.logFormat ∈ ["text", "json"]
  logLevel : c.logLevel ∈ ["debug", "info", "warn", "error"]
  alone : c.adHoc = none ∨ c.suitePaths = []
  unchanged : c.check = .ok c

private theorem Flags.settled_of_toConfig {fs : Flags} {positional : List String} {c : Config}
    (h : fs.toConfig positional = .ok c) : Settled c := by
  obtain ⟨hformat, hlevel, adHoc, clock, color, _, hcheck⟩ := exists_check_of_toConfig h
  have hunchanged := Config.check_check hcheck
  obtain ⟨adHoc', clock', color', workers, hadHoc', hworkers, rfl⟩ := Config.eq_of_check hcheck
  refine ⟨Config.checkWorkers_eq_ok hworkers, ?_, ?_, hformat, hlevel, ?_, hunchanged⟩
  · cases clock' <;> simp [ClockKind.name]
  · cases color' <;> simp [Report.ColorMode.name]
  · rcases Config.checkAdHoc_eq_ok hadHoc' with ⟨rfl, _⟩ | ⟨b, _, hpaths, _⟩
    · exact .inl rfl
    · exact .inr hpaths

/-- The benchmark that flags describe, field by field. -/
private theorem Flags.fields_of_adHoc {fs : Flags} {b : Benchmark} (h : fs.adHoc = .ok (some b)) :
    b.algorithm ∈ ["accumulator", "iterative", "naive"] ∧ b.name = s!"{b.algorithm}({b.n})" ∧ 0 ≤ b.n ∧ b.n ≤ 92 ∧
      b.unit ∈ ["ns", "us", "ms", "s"] ∧ 1 ≤ b.repetitions ∧ b.expect = fs.expect.getD (fibWord b.n) := by
  obtain ⟨halgorithm, hunit, hcount, hnonneg, hmax, rfl⟩ :=
    (adHocBenchmark_eq_ok_iff ..).1 ((fs.adHoc_eq_some_iff b).1 h).2
  refine ⟨halgorithm, rfl, hnonneg, hmax, ?_, hcount, rfl⟩
  show (if fs.unitName = "" then "ms" else fs.unitName) ∈ _
  split
  · decide
  · exact (List.mem_cons.1 hunit).resolve_left (by assumption)

/-- A command line asks for a run, or for help, or is refused with exit code `2`.  The configuration of a run has all its
fields settled and passes its check unchanged.  Its ad-hoc benchmark has an algorithm of the program, which together with
the index makes its name, and is in range; it expects the last answer that was given, and the exact Fibonacci number when
none was. -/
theorem request_settled (args : List String) :
    ((∃ c, request args = .run c) ↔ request args ≠ .help ∧ ∀ e, request args ≠ .refused e) ∧
    (∀ e, request args = .refused e → request args ≠ .help ∧ (InvocationError.usage e).exitCode = 2) ∧
    ∀ c, request args = .run c → Settled c ∧ ∃ settings positional, readSettings args = .ok (settings, positional) ∧
      ∀ b, c.adHoc = some b →
        (b.algorithm ∈ ["accumulator", "iterative", "naive"] ∧ b.name = s!"{b.algorithm}({b.n})" ∧ 0 ≤ b.n ∧
          b.n ≤ 92 ∧ b.unit ∈ ["ns", "us", "ms", "s"] ∧ 1 ≤ b.repetitions) ∧
        (∀ before answer after, settings = before ++ .expect answer :: after → (∀ x ∈ after, x.flag ≠ .expect) →
          b.expect = answer) ∧
        ((∀ x ∈ settings, x.flag ≠ .expect) → b.expect.toNat = fib b.n.toNat) := by
  refine ⟨?_, ?_, ?_⟩
  · cases request args <;> simp
  · intro e he
    rw [he]
    exact ⟨by simp, rfl⟩
  · intro c hc
    obtain ⟨settings, positional, hread, hconfig⟩ := exists_toConfig_of_request hc
    obtain ⟨_, settings', positional', hread', hadHoc, _⟩ := exists_flags_of_request hc
    rw [hread] at hread'
    cases hread'
    refine ⟨Flags.settled_of_toConfig hconfig, settings, positional, hread, fun b hb => ?_⟩
    rw [hb] at hadHoc
    obtain ⟨halgorithm, hname, hnonneg, hmax, hunit, hcount, hexpect⟩ := Flags.fields_of_adHoc hadHoc
    refine ⟨⟨halgorithm, hname, hnonneg, hmax, hunit, hcount⟩, ?_, ?_⟩
    · rintro before answer after rfl hafter
      rw [hexpect, Flags.expect_ofSettings_append hafter]
      rfl
    · intro hnone
      have hempty : (Flags.ofSettings settings).expect = none := Flags.expect_foldl_set hnone {}
      rw [hexpect, hempty]
      exact toNat_fibWord hmax

/-- An expected answer of zero, given after another one, in digits to the base sixteen and in capitals for the clock. -/
theorem request_settled_zero :
    let args := ["-algorithm", "iterative", "-n=0x10", "-expect", "7", "--clock", "WALL", "-expect=0"]
    ∃ c, request args = .run c ∧ Settled c ∧ ∃ b, c.adHoc = some b ∧ b.name = "iterative(16)" ∧ b.expect = 0 := by
  have hread : readSettings ["-algorithm", "iterative", "-n=0x10", "-expect", "7", "--clock", "WALL", "-expect=0"] =
      .ok ([.algorithm "iterative", .n 16, .expect 7, .clock "WALL", .expect 0], []) := by decide +kernel
  have hreq : request ["-algorithm", "iterative", "-n=0x10", "-expect", "7", "--clock", "WALL", "-expect=0"] =
      .run { adHoc := some ⟨"iterative(16)", "iterative", 16, 0, "ms", 1⟩, clock := "wall", workers := 1
             color := "auto", logFormat := "text", logLevel := "warn" } := by decide +kernel
  obtain ⟨hsettled, settings, positional, hread', hadHoc⟩ := (request_settled _).2.2 _ hreq
  rw [hread] at hread'
  cases hread'
  obtain ⟨_, hlast, _⟩ := hadHoc _ rfl
  refine ⟨_, hreq, hsettled, _, rfl, rfl, ?_⟩
  exact hlast [.algorithm "iterative", .n 16, .expect 7, .clock "WALL"] 0 [] rfl (by simp)

end CommandLine

end FibTiming
