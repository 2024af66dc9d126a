import FibTiming.Proofs.Registry
import FibTiming.Proofs.Rehearsal
import FibTiming.Proofs.Validation

/-!
# Checked suites get exact results

A suite that passes its check and names only algorithms of the program runs without errors: every benchmark gets a
result with the exact Fibonacci number, whatever the clock, the number of workers, the readings and the order in which
the workers get on (`Runner.run_core_exact`).
-/

namespace FibTiming

/-- The result of a benchmark that ran as often as asked for and gave the exact Fibonacci number. -/
structure Result.Exact (b : Benchmark) (r : Result) : Prop where
  describes : r.Describes b
  error : r.error = none
  runs : r.runs = b.repetitions
  got : r.got.toNat = fib b.n.toNat
  passed : r.passed = true ↔ b.expect.toNat = fib b.n.toNat

namespace Runner

variable {r : Runner} {b : Benchmark} {clock : String}

/-- The benchmark can be called, with an algorithm of the program and at least once. -/
structure CanRun (r : Runner) (b : Benchmark) (clock : String) : Prop where
  range : 0 ≤ b.n ∧ b.n ≤ maxIndex
  repetitions : 1 ≤ b.repetitions
  prepared : ∃ a ∈ Registry.core.algorithms, ∃ k, r.prepare b clock = .ok (a, k)

/-- The verdict on such a benchmark is exact. -/
theorem CanRun.exact (h : r.CanRun b clock) {res : Result} (hres : res.untimed = r.verdict b clock) : res.Exact b := by
  obtain ⟨a, ha, k, hp⟩ := h.prepared
  have hv : r.verdict b clock = { Result.pending b "" with
      got := fibWord b.n, runs := wantedRuns b, passed := fibWord b.n == b.expect } := by
    simp only [verdict, hp, Registry.core_computation ha]
    rfl
  have hnum : (fibWord b.n).toNat = fib b.n.toNat := toNat_fibWord h.range.2
  have hgot : res.got = fibWord b.n := by rw [hv] at hres; exact congrArg Result.got hres
  have hruns : res.runs = wantedRuns b := by rw [hv] at hres; exact congrArg Result.runs hres
  have hpassed : res.passed = (fibWord b.n == b.expect) := by rw [hv] at hres; exact congrArg Result.passed hres
  refine ⟨describes_of_untimed hres, ?_, ?_, ?_, ?_⟩
  · rw [hv] at hres
    exact congrArg Result.error hres
  · have := h.repetitions
    rw [hruns, wantedRuns]
    omega
  · rw [hgot, hnum]
  · rw [hpassed, beq_iff_eq, ← UInt64.toNat_inj, hnum, eq_comm]

/-- The program's own algorithms compute functions. -/
theorem runOn_yields_core {r : Runner} (hr : r.registry = Registry.core) (b : Benchmark) (clock : String)
    {stop : Bool → Prop} : (r.runOn Job.rig b clock).Yields (.steady stop) fun res =>
      res.untimed = r.verdict b clock ∨ stop true ∧ res.CutShort b := by
  apply runOn_yields
  intro a k hp
  have ha := lookup_of_prepare hp
  rw [hr] at ha
  obtain ⟨a', hmem, hlookup⟩ := Registry.exists_lookup (Registry.mem_names_of_lookup ha)
  rw [ha, Except.ok.injEq] at hlookup
  exact ⟨_, Registry.core_computation (hlookup ▸ hmem)⟩

/-- Every result of such a benchmark is exact, unless the run is told to stop. -/
theorem CanRun.yields (h : r.CanRun b clock) :
    (r.runOn Job.rig b clock).Yields (.steady (· = false)) (Result.Exact b) := by
  have hf : ∀ a k, r.prepare b clock = .ok (a, k) → ∃ f, a.computation = .ofFunction f := by
    intro a k hp
    obtain ⟨a', ha', k', hp'⟩ := h.prepared
    rw [hp'] at hp
    cases hp
    exact ⟨_, Registry.core_computation ha'⟩
  apply (runOn_yields r b clock hf).mono
  rintro res (hres | ⟨hstop, _⟩)
  · exact h.exact hres
  · cases hstop

/-- Benchmarks in range with algorithms of the program can be called. -/
theorem canRun_make {b : Benchmark} (hrange : 0 ≤ b.n ∧ b.n ≤ maxIndex) (hrepeat : 1 ≤ b.repetitions)
    (hcore : b.algorithm ∈ Registry.core.names) {clock : String} (hclock : clock ∈ ClockKind.names) (workers : Int)
    (size : Nat) :
    (make Registry.core clock workers).CanRun b ((make Registry.core clock workers).clockFor size) :=
  ⟨hrange, hrepeat,
    exists_prepare (make Registry.core clock workers) hrange hcore (clockFor_make hclock Registry.core workers size)⟩

/-- A checked benchmark with an algorithm of the program can be called. -/
theorem canRun_of_checked {suite : Suite} (hvalid : suite.check.fault = none)
    (hcore : ∀ b ∈ suite.benchmarks, b.algorithm ∈ Registry.core.names) {clock : String}
    (hclock : clock ∈ ClockKind.names) (workers : Int) (size : Nat) {b : Benchmark}
    (hb : b ∈ suite.check.value.benchmarks) :
    (make Registry.core clock workers).CanRun b ((make Registry.core clock workers).clockFor size) := by
  rw [Suite.check_value hvalid] at hb
  obtain ⟨b', hb', rfl⟩ := List.mem_map.1 hb
  have hv : b'.Valid := (suite.check_fault_eq_none_iff.1 hvalid).1 b' hb'
  have hrange : 0 ≤ b'.filledIn.n ∧ b'.filledIn.n ≤ maxIndex := ⟨hv.nonneg, hv.le_maxIndex⟩
  exact canRun_make hrange hv.one_le_repetitions (hcore b' hb') hclock workers size

/-- A checked suite of algorithms of the program gets one exact result for each benchmark, in order; nothing prevents
its benchmarks from being called.  This holds when they run one after the other, and of everything that the workers
store, in whatever order they get on. -/
theorem run_core_exact (suite : Suite) (hvalid : suite.check.fault = none)
    (hcore : ∀ b ∈ suite.benchmarks, b.algorithm ∈ ["naive", "accumulator", "iterative"])
    (clock : String) (hclock : clock ∈ ["", "process", "thread", "wall"]) (workers : Int)
    (script : Script) (hscript : script.Reliable) (c : Config) (s : Stage) (hs : s.cancelled = false) :
    let r := make Registry.core clock workers
    let checked := suite.check.value
    (∃ rs s', r.run (Program.rig script.host c) checked s = (.ok rs, s') ∧
      List.Forall₂ Result.Exact checked.benchmarks rs) ∧
    (∀ p, Pool.Reaches (Program.rig script.host c) r.workers.toNat (r.pool checked s) p → p.Finished →
      p.stage.cancelled = false →
      List.Forall₂ (fun b slot => ∃ res, slot = some res ∧ Result.Exact b res) checked.benchmarks p.slots) ∧
    ∀ b ∈ checked.benchmarks, ∃ a k, r.prepare b (r.clockFor checked.benchmarks.length) = .ok (a, k) := by
  intro r checked
  have hnames : ∀ b ∈ suite.benchmarks, b.algorithm ∈ Registry.core.names := by
    intro b hb
    rw [Registry.core_names]
    simpa [or_comm, or_assoc, or_left_comm] using hcore b hb
  have hcan : ∀ b ∈ checked.benchmarks, r.CanRun b (r.clockFor checked.benchmarks.length) :=
    fun b hb => canRun_of_checked hvalid hnames hclock workers _ hb
  have hknown : r.registry.checkSuite checked = .ok () := by
    rw [Registry.checkSuite_eq_ok_iff]
    intro b hb
    rw [show checked = _ from Suite.check_value hvalid] at hb
    obtain ⟨b', hb', rfl⟩ := List.mem_map.1 hb
    exact hnames b' hb'
  refine ⟨?_, ?_, ?_⟩
  · obtain ⟨rs, s', hrun, hexact, _⟩ := run_forall₂ (Script.keeps_unmoved hscript s) rfl r hknown
      (fun b hb => (hcan b hb).yields) (.refl hs)
    exact ⟨rs, s', hrun, hexact⟩
  · intro p hp hf hu
    exact hp.results (Script.lasting_uncancelled hscript) (fun b hb => (hcan b hb).yields) hf hu
  · intro b hb
    obtain ⟨a, _, k, hp⟩ := (hcan b hb).prepared
    exact ⟨a, k, hp⟩

/-- The largest index by plain double recursion, and a wrong expectation, on four workers. -/
theorem run_core_exact_largest :
    let suite : Suite := ⟨[⟨"top", "naive", 92, 12200160415121876738, "", 0⟩, ⟨"off", "iterative", 0, 2, "s", 3⟩]⟩
    suite.check.fault = none ∧
    ∃ rs s', (make Registry.core "" 4).run (Program.rig ({} : Script).host {})
      ⟨[⟨"top", "naive", 92, 12200160415121876738, "ms", 1⟩, ⟨"off", "iterative", 0, 2, "s", 3⟩]⟩ {} = (.ok rs, s') ∧
      List.Forall₂ Result.Exact
        [⟨"top", "naive", 92, 12200160415121876738, "ms", 1⟩, ⟨"off", "iterative", 0, 2, "s", 3⟩] rs :=
  ⟨by decide, (run_core_exact ⟨[⟨"top", "naive", 92, 12200160415121876738, "", 0⟩, ⟨"off", "iterative", 0, 2, "s", 3⟩]⟩
    (by decide) (by decide) "" (by decide) 4 {} ⟨fun _ => ⟨0, rfl⟩, fun _ => rfl⟩ {} {} rfl).1⟩

end Runner

end FibTiming
