import FibTiming.Invocation
import FibTiming.Proofs.Endings
import FibTiming.Proofs.ExactResults
import FibTiming.Proofs.Loading
import FibTiming.Proofs.Requests

/-!
# Exit codes

Which exit code a command line ends with, as long as nobody tells the program to stop and every clock can be read
(`exitCode_invoke`).  Of the endings of the program one is a success: the suite that the configuration stands for is
found, the workers come to the expected answers (`Program.exact_of_measured`), and everything can be written
(`Program.run_eq_ok_iff`).  How the workers get on does not matter, unless the program is told to stop before they are
done (`Program.LeftAlone`).
-/

namespace FibTiming

/-- The suite that a configuration stands for among files, with local values visited in a given order. -/
def Config.suiteIn (c : Config) (visiting : Visiting) (files : FileSystem) : Except LoadError Suite :=
  match c.adHoc with
  | some b => .ok ⟨[b]⟩
  | none => if c.suitePaths = [] then .ok Suite.builtIn else loadSuite visiting files.resolve c.suitePaths

private theorem Config.suiteBy_loadFrom (c : Config) (visiting : Visiting) (files : FileSystem) :
    c.suiteBy (some (loadFrom visiting)) files = (c.suiteIn visiting files).mapError .loading := by
  unfold suiteBy suiteIn
  cases c.adHoc with
  | some b => rfl
  | none =>
    dsimp only
    split <;> rfl

/-- The benchmarks of such a suite are in range and run at least once. -/
private theorem Config.range_of_suiteIn {c : Config} (hready : ∀ b, c.adHoc = some b → b.Ready) {visiting : Visiting}
    {files : FileSystem} {suite : Suite} (h : c.suiteIn visiting files = .ok suite) {b : Benchmark}
    (hb : b ∈ suite.benchmarks) :
    (0 ≤ b.n ∧ b.n ≤ maxIndex) ∧ 1 ≤ b.repetitions := by
  unfold suiteIn at h
  split at h
  · rename_i b' hb'
    cases h
    rw [List.mem_singleton] at hb
    subst hb
    have hr := hready b hb'
    exact ⟨⟨hr.valid.nonneg, hr.valid.le_maxIndex⟩, hr.repetitions⟩
  · split at h
    · cases h
      have hall : ∀ b ∈ Suite.builtIn.benchmarks, (0 ≤ b.n ∧ b.n ≤ maxIndex) ∧ 1 ≤ b.repetitions := by decide
      exact hall b hb
    · obtain ⟨bs, hvalid, rfl⟩ := valid_of_loadSuite h
      obtain ⟨b', hb', rfl⟩ := List.mem_map.1 hb
      have hv := hvalid b' hb'
      exact ⟨⟨hv.nonneg, hv.le_maxIndex⟩, hv.one_le_repetitions⟩

/-- An exact result failed when another answer was expected. -/
private theorem Result.Exact.failed_eq_false_iff {b : Benchmark} {r : Result} (h : r.Exact b) :
    r.failed = false ↔ b.expect.toNat = fib b.n.toNat := by
  rw [← h.passed]
  simp [Result.failed, h.error]

private theorem Result.failed_iff_of_exact {bs : List Benchmark} {rs : List Result}
    (h : List.Forall₂ Result.Exact bs rs) :
    (∀ r ∈ rs, r.failed = false) ↔ ∀ b ∈ bs, b.expect.toNat = fib b.n.toNat := by
  induction h with
  | nil => simp
  | cons hr _ ih => simp only [List.mem_cons, forall_eq_or_imp, ih, hr.failed_eq_false_iff]

namespace Program

/-- Nobody tells the program to stop before the benchmarks of the suite have been carried out. -/
def LeftAlone (host : Host (StateM Stage)) (c : Config) (registry : Registry) (suite : Suite) (s : Stage) : Prop :=
  ∀ s₁, s.LogsTo s₁ →
    ((Runner.make registry c.clock c.workers).gathered (rig host c) suite s₁).2.cancelled = false

variable {script : Script} {terminal : Bool} {gather : Nat → List (StateM Stage Result) → StateM Stage (List Result)}
  {visiting : Visiting} {c : Config} {s : Stage} {suite : Suite}

/-- Workers that follow a schedule are left alone when there is no signal to stop on it. -/
theorem leftAlone_scheduled (hscript : script.Reliable) (hs : s.cancelled = false) (suite : Suite)
    {moves : List Pool.Move} (hmoves : .cancel ∉ moves) :
    LeftAlone (script.hostOn terminal
        ((Runner.make Registry.core c.clock c.workers).scheduled (rig script.host c) suite moves))
      c Registry.core suite s := by
  intro s₁ hlog
  have hs₁ : s₁.cancelled = false := by
    rw [hlog]
    exact hs
  exact Runner.gathered_scheduled_keeps (Script.lasting_uncancelled (c := c) hscript).keeps
    (fun b _ => (Runner.runOn_yields_core rfl b _).mono fun _ _ => trivial) hmoves hs₁

/-- A suite in range of algorithms of the program gets exact results. -/
theorem exact_of_measured (hscript : script.Reliable) (hclock : c.clock ∈ ClockKind.names)
    (hrange : ∀ b ∈ suite.benchmarks, (0 ≤ b.n ∧ b.n ≤ maxIndex) ∧ 1 ≤ b.repetitions)
    (hnames : ∀ b ∈ suite.benchmarks, b.algorithm ∈ Registry.core.names)
    (halone : LeftAlone (script.hostOn terminal gather) c Registry.core suite s) {rs : List Result}
    (h : Measured (script.hostOn terminal gather) c Registry.core s suite rs) :
    List.Forall₂ Result.Exact suite.benchmarks rs := by
  obtain ⟨s₁, p, hlog, hgathers, hslots⟩ := h.workers
  have hstage : p.stage.cancelled = false := hgathers.stage ▸ halone s₁ hlog
  have hcan : ∀ b ∈ suite.benchmarks, (Runner.make Registry.core c.clock c.workers).CanRun b
      ((Runner.make Registry.core c.clock c.workers).clockFor suite.benchmarks.length) :=
    fun b hb => Runner.canRun_make (hrange b hb).1 (hrange b hb).2 (hnames b hb) hclock c.workers _
  have hlasting := (Script.lasting_uncancelled (c := c) hscript).of_gather gather
  have hexact := hgathers.forall₂ hlasting (fun b hb => (hcan b hb).yields) hstage
  have hrs : ((Runner.make Registry.core c.clock c.workers).gathered (rig (script.hostOn terminal gather) c) suite s₁).1 =
      rs := by
    apply List.map_injective_iff.2 (Option.some_injective Result)
    rw [← hgathers.slots, hslots]
  exact hrs ▸ hexact

/-- Results are delivered without complaint when every line is accepted, the report can be saved, and none of them
failed. -/
theorem Delivers.eq_ok_iff {rs : List Result} {outcome : Except ProgramError Unit} {s' : Stage}
    (h : Delivers script terminal c rs s outcome s') :
    outcome = .ok () ↔ (∀ i < rs.length, script.refusal (s.attempts + i) = none) ∧
      (c.reportPath = "" ∨ s.files.Writable c.reportPath) ∧ ∀ r ∈ rs, r.failed = false := by
  rcases accepted_or_refused script s.attempts rs.length with hall | ⟨k, hk, cause, hbefore, hcause⟩
  · by_cases hreport : c.reportPath = "" ∨ s.files.Writable c.reportPath
    · rw [(h.published hall hreport).1, verdict_eq_ok_iff]
      exact ⟨fun hok => ⟨hall, hreport, hok⟩, fun hok => hok.2.2⟩
    · have hpath := (not_or.1 hreport).1
      cases hw : s.files.write c.reportPath (Report.Document.ofResults rs).render with
      | ok files => exact absurd (.inr ((FileSystem.writable_iff ..).2 ⟨files, hw⟩)) hreport
      | error cause =>
        rw [(h.unwritable hall hpath cause hw).1]
        exact iff_of_false (by simp) fun hok => hreport hok.2.1
  · rw [(h.refused k hk cause hbefore hcause).1]
    refine iff_of_false (by simp) fun hok => ?_
    rw [hok.1 k hk] at hcause
    cases hcause

/-- The program succeeds when a suite is found, its answers are the expected ones, and everything can be written. -/
theorem run_eq_ok_iff (hscript : script.Reliable) (hload : script.load = some (loadFrom visiting))
    (hclock : c.clock ∈ ClockKind.names) (hready : ∀ b, c.adHoc = some b → b.Ready)
    (hgather : ∀ suite, c.suiteIn visiting s.files = .ok suite →
      CarriedOut (script.hostOn terminal gather) c Registry.core suite s ∧
      LeftAlone (script.hostOn terminal gather) c Registry.core suite s) :
    (run (script.hostOn terminal gather) c Registry.core s).1 = .ok () ↔
      ∃ suite, c.suiteIn visiting s.files = .ok suite ∧ suite.benchmarks ≠ [] ∧
        (∀ b ∈ suite.benchmarks, b.algorithm ∈ Registry.core.names) ∧
        (∀ b ∈ suite.benchmarks, b.expect.toNat = fib b.n.toNat) ∧
        (∀ i < suite.benchmarks.length, script.refusal (s.attempts + i) = none) ∧
        (c.reportPath = "" ∨ s.files.Writable c.reportPath) := by
  have hfound := c.suiteBy_loadFrom visiting s.files
  rw [← hload] at hfound
  cases hsuite : c.suiteIn visiting s.files with
  | error e =>
    rw [(run_of_unresolved (hfound.trans (by rw [hsuite]; rfl))).1]
    simp
  | ok suite =>
    have hfound : c.suiteBy script.load s.files = .ok suite := hfound.trans (by rw [hsuite]; rfl)
    simp only [Except.ok.injEq, exists_eq_left']
    by_cases hempty : suite.benchmarks = []
    · rw [(run_of_empty hfound hempty).1]
      exact iff_of_false (by simp) fun h => h.1 hempty
    · by_cases hnames : ∀ b ∈ suite.benchmarks, b.algorithm ∈ Registry.core.names
      · obtain ⟨hcarried, halone⟩ := hgather suite hsuite
        obtain ⟨rs, hmeasured, hdelivers⟩ := run_of_known hfound hempty hnames hcarried
        have hexact := exact_of_measured hscript hclock (fun b hb => Config.range_of_suiteIn hready hsuite hb) hnames
          halone hmeasured
        rw [hdelivers.eq_ok_iff, ← hexact.length_eq, Result.failed_iff_of_exact hexact]
        exact ⟨fun ⟨hlines, hreport, hexpect⟩ => ⟨hempty, hnames, hexpect, hlines, hreport⟩,
          fun ⟨_, _, hexpect, hlines, hreport⟩ => ⟨hlines, hreport, hexpect⟩⟩
      · obtain ⟨⟨e, he⟩, _⟩ : (∃ e, (run (script.hostOn terminal gather) c Registry.core s).1 =
            .error (.unknownAlgorithms e)) ∧ _ := run_of_unknown hfound (by simpa using hnames)
        rw [he]
        exact iff_of_false (by simp) fun h => hnames h.2.1

end Program

/-- Flags that were not given have no value. -/
private theorem CommandLine.Flags.expect_ofSettings {settings : List Setting} (h : ∀ x ∈ settings, x.flag ≠ .expect) :
    (ofSettings settings).expect = none :=
  expect_foldl_set h {}

/-- The three ways in which an invocation can end. -/
theorem exitCode_of_request {σ : Type} (h : Host (StateM σ)) (args : List String) (s : σ) :
    exitCode (invoke h args s).1 =
      match CommandLine.request args with
      | .help => 0
      | .refused _ => 2
      | .run c =>
        match (Program.run h c Registry.core s).1 with
        | .ok () => 0
        | .error _ => 1 := by
  unfold invoke
  cases CommandLine.request args with
  | help => dsimp only; split <;> rfl
  | refused e => dsimp only; split <;> rfl
  | run c =>
    simp only [CommandLine.Request.output, ne_eq, not_true_eq_false, ↓reduceIte, bind_apply]
    cases hr : (Program.run h c Registry.core s).1 <;> rfl

/-- The exit code of a command line, however its workers get on, when the program is not told to stop and every clock can
be read: `2` when the command line is refused, and `0` when help is asked for or when the suite that the configuration
stands for has only algorithms of the program, expects only exact Fibonacci numbers and can be published.  An ad-hoc
benchmark expects the exact number unless told otherwise. -/
theorem exitCode_invoke (reading : Nat → Int64) (refusal : Nat → Option String) (visiting : Visiting) (terminal : Bool)
    (gather : Nat → List (StateM Stage Result) → StateM Stage (List Result)) (args : List String) (s : Stage) :
    let script : Script :=
      { reading := fun i => .ok (reading i), refusal := refusal, load := some (loadFrom visiting) }
    let host := script.hostOn terminal gather
    let code := exitCode (invoke host args s).1
    (∀ c suite, CommandLine.request args = .run c → c.suiteIn visiting s.files = .ok suite →
      Program.CarriedOut host c Registry.core suite s ∧ Program.LeftAlone host c Registry.core suite s) →
    (code = 2 ↔ ∃ e, CommandLine.request args = .refused e) ∧
    (code = 0 ↔ CommandLine.request args = .help ∨
      ∃ c suite, CommandLine.request args = .run c ∧ c.suiteIn visiting s.files = .ok suite ∧ suite.benchmarks ≠ [] ∧
        (∀ b ∈ suite.benchmarks, b.algorithm ∈ ["accumulator", "iterative", "naive"]) ∧
        (∀ b ∈ suite.benchmarks, b.expect.toNat = fib b.n.toNat) ∧
        (∀ i < suite.benchmarks.length, refusal (s.attempts + i) = none) ∧
        (c.reportPath = "" ∨ s.files.Writable c.reportPath)) ∧
    (code = 0 ∨ code = 1 ∨ code = 2) ∧
    ∀ c b settings positional, CommandLine.request args = .run c → c.adHoc = some b → c.reportPath = "" →
      CommandLine.readSettings args = .ok (settings, positional) → (∀ x ∈ settings, x.flag ≠ .expect) →
      refusal s.attempts = none → code = 0 := by
  intro script host code hgather
  have hscript : script.Reliable := ⟨fun i => ⟨reading i, rfl⟩, fun _ => rfl⟩
  have hcode : code = _ := exitCode_of_request host args s
  cases hreq : CommandLine.request args with
  | help => simp_all
  | refused e => simp_all
  | run c =>
    rw [hreq] at hcode
    obtain ⟨hclock, settings, positional, hread, hadHoc, hreport⟩ := CommandLine.exists_flags_of_request hreq
    have hready : ∀ b, c.adHoc = some b → b.Ready := by
      intro b hb
      rw [hb] at hadHoc
      exact (CommandLine.Flags.ready_of_adHoc hadHoc).1
    have hzero := Program.run_eq_ok_iff hscript rfl hclock hready fun suite hsuite => hgather c suite hreq hsuite
    have hends : (code = 0 ↔ (Program.run host c Registry.core s).1 = .ok ()) ∧ (code = 0 ∨ code = 1) := by
      rw [hcode]
      cases hr : (Program.run host c Registry.core s).1 <;> simp [hr]
    rw [← hends.1] at hzero
    refine ⟨?_, ?_, by omega, ?_⟩
    · simp only [reduceCtorEq, exists_false, iff_false]
      omega
    · constructor
      · intro h
        obtain ⟨suite, hsuite⟩ := hzero.1 h
        exact .inr ⟨c, suite, rfl, hsuite⟩
      · rintro (h | ⟨c', suite, hc, hsuite⟩)
        · cases h
        · cases hc
          exact hzero.2 ⟨suite, hsuite⟩
    · intro c' b settings' positional' hc hb hpath hread' hexpect haccepted
      cases hc
      rw [hread] at hread'
      cases hread'
      rw [hb] at hadHoc
      obtain ⟨hr, hanswer⟩ := CommandLine.Flags.ready_of_adHoc hadHoc
      -- Without the flag, the expected answer is the word of the exact number.
      rw [CommandLine.Flags.expect_ofSettings hexpect, Option.getD_none] at hanswer
      refine hzero.2 ⟨⟨[b]⟩, by simp [Config.suiteIn, hb], by simp, ?_, ?_, ?_, .inl hpath⟩
      · simpa using hr.algorithm
      · simpa [hanswer] using toNat_fibWord hr.valid.le_maxIndex
      · simpa using haccepted

/-- Two workers take turns at the benchmarks of a file that is given from the root, as the report is. -/
theorem exitCode_invoke_turns :
    let args := ["-workers", "2", "-report", "/tmp/r.yaml", "/w/a.hcl"]
    let script : Script := { load := some (loadFrom .byName) }
    let c : Config :=
      { suitePaths := ["/w/a.hcl"], clock := "process", workers := 2, color := "auto", reportPath := "/tmp/r.yaml"
        logFormat := "text", logLevel := "warn" }
    let suite : Suite := ⟨[⟨"five", "naive", 5, 8, "ms", 1⟩, ⟨"six", "iterative", 6, 13, "ms", 1⟩]⟩
    let gather := (Runner.make Registry.core c.clock c.workers).scheduled (Program.rig script.host c) suite (Pool.turns 30)
    let content := "benchmark \"naive\" \"five\" \x7b\n  n = 5\n  expect = 8\n\x7d\n" ++
      "benchmark \"iterative\" \"six\" \x7b\n  n = 6\n  expect = 13\n\x7d\n"
    let s : Stage :=
      { files := ⟨.directory [("tmp", .directory []), ("w", .directory [("a.hcl", .file content)])], ["w"]⟩ }
    exitCode (invoke (script.hostOn false gather) args s).1 = 0 := by
  intro args script c suite gather content s
  have hreq : CommandLine.request args = .run c := by decide +kernel
  have hsuite : c.suiteIn .byName s.files = .ok suite := toOption_eq_some_iff.1 (by decide +kernel)
  have hscript : script.Reliable := ⟨fun _ => ⟨0, rfl⟩, fun _ => rfl⟩
  have hgather : ∀ c' suite', CommandLine.request args = .run c' → c'.suiteIn .byName s.files = .ok suite' →
      Program.CarriedOut (script.hostOn false gather) c' Registry.core suite' s ∧
      Program.LeftAlone (script.hostOn false gather) c' Registry.core suite' s := by
    intro c' suite' hc hsuite'
    rw [hreq] at hc
    cases hc
    rw [hsuite] at hsuite'
    cases hsuite'
    exact ⟨Program.carriedOut_scheduled Registry.core suite s (Pool.turns 30),
      Program.leftAlone_scheduled hscript rfl suite (by decide)⟩
  have hwritable : s.files.Writable c.reportPath := by
    have hok : (s.files.write c.reportPath "").isOk = true := by decide +kernel
    cases hwrite : s.files.write c.reportPath "" with
    | ok files => exact ⟨files, hwrite⟩
    | error cause =>
      rw [hwrite] at hok
      cases hok
  obtain ⟨_, hzero, _⟩ := exitCode_invoke (fun _ => 0) (fun _ => none) .byName false gather args s hgather
  exact hzero.2 (.inr ⟨c, suite, hreq, hsuite, by decide, by decide, by decide, fun _ _ => rfl, .inr hwritable⟩)

end FibTiming
