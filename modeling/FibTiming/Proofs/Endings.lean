import FibTiming.Proofs.Registry
import FibTiming.Proofs.Verdicts

/-!
# How a run of the program ends

The program ends at the first stage that fails: no suite is found, the suite is empty, an algorithm is unknown, a line
cannot be printed, the report cannot be saved, or some results failed.  For each of these endings `Program.run_endings`
says what has been printed, called and saved by then, whatever the clocks show, in whatever order the workers get on and
whenever the program is told to stop.  Until the benchmarks run, nothing but the log changes (`Stage.LogsTo`); while they
run, nothing is printed or saved (`Stage.Silent`).  The benchmarks are carried out by workers (`Program.CarriedOut`), and
every schedule of theirs is one to carry them out by (`Program.carriedOut_scheduled`), as is going through them in order
(`Program.carriedOut_inOrder`).
-/

namespace FibTiming

namespace Stage

/-- Nothing but the log changes from one stage to the other. -/
def LogsTo (s s' : Stage) : Prop := s' = { s with log := s'.log }

private theorem LogsTo.refl (s : Stage) : s.LogsTo s := rfl

private theorem LogsTo.trans {s₁ s₂ s₃ : Stage} (h₁₂ : s₁.LogsTo s₂) (h₂₃ : s₂.LogsTo s₃) : s₁.LogsTo s₃ := by
  unfold LogsTo at *
  rw [h₂₃, h₁₂]

/-- Nothing has been printed or saved since. -/
structure Silent (since s : Stage) : Prop where
  attempts : s.attempts = since.attempts
  printed : s.printed = since.printed
  files : s.files = since.files

private theorem LogsTo.silent {s s' : Stage} (h : s.LogsTo s') : s.Silent s' := by
  rw [h]
  exact ⟨rfl, rfl, rfl⟩

private theorem Silent.trans {s₁ s₂ s₃ : Stage} (h₁₂ : s₁.Silent s₂) (h₂₃ : s₂.Silent s₃) : s₁.Silent s₃ :=
  ⟨h₂₃.attempts.trans h₁₂.attempts, h₂₃.printed.trans h₁₂.printed, h₂₃.files.trans h₁₂.files⟩

end Stage

/-- The surroundings of a rehearsal that prints on a terminal or not and has its jobs carried out in a given way. -/
def Script.hostOn (script : Script) (terminal : Bool)
    (gather : Nat → List (StateM Stage Result) → StateM Stage (List Result)) : Host (StateM Stage) :=
  { script.host with terminal := terminal, gather := gather }

/-- The suite that a configuration stands for, with a way to load suites from files or without one. -/
def Config.suiteBy (c : Config) (load : Option (FileSystem → List String → List Log.Record × Except LoadError Suite))
    (files : FileSystem) : Except ProgramError Suite :=
  match c.adHoc with
  | some b => .ok ⟨[b]⟩
  | none =>
    if c.suitePaths = [] then .ok Suite.builtIn
    else
      match load with
      | none => .error .noLoader
      | some load => (load files c.suitePaths).2.mapError .loading

namespace Program

section

variable {script : Script} {terminal : Bool} {gather : Nat → List (StateM Stage Result) → StateM Stage (List Result)}
  {c : Config}

private theorem log_hostOn (r : Log.Record) (s : Stage) : s.LogsTo (log (script.hostOn terminal gather) c r s).2 := by
  obtain ⟨l, hl⟩ := Script.rig_log script c r s
  have hsame : (log (script.hostOn terminal gather) c r s).2 = { s with log := l } := hl
  rw [hsame]
  rfl

/-- What comes after a record goes on from a stage with another log. -/
private theorem log_bind_hostOn {α : Type} (r : Log.Record) (x : StateM Stage α) (s : Stage) :
    ∃ s₁, s.LogsTo s₁ ∧ (log (script.hostOn terminal gather) c r >>= fun _ => x) s = x s₁ :=
  ⟨_, log_hostOn r s, rfl⟩

theorem logAll_hostOn (records : List Log.Record) (s : Stage) :
    s.LogsTo (Runner.logAll (rig (script.hostOn terminal gather) c) records s).2 :=
  Runner.logAll_keeps (fun r _ hs => hs.trans (log_hostOn r _)) records (.refl s)

/-- While benchmarks run, nothing is printed or saved. -/
private theorem keeps_silent (since : Stage) : (rig (script.hostOn terminal gather) c).Keeps .any since.Silent where
  now _ _ hs := ⟨trivial, hs.1, hs.2, hs.3⟩
  call _ _ _ _ hs := ⟨trivial, hs.1, hs.2, hs.3⟩
  cancelled _ hs := ⟨trivial, hs⟩
  log r _ hs := hs.trans (log_hostOn r _).silent

/-! ### Up to the run -/

private theorem resolve_hostOn (script : Script) (terminal : Bool)
    (gather : Nat → List (StateM Stage Result) → StateM Stage (List Result)) (c : Config) (s : Stage) :
    (resolve (script.hostOn terminal gather) c s).1 = c.suiteBy script.load s.files ∧
      s.LogsTo (resolve (script.hostOn terminal gather) c s).2 := by
  unfold resolve Config.suiteBy
  cases c.adHoc with
  | some b => exact ⟨rfl, log_hostOn _ s⟩
  | none =>
    cases c.suitePaths with
    | nil => exact ⟨rfl, log_hostOn _ s⟩
    | cons p ps =>
      cases hload : script.load with
      | none =>
        have hnone : (script.hostOn terminal gather).load = none := by simp [Script.hostOn, Script.host, hload]
        simp only [hnone]
        exact ⟨rfl, .refl s⟩
      | some load =>
        have hsome : (script.hostOn terminal gather).load = some fun paths s => (load s.files paths, s) := by
          simp [Script.hostOn, Script.host, hload]
        simp only [hsome]
        exact ⟨rfl, logAll_hostOn _ s⟩

/-- Without a suite to run, the program ends with nothing but records in the log. -/
theorem run_hostOn (registry : Registry) (s : Stage) :
    ∃ s₁, s.LogsTo s₁ ∧ run (script.hostOn terminal gather) c registry s =
      match c.suiteBy script.load s.files with
      | .error e => (.error e, s₁)
      | .ok suite =>
        if suite.benchmarks = [] then (.error .emptySuite, s₁)
        else runSuite (script.hostOn terminal gather) c registry suite s₁ := by
  unfold run
  obtain ⟨s₁, h₁, heq₁⟩ := log_bind_hostOn _ _ s
  obtain ⟨s₂, h₂, heq₂⟩ := log_bind_hostOn _ _ s₁
  obtain ⟨s₃, h₃, heq₃⟩ := log_bind_hostOn _ _ s₂
  have hlog := (h₁.trans h₂).trans h₃
  obtain ⟨hfound, hlog'⟩ := resolve_hostOn script terminal gather c s₃
  rw [hlog.silent.files] at hfound
  rw [heq₁, heq₂, heq₃, bind_apply, hfound]
  refine ⟨_, hlog.trans hlog', ?_⟩
  cases c.suiteBy script.load s.files with
  | error e => rfl
  | ok suite =>
    by_cases hempty : suite.benchmarks = []
    · simp [hempty, pure_apply]
    · simp [hempty]

/-! ### The run -/

/-- The benchmarks of the suite are carried out by workers: whatever has been logged before, what the surroundings return
for them is what a pool comes to. -/
def CarriedOut (host : Host (StateM Stage)) (c : Config) (registry : Registry) (suite : Suite) (s : Stage) : Prop :=
  ∀ s₁, s.LogsTo s₁ → ∃ p, (Runner.make registry c.clock c.workers).Gathers (rig host c) suite s₁ p

/-- One after the other. -/
theorem carriedOut_inOrder (registry : Registry) (suite : Suite) (s : Stage) :
    CarriedOut (script.hostOn terminal fun _ jobs => inOrder jobs) c registry suite s :=
  fun _ _ => Runner.exists_gathers_of_inOrder (Runner.workers_make_pos ..) rfl

/-- By any schedule of the workers. -/
theorem carriedOut_scheduled (registry : Registry) (suite : Suite) (s : Stage) (moves : List Pool.Move) :
    CarriedOut (script.hostOn terminal
      ((Runner.make registry c.clock c.workers).scheduled (rig script.host c) suite moves)) c registry suite s :=
  fun s₁ _ => Runner.exists_gathers_scheduled (rig script.host c) (Runner.workers_make_pos ..) suite moves s₁

/-- The results that the program gets for a suite from the workers, one for each benchmark and in order. -/
structure Measured (host : Host (StateM Stage)) (c : Config) (registry : Registry) (s : Stage) (suite : Suite)
    (rs : List Result) : Prop where
  run : ∃ s₁ s₂, s.LogsTo s₁ ∧ (Runner.make registry c.clock c.workers).run (rig host c) suite s₁ = (.ok rs, s₂)
  workers : ∃ s₁ p, s.LogsTo s₁ ∧ (Runner.make registry c.clock c.workers).Gathers (rig host c) suite s₁ p ∧
    p.slots = rs.map some
  describes : List.Forall₂ (fun b res => res.Describes b) suite.benchmarks rs

private theorem runSuite_of_unknown {registry : Registry} {suite : Suite} {e : UnknownAlgorithms}
    (h : registry.checkSuite suite = .error e) (s : Stage) :
    (runSuite (script.hostOn terminal gather) c registry suite s).1 = .error (.unknownAlgorithms e) ∧
      s.LogsTo (runSuite (script.hostOn terminal gather) c registry suite s).2 := by
  unfold runSuite
  rw [Runner.run_of_unknown (r := Runner.make registry c.clock c.workers) (h := h)]
  refine ⟨rfl, ?_⟩
  exact ((log_hostOn _ s).trans (log_hostOn _ _)).trans (logAll_hostOn _ _)

private theorem Measured.of_logsTo {host : Host (StateM Stage)} {registry : Registry} {s s₁ : Stage} {suite : Suite}
    {rs : List Result} (h : Measured host c registry s₁ suite rs) (hlog : s.LogsTo s₁) :
    Measured host c registry s suite rs := by
  obtain ⟨⟨s₂, s₃, hlog', hrun⟩, ⟨s₄, p, hlog'', hgathers, hslots⟩, hdescribes⟩ := h
  exact ⟨⟨s₂, s₃, hlog.trans hlog', hrun⟩, ⟨s₄, p, hlog.trans hlog'', hgathers, hslots⟩, hdescribes⟩

private theorem runSuite_of_known {registry : Registry} {suite : Suite} (h : registry.checkSuite suite = .ok ())
    {s : Stage} (hgather : CarriedOut (script.hostOn terminal gather) c registry suite s) :
    ∃ rs s₁, Measured (script.hostOn terminal gather) c registry s suite rs ∧ s.Silent s₁ ∧
      runSuite (script.hostOn terminal gather) c registry suite s =
        publish (script.hostOn terminal gather) c rs s₁ := by
  unfold runSuite
  obtain ⟨s₀, h₀, heq₀⟩ := log_bind_hostOn _ _ s
  obtain ⟨s₁, h₁, heq₁⟩ := log_bind_hostOn _ _ s₀
  have hlog := h₀.trans h₁
  obtain ⟨s₂, record, hlog₂, hrun⟩ := Runner.exists_gathered (I := s.LogsTo)
    (rig (script.hostOn terminal gather) c) (fun r _ hs => hs.trans (log_hostOn r _))
    (Runner.make registry c.clock c.workers) h hlog
  obtain ⟨p, hgathers⟩ := hgather s₂ hlog₂
  have hdescribes := hgathers.forall₂ (Pool.lasting_true _) (fun b _ => Runner.runOn_describes _ b _) trivial
  -- The workers neither print nor save, and neither does whoever tells them to stop.
  have hsilent : s.Silent p.stage :=
    hgathers.reaches.keeps (keeps_silent s) (fun _ hs => ⟨hs.1, hs.2, hs.3⟩) hlog₂.silent
  rw [hgathers.stage] at hsilent
  rw [heq₀, heq₁, bind_apply, hrun]
  exact ⟨_, _, ⟨⟨s₁, _, hlog, hrun⟩, ⟨s₂, p, hlog₂, hgathers, hgathers.slots⟩, hdescribes⟩,
    (hsilent.trans (log_hostOn _ _).silent).trans (log_hostOn _ _).silent, rfl⟩

/-! ### After the run -/

private theorem printLines_hostOn (lines : List String) :
    printLines (script.hostOn terminal gather) lines = printLines script.host lines := by
  induction lines with
  | nil => rfl
  | cons line rest ih =>
    simp only [printLines, ih]
    rfl

/-- The program stops at the first line that is refused. -/
private theorem publish_of_refused {rs : List Result} {s : Stage} {k : Nat} {cause : String} (hk : k < rs.length)
    (h : ∀ i < k, script.refusal (s.attempts + i) = none) (hcause : script.refusal (s.attempts + k) = some cause) :
    publish (script.hostOn terminal gather) c rs s =
      (.error (.printing cause), s.printing (k + 1) (linesText ((statusLines terminal c.color rs).take k))) := by
  have hlines : printLines script.host (statusLines terminal c.color rs) s =
      (.error (.printing cause), s.printing (k + 1) (linesText ((statusLines terminal c.color rs).take k))) :=
    printLines_of_refused script _ (by simpa [statusLines] using hk) h hcause
  unfold publish
  rw [printLines_hostOn, bind_apply, show (script.hostOn terminal gather).terminal = terminal from rfl, hlines]
  rfl

/-- Once all lines are accepted, what is left is the report and the verdict. -/
private theorem publish_of_accepted {rs : List Result} {s : Stage}
    (h : ∀ i < rs.length, script.refusal (s.attempts + i) = none)
    {answer : Except ProgramError Unit} {s' : Stage}
    (hsave : saveReport (script.hostOn terminal gather) c rs
      (s.printing rs.length (linesText (statusLines terminal c.color rs))) = (answer, s')) :
    ∃ s'', s'.LogsTo s'' ∧
      publish (script.hostOn terminal gather) c rs s = (answer.bind fun _ => verdict rs, s'') := by
  have hlen : (statusLines terminal c.color rs).length = rs.length := by simp [statusLines]
  have hlines : printLines script.host (statusLines terminal c.color rs) s =
      (.ok (), s.printing rs.length (linesText (statusLines terminal c.color rs))) := by
    rw [← hlen] at h ⊢
    exact printLines_of_accepted script _ h
  unfold publish
  rw [printLines_hostOn, bind_apply, show (script.hostOn terminal gather).terminal = terminal from rfl, hlines]
  simp only [bind_apply, hsave]
  cases answer with
  | error e => exact ⟨s', .refl s', rfl⟩
  | ok u => exact ⟨_, log_hostOn _ s', rfl⟩

private theorem saveReport_of_no_path (hpath : c.reportPath = "") (rs : List Result) (s : Stage) :
    saveReport (script.hostOn terminal gather) c rs s = (.ok (), s) := by
  unfold saveReport
  rw [if_pos hpath]
  rfl

private theorem saveReport_of_error {rs : List Result} {s : Stage} {cause : FileCause} (hpath : c.reportPath ≠ "")
    (hcause : s.files.write c.reportPath (Report.Document.ofResults rs).render = .error cause) :
    saveReport (script.hostOn terminal gather) c rs s = (.error (.report (.create ⟨"open", c.reportPath, cause⟩)), s) := by
  have hsave : (script.hostOn terminal gather).save c.reportPath (.ofResults rs) s =
      (.error (.create ⟨"open", c.reportPath, cause⟩), s) := by
    simp only [Script.hostOn, Script.host, Script.save, hcause]
  unfold saveReport
  rw [if_neg hpath, bind_apply, hsave]
  rfl

private theorem saveReport_of_ok {rs : List Result} {s : Stage} {files : FileSystem} (hpath : c.reportPath ≠ "")
    (hfiles : s.files.write c.reportPath (Report.Document.ofResults rs).render = .ok files) :
    ∃ s', { s with files := files }.LogsTo s' ∧
      saveReport (script.hostOn terminal gather) c rs s = (.ok (), s') := by
  have hsave : (script.hostOn terminal gather).save c.reportPath (.ofResults rs) s =
      (.ok (), { s with files := files }) := by
    simp only [Script.hostOn, Script.host, Script.save, hfiles]
  unfold saveReport
  rw [if_neg hpath, bind_apply, hsave]
  exact ⟨_, log_hostOn _ _, rfl⟩

/-- What has been printed and saved when all is done: every line, and the report if one is asked for. -/
structure Published (terminal : Bool) (c : Config) (rs : List Result) (s s' : Stage) : Prop where
  printed : s'.printed = s.printed ++ linesText (statusLines terminal c.color rs)
  unreported : c.reportPath = "" → s'.files = s.files
  reported : c.reportPath ≠ "" → s.files.write c.reportPath (Report.Document.ofResults rs).render = .ok s'.files ∧
    s'.files.read? c.reportPath = some (Report.Document.ofResults rs).render

private theorem Published.of_silent {rs : List Result} {s s₁ s' : Stage} (h : Published terminal c rs s₁ s')
    (hs : s.Silent s₁) : Published terminal c rs s s' := by
  obtain ⟨hprinted, hunreported, hreported⟩ := h
  rw [hs.printed] at hprinted
  rw [hs.files] at hunreported hreported
  exact ⟨hprinted, hunreported, hreported⟩

/-- A report that cannot be saved takes the place of the verdict. -/
private theorem publish_of_unwritable {rs : List Result} {s : Stage}
    (h : ∀ i < rs.length, script.refusal (s.attempts + i) = none) (hpath : c.reportPath ≠ "") {cause : FileCause}
    (hcause : s.files.write c.reportPath (Report.Document.ofResults rs).render = .error cause) :
    ∃ s', publish (script.hostOn terminal gather) c rs s = (.error (.report (.create ⟨"open", c.reportPath, cause⟩)), s') ∧
      s'.printed = s.printed ++ linesText (statusLines terminal c.color rs) ∧ s'.files = s.files := by
  obtain ⟨s', hlog, heq⟩ := publish_of_accepted h (saveReport_of_error hpath hcause)
  exact ⟨s', heq, hlog.silent.printed, hlog.silent.files⟩

private theorem publish_of_writable {rs : List Result} {s : Stage}
    (h : ∀ i < rs.length, script.refusal (s.attempts + i) = none)
    (hreport : c.reportPath = "" ∨ s.files.Writable c.reportPath) :
    ∃ s', publish (script.hostOn terminal gather) c rs s = (verdict rs, s') ∧ Published terminal c rs s s' := by
  by_cases hpath : c.reportPath = ""
  · obtain ⟨s', hlog, heq⟩ := publish_of_accepted h (saveReport_of_no_path hpath rs _)
    exact ⟨s', heq, hlog.silent.printed, fun _ => hlog.silent.files, fun hne => absurd hpath hne⟩
  · obtain ⟨files, hfiles⟩ := (FileSystem.writable_iff s.files c.reportPath (Report.Document.ofResults rs).render).1
      (hreport.resolve_left hpath)
    obtain ⟨s₁, hs₁, hsave⟩ : ∃ s₁, _ ∧ saveReport (script.hostOn terminal gather) c rs
        (s.printing rs.length (linesText (statusLines terminal c.color rs))) = (.ok (), s₁) :=
      saveReport_of_ok hpath hfiles
    obtain ⟨s', hlog, heq⟩ := publish_of_accepted h hsave
    have hsilent := (hs₁.trans hlog).silent
    refine ⟨s', heq, hsilent.printed, fun hp => absurd hp hpath, fun _ => ?_⟩
    rw [hsilent.files]
    exact ⟨hfiles, FileSystem.read?_write hfiles⟩

/-- What becomes of results: their lines are printed in order up to the first that is refused, then the report is saved,
and then the verdict on them is given. -/
structure Delivers (script : Script) (terminal : Bool) (c : Config) (rs : List Result) (s : Stage)
    (outcome : Except ProgramError Unit) (s' : Stage) : Prop where
  refused : ∀ k < rs.length, ∀ cause, (∀ i < k, script.refusal (s.attempts + i) = none) →
    script.refusal (s.attempts + k) = some cause → outcome = .error (.printing cause) ∧ s'.files = s.files ∧
      s'.printed = s.printed ++ linesText ((statusLines terminal c.color rs).take k)
  unwritable : (∀ i < rs.length, script.refusal (s.attempts + i) = none) → c.reportPath ≠ "" → ∀ cause,
    s.files.write c.reportPath (Report.Document.ofResults rs).render = .error cause →
    outcome = .error (.report (.create ⟨"open", c.reportPath, cause⟩)) ∧ s'.files = s.files ∧
      s'.printed = s.printed ++ linesText (statusLines terminal c.color rs)
  published : (∀ i < rs.length, script.refusal (s.attempts + i) = none) →
    c.reportPath = "" ∨ s.files.Writable c.reportPath → outcome = verdict rs ∧ Published terminal c rs s s'

private theorem publish_delivers (rs : List Result) {s s₁ : Stage} (hs : s.Silent s₁) :
    Delivers script terminal c rs s (publish (script.hostOn terminal gather) c rs s₁).1
      (publish (script.hostOn terminal gather) c rs s₁).2 where
  refused k hk cause hbefore hcause := by
    rw [← hs.attempts] at hbefore hcause
    rw [publish_of_refused hk hbefore hcause, ← hs.printed, ← hs.files]
    exact ⟨rfl, rfl, rfl⟩
  unwritable hall hpath cause hcause := by
    rw [← hs.attempts] at hall
    rw [← hs.files] at hcause
    obtain ⟨s', heq, hprinted, hfiles⟩ := publish_of_unwritable hall hpath hcause
    rw [heq, ← hs.printed, ← hs.files]
    exact ⟨rfl, hfiles, hprinted⟩
  published hall hreport := by
    rw [← hs.attempts] at hall
    rw [← hs.files] at hreport
    obtain ⟨s', heq, hpublished⟩ := publish_of_writable hall hreport
    rw [heq]
    exact ⟨rfl, hpublished.of_silent hs⟩

/-- Wrong answers count as a failure only when all has been written. -/
private theorem Delivers.of_mismatches {rs : List Result} {s s' : Stage} {n total : Nat}
    (h : Delivers script terminal c rs s (.error (.mismatches n total)) s') :
    verdict rs = .error (.mismatches n total) ∧ Published terminal c rs s s' := by
  rcases accepted_or_refused script s.attempts rs.length with hall | ⟨k, hk, cause, hbefore, hcause⟩
  · by_cases hreport : c.reportPath = "" ∨ s.files.Writable c.reportPath
    · obtain ⟨hverdict, hpublished⟩ := h.published hall hreport
      exact ⟨hverdict.symm, hpublished⟩
    · rw [not_or] at hreport
      cases hw : s.files.write c.reportPath (Report.Document.ofResults rs).render with
      | ok files => exact absurd ((FileSystem.writable_iff ..).2 ⟨files, hw⟩) hreport.2
      | error cause => cases (h.unwritable hall hreport.1 cause hw).1
  · cases (h.refused k hk cause hbefore hcause).1

/-! ### All endings -/

section

variable {registry : Registry} {s : Stage} {suite : Suite}

theorem run_of_unresolved {e : ProgramError} (h : c.suiteBy script.load s.files = .error e) :
    (run (script.hostOn terminal gather) c registry s).1 = .error e ∧
      s.LogsTo (run (script.hostOn terminal gather) c registry s).2 := by
  obtain ⟨s₁, hlog, hrun⟩ := run_hostOn registry s
  rw [hrun, h]
  exact ⟨rfl, hlog⟩

theorem run_of_empty (h : c.suiteBy script.load s.files = .ok suite) (hempty : suite.benchmarks = []) :
    (run (script.hostOn terminal gather) c registry s).1 = .error .emptySuite ∧
      s.LogsTo (run (script.hostOn terminal gather) c registry s).2 := by
  obtain ⟨s₁, hlog, hrun⟩ := run_hostOn registry s
  rw [hrun, h]
  simp only [hempty, ↓reduceIte]
  exact ⟨trivial, hlog⟩

theorem run_of_unknown (h : c.suiteBy script.load s.files = .ok suite)
    (hunknown : ∃ b ∈ suite.benchmarks, b.algorithm ∉ registry.names) :
    (∃ e, (run (script.hostOn terminal gather) c registry s).1 = .error (.unknownAlgorithms e)) ∧
      s.LogsTo (run (script.hostOn terminal gather) c registry s).2 := by
  obtain ⟨b, hb, hnot⟩ := hunknown
  cases hcheck : registry.checkSuite suite with
  | ok u => exact absurd ((Registry.checkSuite_eq_ok_iff registry suite).1 hcheck b hb) hnot
  | error e =>
    obtain ⟨s₁, hlog, hrun⟩ := run_hostOn registry s
    obtain ⟨heq, hlog'⟩ := runSuite_of_unknown hcheck s₁
    rw [hrun, h]
    simp only [List.ne_nil_of_mem hb, ↓reduceIte]
    exact ⟨⟨e, heq⟩, hlog.trans hlog'⟩

theorem run_of_known (h : c.suiteBy script.load s.files = .ok suite) (hne : suite.benchmarks ≠ [])
    (hknown : ∀ b ∈ suite.benchmarks, b.algorithm ∈ registry.names)
    (hgather : CarriedOut (script.hostOn terminal gather) c registry suite s) :
    ∃ rs, Measured (script.hostOn terminal gather) c registry s suite rs ∧
      Delivers script terminal c rs s (run (script.hostOn terminal gather) c registry s).1
        (run (script.hostOn terminal gather) c registry s).2 := by
  obtain ⟨s₁, hlog, hrun⟩ := run_hostOn registry s
  obtain ⟨rs, s₂, hrs, hsilent, hpublish⟩ :=
    runSuite_of_known ((Registry.checkSuite_eq_ok_iff registry suite).2 hknown) fun s₂ h₂ => hgather s₂ (hlog.trans h₂)
  refine ⟨rs, hrs.of_logsTo hlog, ?_⟩
  rw [hrun, h]
  simp only [hne, ↓reduceIte, hpublish]
  exact publish_delivers rs (hlog.silent.trans hsilent)

/-- Wrong answers are complained about only when all lines and the report have been written. -/
private theorem published_of_mismatches (hgather : ∀ suite, c.suiteBy script.load s.files = .ok suite →
      CarriedOut (script.hostOn terminal gather) c registry suite s) {n total : Nat}
    (h : (run (script.hostOn terminal gather) c registry s).1 = .error (.mismatches n total)) :
    ∃ suite rs, c.suiteBy script.load s.files = .ok suite ∧
      Measured (script.hostOn terminal gather) c registry s suite rs ∧ verdict rs = .error (.mismatches n total) ∧
      Published terminal c rs s (run (script.hostOn terminal gather) c registry s).2 := by
  cases hsuite : c.suiteBy script.load s.files with
  | error e =>
    rw [(run_of_unresolved hsuite).1] at h
    cases h
    have hresolve := (resolve_hostOn script terminal gather c s).1.trans hsuite
    exact absurd hresolve (resolve_ne_mismatches _ _ _ _ _)
  | ok suite =>
    by_cases hempty : suite.benchmarks = []
    · rw [(run_of_empty hsuite hempty).1] at h
      cases h
    · by_cases hknown : ∀ b ∈ suite.benchmarks, b.algorithm ∈ registry.names
      · obtain ⟨rs, hrs, hdelivers⟩ := run_of_known hsuite hempty hknown (hgather suite hsuite)
        rw [h] at hdelivers
        exact ⟨suite, rs, rfl, hrs, hdelivers.of_mismatches⟩
      · obtain ⟨⟨e, he⟩, _⟩ : (∃ e, (run (script.hostOn terminal gather) c registry s).1 =
            .error (.unknownAlgorithms e)) ∧ _ := run_of_unknown hsuite (by simpa using hknown)
        rw [he] at h
        cases h

end

/-- However the workers get on with the benchmarks of the suite, the program ends as its first failing stage says, and
leaves what the stages before it have written.  Without a suite of known algorithms nothing is printed, called or saved.
Otherwise the results that the workers come to are delivered: their lines in the order of the benchmarks, up to the first
that is refused, then their report, and then the verdict on them, so that wrong answers count as a failure only after all
has been written. -/
theorem run_endings (registry : Registry) (s : Stage) (hgather : ∀ suite, c.suiteBy script.load s.files = .ok suite →
      CarriedOut (script.hostOn terminal gather) c registry suite s) :
    let host := script.hostOn terminal gather
    let outcome := (run host c registry s).1
    let s' := (run host c registry s).2
    (∀ e, c.suiteBy script.load s.files = .error e → outcome = .error e ∧ s.LogsTo s') ∧
    (∀ suite, c.suiteBy script.load s.files = .ok suite →
      (suite.benchmarks = [] → outcome = .error .emptySuite ∧ s.LogsTo s') ∧
      ((∃ b ∈ suite.benchmarks, b.algorithm ∉ registry.names) →
        (∃ e, outcome = .error (.unknownAlgorithms e)) ∧ s.LogsTo s') ∧
      (suite.benchmarks ≠ [] → (∀ b ∈ suite.benchmarks, b.algorithm ∈ registry.names) →
        ∃ rs, Measured host c registry s suite rs ∧ Delivers script terminal c rs s outcome s')) ∧
    ∀ n total, outcome = .error (.mismatches n total) →
      ∃ suite rs, c.suiteBy script.load s.files = .ok suite ∧ Measured host c registry s suite rs ∧
        verdict rs = .error (.mismatches n total) ∧ Published terminal c rs s s' := by
  intro host outcome s'
  refine ⟨fun e he => run_of_unresolved he, fun suite hsuite => ⟨?_, ?_, ?_⟩, fun n total h => ?_⟩
  · exact run_of_empty hsuite
  · exact run_of_unknown hsuite
  · exact fun hne hknown => run_of_known hsuite hne hknown (hgather suite hsuite)
  · exact published_of_mismatches hgather h

/-- Two workers take turns on the built-in suite, and the second line is refused. -/
theorem run_endings_second_line :
    let script : Script :=
      { reading := fun i => .ok (Int64.ofNat i), refusal := fun i => if i = 1 then some "full" else none }
    let c : Config := { reportPath := "/r/report.yaml", workers := 2, clock := "wall" }
    let host := script.hostOn true
      ((Runner.make Registry.core c.clock c.workers).scheduled (rig script.host c) Suite.builtIn (Pool.turns 60))
    let s : Stage := { files := ⟨.directory [("r", .directory [])], ["r"]⟩ }
    ∃ rs, Measured host c Registry.core s Suite.builtIn rs ∧
      (run host c Registry.core s).1 = .error (.printing "full") ∧
      (run host c Registry.core s).2.files = s.files ∧
      (run host c Registry.core s).2.printed = linesText ((statusLines true "" rs).take 1) := by
  intro script c host s
  have hsuite : c.suiteBy script.load s.files = .ok Suite.builtIn := rfl
  have hgather : ∀ suite, c.suiteBy script.load s.files = .ok suite → CarriedOut host c Registry.core suite s := by
    rintro suite hsuite'
    cases hsuite'
    exact carriedOut_scheduled Registry.core Suite.builtIn s (Pool.turns 60)
  obtain ⟨_, hfound, _⟩ := run_endings Registry.core s hgather
  obtain ⟨rs, hrs, hdelivers⟩ := (hfound Suite.builtIn hsuite).2.2 (by decide) (by decide)
  have hlen : rs.length = 5 := hrs.describes.length_eq.symm
  have hbefore : ∀ i < 1, script.refusal (s.attempts + i) = none := by
    intro i hi
    have hi' : i = 0 := by omega
    subst hi'
    rfl
  obtain ⟨houtcome, hfiles, hprinted⟩ := hdelivers.refused 1 (by omega) "full" hbefore rfl
  have hhost : script.hostOn true ((Runner.make Registry.core c.clock c.workers).scheduled (rig script.host c)
      Suite.builtIn (Pool.turns 60)) = host := rfl
  rw [hhost] at hrs houtcome hfiles hprinted
  exact ⟨rs, hrs, houtcome, hfiles, hprinted.trans String.empty_append⟩

end

end Program

end FibTiming
