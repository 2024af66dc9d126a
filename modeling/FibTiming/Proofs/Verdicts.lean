import FibTiming.Proofs.Publishing
import FibTiming.Proofs.StatusForms
import Mathlib.Tactic.TFAE

/-!
# All verdicts on results agree

A result of a run never passes with an error, and its error never has an empty text (`Result.Sound`), whatever the
algorithms answer, the clocks show and whenever the run is told to stop (`Runner.Returns.sound`).  This is why the
results, the report about them, their status lines and the program's own verdict all tell the same
(`Runner.verdicts_agree`).
-/

namespace FibTiming

/-- The text of an error is empty only when it was reported so. -/
private theorem RunError.message_ne_empty {e : RunError} (h : ∀ text, e ≠ .reported text) : e.message ≠ "" := by
  have happend : ∀ {front : String} (rest : String), front ≠ "" → front ++ rest ≠ "" := by
    intro front rest hfront
    simp [hfront]
  cases e with
  | reported text => exact absurd rfl (h text)
  | _ =>
    -- Every other text starts with words of its own.
    repeat' apply happend
    decide

namespace Report

private theorem verdict_eq_error_iff (r : Result) : verdict r = .error ↔ r.error ≠ none := by
  cases he : r.error <;> cases hp : r.passed <;> simp [verdict, he, hp]

/-- Exactly the results without the form of a pass count as failed. -/
private theorem failed_eq (r : Result) : r.failed = (verdict r != .pass) := by
  cases he : r.error <;> cases hp : r.passed <;> simp [verdict, Result.failed, he, hp]

private theorem verdict_eq_pass_iff (r : Result) : verdict r = .pass ↔ r.failed = false := by
  rw [failed_eq, bne_eq_false_iff_eq]

private theorem verdict_eq_fail_iff (r : Result) : verdict r = .fail ↔ r.error = none ∧ r.passed = false := by
  cases he : r.error <;> cases hp : r.passed <;> simp [verdict, he, hp]

end Report

namespace Result

/-- An error has a text, and a result with an error has not passed. -/
structure Sound (r : Result) : Prop where
  message : ∀ e, r.error = some e → e.message ≠ ""
  passed : r.error ≠ none → r.passed = false

variable {r : Result}

private theorem Sound.failed_eq_false_iff (h : r.Sound) : r.failed = false ↔ r.passed = true := by
  unfold failed
  cases he : r.error with
  | none => simp
  | some e => simp [h.passed (by simp [he])]

private theorem Sound.record_error_ne_empty_iff (h : r.Sound) :
    (Report.Record.ofResult r).error ≠ "" ↔ r.error ≠ none := by
  unfold Report.Record.ofResult
  cases he : r.error with
  | none => simp
  | some e => simp [h.message e he]

end Result

/-! ### Every result of a run is sound -/

/-- A benchmark that has not got its verdict yet, with no error that lacks a text. -/
structure Trial.Pending (t : Trial) : Prop where
  message : ∀ e, t.result.error = some e → e.message ≠ ""
  passed : t.result.passed = false

namespace Trial.Pending

variable {t : Trial}

private theorem record (h : t.Pending) (elapsed : Int64) (got : UInt64) : (t.record elapsed got).Pending := by
  obtain ⟨answer, first, least, error, hresult, herror⟩ := t.record_result elapsed got
  refine ⟨fun e he => ?_, ?_⟩
  · rw [hresult] at he
    rcases herror with rfl | rfl
    · exact h.message e he
    · cases he
      exact RunError.message_ne_empty (by simp)
  · rw [hresult]
    exact h.passed

private theorem interrupt (h : t.Pending) : t.interrupt.Pending := by
  refine ⟨?_, h.passed⟩
  rintro _ ⟨⟩
  exact RunError.message_ne_empty (by simp)

private theorem abort (h : t.Pending) (cause : String) : (t.abort cause).Pending := by
  refine ⟨?_, h.passed⟩
  rintro _ ⟨⟩
  exact RunError.message_ne_empty (by simp)

theorem sound (h : t.Pending) : t.result.Sound := ⟨h.message, fun _ => h.passed⟩

/-- The verdict looks at the error first. -/
private theorem finish (h : t.Pending) : t.finish.Sound := by
  have herror : t.finish.error = t.result.error := by
    unfold Trial.finish
    dsimp only
    split <;> rfl
  refine ⟨fun e he => h.message e (herror ▸ he), fun he => ?_⟩
  rw [herror] at he
  unfold Trial.finish
  dsimp only
  split
  all_goals
    cases hr : t.result.error with
    | none => exact absurd hr he
    | some e => rfl

end Trial.Pending

/-- No reply makes a benchmark pass before its verdict. -/
private theorem repeatCalls_pending (clock : ClockKind) (a : Algorithm) (n : Int) (left : Nat) {t : Trial}
    (h : t.Pending) :
    (repeatCalls Job.rig clock a n left t).Yields .any Trial.Pending :=
  repeatCalls_keeps trivial (fun _ elapsed got ht => ht.record elapsed got) (fun _ ht => ht.interrupt)
    (fun _ cause _ ht => ht.abort cause) n left h

namespace Runner

private theorem prepare_ne_reported {r : Runner} {b : Benchmark} {clock : String} {e : RunError}
    (h : r.prepare b clock = .error e) (text : String) : e ≠ .reported text := by
  rintro rfl
  unfold prepare at h
  split at h
  · cases h
  · split at h
    · cases h
    · split at h <;> cases h

private theorem runOn_sound (r : Runner) (b : Benchmark) (clock : String) :
    (r.runOn Job.rig b clock).Yields .any Result.Sound := by
  unfold runOn
  intro stop _
  cases stop with
  | true =>
    refine ⟨?_, fun _ => rfl⟩
    rintro _ ⟨⟩
    exact RunError.message_ne_empty (by simp)
  | false =>
    cases hp : r.prepare b clock with
    | error e =>
      refine ⟨?_, fun _ => rfl⟩
      rintro _ ⟨⟩
      exact RunError.message_ne_empty (prepare_ne_reported hp)
    | ok p =>
      have hpending : Trial.Pending { result := Result.pending b clock } := ⟨by simp [Result.pending], rfl⟩
      refine (repeatCalls_pending p.2 p.1 b.n (wantedRuns b) hpending).bind fun t ht => ?_
      split
      · exact ht.sound
      · exact ht.finish

/-- The results that a run of a suite can return on a rig, whatever its clocks show, its algorithms answer and its
signal says: when the benchmarks are carried out one after the other, and when workers carry them out, in whatever order
they get on and whenever the run is told to stop. -/
inductive Returns (r : Runner) (rig : Rig (StateM Stage)) (suite : Suite) (s : Stage) : List Result → Prop
  | inOrder {rs s'} (hgather : rig.gather = fun _ jobs => inOrder jobs) (h : r.run rig suite s = (.ok rs, s')) :
    Returns r rig suite s rs
  | pool {p rs} (h : Pool.Reaches rig r.workers.toNat (r.pool suite s) p) (hf : p.Finished)
      (hrs : p.slots = rs.map some) : Returns r rig suite s rs

theorem forall_of_forall₂ {α β : Type} {P : β → Prop} {as : List α} {bs : List β}
    (h : List.Forall₂ (fun _ b => P b) as bs) : ∀ b ∈ bs, P b := by
  induction h with
  | nil => simp
  | cons hb _ ih => exact List.forall_mem_cons.2 ⟨hb, ih⟩

section Returns

variable {r : Runner} {rig : Rig (StateM Stage)} {suite : Suite} {s : Stage} {rs : List Result}

/-- A run returns what the jobs of its benchmarks yield. -/
theorem Returns.forall₂ (h : r.Returns rig suite s rs) {R : Replies} (hr : rig.Keeps R fun _ => True)
    {Q : Benchmark → Result → Prop} (hjob : ∀ b ∈ suite.benchmarks,
      (r.runOn Job.rig b (r.clockFor suite.benchmarks.length)).Yields R (Q b)) :
    List.Forall₂ Q suite.benchmarks rs := by
  cases h with
  | @inOrder rs s' hgather h =>
    obtain ⟨rs', s'', hrun, hresults, _⟩ := run_forall₂ hr hgather r (checkSuite_of_run h) hjob (s := s) trivial
    rw [hrun] at h
    cases h
    exact hresults
  | @pool p rs h hf hrs =>
    have hlasting : Pool.Lasting rig R fun _ => True := ⟨hr, fun _ _ _ => trivial, fun _ _ => trivial⟩
    have hslots := h.results hlasting hjob hf trivial
    rw [hrs, List.forall₂_map_right_iff] at hslots
    simpa only [Option.some.injEq, exists_eq_left'] using hslots

theorem Returns.sound (h : r.Returns rig suite s rs) : ∀ res ∈ rs, res.Sound :=
  forall_of_forall₂ (h.forall₂ (Pool.lasting_true rig).keeps fun b _ => r.runOn_sound b _)

/-- What the workers have stored when a schedule has led them to the end, the run returns. -/
theorem exists_returns_of_follow (r : Runner) (rig : Rig (StateM Stage)) (suite : Suite) (s : Stage)
    (moves : List Pool.Move)
    (hactive : ((r.pool suite s).follow rig r.workers.toNat moves).active.isEmpty = true)
    (hwaiting : ((r.pool suite s).follow rig r.workers.toNat moves).waiting.isEmpty = true) :
    ∃ rs, ((r.pool suite s).follow rig r.workers.toNat moves).slots = rs.map some ∧ r.Returns rig suite s rs := by
  have hp := Pool.reaches_follow rig r.workers.toNat (r.pool suite s) moves
  have hfin := And.intro (List.isEmpty_iff.1 hactive) (List.isEmpty_iff.1 hwaiting)
  obtain ⟨rs, hrs⟩ := exists_results hp hfin
  exact ⟨rs, hrs, .pool hp hfin hrs⟩

end Returns

end Runner

/-! ### The verdict of the program -/

namespace Program

/-- The number of results that failed is that of the lines that show an error or a wrong answer. -/
private theorem failures_eq_count (rs : List Result) :
    failures rs = (rs.map Report.verdict).count .error + (rs.map Report.verdict).count .fail := by
  induction rs with
  | nil => rfl
  | cons res rs ih =>
    unfold failures at ih ⊢
    rw [List.filter_cons, Report.failed_eq, List.map_cons]
    cases Report.verdict res with
    | error =>
      simp [ih]
      omega
    | pass => simp [ih]
    | fail =>
      simp [ih]
      omega

variable {σ : Type} (host : Host (StateM σ)) (c : Config)

/-- Lines that cannot be printed are the only complaint about lines. -/
private theorem printLines_ne_mismatches (lines : List String) (s : σ) (n total : Nat) :
    (printLines host lines s).1 ≠ .error (.mismatches n total) := by
  induction lines generalizing s with
  | nil => simp [printLines, pure_apply]
  | cons line rest ih =>
    simp only [printLines, bind_apply]
    cases (host.print (line ++ "\n") s).1 with
    | error cause => simp [pure_apply]
    | ok u => exact ih _

private theorem saveReport_ne_mismatches (rs : List Result) (s : σ) (n total : Nat) :
    (saveReport host c rs s).1 ≠ .error (.mismatches n total) := by
  unfold saveReport
  split
  · simp [pure_apply]
  · simp only [bind_apply]
    cases (host.save c.reportPath (.ofResults rs) s).1 with
    | error e => simp [pure_apply]
    | ok u => simp [bind_apply, pure_apply]

variable {host c}

/-- Results are complained about by their number, and only when some failed. -/
private theorem publish_eq_mismatches {rs : List Result} {s : σ} {n total : Nat}
    (h : (publish host c rs s).1 = .error (.mismatches n total)) :
    n = failures rs ∧ total = rs.length ∧ failures rs ≠ 0 := by
  unfold publish at h
  simp only [bind_apply] at h
  cases hlines : (printLines host (statusLines host.terminal c.color rs) s).1 with
  | error e =>
    simp only [hlines, pure_apply] at h
    exact (printLines_ne_mismatches _ _ _ _ _ (hlines.trans h)).elim
  | ok u =>
    simp only [hlines, bind_apply] at h
    cases hreport : (saveReport host c rs (printLines host (statusLines host.terminal c.color rs) s).2).1 with
    | error e =>
      simp only [hreport, pure_apply] at h
      exact (saveReport_ne_mismatches _ _ _ _ _ _ (hreport.trans h)).elim
    | ok u =>
      simp only [hreport, bind_apply, pure_apply, verdict] at h
      split at h
      · cases h
      · rename_i hne
        cases h
        exact ⟨rfl, rfl, hne⟩

/-- The program has a suite run, gets these results and ends with publishing them. -/
def Publishes (host : Host (StateM σ)) (c : Config) (registry : Registry) (s : σ) (rs : List Result) : Prop :=
  ∃ suite s₁ s₂ s₃, (Runner.make registry c.clock c.workers).run (rig host c) suite s₁ = (.ok rs, s₂) ∧
    run host c registry s = publish host c rs s₃

theorem resolve_ne_mismatches (host : Host (StateM σ)) (c : Config) (s : σ) (n total : Nat) :
    (resolve host c s).1 ≠ .error (.mismatches n total) := by
  unfold resolve
  cases c.adHoc with
  | some b => simp [bind_apply, pure_apply]
  | none =>
    by_cases hpaths : c.suitePaths.isEmpty = true
    · simp only [hpaths, ↓reduceIte, bind_apply, pure_apply]
      simp
    · simp only [hpaths, Bool.false_eq_true, ↓reduceIte]
      cases host.load with
      | none => simp [pure_apply]
      | some load =>
        simp only [bind_apply, pure_apply]
        cases (load c.suitePaths s).1.2 <;> simp [Except.mapError]

/-- Running a suite ends with publishing the results, unless an algorithm is unknown. -/
private theorem runSuite_eq (registry : Registry) (suite : Suite) (s : σ) :
    (∃ e, (runSuite host c registry suite s).1 = .error (.unknownAlgorithms e)) ∨
      ∃ rs s₁ s₂ s₃, (Runner.make registry c.clock c.workers).run (rig host c) suite s₁ = (.ok rs, s₂) ∧
        runSuite host c registry suite s = publish host c rs s₃ := by
  unfold runSuite
  simp only [bind_apply]
  generalize (log host c _ (log host c _ s).2).2 = s₁
  cases hrun : ((Runner.make registry c.clock c.workers).run (rig host c) suite s₁).1 with
  | error e => exact .inl ⟨e, rfl⟩
  | ok rs => exact .inr ⟨rs, s₁, _, _, Prod.ext hrun rfl, rfl⟩

/-- Only results that have been published are complained about. -/
private theorem publishes_of_mismatches {registry : Registry} {s : σ} {n total : Nat}
    (h : (run host c registry s).1 = .error (.mismatches n total)) : ∃ rs, Publishes host c registry s rs := by
  unfold Publishes
  unfold run at h ⊢
  simp only [bind_apply] at h ⊢
  generalize (log host c _ (log host c _ (log host c _ s).2).2).2 = s₀ at h ⊢
  cases hresolve : (resolve host c s₀).1 with
  | error e =>
    simp only [hresolve, pure_apply] at h
    cases h
    exact (resolve_ne_mismatches _ _ _ _ _ hresolve).elim
  | ok suite =>
    simp only [hresolve] at h ⊢
    by_cases hempty : suite.benchmarks.isEmpty = true
    · simp [hempty, pure_apply] at h
    · simp only [hempty, Bool.false_eq_true, ↓reduceIte] at h ⊢
      rcases runSuite_eq registry suite (resolve host c s₀).2 with ⟨e, he⟩ | ⟨rs, s₁, s₂, s₃, hrun, hpublish⟩
      · rw [he] at h
        cases h
      · exact ⟨rs, suite, s₁, s₂, s₃, hrun, hpublish⟩

end Program

/-! ### All verdicts -/

/-- What is said of each single result. -/
theorem Result.Sound.verdicts {r : Result} (h : r.Sound) (color : Bool) :
    (Report.HasForm color (Report.statusLine color r) .error ↔ r.error ≠ none) ∧
      (r.error ≠ none ↔ (Report.Record.ofResult r).error ≠ "") ∧
      (Report.HasForm color (Report.statusLine color r) .pass ↔ r.passed = true) ∧
      (r.passed = true ↔ (Report.Record.ofResult r).passed = true) ∧
      (Report.HasForm color (Report.statusLine color r) .fail ↔ r.error = none ∧ r.passed = false) := by
  simp only [Report.hasForm_statusLine_iff]
  refine ⟨Report.verdict_eq_error_iff r, h.record_error_ne_empty_iff.symm, ?_, Iff.rfl, Report.verdict_eq_fail_iff r⟩
  rw [Report.verdict_eq_pass_iff, h.failed_eq_false_iff]

/-- The lines show as many errors and wrong answers as there are failures. -/
theorem Program.exists_forms (color : Bool) (rs : List Result) :
    ∃ forms, List.Forall₂ (Report.HasForm color) (rs.map (Report.statusLine color)) forms ∧
      failures rs = forms.count .error + forms.count .fail := by
  refine ⟨rs.map Report.verdict, ?_, failures_eq_count rs⟩
  rw [List.forall₂_map_left_iff, List.forall₂_map_right_iff, List.forall₂_same]
  exact fun res _ => Report.hasForm_statusLine color res

/-- Of the results that a run returns, the results themselves, their report, the records in it, their status lines and
the program's count tell the same, for all results and for each single one; and the program complains about as many of
them as there are lines that show an error or a wrong answer. -/
theorem Runner.verdicts_agree {r : Runner} {rig : Rig (StateM Stage)} {suite : Suite} {s : Stage} {rs : List Result}
    (h : r.Returns rig suite s rs) (color : Bool) :
    List.TFAE [Result.allPassed rs = true, (Report.Document.ofResults rs).passed = true,
      ∀ record ∈ (Report.Document.ofResults rs).records, record.passed = true,
      ∀ line ∈ rs.map (Report.statusLine color), Report.HasForm color line .pass, Program.failures rs = 0] ∧
    (∀ res ∈ rs,
      (Report.HasForm color (Report.statusLine color res) .error ↔ res.error ≠ none) ∧
      (res.error ≠ none ↔ (Report.Record.ofResult res).error ≠ "") ∧
      (Report.HasForm color (Report.statusLine color res) .pass ↔ res.passed = true) ∧
      (res.passed = true ↔ (Report.Record.ofResult res).passed = true) ∧
      (Report.HasForm color (Report.statusLine color res) .fail ↔ res.error = none ∧ res.passed = false)) ∧
    ∀ {σ : Type} (host : Host (StateM σ)) (c : Config) (registry : Registry) (t : σ) (n total : Nat),
      (Program.run host c registry t).1 = .error (.mismatches n total) →
        (∃ rs', Program.Publishes host c registry t rs') ∧
        (Program.Publishes host c registry t rs → Program.failures rs ≠ 0 ∧ total = rs.length ∧
          ∃ forms, List.Forall₂ (Report.HasForm (Report.colored host.terminal c.color))
            (Program.statusLines host.terminal c.color rs) forms ∧ n = forms.count .error + forms.count .fail) := by
  have hsound := h.sound
  have hall : Result.allPassed rs = true ↔ ∀ res ∈ rs, res.failed = false := by
    simp [Result.allPassed]
  refine ⟨?_, fun res hres => (hsound res hres).verdicts color, ?_⟩
  · tfae_have 1 ↔ 2 := Iff.rfl
    tfae_have 1 ↔ 3 := by
      rw [hall]
      show _ ↔ ∀ record ∈ rs.map Report.Record.ofResult, record.passed = true
      rw [List.forall_mem_map]
      exact forall₂_congr fun res hres => (hsound res hres).failed_eq_false_iff
    tfae_have 1 ↔ 4 := by
      rw [hall, List.forall_mem_map]
      refine forall₂_congr fun res _ => ?_
      rw [Report.hasForm_statusLine_iff, Report.verdict_eq_pass_iff]
    tfae_have 1 ↔ 5 := by
      rw [hall]
      simp [Program.failures]
    tfae_finish
  · intro σ host c registry t n total hrun
    refine ⟨Program.publishes_of_mismatches hrun, ?_⟩
    rintro ⟨_, _, _, t', _, hpublish⟩
    rw [hpublish] at hrun
    obtain ⟨rfl, rfl, hne⟩ := Program.publish_eq_mismatches hrun
    exact ⟨hne, rfl, Program.exists_forms ..⟩

/-- A counter gives a right answer, then one that changes, then a wrong one. -/
theorem Runner.verdicts_agree_counter :
    let registry : Registry := ⟨[⟨"count", "", { answer := fun call _ => UInt64.ofNat call }⟩]⟩
    let suite : Suite := ⟨[⟨"a", "count", 4, 1, "", 1⟩, ⟨"b", "count", 4, 2, "", 2⟩, ⟨"c", "count", 4, 0, "", 1⟩]⟩
    ∃ rs, (make registry "wall" 1).Returns (Program.rig ({} : Script).host {}) suite {} rs ∧
      rs.map Report.verdict = [.pass, .error, .fail] ∧
      List.TFAE [Result.allPassed rs = true, (Report.Document.ofResults rs).passed = true,
        ∀ record ∈ (Report.Document.ofResults rs).records, record.passed = true,
        ∀ line ∈ rs.map (Report.statusLine true), Report.HasForm true line .pass, Program.failures rs = 0] := by
  intro registry suite
  have hverdicts : ((make registry "wall" 1).run (Program.rig ({} : Script).host {}) suite {}).1.toOption.map
      (·.map Report.verdict) = some [.pass, .error, .fail] := by decide +kernel
  generalize hrun : (make registry "wall" 1).run (Program.rig ({} : Script).host {}) suite {} = outcome at hverdicts
  obtain ⟨_ | rs, s'⟩ := outcome
  · cases hverdicts
  · have hreturns := Returns.inOrder rfl hrun
    exact ⟨rs, hreturns, Option.some.inj hverdicts, (verdicts_agree hreturns true).1⟩

end FibTiming
