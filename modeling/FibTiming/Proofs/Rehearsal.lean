import FibTiming.Proofs.Outcome
import FibTiming.Proofs.Pool

/-!
# Rehearsed runs

On a reliable script every clock can be read and nothing tells the program to stop on its own.  A rehearsed run then
replies to its jobs as expected (`Script.keeps_unmoved`) and touches neither the printed text nor the files, and a
suite of known algorithms gets one result for each benchmark (`Runner.run_forall₂`).

Jobs can also be carried out by workers: what they return is what a pool holds when it is finished (`Runner.Gathers`).
Every schedule is one for workers (`Runner.exists_gathers_scheduled`), and whatever workers can come to, a schedule leads
to (`Runner.exists_scheduled`).
-/

namespace FibTiming

/-- All readings succeed, and the script does not tell the program to stop. -/
structure Script.Reliable (script : Script) : Prop where
  reading : ∀ i, ∃ t, script.reading i = .ok t
  interrupt : ∀ i, script.interrupt i = false

/-- The program has not been told to stop, and nothing has been printed or saved since. -/
structure Stage.Unmoved (since s : Stage) : Prop where
  cancelled : s.cancelled = false
  attempts : s.attempts = since.attempts
  printed : s.printed = since.printed
  files : s.files = since.files

theorem Stage.Unmoved.refl {s : Stage} (h : s.cancelled = false) : s.Unmoved s := ⟨h, rfl, rfl, rfl⟩

namespace Script

section Rig

variable (script : Script) (c : Config)

/-- Of the stage, a record touches nothing but the log. -/
theorem rig_log (r : Log.Record) (s : Stage) :
    ∃ log, ((Program.rig script.host c).log r s).2 = { s with log := log } := by
  show ∃ log, (Program.log script.host c r s).2 = _
  unfold Program.log
  split
  · exact ⟨_, rfl⟩
  · exact ⟨s.log, rfl⟩

private theorem rig_call {a : Algorithm} (ha : ∃ f, a.computation = .ofFunction f) (n : Int) (s : Stage) :
    ((Program.rig script.host c).call a n s).1 = a.computation.answer 1 n ∧
      ((Program.rig script.host c).call a n s).2.cancelled = (s.cancelled || script.interrupt (s.totalCalls + 1)) := by
  obtain ⟨f, hf⟩ := ha
  simp [Program.rig, Script.host, Script.call, hf, Computation.ofFunction]

/-- Whoever has been told to stop stays so. -/
private theorem cancelled_of_step {α : Type} (j : Job α) (s : Stage) (h : s.cancelled = true) :
    (j.step (Program.rig script.host c) s).2.cancelled = true := by
  cases j with
  | done r => exact h
  | now k next => exact h
  | call a n next =>
    show (s.cancelled || _) = true
    rw [h, Bool.true_or]
  | cancelled next => exact h
  | log r next =>
    obtain ⟨log, hlog⟩ := rig_log script c r s
    show ((Program.rig script.host c).log r s).2.cancelled = true
    rw [hlog]
    exact h

end Rig

variable {script : Script} {c : Config}

/-- On a reliable script the stage stays unmoved. -/
theorem keeps_unmoved (h : script.Reliable) (since : Stage) :
    (Program.rig script.host c).Keeps (.steady (· = false)) since.Unmoved where
  now k s hs := ⟨h.reading _, hs.1, hs.2, hs.3, hs.4⟩
  call a n s ha hs := by
    have hcall := rig_call script c ha n s
    refine ⟨hcall.1, ?_, hs.2, hs.3, hs.4⟩
    rw [hcall.2, hs.cancelled, h.interrupt]
    rfl
  cancelled s hs := ⟨hs.1, hs⟩
  log r s hs := by
    obtain ⟨log, hlog⟩ := rig_log script c r s
    rw [hlog]
    exact ⟨hs.1, hs.2, hs.3, hs.4⟩

/-- Until the run is told to stop, every look at the signal says so. -/
theorem lasting_uncancelled (h : script.Reliable) :
    Pool.Lasting (Program.rig script.host c) (.steady (· = false)) (fun s => s.cancelled = false) where
  keeps :=
    { now := fun k s hs => ((keeps_unmoved h s).now k s (.refl hs)).imp_right (·.cancelled)
      call := fun a n s ha hs => ((keeps_unmoved h s).call a n s ha (.refl hs)).imp_right (·.cancelled)
      cancelled := fun s hs => ((keeps_unmoved h s).cancelled s (.refl hs)).imp_right (·.cancelled)
      log := fun r s hs => ((keeps_unmoved h s).log r s (.refl hs)).cancelled }
  before_step j s hs := by
    -- The signal is never taken back.
    by_contra hn
    rw [Bool.not_eq_false] at hn
    rw [cancelled_of_step script c j s hn] at hs
    cases hs
  before_cancel s hs := by cases hs

/-- Whether the run is told to stop or not, its clocks can be read and its algorithms compute functions. -/
theorem lasting_any (h : script.Reliable) :
    Pool.Lasting (Program.rig script.host c) (.steady fun _ => True) (fun _ => True) where
  keeps :=
    { now := fun _ _ _ => ⟨h.reading _, trivial⟩
      call := fun _ n s ha _ => ⟨(rig_call script c ha n s).1, trivial⟩
      cancelled := fun _ _ => ⟨trivial, trivial⟩
      log := fun _ _ _ => trivial }
  before_step _ _ _ := trivial
  before_cancel _ _ := trivial

end Script

/-! ### Carrying jobs out in another way -/

/-- What a request comes to does not depend on how jobs are gathered. -/
private theorem Job.step_gather {α : Type} {m : Type → Type} [Monad m] (job : Job α) (rig : Rig m)
    (gather : Nat → List (m Result) → m (List Result)) : job.step { rig with gather := gather } = job.step rig := by
  cases job <;> rfl

private theorem Pool.Reaches.of_gather {rig : Rig (StateM Stage)} {workers : Nat} {p q : Pool}
    (h : Reaches rig workers p q) (gather : Nat → List (StateM Stage Result) → StateM Stage (List Result)) :
    Reaches { rig with gather := gather } workers p q := by
  induction h with
  | refl => exact .refl
  | tail _ hstep ih =>
    refine ih.tail ?_
    cases hstep with
    | take hfree => exact .take hfree
    | @work s before job i after waiting slots writes hjob =>
      rw [← Job.step_gather job rig gather]
      exact .work hjob
    | store => exact .store
    | cancel => exact .cancel

theorem Pool.Lasting.of_gather {rig : Rig (StateM Stage)} {R : Replies} {I : Stage → Prop} (h : Lasting rig R I)
    (gather : Nat → List (StateM Stage Result) → StateM Stage (List Result)) :
    Lasting { rig with gather := gather } R I where
  keeps := ⟨h.keeps.now, h.keeps.call, h.keeps.cancelled, h.keeps.log⟩
  before_step job s := by
    rw [Job.step_gather]
    exact h.before_step job s
  before_cancel := h.before_cancel

namespace Runner

/-- The pool in which a runner's workers carry out the benchmarks of a suite. -/
def pool (r : Runner) (suite : Suite) (s : Stage) : Pool :=
  .start s (suite.benchmarks.map fun b => r.runOn Job.rig b (r.clockFor suite.benchmarks.length))

/-- What a rig returns for the benchmarks of a suite. -/
def gathered {m : Type → Type} [Monad m] (r : Runner) (rig : Rig m) (suite : Suite) : m (List Result) :=
  rig.gather r.workers.toNat (suite.benchmarks.map fun b => r.runOn rig b (r.clockFor suite.benchmarks.length))

variable {σ : Type} {R : Replies} {I : σ → Prop} {rig : Rig (StateM σ)}

theorem logAll_keeps (hlog : ∀ r s, I s → I (rig.log r s).2) (records : List Log.Record) {s : σ} (hs : I s) :
    I (logAll rig records s).2 := by
  induction records generalizing s with
  | nil => exact hs
  | cons r rest ih => exact ih (hlog r s hs)

/-- Nothing runs when an algorithm is unknown. -/
theorem run_of_unknown {m : Type → Type} [Monad m] [LawfulMonad m] (r : Runner) (rig : Rig m) {suite : Suite}
    {e : UnknownAlgorithms} (h : r.registry.checkSuite suite = .error e) :
    r.run rig suite = (do logAll rig (r.registry.resolvedRecords suite); return .error e) := by
  simp [run, h]

theorem checkSuite_of_run {r : Runner} {suite : Suite} {s s' : σ} {rs : List Result}
    (h : r.run rig suite s = (.ok rs, s')) : r.registry.checkSuite suite = .ok () := by
  cases hcheck : r.registry.checkSuite suite with
  | ok u => rfl
  | error e =>
    rw [run_of_unknown r rig hcheck] at h
    cases h

/-- A suite whose algorithms are all known gets the results that its jobs are gathered to; before and after that there is
only something to log. -/
theorem exists_gathered (rig : Rig (StateM σ)) (hlog : ∀ r s, I s → I (rig.log r s).2) (r : Runner) {suite : Suite}
    (hknown : r.registry.checkSuite suite = .ok ()) {s : σ} (hs : I s) :
    ∃ s₁ record, I s₁ ∧ r.run rig suite s =
      (.ok (r.gathered rig suite s₁).1, (rig.log record (r.gathered rig suite s₁).2).2) := by
  have hlogged := logAll_keeps hlog (r.registry.resolvedRecords suite) hs
  unfold run
  simp only [hknown]
  by_cases hshare : r.sharesClock suite.benchmarks.length = true
  · simp only [hshare, ↓reduceIte]
    exact ⟨_, _, hlog _ _ (hlog _ _ hlogged), rfl⟩
  · simp only [hshare, Bool.false_eq_true, ↓reduceIte]
    exact ⟨_, _, hlog _ _ hlogged, rfl⟩

/-- Carried out in order, the jobs of such a suite give one result for each benchmark, which is what the benchmark's job
yields. -/
theorem run_forall₂ (hr : rig.Keeps R I) (hgather : rig.gather = fun _ jobs => inOrder jobs) (r : Runner)
    {suite : Suite} (hknown : r.registry.checkSuite suite = .ok ()) {Q : Benchmark → Result → Prop}
    (hjob : ∀ b ∈ suite.benchmarks,
      (r.runOn Job.rig b (r.clockFor suite.benchmarks.length)).Yields R (Q b)) {s : σ} (hs : I s) :
    ∃ rs s', r.run rig suite s = (.ok rs, s') ∧ List.Forall₂ Q suite.benchmarks rs ∧ I s' := by
  obtain ⟨s₁, record, hs₁, hrun⟩ := exists_gathered rig hr.log r hknown hs
  obtain ⟨hresults, hs₂⟩ := Job.inOrder_forall₂ hr _ _ (fun b => (Job.perform_runOn rig r b _).symm) hjob hs₁
  refine ⟨_, _, hrun, ?_, hr.log _ _ ?_⟩
  · rw [gathered, hgather]
    exact hresults
  · rw [gathered, hgather]
    exact hs₂

/-! ### Surroundings with workers -/

/-- What the rig returns for the benchmarks of a suite is what workers come to: the results of a pool that is finished, on
its stage. -/
structure Gathers (r : Runner) (rig : Rig (StateM Stage)) (suite : Suite) (s : Stage) (p : Pool) : Prop where
  reaches : Pool.Reaches rig r.workers.toNat (r.pool suite s) p
  finished : p.Finished
  slots : p.slots = (r.gathered rig suite s).1.map some
  stage : p.stage = (r.gathered rig suite s).2

section Gathers

variable {r : Runner} {rig : Rig (StateM Stage)} {suite : Suite} {s : Stage} {p : Pool}

/-- What the jobs yield as long as a property of the stage lasts, the workers return. -/
theorem Gathers.forall₂ (h : r.Gathers rig suite s p) {I : Stage → Prop} (hI : Pool.Lasting rig R I)
    {Q : Benchmark → Result → Prop} (hjob : ∀ b ∈ suite.benchmarks,
      (r.runOn Job.rig b (r.clockFor suite.benchmarks.length)).Yields R (Q b)) (hs : I p.stage) :
    List.Forall₂ Q suite.benchmarks (r.gathered rig suite s).1 := by
  have hresults := h.reaches.results hI hjob h.finished hs
  rw [h.slots, List.forall₂_map_right_iff] at hresults
  simpa only [Option.some.injEq, exists_eq_left'] using hresults

/-- Carrying the benchmarks out one after the other is what workers can come to. -/
theorem exists_gathers_of_inOrder (hw : 0 < r.workers.toNat) (h : r.gathered rig suite s =
    inOrder (suite.benchmarks.map fun b => r.runOn rig b (r.clockFor suite.benchmarks.length)) s) :
    ∃ p, r.Gathers rig suite s p := by
  have hjobs : (suite.benchmarks.map fun b => r.runOn Job.rig b (r.clockFor suite.benchmarks.length)).map
      (Job.perform rig) = suite.benchmarks.map fun b => r.runOn rig b (r.clockFor suite.benchmarks.length) := by
    rw [List.map_map]
    exact List.map_congr_left fun b _ => Job.perform_runOn rig r b _
  refine ⟨_, Pool.reaches_inOrder hw _ s, ⟨rfl, rfl⟩, ?_, ?_⟩
  · rw [h, hjobs]
  · rw [h, hjobs]

/-- All places of a finished pool hold results. -/
theorem exists_results (hp : Pool.Reaches rig r.workers.toNat (r.pool suite s) p) (hf : p.Finished) :
    ∃ rs : List Result, p.slots = rs.map some := by
  have hslots := hp.results (Q := fun _ _ => True) (Pool.lasting_true rig) (fun b _ => (Job.yields_any _)) hf trivial
  generalize suite.benchmarks = bs, p.slots = slots at hslots
  induction hslots with
  | nil => exact ⟨[], rfl⟩
  | cons hslot _ ih =>
    obtain ⟨res, rfl, _⟩ := hslot
    obtain ⟨rs, rfl⟩ := ih
    exact ⟨res :: rs, rfl⟩

/-- The workers follow a schedule through the benchmarks of a suite.  Where the schedule ends before the benchmarks do,
these are carried out in order instead. -/
def scheduled (r : Runner) (rig : Rig (StateM Stage)) (suite : Suite) (moves : List Pool.Move) (_ : Nat)
    (jobs : List (StateM Stage Result)) : StateM Stage (List Result) := fun s =>
  let p := (r.pool suite s).follow rig r.workers.toNat moves
  if p.active.isEmpty && p.waiting.isEmpty then (p.slots.filterMap id, p.stage) else inOrder jobs s

section Schedules

variable {moves : List Pool.Move}

private theorem gathered_of_finished (h : ((r.pool suite s).follow rig r.workers.toNat moves).Finished) :
    r.gathered { rig with gather := r.scheduled rig suite moves } suite s =
      (((r.pool suite s).follow rig r.workers.toNat moves).slots.filterMap id,
        ((r.pool suite s).follow rig r.workers.toNat moves).stage) := by
  simp only [gathered, scheduled, h.1, h.2, List.isEmpty_nil, Bool.and_self, ↓reduceIte]

private theorem gathered_of_unfinished (h : ¬ ((r.pool suite s).follow rig r.workers.toNat moves).Finished) :
    r.gathered { rig with gather := r.scheduled rig suite moves } suite s =
      inOrder (suite.benchmarks.map fun b => r.runOn { rig with gather := r.scheduled rig suite moves } b
        (r.clockFor suite.benchmarks.length)) s := by
  have hends : ¬ (((r.pool suite s).follow rig r.workers.toNat moves).active.isEmpty &&
      ((r.pool suite s).follow rig r.workers.toNat moves).waiting.isEmpty) = true := by
    simpa [Pool.Finished] using h
  simp only [gathered, scheduled, hends, Bool.false_eq_true, ↓reduceIte]

/-- A schedule that gets to the end returns what the workers have stored. -/
private theorem gathers_of_finished (h : ((r.pool suite s).follow rig r.workers.toNat moves).Finished) :
    r.Gathers { rig with gather := r.scheduled rig suite moves } suite s
      ((r.pool suite s).follow rig r.workers.toNat moves) := by
  have hreaches := Pool.reaches_follow rig r.workers.toNat (r.pool suite s) moves
  obtain ⟨rs, hrs⟩ := exists_results hreaches h
  refine ⟨hreaches.of_gather _, h, ?_, ?_⟩
  · rw [gathered_of_finished h, hrs]
    simp
  · rw [gathered_of_finished h]

/-- Whatever the schedule is, it is one for workers. -/
theorem exists_gathers_scheduled (rig : Rig (StateM Stage)) (hw : 0 < r.workers.toNat) (suite : Suite)
    (moves : List Pool.Move) (s : Stage) :
    ∃ p, r.Gathers { rig with gather := r.scheduled rig suite moves } suite s p := by
  by_cases h : ((r.pool suite s).follow rig r.workers.toNat moves).Finished
  · exact ⟨_, gathers_of_finished h⟩
  · exact exists_gathers_of_inOrder hw (gathered_of_unfinished h)

/-- Whatever a pool can come to, there is a schedule for it. -/
theorem exists_scheduled (hp : Pool.Reaches rig r.workers.toNat (r.pool suite s) p) (hf : p.Finished) :
    ∃ moves, r.Gathers { rig with gather := r.scheduled rig suite moves } suite s p := by
  obtain ⟨moves, rfl⟩ := Pool.reaches_iff_follow.1 hp
  exact ⟨moves, gathers_of_finished hf⟩

/-- A schedule on which nobody tells the run to stop keeps what replies keep. -/
theorem gathered_scheduled_keeps {I : Stage → Prop} (hr : rig.Keeps R I) (hjob : ∀ b ∈ suite.benchmarks,
      (r.runOn Job.rig b (r.clockFor suite.benchmarks.length)).Yields R fun _ => True) (hmoves : .cancel ∉ moves)
    (hs : I s) : I (r.gathered { rig with gather := r.scheduled rig suite moves } suite s).2 := by
  by_cases h : ((r.pool suite s).follow rig r.workers.toNat moves).Finished
  · have hkept : (r.pool suite s).Kept R I := by
      refine ⟨hs, fun x hx => by simp [pool, Pool.start] at hx, fun x hx => ?_⟩
      obtain ⟨b, hb, hx⟩ := List.mem_map.1 (List.fst_mem_of_mem_zipIdx hx)
      exact hx ▸ hjob b hb
    rw [gathered_of_finished h]
    exact (hkept.follow hr hmoves).stage
  · have hr' : Rig.Keeps { rig with gather := r.scheduled rig suite moves } R I :=
      ⟨hr.now, hr.call, hr.cancelled, hr.log⟩
    rw [gathered_of_unfinished h]
    exact (Job.inOrder_forall₂ hr' _ _ (fun b => (Job.perform_runOn _ r b _).symm) hjob hs).2

end Schedules

end Gathers

end Runner

end FibTiming
