import FibTiming.Proofs.Publishing
import FibTiming.Proofs.Registry

/-!
# Runs that are told to stop

A run with one worker that is told to stop during a call is compared with the same run undisturbed.  Up to that call the
two take the same readings and make the same calls (`Stage.Lockstep`).  From then on no algorithm is called: the
benchmark at hand is interrupted unless that was its last call, and the others are not started
(`Runner.run_stopped_during`).
-/

namespace FibTiming

/-! ### Stages -/

namespace Stage

private theorem foldl_add_one (calls : List (String × Nat)) (total : Nat) :
    calls.foldl (fun total c => total + c.2) (total + 1) = calls.foldl (fun total c => total + c.2) total + 1 := by
  induction calls generalizing total with
  | nil => rfl
  | cons c calls ih => rw [List.foldl_cons, List.foldl_cons, Nat.add_right_comm, ih]

private theorem foldl_countCall (name : String) (calls : List (String × Nat)) (total : Nat) :
    (countCall name calls).foldl (fun total c => total + c.2) total =
      calls.foldl (fun total c => total + c.2) total + 1 := by
  induction calls generalizing total with
  | nil => rfl
  | cons c calls ih =>
    unfold countCall
    split
    · exact foldl_add_one calls (total + c.2)
    · exact ih (total + c.2)

/-- Every call counts. -/
theorem totalCalls_of_countCall {s s' : Stage} {name : String} (h : s'.calls = countCall name s.calls) :
    s'.totalCalls = s.totalCalls + 1 := by
  rw [totalCalls, h]
  exact foldl_countCall name s.calls 0

/-- Two stages of the same run, of which the second is told to stop during call number `last` and the first is not.
They have taken the same readings and made the same calls. -/
structure Lockstep (last : Nat) (free s : Stage) : Prop where
  readings : s.readings = free.readings
  calls : s.calls = free.calls
  free_cancelled : free.cancelled = false
  cancelled : s.cancelled = decide (last ≤ s.totalCalls)
  within : s.totalCalls ≤ last

namespace Lockstep

variable {last : Nat} {free s : Stage}

private theorem totalCalls (h : Lockstep last free s) : s.totalCalls = free.totalCalls := by
  rw [Stage.totalCalls, h.calls, Stage.totalCalls]

private theorem cancelled_eq_false (h : Lockstep last free s) (hlt : s.totalCalls < last) : s.cancelled = false := by
  rw [h.cancelled, decide_eq_false_iff_not]
  omega

private theorem cancelled_eq_true (h : Lockstep last free s) (heq : s.totalCalls = last) : s.cancelled = true := by
  rw [h.cancelled, heq]
  simp

private theorem log (h : Lockstep last free s) (l l' : List (Log.Format × Log.Record)) :
    Lockstep last { free with log := l } { s with log := l' } :=
  ⟨h.readings, h.calls, h.free_cancelled, h.cancelled, h.within⟩

private theorem reading (h : Lockstep last free s) :
    Lockstep last { free with readings := free.readings + 1 } { s with readings := s.readings + 1 } :=
  ⟨by rw [h.readings], h.calls, h.free_cancelled, h.cancelled, h.within⟩

end Lockstep

end Stage

/-! ### Operations -/

/-- The algorithm does not tell the run it is part of to stop. -/
def Algorithm.Passive (a : Algorithm) : Prop := ∀ call, a.computation.cancels call = false

namespace Script

/-- The script that never tells the program to stop. -/
def undisturbed (script : Script) : Script := { script with interrupt := fun _ => false }

/-- The script that tells the program to stop during one call. -/
def stoppedDuring (script : Script) (last : Nat) : Script := { script with interrupt := fun call => call == last }

variable (script : Script) (c : Config)

/-- A stage with another log gets the same replies. -/
private theorem agree_log : (Program.rig script.host c).Agree (Program.rig script.host c)
    fun s s' => ∃ log, s' = { s with log := log } where
  now := by
    rintro k s _ ⟨log, rfl⟩
    exact ⟨rfl, log, rfl⟩
  call := by
    rintro a n s _ ⟨log, rfl⟩
    exact ⟨rfl, log, rfl⟩
  cancelled := by
    rintro s _ ⟨log, rfl⟩
    exact ⟨rfl, log, rfl⟩
  log := by
    rintro r s _ ⟨log, rfl⟩
    obtain ⟨l, hl⟩ := rig_log script c r s
    obtain ⟨l', hl'⟩ := rig_log script c r { s with log := log }
    exact ⟨l', by rw [hl, hl']⟩

/-- The number of calls never falls. -/
private theorem keeps_totalCalls (count : Nat) :
    (Program.rig script.host c).Keeps .any fun s => count ≤ s.totalCalls where
  now _ _ hs := ⟨trivial, hs⟩
  call a n s _ hs := by
    have hcalls : ((Program.rig script.host c).call a n s).2.totalCalls = s.totalCalls + 1 :=
      Stage.totalCalls_of_countCall rfl
    exact ⟨trivial, by omega⟩
  cancelled _ hs := ⟨trivial, hs⟩
  log r s hs := by
    obtain ⟨log, hlog⟩ := rig_log script c r s
    rw [hlog]
    exact hs

private theorem totalCalls_le_perform {α : Type} (j : Job α) (s : Stage) :
    s.totalCalls ≤ (j.perform (Program.rig script.host c) s).2.totalCalls :=
  (Job.Yields.perform (keeps_totalCalls script c s.totalCalls) j.yields_any (le_refl s.totalCalls)).2

variable {last : Nat} {free s : Stage}

/-- A call in both runs gets the same answer. -/
private theorem call_lockstep (script : Script) {a : Algorithm} (ha : a.Passive) (n : Int)
    (h : Stage.Lockstep last free s) (hlt : s.totalCalls < last) :
    ∃ answer free' s', script.undisturbed.call a n free = (answer, free') ∧
      (script.stoppedDuring last).call a n s = (answer, s') ∧ Stage.Lockstep last free' s' ∧
      s'.totalCalls = s.totalCalls + 1 := by
  have hcount : s.callCount a.name = free.callCount a.name := by rw [Stage.callCount, h.calls, Stage.callCount]
  have htotal : ((script.stoppedDuring last).call a n s).2.totalCalls = s.totalCalls + 1 :=
    Stage.totalCalls_of_countCall rfl
  refine ⟨_, _, _, rfl, ?_, ?_, htotal⟩
  · rw [← hcount]
    rfl
  · refine ⟨h.readings, ?_, ?_, ?_, by omega⟩
    · show Stage.countCall a.name s.calls = Stage.countCall a.name free.calls
      rw [h.calls]
    · show (free.cancelled || (a.computation.cancels _ || false)) = false
      rw [h.free_cancelled, ha]
      rfl
    · rw [htotal]
      show (s.cancelled || (a.computation.cancels _ || s.totalCalls + 1 == last)) = _
      rw [h.cancelled_eq_false hlt, ha, Bool.false_or, Bool.false_or, Bool.beq_eq_decide_eq, decide_eq_decide]
      omega

/-- A measurement step by step. -/
theorem measure_apply {σ ε α : Type} (now : StateM σ (Except ε Int64)) (work : StateM σ α) (s : σ) :
    measure now work s =
      match now s with
      | (.error e, s) => (.error e, s)
      | (.ok start, s) =>
        match now (work s).2 with
        | (.error e, s') => (.error e, s')
        | (.ok stop, s') => (.ok (stop - start, (work s).1), s') := by
  simp only [measure, bind_apply]
  rcases now s with ⟨e | start, s₁⟩
  · rfl
  · simp only [bind_apply]
    rcases now (work s₁).2 with ⟨e | stop, s₂⟩ <;> rfl

/-- So does a measured call, whether the clock can be read or not; only when it can is the call sure to happen. -/
private theorem measure_lockstep (script : Script) {a : Algorithm} (ha : a.Passive) (k : ClockKind) (n : Int)
    (h : Stage.Lockstep last free s) (hlt : s.totalCalls < last) :
    ∃ x free' s', measure (script.undisturbed.now k) (script.undisturbed.call a n) free = (x, free') ∧
      measure ((script.stoppedDuring last).now k) ((script.stoppedDuring last).call a n) s = (x, s') ∧
      Stage.Lockstep last free' s' ∧ ∀ p, x = .ok p → s'.totalCalls = s.totalCalls + 1 := by
  have hnow : ∀ free s : Stage, s.readings = free.readings →
      script.undisturbed.now k free = (script.reading free.readings, { free with readings := free.readings + 1 }) ∧
      (script.stoppedDuring last).now k s = (script.reading free.readings, { s with readings := s.readings + 1 }) := by
    intro free s hreadings
    rw [← hreadings]
    exact ⟨by rw [hreadings]; rfl, rfl⟩
  obtain ⟨hfree, hs⟩ := hnow free s h.readings
  rw [measure_apply, measure_apply, hfree, hs]
  cases script.reading free.readings with
  | error e => exact ⟨_, _, _, rfl, rfl, h.reading, by simp⟩
  | ok start =>
    obtain ⟨answer, free', s', hcall, hcall', hstep, htotal⟩ := call_lockstep script ha n h.reading hlt
    obtain ⟨hfree', hs'⟩ := hnow free' s' hstep.readings
    simp only [hcall, hcall', hfree', hs']
    cases script.reading free'.readings with
    | error e => exact ⟨_, _, _, rfl, rfl, hstep.reading, by simp⟩
    | ok stop => exact ⟨_, _, _, rfl, rfl, hstep.reading, fun _ _ => htotal⟩

end Script

/-! ### The repetitions of one benchmark -/

/-- The benchmark was interrupted after some of its calls. -/
structure Result.InterruptedAfter (m : Nat) (b : Benchmark) (r : Result) : Prop where
  describes : r.Describes b
  error : r.error = some (.interrupted b.name m)
  runs : r.runs = m
  passed : r.passed = false
  one_le : 1 ≤ m
  lt_wanted : (m : Int) < max 1 b.repetitions

/-- The benchmark was not started, because the run had been told to stop. -/
structure Result.NotStarted (b : Benchmark) (r : Result) : Prop where
  describes : r.Describes b
  error : r.error = some (.notStarted b.name)
  runs : r.runs = 0
  passed : r.passed = false

/-- The benchmark has been called a number of times. -/
structure Trial.Called (b : Benchmark) (m : Nat) (t : Trial) : Prop where
  aborted : t.aborted = false
  describes : t.result.Describes b
  runs : t.result.runs = m

namespace Trial.Called

variable {b : Benchmark} {m : Nat} {t : Trial}

private theorem record (h : Called b m t) (elapsed : Int64) (got : UInt64) :
    Called b (m + 1) (t.record elapsed got) := by
  obtain ⟨answer, first, least, error, hresult, _⟩ := t.record_result elapsed got
  refine ⟨h.aborted, ?_, ?_⟩
  · rw [hresult]
    obtain ⟨hname, halgorithm, hn, hexpect, hunit⟩ := h.describes
    exact ⟨hname, halgorithm, hn, hexpect, hunit⟩
  · have hruns := h.runs
    rw [hresult]
    show t.result.runs + 1 = _
    omega

/-- The result of a benchmark that ends because of the signal to stop. -/
private theorem interrupt (h : Called b m t) (hm : 1 ≤ m) (hlt : (m : Int) < max 1 b.repetitions) :
    t.interrupt.finish.InterruptedAfter m b := by
  obtain ⟨ha, ⟨hname, halgorithm, hn, hexpect, hunit⟩, hruns⟩ := h
  have hpos : t.result.runs > 0 := by omega
  unfold Trial.finish Trial.interrupt
  simp only [hpos, ↓reduceIte]
  exact ⟨⟨hname, halgorithm, hn, hexpect, hunit⟩, by rw [hname, hruns], hruns, rfl, hm, hlt⟩

end Trial.Called

section Repetitions

variable (script : Script) (c : Config) {last : Nat} {free s : Stage} {b : Benchmark} {a : Algorithm}

/-- The repetitions of a benchmark come to the same in both runs, unless the call at which the program is told to stop
is followed by another one. -/
private theorem repeatCalls_lockstep (ha : a.Passive) (k : ClockKind) (left : Nat) {m : Nat} {t : Trial}
    (ht : t.Called b m) (h : Stage.Lockstep last free s) (hstart : s.totalCalls < last ∨ 1 ≤ m) :
    (∃ t' free' s', repeatCalls (Program.rig script.undisturbed.host c) k a b.n left t free = (t', free') ∧
      repeatCalls (Program.rig (script.stoppedDuring last).host c) k a b.n left t s = (t', s') ∧
      Stage.Lockstep last free' s') ∨
    ∃ j < left, ∃ (t' : Trial) (s' : Stage),
      repeatCalls (Program.rig (script.stoppedDuring last).host c) k a b.n left t s = (t'.interrupt, s') ∧
      t'.Called b (m + j) ∧ 1 ≤ m + j ∧ s.totalCalls + j = last ∧ s'.totalCalls = last ∧ s'.cancelled = true ∧
      last ≤ (repeatCalls (Program.rig script.undisturbed.host c) k a b.n left t free).2.totalCalls := by
  induction left generalizing m t free s with
  | zero => exact .inl ⟨t, free, s, rfl, rfl, h⟩
  | succ left ih =>
    have hlook : ∀ (script : Script) (s : Stage), s.cancelled = false →
        (if t.result.runs > 0 then (Program.rig script.host c).cancelled else pure false) s = (false, s) := by
      intro script s hs
      split
      · show (s.cancelled, s) = _
        rw [hs]
      · rfl
    by_cases hlast : s.totalCalls = last
    · -- The program has been told to stop, and this is not the first call of the benchmark.
      have hm : 1 ≤ m := by omega
      have hruns : t.result.runs > 0 := by have := ht.runs; omega
      refine .inr ⟨0, by omega, t, s, ?_, ht, by omega, by omega, hlast, h.cancelled_eq_true hlast, ?_⟩
      · rw [repeatCalls_succ, bind_apply, if_pos hruns]
        show (if s.cancelled then _ else _ : StateM Stage Trial) s = _
        rw [if_pos (h.cancelled_eq_true hlast)]
        rfl
      · rw [← Job.perform_repeatCalls, ← hlast, h.totalCalls]
        exact Script.totalCalls_le_perform ..
    · have hlt : s.totalCalls < last := by have := h.within; omega
      obtain ⟨x, free₁, s₁, hfree, hs, hstep, htotal⟩ := Script.measure_lockstep script ha k b.n h hlt
      rw [repeatCalls_succ, repeatCalls_succ]
      simp only [bind_apply, hlook _ free h.free_cancelled, hlook _ s (h.cancelled_eq_false hlt), Bool.false_eq_true,
        ↓reduceIte]
      have hfree' : measure ((Program.rig script.undisturbed.host c).now k)
          ((Program.rig script.undisturbed.host c).call a b.n) free = (x, free₁) := hfree
      have hs' : measure ((Program.rig (script.stoppedDuring last).host c).now k)
          ((Program.rig (script.stoppedDuring last).host c).call a b.n) s = (x, s₁) := hs
      rw [hfree', hs']
      cases x with
      | error cause => exact .inl ⟨_, _, _, rfl, rfl, hstep⟩
      | ok p =>
        have hcalls := htotal p rfl
        rcases ih (ht.record p.1 p.2) hstep (.inr (by omega)) with hsame | ⟨j, hj, t', s', hrun, ht', hm, hat, hrest⟩
        · exact .inl hsame
        · refine .inr ⟨j + 1, by omega, t', s', hrun, ?_, by omega, by omega, hrest⟩
          rwa [show m + (j + 1) = m + 1 + j by omega]

end Repetitions

/-! ### Benchmarks -/

namespace Runner

variable (script : Script) (c : Config) {last : Nat} {free s : Stage} {r : Runner} {b : Benchmark} {clock : String}

/-- After the signal to stop, a benchmark is not started and no algorithm is called. -/
private theorem runOn_cancelled (r : Runner) (b : Benchmark) (clock : String) (hs : s.cancelled = true) :
    ∃ res log, r.runOn (Program.rig script.host c) b clock s = (res, { s with log := log }) ∧ res.NotStarted b := by
  have hlook : (Program.rig script.host c).cancelled s = (true, s) := by
    show (s.cancelled, s) = _
    rw [hs]
  unfold runOn
  simp only [bind_apply, hlook, ↓reduceIte]
  obtain ⟨log, hlog⟩ := Script.rig_log script c _ s
  rw [hlog]
  exact ⟨_, log, rfl, ⟨rfl, rfl, rfl, rfl, rfl⟩, rfl, rfl, rfl⟩

/-- A benchmark comes to the same in both runs or is interrupted, if it is started before the signal to stop. -/
theorem runOn_lockstep (hpassive : ∀ a k, r.prepare b clock = .ok (a, k) → a.Passive) (h : Stage.Lockstep last free s)
    (hlt : s.totalCalls < last) :
    (∃ res free' s', r.runOn (Program.rig script.undisturbed.host c) b clock free = (res, free') ∧
      r.runOn (Program.rig (script.stoppedDuring last).host c) b clock s = (res, s') ∧
      Stage.Lockstep last free' s') ∨
    ∃ m res s', r.runOn (Program.rig (script.stoppedDuring last).host c) b clock s = (res, s') ∧
      res.InterruptedAfter m b ∧ s.totalCalls + m = last ∧ s'.totalCalls = last ∧ s'.cancelled = true ∧
      last ≤ (r.runOn (Program.rig script.undisturbed.host c) b clock free).2.totalCalls := by
  have hlook : ∀ (script : Script) (s : Stage), s.cancelled = false →
      (Program.rig script.host c).cancelled s = (false, s) := by
    intro script s hs
    show (s.cancelled, s) = _
    rw [hs]
  unfold runOn
  simp only [bind_apply, hlook _ free h.free_cancelled, hlook _ s (h.cancelled_eq_false hlt), Bool.false_eq_true,
    ↓reduceIte]
  cases hp : r.prepare b clock with
  | error e => exact .inl ⟨_, _, _, rfl, rfl, h⟩
  | ok p =>
    obtain ⟨a, k⟩ := p
    simp only [bind_apply]
    obtain ⟨l, hl⟩ := Script.rig_log script.undisturbed c _ free
    obtain ⟨l', hl'⟩ := Script.rig_log (script.stoppedDuring last) c _ s
    rw [hl, hl']
    have hpending : Trial.Called b 0 { result := Result.pending b clock } := ⟨rfl, ⟨rfl, rfl, rfl, rfl, rfl⟩, rfl⟩
    rcases repeatCalls_lockstep script c (hpassive a k hp) k (wantedRuns b) hpending (h.log l l')
      (.inl hlt) with ⟨t, free₁, s₁, hfree, hs, hstep⟩ | ⟨m, hm, t, s₁, hs, ht, hone, hat, htotal, hcancelled, hle⟩
    · rw [hfree, hs]
      left
      by_cases haborted : t.aborted = true
      · simp only [haborted, ↓reduceIte]
        exact ⟨_, _, _, rfl, rfl, hstep⟩
      · simp only [haborted, Bool.false_eq_true, ↓reduceIte, bind_apply]
        obtain ⟨l₁, hl₁⟩ := Script.rig_log script.undisturbed c (verdictRecord b t.finish) free₁
        obtain ⟨l₂, hl₂⟩ := Script.rig_log (script.stoppedDuring last) c (verdictRecord b t.finish) s₁
        rw [hl₁, hl₂]
        exact ⟨_, _, _, rfl, rfl, hstep.log l₁ l₂⟩
    · rw [hs]
      rw [Nat.zero_add] at ht hone
      right
      have haborted : t.interrupt.aborted = false := ht.aborted
      have hwanted : (m : Int) < max 1 b.repetitions := by unfold wantedRuns at hm; omega
      simp only [haborted, Bool.false_eq_true, ↓reduceIte, bind_apply]
      obtain ⟨l₂, hl₂⟩ := Script.rig_log (script.stoppedDuring last) c (verdictRecord b t.interrupt.finish) s₁
      rw [hl₂]
      refine ⟨m, _, _, rfl, ht.interrupt hone hwanted, hat, htotal, hcancelled, le_trans hle ?_⟩
      -- What follows the last call of the undisturbed run is at most a record.
      split
      · exact le_rfl
      · obtain ⟨l₁, hl₁⟩ := Script.rig_log script.undisturbed c (verdictRecord b _) _
        simp only [bind_apply]
        rw [hl₁]
        exact le_rfl

/-! ### Suites -/

/-- The benchmarks of a list, one after the other on the runner's own clock. -/
def inTurn (r : Runner) (script : Script) (c : Config) (bs : List Benchmark) : StateM Stage (List Result) :=
  inOrder (bs.map fun b => r.runOn (Program.rig script.host c) b r.clock)

private theorem inTurn_cons (r : Runner) (b : Benchmark) (bs : List Benchmark) (s : Stage) :
    r.inTurn script c (b :: bs) s =
      ((r.runOn (Program.rig script.host c) b r.clock s).1 ::
        (r.inTurn script c bs (r.runOn (Program.rig script.host c) b r.clock s).2).1,
        (r.inTurn script c bs (r.runOn (Program.rig script.host c) b r.clock s).2).2) := rfl

/-- The results of the first benchmarks come first. -/
private theorem inTurn_append_fst (r : Runner) (bs bs' : List Benchmark) (s : Stage) :
    (r.inTurn script c bs s).1 <+: (r.inTurn script c (bs ++ bs') s).1 := by
  induction bs generalizing s with
  | nil => exact List.nil_prefix
  | cons b bs ih =>
    rw [List.cons_append, inTurn_cons, inTurn_cons]
    exact (List.prefix_cons_inj _).2 (ih _)

private theorem totalCalls_le_inTurn (r : Runner) (bs : List Benchmark) (s : Stage) :
    s.totalCalls ≤ (r.inTurn script c bs s).2.totalCalls := by
  have hjobs := Job.inOrder_forall₂ (Script.keeps_totalCalls script c s.totalCalls) _
    (fun b => r.runOn Job.rig b r.clock) (fun b => (Job.perform_runOn _ r b r.clock).symm)
    (fun b (_ : b ∈ bs) => Job.yields_any _) (le_refl s.totalCalls)
  exact hjobs.2

/-- After the signal to stop no benchmark is started. -/
private theorem inTurn_cancelled (r : Runner) (bs : List Benchmark) (hs : s.cancelled = true) :
    List.Forall₂ Result.NotStarted bs (r.inTurn script c bs s).1 ∧
      (r.inTurn script c bs s).2.totalCalls = s.totalCalls := by
  induction bs generalizing s with
  | nil => exact ⟨.nil, rfl⟩
  | cons b bs ih =>
    obtain ⟨res, log, hrun, hres⟩ := runOn_cancelled script c r b r.clock hs
    rw [inTurn_cons, hrun]
    obtain ⟨hrest, htotal⟩ := ih (s := { s with log := log }) hs
    exact ⟨.cons hres hrest, htotal⟩

/-- How the results of benchmarks are divided when the program is told to stop during call number `last`.  First come
the results `whole` of benchmarks that ran to their ends, up to call number `calls`.  Then at most one benchmark is
interrupted, after the calls that were left for it, and the others are not started.  If none is interrupted although
some are not started, the signal came with the last call of those that ran to their ends. -/
structure Divided (last calls : Nat) (cut others : List Benchmark) (whole rs : List Result) : Prop where
  cut_length : cut.length ≤ 1
  results : ∃ cutResults otherResults, rs = whole ++ (cutResults ++ otherResults) ∧
    List.Forall₂ (fun b res => ∃ m, calls + m = last ∧ res.InterruptedAfter m b) cut cutResults ∧
    List.Forall₂ Result.NotStarted others otherResults
  calls_eq : cut = [] → others ≠ [] → calls = last

/-- Benchmarks in turn come to results that are divided. -/
theorem inTurn_divided (bs : List Benchmark)
    (hpassive : ∀ b ∈ bs, ∀ a k, r.prepare b r.clock = .ok (a, k) → a.Passive) (h : Stage.Lockstep last free s) :
    (r.inTurn (script.stoppedDuring last) c bs s).2.totalCalls =
      min last (r.inTurn script.undisturbed c bs free).2.totalCalls ∧
    ∃ first cut others, bs = first ++ (cut ++ others) ∧
      Divided last (r.inTurn script.undisturbed c first free).2.totalCalls cut others
        (r.inTurn script.undisturbed c first free).1 (r.inTurn (script.stoppedDuring last) c bs s).1 := by
  induction bs generalizing free s with
  | nil =>
    have htotal := h.totalCalls
    have hwithin := h.within
    refine ⟨?_, [], [], [], rfl, by simp, ⟨[], [], rfl, .nil, .nil⟩, by simp⟩
    show s.totalCalls = min last free.totalCalls
    omega
  | cons b bs ih =>
    have htotal := h.totalCalls
    by_cases hlast : s.totalCalls = last
    · -- The program was told to stop before this benchmark.
      obtain ⟨hrest, hcalls⟩ := inTurn_cancelled (script.stoppedDuring last) c r (b :: bs) (h.cancelled_eq_true hlast)
      have hle := totalCalls_le_inTurn script.undisturbed c r (b :: bs) free
      refine ⟨by omega, [], [], b :: bs, rfl, by simp, ⟨[], _, rfl, .nil, hrest⟩, fun _ _ => ?_⟩
      show free.totalCalls = last
      omega
    · have hlt : s.totalCalls < last := by have := h.within; omega
      rcases runOn_lockstep script c (hpassive b (by simp)) h hlt with
        ⟨res, free', s', hfree, hs, hstep⟩ | ⟨m, res, s', hs, hres, hm, hcalls, hcancelled, hle⟩
      · obtain ⟨hmin, first, cut, others, rfl, hdivided⟩ := ih (fun b hb => hpassive b (by simp [hb])) hstep
        obtain ⟨cutResults, otherResults, hrs, hcut, hothers⟩ := hdivided.results
        rw [inTurn_cons, inTurn_cons, hfree, hs]
        refine ⟨hmin, b :: first, cut, others, rfl, ?_⟩
        rw [inTurn_cons, hfree]
        exact ⟨hdivided.cut_length, ⟨cutResults, otherResults, by rw [hrs]; rfl, hcut, hothers⟩, hdivided.calls_eq⟩
      · -- The signal came during this benchmark, with calls still to make.
        obtain ⟨hrest, hsame⟩ := inTurn_cancelled (script.stoppedDuring last) c r bs hcancelled
        have hmono := totalCalls_le_inTurn script.undisturbed c r bs
          (r.runOn (Program.rig script.undisturbed.host c) b r.clock free).2
        rw [inTurn_cons, inTurn_cons, hs]
        refine ⟨by simp only; omega, [], [b], bs, rfl, by simp,
          ⟨[res], _, rfl, .cons ⟨m, ?_, hres⟩ .nil, hrest⟩, by simp⟩
        show free.totalCalls + m = last
        omega

/-! ### Runs -/

private theorem logAll_rig (records : List Log.Record) (s : Stage) :
    ∃ log, (logAll (Program.rig script.host c) records s).2 = { s with log := log } := by
  induction records generalizing s with
  | nil => exact ⟨s.log, rfl⟩
  | cons record records ih =>
    obtain ⟨l, hl⟩ := Script.rig_log script c record s
    simp only [logAll, bind_apply, hl]
    exact ih { s with log := l }

/-- What comes of benchmarks in turn does not depend on the log. -/
private theorem inTurn_log (r : Runner) (bs : List Benchmark) (s : Stage) (log : List (Log.Format × Log.Record)) :
    ∃ log', r.inTurn script c bs { s with log := log } =
      ((r.inTurn script c bs s).1, { (r.inTurn script c bs s).2 with log := log' }) := by
  have hjob : ∀ b, r.runOn (Program.rig script.host c) b r.clock =
      (r.runOn Job.rig b r.clock).perform (Program.rig script.host c) :=
    fun b => (Job.perform_runOn _ r b r.clock).symm
  have hrelated : ∃ l, { s with log := log } = { s with log := l } := ⟨log, rfl⟩
  obtain ⟨hresults, log', hstage⟩ := Job.inOrder_agree (Script.agree_log script c) _ _ _ hjob hjob bs hrelated
  exact ⟨log', Prod.ext hresults.symm hstage⟩

/-- A run with one worker carries out the benchmarks in turn; besides that it only writes to the log. -/
theorem run_one_worker {registry : Registry} {suite : Suite} (hknown : registry.checkSuite suite = .ok ())
    (clock : String) (s : Stage) :
    ∃ log, (make registry clock 1).run (Program.rig script.host c) suite s =
      (.ok ((make registry clock 1).inTurn script c suite.benchmarks s).1,
        { ((make registry clock 1).inTurn script c suite.benchmarks s).2 with log := log }) := by
  have hshares : (make registry clock 1).sharesClock suite.benchmarks.length = false := by
    simp [sharesClock, make]
  have hclock : (make registry clock 1).clockFor suite.benchmarks.length = (make registry clock 1).clock := by
    simp [clockFor, hshares]
  have hchecked : (make registry clock 1).registry.checkSuite suite = .ok () := hknown
  have hframe : ∃ log record, (make registry clock 1).run (Program.rig script.host c) suite s =
      (.ok ((make registry clock 1).inTurn script c suite.benchmarks { s with log := log }).1,
        ((Program.rig script.host c).log record
          ((make registry clock 1).inTurn script c suite.benchmarks { s with log := log }).2).2) := by
    unfold run
    simp only [bind_apply, hchecked, hshares, hclock, Bool.false_eq_true, ↓reduceIte]
    obtain ⟨l₁, hl₁⟩ := logAll_rig script c _ s
    rw [hl₁]
    obtain ⟨l₂, hl₂⟩ := Script.rig_log script c _ { s with log := l₁ }
    rw [hl₂]
    exact ⟨l₂, _, rfl⟩
  obtain ⟨log, record, hrun⟩ := hframe
  obtain ⟨log', hturn⟩ := inTurn_log script c (make registry clock 1) suite.benchmarks s log
  obtain ⟨log'', hlog⟩ := Script.rig_log script c record
    ((make registry clock 1).inTurn script c suite.benchmarks { s with log := log }).2
  rw [hrun, hlog, hturn]
  exact ⟨log'', rfl⟩

private theorem passive_of_prepare {registry : Registry} (hpassive : ∀ a ∈ registry.algorithms, a.Passive)
    (hr : r.registry = registry) (a : Algorithm) (k : ClockKind) (h : r.prepare b clock = .ok (a, k)) : a.Passive := by
  have hlookup := lookup_of_prepare h
  rw [hr, Registry.lookup] at hlookup
  split at hlookup
  · rename_i a' hfind
    cases hlookup
    exact hpassive a (List.mem_of_find?_eq_some hfind)
  · cases hlookup

/-- A run with one worker is told to stop during its call number `k`, or before it starts when `k` is zero.  It makes no
call after that one.  The first benchmarks come to the results of the undisturbed run, and this includes the one whose
last call was the one with the signal.  Then at most one benchmark is interrupted, with calls made and calls still to
make, and the others are not started, whether they could have been called or not. -/
theorem run_stopped_during {registry : Registry} {suite : Suite}
    (hknown : ∀ b ∈ suite.benchmarks, b.algorithm ∈ registry.names) (hpassive : ∀ a ∈ registry.algorithms, a.Passive)
    (clock : String) (script : Script) (c : Config) (s : Stage) (k : Nat) :
    let r := make registry clock 1
    let undisturbed := Program.rig script.undisturbed.host c
    let stopped := Program.rig (script.stoppedDuring (s.totalCalls + k)).host c
    ∃ whole free rs s', r.run undisturbed suite { s with cancelled := false } = (.ok whole, free) ∧
      r.run stopped suite { s with cancelled := k == 0 } = (.ok rs, s') ∧
      (∃ total, free.totalCalls = s.totalCalls + total ∧ s'.totalCalls = s.totalCalls + min k total) ∧
      ∃ first cut others firstResults firstFree, suite.benchmarks = first ++ (cut ++ others) ∧
        r.run undisturbed ⟨first⟩ { s with cancelled := false } = (.ok firstResults, firstFree) ∧
        firstResults <+: whole ∧
        Divided (s.totalCalls + k) firstFree.totalCalls cut others firstResults rs := by
  intro r undisturbed stopped
  have hlockstep : Stage.Lockstep (s.totalCalls + k) { s with cancelled := false } { s with cancelled := k == 0 } := by
    refine ⟨rfl, rfl, rfl, ?_, ?_⟩
    · show (k == 0) = decide (s.totalCalls + k ≤ s.totalCalls)
      rw [Bool.beq_eq_decide_eq, decide_eq_decide]
      omega
    · show s.totalCalls ≤ s.totalCalls + k
      omega
  obtain ⟨hmin, first, cut, others, hsplit, hdivided⟩ := inTurn_divided (r := r) script c suite.benchmarks
    (fun b _ => passive_of_prepare hpassive rfl) hlockstep
  have hfirst : ∀ b ∈ first, b.algorithm ∈ registry.names := fun b hb => hknown b (by simp [hsplit, hb])
  obtain ⟨l₁, hwhole⟩ := run_one_worker script.undisturbed c ((Registry.checkSuite_eq_ok_iff _ suite).2 hknown) clock
    { s with cancelled := false }
  obtain ⟨l₂, hstopped⟩ := run_one_worker (script.stoppedDuring (s.totalCalls + k)) c
    ((Registry.checkSuite_eq_ok_iff _ suite).2 hknown) clock { s with cancelled := k == 0 }
  obtain ⟨l₃, hfirstRun⟩ := run_one_worker script.undisturbed c
    ((Registry.checkSuite_eq_ok_iff _ ⟨first⟩).2 hfirst) clock { s with cancelled := false }
  have hle :
      s.totalCalls ≤ (r.inTurn script.undisturbed c suite.benchmarks { s with cancelled := false }).2.totalCalls :=
    totalCalls_le_inTurn script.undisturbed c r suite.benchmarks { s with cancelled := false }
  refine ⟨_, _, _, _, hwhole, hstopped, ?_, first, cut, others, _, _, hsplit, hfirstRun, ?_, hdivided⟩
  · refine ⟨(r.inTurn script.undisturbed c suite.benchmarks { s with cancelled := false }).2.totalCalls - s.totalCalls,
      ?_, ?_⟩
    · show (r.inTurn script.undisturbed c suite.benchmarks { s with cancelled := false }).2.totalCalls = _
      omega
    · show (r.inTurn _ c suite.benchmarks { s with cancelled := k == 0 }).2.totalCalls = _
      omega
  · rw [hsplit]
    exact inTurn_append_fst ..

/-- An algorithm that counts its calls, told to stop during the second of three, before a benchmark out of range. -/
theorem run_stopped_during_second :
    let registry : Registry := ⟨[⟨"count", "", { answer := fun call _ => UInt64.ofNat call }⟩]⟩
    let suite : Suite := ⟨[⟨"a", "count", 4, 1, "", 3⟩, ⟨"b", "count", 93, 0, "", 1⟩]⟩
    (∀ b ∈ suite.benchmarks, b.algorithm ∈ registry.names) ∧ (∀ a ∈ registry.algorithms, a.Passive) ∧
    ∃ rs s', (make registry "" 1).run (Program.rig (({} : Script).stoppedDuring 2).host {}) suite {} = (.ok rs, s') ∧
      s'.totalCalls ≤ 2 ∧ ∃ first cut others whole calls, suite.benchmarks = first ++ (cut ++ others) ∧
        Divided 2 calls cut others whole rs := by
  intro registry suite
  have hknown : ∀ b ∈ suite.benchmarks, b.algorithm ∈ registry.names := by decide
  have hpassive : ∀ a ∈ registry.algorithms, a.Passive := by
    intro a ha
    rw [List.mem_singleton.1 ha]
    exact fun _ => rfl
  obtain ⟨_, _, rs, s', _, hstopped, ⟨total, _, htotal⟩, first, cut, others, whole, free, hsplit, _, _, hdivided⟩ :=
    run_stopped_during hknown hpassive "" {} {} {} 2
  have hzero : ({} : Stage).totalCalls = 0 := rfl
  exact ⟨hknown, hpassive, rs, s', hstopped, by omega, first, cut, others, whole, _, hsplit, by rwa [hzero] at hdivided⟩

end Runner

end FibTiming
