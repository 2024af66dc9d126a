import FibTiming.Proofs.Job

/-!
# What a benchmark comes to

When the clocks can be read and the algorithm computes a function, the result of a benchmark is settled up to its
clock and times: it is the runner's `verdict`, unless the run was told to stop before the last call
(`Runner.runOn_yields`).
-/

namespace FibTiming

/-- The replies of surroundings whose clocks can be read and whose algorithms compute functions; `stop` holds of the
replies about the signal to stop. -/
def Replies.steady (stop : Bool → Prop) : Replies where
  callable a := ∃ f, a.computation = .ofFunction f
  now _ x := ∃ t, x = .ok t
  call a n x := x = a.computation.answer 1 n
  cancelled := stop

/-- Whether the error says that the run was told to stop. -/
def RunError.isCancellation : RunError → Bool
  | notStarted _ | interrupted _ _ => true
  | _ => false

namespace Result

/-- The result without its clock and its times. -/
def untimed (r : Result) : Result := { r with clock := "", elapsed := 0, least := 0, mean := 0 }

/-- The result carries what the benchmark asks for. -/
structure Describes (r : Result) (b : Benchmark) : Prop where
  name : r.name = b.name
  algorithm : r.algorithm = b.algorithm
  n : r.n = b.n
  expect : r.expect = b.expect
  unit : r.unit = b.unit

/-- The run was told to stop before the last call of the benchmark. -/
structure CutShort (r : Result) (b : Benchmark) : Prop where
  describes : r.Describes b
  error : ∃ e, r.error = some e ∧ e.isCancellation = true
  passed : r.passed = false
  runs : r.runs < max 1 b.repetitions

end Result

/-! ### The repetitions -/

namespace Trial

/-- A measured call counts as a run and may change the answer, the times and the error, which then says that the answer
changed; all else stays. -/
theorem record_result (t : Trial) (elapsed : Int64) (got : UInt64) :
    ∃ answer first least error, (t.record elapsed got).result = { t.result with
        got := answer, elapsed := first, least := least, error := error, runs := t.result.runs + 1 } ∧
      (error = t.result.error ∨ error = some (.answerChanged t.result.name (t.result.runs + 1) got t.result.got)) := by
  unfold record
  by_cases hfirst : t.result.runs = 0
  · simp only [hfirst, ↓reduceIte]
    split <;> exact ⟨_, _, _, _, rfl, .inl rfl⟩
  · by_cases hsame : got = t.result.got
    · simp only [hfirst, hsame, ↓reduceIte]
      split <;> exact ⟨_, _, _, _, rfl, .inl rfl⟩
    · simp only [hfirst, hsame, ↓reduceIte]
      split <;> exact ⟨_, _, _, _, rfl, .inr rfl⟩

/-- After `k` calls that all gave the answer `v`. -/
def Steady (b : Benchmark) (clock : String) (v : UInt64) (k : Nat) (t : Trial) : Prop :=
  t.aborted = false ∧ ∃ elapsed least, t.result =
    { Result.pending b clock with got := if k = 0 then 0 else v, runs := k, elapsed := elapsed, least := least }

variable {b : Benchmark} {clock : String} {v : UInt64} {k : Nat} {t : Trial}

private theorem Steady.record (h : Steady b clock v k t) (elapsed : Int64) :
    Steady b clock v (k + 1) (t.record elapsed v) := by
  obtain ⟨ha, first, least, hr⟩ := h
  refine ⟨ha, ?_⟩
  unfold Trial.record
  rw [hr]
  by_cases hk : k = 0
  · subst hk
    simp [Result.pending]
  · have hk' : (k : Int) ≠ 0 := by omega
    simp only [hk, hk', ↓reduceIte]
    split <;> simp [Result.pending]

private theorem Steady.finish (h : Steady b clock v k t) (hk : 0 < k) :
    t.finish.untimed = { Result.pending b "" with got := v, runs := k, passed := v == b.expect } := by
  obtain ⟨ha, first, least, hr⟩ := h
  have hk' : (k : Int) > 0 := by omega
  have hk0 : k ≠ 0 := by omega
  unfold Trial.finish
  rw [hr]
  simp only [hk', hk0, ↓reduceIte, Result.untimed, Result.pending, Option.isNone_none, Bool.true_and]

/-- Told to stop after `k` calls. -/
def Interrupted (b : Benchmark) (clock : String) (v : UInt64) (k : Nat) (t : Trial) : Prop :=
  ∃ t', Steady b clock v k t' ∧ t = t'.interrupt

private theorem Interrupted.cutShort (h : Interrupted b clock v k t) (hk : (k : Int) < max 1 b.repetitions) :
    t.finish.CutShort b := by
  obtain ⟨t', ⟨ha, first, least, hr⟩, rfl⟩ := h
  unfold Trial.finish Trial.interrupt
  rw [hr]
  by_cases hk0 : (k : Int) > 0
  · simp only [hk0, ↓reduceIte]
    exact ⟨⟨rfl, rfl, rfl, rfl, rfl⟩, ⟨_, rfl, rfl⟩, rfl, hk⟩
  · simp only [hk0, ↓reduceIte]
    exact ⟨⟨rfl, rfl, rfl, rfl, rfl⟩, ⟨_, rfl, rfl⟩, rfl, hk⟩

end Trial

private theorem Result.Describes.finish {b : Benchmark} {t : Trial} (h : t.result.Describes b) :
    t.finish.Describes b := by
  unfold Trial.finish
  dsimp only
  split
  · exact ⟨h.1, h.2, h.3, h.4, h.5⟩
  · exact ⟨h.1, h.2, h.3, h.4, h.5⟩

variable {stop : Bool → Prop} {b : Benchmark} {clock : String}

private theorem measure_yields {a : Algorithm} (ha : ∃ f, a.computation = .ofFunction f) (k : ClockKind) (n : Int) :
    (measure (Job.rig.now k) (Job.rig.call a n)).Yields (.steady stop) fun x =>
      ∃ elapsed, x = .ok (elapsed, a.computation.answer 1 n) := by
  rintro x ⟨start, rfl⟩
  refine ⟨ha, ?_⟩
  rintro v rfl y ⟨finish, rfl⟩
  exact ⟨_, rfl⟩

/-- From `k` calls on, all calls give the same answer, up to the last one or to the signal to stop. -/
private theorem repeatCalls_yields {a : Algorithm} (ha : ∃ f, a.computation = .ofFunction f) (c : ClockKind)
    (left k : Nat) (t : Trial) (ht : t.Steady b clock (a.computation.answer 1 b.n) k) :
    (repeatCalls Job.rig c a b.n left t).Yields (.steady stop) fun t' =>
      t'.aborted = false ∧ (t'.Steady b clock (a.computation.answer 1 b.n) (k + left) ∨
        stop true ∧ ∃ i < k + left, t'.Interrupted b clock (a.computation.answer 1 b.n) i) := by
  -- The number of calls made and the number still to make add up to the same at every round.
  induction left generalizing k t with
  | zero => exact ⟨ht.1, .inl ht⟩
  | succ left ih =>
    rw [repeatCalls_succ]
    have hstop : (if t.result.runs > 0 then Job.rig.cancelled else pure false).Yields (.steady stop)
        (fun s => s = true → stop true) := by
      split
      · intro s hs h
        subst h
        exact hs
      · -- Before the first call nobody looks at the signal.
        exact fun h => absurd h (by simp)
    apply hstop.bind
    intro s hs
    split
    · rename_i h
      exact ⟨ht.1, .inr ⟨hs h, k, by omega, t, ht, rfl⟩⟩
    · apply (measure_yields ha c b.n).bind
      rintro _ ⟨elapsed, rfl⟩
      rw [show k + (left + 1) = k + 1 + left by omega]
      exact ih (k + 1) _ (ht.record elapsed)

/-- A measurement fails only with what a clock replied. -/
private theorem measure_yields_failure {R : Replies} {a : Algorithm} (ha : R.callable a) (k : ClockKind) (n : Int) :
    (measure (Job.rig.now k) (Job.rig.call a n)).Yields R fun x => ∀ cause, x = .error cause → R.now k (.error cause) := by
  intro x hx
  cases x with
  | error cause =>
    rintro _ ⟨⟩
    exact hx
  | ok start =>
    refine ⟨ha, fun v _ y hy => ?_⟩
    cases y with
    | error cause =>
      rintro _ ⟨⟩
      exact hy
    | ok finish => rintro _ ⟨⟩

/-- What every reply leaves true of a trial is true after the last repetition. -/
theorem repeatCalls_keeps {R : Replies} {P : Trial → Prop} {c : ClockKind} {a : Algorithm} (ha : R.callable a)
    (hrecord : ∀ t elapsed got, P t → P (t.record elapsed got)) (hinterrupt : ∀ t, P t → P t.interrupt)
    (habort : ∀ t cause, R.now c (.error cause) → P t → P (t.abort cause)) (n : Int) (left : Nat) {t : Trial} (h : P t) :
    (repeatCalls Job.rig c a n left t).Yields R P := by
  induction left generalizing t with
  | zero => exact h
  | succ left ih =>
    rw [repeatCalls_succ]
    have hstop : (if t.result.runs > 0 then Job.rig.cancelled else pure false).Yields R fun _ => True := by
      split
      · exact fun _ _ => trivial
      · trivial
    refine hstop.bind fun stop _ => ?_
    split
    · exact hinterrupt t h
    · refine (measure_yields_failure ha c n).bind fun x hx => ?_
      cases x with
      | error cause => exact habort t cause (hx cause rfl) h
      | ok p => exact ih (hrecord t p.1 p.2 h)

/-- No reply changes what the result says of its benchmark. -/
private theorem repeatCalls_describes (c : ClockKind) (a : Algorithm) (n : Int) (left : Nat) {t : Trial}
    (h : t.result.Describes b) :
    (repeatCalls Job.rig c a n left t).Yields .any fun t' => t'.result.Describes b := by
  apply repeatCalls_keeps (R := .any) trivial _ _ _ n left h
  · intro t elapsed got ht
    obtain ⟨_, _, _, _, hresult, _⟩ := t.record_result elapsed got
    rw [hresult]
    exact ⟨ht.1, ht.2, ht.3, ht.4, ht.5⟩
  · exact fun _ ht => ⟨ht.1, ht.2, ht.3, ht.4, ht.5⟩
  · exact fun _ _ _ ht => ⟨ht.1, ht.2, ht.3, ht.4, ht.5⟩

/-! ### The benchmark -/

namespace Runner

/-- The result, without its clock and times, that a benchmark comes to when it is never told to stop. -/
def verdict (r : Runner) (b : Benchmark) (clock : String) : Result :=
  match r.prepare b clock with
  | .error e => { Result.pending b "" with error := some e }
  | .ok (a, _) =>
    let v := a.computation.answer 1 b.n
    { Result.pending b "" with got := v, runs := wantedRuns b, passed := v == b.expect }

theorem describes_of_untimed {r : Runner} {res : Result} (h : res.untimed = r.verdict b clock) : res.Describes b := by
  unfold verdict at h
  split at h
  · exact ⟨congrArg Result.name h, congrArg Result.algorithm h, congrArg Result.n h, congrArg Result.expect h,
      congrArg Result.unit h⟩
  · exact ⟨congrArg Result.name h, congrArg Result.algorithm h, congrArg Result.n h, congrArg Result.expect h,
      congrArg Result.unit h⟩

/-- Whatever the replies, the result of a benchmark is about this benchmark. -/
theorem runOn_describes (r : Runner) (b : Benchmark) (clock : String) :
    (r.runOn Job.rig b clock).Yields .any (·.Describes b) := by
  have hpending : (Result.pending b clock).Describes b := ⟨rfl, rfl, rfl, rfl, rfl⟩
  unfold runOn
  intro stop _
  cases stop with
  | true => exact ⟨rfl, rfl, rfl, rfl, rfl⟩
  | false =>
    cases hp : r.prepare b clock with
    | error e => exact ⟨rfl, rfl, rfl, rfl, rfl⟩
    | ok p =>
      refine (repeatCalls_describes p.2 p.1 b.n (wantedRuns b) (t := ⟨Result.pending b clock, 0, false⟩) hpending).bind
        fun t ht => ?_
      split
      · exact ht
      · exact ht.finish

/-- A benchmark whose algorithm computes a function comes to its verdict, unless it is cut short. -/
theorem runOn_yields (r : Runner) (b : Benchmark) (clock : String)
    (hf : ∀ a k, r.prepare b clock = .ok (a, k) → ∃ f, a.computation = .ofFunction f) :
    (r.runOn Job.rig b clock).Yields (.steady stop) fun res =>
      res.untimed = r.verdict b clock ∨ stop true ∧ res.CutShort b := by
  unfold runOn
  intro s hs
  cases s with
  | true => exact .inr ⟨hs, ⟨rfl, rfl, rfl, rfl, rfl⟩, ⟨_, rfl, rfl⟩, rfl, by show (0 : Int) < _; omega⟩
  | false =>
    cases hp : r.prepare b clock with
    | error e =>
      refine .inl ?_
      simp only [verdict, hp]
      rfl
    | ok p =>
      obtain ⟨a, k⟩ := p
      have hv : r.verdict b clock = { Result.pending b "" with
          got := a.computation.answer 1 b.n, runs := wantedRuns b
          passed := a.computation.answer 1 b.n == b.expect } := by
        simp only [verdict, hp]
      have hstart : Trial.Steady b clock (a.computation.answer 1 b.n) 0 { result := Result.pending b clock } :=
        ⟨rfl, 0, 0, rfl⟩
      show Job.Yields _ _ (repeatCalls Job.rig k a b.n (wantedRuns b) { result := Result.pending b clock } >>= _)
      apply (repeatCalls_yields (hf a k hp) k (wantedRuns b) 0 _ hstart).bind
      rintro t ⟨ha, ht⟩
      rw [Nat.zero_add] at ht
      rw [ha]
      rcases ht with ht | ⟨hstop, i, hi, ht⟩
      · refine .inl ?_
        rw [hv]
        exact ht.finish (by unfold wantedRuns; omega)
      · refine .inr ⟨hstop, ht.cutShort ?_⟩
        unfold wantedRuns at hi
        omega

end Runner

end FibTiming
