import FibTiming.Proofs.Interruption

/-!
# The repetitions of a benchmark

An algorithm may answer each call differently, and the run may be told to stop during any call.  As long as the clock
can be read, the repetitions record one call after the other, up to the last one or to the first call during which the
run is told to stop (`repeatCalls_recorded`).  This settles how often the algorithm is called and what the result says
about its answers (`Runner.runOn_answers`).
-/

namespace FibTiming

/-! ### Calls on a stage -/

namespace Stage

private theorem find?_countCall (name : String) (calls : List (String × Nat)) :
    (((countCall name calls).find? (·.1 == name)).map (·.2)).getD 0 =
      ((calls.find? (·.1 == name)).map (·.2)).getD 0 + 1 := by
  induction calls with
  | nil => simp [countCall]
  | cons c calls ih =>
    unfold countCall
    by_cases hc : c.1 = name
    · simp [hc]
    · simpa [hc] using ih

private theorem callCount_of_countCall {s s' : Stage} {name : String} (h : s'.calls = countCall name s.calls) :
    s'.callCount name = s.callCount name + 1 := by
  rw [callCount, h]
  exact find?_countCall name s.calls

end Stage

namespace Script

/-- Whether the run is told to stop during call number `i` of the algorithm, counted from a stage on. -/
def stops (script : Script) (a : Algorithm) (start : Stage) (i : Nat) : Bool :=
  a.computation.cancels (start.callCount a.name + i) || script.interrupt (start.totalCalls + i)

/-- The stage after `m` measured calls of an algorithm, of which at most the last one told the run to stop. -/
structure AfterCalls (script : Script) (a : Algorithm) (start : Stage) (m : Nat) (s : Stage) : Prop where
  readings : s.readings = start.readings + 2 * m
  callCount : s.callCount a.name = start.callCount a.name + m
  totalCalls : s.totalCalls = start.totalCalls + m
  cancelled : s.cancelled = (decide (0 < m) && script.stops a start m)

namespace AfterCalls

variable {script : Script} {a : Algorithm} {start s : Stage} {m : Nat}

private theorem log (h : script.AfterCalls a start m s) (l : List (Log.Format × Log.Record)) :
    script.AfterCalls a start m { s with log := l } :=
  ⟨h.readings, h.callCount, h.totalCalls, h.cancelled⟩

/-- One more measured call, while nothing tells the run to stop. -/
private theorem measure {time : Nat → Int64} (htime : ∀ i, script.reading i = .ok (time i))
    (h : script.AfterCalls a start m s) (hs : s.cancelled = false) (k : ClockKind) (n : Int) :
    ∃ s', measure (script.now k) (script.call a n) s =
        (.ok (time (start.readings + 2 * m + 1) - time (start.readings + 2 * m),
          a.computation.answer (start.callCount a.name + (m + 1)) n), s') ∧
      script.AfterCalls a start (m + 1) s' := by
  have hstop : (a.computation.cancels (s.callCount a.name + 1) || script.interrupt (s.totalCalls + 1)) =
      script.stops a start (m + 1) := by
    rw [h.callCount, h.totalCalls, Nat.add_assoc, Nat.add_assoc]
    rfl
  have hanswer : s.callCount a.name + 1 = start.callCount a.name + (m + 1) := by
    rw [h.callCount, Nat.add_assoc]
  refine ⟨{ s with readings := s.readings + 2, calls := Stage.countCall a.name s.calls
                   cancelled := script.stops a start (m + 1) }, ?_, ?_⟩
  · rw [Script.measure_apply, ← hstop, ← hanswer, ← h.readings]
    simp only [Script.now, Script.call, htime, hs, Bool.false_or]
    rfl
  · refine ⟨?_, ?_, ?_, by simp⟩
    · show s.readings + 2 = _
      rw [h.readings]
      omega
    · rw [Stage.callCount_of_countCall (s := s) rfl, h.callCount]
      omega
    · rw [Stage.totalCalls_of_countCall (s := s) rfl, h.totalCalls]
      omega

end AfterCalls

end Script

/-! ### Recorded calls -/

namespace Trial

/-- The trial after a number of calls with the given times and answers; calls are counted from one. -/
def recorded (t : Trial) (elapsed : Nat → Int64) (answer : Nat → UInt64) : Nat → Trial
  | 0 => t
  | k + 1 => (t.recorded elapsed answer k).record (elapsed (k + 1)) (answer (k + 1))

/-- The last call with another answer than the first one. -/
def lastChange? (answer : Nat → UInt64) : Nat → Option Nat
  | 0 => none
  | k + 1 => if answer (k + 1) = answer 1 then lastChange? answer k else some (k + 1)

private theorem lastChange?_eq_some_iff {answer : Nat → UInt64} {k i : Nat} :
    lastChange? answer k = some i ↔
      1 ≤ i ∧ i ≤ k ∧ answer i ≠ answer 1 ∧ ∀ l, i < l → l ≤ k → answer l = answer 1 := by
  induction k with
  | zero =>
    simp only [lastChange?, reduceCtorEq, false_iff]
    omega
  | succ k ih =>
    unfold lastChange?
    split
    · rename_i hsame
      rw [ih]
      constructor
      · rintro ⟨hone, hle, hne, hafter⟩
        refine ⟨hone, by omega, hne, fun l hl hlk => ?_⟩
        rcases Nat.lt_or_eq_of_le hlk with hlt | rfl
        · exact hafter l hl (by omega)
        · exact hsame
      · rintro ⟨hone, hle, hne, hafter⟩
        refine ⟨hone, ?_, hne, fun l hl hlk => hafter l hl (by omega)⟩
        by_contra hgt
        have hi : i = k + 1 := by omega
        exact hne (hi ▸ hsame)
    · rename_i hother
      rw [Option.some.injEq]
      constructor
      · rintro rfl
        exact ⟨by omega, by omega, hother, fun l hl hlk => by omega⟩
      · rintro ⟨_, hle, _, hafter⟩
        by_contra hne
        exact hother (hafter (k + 1) (by omega) (by omega))

private theorem lastChange?_eq_none_iff {answer : Nat → UInt64} {k : Nat} :
    lastChange? answer k = none ↔ ∀ i, 1 ≤ i → i ≤ k → answer i = answer 1 := by
  induction k with
  | zero =>
    simp only [lastChange?, true_iff]
    omega
  | succ k ih =>
    unfold lastChange?
    split
    · rename_i hsame
      rw [ih]
      constructor
      · intro h i hone hle
        rcases Nat.lt_or_eq_of_le hle with hlt | rfl
        · exact h i hone (by omega)
        · exact hsame
      · intro h i hone hle
        exact h i hone (by omega)
    · rename_i hother
      simp only [reduceCtorEq, false_iff, not_forall]
      exact ⟨k + 1, by omega, by omega, hother⟩

variable (b : Benchmark) (clock : String) (elapsed : Nat → Int64) (answer : Nat → UInt64)

/-- What the recorded calls of a benchmark say about its answers. -/
private theorem recorded_result (k : Nat) :
    (recorded { result := Result.pending b clock } elapsed answer k).aborted = false ∧
    ∃ first least, (recorded { result := Result.pending b clock } elapsed answer k).result =
      { Result.pending b clock with
        got := if k = 0 then 0 else answer 1, runs := k, elapsed := first, least := least
        error := (lastChange? answer k).map fun i : Nat => .answerChanged b.name i (answer i) (answer 1) } := by
  induction k with
  | zero => exact ⟨rfl, 0, 0, rfl⟩
  | succ k ih =>
    obtain ⟨haborted, first, least, hresult⟩ := ih
    refine ⟨haborted, ?_⟩
    unfold recorded record
    rw [hresult]
    rcases Nat.eq_zero_or_pos k with rfl | hpos
    · simp [Result.pending, lastChange?]
    · have hk : k ≠ 0 := by omega
      have hk' : (k : Int) ≠ 0 := by omega
      by_cases hsame : answer (k + 1) = answer 1
      · simp only [hk, hk', hsame, ↓reduceIte, lastChange?]
        split <;> simp [Result.pending]
      · simp only [hk, hk', hsame, ↓reduceIte, lastChange?]
        split <;> simp [Result.pending]

private theorem runs_recorded {t : Trial} (ht : t.result.runs = 0) (k : Nat) :
    (t.recorded elapsed answer k).result.runs = k := by
  induction k with
  | zero => exact ht
  | succ k ih =>
    obtain ⟨_, _, _, _, hresult, _⟩ := (t.recorded elapsed answer k).record_result (elapsed (k + 1)) (answer (k + 1))
    rw [recorded, hresult]
    show (t.recorded elapsed answer k).result.runs + 1 = _
    rw [ih]
    rfl

end Trial

/-! ### The loop -/

/-- The time measured for call number `i` after a stage, between two readings of its own. -/
def Stage.elapsed (start : Stage) (time : Nat → Int64) (i : Nat) : Int64 :=
  time (start.readings + 2 * (i - 1) + 1) - time (start.readings + 2 * (i - 1))

/-- The answer to call number `i` of an algorithm after a stage. -/
def Stage.answer (start : Stage) (a : Algorithm) (n : Int) (i : Nat) : UInt64 :=
  a.computation.answer (start.callCount a.name + i) n

/-- The repetitions end after `l` recorded calls: either all calls are made, or the run was told to stop during the last
of them.  No earlier call told it so. -/
theorem repeatCalls_recorded {script : Script} {time : Nat → Int64} (htime : ∀ i, script.reading i = .ok (time i))
    (c : Config) (k : ClockKind) {a : Algorithm} (n : Int) {t : Trial} (ht : t.result.runs = 0) {start : Stage}
    (left : Nat) {m : Nat} {s : Stage} (h : script.AfterCalls a start m s) :
    ∃ l s', m ≤ l ∧ l ≤ m + left ∧ (∀ i, 1 ≤ i → m ≤ i → i < l → script.stops a start i = false) ∧
      script.AfterCalls a start l s' ∧
      (l = m + left ∧ repeatCalls (Program.rig script.host c) k a n left
          (t.recorded (start.elapsed time) (start.answer a n) m) s =
          (t.recorded (start.elapsed time) (start.answer a n) l, s') ∨
        1 ≤ l ∧ l < m + left ∧ script.stops a start l = true ∧
          repeatCalls (Program.rig script.host c) k a n left (t.recorded (start.elapsed time) (start.answer a n) m) s =
          ((t.recorded (start.elapsed time) (start.answer a n) l).interrupt, s')) := by
  induction left generalizing m s with
  | zero => exact ⟨m, s, le_rfl, le_rfl, by omega, h, .inl ⟨rfl, rfl⟩⟩
  | succ left ih =>
    have hcancelled := h.cancelled
    have hruns := t.runs_recorded (start.elapsed time) (start.answer a n) ht m
    -- Before the first call nobody looks at the signal, but then there is none.
    have hlook : (if (t.recorded (start.elapsed time) (start.answer a n) m).result.runs > 0
        then (Program.rig script.host c).cancelled else pure false) s = (s.cancelled, s) := by
      split
      · rfl
      · have hm : m = 0 := by omega
        rw [hcancelled, hm]
        rfl
    rw [repeatCalls_succ, bind_apply, hlook]
    by_cases hs : s.cancelled = true
    · rw [hs, eq_comm, Bool.and_eq_true, decide_eq_true_eq] at hcancelled
      refine ⟨m, s, le_rfl, by omega, by omega, h, .inr ⟨hcancelled.1, by omega, hcancelled.2, ?_⟩⟩
      simp only [hs, ↓reduceIte]
      rfl
    · rw [Bool.not_eq_true] at hs
      obtain ⟨s', hmeasure, hs'⟩ := h.measure htime hs k n
      obtain ⟨l, s'', hle, hmax, hbefore, hafter, hend⟩ := ih hs'
      have hround : measure ((Program.rig script.host c).now k) ((Program.rig script.host c).call a n) s =
          (.ok (start.elapsed time (m + 1), start.answer a n (m + 1)), s') := hmeasure
      simp only [hs, Bool.false_eq_true, ↓reduceIte, bind_apply, hround]
      refine ⟨l, s'', by omega, by omega, ?_, hafter, ?_⟩
      · intro i hone hmi hil
        rcases Nat.lt_or_eq_of_le hmi with hlt | rfl
        · exact hbefore i hone (by omega) hil
        · rw [hs] at hcancelled
          simpa [show 0 < m by omega] using hcancelled.symm
      · rw [show m + (left + 1) = m + 1 + left by omega]
        exact hend

/-! ### Benchmarks -/

/-- The first call of an algorithm after a stage during which the run is told to stop, if there is one. -/
def Script.FirstStop (script : Script) (a : Algorithm) (start : Stage) : Option Nat → Prop
  | none => ∀ i, 1 ≤ i → script.stops a start i = false
  | some j => 1 ≤ j ∧ script.stops a start j = true ∧ ∀ i, 1 ≤ i → i < j → script.stops a start i = false

/-- The calls that are made of those that are wanted. -/
def callsMade (wanted : Nat) : Option Nat → Nat
  | none => wanted
  | some j => min wanted j

private theorem Script.FirstStop.eq_callsMade {script : Script} {a : Algorithm} {start : Stage} {j : Option Nat}
    (h : script.FirstStop a start j) {wanted l : Nat} (hbefore : ∀ i, 1 ≤ i → i < l → script.stops a start i = false)
    (hend : l = wanted ∨ 1 ≤ l ∧ l < wanted ∧ script.stops a start l = true) : l = callsMade wanted j := by
  cases j with
  | none =>
    rcases hend with hall | ⟨hone, _, hstop⟩
    · exact hall
    · rw [h l hone] at hstop
      cases hstop
  | some j =>
    obtain ⟨hj, hstopj, hfirst⟩ := h
    have hle : l ≤ j := by
      by_contra hlt
      rw [hbefore j hj (by omega)] at hstopj
      cases hstopj
    rcases hend with hall | ⟨hone, hlt, hstop⟩
    · show l = min wanted j
      omega
    · have hge : j ≤ l := by
        by_contra hlj
        rw [hfirst l hone (by omega)] at hstop
        cases hstop
      show l = min wanted j
      omega

/-- What the result of a benchmark tells of the answers to its calls, of which some were wanted and some were made: the
first answer, and how many calls were made if any are missing; otherwise the last answer that differs from the first.  It
has passed if none is missing and all answers are the expected one. -/
structure Result.Tells (b : Benchmark) (answer : Nat → UInt64) (wanted made : Nat) (res : Result) : Prop where
  runs : res.runs = made
  got : res.got = answer 1
  interrupted : made < wanted → res.error = some (.interrupted b.name made)
  changed : made = wanted → ∀ i : Nat, 1 ≤ i → i ≤ made → answer i ≠ answer 1 →
    (∀ l, i < l → l ≤ made → answer l = answer 1) →
    res.error = some (.answerChanged b.name i (answer i) (answer 1))
  unchanged : made = wanted → (∀ i, 1 ≤ i → i ≤ made → answer i = answer 1) → res.error = none
  passed : res.passed = true ↔ made = wanted ∧ ∀ i, 1 ≤ i → i ≤ wanted → answer i = b.expect

/-- The result of recorded calls tells of them. -/
private theorem Trial.tells_finish (b : Benchmark) (clock : String) (elapsed : Nat → Int64) (answer : Nat → UInt64)
    (wanted : Nat) {made : Nat} (hone : 1 ≤ made) :
    (if made = wanted then recorded { result := Result.pending b clock } elapsed answer made
      else (recorded { result := Result.pending b clock } elapsed answer made).interrupt).finish.Tells
      b answer wanted made := by
  obtain ⟨_, first, least, hresult⟩ := recorded_result b clock elapsed answer made
  have hpos : (made : Int) > 0 := by omega
  have hne : made ≠ 0 := by omega
  by_cases hall : made = wanted
  · rw [if_pos hall]
    unfold finish
    rw [hresult]
    simp only [hpos, hne, ↓reduceIte, Result.pending]
    refine ⟨rfl, rfl, by omega, ?_, ?_, ?_⟩
    · intro _ i hone hle hother hafter
      rw [lastChange?_eq_some_iff.2 ⟨hone, hle, hother, hafter⟩]
      rfl
    · intro _ hsame
      rw [lastChange?_eq_none_iff.2 hsame]
      rfl
    · rw [Bool.and_eq_true, Option.isNone_iff_eq_none, Option.map_eq_none_iff, lastChange?_eq_none_iff, beq_iff_eq, hall]
      constructor
      · rintro ⟨hsame, hfirst⟩
        exact ⟨rfl, fun i hone hle => (hsame i hone hle).trans hfirst⟩
      · rintro ⟨_, hexpect⟩
        have hfirst := hexpect 1 le_rfl (by omega)
        exact ⟨fun i hone hle => (hexpect i hone hle).trans hfirst.symm, hfirst⟩
  · rw [if_neg hall]
    unfold finish interrupt
    rw [hresult]
    simp only [hpos, hne, ↓reduceIte, Result.pending]
    refine ⟨rfl, rfl, fun _ => rfl, fun h => absurd h hall, fun h => absurd h hall, ?_⟩
    simp [hall]

namespace Runner

variable {script : Script} {c : Config} {r : Runner} {b : Benchmark} {clock : String} {s : Stage}

private theorem rig_cancelled_apply (script : Script) (c : Config) (s : Stage) :
    (Program.rig script.host c).cancelled s = (s.cancelled, s) := rfl

/-- Before the first call a benchmark can fail, and then no algorithm is called. -/
private theorem runOn_of_prepare_error {e : RunError} (hs : s.cancelled = false) (h : r.prepare b clock = .error e) :
    r.runOn (Program.rig script.host c) b clock s = ({ Result.pending b clock with error := some e }, s) := by
  unfold runOn
  simp only [bind_apply, rig_cancelled_apply, hs, Bool.false_eq_true, ↓reduceIte, h]
  rfl

/-- A benchmark that can be called comes to the result of its recorded calls. -/
private theorem runOn_recorded {time : Nat → Int64} (htime : ∀ i, script.reading i = .ok (time i)) {a : Algorithm}
    {k : ClockKind} (hs : s.cancelled = false) (h : r.prepare b clock = .ok (a, k)) {j : Option Nat}
    (hj : script.FirstStop a s j) :
    ∃ t s', t = Trial.recorded { result := Result.pending b clock } (s.elapsed time) (s.answer a b.n)
        (callsMade (wantedRuns b) j) ∧
      script.AfterCalls a s (callsMade (wantedRuns b) j) s' ∧
      r.runOn (Program.rig script.host c) b clock s =
        ((if callsMade (wantedRuns b) j = wantedRuns b then t else t.interrupt).finish, s') := by
  unfold runOn
  simp only [bind_apply, rig_cancelled_apply, hs, Bool.false_eq_true, ↓reduceIte, h]
  obtain ⟨log, hlog⟩ := Script.rig_log script c ⟨.debug, "Benchmark started.", benchmarkFields b ++
    [("runs", .int (wantedRuns b)), ("clock", .choice clock)]⟩ s
  rw [hlog]
  have hstart : script.AfterCalls a s 0 { s with log := log } := ⟨rfl, rfl, rfl, hs⟩
  obtain ⟨l, s', _, _, hbefore, hafter, hend⟩ := repeatCalls_recorded htime c k b.n
    (t := { result := Result.pending b clock }) rfl (wantedRuns b) hstart
  rw [Nat.zero_add] at hend
  have hl : l = callsMade (wantedRuns b) j :=
    hj.eq_callsMade (fun i hone hlt => hbefore i hone (by omega) hlt)
      (hend.imp And.left fun hstop => ⟨hstop.1, hstop.2.1, hstop.2.2.1⟩)
  have haborted := (Trial.recorded_result b clock (s.elapsed time) (s.answer a b.n) l).1
  have hloop : repeatCalls (Program.rig script.host c) k a b.n (wantedRuns b) { result := Result.pending b clock }
      { s with log := log } =
      (if l = wantedRuns b then Trial.recorded { result := Result.pending b clock } (s.elapsed time) (s.answer a b.n) l
        else (Trial.recorded { result := Result.pending b clock } (s.elapsed time) (s.answer a b.n) l).interrupt, s') := by
    rcases hend with ⟨hall, hrun⟩ | ⟨_, hlt, _, hrun⟩
    · rw [if_pos hall]
      exact hrun
    · rw [if_neg (by omega)]
      exact hrun
  rw [hloop, ← hl]
  generalize ht : Trial.recorded { result := Result.pending b clock } (s.elapsed time) (s.answer a b.n) l = t
  have hgoing : (if l = wantedRuns b then t else t.interrupt).aborted = false := by
    rw [ht] at haborted
    split
    · exact haborted
    · exact haborted
  obtain ⟨log', hlog'⟩ := Script.rig_log script c
    (verdictRecord b (if l = wantedRuns b then t else t.interrupt).finish) s'
  refine ⟨t, { s' with log := log' }, rfl, hafter.log log', ?_⟩
  simp only [hgoing, Bool.false_eq_true, ↓reduceIte, bind_apply, hlog']
  rfl

private theorem one_le_callsMade {wanted : Nat} (hwanted : 1 ≤ wanted) {a : Algorithm} {j : Option Nat}
    (hj : script.FirstStop a s j) : 1 ≤ callsMade wanted j := by
  cases j with
  | none => exact hwanted
  | some j =>
    have hone := hj.1
    show 1 ≤ min wanted j
    omega

/-- What a benchmark comes to when its algorithm may answer each call differently, and the run may be told to stop
before the benchmark starts or during any of its calls.  A benchmark that is not started, or is out of range, is never
called.  All others are called as often as they ask for, or up to the first call during which the run is told to stop,
and their results tell of these calls. -/
theorem runOn_answers (c : Config) {script : Script} (hreading : ∀ i, ∃ t, script.reading i = .ok t) (r : Runner)
    (b : Benchmark) {a : Algorithm} (ha : r.registry.lookup b.algorithm = .ok a) (hclock : clock ∈ ClockKind.names)
    {j : Option Nat} (hj : script.FirstStop a s j) :
    ∃ res s', r.runOn (Program.rig script.host c) b clock s = (res, s') ∧
      (s.cancelled = true → s'.calls = s.calls ∧ res.runs = 0 ∧ res.got = 0 ∧
        res.error = some (.notStarted b.name) ∧ res.passed = false) ∧
      (s.cancelled = false → b.n < 0 ∨ 92 < b.n → s'.calls = s.calls ∧ res.runs = 0 ∧
        res.error = some (.outOfRange b.name b.n) ∧ res.passed = false) ∧
      (s.cancelled = false → 0 ≤ b.n → b.n ≤ 92 → ∃ wanted made : Nat,
        (wanted : Int) = max 1 b.repetitions ∧ made = callsMade wanted j ∧
        s'.totalCalls = s.totalCalls + made ∧ s'.callCount a.name = s.callCount a.name + made ∧
        res.Tells b (s.answer a b.n) wanted made) := by
  by_cases hs : s.cancelled = true
  · unfold runOn
    simp only [bind_apply, rig_cancelled_apply, hs, ↓reduceIte]
    obtain ⟨log, hlog⟩ := Script.rig_log script c _ s
    rw [hlog]
    exact ⟨_, _, rfl, fun _ => ⟨rfl, rfl, rfl, rfl, rfl⟩, by simp, by simp⟩
  rw [Bool.not_eq_true] at hs
  by_cases hn : b.n < 0 ∨ 92 < b.n
  · have hprepare : r.prepare b clock = .error (.outOfRange b.name b.n) := if_pos hn
    rw [runOn_of_prepare_error hs hprepare]
    refine ⟨_, _, rfl, by simp [hs], fun _ _ => ⟨rfl, rfl, rfl, rfl⟩, ?_⟩
    intro _ hnonneg hle
    omega
  · obtain ⟨k, hk⟩ := Option.isSome_iff_exists.1 ((ClockKind.ofName?_isSome_iff clock).2 hclock)
    have hprepare : r.prepare b clock = .ok (a, k) := by
      have hrange : ¬ (b.n < 0 ∨ b.n > maxIndex) := hn
      simp only [prepare, hrange, ↓reduceIte, ha, hk]
    choose time htime using hreading
    obtain ⟨t, s', ht, hafter, hrun⟩ := runOn_recorded (c := c) htime hs hprepare hj
    have hwanted : 1 ≤ wantedRuns b := by unfold wantedRuns; omega
    refine ⟨_, s', hrun, by simp [hs], fun _ hout => absurd hout hn, fun _ _ _ => ?_⟩
    refine ⟨wantedRuns b, _, by unfold wantedRuns; omega, rfl, hafter.totalCalls, hafter.callCount, ?_⟩
    rw [ht]
    exact Trial.tells_finish b clock _ _ _ (one_le_callsMade hwanted hj)

/-- An answer that changes in the second of three calls, after another call by someone else; the signal to stop comes
with the last call and is not noticed. -/
theorem runOn_answers_changed :
    let a : Algorithm := ⟨"odd", "", { answer := fun call _ => if call = 3 then 7 else 1 }⟩
    let script : Script := { interrupt := fun call => call == 4 }
    let s : Stage := { calls := [("odd", 1)] }
    script.FirstStop a s (some 3) ∧
    ∃ res s', (make ⟨[a]⟩ "" 1).runOn (Program.rig script.host {}) ⟨"x", "odd", 5, 1, "", 3⟩ "wall" s = (res, s') ∧
      s'.totalCalls = 4 ∧ res.error = some (.answerChanged "x" 2 7 1) ∧ res.passed = false := by
  intro a script s
  have hfirst : script.FirstStop a s (some 3) := by
    refine ⟨by omega, rfl, fun i hone hlt => ?_⟩
    obtain rfl | rfl : i = 1 ∨ i = 2 := by omega
    · rfl
    · rfl
  have hclock : "wall" ∈ ClockKind.names := by decide
  obtain ⟨res, s', hrun, _, _, hcalled⟩ := runOn_answers {} (fun i => ⟨0, rfl⟩) (make ⟨[a]⟩ "" 1)
    ⟨"x", "odd", 5, 1, "", 3⟩ rfl hclock hfirst
  obtain ⟨wanted, made, hwanted, hmade, htotal, _, htells⟩ := hcalled rfl (by decide) (by decide)
  have hwanted' : wanted = 3 := by
    have : (wanted : Int) = 3 := hwanted
    omega
  subst hwanted'
  have hmade' : made = 3 := hmade
  subst hmade'
  have herror := htells.changed rfl 2 (by omega) (by omega) (by decide) (fun l hl hle => by
    obtain rfl : l = 3 := by omega
    rfl)
  refine ⟨hfirst, res, s', hrun, htotal, herror, ?_⟩
  rw [← Bool.not_eq_true, htells.passed]
  rintro ⟨_, hall⟩
  exact absurd (hall 2 (by omega) (by omega)) (by decide)

end Runner

end FibTiming
