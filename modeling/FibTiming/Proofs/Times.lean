import FibTiming.Proofs.Interruption
import Mathlib.Algebra.Order.BigOperators.Group.List

/-!
# The times of a benchmark

Every call of an algorithm is measured between two readings of the clock, and nothing else reads the clock
(`history_repeatCalls`).  While the repetitions go on, the trial keeps the first time, the least one and the sum of all
(`Trial.Sums`), and its result gives the mean, rounded down (`Runner.runOn_times`).  This holds on every rig, so for all
readings, all answers and every moment at which the run is told to stop.
-/

namespace FibTiming

/-! ### Readings and calls -/

/-- A reading of a clock or a call of an algorithm, with the reply. -/
inductive Event where
  | reading (k : ClockKind) (reply : Except String Int64)
  | call (a : Algorithm) (n : Int) (answer : UInt64)

/-- A call between two readings. -/
structure Measurement where
  start : Int64
  stop : Int64
  answer : UInt64

namespace Measurement

def events (m : Measurement) (k : ClockKind) (a : Algorithm) (n : Int) : List Event :=
  [.reading k (.ok m.start), .call a n m.answer, .reading k (.ok m.stop)]

/-- Measurements can be read off their events. -/
private theorem flatMap_events_inj {k : ClockKind} {a : Algorithm} {n : Int} {ms ms' : List Measurement}
    (h : ms.flatMap (·.events k a n) = ms'.flatMap (·.events k a n)) : ms = ms' := by
  induction ms generalizing ms' with
  | nil =>
    cases ms' with
    | nil => rfl
    | cons m' ms' => simp [events] at h
  | cons m ms ih =>
    cases ms' with
    | nil => simp [events] at h
    | cons m' ms' =>
      obtain ⟨start, stop, answer⟩ := m
      obtain ⟨start', stop', answer'⟩ := m'
      simp only [List.flatMap_cons, events, List.cons_append, List.nil_append, List.cons.injEq, Event.reading.injEq,
        Event.call.injEq, Except.ok.injEq, true_and] at h
      obtain ⟨rfl, rfl, rfl, hrest⟩ := h
      rw [ih hrest]

/-- The time from one reading to the other. -/
def time (m : Measurement) : Int := m.stop.toInt - m.start.toInt

end Measurement

namespace Job

variable {σ α β : Type}

/-- The readings and calls of a job on a rig, in order. -/
def history (rig : Rig (StateM σ)) : Job α → σ → List Event
  | done _, _ => []
  | now k next, s => .reading k (rig.now k s).1 :: (next (rig.now k s).1).history rig (rig.now k s).2
  | call a n next, s => .call a n (rig.call a n s).1 :: (next (rig.call a n s).1).history rig (rig.call a n s).2
  | cancelled next, s => (next (rig.cancelled s).1).history rig (rig.cancelled s).2
  | log r next, s => next.history rig (rig.log r s).2

@[simp] theorem history_bind (rig : Rig (StateM σ)) (j : Job α) (f : α → Job β) (s : σ) :
    (j >>= f).history rig s = j.history rig s ++ (f (j.perform rig s).1).history rig (j.perform rig s).2 := by
  show (j.bind f).history rig s = _
  induction j generalizing s with
  | done a => rfl
  | now k next ih => exact congrArg (_ :: ·) (ih _ _)
  | call a n next ih => exact congrArg (_ :: ·) (ih _ _)
  | cancelled next ih => exact ih _ _
  | log r next ih => exact ih _

@[simp] theorem history_rig_cancelled (rig : Rig (StateM σ)) (s : σ) : Job.rig.cancelled.history rig s = [] := rfl

@[simp] theorem history_rig_log (rig : Rig (StateM σ)) (r : Log.Record) (s : σ) :
    (Job.rig.log r).history rig s = [] := rfl

/-- The clock could be read whenever it was. -/
def Readable (rig : Rig (StateM σ)) (j : Job α) (s : σ) : Prop :=
  ∀ k e, Event.reading k (.error e) ∉ j.history rig s

private theorem Readable.of_bind {rig : Rig (StateM σ)} {j : Job α} {f : α → Job β} {s : σ}
    (h : (j >>= f).Readable rig s) :
    j.Readable rig s ∧ (f (j.perform rig s).1).Readable rig (j.perform rig s).2 := by
  unfold Readable at h ⊢
  simp only [history_bind, List.mem_append, not_or] at h
  exact ⟨fun k e => (h k e).1, fun k e => (h k e).2⟩

/-- A measurement as the requests it makes. -/
private theorem measure_eq (k : ClockKind) (a : Algorithm) (n : Int) :
    measure (Job.rig.now k) (Job.rig.call a n) =
      .now k fun
        | .error e => done (.error e)
        | .ok start => .call a n fun answer => .now k fun
          | .error e => done (.error e)
          | .ok stop => done (.ok (stop - start, answer)) := by
  show Job.now k _ = _
  congr 1
  funext x
  cases x with
  | error e => rfl
  | ok start =>
    show Job.call a n _ = _
    congr 1
    funext answer
    show Job.now k _ = _
    congr 1
    funext y
    cases y <;> rfl

/-- A measured call reads the clock once before the call and once after it. -/
private theorem history_measure {rig : Rig (StateM σ)} {k : ClockKind} {a : Algorithm} {n : Int} {s : σ}
    (h : (measure (Job.rig.now k) (Job.rig.call a n)).Readable rig s) :
    ∃ (m : Measurement) (s' : σ),
      (measure (Job.rig.now k) (Job.rig.call a n)).history rig s = m.events k a n ∧
      (measure (Job.rig.now k) (Job.rig.call a n)).perform rig s = (.ok (m.stop - m.start, m.answer), s') := by
  rw [measure_eq] at h ⊢
  simp only [Readable, history, perform, bind_apply] at h ⊢
  rcases hstart : rig.now k s with ⟨e | start, s₁⟩
  · simp only [hstart] at h
    exact absurd (List.mem_cons_self ..) (h k e)
  · simp only [hstart, history, perform, bind_apply] at h ⊢
    rcases hcall : rig.call a n s₁ with ⟨answer, s₂⟩
    simp only [hcall] at h ⊢
    rcases hstop : rig.now k s₂ with ⟨e | stop, s₃⟩
    · simp only [hstop] at h
      exact absurd (by simp) (h k e)
    · exact ⟨⟨start, stop, answer⟩, s₃, rfl, rfl⟩

end Job

/-! ### The repetitions -/

namespace Trial

/-- The trial after a list of measured calls. -/
def recordAll (t : Trial) (ms : List Measurement) : Trial :=
  ms.foldl (fun t m => t.record (m.stop - m.start) m.answer) t

private theorem record_runs (t : Trial) (elapsed : Int64) (got : UInt64) :
    (t.record elapsed got).result.runs = t.result.runs + 1 := by
  obtain ⟨_, _, _, _, hresult, _⟩ := t.record_result elapsed got
  rw [hresult]

private theorem recordAll_aborted (t : Trial) (ms : List Measurement) : (t.recordAll ms).aborted = t.aborted := by
  induction ms generalizing t with
  | nil => rfl
  | cons m ms ih => exact ih (t.record (m.stop - m.start) m.answer)

end Trial

/-- The repetitions read the clock for their measured calls only.  They make all the calls that are left, or are told to
stop after at least one call has been made. -/
theorem history_repeatCalls {σ : Type} {rig : Rig (StateM σ)} {k : ClockKind} {a : Algorithm} {n : Int} {left : Nat}
    {t : Trial} {s : σ} (h : (repeatCalls Job.rig k a n left t).Readable rig s) :
    ∃ ms : List Measurement,
      (repeatCalls Job.rig k a n left t).history rig s = ms.flatMap (·.events k a n) ∧
      (ms.length = left ∧ ((repeatCalls Job.rig k a n left t).perform rig s).1 = t.recordAll ms ∨
        ms.length < left ∧ 0 < t.result.runs + ms.length ∧
          ((repeatCalls Job.rig k a n left t).perform rig s).1 = (t.recordAll ms).interrupt) := by
  induction left generalizing t s with
  | zero => exact ⟨[], rfl, .inl ⟨rfl, rfl⟩⟩
  | succ left ih =>
    rw [repeatCalls_succ] at h ⊢
    obtain ⟨_, hround⟩ := h.of_bind
    -- The look at the signal is neither a reading nor a call, and only after a first call can it end the repetitions.
    have hlook : (if t.result.runs > 0 then Job.rig.cancelled else pure false : Job Bool).history rig s = [] := by
      split <;> rfl
    have hstop : ((if t.result.runs > 0 then Job.rig.cancelled else pure false : Job Bool).perform rig s).1 = true →
        t.result.runs > 0 := by
      split
      · intro _
        assumption
      · intro hpure
        cases hpure
    rw [Job.history_bind, hlook, Job.perform_bind, bind_apply, List.nil_append]
    generalize (if t.result.runs > 0 then Job.rig.cancelled else pure false : Job Bool).perform rig s = look at *
    obtain ⟨stop, s₁⟩ := look
    cases stop with
    | true =>
      have hruns := hstop rfl
      exact ⟨[], rfl, .inr ⟨by simp, by simpa using hruns, rfl⟩⟩
    | false =>
      simp only [Bool.false_eq_true, ↓reduceIte] at hround ⊢
      obtain ⟨hmeasure, hrest⟩ := hround.of_bind
      obtain ⟨m, s₂, hevents, hperform⟩ := Job.history_measure hmeasure
      rw [hperform] at hrest
      obtain ⟨ms, hhistory, hend⟩ := ih hrest
      refine ⟨m :: ms, ?_, ?_⟩
      · rw [Job.history_bind, hevents, hperform, List.flatMap_cons]
        exact congrArg _ hhistory
      · rw [Job.perform_bind, bind_apply, hperform]
        rcases hend with ⟨hall, hlast⟩ | ⟨hlt, hpos, hlast⟩
        · exact .inl ⟨by simp [hall], hlast⟩
        · refine .inr ⟨by simp [hlt], ?_, hlast⟩
          rw [Trial.record_runs] at hpos
          simp only [List.length_cons]
          omega

/-! ### First, least and total time -/

namespace Trial

/-- What a trial keeps of the times measured so far.  The sum is right as long as no time is negative and it fits in a
word. -/
structure Sums (t : Trial) (ts : List Int64) : Prop where
  runs : t.result.runs = ts.length
  first : ∀ e ∈ ts.head?, t.result.elapsed = e
  least_mem : ts ≠ [] → t.result.least ∈ ts
  least_le : ∀ e ∈ ts, t.result.least.toInt ≤ e.toInt
  total : (∀ e ∈ ts, 0 ≤ e.toInt) → (ts.map (·.toInt)).sum < 2 ^ 63 → t.total.toInt = (ts.map (·.toInt)).sum

private theorem toInt_add_of_fits {x y : Int64} (hx : 0 ≤ x.toInt) (hy : 0 ≤ y.toInt) (h : x.toInt + y.toInt < 2 ^ 63) :
    (x + y).toInt = x.toInt + y.toInt := by
  rw [Int64.toInt_add]
  exact Int.bmod_eq_of_le (by omega) (by omega)

/-- The times of a trial after one more measured call: the first one stays, and the least one is replaced by a smaller
one only. -/
private theorem record_times (t : Trial) (e : Int64) (got : UInt64) :
    (t.record e got).total = t.total + e ∧
    (t.record e got).result.elapsed = (if t.result.runs = 0 then e else t.result.elapsed) ∧
    (t.record e got).result.least =
      if t.result.runs = 0 then e else if e < t.result.least then e else t.result.least := by
  unfold record
  by_cases hfirst : t.result.runs = 0
  · simp only [hfirst, ↓reduceIte]
    split <;> simp
  · by_cases hsame : got = t.result.got
    · simp only [hfirst, hsame, ↓reduceIte]
      split <;> simp
    · simp only [hfirst, hsame, ↓reduceIte]
      split <;> simp

private theorem Sums.record {t : Trial} {ts : List Int64} (h : t.Sums ts) (e : Int64) (got : UInt64) :
    (t.record e got).Sums (ts ++ [e]) := by
  obtain ⟨htotal, helapsed, hleast⟩ := t.record_times e got
  have hzero : t.result.runs = 0 ↔ ts = [] := by
    rw [h.runs, Int.natCast_eq_zero, List.length_eq_zero_iff]
  refine ⟨?_, ?_, ?_, ?_, ?_⟩
  · rw [record_runs, h.runs, List.length_append]
    rfl
  · rw [helapsed]
    cases ts with
    | nil => simp [hzero]
    | cons first ts =>
      intro x hx
      rw [if_neg (by simp [hzero]), h.first first rfl]
      simpa using hx
  · intro _
    rw [hleast]
    by_cases hts : ts = []
    · simp [hzero, hts]
    · have hmem := h.least_mem hts
      rw [if_neg (by simp [hzero, hts])]
      split <;> simp [hmem]
  · intro x hx
    rw [hleast]
    by_cases hts : ts = []
    · subst hts
      simp only [List.nil_append, List.mem_singleton] at hx
      simp [hzero, hx]
    · rw [if_neg (by simp [hzero, hts])]
      have hle : ∀ y ∈ ts, t.result.least.toInt ≤ y.toInt := h.least_le
      rcases List.mem_append.1 hx with hx | hx
      · have := hle x hx
        split
        · rename_i hlt
          rw [Int64.lt_iff_toInt_lt] at hlt
          omega
        · exact this
      · rw [List.mem_singleton.1 hx]
        split
        · exact le_rfl
        · rename_i hge
          rw [Int64.lt_iff_toInt_lt] at hge
          omega
  · intro hnonneg hfits
    have hts : ∀ x ∈ ts, 0 ≤ x.toInt := fun x hx => hnonneg x (by simp [hx])
    have he : 0 ≤ e.toInt := hnonneg e (by simp)
    have hsum : 0 ≤ (ts.map (·.toInt)).sum := List.sum_nonneg (by simpa using hts)
    rw [List.map_append, List.sum_append, List.map_singleton, List.sum_singleton] at hfits ⊢
    have ht := h.total hts (by omega)
    rw [htotal, toInt_add_of_fits (by omega) he (by omega), ht]

private theorem Sums.recordAll {t : Trial} {ts : List Int64} (h : t.Sums ts) (ms : List Measurement) :
    (t.recordAll ms).Sums (ts ++ ms.map fun m => m.stop - m.start) := by
  induction ms generalizing t ts with
  | nil =>
    rw [List.map_nil, List.append_nil]
    exact h
  | cons m ms ih =>
    have hrest := ih (h.record (m.stop - m.start) m.answer)
    rw [List.append_assoc, List.singleton_append] at hrest
    exact hrest

private theorem sums_pending (b : Benchmark) (clock : String) : Sums { result := Result.pending b clock } [] := by
  refine ⟨rfl, ?_, ?_, ?_, ?_⟩
  · simp
  · simp
  · simp
  · intro _ _
    rfl

end Trial

/-! ### The summary -/

/-- The times of a result are the first, the least and the mean of a list of times, the mean rounded down. -/
structure Result.Summarizes (res : Result) (ts : List Int) : Prop where
  elapsed : ts.head? = some res.elapsed.toInt
  least_mem : res.least.toInt ∈ ts
  least_le : ∀ t ∈ ts, res.least.toInt ≤ t
  mean : res.mean.toInt = ts.sum / ts.length

namespace Result.Summarizes

variable {res : Result} {ts : List Int}

private theorem least_le_elapsed (h : res.Summarizes ts) : res.least.toInt ≤ res.elapsed.toInt :=
  h.least_le _ (List.mem_of_mem_head? h.elapsed)

private theorem length_pos (h : res.Summarizes ts) : (0 : Int) < ts.length := by
  have := List.length_pos_of_mem h.least_mem
  omega

private theorem least_le_mean (h : res.Summarizes ts) : res.least.toInt ≤ res.mean.toInt := by
  have hsum := List.card_nsmul_le_sum ts res.least.toInt h.least_le
  rw [nsmul_eq_mul, mul_comm] at hsum
  rw [h.mean]
  exact (Int.le_ediv_iff_mul_le h.length_pos).2 hsum

private theorem exists_mean_le (h : res.Summarizes ts) : ∃ t ∈ ts, res.mean.toInt ≤ t := by
  by_contra hall
  have hlt : ∀ t ∈ ts, t ≤ res.mean.toInt - 1 := by
    intro t ht
    by_contra hle
    exact hall ⟨t, ht, by omega⟩
  have hsum := List.sum_le_card_nsmul ts _ hlt
  rw [nsmul_eq_mul, mul_comm, sub_mul, one_mul] at hsum
  have hpos := h.length_pos
  have hmean : res.mean.toInt * ts.length ≤ ts.sum := by
    rw [h.mean]
    exact Int.ediv_mul_le _ (by omega)
  omega

private theorem eq_of_length_eq_one (h : res.Summarizes ts) (hone : ts.length = 1) :
    res.elapsed = res.least ∧ res.least = res.mean := by
  obtain ⟨t, rfl⟩ := List.length_eq_one_iff.1 hone
  have helapsed := h.elapsed
  have hleast := h.least_mem
  have hmean := h.mean
  simp at helapsed hleast hmean
  constructor
  · rw [← Int64.toInt_inj]
    omega
  · rw [← Int64.toInt_inj]
    omega

end Result.Summarizes

namespace Measurement

/-- A time that is not negative and fits in a word is measured as it is. -/
private theorem toInt_stop_sub_start {m : Measurement} (h : 0 ≤ m.time) (hfits : m.time < 2 ^ 63) :
    (m.stop - m.start).toInt = m.time := by
  unfold time at h hfits ⊢
  rw [Int64.toInt_sub]
  exact Int.bmod_eq_of_le (by omega) (by omega)

/-- The times of measurements whose readings are in order, when their sum fits in a word. -/
private theorem map_toInt_eq {ms : List Measurement} (hmono : ∀ m ∈ ms, 0 ≤ m.time)
    (hfits : (ms.map time).sum < 2 ^ 63) :
    (ms.map fun m => m.stop - m.start).map (·.toInt) = ms.map time := by
  rw [List.map_map, List.map_inj_left]
  intro m hm
  have hle : m.time ≤ (ms.map time).sum :=
    List.single_le_sum (by simpa using hmono) _ (List.mem_map_of_mem hm)
  exact toInt_stop_sub_start (hmono m hm) (by omega)

end Measurement

/-- The quotient of a sum by a number of runs. -/
private theorem toInt_div_ofInt {x : Int64} {n : Int} (hx : 0 ≤ x.toInt) (hn : 0 < n) (hmax : n < 2 ^ 63) :
    (x / Int64.ofInt n).toInt = x.toInt / n := by
  have hdivisor : (Int64.ofInt n).toInt = n := Int64.toInt_ofInt_of_le (by omega) (by omega)
  have hlt := x.toInt_lt
  have hle : x.toInt / n ≤ x.toInt := Int.ediv_le_self n hx
  have hnonneg : 0 ≤ x.toInt / n := Int.ediv_nonneg hx (by omega)
  rw [Int64.toInt_div, hdivisor, Int.tdiv_eq_ediv_of_nonneg hx]
  exact Int.bmod_eq_of_le (by omega) (by omega)

private theorem Trial.finish_times (t : Trial) (h : 0 < t.result.runs) :
    t.finish.elapsed = t.result.elapsed ∧ t.finish.least = t.result.least ∧
      t.finish.mean = t.total / Int64.ofInt t.result.runs := by
  have hpos : t.result.runs > 0 := h
  simp only [finish, hpos, ↓reduceIte, and_self]

private theorem Trial.finish_runs (t : Trial) : t.finish.runs = t.result.runs := by
  simp only [finish]
  split <;> rfl

/-- The result of a trial summarizes its measurements. -/
private theorem Trial.Sums.summarizes_finish {t : Trial} {ms : List Measurement}
    (h : t.Sums (ms.map fun m => m.stop - m.start))
    (hne : ms ≠ []) (hcount : (ms.length : Int) < 2 ^ 63) (hmono : ∀ m ∈ ms, 0 ≤ m.time)
    (hfits : (ms.map Measurement.time).sum < 2 ^ 63) : t.finish.Summarizes (ms.map Measurement.time) := by
  have htimes := Measurement.map_toInt_eq hmono hfits
  have hpos : 0 < ms.length := List.length_pos_iff.2 hne
  have hruns : t.result.runs = ms.length := by rw [h.runs, List.length_map]
  have hnonneg : ∀ e ∈ ms.map fun m => m.stop - m.start, 0 ≤ e.toInt := by
    intro e he
    have hmem : e.toInt ∈ ms.map Measurement.time := htimes ▸ List.mem_map_of_mem he
    obtain ⟨m, hm, heq⟩ := List.mem_map.1 hmem
    rw [← heq]
    exact hmono m hm
  have htotal : t.total.toInt = (ms.map Measurement.time).sum := by
    rw [h.total hnonneg (by rw [htimes]; exact hfits), htimes]
  have hsum : 0 ≤ (ms.map Measurement.time).sum := List.sum_nonneg (by simpa using hmono)
  obtain ⟨helapsed, hleast, hmean⟩ := t.finish_times (by omega)
  refine ⟨?_, ?_, ?_, ?_⟩
  · obtain ⟨m, rest, rfl⟩ := List.exists_cons_of_ne_nil hne
    rw [helapsed, h.first (m.stop - m.start) rfl, ← htimes]
    rfl
  · rw [hleast, ← htimes]
    exact List.mem_map_of_mem (h.least_mem (by simpa using hne))
  · intro x hx
    rw [← htimes] at hx
    obtain ⟨e, he, rfl⟩ := List.mem_map.1 hx
    rw [hleast]
    exact h.least_le e he
  · rw [hmean, hruns, toInt_div_ofInt (by omega) (by omega) hcount, htotal, List.length_map]

namespace Runner

variable {σ : Type} {rig : Rig (StateM σ)} {s : σ} {r : Runner} {b : Benchmark} {clock : String} {a : Algorithm}
  {k : ClockKind}

/-- Apart from its repetitions, a benchmark that can be called neither reads the clock nor calls an algorithm. -/
theorem runOn_loop (hprepare : r.prepare b clock = .ok (a, k)) (hstart : (rig.cancelled s).1 = false) :
    ∃ s₁, (r.runOn Job.rig b clock).history rig s =
        (repeatCalls Job.rig k a b.n (wantedRuns b) { result := Result.pending b clock }).history rig s₁ ∧
      ∀ t, ((repeatCalls Job.rig k a b.n (wantedRuns b) { result := Result.pending b clock }).perform rig s₁).1 = t →
        t.aborted = false → (r.runOn rig b clock s).1 = t.finish := by
  have hlook : (Job.rig.cancelled.perform rig s).1 = false := by
    rw [Job.perform_rig_cancelled]
    exact hstart
  rw [← Job.perform_runOn rig r b clock]
  unfold runOn
  rw [Job.history_bind, Job.perform_bind, bind_apply]
  simp only [hlook, Bool.false_eq_true, ↓reduceIte, hprepare, Job.history_bind, Job.perform_bind, bind_apply]
  refine ⟨((Job.rig.log ⟨.debug, "Benchmark started.", benchmarkFields b ++
    [("runs", .int (wantedRuns b)), ("clock", .choice clock)]⟩).perform rig (Job.rig.cancelled.perform rig s).2).2, ?_, ?_⟩
  · rw [Job.history_rig_cancelled, Job.history_rig_log, List.nil_append, List.nil_append]
    refine List.append_right_eq_self.2 ?_
    split <;> rfl
  · rintro t ht haborted
    rw [ht]
    simp only [haborted, Bool.false_eq_true, ↓reduceIte]
    rfl

/-- The times that a benchmark reports, on every rig and for all readings, answers and signals to stop, once the benchmark
can be called and is not told to stop before it starts.  The clock is read exactly twice for each call, before and after
it.  There is at least one call, so the mean is never a quotient by zero.  When no call ends before it started and the
sum of their times fits in a word, the result has the first time, the least one and the mean, rounded down, and these
stand in the order that they should. -/
theorem runOn_times (hprepare : r.prepare b clock = .ok (a, k)) (hstart : (rig.cancelled s).1 = false)
    (hrepeat : b.repetitions < 2 ^ 63) (hread : (r.runOn Job.rig b clock).Readable rig s) :
    ∃ (ms : List Measurement) (res : Result), res = (r.runOn rig b clock s).1 ∧
      (r.runOn Job.rig b clock).history rig s = ms.flatMap (·.events k a b.n) ∧
      res.runs = ms.length ∧ 1 ≤ res.runs ∧ Int64.ofInt res.runs ≠ 0 ∧
      ((∀ m ∈ ms, m.start ≤ m.stop) → (ms.map Measurement.time).sum < 2 ^ 63 →
        res.Summarizes (ms.map Measurement.time) ∧
        0 ≤ res.least.toInt ∧ res.least ≤ res.elapsed ∧ res.least ≤ res.mean ∧
        (∃ t ∈ ms.map Measurement.time, res.mean.toInt ≤ t) ∧
        (res.runs = 1 → res.elapsed = res.least ∧ res.least = res.mean)) := by
  obtain ⟨s₁, hhistory, hresult⟩ := runOn_loop hprepare hstart
  have hloop : (repeatCalls Job.rig k a b.n (wantedRuns b) { result := Result.pending b clock }).Readable rig s₁ := by
    unfold Job.Readable at hread ⊢
    rwa [hhistory] at hread
  obtain ⟨ms, hevents, hend⟩ := history_repeatCalls hloop
  have hwanted : 1 ≤ wantedRuns b ∧ (wantedRuns b : Int) < 2 ^ 63 := by unfold wantedRuns; omega
  have hsums := (Trial.sums_pending b clock).recordAll ms
  rw [List.nil_append] at hsums
  have haborted := Trial.recordAll_aborted { result := Result.pending b clock } ms
  obtain ⟨t, hfinish, hsums, hlength⟩ : ∃ t : Trial, (r.runOn rig b clock s).1 = t.finish ∧
      t.Sums (ms.map fun m => m.stop - m.start) ∧ 1 ≤ ms.length ∧ ms.length ≤ wantedRuns b := by
    rcases hend with ⟨hall, hlast⟩ | ⟨hlt, hpos, hlast⟩
    · exact ⟨_, hresult _ hlast haborted, hsums, by omega, by omega⟩
    · have hnone : (Result.pending b clock).runs = 0 := rfl
      -- An interruption only adds its error.
      exact ⟨_, hresult _ hlast haborted, ⟨hsums.runs, hsums.first, hsums.least_mem, hsums.least_le, hsums.total⟩,
        by simp only [hnone] at hpos; omega, by omega⟩
  have hruns : t.finish.runs = ms.length := by
    rw [Trial.finish_runs, hsums.runs, List.length_map]
  refine ⟨ms, t.finish, hfinish.symm, by rw [hhistory, hevents], hruns, by omega, ?_, ?_⟩
  · intro hzero
    have hdivisor : (Int64.ofInt t.finish.runs).toInt = t.finish.runs := Int64.toInt_ofInt_of_le (by omega) (by omega)
    rw [hzero] at hdivisor
    have : (0 : Int64).toInt = 0 := rfl
    omega
  · intro hmono hfits
    have htime : ∀ m ∈ ms, 0 ≤ m.time := by
      intro m hm
      have hle := Int64.le_iff_toInt_le.1 (hmono m hm)
      unfold Measurement.time
      omega
    have hne : ms ≠ [] := List.length_pos_iff.1 (by omega)
    have hsummary := hsums.summarizes_finish hne (by omega) htime hfits
    refine ⟨hsummary, ?_, Int64.le_iff_toInt_le.2 hsummary.least_le_elapsed,
      Int64.le_iff_toInt_le.2 hsummary.least_le_mean, hsummary.exists_mean_le, ?_⟩
    · obtain ⟨m, hm, heq⟩ := List.mem_map.1 hsummary.least_mem
      rw [← heq]
      exact htime m hm
    · intro hone
      exact hsummary.eq_of_length_eq_one (by rw [List.length_map]; omega)

/-- A rig that counts its readings and calls: the clock stands at 10, 15, 20 and 22, the second call gives another answer,
and after it the run is told to stop. -/
def countingRig : Rig (StateM (Nat × Nat)) where
  now _ s := (.ok ([10, 15, 20, 22].getD s.1 0), (s.1 + 1, s.2))
  call _ _ s := (if s.2 = 1 then 7 else 1, (s.1, s.2 + 1))
  cancelled s := (s.2 == 2, s)
  log _ s := ((), s)
  gather _ jobs := inOrder jobs

/-- Two of three calls, which take 5 and 2. -/
theorem runOn_times_interrupted :
    let r := make ⟨[⟨"odd", "", .ofFunction fun _ => 1⟩]⟩ "wall" 1
    let b : Benchmark := ⟨"x", "odd", 5, 1, "", 3⟩
    (r.runOn Job.rig b "wall").history countingRig (0, 0) =
      [Measurement.mk 10 15 1, Measurement.mk 20 22 7].flatMap (·.events .wall ⟨"odd", "", .ofFunction fun _ => 1⟩ 5) ∧
    (r.runOn countingRig b "wall" (0, 0)).1.runs = 2 ∧
    (r.runOn countingRig b "wall" (0, 0)).1.Summarizes [5, 2] := by
  intro r b
  have hprepare : r.prepare b "wall" = .ok (⟨"odd", "", .ofFunction fun _ => 1⟩, .wall) := rfl
  have hhistory : (r.runOn Job.rig b "wall").history countingRig (0, 0) =
      [Measurement.mk 10 15 1, Measurement.mk 20 22 7].flatMap
        (·.events .wall ⟨"odd", "", .ofFunction fun _ => 1⟩ 5) := by
    have hwanted : wantedRuns b = 3 := rfl
    have hpending : (Result.pending b "wall").runs = 0 := rfl
    simp only [runOn, hprepare, hwanted, repeatCalls_succ, Job.measure_eq, Trial.record_runs, hpending]
    rfl
  have hread : (r.runOn Job.rig b "wall").Readable countingRig (0, 0) := by
    intro k e
    rw [hhistory]
    simp [Measurement.events]
  obtain ⟨ms, _, rfl, hevents, hruns, _, _, htimes⟩ := runOn_times hprepare rfl (by decide) hread
  obtain rfl := Measurement.flatMap_events_inj (hevents.symm.trans hhistory)
  exact ⟨hhistory, hruns, (htimes (by decide) (by decide)).1⟩

end Runner

end FibTiming
