import FibTiming.Proofs.Endings

/-!
# Runs of whole suites

A suite is refused as a whole when one of its algorithms is unknown: the error lists the benchmarks concerned, and
nothing but the log has changed (`Runner.run_outcome`).  Otherwise every result tells its clock, which is the same for all
of them, and an error of a result is one of those that a known algorithm can have (`Runner.runOn_accounts`).  The clock
that counts all workers together is only used when no two of them are at work (`Pool.Reaches.bounded`).
-/

namespace FibTiming

/-! ### Unknown algorithms -/

namespace Registry

private theorem isOk_lookup_iff (r : Registry) (name : String) : (r.lookup name).isOk = true ↔ name ∈ r.names := by
  constructor
  · intro h
    cases hl : r.lookup name with
    | error e =>
      rw [hl] at h
      cases h
    | ok a => exact mem_names_of_lookup hl
  · intro h
    obtain ⟨a, _, ha⟩ := exists_lookup h
    rw [ha]
    rfl

private theorem not_mem_names_iff (r : Registry) (name : String) : name ∉ r.names ↔ ∃ e, r.lookup name = .error e := by
  rw [← isOk_lookup_iff]
  cases r.lookup name <;> simp [Except.isOk, Except.toBool]

private theorem checkSuite_eq_error {r : Registry} {s : Suite} (h : ∃ b ∈ s.benchmarks, b.algorithm ∉ r.names) :
    r.checkSuite s = .error ⟨r.unknown s⟩ := by
  have hne : r.checkSuite s ≠ .ok () := by
    obtain ⟨b, hb, hnot⟩ := h
    exact fun hok => hnot ((checkSuite_eq_ok_iff r s).1 hok b hb)
  unfold checkSuite at hne ⊢
  split
  · rename_i hnil
    simp [hnil] at hne
  · rfl

end Registry

/-- What the error about a suite says of one benchmark. -/
def unregistered (name algorithm : String) : String :=
  "\n- " ++ s!"benchmark '{name}': algorithm '{algorithm}' is not registered"

/-- The error lists the benchmarks whose algorithm cannot be looked up, one entry for each and in the order of the suite,
and its text has a line for each of them. -/
structure UnknownAlgorithms.Lists (e : UnknownAlgorithms) (registry : Registry) (suite : Suite) : Prop where
  benchmarks : e.benchmarks = (suite.benchmarks.filter fun b => !(registry.lookup b.algorithm).isOk).map
    fun b => (b.name, b.algorithm)
  message : e.message = "unknown algorithm: suite validation failed:" ++
    String.join (e.benchmarks.map fun b => unregistered b.1 b.2)

private theorem intercalate_eq_join (sep s : String) (ss : List String) :
    sep ++ sep.intercalate (s :: ss) = String.join ((s :: ss).map (sep ++ ·)) := by
  induction ss generalizing s with
  | nil => simp
  | cons t ss ih =>
    have hjoin : String.join ((s :: t :: ss).map (sep ++ ·)) = sep ++ s ++ String.join ((t :: ss).map (sep ++ ·)) := by
      simp
    rw [String.intercalate_cons_of_ne_nil (by simp), hjoin, ← ih t]
    simp only [String.append_assoc]

private theorem UnknownAlgorithms.message_cons (b : String × String) (bs : List (String × String)) :
    message ⟨b :: bs⟩ = "unknown algorithm: suite validation failed:" ++
      String.join ((b :: bs).map fun b => unregistered b.1 b.2) := by
  have hstart : "unknown algorithm: suite validation failed:\n- " =
      "unknown algorithm: suite validation failed:" ++ "\n- " := by decide
  unfold message
  rw [hstart, String.append_assoc, List.map_cons, intercalate_eq_join]
  simp only [List.map_cons, List.map_map, unregistered, Function.comp_def]

private theorem Registry.lists_unknown {r : Registry} {s : Suite} (h : ∃ b ∈ s.benchmarks, b.algorithm ∉ r.names) :
    UnknownAlgorithms.Lists ⟨r.unknown s⟩ r s := by
  have hlookup : ∀ b : Benchmark, decide (b.algorithm ∉ r.names) = !(r.lookup b.algorithm).isOk := by
    intro b
    rw [Bool.eq_iff_iff, decide_eq_true_iff, ← isOk_lookup_iff]
    simp
  have hne : r.unknown s ≠ [] := by
    obtain ⟨b, hb, hnot⟩ := h
    refine List.ne_nil_of_mem (List.mem_map.2 ⟨b, List.mem_filter.2 ⟨hb, ?_⟩, rfl⟩)
    simpa using hnot
  obtain ⟨b, bs, hcons⟩ := List.exists_cons_of_ne_nil hne
  refine ⟨?_, ?_⟩
  · simp only [unknown, hlookup]
  · rw [hcons, UnknownAlgorithms.message_cons]

/-! ### Errors of known algorithms -/

/-- What can be wrong with a benchmark whose algorithm is known; `failure` holds of what clocks say when they cannot be
read. -/
inductive RunError.Concerns (b : Benchmark) (clock : String) (failure : String → Prop) : RunError → Prop
  | notStarted : Concerns b clock failure (.notStarted b.name)
  | interrupted (runs) : Concerns b clock failure (.interrupted b.name runs)
  | outOfRange : Concerns b clock failure (.outOfRange b.name b.n)
  | unknownClock : Concerns b clock failure (.unknownClock clock)
  | clockFailed (cause) (h : failure cause) : Concerns b clock failure (.clockFailed b.name cause)
  | answerChanged (run answer first) : Concerns b clock failure (.answerChanged b.name run answer first)

/-- The result is about the benchmark and the clock, and so is its error. -/
structure Result.Accounts (b : Benchmark) (used : String) (failure : String → Prop) (r : Result) : Prop where
  name : r.name = b.name
  clock : r.clock = used
  error : ∀ e, r.error = some e → e.Concerns b used failure

section

variable {b : Benchmark} {clock : String} {failure : String → Prop} {t : Trial}

private theorem Result.Accounts.record (h : t.result.Accounts b clock failure) (elapsed : Int64) (got : UInt64) :
    (t.record elapsed got).result.Accounts b clock failure := by
  obtain ⟨answer, first, least, error, hresult, herror⟩ := t.record_result elapsed got
  rw [hresult]
  refine ⟨h.name, h.clock, fun e he => ?_⟩
  rcases herror with rfl | rfl
  · exact h.error e he
  · cases he
    rw [h.name]
    exact .answerChanged ..

private theorem Result.Accounts.finish (h : t.result.Accounts b clock failure) : t.finish.Accounts b clock failure := by
  unfold Trial.finish
  dsimp only
  split
  · exact ⟨h.name, h.clock, h.error⟩
  · exact ⟨h.name, h.clock, h.error⟩

private theorem repeatCalls_accounts {R : Replies} {c : ClockKind} {a : Algorithm} (ha : R.callable a)
    (hfailure : ∀ cause, R.now c (.error cause) → failure cause) (n : Int) (left : Nat)
    (h : t.result.Accounts b clock failure) :
    (repeatCalls Job.rig c a n left t).Yields R fun t' => t'.result.Accounts b clock failure := by
  apply repeatCalls_keeps ha _ _ _ n left h
  · exact fun t elapsed got ht => ht.record elapsed got
  · intro t ht
    refine ⟨ht.name, ht.clock, ?_⟩
    rintro _ ⟨⟩
    rw [ht.name]
    exact .interrupted _
  · intro t cause hcause ht
    refine ⟨ht.name, ht.clock, ?_⟩
    rintro _ ⟨⟩
    rw [ht.name]
    exact .clockFailed cause (hfailure cause hcause)

end

namespace Runner

private theorem concerns_of_prepare {r : Runner} {b : Benchmark} {clock : String} {e : RunError}
    (hknown : b.algorithm ∈ r.registry.names) (h : r.prepare b clock = .error e) (failure : String → Prop) :
    e.Concerns b clock failure := by
  obtain ⟨a, _, ha⟩ := Registry.exists_lookup hknown
  unfold prepare at h
  rw [ha] at h
  split at h
  · cases h
    exact .outOfRange
  · dsimp only at h
    split at h
    · cases h
      exact .unknownClock
    · cases h

theorem runOn_accounts {R : Replies} (hcallable : ∀ a, R.callable a) {failure : String → Prop}
    (hfailure : ∀ k cause, R.now k (.error cause) → failure cause) {r : Runner} {b : Benchmark}
    (hknown : b.algorithm ∈ r.registry.names) (clock : String) :
    (r.runOn Job.rig b clock).Yields R (Result.Accounts b clock failure) := by
  unfold runOn
  intro stop _
  cases stop with
  | true =>
    refine ⟨rfl, rfl, ?_⟩
    rintro _ ⟨⟩
    exact .notStarted
  | false =>
    cases hp : r.prepare b clock with
    | error e =>
      refine ⟨rfl, rfl, ?_⟩
      rintro _ ⟨⟩
      exact concerns_of_prepare hknown hp failure
    | ok p =>
      have hpending : (Result.pending b clock).Accounts b clock failure := ⟨rfl, rfl, by simp [Result.pending]⟩
      refine (repeatCalls_accounts (t := ⟨Result.pending b clock, 0, false⟩) (hcallable p.1) (hfailure p.2) b.n
        (wantedRuns b) hpending).bind fun t ht => ?_
      split
      · exact ht
      · exact ht.finish

end Runner

/-! ### Workers at work -/

namespace Pool

/-- No more workers than there are, and no more jobs at hand or waiting than there were. -/
structure Bounded (workers jobs : Nat) (p : Pool) : Prop where
  active : p.active.length ≤ workers
  jobs : p.active.length + p.waiting.length ≤ jobs

variable {rig : Rig (StateM Stage)} {workers n : Nat} {p q : Pool}

private theorem bounded_start (s : Stage) (jobs : List (Job Result)) : (start s jobs).Bounded workers jobs.length :=
  ⟨by simp [start], by simp [start]⟩

theorem Step.bounded (h : Step rig workers p q) (hp : p.Bounded workers n) : q.Bounded workers n := by
  obtain ⟨hactive, hjobs⟩ := hp
  cases h with
  | take hfree =>
    simp only [List.length_cons] at hjobs
    refine ⟨?_, ?_⟩
    · rw [List.length_append]
      exact hfree
    · simp only [List.length_append, List.length_singleton]
      omega
  | work h =>
    simp only [List.length_append, List.length_cons] at hactive hjobs
    exact ⟨by simpa using hactive, by simpa using hjobs⟩
  | store =>
    simp only [List.length_append, List.length_cons] at hactive hjobs
    refine ⟨?_, ?_⟩
    all_goals
      simp only [List.length_append]
      omega
  | cancel => exact ⟨hactive, hjobs⟩

theorem Reaches.bounded (h : Reaches rig workers p q) (hp : p.Bounded workers n) : q.Bounded workers n := by
  induction h with
  | refl => exact hp
  | tail _ hstep ih => exact hstep.bounded ih

end Pool

/-! ### The clock of a run -/

namespace Runner

theorem clockFor_make_eq (registry : Registry) (clock : String) (workers : Int) (size : Nat) :
    (make registry clock workers).clockFor size =
      if (clock = "" ∨ clock = "process") ∧ 1 < workers ∧ 1 < size then "thread"
      else if clock = "" then "process" else clock := by
  have hworkers : (if workers < 1 then 1 else workers) > 1 ↔ 1 < workers := by split <;> omega
  have hclock : (if clock = "" then "process" else clock) = "process" ↔ clock = "" ∨ clock = "process" := by
    split <;> simp_all
  simp only [clockFor, sharesClock, make, ClockKind.name, Bool.and_eq_true, beq_iff_eq, decide_eq_true_iff, hclock,
    hworkers, gt_iff_lt, and_assoc]

/-- Where the processor time of the whole program is used, at most one worker is at work at any time. -/
theorem active_le_one {registry : Registry} {clock : String} {workers : Int} {suite : Suite}
    (h : (make registry clock workers).clockFor suite.benchmarks.length = "process") {rig : Rig (StateM Stage)}
    {s : Stage} {p : Pool} (hp : Pool.Reaches rig (make registry clock workers).workers.toNat
      ((make registry clock workers).pool suite s) p) : p.active.length ≤ 1 := by
  obtain ⟨hactive, hjobs⟩ := hp.bounded (Pool.bounded_start s _)
  rw [List.length_map] at hjobs
  rw [clockFor_make_eq] at h
  by_cases hshared : (clock = "" ∨ clock = "process") ∧ 1 < workers ∧ 1 < suite.benchmarks.length
  · rw [if_pos hshared] at h
    exact absurd h (by decide)
  · rw [if_neg hshared] at h
    have hclock : clock = "" ∨ clock = "process" := by
      split at h
      · exact .inl ‹_›
      · exact .inr h
    have hsmall : ¬ (1 < workers ∧ 1 < suite.benchmarks.length) := fun hboth => hshared ⟨hclock, hboth⟩
    have hworkers : (make registry clock workers).workers.toNat = (max 1 workers).toNat := by
      show (if workers < 1 then 1 else workers : Int).toNat = _
      split <;> omega
    rw [hworkers] at hactive
    omega

/-- Whether a run is refused is settled by the algorithms: when one of them cannot be looked up, the run does nothing but
write to the log and returns an error that lists the benchmarks concerned; otherwise it returns results.  In whatever
order the workers get on and whenever the run is told to stop, no result complains about an unknown algorithm, and all of
them tell the same clock, which is not the one that all workers share unless no two of them can be at work. -/
theorem run_outcome (registry : Registry) (clock : String) (workers : Int) (suite : Suite) :
    let r := make registry clock workers
    let used := if (clock = "" ∨ clock = "process") ∧ 1 < workers ∧ 1 < suite.benchmarks.length then "thread"
      else if clock = "" then "process" else clock
    (∀ name, name ∉ registry.names ↔ ∃ e, registry.lookup name = .error e) ∧
    ((∃ b ∈ suite.benchmarks, b.algorithm ∉ registry.names) → ∃ e : UnknownAlgorithms, e.Lists registry suite ∧
      (∀ {m : Type → Type} [Monad m] [LawfulMonad m] (rig : Rig m), r.run rig suite =
        logAll rig (registry.resolvedRecords suite) >>= fun _ => pure (.error e)) ∧
      ∀ (script : Script) (terminal : Bool) (gather) (c : Config) (s : Stage),
        (r.run (Program.rig (script.hostOn terminal gather) c) suite s).1 = .error e ∧
        s.LogsTo (r.run (Program.rig (script.hostOn terminal gather) c) suite s).2) ∧
    ∀ rig : Rig (StateM Stage),
      (∀ s, (∃ e s', r.run rig suite s = (.error e, s')) ↔ ∃ b ∈ suite.benchmarks, b.algorithm ∉ registry.names) ∧
      ((∀ b ∈ suite.benchmarks, b.algorithm ∈ registry.names) → ∀ s rs, r.Returns rig suite s rs → ∀ res ∈ rs,
        (∀ name cause, res.error ≠ some (.unknownAlgorithm name cause)) ∧ res.clock = used ∧
        (res.clock = "process" →
          ∀ s₀ p, Pool.Reaches rig r.workers.toNat (r.pool suite s₀) p → p.active.length ≤ 1)) := by
  intro r used
  have hrefused : (∃ b ∈ suite.benchmarks, b.algorithm ∉ registry.names) →
      ∀ {m : Type → Type} [Monad m] [LawfulMonad m] (rig : Rig m), r.run rig suite =
        logAll rig (registry.resolvedRecords suite) >>= fun _ => pure (.error ⟨registry.unknown suite⟩) := by
    intro hunknown m _ _ rig
    exact run_of_unknown r rig (Registry.checkSuite_eq_error hunknown)
  refine ⟨registry.not_mem_names_iff, fun hunknown => ?_, fun rig => ⟨fun s => ?_, fun hknown s rs hreturns => ?_⟩⟩
  · refine ⟨⟨registry.unknown suite⟩, Registry.lists_unknown hunknown, hrefused hunknown, ?_⟩
    intro script terminal gather c s
    rw [hrefused hunknown]
    exact ⟨rfl, Program.logAll_hostOn _ s⟩
  · by_cases hunknown : ∃ b ∈ suite.benchmarks, b.algorithm ∉ registry.names
    · rw [hrefused hunknown]
      exact iff_of_true ⟨_, _, rfl⟩ hunknown
    · have hcheck := (Registry.checkSuite_eq_ok_iff registry suite).2 (by simpa using hunknown)
      obtain ⟨_, _, _, hrun⟩ := exists_gathered (I := fun _ => True) rig (fun _ _ _ => trivial) r hcheck
        (s := s) trivial
      rw [hrun]
      exact iff_of_false (by rintro ⟨_, _, ⟨⟩⟩) hunknown
  · have hjob : ∀ b ∈ suite.benchmarks, (r.runOn Job.rig b (r.clockFor suite.benchmarks.length)).Yields .any
        (Result.Accounts b (r.clockFor suite.benchmarks.length) fun _ => True) :=
      fun b hb => runOn_accounts (fun _ => trivial) (fun _ _ _ => trivial) (hknown b hb) _
    have hresults := hreturns.forall₂ (Pool.lasting_true rig).keeps hjob
    refine forall_of_forall₂ (hresults.imp fun b res hres => ⟨?_, ?_, fun hprocess s₀ p hp => ?_⟩)
    · rintro name cause he
      cases hres.error _ he
    · exact hres.clock.trans (clockFor_make_eq ..)
    · exact active_le_one (hres.clock.symm.trans hprocess) hp

/-- Two of three algorithms are unknown; and without these two workers, who take turns, do not share a clock. -/
theorem run_outcome_mixed :
    let mixed : Suite := ⟨[⟨"a", "naive", 4, 5, "", 1⟩, ⟨"b", "gone", 4, 5, "", 1⟩, ⟨"c", "lost", 4, 5, "", 1⟩]⟩
    let known : Suite := ⟨[⟨"a", "naive", 4, 5, "", 1⟩, ⟨"b", "iterative", 6, 13, "", 1⟩]⟩
    let rig := Script.rig { reading := fun i => .ok (Int64.ofNat i) }
    (∃ e : UnknownAlgorithms, e.benchmarks = [("b", "gone"), ("c", "lost")] ∧ ∀ s : Stage,
      ((make Registry.core "" 2).run (Program.rig (({} : Script).hostOn true fun _ jobs => inOrder jobs) {}) mixed s).1 =
        .error e) ∧
    ∃ rs, (make Registry.core "" 2).Returns rig known {} rs ∧ rs.map (·.elapsed) = [2, 2] ∧
      ∀ res ∈ rs, res.clock = "thread" := by
  intro mixed known rig
  refine ⟨?_, ?_⟩
  · obtain ⟨_, hrefused, _⟩ := run_outcome Registry.core "" 2 mixed
    obtain ⟨e, hlists, _, hrun⟩ := hrefused ⟨⟨"b", "gone", 4, 5, "", 1⟩, by decide, by decide⟩
    exact ⟨e, hlists.benchmarks, fun s => (hrun {} true _ {} s).1⟩
  · obtain ⟨_, _, hresults⟩ := run_outcome Registry.core "" 2 known
    obtain ⟨rs, hslots, hreturns⟩ := exists_returns_of_follow (make Registry.core "" 2) rig known {} (Pool.turns 20)
      (by decide +kernel) (by decide +kernel)
    have helapsed : (((make Registry.core "" 2).pool known {}).follow rig (make Registry.core "" 2).workers.toNat
        (Pool.turns 20)).slots.map (·.map (·.elapsed)) = [2, 2].map some := by decide +kernel
    refine ⟨rs, hreturns, ?_, fun res hres => ((hresults rig).2 (by decide) {} rs hreturns res hres).2.1⟩
    apply List.map_injective_iff.2 (Option.some_injective Int64)
    rw [hslots, List.map_map] at helapsed
    rw [List.map_map]
    exact helapsed

end Runner

end FibTiming
