import FibTiming.Proofs.Registry
import FibTiming.Proofs.Rehearsal

/-!
# The order in which workers get on does not matter

When all algorithms of a suite compute functions, the results that a pool of workers stores do not depend on the number
of workers, on their order, on the clock or on its readings, except for the clock and the times themselves
(`Runner.pool_verdicts`).  A run that is told to stop, at whatever point, leaves each result either as it would have
been anyway or cut short.
-/

namespace FibTiming.Runner

/-- The verdict on a benchmark does not depend on the clock. -/
private theorem verdict_eq_verdict {r r' : Runner} (hr : r.registry = r'.registry) (b : Benchmark)
    {clock clock' : String}
    (hc : clock ∈ ClockKind.names) (hc' : clock' ∈ ClockKind.names) : r.verdict b clock = r'.verdict b clock' := by
  obtain ⟨k, hk⟩ := Option.isSome_iff_exists.1 ((ClockKind.ofName?_isSome_iff clock).2 hc)
  obtain ⟨k', hk'⟩ := Option.isSome_iff_exists.1 ((ClockKind.ofName?_isSome_iff clock').2 hc')
  unfold verdict prepare
  rw [hr]
  by_cases hn : b.n < 0 ∨ b.n > maxIndex
  · simp only [hn, ↓reduceIte]
  · simp only [hn, ↓reduceIte]
    cases r'.registry.lookup b.algorithm with
    | error e => rfl
    | ok a => simp only [hk, hk']

/-- Every algorithm that the suite names is registered and computes a function. -/
def Functional (registry : Registry) (suite : Suite) : Prop :=
  ∀ b ∈ suite.benchmarks, ∃ a f, registry.lookup b.algorithm = .ok a ∧ a.computation = .ofFunction f

namespace Functional

variable {registry : Registry} {suite : Suite}

private theorem checkSuite (h : Functional registry suite) : registry.checkSuite suite = .ok () := by
  rw [Registry.checkSuite_eq_ok_iff]
  intro b hb
  obtain ⟨a, _, ha, _⟩ := h b hb
  exact Registry.mem_names_of_lookup ha

private theorem runOn_yields (h : Functional registry suite) {r : Runner} (hr : r.registry = registry)
    {stop : Bool → Prop} {b : Benchmark} (hb : b ∈ suite.benchmarks) (clock : String) :
    (r.runOn Job.rig b clock).Yields (.steady stop) fun res =>
      res.untimed = r.verdict b clock ∨ stop true ∧ res.CutShort b := by
  apply Runner.runOn_yields
  intro a k hp
  obtain ⟨a', f, ha', hf⟩ := h b hb
  have ha := lookup_of_prepare hp
  rw [hr, ha', Except.ok.injEq] at ha
  exact ⟨f, ha ▸ hf⟩

/-- Without the signal to stop, the results of the suite one after the other are the verdicts. -/
theorem run_verdicts (h : Functional registry suite) {clock : String} (hclock : clock ∈ ClockKind.names) (workers : Int)
    {script : Script} (hscript : script.Reliable) (c : Config) {s : Stage} (hs : s.cancelled = false)
    {r : Runner} (hr : r.registry = registry) {clock' : String} (hclock' : clock' ∈ ClockKind.names) :
    ∃ rs s', (make registry clock workers).run (Program.rig script.host c) suite s = (.ok rs, s') ∧
      List.Forall₂ (fun b res => res.untimed = r.verdict b clock') suite.benchmarks rs := by
  have hjob : ∀ b ∈ suite.benchmarks, ((make registry clock workers).runOn Job.rig b
      ((make registry clock workers).clockFor suite.benchmarks.length)).Yields (.steady (· = false))
      fun res => res.untimed = r.verdict b clock' := by
    intro b hb
    apply (h.runOn_yields rfl hb _).mono
    rintro res (hres | ⟨hstop, _⟩)
    · rw [hres]
      exact verdict_eq_verdict hr.symm b (clockFor_make hclock registry workers _) hclock'
    · cases hstop
  obtain ⟨rs, s', hrun, hrs, _⟩ := run_forall₂ (Script.keeps_unmoved hscript s) rfl (make registry clock workers)
    h.checkSuite hjob (.refl hs)
  exact ⟨rs, s', hrun, hrs⟩

end Functional

private theorem exists_getElem?_of_forall₂ {α β : Type} {P : α → β → Prop} {as : List α} {bs : List β}
    (h : List.Forall₂ P as bs) {i : Nat} {a : α} (ha : as[i]? = some a) : ∃ b, bs[i]? = some b ∧ P a b := by
  induction h generalizing i with
  | nil => simp at ha
  | @cons a' b' as bs hab _ ih =>
    cases i with
    | zero =>
      rw [List.getElem?_cons_zero, Option.some.injEq] at ha
      exact ⟨b', rfl, ha ▸ hab⟩
    | succ i => exact ih (by simpa using ha)

/-- In whatever order the workers get on, and whenever the run is told to stop: when it returns, every place has been
written once and describes its benchmark.  A result is that of a single worker on any clock, up to its clock and times,
unless the run was told to stop and the result is cut short. -/
theorem pool_verdicts {registry : Registry} {suite : Suite} (hfun : Functional registry suite) (workers : Int)
    {clock : String} (hclock : clock ∈ ["", "process", "thread", "wall"])
    {script : Script} (hscript : script.Reliable) (c : Config) (s : Stage)
    {clock₁ : String} (hclock₁ : clock₁ ∈ ["", "process", "thread", "wall"])
    {script₁ : Script} (hscript₁ : script₁.Reliable) (c₁ : Config) {s₁ : Stage} (hs₁ : s₁.cancelled = false)
    {p : Pool} (hp : Pool.Reaches (Program.rig script.host c) (make registry clock workers).workers.toNat
      ((make registry clock workers).pool suite s) p) (hfin : p.Finished) :
    ∃ rs s', (make registry clock₁ 1).run (Program.rig script₁.host c₁) suite s₁ = (.ok rs, s') ∧
      rs.length = suite.benchmarks.length ∧ p.slots.length = suite.benchmarks.length ∧
      ∀ i b, suite.benchmarks[i]? = some b → ∃ single res, rs[i]? = some single ∧
        p.slots[i]? = some (some res) ∧ p.writes.count i = 1 ∧ res.Describes b ∧
        (p.stage.cancelled = false → res.untimed = single.untimed) ∧
        (res.untimed = single.untimed ∨ res.CutShort b) := by
  have hsize := clockFor_make hclock registry workers suite.benchmarks.length
  obtain ⟨rs, s', hrun, hrs⟩ := hfun.run_verdicts hclock₁ 1 hscript₁ c₁ hs₁ (r := make registry clock workers) rfl hsize
  have hany := hp.results (Script.lasting_any hscript) (fun b hb => hfun.runOn_yields rfl hb _) hfin trivial
  have hplaced := hp.placed (Pool.placed_start s _)
  rw [List.length_map] at hplaced
  refine ⟨rs, s', hrun, hrs.length_eq.symm, hplaced.length, fun i b hb => ?_⟩
  obtain ⟨single, hsingle, hverdict⟩ := exists_getElem?_of_forall₂ hrs hb
  obtain ⟨slot, hslot, res, rfl, hres⟩ := exists_getElem?_of_forall₂ hany hb
  refine ⟨single, res, hsingle, hslot, ?_, ?_, ?_, ?_⟩
  · rw [(hplaced.written_once hfin).count_eq]
    exact List.count_eq_one_of_mem List.nodup_range (List.mem_range.2 (List.getElem?_eq_some_iff.1 hb).1)
  · rcases hres with hres | ⟨_, hcut⟩
    · exact describes_of_untimed hres
    · exact hcut.describes
  · -- Nobody told the workers to stop, so the other case is out.
    intro hu
    have hall := hp.results (Script.lasting_uncancelled hscript) (fun b hb => hfun.runOn_yields rfl hb _) hfin hu
    obtain ⟨slot', hslot', res', rfl, hres'⟩ := exists_getElem?_of_forall₂ hall hb
    rw [hslot, Option.some.injEq, Option.some.injEq] at hslot'
    subst hslot'
    rcases hres' with hres' | ⟨hstop, _⟩
    · rw [hres', hverdict]
    · cases hstop
  · rcases hres with hres | ⟨_, hcut⟩
    · exact .inl (by rw [hres, hverdict])
    · exact .inr hcut

/-- Three workers, an algorithm of another kind, and a benchmark out of range. -/
theorem pool_verdicts_successor :
    let registry : Registry := ⟨[⟨"next", "", .ofFunction fun n => UInt64.ofInt (n + 1)⟩]⟩
    let suite : Suite := ⟨[⟨"a", "next", 4, 5, "", 2⟩, ⟨"b", "next", 93, 0, "", 1⟩]⟩
    Functional registry suite ∧
    ∃ p, Pool.Reaches (Program.rig ({} : Script).host {}) 3 ((make registry "thread" 3).pool suite {}) p ∧ p.Finished ∧
      ∃ rs s', (make registry "" 1).run (Program.rig ({} : Script).host {}) suite {} = (.ok rs, s') ∧
        rs.length = 2 ∧ p.slots.length = 2 ∧
        ∀ i b, suite.benchmarks[i]? = some b → ∃ single res, rs[i]? = some single ∧
          p.slots[i]? = some (some res) ∧ p.writes.count i = 1 ∧ res.Describes b ∧
          (p.stage.cancelled = false → res.untimed = single.untimed) ∧
          (res.untimed = single.untimed ∨ res.CutShort b) := by
  intro registry suite
  have hfun : Functional registry suite := by
    intro b hb
    refine ⟨⟨"next", "", .ofFunction fun n => UInt64.ofInt (n + 1)⟩, _, ?_, rfl⟩
    simp only [suite, List.mem_cons, List.not_mem_nil, or_false] at hb
    rcases hb with rfl | rfl <;> rfl
  have hscript : ({} : Script).Reliable := ⟨fun _ => ⟨0, rfl⟩, fun _ => rfl⟩
  refine ⟨hfun, _, Pool.reaches_inOrder (by decide) _ _, ⟨rfl, rfl⟩, ?_⟩
  exact pool_verdicts hfun 3 (by decide) hscript {} {} (by decide) hscript {} rfl
    (Pool.reaches_inOrder (by decide) _ _) ⟨rfl, rfl⟩

end FibTiming.Runner
