import FibTiming.Loading
import FibTiming.Proofs.Validation
import Mathlib.Data.List.Forall2

/-!
# Loading as a whole

The steps of a load stop at the first failure.  Each of them succeeds when it succeeds on every file, every block and
every benchmark, and its results stand in the same order (`readDocuments_eq_ok_iff`, `toBenchmarks_eq_ok_iff`,
`checkLoaded_eq_ok_iff`).
-/

namespace FibTiming

open SuiteFile

theorem toOption_eq_some_iff {ε α : Type} {x : Except ε α} {a : α} : x.toOption = some a ↔ x = .ok a := by
  cases x <;> simp [Except.toOption]

private theorem mapM_eq_ok_iff {ε α β : Type} (f : α → Except ε β) (as : List α) (bs : List β) :
    as.mapM f = .ok bs ↔ List.Forall₂ (fun a b => f a = .ok b) as bs := by
  induction as generalizing bs with
  | nil => simp [pure, Except.pure, eq_comm]
  | cons a as ih =>
    rw [List.mapM_cons, List.forall₂_cons_left_iff]
    cases ha : f a with
    | error e => simp [bind, Except.bind]
    | ok b =>
      simp only [bind, Except.bind, Except.ok.injEq]
      cases hr : as.mapM f with
      | error e =>
        simp only [reduceCtorEq, false_iff]
        rintro ⟨b', bs', _, hbs, _⟩
        rw [← ih, hr] at hbs
        cases hbs
      | ok bs' =>
        simp only [pure, Except.pure, Except.ok.injEq, ← ih, hr]
        constructor
        · rintro rfl
          exact ⟨b, bs', rfl, rfl, rfl⟩
        · rintro ⟨_, _, rfl, rfl, rfl⟩
          rfl

theorem readDocuments_eq_ok_iff (lookup : Lookup) (files : List String) (ds : List Document) :
    readDocuments lookup files = .ok ds ↔ List.Forall₂ (fun f d => documentAt lookup f = .ok d) files ds := by
  rw [← mapM_eq_ok_iff]
  have heq : readDocuments lookup files = files.mapM (documentAt lookup) := by
    induction files with
    | nil => rfl
    | cons f files ih =>
      rw [readDocuments, ih, List.mapM_cons]
      cases documentAt lookup f with
      | error e => rfl
      | ok d => cases files.mapM (documentAt lookup) <;> rfl
  rw [heq]

theorem toBenchmarks_eq_ok_iff (scope : Scope) (blocks : List BenchmarkBlock) (bs : List Benchmark) :
    toBenchmarks scope blocks = .ok bs ↔ List.Forall₂ (fun k b => k.toBenchmark scope = .ok b) blocks bs := by
  rw [← mapM_eq_ok_iff]
  have heq : toBenchmarks scope blocks = blocks.mapM (·.toBenchmark scope) := by
    induction blocks with
    | nil => rfl
    | cons k blocks ih =>
      rw [toBenchmarks, ih, List.mapM_cons]
      cases k.toBenchmark scope with
      | error e => rfl
      | ok b => cases blocks.mapM (·.toBenchmark scope) <;> rfl
  rw [heq]

theorem checkLoaded_eq_ok_iff (paths : List String) (bs : List Benchmark) (s : Suite) :
    checkLoaded paths bs = .ok s ↔
      bs ≠ [] ∧ (∀ b ∈ bs, b.Valid) ∧ (bs.map (·.name)).Nodup ∧ s = ⟨bs.map (·.filledIn)⟩ := by
  have hcheck := (Suite.mk bs).check_fault_eq_none_iff
  unfold checkLoaded
  cases bs with
  | nil => simp
  | cons b bs =>
    simp only [List.isEmpty_cons, Bool.false_eq_true, ↓reduceIte]
    cases hf : (Suite.mk (b :: bs)).check.fault with
    | some f =>
      simp only [reduceCtorEq, false_iff]
      rintro ⟨_, hv, hn, _⟩
      rw [hcheck.2 ⟨hv, hn⟩] at hf
      cases hf
    | none =>
      obtain ⟨hv, hn⟩ := hcheck.1 hf
      simp only [Except.ok.injEq, Suite.check_value hf]
      constructor
      · rintro rfl
        exact ⟨by simp, hv, hn, rfl⟩
      · rintro ⟨_, _, _, rfl⟩
        rfl

theorem suiteOf_eq_ok_iff (visiting : Visiting) (paths : List String) (ds : List Document) (s : Suite) :
    suiteOf visiting paths ds = .ok s ↔ ∃ locals bs, collectLocals ds = .ok locals ∧
      List.Forall₂ (fun k b => k.toBenchmark (localScope visiting locals) = .ok b) (ds.flatMap (·.benchmarks)) bs ∧
      checkLoaded paths bs = .ok s := by
  unfold suiteOf
  cases hl : collectLocals ds with
  | error e => simp
  | ok locals =>
    simp only [Except.ok.injEq, ← toBenchmarks_eq_ok_iff]
    cases hb : toBenchmarks (localScope visiting locals) (ds.flatMap (·.benchmarks)) with
    | error e =>
      simp only [reduceCtorEq, false_iff]
      rintro ⟨_, bs, rfl, h, _⟩
      rw [hb] at h
      cases h
    | ok bs =>
      constructor
      · intro h
        exact ⟨locals, bs, rfl, hb, h⟩
      · rintro ⟨_, bs', rfl, h, hs⟩
        rw [hb, Except.ok.injEq] at h
        exact h ▸ hs

theorem loadSuite_eq_ok_iff (visiting : Visiting) (lookup : Lookup) (paths : List String) (s : Suite) :
    loadSuite visiting lookup paths = .ok s ↔
      ∃ ds, findDocuments lookup paths = .ok ds ∧ suiteOf visiting paths ds = .ok s := by
  unfold loadSuite
  cases findDocuments lookup paths with
  | error e => simp
  | ok ds => simp

/-- A loaded suite has benchmarks in range that have been filled in. -/
theorem valid_of_loadSuite {visiting : Visiting} {lookup : Lookup} {paths : List String} {s : Suite}
    (h : loadSuite visiting lookup paths = .ok s) :
    ∃ bs : List Benchmark, (∀ b ∈ bs, b.Valid) ∧ s = ⟨bs.map (·.filledIn)⟩ := by
  obtain ⟨ds, _, hs⟩ := (loadSuite_eq_ok_iff _ _ _ _).1 h
  obtain ⟨_, bs, _, _, hc⟩ := (suiteOf_eq_ok_iff _ _ _ _).1 hs
  obtain ⟨_, hv, _, rfl⟩ := (checkLoaded_eq_ok_iff _ _ _).1 hc
  exact ⟨bs, hv, rfl⟩

end FibTiming
