import FibTiming.Proofs.Loading
import FibTiming.Proofs.Settings

/-!
# Which suite files are accepted

What a benchmark block has to say to be accepted (`BenchmarkBlock.Acceptable`), and which benchmark it then declares
(`BenchmarkBlock.Declares`).  Files that can be read give a suite exactly when their local values can be collected,
there is at least one block, all blocks are acceptable and no name occurs twice (`loadSuite_accepts`).
-/

namespace FibTiming

namespace SuiteFile

/-- The expression evaluates to the given whole number, or to a text that is a numeral of it. -/
def Expr.YieldsWhole (e : Expr) (scope : Scope) (i : Int) : Prop := ∃ v, e.Yields scope v ∧ v.IsWhole i

/-- The expression evaluates to something that is written as the given text. -/
def Expr.YieldsText (e : Expr) (scope : Scope) (s : String) : Prop := ∃ v, e.Yields scope v ∧ v.toText = .ok s

theorem Expr.setting_signedOf_eq_ok_iff (e : Expr) (scope : Scope) (i : Int) :
    e.setting scope signedOf = .ok i ↔ e.YieldsWhole scope i ∧ -2 ^ 63 ≤ i ∧ i < 2 ^ 63 := by
  simp only [setting_eq_ok_iff, signedOf_eq_ok_iff, YieldsWhole, ← and_assoc, exists_and_right]

theorem Expr.setting_unsignedOf_eq_ok_iff (e : Expr) (scope : Scope) (n : UInt64) :
    e.setting scope unsignedOf = .ok n ↔ e.YieldsWhole scope n.toNat := by
  simp only [setting_eq_ok_iff, unsignedOf_eq_ok_iff, YieldsWhole]

theorem Expr.setting_textOf_eq_ok_iff (e : Expr) (scope : Scope) (s : String) :
    e.setting scope textOf = .ok s ↔ e.YieldsText scope s := by
  simp only [setting_eq_ok_iff, textOf_eq_ok_iff, YieldsText]

namespace BenchmarkBlock

/-- What a block has to say to be a benchmark. -/
structure Acceptable (k : BenchmarkBlock) (scope : Scope) : Prop where
  name : k.name ≠ ""
  algorithm : k.algorithm ≠ ""
  n : ∃ e, k.n = some e ∧ ∃ i, e.YieldsWhole scope i ∧ 0 ≤ i ∧ i ≤ 92
  expect : ∃ e, k.expect = some e ∧ ∃ i, e.YieldsWhole scope i ∧ 0 ≤ i ∧ i < 2 ^ 64
  unit : ∀ e, k.unit = some e → ∃ s ∈ ["", "ns", "us", "ms", "s"], e.YieldsText scope s
  repetitions : ∀ e, k.repetitions = some e → ∃ i, e.YieldsWhole scope i ∧ 1 ≤ i ∧ i < 2 ^ 63

/-- The benchmark that a block declares: unit and repetitions are milliseconds and one where the block leaves them
out, and so is an empty unit. -/
structure Declares (k : BenchmarkBlock) (scope : Scope) (b : Benchmark) : Prop where
  name : b.name = k.name
  algorithm : b.algorithm = k.algorithm
  n : ∃ e, k.n = some e ∧ e.YieldsWhole scope b.n
  expect : ∃ e, k.expect = some e ∧ e.YieldsWhole scope b.expect.toNat
  unit : ∃ s, (k.unit = none ∧ s = "" ∨ ∃ e, k.unit = some e ∧ e.YieldsText scope s) ∧
    b.unit = if s = "" then "ms" else s
  repetitions : k.repetitions = none ∧ b.repetitions = 1 ∨
    ∃ e, k.repetitions = some e ∧ e.YieldsWhole scope b.repetitions

variable {k : BenchmarkBlock} {scope : Scope}

theorem unitOf_eq_ok_iff (s : String) :
    k.unitOf scope = .ok s ↔ k.unit = none ∧ s = "" ∨ ∃ e, k.unit = some e ∧ e.YieldsText scope s := by
  unfold unitOf
  cases hu : k.unit with
  | none => simp [eq_comm]
  | some e =>
    simp only [reduceCtorEq, false_and, false_or, Option.some.injEq, exists_eq_left', ← Expr.setting_textOf_eq_ok_iff]
    cases e.setting scope textOf <;> simp [Except.mapError]

private theorem repetitionsOf_eq_ok_iff (i : Int) :
    k.repetitionsOf scope = .ok i ↔ k.repetitions = none ∧ i = 0 ∨
      ∃ e, k.repetitions = some e ∧ e.YieldsWhole scope i ∧ 1 ≤ i ∧ i < 2 ^ 63 := by
  unfold repetitionsOf
  cases hr : k.repetitions with
  | none => simp [eq_comm]
  | some e =>
    have hset := e.setting_signedOf_eq_ok_iff scope i
    simp only [reduceCtorEq, false_and, false_or, Option.some.injEq, exists_eq_left']
    cases hs : e.setting scope signedOf with
    | error err =>
      rw [hs] at hset
      simp only [reduceCtorEq, false_iff] at hset ⊢
      rintro ⟨hy, h1, h2⟩
      exact hset ⟨hy, by omega, h2⟩
    | ok j =>
      rw [hs, Except.ok.injEq] at hset
      by_cases hj : j < 1
      · simp only [hj, ↓reduceIte, reduceCtorEq, false_iff]
        rintro ⟨hy, h1, h2⟩
        have := hset.2 ⟨hy, by omega, h2⟩
        omega
      · simp only [hj, ↓reduceIte, Except.ok.injEq]
        constructor
        · intro heq
          obtain ⟨hy, _, h2⟩ := hset.1 heq
          exact ⟨hy, by omega, h2⟩
        · rintro ⟨hy, h1, h2⟩
          exact hset.2 ⟨hy, by omega, h2⟩

/-- The benchmark of a block before anything is filled in. -/
theorem toBenchmark_eq_ok_iff (b : Benchmark) :
    k.toBenchmark scope = .ok b ↔ b.name = k.name ∧ b.algorithm = k.algorithm ∧
      (∃ e, k.n = some e ∧ e.YieldsWhole scope b.n ∧ -2 ^ 63 ≤ b.n ∧ b.n < 2 ^ 63) ∧
      (∃ e, k.expect = some e ∧ e.YieldsWhole scope b.expect.toNat) ∧
      k.unitOf scope = .ok b.unit ∧ k.repetitionsOf scope = .ok b.repetitions := by
  simp only [← Expr.setting_signedOf_eq_ok_iff, ← Expr.setting_unsignedOf_eq_ok_iff]
  unfold toBenchmark
  cases k.n with
  | none => simp
  | some en =>
    cases k.expect with
    | none => simp
    | some ee =>
      simp only [Option.some.injEq, exists_eq_left']
      cases en.setting scope signedOf with
      | error e => simp
      | ok n =>
        cases ee.setting scope unsignedOf with
        | error e => simp
        | ok expect =>
          cases k.unitOf scope with
          | error e => simp
          | ok unit =>
            cases k.repetitionsOf scope with
            | error e => simp
            | ok count =>
              obtain ⟨name, algorithm, n', expect', unit', count'⟩ := b
              simp only [Except.ok.injEq, Benchmark.mk.injEq]
              constructor
              · rintro ⟨rfl, rfl, rfl, rfl, rfl, rfl⟩
                exact ⟨rfl, rfl, rfl, rfl, rfl, rfl⟩
              · rintro ⟨rfl, rfl, rfl, rfl, rfl, rfl⟩
                exact ⟨rfl, rfl, rfl, rfl, rfl, rfl⟩

/-- A block is acceptable when it makes a benchmark that passes its check. -/
private theorem acceptable_iff : k.Acceptable scope ↔ ∃ b : Benchmark, k.toBenchmark scope = .ok b ∧ b.Valid := by
  simp only [toBenchmark_eq_ok_iff]
  constructor
  · intro h
    obtain ⟨en, hn, i, hi, h0, h92⟩ := h.n
    obtain ⟨ee, he, j, hj, hj0, hj64⟩ := h.expect
    -- The expected answer fits in a word, so nothing wraps.
    have hword : ((UInt64.ofNat j.toNat).toNat : Int) = j := by
      rw [UInt64.toNat_ofNat', Nat.mod_eq_of_lt (by omega)]
      omega
    obtain ⟨unit, hunit, hmem⟩ : ∃ s, k.unitOf scope = .ok s ∧ s ∈ TimeUnit.names := by
      cases hu : k.unit with
      | none => exact ⟨"", (unitOf_eq_ok_iff "").2 (.inl ⟨hu, rfl⟩), by decide⟩
      | some e =>
        obtain ⟨s, hs, hy⟩ := h.unit e hu
        exact ⟨s, (unitOf_eq_ok_iff s).2 (.inr ⟨e, hu, hy⟩), hs⟩
    obtain ⟨count, hcount, hpos⟩ : ∃ c, k.repetitionsOf scope = .ok c ∧ 0 ≤ c := by
      cases hr : k.repetitions with
      | none => exact ⟨0, (repetitionsOf_eq_ok_iff 0).2 (.inl ⟨hr, rfl⟩), le_rfl⟩
      | some e =>
        obtain ⟨c, hy, h1, h2⟩ := h.repetitions e hr
        exact ⟨c, (repetitionsOf_eq_ok_iff c).2 (.inr ⟨e, hr, hy, h1, h2⟩), by omega⟩
    refine ⟨⟨k.name, k.algorithm, i, UInt64.ofNat j.toNat, unit, count⟩, ⟨rfl, rfl, ⟨en, hn, hi, ?_, ?_⟩,
      ⟨ee, he, ?_⟩, hunit, hcount⟩, ⟨h.name, h.algorithm, h0, ?_, hmem, hpos⟩⟩
    · show -2 ^ 63 ≤ i
      omega
    · show i < 2 ^ 63
      omega
    · rwa [hword]
    · show i ≤ (92 : Nat)
      omega
  · rintro ⟨b, ⟨hname, halgorithm, ⟨en, hn, hi, _⟩, ⟨ee, he, hj⟩, hunit, hcount⟩, hv⟩
    refine ⟨hname ▸ hv.name, halgorithm ▸ hv.algorithm, ⟨en, hn, b.n, hi, hv.nonneg, hv.le_maxIndex⟩,
      ⟨ee, he, _, hj, by omega, ?_⟩, ?_, ?_⟩
    · have : b.expect.toNat < 2 ^ 64 := b.expect.toNat_lt
      omega
    · intro e hu
      rcases (unitOf_eq_ok_iff _).1 hunit with ⟨hnone, _⟩ | ⟨e', hu', hy⟩
      · rw [hnone] at hu
        cases hu
      · rw [hu'] at hu
        cases hu
        exact ⟨b.unit, hv.unit, hy⟩
    · intro e hr
      rcases (repetitionsOf_eq_ok_iff _).1 hcount with ⟨hnone, _⟩ | ⟨e', hr', hy, h1, h2⟩
      · rw [hnone] at hr
        cases hr
      · rw [hr'] at hr
        cases hr
        exact ⟨b.repetitions, hy, h1, h2⟩

/-- Filled in, the benchmark that a block makes is the one it declares. -/
private theorem declares_filledIn {b : Benchmark} (h : k.toBenchmark scope = .ok b) : k.Declares scope b.filledIn := by
  obtain ⟨hname, halgorithm, ⟨en, hn, hi, _⟩, hexpect, hunit, hcount⟩ := (toBenchmark_eq_ok_iff b).1 h
  refine ⟨hname, halgorithm, ⟨en, hn, hi⟩, hexpect, ⟨b.unit, (unitOf_eq_ok_iff _).1 hunit, rfl⟩, ?_⟩
  show _ ∧ (if b.repetitions = 0 then 1 else b.repetitions) = 1 ∨
    ∃ e : Expr, _ ∧ e.YieldsWhole scope (if b.repetitions = 0 then 1 else b.repetitions)
  -- A block cannot ask for zero repetitions, so one is filled in only where the block says nothing.
  rcases (repetitionsOf_eq_ok_iff _).1 hcount with ⟨hnone, hzero⟩ | ⟨e, hr, hy, h1, _⟩
  · exact .inl ⟨hnone, by simp [hzero]⟩
  · have hne : b.repetitions ≠ 0 := by omega
    exact .inr ⟨e, hr, by simpa [hne] using hy⟩

end BenchmarkBlock

end SuiteFile

open SuiteFile

/-- The benchmarks of acceptable blocks. -/
theorem acceptable_blocks_iff (scope : Scope) (blocks : List BenchmarkBlock) :
    (∀ k ∈ blocks, k.Acceptable scope) ↔
      ∃ bs : List Benchmark, List.Forall₂ (fun k b => k.toBenchmark scope = .ok b) blocks bs ∧ ∀ b ∈ bs, b.Valid := by
  induction blocks with
  | nil => simp
  | cons k blocks ih =>
    rw [List.forall_mem_cons, ih, BenchmarkBlock.acceptable_iff]
    constructor
    · rintro ⟨⟨b, hb, hvb⟩, bs, hbs, hv⟩
      exact ⟨b :: bs, .cons hb hbs, List.forall_mem_cons.2 ⟨hvb, hv⟩⟩
    · rintro ⟨_, hbs, hv⟩
      cases hbs with
      | cons hb hbs =>
        rw [List.forall_mem_cons] at hv
        exact ⟨⟨_, hb, hv.1⟩, _, hbs, hv.2⟩

private theorem names_of_toBenchmark {scope : Scope} {blocks : List BenchmarkBlock} {bs : List Benchmark}
    (h : List.Forall₂ (fun k b => k.toBenchmark scope = .ok b) blocks bs) :
    bs.map (·.name) = blocks.map (·.name) := by
  induction h with
  | nil => rfl
  | cons hb _ ih => rw [List.map_cons, List.map_cons, ih, ((BenchmarkBlock.toBenchmark_eq_ok_iff _).1 hb).1]

/-- When the suite files that paths stand for can all be read, they give a suite exactly when their local values can
be collected, there is a benchmark block, every block is acceptable and no name occurs twice.  The suite has the
benchmarks that the blocks declare, in order. -/
theorem loadSuite_accepts (visiting : Visiting) (lookup : Lookup) (paths files : List String) (ds : List Document)
    (hfiles : discover lookup [] paths = .ok files) (hne : files ≠ [])
    (hds : List.Forall₂ (fun f d => documentAt lookup f = .ok d) files ds) :
    ((∃ suite, loadSuite visiting lookup paths = .ok suite) ↔
      ∃ locals, collectLocals ds = .ok locals ∧ ds.flatMap (·.benchmarks) ≠ [] ∧
        (∀ k ∈ ds.flatMap (·.benchmarks), k.Acceptable (localScope visiting locals)) ∧
        ((ds.flatMap (·.benchmarks)).map (·.name)).Nodup) ∧
    ∀ suite, loadSuite visiting lookup paths = .ok suite →
      ∃ locals, collectLocals ds = .ok locals ∧
        List.Forall₂ (fun k b => k.Declares (localScope visiting locals) b) (ds.flatMap (·.benchmarks))
          suite.benchmarks := by
  have hload : loadSuite visiting lookup paths = suiteOf visiting paths ds := by
    have hfound : findDocuments lookup paths = .ok ds := by
      unfold findDocuments
      rw [hfiles]
      cases files with
      | nil => exact absurd rfl hne
      | cons f fs => exact (readDocuments_eq_ok_iff _ _ _).2 hds
    unfold loadSuite
    rw [hfound]
  simp only [hload, suiteOf_eq_ok_iff, checkLoaded_eq_ok_iff]
  refine ⟨⟨?_, ?_⟩, ?_⟩
  · rintro ⟨suite, locals, bs, hlocals, hbs, hne, hv, hnodup, _⟩
    refine ⟨locals, hlocals, ?_, (acceptable_blocks_iff _ _).2 ⟨bs, hbs, hv⟩, names_of_toBenchmark hbs ▸ hnodup⟩
    intro hnil
    rw [hnil, List.forall₂_nil_left_iff] at hbs
    exact hne hbs
  · rintro ⟨locals, hlocals, hblocks, hall, hnodup⟩
    obtain ⟨bs, hbs, hv⟩ := (acceptable_blocks_iff _ _).1 hall
    refine ⟨⟨bs.map (·.filledIn)⟩, locals, bs, hlocals, hbs, ?_, hv, (names_of_toBenchmark hbs).symm ▸ hnodup, rfl⟩
    rintro rfl
    rw [List.forall₂_nil_right_iff] at hbs
    exact hblocks hbs
  · rintro suite ⟨locals, bs, hlocals, hbs, _, _, _, rfl⟩
    refine ⟨locals, hlocals, ?_⟩
    rw [List.forall₂_map_right_iff]
    exact hbs.imp fun _ _ h => BenchmarkBlock.declares_filledIn h

/-- A file with a local value, which is a text, and a file with a benchmark that uses it. -/
def twoFiles : Lookup
  | "a.hcl" => .ok (.file "locals \x7b top = \"92\" \x7d\n")
  | "b.hcl" => .ok (.file "benchmark \"naive\" \"last\" \x7b\n  n = local.top\n  expect = 12200160415121876738\n\x7d\n")
  | _ => .error .missing

theorem loadSuite_accepts_twoFiles :
    ∃ ds, List.Forall₂ (fun f d => documentAt twoFiles f = .ok d) ["a.hcl", "b.hcl"] ds ∧
      (∃ locals, collectLocals ds = .ok locals ∧
        ∀ k ∈ ds.flatMap (·.benchmarks), k.Acceptable (localScope .byName locals)) ∧
      ∃ locals, collectLocals ds = .ok locals ∧ List.Forall₂ (fun k b => k.Declares (localScope .byName locals) b)
        (ds.flatMap (·.benchmarks)) [⟨"last", "naive", 92, 12200160415121876738, "ms", 1⟩] := by
  have hdocument : ∀ f, (documentAt twoFiles f).isOk = true → ∃ d, documentAt twoFiles f = .ok d := by
    intro f h
    cases hd : documentAt twoFiles f with
    | error e => rw [hd] at h; cases h
    | ok d => exact ⟨d, rfl⟩
  obtain ⟨d₁, h₁⟩ := hdocument "a.hcl" (by decide +kernel)
  obtain ⟨d₂, h₂⟩ := hdocument "b.hcl" (by decide +kernel)
  have hload : loadSuite .byName twoFiles ["a.hcl", "b.hcl"] =
      .ok ⟨[⟨"last", "naive", 92, 12200160415121876738, "ms", 1⟩]⟩ := by
    have h : (loadSuite .byName twoFiles ["a.hcl", "b.hcl"]).toOption =
        some ⟨[⟨"last", "naive", 92, 12200160415121876738, "ms", 1⟩]⟩ := by decide +kernel
    cases hs : loadSuite .byName twoFiles ["a.hcl", "b.hcl"] with
    | error e => rw [hs] at h; cases h
    | ok s => rw [hs] at h; exact congrArg Except.ok (Option.some.inj h)
  have hds : List.Forall₂ (fun f d => documentAt twoFiles f = .ok d) ["a.hcl", "b.hcl"] [d₁, d₂] :=
    .cons h₁ (.cons h₂ .nil)
  obtain ⟨haccepts, hdeclares⟩ := loadSuite_accepts .byName twoFiles ["a.hcl", "b.hcl"] _ _ rfl (by decide) hds
  obtain ⟨locals, hlocals, _, hall, _⟩ := haccepts.1 ⟨_, hload⟩
  exact ⟨_, hds, ⟨locals, hlocals, hall⟩, hdeclares _ hload⟩

end FibTiming
