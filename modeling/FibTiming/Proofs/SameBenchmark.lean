import FibTiming.Proofs.Acceptance
import FibTiming.Proofs.Requests

/-!
# Flags and blocks describe the same benchmarks

A benchmark can be described by flags or by a block of a suite file.  A block whose arguments evaluate to the values of
the flags (`BenchmarkBlock.Says`) is accepted exactly when the flags are, and both stand for the same benchmark up to its
name (`flags_agree_with_block`).  The two ways differ in when they look at the unit and at the repetitions, and in what
they take when these are left out.
-/

namespace FibTiming

open SuiteFile CommandLine

namespace SuiteFile.BenchmarkBlock

/-- The arguments of the block evaluate to the given values, and it leaves out what is not given. -/
structure Says (k : BenchmarkBlock) (scope : Scope) (n : Int64) (expect : UInt64) (unit : Option String)
    (count : Option Int64) : Prop where
  n : ∃ e, k.n = some e ∧ e.YieldsWhole scope n.toInt
  expect : ∃ e, k.expect = some e ∧ e.YieldsWhole scope expect.toNat
  unit : Option.Rel (fun e s => e.YieldsText scope s) k.unit unit
  repetitions : Option.Rel (fun e i => e.YieldsWhole scope i.toInt) k.repetitions count

variable {k : BenchmarkBlock} {scope : Scope} {n : Int64} {expect : UInt64} {unit : Option String}
  {count : Option Int64}

private theorem rel_iff_map_eq {α β γ : Type} {r : α → β → Prop} {f : α → γ} {g : β → γ} (h : ∀ a b, f a = g b ↔ r a b)
    {x : Option α} {y : Option β} : Option.Rel r x y ↔ x.map f = y.map g := by
  cases x <;> cases y <;> simp [h]

private theorem says_iff : k.Says scope n expect unit count ↔
    k.n.bind (fun e => (e.setting scope signedOf).toOption) = some n.toInt ∧
    k.expect.bind (fun e => (e.setting scope unsignedOf).toOption) = some expect ∧
    k.unit.map (fun e => (e.setting scope textOf).toOption) = unit.map some ∧
    k.repetitions.map (fun e => (e.setting scope signedOf).toOption) = count.map (fun i => some i.toInt) := by
  have hwhole : ∀ (e : Expr) (i : Int64), (e.setting scope signedOf).toOption = some i.toInt ↔
      e.YieldsWhole scope i.toInt := by
    intro e i
    rw [toOption_eq_some_iff, Expr.setting_signedOf_eq_ok_iff]
    exact and_iff_left ⟨i.le_toInt, i.toInt_lt⟩
  have htext : ∀ (e : Expr) (s : String), (e.setting scope textOf).toOption = some s ↔ e.YieldsText scope s := by
    intro e s
    rw [toOption_eq_some_iff, Expr.setting_textOf_eq_ok_iff]
  have hunsigned : ∀ e : Expr, (e.setting scope unsignedOf).toOption = some expect ↔
      e.YieldsWhole scope expect.toNat := by
    intro e
    rw [toOption_eq_some_iff, Expr.setting_unsignedOf_eq_ok_iff]
  rw [Option.bind_eq_some_iff, Option.bind_eq_some_iff, ← rel_iff_map_eq htext, ← rel_iff_map_eq hwhole]
  simp only [hwhole, hunsigned]
  exact ⟨fun h => ⟨h.n, h.expect, h.unit, h.repetitions⟩, fun h => ⟨h.1, h.2.1, h.2.2.1, h.2.2.2⟩⟩

instance : Decidable (k.Says scope n expect unit count) := decidable_of_iff _ says_iff.symm

private theorem Says.unitOf (h : k.Says scope n expect unit count) : k.unitOf scope = .ok (unit.getD "") := by
  have hunit := h.unit
  rw [unitOf_eq_ok_iff]
  cases hk : k.unit with
  | none =>
    rw [hk] at hunit
    cases hunit
    exact .inl ⟨rfl, rfl⟩
  | some e =>
    rw [hk] at hunit
    cases hunit with
    | some hy => exact .inr ⟨e, rfl, hy⟩

/-- A count below one is refused where it is read. -/
private theorem Says.repetitionsOf_eq_ok_iff (h : k.Says scope n expect unit count) (i : Int) :
    k.repetitionsOf scope = .ok i ↔ (∀ j ∈ count, 1 ≤ j.toInt) ∧ i = (count.map Int64.toInt).getD 0 := by
  have hcount := h.repetitions
  unfold repetitionsOf
  cases hk : k.repetitions with
  | none =>
    rw [hk] at hcount
    cases hcount
    simp [eq_comm]
  | some e =>
    rw [hk] at hcount
    cases hcount with
    | @some _ j hy =>
      have hset : e.setting scope signedOf = .ok j.toInt :=
        (e.setting_signedOf_eq_ok_iff scope _).2 ⟨hy, j.le_toInt, j.toInt_lt⟩
      simp only [hset]
      by_cases hj : j.toInt < 1
      · have hj' : ¬ 1 ≤ j.toInt := by omega
        simp [hj, hj']
      · have hj' : 1 ≤ j.toInt := by omega
        simp [hj, hj', eq_comm]

/-- The benchmark of such a block before anything is filled in. -/
theorem Says.toBenchmark_eq_ok_iff (h : k.Says scope n expect unit count) (b : Benchmark) :
    k.toBenchmark scope = .ok b ↔ (∀ j ∈ count, 1 ≤ j.toInt) ∧
      b = ⟨k.name, k.algorithm, n.toInt, expect, unit.getD "", (count.map Int64.toInt).getD 0⟩ := by
  obtain ⟨en, hn, hyn⟩ := h.n
  obtain ⟨ee, he, hye⟩ := h.expect
  have hset : en.setting scope signedOf = .ok n.toInt :=
    (en.setting_signedOf_eq_ok_iff scope _).2 ⟨hyn, n.le_toInt, n.toInt_lt⟩
  have hexpect : ee.setting scope unsignedOf = .ok expect := (ee.setting_unsignedOf_eq_ok_iff scope _).2 hye
  have hcount := h.repetitionsOf_eq_ok_iff
  unfold toBenchmark
  simp only [hn, he, hset, hexpect, h.unitOf]
  cases hr : k.repetitionsOf scope with
  | error e =>
    simp only [hr, reduceCtorEq, false_iff, not_and] at hcount ⊢
    exact fun hpos => absurd rfl (hcount _ hpos)
  | ok i =>
    simp only [hr, Except.ok.injEq] at hcount ⊢
    obtain ⟨hpos, rfl⟩ := (hcount i).1 rfl
    exact ⟨fun hb => ⟨hpos, hb.symm⟩, fun hb => hb.2.symm⟩

end SuiteFile.BenchmarkBlock

/-- A suite with a single block. -/
theorem loadSuite_single_iff {visiting : Visiting} {lookup : Lookup} {paths : List String} {ds : List Document}
    (hds : findDocuments lookup paths = .ok ds) {locals : Locals} (hlocals : collectLocals ds = .ok locals)
    {k : BenchmarkBlock} (hk : ds.flatMap (·.benchmarks) = [k]) (suite : Suite) :
    loadSuite visiting lookup paths = .ok suite ↔
      ∃ b, k.toBenchmark (localScope visiting locals) = .ok b ∧ b.Valid ∧ suite = ⟨[b.filledIn]⟩ := by
  unfold loadSuite
  rw [hds]
  simp only [suiteOf_eq_ok_iff, hlocals, hk, checkLoaded_eq_ok_iff]
  constructor
  · rintro ⟨locals', bs, hlocals', hbs, _, hv, _, rfl⟩
    cases hlocals'
    obtain ⟨b, bs', hb, hnil, rfl⟩ := List.forall₂_cons_left_iff.1 hbs
    cases List.forall₂_nil_left_iff.1 hnil
    exact ⟨b, hb, hv b (by simp), rfl⟩
  · rintro ⟨b, hb, hv, rfl⟩
    exact ⟨locals, [b], rfl, .cons hb .nil, by simp, by simpa using hv, by simp, rfl⟩

/-! ### Both ways -/

/-- What both ways ask of the values. -/
structure Allowed (n : Int64) (unit : Option String) (count : Option Int64) : Prop where
  nonneg : 0 ≤ n.toInt
  le_maxIndex : n.toInt ≤ maxIndex
  unit : unit.getD "" ∈ TimeUnit.names
  repetitions : ∀ j ∈ count, 1 ≤ j.toInt

/-- The benchmark of the values under a name. -/
def described (name algorithm : String) (n : Int64) (expect : UInt64) (unit : Option String) (count : Option Int64) :
    Benchmark :=
  ⟨name, algorithm, n.toInt, expect, if unit.getD "" = "" then "ms" else unit.getD "",
    (count.map Int64.toInt).getD 1⟩

variable {n : Int64} {expect : UInt64} {unit : Option String} {count : Option Int64}

private theorem adHocBenchmark_iff_allowed {algorithm : String} (hcore : algorithm ∈ Registry.core.names)
    (b : Benchmark) :
    adHocBenchmark algorithm n.toInt (some expect) (unit.getD "ms") ((count.map Int64.toInt).getD 1) = .ok b ↔
      Allowed n unit count ∧ b = described (adHocName algorithm n.toInt) algorithm n expect unit count := by
  have hunit : unit.getD "ms" ∈ TimeUnit.names ↔ unit.getD "" ∈ TimeUnit.names := by
    cases unit with
    | none => simp [TimeUnit.names]
    | some s => exact Iff.rfl
  have hfilled : (if unit.getD "ms" = "" then "ms" else unit.getD "ms") =
      if unit.getD "" = "" then "ms" else unit.getD "" := by
    cases unit with
    | none => rfl
    | some s => rfl
  have hruns : 1 ≤ (count.map Int64.toInt).getD 1 ↔ ∀ j ∈ count, 1 ≤ j.toInt := by
    cases count <;> simp
  rw [adHocBenchmark_eq_ok_iff, hunit, hfilled, hruns]
  constructor
  · rintro ⟨_, hu, hc, h0, h1, rfl⟩
    exact ⟨⟨h0, h1, hu, hc⟩, rfl⟩
  · rintro ⟨⟨h0, h1, hu, hc⟩, rfl⟩
    exact ⟨hcore, hu, hc, h0, h1, rfl⟩

private theorem loadSuite_iff_allowed {visiting : Visiting} {lookup : Lookup} {paths : List String} {ds : List Document}
    (hds : findDocuments lookup paths = .ok ds) {locals : Locals} (hlocals : collectLocals ds = .ok locals)
    {k : BenchmarkBlock} (hk : ds.flatMap (·.benchmarks) = [k]) (hname : k.name ≠ "") (halgorithm : k.algorithm ≠ "")
    (hvalues : k.Says (localScope visiting locals) n expect unit count) (suite : Suite) :
    loadSuite visiting lookup paths = .ok suite ↔
      Allowed n unit count ∧ suite = ⟨[described k.name k.algorithm n expect unit count]⟩ := by
  -- A count that is given is at least one, so one is filled in only where the count is left out.
  have hfilled : (∀ j ∈ count, 1 ≤ j.toInt) →
      Benchmark.filledIn ⟨k.name, k.algorithm, n.toInt, expect, unit.getD "", (count.map Int64.toInt).getD 0⟩ =
        described k.name k.algorithm n expect unit count := by
    intro hpos
    unfold Benchmark.filledIn described
    cases count with
    | none => rfl
    | some j =>
      have hne : j.toInt ≠ 0 := by
        have := hpos j rfl
        omega
      simp [hne]
  rw [loadSuite_single_iff hds hlocals hk]
  simp only [hvalues.toBenchmark_eq_ok_iff]
  constructor
  · rintro ⟨_, ⟨hpos, rfl⟩, hv, rfl⟩
    exact ⟨⟨hv.nonneg, hv.le_maxIndex, hv.unit, hpos⟩, by rw [hfilled hpos]⟩
  · rintro ⟨⟨h0, h1, hu, hpos⟩, rfl⟩
    refine ⟨_, ⟨hpos, rfl⟩, ⟨hname, halgorithm, h0, h1, hu, ?_⟩, by rw [hfilled hpos]⟩
    show 0 ≤ (count.map Int64.toInt).getD 0
    cases count with
    | none => exact le_rfl
    | some j =>
      have := hpos j rfl
      simp
      omega

/-- A block of an algorithm of the program, with any name, whose arguments evaluate to the values of the flags: the suite
of this block can be loaded exactly when the flags describe a benchmark, and then they describe the one that was loaded,
up to its name.  This holds whether unit and repetitions are given or left out on both sides. -/
theorem flags_agree_with_block {visiting : Visiting} {lookup : Lookup} {paths : List String} {ds : List Document}
    (hds : findDocuments lookup paths = .ok ds) {locals : Locals} (hlocals : collectLocals ds = .ok locals)
    {k : BenchmarkBlock} (hk : ds.flatMap (·.benchmarks) = [k]) (hname : k.name ≠ "")
    (hcore : k.algorithm ∈ ["accumulator", "iterative", "naive"])
    (hvalues : k.Says (localScope visiting locals) n expect unit count) :
    let fs : Flags := { unit := unit, repetitions := count.map Int64.toInt }
    let asked := adHocBenchmark k.algorithm n.toInt (some expect) fs.unitName fs.runs
    ((∃ b, asked = .ok b) ↔ ∃ suite, loadSuite visiting lookup paths = .ok suite) ∧
    ∀ b suite, asked = .ok b → loadSuite visiting lookup paths = .ok suite → suite.benchmarks = [{ b with name := k.name }] := by
  intro fs asked
  have halgorithm : k.algorithm ≠ "" := by
    intro he
    rw [he] at hcore
    exact absurd hcore (by decide)
  have hasked : ∀ b, asked = .ok b ↔
      Allowed n unit count ∧ b = described (adHocName k.algorithm n.toInt) k.algorithm n expect unit count :=
    fun b => adHocBenchmark_iff_allowed hcore b
  have hloaded := fun suite => loadSuite_iff_allowed hds hlocals hk hname halgorithm hvalues suite
  refine ⟨?_, fun b suite hb hsuite => ?_⟩
  · simp only [hasked, hloaded, exists_and_left, exists_eq, and_true]
  · obtain ⟨_, rfl⟩ := (hasked b).1 hb
    obtain ⟨_, rfl⟩ := (hloaded suite).1 hsuite
    rfl

def givenFile : Lookup
  | "given.hcl" =>
    .ok (.file "benchmark \"naive\" \"given\" \x7b\n  n = 5\n  expect = \"8\"\n  unit = \"us\"\n  repeat = 3\n\x7d\n")
  | _ => .error .missing

/-- A block with all arguments, of which one is a text that is a numeral. -/
theorem flags_agree_with_block_given :
    ∃ ds ∈ (findDocuments givenFile ["given.hcl"]).toOption, ∃ locals ∈ (collectLocals ds).toOption,
      (∀ k ∈ ds.flatMap (·.benchmarks), k.Says (localScope .byName locals) 5 8 (some "us") (some 3)) ∧
      ∃ suite, loadSuite .byName givenFile ["given.hcl"] = .ok suite ∧ suite.benchmarks = [⟨"given", "naive", 5, 8, "us", 3⟩] := by
  have hread : ∃ ds ∈ (findDocuments givenFile ["given.hcl"]).toOption, ∃ locals ∈ (collectLocals ds).toOption,
      (ds.flatMap (·.benchmarks)).map (fun k => (k.name, k.algorithm)) = [("given", "naive")] ∧
      ∀ k ∈ ds.flatMap (·.benchmarks), k.Says (localScope .byName locals) 5 8 (some "us") (some 3) := by decide +kernel
  obtain ⟨ds, hds, locals, hlocals, hblocks, hvalues⟩ := hread
  refine ⟨ds, hds, locals, hlocals, hvalues, ?_⟩
  obtain ⟨k, hk, hfields⟩ := List.map_eq_singleton_iff.1 hblocks
  obtain ⟨hname, halgorithm⟩ := Prod.mk.inj hfields
  have hask : adHocBenchmark "naive" 5 (some 8) "us" 3 = .ok ⟨"naive(5)", "naive", 5, 8, "us", 3⟩ :=
    toOption_eq_some_iff.1 (by decide +kernel)
  obtain ⟨hiff, hsame⟩ := flags_agree_with_block (toOption_eq_some_iff.1 hds) (toOption_eq_some_iff.1 hlocals) hk
    (by rw [hname]; decide) (by rw [halgorithm]; decide) (hvalues k (by simp [hk]))
  rw [halgorithm] at hiff hsame
  obtain ⟨suite, hsuite⟩ := hiff.1 ⟨_, hask⟩
  refine ⟨suite, hsuite, ?_⟩
  rw [hsame _ suite hask hsuite, hname]

end FibTiming
