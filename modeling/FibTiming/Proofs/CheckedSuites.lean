import FibTiming.Proofs.Configurations

/-!
# What a check of a suite leaves behind

A check works on the suite in place and stops at the first benchmark that has a complaint.  `Suite.check_outcome` says
which fault is reported and what all benchmarks look like afterwards: those before the stop are filled in, those behind
it are untouched, and the one at the stop is changed only as far as its check went (`Benchmark.afterFault`).  A second
check finds the same and changes nothing.
-/

namespace FibTiming

private theorem TimeUnit.ofName?_name (u : TimeUnit) : ofName? u.name = some u := by
  cases u <;> rfl

namespace Benchmark

/-- Everything that is wrong with a benchmark that stands behind others of the given names, in the order in which it is
looked for. -/
def complaints (b : Benchmark) (earlier : List String) : List BenchmarkFault :=
  (if b.name = "" then [.emptyName] else []) ++
  (if b.algorithm = "" then [.noAlgorithm b.name] else []) ++
  (if b.n < 0 then [.negativeIndex b.name b.n] else []) ++
  (if 92 < b.n then [.overflow b.name b.n] else []) ++
  (if b.unit ∉ ["", "ns", "us", "ms", "s"] then [.unknownUnit b.name b.unit] else []) ++
  (if b.repetitions < 0 then [.negativeRepetitions b.name b.repetitions] else []) ++
  (if b.name ∈ earlier then [.duplicateName b.name] else [])

/-- What a benchmark looks like after a check that stopped at the given fault. -/
def afterFault (b : Benchmark) : BenchmarkFault → Benchmark
  | .negativeRepetitions _ _ => { b with unit := if b.unit = "" then "ms" else b.unit }
  | .duplicateName _ => b.filledIn
  | _ => b

private theorem head?_complaints (b : Benchmark) (earlier : List String) :
    (b.complaints earlier).head? =
      b.check.fault.or (if b.name ∈ earlier then some (.duplicateName b.name) else none) := by
  have hunit := TimeUnit.ofName?_eq_none_iff b.unit
  have hmax : b.n > (maxIndex : Int) ↔ 92 < b.n := Iff.rfl
  unfold complaints check headFault
  by_cases h1 : b.name = ""
  · simp [h1]
  by_cases h2 : b.algorithm = ""
  · simp [h1, h2]
  by_cases h3 : b.n < 0
  · simp [h1, h2, h3]
  by_cases h4 : 92 < b.n
  · simp [h1, h2, h3, h4, hmax]
  cases hu : TimeUnit.ofName? b.unit with
  | none =>
    have h5 : b.unit ∉ ["", "ns", "us", "ms", "s"] := hunit.1 hu
    simp only [h1, h2, h3, h4, h5, hmax]
    simp
  | some u =>
    have h5 : b.unit ∈ ["", "ns", "us", "ms", "s"] := by
      by_contra hn
      rw [hunit.2 hn] at hu
      cases hu
    by_cases h6 : b.repetitions < 0
    · simp only [h1, h2, h3, h4, h5, h6, hmax]
      simp
    · by_cases h7 : b.repetitions = 0 <;> by_cases h8 : b.name ∈ earlier <;>
        simp only [h1, h2, h3, h4, h5, h6, h7, h8, hmax] <;> simp

/-- A check that finds a fault leaves the benchmark as it is, but for the unit when it came to the repetitions. -/
private theorem check_value_of_fault {b : Benchmark} {f : BenchmarkFault} (h : b.check.fault = some f) :
    b.check.value = b.afterFault f := by
  unfold check at h ⊢
  cases hh : b.headFault with
  | some g =>
    simp only [hh, Option.some.injEq] at h ⊢
    subst h
    unfold headFault at hh
    repeat' split at hh
    all_goals cases hh <;> rfl
  | none =>
    cases hu : TimeUnit.ofName? b.unit with
    | none =>
      simp only [hh, hu, Option.some.injEq] at h ⊢
      subst h
      rfl
    | some u =>
      by_cases hneg : b.repetitions < 0
      · simp only [hh, hu, hneg, ↓reduceIte, Option.some.injEq] at h ⊢
        subst h
        simp only [afterFault, TimeUnit.name_of_ofName? hu]
      · by_cases hzero : b.repetitions = 0 <;> simp [hh, hu, hneg, hzero] at h

/-- A second check finds the same and changes nothing. -/
theorem check_check (b : Benchmark) : b.check.value.check = b.check := by
  unfold check
  cases hh : b.headFault with
  | some f => simp [hh]
  | none =>
    cases hu : TimeUnit.ofName? b.unit with
    | none => simp [hh, hu]
    | some u =>
      have hname := TimeUnit.ofName?_name u
      -- Unit and repetitions are looked at after the head of the benchmark, which they do not change.
      have hhead : ∀ r, headFault { b with unit := u.name, repetitions := r } = none := fun r => hh
      by_cases hneg : b.repetitions < 0
      · simp [hname, hneg, hhead]
      · by_cases hzero : b.repetitions = 0 <;> simp [hname, hneg, hzero, hhead]

end Benchmark

namespace Suite

/-- A check of the list stops at `b`: all benchmarks before it are valid and have different names, and `b` is not valid
or has one of their names. -/
structure StopsAt (bs before : List Benchmark) (b : Benchmark) (after : List Benchmark) : Prop where
  eq : bs = before ++ b :: after
  valid : ∀ x ∈ before, x.Valid
  nodup : (before.map (·.name)).Nodup
  bad : ¬ b.Valid ∨ b.name ∈ before.map (·.name)

private theorem exists_head?_complaints {b : Benchmark} {earlier : List String} (h : ¬ b.Valid ∨ b.name ∈ earlier) :
    ∃ f, (b.complaints earlier).head? = some f := by
  rw [b.head?_complaints, ← Option.isSome_iff_exists, Option.isSome_or]
  rcases h with hv | hname
  · rw [← b.check_fault_eq_none_iff] at hv
    simp [Option.isSome_iff_ne_none.2 hv]
  · simp [hname]

/-- A list that does not pass its check has a first benchmark at which the check stops. -/
private theorem exists_stopsAt {bs : List Benchmark} (h : ¬ ((∀ b ∈ bs, b.Valid) ∧ (bs.map (·.name)).Nodup)) :
    ∃ before b after, StopsAt bs before b after := by
  -- By induction from the end: either the list without its last benchmark has such a place, or the last one is it.
  induction bs using List.reverseRecOn with
  | nil => simp at h
  | append_singleton bs x ih =>
    by_cases hbs : (∀ b ∈ bs, b.Valid) ∧ (bs.map (·.name)).Nodup
    · refine ⟨bs, x, [], rfl, hbs.1, hbs.2, ?_⟩
      by_contra hgood
      rw [not_or, not_not] at hgood
      apply h
      constructor
      · intro b hb
        rcases List.mem_append.1 hb with hb | hb
        · exact hbs.1 b hb
        · rw [List.mem_singleton.1 hb]
          exact hgood.1
      · rw [List.map_append, List.map_singleton, List.nodup_append_comm, List.singleton_append, List.nodup_cons]
        exact ⟨hgood.2, hbs.2⟩
    · obtain ⟨before, b, after, hstop⟩ := ih hbs
      refine ⟨before, b, after ++ [x], ?_, hstop.valid, hstop.nodup, hstop.bad⟩
      rw [hstop.eq, List.append_assoc, List.cons_append]

/-- A check goes on behind benchmarks that pass, with their names. -/
private theorem checkList_append {seen : List String} {before : List Benchmark} (hvalid : ∀ x ∈ before, x.Valid)
    (hnodup : (before.map (·.name)).Nodup) (hnew : ∀ x ∈ before, x.name ∉ seen) (rest : List Benchmark) :
    checkList seen (before ++ rest) =
      ⟨before.map (·.filledIn) ++ (checkList ((before.map (·.name)).reverse ++ seen) rest).value,
        (checkList ((before.map (·.name)).reverse ++ seen) rest).fault⟩ := by
  induction before generalizing seen with
  | nil => rfl
  | cons b before ih =>
    have hb : b.Valid := hvalid b (by simp)
    have hseen : b.name ∉ seen := hnew b (by simp)
    rw [List.map_cons, List.nodup_cons] at hnodup
    have hnew' : ∀ x ∈ before, x.name ∉ b.name :: seen := by
      intro x hx hmem
      rcases List.mem_cons.1 hmem with heq | hmem
      · exact hnodup.1 (heq ▸ List.mem_map_of_mem hx)
      · exact hnew x (by simp [hx]) hmem
    have hrest := ih (fun x hx => hvalid x (by simp [hx])) hnodup.2 hnew'
    have hname : b.filledIn.name = b.name := rfl
    simp only [List.cons_append, checkList, Benchmark.check_of_valid hb, hname, hseen, ↓reduceIte, hrest, List.map_cons,
      List.reverse_cons, List.append_assoc, List.nil_append]

/-- A check stops at the first complaint about a benchmark. -/
private theorem checkList_cons_of_complaint {seen : List String} {b : Benchmark} {f : BenchmarkFault}
    (h : (b.complaints seen).head? = some f) (after : List Benchmark) :
    checkList seen (b :: after) = ⟨b.afterFault f :: after, some f⟩ := by
  rw [b.head?_complaints] at h
  cases hf : b.check.fault with
  | some g =>
    rw [hf, Option.some_or, Option.some.injEq] at h
    simp only [checkList, hf, h, Benchmark.check_value_of_fault hf]
  | none =>
    have hv : b.Valid := b.check_fault_eq_none_iff.1 hf
    rw [hf, Option.none_or] at h
    obtain ⟨hmem, rfl⟩ : b.name ∈ seen ∧ f = .duplicateName b.name := by
      split at h
      · exact ⟨by assumption, (Option.some.inj h).symm⟩
      · cases h
    have hname : b.filledIn.name = b.name := rfl
    simp only [checkList, Benchmark.check_of_valid hv, hname, hmem, ↓reduceIte, Benchmark.afterFault]

private theorem StopsAt.checkList {bs before after : List Benchmark} {b : Benchmark} (h : StopsAt bs before b after) :
    ∃ f, (b.complaints (before.map (·.name))).head? = some f ∧
      checkList [] bs = ⟨before.map (·.filledIn) ++ b.afterFault f :: after, some f⟩ := by
  obtain ⟨f, hf⟩ := exists_head?_complaints h.bad
  refine ⟨f, hf, ?_⟩
  have hreverse : (b.complaints ((before.map (·.name)).reverse ++ [])).head? = some f := by
    rw [b.head?_complaints] at hf ⊢
    simpa using hf
  rw [h.eq, checkList_append h.valid h.nodup (by simp), checkList_cons_of_complaint hreverse]

private theorem checkList_checkList (seen : List String) (bs : List Benchmark) :
    checkList seen (checkList seen bs).value = checkList seen bs := by
  induction bs generalizing seen with
  | nil => rfl
  | cons b bs ih =>
    cases hf : b.check.fault with
    | some f => simp [checkList, hf, b.check_check]
    | none =>
      by_cases hseen : b.check.value.name ∈ seen
      · simp [checkList, hf, hseen, b.check_check]
      · simp [checkList, hf, hseen, b.check_check, ih]

/-- What a check of a suite reports and what it leaves behind.  It passes when all benchmarks are valid and no name
occurs twice, and then it fills in units and repetitions and nothing else.  Otherwise it stops at the first benchmark
that is not valid or has the name of an earlier one, with the first complaint about it: the benchmarks before it are
filled in, those behind it are as they were, and it is itself changed only where its own check filled something in.  A
second check reports the same and changes nothing. -/
theorem check_outcome (s : Suite) :
    (s.check.fault = none ↔ (∀ b ∈ s.benchmarks, b.Valid) ∧ (s.benchmarks.map (·.name)).Nodup) ∧
    (s.check.fault = none → s.check.value = ⟨s.benchmarks.map (·.filledIn)⟩) ∧
    (s.check.fault ≠ none → ∃ before b after, StopsAt s.benchmarks before b after) ∧
    (∀ before b after, StopsAt s.benchmarks before b after →
      ∃ f, (b.complaints (before.map (·.name))).head? = some f ∧
        s.check = ⟨⟨before.map (·.filledIn) ++ b.afterFault f :: after⟩, some f⟩) ∧
    s.check.value.check = s.check := by
  refine ⟨s.check_fault_eq_none_iff, check_value, ?_, ?_, ?_⟩
  · intro hfault
    rw [ne_eq, s.check_fault_eq_none_iff] at hfault
    exact exists_stopsAt hfault
  · intro before b after hstop
    obtain ⟨f, hf, hcheck⟩ := hstop.checkList
    refine ⟨f, hf, ?_⟩
    unfold check
    rw [hcheck]
  · unfold check
    simp only [checkList_checkList]

/-- A check that stops at the second of three benchmarks, whose unit it has already filled in. -/
theorem check_outcome_second :
    let first : Benchmark := ⟨"a", "naive", 5, 8, "", 0⟩
    let second : Benchmark := ⟨"b", "naive", 5, 8, "", -3⟩
    let third : Benchmark := ⟨"a", "", -1, 8, "weeks", 0⟩
    StopsAt [first, second, third] [first] second [third] ∧
    (Suite.mk [first, second, third]).check =
      ⟨⟨[⟨"a", "naive", 5, 8, "ms", 1⟩, ⟨"b", "naive", 5, 8, "ms", -3⟩, third]⟩, some (.negativeRepetitions "b" (-3))⟩ := by
  intro first second third
  have hfirst : first.Valid := first.check_fault_eq_none_iff.1 (by decide)
  have hsecond : ¬ second.Valid := fun h => absurd (second.check_fault_eq_none_iff.2 h) (by decide)
  have hstop : StopsAt [first, second, third] [first] second [third] :=
    ⟨rfl, by simpa using hfirst, by simp, .inl hsecond⟩
  obtain ⟨f, hf, hcheck⟩ := (check_outcome ⟨[first, second, third]⟩).2.2.2.1 [first] second [third] hstop
  have hfault : (second.complaints ["a"]).head? = some (.negativeRepetitions "b" (-3)) := by decide
  obtain rfl : f = .negativeRepetitions "b" (-3) := Option.some.inj (hf.symm.trans hfault)
  exact ⟨hstop, hcheck⟩

end Suite

end FibTiming
