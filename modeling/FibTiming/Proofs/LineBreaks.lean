import FibTiming.Proofs.Loading
import FibTiming.Proofs.ReportReading
import FibTiming.Proofs.SuiteRuns

/-!
# Line breaks in what is printed

Colors, numbers and times bring no line breaks into a status line, and neither does what can be wrong with a benchmark
whose algorithm is known, unless a clock says it on several lines.  So a status line breaks where the name of the
benchmark does (`Report.broken_statusLine`).  Suites may have such names: without them there is one printed line for
each result, and with them there are more (`Runner.printed_lines`).
-/

namespace FibTiming

namespace Report

/-- The text has a line break. -/
def Broken (text : String) : Prop := '\n' ∈ text.toList

instance : DecidablePred Broken := fun text => inferInstanceAs (Decidable ('\n' ∈ text.toList))

@[simp] theorem broken_append (a b : String) : Broken (a ++ b) ↔ Broken a ∨ Broken b := by
  simp [Broken]

@[simp] theorem broken_toString (s : String) : Broken (toString s) ↔ Broken s := Iff.rfl

/-! ### Numbers and times -/

/-- The text has no control characters. -/
def Printed (text : String) : Prop := ∀ c ∈ text.toList, 32 ≤ c.toNat

instance : DecidablePred Printed := fun text => List.decidableBAll (fun c : Char => 32 ≤ c.toNat) text.toList

private theorem Printed.not_broken {text : String} (h : Printed text) : ¬ Broken text := by
  intro hbroken
  exact absurd (h '\n' hbroken) (by decide)

@[simp] theorem printed_append (a b : String) : Printed (a ++ b) ↔ Printed a ∧ Printed b := by
  simp [Printed, or_imp, forall_and]

private theorem Printed.ofList_of_digits {cs : List Char} (h : ∀ c ∈ cs, c.isDigit = true) :
    Printed (String.ofList cs) := by
  intro c hc
  rw [String.toList_ofList] at hc
  have hdigit := h c hc
  rw [Char.isDigit_iff_toNat] at hdigit
  have : '0'.toNat = 48 := rfl
  omega

private theorem printed_nat (n : Nat) : Printed (toString n) := by
  rw [Nat.toString_eq_ofList_toDigits]
  exact .ofList_of_digits fun _ => Nat.isDigit_of_mem_toDigits (by decide) (by decide)

@[simp] theorem printed_int (n : Int) : Printed (toString n) := by
  cases n with
  | ofNat m => exact printed_nat m
  | negSucc m => exact (printed_append "-" (toString m.succ)).2 ⟨by decide, printed_nat _⟩

@[simp] theorem printed_word (n : UInt64) : Printed (toString n) := printed_nat n.toNat

private theorem printed_withPoint (places n : Nat) : Printed (Number.withPoint places n) := by
  have hdigit : ∀ c ∈ List.replicate (places + 1 - (Nat.toDigits 10 n).length) '0' ++ Nat.toDigits 10 n,
      c.isDigit = true := by
    intro c hc
    rcases List.mem_append.1 hc with hc | hc
    · rw [List.eq_of_mem_replicate hc]
      decide
    · exact Nat.isDigit_of_mem_toDigits (by decide) (by decide) hc
  unfold Number.withPoint
  split
  · exact printed_nat n
  · simp only [printed_append]
    exact ⟨⟨.ofList_of_digits fun c hc => hdigit c (List.mem_of_mem_take hc), by decide⟩,
      .ofList_of_digits fun c hc => hdigit c (List.mem_of_mem_drop hc)⟩

private theorem printed_fixed (places : Nat) (x : Number.Binary) : Printed (x.fixed places) := by
  unfold Number.Binary.fixed
  dsimp only
  split
  · exact (printed_append ..).2 ⟨by decide, printed_withPoint _ _⟩
  · exact printed_withPoint _ _

@[simp] theorem printed_timeText (r : Result) (t : Int64) : Printed (timeText r t) := by
  unfold timeText TimeUnit.format
  cases TimeUnit.shown r.unit
  all_goals exact (printed_append ..).2 ⟨printed_fixed _ _, by decide⟩

@[simp] theorem not_broken_int (n : Int) : ¬ Broken (toString n) := (printed_int n).not_broken

@[simp] theorem not_broken_word (n : UInt64) : ¬ Broken (toString n) := (printed_word n).not_broken

@[simp] theorem not_broken_timeText (r : Result) (t : Int64) : ¬ Broken (timeText r t) :=
  (printed_timeText r t).not_broken

/-! ### Styles -/

private theorem count_plainBlanks (cs : List Char) : (plainBlanks cs).count '\n' = cs.count '\n' := by
  fun_induction plainBlanks cs with
  | case1 => rfl
  | case2 rest ih => simpa using ih
  | case3 rest ih => simpa using ih
  | case4 c rest _ _ ih => simp [List.count_cons, ih]

private theorem splitLines_ne_nil (cs : List Char) : splitLines cs ≠ [] := by
  cases cs with
  | nil => simp [splitLines]
  | cons c rest =>
    unfold splitLines
    split
    · simp
    · split <;> simp

theorem joinLines_cons {line : List Char} {lines : List (List Char)} (h : lines ≠ []) :
    joinLines (line :: lines) = line ++ '\n' :: joinLines lines := by
  obtain ⟨next, more, rfl⟩ := List.exists_cons_of_ne_nil h
  simp [joinLines]

theorem joinLines_splitLines (cs : List Char) : joinLines (splitLines cs) = cs := by
  induction cs with
  | nil => simp [splitLines, joinLines]
  | cons c rest ih =>
    obtain ⟨line, lines, hlines⟩ := List.exists_cons_of_ne_nil (splitLines_ne_nil rest)
    rw [hlines] at ih
    unfold splitLines
    rw [hlines]
    split
    · rename_i hc
      rw [joinLines_cons (by simp), ih, hc]
      rfl
    · by_cases hnil : lines = []
      · subst hnil
        simpa [joinLines] using ih
      · rw [joinLines_cons hnil] at ih ⊢
        rw [List.cons_append, ih]

/-- Lines that are changed without breaking them make a text with as many breaks. -/
private theorem count_joinLines_map {f : List Char → List Char} (hf : ∀ l, (f l).count '\n' = l.count '\n')
    (lines : List (List Char)) : (joinLines (lines.map f)).count '\n' = (joinLines lines).count '\n' := by
  induction lines with
  | nil => rfl
  | cons line lines ih =>
    by_cases hnil : lines = []
    · subst hnil
      simp [joinLines, hf]
    · have hmap : lines.map f ≠ [] := by simpa using hnil
      rw [List.map_cons, joinLines_cons hnil, joinLines_cons hmap]
      simp [hf, ih]

private theorem Style.count_paint (s : Style) (color : Bool) (line : List Char) :
    (s.paint color line).count '\n' = line.count '\n' := by
  have hcode : s.code.toList.count '\n' = 0 := by cases s <;> decide
  have hescape : (escape == '\n') = false := by decide
  unfold paint
  split
  · simp [List.count_cons, hcode, hescape]
  · rfl

@[simp] theorem Style.broken_render (s : Style) (color : Bool) (text : String) :
    Broken (s.render color text) ↔ Broken text := by
  have hcount : (s.render color text).toList.count '\n' = text.toList.count '\n' := by
    unfold render
    dsimp only
    rw [String.toList_ofList, count_joinLines_map, joinLines_splitLines, count_plainBlanks]
    intro line
    rw [List.count_append, s.count_paint, List.count_replicate]
    simp
  rw [Broken, Broken, ← List.count_pos_iff, ← List.count_pos_iff, hcount]

/-! ### Status lines -/

/-- What is wrong with a benchmark is said on one line, except for its name. -/
private theorem not_broken_message {b : Benchmark} {clock : String} {e : RunError} (h : e.Concerns b clock (¬ Broken ·))
    (hclock : ¬ Broken clock) (hname : ¬ Broken b.name) : ¬ Broken e.message := by
  cases h
  case unknownClock =>
    unfold RunError.message ClockKind.unknownClock
    simp only [broken_append, broken_toString, hclock, or_false]
    decide
  all_goals
    unfold RunError.message
    simp only [broken_append, broken_toString, not_broken_int, not_broken_word, *, or_false]
    decide

private theorem broken_timing (color : Bool) (r : Result) : Broken (timing color r) ↔ Broken r.name := by
  have hmany : ¬ Broken (if r.runs > 1 then
      " (min " ++ timeText r r.least ++ ", mean " ++ timeText r r.mean ++ s!" over {r.runs} runs)" else "") := by
    split
    · simp only [broken_append, broken_toString, not_broken_int, not_broken_timeText, or_false]
      decide
    · decide
  unfold timing
  rw [broken_append, or_iff_left hmany, Style.broken_render]
  simp only [broken_append, broken_toString, not_broken_timeText, or_false]
  rw [or_iff_left (by decide), or_iff_right (by decide)]

theorem broken_statusLine (color : Bool) {r : Result}
    (h : ∀ e, r.error = some e → ¬ Broken r.name → ¬ Broken e.message) :
    Broken (statusLine color r) ↔ Broken r.name := by
  unfold statusLine
  cases he : r.error with
  | some e =>
    have hrest : Broken e.message → Broken r.name := not_imp_not.1 (h e he)
    have herror : ¬ Broken "ERROR" := by decide
    have hblank : ¬ Broken " " := by decide
    have hcolon : ¬ Broken ": " := by decide
    simp only [broken_append, broken_toString, Style.broken_render, herror, hblank, hcolon, false_or, or_false]
    exact or_iff_left_of_imp hrest
  | none =>
    dsimp only
    split
    · simp only [broken_append, broken_toString, Style.broken_render, broken_timing, not_broken_int, not_broken_word,
        or_false]
      rw [or_assoc, or_assoc, or_iff_left (by decide)]
    · simp only [broken_append, broken_toString, Style.broken_render, broken_timing, not_broken_int, not_broken_word,
        or_false]
      rw [or_assoc, or_assoc, or_iff_left (by decide)]

/-! ### Lines -/

private theorem splitLines_append {line : List Char} (h : '\n' ∉ line) (rest : List Char) :
    splitLines (line ++ '\n' :: rest) = line :: splitLines rest := by
  induction line with
  | nil => simp [splitLines]
  | cons c line ih =>
    obtain ⟨hc, hline⟩ := List.ne_and_not_mem_of_not_mem_cons h
    rw [List.cons_append, splitLines, if_neg hc.symm, ih hline]

end Report

namespace Program

open Report

private theorem splitLines_linesText {lines : List String} (h : ∀ l ∈ lines, ¬ Broken l) :
    splitLines (linesText lines).toList = lines.map String.toList ++ [[]] := by
  induction lines with
  | nil => rfl
  | cons line lines ih =>
    have htext : (linesText (line :: lines)).toList = line.toList ++ '\n' :: (linesText lines).toList := by
      rw [linesText_cons, String.toList_append, String.toList_append]
      simp
    rw [htext, splitLines_append (h line List.mem_cons_self), ih fun l hl => h l (List.mem_cons_of_mem _ hl)]
    rfl

private theorem count_linesText (lines : List String) :
    (linesText lines).toList.count '\n' = lines.length + (lines.map fun l => l.toList.count '\n').sum := by
  induction lines with
  | nil => rfl
  | cons line lines ih =>
    have hend : "\n".toList.count '\n' = 1 := by decide
    rw [linesText_cons, String.toList_append, String.toList_append, List.count_append, List.count_append, ih, hend,
      List.length_cons, List.map_cons, List.sum_cons]
    omega

/-- A line that breaks makes the text longer than one line for each. -/
private theorem length_lt_count_linesText {lines : List String} (h : ∃ l ∈ lines, Broken l) :
    lines.length < (linesText lines).toList.count '\n' := by
  obtain ⟨l, hl, hbroken⟩ := h
  have hpos : 0 < l.toList.count '\n' := List.count_pos_iff.2 hbroken
  have hsum : 0 < (lines.map fun l => l.toList.count '\n').sum :=
    List.sum_pos_iff_exists_pos_nat.2 ⟨_, List.mem_map_of_mem hl, hpos⟩
  rw [count_linesText]
  omega

end Program

namespace Runner

open Report

private theorem exists_mem_iff {α β : Type} {P : α → Prop} {Q : β → Prop} {as : List α} {bs : List β}
    (h : List.Forall₂ (fun a b => P a ↔ Q b) as bs) : (∃ a ∈ as, P a) ↔ ∃ b ∈ bs, Q b := by
  induction h with
  | nil => simp
  | cons hab _ ih => rw [List.exists_mem_cons_iff, List.exists_mem_cons_iff, hab, ih]

section

variable {registry : Registry} {clock : String} {workers : Int} {suite : Suite} {rig : Rig (StateM Stage)}
  {s : Stage} {rs : List Result}

private theorem broken_statusLine_of_returns (hclock : ¬ Broken clock)
    (hknown : ∀ b ∈ suite.benchmarks, b.algorithm ∈ registry.names)
    (hreadings : ∀ k s cause, (rig.now k s).1 = .error cause → ¬ Broken cause)
    (hreturns : (make registry clock workers).Returns rig suite s rs) :
    List.Forall₂ (fun b res => ∀ color, Broken (statusLine color res) ↔ Broken b.name) suite.benchmarks rs := by
  have hused : ¬ Broken ((make registry clock workers).clockFor suite.benchmarks.length) := by
    rw [clockFor_make_eq]
    split_ifs
    · decide
    · decide
    · exact hclock
  -- All that is known about the surroundings is that readings fail on one line.
  let R : Replies := { Replies.any with now := fun _ x => ∀ cause, x = .error cause → ¬ Broken cause }
  have hkeeps : rig.Keeps R fun _ => True :=
    { now := fun k s _ => ⟨hreadings k s, trivial⟩
      call := fun _ _ _ _ _ => ⟨trivial, trivial⟩
      cancelled := fun _ _ => ⟨trivial, trivial⟩
      log := fun _ _ _ => trivial }
  have hcauses : ∀ k cause, R.now k (.error cause) → ¬ Broken cause := fun _ cause h => h cause rfl
  have haccounts := hreturns.forall₂ hkeeps fun b hb => runOn_accounts (fun _ => trivial) hcauses (hknown b hb) _
  refine haccounts.imp fun b res hres color => ?_
  rw [broken_statusLine color fun e he => ?_, hres.name]
  rw [hres.name]
  exact not_broken_message (hres.error e he) hused

end

/-- Where clocks say what is wrong with them on one line, the names of the benchmarks decide on the lines that are
printed: in whatever order the workers get on, the status line of a result breaks if and only if its benchmark's name
does.  Without such a name there is one line for each benchmark, in order, and with one there are more lines than
benchmarks. -/
theorem printed_lines (registry : Registry) {clock : String} (hclock : ¬ Broken clock) (workers : Int) {suite : Suite}
    (hknown : ∀ b ∈ suite.benchmarks, b.algorithm ∈ registry.names) {rig : Rig (StateM Stage)}
    (hreadings : ∀ k s cause, (rig.now k s).1 = .error cause → ¬ Broken cause) {s : Stage} {rs : List Result}
    (hreturns : (make registry clock workers).Returns rig suite s rs) :
    List.Forall₂ (fun b res => ∀ color, Broken (statusLine color res) ↔ Broken b.name) suite.benchmarks rs ∧
    ∀ (script : Script) (terminal : Bool) (mode : String) (s₀ : Stage),
      (∀ i < suite.benchmarks.length, script.refusal (s₀.attempts + i) = none) →
      ∃ text, Program.printLines script.host (Program.statusLines terminal mode rs) s₀ =
          (.ok (), s₀.printing suite.benchmarks.length text) ∧
        ((∀ b ∈ suite.benchmarks, ¬ Broken b.name) →
          splitLines text.toList = (Program.statusLines terminal mode rs).map String.toList ++ [[]]) ∧
        ((∃ b ∈ suite.benchmarks, Broken b.name) → suite.benchmarks.length < text.toList.count '\n') := by
  have hpairs := broken_statusLine_of_returns hclock hknown hreadings hreturns
  refine ⟨hpairs, fun script terminal mode s₀ haccepted => ?_⟩
  have hlength : (Program.statusLines terminal mode rs).length = suite.benchmarks.length := by
    rw [Program.statusLines, List.length_map, hpairs.length_eq]
  have hlines : List.Forall₂ (fun b line => Broken b.name ↔ Broken line) suite.benchmarks
      (Program.statusLines terminal mode rs) :=
    List.forall₂_map_right_iff.2 (hpairs.imp fun _ _ h => (h _).symm)
  rw [← hlength] at haccepted ⊢
  refine ⟨_, Program.printLines_of_accepted script _ haccepted, fun hnames => ?_, fun hnames => ?_⟩
  · apply Program.splitLines_linesText
    intro line hline hbroken
    obtain ⟨b, hb, hname⟩ := (exists_mem_iff hlines).2 ⟨line, hline, hbroken⟩
    exact hnames b hb hname
  · exact Program.length_lt_count_linesText ((exists_mem_iff hlines).1 hnames)

/-- One of two benchmarks cannot run, and the clock of the other cannot be read, when two workers take turns. -/
theorem printed_lines_errors :
    let suite : Suite := ⟨[⟨"a", "naive", 4, 5, "", 1⟩, ⟨"b c", "iterative", 93, 0, "", 1⟩]⟩
    let script : Script := { reading := fun _ => .error "clock stopped" }
    ∃ rs text, (make Registry.core "wall" 2).Returns script.rig suite {} rs ∧
      Program.printLines script.host (Program.statusLines true "auto" rs) {} = (.ok (), ({} : Stage).printing 2 text) ∧
      (splitLines text.toList).length = 3 := by
  intro suite script
  have hreadings : ∀ k s cause, (script.rig.now k s).1 = .error cause → ¬ Broken cause := by
    rintro k s _ ⟨⟩
    decide
  obtain ⟨rs, _, hreturns⟩ := exists_returns_of_follow (make Registry.core "wall" 2) script.rig suite {}
    (Pool.turns 20) (by decide +kernel) (by decide +kernel)
  obtain ⟨hpairs, hprint⟩ := printed_lines Registry.core (by decide) 2 (by decide) hreadings hreturns
  obtain ⟨text, htext, hlines, _⟩ := hprint script true "auto" {} fun _ _ => rfl
  refine ⟨rs, text, hreturns, htext, ?_⟩
  rw [hlines (by decide), List.length_append, List.length_map, Program.statusLines, List.length_map, ← hpairs.length_eq]
  rfl

/-- A file can give a benchmark a name that breaks its status line, which is then printed as two lines. -/
theorem printed_lines_split :
    let root : Node := .directory
      [("a.hcl", .file "benchmark \"naive\" \"a\\nb\" \x7b\n  n      = 5\n  expect = 8\n\x7d\n")]
    let res : Result := ⟨"a\nb", "naive", 5, 8, 8, "ms", "process", 0, 0, 0, 1, true, none⟩
    (∃ suite s', loadSuite .byName (FileSystem.mk root []).resolve ["a.hcl"] = .ok suite ∧
      (make Registry.core "" 1).run ({} : Script).rig suite {} = (.ok [res], s')) ∧
      (∀ color, Broken (statusLine color res)) ∧
      splitLines (Program.linesText (Program.statusLines false "never" [res])).toList =
        ["Finished a  ".toList, "b in 0.000ms PASS fib(5) = 8".toList, []] := by
  intro root res
  refine ⟨⟨⟨[⟨"a\nb", "naive", 5, 8, "ms", 1⟩]⟩, _, toOption_eq_some_iff.1 (by decide +kernel), rfl⟩, ?_, ?_⟩
  · decide +kernel
  · decide +kernel

end Runner

end FibTiming
