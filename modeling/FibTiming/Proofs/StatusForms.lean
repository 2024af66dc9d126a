import FibTiming.Report.Status
import Mathlib.Data.List.Infix

/-!
# The forms of status lines

A status line has one of three forms (`Report.HasForm`), which can be told from its text alone
(`Report.HasForm.unique`): a line about an error starts differently from the others, and of these a line about a wrong
answer ends with the answer that was expected.  Every result gets a line of the form of its verdict
(`Report.hasForm_statusLine`).
-/

namespace FibTiming.Report

/-- The text has the form of a status line that shows a verdict. -/
inductive HasForm (color : Bool) : String → Verdict → Prop
  | error (name message : String) : HasForm color (Style.fail.render color "ERROR" ++ s!" {name}: " ++ message) .error
  | pass (about times : String) (n : Int) (got : UInt64) :
    HasForm color (Style.finished.render color ("Finished " ++ about) ++ times ++ " " ++
      Style.pass.render color "PASS" ++ s!" fib({n}) = {got}") .pass
  | fail (about times : String) (n : Int) (got expect : UInt64) :
    HasForm color (Style.finished.render color ("Finished " ++ about) ++ times ++ " " ++
      Style.fail.render color "FAIL" ++ s!" fib({n}) = {got}, expected {expect}") .fail

/-! ### How a line starts -/

/-- What stands before the first character of a text in a style. -/
def Style.lead (s : Style) (color : Bool) : List Char :=
  if color then escape :: '[' :: '1' :: ';' :: s.code.toList ++ ['m'] else []

private theorem splitLines_cons {c : Char} (hc : c ≠ '\n') (cs : List Char) :
    ∃ line lines, splitLines (c :: cs) = (c :: line) :: lines := by
  rw [splitLines, if_neg hc]
  split
  · exact ⟨[], [], rfl⟩
  · rename_i line lines _
    exact ⟨line, lines, rfl⟩

private theorem prefix_joinLines (line : List Char) (lines : List (List Char)) :
    line <+: joinLines (line :: lines) := by
  cases lines with
  | nil => simp [joinLines, List.intercalate]
  | cons next lines => simp [joinLines, List.intercalate]

private theorem Style.lead_prefix_paint (s : Style) (color : Bool) (c : Char) (line : List Char) :
    s.lead color ++ [c] <+: s.paint color (c :: line) := by
  cases color with
  | false => exact ⟨line, rfl⟩
  | true => exact ⟨line ++ [escape, '[', '0', 'm'], by simp [lead, paint]⟩

/-- A text that starts with a plain character starts with it in every style. -/
private theorem Style.lead_prefix_render (s : Style) (color : Bool) {c : Char} {text : String} {cs : List Char}
    (htext : text.toList = c :: cs) (htab : c ≠ '\t') (hreturn : c ≠ '\r') (hfeed : c ≠ '\n') :
    s.lead color ++ [c] <+: (s.render color text).toList := by
  have hplain : plainBlanks (c :: cs) = c :: plainBlanks cs := by
    rw [plainBlanks.eq_def]
    split
    · contradiction
    · simp_all
    · simp_all
    · simp_all
  obtain ⟨line, lines, hlines⟩ := splitLines_cons hfeed (plainBlanks cs)
  rw [render, String.toList_ofList, htext, hplain, hlines, List.map_cons]
  exact ((s.lead_prefix_paint color c line).trans (List.prefix_append ..)).trans (prefix_joinLines ..)

/-- How lines about errors start. -/
def errorStart (color : Bool) : List Char := Style.fail.lead color ++ ['E']

/-- How all other lines start. -/
def finishedStart (color : Bool) : List Char := Style.finished.lead color ++ ['F']

private theorem errorStart_prefix (color : Bool) (rest : String) :
    errorStart color <+: (Style.fail.render color "ERROR" ++ rest).toList := by
  rw [String.toList_append]
  exact (Style.fail.lead_prefix_render color (c := 'E') rfl (by decide) (by decide) (by decide)).trans
    (List.prefix_append ..)

private theorem finishedStart_prefix (color : Bool) (about rest : String) :
    finishedStart color <+: (Style.finished.render color ("Finished " ++ about) ++ rest).toList := by
  rw [String.toList_append]
  have hfirst : ("Finished " ++ about).toList = 'F' :: ("inished ".toList ++ about.toList) := by
    rw [String.toList_append]
    rfl
  exact (Style.finished.lead_prefix_render color hfirst (by decide) (by decide) (by decide)).trans
    (List.prefix_append ..)

/-- No line starts in both ways: either the colors or the first letters differ. -/
private theorem not_both_starts {color : Bool} {cs : List Char} (herror : errorStart color <+: cs)
    (hfinished : finishedStart color <+: cs) : False := by
  have hlength : (errorStart color).length = (finishedStart color).length := by cases color <;> decide
  have hne : errorStart color ≠ finishedStart color := by cases color <;> decide
  exact hne ((List.prefix_of_prefix_length_le herror hfinished (le_of_eq hlength)).eq_of_length hlength)

/-! ### How a line ends -/

/-- What stands before the number at the end of a line, in reverse. -/
def beforeNumber (line : String) : List Char := line.toList.reverse.dropWhile Char.isDigit

private theorem beforeNumber_append (front : String) (n : UInt64) :
    beforeNumber (front ++ " " ++ toString n) = ' ' :: front.toList.reverse := by
  have hdigits : ∀ c ∈ (toString n).toList.reverse, c.isDigit = true := by
    intro c hc
    have hrepr : (toString n).toList = Nat.toDigits 10 n.toNat := Nat.toList_repr
    rw [List.mem_reverse, hrepr] at hc
    exact Nat.isDigit_of_mem_toDigits (by decide) (by decide) hc
  rw [beforeNumber, String.toList_append, String.toList_append, List.reverse_append,
    List.dropWhile_append_of_pos hdigits, List.reverse_append]
  rfl

private theorem beforeNumber_pass (front : String) (n : Int) (got : UInt64) :
    ∃ rest, beforeNumber (front ++ s!" fib({n}) = {got}") = ' ' :: '=' :: rest := by
  have hline : front ++ s!" fib({n}) = {got}" = (front ++ " fib(" ++ toString n ++ ") =") ++ " " ++ toString got := by
    simp only [String.append_assoc]
    rfl
  rw [hline, beforeNumber_append, String.toList_append, List.reverse_append]
  exact ⟨_, rfl⟩

private theorem beforeNumber_fail (front : String) (n : Int) (got expect : UInt64) :
    ∃ rest, beforeNumber (front ++ s!" fib({n}) = {got}, expected {expect}") = ' ' :: 'd' :: rest := by
  have hline : front ++ s!" fib({n}) = {got}, expected {expect}" =
      (front ++ " fib(" ++ toString n ++ ") = " ++ toString got ++ ", expected") ++ " " ++ toString expect := by
    simp only [String.append_assoc]
    rfl
  rw [hline, beforeNumber_append, String.toList_append, List.reverse_append]
  exact ⟨_, rfl⟩

/-! ### Forms -/

theorem HasForm.start {color : Bool} {line : String} {v : Verdict} (h : HasForm color line v) :
    (v = .error ∧ errorStart color <+: line.toList) ∨ (v ≠ .error ∧ finishedStart color <+: line.toList) := by
  cases h with
  | error name message =>
    refine .inl ⟨rfl, ?_⟩
    rw [String.append_assoc]
    exact errorStart_prefix ..
  | pass about times n got =>
    refine .inr ⟨by simp, ?_⟩
    simp only [String.append_assoc]
    exact finishedStart_prefix ..
  | fail about times n got expect =>
    refine .inr ⟨by simp, ?_⟩
    simp only [String.append_assoc]
    exact finishedStart_prefix ..

private theorem HasForm.ending {color : Bool} {line : String} {v : Verdict} (h : HasForm color line v)
    (hv : v ≠ .error) :
    (v = .pass ∧ ∃ rest, beforeNumber line = ' ' :: '=' :: rest) ∨
      (v = .fail ∧ ∃ rest, beforeNumber line = ' ' :: 'd' :: rest) := by
  cases h with
  | error name message => exact absurd rfl hv
  | pass about times n got => exact .inl ⟨rfl, beforeNumber_pass ..⟩
  | fail about times n got expect => exact .inr ⟨rfl, beforeNumber_fail ..⟩

/-- The text of a line tells its form. -/
theorem HasForm.unique {color : Bool} {line : String} {v w : Verdict} (hv : HasForm color line v)
    (hw : HasForm color line w) : v = w := by
  rcases hv.start with ⟨rfl, hstart⟩ | ⟨hne, hstart⟩
  · rcases hw.start with ⟨rfl, _⟩ | ⟨_, hstart'⟩
    · rfl
    · exact (not_both_starts hstart hstart').elim
  · rcases hw.start with ⟨rfl, hstart'⟩ | ⟨hne', _⟩
    · exact (not_both_starts hstart' hstart).elim
    · rcases hv.ending hne with ⟨rfl, _, hrest⟩ | ⟨rfl, _, hrest⟩
      · rcases hw.ending hne' with ⟨rfl, _⟩ | ⟨rfl, _, hrest'⟩
        · rfl
        · simp [hrest] at hrest'
      · rcases hw.ending hne' with ⟨rfl, _, hrest'⟩ | ⟨rfl, _⟩
        · simp [hrest] at hrest'
        · rfl

/-- The line of a result has the form of its verdict. -/
theorem hasForm_statusLine (color : Bool) (r : Result) : HasForm color (statusLine color r) (verdict r) := by
  unfold statusLine verdict
  cases r.error with
  | some e => exact .error r.name e.message
  | none =>
    have htiming : ∃ about times, timing color r = Style.finished.render color ("Finished " ++ about) ++ times := by
      have habout : s!"Finished {r.name} in " ++ timeText r r.elapsed =
          "Finished " ++ (r.name ++ " in " ++ timeText r r.elapsed) := by
        simp only [String.append_assoc]
        rfl
      rw [timing, habout]
      exact ⟨_, _, rfl⟩
    obtain ⟨about, times, htiming⟩ := htiming
    rw [htiming]
    by_cases hpassed : r.passed = true
    · simp only [hpassed, Option.isSome_none, Bool.false_eq_true, ↓reduceIte]
      exact .pass about times r.n r.got
    · simp only [hpassed, Option.isSome_none, Bool.false_eq_true, ↓reduceIte]
      exact .fail about times r.n r.got r.expect

theorem hasForm_statusLine_iff (color : Bool) (r : Result) (v : Verdict) :
    HasForm color (statusLine color r) v ↔ verdict r = v := by
  constructor
  · intro h
    exact (hasForm_statusLine color r).unique h
  · rintro rfl
    exact hasForm_statusLine color r

end FibTiming.Report
