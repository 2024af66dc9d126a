import FibTiming.Proofs.Rehearsal
import FibTiming.Proofs.SavedFiles

/-!
# Publishing results

What a rehearsal prints, line by line: lines are printed up to the first refusal (`printLines_of_accepted`,
`printLines_of_refused`).  Whether a report can be saved does not depend on its text (`FileSystem.writable_iff`), and the
verdict on results that have been published is that none of them failed (`verdict_eq_ok_iff`).
-/

namespace FibTiming

/-- A file can be written under the path. -/
def FileSystem.Writable (files : FileSystem) (path : String) : Prop := ∃ files', files.write path "" = .ok files'

/-- Whether a file can be written does not depend on its content. -/
theorem FileSystem.writable_iff (files : FileSystem) (path content : String) :
    files.Writable path ↔ ∃ files', files.write path content = .ok files' := by
  simp only [Writable, write_eq_ok_iff]
  constructor
  · rintro ⟨_, place, name, hw, _⟩
    exact ⟨_, place, name, hw, rfl⟩
  · rintro ⟨_, place, name, hw, _⟩
    exact ⟨_, place, name, hw, rfl⟩

/-- A step on the stage hands over its answer and the stage it leaves. -/
theorem bind_apply {σ α β : Type} (x : StateM σ α) (f : α → StateM σ β) (s : σ) :
    (x >>= f) s = f (x s).1 (x s).2 := rfl

theorem pure_apply {σ α : Type} (a : α) (s : σ) : (pure a : StateM σ α) s = (a, s) := rfl

/-- The stage after a number of attempts that printed a text. -/
def Stage.printing (s : Stage) (count : Nat) (text : String) : Stage :=
  { s with attempts := s.attempts + count, printed := s.printed ++ text }

private theorem Stage.printing_printing (s : Stage) (m n : Nat) (t u : String) :
    (s.printing m t).printing n u = s.printing (m + n) (t ++ u) := by
  simp [printing, Nat.add_assoc, String.append_assoc]

namespace Program

/-- The text of lines, each with its line end. -/
def linesText (lines : List String) : String := String.join (lines.map (· ++ "\n"))

theorem linesText_cons (line : String) (lines : List String) :
    linesText (line :: lines) = line ++ "\n" ++ linesText lines := by
  simp [linesText]

variable (script : Script)

/-! ### Lines -/

/-- A line that is accepted is printed before the others. -/
private theorem printLines_cons_of_accepted (line : String) (rest : List String) {s : Stage}
    (h : script.refusal s.attempts = none) :
    printLines script.host (line :: rest) s = printLines script.host rest (s.printing 1 (line ++ "\n")) := by
  have hline : script.host.print (line ++ "\n") s = (.ok (), s.printing 1 (line ++ "\n")) := by
    simp only [Script.host, Script.print, h]
    rfl
  simp only [printLines, bind_apply, hline]

/-- Lines that are all accepted are printed in order. -/
theorem printLines_of_accepted (lines : List String) {s : Stage}
    (h : ∀ i < lines.length, script.refusal (s.attempts + i) = none) :
    printLines script.host lines s = (.ok (), s.printing lines.length (linesText lines)) := by
  induction lines generalizing s with
  | nil => simp [printLines, linesText, Stage.printing, pure_apply]
  | cons line rest ih =>
    have hrest : ∀ i < rest.length, script.refusal ((s.printing 1 (line ++ "\n")).attempts + i) = none := by
      intro i hi
      rw [Stage.printing, Nat.add_assoc, Nat.add_comm 1 i]
      exact h (i + 1) (by simpa using hi)
    rw [printLines_cons_of_accepted script line rest (h 0 (by simp)), ih hrest, Stage.printing_printing, linesText_cons,
      List.length_cons, Nat.add_comm]

/-- Lines are printed up to the first that is refused. -/
theorem printLines_of_refused (lines : List String) {s : Stage} {k : Nat} {cause : String} (hk : k < lines.length)
    (h : ∀ i < k, script.refusal (s.attempts + i) = none) (hcause : script.refusal (s.attempts + k) = some cause) :
    printLines script.host lines s = (.error (.printing cause), s.printing (k + 1) (linesText (lines.take k))) := by
  induction lines generalizing s k with
  | nil => simp at hk
  | cons line rest ih =>
    cases k with
    | zero =>
      have hline : script.host.print (line ++ "\n") s = (.error cause, s.printing 1 "") := by
        rw [Nat.add_zero] at hcause
        simp [Script.host, Script.print, hcause, Stage.printing]
      simp only [printLines, bind_apply, hline]
      rfl
    | succ k =>
      have hrest : ∀ i < k, script.refusal ((s.printing 1 (line ++ "\n")).attempts + i) = none := by
        intro i hi
        rw [Stage.printing, Nat.add_assoc, Nat.add_comm 1 i]
        exact h (i + 1) (by omega)
      have hcause' : script.refusal ((s.printing 1 (line ++ "\n")).attempts + k) = some cause := by
        rwa [Stage.printing, Nat.add_assoc, Nat.add_comm 1 k]
      rw [printLines_cons_of_accepted script line rest (h 0 (by omega)), ih (by simpa using hk) hrest hcause',
        Stage.printing_printing, List.take_succ_cons, linesText_cons, Nat.add_comm 1]

/-- Either all lines are accepted, or there is a first that is refused. -/
theorem accepted_or_refused (start count : Nat) :
    (∀ i < count, script.refusal (start + i) = none) ∨
      ∃ k < count, ∃ cause, (∀ i < k, script.refusal (start + i) = none) ∧ script.refusal (start + k) = some cause := by
  induction count with
  | zero => left; intro i hi; omega
  | succ count ih =>
    rcases ih with hall | ⟨k, hk, cause, hbefore, hcause⟩
    · cases hlast : script.refusal (start + count) with
      | some cause => exact .inr ⟨count, by omega, cause, hall, hlast⟩
      | none =>
        left
        intro i hi
        rcases Nat.lt_succ_iff_lt_or_eq.1 hi with hi | rfl
        · exact hall i hi
        · exact hlast
    · exact .inr ⟨k, by omega, cause, hbefore, hcause⟩

/-! ### Verdicts -/

theorem verdict_eq_ok_iff (rs : List Result) : verdict rs = .ok () ↔ ∀ r ∈ rs, r.failed = false := by
  have hiff : failures rs = 0 ↔ ∀ r ∈ rs, r.failed = false := by
    simp [failures]
  rw [← hiff]
  unfold verdict
  by_cases h : failures rs = 0 <;> simp [h]

end Program

end FibTiming
