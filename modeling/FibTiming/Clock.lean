/-!
# Clocks

Three clocks can be asked for: the processor time of the program, that of the thread, and the time on the wall.
A measurement reads the clock before and after a piece of work; the difference of two readings is a 64-bit word
and wraps.
-/

namespace FibTiming

/-- The clocks a time can be measured on. -/
inductive ClockKind where
  | process
  | thread
  | wall
deriving Repr, DecidableEq, Inhabited

namespace ClockKind

/-- The name a clock is selected by. -/
def name : ClockKind → String
  | process => "process"
  | thread => "thread"
  | wall => "wall"

/-- The clock with the given name; the empty name selects the program's processor time. -/
def ofName? (s : String) : Option ClockKind :=
  if s = "" then some process
  else if s = "process" then some process
  else if s = "thread" then some thread
  else if s = "wall" then some wall
  else none

/-- What is said about a setting that names no clock. -/
def unknownSetting (given : String) : String :=
  s!"invalid clock '{given}': must be 'process', 'thread', or 'wall'"

/-- What is said when a clock that does not exist is opened. -/
def unknownClock (given : String) : String := s!"invalid clock '{given}'"

end ClockKind

/-- Reads the clock, works, reads the clock again, and returns the difference with the work's result.  The work
is not done when the first reading fails. -/
def measure {m : Type → Type} [Monad m] {ε α : Type} (now : m (Except ε Int64)) (work : m α) :
    m (Except ε (Int64 × α)) := do
  match ← now with
  | .error e => return .error e
  | .ok start =>
    let a ← work
    match ← now with
    | .error e => return .error e
    | .ok stop => return .ok (stop - start, a)

end FibTiming
