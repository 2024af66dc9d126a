import FibTiming.Program

/-!
# Rehearsals

A rehearsal runs the program without any effects: the readings of the clocks and the lines that cannot be printed are
settled in advance, and the calls, the log, the printed text and the files are kept as values.  Jobs are carried out
one after the other.
-/

namespace FibTiming

/-- Loads a suite from files, with what is logged meanwhile. -/
def loadFrom (visiting : Visiting) (files : FileSystem) (paths : List String) :
    List Log.Record × Except LoadError Suite :=
  (loadRecords visiting files.resolve paths, loadSuite visiting files.resolve paths)

/-- What is settled before a rehearsal.  Readings and printed texts are counted from zero, calls from one. -/
structure Script where
  /-- The readings of the clocks, in order. -/
  reading : Nat → Except String Int64 := fun _ => .ok 0
  /-- Whether the program is told to stop during a call; the calls of all algorithms are counted together. -/
  interrupt : Nat → Bool := fun _ => false
  /-- Why a text cannot be printed, if it cannot. -/
  refusal : Nat → Option String := fun _ => none
  /-- How a suite is loaded from files, if it can be. -/
  load : Option (FileSystem → List String → List Log.Record × Except LoadError Suite) := some (loadFrom .byName)

/-- The state of a rehearsal. -/
structure Stage where
  cancelled : Bool := false
  /-- How many readings have been taken. -/
  readings : Nat := 0
  /-- How often the algorithms have been called, by name. -/
  calls : List (String × Nat) := []
  log : List (Log.Format × Log.Record) := []
  /-- How many texts have been printed or refused. -/
  attempts : Nat := 0
  printed : String := ""
  files : FileSystem := {}
deriving Inhabited

namespace Stage

/-- How often the algorithm of a name has been called. -/
def callCount (s : Stage) (name : String) : Nat := ((s.calls.find? (·.1 == name)).map (·.2)).getD 0

/-- Adds one call to the count of a name. -/
def countCall (name : String) : List (String × Nat) → List (String × Nat)
  | [] => [(name, 1)]
  | (other, count) :: rest =>
    if other = name then (other, count + 1) :: rest else (other, count) :: countCall name rest

/-- How often algorithms have been called. -/
def totalCalls (s : Stage) : Nat := s.calls.foldl (fun total c => total + c.2) 0

end Stage

namespace Script

/-- Takes the next reading. -/
def now (script : Script) (_ : ClockKind) : StateM Stage (Except String Int64) := fun s =>
  (script.reading s.readings, { s with readings := s.readings + 1 })

/-- Calls an algorithm; the program may be told to stop during the call. -/
def call (script : Script) (a : Algorithm) (n : Int) : StateM Stage UInt64 := fun s =>
  let number := s.callCount a.name + 1
  let stop := a.computation.cancels number || script.interrupt (s.totalCalls + 1)
  (a.computation.answer number n,
    { s with calls := Stage.countCall a.name s.calls, cancelled := s.cancelled || stop })

/-- Prints a text, unless it is refused. -/
def print (script : Script) (text : String) : StateM Stage (Except String Unit) := fun s =>
  let s' := { s with attempts := s.attempts + 1 }
  match script.refusal s.attempts with
  | some cause => (.error cause, s')
  | none => (.ok (), { s' with printed := s.printed ++ text })

/-- Saves a report among the files. -/
def save (path : String) (report : Report.Document) : StateM Stage (Except SaveError Unit) := fun s =>
  match s.files.write path report.render with
  | .error cause => (.error (.create ⟨"open", path, cause⟩), s)
  | .ok files => (.ok (), { s with files := files })

/-- The surroundings of a rehearsal. -/
def host (script : Script) : Host (StateM Stage) where
  now := script.now
  call := script.call
  cancelled := fun s => (s.cancelled, s)
  gather := fun _ jobs => inOrder jobs
  emit := fun format r => modify fun s => { s with log := s.log ++ [(format, r)] }
  terminal := false
  print := script.print
  load := script.load.map fun load paths => fun s => (load s.files paths, s)
  save := save

/-- The rig of a rehearsal of which the whole log is kept. -/
def rig (script : Script) : Rig (StateM Stage) := Program.rig script.host { logLevel := "debug" }

end Script

end FibTiming
