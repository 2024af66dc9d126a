import FibTiming.Config
import FibTiming.Loading
import FibTiming.Report.Document
import FibTiming.Report.Status
import FibTiming.Runner

/-!
# The program

With a configuration and a registry of algorithms the program finds the suite to run, runs it, prints one status line
for each benchmark, and writes a report when one is asked for.  It ends at the first of these steps that fails; a
benchmark with a wrong answer counts as a failure only after everything has been written.
-/

namespace FibTiming

/-- Why a report cannot be saved: its file cannot be made, or its text cannot be written out. -/
inductive SaveError where
  | create (e : FileError)
  | write (cause : String)
deriving Repr, DecidableEq, Inhabited

/-- The wording of such a failure. -/
def SaveError.message : SaveError → String
  | create e => "failed to create report file: " ++ e.message
  | write cause => "failed to encode report: yaml: write error: " ++ cause

/-- The operations the program needs from its surroundings. -/
structure Host (m : Type → Type) where
  /-- Reads a clock. -/
  now : ClockKind → m (Except String Int64)
  /-- Calls an algorithm at an index. -/
  call : Algorithm → Int → m UInt64
  /-- Whether the program has been told to stop. -/
  cancelled : m Bool
  /-- Carries out jobs, at most the given number at once, and returns their results in the order of the jobs. -/
  gather : Nat → List (m Result) → m (List Result)
  /-- Writes a record to the log in the given format. -/
  emit : Log.Format → Log.Record → m Unit
  /-- Whether texts are printed on a terminal. -/
  terminal : Bool
  /-- Prints a text, or says why it cannot be printed. -/
  print : String → m (Except String Unit)
  /-- Loads the suite that paths stand for and tells what is logged meanwhile; there may be no way to load one. -/
  load : Option (List String → m (List Log.Record × Except LoadError Suite))
  /-- Saves a report under a path. -/
  save : String → Report.Document → m (Except SaveError Unit)

/-- Why a run of the program fails. -/
inductive ProgramError where
  | noLoader
  | loading (e : LoadError)
  | emptySuite
  | unknownAlgorithms (e : UnknownAlgorithms)
  | printing (cause : String)
  | report (e : SaveError)
  | mismatches (count total : Nat)
deriving Repr, Inhabited

/-- The wording of a failure. -/
def ProgramError.message : ProgramError → String
  | noLoader => "failed to load suite: suite paths configured but no loader available"
  | loading e => "failed to load suite: " ++ e.message
  | emptySuite => "failed to load suite: suite contains no benchmarks"
  | unknownAlgorithms e => "failed to run suite: " ++ e.message
  | printing cause => "failed to print results: " ++ cause
  | report e => e.message
  | mismatches count total =>
    s!"benchmark failed: {count} of {total} benchmarks did not match their expected value"

namespace Program

/-- The lines that are printed for results under the named color mode. -/
def statusLines (terminal : Bool) (color : String) (rs : List Result) : List String :=
  rs.map (Report.statusLine (Report.colored terminal color))

/-- The number of results that failed. -/
def failures (rs : List Result) : Nat := (rs.filter (·.failed)).length

/-- The verdict on results that have all been written. -/
def verdict (rs : List Result) : Except ProgramError Unit :=
  if failures rs = 0 then .ok () else .error (.mismatches (failures rs) rs.length)

variable {m : Type → Type} [Monad m]

/-- Writes a record to the log, if the configuration lets the log take it. -/
@[specialize] def log (h : Host m) (c : Config) (r : Log.Record) : m Unit :=
  if c.keeps r then h.emit c.format r else pure ()

/-- The rig that benchmarks run on. -/
@[specialize] def rig (h : Host m) (c : Config) : Rig m where
  now := h.now
  call := h.call
  cancelled := h.cancelled
  log := log h c
  gather := h.gather

/-- The suite to run: the ad-hoc benchmark, or what the suite paths stand for, or the built-in suite. -/
@[specialize] def resolve (h : Host m) (c : Config) : m (Except ProgramError Suite) :=
  match c.adHoc with
  | some b => do
    log h c ⟨.debug, "Using ad-hoc benchmark from flags.", [("benchmark", .text b.name)]⟩
    return .ok ⟨[b]⟩
  | none =>
    if c.suitePaths.isEmpty then do
      log h c ⟨.debug, "No suite paths given, using built-in suite.", []⟩
      return .ok Suite.builtIn
    else
      match h.load with
      | none => return .error .noLoader
      | some load => do
        let (records, outcome) ← load c.suitePaths
        Runner.logAll (rig h c) records
        return outcome.mapError .loading

/-- Prints lines, up to the first that cannot be printed. -/
@[specialize] def printLines (h : Host m) : List String → m (Except ProgramError Unit)
  | [] => return .ok ()
  | line :: rest => do
    match ← h.print (line ++ "\n") with
    | .error cause => return .error (.printing cause)
    | .ok () => printLines h rest

/-- Saves the report, when the configuration asks for one. -/
@[specialize] def saveReport (h : Host m) (c : Config) (rs : List Result) : m (Except ProgramError Unit) :=
  if c.reportPath = "" then return .ok ()
  else do
    match ← h.save c.reportPath (.ofResults rs) with
    | .error e => return .error (.report e)
    | .ok () =>
      log h c ⟨.info, "Report written.", [("path", .text c.reportPath)]⟩
      return .ok ()

/-- Prints and saves results, and gives the verdict on them. -/
@[specialize] def publish (h : Host m) (c : Config) (rs : List Result) : m (Except ProgramError Unit) := do
  match ← printLines h (statusLines h.terminal c.color rs) with
  | .error e => return .error e
  | .ok () =>
    match ← saveReport h c rs with
    | .error e => return .error e
    | .ok () =>
      log h c ⟨.debug, "App.Run method finished.", [("failed", .int (failures rs))]⟩
      return verdict rs

/-- Runs a suite, prints and saves its results, and gives the verdict on them. -/
@[specialize] def runSuite (h : Host m) (c : Config) (registry : Registry) (s : Suite) :
    m (Except ProgramError Unit) := do
  log h c ⟨.info, "Suite loaded.", [("benchmarks", .int s.benchmarks.length)]⟩
  log h c ⟨.info, "🚀 Running benchmarks...", [("workers", .int c.workers), ("clock", .choice c.clock)]⟩
  match ← (Runner.make registry c.clock c.workers).run (rig h c) s with
  | .error e => return .error (.unknownAlgorithms e)
  | .ok rs =>
    log h c ⟨.info, "🏁 Benchmarks finished.", []⟩
    publish h c rs

/-- Runs the program. -/
@[specialize] def run (h : Host m) (c : Config) (registry : Registry) : m (Except ProgramError Unit) := do
  log h c ⟨.debug, "Logger configured successfully.", []⟩
  log h c ⟨.debug, "All Go modules registered.",
    [("count", .int registry.algorithms.length), ("algorithms", .texts registry.names)]⟩
  log h c ⟨.debug, "App.Run method started.", []⟩
  match ← resolve h c with
  | .error e => return .error e
  | .ok s => if s.benchmarks.isEmpty then return .error .emptySuite else runSuite h c registry s

end Program

end FibTiming
