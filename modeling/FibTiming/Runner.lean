import FibTiming.Result

/-!
# Running benchmarks

A runner measures the benchmarks of a suite on a rig: the clock, the algorithms, the signal to stop and the log
are operations of the rig, so the same code runs on real clocks and on scripted ones.  Every repetition of a
benchmark is one measured call, and the signal to stop is looked at before the first call and before every
further one.
-/

namespace FibTiming

/-- The operations a run needs from its surroundings. -/
structure Rig (m : Type → Type) where
  /-- Reads a clock. -/
  now : ClockKind → m (Except String Int64)
  /-- Calls an algorithm at an index. -/
  call : Algorithm → Int → m UInt64
  /-- Whether the run has been told to stop. -/
  cancelled : m Bool
  /-- Writes a record to the log. -/
  log : Log.Record → m Unit
  /-- Carries out jobs, at most the given number at once, and returns their results in the order of the jobs. -/
  gather : Nat → List (m Result) → m (List Result)

/-- Carries out jobs one after the other. -/
@[specialize] def inOrder {m : Type → Type} [Monad m] {α : Type} : List (m α) → m (List α)
  | [] => pure []
  | job :: jobs => do
    let a ← job
    return a :: (← inOrder jobs)

/-! ### The repetitions of one benchmark -/

/-- The state between two repetitions: the result so far and the sum of the measured times. -/
structure Trial where
  result : Result
  total : Int64 := 0
  /-- Whether the clock failed, which ends the benchmark at once. -/
  aborted : Bool := false
deriving Repr, DecidableEq, Inhabited

namespace Trial

/-- Adds a measured call.  The first call fixes the answer; a later call with another answer is an error. -/
def record (t : Trial) (elapsed : Int64) (got : UInt64) : Trial :=
  let r := t.result
  let r :=
    if r.runs = 0 then { r with got := got, elapsed := elapsed, least := elapsed }
    else if got = r.got then r
    else { r with error := some (.answerChanged r.name (r.runs + 1) got r.got) }
  let r := if elapsed < r.least then { r with least := elapsed } else r
  { t with result := { r with runs := r.runs + 1 }, total := t.total + elapsed }

/-- Ends the benchmark because the run has been told to stop. -/
def interrupt (t : Trial) : Trial :=
  { t with result := { t.result with error := some (.interrupted t.result.name t.result.runs) } }

/-- Ends the benchmark because the clock could not be read. -/
def abort (t : Trial) (cause : String) : Trial :=
  { t with result := { t.result with error := some (.clockFailed t.result.name cause) }, aborted := true }

/-- The result after the last repetition: the mean is filled in and the verdict given. -/
def finish (t : Trial) : Result :=
  let r := t.result
  let r := if r.runs > 0 then { r with mean := t.total / Int64.ofInt r.runs } else r
  { r with passed := r.error.isNone && r.got == r.expect }

end Trial

/-- Measures up to `left` calls of an algorithm. -/
@[specialize] def repeatCalls {m : Type → Type} [Monad m] (rig : Rig m) (clock : ClockKind) (a : Algorithm) (n : Int) :
    (left : Nat) → Trial → m Trial
  | 0, t => pure t
  | left + 1, t => do
    let stop ← if t.result.runs > 0 then rig.cancelled else pure false
    if stop then return t.interrupt
    match ← measure (rig.now clock) (rig.call a n) with
    | .error cause => return t.abort cause
    | .ok (elapsed, got) => repeatCalls rig clock a n left (t.record elapsed got)

/-! ### Benchmarks -/

/-- The algorithms, the clock and the number of workers of a run. -/
structure Runner where
  registry : Registry
  clock : String
  workers : Int

namespace Runner

/-- A runner with at least one worker; without a clock it takes the program's processor time. -/
def make (registry : Registry) (clock : String) (workers : Int) : Runner :=
  ⟨registry, if clock = "" then ClockKind.process.name else clock, if workers < 1 then 1 else workers⟩

/-- Whether several benchmarks can run at once although the clock counts them all together. -/
def sharesClock (r : Runner) (size : Nat) : Bool :=
  r.clock == ClockKind.process.name && decide (r.workers > 1) && decide (size > 1)

/-- The clock for a suite of the given size. -/
def clockFor (r : Runner) (size : Nat) : String :=
  if r.sharesClock size then ClockKind.thread.name else r.clock

/-- What prevents a benchmark from being called at all, or its algorithm and clock. -/
def prepare (r : Runner) (b : Benchmark) (clock : String) : Except RunError (Algorithm × ClockKind) :=
  if b.n < 0 ∨ b.n > maxIndex then .error (.outOfRange b.name b.n)
  else
    match r.registry.lookup b.algorithm with
    | .error e => .error (.unknownAlgorithm b.name e)
    | .ok a =>
      match ClockKind.ofName? clock with
      | none => .error (.unknownClock clock)
      | some k => .ok (a, k)

/-- The number of calls a benchmark asks for. -/
def wantedRuns (b : Benchmark) : Nat := (max 1 b.repetitions).toNat

/-- The fields every record about a benchmark starts with. -/
def benchmarkFields (b : Benchmark) : List (String × Log.Value) :=
  [("benchmark", .text b.name), ("algorithm", .text b.algorithm), ("n", .int b.n)]

/-- The record of a benchmark's verdict. -/
def verdictRecord (b : Benchmark) (r : Result) : Log.Record :=
  if r.passed then
    ⟨.info, "Benchmark passed.", benchmarkFields b ++ [("elapsed", .duration r.elapsed.toInt), ("runs", .int r.runs)]⟩
  else
    ⟨.warn, "Benchmark failed.", benchmarkFields b ++
      [("got", .int r.got.toNat), ("expect", .int r.expect.toNat), ("error", .failure (r.error.map (·.message)))]⟩

variable {m : Type → Type} [Monad m]

/-- Runs one benchmark on the named clock. -/
@[specialize] def runOn (r : Runner) (rig : Rig m) (b : Benchmark) (clock : String) : m Result := do
  let pending := Result.pending b clock
  if ← rig.cancelled then
    rig.log ⟨.warn, "Benchmark skipped.", benchmarkFields b ++ [("error", .failure (some "context canceled"))]⟩
    return { pending with error := some (.notStarted b.name) }
  match r.prepare b clock with
  | .error e => return { pending with error := some e }
  | .ok (a, k) =>
    rig.log ⟨.debug, "Benchmark started.", benchmarkFields b ++
      [("runs", .int (wantedRuns b)), ("clock", .choice clock)]⟩
    let t ← repeatCalls rig k a b.n (wantedRuns b) { result := pending }
    if t.aborted then return t.result
    let result := t.finish
    rig.log (verdictRecord b result)
    return result

/-- Runs one benchmark on the runner's own clock. -/
@[specialize] def runOne (r : Runner) (rig : Rig m) (b : Benchmark) : m Result :=
  r.runOn rig b r.clock

/-- Writes records to the log, in order. -/
@[specialize] def logAll (rig : Rig m) : List Log.Record → m Unit
  | [] => pure ()
  | record :: rest => do
    rig.log record
    logAll rig rest

/-- Runs a suite and returns its results in the order of its benchmarks.  Nothing runs when an algorithm is
unknown. -/
@[specialize] def run (r : Runner) (rig : Rig m) (s : Suite) : m (Except UnknownAlgorithms (List Result)) := do
  logAll rig (r.registry.resolvedRecords s)
  match r.registry.checkSuite s with
  | .error e => return .error e
  | .ok () =>
    let size := s.benchmarks.length
    if r.sharesClock size then
      rig.log ⟨.warn, "Process CPU time is shared by all workers; measuring per-thread CPU time instead.",
        [("workers", .int r.workers)]⟩
    let clock := r.clockFor size
    rig.log ⟨.debug, "Starting benchmark suite.",
      [("benchmarks", .int size), ("workers", .int r.workers), ("clock", .choice clock)]⟩
    let results ← rig.gather r.workers.toNat (s.benchmarks.map fun b => r.runOn rig b clock)
    rig.log ⟨.debug, "Benchmark suite finished.", [("all_passed", .flag (Result.allPassed results))]⟩
    return .ok results

end Runner

end FibTiming
