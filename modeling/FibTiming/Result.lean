import FibTiming.Benchmark
import FibTiming.Clock
import FibTiming.Registry

/-!
# Results

The outcome of a benchmark: the first answer, the times of its runs, and whether it passed.  A result with an
error has not passed as a whole, whatever its answer is.
-/

namespace FibTiming

/-- Why a benchmark did not run to its end, or cannot be trusted. -/
inductive RunError where
  | notStarted (name : String)
  | interrupted (name : String) (runs : Int)
  | outOfRange (name : String) (n : Int)
  | unknownAlgorithm (name : String) (cause : UnknownAlgorithm)
  | unknownClock (clock : String)
  | clockFailed (name cause : String)
  | answerChanged (name : String) (run : Int) (answer first : UInt64)
  | reported (text : String)
deriving Repr, DecidableEq, Inhabited

/-- The wording of a run's error. -/
def RunError.message : RunError → String
  | notStarted name => s!"benchmark '{name}' not started: context canceled"
  | interrupted name runs => s!"benchmark '{name}' interrupted after {runs} runs: context canceled"
  | outOfRange name n => s!"benchmark '{name}': n {n} outside [0, {maxIndex}]: fibonacci term overflows uint64"
  | unknownAlgorithm name cause => s!"benchmark '{name}': " ++ cause.message
  | unknownClock clock => ClockKind.unknownClock clock
  | clockFailed name cause => s!"benchmark '{name}': {cause}"
  | answerChanged name run answer first =>
    s!"benchmark '{name}': run {run} returned {answer}, first run returned {first}"
  | reported text => text

/-- The outcome of one benchmark.  `elapsed` is the first run; `least` and `mean` cover all runs. -/
structure Result where
  name : String
  algorithm : String
  n : Int
  expect : UInt64
  got : UInt64 := 0
  unit : String
  clock : String
  elapsed : Int64 := 0
  least : Int64 := 0
  mean : Int64 := 0
  runs : Int := 0
  passed : Bool := false
  error : Option RunError := none
deriving Repr, DecidableEq, Inhabited

namespace Result

/-- The result of a benchmark that has not run yet. -/
def pending (b : Benchmark) (clock : String) : Result :=
  { name := b.name, algorithm := b.algorithm, n := b.n, expect := b.expect, unit := b.unit, clock := clock }

/-- Whether the benchmark had an error or did not pass. -/
def failed (r : Result) : Bool := r.error.isSome || !r.passed

/-- Whether none of the results failed. -/
def allPassed (rs : List Result) : Bool := rs.all fun r => !r.failed

end Result

end FibTiming
