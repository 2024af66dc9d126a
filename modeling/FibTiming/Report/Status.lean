import FibTiming.Report.Color
import FibTiming.Result

/-!
# Status lines

One line per result: `ERROR` with the error's text, or the time it took with `PASS` or `FAIL` and the answer.
-/

namespace FibTiming.Report

/-- The three forms of a status line. -/
inductive Verdict where
  | error
  | pass
  | fail
deriving Repr, DecidableEq, Inhabited

/-- The form of a result's status line. -/
def verdict (r : Result) : Verdict :=
  if r.error.isSome then .error else if r.passed then .pass else .fail

/-- The time of a result in the unit it asks for. -/
def timeText (r : Result) (t : Int64) : String := (TimeUnit.shown r.unit).format t.toInt

/-- The part of a status line that is about the time. -/
def timing (color : Bool) (r : Result) : String :=
  Style.finished.render color (s!"Finished {r.name} in " ++ timeText r r.elapsed) ++
    (if r.runs > 1 then
      " (min " ++ timeText r r.least ++ ", mean " ++ timeText r r.mean ++ s!" over {r.runs} runs)"
    else "")

/-- The status line of a result. -/
def statusLine (color : Bool) (r : Result) : String :=
  match r.error with
  | some e => Style.fail.render color "ERROR" ++ s!" {r.name}: " ++ e.message
  | none =>
    if r.passed then timing color r ++ " " ++ Style.pass.render color "PASS" ++ s!" fib({r.n}) = {r.got}"
    else timing color r ++ " " ++ Style.fail.render color "FAIL" ++ s!" fib({r.n}) = {r.got}, expected {r.expect}"

end FibTiming.Report
