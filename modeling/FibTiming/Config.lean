import FibTiming.Benchmark
import FibTiming.Clock
import FibTiming.Log
import FibTiming.Report.Color

/-!
# Configurations

A configuration says what is to be measured, how, and where the results go.  `Config.check` finds the first thing
that is wrong with one and fills in what was left out; a checked configuration passes the check unchanged.
-/

namespace FibTiming

/-- What is to be measured and how.  Without an ad-hoc benchmark and without paths the built-in suite runs. -/
structure Config where
  suitePaths : List String := []
  adHoc : Option Benchmark := none
  clock : String := ""
  workers : Int := 0
  color : String := ""
  reportPath : String := ""
  logFormat : String := ""
  logLevel : String := ""
deriving Repr, DecidableEq, Inhabited

/-- What can be wrong with a configuration. -/
inductive ConfigError where
  | adHocWithPaths
  | fault (f : BenchmarkFault)
  | unknownClock (given : String)
  | unknownColor (given : String)
  | negativeWorkers (count : Int)
deriving Repr, DecidableEq, Inhabited

/-- The wording of what is wrong. -/
def ConfigError.message : ConfigError → String
  | adHocWithPaths => "an ad-hoc benchmark cannot be combined with suite paths"
  | fault f => f.message
  | unknownClock given => ClockKind.unknownSetting given
  | unknownColor given => Report.ColorMode.unknownSetting given
  | negativeWorkers count => s!"workers must be positive, got {count}"

namespace Config

/-- Checks the ad-hoc benchmark, which excludes suite paths, and fills it in. -/
def checkAdHoc (c : Config) : Except ConfigError (Option Benchmark) :=
  match c.adHoc with
  | none => .ok none
  | some b =>
    if c.suitePaths ≠ [] then .error .adHocWithPaths
    else
      match b.check with
      | ⟨_, some f⟩ => .error (.fault f)
      | ⟨b, none⟩ => .ok (some b)

/-- Checks the number of workers; none stands for one. -/
def checkWorkers (count : Int) : Except ConfigError Int :=
  if count < 0 then .error (.negativeWorkers count) else if count = 0 then .ok 1 else .ok count

/-- Checks a configuration, field after field, and fills in what was left out.  The log's settings are taken as
they are. -/
def check (c : Config) : Except ConfigError Config :=
  match c.checkAdHoc with
  | .error e => .error e
  | .ok adHoc =>
    match ClockKind.ofName? c.clock with
    | none => .error (.unknownClock c.clock)
    | some clock =>
      match Report.ColorMode.ofName? c.color with
      | none => .error (.unknownColor c.color)
      | some color =>
        match checkWorkers c.workers with
        | .error e => .error e
        | .ok workers =>
          .ok { c with adHoc := adHoc, clock := clock.name, color := color.name, workers := workers }

/-- The format the log is written in. -/
def format (c : Config) : Log.Format := .ofName c.logFormat

/-- Whether the log takes a record. -/
def keeps (c : Config) (r : Log.Record) : Bool := decide ((Log.Level.ofName c.logLevel).rank ≤ r.level.rank)

end Config

end FibTiming
