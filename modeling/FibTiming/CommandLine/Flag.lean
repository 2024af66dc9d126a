import FibTiming.Number.IntegerText
import FibTiming.Text.Quoted

/-!
# Flags

The flags of the command line, the settings they make, and the text that explains them.  A flag takes a text, a signed
integer or an unsigned integer; `Flag.read` makes a setting of a flag and the text of its value.
-/

namespace FibTiming.CommandLine

open Number

/-- The flags, in the order in which they are explained. -/
inductive Flag where
  | algorithm
  | clock
  | color
  | expect
  | logFormat
  | logLevel
  | n
  | repetitions
  | report
  | shorthand
  | suite
  | unit
  | workers
deriving Repr, DecidableEq, Inhabited

/-- A flag together with its value. -/
inductive Setting where
  | algorithm (name : String)
  | clock (name : String)
  | color (mode : String)
  | expect (answer : UInt64)
  | logFormat (name : String)
  | logLevel (name : String)
  | n (index : Int)
  | repetitions (count : Int)
  | report (path : String)
  | shorthand (path : String)
  | suite (path : String)
  | unit (name : String)
  | workers (count : Int)
deriving Repr, DecidableEq, Inhabited

/-- The flag of a setting. -/
def Setting.flag : Setting → Flag
  | algorithm _ => .algorithm
  | clock _ => .clock
  | color _ => .color
  | expect _ => .expect
  | logFormat _ => .logFormat
  | logLevel _ => .logLevel
  | n _ => .n
  | repetitions _ => .repetitions
  | report _ => .report
  | shorthand _ => .shorthand
  | suite _ => .suite
  | unit _ => .unit
  | workers _ => .workers

namespace Flag

/-- All flags, in the order of their names. -/
def all : List Flag :=
  [algorithm, clock, color, expect, logFormat, logLevel, n, repetitions, report, shorthand, suite, unit, workers]

/-- The name of a flag on the command line. -/
def name : Flag → String
  | algorithm => "algorithm"
  | clock => "clock"
  | color => "color"
  | expect => "expect"
  | logFormat => "log-format"
  | logLevel => "log-level"
  | n => "n"
  | repetitions => "repeat"
  | report => "report"
  | shorthand => "s"
  | suite => "suite"
  | unit => "unit"
  | workers => "workers"

/-- The flag of the given name. -/
def ofName? (s : String) : Option Flag := all.find? fun f => f.name == s

/-- The setting that a flag makes of a text. -/
def read (f : Flag) (value : String) : Except IntegerFault Setting :=
  match f with
  | algorithm => .ok (.algorithm value)
  | clock => .ok (.clock value)
  | color => .ok (.color value)
  | expect => (readUnsigned value.toList).map fun i => .expect (UInt64.ofNat i)
  | logFormat => .ok (.logFormat value)
  | logLevel => .ok (.logLevel value)
  | n => (readSigned value.toList).map .n
  | repetitions => (readSigned value.toList).map .repetitions
  | report => .ok (.report value)
  | shorthand => .ok (.shorthand value)
  | suite => .ok (.suite value)
  | unit => .ok (.unit value)
  | workers => (readSigned value.toList).map .workers

/-- The word for the values of a flag. -/
def valueWord : Flag → String
  | n | repetitions | workers => "int"
  | expect => "uint"
  | _ => "string"

/-- What a flag is for. -/
def purpose : Flag → String
  | algorithm => "Run a single ad-hoc benchmark with this algorithm: 'naive', 'accumulator' or 'iterative'."
  | clock => "Clock to measure with. Options: 'process', 'thread' or 'wall'."
  | color => "Colorize status lines. Options: 'auto', 'always' or 'never'."
  | expect => "Expected result of the ad-hoc benchmark. Defaults to the iterative algorithm's answer."
  | logFormat => "Log output format. Options: 'text' or 'json'."
  | logLevel => "Set the logging level. Options: 'debug', 'info', 'warn', 'error'."
  | n => "Input of the ad-hoc benchmark."
  | repetitions => "Number of timed runs of the ad-hoc benchmark."
  | report => "Write a YAML report of all results to this path."
  | shorthand => "Path to the suite file or directory (shorthand)."
  | suite => "Path to the suite file or directory."
  | unit => "Time unit of the ad-hoc benchmark: 'ns', 'us', 'ms' or 's'."
  | workers => "Number of benchmarks to run concurrently."

end Flag

/-- The values of all flags.  The flags of the ad-hoc benchmark also tell whether they were given. -/
structure Flags where
  algorithm : String := ""
  clock : String := "process"
  color : String := "auto"
  expect : Option UInt64 := none
  logFormat : String := "text"
  logLevel : String := "warn"
  n : Option Int := none
  repetitions : Option Int := none
  report : String := ""
  shorthand : String := ""
  suite : String := ""
  unit : Option String := none
  workers : Int := 1
deriving Repr, DecidableEq, Inhabited

namespace Flags

/-- The index of the ad-hoc benchmark. -/
def index (fs : Flags) : Int := fs.n.getD 39

/-- The number of runs of the ad-hoc benchmark. -/
def runs (fs : Flags) : Int := fs.repetitions.getD 1

/-- The name of the unit of the ad-hoc benchmark. -/
def unitName (fs : Flags) : String := fs.unit.getD "ms"

/-- The values after a setting; a later setting of a flag replaces an earlier one. -/
def set (fs : Flags) : Setting → Flags
  | .algorithm v => { fs with algorithm := v }
  | .clock v => { fs with clock := v }
  | .color v => { fs with color := v }
  | .expect v => { fs with expect := some v }
  | .logFormat v => { fs with logFormat := v }
  | .logLevel v => { fs with logLevel := v }
  | .n v => { fs with n := some v }
  | .repetitions v => { fs with repetitions := some v }
  | .report v => { fs with report := v }
  | .shorthand v => { fs with shorthand := v }
  | .suite v => { fs with suite := v }
  | .unit v => { fs with unit := some v }
  | .workers v => { fs with workers := v }

/-- The values after a list of settings. -/
def ofSettings (ss : List Setting) : Flags := ss.foldl set {}

/-- The flags of the ad-hoc benchmark that were given, apart from that of its algorithm. -/
def adHocGiven (fs : Flags) : List Flag :=
  (if fs.n.isSome then [.n] else []) ++ (if fs.expect.isSome then [.expect] else [])
    ++ (if fs.unit.isSome then [.unit] else []) ++ (if fs.repetitions.isSome then [.repetitions] else [])

/-- The value of a flag as it is mentioned in its explanation, empty when there is nothing to mention. -/
def mentioned (fs : Flags) : Flag → String
  | .algorithm => quotedOrEmpty fs.algorithm
  | .clock => quotedOrEmpty fs.clock
  | .color => quotedOrEmpty fs.color
  | .expect => ""
  | .logFormat => quotedOrEmpty fs.logFormat
  | .logLevel => quotedOrEmpty fs.logLevel
  | .n => toString fs.index
  | .repetitions => toString fs.runs
  | .report => quotedOrEmpty fs.report
  | .shorthand => quotedOrEmpty fs.shorthand
  | .suite => quotedOrEmpty fs.suite
  | .unit => quotedOrEmpty fs.unitName
  | .workers => toString fs.workers
where
  /-- A text in quotes, or nothing for the empty text. -/
  quotedOrEmpty (s : String) : String := if s = "" then "" else Text.quote s

end Flags

/-- The lines that explain a flag, with the value it has when it is not given. -/
def Flag.explanation (f : Flag) : String :=
  let value := ({} : Flags).mentioned f
  s!"  -{f.name} {f.valueWord}\n    \t" ++ f.purpose ++ (if value = "" then "" else s!" (default {value})") ++ "\n"

end FibTiming.CommandLine
