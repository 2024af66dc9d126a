import FibTiming.CommandLine.Arguments
import FibTiming.Config
import FibTiming.Registry

/-!
# Requests

What a command line asks for: a run with a configuration, or an explanation of the flags.  Every other command line
is refused with the first thing that is wrong with it.
-/

namespace FibTiming.CommandLine

/-- Why a command line is refused. -/
inductive UsageError where
  | argument (e : ArgumentError)
  | logFormat
  | logLevel
  | clock (given : String)
  | color (given : String)
  | algorithm (given : String)
  | unit (given : String)
  | repetitions (count : Int)
  | fault (f : BenchmarkFault)
  | requiresAlgorithm (f : Flag)
  | config (e : ConfigError)
deriving Repr, DecidableEq, Inhabited

/-- The wording of a refusal. -/
def UsageError.message : UsageError → String
  | argument e => e.message
  | logFormat => "invalid log-format: must be 'text' or 'json'"
  | logLevel => "invalid log-level: must be 'debug', 'info', 'warn', or 'error'"
  | clock given => ClockKind.unknownSetting given
  | color given => Report.ColorMode.unknownSetting given
  | algorithm given => s!"unknown algorithm '{given}': must be one of " ++ Log.bracketed Registry.core.names
  | unit given => TimeUnit.unknownName given
  | repetitions count => s!"repeat must be at least 1, got {count}"
  | fault f => f.message
  | requiresAlgorithm f => s!"-{f.name} requires -algorithm"
  | config e => e.message

/-- The explanation of the command line. -/
def usageText : String := "
fibbench - Times Fibonacci algorithms and checks their results.

Usage:
  fibbench [options] [SUITE_PATH...]

Arguments:
  SUITE_PATH
    Path to a single .hcl file or a directory containing .hcl files.
    Without any path the built-in suite runs.

Exit codes:
  0  every benchmark matched its expected value
  1  a benchmark mismatched or failed
  2  invalid usage

Options:
" ++ String.join (Flag.all.map Flag.explanation)

/-- What is printed about a refusal: an argument that cannot be read is reported with the explanation. -/
def UsageError.output : UsageError → String
  | argument e => e.message ++ "\n" ++ usageText
  | _ => ""

/-! ### The ad-hoc benchmark -/

/-- The name of the ad-hoc benchmark of an algorithm at an index. -/
def adHocName (algorithm : String) (n : Int) : String := s!"{algorithm}({n})"

/-- The benchmark that the flags describe.  The expected answer is the right one when none is given. -/
def adHocBenchmark (algorithm : String) (n : Int) (expect : Option UInt64) (unit : String) (count : Int) :
    Except UsageError Benchmark :=
  if algorithm ∉ Registry.core.names then .error (.algorithm algorithm)
  else
    match TimeUnit.ofName? unit with
    | none => .error (.unit unit)
    | some u =>
      if count < 1 then .error (.repetitions count)
      else
        match (Benchmark.mk (adHocName algorithm n) algorithm n (expect.getD 0) u.name count).check with
        | ⟨_, some f⟩ => .error (.fault f)
        | ⟨b, none⟩ => .ok { b with expect := expect.getD (Iterative.compute n) }

/-- The ad-hoc benchmark, which is asked for by naming its algorithm; without one its other flags are refused. -/
def Flags.adHoc (fs : Flags) : Except UsageError (Option Benchmark) :=
  if fs.algorithm ≠ "" then
    (adHocBenchmark fs.algorithm fs.index fs.expect fs.unitName fs.runs).map some
  else
    match fs.adHocGiven with
    | [] => .ok none
    | f :: _ => .error (.requiresAlgorithm f)

/-! ### The configuration -/

/-- The names of the formats of the log. -/
def logFormats : List String := ["text", "json"]

/-- The names of the levels of the log. -/
def logLevels : List String := ["debug", "info", "warn", "error"]

/-- The suite paths: the values of both flags, when they are not empty, before those that stand alone. -/
def Flags.paths (fs : Flags) (positional : List String) : List String :=
  (if fs.suite = "" then [] else [fs.suite]) ++ (if fs.shorthand = "" then [] else [fs.shorthand]) ++ positional

/-- The configuration that the flags and paths ask for.  Names of formats, levels and clocks count in any case. -/
def Flags.toConfig (fs : Flags) (positional : List String) : Except UsageError Config :=
  let format := Text.lower fs.logFormat
  let level := Text.lower fs.logLevel
  let clockName := Text.lower fs.clock
  if format ∉ logFormats then .error .logFormat
  else if level ∉ logLevels then .error .logLevel
  else
    match ClockKind.ofName? clockName with
    | none => .error (.clock clockName)
    | some clock =>
      match Report.ColorMode.ofName? fs.color with
      | none => .error (.color fs.color)
      | some color =>
        match fs.adHoc with
        | .error e => .error e
        | .ok adHoc =>
          (Config.check
            { suitePaths := fs.paths positional, adHoc := adHoc, clock := clock.name, workers := fs.workers
              color := color.name, reportPath := fs.report, logFormat := format, logLevel := level }).mapError .config

/-! ### Reading a command line -/

/-- What comes of a command line. -/
inductive Request where
  | help
  | refused (e : UsageError)
  | run (c : Config)
deriving Repr, DecidableEq, Inhabited

/-- What a list of arguments asks for. -/
def request (args : List String) : Request :=
  match readSettings args with
  | .error .help => .help
  | .error e => .refused (.argument e)
  | .ok (settings, positional) =>
    match (Flags.ofSettings settings).toConfig positional with
    | .error e => .refused e
    | .ok c => .run c

/-- What is printed about a command line before anything runs. -/
def Request.output : Request → String
  | help => usageText
  | refused e => e.output
  | run _ => ""

end FibTiming.CommandLine
