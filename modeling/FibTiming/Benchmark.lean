import FibTiming.Fibonacci
import FibTiming.TimeUnit

/-!
# Benchmarks

A benchmark asks for the Fibonacci number at an index, by a named algorithm, and says which answer is expected,
in which unit its times are shown and how often the computation is repeated.  `Benchmark.check` finds the first
fault of a benchmark and fills in what was left out; it reports what the benchmark looks like afterwards, also
when it has a fault.
-/

namespace FibTiming

/-- One timed computation and its expected answer. -/
structure Benchmark where
  name : String
  algorithm : String
  n : Int
  expect : UInt64
  unit : String
  repetitions : Int
deriving Repr, DecidableEq, Inhabited

/-- What can be wrong with a benchmark. -/
inductive BenchmarkFault where
  | emptyName
  | noAlgorithm (name : String)
  | negativeIndex (name : String) (n : Int)
  | overflow (name : String) (n : Int)
  | unknownUnit (name unit : String)
  | negativeRepetitions (name : String) (count : Int)
  | duplicateName (name : String)
  | tooFewRepetitions (name : String) (count : Int)
deriving Repr, DecidableEq, Inhabited

/-- The wording of a fault. -/
def BenchmarkFault.message : BenchmarkFault → String
  | emptyName => "invalid benchmark: name must not be empty"
  | noAlgorithm name => s!"invalid benchmark: benchmark '{name}' has no algorithm"
  | negativeIndex name n => s!"invalid benchmark: benchmark '{name}' has negative n {n}"
  | overflow name n => s!"benchmark '{name}': n {n} exceeds {maxIndex}: fibonacci term overflows uint64"
  | unknownUnit name unit => s!"benchmark '{name}': " ++ TimeUnit.unknownName unit
  | negativeRepetitions name count => s!"invalid benchmark: benchmark '{name}' has negative repeat {count}"
  | duplicateName name => s!"invalid benchmark: duplicate benchmark name '{name}'"
  | tooFewRepetitions name count => s!"invalid benchmark: benchmark '{name}' needs repeat >= 1, got {count}"

/-- What a check leaves behind: the value afterwards and the first fault, if there is one. -/
structure Checked (α : Type) where
  value : α
  fault : Option BenchmarkFault
deriving Repr, DecidableEq

namespace Benchmark

/-- The fault of a benchmark's name, algorithm or index, if there is one. -/
def headFault (b : Benchmark) : Option BenchmarkFault :=
  if b.name = "" then some .emptyName
  else if b.algorithm = "" then some (.noAlgorithm b.name)
  else if b.n < 0 then some (.negativeIndex b.name b.n)
  else if b.n > maxIndex then some (.overflow b.name b.n)
  else none

/-- Checks the fields in order and fills in the default unit and a single repetition.  The unit is filled in
before the repetitions are looked at. -/
def check (b : Benchmark) : Checked Benchmark :=
  match b.headFault with
  | some fault => ⟨b, some fault⟩
  | none =>
    match TimeUnit.ofName? b.unit with
    | none => ⟨b, some (.unknownUnit b.name b.unit)⟩
    | some u =>
      let b := { b with unit := u.name }
      if b.repetitions < 0 then ⟨b, some (.negativeRepetitions b.name b.repetitions)⟩
      else if b.repetitions = 0 then ⟨{ b with repetitions := 1 }, none⟩
      else ⟨b, none⟩

end Benchmark

end FibTiming
