import FibTiming.Benchmark

/-!
# Suites

A suite is a list of benchmarks with different names.  `Suite.check` checks the benchmarks one after the other
and stops at the first that has a fault or repeats an earlier name; those before it stay filled in.
-/

namespace FibTiming

/-- A list of benchmarks to run. -/
structure Suite where
  benchmarks : List Benchmark
deriving Repr, DecidableEq, Inhabited

namespace Suite

/-- Checks the benchmarks of a list, given the names that occurred before it. -/
def checkList (seen : List String) : List Benchmark → Checked (List Benchmark)
  | [] => ⟨[], none⟩
  | b :: rest =>
    let c := b.check
    match c.fault with
    | some fault => ⟨c.value :: rest, some fault⟩
    | none =>
      if c.value.name ∈ seen then ⟨c.value :: rest, some (.duplicateName c.value.name)⟩
      else
        let r := checkList (c.value.name :: seen) rest
        ⟨c.value :: r.value, r.fault⟩

/-- Checks every benchmark and that no name occurs twice. -/
def check (s : Suite) : Checked Suite :=
  let c := checkList [] s.benchmarks
  ⟨⟨c.value⟩, c.fault⟩

/-- The suite that runs when no other is given. -/
def builtIn : Suite := ⟨[
  ⟨"fib", "naive", 39, 102334155, "ms", 1⟩,
  ⟨"faster_fib", "accumulator", 39, 102334155, "us", 1⟩,
  ⟨"iter_fib", "iterative", 39, 102334155, "us", 1⟩,
  ⟨"python3_fib", "naive", 29, 832040, "ms", 1⟩,
  ⟨"python3_faster_fib", "accumulator", 39, 102334155, "us", 1⟩]⟩

end Suite

end FibTiming
