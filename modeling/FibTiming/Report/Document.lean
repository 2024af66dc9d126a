import FibTiming.Report.Scalar
import FibTiming.Result

/-!
# Reports

A report says whether all benchmarks passed and holds one record for each result.  It is written as a document of
named fields; the field of an error is left out when there is none, or when its text is empty.
-/

namespace FibTiming.Report

/-- A field of a record. -/
inductive Field where
  | text (s : String)
  | int (n : Int)
  | flag (b : Bool)
deriving Repr, DecidableEq, Inhabited

/-- What a report says about one result.  Times are nanoseconds. -/
structure Record where
  name : String
  algorithm : String
  n : Int
  expect : UInt64
  got : UInt64
  passed : Bool
  unit : String
  clock : String
  elapsed : Int64
  least : Int64
  mean : Int64
  runs : Int
  error : String
deriving Repr, DecidableEq, Inhabited

/-- A report. -/
structure Document where
  passed : Bool
  records : List Record
deriving Repr, DecidableEq, Inhabited

/-- The record of a result. -/
def Record.ofResult (r : Result) : Record :=
  { name := r.name, algorithm := r.algorithm, n := r.n, expect := r.expect, got := r.got, passed := r.passed
    unit := r.unit, clock := r.clock, elapsed := r.elapsed, least := r.least, mean := r.mean, runs := r.runs
    error := (r.error.map (·.message)).getD "" }

/-- The report about a list of results. -/
def Document.ofResults (rs : List Result) : Document := ⟨Result.allPassed rs, rs.map .ofResult⟩

/-- A truth value in a report. -/
def flagText (b : Bool) : String := if b then "true" else "false"

/-- The text of a field with the end of its last line. -/
def Field.line : Field → List Char
  | text s => scalarLine s
  | int n => (toString n).toList ++ ['\n']
  | flag b => (flagText b).toList ++ ['\n']

/-- The fields of a record, in order. -/
def Record.fields (r : Record) : List (String × Field) :=
  [("name", .text r.name), ("algorithm", .text r.algorithm), ("n", .int r.n), ("expect", .int r.expect.toNat),
    ("got", .int r.got.toNat), ("passed", .flag r.passed), ("unit", .text r.unit), ("clock", .text r.clock),
    ("elapsed_ns", .int r.elapsed.toInt), ("min_ns", .int r.least.toInt), ("mean_ns", .int r.mean.toInt),
    ("runs", .int r.runs)]
    ++ if r.error = "" then [] else [("error", .text r.error)]

/-- A named field with the end of its last line; the name is a scalar, too. -/
def fieldLine (f : String × Field) : List Char := (scalarLine f.1).dropLast ++ [':', ' '] ++ f.2.line

/-- The lines of a record: the first field stands behind a dash, the others below it. -/
def Record.lines (r : Record) : List Char :=
  match r.fields with
  | [] => []
  | first :: rest => "  - ".toList ++ fieldLine first ++ rest.flatMap fun f => "    ".toList ++ fieldLine f

/-- The text of a report. -/
def Document.render (d : Document) : String :=
  let results := if d.records.isEmpty then " []\n".toList else '\n' :: d.records.flatMap Record.lines
  String.ofList ("passed: ".toList ++ (flagText d.passed).toList ++ "\nresults:".toList ++ results)

end FibTiming.Report
