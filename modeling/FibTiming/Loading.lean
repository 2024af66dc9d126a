import FibTiming.Files
import FibTiming.Suite
import FibTiming.SuiteFile.Document
import FibTiming.SuiteFile.Setting

/-!
# Loading suites

A suite is loaded from a list of paths.  All files are found first, then read and checked one after the other.
The local values of all files are collected before the benchmarks of all files are made, so it does not matter
which file a local value stands in.  The benchmarks are checked as a suite at the end.
-/

namespace FibTiming

open SuiteFile

/-- Why a suite cannot be loaded. -/
inductive LoadError where
  | inaccessible (path : String) (cause : FileCause)
  | noFiles (paths : List String)
  | malformed (file : String)
  | undeclared (file : String) (ds : List Diagnostic)
  | nestedLocals (d : Diagnostic)
  | duplicateLocal (name : String) (region : Region)
  | localFault (name : String) (ds : List Diagnostic)
  | missingArgument (benchmark argument : String)
  | setting (benchmark argument : String) (e : SettingError)
  | fault (f : BenchmarkFault)
  | noBenchmarks (paths : List String)
  | reported (text : String)
deriving Repr, Inhabited

/-- The wording of a failed load. -/
def LoadError.message : LoadError → String
  | inaccessible path cause => s!"error accessing path {path}: " ++ (FileError.mk "stat" path cause).message
  | noFiles paths => "no .hcl suite files found in " ++ Log.bracketed paths
  | malformed file => s!"failed to parse HCL file {file}"
  | undeclared file ds => s!"failed to decode HCL file {file}: " ++ diagnosticsMessage ds
  | nestedLocals d => "failed to decode locals: " ++ d.message
  | duplicateLocal name region => s!"duplicate local value '{name}' at " ++ region.text
  | localFault name ds => s!"invalid local value '{name}': " ++ diagnosticsMessage ds
  | missingArgument benchmark argument =>
    s!"failed to decode benchmark '{benchmark}': missing required argument '{argument}'"
  | setting benchmark argument e => s!"benchmark '{benchmark}', attribute '{argument}': " ++ e.message
  | fault f => f.message
  | noBenchmarks paths => "suite contains no benchmarks in " ++ Log.bracketed paths
  | reported text => text

/-! ### Finding the files -/

/-- How a path is looked up. -/
abbrev Lookup := String → Except FileCause Node

/-- The ending of the names of suite files. -/
def suiteEnding : String := ".hcl"

/-- The suite files a path stands for: all those below a directory, or the file itself. -/
def filesOf (lookup : Lookup) (path : String) : Except LoadError (List String) :=
  match lookup path with
  | .error cause => .error (.inaccessible path cause)
  | .ok (.file _) => .ok [path]
  | .ok node => .ok (node.findFrom path suiteEnding)

/-- Adds paths behind those that are already there, each once. -/
def addNew (known : List String) : List String → List String
  | [] => known
  | p :: rest => if p ∈ known then addNew known rest else addNew (known ++ [p]) rest

/-- The suite files that a list of paths stands for, each once, behind those already found. -/
def discover (lookup : Lookup) (found : List String) : List String → Except LoadError (List String)
  | [] => .ok found
  | path :: rest =>
    match filesOf lookup path with
    | .error e => .error e
    | .ok files => discover lookup (addNew found files) rest

/-! ### Reading the files -/

/-- What a suite file of the given content declares. -/
def readDocument (file content : String) : Except LoadError Document :=
  match Body.read? file content with
  | none => .error (.malformed file)
  | some body =>
    match Document.ofBody body with
    | .error ds => .error (.undeclared file ds)
    | .ok d => .ok d

/-- What a suite file declares; a file that cannot be looked at counts as malformed. -/
def documentAt (lookup : Lookup) (file : String) : Except LoadError Document :=
  match lookup file with
  | .ok (.file content) => readDocument file content
  | _ => .error (.malformed file)

/-- What the files of a list declare, up to the first one that cannot be read. -/
def readDocuments (lookup : Lookup) : List String → Except LoadError (List Document)
  | [] => .ok []
  | file :: rest =>
    match documentAt lookup file with
    | .error e => .error e
    | .ok d =>
      match readDocuments lookup rest with
      | .error e => .error e
      | .ok ds => .ok (d :: ds)

/-! ### Local values -/

/-- The local values that are known, in the order of their names. -/
abbrev Locals := List (String × Value)

/-- Adds the attributes of a block to the local values; they are evaluated without any variables. -/
def addLocals (known : Locals) : List Attribute → Except LoadError Locals
  | [] => .ok known
  | a :: rest =>
    if (Value.valueAt? a.name known).isSome then .error (.duplicateLocal a.name a.nameRegion)
    else
      match a.value.eval .none with
      | (v, []) => addLocals (Value.putEntry a.name v known) rest
      | (_, ds) => .error (.localFault a.name ds)

/-- Adds the blocks of a list to the local values. -/
def addLocalsBlocks (known : Locals) : List LocalsBlock → Except LoadError Locals
  | [] => .ok known
  | b :: rest =>
    match b.nested with
    | some (kind, region) =>
      .error (.nestedLocals ⟨region, s!"Unexpected {Text.quote kind} block", "Blocks are not allowed here."⟩)
    | none =>
      match addLocals known b.attributes with
      | .error e => .error e
      | .ok known => addLocalsBlocks known rest

/-- The local values of all documents. -/
def collectLocals (ds : List Document) : Except LoadError Locals := addLocalsBlocks [] (ds.flatMap (·.locals))

/-- An order in which the local values can be visited; the map that holds them does not settle it. -/
structure Visiting where
  order : Locals → Locals
  perm : ∀ locals, (order locals).Perm locals

/-- The order of their names. -/
def Visiting.byName : Visiting := ⟨id, fun _ => .refl _⟩

/-- The scope of the attributes of benchmarks: one variable, `local`, with the local values under their composed names.
Where two names are composed to one, the value that is visited last stays. -/
def localScope (visiting : Visiting) (locals : Locals) : Scope :=
  let entries := (visiting.order locals).foldl (fun es l => Value.putEntry (Text.composed l.1) l.2 es) []
  { levels := [[("local", .object entries)]] }

/-! ### Benchmarks -/

namespace SuiteFile.BenchmarkBlock

/-- The number of repetitions a block asks for, zero when it does not say; it cannot ask for less than one. -/
def repetitionsOf (b : BenchmarkBlock) (scope : Scope) : Except LoadError Int :=
  match b.repetitions with
  | none => .ok 0
  | some e =>
    match e.setting scope signedOf with
    | .error e => .error (.setting b.name "repeat" e)
    | .ok n => if n < 1 then .error (.fault (.tooFewRepetitions b.name n)) else .ok n

/-- The unit a block asks for, the empty text when it does not say. -/
def unitOf (b : BenchmarkBlock) (scope : Scope) : Except LoadError String :=
  match b.unit with
  | none => .ok ""
  | some e => (e.setting scope textOf).mapError (.setting b.name "unit")

/-- The benchmark a block stands for. -/
def toBenchmark (b : BenchmarkBlock) (scope : Scope) : Except LoadError Benchmark :=
  match b.n, b.expect with
  | none, _ => .error (.missingArgument b.name "n")
  | _, none => .error (.missingArgument b.name "expect")
  | some n, some expect =>
    match n.setting scope signedOf with
    | .error e => .error (.setting b.name "n" e)
    | .ok n =>
      match expect.setting scope unsignedOf with
      | .error e => .error (.setting b.name "expect" e)
      | .ok expect =>
        match b.unitOf scope with
        | .error e => .error e
        | .ok unit =>
          match b.repetitionsOf scope with
          | .error e => .error e
          | .ok count => .ok ⟨b.name, b.algorithm, n, expect, unit, count⟩

/-- The fields that every record about a block starts with. -/
def fields (b : BenchmarkBlock) : List (String × Log.Value) :=
  [("algorithm", .text b.algorithm), ("benchmark", .text b.name)]

/-- Records up to and with those of the first step that fails. -/
def untilFailure : List (List Log.Record × Bool) → List Log.Record
  | [] => []
  | (rs, ok) :: rest => if ok then rs ++ untilFailure rest else rs

/-- What is logged while a block is made a benchmark. -/
def records (b : BenchmarkBlock) (scope : Scope) : List Log.Record :=
  let start : Log.Record := ⟨.debug, "Translating HCL benchmark to internal config model.", b.fields⟩
  let step {α : Type} (take : Value → Except SettingError α) (want : Ty) (e : Expr) : List Log.Record × Bool :=
    (e.settingRecords scope b.fields want, (e.setting scope take).isOk)
  match b.n, b.expect with
  | some n, some expect =>
    start :: untilFailure ([step signedOf .number n, step unsignedOf .number expect]
      ++ b.unit.toList.map (step textOf .text) ++ b.repetitions.toList.map (step signedOf .number))
  | _, _ => [start]

end SuiteFile.BenchmarkBlock

/-- The benchmarks of a list of blocks, up to the first one that fails. -/
def toBenchmarks (scope : Scope) : List BenchmarkBlock → Except LoadError (List Benchmark)
  | [] => .ok []
  | b :: rest =>
    match b.toBenchmark scope with
    | .error e => .error e
    | .ok x =>
      match toBenchmarks scope rest with
      | .error e => .error e
      | .ok xs => .ok (x :: xs)

/-- The suite of a list of benchmarks that were loaded from the given paths. -/
def checkLoaded (paths : List String) (bs : List Benchmark) : Except LoadError Suite :=
  if bs.isEmpty then .error (.noBenchmarks paths)
  else
    let c := (Suite.mk bs).check
    match c.fault with
    | some f => .error (.fault f)
    | none => .ok c.value

/-- The suite that documents from the given paths declare. -/
def suiteOf (visiting : Visiting) (paths : List String) (ds : List Document) : Except LoadError Suite :=
  match collectLocals ds with
  | .error e => .error e
  | .ok locals =>
    match toBenchmarks (localScope visiting locals) (ds.flatMap (·.benchmarks)) with
    | .error e => .error e
    | .ok bs => checkLoaded paths bs

/-- The documents of all suite files that a list of paths stands for. -/
def findDocuments (lookup : Lookup) (paths : List String) : Except LoadError (List Document) :=
  match discover lookup [] paths with
  | .error e => .error e
  | .ok [] => .error (.noFiles paths)
  | .ok files => readDocuments lookup files

/-- The suite that a list of paths stands for. -/
def loadSuite (visiting : Visiting) (lookup : Lookup) (paths : List String) : Except LoadError Suite :=
  match findDocuments lookup paths with
  | .error e => .error e
  | .ok ds => suiteOf visiting paths ds

/-! ### What is logged -/

/-- What is logged while the blocks of a list are made benchmarks, up to the first one that fails. -/
def blockRecords (scope : Scope) (bs : List BenchmarkBlock) : List Log.Record :=
  BenchmarkBlock.untilFailure (bs.map fun b => (b.records scope, (b.toBenchmark scope).isOk))

/-- What is logged while documents become a suite. -/
def suiteRecords (visiting : Visiting) (paths : List String) (ds : List Document) : List Log.Record :=
  match collectLocals ds with
  | .error _ => []
  | .ok locals =>
    ⟨.debug, "Locals resolved.", [("count", .int locals.length)]⟩
      :: blockRecords (localScope visiting locals) (ds.flatMap (·.benchmarks))
      ++ match suiteOf visiting paths ds with
        | .error _ => []
        | .ok s => [⟨.debug, "HCL loading complete.", [("benchmarks", .int s.benchmarks.length)]⟩]

/-- What is logged while a suite is loaded. -/
def loadRecords (visiting : Visiting) (lookup : Lookup) (paths : List String) : List Log.Record :=
  ⟨.debug, "HCL loader started.", [("path_count", .int paths.length)]⟩ ::
    match discover lookup [] paths with
    | .error _ => []
    | .ok [] => []
    | .ok files =>
      ⟨.debug, "Discovered HCL files.", [("count", .int files.length)]⟩ ::
        match readDocuments lookup files with
        | .error _ => []
        | .ok ds => suiteRecords visiting paths ds

end FibTiming
