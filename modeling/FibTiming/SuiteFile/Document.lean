import FibTiming.SuiteFile.Body
import FibTiming.SuiteFile.Diagnostic
import FibTiming.Text.Distance
import FibTiming.Text.Quoted

/-!
# What a suite file declares

A suite file holds blocks of two types: `locals`, whose attributes are values with names of their own, and
`benchmark`, with the labels algorithm and name and the attributes `n`, `expect`, `unit` and `repeat`.  Everything
else is reported: first wrong labels, then what does not belong at the top, then what does not belong in the
benchmarks.
-/

namespace FibTiming.SuiteFile

/-- The labels and attributes of a type of blocks; no attributes are listed when all are allowed. -/
structure BlockShape where
  kind : String
  labels : List String
deriving Repr, DecidableEq, Inhabited

/-- The names a body can hold. -/
structure BodyShape where
  attributes : List String
  blocks : List BlockShape

/-- The shape of a benchmark block. -/
def benchmarkShape : BlockShape := ⟨"benchmark", ["algorithm", "name"]⟩

/-- The shape of a block of local values. -/
def localsShape : BlockShape := ⟨"locals", []⟩

/-- The shape of a suite file. -/
def fileShape : BodyShape := ⟨[], [benchmarkShape, localsShape]⟩

/-- The shape of the body of a benchmark. -/
def benchmarkBodyShape : BodyShape := ⟨["n", "expect", "unit", "repeat"], []⟩

/-- What is wrong with the labels of a block, if anything is. -/
def labelFault? (shape : BlockShape) (b : Block) : Option Diagnostic :=
  let wanted := shape.labels.length
  let listed := String.intercalate ", " shape.labels
  match b.labels[wanted]? with
  | some extra =>
    if wanted = 0 then
      (b.labels.head?).map fun l =>
        ⟨l.region, s!"Extraneous label for {b.kind}", s!"No labels are expected for {b.kind} blocks."⟩
    else
      some ⟨extra.region, s!"Extraneous label for {b.kind}",
        s!"Only {wanted} labels ({listed}) are expected for {b.kind} blocks."⟩
  | none =>
    (shape.labels[b.labels.length]?).map fun missing =>
      ⟨b.brace, s!"Missing {missing} for {b.kind}", s!"All {b.kind} blocks must have {wanted} labels ({listed})."⟩

/-- The shape of the blocks of a type. -/
def BodyShape.block? (shape : BodyShape) (kind : String) : Option BlockShape := shape.blocks.find? (·.kind == kind)

/-- A hint at a name close to the one that was given. -/
def nearHint? (given : String) (candidates : List String) : Option String :=
  (Text.closest? given candidates).map fun y => s!" Did you mean {Text.quote y}?"

/-- The attributes of a body that its shape does not have. -/
def argumentFaults (shape : BodyShape) (b : Body) : List Diagnostic :=
  let given := b.attributes.map (·.name)
  let free := shape.attributes.filter fun n => !given.contains n
  (b.attributes.filter fun a => !shape.attributes.contains a.name).map fun a =>
    let hint := match nearHint? a.name free with
      | some h => h
      | none =>
        if (shape.block? a.name).isSome then s!" Did you mean to define a block of type {Text.quote a.name}?" else ""
    ⟨a.nameRegion, "Unsupported argument", s!"An argument named {Text.quote a.name} is not expected here." ++ hint⟩

/-- The blocks of a body whose type its shape does not have. -/
def blockFaults (shape : BodyShape) (b : Body) : List Diagnostic :=
  (b.blocks.filter fun k => (shape.block? k.kind).isNone).map fun k =>
    let hint := match nearHint? k.kind (shape.blocks.map (·.kind)) with
      | some h => h
      | none =>
        if shape.attributes.contains k.kind then
          s!" Did you mean to define argument {Text.quote k.kind}? If so, use the equals sign to assign it a value."
        else ""
    ⟨k.kindRegion, "Unsupported block type", s!"Blocks of type {Text.quote k.kind} are not expected here." ++ hint⟩

/-- The blocks whose labels are wrong. -/
def labelFaults (shape : BodyShape) (b : Body) : List Diagnostic :=
  b.blocks.filterMap fun k => (shape.block? k.kind).bind fun s => labelFault? s k

/-- Everything in a body that does not fit its shape; the bodies of its blocks are not looked at. -/
def bodyFaults (shape : BodyShape) (b : Body) : List Diagnostic :=
  labelFaults shape b ++ argumentFaults shape b ++ blockFaults shape b

/-- The blocks of a type whose labels are right. -/
def blocksOf (shape : BlockShape) (b : Body) : List Block :=
  b.blocks.filter fun k => k.kind == shape.kind && (labelFault? shape k).isNone

/-- A block of local values. -/
structure LocalsBlock where
  attributes : List Attribute
  /-- The type and the region of the first block inside, which does not belong there. -/
  nested : Option (String × Region)

/-- A benchmark block. -/
structure BenchmarkBlock where
  algorithm : String
  name : String
  n : Option Expr
  expect : Option Expr
  unit : Option Expr
  repetitions : Option Expr

/-- The value of an attribute. -/
def Body.value? (b : Body) (name : String) : Option Expr := (b.attributes.find? (·.name == name)).map (·.value)

/-- What a block of local values declares. -/
def LocalsBlock.ofBlock (b : Block) : LocalsBlock :=
  ⟨b.body.attributes, (b.body.blocks.head?).map fun k => (k.kind, k.kindRegion)⟩

/-- What a benchmark block declares. -/
def BenchmarkBlock.ofBlock (b : Block) : BenchmarkBlock :=
  let label (i : Nat) : String := ((b.labels[i]?).map (·.text)).getD ""
  { algorithm := label 0
    name := label 1
    n := b.body.value? "n"
    expect := b.body.value? "expect"
    unit := b.body.value? "unit"
    repetitions := b.body.value? "repeat" }

/-- What a suite file declares. -/
structure Document where
  locals : List LocalsBlock
  benchmarks : List BenchmarkBlock

/-- What the body of a suite file declares, or everything in it that does not belong there. -/
def Document.ofBody (b : Body) : Except (List Diagnostic) Document :=
  let benchmarks := blocksOf benchmarkShape b
  let faults := bodyFaults fileShape b ++ benchmarks.flatMap fun k => bodyFaults benchmarkBodyShape k.body
  if faults.isEmpty then
    .ok ⟨(blocksOf localsShape b).map .ofBlock, benchmarks.map .ofBlock⟩
  else .error faults

end FibTiming.SuiteFile
