import FibTiming.SuiteFile.CommonType
import FibTiming.SuiteFile.Operation
import FibTiming.Text.Distance

/-!
# Evaluating expressions

An expression is evaluated in a scope.  Evaluation always gives a value and the list of faults it met; a part that
failed counts as unknown for the rest.  Without any scope there are no variables at all.
-/

namespace FibTiming.SuiteFile

open Number

/-- The variables an expression can use, from the innermost scope to the outermost, and the element of the
innermost splat. -/
structure Scope where
  levels : List (List (String × Value))
  element : Value := .anything

namespace Scope

/-- The scope in which there are no variables at all. -/
def none : Scope := { levels := [] }

/-- The scope with one further level inside. -/
def within (s : Scope) (level : List (String × Value)) : Scope := { s with levels := level :: s.levels }

/-- The value of a variable. -/
def find? (s : Scope) (name : String) : Option Value := s.levels.findSome? fun l => Value.valueAt? name l

/-- The outcome of a variable and the steps from it. -/
def lookup (s : Scope) (name : String) (region : Region) (steps : List Step) : Outcome :=
  match s.find? name with
  | some v => takeSteps v steps
  | .none =>
    if s.levels.isEmpty then fault region "Variables not allowed" "Variables may not be used here."
    else
      let hint := match Text.closest? name (s.levels.flatMap fun l => l.map (·.1)) with
        | some y => s!" Did you mean {Text.quote y}?"
        | .none => ""
      fault region "Unknown variable" (s!"There is no variable named {Text.quote name}." ++ hint)

end Scope

/-! ### Conditionals -/

/-- The outcome of a conditional from the outcomes of its parts.  Only the faults of the chosen result count. -/
def conditionalOutcome (condition yes no : Outcome) (conditionRegion yesRegion noRegion : Region) : Outcome :=
  let isBare : Value → Bool
    | .null .any => true
    | _ => false
  let common? : Option Common :=
    if isBare yes.1 then some (.type no.1.type)
    else if isBare no.1 then some (.type yes.1.type)
    else yes.1.type.commonWith? no.1.type
  match common? with
  | none =>
    let difference := Ty.describeDifference (yes.1.type.depth + 1) yes.1.type no.1.type
    fault (yesRegion.upTo noRegion) "Inconsistent conditional result types"
      s!"The true and false result expressions must have consistent types. {difference}."
  | some common =>
    let unsettled : Value := .unknown common.result
    let report (summary detail : String) : Outcome :=
      (unsettled, condition.2 ++ [⟨conditionRegion, summary, detail⟩])
    let choose (chosen : Outcome) (region : Region) (which : String) : Outcome :=
      match common.adjust chosen.1 with
      | .ok v => (v, condition.2 ++ chosen.2)
      | .error e =>
        (unsettled, condition.2 ++ chosen.2 ++ [⟨region, "Inconsistent conditional result types",
          s!"The {which} result value has the wrong type: {e.message}."⟩])
    if condition.1.isNull then
      report "Null condition" "The condition value is null. Conditions must either be true or false."
    else if !condition.1.isKnown then (unsettled, condition.2)
    else
      match condition.1.toBool with
      | .error _ => report "Incorrect condition type" "The condition expression must be of type bool."
      | .ok true => choose yes yesRegion "true"
      | .ok false => choose no noRegion "false"

/-! ### Objects -/

/-- What has been collected of an object: its entries, the faults, and whether all keys are known. -/
structure Collected where
  entries : List (String × Value) := []
  faults : List Diagnostic := []
  known : Bool := true

namespace Collected

/-- The object, or nothing at all when a key is unknown. -/
def outcome (c : Collected) : Outcome :=
  (if c.known then .object c.entries else .anything, c.faults)

/-- Adds faults. -/
def report (c : Collected) (ds : List Diagnostic) : Collected := { c with faults := c.faults ++ ds }

/-- Adds faults of an item whose key is not known. -/
def lose (c : Collected) (ds : List Diagnostic) : Collected :=
  { c with faults := c.faults ++ ds, known := false }

/-- Adds an item of an object from the outcomes of its key and its value. -/
def item (c : Collected) (key value : Outcome) (keyRegion valueRegion : Region) : Collected :=
  let c := c.report (key.2 ++ value.2)
  if !key.2.isEmpty then c.lose []
  else if key.1.isNull then c.lose [⟨valueRegion, "Null value as key", "Can't use a null value as a key."⟩]
  else
    match key.1.convert .text with
    | .error e => c.lose [⟨keyRegion, "Incorrect key type", s!"Can't use this value as a key: {e.message}."⟩]
    | .ok (.text k) => { c with entries := Value.putEntry k value.1 c.entries }
    | .ok _ => c.lose []

end Collected

/-- The outcome of a key of an object that is not in parentheses: a bare name stands for itself, and a name with
steps is refused. -/
def bareKey? : Expr → Option Outcome
  | .named name _ [] _ => some (.ofText name, [])
  | .named _ _ (_ :: _) region =>
    some (fault region "Ambiguous attribute key" ("If this expression is intended to be a reference, wrap it in "
      ++ "parentheses. If it's instead intended as a literal name containing periods, wrap it in quotes to create a "
      ++ "string literal."))
  | .literal (.null _) _ => some (.ofText "null", [])
  | .literal (.bool b) _ => some (.ofText (if b then "true" else "false"), [])
  | _ => none

/-! ### Iteration -/

/-- The keys and elements of a collection, in order; none when the value is no collection. -/
def Value.pairs? : Value → Option (List (Value × Value))
  | .tuple vs | .list _ vs => some (vs.mapIdx fun i v => (.number (Extended.ofNat i), v))
  | .object es | .map _ es => some (es.map fun e => (.text e.1, e.2))
  | _ => none

/-- Whether values of the type can be iterated over. -/
def Ty.isCollection : Ty → Bool
  | .list _ | .map _ | .tuple _ | .object _ => true
  | _ => false

/-- What a condition says about an element. -/
inductive Inclusion where
  | keep
  | skip
  | unclear
deriving Repr, DecidableEq

/-- What the condition of an iteration says about an element, and the faults; `known` says whether nothing has
been unclear before. -/
def includeElement (known : Bool) (condition : Outcome) (region : Region) : Inclusion × List Diagnostic :=
  let invalid (detail : String) : List Diagnostic := if known then [⟨region, "Invalid 'for' condition", detail⟩] else []
  if condition.1.isNull then (.unclear, condition.2 ++ invalid "The value of the 'if' clause must not be null.")
  else if !condition.1.isKnown then (.unclear, condition.2)
  else
    match condition.1.toBool with
    | .error e => (.unclear, condition.2 ++ invalid s!"The 'if' clause value is invalid: {e.message}.")
    | .ok true => (.keep, condition.2)
    | .ok false => (.skip, condition.2)

/-- The faults that end an iteration before its first element: what is iterated over, and a condition that fails
for elements of which nothing is known.  Otherwise the pairs to iterate over. -/
def startIteration (collection : Outcome) (collectionRegion : Region) (probe : Outcome) (conditionRegion : Region) :
    Except Outcome (List (Value × Value)) :=
  let v := collection.1
  let ends (ds : List Diagnostic) : Except Outcome (List (Value × Value)) := .error (.anything, collection.2 ++ ds)
  if v.isNull then
    ends [⟨collectionRegion, "Iteration over null value",
      "A null value cannot be used as the collection in a 'for' expression."⟩]
  else if v.type == .any then ends []
  else if !v.type.isCollection then
    ends [⟨collectionRegion, "Iteration over non-iterable value",
      s!"A value of type {v.type.name} cannot be used as the collection in a 'for' expression."⟩]
  else
    match v.pairs? with
    | none => ends []
    | some pairs =>
      if probe.1.isNull then
        ends (probe.2 ++ [⟨conditionRegion, "Condition is null", "The value of the 'if' clause must not be null."⟩])
      else
        match probe.1.convert .bool with
        | .error e =>
          ends (probe.2 ++ [⟨conditionRegion, "Invalid 'for' condition", s!"The 'if' clause value is invalid: {e.message}."⟩])
        | .ok _ => if probe.2.isEmpty then .ok pairs else ends probe.2

/-- The values of an iteration, the faults and whether all elements were clear. -/
structure Gathered where
  values : List Value := []
  faults : List Diagnostic := []
  known : Bool := true

/-- The outcome of an iteration that makes a tuple. -/
def Gathered.outcome (g : Gathered) : Outcome := (if g.known then .tuple g.values else .anything, g.faults)

/-- Adds an element to the values of an iteration. -/
def Gathered.element (g : Gathered) (condition value : Outcome) (conditionRegion : Region) : Gathered :=
  match includeElement g.known condition conditionRegion with
  | (.unclear, ds) => { g with faults := g.faults ++ ds, known := false }
  | (.skip, ds) => { g with faults := g.faults ++ ds }
  | (.keep, ds) => { g with values := g.values ++ [value.1], faults := g.faults ++ ds ++ value.2 }

/-- Adds a value to those of its key. -/
def appendAt (key : String) (value : Value) (entries : List (String × Value)) : List (String × Value) :=
  match Value.valueAt? key entries with
  | some (.tuple vs) => Value.putEntry key (.tuple (vs ++ [value])) entries
  | _ => Value.putEntry key (.tuple [value]) entries

/-- Adds an element to the entries of an iteration that makes an object. -/
def Collected.element (c : Collected) (group : Bool) (condition key value : Outcome)
    (conditionRegion keyRegion : Region) : Collected :=
  match includeElement c.known condition conditionRegion with
  | (.unclear, ds) => c.lose ds
  | (.skip, ds) => c.report ds
  | (.keep, ds) =>
    let c := c.report (ds ++ key.2)
    let invalid (detail : String) : List Diagnostic :=
      if c.known then [⟨keyRegion, "Invalid object key", detail⟩] else []
    if key.1.isNull then c.lose (invalid "Key expression in 'for' expression must not produce a null value.")
    else if !key.1.isKnown then c.lose []
    else
      match key.1.convert .text with
      | .error e => c.lose (invalid s!"The key expression produced an invalid result: {e.message}.")
      | .ok (.text k) =>
        let c := c.report value.2
        if group then { c with entries := appendAt k value.1 c.entries }
        else if (Value.valueAt? k c.entries).isSome then
          c.report [⟨keyRegion, "Duplicate object key", s!"Two different items produced the key {Text.quote k} in this "
            ++ "'for' expression. If duplicates are expected, use the ellipsis (...) after the value expression to "
            ++ "enable grouping by key."⟩]
        else { c with entries := Value.putEntry k value.1 c.entries }
      | .ok _ => c.lose []

/-- The scope of one element of an iteration. -/
def Scope.forElement (s : Scope) (keyName : Option String) (valueName : String) (pair : Value × Value) : Scope :=
  match keyName with
  | .none => s.within [(valueName, pair.2)]
  | some k => s.within [(valueName, pair.2), (k, pair.1)]

/-- The pair that stands for an element of which nothing is known. -/
def unknownPair : Value × Value := (.anything, .anything)

/-! ### Splats -/

/-- The outcome of a splat; `each` gives the outcome for an element. -/
def splatOutcome (source : Outcome) (sourceRegion : Region) (each : Value → Outcome) : Outcome :=
  let v := source.1
  if !source.2.isEmpty then (.anything, source.2)
  else
    let isSequence : Bool := match v.type with
      | .tuple _ | .list _ => true
      | _ => false
    if v.isNull then
      if isSequence then
        fault sourceRegion "Splat of null value" "Splat expressions (with the * symbol) cannot be applied to null sequences."
      else (.tuple [], [])
    else if v.type == .any then (.anything, [])
    else if !isSequence then
      let r := each v
      if !v.isKnown then (.anything, r.2)
      else if r.2.isEmpty then (.tuple [r.1], [])
      else (.unknown (.tuple [(each (.unknown v.type)).1.type]), r.2)
    else
      match v with
      | .tuple vs =>
        let rs := vs.map each
        let ds := rs.flatMap (·.2)
        if ds.isEmpty then (.tuple (rs.map (·.1)), [])
        else (.unknown (.tuple (vs.map fun x => (each (.unknown x.type)).1.type)), ds)
      | .list t vs =>
        let rs := vs.map each
        let ds := rs.flatMap (·.2)
        let element := (each (.unknown t)).1.type
        if ds.isEmpty then (.list ((rs.head?.map (·.1.type)).getD element) (rs.map (·.1)), [])
        else (.unknown (.list element), ds)
      | .unknown (.tuple ts) =>
        let rs := ts.map fun t => each (.unknown t)
        (.unknown (.tuple (rs.map (·.1.type))), rs.flatMap (·.2))
      | .unknown (.list t) =>
        let r := each (.unknown t)
        (.unknown (.list r.1.type), r.2)
      | _ => (.anything, [])

/-! ### Templates -/

/-- What has been written of a template: its text, the faults, and whether all parts are known. -/
structure Written where
  text : String := ""
  faults : List Diagnostic := []
  known : Bool := true

/-- Adds a part to a template. -/
def Written.part (w : Written) (part : Outcome) (region : Region) : Written :=
  let w := { w with faults := w.faults ++ part.2 }
  let invalid (detail : String) : Written :=
    { w with faults := w.faults ++ [⟨region, "Invalid template interpolation value", detail⟩] }
  if part.1.isNull then invalid "The expression result is null. Cannot include a null value in a string template."
  else if !part.1.isKnown then { w with known := false }
  else
    match part.1.toText with
    | .error e => invalid s!"Cannot include the given value in a string template: {e.message}."
    | .ok s => if w.known && w.faults.isEmpty then { w with text := w.text ++ s } else w

/-- The outcome of a template. -/
def Written.outcome (w : Written) : Outcome :=
  (if w.known then .ofText w.text else .unknown .text, w.faults)

/-- The texts of the elements of a tuple, one behind the other. -/
def joinOutcome (tuple : Outcome) (region : Region) : Outcome :=
  match tuple.1 with
  | .tuple vs =>
    if vs.any fun v => !v.isKnown then (.unknown .text, tuple.2)
    else
      let step (w : Written) (v : Value) : Written :=
        let invalid (detail : String) : Written :=
          { w with faults := w.faults ++ [⟨region, "Invalid template interpolation value", detail⟩] }
        if v.isNull then invalid "An iteration result is null. Cannot include a null value in a string template."
        else
          match v.toText with
          | .error e => invalid s!"Cannot include one of the interpolation results into the string template: {e.message}."
          | .ok s => { w with text := w.text ++ s }
      let w := vs.foldl step { faults := tuple.2 }
      (.ofText w.text, w.faults)
  | _ => (.unknown .text, tuple.2)

/-! ### Expressions -/

mutual

/-- The outcome of an expression in a scope. -/
def Expr.eval (s : Scope) : Expr → Outcome
  | .literal v _ => (v, [])
  | .named name nameRegion path _ => s.lookup name nameRegion path
  | .steps source path _ =>
    let v := source.eval s
    let r := takeSteps v.1 path
    (r.1, v.2 ++ r.2)
  | .index collection key bracket _ =>
    let v := collection.eval s
    let k := key.eval s
    let r := getIndex v.1 k.1 bracket
    (r.1, v.2 ++ k.2 ++ r.2)
  | .splat source each _ =>
    splatOutcome (source.eval s) source.region fun v => each.eval { s with element := v }
  | .element _ => (s.element, [])
  | .unary op operand region => unaryOutcome op (operand.eval s) operand.region region
  | .binary op left right region =>
    binaryOutcome op (left.eval s) (right.eval s) left.region right.region region
  | .conditional condition yes no _ =>
    conditionalOutcome (condition.eval s) (yes.eval s) (no.eval s) condition.region yes.region no.region
  | .parenthesized inner _ => inner.eval s
  | .tuple items _ =>
    let rs := Expr.evalList s items
    (.tuple (rs.map (·.1)), rs.flatMap (·.2))
  | .object items _ => (Expr.evalItems s {} items).outcome
  | .forTuple keyName valueName collection value condition _ =>
    let scope := s.forElement keyName valueName
    let source := collection.eval s
    match startIteration source collection.region (condition.eval (scope unknownPair)) condition.region with
    | .error ended => ended
    | .ok pairs =>
      let start : Gathered := { faults := source.2 }
      (pairs.foldl (fun g p => g.element (condition.eval (scope p)) (value.eval (scope p)) condition.region) start).outcome
  | .forObject keyName valueName collection key value condition group _ =>
    let scope := s.forElement keyName valueName
    let source := collection.eval s
    match startIteration source collection.region (condition.eval (scope unknownPair)) condition.region with
    | .error ended => ended
    | .ok pairs =>
      let start : Collected := { faults := source.2 }
      (pairs.foldl (fun c p => c.element group (condition.eval (scope p)) (key.eval (scope p)) (value.eval (scope p))
        condition.region key.region) start).outcome
  | .call region => fault region "Function calls not allowed" "Functions may not be called here."
  | .template parts _ => (Expr.evalParts s {} parts).outcome
  | .wrapped inner _ => inner.eval s
  | .joined pieces region => joinOutcome (pieces.eval s) region

/-- The outcomes of a list of expressions. -/
def Expr.evalList (s : Scope) : List Expr → List Outcome
  | [] => []
  | e :: rest => e.eval s :: Expr.evalList s rest

/-- The items of an object, added to those collected so far. -/
def Expr.evalItems (s : Scope) (c : Collected) : List ObjectItem → Collected
  | [] => c
  | item :: rest => Expr.evalItems s (Expr.evalItem s c item) rest

/-- An item of an object, added to those collected so far. -/
def Expr.evalItem (s : Scope) (c : Collected) : ObjectItem → Collected
  | .mk computed key value =>
    let k := match if computed then none else bareKey? key with
      | some outcome => outcome
      | none => key.eval s
    c.item k (value.eval s) key.region value.region

/-- The parts of a template, added to what is written so far. -/
def Expr.evalParts (s : Scope) (w : Written) : List Expr → Written
  | [] => w
  | part :: rest => Expr.evalParts s (w.part (part.eval s) part.region) rest

end

end FibTiming.SuiteFile
