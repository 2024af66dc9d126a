import FibTiming.SuiteFile.Conversion
import FibTiming.SuiteFile.Diagnostic
import FibTiming.SuiteFile.Expr
import FibTiming.Text.Quoted

/-!
# Parts of values

Reaching an attribute of an object or an element of a sequence.  A part of something unknown is unknown, and what
cannot be reached is reported where the step stands.
-/

namespace FibTiming.SuiteFile

open Number

/-- A value together with the faults found while it was computed. -/
abbrev Outcome := Value × List Diagnostic

/-- The outcome of a fault: nothing is known about the value. -/
def fault (region : Region) (summary detail : String) : Outcome := (.anything, [⟨region, summary, detail⟩])

/-- The attribute of a value. -/
def getAttribute (v : Value) (given : String) (region : Region) : Outcome :=
  let unsupported (detail : String) : Outcome := fault region "Unsupported attribute" detail
  let name := Text.composed given
  if v.isNull then
    fault region "Attempt to get attribute from null value" "This value is null, so it does not have any attributes."
  else
    match v.type with
    | .object as =>
      match Ty.attribute? name as with
      | none => unsupported s!"This object does not have an attribute named {Text.quote given}."
      | some t =>
        match v with
        | .object es => ((Value.valueAt? name es).getD .anything, [])
        | _ => (.unknown t, [])
    | .map t =>
      match v with
      | .map _ es =>
        match Value.valueAt? name es with
        | some x => (x, [])
        | none => fault region "Missing map element" s!"This map does not have an element with the key {Text.quote given}."
      | _ => (.unknown t, [])
    | .any => (.anything, [])
    | .list (.object as) =>
      if (Ty.attribute? name as).isSome then
        unsupported ("Can't access attributes on a list of objects. Did you mean to access attribute "
          ++ Text.quote given ++ " for a specific element of the list, or across all elements of the list?")
      else
        unsupported ("Can't access attributes on a list of objects. Did you mean to access an attribute for a "
          ++ "specific element of the list, or across all elements of the list?")
    | t =>
      if t.isPrimitive then unsupported s!"Can't access attributes on a primitive-typed value ({t.name})."
      else unsupported "This value does not have any attributes."

/-- What is said about a key that identifies no element. -/
def noElement : String := "The given key does not identify an element in this collection value"

/-- The element of a sequence of `length` elements; `at_` gives the element at a place. -/
def getElement (length : Nat) (at_ : Nat → Value) (key : Value) (region : Region) : Outcome :=
  let invalid (detail : String) : Outcome := fault region "Invalid index" (noElement ++ detail)
  match key.convert .number with
  | .error e => invalid s!": {e.message}."
  | .ok (.number x) =>
    if !x.isInt then
      invalid ": indexing a sequence requires a whole number, but the given index has a fractional part."
    else if x.negative && !x.isZero then invalid ": a negative number is not a valid index for a sequence."
    else
      match x.toIntBetween? 0 (length - 1 : Int) with
      | some i => (at_ i.toNat, [])
      | none =>
        if length = 0 then invalid ": the collection has no elements."
        else invalid ": the given index is greater than or equal to the length of the collection."
  | .ok _ => (.anything, [])

/-- The part of a value under a key. -/
def getIndex (v key : Value) (region : Region) : Outcome :=
  let invalid (detail : String) : Outcome := fault region "Invalid index" detail
  if v.isNull then
    fault region "Attempt to index null value" "This value is null, so it does not have any indices."
  else if key.isNull then invalid "Can't use a null value as an indexing key."
  else if key.type == .any || v.type == .any then (.anything, [])
  else
    match v.type with
    | .tuple ts =>
      match v with
      | .tuple vs => getElement vs.length (fun i => vs.getD i .anything) key region
      | _ => getElement ts.length (fun i => .unknown (ts.getD i .any)) key region
    | .list t =>
      match v with
      | .list _ vs => getElement vs.length (fun i => vs.getD i .anything) key region
      | _ =>
        match key.convert .number with
        | .error e => invalid (noElement ++ s!": {e.message}.")
        | .ok _ => (.unknown t, [])
    | .map t =>
      match key.convert .text with
      | .error e => invalid (noElement ++ s!": {e.message}.")
      | .ok (.text s) =>
        match v with
        | .map _ es =>
          match Value.valueAt? s es with
          | some x => (x, [])
          | none => invalid (noElement ++ ".")
        | _ => (.unknown t, [])
      | .ok _ => (.unknown t, [])
    | .object _ =>
      match key.convert .text with
      | .error e => invalid (noElement ++ s!": {e.message}.")
      | .ok (.text s) =>
        match v with
        | .object es =>
          match Value.valueAt? s es with
          | some x => (x, [])
          | none =>
            invalid (noElement ++ "." ++
              if key.type == .number then " An object only supports looking up attributes by name, not by numeric index."
              else "")
        | _ => (.anything, [])
      | .ok _ => (.anything, [])
    | _ => invalid "This value does not have any indices."

/-- The part of a value that one step leads to. -/
def takeStep (v : Value) : Step → Outcome
  | .attribute name region => getAttribute v name region
  | .index key region => getIndex v key region

/-- The part of a value that a list of steps leads to; the first step that fails is reported. -/
def takeSteps (v : Value) : List Step → Outcome
  | [] => (v, [])
  | s :: rest =>
    match takeStep v s with
    | (x, []) => takeSteps x rest
    | (_, ds) => (.anything, ds)

end FibTiming.SuiteFile
