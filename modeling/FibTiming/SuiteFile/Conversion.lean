import FibTiming.SuiteFile.Value
import FibTiming.Text.LowerCase

/-!
# Conversions between types

Numbers and truth values can be written as text, and text can be read as either.  A structure converts when its
parts do.  Nulls and unknown values convert whenever their type does.
-/

namespace FibTiming.SuiteFile

open Number

/-- Why a value cannot be converted. -/
inductive ConversionError where
  | notANumber
  | notABool
  /-- The text would be a truth value in lower case. -/
  | notLowerCase (word : String)
  | mismatch (want have_ : Ty)
deriving Repr, Inhabited

/-- The wording of a failed conversion. -/
def ConversionError.message : ConversionError → String
  | notANumber => "a number is required"
  | notABool => "a bool is required"
  | notLowerCase word => s!"a bool is required; to convert from string, use lowercase \"{word}\""
  | mismatch want have_ => want.name ++ " required, but have " ++ have_.name

namespace Ty

mutual

/-- Whether values of the type `source` can be tried to be converted to `want`. -/
def convertsTo (source want : Ty) : Bool :=
  if source == any then true
  else
    match want with
    | any => true
    | text => source.isPrimitive
    | number => source == number || source == text
    | bool => source == bool || source == text
    | list t =>
      match source with
      | list s => convertsTo s t
      | tuple ss => ss.all fun s => convertsTo s t
      | _ => false
    | map t =>
      match source with
      | map s => convertsTo s t
      | object as => as.all fun a => convertsTo a.2 t
      | _ => false
    | tuple ts =>
      match source with
      | tuple ss => convertsToList ss ts
      | _ => false
    | object as =>
      match source with
      | object bs => convertsToAttributes bs as
      | map s => convertsToAll s as
      | _ => false

/-- Whether each type of a list converts to its partner. -/
def convertsToList (sources : List Ty) : List Ty → Bool
  | [] => sources.isEmpty
  | t :: ts =>
    match sources with
    | [] => false
    | s :: ss => convertsTo s t && convertsToList ss ts

/-- Whether each wanted attribute exists and converts. -/
def convertsToAttributes (sources : List (String × Ty)) : List (String × Ty) → Bool
  | [] => true
  | (n, t) :: as =>
    match attribute? n sources with
    | none => false
    | some s => convertsTo s t && convertsToAttributes sources as

/-- Whether one type converts to the types of all attributes. -/
def convertsToAll (source : Ty) : List (String × Ty) → Bool
  | [] => true
  | (_, t) :: as => convertsTo source t && convertsToAll source as

end

end Ty

namespace Value

/-- The number a value stands for: a number itself, or a text that is a numeral. -/
def toNumber : Value → Except ConversionError Extended
  | number x => .ok x
  | text s =>
    match readNumeral? s with
    | some x => .ok x
    | none => .error .notANumber
  | v => .error (.mismatch .number v.type)

/-- The truth value a value stands for: one itself, or a text that is one of their names. -/
def toBool : Value → Except ConversionError Bool
  | bool b => .ok b
  | text s =>
    if s = "true" ∨ s = "1" then .ok true
    else if s = "false" ∨ s = "0" then .ok false
    else
      let low := Text.lower s
      if low = "true" ∨ low = "false" then .error (.notLowerCase low) else .error .notABool
  | v => .error (.mismatch .bool v.type)

/-- The text a value stands for: a text itself, or that of a number or a truth value. -/
def toText : Value → Except ConversionError String
  | text s => .ok s
  | number x => .ok x.plainText
  | bool b => .ok (if b then "true" else "false")
  | v => .error (.mismatch .text v.type)

mutual

/-- The value converted to a type. -/
def convert (want : Ty) (v : Value) : Except ConversionError Value :=
  if v.type == want then .ok v
  else if !v.type.convertsTo want then .error (.mismatch want v.type)
  else if v.isNull then .ok (.null want)
  else if !v.isKnown then .ok (.unknown want)
  else
    match want with
    | .any => .ok v
    | .text => v.toText.map .text
    | .number => v.toNumber.map .number
    | .bool => v.toBool.map .bool
    | .list t =>
      match v with
      | list _ vs => (vs.mapM fun x => convert t x).map (.list t)
      | tuple vs => (vs.mapM fun x => convert t x).map (.list t)
      | _ => .error (.mismatch want v.type)
    | .map t =>
      match v with
      | map _ es => (es.mapM fun e => (convert t e.2).map fun x => (e.1, x)).map (.map t)
      | object es => (es.mapM fun e => (convert t e.2).map fun x => (e.1, x)).map (.map t)
      | _ => .error (.mismatch want v.type)
    | .tuple ts =>
      match v with
      | tuple vs => (convertList ts vs).map .tuple
      | _ => .error (.mismatch want v.type)
    | .object as =>
      match v with
      | object es => (convertEntries as es).map .object
      | map _ es => (convertEntries as es).map .object
      | _ => .error (.mismatch want v.type)

/-- The values of a list, each converted to its type. -/
def convertList : List Ty → List Value → Except ConversionError (List Value)
  | [], _ => .ok []
  | _ :: _, [] => .ok []
  | t :: ts, v :: vs =>
    match convert t v with
    | .error e => .error e
    | .ok x => (convertList ts vs).map (x :: ·)

/-- The wanted entries, each converted to its type. -/
def convertEntries : List (String × Ty) → List (String × Value) → Except ConversionError (List (String × Value))
  | [], _ => .ok []
  | (n, t) :: as, es =>
    match convert t ((valueAt? n es).getD (.null t)) with
    | .error e => .error e
    | .ok x => (convertEntries as es).map ((n, x) :: ·)

end

end Value

end FibTiming.SuiteFile
