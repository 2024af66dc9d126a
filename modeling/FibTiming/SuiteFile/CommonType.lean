import FibTiming.SuiteFile.Conversion
import FibTiming.Text.Quoted

/-!
# Common types

The two results of a conditional are brought to one type.  Text is preferred over numbers and truth values.
Tuples of one length and objects with the same attributes are joined part by part, and other tuples and objects
become lists and maps.  What nothing is known about takes any type, but leaves a structure beside it open.
-/

namespace FibTiming.SuiteFile

/-- What a list of types has in common: a type they all convert to, or, when one of them is still open, nothing
that could be said yet. -/
inductive Common where
  | type (t : Ty)
  | undetermined
deriving Repr, Inhabited

namespace Common

/-- The type of the values after they are brought together. -/
def result : Common → Ty
  | type t => t
  | undetermined => .any

/-- A value brought to what its type has in common with others. -/
def adjust (c : Common) (v : Value) : Except ConversionError Value :=
  match c with
  | type t => v.convert t
  | undetermined => .ok .anything

end Common

namespace Ty

/-- Whether the type is a map. -/
def isMap : Ty → Bool
  | map _ => true
  | _ => false

/-- Whether the type is a list. -/
def isList : Ty → Bool
  | list _ => true
  | _ => false

/-- Whether the type is an object. -/
def isObject : Ty → Bool
  | object _ => true
  | _ => false

/-- Whether the type is a tuple. -/
def isTuple : Ty → Bool
  | tuple _ => true
  | _ => false

/-- The types of the elements of a type. -/
def elements : Ty → List Ty
  | list t | map t => [t]
  | tuple ts => ts
  | object as => as.map (·.2)
  | _ => []

/-- The names of the attributes of an object type. -/
def attributeNames : Ty → List String
  | object as => as.map (·.1)
  | _ => []

/-- The attributes of an object type. -/
def attributes : Ty → List (String × Ty)
  | object as => as
  | _ => []

/-- The first type, in the order of preference, that all types convert to. -/
def preferred? (ts : List Ty) : Option Ty :=
  let order := ts.filter (· == text) ++ ts.filter (fun t => !(t == text) && !(t == any)) ++ ts.filter (· == any)
  order.find? fun want => ts.all fun t => t == want || t.convertsTo want

/-- All types of a list, unless one of them is missing. -/
def allSome : List (Option Ty) → Option (List Ty)
  | [] => some []
  | none :: _ => none
  | some t :: rest => (allSome rest).map (t :: ·)

/-- The types that stand at one place of all tuples. -/
def column (i : Nat) (ts : List Ty) : List Ty := ts.filterMap fun t => t.elements[i]?

/-- The types of one attribute in all objects. -/
def attributeColumn (name : String) (ts : List Ty) : List Ty := ts.filterMap fun t => attribute? name t.attributes

/-- What the types have in common; `fuel` bounds the depth of nested structures. -/
def common? : (fuel : Nat) → List Ty → Option Common
  | 0, _ => none
  | fuel + 1, ts =>
    let open_ := ts.any (· == any)
    let every (p : Ty → Bool) := ts.all fun t => t == any || p t
    let some_ (p : Ty → Bool) := ts.any p
    let inner (types : List Ty) : Option Ty := (common? fuel types).map Common.result
    let asList : Option Ty := (inner (ts.flatMap elements)).map list
    let asMap : Option Ty := (inner (ts.flatMap elements)).map map
    let general : Option Common := (preferred? ts).map .type
    if some_ isMap && every isMap then
      if open_ then some .undetermined else asMap.map .type
    else if some_ isMap && every (fun t => t.isMap || t.isObject) then
      if open_ then some .undetermined else (asMap.map .type).or general
    else if some_ isList && every isList then
      if open_ then some .undetermined else asList.map .type
    else if some_ isList && every (fun t => t.isList || t.isTuple) then
      if open_ then some .undetermined else (asList.map .type).or general
    else if some_ isObject && every isObject then
      if open_ then some .undetermined
      else
        match ts with
        | [] => none
        | first :: rest =>
          if rest.all fun t => t.attributeNames == first.attributeNames then
            (allSome (first.attributeNames.map fun n => inner (attributeColumn n ts))).map fun types =>
              .type (object (first.attributeNames.zip types))
          else asMap.map .type
    else if some_ isTuple && every isTuple then
      if open_ then some .undetermined
      else
        match ts with
        | [] => none
        | first :: rest =>
          if rest.all fun t => t.elements.length == first.elements.length then
            (allSome ((List.range first.elements.length).map fun i => inner (column i ts))).map fun types =>
              .type (tuple types)
          else asList.map .type
    else if some_ isObject && some_ isTuple then none
    else general

/-- What two types have in common. -/
def commonWith? (a b : Ty) : Option Common := common? (a.depth + b.depth + 2) [a, b]

/-! ### What two types differ in -/

/-- The first attribute that only one of two objects has, or whose types differ. -/
inductive AttributeDifference where
  | onlyFirst (name : String)
  | onlySecond (name : String)
  | types (name : String) (a b : Ty)

/-- The first difference among the attributes of the first object. -/
def differenceIn (bs : List (String × Ty)) : List (String × Ty) → Option AttributeDifference
  | [] => none
  | (n, t) :: rest =>
    match attribute? n bs with
    | none => some (.onlyFirst n)
    | some u => if t == u then differenceIn bs rest else some (.types n t u)

/-- The first difference of two objects. -/
def attributeDifference (as bs : List (String × Ty)) : Option AttributeDifference :=
  match differenceIn bs as with
  | some d => some d
  | none => (bs.find? fun b => (attribute? b.1 as).isNone).map fun b => .onlySecond b.1

/-- The first place at which two lists of types differ. -/
def firstDifference (i : Nat) : List Ty → List Ty → Option (Nat × Ty × Ty)
  | a :: as, b :: bs => if a == b then firstDifference (i + 1) as bs else some (i, a, b)
  | _, _ => none

/-- The names of two types, or that they differ somewhere below. -/
def nameDifference (a b : Ty) : String :=
  if a.name = b.name then
    "At least one deeply-nested attribute or element is not compatible across both the 'true' and the 'false' value."
  else s!"The 'true' value is " ++ a.name ++ ", but the 'false' value is " ++ b.name

/-- What the types of the two results of a conditional differ in; `fuel` bounds the depth. -/
def describeDifference : (fuel : Nat) → Ty → Ty → String
  | 0, a, b => nameDifference a b
  | fuel + 1, a, b =>
    let inElements (noun : String) (s t : Ty) : String :=
      if (s.isObject && t.isObject) || (s.isTuple && t.isTuple) then
        s!"Mismatched {noun} element types: " ++ describeDifference fuel s t
      else nameDifference a b
    match a, b with
    | object as, object bs =>
      match attributeDifference as bs with
      | some (.onlyFirst n) =>
        "The 'true' value includes object attribute " ++ Text.quote n ++ ", which is absent in the 'false' value"
      | some (.onlySecond n) =>
        "The 'false' value includes object attribute " ++ Text.quote n ++ ", which is absent in the 'true' value"
      | some (.types n s t) =>
        "Type mismatch for object attribute " ++ Text.quote n ++ ": " ++ describeDifference fuel s t
      | none => nameDifference a b
    | tuple ss, tuple ts =>
      if ss.length ≠ ts.length then
        s!"The 'true' tuple has length {ss.length}, but the 'false' tuple has length {ts.length}"
      else
        match firstDifference 0 ss ts with
        | some (i, s, t) => s!"Type mismatch for tuple element {i}: " ++ describeDifference fuel s t
        | none => nameDifference a b
    | list s, list t => inElements "list" s t
    | map s, map t => inElements "map" s t
    | _, _ => nameDifference a b

end Ty

end FibTiming.SuiteFile
