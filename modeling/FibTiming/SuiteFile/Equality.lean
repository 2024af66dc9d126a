import FibTiming.SuiteFile.Value

/-!
# Equality of values

Values are equal when they have the same type and the same content; nulls are equal whatever their type is.  The
answer is unknown when it depends on something unknown.
-/

namespace FibTiming.SuiteFile

open Number

namespace Ty

mutual

/-- Whether a type fits another in which some parts are open. -/
def fits (given want : Ty) : Bool :=
  match want with
  | any => true
  | text => given == text
  | number => given == number
  | bool => given == bool
  | list t =>
    match given with
    | list s => fits s t
    | _ => false
  | map t =>
    match given with
    | map s => fits s t
    | _ => false
  | tuple ts =>
    match given with
    | tuple ss => fitsList ss ts
    | _ => false
  | object as =>
    match given with
    | object bs => bs.length == as.length && fitsAttributes bs as
    | _ => false

/-- Whether each type of a list fits its partner. -/
def fitsList (given : List Ty) : List Ty → Bool
  | [] => given.isEmpty
  | t :: ts =>
    match given with
    | [] => false
    | s :: ss => fits s t && fitsList ss ts

/-- Whether each wanted attribute exists and fits. -/
def fitsAttributes (given : List (String × Ty)) : List (String × Ty) → Bool
  | [] => true
  | (n, t) :: as =>
    match attribute? n given with
    | none => false
    | some s => fits s t && fitsAttributes given as

end

end Ty

namespace Value

mutual

/-- Whether the types of all parts of a value are settled. -/
def hasSettledType : Value → Bool
  | null _ => true
  | unknown t => !t.mentionsAny
  | text _ | number _ | bool _ => true
  | list _ vs => hasSettledTypes vs
  | map _ es => hasSettledEntries es
  | tuple vs => hasSettledTypes vs
  | object es => hasSettledEntries es

/-- Whether this holds for all values of a list. -/
def hasSettledTypes : List Value → Bool
  | [] => true
  | v :: vs => v.hasSettledType && hasSettledTypes vs

/-- Whether this holds for the values of all entries. -/
def hasSettledEntries : List (String × Value) → Bool
  | [] => true
  | (_, v) :: es => v.hasSettledType && hasSettledEntries es

end

/-- The answer that follows from the types and nulls alone: `some none` is "unknown", and `none` asks for a look
at the content. -/
def equalsByKind (a b : Value) : Option (Option Bool) :=
  match a.isKnown, b.isKnown with
  | false, false => some none
  | true, false => some (if a.isNull || b.type.mentionsAny || a.type == b.type then none else some false)
  | false, true => some (if b.isNull || a.type.mentionsAny || a.type == b.type then none else some false)
  | true, true =>
    if a.isNull || b.isNull then some (some (a.isNull && b.isNull))
    else if !a.hasSettledType || !b.hasSettledType then
      some (if !a.type.fits b.type && !b.type.fits a.type then some false else none)
    else if a.type == b.type then none
    else some (some false)

mutual

/-- Whether two values are equal, if that is known. -/
def equals (a b : Value) : Option Bool :=
  match equalsByKind a b with
  | some answer => answer
  | none =>
    match a with
    | text s =>
      match b with
      | text t => some (s == t)
      | _ => some false
    | number x =>
      match b with
      | number y => some (x.same y)
      | _ => some false
    | bool x =>
      match b with
      | bool y => some (x == y)
      | _ => some false
    | list _ vs =>
      match b with
      | list _ ws => equalsList vs ws
      | _ => some false
    | tuple vs =>
      match b with
      | tuple ws => equalsList vs ws
      | _ => some false
    | map _ es =>
      match b with
      | map _ fs => equalsEntries es fs
      | _ => some false
    | object es =>
      match b with
      | object fs => equalsEntries es fs
      | _ => some false
    | _ => some false

/-- Whether two lists of values are equal. -/
def equalsList : List Value → List Value → Option Bool
  | [], ws => some ws.isEmpty
  | _ :: _, [] => some false
  | v :: vs, w :: ws =>
    match equals v w with
    | none => none
    | some false => some false
    | some true => equalsList vs ws

/-- Whether two lists of entries are equal. -/
def equalsEntries : List (String × Value) → List (String × Value) → Option Bool
  | [], fs => some fs.isEmpty
  | _ :: _, [] => some false
  | (k, v) :: es, (l, w) :: fs =>
    if k ≠ l then some false
    else
      match equals v w with
      | none => none
      | some false => some false
      | some true => equalsEntries es fs

end

end Value

end FibTiming.SuiteFile
