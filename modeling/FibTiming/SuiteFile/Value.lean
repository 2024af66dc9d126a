import FibTiming.Number.Numeral
import FibTiming.Text.Composed

/-!
# Values of suite files

Expressions evaluate to typed values.  A value can be null, and one that could not be computed is unknown; both
have a type.  The entries of objects and maps are kept in the order of their keys.
-/

namespace FibTiming.SuiteFile

open Number

/-- The types of values; `any` is the type of a value about which nothing is known. -/
inductive Ty where
  | any
  | text
  | number
  | bool
  | list (element : Ty)
  | map (element : Ty)
  | tuple (elements : List Ty)
  | object (attributes : List (String × Ty))
deriving Repr, Inhabited

/-- The values of expressions. -/
inductive Value where
  | null (ty : Ty)
  | unknown (ty : Ty)
  | text (s : String)
  | number (x : Extended)
  | bool (b : Bool)
  | list (element : Ty) (values : List Value)
  | map (element : Ty) (entries : List (String × Value))
  | tuple (values : List Value)
  | object (entries : List (String × Value))
deriving Repr, Inhabited

namespace Ty

mutual

/-- Whether two types are the same. -/
def beq : Ty → Ty → Bool
  | any, any => true
  | text, text => true
  | number, number => true
  | bool, bool => true
  | list s, list t => s.beq t
  | map s, map t => s.beq t
  | tuple ss, tuple ts => beqList ss ts
  | object as, object bs => beqAttributes as bs
  | _, _ => false

/-- Whether two lists of types are the same. -/
def beqList : List Ty → List Ty → Bool
  | [], [] => true
  | s :: ss, t :: ts => s.beq t && beqList ss ts
  | _, _ => false

/-- Whether two lists of attributes are the same. -/
def beqAttributes : List (String × Ty) → List (String × Ty) → Bool
  | [], [] => true
  | (m, s) :: as, (n, t) :: bs => m == n && s.beq t && beqAttributes as bs
  | _, _ => false

end

mutual

theorem beq_iff : (s t : Ty) → (s.beq t = true ↔ s = t)
  | any, t => by cases t <;> simp [beq]
  | text, t => by cases t <;> simp [beq]
  | number, t => by cases t <;> simp [beq]
  | bool, t => by cases t <;> simp [beq]
  | list s, t => by
    cases t with
    | list t => simp [beq, beq_iff s t]
    | _ => simp [beq]
  | map s, t => by
    cases t with
    | map t => simp [beq, beq_iff s t]
    | _ => simp [beq]
  | tuple ss, t => by
    cases t with
    | tuple ts => simp [beq, beqList_iff ss ts]
    | _ => simp [beq]
  | object as, t => by
    cases t with
    | object bs => simp [beq, beqAttributes_iff as bs]
    | _ => simp [beq]

theorem beqList_iff : (ss ts : List Ty) → (beqList ss ts = true ↔ ss = ts)
  | [], ts => by cases ts <;> simp [beqList]
  | s :: ss, ts => by
    cases ts with
    | nil => simp [beqList]
    | cons t ts => simp [beqList, beq_iff s t, beqList_iff ss ts]

theorem beqAttributes_iff : (as bs : List (String × Ty)) → (beqAttributes as bs = true ↔ as = bs)
  | [], bs => by cases bs <;> simp [beqAttributes]
  | (m, s) :: as, bs => by
    cases bs with
    | nil => simp [beqAttributes]
    | cons b bs =>
      obtain ⟨n, t⟩ := b
      simp [beqAttributes, beq_iff s t, beqAttributes_iff as bs]

end

instance : BEq Ty := ⟨beq⟩

instance : LawfulBEq Ty where
  eq_of_beq h := (beq_iff _ _).1 h
  rfl := (beq_iff _ _).2 rfl

/-- The name of a type in messages. -/
def name : Ty → String
  | any => "dynamic"
  | text => "string"
  | number => "number"
  | bool => "bool"
  | list t => "list of " ++ t.name
  | map t => "map of " ++ t.name
  | tuple _ => "tuple"
  | object _ => "object"

/-- Whether the type is text, number or bool. -/
def isPrimitive : Ty → Bool
  | text | number | bool => true
  | _ => false

/-- The type of an attribute of an object type. -/
def attribute? (name : String) : List (String × Ty) → Option Ty
  | [] => none
  | (n, t) :: rest => if n = name then some t else attribute? name rest

mutual

/-- How deeply types are nested in a type. -/
def depth : Ty → Nat
  | any | text | number | bool => 0
  | list t => t.depth + 1
  | map t => t.depth + 1
  | tuple ts => depthList ts + 1
  | object as => depthAttributes as + 1

/-- The greatest depth of a list of types. -/
def depthList : List Ty → Nat
  | [] => 0
  | t :: ts => max t.depth (depthList ts)

/-- The greatest depth of a list of attributes. -/
def depthAttributes : List (String × Ty) → Nat
  | [] => 0
  | (_, t) :: as => max t.depth (depthAttributes as)

end

mutual

/-- Whether the type mentions the type about which nothing is known. -/
def mentionsAny : Ty → Bool
  | any => true
  | text | number | bool => false
  | list t => t.mentionsAny
  | map t => t.mentionsAny
  | tuple ts => mentionsAnyList ts
  | object as => mentionsAnyAttributes as

/-- Whether one of the types mentions it. -/
def mentionsAnyList : List Ty → Bool
  | [] => false
  | t :: ts => t.mentionsAny || mentionsAnyList ts

/-- Whether one of the attributes mentions it. -/
def mentionsAnyAttributes : List (String × Ty) → Bool
  | [] => false
  | (_, t) :: as => t.mentionsAny || mentionsAnyAttributes as

end

end Ty

namespace Value

/-- The value of a text, which is kept in its composed form. -/
def ofText (s : String) : Value := .text (Text.composed s)

/-- The untyped null. -/
def untypedNull : Value := .null .any

/-- A value about which nothing is known. -/
def anything : Value := .unknown .any

mutual

/-- The type of a value. -/
def type : Value → Ty
  | null t => t
  | unknown t => t
  | text _ => .text
  | number _ => .number
  | bool _ => .bool
  | list t _ => .list t
  | map t _ => .map t
  | tuple vs => .tuple (typeList vs)
  | object es => .object (typeEntries es)

/-- The types of a list of values. -/
def typeList : List Value → List Ty
  | [] => []
  | v :: vs => v.type :: typeList vs

/-- The types of a list of entries. -/
def typeEntries : List (String × Value) → List (String × Ty)
  | [] => []
  | (k, v) :: es => (k, v.type) :: typeEntries es

end

/-- Whether the value is null. -/
def isNull : Value → Bool
  | null _ => true
  | _ => false

/-- Whether the value itself is known; parts of it need not be. -/
def isKnown : Value → Bool
  | unknown _ => false
  | _ => true

mutual

/-- Whether the value and all its parts are known. -/
def isWhollyKnown : Value → Bool
  | unknown _ => false
  | null _ | text _ | number _ | bool _ => true
  | list _ vs => isWhollyKnownList vs
  | map _ es => isWhollyKnownEntries es
  | tuple vs => isWhollyKnownList vs
  | object es => isWhollyKnownEntries es

/-- Whether all values of a list are wholly known. -/
def isWhollyKnownList : List Value → Bool
  | [] => true
  | v :: vs => v.isWhollyKnown && isWhollyKnownList vs

/-- Whether all values of the entries are wholly known. -/
def isWhollyKnownEntries : List (String × Value) → Bool
  | [] => true
  | (_, v) :: es => v.isWhollyKnown && isWhollyKnownEntries es

end

/-- The value of an entry. -/
def valueAt? (key : String) : List (String × Value) → Option Value
  | [] => none
  | (k, v) :: rest => if k = key then some v else valueAt? key rest

/-- Puts an entry into a list ordered by keys; the entry that was there before is replaced. -/
def putEntry (key : String) (value : Value) : List (String × Value) → List (String × Value)
  | [] => [(key, value)]
  | (k, v) :: rest =>
    if key < k then (key, value) :: (k, v) :: rest
    else if key = k then (key, value) :: rest
    else (k, v) :: putEntry key value rest

end Value

end FibTiming.SuiteFile
