import FibTiming.Log
import FibTiming.SuiteFile.Evaluation

/-!
# Settings

The attributes of a benchmark are settings: whole numbers of 64 bits, with or without a sign, and texts.  A value
is converted to what its setting asks for; nothing is rounded or cut off.
-/

namespace FibTiming.SuiteFile

open Number

/-- Why a value does not give a setting. -/
inductive SettingError where
  | faults (ds : List Diagnostic)
  | null
  | unknown
  | conversion (given want : Ty) (e : ConversionError)
  | notWhole (x : Extended)
  | outsideSigned
  | outsideUnsigned
deriving Repr, Inhabited

/-- The wording of a refused value. -/
def SettingError.message : SettingError → String
  | faults ds => diagnosticsMessage ds
  | null => "value must not be null"
  | unknown => "value must be known"
  | conversion given want e => s!"cannot convert {given.name} to required type {want.name}: {e.message}"
  | notWhole x => s!"value must be a whole number, got {x.generalText}"
  | outsideSigned => "value must be a whole number, between -9223372036854775808 and 9223372036854775807"
  | outsideUnsigned => "value must be a whole number, between 0 and 18446744073709551615 inclusive"

/-- The value converted to the type of a setting; a number has to be whole. -/
def settle (want : Ty) (v : Value) : Except SettingError Value :=
  if v.isNull then .error .null
  else if !v.isWhollyKnown then .error .unknown
  else
    match v.convert want with
    | .error e => .error (.conversion v.type want e)
    | .ok (.number x) => if x.isInt then .ok (.number x) else .error (.notWhole x)
    | .ok x => .ok x

/-- The whole number with a sign that a value gives. -/
def signedOf (v : Value) : Except SettingError Int :=
  match settle .number v with
  | .error e => .error e
  | .ok (.number x) =>
    match x.toIntBetween? (-9223372036854775808) 9223372036854775807 with
    | some n => .ok n
    | none => .error .outsideSigned
  | .ok _ => .error .outsideSigned

/-- The whole number without a sign that a value gives. -/
def unsignedOf (v : Value) : Except SettingError UInt64 :=
  match settle .number v with
  | .error e => .error e
  | .ok (.number x) =>
    match x.toIntBetween? 0 18446744073709551615 with
    | some n => .ok (UInt64.ofNat n.toNat)
    | none => .error .outsideUnsigned
  | .ok _ => .error .outsideUnsigned

/-- The text that a value gives. -/
def textOf (v : Value) : Except SettingError String :=
  match settle .text v with
  | .error e => .error e
  | .ok (.text s) => .ok s
  | .ok w => .error (.conversion v.type .text (.mismatch .text w.type))

/-- What is logged about a value that is of another type than its setting. -/
def conversionRecords (bound : List (String × Log.Value)) (want : Ty) (v : Value) : List Log.Record :=
  match settle want v with
  | .error _ => []
  | .ok _ =>
    if v.type == want then []
    else
      [⟨.debug, "Implicitly converted value type.", bound ++ [("from", .text v.type.name), ("to", .text want.name)]⟩]

/-- What an expression gives for a setting, by the function that takes its value. -/
def Expr.setting {α : Type} (e : Expr) (scope : Scope) (take : Value → Except SettingError α) : Except SettingError α :=
  match e.eval scope with
  | (v, []) => take v
  | (_, ds) => .error (.faults ds)

/-- What is logged about an expression that gives a setting. -/
def Expr.settingRecords (e : Expr) (scope : Scope) (bound : List (String × Log.Value)) (want : Ty) : List Log.Record :=
  match e.eval scope with
  | (v, []) => conversionRecords bound want v
  | _ => []

end FibTiming.SuiteFile
