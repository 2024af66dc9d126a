import FibTiming.SuiteFile.Access
import FibTiming.SuiteFile.Equality

/-!
# Operators

Operands are converted to the type an operator works on: numbers for arithmetic and comparisons, truth values for
logic, and anything for equality.  `&&` and `||` are settled by one operand when it decides the answer, and faults
of the other operand then do not count.
-/

namespace FibTiming.SuiteFile

open Number

/-- The type of the operands of an operator. -/
def UnaryOp.operandType : UnaryOp → Ty
  | negate => .number
  | not => .bool

/-- The type of the operands of an operator. -/
def BinaryOp.operandType : BinaryOp → Ty
  | or | and => .bool
  | equal | notEqual => .any
  | _ => .number

/-- The type of the result of an operator. -/
def BinaryOp.resultType : BinaryOp → Ty
  | add | subtract | multiply | divide | remainder => .number
  | _ => .bool

/-- What is said about a null operand. -/
def nullOperand : String := "argument must not be null"

/-- A truth value that may be unknown. -/
def Value.ofBool? : Option Bool → Value
  | some b => .bool b
  | none => .unknown .bool

/-- The result of arithmetic or a comparison on two numbers. -/
def BinaryOp.onNumbers (op : BinaryOp) (x y : Extended) : Except String Value :=
  let number (r : Except ArithmeticError Extended) : Except String Value :=
    match r with
    | .ok z => .ok (.number z)
    | .error e => .error e.message
  match op with
  | add => number (x.add y)
  | subtract => number (x.sub y)
  | multiply => number (x.mul y)
  | divide => number (x.div y)
  | remainder => number (x.mod y)
  | less => .ok (.bool (x.blt y))
  | lessEqual => .ok (.bool (!y.blt x))
  | greater => .ok (.bool (y.blt x))
  | greaterEqual => .ok (.bool (!x.blt y))
  | _ => .ok (.unknown .bool)

/-- The result of logic on two truth values. -/
def BinaryOp.onBools (op : BinaryOp) (a b : Bool) : Value :=
  match op with
  | or => .bool (a || b)
  | and => .bool (a && b)
  | _ => .unknown .bool

/-- The result of an operator on operands of its type. -/
def BinaryOp.apply (op : BinaryOp) (a b : Value) : Except String Value :=
  if op = equal then .ok (.ofBool? (a.equals b))
  else if op = notEqual then .ok (.ofBool? ((a.equals b).map (!·)))
  else if a.isNull || b.isNull then .error nullOperand
  else
    match a, b with
    | .number x, .number y => op.onNumbers x y
    | .bool x, .bool y => .ok (op.onBools x y)
    | _, _ => .ok (.unknown op.resultType)

/-- The result of an operator on an operand of its type. -/
def UnaryOp.apply (op : UnaryOp) (a : Value) : Except String Value :=
  if a.isNull then .error nullOperand
  else
    match op, a with
    | negate, .number x => .ok (.number x.neg)
    | not, .bool b => .ok (.bool (!b))
    | _, _ => .ok (.unknown op.operandType)

/-- Whether a value is known to be true; a null is not. -/
def Value.isTrue : Value → Bool
  | .bool b => b
  | _ => false

/-- What one operand alone decides about `&&` or `||`: the operand that wins settles the result, and its faults
are the ones that count.  `wins` is the truth value that decides. -/
def decideEarly (wins : Bool) (a b : Value) (as bs : List Diagnostic) : Option Outcome :=
  let decided (v : Value) : Bool := v.isTrue == wins
  match a.isKnown, b.isKnown with
  | false, false => if as.isEmpty then some (.unknown .bool, as) else none
  | _, _ =>
    if a.isKnown && decided a then some (.bool wins, as)
    else if b.isKnown && decided b then some (.bool wins, bs)
    else if !a.isKnown then some (.unknown .bool, as)
    else if !b.isKnown then some (.unknown .bool, bs)
    else none

/-- The early decision of an operator, if it has one. -/
def BinaryOp.early (op : BinaryOp) (a b : Value) (as bs : List Diagnostic) : Option Outcome :=
  match op with
  | or => decideEarly true a b as bs
  | and => decideEarly false a b as bs
  | _ => none

/-- An operand converted to a type; a failure is reported, and the operand is unknown then. -/
def convertOperand (want : Ty) (side : String) (v : Value) (region : Region) : Value × List Diagnostic :=
  match v.convert want with
  | .ok x => (x, [])
  | .error e =>
    (.unknown want, [⟨region, "Invalid operand", s!"Unsuitable value for {side} operand: {e.message}."⟩])

/-- What is reported when an operator fails. -/
def operationFailed (region : Region) (reason : String) : Diagnostic :=
  ⟨region, "Operation failed", s!"Error during operation: {reason}."⟩

/-- The outcome of an operator from the outcomes of its operands. -/
def binaryOutcome (op : BinaryOp) (left right : Outcome) (leftRegion rightRegion region : Region) : Outcome :=
  let l := convertOperand op.operandType "left" left.1 leftRegion
  let r := convertOperand op.operandType "right" right.1 rightRegion
  let unsuitable := l.2 ++ r.2
  if !unsuitable.isEmpty then (.unknown op.resultType, unsuitable ++ left.2 ++ right.2)
  else
    match op.early l.1 r.1 left.2 right.2 with
    | some (v, ds) => if ds.isEmpty then (v, []) else (.unknown op.resultType, ds)
    | none =>
      let ds := left.2 ++ right.2
      if !ds.isEmpty then (.unknown op.resultType, ds)
      else
        match op.apply l.1 r.1 with
        | .ok v => (v, [])
        | .error reason => (.unknown op.resultType, [operationFailed region reason])

/-- The outcome of an operator from the outcome of its operand. -/
def unaryOutcome (op : UnaryOp) (operand : Outcome) (operandRegion region : Region) : Outcome :=
  let v := convertOperand op.operandType "unary" operand.1 operandRegion
  let ds := operand.2 ++ v.2
  if !ds.isEmpty then (.unknown op.operandType, ds)
  else
    match op.apply v.1 with
    | .ok v => (v, [])
    | .error reason => (.unknown op.operandType, [operationFailed region reason])

end FibTiming.SuiteFile
