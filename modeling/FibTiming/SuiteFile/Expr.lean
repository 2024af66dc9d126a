import FibTiming.SuiteFile.Region
import FibTiming.SuiteFile.Value

/-!
# Expressions of suite files

The expressions that attributes are given by.  Each one knows the region it stands in, which is where its faults
are reported.
-/

namespace FibTiming.SuiteFile

/-- The operators with one operand. -/
inductive UnaryOp where
  | negate
  | not
deriving Repr, DecidableEq, Inhabited

/-- The operators with two operands. -/
inductive BinaryOp where
  | or | and
  | equal | notEqual
  | less | lessEqual | greater | greaterEqual
  | add | subtract
  | multiply | divide | remainder
deriving Repr, DecidableEq, Inhabited

/-- A step from a value to a part of it. -/
inductive Step where
  | attribute (name : String) (region : Region)
  | index (key : Value) (region : Region)
deriving Repr, Inhabited

mutual

/-- The expressions. -/
inductive Expr where
  | literal (value : Value) (region : Region)
  /-- A variable and the steps from it. -/
  | named (name : String) (nameRegion : Region) (steps : List Step) (region : Region)
  /-- The steps from the value of another expression. -/
  | steps (source : Expr) (steps : List Step) (region : Region)
  /-- A part whose key is computed; `bracket` is the region of the key with its brackets. -/
  | index (collection key : Expr) (bracket region : Region)
  /-- The values of `each` for all elements of a collection. -/
  | splat (source each : Expr) (region : Region)
  /-- The element a splat is at. -/
  | element (region : Region)
  | unary (op : UnaryOp) (operand : Expr) (region : Region)
  | binary (op : BinaryOp) (left right : Expr) (region : Region)
  | conditional (condition yes no : Expr) (region : Region)
  | parenthesized (inner : Expr) (region : Region)
  | tuple (items : List Expr) (region : Region)
  | object (items : List ObjectItem) (region : Region)
  /-- The values of `value` for all elements of a collection for which the condition holds. -/
  | forTuple (keyName : Option String) (valueName : String) (collection value condition : Expr) (region : Region)
  /-- The entries of all elements for which the condition holds; with `group`, entries of one key are collected. -/
  | forObject (keyName : Option String) (valueName : String) (collection key value condition : Expr) (group : Bool)
      (region : Region)
  | call (region : Region)
  | template (parts : List Expr) (region : Region)
  /-- A template of a single inserted value, which is not turned into text. -/
  | wrapped (inner : Expr) (region : Region)
  /-- The texts of a tuple, one behind the other. -/
  | joined (tuple : Expr) (region : Region)

/-- An item of an object; a key in parentheses is `computed`, any other key may be a bare name. -/
inductive ObjectItem where
  | mk (computed : Bool) (key value : Expr)

end

instance : Inhabited Expr := ⟨.literal .untypedNull default⟩

/-- The region of an expression. -/
def Expr.region : Expr → Region
  | literal _ r | named _ _ _ r | steps _ _ r | index _ _ _ r | splat _ _ r | element r | unary _ _ r
  | binary _ _ _ r | conditional _ _ _ r | parenthesized _ r | tuple _ r | object _ r | forTuple _ _ _ _ _ r
  | forObject _ _ _ _ _ _ _ r | call r | template _ r | wrapped _ r | joined _ r => r

/-- The operand order and precedence: the operators of each level, from those that bind least. -/
def BinaryOp.level : BinaryOp → Nat
  | or => 0
  | and => 1
  | equal | notEqual => 2
  | less | lessEqual | greater | greaterEqual => 3
  | add | subtract => 4
  | multiply | divide | remainder => 5

/-- The number of levels of operators. -/
def BinaryOp.levels : Nat := 6

end FibTiming.SuiteFile
