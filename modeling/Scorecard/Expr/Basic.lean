import Scorecard.Decimal.Numeral
import Scorecard.Expr.Token

/-!
# Arithmetic over KPIs

Expression trees, their value and the KPIs they mention. An expression has a value only if each of
its KPIs has one, no divisor is zero and the result is finite; arithmetic is that of doubles.
-/

namespace Scorecard

namespace Expr

/-- The signs that may precede an operand. -/
inductive Sign where
  /-- Keeps the operand. -/
  | plus
  /-- Negates the operand. -/
  | minus
  deriving DecidableEq, Repr

/-- The operations on two operands. -/
inductive Operation where
  /-- Sum. -/
  | add
  /-- Difference. -/
  | sub
  /-- Product. -/
  | mul
  /-- Quotient. -/
  | div
  deriving DecidableEq, Repr

/-- The symbol of a sign. -/
def Sign.symbol : Sign → Symbol
  | plus => .plus
  | minus => .minus

/-- The symbol of an operation. -/
def Operation.symbol : Operation → Symbol
  | add => .plus
  | sub => .minus
  | mul => .times
  | div => .slash

/-- The effect of a sign. -/
def Sign.apply : Sign → Float → Float
  | plus, x => x
  | minus, x => -x

/-- The result of an operation; a quotient by zero, of either sign, has none. -/
def Operation.result? : Operation → Float → Float → Option Float
  | add, x, y => some (x + y)
  | sub, x, y => some (x - y)
  | mul, x, y => some (x * y)
  | div, x, y => if y == 0.0 then none else some (x / y)

/-- The double of a decimal literal. -/
def literalValue (literal : String) : Float :=
  match Decimal.numeral? literal.toList with
  | some n => n.toFloat
  | none => 0.0

end Expr

/-- An expression tree. -/
inductive Expr where
  /-- A constant. -/
  | number (value : Float)
  /-- The value of a KPI. -/
  | kpi (id : String)
  /-- An operand with a sign. -/
  | signed (sign : Expr.Sign) (operand : Expr)
  /-- Two operands. -/
  | binary (op : Expr.Operation) (left right : Expr)
  deriving Repr

namespace Expr

/-- The KPIs of an expression from left to right, each as often as it occurs. -/
def ids : Expr → List String
  | number _ => []
  | kpi id => [id]
  | signed _ e => e.ids
  | binary _ l r => l.ids ++ r.ids

/-- The result of bottom-up evaluation; `lookup` gives the values of the KPIs. -/
def eval? (lookup : String → Option Float) : Expr → Option Float
  | number x => some x
  | kpi id => lookup id
  | signed s e => (e.eval? lookup).map s.apply
  | binary op l r => do
    let x ← l.eval? lookup
    let y ← r.eval? lookup
    op.result? x y

/-- The value of an expression: the result of its evaluation, if that is finite. -/
def value? (lookup : String → Option Float) (e : Expr) : Option Float :=
  (e.eval? lookup).bind fun x => if x.isFinite then some x else none

end Expr

end Scorecard
