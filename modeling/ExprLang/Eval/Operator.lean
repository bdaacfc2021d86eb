import ExprLang.Eval.Basic
import ExprLang.Operator
import ExprLang.Value.Equality
import ExprLang.Value.Order

/-!
# What operators do
-/

namespace ExprLang

namespace Value

/-- The sum of two values: their texts one after the other if one of their primitives is a string, else the sum of
their numbers. -/
def add (a b : Value) : Value :=
  match a.toPrimitive, b.toPrimitive with
  | .string s, q => .string (String.ofList (s.toList ++ q.chars))
  | p, .string t => .string (String.ofList (p.chars ++ t.toList))
  | p, q => .number (p.toNumber.add q.toNumber)

/-- An arithmetic operation on the numbers of two values. -/
def arithmetic (f : Number → Number → Number) (a b : Value) : Value := .number (f a.toNumber b.toNumber)

/-- Whether two values stand in one of the given orders. -/
def isOrdered (orders : List Ordering) (a b : Value) : Value :=
  .bool ((compare? a b).any orders.contains)

end Value

/-- The result of an operator before an operand. -/
def UnaryOp.apply (op : UnaryOp) (v : Value) : Value :=
  match op with
  | plus => .number v.toNumber
  | minus => .number v.toNumber.neg
  | not => .bool !v.truthy
  | typeOf => .string v.typeName

/-- The result of an operator between two operands.  The right operand of `and` and `or` is evaluated only if the
left one does not decide. -/
def BinaryOp.apply (op : BinaryOp) (a : Value) (right : Eval Value) : Eval Value :=
  let strictly (f : Value → Value → Value) : Eval Value := return f a (← right)
  match op with
  | and => if a.truthy then right else return a
  | or => if a.truthy then return a else right
  | add => strictly Value.add
  | sub => strictly (Value.arithmetic Number.sub)
  | mul => strictly (Value.arithmetic Number.mul)
  | div => strictly (Value.arithmetic Number.div)
  | rem => strictly (Value.arithmetic Number.rem)
  | exp => strictly (Value.arithmetic Number.pow)
  | lt => strictly (Value.isOrdered [.lt])
  | gt => strictly (Value.isOrdered [.gt])
  | lte => strictly (Value.isOrdered [.lt, .eq])
  | gte => strictly (Value.isOrdered [.gt, .eq])
  | eq => strictly fun a b => .bool (a.looseEquals b)
  | neq => strictly fun a b => .bool !(a.looseEquals b)
  | strictEq => strictly fun a b => .bool (a.strictEquals b)
  | strictNeq => strictly fun a b => .bool !(a.strictEquals b)

end ExprLang
