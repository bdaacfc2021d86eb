/-!
# Operators

The operators, their spellings and their levels of precedence.
-/

namespace ExprLang

/-- The operators before an operand. -/
inductive UnaryOp where
  | plus
  | minus
  | not
  | typeOf
  deriving DecidableEq

/-- The operators between two operands. -/
inductive BinaryOp where
  | add
  | sub
  | mul
  | div
  | rem
  | exp
  | lt
  | gt
  | lte
  | gte
  | eq
  | neq
  | strictEq
  | strictNeq
  | and
  | or
  deriving DecidableEq

/-- The name of an operator. -/
def UnaryOp.name : UnaryOp → String
  | plus => "pos"
  | minus => "neg"
  | not => "not"
  | typeOf => "typeof"

namespace BinaryOp

/-- The name of an operator. -/
def name : BinaryOp → String
  | add => "add"
  | sub => "sub"
  | mul => "mul"
  | div => "div"
  | rem => "remainder"
  | exp => "exp"
  | lt => "lt"
  | gt => "gt"
  | lte => "lte"
  | gte => "gte"
  | eq => "eq"
  | neq => "neq"
  | strictEq => "eqq"
  | strictNeq => "neqq"
  | and => "and"
  | or => "or"

/-- The symbols that spell an operator. -/
def spelling : BinaryOp → List Char
  | add => ['+']
  | sub => ['-']
  | mul => ['*']
  | div => ['/']
  | rem => ['%']
  | exp => ['*', '*']
  | lt => ['<']
  | gt => ['>']
  | lte => ['<', '=']
  | gte => ['>', '=']
  | eq => ['=', '=']
  | neq => ['!', '=']
  | strictEq => ['=', '=', '=']
  | strictNeq => ['!', '=', '=']
  | and => ['&', '&']
  | or => ['|', '|']

end BinaryOp

/-- The operators of one level of precedence. -/
abbrev OperatorTable := List BinaryOp

/-- The levels that group from the left, loosest first. -/
def binaryLevels : List OperatorTable :=
  [[.or], [.and], [.eq, .neq, .strictEq, .strictNeq], [.lt, .gt, .lte, .gte], [.add, .sub], [.mul, .div, .rem]]

/-- The tightest level, which groups from the right. -/
def exponentialLevel : OperatorTable := [.exp]

/-- The number of symbols of the longest operator. -/
def maxOperatorLength : Nat := 3

/-- The operators of all levels. -/
def allOperators : OperatorTable := binaryLevels.flatten ++ exponentialLevel

/-- The longest operator of a table that starts a run of symbols. -/
def longestOperator? (table : OperatorTable) (run : List Char) : Option BinaryOp :=
  table.foldl (fun best op =>
    if op.spelling.isPrefixOf run && best.all (fun b => b.spelling.length ≤ op.spelling.length) then some op
    else best) none

end ExprLang
