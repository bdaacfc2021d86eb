import ExprLang.Operator
import ExprLang.Range
import ExprLang.Value.Basic

/-!
# Expression trees

A node is an operation of an expression with the range of its source.
-/

namespace ExprLang

/-- A node of an expression tree.  A member read with a name has that name as a constant key. -/
inductive Node where
  | constant (range : Range) (value : Value)
  | context (range : Range) (name : String)
  | property (range : Range) (object key : Node)
  | call (range : Range) (callee : Node) (arguments : List Node)
  | array (range : Range) (items : List Node)
  | regex (range : Range) (pattern flags : String)
  | unary (range : Range) (op : UnaryOp) (operand : Node)
  | binary (range : Range) (op : BinaryOp) (left right : Node)
  | ternary (range : Range) (condition consequent alternate : Node)

namespace Node

/-- The range of a node. -/
def range : Node → Range
  | constant r _ | context r _ | property r _ _ | call r _ _ | array r _ | regex r _ _ | unary r _ _
  | binary r _ _ _ | ternary r _ _ _ => r

/-- The node with another range. -/
def withRange (r : Range) : Node → Node
  | constant _ v => constant r v
  | context _ name => context r name
  | property _ object key => property r object key
  | call _ callee arguments => call r callee arguments
  | array _ items => array r items
  | regex _ pattern flags => regex r pattern flags
  | unary _ op operand => unary r op operand
  | binary _ op left right => binary r op left right
  | ternary _ condition consequent alternate => ternary r condition consequent alternate

/-- The name of a node's operation. -/
def opName : Node → String
  | constant .. => "constant"
  | context .. => "context"
  | property .. => "property"
  | call .. => "call"
  | array .. => "array"
  | regex .. => "regex"
  | unary _ op _ => op.name
  | binary _ op _ _ => op.name
  | ternary .. => "ternary"

mutual

/-- A node and all nodes below it, each before those below it and operands in source order. -/
def walk : Node → List Node
  | n@(constant ..) | n@(context ..) | n@(regex ..) => [n]
  | n@(property _ object key) => n :: (object.walk ++ key.walk)
  | n@(call _ callee arguments) => n :: (callee.walk ++ walkAll arguments)
  | n@(array _ items) => n :: walkAll items
  | n@(unary _ _ operand) => n :: operand.walk
  | n@(binary _ _ left right) => n :: (left.walk ++ right.walk)
  | n@(ternary _ condition consequent alternate) => n :: (condition.walk ++ consequent.walk ++ alternate.walk)

/-- The walks of nodes, one after the other. -/
def walkAll : List Node → List Node
  | [] => []
  | n :: nodes => n.walk ++ walkAll nodes

end

/-- The name that a node reads from the context. -/
def contextName? : Node → Option String
  | context _ name => some name
  | _ => none

/-- Inserts a name into names in increasing order. -/
def insertName (name : String) : List String → List String
  | [] => [name]
  | n :: names =>
    if name < n then name :: n :: names else if n = name then n :: names else n :: insertName name names

/-- The names that an expression reads from the context, in increasing order and each once. -/
def names (n : Node) : List String := (n.walk.filterMap contextName?).foldr insertName []

end Node

end ExprLang
