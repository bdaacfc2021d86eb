import ExprLang.Node.Basic
import ExprLang.Value.Json

/-!
# Outlines

The outline of an expression tree is plain data for tools: operations by name, places, and operands that are
outlines, lists of outlines or values.
-/

namespace ExprLang

mutual

/-- The outline of a node. -/
inductive Outline where
  | node (op : String) (offset length : Nat) (operands : List Operand)

/-- An operand in an outline. -/
inductive Operand where
  | node (outline : Outline)
  | list (outlines : List Outline)
  | scalar (value : Value)

end

namespace Node

mutual

/-- The outline of a node. -/
def outline : Node → Outline
  | n@(constant r v) => .node n.opName r.offset r.length [.scalar v]
  | n@(context r name) => .node n.opName r.offset r.length [.scalar (.string name)]
  | n@(property r object key) => .node n.opName r.offset r.length [.node object.outline, .node key.outline]
  | n@(call r callee arguments) =>
    .node n.opName r.offset r.length [.node callee.outline, .list (outlines arguments)]
  | n@(array r items) => .node n.opName r.offset r.length [.list (outlines items)]
  | n@(regex r pattern flags) =>
    .node n.opName r.offset r.length [.scalar (.string pattern), .scalar (.string flags)]
  | n@(unary r _ operand) => .node n.opName r.offset r.length [.node operand.outline]
  | n@(binary r _ left right) => .node n.opName r.offset r.length [.node left.outline, .node right.outline]
  | n@(ternary r condition consequent alternate) =>
    .node n.opName r.offset r.length [.node condition.outline, .node consequent.outline, .node alternate.outline]

/-- The outlines of nodes. -/
def outlines : List Node → List Outline
  | [] => []
  | n :: nodes => n.outline :: outlines nodes

end

end Node

mutual

/-- An outline as JSON. -/
def Outline.toJson : Outline → Json
  | .node op offset length operands =>
    .ofEntries [("op", .string op), ("at", .int offset), ("length", .int length),
      ("args", .array (operandsToJson operands))]

def Operand.toJson : Operand → Json
  | .node outline => outline.toJson
  | .list outlines => .array (outlinesToJson outlines)
  | .scalar value => value.toJson

def operandsToJson : List Operand → List Json
  | [] => []
  | operand :: operands => operand.toJson :: operandsToJson operands

def outlinesToJson : List Outline → List Json
  | [] => []
  | outline :: outlines => outline.toJson :: outlinesToJson outlines

end

end ExprLang
