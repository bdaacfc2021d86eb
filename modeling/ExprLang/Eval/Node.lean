import ExprLang.Context
import ExprLang.Eval.Operator
import ExprLang.Member.Access
import ExprLang.Node.Basic
import ExprLang.Text.Bytes

/-!
# Evaluating trees

Operands are evaluated from left to right, and the first failure is that of the whole.  `&&`, `||` and `?:` evaluate
only the operands that decide.
-/

namespace ExprLang

/-- Whether expressions may hold regular expressions, and how these are made: by an engine, or by a function of the
host. -/
inductive RegexSupport where
  | disabled
  | engine (e : Regex.Engine)
  | builder (build : String → String → Eval Value)

namespace RegexSupport

instance : Inhabited RegexSupport := ⟨disabled⟩

def isEnabled : RegexSupport → Bool
  | disabled => false
  | engine _ | builder _ => true

/-- The value of a regular expression with a pattern and flags. -/
def build (support : RegexSupport) (pattern flags : String) : Eval Value :=
  match support with
  | disabled => throw (.invalidRegex pattern flags .disabled)
  | engine e =>
    match Regex.compile e pattern flags with
    | .ok re => Eval.newRegex re
    | .error fault => throw (.invalidRegex pattern flags fault)
  | builder make => make pattern flags

end RegexSupport

/-- What an evaluation reads: the context, the source text, the support of regular expressions and the host. -/
structure Surroundings where
  context : Context
  source : String
  regex : RegexSupport
  host : Host

/-- The source text of a range, for naming a part of an expression.  An end that no word holds lies
behind every text, and before its range once it wraps; neither way is there a text. -/
def snippet (source : String) (r : Range) : String :=
  ((Text.slice? source.toList r.offset r.length).map String.ofList).getD "expression"

mutual

/-- Evaluates a node. -/
def Node.eval (s : Surroundings) : Node → Eval Value
  | .constant _ v => return v
  | .context _ name => return s.context.get name
  | .property _ object key => do
    let object ← object.eval s
    let key ← key.eval s
    object.getProperty key
  | .call _ callee arguments => do
    let function ← callee.eval s
    let arguments ← evalAll s arguments
    function.call s.host arguments (snippet s.source callee.range)
  | .array _ items => do
    let items ← evalAll s items
    Eval.newArray items
  | .regex _ pattern flags => s.regex.build pattern flags
  | .unary _ op operand => return op.apply (← operand.eval s)
  | .binary _ op left right => do
    let left ← left.eval s
    op.apply left (right.eval s)
  | .ternary _ condition consequent alternate => do
    let condition ← condition.eval s
    if condition.truthy then consequent.eval s else alternate.eval s

/-- Evaluates nodes from left to right. -/
def evalAll (s : Surroundings) : List Node → Eval (List Value)
  | [] => return []
  | n :: nodes => do
    let v ← n.eval s
    let vs ← evalAll s nodes
    return v :: vs

end

end ExprLang
