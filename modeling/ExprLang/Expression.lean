import ExprLang.Eval.Node
import ExprLang.Node.Outline
import ExprLang.Node.Parser
import ExprLang.Regex.Engine
import ExprLang.Token.Lexer

/-!
# Expressions

A source text is compiled once and can be evaluated any number of times against different contexts.
-/

namespace ExprLang

/-- The version of this library. -/
def version : String := "0.1.0"

/-- Regular expressions are made by the engine of automata. -/
def RegexSupport.standard : RegexSupport := .engine .automata

/-- A compiled expression. -/
structure Expression where
  source : String
  root : Node
  regex : RegexSupport

namespace Expression

/-- Compiles a source text.  The first error counts. -/
def compile (source : String) (regex : RegexSupport) : Except SyntaxError Expression := do
  let tokens ← tokenize source
  let root ← parse regex.isEnabled tokens
  return ⟨source, root, regex⟩

/-- Evaluates an expression against a context. -/
def eval (e : Expression) (host : Host) (context : Context) : Eval Value :=
  e.root.eval ⟨context, e.source, e.regex, host⟩

/-- The names that an expression reads from its context, in increasing order and each once. -/
def names (e : Expression) : List String := e.root.names

/-- The outline of an expression. -/
def outline (e : Expression) : Outline := e.root.outline

end Expression

end ExprLang
