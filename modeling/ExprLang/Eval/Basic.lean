import ExprLang.Error
import ExprLang.Value.Basic

/-!
# Evaluations

An evaluation either succeeds or fails, and in both cases it has drawn identities for new values and called
functions of the host.  Both are kept in a ledger, which a failure does not undo.
-/

namespace ExprLang

/-- A call of a function of the host, as the host sees it. -/
structure HostCall where
  handle : Nat
  receiver : Value
  arguments : List Value

/-- The next unused identity, and the calls of the host so far, the first of them first. -/
structure Ledger where
  nextId : Nat
  calls : List HostCall

/-- An evaluation with a result of type `α`. -/
abbrev Eval (α : Type) := ExceptT EvalError (StateM Ledger) α

namespace Eval

/-- Draws an identity that no other value has. -/
def freshId : Eval Nat := modifyGet fun l => (l.nextId, { l with nextId := l.nextId + 1 })

/-- Enters a call of the host in the ledger. -/
def record (call : HostCall) : Eval Unit := modify fun l => { l with calls := l.calls ++ [call] }

/-- A new array. -/
def newArray (items : List Value) : Eval Value := return .array (← freshId) items

/-- A new function. -/
def newFunction (code : Callable) (receiver : Option Value) : Eval Value :=
  return .function (← freshId) code receiver

/-- A new regular expression. -/
def newRegex (re : Regex) : Eval Value := return .regex (← freshId) re

/-- The outcome of an evaluation from a ledger on, and the ledger after it. -/
def outcome {α : Type} (e : Eval α) (l : Ledger) : Except EvalError α × Ledger := e.run.run l

end Eval

/-- The functions of the host: what the function of a handle does with a receiver and arguments. -/
structure Host where
  invoke : Nat → Value → List Value → Eval Value

end ExprLang
