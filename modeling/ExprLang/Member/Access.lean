import ExprLang.Member.Array
import ExprLang.Member.Regex
import ExprLang.Member.String

/-!
# Member reads and calls

A function that is read from a value is bound to that value, unless it is bound already: its receiver is decided at
the first read.  Every read makes a new function.
-/

namespace ExprLang

/-- The member of a value, which must be neither undefined nor null. -/
def Value.member (object key : Value) : Except EvalError Member :=
  match object with
  | .undefined | .null => .error (.nullProperty object.text key.text)
  | .object _ entries => .ok (.value ((entries.lookup key.text).getD .undefined))
  | .array _ items => .ok (arrayMember items key)
  | .string s => .ok (stringMember s.toList key)
  | .regex _ re => .ok (regexMember re key)
  | .bool _ | .number _ | .function .. => .ok (.value .undefined)

/-- Reads a member of a value. -/
def Value.getProperty (object key : Value) : Eval Value := do
  match object.member key with
  | .error e => throw e
  | .ok (.method code) => Eval.newFunction code (some object)
  | .ok (.value (.function _ code receiver)) => Eval.newFunction code (some (receiver.getD object))
  | .ok (.value v) => return v

/-- Runs a callable with a receiver and arguments.  A method of arrays takes a receiver of another kind for an empty
array, a method of strings takes the text of its receiver. -/
def Callable.run (host : Host) (code : Callable) (receiver : Value) (arguments : List Value) : Eval Value :=
  match code with
  | .ofArray m => m.run ((receiver.asArray?).getD []) arguments
  | .ofString m => m.run receiver.chars arguments
  | .regexTest => testRegex receiver arguments
  | .host handle => do
    Eval.record ⟨handle, receiver, arguments⟩
    host.invoke handle receiver arguments

/-- Calls a value, which must be a function; `description` names it if it is none. -/
def Value.call (host : Host) (callee : Value) (arguments : List Value) (description : String) : Eval Value :=
  match callee with
  | .function _ code receiver => code.run host (receiver.getD .undefined) arguments
  | _ => throw (.notCallable description)

end ExprLang
