import ExprLang.Eval.Basic

/-!
# Members

What a key finds in a value.  A method is found by its code alone: it becomes a function only when it is read.
-/

namespace ExprLang

/-- A member of a value: another value, or the code of a method. -/
inductive Member where
  | value (v : Value)
  | method (code : Callable)

end ExprLang
