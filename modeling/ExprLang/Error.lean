import ExprLang.Regex.Basic

/-!
# Errors

An expression is rejected with a `SyntaxError`; its evaluation fails with an `EvalError`.
-/

namespace ExprLang

/-- Why a source text is not an expression.  All but the early end blame an offset in bytes. -/
inductive SyntaxError where
  | invalidToken (offset : Nat)
  | endOfExpression
  | unexpectedToken (offset : Nat)
  | unexpectedRemainder (offset : Nat)
  | regexDisabled (offset : Nat)
  deriving DecidableEq

namespace SyntaxError

/-- The name of the kind of an error. -/
def kindName : SyntaxError → String
  | invalidToken _ => "InvalidTokenError"
  | endOfExpression => "EndOfExpressionError"
  | unexpectedToken _ => "UnexpectedTokenError"
  | unexpectedRemainder _ => "UnexpectedRemainderError"
  | regexDisabled _ => "RegExpDisabledError"

/-- The offset that an error blames. -/
def offset? : SyntaxError → Option Nat
  | invalidToken offset | unexpectedToken offset | unexpectedRemainder offset | regexDisabled offset => some offset
  | endOfExpression => none

/-- The message of an error. -/
def message : SyntaxError → String
  | invalidToken offset => "Invalid token @" ++ toString offset
  | endOfExpression => "Unexpected end of expression"
  | unexpectedToken offset => "Unexpected token @" ++ toString offset
  | unexpectedRemainder offset => "Unexpected remainder @" ++ toString offset
  | regexDisabled offset => "Regular expressions are disabled @" ++ toString offset

end SyntaxError

/-- Why an evaluation failed. -/
inductive EvalError where
  | notCallable (callee : String)
  | nullProperty (base key : String)
  | invalidRegex (pattern flags : String) (fault : RegexFault)
  | thrown (message : String)
  deriving DecidableEq

namespace EvalError

/-- The name of the kind of an error. -/
def kindName : EvalError → String
  | notCallable _ => "NotCallable"
  | nullProperty .. => "NullProperty"
  | invalidRegex .. => "InvalidRegex"
  | thrown _ => "Thrown"

/-- The message of an error. -/
def message : EvalError → String
  | notCallable callee => callee ++ " is not a function"
  | nullProperty base key => "Cannot read properties of " ++ base ++ " (reading '" ++ key ++ "')"
  | invalidRegex pattern flags fault =>
    "Invalid regular expression: /" ++ pattern ++ "/" ++ flags ++ ": " ++ fault.reason
  | thrown message => message

end EvalError

end ExprLang
