import ExprLang.Number.Basic
import ExprLang.Regex.Basic

/-!
# Values

The values that expressions produce and that contexts hold.  Arrays, objects, functions and regular expressions
have an identity besides their content; two of them are the same only if their identities are equal.

A function is one of the built-in methods or a function of the host, which is known by a handle.  It may be bound
to a receiver.
-/

namespace ExprLang

/-- The methods of arrays. -/
inductive ArrayMethod where
  | concat
  | includes
  | indexOf
  | join
  | slice
  deriving DecidableEq

/-- The methods of strings. -/
inductive StringMethod where
  | charAt
  | concat
  | endsWith
  | includes
  | indexOf
  | slice
  | split
  | startsWith
  | toLowerCase
  | toUpperCase
  | trim
  deriving DecidableEq

/-- What a function runs: a method of arrays or strings, the test of a regular expression, or a function of the
host. -/
inductive Callable where
  | ofArray (m : ArrayMethod)
  | ofString (m : StringMethod)
  | regexTest
  | host (handle : Nat)
  deriving DecidableEq

/-- A value.  The entries of an object are in order of insertion. -/
inductive Value where
  | undefined
  | null
  | bool (b : Bool)
  | number (x : Number)
  | string (s : String)
  | array (id : Nat) (items : List Value)
  | object (id : Nat) (entries : List (String × Value))
  | function (id : Nat) (code : Callable) (receiver : Option Value)
  | regex (id : Nat) (re : Regex)

namespace Value

instance : Inhabited Value := ⟨undefined⟩

def isUndefined : Value → Bool
  | undefined => true
  | _ => false

/-- Undefined or null. -/
def isNullish : Value → Bool
  | undefined | null => true
  | _ => false

/-- A value with an identity. -/
def isReference : Value → Bool
  | array .. | object .. | function .. | regex .. => true
  | _ => false

def asNumber? : Value → Option Number
  | number x => some x
  | _ => none

def asBool? : Value → Option Bool
  | bool b => some b
  | _ => none

def asString? : Value → Option String
  | string s => some s
  | _ => none

def asArray? : Value → Option (List Value)
  | array _ items => some items
  | _ => none

def asObject? : Value → Option (List (String × Value))
  | object _ entries => some entries
  | _ => none

/-- The receiver of a function, if it is bound to one. -/
def asFunction? : Value → Option (Option Value)
  | function _ _ receiver => some receiver
  | _ => none

def asRegex? : Value → Option Regex
  | regex _ re => some re
  | _ => none

/-- A truth value for every value: false are undefined, null, false, the zeros, not-a-number and the empty
string. -/
def truthy : Value → Bool
  | undefined | null => false
  | bool b => b
  | number x => !x.isZero && !x.isNaN
  | string s => !s.isEmpty
  | array .. | object .. | function .. | regex .. => true

/-- The name of the type of a value, as `typeof` gives it. -/
def typeName : Value → String
  | undefined => "undefined"
  | null => "object"
  | bool _ => "boolean"
  | number _ => "number"
  | string _ => "string"
  | array .. | object .. | regex .. => "object"
  | function .. => "function"

end Value

end ExprLang
