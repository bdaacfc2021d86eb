import ExprLang.Json
import ExprLang.Value.Basic

/-!
# Values and JSON

`toJson` gives the JSON value of any value, null where there is none; `ofJson` gives the value of a JSON value,
drawing identities for its arrays and objects from a counter.
-/

namespace ExprLang.Value

mutual

/-- The JSON value of a value.  Undefined and functions become null, a regular expression its text. -/
def toJson : Value → Json
  | undefined | null | function .. => .null
  | bool b => .bool b
  | number x => .ofNumber x
  | string s => .string s
  | array _ items => .array (itemsToJson items)
  | object _ entries => .ofEntries (entriesToJson entries)
  | regex _ re => .string (String.ofList re.chars)

def itemsToJson : List Value → List Json
  | [] => []
  | v :: items => v.toJson :: itemsToJson items

def entriesToJson : List (String × Value) → List (String × Json)
  | [] => []
  | (key, v) :: entries => (key, v.toJson) :: entriesToJson entries

end

/-- The next identity of a counter. -/
def freshId : StateM Nat Nat := modifyGet fun n => (n, n + 1)

mutual

/-- The value of a JSON value. -/
def ofJson : Json → StateM Nat Value
  | .null => pure null
  | .bool b => pure (bool b)
  | .int i => pure (number (.ofInt i))
  | .double x => pure (number x)
  | .string s => pure (string s)
  | .array items => do
    let items ← itemsOfJson items
    return array (← freshId) items
  | .object entries => do
    let entries ← entriesOfJson entries
    return object (← freshId) entries

def itemsOfJson : List Json → StateM Nat (List Value)
  | [] => pure []
  | j :: items => do
    let v ← ofJson j
    return v :: (← itemsOfJson items)

def entriesOfJson : List (String × Json) → StateM Nat (List (String × Value))
  | [] => pure []
  | (key, j) :: entries => do
    let v ← ofJson j
    return (key, v) :: (← entriesOfJson entries)

end

end ExprLang.Value
