import ExprLang.Entries
import ExprLang.Number.Arithmetic

/-!
# JSON values

Plain data for exchange.  Numbers are integers or doubles, and the entries of an object are sorted by key, each key
occurring once.
-/

namespace ExprLang

/-- A JSON value. -/
inductive Json where
  | null
  | bool (b : Bool)
  | int (i : Int)
  | double (x : Number)
  | string (s : String)
  | array (items : List Json)
  | object (entries : List (String × Json))

namespace Json

/-- Sets the value of a key in entries sorted by key. -/
def insert (key : String) (value : Json) : List (String × Json) → List (String × Json)
  | [] => [(key, value)]
  | (k, v) :: entries =>
    if key < k then (key, value) :: (k, v) :: entries
    else if k = key then (k, value) :: entries
    else (k, v) :: insert key value entries

/-- The object with the given entries, the last of a key's values counting. -/
def ofEntries (entries : List (String × Json)) : Json :=
  object (entries.foldl (fun sorted (key, value) => insert key value sorted) [])

/-- The JSON number of a number: an integer if it is one below `2 ^ 53` in size, null if it is not finite. -/
def ofNumber (x : Number) : Json :=
  if !x.isFinite then null
  else if x.isIntegral && Number.compare? x.abs (.ofNat (Nat.pow 2 53)) == some .lt then int x.toInt
  else double x

end Json

end ExprLang
