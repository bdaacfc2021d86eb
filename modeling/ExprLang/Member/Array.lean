import ExprLang.Member.Basic
import ExprLang.Value.Equality

/-!
# Members of arrays

An array has its items, its length and its methods.
-/

namespace ExprLang

namespace ArrayMethod

/-- The method of a name. -/
def ofName? (name : List Char) : Option ArrayMethod :=
  if name = "concat".toList then some concat
  else if name = "includes".toList then some includes
  else if name = "indexOf".toList then some indexOf
  else if name = "join".toList then some join
  else if name = "slice".toList then some slice
  else none

/-- The items with those of the arguments that are arrays, and the other arguments themselves, behind them. -/
def concatItems (items : List Value) : List Value → List Value
  | [] => items
  | .array _ more :: arguments => concatItems (items ++ more) arguments
  | v :: arguments => concatItems (items ++ [v]) arguments

/-- Strict equality under which not-a-number equals itself. -/
def isFound (item sought : Value) : Bool :=
  match item, sought with
  | .number x, .number y => (x.isNaN && y.isNaN) || x.eqv y
  | item, sought => item.strictEquals sought

/-- The position of an item that is strictly equal to a value. -/
def position? (items : List Value) (sought : Value) : Option Nat := items.findIdx? (·.strictEquals sought)

/-- The items between two relative positions. -/
def sliceItems (items : List Value) (first last : Option Value) : List Value :=
  let start := Value.relativeIndex first items.length 0
  let stop := Value.relativeIndex last items.length items.length
  (items.take (max stop start)).drop start

/-- The texts of items with a separator between them. -/
def joinItems (items : List Value) (separator : Option Value) : List Char :=
  let separator := match separator with
    | none | some .undefined => [',']
    | some v => v.chars
  separator.intercalate (Value.itemTexts items)

/-- Runs a method on the items of an array. -/
def run (m : ArrayMethod) (items arguments : List Value) : Eval Value :=
  let first := arguments.head?.getD .undefined
  match m with
  | concat => Eval.newArray (concatItems items arguments)
  | includes => return .bool (items.any (isFound · first))
  | indexOf =>
    return .number (match position? items first with
      | some i => .ofNat i
      | none => .ofInt (-1))
  | join => return .string (String.ofList (joinItems items arguments.head?))
  | slice => Eval.newArray (sliceItems items arguments.head? arguments[1]?)

end ArrayMethod

/-- The member of an array: an item, the length, or a method. -/
def arrayMember (items : List Value) (key : Value) : Member :=
  match key.arrayIndex? with
  | some i => .value (items[i]?.getD .undefined)
  | none =>
    if key.chars = "length".toList then .value (.number (.ofNat items.length))
    else
      match ArrayMethod.ofName? key.chars with
      | some m => .method (.ofArray m)
      | none => .value .undefined

end ExprLang
