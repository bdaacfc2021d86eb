import ExprLang.Number.Arithmetic
import ExprLang.Number.Reading
import ExprLang.Number.Text
import ExprLang.Value.Basic

/-!
# Coercions

The text and the number of a value, its primitive, and the places in a sequence that a value can name.
-/

namespace ExprLang

namespace Value

mutual

/-- The text of a value.  The items of an array are joined by commas. -/
def chars : Value → List Char
  | undefined => "undefined".toList
  | null => "null".toList
  | bool b => (if b then "true" else "false").toList
  | number x => x.text
  | string s => s.toList
  | array _ items => [','].intercalate (itemTexts items)
  | object .. => "[object Object]".toList
  | function .. => "function () \x7b [native code] \x7d".toList
  | regex _ re => re.chars

/-- The texts of items; those that are undefined or null have an empty one. -/
def itemTexts : List Value → List (List Char)
  | [] => []
  | v :: items => (if v.isNullish then [] else v.chars) :: itemTexts items

end

/-- The text of a value as a string. -/
def text (v : Value) : String := String.ofList v.chars

instance : ToString Value := ⟨text⟩

/-- The number of a value.  An array has that of its text; the other references have none. -/
def toNumber : Value → Number
  | undefined => .nan
  | null => .zero false
  | bool b => if b then .ofNat 1 else .zero false
  | number x => x
  | string s => .ofText s.toList
  | v@(array ..) => .ofText v.chars
  | object .. | function .. | regex .. => .nan

/-- A value without identity: a reference becomes its text. -/
def toPrimitive (v : Value) : Value := if v.isReference then .string v.text else v

/-- The number of a value without its fraction; not-a-number becomes zero. -/
def toInteger (v : Value) : Number :=
  let x := v.toNumber
  if x.isNaN then .zero false else x.trunc

/-- A position in a sequence of `length` elements.  A value below zero counts from the end; the result lies within
the sequence.  Nothing and undefined stand for `default`. -/
def relativeIndex (v : Option Value) (length default : Nat) : Nat :=
  let place (v : Value) : Nat :=
    let x := v.toInteger
    let n := Number.ofNat length
    if x.isBelowZero then (Number.add n x).toIndex else (Number.min x n).toIndex
  match v with
  | none | some undefined => default
  | some v => place v

/-- The natural number below `2 ^ 64` that a text spells.  The number may be read with a sign or leading zeros, but its
decimal spelling has none. -/
def indexOfText? (text : List Char) : Option Nat :=
  (Number.ofBase? 10 text).filter fun n => Nat.toDigits 10 n = text

/-- The index that a key names: a whole number from zero on, or its spelling. -/
def arrayIndex? : Value → Option Nat
  | number x => if x.isIntegral && !x.isBelowZero then some x.toIndex else none
  | string s => indexOfText? s.toList
  | _ => none

end Value

end ExprLang
