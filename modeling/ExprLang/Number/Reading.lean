import ExprLang.Number.Arithmetic
import ExprLang.Number.Decimal
import ExprLang.Text.Bytes
import ExprLang.Text.Case

/-!
# Numbers from text

The number that a string stands for when one is asked for: white space around it does not count, nothing at all is
zero, and what is neither a decimal, a whole number with a prefix for its base, nor the word for infinity is not a
number.

The reader of decimals (`Number.parse?`) also knows words, in any case of their letters.  They are kept from it by a
look at the bytes of the text (`Number.isDecimalByte`).
-/

namespace ExprLang.Number

/-- The value of a digit in a base of at most sixteen. -/
def digitValue? (base : Nat) (c : Char) : Option Nat :=
  let n :=
    if c.isDigit then c.toNat - 48
    else if 'a' ≤ c ∧ c ≤ 'f' then c.toNat - 87
    else if 'A' ≤ c ∧ c ≤ 'F' then c.toNat - 55
    else base
  if n < base then some n else none

/-- The value of digits that follow others of value `n`. -/
def digitsValue? (base n : Nat) : List Char → Option Nat
  | [] => some n
  | c :: digits => do digitsValue? base (base * n + (← digitValue? base c)) digits

/-- A whole number below `2 ^ 64` in a base, written with at least one digit and possibly a plus sign. -/
def ofBase? (base : Nat) (text : List Char) : Option Nat :=
  let digits := match text with
    | '+' :: digits => digits
    | digits => digits
  if digits.isEmpty then none
  else (digitsValue? base 0 digits).filter (· < Nat.pow 2 64)

/-- The number of a word for infinity or not-a-number, in any case of its letters. -/
def ofWord? (text : List Char) : Option Number :=
  let word := text.map Char.toLower
  if word = "inf".toList ∨ word = "infinity".toList then some (infinity false)
  else if word = "nan".toList then some nan
  else none

/-- The number of a whole text: a word for infinity or not-a-number with an optional sign, or a decimal. -/
def parse? (text : List Char) : Option Number :=
  let (negative, unsigned) := Decimal.readSign text
  match ofWord? unsigned with
  | some x => some (if negative then neg x else x)
  | none => (Decimal.read? text).map fun (negative, d) => d.toNumber negative

/-- The bytes that decimals are made of. -/
def isDecimalByte (b : UInt8) : Bool :=
  ('0'.toUInt8 ≤ b && b ≤ '9'.toUInt8) || (['.', 'e', 'E', '+', '-'].map Char.toUInt8).contains b

/-- The prefixes of whole numbers with their bases. -/
def basePrefixes : List (List Char × Nat) :=
  [(['0', 'x'], 16), (['0', 'X'], 16), (['0', 'o'], 8), (['0', 'O'], 8), (['0', 'b'], 2), (['0', 'B'], 2)]

/-- The rest of a text after a prefix for a base, with the base. -/
def dropBase? (text : List Char) : Option (Nat × List Char) :=
  basePrefixes.findSome? fun (mark, base) =>
    if mark.isPrefixOf text then some (base, text.drop mark.length) else none

/-- The number of a text without white space around it. -/
def ofTrimmed (text : List Char) : Number :=
  if text = [] then zero false
  else if text = "Infinity".toList ∨ text = "+Infinity".toList then infinity false
  else if text = "-Infinity".toList then infinity true
  else
    match dropBase? text with
    | some (base, digits) => ((ofBase? base digits).map ofNat).getD nan
    | none => if (Text.bytes text).all isDecimalByte then (parse? text).getD nan else nan

/-- The number that a text stands for. -/
def ofText (text : List Char) : Number := ofTrimmed (Text.trim text)

end ExprLang.Number
