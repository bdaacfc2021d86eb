import ExprLang.Number.Basic

/-!
# Decimals

A decimal is a whole number of a power of ten.  `Decimal.read?` reads its text and `Decimal.toNumber` rounds it to
the nearest number.  `Decimal.shortest` goes the other way: of the decimals that read back as a given number it
picks one on the coarsest grid of powers of ten, and on that grid the nearest, the larger one of two equally near.
-/

namespace ExprLang

/-- The decimal `significand * 10 ^ exponent`. -/
structure Decimal where
  significand : Nat
  exponent : Int
  deriving DecidableEq

namespace Decimal

/-- Exponents beyond these bounds decide the nearest number: it is infinity or zero, so they are cut off. -/
def boundedExponent (d : Decimal) : Int :=
  max (-(400 + Nat.log2 d.significand : Int)) (min 400 d.exponent)

/-- The number nearest to a decimal, with the given sign. -/
def toNumber (negative : Bool) (d : Decimal) : Number :=
  Number.ofQuanta negative (d.significand * Nat.pow 10 d.boundedExponent.toNat * Number.one)
    (Nat.pow 10 (-d.boundedExponent).toNat)

/-- An optional sign in front of a text, and the rest. -/
def readSign : List Char → Bool × List Char
  | '-' :: rest => (true, rest)
  | '+' :: rest => (false, rest)
  | rest => (false, rest)

/-- The digits before and after an optional point, and the rest of the text. -/
def readDigits (text : List Char) : List Char × List Char × List Char :=
  let whole := text.takeWhile Char.isDigit
  match text.dropWhile Char.isDigit with
  | '.' :: rest => (whole, rest.takeWhile Char.isDigit, rest.dropWhile Char.isDigit)
  | rest => (whole, [], rest)

/-- The exponent that makes up a whole text: an optional sign and at least one digit. -/
def readExponent? (text : List Char) : Option Int :=
  let (negative, digits) := readSign text
  if digits ≠ [] ∧ digits.all Char.isDigit then
    let n := Nat.ofDigitChars 10 digits 0
    some (if negative then -(n : Int) else n)
  else none

/-- The decimal written with these digits before and after the point. -/
def ofDigits (whole fraction : List Char) : Decimal :=
  ⟨Nat.ofDigitChars 10 (whole ++ fraction) 0, -(fraction.length : Int)⟩

/-- Reads a whole text as a sign and a decimal: digits with an optional point, at least one digit, and an optional
exponent after `e` or `E`. -/
def read? (text : List Char) : Option (Bool × Decimal) :=
  let (negative, unsigned) := readSign text
  let (whole, fraction, rest) := readDigits unsigned
  if whole = [] ∧ fraction = [] then none
  else
    let d := ofDigits whole fraction
    match rest with
    | [] => some (negative, d)
    | mark :: rest =>
      if mark = 'e' ∨ mark = 'E' then
        (readExponent? rest).map fun e => (negative, { d with exponent := d.exponent + e })
      else none

/-- The number of decimal digits of a natural number. -/
def digitCount (n : Nat) : Nat := (Nat.toDigits 10 n).length

/-- The exponent of the first decimal digit of the value at a place other than zero. -/
def leadingExponent (place : Nat) : Int :=
  let q := Number.quanta place
  if Number.one ≤ q then (digitCount (q / Number.one) : Int) - 1
  else -(digitCount ((Number.one - 1) / q) : Int)

/-- Whether a decimal reads back as the number at a place. -/
def readsAs (d : Decimal) (place : Nat) : Bool :=
  match d.toNumber false with
  | .signed _ p => p.val = place
  | .nan => false

/-- Of the two neighbours of a place's value among the multiples of `10 ^ k`, the nearer one that reads back. -/
def onGrid? (place : Nat) (k : Int) : Option Decimal :=
  let num := Number.quanta place * Nat.pow 10 (-k).toNat
  let den := Number.one * Nat.pow 10 k.toNat
  let low : Decimal := ⟨num / den, k⟩
  let high : Decimal := ⟨num / den + 1, k⟩
  if low.readsAs place && (2 * (num % den) < den || !high.readsAs place) then some low
  else if high.readsAs place then some high
  else none

/-- The value at a place as it is. -/
def exact (place : Nat) : Decimal := ⟨Number.quanta place * Nat.pow 5 1074, -1074⟩

/-- The decimal on the coarsest grid that reads back as the value at a place other than zero. -/
def shortest (place : Nat) : Decimal :=
  ((List.range 19).findSome? fun (n : Nat) => onGrid? place (leadingExponent place + 1 - (n : Int))).getD
    (exact place)

end Decimal

end ExprLang
