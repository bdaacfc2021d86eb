import ExprLang.Number.Arithmetic
import ExprLang.Number.Decimal

/-!
# The text of a number

A number is written with the digits of its shortest decimal.  The notation is positional for absolute values from `1e-6`
on and below `1e21`.  Otherwise one digit stands before the point and the exponent follows after an `e`; it is written
with a minus sign or with none, and where there is none a plus sign is put in.  Both zeros are written `0`.
-/

namespace ExprLang

/-- A text cut in two at the first place where a character stands in it. -/
def Text.splitOnce? (c : Char) (text : List Char) : Option (List Char × List Char) :=
  match text.dropWhile (· != c) with
  | [] => none
  | _ :: after => some (text.takeWhile (· != c), after)

namespace Decimal

/-- The exponent of the first digit of a decimal. -/
def firstExponent (d : Decimal) : Int := d.exponent + digitCount d.significand - 1

/-- Positional notation, without a point unless digits follow it. -/
def positional (d : Decimal) : List Char :=
  let digits := Nat.toDigits 10 d.significand
  let point : Int := digits.length + d.exponent
  if 0 ≤ d.exponent then digits ++ List.replicate d.exponent.toNat '0'
  else if 0 < point then digits.take point.toNat ++ '.' :: digits.drop point.toNat
  else '0' :: '.' :: (List.replicate (-point).toNat '0' ++ digits)

/-- One digit, and the others after a point. -/
def mantissa (d : Decimal) : List Char :=
  match Nat.toDigits 10 d.significand with
  | [] => []
  | [digit] => [digit]
  | digit :: digits => digit :: '.' :: digits

/-- The mantissa and the exponent, which has a sign only if it is negative. -/
def exponential (d : Decimal) : List Char :=
  let e := d.firstExponent
  d.mantissa ++ 'e' :: ((if e < 0 then ['-'] else []) ++ Nat.toDigits 10 e.natAbs)

end Decimal

namespace Number

/-- The least number that is written in positional notation. -/
def positionalFrom : Number := Decimal.toNumber false ⟨1, -6⟩

/-- The least number after these that is not. -/
def positionalUntil : Number := Decimal.toNumber false ⟨1, 21⟩

/-- Whether an absolute value is written in positional notation. -/
def isPositional (x : Number) : Bool :=
  (compare? positionalFrom x).any Ordering.isLE && compare? x positionalUntil == some .lt

/-- A finite number in a notation for decimals, with a sign if it is negative. -/
def written (write : Decimal → List Char) : Number → List Char
  | nan => []
  | signed negative p => (if negative then ['-'] else []) ++ write (Decimal.shortest p)

/-- The text of a number. -/
def text (x : Number) : List Char :=
  if x.isNaN then "NaN".toList
  else if x.eqv (zero false) then ['0']
  else if x.isInfinite then
    if compare? (zero false) x == some .lt then "Infinity".toList else "-Infinity".toList
  else if isPositional x.abs then x.written Decimal.positional
  else
    let formatted := x.written Decimal.exponential
    match Text.splitOnce? 'e' formatted with
    | some (mantissa, exponent) =>
      if exponent.head? = some '-' then formatted else mantissa ++ 'e' :: '+' :: exponent
    | none => formatted

instance : ToString Number := ⟨fun x => String.ofList x.text⟩

end Number

end ExprLang
