/-!
# Double-precision numbers

The numbers of the language are the IEEE 754 doubles with a single not-a-number.  A number other than that one
is a sign with the *place* of its absolute value when the non-negative doubles are listed in increasing order,
zero at place `0` and infinity at place `infinityPlace`; the place is at once the bit pattern without its sign.

Every finite double is a multiple of the least positive one, the *quantum* `2 ^ (-1074)`, so exact arithmetic on
numbers is arithmetic on whole numbers of quanta: `quanta` reads the value of a place and `nearestPlace` rounds
a quotient of quanta to the nearest place, a tie going to the even one.
-/

namespace ExprLang

/-- The place of infinity in the list of the non-negative doubles. -/
def infinityPlace : Nat := 2047 * Nat.pow 2 52

/-- A double: not-a-number, or a sign and the place of the absolute value. -/
inductive Number where
  | nan
  | signed (negative : Bool) (place : Fin (infinityPlace + 1))
  deriving DecidableEq

namespace Number

/-- Neighbouring places around `place` are `2 ^ gapExponent place` quanta apart. -/
def gapExponent (place : Nat) : Nat := place / Nat.pow 2 52 - 1

/-- The absolute value at a place, in quanta. -/
def quanta (place : Nat) : Nat :=
  (place - gapExponent place * Nat.pow 2 52) * Nat.pow 2 (gapExponent place)

/-- How many quanta make one. -/
def one : Nat := Nat.pow 2 1074

/-- The quotient `num / den` rounded to a whole number, a tie going to the even one. -/
def roundHalfEven (num den : Nat) : Nat :=
  let q := num / den
  let r := num % den
  if 2 * r < den ∨ (2 * r = den ∧ q % 2 = 0) then q else q + 1

/-- The place nearest to `num / den` quanta, a tie going to the even place. -/
def nearestPlace (num den : Nat) : Nat :=
  let gap := Nat.log2 (num / den) - 52
  min infinityPlace (gap * Nat.pow 2 52 + roundHalfEven num (den * Nat.pow 2 gap))

theorem nearestPlace_le (num den : Nat) : nearestPlace num den ≤ infinityPlace :=
  Nat.min_le_left ..

/-- The number nearest to `num / den` quanta with the given sign. -/
def ofQuanta (negative : Bool) (num den : Nat) : Number :=
  .signed negative ⟨nearestPlace num den, Nat.lt_succ_of_le (nearestPlace_le num den)⟩

/-- Zero with the given sign. -/
def zero (negative : Bool) : Number := .signed negative 0

/-- Infinity with the given sign. -/
def infinity (negative : Bool) : Number := .signed negative (Fin.last infinityPlace)

/-- The number nearest to an integer. -/
def ofInt (i : Int) : Number := ofQuanta (decide (i < 0)) (i.natAbs * one) 1

/-- The number nearest to a natural number. -/
def ofNat (n : Nat) : Number := ofInt n

instance : Inhabited Number := ⟨nan⟩

def isNaN : Number → Bool
  | nan => true
  | signed .. => false

def isFinite : Number → Bool
  | nan => false
  | signed _ p => p.val < infinityPlace

/-- Infinity of either sign. -/
def isInfinite : Number → Bool
  | nan => false
  | signed _ p => p.val = infinityPlace

/-- Zero of either sign. -/
def isZero : Number → Bool
  | nan => false
  | signed _ p => p.val = 0

/-- Whether a number is finite and without fraction. -/
def isIntegral : Number → Bool
  | nan => false
  | signed _ p => p.val < infinityPlace && quanta p % one = 0

/-- The place with its sign.  The order of these integers is the order of the numbers, both zeros being equal. -/
def rank? : Number → Option Int
  | nan => none
  | signed negative p => some (if negative then -(p.val : Int) else p.val)

/-- The order of two numbers, undefined when one of them is not-a-number. -/
def compare? (x y : Number) : Option Ordering := do
  return compare (← rank? x) (← rank? y)

/-- Numeric equality: not-a-number differs from everything and the two zeros are equal. -/
def eqv (x y : Number) : Bool := compare? x y == some .eq

/-- Whether a number is less than zero. -/
def isBelowZero (x : Number) : Bool := compare? x (zero false) == some .lt

/-- The bits of the interchange format; not-a-number has its usual quiet pattern. -/
def toBits : Number → UInt64
  | nan => 0x7ff8000000000000
  | signed negative p => UInt64.ofNat ((if negative then Nat.pow 2 63 else 0) + p.val)

/-- The number that the bits of the interchange format stand for. -/
def ofBits (bits : UInt64) : Number :=
  let place := bits.toNat % Nat.pow 2 63
  if h : place ≤ infinityPlace then .signed (decide (Nat.pow 2 63 ≤ bits.toNat)) ⟨place, Nat.lt_succ_of_le h⟩ else nan

end Number

end ExprLang
