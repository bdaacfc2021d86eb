import ExprLang.Number.Basic

/-!
# Arithmetic on numbers

Each operation computes its exact result in quanta and rounds once.  The remainder truncates toward zero and
takes the sign of the dividend.  Only exponentiation with a general exponent is left to the machine.
-/

namespace ExprLang.Number

/-- The value of a finite number in quanta. -/
def signedQuanta (negative : Bool) (place : Nat) : Int :=
  if negative then -(quanta place : Int) else quanta place

def neg : Number → Number
  | nan => nan
  | signed negative p => signed (!negative) p

def abs : Number → Number
  | nan => nan
  | signed _ p => signed false p

/-- Addition.  Opposite infinities have no sum; an exact zero is negative only if both operands are. -/
def add : Number → Number → Number
  | nan, _ | _, nan => nan
  | signed s p, signed t q =>
    if p.val = infinityPlace then
      if q.val = infinityPlace ∧ s ≠ t then nan else signed s p
    else if q.val = infinityPlace then signed t q
    else
      let sum := signedQuanta s p + signedQuanta t q
      if sum = 0 then zero (s && t) else ofQuanta (decide (sum < 0)) sum.natAbs 1

def sub (x y : Number) : Number := add x (neg y)

/-- Multiplication.  Zero times infinity is not a number. -/
def mul : Number → Number → Number
  | nan, _ | _, nan => nan
  | signed s p, signed t q =>
    if p.val = infinityPlace ∨ q.val = infinityPlace then
      if p.val = 0 ∨ q.val = 0 then nan else infinity (s != t)
    else ofQuanta (s != t) (quanta p * quanta q) one

/-- Division.  Only `0 / 0` and the quotient of two infinities are not numbers. -/
def div : Number → Number → Number
  | nan, _ | _, nan => nan
  | signed s p, signed t q =>
    if p.val = infinityPlace then
      if q.val = infinityPlace then nan else infinity (s != t)
    else if q.val = infinityPlace then zero (s != t)
    else if q.val = 0 then
      if p.val = 0 then nan else infinity (s != t)
    else ofQuanta (s != t) (quanta p * one) (quanta q)

/-- The remainder of division that truncates toward zero; its sign is that of the dividend. -/
def rem : Number → Number → Number
  | nan, _ | _, nan => nan
  | signed s p, signed _ q =>
    if p.val = infinityPlace ∨ q.val = 0 then nan
    else if q.val = infinityPlace then signed s p
    else ofQuanta s (quanta p % quanta q) 1

/-- The number without its fraction. -/
def trunc : Number → Number
  | nan => nan
  | signed s p =>
    if p.val = infinityPlace then signed s p else ofQuanta s (quanta p / one * one) 1

/-- Exponentiation.  An exponent that is not a number, or an infinite one over `1` or `-1`, has no power. -/
def pow (x y : Number) : Number :=
  if y.isNaN || (y.abs == infinity false && x.abs == ofNat 1) then nan
  else ofBits (Float.pow (Float.ofBits x.toBits) (Float.ofBits y.toBits)).toBits

/-- The smaller of two numbers that are both ordered. -/
def min (x y : Number) : Number := if compare? y x == some .lt then y else x

/-- The number without its fraction as a natural number below `2 ^ 64`, which larger numbers and those below
zero reach at the nearest end; not-a-number becomes zero. -/
def toIndex : Number → Nat
  | nan => 0
  | signed true _ => 0
  | signed false p => Nat.min (quanta p / one) (Nat.pow 2 64 - 1)

/-- The value of a finite number without its fraction. -/
def toInt : Number → Int
  | nan => 0
  | signed s p => if s then -((quanta p / one : Nat) : Int) else (quanta p / one : Nat)

end ExprLang.Number
