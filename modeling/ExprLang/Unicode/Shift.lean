/-!
# Shifts of characters

Mappings between characters, such as those of case, move long runs of code points by the same amount.  A `Shift`
is one such run.
-/

namespace ExprLang.Unicode

/-- Moves every `step`-th code point from `first` to `last` by `offset`. -/
structure Shift where
  first : Nat
  last : Nat
  step : Nat
  offset : Int

namespace Shift

/-- Whether a code point is one of those that the shift moves. -/
def covers (s : Shift) (code : Nat) : Bool :=
  s.first ≤ code && code ≤ s.last && (code - s.first) % s.step == 0

/-- The image of a character that the shift moves. -/
def image? (s : Shift) (c : Char) : Option Char :=
  if s.covers c.toNat then some (Char.ofNat ((c.toNat : Int) + s.offset).toNat) else none

/-- The code points of an interval that the shift moves. -/
def within (s : Shift) (lo hi : Nat) : List Nat :=
  if hi < s.first || s.last < lo then []
  else
    let start := s.first + s.step * ((lo - s.first + (s.step - 1)) / s.step)
    List.range' start ((min hi s.last + s.step - start) / s.step) s.step

/-- The images of the code points of an interval. -/
def images (s : Shift) (lo hi : Nat) : List Nat :=
  (s.within lo hi).map fun n : Nat => ((n : Int) + s.offset).toNat

/-- The code points whose image lies in an interval. -/
def preimages (s : Shift) (lo hi : Nat) : List Nat :=
  let last := (hi : Int) - s.offset
  if last < 0 then [] else s.within ((lo : Int) - s.offset).toNat last.toNat

end Shift

end ExprLang.Unicode
