import ExprLang.Regex.CharSet

/-!
# Sets of characters as ranges of bytes

The characters of an interval, written as bytes in UTF-8, are those of a few sequences of byte ranges.
`byteSequences` finds them: an interval is divided where the number of bytes changes, and then into blocks whose
characters differ in their last bytes only, each of these running through all its values.
-/

namespace ExprLang.Regex

/-- The bytes from one to another, both included. -/
structure ByteRange where
  first : UInt8
  last : UInt8
  deriving DecidableEq

/-- Divides an interval of code points into blocks.  `width` is the number of code points that share all bytes but
the last few, and `levels` how many more bytes may vary. -/
def blocks : Nat → Nat → Nat → Nat → List (Nat × Nat)
  | 0, _, lo, hi => [(lo, hi)]
  | levels + 1, width, lo, hi =>
    if lo / width = hi / width then [(lo, hi)]
    else
      let first := (lo + (width - 1)) / width * width
      let past := (hi + 1) / width * width
      (if lo < first then [(lo, first - 1)] else []) ++
        (if first < past then blocks levels (64 * width) first (past - 1) else []) ++
          (if past ≤ hi then [(past, hi)] else [])

/-- The code points beyond ASCII by the number of their bytes, without those that are no characters. -/
def encodedAlike : Unicode.Intervals := [(0x80, 0x7FF), (0x800, 0xD7FF), (0xE000, 0xFFFF), (0x10000, 0x10FFFF)]

/-- The byte ranges between the bytes of two characters. -/
def bytesBetween (lo hi : Nat) : List ByteRange :=
  List.zipWith ByteRange.mk (String.utf8EncodeChar (.ofNat lo)) (String.utf8EncodeChar (.ofNat hi))

/-- The sequences of byte ranges of an interval of code points, in ascending order. -/
def byteSequences (lo hi : Nat) : List (List ByteRange) :=
  (if lo < 0x80 then [bytesBetween lo (min hi 0x7F)] else []) ++
    encodedAlike.flatMap fun (first, last) =>
      if max lo first ≤ min hi last then
        (blocks 3 64 (max lo first) (min hi last)).map fun (lo, hi) => bytesBetween lo hi
      else []

end ExprLang.Regex
