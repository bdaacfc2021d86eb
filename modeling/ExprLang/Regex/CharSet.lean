import ExprLang.Unicode.Blank
import ExprLang.Unicode.CaseFold
import ExprLang.Unicode.Word

/-!
# Sets of characters

The sets that a regular expression can name, as intervals of code points in ascending order: the three classes of
digits, white space and word characters, and what is made from sets by their operations.  `ofIntervals` brings
intervals into the form in which they neither overlap nor touch, so that equal sets look the same.
-/

namespace ExprLang.Regex

/-- A set of characters. -/
structure CharSet where
  intervals : Unicode.Intervals
  deriving DecidableEq

/-- The named classes. -/
inductive CharClass where
  | digit
  | space
  | word
  deriving DecidableEq

/-- The characters of a class. -/
def CharClass.set : CharClass → CharSet
  | digit => ⟨Unicode.decimalDigits⟩
  | space => ⟨Unicode.blanks⟩
  | word => ⟨Unicode.wordChars⟩

/-- The characters of a class that belong to ASCII. -/
def CharClass.asciiSet : CharClass → CharSet
  | digit => ⟨[(0x30, 0x39)]⟩
  | space => ⟨[(0x9, 0xD), (0x20, 0x20)]⟩
  | word => ⟨[(0x30, 0x39), (0x41, 0x5A), (0x5F, 0x5F), (0x61, 0x7A)]⟩

namespace CharSet

/-- Whether a character belongs to a set. -/
def contains (s : CharSet) (c : Char) : Bool := s.intervals.contains c

def empty : CharSet := ⟨[]⟩

/-- The last code point. -/
def lastCode : Nat := 0x10FFFF

/-- The code point after another; there is none between `0xD7FF` and `0xE000`. -/
def nextCode (n : Nat) : Nat := if n = 0xD7FF then 0xE000 else n + 1

/-- The code point before another. -/
def prevCode (n : Nat) : Nat := if n = 0xE000 then 0xD7FF else n - 1

/-- Puts an interval before others, none of which starts before it, and merges it with those it reaches. -/
def join (first last : Nat) : Unicode.Intervals → Unicode.Intervals
  | [] => [(first, last)]
  | (lo, hi) :: rest => if lo ≤ last + 1 then join first (max last hi) rest else (first, last) :: (lo, hi) :: rest

/-- The characters of any intervals. -/
def ofIntervals (intervals : Unicode.Intervals) : CharSet :=
  ⟨(intervals.mergeSort fun i j => i.1 ≤ j.1).foldr (fun (lo, hi) rest => join lo hi rest) []⟩

/-- The characters from one to another, both included. -/
def interval (first last : Char) : CharSet := ⟨[(first.toNat, last.toNat)]⟩

/-- The set of one character. -/
def single (c : Char) : CharSet := interval c c

/-- The intervals between those given, the first of which start after `last`.  Where nothing is left between two
intervals, as around the gap in the code points, their ends are taken for the interval between them. -/
def gapsAfter (last : Nat) : Unicode.Intervals → Unicode.Intervals
  | [] => if last < lastCode then [(nextCode last, lastCode)] else []
  | (lo, hi) :: rest =>
    let first := nextCode last
    (min first (prevCode lo), max first (prevCode lo)) :: gapsAfter hi rest

/-- The characters that do not belong to a set. -/
def compl (s : CharSet) : CharSet :=
  match s.intervals with
  | [] => ⟨[(0, lastCode)]⟩
  | (lo, hi) :: rest => ⟨(if lo = 0 then [] else [(0, prevCode lo)]) ++ gapsAfter hi rest⟩

/-- The characters of either of two sets. -/
def union (s t : CharSet) : CharSet := ofIntervals (s.intervals ++ t.intervals)

/-- The characters of both of two sets. -/
def inter (s t : CharSet) : CharSet :=
  ⟨s.intervals.flatMap fun (a, b) => t.intervals.filterMap fun (c, d) =>
    if max a c ≤ min b d then some (max a c, min b d) else none⟩

/-- What is left of an interval without others. -/
def cut (first last : Nat) : Unicode.Intervals → Unicode.Intervals
  | [] => [(first, last)]
  | (lo, hi) :: rest =>
    if hi < first then cut first last rest
    else if last < lo then [(first, last)]
    else
      (if first < lo then [(first, prevCode lo)] else []) ++
        (if hi < last then cut (nextCode hi) last rest else [])

/-- The characters of one set that are not in another. -/
def diff (s t : CharSet) : CharSet := ⟨s.intervals.flatMap fun (lo, hi) => cut lo hi t.intervals⟩

/-- The characters of exactly one of two sets. -/
def symmDiff (s t : CharSet) : CharSet := diff (union s t) (inter s t)

/-- Adds single code points, computed from each interval. -/
def extend (f : Nat → Nat → List Nat) (s : CharSet) : CharSet :=
  ofIntervals (s.intervals ++ s.intervals.flatMap fun (lo, hi) => (f lo hi).map fun n => (n, n))

/-- All characters equal to one of the set under a folding of case: first those that the characters of the set
fold to, then those that fold to one of these. -/
def folded (folding : List Unicode.Shift) (s : CharSet) : CharSet :=
  (s.extend fun lo hi => folding.flatMap (·.images lo hi)).extend fun lo hi =>
    folding.flatMap (·.preimages lo hi)

/-- Whether all characters of a set belong to ASCII. -/
def isAscii (s : CharSet) : Bool := s.intervals.all fun (_, hi) => hi < 128

end CharSet

end ExprLang.Regex
