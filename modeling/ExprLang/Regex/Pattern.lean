import ExprLang.Regex.Anchor
import ExprLang.Regex.CharSet

/-!
# Patterns

What a regular expression means, once its flags have been applied: texts, sets of characters, anchors, and their
sequences, ordered alternatives and repetitions.

Patterns are kept in a normal form, which the functions of this module establish.  A sequence is nested to the
right, has no empty parts and joins neighbouring texts; alternatives are nested to the right too, those of single
characters make up one set, and parts with which all of them begin are taken out in front.  The last step can change
which match is preferred: `a?a|a?b` prefers what `a?[ab]` does.
-/

namespace ExprLang.Regex

/-- A pattern.  Of two alternatives the first is preferred, and a repetition prefers more rounds if it is greedy,
fewer if not.  A set read without Unicode is marked, and does not equal one read with it. -/
inductive Pattern where
  | empty
  | literal (text : List Char)
  | set (chars : CharSet) (ascii : Bool)
  | anchor (a : Anchor)
  | seq (p q : Pattern)
  | alt (p q : Pattern)
  | repetition (p : Pattern) (least : Nat) (most : Option Nat) (greedy : Bool)
  | group (index : Nat) (p : Pattern)
  deriving DecidableEq

namespace Pattern

/-! ## Lengths and anchors -/

/-- Whether a match of a pattern can take characters at all. -/
def consumes : Pattern → Bool
  | empty | anchor _ => false
  | literal _ | set .. => true
  | seq p q | alt p q => p.consumes || q.consumes
  | repetition p .. | group _ p => p.consumes

/-- The least number of characters that a match takes, unless some part of the pattern is a set without
characters. -/
def leastLength? : Pattern → Option Nat
  | empty | anchor _ => some 0
  | literal text => some text.length
  | set chars _ => if chars.intervals.isEmpty then none else some 1
  | seq p q => do return (← p.leastLength?) + (← q.leastLength?)
  | alt p q => do return min (← p.leastLength?) (← q.leastLength?)
  | repetition p least _ _ => do return (← p.leastLength?) * least
  | group _ p => p.leastLength?

/-- Whether every match takes characters. -/
def alwaysConsumes (p : Pattern) : Bool := p.leastLength?.any (0 < ·)

/-- Whether every match starts at the start of the text. -/
def startsText : Pattern → Bool
  | empty | literal _ | set .. => false
  | anchor a => a == .textStart
  | seq p q => p.startsText || (!p.consumes && q.startsText)
  | alt p q => p.startsText && q.startsText
  | repetition p least _ _ => 0 < least && p.startsText
  | group _ p => p.startsText

/-- Whether every match ends at the end of the text. -/
def endsText : Pattern → Bool
  | empty | literal _ | set .. => false
  | anchor a => a == .textEnd
  | seq p q => q.endsText || (!q.consumes && p.endsText)
  | alt p q => p.endsText && q.endsText
  | repetition p least _ _ => 0 < least && p.endsText
  | group _ p => p.endsText

/-! ## Sets and repetitions -/

/-- The pattern of a set: a text if the set has one character. -/
def ofSet (s : CharSet) (ascii : Bool) : Pattern :=
  match s.intervals with
  | [] => set s true
  | [(lo, hi)] => if lo = hi then literal [Char.ofNat lo] else set s ascii
  | _ => set s ascii

/-- A pattern repeated.  More than one round makes no difference if none of them takes a character. -/
def repeated (p : Pattern) (least : Nat) (most : Option Nat) (greedy : Bool) : Pattern :=
  let (least, most) := if p.consumes then (least, most) else (min least 1, some (min (most.getD 1) 1))
  if least = 0 ∧ most = some 0 then empty
  else if least = 1 ∧ most = some 1 then p
  else repetition p least most greedy

/-! ## Sequences -/

/-- The parts of a sequence. -/
def parts : Pattern → List Pattern
  | empty => []
  | seq p q => p :: q.parts
  | p => [p]

/-- The sequence of given parts. -/
def ofParts : List Pattern → Pattern
  | [] => empty
  | [p] => p
  | p :: ps => seq p (ofParts ps)

/-- Puts a part before others, and joins texts. -/
def glue (p : Pattern) (ps : List Pattern) : List Pattern :=
  match p, ps with
  | literal s, literal t :: ps => literal (s ++ t) :: ps
  | p, ps => p :: ps

/-- The sequence of patterns. -/
def sequence (ps : List Pattern) : Pattern := ofParts ((ps.flatMap parts).foldr glue [])

/-! ## Alternatives -/

/-- The branches of alternatives. -/
def branches : Pattern → List Pattern
  | alt p q => p :: q.branches
  | p => [p]

/-- The alternatives of given branches; without any there is no match. -/
def ofBranches : List Pattern → Pattern
  | [] => ofSet .empty true
  | [p] => p
  | p :: ps => alt p (ofBranches ps)

/-- The character of a pattern that is one. -/
def char? : Pattern → Option Char
  | literal [c] => some c
  | _ => none

/-- The set of a pattern that is one. -/
def set? : Pattern → Option CharSet
  | set s _ => some s
  | _ => none

/-- The union of sets. -/
def unionOf (sets : List CharSet) : CharSet := .ofIntervals (sets.flatMap (·.intervals))

/-- Branches as one set, if all of them are single characters or all of them are sets. -/
def asSet? (ps : List Pattern) : Option CharSet :=
  (ps.mapM fun p => p.char?.map CharSet.single) <|> ps.mapM set? |>.map unionOf

/-- Alternatives of patterns, which may be alternatives themselves. -/
def merged (ps : List Pattern) : Pattern :=
  match ps.flatMap branches with
  | [p] => p
  | ps => (asSet? ps).elim (ofBranches ps) (ofSet · false)

/-- The parts that two sequences begin with. -/
def sharedParts : List Pattern → List Pattern → List Pattern
  | p :: ps, q :: qs => if p = q then p :: sharedParts ps qs else []
  | _, _ => []

/-- The parts that all branches begin with, if all of them are sequences. -/
def commonParts (ps : List Pattern) : List Pattern :=
  if ps.all fun p => 1 < p.parts.length then
    match ps.map parts with
    | [] => []
    | p :: ps => ps.foldl sharedParts p
  else []

/-- Alternatives of patterns.  The parts that all of them begin with come first. -/
def alternatives (ps : List Pattern) : Pattern :=
  match ps.flatMap branches with
  | [p] => p
  | ps =>
    match asSet? ps, commonParts ps with
    | some s, _ => ofSet s false
    | none, [] => ofBranches ps
    | none, common => sequence (common ++ [merged (ps.map fun p => sequence (p.parts.drop common.length))])

end Pattern

end ExprLang.Regex
