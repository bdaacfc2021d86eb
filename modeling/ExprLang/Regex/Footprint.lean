import ExprLang.Regex.ByteRange
import ExprLang.Regex.Pattern
import Std.Data.HashMap

/-!
# The size of patterns

A pattern is accepted only if the automata over bytes that it stands for, one that reads texts forwards and one
that reads them backwards, take at most ten mebibytes each.  `Footprint` counts their states and bytes without
building them, and `Pattern.fits` is the test.

Repetitions are written out, and a set of characters beyond ASCII becomes a net of states for the bytes of its
characters.  Equal states of a net are shared as far as they are still found in a table of fixed size, in which
states with the same hash displace each other.
-/

namespace ExprLang.Regex

/-- The size of an automaton: its states, and the bytes they take beyond their fixed size. -/
structure Footprint where
  states : Nat
  extra : Nat

namespace Footprint

/-- The bytes of an automaton. -/
def bytes (f : Footprint) : Nat := 32 * f.states + f.extra

/-- The most bytes that an automaton may take. -/
def maxBytes : Nat := 10 * 1024 * 1024

def isTooLarge (f : Footprint) : Bool := maxBytes < f.bytes

/-- Adds a state. -/
def state (f : Footprint) : Footprint := { f with states := f.states + 1 }

/-- Adds bytes for ways on without a condition. -/
def ways (n : Nat) (f : Footprint) : Footprint := { f with extra := f.extra + 4 * n }

/-- Adds a state with ways on without a condition. -/
def fork (n : Nat) (f : Footprint) : Footprint := f.state.ways n

/-- Adds a state with ways on for byte ranges. -/
def ranges (n : Nat) (f : Footprint) : Footprint := ⟨f.states + 1, f.extra + 8 * n⟩

/-- Adds states. -/
def chain (n : Nat) (f : Footprint) : Footprint := { f with states := f.states + n }

/-! ## Sets of characters -/

/-- A table of states by the slots of their hashes, each slot with the last state put there. -/
abbrev Table (α : Type) := Std.HashMap Nat (α × Nat)

/-- The hash of a sequence of numbers. -/
def hash (numbers : List Nat) : UInt64 :=
  numbers.foldl (fun h n => (h ^^^ n.toUInt64) * 1099511628211) 14695981039346656037

/-- Finds a state by its slot and key. -/
def find? [DecidableEq α] (table : Table α) (slot : Nat) (key : α) : Option Nat :=
  table[slot]?.bind fun (other, state) => if other = key then some state else none

/-- Adds the states of a byte sequence, of which the last is entered first and the first leads to the state
`next`.  Returns the state entered first. -/
def addBackwards : List ByteRange → Nat → Table (Nat × ByteRange) → Footprint →
    Nat × Table (Nat × ByteRange) × Footprint
  | [], next, table, f => (next, table, f)
  | range :: rest, next, table, f =>
    let slot := (hash [next, range.first.toNat, range.last.toNat] % 1000).toNat
    match find? table slot (next, range) with
    | some found => addBackwards rest found table f
    | none => addBackwards rest f.states (table.insert slot ((next, range), f.states)) f.state

/-- Adds a set of characters read backwards: a fork to the last bytes of its sequences. -/
def addSetBackwards (s : CharSet) (f : Footprint) : Footprint :=
  let last := f.states + 1
  let sequences := s.intervals.flatMap fun (lo, hi) => byteSequences lo hi
  let (_, f) := sequences.foldl (fun (table, f) ranges =>
    let (_, table, f) := addBackwards ranges last table f
    (table, f.ways 1)) ((∅ : Table (Nat × ByteRange)), f.state.state)
  f

/-- Neighbouring sequences that begin with the same range, by that range. -/
def byFirst : List (List ByteRange) → List (ByteRange × List (List ByteRange))
  | [] => []
  | [] :: sequences => byFirst sequences
  | (range :: rest) :: sequences =>
    match byFirst sequences with
    | (other, rests) :: groups =>
      if range = other then (range, rest :: rests) :: groups else (range, [rest]) :: (other, rests) :: groups
    | [] => [(range, [rest])]

/-- Adds a state for byte sequences that all end in the state `last`, after those that it leads to.  The first
argument bounds the length of the sequences. -/
def addForwards (last : Nat) : Nat → List (List ByteRange) → Table (List (ByteRange × Nat)) → Footprint →
    Nat × Table (List (ByteRange × Nat)) × Footprint
  | 0, _, table, f => (last, table, f)
  | length + 1, sequences, table, f =>
    if sequences.all (·.isEmpty) then (last, table, f)
    else
      let (links, table, f) := (byFirst sequences).foldl (fun (links, table, f) (range, rests) =>
        let (next, table, f) := addForwards last length rests table f
        (links ++ [(range, next)], table, f)) ([], table, f)
      let numbers := links.flatMap fun (range, next) => [range.first.toNat, range.last.toNat, next]
      let slot := (hash numbers % 10000).toNat
      match find? table slot links with
      | some found => (found, table, f)
      | none => (f.states, table.insert slot (links, f.states), f.ranges links.length)

/-- Adds a set of characters read forwards. -/
def addSetForwards (s : CharSet) (f : Footprint) : Footprint :=
  let sequences := s.intervals.flatMap fun (lo, hi) => byteSequences lo hi
  (addForwards f.states 5 sequences ∅ f.state).2.2

/-- Adds a set of characters.  One of ASCII takes a single state with its ranges. -/
def addSet (backward : Bool) (s : CharSet) (f : Footprint) : Footprint :=
  if s.isAscii then f.state.ranges s.intervals.length
  else if backward then addSetBackwards s f
  else addSetForwards s f

/-! ## Alternatives of texts -/

/-- The bytes of a text. -/
def bytesOf (text : List Char) : List UInt8 := text.flatMap String.utf8EncodeChar

/-- Divides texts into runs at those that are empty; empty texts before all others count once. -/
def runs (texts : List (List UInt8)) : List (List (List UInt8)) :=
  let rest := texts.dropWhile (·.isEmpty)
  let divided := rest.foldr (fun text runs =>
    match text, runs with
    | [], runs => [] :: runs
    | text, run :: runs => (text :: run) :: runs
    | text, [] => [[text]]) [[]]
  if rest.length < texts.length then [] :: divided else divided

/-- Adds what is left of a text to those that begin with the same byte. -/
def insertRest (byte : UInt8) (rest : List UInt8) :
    List (UInt8 × List (List UInt8)) → List (UInt8 × List (List UInt8))
  | [] => [(byte, [rest])]
  | (other, rests) :: groups =>
    if byte = other then (other, rest :: rests) :: groups else (other, rests) :: insertRest byte rest groups

/-- Texts by their first bytes. -/
def byFirstByte (texts : List (List UInt8)) : List (UInt8 × List (List UInt8)) :=
  texts.foldr (fun text groups =>
    match text with
    | [] => groups
    | byte :: rest => insertRest byte rest groups) []

/-- Adds the states of a tree of texts that leads to one common end.  A run of texts takes a state with a way on
for each first byte, and a fork leads to the runs and, between them, to the end.  The first argument bounds the
length of the texts. -/
def addTree : Nat → List (List UInt8) → Footprint → Footprint
  | 0, _, f => f
  | length + 1, texts, f =>
    if texts.all (·.isEmpty) then f
    else
      let divided := runs texts
      let f := divided.foldl (fun f run =>
        let groups := byFirstByte run
        let f := groups.foldl (fun f (_, rests) => addTree length rests f) f
        match groups.length with
        | 0 => f
        | 1 => f.state
        | n => f.ranges n) f
      f.fork (divided.length - 1 + (divided.filter (!·.isEmpty)).length)

/-- Adds alternatives of texts. -/
def addTexts (backward : Bool) (texts : List (List Char)) (f : Footprint) : Footprint :=
  let texts := texts.map fun text => if backward then (bytesOf text).reverse else bytesOf text
  addTree ((texts.map (·.length)).foldl max 0 + 1) texts f.state

/-! ## Patterns -/

/-- Repeats a step until the automaton is too large. -/
def times (step : Footprint → Footprint) : Nat → Footprint → Footprint
  | 0, f => f
  | n + 1, f => if f.isTooLarge then f else times step n (step f)

/-- Adds copies one after the other. -/
def copies (step : Footprint → Footprint) (n : Nat) (f : Footprint) : Footprint :=
  if n = 0 then f.state else times step n f

/-- Adds a repetition of what `step` adds.  `consumes` tells whether each round takes characters. -/
def addRepetition (step : Footprint → Footprint) (consumes : Bool) (least : Nat) (most : Option Nat)
    (f : Footprint) : Footprint :=
  match least, most with
  | 0, some 1 => (step (f.fork 2)).state
  | least, some most =>
    if least = most then copies step least f
    else times (fun f => step (f.fork 2)) (most - least) (copies step least f).state
  | 0, none => if consumes then step (f.fork 2) else (((step f).fork 2).fork 2).state
  | 1, none => (step f).fork 2
  | least + 1, none => (step (copies step least f)).fork 2

/-- Adds what joins the branches of alternatives, after the one that has just been added. -/
def join (branch : Nat) (f : Footprint) : Footprint :=
  match branch with
  | 0 => f
  | 1 => (f.fork 2).state
  | _ => f.ways 1

/-- The text of a pattern that is one. -/
def text? : Pattern → Option (List Char)
  | .literal text => some text
  | _ => none

/-- Adds a pattern, which may be what is left of alternatives after a number of branches. -/
def add (backward : Bool) : Pattern → Nat → Footprint → Footprint
  | .empty, branch, f => f.state.join branch
  | .literal text, branch, f => (f.chain (bytesOf text).length).join branch
  | .set s _, branch, f => (addSet backward s f).join branch
  | .anchor _, branch, f => f.state.join branch
  | .seq p q, branch, f =>
    (if backward then add backward p 0 (add backward q 0 f) else add backward q 0 (add backward p 0 f)).join branch
  | .alt p q, branch, f =>
    match if branch = 0 then (Pattern.alt p q).branches.mapM text? else none with
    | some texts => addTexts backward texts f
    | none => add backward q (branch + 1) ((add backward p 0 f).join branch)
  | .repetition p least most _, branch, f =>
    (addRepetition (add backward p 0) p.alwaysConsumes least most f).join branch
  | .group _ p, branch, f => (if backward then add backward p 0 f else (add backward p 0 f.state).state).join branch

/-- The size of the automaton of a pattern, with a loop before it if a match can start anywhere. -/
def ofPattern (backward : Bool) (p : Pattern) : Footprint :=
  let anchored := if backward then p.endsText else p.startsText
  let start : Footprint := ⟨0, 0⟩
  let start := if anchored then start.state else (start.fork 2).state.ranges 1
  if backward then (add true p 0 start).state else (add false p 0 start.state).state.state

end Footprint

/-- The number of texts from which alternatives are looked for by themselves, without an automaton over bytes. -/
def Pattern.manyTexts : Nat := 3000

/-- Whether the automata of a pattern are small enough. -/
def Pattern.fits (p : Pattern) : Bool :=
  (p.branches.all fun p => (Footprint.text? p).isSome) && Pattern.manyTexts ≤ p.branches.length ||
    !(Footprint.ofPattern false p).isTooLarge && !(Footprint.ofPattern true p).isTooLarge

end ExprLang.Regex
