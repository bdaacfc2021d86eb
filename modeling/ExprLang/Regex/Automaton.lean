import ExprLang.Regex.Pattern

/-!
# Automata

A pattern becomes a nondeterministic automaton whose forks are ordered: of two ways on, the first is preferred.
States are built from the end, each knowing the states that follow it; only a loop is entered before its body is
known and filled in afterwards.
-/

namespace ExprLang.Regex

/-- A state of an automaton. -/
inductive State where
  | accept
  | consume (set : CharSet) (next : Nat)
  | check (a : Anchor) (next : Nat)
  | fork (preferred other : Nat)

/-- An automaton: its states and the one to start from. -/
structure Automaton where
  states : Array State
  start : Nat

namespace Automaton

/-- A fork between going on with a body and going past it. -/
def forkTo (greedy : Bool) (body past : Nat) : State :=
  if greedy then .fork body past else .fork past body

/-- Adds `n` copies of what `add` adds, one leading to the next, before the state `next`. -/
def addCopies (add : Nat → Array State → Nat × Array State) : Nat → Nat → Array State → Nat × Array State
  | 0, next, states => (next, states)
  | n + 1, next, states =>
    let (start, states) := add next states
    addCopies add n start states

/-- Adds a chain of `n` copies that may be left before each of them for the state `past`. -/
def addOptional (add : Nat → Array State → Nat × Array State) (greedy : Bool) (past : Nat) :
    Nat → Nat → Array State → Nat × Array State
  | 0, next, states => (next, states)
  | n + 1, next, states =>
    let (body, states) := add next states
    addOptional add greedy past n states.size (states.push (forkTo greedy body past))

/-- Adds one or more rounds of what `add` adds before the state `past`. -/
def addLoop (add : Nat → Array State → Nat × Array State) (greedy : Bool) (past : Nat) (states : Array State) :
    Nat × Array State :=
  let loop := states.size
  let (body, states) := add loop (states.push .accept)
  (body, states.setIfInBounds loop (forkTo greedy body past))

/-- Adds the states of a pattern before the state `next`, and returns the first of them. -/
def add : Pattern → Nat → Array State → Nat × Array State
  | .empty, next, states => (next, states)
  | .literal text, next, states =>
    text.foldr (fun c (next, states) => (states.size, states.push (.consume (.single c) next))) (next, states)
  | .set s _, next, states => (states.size, states.push (.consume s next))
  | .anchor a, next, states => (states.size, states.push (.check a next))
  | .seq p q, next, states =>
    let (middle, states) := add q next states
    add p middle states
  | .alt p q, next, states =>
    let (left, states) := add p next states
    let (right, states) := add q next states
    (states.size, states.push (.fork left right))
  | .group _ p, next, states => add p next states
  | .repetition p least (some most) greedy, next, states =>
    let (optional, states) := addOptional (add p) greedy next (most - least) next states
    addCopies (add p) least optional states
  | .repetition p 0 none greedy, next, states =>
    let (body, states) := addLoop (add p) greedy next states
    (states.size, states.push (forkTo greedy body next))
  | .repetition p (least + 1) none greedy, next, states =>
    let (body, states) := addLoop (add p) greedy next states
    addCopies (add p) least body states

/-- The automaton of a pattern. -/
def ofPattern (p : Pattern) : Automaton :=
  let (start, states) := add p 0 #[.accept]
  ⟨states, start⟩

end Automaton

end ExprLang.Regex
