import ExprLang.Regex.Automaton

/-!
# Searching with automata

A search runs all ways through the automaton side by side, ordered by preference: a thread that reaches a state
after another one is dropped, and one that accepts drops all that come after it.  The match found is thus the
leftmost one, and among those that start there the preferred one.
-/

namespace ExprLang.Regex.Automaton

/-- The threads at a place in the text: the states entered so far, and those that wait for a character or accept,
each with the place where its match starts, in order of preference. -/
structure Threads where
  entered : Array Bool
  waiting : List (Nat × Nat)

/-- Enters a state and all states that follow it without a character; the first number bounds the depth and
`waiting` is in reverse order. -/
def enter (m : Automaton) (before after : Option Char) (start : Nat) : Nat → Nat → Threads → Threads
  | 0, _, t => t
  | depth + 1, s, ⟨entered, waiting⟩ =>
    if entered.getD s true then ⟨entered, waiting⟩
    else
      let entered := entered.setIfInBounds s true
      match m.states[s]? with
      | none => ⟨entered, waiting⟩
      | some .accept => ⟨entered, (s, start) :: waiting⟩
      | some (.consume ..) => ⟨entered, (s, start) :: waiting⟩
      | some (.check a next) =>
        if a.holds before after then enter m before after start depth next ⟨entered, waiting⟩
        else ⟨entered, waiting⟩
      | some (.fork preferred other) =>
        enter m before after start depth other (enter m before after start depth preferred ⟨entered, waiting⟩)

/-- The threads before the first that accepts, and where the match of that one starts. -/
def upToAccept (m : Automaton) : List (Nat × Nat) → List (Nat × Nat) × Option Nat
  | [] => ([], none)
  | (s, start) :: threads =>
    match m.states[s]? with
    | some .accept => ([], some start)
    | _ =>
      let (live, accepted) := upToAccept m threads
      ((s, start) :: live, accepted)

/-- Where a thread goes on a character. -/
def step (m : Automaton) (c : Char) (thread : Nat × Nat) : Option (Nat × Nat) :=
  match m.states[thread.1]? with
  | some (.consume set next) => if set.contains c then some (next, thread.2) else none
  | _ => none

/-- Goes on with a search at a place in the text.  Until a match is found, a new thread starts at every place. -/
def run (m : Automaton) (before : Option Char) (place : Nat) (threads : List (Nat × Nat))
    (best : Option (Nat × Nat)) (text : List Char) : Option (Nat × Nat) :=
  let depth := m.states.size + 1
  let unentered : Threads := ⟨Array.replicate m.states.size false, []⟩
  let old := threads.foldl (fun t (s, start) => m.enter before text.head? start depth s t) unentered
  let all := if best.isNone then m.enter before text.head? place depth m.start old else old
  let (live, accepted) := m.upToAccept all.waiting.reverse
  let best := match accepted with
    | some start => some (start, place)
    | none => best
  match text with
  | [] => best
  | c :: text =>
    let threads := live.filterMap (m.step c)
    if threads.isEmpty && best.isSome then best else run m (some c) (place + 1) threads best text

/-- The first match in a text, by its two ends. -/
def find? (m : Automaton) (text : List Char) : Option (Nat × Nat) := m.run none 0 [] none text

/-- The character before the place where `n` characters of a text have been passed. -/
def charBefore (before : Option Char) (text : List Char) (n : Nat) : Option Char :=
  if n = 0 then before else text[n - 1]?

/-- The first match in what is left of a text at a place.  A match that is empty and ends where the previous one
ended is passed over. -/
def next? (m : Automaton) (before : Option Char) (place : Nat) (lastEnd : Option Nat) (text : List Char) :
    Option (Nat × Nat) :=
  match m.run before place [] none text with
  | none => none
  | some (first, last) =>
    if first = last ∧ lastEnd = some last then
      match text with
      | [] => none
      | c :: text => m.run (some c) (place + 1) [] none text
    else some (first, last)

/-- The pieces of a text between its matches, which do not overlap.  The first number bounds their number, and
`place` is where the text starts. -/
def pieces (m : Automaton) : Nat → Option Char → Nat → Option Nat → List Char → List (List Char)
  | 0, _, _, _, text => [text]
  | fuel + 1, before, place, lastEnd, text =>
    match m.next? before place lastEnd text with
    | none => [text]
    | some (first, last) =>
      text.take (first - place) ::
        pieces m fuel (charBefore before text (last - place)) last (some last) (text.drop (last - place))

/-- Whether a text holds a match. -/
def isMatch (m : Automaton) (text : List Char) : Bool := (m.find? text).isSome

/-- The pieces of a text between the matches. -/
def split (m : Automaton) (text : List Char) : List (List Char) := m.pieces (text.length + 2) none 0 none text

end ExprLang.Regex.Automaton
