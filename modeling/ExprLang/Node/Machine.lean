import ExprLang.Node.Parser

/-!
# The parser as a machine

The grammar of `Node/Parser.lean` read by a machine that keeps one cursor in the tokens: a position and the depth of
nesting.  The machine indexes the tokens at its position, slices them from there, counts in machine words, and breaks
where this is not possible.  A construct that deepens the tree either saves the depth and restores it behind
itself or counts it down again.  Fuel bounds the depth of the recursion and has no part in the algorithm: a machine that
did not end would have no outcome, however much fuel it had.  All cursors that the machine has been at are kept in its
trail.
-/

namespace ExprLang.Machine

/-- Where the machine is in the tokens, and how deep. -/
structure Cursor where
  position : Nat
  depth : Nat

/-- The ways in which a machine breaks. -/
inductive Fault where
  | index
  | slice
  | overflow
  | underflow

/-- Why a run has stopped early. -/
inductive Stop where
  | rejected (error : SyntaxError)
  | broken (fault : Fault)

/-- The cursor and those before it, the latest first. -/
structure Trail where
  now : Cursor
  before : List Cursor

namespace Trail

/-- The trail of a machine that has not moved. -/
def start : Trail := ⟨⟨0, 0⟩, []⟩

/-- All cursors of a trail, the latest first. -/
def cursors (t : Trail) : List Cursor := t.now :: t.before

/-- The trail after a move. -/
def push (t : Trail) (c : Cursor) : Trail := ⟨c, t.cursors⟩

/-- The trail after a change of the position. -/
def toPosition (t : Trail) (position : Nat) : Trail := t.push { t.now with position }

/-- The trail after a move over tokens. -/
def past (t : Trail) (n : Nat) : Trail := t.toPosition (t.now.position + n)

/-- The trail after a change of the depth. -/
def toDepth (t : Trail) (depth : Nat) : Trail := t.push { t.now with depth }

/-- The tokens that are not read yet. -/
def rest (tokens : List Token) (t : Trail) : List Token := tokens.drop t.now.position

end Trail

/-- A run of the machine: it changes the trail and returns a result or stops early, unless its fuel does not last. -/
abbrev Run := ExceptT Stop (StateT Trail Option)

/-- What becomes of a run from a trail, if the fuel lasts. -/
def Run.outcome {α : Type} (action : Run α) (t : Trail) : Option (Except Stop α × Trail) := action.run.run t

/-! ### Instructions -/

def cursor : Run Cursor := return (← get).now

/-- What becomes of a run without fuel. -/
def exhausted {α : Type} : Run α := ExceptT.mk fun _ => none

def reject {α : Type} (e : SyntaxError) : Run α := throw (.rejected e)

/-- The sum of two words. -/
def plus (m n : Nat) : Run Nat := if m + n ≤ maxWord then return m + n else throw (.broken .overflow)

/-- The difference of two words. -/
def minus (m n : Nat) : Run Nat := if n ≤ m then return m - n else throw (.broken .underflow)

/-- The smallest range that holds two others. -/
def cover (r s : Range) : Run Range :=
  match r.cover? s with
  | some range => return range
  | none => throw (.broken .overflow)

def setDepth (depth : Nat) : Run Unit := modify (·.toDepth depth)

/-- Moves over tokens. -/
def advance (n : Nat) : Run Unit := do
  let position ← plus (← cursor).position n
  modify (·.toPosition position)

/-- Enters a construct that opens at an offset. -/
def descend (offset : Nat) : Run Unit := do
  let depth := (← cursor).depth
  if depth = maxDepth then reject (.unexpectedToken offset) else setDepth (← plus depth 1)

/-- Leaves a construct. -/
def ascend : Run Unit := do
  setDepth (← minus (← cursor).depth 1)

section
variable (allowRegex : Bool) (tokens : List Token)

/-- The token at the cursor, if there is one. -/
def peek : Run (Option Token) := return tokens[(← cursor).position]?

/-- The token at the cursor if it is a certain symbol. -/
def peekSymbol (c : Char) : Run (Option Token) := return (← peek tokens).filter (·.isSymbol c)

/-- The token at the cursor, which the machine relies on. -/
def current : Run Token := do
  match ← peek tokens with
  | some t => return t
  | none => throw (.broken .index)

/-- Reads a token, which must be there. -/
def nextRequired : Run Token := do
  match ← peek tokens with
  | some t =>
    advance 1
    return t
  | none => reject .endOfExpression

/-- Reads a symbol, which must be there. -/
def expectSymbol (c : Char) : Run Range := do
  let t ← nextRequired tokens
  if t.isSymbol c then return t.range else reject (.unexpectedToken t.offset)

/-- The operator at the cursor if it is in a table. -/
def matchOperator (table : OperatorTable) : Run (Option BinaryOp) := do
  let c ← cursor
  if c.position ≤ tokens.length then return Parser.globalRule table (tokens.drop c.position)
  else throw (.broken .slice)

/-! ### Parsers -/

mutual

/-- A conditional. -/
def conditional : Nat → Run Node
  | 0 => exhausted
  | fuel + 1 => do
    let condition ← binary fuel binaryLevels
    match ← peekSymbol tokens '?' with
    | none => return condition
    | some question =>
      advance 1
      let depth := (← cursor).depth
      descend question.offset
      let consequent ← conditional fuel
      let _ ← expectSymbol tokens ':'
      let alternate ← conditional fuel
      setDepth depth
      return .ternary (← cover condition.range alternate.range) condition consequent alternate

/-- A chain of the first of the levels, or an exponent if there is none. -/
def binary : Nat → List OperatorTable → Run Node
  | 0, _ => exhausted
  | fuel + 1, [] => exponent fuel
  | fuel + 1, table :: levels => do
    let depth := (← cursor).depth
    let left ← binary fuel levels
    let n ← folds fuel table levels left
    setDepth depth
    return n

/-- The loop over the operators of a table with their right operands. -/
def folds : Nat → OperatorTable → List OperatorTable → Node → Run Node
  | 0, _, _, _ => exhausted
  | fuel + 1, table, levels, left => do
    match ← matchOperator tokens table with
    | none => return left
    | some op =>
      descend (← current tokens).offset
      advance op.spelling.length
      let right ← binary fuel levels
      folds fuel table levels (.binary (← cover left.range right.range) op left right)

/-- An exponent. -/
def exponent : Nat → Run Node
  | 0 => exhausted
  | fuel + 1 => do
    let base ← unary fuel
    match ← matchOperator tokens exponentialLevel with
    | none => return base
    | some op =>
      let depth := (← cursor).depth
      descend (← current tokens).offset
      advance op.spelling.length
      let power ← exponent fuel
      setDepth depth
      return .binary (← cover base.range power.range) op base power

/-- A unary. -/
def unary : Nat → Run Node
  | 0 => exhausted
  | fuel + 1 => do
    match ← peek tokens with
    | none => member fuel
    | some t =>
      match Parser.unaryOp? t with
      | none => member fuel
      | some op =>
        let depth := (← cursor).depth
        descend t.offset
        advance 1
        let operand ← unary fuel
        setDepth depth
        return .unary (← cover t.range operand.range) op operand

/-- A member. -/
def member : Nat → Run Node
  | 0 => exhausted
  | fuel + 1 => do
    let depth := (← cursor).depth
    let object ← primary fuel
    let n ← steps fuel object
    setDepth depth
    return n

/-- The loop over the member reads and calls that follow an object. -/
def steps : Nat → Node → Run Node
  | 0, _ => exhausted
  | fuel + 1, object => do
    match ← peek tokens with
    | none => return object
    | some t =>
      if t.isSymbol '.' ∨ t.isSymbol '[' ∨ t.isSymbol '(' then
        descend t.offset
        advance 1
        if t.isSymbol '.' then
          let u ← nextRequired tokens
          match u.lexeme with
          | .identifier name =>
            steps fuel (.property (← cover object.range u.range) object (.constant u.range (.string name)))
          | _ => reject (.unexpectedToken u.offset)
        else if t.isSymbol '[' then
          let key ← conditional fuel
          let close ← expectSymbol tokens ']'
          steps fuel (.property (← cover object.range close) object key)
        else
          let (arguments, close) ← list fuel ')' false
          steps fuel (.call (← cover object.range close) object arguments)
      else return object

/-- A primary. -/
def primary : Nat → Run Node
  | 0 => exhausted
  | fuel + 1 => do
    let t ← nextRequired tokens
    match t.lexeme with
    | .literal v => return .constant t.range v
    | .identifier name => return .context t.range name
    | .regex pattern flags =>
      if allowRegex then return .regex t.range pattern flags else reject (.regexDisabled t.offset)
    | .symbol c =>
      if c = '(' then
        descend t.offset
        let inner ← conditional fuel
        let close ← expectSymbol tokens ')'
        ascend
        return inner.withRange (← cover t.range close)
      else if c = '[' then
        descend t.offset
        let (entries, close) ← list fuel ']' true
        ascend
        return .array (← cover t.range close) entries
      else reject (.unexpectedToken t.offset)

/-- A list after its opening bracket, up to the symbol `close`. -/
def list : Nat → Char → Bool → Run (List Node × Range)
  | 0, _, _ => exhausted
  | fuel + 1, close, trailing => do
    match ← peekSymbol tokens close with
    | some t =>
      advance 1
      return ([], t.range)
    | none => items fuel close trailing []

/-- The loop over the items of a list, those before being read. -/
def items : Nat → Char → Bool → List Node → Run (List Node × Range)
  | 0, _, _, _ => exhausted
  | fuel + 1, close, trailing, before => do
    let item ← conditional fuel
    let read := before ++ [item]
    let t ← nextRequired tokens
    if t.isSymbol close then return (read, t.range)
    else if t.isSymbol ',' then
      if trailing then
        match ← peekSymbol tokens close with
        | some u =>
          advance 1
          return (read, u.range)
        | none => items fuel close trailing read
      else items fuel close trailing read
    else reject (.unexpectedToken t.offset)

end

/-- The tree of all tokens. -/
def tree (fuel : Nat) : Run Node := do
  let n ← conditional allowRegex tokens fuel
  match ← peek tokens with
  | some t => reject (.unexpectedRemainder t.offset)
  | none => return n

end

end ExprLang.Machine
