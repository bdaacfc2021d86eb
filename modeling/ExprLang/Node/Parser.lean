import ExprLang.Error
import ExprLang.Node.Basic
import ExprLang.Token.Basic

/-!
# From tokens to trees

The grammar, loosest first:

* `conditional`: a chain of the loosest level, or a chain, `?`, a conditional, `:` and a conditional;
* `chain`, for each level: operands of the next level with operators of this one between them, grouped from the
  left; past the last level, an exponent;
* `exponent`: a unary, or a unary, `**` and an exponent;
* `unary`: `+`, `-`, `!` or `typeof` before a unary, or a member;
* `member`: a primary, followed by any number of `.name`, `[conditional]` and `(arguments)`;
* `primary`: a literal, a name, a regular expression, a conditional in brackets or an array.

Brackets, prefixes, right operands, member steps and the branches of a conditional take one from a budget; left
operands start with the budget of their whole.  Every parser takes the budget and the remaining tokens, and returns
what it has read and the tokens after it.
-/

namespace ExprLang

/-- The budget of an expression. -/
def maxDepth : Nat := 128

namespace Parser

/-- The symbols at the front of the tokens, as many as an operator may have. -/
def symbolRun (ts : List Token) : List Char :=
  (((ts.take maxOperatorLength).map Token.symbol?).takeWhile Option.isSome).filterMap id

/-- A rule that reads an operator of a table from the front of the tokens. -/
abbrev OperatorRule := OperatorTable → List Token → Option BinaryOp

/-- The longest operator of all is read, and it must be in the table. -/
def globalRule : OperatorRule := fun table ts =>
  (longestOperator? allOperators (symbolRun ts)).filter table.contains

/-- The longest operator of the table is read. -/
def levelRule : OperatorRule := fun table ts => longestOperator? table (symbolRun ts)

/-- What an expression may hold, and how operators are read. -/
structure Grammar where
  allowRegex : Bool
  rule : OperatorRule := globalRule

/-- The token at the front, which must be there. -/
def next : List Token → Except SyntaxError (Token × List Token)
  | [] => .error .endOfExpression
  | t :: ts => .ok (t, ts)

/-- The range of the symbol at the front, which must be `c`. -/
def expect (c : Char) (ts : List Token) : Except SyntaxError (Range × List Token) := do
  let (t, ts) ← next ts
  if t.isSymbol c then return (t.range, ts) else throw (.unexpectedToken t.offset)

/-- The offset of the token at the front. -/
def offset (ts : List Token) : Nat := (ts.head?.map Token.offset).getD 0

/-- The operator before an operand. -/
def unaryOp? (t : Token) : Option UnaryOp :=
  match t.lexeme with
  | .symbol '+' => some .plus
  | .symbol '-' => some .minus
  | .symbol '!' => some .not
  | .identifier name => if name = "typeof" then some .typeOf else none
  | _ => none

/-- The rest of a list whose items `item` reads, up to the symbol `close`; the first number bounds the items.  After
a comma the list may end only if `trailing` allows it. -/
def items (item : List Token → Except SyntaxError (Node × List Token)) (close : Char) (trailing : Bool) :
    Nat → List Token → Except SyntaxError ((List Node × Range) × List Token)
  | 0, _ => .error .endOfExpression
  | fuel + 1, ts => do
    let (first, ts) ← item ts
    let (t, ts) ← next ts
    if t.isSymbol close then return (([first], t.range), ts)
    else if t.isSymbol ',' then
      match ts with
      | u :: rest =>
        if trailing && u.isSymbol close then return (([first], u.range), rest)
        else
          let ((more, range), ts) ← items item close trailing fuel ts
          return ((first :: more, range), ts)
      | [] =>
        let ((more, range), ts) ← items item close trailing fuel ts
        return ((first :: more, range), ts)
    else throw (.unexpectedToken t.offset)

/-- A list after its opening bracket. -/
def list (item : List Token → Except SyntaxError (Node × List Token)) (close : Char) (trailing : Bool)
    (ts : List Token) : Except SyntaxError ((List Node × Range) × List Token) :=
  match ts with
  | t :: rest => if t.isSymbol close then .ok (([], t.range), rest) else items item close trailing (ts.length + 1) ts
  | [] => items item close trailing 1 []

mutual

/-- A conditional. -/
def conditional (g : Grammar) (budget : Nat) (ts : List Token) : Except SyntaxError (Node × List Token) := do
  let (condition, ts) ← chain g budget binaryLevels ts
  match ts with
  | [] => return (condition, [])
  | t :: rest =>
    if t.isSymbol '?' then
      match budget with
      | 0 => throw (.unexpectedToken t.offset)
      | budget + 1 =>
        let (consequent, ts) ← conditional g budget rest
        let (_, ts) ← expect ':' ts
        let (alternate, ts) ← conditional g budget ts
        return (.ternary (condition.range.cover alternate.range) condition consequent alternate, ts)
    else return (condition, t :: rest)
termination_by (budget, binaryLevels.length + 7)

/-- A chain of the first of the levels, or an exponent if there is none. -/
def chain (g : Grammar) (budget : Nat) (levels : List OperatorTable) (ts : List Token) :
    Except SyntaxError (Node × List Token) :=
  match levels with
  | [] => exponent g budget ts
  | table :: levels => do
    let (left, ts) ← chain g budget levels ts
    folds g budget table levels left ts
termination_by (budget, levels.length + 6)

/-- The operators of a table with their right operands that follow a left operand. -/
def folds (g : Grammar) (budget : Nat) (table : OperatorTable) (levels : List OperatorTable) (left : Node)
    (ts : List Token) : Except SyntaxError (Node × List Token) :=
  match g.rule table ts with
  | none => .ok (left, ts)
  | some op =>
    match budget with
    | 0 => .error (.unexpectedToken (offset ts))
    | budget + 1 => do
      let (right, ts) ← chain g budget levels (ts.drop op.spelling.length)
      folds g budget table levels (.binary (left.range.cover right.range) op left right) ts
termination_by (budget, 0)

/-- An exponent. -/
def exponent (g : Grammar) (budget : Nat) (ts : List Token) : Except SyntaxError (Node × List Token) := do
  let (base, ts) ← unary g budget ts
  match g.rule exponentialLevel ts with
  | none => return (base, ts)
  | some op =>
    match budget with
    | 0 => throw (.unexpectedToken (offset ts))
    | budget + 1 =>
      let (power, ts) ← exponent g budget (ts.drop op.spelling.length)
      return (.binary (base.range.cover power.range) op base power, ts)
termination_by (budget, 5)

/-- A unary. -/
def unary (g : Grammar) (budget : Nat) (ts : List Token) : Except SyntaxError (Node × List Token) :=
  match ts with
  | [] => member g budget []
  | t :: rest =>
    match unaryOp? t with
    | none => member g budget (t :: rest)
    | some op =>
      match budget with
      | 0 => .error (.unexpectedToken t.offset)
      | budget + 1 => do
        let (operand, ts) ← unary g budget rest
        return (.unary (t.range.cover operand.range) op operand, ts)
termination_by (budget, 4)

/-- A member. -/
def member (g : Grammar) (budget : Nat) (ts : List Token) : Except SyntaxError (Node × List Token) := do
  let (object, ts) ← primary g budget ts
  steps g budget object ts
termination_by (budget, 3)

/-- The member reads and calls that follow an object. -/
def steps (g : Grammar) (budget : Nat) (object : Node) (ts : List Token) : Except SyntaxError (Node × List Token) :=
  match ts with
  | [] => .ok (object, [])
  | t :: rest =>
    if t.isSymbol '.' ∨ t.isSymbol '[' ∨ t.isSymbol '(' then
      match budget with
      | 0 => .error (.unexpectedToken t.offset)
      | budget + 1 => do
        if t.isSymbol '.' then
          let (u, ts) ← next rest
          match u.lexeme with
          | .identifier name =>
            let key := Node.constant u.range (.string name)
            steps g budget (.property (object.range.cover u.range) object key) ts
          | _ => throw (.unexpectedToken u.offset)
        else if t.isSymbol '[' then
          let (key, ts) ← conditional g budget rest
          let (close, ts) ← expect ']' ts
          steps g budget (.property (object.range.cover close) object key) ts
        else
          let ((arguments, close), ts) ← list (conditional g budget) ')' false rest
          steps g budget (.call (object.range.cover close) object arguments) ts
    else .ok (object, t :: rest)
termination_by (budget, 0)

/-- A primary. -/
def primary (g : Grammar) (budget : Nat) (ts : List Token) : Except SyntaxError (Node × List Token) := do
  let (t, ts) ← next ts
  match t.lexeme with
  | .literal v => return (.constant t.range v, ts)
  | .identifier name => return (.context t.range name, ts)
  | .regex pattern flags =>
    if g.allowRegex then return (.regex t.range pattern flags, ts) else throw (.regexDisabled t.offset)
  | .symbol c =>
    if c = '(' ∨ c = '[' then
      match budget with
      | 0 => throw (.unexpectedToken t.offset)
      | budget + 1 =>
        if c = '(' then
          let (inner, ts) ← conditional g budget ts
          let (close, ts) ← expect ')' ts
          return (inner.withRange (t.range.cover close), ts)
        else
          let ((entries, close), ts) ← list (conditional g budget) ']' true ts
          return (.array (t.range.cover close) entries, ts)
    else throw (.unexpectedToken t.offset)
termination_by (budget, 2)

end

/-- The tree of all tokens under a grammar. -/
def parseWith (g : Grammar) (ts : List Token) : Except SyntaxError Node := do
  let (n, ts) ← conditional g maxDepth ts
  match ts with
  | [] => return n
  | t :: _ => throw (.unexpectedRemainder t.offset)

end Parser

/-- The tree of all tokens. -/
def parse (allowRegex : Bool) (ts : List Token) : Except SyntaxError Node :=
  Parser.parseWith { allowRegex } ts

end ExprLang
