import ExprLang.Proofs.OperatorReading

/-!
# The grammar of expressions

Phrases and their derivations from tokens:

* `conditional`: a chain of all levels, or such a chain, `?`, a conditional, `:` and a conditional;
* `chain`: a run of folds at the first level, or past the last level an exponent;
* `level`: an operand of the next level with a number of folds to its right, each an operator of the table and
  an operand of the next level;
* `exponent`: a unary, or a unary, `**` and an exponent;
* `unary`: an operator before a unary, or a member;
* `member`: a primary with a number of steps `.name`, `[conditional]` or `(items)` to its right;
* `primary`: a literal, a name other than `typeof`, a regular expression if these are allowed, a conditional in
  brackets or an array;
* `list`: nothing or items, up to a closing bracket, and `items`: conditionals with commas between them, after the
  last of them another one where `trailing` allows it.

A derivation knows its tree (`Derivation.result`) and how deep its constructs are nested as the limit counts them
(`Derivation.charge`).
-/

namespace ExprLang

/-- What a piece of an expression may be. -/
inductive Phrase where
  | conditional
  | chain (levels : List OperatorTable)
  | level (table : OperatorTable) (levels : List OperatorTable) (folds : Nat)
  | exponent
  | unary
  | member (steps : Nat)
  | primary
  | list (close : Char) (trailing : Bool)
  | items (close : Char) (trailing : Bool)

/-- What a phrase stands for: a tree, or trees with the range of the bracket that closes their list. -/
@[reducible] def Phrase.Result : Phrase → Type
  | list .. | items .. => List Node × Range
  | _ => Node

/-- The derivations of a phrase from the tokens in front of the last list of tokens. -/
inductive Derivation (allowRegex : Bool) : Phrase → List Token → List Token → Type where
  | plain {ts rest : List Token} (condition : Derivation allowRegex (.chain binaryLevels) ts rest) :
      Derivation allowRegex .conditional ts rest
  | branch {ts ts₁ ts₂ rest : List Token} {question colon : Token}
      (condition : Derivation allowRegex (.chain binaryLevels) ts (question :: ts₁))
      (hquestion : question.isSymbol '?') (consequent : Derivation allowRegex .conditional ts₁ (colon :: ts₂))
      (hcolon : colon.isSymbol ':') (alternate : Derivation allowRegex .conditional ts₂ rest) :
      Derivation allowRegex .conditional ts rest
  | tightest {ts rest : List Token} (operand : Derivation allowRegex .exponent ts rest) :
      Derivation allowRegex (.chain []) ts rest
  | folded {table : OperatorTable} {levels : List OperatorTable} {k : Nat} {ts rest : List Token}
      (folds : Derivation allowRegex (.level table levels k) ts rest) :
      Derivation allowRegex (.chain (table :: levels)) ts rest
  | operand {table : OperatorTable} {levels : List OperatorTable} {ts rest : List Token}
      (tighter : Derivation allowRegex (.chain levels) ts rest) :
      Derivation allowRegex (.level table levels 0) ts rest
  | fold {table : OperatorTable} {levels : List OperatorTable} {k : Nat} {ts ts₁ rest : List Token}
      (left : Derivation allowRegex (.level table levels k) ts ts₁) (op : BinaryOp) (hop : op ∈ table)
      (hleads : op.Leads ts₁) (right : Derivation allowRegex (.chain levels) (ts₁.drop op.spelling.length) rest) :
      Derivation allowRegex (.level table levels (k + 1)) ts rest
  | base {ts rest : List Token} (operand : Derivation allowRegex .unary ts rest) :
      Derivation allowRegex .exponent ts rest
  | power {ts ts₁ rest : List Token} (left : Derivation allowRegex .unary ts ts₁) (op : BinaryOp)
      (hop : op ∈ exponentialLevel) (hleads : op.Leads ts₁)
      (right : Derivation allowRegex .exponent (ts₁.drop op.spelling.length) rest) :
      Derivation allowRegex .exponent ts rest
  | signed {ts rest : List Token} (sign : Token) (op : UnaryOp) (hsign : Parser.unaryOp? sign = some op)
      (operand : Derivation allowRegex .unary ts rest) : Derivation allowRegex .unary (sign :: ts) rest
  | unsigned {k : Nat} {ts rest : List Token} (operand : Derivation allowRegex (.member k) ts rest) :
      Derivation allowRegex .unary ts rest
  | object {ts rest : List Token} (primary : Derivation allowRegex .primary ts rest) :
      Derivation allowRegex (.member 0) ts rest
  | dot {k : Nat} {ts rest : List Token} {point : Token} (key : Token) (word : String)
      (object : Derivation allowRegex (.member k) ts (point :: key :: rest)) (hpoint : point.isSymbol '.')
      (hkey : key.lexeme = .identifier word) : Derivation allowRegex (.member (k + 1)) ts rest
  | index {k : Nat} {ts ts₁ rest : List Token} {opening : Token} (closing : Token)
      (object : Derivation allowRegex (.member k) ts (opening :: ts₁)) (hopening : opening.isSymbol '[')
      (key : Derivation allowRegex .conditional ts₁ (closing :: rest)) (hclosing : closing.isSymbol ']') :
      Derivation allowRegex (.member (k + 1)) ts rest
  | call {k : Nat} {ts ts₁ rest : List Token} {opening : Token}
      (callee : Derivation allowRegex (.member k) ts (opening :: ts₁)) (hopening : opening.isSymbol '(')
      (arguments : Derivation allowRegex (.list ')' false) ts₁ rest) :
      Derivation allowRegex (.member (k + 1)) ts rest
  | literal {rest : List Token} (t : Token) (v : Value) (ht : t.lexeme = .literal v) :
      Derivation allowRegex .primary (t :: rest) rest
  | name {rest : List Token} (t : Token) (word : String) (ht : t.lexeme = .identifier word)
      (hword : word ≠ "typeof") : Derivation allowRegex .primary (t :: rest) rest
  | regex {rest : List Token} (t : Token) (pattern flags : String) (ht : t.lexeme = .regex pattern flags)
      (hallowed : allowRegex = true) : Derivation allowRegex .primary (t :: rest) rest
  | parens {ts rest : List Token} (opening closing : Token) (hopening : opening.isSymbol '(')
      (inner : Derivation allowRegex .conditional ts (closing :: rest)) (hclosing : closing.isSymbol ')') :
      Derivation allowRegex .primary (opening :: ts) rest
  | array {ts rest : List Token} (opening : Token) (hopening : opening.isSymbol '[')
      (entries : Derivation allowRegex (.list ']' true) ts rest) : Derivation allowRegex .primary (opening :: ts) rest
  | empty {close : Char} {trailing : Bool} {rest : List Token} (closing : Token) (hclosing : closing.isSymbol close) :
      Derivation allowRegex (.list close trailing) (closing :: rest) rest
  | filled {close : Char} {trailing : Bool} {ts rest : List Token}
      (entries : Derivation allowRegex (.items close trailing) ts rest) :
      Derivation allowRegex (.list close trailing) ts rest
  | last {close : Char} {trailing : Bool} {ts rest : List Token} (closing : Token)
      (item : Derivation allowRegex .conditional ts (closing :: rest)) (hclosing : closing.isSymbol close) :
      Derivation allowRegex (.items close trailing) ts rest
  | lastComma {close : Char} {trailing : Bool} {ts rest : List Token} {comma : Token} (closing : Token)
      (htrailing : trailing = true) (item : Derivation allowRegex .conditional ts (comma :: closing :: rest))
      (hcomma : comma.isSymbol ',') (hclosing : closing.isSymbol close) :
      Derivation allowRegex (.items close trailing) ts rest
  | more {close : Char} {trailing : Bool} {ts ts₁ rest : List Token} {comma : Token}
      (item : Derivation allowRegex .conditional ts (comma :: ts₁)) (hcomma : comma.isSymbol ',')
      (others : Derivation allowRegex (.items close trailing) ts₁ rest) :
      Derivation allowRegex (.items close trailing) ts rest

namespace Derivation

variable {allowRegex : Bool} {p : Phrase} {ts rest : List Token}

/-- The tree of a derivation: folds and steps group from the left, `**` and `?:` from the right, and brackets around
a conditional only widen its range. -/
def result {p : Phrase} {ts rest : List Token} : Derivation allowRegex p ts rest → p.Result
  | plain c => c.result
  | branch c _ a _ b => .ternary (c.result.range.cover b.result.range) c.result a.result b.result
  | tightest e => e.result
  | folded c => c.result
  | operand c => c.result
  | fold l op _ _ r => .binary (l.result.range.cover r.result.range) op l.result r.result
  | base u => u.result
  | power l op _ _ r => .binary (l.result.range.cover r.result.range) op l.result r.result
  | signed sign op _ u => .unary (sign.range.cover u.result.range) op u.result
  | unsigned m => m.result
  | object n => n.result
  | dot key word o _ _ =>
    .property (o.result.range.cover key.range) o.result (.constant key.range (.string word))
  | index closing o _ key _ => .property (o.result.range.cover closing.range) o.result key.result
  | call f _ l => .call (f.result.range.cover l.result.2) f.result l.result.1
  | literal t v _ => .constant t.range v
  | name t word _ _ => .context t.range word
  | regex t pattern flags _ _ => .regex t.range pattern flags
  | parens opening closing _ n _ => n.result.withRange (opening.range.cover closing.range)
  | array opening _ l => .array (opening.range.cover l.result.2) l.result.1
  | empty closing _ => ([], closing.range)
  | filled l => l.result
  | last closing n _ => ([n.result], closing.range)
  | lastComma closing _ n _ _ => ([n.result], closing.range)
  | more n _ l => (n.result :: l.result.1, l.result.2)

/-- The deepest nesting of a derivation: one inside brackets, after a prefix, after `**` and in both branches of a
conditional; the number of the fold in its right operand, and the number of the step at the step and inside it. -/
def charge {p : Phrase} {ts rest : List Token} : Derivation allowRegex p ts rest → Nat
  | plain c => c.charge
  | branch c _ a _ b => max c.charge (1 + max a.charge b.charge)
  | tightest e => e.charge
  | folded c => c.charge
  | operand c => c.charge
  | fold (k := k) l _ _ _ r => max l.charge (k + 1 + r.charge)
  | base u => u.charge
  | power l _ _ _ r => max l.charge (1 + r.charge)
  | signed _ _ _ u => 1 + u.charge
  | unsigned m => m.charge
  | object n => n.charge
  | dot (k := k) _ _ o _ _ => max o.charge (k + 1)
  | index (k := k) _ o _ key _ => max o.charge (k + 1 + key.charge)
  | call (k := k) f _ l => max f.charge (k + 1 + l.charge)
  | literal .. | name .. | regex .. => 0
  | parens _ _ _ n _ => 1 + n.charge
  | array _ _ l => 1 + l.charge
  | empty .. => 0
  | filled l => l.charge
  | last _ n _ => n.charge
  | lastComma _ _ n _ _ => n.charge
  | more n _ l => max n.charge l.charge

/-- Every derivation takes a token. -/
theorem length_lt (d : Derivation allowRegex p ts rest) : rest.length < ts.length := by
  induction d with
  | fold left op hop hleads right ihl ihr =>
    rw [List.length_drop] at ihr
    omega
  | power left op hop hleads right ihl ihr =>
    rw [List.length_drop] at ihr
    omega
  | _ => simp_all <;> omega

/-- The folds of a level and the steps of a member are charged. -/
theorem count_le_charge (d : Derivation allowRegex p ts rest) :
    match p with
    | .level _ _ k | .member k => k ≤ d.charge
    | _ => True := by
  cases d <;> simp only [charge] <;> omega

end Derivation

end ExprLang
