import ExprLang.Proofs.OperandEnds

/-!
# Marks that tokens leave in a tree

A marking gives marks to tokens and to nodes such that the token that makes a node has the mark of the node.  The marks
of a tree in the order of its walk are those of its tokens (`Derivation.marks_eq`): the parser neither loses a token
nor moves it.
-/

open ExprLang.Parser

namespace ExprLang

/-- Marks of nodes and of tokens.  The mark of a token may depend on whether a point stands directly before it.  Symbols
have none but those that make a unary, and operations that stand for no token of their own have none. -/
structure Marking (α : Type) where
  ofNode : Node → Option α
  ofToken : Bool → Token → Option α
  withRange (n : Node) (r : Range) : ofNode (n.withRange r) = ofNode n
  symbol {t : Token} {c : Char} (h : t.isSymbol c) (behind : Bool) : ofToken behind t = none
  sign {t : Token} {op : UnaryOp} (h : unaryOp? t = some op) (r : Range) (n : Node) :
    ofToken false t = ofNode (.unary r op n)
  literal {t : Token} {v : Value} (h : t.lexeme = .literal v) : ofToken false t = ofNode (.constant t.range v)
  name {t : Token} {word : String} (h : t.lexeme = .identifier word) (hword : word ≠ "typeof") :
    ofToken false t = ofNode (.context t.range word)
  regex {t : Token} {pattern flags : String} (h : t.lexeme = .regex pattern flags) :
    ofToken false t = ofNode (.regex t.range pattern flags)
  key {t : Token} {word : String} (h : t.lexeme = .identifier word) :
    ofToken true t = ofNode (.constant t.range (.string word))
  property (r : Range) (object key : Node) : ofNode (.property r object key) = none
  call (r : Range) (callee : Node) (arguments : List Node) : ofNode (.call r callee arguments) = none
  array (r : Range) (items : List Node) : ofNode (.array r items) = none
  binary (r : Range) (op : BinaryOp) (left right : Node) : ofNode (.binary r op left right) = none
  ternary (r : Range) (condition consequent alternate : Node) :
    ofNode (.ternary r condition consequent alternate) = none

theorem EndsOperand.exists_last {us : List Token} (h : EndsOperand us) :
    ∃ us' t, us = us' ++ [t] ∧ t.isSymbol '.' = false := by
  rcases h with ⟨us', t, rfl, ht⟩ | ⟨us', point, key, rfl, -, hkey⟩
  · refine ⟨us', t, rfl, ?_⟩
    rw [Bool.eq_false_iff]
    intro hpoint
    rw [lexeme_of_isSymbol hpoint] at ht
    cases ht
  · exact ⟨us' ++ [point], key, by simp, by simp [Token.isSymbol, Token.symbol?, hkey]⟩

namespace Marking

variable {α : Type} (m : Marking α)

/-- The marks of trees in the order of their walks. -/
def nodes (ns : List Node) : List α := (Node.walkAll ns).filterMap m.ofNode

/-- The marks of tokens, of which the first may stand behind a point. -/
def tokens (behind : Bool) : List Token → List α
  | [] => []
  | t :: ts => (m.ofToken behind t).toList ++ tokens (t.isSymbol '.') ts

/-! ### Marks of nodes -/

theorem nodes_cons (n : Node) (ns : List Node) : m.nodes (n :: ns) = m.nodes [n] ++ m.nodes ns := by
  simp only [nodes, Node.walkAll, List.append_nil, List.filterMap_append]

/-- The marks of a tree are that of its root and those of its operands. -/
theorem nodes_singleton (n : Node) : m.nodes [n] = (m.ofNode n).toList ++ m.nodes n.children := by
  rw [nodes, Node.walkAll, Node.walkAll, List.append_nil, Node.walk_eq, List.filterMap_cons, nodes]
  cases m.ofNode n <;> rfl

theorem nodes_withRange (n : Node) (r : Range) : m.nodes [n.withRange r] = m.nodes [n] := by
  rw [nodes_singleton, nodes_singleton, m.withRange, Node.children_withRange]

/-! ### Marks of tokens -/

theorem tokens_symbol {t : Token} {c : Char} (h : t.isSymbol c) (hc : c ≠ '.') (behind : Bool) (ts : List Token) :
    m.tokens behind (t :: ts) = m.tokens false ts := by
  rw [tokens, m.symbol h, isSymbol_eq_false h hc, Option.toList_none, List.nil_append]

/-- Behind an operand the marks start anew. -/
theorem tokens_append {us : List Token} (h : EndsOperand us) (behind : Bool) (vs : List Token) :
    m.tokens behind (us ++ vs) = m.tokens behind us ++ m.tokens false vs := by
  obtain ⟨us, t, rfl, ht⟩ := h.exists_last
  clear h
  rw [List.append_assoc]
  induction us generalizing behind with
  | nil => simp [tokens, ht]
  | cons u us ih =>
    show (m.ofToken behind u).toList ++ m.tokens (u.isSymbol '.') (us ++ ([t] ++ vs)) =
      (m.ofToken behind u).toList ++ m.tokens (u.isSymbol '.') (us ++ [t]) ++ m.tokens false vs
    rw [ih, List.append_assoc]

theorem tokens_operator {op : BinaryOp} {ts : List Token} (h : op.Leads ts) (vs : List Token) :
    m.tokens false (ts.take op.spelling.length ++ vs) = m.tokens false vs := by
  have hsymbols : ∀ t ∈ ts.take op.spelling.length, ∃ c, t.isSymbol c ∧ c ≠ '.' := by
    intro t ht
    obtain ⟨c, hc, hsymbol⟩ := h.exists_isSymbol ht
    refine ⟨c, hsymbol, ?_⟩
    rintro rfl
    exact op.not_mem_punctuation hc (by decide)
  generalize ts.take op.spelling.length = us at hsymbols
  induction us with
  | nil => rfl
  | cons u us ih =>
    obtain ⟨c, hu, hc⟩ := hsymbols u (List.mem_cons_self ..)
    rw [List.cons_append, m.tokens_symbol hu hc, ih fun t ht => hsymbols t (List.mem_cons_of_mem _ ht)]

theorem tokens_nil (behind : Bool) : m.tokens behind [] = [] := rfl

theorem mem_tokens_iff {behind : Bool} {ts : List Token} {x : α} :
    x ∈ m.tokens behind ts ↔ ∃ before t after, ts = before ++ t :: after ∧
      m.ofToken (before.getLast?.elim behind fun u => u.isSymbol '.') t = some x := by
  induction ts generalizing behind with
  | nil => simp [tokens]
  | cons t ts ih =>
    rw [tokens, List.mem_append, Option.mem_toList, ih]
    constructor
    · rintro (h | ⟨before, u, after, rfl, h⟩)
      · exact ⟨[], t, ts, rfl, h⟩
      · refine ⟨t :: before, u, after, rfl, ?_⟩
        rw [← h, List.getLast?_cons]
        cases before.getLast? <;> rfl
    · rintro ⟨before, u, after, hts, h⟩
      cases before with
      | nil =>
        cases hts
        exact .inl h
      | cons v before =>
        cases hts
        refine .inr ⟨before, u, after, rfl, ?_⟩
        rw [← h, List.getLast?_cons]
        cases before.getLast? <;> rfl

end Marking

/-- The marks of a tree are those of its tokens, in the same order. -/
theorem Derivation.marks_eq {α : Type} (m : Marking α) {r : Bool} {p : Phrase} {ts rest : List Token}
    (d : Derivation r p ts rest) (hp : p.Closed) : m.nodes (p.trees d.result) = m.tokens false d.taken := by
  have hclosing {t : Token} {close : Char} (hclose : close = ')' ∨ close = ']') (h : t.isSymbol close) :
      m.tokens false [t] = [] := by
    rw [m.tokens_symbol h (by rcases hclose with rfl | rfl <;> decide), m.tokens_nil]
  induction d with
  | plain _ ih | tightest _ ih | folded _ ih | operand _ ih | base _ ih | unsigned _ ih | object _ ih =>
    exact ih trivial
  | filled _ ih => exact ih hp
  -- The marks of an operation are those of its operands, and the tokens between these have none.
  | branch condition hquestion consequent hcolon alternate ihc iha ihb =>
    rw [taken, m.tokens_append (condition.endsOperand trivial), m.tokens_symbol hquestion (by decide),
      m.tokens_append (consequent.endsOperand trivial), m.tokens_symbol hcolon (by decide), ← ihc trivial,
      ← iha trivial, ← ihb trivial]
    simp only [Phrase.trees, result]
    rw [m.nodes_singleton, m.ternary, Node.children, m.nodes_cons condition.result, m.nodes_cons consequent.result]
    rfl
  | fold left op hop hleads right ihl ihr | power left op hop hleads right ihl ihr =>
    rw [taken, m.tokens_append (left.endsOperand trivial), m.tokens_operator hleads, ← ihl trivial, ← ihr trivial]
    simp only [Phrase.trees, result]
    rw [m.nodes_singleton, m.binary, Node.children, m.nodes_cons left.result]
    rfl
  | signed sign op hsign operand ih =>
    have hpoint : sign.isSymbol '.' = false := by
      rw [Bool.eq_false_iff]
      intro h
      simp [unaryOp?, lexeme_of_isSymbol h] at hsign
    rw [taken, Marking.tokens, hpoint, ← ih trivial]
    simp only [Phrase.trees, result]
    rw [m.nodes_singleton, ← m.sign hsign, Node.children]
  | @dot _ _ _ point key word object hpoint hkey ih =>
    rw [taken, m.tokens_append (object.endsOperand trivial), ← ih trivial, Marking.tokens, Marking.tokens, hpoint,
      m.symbol hpoint, m.key hkey, m.tokens_nil]
    simp only [Phrase.trees, result]
    rw [m.nodes_singleton, m.property, Node.children, m.nodes_cons object.result, m.nodes_singleton (.constant ..)]
    rfl
  | index closing object hopening key hbracket ih ihk =>
    rw [taken, m.tokens_append (object.endsOperand trivial), m.tokens_symbol hopening (by decide),
      m.tokens_append (key.endsOperand trivial), hclosing (.inr rfl) hbracket, List.append_nil, ← ih trivial,
      ← ihk trivial]
    simp only [Phrase.trees, result]
    rw [m.nodes_singleton, m.property, Node.children, m.nodes_cons object.result]
    rfl
  | call callee hopening arguments ih iha =>
    rw [taken, m.tokens_append (callee.endsOperand trivial), m.tokens_symbol hopening (by decide), ← ih trivial,
      ← iha (.inl rfl)]
    simp only [Phrase.trees, result]
    rw [m.nodes_singleton, m.call, Node.children, m.nodes_cons callee.result]
    rfl
  | literal t v ht =>
    rw [taken, Marking.tokens, m.tokens_nil, m.literal ht]
    exact m.nodes_singleton _
  | name t word ht hword =>
    rw [taken, Marking.tokens, m.tokens_nil, m.name ht hword]
    exact m.nodes_singleton _
  | regex t pattern flags ht hallowed =>
    rw [taken, Marking.tokens, m.tokens_nil, m.regex ht]
    exact m.nodes_singleton _
  | parens opening closing hopening inner hbracket ih =>
    rw [taken, m.tokens_symbol hopening (by decide), m.tokens_append (inner.endsOperand trivial),
      hclosing (.inl rfl) hbracket, List.append_nil, ← ih trivial]
    exact m.nodes_withRange ..
  | array opening hopening entries ih =>
    rw [taken, m.tokens_symbol hopening (by decide), ← ih (.inr rfl)]
    simp only [Phrase.trees, result]
    rw [m.nodes_singleton, m.array, Node.children]
    rfl
  | empty closing hbracket =>
    rw [taken, hclosing hp hbracket]
    rfl
  | last closing item hbracket ih =>
    rw [taken, m.tokens_append (item.endsOperand trivial), hclosing hp hbracket, List.append_nil, ← ih trivial]
    rfl
  | lastComma closing htrailing item hcomma hbracket ih =>
    rw [taken, m.tokens_append (item.endsOperand trivial), m.tokens_symbol hcomma (by decide), hclosing hp hbracket,
      List.append_nil, ← ih trivial]
    rfl
  | more item hcomma others ih iho =>
    rw [taken, m.tokens_append (item.endsOperand trivial), m.tokens_symbol hcomma (by decide), ← ih trivial, ← iho hp]
    exact m.nodes_cons ..

end ExprLang
