import ExprLang.Node.Parser
import Mathlib

/-!
# What the parsers accept

For each parser, what it has read when it succeeds: which parsers have succeeded on which tokens, and how much of the
budget was left to them.  The budget goes down by one at every construct that deepens the tree, and such a construct
needs a budget that is not used up.
-/

namespace ExprLang.Parser

variable {g : Grammar} {b : Nat} {ts rest : List Token} {n : Node}

/-- Whether the first token is a certain symbol. -/
def startsWith (c : Char) : List Token → Bool
  | [] => false
  | t :: _ => t.isSymbol c

@[simp] theorem startsWith_nil (c : Char) : startsWith c [] = false := rfl

@[simp] theorem startsWith_cons (c : Char) (t : Token) (ts : List Token) : startsWith c (t :: ts) = t.isSymbol c := rfl

theorem bind_eq_ok_iff {ε α β : Type} {e : Except ε α} {f : α → Except ε β} {y : β} :
    (e >>= f) = .ok y ↔ ∃ x, e = .ok x ∧ f x = .ok y := by
  cases e <;> simp [bind, Except.bind]

/-- What follows a result matters only where there is a result. -/
theorem bind_congr_of_ok {ε α β : Type} {e : Except ε α} {f g : α → Except ε β} (h : ∀ x, e = .ok x → f x = g x) :
    (e >>= f) = (e >>= g) := by
  cases e with
  | error e => rfl
  | ok x => exact h x rfl

theorem next_eq_ok_iff {t : Token} : next ts = .ok (t, rest) ↔ ts = t :: rest := by
  cases ts <;> simp [next]

theorem expect_eq_ok_iff {c : Char} {range : Range} :
    expect c ts = .ok (range, rest) ↔ ∃ t, ts = t :: rest ∧ t.isSymbol c ∧ range = t.range := by
  cases ts with
  | nil => simp [expect, next, bind, Except.bind]
  | cons t ts =>
    by_cases h : t.isSymbol c
    · simp only [expect, next, bind, Except.bind, pure, Except.pure, h, if_true]
      grind
    · simp [expect, next, bind, Except.bind, h]

/-- What holds of a budget as soon as it holds of the budget below, if there is one, holds of all budgets. -/
theorem budget_induction {P : Nat → Prop} (step : ∀ b, (∀ c, b = c + 1 → P c) → P b) (b : Nat) : P b := by
  induction b with
  | zero => exact step 0 (by omega)
  | succ b ih =>
    refine step (b + 1) fun c hc => ?_
    cases hc
    exact ih

/-! ### Conditionals and chains -/

theorem conditional_eq_ok_iff :
    conditional g b ts = .ok (n, rest) ↔
      (chain g b binaryLevels ts = .ok (n, rest) ∧ startsWith '?' rest = false) ∨
      ∃ b' condition consequent alternate question colon ts₁ ts₂,
        b = b' + 1 ∧ chain g b binaryLevels ts = .ok (condition, question :: ts₁) ∧ question.isSymbol '?' ∧
        conditional g b' ts₁ = .ok (consequent, colon :: ts₂) ∧ colon.isSymbol ':' ∧
        conditional g b' ts₂ = .ok (alternate, rest) ∧
        n = .ternary (condition.range.cover alternate.range) condition consequent alternate := by
  rw [conditional, bind_eq_ok_iff]
  constructor
  · rintro ⟨⟨condition, ts'⟩, hc, h⟩
    cases ts' with
    | nil =>
      simp only [pure, Except.pure, Except.ok.injEq, Prod.mk.injEq] at h
      obtain ⟨rfl, rfl⟩ := h
      exact .inl ⟨hc, rfl⟩
    | cons t ts' =>
      by_cases hq : t.isSymbol '?'
      · cases b with
        | zero => simp [hq, throw, throwThe, MonadExceptOf.throw] at h
        | succ b' =>
          right
          simp only [hq, if_true, bind_eq_ok_iff, Prod.exists, expect_eq_ok_iff] at h
          obtain ⟨consequent, _, ha, _, ts₂, ⟨colon, rfl, hcolon, -⟩, alternate, _, hb, h⟩ := h
          simp only [pure, Except.pure, Except.ok.injEq, Prod.mk.injEq] at h
          exact ⟨b', condition, consequent, alternate, t, colon, ts', ts₂, rfl, hc, hq, ha, hcolon,
            by rw [hb, h.2], h.1.symm⟩
      · simp only [hq, pure, Except.pure] at h
        simp only [Bool.false_eq_true, if_false, Except.ok.injEq, Prod.mk.injEq] at h
        obtain ⟨rfl, rfl⟩ := h
        exact .inl ⟨hc, by simpa using hq⟩
  · rintro (⟨hc, hq⟩ | ⟨b', condition, consequent, alternate, t, colon, ts₁, ts₂, rfl, hc, hq, ha, hcolon, hb, rfl⟩)
    · refine ⟨_, hc, ?_⟩
      cases rest with
      | nil => rfl
      | cons t rest =>
        rw [startsWith_cons] at hq
        simp [hq, pure, Except.pure]
    · refine ⟨_, hc, ?_⟩
      simp only [hq, if_true, bind_eq_ok_iff, Prod.exists, expect_eq_ok_iff]
      exact ⟨_, _, ha, _, _, ⟨colon, rfl, hcolon, rfl⟩, _, _, hb, rfl⟩

theorem chain_nil : chain g b [] ts = exponent g b ts := by
  rw [chain]

theorem chain_cons_eq_ok_iff {table : OperatorTable} {levels : List OperatorTable} :
    chain g b (table :: levels) ts = .ok (n, rest) ↔
      ∃ left ts₁, chain g b levels ts = .ok (left, ts₁) ∧ folds g b table levels left ts₁ = .ok (n, rest) := by
  rw [chain, bind_eq_ok_iff, Prod.exists]

theorem folds_eq_ok_iff {table : OperatorTable} {levels : List OperatorTable} {left : Node} :
    folds g b table levels left ts = .ok (n, rest) ↔
      (g.rule table ts = none ∧ n = left ∧ rest = ts) ∨
      ∃ b' op right ts₁, b = b' + 1 ∧ g.rule table ts = some op ∧
        chain g b' levels (ts.drop op.spelling.length) = .ok (right, ts₁) ∧
        folds g b' table levels (.binary (left.range.cover right.range) op left right) ts₁ = .ok (n, rest) := by
  rw [folds]
  cases h : g.rule table ts with
  | none => simp; grind
  | some op =>
    cases b with
    | zero => simp
    | succ b' => simp [bind_eq_ok_iff]

theorem exponent_eq_ok_iff :
    exponent g b ts = .ok (n, rest) ↔
      (unary g b ts = .ok (n, rest) ∧ g.rule exponentialLevel rest = none) ∨
      ∃ b' op left right ts₁, b = b' + 1 ∧ unary g b ts = .ok (left, ts₁) ∧
        g.rule exponentialLevel ts₁ = some op ∧ exponent g b' (ts₁.drop op.spelling.length) = .ok (right, rest) ∧
        n = .binary (left.range.cover right.range) op left right := by
  rw [exponent, bind_eq_ok_iff, Prod.exists]
  constructor
  · rintro ⟨left, ts₁, hl, h⟩
    cases hr : g.rule exponentialLevel ts₁ with
    | none => simp_all [pure, Except.pure]
    | some op =>
      cases b with
      | zero => simp [hr, throw, throwThe, MonadExceptOf.throw] at h
      | succ b' =>
        right
        simp only [hr, bind_eq_ok_iff, Prod.exists, pure, Except.pure, Except.ok.injEq, Prod.mk.injEq] at h
        obtain ⟨right, _, hr', rfl, rfl⟩ := h
        exact ⟨b', op, left, right, ts₁, rfl, hl, hr, hr', rfl⟩
  · rintro (⟨hu, hr⟩ | ⟨b', op, left, right, ts₁, rfl, hl, hr, hr', rfl⟩)
    · exact ⟨n, rest, hu, by simp [hr, pure, Except.pure]⟩
    · refine ⟨left, ts₁, hl, ?_⟩
      simp [hr, bind_eq_ok_iff, hr', pure, Except.pure]

theorem unary_eq_ok_iff :
    unary g b ts = .ok (n, rest) ↔
      (ts.head?.bind unaryOp? = none ∧ member g b ts = .ok (n, rest)) ∨
      ∃ b' t ts₁ op operand, b = b' + 1 ∧ ts = t :: ts₁ ∧ unaryOp? t = some op ∧
        unary g b' ts₁ = .ok (operand, rest) ∧ n = .unary (t.range.cover operand.range) op operand := by
  cases ts with
  | nil => simp [unary]
  | cons t ts =>
    rw [unary]
    cases h : unaryOp? t with
    | none => simp [h]
    | some op =>
      cases b with
      | zero => simp [h]
      | succ b' =>
        simp only [bind_eq_ok_iff, Prod.exists, pure, Except.pure, Except.ok.injEq, Prod.mk.injEq]
        constructor
        · rintro ⟨operand, _, hu, hn, hr⟩
          exact .inr ⟨b', t, ts, op, operand, rfl, rfl, h, by rw [hu, hr], hn.symm⟩
        · rintro (⟨hn, -⟩ | ⟨_, _, _, op', operand, hb, ht, hop, hu, rfl⟩)
          · simp [h] at hn
          · cases hb
            cases ht
            rw [h] at hop
            cases hop
            exact ⟨operand, rest, hu, rfl, rfl⟩

/-! ### Members and lists -/

theorem member_eq_ok_iff :
    member g b ts = .ok (n, rest) ↔
      ∃ object ts₁, primary g b ts = .ok (object, ts₁) ∧ steps g b object ts₁ = .ok (n, rest) := by
  rw [member, bind_eq_ok_iff, Prod.exists]

/-- Whether a step follows. -/
def startsStep (ts : List Token) : Bool := startsWith '.' ts || startsWith '[' ts || startsWith '(' ts

theorem lexeme_of_isSymbol {t : Token} {c : Char} (h : t.isSymbol c) : t.lexeme = .symbol c := by
  simp only [Token.isSymbol, Token.symbol?, beq_iff_eq] at h
  split at h <;> simp_all

theorem isSymbol_unique {t : Token} {c d : Char} (hc : t.isSymbol c) (hd : t.isSymbol d) : c = d := by
  have h := (lexeme_of_isSymbol hc).symm.trans (lexeme_of_isSymbol hd)
  exact Lexeme.symbol.inj h

theorem isSymbol_eq_false {t : Token} {c d : Char} (hc : t.isSymbol c) (hcd : c ≠ d) : t.isSymbol d = false := by
  rw [Bool.eq_false_iff]
  exact fun hd => hcd (isSymbol_unique hc hd)

theorem steps_of_not_startsStep {object : Node} (h : startsStep ts = false) :
    steps g b object ts = .ok (object, ts) := by
  cases ts with
  | nil => simp [steps]
  | cons t ts =>
    simp only [startsStep, startsWith_cons, Bool.or_eq_false_iff] at h
    cases b <;> simp [steps, h]

theorem steps_point {object : Node} {t : Token} (h : t.isSymbol '.') :
    steps g (b + 1) object (t :: ts) = .ok (n, rest) ↔
      ∃ key name ts₁, ts = key :: ts₁ ∧ key.lexeme = .identifier name ∧
        steps g b (.property (object.range.cover key.range) object (.constant key.range (.string name))) ts₁ =
          .ok (n, rest) := by
  rw [steps]
  simp only [h, true_or, if_true, bind_eq_ok_iff, Prod.exists, next_eq_ok_iff]
  constructor
  · rintro ⟨key, ts₁, hts, hs⟩
    cases hk : key.lexeme <;> simp only [hk] at hs
    case identifier name => exact ⟨key, name, ts₁, hts, hk, hs⟩
    all_goals cases hs
  · rintro ⟨key, name, ts₁, hts, hk, hs⟩
    exact ⟨key, ts₁, hts, by simp only [hk]; exact hs⟩

theorem steps_bracket {object : Node} {t : Token} (h : t.isSymbol '[') :
    steps g (b + 1) object (t :: ts) = .ok (n, rest) ↔
      ∃ key close ts₁, conditional g b ts = .ok (key, close :: ts₁) ∧ close.isSymbol ']' ∧
        steps g b (.property (object.range.cover close.range) object key) ts₁ = .ok (n, rest) := by
  have hp : t.isSymbol '.' = false := isSymbol_eq_false h (by decide)
  rw [steps]
  simp only [h, hp, Bool.false_eq_true, false_or, true_or, if_true, if_false, bind_eq_ok_iff, Prod.exists,
    expect_eq_ok_iff]
  constructor
  · rintro ⟨key, _, hk, _, ts₁, ⟨close, hts, hc, hr⟩, hs⟩
    exact ⟨key, close, ts₁, by rw [hk, hts], hc, by rw [← hr]; exact hs⟩
  · rintro ⟨key, close, ts₁, hk, hc, hs⟩
    exact ⟨key, _, hk, _, ts₁, ⟨close, rfl, hc, rfl⟩, hs⟩

theorem steps_paren {object : Node} {t : Token} (h : t.isSymbol '(') :
    steps g (b + 1) object (t :: ts) = .ok (n, rest) ↔
      ∃ arguments close ts₁, list (conditional g b) ')' false ts = .ok ((arguments, close), ts₁) ∧
        steps g b (.call (object.range.cover close) object arguments) ts₁ = .ok (n, rest) := by
  have hp : t.isSymbol '.' = false := isSymbol_eq_false h (by decide)
  have hb : t.isSymbol '[' = false := isSymbol_eq_false h (by decide)
  rw [steps]
  simp only [h, hp, hb, Bool.false_eq_true, false_or, if_true, if_false, bind_eq_ok_iff, Prod.exists]

/-- A step needs a budget. -/
theorem steps_zero {object : Node} (h : startsStep ts = true) : steps g 0 object ts ≠ .ok (n, rest) := by
  cases ts with
  | nil => simp [startsStep] at h
  | cons t ts =>
    simp only [startsStep, startsWith_cons, Bool.or_eq_true, or_assoc] at h
    rw [steps]
    simp [h]

/-! ### Primaries and lists -/

theorem primary_eq_ok_iff :
    primary g b ts = .ok (n, rest) ↔
      ∃ t ts₁, ts = t :: ts₁ ∧
        ((∃ v, t.lexeme = .literal v ∧ n = .constant t.range v ∧ rest = ts₁) ∨
          (∃ name, t.lexeme = .identifier name ∧ n = .context t.range name ∧ rest = ts₁) ∨
          (∃ pattern flags, t.lexeme = .regex pattern flags ∧ g.allowRegex = true ∧
            n = .regex t.range pattern flags ∧ rest = ts₁) ∨
          (∃ b' inner close, b = b' + 1 ∧ t.isSymbol '(' ∧ conditional g b' ts₁ = .ok (inner, close :: rest) ∧
            close.isSymbol ')' ∧ n = inner.withRange (t.range.cover close.range)) ∨
          ∃ b' entries close, b = b' + 1 ∧ t.isSymbol '[' ∧
            list (conditional g b') ']' true ts₁ = .ok ((entries, close), rest) ∧
            n = .array (t.range.cover close) entries) := by
  rw [primary, bind_eq_ok_iff, Prod.exists]
  simp only [next_eq_ok_iff]
  refine exists_congr fun t => exists_congr fun ts₁ => and_congr_right fun _ => ?_
  cases ht : t.lexeme with
  | literal v => simp [Token.isSymbol, Token.symbol?, ht, pure, Except.pure]; grind
  | identifier name => simp [Token.isSymbol, Token.symbol?, ht, pure, Except.pure]; grind
  | regex pattern flags =>
    cases hg : g.allowRegex
    · simp [Token.isSymbol, Token.symbol?, ht, throw, throwThe, MonadExceptOf.throw]
    · simp [Token.isSymbol, Token.symbol?, ht, pure, Except.pure]
      grind
  | symbol c =>
    have hc (d : Char) : t.isSymbol d ↔ c = d := by simp [Token.isSymbol, Token.symbol?, ht]
    simp only [hc, reduceCtorEq, false_and, exists_false, false_or]
    cases b with
    | zero => simp [throw, throwThe, MonadExceptOf.throw]
    | succ b' =>
      by_cases hl : c = '('
      · simp only [hl, true_or, if_true, bind_eq_ok_iff, expect_eq_ok_iff, Prod.exists, pure, Except.pure,
          Except.ok.injEq, Prod.mk.injEq, Nat.add_right_cancel_iff]
        constructor
        · rintro ⟨inner, _, hi, _, _, ⟨close, hts, hclose, hr⟩, hn, hrest⟩
          exact .inl ⟨b', inner, close, rfl, trivial, by rw [hi, hts, hrest], hclose, by rw [← hn, hr]⟩
        · rintro (⟨_, inner, close, rfl, -, hi, hclose, rfl⟩ | ⟨_, _, _, -, hd, -⟩)
          · exact ⟨inner, _, hi, _, _, ⟨close, rfl, hclose, rfl⟩, rfl, rfl⟩
          · exact absurd hd (by decide)
      · by_cases hb : c = '['
        · simp only [hb, Char.reduceEq, or_true, if_true, if_false, bind_eq_ok_iff, Prod.exists, pure, Except.pure,
            Except.ok.injEq, Prod.mk.injEq, Nat.add_right_cancel_iff]
          constructor
          · rintro ⟨entries, close, _, hl, hn, hrest⟩
            exact .inr ⟨b', entries, close, rfl, trivial, by rw [hl, hrest], hn.symm⟩
          · rintro (⟨_, _, _, -, hd, -⟩ | ⟨_, entries, close, rfl, -, hl, rfl⟩)
            · exact absurd hd (by decide)
            · exact ⟨entries, close, _, hl, rfl, rfl⟩
        · simp [hl, hb, throw, throwThe, MonadExceptOf.throw]

section
variable {item : List Token → Except SyntaxError (Node × List Token)} {close : Char} {trailing : Bool}
  {ns : List Node} {range : Range}

theorem items_eq_ok_iff {fuel : Nat} :
    items item close trailing (fuel + 1) ts = .ok ((ns, range), rest) ↔
      ∃ first t ts₁, item ts = .ok (first, t :: ts₁) ∧
        ((t.isSymbol close ∧ ns = [first] ∧ range = t.range ∧ rest = ts₁) ∨
          t.isSymbol close = false ∧ t.isSymbol ',' ∧
            ((∃ u, ts₁ = u :: rest ∧ trailing = true ∧ u.isSymbol close ∧ ns = [first] ∧ range = u.range) ∨
              (trailing && startsWith close ts₁) = false ∧
                ∃ more, items item close trailing fuel ts₁ = .ok ((more, range), rest) ∧ ns = first :: more)) := by
  have hmore (first : Node) (ts₁ : List Token) :
      (items item close trailing fuel ts₁ >>= fun x => pure ((first :: x.1.1, x.1.2), x.2)) =
          Except.ok ((ns, range), rest) ↔
        ∃ more, items item close trailing fuel ts₁ = .ok ((more, range), rest) ∧ ns = first :: more := by
    simp only [bind_eq_ok_iff, Prod.exists, pure, Except.pure, Except.ok.injEq, Prod.mk.injEq]
    constructor
    · rintro ⟨more, _, _, hi, ⟨hn, hr⟩, hrest⟩
      exact ⟨more, by rw [hi, hr, hrest], hn.symm⟩
    · rintro ⟨more, hi, hn⟩
      exact ⟨more, range, rest, hi, ⟨hn.symm, rfl⟩, rfl⟩
  rw [items, bind_eq_ok_iff, Prod.exists]
  refine exists_congr fun first => ?_
  simp only [bind_eq_ok_iff, Prod.exists, next_eq_ok_iff]
  constructor
  · rintro ⟨_, hi, t, ts₁, hts, h⟩
    subst hts
    refine ⟨t, ts₁, hi, ?_⟩
    by_cases hc : t.isSymbol close
    · simp only [hc, if_true, pure, Except.pure, Except.ok.injEq, Prod.mk.injEq] at h
      exact .inl ⟨hc, h.1.1.symm, h.1.2.symm, h.2.symm⟩
    · rw [Bool.not_eq_true] at hc
      by_cases hcomma : t.isSymbol ','
      · refine .inr ⟨hc, hcomma, ?_⟩
        simp only [hc, hcomma, Bool.false_eq_true, if_false, if_true] at h
        cases ts₁ with
        | nil => exact .inr ⟨by simp, (hmore first []).1 h⟩
        | cons u ts₂ =>
          by_cases hu : (trailing && u.isSymbol close) = true
          · simp only [hu, if_true, pure, Except.pure, Except.ok.injEq, Prod.mk.injEq] at h
            rw [Bool.and_eq_true] at hu
            exact .inl ⟨u, by rw [h.2], hu.1, hu.2, h.1.1.symm, h.1.2.symm⟩
          · simp only [hu, Bool.false_eq_true, if_false] at h
            exact .inr ⟨by simpa using hu, (hmore first (u :: ts₂)).1 h⟩
      · simp [hc, hcomma, throw, throwThe, MonadExceptOf.throw] at h
  · rintro ⟨t, ts₁, hi, h⟩
    refine ⟨_, hi, t, ts₁, rfl, ?_⟩
    rcases h with ⟨hc, rfl, rfl, rfl⟩ | ⟨hc, hcomma, ⟨u, rfl, htrailing, hu, rfl, rfl⟩ | ⟨hu, h⟩⟩
    · simp [hc, pure, Except.pure]
    · simp [hc, hcomma, htrailing, hu, pure, Except.pure]
    · simp only [hc, hcomma, Bool.false_eq_true, if_false, if_true]
      cases ts₁ with
      | nil => exact (hmore first []).2 h
      | cons u ts₂ =>
        rw [startsWith_cons] at hu
        simp only [hu, Bool.false_eq_true, if_false]
        exact (hmore first (u :: ts₂)).2 h

theorem list_eq_ok_iff :
    list item close trailing ts = .ok ((ns, range), rest) ↔
      (∃ t, ts = t :: rest ∧ t.isSymbol close ∧ ns = [] ∧ range = t.range) ∨
      startsWith close ts = false ∧ items item close trailing (ts.length + 1) ts = .ok ((ns, range), rest) := by
  cases ts with
  | nil => simp [list]
  | cons t ts =>
    by_cases h : t.isSymbol close
    · simp [list, h]
      grind
    · simp [list, h]

end

end ExprLang.Parser
