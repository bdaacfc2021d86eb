import ExprLang.Proofs.MaximalMunch
import ExprLang.Proofs.Subexpressions

/-!
# Faults of a parser

A parser that fails has either come to the end of tokens that can be completed, or it blames a token: those before it
are the beginning of something that is read, and of those behind it only the symbols that may be an operator together
with it have been looked at (`Faulty`).  The faults of a parser are faults of one that goes on behind it
(`Faulty.bind`), and of one that comes to it behind other tokens (`Faulty.after`).  So two parsers in a row have their
faults (`Steady.bind_faulty`), and a list has those of its items (`list_faulty`).
-/

open ExprLang.Parser

namespace ExprLang.Parser

/-! ### Faults -/

section
variable {α β : Type} {R R' Q : List Token → Prop} {f : List Token → Except SyntaxError (α × List Token)}
  {g : α × List Token → Except SyntaxError (β × List Token)} {ts : List Token} {e : SyntaxError}

/-- Tokens with this outcome are the beginning of others that are read: they are read to their end, or more of them are
expected. -/
def Viable (outcome : Except SyntaxError (α × List Token)) : Prop :=
  outcome = .error .endOfExpression ∨ ∃ x, outcome = .ok (x, [])

/-- The tokens are read with some more behind them, the first of which is inert, before all tokens of a kind. -/
def Completable (R : List Token → Prop) (f : List Token → Except SyntaxError (α × List Token)) (ts : List Token) :
    Prop :=
  ∃ t us, t.Inert ∧ ∀ rest, R rest → ∃ x, f (ts ++ t :: (us ++ rest)) = .ok (x, rest)

/-- An error blames a token: those before it are viable, and what stands past the symbols of an operator does not
matter. -/
def Blamed (f : List Token → Except SyntaxError (α × List Token)) (ts : List Token) (e : SyntaxError) : Prop :=
  ∃ us t vs, ts = us ++ t :: vs ∧ (e = .unexpectedToken t.offset ∨ e = .regexDisabled t.offset) ∧ Viable (f us) ∧
    ∀ vs', (t :: vs').take maxOperatorLength = (t :: vs).take maxOperatorLength → f (us ++ t :: vs') = .error e

/-- An error is an early end of tokens that can be completed, or blames one of them. -/
def Faulty (R : List Token → Prop) (f : List Token → Except SyntaxError (α × List Token)) (ts : List Token)
    (e : SyntaxError) : Prop :=
  (e = .endOfExpression ∧ Completable R f ts) ∨ Blamed f ts e

theorem Faulty.first {t : Token} {vs : List Token} (he : e = .unexpectedToken t.offset ∨ e = .regexDisabled t.offset)
    (hviable : Viable (f []))
    (h : ∀ vs', (t :: vs').take maxOperatorLength = (t :: vs).take maxOperatorLength → f (t :: vs') = .error e) :
    Faulty R f (t :: vs) e :=
  .inr ⟨[], t, vs, rfl, he, hviable, h⟩

/-- A token that is refused whatever stands behind it is blamed. -/
theorem Faulty.refused {t : Token} {vs : List Token} {e' : SyntaxError}
    (he : e' = .unexpectedToken t.offset ∨ e' = .regexDisabled t.offset) (hviable : Viable (f []))
    (hall : ∀ us, f (t :: us) = .error e') (h : f (t :: vs) = .error e) : Faulty R f (t :: vs) e := by
  rw [hall] at h
  cases h
  exact .first he hviable fun vs' _ => hall vs'

/-- A parser that goes on with another one behind some tokens has its faults. -/
theorem Faulty.after {h : List Token → Except SyntaxError (α × List Token)} (us : List Token) (hQ : Settled Q ts)
    (hread : ∀ rest, Q rest → h (us ++ rest) = f rest) (hf : Faulty R f ts e) : Faulty R h (us ++ ts) e := by
  rcases hf with ⟨rfl, t, vs, ht, hcomplete⟩ | ⟨before, t, vs, rfl, he, hviable, hlook⟩
  · refine .inl ⟨rfl, t, vs, ht, fun rest hrest => ?_⟩
    rw [List.append_assoc, hread _ (hQ.continued ht _)]
    exact hcomplete rest hrest
  · refine .inr ⟨us ++ before, t, vs, (List.append_assoc ..).symm, he, ?_, fun vs' hvs => ?_⟩
    · rw [hread _ (hQ.cut (List.prefix_append ..))]
      exact hviable
    · rw [List.append_assoc, hread _ (hQ.look (take_append_congr hvs before))]
      exact hlook vs' hvs

/-- What a parser does behind another one is to end with it, or to read some more. -/
structure Closes (R R' : List Token → Prop) (g : α × List Token → Except SyntaxError (β × List Token)) : Prop where
  viable (x : α) : Viable (g (x, []))
  close : ∃ us, ∀ rest, R' rest → R (us ++ rest) ∧ ∀ x, ∃ y, g (x, us ++ rest) = .ok (y, rest)

/-- The faults of a parser are faults of another one that goes on behind it. -/
theorem Faulty.bind (hg : Closes R R' g) (hf : Faulty R f ts e) : Faulty R' (fun us => f us >>= g) ts e := by
  rcases hf with ⟨rfl, t, us, ht, hcomplete⟩ | ⟨before, t, vs, rfl, he, hviable, hlook⟩
  · obtain ⟨vs, hclose⟩ := hg.close
    refine .inl ⟨rfl, t, us ++ vs, ht, fun rest hrest => ?_⟩
    obtain ⟨hR, hread⟩ := hclose rest hrest
    obtain ⟨x, hx⟩ := hcomplete (vs ++ rest) hR
    obtain ⟨y, hy⟩ := hread x
    rw [List.append_assoc]
    exact ⟨y, bind_eq_ok_iff.2 ⟨_, hx, hy⟩⟩
  · refine .inr ⟨before, t, vs, rfl, he, ?_, fun vs' hvs => ?_⟩
    · show Viable (f before >>= g)
      rcases hviable with herror | ⟨x, hx⟩
      · rw [herror]
        exact .inl rfl
      · rw [hx]
        exact hg.viable x
    · show (f (before ++ t :: vs') >>= g) = .error e
      rw [hlook vs' hvs]
      rfl

/-- The faults of two parsers, one behind the other. -/
theorem Steady.bind_faulty (hsteady : Steady R f) (hclose : Closes R R' g)
    (hf : ∀ {e}, f ts = .error e → Faulty R f ts e)
    (hg : ∀ x rest, f ts = .ok (x, rest) → g (x, rest) = .error e → Faulty R' (fun us => g (x, us)) rest e)
    (h : (f ts >>= g) = .error e) : Faulty R' (fun us => f us >>= g) ts e := by
  cases hfts : f ts with
  | error e' =>
    rw [hfts] at h
    cases h
    exact (hf hfts).bind hclose
  | ok y =>
    obtain ⟨x, rest⟩ := y
    rw [hfts] at h
    obtain ⟨us, rfl, hus⟩ := hsteady.carry hfts
    refine (hg x rest hfts h).after us (hsteady.settled hfts) fun rest' hrest => ?_
    show (f (us ++ rest') >>= g) = g (x, rest')
    rw [hus rest' hrest]
    rfl

/-- A parser whose results are changed has the same faults. -/
theorem Faulty.map (k : α → β) (hf : ∀ {e}, f ts = .error e → Faulty R f ts e)
    (h : (f ts >>= fun x => .ok (k x.1, x.2)) = .error e) :
    Faulty R (fun us => f us >>= fun x => .ok (k x.1, x.2)) ts e := by
  have hcloses : Closes R R fun x : α × List Token => .ok (k x.1, x.2) :=
    ⟨fun x => .inr ⟨k x, rfl⟩, [], fun rest hrest => ⟨hrest, fun x => ⟨k x, rfl⟩⟩⟩
  cases hfts : f ts with
  | error e' =>
    rw [hfts] at h
    cases h
    exact (hf hfts).bind hcloses
  | ok x =>
    rw [hfts] at h
    cases h

end

/-! ### Operators -/

section
variable {α : Type} {R : List Token → Prop} {f h : List Token → Except SyntaxError (α × List Token)} {ts : List Token}
  {e : SyntaxError} {op : BinaryOp}

/-- A parser that goes on behind an operator has the faults of what stands there. -/
theorem Faulty.behind_operator (hleads : op.Leads ts)
    (hread : ∀ us, op.Leads us → h us = f (us.drop op.spelling.length))
    (hf : Faulty R f (ts.drop op.spelling.length) e) : Faulty R h ts e := by
  have hlength : (ts.take op.spelling.length).length = op.spelling.length := by
    rw [List.length_take]
    exact Nat.min_eq_left hleads.length_le
  have hsplit : op.Leads (ts.take op.spelling.length ++ ts.drop op.spelling.length) := by
    rwa [List.take_append_drop]
  have hafter := hf.after (ts.take op.spelling.length) (settled_leads (Nat.le_of_eq hlength.symm) hsplit)
    fun rest hrest => (hread _ hrest).trans (congrArg f (List.drop_left' hlength))
  rwa [List.take_append_drop] at hafter

/-- An operator for which no budget is left is blamed. -/
theorem Faulty.operator (hleads : op.Leads ts)
    (hread : ∀ us, op.Leads us → h us = .error (.unexpectedToken (offset us))) (hnil : Viable (h [])) :
    Faulty R h ts (.unexpectedToken (offset ts)) := by
  cases ts with
  | nil => exact absurd hleads (not_leads_nil op)
  | cons t ts => exact .first (.inl rfl) hnil fun vs hvs => hread _ (hleads.of_take hvs)

end

/-! ### Tokens that complete others -/

/-- A token for a symbol. -/
def symbolToken (c : Char) : Token := ⟨.symbol c, 0, 1⟩

/-- A token for a literal. -/
def literalToken : Token := ⟨.literal .null, 0, 4⟩

/-- A token for a name. -/
def nameToken : Token := ⟨.identifier "x", 0, 1⟩

theorem isSymbol_symbolToken (c : Char) : (symbolToken c).isSymbol c := by
  simp [symbolToken, Token.isSymbol, Token.symbol?]

theorem inert_symbolToken {c : Char} (hc : c ∈ [':', ',', ')', ']']) : (symbolToken c).Inert :=
  Token.inert_of_isSymbol (isSymbol_symbolToken c) hc

theorem inert_literalToken : literalToken.Inert := ⟨rfl, fun _ hc => nomatch hc⟩

theorem inert_nameToken : nameToken.Inert := ⟨by decide, fun _ hc => nomatch hc⟩

theorem expect_symbolToken (c : Char) (rest : List Token) :
    expect c (symbolToken c :: rest) = .ok ((symbolToken c).range, rest) :=
  expect_eq_ok_iff.2 ⟨symbolToken c, rfl, isSymbol_symbolToken c, rfl⟩

/-- A literal is an expression. -/
theorem conditional_literal (r : Bool) (b : Nat) {rest : List Token} (h : Phrase.conditional.Stops rest) :
    ∃ n, conditional (standard r) b (literalToken :: rest) = .ok (n, rest) := by
  let operand : Derivation r (.chain []) (literalToken :: rest) rest :=
    .tightest (.base (.unsigned (.object (.literal literalToken .null rfl))))
  obtain ⟨d, -, hd⟩ := operand.exists_looser binaryLevels
  have hcharge : (Derivation.plain d).charge ≤ b := by
    show d.charge ≤ b
    rw [hd]
    exact Nat.zero_le b
  exact ⟨_, finds (.plain d) hcharge h⟩

theorem chain_nil_tokens (g : Grammar) (b : Nat) (levels : List OperatorTable) :
    chain g b levels [] = .error .endOfExpression := by
  induction levels with
  | nil =>
    rw [chain_nil, exponent, unary, member, primary]
    rfl
  | cons table levels ih =>
    rw [chain, ih]
    rfl

theorem conditional_nil_tokens (g : Grammar) (b : Nat) : conditional g b [] = .error .endOfExpression := by
  rw [conditional, chain_nil_tokens]
  rfl

/-! ### Brackets and symbols -/

variable {r : Bool} {b : Nat} {ts : List Token} {e : SyntaxError}

theorem expect_faulty {c : Char} (hc : c ∈ [':', ',', ')', ']']) (h : expect c ts = .error e) :
    Faulty (fun _ => True) (expect c) ts e := by
  cases ts with
  | nil =>
    cases h
    exact .inl ⟨rfl, symbolToken c, [], inert_symbolToken hc, fun rest _ => ⟨_, expect_symbolToken c rest⟩⟩
  | cons t ts =>
    by_cases ht : t.isSymbol c
    · rw [expect_eq_ok_iff.2 ⟨t, rfl, ht, rfl⟩] at h
      cases h
    · have hall (us : List Token) : expect c (t :: us) = .error (.unexpectedToken t.offset) := by
        simp only [expect, next, bind, Except.bind, ht]
        rfl
      exact .refused (.inl rfl) (.inl rfl) hall h

/-! ### Lists -/

section
variable {item : List Token → Except SyntaxError (Node × List Token)} {close : Char} {trailing : Bool}

/-- The items of a list with a bound that is never reached. -/
def entries (item : List Token → Except SyntaxError (Node × List Token)) (close : Char) (trailing : Bool)
    (ts : List Token) : Except SyntaxError ((List Node × Range) × List Token) :=
  items item close trailing (ts.length + 1) ts

/-- What stands behind a comma in a list. -/
def entriesMore (item : List Token → Except SyntaxError (Node × List Token)) (close : Char) (trailing : Bool)
    (first : Node) : List Token → Except SyntaxError ((List Node × Range) × List Token)
  | [] => entries item close trailing [] >>= fun x => .ok ((first :: x.1.1, x.1.2), x.2)
  | u :: rest =>
    if trailing && u.isSymbol close then .ok (([first], u.range), rest)
    else entries item close trailing (u :: rest) >>= fun x => .ok ((first :: x.1.1, x.1.2), x.2)

/-- What stands behind an item of a list. -/
def entriesRest (item : List Token → Except SyntaxError (Node × List Token)) (close : Char) (trailing : Bool)
    (first : Node) : List Token → Except SyntaxError ((List Node × Range) × List Token)
  | [] => .error .endOfExpression
  | t :: rest =>
    if t.isSymbol close then .ok (([first], t.range), rest)
    else if t.isSymbol ',' then entriesMore item close trailing first rest
    else .error (.unexpectedToken t.offset)

section
variable (hitem : ∀ {ts n rest}, item ts = .ok (n, rest) → rest.length ≤ ts.length)
include hitem

/-- The bound does not matter if there are fewer tokens. -/
theorem items_congr {fuel fuel' : Nat} {ts : List Token} (h : ts.length < fuel) (h' : ts.length < fuel') :
    items item close trailing fuel ts = items item close trailing fuel' ts := by
  induction fuel generalizing fuel' ts with
  | zero => omega
  | succ fuel ih =>
    obtain ⟨fuel', rfl⟩ : ∃ k, fuel' = k + 1 := ⟨fuel' - 1, by omega⟩
    rw [items, items]
    cases hts : item ts with
    | error e => rfl
    | ok x =>
      obtain ⟨first, rest⟩ := x
      have hle := hitem hts
      cases rest with
      | nil => rfl
      | cons t rest =>
        rw [List.length_cons] at hle
        have hmore : items item close trailing fuel rest = items item close trailing fuel' rest :=
          ih (by omega) (by omega)
        simp only [next, bind, Except.bind]
        cases rest with
        | nil => rw [hmore]
        | cons u rest => rw [hmore]

theorem entries_eq (ts : List Token) :
    entries item close trailing ts = item ts >>= fun x => entriesRest item close trailing x.1 x.2 := by
  rw [entries, items]
  cases hts : item ts with
  | error e => rfl
  | ok x =>
    obtain ⟨first, rest⟩ := x
    have hle := hitem hts
    cases rest with
    | nil => rfl
    | cons t rest =>
      rw [List.length_cons] at hle
      have hmore : items item close trailing ts.length rest = entries item close trailing rest :=
        items_congr hitem (by omega) (Nat.lt_succ_self _)
      simp only [next, bind, Except.bind, entriesRest, entriesMore]
      cases rest with
      | nil =>
        rw [hmore]
        rfl
      | cons u rest =>
        rw [hmore]
        rfl

end

end

theorem length_le_of_conditional {n : Node} {rest : List Token}
    (h : conditional (standard r) b ts = .ok (n, rest)) : rest.length ≤ ts.length := by
  obtain ⟨us, rfl, -⟩ := (steady_conditional r b).carry h
  rw [List.length_append]
  omega

section
variable {close : Char} {trailing : Bool}

theorem entriesRest_close (first : Node) (rest : List Token) :
    entriesRest (conditional (standard r) b) close trailing first (symbolToken close :: rest) =
      .ok (([first], (symbolToken close).range), rest) := by
  rw [entriesRest, if_pos (isSymbol_symbolToken close)]

variable (hclose : close = ')' ∨ close = ']')
  (hitem : ∀ {ts e}, conditional (standard r) b ts = .error e →
    Faulty Phrase.conditional.Stops (conditional (standard r) b) ts e)
include hclose

theorem close_mem : close ∈ [':', ',', ')', ']'] := by
  rcases hclose with rfl | rfl <;> decide

theorem closes_entriesRest : Closes Phrase.conditional.Stops (fun _ => True)
    fun x => entriesRest (conditional (standard r) b) close trailing x.1 x.2 := by
  refine ⟨fun _ => .inl rfl, [symbolToken close], fun rest _ => ⟨?_, fun first => ⟨_, entriesRest_close first rest⟩⟩⟩
  exact stops_conditional_of_close hclose (isSymbol_symbolToken close)

/-- Behind a comma at the end of the tokens an item can stand. -/
theorem entries_literal (rest : List Token) : ∃ x, entries (conditional (standard r) b) close trailing
    (literalToken :: symbolToken close :: rest) = .ok (x, rest) := by
  have hstop : Phrase.conditional.Stops (symbolToken close :: rest) :=
    stops_conditional_of_close hclose (isSymbol_symbolToken close)
  obtain ⟨n, hn⟩ := conditional_literal r b hstop
  rw [entries_eq length_le_of_conditional, hn]
  exact ⟨_, entriesRest_close n rest⟩

theorem entriesMore_faulty (first : Node)
    (ih : ∀ {e}, entries (conditional (standard r) b) close trailing ts = .error e →
      Faulty (fun _ => True) (entries (conditional (standard r) b) close trailing) ts e)
    (h : entriesMore (conditional (standard r) b) close trailing first ts = .error e) :
    Faulty (fun _ => True) (entriesMore (conditional (standard r) b) close trailing first) ts e := by
  cases ts with
  | nil =>
    -- The list may not be closed here at once: the comma may be one that needs an item behind it.
    rw [entriesMore, entries_eq length_le_of_conditional, conditional_nil_tokens] at h
    cases h
    refine .inl ⟨rfl, literalToken, [symbolToken close], inert_literalToken, fun rest _ => ?_⟩
    have hitem : ∃ x, entries (conditional (standard r) b) close trailing
        (literalToken :: symbolToken close :: rest) = .ok (x, rest) := entries_literal hclose rest
    obtain ⟨x, hx⟩ := hitem
    have hlit : ¬ (trailing && literalToken.isSymbol close) = true := by
      simp [literalToken, Token.isSymbol, Token.symbol?]
    refine ⟨(first :: x.1, x.2), ?_⟩
    show entriesMore _ _ _ _ (literalToken :: symbolToken close :: rest) = _
    rw [entriesMore, if_neg hlit]
    exact bind_eq_ok_iff.2 ⟨_, hx, rfl⟩
  | cons u ts =>
    by_cases hu : (trailing && u.isSymbol close) = true
    · rw [entriesMore, if_pos hu] at h
      cases h
    · rw [entriesMore, if_neg hu] at h
      have hQ : Settled (fun us => ∀ t, us.head? = some t → (trailing && t.isSymbol close) = false) (u :: ts) := by
        refine settled_head (fun t ht => ?_) fun hnil => absurd hnil (List.cons_ne_nil _ _)
        cases ht
        simpa using hu
      have hmap := Faulty.map (fun x => (first :: x.1, x.2)) ih h
      refine hmap.after [] hQ fun rest hrest => ?_
      cases rest with
      | nil => rfl
      | cons t rest =>
        show entriesMore _ _ _ _ (t :: rest) = _
        rw [entriesMore, hrest t rfl]
        rfl

theorem entriesRest_faulty (first : Node)
    (ih : ∀ {us e}, us.length < ts.length → entries (conditional (standard r) b) close trailing us = .error e →
      Faulty (fun _ => True) (entries (conditional (standard r) b) close trailing) us e)
    (h : entriesRest (conditional (standard r) b) close trailing first ts = .error e) :
    Faulty (fun _ => True) (entriesRest (conditional (standard r) b) close trailing first) ts e := by
  cases ts with
  | nil =>
    cases h
    exact .inl ⟨rfl, symbolToken close, [], inert_symbolToken (close_mem hclose),
      fun rest _ => ⟨_, entriesRest_close first rest⟩⟩
  | cons t ts =>
    by_cases ht : t.isSymbol close
    · rw [entriesRest, if_pos ht] at h
      cases h
    by_cases hcomma : t.isSymbol ','
    · have hall (us : List Token) : entriesRest (conditional (standard r) b) close trailing first (t :: us) =
          entriesMore (conditional (standard r) b) close trailing first us := by
        rw [entriesRest, if_neg ht, if_pos hcomma]
      rw [hall] at h
      have hmore := entriesMore_faulty hclose first (ih (Nat.lt_succ_self _)) h
      exact hmore.after [t] (.trivial ts) fun rest _ => hall rest
    · have hall (us : List Token) : entriesRest (conditional (standard r) b) close trailing first (t :: us) =
          .error (.unexpectedToken t.offset) := by
        rw [entriesRest, if_neg ht, if_neg hcomma]
      exact .refused (.inl rfl) (.inl rfl) hall h

include hitem

theorem entries_faulty (h : entries (conditional (standard r) b) close trailing ts = .error e) :
    Faulty (fun _ => True) (entries (conditional (standard r) b) close trailing) ts e := by
  have heq : entries (conditional (standard r) b) close trailing = fun us =>
      conditional (standard r) b us >>= fun x => entriesRest (conditional (standard r) b) close trailing x.1 x.2 :=
    funext (entries_eq length_le_of_conditional)
  -- The induction is on the number of tokens: the items are not bounded by the budget.
  induction hn : ts.length using Nat.strong_induction_on generalizing ts e with
  | _ n ih =>
    rw [heq] at h ⊢
    refine (steady_conditional r b).bind_faulty (closes_entriesRest hclose) hitem (fun first rest hfirst h => ?_) h
    have hle := length_le_of_conditional hfirst
    exact entriesRest_faulty hclose first (fun hus hent => ih _ (by omega) hent rfl) h

theorem list_faulty (h : list (conditional (standard r) b) close trailing ts = .error e) :
    Faulty (fun _ => True) (list (conditional (standard r) b) close trailing) ts e := by
  cases ts with
  | nil =>
    have hentries : list (conditional (standard r) b) close trailing [] =
        entries (conditional (standard r) b) close trailing [] := rfl
    rw [hentries, entries_eq length_le_of_conditional, conditional_nil_tokens] at h
    cases h
    refine .inl ⟨rfl, symbolToken close, [], inert_symbolToken (close_mem hclose), fun rest _ => ?_⟩
    exact ⟨([], (symbolToken close).range),
      list_eq_ok_iff.2 (.inl ⟨symbolToken close, rfl, isSymbol_symbolToken close, rfl, rfl⟩)⟩
  | cons t ts =>
    by_cases ht : t.isSymbol close
    · rw [list, if_pos ht] at h
      cases h
    · rw [list, if_neg ht] at h
      have hQ : Settled (fun us => ∀ u, us.head? = some u → u.isSymbol close = false) (t :: ts) := by
        refine settled_head (fun u hu => ?_) fun hnil => absurd hnil (List.cons_ne_nil _ _)
        cases hu
        simpa using ht
      refine (entries_faulty hclose hitem h).after [] hQ fun rest hrest => ?_
      cases rest with
      | nil => rfl
      | cons u rest =>
        have hu := hrest u rfl
        show list _ _ _ (u :: rest) = _
        rw [list, hu]
        rfl

end

end ExprLang.Parser
