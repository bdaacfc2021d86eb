import ExprLang.Proofs.ParserSound

/-!
# The parsers find derivations

A parser takes as much as it can.  So a derivation is found if the tokens behind it cannot continue its phrase
(`Phrase.Stops`) and its charge is within the budget (`Parser.finds`).  Inside a derivation every phrase is stopped
by what follows it: an operator of another level, a symbol of `?:`, a comma or a closing bracket.
-/

open ExprLang.Parser

namespace ExprLang

/-- No operator of a table leads the tokens. -/
def NoOperator (table : OperatorTable) (ts : List Token) : Prop := ∀ op ∈ table, ¬ op.Leads ts

/-- The tokens cannot continue a phrase that stands before them. -/
def Phrase.Stops : Phrase → List Token → Prop
  | conditional, ts => startsStep ts = false ∧ NoOperator allOperators ts ∧ startsWith '?' ts = false
  | chain levels, ts => startsStep ts = false ∧ NoOperator (levels.flatten ++ exponentialLevel) ts
  | level table levels _, ts =>
    startsStep ts = false ∧ NoOperator ((table :: levels).flatten ++ exponentialLevel) ts
  | exponent, ts => startsStep ts = false ∧ NoOperator exponentialLevel ts
  | unary, ts | member _, ts => startsStep ts = false
  | primary, _ | list .., _ | items .., _ => True

theorem NoOperator.subset {table table' : OperatorTable} {ts : List Token} (h : NoOperator table ts)
    (hsub : ∀ op ∈ table', op ∈ table) : NoOperator table' ts :=
  fun op hop => h op (hsub op hop)

theorem stops_conditional_nil : Phrase.conditional.Stops [] :=
  ⟨rfl, fun op _ => not_leads_nil op, rfl⟩

/-- A symbol that neither begins a step nor is a part of an operator stops every chain. -/
theorem stops_chain_of_isSymbol {t : Token} {ts : List Token} {c : Char} (h : t.isSymbol c) (hc : c ∈ punctuation)
    (hstep : c ∉ ['.', '[', '(']) (levels : List OperatorTable) : (Phrase.chain levels).Stops (t :: ts) := by
  refine ⟨?_, fun op _ => not_leads_of_isSymbol h hc⟩
  simp only [startsStep, startsWith_cons, Bool.or_eq_false_iff]
  refine ⟨⟨isSymbol_eq_false h ?_, isSymbol_eq_false h ?_⟩, isSymbol_eq_false h ?_⟩ <;>
    exact fun he => hstep (by simp [he])

theorem stops_conditional_of_isSymbol {t : Token} {ts : List Token} {c : Char} (h : t.isSymbol c)
    (hc : c ∈ [':', ',', ')', ']']) : Phrase.conditional.Stops (t :: ts) := by
  obtain ⟨hp, hstep, hq⟩ : c ∈ punctuation ∧ c ∉ ['.', '[', '('] ∧ c ≠ '?' := by
    simp only [List.mem_cons, List.not_mem_nil, or_false] at hc
    rcases hc with rfl | rfl | rfl | rfl <;> decide
  obtain ⟨hsteps, hop⟩ := @stops_chain_of_isSymbol _ ts _ h hp hstep binaryLevels
  exact ⟨hsteps, hop, isSymbol_eq_false h hq⟩

theorem stops_conditional_of_close {t : Token} {ts : List Token} {close : Char} (hclose : close = ')' ∨ close = ']')
    (h : t.isSymbol close) : Phrase.conditional.Stops (t :: ts) := by
  apply stops_conditional_of_isSymbol h
  rcases hclose with rfl | rfl <;> decide

theorem comma_ne_close {close : Char} (hclose : close = ')' ∨ close = ']') : ',' ≠ close := by
  rcases hclose with rfl | rfl <;> decide

theorem startsStep_of_leads {op : BinaryOp} {ts : List Token} (hleads : op.Leads ts) : startsStep ts = false := by
  cases ts with
  | nil => rfl
  | cons t ts =>
    have key (c : Char) (hc : c ∈ punctuation) : t.isSymbol c = false := by
      rw [Bool.eq_false_iff]
      exact fun h => not_leads_of_isSymbol h hc hleads
    simp [startsStep, key '.' (by decide), key '[' (by decide), key '(' (by decide)]

/-- An operator of a level stops the tighter ones. -/
theorem stops_chain_of_leads {table : OperatorTable} {levels : List OperatorTable} {op : BinaryOp} {ts : List Token}
    (hlevels : table :: levels <:+ binaryLevels) (hop : op ∈ table) (hleads : op.Leads ts) :
    (Phrase.chain levels).Stops ts := by
  refine ⟨startsStep_of_leads hleads, ?_⟩
  intro op' hop' hleads'
  rw [hleads'.unique hleads] at hop'
  exact not_mem_of_mem_suffix hlevels hop hop'

theorem Phrase.Stops.globalRule_eq_none {levels : List OperatorTable} {ts : List Token} {table : OperatorTable}
    (h : (Phrase.chain levels).Stops ts) (htable : ∀ op ∈ table, op ∈ levels.flatten ++ exponentialLevel) :
    globalRule table ts = none := by
  cases hr : globalRule table ts with
  | none => rfl
  | some op =>
    obtain ⟨hop, hleads⟩ := globalRule_eq_some_iff.1 hr
    exact absurd hleads (h.2 op (htable op hop))

/-! ### What a phrase starts with -/

/-- The symbols that an expression may start with. -/
def openingSymbols : List Char := ['+', '-', '!', '(', '[']

theorem close_not_mem_openingSymbols {close : Char} (hclose : close = ')' ∨ close = ']') : close ∉ openingSymbols := by
  rcases hclose with rfl | rfl <;> decide

/-- No derivation but that of an empty list starts with another symbol. -/
theorem Derivation.startsWith_eq_false {r : Bool} {p : Phrase} {ts rest : List Token} (d : Derivation r p ts rest)
    (hp : ∀ close trailing, p ≠ .list close trailing) {c : Char} (hc : c ∉ openingSymbols) :
    startsWith c ts = false := by
  have hsymbol {t : Token} {e : Char} (ht : t.isSymbol e) (he : e ∈ openingSymbols) : t.isSymbol c = false := by
    apply isSymbol_eq_false ht
    rintro rfl
    exact hc he
  have hlexeme {t : Token} (ht : t.symbol? = none) : t.isSymbol c = false := by simp [Token.isSymbol, ht]
  induction d with
  | signed sign op hsign operand ih =>
    rw [startsWith_cons]
    unfold unaryOp? at hsign
    split at hsign
    · rename_i h
      exact hsymbol (e := '+') (by simp [Token.isSymbol, Token.symbol?, h]) (by decide)
    · rename_i h
      exact hsymbol (e := '-') (by simp [Token.isSymbol, Token.symbol?, h]) (by decide)
    · rename_i h
      exact hsymbol (e := '!') (by simp [Token.isSymbol, Token.symbol?, h]) (by decide)
    · rename_i h
      exact hlexeme (by simp [Token.symbol?, h])
    · cases hsign
  | literal t v ht => exact hlexeme (by simp [Token.symbol?, ht])
  | name t word ht hword => exact hlexeme (by simp [Token.symbol?, ht])
  | regex t pattern flags ht hallowed => exact hlexeme (by simp [Token.symbol?, ht])
  | parens opening closing hopening inner hclosing ih => exact hsymbol hopening (by decide)
  | array opening hopening entries ih => exact hsymbol hopening (by decide)
  | empty closing hclosing => exact absurd rfl (hp _ _)
  | filled entries ih => exact absurd rfl (hp _ _)
  | plain _ ih | tightest _ ih | folded _ ih | operand _ ih | base _ ih | unsigned _ ih | object _ ih =>
    exact ih (by simp)
  | branch _ _ _ _ _ ih | fold _ _ _ _ _ ih | power _ _ _ _ _ ih | dot _ _ _ _ _ ih | index _ _ _ _ _ ih
  | call _ _ _ ih | last _ _ _ ih | lastComma _ _ _ _ _ ih | more _ _ _ ih =>
    exact ih (by simp)

/-- A member starts with no unary operator. -/
theorem Derivation.unaryOp?_eq_none {r : Bool} {p : Phrase} {ts rest : List Token} (d : Derivation r p ts rest)
    (hp : p = .primary ∨ ∃ k, p = .member k) : ts.head?.bind unaryOp? = none := by
  induction d with
  | object primary ih => exact ih (.inl rfl)
  | dot _ _ _ _ _ ih | index _ _ _ _ _ ih | call _ _ _ ih => exact ih (.inr ⟨_, rfl⟩)
  | literal t v ht => simp [unaryOp?, ht]
  | name t word ht hword => simp [unaryOp?, ht, hword]
  | regex t pattern flags ht hallowed => simp [unaryOp?, ht]
  | parens opening closing hopening inner hclosing ih =>
    have h := lexeme_of_isSymbol hopening
    simp [unaryOp?, h]
  | array opening hopening entries ih =>
    have h := lexeme_of_isSymbol hopening
    simp [unaryOp?, h]
  | _ => simp at hp

/-! ### Finding a derivation -/

/-- The parser of a phrase reads a result in front of the last list of tokens.  Of a level and of a member it has read
some folds or steps and carries on with what is left of the budget. -/
def Parser.Finds (r : Bool) : (p : Phrase) → p.Result → Nat → List Token → List Token → Prop
  | .conditional, n, b, ts, rest => Phrase.conditional.Stops rest → conditional (standard r) b ts = .ok (n, rest)
  | .chain levels, n, b, ts, rest =>
    levels <:+ binaryLevels → (Phrase.chain levels).Stops rest → chain (standard r) b levels ts = .ok (n, rest)
  | .level table levels k, n, b, ts, rest =>
    table :: levels <:+ binaryLevels → (Phrase.chain levels).Stops rest →
      ∀ {n' rest'}, folds (standard r) (b - k) table levels n rest = .ok (n', rest') →
        chain (standard r) b (table :: levels) ts = .ok (n', rest')
  | .exponent, n, b, ts, rest => Phrase.exponent.Stops rest → exponent (standard r) b ts = .ok (n, rest)
  | .unary, n, b, ts, rest => Phrase.unary.Stops rest → unary (standard r) b ts = .ok (n, rest)
  | .member k, n, b, ts, rest =>
    ∀ {n' rest'}, steps (standard r) (b - k) n rest = .ok (n', rest') → member (standard r) b ts = .ok (n', rest')
  | .primary, n, b, ts, rest => primary (standard r) b ts = .ok (n, rest)
  | .list close trailing, x, b, ts, rest =>
    close = ')' ∨ close = ']' → list (conditional (standard r) b) close trailing ts = .ok (x, rest)
  | .items close trailing, x, b, ts, rest =>
    close = ')' ∨ close = ']' → ∀ fuel, ts.length < fuel →
      items (conditional (standard r) b) close trailing fuel ts = .ok (x, rest)

/-- A parser finds a derivation that is within the budget. -/
theorem Parser.finds {r : Bool} {p : Phrase} {ts rest : List Token} (d : Derivation r p ts rest) {b : Nat}
    (hb : d.charge ≤ b) : Finds r p d.result b ts rest := by
  induction d generalizing b with
  | plain condition ih =>
    intro hstop
    exact conditional_eq_ok_iff.2 (.inl ⟨ih hb List.suffix_rfl ⟨hstop.1, hstop.2.1⟩, hstop.2.2⟩)
  | @branch _ ts₁ ts₂ _ question colon condition hquestion consequent hcolon alternate ihc iha ihb =>
    intro hstop
    simp only [Derivation.charge] at hb
    obtain ⟨b, rfl⟩ : ∃ c, b = c + 1 := ⟨b - 1, by omega⟩
    refine conditional_eq_ok_iff.2 (.inr ⟨b, _, _, _, question, colon, ts₁, ts₂, rfl, ?_, hquestion, ?_, hcolon, ?_,
      rfl⟩)
    · exact ihc (by omega) List.suffix_rfl (stops_chain_of_isSymbol hquestion (by decide) (by decide) _)
    · exact iha (by omega) (stops_conditional_of_isSymbol hcolon (by decide))
    · exact ihb (by omega) hstop
  | tightest operand ih =>
    intro _ hstop
    rw [chain_nil]
    exact ih hb hstop
  | folded folds ih =>
    intro hlevels hstop
    refine ih hb hlevels ⟨hstop.1, hstop.2.subset ?_⟩ (folds_eq_ok_iff.2 (.inl ⟨hstop.globalRule_eq_none ?_, rfl, rfl⟩))
    · intro op hop
      simp only [List.flatten_cons, List.append_assoc]
      exact List.mem_append_right _ hop
    · intro op hop
      simp only [List.flatten_cons, List.append_assoc]
      exact List.mem_append_left _ hop
  | operand tighter ih =>
    intro hlevels hstop n' rest' h
    exact chain_cons_eq_ok_iff.2 ⟨_, _, ih hb ((List.suffix_cons _ _).trans hlevels) hstop, h⟩
  | fold left op hop hleads right ihl ihr =>
    intro hlevels hstop n' rest' h
    simp only [Derivation.charge] at hb
    -- The left part is read first, and the fold goes on from there with the budget that the earlier folds left.
    apply ihl (by omega) hlevels (stops_chain_of_leads hlevels hop hleads)
    refine folds_eq_ok_iff.2 (.inr ⟨_, op, _, _, ?_, globalRule_eq_some_iff.2 ⟨hop, hleads⟩, ?_, h⟩)
    · omega
    · exact ihr (by omega) ((List.suffix_cons _ _).trans hlevels) hstop
  | base operand ih =>
    intro hstop
    refine exponent_eq_ok_iff.2 (.inl ⟨ih hb hstop.1, ?_⟩)
    exact @Phrase.Stops.globalRule_eq_none [] _ _ hstop fun op hop => hop
  | @power _ ts₁ _ left op hop hleads right ihl ihr =>
    intro hstop
    simp only [Derivation.charge] at hb
    obtain ⟨b, rfl⟩ : ∃ c, b = c + 1 := ⟨b - 1, by omega⟩
    refine exponent_eq_ok_iff.2 (.inr ⟨b, op, _, _, ts₁, rfl, ihl (by omega) (startsStep_of_leads hleads),
      globalRule_eq_some_iff.2 ⟨hop, hleads⟩, ihr (by omega) hstop, rfl⟩)
  | signed sign op hsign operand ih =>
    intro hstop
    simp only [Derivation.charge] at hb
    obtain ⟨b, rfl⟩ : ∃ c, b = c + 1 := ⟨b - 1, by omega⟩
    exact unary_eq_ok_iff.2 (.inr ⟨b, sign, _, op, _, rfl, rfl, hsign, ih (by omega) hstop, rfl⟩)
  | unsigned operand ih =>
    intro hstop
    exact unary_eq_ok_iff.2 (.inl ⟨operand.unaryOp?_eq_none (.inr ⟨_, rfl⟩), ih hb (steps_of_not_startsStep hstop)⟩)
  | object primary ih =>
    intro n' rest' h
    exact member_eq_ok_iff.2 ⟨_, _, ih hb, h⟩
  | @dot k _ _ _ key word object hpoint hkey ih =>
    intro n' rest' h
    simp only [Derivation.charge] at hb
    apply ih (by omega)
    rw [show b - k = b - (k + 1) + 1 by omega, steps_point hpoint]
    exact ⟨key, word, _, rfl, hkey, h⟩
  | @index k _ _ _ _ closing object hopening key hclosing ih ihk =>
    intro n' rest' h
    simp only [Derivation.charge] at hb
    apply ih (by omega)
    rw [show b - k = b - (k + 1) + 1 by omega, steps_bracket hopening]
    exact ⟨_, closing, _, ihk (by omega) (stops_conditional_of_isSymbol hclosing (by decide)), hclosing, h⟩
  | @call k _ _ _ _ callee hopening arguments ih iha =>
    intro n' rest' h
    simp only [Derivation.charge] at hb
    apply ih (by omega)
    rw [show b - k = b - (k + 1) + 1 by omega, steps_paren hopening]
    exact ⟨_, _, _, iha (by omega) (.inl rfl), h⟩
  | literal t v ht => exact primary_eq_ok_iff.2 ⟨t, _, rfl, .inl ⟨v, ht, rfl, rfl⟩⟩
  | name t word ht hword => exact primary_eq_ok_iff.2 ⟨t, _, rfl, .inr (.inl ⟨word, ht, rfl, rfl⟩)⟩
  | regex t pattern flags ht hallowed =>
    exact primary_eq_ok_iff.2 ⟨t, _, rfl, .inr (.inr (.inl ⟨pattern, flags, ht, hallowed, rfl, rfl⟩))⟩
  | parens opening closing hopening inner hclosing ih =>
    simp only [Derivation.charge] at hb
    obtain ⟨b, rfl⟩ : ∃ c, b = c + 1 := ⟨b - 1, by omega⟩
    refine primary_eq_ok_iff.2 ⟨opening, _, rfl, .inr (.inr (.inr (.inl ⟨b, _, closing, rfl, hopening, ?_, hclosing,
      rfl⟩)))⟩
    exact ih (by omega) (stops_conditional_of_isSymbol hclosing (by decide))
  | array opening hopening entries ih =>
    simp only [Derivation.charge] at hb
    obtain ⟨b, rfl⟩ : ∃ c, b = c + 1 := ⟨b - 1, by omega⟩
    exact primary_eq_ok_iff.2 ⟨opening, _, rfl, .inr (.inr (.inr (.inr ⟨b, _, _, rfl, hopening,
      ih (by omega) (.inr rfl), rfl⟩)))⟩
  | empty closing hclosing =>
    intro _
    exact list_eq_ok_iff.2 (.inl ⟨closing, rfl, hclosing, rfl, rfl⟩)
  | filled entries ih =>
    intro hclose
    -- No entry starts with the bracket that would close an empty list.
    have hopen := entries.startsWith_eq_false (by simp) (close_not_mem_openingSymbols hclose)
    exact list_eq_ok_iff.2 (.inr ⟨hopen, ih hb hclose _ (Nat.lt_succ_self _)⟩)
  | last closing item hclosing ih =>
    intro hclose fuel hfuel
    obtain ⟨fuel, rfl⟩ : ∃ c, fuel = c + 1 := ⟨fuel - 1, by omega⟩
    exact items_eq_ok_iff.2 ⟨_, closing, _, ih hb (stops_conditional_of_close hclose hclosing),
      .inl ⟨hclosing, rfl, rfl, rfl⟩⟩
  | lastComma closing htrailing item hcomma hclosing ih =>
    intro hclose fuel hfuel
    obtain ⟨fuel, rfl⟩ : ∃ c, fuel = c + 1 := ⟨fuel - 1, by omega⟩
    refine items_eq_ok_iff.2 ⟨_, _, _, ih hb (stops_conditional_of_isSymbol hcomma (by decide)),
      .inr ⟨?_, hcomma, .inl ⟨closing, rfl, htrailing, hclosing, rfl, rfl⟩⟩⟩
    exact isSymbol_eq_false hcomma (comma_ne_close hclose)
  | more item hcomma others ih iho =>
    intro hclose fuel hfuel
    obtain ⟨fuel, rfl⟩ : ∃ c, fuel = c + 1 := ⟨fuel - 1, by omega⟩
    simp only [Derivation.charge] at hb
    have hlength := item.length_lt
    rw [List.length_cons] at hlength
    refine items_eq_ok_iff.2 ⟨_, _, _, ih (by omega) (stops_conditional_of_isSymbol hcomma (by decide)),
      .inr ⟨?_, hcomma, .inr ⟨?_, _, ?_, rfl⟩⟩⟩
    · exact isSymbol_eq_false hcomma (comma_ne_close hclose)
    · rw [others.startsWith_eq_false (by simp) (close_not_mem_openingSymbols hclose), Bool.and_false]
    · exact iho (by omega) hclose fuel (by omega)

end ExprLang
