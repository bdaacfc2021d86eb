import ExprLang.Proofs.DerivationTokens

/-!
# How far the parsers read

* Tokens that stop a phrase go on stopping it when some of them are cut off, when a token that continues nothing is put
  behind them, and when they are changed past the third (`Settled`).
* A parser stops only before tokens that stop its phrase (`munches`): it reads as much as it can.
* What it has read it reads in front of any other tokens that stop the phrase (`Steady`).
-/

open ExprLang.Parser

namespace ExprLang

/-! ### Conditions that look a few tokens ahead -/

/-- A token that is no prefix operator and continues no expression: neither `typeof` nor a symbol other than a colon, a
comma or a closing bracket. -/
def Token.Inert (t : Token) : Prop := unaryOp? t = none ∧ ∀ c, t.symbol? = some c → c ∈ [':', ',', ')', ']']

theorem Token.Inert.solid {t : Token} (h : t.Inert) : t.Solid := by
  intro c hc
  have hm : c ∈ [':', ',', ')', ']'] := h.2 c hc
  simp only [List.mem_cons, List.not_mem_nil, or_false] at hm
  rcases hm with rfl | rfl | rfl | rfl <;> decide

theorem Token.Inert.isSymbol_eq_false {t : Token} (h : t.Inert) {c : Char} (hc : c ∉ [':', ',', ')', ']']) :
    t.isSymbol c = false := by
  rw [Bool.eq_false_iff]
  intro ht
  have hs : t.symbol? = some c := by simpa [Token.isSymbol] using ht
  exact hc (h.2 c hs)

theorem Token.inert_of_isSymbol {t : Token} {c : Char} (h : t.isSymbol c) (hc : c ∈ [':', ',', ')', ']']) :
    t.Inert := by
  have ht := lexeme_of_isSymbol h
  refine ⟨?_, fun d hd => ?_⟩
  · simp only [List.mem_cons, List.not_mem_nil, or_false] at hc
    rcases hc with rfl | rfl | rfl | rfl <;> simp [unaryOp?, ht]
  · simp only [Token.symbol?, ht, Option.some.injEq] at hd
    exact hd ▸ hc

/-- A condition holds of tokens however they are cut, continued by an inert token or changed past the third. -/
structure Settled (Q : List Token → Prop) (ts : List Token) : Prop where
  cut {us : List Token} (h : us <+: ts) : Q us
  continued {t : Token} (ht : t.Inert) (us : List Token) : Q (ts ++ t :: us)
  look {us : List Token} (h : us.take maxOperatorLength = ts.take maxOperatorLength) : Q us

namespace Settled

variable {Q Q' : List Token → Prop} {ts : List Token}

theorem trivial (ts : List Token) : Settled (fun _ => True) ts :=
  ⟨fun _ => True.intro, fun _ _ => True.intro, fun _ => True.intro⟩

theorem and (h : Settled Q ts) (h' : Settled Q' ts) : Settled (fun us => Q us ∧ Q' us) ts :=
  ⟨fun hus => ⟨h.cut hus, h'.cut hus⟩, fun ht us => ⟨h.continued ht us, h'.continued ht us⟩,
    fun hus => ⟨h.look hus, h'.look hus⟩⟩

theorem mono (h : Settled Q ts) (hQ : ∀ us, Q us → Q' us) : Settled Q' ts :=
  ⟨fun hus => hQ _ (h.cut hus), fun ht us => hQ _ (h.continued ht us), fun hus => hQ _ (h.look hus)⟩

end Settled

/-- A condition on the first token, which an inert one must meet if there is none. -/
theorem settled_head {P : Token → Prop} {ts : List Token} (h : ∀ t, ts.head? = some t → P t)
    (hinert : ts = [] → ∀ t : Token, t.Inert → P t) : Settled (fun us => ∀ t, us.head? = some t → P t) ts := by
  cases ts with
  | nil =>
    refine ⟨fun hus t ht => ?_, fun hu us t ht => ?_, fun {us} hus t ht => ?_⟩
    · rw [List.prefix_nil.1 hus] at ht
      cases ht
    · cases ht
      exact hinert rfl _ hu
    · obtain ⟨us, rfl⟩ := List.head?_eq_some_iff.1 ht
      simp [maxOperatorLength] at hus
  | cons u ts =>
    have hu : P u := h u rfl
    refine ⟨fun {us} hus t ht => ?_, fun _ us t ht => ?_, fun {us} hus t ht => ?_⟩
    · obtain ⟨us, rfl⟩ := List.head?_eq_some_iff.1 ht
      rw [List.cons_prefix_cons] at hus
      exact hus.1 ▸ hu
    · cases ht
      exact hu
    · obtain ⟨us, rfl⟩ := List.head?_eq_some_iff.1 ht
      simp only [maxOperatorLength, List.take_succ_cons, List.cons.injEq] at hus
      exact hus.1 ▸ hu

theorem startsWith_eq_false_iff {c : Char} {ts : List Token} :
    startsWith c ts = false ↔ ∀ t, ts.head? = some t → t.isSymbol c = false := by
  cases ts <;> simp

theorem settled_startsWith {c : Char} (hc : c ∉ [':', ',', ')', ']']) {ts : List Token} (h : startsWith c ts = false) :
    Settled (fun us => startsWith c us = false) ts := by
  have key := settled_head (P := fun t => t.isSymbol c = false) (startsWith_eq_false_iff.1 h)
    fun _ t ht => ht.isSymbol_eq_false hc
  exact key.mono fun us => startsWith_eq_false_iff.2

theorem settled_startsStep {ts : List Token} (h : startsStep ts = false) :
    Settled (fun us => startsStep us = false) ts := by
  simp only [startsStep, Bool.or_eq_false_iff] at h ⊢
  exact ((settled_startsWith (by decide) h.1.1).and (settled_startsWith (by decide) h.1.2)).and
    (settled_startsWith (by decide) h.2)

/-- Where an operator of some levels could be read, a longer one is of these levels as well. -/
theorem mem_of_prefix_spelling {levels : List OperatorTable} (hlevels : levels <:+ binaryLevels) {op longer : BinaryOp}
    (hop : op ∈ levels.flatten ++ exponentialLevel) (h : op.spelling <+: longer.spelling) :
    longer ∈ levels.flatten ++ exponentialLevel := by
  have key : ∀ levels ∈ binaryLevels.tails, ∀ op ∈ levels.flatten ++ exponentialLevel, ∀ longer ∈ allOperators,
      op.spelling <+: longer.spelling → longer ∈ levels.flatten ++ exponentialLevel := by decide
  exact key levels ((List.mem_tails ..).2 hlevels) op hop longer longer.mem_allOperators h

theorem settled_noOperator {levels : List OperatorTable} (hlevels : levels <:+ binaryLevels) {ts : List Token}
    (h : NoOperator (levels.flatten ++ exponentialLevel) ts) :
    Settled (NoOperator (levels.flatten ++ exponentialLevel)) ts := by
  refine ⟨fun hus op hop hleads => ?_, fun ht us op hop hleads => ?_, fun hus op hop hleads => ?_⟩
  · -- The cut may have shortened an operator, but only to one of the same levels.
    obtain ⟨vs, rfl⟩ := hus
    obtain ⟨longest, hlongest, hlonger⟩ := BinaryOp.exists_leads (hleads.1.trans (leadingSymbols_prefix_append _ vs))
    exact h longest (mem_of_prefix_spelling hlevels hop hlonger) hlongest
  · exact h op hop ((BinaryOp.leads_append_solid_iff ht.solid).1 hleads)
  · exact h op hop (hleads.of_take hus.symm)

theorem take_append_congr {n : Nat} {us us' : List Token} (h : us'.take n = us.take n) (before : List Token) :
    (before ++ us').take n = (before ++ us).take n := by
  have hless := congrArg (List.take (n - before.length)) h
  rw [List.take_take, List.take_take, Nat.min_eq_left (Nat.sub_le ..)] at hless
  rw [List.take_append, List.take_append, hless]

/-- An operator that is there to the end leads whatever stands behind it. -/
theorem settled_leads {op : BinaryOp} {us ts : List Token} (hus : op.spelling.length ≤ us.length)
    (h : op.Leads (us ++ ts)) : Settled (fun rest => op.Leads (us ++ rest)) ts := by
  refine ⟨fun {before} hbefore => ?_, fun ht after => ?_, fun hlook => ?_⟩
  · obtain ⟨after, rfl⟩ := hbefore
    rw [← List.append_assoc] at h
    exact h.of_append (by rw [List.length_append]; omega)
  · rw [← List.append_assoc]
    exact (BinaryOp.leads_append_solid_iff ht.solid).2 h
  · exact h.of_take (take_append_congr hlook us)

namespace Phrase.Stops

variable {ts : List Token}

theorem settled_chain {levels : List OperatorTable} (hlevels : levels <:+ binaryLevels) (h : (chain levels).Stops ts) :
    Settled (chain levels).Stops ts :=
  (settled_startsStep h.1).and (settled_noOperator hlevels h.2)

theorem settled_conditional (h : conditional.Stops ts) : Settled conditional.Stops ts :=
  (settled_startsStep h.1).and ((settled_noOperator List.suffix_rfl h.2.1).and (settled_startsWith (by decide) h.2.2))

end Phrase.Stops

/-! ### The parsers read as much as they can -/

namespace Parser

variable {r : Bool} {b : Nat}

theorem noOperator_of_globalRule {table : OperatorTable} {ts : List Token} (h : globalRule table ts = none) :
    NoOperator table ts := by
  intro op hop hleads
  rw [globalRule_eq_some_iff.2 ⟨hop, hleads⟩] at h
  cases h

/-- What the parsers leave stops their phrases. -/
structure Munches (r : Bool) (b : Nat) : Prop where
  conditional {ts rest : List Token} {n : Node} :
    conditional (standard r) b ts = .ok (n, rest) → Phrase.conditional.Stops rest
  chain {levels : List OperatorTable} {ts rest : List Token} {n : Node} :
    chain (standard r) b levels ts = .ok (n, rest) → (Phrase.chain levels).Stops rest
  folds {table : OperatorTable} {levels : List OperatorTable} {left : Node} {ts rest : List Token} {n : Node} :
    folds (standard r) b table levels left ts = .ok (n, rest) → (Phrase.chain levels).Stops ts →
      (Phrase.chain (table :: levels)).Stops rest
  exponent {ts rest : List Token} {n : Node} :
    exponent (standard r) b ts = .ok (n, rest) → Phrase.exponent.Stops rest
  unary {ts rest : List Token} {n : Node} : unary (standard r) b ts = .ok (n, rest) → Phrase.unary.Stops rest
  steps {object : Node} {ts rest : List Token} {n : Node} :
    steps (standard r) b object ts = .ok (n, rest) → startsStep rest = false

section
variable (below : ∀ c, b = c + 1 → Munches r c) {ts rest : List Token} {n : Node}
include below

private theorem steps_munches {object : Node} (h : steps (standard r) b object ts = .ok (n, rest)) :
    startsStep rest = false := by
  by_cases hstep : startsStep ts = true
  · cases ts with
    | nil => cases hstep
    | cons t ts =>
      cases b with
      | zero => exact absurd h (steps_zero hstep)
      | succ c =>
        simp only [startsStep, startsWith_cons, Bool.or_eq_true, or_assoc] at hstep
        rcases hstep with ht | ht | ht
        · obtain ⟨_, _, _, -, -, h⟩ := (steps_point ht).1 h
          exact (below c rfl).steps h
        · obtain ⟨_, _, _, -, -, h⟩ := (steps_bracket ht).1 h
          exact (below c rfl).steps h
        · obtain ⟨_, _, _, -, h⟩ := (steps_paren ht).1 h
          exact (below c rfl).steps h
  · rw [Bool.not_eq_true] at hstep
    rw [steps_of_not_startsStep hstep] at h
    cases h
    exact hstep

private theorem unary_munches (h : unary (standard r) b ts = .ok (n, rest)) : Phrase.unary.Stops rest := by
  rcases unary_eq_ok_iff.1 h with ⟨-, h⟩ | ⟨c, _, _, _, _, rfl, -, -, h, -⟩
  · obtain ⟨_, _, -, h⟩ := member_eq_ok_iff.1 h
    exact steps_munches below h
  · exact (below c rfl).unary h

private theorem exponent_munches (h : exponent (standard r) b ts = .ok (n, rest)) : Phrase.exponent.Stops rest := by
  rcases exponent_eq_ok_iff.1 h with ⟨h, hrule⟩ | ⟨c, _, _, _, _, rfl, -, -, h, -⟩
  · exact ⟨unary_munches below h, noOperator_of_globalRule hrule⟩
  · exact (below c rfl).exponent h

private theorem folds_munches {table : OperatorTable} {levels : List OperatorTable} {left : Node}
    (h : folds (standard r) b table levels left ts = .ok (n, rest)) (hts : (Phrase.chain levels).Stops ts) :
    (Phrase.chain (table :: levels)).Stops rest := by
  rcases folds_eq_ok_iff.1 h with ⟨hrule, -, rfl⟩ | ⟨c, _, _, _, rfl, -, hright, h⟩
  · refine ⟨hts.1, fun op hop => ?_⟩
    rw [List.flatten_cons, List.append_assoc, List.mem_append] at hop
    rcases hop with hop | hop
    · exact noOperator_of_globalRule hrule op hop
    · exact hts.2 op hop
  · exact (below c rfl).folds h ((below c rfl).chain hright)

private theorem chain_munches {levels : List OperatorTable} (h : chain (standard r) b levels ts = .ok (n, rest)) :
    (Phrase.chain levels).Stops rest := by
  induction levels generalizing n rest with
  | nil =>
    rw [chain_nil] at h
    exact exponent_munches below h
  | cons table levels ih =>
    obtain ⟨_, _, hleft, h⟩ := chain_cons_eq_ok_iff.1 h
    exact folds_munches below h (ih hleft)

private theorem conditional_munches (h : conditional (standard r) b ts = .ok (n, rest)) :
    Phrase.conditional.Stops rest := by
  rcases conditional_eq_ok_iff.1 h with ⟨h, hquestion⟩ | ⟨c, _, _, _, _, _, _, _, rfl, -, -, -, -, h, -⟩
  · have hstops := chain_munches below h
    exact ⟨hstops.1, hstops.2, hquestion⟩
  · exact (below c rfl).conditional h

private theorem munches_of_below : Munches r b :=
  ⟨conditional_munches below, chain_munches below, folds_munches below, exponent_munches below, unary_munches below,
    steps_munches below⟩

end

theorem munches (r : Bool) (b : Nat) : Munches r b := budget_induction (fun _ below => munches_of_below below) b

/-! ### The parsers read the same in front of other tokens -/

/-- A parser leaves tokens of a settled kind, and what it has read it reads in front of all tokens of this kind. -/
structure Steady {α : Type} (R : List Token → Prop) (f : List Token → Except SyntaxError (α × List Token)) : Prop where
  settled {ts rest : List Token} {x : α} (h : f ts = .ok (x, rest)) : Settled R rest
  carry {ts rest : List Token} {x : α} (h : f ts = .ok (x, rest)) :
    ∃ us, ts = us ++ rest ∧ ∀ rest', R rest' → f (us ++ rest') = .ok (x, rest')

theorem steady_expect (c : Char) : Steady (fun _ => True) (expect c) where
  settled _ := .trivial _
  carry h := by
    obtain ⟨t, rfl, ht, rfl⟩ := expect_eq_ok_iff.1 h
    exact ⟨[t], rfl, fun rest' _ => expect_eq_ok_iff.2 ⟨t, rfl, ht, rfl⟩⟩

/-- What is derived is found in front of other tokens too. -/
theorem Derives.carry {p : Phrase} {ts rest : List Token} {x : p.Result} (h : Derives r p b ts rest x) :
    ∃ us, ts = us ++ rest ∧ ∀ rest', Finds r p x b (us ++ rest') rest' := by
  obtain ⟨d, rfl, hd⟩ := h
  refine ⟨d.taken, d.taken_append.symm, fun rest' => ?_⟩
  obtain ⟨d', hresult, hcharge⟩ := d.carry rest'
  rw [← hresult]
  exact finds d' (hcharge ▸ hd)

theorem steady_conditional (r : Bool) (b : Nat) : Steady Phrase.conditional.Stops (conditional (standard r) b) where
  settled h := ((munches r b).conditional h).settled_conditional
  carry h := ((sound r b).conditional h).carry

theorem steady_chain (r : Bool) (b : Nat) {levels : List OperatorTable} (hlevels : levels <:+ binaryLevels) :
    Steady (Phrase.chain levels).Stops (chain (standard r) b levels) where
  settled h := ((munches r b).chain h).settled_chain hlevels
  carry h := by
    obtain ⟨us, hts, hus⟩ := ((sound r b).chain h).carry
    exact ⟨us, hts, fun rest' hstop => hus rest' hlevels hstop⟩

theorem steady_unary (r : Bool) (b : Nat) : Steady Phrase.unary.Stops (unary (standard r) b) where
  settled h := settled_startsStep ((munches r b).unary h)
  carry h := ((sound r b).unary h).carry

theorem steady_list (r : Bool) (b : Nat) {close : Char} (hclose : close = ')' ∨ close = ']') (trailing : Bool) :
    Steady (fun _ => True) (list (conditional (standard r) b) close trailing) where
  settled _ := .trivial _
  carry h := by
    obtain ⟨us, hts, hus⟩ := (list_sound (sound r b) h).carry
    exact ⟨us, hts, fun rest' _ => hus rest' hclose⟩

theorem steady_primary (r : Bool) (b : Nat) : Steady (fun _ => True) (primary (standard r) b) where
  settled _ := .trivial _
  carry {ts rest x} h := by
    rw [primary_eq_ok_iff] at h
    obtain ⟨t, ts₁, rfl, h⟩ := h
    rcases h with ⟨v, ht, rfl, rfl⟩ | ⟨word, ht, rfl, rfl⟩ | ⟨pattern, flags, ht, hr, rfl, rfl⟩ |
      ⟨c, inner, close, rfl, ht, hi, hclose, rfl⟩ | ⟨c, entries, close, rfl, ht, hl, rfl⟩
    · exact ⟨[t], rfl, fun rest' _ => primary_eq_ok_iff.2 ⟨t, rest', rfl, .inl ⟨v, ht, rfl, rfl⟩⟩⟩
    · exact ⟨[t], rfl, fun rest' _ => primary_eq_ok_iff.2 ⟨t, rest', rfl, .inr (.inl ⟨word, ht, rfl, rfl⟩)⟩⟩
    · exact ⟨[t], rfl, fun rest' _ => primary_eq_ok_iff.2
        ⟨t, rest', rfl, .inr (.inr (.inl ⟨pattern, flags, ht, hr, rfl, rfl⟩))⟩⟩
    · obtain ⟨us, rfl, hus⟩ := (steady_conditional r c).carry hi
      refine ⟨t :: (us ++ [close]), by simp, fun rest' _ => ?_⟩
      have hinner := hus (close :: rest') (stops_conditional_of_isSymbol hclose (by decide))
      rw [List.cons_append, List.append_assoc]
      exact primary_eq_ok_iff.2 ⟨t, _, rfl, .inr (.inr (.inr (.inl ⟨c, inner, close, rfl, ht, hinner, hclose, rfl⟩)))⟩
    · obtain ⟨us, rfl, hus⟩ := (steady_list r c (.inr rfl) true).carry hl
      exact ⟨t :: us, rfl, fun rest' _ => primary_eq_ok_iff.2
        ⟨t, _, rfl, .inr (.inr (.inr (.inr ⟨c, entries, close, rfl, ht, hus rest' trivial, rfl⟩)))⟩⟩

end Parser

end ExprLang
