import ExprLang.Proofs.ParserComplete

/-!
# The grammar is unambiguous

Two derivations of a phrase from the same tokens are the same, if the tokens behind them cannot continue the phrase.
A level and a member are compared by their number of folds or steps: equal numbers make equal derivations, and after a
smaller number the next fold or step follows.
-/

open ExprLang.Parser

namespace ExprLang.Derivation

variable {r : Bool}

/-- Two derivations of a phrase are the same and leave the same tokens. -/
def Same {p : Phrase} {ts rest rest' : List Token} (d : Derivation r p ts rest) (d' : Derivation r p ts rest') : Prop :=
  (⟨rest, d⟩ : (s : List Token) × Derivation r p ts s) = ⟨rest', d'⟩

/-- A derivation is the only one of its phrase from its tokens that leaves tokens which cannot continue the phrase. -/
def Determined : {p : Phrase} → {ts rest : List Token} → Derivation r p ts rest → Prop
  | .conditional, ts, rest, d =>
    Phrase.conditional.Stops rest →
      ∀ {rest'} (d' : Derivation r .conditional ts rest'), Phrase.conditional.Stops rest' → d.Same d'
  | .chain levels, ts, rest, d =>
    levels <:+ binaryLevels → (Phrase.chain levels).Stops rest →
      ∀ {rest'} (d' : Derivation r (.chain levels) ts rest'), (Phrase.chain levels).Stops rest' → d.Same d'
  | .level table levels k, ts, rest, d =>
    table :: levels <:+ binaryLevels → (Phrase.chain levels).Stops rest →
      (∀ {rest'} (d' : Derivation r (.level table levels k) ts rest'), (Phrase.chain levels).Stops rest' → d.Same d') ∧
      ∀ {k' rest'} (_ : Derivation r (.level table levels k') ts rest'), k' < k → (Phrase.chain levels).Stops rest' →
        ∃ op ∈ table, op.Leads rest'
  | .exponent, ts, rest, d =>
    Phrase.exponent.Stops rest →
      ∀ {rest'} (d' : Derivation r .exponent ts rest'), Phrase.exponent.Stops rest' → d.Same d'
  | .unary, ts, rest, d =>
    Phrase.unary.Stops rest → ∀ {rest'} (d' : Derivation r .unary ts rest'), Phrase.unary.Stops rest' → d.Same d'
  | .member k, ts, _, d =>
    (∀ {rest'} (d' : Derivation r (.member k) ts rest'), d.Same d') ∧
      ∀ {k' rest'} (_ : Derivation r (.member k') ts rest'), k' < k → startsStep rest' = true
  | .primary, ts, _, d => ∀ {rest'} (d' : Derivation r .primary ts rest'), d.Same d'
  | .list close trailing, ts, _, d =>
    close = ')' ∨ close = ']' → ∀ {rest'} (d' : Derivation r (.list close trailing) ts rest'), d.Same d'
  | .items close trailing, ts, _, d =>
    close = ')' ∨ close = ']' → ∀ {rest'} (d' : Derivation r (.items close trailing) ts rest'), d.Same d'

/-- Before its last fold a level has fewer folds, and an operator of the table follows them. -/
private theorem exists_fewer_folds {table : OperatorTable} {levels : List OperatorTable} {j k : Nat}
    {ts rest : List Token} (d : Derivation r (.level table levels k) ts rest) (hj : j < k) :
    ∃ s, ∃ op ∈ table, op.Leads s ∧ Nonempty (Derivation r (.level table levels j) ts s) := by
  induction k generalizing rest with
  | zero => omega
  | succ k ih =>
    cases d with
    | fold left op hop hleads right =>
      rcases Nat.lt_succ_iff_lt_or_eq.1 hj with h | rfl
      · exact ih left h
      · exact ⟨_, op, hop, hleads, ⟨left⟩⟩

/-- Before its last step a member has fewer steps, and a step follows them. -/
private theorem exists_fewer_steps {j k : Nat} {ts rest : List Token} (d : Derivation r (.member k) ts rest)
    (hj : j < k) : ∃ s, startsStep s = true ∧ Nonempty (Derivation r (.member j) ts s) := by
  induction k generalizing rest with
  | zero => omega
  | succ k ih =>
    rcases Nat.lt_succ_iff_lt_or_eq.1 hj with h | rfl
    · cases d with
      | dot key word object hpoint hkey => exact ih object h
      | index closing object hopening key hclosing => exact ih object h
      | call callee hopening arguments => exact ih callee h
    · cases d with
      | dot key word object hpoint hkey => exact ⟨_, by simp [startsStep, hpoint], ⟨object⟩⟩
      | index closing object hopening key hclosing => exact ⟨_, by simp [startsStep, hopening], ⟨object⟩⟩
      | call callee hopening arguments => exact ⟨_, by simp [startsStep, hopening], ⟨callee⟩⟩

private theorem startsStep_of_fewer {k k' : Nat} {t : Token} {ts rest rest' : List Token}
    {d : Derivation r (.member k) ts (t :: rest)} (hd : d.Determined) (ht : startsStep (t :: rest) = true)
    (d' : Derivation r (.member k') ts rest') (hk : k' < k + 1) : startsStep rest' = true := by
  rcases Nat.lt_succ_iff_lt_or_eq.1 hk with h | rfl
  · exact hd.2 d' h
  · cases hd.1 d'
    exact ht

/-- Every derivation is determined by its tokens. -/
theorem determined {p : Phrase} {ts rest : List Token} (d : Derivation r p ts rest) : d.Determined := by
  induction d with
  | plain condition ih =>
    intro hstop rest' d' hstop'
    cases d' with
    | plain condition' =>
      cases ih List.suffix_rfl ⟨hstop.1, hstop.2.1⟩ condition' ⟨hstop'.1, hstop'.2.1⟩
      rfl
    | branch condition' hquestion' consequent' hcolon' alternate' =>
      cases ih List.suffix_rfl ⟨hstop.1, hstop.2.1⟩ condition'
        (stops_chain_of_isSymbol hquestion' (by decide) (by decide) _)
      have hq := hstop.2.2
      rw [startsWith_cons, hquestion'] at hq
      cases hq
  | @branch _ ts₁ _ _ _ _ condition hquestion consequent hcolon alternate ihc iha ihb =>
    intro hstop rest' d' hstop'
    have hstopc := @stops_chain_of_isSymbol _ ts₁ _ hquestion (by decide) (by decide) binaryLevels
    cases d' with
    | plain condition' =>
      cases ihc List.suffix_rfl hstopc condition' ⟨hstop'.1, hstop'.2.1⟩
      have hq := hstop'.2.2
      rw [startsWith_cons, hquestion] at hq
      cases hq
    | branch condition' hquestion' consequent' hcolon' alternate' =>
      cases ihc List.suffix_rfl hstopc condition' (stops_chain_of_isSymbol hquestion' (by decide) (by decide) _)
      cases iha (stops_conditional_of_isSymbol hcolon (by decide)) consequent'
        (stops_conditional_of_isSymbol hcolon' (by decide))
      cases ihb hstop alternate' hstop'
      rfl
  | tightest operand ih =>
    intro _ hstop rest' d' hstop'
    cases d' with
    | tightest operand' =>
      cases ih hstop operand' hstop'
      rfl
  | @folded table levels k _ _ folds ih =>
    intro hlevels hstop rest' d' hstop'
    have hinner {s : List Token} (h : (Phrase.chain (table :: levels)).Stops s) : (Phrase.chain levels).Stops s := by
      refine ⟨h.1, h.2.subset fun op hop => ?_⟩
      simp only [List.flatten_cons, List.append_assoc]
      exact List.mem_append_right _ hop
    have hnone {s : List Token} (h : (Phrase.chain (table :: levels)).Stops s) : ¬ ∃ op ∈ table, op.Leads s := by
      rintro ⟨op, hop, hleads⟩
      exact h.2 op (by simp [hop]) hleads
    obtain ⟨hsame, hfewer⟩ := ih hlevels (hinner hstop)
    cases d' with
    | @folded _ _ k' _ _ folds' =>
      -- With fewer folds on one side an operator of the table would be left behind it, where the chain must stop.
      rcases Nat.lt_trichotomy k k' with hk | rfl | hk
      · obtain ⟨s, op, hop, hleads, ⟨d⟩⟩ := exists_fewer_folds folds' hk
        cases hsame d (stops_chain_of_leads hlevels hop hleads)
        exact absurd ⟨op, hop, hleads⟩ (hnone hstop)
      · cases hsame folds' (hinner hstop')
        rfl
      · exact absurd (hfewer folds' hk (hinner hstop')) (hnone hstop')
  | operand tighter ih =>
    intro hlevels hstop
    refine ⟨fun d' hstop' => ?_, fun _ hk => absurd hk (Nat.not_lt_zero _)⟩
    cases d' with
    | operand tighter' =>
      cases ih ((List.suffix_cons _ _).trans hlevels) hstop tighter' hstop'
      rfl
  | @fold table levels k _ ts₁ _ left op hop hleads right ihl ihr =>
    intro hlevels hstop
    obtain ⟨hsame, hfewer⟩ := ihl hlevels (stops_chain_of_leads hlevels hop hleads)
    refine ⟨fun d' hstop' => ?_, fun d' hk hstop' => ?_⟩
    · cases d' with
      | fold left' op' hop' hleads' right' =>
        cases hsame left' (stops_chain_of_leads hlevels hop' hleads')
        cases hleads.unique hleads'
        cases ihr ((List.suffix_cons _ _).trans hlevels) hstop right' hstop'
        rfl
    · rcases Nat.lt_succ_iff_lt_or_eq.1 hk with h | rfl
      · exact hfewer d' h hstop'
      · cases hsame d' hstop'
        exact ⟨op, hop, hleads⟩
  | base operand ih =>
    intro hstop rest' d' hstop'
    cases d' with
    | base operand' =>
      cases ih hstop.1 operand' hstop'.1
      rfl
    | power left op hop hleads right =>
      cases ih hstop.1 left (startsStep_of_leads hleads)
      exact absurd hleads (hstop.2 op hop)
  | power left op hop hleads right ihl ihr =>
    intro hstop rest' d' hstop'
    cases d' with
    | base operand =>
      cases ihl (startsStep_of_leads hleads) operand hstop'.1
      exact absurd hleads (hstop'.2 op hop)
    | power left' op' hop' hleads' right' =>
      cases ihl (startsStep_of_leads hleads) left' (startsStep_of_leads hleads')
      cases hleads.unique hleads'
      cases ihr hstop right' hstop'
      rfl
  | signed sign op hsign operand ih =>
    intro hstop rest' d' hstop'
    cases d' with
    | signed _ op' hsign' operand' =>
      rw [hsign] at hsign'
      cases hsign'
      cases ih hstop operand' hstop'
      rfl
    | unsigned operand' =>
      have h := operand'.unaryOp?_eq_none (.inr ⟨_, rfl⟩)
      rw [List.head?_cons, Option.bind_some, hsign] at h
      cases h
  | @unsigned k _ _ operand ih =>
    intro hstop rest' d' hstop'
    cases d' with
    | signed sign op hsign operand' =>
      have h := operand.unaryOp?_eq_none (.inr ⟨_, rfl⟩)
      rw [List.head?_cons, Option.bind_some, hsign] at h
      cases h
    | @unsigned k' _ _ operand' =>
      -- Likewise a step would be left behind the shorter member.
      rcases Nat.lt_trichotomy k k' with hk | rfl | hk
      · obtain ⟨s, hstep, ⟨d⟩⟩ := exists_fewer_steps operand' hk
        cases ih.1 d
        rw [hstop] at hstep
        cases hstep
      · cases ih.1 operand'
        rfl
      · have hstep := ih.2 operand' hk
        rw [hstop'] at hstep
        cases hstep
  | object primary ih =>
    refine ⟨fun d' => ?_, fun _ hk => absurd hk (Nat.not_lt_zero _)⟩
    cases d' with
    | object primary' =>
      cases ih primary'
      rfl
  | dot key word object hpoint hkey ih =>
    refine ⟨fun d' => ?_, startsStep_of_fewer ih (by simp [startsStep, hpoint])⟩
    cases d' with
    | dot key' word' object' hpoint' hkey' =>
      cases ih.1 object'
      rw [hkey] at hkey'
      cases hkey'
      rfl
    | index closing' object' hopening' key' hclosing' =>
      cases ih.1 object'
      exact absurd (isSymbol_unique hpoint hopening') (by decide)
    | call object' hopening' arguments' =>
      cases ih.1 object'
      exact absurd (isSymbol_unique hpoint hopening') (by decide)
  | index closing object hopening key hclosing ih ihk =>
    refine ⟨fun d' => ?_, startsStep_of_fewer ih (by simp [startsStep, hopening])⟩
    cases d' with
    | dot key' word' object' hpoint' hkey' =>
      cases ih.1 object'
      exact absurd (isSymbol_unique hopening hpoint') (by decide)
    | index closing' object' hopening' key' hclosing' =>
      cases ih.1 object'
      cases ihk (stops_conditional_of_isSymbol hclosing (by decide)) key'
        (stops_conditional_of_isSymbol hclosing' (by decide))
      rfl
    | call object' hopening' arguments' =>
      cases ih.1 object'
      exact absurd (isSymbol_unique hopening hopening') (by decide)
  | call callee hopening arguments ih iha =>
    refine ⟨fun d' => ?_, startsStep_of_fewer ih (by simp [startsStep, hopening])⟩
    cases d' with
    | dot key' word' object' hpoint' hkey' =>
      cases ih.1 object'
      exact absurd (isSymbol_unique hopening hpoint') (by decide)
    | index closing' object' hopening' key' hclosing' =>
      cases ih.1 object'
      exact absurd (isSymbol_unique hopening hopening') (by decide)
    | call callee' hopening' arguments' =>
      cases ih.1 callee'
      cases iha (.inl rfl) arguments'
      rfl
  | literal t v ht =>
    intro rest' d'
    cases d' with
    | literal _ v' ht' =>
      rw [ht] at ht'
      cases ht'
      rfl
    | name _ _ ht' | regex _ _ _ ht' => exact absurd (ht.symm.trans ht') (by simp)
    | parens _ _ h | array _ h => exact absurd (ht.symm.trans (lexeme_of_isSymbol h)) (by simp)
  | name t word ht hword =>
    intro rest' d'
    cases d' with
    | name _ word' ht' hword' =>
      rw [ht] at ht'
      cases ht'
      rfl
    | literal _ _ ht' | regex _ _ _ ht' => exact absurd (ht.symm.trans ht') (by simp)
    | parens _ _ h | array _ h => exact absurd (ht.symm.trans (lexeme_of_isSymbol h)) (by simp)
  | regex t pattern flags ht hallowed =>
    intro rest' d'
    cases d' with
    | regex _ pattern' flags' ht' hallowed' =>
      rw [ht] at ht'
      cases ht'
      rfl
    | literal _ _ ht' | name _ _ ht' => exact absurd (ht.symm.trans ht') (by simp)
    | parens _ _ h | array _ h => exact absurd (ht.symm.trans (lexeme_of_isSymbol h)) (by simp)
  | parens opening closing hopening inner hclosing ih =>
    intro rest' d'
    cases d' with
    | parens _ closing' hopening' inner' hclosing' =>
      cases ih (stops_conditional_of_isSymbol hclosing (by decide)) inner'
        (stops_conditional_of_isSymbol hclosing' (by decide))
      rfl
    | literal _ _ ht | name _ _ ht | regex _ _ _ ht =>
      exact absurd (ht.symm.trans (lexeme_of_isSymbol hopening)) (by simp)
    | array _ h => exact absurd (isSymbol_unique hopening h) (by decide)
  | array opening hopening entries ih =>
    intro rest' d'
    cases d' with
    | array _ hopening' entries' =>
      cases ih (.inr rfl) entries'
      rfl
    | literal _ _ ht | name _ _ ht | regex _ _ _ ht =>
      exact absurd (ht.symm.trans (lexeme_of_isSymbol hopening)) (by simp)
    | parens _ _ h => exact absurd (isSymbol_unique hopening h) (by decide)
  | empty closing hclosing =>
    intro hclose rest' d'
    cases d' with
    | empty _ hclosing' => rfl
    | filled entries =>
      have h := entries.startsWith_eq_false (by simp) (close_not_mem_openingSymbols hclose)
      rw [startsWith_cons, hclosing] at h
      cases h
  | filled entries ih =>
    intro hclose rest' d'
    cases d' with
    | empty closing hclosing =>
      have h := entries.startsWith_eq_false (by simp) (close_not_mem_openingSymbols hclose)
      rw [startsWith_cons, hclosing] at h
      cases h
    | filled entries' =>
      cases ih hclose entries'
      rfl
  | last closing item hclosing ih =>
    intro hclose rest' d'
    have hstop {s : List Token} := @stops_conditional_of_close _ s _ hclose hclosing
    cases d' with
    | last closing' item' hclosing' =>
      cases ih hstop item' (stops_conditional_of_close hclose hclosing')
      rfl
    | lastComma _ _ item' hcomma | more item' hcomma =>
      cases ih hstop item' (stops_conditional_of_isSymbol hcomma (by decide))
      exact absurd (isSymbol_unique hcomma hclosing) (comma_ne_close hclose)
  | lastComma closing htrailing item hcomma hclosing ih =>
    intro hclose rest' d'
    have hstop {s : List Token} := @stops_conditional_of_isSymbol _ s _ hcomma (by decide)
    cases d' with
    | last closing' item' hclosing' =>
      cases ih hstop item' (stops_conditional_of_close hclose hclosing')
      exact absurd (isSymbol_unique hcomma hclosing') (comma_ne_close hclose)
    | lastComma closing' _ item' hcomma' =>
      cases ih hstop item' (stops_conditional_of_isSymbol hcomma' (by decide))
      rfl
    | more item' hcomma' others =>
      cases ih hstop item' (stops_conditional_of_isSymbol hcomma' (by decide))
      have h := others.startsWith_eq_false (by simp) (close_not_mem_openingSymbols hclose)
      rw [startsWith_cons, hclosing] at h
      cases h
  | more item hcomma others ih iho =>
    intro hclose rest' d'
    have hstop {s : List Token} := @stops_conditional_of_isSymbol _ s _ hcomma (by decide)
    cases d' with
    | last closing' item' hclosing' =>
      cases ih hstop item' (stops_conditional_of_close hclose hclosing')
      exact absurd (isSymbol_unique hcomma hclosing') (comma_ne_close hclose)
    | lastComma closing' _ item' hcomma' hclosing' =>
      cases ih hstop item' (stops_conditional_of_isSymbol hcomma' (by decide))
      have h := others.startsWith_eq_false (by simp) (close_not_mem_openingSymbols hclose)
      rw [startsWith_cons, hclosing'] at h
      cases h
    | more item' hcomma' others' =>
      cases ih hstop item' (stops_conditional_of_isSymbol hcomma' (by decide))
      cases iho hclose others'
      rfl

/-- Tokens have at most one derivation as an expression. -/
theorem unambiguous {ts : List Token} (d d' : Derivation r .conditional ts []) : d = d' := by
  cases d.determined stops_conditional_nil d' stops_conditional_nil
  rfl

end ExprLang.Derivation
