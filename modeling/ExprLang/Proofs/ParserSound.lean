import ExprLang.Proofs.Grammar
import ExprLang.Proofs.ParserSteps

/-!
# The parsers read derivations

Whatever a parser has read has a derivation with the tree that it returns, and the derivation is charged no more than
the budget (`sound`).  The proof is by induction on the budget, with one lemma for each parser.  The parsers of folds
and of steps carry on from a derivation of what stands to the left.
-/

namespace ExprLang.Parser

/-- The grammar that reads the operator by which the tokens are led. -/
abbrev standard (allowRegex : Bool) : Grammar := { allowRegex }

/-- A phrase is derived with a given result within a budget. -/
def Derives (r : Bool) (p : Phrase) (b : Nat) (ts rest : List Token) (x : p.Result) : Prop :=
  ∃ d : Derivation r p ts rest, d.result = x ∧ d.charge ≤ b

/-- The parsers with a budget read derivations. -/
structure Sound (r : Bool) (b : Nat) : Prop where
  conditional {ts rest : List Token} {n : Node} :
    conditional (standard r) b ts = .ok (n, rest) → Derives r .conditional b ts rest n
  chain {levels : List OperatorTable} {ts rest : List Token} {n : Node} :
    chain (standard r) b levels ts = .ok (n, rest) → Derives r (.chain levels) b ts rest n
  folds {table : OperatorTable} {levels : List OperatorTable} {k : Nat} {ts₀ ts rest : List Token} {n : Node}
    (d : Derivation r (.level table levels k) ts₀ ts) (hd : d.charge ≤ b + k) :
    folds (standard r) b table levels d.result ts = .ok (n, rest) →
      ∃ k', Derives r (.level table levels k') (b + k) ts₀ rest n
  exponent {ts rest : List Token} {n : Node} :
    exponent (standard r) b ts = .ok (n, rest) → Derives r .exponent b ts rest n
  unary {ts rest : List Token} {n : Node} :
    unary (standard r) b ts = .ok (n, rest) → Derives r .unary b ts rest n
  steps {k : Nat} {ts₀ ts rest : List Token} {n : Node} (d : Derivation r (.member k) ts₀ ts)
    (hd : d.charge ≤ b + k) :
    steps (standard r) b d.result ts = .ok (n, rest) → ∃ k', Derives r (.member k') (b + k) ts₀ rest n

variable {r : Bool} {b : Nat} {ts rest : List Token} {n : Node}

theorem items_sound (hs : Sound r b) {close : Char} {trailing : Bool} {fuel : Nat} {ns : List Node}
    {range : Range} (h : items (conditional (standard r) b) close trailing fuel ts = .ok ((ns, range), rest)) :
    Derives r (.items close trailing) b ts rest (ns, range) := by
  induction fuel generalizing ts ns range with
  | zero => simp [items] at h
  | succ fuel ih =>
    rw [items_eq_ok_iff] at h
    obtain ⟨first, t, ts₁, hi, h⟩ := h
    obtain ⟨d, rfl, hd⟩ := hs.conditional hi
    rcases h with ⟨hc, rfl, rfl, rfl⟩ | ⟨-, hcomma, ⟨u, rfl, htrailing, hu, rfl, rfl⟩ | ⟨-, more, hm, rfl⟩⟩
    · exact ⟨.last t d hc, rfl, hd⟩
    · exact ⟨.lastComma u htrailing d hcomma hu, rfl, hd⟩
    · obtain ⟨e, he, hec⟩ := ih hm
      refine ⟨.more d hcomma e, ?_, Nat.max_le.2 ⟨hd, hec⟩⟩
      simp only [Derivation.result, he]

theorem list_sound (hs : Sound r b) {close : Char} {trailing : Bool} {ns : List Node} {range : Range}
    (h : list (conditional (standard r) b) close trailing ts = .ok ((ns, range), rest)) :
    Derives r (.list close trailing) b ts rest (ns, range) := by
  rw [list_eq_ok_iff] at h
  rcases h with ⟨t, rfl, ht, rfl, rfl⟩ | ⟨-, h⟩
  · exact ⟨.empty t ht, rfl, Nat.zero_le _⟩
  · obtain ⟨d, hd, hc⟩ := items_sound hs h
    exact ⟨.filled d, hd, hc⟩

section
variable (below : ∀ c, b = c + 1 → Sound r c)
include below

private theorem primary_sound (hts : ts.head?.bind unaryOp? = none)
    (h : primary (standard r) b ts = .ok (n, rest)) : Derives r .primary b ts rest n := by
  rw [primary_eq_ok_iff] at h
  obtain ⟨t, ts₁, rfl, h⟩ := h
  rcases h with ⟨v, ht, rfl, rfl⟩ | ⟨word, ht, rfl, rfl⟩ | ⟨pattern, flags, ht, hr, rfl, rfl⟩ |
    ⟨c, inner, close, rfl, ht, hi, hclose, rfl⟩ | ⟨c, entries, close, rfl, ht, hl, rfl⟩
  · exact ⟨.literal t v ht, rfl, Nat.zero_le _⟩
  · have hword : word ≠ "typeof" := by
      rintro rfl
      simp [unaryOp?, ht] at hts
    exact ⟨.name t word ht hword, rfl, Nat.zero_le _⟩
  · exact ⟨.regex t pattern flags ht hr, rfl, Nat.zero_le _⟩
  · obtain ⟨d, rfl, hd⟩ := (below c rfl).conditional hi
    exact ⟨.parens t close ht d hclose, rfl, by simp only [Derivation.charge]; omega⟩
  · obtain ⟨d, hd, hc⟩ := list_sound (below c rfl) hl
    exact ⟨.array t ht d, by simp only [Derivation.result, hd], by simp only [Derivation.charge]; omega⟩

private theorem steps_sound {k : Nat} {ts₀ : List Token} (d : Derivation r (.member k) ts₀ ts)
    (hd : d.charge ≤ b + k) (h : steps (standard r) b d.result ts = .ok (n, rest)) :
    ∃ k', Derives r (.member k') (b + k) ts₀ rest n := by
  by_cases hstep : startsStep ts = true
  · obtain ⟨t, ts, rfl⟩ : ∃ t ts', ts = t :: ts' := by
      cases ts with
      | nil => simp [startsStep] at hstep
      | cons t ts => exact ⟨t, ts, rfl⟩
    -- The step is taken off the budget and added to the steps read, so their sum stays the same.
    cases b with
    | zero => exact absurd h (steps_zero hstep)
    | succ c =>
      have hs := below c rfl
      simp only [startsStep, startsWith_cons, Bool.or_eq_true, or_assoc] at hstep
      rcases hstep with ht | ht | ht
      · obtain ⟨key, word, ts₁, rfl, hkey, h⟩ := (steps_point ht).1 h
        have he : (Derivation.dot key word d ht hkey).charge ≤ c + (k + 1) := by
          simp only [Derivation.charge]; omega
        obtain ⟨k', d', hd', hc⟩ := hs.steps (.dot key word d ht hkey) he h
        exact ⟨k', d', hd', by omega⟩
      · obtain ⟨key, close, ts₁, hkey, hclose, h⟩ := (steps_bracket ht).1 h
        obtain ⟨e, rfl, he⟩ := hs.conditional hkey
        have hi : (Derivation.index close d ht e hclose).charge ≤ c + (k + 1) := by
          simp only [Derivation.charge]; omega
        obtain ⟨k', d', hd', hc⟩ := hs.steps (.index close d ht e hclose) hi h
        exact ⟨k', d', hd', by omega⟩
      · obtain ⟨arguments, close, ts₁, hl, h⟩ := (steps_paren ht).1 h
        obtain ⟨e, he, hc⟩ := list_sound hs hl
        have hi : (Derivation.call d ht e).charge ≤ c + (k + 1) := by
          simp only [Derivation.charge]; omega
        obtain ⟨k', d', hd', hc⟩ := hs.steps (.call d ht e) hi (by simpa only [Derivation.result, he] using h)
        exact ⟨k', d', hd', by omega⟩
  · rw [Bool.not_eq_true] at hstep
    rw [steps_of_not_startsStep hstep] at h
    cases h
    exact ⟨k, d, rfl, hd⟩

private theorem unary_sound (h : unary (standard r) b ts = .ok (n, rest)) : Derives r .unary b ts rest n := by
  rw [unary_eq_ok_iff] at h
  rcases h with ⟨hts, h⟩ | ⟨c, t, ts₁, op, operand, rfl, rfl, ht, h, rfl⟩
  · obtain ⟨object, ts₁, hp, h⟩ := member_eq_ok_iff.1 h
    obtain ⟨d, rfl, hd⟩ := primary_sound below hts hp
    obtain ⟨k, e, he, hc⟩ := steps_sound below (.object d) hd h
    exact ⟨.unsigned e, he, hc⟩
  · obtain ⟨d, rfl, hd⟩ := (below c rfl).unary h
    exact ⟨.signed t op ht d, rfl, by simp only [Derivation.charge]; omega⟩

private theorem exponent_sound (h : exponent (standard r) b ts = .ok (n, rest)) : Derives r .exponent b ts rest n := by
  rw [exponent_eq_ok_iff] at h
  rcases h with ⟨h, -⟩ | ⟨c, op, left, right, ts₁, rfl, hl, hr, h, rfl⟩
  · obtain ⟨d, hd, hc⟩ := unary_sound below h
    exact ⟨.base d, hd, hc⟩
  · obtain ⟨d, rfl, hd⟩ := unary_sound below hl
    obtain ⟨e, rfl, he⟩ := (below c rfl).exponent h
    obtain ⟨hop, hleads⟩ := globalRule_eq_some_iff.1 hr
    exact ⟨.power d op hop hleads e, rfl, by simp only [Derivation.charge]; omega⟩

private theorem folds_sound {table : OperatorTable} {levels : List OperatorTable} {k : Nat} {ts₀ : List Token}
    (d : Derivation r (.level table levels k) ts₀ ts) (hd : d.charge ≤ b + k)
    (h : folds (standard r) b table levels d.result ts = .ok (n, rest)) :
    ∃ k', Derives r (.level table levels k') (b + k) ts₀ rest n := by
  rw [folds_eq_ok_iff] at h
  rcases h with ⟨-, rfl, rfl⟩ | ⟨c, op, right, ts₁, rfl, hr, hright, h⟩
  · exact ⟨k, d, rfl, hd⟩
  · have hs := below c rfl
    obtain ⟨hop, hleads⟩ := globalRule_eq_some_iff.1 hr
    obtain ⟨e, rfl, he⟩ := hs.chain hright
    have hf : (Derivation.fold d op hop hleads e).charge ≤ c + (k + 1) := by
      simp only [Derivation.charge]; omega
    obtain ⟨k', d', hd', hc⟩ := hs.folds (.fold d op hop hleads e) hf h
    exact ⟨k', d', hd', by omega⟩

private theorem chain_sound {levels : List OperatorTable} (h : chain (standard r) b levels ts = .ok (n, rest)) :
    Derives r (.chain levels) b ts rest n := by
  induction levels generalizing n rest with
  | nil =>
    rw [chain_nil] at h
    obtain ⟨d, hd, hc⟩ := exponent_sound below h
    exact ⟨.tightest d, hd, hc⟩
  | cons table levels ih =>
    obtain ⟨left, ts₁, hl, h⟩ := chain_cons_eq_ok_iff.1 h
    obtain ⟨d, rfl, hd⟩ := ih hl
    obtain ⟨k, e, he, hc⟩ := folds_sound below (.operand d) (by exact hd) h
    exact ⟨.folded e, he, hc⟩

private theorem conditional_sound (h : conditional (standard r) b ts = .ok (n, rest)) :
    Derives r .conditional b ts rest n := by
  rw [conditional_eq_ok_iff] at h
  rcases h with ⟨h, -⟩ |
    ⟨c, condition, consequent, alternate, question, colon, ts₁, ts₂, rfl, hcond, hq, hcons, hcolon, halt, rfl⟩
  · obtain ⟨d, hd, hc⟩ := chain_sound below h
    exact ⟨.plain d, hd, hc⟩
  · obtain ⟨d, rfl, hd⟩ := chain_sound below hcond
    obtain ⟨d₁, rfl, hd₁⟩ := (below c rfl).conditional hcons
    obtain ⟨d₂, rfl, hd₂⟩ := (below c rfl).conditional halt
    exact ⟨.branch d hq d₁ hcolon d₂, rfl, by simp only [Derivation.charge]; omega⟩

end

/-- The parsers read derivations, whatever the budget. -/
theorem sound (r : Bool) (b : Nat) : Sound r b := by
  refine budget_induction (fun b below => ?_) b
  exact ⟨conditional_sound below, chain_sound below, folds_sound below, exponent_sound below, unary_sound below,
    steps_sound below⟩

end ExprLang.Parser
