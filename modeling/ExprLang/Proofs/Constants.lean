import ExprLang.Proofs.Slices

/-!
# The constants of an expression

A constant of a compiled expression is a literal of its source or the name behind a point, so it is a primitive value
(`Expression.isReference_constant`): arrays, objects, functions and regular expressions come into being only when the
expression is evaluated.
-/

namespace ExprLang

namespace Lexer

variable {c : Char} {allowed : Bool} {text : List Char} {n : Nat} {v : Value}

theorem isReference_of_wordLexeme? {word : String} (h : wordLexeme? word = some (.literal v)) :
    v.isReference = false := by
  unfold wordLexeme? at h
  split at h
  case h_7 => split at h <;> cases h
  all_goals
    cases h
    rfl

theorem isReference_of_lexeme? (h : lexeme? allowed c text = some (.literal v, n)) : v.isReference = false := by
  cases scanned_of_lexeme? h with
  | string | number => rfl
  | word hw hl => exact isReference_of_wordLexeme? hl

theorem Reads.isReference_of_mem {offset : Nat} {last : Option Lexeme} {touching : Bool} {ts : List Token} {t : Token}
    (h : Reads offset last touching text ts) (ht : t ∈ ts) (hv : t.lexeme = .literal v) : v.isReference = false := by
  induction h with
  | nil => cases ht
  | blank hc h ih => exact ih ht
  | token hc hl htouch h ih =>
    rcases List.mem_cons.1 ht with rfl | ht
    · obtain rfl : _ = Lexeme.literal v := hv
      exact isReference_of_lexeme? hl
    · exact ih ht

end Lexer

/-- A tree that is a constant is a literal among the tokens. -/
theorem Derivation.exists_literal {allowRegex : Bool} {p : Phrase} {ts rest : List Token}
    (d : Derivation allowRegex p ts rest) {r : Range} {v : Value} (h : Node.constant r v ∈ p.trees d.result) :
    ∃ t ∈ ts, t.lexeme = .literal v := by
  induction d generalizing r with
  | plain _ ih | tightest _ ih | folded _ ih | operand _ ih | base _ ih | unsigned _ ih | object _ ih | filled _ ih
  | last _ _ _ ih | lastComma _ _ _ _ _ ih => exact ih h
  | literal t w ht =>
    simp only [Phrase.trees, result, List.mem_singleton, Node.constant.injEq] at h
    exact ⟨t, List.mem_cons_self .., h.2 ▸ ht⟩
  | parens opening closing hopening inner hclosing ih =>
    have hn : (inner.result : Node).withRange (opening.range.cover closing.range) = .constant r v :=
      (List.mem_singleton.1 h).symm
    obtain ⟨r', hr'⟩ : ∃ r', (inner.result : Node) = .constant r' v := by
      generalize (inner.result : Node) = m at hn
      cases m <;> simp_all [Node.withRange]
    obtain ⟨t, ht, hv⟩ := ih (r := r') (by simp [Phrase.trees, hr'])
    exact ⟨t, List.mem_cons_of_mem _ ht, hv⟩
  | more item hcomma others ih iho =>
    rcases List.mem_cons.1 h with h | h
    · exact ih (List.mem_singleton.2 h)
    · obtain ⟨t, ht, hv⟩ := iho h
      exact ⟨t, ((List.suffix_cons ..).trans item.suffix).subset ht, hv⟩
  | _ => simp [Phrase.trees, result] at h

namespace Expression

variable {source : String} {regex : RegexSupport} {e : Expression}

/-- The constants of an expression are primitive values. -/
theorem isReference_constant (he : compile source regex = .ok e) {r : Range} {v : Value}
    (h : .constant r v ∈ e.root.walk) : v.isReference = false := by
  obtain ⟨ts, hts, hroot, -, -⟩ := compile_eq_ok_iff.1 he
  obtain ⟨d, hd, -⟩ := exists_derivation_of_parse hroot
  rw [← hd] at h
  rcases d.found trivial d.result (List.mem_singleton_self _) _ h with ⟨_, _, _, _, word, -, -, -, hkey⟩ | hsub
  · cases hkey
    rfl
  · obtain ⟨us, hus, d', hd', -⟩ := hsub
    obtain ⟨t, ht, hv⟩ := d'.exists_literal (r := r) (v := v) (by simp [Phrase.trees, hd'])
    exact (Lexer.scan_eq_ok_iff.1 hts).isReference_of_mem (hus.subset ht) hv

end Expression

end ExprLang
