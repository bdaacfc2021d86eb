import ExprLang.Proofs.DerivationTokens
import ExprLang.Proofs.GrammarUnambiguous

/-!
# Parsing is derivation

The parser accepts exactly the tokens that have a derivation as an expression whose charge is within the greatest
depth, and returns the tree of that derivation, which is the only one.  Whether tokens are accepted, and with which
tree but for the ranges, depends on their lexemes only (`exists_parse_of_lexemes`).
-/

open ExprLang.Parser

namespace ExprLang

variable {allowRegex : Bool} {ts : List Token} {n : Node}

theorem parse_eq_ok_iff_conditional :
    parse allowRegex ts = .ok n ↔ conditional (standard allowRegex) maxDepth ts = .ok (n, []) := by
  unfold parse parseWith
  rw [bind_eq_ok_iff]
  constructor
  · rintro ⟨⟨n', rest⟩, h, hr⟩
    cases rest with
    | nil =>
      cases hr
      exact h
    | cons t rest => cases hr
  · intro h
    exact ⟨(n, []), h, rfl⟩

theorem exists_derivation_of_parse (h : parse allowRegex ts = .ok n) :
    ∃ d : Derivation allowRegex .conditional ts [], d.result = n ∧ d.charge ≤ maxDepth :=
  (sound allowRegex maxDepth).conditional (parse_eq_ok_iff_conditional.1 h)

theorem parse_of_derivation (d : Derivation allowRegex .conditional ts []) (hd : d.charge ≤ maxDepth) :
    parse allowRegex ts = .ok d.result :=
  parse_eq_ok_iff_conditional.2 (finds d hd stops_conditional_nil)

/-- The parser accepts the tokens with a derivation that is charged no more than the greatest depth and returns the
tree of the derivation.  The grammar is unambiguous: no tokens have two derivations. -/
theorem parse_eq_ok_iff_derivation (allowRegex : Bool) (ts : List Token) :
    (∀ n, parse allowRegex ts = .ok n ↔
      ∃ d : Derivation allowRegex .conditional ts [], d.charge ≤ maxDepth ∧ d.result = n) ∧
    ∀ d d' : Derivation allowRegex .conditional ts [], d = d' := by
  refine ⟨fun n => ⟨fun h => ?_, fun ⟨d, hd, hn⟩ => ?_⟩, Derivation.unambiguous⟩
  · obtain ⟨d, hn, hd⟩ := exists_derivation_of_parse h
    exact ⟨d, hd, hn⟩
  · rw [← hn]
    exact parse_of_derivation d hd

/-- Tokens with the same lexemes are parsed to trees that differ in ranges only. -/
theorem exists_parse_of_lexemes {allowRegex : Bool} {ts ts' : List Token} {n : Node} (h : parse allowRegex ts = .ok n)
    (hlexemes : ts'.map Token.lexeme = ts.map Token.lexeme) :
    ∃ n', parse allowRegex ts' = .ok n' ∧ n'.unranged = n.unranged := by
  obtain ⟨d, rfl, hcharge⟩ := exists_derivation_of_parse h
  have halike : List.Forall₂ (Token.Alike (fun _ => ⟨0, 0⟩) fun _ => ⟨0, 0⟩) d.taken ts' := by
    rw [d.taken_eq]
    exact alike_of_lexemes (fun _ _ => rfl) hlexemes
  have hfollows := d.transport (fun _ _ => rfl) halike []
  rw [List.append_nil] at hfollows
  obtain ⟨d', hcharge', hresult⟩ := hfollows
  exact ⟨d'.result, parse_of_derivation d' (hcharge' ▸ hcharge), hresult⟩

end ExprLang
