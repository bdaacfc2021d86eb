import ExprLang.Expression
import ExprLang.Proofs.Parsing
import ExprLang.Proofs.ResultRange
import ExprLang.Proofs.Subexpressions
import ExprLang.Proofs.Tokenizing

/-!
# Ranges are faithful

The range of a node cuts an expression out of the source, and this expression compiles to the node, with the offsets
counted from its start (`Expression.compile_snippet`).  The constants for names behind points are excepted: their
source is a name, which is no string when it stands alone.
-/

namespace ExprLang

/-- The constant that a member read has for the name behind a point. -/
def IsPointKey (source : String) (n : Node) : Prop := ∃ ts, tokenize source = .ok ts ∧ PointKeyIn ts n

namespace Expression

theorem compile_eq_ok_iff {source : String} {regex : RegexSupport} {e : Expression} :
    compile source regex = .ok e ↔
      ∃ ts, tokenize source = .ok ts ∧ parse regex.isEnabled ts = .ok e.root ∧ e.source = source ∧ e.regex = regex := by
  unfold compile
  simp only [Parser.bind_eq_ok_iff]
  constructor
  · rintro ⟨ts, hts, root, hroot, h⟩
    cases h
    exact ⟨ts, hts, hroot, rfl, rfl⟩
  · rintro ⟨ts, hts, hroot, rfl, rfl⟩
    exact ⟨ts, hts, e.root, hroot, rfl⟩

end Expression

theorem alike_shift {k : Nat} {ts : List Token} :
    List.Forall₂ (Token.Alike id (Range.moveForward k)) (ts.map (Token.shift k)) ts := by
  rw [List.forall₂_map_left_iff]
  exact List.forall₂_same.2 fun t _ => ⟨rfl, rfl⟩

/-- An expression among the tokens of a source is a slice of the source that compiles to its tree. -/
theorem Subexpression.compile_slice {source : String} {regex : RegexSupport} {ts : List Token} {n : Node}
    (hts : tokenize source = .ok ts) (h : Subexpression regex.isEnabled ts maxDepth n) :
    Text.slice? source.toList n.range.offset n.range.length = some (snippet source n.range).toList ∧
      ∃ e, Expression.compile (snippet source n.range) regex = .ok e ∧
        n = e.root.mapRanges (Range.moveForward n.range.offset) := by
  obtain ⟨us, ⟨front, back, rfl⟩, d, rfl, hd⟩ := h
  cases us with
  | nil =>
    have := d.length_lt
    simp at this
  | cons v vs =>
    have hslash : v.lexeme ≠ .symbol '/' := by
      intro hv
      have := d.startsWith_eq_false (by simp) (show '/' ∉ openingSymbols by decide)
      simp [Parser.startsWith, Token.isSymbol, Token.symbol?, hv] at this
    have htaken : d.taken = v :: vs := by simpa using d.taken_append
    have hreads := Lexer.scan_eq_ok_iff.1 hts
    have hordered : InOrder (front ++ v :: vs ++ back) := hreads.ordered
    obtain ⟨s, m, s', ts', htext, hoffset, hlast, hslice, hshift⟩ := hreads.exists_slice hslash
    rw [Nat.zero_add] at hoffset
    have hrange : Node.range d.result = ⟨v.offset, Text.byteLength m⟩ := by
      have hspans := d.spans
      rw [htaken] at hspans
      obtain ⟨hstart, hstop⟩ := hspans hordered.left.right
      obtain ⟨z, hz, hstop⟩ := Option.map_eq_some_iff.1 hstop
      have hstart : v.offset = (Node.range d.result).offset := by simpa using hstart
      have hlength := hstop.symm.trans (hlast z hz)
      rw [hstart, Range.stop] at hlength
      rw [hstart, ← Nat.add_left_cancel hlength]
    have hcut : Text.slice? source.toList v.offset (Text.byteLength m) = some m := by
      rw [htext, hoffset]
      exact Text.slice?_append s m s'
    have hsnippet : snippet source (Node.range d.result) = String.ofList m := by
      rw [hrange, snippet, hcut]
      rfl
    have htokens : tokenize (String.ofList m) = .ok ts' := by
      rw [tokenize, String.toList_ofList]
      exact Lexer.scan_eq_ok_iff.2 hslice
    -- The tokens of the slice have the same lexemes, hence a derivation of the same shape.
    have halike : List.Forall₂ (Token.Alike id (Range.moveForward v.offset)) d.taken ts' := by
      rw [htaken.trans hshift]
      exact alike_shift
    have hfollows : d.Follows id (Range.moveForward v.offset) (ts' ++ []) [] := by
      refine d.transport ?_ halike []
      rintro a b a' b' ha hb
      rw [← Range.cover_moveForward, ha, hb]
      rfl
    rw [List.append_nil] at hfollows
    obtain ⟨d', hcharge, hresult⟩ := hfollows
    simp only [Phrase.mapRanges, Node.mapRanges_id] at hresult
    rw [hsnippet, hrange, String.toList_ofList]
    refine ⟨hcut, ⟨String.ofList m, d'.result, regex⟩, ?_, hresult.symm⟩
    exact Expression.compile_eq_ok_iff.2 ⟨ts', htokens, parse_of_derivation d' (hcharge ▸ hd), rfl, rfl⟩

/-- The source of a node's range is a slice of the source that compiles to the node, with all offsets counted from
its start.  Only the constant for a name behind a point is no expression of its own. -/
theorem Expression.compile_snippet {source : String} {regex : RegexSupport} {e : Expression}
    (he : compile source regex = .ok e) {n : Node} (hn : n ∈ e.root.walk) (hkey : ¬ IsPointKey source n) :
    Text.slice? source.toList n.range.offset n.range.length = some (snippet source n.range).toList ∧
      ∃ e', compile (snippet source n.range) regex = .ok e' ∧
        e'.root = n.mapRanges (Range.moveBack n.range.offset) ∧
        n = e'.root.mapRanges (Range.moveForward n.range.offset) := by
  obtain ⟨ts, hts, hroot, -, -⟩ := compile_eq_ok_iff.1 he
  obtain ⟨d, hd, hcharge⟩ := exists_derivation_of_parse hroot
  have hfound : Found regex.isEnabled ts d.charge n := by
    rw [← hd] at hn
    exact d.found trivial d.result (List.mem_singleton_self _) n hn
  rcases hfound with hpoint | ⟨us, hus, d', hd', hc'⟩
  · exact absurd ⟨ts, hts, hpoint⟩ hkey
  · have hsub : Subexpression regex.isEnabled ts maxDepth n := ⟨us, hus, d', hd', Nat.le_trans hc' hcharge⟩
    obtain ⟨hslice, e', he', hn'⟩ := hsub.compile_slice hts
    exact ⟨hslice, e', he', Node.eq_mapRanges_moveBack hn', hn'⟩

/-- The member read in `-a.b` is an expression of its own, a byte earlier. -/
theorem Expression.compile_snippet_member :
    ∃ e, compile "a.b" .disabled = .ok e ∧
      e.root = .property ⟨0, 3⟩ (.context ⟨0, 1⟩ "a") (.constant ⟨2, 1⟩ (.string "b")) := by
  let n : Node := .property ⟨1, 3⟩ (.context ⟨1, 1⟩ "a") (.constant ⟨3, 1⟩ (.string "b"))
  have he : compile "-a.b" .disabled = .ok ⟨"-a.b", .unary ⟨0, 4⟩ .minus n, .disabled⟩ := by cbv
  have hn : n ∈ (Node.unary ⟨0, 4⟩ .minus n).walk := by simp [n, Node.walk]
  have hkey : ¬ IsPointKey "-a.b" n := by
    rintro ⟨ts, -, before, point, key, after, word, -, -, -, h⟩
    simp [n] at h
  obtain ⟨-, e, hcompile, hroot, -⟩ := compile_snippet he hn hkey
  have hsnippet : snippet "-a.b" n.range = "a.b" := by cbv
  rw [hsnippet] at hcompile
  exact ⟨e, hcompile, by simpa [n, Node.mapRanges, Node.range, Range.moveBack] using hroot⟩

end ExprLang
