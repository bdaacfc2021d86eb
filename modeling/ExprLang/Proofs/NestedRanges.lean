import ExprLang.Proofs.Parsing
import ExprLang.Proofs.ResultRange
import ExprLang.Proofs.Subexpressions

/-!
# How the ranges of a tree are nested

* The operands of an operation range over tokens that stand one after the other among those that the operation ranges
  over (`Derivation.laid`).  Every node is an expression of its own, so this is so everywhere in a tree.
* Where the tokens stand in order, ranges laid out among them follow each other (`Laid.pairwise`) and lie within the
  range of them all (`Range.Spans.within`).
* So the range of a tree spans all its tokens, each node starts and stops with a token, and the ranges of its operands
  lie within its own, one before the other (`parse_ranges`).  This is so where words hold the offsets at which the tokens
  stop; words then hold those of all nodes too.
-/

open ExprLang.Parser

namespace ExprLang

namespace Range

/-- A range starts and stops within another one. -/
def Within (r s : Range) : Prop := s.offset ≤ r.offset ∧ r.stop ≤ s.stop

/-- A range starts before another one and has stopped where that one starts. -/
def Before (r s : Range) : Prop := r.offset < s.offset ∧ r.stop ≤ s.offset

variable {r s : Range} {us vs : List Token}

theorem Spans.offset_lt_stop (h : r.Spans us) (ho : InOrder us) (hpos : ∀ t ∈ us, 0 < t.length) :
    r.offset < r.stop := by
  obtain ⟨us', z, hus, hz⟩ := h.exists_last
  obtain ⟨t, us'', rfl, ht⟩ := h.exists_head
  have hlength := hpos t (List.mem_cons_self ..)
  have hstop : t.range.stop ≤ z.range.stop := by
    have hm : z ∈ t :: us'' := by simp [hus]
    rcases List.mem_cons.1 hm with rfl | hm
    · exact Nat.le_refl _
    · exact Nat.le_trans ((List.pairwise_cons.1 ho).1 z hm) (Nat.le_add_right ..)
  rw [← ht, ← hz]
  simp only [Token.range, Range.stop] at hstop ⊢
  omega

/-- Part of the tokens that a range spans are spanned by a range within it. -/
theorem Spans.within (hr : r.Spans us) (hs : s.Spans vs) (hvs : vs <:+: us) (ho : InOrder us) : s.Within r := by
  obtain ⟨before, after, rfl⟩ := hvs
  obtain ⟨t, vs', rfl, ht⟩ := hs.exists_head
  obtain ⟨vs'', z, hlast, hz⟩ := hs.exists_last
  have hstop (x : Token) : x.offset ≤ x.range.stop := Nat.le_add_right ..
  refine ⟨?_, ?_⟩
  · cases before with
    | nil =>
      have hu : t.offset = r.offset := by simpa using hr.1
      omega
    | cons u before =>
      have hu : u.offset = r.offset := by simpa using hr.1
      have hut : u.range.stop ≤ t.offset := (List.pairwise_cons.1 ho).1 t (by simp)
      have := hstop u
      omega
  · rw [hlast] at hr ho
    cases after using List.reverseRecOn with
    | nil =>
      have hy : z.range.stop = r.stop := by simpa using hr.2
      omega
    | append_singleton after y =>
      have hy : y.range.stop = r.stop := by simpa [← List.append_assoc] using hr.2
      have hzy : z.range.stop ≤ y.offset := (List.pairwise_append.1 ho).2.2 z (by simp) y (by simp)
      have := hstop y
      omega

end Range

/-! ### Ranges one after the other -/

/-- The ranges span parts of the tokens that stand one after the other. -/
inductive Laid : List Range → List Token → Prop where
  | nil {us : List Token} : Laid [] us
  | cons {r : Range} {rs : List Range} {us vs ws : List Token} (h : r.Spans vs) (hrs : Laid rs ws) :
      Laid (r :: rs) (us ++ (vs ++ ws))

namespace Laid

variable {r : Range} {rs ss : List Range} {us vs : List Token}

theorem singleton (h : r.Spans us) : Laid [r] us := by
  have hlaid : Laid [r] ([] ++ (us ++ [])) := .cons h .nil
  rwa [List.nil_append, List.append_nil] at hlaid

theorem behind (h : Laid rs us) (before : List Token) : Laid rs (before ++ us) := by
  cases h with
  | nil => exact .nil
  | cons h hrs =>
    rw [← List.append_assoc]
    exact .cons h hrs

theorem append (h : Laid rs us) (h' : Laid ss vs) : Laid (rs ++ ss) (us ++ vs) := by
  induction h with
  | nil => exact h'.behind _
  | cons h hrs ih =>
    rw [List.append_assoc, List.append_assoc]
    exact .cons h ih

theorem before (h : Laid rs us) (after : List Token) : Laid rs (us ++ after) := by
  have hlaid : Laid (rs ++ []) (us ++ after) := h.append .nil
  rwa [List.append_nil] at hlaid

theorem exists_spans (h : Laid rs us) (hr : r ∈ rs) : ∃ vs, vs <:+: us ∧ r.Spans vs := by
  induction h with
  | nil => cases hr
  | @cons _ _ us vs ws h hrs ih =>
    rcases List.mem_cons.1 hr with rfl | hr
    · exact ⟨vs, ⟨us, ws, List.append_assoc ..⟩, h⟩
    · obtain ⟨vs', hvs', hspans⟩ := ih hr
      have hws : ws <:+ us ++ (vs ++ ws) := (List.suffix_append ..).trans (List.suffix_append ..)
      exact ⟨vs', hvs'.trans hws.isInfix, hspans⟩

/-- Where the tokens stand in order, so do the ranges. -/
theorem pairwise (h : Laid rs us) (ho : InOrder us) (hpos : ∀ t ∈ us, 0 < t.length) : rs.Pairwise Range.Before := by
  induction h with
  | nil => exact .nil
  | @cons r rs us vs ws h hrs ih =>
    have hmore := ho.right
    refine .cons (fun s hs => ?_) (ih hmore.right fun t ht => hpos t (by simp [ht]))
    have hstart := h.offset_lt_stop hmore.left fun t ht => hpos t (by simp [ht])
    obtain ⟨xs, hxs, hspans⟩ := hrs.exists_spans hs
    obtain ⟨vs', z, rfl, hz⟩ := h.exists_last
    obtain ⟨t, xs', rfl, ht⟩ := hspans.exists_head
    have hzt := (List.pairwise_append.1 hmore).2.2 z (by simp) t (hxs.subset (List.mem_cons_self ..))
    rw [hz, ht] at hzt
    exact ⟨Nat.lt_of_lt_of_le hstart hzt, hzt⟩

end Laid

/-! ### Trees -/

/-- The operands of a phrase, or the trees of a list, range over tokens one after the other. -/
def Phrase.Laid : (p : Phrase) → p.Result → List Token → Prop
  | list .., x, us | items .., x, us => ExprLang.Laid (x.1.map Node.range) us
  | conditional, n, us | chain _, n, us | level .., n, us | exponent, n, us | unary, n, us | member _, n, us
  | primary, n, us => ExprLang.Laid (n.children.map Node.range) us

/-- The operands in the tree of a derivation range over its tokens one after the other. -/
theorem Derivation.laid {r : Bool} {p : Phrase} {ts rest : List Token} (d : Derivation r p ts rest)
    (ho : InOrder d.taken) : p.Laid d.result d.taken := by
  induction d with
  | plain _ ih | tightest _ ih | folded _ ih | operand _ ih | base _ ih | unsigned _ ih | object _ ih | filled _ ih =>
    exact ih ho
  | @branch _ _ _ _ question colon condition hquestion consequent hcolon alternate ihc iha ihb =>
    have hmore := ho.right.tail
    have hb := (Laid.singleton (alternate.spans hmore.right.tail)).behind [colon]
    have ha := ((Laid.singleton (consequent.spans hmore.left)).append hb).behind [question]
    exact (Laid.singleton (condition.spans ho.left)).append ha
  | fold left op hop hleads right ihl ihr | power left op hop hleads right ihl ihr =>
    exact (Laid.singleton (left.spans ho.left)).append ((Laid.singleton (right.spans ho.right.right)).behind _)
  | signed sign op hsign operand ih => exact (Laid.singleton (operand.spans ho.tail)).behind [sign]
  | @dot _ _ _ point key word object hpoint hkey ih =>
    exact (Laid.singleton (object.spans ho.left)).append ((Laid.singleton (Range.spans_singleton key)).behind [point])
  | @index _ _ _ _ opening closing object hopening key hclosing ih ihk =>
    have hk := ((Laid.singleton (key.spans ho.right.tail.left)).before [closing]).behind [opening]
    exact (Laid.singleton (object.spans ho.left)).append hk
  | @call _ _ _ _ opening callee hopening arguments ih iha =>
    exact (Laid.singleton (callee.spans ho.left)).append ((iha ho.right.tail).behind [opening])
  | literal t v ht => exact .nil
  | name t word ht hword => exact .nil
  | regex t pattern flags ht hallowed => exact .nil
  | parens opening closing hopening inner hclosing ih =>
    simp only [Phrase.Laid, result, Node.children_withRange]
    exact ((ih ho.tail.left).before [closing]).behind [opening]
  | array opening hopening entries ih => exact (ih ho.tail).behind [opening]
  | empty closing hclosing => exact .nil
  | last closing item hclosing ih => exact (Laid.singleton (item.spans ho.left)).before [closing]
  | @lastComma _ _ _ _ comma closing htrailing item hcomma hclosing ih =>
    exact (Laid.singleton (item.spans ho.left)).before [comma, closing]
  | @more _ _ _ _ _ comma item hcomma others ih iho =>
    exact (Laid.singleton (item.spans ho.left)).append ((iho ho.right.tail).behind [comma])

/-- Every node of a parsed tree ranges over some of the tokens, and its operands over parts of these. -/
theorem exists_spans_of_parse {allowRegex : Bool} {ts : List Token} {n : Node} (h : parse allowRegex ts = .ok n)
    (ho : InOrder ts) {m : Node} (hm : m ∈ n.walk) :
    ∃ us, us <:+: ts ∧ m.range.Spans us ∧ Laid (m.children.map Node.range) us := by
  obtain ⟨d, hd, -⟩ := exists_derivation_of_parse h
  rw [← hd] at hm
  rcases d.found trivial d.result (List.mem_singleton_self _) m hm with
    ⟨before, point, key, after, word, hts, -, -, rfl⟩ | ⟨us, hus, e, rfl, -⟩
  · exact ⟨[key], ⟨before ++ [point], after, by simp [hts]⟩, Range.spans_singleton key, .nil⟩
  · have hous : InOrder e.taken := by
      rw [e.taken_eq]
      exact List.Pairwise.sublist hus.sublist ho
    exact ⟨e.taken, e.taken_eq.symm ▸ hus, e.spans hous, e.laid hous⟩

/-- Where the tokens of a tree stand in order and fit, the tree ranges from the first to the last of them, every node
fits and starts and stops with one of them, and the operands of a node range within it, one before the other. -/
theorem parse_ranges {allowRegex : Bool} {ts : List Token} {n : Node} (h : parse allowRegex ts = .ok n)
    (ho : InOrder ts) (hpos : ∀ t ∈ ts, 0 < t.length) (hfits : ∀ t ∈ ts, t.range.Fits) :
    n.range.Spans ts ∧
      ∀ m ∈ n.walk, m.range.Fits ∧
        (∃ t ∈ ts, t.offset = m.range.offset) ∧ (∃ z ∈ ts, z.range.stop = m.range.stop) ∧
        (∀ c ∈ m.children, c.range.Within m.range) ∧ (m.children.map Node.range).Pairwise Range.Before := by
  refine ⟨?_, fun m hm => ?_⟩
  · obtain ⟨d, rfl, -⟩ := exists_derivation_of_parse h
    have key := d.spans (d.taken_eq.symm ▸ ho)
    rwa [d.taken_eq] at key
  · obtain ⟨us, hus, hspans, hlaid⟩ := exists_spans_of_parse h ho hm
    have hous : InOrder us := List.Pairwise.sublist hus.sublist ho
    obtain ⟨t, us', hfirst, ht⟩ := hspans.exists_head
    obtain ⟨us'', z, hlast, hz⟩ := hspans.exists_last
    have hzts : z ∈ ts := hus.subset (by simp [hlast])
    have hfitsm : m.range.Fits := Nat.le_trans (Nat.le_of_eq hz.symm) (hfits z hzts)
    refine ⟨hfitsm, ⟨t, hus.subset (by simp [hfirst]), ht⟩, ⟨z, hzts, hz⟩, fun c hc => ?_, ?_⟩
    · obtain ⟨vs, hvs, hc⟩ := hlaid.exists_spans (List.mem_map_of_mem hc)
      exact hspans.within hc hvs hous
    · exact hlaid.pairwise hous fun t ht => hpos t (hus.subset ht)

/-- The tokens of `(a)(b,[c])`. -/
def callTokens : List Token := [⟨.symbol '(', 0, 1⟩, ⟨.identifier "a", 1, 1⟩, ⟨.symbol ')', 2, 1⟩, ⟨.symbol '(', 3, 1⟩,
  ⟨.identifier "b", 4, 1⟩, ⟨.symbol ',', 5, 1⟩, ⟨.symbol '[', 6, 1⟩, ⟨.identifier "c", 7, 1⟩, ⟨.symbol ']', 8, 1⟩,
  ⟨.symbol ')', 9, 1⟩]

/-- The tree of `(a)(b,[c])`. -/
def callTree : Node := .call ⟨0, 10⟩ (.context ⟨0, 3⟩ "a") [.context ⟨4, 1⟩ "b", .array ⟨6, 3⟩ [.context ⟨7, 1⟩ "c"]]

/-- The brackets around the callee belong to its range, and those around the arguments to none of theirs. -/
theorem parse_ranges_call :
    parse true callTokens = .ok callTree ∧ InOrder callTokens ∧ (∀ t ∈ callTokens, 0 < t.length) ∧
      (∀ t ∈ callTokens, t.range.Fits) ∧ callTree.range.Spans callTokens ∧
      ∀ m ∈ callTree.walk, m.range.Fits ∧
        (∃ t ∈ callTokens, t.offset = m.range.offset) ∧ (∃ z ∈ callTokens, z.range.stop = m.range.stop) ∧
        (∀ c ∈ m.children, c.range.Within m.range) ∧ (m.children.map Node.range).Pairwise Range.Before := by
  have h : parse true callTokens = .ok callTree := by cbv
  have ho : InOrder callTokens := by unfold InOrder; decide
  have hpos : ∀ t ∈ callTokens, 0 < t.length := by decide
  have hfits : ∀ t ∈ callTokens, t.range.Fits := by decide
  exact ⟨h, ho, hpos, hfits, parse_ranges h ho hpos hfits⟩

end ExprLang
