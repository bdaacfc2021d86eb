import ExprLang.Proofs.DerivationTokens

/-!
# The range of a tree

Where tokens stand in order and do not overlap (`InOrder`), the tree of a derivation ranges from the first to the last
of the tokens that the derivation takes (`Derivation.spans`), brackets around it included.
-/

namespace ExprLang

/-- Every token ends before the next ones start. -/
def InOrder (ts : List Token) : Prop := ts.Pairwise fun t u => t.range.stop ≤ u.offset

/-- A range starts with the first of the tokens and stops with the last of them. -/
def Range.Spans (range : Range) (us : List Token) : Prop :=
  us.head?.map Token.offset = some range.offset ∧ us.getLast?.map (fun t => t.range.stop) = some range.stop

namespace Range

variable {r s : Range} {us vs ws : List Token}

theorem spans_singleton (t : Token) : t.range.Spans [t] := ⟨rfl, rfl⟩

theorem Spans.exists_head (h : r.Spans us) : ∃ t us', us = t :: us' ∧ t.offset = r.offset := by
  cases us with
  | nil => simp [Spans] at h
  | cons t us => exact ⟨t, us, rfl, by simpa using h.1⟩

theorem Spans.exists_last (h : r.Spans us) : ∃ us' z, us = us' ++ [z] ∧ z.range.stop = r.stop := by
  cases us using List.reverseRecOn with
  | nil => simp [Spans] at h
  | append_singleton us z => exact ⟨us, z, rfl, by simpa using h.2⟩

/-- The cover of a range and a later one spans the tokens of both and all between them. -/
theorem Spans.cover (hr : r.Spans us) (hs : s.Spans vs) (ho : InOrder (us ++ (ws ++ vs))) :
    (r.cover s).Spans (us ++ (ws ++ vs)) := by
  obtain ⟨t, us', rfl, ht⟩ := hr.exists_head
  obtain ⟨vs', z, hvs, hz⟩ := hs.exists_last
  obtain ⟨u, vs'', rfl, hu⟩ := hs.exists_head
  obtain ⟨us'', y, hus, hy⟩ := hr.exists_last
  have hlater := (List.pairwise_append.1 ho).2.2
  have htu := hlater t (List.mem_cons_self ..) u (by simp)
  have hyz := hlater y (by simp [hus]) z (by simp [hvs])
  have hty := hlater t (List.mem_cons_self ..) z (by simp [hvs])
  have hstop (x : Token) : x.offset ≤ x.range.stop := Nat.le_add_right ..
  have h₁ := hstop t
  have h₂ := hstop z
  have hoffset : (r.cover s).offset = r.offset := by
    simp only [Range.cover]
    omega
  have hcover : (r.cover s).stop = s.stop := by
    simp only [Range.cover, Range.stop] at *
    omega
  refine ⟨?_, ?_⟩
  · rw [hoffset, ← ht]
    rfl
  · rw [hcover, ← hz, hvs]
    simp [List.getLast?_append, List.getLast?_cons]

end Range

theorem Node.range_withRange (n : Node) (r : Range) : (n.withRange r).range = r := by
  cases n <;> rfl

/-- What a phrase stands for ranges over the tokens: the trees of a list do not count, only its closing bracket. -/
def Phrase.Spans : (p : Phrase) → p.Result → List Token → Prop
  | list .., x, us | items .., x, us => ∃ vs t, us = vs ++ [t] ∧ x.2 = t.range
  | conditional, n, us | chain _, n, us | level .., n, us | exponent, n, us | unary, n, us | member _, n, us
  | primary, n, us => n.range.Spans us

theorem InOrder.right {us vs : List Token} (h : InOrder (us ++ vs)) : InOrder vs := (List.pairwise_append.1 h).2.1

theorem InOrder.tail {t : Token} {us : List Token} (h : InOrder (t :: us)) : InOrder us := (List.pairwise_cons.1 h).2

theorem InOrder.left {us vs : List Token} (h : InOrder (us ++ vs)) : InOrder us := (List.pairwise_append.1 h).1

/-- The tree of a derivation ranges over the tokens that the derivation takes. -/
theorem Derivation.spans {r : Bool} {p : Phrase} {ts rest : List Token} (d : Derivation r p ts rest)
    (ho : InOrder d.taken) : p.Spans d.result d.taken := by
  induction d with
  | plain _ ih | tightest _ ih | folded _ ih | operand _ ih | base _ ih | unsigned _ ih | object _ ih | filled _ ih =>
    exact ih ho
  | @branch _ _ _ _ question colon condition hquestion consequent hcolon alternate ihc iha ihb =>
    have he : taken (branch condition hquestion consequent hcolon alternate) =
        condition.taken ++ ((question :: consequent.taken ++ [colon]) ++ alternate.taken) := by simp [taken]
    rw [he] at ho ⊢
    exact (ihc ho.left).cover (ihb ho.right.right) ho
  | fold left op hop hleads right ihl ihr => exact (ihl ho.left).cover (ihr ho.right.right) ho
  | power left op hop hleads right ihl ihr => exact (ihl ho.left).cover (ihr ho.right.right) ho
  | signed sign op hsign operand ih =>
    exact @Range.Spans.cover _ _ [sign] _ [] (Range.spans_singleton sign) (ih ho.tail) ho
  | @dot _ _ _ point key word object hpoint hkey ih =>
    exact @Range.Spans.cover _ _ _ _ [point] (ih ho.left) (Range.spans_singleton key) ho
  | @index _ _ _ _ opening closing object hopening key hclosing ih ihk =>
    exact @Range.Spans.cover _ _ _ _ (opening :: key.taken) (ih ho.left) (Range.spans_singleton closing) ho
  | @call _ _ _ _ opening callee hopening arguments ih iha =>
    obtain ⟨vs, t, hvs, ht⟩ := iha ho.right.tail
    simp only [Phrase.Spans, result, Node.range, ht, taken, hvs] at ho ⊢
    exact @Range.Spans.cover _ _ _ _ (opening :: vs) (ih ho.left) (Range.spans_singleton t) ho
  | literal t v ht => exact Range.spans_singleton t
  | name t word ht hword => exact Range.spans_singleton t
  | regex t pattern flags ht hallowed => exact Range.spans_singleton t
  | parens opening closing hopening inner hclosing ih =>
    simp only [Phrase.Spans, result, Node.range_withRange]
    exact @Range.Spans.cover _ _ [opening] _ inner.taken (Range.spans_singleton opening)
      (Range.spans_singleton closing) ho
  | array opening hopening entries ih =>
    obtain ⟨vs, t, hvs, ht⟩ := ih ho.tail
    simp only [Phrase.Spans, result, Node.range, ht, taken, hvs] at ho ⊢
    exact @Range.Spans.cover _ _ [opening] _ vs (Range.spans_singleton opening) (Range.spans_singleton t) ho
  | empty closing hclosing => exact ⟨[], closing, rfl, rfl⟩
  | last closing item hclosing ih => exact ⟨item.taken, closing, rfl, rfl⟩
  | @lastComma _ _ _ _ comma closing htrailing item hcomma hclosing ih =>
    exact ⟨item.taken ++ [comma], closing, by simp [taken], rfl⟩
  | @more _ _ _ _ _ comma item hcomma others ih iho =>
    obtain ⟨vs, t, hvs, ht⟩ := iho ho.right.tail
    exact ⟨item.taken ++ comma :: vs, t, by simp [taken, hvs], ht⟩

end ExprLang
