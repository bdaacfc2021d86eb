import ExprLang.Proofs.NodeRanges
import ExprLang.Proofs.ParserComplete

/-!
# The tokens of a derivation

* A derivation takes tokens off the front (`Derivation.taken_append`), among them one that is a part of no operator
  (`Derivation.exists_solid`).  So which operators it reads does not depend on the tokens behind it.
* Other tokens with the same lexemes have a derivation of the same shape, whatever follows them
  (`Derivation.transport`).  The ranges of the trees correspond if those of the tokens do.  So the tokens of a
  derivation have the same one in front of any other tokens (`Derivation.carry`).
-/

open ExprLang.Parser

namespace ExprLang

/-! ### What a derivation takes -/

namespace Derivation

variable {r : Bool} {p : Phrase} {ts rest : List Token}

/-- The tokens that a derivation takes. -/
def taken {p : Phrase} {ts rest : List Token} : Derivation r p ts rest → List Token
  | plain c => c.taken
  | @branch _ _ _ _ _ question colon c _ a _ b => c.taken ++ question :: (a.taken ++ colon :: b.taken)
  | tightest e => e.taken
  | folded c => c.taken
  | operand c => c.taken
  | @fold _ _ _ _ _ ts₁ _ l op _ _ r => l.taken ++ (ts₁.take op.spelling.length ++ r.taken)
  | base u => u.taken
  | @power _ _ ts₁ _ l op _ _ r => l.taken ++ (ts₁.take op.spelling.length ++ r.taken)
  | signed sign _ _ u => sign :: u.taken
  | unsigned m => m.taken
  | object n => n.taken
  | @dot _ _ _ _ point key _ o _ _ => o.taken ++ [point, key]
  | @index _ _ _ _ _ opening closing o _ key _ => o.taken ++ opening :: (key.taken ++ [closing])
  | @call _ _ _ _ _ opening f _ l => f.taken ++ opening :: l.taken
  | literal t _ _ => [t]
  | name t _ _ _ => [t]
  | regex t _ _ _ _ => [t]
  | parens opening closing _ n _ => opening :: (n.taken ++ [closing])
  | array opening _ l => opening :: l.taken
  | empty closing _ => [closing]
  | filled l => l.taken
  | last closing n _ => n.taken ++ [closing]
  | @lastComma _ _ _ _ _ comma closing _ n _ _ => n.taken ++ [comma, closing]
  | @more _ _ _ _ _ _ comma n _ l => n.taken ++ comma :: l.taken

/-- What a derivation takes and what it leaves are all its tokens. -/
theorem taken_append (d : Derivation r p ts rest) : d.taken ++ rest = ts := by
  induction d with
  | fold left op hop hleads right ihl ihr =>
    simp only [taken, List.append_assoc, ihr, List.take_append_drop, ihl]
  | power left op hop hleads right ihl ihr =>
    simp only [taken, List.append_assoc, ihr, List.take_append_drop, ihl]
  | _ => simp_all [taken]

theorem taken_eq (d : Derivation r p ts []) : d.taken = ts := by
  rw [← List.append_nil d.taken, d.taken_append]

theorem suffix (d : Derivation r p ts rest) : rest <:+ ts := ⟨d.taken, d.taken_append⟩

theorem taken_infix (d : Derivation r p ts rest) : d.taken <:+: ts := ⟨[], rest, d.taken_append⟩

/-- What a derivation takes holds a token that is a part of no operator. -/
theorem exists_solid (d : Derivation r p ts rest) (hp : ∀ close trailing, p ≠ .list close trailing) :
    ∃ t ∈ d.taken, t.Solid := by
  induction d with
  | plain _ ih | tightest _ ih | folded _ ih | operand _ ih | base _ ih | unsigned _ ih | object _ ih =>
    exact ih (by simp)
  | branch _ _ _ _ _ ih | fold _ _ _ _ _ ih | power _ _ _ _ _ ih | signed _ _ _ _ ih | dot _ _ _ _ _ ih
  | index _ _ _ _ _ ih | call _ _ _ ih | last _ _ _ ih | lastComma _ _ _ _ _ ih | more _ _ _ ih =>
    obtain ⟨t, ht, hsolid⟩ := ih (by simp)
    exact ⟨t, by simp [taken, ht], hsolid⟩
  | literal t v ht => exact ⟨t, List.mem_singleton_self _, Token.solid_of_symbol?_eq_none (by simp [Token.symbol?, ht])⟩
  | name t word ht hword =>
    exact ⟨t, List.mem_singleton_self _, Token.solid_of_symbol?_eq_none (by simp [Token.symbol?, ht])⟩
  | regex t pattern flags ht hallowed =>
    exact ⟨t, List.mem_singleton_self _, Token.solid_of_symbol?_eq_none (by simp [Token.symbol?, ht])⟩
  | parens opening closing hopening inner hclosing ih =>
    exact ⟨opening, List.mem_cons_self .., Token.solid_of_isSymbol hopening (by decide)⟩
  | array opening hopening entries ih =>
    exact ⟨opening, List.mem_cons_self .., Token.solid_of_isSymbol hopening (by decide)⟩
  | empty closing hclosing => exact absurd rfl (hp _ _)
  | filled entries ih => exact absurd rfl (hp _ _)

end Derivation

/-! ### Other tokens with the same lexemes -/

/-- Two tokens have the same lexeme, and their ranges correspond under two maps. -/
def Token.Alike (f g : Range → Range) (t t' : Token) : Prop := t.lexeme = t'.lexeme ∧ f t.range = g t'.range

/-- What a phrase stands for, with all ranges changed. -/
def Phrase.mapRanges (f : Range → Range) : (p : Phrase) → p.Result → p.Result
  | list .., x | items .., x => (Node.mapRangesAll f x.1, f x.2)
  | conditional, n | chain _, n | level .., n | exponent, n | unary, n | member _, n | primary, n => n.mapRanges f

theorem Phrase.mapRanges_id {p : Phrase} (x : p.Result) : p.mapRanges id x = x := by
  cases p with
  | list | items => simp [mapRanges, Node.mapRangesAll_id]
  | _ => exact Node.mapRanges_id x

theorem Token.Alike.isSymbol {f g : Range → Range} {t t' : Token} (h : t.Alike f g t') {c : Char}
    (ht : t.isSymbol c) : t'.isSymbol c := by
  simpa only [Token.isSymbol, Token.symbol?, ← h.1] using ht

theorem forall₂_append_left_iff {α β : Type} {R : α → β → Prop} {a b : List α} {c : List β} :
    List.Forall₂ R (a ++ b) c ↔ ∃ a' b', List.Forall₂ R a a' ∧ List.Forall₂ R b b' ∧ c = a' ++ b' := by
  induction a generalizing c with
  | nil => simp
  | cons x a ih =>
    simp only [List.cons_append, List.forall₂_cons_left_iff, ih]
    constructor
    · rintro ⟨y, _, hxy, ⟨a', b', ha, hb, rfl⟩, rfl⟩
      exact ⟨y :: a', b', ⟨y, a', hxy, ha, rfl⟩, hb, rfl⟩
    · rintro ⟨_, b', ⟨y, a', hxy, ha, rfl⟩, hb, rfl⟩
      exact ⟨y, a' ++ b', hxy, ⟨a', b', ha, hb, rfl⟩, rfl⟩

theorem alike_of_lexemes {f : Range → Range} (hf : ∀ a b, f a = f b) {ts ts' : List Token}
    (h : ts'.map Token.lexeme = ts.map Token.lexeme) : List.Forall₂ (Token.Alike f f) ts ts' := by
  induction ts generalizing ts' with
  | nil =>
    rw [List.map_nil, List.map_eq_nil_iff] at h
    rw [h]
    exact .nil
  | cons t ts ih =>
    obtain ⟨t', ts', rfl, ht, hts⟩ := List.map_eq_cons_iff.1 h
    exact .cons ⟨ht.symm, hf _ _⟩ (ih hts)

namespace Derivation

variable {r : Bool} {f g : Range → Range}

/-- Other tokens have a derivation with the same charge and a corresponding tree. -/
def Follows (f g : Range → Range) {p : Phrase} {ts rest : List Token} (d : Derivation r p ts rest)
    (ts' rest' : List Token) : Prop :=
  ∃ d' : Derivation r p ts' rest', d'.charge = d.charge ∧ p.mapRanges g d'.result = p.mapRanges f d.result

theorem range_congr {n n' : Node} (h : n'.mapRanges g = n.mapRanges f) : g n'.range = f n.range := by
  simpa only [Node.range_mapRanges] using congrArg Node.range h

theorem lexemes_eq {us us' : List Token} (h : List.Forall₂ (Token.Alike f g) us us') :
    us.map Token.lexeme = us'.map Token.lexeme := by
  induction h with
  | nil => rfl
  | cons h _ ih => rw [List.map_cons, List.map_cons, h.1, ih]

/-- The tokens of an operator and its right operand. -/
private theorem transport_operator {q : Phrase} {op : BinaryOp} {ts rest : List Token}
    {right : Derivation r q (ts.drop op.spelling.length) rest} (hq : ∀ close trailing, q ≠ .list close trailing)
    (hleads : op.Leads ts)
    (ih : ∀ {us : List Token}, List.Forall₂ (Token.Alike f g) right.taken us →
      ∀ rest', right.Follows f g (us ++ rest') rest')
    {us : List Token} (h : List.Forall₂ (Token.Alike f g) (ts.take op.spelling.length ++ right.taken) us)
    (rest' : List Token) :
    op.Leads (us ++ rest') ∧ right.Follows f g ((us ++ rest').drop op.spelling.length) rest' := by
  obtain ⟨t, ht, hsolid⟩ := right.exists_solid hq
  have hts : ts = ts.take op.spelling.length ++ right.taken ++ rest := by
    rw [List.append_assoc, right.taken_append, List.take_append_drop]
  have hleads' : op.Leads (us ++ rest') := by
    rw [hts] at hleads
    exact hleads.congr ⟨t, List.mem_append_right _ ht, hsolid⟩ (lexemes_eq h)
  refine ⟨hleads', ?_⟩
  rw [forall₂_append_left_iff] at h
  obtain ⟨o, v, ho, hv, rfl⟩ := h
  have hlength : o.length = op.spelling.length := by
    rw [← ho.length_eq, List.length_take]
    exact Nat.min_eq_left hleads.length_le
  have hdrop : (o ++ v ++ rest').drop op.spelling.length = v ++ rest' := by
    rw [List.append_assoc, ← hlength, List.drop_left]
  rw [hdrop]
  exact ih hv rest'

/-- Tokens with the same lexemes have derivations of the same shape, whatever follows them. -/
theorem transport (hcover : ∀ {a b a' b'}, g a' = f a → g b' = f b → g (a'.cover b') = f (a.cover b))
    {p : Phrase} {ts rest : List Token} (d : Derivation r p ts rest) {us : List Token}
    (h : List.Forall₂ (Token.Alike f g) d.taken us) (rest' : List Token) : d.Follows f g (us ++ rest') rest' := by
  induction d generalizing us rest' with
  | plain condition ih =>
    obtain ⟨c, hc, he⟩ := ih h rest'
    exact ⟨.plain c, hc, he⟩
  | branch condition hquestion consequent hcolon alternate ihc iha ihb =>
    simp only [taken, forall₂_append_left_iff, List.forall₂_cons_left_iff] at h
    obtain ⟨v₁, _, hv₁, ⟨question', _, hq, ⟨v₂, _, hv₂, ⟨colon', v₃, hc, hv₃, rfl⟩, rfl⟩, rfl⟩, rfl⟩ := h
    obtain ⟨c, hcc, hcr⟩ := ihc hv₁ (question' :: (v₂ ++ colon' :: (v₃ ++ rest')))
    obtain ⟨a, hac, har⟩ := iha hv₂ (colon' :: (v₃ ++ rest'))
    obtain ⟨b, hbc, hbr⟩ := ihb hv₃ rest'
    have he : v₁ ++ question' :: (v₂ ++ colon' :: v₃) ++ rest' =
        v₁ ++ question' :: (v₂ ++ colon' :: (v₃ ++ rest')) := by simp
    rw [he]
    refine ⟨.branch c (hq.isSymbol hquestion) a (hc.isSymbol hcolon) b, ?_, ?_⟩
    · simp only [charge, hcc, hac, hbc]
    · simp only [Phrase.mapRanges, result, Node.mapRanges] at hcr har hbr ⊢
      rw [hcr, har, hbr, hcover (range_congr hcr) (range_congr hbr)]
  | tightest operand ih =>
    obtain ⟨c, hc, he⟩ := ih h rest'
    exact ⟨.tightest c, hc, he⟩
  | folded folds ih =>
    obtain ⟨c, hc, he⟩ := ih h rest'
    exact ⟨.folded c, hc, he⟩
  | operand tighter ih =>
    obtain ⟨c, hc, he⟩ := ih h rest'
    exact ⟨.operand c, hc, he⟩
  | fold left op hop hleads right ihl ihr =>
    simp only [taken] at h
    rw [forall₂_append_left_iff] at h
    obtain ⟨v₁, v₂, hv₁, hv₂, rfl⟩ := h
    obtain ⟨l, hlc, hlr⟩ := ihl hv₁ (v₂ ++ rest')
    obtain ⟨hleads', rt, hrc, hrr⟩ := transport_operator (by simp) hleads ihr hv₂ rest'
    rw [List.append_assoc]
    refine ⟨.fold l op hop hleads' rt, ?_, ?_⟩
    · simp only [charge, hlc, hrc]
    · simp only [Phrase.mapRanges, result, Node.mapRanges] at hlr hrr ⊢
      rw [hlr, hrr, hcover (range_congr hlr) (range_congr hrr)]
  | base operand ih =>
    obtain ⟨c, hc, he⟩ := ih h rest'
    exact ⟨.base c, hc, he⟩
  | power left op hop hleads right ihl ihr =>
    simp only [taken] at h
    rw [forall₂_append_left_iff] at h
    obtain ⟨v₁, v₂, hv₁, hv₂, rfl⟩ := h
    obtain ⟨l, hlc, hlr⟩ := ihl hv₁ (v₂ ++ rest')
    obtain ⟨hleads', rt, hrc, hrr⟩ := transport_operator (by simp) hleads ihr hv₂ rest'
    rw [List.append_assoc]
    refine ⟨.power l op hop hleads' rt, ?_, ?_⟩
    · simp only [charge, hlc, hrc]
    · simp only [Phrase.mapRanges, result, Node.mapRanges] at hlr hrr ⊢
      rw [hlr, hrr, hcover (range_congr hlr) (range_congr hrr)]
  | signed sign op hsign operand ih =>
    simp only [taken, List.forall₂_cons_left_iff] at h
    obtain ⟨sign', v, hs, hv, rfl⟩ := h
    obtain ⟨o, hoc, hor⟩ := ih hv rest'
    have hsign' : unaryOp? sign' = some op := by
      rw [← hsign]
      simp only [unaryOp?, hs.1]
    refine ⟨.signed sign' op hsign' o, ?_, ?_⟩
    · simp only [charge, hoc]
    · simp only [Phrase.mapRanges, result, Node.mapRanges] at hor ⊢
      rw [hor, hcover hs.2.symm (range_congr hor)]
  | unsigned operand ih =>
    obtain ⟨c, hc, he⟩ := ih h rest'
    exact ⟨.unsigned c, hc, he⟩
  | object primary ih =>
    obtain ⟨c, hc, he⟩ := ih h rest'
    exact ⟨.object c, hc, he⟩
  | dot key word object hpoint hkey ih =>
    simp only [taken, forall₂_append_left_iff, List.forall₂_cons_left_iff, List.forall₂_nil_left_iff] at h
    obtain ⟨v, _, hv, ⟨point', _, hp, ⟨key', _, hk, rfl, rfl⟩, rfl⟩, rfl⟩ := h
    obtain ⟨o, hoc, hor⟩ := ih hv (point' :: key' :: rest')
    rw [List.append_assoc]
    refine ⟨.dot key' word o (hp.isSymbol hpoint) (hk.1 ▸ hkey), ?_, ?_⟩
    · simp only [charge, hoc]
    · simp only [Phrase.mapRanges, result, Node.mapRanges] at hor ⊢
      rw [hor, hcover (range_congr hor) hk.2.symm, hk.2]
  | index closing object hopening key hclosing ih ihk =>
    simp only [taken, forall₂_append_left_iff, List.forall₂_cons_left_iff, List.forall₂_nil_left_iff] at h
    obtain ⟨v₁, _, hv₁, ⟨opening', _, ho, ⟨v₂, _, hv₂, ⟨closing', _, hc, rfl, rfl⟩, rfl⟩, rfl⟩, rfl⟩ := h
    obtain ⟨o, hoc, hor⟩ := ih hv₁ (opening' :: (v₂ ++ closing' :: rest'))
    obtain ⟨k, hkc, hkr⟩ := ihk hv₂ (closing' :: rest')
    have he : v₁ ++ opening' :: (v₂ ++ [closing']) ++ rest' = v₁ ++ opening' :: (v₂ ++ closing' :: rest') := by simp
    rw [he]
    refine ⟨.index closing' o (ho.isSymbol hopening) k (hc.isSymbol hclosing), ?_, ?_⟩
    · simp only [charge, hoc, hkc]
    · simp only [Phrase.mapRanges, result, Node.mapRanges] at hor hkr ⊢
      rw [hor, hkr, hcover (range_congr hor) hc.2.symm]
  | call callee hopening arguments ih iha =>
    simp only [taken, forall₂_append_left_iff, List.forall₂_cons_left_iff] at h
    obtain ⟨v₁, _, hv₁, ⟨opening', v₂, ho, hv₂, rfl⟩, rfl⟩ := h
    obtain ⟨c, hcc, hcr⟩ := ih hv₁ (opening' :: (v₂ ++ rest'))
    obtain ⟨a, hac, har⟩ := iha hv₂ rest'
    rw [List.append_assoc]
    refine ⟨.call c (ho.isSymbol hopening) a, ?_, ?_⟩
    · simp only [charge, hcc, hac]
    · simp only [Phrase.mapRanges, result, Node.mapRanges, Prod.mk.injEq] at hcr har ⊢
      rw [hcr, har.1, hcover (range_congr hcr) har.2]
  | literal t v ht =>
    simp only [taken, List.forall₂_cons_left_iff, List.forall₂_nil_left_iff] at h
    obtain ⟨t', _, htt, rfl, rfl⟩ := h
    refine ⟨.literal t' v (htt.1 ▸ ht), rfl, ?_⟩
    simp only [Phrase.mapRanges, result, Node.mapRanges, htt.2]
  | name t word ht hword =>
    simp only [taken, List.forall₂_cons_left_iff, List.forall₂_nil_left_iff] at h
    obtain ⟨t', _, htt, rfl, rfl⟩ := h
    refine ⟨.name t' word (htt.1 ▸ ht) hword, rfl, ?_⟩
    simp only [Phrase.mapRanges, result, Node.mapRanges, htt.2]
  | regex t pattern flags ht hallowed =>
    simp only [taken, List.forall₂_cons_left_iff, List.forall₂_nil_left_iff] at h
    obtain ⟨t', _, htt, rfl, rfl⟩ := h
    refine ⟨.regex t' pattern flags (htt.1 ▸ ht) hallowed, rfl, ?_⟩
    simp only [Phrase.mapRanges, result, Node.mapRanges, htt.2]
  | parens opening closing hopening inner hclosing ih =>
    simp only [taken, forall₂_append_left_iff, List.forall₂_cons_left_iff, List.forall₂_nil_left_iff] at h
    obtain ⟨opening', _, ho, ⟨v, _, hv, ⟨closing', _, hc, rfl, rfl⟩, rfl⟩, rfl⟩ := h
    obtain ⟨n, hnc, hnr⟩ := ih hv (closing' :: rest')
    have he : opening' :: (v ++ [closing']) ++ rest' = opening' :: (v ++ closing' :: rest') := by simp
    rw [he]
    refine ⟨.parens opening' closing' (ho.isSymbol hopening) n (hc.isSymbol hclosing), ?_, ?_⟩
    · simp only [charge, hnc]
    · simp only [Phrase.mapRanges, result, Node.mapRanges_withRange] at hnr ⊢
      rw [hnr, hcover ho.2.symm hc.2.symm]
  | array opening hopening entries ih =>
    simp only [taken, List.forall₂_cons_left_iff] at h
    obtain ⟨opening', v, ho, hv, rfl⟩ := h
    obtain ⟨e, hec, her⟩ := ih hv rest'
    refine ⟨.array opening' (ho.isSymbol hopening) e, ?_, ?_⟩
    · simp only [charge, hec]
    · simp only [Phrase.mapRanges, result, Node.mapRanges, Prod.mk.injEq] at her ⊢
      rw [her.1, hcover ho.2.symm her.2]
  | empty closing hclosing =>
    simp only [taken, List.forall₂_cons_left_iff, List.forall₂_nil_left_iff] at h
    obtain ⟨closing', _, hc, rfl, rfl⟩ := h
    refine ⟨.empty closing' (hc.isSymbol hclosing), rfl, ?_⟩
    simp only [Phrase.mapRanges, result, Node.mapRangesAll, hc.2]
  | filled entries ih =>
    obtain ⟨c, hc, he⟩ := ih h rest'
    exact ⟨.filled c, hc, he⟩
  | last closing item hclosing ih =>
    simp only [taken, forall₂_append_left_iff, List.forall₂_cons_left_iff, List.forall₂_nil_left_iff] at h
    obtain ⟨v, _, hv, ⟨closing', _, hc, rfl, rfl⟩, rfl⟩ := h
    obtain ⟨n, hnc, hnr⟩ := ih hv (closing' :: rest')
    rw [List.append_assoc]
    refine ⟨.last closing' n (hc.isSymbol hclosing), ?_, ?_⟩
    · simp only [charge, hnc]
    · simp only [Phrase.mapRanges, result, Node.mapRangesAll] at hnr ⊢
      rw [hnr, hc.2]
  | lastComma closing htrailing item hcomma hclosing ih =>
    simp only [taken, forall₂_append_left_iff, List.forall₂_cons_left_iff, List.forall₂_nil_left_iff] at h
    obtain ⟨v, _, hv, ⟨comma', _, hcom, ⟨closing', _, hc, rfl, rfl⟩, rfl⟩, rfl⟩ := h
    obtain ⟨n, hnc, hnr⟩ := ih hv (comma' :: closing' :: rest')
    rw [List.append_assoc]
    refine ⟨.lastComma closing' htrailing n (hcom.isSymbol hcomma) (hc.isSymbol hclosing), ?_, ?_⟩
    · simp only [charge, hnc]
    · simp only [Phrase.mapRanges, result, Node.mapRangesAll] at hnr ⊢
      rw [hnr, hc.2]
  | more item hcomma others ih iho =>
    simp only [taken, forall₂_append_left_iff, List.forall₂_cons_left_iff] at h
    obtain ⟨v₁, _, hv₁, ⟨comma', v₂, hcom, hv₂, rfl⟩, rfl⟩ := h
    obtain ⟨n, hnc, hnr⟩ := ih hv₁ (comma' :: (v₂ ++ rest'))
    obtain ⟨o, hoc, hor⟩ := iho hv₂ rest'
    rw [List.append_assoc]
    refine ⟨.more n (hcom.isSymbol hcomma) o, ?_, ?_⟩
    · simp only [charge, hnc, hoc]
    · simp only [Phrase.mapRanges, result, Node.mapRangesAll, Prod.mk.injEq] at hnr hor ⊢
      rw [hnr, hor.1, hor.2]
      exact ⟨rfl, rfl⟩

/-- The tokens of a derivation are derived in the same way in front of other tokens. -/
theorem carry {p : Phrase} {ts rest : List Token} (d : Derivation r p ts rest) (rest' : List Token) :
    ∃ d' : Derivation r p (d.taken ++ rest') rest', d'.result = d.result ∧ d'.charge = d.charge := by
  have hsame : List.Forall₂ (Token.Alike id id) d.taken d.taken := List.forall₂_same.2 fun t _ => ⟨rfl, rfl⟩
  have h : d.Follows id id (d.taken ++ rest') rest' := by
    refine d.transport ?_ hsame rest'
    rintro a b _ _ rfl rfl
    rfl
  obtain ⟨d', hc, he⟩ := h
  rw [Phrase.mapRanges_id, Phrase.mapRanges_id] at he
  exact ⟨d', he, hc⟩

end Derivation

end ExprLang
