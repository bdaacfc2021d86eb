import ExprLang.Proofs.Parsing
import ExprLang.Proofs.ScanPlaces
import ExprLang.Proofs.Slices

/-!
# Slashes behind operands

Whether a slash opens a regular expression is decided by the lexeme before it, and whether it divides by the operand
before it.

* A derivation ends with a lexeme that admits no regular expression, or with a point and `typeof`
  (`Derivation.endsOperand`), and where it takes a slash behind other tokens, these end like an operand
  (`Derivation.slashesDivide`).
* A token behind a complete expression is a regular expression only after `.typeof`, and there wherever one can be read
  (`regex_after_expression_iff`).
-/

open ExprLang.Parser

namespace ExprLang

/-- The tokens end with a point and `typeof`. -/
def EndsWithPointTypeof (ts : List Token) : Prop :=
  ∃ us point key, ts = us ++ [point, key] ∧ point.isSymbol '.' ∧ key.lexeme = .identifier "typeof"

/-- The tokens end with a lexeme that admits no regular expression behind it, or with the name `typeof` of a member. -/
def EndsOperand (ts : List Token) : Prop :=
  (∃ us t, ts = us ++ [t] ∧ t.lexeme.admitsRegex = false) ∨ EndsWithPointTypeof ts

theorem endsOperand_singleton {t : Token} (h : t.lexeme.admitsRegex = false) : EndsOperand [t] :=
  .inl ⟨[], t, rfl, h⟩

theorem EndsOperand.append {us : List Token} (h : EndsOperand us) (before : List Token) :
    EndsOperand (before ++ us) := by
  rcases h with ⟨us, t, rfl, ht⟩ | ⟨us, point, key, rfl, h⟩
  · exact .inl ⟨before ++ us, t, by simp, ht⟩
  · exact .inr ⟨before ++ us, point, key, by simp, h⟩

theorem EndsOperand.cons {us : List Token} (h : EndsOperand us) (t : Token) : EndsOperand (t :: us) := h.append [t]

/-- A slash behind other tokens stands behind an operand. -/
def SlashesDivide (ts : List Token) : Prop :=
  ∀ us t vs, ts = us ++ t :: vs → us ≠ [] → t.isSymbol '/' → EndsOperand us

namespace SlashesDivide

variable {us vs : List Token}

theorem append (hus : SlashesDivide us) (hvs : SlashesDivide vs)
    (h : startsWith '/' vs = false ∨ EndsOperand us) : SlashesDivide (us ++ vs) := by
  have hfirst {t : Token} {after : List Token} (ht : t.isSymbol '/') (hts : vs = t :: after) : EndsOperand us := by
    refine h.resolve_left fun hstart => ?_
    rw [hts, startsWith_cons, ht] at hstart
    cases hstart
  intro before t after hts hne ht
  rcases List.append_eq_append_iff.1 hts with ⟨m, rfl, hm⟩ | ⟨m, rfl, hm⟩
  · cases m with
    | nil =>
      rw [List.append_nil]
      exact hfirst ht hm
    | cons u m => exact (hvs _ t after hm (by simp) ht).append us
  · cases m with
    | nil =>
      rw [List.append_nil] at hfirst
      exact hfirst ht hm.symm
    | cons u m =>
      rw [List.cons_append, List.cons.injEq] at hm
      obtain ⟨rfl, -⟩ := hm
      exact hus before t m rfl hne ht

/-- No token but the first is a slash. -/
theorem of_tail (h : ∀ t ∈ us.tail, t.isSymbol '/' = false) : SlashesDivide us := by
  rintro before t after rfl hne ht
  cases before with
  | nil => exact absurd rfl hne
  | cons u before =>
    have := h t (by simp)
    rw [ht] at this
    cases this

theorem singleton (t : Token) : SlashesDivide [t] := of_tail fun _ h => absurd h List.not_mem_nil

theorem cons (t : Token) (hvs : SlashesDivide vs) (h : startsWith '/' vs = false) : SlashesDivide (t :: vs) :=
  (singleton t).append hvs (.inl h)

/-- The slash is a whole operator, so within an operator there is none behind a symbol. -/
theorem take {op : BinaryOp} {ts : List Token} (h : op.Leads ts) : SlashesDivide (ts.take op.spelling.length) := by
  refine of_tail fun t ht => ?_
  rw [Bool.eq_false_iff]
  intro hslash
  have hm : t.lexeme ∈ op.lexemes.tail := by
    rw [← h.map_take, ← List.map_tail]
    exact List.mem_map_of_mem ht
  rw [lexeme_of_isSymbol hslash, BinaryOp.lexemes, ← List.map_tail, List.mem_map] at hm
  obtain ⟨c, hc, he⟩ := hm
  exact op.slash_not_mem_tail (Lexeme.symbol.inj he ▸ hc)

end SlashesDivide

/-! ### Derivations -/

/-- A list of the grammar is closed by a bracket. -/
def Phrase.Closed : Phrase → Prop
  | list close _ | items close _ => close = ')' ∨ close = ']'
  | _ => True

theorem startsWith_append {c : Char} {us vs : List Token} (hus : startsWith c us = false)
    (hvs : startsWith c vs = false) : startsWith c (us ++ vs) = false := by
  cases us with
  | nil => exact hvs
  | cons t us => exact hus

theorem admitsRegex_of_close {t : Token} {close : Char} (hclose : close = ')' ∨ close = ']') (h : t.isSymbol close) :
    t.lexeme.admitsRegex = false := by
  rw [lexeme_of_isSymbol h]
  rcases hclose with rfl | rfl <;> rfl

namespace Derivation

variable {r : Bool} {p : Phrase} {ts rest : List Token}

/-- What a derivation takes ends like an operand. -/
theorem endsOperand (d : Derivation r p ts rest) (hp : p.Closed) : EndsOperand d.taken := by
  have hclosing {t : Token} {close : Char} (hclose : close = ')' ∨ close = ']') (ht : t.isSymbol close) :
      EndsOperand [t] := endsOperand_singleton (admitsRegex_of_close hclose ht)
  induction d with
  | plain _ ih | tightest _ ih | folded _ ih | operand _ ih | base _ ih | unsigned _ ih | object _ ih =>
    exact ih trivial
  | filled _ ih => exact ih hp
  | branch _ _ _ _ _ _ _ ihb => exact (((ihb trivial).cons _).append _).cons _ |>.append _
  | fold _ _ _ _ _ _ ihr | power _ _ _ _ _ _ ihr => exact ((ihr trivial).append _).append _
  | signed _ _ _ _ ih => exact (ih trivial).cons _
  | @dot _ _ _ point key word object hpoint hkey ih =>
    by_cases hword : word = "typeof"
    · exact .inr ⟨object.taken, point, key, rfl, hpoint, hword ▸ hkey⟩
    · have hend : EndsOperand [key] := endsOperand_singleton (by simp [hkey, Lexeme.admitsRegex, hword])
      exact (hend.cons point).append _
  | index _ _ _ _ hbracket _ _ => exact (((hclosing (.inr rfl) hbracket).append _).cons _).append _
  | call _ _ _ _ iha => exact ((iha (.inl rfl)).cons _).append _
  | literal t v ht => exact endsOperand_singleton (by rw [ht]; rfl)
  | name t word ht hword => exact endsOperand_singleton (by simp [ht, Lexeme.admitsRegex, hword])
  | regex t pattern flags ht hallowed => exact endsOperand_singleton (by rw [ht]; rfl)
  | parens _ _ _ _ hbracket _ => exact ((hclosing (.inl rfl) hbracket).append _).cons _
  | array _ _ _ ih => exact (ih (.inr rfl)).cons _
  | empty _ hbracket => exact hclosing hp hbracket
  | last _ _ hbracket _ => exact (hclosing hp hbracket).append _
  | lastComma _ _ _ _ hbracket _ => exact ((hclosing hp hbracket).cons _).append _
  | more _ _ _ _ iho => exact ((iho hp).cons _).append _

/-- What a derivation takes does not start with a slash. -/
theorem startsWith_slash (d : Derivation r p ts rest) (hp : p.Closed) : startsWith '/' d.taken = false := by
  have hts : startsWith '/' ts = false := by
    by_cases hlist : ∃ close trailing, p = .list close trailing
    · obtain ⟨close, trailing, rfl⟩ := hlist
      cases d with
      | empty closing hclosing =>
        refine isSymbol_eq_false hclosing ?_
        rcases hp with rfl | rfl <;> decide
      | filled entries => exact entries.startsWith_eq_false (by simp) (by decide)
    · exact d.startsWith_eq_false (fun close trailing h => hlist ⟨close, trailing, h⟩) (by decide)
  rw [← d.taken_append] at hts
  cases h : d.taken with
  | nil => rfl
  | cons t us =>
    rw [h] at hts
    exact hts

/-- A slash that a derivation takes behind other tokens stands behind an operand. -/
theorem slashesDivide (d : Derivation r p ts rest) (hp : p.Closed) : SlashesDivide d.taken := by
  have hother {t : Token} {c : Char} {us : List Token} (ht : t.isSymbol c) (hc : c ≠ '/') :
      startsWith '/' (t :: us) = false := isSymbol_eq_false ht hc
  have hclosing {t : Token} {close : Char} (hclose : close = ')' ∨ close = ']') (ht : t.isSymbol close)
      (us : List Token) : startsWith '/' (t :: us) = false := by
    apply hother ht
    rcases hclose with rfl | rfl <;> decide
  -- Wherever two parts meet, the second one does not start with a slash, unless the first one is a left operand.
  induction d with
  | plain _ ih | tightest _ ih | folded _ ih | operand _ ih | base _ ih | unsigned _ ih | object _ ih =>
    exact ih trivial
  | filled _ ih => exact ih hp
  | @branch _ _ _ _ question colon condition hquestion consequent hcolon alternate ihc iha ihb =>
    have hslash : startsWith '/' (colon :: alternate.taken) = false := hother hcolon (by decide)
    have hb := (ihb trivial).cons colon (alternate.startsWith_slash trivial)
    have ha := (iha trivial).append hb (.inl hslash)
    have hq := ha.cons question (startsWith_append (consequent.startsWith_slash trivial) hslash)
    exact (ihc trivial).append hq (.inl (hother hquestion (by decide)))
  | fold left op hop hleads right ihl ihr =>
    have hright := (SlashesDivide.take hleads).append (ihr trivial) (.inl (right.startsWith_slash trivial))
    exact (ihl trivial).append hright (.inr (left.endsOperand trivial))
  | power left op hop hleads right ihl ihr =>
    have hright := (SlashesDivide.take hleads).append (ihr trivial) (.inl (right.startsWith_slash trivial))
    exact (ihl trivial).append hright (.inr (left.endsOperand trivial))
  | signed sign _ _ operand ih => exact (ih trivial).cons sign (operand.startsWith_slash trivial)
  | dot key word object hpoint hkey ih =>
    have hslash : startsWith '/' [key] = false := by simp [Token.isSymbol, Token.symbol?, hkey]
    exact (ih trivial).append ((SlashesDivide.singleton key).cons _ hslash) (.inl (hother hpoint (by decide)))
  | @index _ _ _ _ opening closing object hopening key hbracket ih ihk =>
    have hslash := hclosing (.inr rfl) hbracket []
    have hk := (ihk trivial).append (SlashesDivide.singleton closing) (.inl hslash)
    have hopen := hk.cons opening (startsWith_append (key.startsWith_slash trivial) hslash)
    exact (ih trivial).append hopen (.inl (hother hopening (by decide)))
  | @call _ _ _ _ opening callee hopening arguments ih iha =>
    have ha := (iha (.inl rfl)).cons opening (arguments.startsWith_slash (.inl rfl))
    exact (ih trivial).append ha (.inl (hother hopening (by decide)))
  | literal t _ _ | name t _ _ _ | regex t _ _ _ _ | empty t _ => exact SlashesDivide.singleton t
  | parens opening closing _ inner hbracket ih =>
    have hslash := hclosing (.inl rfl) hbracket []
    have hi := (ih trivial).append (SlashesDivide.singleton closing) (.inl hslash)
    exact hi.cons opening (startsWith_append (inner.startsWith_slash trivial) hslash)
  | array opening _ entries ih => exact (ih (.inr rfl)).cons opening (entries.startsWith_slash (.inr rfl))
  | last closing item hbracket ih =>
    exact (ih trivial).append (SlashesDivide.singleton closing) (.inl (hclosing hp hbracket []))
  | @lastComma _ _ _ _ comma closing _ item hcomma hbracket ih =>
    have hc := (SlashesDivide.singleton closing).cons comma (hclosing hp hbracket [])
    exact (ih trivial).append hc (.inl (hother hcomma (by decide)))
  | @more _ _ _ _ _ comma item hcomma others ih iho =>
    have ho := (iho hp).cons comma (others.startsWith_slash hp)
    exact (ih trivial).append ho (.inl (hother hcomma (by decide)))

end Derivation

/-! ### The token behind an expression -/

namespace Lexer

/-- A regular expression is read at a slash, and only where it is allowed. -/
theorem regex_of_lexeme? {allowed : Bool} {c : Char} {text : List Char} {pattern flags : String} {n : Nat}
    (h : lexeme? allowed c text = some (.regex pattern flags, n)) :
    allowed = true ∧ c = '/' ∧ (scanRegex text).isSome := by
  cases scanned_of_lexeme? h with
  | word hw hl => cases isOperand_of_wordLexeme? hl
  | regex hc hr =>
    refine ⟨?_, hc, by rw [hr]; rfl⟩
    subst hc
    cases allowed with
    | true => rfl
    | false =>
      have hsymbol : lexeme? false '/' text = some (.symbol '/', 1) :=
        lexeme?_of_symbol (by decide) (by rintro (hd | ⟨hd, -⟩) <;> revert hd <;> decide) (by decide) (by simp)
      rw [hsymbol] at h
      cases h

/-- What the lexeme before a place admits is told by the tokens up to there. -/
theorem Run.admitsRegex_eq {q : Place} {text : List Char} {us before : List Token} {t : Token}
    (h : Run ⟨0, none, false, text⟩ us q) (hus : us = before ++ [t]) :
    q.last.all Lexeme.admitsRegex = t.lexeme.admitsRegex := by
  rw [h.last_eq, hus, List.getLast?_concat]
  rfl

end Lexer

/-- A token behind a complete expression is a regular expression exactly if the expression ends with `.typeof` and a
regular expression can be read at the place of the token. -/
theorem regex_after_expression_iff {source : String} {us vs : List Token} {t : Token} {n : Node}
    (h : tokenize source = .ok (us ++ t :: vs)) (hus : parse true us = .ok n) :
    (∃ pattern flags, t.lexeme = .regex pattern flags) ↔
      EndsWithPointTypeof us ∧ ∃ before text, source.toList = before ++ '/' :: text ∧
        Text.byteLength before = t.offset ∧ (Lexer.scanRegex text).isSome := by
  obtain ⟨q, c, a, b, hrun, hoffset, htext, -, -, hl, -⟩ := (Lexer.scan_eq_ok_iff.1 h).exists_run
  obtain ⟨s, hsource, hq, -⟩ := hrun.exists_prefix
  simp only [Nat.zero_add] at hsource hq
  rw [htext] at hsource
  constructor
  · rintro ⟨pattern, flags, ht⟩
    rw [ht] at hl
    obtain ⟨hallowed, rfl, hscan⟩ := Lexer.regex_of_lexeme? hl
    refine ⟨?_, s, a ++ b, hsource, by rw [← hq, hoffset], hscan⟩
    obtain ⟨d, -, -⟩ := exists_derivation_of_parse hus
    have hends := d.endsOperand trivial
    rw [← List.append_nil d.taken, d.taken_append] at hends
    rcases hends with ⟨before, z, hz, hadmits⟩ | hends
    · rw [hrun.admitsRegex_eq hz, hadmits] at hallowed
      cases hallowed
    · exact hends
  · rintro ⟨⟨before, point, key, rfl, -, hkey⟩, s', text, hsource', hs', hscan⟩
    obtain ⟨-, htail⟩ := Text.append_inj_of_byteLength (hsource.symm.trans hsource') (by rw [hs', ← hq, hoffset])
    obtain ⟨rfl, rfl⟩ := List.cons.inj htail
    have hallowed : q.last.all Lexeme.admitsRegex = true := by
      have hus : before ++ [point, key] = before ++ [point] ++ [key] := by simp
      rw [hrun.admitsRegex_eq hus, hkey]
      rfl
    obtain ⟨⟨pattern, flags, k⟩, hr⟩ := Option.isSome_iff_exists.1 hscan
    rw [hallowed, Lexer.lexeme?_of_scanRegex hr] at hl
    exact ⟨_, _, (Prod.mk.inj (Option.some.inj hl)).1.symm⟩

/-- Behind `a.b` a slash divides, also where a regular expression can be read. -/
theorem regex_after_expression_iff_member :
    tokenize "a.b/c/d" = .ok ([⟨.identifier "a", 0, 1⟩, ⟨.symbol '.', 1, 1⟩, ⟨.identifier "b", 2, 1⟩] ++
        ⟨.symbol '/', 3, 1⟩ :: [⟨.identifier "c", 4, 1⟩, ⟨.symbol '/', 5, 1⟩, ⟨.identifier "d", 6, 1⟩]) ∧
      parse true [⟨.identifier "a", 0, 1⟩, ⟨.symbol '.', 1, 1⟩, ⟨.identifier "b", 2, 1⟩] =
        .ok (.property ⟨0, 3⟩ (.context ⟨0, 1⟩ "a") (.constant ⟨2, 1⟩ (.string "b"))) ∧
      ¬ (EndsWithPointTypeof [⟨.identifier "a", 0, 1⟩, ⟨.symbol '.', 1, 1⟩, ⟨.identifier "b", 2, 1⟩] ∧
        ∃ before text, "a.b/c/d".toList = before ++ '/' :: text ∧ Text.byteLength before = 3 ∧
          (Lexer.scanRegex text).isSome) := by
  have hts : tokenize "a.b/c/d" = .ok ([⟨.identifier "a", 0, 1⟩, ⟨.symbol '.', 1, 1⟩, ⟨.identifier "b", 2, 1⟩] ++
      ⟨.symbol '/', 3, 1⟩ :: [⟨.identifier "c", 4, 1⟩, ⟨.symbol '/', 5, 1⟩, ⟨.identifier "d", 6, 1⟩]) := by cbv
  have hus : parse true [⟨.identifier "a", 0, 1⟩, ⟨.symbol '.', 1, 1⟩, ⟨.identifier "b", 2, 1⟩] =
      .ok (.property ⟨0, 3⟩ (.context ⟨0, 1⟩ "a") (.constant ⟨2, 1⟩ (.string "b"))) := by cbv
  refine ⟨hts, hus, ?_⟩
  have hiff := regex_after_expression_iff hts hus
  intro h
  obtain ⟨pattern, flags, ht⟩ := hiff.2 h
  cases ht

/-- Behind `a.typeof` a slash opens a regular expression, although `a.typeof` is a complete expression. -/
theorem regex_after_point_typeof :
    tokenize "a.typeof/b/c" = .ok [⟨.identifier "a", 0, 1⟩, ⟨.symbol '.', 1, 1⟩, ⟨.identifier "typeof", 2, 6⟩,
        ⟨.regex "b" "c", 8, 4⟩] ∧
      parse true [⟨.identifier "a", 0, 1⟩, ⟨.symbol '.', 1, 1⟩, ⟨.identifier "typeof", 2, 6⟩] =
        .ok (.property ⟨0, 8⟩ (.context ⟨0, 1⟩ "a") (.constant ⟨2, 6⟩ (.string "typeof"))) ∧
      Expression.compile "a.typeof/b/c" .standard = .error (.unexpectedRemainder 8) := by
  refine ⟨by cbv, by cbv, by cbv⟩

end ExprLang
