import ExprLang.Proofs.OperandEnds

/-!
# White space between tokens

`Respaced` relates texts that differ in the white space before, between and behind their tokens.  Such texts have the
same lexemes as long as every slash that divides stands behind a lexeme that admits no regular expression
(`Respaced.exists_reads`): a scanner stops before white space as it stops before the next token, and the choice between
division and regular expression is left to the lexeme before the slash alone.  The tokens of an expression are like that,
unless a member is called `typeof`, so the white space in an expression does not matter (`Expression.compile_respaced`).
-/

open ExprLang.Parser ExprLang.Text

namespace ExprLang

/-- A text of white space only. -/
def AllBlank (text : List Char) : Prop := ∀ c ∈ text, Unicode.isBlank c = true

/-- Two texts have the same pieces for tokens, which have their ranges in the first text.  At the front of the second text
and at its end stands any white space.  Before a token with another one before it, as the flag tells, stands what has
stood there, or any white space but not none. -/
inductive Respaced : Bool → Nat → List Token → List Char → List Char → Prop where
  | nil {inner : Bool} {offset : Nat} {gap gap' : List Char} (hgap : AllBlank gap') : Respaced inner offset [] gap gap'
  | cons {inner : Bool} {offset : Nat} {t : Token} {ts : List Token} {gap gap' s rest rest' : List Char}
      (hoffset : t.offset = offset + byteLength gap) (hlength : t.length = byteLength s)
      (hgap : gap' = gap ∨ AllBlank gap' ∧ (inner = true → gap' ≠ []))
      (h : Respaced true t.range.stop ts rest rest') :
      Respaced inner offset (t :: ts) (gap ++ (s ++ rest)) (gap' ++ (s ++ rest'))

namespace AllBlank

variable {gap b b' text : List Char}

theorem startsLike (h : AllBlank gap) (hne : gap ≠ []) : Lexer.StartsLike b (gap ++ b') := by
  obtain ⟨c, gap, rfl⟩ := List.exists_cons_of_ne_nil hne
  intro d hd
  cases hd
  exact .inl (h c (List.mem_cons_self ..))

/-- White space is skipped. -/
theorem reads {offset : Nat} {last : Option Lexeme} {touching : Bool} {ts : List Token} (hgap : AllBlank gap)
    (h : Lexer.Reads (offset + byteLength gap) last (touching && gap.isEmpty) text ts) :
    Lexer.Reads offset last touching (gap ++ text) ts := by
  induction gap generalizing offset touching with
  | nil => simpa [byteLength] using h
  | cons c gap ih =>
    refine .blank (hgap c (List.mem_cons_self ..)) (ih (fun d hd => hgap d (List.mem_cons_of_mem _ hd)) ?_)
    rw [byteLength, ← Nat.add_assoc] at h
    simpa using h

end AllBlank

namespace Lexer

variable {offset : Nat} {last : Option Lexeme} {touching : Bool} {gap : List Char} {t : Token} {ts : List Token}

theorem StartsLike.append {b b' : List Char} (h : StartsLike b b') (a : List Char) : StartsLike (a ++ b) (a ++ b') := by
  cases a with
  | nil => exact h
  | cons c a => exact fun d hd => .inr hd

/-- Before a token stands white space. -/
theorem Reads.exists_first {s rest : List Char} (h : Reads offset last touching (gap ++ (s ++ rest)) (t :: ts))
    (hoffset : t.offset = offset + byteLength gap) (hlength : t.length = byteLength s) :
    AllBlank gap ∧ ∃ c a, s = c :: a ∧ Unicode.isBlank c = false ∧
      lexeme? (last.all Lexeme.admitsRegex) c (a ++ rest) = some (t.lexeme, a.length + 1) ∧
      (t.lexeme.isOperand && (touching && gap.isEmpty)) = false ∧
      Reads t.range.stop (some t.lexeme) t.lexeme.isOperand rest ts := by
  induction gap generalizing offset touching with
  | nil =>
    rw [List.nil_append] at h
    generalize htext : s ++ rest = text at h
    cases h with
    | @blank _ _ _ c text _ hc h =>
      have := h.le_offset (List.mem_cons_self ..)
      have := c.utf8Size_pos
      simp only [byteLength] at hoffset
      omega
    | @token _ _ _ c a text l _ hc hl htouch h =>
      rw [← List.cons_append] at htext
      obtain ⟨rfl, rfl⟩ := append_inj_of_byteLength htext hlength.symm
      exact ⟨fun _ hm => absurd hm List.not_mem_nil, c, a, rfl, hc, hl, by simpa using htouch, h⟩
  | cons d gap ih =>
    generalize htext : d :: gap ++ (s ++ rest) = text at h
    cases h with
    | @blank _ _ _ c text _ hc h =>
      obtain ⟨rfl, rfl⟩ := List.cons.inj htext
      obtain ⟨hgap, c', a, rfl, hc', hl, -, h⟩ := ih h (by rw [hoffset, byteLength, Nat.add_assoc])
      refine ⟨?_, c', a, rfl, hc', hl, by simp, h⟩
      intro e he
      rcases List.mem_cons.1 he with rfl | he
      · exact hc
      · exact hgap e he
    | token hc hl htouch h =>
      have := Reads.byteLength_cons_pos d gap
      simp only at hoffset
      omega

end Lexer

/-! ### The lexemes of another text -/

/-- Where a slash is read as a symbol, the lexeme before it admits no regular expression. -/
def SlashesSettled (last : Option Lexeme) (ts : List Token) : Prop :=
  ∀ us t vs, ts = us ++ t :: vs → t.lexeme = .symbol '/' →
    ((us.getLast?.map Token.lexeme).or last).all Lexeme.admitsRegex = false

theorem SlashesSettled.tail {last : Option Lexeme} {t : Token} {ts : List Token} (h : SlashesSettled last (t :: ts)) :
    SlashesSettled (some t.lexeme) ts := by
  intro us u vs hts hu
  have key := h (t :: us) u vs (by rw [hts, List.cons_append]) hu
  rw [List.getLast?_cons] at key
  cases hlast : us.getLast? with
  | none =>
    rw [hlast] at key
    exact key
  | some v =>
    rw [hlast] at key
    exact key

namespace Respaced

variable {inner : Bool} {offset : Nat} {ts : List Token} {text text' : List Char}

/-- Between tokens the second text goes on like the first, or with white space. -/
theorem startsLike (h : Respaced true offset ts text text') : Lexer.StartsLike text text' := by
  generalize hinner : true = inner at h
  induction h with
  | nil hgap =>
    subst hinner
    intro d hd
    exact .inl (hgap d (List.mem_of_mem_head? hd))
  | cons hoffset hlength hgap h ih =>
    rcases hgap with rfl | ⟨hblank, hne⟩
    · exact ((ih rfl).append _).append _
    · exact hblank.startsLike (hne hinner.symm)

/-- The second text has the same lexemes. -/
theorem exists_reads (h : Respaced inner offset ts text text') {last : Option Lexeme} {touching : Bool}
    (hreads : Lexer.Reads offset last touching text ts) (hslashes : SlashesSettled last ts)
    (hinner : inner = false → touching = false) (offset' : Nat) :
    ∃ ts', Lexer.Reads offset' last touching text' ts' ∧ ts'.map Token.lexeme = ts.map Token.lexeme := by
  induction h generalizing last touching offset' with
  | @nil _ _ _ gap' hgap =>
    refine ⟨[], ?_, rfl⟩
    rw [← List.append_nil gap']
    exact hgap.reads .nil
  | @cons inner offset t ts gap gap' s rest rest' hoffset hlength hgap h ih =>
    obtain ⟨hblank, c, a, rfl, hc, hl, htouch, hreads⟩ := hreads.exists_first hoffset hlength
    -- Only a gap between tokens can keep two operands apart, and such a gap is not closed.
    have hgap' : AllBlank gap' ∧ (t.lexeme.isOperand && (touching && gap'.isEmpty)) = false := by
      rcases hgap with rfl | ⟨hblank', hne⟩
      · exact ⟨hblank, htouch⟩
      · refine ⟨hblank', ?_⟩
        cases inner with
        | false => simp [hinner rfl]
        | true => simp [hne rfl]
    have hslash : t.lexeme = .symbol '/' → last.all Lexeme.admitsRegex = false := fun ht => hslashes [] t ts rfl ht
    have hl' := Lexer.lexeme?_change h.startsLike hl hslash
    obtain ⟨ts', hts', he⟩ := ih hreads hslashes.tail (by simp) (offset' + byteLength gap' + byteLength (c :: a))
    refine ⟨_, hgap'.1.reads (.token hc hl' hgap'.2 hts'), ?_⟩
    rw [List.map_cons, List.map_cons, he]

end Respaced

/-! ### Expressions -/

/-- In a derivation every slash is settled unless a member is called `typeof`. -/
theorem Derivation.slashesSettled {r : Bool} {ts : List Token} (d : Derivation r .conditional ts [])
    (htypeof : ∀ us, us <+: ts → ¬ EndsWithPointTypeof us) : SlashesSettled none ts := by
  have hdivide := d.slashesDivide trivial
  have hstart := d.startsWith_slash trivial
  rw [d.taken_eq] at hdivide hstart
  intro us t vs hts ht
  have hslash : t.isSymbol '/' := by simp [Token.isSymbol, Token.symbol?, ht]
  have hne : us ≠ [] := by
    rintro rfl
    rw [hts, List.nil_append, startsWith_cons, hslash] at hstart
    cases hstart
  rcases hdivide us t vs hts hne hslash with ⟨before, u, rfl, hu⟩ | hpoint
  · rw [List.getLast?_concat]
    exact hu
  · exact absurd hpoint (htypeof us ⟨t :: vs, hts.symm⟩)

/-- White space between tokens is of no importance.  If a source compiles, and no point in it is followed by `typeof`,
then it compiles with any white space at its ends, and between two tokens with what stands there or any other white
space, also within an operator, and the tree differs in its ranges only. -/
theorem Expression.compile_respaced {source source' : String} {regex : RegexSupport} {ts : List Token} {e : Expression}
    (hts : tokenize source = .ok ts) (he : compile source regex = .ok e)
    (htypeof : ∀ us, us <+: ts → ¬ EndsWithPointTypeof us)
    (h : Respaced false 0 ts source.toList source'.toList) :
    ∃ e', compile source' regex = .ok e' ∧ e'.root.unranged = e.root.unranged := by
  obtain ⟨_, hts', hroot, -, -⟩ := compile_eq_ok_iff.1 he
  obtain rfl := Except.ok.inj (hts.symm.trans hts')
  obtain ⟨d, -, -⟩ := exists_derivation_of_parse hroot
  obtain ⟨ts', hreads, hlexemes⟩ :=
    h.exists_reads (Lexer.scan_eq_ok_iff.1 hts) (d.slashesSettled htypeof) (fun _ => rfl) 0
  obtain ⟨n', hn', hunranged⟩ := exists_parse_of_lexemes hroot hlexemes
  have htokens : tokenize source' = .ok ts' := Lexer.scan_eq_ok_iff.2 hreads
  exact ⟨⟨source', n', regex⟩, compile_eq_ok_iff.2 ⟨ts', htokens, hn', rfl, rfl⟩, hunranged⟩

/-- The operator `<=` may be spread over lines. -/
theorem Expression.compile_respaced_operator :
    ∃ e', compile " a <\n= b" .disabled = .ok e' ∧
      e'.root.unranged = .binary ⟨0, 0⟩ .lte (.context ⟨0, 0⟩ "a") (.context ⟨0, 0⟩ "b") := by
  have hts : tokenize "a<= b" = .ok [⟨.identifier "a", 0, 1⟩, ⟨.symbol '<', 1, 1⟩, ⟨.symbol '=', 2, 1⟩,
      ⟨.identifier "b", 4, 1⟩] := by cbv
  have he : compile "a<= b" .disabled = .ok ⟨"a<= b", .binary ⟨0, 5⟩ .lte (.context ⟨0, 1⟩ "a") (.context ⟨4, 1⟩ "b"),
      .disabled⟩ := by cbv
  have htypeof (us : List Token) (hus : us <+: [⟨.identifier "a", 0, 1⟩, ⟨.symbol '<', 1, 1⟩, ⟨.symbol '=', 2, 1⟩,
      ⟨.identifier "b", 4, 1⟩]) : ¬ EndsWithPointTypeof us := by
    rintro ⟨before, point, key, rfl, hpoint, hkey⟩
    have hm := hus.subset (List.mem_append_right before (List.mem_cons_self ..))
    simp only [List.mem_cons, List.not_mem_nil, or_false] at hm
    rcases hm with rfl | rfl | rfl | rfl <;> cases hpoint
  have hblank (c : Char) (hc : Unicode.isBlank c = true) : AllBlank [c] := by
    intro d hd
    rw [List.mem_singleton.1 hd]
    exact hc
  have h : Respaced false 0 [⟨.identifier "a", 0, 1⟩, ⟨.symbol '<', 1, 1⟩, ⟨.symbol '=', 2, 1⟩, ⟨.identifier "b", 4, 1⟩]
      "a<= b".toList " a <\n= b".toList := by
    show Respaced false 0 _ ([] ++ (['a'] ++ ([] ++ (['<'] ++ ([] ++ (['='] ++ ([' '] ++ (['b'] ++ []))))))))
      ([' '] ++ (['a'] ++ ([' '] ++ (['<'] ++ (['\n'] ++ (['='] ++ ([' '] ++ (['b'] ++ []))))))))
    refine .cons rfl rfl (.inr ⟨hblank _ rfl, by simp⟩) ?_
    refine .cons rfl rfl (.inr ⟨hblank _ rfl, by simp⟩) ?_
    refine .cons rfl rfl (.inr ⟨hblank _ rfl, by simp⟩) ?_
    exact .cons rfl rfl (.inl rfl) (.nil fun _ hc => absurd hc List.not_mem_nil)
  obtain ⟨e', he', hroot⟩ := compile_respaced hts he htypeof h
  exact ⟨e', he', hroot⟩

end ExprLang
