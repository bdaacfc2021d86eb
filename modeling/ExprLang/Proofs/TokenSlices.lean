import ExprLang.Proofs.ScanPlaces
import ExprLang.Proofs.Slices

/-!
# Tokens and the text between them

* Outside the tokens of a text there is only white space (`Lexer.Reads.isBlank_of_outside`): the scan does not stop
  early.
* Between two operands there is white space (`Lexer.Reads.exists_gap`).
* The text of a token is read as this token when it stands alone (`Lexer.reads_alone`).

`tokenize_lossless` puts these facts together.
-/

open ExprLang.Text

namespace ExprLang

/-- An offset between two characters of a text, or at one of its ends. -/
def Text.IsBoundary (text : List Char) (offset : Nat) : Prop := ∃ a b, text = a ++ b ∧ byteLength a = offset

namespace Lexer

variable {offset : Nat} {last : Option Lexeme} {touching : Bool} {text : List Char} {ts us vs : List Token} {t u : Token}

/-- A character that lies in no token is white space. -/
theorem Reads.isBlank_of_outside (h : Reads offset last touching text ts) {a b : List Char} {c : Char}
    (htext : text = a ++ c :: b)
    (hout : ∀ t ∈ ts, ¬ (t.offset ≤ offset + byteLength a ∧ offset + byteLength a < t.range.stop)) :
    Unicode.isBlank c = true := by
  induction h generalizing a with
  | nil => simp at htext
  | @blank offset last touching c' text ts hc h ih =>
    cases a with
    | nil =>
      cases htext
      exact hc
    | cons d a =>
      rw [List.cons_append, List.cons.injEq] at htext
      obtain ⟨rfl, htext⟩ := htext
      refine ih htext fun t ht => ?_
      rw [Nat.add_assoc]
      exact hout t ht
  | @token offset last touching c' a' text l ts hc hl ht h ih =>
    rw [← List.cons_append] at htext
    rcases List.append_eq_append_iff.1 htext with ⟨m, rfl, hrest⟩ | ⟨m, hm, hrest⟩
    · refine ih hrest fun t ht => ?_
      rw [Nat.add_assoc, ← byteLength_append]
      exact hout t (List.mem_cons_of_mem _ ht)
    · -- The character would lie in the token itself.
      cases m with
      | nil =>
        rw [List.append_nil] at hm
        refine ih (a := []) hrest.symm fun t ht => ?_
        have := hout t (List.mem_cons_of_mem _ ht)
        rwa [← hm] at this
      | cons d m =>
        exfalso
        refine hout _ (List.mem_cons_self ..) ⟨Nat.le_add_right .., ?_⟩
        have := Reads.byteLength_cons_pos d m
        simp only [Token.range, Range.stop, hm, byteLength_append]
        omega

/-- A token is a lexeme of the text at its offset. -/
theorem Reads.exists_lexeme_of_mem (h : Reads 0 none false text ts) (ht : t ∈ ts) :
    ∃ s c a b allowed, text = s ++ (c :: a ++ b) ∧ t.offset = byteLength s ∧ t.length = byteLength (c :: a) ∧
      Unicode.isBlank c = false ∧ lexeme? allowed c (a ++ b) = some (t.lexeme, a.length + 1) := by
  obtain ⟨us, vs, rfl⟩ := List.append_of_mem ht
  obtain ⟨q, c, a, b, hrun, hoffset, htext, hlength, hc, hl, -⟩ := h.exists_run
  obtain ⟨s, hsource, hq, -⟩ := hrun.exists_prefix
  simp only [Nat.zero_add] at hsource hq
  exact ⟨s, c, a, b, _, by rw [hsource, htext, List.cons_append], hoffset.symm.trans hq, hlength, hc, hl⟩

theorem Reads.isBoundary_of_mem (h : Reads 0 none false text ts) (ht : t ∈ ts) :
    IsBoundary text t.offset ∧ IsBoundary text t.range.stop := by
  obtain ⟨s, c, a, b, allowed, htext, hoffset, hlength, -⟩ := h.exists_lexeme_of_mem ht
  refine ⟨⟨s, _, htext, hoffset.symm⟩, ⟨s ++ (c :: a), b, by simpa using htext, ?_⟩⟩
  rw [byteLength_append, Token.range, Range.stop, hoffset, hlength]

/-- Operands do not touch. -/
theorem Reads.stop_lt_offset (h : Reads offset last touching text (us ++ t :: u :: vs))
    (ht : t.lexeme.isOperand = true) (hu : u.lexeme.isOperand = true) : t.range.stop < u.offset := by
  have hle : t.range.stop ≤ u.offset := by
    have := (List.pairwise_append.1 h.ordered).2.1
    exact List.rel_of_pairwise_cons this (List.mem_cons_self ..)
  rw [show us ++ t :: u :: vs = (us ++ [t]) ++ u :: vs by simp] at h
  obtain ⟨q, c, a, b, hrun, hoffset, -, -, -, -, htouch⟩ := h.exists_run
  obtain ⟨s, -, -, -, htouching⟩ := hrun.exists_prefix
  have hne : t.range.stop ≠ u.offset := by
    intro heq
    have hend : EndsWithOperand (us ++ [t]) q.offset := ⟨t, by simp, ht, by rw [hoffset, heq]⟩
    rw [hu, htouching.2 (.inl hend)] at htouch
    cases htouch
  omega

/-- The end of a token that does not touch the next one lies in no token. -/
theorem not_in_gap (h : (us ++ t :: u :: vs).Pairwise fun t u => t.range.stop ≤ u.offset)
    (hlt : t.range.stop < u.offset) {w : Token} (hw : w ∈ us ++ t :: u :: vs) :
    ¬ (w.offset ≤ t.range.stop ∧ t.range.stop < w.range.stop) := by
  simp only [List.pairwise_append, List.pairwise_cons, List.mem_cons] at h
  obtain ⟨-, ⟨ht, hu, -⟩, hus⟩ := h
  simp only [List.mem_append, List.mem_cons] at hw
  simp only [Token.range, Range.stop] at *
  rcases hw with hw | rfl | rfl | hw
  · have := hus w hw t (.inl rfl)
    omega
  · omega
  · omega
  · have := hu w hw
    omega

/-- There is white space between operands. -/
theorem Reads.exists_gap (h : Reads 0 none false text (us ++ t :: u :: vs)) (ht : t.lexeme.isOperand = true)
    (hu : u.lexeme.isOperand = true) :
    ∃ a c b, text = a ++ c :: b ∧ Unicode.isBlank c = true ∧ t.range.stop ≤ byteLength a ∧ byteLength a < u.offset := by
  have hlt := h.stop_lt_offset ht hu
  obtain ⟨a, rest, htext, ha⟩ := (h.isBoundary_of_mem (t := t) (by simp)).2
  obtain ⟨a', rest', htext', ha'⟩ := (h.isBoundary_of_mem (t := u) (by simp)).1
  cases rest with
  | nil =>
    -- The second operand would start behind the end of the text.
    have hlength := congrArg byteLength (htext.symm.trans htext')
    rw [List.append_nil, byteLength_append] at hlength
    omega
  | cons c b =>
    refine ⟨a, c, b, htext, h.isBlank_of_outside htext fun w hw => ?_, Nat.le_of_eq ha.symm, ha ▸ hlt⟩
    rw [Nat.zero_add, ha]
    exact not_in_gap h.ordered hlt hw

theorem eq_slash_of_lexeme? {allowed : Bool} {c : Char} {n : Nat} (h : lexeme? allowed c text = some (.symbol '/', n)) :
    c = '/' ∧ n = 1 := by
  cases scanned_of_lexeme? h with
  | word hw hl => cases isOperand_of_wordLexeme? hl
  | symbol => exact ⟨rfl, rfl⟩

/-- The text of a lexeme is read as this lexeme when it stands alone. -/
theorem reads_alone {allowed : Bool} {c : Char} {a b : List Char} {l : Lexeme} (hc : Unicode.isBlank c = false)
    (h : lexeme? allowed c (a ++ b) = some (l, a.length + 1)) :
    Reads 0 none false (c :: a) [⟨l, 0, byteLength (c :: a)⟩] := by
  have hcut := lexeme?_cut h (Nat.le_refl _)
  have halone : lexeme? true c a = some (l, a.length + 1) := by
    by_cases hl : l = .symbol '/'
    · subst hl
      obtain ⟨rfl, hn⟩ := eq_slash_of_lexeme? hcut
      obtain rfl := List.eq_nil_of_length_eq_zero (Nat.succ.inj hn)
      exact lexeme?_of_scanRegex_eq_none rfl
    · exact lexeme?_of_ne_slash hcut hl
  have hreads : Reads 0 none false (c :: (a ++ [])) [⟨l, 0, byteLength (c :: a)⟩] :=
    .token hc (by simpa using halone) (by simp) .nil
  rwa [List.append_nil] at hreads

end Lexer

/-- The tokens of a source are slices of it, one behind the other, with nothing but white space around them and some
between operands that follow each other, and each of them is the only token of its slice. -/
theorem tokenize_lossless {source : String} {ts : List Token} (h : tokenize source = .ok ts) :
    (∀ t ∈ ts, 0 < t.length) ∧
    (ts.Pairwise fun t u => t.offset < u.offset ∧ t.range.stop ≤ u.offset) ∧
    (∀ t ∈ ts, IsBoundary source.toList t.offset ∧ IsBoundary source.toList t.range.stop) ∧
    (∀ a c b, source.toList = a ++ c :: b →
      (∀ t ∈ ts, ¬ (t.offset ≤ byteLength a ∧ byteLength a < t.range.stop)) → Unicode.isBlank c = true) ∧
    (∀ us t u vs, ts = us ++ t :: u :: vs → t.lexeme.isOperand = true → u.lexeme.isOperand = true →
      ∃ a c b, source.toList = a ++ c :: b ∧ Unicode.isBlank c = true ∧
        t.range.stop ≤ byteLength a ∧ byteLength a < u.offset) ∧
    ∀ t ∈ ts, ∃ slice, slice? source.toList t.offset t.length = some slice ∧
      tokenize (String.ofList slice) = .ok [⟨t.lexeme, 0, t.length⟩] := by
  have hreads := Lexer.scan_eq_ok_iff.1 h
  have hpos : ∀ t ∈ ts, 0 < t.length := by
    intro t ht
    obtain ⟨s, c, a, b, allowed, -, -, hlength, -⟩ := hreads.exists_lexeme_of_mem ht
    rw [hlength]
    exact Lexer.Reads.byteLength_cons_pos c a
  refine ⟨hpos, ?_, fun t ht => hreads.isBoundary_of_mem ht, ?_, ?_, fun t ht => ?_⟩
  · refine hreads.ordered.imp_of_mem fun {t u} ht _ hle => ⟨?_, hle⟩
    have := hpos t ht
    simp only [Token.range, Range.stop] at hle
    omega
  · intro a c b hsource hout
    exact hreads.isBlank_of_outside hsource (by simpa using hout)
  · rintro us t u vs rfl ht hu
    exact hreads.exists_gap ht hu
  · obtain ⟨s, c, a, b, allowed, hsource, hoffset, hlength, hc, hl⟩ := hreads.exists_lexeme_of_mem ht
    refine ⟨c :: a, ?_, ?_⟩
    · rw [hsource, hoffset, hlength]
      exact slice?_append s (c :: a) b
    · rw [tokenize, String.toList_ofList, hlength]
      exact Lexer.scan_eq_ok_iff.2 (Lexer.reads_alone hc hl)

/-- A name and a string with a gap between them. -/
theorem tokenize_lossless_gap :
    tokenize "b 'é'" = .ok [⟨.identifier "b", 0, 1⟩, ⟨.literal (.string "é"), 2, 4⟩] ∧
      (∃ a c b, "b 'é'".toList = a ++ c :: b ∧ Unicode.isBlank c = true ∧ 1 ≤ byteLength a ∧ byteLength a < 2) ∧
      ∃ slice, slice? "b 'é'".toList 2 4 = some slice ∧
        tokenize (String.ofList slice) = .ok [⟨.literal (.string "é"), 0, 4⟩] := by
  have h : tokenize "b 'é'" = .ok [⟨.identifier "b", 0, 1⟩, ⟨.literal (.string "é"), 2, 4⟩] := by cbv
  obtain ⟨-, -, -, -, hgap, halone⟩ := tokenize_lossless h
  exact ⟨h, hgap [] _ _ [] rfl rfl rfl, halone _ (List.mem_cons_of_mem _ (List.mem_singleton_self _))⟩

end ExprLang
