import ExprLang.Proofs.LexemeReading
import ExprLang.Proofs.ParserSteps

/-!
# How a text falls into tokens

* `Lexer.Reads` says which tokens a text has, one character of white space or one lexeme after the other, and is what
  the scan decides (`Lexer.scan_eq_ok_iff`).
* The tokens stand in the order of the text and do not overlap (`Lexer.Reads.ordered`).
* Part of the tokens are the tokens of a part of the text, with the offsets counted from there
  (`Lexer.Reads.exists_slice`): what stands before and behind has no influence, unless the part starts with a slash.
-/

open ExprLang.Text

namespace ExprLang

/-- The token at another place. -/
def Token.shift (k : Nat) (t : Token) : Token := ⟨t.lexeme, t.offset + k, t.length⟩

namespace Lexer

/-- The tokens of a text from an offset on, after a lexeme that may touch it. -/
inductive Reads : Nat → Option Lexeme → Bool → List Char → List Token → Prop where
  | nil {offset : Nat} {last : Option Lexeme} {touching : Bool} : Reads offset last touching [] []
  | blank {offset : Nat} {last : Option Lexeme} {touching : Bool} {c : Char} {text : List Char} {ts : List Token}
      (hc : Unicode.isBlank c = true) (h : Reads (offset + c.utf8Size) last false text ts) :
      Reads offset last touching (c :: text) ts
  | token {offset : Nat} {last : Option Lexeme} {touching : Bool} {c : Char} {a text : List Char} {l : Lexeme}
      {ts : List Token} (hc : Unicode.isBlank c = false)
      (hl : lexeme? (last.all Lexeme.admitsRegex) c (a ++ text) = some (l, a.length + 1))
      (ht : (l.isOperand && touching) = false)
      (h : Reads (offset + byteLength (c :: a)) (some l) l.isOperand text ts) :
      Reads offset last touching (c :: (a ++ text)) (⟨l, offset, byteLength (c :: a)⟩ :: ts)

variable {offset : Nat} {last : Option Lexeme} {touching : Bool} {text : List Char} {ts : List Token}

/-- The scan goes on behind a lexeme. -/
theorem scan_of_lexeme? {c : Char} {a : List Char} {l : Lexeme} (hc : Unicode.isBlank c = false)
    (hl : lexeme? (last.all Lexeme.admitsRegex) c (a ++ text) = some (l, a.length + 1))
    (ht : (l.isOperand && touching) = false) :
    scan offset last touching (c :: (a ++ text)) = do
      let ts ← scan (offset + byteLength (c :: a)) (some l) l.isOperand text
      return ⟨l, offset, byteLength (c :: a)⟩ :: ts := by
  have htake : (c :: (a ++ text)).take (a.length + 1) = c :: a := by simp
  rw [scan, if_neg (by simp [hc]), hl]
  simp only [ht, htake, Nat.add_sub_cancel, List.drop_left]
  rfl

theorem scan_eq_ok_iff : scan offset last touching text = .ok ts ↔ Reads offset last touching text ts := by
  constructor
  · intro h
    fun_induction scan offset last touching text generalizing ts with
    | case1 =>
      cases h
      exact .nil
    | case2 offset last touching c text hc ih => exact .blank hc (ih h)
    | case3 => cases h
    | case4 => cases h
    | case5 offset last touching c text hc l n hl ht length =>
      rename_i ih
      rw [Parser.bind_eq_ok_iff] at h
      obtain ⟨tokens, hs, he⟩ := h
      cases he
      obtain ⟨a, b, rfl, rfl⟩ := lexeme?_split hl
      have hlength : length = byteLength (c :: a) := by
        show byteLength ((c :: (a ++ b)).take (a.length + 1)) = byteLength (c :: a)
        simp
      have hreads := ih hs
      rw [Nat.add_sub_cancel, List.drop_left, hlength] at hreads
      rw [hlength]
      exact .token (by simpa using hc) hl (by simpa using ht) hreads
  · intro h
    induction h with
    | nil => rw [scan]
    | blank hc h ih => rw [scan, if_pos hc, ih]
    | token hc hl ht h ih =>
      rw [scan_of_lexeme? hc hl ht, ih]
      rfl

namespace Reads

variable {us vs : List Token} {v : Token}

theorem byteLength_cons_pos (c : Char) (a : List Char) : 0 < byteLength (c :: a) := by
  have := c.utf8Size_pos
  rw [byteLength]
  omega

theorem le_offset (h : Reads offset last touching text ts) {t : Token} (ht : t ∈ ts) : offset ≤ t.offset := by
  induction h with
  | nil => cases ht
  | blank hc h ih => exact Nat.le_trans (Nat.le_add_right ..) (ih ht)
  | token hc hl htouch h ih =>
    rcases List.mem_cons.1 ht with rfl | ht
    · exact Nat.le_refl _
    · exact Nat.le_trans (Nat.le_add_right ..) (ih ht)

/-- The tokens stand in order and do not overlap. -/
theorem ordered (h : Reads offset last touching text ts) :
    ts.Pairwise fun t u => t.range.stop ≤ u.offset := by
  induction h with
  | nil => exact .nil
  | blank hc h ih => exact ih
  | token hc hl htouch h ih => exact .cons (fun u hu => h.le_offset hu) ih

/-- No token stops behind the text. -/
theorem stop_le (h : Reads offset last touching text ts) {t : Token} (ht : t ∈ ts) :
    t.range.stop ≤ offset + byteLength text := by
  induction h with
  | nil => cases ht
  | blank hc h ih =>
    have hstop := ih ht
    rw [byteLength]
    omega
  | @token offset last touching c a text l ts hc hl htouch h ih =>
    rw [← List.cons_append, byteLength_append]
    rcases List.mem_cons.1 ht with rfl | ht
    · simp only [Token.range, Range.stop]
      omega
    · have hstop := ih ht
      omega

/-- A text has at most as many tokens as bytes. -/
theorem length_le (h : Reads offset last touching text ts) : ts.length ≤ byteLength text := by
  induction h with
  | nil => exact Nat.le_refl _
  | blank hc h ih =>
    rw [byteLength]
    omega
  | @token offset last touching c a text l ts hc hl htouch h ih =>
    have hpos := byteLength_cons_pos c a
    rw [← List.cons_append, byteLength_append, List.length_cons]
    omega

theorem exists_shift {k : Nat} (h : Reads (offset + k) last touching text ts) :
    ∃ ts', Reads offset last touching text ts' ∧ ts = ts'.map (Token.shift k) := by
  generalize ho : offset + k = o at h
  induction h generalizing offset with
  | nil => exact ⟨[], .nil, rfl⟩
  | @blank o last touching c text ts hc h ih =>
    obtain ⟨ts', h', rfl⟩ := ih (show offset + c.utf8Size + k = o + c.utf8Size by omega)
    exact ⟨ts', .blank hc h', rfl⟩
  | @token o last touching c a text l ts hc hl htouch h ih =>
    obtain ⟨ts', h', rfl⟩ := ih (show offset + byteLength (c :: a) + k = o + byteLength (c :: a) by omega)
    refine ⟨_, .token hc hl htouch h', ?_⟩
    simp [Token.shift, ho]

/-- The first tokens are those of the text up to the end of the last of them. -/
theorem exists_prefix (h : Reads offset last touching text (us ++ vs)) :
    ∃ s s', text = s ++ s' ∧ Reads offset last touching s us ∧
      ∀ z ∈ us.getLast?, z.range.stop = offset + byteLength s := by
  generalize hts : us ++ vs = ts at h
  induction h generalizing us with
  | nil =>
    obtain ⟨rfl, rfl⟩ := List.append_eq_nil_iff.1 hts
    exact ⟨[], [], rfl, .nil, by simp⟩
  | @blank offset last touching c text ts hc h ih =>
    obtain ⟨s, s', rfl, hs, hlast⟩ := ih hts
    refine ⟨c :: s, s', rfl, .blank hc hs, fun z hz => ?_⟩
    rw [hlast z hz, byteLength]
    omega
  | @token offset last touching c a text l ts hc hl htouch h ih =>
    cases us with
    | nil => exact ⟨[], _, rfl, .nil, by simp⟩
    | cons t us =>
      rw [List.cons_append, List.cons.injEq] at hts
      obtain ⟨rfl, hts⟩ := hts
      -- The last token ends where the text is cut, the others keep what follows them.
      cases us with
      | nil =>
        refine ⟨c :: (a ++ []), text, by simp, .token hc (lexeme?_cut (b := text) ?_ ?_) htouch .nil, ?_⟩
        · simpa using hl
        · simp
        · simp [Token.range, Range.stop]
      | cons u us =>
        obtain ⟨s, s', rfl, hs, hlast⟩ := ih hts
        refine ⟨c :: (a ++ s), s', by simp, .token hc (lexeme?_cut (b := s') ?_ ?_) htouch hs, fun z hz => ?_⟩
        · simpa using hl
        · simp
        · rw [List.getLast?_cons_cons] at hz
          rw [hlast z hz]
          simp only [byteLength, byteLength_append]
          omega

/-- The last tokens are those of the text from the first of them on. -/
theorem exists_suffix (h : Reads offset last touching text (us ++ v :: vs)) :
    ∃ s s' last' touching', text = s ++ s' ∧ Reads v.offset last' touching' s' (v :: vs) ∧
      v.offset = offset + byteLength s := by
  generalize hts : us ++ v :: vs = ts at h
  induction h generalizing us with
  | nil => simp at hts
  | @blank offset last touching c text ts hc h ih =>
    obtain ⟨s, s', last', touching', rfl, hs, hoff⟩ := ih hts
    refine ⟨c :: s, s', last', touching', rfl, hs, ?_⟩
    rw [hoff, byteLength]
    omega
  | @token offset last touching c a text l ts hc hl htouch h ih =>
    cases us with
    | nil =>
      rw [List.nil_append, List.cons.injEq] at hts
      obtain ⟨rfl, rfl⟩ := hts
      exact ⟨[], _, last, touching, rfl, .token hc hl htouch h, by simp [byteLength]⟩
    | cons t us =>
      rw [List.cons_append, List.cons.injEq] at hts
      obtain ⟨rfl, hts⟩ := hts
      obtain ⟨s, s', last', touching', rfl, hs, hoff⟩ := ih hts
      refine ⟨c :: (a ++ s), s', last', touching', by simp, hs, ?_⟩
      rw [hoff]
      simp only [byteLength, byteLength_append]
      omega

/-- What stood before the first token matters only if that is a slash. -/
theorem restart (h : Reads offset last touching text (v :: vs)) (hoffset : v.offset = offset)
    (hv : v.lexeme ≠ .symbol '/') : Reads offset none false text (v :: vs) := by
  cases h with
  | @blank _ _ _ c text _ hc h =>
    have := h.le_offset (List.mem_cons_self ..)
    have := c.utf8Size_pos
    omega
  | token hc hl htouch h => exact .token hc (lexeme?_of_ne_slash hl hv) (by simp) h

/-- Tokens in the middle that do not start with a slash are those of the text from the first to the last of them. -/
theorem exists_slice {ws : List Token} (h : Reads offset last touching text (us ++ v :: vs ++ ws))
    (hv : v.lexeme ≠ .symbol '/') :
    ∃ s m s' ts, text = s ++ (m ++ s') ∧ v.offset = offset + byteLength s ∧
      (∀ z ∈ (v :: vs).getLast?, z.range.stop = v.offset + byteLength m) ∧
      Reads 0 none false m ts ∧ v :: vs = ts.map (Token.shift v.offset) := by
  rw [List.append_assoc, List.cons_append] at h
  obtain ⟨s, m, last', touching', rfl, hm, hoffset⟩ := h.exists_suffix
  rw [← List.cons_append] at hm
  obtain ⟨m, s', rfl, hm, hlast⟩ := hm.exists_prefix
  have hstart := hm.restart rfl hv
  rw [← Nat.zero_add v.offset] at hstart
  obtain ⟨ts, hts, he⟩ := hstart.exists_shift
  exact ⟨s, m, s', ts, rfl, hoffset, hlast, hts, he⟩

end Reads

end Lexer

end ExprLang
