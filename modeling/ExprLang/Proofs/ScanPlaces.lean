import ExprLang.Proofs.Tokenizing

/-!
# Places that the scan comes to

* `Lexer.Run` leads from one place in a text to another by single steps, each over a character of white space or over
  a lexeme.  The scan comes to the start of every token (`Lexer.Reads.exists_run`), and when it fails, to a place where
  it cannot go on (`Lexer.exists_run_of_scan_eq_error`).
* What lies before a place that the scan comes to is read in the same way when the text ends there, and the scan knows
  whether an operand ends right at the place (`Lexer.Run.exists_prefix`).
-/

open ExprLang.Text

namespace ExprLang.Lexer

/-- A place in a text: its offset, the lexeme before it, whether that is an operand that touches it, and the text
from there on. -/
structure Place where
  offset : Nat
  last : Option Lexeme
  touching : Bool
  text : List Char

/-- The scan goes from one place to another and finds tokens on the way. -/
inductive Run : Place → List Token → Place → Prop where
  | refl (p : Place) : Run p [] p
  | blank {offset : Nat} {last : Option Lexeme} {touching : Bool} {c : Char} {text : List Char} {ts : List Token}
      {q : Place} (hc : Unicode.isBlank c = true) (h : Run ⟨offset + c.utf8Size, last, false, text⟩ ts q) :
      Run ⟨offset, last, touching, c :: text⟩ ts q
  | token {offset : Nat} {last : Option Lexeme} {touching : Bool} {c : Char} {a text : List Char} {l : Lexeme}
      {ts : List Token} {q : Place} (hc : Unicode.isBlank c = false)
      (hl : lexeme? (last.all Lexeme.admitsRegex) c (a ++ text) = some (l, a.length + 1))
      (ht : (l.isOperand && touching) = false)
      (h : Run ⟨offset + byteLength (c :: a), some l, l.isOperand, text⟩ ts q) :
      Run ⟨offset, last, touching, c :: (a ++ text)⟩ (⟨l, offset, byteLength (c :: a)⟩ :: ts) q

/-- The last of the tokens is an operand that ends at an offset. -/
def EndsWithOperand (ts : List Token) (offset : Nat) : Prop :=
  ∃ t, ts.getLast? = some t ∧ t.lexeme.isOperand = true ∧ t.range.stop = offset

theorem not_endsWithOperand_nil {offset : Nat} : ¬ EndsWithOperand [] offset := by
  rintro ⟨t, ht, -⟩
  cases ht

theorem endsWithOperand_cons {t u : Token} {ts : List Token} {offset : Nat} :
    EndsWithOperand (t :: u :: ts) offset ↔ EndsWithOperand (u :: ts) offset := by
  unfold EndsWithOperand
  rw [List.getLast?_cons_cons]

theorem endsWithOperand_singleton {t : Token} {offset : Nat} :
    EndsWithOperand [t] offset ↔ t.lexeme.isOperand = true ∧ t.range.stop = offset := by
  simp [EndsWithOperand]

theorem byteLength_eq_zero {s : List Char} (h : byteLength s = 0) : s = [] := by
  cases s with
  | nil => rfl
  | cons c s =>
    have := Reads.byteLength_cons_pos c s
    omega

theorem Reads.eq_nil {offset : Nat} {last : Option Lexeme} {touching : Bool} {ts : List Token}
    (h : Reads offset last touching [] ts) : ts = [] := by
  cases h
  rfl

/-- What the scan has passed is a text with the same tokens, and the place tells whether an operand ends at it. -/
theorem Run.exists_prefix {p q : Place} {ts : List Token} (h : Run p ts q) :
    ∃ s, p.text = s ++ q.text ∧ q.offset = p.offset + byteLength s ∧ Reads p.offset p.last p.touching s ts ∧
      (q.touching = true ↔ EndsWithOperand ts q.offset ∨ (p.touching = true ∧ s = [])) := by
  induction h with
  | refl p => exact ⟨[], rfl, rfl, .nil, by simp [not_endsWithOperand_nil]⟩
  | @blank offset last touching c text ts q hc h ih =>
    obtain ⟨s, htext, hoffset, hs, htouching⟩ := ih
    simp only at htext hoffset hs htouching
    refine ⟨c :: s, by simp [htext], ?_, .blank hc hs, by simpa using htouching⟩
    simp only [byteLength]
    omega
  | @token offset last touching c a text l ts q hc hl ht h ih =>
    obtain ⟨s, htext, hoffset, hs, htouching⟩ := ih
    simp only at htext hoffset hs htouching
    rw [htext, ← List.append_assoc] at hl
    refine ⟨c :: (a ++ s), by simp [htext], ?_, .token hc (lexeme?_cut hl (by simp)) ht hs, ?_⟩
    · simp only [byteLength, byteLength_append] at hoffset ⊢
      omega
    · rw [htouching]
      simp only [List.cons_ne_nil, and_false, or_false]
      cases ts with
      | nil =>
        -- No token follows: the place lies behind the lexeme itself or behind white space after it.
        rw [endsWithOperand_singleton]
        simp only [not_endsWithOperand_nil, false_or, Token.range, Range.stop]
        refine and_congr_right fun _ => ⟨?_, fun he => byteLength_eq_zero (by omega)⟩
        rintro rfl
        simpa [byteLength] using hoffset.symm
      | cons u ts =>
        rw [endsWithOperand_cons]
        refine or_iff_left ?_
        rintro ⟨-, rfl⟩
        cases hs.eq_nil

/-- The scan knows the last lexeme that it has passed. -/
theorem Run.last_eq {p q : Place} {ts : List Token} (h : Run p ts q) :
    q.last = (ts.getLast?.map Token.lexeme).or p.last := by
  induction h with
  | refl p => rfl
  | blank hc h ih => exact ih
  | @token _ _ _ _ _ _ l ts q _ _ _ h ih =>
    rw [ih]
    cases ts with
    | nil => rfl
    | cons u ts => simp [List.getLast?_cons]

/-- The scan comes to the start of every token. -/
theorem Reads.exists_run {offset : Nat} {last : Option Lexeme} {touching : Bool} {text : List Char} {us vs : List Token}
    {t : Token} (h : Reads offset last touching text (us ++ t :: vs)) :
    ∃ q c a b, Run ⟨offset, last, touching, text⟩ us q ∧ q.offset = t.offset ∧ q.text = c :: (a ++ b) ∧
      t.length = byteLength (c :: a) ∧ Unicode.isBlank c = false ∧
      lexeme? (q.last.all Lexeme.admitsRegex) c (a ++ b) = some (t.lexeme, a.length + 1) ∧
      (t.lexeme.isOperand && q.touching) = false := by
  generalize hts : us ++ t :: vs = ts at h
  induction h generalizing us with
  | nil => simp at hts
  | blank hc h ih =>
    obtain ⟨q, c, a, b, hrun, hq⟩ := ih hts
    exact ⟨q, c, a, b, .blank hc hrun, hq⟩
  | @token offset last touching c a text l ts hc hl ht h ih =>
    cases us with
    | nil =>
      rw [List.nil_append, List.cons.injEq] at hts
      obtain ⟨rfl, rfl⟩ := hts
      exact ⟨_, c, a, text, .refl _, rfl, rfl, rfl, hc, hl, ht⟩
    | cons u us =>
      rw [List.cons_append, List.cons.injEq] at hts
      obtain ⟨rfl, hts⟩ := hts
      obtain ⟨q, c', a', b, hrun, hq⟩ := ih hts
      exact ⟨q, c', a', b, .token hc hl ht hrun, hq⟩

/-- A place where the scan fails: no lexeme can be read, or an operand touches another one. -/
def Place.Fails (p : Place) : Prop :=
  ∃ c text, p.text = c :: text ∧ Unicode.isBlank c = false ∧
    (lexeme? (p.last.all Lexeme.admitsRegex) c text = none ∨
      ∃ l n, lexeme? (p.last.all Lexeme.admitsRegex) c text = some (l, n) ∧ l.isOperand = true ∧ p.touching = true)

/-- A scan that fails does so at the place that its error blames. -/
theorem exists_run_of_scan_eq_error {offset : Nat} {last : Option Lexeme} {touching : Bool} {text : List Char}
    {e : SyntaxError} (h : scan offset last touching text = .error e) :
    ∃ ts q, Run ⟨offset, last, touching, text⟩ ts q ∧ q.Fails ∧ e = .invalidToken q.offset := by
  fun_induction scan offset last touching text with
  | case1 => cases h
  | case2 offset last touching c text hc ih =>
    obtain ⟨ts, q, hrun, hq⟩ := ih h
    exact ⟨ts, q, .blank hc hrun, hq⟩
  | case3 offset last touching c text hc hl =>
    cases h
    exact ⟨[], _, .refl _, ⟨c, text, rfl, by simpa using hc, .inl hl⟩, rfl⟩
  | case4 offset last touching c text hc l n hl ht =>
    cases h
    rw [Bool.and_eq_true] at ht
    exact ⟨[], _, .refl _, ⟨c, text, rfl, by simpa using hc, .inr ⟨l, n, hl, ht⟩⟩, rfl⟩
  | case5 offset last touching c text hc l n hl ht length =>
    rename_i ih
    obtain ⟨a, b, rfl, rfl⟩ := lexeme?_split hl
    have hlength : length = byteLength (c :: a) := by
      show byteLength ((c :: (a ++ b)).take (a.length + 1)) = byteLength (c :: a)
      simp
    rw [Nat.add_sub_cancel, List.drop_left, hlength] at h ih
    have hrest : scan (offset + byteLength (c :: a)) (some l) l.isOperand b = .error e := by
      rcases hs : scan (offset + byteLength (c :: a)) (some l) l.isOperand b with e' | tokens
      · rw [hs] at h
        cases h
        rfl
      · rw [hs] at h
        cases h
    obtain ⟨ts, q, hrun, hq⟩ := ih hrest
    exact ⟨_, q, .token (by simpa using hc) hl (by simpa using ht) hrun, hq⟩

end ExprLang.Lexer
