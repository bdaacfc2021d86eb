import ExprLang.Token.Lexer
import Mathlib

/-!
# Reading one lexeme

* The first character of a lexeme calls for the scanner that reads it (`scanned_of_lexeme?`).
* A lexeme takes at least one character and no more than there are (`lexeme?_length`).
* It is read in the same way from a text that is cut off behind it (`lexeme?_cut`): the scanners stop at the first
  character that does not belong to the lexeme, and the end of the text never belongs to it.
* It is read in the same way if another text follows that starts with the same character or with white space
  (`lexeme?_change`), but for a slash where a regular expression is allowed.
* Whether a regular expression is allowed matters only for a slash (`lexeme?_of_ne_slash`).
-/

namespace ExprLang.Lexer

variable {a b b' text : List Char} {n : Nat}

/-- A text starts with white space or with the same character as another one. -/
def StartsLike (b b' : List Char) : Prop := ∀ d, b'.head? = some d → Unicode.isBlank d = true ∨ b.head? = some d

/-! ### Strings -/

theorem scanString_length {quote : Char} {s : List Char} (h : scanString quote text = some (s, n)) :
    1 ≤ n ∧ n ≤ text.length := by
  fun_induction scanString quote text generalizing s n with
  | case1 => cases h
  | case2 c text ih =>
    rw [Option.map_eq_some_iff] at h
    obtain ⟨⟨s', n'⟩, h, he⟩ := h
    cases he
    have := ih h
    simp only [List.length_cons]
    omega
  | case3 text h' =>
    cases h
    simp
  | case4 c text h' hne ih =>
    rw [Option.map_eq_some_iff] at h
    obtain ⟨⟨s', n'⟩, h, he⟩ := h
    cases he
    have := ih h
    simp only [List.length_cons]
    omega

/-- A backslash with a character behind it makes a pair. -/
theorem ne_backslash {c : Char} (htext : text ≠ []) (hpair : ∀ d rest, c = '\\' → text = d :: rest → False) :
    c ≠ '\\' := by
  intro hc
  obtain ⟨d, rest, hd⟩ := List.exists_cons_of_ne_nil htext
  exact hpair d rest hc hd

/-- A character that no backslash precedes closes the string or stands for itself. -/
theorem scanString_cons {quote c : Char} (h : c = '\\' → text = []) :
    scanString quote (c :: text) =
      if c = quote then some ([], 1) else (scanString quote text).map fun (s, n) => (c :: s, n + 1) := by
  cases text with
  | nil => simp [scanString]
  | cons d text =>
    have hc : c ≠ '\\' := fun hc => by simpa using h hc
    simp [scanString, hc]

theorem scanString_cut {quote : Char} {s : List Char} (h : scanString quote (a ++ b) = some (s, n))
    (hn : n ≤ a.length) : scanString quote a = some (s, n) := by
  -- A backslash at the end of the cut text would take a character that is not there.
  have hplain {c : Char} {a : List Char} {s : List Char} {n : Nat} (ha : ∀ d text, c = '\\' → a = d :: text → False)
      (h : scanString quote (c :: (a ++ b)) = some (s, n)) (hn : n ≤ a.length + 1) : c = '\\' → a ++ b = [] := by
    rintro rfl
    cases a with
    | cons d a => exact absurd rfl (ha d a rfl)
    | nil =>
      cases b with
      | nil => rfl
      | cons d b =>
        simp only [List.nil_append, scanString, Option.map_eq_some_iff, Prod.exists] at h
        obtain ⟨s', n', h, he⟩ := h
        cases he
        have := (scanString_length h).1
        simp only [List.length_nil] at hn
        omega
  fun_induction scanString quote a generalizing s n with
  | case1 =>
    have := (scanString_length h).1
    simp only [List.length_nil] at hn
    omega
  | case2 c a ih =>
    simp only [List.cons_append, scanString, Option.map_eq_some_iff, Prod.exists] at h ⊢
    obtain ⟨s', n', h, he⟩ := h
    refine ⟨s', n', ih h ?_, he⟩
    cases he
    simpa using hn
  | case3 a ha =>
    rw [List.cons_append] at h
    rw [scanString_cons (hplain (fun d text hc => ha d text hc) h hn), if_pos rfl] at h
    exact h
  | case4 c a ha hne ih =>
    rw [List.cons_append] at h
    rw [scanString_cons (hplain ha h hn), if_neg hne] at h
    simp only [Option.map_eq_some_iff, Prod.exists] at h ⊢
    obtain ⟨s', n', h, he⟩ := h
    refine ⟨s', n', ih h ?_, he⟩
    cases he
    simpa using hn

theorem scanString_append {quote : Char} {s : List Char} (hquote : quote ≠ '\\')
    (h : scanString quote a = some (s, n)) : scanString quote (a ++ b) = some (s, n) := by
  fun_induction scanString quote a generalizing s n with
  | case1 => cases h
  | case2 c a ih =>
    simp only [List.cons_append, scanString, Option.map_eq_some_iff, Prod.exists] at h ⊢
    obtain ⟨s', n', h, he⟩ := h
    exact ⟨s', n', ih h, he⟩
  | case3 a ha => rw [List.cons_append, scanString_cons (fun hc => absurd hc hquote), if_pos rfl, h]
  | case4 c a ha hne ih =>
    simp only [Option.map_eq_some_iff, Prod.exists] at h
    obtain ⟨s', n', h, he⟩ := h
    have hplain : c = '\\' → a ++ b = [] := by
      intro hc
      cases a with
      | nil => simp [scanString] at h
      | cons d a => exact absurd rfl (ha d a hc)
    rw [List.cons_append, scanString_cons hplain, if_neg hne, ih h, ← he]
    rfl

/-! ### Numbers and words -/

/-- White space is no part of a word. -/
theorem isWordPart_of_isBlank {c : Char} (h : Unicode.isBlank c = true) : isWordPart c = false := by
  have hrange : c.toNat ≤ 0x20 ∨ 0x80 ≤ c.toNat := by
    by_contra hout
    simp [Unicode.isBlank, Unicode.blanks, Unicode.Intervals.contains] at h
    omega
  have hne : c ≠ '_' := by
    rintro rfl
    revert hrange
    decide
  simp only [isWordPart, Char.isAlphanum, Char.isAlpha, Char.isUpper, Char.isLower, Char.isDigit, Bool.or_eq_false_iff,
    Bool.and_eq_false_iff, decide_eq_false_iff_not, UInt32.le_iff_toNat_le, ge_iff_le, beq_eq_false_iff_ne]
  refine ⟨⟨⟨?_, ?_⟩, ?_⟩, hne⟩ <;> simp <;> omega

theorem isAlpha_of_isBlank {c : Char} (h : Unicode.isBlank c = true) : c.isAlpha = false := by
  have := isWordPart_of_isBlank h
  simp only [isWordPart, Char.isAlphanum, Bool.or_eq_false_iff] at this
  exact this.1.1

theorem isDigit_of_isBlank {c : Char} (h : Unicode.isBlank c = true) : c.isDigit = false := by
  have := isWordPart_of_isBlank h
  simp only [isWordPart, Char.isAlphanum, Bool.or_eq_false_iff] at this
  exact this.1.2

/-- What is taken off the front ends where the other text behind it starts. -/
theorem takeWhile_change {p : Char → Bool} (h : ∀ d, b'.head? = some d → p d = false ∨ b.head? = some d)
    (hn : ((a ++ b).takeWhile p).length ≤ a.length) : (a ++ b').takeWhile p = (a ++ b).takeWhile p := by
  induction a with
  | nil =>
    have hb := List.eq_nil_of_length_eq_zero (Nat.le_zero.1 hn)
    rw [hb]
    cases b' with
    | nil => rfl
    | cons d b' =>
      have hd : p d = false := by
        rcases h d rfl with hd | hhead
        · exact hd
        · obtain ⟨b, rfl⟩ := List.head?_eq_some_iff.1 hhead
          by_contra hd
          simp [hd] at hb
      rw [List.nil_append, List.takeWhile_cons, hd]
      rfl
  | cons c a ih =>
    rw [List.cons_append, List.takeWhile_cons] at hn ⊢
    rw [List.cons_append, List.takeWhile_cons]
    split
    · rename_i hc
      rw [if_pos hc, List.length_cons, List.length_cons] at hn
      rw [ih (by omega)]
    · rfl

theorem dropWhile_of_takeWhile {p : Char → Bool} (h : ((a ++ b).takeWhile p).length ≤ a.length) :
    (a ++ b).dropWhile p = a.drop ((a ++ b).takeWhile p).length ++ b := by
  have happ := List.takeWhile_append_dropWhile (p := p) (l := a ++ b)
  have hdrop := congrArg (List.drop ((a ++ b).takeWhile p).length) happ
  rw [List.drop_left, List.drop_append_of_le_length h] at hdrop
  exact hdrop

theorem scanNumber_of_point {rest : List Char} (h : text.dropWhile Char.isDigit = '.' :: rest) :
    scanNumber text =
      ((Decimal.ofDigits (text.takeWhile Char.isDigit) (rest.takeWhile Char.isDigit)).toNumber false,
        (text.takeWhile Char.isDigit).length + 1 + (rest.takeWhile Char.isDigit).length) := by
  unfold scanNumber
  simp only [h]

theorem scanNumber_of_no_point (h : ∀ rest, text.dropWhile Char.isDigit ≠ '.' :: rest) :
    scanNumber text =
      ((Decimal.ofDigits (text.takeWhile Char.isDigit) []).toNumber false, (text.takeWhile Char.isDigit).length) := by
  unfold scanNumber
  split
  · rename_i rest hr
    exact absurd hr (h rest)
  · rfl

theorem length_takeWhile_add_length_dropWhile (p : Char → Bool) (text : List Char) :
    (text.takeWhile p).length + (text.dropWhile p).length = text.length := by
  rw [← List.length_append, List.takeWhile_append_dropWhile]

theorem length_takeWhile_le (p : Char → Bool) (text : List Char) : (text.takeWhile p).length ≤ text.length :=
  (List.takeWhile_prefix p).length_le

theorem scanNumber_length (text : List Char) : (scanNumber text).2 ≤ text.length := by
  have hlen := length_takeWhile_add_length_dropWhile Char.isDigit text
  by_cases h : ∃ rest, text.dropWhile Char.isDigit = '.' :: rest
  · obtain ⟨rest, h⟩ := h
    have := length_takeWhile_le Char.isDigit rest
    rw [scanNumber_of_point h]
    rw [h, List.length_cons] at hlen
    simp only
    omega
  · rw [scanNumber_of_no_point (not_exists.1 h)]
    simp only
    omega

/-- A number is read in the same way if another text follows that starts alike. -/
theorem scanNumber_change (hb : StartsLike b b') (hn : (scanNumber (a ++ b)).2 ≤ a.length) :
    scanNumber (a ++ b') = scanNumber (a ++ b) := by
  have hstop (d : Char) (hd : b'.head? = some d) : d.isDigit = false ∨ b.head? = some d :=
    (hb d hd).imp_left isDigit_of_isBlank
  have hwhole : ((a ++ b).takeWhile Char.isDigit).length ≤ (scanNumber (a ++ b)).2 := by
    by_cases h : ∃ rest, (a ++ b).dropWhile Char.isDigit = '.' :: rest
    · obtain ⟨rest, h⟩ := h
      rw [scanNumber_of_point h]
      simp only
      omega
    · exact Nat.le_of_eq (congrArg Prod.snd (scanNumber_of_no_point (not_exists.1 h))).symm
  have hle := Nat.le_trans hwhole hn
  have htake := takeWhile_change hstop hle
  have hdrop := dropWhile_of_takeWhile hle
  have hdrop' := dropWhile_of_takeWhile (a := a) (b := b') (p := Char.isDigit) (by rwa [htake])
  rw [htake] at hdrop'
  cases hd : a.drop ((a ++ b).takeWhile Char.isDigit).length with
  | nil =>
    -- The digits go up to the other text, which does not start with a point then.
    rw [hd, List.nil_append] at hdrop hdrop'
    have hlen : a.length ≤ ((a ++ b).takeWhile Char.isDigit).length := List.drop_eq_nil_iff.1 hd
    have hpoint : ∀ rest, (a ++ b).dropWhile Char.isDigit ≠ '.' :: rest := by
      intro rest h
      rw [scanNumber_of_point h] at hn
      simp only at hn
      omega
    have hpoint' : ∀ rest, (a ++ b').dropWhile Char.isDigit ≠ '.' :: rest := by
      intro rest h
      rw [hdrop'] at h
      rcases hb '.' (by rw [h]; rfl) with hblank | hhead
      · revert hblank
        decide
      · obtain ⟨more, hmore⟩ := List.head?_eq_some_iff.1 hhead
        exact hpoint more (hdrop.trans hmore)
    rw [scanNumber_of_no_point hpoint', scanNumber_of_no_point hpoint, htake]
  | cons d rest =>
    rw [hd, List.cons_append] at hdrop hdrop'
    have hlen := congrArg List.length hd
    rw [List.length_drop, List.length_cons] at hlen
    by_cases hp : d = '.'
    · subst hp
      rw [scanNumber_of_point hdrop] at hn ⊢
      rw [scanNumber_of_point hdrop', htake, takeWhile_change hstop (by simp only at hn; omega)]
    · have hne (more : List Char) : ∀ rest', d :: more ≠ '.' :: rest' := by
        intro rest' h
        cases h
        exact hp rfl
      rw [scanNumber_of_no_point (by rw [hdrop']; exact hne _), scanNumber_of_no_point (by rw [hdrop]; exact hne _),
        htake]

/-- The lexeme of a word is a literal or an identifier. -/
theorem isOperand_of_wordLexeme? {word : String} {l : Lexeme} (h : wordLexeme? word = some l) : l.isOperand = true := by
  unfold wordLexeme? at h
  split at h
  case h_7 =>
    split at h
    · cases h
    · cases h
      rfl
  all_goals
    cases h
    rfl

/-! ### Regular expressions -/

theorem scanPattern_lt {inSet : Bool} (h : scanPattern inSet text = some n) : n < text.length := by
  fun_induction scanPattern inSet text generalizing n with
  | case1 => cases h
  | case2 inSet d text ih =>
    rw [Option.map_eq_some_iff] at h
    obtain ⟨n, h, rfl⟩ := h
    have := ih h
    simp only [List.length_cons]
    omega
  | case3 => cases h
  | case4 =>
    cases h
    simp
  | case5 inSet c text h₁ h₂ h₃ ih =>
    rw [Option.map_eq_some_iff] at h
    obtain ⟨n, h, rfl⟩ := h
    have := ih h
    simp only [List.length_cons]
    omega

/-- A character that no backslash precedes. -/
theorem scanPattern_cons {inSet : Bool} {c : Char} (h : c = '\\' → text = []) :
    scanPattern inSet (c :: text) =
      if c = '\n' ∨ c = '\r' then none
      else if c = '/' ∧ !inSet then some 0
      else (scanPattern (if c = '[' then true else if c = ']' then false else inSet) text).map (· + 1) := by
  cases text with
  | nil => simp [scanPattern]
  | cons d text =>
    have hc : c ≠ '\\' := fun hc => by simpa using h hc
    simp [scanPattern, hc]

theorem scanPattern_cut {inSet : Bool} (h : scanPattern inSet (a ++ b) = some n) (hn : n < a.length) :
    scanPattern inSet a = some n := by
  -- As in a string, a backslash at the end of the cut text would reach beyond it.
  have hplain {c : Char} {a : List Char} {inSet : Bool} {n : Nat} (ha : ∀ d text, c = '\\' → a = d :: text → False)
      (h : scanPattern inSet (c :: (a ++ b)) = some n) (hn : n < a.length + 1) : c = '\\' → a ++ b = [] := by
    rintro rfl
    cases a with
    | cons d a => exact absurd rfl (ha d a rfl)
    | nil =>
      cases b with
      | nil => rfl
      | cons d b =>
        simp only [List.nil_append, scanPattern, Option.map_eq_some_iff] at h
        obtain ⟨n', h, rfl⟩ := h
        simp at hn
  fun_induction scanPattern inSet a generalizing n with
  | case1 => simp at hn
  | case2 inSet d a ih =>
    simp only [List.cons_append, scanPattern, Option.map_eq_some_iff] at h ⊢
    obtain ⟨n, h, rfl⟩ := h
    exact ⟨n, ih h (by simpa using hn), rfl⟩
  | case3 inSet c a ha hc =>
    rw [List.cons_append, scanPattern_cons (hplain (fun d text hc => ha d text hc) h hn), if_pos hc] at h
    cases h
  | case4 inSet c a ha hc hclose =>
    rw [List.cons_append, scanPattern_cons (hplain ha h hn), if_neg hc, if_pos hclose] at h
    exact h
  | case5 inSet c a ha hc hclose ih =>
    rw [List.cons_append, scanPattern_cons (hplain ha h hn), if_neg hc, if_neg hclose] at h
    rw [Option.map_eq_some_iff] at h ⊢
    obtain ⟨n, h, rfl⟩ := h
    exact ⟨n, ih h (by simpa using hn), rfl⟩

theorem scanPattern_append {inSet : Bool} (h : scanPattern inSet a = some n) :
    scanPattern inSet (a ++ b) = some n := by
  fun_induction scanPattern inSet a generalizing n with
  | case1 => cases h
  | case2 inSet d a ih =>
    simp only [List.cons_append, scanPattern, Option.map_eq_some_iff] at h ⊢
    obtain ⟨n, h, rfl⟩ := h
    exact ⟨n, ih h, rfl⟩
  | case3 => cases h
  | case4 inSet c a ha hc hclose =>
    rw [List.cons_append, scanPattern_cons (by rintro rfl; simp at hclose), if_neg hc, if_pos hclose]
    exact h
  | case5 inSet c a ha hc hclose ih =>
    rw [Option.map_eq_some_iff] at h
    obtain ⟨n, h, rfl⟩ := h
    have hplain : c = '\\' → a ++ b = [] := by
      intro hs
      cases a with
      | nil => simp [scanPattern] at h
      | cons d a => exact absurd rfl (ha d a hs)
    rw [List.cons_append, scanPattern_cons hplain, if_neg hc, if_neg hclose, ih h]
    rfl

theorem scanRegex_eq_some_iff {pattern flags : List Char} :
    scanRegex text = some (pattern, flags, n) ↔
      ∃ k, scanPattern false text = some (k + 1) ∧ pattern = text.take (k + 1) ∧
        flags = (text.drop (k + 2)).takeWhile Char.isAlpha ∧ n = k + 2 + flags.length := by
  unfold scanRegex
  cases h : scanPattern false text with
  | none => simp
  | some k =>
    cases k with
    | zero => simp
    | succ k =>
      simp only [Option.some.injEq, Prod.mk.injEq, Nat.add_right_cancel_iff, exists_eq_left']
      constructor
      · rintro ⟨rfl, rfl, rfl⟩
        exact ⟨rfl, rfl, rfl⟩
      · rintro ⟨rfl, rfl, rfl⟩
        exact ⟨rfl, rfl, rfl⟩

theorem scanRegex_length {pattern flags : List Char} (h : scanRegex text = some (pattern, flags, n)) :
    n ≤ text.length := by
  obtain ⟨k, hk, -, rfl, rfl⟩ := scanRegex_eq_some_iff.1 h
  have hlt := scanPattern_lt hk
  have := length_takeWhile_le Char.isAlpha (text.drop (k + 2))
  rw [List.length_drop] at this
  omega

theorem scanRegex_change {pattern flags : List Char} (hb : StartsLike b b')
    (h : scanRegex (a ++ b) = some (pattern, flags, n)) (hn : n ≤ a.length) :
    scanRegex (a ++ b') = some (pattern, flags, n) := by
  obtain ⟨k, hk, rfl, rfl, rfl⟩ := scanRegex_eq_some_iff.1 h
  have hlen : k + 2 ≤ a.length := by omega
  rw [List.drop_append_of_le_length hlen] at hn ⊢
  have hflags : ((a.drop (k + 2) ++ b).takeWhile Char.isAlpha).length ≤ (a.drop (k + 2)).length := by
    rw [List.length_drop]
    omega
  have hchange := takeWhile_change (fun d hd => (hb d hd).imp_left isAlpha_of_isBlank) hflags
  refine scanRegex_eq_some_iff.2 ⟨k, scanPattern_append (scanPattern_cut hk (by omega)), ?_, ?_, rfl⟩
  · rw [List.take_append_of_le_length (by omega), List.take_append_of_le_length (by omega)]
  · rw [List.drop_append_of_le_length hlen, hchange]

theorem scanRegex_append_eq_none (h : scanRegex (a ++ b) = none) : scanRegex a = none := by
  cases ha : scanRegex a with
  | none => rfl
  | some x =>
    obtain ⟨pattern, flags, n⟩ := x
    obtain ⟨k, hk, -⟩ := scanRegex_eq_some_iff.1 ha
    have hsome := scanRegex_eq_some_iff.2 ⟨k, scanPattern_append (b := b) hk, rfl, rfl, rfl⟩
    rw [h] at hsome
    cases hsome

/-! ### Lexemes -/

/-- Whether a number starts with a character in front of a text. -/
def startsNumber (c : Char) (text : List Char) : Prop := c.isDigit ∨ (c = '.' ∧ text.head?.any Char.isDigit)

section
variable {c : Char} {allowed : Bool} {l : Lexeme}

theorem lexeme?_of_quote (h : c = '\x27' ∨ c = '\x22') :
    lexeme? allowed c text =
      (scanString c text).map fun (s, n) => (.literal (.string (String.ofList s)), n + 1) := by
  unfold lexeme?
  rw [if_pos h]

theorem lexeme?_of_startsNumber (hq : ¬ (c = '\x27' ∨ c = '\x22')) (h : startsNumber c text) :
    lexeme? allowed c text = some (.literal (.number (scanNumber (c :: text)).1), (scanNumber (c :: text)).2) := by
  unfold startsNumber at h
  unfold lexeme?
  rw [if_neg hq, if_pos h]

theorem lexeme?_of_isWordStart (hq : ¬ (c = '\x27' ∨ c = '\x22')) (hd : ¬ startsNumber c text)
    (h : isWordStart c) :
    lexeme? allowed c text =
      (wordLexeme? (String.ofList ((c :: text).takeWhile isWordPart))).map
        (·, ((c :: text).takeWhile isWordPart).length) := by
  unfold startsNumber at hd
  unfold lexeme?
  rw [if_neg hq, if_neg hd, if_pos h]

theorem lexeme?_of_scanRegex {pattern flags : List Char} (h : scanRegex text = some (pattern, flags, n)) :
    lexeme? true '/' text = some (.regex (String.ofList pattern) (String.ofList flags), n + 1) := by
  have hw : isWordStart '/' = false := by decide
  simp [lexeme?, hw, h]

theorem lexeme?_of_scanRegex_eq_none (h : scanRegex text = none) :
    lexeme? true '/' text = some (.symbol '/', 1) := by
  have hw : isWordStart '/' = false := by decide
  simp [lexeme?, hw, h]

theorem lexeme?_of_symbol (hq : ¬ (c = '\x27' ∨ c = '\x22')) (hd : ¬ startsNumber c text)
    (hw : ¬ isWordStart c) (h : ¬ (c = '/' ∧ allowed)) :
    lexeme? allowed c text = if symbols.contains c then some (.symbol c, 1) else none := by
  unfold startsNumber at hd
  unfold lexeme?
  rw [if_neg hq, if_neg hd, if_neg hw, if_neg h]

/-- What is read at a character: what the scanner gives that the character calls for. -/
inductive Scanned (allowed : Bool) (c : Char) (text : List Char) : Lexeme → Nat → Prop where
  | string {s : List Char} {k : Nat} (hq : c = '\x27' ∨ c = '\x22') (hs : scanString c text = some (s, k)) :
      Scanned allowed c text (.literal (.string (String.ofList s))) (k + 1)
  | number (hd : startsNumber c text) :
      Scanned allowed c text (.literal (.number (scanNumber (c :: text)).1)) (scanNumber (c :: text)).2
  | word {l : Lexeme} (hw : isWordStart c)
      (hl : wordLexeme? (String.ofList ((c :: text).takeWhile isWordPart)) = some l) :
      Scanned allowed c text l ((c :: text).takeWhile isWordPart).length
  | regex {pattern flags : List Char} {k : Nat} (hc : c = '/') (hr : scanRegex text = some (pattern, flags, k)) :
      Scanned allowed c text (.regex (String.ofList pattern) (String.ofList flags)) (k + 1)
  | symbol (hq : ¬ (c = '\x27' ∨ c = '\x22')) (hd : ¬ startsNumber c text) (hw : ¬ isWordStart c)
      (hc : symbols.contains c) : Scanned allowed c text (.symbol c) 1

theorem scanned_of_lexeme? (h : lexeme? allowed c text = some (l, n)) : Scanned allowed c text l n := by
  by_cases hq : c = '\x27' ∨ c = '\x22'
  · rw [lexeme?_of_quote hq, Option.map_eq_some_iff] at h
    obtain ⟨⟨s, k⟩, hs, he⟩ := h
    cases he
    exact .string hq hs
  by_cases hd : startsNumber c text
  · rw [lexeme?_of_startsNumber hq hd] at h
    cases h
    exact .number hd
  by_cases hw : isWordStart c
  · rw [lexeme?_of_isWordStart hq hd hw, Option.map_eq_some_iff] at h
    obtain ⟨w, hl, he⟩ := h
    cases he
    exact .word hw hl
  by_cases hs : c = '/' ∧ allowed
  · obtain ⟨rfl, rfl⟩ := hs
    cases hr : scanRegex text with
    | none =>
      rw [lexeme?_of_scanRegex_eq_none hr] at h
      cases h
      exact .symbol hq hd hw (by decide)
    | some x =>
      rw [lexeme?_of_scanRegex hr] at h
      cases h
      exact .regex rfl hr
  rw [lexeme?_of_symbol hq hd hw hs] at h
  split at h
  · cases h
    exact .symbol hq hd hw ‹_›
  · cases h

theorem isWordPart_of_isWordStart (h : isWordStart c) : isWordPart c := by
  simp only [isWordStart, isWordPart, Char.isAlphanum, Bool.or_eq_true] at h ⊢
  tauto

/-- A number takes a character, and two if it starts with a point. -/
theorem scanNumber_pos (h : startsNumber c text) :
    (if c.isDigit then 1 else 2) ≤ (scanNumber (c :: text)).2 := by
  by_cases hc : c.isDigit
  · rw [if_pos hc]
    have hw : 1 ≤ ((c :: text).takeWhile Char.isDigit).length := by
      rw [List.takeWhile_cons, if_pos hc, List.length_cons]
      omega
    by_cases hp : ∃ rest, (c :: text).dropWhile Char.isDigit = '.' :: rest
    · obtain ⟨rest, hp⟩ := hp
      rw [scanNumber_of_point hp]
      simp only
      omega
    · rw [scanNumber_of_no_point (not_exists.1 hp)]
      exact hw
  · rw [if_neg hc]
    obtain ⟨rfl, hd⟩ := h.resolve_left hc
    cases text with
    | nil => simp at hd
    | cons d text =>
      have hd : d.isDigit = true := by simpa using hd
      have hdrop : ('.' :: d :: text).dropWhile Char.isDigit = '.' :: d :: text := by
        rw [List.dropWhile_cons, if_neg (by decide)]
      rw [scanNumber_of_point hdrop, @List.takeWhile_cons _ _ d, if_pos hd, List.length_cons]
      simp only
      omega

/-- A lexeme takes a character, and no more than there are. -/
theorem lexeme?_length (h : lexeme? allowed c text = some (l, n)) : 1 ≤ n ∧ n ≤ text.length + 1 := by
  cases scanned_of_lexeme? h with
  | string hq hs =>
    have := scanString_length hs
    omega
  | number hd =>
    have hpos := scanNumber_pos hd
    have hle := scanNumber_length (c :: text)
    rw [List.length_cons] at hle
    refine ⟨Nat.le_trans ?_ hpos, hle⟩
    split <;> omega
  | word hw hl =>
    have hle := length_takeWhile_le isWordPart (c :: text)
    rw [List.takeWhile_cons, if_pos (isWordPart_of_isWordStart hw), List.length_cons, List.length_cons] at *
    omega
  | regex hc hr =>
    have := scanRegex_length hr
    omega
  | symbol =>
    omega

/-- A lexeme divides the text behind its first character. -/
theorem lexeme?_split (h : lexeme? allowed c text = some (l, n)) : ∃ a b, text = a ++ b ∧ n = a.length + 1 := by
  have hlen := lexeme?_length h
  refine ⟨text.take (n - 1), text.drop (n - 1), (List.take_append_drop ..).symm, ?_⟩
  rw [List.length_take]
  omega

theorem not_startsNumber_change (hb : StartsLike b b') (h : ¬ startsNumber c (a ++ b)) :
    ¬ startsNumber c (a ++ b') := by
  rintro (hc | ⟨rfl, hc⟩)
  · exact h (.inl hc)
  · refine h (.inr ⟨rfl, ?_⟩)
    cases a with
    | cons d a => exact hc
    | nil =>
      obtain ⟨d, hd, hdigit⟩ := (Option.any_eq_true ..).1 hc
      rcases hb d hd with hblank | hhead
      · rw [isDigit_of_isBlank hblank] at hdigit
        cases hdigit
      · rw [List.nil_append, hhead]
        exact hdigit

/-- A lexeme is read in the same way if another text follows that starts alike.  Only a slash that opens no regular
expression because none ends in the text may open one in the other text. -/
theorem lexeme?_change (hb : StartsLike b b') (h : lexeme? allowed c (a ++ b) = some (l, a.length + 1))
    (hl : l = .symbol '/' → allowed = false) : lexeme? allowed c (a ++ b') = some (l, a.length + 1) := by
  by_cases hq : c = '\x27' ∨ c = '\x22'
  · rw [lexeme?_of_quote hq, Option.map_eq_some_iff] at h ⊢
    obtain ⟨⟨s, k⟩, hs, he⟩ := h
    have hk : k = a.length := by simpa using congrArg Prod.snd he
    have hquote : c ≠ '\\' := by rcases hq with rfl | rfl <;> decide
    exact ⟨(s, k), scanString_append hquote (scanString_cut hs (Nat.le_of_eq hk)), he⟩
  by_cases hd : startsNumber c (a ++ b)
  · rw [lexeme?_of_startsNumber hq hd] at h
    have hn : (scanNumber (c :: (a ++ b))).2 = a.length + 1 := congrArg Prod.snd (Option.some.inj h)
    have hd' : startsNumber c (a ++ b') := by
      rcases hd with hc | ⟨rfl, hc⟩
      · exact .inl hc
      · have hpos := scanNumber_pos (.inr ⟨rfl, hc⟩)
        rw [if_neg (by decide), hn] at hpos
        cases a with
        | nil => simp at hpos
        | cons d a => exact .inr ⟨rfl, hc⟩
    have hchange := scanNumber_change (a := c :: a) hb (Nat.le_of_eq hn)
    rw [List.cons_append, List.cons_append] at hchange
    rw [lexeme?_of_startsNumber hq hd', hchange, h]
  have hd' := not_startsNumber_change hb hd
  by_cases hw : isWordStart c
  · rw [lexeme?_of_isWordStart hq hd hw] at h
    obtain ⟨w, -, he⟩ := Option.map_eq_some_iff.1 h
    have hn : ((c :: a ++ b).takeWhile isWordPart).length = (c :: a).length := congrArg Prod.snd he
    have hstop (d : Char) (hd : b'.head? = some d) : isWordPart d = false ∨ b.head? = some d :=
      (hb d hd).imp_left isWordPart_of_isBlank
    have hchange := takeWhile_change hstop (Nat.le_of_eq hn)
    rw [List.cons_append, List.cons_append] at hchange
    rw [lexeme?_of_isWordStart hq hd' hw, hchange, h]
  by_cases hs : c = '/' ∧ allowed
  · obtain ⟨rfl, rfl⟩ := hs
    cases hr : scanRegex (a ++ b) with
    | none =>
      rw [lexeme?_of_scanRegex_eq_none hr] at h
      have hsymbol : Lexeme.symbol '/' = l := congrArg Prod.fst (Option.some.inj h)
      cases hl hsymbol.symm
    | some x =>
      obtain ⟨pattern, flags, k⟩ := x
      rw [lexeme?_of_scanRegex hr] at h
      have hk : k + 1 = a.length + 1 := congrArg Prod.snd (Option.some.inj h)
      rw [lexeme?_of_scanRegex (scanRegex_change hb hr (by omega)), h]
  rw [lexeme?_of_symbol hq hd hw hs] at h
  rw [lexeme?_of_symbol hq hd' hw hs, h]

/-- A lexeme is read in the same way from a text that is cut off behind it. -/
theorem lexeme?_cut (h : lexeme? allowed c (a ++ b) = some (l, n)) (hn : n ≤ a.length + 1) :
    lexeme? allowed c a = some (l, n) := by
  by_cases hl : l = .symbol '/' ∧ allowed = true
  · -- No regular expression ends in the text, so none ends in a part of it.
    obtain ⟨rfl, rfl⟩ := hl
    cases scanned_of_lexeme? h with
    | word hw hl => cases isOperand_of_wordLexeme? hl
    | symbol =>
      cases hr : scanRegex (a ++ b) with
      | none => exact lexeme?_of_scanRegex_eq_none (scanRegex_append_eq_none hr)
      | some x =>
        rw [lexeme?_of_scanRegex hr] at h
        cases h
  · obtain ⟨a₁, rest, hsplit, rfl⟩ := lexeme?_split h
    obtain ⟨a₂, rfl, rfl⟩ : ∃ a₂, a = a₁ ++ a₂ ∧ rest = a₂ ++ b := by
      rcases List.append_eq_append_iff.1 hsplit with ⟨m, rfl, rfl⟩ | ⟨m, rfl, rfl⟩
      · rw [List.length_append] at hn
        have hm : m = [] := List.eq_nil_of_length_eq_zero (by omega)
        subst hm
        exact ⟨[], by simp, by simp⟩
      · exact ⟨m, rfl, rfl⟩
    have hstart : StartsLike (a₂ ++ b) a₂ := fun d hd => .inr (by rw [List.head?_append, hd, Option.some_or])
    rw [hsplit] at h
    exact lexeme?_change hstart h fun he => by simpa [he] using hl

/-- Unless a slash is read as a symbol, a text is read in the same way where a regular expression is allowed. -/
theorem lexeme?_of_ne_slash (h : lexeme? allowed c text = some (l, n)) (hl : l ≠ .symbol '/') :
    lexeme? true c text = some (l, n) := by
  cases allowed with
  | true => exact h
  | false =>
    by_cases hc : c = '/'
    · subst hc
      have hw : ¬ isWordStart '/' := by decide
      rw [lexeme?_of_symbol (by decide) (by rintro (h | ⟨h, -⟩) <;> exact absurd h (by decide)) hw (by simp),
        if_pos (by decide)] at h
      cases h
      exact absurd rfl hl
    · rw [← h]
      unfold lexeme?
      simp only [hc, false_and, if_false]

end

end ExprLang.Lexer
