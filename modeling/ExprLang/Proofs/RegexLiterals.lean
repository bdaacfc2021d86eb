import ExprLang.Proofs.TokenSlices

/-!
# The text of a regular expression

A regular expression stands between slashes, and its flags are all letters behind the closing one
(`Lexer.scanRegex_eq_some_iff_text`).  A pattern is read from left to right: a backslash makes a pair with the
character behind it, whatever that is, and the other characters open and close brackets.  Outside of the pairs there is
no line end, and no slash but between brackets (`Lexer.IsPattern`).  Within a pair a line end is let through, so a
pattern is of one line if and only if no backslash stands before a line end (`Lexer.oneLine_iff`).
-/

open ExprLang.Text

namespace ExprLang

namespace Lexer

/-- The characters outside of the pairs of a backslash and another character. -/
def unpaired : List Char → List Char
  | [] => []
  | '\\' :: _ :: text => unpaired text
  | c :: text => c :: unpaired text

/-- The characters behind the backslashes of pairs. -/
def escaped : List Char → List Char
  | [] => []
  | '\\' :: c :: text => c :: escaped text
  | _ :: text => escaped text

/-- Whether the next character stands between brackets. -/
def afterBracket (inSet : Bool) (c : Char) : Bool := if c = '[' then true else if c = ']' then false else inSet

/-- Whether the end of a text stands between brackets, if its start does or does not. -/
def endsInSet (inSet : Bool) (text : List Char) : Bool := text.foldl afterBracket inSet

def IsLineEnd (c : Char) : Prop := c = '\n' ∨ c = '\r'

/-- The rest of a pattern from a place on that stands between brackets or not.  Outside of pairs it has no backslash, no
line end, and no slash but between brackets, and its end stands outside of brackets. -/
structure IsPattern (inSet : Bool) (pattern : List Char) : Prop where
  paired : '\\' ∉ unpaired pattern
  oneLine : ∀ c ∈ unpaired pattern, ¬ IsLineEnd c
  slashes : ∀ before after, unpaired pattern = before ++ '/' :: after → endsInSet inSet before = true
  closed : endsInSet inSet (unpaired pattern) = false

variable {inSet : Bool} {c : Char} {text pattern flags : List Char} {n : Nat}

/-! ### Pairs and other characters -/

theorem unpaired_cons (h : c = '\\' → text = []) : unpaired (c :: text) = c :: unpaired text := by
  cases text with
  | nil => simp [unpaired]
  | cons d text =>
    have hc : c ≠ '\\' := fun hc => by simpa using h hc
    simp [unpaired, hc]

theorem isPattern_nil : IsPattern inSet [] ↔ inSet = false := by
  constructor
  · intro h
    exact h.closed
  · intro h
    exact ⟨List.not_mem_nil, fun c hc => absurd hc List.not_mem_nil, fun a b hab => by simp [unpaired] at hab, h⟩

theorem isPattern_pair : IsPattern inSet ('\\' :: c :: pattern) ↔ IsPattern inSet pattern := by
  constructor
  · rintro ⟨hpaired, hline, hslashes, hclosed⟩
    exact ⟨hpaired, hline, hslashes, hclosed⟩
  · rintro ⟨hpaired, hline, hslashes, hclosed⟩
    exact ⟨hpaired, hline, hslashes, hclosed⟩

/-- A character outside of pairs is no line end and no slash outside of brackets, and the rest is that of a pattern. -/
theorem isPattern_cons (hc : c ≠ '\\') :
    IsPattern inSet (c :: pattern) ↔
      ¬ IsLineEnd c ∧ (c = '/' → inSet = true) ∧ IsPattern (afterBracket inSet c) pattern := by
  have hunpaired : unpaired (c :: pattern) = c :: unpaired pattern := unpaired_cons fun h => absurd h hc
  constructor
  · intro h
    refine ⟨h.oneLine c (hunpaired ▸ List.mem_cons_self ..), ?_, ?_, ?_, ?_, ?_⟩
    · rintro rfl
      exact h.slashes [] _ hunpaired
    · intro hmem
      exact h.paired (hunpaired ▸ List.mem_cons_of_mem _ hmem)
    · intro d hd
      exact h.oneLine d (hunpaired ▸ List.mem_cons_of_mem _ hd)
    · intro before after hsplit
      exact h.slashes (c :: before) after (by rw [hunpaired, hsplit, List.cons_append])
    · have hclosed := h.closed
      rw [hunpaired] at hclosed
      exact hclosed
  · rintro ⟨hline, hslash, h⟩
    refine ⟨?_, ?_, ?_, ?_⟩
    · rw [hunpaired, List.mem_cons, not_or]
      exact ⟨hc.symm, h.paired⟩
    · intro d hd
      rw [hunpaired] at hd
      rcases List.mem_cons.1 hd with rfl | hd
      · exact hline
      · exact h.oneLine d hd
    · intro before after hsplit
      rw [hunpaired] at hsplit
      cases before with
      | nil => exact hslash (List.cons.inj hsplit).1
      | cons d before =>
        obtain ⟨rfl, hrest⟩ := List.cons.inj hsplit
        exact h.slashes before after hrest
    · rw [hunpaired]
      exact h.closed

/-! ### Patterns -/

/-- The scan of a pattern ends at the slash that closes it. -/
theorem scanPattern_eq_some_iff :
    scanPattern inSet text = some n ↔
      ∃ pattern rest, text = pattern ++ '/' :: rest ∧ n = pattern.length ∧ IsPattern inSet pattern := by
  constructor
  · intro h
    fun_induction scanPattern inSet text generalizing n with
    | case1 => cases h
    | case2 inSet d text ih =>
      obtain ⟨k, hk, rfl⟩ := Option.map_eq_some_iff.1 h
      obtain ⟨pattern, rest, rfl, rfl, hpattern⟩ := ih hk
      exact ⟨'\\' :: d :: pattern, rest, rfl, rfl, isPattern_pair.2 hpattern⟩
    | case3 => cases h
    | case4 inSet c text hpair hline hclose =>
      cases h
      obtain ⟨rfl, hset⟩ := hclose
      exact ⟨[], text, rfl, rfl, isPattern_nil.2 (by simpa using hset)⟩
    | case5 inSet c text hpair hline hclose ih =>
      obtain ⟨k, hk, rfl⟩ := Option.map_eq_some_iff.1 h
      obtain ⟨pattern, rest, rfl, rfl, hpattern⟩ := ih hk
      have hc : c ≠ '\\' := ne_backslash (by simp) hpair
      refine ⟨c :: pattern, rest, rfl, rfl, (isPattern_cons hc).2 ⟨hline, ?_, hpattern⟩⟩
      intro hslash
      by_contra hset
      exact hclose ⟨hslash, by simpa using hset⟩
  · rintro ⟨pattern, rest, rfl, rfl, h⟩
    fun_induction unpaired pattern generalizing inSet with
    | case1 =>
      obtain rfl := isPattern_nil.1 h
      rfl
    | case2 d pattern ih =>
      rw [List.cons_append, List.cons_append, scanPattern, ih (isPattern_pair.1 h)]
      rfl
    | case3 c pattern hpair ih =>
      have hc : c ≠ '\\' := by
        rintro rfl
        have hne : pattern ≠ [] := by
          rintro rfl
          exact h.paired (List.mem_singleton_self _)
        exact ne_backslash hne hpair rfl
      obtain ⟨hline, hslash, h⟩ := (isPattern_cons hc).1 h
      have hopen : ¬ (c = '/' ∧ (!inSet) = true) := by
        rintro ⟨hc, hset⟩
        simp [hslash hc] at hset
      have hplain : ¬ (c = '\n' ∨ c = '\r') := hline
      rw [List.cons_append, scanPattern_cons (fun h => absurd h hc), if_neg hplain, if_neg hopen]
      exact congrArg (Option.map (· + 1)) (ih h)

theorem drop_closing (pattern rest : List Char) : (pattern ++ '/' :: rest).drop (pattern.length + 1) = rest := by
  rw [List.drop_length_add_append]
  rfl

/-- A regular expression is a pattern between slashes that is not empty, with all letters behind it as flags. -/
theorem scanRegex_eq_some_iff_text :
    scanRegex text = some (pattern, flags, n) ↔
      ∃ rest, text = pattern ++ '/' :: (flags ++ rest) ∧ n = pattern.length + 1 + flags.length ∧ pattern ≠ [] ∧
        IsPattern false pattern ∧ (∀ c ∈ flags, c.isAlpha = true) ∧ ∀ c, rest.head? = some c → c.isAlpha = false := by
  rw [scanRegex_eq_some_iff]
  constructor
  · rintro ⟨k, hk, rfl, rfl, rfl⟩
    obtain ⟨pattern, rest, rfl, hlength, hpattern⟩ := scanPattern_eq_some_iff.1 hk
    have htake : (pattern ++ '/' :: rest).take (k + 1) = pattern := by rw [hlength, List.take_left]
    have hdrop : (pattern ++ '/' :: rest).drop (k + 2) = rest := by
      rw [show k + 2 = pattern.length + 1 by omega]
      exact drop_closing pattern rest
    rw [htake, hdrop]
    refine ⟨rest.dropWhile Char.isAlpha, ?_, by omega, ?_, hpattern, fun c hc => List.mem_takeWhile_imp hc, ?_⟩
    · rw [List.takeWhile_append_dropWhile]
    · rintro rfl
      simp at hlength
    · intro c hc
      have hhead := List.head?_dropWhile_not Char.isAlpha rest
      rw [hc] at hhead
      simpa using hhead
  · rintro ⟨rest, rfl, rfl, hne, hpattern, hflags, hrest⟩
    obtain ⟨k, hk⟩ : ∃ k, pattern.length = k + 1 :=
      Nat.exists_eq_succ_of_ne_zero (mt List.eq_nil_of_length_eq_zero hne)
    have hdrop : (pattern ++ '/' :: (flags ++ rest)).drop (k + 2) = flags ++ rest := by
      rw [show k + 2 = pattern.length + 1 by omega]
      exact drop_closing pattern (flags ++ rest)
    refine ⟨k, scanPattern_eq_some_iff.2 ⟨pattern, flags ++ rest, rfl, hk.symm, hpattern⟩, ?_, ?_, by omega⟩
    · rw [← hk, List.take_left]
    · rw [hdrop, List.takeWhile_append_of_pos hflags]
      cases rest with
      | nil => simp
      | cons c rest => simp [hrest c rfl]

/-! ### Line ends -/

/-- Every character stands outside of the pairs, or is the backslash of one or the other character. -/
theorem mem_pattern_cases (h : c ∈ pattern) : c ∈ unpaired pattern ∨ c ∈ escaped pattern ∨ c = '\\' := by
  fun_induction unpaired pattern with
  | case1 => cases h
  | case2 d pattern ih =>
    rw [escaped]
    rcases List.mem_cons.1 h with rfl | h
    · exact .inr (.inr rfl)
    · rcases List.mem_cons.1 h with rfl | h
      · exact .inr (.inl (List.mem_cons_self ..))
      · rcases ih h with h | h | h
        · exact .inl h
        · exact .inr (.inl (List.mem_cons_of_mem _ h))
        · exact .inr (.inr h)
  | case3 d pattern hpair ih =>
    rw [escaped.eq_3 _ _ hpair]
    rcases List.mem_cons.1 h with rfl | h
    · exact .inl (List.mem_cons_self ..)
    · rcases ih h with h | h
      · exact .inl (List.mem_cons_of_mem _ h)
      · exact .inr h

theorem mem_of_mem_escaped (h : c ∈ escaped pattern) : c ∈ pattern := by
  fun_induction escaped pattern with
  | case1 => cases h
  | case2 d pattern ih =>
    rcases List.mem_cons.1 h with rfl | h
    · exact List.mem_cons_of_mem _ (List.mem_cons_self ..)
    · exact List.mem_cons_of_mem _ (List.mem_cons_of_mem _ (ih h))
  | case3 d pattern hpair ih => exact List.mem_cons_of_mem _ (ih h)

/-- A pattern has no line end if and only if none stands behind a backslash. -/
theorem oneLine_iff (h : IsPattern inSet pattern) :
    (∀ c ∈ pattern, ¬ IsLineEnd c) ↔ ∀ c ∈ escaped pattern, ¬ IsLineEnd c := by
  constructor
  · intro hline c hc
    exact hline c (mem_of_mem_escaped hc)
  · intro hline c hc
    rcases mem_pattern_cases hc with hc | hc | rfl
    · exact h.oneLine c hc
    · exact hline c hc
    · rintro (h | h) <;> revert h <;> decide

/-! ### Tokens -/

/-- The slice of a token that is a regular expression. -/
theorem Reads.exists_regex_of_mem {ts : List Token} {t : Token} {pattern flags : String}
    (h : Reads 0 none false text ts) (ht : t ∈ ts) (hl : t.lexeme = .regex pattern flags) :
    ∃ before after, text = before ++ (('/' :: pattern.toList ++ '/' :: flags.toList) ++ after) ∧
      t.offset = byteLength before ∧ t.length = byteLength ('/' :: pattern.toList ++ '/' :: flags.toList) ∧
      pattern.toList ≠ [] ∧ IsPattern false pattern.toList ∧ (∀ c ∈ flags.toList, c.isAlpha = true) ∧
      ∀ c, after.head? = some c → c.isAlpha = false := by
  obtain ⟨before, c, a, b, allowed, htext, hoffset, hlength, -, hlexeme⟩ := h.exists_lexeme_of_mem ht
  rw [hl] at hlexeme
  generalize hn : a.length + 1 = n at hlexeme
  cases scanned_of_lexeme? hlexeme with
  | word hw hword => cases isOperand_of_wordLexeme? hword
  | @regex p f k hc hr =>
    obtain ⟨after, hab, hk, hne, hpattern, hflags, hafter⟩ := scanRegex_eq_some_iff_text.1 hr
    have hparts : a ++ b = (p ++ '/' :: f) ++ after := by
      rw [hab, List.append_assoc, List.cons_append]
    have hlengths : a.length = (p ++ '/' :: f).length := by
      rw [List.length_append, List.length_cons]
      omega
    obtain ⟨rfl, rfl⟩ := List.append_inj hparts hlengths
    subst hc
    rw [String.toList_ofList, String.toList_ofList]
    exact ⟨before, b, htext, hoffset, hlength, hne, hpattern, hflags, hafter⟩

end Lexer

/-- A regular expression among the tokens of a source is written between slashes, with all letters behind the closing
one as its flags.  Its pattern is not empty, and with the pairs of a backslash and another character left out it has no
line end, no slash outside of brackets, and an end outside of brackets.  It has no line end at all if and only if none
stands behind a backslash. -/
theorem regex_token_text {source : String} {ts : List Token} {t : Token} {pattern flags : String}
    (h : tokenize source = .ok ts) (ht : t ∈ ts) (hl : t.lexeme = .regex pattern flags) :
    slice? source.toList t.offset t.length = some ('/' :: pattern.toList ++ '/' :: flags.toList) ∧
    (∃ before after, source.toList = before ++ (('/' :: pattern.toList ++ '/' :: flags.toList) ++ after) ∧
      t.offset = byteLength before ∧ (∀ c ∈ flags.toList, c.isAlpha = true) ∧
      ∀ c, after.head? = some c → c.isAlpha = false) ∧
    pattern.toList ≠ [] ∧ Lexer.IsPattern false pattern.toList ∧
    ((∀ c ∈ pattern.toList, ¬ Lexer.IsLineEnd c) ↔ ∀ c ∈ Lexer.escaped pattern.toList, ¬ Lexer.IsLineEnd c) := by
  obtain ⟨before, after, hsource, hoffset, hlength, hne, hpattern, hflags, hafter⟩ :=
    (Lexer.scan_eq_ok_iff.1 h).exists_regex_of_mem ht hl
  refine ⟨?_, ⟨before, after, hsource, hoffset, hflags, hafter⟩, hne, hpattern, Lexer.oneLine_iff hpattern⟩
  rw [hsource, hoffset, hlength]
  exact slice?_append before _ after

/-- A pattern with a slash between brackets and another one behind a backslash. -/
theorem regex_token_text_slashes :
    tokenize "/[/]\\/x/gi" = .ok [⟨.regex "[/]\\/x" "gi", 0, 10⟩] ∧
      Lexer.IsPattern false "[/]\\/x".toList ∧ ∀ c ∈ "[/]\\/x".toList, ¬ Lexer.IsLineEnd c := by
  have h : tokenize "/[/]\\/x/gi" = .ok [⟨.regex "[/]\\/x" "gi", 0, 10⟩] := by cbv
  obtain ⟨-, -, -, hpattern, hline⟩ := regex_token_text h (List.mem_singleton_self _) rfl
  refine ⟨h, hpattern, hline.2 ?_⟩
  simp [Lexer.escaped, Lexer.IsLineEnd]

/-- A backslash lets the line end behind it into a pattern. -/
theorem regex_token_lineEnd :
    tokenize "/\\\n/" = .ok [⟨.regex "\\\n" "", 0, 4⟩] ∧ ∃ c ∈ "\\\n".toList, Lexer.IsLineEnd c := by
  refine ⟨by cbv, '\n', by decide, .inl rfl⟩

end ExprLang
