import ExprLang.Proofs.ScanPlaces

/-!
# Where a text cannot be divided into tokens

* `Unreadable` describes the texts at whose front no lexeme can be read (`Lexer.lexeme?_eq_none_iff`).
* A lexeme is an operand if and only if its text starts like one (`Lexer.isOperand_iff`).
* A text that is rejected is rejected at its first fault, and no token of a text that is accepted stands at one
  (`tokenize_first_fault`).
-/

open ExprLang.Text

namespace ExprLang

/-! ### Faults -/

/-- The characters of a string literal between its quotes. -/
inductive StringBody (quote : Char) : List Char → Prop where
  | nil : StringBody quote []
  | plain {c : Char} {body : List Char} (hc : c ≠ '\\') (hq : c ≠ quote) (h : StringBody quote body) :
      StringBody quote (c :: body)
  | pair {c : Char} {body : List Char} (h : StringBody quote body) : StringBody quote ('\\' :: c :: body)

/-- Whether a text starts like a string, a number or a word. -/
def StartsOperand : List Char → Prop
  | [] => False
  | c :: text => (c = '\x27' ∨ c = '\x22') ∨ Lexer.startsNumber c text ∨ Lexer.isWordStart c = true

/-- A text at whose front there is no lexeme. -/
inductive Unreadable : List Char → Prop where
  | stray {c : Char} {text : List Char} (hb : Unicode.isBlank c = false) (hs : c ∉ symbols)
      (ho : ¬ StartsOperand (c :: text)) : Unreadable (c :: text)
  | unclosed {quote : Char} {text : List Char} (hq : quote = '\x27' ∨ quote = '\x22')
      (h : ∀ body rest, StringBody quote body → text ≠ body ++ quote :: rest) : Unreadable (quote :: text)
  | reserved {word : String} {rest : List Char} (hw : word ∈ reservedWords)
      (hrest : ∀ c, rest.head? = some c → Lexer.isWordPart c = false) : Unreadable (word.toList ++ rest)

/-- The text behind some tokens cannot go on: no lexeme starts there, or an operand that touches the last token. -/
def Fault (ts : List Token) (offset : Nat) (rest : List Char) : Prop :=
  Unreadable rest ∨ (StartsOperand rest ∧ Lexer.EndsWithOperand ts offset)

namespace Lexer

variable {c : Char} {text : List Char} {allowed : Bool} {l : Lexeme} {n : Nat}

/-! ### Strings and words -/

/-- A string can be read exactly when it is closed. -/
theorem isSome_scanString_iff {quote : Char} (hquote : quote ≠ '\\') :
    (scanString quote text).isSome ↔ ∃ body rest, StringBody quote body ∧ text = body ++ quote :: rest := by
  fun_induction scanString quote text with
  | case1 => simp
  | case2 c text ih =>
    rw [Option.isSome_map, ih]
    constructor
    · rintro ⟨body, rest, hbody, rfl⟩
      exact ⟨_, rest, .pair hbody, rfl⟩
    · rintro ⟨body, rest, hbody, htext⟩
      cases hbody with
      | nil => exact absurd (List.cons.inj htext).1.symm hquote
      | plain hc => exact absurd (List.cons.inj htext).1.symm hc
      | pair hbody => exact ⟨_, rest, hbody, (List.cons.inj (List.cons.inj htext).2).2⟩
  | case3 text => exact ⟨fun _ => ⟨[], text, .nil, rfl⟩, fun _ => rfl⟩
  | case4 c text hpair hne ih =>
    rw [Option.isSome_map, ih]
    constructor
    · rintro ⟨body, rest, hbody, rfl⟩
      have hc : c ≠ '\\' := by
        rintro rfl
        cases hs : body ++ quote :: rest with
        | nil => simp at hs
        | cons d text => exact hpair d text rfl hs
      exact ⟨_, rest, .plain hc hne hbody, rfl⟩
    · rintro ⟨body, rest, hbody, htext⟩
      cases hbody with
      | nil => exact absurd (List.cons.inj htext).1 hne
      | plain _ _ hbody => exact ⟨_, rest, hbody, (List.cons.inj htext).2⟩
      | pair => exact absurd (List.cons.inj htext).2 (hpair _ _ (List.cons.inj htext).1)

theorem scanString_eq_none_iff {quote : Char} (hq : quote = '\x27' ∨ quote = '\x22') :
    scanString quote text = none ↔ ∀ body rest, StringBody quote body → text ≠ body ++ quote :: rest := by
  have hquote : quote ≠ '\\' := by
    rintro rfl
    simp at hq
  rw [← Option.not_isSome_iff_eq_none, isSome_scanString_iff hquote]
  push Not
  rfl

theorem wordLexeme?_eq_none_iff {word : String} : wordLexeme? word = none ↔ word ∈ reservedWords := by
  unfold wordLexeme?
  split
  case h_7 => simp
  all_goals exact ⟨nofun, fun h => absurd h (by decide)⟩

/-- The reserved words are words. -/
theorem isWord_of_mem_reservedWords : ∀ word ∈ reservedWords, word.toList.head?.any isWordStart ∧ word.toList.all isWordPart := by
  decide

theorem not_startsNumber_of_isWordStart (h : isWordStart c) : ¬ startsNumber c text := by
  rintro (hd | ⟨rfl, -⟩)
  · simp only [isWordStart, Char.isAlpha, Char.isUpper, Char.isLower, Char.isDigit, Bool.or_eq_true, Bool.and_eq_true,
      decide_eq_true_eq, beq_iff_eq, UInt32.le_iff_toNat_le, ge_iff_le] at h hd
    rcases h with h | rfl
    · have : '9'.val.toNat = 57 := rfl
      have : 'A'.val.toNat = 65 := rfl
      have : 'a'.val.toNat = 97 := rfl
      omega
    · revert hd
      decide
  · revert h
    decide

/-- The word at the front of a text. -/
theorem takeWhile_isWordPart {word rest : List Char} (hword : word.all isWordPart)
    (hrest : ∀ c, rest.head? = some c → isWordPart c = false) : (word ++ rest).takeWhile isWordPart = word := by
  rw [List.takeWhile_append_of_pos (by simpa using hword)]
  cases rest with
  | nil => simp
  | cons c rest => simp [hrest c rfl]

/-! ### Lexemes -/

theorem unreadable_of_lexeme?_eq_none (hb : Unicode.isBlank c = false) (h : lexeme? allowed c text = none) :
    Unreadable (c :: text) := by
  by_cases hq : c = '\x27' ∨ c = '\x22'
  · rw [lexeme?_of_quote hq, Option.map_eq_none_iff, scanString_eq_none_iff hq] at h
    exact .unclosed hq h
  by_cases hd : startsNumber c text
  · rw [lexeme?_of_startsNumber hq hd] at h
    cases h
  by_cases hw : isWordStart c
  · rw [lexeme?_of_isWordStart hq hd hw, Option.map_eq_none_iff, wordLexeme?_eq_none_iff] at h
    have hrest : ∀ d, ((c :: text).dropWhile isWordPart).head? = some d → isWordPart d = false := by
      intro d hd
      have := List.head?_dropWhile_not isWordPart (c :: text)
      rw [hd] at this
      simpa using this
    have := Unreadable.reserved h hrest
    rwa [String.toList_ofList, List.takeWhile_append_dropWhile] at this
  by_cases hs : c = '/' ∧ allowed
  · obtain ⟨rfl, rfl⟩ := hs
    cases hr : scanRegex text with
    | none =>
      rw [lexeme?_of_scanRegex_eq_none hr] at h
      cases h
    | some x =>
      rw [lexeme?_of_scanRegex hr] at h
      cases h
  rw [lexeme?_of_symbol hq hd hw hs] at h
  split at h
  · cases h
  · rename_i hs
    refine .stray hb (by simpa using hs) ?_
    rintro (h | h | h)
    · exact hq h
    · exact hd h
    · exact hw h

/-- A reserved word is no lexeme. -/
theorem lexeme?_of_reserved {word : String} {rest : List Char} (hw : word ∈ reservedWords)
    (hrest : ∀ c, rest.head? = some c → isWordPart c = false) (htext : c :: text = word.toList ++ rest) :
    lexeme? allowed c text = none := by
  obtain ⟨hhead, hpart⟩ := isWord_of_mem_reservedWords word hw
  have hstart : isWordStart c := by
    cases hl : word.toList with
    | nil =>
      rw [hl] at hhead
      cases hhead
    | cons d w =>
      rw [hl] at hhead htext
      rw [(List.cons.inj htext).1]
      simpa using hhead
  have hq : ¬ (c = '\x27' ∨ c = '\x22') := by
    rintro (rfl | rfl)
    all_goals
      revert hstart
      decide
  rw [lexeme?_of_isWordStart hq (not_startsNumber_of_isWordStart hstart) hstart, htext, takeWhile_isWordPart hpart hrest,
    String.ofList_toList, wordLexeme?_eq_none_iff.2 hw]
  rfl

theorem lexeme?_eq_none_of_unreadable (h : Unreadable (c :: text)) : lexeme? allowed c text = none := by
  generalize ht : c :: text = t at h
  cases h with
  | stray _ hs ho =>
    cases ht
    have hslash : ¬ (c = '/' ∧ allowed) := fun h => hs (h.1 ▸ by decide)
    rw [lexeme?_of_symbol (fun h => ho (.inl h)) (fun h => ho (.inr (.inl h))) (fun h => ho (.inr (.inr h))) hslash,
      if_neg (by simpa using hs)]
  | unclosed hq hopen =>
    cases ht
    rw [lexeme?_of_quote hq, (scanString_eq_none_iff hq).2 hopen]
    rfl
  | reserved hw hrest => exact lexeme?_of_reserved hw hrest ht

/-- Whether a lexeme can be read does not depend on what stands before it. -/
theorem lexeme?_eq_none_iff (hb : Unicode.isBlank c = false) :
    lexeme? allowed c text = none ↔ Unreadable (c :: text) :=
  ⟨unreadable_of_lexeme?_eq_none hb, lexeme?_eq_none_of_unreadable⟩

/-- A lexeme is a literal or an identifier exactly when its text starts like a string, a number or a word. -/
theorem isOperand_iff (h : lexeme? allowed c text = some (l, n)) : l.isOperand = true ↔ StartsOperand (c :: text) := by
  cases scanned_of_lexeme? h with
  | string hq => exact iff_of_true rfl (.inl hq)
  | number hd => exact iff_of_true rfl (.inr (.inl hd))
  | word hw hl => exact iff_of_true (isOperand_of_wordLexeme? hl) (.inr (.inr hw))
  | regex hc =>
    subst hc
    refine iff_of_false nofun ?_
    rintro (h | (h | ⟨h, -⟩) | h)
    all_goals
      revert h
      decide
  | symbol hq hd hw =>
    refine iff_of_false nofun ?_
    rintro (h | h | h)
    · exact hq h
    · exact hd h
    · exact hw h

/-! ### Places in a text that is scanned from its start -/

section
variable {q : Place} {ts : List Token}

/-- The scan has passed a text that falls into the tokens that it has found. -/
theorem Run.exists_tokenize_eq_ok (h : Run ⟨0, none, false, text⟩ ts q) :
    ∃ before, text = before ++ q.text ∧ q.offset = byteLength before ∧ tokenize (String.ofList before) = .ok ts := by
  obtain ⟨s, htext, hoffset, hs, -⟩ := h.exists_prefix
  simp only [Nat.zero_add] at htext hoffset
  refine ⟨s, htext, hoffset, ?_⟩
  rw [tokenize, String.toList_ofList]
  exact scan_eq_ok_iff.2 hs

/-- The scan cannot go on exactly where there is a fault behind the tokens that it has found. -/
theorem Run.fails_iff (h : Run ⟨0, none, false, text⟩ ts q) {rest : List Char} (htext : q.text = c :: rest)
    (hb : Unicode.isBlank c = false) : q.Fails ↔ Fault ts q.offset q.text := by
  obtain ⟨s, -, -, -, htouching⟩ := h.exists_prefix
  simp only [Bool.false_eq_true, false_and, or_false] at htouching
  rw [htext]
  constructor
  · rintro ⟨c', rest', htext', -, h⟩
    cases htext.symm.trans htext'
    rcases h with h | ⟨l, n, h, hl, ht⟩
    · exact .inl ((lexeme?_eq_none_iff hb).1 h)
    · exact .inr ⟨(isOperand_iff h).1 hl, htouching.1 ht⟩
  · intro hfault
    refine ⟨c, rest, htext, hb, ?_⟩
    cases hl : lexeme? (q.last.all Lexeme.admitsRegex) c rest with
    | none => exact .inl rfl
    | some x =>
      obtain ⟨l, n⟩ := x
      rcases hfault with hun | ⟨hstart, hend⟩
      · rw [lexeme?_eq_none_of_unreadable hun] at hl
        cases hl
      · exact .inr ⟨l, n, rfl, (isOperand_iff hl).2 hstart, htouching.2 hend⟩

/-- The scan goes on where a token starts. -/
theorem Reads.exists_run_not_fails {us vs : List Token} {t : Token}
    (h : Reads 0 none false text (us ++ t :: vs)) :
    ∃ q c rest, Run ⟨0, none, false, text⟩ us q ∧ q.offset = t.offset ∧ q.text = c :: rest ∧
      Unicode.isBlank c = false ∧ ¬ q.Fails := by
  obtain ⟨q, c, a, b, hrun, hoffset, htext, -, hb, hl, ht⟩ := h.exists_run
  refine ⟨q, c, a ++ b, hrun, hoffset, htext, hb, ?_⟩
  rintro ⟨c', text', htext', -, hfails⟩
  cases htext.symm.trans htext'
  rw [hl] at hfails
  rcases hfails with hnone | ⟨l, n, hsome, hoperand, htouch⟩
  · cases hnone
  · cases hsome
    rw [hoperand, htouch] at ht
    cases ht

end

end Lexer

/-- A text that is rejected is rejected at its first fault: what lies before it falls into tokens.  A text that is
accepted has no fault where a token starts. -/
theorem tokenize_first_fault (source : String) :
    (∀ e, tokenize source = .error e → ∃ before rest ts, source.toList = before ++ rest ∧
      byteLength before < byteLength source.toList ∧ e = .invalidToken (byteLength before) ∧
      tokenize (String.ofList before) = .ok ts ∧ Fault ts (byteLength before) rest) ∧
    ∀ us t vs, tokenize source = .ok (us ++ t :: vs) → ∃ before rest, source.toList = before ++ rest ∧
      byteLength before = t.offset ∧ tokenize (String.ofList before) = .ok us ∧ ¬ Fault us t.offset rest := by
  constructor
  · intro e h
    obtain ⟨ts, q, hrun, hfails, rfl⟩ := Lexer.exists_run_of_scan_eq_error h
    obtain ⟨before, hsource, hoffset, hbefore⟩ := hrun.exists_tokenize_eq_ok
    obtain ⟨c, rest, htext, hb, -⟩ := id hfails
    have hfault := (hrun.fails_iff htext hb).1 hfails
    have hinside : byteLength before < byteLength source.toList := by
      have := Lexer.Reads.byteLength_cons_pos c rest
      rw [hsource, byteLength_append, htext]
      omega
    rw [hoffset] at hfault ⊢
    exact ⟨before, q.text, ts, hsource, hinside, rfl, hbefore, hfault⟩
  · intro us t vs h
    obtain ⟨q, c, rest, hrun, hoffset, htext, hb, hfails⟩ := (Lexer.scan_eq_ok_iff.1 h).exists_run_not_fails
    obtain ⟨before, hsource, hq, hbefore⟩ := hrun.exists_tokenize_eq_ok
    rw [hrun.fails_iff htext hb, hoffset] at hfails
    exact ⟨before, q.text, hsource, hq.symm.trans hoffset, hbefore, hfails⟩

/-- A string behind a name, with a gap between them and without one. -/
theorem tokenize_first_fault_touching :
    tokenize "a 'b'" = .ok ([⟨.identifier "a", 0, 1⟩] ++ ⟨.literal (.string "b"), 2, 3⟩ :: []) ∧
      (∃ before rest, "a 'b'".toList = before ++ rest ∧ byteLength before = 2 ∧
        tokenize (String.ofList before) = .ok [⟨.identifier "a", 0, 1⟩] ∧ ¬ Fault [⟨.identifier "a", 0, 1⟩] 2 rest) ∧
      tokenize "a'b'" = .error (.invalidToken 1) ∧
      ∃ before rest ts, "a'b'".toList = before ++ rest ∧ byteLength before < byteLength "a'b'".toList ∧
        SyntaxError.invalidToken 1 = .invalidToken (byteLength before) ∧ tokenize (String.ofList before) = .ok ts ∧
        Fault ts (byteLength before) rest := by
  have hok : tokenize "a 'b'" = .ok ([⟨.identifier "a", 0, 1⟩] ++ ⟨.literal (.string "b"), 2, 3⟩ :: []) := by cbv
  have herror : tokenize "a'b'" = .error (.invalidToken 1) := by cbv
  exact ⟨hok, (tokenize_first_fault _).2 _ _ _ hok, herror, (tokenize_first_fault _).1 _ herror⟩

end ExprLang
