import ExprLang.Proofs.Tokenizing

/-!
# Writing and reading string literals

`Lexer.escape?` writes a text as the body of a string literal: the quote gets a backslash, and a backslash goes with
the character behind it as it is.  A text cannot be written if a backslash in it stands at the end or before the
quote.

Reading undoes writing and writing undoes reading (`Lexer.scanString_eq_some_iff`), so a text has at most one body, and
the texts that can be written are those that can be read.  The scan goes from the opening quote of a written text right
behind its closing quote (`Lexer.scanString_escape`).
-/

open ExprLang.Text

namespace ExprLang.Lexer

/-- The body of a string literal between quotes that stands for a text.  A backslash is copied with the character
behind it, which must not be the quote, and the quote is written behind a backslash. -/
def escape? (quote : Char) : List Char → Option (List Char)
  | [] => some []
  | ['\\'] => none
  | '\\' :: c :: s => if c = quote then none else (escape? quote s).map fun body => '\\' :: c :: body
  | c :: s => (escape? quote s).map fun body => if c = quote then '\\' :: c :: body else c :: body

variable {quote c : Char} {s body rest text : List Char} {n : Nat}

/-! ### Writing character by character -/

theorem escape?_pair (hc : c ≠ quote) (h : escape? quote s = some body) :
    escape? quote ('\\' :: c :: s) = some ('\\' :: c :: body) := by
  rw [escape?, if_neg hc, h]
  rfl

theorem escape?_cons (hc : c ≠ '\\') :
    escape? quote (c :: s) =
      (escape? quote s).map fun body => if c = quote then '\\' :: c :: body else c :: body := by
  rw [escape?]
  · rintro rfl
    exact absurd rfl hc
  · rintro _ _ rfl
    exact absurd rfl hc

/-! ### Reading what was written -/

theorem scanString_of_escape? (hquote : quote ≠ '\\') (h : escape? quote s = some body) :
    scanString quote (body ++ quote :: rest) = some (s, body.length + 1) := by
  fun_induction escape? quote s generalizing body with
  | case1 =>
    cases h
    rw [List.nil_append, scanString_cons (fun hq => absurd hq hquote), if_pos rfl]
    rfl
  | case2 => cases h
  | case3 => cases h
  | case4 c s hc ih =>
    obtain ⟨body, hbody, rfl⟩ := Option.map_eq_some_iff.1 h
    rw [List.cons_append, List.cons_append, scanString, ih hbody]
    simp [hc]
  | case5 c s hlone hpair ih =>
    obtain ⟨body, hbody, rfl⟩ := Option.map_eq_some_iff.1 h
    have hc : c ≠ '\\' := by
      intro hc
      have hs : s ≠ [] := hlone hc
      exact ne_backslash hs hpair hc
    have hread := ih hbody
    by_cases hq : c = quote
    · rw [if_pos hq, List.cons_append, List.cons_append, scanString, hread]
      simp [hq]
    · rw [if_neg hq, List.cons_append, scanString_cons (fun h => absurd h hc), if_neg hq, hread]
      rfl

/-! ### Writing what was read -/

theorem exists_escape?_of_scanString (hquote : quote ≠ '\\') (h : scanString quote text = some (s, n)) :
    ∃ body rest, escape? quote s = some body ∧ text = body ++ quote :: rest ∧ n = body.length + 1 := by
  fun_induction scanString quote text generalizing s n with
  | case1 => cases h
  | case2 c text ih =>
    obtain ⟨⟨s, n⟩, hs, he⟩ := Option.map_eq_some_iff.1 h
    cases he
    obtain ⟨body, rest, hbody, rfl, rfl⟩ := ih hs
    refine ⟨'\\' :: c :: body, rest, ?_, rfl, rfl⟩
    by_cases hc : c = quote
    · -- the quote loses its backslash and gets it back
      rw [if_pos hc, escape?_cons (hc ▸ hquote), hbody, Option.map_some, if_pos hc]
    · rw [if_neg hc]
      exact escape?_pair hc hbody
  | case3 text =>
    cases h
    exact ⟨[], text, rfl, rfl, rfl⟩
  | case4 c text hpair hc ih =>
    obtain ⟨⟨s, n⟩, hs, he⟩ := Option.map_eq_some_iff.1 h
    cases he
    obtain ⟨body, rest, hbody, rfl, rfl⟩ := ih hs
    have hplain : c ≠ '\\' := ne_backslash (by simp) hpair
    refine ⟨c :: body, rest, ?_, rfl, rfl⟩
    rw [escape?_cons hplain, hbody, Option.map_some, if_neg hc]

/-- A string literal is read from what its text is written as, and from nothing else. -/
theorem scanString_eq_some_iff (hquote : quote ≠ '\\') :
    scanString quote text = some (s, n) ↔
      ∃ body rest, escape? quote s = some body ∧ text = body ++ quote :: rest ∧ n = body.length + 1 := by
  constructor
  · exact exists_escape?_of_scanString hquote
  · rintro ⟨body, rest, hbody, rfl, rfl⟩
    exact scanString_of_escape? hquote hbody

/-! ### The scan of a string literal -/

/-- The scan goes from the opening quote of a written text behind the closing one. -/
theorem scan_of_escape? (hq : quote = '\x27' ∨ quote = '\x22') (h : escape? quote s = some body) (offset : Nat)
    (last : Option Lexeme) :
    scan offset last false (quote :: (body ++ quote :: rest)) = do
      let ts ← scan (offset + byteLength (quote :: (body ++ [quote]))) (some (.literal (.string (String.ofList s)))) true rest
      return ⟨.literal (.string (String.ofList s)), offset, byteLength (quote :: (body ++ [quote]))⟩ :: ts := by
  have hblank : Unicode.isBlank quote = false := by
    rcases hq with rfl | rfl <;> decide
  have hquote : quote ≠ '\\' := by
    rcases hq with rfl | rfl <;> decide
  have hlexeme : lexeme? (last.all Lexeme.admitsRegex) quote ((body ++ [quote]) ++ rest) =
      some (.literal (.string (String.ofList s)), (body ++ [quote]).length + 1) := by
    rw [lexeme?_of_quote hq, List.append_assoc, List.singleton_append, scanString_of_escape? hquote h, List.length_append]
    rfl
  have hscan : scan offset last false (quote :: ((body ++ [quote]) ++ rest)) = _ :=
    scan_of_lexeme? hblank hlexeme (Bool.and_false _)
  rw [List.append_assoc, List.singleton_append] at hscan
  exact hscan

/-- A text that can be written as the body of a string literal is read back from it, wherever the literal stands, and
the scan goes on right behind the closing quote.  Whatever is read as a string literal is what its text is written as,
so no two bodies are read as the same text, and the texts that can be written are those that can be read. -/
theorem scanString_escape (hq : quote = '\x27' ∨ quote = '\x22') :
    (∀ s body, escape? quote s = some body → ∀ before rest last,
      scanString quote (body ++ quote :: rest) = some (s, body.length + 1) ∧
      scan (byteLength before) last false (quote :: (body ++ quote :: rest)) = do
        let ts ← scan (byteLength (before ++ quote :: (body ++ [quote]))) (some (.literal (.string (String.ofList s)))) true
          rest
        return ⟨.literal (.string (String.ofList s)), byteLength before, byteLength (quote :: (body ++ [quote]))⟩ :: ts) ∧
    (∀ text s n, scanString quote text = some (s, n) →
      ∃ body rest, escape? quote s = some body ∧ text = body ++ quote :: rest ∧ n = body.length + 1) ∧
    (∀ body body' rest rest' s, scanString quote (body ++ quote :: rest) = some (s, body.length + 1) →
      scanString quote (body' ++ quote :: rest') = some (s, body'.length + 1) → body = body') ∧
    ∀ s, (escape? quote s).isSome ↔ ∃ text n, scanString quote text = some (s, n) := by
  have hquote : quote ≠ '\\' := by
    rcases hq with rfl | rfl <;> decide
  have hread {body rest s : List Char} (h : scanString quote (body ++ quote :: rest) = some (s, body.length + 1)) :
      escape? quote s = some body := by
    obtain ⟨written, after, hwritten, htext, hlength⟩ := (scanString_eq_some_iff hquote).1 h
    obtain ⟨rfl, -⟩ := List.append_inj htext (Nat.succ.inj hlength)
    exact hwritten
  have hwrite {body rest s : List Char} (h : escape? quote s = some body) :
      scanString quote (body ++ quote :: rest) = some (s, body.length + 1) :=
    (scanString_eq_some_iff hquote).2 ⟨body, rest, h, rfl, rfl⟩
  refine ⟨fun s body h before rest last => ⟨hwrite h, ?_⟩, ?_, ?_, fun s => ?_⟩
  · rw [byteLength_append]
    exact scan_of_escape? hq h _ last
  · exact fun text s n h => (scanString_eq_some_iff hquote).1 h
  · intro body body' rest rest' s h h'
    exact Option.some.inj ((hread h).symm.trans (hread h'))
  · rw [Option.isSome_iff_exists]
    constructor
    · rintro ⟨body, h⟩
      exact ⟨body ++ [quote], body.length + 1, hwrite h⟩
    · rintro ⟨text, n, h⟩
      obtain ⟨body, -, hbody, -⟩ := (scanString_eq_some_iff hquote).1 h
      exact ⟨body, hbody⟩

/-- A text with both quotes and a backslash before one of them, written between the other ones. -/
theorem scanString_escape_quotes :
    escape? '\x27' "é'\\\"".toList = some "é\\'\\\"".toList ∧
      scanString '\x27' "é\\'\\\"' + 1".toList = some ("é'\\\"".toList, 6) ∧
      ∀ body rest, scanString '\x27' (body ++ '\x27' :: rest) = some ("é'\\\"".toList, body.length + 1) →
        body = "é\\'\\\"".toList := by
  have hwritten : escape? '\x27' "é'\\\"".toList = some "é\\'\\\"".toList := by decide
  have hread := ((scanString_escape (.inl rfl)).1 _ _ hwritten [] " + 1".toList none).1
  exact ⟨hwritten, hread, fun body rest h => (scanString_escape (.inl rfl)).2.2.1 _ _ _ _ _ h hread⟩

end ExprLang.Lexer
