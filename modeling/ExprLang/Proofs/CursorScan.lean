import ExprLang.Proofs.DecimalTexts
import ExprLang.Proofs.RegexLiterals
import ExprLang.Proofs.TextOrder
import ExprLang.Token.Scanner

/-!
# The scanner reads what the lexer reads

The scanner starts between two characters, and every loop leaves it between two: a place is the length of what is before
it (`Scanner.charAt?_append`).  So it always sees the character that comes next, its slices are what it has gone over,
and each of its readers finds the lexeme that the lexer finds, with the place behind it (`Scanner.scanLexeme_eq`).  A run
with more steps than there are characters never breaks and ends with the tokens of the lexer or at the place where the
lexer rejects the text (`Scanner.run_start`).
-/

namespace ExprLang

namespace Text

theorem bytes_append (s t : List Char) : bytes (s ++ t) = bytes s ++ bytes t := List.flatMap_append

theorem length_bytes (text : List Char) : (bytes text).length = byteLength text := by
  induction text with
  | nil => rfl
  | cons c text ih => rw [bytes_cons, List.length_append, String.length_utf8EncodeChar, ih, byteLength]

theorem byteLength_concat (before : List Char) (c : Char) :
    byteLength (before ++ [c]) = byteLength before + c.utf8Size := byteLength_append before [c]

/-- The byte after a text is the first one of what follows it. -/
theorem getElem?_bytes_append (before rest : List Char) :
    (bytes (before ++ rest))[byteLength before]? = (bytes rest).head? := by
  rw [bytes_append, ← length_bytes, List.getElem?_append_right (Nat.le_refl _), Nat.sub_self, List.head?_eq_getElem?]

theorem utf8Size_of_isDigit {c : Char} (h : c.isDigit = true) : c.utf8Size = 1 := by
  obtain ⟨k, hk, -, rfl⟩ := Number.exists_ofNat_add (Number.isDigit_iff.1 h)
  have hall : ∀ k ≤ 9, (Char.ofNat (('0').toNat + k)).utf8Size = 1 := by decide
  exact hall k hk

end Text

namespace Scanner

open Text

variable {before rest text : List Char} {c quote : Char} {source : List Char} {pos : Nat}

/-! ### Places between characters -/

theorem suffix?_append (before rest : List Char) : suffix? (before ++ rest) (byteLength before) = some rest := by
  rw [suffix?, splitBytes?_append]
  rfl

theorem charAt?_append (before rest : List Char) : charAt? (before ++ rest) (byteLength before) = rest.head? := by
  rw [charAt?, suffix?_append]
  rfl

-- inside of a character there is none, and the scan would end there
example : charAt? "é1".toList 1 = none ∧ charAt? "é1".toList 2 = some '1' := by decide

theorem charAt?_concat (before : List Char) (c : Char) (rest : List Char) :
    charAt? (before ++ c :: rest) (byteLength before + c.utf8Size) = rest.head? := by
  rw [← byteLength_concat, List.append_cons, charAt?_append]

theorem suffix_append (before rest : List Char) : suffix (before ++ rest) (byteLength before) = .ok rest := by
  rw [suffix, suffix?_append]
  rfl

theorem slice_append (before middle after : List Char) :
    slice (before ++ (middle ++ after)) (byteLength before) (byteLength before + byteLength middle) = .ok middle := by
  rw [slice, if_pos (Nat.le_add_right ..), Nat.add_sub_cancel_left, slice?_append]
  rfl

/-! ### Steps that do not break -/

theorem reading_bind_ok {α β : Type} (a : α) (f : α → Reading β) :
    (liftM (Except.ok a : Except Fault α) : Reading α) >>= f = f a := rfl

theorem run_bind_ok {α β : Type} (a : α) (f : α → Run β) :
    (liftM (Except.ok a : Except Fault α) : Run α) >>= f = f a := rfl

/-! ### Strings -/

theorem scanString_unfold :
    scanString source quote pos text =
      match charAt? source pos with
      | none => none
      | some c =>
        if c = '\\' then
          match charAt? source (pos + c.utf8Size) with
          | none => none
          | some escaped =>
            scanString source quote (pos + c.utf8Size + escaped.utf8Size)
              ((if escaped ≠ quote then text ++ ['\\'] else text) ++ [escaped])
        else if c = quote then some (text, pos + c.utf8Size)
        else scanString source quote (pos + c.utf8Size) (text ++ [c]) := by
  rw [scanString]
  split
  · rename_i h
    rw [h]
  · rename_i c h
    rw [h]
    simp only
    split
    · split
      · rename_i h'
        rw [h']
      · rename_i h'
        rw [h']
    · rfl

/-- The scanner reads the string that the lexer reads. -/
theorem scanString_eq (hquote : quote ≠ '\\') (before rest text : List Char) :
    scanString (before ++ rest) quote (byteLength before) text =
      (Lexer.scanString quote rest).map fun (s, n) => (text ++ s, byteLength before + byteLength (rest.take n)) := by
  fun_induction Lexer.scanString quote rest generalizing before text with
  | case1 =>
    rw [scanString_unfold, charAt?_append]
    rfl
  | case2 c rest ih =>
    have hnext := ih (before ++ ['\\', c]) ((if c ≠ quote then text ++ ['\\'] else text) ++ [c])
    rw [List.append_assoc, byteLength_append] at hnext
    rw [scanString_unfold, charAt?_append]
    simp only [List.head?_cons, if_true, charAt?_concat]
    have hsize : byteLength before + Char.utf8Size '\\' + c.utf8Size = byteLength before + byteLength ['\\', c] := by
      simp only [byteLength]
      omega
    rw [hsize]
    refine hnext.trans ?_
    rw [Option.map_map]
    congr 1
    funext piece
    obtain ⟨s, n⟩ := piece
    by_cases hc : c = quote
    · simp [hc, byteLength, Nat.add_assoc]
    · simp [hc, byteLength, Nat.add_assoc]
  | case3 rest hpair =>
    rw [scanString_unfold, charAt?_append]
    simp [hquote, byteLength]
  | case4 c rest hpair hc ih =>
    rw [scanString_unfold, charAt?_append]
    simp only [List.head?_cons, if_neg hc]
    by_cases hslash : c = '\\'
    · -- nothing follows the backslash
      obtain rfl : rest = [] := by
        cases rest with
        | nil => rfl
        | cons d rest => exact absurd rfl (hpair d rest hslash)
      rw [if_pos hslash, charAt?_concat]
      rfl
    · have hnext := ih (before ++ [c]) (text ++ [c])
      rw [List.append_assoc, byteLength_concat] at hnext
      rw [if_neg hslash]
      refine hnext.trans ?_
      rw [Option.map_map]
      congr 1
      funext piece
      obtain ⟨s, n⟩ := piece
      simp [byteLength, Nat.add_assoc]

/-! ### Numbers -/

theorem head?_encode (c : Char) :
    (c.toNat < 128 ∧ (String.utf8EncodeChar c).head? = some c.toUInt8) ∨
      (128 ≤ c.toNat ∧ ∃ b : UInt8, (String.utf8EncodeChar c).head? = some b ∧ 128 ≤ b.toNat) := by
  rcases Nat.lt_or_ge c.toNat 128 with hlt | hge
  · have hsize : c.utf8Size = 1 := Char.utf8Size_eq_one_iff.2 (UInt32.le_iff_toNat_le.2 (Nat.le_of_lt_succ hlt))
    exact .inl ⟨hlt, by rw [String.utf8EncodeChar_eq_singleton hsize]; rfl⟩
  · obtain ⟨b, more, hencode, hb⟩ := Number.exists_encode_cons hge
    exact .inr ⟨hge, b, by rw [hencode]; rfl, hb⟩

/-- A byte is a digit if the character that starts with it is one. -/
theorem any_isDigitByte_head? (c : Char) : (String.utf8EncodeChar c).head?.any isDigitByte = c.isDigit := by
  rcases head?_encode c with ⟨hlt, hhead⟩ | ⟨hge, b, hhead, hb⟩
  · have hall : ∀ n < 128, isDigitByte (Char.ofNat n).toUInt8 = (Char.ofNat n).isDigit := by decide +kernel
    rw [hhead, Option.any_some, ← Char.ofNat_toNat c]
    exact hall _ hlt
  · rw [hhead, Option.any_some]
    have hdigit : ¬ c.isDigit = true := by
      intro h
      have hhigh : c.toNat ≤ '9'.toNat := UInt32.le_iff_toNat_le.1 (Number.isDigit_iff.1 h).2
      exact absurd (Nat.le_trans hge hhigh) (by decide)
    have hbyte : ¬ isDigitByte b = true := by
      intro h
      rw [isDigitByte, Bool.and_eq_true, decide_eq_true_eq, decide_eq_true_eq] at h
      exact absurd (Nat.le_trans hb (UInt8.le_iff_toNat_le.1 h.2)) (by decide)
    rw [Bool.eq_false_iff.2 hdigit, Bool.eq_false_iff.2 hbyte]

/-- A byte is a point if the character that starts with it is one. -/
theorem head?_encode_eq_point_iff (c : Char) :
    (String.utf8EncodeChar c).head? = some '.'.toUInt8 ↔ c = '.' := by
  refine ⟨fun h => ?_, by rintro rfl; rfl⟩
  rcases head?_encode c with ⟨hlt, hhead⟩ | ⟨-, b, hhead, hb⟩
  · rw [hhead, Option.some.injEq] at h
    have hall : ∀ n < 128, (Char.ofNat n).toUInt8 = '.'.toUInt8 → Char.ofNat n = '.' := by decide +kernel
    rw [← Char.ofNat_toNat c] at h ⊢
    exact hall _ hlt h
  · rw [hhead, Option.some.injEq] at h
    rw [h] at hb
    exact absurd hb (by decide)

theorem head?_bytes (rest : List Char) : (bytes rest).head? = rest.head?.bind fun c => (String.utf8EncodeChar c).head? := by
  cases rest with
  | nil => rfl
  | cons c rest =>
    have hne : String.utf8EncodeChar c ≠ [] := by
      intro hnil
      have hlength := String.length_utf8EncodeChar c
      rw [hnil] at hlength
      exact absurd hlength.symm (Nat.ne_of_gt c.utf8Size_pos)
    rw [bytes_cons, List.head?_append_of_ne_nil _ hne]
    rfl

theorem getElem?_bytes_eq_point_iff (before rest : List Char) :
    (bytes (before ++ rest))[byteLength before]? = some '.'.toUInt8 ↔ rest.head? = some '.' := by
  rw [getElem?_bytes_append, head?_bytes]
  cases rest with
  | nil => simp
  | cons c rest => simp [head?_encode_eq_point_iff]

theorem digitsFrom_unfold (bytes : List UInt8) (pos : Nat) :
    digitsFrom bytes pos = if bytes[pos]?.any isDigitByte then digitsFrom bytes (pos + 1) else pos := by
  rw [digitsFrom]
  split
  · rename_i h
    rw [List.getElem?_eq_getElem h, Option.any_some]
  · rename_i h
    rw [List.getElem?_eq_none (Nat.le_of_not_lt h), Option.any_none, if_neg Bool.false_ne_true]

/-- The digits that the scanner goes over in bytes are those of the text. -/
theorem digitsFrom_eq (before rest : List Char) :
    digitsFrom (bytes (before ++ rest)) (byteLength before) =
      byteLength before + byteLength (rest.takeWhile Char.isDigit) := by
  induction rest generalizing before with
  | nil =>
    rw [digitsFrom_unfold, getElem?_bytes_append]
    rfl
  | cons c rest ih =>
    rw [digitsFrom_unfold, getElem?_bytes_append, head?_bytes, List.head?_cons, Option.bind_some, any_isDigitByte_head?,
      List.takeWhile_cons]
    split
    · rename_i hc
      have hnext := ih (before ++ [c])
      rw [← List.append_cons, byteLength_concat, utf8Size_of_isDigit hc] at hnext
      rw [hnext, byteLength, utf8Size_of_isDigit hc, Nat.add_assoc]
    · rfl

/-- Digits around a point are what the reader of decimals makes of them. -/
theorem parse?_of_digits {whole fraction : List Char} (hsign : Decimal.readSign text = (false, text))
    (hdigits : Decimal.readDigits text = (whole, fraction, [])) (hne : ¬ (whole = [] ∧ fraction = []))
    (hchars : ∀ c ∈ text, c.isDigit = true ∨ c ∈ ['.', 'e', 'E', '+', '-']) :
    Number.parse? text = some ((Decimal.ofDigits whole fraction).toNumber false) := by
  have hread : Decimal.read? text = some (false, Decimal.ofDigits whole fraction) := by
    simp only [Decimal.read?, hsign, hdigits, if_neg hne]
  rw [Number.parse?_of_isDecimalChar hchars, hread]
  rfl

theorem allDigits_takeWhile (text : List Char) : Number.AllDigits (text.takeWhile Char.isDigit) :=
  fun _ hc => List.mem_takeWhile_imp hc

/-- A number that starts with a point or a digit has no sign. -/
theorem readSign_of_startsNumber (h : Lexer.startsNumber c text) (more : List Char) :
    Decimal.readSign (c :: more) = (false, c :: more) := by
  rcases h with hdigit | ⟨rfl, -⟩
  · exact Decimal.readSign_of_startsWithDigit ⟨c, more, rfl, hdigit⟩
  · rfl

/-- What the scanner cuts out is read as the number that the lexer finds, which takes as many characters. -/
def Cuts (before : List Char) (c : Char) (text digits : List Char) : Prop :=
  digits <+: c :: text ∧
    numberStop (before ++ c :: text) (byteLength before) = byteLength before + byteLength digits ∧
    Number.parse? digits = some (Lexer.scanNumber (c :: text)).1 ∧ (Lexer.scanNumber (c :: text)).2 = digits.length

theorem cuts_whole (before : List Char) (h : Lexer.startsNumber c text)
    (hpoint : ∀ rest, (c :: text).dropWhile Char.isDigit ≠ '.' :: rest) :
    Cuts before c text ((c :: text).takeWhile Char.isDigit) := by
  have hc : c.isDigit = true := by
    rcases h with hc | ⟨rfl, -⟩
    · exact hc
    · exact absurd (List.dropWhile_cons_of_neg (by decide)) (hpoint text)
  have happend := List.takeWhile_append_dropWhile (p := Char.isDigit) (l := c :: text)
  have hnumber := Lexer.scanNumber_of_no_point hpoint
  have hdigits := allDigits_takeWhile (c :: text)
  refine ⟨List.takeWhile_prefix _, ?_, ?_, congrArg Prod.snd hnumber⟩
  · have hafter : ((c :: text).dropWhile Char.isDigit).head? ≠ some '.' := by
      intro hhead
      obtain ⟨rest, hrest⟩ := List.head?_eq_some_iff.1 hhead
      exact hpoint rest hrest
    have hbyte := getElem?_bytes_eq_point_iff (before ++ (c :: text).takeWhile Char.isDigit)
      ((c :: text).dropWhile Char.isDigit)
    rw [List.append_assoc, happend, byteLength_append] at hbyte
    unfold numberStop
    simp only [digitsFrom_eq, hbyte, if_neg hafter]
  · rw [hnumber]
    have hread : Decimal.readDigits ((c :: text).takeWhile Char.isDigit ++ []) = _ :=
      Number.readDigits_whole hdigits (by simp)
    rw [List.append_nil] at hread
    rw [List.takeWhile_cons_of_pos hc] at hread ⊢
    refine parse?_of_digits (readSign_of_startsNumber h _) hread (by simp) fun d hd => ?_
    rw [List.takeWhile_cons_of_pos hc] at hdigits
    exact .inl (hdigits d hd)

/-- A number with a point has digits before or behind it. -/
theorem digits_around_point (h : Lexer.startsNumber c text) (hpoint : (c :: text).dropWhile Char.isDigit = '.' :: rest) :
    ¬ ((c :: text).takeWhile Char.isDigit = [] ∧ rest.takeWhile Char.isDigit = []) := by
  rintro ⟨hwhole, hfraction⟩
  rcases h with hc | ⟨rfl, hhead⟩
  · rw [List.takeWhile_cons_of_pos hc] at hwhole
    cases hwhole
  · rw [List.dropWhile_cons_of_neg (by decide)] at hpoint
    obtain rfl : text = rest := List.tail_eq_of_cons_eq hpoint
    obtain ⟨d, hd, hdigit⟩ := (Option.any_eq_true _ _).1 hhead
    obtain ⟨more, rfl⟩ := List.head?_eq_some_iff.1 hd
    rw [List.takeWhile_cons_of_pos hdigit] at hfraction
    cases hfraction

/-- The digits up to the point, and the point, start with the first character of the number. -/
theorem exists_digits_point (h : Lexer.startsNumber c text) (digits : List Char) :
    ∃ more, (c :: text).takeWhile Char.isDigit ++ '.' :: digits = c :: more := by
  rcases h with hc | ⟨rfl, -⟩
  · exact ⟨_, by rw [List.takeWhile_cons_of_pos hc, List.cons_append]⟩
  · exact ⟨_, by rw [List.takeWhile_cons_of_neg (by decide), List.nil_append]⟩

theorem cuts_point {rest : List Char} (before : List Char) (h : Lexer.startsNumber c text)
    (hpoint : (c :: text).dropWhile Char.isDigit = '.' :: rest) :
    Cuts before c text ((c :: text).takeWhile Char.isDigit ++ '.' :: rest.takeWhile Char.isDigit) := by
  have hnumber := Lexer.scanNumber_of_point hpoint
  have hne := digits_around_point h hpoint
  have hwhole := allDigits_takeWhile (c :: text)
  have hfraction := allDigits_takeWhile rest
  have happend := List.takeWhile_append_dropWhile (p := Char.isDigit) (l := c :: text)
  rw [hpoint] at happend
  refine ⟨?_, ?_, ?_, ?_⟩
  · refine ⟨rest.dropWhile Char.isDigit, ?_⟩
    rw [List.append_assoc, List.cons_append, List.takeWhile_append_dropWhile, happend]
  · -- the point follows the first digits, and the others follow the point
    have hbyte := getElem?_bytes_eq_point_iff (before ++ (c :: text).takeWhile Char.isDigit) ('.' :: rest)
    have hdigits := digitsFrom_eq (before ++ ((c :: text).takeWhile Char.isDigit ++ ['.'])) rest
    rw [List.append_assoc, happend, byteLength_append] at hbyte
    rw [List.append_assoc, List.append_assoc, List.singleton_append, happend, byteLength_append,
      byteLength_append] at hdigits
    unfold numberStop
    simp only [digitsFrom_eq, hbyte, List.head?_cons, if_true]
    rw [Nat.add_assoc, byteLength_append]
    exact hdigits.trans (by simp only [byteLength]; omega)
  · rw [hnumber]
    have hread : Decimal.readDigits (_ ++ '.' :: (_ ++ [])) = _ := Number.readDigits_point hwhole hfraction (by simp)
    rw [List.append_nil] at hread
    obtain ⟨more, hmore⟩ := exists_digits_point h (rest.takeWhile Char.isDigit)
    have hsign := readSign_of_startsNumber h more
    rw [← hmore] at hsign
    refine parse?_of_digits hsign hread hne fun d hd => ?_
    rcases List.mem_append.1 hd with hd | hd
    · exact .inl (hwhole d hd)
    · rcases List.mem_cons.1 hd with rfl | hd
      · exact .inr (by decide)
      · exact .inl (hfraction d hd)
  · rw [hnumber, List.length_append, List.length_cons]
    simp only
    omega

/-- The scanner reads the number that the lexer reads. -/
theorem scanNumber_eq (before : List Char) (h : Lexer.startsNumber c text) :
    scanNumber (before ++ c :: text) (byteLength before) =
      return (.literal (.number (Lexer.scanNumber (c :: text)).1),
        byteLength before + byteLength ((c :: text).take (Lexer.scanNumber (c :: text)).2)) := by
  obtain ⟨digits, ⟨after, hafter⟩, hstop, hparse, hlength⟩ : ∃ digits, Cuts before c text digits := by
    by_cases hpoint : ∃ rest, (c :: text).dropWhile Char.isDigit = '.' :: rest
    · exact hpoint.elim fun rest hrest => ⟨_, cuts_point before h hrest⟩
    · exact ⟨_, cuts_whole before h (not_exists.1 hpoint)⟩
  have htake : (c :: text).take digits.length = digits := by rw [← hafter, List.take_left]
  have hslice := slice_append before digits after
  rw [hafter] at hslice
  unfold scanNumber
  simp only [hstop, hslice, hlength, htake, reading_bind_ok, hparse]

/-! ### Words and flags -/

theorem findChar?_eq (isKind : Char → Bool) (text : List Char) :
    findChar? (!isKind ·) text =
      if (text.dropWhile isKind).isEmpty then none else some (byteLength (text.takeWhile isKind)) := by
  induction text with
  | nil => rfl
  | cons c text ih =>
    rw [findChar?, ih]
    cases hc : isKind c with
    | true =>
      rw [List.dropWhile_cons_of_pos hc, List.takeWhile_cons_of_pos hc]
      cases (text.dropWhile isKind).isEmpty <;> rfl
    | false =>
      rw [List.dropWhile_cons_of_neg (by simp [hc]), List.takeWhile_cons_of_neg (by simp [hc])]
      rfl

/-- The scanner stops behind the characters of a kind. -/
theorem stopAt_eq (isKind : Char → Bool) (before rest : List Char) :
    stopAt (before ++ rest) (!isKind ·) (byteLength before) =
      .ok (byteLength before + byteLength (rest.takeWhile isKind)) := by
  have hbind (f : List Char → Except Fault Nat) : Except.ok rest >>= f = f rest := rfl
  rw [stopAt, suffix_append, hbind, findChar?_eq]
  cases hempty : (rest.dropWhile isKind).isEmpty with
  | true =>
    have happend := List.takeWhile_append_dropWhile (p := isKind) (l := rest)
    rw [List.isEmpty_iff.1 hempty, List.append_nil] at happend
    rw [happend, ← byteLength_append]
    rfl
  | false => rfl

/-- The scanner reads the word that the lexer reads. -/
theorem scanWord_eq (before rest : List Char) :
    scanWord (before ++ rest) (byteLength before) =
      require (byteLength before) ((Lexer.wordLexeme? (String.ofList (rest.takeWhile Lexer.isWordPart))).map
        (·, byteLength before + byteLength (rest.takeWhile Lexer.isWordPart))) := by
  have hslice := slice_append before (rest.takeWhile Lexer.isWordPart) (rest.dropWhile Lexer.isWordPart)
  rw [List.takeWhile_append_dropWhile] at hslice
  unfold scanWord
  simp only [stopAt_eq, run_bind_ok, hslice]
  cases Lexer.wordLexeme? (String.ofList (rest.takeWhile Lexer.isWordPart)) <;> rfl

/-! ### Regular expressions -/

theorem scanPattern_unfold {inSet : Bool} :
    scanPattern source pos inSet =
      match charAt? source pos with
      | none => none
      | some c =>
        if c = '\n' ∨ c = '\r' then none
        else if c = '\\' then
          match charAt? source (pos + 1) with
          | none => none
          | some escaped => scanPattern source (pos + (1 + escaped.utf8Size)) inSet
        else if c = '[' then scanPattern source (pos + c.utf8Size) true
        else if c = ']' then scanPattern source (pos + c.utf8Size) false
        else if c = '/' ∧ !inSet then some pos
        else scanPattern source (pos + c.utf8Size) inSet := by
  rw [scanPattern]
  split
  · rename_i h
    rw [h]
  · rename_i c h
    rw [h]
    simp only
    split
    · rfl
    · split
      · split
        · rename_i h'
          rw [h']
        · rename_i h'
          rw [h']
      · rfl

/-- Behind characters that are passed over a scan ends as the one of the rest. -/
theorem scanPattern_past {inSet : Bool} (before skipped : List Char)
    (hrest : ∀ before, scanPattern (before ++ rest) (byteLength before) inSet =
      (Lexer.scanPattern inSet rest).map fun n => byteLength before + byteLength (rest.take n)) :
    scanPattern (before ++ (skipped ++ rest)) (byteLength before + byteLength skipped) inSet =
      ((Lexer.scanPattern inSet rest).map (· + skipped.length)).map fun n =>
        byteLength before + byteLength ((skipped ++ rest).take n) := by
  have hnext := hrest (before ++ skipped)
  rw [List.append_assoc, byteLength_append] at hnext
  rw [hnext, Option.map_map]
  congr 1
  funext n
  simp only [Function.comp_apply]
  rw [Nat.add_comm n, List.take_length_add_append, byteLength_append, Nat.add_assoc]

/-- The scanner closes a pattern where the lexer does. -/
theorem scanPattern_eq (before rest : List Char) (inSet : Bool) :
    scanPattern (before ++ rest) (byteLength before) inSet =
      (Lexer.scanPattern inSet rest).map fun n => byteLength before + byteLength (rest.take n) := by
  fun_induction Lexer.scanPattern inSet rest generalizing before with
  | case1 =>
    rw [scanPattern_unfold, charAt?_append]
    rfl
  | case2 inSet c rest ih =>
    have hahead := charAt?_concat before '\\' (c :: rest)
    rw [show Char.utf8Size '\\' = 1 by decide] at hahead
    rw [scanPattern_unfold, charAt?_append]
    simp only [List.head?_cons, if_true, hahead]
    rw [if_neg (by decide)]
    exact scanPattern_past before ['\\', c] ih
  | case3 inSet c rest hpair hbreak =>
    rw [scanPattern_unfold, charAt?_append]
    simp only [List.head?_cons]
    rw [if_pos hbreak]
    rfl
  | case4 inSet c rest hpair hbreak hclose =>
    rw [scanPattern_unfold, charAt?_append]
    obtain ⟨rfl, hset⟩ := hclose
    simp [hset, byteLength]
  | case5 inSet c rest hpair hbreak hclose ih =>
    rw [scanPattern_unfold, charAt?_append]
    simp only [List.head?_cons]
    rw [if_neg hbreak]
    by_cases hslash : c = '\\'
    · -- nothing follows the backslash
      obtain rfl : rest = [] := by
        cases rest with
        | nil => rfl
        | cons d rest => exact absurd rfl (hpair d rest hslash)
      have hahead := charAt?_concat before c []
      rw [hslash, show Char.utf8Size '\\' = 1 by decide] at hahead
      rw [if_pos hslash, hslash, hahead]
      rfl
    · rw [if_neg hslash]
      by_cases hopen : c = '['
      · rw [if_pos hopen]
        rw [if_pos hopen] at ih ⊢
        exact scanPattern_past before [c] ih
      · rw [if_neg hopen]
        rw [if_neg hopen] at ih ⊢
        by_cases hshut : c = ']'
        · rw [if_pos hshut]
          rw [if_pos hshut] at ih ⊢
          exact scanPattern_past before [c] ih
        · rw [if_neg hshut, if_neg hclose]
          rw [if_neg hshut] at ih ⊢
          exact scanPattern_past before [c] ih

theorem byteLength_slash (text : List Char) : byteLength (text ++ ['/']) = byteLength text + 1 :=
  byteLength_concat text '/'

section
variable {pattern : List Char}

/-- The lexer takes all letters behind a closed pattern as flags. -/
theorem lexer_scanRegex_of_closed (hscan : Lexer.scanPattern false (pattern ++ '/' :: rest) = some pattern.length)
    (hnil : pattern ≠ []) :
    Lexer.scanRegex (pattern ++ '/' :: rest) =
      some (pattern, rest.takeWhile Char.isAlpha, pattern.length + 1 + (rest.takeWhile Char.isAlpha).length) := by
  obtain ⟨k, hk⟩ : ∃ k, pattern.length = k + 1 :=
    Nat.exists_eq_succ_of_ne_zero (mt List.eq_nil_of_length_eq_zero hnil)
  refine Lexer.scanRegex_eq_some_iff.2 ⟨k, by rw [hscan, hk], ?_, ?_, by rw [hk]⟩
  · rw [← hk, List.take_left]
  · rw [show k + 2 = pattern.length + 1 by omega, Lexer.drop_closing]

/-- So does the scanner, whose slices are the pattern and the flags. -/
theorem scanRegex_of_closed (before : List Char)
    (hscan : scanPattern (before ++ '/' :: (pattern ++ '/' :: rest)) (byteLength before + 1) false =
      some (byteLength before + 1 + byteLength pattern))
    (hnil : pattern ≠ []) :
    scanRegex (before ++ '/' :: (pattern ++ '/' :: rest)) (byteLength before) =
      return (.regex (String.ofList pattern) (String.ofList (rest.takeWhile Char.isAlpha)),
        byteLength before + byteLength (('/' :: (pattern ++ ['/'])) ++ rest.takeWhile Char.isAlpha)) := by
  have hne : byteLength before + 1 + byteLength pattern ≠ byteLength before + 1 := by
    obtain ⟨c, pattern, rfl⟩ := List.exists_cons_of_ne_nil hnil
    have hpos := c.utf8Size_pos
    rw [byteLength]
    omega
  -- the flags stand between the closing slash and what is no letter
  have hplace : byteLength (before ++ '/' :: (pattern ++ ['/'])) = byteLength before + 1 + byteLength pattern + 1 := by
    rw [List.append_cons, ← List.append_assoc, byteLength_slash, byteLength_append, byteLength_slash]
  have hsource : (before ++ '/' :: (pattern ++ ['/'])) ++ rest = before ++ '/' :: (pattern ++ '/' :: rest) := by simp
  have hcut := slice_append (before ++ ['/']) pattern ('/' :: rest)
  have hstop := stopAt_eq Char.isAlpha (before ++ '/' :: (pattern ++ ['/'])) rest
  have hcut' := slice_append (before ++ '/' :: (pattern ++ ['/'])) (rest.takeWhile Char.isAlpha)
    (rest.dropWhile Char.isAlpha)
  rw [← List.append_cons, byteLength_slash] at hcut
  rw [hsource, hplace] at hstop
  rw [List.takeWhile_append_dropWhile, hsource, hplace] at hcut'
  have hlength : byteLength before + 1 + byteLength pattern + 1 + byteLength (rest.takeWhile Char.isAlpha) =
      byteLength before + byteLength (('/' :: (pattern ++ ['/'])) ++ rest.takeWhile Char.isAlpha) := by
    rw [← hplace, byteLength_append, byteLength_append, Nat.add_assoc]
  unfold scanRegex
  simp only [hscan, if_neg hne, hcut, hstop, hcut', reading_bind_ok]
  rw [hlength]

end

/-- The scanner reads the regular expression that the lexer reads. -/
theorem scanRegex_eq (before text : List Char) :
    scanRegex (before ++ '/' :: text) (byteLength before) =
      OptionT.mk (.ok ((Lexer.scanRegex text).map fun (pattern, flags, n) =>
        (Lexeme.regex (String.ofList pattern) (String.ofList flags),
          byteLength before + byteLength (('/' :: text).take (n + 1))))) := by
  have hpattern := scanPattern_eq (before ++ ['/']) text false
  rw [← List.append_cons, byteLength_slash] at hpattern
  cases hscan : Lexer.scanPattern false text with
  | none =>
    rw [scanRegex, hpattern, Lexer.scanRegex, hscan]
    rfl
  | some n =>
    obtain ⟨pattern, rest, rfl, rfl, -⟩ := Lexer.scanPattern_eq_some_iff.1 hscan
    rw [hscan, Option.map_some, List.take_left] at hpattern
    by_cases hnil : pattern = []
    · -- a pattern may not be empty
      subst hnil
      rw [scanRegex, hpattern, Lexer.scanRegex, hscan]
      exact if_pos rfl
    · have htake : ('/' :: (pattern ++ '/' :: rest)).take
          (pattern.length + 1 + (rest.takeWhile Char.isAlpha).length + 1) =
            ('/' :: (pattern ++ ['/'])) ++ rest.takeWhile Char.isAlpha := by
        have happend : '/' :: (pattern ++ '/' :: rest) =
            (('/' :: (pattern ++ ['/'])) ++ rest.takeWhile Char.isAlpha) ++ rest.dropWhile Char.isAlpha := by simp
        rw [happend]
        refine List.take_left' ?_
        simp only [List.length_append, List.length_cons, List.length_nil]
        omega
      rw [scanRegex_of_closed before hpattern hnil, lexer_scanRegex_of_closed hscan hnil, Option.map_some]
      simp only [htake]
      rfl

/-! ### The scan -/

theorem utf8Size_of_symbol (h : symbols.contains c = true) : c.utf8Size = 1 := by
  have hall : symbols.all (·.val ≤ 0x7f) = true := by decide
  exact Char.utf8Size_eq_one_iff.2 (of_decide_eq_true (List.all_eq_true.1 hall c (List.contains_iff_mem.1 h)))

/-- Where a point stands, the scanner looks at the character behind it. -/
theorem point_iff (before text : List Char) :
    (c = '.' ∧ (charAt? (before ++ c :: text) (byteLength before + 1)).any Char.isDigit = true) ↔
      c = '.' ∧ text.head?.any Char.isDigit = true := by
  refine and_congr_right ?_
  rintro rfl
  rw [show byteLength before + 1 = byteLength before + Char.utf8Size '.' from rfl, charAt?_concat]

/-- The scanner finds the lexeme that the lexer finds, or rejects the text at the same place. -/
theorem scanLexeme_eq {s : State} (hpos : s.pos = byteLength before) :
    (scanLexeme (before ++ c :: text) s c >>= require s.pos) =
      require s.pos ((Lexer.lexeme? s.regexAllowed c text).map fun (lexeme, n) =>
        (lexeme, byteLength before + byteLength ((c :: text).take n))) := by
  unfold scanLexeme
  simp only [hpos, point_iff]
  by_cases hq : c = '\x27' ∨ c = '\x22'
  · have hsize : c.utf8Size = 1 := by rcases hq with rfl | rfl <;> decide
    have hquote : c ≠ '\\' := by rcases hq with rfl | rfl <;> decide
    have hstring := scanString_eq hquote (before ++ [c]) text []
    rw [← List.append_cons, byteLength_concat, hsize] at hstring
    rw [if_pos hq, Lexer.lexeme?_of_quote hq, hstring, pure_bind, Option.map_map, Option.map_map]
    congr 2
    funext ⟨s, n⟩
    simp [byteLength, hsize, Nat.add_assoc]
  rw [if_neg hq]
  by_cases hd : Lexer.startsNumber c text
  · rw [Lexer.lexeme?_of_startsNumber hq hd, scanNumber_eq before hd]
    rcases hd with hdigit | hpoint
    · rw [if_pos hdigit]
      rfl
    · rw [if_neg (by rw [hpoint.1]; decide), if_pos hpoint]
      rfl
  rw [if_neg fun h => hd (.inl h), if_neg fun h => hd (.inr h)]
  by_cases hregex : c = '/' ∧ s.regexAllowed = true
  · rw [if_pos hregex, hregex.2]
    obtain ⟨rfl, -⟩ := hregex
    rw [scanRegex_eq]
    cases hscan : Lexer.scanRegex text with
    | none =>
      rw [Lexer.lexeme?_of_scanRegex_eq_none hscan]
      rfl
    | some r =>
      rw [Lexer.lexeme?_of_scanRegex hscan]
      rfl
  rw [if_neg hregex]
  by_cases hw : Lexer.isWordStart c = true
  · have htake := List.prefix_iff_eq_take.1 (List.takeWhile_prefix Lexer.isWordPart (l := c :: text))
    rw [if_pos hw, Lexer.lexeme?_of_isWordStart hq hd hw, scanWord_eq, Option.map_map]
    have hplace : ((fun (lexeme, n) => (lexeme, byteLength before + byteLength ((c :: text).take n))) ∘
        fun lexeme : Lexeme => (lexeme, ((c :: text).takeWhile Lexer.isWordPart).length)) =
        fun lexeme => (lexeme, byteLength before + byteLength ((c :: text).takeWhile Lexer.isWordPart)) := by
      funext lexeme
      simp only [Function.comp, ← htake]
    rw [hplace]
    cases Lexer.wordLexeme? (String.ofList ((c :: text).takeWhile Lexer.isWordPart)) <;> rfl
  rw [if_neg hw, Lexer.lexeme?_of_symbol hq hd hw hregex]
  split
  · rename_i hsymbol
    rw [pure_bind, Option.map_some, List.take_succ_cons, List.take_zero, byteLength, byteLength,
      utf8Size_of_symbol hsymbol]
  · rfl

theorem regexAllowed_eq (s : State) : s.regexAllowed = (s.tokens.getLast?.map Token.lexeme).all Lexeme.admitsRegex := by
  unfold State.regexAllowed
  cases s.tokens.getLast? <;> rfl

/-- A step over a lexeme is decided by the lexer. -/
theorem step_of_lexeme? {s : State} (hpos : s.pos = byteLength before) (hblank : ¬ Unicode.isBlank c = true) :
    step (before ++ c :: text) s =
      require s.pos ((Lexer.lexeme? s.regexAllowed c text).map fun (lexeme, n) =>
        (lexeme, byteLength before + byteLength ((c :: text).take n))) >>= fun (lexeme, stop) =>
          some <$> s.push lexeme stop := by
  rw [← scanLexeme_eq hpos, bind_assoc]
  unfold step
  rw [hpos, charAt?_append]
  simp only [List.head?_cons, if_neg hblank, ← map_eq_pure_bind]

theorem minus_add (m n : Nat) : minus (m + n) m = .ok n := by
  rw [minus, if_pos (Nat.le_add_right ..), Nat.add_sub_cancel_left]
  rfl

section
variable {tokens : List Token} {touching : Bool} {l : Lexeme} {n : Nat}

theorem step_of_end (before : List Char) :
    step (before ++ []) ⟨byteLength before, tokens, touching⟩ = pure none := by
  rw [step, charAt?_append]
  rfl

theorem step_of_isBlank (before : List Char) (hblank : Unicode.isBlank c = true) :
    step (before ++ c :: text) ⟨byteLength before, tokens, touching⟩ =
      pure (some ⟨byteLength (before ++ [c]), tokens, false⟩) := by
  rw [step, charAt?_append]
  simp only [List.head?_cons, if_pos hblank, byteLength_concat]

theorem step_of_lexeme?_eq_none (before : List Char) (hblank : ¬ Unicode.isBlank c = true)
    (hnone : Lexer.lexeme? ((tokens.getLast?.map Token.lexeme).all Lexeme.admitsRegex) c text = none) :
    step (before ++ c :: text) ⟨byteLength before, tokens, touching⟩ = throw (.invalidToken (byteLength before)) := by
  rw [← regexAllowed_eq ⟨byteLength before, tokens, touching⟩] at hnone
  rw [step_of_lexeme? rfl hblank, hnone]
  rfl

theorem step_of_glued (before : List Char) (hblank : ¬ Unicode.isBlank c = true)
    (hsome : Lexer.lexeme? ((tokens.getLast?.map Token.lexeme).all Lexeme.admitsRegex) c text = some (l, n))
    (hglued : (l.isOperand && touching) = true) :
    step (before ++ c :: text) ⟨byteLength before, tokens, touching⟩ = throw (.invalidToken (byteLength before)) := by
  rw [← regexAllowed_eq ⟨byteLength before, tokens, touching⟩] at hsome
  rw [step_of_lexeme? rfl hblank, hsome, Option.map_some, require, pure_bind]
  simp only [State.push, if_pos hglued]
  rfl

theorem step_of_token (before : List Char) (hblank : ¬ Unicode.isBlank c = true)
    (hsome : Lexer.lexeme? ((tokens.getLast?.map Token.lexeme).all Lexeme.admitsRegex) c text = some (l, n))
    (hglued : ¬ (l.isOperand && touching) = true) :
    step (before ++ c :: text) ⟨byteLength before, tokens, touching⟩ =
      pure (some ⟨byteLength (before ++ (c :: text).take n),
        tokens ++ [⟨l, byteLength before, byteLength ((c :: text).take n)⟩], l.isOperand⟩) := by
  rw [← regexAllowed_eq ⟨byteLength before, tokens, touching⟩] at hsome
  rw [step_of_lexeme? rfl hblank, hsome, Option.map_some, require, pure_bind]
  simp only [State.push, if_neg hglued, minus_add, run_bind_ok]
  rw [← byteLength_append]
  rfl

end

section
variable {fuel : Nat} {s s' : State}

theorem run_of_end (h : step source s = pure none) : run source (fuel + 1) s = some (.ok (.ok s.tokens)) := by
  rw [run, h]
  rfl

theorem run_of_next (h : step source s = pure (some s')) : run source (fuel + 1) s = run source fuel s' := by
  rw [run, h]
  rfl

theorem run_of_reject {e : SyntaxError} (h : step source s = throw e) :
    run source (fuel + 1) s = some (.ok (.error e)) := by
  rw [run, h]
  rfl

end

/-- A run that has more steps left than there are characters puts the tokens that the lexer reads behind those read so
far, or rejects the text where the lexer does. -/
theorem run_eq {fuel offset : Nat} {last : Option Lexeme} {touching : Bool} (before : List Char) (tokens : List Token)
    (hfuel : rest.length < fuel) (hoffset : byteLength before = offset)
    (hlast : tokens.getLast?.map Token.lexeme = last) :
    run (before ++ rest) fuel ⟨byteLength before, tokens, touching⟩ =
      some (.ok ((Lexer.scan offset last touching rest).map (tokens ++ ·))) := by
  obtain ⟨fuel, rfl⟩ := Nat.exists_eq_succ_of_ne_zero (Nat.ne_zero_of_lt hfuel)
  fun_induction Lexer.scan offset last touching rest generalizing before tokens fuel with
  | case1 offset last touching => rw [run_of_end (step_of_end before), Except.map, List.append_nil]
  | case2 offset last touching c text hblank ih =>
    obtain ⟨fuel, rfl⟩ := Nat.exists_eq_succ_of_ne_zero (Nat.ne_zero_of_lt (Nat.lt_of_succ_lt_succ hfuel))
    have hrest := ih (before ++ [c]) tokens (by rw [byteLength_concat, hoffset]) hlast fuel
      (Nat.lt_of_succ_lt_succ hfuel)
    rw [← List.append_cons] at hrest
    rw [run_of_next (step_of_isBlank before hblank), hrest]
  | case3 offset last touching c text hblank hnone =>
    subst hoffset hlast
    rw [run_of_reject (step_of_lexeme?_eq_none before hblank hnone)]
    rfl
  | case4 offset last touching c text hblank l n hsome hglued =>
    subst hoffset hlast
    rw [run_of_reject (step_of_glued before hblank hsome hglued)]
    rfl
  | case5 offset last touching c text hblank l n hsome hglued length =>
    rename_i ih
    subst hoffset hlast
    obtain ⟨hpos, hlen⟩ := Lexer.lexeme?_length hsome
    have hdrop : before ++ c :: text = (before ++ (c :: text).take n) ++ text.drop (n - 1) := by
      obtain ⟨k, rfl⟩ : ∃ k, n = k + 1 := ⟨n - 1, by omega⟩
      rw [List.append_assoc, List.take_succ_cons, Nat.add_sub_cancel, List.cons_append, List.take_append_drop]
    have hfuel' : (text.drop (n - 1)).length < fuel := by
      rw [List.length_cons] at hfuel
      rw [List.length_drop]
      omega
    obtain ⟨fuel, rfl⟩ := Nat.exists_eq_succ_of_ne_zero (Nat.ne_zero_of_lt hfuel')
    have hrest := ih (before ++ (c :: text).take n)
      (tokens ++ [⟨l, byteLength before, byteLength ((c :: text).take n)⟩]) (byteLength_append ..)
      (by rw [List.getLast?_concat]; rfl) fuel hfuel'
    rw [run_of_next (step_of_token before hblank hsome hglued), hdrop, hrest]
    cases Lexer.scan (byteLength before + length) (some l) l.isOperand (text.drop (n - 1)) with
    | error e => rfl
    | ok ts =>
      simp only [Except.map, List.append_assoc, List.singleton_append]
      rfl

/-- The scanner never breaks.  It ends with the tokens of a text, or rejects it as the lexer does. -/
theorem run_start (source : String) {fuel : Nat} (hfuel : source.toList.length < fuel) :
    run source.toList fuel .start = some (.ok (tokenize source)) := by
  have h : run ([] ++ source.toList) fuel ⟨0, [], false⟩ = _ := run_eq [] [] hfuel rfl rfl
  rw [List.nil_append] at h
  refine h.trans ?_
  change some (Except.ok ((tokenize source).map ([] ++ ·))) = _
  cases tokenize source <;> rfl

end Scanner

end ExprLang
