import ExprLang.Number.Reading
import Mathlib.Data.List.Forall2
import Mathlib.Data.List.TakeWhile
import Mathlib.Data.Nat.Digits.Defs
import Mathlib.Tactic.Ring

/-!
# The texts of numbers

What a text without white space around it must look like to stand for a number.

* A decimal is a sign, digits with a point, and an exponent, all but the digits being optional
  (`Number.isSome_read?_iff`).
* A whole number may have a prefix for its base.  The digits behind the prefix are read from the left, their value must
  be less than `2 ^ 64`, and a plus sign may come before them (`Number.ofBase?_eq_some_iff`).

The look at the bytes keeps all but decimals from the reader of decimals (`Number.parse?_of_all`), and a prefix is found
where a text has one (`Number.dropBase?_eq_some_iff`).  The three forms of text, these two and infinity, exclude each
other, so a text stands for a number exactly if it has one of them (`Number.isNumber_ofTrimmed_iff`).
-/

namespace ExprLang.Number

open Decimal

/-! ### The written forms of numbers -/

/-- Nothing but decimal digits. -/
def AllDigits (text : List Char) : Prop := ∀ c ∈ text, c.isDigit = true

/-- An optional sign. -/
def IsSign (text : List Char) : Prop := text = [] ∨ text = ['+'] ∨ text = ['-']

/-- The word for infinity with an optional sign. -/
def IsInfinity (text : List Char) : Prop := ∃ sign, IsSign sign ∧ text = sign ++ "Infinity".toList

/-- Digits with an optional point, at least one of them. -/
def IsMantissa (text : List Char) : Prop :=
  ∃ whole fraction, AllDigits whole ∧ AllDigits fraction ∧ (whole ≠ [] ∨ fraction ≠ []) ∧
    (text = whole ++ '.' :: fraction ∨ (fraction = [] ∧ text = whole))

/-- An optional sign and at least one digit. -/
def IsInteger (text : List Char) : Prop :=
  ∃ sign digits, IsSign sign ∧ AllDigits digits ∧ digits ≠ [] ∧ text = sign ++ digits

/-- Nothing, or the letter of the exponent before a whole number. -/
def IsExponent (text : List Char) : Prop :=
  text = [] ∨ ∃ mark exponent, (mark = 'e' ∨ mark = 'E') ∧ IsInteger exponent ∧ text = mark :: exponent

/-- A decimal: an optional sign, digits with an optional point, and an optional exponent. -/
def IsDecimal (text : List Char) : Prop :=
  ∃ sign mantissa exponent, IsSign sign ∧ IsMantissa mantissa ∧ IsExponent exponent ∧
    text = sign ++ (mantissa ++ exponent)

/-- A digit of a base of at most sixteen, with its value. -/
def IsBaseDigit (base : Nat) (c : Char) (v : Nat) : Prop :=
  v < base ∧ ("0123456789abcdef".toList[v]? = some c ∨ "0123456789ABCDEF".toList[v]? = some c)

/-- At least one digit of a base, with the value of all digits. -/
def IsBaseNumeral (base : Nat) (digits : List Char) (n : Nat) : Prop :=
  digits ≠ [] ∧ ∃ values, List.Forall₂ (IsBaseDigit base) digits values ∧ n = Nat.ofDigits base values.reverse

/-- The base that a letter behind a zero announces. -/
def baseOfMark? : Char → Option Nat
  | 'x' | 'X' => some 16
  | 'o' | 'O' => some 8
  | 'b' | 'B' => some 2
  | _ => none

/-- A prefix for a base, and what comes behind it. -/
def HasPrefix (base : Nat) (text rest : List Char) : Prop :=
  ∃ mark, baseOfMark? mark = some base ∧ text = '0' :: mark :: rest

/-- A whole number with a prefix for its base. -/
def IsPrefixed (text : List Char) (n : Nat) : Prop :=
  ∃ base digits, HasPrefix base text digits ∧ IsBaseNumeral base digits n

/-- A whole number with a prefix for its base and a plus sign between the prefix and the digits. -/
def IsPlusPrefixed (text : List Char) (n : Nat) : Prop :=
  ∃ base digits, HasPrefix base text ('+' :: digits) ∧ IsBaseNumeral base digits n

/-- The written form of a number: nothing, infinity, a decimal, or a whole number with a prefix for its base. -/
def IsNumeral (text : List Char) : Prop :=
  text = [] ∨ IsInfinity text ∨ IsDecimal text ∨ ∃ n, IsPrefixed text n

/-! ### Decimals -/

theorem AllDigits.isDigit_of_head? {text : List Char} {c : Char} (h : AllDigits text) (hc : text.head? = some c) :
    c.isDigit = true := h c (List.mem_of_mem_head? hc)

/-- A text that starts with a digit or a point has no sign. -/
theorem readSign_append {sign text : List Char} (hs : IsSign sign)
    (ht : ∀ c, text.head? = some c → c ≠ '+' ∧ c ≠ '-') : (readSign (sign ++ text)).2 = text := by
  rcases hs with rfl | rfl | rfl
  · rw [List.nil_append]
    unfold readSign
    split
    · exact absurd rfl (ht '-' rfl).2
    · exact absurd rfl (ht '+' rfl).1
    · rfl
  · rfl
  · rfl

theorem exists_sign (text : List Char) : ∃ sign, IsSign sign ∧ text = sign ++ (readSign text).2 := by
  unfold readSign
  split
  · exact ⟨['-'], .inr (.inr rfl), rfl⟩
  · exact ⟨['+'], .inr (.inl rfl), rfl⟩
  · exact ⟨[], .inl rfl, rfl⟩

theorem isSome_readExponent?_iff {text : List Char} : (readExponent? text).isSome ↔ IsInteger text := by
  have hread : (readExponent? text).isSome ↔ (readSign text).2 ≠ [] ∧ AllDigits (readSign text).2 := by
    simp only [readExponent?]
    split <;> simp_all [AllDigits]
  rw [hread]
  constructor
  · rintro ⟨hne, hdigits⟩
    obtain ⟨sign, hs, htext⟩ := exists_sign text
    exact ⟨sign, _, hs, hdigits, hne, htext⟩
  · rintro ⟨sign, digits, hs, hdigits, hne, rfl⟩
    have hhead (c : Char) (hc : digits.head? = some c) : c ≠ '+' ∧ c ≠ '-' := by
      have := hdigits.isDigit_of_head? hc
      constructor <;> rintro rfl <;> revert this <;> decide
    rw [readSign_append hs hhead]
    exact ⟨hne, hdigits⟩

theorem span_digits {digits rest : List Char} (h : AllDigits digits)
    (hrest : ∀ c, rest.head? = some c → c.isDigit = false) :
    (digits ++ rest).takeWhile Char.isDigit = digits ∧ (digits ++ rest).dropWhile Char.isDigit = rest := by
  rw [List.takeWhile_append_of_pos h, List.dropWhile_append_of_pos h]
  cases rest with
  | nil => simp
  | cons c rest =>
    have hc : c.isDigit = false := hrest c rfl
    simp [hc]

theorem readDigits_point {whole fraction rest : List Char} (hwhole : AllDigits whole) (hfraction : AllDigits fraction)
    (hrest : ∀ c, rest.head? = some c → c.isDigit = false) :
    readDigits (whole ++ '.' :: (fraction ++ rest)) = (whole, fraction, rest) := by
  have hpoint (c : Char) (hc : ('.' :: (fraction ++ rest)).head? = some c) : c.isDigit = false := by
    obtain rfl : '.' = c := Option.some.inj hc
    decide
  unfold readDigits
  simp only [span_digits hwhole hpoint, span_digits hfraction hrest]

theorem readDigits_whole {whole rest : List Char} (hwhole : AllDigits whole)
    (hrest : ∀ c, rest.head? = some c → c.isDigit = false ∧ c ≠ '.') :
    readDigits (whole ++ rest) = (whole, [], rest) := by
  unfold readDigits
  simp only [span_digits hwhole fun c hc => (hrest c hc).1]
  split
  · exact absurd rfl (hrest '.' rfl).2
  · rfl

theorem exists_digits {text whole fraction rest : List Char} (h : readDigits text = (whole, fraction, rest)) :
    AllDigits whole ∧ AllDigits fraction ∧
      (text = whole ++ '.' :: (fraction ++ rest) ∨ (fraction = [] ∧ text = whole ++ rest)) := by
  have htext := List.takeWhile_append_dropWhile (p := Char.isDigit) (l := text)
  have hdigits (l : List Char) : AllDigits (l.takeWhile Char.isDigit) := fun c hc => List.mem_takeWhile_imp hc
  unfold readDigits at h
  simp only at h
  split at h
  · rename_i after hafter
    cases h
    rw [hafter] at htext
    refine ⟨hdigits text, hdigits after, .inl ?_⟩
    rw [List.takeWhile_append_dropWhile]
    exact htext.symm
  · cases h
    exact ⟨hdigits text, fun c hc => absurd hc List.not_mem_nil, .inr ⟨rfl, htext.symm⟩⟩

theorem isExponent_cons_iff {mark : Char} {text : List Char} :
    IsExponent (mark :: text) ↔ (mark = 'e' ∨ mark = 'E') ∧ IsInteger text := by
  constructor
  · rintro (h | ⟨_, _, hmark, hinteger, h⟩)
    · cases h
    · cases h
      exact ⟨hmark, hinteger⟩
  · rintro ⟨hmark, hinteger⟩
    exact .inr ⟨mark, text, hmark, hinteger, rfl⟩

theorem IsExponent.head? {text : List Char} {c : Char} (h : IsExponent text) (hc : text.head? = some c) :
    c = 'e' ∨ c = 'E' := by
  rcases h with rfl | ⟨mark, exponent, hmark, -, rfl⟩
  · cases hc
  · rwa [← Option.some.inj hc]

theorem IsMantissa.exists_cons {text : List Char} (h : IsMantissa text) :
    ∃ c rest, text = c :: rest ∧ (c.isDigit = true ∨ c = '.') := by
  obtain ⟨whole, fraction, hwhole, -, hne, htext⟩ := h
  cases whole with
  | nil =>
    rcases htext with rfl | ⟨rfl, -⟩
    · exact ⟨'.', fraction, rfl, .inr rfl⟩
    · simp at hne
  | cons c whole =>
    have hc : c.isDigit = true := hwhole c (List.mem_cons_self ..)
    rcases htext with rfl | ⟨-, rfl⟩
    · exact ⟨c, _, rfl, .inl hc⟩
    · exact ⟨c, whole, rfl, .inl hc⟩

/-- What is read as a decimal is a sign, digits and an exponent. -/
theorem isSome_read?_iff_parts {text whole fraction rest : List Char}
    (h : readDigits (readSign text).2 = (whole, fraction, rest)) :
    (read? text).isSome ↔ (whole ≠ [] ∨ fraction ≠ []) ∧ IsExponent rest := by
  simp only [read?, h]
  split
  · rename_i hnone
    simp [hnone]
  · rename_i hsome
    rw [not_and_or] at hsome
    simp only [hsome, true_and]
    cases rest with
    | nil => simp [IsExponent]
    | cons mark rest =>
      rw [isExponent_cons_iff]
      simp only
      split
      · rename_i hmark
        simp only [Option.isSome_map, hmark, true_and]
        exact isSome_readExponent?_iff
      · rename_i hmark
        simp [hmark]

theorem isSome_read?_iff {text : List Char} : (read? text).isSome ↔ IsDecimal text := by
  constructor
  · intro h
    obtain ⟨whole, fraction, rest, hread⟩ : ∃ whole fraction rest, readDigits (readSign text).2 = (whole, fraction, rest) :=
      ⟨_, _, _, rfl⟩
    obtain ⟨hne, hexponent⟩ := (isSome_read?_iff_parts hread).1 h
    obtain ⟨hwhole, hfraction, hparts⟩ := exists_digits hread
    obtain ⟨sign, hs, htext⟩ := exists_sign text
    rcases hparts with hparts | ⟨hfraction', hparts⟩
    · refine ⟨sign, whole ++ '.' :: fraction, rest, hs, ⟨whole, fraction, hwhole, hfraction, hne, .inl rfl⟩, hexponent, ?_⟩
      rw [htext, hparts]
      simp
    · refine ⟨sign, whole, rest, hs, ⟨whole, fraction, hwhole, hfraction, hne, .inr ⟨hfraction', rfl⟩⟩, hexponent, ?_⟩
      rw [htext, hparts]
  · rintro ⟨sign, mantissa, exponent, hs, hm, hexponent, rfl⟩
    obtain ⟨first, others, hfirst, hunsigned⟩ := hm.exists_cons
    obtain ⟨whole, fraction, hwhole, hfraction, hne, hmantissa⟩ := hm
    have hrest (c : Char) (hc : exponent.head? = some c) : c.isDigit = false ∧ c ≠ '.' := by
      rcases hexponent.head? hc with rfl | rfl <;> decide
    have hread : readDigits (mantissa ++ exponent) = (whole, fraction, exponent) := by
      rcases hmantissa with rfl | ⟨rfl, rfl⟩
      · rw [List.append_assoc, List.cons_append]
        exact readDigits_point hwhole hfraction fun c hc => (hrest c hc).1
      · exact readDigits_whole hwhole hrest
    have hhead (c : Char) (hc : (mantissa ++ exponent).head? = some c) : c ≠ '+' ∧ c ≠ '-' := by
      rw [hfirst, List.cons_append, List.head?_cons] at hc
      obtain rfl : first = c := Option.some.inj hc
      rcases hunsigned with hdigit | rfl
      · constructor <;> rintro rfl <;> revert hdigit <;> decide
      · decide
    rw [← readSign_append hs hhead] at hread
    exact (isSome_read?_iff_parts hread).2 ⟨hne, hexponent⟩

/-! ### Whole numbers with a prefix -/

theorem exists_ofNat_add {a b c : Char} (h : a ≤ c ∧ c ≤ b) :
    ∃ k, k ≤ b.toNat - a.toNat ∧ c.toNat = a.toNat + k ∧ c = Char.ofNat (a.toNat + k) := by
  have hlow : a.toNat ≤ c.toNat := UInt32.le_iff_toNat_le.1 h.1
  have hhigh : c.toNat ≤ b.toNat := UInt32.le_iff_toNat_le.1 h.2
  refine ⟨c.toNat - a.toNat, by omega, by omega, ?_⟩
  rw [Nat.add_sub_cancel' hlow, Char.ofNat_toNat]

theorem isDigit_iff {c : Char} : c.isDigit = true ↔ '0' ≤ c ∧ c ≤ '9' := by
  simp only [Char.isDigit, Bool.and_eq_true, decide_eq_true_eq, Char.le_def]

theorem digitValue?_eq_some_iff_hex {base : Nat} (hbase : base ≤ 16) {c : Char} {v : Nat} :
    digitValue? base c = some v ↔ v < base ∧ digitValue? 16 c = some v := by
  unfold digitValue?
  simp only [Option.ite_none_right_eq_some, Option.some.injEq]
  split
  · omega
  · split
    · omega
    · split <;> omega

theorem digitValue?_hex_iff {c : Char} {v : Nat} : digitValue? 16 c = some v ↔ IsBaseDigit 16 c v := by
  constructor
  · intro h
    unfold digitValue? at h
    simp only [Option.ite_none_right_eq_some, Option.some.injEq] at h
    obtain ⟨hlt, rfl⟩ := h
    refine ⟨hlt, ?_⟩
    have hdigit : ∀ k ≤ 9, "0123456789abcdef".toList[48 + k - 48]? = some (Char.ofNat (48 + k)) := by decide
    have hlower : ∀ k ≤ 5, "0123456789abcdef".toList[97 + k - 87]? = some (Char.ofNat (97 + k)) := by decide
    have hupper : ∀ k ≤ 5, "0123456789ABCDEF".toList[65 + k - 55]? = some (Char.ofNat (65 + k)) := by decide
    split at hlt
    · rename_i hc
      obtain ⟨k, hk, hn, hc'⟩ := exists_ofNat_add (isDigit_iff.1 hc)
      rw [if_pos hc, hn, hc']
      exact .inl (hdigit k hk)
    · split at hlt
      · rename_i hnc hc
        obtain ⟨k, hk, hn, hc'⟩ := exists_ofNat_add hc
        rw [if_neg hnc, if_pos hc, hn, hc']
        exact .inl (hlower k hk)
      · split at hlt
        · rename_i hnc hnl hc
          obtain ⟨k, hk, hn, hc'⟩ := exists_ofNat_add hc
          rw [if_neg hnc, if_neg hnl, if_pos hc, hn, hc']
          exact .inr (hupper k hk)
        · omega
  · rintro ⟨hv, h⟩
    have hlower : ∀ v < 16, ("0123456789abcdef".toList[v]?).bind (digitValue? 16) = some v := by decide
    have hupper : ∀ v < 16, ("0123456789ABCDEF".toList[v]?).bind (digitValue? 16) = some v := by decide
    rcases h with h | h
    · have hv := hlower v hv
      rwa [h] at hv
    · have hv := hupper v hv
      rwa [h] at hv

theorem digitValue?_eq_some_iff {base : Nat} (hbase : base ≤ 16) {c : Char} {v : Nat} :
    digitValue? base c = some v ↔ IsBaseDigit base c v := by
  rw [digitValue?_eq_some_iff_hex hbase, digitValue?_hex_iff, IsBaseDigit, IsBaseDigit]
  constructor
  · rintro ⟨hv, -, hc⟩
    exact ⟨hv, hc⟩
  · rintro ⟨hv, hc⟩
    exact ⟨hv, by omega, hc⟩

theorem digitsValue?_eq_some_iff {base : Nat} (hbase : base ≤ 16) {n m : Nat} {digits : List Char} :
    digitsValue? base n digits = some m ↔
      ∃ values, List.Forall₂ (IsBaseDigit base) digits values ∧
        m = base ^ digits.length * n + Nat.ofDigits base values.reverse := by
  induction digits generalizing n with
  | nil => simp [digitsValue?, eq_comm]
  | cons c digits ih =>
    have hvalue (v : Nat) {values : List Nat} (h : digits.length = values.length) :
        base ^ (c :: digits).length * n + Nat.ofDigits base (v :: values).reverse =
          base ^ digits.length * (base * n + v) + Nat.ofDigits base values.reverse := by
      rw [List.reverse_cons, Nat.ofDigits_append, Nat.ofDigits_singleton, List.length_reverse, List.length_cons, h]
      ring
    simp only [digitsValue?, Option.bind_eq_bind, Option.bind_eq_some_iff, digitValue?_eq_some_iff hbase, ih,
      List.forall₂_cons_left_iff]
    constructor
    · rintro ⟨v, hv, values, hvalues, rfl⟩
      exact ⟨v :: values, ⟨v, values, hv, hvalues, rfl⟩, (hvalue v hvalues.length_eq).symm⟩
    · rintro ⟨_, ⟨v, values, hv, hvalues, rfl⟩, rfl⟩
      exact ⟨v, hv, values, hvalues, hvalue v hvalues.length_eq⟩

theorem isBaseNumeral_iff {base : Nat} (hbase : base ≤ 16) {digits : List Char} {n : Nat} :
    IsBaseNumeral base digits n ↔ digits ≠ [] ∧ digitsValue? base 0 digits = some n := by
  rw [digitsValue?_eq_some_iff hbase, Nat.mul_zero]
  simp only [Nat.zero_add, IsBaseNumeral]

theorem IsBaseNumeral.unique {base n m : Nat} (hbase : base ≤ 16) {digits : List Char}
    (hn : IsBaseNumeral base digits n) (hm : IsBaseNumeral base digits m) : n = m := by
  have hread := ((isBaseNumeral_iff hbase).1 hn).2
  rw [((isBaseNumeral_iff hbase).1 hm).2] at hread
  exact (Option.some.inj hread).symm

theorem not_isBaseNumeral_plus {base n : Nat} (hbase : base ≤ 16) {digits : List Char} :
    ¬ IsBaseNumeral base ('+' :: digits) n := by
  intro h
  have hread := ((isBaseNumeral_iff hbase).1 h).2
  simp [digitsValue?, digitValue?] at hread

theorem ofBase?_eq_some_iff {base : Nat} (hbase : base ≤ 16) {text : List Char} {n : Nat} :
    ofBase? base text = some n ↔
      (IsBaseNumeral base text n ∨ ∃ digits, text = '+' :: digits ∧ IsBaseNumeral base digits n) ∧ n < 2 ^ 64 := by
  have hread (digits : List Char) : (if digits.isEmpty then none
      else (digitsValue? base 0 digits).filter (· < Nat.pow 2 64)) = some n ↔ IsBaseNumeral base digits n ∧ n < 2 ^ 64 := by
    cases digits with
    | nil => simp [isBaseNumeral_iff hbase]
    | cons c digits => simp [isBaseNumeral_iff hbase, Option.filter_eq_some_iff]
  unfold ofBase?
  simp only
  rw [hread]
  refine and_congr_left fun _ => ?_
  split
  · rename_i digits
    simp [not_isBaseNumeral_plus hbase]
  · rename_i hplus
    exact (or_iff_left fun ⟨digits, h, _⟩ => hplus digits h).symm

/-! ### Texts without white space around them -/

theorem base_le_of_mark {mark : Char} {base : Nat} (h : baseOfMark? mark = some base) : base ≤ 16 := by
  unfold baseOfMark? at h
  split at h
  all_goals cases h
  all_goals decide

theorem HasPrefix.unique {base base' : Nat} {text rest rest' : List Char} (h : HasPrefix base text rest)
    (h' : HasPrefix base' text rest') : base = base' ∧ rest = rest' := by
  obtain ⟨mark, hbase, rfl⟩ := h
  obtain ⟨mark', hbase', htext⟩ := h'
  cases htext
  exact ⟨Option.some.inj (hbase.symm.trans hbase'), rfl⟩

theorem IsPrefixed.unique {text : List Char} {n m : Nat} (hn : IsPrefixed text n) (hm : IsPrefixed text m) : n = m := by
  obtain ⟨base, digits, hprefix, hdigits⟩ := hn
  obtain ⟨base', digits', hprefix', hdigits'⟩ := hm
  obtain ⟨rfl, rfl⟩ := hprefix.unique hprefix'
  have hbase : base ≤ 16 := hprefix.elim fun _ h => base_le_of_mark h.1
  exact hdigits.unique hbase hdigits'

theorem IsPrefixed.not_isPlusPrefixed {text : List Char} {n m : Nat} (hn : IsPrefixed text n) :
    ¬ IsPlusPrefixed text m := by
  rintro ⟨base', digits', hprefix', -⟩
  obtain ⟨base, digits, hprefix, hdigits⟩ := hn
  obtain ⟨rfl, rfl⟩ := hprefix.unique hprefix'
  have hbase : base ≤ 16 := hprefix.elim fun _ h => base_le_of_mark h.1
  exact not_isBaseNumeral_plus hbase hdigits

/-- A decimal has no letter in it but that of the exponent. -/
theorem IsDecimal.isDecimalChar {text : List Char} (h : IsDecimal text) :
    ∀ c ∈ text, c.isDigit = true ∨ c ∈ ['.', 'e', 'E', '+', '-'] := by
  obtain ⟨sign, mantissa, exponent, hs, ⟨whole, fraction, hwhole, hfraction, -, hm⟩, he, rfl⟩ := h
  have hsign {sign : List Char} (hs : IsSign sign) {c : Char} (hc : c ∈ sign) : c ∈ ['.', 'e', 'E', '+', '-'] := by
    rcases hs with rfl | rfl | rfl <;> simp_all
  intro c hc
  rcases List.mem_append.1 hc with hc | hc
  · exact .inr (hsign hs hc)
  rcases List.mem_append.1 hc with hc | hc
  · rcases hm with rfl | ⟨rfl, rfl⟩
    · rcases List.mem_append.1 hc with hc | hc
      · exact .inl (hwhole c hc)
      · rcases List.mem_cons.1 hc with rfl | hc
        · exact .inr (by decide)
        · exact .inl (hfraction c hc)
    · exact .inl (hwhole c hc)
  · rcases he with rfl | ⟨mark, _, hmark, ⟨sign', digits, hs', hdigits, -, rfl⟩, rfl⟩
    · cases hc
    · rcases List.mem_cons.1 hc with rfl | hc
      · rcases hmark with rfl | rfl <;> exact .inr (by decide)
      · rcases List.mem_append.1 hc with hc | hc
        · exact .inr (hsign hs' hc)
        · exact .inl (hdigits c hc)

/-- A text with a prefix for a base has none of the other written forms. -/
theorem HasPrefix.exclusive {base : Nat} {text rest : List Char} (h : HasPrefix base text rest) :
    text ≠ [] ∧ ¬ IsInfinity text ∧ ¬ IsDecimal text := by
  obtain ⟨mark, hmark, rfl⟩ := h
  refine ⟨by simp, ?_, fun h => ?_⟩
  · rintro ⟨sign, rfl | rfl | rfl, h⟩
    all_goals exact absurd (congrArg List.head? h) (by simp)
  · have hchar := h.isDecimalChar mark (by simp)
    unfold baseOfMark? at hmark
    split at hmark
    case h_7 => cases hmark
    all_goals revert hchar
    all_goals decide

/-! ### The branches of the reader -/

theorem isDecimalByte_lt {b : UInt8} (h : isDecimalByte b = true) : b.toNat < 128 := by
  simp only [isDecimalByte, Bool.or_eq_true, Bool.and_eq_true, decide_eq_true_eq, UInt8.le_iff_toNat_le,
    List.contains_iff_mem] at h
  rcases h with ⟨-, h⟩ | h
  · exact Nat.lt_of_le_of_lt h (by decide)
  · simp only [List.map_cons, List.map_nil, List.mem_cons, List.not_mem_nil, or_false] at h
    rcases h with rfl | rfl | rfl | rfl | rfl
    all_goals decide

/-- A character of more than one byte starts with a byte beyond those of decimals. -/
theorem exists_encode_cons {c : Char} (h : 128 ≤ c.toNat) :
    ∃ b rest, String.utf8EncodeChar c = b :: rest ∧ 128 ≤ b.toNat := by
  have hbound : c.val.toNat < 1114112 := c.valid.elim (fun h => Nat.lt_trans h (by decide)) And.right
  have hbyte {m : Nat} (hm : m < 256) (hle : 128 ≤ m) : 128 ≤ (UInt8.ofNat m).toNat := by
    rwa [UInt8.toNat_ofNat_of_lt' hm]
  change 128 ≤ c.val.toNat at h
  unfold String.utf8EncodeChar
  generalize c.val.toNat = v at h hbound
  simp only
  split
  · omega
  · repeat' split
    all_goals exact ⟨_, _, rfl, hbyte (by omega) (by omega)⟩

theorem all_isDecimalByte_encode (c : Char) :
    (String.utf8EncodeChar c).all isDecimalByte = true ↔ c.isDigit = true ∨ c ∈ ['.', 'e', 'E', '+', '-'] := by
  have hascii : ∀ n < 128, ((String.utf8EncodeChar (Char.ofNat n)).all isDecimalByte = true ↔
      (Char.ofNat n).isDigit = true ∨ Char.ofNat n ∈ ['.', 'e', 'E', '+', '-']) := by
    decide +kernel
  rcases Nat.lt_or_ge c.toNat 128 with hlt | hge
  · rw [← Char.ofNat_toNat c]
    exact hascii _ hlt
  · obtain ⟨b, rest, hencode, hb⟩ := exists_encode_cons hge
    refine iff_of_false (fun hall => ?_) (fun hc => ?_)
    · rw [hencode, List.all_cons, Bool.and_eq_true] at hall
      exact absurd (isDecimalByte_lt hall.1) (by omega)
    · rcases hc with hdigit | hmem
      · have hhigh : c.toNat ≤ '9'.toNat := UInt32.le_iff_toNat_le.1 (isDigit_iff.1 hdigit).2
        exact absurd (Nat.le_trans hge hhigh) (by decide)
      · simp only [List.mem_cons, List.not_mem_nil, or_false] at hmem
        rcases hmem with rfl | rfl | rfl | rfl | rfl
        all_goals exact absurd hge (by decide)

theorem all_isDecimalByte_iff {text : List Char} :
    (Text.bytes text).all isDecimalByte = true ↔ ∀ c ∈ text, c.isDigit = true ∨ c ∈ ['.', 'e', 'E', '+', '-'] := by
  rw [Text.bytes, List.all_flatMap, List.all_eq_true]
  exact forall₂_congr fun c _ => all_isDecimalByte_encode c

/-- All words for infinity and not-a-number have a letter that decimals have not. -/
theorem ofWord?_eq_none {text : List Char} (h : ∀ c ∈ text, c.isDigit = true ∨ c ∈ ['.', 'e', 'E', '+', '-']) :
    ofWord? text = none := by
  have hletter {word : List Char} (hn : 'n' ∈ word) : text.map Char.toLower ≠ word := by
    rintro rfl
    obtain ⟨c, hc, hlower⟩ := List.mem_map.1 hn
    rcases h c hc with hdigit | hmem
    · obtain ⟨k, hk, -, rfl⟩ := exists_ofNat_add (isDigit_iff.1 hdigit)
      have hall : ∀ k ≤ 9, (Char.ofNat (('0').toNat + k)).toLower ≠ 'n' := by decide
      exact hall k hk hlower
    · simp only [List.mem_cons, List.not_mem_nil, or_false] at hmem
      rcases hmem with rfl | rfl | rfl | rfl | rfl
      all_goals exact absurd hlower (by decide)
  have hinf : ¬ (text.map Char.toLower = "inf".toList ∨ text.map Char.toLower = "infinity".toList) :=
    not_or.2 ⟨hletter (by decide), hletter (by decide)⟩
  have hnan : text.map Char.toLower ≠ "nan".toList := hletter (by decide)
  unfold ofWord?
  simp only
  rw [if_neg hinf, if_neg hnan]

/-- A text of the characters of decimals is no word. -/
theorem parse?_of_isDecimalChar {text : List Char}
    (h : ∀ c ∈ text, c.isDigit = true ∨ c ∈ ['.', 'e', 'E', '+', '-']) :
    parse? text = (read? text).map fun (negative, d) => d.toNumber negative := by
  obtain ⟨sign, -, hsign⟩ := exists_sign text
  have hword : ofWord? (readSign text).2 = none :=
    ofWord?_eq_none fun c hc => h c (hsign ▸ List.mem_append_right sign hc)
  unfold parse?
  simp only [hword]

/-- The number of a decimal, or not-a-number for another text. -/
def ofDecimalText (text : List Char) : Number :=
  match read? text with
  | some (negative, d) => d.toNumber negative
  | none => nan

/-- With the look at the bytes only decimals are left to be read. -/
theorem parse?_of_all (text : List Char) :
    (if (Text.bytes text).all isDecimalByte then (parse? text).getD nan else nan) = ofDecimalText text := by
  unfold ofDecimalText
  split
  · rename_i hall
    rw [parse?_of_isDecimalChar (all_isDecimalByte_iff.1 hall)]
    cases read? text <;> rfl
  · rename_i hall
    have hdecimal : ¬ IsDecimal text := fun h => hall (all_isDecimalByte_iff.2 h.isDecimalChar)
    cases hread : read? text with
    | none => rfl
    | some d => exact absurd (isSome_read?_iff.1 (by rw [hread]; rfl)) hdecimal

theorem dropBase?_eq_some_iff {base : Nat} {text rest : List Char} :
    dropBase? text = some (base, rest) ↔ HasPrefix base text rest := by
  constructor
  · intro h
    obtain ⟨⟨mark, base'⟩, hmem, hdrop⟩ := List.exists_of_findSome?_eq_some h
    simp only [Option.ite_none_right_eq_some, List.isPrefixOf_iff_prefix, Option.some.injEq, Prod.mk.injEq] at hdrop
    obtain ⟨⟨after, rfl⟩, rfl, rfl⟩ := hdrop
    rw [List.drop_left]
    simp only [basePrefixes, List.mem_cons, Prod.mk.injEq, List.not_mem_nil, or_false] at hmem
    rcases hmem with ⟨rfl, rfl⟩ | ⟨rfl, rfl⟩ | ⟨rfl, rfl⟩ | ⟨rfl, rfl⟩ | ⟨rfl, rfl⟩ | ⟨rfl, rfl⟩
    all_goals exact ⟨_, rfl, rfl⟩
  · rintro ⟨mark, hbase, rfl⟩
    unfold baseOfMark? at hbase
    split at hbase
    all_goals cases hbase
    all_goals rfl

theorem isInfinity_iff {text : List Char} :
    IsInfinity text ↔ (text = "Infinity".toList ∨ text = "+Infinity".toList) ∨ text = "-Infinity".toList := by
  simp [IsInfinity, IsSign, or_assoc]

/-- What is neither nothing nor infinity is read behind a prefix if it has one, and else as a decimal. -/
theorem ofTrimmed_eq {text : List Char} (hnil : text ≠ []) (hinfinity : ¬ IsInfinity text) :
    ofTrimmed text =
      match dropBase? text with
      | some (base, digits) => ((ofBase? base digits).map ofNat).getD nan
      | none => ofDecimalText text := by
  rw [isInfinity_iff, not_or] at hinfinity
  unfold ofTrimmed
  rw [if_neg hnil, if_neg hinfinity.1, if_neg hinfinity.2]
  cases dropBase? text with
  | some prefixed => rfl
  | none => exact parse?_of_all text

theorem ofTrimmed_of_hasPrefix {base : Nat} {text rest : List Char} (h : HasPrefix base text rest) :
    ofTrimmed text = ((ofBase? base rest).map ofNat).getD nan := by
  rw [ofTrimmed_eq h.exclusive.1 h.exclusive.2.1, dropBase?_eq_some_iff.2 h]

theorem ofTrimmed_of_not_hasPrefix {text : List Char} (hnil : text ≠ []) (hinfinity : ¬ IsInfinity text)
    (h : ∀ base rest, ¬ HasPrefix base text rest) : ofTrimmed text = ofDecimalText text := by
  have hdrop : dropBase? text = none :=
    Option.eq_none_iff_forall_ne_some.2 fun ⟨base, rest⟩ hsome => h base rest (dropBase?_eq_some_iff.1 hsome)
  rw [ofTrimmed_eq hnil hinfinity, hdrop]

/-! ### Texts that stand for numbers -/

theorem isNumber_of_hasPrefix {base : Nat} {text rest : List Char} (h : HasPrefix base text rest) :
    (ofTrimmed text).isNaN = false ↔ ∃ n, ofBase? base rest = some n := by
  rw [ofTrimmed_of_hasPrefix h]
  cases ofBase? base rest with
  | none => simp [isNaN]
  | some n => simp [isNaN, ofNat, ofInt, ofQuanta]

theorem isNumber_ofDecimalText_iff {text : List Char} : (ofDecimalText text).isNaN = false ↔ IsDecimal text := by
  rw [← isSome_read?_iff, ofDecimalText]
  cases read? text with
  | none => simp [isNaN]
  | some d => simp [isNaN, toNumber, ofQuanta]

theorem isNumber_of_not_hasPrefix {text : List Char} (h : ∀ base rest, ¬ HasPrefix base text rest) :
    (ofTrimmed text).isNaN = false ↔ text = [] ∨ IsInfinity text ∨ IsDecimal text := by
  by_cases hnil : text = []
  · subst hnil
    exact iff_of_true rfl (.inl rfl)
  by_cases hinfinity : IsInfinity text
  · refine iff_of_true ?_ (.inr (.inl hinfinity))
    rcases isInfinity_iff.1 hinfinity with (rfl | rfl) | rfl
    all_goals rfl
  · rw [ofTrimmed_of_not_hasPrefix hnil hinfinity h, isNumber_ofDecimalText_iff]
    simp only [hnil, hinfinity, false_or]

/-- A text is read as a number exactly if it is nothing, infinity, a decimal, or a whole number below `2 ^ 64` with a
prefix for its base, which may have a plus sign behind it. -/
theorem isNumber_ofTrimmed_iff {text : List Char} :
    (ofTrimmed text).isNaN = false ↔
      text = [] ∨ IsInfinity text ∨ IsDecimal text ∨ ∃ n < 2 ^ 64, IsPrefixed text n ∨ IsPlusPrefixed text n := by
  by_cases h : ∃ base rest, HasPrefix base text rest
  · obtain ⟨base, rest, hprefix⟩ := h
    have hbase : base ≤ 16 := hprefix.elim fun _ h => base_le_of_mark h.1
    obtain ⟨hnil, hinfinity, hdecimal⟩ := hprefix.exclusive
    simp only [isNumber_of_hasPrefix hprefix, hnil, hinfinity, hdecimal, false_or, ofBase?_eq_some_iff hbase]
    refine exists_congr fun n => ?_
    rw [and_comm]
    refine and_congr_right fun _ => or_congr ?_ ?_
    · constructor
      · exact fun hdigits => ⟨base, rest, hprefix, hdigits⟩
      · rintro ⟨base', digits, hprefix', hdigits⟩
        obtain ⟨rfl, rfl⟩ := hprefix.unique hprefix'
        exact hdigits
    · constructor
      · rintro ⟨digits, rfl, hdigits⟩
        exact ⟨base, digits, hprefix, hdigits⟩
      · rintro ⟨base', digits, hprefix', hdigits⟩
        obtain ⟨rfl, rfl⟩ := hprefix.unique hprefix'
        exact ⟨digits, rfl, hdigits⟩
  · have hnone : ¬ ∃ n < 2 ^ 64, IsPrefixed text n ∨ IsPlusPrefixed text n := by
      rintro ⟨n, -, ⟨base, digits, hprefix, -⟩ | ⟨base, digits, hprefix, -⟩⟩
      · exact h ⟨base, _, hprefix⟩
      · exact h ⟨base, _, hprefix⟩
    rw [isNumber_of_not_hasPrefix fun base rest hprefix => h ⟨base, rest, hprefix⟩]
    simp only [hnone, or_false]

theorem IsPrefixed.exclusive {text : List Char} {n : Nat} (h : IsPrefixed text n) :
    text ≠ [] ∧ ¬ IsInfinity text ∧ ¬ IsDecimal text := by
  obtain ⟨base, digits, hprefix, -⟩ := h
  exact hprefix.exclusive

theorem IsPlusPrefixed.not_isNumeral {text : List Char} {n : Nat} (h : IsPlusPrefixed text n) : ¬ IsNumeral text := by
  have hplus := h
  obtain ⟨base, digits, hprefix, -⟩ := h
  obtain ⟨hnil, hinfinity, hdecimal⟩ := hprefix.exclusive
  rintro (h | h | h | ⟨m, h⟩)
  · exact hnil h
  · exact hinfinity h
  · exact hdecimal h
  · exact h.not_isPlusPrefixed hplus

/-- A string is read as a number exactly if, white space at its ends aside, it has the written form of a number and is
no whole number from `2 ^ 64` on with a prefix, or it is one below with a plus sign behind the prefix.  So it is read as
a number exactly when it has the written form of one unless it is of the former or of the latter kind. -/
theorem isNumber_ofText_iff (s : String) :
    ((ofText s.toList).isNaN = false ↔
      (IsNumeral (Text.trim s.toList) ∧ ∀ n, IsPrefixed (Text.trim s.toList) n → n < 2 ^ 64) ∨
        ∃ n < 2 ^ 64, IsPlusPrefixed (Text.trim s.toList) n) ∧
    (((ofText s.toList).isNaN = false ↔ IsNumeral (Text.trim s.toList)) ↔
      (∀ n, IsPrefixed (Text.trim s.toList) n → n < 2 ^ 64) ∧
        ∀ n, IsPlusPrefixed (Text.trim s.toList) n → 2 ^ 64 ≤ n) := by
  have hread : (ofText s.toList).isNaN = false ↔ _ := isNumber_ofTrimmed_iff
  generalize Text.trim s.toList = text at hread ⊢
  have hiff : (ofText s.toList).isNaN = false ↔
      (IsNumeral text ∧ ∀ n, IsPrefixed text n → n < 2 ^ 64) ∨ ∃ n < 2 ^ 64, IsPlusPrefixed text n := by
    rw [hread]
    constructor
    · rintro (h | h | h | ⟨n, hn, h | h⟩)
      · exact .inl ⟨.inl h, fun n hp => absurd h hp.exclusive.1⟩
      · exact .inl ⟨.inr (.inl h), fun n hp => absurd h hp.exclusive.2.1⟩
      · exact .inl ⟨.inr (.inr (.inl h)), fun n hp => absurd h hp.exclusive.2.2⟩
      · exact .inl ⟨.inr (.inr (.inr ⟨n, h⟩)), fun m hp => hp.unique h ▸ hn⟩
      · exact .inr ⟨n, hn, h⟩
    · rintro (⟨h | h | h | ⟨n, h⟩, hsmall⟩ | ⟨n, hn, h⟩)
      · exact .inl h
      · exact .inr (.inl h)
      · exact .inr (.inr (.inl h))
      · exact .inr (.inr (.inr ⟨n, hsmall n h, .inl h⟩))
      · exact .inr (.inr (.inr ⟨n, hn, .inr h⟩))
  refine ⟨hiff, ?_⟩
  rw [hiff]
  constructor
  · intro h
    constructor
    · intro n hn
      rcases h.2 (.inr (.inr (.inr ⟨n, hn⟩))) with ⟨-, hsmall⟩ | ⟨m, -, hm⟩
      · exact hsmall n hn
      · exact absurd hm hn.not_isPlusPrefixed
    · intro n hn
      by_contra hlt
      exact hn.not_isNumeral (h.1 (.inr ⟨n, by omega, hn⟩))
  · rintro ⟨hsmall, hlarge⟩
    constructor
    · rintro (⟨h, -⟩ | ⟨n, hn, h⟩)
      · exact h
      · exact absurd (hlarge n h) (by omega)
    · exact fun h => .inl ⟨h, hsmall⟩

/-- A plus sign behind the prefix is read although no written form of a number has one there, and a whole number of 65
bits with a prefix is not read although it is the written form of a number. -/
theorem isNumber_plusPrefixed :
    (ofText "0x+1".toList = ofNat 1 ∧ ¬ IsNumeral (Text.trim "0x+1".toList)) ∧
      ofText "0x10000000000000000".toList = nan ∧ IsNumeral (Text.trim "0x10000000000000000".toList) := by
  have hplus : IsPlusPrefixed "0x+1".toList 1 :=
    ⟨16, ['1'], ⟨'x', rfl, rfl⟩, (isBaseNumeral_iff (by decide)).2 ⟨by decide, by decide⟩⟩
  have hlarge : IsPrefixed "0x10000000000000000".toList (2 ^ 64) :=
    ⟨16, "10000000000000000".toList, ⟨'x', rfl, rfl⟩, (isBaseNumeral_iff (by decide)).2 ⟨by decide, by decide +kernel⟩⟩
  have htrim : Text.trim "0x+1".toList = "0x+1".toList := by cbv
  have htrim' : Text.trim "0x10000000000000000".toList = "0x10000000000000000".toList := by cbv
  rw [htrim, htrim']
  refine ⟨⟨by decide +kernel, hplus.not_isNumeral⟩, by decide +kernel, .inr (.inr (.inr ⟨_, hlarge⟩))⟩

end ExprLang.Number
