import ExprLang.Proofs.CoercionPaths
import ExprLang.Proofs.DecimalTexts

/-!
# The text of a number is read back

The decimal that a number is written with is read back as the number: either the search on the grids has tried this, or it
is the value itself (`Decimal.toNumber_shortest`).  Its text is a decimal and nothing else that a numeral may be, so it
comes to the reader of decimals (`Number.ofText_of_isDecimal`).  With the words for infinity and for no number, all numbers
are read back from their texts but for the sign of zero (`Number.ofText_text`), and numbers that are written in the same
way are equal (`Number.text_roundTrip`).
-/

namespace ExprLang

open Unicode (isBlank)

theorem Text.trim_of_not_isBlank {text : List Char} (h : ∀ c ∈ text, isBlank c = false) : trim text = text := by
  have hdrop (s : List Char) (hs : ∀ c ∈ s, isBlank c = false) : s.dropWhile isBlank = s := by
    cases s with
    | nil => rfl
    | cons c s => exact List.dropWhile_cons_of_neg (by simp [hs c (List.mem_cons_self ..)])
  rw [trim, hdrop text h, hdrop text.reverse fun c hc => h c (List.mem_reverse.1 hc), List.reverse_reverse]

namespace Number

open Decimal

/-! ### Reading decimals -/

theorem not_isBlank_of_isDecimal {text : List Char} (h : IsDecimal text) : ∀ c ∈ text, isBlank c = false := by
  intro c hc
  rcases h.isDecimalChar c hc with hdigit | hmem
  · obtain ⟨k, hk, -, rfl⟩ := exists_ofNat_add (isDigit_iff.1 hdigit)
    have hall : ∀ k ≤ 9, isBlank (Char.ofNat (('0').toNat + k)) = false := by decide
    exact hall k hk
  · simp only [List.mem_cons, List.not_mem_nil, or_false] at hmem
    rcases hmem with rfl | rfl | rfl | rfl | rfl
    all_goals decide

/-- A decimal is read as one. -/
theorem ofText_of_isDecimal {text : List Char} (h : IsDecimal text) : ofText text = ofDecimalText text := by
  have hbase (base : Nat) (rest : List Char) : ¬ HasPrefix base text rest := fun hp => hp.exclusive.2.2 h
  have hinfinity : ¬ IsInfinity text := by
    rintro ⟨sign, -, rfl⟩
    have hletter := h.isDecimalChar 'I' (List.mem_append_right sign (by decide))
    exact absurd hletter (by decide)
  have hnil : text ≠ [] := by
    rintro rfl
    exact absurd (isSome_read?_iff.2 h) Bool.false_ne_true
  rw [ofText, Text.trim_of_not_isBlank (not_isBlank_of_isDecimal h), ofTrimmed_of_not_hasPrefix hnil hinfinity hbase]

theorem ofText_of_read? {text : List Char} {negative : Bool} {d : Decimal} (h : read? text = some (negative, d)) :
    ofText text = d.toNumber negative := by
  have hdecimal : IsDecimal text := isSome_read?_iff.1 (by rw [h]; rfl)
  rw [ofText_of_isDecimal hdecimal, ofDecimalText, h]

/-- A decimal is read back from its text with a sign in front. -/
theorem ofText_text_decimal (negative : Bool) (d : Decimal) :
    ofText ((if negative then ['-'] else []) ++ d.text) = d.toNumber negative := by
  obtain ⟨d', hread, hvalue⟩ := exists_read?_text d
  rw [← hvalue negative]
  cases negative with
  | false => exact ofText_of_read? hread
  | true =>
    have hminus := read?_minus (startsWithDigit_text d)
    rw [hread, Option.map_some] at hminus
    exact ofText_of_read? hminus

/-! ### Numbers and their texts -/

theorem ofText_text_nan : ofText nan.text = nan := ofText_eq_nan_of_head (by decide) (by decide) _

theorem ofText_infinity (negative : Bool) :
    ofText ((if negative then ['-'] else []) ++ "Infinity".toList) = infinity negative := by
  cases negative <;> rfl

theorem ofText_zero : ofText ['0'] = zero false := by decide +kernel

/-- A number is read back from its text, but for the sign of zero. -/
theorem ofText_text (x : Number) : ofText x.text = if x.isZero then zero false else x := by
  cases x with
  | nan => exact ofText_text_nan
  | signed negative p =>
    rw [text_signed]
    by_cases hzero : p.val = 0
    · have hiszero : (signed negative p).isZero = true := decide_eq_true hzero
      rw [if_pos hzero, if_pos hiszero, ofText_zero]
    · have hiszero : ¬ (signed negative p).isZero = true := by simpa [isZero] using hzero
      rw [if_neg hzero, if_neg hiszero]
      by_cases hinfinity : p.val = infinityPlace
      · have hlast : p = Fin.last infinityPlace := Fin.ext hinfinity
        rw [if_pos hinfinity, ofText_infinity, infinity, hlast]
      · rw [if_neg hinfinity, ofText_text_decimal, toNumber_shortest hzero]

theorem eqv_signed_iff {s t : Bool} {p q : Fin (infinityPlace + 1)} :
    (signed s p).eqv (signed t q) = true ↔ p = q ∧ (s = t ∨ p.val = 0) := by
  simp only [eqv, compare?, rank?, Option.bind_eq_bind, Option.bind_some, Option.pure_def, beq_iff_eq,
    Option.some.injEq, Int.compare_eq_eq, Fin.ext_iff]
  generalize p.val = m, q.val = n
  cases s <;> cases t <;> simp only [Bool.false_eq_true, if_true, if_false, true_or, false_or, reduceCtorEq] <;> grind

/-- Two numbers are equal, or both not-a-number, when they are the same but for the sign of zero. -/
theorem eqv_iff_of_isZero (x y : Number) :
    x.eqv y = true ∨ (x.isNaN = true ∧ y.isNaN = true) ↔
      (if x.isZero then zero false else x) = if y.isZero then zero false else y := by
  cases x with
  | nan => cases y with
    | nan => simp [isNaN]
    | signed t q => by_cases hq : q = 0 <;> simp [eqv, compare?, rank?, isNaN, isZero, zero, hq]
  | signed s p => cases y with
    | nan => by_cases hp : p = 0 <;> simp [eqv, compare?, rank?, isNaN, isZero, zero, hp]
    | signed t q =>
      rw [eqv_signed_iff]
      by_cases hp : p.val = 0 <;> by_cases hq : q.val = 0 <;> simp [isZero, isNaN, zero, hp, hq, Fin.ext_iff] <;> grind

theorem text_of_isZero (x : Number) : (if x.isZero then zero false else x).text = x.text := by
  split
  · rename_i hzero
    cases x with
    | nan => cases hzero
    | signed negative p =>
      have hplace : p.val = 0 := of_decide_eq_true hzero
      rw [zero, text_signed, text_signed, if_pos hplace, Fin.val_zero, if_pos rfl]
  · rfl

/-- Every number is read back from its text, with `0` for both zeros; so two numbers have the same text only if they are
equal or both are not-a-number. -/
theorem text_roundTrip :
    (∀ x : Number, ofText x.text = if x.isZero then zero false else x) ∧
    ∀ x y : Number, x.text = y.text ↔ x.eqv y = true ∨ (x.isNaN = true ∧ y.isNaN = true) := by
  refine ⟨ofText_text, fun x y => (eqv_iff_of_isZero x y).trans ⟨fun h => ?_, fun h => ?_⟩ |>.symm⟩
  · rw [← text_of_isZero x, h, text_of_isZero y]
  · rw [← ofText_text x, h, ofText_text y]

end Number

end ExprLang
