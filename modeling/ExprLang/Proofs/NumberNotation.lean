import ExprLang.Proofs.ShortestDecimals

/-!
# The notation of a number

Whether a number is written in positional notation is decided by a comparison of its absolute value with `1e-6` and `1e21`.
Both bounds are the shortest decimals of the numbers that they are rounded to, so the comparison says where the first
digit of the shortest decimal stands (`Number.isPositional_iff`).  A plus sign is put in front of an exponent by looking
for the first `e` of the text and at what follows it.  No other `e` is written, and what follows is a minus sign or a
digit.  The text of a number is therefore that of its shortest decimal in the notation that the place of the first digit
asks for (`Number.text_signed`).
-/

namespace ExprLang

theorem Text.splitOnce?_append {c : Char} {before : List Char} (h : c ∉ before) (after : List Char) :
    splitOnce? c (before ++ c :: after) = some (before, after) := by
  have hbefore : ∀ d ∈ before, (d != c) = true := by
    intro d hd
    simp only [bne_iff_ne, ne_eq]
    rintro rfl
    exact h hd
  rw [splitOnce?, List.dropWhile_append_of_pos hbefore, List.takeWhile_append_of_pos hbefore,
    List.dropWhile_cons_of_neg (by simp), List.takeWhile_cons_of_neg (by simp), List.append_nil]

namespace Decimal

open Number

variable {d : Decimal}

/-- The mantissa, and the exponent with its sign in any case. -/
def scientific (d : Decimal) : List Char :=
  let e := d.firstExponent
  d.mantissa ++ 'e' :: (if e < 0 then '-' else '+') :: Nat.toDigits 10 e.natAbs

/-- The text of a decimal in the notation that the place of its first digit asks for. -/
def text (d : Decimal) : List Char :=
  if -6 ≤ d.firstExponent ∧ d.firstExponent ≤ 20 then d.positional else d.scientific

theorem isDigit_toDigits {m : Nat} {c : Char} (h : c ∈ Nat.toDigits 10 m) : c.isDigit = true :=
  Nat.isDigit_of_mem_toDigits (by decide) (by decide) h

/-- The mantissa is made of digits and at most one point. -/
theorem mantissa_char {c : Char} (h : c ∈ d.mantissa) : c.isDigit = true ∨ c = '.' := by
  have hdigits : ∀ c ∈ Nat.toDigits 10 d.significand, c.isDigit = true := fun c => isDigit_toDigits
  unfold mantissa at h
  split at h
  · cases h
  · rename_i heq
    exact .inl (hdigits c (heq ▸ h))
  · rename_i digit digits _ heq
    rw [heq] at hdigits
    rcases List.mem_cons.1 h with rfl | h
    · exact .inl (hdigits c (List.mem_cons_self ..))
    · rcases List.mem_cons.1 h with rfl | h
      · exact .inr rfl
      · exact .inl (hdigits c (List.mem_cons_of_mem _ h))

/-- The exponent starts with a minus sign exactly if it is negative. -/
theorem head?_exponent (e : Int) :
    ((if e < 0 then ['-'] else []) ++ Nat.toDigits 10 e.natAbs).head? = some '-' ↔ e < 0 := by
  split
  · rename_i h
    exact iff_of_true rfl h
  · rename_i h
    refine iff_of_false (fun hhead => ?_) h
    have hdigit := isDigit_toDigits (List.mem_of_mem_head? hhead)
    exact absurd hdigit (by decide)

end Decimal

namespace Number

open Decimal

variable {negative : Bool} {p : Fin (infinityPlace + 1)}

/-! ### The range of positional notation -/

theorem compare?_signed_false {p q : Fin (infinityPlace + 1)} :
    compare? (signed false p) (signed false q) = some (compare (p.val : Int) q.val) := rfl

/-- Comparing the absolute value of a number with the two bounds tells where the first digit of its shortest decimal
stands. -/
theorem isPositional_iff (hzero : p.val ≠ 0) :
    isPositional (signed false p) = true ↔ -6 ≤ (shortest p).firstExponent ∧ (shortest p).firstExponent ≤ 20 := by
  have hlow := le_firstExponent_shortest_iff (k := -6) hzero (by decide) (by decide) (by decide +kernel)
  have hhigh := le_firstExponent_shortest_iff (k := 21) hzero (by decide) (by decide) (by decide +kernel)
  have hrange : isPositional (signed false p) = true ↔ place ⟨1, -6⟩ ≤ p.val ∧ p.val < place ⟨1, 21⟩ := by
    rw [isPositional, positionalFrom, positionalUntil, toNumber_eq, toNumber_eq, compare?_signed_false,
      compare?_signed_false, Bool.and_eq_true, Option.any_some, beq_iff_eq, Option.some.injEq, Int.isLE_compare,
      Int.compare_eq_lt, Int.ofNat_le, Int.ofNat_lt]
  rw [hrange]
  omega

/-! ### The exponent -/

/-- The sign that is put in front of an exponent without one completes the text to one with a sign in any case. -/
theorem scientific_of_exponential (negative : Bool) (d : Decimal) :
    (match Text.splitOnce? 'e' ((if negative then ['-'] else []) ++ d.exponential) with
      | some (mantissa, exponent) =>
        if exponent.head? = some '-' then (if negative then ['-'] else []) ++ d.exponential
        else mantissa ++ 'e' :: '+' :: exponent
      | none => (if negative then ['-'] else []) ++ d.exponential) =
      (if negative then ['-'] else []) ++ d.scientific := by
  have hmark : 'e' ∉ (if negative then ['-'] else []) ++ d.mantissa := by
    intro h
    rcases List.mem_append.1 h with h | h
    · cases negative
      · cases h
      · exact absurd (List.mem_singleton.1 h) (by decide)
    · rcases mantissa_char h with h | h
      · exact absurd h (by decide)
      · exact absurd h (by decide)
  unfold exponential scientific
  simp only
  rw [← List.append_assoc, Text.splitOnce?_append hmark, ← List.append_assoc]
  simp only [head?_exponent]
  by_cases h : d.firstExponent < 0
  · simp only [if_pos h, List.singleton_append]
  · simp only [if_neg h, List.nil_append]

/-! ### The text -/

theorem eqv_zero_signed : (signed negative p).eqv (zero false) = true ↔ p.val = 0 := by
  have hrank : (signed negative p).eqv (zero false) = true ↔ (if negative then -(p.val : Int) else p.val) = 0 := by
    simp [eqv, compare?, rank?, zero]
  rw [hrank]
  cases negative with
  | false => exact Int.natCast_eq_zero
  | true => exact Int.neg_eq_zero.trans Int.natCast_eq_zero

theorem compare?_zero_signed (hzero : p.val ≠ 0) :
    compare? (zero false) (signed negative p) = some .lt ↔ negative = false := by
  have hrank : compare? (zero false) (signed negative p) = some .lt ↔
      0 < (if negative then -(p.val : Int) else p.val) := by
    simp [compare?, rank?, zero, Int.compare_eq_lt]
  rw [hrank]
  cases negative with
  | false =>
    simp only [Bool.false_eq_true, if_false, iff_true]
    omega
  | true =>
    simp only [if_true, Bool.true_eq_false, iff_false]
    omega

/-- The text of a number other than not-a-number: both zeros are written alike, and infinity and the shortest decimal
follow the sign. -/
theorem text_signed (negative : Bool) (p : Fin (infinityPlace + 1)) :
    (signed negative p).text =
      if p.val = 0 then ['0']
      else
        (if negative then ['-'] else []) ++
          if p.val = infinityPlace then "Infinity".toList else (shortest p).text := by
  unfold text
  by_cases hzero : p.val = 0
  · rw [if_pos hzero, if_neg (by simp [isNaN]), if_pos (eqv_zero_signed.2 hzero)]
  rw [if_neg hzero, if_neg (by simp [isNaN]), if_neg (mt eqv_zero_signed.1 hzero)]
  by_cases hinfinity : p.val = infinityPlace
  · rw [if_pos hinfinity, if_pos (by simp [isInfinite, hinfinity])]
    cases negative with
    | false =>
      rw [if_pos (beq_iff_eq.2 ((compare?_zero_signed hzero).2 rfl))]
      rfl
    | true =>
      rw [if_neg fun h => absurd ((compare?_zero_signed hzero).1 (beq_iff_eq.1 h)) (by decide)]
      rfl
  · rw [if_neg hinfinity, if_neg (by simp [isInfinite, hinfinity]), Decimal.text]
    simp only [abs, isPositional_iff hzero]
    split
    · rfl
    · exact scientific_of_exponential negative (shortest p)

end Number

end ExprLang
