import ExprLang.Proofs.Numerals
import ExprLang.Proofs.WholeNumbers

/-!
# The texts of decimals

Each of the notations of a decimal is read back: the digits are those of the significand, and the point and the exponent
stand where they give its exponent again (`Decimal.read?_positional_of_neg`, `Decimal.read?_scientific`).  Only the zeros
that positional notation writes behind the digits for an exponent from zero on are read as digits of the significand,
which does not change the value (`Decimal.exists_read?_text`).
-/

namespace ExprLang

namespace Number

variable {s t : List Char}

theorem allDigits_toDigits (n : Nat) : AllDigits (Nat.toDigits 10 n) := fun _ hc => Decimal.isDigit_toDigits hc

theorem allDigits_replicate (n : Nat) : AllDigits (List.replicate n '0') := by
  intro c hc
  rw [List.eq_of_mem_replicate hc]
  rfl

theorem AllDigits.append (hs : AllDigits s) (ht : AllDigits t) : AllDigits (s ++ t) :=
  List.forall_mem_append.2 ⟨hs, ht⟩

theorem AllDigits.startsWithDigit (h : AllDigits s) (hne : s ≠ []) : StartsWithDigit (s ++ t) := by
  obtain ⟨c, cs, rfl⟩ := List.exists_cons_of_ne_nil hne
  exact ⟨c, cs ++ t, rfl, h c (List.mem_cons_self ..)⟩

end Number

namespace Decimal

open Number (AllDigits)

variable {d : Decimal} {text whole fraction rest : List Char}

/-! ### Reading the parts of a decimal -/

theorem readSign_of_startsWithDigit (h : StartsWithDigit text) : readSign text = (false, text) := by
  obtain ⟨c, rest, rfl, hc⟩ := h
  have hminus : c ≠ '-' := by
    rintro rfl
    exact absurd hc (by decide)
  have hplus : c ≠ '+' := by
    rintro rfl
    exact absurd hc (by decide)
  simp [readSign, hminus, hplus]

/-- Digits with nothing behind them are read as they stand. -/
theorem read?_of_digits (hstart : StartsWithDigit text) (hdigits : readDigits text = (whole, fraction, []))
    (hne : whole ≠ []) : read? text = some (false, ofDigits whole fraction) := by
  simp [read?, readSign_of_startsWithDigit hstart, hdigits, hne]

/-- An exponent behind digits is added to theirs. -/
theorem read?_of_exponent {e : Int} (hstart : StartsWithDigit text)
    (hdigits : readDigits text = (whole, fraction, 'e' :: rest)) (hne : whole ≠ [])
    (hexponent : readExponent? rest = some e) :
    read? text = some (false, ⟨Nat.ofDigitChars 10 (whole ++ fraction) 0, -(fraction.length : Int) + e⟩) := by
  simp [read?, readSign_of_startsWithDigit hstart, hdigits, hne, hexponent, ofDigits]

/-- A minus sign changes nothing but the sign. -/
theorem read?_minus (hstart : StartsWithDigit text) : read? ('-' :: text) = (read? text).map fun r => (true, r.2) := by
  have hsign : readSign ('-' :: text) = (true, text) := rfl
  simp only [read?, hsign, readSign_of_startsWithDigit hstart]
  split
  · rfl
  · split
    · rfl
    · split
      · rw [Option.map_map]
        rfl
      · rfl

/-! ### The notations -/

/-- Digits around a point are read as the decimal that they write. -/
theorem read?_point (hwhole : AllDigits whole) (hne : whole ≠ []) (hfraction : AllDigits fraction) :
    read? (whole ++ '.' :: fraction) = some (false, ofDigits whole fraction) := by
  refine read?_of_digits (hwhole.startsWithDigit hne) ?_ hne
  have hdigits : readDigits (whole ++ '.' :: (fraction ++ [])) = (whole, fraction, []) :=
    Number.readDigits_point hwhole hfraction nofun
  rwa [List.append_nil] at hdigits

/-- Positional notation with a point gives the decimal back. -/
theorem read?_positional_of_neg (h : d.exponent < 0) : read? d.positional = some (false, d) := by
  have hdigits := Number.allDigits_toDigits d.significand
  have hvalue : Nat.ofDigitChars 10 (Nat.toDigits 10 d.significand) 0 = d.significand := Nat.ofDigitChars_ten_toDigits
  unfold positional
  generalize Nat.toDigits 10 d.significand = digits at hdigits hvalue
  simp only
  rw [if_neg (by omega)]
  split
  · -- the point stands among the digits
    rename_i hpoint
    obtain ⟨k, hk⟩ : ∃ k, ((digits.length : Int) + d.exponent).toNat = k + 1 := Nat.exists_eq_succ_of_ne_zero (by omega)
    have hne : digits.take ((digits.length : Int) + d.exponent).toNat ≠ [] := by
      rw [← List.length_pos_iff, List.length_take]
      omega
    rw [read?_point (fun c hc => hdigits c (List.mem_of_mem_take hc)) hne fun c hc => hdigits c (List.mem_of_mem_drop hc),
      ofDigits, List.take_append_drop, hvalue, List.length_drop]
    congr
    omega
  · -- zeros stand between the point and the digits
    rename_i hpoint
    have hzeros := Number.allDigits_replicate (-((digits.length : Int) + d.exponent)).toNat
    have hwhole : AllDigits ['0'] := by simp [AllDigits]
    have hread := read?_point hwhole (by simp) (hzeros.append hdigits)
    rw [List.singleton_append] at hread
    rw [hread, ofDigits, List.singleton_append, Nat.ofDigitChars_cons, Nat.ofDigitChars_append,
      Nat.ofDigitChars_replicate_zero, List.length_append, List.length_replicate]
    have hzero : 10 ^ (-((digits.length : Int) + d.exponent)).toNat * (10 * 0 + (('0').toNat - ('0').toNat)) = 0 := by simp
    rw [hzero, hvalue]
    congr
    omega

theorem read?_positional_of_nonneg (h : 0 ≤ d.exponent) :
    read? d.positional = some (false, ⟨10 ^ d.exponent.toNat * d.significand, 0⟩) := by
  have hdigits := (Number.allDigits_toDigits d.significand).append (Number.allDigits_replicate d.exponent.toNat)
  have hne : Nat.toDigits 10 d.significand ++ List.replicate d.exponent.toNat '0' ≠ [] :=
    List.append_ne_nil_of_left_ne_nil Nat.toDigits_ne_nil _
  have hvalue : Nat.ofDigitChars 10 (Nat.toDigits 10 d.significand ++ List.replicate d.exponent.toNat '0') 0 =
      10 ^ d.exponent.toNat * d.significand := by
    rw [Nat.ofDigitChars_append, Nat.ofDigitChars_ten_toDigits, Nat.ofDigitChars_replicate_zero]
  unfold positional
  simp only
  rw [if_pos h]
  generalize Nat.toDigits 10 d.significand ++ List.replicate d.exponent.toNat '0' = digits at hdigits hne hvalue
  have hread : readDigits (digits ++ []) = (digits, [], []) := Number.readDigits_whole hdigits nofun
  have hstart := hdigits.startsWithDigit (t := []) hne
  rw [List.append_nil] at hread hstart
  rw [read?_of_digits hstart hread hne, ofDigits, List.append_nil, hvalue]
  rfl

theorem readExponent?_sign (e : Int) :
    readExponent? ((if e < 0 then '-' else '+') :: Nat.toDigits 10 e.natAbs) = some e := by
  have hdigits : (Nat.toDigits 10 e.natAbs).all Char.isDigit = true :=
    List.all_eq_true.2 (Number.allDigits_toDigits e.natAbs)
  have hsign : readSign ((if e < 0 then '-' else '+') :: Nat.toDigits 10 e.natAbs) =
      (decide (e < 0), Nat.toDigits 10 e.natAbs) := by
    by_cases h : e < 0
    · rw [if_pos h, decide_eq_true h]
      rfl
    · rw [if_neg h, decide_eq_false h]
      rfl
  rw [readExponent?, hsign]
  simp only [ne_eq, Nat.toDigits_ne_nil, not_false_eq_true, hdigits, and_self, if_true, Nat.ofDigitChars_ten_toDigits,
    decide_eq_true_eq, Option.some.injEq]
  split <;> omega

/-- Notation with an exponent gives the decimal back. -/
theorem read?_scientific (d : Decimal) : read? d.scientific = some (false, d) := by
  have hdigits := Number.allDigits_toDigits d.significand
  have hvalue : Nat.ofDigitChars 10 (Nat.toDigits 10 d.significand) 0 = d.significand := Nat.ofDigitChars_ten_toDigits
  have hfirst : d.firstExponent = d.exponent + (Nat.toDigits 10 d.significand).length - 1 := rfl
  have hexponent := readExponent?_sign d.firstExponent
  have hmark (c : Char) (hc : some 'e' = some c) : c.isDigit = false ∧ c ≠ '.' := by
    cases hc
    decide
  unfold scientific mantissa
  simp only
  generalize (if d.firstExponent < 0 then '-' else '+') :: Nat.toDigits 10 d.firstExponent.natAbs = exponent at hexponent ⊢
  cases hcases : Nat.toDigits 10 d.significand with
  | nil => exact absurd hcases Nat.toDigits_ne_nil
  | cons c digits =>
    rw [hcases] at hdigits hvalue hfirst
    have hc : AllDigits [c] := fun b hb => hdigits b (List.mem_singleton.1 hb ▸ List.mem_cons_self ..)
    cases digits with
    | nil =>
      have hstart : StartsWithDigit (c :: 'e' :: exponent) := hc.startsWithDigit nofun
      have hread : readDigits (c :: 'e' :: exponent) = ([c], [], 'e' :: exponent) := Number.readDigits_whole hc hmark
      simp only [List.singleton_append]
      rw [read?_of_exponent hstart hread nofun hexponent, List.append_nil, hvalue, hfirst]
      congr
      simp only [List.length_nil, List.length_singleton]
      omega
    | cons b digits =>
      have hfraction : AllDigits (b :: digits) := fun x hx => hdigits x (List.mem_cons_of_mem _ hx)
      have hstart : StartsWithDigit (c :: '.' :: (b :: digits ++ 'e' :: exponent)) := hc.startsWithDigit nofun
      have hread : readDigits (c :: '.' :: (b :: digits ++ 'e' :: exponent)) = ([c], b :: digits, 'e' :: exponent) :=
        Number.readDigits_point hc hfraction fun x hx => (hmark x hx).1
      simp only [List.cons_append]
      rw [List.cons_append] at hstart hread
      rw [read?_of_exponent hstart hread nofun hexponent, List.singleton_append, hvalue, hfirst]
      congr
      simp only [List.length_cons]
      omega

/-- The text of a decimal is read as a decimal of the same value. -/
theorem exists_read?_text (d : Decimal) :
    ∃ d', read? d.text = some (false, d') ∧ ∀ negative, d'.toNumber negative = d.toNumber negative := by
  unfold text
  split
  · rename_i hrange
    by_cases h : d.exponent < 0
    · exact ⟨d, read?_positional_of_neg h, fun _ => rfl⟩
    · refine ⟨_, read?_positional_of_nonneg (by omega), fun negative => ?_⟩
      have hcount := digitCount_pos d.significand
      have hbounded : d.boundedExponent = d.exponent := by
        rw [boundedExponent]
        rw [firstExponent] at hrange
        omega
      have hzero : (⟨10 ^ d.exponent.toNat * d.significand, 0⟩ : Decimal).boundedExponent = 0 := by
        rw [boundedExponent]
        simp only
        omega
      have hneg : (-d.exponent).toNat = 0 := by omega
      rw [toNumber, toNumber, hzero, hbounded, hneg]
      simp [Nat.mul_comm]
  · exact ⟨d, read?_scientific d, fun _ => rfl⟩

end Decimal

end ExprLang
