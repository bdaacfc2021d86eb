import ExprLang.Number.Arithmetic

/-!
# Numbers that rounding keeps

The value at a place is `f * 2 ^ g` quanta, where `g` is the exponent of the gap there and `f` has at most 53 bits, all
of them if `g` is not zero.  So the logarithm of the value tells the gap (`Number.log2_quanta_sub`), and the place
nearest to a place's value is that place (`Number.nearestPlace_quanta`).  A whole number therefore is the number
nearest to itself as an integer, however large it is, except that `-0` becomes `0` (`Number.ofInt_toInt`).
-/

namespace ExprLang.Number

theorem roundHalfEven_mul (q : Nat) {d : Nat} (hd : 0 < d) : roundHalfEven (q * d) d = q := by
  simp [roundHalfEven, Nat.mul_div_cancel _ hd, hd]

theorem gapExponent_mul_le (p : Nat) : gapExponent p * Nat.pow 2 52 ≤ p := by
  have hpow : Nat.pow 2 52 = 2 ^ 52 := rfl
  rw [gapExponent, hpow]
  omega

/-- A value of more than 52 bits tells the gap around it. -/
theorem log2_quanta_sub (p : Nat) : Nat.log2 (quanta p) - 52 = gapExponent p := by
  have hpow : Nat.pow 2 52 = 2 ^ 52 := rfl
  rw [quanta]
  generalize hg : gapExponent p = g
  rw [gapExponent, hpow] at hg
  rw [hpow]
  generalize hf : p - g * 2 ^ 52 = f
  by_cases hp : p < 2 ^ 52
  -- a value of at most 52 bits is its own place
  · obtain rfl : g = 0 := by omega
    obtain rfl : f = p := by omega
    have hlog : Nat.log2 f ≤ 52 := by
      rcases Nat.eq_zero_or_pos f with rfl | hpos
      · decide
      · exact Nat.le_of_lt ((Nat.log2_lt (Nat.ne_of_gt hpos)).2 hp)
    simpa using Nat.sub_eq_zero_of_le hlog
  · have hlow : 2 ^ 52 ≤ f := by omega
    have hhigh : f < 2 ^ 53 := by omega
    have hpos : 0 < 2 ^ g := Nat.two_pow_pos g
    have hlog : Nat.log2 (f * 2 ^ g) = 52 + g := by
      rw [Nat.log2_eq_iff (Nat.ne_of_gt (Nat.mul_pos (by omega) hpos)), Nat.add_right_comm, Nat.pow_add, Nat.pow_add]
      exact ⟨Nat.mul_le_mul_right _ hlow, Nat.mul_lt_mul_of_pos_right hhigh hpos⟩
    change Nat.log2 (f * 2 ^ g) - 52 = g
    omega

/-- The place nearest to the value at a place is that place. -/
theorem nearestPlace_quanta {p : Nat} (hp : p ≤ infinityPlace) : nearestPlace (quanta p) 1 = p := by
  have hle := gapExponent_mul_le p
  have hgap : 0 < Nat.pow 2 (gapExponent p) := Nat.two_pow_pos _
  unfold nearestPlace
  simp only [Nat.div_one, log2_quanta_sub, Nat.one_mul]
  rw [quanta, roundHalfEven_mul _ hgap]
  omega

theorem ofQuanta_quanta (negative : Bool) (p : Fin (infinityPlace + 1)) :
    ofQuanta negative (quanta p) 1 = signed negative p := by
  rw [ofQuanta]
  congr 1
  exact Fin.ext (nearestPlace_quanta (Nat.le_of_lt_succ p.isLt))

theorem quanta_eq_zero_iff {p : Nat} : quanta p = 0 ↔ p = 0 := by
  refine ⟨fun h => ?_, by rintro rfl; rfl⟩
  have hlog := log2_quanta_sub p
  rw [h] at hlog
  have hgap : gapExponent p = 0 := by simpa using hlog.symm
  simpa [quanta, hgap] using h

theorem one_pos : 0 < one := by decide +kernel

theorem isZero_signed {negative : Bool} {p : Fin (infinityPlace + 1)} :
    (signed negative p).isZero = true ↔ p = 0 := by
  rw [isZero, decide_eq_true_iff, Fin.ext_iff, Fin.val_zero]

theorem toInt_signed {n : Nat} {p : Fin (infinityPlace + 1)} (hn : quanta p = n * one) (negative : Bool) :
    toInt (signed negative p) = if negative then -(n : Int) else n := by
  rw [toInt, hn, Nat.mul_div_cancel n one_pos]

/-- A whole number is the number nearest to itself as an integer, but for the sign of zero. -/
theorem ofInt_toInt {x : Number} (h : x.isIntegral = true) : ofInt x.toInt = if x.isZero then zero false else x := by
  cases x with
  | nan => cases h
  | signed s p =>
    obtain ⟨-, hdvd⟩ : p.val < infinityPlace ∧ quanta p % one = 0 := by simpa [isIntegral] using h
    obtain ⟨n, hn⟩ := Nat.dvd_of_mod_eq_zero hdvd
    rw [Nat.mul_comm] at hn
    have habs : (toInt (signed s p)).natAbs = n := by
      rw [toInt_signed hn]
      cases s <;> simp
    rw [ofInt, habs, ← hn, ofQuanta_quanta, toInt_signed hn]
    by_cases hp : p = 0
    · obtain rfl : n = 0 := by
        have hquanta : quanta p = 0 := by rw [hp]; rfl
        exact (Nat.mul_eq_zero.1 (hn.symm.trans hquanta)).resolve_right (Nat.ne_of_gt one_pos)
      rw [if_pos (isZero_signed.2 hp), zero, hp]
      cases s <;> rfl
    · have hpos : n ≠ 0 := by
        rintro rfl
        rw [Nat.zero_mul, quanta_eq_zero_iff] at hn
        exact hp (Fin.ext hn)
      rw [if_neg (mt isZero_signed.1 hp)]
      congr 1
      cases s <;> grind

end ExprLang.Number
