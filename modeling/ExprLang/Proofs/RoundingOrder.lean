import ExprLang.Proofs.ExactNumbers
import Mathlib.Algebra.Ring.Nat

/-!
# Rounding keeps the order

Places further on have larger values (`Number.quanta_mono`), and a larger number of quanta is rounded to the same place
or to one further on (`Number.nearestPlace_mono`): as long as the gap between the places stays the same, this is the
order of rounded quotients, and where the gap grows there is a power of two between the two places.  The same holds of
quotients of quanta (`Number.nearestPlace_le_of_mul_le`), as rounding does not see whether a quotient is expanded.
-/

namespace ExprLang.Number

variable {p q a b d : Nat}

theorem pow_two_eq (k : Nat) : Nat.pow 2 k = 2 ^ k := rfl

/-! ### Values of places -/

theorem gapExponent_mono (h : p ≤ q) : gapExponent p ≤ gapExponent q := by
  have hdiv : p / Nat.pow 2 52 ≤ q / Nat.pow 2 52 := Nat.div_le_div_right h
  unfold gapExponent
  omega

/-- The value at a place has at most 53 bits in front of the gap. -/
theorem quanta_lt (p : Nat) : quanta p < 2 ^ (53 + gapExponent p) := by
  have hpow := pow_two_eq 52
  have hbits : p - gapExponent p * 2 ^ 52 < 2 ^ 53 := by
    rw [gapExponent, hpow]
    omega
  rw [quanta, hpow, pow_two_eq, Nat.pow_add]
  exact Nat.mul_lt_mul_of_pos_right hbits (Nat.two_pow_pos _)

/-- Behind the first gap the value at a place has 53 bits in front of the gap. -/
theorem le_quanta (h : 0 < gapExponent p) : 2 ^ (52 + gapExponent p) ≤ quanta p := by
  have hpow := pow_two_eq 52
  have hbits : 2 ^ 52 ≤ p - gapExponent p * 2 ^ 52 := by
    rw [gapExponent, hpow] at h ⊢
    omega
  rw [quanta, hpow, pow_two_eq, Nat.pow_add]
  exact Nat.mul_le_mul_right _ hbits

theorem quanta_mono (h : p ≤ q) : quanta p ≤ quanta q := by
  rcases Nat.lt_or_eq_of_le (gapExponent_mono h) with hlt | heq
  · have hpow : 2 ^ (53 + gapExponent p) ≤ 2 ^ (52 + gapExponent q) := by
      apply Nat.pow_le_pow_right Nat.two_pos
      omega
    calc quanta p ≤ 2 ^ (53 + gapExponent p) := Nat.le_of_lt (quanta_lt p)
      _ ≤ 2 ^ (52 + gapExponent q) := hpow
      _ ≤ quanta q := le_quanta (by omega)
  · rw [quanta, quanta, heq]
    apply Nat.mul_le_mul_right
    omega

/-! ### Rounded quotients -/

theorem le_roundHalfEven (a d : Nat) : a / d ≤ roundHalfEven a d := by
  unfold roundHalfEven
  simp only
  split <;> omega

theorem roundHalfEven_le_succ (a d : Nat) : roundHalfEven a d ≤ a / d + 1 := by
  unfold roundHalfEven
  simp only
  split <;> omega

theorem roundHalfEven_mono (h : a ≤ b) : roundHalfEven a d ≤ roundHalfEven b d := by
  rcases Nat.lt_or_eq_of_le (Nat.div_le_div_right h (c := d)) with hlt | heq
  · have ha := roundHalfEven_le_succ a d
    have hb := le_roundHalfEven b d
    omega
  · -- the quotients are the same, so the remainders decide
    have hmod : a % d ≤ b % d := by
      have ha := Nat.div_add_mod a d
      have hb := Nat.div_add_mod b d
      rw [heq] at ha
      omega
    unfold roundHalfEven
    simp only [heq]
    split
    · split <;> omega
    · rename_i hup
      have hup' : ¬ (2 * (b % d) < d ∨ (2 * (b % d) = d ∧ b / d % 2 = 0)) := by
        omega
      exact Nat.le_of_eq (if_neg hup').symm

/-! ### Nearest places -/

/-- The exponent of the gap around the place that a number of quanta is rounded to. -/
def roundingGap (a : Nat) : Nat := Nat.log2 a - 52

theorem nearestPlace_eq (a d : Nat) :
    nearestPlace a d =
      Min.min infinityPlace (roundingGap (a / d) * 2 ^ 52 + roundHalfEven a (d * 2 ^ roundingGap (a / d))) := by
  unfold nearestPlace roundingGap
  simp only [pow_two_eq]

theorem roundingGap_mono (h : a ≤ b) : roundingGap a ≤ roundingGap b := by
  rcases Nat.eq_zero_or_pos a with rfl | ha
  · exact Nat.zero_le _
  · have hlog : Nat.log2 a ≤ Nat.log2 b := by
      rw [Nat.le_log2 (by omega)]
      exact Nat.le_trans (Nat.log2_self_le (by omega)) h
    unfold roundingGap
    omega

/-- At most 53 bits are left of a quotient when it is rounded. -/
theorem roundHalfEven_roundingGap_le (a d : Nat) : roundHalfEven a (d * 2 ^ roundingGap (a / d)) ≤ 2 ^ 53 := by
  have hround := roundHalfEven_le_succ a (d * 2 ^ roundingGap (a / d))
  rw [← Nat.div_div_eq_div_mul] at hround
  generalize a / d = q at hround ⊢
  have hbits : q < 2 ^ (53 + roundingGap q) := by
    have hexponent : Nat.log2 q + 1 ≤ 53 + roundingGap q := by
      unfold roundingGap
      omega
    exact Nat.lt_of_lt_of_le Nat.lt_log2_self (Nat.pow_le_pow_right Nat.two_pos hexponent)
  have hquotient : q / 2 ^ roundingGap q < 2 ^ 53 := by
    rw [Nat.div_lt_iff_lt_mul (Nat.two_pow_pos _), ← Nat.pow_add]
    exact hbits
  omega

/-- All 53 bits are left if the gap is more than one quantum. -/
theorem le_roundHalfEven_roundingGap (h : 0 < roundingGap (a / d)) :
    2 ^ 52 ≤ roundHalfEven a (d * 2 ^ roundingGap (a / d)) := by
  have hround := le_roundHalfEven a (d * 2 ^ roundingGap (a / d))
  rw [← Nat.div_div_eq_div_mul] at hround
  generalize a / d = q at h hround ⊢
  have hlog : 52 + roundingGap q = Nat.log2 q := by
    unfold roundingGap at h ⊢
    omega
  have hne : q ≠ 0 := by
    rintro rfl
    exact absurd h (by decide)
  have hquotient : 2 ^ 52 ≤ q / 2 ^ roundingGap q := by
    rw [Nat.le_div_iff_mul_le (Nat.two_pow_pos _), ← Nat.pow_add, hlog]
    exact Nat.log2_self_le hne
  exact Nat.le_trans hquotient hround

/-- Rounding keeps the order of values. -/
theorem nearestPlace_mono (h : a ≤ b) : nearestPlace a d ≤ nearestPlace b d := by
  have hplaces : roundingGap (a / d) * 2 ^ 52 + roundHalfEven a (d * 2 ^ roundingGap (a / d)) ≤
      roundingGap (b / d) * 2 ^ 52 + roundHalfEven b (d * 2 ^ roundingGap (b / d)) := by
    rcases Nat.lt_or_eq_of_le (roundingGap_mono (Nat.div_le_div_right h (c := d))) with hlt | heq
    · have ha := roundHalfEven_roundingGap_le a d
      have hb := le_roundHalfEven_roundingGap (a := b) (d := d) (by omega)
      omega
    · rw [heq]
      exact Nat.add_le_add_left (roundHalfEven_mono h) _
  rw [nearestPlace_eq, nearestPlace_eq]
  omega

/-- A quotient is rounded in the same way when it is expanded. -/
theorem nearestPlace_mul {k : Nat} (hk : 0 < k) (num den : Nat) :
    nearestPlace (num * k) (den * k) = nearestPlace num den := by
  have hround (n m : Nat) : roundHalfEven (n * k) (m * k) = roundHalfEven n m := by
    have hlt : 2 * (n % m * k) < m * k ↔ 2 * (n % m) < m := by
      rw [← Nat.mul_assoc, Nat.mul_lt_mul_right hk]
    have heq : 2 * (n % m * k) = m * k ↔ 2 * (n % m) = m := by
      rw [← Nat.mul_assoc, Nat.mul_left_inj (Nat.ne_of_gt hk)]
    simp only [roundHalfEven, Nat.mul_div_mul_right _ _ hk, Nat.mul_mod_mul_right, hlt, heq]
  simp only [nearestPlace, Nat.mul_div_mul_right _ _ hk, Nat.mul_right_comm den k, hround]

theorem ofQuanta_mul {k : Nat} (hk : 0 < k) (negative : Bool) (num den : Nat) :
    ofQuanta negative (num * k) (den * k) = ofQuanta negative num den := by
  simp only [ofQuanta, nearestPlace_mul hk]

/-- Rounding keeps the order of quotients. -/
theorem nearestPlace_le_of_mul_le {num den num' den' : Nat} (hden : 0 < den) (hden' : 0 < den')
    (h : num * den' ≤ num' * den) : nearestPlace num den ≤ nearestPlace num' den' := by
  calc nearestPlace num den = nearestPlace (num * den') (den * den') := (nearestPlace_mul hden' num den).symm
    _ ≤ nearestPlace (num' * den) (den * den') := nearestPlace_mono h
    _ = nearestPlace num' den' := by rw [Nat.mul_comm den den', nearestPlace_mul hden]

end ExprLang.Number
