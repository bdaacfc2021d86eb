import ExprLang.Number.Text
import ExprLang.Proofs.RoundingOrder

/-!
# The shortest decimal is read back

The decimal that a number is written with is read back as the number: either the search on the grids has tried this, or it
is the value itself (`Decimal.toNumber_shortest`).

Rounding keeps the order of decimals, so a decimal whose first digit stands for at least `10 ^ k` is rounded to a place
from that of `10 ^ k` on, and any other to one up to it (`Decimal.le_place`, `Decimal.place_le`).  If the shortest decimal
of the place of `10 ^ k` has its first digit there, the place of a number tells where the first digit of its shortest
decimal stands (`Decimal.le_firstExponent_shortest_iff`).
-/

namespace ExprLang

namespace Number

/-- One is a power of two, whose exponent is not to be computed with. -/
theorem one_eq {e : Nat} (he : 1074 = e) : one = 2 ^ e := by
  delta one
  rw [he]
  rfl

end Number

namespace Decimal

open Number

variable {d : Decimal} {k : Int}

/-! ### Reading back -/

theorem onGrid?_eq_some {p : Nat} (h : onGrid? p k = some d) : d.exponent = k ∧ d.readsAs p = true := by
  unfold onGrid? at h
  simp only at h
  split at h
  · rename_i hlow
    cases h
    exact ⟨rfl, (Bool.and_eq_true _ _ ▸ hlow).1⟩
  · split at h
    · rename_i hhigh
      cases h
      exact ⟨rfl, hhigh⟩
    · cases h

theorem shortest_cases (p : Nat) : (shortest p).readsAs p = true ∨ shortest p = exact p := by
  unfold shortest
  cases hfind : (List.range 19).findSome? fun (n : Nat) => onGrid? p (leadingExponent p + 1 - (n : Int)) with
  | none => exact .inr rfl
  | some d =>
    obtain ⟨k, -, hk⟩ := List.exists_of_findSome?_eq_some hfind
    exact .inl (onGrid?_eq_some hk).2

theorem le_log2_mul_pow {q : Nat} (hq : 0 < q) (e : Nat) : e ≤ Nat.log2 (q * 5 ^ e) := by
  have hpow : 2 ^ e ≤ 5 ^ e := Nat.pow_le_pow_left (by decide) e
  have hle : 5 ^ e ≤ q * 5 ^ e := Nat.le_mul_of_pos_left _ hq
  have hpos : 0 < 2 ^ e := Nat.two_pow_pos e
  rw [Nat.le_log2 (by omega)]
  omega

/-- The value at a place is read back as it is: its exponent is within the bounds. -/
theorem toNumber_exact {p : Nat} (hzero : p ≠ 0) (negative : Bool) :
    (exact p).toNumber negative = ofQuanta negative (quanta p) 1 := by
  -- named, so that no power of this size is computed
  obtain ⟨e, he⟩ : ∃ e, 1074 = e := ⟨_, rfl⟩
  have hexponent : (1074 : Int) = e := by
    rw [← he]
    rfl
  have hexact : exact p = ⟨quanta p * 5 ^ e, -(e : Int)⟩ := by
    unfold exact
    rw [he, hexponent]
    rfl
  have hpos : 0 < quanta p := Nat.pos_of_ne_zero (mt quanta_eq_zero_iff.1 hzero)
  have hlog := le_log2_mul_pow hpos e
  have hbounded : (exact p).boundedExponent = -(e : Int) := by
    rw [hexact, boundedExponent]
    simp only
    omega
  have hnum : quanta p * 5 ^ e * Nat.pow 10 0 * 2 ^ e = quanta p * 10 ^ e := by
    rw [show Nat.pow 10 0 = 1 from rfl, Nat.mul_one, Nat.mul_assoc, ← Nat.mul_pow]
  have hden : Nat.pow 10 e = 1 * 10 ^ e := (Nat.one_mul _).symm
  rw [toNumber, hbounded, hexact, one_eq he]
  simp only [Int.neg_neg, Int.toNat_natCast]
  rw [Int.toNat_of_nonpos (by omega), hnum, hden, ofQuanta_mul (Nat.pow_pos (by decide))]

theorem toNumber_of_readsAs {d : Decimal} {p : Fin (infinityPlace + 1)} (h : d.readsAs p = true) (negative : Bool) :
    d.toNumber negative = signed negative p := by
  unfold readsAs toNumber at h
  simp only [ofQuanta, decide_eq_true_eq] at h
  unfold toNumber
  simp only [ofQuanta, h]

/-- The decimal that a number is written with is read back as the number. -/
theorem toNumber_shortest {p : Fin (infinityPlace + 1)} (hzero : p.val ≠ 0) (negative : Bool) :
    (shortest p).toNumber negative = signed negative p := by
  rcases shortest_cases p with hreads | hexact
  · exact toNumber_of_readsAs hreads negative
  · rw [hexact, toNumber_exact hzero, ofQuanta_quanta]

/-! ### Places of powers of ten -/

/-- The place that a decimal is rounded to. -/
def place (d : Decimal) : Nat :=
  nearestPlace (d.significand * Nat.pow 10 d.boundedExponent.toNat * one) (Nat.pow 10 (-d.boundedExponent).toNat)

theorem place_le_infinityPlace (d : Decimal) : d.place ≤ infinityPlace := nearestPlace_le _ _

theorem toNumber_eq (negative : Bool) (d : Decimal) :
    d.toNumber negative = signed negative ⟨d.place, Nat.lt_succ_of_le d.place_le_infinityPlace⟩ := rfl

theorem place_shortest {p : Fin (infinityPlace + 1)} (hzero : p.val ≠ 0) : (shortest p).place = p.val := by
  have hread := toNumber_shortest hzero false
  rw [toNumber_eq] at hread
  injection hread with _ hplace
  exact congrArg Fin.val hplace

theorem digitCount_pos (m : Nat) : 0 < digitCount m := List.length_pos_iff.2 Nat.toDigits_ne_nil

theorem lt_pow_digitCount (m : Nat) : m < 10 ^ digitCount m :=
  (Nat.length_toDigits_le_iff (by decide) (digitCount_pos m)).1 (Nat.le_refl _)

theorem pow_digitCount_le {m : Nat} (hm : 0 < m) : 10 ^ (digitCount m - 1) ≤ m := by
  rcases Nat.eq_zero_or_pos (digitCount m - 1) with hone | hmore
  · rw [hone]
    exact hm
  · refine Nat.le_of_not_lt fun hlt => ?_
    have hcount : digitCount m ≤ digitCount m - 1 := (Nat.length_toDigits_le_iff (by decide) hmore).2 hlt
    omega

/-- A number has no more decimal digits than binary ones. -/
theorem digitCount_le {m : Nat} (hm : 0 < m) : digitCount m ≤ Nat.log2 m + 1 := by
  have hpow : 2 ^ (digitCount m - 1) ≤ 10 ^ (digitCount m - 1) := Nat.pow_le_pow_left (by decide) _
  have hlog := (Nat.le_log2 (Nat.ne_of_gt hm)).2 (Nat.le_trans hpow (pow_digitCount_le hm))
  omega

theorem boundedExponent_pow (hlow : -399 ≤ k) (hhigh : k ≤ 400) : boundedExponent ⟨1, k⟩ = k := by
  have hlog : Nat.log2 1 = 0 := by decide
  rw [boundedExponent]
  simp only [hlog]
  omega

/-- A decimal from `10 ^ k` on is rounded to a place from that of `10 ^ k` on. -/
theorem le_place (hd : 0 < d.significand) (hlow : -399 ≤ k) (hhigh : k ≤ 400) (h : k ≤ d.firstExponent) :
    place ⟨1, k⟩ ≤ d.place := by
  have hfirst : k + 1 ≤ d.boundedExponent + digitCount d.significand := by
    have hcount := digitCount_pos d.significand
    rw [firstExponent] at h
    rw [boundedExponent]
    omega
  unfold place
  rw [boundedExponent_pow hlow hhigh]
  generalize d.boundedExponent = e at hfirst
  refine nearestPlace_le_of_mul_le (Nat.pow_pos (by decide)) (Nat.pow_pos (by decide)) ?_
  simp only [Nat.pow_eq, Nat.one_mul]
  have hexponents : k.toNat + (-e).toNat ≤ digitCount d.significand - 1 + (e.toNat + (-k).toNat) := by omega
  calc 10 ^ k.toNat * one * 10 ^ (-e).toNat = 10 ^ (k.toNat + (-e).toNat) * one := by
        rw [Nat.pow_add, Nat.mul_right_comm]
    _ ≤ 10 ^ (digitCount d.significand - 1 + (e.toNat + (-k).toNat)) * one :=
        Nat.mul_le_mul_right _ (Nat.pow_le_pow_right (by decide) hexponents)
    _ ≤ d.significand * 10 ^ (e.toNat + (-k).toNat) * one := by
        rw [Nat.pow_add]
        exact Nat.mul_le_mul_right _ (Nat.mul_le_mul_right _ (pow_digitCount_le hd))
    _ = d.significand * 10 ^ e.toNat * one * 10 ^ (-k).toNat := by
        rw [Nat.pow_add, ← Nat.mul_assoc, Nat.mul_right_comm]

/-- A decimal below `10 ^ k` is rounded to a place up to that of `10 ^ k`. -/
theorem place_le (hd : 0 < d.significand) (hlow : -399 ≤ k) (hhigh : k ≤ 400) (h : d.firstExponent < k) :
    d.place ≤ place ⟨1, k⟩ := by
  have hfirst : d.boundedExponent + digitCount d.significand ≤ k := by
    have hcount := digitCount_pos d.significand
    have hbits := digitCount_le hd
    rw [firstExponent] at h
    rw [boundedExponent]
    omega
  unfold place
  rw [boundedExponent_pow hlow hhigh]
  generalize d.boundedExponent = e at hfirst
  refine nearestPlace_le_of_mul_le (Nat.pow_pos (by decide)) (Nat.pow_pos (by decide)) ?_
  simp only [Nat.pow_eq, Nat.one_mul]
  have hexponents : digitCount d.significand + (e.toNat + (-k).toNat) ≤ k.toNat + (-e).toNat := by omega
  calc d.significand * 10 ^ e.toNat * one * 10 ^ (-k).toNat
      = d.significand * 10 ^ (e.toNat + (-k).toNat) * one := by rw [Nat.pow_add, ← Nat.mul_assoc, Nat.mul_right_comm]
    _ ≤ 10 ^ (digitCount d.significand + (e.toNat + (-k).toNat)) * one := by
        rw [Nat.pow_add _ (digitCount _)]
        exact Nat.mul_le_mul_right _ (Nat.mul_le_mul_right _ (Nat.le_of_lt (lt_pow_digitCount _)))
    _ ≤ 10 ^ (k.toNat + (-e).toNat) * one := Nat.mul_le_mul_right _ (Nat.pow_le_pow_right (by decide) hexponents)
    _ = 10 ^ k.toNat * one * 10 ^ (-e).toNat := by rw [Nat.pow_add, Nat.mul_right_comm]

theorem significand_pos_of_place (h : d.place ≠ 0) : 0 < d.significand := by
  refine Nat.pos_of_ne_zero fun hzero => h ?_
  rw [place, hzero, Nat.zero_mul, Nat.zero_mul]
  simp [nearestPlace, roundHalfEven]

/-- The place of a number tells whether its shortest decimal has its first digit from `10 ^ k` on, provided that `10 ^ k`
is the shortest decimal of its own place. -/
theorem le_firstExponent_shortest_iff {p : Fin (infinityPlace + 1)} (hzero : p.val ≠ 0) (hlow : -399 ≤ k)
    (hhigh : k ≤ 400) (hk : (shortest (place ⟨1, k⟩)).firstExponent = k) :
    k ≤ (shortest p).firstExponent ↔ place ⟨1, k⟩ ≤ p.val := by
  have hplace := place_shortest hzero
  have hd : 0 < (shortest p).significand := significand_pos_of_place (hplace.trans_ne hzero)
  constructor
  · intro h
    rw [← hplace]
    exact le_place hd hlow hhigh h
  · intro h
    refine Int.not_lt.1 fun hlt => ?_
    have hle := place_le hd hlow hhigh hlt
    -- the place of the number is that of the power of ten, but its first digit stands elsewhere
    rw [hplace] at hle
    rw [Nat.le_antisymm h hle] at hk
    omega

end Decimal

end ExprLang
