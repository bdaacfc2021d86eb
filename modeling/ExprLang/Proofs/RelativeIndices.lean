import ExprLang.Proofs.WholeNumbers
import ExprLang.Value.Coercion

/-!
# Relative indices

A relative index lies within the sequence, whatever its value is: one below zero is added to the length, and the sum,
rounded or not, is no more than the length because rounding keeps the order (`Number.toIndex_add_le`); the others are
cut off at the length (`Number.toIndex_min_le`).  A whole number up to `2 ^ 53` within the sequence is its own index
(`Value.relativeIndex_signed`), and whole numbers are added like those of arithmetic (`Number.add_ofNat`).
-/

namespace ExprLang

namespace Number

variable {x : Number} {negative : Bool} {p q : Fin (infinityPlace + 1)} {i length : Nat}

theorem signedQuanta_false (p : Nat) : signedQuanta false p = quanta p := if_neg Bool.false_ne_true

theorem signedQuanta_true (p : Nat) : signedQuanta true p = -(quanta p : Int) := if_pos rfl

/-! ### Sizes of indices -/

theorem toIndex_signed_le : (signed negative p).toIndex ≤ quanta p / one := by
  cases negative with
  | false => exact Nat.min_le_left ..
  | true => exact Nat.zero_le _

theorem toIndex_zero : (zero negative).toIndex = 0 := by
  have hzero : quanta (0 : Fin (infinityPlace + 1)) = 0 := quanta_eq_zero_iff.2 rfl
  have hle : (signed negative 0).toIndex ≤ quanta (0 : Fin (infinityPlace + 1)) / one := toIndex_signed_le
  rw [hzero, Nat.zero_div] at hle
  rw [zero]
  exact Nat.le_zero.1 hle

/-- Rounding does not take a value beyond a place that it does not exceed. -/
theorem toIndex_ofQuanta_le {a : Nat} (h : a ≤ quanta q) : (ofQuanta negative a 1).toIndex ≤ quanta q / one := by
  have hplace : nearestPlace a 1 ≤ q.val := by
    rw [← nearestPlace_quanta (Nat.le_of_lt_succ q.isLt)]
    exact nearestPlace_mono h
  rw [ofQuanta]
  exact Nat.le_trans toIndex_signed_le (Nat.div_le_div_right (quanta_mono hplace))

theorem exists_place_of_isBelowZero (h : x.isBelowZero = true) : ∃ p, x = signed true p := by
  cases x with
  | nan => cases h
  | signed negative p =>
    cases negative with
    | true => exact ⟨p, rfl⟩
    | false =>
      rw [isBelowZero_signed.2 (.inl rfl)] at h
      cases h

/-- Counting from the end of a sequence leads to no index behind it. -/
theorem toIndex_add_le (hlength : length < 2 ^ 53) (hx : x.isBelowZero = true) :
    (add (ofNat length) x).toIndex ≤ length := by
  obtain ⟨q, hq, hquanta⟩ := exists_ofNat_eq (Nat.le_of_lt hlength)
  obtain ⟨p, rfl⟩ := exists_place_of_isBelowZero hx
  have hfinite : q.val ≠ infinityPlace := Nat.ne_of_lt (lt_infinityPlace_of_quanta hlength hquanta)
  have hdiv : quanta q / one = length := by rw [hquanta, Nat.mul_div_cancel length one_pos]
  rw [hq, add, if_neg hfinite]
  by_cases hinfinity : p.val = infinityPlace
  · rw [if_pos hinfinity]
    exact Nat.zero_le _
  rw [if_neg hinfinity]
  simp only
  by_cases hzero : signedQuanta false q + signedQuanta true p = 0
  · rw [if_pos hzero, toIndex_zero]
    exact Nat.zero_le _
  rw [if_neg hzero]
  by_cases hbelow : signedQuanta false q + signedQuanta true p < 0
  · rw [decide_eq_true hbelow]
    exact Nat.zero_le _
  · rw [decide_eq_false hbelow, ← hdiv]
    apply toIndex_ofQuanta_le
    rw [signedQuanta_false, signedQuanta_true] at hbelow ⊢
    omega

/-- From zero on the order of numbers is that of their places. -/
theorem min_signed (hs : negative = false ∨ p.val = 0) :
    min (signed negative p) (signed false q) = if q.val < p.val then signed false q else signed negative p := by
  have hrank : (if negative then -(p.val : Int) else p.val) = p.val := by
    cases negative with
    | false => rfl
    | true =>
      have hzero := hs.resolve_left (by decide)
      rw [hzero]
      rfl
  have hlt : (compare? (signed false q) (signed negative p) == some .lt) = true ↔ q.val < p.val := by
    simp [compare?, rank?, hrank, Int.compare_eq_lt]
  unfold min
  by_cases h : q.val < p.val
  · rw [if_pos h, if_pos (hlt.2 h)]
  · rw [if_neg h, if_neg (mt hlt.1 h)]

/-- Cutting off at the length of a sequence leads to no index behind it. -/
theorem toIndex_min_le (hlength : length < 2 ^ 53) (hx : x.isBelowZero = false) :
    (min x (ofNat length)).toIndex ≤ length := by
  obtain ⟨q, hq, hquanta⟩ := exists_ofNat_eq (Nat.le_of_lt hlength)
  have hdiv : quanta q / one = length := by rw [hquanta, Nat.mul_div_cancel length one_pos]
  cases x with
  | nan => exact Nat.zero_le _
  | signed negative p =>
    rw [hq, min_signed (isBelowZero_signed.1 hx), ← hdiv]
    by_cases h : q.val < p.val
    · rw [if_pos h]
      exact toIndex_signed_le
    · rw [if_neg h]
      exact Nat.le_trans toIndex_signed_le (Nat.div_le_div_right (quanta_mono (Nat.le_of_not_lt h)))

/-! ### Whole numbers -/

/-- A number that equals a whole number below `2 ^ 53` has its value, and no sign unless it is zero. -/
theorem exists_place_of_eqv (hi : i < 2 ^ 53) (hx : x.eqv (ofNat i) = true) :
    ∃ negative p, x = signed negative p ∧ (negative = false ∨ p.val = 0) ∧ quanta p = i * one := by
  cases x with
  | nan => simp [eqv, compare?, rank?] at hx
  | signed negative p => exact ⟨negative, p, rfl, (eqv_ofNat_iff hi).1 hx⟩

theorem trunc_signed (hp : quanta p = i * one) : trunc (signed negative p) = signed negative p := by
  have hvalue : quanta p / one * one = quanta p := by rw [hp, Nat.mul_div_cancel i one_pos]
  rw [trunc, hvalue, ofQuanta_quanta]
  exact ite_self _

theorem toIndex_whole (hs : negative = false ∨ p.val = 0) (hp : quanta p = i * one) (hi : i ≤ 2 ^ 53) :
    (signed negative p).toIndex = i := by
  rw [toIndex_signed hs hp]
  exact Nat.min_eq_left (Nat.le_trans hi (by decide))

/-- A whole number is not cut off at the length of a sequence that reaches up to it. -/
theorem min_ofNat (hs : negative = false ∨ p.val = 0) (hp : quanta p = i * one) (hle : i ≤ length) :
    min (signed negative p) (ofNat length) = signed negative p := by
  have hplace : p.val ≤ nearestPlace (length * one) 1 := by
    rw [← nearestPlace_quanta (Nat.le_of_lt_succ p.isLt), hp]
    exact nearestPlace_mono (Nat.mul_le_mul_right one hle)
  rw [ofNat_eq, ofQuanta, min_signed hs]
  exact if_neg (Nat.not_lt.2 hplace)

theorem signedQuanta_whole (hs : negative = false ∨ p.val = 0) : signedQuanta negative p = quanta p := by
  cases negative with
  | false => exact signedQuanta_false p
  | true =>
    have hzero : quanta p = 0 := quanta_eq_zero_iff.2 (hs.resolve_left (by decide))
    rw [signedQuanta_true, hzero]
    rfl

/-- A sum of finite numbers that comes to a whole number from zero on. -/
theorem ofNat_of_sum {s t : Bool} {sum : Int} (hsum : sum = (i * one : Nat)) (hs : (s && t) = false) :
    (if sum = 0 then zero (s && t) else ofQuanta (decide (sum < 0)) sum.natAbs 1) = ofNat i := by
  rw [hsum, hs, ofNat_eq]
  by_cases hzero : i * one = 0
  · have hplace : ofQuanta false (quanta (0 : Fin (infinityPlace + 1))) 1 = signed false 0 := ofQuanta_quanta false 0
    rw [quanta_eq_zero_iff.2 (Fin.val_zero _)] at hplace
    rw [hzero, hplace, if_pos Int.natCast_zero, zero]
  · rw [if_neg (by omega), decide_eq_false (by omega), Int.natAbs_natCast]

/-- The sum of whole numbers is the number nearest to their sum. -/
theorem add_ofNat {m : Nat} (hi : i < 2 ^ 53) (hm : m < 2 ^ 53) (hx : x.eqv (ofNat i) = true) :
    add x (ofNat m) = ofNat (i + m) := by
  obtain ⟨negative, p, rfl, hs, hp⟩ := exists_place_of_eqv hi hx
  obtain ⟨q, hq, hquanta⟩ := exists_ofNat_eq (Nat.le_of_lt hm)
  have hfinite : p.val ≠ infinityPlace := Nat.ne_of_lt (lt_infinityPlace_of_quanta hi hp)
  have hfinite' : q.val ≠ infinityPlace := Nat.ne_of_lt (lt_infinityPlace_of_quanta hm hquanta)
  have hsum : signedQuanta negative p + signedQuanta false q = ((i + m) * one : Nat) := by
    rw [signedQuanta_whole hs, signedQuanta_false, hp, hquanta, Nat.add_mul, Int.natCast_add]
  rw [hq, add, if_neg hfinite, if_neg hfinite']
  exact ofNat_of_sum hsum (Bool.and_false _)

/-- The difference of whole numbers, the second of which is not the larger one. -/
theorem sub_ofNat {m : Nat} (hle : m ≤ i) (hi : i < 2 ^ 53) : sub (ofNat i) (ofNat m) = ofNat (i - m) := by
  have hm : m < 2 ^ 53 := by omega
  obtain ⟨p, hp, hquanta⟩ := exists_ofNat_eq (Nat.le_of_lt hi)
  obtain ⟨q, hq, hquanta'⟩ := exists_ofNat_eq (Nat.le_of_lt hm)
  have hfinite : p.val ≠ infinityPlace := Nat.ne_of_lt (lt_infinityPlace_of_quanta hi hquanta)
  have hfinite' : q.val ≠ infinityPlace := Nat.ne_of_lt (lt_infinityPlace_of_quanta hm hquanta')
  have hsum : signedQuanta false p + signedQuanta true q = ((i - m) * one : Nat) := by
    have hmul : m * one ≤ i * one := Nat.mul_le_mul_right one hle
    rw [signedQuanta_false, signedQuanta_true, hquanta, hquanta', Nat.sub_mul]
    omega
  rw [hp, hq, sub, neg, Bool.not_false, add, if_neg hfinite, if_neg hfinite']
  exact ofNat_of_sum hsum (Bool.false_and _)

theorem ofNat_inj {m : Nat} (hi : i < 2 ^ 53) (hm : m < 2 ^ 53) : ofNat i = ofNat m ↔ i = m := by
  refine ⟨fun h => ?_, congrArg ofNat⟩
  obtain ⟨p, hp, hquanta⟩ := exists_ofNat_eq (Nat.le_of_lt hi)
  obtain ⟨q, hq, hquanta'⟩ := exists_ofNat_eq (Nat.le_of_lt hm)
  rw [hp, hq, signed.injEq] at h
  rw [h.2, hquanta'] at hquanta
  exact (Nat.eq_of_mul_eq_mul_right one_pos hquanta).symm

theorem ofNat_eqv_self (hi : i < 2 ^ 53) : (ofNat i).eqv (ofNat i) = true := by
  obtain ⟨p, hp, hquanta⟩ := exists_ofNat_eq (Nat.le_of_lt hi)
  have hself : (signed false p).eqv (ofNat i) = true := (eqv_ofNat_iff hi).2 ⟨.inl rfl, hquanta⟩
  rwa [← hp] at hself

end Number

namespace Value

open Number

variable {v k : Value} {x : Number} {negative : Bool} {p : Fin (infinityPlace + 1)} {i length default : Nat}

/-- A relative index lies within the sequence. -/
theorem relativeIndex_le (v : Option Value) (hlength : length < 2 ^ 53) (hdefault : default ≤ length) :
    relativeIndex v length default ≤ length := by
  unfold relativeIndex
  simp only
  split
  · exact hdefault
  · exact hdefault
  · rename_i v hv
    by_cases hbelow : v.toInteger.isBelowZero = true
    · rw [if_pos hbelow]
      exact toIndex_add_le hlength hbelow
    · rw [if_neg hbelow]
      exact toIndex_min_le hlength (Bool.not_eq_true _ ▸ hbelow)

/-- What stands for undefined does not matter to other values. -/
theorem relativeIndex_default (hk : k.isUndefined = false) (d : Nat) :
    relativeIndex (some k) length d = relativeIndex (some k) length default := by
  cases k with
  | undefined => cases hk
  | _ => rfl

theorem toInteger_signed (hp : quanta p = i * one) : (number (.signed negative p)).toInteger = .signed negative p :=
  trunc_signed hp

/-- A number that equals an index is not below zero as an integer and names this index. -/
theorem toInteger_of_eqv (hi : i < 2 ^ 53) (hx : x.eqv (.ofNat i) = true) :
    (number x).toInteger.isBelowZero = false ∧ (number x).toInteger.toIndex = i := by
  obtain ⟨negative, p, rfl, hs, hp⟩ := exists_place_of_eqv hi hx
  rw [toInteger_signed hp]
  exact ⟨isBelowZero_signed.2 hs, toIndex_whole hs hp (Nat.le_of_lt hi)⟩

/-- A whole number within the sequence is its own index. -/
theorem relativeIndex_signed (hs : negative = false ∨ p.val = 0) (hp : quanta p = i * one) (hi : i ≤ 2 ^ 53)
    (hle : i ≤ length) : relativeIndex (some (number (.signed negative p))) length default = i := by
  have hnonnegative : (Number.signed negative p).isBelowZero = false := isBelowZero_signed.2 hs
  show (if (number (.signed negative p)).toInteger.isBelowZero then _ else _) = i
  rw [toInteger_signed hp, hnonnegative, if_neg (by decide), min_ofNat hs hp hle]
  exact toIndex_whole hs hp hi

theorem relativeIndex_of_eqv (hi : i < 2 ^ 53) (hx : x.eqv (.ofNat i) = true) (hle : i ≤ length) :
    relativeIndex (some (number x)) length default = i := by
  obtain ⟨negative, p, rfl, hs, hp⟩ := exists_place_of_eqv hi hx
  exact relativeIndex_signed hs hp (Nat.le_of_lt hi) hle

theorem relativeIndex_ofNat (hi : i ≤ 2 ^ 53) (hle : i ≤ length) :
    relativeIndex (some (number (.ofNat i))) length default = i := by
  obtain ⟨q, hq, hquanta⟩ := exists_ofNat_eq hi
  rw [hq]
  exact relativeIndex_signed (.inl rfl) hquanta hi hle

end Value

end ExprLang
