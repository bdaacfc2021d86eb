import ExprLang.Proofs.NumberNotation
import Mathlib.Algebra.Ring.Nat

/-!
# Numbers written like whole numbers

A whole number below `2 ^ 53` is the value at a place (`Number.exists_quanta_eq`) and no larger value is rounded to one
(`Number.quanta_of_nearestPlace`).  The search for the shortest decimal of a number tries ever finer grids, and that of
ones holds every whole number; a coarser grid is left only by a decimal that is read back as the number and so has its
value (`Decimal.shortest_whole`).  In the other direction a text of digits alone comes from a decimal without a fraction
(`Decimal.text_of_isDigit`).  So the numbers that are written like a whole number below `2 ^ 53` are those that equal it
(`Number.text_eq_toDigits_iff`).
-/

namespace ExprLang

/-- The texts of numbers from zero on start with a digit, names do not. -/
def StartsWithDigit (text : List Char) : Prop := ∃ c rest, text = c :: rest ∧ c.isDigit = true

namespace Number

/-- A whole number of at most 53 bits is the value at a place. -/
theorem exists_quanta_eq {n : Nat} (hn : n < 2 ^ 53) : ∃ p ≤ infinityPlace, quanta p = n * one := by
  obtain ⟨e, he⟩ : ∃ e, 1074 = e := ⟨_, rfl⟩
  rcases Nat.eq_zero_or_pos n with rfl | hpos
  · exact ⟨0, Nat.zero_le _, by rw [Nat.zero_mul]; rfl⟩
  -- the number is shifted until it has 53 bits
  have hlog : Nat.log2 n < 53 := (Nat.log2_lt (Nat.ne_of_gt hpos)).2 hn
  obtain ⟨k, hk⟩ : ∃ k, Nat.log2 n + k = 52 := ⟨52 - Nat.log2 n, by omega⟩
  obtain ⟨hlow, hhigh⟩ := (Nat.log2_eq_iff (Nat.ne_of_gt hpos)).1 rfl
  have hshift : n * 2 ^ k * 2 ^ (e - k) = n * one := by
    rw [Nat.mul_assoc, ← Nat.pow_add, one_eq he]
    congr 2
    omega
  have hflow : 2 ^ 52 ≤ n * 2 ^ k := by
    rw [← hk, Nat.pow_add]
    exact Nat.mul_le_mul_right _ hlow
  have hfhigh : n * 2 ^ k < 2 ^ 53 := by
    have hsum : Nat.log2 n + 1 + k = 53 := by omega
    rw [← hsum, Nat.pow_add]
    exact Nat.mul_lt_mul_of_pos_right hhigh (Nat.two_pow_pos k)
  generalize n * 2 ^ k = f at hshift hflow hfhigh
  have hpow := pow_two_eq 52
  have hgap : gapExponent ((e - k) * 2 ^ 52 + f) = e - k := by
    rw [gapExponent, hpow]
    omega
  refine ⟨(e - k) * 2 ^ 52 + f, ?_, ?_⟩
  · rw [infinityPlace, hpow]
    omega
  · rw [quanta, hgap, hpow, Nat.add_sub_cancel_left, pow_two_eq, hshift]

/-- The place of `2 ^ 53`. -/
theorem quanta_two_pow : quanta (1076 * 2 ^ 52) = 2 ^ 53 * one := by
  obtain ⟨e, he⟩ : ∃ e, 1074 = e := ⟨_, rfl⟩
  have hpow := pow_two_eq 52
  have hgap : gapExponent (1076 * 2 ^ 52) = e + 1 := by
    rw [gapExponent, hpow]
    omega
  have hbits : 1076 * 2 ^ 52 - (e + 1) * 2 ^ 52 = 2 ^ 52 := by omega
  rw [quanta, hgap, hpow, hbits, pow_two_eq, one_eq he, ← Nat.pow_add, ← Nat.pow_add]
  congr 1
  omega

/-- Values below `2 ^ 53` have places before that of `2 ^ 53`. -/
theorem place_lt_of_quanta_lt {p : Nat} (h : quanta p < 2 ^ 53 * one) : p < 1076 * 2 ^ 52 := by
  refine Nat.lt_of_not_le fun hp => ?_
  have hquanta := quanta_mono hp
  rw [quanta_two_pow] at hquanta
  omega

/-- Values from `2 ^ 53` on are rounded to places from that of `2 ^ 53` on. -/
theorem le_nearestPlace_of_le {a : Nat} (h : 2 ^ 53 * one ≤ a) : 1076 * 2 ^ 52 ≤ nearestPlace a 1 := by
  have hplace : 1076 * 2 ^ 52 ≤ infinityPlace := by decide
  have hround : nearestPlace _ 1 ≤ nearestPlace _ 1 := nearestPlace_mono h
  rwa [← quanta_two_pow, nearestPlace_quanta hplace] at hround

/-- A whole number is the value at the nearest place, if the number or the value is below `2 ^ 53`. -/
theorem quanta_of_nearestPlace {n p : Nat} (hp : nearestPlace (n * one) 1 = p)
    (h : n < 2 ^ 53 ∨ quanta p < 2 ^ 53 * one) : quanta p = n * one := by
  have hn : n < 2 ^ 53 := by
    rcases h with h | h
    · exact h
    · refine Nat.lt_of_not_le fun hlarge => ?_
      have hle := le_nearestPlace_of_le (Nat.mul_le_mul_right one hlarge)
      have hlt := place_lt_of_quanta_lt h
      omega
  obtain ⟨q, hq, hquanta⟩ := exists_quanta_eq hn
  rw [← hquanta, nearestPlace_quanta hq] at hp
  rw [← hp, hquanta]

end Number

namespace Decimal

open Number

/-! ### Digits of whole numbers -/

theorem toDigits_inj {m n : Nat} : Nat.toDigits 10 m = Nat.toDigits 10 n ↔ m = n := by
  refine ⟨fun h => ?_, congrArg _⟩
  rw [← Nat.ofDigitChars_ten_toDigits (n := m), h, Nat.ofDigitChars_ten_toDigits]

theorem toDigits_mul_pow {m : Nat} (hm : 0 < m) (e : Nat) :
    Nat.toDigits 10 (m * 10 ^ e) = Nat.toDigits 10 m ++ List.replicate e '0' := by
  induction e with
  | zero => simp
  | succ e ih =>
    have hpos : 0 < m * 10 ^ e := Nat.mul_pos hm (Nat.pow_pos (by decide))
    have hstep := Nat.toDigits_append_toDigits (b := 10) (d := 0) (by decide) hpos (by decide)
    rw [Nat.toDigits_zero, ih, List.append_assoc, Nat.add_zero] at hstep
    rw [Nat.pow_succ, ← Nat.mul_assoc, Nat.mul_comm _ 10, ← hstep, List.replicate_succ']

theorem digitCount_mul_pow {m : Nat} (hm : 0 < m) (e : Nat) : digitCount (m * 10 ^ e) = digitCount m + e := by
  rw [digitCount, toDigits_mul_pow hm, List.length_append, List.length_replicate, digitCount]

/-! ### Reading decimals back -/

/-- Reading back a whole number of ones. -/
theorem readsAs_iff {d : Decimal} {e p : Nat} (he : d.exponent = e) (hle : e ≤ 400) :
    d.readsAs p = true ↔ nearestPlace (d.significand * 10 ^ e * one) 1 = p := by
  have hbounded : d.boundedExponent = e := by
    rw [boundedExponent, he]
    omega
  rw [readsAs, toNumber, hbounded]
  simp [ofQuanta]

/-- The grid of ones holds a whole number itself. -/
theorem onGrid?_zero {p n : Nat} (hp : p ≤ infinityPlace) (hn : quanta p = n * one) : (onGrid? p 0).isSome := by
  have hreads : readsAs ⟨n, 0⟩ p = true := by
    rw [readsAs_iff (e := 0) rfl (by decide), Nat.pow_zero, Nat.mul_one, ← hn, nearestPlace_quanta hp]
  have hdiv : quanta p / one = n := by rw [hn, Nat.mul_div_cancel n Number.one_pos]
  have hmod : quanta p % one = 0 := by rw [hn, Nat.mul_mod_left]
  simp [onGrid?, hdiv, hmod, hreads, Number.one_pos]

theorem findSome?_range {α : Type} {f : Nat → Option α} {m n : Nat} (hm : m < n) (h : (f m).isSome) :
    ∃ k ≤ m, ∃ b, f k = some b ∧ (List.range n).findSome? f = some b := by
  have hsome : ((List.range (m + 1)).findSome? f).isSome :=
    List.findSome?_isSome_iff.2 ⟨m, List.mem_range.2 (Nat.lt_succ_self m), h⟩
  obtain ⟨b, hb⟩ := Option.isSome_iff_exists.1 hsome
  obtain ⟨k, hk, hkb⟩ := List.exists_of_findSome?_eq_some hb
  refine ⟨k, Nat.le_of_lt_succ (List.mem_range.1 hk), b, hkb, ?_⟩
  have hsplit : n = m + 1 + (n - (m + 1)) := by omega
  rw [hsplit, List.range_add, List.findSome?_append, hb, Option.some_or]

/-- The shortest decimal of a whole number below `2 ^ 53` is this number. -/
theorem shortest_whole {p n : Nat} (hp : p ≤ infinityPlace) (hpos : 0 < n) (hlt : n < 2 ^ 53)
    (hn : quanta p = n * one) : ∃ e : Nat, (shortest p).exponent = e ∧ (shortest p).significand * 10 ^ e = n := by
  have hdiv : quanta p / one = n := by rw [hn, Nat.mul_div_cancel n Number.one_pos]
  have hone : one ≤ quanta p := by
    rw [hn]
    exact Nat.le_mul_of_pos_left one hpos
  have hlead : leadingExponent p = digitCount n - 1 := by
    rw [leadingExponent]
    simp only [if_pos hone, hdiv]
  have hdigits : digitCount n ≤ 16 := (Nat.length_toDigits_le_iff (by decide) (by decide)).2 (by omega)
  have hcount := digitCount_pos n
  -- the grid of ones is among those that are tried, and the shortest decimal is on it or on a coarser one
  have hones : (onGrid? p (leadingExponent p + 1 - (digitCount n : Int))).isSome := by
    have hzero : leadingExponent p + 1 - (digitCount n : Int) = 0 := by omega
    rw [hzero]
    exact onGrid?_zero hp hn
  obtain ⟨j, hj, d, hd, hfind⟩ :=
    findSome?_range (f := fun (m : Nat) => onGrid? p (leadingExponent p + 1 - (m : Int))) (n := 19) (by omega) hones
  have hshortest : shortest p = d := by rw [shortest, hfind, Option.getD_some]
  obtain ⟨hexponent, hreads⟩ := onGrid?_eq_some hd
  obtain ⟨e, he⟩ : ∃ e : Nat, d.exponent = e := ⟨d.exponent.toNat, by omega⟩
  refine ⟨e, hshortest ▸ he, ?_⟩
  rw [readsAs_iff he (by omega)] at hreads
  have hsmall : quanta p < 2 ^ 53 * one := by
    rw [hn]
    exact Nat.mul_lt_mul_of_pos_right hlt Number.one_pos
  have hvalue := quanta_of_nearestPlace hreads (.inr hsmall)
  rw [hn] at hvalue
  rw [hshortest]
  exact (Nat.eq_of_mul_eq_mul_right Number.one_pos hvalue).symm

/-- A whole number below `2 ^ 53` is written with its digits. -/
theorem text_shortest_whole {p n : Nat} (hp : p ≤ infinityPlace) (hpos : 0 < n) (hlt : n < 2 ^ 53)
    (hn : quanta p = n * one) : (shortest p).text = Nat.toDigits 10 n := by
  obtain ⟨e, he, hvalue⟩ := shortest_whole hp hpos hlt hn
  have hsig : 0 < (shortest p).significand := by
    rcases Nat.eq_zero_or_pos (shortest p).significand with h | h
    · rw [h, Nat.zero_mul] at hvalue
      omega
    · exact h
  have hdigits : digitCount n ≤ 16 := (Nat.length_toDigits_le_iff (by decide) (by decide)).2 (by omega)
  have hcount : digitCount n = digitCount (shortest p).significand + e := by rw [← hvalue, digitCount_mul_pow hsig]
  have hpositional : -6 ≤ (shortest p).firstExponent ∧ (shortest p).firstExponent ≤ 20 := by
    have := digitCount_pos (shortest p).significand
    rw [firstExponent, he]
    omega
  rw [text, if_pos hpositional, positional, he]
  simp only [Int.natCast_nonneg, if_true, Int.toNat_natCast]
  rw [← toDigits_mul_pow hsig, hvalue]

/-! ### Texts that are digits -/

/-- Only a whole number of ones is written with digits alone. -/
theorem text_of_isDigit {d : Decimal} (h : ∀ c ∈ d.text, c.isDigit = true) :
    ∃ e : Nat, d.exponent = e ∧ e ≤ 20 ∧ d.text = Nat.toDigits 10 d.significand ++ List.replicate e '0' := by
  have hpoint : Char.isDigit '.' = false := by decide
  have hmark : Char.isDigit 'e' = false := by decide
  have hcount := digitCount_pos d.significand
  unfold text at h ⊢
  split at h
  · rename_i hrange
    rw [if_pos hrange]
    unfold positional at h ⊢
    simp only at h ⊢
    split at h
    · rename_i hexponent
      rw [if_pos hexponent]
      rw [firstExponent] at hrange
      exact ⟨d.exponent.toNat, by omega, by omega, rfl⟩
    · split at h
      · exact absurd (h '.' (by simp)) (by simp [hpoint])
      · exact absurd (h '.' (by simp)) (by simp [hpoint])
  · exact absurd (h 'e' (by simp [scientific])) (by simp [hmark])

theorem startsWithDigit_toDigits (m : Nat) : StartsWithDigit (Nat.toDigits 10 m) := by
  obtain ⟨c, rest, h⟩ := List.exists_cons_of_ne_nil (Nat.toDigits_ne_nil (n := m) (b := 10))
  exact ⟨c, rest, h, isDigit_toDigits (h ▸ List.mem_cons_self ..)⟩

theorem startsWithDigit_text (d : Decimal) : StartsWithDigit d.text := by
  obtain ⟨c, cs, hcs, hc⟩ := startsWithDigit_toDigits d.significand
  unfold text
  split
  · unfold positional
    simp only [hcs]
    split
    · exact ⟨c, _, rfl, hc⟩
    · split
      · rename_i hpoint
        obtain ⟨k, hk⟩ : ∃ k, (((c :: cs).length : Int) + d.exponent).toNat = k + 1 :=
          Nat.exists_eq_succ_of_ne_zero (by omega)
        rw [hk, List.take_succ_cons]
        exact ⟨c, _, rfl, hc⟩
      · exact ⟨'0', _, rfl, by decide⟩
  · unfold scientific mantissa
    simp only [hcs]
    cases cs with
    | nil => exact ⟨c, _, rfl, hc⟩
    | cons b bs => exact ⟨c, _, rfl, hc⟩

/-- A number that is written like a whole number below `2 ^ 53` is this number. -/
theorem quanta_of_text {p i : Nat} (h : (shortest p).text = Nat.toDigits 10 i) (hi : i < 2 ^ 53) :
    quanta p = i * one := by
  have hdigits : ∀ c ∈ (shortest p).text, c.isDigit = true := by
    rw [h]
    exact fun c => isDigit_toDigits
  obtain ⟨e, he, hle, htext⟩ := text_of_isDigit hdigits
  have hvalue : (shortest p).significand * 10 ^ e = i := by
    have hchars := congrArg (Nat.ofDigitChars 10 · 0) (h.symm.trans htext)
    simp only [Nat.ofDigitChars_append, Nat.ofDigitChars_ten_toDigits, Nat.ofDigitChars_replicate_zero] at hchars
    rw [hchars, Nat.mul_comm]
  rcases shortest_cases p with hreads | hexact
  · rw [readsAs_iff he (by omega), hvalue] at hreads
    exact quanta_of_nearestPlace hreads (.inl hi)
  · rw [hexact] at he
    have : (-1074 : Int) = e := he
    omega

theorem text_shortest_iff {p i : Nat} (hp : p ≤ infinityPlace) (hzero : p ≠ 0) (hi : i < 2 ^ 53) :
    (shortest p).text = Nat.toDigits 10 i ↔ quanta p = i * one := by
  refine ⟨fun h => quanta_of_text h hi, fun h => ?_⟩
  have hpos : 0 < i := by
    refine Nat.pos_of_ne_zero ?_
    rintro rfl
    rw [Nat.zero_mul, quanta_eq_zero_iff] at h
    exact hzero h
  exact text_shortest_whole hp hpos hi h

end Decimal

namespace Number

/-! ### Numbers that are whole -/

variable {x : Number} {negative : Bool} {p : Fin (infinityPlace + 1)} {i : Nat}

theorem lt_infinityPlace_of_quanta {p : Nat} (hi : i < 2 ^ 53) (h : quanta p = i * one) : p < infinityPlace := by
  have hsmall : quanta p < 2 ^ 53 * one := by
    rw [h]
    exact Nat.mul_lt_mul_of_pos_right hi one_pos
  have hplace := place_lt_of_quanta_lt hsmall
  have hle : 1076 * 2 ^ 52 < infinityPlace := by decide
  omega

theorem quanta_inj {p q : Nat} (hp : p ≤ infinityPlace) (hq : q ≤ infinityPlace) (h : quanta p = quanta q) : p = q := by
  rw [← nearestPlace_quanta hp, h, nearestPlace_quanta hq]

theorem ofNat_eq (n : Nat) : ofNat n = ofQuanta false (n * one) 1 := by
  rw [ofNat, ofInt, Int.natAbs_natCast, decide_eq_false (by omega)]

/-- A whole number up to `2 ^ 53` is a number. -/
theorem exists_ofNat_eq (hi : i ≤ 2 ^ 53) :
    ∃ q : Fin (infinityPlace + 1), ofNat i = signed false q ∧ quanta q = i * one := by
  obtain ⟨q, hq, hquanta⟩ : ∃ q ≤ infinityPlace, quanta q = i * one := by
    rcases Nat.lt_or_eq_of_le hi with hlt | rfl
    · exact exists_quanta_eq hlt
    · exact ⟨1076 * 2 ^ 52, by decide, quanta_two_pow⟩
  refine ⟨⟨q, Nat.lt_succ_of_le hq⟩, ?_, hquanta⟩
  rw [ofNat_eq, ← hquanta]
  exact ofQuanta_quanta false ⟨q, Nat.lt_succ_of_le hq⟩

/-- A number equals a whole number below `2 ^ 53` if it has this value, and no sign unless it is zero. -/
theorem eqv_ofNat_iff (hi : i < 2 ^ 53) :
    (signed negative p).eqv (ofNat i) = true ↔ (negative = false ∨ p.val = 0) ∧ quanta p = i * one := by
  obtain ⟨q, hwhole, hquanta⟩ := exists_ofNat_eq (Nat.le_of_lt hi)
  have hplace : quanta p = i * one ↔ p.val = q := by
    rw [← hquanta]
    exact ⟨quanta_inj (Nat.le_of_lt_succ p.isLt) (Nat.le_of_lt_succ q.isLt), congrArg quanta⟩
  have hrank : (signed negative p).eqv (ofNat i) = true ↔ (if negative then -(p.val : Int) else p.val) = q := by
    rw [hwhole]
    simp [eqv, compare?, rank?]
  rw [hrank, hplace]
  cases negative with
  | false =>
    simp only [Bool.false_eq_true, if_false, true_or, true_and]
    omega
  | true =>
    simp only [if_true, Bool.true_eq_false, false_or]
    omega

theorem isBelowZero_signed : isBelowZero (signed negative p) = false ↔ negative = false ∨ p.val = 0 := by
  have hrank : isBelowZero (signed negative p) = true ↔ (if negative then -(p.val : Int) else p.val) < 0 := by
    simp [isBelowZero, compare?, rank?, zero, Int.compare_eq_lt]
  rw [← Bool.not_eq_true, hrank]
  cases negative with
  | false =>
    simp only [Bool.false_eq_true, if_false, true_or, iff_true]
    omega
  | true =>
    simp only [if_true, Bool.true_eq_false, false_or]
    omega

theorem isIntegral_signed :
    (signed negative p).isIntegral = true ↔ p.val < infinityPlace ∧ ∃ n, quanta p = n * one := by
  simp only [isIntegral, Bool.and_eq_true, decide_eq_true_eq, ← Nat.dvd_iff_mod_eq_zero, Nat.mul_comm _ one]
  rfl

theorem toIndex_signed {n : Nat} (hs : negative = false ∨ p.val = 0) (hn : quanta p = n * one) :
    (signed negative p).toIndex = Nat.min n (Nat.pow 2 64 - 1) := by
  have hdiv : quanta p / one = n := by rw [hn, Nat.mul_div_cancel n one_pos]
  cases negative with
  | false => rw [toIndex, hdiv]
  | true =>
    have hzero : n = 0 := by rw [← hdiv, quanta_eq_zero_iff.2 (hs.resolve_left (by decide)), Nat.zero_div]
    rw [toIndex, hzero]
    exact (Nat.zero_min _).symm

/-! ### The text of a number -/

theorem startsWithDigit_text_signed (hp : p.val < infinityPlace) (hs : negative = false ∨ p.val = 0) :
    StartsWithDigit (signed negative p).text := by
  by_cases hzero : p.val = 0
  · rw [text_signed, if_pos hzero]
    exact ⟨'0', [], rfl, by decide⟩
  · obtain rfl : negative = false := hs.resolve_right hzero
    simp only [text_signed, if_neg hzero, Bool.false_eq_true, if_false, List.nil_append]
    rw [if_neg (Nat.ne_of_lt hp)]
    exact Decimal.startsWithDigit_text _

/-- A number is written like a whole number below `2 ^ 53` if and only if it equals this whole number. -/
theorem text_eq_toDigits_iff (hi : i < 2 ^ 53) : x.text = Nat.toDigits 10 i ↔ x.eqv (ofNat i) = true := by
  -- a text with a character that is no digit is not that of a whole number
  have hdigits (c : Char) (text : List Char) (hc : c.isDigit = false) (hmem : c ∈ text) :
      text ≠ Nat.toDigits 10 i := by
    rintro rfl
    simp [Decimal.isDigit_toDigits hmem] at hc
  cases x with
  | nan =>
    have htext : text nan ≠ Nat.toDigits 10 i := hdigits 'N' _ (by decide) (List.mem_cons_self ..)
    exact ⟨fun h => absurd h htext, fun h => absurd h (by simp [eqv, compare?, rank?])⟩
  | signed negative p =>
    rw [eqv_ofNat_iff hi, text_signed]
    by_cases hp : p.val = 0
    · have htext : ['0'] = Nat.toDigits 10 i ↔ 0 = i := Decimal.toDigits_inj (m := 0)
      have hvalue : quanta p.val = i * one ↔ 0 = i := by
        have hzero : quanta p.val = 0 := quanta_eq_zero_iff.2 hp
        rw [hzero, eq_comm, Nat.mul_eq_zero, or_iff_left (Nat.ne_of_gt one_pos), eq_comm]
      rw [if_pos hp, htext, hvalue, and_iff_right (.inr hp)]
    · simp only [hp, if_false, or_false]
      cases negative with
      | true =>
        simp only [if_true, Bool.true_eq_false, false_and, iff_false]
        exact hdigits '-' _ (by decide) (List.mem_cons_self ..)
      | false =>
        simp only [Bool.false_eq_true, if_false, List.nil_append, true_and]
        by_cases hinfinity : p.val = infinityPlace
        · rw [if_pos hinfinity]
          have htext : "Infinity".toList ≠ Nat.toDigits 10 i := hdigits 'I' _ (by decide) (List.mem_cons_self ..)
          exact ⟨fun h => absurd h htext, fun h => absurd hinfinity (Nat.ne_of_lt (lt_infinityPlace_of_quanta hi h))⟩
        · rw [if_neg hinfinity]
          exact Decimal.text_shortest_iff (Nat.le_of_lt_succ p.isLt) hp hi

end Number

end ExprLang
