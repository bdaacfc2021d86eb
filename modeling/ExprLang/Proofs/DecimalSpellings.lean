import ExprLang.Proofs.Numerals
import ExprLang.Proofs.WholeNumbers

/-!
# Decimal spellings

A text spells a natural number in decimal if it is made of digits that have this value and no zero stands in front of
others (`Number.IsSpelling`).  Reading is more generous: it takes leading zeros and a plus sign, so many texts have the
same value.  Exactly one of them is a spelling, the text that the number is written with (`Number.isSpelling_iff`).
-/

namespace ExprLang.Number

variable {text : List Char} {i n m : Nat}

theorem digitValue?_ten_eq_some_iff {c : Char} :
    digitValue? 10 c = some n ↔ c.isDigit = true ∧ c.toNat - 48 = n := by
  unfold digitValue?
  simp only [Option.ite_none_right_eq_some, Option.some.injEq]
  by_cases hc : c.isDigit = true
  · obtain ⟨k, hk, hn, -⟩ := exists_ofNat_add (isDigit_iff.1 hc)
    have hzero : ('0').toNat = 48 := rfl
    have hnine : ('9').toNat = 57 := rfl
    simp only [hc, if_true, true_and]
    omega
  · -- no letter has a value below ten
    have hletter : ('a' ≤ c ∧ c ≤ 'f' → 97 ≤ c.toNat) ∧ ('A' ≤ c ∧ c ≤ 'F' → 65 ≤ c.toNat) :=
      ⟨fun h => UInt32.le_iff_toNat_le.1 h.1, fun h => UInt32.le_iff_toNat_le.1 h.1⟩
    simp only [hc, if_false, false_and, iff_false, Bool.false_eq_true]
    split
    · rename_i h
      have := hletter.1 h
      omega
    · split
      · rename_i h
        have := hletter.2 h
        omega
      · omega

/-- Digits of base ten are read as they are everywhere. -/
theorem digitsValue?_ten_eq_some_iff :
    digitsValue? 10 n text = some m ↔ AllDigits text ∧ Nat.ofDigitChars 10 text n = m := by
  induction text generalizing n with
  | nil => simp [digitsValue?, AllDigits]
  | cons c text ih =>
    have hzero : ('0').toNat = 48 := rfl
    have hcons : AllDigits (c :: text) ↔ c.isDigit = true ∧ AllDigits text := List.forall_mem_cons
    simp only [digitsValue?, Option.bind_eq_bind, Option.bind_eq_some_iff, digitValue?_ten_eq_some_iff, ih, hcons,
      Nat.ofDigitChars_cons, hzero]
    constructor
    · rintro ⟨_, ⟨hc, rfl⟩, htext, hm⟩
      exact ⟨⟨hc, htext⟩, hm⟩
    · rintro ⟨⟨hc, htext⟩, hm⟩
      exact ⟨_, ⟨hc, rfl⟩, htext, hm⟩

theorem isBaseNumeral_ten_iff :
    IsBaseNumeral 10 text i ↔ text ≠ [] ∧ AllDigits text ∧ Nat.ofDigitChars 10 text 0 = i := by
  rw [isBaseNumeral_iff (by decide), digitsValue?_ten_eq_some_iff]

theorem isBaseNumeral_toDigits (i : Nat) : IsBaseNumeral 10 (Nat.toDigits 10 i) i :=
  isBaseNumeral_ten_iff.2
    ⟨Nat.toDigits_ne_nil, fun _ hc => Decimal.isDigit_toDigits hc, Nat.ofDigitChars_ten_toDigits⟩

theorem ofBase?_toDigits (hi : i < 2 ^ 64) : ofBase? 10 (Nat.toDigits 10 i) = some i :=
  (ofBase?_eq_some_iff (by decide)).2 ⟨.inl (isBaseNumeral_toDigits i), hi⟩

/-- The decimal spelling of a natural number: digits with this value and no zero in front of others. -/
def IsSpelling (text : List Char) (i : Nat) : Prop :=
  IsBaseNumeral 10 text i ∧ (text.head? = some '0' → text = ['0'])

theorem eq_zero_of_head?_toDigits (h : (Nat.toDigits 10 i).head? = some '0') : i = 0 := by
  induction i using Nat.strongRecOn with
  | ind i ih =>
    rw [Nat.toDigits_eq_if (by decide)] at h
    split at h
    · rw [List.head?_cons, Option.some.injEq, Nat.digitChar_eq_zero] at h
      exact h
    · rename_i hlarge
      rw [List.head?_append_of_ne_nil _ Nat.toDigits_ne_nil] at h
      have := ih (i / 10) (by omega) h
      omega

theorem toDigits_of_isDigit {c : Char} (hc : c.isDigit = true) : Nat.toDigits 10 (c.toNat - 48) = [c] := by
  have hall : ∀ k ≤ 9, Nat.digitChar k = Char.ofNat (('0').toNat + k) := by decide
  have hzero : ('0').toNat = 48 := rfl
  obtain ⟨k, hk, hn, hchar⟩ := exists_ofNat_add (isDigit_iff.1 hc)
  have hnine : ('9').toNat - ('0').toNat = 9 := rfl
  have hvalue : c.toNat - 48 = k := by omega
  rw [hvalue, Nat.toDigits_of_lt_base (by omega), hall k (by omega), ← hchar]

/-- Digits that follow the spelling of a number other than zero continue it. -/
theorem toDigits_append (hn : 0 < n) (htext : AllDigits text) :
    Nat.toDigits 10 n ++ text = Nat.toDigits 10 (Nat.ofDigitChars 10 text n) := by
  induction text generalizing n with
  | nil => rw [List.append_nil, Nat.ofDigitChars_nil]
  | cons c text ih =>
    have hc : c.isDigit = true := htext c (List.mem_cons_self ..)
    have hlt : c.toNat - 48 < 10 := by
      have hnine : c.toNat ≤ 57 := UInt32.le_iff_toNat_le.1 (isDigit_iff.1 hc).2
      omega
    have hstep := Nat.toDigits_append_toDigits (b := 10) (by decide) hn hlt
    rw [toDigits_of_isDigit hc] at hstep
    calc Nat.toDigits 10 n ++ c :: text = (Nat.toDigits 10 n ++ [c]) ++ text := by
          rw [List.append_assoc, List.singleton_append]
      _ = Nat.toDigits 10 (10 * n + (c.toNat - 48)) ++ text := by rw [hstep]
      _ = Nat.toDigits 10 (Nat.ofDigitChars 10 (c :: text) n) :=
          ih (by omega) fun d hd => htext d (List.mem_cons_of_mem _ hd)

/-- A spelling is what the number is written with. -/
theorem toDigits_of_isSpelling (h : IsSpelling text i) : Nat.toDigits 10 i = text := by
  obtain ⟨hnumeral, hzero⟩ := h
  obtain ⟨hne, hdigits, rfl⟩ := isBaseNumeral_ten_iff.1 hnumeral
  obtain ⟨c, rest, rfl⟩ := List.exists_cons_of_ne_nil hne
  have hvalue : Nat.ofDigitChars 10 (c :: rest) 0 = Nat.ofDigitChars 10 rest (c.toNat - 48) := by
    rw [Nat.ofDigitChars_cons, Nat.mul_zero, Nat.zero_add]
    rfl
  have hc : c.isDigit = true := hdigits c (List.mem_cons_self ..)
  by_cases hlead : c = '0'
  · subst hlead
    rw [hzero rfl]
    decide
  · have hpos : 0 < c.toNat - 48 := by
      have hlow : 48 ≤ c.toNat := UInt32.le_iff_toNat_le.1 (isDigit_iff.1 hc).1
      have hne48 : c.toNat ≠ 48 := fun h => hlead (Char.toNat_inj.1 h)
      omega
    rw [hvalue, ← toDigits_append hpos fun d hd => hdigits d (List.mem_cons_of_mem _ hd), toDigits_of_isDigit hc,
      List.singleton_append]

theorem isSpelling_iff : IsSpelling text i ↔ Nat.toDigits 10 i = text := by
  refine ⟨toDigits_of_isSpelling, ?_⟩
  rintro rfl
  refine ⟨isBaseNumeral_toDigits i, fun hhead => ?_⟩
  rw [eq_zero_of_head?_toDigits hhead]
  rfl

end ExprLang.Number
