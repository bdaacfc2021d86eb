import ExprLang.Value.Order
import Mathlib.Data.Nat.Notation

/-!
# The order of texts

Texts are compared by their bytes.  Two different characters already differ within their encodings, at the first byte if
these differ in length, and the byte that differs is the smaller one in the encoding of the smaller character
(`Text.compare_encode_of_lt`).  So the order of bytes is the lexicographic order of code points (`Text.order_eq`).
-/

namespace ExprLang.Text

theorem compare_ofNat {m n : Nat} (hm : m < 256) (hn : n < 256) :
    compare (UInt8.ofNat m) (UInt8.ofNat n) = compare m n := by
  have hlt : UInt8.ofNat m < UInt8.ofNat n ↔ m < n := UInt8.ofNat_lt_iff_lt hm hn
  have heq : UInt8.ofNat m = UInt8.ofNat n ↔ m = n := by
    rw [← UInt8.toNat_inj, UInt8.toNat_ofNat_of_lt' hm, UInt8.toNat_ofNat_of_lt' hn]
  show compareOfLessAndEq _ _ = compareOfLessAndEq _ _
  simp only [compareOfLessAndEq, hlt, heq]

/-- What precedes in both lists does not count. -/
theorem compare_append {α : Type} [Ord α] [Std.ReflOrd α] (front s t : List α) :
    compare (front ++ s) (front ++ t) = compare s t := by
  induction front with
  | nil => rfl
  | cons b front ih => rw [List.cons_append, List.cons_append, List.compare_cons_cons, Std.compare_self, ih]; rfl

/-- The encodings of two characters decide the order, whatever follows them. -/
theorem compare_encode_of_lt {c d : Char} (h : c.toNat < d.toNat) (s t : List UInt8) :
    compare (String.utf8EncodeChar c ++ s) (String.utf8EncodeChar d ++ t) = .lt := by
  have hbound : d.val.toNat < 1114112 := d.valid.elim (fun h => Nat.lt_trans h (by decide)) And.right
  have hsecond (n : Nat) : n / 4096 = n / 64 / 64 := by omega
  have hthird (n : Nat) : n / 262144 = n / 64 / 64 / 64 := by omega
  change c.val.toNat < d.val.toNat at h
  unfold String.utf8EncodeChar
  generalize c.val.toNat = v at h
  generalize d.val.toNat = w at h hbound
  simp only
  -- the two encodings have one to four bytes each, which are compared up to the first that differs
  repeat' split
  all_goals
    simp only [List.cons_append, List.compare_cons_cons, Ordering.then_eq_lt, hsecond, hthird]
    simp (disch := omega) only [compare_ofNat, Nat.compare_eq_lt, Nat.compare_eq_eq]
    omega

theorem bytes_cons (c : Char) (text : List Char) : bytes (c :: text) = String.utf8EncodeChar c ++ bytes text :=
  List.flatMap_cons

/-- The order of texts is the lexicographic order of the code points of their characters. -/
theorem order_eq (s t : List Char) : order s t = compare (s.map Char.toNat) (t.map Char.toNat) := by
  have hne (c : Char) (text : List Char) : ∃ b rest, bytes (c :: text) = b :: rest := by
    refine List.exists_cons_of_ne_nil fun hnil => ?_
    have hlength := congrArg List.length hnil
    rw [bytes_cons, List.length_append, String.length_utf8EncodeChar, List.length_nil] at hlength
    have := c.utf8Size_pos
    omega
  unfold order
  induction s generalizing t with
  | nil =>
    cases t with
    | nil => rfl
    | cons d t =>
      obtain ⟨b, rest, hbytes⟩ := hne d t
      rw [hbytes]
      rfl
  | cons c s ih =>
    cases t with
    | nil =>
      obtain ⟨b, rest, hbytes⟩ := hne c s
      rw [hbytes]
      rfl
    | cons d t =>
      rw [bytes_cons, bytes_cons, List.map_cons, List.map_cons, List.compare_cons_cons]
      rcases Nat.lt_trichotomy c.toNat d.toNat with hlt | heq | hgt
      · rw [compare_encode_of_lt hlt, Nat.compare_eq_lt.2 hlt]
        rfl
      · rw [Char.toNat_inj.1 heq, compare_append, ih, Std.compare_self]
        rfl
      · rw [Std.OrientedOrd.eq_swap, compare_encode_of_lt hgt, Nat.compare_eq_gt.2 hgt]
        rfl

end ExprLang.Text
