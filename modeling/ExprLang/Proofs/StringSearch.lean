import ExprLang.Proofs.SplitAndJoin

/-!
# Searching strings

The methods that search a string agree on one position (`Value.search_methods_agree`): `indexOf` gives the first position
at which the other string occurs (`Value.callMethod_indexOf`), counted back from an offset in bytes, and `includes`,
`startsWith`, `slice` and `split` can be told from it.  `endsWith` compares with the part of the same length at the end,
which the difference of the lengths finds (`Value.lastPart_returns`).
-/

namespace ExprLang

open Text (OccursAt FirstAt indexOf? indexOf?_eq_some_iff indexOf?_eq_none_iff indexOf?_add_length_le)

/-- The number that stands for a position, minus one for none. -/
def Number.ofPosition : Option Nat → Number
  | some i => .ofNat i
  | none => .ofInt (-1)

namespace Number

variable {position : Option Nat} {i : Nat}

theorem ofNat_ne_neg_one (i : Nat) : ofNat i ≠ ofInt (-1) := by
  intro h
  rw [ofNat_eq, ofInt, ofQuanta, ofQuanta, signed.injEq] at h
  exact absurd h.1 (by decide)

theorem ofPosition_eq_neg_one_iff : ofPosition position = .ofInt (-1) ↔ position = none := by
  cases position with
  | none => exact iff_of_true rfl rfl
  | some i => exact iff_of_false (ofNat_ne_neg_one i) (Option.some_ne_none i)

theorem exists_of_ofPosition_ne (h : ofPosition position ≠ .ofInt (-1)) : ∃ i, position = some i :=
  Option.ne_none_iff_exists'.1 (mt ofPosition_eq_neg_one_iff.2 h)

theorem decide_ofPosition_ne : decide (ofPosition position ≠ .ofInt (-1)) = position.isSome := by
  cases position with
  | none => exact decide_eq_false (not_not_intro rfl)
  | some i => exact decide_eq_true (ofNat_ne_neg_one i)

theorem ofPosition_eq_ofNat_iff (hposition : ∀ j, position = some j → j < 2 ^ 53) (hi : i < 2 ^ 53) :
    ofPosition position = .ofNat i ↔ position = some i := by
  cases position with
  | none => exact iff_of_false (ofNat_ne_neg_one i).symm (Option.some_ne_none i).symm
  | some j => rw [ofPosition, ofNat_inj (hposition j rfl) hi, Option.some.injEq]

end Number

section
variable {α : Type} {xs : List α} {i j : Nat}

/-- The part of a sequence between two positions in it. -/
theorem partBetween_ofNat (hj : j ≤ xs.length) (hij : i ≤ j) (hxs : xs.length < 2 ^ 53) :
    partBetween xs (some (.number (.ofNat i))) (some (.number (.ofNat j))) = (xs.drop i).take (j - i) := by
  have hstart : Value.relativeIndex (some (.number (.ofNat i))) xs.length 0 = i :=
    Value.relativeIndex_ofNat (by omega) (by omega)
  have hstop : Value.relativeIndex (some (.number (.ofNat j))) xs.length xs.length = j :=
    Value.relativeIndex_ofNat (by omega) hj
  simp only [partBetween, hstart, hstop]

/-- The part of a sequence from a position in it on. -/
theorem partBetween_from (hi : i ≤ xs.length) (hxs : xs.length < 2 ^ 53) :
    partBetween xs (some (.number (.ofNat i))) none = xs.drop i := by
  have hstart : Value.relativeIndex (some (.number (.ofNat i))) xs.length 0 = i :=
    Value.relativeIndex_ofNat (by omega) hi
  have hstop : Value.relativeIndex none xs.length xs.length = xs.length := rfl
  simp only [partBetween, hstart, hstop]
  rw [← List.length_drop, List.take_length]

end

namespace Value

variable {host : Host} {s t : String} {i : Nat}

/-! ### Methods that search -/

theorem callMethod_indexOf (s t : String) :
    ((string s).callMethod host "indexOf" [string t]).Returns
      (· = number (.ofPosition (indexOf? t.toList s.toList))) := by
  have hrun : StringMethod.indexOf.run s.toList [string t] =
      pure (number (.ofPosition (indexOf? t.toList s.toList))) := by
    rw [← Text.map_charactersBefore_find?]
    show pure (number (match Text.find? t.toList s.toList with
      | some offset => .ofNat (Text.charactersBefore offset s.toList)
      | none => .ofInt (-1))) = _
    cases Text.find? t.toList s.toList <;> rfl
  refine callMethod_string .indexOf ?_
  rw [hrun]
  exact Eval.returns_pure _

theorem callMethod_includes (s t : String) :
    ((string s).callMethod host "includes" [string t]).Returns (· = bool (indexOf? t.toList s.toList).isSome) :=
  callMethod_string .includes (Eval.returns_pure _)

theorem callMethod_startsWith (s t : String) :
    ((string s).callMethod host "startsWith" [string t]).Returns (· = bool (t.toList.isPrefixOf s.toList)) :=
  callMethod_string .startsWith (Eval.returns_pure _)

theorem callMethod_endsWith (s t : String) :
    ((string s).callMethod host "endsWith" [string t]).Returns (· = bool (t.toList.isSuffixOf s.toList)) :=
  callMethod_string .endsWith (Eval.returns_pure _)

theorem getProperty_length (s : String) :
    ((string s).getProperty (string "length")).Returns (· = number (.ofNat s.toList.length)) := by
  have hmember : (string s).member (string "length") = .ok (.value (number (.ofNat s.toList.length))) := rfl
  rw [getProperty, hmember]
  exact Eval.returns_pure _

/-! ### Parts of a string -/

/-- The part at the end of a string that is as long as another one, `s.slice(s.length - t.length)`. -/
def lastPart (host : Host) (s t : String) : Eval Value := do
  let m ← (string s).getProperty (string "length")
  let n ← (string t).getProperty (string "length")
  (string s).callMethod host "slice" [arithmetic Number.sub m n]

/-- The part of a string from a position on that is as long as another one, `s.slice(p, p + t.length)`. -/
def partAt (host : Host) (s t : String) (p : Number) : Eval Value := do
  let n ← (string t).getProperty (string "length")
  (string s).callMethod host "slice" [number p, (number p).add n]

theorem lastPart_returns (hs : s.toList.length < 2 ^ 53) (hle : t.toList.length ≤ s.toList.length) :
    (lastPart host s t).Returns
      (· = string (String.ofList (s.toList.drop (s.toList.length - t.toList.length)))) := by
  refine (getProperty_length s).bind_eq ((getProperty_length t).bind_eq ?_)
  have hdifference : arithmetic Number.sub (number (.ofNat s.toList.length)) (number (.ofNat t.toList.length)) =
      number (.ofNat (s.toList.length - t.toList.length)) := congrArg number (Number.sub_ofNat hle hs)
  have hslice := @callMethod_slice_string host s [number (.ofNat (s.toList.length - t.toList.length))]
  change ((string s).callMethod host "slice" _).Returns
    (· = string (String.ofList (partBetween s.toList (some (number (.ofNat _))) none))) at hslice
  rw [partBetween_from (by omega) hs] at hslice
  rwa [hdifference]

/-- The part at an occurrence is what occurs there. -/
theorem partAt_returns (hs : s.toList.length < 2 ^ 53) (h : OccursAt t.toList s.toList i) :
    (partAt host s t (.ofNat i)).Returns (· = string t) := by
  have hle := h.add_length_le
  have hsum : (number (.ofNat i)).add (number (.ofNat t.toList.length)) = number (.ofNat (i + t.toList.length)) :=
    congrArg number (Number.add_ofNat (by omega) (by omega) (Number.ofNat_eqv_self (by omega)))
  refine (getProperty_length t).bind_eq ?_
  have hslice := @callMethod_slice_string host s [number (.ofNat i), number (.ofNat (i + t.toList.length))]
  change ((string s).callMethod host "slice" _).Returns
    (· = string (String.ofList (partBetween s.toList (some (number (.ofNat i))) (some (number (.ofNat _)))))) at hslice
  rw [partBetween_ofNat hle (by omega) hs, Nat.add_sub_cancel_left, h.take_drop, String.ofList_toList] at hslice
  rwa [hsum]

/-- A string ends with another one if its last part is this one. -/
theorem isSuffixOf_iff_lastPart (hs : s.toList.length < 2 ^ 53) :
    t.toList.isSuffixOf s.toList = true ↔
      t.toList.length ≤ s.toList.length ∧ (lastPart host s t).Returns (· = string t) := by
  rw [List.isSuffixOf_iff_suffix, List.suffix_iff_eq_drop]
  constructor
  · intro hdrop
    have hle : t.toList.length ≤ s.toList.length := by
      have hlength := congrArg List.length hdrop
      rw [List.length_drop] at hlength
      omega
    have hlast := @lastPart_returns host s t hs hle
    rw [← hdrop, String.ofList_toList] at hlast
    exact ⟨hle, hlast⟩
  · rintro ⟨hle, hlast⟩
    have hsame := (lastPart_returns hs hle).unique hlast
    rw [string.injEq] at hsame
    rw [← String.toList_ofList (l := s.toList.drop _), hsame]

/-! ### The number that stands for the first position -/

theorem indexOf?_lt (hs : s.toList.length < 2 ^ 53) : ∀ i, indexOf? t.toList s.toList = some i → i < 2 ^ 53 := by
  intro i hi
  have hle := indexOf?_add_length_le hi
  omega

/-- The number is minus one or the first position. -/
theorem ofPosition_indexOf?_cases (s t : String) :
    (Number.ofPosition (indexOf? t.toList s.toList) = .ofInt (-1) ∧ ∀ i, ¬ OccursAt t.toList s.toList i) ∨
      ∃ i, Number.ofPosition (indexOf? t.toList s.toList) = .ofNat i ∧ FirstAt t.toList s.toList i := by
  cases hindex : indexOf? t.toList s.toList with
  | none =>
    refine .inl ⟨rfl, fun i hi => ?_⟩
    exact indexOf?_eq_none_iff.1 hindex (Text.infix_iff_occursAt.2 ⟨i, hi⟩)
  | some i => exact .inr ⟨i, rfl, indexOf?_eq_some_iff.1 hindex⟩

/-- A string starts with another one if the number is zero. -/
theorem decide_ofPosition_indexOf?_zero (hs : s.toList.length < 2 ^ 53) :
    decide (Number.ofPosition (indexOf? t.toList s.toList) = .ofNat 0) = t.toList.isPrefixOf s.toList := by
  rw [Bool.eq_iff_iff, decide_eq_true_iff, Number.ofPosition_eq_ofNat_iff (indexOf?_lt hs) (by decide),
    Text.isPrefixOf_iff_indexOf?]

/-- The number of the pieces, and the length of the first one, tell where the separator occurs. -/
theorem callMethod_split_position (s : String) (ht : t.toList ≠ []) :
    ((string s).callMethod host "split" [string t]).Returns fun a =>
      ∃ id, ∃ pieces : List String, a = array id (pieces.map string) ∧
        (pieces.length = 1 ↔ Number.ofPosition (indexOf? t.toList s.toList) = .ofInt (-1)) ∧
        (Number.ofPosition (indexOf? t.toList s.toList) ≠ .ofInt (-1) →
          ∃ first rest, pieces = first :: rest ∧
            Number.ofPosition (indexOf? t.toList s.toList) = .ofNat first.toList.length) := by
  have hcuts : Text.Cuts t.toList s.toList (StringMethod.splitText s.toList (some (string t))) :=
    @cuts_splitText (string t) s.toList rfl rfl ht
  refine (callMethod_splitText s (string t)).mono fun a ha => ?_
  obtain ⟨id, rfl⟩ := ha
  refine ⟨id, (StringMethod.splitText s.toList (some (string t))).map String.ofList, by rw [List.map_map]; rfl, ?_, ?_⟩
  · rw [List.length_map, hcuts.length_eq_one_iff, Number.ofPosition_eq_neg_one_iff, indexOf?_eq_none_iff]
  · intro hfound
    obtain ⟨i, hi⟩ := Number.exists_of_ofPosition_ne hfound
    obtain ⟨piece, rest, hpieces, hlength⟩ := hcuts.exists_head (indexOf?_eq_some_iff.1 hi)
    rw [hpieces, List.map_cons, hi]
    exact ⟨_, _, rfl, by rw [String.toList_ofList, hlength]; rfl⟩

/-- All methods that search a string agree with the first position of what they search for. -/
theorem search_methods_agree (host : Host) {s : String} (hs : s.length < 2 ^ 53) (t : String) :
    ∃ p : Number, ((string s).callMethod host "indexOf" [string t]).Returns (· = number p) ∧
      ((p = .ofInt (-1) ∧ ∀ i, ¬ OccursAt t.toList s.toList i) ∨
        ∃ i, p = .ofNat i ∧ FirstAt t.toList s.toList i) ∧
      ((string s).callMethod host "includes" [string t]).Returns (· = bool (p ≠ .ofInt (-1))) ∧
      ((string s).callMethod host "startsWith" [string t]).Returns (· = bool (p = .ofNat 0)) ∧
      (∃ b, ((string s).callMethod host "endsWith" [string t]).Returns (· = bool b) ∧
        (b = true ↔ t.length ≤ s.length ∧ (lastPart host s t).Returns (· = string t))) ∧
      (p ≠ .ofInt (-1) → (partAt host s t p).Returns (· = string t)) ∧
      (t ≠ "" → ((string s).callMethod host "split" [string t]).Returns fun a =>
        ∃ id, ∃ pieces : List String, a = array id (pieces.map string) ∧
          (pieces.length = 1 ↔ p = .ofInt (-1)) ∧
          (p ≠ .ofInt (-1) → ∃ first rest, pieces = first :: rest ∧ p = .ofNat first.length)) := by
  simp only [← String.length_toList] at hs ⊢
  refine ⟨.ofPosition (indexOf? t.toList s.toList), callMethod_indexOf s t, ofPosition_indexOf?_cases s t, ?_, ?_, ?_,
    ?_, ?_⟩
  · rw [Number.decide_ofPosition_ne]
    exact callMethod_includes s t
  · rw [decide_ofPosition_indexOf?_zero hs]
    exact callMethod_startsWith s t
  · exact ⟨_, callMethod_endsWith s t, isSuffixOf_iff_lastPart hs⟩
  · intro hfound
    obtain ⟨i, hi⟩ := Number.exists_of_ofPosition_ne hfound
    rw [hi]
    exact partAt_returns hs (indexOf?_eq_some_iff.1 hi).1
  · intro ht
    exact callMethod_split_position s (mt String.toList_eq_nil_iff.1 ht)

/-- An occurrence behind two bytes that overlaps with the next one. -/
theorem search_methods_agree_overlap :
    let host : Host := ⟨fun _ _ _ => pure undefined⟩
    let s := "üäoäoä"
    let t := "äoä"
    s.length < 2 ^ 53 ∧ ((string s).callMethod host "indexOf" [string t]).Returns (· = number (.ofNat 1)) ∧
      ((string s).callMethod host "startsWith" [string t]).Returns (· = bool false) ∧
      (partAt host s t (.ofNat 1)).Returns (· = string t) := by
  intro host s t
  have hlength : s.length < 2 ^ 53 := by decide
  have hfirst : indexOf? t.toList s.toList = some 1 := by decide
  obtain ⟨p, hindex, hp, -, hstarts, -, hpart, -⟩ := search_methods_agree host hlength t
  obtain rfl : p = .ofNat 1 := by
    rcases hp with ⟨-, hnone⟩ | ⟨i, rfl, hi⟩
    · exact absurd (indexOf?_eq_some_iff.1 hfirst).1 (hnone 1)
    · rw [← indexOf?_eq_some_iff, hfirst] at hi
      cases hi
      rfl
  have hlater : ¬ Number.ofNat 1 = .ofNat 0 := by
    rw [Number.ofNat_inj (by decide) (by decide)]
    decide
  rw [decide_eq_false hlater] at hstarts
  exact ⟨hlength, hindex, hstarts, hpart (Number.ofNat_ne_neg_one 1)⟩

end Value

end ExprLang
