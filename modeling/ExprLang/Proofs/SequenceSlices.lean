import ExprLang.Proofs.MethodCalls
import ExprLang.Proofs.PropertyKeys
import ExprLang.Proofs.RelativeIndices

/-!
# Parts of strings and arrays

Both methods `slice` take the part of a sequence between two relative positions (`partBetween`), strings by skipping and
counting characters, arrays by a range of their items that lies within them.  Such a part does not depend on what the
elements are (`partBetween_map`), so a string may as well be cut into its characters first; the parts up to and from one
position make the whole (`partBetween_append`), and the part of one element is this element (`partBetween_single`).
-/

namespace ExprLang

variable {α β : Type} {xs : List α} {first last : Option Value} {k : Value} {x : Number} {i : Nat}

/-- The part of a sequence between two relative positions. -/
def partBetween (xs : List α) (first last : Option Value) : List α :=
  let start := Value.relativeIndex first xs.length 0
  let stop := Value.relativeIndex last xs.length xs.length
  (xs.drop start).take (stop - start)

theorem partBetween_map (f : α → β) : partBetween (xs.map f) first last = (partBetween xs first last).map f := by
  simp only [partBetween, List.length_map, List.map_take, List.map_drop]

/-- The parts up to a position and from it on make the whole. -/
theorem partBetween_append (hk : k.isUndefined = false) :
    partBetween xs (some (.number (.ofNat 0))) (some k) ++ partBetween xs (some k) none = xs := by
  have hstart : Value.relativeIndex (some (.number (.ofNat 0))) xs.length 0 = 0 :=
    Value.relativeIndex_ofNat (Nat.zero_le _) (Nat.zero_le _)
  have hstop : Value.relativeIndex none xs.length xs.length = xs.length := rfl
  have hmiddle : Value.relativeIndex (some k) xs.length xs.length = Value.relativeIndex (some k) xs.length 0 :=
    Value.relativeIndex_default hk _
  unfold partBetween
  simp only [hstart, hstop, hmiddle, List.drop_zero, Nat.sub_zero]
  rw [← List.length_drop, List.take_length, List.take_append_drop]

/-- The part from a position to the next is the element there. -/
theorem partBetween_single {a : α} (ha : xs[i]? = some a) (hi : i < 2 ^ 53) (hx : x.eqv (.ofNat i) = true) :
    partBetween xs (some (.number x)) (some (.number (x.add (.ofNat 1)))) = [a] := by
  obtain ⟨hlt, rfl⟩ := List.getElem?_eq_some_iff.1 ha
  have hnext : x.add (.ofNat 1) = .ofNat (i + 1) := Number.add_ofNat hi (by decide) hx
  have hstart : Value.relativeIndex (some (.number x)) xs.length 0 = i :=
    Value.relativeIndex_of_eqv hi hx (Nat.le_of_lt hlt)
  have hstop : Value.relativeIndex (some (.number (x.add (.ofNat 1)))) xs.length xs.length = i + 1 := by
    rw [hnext]
    exact Value.relativeIndex_ofNat hi hlt
  unfold partBetween
  simp only [hstart, hstop, Nat.add_sub_cancel_left]
  rw [List.drop_eq_getElem_cons hlt, List.take_succ_cons, List.take_zero]

theorem StringMethod.sliceText_eq (text : List Char) (first last : Option Value) :
    sliceText text first last = partBetween text first last := rfl

theorem ArrayMethod.sliceItems_eq (items : List Value) (first last : Option Value) :
    sliceItems items first last = partBetween items first last := by
  unfold sliceItems partBetween
  simp only
  rw [List.drop_take]
  congr 1
  omega

namespace Value

variable {host : Host} {s : String} {id : Nat} {items arguments : List Value}

/-! ### Characters of a string -/

theorem getElem?_elements_string {c : Char} (hc : s.toList[i]? = some c) :
    (string s).elements[i]? = some (string (String.singleton c)) := by
  rw [elements, List.getElem?_map, hc]
  rfl

/-- The characters of a text are its pieces of length one. -/
theorem map_string_singleton (text : List Char) :
    (text.map fun c => string (String.singleton c)) = (text.map ([·])).map fun t => string (String.ofList t) := by
  rw [List.map_map]
  exact List.map_congr_left fun c _ => congrArg string String.singleton_eq_ofList

theorem splitText_nil (text : List Char) : StringMethod.splitText text (some (string "")) = text.map ([·]) := rfl

theorem itemTexts_map_string (texts : List (List Char)) :
    itemTexts (texts.map fun t => string (String.ofList t)) = texts := by
  induction texts with
  | nil => rfl
  | cons t texts ih =>
    have hchars : (string (String.ofList t)).chars = t := String.toList_ofList
    have hnullish : (string (String.ofList t)).isNullish = false := rfl
    rw [List.map_cons, itemTexts, ih, hchars, hnullish, if_neg Bool.false_ne_true]

theorem intercalate_nil_map_singleton (text : List Char) : ([] : List Char).intercalate (text.map ([·])) = text := by
  induction text with
  | nil => rfl
  | cons c text ih =>
    cases text with
    | nil => rfl
    | cons d text => exact congrArg (c :: ·) ih

theorem joinItems_nil (text : List Char) :
    ArrayMethod.joinItems (text.map fun c => string (String.singleton c)) (some (string "")) = text := by
  show ([] : List Char).intercalate (itemTexts _) = text
  rw [map_string_singleton, itemTexts_map_string, intercalate_nil_map_singleton]

/-- An index that finds a string. -/
theorem getProperty_element {o : Value} {t : String} (hv : o.elements[i]? = some (string t)) (hi : i < 2 ^ 53)
    (hx : x.eqv (.ofNat i) = true) : (o.getProperty (number x)).Returns (· = string t) := by
  have hindex := (arrayIndex?_number_iff hi).2 hx
  have hmember := member_of_digit (isIndexed_of_elements hv) (startsWithDigit_of_arrayIndex? hindex)
  rw [hindex, Option.bind_some, hv, Option.getD_some] at hmember
  rw [getProperty, hmember]
  exact Eval.returns_pure _

/-! ### Calls -/

theorem callMethod_splitText (s : String) (v : Value) : ((string s).callMethod host "split" [v]).Returns fun a =>
    ∃ id, a = array id ((StringMethod.splitText s.toList (some v)).map fun t => string (String.ofList t)) :=
  callMethod_string .split (Eval.returns_newArray _)

theorem callMethod_split : ((string s).callMethod host "split" [string ""]).Returns fun v =>
    ∃ id, v = array id (string s).elements := by
  rw [elements, map_string_singleton, ← splitText_nil]
  exact callMethod_splitText s (string "")

theorem callMethod_slice_string (s : String) (arguments : List Value) :
    ((string s).callMethod host "slice" arguments).Returns
      (· = string (String.ofList (partBetween s.toList arguments.head? arguments[1]?))) := by
  rw [← StringMethod.sliceText_eq]
  exact callMethod_string .slice (Eval.returns_pure _)

theorem callMethod_slice_array (id : Nat) (items arguments : List Value) :
    ((array id items).callMethod host "slice" arguments).Returns fun v =>
      ∃ id, v = array id (partBetween items arguments.head? arguments[1]?) := by
  rw [← ArrayMethod.sliceItems_eq]
  exact callMethod_array .slice (Eval.returns_newArray _)

theorem callMethod_concat_string (text more : List Char) :
    ((string (String.ofList text)).callMethod host "concat" [string (String.ofList more)]).Returns
      (· = string (String.ofList (text ++ more))) := by
  refine callMethod_string .concat ?_
  have hrun : StringMethod.concat.run (String.ofList text).toList [string (String.ofList more)] =
      pure (string (String.ofList (text ++ more))) := by
    simp only [StringMethod.run, List.map_cons, List.map_nil, chars_string, String.toList_ofList, List.flatten_cons,
      List.flatten_nil, List.append_nil]
  rw [hrun]
  exact Eval.returns_pure _

/-- Slicing the array of the characters of a string. -/
def sliceCharacters (host : Host) (s : String) (arguments : List Value) : Eval Value := do
  let characters ← (string s).callMethod host "split" [string ""]
  let part ← characters.callMethod host "slice" arguments
  part.callMethod host "join" [string ""]

theorem sliceCharacters_returns (s : String) (arguments : List Value) :
    (sliceCharacters host s arguments).Returns
      (· = string (String.ofList (partBetween s.toList arguments.head? arguments[1]?))) := by
  refine callMethod_split.bind_array fun id => ?_
  refine (callMethod_slice_array id _ arguments).bind_array fun id => ?_
  refine callMethod_array .join ?_
  rw [elements, partBetween_map]
  have hjoin := joinItems_nil (partBetween s.toList arguments.head? arguments[1]?)
  show (pure (string (String.ofList (ArrayMethod.joinItems _ (some (string ""))))) : Eval Value).Returns _
  rw [hjoin]
  exact Eval.returns_pure _

/-- The parts of a value up to a position and from it on, one behind the other. -/
def rejoin (host : Host) (v k : Value) : Eval Value := do
  let front ← v.callMethod host "slice" [number (.ofNat 0), k]
  let back ← v.callMethod host "slice" [k]
  front.callMethod host "concat" [back]

theorem rejoin_string (s : String) (hk : k.isUndefined = false) :
    (rejoin host (string s) k).Returns (· = string s) := by
  refine (callMethod_slice_string s _).bind_eq ?_
  refine (callMethod_slice_string s _).bind_eq ?_
  have hwhole : String.ofList (partBetween s.toList (some (number (.ofNat 0))) (some k) ++
      partBetween s.toList (some k) none) = s := by
    rw [partBetween_append hk, String.ofList_toList]
  have hconcat := @callMethod_concat_string host (partBetween s.toList (some (number (.ofNat 0))) (some k))
    (partBetween s.toList (some k) none)
  rwa [hwhole] at hconcat

theorem rejoin_array (id : Nat) (items : List Value) (hk : k.isUndefined = false) :
    (rejoin host (array id items) k).Returns fun v => ∃ id, v = array id items := by
  refine (callMethod_slice_array id items _).bind_array fun id₁ => ?_
  refine (callMethod_slice_array id items _).bind_array fun id₂ => ?_
  refine callMethod_array .concat ?_
  show (Eval.newArray (partBetween items (some (number (.ofNat 0))) (some k) ++
    partBetween items (some k) none)).Returns _
  rw [partBetween_append hk]
  exact Eval.returns_newArray _

/-- The range of a slice lies within the items. -/
theorem sliceItems_inBounds (first last : Option Value) (hlength : items.length < 2 ^ 53) :
    let start := relativeIndex first items.length 0
    let stop := max (relativeIndex last items.length items.length) start
    start ≤ stop ∧ stop ≤ items.length := by
  have hstart := relativeIndex_le first hlength (Nat.zero_le _)
  have hstop := relativeIndex_le last hlength (Nat.le_refl _)
  exact ⟨Nat.le_max_right _ _, Nat.max_le.2 ⟨hstop, hstart⟩⟩

theorem charAtText_of_eqv {text : List Char} {c : Char} (hc : text[i]? = some c) (hi : i < 2 ^ 53)
    (hx : x.eqv (.ofNat i) = true) : StringMethod.charAtText text (some (number x)) = [c] := by
  obtain ⟨hbelow, hindex⟩ := toInteger_of_eqv hi hx
  show (if (number x).toInteger.isBelowZero then [] else text[(number x).toInteger.toIndex]?.toList) = [c]
  rw [hbelow, if_neg Bool.false_ne_true, hindex, hc]
  rfl

/-- A character of a string, found in the array of its characters. -/
def indexCharacters (host : Host) (s : String) (x : Number) : Eval Value := do
  let characters ← (string s).callMethod host "split" [string ""]
  characters.getProperty (number x)

/-- An index, `charAt`, a slice of one character and the array of the characters find the same character. -/
theorem character_returns {c : Char} (hc : s.toList[i]? = some c) (hi : i < 2 ^ 53) (hx : x.eqv (.ofNat i) = true) :
    ((string s).getProperty (number x)).Returns (· = string (String.singleton c)) ∧
      ((string s).callMethod host "charAt" [number x]).Returns (· = string (String.singleton c)) ∧
      ((string s).callMethod host "slice" [number x, number (x.add (.ofNat 1))]).Returns
        (· = string (String.singleton c)) ∧
      (indexCharacters host s x).Returns (· = string (String.singleton c)) := by
  have helement := getElem?_elements_string hc
  refine ⟨getProperty_element helement hi hx, ?_, ?_, ?_⟩
  · refine callMethod_string .charAt ?_
    show (pure (string (String.ofList (StringMethod.charAtText s.toList (some (number x))))) : Eval Value).Returns _
    rw [charAtText_of_eqv hc hi hx, ← String.singleton_eq_ofList]
    exact Eval.returns_pure _
  · have hslice := @callMethod_slice_string host s [number x, number (x.add (.ofNat 1))]
    have hpart := partBetween_single hc hi hx
    change partBetween s.toList ([number x, number (x.add (.ofNat 1))].head?)
      ([number x, number (x.add (.ofNat 1))][1]?) = [c] at hpart
    rwa [hpart, ← String.singleton_eq_ofList] at hslice
  · exact callMethod_split.bind_array fun id => getProperty_element helement hi hx

/-- `slice` is one operation on strings and arrays: a string may be cut into its characters first, the parts up to and
from a position make the whole, the range of an array lies within its items, and the slice of one character is what the
other ways to read a character find.  The numbers from `2 ^ 53` on do not tell a position from the next. -/
theorem slice_strings_and_arrays (host : Host) :
    (∀ s arguments, ∃ t, ((string s).callMethod host "slice" arguments).Returns (· = string t) ∧
        (sliceCharacters host s arguments).Returns (· = string t)) ∧
      (∀ k : Value, k.isUndefined = false →
        (∀ s, (rejoin host (string s) k).Returns (· = string s)) ∧
          ∀ id items, (rejoin host (array id items) k).Returns fun v => ∃ id, v = array id items) ∧
      (∀ id items arguments, items.length < 2 ^ 53 →
        let start := relativeIndex arguments.head? items.length 0
        let stop := max (relativeIndex arguments[1]? items.length items.length) start
        start ≤ stop ∧ stop ≤ items.length ∧
          ((array id items).callMethod host "slice" arguments).Returns fun v =>
            ∃ id, v = array id ((items.take stop).drop start)) ∧
      ∀ (s : String) (i : Nat) (c : Char) (x : Number),
        s.toList[i]? = some c → i < 2 ^ 53 → x.eqv (.ofNat i) = true →
          ((string s).getProperty (number x)).Returns (· = string (String.singleton c)) ∧
            ((string s).callMethod host "charAt" [number x]).Returns (· = string (String.singleton c)) ∧
            ((string s).callMethod host "slice" [number x, number (x.add (.ofNat 1))]).Returns
              (· = string (String.singleton c)) ∧
            (indexCharacters host s x).Returns (· = string (String.singleton c)) := by
  refine ⟨fun s arguments => ?_, fun k hk => ?_, fun id items arguments hlength => ?_, fun s i c x hc hi hx => ?_⟩
  · exact ⟨_, callMethod_slice_string s arguments, sliceCharacters_returns s arguments⟩
  · exact ⟨fun s => rejoin_string s hk, fun id items => rejoin_array id items hk⟩
  · obtain ⟨hstart, hstop⟩ := sliceItems_inBounds arguments.head? arguments[1]? hlength
    exact ⟨hstart, hstop, callMethod_array .slice (Eval.returns_newArray _)⟩
  · exact character_returns hc hi hx

/-- A position below zero counts from the end of strings and arrays. -/
theorem slice_strings_and_arrays_last :
    let host : Host := ⟨fun _ _ _ => pure undefined⟩
    let k := number (.ofInt (-1))
    let items := [string "a", string "b", string "c"]
    (rejoin host (string "abc") k).Returns (· = string "abc") ∧
      ((array 0 items).callMethod host "slice" [k]).Returns (fun v => ∃ id, v = array id [string "c"]) ∧
      (indexCharacters host "abc" (.ofNat 1)).Returns (· = string "b") := by
  intro host k items
  obtain ⟨-, hhalves, hrange, hcharacter⟩ := slice_strings_and_arrays host
  have hstart : relativeIndex (some k) 3 0 = 2 := by decide +kernel
  have hone : (Number.ofNat 1).eqv (.ofNat 1) = true := by decide +kernel
  obtain ⟨-, -, hslice⟩ := hrange 0 items [k] (by decide)
  refine ⟨(hhalves k rfl).1 "abc", ?_, (hcharacter "abc" 1 'b' (.ofNat 1) rfl (by decide) hone).2.2.2⟩
  change ((array 0 items).callMethod host "slice" [k]).Returns fun v =>
    ∃ id, v = array id ((items.take (max 3 (relativeIndex (some k) 3 0))).drop (relativeIndex (some k) 3 0)) at hslice
  rwa [hstart] at hslice

end Value

end ExprLang
