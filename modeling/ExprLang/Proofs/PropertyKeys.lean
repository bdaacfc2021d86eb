import ExprLang.Member.Access
import ExprLang.Proofs.DecimalSpellings

/-!
# Members found by the text of a key

Objects and regular expressions look for the text of a key.  Arrays and strings first ask a key for the index that it
names, which numbers and strings do by different rules; below `2 ^ 53` a number names the same index as its text
(`Value.arrayIndex?_text_number`).  A text that starts with a digit is not the name of a method, so such a key finds an
element or nothing (`Value.member_of_digit`), and all other keys are looked for by their texts.  An array names no index,
whatever its text is: it hides the elements that its text spells (`Value.HidesElement`), and a key is as good as its text
for all keys but these.
-/

namespace ExprLang

/-! ### Names of methods -/

theorem StartsWithDigit.ne_word {text : List Char} (h : StartsWithDigit text) (word : List Char)
    (hword : word.head?.all (!·.isDigit) = true) : text ≠ word := by
  obtain ⟨c, rest, rfl, hc⟩ := h
  rintro rfl
  simp [hc] at hword

theorem ArrayMethod.ofName?_of_digit {name : List Char} (h : StartsWithDigit name) : ofName? name = none := by
  unfold ofName?
  repeat rw [if_neg (h.ne_word _ ?_)]
  all_goals decide

theorem StringMethod.ofName?_of_digit {name : List Char} (h : StartsWithDigit name) : ofName? name = none := by
  unfold ofName?
  repeat rw [if_neg (h.ne_word _ ?_)]
  all_goals decide

namespace Value

variable {o k : Value} {x : Number} {i : Nat}

/-! ### The index that a key names -/

theorem chars_number (x : Number) : (number x).chars = x.text := rfl

theorem chars_string (s : String) : (string s).chars = s.toList := rfl

theorem indexOfText?_eq_some_iff {text : List Char} :
    indexOfText? text = some i ↔ Nat.toDigits 10 i = text ∧ i < 2 ^ 64 := by
  simp only [indexOfText?, Option.filter_eq_some_iff, decide_eq_true_eq]
  constructor
  · rintro ⟨hread, htext⟩
    exact ⟨htext, ((Number.ofBase?_eq_some_iff (by decide)).1 hread).2⟩
  · rintro ⟨rfl, hi⟩
    exact ⟨Number.ofBase?_toDigits hi, rfl⟩

/-- A number names an index if it is a whole number from zero on; indices end before `2 ^ 64`. -/
theorem arrayIndex?_signed_iff {negative : Bool} {p : Fin (infinityPlace + 1)} :
    (number (.signed negative p)).arrayIndex? = some i ↔
      p.val < infinityPlace ∧ (negative = false ∨ p.val = 0) ∧
        ∃ n, Number.quanta p = n * Number.one ∧ min n (2 ^ 64 - 1) = i := by
  simp only [arrayIndex?, Option.ite_none_right_eq_some, Option.some.injEq, Bool.and_eq_true, Bool.not_eq_true',
    Number.isIntegral_signed, Number.isBelowZero_signed]
  constructor
  · rintro ⟨⟨⟨hfinite, n, hn⟩, hs⟩, hi⟩
    exact ⟨hfinite, hs, n, hn, (Number.toIndex_signed hs hn).symm.trans hi⟩
  · rintro ⟨hfinite, hs, n, hn, hi⟩
    exact ⟨⟨⟨hfinite, n, hn⟩, hs⟩, (Number.toIndex_signed hs hn).trans hi⟩

/-- An index below `2 ^ 53` is named by the numbers that equal it. -/
theorem arrayIndex?_number_iff (hi : i < 2 ^ 53) :
    (number x).arrayIndex? = some i ↔ x.eqv (.ofNat i) = true := by
  cases x with
  | nan => simp [arrayIndex?, Number.isIntegral, Number.eqv, Number.compare?, Number.rank?]
  | signed negative p =>
    rw [arrayIndex?_signed_iff, Number.eqv_ofNat_iff hi]
    constructor
    · rintro ⟨-, hs, n, hn, hmin⟩
      obtain rfl : n = i := by omega
      exact ⟨hs, hn⟩
    · rintro ⟨hs, hn⟩
      exact ⟨Number.lt_infinityPlace_of_quanta hi hn, hs, i, hn, by omega⟩

/-- A number and its text name the same index below `2 ^ 53`. -/
theorem arrayIndex?_text_number (hi : i < 2 ^ 53) :
    (number x).arrayIndex? = some i ↔ indexOfText? x.text = some i := by
  rw [arrayIndex?_number_iff hi, indexOfText?_eq_some_iff, ← Number.text_eq_toDigits_iff hi, eq_comm]
  exact (and_iff_left (by omega)).symm

/-- The text of a key that names an index starts with a digit. -/
theorem startsWithDigit_of_arrayIndex? (h : k.arrayIndex? = some i) : StartsWithDigit k.chars := by
  cases k with
  | number x =>
    rw [chars_number]
    cases x with
    | nan => simp [arrayIndex?, Number.isIntegral] at h
    | signed negative p =>
      obtain ⟨hfinite, hs, -⟩ := arrayIndex?_signed_iff.1 h
      exact Number.startsWithDigit_text_signed hfinite hs
  | string s =>
    rw [chars_string, ← (indexOfText?_eq_some_iff.1 h).1]
    exact Decimal.startsWithDigit_toDigits i
  | _ => simp [arrayIndex?] at h

/-! ### Elements -/

/-- Whether a value has elements that an index finds. -/
def isIndexed : Value → Bool
  | array .. | string _ => true
  | _ => false

/-- What an index finds: the items of an array, the characters of a string. -/
def elements : Value → List Value
  | array _ items => items
  | string s => s.toList.map fun c => string (String.singleton c)
  | _ => []

theorem isIndexed_of_elements {v : Value} (h : o.elements[i]? = some v) : o.isIndexed = true := by
  cases o with
  | array | string => rfl
  | _ => cases h

theorem chars_text (v : Value) : (string v.text).chars = v.chars := String.toList_ofList

theorem text_text (v : Value) : (string v.text).text = v.text := congrArg String.ofList (chars_text v)

theorem arrayIndex?_text (v : Value) : (string v.text).arrayIndex? = indexOfText? v.chars :=
  congrArg indexOfText? (chars_text v)

/-- A key whose text starts with a digit finds an element or nothing. -/
theorem member_of_digit (ho : o.isIndexed = true) (hk : StartsWithDigit k.chars) :
    o.member k = .ok (.value ((k.arrayIndex?.bind (o.elements[·]?)).getD .undefined)) := by
  have hlength : k.chars ≠ "length".toList := hk.ne_word _ (by decide)
  cases o with
  | array id items =>
    simp only [member, arrayMember, elements]
    cases k.arrayIndex? with
    | some j => rfl
    | none =>
      simp only [if_neg hlength, ArrayMethod.ofName?_of_digit hk]
      rfl
  | string s =>
    simp only [member, stringMember, elements]
    cases k.arrayIndex? with
    | some j => simp only [Option.bind_some, List.getElem?_map]
    | none =>
      simp only [if_neg hlength, StringMethod.ofName?_of_digit hk]
      rfl
  | _ => cases ho

theorem member_text_of_not_isIndexed (ho : o.isIndexed = false) : o.member k = o.member (string k.text) := by
  cases o with
  | array | string => cases ho
  | _ => simp only [member, regexMember, chars_text, text_text]

/-- Apart from indices, a member is found by the text of its key. -/
theorem member_text_of_not_digit (hk : ¬ StartsWithDigit k.chars) : o.member k = o.member (string k.text) := by
  have hnone (v : Value) (hv : ¬ StartsWithDigit v.chars) : v.arrayIndex? = none :=
    Option.eq_none_iff_forall_ne_some.2 fun _ h => hv (startsWithDigit_of_arrayIndex? h)
  have htext : (string k.text).arrayIndex? = none := hnone _ (by rwa [chars_text])
  cases o with
  | array | string => simp only [member, arrayMember, stringMember, hnone k hk, htext, chars_text]
  | _ => exact member_text_of_not_isIndexed rfl

/-- Indices that agree below the number of elements find the same. -/
theorem bind_elements_congr {a b : Option Nat} {n : Nat} (ho : o.elements.length ≤ n)
    (h : ∀ j < n, a = some j ↔ b = some j) :
    a.bind (o.elements[·]?) = b.bind (o.elements[·]?) := by
  refine Option.ext fun v => ?_
  simp only [Option.bind_eq_some_iff]
  refine exists_congr fun j => and_congr_left fun hv => h j ?_
  obtain ⟨hj, -⟩ := List.getElem?_eq_some_iff.1 hv
  omega

/-! ### Keys and their texts -/

/-- An array as a key names no index, so that it hides the element whose index its text spells. -/
def HidesElement (o k : Value) : Prop :=
  (∃ id items, k = array id items) ∧
    ∃ i v, indexOfText? k.chars = some i ∧ o.elements[i]? = some v ∧ v.isUndefined = false

/-- Only numbers, strings and arrays have texts that start with a digit. -/
theorem kind_of_digit (hk : StartsWithDigit k.chars) :
    (∃ x, k = number x) ∨ (∃ s, k = string s) ∨ ∃ id items, k = array id items := by
  cases k with
  | number x => exact .inl ⟨x, rfl⟩
  | string s => exact .inr (.inl ⟨s, rfl⟩)
  | array id items => exact .inr (.inr ⟨id, items, rfl⟩)
  | undefined => exact absurd rfl (hk.ne_word "undefined".toList (by decide))
  | null => exact absurd rfl (hk.ne_word "null".toList (by decide))
  | bool b =>
    cases b with
    | false => exact absurd rfl (hk.ne_word "false".toList (by decide))
    | true => exact absurd rfl (hk.ne_word "true".toList (by decide))
  | object => exact absurd rfl (hk.ne_word "[object Object]".toList (by decide))
  | function => exact absurd rfl (hk.ne_word "function () \x7b [native code] \x7d".toList (by decide))
  | regex id re => exact absurd rfl (hk.ne_word re.chars rfl)

/-- A key that hides no element finds what its text finds. -/
theorem member_text_of_not_hidesElement (hlen : o.elements.length < 2 ^ 53) (hk : ¬ o.HidesElement k) :
    o.member k = o.member (string k.text) := by
  by_cases hdigit : StartsWithDigit k.chars
  case neg => exact member_text_of_not_digit hdigit
  by_cases ho : o.isIndexed = true
  case neg => exact member_text_of_not_isIndexed (Bool.not_eq_true _ ▸ ho)
  have htext : StartsWithDigit (string k.text).chars := by rwa [chars_text]
  rw [member_of_digit ho hdigit, member_of_digit ho htext, arrayIndex?_text]
  congr 2
  rcases kind_of_digit hdigit with ⟨x, rfl⟩ | ⟨s, rfl⟩ | ⟨id, items, rfl⟩
  · rw [bind_elements_congr (Nat.le_of_lt hlen) fun j hj => arrayIndex?_text_number hj, chars_number]
  · rfl
  · -- the array finds nothing, and its text nothing but undefined
    change undefined = ((indexOfText? (array id items).chars).bind (o.elements[·]?)).getD undefined
    cases hfound : (indexOfText? (array id items).chars).bind (o.elements[·]?) with
    | none => rfl
    | some v =>
      obtain ⟨i, hi, hv⟩ := Option.bind_eq_some_iff.1 hfound
      cases v with
      | undefined => rfl
      | _ => exact absurd ⟨⟨id, items, rfl⟩, i, _, hi, hv, rfl⟩ hk

/-- An array as a key finds nothing, and its text finds the element that it hides. -/
theorem HidesElement.members (hk : o.HidesElement k) :
    o.member k = .ok (.value .undefined) ∧ ∃ v, o.member (string k.text) = .ok (.value v) ∧ v.isUndefined = false := by
  obtain ⟨⟨id, items, rfl⟩, i, v, hi, hv, hdefined⟩ := hk
  have ho := isIndexed_of_elements hv
  have htext : (string (array id items).text).arrayIndex? = some i := (arrayIndex?_text _).trans hi
  have hdigit := startsWithDigit_of_arrayIndex? htext
  refine ⟨member_of_digit ho (by rwa [chars_text] at hdigit), v, ?_, hdefined⟩
  rw [member_of_digit ho hdigit, htext, Option.bind_some, hv, Option.getD_some]

theorem getProperty_of_member_undefined (h : o.member k = .ok (.value .undefined)) :
    o.getProperty k = pure .undefined := by
  rw [getProperty, h]

theorem getProperty_ne_of_member {v : Value} (h : o.member k = .ok (.value v)) (hv : v.isUndefined = false) :
    o.getProperty k ≠ pure .undefined := by
  intro heq
  have houtcome := congrArg (fun e => (Eval.outcome e ⟨0, []⟩).1) heq
  rw [getProperty, h] at houtcome
  cases v with
  | undefined => cases hv
  | _ => cases houtcome

/-- A key finds the same as its text, unless it is an array whose text spells the index of an element. -/
theorem getProperty_text_iff (hlen : o.elements.length < 2 ^ 53) :
    (o.getProperty k = o.getProperty (string k.text) ↔ ¬ o.HidesElement k) ∧
      (o.isIndexed = true → ¬ o.HidesElement k → ∀ i, k.chars = Nat.toDigits 10 i →
        o.member k = .ok (.value (o.elements[i]?.getD .undefined))) := by
  refine ⟨⟨fun h hk => ?_, fun hk => ?_⟩, fun ho hk i hi => ?_⟩
  · obtain ⟨hkey, v, htext, hv⟩ := hk.members
    rw [getProperty_of_member_undefined hkey] at h
    exact getProperty_ne_of_member htext hv h.symm
  · rw [getProperty, getProperty, member_text_of_not_hidesElement hlen hk]
  · have hdigit : StartsWithDigit (string k.text).chars := by
      rw [chars_text, hi]
      exact Decimal.startsWithDigit_toDigits i
    have hindex : (indexOfText? k.chars).bind (o.elements[·]?) = (some i).bind (o.elements[·]?) := by
      refine bind_elements_congr (Nat.le_of_lt hlen) fun j hj => ?_
      rw [indexOfText?_eq_some_iff, hi, Decimal.toDigits_inj, Option.some.injEq, eq_comm]
      exact and_iff_left_of_imp fun h => by omega
    rw [member_text_of_not_hidesElement hlen hk, member_of_digit ho hdigit, arrayIndex?_text, hindex, Option.bind_some]

/-- The number one and its text find the second item of an array. -/
theorem getProperty_text_iff_second :
    let o := array 0 [string "a", string "b"]
    let k := number (.ofNat 1)
    o.elements.length < 2 ^ 53 ∧ o.getProperty k = o.getProperty (string k.text) ∧
      o.member k = .ok (.value (string "b")) := by
  have hlen : (array 0 [string "a", string "b"]).elements.length < 2 ^ 53 := by decide
  have hkey : ¬ (array 0 [string "a", string "b"]).HidesElement (number (.ofNat 1)) := by
    rintro ⟨⟨id, items, h⟩, -⟩
    exact Value.noConfusion h
  have htext : (number (.ofNat 1)).chars = Nat.toDigits 10 1 := by
    rw [chars_number]
    exact (Number.text_eq_toDigits_iff (by decide)).2 (by decide +kernel)
  exact ⟨hlen, (getProperty_text_iff hlen).1.2 hkey, (getProperty_text_iff hlen).2 rfl hkey 1 htext⟩

/-- An array of one text is written like this text and does not find the item that the text finds. -/
theorem getProperty_singleton_array :
    let o := array 0 [string "a", string "b"]
    let k := array 1 [string "0"]
    k.text = "0" ∧ o.getProperty k = pure .undefined ∧ o.member (string k.text) = .ok (.value (string "a")) ∧
      o.getProperty k ≠ o.getProperty (string k.text) := by
  have htext : (array 1 [string "0"]).chars = ['0'] := by decide +kernel
  have hindex : indexOfText? (array 1 [string "0"]).chars = some 0 := by
    rw [htext]
    decide
  have hkey : (array 0 [string "a", string "b"]).HidesElement (array 1 [string "0"]) :=
    ⟨⟨1, _, rfl⟩, 0, string "a", hindex, rfl, rfl⟩
  have hundefined := hkey.members.1
  have hmember : (array 0 [string "a", string "b"]).member (string (array 1 [string "0"]).text) =
      .ok (.value (string "a")) := by
    rw [text, htext]
    rfl
  refine ⟨congrArg String.ofList htext, getProperty_of_member_undefined hundefined, hmember, ?_⟩
  rw [getProperty_of_member_undefined hundefined]
  exact (getProperty_ne_of_member hmember rfl).symm

end Value

end ExprLang
