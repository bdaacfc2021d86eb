import ExprLang.Proofs.PropertyKeys

/-!
# Strings that address elements

A string names the index that it spells in decimal (`Value.arrayIndex?_string_iff`).  What it means to address an element
is said without indices: a key addresses the element at a place if it reads every character that is put there
(`Value.Addresses`).  The length and the methods of an array or a string are no such characters, and another element does
not change, so the keys that address an element are those that name its index (`Value.addresses_iff`).  As a number has
one spelling, each element is addressed by at most one string.
-/

namespace ExprLang.Value

open Number (IsSpelling)

variable {o k : Value} {s t : String} {i j : Nat} {c : Char}

theorem arrayIndex?_string_iff : (string s).arrayIndex? = some i ↔ i < 2 ^ 64 ∧ IsSpelling s.toList i := by
  rw [arrayIndex?, indexOfText?_eq_some_iff, Number.isSpelling_iff, and_comm]

/-- An array or a string with a character in the place of an element. -/
def setElement (o : Value) (i : Nat) (c : Char) : Value :=
  match o with
  | array id items => array id (items.set i (string (String.singleton c)))
  | string s => string (String.ofList (s.toList.set i c))
  | o => o

/-- A key addresses an element if it reads every character that is put in its place. -/
def Addresses (o k : Value) (i : Nat) : Prop :=
  i < o.elements.length ∧ ∀ c, (o.setElement i c).member k = .ok (.value (string (String.singleton c)))

theorem isIndexed_of_lt_elements (h : i < o.elements.length) : o.isIndexed = true :=
  isIndexed_of_elements (List.getElem?_eq_getElem h)

theorem isIndexed_setElement (ho : o.isIndexed = true) : (o.setElement i c).isIndexed = true := by
  cases o with
  | array | string => rfl
  | _ => cases ho

theorem elements_setElement (ho : o.isIndexed = true) :
    (o.setElement i c).elements = o.elements.set i (string (String.singleton c)) := by
  cases o with
  | array => rfl
  | string s =>
    simp only [setElement, elements, String.toList_ofList]
    exact List.map_set
  | _ => cases ho

/-- A key that names an index reads the element there. -/
theorem member_of_arrayIndex? (ho : o.isIndexed = true) (hk : k.arrayIndex? = some j) :
    o.member k = .ok (.value ((o.elements[j]?).getD .undefined)) := by
  rw [member_of_digit ho (startsWithDigit_of_arrayIndex? hk), hk, Option.bind_some]

/-- A key that names no index finds the length, a method or nothing, but no text. -/
theorem member_ne_string (ho : o.isIndexed = true) (hk : k.arrayIndex? = none) :
    o.member k ≠ .ok (.value (string t)) := by
  intro h
  cases o with
  | array id items =>
    simp only [member, arrayMember, hk, Except.ok.injEq] at h
    split at h
    · cases h
    · split at h <;> cases h
  | string s =>
    simp only [member, stringMember, hk, Except.ok.injEq] at h
    split at h
    · cases h
    · split at h <;> cases h
  | _ => cases ho

/-- The keys that address an element are those that name its index. -/
theorem addresses_iff : o.Addresses k i ↔ i < o.elements.length ∧ k.arrayIndex? = some i := by
  refine and_congr_right fun hi => ?_
  have ho := isIndexed_of_lt_elements hi
  have hset (c : Char) : (o.setElement i c).isIndexed = true := isIndexed_setElement ho
  constructor
  · intro hreads
    cases hk : k.arrayIndex? with
    | none => exact absurd (hreads 'a') (member_ne_string (hset 'a') hk)
    | some j =>
      by_cases hij : i = j
      · rw [hij]
      · -- an element at another place cannot be two characters
        have hread (c : Char) : (o.elements[j]?).getD undefined = string (String.singleton c) := by
          have hmember := (member_of_arrayIndex? (hset c) hk).symm.trans (hreads c)
          rw [elements_setElement ho, List.getElem?_set_ne hij] at hmember
          exact Member.value.inj (Except.ok.inj hmember)
        have hsame := (hread 'a').symm.trans (hread 'b')
        exact absurd (string.inj hsame) (by decide)
  · intro hk c
    rw [member_of_arrayIndex? (hset c) hk, elements_setElement ho, List.getElem?_set_self hi, Option.getD_some]

theorem addresses_string_iff :
    o.Addresses (string s) i ↔ i < o.elements.length ∧ i < 2 ^ 64 ∧ IsSpelling s.toList i := by
  rw [addresses_iff, arrayIndex?_string_iff]

/-- A string names an index exactly if it is the decimal spelling of a number below `2 ^ 64`, and with it addresses the
element there.  So no two strings address the same element of an array or a string. -/
theorem element_addressed_by_spelling :
    (∀ s i, (string s).arrayIndex? = some i ↔ i < 2 ^ 64 ∧ IsSpelling s.toList i) ∧
      (∀ o s i, Addresses o (string s) i ↔ i < o.elements.length ∧ i < 2 ^ 64 ∧ IsSpelling s.toList i) ∧
      ∀ o s t i, Addresses o (string s) i → Addresses o (string t) i → s = t := by
  refine ⟨fun s i => arrayIndex?_string_iff, fun o s i => addresses_string_iff, fun o s t i hs ht => ?_⟩
  obtain ⟨-, -, hs⟩ := addresses_string_iff.1 hs
  obtain ⟨-, -, ht⟩ := addresses_string_iff.1 ht
  have htext : s.toList = t.toList := (Number.isSpelling_iff.1 hs).symm.trans (Number.isSpelling_iff.1 ht)
  exact String.toList_inj.1 htext

/-- The second item of an array is addressed by `1`, and hence neither by `01` nor by `+1`. -/
theorem element_addressed_by_spelling_second :
    let o := array 0 [string "a", string "b"]
    o.Addresses (string "1") 1 ∧ ¬ o.Addresses (string "01") 1 ∧ ¬ o.Addresses (string "+1") 1 := by
  intro o
  obtain ⟨-, haddresses, honce⟩ := element_addressed_by_spelling
  have hone : o.Addresses (string "1") 1 :=
    (haddresses o "1" 1).2 ⟨by decide, by decide, Number.isSpelling_iff.2 (by decide)⟩
  refine ⟨hone, fun h => ?_, fun h => ?_⟩
  · exact absurd (honce o "1" "01" 1 hone h) (by decide)
  · exact absurd (honce o "1" "+1" 1 hone h) (by decide)

end ExprLang.Value
