import ExprLang.Eval.Operator
import ExprLang.Proofs.MethodCalls
import ExprLang.Proofs.Numerals
import ExprLang.Proofs.PropertyKeys
import Mathlib.Data.List.DropRight

/-!
# Coercion by way of the primitive

A value and its primitive have the same text and the same number (`Value.text_toPrimitive`,
`Value.toNumber_toPrimitive`).  For the number this rests on the texts of objects, functions and regular expressions:
each starts with a character that is no white space and starts no numeral, so whatever follows it is not read as a number
(`Number.ofText_eq_nan_of_head`).  With this the operators that convert their operands at once do the same on primitives,
and `concat` and `join` convert as `+` and the text of an array do (`Value.coercions_agree`).
-/

namespace ExprLang

open Unicode (isBlank)

/-- A text keeps its first character when it is trimmed, unless that is white space. -/
theorem Text.exists_trim_cons {c : Char} (hc : isBlank c = false) (rest : List Char) :
    ∃ rest', trim (c :: rest) = c :: rest' := by
  have hdrop : (c :: rest).dropWhile isBlank = c :: rest := List.dropWhile_cons_of_neg (by simp [hc])
  have htrim : trim (c :: rest) = (c :: rest).rdropWhile isBlank := by rw [trim, hdrop, List.rdropWhile]
  have hne : (c :: rest).rdropWhile isBlank ≠ [] := by
    intro hnil
    have hall := List.rdropWhile_eq_nil_iff.1 hnil c (List.mem_cons_self ..)
    rw [hc] at hall
    cases hall
  obtain ⟨d, rest', hcons⟩ := List.exists_cons_of_ne_nil hne
  have hkept := List.rdropWhile_prefix isBlank (c :: rest)
  rw [hcons, List.cons_prefix_cons] at hkept
  exact ⟨rest', by rw [htrim, hcons, hkept.1]⟩

namespace Number

/-- The characters that a numeral can start with: digits, signs, the point and the first letter of infinity. -/
def startsNumeral (c : Char) : Bool := c.isDigit || ['.', 'e', 'E', '+', '-', 'I'].contains c

/-- A text that starts like no numeral is not read as a number, whatever follows. -/
theorem ofTrimmed_eq_nan_of_head {c : Char} (hc : startsNumeral c = false) (rest : List Char) :
    ofTrimmed (c :: rest) = nan := by
  have hdigit : c.isDigit = false := (Bool.or_eq_false_iff.1 hc).1
  have hother : c ∉ ['.', 'e', 'E', '+', '-', 'I'] := by
    have hcontains := (Bool.or_eq_false_iff.1 hc).2
    rwa [← Bool.not_eq_true, List.contains_iff_mem] at hcontains
  have hinfinity : ¬ IsInfinity (c :: rest) := by
    rintro ⟨sign, rfl | rfl | rfl, h⟩
    all_goals
      obtain ⟨rfl, -⟩ := List.cons.inj h
      exact hother (by decide)
  have hdecimal : ¬ IsDecimal (c :: rest) := by
    intro h
    rcases h.isDecimalChar c (List.mem_cons_self ..) with h | h
    · rw [hdigit] at h
      cases h
    · exact hother (List.mem_append_left ['I'] h)
  have hbase (base : Nat) (digits : List Char) : ¬ HasPrefix base (c :: rest) digits := by
    rintro ⟨mark, -, h⟩
    obtain ⟨rfl, -⟩ := List.cons.inj h
    exact absurd hdigit (by decide)
  have hread := not_congr (isNumber_of_not_hasPrefix hbase)
  cases hnumber : ofTrimmed (c :: rest) with
  | nan => rfl
  | signed negative p =>
    rw [hnumber] at hread
    exact absurd rfl (hread.2 (by simp [hinfinity, hdecimal]))

theorem ofText_eq_nan_of_head {c : Char} (hblank : isBlank c = false) (hc : startsNumeral c = false)
    (rest : List Char) : ofText (c :: rest) = nan := by
  obtain ⟨rest', htrim⟩ := Text.exists_trim_cons hblank rest
  rw [ofText, htrim]
  exact ofTrimmed_eq_nan_of_head hc rest'

end Number

namespace Value

variable {host : Host}

/-! ### Text and number of a primitive -/

theorem toPrimitive_of_isReference {v : Value} (h : v.isReference = true) : v.toPrimitive = string v.text := if_pos h

theorem toPrimitive_of_not_isReference {v : Value} (h : v.isReference = false) : v.toPrimitive = v := by
  rw [toPrimitive, h, if_neg Bool.false_ne_true]

theorem chars_toPrimitive (v : Value) : v.toPrimitive.chars = v.chars := by
  cases h : v.isReference with
  | false => rw [toPrimitive_of_not_isReference h]
  | true => rw [toPrimitive_of_isReference h, chars_text]

theorem text_toPrimitive (v : Value) : v.toPrimitive.text = v.text := congrArg String.ofList (chars_toPrimitive v)

/-- The text of a reference stands for the number of the reference, which is none for all but arrays. -/
theorem ofText_chars_of_isReference {v : Value} (h : v.isReference = true) : Number.ofText v.chars = v.toNumber := by
  cases v with
  | array => rfl
  | object => exact Number.ofText_eq_nan_of_head (c := '[') (by decide) (by decide) "object Object]".toList
  | function =>
    exact Number.ofText_eq_nan_of_head (c := 'f') (by decide) (by decide) "unction () \x7b [native code] \x7d".toList
  | regex id re => exact Number.ofText_eq_nan_of_head (c := '/') (by decide) (by decide) _
  | _ => cases h

theorem toNumber_toPrimitive (v : Value) : v.toPrimitive.toNumber = v.toNumber := by
  cases h : v.isReference with
  | false => rw [toPrimitive_of_not_isReference h]
  | true =>
    have hnumber : (string v.text).toNumber = Number.ofText v.text.toList := rfl
    rw [toPrimitive_of_isReference h, hnumber, text, String.toList_ofList, ofText_chars_of_isReference h]

/-! ### Operators -/

theorem arithmetic_toPrimitive_left (f : Number → Number → Number) (a b : Value) :
    arithmetic f a.toPrimitive b = arithmetic f a b := by
  rw [arithmetic, toNumber_toPrimitive, arithmetic]

theorem arithmetic_toPrimitive_right (f : Number → Number → Number) (a b : Value) :
    arithmetic f a b.toPrimitive = arithmetic f a b := by
  rw [arithmetic, toNumber_toPrimitive, arithmetic]

/-- The operators that convert both operands to numbers. -/
def arithmeticOps : List BinaryOp := [.sub, .mul, .div, .rem, .exp]

theorem exists_arithmetic {op : BinaryOp} (h : op ∈ arithmeticOps) :
    ∃ f, ∀ (a : Value) (right : Eval Value), op.apply a right = right >>= fun b => pure (arithmetic f a b) := by
  simp only [arithmeticOps, List.mem_cons, List.not_mem_nil, or_false] at h
  rcases h with rfl | rfl | rfl | rfl | rfl
  all_goals exact ⟨_, fun a right => rfl⟩

theorem apply_toPrimitive {op : BinaryOp} (h : op ∈ arithmeticOps) (a : Value) (right : Eval Value) :
    op.apply a.toPrimitive right = op.apply a right ∧ op.apply a (toPrimitive <$> right) = op.apply a right := by
  obtain ⟨f, hop⟩ := exists_arithmetic h
  simp only [hop, bind_map_left, arithmetic_toPrimitive_left, arithmetic_toPrimitive_right, and_self]

/-! ### Methods -/

theorem add_string (s : String) (v : Value) :
    (string s).add v = string (String.ofList (s.toList ++ v.chars)) := by
  rw [← chars_toPrimitive v]
  rfl

theorem foldl_add_string (arguments : List Value) (s : String) :
    arguments.foldl add (string s) = string (String.ofList (s.toList ++ (arguments.map chars).flatten)) := by
  induction arguments generalizing s with
  | nil => rw [List.foldl_nil, List.map_nil, List.flatten_nil, List.append_nil, String.ofList_toList]
  | cons v arguments ih =>
    rw [List.foldl_cons, add_string, ih, String.toList_ofList, List.map_cons, List.flatten_cons, List.append_assoc]

theorem callMethod_concat (s : String) (arguments : List Value) :
    ((string s).callMethod host "concat" arguments).Returns (· = arguments.foldl add (string s)) := by
  rw [foldl_add_string]
  exact callMethod_string .concat (Eval.returns_pure _)

theorem callMethod_join_nil (id : Nat) (items : List Value) :
    ((array id items).callMethod host "join" []).Returns (· = string (array id items).text) := by
  refine callMethod_array .join ?_
  have hjoin : ArrayMethod.joinItems items none = (array id items).chars := rfl
  rw [text, ← hjoin]
  exact Eval.returns_pure _

/-- Every value has the text and the number of its primitive.  So `concat` is repeated addition, `join` without a
separator gives the text of an array, and the operators that convert to numbers do the same on primitives. -/
theorem coercions_agree (host : Host) :
    (∀ v : Value, v.toPrimitive.text = v.text ∧ v.toPrimitive.toNumber = v.toNumber) ∧
      (∀ s arguments, ((string s).callMethod host "concat" arguments).Returns (· = arguments.foldl add (string s))) ∧
      (∀ id items, ((array id items).callMethod host "join" []).Returns (· = string (array id items).text)) ∧
      (∀ v, UnaryOp.plus.apply v.toPrimitive = UnaryOp.plus.apply v ∧
        UnaryOp.minus.apply v.toPrimitive = UnaryOp.minus.apply v) ∧
      ∀ op ∈ arithmeticOps, ∀ a right,
        op.apply a.toPrimitive right = op.apply a right ∧ op.apply a (toPrimitive <$> right) = op.apply a right := by
  refine ⟨fun v => ⟨text_toPrimitive v, toNumber_toPrimitive v⟩, ?_, ?_, fun v => ⟨?_, ?_⟩, ?_⟩
  · exact fun s arguments => callMethod_concat s arguments
  · exact fun id items => callMethod_join_nil id items
  · rw [UnaryOp.apply, toNumber_toPrimitive, UnaryOp.apply]
  · rw [UnaryOp.apply, toNumber_toPrimitive, UnaryOp.apply]
  · exact fun op hop a right => apply_toPrimitive hop a right

/-- A nested array is subtracted as the number that its text spells. -/
theorem coercions_agree_nested :
    let v := array 0 [array 1 [string " 0x1F "]]
    BinaryOp.sub ∈ arithmeticOps ∧ v.toPrimitive.toNumber = .ofNat 31 ∧
      BinaryOp.sub.apply v.toPrimitive (pure null) = BinaryOp.sub.apply v (pure null) := by
  intro v
  have hop : BinaryOp.sub ∈ arithmeticOps := by decide
  have hnumber : v.toPrimitive.toNumber = .ofNat 31 := by decide +kernel
  obtain ⟨-, -, -, -, harithmetic⟩ := coercions_agree ⟨fun _ _ _ => pure undefined⟩
  exact ⟨hop, hnumber, (harithmetic .sub hop v (pure null)).1⟩

end Value

end ExprLang
