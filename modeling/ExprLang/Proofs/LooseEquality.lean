import ExprLang.Value.Equality

/-!
# Loose equality in one step

Loose equality converts one operand at a time until it can compare: a truth value becomes its number, a reference
beside a primitive becomes its text, and a string beside a number becomes its number.  The order of these conversions
does not matter.  Values of different types that are neither undefined nor null, and not both references, are equal if
and only if their primitives are (`Value.looseEquals_of_convertible`): two strings as texts, everything else as
numbers.  With this, loose equality is symmetric and holds wherever strict equality does
(`Value.looseEquals_eq_equalByPrimitives`).
-/

namespace ExprLang

/-! ### Numbers -/

theorem Number.compare?_swap (x y : Number) : compare? y x = (compare? x y).map Ordering.swap := by
  cases x with
  | nan => cases y <;> rfl
  | signed negative p =>
    cases y with
    | nan => rfl
    | signed negative' q => exact congrArg some Std.OrientedCmp.eq_swap

theorem Number.eqv_comm (x y : Number) : x.eqv y = y.eqv x := by
  rw [eqv, eqv, compare?_swap x y]
  rcases compare? x y with _ | _ | _ | _ <;> rfl

namespace Value

variable {a b : Value}

/-! ### Types -/

theorem sameType_comm (a b : Value) : sameType a b = sameType b a := by
  cases a <;> cases b <;> rfl

theorem strictEquals_comm (a b : Value) : strictEquals a b = strictEquals b a := by
  cases a <;> cases b
  case number.number x y => exact Number.eqv_comm x y
  all_goals first
    | rfl
    | exact Bool.beq_comm

theorem sameType_of_strictEquals (h : strictEquals a b = true) : sameType a b = true := by
  cases a <;> cases b
  all_goals first
    | rfl
    | cases h

/-! ### Equality of primitives -/

/-- Equality of two primitives: two strings by their texts, anything else by numbers. -/
def primitivesEqual : Value → Value → Bool
  | string s, string t => s == t
  | p, q => p.toNumber.eqv q.toNumber

/-- Loose equality without steps: values of one type are compared strictly, undefined and null are equal to each other
and to nothing else, references of different types differ, and all other values are compared by their primitives. -/
def equalByPrimitives (a b : Value) : Bool :=
  if sameType a b then strictEquals a b
  else if a.isNullish && b.isNullish then true
  else if a.isNullish || b.isNullish then false
  else if a.isReference && b.isReference then false
  else primitivesEqual a.toPrimitive b.toPrimitive

theorem primitivesEqual_comm (p q : Value) : primitivesEqual p q = primitivesEqual q p := by
  unfold primitivesEqual
  split
  · exact Bool.beq_comm
  · rename_i hne
    split
    · exact absurd rfl (hne _ _ rfl)
    · exact Number.eqv_comm _ _

theorem equalByPrimitives_comm (a b : Value) : equalByPrimitives a b = equalByPrimitives b a := by
  rw [equalByPrimitives, equalByPrimitives, sameType_comm a b, strictEquals_comm a b, primitivesEqual_comm,
    Bool.and_comm a.isNullish, Bool.or_comm a.isNullish, Bool.and_comm a.isReference]

/-! ### Conversions -/

/-- A value that is compared as it is: a number or a string. -/
def isBasic : Value → Bool
  | number _ | string _ => true
  | _ => false

/-- A value that is neither undefined nor null is a truth value, a number or a string, or a reference. -/
theorem kind_of_not_isNullish (h : a.isNullish = false) :
    (∃ p, a = bool p) ∨ a.isBasic = true ∨ a.isReference = true := by
  cases a with
  | undefined | null => cases h
  | bool p => exact .inl ⟨p, rfl⟩
  | number | string => exact .inr (.inl rfl)
  | array | object | function | regex => exact .inr (.inr rfl)

theorem isBasic_toPrimitive (h : a.isReference = true) : a.toPrimitive.isBasic = true := by
  rw [toPrimitive, if_pos h]
  rfl

theorem toPrimitive_of_isBasic (h : a.isBasic = true) : a.toPrimitive = a := by
  cases a with
  | number | string => rfl
  | _ => cases h

/-! ### What the conversions come to -/

/-- Numbers and strings are compared without a conversion, or by the number of the one string. -/
theorem looseEquals_basic (ha : a.isBasic = true) (hb : b.isBasic = true) :
    looseEquals a b = primitivesEqual a b := by
  rw [looseEquals.eq_def]
  cases a with
  | number x =>
    cases b with
    | number y => rfl
    | string t => rfl
    | _ => cases hb
  | string s =>
    cases b with
    | number y => rfl
    | string t => rfl
    | _ => cases hb
  | _ => cases ha

/-- A reference behind a number or a string becomes its text. -/
theorem looseEquals_basic_reference (ha : a.isBasic = true) (hb : b.isReference = true) :
    looseEquals a b = primitivesEqual a b.toPrimitive := by
  rw [← looseEquals_basic ha (isBasic_toPrimitive hb), looseEquals.eq_def a b]
  cases a with
  | number x =>
    cases b with
    | array | object | function | regex => rfl
    | _ => cases hb
  | string s =>
    cases b with
    | array | object | function | regex => rfl
    | _ => cases hb
  | _ => cases ha

theorem looseEquals_reference_basic (ha : a.isReference = true) (hb : b.isBasic = true) :
    looseEquals a b = primitivesEqual a.toPrimitive b := by
  rw [← looseEquals_basic (isBasic_toPrimitive ha) hb, looseEquals.eq_def a b]
  cases b with
  | number x =>
    cases a with
    | array | object | function | regex => rfl
    | _ => cases ha
  | string s =>
    cases a with
    | array | object | function | regex => rfl
    | _ => cases ha
  | _ => cases hb

/-- A number or a string before a value that is no truth value. -/
theorem looseEquals_of_isBasic_left (ha : a.isBasic = true) (hb : b.isBasic = true ∨ b.isReference = true) :
    looseEquals a b = primitivesEqual a.toPrimitive b.toPrimitive := by
  rw [toPrimitive_of_isBasic ha]
  rcases hb with hb | hb
  · rw [toPrimitive_of_isBasic hb]
    exact looseEquals_basic ha hb
  · exact looseEquals_basic_reference ha hb

theorem looseEquals_of_isBasic_right (ha : a.isBasic = true ∨ a.isReference = true) (hb : b.isBasic = true) :
    looseEquals a b = primitivesEqual a.toPrimitive b.toPrimitive := by
  rw [toPrimitive_of_isBasic hb]
  rcases ha with ha | ha
  · rw [toPrimitive_of_isBasic ha]
    exact looseEquals_basic ha hb
  · exact looseEquals_reference_basic ha hb

/-- A truth value becomes its number, whichever side it is on. -/
theorem looseEquals_bool_left (p : Bool) (hb : b.isBasic = true ∨ b.isReference = true) :
    looseEquals (bool p) b = looseEquals (number (bool p).toNumber) b := by
  rw [looseEquals.eq_def (bool p) b]
  cases b with
  | number | string | array | object | function | regex => rfl
  | _ => rcases hb with hb | hb <;> cases hb

theorem looseEquals_bool_right (q : Bool) (ha : a.isBasic = true ∨ a.isReference = true) :
    looseEquals a (bool q) = looseEquals a (number (bool q).toNumber) := by
  rw [looseEquals.eq_def a (bool q)]
  cases a with
  | number | string | array | object | function | regex => rfl
  | _ => rcases ha with ha | ha <;> cases ha

/-- A truth value and its number compare in the same way with another primitive. -/
theorem primitivesEqual_bool_left (p : Bool) (q : Value) :
    primitivesEqual (number (bool p).toNumber) q = primitivesEqual (bool p) q := rfl

theorem primitivesEqual_bool_right (p : Value) (q : Bool) :
    primitivesEqual p (number (bool q).toNumber) = primitivesEqual p (bool q) := by
  rw [primitivesEqual_comm, primitivesEqual_comm p]
  exact primitivesEqual_bool_left q p

/-- Values of different types that are neither undefined nor null, and not both references, are equal if their
primitives are. -/
theorem looseEquals_of_convertible (htype : sameType a b = false) (ha : a.isNullish = false) (hb : b.isNullish = false)
    (href : ¬ (a.isReference = true ∧ b.isReference = true)) :
    looseEquals a b = primitivesEqual a.toPrimitive b.toPrimitive := by
  rcases kind_of_not_isNullish ha with ⟨p, rfl⟩ | ha
  · rcases kind_of_not_isNullish hb with ⟨q, rfl⟩ | hb
    · cases htype
    · have hnumber : (number (bool p).toNumber).isBasic = true := rfl
      rw [looseEquals_bool_left p hb, looseEquals_of_isBasic_left hnumber hb, toPrimitive_of_isBasic hnumber]
      exact primitivesEqual_bool_left p _
  · rcases kind_of_not_isNullish hb with ⟨q, rfl⟩ | hb
    · have hnumber : (number (bool q).toNumber).isBasic = true := rfl
      rw [looseEquals_bool_right q ha, looseEquals_of_isBasic_right ha hnumber, toPrimitive_of_isBasic hnumber]
      exact primitivesEqual_bool_right _ q
    · rcases ha with ha | ha
      · exact looseEquals_of_isBasic_left ha hb
      · have hb : b.isBasic = true := hb.resolve_right fun hb => href ⟨ha, hb⟩
        exact looseEquals_of_isBasic_right (.inr ha) hb

/-- References of different types are never equal. -/
theorem looseEquals_references (htype : sameType a b = false) (ha : a.isReference = true) (hb : b.isReference = true) :
    looseEquals a b = false := by
  rw [looseEquals.eq_def]
  cases a <;> cases b
  all_goals first
    | rfl
    | exact absurd ha Bool.false_ne_true
    | exact absurd hb Bool.false_ne_true
    | exact absurd htype.symm Bool.false_ne_true

/-- Loose equality is equality of one type, of undefined and null, or of primitives. -/
theorem looseEquals_eq (a b : Value) : looseEquals a b = equalByPrimitives a b := by
  unfold equalByPrimitives
  by_cases htype : sameType a b = true
  · rw [if_pos htype, looseEquals.eq_def, if_pos htype]
  rw [if_neg htype]
  by_cases hboth : (a.isNullish && b.isNullish) = true
  · rw [if_pos hboth, looseEquals.eq_def, if_neg htype, if_pos hboth]
  rw [if_neg hboth]
  by_cases hone : (a.isNullish || b.isNullish) = true
  · rw [if_pos hone, looseEquals.eq_def, if_neg htype, if_neg hboth, if_pos hone]
  rw [if_neg hone]
  have htype' : sameType a b = false := by simpa using htype
  by_cases href : (a.isReference && b.isReference) = true
  · rw [if_pos href]
    rw [Bool.and_eq_true] at href
    exact looseEquals_references htype' href.1 href.2
  · rw [if_neg href]
    rw [Bool.and_eq_true] at href
    rw [Bool.or_eq_true, not_or, Bool.not_eq_true, Bool.not_eq_true] at hone
    exact looseEquals_of_convertible htype' hone.1 hone.2 href

/-- Loose equality compares values of one type strictly, equates undefined and null and nothing else with them, and
compares what is left by primitives.  So it is symmetric and holds wherever strict equality does. -/
theorem looseEquals_eq_equalByPrimitives (a b : Value) :
    looseEquals a b = equalByPrimitives a b ∧ looseEquals a b = looseEquals b a ∧
      (strictEquals a b = true → looseEquals a b = true) := by
  refine ⟨looseEquals_eq a b, ?_, fun h => ?_⟩
  · rw [looseEquals_eq, looseEquals_eq]
    exact equalByPrimitives_comm a b
  · rw [looseEquals.eq_def, if_pos (sameType_of_strictEquals h)]
    exact h

/-- An array of the text of a number equals true, and an array equals itself. -/
theorem looseEquals_eq_equalByPrimitives_array :
    let a := array 0 [array 1 [string "0x1"]]
    looseEquals a (bool true) = true ∧ looseEquals (bool true) a = true ∧ strictEquals a a = true ∧ looseEquals a a = true := by
  intro a
  have htrue : looseEquals a (bool true) = true := by
    rw [(looseEquals_eq_equalByPrimitives a (bool true)).1]
    decide +kernel
  have hsymm := (looseEquals_eq_equalByPrimitives a (bool true)).2.1
  have hself : strictEquals a a = true := by decide
  exact ⟨htrue, hsymm ▸ htrue, hself, (looseEquals_eq_equalByPrimitives a a).2.2 hself⟩

end Value

end ExprLang
