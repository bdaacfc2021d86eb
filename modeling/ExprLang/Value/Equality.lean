import ExprLang.Value.Coercion

/-!
# Equality of values

Three equalities.  `strictEquals` converts nothing and tells references by their identity, `looseEquals` converts
operands of different types step by step until they can be compared, and `alike` compares the content of arrays
and objects.
-/

namespace ExprLang.Value

/-- Equality without conversions. -/
def strictEquals : Value → Value → Bool
  | undefined, undefined => true
  | null, null => true
  | bool a, bool b => a == b
  | number x, number y => x.eqv y
  | string s, string t => s == t
  | array i _, array j _ => i == j
  | object i _, object j _ => i == j
  | function i _ _, function j _ _ => i == j
  | regex i _, regex j _ => i == j
  | _, _ => false

/-- Whether two values are of the same type, arrays, objects and regular expressions being types of their own. -/
def sameType : Value → Value → Bool
  | undefined, undefined | null, null | bool _, bool _ | number _, number _ | string _, string _ => true
  | array .., array .. | object .., object .. | function .., function .. | regex .., regex .. => true
  | _, _ => false

/-- How many conversions are left before a value is a number, a string, undefined or null. -/
def conversions : Value → Nat
  | bool _ | array .. | object .. | function .. | regex .. => 1
  | _ => 0

theorem conversions_toPrimitive_lt {v : Value} (h : v.isReference) :
    v.toPrimitive.conversions < v.conversions := by
  cases v <;> simp_all [isReference, toPrimitive, conversions]

/-- Equality up to conversions: undefined equals null, a truth value becomes its number, a reference beside a
primitive becomes its text, and a string beside a number becomes its number. -/
def looseEquals (a b : Value) : Bool :=
  if sameType a b then strictEquals a b
  else if a.isNullish && b.isNullish then true
  else if a.isNullish || b.isNullish then false
  else
    match a, b with
    | number x, string t => x.eqv (string t).toNumber
    | string s, number y => (string s).toNumber.eqv y
    | bool p, b => looseEquals (number (bool p).toNumber) b
    | a, bool q => looseEquals a (number (bool q).toNumber)
    | number x, b => if _h : b.isReference then looseEquals (number x) b.toPrimitive else false
    | string s, b => if _h : b.isReference then looseEquals (string s) b.toPrimitive else false
    | a, number y => if _h : a.isReference then looseEquals a.toPrimitive (number y) else false
    | a, string t => if _h : a.isReference then looseEquals a.toPrimitive (string t) else false
    | _, _ => false
termination_by a.conversions + b.conversions
decreasing_by
  all_goals first
    | simp [conversions]; done
    | simpa [conversions] using conversions_toPrimitive_lt _h

mutual

/-- Equality of content.  The order of the entries of an object does not count; functions are alike when they are
the same, regular expressions when they have the same source and flags. -/
def alike : Value → Value → Bool
  | undefined, undefined => true
  | null, null => true
  | bool a, bool b => a == b
  | number x, number y => x.eqv y
  | string s, string t => s == t
  | array _ xs, array _ ys => alikeItems xs ys
  | object _ es, object _ fs => es.length == fs.length && alikeEntries es fs
  | function i _ _, function j _ _ => i == j
  | regex _ re, regex _ re' => re.source == re'.source && re.flags == re'.flags
  | _, _ => false

/-- Equality of content, item by item. -/
def alikeItems : List Value → List Value → Bool
  | [], [] => true
  | x :: xs, y :: ys => x.alike y && alikeItems xs ys
  | _, _ => false

/-- Whether the value of every entry is alike that of the same key in the second list. -/
def alikeEntries : List (String × Value) → List (String × Value) → Bool
  | [], _ => true
  | (key, v) :: es, fs =>
    (match fs.lookup key with
      | some w => v.alike w
      | none => false) && alikeEntries es fs

end

end ExprLang.Value
