import ExprLang.Text.Bytes
import ExprLang.Value.Coercion

/-!
# Order of values

Two values are compared by their primitives: two strings by their bytes, anything else by numbers.
-/

namespace ExprLang

/-- The order of texts by the bytes of their encodings. -/
def Text.order (s t : List Char) : Ordering := compare (bytes s) (bytes t)

/-- The order of two values, undefined when a number is compared that is not one. -/
def Value.compare? (a b : Value) : Option Ordering :=
  match a.toPrimitive, b.toPrimitive with
  | .string s, .string t => some (Text.order s.toList t.toList)
  | p, q => Number.compare? p.toNumber q.toNumber

end ExprLang
