import ExprLang.Node.Basic
import Mathlib

/-!
# Trees with other ranges

* `Node.mapRanges` changes all ranges of a tree and nothing else.
* Moving ranges commutes with the range that covers two others (`Range.cover_moveForward`), and can be undone
  (`Range.moveBack_moveForward`).
-/

namespace ExprLang

namespace Range

/-- The range that stands a number of bytes later. -/
def moveForward (k : Nat) (r : Range) : Range := ⟨r.offset + k, r.length⟩

/-- The range that stands a number of bytes earlier. -/
def moveBack (k : Nat) (r : Range) : Range := ⟨r.offset - k, r.length⟩

theorem moveBack_moveForward (k : Nat) (r : Range) : (r.moveForward k).moveBack k = r := by
  cases r
  simp [moveForward, moveBack]

theorem cover_moveForward (k : Nat) (r s : Range) :
    (r.moveForward k).cover (s.moveForward k) = (r.cover s).moveForward k := by
  simp only [cover, moveForward, stop, mk.injEq]
  omega

end Range

namespace Node

mutual

/-- The tree with all ranges changed. -/
def mapRanges (f : Range → Range) : Node → Node
  | constant r v => constant (f r) v
  | context r name => context (f r) name
  | property r object key => property (f r) (object.mapRanges f) (key.mapRanges f)
  | call r callee arguments => call (f r) (callee.mapRanges f) (mapRangesAll f arguments)
  | array r items => array (f r) (mapRangesAll f items)
  | regex r pattern flags => regex (f r) pattern flags
  | unary r op operand => unary (f r) op (operand.mapRanges f)
  | binary r op left right => binary (f r) op (left.mapRanges f) (right.mapRanges f)
  | ternary r condition consequent alternate =>
    ternary (f r) (condition.mapRanges f) (consequent.mapRanges f) (alternate.mapRanges f)

/-- The trees with all ranges changed. -/
def mapRangesAll (f : Range → Range) : List Node → List Node
  | [] => []
  | n :: nodes => n.mapRanges f :: mapRangesAll f nodes

end

variable {f g : Range → Range}

@[simp] theorem range_mapRanges (n : Node) : (n.mapRanges f).range = f n.range := by
  cases n <;> simp [mapRanges, range]

theorem mapRanges_withRange (n : Node) (r : Range) :
    (n.withRange r).mapRanges f = (n.mapRanges f).withRange (f r) := by
  cases n <;> simp [mapRanges, withRange]

mutual

/-- Two changes, one after the other. -/
theorem mapRanges_mapRanges : (n : Node) → (n.mapRanges f).mapRanges g = n.mapRanges (g ∘ f)
  | constant .. | context .. | regex .. => by simp [mapRanges]
  | property _ object key => by simp [mapRanges, mapRanges_mapRanges object, mapRanges_mapRanges key]
  | call _ callee arguments => by simp [mapRanges, mapRanges_mapRanges callee, mapRangesAll_mapRangesAll arguments]
  | array _ items => by simp [mapRanges, mapRangesAll_mapRangesAll items]
  | unary _ _ operand => by simp [mapRanges, mapRanges_mapRanges operand]
  | binary _ _ left right => by simp [mapRanges, mapRanges_mapRanges left, mapRanges_mapRanges right]
  | ternary _ condition consequent alternate => by
    simp [mapRanges, mapRanges_mapRanges condition, mapRanges_mapRanges consequent, mapRanges_mapRanges alternate]

theorem mapRangesAll_mapRangesAll :
    (nodes : List Node) → mapRangesAll g (mapRangesAll f nodes) = mapRangesAll (g ∘ f) nodes
  | [] => rfl
  | n :: nodes => by simp [mapRangesAll, mapRanges_mapRanges n, mapRangesAll_mapRangesAll nodes]

end

mutual

theorem mapRanges_id : (n : Node) → n.mapRanges id = n
  | constant .. | context .. | regex .. => by simp [mapRanges]
  | property _ object key => by simp [mapRanges, mapRanges_id object, mapRanges_id key]
  | call _ callee arguments => by simp [mapRanges, mapRanges_id callee, mapRangesAll_id arguments]
  | array _ items => by simp [mapRanges, mapRangesAll_id items]
  | unary _ _ operand => by simp [mapRanges, mapRanges_id operand]
  | binary _ _ left right => by simp [mapRanges, mapRanges_id left, mapRanges_id right]
  | ternary _ condition consequent alternate => by
    simp [mapRanges, mapRanges_id condition, mapRanges_id consequent, mapRanges_id alternate]

theorem mapRangesAll_id : (nodes : List Node) → mapRangesAll id nodes = nodes
  | [] => rfl
  | n :: nodes => by simp [mapRangesAll, mapRanges_id n, mapRangesAll_id nodes]

end

/-- Moving a tree forward can be undone. -/
theorem eq_mapRanges_moveBack {k : Nat} {m n : Node} (h : n = m.mapRanges (Range.moveForward k)) :
    m = n.mapRanges (Range.moveBack k) := by
  have hid : Range.moveBack k ∘ Range.moveForward k = id := funext (Range.moveBack_moveForward k)
  rw [h, mapRanges_mapRanges, hid, mapRanges_id]

/-- The tree without its ranges. -/
def unranged (n : Node) : Node := n.mapRanges fun _ => ⟨0, 0⟩

end Node

end ExprLang
