import ExprLang.Proofs.NodePaths

/-!
# Positions in expression trees

A position is the way from the root of a tree down to one of its nodes: the nodes that are passed, each without the
operand in which the way goes on.

* `Position.plug` puts a node at a position; whatever stood there before is not part of the position.
* The nodes of the walk of a tree are exactly those that stand at its positions (`Node.mem_walk_iff_plug`).
-/

namespace ExprLang

/-- A node that lacks one operand. -/
inductive Frame where
  | object (range : Range) (key : Node)
  | key (range : Range) (object : Node)
  | callee (range : Range) (arguments : List Node)
  | argument (range : Range) (callee : Node) (before after : List Node)
  | item (range : Range) (before after : List Node)
  | operand (range : Range) (op : UnaryOp)
  | left (range : Range) (op : BinaryOp) (right : Node)
  | right (range : Range) (op : BinaryOp) (left : Node)
  | condition (range : Range) (consequent alternate : Node)
  | consequent (range : Range) (condition alternate : Node)
  | alternate (range : Range) (condition consequent : Node)

namespace Frame

/-- The node with the operand that was lacking. -/
def fill : Frame → Node → Node
  | object r k, n => .property r n k
  | key r o, n => .property r o n
  | callee r args, n => .call r n args
  | argument r f before after, n => .call r f (before ++ n :: after)
  | item r before after, n => .array r (before ++ n :: after)
  | operand r op, n => .unary r op n
  | left r op b, n => .binary r op n b
  | right r op a, n => .binary r op a n
  | condition r a b, n => .ternary r n a b
  | consequent r c b, n => .ternary r c n b
  | alternate r c a, n => .ternary r c a n

/-- The range of a node does not depend on its operands. -/
theorem range_fill (f : Frame) (n n' : Node) : (f.fill n).range = (f.fill n').range := by
  cases f <;> rfl

theorem mem_children_fill (f : Frame) (n : Node) : n ∈ (f.fill n).children := by
  cases f <;> simp [fill, Node.children]

/-- Every operand can be taken out. -/
theorem exists_fill {n c : Node} (h : c ∈ n.children) : ∃ f : Frame, f.fill c = n := by
  cases n with
  | constant | context | regex => simp [Node.children] at h
  | property r object key =>
    simp only [Node.children, List.mem_cons, List.not_mem_nil, or_false] at h
    rcases h with rfl | rfl
    · exact ⟨.object r key, rfl⟩
    · exact ⟨.key r object, rfl⟩
  | call r callee arguments =>
    rcases List.mem_cons.1 h with rfl | h
    · exact ⟨.callee r arguments, rfl⟩
    · obtain ⟨before, after, rfl⟩ := List.mem_iff_append.1 h
      exact ⟨.argument r callee before after, rfl⟩
  | array r items =>
    obtain ⟨before, after, rfl⟩ := List.mem_iff_append.1 h
    exact ⟨.item r before after, rfl⟩
  | unary r op operand =>
    obtain rfl := List.mem_singleton.1 h
    exact ⟨.operand r op, rfl⟩
  | binary r op left right =>
    simp only [Node.children, List.mem_cons, List.not_mem_nil, or_false] at h
    rcases h with rfl | rfl
    · exact ⟨.left r op right, rfl⟩
    · exact ⟨.right r op left, rfl⟩
  | ternary r condition consequent alternate =>
    simp only [Node.children, List.mem_cons, List.not_mem_nil, or_false] at h
    rcases h with rfl | rfl | rfl
    · exact ⟨.condition r consequent alternate, rfl⟩
    · exact ⟨.consequent r condition alternate, rfl⟩
    · exact ⟨.alternate r condition consequent, rfl⟩

end Frame

/-- A position in a tree, from the root down. -/
abbrev Position := List Frame

/-- The tree with a node at a position. -/
def Position.plug : Position → Node → Node
  | [], n => n
  | f :: p, n => f.fill (plug p n)

theorem Position.plug_append (p q : Position) (n : Node) : plug (p ++ q) n = p.plug (q.plug n) := by
  induction p with
  | nil => rfl
  | cons f p ih => rw [List.cons_append, plug, ih, plug]

namespace Node

theorem path_plug (p : Position) (m : Node) : (p.plug m).Path p.length m := by
  induction p with
  | nil => exact .refl m
  | cons f p ih => exact .cons (f.mem_children_fill _) ih

theorem Path.exists_plug {n m : Node} {k : Nat} (h : n.Path k m) : ∃ p : Position, p.plug m = n := by
  induction h with
  | refl n => exact ⟨[], rfl⟩
  | cons hc h ih =>
    obtain ⟨p, rfl⟩ := ih
    obtain ⟨f, rfl⟩ := Frame.exists_fill hc
    exact ⟨f :: p, rfl⟩

/-- The walk of a tree goes to its positions. -/
theorem mem_walk_iff_plug {n m : Node} : m ∈ n.walk ↔ ∃ p : Position, p.plug m = n := by
  rw [mem_walk_iff]
  constructor
  · rintro ⟨k, h⟩
    exact h.exists_plug
  · rintro ⟨p, rfl⟩
    exact ⟨p.length, path_plug p m⟩

theorem walk_subset {n m : Node} (h : m ∈ n.walk) : m.walk ⊆ n.walk := by
  intro k hk
  obtain ⟨p, rfl⟩ := mem_walk_iff_plug.1 h
  obtain ⟨q, rfl⟩ := mem_walk_iff_plug.1 hk
  exact mem_walk_iff_plug.2 ⟨p ++ q, Position.plug_append p q k⟩

end Node

end ExprLang
