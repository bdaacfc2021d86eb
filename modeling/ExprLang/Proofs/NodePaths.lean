import ExprLang.Node.Basic
import Mathlib

/-!
# Paths in expression trees

* `Node.Path n k m`: `k` edges lead from `n` down to `m`.
* The height of a node is the length of the longest path from it (`Node.height_le_iff`).
* The walk of a node goes exactly to the nodes that paths reach (`Node.mem_walk_iff`).
-/

namespace ExprLang.Node

/-- The operands of a node. -/
def children : Node → List Node
  | constant .. | context .. | regex .. => []
  | property _ object key => [object, key]
  | call _ callee arguments => callee :: arguments
  | array _ items => items
  | unary _ _ operand => [operand]
  | binary _ _ left right => [left, right]
  | ternary _ condition consequent alternate => [condition, consequent, alternate]

theorem children_withRange (n : Node) (r : Range) : (n.withRange r).children = n.children := by
  cases n <;> rfl

/-- A number of edges leads from a node down to another one. -/
inductive Path : Node → Nat → Node → Prop where
  | refl (n : Node) : Path n 0 n
  | cons {n c m : Node} {k : Nat} (hc : c ∈ n.children) (h : Path c k m) : Path n (k + 1) m

mutual

/-- The number of edges of the longest path down from a node. -/
def height : Node → Nat
  | constant .. | context .. | regex .. => 0
  | property _ object key => max (1 + object.height) (1 + key.height)
  | call _ callee arguments => max (1 + callee.height) (heightOver arguments)
  | array _ items => heightOver items
  | unary _ _ operand => 1 + operand.height
  | binary _ _ left right => max (1 + left.height) (1 + right.height)
  | ternary _ condition consequent alternate =>
    max (1 + condition.height) (max (1 + consequent.height) (1 + alternate.height))

/-- The height of a node over others. -/
def heightOver : List Node → Nat
  | [] => 0
  | n :: nodes => max (1 + n.height) (heightOver nodes)

end

theorem height_eq (n : Node) : n.height = heightOver n.children := by
  cases n <;> simp [height, children, heightOver]

theorem height_withRange (n : Node) (r : Range) : (n.withRange r).height = n.height := by
  cases n <;> simp [withRange, height]

theorem height_lt_heightOver {c : Node} {nodes : List Node} (h : c ∈ nodes) : c.height < heightOver nodes := by
  induction nodes with
  | nil => cases h
  | cons n nodes ih =>
    rw [heightOver]
    rcases List.mem_cons.1 h with rfl | h
    · omega
    · have := ih h
      omega

theorem exists_heightOver {nodes : List Node} (h : nodes ≠ []) : ∃ c ∈ nodes, heightOver nodes = c.height + 1 := by
  induction nodes with
  | nil => exact absurd rfl h
  | cons n nodes ih =>
    rw [heightOver]
    cases nodes with
    | nil => exact ⟨n, by simp, by simp only [heightOver]; omega⟩
    | cons n' nodes =>
      obtain ⟨c, hc, he⟩ := ih (by simp)
      rcases Nat.le_total (1 + n.height) (heightOver (n' :: nodes)) with hle | hle
      · exact ⟨c, List.mem_cons_of_mem _ hc, by omega⟩
      · exact ⟨n, List.mem_cons_self .., by omega⟩

theorem Path.le_height {n m : Node} {k : Nat} (h : n.Path k m) : k ≤ n.height := by
  induction h with
  | refl n => exact Nat.zero_le _
  | @cons n c m k hc h ih =>
    have := height_lt_heightOver hc
    rw [height_eq]
    omega

/-- Some path is as long as the node is high. -/
theorem exists_path_height (n : Node) : ∃ m, n.Path n.height m := by
  induction hk : n.height generalizing n with
  | zero => exact ⟨n, .refl n⟩
  | succ k ih =>
    have hne : n.children ≠ [] := by
      intro h
      rw [height_eq, h, heightOver] at hk
      cases hk
    obtain ⟨c, hc, he⟩ := exists_heightOver hne
    obtain ⟨m, hm⟩ := ih c (by rw [height_eq] at hk; omega)
    exact ⟨m, .cons hc hm⟩

/-- The height bounds all paths, and nothing less does. -/
theorem height_le_iff {n : Node} {b : Nat} : n.height ≤ b ↔ ∀ k m, n.Path k m → k ≤ b := by
  constructor
  · exact fun h k m hp => Nat.le_trans hp.le_height h
  · intro h
    obtain ⟨m, hm⟩ := n.exists_path_height
    exact h _ m hm

/-! ### Walks -/

theorem mem_walkAll {m : Node} {nodes : List Node} : m ∈ walkAll nodes ↔ ∃ n ∈ nodes, m ∈ n.walk := by
  induction nodes with
  | nil => simp [walkAll]
  | cons n nodes ih => simp [walkAll, ih]

theorem walk_eq (n : Node) : n.walk = n :: walkAll n.children := by
  cases n <;> simp [walk, children, walkAll]

theorem mem_walk_of_path {n m : Node} {k : Nat} (h : n.Path k m) : m ∈ n.walk := by
  induction h with
  | refl n => simp [walk_eq]
  | cons hc _ ih =>
    rw [walk_eq]
    exact List.mem_cons_of_mem _ (mem_walkAll.2 ⟨_, hc, ih⟩)

/-- A walk visits exactly the nodes that paths lead to. -/
theorem mem_walk_iff {n m : Node} : m ∈ n.walk ↔ ∃ k, n.Path k m := by
  refine ⟨fun h => ?_, fun ⟨k, hk⟩ => mem_walk_of_path hk⟩
  induction hb : n.height using Nat.strongRecOn generalizing n with
  | ind b ih =>
    rw [walk_eq, List.mem_cons, mem_walkAll] at h
    rcases h with rfl | ⟨c, hc, hm⟩
    · exact ⟨0, .refl m⟩
    · have hlt := height_lt_heightOver hc
      rw [← height_eq, hb] at hlt
      obtain ⟨k, hk⟩ := ih c.height hlt hm rfl
      exact ⟨k + 1, .cons hc hk⟩

end ExprLang.Node
