import ExprLang.Proofs.Outcomes
import ExprLang.Proofs.Positions

/-!
# What an evaluation reaches

A position of a tree is live if the evaluation of the tree comes to it: all operands before it have succeeded, and no
operator on the way has been decided without it.

* A failure at a live position is the failure of the whole tree (`Position.Live.plug_fails`).
* What stands at a position that is not live has no influence (`Position.plug_congr`).

Both follow from the same two facts about a single node (`Frame.Reaches.fill_fails`, `Frame.fill_congr`), and make up
`Node.eval_at_position`.  Operands are evaluated in their turn, from the ledger that those before them leave behind,
so nothing is assumed of the functions of the host.
-/

namespace ExprLang

/-- Whether an operator evaluates its right operand after the left one has this value. -/
def BinaryOp.needsRight (op : BinaryOp) (left : Value) : Bool :=
  match op with
  | and => left.truthy
  | or => !left.truthy
  | _ => true

/-- The evaluation of a node from one ledger comes to the operand that a frame lacks with another ledger. -/
inductive Frame.Reaches (s : Surroundings) : Frame → Ledger → Ledger → Prop where
  | object {r : Range} {key : Node} {l : Ledger} : Reaches s (.object r key) l l
  | key {r : Range} {object : Node} {v : Value} {l l' : Ledger} (h : (object.eval s).outcome l = (.ok v, l')) :
      Reaches s (.key r object) l l'
  | callee {r : Range} {arguments : List Node} {l : Ledger} : Reaches s (.callee r arguments) l l
  | argument {r : Range} {callee : Node} {before after : List Node} {v : Value} {vs : List Value} {l l₁ l' : Ledger}
      (hc : (callee.eval s).outcome l = (.ok v, l₁)) (hb : (evalAll s before).outcome l₁ = (.ok vs, l')) :
      Reaches s (.argument r callee before after) l l'
  | item {r : Range} {before after : List Node} {vs : List Value} {l l' : Ledger}
      (hb : (evalAll s before).outcome l = (.ok vs, l')) : Reaches s (.item r before after) l l'
  | operand {r : Range} {op : UnaryOp} {l : Ledger} : Reaches s (.operand r op) l l
  | left {r : Range} {op : BinaryOp} {right : Node} {l : Ledger} : Reaches s (.left r op right) l l
  | right {r : Range} {op : BinaryOp} {left : Node} {v : Value} {l l' : Ledger}
      (h : (left.eval s).outcome l = (.ok v, l')) (hv : op.needsRight v = true) : Reaches s (.right r op left) l l'
  | condition {r : Range} {consequent alternate : Node} {l : Ledger} :
      Reaches s (.condition r consequent alternate) l l
  | consequent {r : Range} {condition alternate : Node} {v : Value} {l l' : Ledger}
      (h : (condition.eval s).outcome l = (.ok v, l')) (hv : v.truthy = true) :
      Reaches s (.consequent r condition alternate) l l'
  | alternate {r : Range} {condition consequent : Node} {v : Value} {l l' : Ledger}
      (h : (condition.eval s).outcome l = (.ok v, l')) (hv : v.truthy = false) :
      Reaches s (.alternate r condition consequent) l l'

/-- The evaluation of a tree from one ledger comes to a position with another ledger. -/
inductive Position.Live (s : Surroundings) : Position → Ledger → Ledger → Prop where
  | here {l : Ledger} : Live s [] l l
  | through {f : Frame} {p : Position} {l l₁ l' : Ledger} (hf : f.Reaches s l l₁) (hp : Live s p l₁ l') :
      Live s (f :: p) l l'

variable {s : Surroundings} {l l' l'' : Ledger} {e : EvalError} {n n' : Node}

/-! ### Operators between operands -/

namespace BinaryOp

variable {op : BinaryOp} {v : Value} {right right' : Eval Value}

theorem apply_fails (hv : op.needsRight v = true) (h : right.outcome l = (.error e, l')) :
    (op.apply v right).outcome l = (.error e, l') := by
  by_cases hand : op = .and
  · subst hand
    have ht : v.truthy = true := hv
    rw [apply, if_pos ht]
    exact h
  by_cases hor : op = .or
  · subst hor
    have ht : v.truthy = false := by simpa [needsRight] using hv
    rw [apply, if_neg (by simp [ht])]
    exact h
  obtain ⟨f, -, hf⟩ := exists_apply_eq_bind hand hor v
  rw [hf]
  exact Eval.outcome_bind_error h

theorem apply_congr (h : op.needsRight v = true → right.outcome l = right'.outcome l) :
    (op.apply v right).outcome l = (op.apply v right').outcome l := by
  by_cases hand : op = .and
  · subst hand
    by_cases ht : v.truthy
    · rw [apply, apply, if_pos ht, if_pos ht]
      exact h ht
    · rw [apply, apply, if_neg ht, if_neg ht]
  by_cases hor : op = .or
  · subst hor
    by_cases ht : v.truthy
    · rw [apply, apply, if_pos ht, if_pos ht]
    · rw [apply, apply, if_neg ht, if_neg ht]
      exact h (by simpa [needsRight] using ht)
  obtain ⟨f, -, hf⟩ := exists_apply_eq_bind hand hor v
  have hright : right.outcome l = right'.outcome l := h (by cases op <;> first | rfl | contradiction)
  rw [hf, hf, Eval.outcome_bind, Eval.outcome_bind, hright]

end BinaryOp

/-! ### Lists of operands -/

section
variable {before : List Node}

theorem evalAll_fails {vs : List Value} (hb : (evalAll s before).outcome l = (.ok vs, l'))
    (hn : (n.eval s).outcome l' = (.error e, l'')) (after : List Node) :
    (evalAll s (before ++ n :: after)).outcome l = (.error e, l'') := by
  induction before generalizing l vs with
  | nil =>
    cases hb
    exact Eval.outcome_bind_error hn
  | cons m before ih =>
    rw [evalAll, Eval.outcome_bind_eq_ok_iff] at hb
    obtain ⟨v, l₁, hm, hb⟩ := hb
    rw [Eval.outcome_bind_eq_ok_iff] at hb
    obtain ⟨ws, l₂, hws, hb⟩ := hb
    cases hb
    rw [List.cons_append, evalAll, Eval.outcome_bind_ok hm]
    exact Eval.outcome_bind_error (ih hws)

theorem evalAll_congr_at (after : List Node) (h : ∀ vs l', (evalAll s before).outcome l = (.ok vs, l') →
    (n.eval s).outcome l' = (n'.eval s).outcome l') :
    (evalAll s (before ++ n :: after)).outcome l = (evalAll s (before ++ n' :: after)).outcome l := by
  induction before generalizing l with
  | nil =>
    have hn : (n.eval s).outcome l = (n'.eval s).outcome l := h [] l rfl
    simp only [List.nil_append, evalAll, Eval.outcome_bind, hn]
  | cons m before ih =>
    simp only [List.cons_append, evalAll]
    refine Eval.outcome_bind_congr fun v l₁ hm => ?_
    have hrest := ih (l := l₁) fun vs l' hvs => h (v :: vs) l' (by
      rw [evalAll, Eval.outcome_bind_ok hm, Eval.outcome_bind_ok hvs]
      rfl)
    rw [Eval.outcome_bind, Eval.outcome_bind, hrest]

end

/-! ### One node -/

namespace Frame

/-- A failure of an operand that is reached is the failure of the node. -/
theorem Reaches.fill_fails {f : Frame} (h : f.Reaches s l l') (hn : (n.eval s).outcome l' = (.error e, l'')) :
    ((f.fill n).eval s).outcome l = (.error e, l'') := by
  cases h with
  | object | callee | operand | left | condition =>
    rw [fill, Node.eval]
    exact Eval.outcome_bind_error hn
  | key h =>
    rw [fill, Node.eval, Eval.outcome_bind_ok h]
    exact Eval.outcome_bind_error hn
  | argument hc hb =>
    rw [fill, Node.eval, Eval.outcome_bind_ok hc]
    exact Eval.outcome_bind_error (evalAll_fails hb hn _)
  | item hb =>
    rw [fill, Node.eval]
    exact Eval.outcome_bind_error (evalAll_fails hb hn _)
  | right h hv =>
    rw [fill, Node.eval, Eval.outcome_bind_ok h]
    exact BinaryOp.apply_fails hv hn
  | consequent h hv =>
    rw [fill, Node.eval, Eval.outcome_bind_ok h, if_pos hv]
    exact hn
  | alternate h hv =>
    rw [fill, Node.eval, Eval.outcome_bind_ok h, if_neg (by simp [hv])]
    exact hn

/-- Operands that cannot be told apart when they are reached make nodes that cannot be told apart.  The range of a
callee counts as well, because its source is named if it is no function. -/
theorem fill_congr {f : Frame} (h : ∀ l', f.Reaches s l l' →
    n.range = n'.range ∧ (n.eval s).outcome l' = (n'.eval s).outcome l') :
    ((f.fill n).eval s).outcome l = ((f.fill n').eval s).outcome l := by
  cases f with
  | object | operand | left | condition =>
    have hn := (h l (by constructor)).2
    simp only [fill, Node.eval, Eval.outcome_bind, hn]
  | callee r arguments =>
    obtain ⟨hr, hn⟩ := h l .callee
    simp only [fill, Node.eval, Eval.outcome_bind, hn, hr]
  | key r object =>
    simp only [fill, Node.eval]
    refine Eval.outcome_bind_congr fun v l' hv => ?_
    have hn := (h l' (.key hv)).2
    rw [Eval.outcome_bind, Eval.outcome_bind, hn]
  | argument r callee before after =>
    simp only [fill, Node.eval]
    refine Eval.outcome_bind_congr fun v l₁ hv => ?_
    have hall := evalAll_congr_at after fun vs l' hvs => (h l' (.argument hv hvs)).2
    rw [Eval.outcome_bind, Eval.outcome_bind, hall]
  | item r before after =>
    simp only [fill, Node.eval]
    have hall := evalAll_congr_at after fun vs l' hvs => (h l' (.item hvs)).2
    rw [Eval.outcome_bind, Eval.outcome_bind, hall]
  | right r op left =>
    simp only [fill, Node.eval]
    refine Eval.outcome_bind_congr fun v l' hv => ?_
    exact BinaryOp.apply_congr fun hneeds => (h l' (.right hv hneeds)).2
  | consequent r condition alternate =>
    simp only [fill, Node.eval]
    refine Eval.outcome_bind_congr fun v l' hv => ?_
    by_cases ht : v.truthy
    · rw [if_pos ht, if_pos ht]
      exact (h l' (.consequent hv ht)).2
    · rw [if_neg ht, if_neg ht]
  | alternate r condition consequent =>
    simp only [fill, Node.eval]
    refine Eval.outcome_bind_congr fun v l' hv => ?_
    by_cases ht : v.truthy
    · rw [if_pos ht, if_pos ht]
    · rw [if_neg ht, if_neg ht]
      exact (h l' (.alternate hv (by simpa using ht))).2

end Frame

/-! ### Whole trees -/

namespace Position

variable {p : Position}

/-- A failure at a live position is the failure of the tree. -/
theorem Live.plug_fails (h : Live s p l l') (hn : (n.eval s).outcome l' = (.error e, l'')) :
    ((p.plug n).eval s).outcome l = (.error e, l'') := by
  induction h with
  | here => exact hn
  | through hf _ ih => exact hf.fill_fails (ih hn)

/-- What stands at a position that is not live has no influence. -/
theorem plug_congr (h : ¬ ∃ l', Live s p l l') :
    ((p.plug n).eval s).outcome l = ((p.plug n').eval s).outcome l := by
  induction p generalizing l with
  | nil => exact absurd ⟨l, .here⟩ h
  | cons f p ih =>
    refine Frame.fill_congr fun l₁ hf => ?_
    have hp : ¬ ∃ l', Live s p l₁ l' := fun ⟨l', hp⟩ => h ⟨l', .through hf hp⟩
    cases p with
    | nil => exact absurd ⟨l₁, .here⟩ hp
    | cons g p => exact ⟨g.range_fill _ _, ih hp⟩

end Position

/-- Every node of a tree stands at a position.  If the position is live, a failure there is the failure of the tree,
and nothing is evaluated after it.  If it is not live, any other node may stand there: the result of the tree, its
failure and the calls of the host are the same. -/
theorem Node.eval_at_position (s : Surroundings) (l : Ledger) (tree : Node) :
    (∀ n ∈ tree.walk, ∃ p : Position, p.plug n = tree) ∧
    ∀ (p : Position) (n : Node), p.plug n = tree →
      (∀ l' e l'', Position.Live s p l l' → (n.eval s).outcome l' = (.error e, l'') →
        (tree.eval s).outcome l = (.error e, l'')) ∧
      ((¬ ∃ l', Position.Live s p l l') → ∀ n', ((p.plug n').eval s).outcome l = (tree.eval s).outcome l) := by
  refine ⟨fun n hn => Node.mem_walk_iff_plug.1 hn, ?_⟩
  rintro p n rfl
  exact ⟨fun l' e l'' hp hn => hp.plug_fails hn, fun hp n' => Position.plug_congr hp⟩

end ExprLang
