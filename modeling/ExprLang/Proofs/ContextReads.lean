import ExprLang.Expression
import ExprLang.Proofs.SortedInsertion
import Mathlib

/-!
# What an expression reads from its context

* The names of a node are those of the context nodes in its walk (`Node.mem_names`).
* Surroundings that agree on what a walk reads, its names above all, cannot be told apart by evaluating the tree
  (`Node.eval_congr`): the walk reaches every operand that an evaluation may reach.
* So an expression depends on its names only: not on other names, nor on the order in which names were set, nor on
  whether an undefined name is bound.
-/

namespace ExprLang

/-- Two contexts give the same value to every name that the nodes read. -/
def Context.AgreeOn (c d : Context) (nodes : List Node) : Prop :=
  ∀ n ∈ nodes, ∀ name, n.contextName? = some name → c.get name = d.get name

namespace Context

variable {c d : Context} {name : String}

theorem AgreeOn.subset {nodes nodes' : List Node} (h : c.AgreeOn d nodes) (hsub : nodes' ⊆ nodes) :
    c.AgreeOn d nodes' :=
  fun n hn => h n (hsub hn)

theorem get_set {x : String} {v : Value} : (c.set x v).get name = if name = x then v else c.get name := by
  unfold get get? set
  rw [Entries.lookup_insert]
  split <;> rfl

theorem get_remove_of_ne {x : String} (h : name ≠ x) : (c.remove x).get name = c.get name := by
  unfold get get? remove
  rw [Entries.lookup_erase c.nodup, if_neg h]

theorem get_of_has_eq_false (h : c.has name = false) : c.get name = .undefined := by
  unfold has at h
  unfold get
  cases hg : c.get? name with
  | none => rfl
  | some v => simp [hg] at h

theorem get?_eq_some_iff {v : Value} : c.get? name = some v ↔ (name, v) ∈ c.entries := by
  constructor
  · intro h
    unfold get? at h
    rw [List.lookup_eq_some_iff] at h
    obtain ⟨before, after, he, -⟩ := h
    simp [he]
  · exact Entries.lookup_of_mem c.nodup

/-- The order of the entries does not matter. -/
theorem get_of_perm (h : c.entries.Perm d.entries) : c.get name = d.get name := by
  have key : c.get? name = d.get? name := by
    apply Option.ext
    intro v
    rw [get?_eq_some_iff, get?_eq_some_iff]
    exact h.mem_iff
  unfold get
  rw [key]

end Context

/-! ### The names of a node -/

namespace Node

theorem mem_names {n : Node} {x : String} : x ∈ n.names ↔ ∃ m ∈ n.walk, m.contextName? = some x := by
  have key (names : List String) : x ∈ names.foldr insertName [] ↔ x ∈ names := by
    induction names with
    | nil => simp
    | cons name names ih => simp [mem_insertName, ih]
  unfold names
  rw [key, List.mem_filterMap]

/-! ### Evaluations in two surroundings -/

end Node

/-- Two surroundings have the same source text and host, give the same value to every name that the nodes read, and
make regular expressions alike if there is one among the nodes. -/
structure Surroundings.AgreeOn (s s' : Surroundings) (nodes : List Node) : Prop where
  context : s.context.AgreeOn s'.context nodes
  source : s.source = s'.source
  host : s.host = s'.host
  regex : ∀ r pattern flags, .regex r pattern flags ∈ nodes → s.regex = s'.regex

theorem Surroundings.AgreeOn.subset {s s' : Surroundings} {nodes nodes' : List Node} (h : s.AgreeOn s' nodes)
    (hsub : nodes' ⊆ nodes) : s.AgreeOn s' nodes' :=
  ⟨h.context.subset hsub, h.source, h.host, fun r pattern flags hm => h.regex r pattern flags (hsub hm)⟩

namespace Node

section
variable {s s' : Surroundings}

mutual

/-- Evaluations of a node cannot tell surroundings apart that agree on its walk. -/
theorem eval_congr (n : Node) (h : s.AgreeOn s' n.walk) : n.eval s = n.eval s' := by
  cases n with
  | constant r v => simp only [eval]
  | context r name =>
    have hname : s.context.get name = s'.context.get name := h.context (.context r name) (by simp [walk]) name rfl
    simp only [eval, hname]
  | property r object key =>
    have ho := eval_congr object (h.subset (by simp [walk]))
    have hk := eval_congr key (h.subset (by simp [walk]))
    simp only [eval, ho, hk]
  | call r callee arguments =>
    have hc := eval_congr callee (h.subset (by simp [walk]))
    have ha := evalAll_congr arguments (h.subset (by simp [walk]))
    simp only [eval, hc, ha, h.source, h.host]
  | array r items =>
    have hi := evalAll_congr items (h.subset (by simp [walk]))
    simp only [eval, hi]
  | regex r pattern flags =>
    have hr := h.regex r pattern flags (by simp [walk])
    simp only [eval, hr]
  | unary r op operand =>
    have ho := eval_congr operand (h.subset (by simp [walk]))
    simp only [eval, ho]
  | binary r op left right =>
    have hl := eval_congr left (h.subset (by simp [walk]))
    have hr := eval_congr right (h.subset (by simp [walk]))
    simp only [eval, hl, hr]
  | ternary r condition consequent alternate =>
    have hc := eval_congr condition (h.subset (by simp [walk]))
    have ha := eval_congr consequent (h.subset fun m hm => by simp [walk, hm])
    have hb := eval_congr alternate (h.subset fun m hm => by simp [walk, hm])
    simp only [eval, hc, ha, hb]

theorem evalAll_congr (nodes : List Node) (h : s.AgreeOn s' (walkAll nodes)) : evalAll s nodes = evalAll s' nodes := by
  cases nodes with
  | nil => simp only [evalAll]
  | cons n nodes =>
    have hn := eval_congr n (h.subset (by simp [walkAll]))
    have hns := evalAll_congr nodes (h.subset (by simp [walkAll]))
    simp only [evalAll, hn, hns]

end

end

end Node

namespace Expression

/-- Contexts that agree on the names of an expression give the same outcome and the same calls of the host. -/
theorem outcome_congr (e : Expression) (host : Host) {c d : Context} (h : ∀ x ∈ e.names, c.get x = d.get x)
    (l : Ledger) : (e.eval host c).outcome l = (e.eval host d).outcome l := by
  have hagree : c.AgreeOn d e.root.walk := fun n hn name hname => h name (Node.mem_names.2 ⟨n, hn, hname⟩)
  have key : e.root.eval ⟨c, e.source, e.regex, host⟩ = e.root.eval ⟨d, e.source, e.regex, host⟩ :=
    Node.eval_congr e.root ⟨hagree, rfl, rfl, fun _ _ _ _ => rfl⟩
  unfold eval
  rw [key]

/-- The names of an expression are all that its evaluation depends on in a context.  Setting or removing another
name, setting the names in another order and binding a name that is not bound to undefined change neither the result
nor the calls of the host. -/
theorem outcome_depends_on_names (e : Expression) (host : Host) (l : Ledger) :
    (∀ c d : Context, (∀ x ∈ e.names, c.get x = d.get x) → (e.eval host c).outcome l = (e.eval host d).outcome l) ∧
    (∀ (c : Context) (x : String), x ∉ e.names →
      (∀ v, (e.eval host (c.set x v)).outcome l = (e.eval host c).outcome l) ∧
      (e.eval host (c.remove x)).outcome l = (e.eval host c).outcome l) ∧
    (∀ c d : Context, c.entries.Perm d.entries → (e.eval host c).outcome l = (e.eval host d).outcome l) ∧
    ∀ (c : Context) (x : String), c.has x = false →
      (e.eval host (c.set x .undefined)).outcome l = (e.eval host c).outcome l := by
  refine ⟨fun c d h => e.outcome_congr host h l, fun c x hx => ?_, fun c d h => ?_, fun c x hx => ?_⟩
  · have hne {y : String} (hy : y ∈ e.names) : y ≠ x := fun h => hx (h ▸ hy)
    refine ⟨fun v => e.outcome_congr host (fun y hy => ?_) l, e.outcome_congr host (fun y hy => ?_) l⟩
    · rw [Context.get_set, if_neg (hne hy)]
    · exact Context.get_remove_of_ne (hne hy)
  · exact e.outcome_congr host (fun y _ => Context.get_of_perm h) l
  · refine e.outcome_congr host (fun y _ => ?_) l
    rw [Context.get_set]
    split
    · rename_i h
      rw [h, Context.get_of_has_eq_false hx]
    · rfl

end Expression

end ExprLang
