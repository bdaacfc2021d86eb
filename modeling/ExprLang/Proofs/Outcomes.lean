import ExprLang.Eval.Node

/-!
# Outcomes of evaluations

The outcome of two evaluations, one after the other: a failure of the first is that of both, and a success of the
first hands its value and its ledger on (`Eval.outcome_bind_error`, `Eval.outcome_bind_ok`).  So a property that the first
ensures of its value is what the second may assume (`Eval.Ensures.bind`).  All operators but `&&` and `||` evaluate their
right operand and compute a primitive value (`BinaryOp.exists_apply_eq_bind`).
-/

namespace ExprLang

namespace Eval

variable {α β : Type} {x : Eval α} {f g : α → Eval β} {l l' : Ledger} {a : α} {e : EvalError}

theorem outcome_bind (x : Eval α) (f : α → Eval β) (l : Ledger) :
    (x >>= f).outcome l =
      match x.outcome l with
      | (.ok a, l') => (f a).outcome l'
      | (.error e, l') => (.error e, l') := by
  show (ExceptT.bindCont f (x.outcome l).1).run (x.outcome l).2 = _
  rcases x.outcome l with ⟨e | a, l'⟩ <;> rfl

theorem outcome_bind_ok (h : x.outcome l = (.ok a, l')) : (x >>= f).outcome l = (f a).outcome l' := by
  rw [outcome_bind, h]

theorem outcome_bind_error (h : x.outcome l = (.error e, l')) : (x >>= f).outcome l = (.error e, l') := by
  rw [outcome_bind, h]

theorem outcome_bind_eq_ok_iff {b : β} {l'' : Ledger} :
    (x >>= f).outcome l = (.ok b, l'') ↔ ∃ a l', x.outcome l = (.ok a, l') ∧ (f a).outcome l' = (.ok b, l'') := by
  rw [outcome_bind]
  rcases x.outcome l with ⟨e | a, l'⟩
  · simp
  · constructor
    · exact fun h => ⟨a, l', rfl, h⟩
    · rintro ⟨a, l', h, hb⟩
      cases h
      exact hb

/-- What follows an evaluation matters only if that succeeds. -/
theorem outcome_bind_congr (h : ∀ a l', x.outcome l = (.ok a, l') → (f a).outcome l' = (g a).outcome l') :
    (x >>= f).outcome l = (x >>= g).outcome l := by
  rw [outcome_bind, outcome_bind]
  rcases hx : x.outcome l with ⟨e | a, l'⟩
  · rfl
  · exact h a l' hx

/-! ### What an evaluation ensures -/

section
variable {good mid : α → Prop} {good' : β → Prop} {goodValue : Value → Prop} {bad bad' : EvalError → Prop}

/-- An evaluation calls no function of the host, its values are good and its failures bad. -/
def Ensures (x : Eval α) (good : α → Prop) (bad : EvalError → Prop) : Prop :=
  ∀ l r l', x.outcome l = (r, l') →
    l'.calls = l.calls ∧ (∀ a, r = .ok a → good a) ∧ ∀ e, r = .error e → bad e

theorem ensures_pure (h : good a) : (pure a : Eval α).Ensures good bad := by
  intro l r l' ho
  cases ho
  refine ⟨rfl, fun b hb => ?_, fun e he => ?_⟩
  · cases hb
    exact h
  · cases he

theorem ensures_throw (h : bad e) : (throw e : Eval α).Ensures good bad := by
  intro l r l' ho
  cases ho
  refine ⟨rfl, fun b hb => ?_, fun e he => ?_⟩
  · cases hb
  · cases he
    exact h

theorem Ensures.bind (hx : x.Ensures mid bad) (hf : ∀ a, mid a → (f a).Ensures good' bad) :
    (x >>= f).Ensures good' bad := by
  intro l r l' ho
  rcases hr : x.outcome l with ⟨e | a, l₁⟩
  · rw [outcome_bind_error hr] at ho
    cases ho
    obtain ⟨hcalls, -, hbad⟩ := hx l _ _ hr
    refine ⟨hcalls, fun b hb => ?_, fun e' he => ?_⟩
    · cases hb
    · cases he
      exact hbad _ rfl
  · rw [outcome_bind_ok hr] at ho
    obtain ⟨hcalls, hgood, -⟩ := hx l _ _ hr
    obtain ⟨hcalls', hrest⟩ := hf a (hgood a rfl) l₁ r l' ho
    exact ⟨hcalls'.trans hcalls, hrest⟩

theorem Ensures.mono (h : x.Ensures good bad) (hb : ∀ e, bad e → bad' e) : x.Ensures good bad' := by
  intro l r l' ho
  obtain ⟨hcalls, hgood, hfails⟩ := h l r l' ho
  exact ⟨hcalls, hgood, fun e he => hb e (hfails e he)⟩

theorem ensures_freshId : freshId.Ensures (fun _ => True) bad := by
  intro l r l' ho
  cases ho
  refine ⟨rfl, fun _ _ => trivial, fun e he => ?_⟩
  cases he

theorem ensures_newArray {items : List Value} (h : ∀ id, goodValue (.array id items)) :
    (newArray items).Ensures goodValue bad :=
  ensures_freshId.bind fun id _ => ensures_pure (h id)

theorem ensures_newFunction {code : Callable} {receiver : Option Value}
    (h : ∀ id, goodValue (.function id code receiver)) : (newFunction code receiver).Ensures goodValue bad :=
  ensures_freshId.bind fun id _ => ensures_pure (h id)

theorem ensures_newRegex {re : Regex} (h : ∀ id, goodValue (.regex id re)) : (newRegex re).Ensures goodValue bad :=
  ensures_freshId.bind fun id _ => ensures_pure (h id)

end

end Eval

/-- Operators other than `&&` and `||` evaluate their right operand and make no reference of it. -/
theorem BinaryOp.exists_apply_eq_bind {op : BinaryOp} (hand : op ≠ .and) (hor : op ≠ .or) (v : Value) :
    ∃ f : Value → Value, (∀ w, (f w).isReference = false) ∧
      ∀ right : Eval Value, op.apply v right = right >>= fun w => pure (f w) := by
  cases op with
  | and => exact absurd rfl hand
  | or => exact absurd rfl hor
  | add =>
    refine ⟨Value.add v, fun w => ?_, fun right => rfl⟩
    unfold Value.add
    split <;> rfl
  | _ => exact ⟨_, fun w => rfl, fun right => rfl⟩

end ExprLang
