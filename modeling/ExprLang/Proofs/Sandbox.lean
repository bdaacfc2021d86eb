import ExprLang.Proofs.ConfinedValues
import ExprLang.Proofs.Constants
import ExprLang.Proofs.ContextReads
import ExprLang.Proofs.Outcomes
import ExprLang.Proofs.Positions

/-!
# Evaluation without functions of the host

If no function occurs in a context, an expression calls no function of the host, and all functions that come up are
built-in methods bound to receivers of their kinds (`Expression.eval_confined`).  The invariant is
`Eval.Ensures`: an evaluation that calls no function of the host returns a good value or fails with a bad error.
It is kept by every operation that a node consists of, and with it by every node (`Node.eval_ensures`).
-/

namespace ExprLang

open Eval

variable {bad : EvalError → Prop}

/-! ### Members and methods -/

theorem ArrayMethod.mem_concatItems {items arguments : List Value} {v : Value}
    (h : v ∈ concatItems items arguments) : v ∈ items ∨ ∃ a ∈ arguments, v = a ∨ v ∈ a.parts := by
  fun_induction concatItems items arguments with
  | case1 items => exact .inl h
  | case2 items id more arguments ih =>
    rcases ih h with h | ⟨a, ha, h⟩
    · rcases List.mem_append.1 h with h | h
      · exact .inl h
      · exact .inr ⟨.array id more, List.mem_cons_self .., .inr h⟩
    · exact .inr ⟨a, List.mem_cons_of_mem _ ha, h⟩
  | case3 items v' arguments _ ih =>
    rcases ih h with h | ⟨a, ha, h⟩
    · rcases List.mem_append.1 h with h | h
      · exact .inl h
      · exact .inr ⟨v', List.mem_cons_self .., .inl (List.mem_singleton.1 h)⟩
    · exact .inr ⟨a, List.mem_cons_of_mem _ ha, h⟩

theorem ArrayMethod.run_ensures (m : ArrayMethod) {items arguments : List Value} (hi : ∀ v ∈ items, v.Confined)
    (ha : ∀ v ∈ arguments, v.Confined) : (m.run items arguments).Ensures Value.Confined bad := by
  cases m with
  | concat =>
    refine ensures_newArray fun _ => Value.confined_array fun v hv => ?_
    rcases mem_concatItems hv with hv | ⟨a, harg, rfl | hv⟩
    · exact hi v hv
    · exact ha v harg
    · exact (ha a harg).part hv
  | slice =>
    refine ensures_newArray fun _ => Value.confined_array fun v hv => ?_
    exact hi v (List.mem_of_mem_take (List.mem_of_mem_drop hv))
  | includes | indexOf | join => exact ensures_pure (Value.confined_of_isReference rfl)

theorem StringMethod.run_ensures (m : StringMethod) {text : List Char} {arguments : List Value} :
    (m.run text arguments).Ensures Value.Confined bad := by
  cases m with
  | split =>
    refine ensures_newArray fun _ => Value.confined_array fun v hv => ?_
    obtain ⟨piece, -, rfl⟩ := List.mem_map.1 hv
    exact Value.confined_of_isReference rfl
  | _ => exact ensures_pure (Value.confined_of_isReference rfl)

/-- A method runs on a receiver that it fits; the substitutes for other receivers do not come into play. -/
theorem Callable.Fits.run_ensures {code : Callable} {receiver : Option Value} (h : code.Fits receiver)
    (hr : ∀ v, receiver = some v → v.Confined) (host : Host) {arguments : List Value}
    (ha : ∀ v ∈ arguments, v.Confined) :
    (code.run host (receiver.getD .undefined) arguments).Ensures Value.Confined bad := by
  cases h with
  | array => exact ArrayMethod.run_ensures _ (fun v hv => (hr _ rfl).part hv) ha
  | string => exact StringMethod.run_ensures _
  | regex => exact ensures_pure (Value.confined_of_isReference rfl)

namespace Value

variable {object key callee : Value}

theorem getProperty_ensures (h : object.Confined) (hbad : ∀ base k, bad (.nullProperty base k)) :
    (object.getProperty key).Ensures Confined bad := by
  unfold getProperty
  split
  · rename_i e he
    rw [member_eq_error he]
    exact ensures_throw (hbad _ _)
  · rename_i code hm
    refine ensures_newFunction fun _ => confined_function (fits_of_member hm) fun v hv => ?_
    cases hv
    exact h
  · rename_i id code receiver hm
    obtain ⟨hself, hparts⟩ := confined_iff.1 (h.of_member hm)
    have hfits := hself id code receiver rfl
    obtain ⟨v, rfl⟩ : ∃ v, receiver = some v := by cases hfits <;> exact ⟨_, rfl⟩
    refine ensures_newFunction fun _ => confined_function hfits fun w hw => hparts w ?_
    cases hw
    exact List.mem_singleton_self _
  · rename_i v hm hv
    exact ensures_pure (h.of_member hv)

theorem call_ensures (h : callee.Confined) (host : Host) {arguments : List Value}
    (ha : ∀ v ∈ arguments, v.Confined) {description : String} (hbad : bad (.notCallable description)) :
    (callee.call host arguments description).Ensures Confined bad := by
  cases callee with
  | function id code receiver =>
    obtain ⟨hself, hparts⟩ := confined_iff.1 h
    refine (hself id code receiver rfl).run_ensures (fun v hv => hparts v ?_) host ha
    simp [parts, hv]
  | _ => exact ensures_throw hbad

end Value

theorem BinaryOp.apply_ensures {op : BinaryOp} {v : Value} {right : Eval Value} (hv : v.Confined)
    (h : right.Ensures Value.Confined bad) : (op.apply v right).Ensures Value.Confined bad := by
  by_cases hand : op = .and
  · subst hand
    rw [apply]
    split
    · exact h
    · exact ensures_pure hv
  by_cases hor : op = .or
  · subst hor
    rw [apply]
    split
    · exact ensures_pure hv
    · exact h
  obtain ⟨f, hf, happly⟩ := exists_apply_eq_bind hand hor v
  rw [happly]
  exact h.bind fun w _ => ensures_pure (Value.confined_of_isReference (hf w))

/-! ### Nodes -/

/-- The failures that an evaluation of nodes can end with when no function of the host is at hand. -/
def EvalError.ArisesIn (nodes : List Node) : EvalError → Prop
  | notCallable _ | nullProperty .. => True
  | invalidRegex pattern flags _ => ∃ r, .regex r pattern flags ∈ nodes
  | thrown _ => False

theorem EvalError.ArisesIn.subset {nodes nodes' : List Node} {e : EvalError} (h : e.ArisesIn nodes)
    (hsub : nodes ⊆ nodes') : e.ArisesIn nodes' := by
  cases e with
  | invalidRegex pattern flags fault =>
    obtain ⟨r, hr⟩ := h
    exact ⟨r, hsub hr⟩
  | _ => exact h

/-- The constants among the nodes are confined. -/
def Node.ConfinedConstants (nodes : List Node) : Prop := ∀ r v, .constant r v ∈ nodes → v.Confined

theorem Node.ConfinedConstants.subset {nodes nodes' : List Node} (h : ConfinedConstants nodes)
    (hsub : nodes' ⊆ nodes) : ConfinedConstants nodes' :=
  fun r v hv => h r v (hsub hv)

theorem RegexSupport.build_ensures {support : RegexSupport}
    (h : support = .disabled ∨ ∃ engine, support = .engine engine) {pattern flags : String}
    (hbad : ∀ fault, bad (.invalidRegex pattern flags fault)) :
    (support.build pattern flags).Ensures Value.Confined bad := by
  rcases h with rfl | ⟨engine, rfl⟩
  · exact ensures_throw (hbad _)
  · -- whatever the engine answers, a regular expression is new and an error is that of its pattern
    rw [build]
    split
    · exact ensures_newRegex fun _ => Value.confined_regex
    · exact ensures_throw (hbad _)

/-- Surroundings that bring in no function of the host. -/
structure Surroundings.Closed (s : Surroundings) : Prop where
  context : ∀ name, (s.context.get name).Confined
  regex : s.regex = .disabled ∨ ∃ engine, s.regex = .engine engine

namespace Node

section
variable {s : Surroundings}

mutual

/-- The evaluation of a node keeps to confined values. -/
theorem eval_ensures (hs : s.Closed) (n : Node) (hn : ConfinedConstants n.walk) :
    (n.eval s).Ensures Value.Confined (·.ArisesIn n.walk) := by
  cases n with
  | constant r v =>
    rw [eval]
    exact ensures_pure (hn r v (by simp [walk]))
  | context r name =>
    rw [eval]
    exact ensures_pure (hs.context name)
  | property r object key =>
    have ho := eval_ensures hs object (hn.subset (by simp [walk]))
    have hk := eval_ensures hs key (hn.subset (by simp [walk]))
    rw [eval]
    refine (ho.mono fun e he => he.subset (by simp [walk])).bind fun v hv => ?_
    refine (hk.mono fun e he => he.subset (by simp [walk])).bind fun w _ => ?_
    exact Value.getProperty_ensures hv fun _ _ => trivial
  | call r callee arguments =>
    have hc := eval_ensures hs callee (hn.subset (by simp [walk]))
    have ha := evalAll_ensures hs arguments (hn.subset (by simp [walk]))
    rw [eval]
    refine (hc.mono fun e he => he.subset (by simp [walk])).bind fun v hv => ?_
    refine (ha.mono fun e he => he.subset (by simp [walk])).bind fun vs hvs => ?_
    exact Value.call_ensures hv s.host hvs trivial
  | array r items =>
    have hi := evalAll_ensures hs items (hn.subset (by simp [walk]))
    rw [eval]
    refine (hi.mono fun e he => he.subset (by simp [walk])).bind fun vs hvs => ?_
    exact ensures_newArray fun _ => Value.confined_array hvs
  | regex r pattern flags =>
    rw [eval]
    exact RegexSupport.build_ensures hs.regex fun _ => ⟨r, by simp [walk]⟩
  | unary r op operand =>
    have ho := eval_ensures hs operand (hn.subset (by simp [walk]))
    rw [eval]
    refine (ho.mono fun e he => he.subset (by simp [walk])).bind fun v _ => ?_
    refine ensures_pure (Value.confined_of_isReference ?_)
    cases op <;> rfl
  | binary r op left right =>
    have hl := eval_ensures hs left (hn.subset (by simp [walk]))
    have hr := eval_ensures hs right (hn.subset (by simp [walk]))
    rw [eval]
    refine (hl.mono fun e he => he.subset (by simp [walk])).bind fun v hv => ?_
    exact BinaryOp.apply_ensures hv (hr.mono fun e he => he.subset (by simp [walk]))
  | ternary r condition consequent alternate =>
    have hc := eval_ensures hs condition (hn.subset (by simp [walk]))
    have ha := eval_ensures hs consequent (hn.subset fun m hm => by simp [walk, hm])
    have hb := eval_ensures hs alternate (hn.subset fun m hm => by simp [walk, hm])
    rw [eval]
    refine (hc.mono fun e he => he.subset (by simp [walk])).bind fun v _ => ?_
    split
    · exact ha.mono fun e he => he.subset fun m hm => by simp [walk, hm]
    · exact hb.mono fun e he => he.subset fun m hm => by simp [walk, hm]

theorem evalAll_ensures (hs : s.Closed) (nodes : List Node) (hn : ConfinedConstants (walkAll nodes)) :
    (evalAll s nodes).Ensures (fun vs => ∀ v ∈ vs, v.Confined) (·.ArisesIn (walkAll nodes)) := by
  cases nodes with
  | nil =>
    rw [evalAll]
    exact ensures_pure fun v hv => absurd hv List.not_mem_nil
  | cons n nodes =>
    have hone := eval_ensures hs n (hn.subset (by simp [walkAll]))
    have hall := evalAll_ensures hs nodes (hn.subset (by simp [walkAll]))
    rw [evalAll]
    refine (hone.mono fun e he => he.subset (by simp [walkAll])).bind fun v hv => ?_
    refine (hall.mono fun e he => he.subset (by simp [walkAll])).bind fun vs hvs => ?_
    exact ensures_pure fun w hw => (List.mem_cons.1 hw).elim (fun h => h ▸ hv) (hvs w)

end

end

end Node

namespace Expression

variable {source : String} {regex : RegexSupport} {e : Expression} {c : Context}

theorem closed_surroundings (he : compile source regex = .ok e)
    (hregex : regex = .disabled ∨ ∃ engine, regex = .engine engine)
    (hc : ∀ entry ∈ c.entries, entry.2.FunctionFree) (host : Host) :
    Surroundings.Closed ⟨c, e.source, e.regex, host⟩ := by
  obtain ⟨-, -, -, -, he⟩ := compile_eq_ok_iff.1 he
  refine ⟨fun name => Value.confined_getD fun v hv => ?_, he ▸ hregex⟩
  exact (hc (name, v) (Context.get?_eq_some_iff.1 hv)).confined

/-- If no function occurs in the values of a context, and regular expressions are disabled or made by an engine, whatever
this makes of them, every node of an expression evaluates to a confined value or fails for one of the three reasons that
the expression itself can give; an invalid regular expression is one of its nodes.  No function of the host is called, and
a called method has a receiver of its own kind. -/
theorem eval_confined (he : compile source regex = .ok e)
    (hregex : regex = .disabled ∨ ∃ engine, regex = .engine engine)
    (hc : ∀ entry ∈ c.entries, entry.2.FunctionFree) (host : Host) {n : Node} (hn : n ∈ e.root.walk) (l : Ledger) :
    (match (n.eval ⟨c, e.source, e.regex, host⟩).outcome l with
      | (.ok v, l') => v.Confined ∧ l'.calls = l.calls
      | (.error err, l') => err.ArisesIn n.walk ∧ l'.calls = l.calls) ∧
    ∀ r callee arguments, n = .call r callee arguments → ∀ id code receiver l',
      (callee.eval ⟨c, e.source, e.regex, host⟩).outcome l = (.ok (.function id code receiver), l') →
        code.Fits receiver := by
  have hs := closed_surroundings he hregex hc host
  have hconstants : Node.ConfinedConstants e.root.walk := fun r v hv =>
    Value.confined_of_isReference (isReference_constant he hv)
  have hn := hconstants.subset (Node.walk_subset hn)
  constructor
  · rcases ho : (n.eval ⟨c, e.source, e.regex, host⟩).outcome l with ⟨err | v, l'⟩
    · obtain ⟨hcalls, -, hbad⟩ := Node.eval_ensures hs n hn l _ _ ho
      exact ⟨hbad err rfl, hcalls⟩
    · obtain ⟨hcalls, hgood, -⟩ := Node.eval_ensures hs n hn l _ _ ho
      exact ⟨hgood v rfl, hcalls⟩
  · rintro r callee arguments rfl id code receiver l' ho
    have hcallee := Node.eval_ensures hs callee (hn.subset (by simp [Node.walk]))
    obtain ⟨-, hgood, -⟩ := hcallee l _ _ ho
    exact hgood _ rfl id code receiver (.refl _)

/-- A method that is put into an array stays bound to its string. -/
theorem eval_confined_concat :
    ∃ e, compile "x.concat('a'.trim)" .disabled = .ok e ∧ ∃ v,
      (e.eval ⟨fun _ _ _ => throw (.thrown "called")⟩ (.ofList [("x", .array 0 [.null])])).outcome ⟨1, []⟩ =
        (.ok v, ⟨4, []⟩) ∧
      v = .array 3 [.null, .function 2 (.ofString .trim) (some (.string "a"))] ∧ v.Confined := by
  let root : Node :=
    .call ⟨0, 18⟩ (.property ⟨0, 8⟩ (.context ⟨0, 1⟩ "x") (.constant ⟨2, 6⟩ (.string "concat")))
      [.property ⟨9, 8⟩ (.constant ⟨9, 3⟩ (.string "a")) (.constant ⟨13, 4⟩ (.string "trim"))]
  have he : compile "x.concat('a'.trim)" .disabled = .ok ⟨"x.concat('a'.trim)", root, .disabled⟩ := by cbv
  have hc : ∀ entry ∈ (Context.ofList [("x", .array 0 [.null])]).entries, entry.2.FunctionFree := by
    intro entry hentry
    obtain rfl : entry = ("x", .array 0 [.null]) := List.mem_singleton.1 hentry
    rintro id code receiver (_ | ⟨hw, hv⟩)
    obtain rfl := List.mem_singleton.1 hw
    cases hv with
    | part hw => cases hw
  have hroot : root ∈ root.walk := by simp [root, Node.walk]
  have h := (eval_confined he (.inl rfl) hc ⟨fun _ _ _ => throw (.thrown "called")⟩ hroot ⟨1, []⟩).1
  exact ⟨_, he, _, rfl, rfl, h.1⟩

end Expression

end ExprLang
