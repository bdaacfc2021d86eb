import ExprLang.Proofs.Faults
import ExprLang.Proofs.Parsing

/-!
# Where the parser fails

Each parser has the faults of its parts (`faults`).  For a whole expression this makes the errors exact
(`parse_error_place`).
-/

open ExprLang.Parser

namespace ExprLang.Parser

variable {r : Bool} {b : Nat} {ts : List Token} {e : SyntaxError}

/-! ### The parsers -/

/-- The faults of the parsers with a budget. -/
structure Faults (r : Bool) (b : Nat) : Prop where
  conditional {ts : List Token} {e : SyntaxError} : conditional (standard r) b ts = .error e →
    Faulty Phrase.conditional.Stops (conditional (standard r) b) ts e
  chain {levels : List OperatorTable} (hlevels : levels <:+ binaryLevels) {ts : List Token} {e : SyntaxError} :
    chain (standard r) b levels ts = .error e → Faulty (Phrase.chain levels).Stops (chain (standard r) b levels) ts e
  folds {table : OperatorTable} {levels : List OperatorTable} (hlevels : table :: levels <:+ binaryLevels)
    (left : Node) {ts : List Token} {e : SyntaxError} : folds (standard r) b table levels left ts = .error e →
      Faulty (Phrase.chain (table :: levels)).Stops (folds (standard r) b table levels left) ts e
  exponent {ts : List Token} {e : SyntaxError} : exponent (standard r) b ts = .error e →
    Faulty Phrase.exponent.Stops (exponent (standard r) b) ts e
  unary {ts : List Token} {e : SyntaxError} : unary (standard r) b ts = .error e →
    Faulty Phrase.unary.Stops (unary (standard r) b) ts e
  steps (object : Node) {ts : List Token} {e : SyntaxError} : steps (standard r) b object ts = .error e →
    Faulty Phrase.unary.Stops (steps (standard r) b object) ts e

section
variable {g : Grammar} {t : Token}

theorem primary_paren (h : t.isSymbol '(') (ts : List Token) :
    primary g (b + 1) (t :: ts) = conditional g b ts >>= fun x =>
      expect ')' x.2 >>= fun y => .ok (x.1.withRange (t.range.cover y.1), y.2) := by
  rw [primary]
  simp only [next, bind, Except.bind, lexeme_of_isSymbol h]
  rfl

theorem primary_bracket (h : t.isSymbol '[') (ts : List Token) :
    primary g (b + 1) (t :: ts) = list (conditional g b) ']' true ts >>= fun x =>
      .ok (.array (t.range.cover x.1.2) x.1.1, x.2) := by
  rw [primary]
  simp only [next, bind, Except.bind, lexeme_of_isSymbol h]
  rfl

/-- What stands behind a point. -/
def keyed (g : Grammar) (b : Nat) (object : Node) : List Token → Except SyntaxError (Node × List Token)
  | [] => .error .endOfExpression
  | u :: ts =>
    match u.lexeme with
    | .identifier name => steps g b (.property (object.range.cover u.range) object (.constant u.range (.string name))) ts
    | _ => .error (.unexpectedToken u.offset)

theorem steps_point_eq (h : t.isSymbol '.') (object : Node) (ts : List Token) :
    steps g (b + 1) object (t :: ts) = keyed g b object ts := by
  rw [steps]
  simp only [h, true_or, if_true]
  cases ts with
  | nil => rfl
  | cons u ts =>
    simp only [next, bind, Except.bind, keyed]
    cases u.lexeme <;> rfl

theorem steps_bracket_eq (h : t.isSymbol '[') (object : Node) (ts : List Token) :
    steps g (b + 1) object (t :: ts) = conditional g b ts >>= fun x =>
      expect ']' x.2 >>= fun y => steps g b (.property (object.range.cover y.1) object x.1) y.2 := by
  have hp : t.isSymbol '.' = false := isSymbol_eq_false h (by decide)
  rw [steps]
  simp only [h, hp, Bool.false_eq_true, false_or, true_or, if_true, if_false]

theorem steps_paren_eq (h : t.isSymbol '(') (object : Node) (ts : List Token) :
    steps g (b + 1) object (t :: ts) = list (conditional g b) ')' false ts >>= fun x =>
      steps g b (.call (object.range.cover x.1.2) object x.1.1) x.2 := by
  have hp : t.isSymbol '.' = false := isSymbol_eq_false h (by decide)
  have hb : t.isSymbol '[' = false := isSymbol_eq_false h (by decide)
  rw [steps]
  simp only [h, hp, hb, Bool.false_eq_true, false_or, if_true, if_false]

theorem unary_cons_eq {op : UnaryOp} (h : unaryOp? t = some op) (ts : List Token) :
    unary g (b + 1) (t :: ts) = unary g b ts >>= fun x => .ok (.unary (t.range.cover x.1.range) op x.1, x.2) := by
  rw [unary]
  simp only [h]
  rfl

/-- What stands behind the base of an exponent. -/
def powers (g : Grammar) (b : Nat) (base : Node) (ts : List Token) : Except SyntaxError (Node × List Token) :=
  match g.rule exponentialLevel ts with
  | none => .ok (base, ts)
  | some op =>
    match b with
    | 0 => .error (.unexpectedToken (offset ts))
    | b + 1 =>
      exponent g b (ts.drop op.spelling.length) >>= fun x =>
        .ok (.binary (base.range.cover x.1.range) op base x.1, x.2)

theorem powers_of_none {base : Node} (h : g.rule exponentialLevel ts = none) : powers g b base ts = .ok (base, ts) := by
  rw [powers, h]

theorem powers_zero {base : Node} {op : BinaryOp} (h : g.rule exponentialLevel ts = some op) :
    powers g 0 base ts = .error (.unexpectedToken (offset ts)) := by
  rw [powers, h]

theorem powers_succ {base : Node} {op : BinaryOp} (h : g.rule exponentialLevel ts = some op) :
    powers g (b + 1) base ts = exponent g b (ts.drop op.spelling.length) >>= fun x =>
      .ok (.binary (base.range.cover x.1.range) op base x.1, x.2) := by
  rw [powers, h]

theorem folds_of_none {table : OperatorTable} {levels : List OperatorTable} {left : Node} (h : g.rule table ts = none) :
    folds g b table levels left ts = .ok (left, ts) :=
  folds_eq_ok_iff.2 (.inl ⟨h, rfl, rfl⟩)

theorem folds_zero {table : OperatorTable} {levels : List OperatorTable} {left : Node} {op : BinaryOp}
    (h : g.rule table ts = some op) : folds g 0 table levels left ts = .error (.unexpectedToken (offset ts)) := by
  rw [folds, h]

theorem folds_succ {table : OperatorTable} {levels : List OperatorTable} {left : Node} {op : BinaryOp}
    (h : g.rule table ts = some op) :
    folds g (b + 1) table levels left ts = chain g b levels (ts.drop op.spelling.length) >>= fun x =>
      folds g b table levels (.binary (left.range.cover x.1.range) op left x.1) x.2 := by
  rw [folds, h]

theorem chain_cons_eq (table : OperatorTable) (levels : List OperatorTable) (ts : List Token) :
    chain g b (table :: levels) ts = chain g b levels ts >>= fun x => folds g b table levels x.1 x.2 := by
  rw [chain]

theorem exponent_eq (ts : List Token) :
    exponent g b ts = unary g b ts >>= fun x => powers g b x.1 x.2 := by
  rw [exponent]
  rfl

/-- What stands behind a condition. -/
def branches (g : Grammar) (b : Nat) (condition : Node) : List Token → Except SyntaxError (Node × List Token)
  | [] => .ok (condition, [])
  | t :: rest =>
    if t.isSymbol '?' then
      match b with
      | 0 => .error (.unexpectedToken t.offset)
      | b + 1 =>
        conditional g b rest >>= fun x => expect ':' x.2 >>= fun y => conditional g b y.2 >>= fun z =>
          .ok (.ternary (condition.range.cover z.1.range) condition x.1 z.1, z.2)
    else .ok (condition, t :: rest)

theorem branches_of_not_startsWith {condition : Node} (h : startsWith '?' ts = false) :
    branches g b condition ts = .ok (condition, ts) := by
  cases ts with
  | nil => rfl
  | cons t ts =>
    rw [startsWith_cons] at h
    cases b <;> simp [branches, h]

theorem branches_zero {condition : Node} (h : t.isSymbol '?') (ts : List Token) :
    branches g 0 condition (t :: ts) = .error (.unexpectedToken t.offset) := by
  rw [branches, if_pos h]

theorem branches_succ {condition : Node} (h : t.isSymbol '?') (ts : List Token) :
    branches g (b + 1) condition (t :: ts) =
      conditional g b ts >>= fun x => expect ':' x.2 >>= fun y => conditional g b y.2 >>= fun z =>
        .ok (.ternary (condition.range.cover z.1.range) condition x.1 z.1, z.2) := by
  rw [branches, if_pos h]

theorem conditional_eq (ts : List Token) :
    conditional g b ts = chain g b binaryLevels ts >>= fun x => branches g b x.1 x.2 := by
  rw [conditional]
  rfl

end

theorem viable_steps (r : Bool) (b : Nat) (object : Node) : Viable (steps (standard r) b object []) :=
  .inr ⟨object, steps_of_not_startsStep rfl⟩

/-- Steps may follow, or none. -/
theorem closes_steps {α : Type} (r : Bool) (b : Nat) (k : α → Node) :
    Closes (fun _ => True) Phrase.unary.Stops fun x : α × List Token => steps (standard r) b (k x.1) x.2 :=
  ⟨fun x => viable_steps r b (k x), [], fun _ hrest => ⟨True.intro, fun x => ⟨k x, steps_of_not_startsStep hrest⟩⟩⟩

private theorem keyed_faulty {c : Nat} (hs : Faults r c) (object : Node)
    (h : keyed (standard r) c object ts = .error e) :
    Faulty Phrase.unary.Stops (keyed (standard r) c object) ts e := by
  cases ts with
  | nil =>
    cases h
    refine .inl ⟨rfl, nameToken, [], inert_nameToken, fun rest hrest => ?_⟩
    exact ⟨_, steps_of_not_startsStep hrest⟩
  | cons u ts =>
    by_cases hname : ∃ name, u.lexeme = .identifier name
    · obtain ⟨name, hu⟩ := hname
      have hkeyed (us : List Token) : keyed (standard r) c object (u :: us) =
          steps (standard r) c (.property (object.range.cover u.range) object (.constant u.range (.string name))) us := by
        rw [keyed, hu]
      rw [hkeyed] at h
      exact (hs.steps _ h).after [u] (.trivial ts) fun rest _ => hkeyed rest
    · have hall (us : List Token) : keyed (standard r) c object (u :: us) = .error (.unexpectedToken u.offset) := by
        rw [keyed]
        cases hu : u.lexeme with
        | identifier name => exact absurd ⟨name, hu⟩ hname
        | _ => rfl
      exact .refused (.inl rfl) (.inl rfl) hall h

theorem globalRule_nil (table : OperatorTable) : globalRule table [] = none := by
  cases hrule : globalRule table [] with
  | none => rfl
  | some op => exact absurd (globalRule_eq_some_iff.1 hrule).2 (not_leads_nil op)

theorem viable_powers (r : Bool) (b : Nat) (base : Node) : Viable (powers (standard r) b base []) :=
  .inr ⟨base, powers_of_none (globalRule_nil exponentialLevel)⟩

theorem viable_folds (r : Bool) (b : Nat) (table : OperatorTable) (levels : List OperatorTable) (left : Node) :
    Viable (folds (standard r) b table levels left []) :=
  .inr ⟨left, folds_of_none (globalRule_nil table)⟩

theorem closes_powers (r : Bool) (b : Nat) : Closes Phrase.unary.Stops Phrase.exponent.Stops
    fun x : Node × List Token => powers (standard r) b x.1 x.2 := by
  refine ⟨viable_powers r b, [], fun rest hrest => ⟨hrest.1, fun x => ⟨x, powers_of_none ?_⟩⟩⟩
  exact @Phrase.Stops.globalRule_eq_none [] _ _ hrest fun op hop => hop

theorem closes_folds (r : Bool) (b : Nat) (table : OperatorTable) (levels : List OperatorTable) (k : Node → Node) :
    Closes (Phrase.chain levels).Stops (Phrase.chain (table :: levels)).Stops
      fun x : Node × List Token => folds (standard r) b table levels (k x.1) x.2 := by
  refine ⟨fun x => viable_folds r b table levels (k x), [], fun rest hrest => ⟨?_, fun x => ⟨k x, folds_of_none ?_⟩⟩⟩
  · refine ⟨hrest.1, hrest.2.subset fun op hop => ?_⟩
    rw [List.flatten_cons, List.append_assoc]
    exact List.mem_append_right _ hop
  · refine hrest.globalRule_eq_none fun op hop => ?_
    rw [List.flatten_cons, List.append_assoc]
    exact List.mem_append_left _ hop

section
variable (below : ∀ c, b = c + 1 → Faults r c)
include below

private theorem primary_faulty (h : primary (standard r) b ts = .error e) :
    Faulty (fun _ => True) (primary (standard r) b) ts e := by
  have hnil : Viable (primary (standard r) b []) := by
    rw [primary]
    exact .inl rfl
  cases ts with
  | nil =>
    rw [primary] at h
    cases h
    refine .inl ⟨rfl, literalToken, [], inert_literalToken, fun rest _ => ?_⟩
    exact ⟨_, primary_eq_ok_iff.2 ⟨literalToken, rest, rfl, .inl ⟨.null, rfl, rfl, rfl⟩⟩⟩
  | cons t ts =>
    by_cases hbracket : (t.isSymbol '(' ∨ t.isSymbol '[') ∧ 0 < b
    · obtain ⟨hopen, hb⟩ := hbracket
      obtain ⟨c, rfl⟩ : ∃ c, b = c + 1 := ⟨b - 1, by omega⟩
      have hs := below c rfl
      rcases hopen with ht | ht
      · rw [primary_paren ht] at h
        have hclose : Closes Phrase.conditional.Stops (fun _ => True) fun x : Node × List Token =>
            expect ')' x.2 >>= fun y => .ok (x.1.withRange (t.range.cover y.1), y.2) := by
          refine ⟨fun _ => .inl rfl, [symbolToken ')'], fun rest _ => ⟨?_, fun x => ?_⟩⟩
          · exact stops_conditional_of_isSymbol (isSymbol_symbolToken ')') (by decide)
          · exact ⟨_, bind_eq_ok_iff.2 ⟨_, expect_symbolToken ')' rest, rfl⟩⟩
        have hinner := (steady_conditional r c).bind_faulty hclose hs.conditional
          (fun x _ _ => Faulty.map (fun y => x.withRange (t.range.cover y)) (expect_faulty (by decide))) h
        exact hinner.after [t] (.trivial ts) fun rest _ => primary_paren ht rest
      · rw [primary_bracket ht] at h
        have hlist := Faulty.map (fun x => Node.array (t.range.cover x.2) x.1) (list_faulty (.inr rfl) hs.conditional) h
        exact hlist.after [t] (.trivial ts) fun rest _ => primary_bracket ht rest
    · -- The first token is an operand of its own, no operand, or a bracket for which no budget is left.
      cases ht : t.lexeme with
      | literal v =>
        rw [primary_eq_ok_iff.2 ⟨t, ts, rfl, .inl ⟨v, ht, rfl, rfl⟩⟩] at h
        cases h
      | identifier name =>
        rw [primary_eq_ok_iff.2 ⟨t, ts, rfl, .inr (.inl ⟨name, ht, rfl, rfl⟩)⟩] at h
        cases h
      | regex pattern flags =>
        cases r with
        | true =>
          rw [primary_eq_ok_iff.2 ⟨t, ts, rfl, .inr (.inr (.inl ⟨pattern, flags, ht, rfl, rfl, rfl⟩))⟩] at h
          cases h
        | false =>
          have hall (us : List Token) : primary (standard false) b (t :: us) = .error (.regexDisabled t.offset) := by
            rw [primary]
            simp only [next, bind, Except.bind, ht]
            rfl
          exact .refused (.inr rfl) hnil hall h
      | symbol c =>
        have hall (us : List Token) : primary (standard r) b (t :: us) = .error (.unexpectedToken t.offset) := by
          rw [primary]
          simp only [next, bind, Except.bind, ht]
          by_cases hc : c = '(' ∨ c = '['
          · have hopen : t.isSymbol '(' ∨ t.isSymbol '[' := by simpa [Token.isSymbol, Token.symbol?, ht] using hc
            have hb : ¬ 0 < b := fun hb => hbracket ⟨hopen, hb⟩
            obtain rfl : b = 0 := by omega
            rw [if_pos hc]
            rfl
          · rw [if_neg hc]
            rfl
        exact .refused (.inl rfl) hnil hall h

private theorem steps_faulty (object : Node) (h : steps (standard r) b object ts = .error e) :
    Faulty Phrase.unary.Stops (steps (standard r) b object) ts e := by
  by_cases hstep : startsStep ts = true
  · cases ts with
    | nil => cases hstep
    | cons t ts =>
      simp only [startsStep, startsWith_cons, Bool.or_eq_true, or_assoc] at hstep
      cases b with
      | zero =>
        have hall (us : List Token) : steps (standard r) 0 object (t :: us) = .error (.unexpectedToken t.offset) := by
          rw [steps]
          simp [hstep]
        exact .refused (.inl rfl) (viable_steps r 0 object) hall h
      | succ c =>
        have hs := below c rfl
        rcases hstep with ht | ht | ht
        · rw [steps_point_eq ht] at h
          exact (keyed_faulty hs object h).after [t] (.trivial ts) fun rest _ => steps_point_eq ht object rest
        · rw [steps_bracket_eq ht] at h
          have hclose : Closes Phrase.conditional.Stops Phrase.unary.Stops fun x : Node × List Token =>
              expect ']' x.2 >>= fun y => steps (standard r) c (.property (object.range.cover y.1) object x.1) y.2 := by
            refine ⟨fun _ => .inl rfl, [symbolToken ']'], fun rest hrest => ⟨?_, fun x => ?_⟩⟩
            · exact stops_conditional_of_isSymbol (isSymbol_symbolToken ']') (by decide)
            · exact ⟨_, bind_eq_ok_iff.2 ⟨_, expect_symbolToken ']' rest, steps_of_not_startsStep hrest⟩⟩
          have hkey := (steady_conditional r c).bind_faulty hclose hs.conditional (fun x _ _ =>
            (steady_expect ']').bind_faulty
              (closes_steps r c fun y => .property (object.range.cover y) object x)
              (expect_faulty (by decide)) fun y _ _ => hs.steps _) h
          exact hkey.after [t] (.trivial ts) fun rest _ => steps_bracket_eq ht object rest
        · rw [steps_paren_eq ht] at h
          have harguments := (steady_list r c (.inl rfl) false).bind_faulty
            (closes_steps r c fun x => .call (object.range.cover x.2) object x.1)
            (list_faulty (.inl rfl) hs.conditional) (fun x _ _ => hs.steps _) h
          exact harguments.after [t] (.trivial ts) fun rest _ => steps_paren_eq ht object rest
  · rw [Bool.not_eq_true] at hstep
    rw [steps_of_not_startsStep hstep] at h
    cases h

private theorem unary_faulty (h : unary (standard r) b ts = .error e) :
    Faulty Phrase.unary.Stops (unary (standard r) b) ts e := by
  have hmember (us : List Token) :
      member (standard r) b us = primary (standard r) b us >>= fun x => steps (standard r) b x.1 x.2 := by
    rw [member]
  -- Which case it is depends on the first token alone, and inert tokens are no prefix operators.
  by_cases hsign : ∀ t, ts.head? = some t → unaryOp? t = none
  · have hunary (us : List Token) (hus : ∀ t, us.head? = some t → unaryOp? t = none) :
        unary (standard r) b us = member (standard r) b us := by
      cases us with
      | nil => rw [unary]
      | cons t us =>
        rw [unary, hus t rfl]
    have hQ := settled_head hsign fun _ t ht => ht.1
    rw [hunary ts hsign, hmember] at h
    have hsteps := (steady_primary r b).bind_faulty (closes_steps r b fun x => x) (primary_faulty below)
      (fun x _ _ => steps_faulty below x) h
    exact hsteps.after [] hQ fun rest hrest => (hunary rest hrest).trans (hmember rest)
  · simp only [not_forall] at hsign
    obtain ⟨t, hhead, hsign⟩ := hsign
    obtain ⟨op, ht⟩ := Option.ne_none_iff_exists'.1 hsign
    obtain ⟨ts, rfl⟩ := List.head?_eq_some_iff.1 hhead
    cases b with
    | zero =>
      have hall (us : List Token) : unary (standard r) 0 (t :: us) = .error (.unexpectedToken t.offset) := by
        rw [unary, ht]
      have hnil : unary (standard r) 0 [] = .error .endOfExpression := by
        rw [unary, member, primary]
        rfl
      exact .refused (.inl rfl) (.inl hnil) hall h
    | succ c =>
      rw [unary_cons_eq ht] at h
      have hoperand := Faulty.map (fun n => Node.unary (t.range.cover n.range) op n) (below c rfl).unary h
      exact hoperand.after [t] (.trivial ts) fun rest _ => unary_cons_eq ht rest

private theorem powers_faulty (base : Node) (h : powers (standard r) b base ts = .error e) :
    Faulty Phrase.exponent.Stops (powers (standard r) b base) ts e := by
  cases hrule : globalRule exponentialLevel ts with
  | none =>
    rw [powers_of_none hrule] at h
    cases h
  | some op =>
    obtain ⟨hop, hleads⟩ := globalRule_eq_some_iff.1 hrule
    have hread (us : List Token) (hus : op.Leads us) : globalRule exponentialLevel us = some op :=
      globalRule_eq_some_iff.2 ⟨hop, hus⟩
    cases b with
    | zero =>
      rw [powers_zero hrule] at h
      cases h
      exact .operator hleads (fun us hus => powers_zero (hread us hus)) (viable_powers r 0 base)
    | succ c =>
      rw [powers_succ hrule] at h
      have hpower := Faulty.map (fun n => Node.binary (base.range.cover n.range) op base n) (below c rfl).exponent h
      exact hpower.behind_operator hleads fun us hus => powers_succ (hread us hus)

private theorem exponent_faulty (h : exponent (standard r) b ts = .error e) :
    Faulty Phrase.exponent.Stops (exponent (standard r) b) ts e := by
  have heq : exponent (standard r) b = fun us => unary (standard r) b us >>= fun x => powers (standard r) b x.1 x.2 :=
    funext exponent_eq
  rw [heq] at h ⊢
  exact (steady_unary r b).bind_faulty (closes_powers r b) (unary_faulty below) (fun x _ _ => powers_faulty below x) h

private theorem folds_faulty {table : OperatorTable} {levels : List OperatorTable}
    (hlevels : table :: levels <:+ binaryLevels) (left : Node)
    (h : folds (standard r) b table levels left ts = .error e) :
    Faulty (Phrase.chain (table :: levels)).Stops (folds (standard r) b table levels left) ts e := by
  cases hrule : globalRule table ts with
  | none =>
    rw [folds_of_none hrule] at h
    cases h
  | some op =>
    obtain ⟨hop, hleads⟩ := globalRule_eq_some_iff.1 hrule
    have hread (us : List Token) (hus : op.Leads us) : globalRule table us = some op :=
      globalRule_eq_some_iff.2 ⟨hop, hus⟩
    cases b with
    | zero =>
      rw [folds_zero hrule] at h
      cases h
      exact .operator hleads (fun us hus => folds_zero (hread us hus)) (viable_folds r 0 table levels left)
    | succ c =>
      have hs := below c rfl
      have hsuffix := (List.suffix_cons table levels).trans hlevels
      rw [folds_succ hrule] at h
      -- A right operand that is complete may be followed by more operators of the level, or by none.
      have hright := (steady_chain r c hsuffix).bind_faulty
        (closes_folds r c table levels fun n => .binary (left.range.cover n.range) op left n) (hs.chain hsuffix)
        (fun x _ _ => hs.folds hlevels _) h
      exact hright.behind_operator hleads fun us hus => folds_succ (hread us hus)

private theorem chain_faulty {levels : List OperatorTable} (hlevels : levels <:+ binaryLevels)
    (h : chain (standard r) b levels ts = .error e) :
    Faulty (Phrase.chain levels).Stops (chain (standard r) b levels) ts e := by
  induction levels generalizing ts e with
  | nil =>
    have heq : chain (standard r) b [] = exponent (standard r) b := funext fun _ => chain_nil
    rw [heq] at h ⊢
    exact exponent_faulty below h
  | cons table levels ih =>
    have heq : chain (standard r) b (table :: levels) = fun us =>
        chain (standard r) b levels us >>= fun x => folds (standard r) b table levels x.1 x.2 :=
      funext (chain_cons_eq table levels)
    have hsuffix := (List.suffix_cons table levels).trans hlevels
    rw [heq] at h ⊢
    exact (steady_chain r b hsuffix).bind_faulty (closes_folds r b table levels fun n => n) (ih hsuffix)
      (fun x _ _ => folds_faulty below hlevels x) h

private theorem branches_faulty (condition : Node) (h : branches (standard r) b condition ts = .error e) :
    Faulty Phrase.conditional.Stops (branches (standard r) b condition) ts e := by
  by_cases hquestion : startsWith '?' ts = true
  · cases ts with
    | nil => cases hquestion
    | cons t ts =>
      have ht : t.isSymbol '?' := hquestion
      cases b with
      | zero =>
        exact .refused (.inl rfl) (.inr ⟨condition, rfl⟩) (branches_zero ht) h
      | succ c =>
        have hs := below c rfl
        rw [branches_succ ht] at h
        let ternary (x z : Node) : Node := .ternary (condition.range.cover z.range) condition x z
        -- Behind the colon an alternate is missing, behind the consequent a colon and an alternate.
        have hlast (x : Node) : Closes (fun _ => True) Phrase.conditional.Stops fun y : Range × List Token =>
            conditional (standard r) c y.2 >>= fun z => .ok (ternary x z.1, z.2) := by
          refine ⟨fun y => ?_, [literalToken], fun rest hrest => ⟨trivial, fun y => ?_⟩⟩
          · show Viable (conditional (standard r) c [] >>= _)
            rw [conditional_nil_tokens]
            exact .inl rfl
          · obtain ⟨z, hz⟩ := conditional_literal r c hrest
            exact ⟨ternary x z, bind_eq_ok_iff.2 ⟨_, hz, rfl⟩⟩
        have hbranches : Closes Phrase.conditional.Stops Phrase.conditional.Stops fun x : Node × List Token =>
            expect ':' x.2 >>= fun y => conditional (standard r) c y.2 >>= fun z => .ok (ternary x.1 z.1, z.2) := by
          refine ⟨fun _ => .inl rfl, [symbolToken ':', literalToken], fun rest hrest => ⟨?_, fun x => ?_⟩⟩
          · exact stops_conditional_of_isSymbol (isSymbol_symbolToken ':') (by decide)
          · obtain ⟨z, hz⟩ := conditional_literal r c hrest
            exact ⟨ternary x z, bind_eq_ok_iff.2 ⟨_, expect_symbolToken ':' _, bind_eq_ok_iff.2 ⟨_, hz, rfl⟩⟩⟩
        have hconsequent := (steady_conditional r c).bind_faulty hbranches hs.conditional (fun x _ _ =>
          (steady_expect ':').bind_faulty (hlast x) (expect_faulty (by decide)) fun y _ _ =>
            Faulty.map (ternary x) hs.conditional) h
        exact hconsequent.after [t] (.trivial ts) fun rest _ => branches_succ ht rest
  · rw [Bool.not_eq_true] at hquestion
    rw [branches_of_not_startsWith hquestion] at h
    cases h

private theorem conditional_faulty (h : conditional (standard r) b ts = .error e) :
    Faulty Phrase.conditional.Stops (conditional (standard r) b) ts e := by
  have heq : conditional (standard r) b = fun us =>
      chain (standard r) b binaryLevels us >>= fun x => branches (standard r) b x.1 x.2 := funext conditional_eq
  have hclose : Closes (Phrase.chain binaryLevels).Stops Phrase.conditional.Stops fun x : Node × List Token =>
      branches (standard r) b x.1 x.2 := by
    refine ⟨fun x => .inr ⟨x, rfl⟩, [], fun rest hrest => ⟨⟨hrest.1, hrest.2.1⟩, fun x => ⟨x, ?_⟩⟩⟩
    exact branches_of_not_startsWith hrest.2.2
  rw [heq] at h ⊢
  exact (steady_chain r b List.suffix_rfl).bind_faulty hclose (chain_faulty below List.suffix_rfl)
    (fun x _ _ => branches_faulty below x) h

private theorem faults_of_below : Faults r b :=
  ⟨conditional_faulty below, fun hlevels => chain_faulty below hlevels,
    fun hlevels left => folds_faulty below hlevels left, exponent_faulty below, unary_faulty below,
    fun object => steps_faulty below object⟩

end

theorem faults (r : Bool) (b : Nat) : Faults r b := budget_induction (fun _ below => faults_of_below below) b

end ExprLang.Parser

namespace ExprLang

/-! ### Whole expressions -/

variable {allowRegex : Bool} {ts : List Token} {e : SyntaxError} {n : Node}

theorem parse_of_conditional_eq_error (h : conditional (standard allowRegex) maxDepth ts = .error e) :
    parse allowRegex ts = .error e := by
  unfold parse parseWith
  rw [h]
  rfl

theorem parse_of_conditional_eq_ok {t : Token} {rest : List Token}
    (h : conditional (standard allowRegex) maxDepth ts = .ok (n, t :: rest)) :
    parse allowRegex ts = .error (.unexpectedRemainder t.offset) := by
  unfold parse parseWith
  rw [h]
  rfl

/-- Tokens that are rejected can be completed, or one of them is blamed. -/
theorem parse_faulty (h : parse allowRegex ts = .error e) :
    (e = .endOfExpression ∧ ∃ us n, parse allowRegex (ts ++ us) = .ok n) ∨
      ∃ us t vs, ts = us ++ t :: vs ∧ e.offset? = some t.offset ∧
        ((∃ n, parse allowRegex us = .ok n) ∨
          parse allowRegex us = .error .endOfExpression ∧ e ≠ .unexpectedRemainder t.offset) ∧
        ∀ vs', (t :: vs').take maxOperatorLength = (t :: vs).take maxOperatorLength →
          parse allowRegex (us ++ t :: vs') = .error e := by
  cases hts : conditional (standard allowRegex) maxDepth ts with
  | error e' =>
    rw [parse_of_conditional_eq_error hts] at h
    cases h
    rcases (faults allowRegex maxDepth).conditional hts with ⟨rfl, t, us, -, hcomplete⟩ |
      ⟨us, t, vs, rfl, he, hviable, hlook⟩
    · obtain ⟨n, hn⟩ := hcomplete [] stops_conditional_nil
      rw [List.append_nil] at hn
      exact .inl ⟨rfl, t :: us, n, parse_eq_ok_iff_conditional.2 hn⟩
    · have hoffset : e.offset? = some t.offset := by rcases he with rfl | rfl <;> rfl
      have hremainder : e ≠ .unexpectedRemainder t.offset := by rcases he with rfl | rfl <;> simp
      refine .inr ⟨us, t, vs, rfl, hoffset, ?_, fun vs' hvs => parse_of_conditional_eq_error (hlook vs' hvs)⟩
      rcases hviable with hend | ⟨n, hn⟩
      · exact .inr ⟨parse_of_conditional_eq_error hend, hremainder⟩
      · exact .inl ⟨n, parse_eq_ok_iff_conditional.2 hn⟩
  | ok x =>
    obtain ⟨n, rest⟩ := x
    cases rest with
    | nil =>
      rw [parse_eq_ok_iff_conditional.2 hts] at h
      cases h
    | cons t vs =>
      -- A remainder is blamed, and what has been read before it is an expression without it as well.
      rw [parse_of_conditional_eq_ok hts] at h
      cases h
      have hsteady := steady_conditional allowRegex maxDepth
      have hsettled := hsteady.settled hts
      obtain ⟨us, rfl, hus⟩ := hsteady.carry hts
      have hread := hus [] stops_conditional_nil
      rw [List.append_nil] at hread
      refine .inr ⟨us, t, vs, rfl, rfl, .inl ⟨n, parse_eq_ok_iff_conditional.2 hread⟩, fun vs' hvs => ?_⟩
      exact parse_of_conditional_eq_ok (hus _ (hsettled.look hvs))

/-- Tokens stand in the order of their offsets. -/
def Increasing (ts : List Token) : Prop := ts.Pairwise fun t u => t.offset < u.offset

theorem Increasing.exists_append (h : Increasing ts) (us : List Token) :
    ∃ us', us'.map Token.lexeme = us.map Token.lexeme ∧ Increasing (ts ++ us') := by
  induction us generalizing ts with
  | nil => exact ⟨[], rfl, by rwa [List.append_nil]⟩
  | cons u us ih =>
    obtain ⟨k, hk⟩ : ∃ k, ∀ t ∈ ts, t.offset < k :=
      ⟨(ts.map Token.offset).sum + 1, fun t ht => Nat.lt_succ_of_le (List.le_sum_of_mem (List.mem_map_of_mem ht))⟩
    have hnext : Increasing (ts ++ [⟨u.lexeme, k, 0⟩]) := by
      refine List.pairwise_append.2 ⟨h, List.pairwise_singleton .., fun t ht v hv => ?_⟩
      rw [List.mem_singleton.1 hv]
      exact hk t ht
    obtain ⟨us', hus, hinc⟩ := ih hnext
    refine ⟨⟨u.lexeme, k, 0⟩ :: us', by rw [List.map_cons, List.map_cons, hus], ?_⟩
    rwa [List.append_assoc] at hinc

/-- An offset tells where a token stands. -/
theorem Increasing.eq_length {us vs : List Token} {t : Token} (h : Increasing (us ++ t :: vs)) {i : Nat}
    (hi : i < (us ++ t :: vs).length) (hoffset : (us ++ t :: vs)[i].offset = t.offset) : i = us.length := by
  have hlt : us.length < (us ++ t :: vs).length := by simp
  have ht : (us ++ t :: vs)[us.length] = t := by simp
  have hpairs := List.pairwise_iff_getElem.1 h
  rcases Nat.lt_trichotomy i us.length with hless | heq | hgreater
  · have := hpairs i us.length hi hlt hless
    rw [ht, hoffset] at this
    omega
  · exact heq
  · have := hpairs us.length i hlt hi hgreater
    rw [ht, hoffset] at this
    omega

/-- Errors are exact.  After an early end some tokens complete the expression.  Every other error blames a token: the
tokens before it are an expression or the beginning of one, and only an expression if a remainder is blamed, and the
error is the same for all tokens that agree up to two behind it. -/
theorem parse_error_place (hts : Increasing ts) (h : parse allowRegex ts = .error e) :
    (e = .endOfExpression → ∃ us n, Increasing (ts ++ us) ∧ parse allowRegex (ts ++ us) = .ok n) ∧
    (e ≠ .endOfExpression → ∃ t ∈ ts, e.offset? = some t.offset) ∧
    ∀ (i : Nat) (hi : i < ts.length), e.offset? = some ts[i].offset →
      ((∃ n, parse allowRegex (ts.take i) = .ok n) ∨ parse allowRegex (ts.take i) = .error .endOfExpression) ∧
      (e = .unexpectedRemainder ts[i].offset → ∃ n, parse allowRegex (ts.take i) = .ok n) ∧
      (i + 3 ≤ ts.length → ∀ ts', ts.take (i + 3) <+: ts' → parse allowRegex ts' = .error e) := by
  rcases parse_faulty h with ⟨rfl, us, n, hn⟩ | ⟨us, t, vs, rfl, hoffset, hbefore, hlook⟩
  · -- The tokens that complete the expression get new offsets, which changes nothing but ranges.
    refine ⟨fun _ => ?_, fun hne => absurd rfl hne, fun i hi he => nomatch he⟩
    obtain ⟨us', hlexemes, hinc⟩ := hts.exists_append us
    have hall : (ts ++ us').map Token.lexeme = (ts ++ us).map Token.lexeme := by
      rw [List.map_append, List.map_append, hlexemes]
    obtain ⟨n', hn', -⟩ := exists_parse_of_lexemes hn hall
    exact ⟨us', n', hinc, hn'⟩
  · refine ⟨fun he => ?_, fun _ => ⟨t, by simp, hoffset⟩, fun i hi he => ?_⟩
    · rw [he] at hoffset
      cases hoffset
    · obtain rfl := hts.eq_length hi (Option.some.inj (he.symm.trans hoffset))
      have ht : (us ++ t :: vs)[us.length] = t := by simp
      rw [List.take_left, ht]
      refine ⟨hbefore.imp_right And.left, fun hremainder => ?_, fun hlength ts' hts' => ?_⟩
      · exact hbefore.resolve_right fun hend => hend.2 hremainder
      · obtain ⟨more, rfl⟩ := hts'
        rw [List.length_append, List.length_cons] at hlength
        have htake : (us ++ t :: vs).take (us.length + 3) = us ++ t :: vs.take 2 := by
          rw [List.take_append, List.take_of_length_le (by omega), Nat.add_sub_cancel_left, List.take_succ_cons]
        rw [htake, List.append_assoc, List.cons_append]
        refine hlook _ ?_
        rw [maxOperatorLength, List.take_succ_cons, List.take_succ_cons,
          List.take_append_of_le_length (by rw [List.length_take]; omega), List.take_take, Nat.min_self]

/-- In `a+)bc` the bracket is blamed, whatever stands behind `c`. -/
theorem parse_error_place_bracket : ∃ ts : List Token, ts.map Token.offset = [0, 1, 2, 3, 4] ∧ Increasing ts ∧
    parse false ts = .error (.unexpectedToken 2) ∧
    ((∃ n, parse false (ts.take 2) = .ok n) ∨ parse false (ts.take 2) = .error .endOfExpression) ∧
    ∀ us, parse false (ts ++ us) = .error (.unexpectedToken 2) := by
  have hts : Increasing [⟨.identifier "a", 0, 1⟩, ⟨.symbol '+', 1, 1⟩, ⟨.symbol ')', 2, 1⟩, ⟨.identifier "b", 3, 1⟩,
      ⟨.identifier "c", 4, 1⟩] := by
    simp [Increasing]
  have h : parse false [⟨.identifier "a", 0, 1⟩, ⟨.symbol '+', 1, 1⟩, ⟨.symbol ')', 2, 1⟩, ⟨.identifier "b", 3, 1⟩,
      ⟨.identifier "c", 4, 1⟩] = .error (.unexpectedToken 2) := by cbv
  obtain ⟨hbefore, -, hsame⟩ := (parse_error_place hts h).2.2 2 (by decide) rfl
  exact ⟨_, rfl, hts, h, hbefore, fun us => hsame (by decide) _ (List.prefix_append ..)⟩

end ExprLang
