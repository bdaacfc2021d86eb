import ExprLang.Proofs.MachineSteps
import ExprLang.Proofs.ParserSound
import ExprLang.Proofs.ResultRange
import ExprLang.Proofs.Tokenizing

/-!
# The machine reads what the parsers read

From a sound trail, each parser of the machine agrees with the parser of the grammar whose budget is what the depth leaves
of the greatest one (`Agreement`).  The induction is on this budget, with one lemma for each parser.  A parser passes over
at least one token and comes back to its depth; of the loops this is not claimed, since the depth behind them is restored by
the parser that runs them.  The ranges that the machine covers stop where tokens do.  So the machine ends on all tokens with
the tree or the error of `parse` (`tree_agrees`), and neither it nor any call of a parser breaks (`call_safe`,
`never_breaks`), unless words do not hold where the tokens stop.  For the tokens of a source they do
(`tree_ends_of_tokenize`).
-/

open ExprLang.Parser (standard)

namespace ExprLang.Machine

variable {α : Type} {allowRegex : Bool} {tokens : List Token} {b : Nat}

/-- From a cursor with a budget left, a run reads what a parser reads with this budget.  The result has a range. -/
def Reads (tokens : List Token) (b : Nat) (range : α → Range) (action : Nat → Run α)
    (parser : List Token → Except SyntaxError (α × List Token)) : Prop :=
  ∀ (t : Trail) (ts : List Token), t.rest tokens = ts → b + t.now.depth = maxDepth →
    Agrees tokens action t (parser ts) fun a x t' => x = (a, t'.rest tokens) ∧ t.Passes t' ∧ Bounded tokens (range a)

/-- From a cursor with a budget left, a loop that starts with a node reads what a parser reads with this budget. -/
def Repeats (tokens : List Token) (b : Nat) (first : Node) (action : Nat → Run Node)
    (parser : List Token → Except SyntaxError (Node × List Token)) : Prop :=
  Bounded tokens first.range → ∀ (t : Trail) (ts : List Token), t.rest tokens = ts → b + t.now.depth = maxDepth →
    Agrees tokens action t (parser ts) fun n x t' => x = (n, t'.rest tokens) ∧ Bounded tokens n.range

/-- The machine agrees with the parsers with a budget. -/
structure Agreement (allowRegex : Bool) (tokens : List Token) (b : Nat) : Prop where
  conditional : Reads tokens b Node.range (conditional allowRegex tokens) (Parser.conditional (standard allowRegex) b)
  binary (levels : List OperatorTable) :
    Reads tokens b Node.range (fun fuel => binary allowRegex tokens fuel levels)
      (Parser.chain (standard allowRegex) b levels)
  folds (table : OperatorTable) (levels : List OperatorTable) (left : Node) :
    Repeats tokens b left (fun fuel => folds allowRegex tokens fuel table levels left)
      (Parser.folds (standard allowRegex) b table levels left)
  exponent : Reads tokens b Node.range (exponent allowRegex tokens) (Parser.exponent (standard allowRegex) b)
  unary : Reads tokens b Node.range (unary allowRegex tokens) (Parser.unary (standard allowRegex) b)
  member : Reads tokens b Node.range (member allowRegex tokens) (Parser.member (standard allowRegex) b)
  steps (object : Node) :
    Repeats tokens b object (fun fuel => steps allowRegex tokens fuel object)
      (Parser.steps (standard allowRegex) b object)
  primary : Reads tokens b Node.range (primary allowRegex tokens) (Parser.primary (standard allowRegex) b)
  list (close : Char) (trailing : Bool) :
    Reads tokens b Prod.snd (fun fuel => list allowRegex tokens fuel close trailing)
      (Parser.list (Parser.conditional (standard allowRegex) b) close trailing)

/-! ### Lists -/

section
variable {t : Trail} {ts : List Token} {close : Char}

/-- Where a list may end, its end is read or else it goes on. -/
theorem closing_agrees {ns ns' : List Node} {more : Nat → Run (List Node × Range)}
    {parsed : Except SyntaxError ((List Node × Range) × List Token)}
    {tied : List Node × Range → (List Node × Range) × List Token → Trail → Prop} (hts : t.rest tokens = ts)
    (hclose : ∀ range, Bounded tokens range → tied (ns, range) ((ns', range), (t.past 1).rest tokens) (t.past 1))
    (hmore : Agrees tokens more t parsed tied) :
    Agrees tokens
      (fun fuel => do
        match ← peekSymbol tokens close with
        | some u =>
          advance 1
          return (ns, u.range)
        | none => more fuel)
      t
      (match ts with
        | u :: us => if u.isSymbol close then .ok ((ns', u.range), us) else parsed
        | [] => parsed)
      tied := by
  refine Agrees.peekSymbol ?_
  rw [hts]
  cases ts with
  | nil => exact hmore
  | cons u us =>
    by_cases h : u.isSymbol close
    · simp only [List.head?_cons, Option.filter_some, h, if_true]
      refine Agrees.advance (by simp [hts]) (Agrees.pure ?_)
      have hus : us = (t.past 1).rest tokens := by rw [Trail.rest_past, hts]; rfl
      rw [hus]
      exact hclose u.range (bounded_token (Trail.mem_of_rest (hts ▸ List.mem_cons_self ..)))
    · simp only [List.head?_cons, Option.filter_some, h, Bool.false_eq_true, if_false]
      exact hmore

variable
  (hconditional :
    Reads tokens b Node.range (conditional allowRegex tokens) (Parser.conditional (standard allowRegex) b))
include hconditional

theorem items_agrees {trailing : Bool} {n : Nat} {before : List Node} (hts : t.rest tokens = ts)
    (hb : b + t.now.depth = maxDepth) (hn : ts.length < n) :
    Agrees tokens (fun fuel => items allowRegex tokens fuel close trailing before) t
      (Parser.items (Parser.conditional (standard allowRegex) b) close trailing n ts) fun a x t' =>
        a = (before ++ x.1.1, x.1.2) ∧ x.2 = t'.rest tokens ∧ t.Passes t' ∧ Bounded tokens a.2 := by
  induction n generalizing before t ts with
  | zero => omega
  | succ n ih =>
    refine Agrees.succ ?_
    simp only [Machine.items]
    rw [Parser.items]
    refine (hconditional t ts hts hb).bind ?_
    rintro item _ t₁ hsound₁ - ⟨rfl, ⟨hforward, hdepth⟩, -⟩
    refine Agrees.nextRequired.bind ?_
    rintro u _ _ - - ⟨rfl, rfl, hu⟩
    generalize ht₂ : t₁.past 1 = t₂
    have hpasses : t.Passes t₂ := by
      rw [← ht₂]
      exact ⟨Nat.lt_succ_of_lt hforward, hdepth⟩
    -- the number that bounds the items of the parser is enough for the tokens that are left
    have hn' : (t₂.rest tokens).length < n := by
      have hposition := hsound₁.position_le
      rw [← hts, Trail.length_rest] at hn
      rw [← ht₂, Trail.length_rest, Trail.position_past]
      omega
    have hmore : Agrees tokens (fun fuel => items allowRegex tokens fuel close trailing (before ++ [item])) t₂
        (Parser.items (Parser.conditional (standard allowRegex) b) close trailing n (t₂.rest tokens) >>= fun x =>
          pure ((item :: x.1.1, x.1.2), x.2))
        fun a x t' => a = (before ++ x.1.1, x.1.2) ∧ x.2 = t'.rest tokens ∧ t.Passes t' ∧ Bounded tokens a.2 := by
      refine (ih rfl (by rw [hpasses.depth, hb]) hn').tie ?_
      rintro _ ⟨⟨more, range⟩, _⟩ t' ⟨rfl, rfl, ⟨hforward', hdepth'⟩, hrange⟩
      refine ⟨_, rfl, by simp, rfl, ⟨?_, hdepth'.trans hpasses.depth⟩, hrange⟩
      exact Nat.lt_trans hpasses.forward hforward'
    simp only
    by_cases hclose : u.isSymbol close
    · simp only [hclose, if_true]
      exact Agrees.pure ⟨rfl, rfl, hpasses, hu⟩
    · by_cases hcomma : u.isSymbol ','
      · simp only [hclose, hcomma, Bool.false_eq_true, if_true, if_false]
        have hlast : t.Passes (t₂.past 1) := ⟨Nat.lt_succ_of_lt hpasses.forward, hpasses.depth⟩
        cases trailing with
        | true =>
          simp only [if_true, Bool.true_and]
          exact closing_agrees rfl (fun range hrange => ⟨rfl, rfl, hlast, hrange⟩) hmore
        | false =>
          simp only [Bool.false_eq_true, if_false, Bool.false_and]
          split <;> exact hmore
      · simp only [hclose, hcomma, Bool.false_eq_true, if_false]
        exact Agrees.reject

theorem list_reads (close : Char) (trailing : Bool) :
    Reads tokens b Prod.snd (fun fuel => list allowRegex tokens fuel close trailing)
      (Parser.list (Parser.conditional (standard allowRegex) b) close trailing) := by
  have hlist (ts : List Token) : Parser.list (Parser.conditional (standard allowRegex) b) close trailing ts =
      match ts with
      | u :: us =>
        if u.isSymbol close then .ok (([], u.range), us)
        else Parser.items (Parser.conditional (standard allowRegex) b) close trailing (ts.length + 1) ts
      | [] => Parser.items (Parser.conditional (standard allowRegex) b) close trailing (ts.length + 1) ts := by
    cases ts <;> rfl
  intro t ts hts hb
  refine Agrees.succ ?_
  simp only [Machine.list]
  rw [hlist]
  refine closing_agrees hts (fun range hrange => ⟨rfl, ⟨Nat.lt_succ_self _, rfl⟩, hrange⟩) ?_
  refine (items_agrees hconditional hts hb (Nat.lt_succ_self _)).mono ?_
  rintro _ ⟨⟨ns, range⟩, _⟩ t' ⟨rfl, rfl, hpasses, hrange⟩
  exact ⟨rfl, hpasses, hrange⟩

end

/-! ### Operators -/

theorem exists_cons_of_globalRule {table : OperatorTable} {ts : List Token} {op : BinaryOp}
    (h : Parser.globalRule table ts = some op) : op.spelling.length ≤ ts.length ∧ ∃ u us, ts = u :: us := by
  have hlength := (globalRule_eq_some_iff.1 h).2.length_le
  have hpos := List.length_pos_iff.2 op.spelling_ne_nil
  exact ⟨hlength, List.exists_cons_of_length_pos (Nat.lt_of_lt_of_le hpos hlength)⟩

/-! ### The parsers -/

section
variable (below : ∀ c, b = c + 1 → Agreement allowRegex tokens c)
include below

theorem primary_reads : Reads tokens b Node.range (primary allowRegex tokens) (Parser.primary (standard allowRegex) b) := by
  intro t ts hts hb
  refine Agrees.succ ?_
  simp only [Machine.primary]
  rw [Parser.primary, ← hts]
  refine Agrees.nextRequired.bind ?_
  rintro u _ _ - - ⟨rfl, rfl, hu⟩
  have hforward : t.now.position < (t.past 1).now.position := Nat.lt_succ_self _
  simp only
  cases u.lexeme with
  | literal v => exact Agrees.pure ⟨rfl, ⟨hforward, rfl⟩, hu⟩
  | identifier name => exact Agrees.pure ⟨rfl, ⟨hforward, rfl⟩, hu⟩
  | regex pattern flags =>
    cases allowRegex with
    | false => exact Agrees.reject
    | true => exact Agrees.pure ⟨rfl, ⟨hforward, rfl⟩, hu⟩
  | symbol c =>
    by_cases hparen : c = '('
    · simp only [hparen, true_or, if_true]
      cases b with
      | zero => exact Agrees.descend_limit hb
      | succ b =>
        refine Agrees.descend hb ?_
        refine ((below b rfl).conditional _ _ rfl (by rw [Trail.depth_toDepth, Trail.depth_past]; omega)).bind ?_
        rintro inner _ t' - - ⟨rfl, ⟨hforward', hdepth'⟩, -⟩
        refine Agrees.expectSymbol.bind ?_
        rintro close _ _ - - ⟨rfl, rfl, hclose⟩
        -- the inner expression is back at its depth, so there is a level to take off
        refine Agrees.ascend hdepth' (Agrees.cover hu hclose (Agrees.pure ⟨rfl, ⟨?_, rfl⟩, ?_⟩))
        · exact Nat.lt_succ_of_lt (Nat.lt_trans hforward hforward')
        · rw [Node.range_withRange]
          exact hu.cover hclose
    · by_cases hbracket : c = '['
      · simp only [hbracket, Char.reduceEq, or_true, if_true, if_false]
        cases b with
        | zero => exact Agrees.descend_limit hb
        | succ b =>
          refine Agrees.descend hb ?_
          refine ((below b rfl).list ']' true _ _ rfl (by rw [Trail.depth_toDepth, Trail.depth_past]; omega)).bind ?_
          rintro ⟨entries, close⟩ _ t' - - ⟨rfl, ⟨hforward', hdepth'⟩, hclose⟩
          refine Agrees.ascend hdepth' (Agrees.cover hu hclose (Agrees.pure ⟨rfl, ⟨?_, rfl⟩, hu.cover hclose⟩))
          exact Nat.lt_trans hforward hforward'
      · simp only [hparen, hbracket, or_self, if_false]
        exact Agrees.reject

theorem steps_repeats (object : Node) :
    Repeats tokens b object (fun fuel => steps allowRegex tokens fuel object)
      (Parser.steps (standard allowRegex) b object) := by
  intro hobject t ts hts hb
  refine Agrees.succ ?_
  simp only [Machine.steps]
  refine Agrees.peek ?_
  rw [hts, Parser.steps.eq_def]
  cases ts with
  | nil => exact Agrees.pure ⟨by rw [hts], hobject⟩
  | cons u us =>
    simp only [List.head?_cons]
    by_cases hstep : u.isSymbol '.' ∨ u.isSymbol '[' ∨ u.isSymbol '('
    · simp only [hstep, if_true]
      cases b with
      | zero => exact Agrees.descend_limit hb
      | succ b =>
        have hs := below b rfl
        refine Agrees.descend hb (Agrees.advance (by simp [hts]) ?_)
        have hrest : ((t.toDepth (t.now.depth + 1)).past 1).rest tokens = us := by simp [hts]
        have hbudget : b + ((t.toDepth (t.now.depth + 1)).past 1).now.depth = maxDepth := by
          rw [Trail.depth_past, Trail.depth_toDepth]
          omega
        generalize (t.toDepth (t.now.depth + 1)).past 1 = t' at *
        by_cases hpoint : u.isSymbol '.'
        · simp only [hpoint, if_true, ← hrest]
          refine Agrees.nextRequired.bind ?_
          rintro key _ _ - - ⟨rfl, rfl, hrange⟩
          simp only
          cases hkey : key.lexeme with
          | identifier name =>
            refine Agrees.cover hobject hrange ?_
            refine hs.steps _ ?_ _ _ rfl hbudget
            exact hobject.cover hrange
          | literal v => exact Agrees.reject
          | regex pattern flags => exact Agrees.reject
          | symbol c => exact Agrees.reject
        · by_cases hbracket : u.isSymbol '['
          · simp only [hpoint, hbracket, Bool.false_eq_true, if_true, if_false]
            refine (hs.conditional t' us hrest hbudget).bind ?_
            rintro key _ t₁ - - ⟨rfl, ⟨-, hdepth⟩, -⟩
            refine Agrees.expectSymbol.bind ?_
            rintro close _ _ - - ⟨rfl, rfl, hclose⟩
            refine Agrees.cover hobject hclose ?_
            refine hs.steps _ ?_ _ _ rfl (by rw [Trail.depth_past, hdepth, hbudget])
            exact hobject.cover hclose
          · simp only [hpoint, hbracket, Bool.false_eq_true, if_false]
            refine (hs.list ')' false t' us hrest hbudget).bind ?_
            rintro ⟨arguments, close⟩ _ t₁ - - ⟨rfl, ⟨-, hdepth⟩, hclose⟩
            refine Agrees.cover hobject hclose ?_
            refine hs.steps _ ?_ _ _ rfl (by rw [hdepth, hbudget])
            exact hobject.cover hclose
    · simp only [hstep, if_false]
      exact Agrees.pure ⟨by rw [hts], hobject⟩

theorem member_reads : Reads tokens b Node.range (member allowRegex tokens) (Parser.member (standard allowRegex) b) := by
  intro t ts hts hb
  refine Agrees.succ ?_
  simp only [Machine.member]
  rw [Parser.member]
  refine Agrees.cursor ((primary_reads below t ts hts hb).bind ?_)
  rintro object _ t' - - ⟨rfl, ⟨hforward, hdepth⟩, hobject⟩
  -- the loop ends somewhere deeper, and the depth is the one saved before the object
  refine (steps_repeats below object hobject _ _ rfl (by rw [hdepth, hb])).bind_pure ?_
  rintro n _ t'' hsound'' hsuffix ⟨rfl, hn⟩
  refine Agrees.setDepth (by omega) (Agrees.pure ⟨rfl, ⟨?_, rfl⟩, hn⟩)
  exact Nat.lt_of_lt_of_le hforward (hsound''.position_le_of_suffix hsuffix)

theorem unary_reads : Reads tokens b Node.range (unary allowRegex tokens) (Parser.unary (standard allowRegex) b) := by
  intro t ts hts hb
  have hmember := member_reads below t ts hts hb
  refine Agrees.succ ?_
  simp only [Machine.unary]
  refine Agrees.peek ?_
  rw [hts]
  cases ts with
  | nil =>
    rw [Parser.unary]
    exact hmember
  | cons u us =>
    rw [Parser.unary, List.head?_cons]
    cases hop : Parser.unaryOp? u with
    | none =>
      simp only [hop]
      exact hmember
    | some op =>
      simp only [hop]
      refine Agrees.cursor ?_
      cases b with
      | zero => exact Agrees.descend_limit hb
      | succ b =>
        refine Agrees.descend hb (Agrees.advance (by simp [hts]) ?_)
        refine ((below b rfl).unary _ us (by simp [hts]) (by rw [Trail.depth_past, Trail.depth_toDepth]; omega)).bind ?_
        rintro operand _ t' - - ⟨rfl, ⟨hforward, -⟩, hoperand⟩
        have hu := bounded_token (Trail.mem_of_rest (hts ▸ List.mem_cons_self ..))
        refine Agrees.setDepth (by omega) (Agrees.cover hu hoperand (Agrees.pure ⟨rfl, ⟨?_, rfl⟩, hu.cover hoperand⟩))
        exact Nat.lt_of_succ_lt hforward

theorem exponent_reads :
    Reads tokens b Node.range (exponent allowRegex tokens) (Parser.exponent (standard allowRegex) b) := by
  intro t ts hts hb
  refine Agrees.succ ?_
  simp only [Machine.exponent]
  rw [Parser.exponent]
  refine (unary_reads below t ts hts hb).bind ?_
  rintro base _ t' - - ⟨rfl, ⟨hforward, hdepth⟩, hbase⟩
  refine Agrees.matchOperator ?_
  simp only
  cases hop : Parser.globalRule exponentialLevel (t'.rest tokens) with
  | none => exact Agrees.pure ⟨rfl, ⟨hforward, hdepth⟩, hbase⟩
  | some op =>
    obtain ⟨hlength, u, us, hrest⟩ := exists_cons_of_globalRule hop
    refine Agrees.cursor (Agrees.current hrest ?_)
    simp only [hrest]
    cases b with
    | zero => exact Agrees.descend_limit (by rw [hdepth, hb])
    | succ b =>
      refine Agrees.descend (by rw [hdepth, hb]) (Agrees.advance hlength ?_)
      refine ((below b rfl).exponent _ _ (by simp [hrest]) (by rw [Trail.depth_past, Trail.depth_toDepth]; omega)).bind ?_
      rintro power _ t'' - - ⟨rfl, ⟨hforward', -⟩, hpower⟩
      refine Agrees.setDepth (by omega) (Agrees.cover hbase hpower (Agrees.pure ⟨rfl, ⟨?_, hdepth⟩, hbase.cover hpower⟩))
      rw [Trail.position_past, Trail.position_toDepth] at hforward'
      rw [Trail.position_toDepth]
      omega

theorem folds_repeats (table : OperatorTable) (levels : List OperatorTable) (left : Node) :
    Repeats tokens b left (fun fuel => folds allowRegex tokens fuel table levels left)
      (Parser.folds (standard allowRegex) b table levels left) := by
  intro hleft t ts hts hb
  refine Agrees.succ ?_
  simp only [Machine.folds]
  rw [Parser.folds]
  refine Agrees.matchOperator ?_
  rw [hts]
  cases hop : Parser.globalRule table ts with
  | none =>
    simp only [hop]
    exact Agrees.pure ⟨by rw [hts], hleft⟩
  | some op =>
    obtain ⟨hlength, u, us, rfl⟩ := exists_cons_of_globalRule hop
    refine Agrees.current hts ?_
    simp only [hop]
    cases b with
    | zero => exact Agrees.descend_limit hb
    | succ b =>
      have hs := below b rfl
      refine Agrees.descend hb (Agrees.advance (by rwa [Trail.rest_toDepth, hts]) ?_)
      refine (hs.binary levels _ _ (by simp [hts]) (by rw [Trail.depth_past, Trail.depth_toDepth]; omega)).bind ?_
      rintro right _ t' - - ⟨rfl, ⟨-, hdepth⟩, hright⟩
      refine Agrees.cover hleft hright ?_
      refine hs.folds table levels _ ?_ _ _ rfl ?_
      · exact hleft.cover hright
      · rw [hdepth, Trail.depth_past, Trail.depth_toDepth]
        omega

theorem binary_reads (levels : List OperatorTable) :
    Reads tokens b Node.range (fun fuel => binary allowRegex tokens fuel levels)
      (Parser.chain (standard allowRegex) b levels) := by
  induction levels with
  | nil =>
    intro t ts hts hb
    refine Agrees.succ ?_
    simp only [Machine.binary]
    rw [Parser.chain]
    exact exponent_reads below t ts hts hb
  | cons table levels ih =>
    intro t ts hts hb
    refine Agrees.succ ?_
    simp only [Machine.binary]
    rw [Parser.chain]
    refine Agrees.cursor ((ih t ts hts hb).bind ?_)
    rintro left _ t' - - ⟨rfl, ⟨hforward, hdepth⟩, hleft⟩
    -- as behind a member, the depth is the one saved before the left operand
    refine (folds_repeats below table levels left hleft _ _ rfl (by rw [hdepth, hb])).bind_pure ?_
    rintro n _ t'' hsound'' hsuffix ⟨rfl, hn⟩
    refine Agrees.setDepth (by omega) (Agrees.pure ⟨rfl, ⟨?_, rfl⟩, hn⟩)
    exact Nat.lt_of_lt_of_le hforward (hsound''.position_le_of_suffix hsuffix)

theorem conditional_reads :
    Reads tokens b Node.range (conditional allowRegex tokens) (Parser.conditional (standard allowRegex) b) := by
  intro t ts hts hb
  refine Agrees.succ ?_
  simp only [Machine.conditional]
  rw [Parser.conditional]
  refine (binary_reads below binaryLevels t ts hts hb).bind ?_
  rintro condition _ t' - - ⟨rfl, ⟨hforward, hdepth⟩, hcondition⟩
  refine Agrees.peekSymbol ?_
  simp only
  cases hrest : t'.rest tokens with
  | nil => exact Agrees.pure ⟨by rw [hrest], ⟨hforward, hdepth⟩, hcondition⟩
  | cons question us =>
    by_cases hquestion : question.isSymbol '?'
    · simp only [List.head?_cons, Option.filter_some, hquestion, if_true]
      refine Agrees.advance (by simp [hrest]) (Agrees.cursor ?_)
      have hrest' : (t'.past 1).rest tokens = us := by simp [hrest]
      have hdepth' : (t'.past 1).now.depth = t.now.depth := hdepth
      have hforward' : t.now.position < (t'.past 1).now.position := Nat.lt_succ_of_lt hforward
      generalize t'.past 1 = t' at *
      cases b with
      | zero => exact Agrees.descend_limit (by rw [hdepth', hb])
      | succ b =>
        have hs := below b rfl
        have hbudget : b + (t'.now.depth + 1) = maxDepth := by omega
        refine Agrees.descend (by rw [hdepth', hb]) ?_
        refine (hs.conditional (t'.toDepth (t'.now.depth + 1)) us hrest' hbudget).bind ?_
        rintro consequent _ t₁ - - ⟨rfl, ⟨hforward₁, hdepth₁⟩, -⟩
        refine Agrees.expectSymbol.bind ?_
        rintro _ _ _ - - ⟨rfl, rfl, -⟩
        refine (hs.conditional _ _ rfl (by rw [Trail.depth_past, hdepth₁]; exact hbudget)).bind ?_
        rintro alternate _ t₂ - - ⟨rfl, ⟨hforward₂, -⟩, halternate⟩
        refine Agrees.setDepth (by omega) (Agrees.cover hcondition halternate
          (Agrees.pure ⟨rfl, ⟨?_, hdepth'⟩, hcondition.cover halternate⟩))
        exact Nat.lt_trans (Nat.lt_trans hforward' hforward₁) (Nat.lt_of_succ_lt hforward₂)
    · simp only [List.head?_cons, Option.filter_some, hquestion, Bool.false_eq_true, if_false]
      exact Agrees.pure ⟨by rw [hrest], ⟨hforward, hdepth⟩, hcondition⟩

end

/-- The machine agrees with the parsers, whatever budget is left. -/
theorem agreement (allowRegex : Bool) (tokens : List Token) : ∀ b, Agreement allowRegex tokens b := by
  refine Parser.budget_induction fun b below => ?_
  have hconditional := conditional_reads below
  exact {
    conditional := hconditional
    binary := binary_reads below
    folds := folds_repeats below
    exponent := exponent_reads below
    unary := unary_reads below
    member := member_reads below
    steps := steps_repeats below
    primary := primary_reads below
    list := list_reads hconditional }

/-! ### The machine as a whole -/

/-- The calls of the parsers. -/
inductive Call where
  | conditional
  | binary (levels : List OperatorTable)
  | exponent
  | unary
  | member
  | primary
  | list (close : Char) (trailing : Bool)

/-- The run of a call, whatever it reads. -/
def Call.run (allowRegex : Bool) (tokens : List Token) (call : Call) (fuel : Nat) : Run Unit :=
  match call with
  | conditional => discard (Machine.conditional allowRegex tokens fuel)
  | binary levels => discard (Machine.binary allowRegex tokens fuel levels)
  | exponent => discard (Machine.exponent allowRegex tokens fuel)
  | unary => discard (Machine.unary allowRegex tokens fuel)
  | member => discard (Machine.member allowRegex tokens fuel)
  | primary => discard (Machine.primary allowRegex tokens fuel)
  | list close trailing => discard (Machine.list allowRegex tokens fuel close trailing)

/-- A run ends, and breaks at most by an overflow, which takes tokens that are not addressable; the trail goes on soundly,
and passes over tokens if there is a result. -/
def Safe (tokens : List Token) (action : Nat → Run α) (t : Trail) : Prop :=
  ∃ outcome t', Ends action t outcome t' ∧ t'.Sound tokens ∧ t.cursors <:+ t'.cursors ∧
    (∀ fault, outcome = .error (.broken fault) → Overflowed tokens outcome) ∧ ∀ a, outcome = .ok a → t.Passes t'

theorem Reads.safe {range : α → Range} {action : Nat → Run α}
    {parser : Nat → List Token → Except SyntaxError (α × List Token)}
    (h : ∀ b, Reads tokens b range action (parser b)) {t : Trail} (hsound : t.Sound tokens) :
    Safe tokens (fun fuel => discard (action fuel)) t := by
  have hdiscard (fuel : Nat) : discard (action fuel) = action fuel >>= fun _ => pure () :=
    (bind_pure_comp (fun _ => ()) (action fuel)).symm
  obtain ⟨outcome, t', hends, hsound', hsuffix, houtcome⟩ :=
    h (maxDepth - t.now.depth) t _ rfl (Nat.sub_add_cancel hsound.depth_le) hsound
  simp only [hdiscard, Safe]
  rcases houtcome with ⟨rfl, hoverflow⟩ | houtcome
  · exact ⟨_, t', hends.bind_error, hsound', hsuffix, fun _ _ => ⟨rfl, hoverflow⟩, nofun⟩
  split at houtcome
  · obtain ⟨a, rfl, -, hpasses, -⟩ := houtcome
    exact ⟨.ok (), t', hends.bind (.const rfl), hsound', hsuffix, nofun, fun _ _ => hpasses⟩
  · subst houtcome
    exact ⟨_, t', hends.bind_error, hsound', hsuffix, nofun, nofun⟩

theorem tree_agrees (allowRegex : Bool) (tokens : List Token) :
    Agrees tokens (tree allowRegex tokens) .start (parse allowRegex tokens) fun n n' _ => n = n' := by
  unfold tree parse Parser.parseWith
  refine ((agreement allowRegex tokens maxDepth).conditional .start tokens rfl rfl).bind ?_
  rintro n _ t - - ⟨rfl, -⟩
  refine Agrees.peek ?_
  simp only
  cases t.rest tokens with
  | nil => exact Agrees.pure rfl
  | cons u us => exact Agrees.reject

theorem call_safe (call : Call) {t : Trail} (hsound : t.Sound tokens) : Safe tokens (call.run allowRegex tokens) t := by
  cases call with
  | conditional => exact Reads.safe (fun b => (agreement allowRegex tokens b).conditional) hsound
  | binary levels => exact Reads.safe (fun b => (agreement allowRegex tokens b).binary levels) hsound
  | exponent => exact Reads.safe (fun b => (agreement allowRegex tokens b).exponent) hsound
  | unary => exact Reads.safe (fun b => (agreement allowRegex tokens b).unary) hsound
  | member => exact Reads.safe (fun b => (agreement allowRegex tokens b).member) hsound
  | primary => exact Reads.safe (fun b => (agreement allowRegex tokens b).primary) hsound
  | list close trailing => exact Reads.safe (fun b => (agreement allowRegex tokens b).list close trailing) hsound

/-- The machine ends on all tokens with the tree or the error of `parse`, unless it overflows. -/
theorem tree_ends (allowRegex : Bool) (tokens : List Token) :
    ∃ outcome, ∃ t : Trail, Ends (tree allowRegex tokens) .start outcome t ∧ t.Sound tokens ∧
      Trail.start.cursors <:+ t.cursors ∧
      (Overflowed tokens outcome ∨ outcome = (parse allowRegex tokens).mapError .rejected) := by
  obtain ⟨outcome, t, hends, hsound, hsuffix, houtcome⟩ :=
    tree_agrees allowRegex tokens (Trail.sound_start tokens)
  refine ⟨outcome, t, hends, hsound, hsuffix, houtcome.imp_right fun houtcome => ?_⟩
  cases hparse : parse allowRegex tokens with
  | error e =>
    rw [hparse] at houtcome
    exact houtcome
  | ok n =>
    rw [hparse] at houtcome
    obtain ⟨_, rfl, rfl⟩ := houtcome
    rfl

/-- The machine ends on all tokens.  Where words hold the number of the tokens and where each of them stops, it ends with
the tree or the error of `parse`; elsewhere it may also break, but only by an overflow.  All its cursors are within the
tokens and the greatest depth, and it never goes back.  No call of a parser breaks in another way either, wherever the
machine is: it ends, and with a result it has passed over at least one token and is back at its depth. -/
theorem never_breaks (allowRegex : Bool) (tokens : List Token) :
    (∃ outcome, ∃ t : Trail, Ends (tree allowRegex tokens) .start outcome t ∧ t.Sound tokens ∧
      Trail.start.cursors <:+ t.cursors ∧
      (Overflowed tokens outcome ∨ outcome = (parse allowRegex tokens).mapError .rejected)) ∧
    ∀ (call : Call) (t : Trail), t.Sound tokens → Safe tokens (call.run allowRegex tokens) t :=
  ⟨tree_ends allowRegex tokens, fun call _ => call_safe call⟩

/-- A word does not hold where the first token stops, so the range of the sum overflows. -/
example :
    let tokens : List Token := [⟨.literal .null, maxWord, 1⟩, ⟨.symbol '+', 1, 1⟩, ⟨.literal .null, 2, 1⟩]
    ((tree true tokens 30).outcome .start).map Prod.fst = some (.error (.broken .overflow)) := rfl

theorem never_breaks_in_brackets :
    let tokens : List Token := [⟨.symbol '(', 0, 1⟩, ⟨.identifier "a", 1, 1⟩, ⟨.symbol ')', 2, 1⟩]
    let t := (Trail.start.past 1).toDepth 1
    Addressable tokens ∧ t.Sound tokens ∧ Safe tokens (Call.conditional.run true tokens) t := by
  intro tokens t
  have hsound : t.Sound tokens := ⟨by decide, by decide⟩
  exact ⟨⟨by decide, by decide⟩, hsound, (never_breaks true tokens).2 .conditional t hsound⟩

/-! ### Sources -/

/-- The tokens of a source are addressable if its length is. -/
theorem addressable_of_tokenize {source : String} (h : tokenize source = .ok tokens)
    (hlength : Text.byteLength source.toList ≤ maxWord) : Addressable tokens := by
  have hreads := Lexer.scan_eq_ok_iff.1 h
  refine ⟨Nat.le_trans hreads.length_le hlength, fun u hu => Nat.le_trans (hreads.stop_le hu) ?_⟩
  rwa [Nat.zero_add]

/-- On the tokens of a source the machine does not break at all. -/
theorem tree_ends_of_tokenize {source : String} (h : tokenize source = .ok tokens)
    (hlength : Text.byteLength source.toList ≤ maxWord) (allowRegex : Bool) :
    ∃ t, Ends (tree allowRegex tokens) .start ((parse allowRegex tokens).mapError .rejected) t := by
  obtain ⟨outcome, t, hends, -, -, ⟨-, hoverflow⟩ | rfl⟩ := tree_ends allowRegex tokens
  · exact absurd (addressable_of_tokenize h hlength) hoverflow
  · exact ⟨t, hends⟩

end ExprLang.Machine
