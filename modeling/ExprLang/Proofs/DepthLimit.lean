import ExprLang.Proofs.TreeDepth
import ExprLang.Token.Lexer

/-!
# What the depth limit allows

The bound on the nesting is attained (`exists_deepest`): around an array with an expression that is allowed one less,
each member step, `**`, each fold at each of the six levels and a conditional can add an edge on the way to the array.
So the trees that the parser returns are at most `deepestTree maxDepth` deep, and that deep.  They are within the
depth limit exactly if the nesting of their derivation is.
-/

open ExprLang.Parser

namespace ExprLang

/-- Whatever their places in the source, tokens with these lexemes have a derivation that a budget allows and that is
nested to a depth. -/
def Reaches (r : Bool) (p : Phrase) (budget depth : Nat) (lexemes : List Lexeme) : Prop :=
  ∀ ts rest : List Token, ts.map Token.lexeme = lexemes →
    ∃ d : Derivation r p (ts ++ rest) rest, d.charge ≤ budget ∧ d.nesting = depth

namespace Reaches

variable {r : Bool} {b k depth : Nat} {ls : List Lexeme} {v : Value}

/-! ### A literal -/

theorem literal_unary : Reaches r .unary b 0 [.literal v] := by
  intro ts rest h
  obtain ⟨t, rfl, ht⟩ := List.map_eq_singleton_iff.1 h
  exact ⟨.unsigned (.object (.literal t v ht)), Nat.zero_le _, rfl⟩

theorem literal_exponent : Reaches r .exponent b 0 [.literal v] := by
  intro ts rest h
  obtain ⟨d, hc, hd⟩ := literal_unary ts rest h
  exact ⟨.base d, hc, hd⟩

theorem literal_chain (levels : List OperatorTable) : Reaches r (.chain levels) b 0 [.literal v] := by
  intro ts rest h
  induction levels with
  | nil =>
    obtain ⟨d, hc, hd⟩ := literal_exponent ts rest h
    exact ⟨.tightest d, hc, hd⟩
  | cons table levels ih =>
    obtain ⟨d, hc, hd⟩ := ih
    exact ⟨.folded (.operand d), hc, hd⟩

theorem literal_conditional : Reaches r .conditional b 0 [.literal v] := by
  intro ts rest h
  obtain ⟨d, hc, hd⟩ := literal_chain binaryLevels ts rest h
  exact ⟨.plain d, hc, hd⟩

/-! ### Growing around a left operand -/

/-- An operator with a literal behind it. -/
private theorem operator_literal {p : Phrase} {op : BinaryOp} {ts : List Token} (rest : List Token)
    (hlit : Reaches r p 0 0 [.literal v]) (h : ts.map Token.lexeme = op.lexemes ++ [.literal v]) :
    op.Leads (ts ++ rest) ∧
      ∃ d : Derivation r p ((ts ++ rest).drop op.spelling.length) rest, d.charge = 0 ∧ d.nesting = 0 := by
  obtain ⟨us, vs, rfl, hu, hv⟩ := List.map_eq_append_iff.1 h
  obtain ⟨t, rfl, ht⟩ := List.map_eq_singleton_iff.1 hv
  have hlen : us.length = op.spelling.length := by
    simpa [BinaryOp.lexemes] using congrArg List.length hu
  have hdrop : (us ++ [t] ++ rest).drop op.spelling.length = [t] ++ rest := by
    rw [List.append_assoc, ← hlen, List.drop_left]
  rw [hdrop]
  obtain ⟨d, hc, hd⟩ := hlit [t] rest hv
  refine ⟨?_, d, Nat.le_zero.1 hc, hd⟩
  rw [List.append_assoc]
  exact BinaryOp.leads_of_lexemes hu (by simp [Token.symbol?, ht])

theorem fold {table : OperatorTable} {levels : List OperatorTable} {op : BinaryOp}
    (h : Reaches r (.level table levels k) b depth ls) (hop : op ∈ table) (hk : k < b) :
    Reaches r (.level table levels (k + 1)) b (depth + 1) (ls ++ (op.lexemes ++ [.literal v])) := by
  intro ts rest hts
  obtain ⟨us, vs, rfl, hu, hv⟩ := List.map_eq_append_iff.1 hts
  obtain ⟨hleads, dr, hrc, hrd⟩ := operator_literal rest (literal_chain levels) hv
  obtain ⟨dl, hlc, hld⟩ := h us (vs ++ rest) hu
  rw [List.append_assoc]
  refine ⟨.fold dl op hop hleads dr, ?_, ?_⟩
  · simp only [Derivation.charge]
    omega
  · simp only [Derivation.nesting]
    omega

/-- As many folds as the budget allows. -/
theorem folds {table : OperatorTable} {levels : List OperatorTable} {op : BinaryOp}
    (h : Reaches r (.chain levels) b depth ls) (hop : op ∈ table) (hk : k ≤ b) :
    Reaches r (.level table levels k) b (depth + k)
      (ls ++ (List.replicate k (op.lexemes ++ [.literal v])).flatten) := by
  induction k with
  | zero =>
    intro ts rest hts
    obtain ⟨d, hc, hd⟩ := h ts rest (by simpa using hts)
    exact ⟨.operand d, hc, hd⟩
  | succ k ih =>
    rw [List.replicate_succ', List.flatten_append, List.flatten_singleton, ← List.append_assoc]
    exact (ih (by omega)).fold hop hk

theorem chain {table : OperatorTable} {levels : List OperatorTable}
    (h : Reaches r (.level table levels k) b depth ls) : Reaches r (.chain (table :: levels)) b depth ls := by
  intro ts rest hts
  obtain ⟨d, hc, hd⟩ := h ts rest hts
  exact ⟨.folded d, hc, hd⟩

theorem looser {table : OperatorTable} {levels : List OperatorTable} (h : Reaches r (.chain levels) b depth ls) :
    Reaches r (.chain (table :: levels)) b depth ls := by
  intro ts rest hts
  obtain ⟨d, hc, hd⟩ := h ts rest hts
  exact ⟨.folded (.operand d), hc, hd⟩

theorem conditional (h : Reaches r (.chain binaryLevels) b depth ls) : Reaches r .conditional b depth ls := by
  intro ts rest hts
  obtain ⟨d, hc, hd⟩ := h ts rest hts
  exact ⟨.plain d, hc, hd⟩

theorem exists_chain (levels : List OperatorTable) (h : Reaches r .exponent b depth ls)
    (hlevels : ∀ table ∈ levels, table ≠ []) :
    ∃ ls', Reaches r (.chain levels) b (depth + levels.length * b) ls' := by
  induction levels with
  | nil =>
    refine ⟨ls, fun ts rest hts => ?_⟩
    obtain ⟨d, hc, hd⟩ := h ts rest hts
    exact ⟨.tightest d, hc, by simpa [Derivation.nesting] using hd⟩
  | cons table levels ih =>
    obtain ⟨ls', h'⟩ := ih fun t ht => hlevels t (List.mem_cons_of_mem _ ht)
    obtain ⟨op, hop⟩ := List.exists_mem_of_ne_nil table (hlevels table (List.mem_cons_self ..))
    have hchain := (h'.folds (v := .null) hop (Nat.le_refl b)).chain
    rw [Nat.add_assoc, ← Nat.succ_mul] at hchain
    exact ⟨_, hchain⟩

theorem array (h : Reaches r .conditional b depth ls) :
    Reaches r .primary (b + 1) (depth + 1) (.symbol '[' :: (ls ++ [.symbol ']'])) := by
  intro ts rest hts
  obtain ⟨opening, ts, rfl, ho, hts⟩ := List.map_eq_cons_iff.1 hts
  obtain ⟨us, vs, rfl, hu, hv⟩ := List.map_eq_append_iff.1 hts
  obtain ⟨closing, rfl, hc⟩ := List.map_eq_singleton_iff.1 hv
  obtain ⟨d, hdc, hdn⟩ := h us (closing :: rest) hu
  rw [List.cons_append, List.append_assoc]
  refine ⟨.array opening (by simp [Token.isSymbol, Token.symbol?, ho])
    (.filled (.last closing d (by simp [Token.isSymbol, Token.symbol?, hc]))), ?_, ?_⟩
  · simp only [Derivation.charge]
    omega
  · simp only [Derivation.nesting]
    omega

theorem exists_member (h : Reaches r .primary b depth ls) (hk : k ≤ b) :
    ∃ ls', Reaches r (.member k) b (depth + k) ls' := by
  induction k with
  | zero =>
    refine ⟨ls, fun ts rest hts => ?_⟩
    obtain ⟨d, hc, hd⟩ := h ts rest hts
    exact ⟨.object d, hc, hd⟩
  | succ k ih =>
    obtain ⟨ls', h'⟩ := ih (by omega)
    refine ⟨ls' ++ [.symbol '.', .identifier "a"], fun ts rest hts => ?_⟩
    obtain ⟨us, vs, rfl, hu, hv⟩ := List.map_eq_append_iff.1 hts
    obtain ⟨point, vs, rfl, hp, hv⟩ := List.map_eq_cons_iff.1 hv
    obtain ⟨key, rfl, hkey⟩ := List.map_eq_singleton_iff.1 hv
    obtain ⟨d, hc, hd⟩ := h' us (point :: key :: rest) hu
    rw [List.append_assoc]
    refine ⟨.dot key "a" d (by simp [Token.isSymbol, Token.symbol?, hp]) hkey, ?_, ?_⟩
    · simp only [Derivation.charge]
      omega
    · simp only [Derivation.nesting]
      omega

theorem power (h : Reaches r (.member k) b depth ls) (hb : 0 < b) :
    Reaches r .exponent b (depth + 1) (ls ++ (BinaryOp.exp.lexemes ++ [.literal .null])) := by
  intro ts rest hts
  obtain ⟨us, vs, rfl, hu, hv⟩ := List.map_eq_append_iff.1 hts
  obtain ⟨hleads, dr, hrc, hrd⟩ := operator_literal rest literal_exponent hv
  obtain ⟨dl, hlc, hld⟩ := h us (vs ++ rest) hu
  rw [List.append_assoc]
  refine ⟨.power (.unsigned dl) .exp (by decide) hleads dr, ?_, ?_⟩
  · simp only [Derivation.charge]
    omega
  · simp only [Derivation.nesting]
    omega

theorem branch (h : Reaches r (.chain binaryLevels) b depth ls) (hb : 0 < b) :
    Reaches r .conditional b (depth + 1)
      (ls ++ [.symbol '?', .literal .null, .symbol ':', .literal .null]) := by
  intro ts rest hts
  obtain ⟨us, vs, rfl, hu, hv⟩ := List.map_eq_append_iff.1 hts
  obtain ⟨question, vs, rfl, hq, hv⟩ := List.map_eq_cons_iff.1 hv
  obtain ⟨t, vs, rfl, ht, hv⟩ := List.map_eq_cons_iff.1 hv
  obtain ⟨colon, vs, rfl, hcolon, hv⟩ := List.map_eq_cons_iff.1 hv
  obtain ⟨dc, hcc, hcd⟩ := h us (question :: t :: colon :: (vs ++ rest)) hu
  obtain ⟨da, hac, had⟩ := literal_conditional (b := 0) [t] (colon :: (vs ++ rest)) (by simpa using ht)
  obtain ⟨db, hbc, hbd⟩ := literal_conditional (b := 0) vs rest hv
  rw [List.append_assoc]
  refine ⟨.branch dc (by simp [Token.isSymbol, Token.symbol?, hq]) da
    (by simp [Token.isSymbol, Token.symbol?, hcolon]) db, ?_, ?_⟩
  · simp only [Derivation.charge]
    omega
  · simp only [Derivation.nesting]
    omega

/-- The bound on the nesting is attained for every budget. -/
theorem exists_deepest (r : Bool) (b : Nat) : ∃ ls, Reaches r .conditional b (deepestTree b) ls := by
  induction b with
  | zero => exact ⟨[.literal .null], literal_conditional⟩
  | succ b ih =>
    obtain ⟨inner, hinner⟩ := ih
    obtain ⟨object, hobject⟩ := hinner.array.exists_member (Nat.le_refl (b + 1))
    obtain ⟨condition, hcondition⟩ := (hobject.power (Nat.succ_pos b)).exists_chain
      binaryLevels (by decide)
    have hdeep := hcondition.branch (Nat.succ_pos b)
    have hdepth : deepestTree b + 1 + (b + 1) + 1 + binaryLevels.length * (b + 1) + 1 = deepestTree (b + 1) := by
      simp only [deepestTree, binaryLevels, List.length_cons, List.length_nil]
      omega
    rw [hdepth] at hdeep
    exact ⟨_, hdeep⟩

end Reaches

theorem Derivation.height_result {r : Bool} {ts rest : List Token} (d : Derivation r .conditional ts rest) :
    Node.height d.result = d.nesting :=
  d.nesting_eq_height.symm

/-- Tokens that reach a depth within the limit are parsed to a tree with a path of that length. -/
theorem Reaches.exists_path {r : Bool} {depth : Nat} {ls : List Lexeme} (h : Reaches r .conditional maxDepth depth ls)
    {ts : List Token} (hts : ts.map Token.lexeme = ls) :
    ∃ n m, parse r ts = .ok n ∧ n.Path depth m := by
  have hd := h ts [] hts
  rw [List.append_nil] at hd
  obtain ⟨d, hc, rfl⟩ := hd
  obtain ⟨m, hm⟩ := Node.exists_path_height d.result
  rw [d.height_result] at hm
  exact ⟨d.result, m, parse_of_derivation d hc, hm⟩

/-- The paths of a parsed tree are within the depth limit exactly if its derivation is not nested deeper, with left
operands counted like right ones.  In any case they are within `deepestTree` of the limit, and no lower bound holds
for all trees. -/
theorem parse_depth (allowRegex : Bool) :
    (∀ ts n, parse allowRegex ts = .ok n →
      ∃ d : Derivation allowRegex .conditional ts [], d.charge ≤ maxDepth ∧ d.result = n ∧
        ((∀ k m, n.Path k m → k ≤ maxDepth) ↔ d.nesting ≤ maxDepth) ∧
        ∀ k m, n.Path k m → k ≤ deepestTree maxDepth) ∧
    ∃ ts n m, parse allowRegex ts = .ok n ∧ n.Path (deepestTree maxDepth) m := by
  constructor
  · intro ts n h
    obtain ⟨d, rfl, hd⟩ := exists_derivation_of_parse h
    refine ⟨d, hd, rfl, ?_, ?_⟩
    · rw [← d.height_result]
      exact Node.height_le_iff.symm
    · rw [← Node.height_le_iff, d.height_result]
      exact d.nesting_le_deepest hd
  · obtain ⟨ls, h⟩ := Reaches.exists_deepest allowRegex maxDepth
    obtain ⟨n, m, hn, hm⟩ := h.exists_path
      (show (ls.map fun l => (⟨l, 0, 1⟩ : Token)).map Token.lexeme = ls by simp [Function.comp_def])
    exact ⟨_, n, m, hn, hm⟩

example : deepestTree maxDepth = 58176 := by decide +kernel

/-- The tokens of `1*1+1+1…` with as many sums as the limit allows. -/
def longSum : List Token :=
  let one : Lexeme := .literal (.number (Lexer.scanNumber ['1']).1)
  let lexemes := [one, .symbol '*', one] ++ (List.replicate maxDepth [.symbol '+', one]).flatten
  lexemes.zipIdx.map fun (l, i) => ⟨l, i, 1⟩

private theorem exists_path_longSum (allowRegex : Bool) :
    ∃ n m, parse allowRegex longSum = .ok n ∧ n.Path (maxDepth + 1) m := by
  let one : Value := .number (Lexer.scanNumber ['1']).1
  have hproduct : Reaches allowRegex (.chain [[.mul, .div, .rem]]) maxDepth 1
      ([.literal one] ++ (List.replicate 1 (BinaryOp.mul.lexemes ++ [.literal one])).flatten) :=
    ((Reaches.literal_chain []).folds (by decide) (by decide)).chain
  have hsum := (hproduct.folds (show BinaryOp.add ∈ [BinaryOp.add, BinaryOp.sub] by decide)
    (Nat.le_refl maxDepth) (v := one)).chain
  rw [Nat.add_comm 1] at hsum
  refine hsum.looser.looser.looser.looser.conditional.exists_path ?_
  unfold longSum
  rw [List.map_map]
  exact List.zipIdx_map_fst 0 _

/-- The sum is parsed, and the product at its left end stands deeper than the limit. -/
theorem longSum_exceeds_maxDepth :
    (∃ n m, parse false longSum = .ok n ∧ n.Path (maxDepth + 1) m) ∧
      ∃ n m, parse true longSum = .ok n ∧ n.Path (maxDepth + 1) m :=
  ⟨exists_path_longSum false, exists_path_longSum true⟩

end ExprLang
