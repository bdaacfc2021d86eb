import ExprLang.Proofs.MaximalMunch

/-!
# Operators of one level

The parser searches the longest operator of all tables and asks whether the table of the level holds it.  The rule of
the grammar looks at the table of the level alone.  The two differ where an operator of another table goes on behind
one of this table, as `**` does behind `*`.

* They agree before tokens that no tighter operator leads (`levelRule_eq_globalRule`).
* A level asks for an operator only behind what the tighter levels have read, and there none of their operators is
  left (`Parser.munches`).  So the parsers with the two rules agree (`Parser.agrees`), trees and errors alike
  (`parseWith_levelRule`).
-/

open ExprLang.Parser

namespace ExprLang

/-- Before tokens that no tighter operator leads it does not matter whether all tables are searched, if only tighter
operators go on behind one of the table. -/
theorem levelRule_eq_globalRule {table tighter : OperatorTable} {ts : List Token}
    (hlonger : ∀ op ∈ table, ∀ longer : BinaryOp, op.spelling <+: longer.spelling → longer ∈ table ++ tighter)
    (h : NoOperator tighter ts) : levelRule table ts = globalRule table ts := by
  apply Option.ext
  intro op
  rw [levelRule_eq_some_iff, globalRule_eq_some_iff]
  constructor
  · intro hop
    obtain ⟨longest, hleads, hprefix⟩ := BinaryOp.exists_leads hop.2.1
    rcases List.mem_append.1 (hlonger op hop.1 longest hprefix) with hm | hm
    · have hlongest : longest.LongestIn table ts := ⟨hm, hleads.1, fun other _ => hleads.2 other⟩
      rw [hop.unique hlongest]
      exact ⟨hm, hleads⟩
    · exact absurd hleads (h longest hm)
  · rintro ⟨hm, hleads⟩
    exact ⟨hm, hleads.1, fun other _ => hleads.2 other⟩

namespace Parser

/-- The grammar that reads the longest operator of the level. -/
abbrev perLevel (allowRegex : Bool) : Grammar := { allowRegex, rule := levelRule }

theorem levelRule_exponentialLevel (ts : List Token) :
    levelRule exponentialLevel ts = globalRule exponentialLevel ts := by
  have hnone : NoOperator [] ts := fun op hop => absurd hop List.not_mem_nil
  refine levelRule_eq_globalRule (fun op hop longer h => ?_) hnone
  rw [List.append_nil]
  exact mem_of_prefix_spelling List.nil_suffix hop h

/-- Behind an operand of the next level the two rules agree. -/
theorem levelRule_of_stops {table : OperatorTable} {levels : List OperatorTable}
    (hlevels : table :: levels <:+ binaryLevels) {ts : List Token} (h : (Phrase.chain levels).Stops ts) :
    levelRule table ts = globalRule table ts := by
  refine levelRule_eq_globalRule (fun op hop longer hprefix => ?_) h.2
  have hmem : op ∈ (table :: levels).flatten ++ exponentialLevel := by simp [hop]
  have key := mem_of_prefix_spelling hlevels hmem hprefix
  rwa [List.flatten_cons, List.append_assoc] at key

/-- The parsers with the two rules agree, those of folds behind an operand of the next level. -/
structure Agrees (r : Bool) (b : Nat) : Prop where
  conditional (ts : List Token) : conditional (perLevel r) b ts = conditional (standard r) b ts
  chain {levels : List OperatorTable} (hlevels : levels <:+ binaryLevels) (ts : List Token) :
    chain (perLevel r) b levels ts = chain (standard r) b levels ts
  folds {table : OperatorTable} {levels : List OperatorTable} (hlevels : table :: levels <:+ binaryLevels)
    (left : Node) {ts : List Token} (hts : (Phrase.chain levels).Stops ts) :
    folds (perLevel r) b table levels left ts = folds (standard r) b table levels left ts
  exponent (ts : List Token) : exponent (perLevel r) b ts = exponent (standard r) b ts
  unary (ts : List Token) : unary (perLevel r) b ts = unary (standard r) b ts
  steps (object : Node) (ts : List Token) : steps (perLevel r) b object ts = steps (standard r) b object ts

section
variable {r : Bool} {b : Nat} (below : ∀ c, b = c + 1 → Agrees r c)
include below

private theorem primary_agrees (ts : List Token) : primary (perLevel r) b ts = primary (standard r) b ts := by
  rw [primary.eq_def (perLevel r), primary.eq_def (standard r)]
  cases b with
  | zero => rfl
  | succ c =>
    have hitem : Parser.conditional (perLevel r) c = Parser.conditional (standard r) c :=
      funext (below c rfl).conditional
    simp only [hitem]

private theorem steps_agrees (object : Node) (ts : List Token) :
    steps (perLevel r) b object ts = steps (standard r) b object ts := by
  rw [steps.eq_def (perLevel r), steps.eq_def (standard r)]
  cases b with
  | zero => rfl
  | succ c =>
    have hs := below c rfl
    have hitem : Parser.conditional (perLevel r) c = Parser.conditional (standard r) c := funext hs.conditional
    simp only [hitem, hs.steps]

private theorem unary_agrees (ts : List Token) : unary (perLevel r) b ts = unary (standard r) b ts := by
  have hmember (ts : List Token) : member (perLevel r) b ts = member (standard r) b ts := by
    rw [member, member, primary_agrees below]
    exact bind_congr_of_ok fun x _ => steps_agrees below x.1 x.2
  rw [unary.eq_def (perLevel r), unary.eq_def (standard r)]
  cases b with
  | zero => simp only [hmember]
  | succ c => simp only [hmember, (below c rfl).unary]

private theorem exponent_agrees (ts : List Token) : exponent (perLevel r) b ts = exponent (standard r) b ts := by
  rw [exponent.eq_def (perLevel r), exponent.eq_def (standard r)]
  cases b with
  | zero => simp only [unary_agrees below, levelRule_exponentialLevel]
  | succ c => simp only [unary_agrees below, levelRule_exponentialLevel, (below c rfl).exponent]

private theorem folds_agrees {table : OperatorTable} {levels : List OperatorTable}
    (hlevels : table :: levels <:+ binaryLevels) (left : Node) {ts : List Token}
    (hts : (Phrase.chain levels).Stops ts) :
    folds (perLevel r) b table levels left ts = folds (standard r) b table levels left ts := by
  rw [folds.eq_def (perLevel r), folds.eq_def (standard r)]
  simp only [levelRule_of_stops hlevels hts]
  cases globalRule table ts with
  | none => rfl
  | some op =>
    cases b with
    | zero => rfl
    | succ c =>
      have hs := below c rfl
      simp only [hs.chain ((List.suffix_cons ..).trans hlevels)]
      -- The right operand is read by the tighter levels, so the next fold stands before tokens that stop these.
      exact bind_congr_of_ok fun x hx => hs.folds hlevels _ ((munches r c).chain hx)

private theorem chain_agrees {levels : List OperatorTable} (hlevels : levels <:+ binaryLevels) (ts : List Token) :
    chain (perLevel r) b levels ts = chain (standard r) b levels ts := by
  induction levels generalizing ts with
  | nil =>
    rw [chain_nil, chain_nil]
    exact exponent_agrees below ts
  | cons table levels ih =>
    rw [chain.eq_def (perLevel r), chain.eq_def (standard r)]
    simp only [ih ((List.suffix_cons ..).trans hlevels)]
    exact bind_congr_of_ok fun x hx => folds_agrees below hlevels x.1 ((munches r b).chain hx)

private theorem conditional_agrees (ts : List Token) :
    conditional (perLevel r) b ts = conditional (standard r) b ts := by
  rw [conditional.eq_def (perLevel r), conditional.eq_def (standard r)]
  cases b with
  | zero => simp only [chain_agrees below List.suffix_rfl]
  | succ c => simp only [chain_agrees below List.suffix_rfl, (below c rfl).conditional]

private theorem agrees_of_below : Agrees r b :=
  ⟨conditional_agrees below, chain_agrees below, folds_agrees below, exponent_agrees below, unary_agrees below,
    steps_agrees below⟩

end

theorem agrees (r : Bool) (b : Nat) : Agrees r b := budget_induction (fun _ below => agrees_of_below below) b

end Parser

/-- The parser that reads at each level the longest operator of the level's own table gives the same tree or the same
error as the one that searches all tables. -/
theorem parseWith_levelRule (allowRegex : Bool) :
    (∀ table ts op, levelRule table ts = some op ↔ op.LongestIn table ts) ∧
      ∀ ts, parseWith { allowRegex, rule := levelRule } ts = parse allowRegex ts := by
  refine ⟨fun table ts op => levelRule_eq_some_iff, fun ts => ?_⟩
  rw [parse, parseWith, parseWith, (agrees allowRegex maxDepth).conditional]

/-- Before `**` the rules differ, so a multiplication must not be read there. -/
example :
    levelRule [.mul, .div, .rem] [⟨.symbol '*', 0, 1⟩, ⟨.symbol '*', 1, 1⟩] = some .mul ∧
      globalRule [.mul, .div, .rem] [⟨.symbol '*', 0, 1⟩, ⟨.symbol '*', 1, 1⟩] = none := by decide

end ExprLang
