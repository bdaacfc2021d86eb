import ExprLang.Node.Parser
import Mathlib

/-!
# Reading operators from symbols

An operator leads a list of tokens if it is the longest of all whose spelling starts the run of symbols in front.
At most one operator does (`BinaryOp.Leads.unique`), its tokens start with no bracket, comma, point or part of `?:`
(`not_leads_of_isSymbol`), and the parser reads it exactly at the levels whose table holds it
(`globalRule_eq_some_iff`).  The rule that looks at one table alone reads the longest operator of that table
(`levelRule_eq_some_iff`).  Which operator leads depends on the tokens only up to one that is a part of no operator
(`BinaryOp.Leads.congr`), and on no more of them than an operator may have (`BinaryOp.Leads.of_take`).
-/

namespace ExprLang

/-- The symbols in front of the first token that is none. -/
def leadingSymbols : List Token → List Char
  | [] => []
  | t :: ts =>
    match t.symbol? with
    | some c => c :: leadingSymbols ts
    | none => []

/-- The operator is the longest whose spelling starts the run of symbols. -/
def BinaryOp.Leads (op : BinaryOp) (ts : List Token) : Prop :=
  op.spelling <+: leadingSymbols ts ∧
    ∀ other : BinaryOp, other.spelling <+: leadingSymbols ts → other.spelling.length ≤ op.spelling.length

/-- The operator is the longest of a table whose spelling starts the run of symbols. -/
def BinaryOp.LongestIn (op : BinaryOp) (table : OperatorTable) (ts : List Token) : Prop :=
  op ∈ table ∧ op.spelling <+: leadingSymbols ts ∧
    ∀ other ∈ table, other.spelling <+: leadingSymbols ts → other.spelling.length ≤ op.spelling.length

/-- The symbols that occur in no operator. -/
def punctuation : List Char := ['.', '[', '(', ')', ']', ',', '?', ':']

/-! ### Spellings -/

namespace BinaryOp

theorem mem_allOperators (op : BinaryOp) : op ∈ allOperators := by
  cases op <;> decide

theorem spelling_length_le (op : BinaryOp) : op.spelling.length ≤ maxOperatorLength := by
  cases op <;> decide

theorem spelling_ne_nil (op : BinaryOp) : op.spelling ≠ [] := by
  cases op <;> decide

theorem spelling_injective {a b : BinaryOp} (h : a.spelling = b.spelling) : a = b := by
  cases a <;> cases b <;> first | rfl | exact absurd h (by decide)

/-- The slash is the division and a part of no longer operator. -/
theorem slash_not_mem_tail (op : BinaryOp) : '/' ∉ op.spelling.tail := by
  cases op <;> decide

theorem not_mem_punctuation {op : BinaryOp} {c : Char} (h : c ∈ op.spelling) : c ∉ punctuation := by
  have key : op.spelling.all (· ∉ punctuation) = true := by cases op <;> decide
  simpa using List.all_eq_true.1 key c h

theorem leads_iff_longestIn {op : BinaryOp} {ts : List Token} : op.Leads ts ↔ op.LongestIn allOperators ts :=
  ⟨fun h => ⟨op.mem_allOperators, h.1, fun other _ => h.2 other⟩,
    fun h => ⟨h.2.1, fun other => h.2.2 other other.mem_allOperators⟩⟩

/-- No table has two longest operators. -/
theorem LongestIn.unique {a b : BinaryOp} {table : OperatorTable} {ts : List Token} (ha : a.LongestIn table ts)
    (hb : b.LongestIn table ts) : a = b := by
  have hlen : a.spelling.length = b.spelling.length := Nat.le_antisymm (hb.2.2 a ha.1 ha.2.1) (ha.2.2 b hb.1 hb.2.1)
  apply spelling_injective
  exact (List.prefix_of_prefix_length_le ha.2.1 hb.2.1 (Nat.le_of_eq hlen)).eq_of_length hlen

/-- No tokens are led by two operators. -/
theorem Leads.unique {a b : BinaryOp} {ts : List Token} (ha : a.Leads ts) (hb : b.Leads ts) : a = b :=
  (leads_iff_longestIn.1 ha).unique (leads_iff_longestIn.1 hb)

end BinaryOp

theorem not_mem_of_mem_suffix {table : OperatorTable} {levels : List OperatorTable}
    (h : table :: levels <:+ binaryLevels) {op : BinaryOp} (hop : op ∈ table) :
    op ∉ levels.flatten ++ exponentialLevel := by
  obtain ⟨looser, h⟩ := h
  have hnd : (binaryLevels.flatten ++ exponentialLevel).Nodup := by decide
  rw [← h, List.flatten_append, List.flatten_cons, List.append_assoc, List.append_assoc] at hnd
  have hdis := (List.nodup_append.1 (List.nodup_append.1 hnd).2.1).2.2
  exact fun hm => hdis op hop op hm rfl

/-! ### Tokens -/

theorem not_leads_of_isSymbol {op : BinaryOp} {t : Token} {ts : List Token} {c : Char} (h : t.isSymbol c)
    (hc : c ∈ punctuation) : ¬ op.Leads (t :: ts) := by
  intro hl
  have hs : t.symbol? = some c := by simpa [Token.isSymbol] using h
  have hp : op.spelling <+: c :: leadingSymbols ts := by simpa [leadingSymbols, hs] using hl.1
  obtain ⟨d, ds, hd⟩ := List.exists_cons_of_ne_nil op.spelling_ne_nil
  rw [hd, List.cons_prefix_cons] at hp
  exact BinaryOp.not_mem_punctuation (show d ∈ op.spelling by simp [hd]) (hp.1 ▸ hc)

theorem not_leads_nil (op : BinaryOp) : ¬ op.Leads [] := by
  intro hl
  exact op.spelling_ne_nil (List.prefix_nil.1 hl.1)

private theorem symbolRun_of_take (n : Nat) (ts : List Token) :
    (((ts.take n).map Token.symbol?).takeWhile Option.isSome).filterMap id = (leadingSymbols ts).take n := by
  induction n generalizing ts with
  | zero => simp
  | succ n ih =>
    cases ts with
    | nil => simp [leadingSymbols]
    | cons t ts =>
      cases h : t.symbol? with
      | none => simp [leadingSymbols, h]
      | some c => simpa [leadingSymbols, h, List.map_take] using ih ts

private theorem isPrefix_symbolRun {op : BinaryOp} {ts : List Token} :
    op.spelling <+: Parser.symbolRun ts ↔ op.spelling <+: leadingSymbols ts := by
  rw [Parser.symbolRun, symbolRun_of_take, List.prefix_take_iff]
  exact and_iff_left op.spelling_length_le

/-! ### The longest operator of a table -/

/-- What the search for the longest operator has found in a table. -/
private def Longest (table : OperatorTable) (run : List Char) : Option BinaryOp → Prop
  | none => ∀ other ∈ table, ¬ other.spelling <+: run
  | some op => op ∈ table ∧ op.spelling <+: run ∧
      ∀ other ∈ table, other.spelling <+: run → other.spelling.length ≤ op.spelling.length

private theorem longestOperator?_append (table : OperatorTable) (op : BinaryOp) (run : List Char) :
    longestOperator? (table ++ [op]) run =
      if op.spelling.isPrefixOf run &&
          (longestOperator? table run).all (fun b => b.spelling.length ≤ op.spelling.length) then some op
      else longestOperator? table run := by
  simp [longestOperator?]

private theorem longest_longestOperator? (table : OperatorTable) (run : List Char) :
    Longest table run (longestOperator? table run) := by
  -- The search folds from the left, so the last operator of the table is the last one that can replace the winner.
  induction table using List.reverseRecOn with
  | nil => simp [longestOperator?, Longest]
  | append_singleton table op ih =>
    rw [longestOperator?_append]
    split
    · rename_i h
      simp only [Bool.and_eq_true, List.isPrefixOf_iff_prefix] at h
      refine ⟨by simp, h.1, ?_⟩
      intro other hm hp
      rw [List.mem_append, List.mem_singleton] at hm
      rcases hm with hm | rfl
      · cases hb : longestOperator? table run with
        | none =>
          rw [hb] at ih
          exact absurd hp (ih other hm)
        | some b =>
          rw [hb] at ih h
          exact Nat.le_trans (ih.2.2 other hm hp) (by simpa using h.2)
      · exact Nat.le_refl _
    · rename_i h
      simp only [Bool.and_eq_true, List.isPrefixOf_iff_prefix, not_and] at h
      cases hb : longestOperator? table run with
      | none =>
        rw [hb] at ih h
        intro other hm
        rw [List.mem_append, List.mem_singleton] at hm
        rcases hm with hm | rfl
        · exact ih other hm
        · exact fun hp => h hp rfl
      | some b =>
        rw [hb] at ih h
        refine ⟨by simp [ih.1], ih.2.1, ?_⟩
        intro other hm hp
        rw [List.mem_append, List.mem_singleton] at hm
        rcases hm with hm | rfl
        · exact ih.2.2 other hm hp
        · have := h hp
          simp at this
          omega

theorem not_prefix_of_levelRule_eq_none {table : OperatorTable} {ts : List Token}
    (h : Parser.levelRule table ts = none) {op : BinaryOp} (hop : op ∈ table) :
    ¬ op.spelling <+: leadingSymbols ts := by
  have key := longest_longestOperator? table (Parser.symbolRun ts)
  rw [← Parser.levelRule, h] at key
  exact fun hp => key op hop (isPrefix_symbolRun.2 hp)

/-- The rule that looks at one table alone reads the longest operator of that table. -/
theorem levelRule_eq_some_iff {table : OperatorTable} {ts : List Token} {op : BinaryOp} :
    Parser.levelRule table ts = some op ↔ op.LongestIn table ts := by
  have hfound {b : BinaryOp} (h : Parser.levelRule table ts = some b) : b.LongestIn table ts := by
    have key := longest_longestOperator? table (Parser.symbolRun ts)
    rw [← Parser.levelRule, h] at key
    exact ⟨key.1, isPrefix_symbolRun.1 key.2.1, fun other hm hp => key.2.2 other hm (isPrefix_symbolRun.2 hp)⟩
  refine ⟨hfound, fun h => ?_⟩
  cases hb : Parser.levelRule table ts with
  | none => exact absurd h.2.1 (not_prefix_of_levelRule_eq_none hb h.1)
  | some b => rw [(hfound hb).unique h]

/-- The parser reads an operator at a level if it leads the tokens and the level's table holds it. -/
theorem globalRule_eq_some_iff {table : OperatorTable} {ts : List Token} {op : BinaryOp} :
    Parser.globalRule table ts = some op ↔ op ∈ table ∧ op.Leads ts := by
  rw [Parser.globalRule, ← Parser.levelRule, Option.filter_eq_some_iff, levelRule_eq_some_iff,
    ← BinaryOp.leads_iff_longestIn, List.contains_iff_mem]
  exact and_comm

/-! ### The tokens behind an operator -/

/-- A token that is a part of no operator. -/
def Token.Solid (t : Token) : Prop := ∀ c, t.symbol? = some c → c ∈ punctuation

theorem Token.solid_of_isSymbol {t : Token} {c : Char} (h : t.isSymbol c) (hc : c ∈ punctuation) : t.Solid := by
  intro d hd
  have : t.symbol? = some c := by simpa [Token.isSymbol] using h
  rw [this] at hd
  cases hd
  exact hc

theorem Token.solid_of_symbol?_eq_none {t : Token} (h : t.symbol? = none) : t.Solid := by
  intro c hc
  rw [h] at hc
  cases hc

/-- A token that is a part of no operator ends every spelling before it. -/
theorem prefix_leadingSymbols_solid {cs : List Char} (hcs : ∀ c ∈ cs, c ∉ punctuation) {t : Token} (ht : t.Solid)
    (us vs : List Token) : cs <+: leadingSymbols (us ++ t :: vs) ↔ cs <+: leadingSymbols us := by
  induction us generalizing cs with
  | nil =>
    cases cs with
    | nil => simp
    | cons c cs =>
      cases hs : t.symbol? with
      | none => simp [leadingSymbols, hs]
      | some d =>
        have hne : c ≠ d := fun he => hcs c (List.mem_cons_self ..) (he ▸ ht d hs)
        simp [leadingSymbols, hs, hne]
  | cons u us ih =>
    cases hs : u.symbol? with
    | none => simp [leadingSymbols, hs]
    | some d =>
      cases cs with
      | nil => simp
      | cons c cs =>
        simp only [List.cons_append, leadingSymbols, hs, List.cons_prefix_cons]
        exact and_congr_right fun _ => ih fun e he => hcs e (List.mem_cons_of_mem _ he)

/-- Past a token that is a part of no operator the run of symbols does not matter. -/
theorem prefix_leadingSymbols_append {cs : List Char} (hcs : ∀ c ∈ cs, c ∉ punctuation) {us rest : List Token}
    (hus : ∃ t ∈ us, t.Solid) : cs <+: leadingSymbols (us ++ rest) ↔ cs <+: leadingSymbols us := by
  obtain ⟨t, ht, hsolid⟩ := hus
  obtain ⟨before, after, rfl⟩ := List.append_of_mem ht
  rw [List.append_assoc, List.cons_append, prefix_leadingSymbols_solid hcs hsolid,
    prefix_leadingSymbols_solid hcs hsolid]

theorem leadingSymbols_congr {us us' : List Token} (h : us.map Token.lexeme = us'.map Token.lexeme) :
    leadingSymbols us = leadingSymbols us' := by
  induction us generalizing us' with
  | nil =>
    cases us' with
    | nil => rfl
    | cons t us' => simp at h
  | cons t us ih =>
    cases us' with
    | nil => simp at h
    | cons t' us' =>
      simp only [List.map_cons, List.cons.injEq] at h
      simp only [leadingSymbols, Token.symbol?, h.1, ih h.2]

/-- Which operator leads tokens depends on their lexemes up to one that is a part of no operator. -/
theorem BinaryOp.Leads.congr {op : BinaryOp} {us us' rest rest' : List Token} (h : op.Leads (us ++ rest))
    (hus : ∃ t ∈ us, t.Solid) (hlexemes : us.map Token.lexeme = us'.map Token.lexeme) : op.Leads (us' ++ rest') := by
  have hus' : ∃ t ∈ us', t.Solid := by
    obtain ⟨t, ht, hsolid⟩ := hus
    have hm : t.lexeme ∈ us'.map Token.lexeme := hlexemes ▸ List.mem_map_of_mem ht
    obtain ⟨t', ht', he⟩ := List.mem_map.1 hm
    refine ⟨t', ht', fun c hc => hsolid c ?_⟩
    rw [← hc]
    simp only [Token.symbol?, he]
  have key (other : BinaryOp) :
      other.spelling <+: leadingSymbols (us' ++ rest') ↔ other.spelling <+: leadingSymbols (us ++ rest) := by
    rw [prefix_leadingSymbols_append (fun c hc => other.not_mem_punctuation hc) hus',
      prefix_leadingSymbols_append (fun c hc => other.not_mem_punctuation hc) hus, leadingSymbols_congr hlexemes]
  exact ⟨(key op).2 h.1, fun other hp => h.2 other ((key other).1 hp)⟩

theorem BinaryOp.Leads.length_le {op : BinaryOp} {ts : List Token} (h : op.Leads ts) :
    op.spelling.length ≤ ts.length := by
  have hle (ts : List Token) : (leadingSymbols ts).length ≤ ts.length := by
    induction ts with
    | nil => exact Nat.le_refl _
    | cons t ts ih =>
      unfold leadingSymbols
      split
      · simpa using ih
      · simp
  exact Nat.le_trans h.1.length_le (hle ts)

/-- The symbols of an operator. -/
def BinaryOp.lexemes (op : BinaryOp) : List Lexeme := op.spelling.map .symbol

theorem map_take_of_prefix {cs : List Char} {ts : List Token} (h : cs <+: leadingSymbols ts) :
    (ts.take cs.length).map Token.lexeme = cs.map .symbol := by
  induction cs generalizing ts with
  | nil => rfl
  | cons c cs ih =>
    cases ts with
    | nil => simp [leadingSymbols] at h
    | cons t ts =>
      cases hs : t.symbol? with
      | none => simp [leadingSymbols, hs] at h
      | some d =>
        simp only [leadingSymbols, hs, List.cons_prefix_cons] at h
        obtain ⟨rfl, h⟩ := h
        have ht : t.lexeme = .symbol c := by
          unfold Token.symbol? at hs
          split at hs <;> simp_all
        rw [List.length_cons, List.take_succ_cons, List.map_cons, List.map_cons, ih h, ht]

/-- The operator that leads tokens is spelled by the first of them. -/
theorem BinaryOp.Leads.map_take {op : BinaryOp} {ts : List Token} (h : op.Leads ts) :
    (ts.take op.spelling.length).map Token.lexeme = op.lexemes :=
  map_take_of_prefix h.1

theorem BinaryOp.Leads.exists_isSymbol {op : BinaryOp} {ts : List Token} (h : op.Leads ts) {t : Token}
    (ht : t ∈ ts.take op.spelling.length) : ∃ c ∈ op.spelling, t.isSymbol c := by
  have hm : t.lexeme ∈ op.lexemes := h.map_take ▸ List.mem_map_of_mem ht
  obtain ⟨c, hc, he⟩ := List.mem_map.1 hm
  exact ⟨c, hc, by simp [Token.isSymbol, Token.symbol?, ← he]⟩

theorem leadingSymbols_append {cs : List Char} {ts rest : List Token} (h : ts.map Token.lexeme = cs.map .symbol) :
    leadingSymbols (ts ++ rest) = cs ++ leadingSymbols rest := by
  induction ts generalizing cs with
  | nil =>
    cases cs with
    | nil => rfl
    | cons c cs => simp at h
  | cons t ts ih =>
    cases cs with
    | nil => simp at h
    | cons c cs =>
      simp only [List.map_cons, List.cons.injEq] at h
      simp [leadingSymbols, Token.symbol?, h.1, ih h.2]

/-- An operator leads its own symbols if no symbol follows them. -/
theorem BinaryOp.leads_of_lexemes {op : BinaryOp} {ts rest : List Token} {t : Token}
    (h : ts.map Token.lexeme = op.lexemes) (ht : t.symbol? = none) : op.Leads (ts ++ t :: rest) := by
  have hl : leadingSymbols (ts ++ t :: rest) = op.spelling := by
    rw [leadingSymbols_append h]
    simp [leadingSymbols, ht]
  unfold Leads
  rw [hl]
  exact ⟨List.prefix_rfl, fun other hp => hp.length_le⟩

/-! ### Cutting and changing the tokens behind an operator -/

theorem leadingSymbols_prefix_append (us vs : List Token) : leadingSymbols us <+: leadingSymbols (us ++ vs) := by
  induction us with
  | nil => exact List.nil_prefix
  | cons t us ih =>
    cases h : t.symbol? with
    | none => simp [leadingSymbols, h]
    | some c => simpa [leadingSymbols, h] using ih

theorem leadingSymbols_take (n : Nat) (ts : List Token) : leadingSymbols (ts.take n) = (leadingSymbols ts).take n := by
  induction n generalizing ts with
  | zero => rw [List.take_zero, List.take_zero, leadingSymbols]
  | succ n ih =>
    cases ts with
    | nil => simp [leadingSymbols]
    | cons t ts =>
      rw [List.take_succ_cons]
      cases h : t.symbol? with
      | none => simp [leadingSymbols, h]
      | some c => simp [leadingSymbols, h, ih]

namespace BinaryOp.Leads

variable {op : BinaryOp} {ts us vs : List Token}

/-- Which operator leads tokens depends on no more of them than an operator may have. -/
theorem of_take (h : op.Leads ts) (hts : us.take maxOperatorLength = ts.take maxOperatorLength) : op.Leads us := by
  have hrun : (leadingSymbols us).take maxOperatorLength = (leadingSymbols ts).take maxOperatorLength := by
    rw [← leadingSymbols_take, ← leadingSymbols_take, hts]
  have key (other : BinaryOp) : other.spelling <+: leadingSymbols us ↔ other.spelling <+: leadingSymbols ts := by
    have hle := other.spelling_length_le
    rw [← and_iff_left (a := other.spelling <+: leadingSymbols us) hle,
      ← and_iff_left (a := other.spelling <+: leadingSymbols ts) hle, ← List.prefix_take_iff, ← List.prefix_take_iff,
      hrun]
  exact ⟨(key op).2 h.1, fun other hp => h.2 other ((key other).1 hp)⟩

/-- An operator still leads its tokens when some of those behind them are cut off. -/
theorem of_append (h : op.Leads (us ++ vs)) (hus : op.spelling.length ≤ us.length) : op.Leads us := by
  have hcut : leadingSymbols us = (leadingSymbols (us ++ vs)).take us.length := by
    rw [← leadingSymbols_take, List.take_left]
  refine ⟨?_, fun other hp => h.2 other ?_⟩
  · rw [hcut, List.prefix_take_iff]
    exact ⟨h.1, hus⟩
  · rw [hcut] at hp
    exact hp.trans (List.take_prefix ..)

end BinaryOp.Leads

namespace BinaryOp

variable {op : BinaryOp} {ts : List Token}

/-- A token that is a part of no operator does not change which one leads the tokens before it. -/
theorem leads_append_solid_iff {us vs : List Token} {t : Token} (ht : t.Solid) :
    op.Leads (us ++ t :: vs) ↔ op.Leads us := by
  have key (other : BinaryOp) := prefix_leadingSymbols_solid (fun c hc => other.not_mem_punctuation hc) ht us vs
  exact and_congr (key op) (forall_congr' fun other => imp_congr_left (key other))

/-- Where one operator could be read, the longest one leads. -/
theorem exists_leads (h : op.spelling <+: leadingSymbols ts) :
    ∃ longest : BinaryOp, longest.Leads ts ∧ op.spelling <+: longest.spelling := by
  obtain ⟨longest, hl⟩ : ∃ longest : BinaryOp, longest.Leads ts := by
    cases hb : Parser.levelRule allOperators ts with
    | none => exact absurd h (not_prefix_of_levelRule_eq_none hb op.mem_allOperators)
    | some b => exact ⟨b, leads_iff_longestIn.2 (levelRule_eq_some_iff.1 hb)⟩
  exact ⟨longest, hl, List.prefix_of_prefix_length_le h hl.1 (hl.2 op h)⟩

end BinaryOp

end ExprLang
