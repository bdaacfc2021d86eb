import ExprLang.Proofs.ContextReads
import ExprLang.Proofs.Markings

/-!
# Parsing without regular expressions

* The regular expressions of a tree are those of its tokens, in their order (`Derivation.regexes_eq`).
* The parsers with and without regular expressions stay in step until the first token that is one, and there the
  latter fail (`inStep`).  So forbidding regular expressions changes nothing but that they are refused, and a tree
  parsed without them is evaluated the same whatever makes them (`parse_gate`).
-/

open ExprLang.Parser

namespace ExprLang

/-- The pattern and the flags of a regular expression. -/
def Lexeme.regex? : Lexeme → Option (String × String)
  | regex pattern flags => some (pattern, flags)
  | _ => none

namespace Node

/-- The pattern and the flags of a regular expression. -/
def regex? : Node → Option (String × String)
  | regex _ pattern flags => some (pattern, flags)
  | _ => none

/-- A regular expression is among the nodes. -/
def HasRegex (n : Node) : Prop := ∃ r pattern flags, regex r pattern flags ∈ n.walk

/-- The regular expressions of trees in the order of their walks. -/
def regexesAll (nodes : List Node) : List (String × String) := (walkAll nodes).filterMap regex?

theorem hasRegex_iff {n : Node} : n.HasRegex ↔ regexesAll [n] ≠ [] := by
  have hall : regexesAll [n] = n.walk.filterMap regex? := by
    rw [regexesAll, walkAll, walkAll, List.append_nil]
  rw [hall, Ne, List.filterMap_eq_nil_iff]
  constructor
  · rintro ⟨r, pattern, flags, h⟩ hnone
    cases hnone _ h
  · intro h
    simp only [not_forall] at h
    obtain ⟨m, hm, h⟩ := h
    cases m with
    | regex r pattern flags => exact ⟨r, pattern, flags, hm⟩
    | _ => exact absurd rfl h

end Node

/-! ### The regular expressions of a tree -/

/-- The regular expressions among tokens. -/
def tokenRegexes (ts : List Token) : List (String × String) := ts.filterMap fun t => t.lexeme.regex?

theorem regex?_of_isSymbol {t : Token} {c : Char} (h : t.isSymbol c) : t.lexeme.regex? = none := by
  rw [lexeme_of_isSymbol h]
  rfl

theorem regex?_of_unaryOp? {t : Token} {op : UnaryOp} (h : unaryOp? t = some op) : t.lexeme.regex? = none := by
  cases ht : t.lexeme with
  | regex pattern flags => simp [unaryOp?, ht] at h
  | _ => rfl

theorem BinaryOp.Leads.regex?_of_mem {op : BinaryOp} {ts : List Token} (h : op.Leads ts) {t : Token}
    (ht : t ∈ ts.take op.spelling.length) : t.lexeme.regex? = none := by
  obtain ⟨c, -, hsymbol⟩ := h.exists_isSymbol ht
  exact regex?_of_isSymbol hsymbol

theorem BinaryOp.Leads.tokenRegexes_take {op : BinaryOp} {ts : List Token} (h : op.Leads ts) :
    tokenRegexes (ts.take op.spelling.length) = [] :=
  List.filterMap_eq_nil_iff.2 fun _ ht => h.regex?_of_mem ht

/-- Each regular expression marks its node and its token. -/
def regexMarking : Marking (String × String) where
  ofNode := Node.regex?
  ofToken _ t := t.lexeme.regex?
  withRange n r := by cases n <;> rfl
  symbol h _ := regex?_of_isSymbol h
  sign h _ _ := regex?_of_unaryOp? h
  literal h := by rw [h]; rfl
  name h _ := by rw [h]; rfl
  regex h := by rw [h]; rfl
  key h := by rw [h]; rfl
  property _ _ _ := rfl
  call _ _ _ := rfl
  array _ _ := rfl
  binary _ _ _ _ := rfl
  ternary _ _ _ _ := rfl

theorem regexMarking_tokens (behind : Bool) (ts : List Token) : regexMarking.tokens behind ts = tokenRegexes ts := by
  induction ts generalizing behind with
  | nil => rfl
  | cons t ts ih =>
    rw [Marking.tokens, ih]
    show t.lexeme.regex?.toList ++ tokenRegexes ts = tokenRegexes (t :: ts)
    rw [tokenRegexes, tokenRegexes, List.filterMap_cons]
    cases t.lexeme.regex? <;> rfl

/-- The regular expressions of a tree are those of its tokens, in the same order. -/
theorem Derivation.regexes_eq {r : Bool} {p : Phrase} {ts rest : List Token} (d : Derivation r p ts rest)
    (hp : p.Closed) : Node.regexesAll (p.trees d.result) = tokenRegexes d.taken := by
  rw [← regexMarking_tokens false]
  exact d.marks_eq regexMarking hp

/-! ### Two runs in step -/

/-- The first token that is a regular expression. -/
def firstRegex? (ts : List Token) : Option Token := ts.find? fun t => t.lexeme.regex?.isSome

theorem firstRegex?_cons {t : Token} (h : t.lexeme.regex? = none) (ts : List Token) :
    firstRegex? (t :: ts) = firstRegex? ts := by
  simp [firstRegex?, h]

theorem firstRegex?_eq_none_iff {ts : List Token} : firstRegex? ts = none ↔ tokenRegexes ts = [] := by
  simp [firstRegex?, tokenRegexes, List.filterMap_eq_nil_iff]

theorem firstRegex?_append {us : List Token} (h : tokenRegexes us = []) (vs : List Token) :
    firstRegex? (us ++ vs) = firstRegex? vs := by
  have hnone : us.find? (fun t => t.lexeme.regex?.isSome) = none := firstRegex?_eq_none_iff.2 h
  rw [firstRegex?, List.find?_append, hnone, Option.none_or, firstRegex?]

theorem BinaryOp.Leads.firstRegex?_drop {op : BinaryOp} {ts : List Token} (h : op.Leads ts) :
    firstRegex? (ts.drop op.spelling.length) = firstRegex? ts := by
  rw [← firstRegex?_append h.tokenRegexes_take, List.take_append_drop]

/-- The first regular expression among the tokens is refused. -/
def Refused {α : Type} (ts : List Token) (outcome : Except SyntaxError α) : Prop :=
  ∃ t, firstRegex? ts = some t ∧ outcome = .error (.regexDisabled t.offset)

/-- Without regular expressions the outcome is the same, and none has been passed, or the first one is refused. -/
def Gated {α : Type} (ts : List Token) (off on : Except SyntaxError (α × List Token)) : Prop :=
  (off = on ∧ ∀ x rest, on = .ok (x, rest) → firstRegex? rest = firstRegex? ts) ∨ Refused ts off

namespace Gated

variable {α β : Type} {ts : List Token}

theorem error (e : SyntaxError) : Gated ts (.error e : Except SyntaxError (α × List Token)) (.error e) :=
  .inl ⟨rfl, fun _ _ h => nomatch h⟩

theorem ok {x : α} {rest : List Token} (h : firstRegex? rest = firstRegex? ts) :
    Gated ts (.ok (x, rest)) (.ok (x, rest)) := by
  refine .inl ⟨rfl, fun _ _ he => ?_⟩
  cases he
  exact h

theorem congr {ts' : List Token} {off on : Except SyntaxError (α × List Token)} (h : Gated ts' off on)
    (hts : firstRegex? ts' = firstRegex? ts) : Gated ts off on := by
  unfold Gated Refused
  rw [← hts]
  exact h

theorem bind {off on : Except SyntaxError (α × List Token)} {f g : α × List Token → Except SyntaxError (β × List Token)}
    (h : Gated ts off on) (hf : ∀ x rest, Gated rest (f (x, rest)) (g (x, rest))) :
    Gated ts (off >>= f) (on >>= g) := by
  rcases h with ⟨rfl, h⟩ | ⟨t, ht, rfl⟩
  · cases off with
    | error e => exact error e
    | ok x => exact (hf x.1 x.2).congr (h x.1 x.2 rfl)
  · exact .inr ⟨t, ht, rfl⟩

end Gated

theorem gated_expect (c : Char) (ts : List Token) : Gated ts (expect c ts) (expect c ts) := by
  refine .inl ⟨rfl, fun range rest h => ?_⟩
  obtain ⟨t, rfl, ht, -⟩ := expect_eq_ok_iff.1 h
  exact (firstRegex?_cons (regex?_of_isSymbol ht) rest).symm

/-- The parsers with and without regular expressions are in step. -/
structure InStep (b : Nat) : Prop where
  conditional (ts : List Token) : Gated ts (conditional (standard false) b ts) (conditional (standard true) b ts)
  chain (levels : List OperatorTable) (ts : List Token) :
    Gated ts (chain (standard false) b levels ts) (chain (standard true) b levels ts)
  folds (table : OperatorTable) (levels : List OperatorTable) (left : Node) (ts : List Token) :
    Gated ts (folds (standard false) b table levels left ts) (folds (standard true) b table levels left ts)
  exponent (ts : List Token) : Gated ts (exponent (standard false) b ts) (exponent (standard true) b ts)
  unary (ts : List Token) : Gated ts (unary (standard false) b ts) (unary (standard true) b ts)
  steps (object : Node) (ts : List Token) :
    Gated ts (steps (standard false) b object ts) (steps (standard true) b object ts)

section
variable {off on : List Token → Except SyntaxError (Node × List Token)} (hitem : ∀ ts, Gated ts (off ts) (on ts))
include hitem

private theorem items_inStep (close : Char) (trailing : Bool) (fuel : Nat) (ts : List Token) :
    Gated ts (items off close trailing fuel ts) (items on close trailing fuel ts) := by
  induction fuel generalizing ts with
  | zero => exact .error _
  | succ fuel ih =>
    -- Behind a comma the list goes on, and the item is put in front of what is read there.
    have hmore (first : Node) (rest : List Token) := (ih rest).bind
      (f := fun x => .ok ((first :: x.1.1, x.1.2), x.2)) (g := fun x => .ok ((first :: x.1.1, x.1.2), x.2))
      fun _ _ => .ok rfl
    rw [items, items]
    refine (hitem ts).bind fun first rest => ?_
    cases rest with
    | nil => exact .error _
    | cons t rest =>
      simp only [next, bind, Except.bind]
      by_cases hclose : t.isSymbol close
      · simp only [hclose, if_true]
        exact .ok (firstRegex?_cons (regex?_of_isSymbol hclose) rest).symm
      · by_cases hcomma : t.isSymbol ','
        · have hrest := firstRegex?_cons (regex?_of_isSymbol hcomma) rest
          simp only [hclose, hcomma, Bool.false_eq_true, if_false, if_true]
          cases rest with
          | nil => exact (hmore first []).congr hrest.symm
          | cons u rest =>
            by_cases hu : (trailing && u.isSymbol close) = true
            · simp only [hu, if_true]
              rw [Bool.and_eq_true] at hu
              rw [firstRegex?_cons (regex?_of_isSymbol hu.2)] at hrest
              exact .ok hrest.symm
            · simp only [hu, Bool.false_eq_true, if_false]
              exact (hmore first (u :: rest)).congr hrest.symm
        · simp only [hclose, hcomma, Bool.false_eq_true, if_false]
          exact .error _

private theorem list_inStep (close : Char) (trailing : Bool) (ts : List Token) :
    Gated ts (list off close trailing ts) (list on close trailing ts) := by
  cases ts with
  | nil => exact items_inStep hitem ..
  | cons t rest =>
    rw [list, list]
    by_cases hclose : t.isSymbol close
    · simp only [hclose, if_true]
      exact .ok (firstRegex?_cons (regex?_of_isSymbol hclose) rest).symm
    · simp only [hclose, Bool.false_eq_true, if_false]
      exact items_inStep hitem ..

end

section
variable {b : Nat} (below : ∀ c, b = c + 1 → InStep c)
include below

private theorem primary_inStep (ts : List Token) :
    Gated ts (primary (standard false) b ts) (primary (standard true) b ts) := by
  rw [primary.eq_def (standard false), primary.eq_def (standard true)]
  cases ts with
  | nil => exact .error _
  | cons t rest =>
    simp only [next, bind, Except.bind]
    cases ht : t.lexeme with
    | literal v => exact .ok (firstRegex?_cons (by rw [ht]; rfl) rest).symm
    | identifier name => exact .ok (firstRegex?_cons (by rw [ht]; rfl) rest).symm
    | regex pattern flags =>
      -- Here the runs part.
      exact .inr ⟨t, by simp [firstRegex?, ht, Lexeme.regex?], rfl⟩
    | symbol c =>
      have hrest : firstRegex? rest = firstRegex? (t :: rest) := (firstRegex?_cons (by rw [ht]; rfl) rest).symm
      simp only
      split
      · cases b with
        | zero => exact .error _
        | succ b =>
          have hs := below b rfl
          simp only
          split
          · refine Gated.congr ((hs.conditional rest).bind fun inner rest => ?_) hrest
            exact (gated_expect ')' rest).bind fun _ _ => .ok rfl
          · exact Gated.congr ((list_inStep hs.conditional ..).bind fun _ _ => .ok rfl) hrest
      · exact .error _

private theorem steps_inStep (object : Node) (ts : List Token) :
    Gated ts (steps (standard false) b object ts) (steps (standard true) b object ts) := by
  rw [steps.eq_def (standard false), steps.eq_def (standard true)]
  cases ts with
  | nil => exact .ok rfl
  | cons t rest =>
    simp only
    split
    case isFalse => exact .ok rfl
    case isTrue hstep =>
      have hrest : firstRegex? rest = firstRegex? (t :: rest) := by
        rcases hstep with ht | ht | ht <;> exact (firstRegex?_cons (regex?_of_isSymbol ht) rest).symm
      cases b with
      | zero => exact .error _
      | succ b =>
        have hs := below b rfl
        simp only
        split
        · cases rest with
          | nil => exact .error _
          | cons u rest =>
            simp only [next, bind, Except.bind]
            cases hu : u.lexeme with
            | identifier name =>
              have hname := firstRegex?_cons (t := u) (by rw [hu]; rfl) rest
              exact (hs.steps _ rest).congr (hname.symm.trans hrest)
            | _ => exact .error _
        · split
          · refine Gated.congr ((hs.conditional rest).bind fun key rest => ?_) hrest
            exact (gated_expect ']' rest).bind fun _ rest => hs.steps _ rest
          · exact Gated.congr ((list_inStep hs.conditional ..).bind fun _ rest => hs.steps _ rest) hrest

private theorem unary_inStep (ts : List Token) :
    Gated ts (unary (standard false) b ts) (unary (standard true) b ts) := by
  have hmember (ts : List Token) : Gated ts (member (standard false) b ts) (member (standard true) b ts) := by
    rw [member, member]
    exact (primary_inStep below ts).bind fun object rest => steps_inStep below object rest
  rw [unary.eq_def (standard false), unary.eq_def (standard true)]
  cases ts with
  | nil => exact hmember []
  | cons t rest =>
    simp only
    split
    · exact hmember (t :: rest)
    · rename_i op ht
      cases b with
      | zero => exact .error _
      | succ b =>
        have hrest := firstRegex?_cons (regex?_of_unaryOp? ht) rest
        exact Gated.congr (((below b rfl).unary rest).bind fun _ _ => .ok rfl) hrest.symm

private theorem exponent_inStep (ts : List Token) :
    Gated ts (exponent (standard false) b ts) (exponent (standard true) b ts) := by
  rw [exponent.eq_def (standard false), exponent.eq_def (standard true)]
  refine (unary_inStep below ts).bind fun base rest => ?_
  simp only
  split
  · exact .ok rfl
  · rename_i op hop
    obtain ⟨-, hleads⟩ := globalRule_eq_some_iff.1 hop
    cases b with
    | zero => exact .error _
    | succ b => exact Gated.congr (((below b rfl).exponent _).bind fun _ _ => .ok rfl) hleads.firstRegex?_drop

private theorem folds_inStep (table : OperatorTable) (levels : List OperatorTable) (left : Node) (ts : List Token) :
    Gated ts (folds (standard false) b table levels left ts) (folds (standard true) b table levels left ts) := by
  rw [folds.eq_def (standard false), folds.eq_def (standard true)]
  simp only
  split
  · exact .ok rfl
  · rename_i op hop
    obtain ⟨-, hleads⟩ := globalRule_eq_some_iff.1 hop
    cases b with
    | zero => exact .error _
    | succ b =>
      have hs := below b rfl
      refine Gated.congr ((hs.chain levels _).bind fun right rest => ?_) hleads.firstRegex?_drop
      exact hs.folds table levels _ rest

private theorem chain_inStep (levels : List OperatorTable) (ts : List Token) :
    Gated ts (chain (standard false) b levels ts) (chain (standard true) b levels ts) := by
  induction levels generalizing ts with
  | nil =>
    rw [chain_nil, chain_nil]
    exact exponent_inStep below ts
  | cons table levels ih =>
    rw [chain.eq_def (standard false), chain.eq_def (standard true)]
    exact (ih ts).bind fun left rest => folds_inStep below table levels left rest

private theorem conditional_inStep (ts : List Token) :
    Gated ts (conditional (standard false) b ts) (conditional (standard true) b ts) := by
  rw [conditional.eq_def (standard false), conditional.eq_def (standard true)]
  refine (chain_inStep below binaryLevels ts).bind fun condition rest => ?_
  cases rest with
  | nil => exact .ok rfl
  | cons t rest =>
    simp only
    split
    case isFalse => exact .ok rfl
    case isTrue hquestion =>
      have hrest := firstRegex?_cons (regex?_of_isSymbol hquestion) rest
      cases b with
      | zero => exact .error _
      | succ b =>
        have hs := below b rfl
        refine Gated.congr ((hs.conditional rest).bind fun consequent rest => ?_) hrest.symm
        refine (gated_expect ':' rest).bind fun _ rest => ?_
        exact (hs.conditional rest).bind fun _ _ => .ok rfl

private theorem inStep_of_below : InStep b :=
  ⟨conditional_inStep below, chain_inStep below, folds_inStep below, exponent_inStep below, unary_inStep below,
    steps_inStep below⟩

end

theorem inStep (b : Nat) : InStep b := budget_induction (fun _ below => inStep_of_below below) b

/-! ### Whole expressions -/

theorem parse_gated (ts : List Token) :
    (parse false ts = parse true ts ∧ ∀ n, parse true ts = .ok n → firstRegex? ts = none) ∨
      Refused ts (parse false ts) := by
  unfold parse parseWith
  rcases (inStep maxDepth).conditional ts with ⟨heq, hfirst⟩ | ⟨t, ht, hoff⟩
  · refine .inl ⟨by rw [heq], fun n h => ?_⟩
    obtain ⟨⟨n', rest⟩, hon, hrest⟩ := bind_eq_ok_iff.1 h
    cases rest with
    | nil => exact (hfirst n' [] hon).symm
    | cons t rest => cases hrest
  · exact .inr ⟨t, ht, by rw [hoff]; rfl⟩

/-- A tree holds a regular expression exactly if one is among its tokens. -/
theorem hasRegex_iff_of_parse {allowRegex : Bool} {ts : List Token} {n : Node} (h : parse allowRegex ts = .ok n) :
    n.HasRegex ↔ firstRegex? ts ≠ none := by
  obtain ⟨d, rfl, -⟩ := exists_derivation_of_parse h
  have hregexes : Node.regexesAll [d.result] = tokenRegexes ts :=
    (d.regexes_eq trivial).trans (congrArg tokenRegexes d.taken_eq)
  rw [Node.hasRegex_iff, hregexes]
  exact not_congr firstRegex?_eq_none_iff.symm

/-- Without regular expressions a tree that holds none is parsed as with them, a tree that holds one is refused at the
first token that is one, and other tokens are rejected for the same reason unless that token is refused first.  So no
tree parsed without them holds one, and its evaluation does not depend on what makes regular expressions. -/
theorem parse_gate (ts : List Token) :
    (∀ n, parse true ts = .ok n → ¬ n.HasRegex → parse false ts = .ok n) ∧
    (∀ n, parse true ts = .ok n → n.HasRegex → Refused ts (parse false ts)) ∧
    (∀ e, parse true ts = .error e → parse false ts = .error e ∨ Refused ts (parse false ts)) ∧
    ∀ n, parse false ts = .ok n → ¬ n.HasRegex ∧
      ∀ (s : Surroundings) (support : RegexSupport), n.eval { s with regex := support } = n.eval s := by
  have hnone (n : Node) (hoff : parse false ts = .ok n) : ¬ n.HasRegex := by
    rcases parse_gated ts with ⟨heq, hfirst⟩ | ⟨t, ht, hrefused⟩
    · rw [hasRegex_iff_of_parse hoff, hfirst n (heq ▸ hoff)]
      exact fun h => h rfl
    · rw [hoff] at hrefused
      cases hrefused
  refine ⟨fun n hon hn => ?_, fun n hon hn => ?_, fun e hon => ?_, fun n hoff => ⟨hnone n hoff, fun s support => ?_⟩⟩
  · rcases parse_gated ts with ⟨heq, -⟩ | ⟨t, ht, -⟩
    · rw [heq, hon]
    · have hfirst : firstRegex? ts ≠ none := by simp [ht]
      exact absurd ((hasRegex_iff_of_parse hon).2 hfirst) hn
  · rcases parse_gated ts with ⟨-, hfirst⟩ | hrefused
    · exact absurd (hfirst n hon) ((hasRegex_iff_of_parse hon).1 hn)
    · exact hrefused
  · rcases parse_gated ts with ⟨heq, -⟩ | hrefused
    · exact .inl (heq.trans hon)
    · exact .inr hrefused
  · refine Node.eval_congr n ⟨fun _ _ _ _ => rfl, rfl, rfl, fun r pattern flags hm => ?_⟩
    exact absurd ⟨r, pattern, flags, hm⟩ (hnone n hoff)

/-- With both a regular expression and a fault in the tokens, the first of them counts. -/
example : parse true [⟨.regex "b" "", 0, 3⟩, ⟨.symbol ')', 3, 1⟩] = .error (.unexpectedRemainder 3) ∧
    parse false [⟨.regex "b" "", 0, 3⟩, ⟨.symbol ')', 3, 1⟩] = .error (.regexDisabled 0) ∧
    parse false [⟨.symbol ')', 0, 1⟩, ⟨.regex "b" "", 1, 3⟩] = .error (.unexpectedToken 0) := by
  refine ⟨by cbv, by cbv, by cbv⟩

end ExprLang
