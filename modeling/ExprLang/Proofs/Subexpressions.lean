import ExprLang.Proofs.DerivationTokens
import ExprLang.Proofs.NodePaths

/-!
# Every node is an expression of its own

A node of the tree of a derivation is the tree of an expression that stands among the tokens and is charged no more
(`Derivation.found`).  The only exception is the constant for the name behind a point (`PointKeyIn`).
-/

open ExprLang.Parser

namespace ExprLang

/-- The constant that a member read has for the name behind a point. -/
def PointKeyIn (ts : List Token) (n : Node) : Prop :=
  ∃ before point key after word, ts = before ++ point :: key :: after ∧ point.isSymbol '.' ∧
    key.lexeme = .identifier word ∧ n = .constant key.range (.string word)

/-- The tree of an expression that stands among the tokens and is charged no more than a budget. -/
def Subexpression (r : Bool) (ts : List Token) (b : Nat) (n : Node) : Prop :=
  ∃ us, us <:+: ts ∧ ∃ d : Derivation r .conditional us [], d.result = n ∧ d.charge ≤ b

/-- A node that the tokens account for. -/
def Found (r : Bool) (ts : List Token) (b : Nat) (n : Node) : Prop := PointKeyIn ts n ∨ Subexpression r ts b n

variable {r : Bool} {ts rest : List Token} {n : Node}

theorem Found.mono {ts' : List Token} {b b' : Nat} (h : Found r ts' b' n) (hts : ts' <:+: ts) (hb : b' ≤ b) :
    Found r ts b n := by
  rcases h with ⟨before, point, key, after, word, rfl, hpoint, hkey, rfl⟩ | ⟨us, hus, d, hd, hc⟩
  · obtain ⟨front, back, rfl⟩ := hts
    exact .inl ⟨front ++ before, point, key, after ++ back, word, by simp, hpoint, hkey, rfl⟩
  · exact .inr ⟨us, hus.trans hts, d, hd, Nat.le_trans hc hb⟩

/-! ### Phrases as expressions -/

namespace Derivation

theorem subexpression (d : Derivation r .conditional ts rest) : Subexpression r ts d.charge d.result := by
  have h := d.carry []
  rw [List.append_nil] at h
  obtain ⟨d', he, hc⟩ := h
  exact ⟨d.taken, d.taken_infix, d', he, Nat.le_of_eq hc⟩

theorem exists_looser {levels : List OperatorTable} (looser : List OperatorTable)
    (d : Derivation r (.chain levels) ts rest) :
    ∃ d' : Derivation r (.chain (looser ++ levels)) ts rest, d'.result = d.result ∧ d'.charge = d.charge := by
  induction looser with
  | nil => exact ⟨d, rfl, rfl⟩
  | cons table looser ih =>
    obtain ⟨d', hr, hc⟩ := ih
    exact ⟨.folded (.operand d'), hr, hc⟩

theorem subexpression_of_chain {levels : List OperatorTable} (d : Derivation r (.chain levels) ts rest)
    (hlevels : levels <:+ binaryLevels) : Subexpression r ts d.charge d.result := by
  obtain ⟨looser, h⟩ := hlevels
  obtain ⟨d', hr, hc⟩ := d.exists_looser looser
  rw [← hr, ← hc]
  generalize looser ++ levels = all at h d'
  subst h
  exact (Derivation.plain d').subexpression

theorem subexpression_of_exponent (d : Derivation r .exponent ts rest) : Subexpression r ts d.charge d.result :=
  (Derivation.tightest d).subexpression_of_chain List.nil_suffix

theorem subexpression_of_unary (d : Derivation r .unary ts rest) : Subexpression r ts d.charge d.result :=
  (Derivation.base d).subexpression_of_exponent

theorem subexpression_of_member {k : Nat} (d : Derivation r (.member k) ts rest) :
    Subexpression r ts d.charge d.result :=
  (Derivation.unsigned d).subexpression_of_unary

theorem subexpression_of_primary (d : Derivation r .primary ts rest) : Subexpression r ts d.charge d.result :=
  (Derivation.object d).subexpression_of_member

end Derivation

/-! ### The nodes of a tree -/

/-- A chain or a level of the grammar itself. -/
def Phrase.Grammatical : Phrase → Prop
  | chain levels => levels <:+ binaryLevels
  | level table levels _ => table :: levels <:+ binaryLevels
  | _ => True

/-- The trees that a phrase stands for. -/
def Phrase.trees : (p : Phrase) → p.Result → List Node
  | list .., x | items .., x => x.1
  | conditional, n | chain _, n | level .., n | exponent, n | unary, n | member _, n | primary, n => [n]

/-- All nodes of the trees are accounted for. -/
def AllFound (r : Bool) (ts : List Token) (b : Nat) (nodes : List Node) : Prop :=
  ∀ n ∈ nodes, ∀ m ∈ n.walk, Found r ts b m

namespace AllFound

variable {nodes : List Node} {b : Nat}

theorem nil : AllFound r ts b [] := fun _ hn => absurd hn List.not_mem_nil

theorem cons (h : AllFound r ts b [n]) (hnodes : AllFound r ts b nodes) : AllFound r ts b (n :: nodes) := by
  intro m hm
  rcases List.mem_cons.1 hm with rfl | hm
  · exact h m (List.mem_singleton_self _)
  · exact hnodes m hm

theorem mono {ts' : List Token} {b' : Nat} (h : AllFound r ts' b' nodes) (hts : ts' <:+: ts) (hb : b' ≤ b) :
    AllFound r ts b nodes :=
  fun n hn m hm => (h n hn m hm).mono hts hb

/-- A node is accounted for if it is an expression and the nodes below it are accounted for. -/
theorem node (hself : Subexpression r ts b n) (h : AllFound r ts b n.children) : AllFound r ts b [n] := by
  intro n' hn' m hm
  obtain rfl := List.mem_singleton.1 hn'
  rw [Node.walk_eq, List.mem_cons, Node.mem_walkAll] at hm
  rcases hm with rfl | ⟨c, hc, hm⟩
  · exact .inr hself
  · exact h c hc m hm

theorem children (h : AllFound r ts b [n]) : AllFound r ts b n.children := by
  intro c hc m hm
  refine h n (List.mem_singleton_self _) m ?_
  rw [Node.walk_eq, List.mem_cons, Node.mem_walkAll]
  exact .inr ⟨c, hc, hm⟩

end AllFound

/-- The nodes of a derivation's trees are accounted for by its tokens. -/
theorem Derivation.found {p : Phrase} (d : Derivation r p ts rest) (hp : p.Grammatical) :
    AllFound r ts d.charge (p.trees d.result) := by
  induction d with
  | plain condition ih => exact ih List.suffix_rfl
  | branch condition hquestion consequent hcolon alternate ihc iha ihb =>
    have hself := (branch condition hquestion consequent hcolon alternate).subexpression
    have ha := (List.suffix_cons ..).trans condition.suffix
    have hb := ((List.suffix_cons ..).trans consequent.suffix).trans ha
    refine .node hself (.cons ?_ (.cons ?_ (.cons ?_ .nil)))
    · exact (ihc List.suffix_rfl).mono List.infix_rfl (by simp only [charge]; omega)
    · exact (iha trivial).mono ha.isInfix (by simp only [charge]; omega)
    · exact (ihb trivial).mono hb.isInfix (by simp only [charge]; omega)
  | tightest operand ih => exact ih trivial
  | folded folds ih => exact ih hp
  | operand tighter ih => exact ih ((List.suffix_cons ..).trans hp)
  | fold left op hop hleads right ihl ihr =>
    have hself := (folded (fold left op hop hleads right)).subexpression_of_chain hp
    have hright := (List.drop_suffix op.spelling.length _).trans left.suffix
    refine .node hself (.cons ?_ (.cons ?_ .nil))
    · exact (ihl hp).mono List.infix_rfl (by simp only [charge]; omega)
    · exact (ihr ((List.suffix_cons ..).trans hp)).mono hright.isInfix (by simp only [charge]; omega)
  | base operand ih => exact ih trivial
  | power left op hop hleads right ihl ihr =>
    have hself := (power left op hop hleads right).subexpression_of_exponent
    have hright := (List.drop_suffix op.spelling.length _).trans left.suffix
    refine .node hself (.cons ?_ (.cons ?_ .nil))
    · exact (ihl trivial).mono List.infix_rfl (by simp only [charge]; omega)
    · exact (ihr trivial).mono hright.isInfix (by simp only [charge]; omega)
  | signed sign op hsign operand ih =>
    have hself := (signed sign op hsign operand).subexpression_of_unary
    refine .node hself (.cons ?_ .nil)
    exact (ih trivial).mono (List.suffix_cons ..).isInfix (by simp only [charge]; omega)
  | unsigned operand ih => exact ih trivial
  | object primary ih => exact ih trivial
  | @dot _ _ _ point key word object hpoint hkey ih =>
    have hself := (dot key word object hpoint hkey).subexpression_of_member
    refine .node hself (.cons ?_ (.cons ?_ .nil))
    · exact (ih trivial).mono List.infix_rfl (by simp only [charge]; omega)
    · -- The constant is no expression, but a point and its name stand for it.
      intro c hc m hm
      obtain rfl := List.mem_singleton.1 hc
      rw [Node.walk, List.mem_singleton] at hm
      exact .inl ⟨object.taken, point, key, _, word, object.taken_append.symm, hpoint, hkey, hm⟩
  | index closing object hopening key hclosing ih ihk =>
    have hself := (index closing object hopening key hclosing).subexpression_of_member
    have hkey := (List.suffix_cons ..).trans object.suffix
    refine .node hself (.cons ?_ (.cons ?_ .nil))
    · exact (ih trivial).mono List.infix_rfl (by simp only [charge]; omega)
    · exact (ihk trivial).mono hkey.isInfix (by simp only [charge]; omega)
  | call callee hopening arguments ih iha =>
    have hself := (call callee hopening arguments).subexpression_of_member
    have harguments := (List.suffix_cons ..).trans callee.suffix
    refine .node hself (.cons ?_ ?_)
    · exact (ih trivial).mono List.infix_rfl (by simp only [charge]; omega)
    · exact (iha trivial).mono harguments.isInfix (by simp only [charge]; omega)
  | literal t v ht => exact .node (literal t v ht).subexpression_of_primary .nil
  | name t word ht hword => exact .node (name t word ht hword).subexpression_of_primary .nil
  | regex t pattern flags ht hallowed => exact .node (regex t pattern flags ht hallowed).subexpression_of_primary .nil
  | parens opening closing hopening inner hclosing ih =>
    refine .node (parens opening closing hopening inner hclosing).subexpression_of_primary ?_
    -- The inner tree itself has lost its range, but what is below it is as it was.
    simp only [result, Node.children_withRange]
    exact (ih trivial).children.mono (List.suffix_cons ..).isInfix (by simp only [charge]; omega)
  | array opening hopening entries ih =>
    refine .node (array opening hopening entries).subexpression_of_primary ?_
    exact (ih trivial).mono (List.suffix_cons ..).isInfix (by simp only [charge]; omega)
  | empty closing hclosing => exact .nil
  | filled entries ih => exact ih trivial
  | last closing item hclosing ih => exact ih trivial
  | lastComma closing htrailing item hcomma hclosing ih => exact ih trivial
  | more item hcomma others ih iho =>
    have hothers := (List.suffix_cons ..).trans item.suffix
    refine .cons ?_ ?_
    · exact (ih trivial).mono List.infix_rfl (by simp only [charge]; omega)
    · exact (iho trivial).mono hothers.isInfix (by simp only [charge]; omega)

end ExprLang
