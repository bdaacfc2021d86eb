import ExprLang.Proofs.NodePaths
import ExprLang.Proofs.Parsing

/-!
# How deep trees are

The charge of a derivation starts anew from every left operand, but the tree grows around left operands.

* The nesting of a derivation counts the left operands as well, and is the height of the tree
  (`Derivation.nesting_eq_height`).
* A charge within a budget keeps the nesting within `deepestTree` of that budget
  (`Derivation.nesting_le_deepest`), and some expression is nested that deep (`Reaches.exists_deepest`).
-/

namespace ExprLang

/-- The depth that a budget allows to an expression: one for a conditional, as much as the budget for each of the six
levels, one for `**`, as much as the budget for the steps, and an array around an expression with a budget less
by one. -/
def deepestTree : Nat → Nat
  | 0 => 0
  | b + 1 => deepestTree b + 7 * (b + 1) + 3

/-- The depth that a budget allows to a primary. -/
def deepestPrimary : Nat → Nat
  | 0 => 0
  | b + 1 => deepestTree b + 1

/-- The depth that a budget allows to a phrase. -/
def Phrase.deepest (b : Nat) : Phrase → Nat
  | conditional => deepestTree b
  | chain levels => deepestPrimary b + b + min b 1 + levels.length * b
  | level _ levels k => deepestPrimary b + b + min b 1 + levels.length * b + k
  | exponent => deepestPrimary b + b + min b 1
  | unary => deepestPrimary b + b
  | member k => deepestPrimary b + k
  | primary => deepestPrimary b
  | list .. | items .. => deepestTree b + 1

/-- The height of what a phrase stands for. -/
def Phrase.height : (p : Phrase) → p.Result → Nat
  | list .., x | items .., x => Node.heightOver x.1
  | conditional, n | chain _, n | level .., n | exponent, n | unary, n | member _, n | primary, n => n.height

namespace Derivation

variable {r : Bool} {p : Phrase} {ts rest : List Token}

/-- How deep the operands of a derivation are nested, left operands counted like right ones. -/
def nesting {p : Phrase} {ts rest : List Token} : Derivation r p ts rest → Nat
  | plain c => c.nesting
  | branch c _ a _ b => max (1 + c.nesting) (max (1 + a.nesting) (1 + b.nesting))
  | tightest e => e.nesting
  | folded c => c.nesting
  | operand c => c.nesting
  | fold l _ _ _ r => max (1 + l.nesting) (1 + r.nesting)
  | base u => u.nesting
  | power l _ _ _ r => max (1 + l.nesting) (1 + r.nesting)
  | signed _ _ _ u => 1 + u.nesting
  | unsigned m => m.nesting
  | object n => n.nesting
  | dot _ _ o _ _ => 1 + o.nesting
  | index _ o _ key _ => max (1 + o.nesting) (1 + key.nesting)
  | call f _ l => max (1 + f.nesting) l.nesting
  | literal .. | name .. | regex .. => 0
  | parens _ _ _ n _ => n.nesting
  | array _ _ l => l.nesting
  | empty .. => 0
  | filled l => l.nesting
  | last _ n _ => 1 + n.nesting
  | lastComma _ _ n _ _ => 1 + n.nesting
  | more n _ l => max (1 + n.nesting) l.nesting

/-- The nesting of a derivation is the height of its tree. -/
theorem nesting_eq_height (d : Derivation r p ts rest) : d.nesting = p.height d.result := by
  induction d with
  | plain condition ih => exact ih
  | tightest operand ih => exact ih
  | folded folds ih => exact ih
  | operand tighter ih => exact ih
  | base operand ih => exact ih
  | unsigned operand ih => exact ih
  | object primary ih => exact ih
  | filled entries ih => exact ih
  | array opening hopening entries ih => exact ih
  | parens opening closing hopening inner hclosing ih =>
    simpa only [nesting, result, Phrase.height, Node.height_withRange] using ih
  | _ => simp_all [nesting, result, Phrase.height, Node.height, Node.heightOver]

/-! ### The bound -/

theorem deepest_mono (p : Phrase) {b c : Nat} (h : b ≤ c) : p.deepest b ≤ p.deepest c := by
  induction h with
  | refl => exact Nat.le_refl _
  | @step c h ih =>
    refine Nat.le_trans ih ?_
    show p.deepest c ≤ p.deepest (c + 1)
    have hprimary : deepestPrimary c ≤ deepestPrimary (c + 1) := by
      cases c with
      | zero => exact Nat.zero_le _
      | succ c => simp only [deepestPrimary, deepestTree]; omega
    cases p <;> simp only [Phrase.deepest, deepestTree, Nat.mul_add] <;> omega

/-- Inside a bracket a budget allows less than one edge to a primary. -/
theorem deepestTree_lt_deepestPrimary {b c : Nat} (h : b < c) : deepestTree b < deepestPrimary c := by
  obtain ⟨c, rfl⟩ : ∃ d, c = d + 1 := ⟨c - 1, by omega⟩
  have := deepest_mono .conditional (show b ≤ c by omega)
  simp only [Phrase.deepest] at this
  rw [deepestPrimary]
  omega

/-- A charge within a budget bounds the nesting. -/
theorem nesting_le_deepest (d : Derivation r p ts rest) {b : Nat} (hb : d.charge ≤ b) :
    d.nesting ≤ p.deepest b := by
  induction d generalizing b with
  | plain condition ih =>
    have := ih hb
    cases b with
    | zero => simpa [nesting, Phrase.deepest, deepestTree, deepestPrimary] using this
    | succ b =>
      simp only [nesting, Phrase.deepest, deepestTree, deepestPrimary, binaryLevels, List.length_cons,
        List.length_nil] at this ⊢
      omega
  | branch condition hquestion consequent hcolon alternate ihc iha ihb =>
    simp only [charge] at hb
    obtain ⟨b, rfl⟩ : ∃ c, b = c + 1 := ⟨b - 1, by omega⟩
    have hc := ihc (b := b + 1) (by omega)
    have ha := iha (b := b) (by omega)
    have hb := ihb (b := b) (by omega)
    simp only [nesting, Phrase.deepest, deepestTree, deepestPrimary, binaryLevels, List.length_cons,
      List.length_nil] at hc ha hb ⊢
    omega
  | tightest operand ih =>
    have := ih hb
    simpa [nesting, Phrase.deepest] using this
  | folded folds ih =>
    have hf := ih hb
    have hk := folds.count_le_charge
    simp only [charge] at hb hk
    simp only [nesting, Phrase.deepest, List.length_cons, Nat.add_mul] at hf ⊢
    omega
  | operand tighter ih => exact ih hb
  | @fold table levels k _ _ _ left op hop hleads right ihl ihr =>
    simp only [charge] at hb
    -- The left operand keeps the whole budget, only the right one pays for the folds before it.
    have hl := ihl (b := b) (by omega)
    have hr := ihr (b := b - (k + 1)) (by omega)
    have hm := deepest_mono (.chain levels) (Nat.sub_le b (k + 1))
    simp only [nesting, Phrase.deepest] at hl hr hm ⊢
    omega
  | base operand ih =>
    have := ih hb
    simp only [nesting, Phrase.deepest] at this ⊢
    omega
  | power left op hop hleads right ihl ihr =>
    simp only [charge] at hb
    obtain ⟨b, rfl⟩ : ∃ c, b = c + 1 := ⟨b - 1, by omega⟩
    have hl := ihl (b := b + 1) (by omega)
    have hr := ihr (b := b) (by omega)
    have hm := deepest_mono .primary (Nat.le_add_right b 1)
    simp only [nesting, Phrase.deepest] at hl hr hm ⊢
    omega
  | signed sign op hsign operand ih =>
    simp only [charge] at hb
    obtain ⟨b, rfl⟩ : ∃ c, b = c + 1 := ⟨b - 1, by omega⟩
    have ho := ih (b := b) (by omega)
    have hm := deepest_mono .primary (Nat.le_add_right b 1)
    simp only [nesting, Phrase.deepest] at ho hm ⊢
    omega
  | unsigned operand ih =>
    have ho := ih hb
    have hk := operand.count_le_charge
    simp only [charge] at hb hk
    simp only [nesting, Phrase.deepest] at ho ⊢
    omega
  | object primary ih => exact ih hb
  | dot key word object hpoint hkey ih =>
    simp only [charge] at hb
    have ho := ih (b := b) (by omega)
    simp only [nesting, Phrase.deepest] at ho ⊢
    omega
  | @index k _ _ _ _ closing object hopening key hclosing ih ihk =>
    simp only [charge] at hb
    have ho := ih (b := b) (by omega)
    have hk := ihk (b := b - (k + 1)) (by omega)
    have hlt := deepestTree_lt_deepestPrimary (show b - (k + 1) < b by omega)
    simp only [nesting, Phrase.deepest] at ho hk ⊢
    omega
  | @call k _ _ _ _ callee hopening arguments ih iha =>
    simp only [charge] at hb
    have hc := ih (b := b) (by omega)
    have ha := iha (b := b - (k + 1)) (by omega)
    have hlt := deepestTree_lt_deepestPrimary (show b - (k + 1) < b by omega)
    simp only [nesting, Phrase.deepest] at hc ha ⊢
    omega
  | literal t v ht => exact Nat.zero_le _
  | name t word ht hword => exact Nat.zero_le _
  | regex t pattern flags ht hallowed => exact Nat.zero_le _
  | parens opening closing hopening inner hclosing ih =>
    simp only [charge] at hb
    have hi := ih (b := b - 1) (by omega)
    have hlt := deepestTree_lt_deepestPrimary (show b - 1 < b by omega)
    simp only [nesting, Phrase.deepest] at hi ⊢
    omega
  | array opening hopening entries ih =>
    simp only [charge] at hb
    have he := ih (b := b - 1) (by omega)
    have hlt := deepestTree_lt_deepestPrimary (show b - 1 < b by omega)
    simp only [nesting, Phrase.deepest] at he ⊢
    omega
  | empty closing hclosing => exact Nat.zero_le _
  | filled entries ih => exact ih hb
  | last closing item hclosing ih =>
    have hi := ih hb
    simp only [nesting, Phrase.deepest] at hi ⊢
    omega
  | lastComma closing htrailing item hcomma hclosing ih =>
    have hi := ih hb
    simp only [nesting, Phrase.deepest] at hi ⊢
    omega
  | more item hcomma others ih iho =>
    simp only [charge] at hb
    have hi := ih (b := b) (by omega)
    have ho := iho (b := b) (by omega)
    simp only [nesting, Phrase.deepest] at hi ho ⊢
    omega

end Derivation
end ExprLang
