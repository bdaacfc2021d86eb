import ExprLang.Proofs.CoercionPaths
import ExprLang.Proofs.LooseEquality
import ExprLang.Proofs.TextOrder

/-!
# Relational operators

Two values are compared as texts if the primitives of both are strings (`Value.compare?_texts`) and as numbers if not
(`Value.compare?_numbers`).  Either order is one: it is reversed with its operands (`Value.compare?_swap`), it is transitive
as long as the operands are compared in the same way (`Value.compare?_lt_trans`), and values are in no order only if they
are compared as numbers and one of them is none (`Value.compare?_eq_none_iff`).  The four operators say which order it is
(`BinaryOp.holds_iff`), and with this they fit together (`Value.relations_coherent`).
-/

namespace ExprLang

namespace Number

variable {x y z : Number}

theorem compare?_eq_none_iff : compare? x y = none ↔ x.isNaN = true ∨ y.isNaN = true := by
  cases x <;> cases y <;> simp [compare?, rank?, isNaN]

theorem compare?_lt_trans (hxy : compare? x y = some .lt) (hyz : compare? y z = some .lt) :
    compare? x z = some .lt := by
  cases x with
  | nan => cases hxy
  | signed s p =>
    cases y with
    | nan => cases hxy
    | signed t q =>
      cases z with
      | nan => cases hyz
      | signed u r => exact congrArg some (Std.TransCmp.lt_trans (Option.some.inj hxy) (Option.some.inj hyz))

end Number

namespace Value

variable {a b c : Value}

/-! ### Texts and numbers -/

/-- A value whose primitive is a string. -/
def isText (v : Value) : Bool := v.toPrimitive.asString?.isSome

/-- The code points of the text of a value. -/
def codePoints (v : Value) : List Nat := v.chars.map Char.toNat

theorem isText_iff : a.isText = true ↔ ∃ s, a.toPrimitive = string s := by
  unfold isText
  cases a.toPrimitive <;> simp [asString?]

theorem codePoints_of_toPrimitive {s : String} (h : a.toPrimitive = string s) :
    a.codePoints = s.toList.map Char.toNat := by
  rw [codePoints, ← chars_toPrimitive, h, chars_string]

/-- Texts are in the lexicographic order of their code points. -/
theorem compare?_texts (ha : a.isText = true) (hb : b.isText = true) :
    compare? a b = some (compare a.codePoints b.codePoints) := by
  obtain ⟨s, hs⟩ := isText_iff.1 ha
  obtain ⟨t, ht⟩ := isText_iff.1 hb
  rw [codePoints_of_toPrimitive hs, codePoints_of_toPrimitive ht, ← Text.order_eq, compare?, hs, ht]

theorem compare?_numbers (h : ¬ (a.isText = true ∧ b.isText = true)) :
    compare? a b = Number.compare? a.toPrimitive.toNumber b.toPrimitive.toNumber := by
  unfold compare?
  split
  · rename_i s t hs ht
    exact absurd ⟨isText_iff.2 ⟨s, hs⟩, isText_iff.2 ⟨t, ht⟩⟩ h
  · rfl

/-! ### The order of values -/

theorem compare?_swap (a b : Value) : compare? b a = (compare? a b).map Ordering.swap := by
  by_cases h : a.isText = true ∧ b.isText = true
  · rw [compare?_texts h.1 h.2, compare?_texts h.2 h.1, Option.map_some]
    exact congrArg some Std.OrientedCmp.eq_swap
  · rw [compare?_numbers h, compare?_numbers (fun h' => h h'.symm)]
    exact Number.compare?_swap _ _

theorem compare?_eq_none_iff :
    compare? a b = none ↔ ¬ (a.isText = true ∧ b.isText = true) ∧
      (a.toPrimitive.toNumber.isNaN = true ∨ b.toPrimitive.toNumber.isNaN = true) := by
  by_cases h : a.isText = true ∧ b.isText = true
  · rw [compare?_texts h.1 h.2]
    exact iff_of_false nofun fun hnot => hnot.1 h
  · rw [compare?_numbers h, Number.compare?_eq_none_iff]
    exact (and_iff_right h).symm

/-- Values that are compared as equal have equal primitives. -/
theorem compare?_eq_eq_iff : compare? a b = some .eq ↔ primitivesEqual a.toPrimitive b.toPrimitive = true := by
  by_cases h : a.isText = true ∧ b.isText = true
  · obtain ⟨s, hs⟩ := isText_iff.1 h.1
    obtain ⟨t, ht⟩ := isText_iff.1 h.2
    have hinj : s.toList.map Char.toNat = t.toList.map Char.toNat ↔ s = t := by
      rw [List.map_inj_right fun _ _ => Char.toNat_inj.1, String.toList_inj]
    rw [compare?_texts h.1 h.2, codePoints_of_toPrimitive hs, codePoints_of_toPrimitive ht, hs, ht, Option.some.injEq,
      Std.LawfulEqCmp.compare_eq_iff_eq, hinj]
    exact beq_iff_eq.symm
  · rw [compare?_numbers h]
    unfold primitivesEqual
    split
    · rename_i s t hs ht
      exact absurd ⟨isText_iff.2 ⟨s, hs⟩, isText_iff.2 ⟨t, ht⟩⟩ h
    · rw [Number.eqv, beq_iff_eq]

/-- The order is transitive if all values are compared as texts or all as numbers. -/
theorem compare?_lt_trans (hab : a.isText = b.isText) (hbc : b.isText = c.isText) (hlt : compare? a b = some .lt)
    (hlt' : compare? b c = some .lt) : compare? a c = some .lt := by
  by_cases hb : b.isText = true
  · have ha : a.isText = true := hab.trans hb
    have hc : c.isText = true := hbc.symm.trans hb
    rw [compare?_texts ha hb, Option.some.injEq] at hlt
    rw [compare?_texts hb hc, Option.some.injEq] at hlt'
    rw [compare?_texts ha hc, Std.TransCmp.lt_trans hlt hlt']
  · have ha : ¬ a.isText = true := fun ha => hb (hab.symm.trans ha)
    rw [compare?_numbers fun h => hb h.2] at hlt
    rw [compare?_numbers fun h => hb h.1] at hlt'
    rw [compare?_numbers fun h => ha h.1]
    exact Number.compare?_lt_trans hlt hlt'

/-- Whether values stand in one of some orders is the same with the values and the orders reversed. -/
theorem isOrdered_swap (orders : List Ordering) (a b : Value) :
    isOrdered orders a b = isOrdered (orders.map Ordering.swap) b a := by
  have hmem (o : Ordering) : (orders.map Ordering.swap).contains o.swap = orders.contains o := by
    rw [Bool.eq_iff_iff, List.contains_iff_mem, List.contains_iff_mem, List.mem_map]
    constructor
    · rintro ⟨o', ho', hswap⟩
      rwa [← Ordering.swap_inj.1 hswap]
    · exact fun ho => ⟨o, ho, rfl⟩
  rw [isOrdered, isOrdered, compare?_swap a b]
  cases compare? a b with
  | none => rfl
  | some o => exact congrArg bool (hmem o).symm

end Value

/-! ### The operators -/

namespace BinaryOp

variable {a b : Value} {op : BinaryOp} {orders : List Ordering}

/-- The orders of two values in which a relational operator gives true. -/
def relationalOrders? : BinaryOp → Option (List Ordering)
  | lt => some [.lt]
  | gt => some [.gt]
  | lte => some [.lt, .eq]
  | gte => some [.gt, .eq]
  | _ => none

/-- An operator gives true on two values. -/
def Holds (op : BinaryOp) (a b : Value) : Prop := op.apply a (pure b) = pure (.bool true)

theorem apply_relational (hop : op.relationalOrders? = some orders) :
    op.apply a (pure b) = pure (Value.isOrdered orders a b) := by
  cases op with
  | lt | gt | lte | gte =>
    cases hop
    rfl
  | _ => cases hop

theorem holds_iff (hop : op.relationalOrders? = some orders) :
    op.Holds a b ↔ ∃ o ∈ orders, Value.compare? a b = some o := by
  have hinj : (pure (Value.isOrdered orders a b) : Eval Value) = pure (.bool true) ↔
      Value.isOrdered orders a b = .bool true := by
    refine ⟨fun h => ?_, congrArg pure⟩
    have houtcome := congrArg (fun e => (Eval.outcome e ⟨0, []⟩).1) h
    exact Except.ok.inj houtcome
  rw [Holds, apply_relational hop, hinj, Value.isOrdered]
  cases Value.compare? a b <;> simp

theorem lt_holds_iff : lt.Holds a b ↔ Value.compare? a b = some .lt := by
  have hop : lt.relationalOrders? = some [.lt] := rfl
  simp [holds_iff hop]

theorem gt_holds_iff : gt.Holds a b ↔ Value.compare? a b = some .gt := by
  have hop : gt.relationalOrders? = some [.gt] := rfl
  simp [holds_iff hop]

theorem lte_holds_iff : lte.Holds a b ↔ Value.compare? a b = some .lt ∨ Value.compare? a b = some .eq := by
  have hop : lte.relationalOrders? = some [.lt, .eq] := rfl
  simp [holds_iff hop]

/-- Without an order a relational operator gives false. -/
theorem apply_of_compare?_eq_none (hop : op.relationalOrders?.isSome = true) (h : Value.compare? a b = none) :
    op.apply a (pure b) = pure (.bool false) := by
  obtain ⟨orders, horders⟩ := Option.isSome_iff_exists.1 hop
  rw [apply_relational horders, Value.isOrdered, h]
  rfl

theorem apply_swap {op' : BinaryOp} (hop : op.relationalOrders? = some orders)
    (hop' : op'.relationalOrders? = some (orders.map Ordering.swap)) (a b : Value) :
    op.apply a (pure b) = op'.apply b (pure a) := by
  rw [apply_relational hop, apply_relational hop', Value.isOrdered_swap]

end BinaryOp

namespace Value

open BinaryOp (lt gt lte gte)

/-- The relational operators fit together: they are reversed with their operands, give false where there is no order, and
otherwise exactly one of less, greater and equal holds.  Texts are in the lexicographic order of their code points, and
among texts, as among values that are none, being less is transitive.  Numbers and strings compare as equal if and only if
they are loosely equal. -/
theorem relations_coherent :
    (∀ a b : Value, compare? b a = (compare? a b).map Ordering.swap ∧
      lt.apply a (pure b) = gt.apply b (pure a) ∧ lte.apply a (pure b) = gte.apply b (pure a)) ∧
    (∀ a b : Value,
      (compare? a b = none ↔ ¬ (a.isText = true ∧ b.isText = true) ∧
        (a.toPrimitive.toNumber.isNaN = true ∨ b.toPrimitive.toNumber.isNaN = true)) ∧
      (compare? a b = none → ∀ op ∈ [lt, gt, lte, gte], op.apply a (pure b) = pure (bool false)) ∧
      (compare? a b ≠ none →
        ((lt.Holds a b ∧ ¬ gt.Holds a b ∧ compare? a b ≠ some .eq) ∨
          (¬ lt.Holds a b ∧ gt.Holds a b ∧ compare? a b ≠ some .eq) ∨
          (¬ lt.Holds a b ∧ ¬ gt.Holds a b ∧ compare? a b = some .eq)) ∧
        (lte.Holds a b ↔ lt.Holds a b ∨ compare? a b = some .eq))) ∧
    (∀ a b : Value, a.isText = true → b.isText = true →
      compare? a b = some (compare a.codePoints b.codePoints)) ∧
    (∀ a b c : Value, a.isText = b.isText → b.isText = c.isText → lt.Holds a b → lt.Holds b c → lt.Holds a c) ∧
    (∀ a b : Value, compare? a b = some .eq ↔ primitivesEqual a.toPrimitive b.toPrimitive = true) ∧
    ∀ a b : Value, a.isBasic = true → b.isBasic = true → (compare? a b = some .eq ↔ looseEquals a b = true) := by
  refine ⟨fun a b => ⟨compare?_swap a b, BinaryOp.apply_swap rfl rfl a b, BinaryOp.apply_swap rfl rfl a b⟩, fun a b => ?_,
    fun a b => compare?_texts, fun a b c hab hbc h h' => ?_, fun a b => compare?_eq_eq_iff, fun a b ha hb => ?_⟩
  · have hrelational : ∀ op ∈ [lt, gt, lte, gte], op.relationalOrders?.isSome = true := by decide
    refine ⟨compare?_eq_none_iff, fun h op hop => BinaryOp.apply_of_compare?_eq_none (hrelational op hop) h, fun h => ?_⟩
    rw [BinaryOp.lt_holds_iff, BinaryOp.gt_holds_iff, BinaryOp.lte_holds_iff]
    refine ⟨?_, Iff.rfl⟩
    obtain ⟨o, ho⟩ := Option.ne_none_iff_exists'.1 h
    rw [ho]
    cases o <;> simp
  · rw [BinaryOp.lt_holds_iff] at h h' ⊢
    exact compare?_lt_trans hab hbc h h'
  · rw [compare?_eq_eq_iff, toPrimitive_of_isBasic ha, toPrimitive_of_isBasic hb, looseEquals_basic ha hb]

/-- An object, an array and a string are all compared as texts, and a character beyond the first plane is the largest.
Not-a-number has no order with any of them. -/
theorem relations_coherent_texts :
    let a := object 0 []
    let b := array 1 [string "\uffff"]
    let c := string "😀"
    (a.isText = b.isText ∧ b.isText = c.isText) ∧ (lt.Holds a b ∧ lt.Holds b c ∧ lt.Holds a c) ∧
      compare? a b = some (compare a.codePoints b.codePoints) ∧
      (compare? a b ≠ none ∧ (lte.Holds a b ↔ lt.Holds a b ∨ compare? a b = some .eq)) ∧
      (compare? (number .nan) a = none ∧ gte.apply (number .nan) (pure a) = pure (bool false)) ∧
      (compare? (number (.zero true)) (string "") = some .eq ↔ looseEquals (number (.zero true)) (string "") = true) := by
  intro a b c
  obtain ⟨-, horders, htexts, htrans, -, hloose⟩ := relations_coherent
  have ha : a.isText = true := rfl
  have hb : b.isText = true := rfl
  have hc : c.isText = true := rfl
  have hab : lt.Holds a b := BinaryOp.lt_holds_iff.2 (by decide +kernel)
  have hbc : lt.Holds b c := BinaryOp.lt_holds_iff.2 (by decide +kernel)
  have hsome : compare? a b ≠ none := by
    rw [BinaryOp.lt_holds_iff.1 hab]
    decide
  have hnone : compare? (number .nan) a = none := rfl
  exact ⟨⟨rfl, rfl⟩, ⟨hab, hbc, htrans a b c rfl rfl hab hbc⟩, htexts a b ha hb, ⟨hsome, ((horders a b).2.2 hsome).2⟩,
    ⟨hnone, (horders _ a).2.1 hnone gte (by decide)⟩, hloose _ _ rfl rfl⟩

end Value

end ExprLang
