import ExprLang.Member.Access
import ExprLang.Proofs.Outcomes

/-!
# Calls of methods

Reading a method from a string or an array and calling it runs the method on the characters or items
(`Value.callMethod_string`, `Value.callMethod_array`).  Such a call succeeds and calls no function of the host, which
`Eval.Returns` says together with what is known of its value.
-/

namespace ExprLang

namespace Eval

variable {α β : Type} {x : Eval α} {f : α → Eval β} {good : α → Prop} {good' : β → Prop} {a : α}

/-- An evaluation succeeds with a good value and calls no function of the host, whatever has happened before. -/
def Returns (x : Eval α) (good : α → Prop) : Prop :=
  ∀ l, ∃ a l', x.outcome l = (.ok a, l') ∧ l'.calls = l.calls ∧ good a

/-- There is a good value if there is no failure. -/
theorem returns_iff_ensures : x.Returns good ↔ x.Ensures good fun _ => False := by
  constructor
  · intro h l r l' ho
    obtain ⟨a, l₁, hok, hcalls, hgood⟩ := h l
    cases hok.symm.trans ho
    refine ⟨hcalls, fun b hb => ?_, fun e he => ?_⟩
    · cases hb
      exact hgood
    · cases he
  · intro h l
    rcases hr : x.outcome l with ⟨e | a, l'⟩
    · exact absurd rfl ((h l _ _ hr).2.2 e)
    · exact ⟨a, l', rfl, (h l _ _ hr).1, (h l _ _ hr).2.1 a rfl⟩

theorem returns_pure (a : α) : (pure a : Eval α).Returns (· = a) := returns_iff_ensures.2 (ensures_pure rfl)

theorem returns_newArray (items : List Value) : (newArray items).Returns fun v => ∃ id, v = .array id items :=
  returns_iff_ensures.2 (ensures_newArray fun id => ⟨id, rfl⟩)

theorem returns_newFunction (code : Callable) (receiver : Option Value) :
    (newFunction code receiver).Returns fun v => ∃ id, v = .function id code receiver :=
  returns_iff_ensures.2 (ensures_newFunction fun id => ⟨id, rfl⟩)

/-- An evaluation has one value. -/
theorem Returns.unique {a b : α} (ha : x.Returns (· = a)) (hb : x.Returns (· = b)) : a = b := by
  obtain ⟨a', l', hok, -, rfl⟩ := ha ⟨0, []⟩
  obtain ⟨b', l'', hok', -, rfl⟩ := hb ⟨0, []⟩
  cases hok.symm.trans hok'
  rfl

theorem Returns.mono {weaker : α → Prop} (hx : x.Returns good) (h : ∀ a, good a → weaker a) : x.Returns weaker := by
  intro l
  obtain ⟨a, l', hok, hcalls, hgood⟩ := hx l
  exact ⟨a, l', hok, hcalls, h a hgood⟩

theorem Returns.bind (hx : x.Returns good) (hf : ∀ a, good a → (f a).Returns good') : (x >>= f).Returns good' :=
  returns_iff_ensures.2 ((returns_iff_ensures.1 hx).bind fun a ha => returns_iff_ensures.1 (hf a ha))

/-- What follows an evaluation with one possible value. -/
theorem Returns.bind_eq (hx : x.Returns (· = a)) (hf : (f a).Returns good') : (x >>= f).Returns good' := by
  refine hx.bind fun b hb => ?_
  rw [hb]
  exact hf

/-- What follows the making of an array, whose identity is not known. -/
theorem Returns.bind_array {x : Eval Value} {f : Value → Eval β} {items : List Value}
    (hx : x.Returns fun v => ∃ id, v = .array id items) (hf : ∀ id, (f (.array id items)).Returns good') :
    (x >>= f).Returns good' := by
  refine hx.bind fun v hv => ?_
  obtain ⟨id, rfl⟩ := hv
  exact hf id

end Eval

/-! ### Names of methods -/

def ArrayMethod.name : ArrayMethod → String
  | concat => "concat"
  | includes => "includes"
  | indexOf => "indexOf"
  | join => "join"
  | slice => "slice"

def StringMethod.name : StringMethod → String
  | charAt => "charAt"
  | concat => "concat"
  | endsWith => "endsWith"
  | includes => "includes"
  | indexOf => "indexOf"
  | slice => "slice"
  | split => "split"
  | startsWith => "startsWith"
  | toLowerCase => "toLowerCase"
  | toUpperCase => "toUpperCase"
  | trim => "trim"

namespace Value

/-- Reads a method from a value and calls it. -/
def callMethod (host : Host) (object : Value) (name : String) (arguments : List Value) : Eval Value := do
  let method ← object.getProperty (string name)
  method.call host arguments name

variable {host : Host} {good : Value → Prop}

theorem member_string_name (s : String) (m : StringMethod) :
    (string s).member (string m.name) = .ok (.method (.ofString m)) := by
  cases m <;> rfl

theorem member_array_name (id : Nat) (items : List Value) (m : ArrayMethod) :
    (array id items).member (string m.name) = .ok (.method (.ofArray m)) := by
  cases m <;> rfl

/-- A method that is read from a value is bound to it. -/
theorem callMethod_of_member {object : Value} {name : String} {code : Callable} {arguments : List Value}
    (hm : object.member (string name) = .ok (.method code)) (h : (code.run host object arguments).Returns good) :
    (object.callMethod host name arguments).Returns good := by
  have hread : object.getProperty (string name) = Eval.newFunction code (some object) := by rw [getProperty, hm]
  rw [callMethod, hread]
  refine (Eval.returns_newFunction code (some object)).bind fun v hv => ?_
  obtain ⟨id, rfl⟩ := hv
  exact h

theorem callMethod_string (m : StringMethod) {s : String} {arguments : List Value}
    (h : (m.run s.toList arguments).Returns good) : ((string s).callMethod host m.name arguments).Returns good :=
  callMethod_of_member (member_string_name s m) h

theorem callMethod_array (m : ArrayMethod) {id : Nat} {items arguments : List Value}
    (h : (m.run items arguments).Returns good) : ((array id items).callMethod host m.name arguments).Returns good :=
  callMethod_of_member (member_array_name id items m) h

end Value

end ExprLang
