import ExprLang.Member.Access
import Mathlib

/-!
# Values without functions of the host

* `Value.Within` says that a value occurs in another one, at any depth: as an item, as the value of an entry, or as
  the receiver of a function.
* A value is free of functions if none occurs in it, and confined if every function in it is a built-in method that
  is bound to a receiver of its own kind.

Whether a value is confined is decided part by part (`Value.confined_iff`).  A value read from a confined value is
confined (`Value.Confined.of_member`), and a method is found only in values that it fits (`Value.fits_of_member`).
-/

namespace ExprLang

/-- A built-in method and a receiver of the kind whose members it belongs to. -/
inductive Callable.Fits : Callable → Option Value → Prop where
  | array {m : ArrayMethod} {id : Nat} {items : List Value} : Fits (.ofArray m) (some (.array id items))
  | string {m : StringMethod} {s : String} : Fits (.ofString m) (some (.string s))
  | regex {id : Nat} {re : Regex} : Fits .regexTest (some (.regex id re))

namespace Value

/-- The values directly inside a value. -/
def parts : Value → List Value
  | array _ items => items
  | object _ entries => entries.map Prod.snd
  | function _ _ receiver => receiver.toList
  | _ => []

/-- A value occurs in another one. -/
inductive Within : Value → Value → Prop where
  | refl (v : Value) : Within v v
  | part {u w v : Value} (hw : w ∈ v.parts) (h : Within u w) : Within u v

/-- No function occurs in the value. -/
def FunctionFree (v : Value) : Prop := ∀ id code receiver, ¬ Within (.function id code receiver) v

/-- Every function that occurs in the value is a built-in method bound to a receiver of its kind. -/
def Confined (v : Value) : Prop := ∀ id code receiver, Within (.function id code receiver) v → code.Fits receiver

theorem FunctionFree.confined {v : Value} (h : v.FunctionFree) : v.Confined :=
  fun id code receiver hv => absurd hv (h id code receiver)

theorem Confined.part {v w : Value} (h : v.Confined) (hw : w ∈ v.parts) : w.Confined :=
  fun id code receiver hv => h id code receiver (.part hw hv)

theorem confined_iff {v : Value} :
    v.Confined ↔
      (∀ id code receiver, v = .function id code receiver → code.Fits receiver) ∧ ∀ w ∈ v.parts, w.Confined := by
  constructor
  · intro h
    refine ⟨?_, fun w hw => h.part hw⟩
    rintro id code receiver rfl
    exact h id code receiver (.refl _)
  · rintro ⟨hself, hparts⟩ id code receiver hv
    cases hv with
    | refl => exact hself id code receiver rfl
    | part hw hv => exact hparts _ hw id code receiver hv

theorem confined_of_isReference {v : Value} (h : v.isReference = false) : v.Confined := by
  rw [confined_iff]
  cases v <;> simp_all [isReference, parts]

theorem confined_array {id : Nat} {items : List Value} (h : ∀ v ∈ items, v.Confined) : (array id items).Confined :=
  confined_iff.2 ⟨fun _ _ _ he => (by cases he), h⟩

theorem confined_function {id : Nat} {code : Callable} {receiver : Option Value} (h : code.Fits receiver)
    (hr : ∀ v, receiver = some v → v.Confined) : (function id code receiver).Confined := by
  rw [confined_iff]
  refine ⟨fun _ _ _ he => ?_, fun v hv => hr v (by simpa [parts] using hv)⟩
  cases he
  exact h

theorem confined_regex {id : Nat} {re : Regex} : (regex id re).Confined :=
  confined_iff.2 ⟨fun _ _ _ he => (by cases he), fun _ hv => absurd hv List.not_mem_nil⟩

theorem confined_getD {v? : Option Value} (h : ∀ v, v? = some v → v.Confined) :
    (v?.getD .undefined).Confined := by
  cases v? with
  | none => exact confined_of_isReference rfl
  | some v => exact h v rfl

/-! ### Members -/

section
variable {object key : Value}

theorem stringMember_cases (text : List Char) (key : Value) :
    (∃ v, stringMember text key = .value v ∧ v.isReference = false) ∨
      ∃ m, stringMember text key = .method (.ofString m) := by
  unfold stringMember
  split
  · rename_i i _
    refine .inl ⟨_, rfl, ?_⟩
    cases text[i]? <;> rfl
  · split
    · exact .inl ⟨_, rfl, rfl⟩
    · split
      · exact .inr ⟨_, rfl⟩
      · exact .inl ⟨_, rfl, rfl⟩

theorem arrayMember_cases (items : List Value) (key : Value) :
    (∃ v, arrayMember items key = .value v ∧ (v ∈ items ∨ v.isReference = false)) ∨
      ∃ m, arrayMember items key = .method (.ofArray m) := by
  unfold arrayMember
  split
  · rename_i i _
    refine .inl ⟨_, rfl, ?_⟩
    cases hi : items[i]? with
    | none => exact .inr rfl
    | some v => exact .inl (List.mem_of_getElem? hi)
  · split
    · exact .inl ⟨_, rfl, .inr rfl⟩
    · split
      · exact .inr ⟨_, rfl⟩
      · exact .inl ⟨_, rfl, .inr rfl⟩

theorem regexMember_cases (re : Regex) (key : Value) :
    (∃ v, regexMember re key = .value v ∧ v.isReference = false) ∨ regexMember re key = .method .regexTest := by
  unfold regexMember
  simp only
  split_ifs <;> first | exact .inl ⟨_, rfl, rfl⟩ | exact .inr rfl

/-- What is read from a confined value is confined. -/
theorem Confined.of_member {v : Value} (h : object.Confined) (hm : object.member key = .ok (.value v)) :
    v.Confined := by
  cases object with
  | undefined | null => cases hm
  | bool | number | function =>
    cases hm
    exact confined_of_isReference rfl
  | string s =>
    rw [member, Except.ok.injEq] at hm
    rcases stringMember_cases s.toList key with ⟨w, hw, hprim⟩ | ⟨m, hw⟩
    · cases hw.symm.trans hm
      exact confined_of_isReference hprim
    · cases hw.symm.trans hm
  | array id items =>
    rw [member, Except.ok.injEq] at hm
    rcases arrayMember_cases items key with ⟨w, hw, hitem | hprim⟩ | ⟨m, hw⟩
    · cases hw.symm.trans hm
      exact h.part hitem
    · cases hw.symm.trans hm
      exact confined_of_isReference hprim
    · cases hw.symm.trans hm
  | object id entries =>
    cases hm
    refine confined_getD fun w hw => h.part ?_
    obtain ⟨before, after, he, -⟩ := List.lookup_eq_some_iff.1 hw
    simp [parts, he]
  | regex id re =>
    rw [member, Except.ok.injEq] at hm
    rcases regexMember_cases re key with ⟨w, hw, hprim⟩ | hw
    · cases hw.symm.trans hm
      exact confined_of_isReference hprim
    · cases hw.symm.trans hm

/-- A method is found only in values that it fits. -/
theorem fits_of_member {code : Callable} (hm : object.member key = .ok (.method code)) :
    code.Fits (some object) := by
  cases object with
  | undefined | null | bool | number | function | object => cases hm
  | string s =>
    rw [member, Except.ok.injEq] at hm
    rcases stringMember_cases s.toList key with ⟨w, hw, -⟩ | ⟨m, hw⟩ <;> cases hw.symm.trans hm
    exact .string
  | array id items =>
    rw [member, Except.ok.injEq] at hm
    rcases arrayMember_cases items key with ⟨w, hw, -⟩ | ⟨m, hw⟩ <;> cases hw.symm.trans hm
    exact .array
  | regex id re =>
    rw [member, Except.ok.injEq] at hm
    rcases regexMember_cases re key with ⟨w, hw, -⟩ | hw <;> cases hw.symm.trans hm
    exact .regex

theorem member_eq_error {e : EvalError} (hm : object.member key = .error e) :
    e = .nullProperty object.text key.text := by
  cases object <;> cases hm <;> rfl

end

end Value

end ExprLang
