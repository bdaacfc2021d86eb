import ExprLang.Entries
import ExprLang.Proofs.MethodCalls
import ExprLang.Proofs.PropertyKeys
import Mathlib.Logic.Basic

/-!
# Receivers of methods

A function that is read from a value has the receiver that it was bound to before, or else the value: `FunctionAt` says
what function a key finds, independently of how members are looked up (`Value.functionAt_iff`), and
`Value.getProperty_of_functionAt` what a read makes of it.  To store the function in an array or an object and read it
back keeps callable and receiver (`Hop.pass_returns`), and so does any number of such hops (`Hop.passAll_returns`), so
that the call at their end runs the callable with the receiver of the first read (`Value.receiver_decided_once`).
-/

namespace ExprLang

/-! ### Names of methods -/

theorem eq_or_of_ite_eq_some {α : Type} {c : Prop} [Decidable c] {a b : α} {rest : Option α}
    (h : (if c then some a else rest) = some b) : c ∧ a = b ∨ rest = some b := by
  rcases ite_eq_iff.1 h with ⟨hc, hb⟩ | ⟨-, hrest⟩
  · exact .inl ⟨hc, Option.some.inj hb⟩
  · exact .inr hrest

theorem ArrayMethod.eq_name_of_ofName? {name : List Char} {m : ArrayMethod} (h : ofName? name = some m) :
    name = m.name.toList := by
  unfold ofName? at h
  iterate 5
    obtain ⟨hname, rfl⟩ | h := eq_or_of_ite_eq_some h
    · exact hname
  cases h

theorem StringMethod.eq_name_of_ofName? {name : List Char} {m : StringMethod} (h : ofName? name = some m) :
    name = m.name.toList := by
  unfold ofName? at h
  iterate 11
    obtain ⟨hname, rfl⟩ | h := eq_or_of_ite_eq_some h
    · exact hname
  cases h

/-! ### Functions that keys find -/

open Value in
/-- The function that a key finds in a value, by its callable and the receiver that it has there.  A function that is
an item of an array or an entry of an object may be bound; a method of an array, a string or a regular expression is
made by the read and has no receiver yet. -/
inductive FunctionAt : Value → Value → Callable → Option Value → Prop where
  | item {id f i : Nat} {items : List Value} {k : Value} {code : Callable} {own : Option Value}
      (hk : k.arrayIndex? = some i) (hf : items[i]? = some (function f code own)) :
      FunctionAt (array id items) k code own
  | entry {id f : Nat} {entries : List (String × Value)} {k : Value} {code : Callable} {own : Option Value}
      (hf : entries.lookup k.text = some (function f code own)) : FunctionAt (object id entries) k code own
  | arrayMethod {id : Nat} {items : List Value} {k : Value} {m : ArrayMethod} (hk : k.text = m.name) :
      FunctionAt (array id items) k (.ofArray m) none
  | stringMethod {s : String} {k : Value} {m : StringMethod} (hk : k.text = m.name) :
      FunctionAt (string s) k (.ofString m) none
  | regexTest {id : Nat} {re : Regex} {k : Value} (hk : k.text = "test") : FunctionAt (regex id re) k .regexTest none

/-- A member that is read as a function: the code of a method, or a function that is stored. -/
inductive Member.IsFunction : Member → Callable → Option Value → Prop where
  | value {f : Nat} {code : Callable} {own : Option Value} : IsFunction (.value (.function f code own)) code own
  | method {code : Callable} : IsFunction (.method code) code none

namespace Value

variable {o k v : Value} {code : Callable} {own receiver : Option Value} {id : Nat} {l l' : Ledger} {m : Member}

theorem text_eq_iff {s : String} : k.text = s ↔ k.chars = s.toList := by
  rw [text, ← String.toList_inj, String.toList_ofList]

theorem not_isFunction_of_asFunction? (hv : v.asFunction? = none) : ¬ (Member.value v).IsFunction code own := by
  rintro ⟨⟩
  cases hv

theorem isFunction_or_of_ite {c : Prop} [Decidable c] {m' : Member} (h : (if c then m else m').IsFunction code own) :
    c ∧ m.IsFunction code own ∨ m'.IsFunction code own := by
  by_cases hc : c
  · rw [if_pos hc] at h
    exact .inl ⟨hc, h⟩
  · rw [if_neg hc] at h
    exact .inr h

theorem functionAt_of_arrayMember {items : List Value} (h : (arrayMember items k).IsFunction code own) :
    FunctionAt (array id items) k code own := by
  unfold arrayMember at h
  cases hk : k.arrayIndex? with
  | some i =>
    simp only [hk] at h
    cases hi : items[i]? with
    | none =>
      rw [hi] at h
      exact absurd h (not_isFunction_of_asFunction? rfl)
    | some v =>
      rw [hi, Option.getD_some] at h
      cases h
      exact .item hk hi
  | none =>
    simp only [hk] at h
    obtain ⟨-, h⟩ | h := isFunction_or_of_ite h
    · exact absurd h (not_isFunction_of_asFunction? rfl)
    cases hm : ArrayMethod.ofName? k.chars with
    | none =>
      rw [hm] at h
      exact absurd h (not_isFunction_of_asFunction? rfl)
    | some m =>
      rw [hm] at h
      cases h
      exact .arrayMethod (text_eq_iff.2 (ArrayMethod.eq_name_of_ofName? hm))

theorem functionAt_of_stringMember {s : String} (h : (stringMember s.toList k).IsFunction code own) :
    FunctionAt (string s) k code own := by
  unfold stringMember at h
  cases hk : k.arrayIndex? with
  | some i =>
    simp only [hk] at h
    cases hi : s.toList[i]? with
    | none | some c =>
      rw [hi] at h
      exact absurd h (not_isFunction_of_asFunction? rfl)
  | none =>
    simp only [hk] at h
    obtain ⟨-, h⟩ | h := isFunction_or_of_ite h
    · exact absurd h (not_isFunction_of_asFunction? rfl)
    cases hm : StringMethod.ofName? k.chars with
    | none =>
      rw [hm] at h
      exact absurd h (not_isFunction_of_asFunction? rfl)
    | some m =>
      rw [hm] at h
      cases h
      exact .stringMethod (text_eq_iff.2 (StringMethod.eq_name_of_ofName? hm))

theorem functionAt_of_regexMember {re : Regex} (h : (regexMember re k).IsFunction code own) :
    FunctionAt (regex id re) k code own := by
  unfold regexMember at h
  simp only at h
  iterate 5
    obtain ⟨-, h⟩ | h := isFunction_or_of_ite h
    · exact absurd h (not_isFunction_of_asFunction? rfl)
  obtain ⟨htest, ⟨⟩⟩ | h := isFunction_or_of_ite h
  · exact .regexTest (text_eq_iff.2 htest)
  · exact absurd h (not_isFunction_of_asFunction? rfl)

theorem functionAt_of_member (hm : o.member k = .ok m) (h : m.IsFunction code own) : FunctionAt o k code own := by
  cases o with
  | undefined | null => cases hm
  | bool | number | function =>
    cases hm
    exact absurd h (not_isFunction_of_asFunction? rfl)
  | string s =>
    cases hm
    exact functionAt_of_stringMember h
  | array id items =>
    cases hm
    exact functionAt_of_arrayMember h
  | regex id re =>
    cases hm
    exact functionAt_of_regexMember h
  | object id entries =>
    cases hm
    cases hv : entries.lookup k.text with
    | none =>
      rw [hv] at h
      exact absurd h (not_isFunction_of_asFunction? rfl)
    | some v =>
      rw [hv, Option.getD_some] at h
      cases h
      exact .entry hv

/-- A word is found by its text: it names no index. -/
theorem member_of_text_eq {word : String} (hk : k.text = word) (hword : word.toList.head?.all (!·.isDigit) = true) :
    o.member k = o.member (string word) := by
  have hdigit : ¬ StartsWithDigit k.chars := fun h => h.ne_word word.toList hword (text_eq_iff.1 hk)
  rw [member_text_of_not_digit hdigit, hk]

theorem exists_member_of_functionAt (h : FunctionAt o k code own) :
    ∃ m, o.member k = .ok m ∧ m.IsFunction code own := by
  cases h with
  | @item id f i items k code own hk hf =>
    refine ⟨.value (function f code own), ?_, .value⟩
    simp only [member, arrayMember, hk, hf, Option.getD_some]
  | @entry id f entries k code own hf =>
    refine ⟨.value (function f code own), ?_, .value⟩
    simp only [member, hf, Option.getD_some]
  | @arrayMethod id items k m hk =>
    refine ⟨.method (.ofArray m), ?_, .method⟩
    rw [member_of_text_eq hk (by cases m <;> decide), member_array_name]
  | @stringMethod s k m hk =>
    refine ⟨.method (.ofString m), ?_, .method⟩
    rw [member_of_text_eq hk (by cases m <;> decide), member_string_name]
  | @regexTest id re k hk =>
    refine ⟨.method .regexTest, ?_, .method⟩
    rw [member_of_text_eq hk (by decide)]
    rfl

/-- What a key finds is the function that a read gets. -/
theorem functionAt_iff : FunctionAt o k code own ↔ ∃ m, o.member k = .ok m ∧ m.IsFunction code own :=
  ⟨exists_member_of_functionAt, fun ⟨_, hm, h⟩ => functionAt_of_member hm h⟩

/-! ### Reads -/

/-- A read keeps the receiver of a function that has one and gives its own object to the others. -/
theorem getProperty_of_functionAt (h : FunctionAt o k code own) :
    o.getProperty k = Eval.newFunction code (some (own.getD o)) := by
  obtain ⟨m, hm, hfunction⟩ := functionAt_iff.1 h
  rw [getProperty, hm]
  cases hfunction <;> rfl

/-- A read that makes a function has found one. -/
theorem exists_functionAt (h : (o.getProperty k).outcome l = (.ok (function id code receiver), l')) :
    ∃ own, FunctionAt o k code own ∧ receiver = some (own.getD o) := by
  rw [getProperty] at h
  cases hm : o.member k with
  | error e =>
    rw [hm] at h
    cases h
  | ok m =>
    rw [hm] at h
    cases m with
    | method code =>
      cases h
      exact ⟨none, functionAt_of_member hm .method, rfl⟩
    | value v =>
      cases v with
      | function f code own =>
        cases h
        exact ⟨own, functionAt_of_member hm .value, rfl⟩
      | _ => cases h

theorem reads_function_iff : (∃ l id l', (o.getProperty k).outcome l = (.ok (function id code receiver), l')) ↔
    ∃ own, FunctionAt o k code own ∧ receiver = some (own.getD o) := by
  constructor
  · rintro ⟨l, id, l', h⟩
    exact exists_functionAt h
  · rintro ⟨own, h, rfl⟩
    rw [getProperty_of_functionAt h]
    obtain ⟨v, l', hread, -, id, rfl⟩ := Eval.returns_newFunction code (some (own.getD o)) ⟨0, []⟩
    exact ⟨⟨0, []⟩, id, l', hread⟩

end Value

/-! ### Hops through containers -/

/-- A place in a container that a value can be stored at: an item of an array, between others, or an entry of an
object. -/
inductive Place where
  | item (id : Nat) (before after : List Value)
  | entry (id : Nat) (entries : List (String × Value)) (name : String)

namespace Place

/-- The container with a value at the place. -/
def store : Place → Value → Value
  | item id before after, v => .array id (before ++ v :: after)
  | entry id entries name, v => .object id (Entries.insert name v entries)

/-- The keys that read from the place. -/
def IsKey : Place → Value → Prop
  | item _ before _, key => key.arrayIndex? = some before.length
  | entry _ _ name, key => key.text = name

theorem functionAt_store {place : Place} {key : Value} (hkey : place.IsKey key) (f : Nat) (code : Callable)
    (own : Option Value) : FunctionAt (place.store (.function f code own)) key code own := by
  cases place with
  | item id before after =>
    refine .item (f := f) hkey ?_
    rw [List.getElem?_append_right (Nat.le_refl _), Nat.sub_self, List.getElem?_cons_zero]
  | entry id entries name =>
    refine .entry (f := f) ?_
    have hname : key.text = name := hkey
    rw [Entries.lookup_insert, if_pos hname]

end Place

/-- A way through a container: a place to store a value at and a key to read it back with. -/
structure Hop where
  place : Place
  key : Value
  isKey : place.IsKey key

namespace Hop

/-- Stores a value and reads it back. -/
def pass (hop : Hop) (v : Value) : Eval Value := (hop.place.store v).getProperty hop.key

/-- Passes a value through containers, one after the other. -/
def passAll (hops : List Hop) (v : Value) : Eval Value := hops.foldlM (fun v hop => hop.pass v) v

/-- A bound function comes back with its callable and its receiver. -/
theorem pass_returns (hop : Hop) (f : Nat) (code : Callable) (receiver : Value) :
    (hop.pass (.function f code (some receiver))).Returns fun g => ∃ id, g = .function id code (some receiver) := by
  rw [pass, Value.getProperty_of_functionAt (Place.functionAt_store hop.isKey f code (some receiver)), Option.getD_some]
  exact Eval.returns_newFunction code (some receiver)

theorem passAll_returns (hops : List Hop) (f : Nat) (code : Callable) (receiver : Value) :
    (passAll hops (.function f code (some receiver))).Returns fun g => ∃ id, g = .function id code (some receiver) := by
  induction hops generalizing f with
  | nil => exact (Eval.returns_pure _).mono fun g hg => ⟨f, hg⟩
  | cons hop hops ih =>
    rw [passAll, List.foldlM_cons]
    refine (pass_returns hop f code receiver).bind fun g hg => ?_
    obtain ⟨id, rfl⟩ := hg
    exact ih id

end Hop

namespace Value

variable {o k : Value} {code : Callable} {own : Option Value}

/-- A call of a function of the host is entered in the ledger, and what the host makes of it is the outcome. -/
theorem outcome_run_host (host : Host) (handle : Nat) (receiver : Value) (arguments : List Value) (l : Ledger) :
    ((Callable.host handle).run host receiver arguments).outcome l =
      (host.invoke handle receiver arguments).outcome { l with calls := l.calls ++ [⟨handle, receiver, arguments⟩] } :=
  rfl

theorem read_pass_returns (h : FunctionAt o k code own) (hops : List Hop) :
    (o.getProperty k >>= Hop.passAll hops).Returns fun g => ∃ id, g = function id code (some (own.getD o)) := by
  rw [getProperty_of_functionAt h]
  refine (Eval.returns_newFunction code (some (own.getD o))).bind fun g hg => ?_
  obtain ⟨id, rfl⟩ := hg
  exact Hop.passAll_returns hops id code (own.getD o)

/-- The receiver of a function is decided by the first read: it is the one that the function was bound to, or else the
object of the read.  Passing the function through arrays and objects changes neither its callable nor its receiver, and
in the end a call runs this callable with this receiver and gives what it gives. -/
theorem receiver_decided_once (host : Host) (o k : Value) (code : Callable) :
    (∀ receiver, (∃ l id l', (o.getProperty k).outcome l = (.ok (function id code receiver), l')) ↔
        ∃ own, FunctionAt o k code own ∧ receiver = some (own.getD o)) ∧
      ∀ own, FunctionAt o k code own → ∀ hops : List Hop,
        (o.getProperty k >>= Hop.passAll hops).Returns fun g =>
          (∃ id, g = function id code (some (own.getD o))) ∧
            (∀ arguments description, g.call host arguments description = code.run host (own.getD o) arguments) ∧
              ∀ handle, code = .host handle → ∀ arguments description l,
                (g.call host arguments description).outcome l =
                  (host.invoke handle (own.getD o) arguments).outcome
                    { l with calls := l.calls ++ [⟨handle, own.getD o, arguments⟩] } := by
  refine ⟨fun receiver => reads_function_iff, fun own h hops => ?_⟩
  refine (read_pass_returns h hops).mono fun g hg => ?_
  obtain ⟨id, rfl⟩ := hg
  refine ⟨⟨id, rfl⟩, fun arguments description => rfl, fun handle hcode arguments description l => ?_⟩
  subst hcode
  exact outcome_run_host host handle (own.getD o) arguments l

/-- A function of an object, called with its receiver after it has been an item and an entry elsewhere. -/
theorem receiver_decided_once_two_hops :
    let host : Host := ⟨fun _ receiver _ => pure receiver⟩
    let o := object 0 [("f", function 1 (.host 7) none)]
    let hops : List Hop := [⟨.item 2 [null] [], string "1", rfl⟩, ⟨.entry 3 [("g", undefined)] "g", string "g", rfl⟩]
    FunctionAt o (string "f") (.host 7) none ∧
      (o.getProperty (string "f") >>= Hop.passAll hops).Returns fun g =>
        ∀ l, (g.call host [] "g").outcome l = (.ok o, { l with calls := l.calls ++ [⟨7, o, []⟩] }) := by
  intro host o hops
  have hfunction : FunctionAt o (string "f") (.host 7) none := .entry (f := 1) rfl
  refine ⟨hfunction, ?_⟩
  refine ((receiver_decided_once host o (string "f") (.host 7)).2 none hfunction hops).mono fun g hg l => ?_
  exact hg.2.2 7 rfl [] "g" l

end Value

end ExprLang
