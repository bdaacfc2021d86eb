import ExprLang.Context
import ExprLang.Proofs.MapLaws
import Mathlib.Data.List.Induction
import Mathlib.Data.Nat.Find

/-!
# The history of a context

A context is the outcome of the changes that made it, the entries that it was collected from first.  A setting of a
name stands as long as the name is not removed (`Change.Stands`).  The bound names are those with a standing setting,
in the order of the first ones, and each has the value of the last one (`Context.Follows`).  One more change keeps
this (`Context.Follows.set`, `Context.Follows.remove`): a setting of a bound name leaves the first standing one where
it is, a removal leaves none.  All that is used of contexts for it are the laws of a map that keeps the order of insertion
(`Context.insertionOrdered`).
-/

namespace ExprLang

/-- A change of a context.  A name is set in place or while a context is built, or it is removed. -/
inductive Change where
  | set (name : String) (value : Value)
  | remove (name : String)

namespace Change

variable {history : List Change} {name x : String} {value v : Value} {i j : Nat}

/-- The settings of entries one by one. -/
def ofEntries (entries : List (String × Value)) : List Change := entries.map fun e => set e.1 e.2

/-- Change `i` sets a name to a value, and no later change removes the name. -/
def Stands (history : List Change) (name : String) (i : Nat) (value : Value) : Prop :=
  history[i]? = some (set name value) ∧ ∀ j, i < j → history[j]? ≠ some (remove name)

/-- Change `i` is the first setting of a name since its last removal. -/
def FirstSet (history : List Change) (name : String) (i : Nat) : Prop :=
  (∃ v, Stands history name i v) ∧ ∀ j w, Stands history name j w → i ≤ j

/-- Change `i` is the last setting of a name since its last removal. -/
def LastSet (history : List Change) (name : String) (i : Nat) (value : Value) : Prop :=
  Stands history name i value ∧ ∀ j w, Stands history name j w → j ≤ i

theorem Stands.lt_length (h : Stands history name i value) : i < history.length :=
  (List.getElem?_eq_some_iff.1 h.1).1

theorem not_stands_nil : ¬ Stands [] name i value := fun h => absurd h.lt_length (Nat.not_lt_zero i)

theorem getElem?_concat_eq_some_iff {l : List Change} {a b : Change} :
    (l ++ [a])[i]? = some b ↔ l[i]? = some b ∨ (i = l.length ∧ a = b) := by
  rcases Nat.lt_trichotomy i l.length with h | rfl | h
  · rw [List.getElem?_append_left h]
    exact (or_iff_left fun hi => absurd hi.1 (Nat.ne_of_lt h)).symm
  · simp
  · have hnone : (l ++ [a])[i]? = none := List.getElem?_eq_none (by simp; omega)
    have hnone' : l[i]? = none := List.getElem?_eq_none (Nat.le_of_lt h)
    simp [hnone, hnone', Nat.ne_of_gt h]

/-- One more change keeps the standing settings of the names that it does not remove, and may itself be one. -/
theorem stands_concat {change : Change} :
    Stands (history ++ [change]) x i v ↔
      (Stands history x i v ∧ change ≠ remove x) ∨ (i = history.length ∧ change = set x v) := by
  simp only [Stands, ne_eq, getElem?_concat_eq_some_iff]
  constructor
  · rintro ⟨hi | hlast, hlater⟩
    · have hlt : i < history.length := (List.getElem?_eq_some_iff.1 hi).1
      exact .inl ⟨⟨hi, fun j hj hr => hlater j hj (.inl hr)⟩, fun hc => hlater _ hlt (.inr ⟨rfl, hc⟩)⟩
    · exact .inr hlast
  · rintro (⟨⟨hi, hlater⟩, hc⟩ | ⟨rfl, rfl⟩)
    · refine ⟨.inl hi, fun j hj => ?_⟩
      rintro (hr | ⟨-, hr⟩)
      · exact hlater j hj hr
      · exact hc hr
    · refine ⟨.inr ⟨rfl, rfl⟩, fun j hj => ?_⟩
      rintro (hr | ⟨rfl, -⟩)
      · exact Nat.lt_asymm hj (List.getElem?_eq_some_iff.1 hr).1
      · exact Nat.lt_irrefl _ hj

theorem stands_concat_set_self :
    Stands (history ++ [set name value]) name i v ↔ Stands history name i v ∨ (i = history.length ∧ v = value) := by
  simp [stands_concat, eq_comm]

theorem stands_concat_set_of_ne (h : x ≠ name) :
    Stands (history ++ [set name value]) x i v ↔ Stands history x i v := by
  simp [stands_concat, h.symm]

theorem stands_concat_remove : Stands (history ++ [remove name]) x i v ↔ x ≠ name ∧ Stands history x i v := by
  simp [stands_concat, and_comm, eq_comm]

/-- Two histories with the same standing settings of a name have the same first one and the same last one. -/
theorem firstSet_congr {other : List Change} (h : ∀ i v, Stands other x i v ↔ Stands history x i v) :
    FirstSet other x i ↔ FirstSet history x i := by
  simp only [FirstSet, h]

theorem lastSet_congr {other : List Change} (h : ∀ i v, Stands other x i v ↔ Stands history x i v) :
    LastSet other x i v ↔ LastSet history x i v := by
  simp only [LastSet, h]

theorem Stands.exists_firstSet (h : Stands history x i v) : ∃ j, FirstSet history x j := by
  have hsome : ∃ j, ∃ w, Stands history x j w := ⟨i, v, h⟩
  classical
  exact ⟨Nat.find hsome, Nat.find_spec hsome, fun j w hj => Nat.find_min' hsome ⟨w, hj⟩⟩

/-- A setting of a bound name is not the first one. -/
theorem FirstSet.concat_set (h : FirstSet history x i) : FirstSet (history ++ [set name value]) x i := by
  by_cases hx : x = name
  · subst hx
    obtain ⟨⟨v, hv⟩, hfirst⟩ := h
    refine ⟨⟨v, stands_concat_set_self.2 (.inl hv)⟩, fun j w hj => ?_⟩
    rcases stands_concat_set_self.1 hj with hj | ⟨rfl, -⟩
    · exact hfirst j w hj
    · exact Nat.le_of_lt hv.lt_length
  · exact (firstSet_congr fun _ _ => stands_concat_set_of_ne hx).2 h

theorem firstSet_concat_set_self (h : ∀ i v, ¬ Stands history name i v) :
    FirstSet (history ++ [set name value]) name history.length := by
  refine ⟨⟨value, stands_concat_set_self.2 (.inr ⟨rfl, rfl⟩)⟩, fun j w hj => ?_⟩
  rcases stands_concat_set_self.1 hj with hj | ⟨rfl, -⟩
  · exact absurd hj (h j w)
  · exact Nat.le_refl _

theorem lastSet_concat_set_self :
    LastSet (history ++ [set name value]) name i v ↔ i = history.length ∧ v = value := by
  constructor
  · rintro ⟨h, hlast⟩
    have hle : history.length ≤ i := hlast _ value (stands_concat_set_self.2 (.inr ⟨rfl, rfl⟩))
    rcases stands_concat_set_self.1 h with h | h
    · have := h.lt_length
      omega
    · exact h
  · rintro ⟨rfl, rfl⟩
    refine ⟨stands_concat_set_self.2 (.inr ⟨rfl, rfl⟩), fun j w hj => ?_⟩
    rcases stands_concat_set_self.1 hj with hj | ⟨rfl, -⟩
    · exact Nat.le_of_lt hj.lt_length
    · exact Nat.le_refl _

end Change

namespace Context

open Change

variable {ctx : Context} {history : List Change} {name x : String} {value v : Value}

/-- Makes a change. -/
def apply (ctx : Context) : Change → Context
  | .set name value => ctx.set name value
  | .remove name => (ctx.take name).2

/-- Makes changes one after the other. -/
def run (changes : List Change) (ctx : Context) : Context := changes.foldl apply ctx

/-- A context is the outcome of a history: it binds the names with standing settings, in the order of the first ones,
to the values of the last ones. -/
structure Follows (ctx : Context) (history : List Change) : Prop where
  mem_names (x : String) : x ∈ ctx.names ↔ ∃ i v, Stands history x i v
  order : ctx.names.Pairwise fun x y => ∃ i j, FirstSet history x i ∧ FirstSet history y j ∧ i < j
  get?_iff (x : String) (v : Value) : ctx.get? x = some v ↔ ∃ i, LastSet history x i v

/-- The operations of contexts. -/
def map : KeyedMap Context Value where
  empty := empty
  insert name value ctx := ctx.set name value
  get? name ctx := ctx.get? name
  entries ctx := ctx.entries

/-- Contexts are maps that keep the order of insertion. -/
theorem insertionOrdered : map.InsertionOrdered fun name ctx => ctx.remove name where
  nodup ctx := ctx.nodup
  entries_empty := rfl
  get?_iff ctx := (Entries.insertionOrdered Value).get?_iff ⟨ctx.entries, ctx.nodup⟩
  keys_insert ctx := (Entries.insertionOrdered Value).keys_insert ⟨ctx.entries, ctx.nodup⟩
  get?_insert ctx := (Entries.insertionOrdered Value).get?_insert ⟨ctx.entries, ctx.nodup⟩
  keys_remove ctx := (Entries.insertionOrdered Value).keys_remove ⟨ctx.entries, ctx.nodup⟩
  get?_remove ctx := (Entries.insertionOrdered Value).get?_remove ⟨ctx.entries, ctx.nodup⟩

theorem names_set : (ctx.set name value).names = if name ∈ ctx.names then ctx.names else ctx.names ++ [name] :=
  insertionOrdered.keys_insert ctx name value

theorem get?_set : (ctx.set name value).get? x = if x = name then some value else ctx.get? x :=
  insertionOrdered.get?_insert ctx name value x

theorem names_remove : (ctx.remove name).names = ctx.names.filter (· != name) :=
  (insertionOrdered.keys_remove ctx name).trans (ctx.nodup.erase_eq_filter name)

theorem get?_remove : (ctx.remove name).get? x = if x = name then none else ctx.get? x :=
  insertionOrdered.get?_remove ctx name x

theorem follows_empty : empty.Follows [] where
  mem_names x := by simp [names, empty, Entries.keys, not_stands_nil]
  order := .nil
  get?_iff x v := by simp [Context.get?, empty, LastSet, not_stands_nil]

theorem Follows.set (h : ctx.Follows history) : (ctx.set name value).Follows (history ++ [.set name value]) where
  mem_names x := by
    have hx := h.mem_names x
    by_cases hxn : x = name
    · subst hxn
      have : ∃ i v, Stands (history ++ [.set x value]) x i v := ⟨_, _, stands_concat_set_self.2 (.inr ⟨rfl, rfl⟩)⟩
      simp only [this, iff_true, names_set]
      split <;> simp_all
    · simp only [stands_concat_set_of_ne hxn, ← hx, names_set]
      split <;> simp [hxn]
  order := by
    have hold : ctx.names.Pairwise fun x y => ∃ i j, FirstSet (history ++ [.set name value]) x i ∧
        FirstSet (history ++ [.set name value]) y j ∧ i < j :=
      h.order.imp fun ⟨i, j, hx, hy, hij⟩ => ⟨i, j, hx.concat_set, hy.concat_set, hij⟩
    rw [names_set]
    split
    · exact hold
    · rename_i hnew
      have hnone : ∀ i v, ¬ Stands history name i v := fun i v hs => hnew ((h.mem_names name).2 ⟨i, v, hs⟩)
      refine List.pairwise_append.2 ⟨hold, List.pairwise_singleton .., fun x hx y hy => ?_⟩
      obtain rfl := List.mem_singleton.1 hy
      obtain ⟨i, v, hs⟩ := (h.mem_names x).1 hx
      obtain ⟨j, hj⟩ := hs.exists_firstSet
      obtain ⟨w, hw⟩ := hj.1
      exact ⟨j, history.length, hj.concat_set, firstSet_concat_set_self hnone, hw.lt_length⟩
  get?_iff x v := by
    rw [get?_set]
    split
    · rename_i hxn
      subst hxn
      simp [lastSet_concat_set_self, eq_comm]
    · rename_i hxn
      rw [h.get?_iff x v]
      exact exists_congr fun i => (lastSet_congr fun _ _ => stands_concat_set_of_ne hxn).symm

theorem Follows.remove (h : ctx.Follows history) : (ctx.remove name).Follows (history ++ [.remove name]) where
  mem_names x := by
    simp [names_remove, h.mem_names x, stands_concat_remove, and_comm]
  order := by
    rw [names_remove]
    have hkept := h.order.filter (· != name)
    refine hkept.imp_of_mem fun {x y} hx hy ⟨i, j, hi, hj, hij⟩ => ?_
    have hxn : x ≠ name := by simpa using (List.mem_filter.1 hx).2
    have hyn : y ≠ name := by simpa using (List.mem_filter.1 hy).2
    refine ⟨i, j, ?_, ?_, hij⟩
    · exact (firstSet_congr fun i v => by simp [stands_concat_remove, hxn]).2 hi
    · exact (firstSet_congr fun i v => by simp [stands_concat_remove, hyn]).2 hj
  get?_iff x v := by
    rw [get?_remove]
    split
    · rename_i hxn
      simp [LastSet, stands_concat_remove, hxn]
    · rename_i hxn
      rw [h.get?_iff x v]
      exact exists_congr fun i => (lastSet_congr fun i v => by simp [stands_concat_remove, hxn]).symm

theorem Follows.apply (h : ctx.Follows history) (change : Change) : (ctx.apply change).Follows (history ++ [change]) := by
  cases change with
  | set name value => exact h.set
  | remove name => exact h.remove

theorem Follows.run (h : ctx.Follows history) (changes : List Change) :
    (run changes ctx).Follows (history ++ changes) := by
  induction changes generalizing ctx history with
  | nil =>
    rw [List.append_nil]
    exact h
  | cons change changes ih =>
    have hrest := ih (h.apply change)
    rw [List.append_assoc, List.singleton_append] at hrest
    exact hrest

theorem eq_of_entries {c d : Context} (h : c.entries = d.entries) : c = d := by
  cases c
  cases d
  cases h
  rfl

theorem entries_run_ofEntries (entries : List (String × Value)) (ctx : Context) :
    (run (ofEntries entries) ctx).entries =
      entries.foldl (fun es (name, value) => Entries.insert name value es) ctx.entries := by
  induction entries generalizing ctx with
  | nil => rfl
  | cons e entries ih => exact ih (ctx.set e.1 e.2)

/-- Collecting entries sets them one by one. -/
theorem ofList_eq_run (entries : List (String × Value)) : ofList entries = run (ofEntries entries) empty :=
  eq_of_entries (entries_run_ofEntries entries empty).symm

theorem Follows.get_cases (h : ctx.Follows history) (x : String) :
    (∃ i, LastSet history x i (ctx.get x)) ∨ ((∀ i v, ¬ Stands history x i v) ∧ ctx.get x = .undefined) := by
  cases hx : ctx.get? x with
  | some v =>
    have hget : ctx.get x = v := by rw [get, hx, Option.getD_some]
    rw [hget]
    exact .inl ((h.get?_iff x v).1 hx)
  | none =>
    refine .inr ⟨fun i v hs => ?_, by rw [get, hx, Option.getD_none]⟩
    have hmem : x ∈ ctx.names := (h.mem_names x).2 ⟨i, v, hs⟩
    have hsome := Entries.isSome_lookup_iff.2 hmem
    rw [← get?, hx] at hsome
    cases hsome

/-- A context that entries were collected into and that was then changed any number of times has the names that stand
set, each once and in the order in which they were first set since their last removal.  A name has the value that it
was last set to, or else it is undefined.  To remove a bound name gives its value, and the other names keep their
values and their order.  Collecting entries into a context is setting them one by one. -/
theorem run_history (entries : List (String × Value)) (changes : List Change) :
    let history := ofEntries entries ++ changes
    let ctx := run changes (ofList entries)
    ctx.names.Nodup ∧
    (∀ x, x ∈ ctx.names ↔ ∃ i v, Stands history x i v) ∧
    (ctx.names.Pairwise fun x y => ∃ i j, FirstSet history x i ∧ FirstSet history y j ∧ i < j) ∧
    (∀ x, ctx.has x = true ↔ x ∈ ctx.names) ∧
    (∀ x, (∃ i, LastSet history x i (ctx.get x)) ∨ ((∀ i v, ¬ Stands history x i v) ∧ ctx.get x = .undefined)) ∧
    (∀ x, (ctx.take x).1 = (if x ∈ ctx.names then some (ctx.get x) else none) ∧
      (ctx.take x).2.names = ctx.names.filter (· != x) ∧ ∀ y, y ≠ x → (ctx.take x).2.get? y = ctx.get? y) ∧
    ofList entries = entries.foldl (fun ctx (name, value) => ctx.set name value) empty := by
  intro history ctx
  have h : ctx.Follows history := by
    change (run changes (ofList entries)).Follows _
    rw [ofList_eq_run]
    exact (follows_empty.run (ofEntries entries)).run changes
  refine ⟨ctx.nodup, h.mem_names, h.order, fun x => Entries.isSome_lookup_iff, h.get_cases, fun x => ⟨?_, ?_, ?_⟩, ?_⟩
  · change ctx.get? x = _
    split
    · rename_i hx
      obtain ⟨v, hv⟩ := Option.isSome_iff_exists.1 (Entries.isSome_lookup_iff.2 hx)
      change ctx.get? x = some v at hv
      rw [get, hv, Option.getD_some]
    · rename_i hx
      exact Option.not_isSome_iff_eq_none.1 (mt Entries.isSome_lookup_iff.1 hx)
  · exact names_remove
  · intro y hy
    exact get?_remove.trans (if_neg hy)
  · rw [ofList_eq_run, run, ofEntries, List.foldl_map]
    rfl

-- a name that was removed comes back at the end, one that was only overwritten stays where it is
example :
    (run [.set "a" .null, .remove "b", .set "b" .null] (ofList [("b", .null), ("a", .undefined)])).names =
      ["a", "b"] := by
  decide

end Context

end ExprLang
