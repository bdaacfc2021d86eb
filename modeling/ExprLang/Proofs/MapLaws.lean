import ExprLang.Entries
import ExprLang.Proofs.SortedInsertion
import ExprLang.Proofs.TextOrder
import Mathlib.Data.List.Sort

/-!
# The laws of maps

Contexts and objects keep their entries in the order of insertion, the objects of JSON keep them in the order of their
keys.  What is relied on of either kind of map is stated as laws about its operations (`KeyedMap.InsertionOrdered`,
`KeyedMap.Sorted`), and the lists that stand for the maps here satisfy them (`Entries.insertionOrdered`, `Json.sorted`).

The laws leave no choice.  A map is known by its keys in their order and by what is found under them
(`Entries.eq_of_lookup`), so whatever is done to a map that satisfies the laws, its entries are those of the list to which
the same is done (`KeyedMap.InsertionOrdered.entries_insert`, `KeyedMap.InsertionOrdered.entries_remove`,
`KeyedMap.Sorted.entries_insert`).
-/

namespace ExprLang

namespace Entries

variable {β : Type} {entries entries' : List (String × β)}

/-- Entries with distinct keys are found under them. -/
theorem lookup_eq_some_iff {k : String} {v : β} (h : (keys entries).Nodup) :
    entries.lookup k = some v ↔ (k, v) ∈ entries := by
  refine ⟨fun hlookup => ?_, lookup_of_mem h⟩
  obtain ⟨before, after, rfl, -⟩ := List.lookup_eq_some_iff.1 hlookup
  exact List.mem_append_right before (List.mem_cons_self ..)

/-- Entries with distinct keys are known by their keys and by what is found under them. -/
theorem eq_of_lookup (h : (keys entries).Nodup) (hkeys : keys entries = keys entries')
    (hlookup : ∀ k, entries.lookup k = entries'.lookup k) : entries = entries' := by
  induction entries generalizing entries' with
  | nil =>
    cases entries' with
    | nil => rfl
    | cons e entries' => cases hkeys
  | cons e entries ih =>
    cases entries' with
    | nil => cases hkeys
    | cons e' entries' =>
      obtain ⟨k, v⟩ := e
      obtain ⟨k', v'⟩ := e'
      obtain ⟨rfl, htail⟩ : k = k' ∧ keys entries = keys entries' := List.cons.inj hkeys
      obtain ⟨hk, hnd⟩ := List.nodup_cons.1 h
      obtain rfl : v = v' := by simpa [lookup_cons_eq_ite] using hlookup k
      congr 1
      refine ih hnd htail fun l => ?_
      have hl := hlookup l
      rw [lookup_cons_eq_ite, lookup_cons_eq_ite] at hl
      by_cases heq : l = k
      · -- the first key is no other key
        have hnone {es : List (String × β)} (hes : k ∉ keys es) : es.lookup k = none :=
          Option.not_isSome_iff_eq_none.1 (mt isSome_lookup_iff.1 hes)
        rw [heq, hnone hk, hnone (htail ▸ hk)]
      · rwa [if_neg heq, if_neg heq] at hl

end Entries

/-- The operations of a map with strings as keys. -/
structure KeyedMap (M β : Type) where
  empty : M
  insert : String → β → M → M
  get? : String → M → Option β
  entries : M → List (String × β)

namespace KeyedMap

open Entries

variable {M β : Type}

/-- The laws of a map that keeps the order of insertion.  No key occurs twice, what is found under a key is what its entry
holds, a value that is inserted under a key replaces the one that is there in its place and else comes last, and removal
keeps the order of the other entries. -/
structure InsertionOrdered (map : KeyedMap M β) (remove : String → M → M) : Prop where
  nodup (m : M) : (keys (map.entries m)).Nodup
  entries_empty : map.entries map.empty = []
  get?_iff (m : M) (k : String) (v : β) : map.get? k m = some v ↔ (k, v) ∈ map.entries m
  keys_insert (m : M) (k : String) (v : β) :
    keys (map.entries (map.insert k v m)) =
      if k ∈ keys (map.entries m) then keys (map.entries m) else keys (map.entries m) ++ [k]
  get?_insert (m : M) (k : String) (v : β) (x : String) :
    map.get? x (map.insert k v m) = if x = k then some v else map.get? x m
  keys_remove (m : M) (k : String) : keys (map.entries (remove k m)) = (keys (map.entries m)).erase k
  get?_remove (m : M) (k x : String) : map.get? x (remove k m) = if x = k then none else map.get? x m

/-- The laws of a map in the order of its keys, which are compared by their bytes. -/
structure Sorted (map : KeyedMap M β) : Prop where
  increasing (m : M) : (keys (map.entries m)).Pairwise fun k l => Text.order k.toList l.toList = .lt
  entries_empty : map.entries map.empty = []
  get?_iff (m : M) (k : String) (v : β) : map.get? k m = some v ↔ (k, v) ∈ map.entries m
  get?_insert (m : M) (k : String) (v : β) (x : String) :
    map.get? x (map.insert k v m) = if x = k then some v else map.get? x m

/-- The map that entries are collected into one by one. -/
def collect (map : KeyedMap M β) (list : List (String × β)) : M :=
  list.foldl (fun m (k, v) => map.insert k v m) map.empty

/-- Finding what entries hold is looking it up in them. -/
theorem get?_eq_lookup {map : KeyedMap M β} {m : M} (hnd : (keys (map.entries m)).Nodup)
    (h : ∀ k v, map.get? k m = some v ↔ (k, v) ∈ map.entries m) (k : String) :
    map.get? k m = (map.entries m).lookup k :=
  Option.ext fun v => (h k v).trans (lookup_eq_some_iff hnd).symm

/-! ### Maps in the order of insertion -/

section InsertionOrdered

variable {map : KeyedMap M β} {remove : String → M → M} (h : map.InsertionOrdered remove)
include h

theorem InsertionOrdered.lookup_entries (m : M) (k : String) : (map.entries m).lookup k = map.get? k m :=
  (get?_eq_lookup (h.nodup m) (h.get?_iff m) k).symm

theorem InsertionOrdered.entries_insert (m : M) (k : String) (v : β) :
    map.entries (map.insert k v m) = Entries.insert k v (map.entries m) := by
  refine eq_of_lookup (h.nodup _) ?_ fun x => ?_
  · rw [h.keys_insert, Entries.keys_insert]
  · rw [h.lookup_entries, h.get?_insert, Entries.lookup_insert, h.lookup_entries]

theorem InsertionOrdered.entries_remove (m : M) (k : String) :
    map.entries (remove k m) = Entries.erase k (map.entries m) := by
  refine eq_of_lookup (h.nodup _) ?_ fun x => ?_
  · rw [h.keys_remove, Entries.keys_erase]
  · rw [h.lookup_entries, h.get?_remove, Entries.lookup_erase (h.nodup m), h.lookup_entries]

theorem InsertionOrdered.entries_foldl_insert (list : List (String × β)) (m : M) :
    map.entries (list.foldl (fun m (k, v) => map.insert k v m) m) =
      list.foldl (fun entries (k, v) => Entries.insert k v entries) (map.entries m) := by
  induction list generalizing m with
  | nil => rfl
  | cons e list ih => rw [List.foldl_cons, ih, h.entries_insert, List.foldl_cons]

theorem InsertionOrdered.entries_collect (list : List (String × β)) :
    map.entries (map.collect list) = Entries.ofList list := by
  rw [collect, h.entries_foldl_insert, h.entries_empty, Entries.ofList]

end InsertionOrdered

end KeyedMap

/-- Lists of entries with distinct keys as maps. -/
def Entries.uniqueMap (β : Type) : KeyedMap { entries : List (String × β) // (Entries.keys entries).Nodup } β where
  empty := ⟨[], .nil⟩
  insert k v m := ⟨Entries.insert k v m.1, Entries.nodup_keys_insert m.2⟩
  get? k m := m.1.lookup k
  entries m := m.1

/-- Lists of entries with distinct keys are maps that keep the order of insertion. -/
theorem Entries.insertionOrdered (β : Type) :
    (Entries.uniqueMap β).InsertionOrdered fun k m => ⟨Entries.erase k m.1, Entries.nodup_keys_erase m.2⟩ where
  nodup m := m.2
  entries_empty := rfl
  get?_iff m _ _ := Entries.lookup_eq_some_iff m.2
  keys_insert _ _ _ := Entries.keys_insert
  get?_insert _ _ _ _ := Entries.lookup_insert
  keys_remove _ _ := Entries.keys_erase
  get?_remove m _ _ := Entries.lookup_erase m.2

/-! ### Maps in the order of their keys -/

/-- Strings are compared by their characters as by the bytes of these. -/
theorem Text.order_eq_lt_iff {s t : String} : order s.toList t.toList = .lt ↔ s < t := by
  rw [order_eq, String.lt_iff]
  generalize s.toList = cs
  generalize t.toList = ds
  induction cs generalizing ds with
  | nil => cases ds <;> simp
  | cons c cs ih =>
    cases ds with
    | nil => simp
    | cons d ds =>
      have hlt : c < d ↔ c.toNat < d.toNat := UInt32.lt_iff_toNat_lt
      rw [List.map_cons, List.map_cons, List.compare_cons_cons, Ordering.then_eq_lt, ih, List.cons_lt_cons_iff,
        Nat.compare_eq_lt, Nat.compare_eq_eq, hlt, Char.toNat_inj]

namespace Json

open Entries

theorem lookup_insert {key k : String} {value : Json} {entries : List (String × Json)} :
    (insert key value entries).lookup k = if k = key then some value else entries.lookup k := by
  induction entries with
  | nil => rw [insert, lookup_cons_eq_ite]
  | cons e entries ih =>
    obtain ⟨l, v⟩ := e
    unfold insert
    split
    · rw [lookup_cons_eq_ite]
    · split
      · rename_i hl
        rw [lookup_cons_eq_ite, lookup_cons_eq_ite, hl]
        split <;> rfl
      · rename_i hl
        rw [lookup_cons_eq_ite, lookup_cons_eq_ite, ih]
        by_cases hk : k = l
        · rw [if_pos hk, if_pos hk, if_neg (hk ▸ hl)]
        · rw [if_neg hk, if_neg hk]

theorem nodup_of_increasing {keys : List String} (h : keys.Pairwise (· < ·)) : keys.Nodup := h.imp ne_of_lt

/-- Lists of entries with increasing keys as maps. -/
def sortedMap : KeyedMap { entries : List (String × Json) // (keys entries).Pairwise (· < ·) } Json where
  empty := ⟨[], .nil⟩
  insert k v m := ⟨insert k v m.1, by rw [keys_insert]; exact Node.pairwise_insertName m.2⟩
  get? k m := m.1.lookup k
  entries m := m.1

/-- Lists of entries with increasing keys are maps in the order of their keys. -/
theorem sorted : sortedMap.Sorted where
  increasing m := m.2.imp Text.order_eq_lt_iff.2
  entries_empty := rfl
  get?_iff m _ _ := lookup_eq_some_iff (nodup_of_increasing m.2)
  get?_insert _ _ _ _ := lookup_insert

end Json

namespace KeyedMap

open Entries

section Sorted

variable {M : Type} {map : KeyedMap M Json} (h : map.Sorted)
include h

theorem Sorted.pairwise (m : M) : (keys (map.entries m)).Pairwise (· < ·) :=
  (h.increasing m).imp Text.order_eq_lt_iff.1

theorem Sorted.lookup_entries (m : M) (k : String) : (map.entries m).lookup k = map.get? k m :=
  (get?_eq_lookup (Json.nodup_of_increasing (h.pairwise m)) (h.get?_iff m) k).symm

theorem Sorted.entries_insert (m : M) (k : String) (v : Json) :
    map.entries (map.insert k v m) = Json.insert k v (map.entries m) := by
  have hlookup (x : String) : (map.entries (map.insert k v m)).lookup x = (Json.insert k v (map.entries m)).lookup x := by
    rw [h.lookup_entries, h.get?_insert, Json.lookup_insert, h.lookup_entries]
  have hpairwise : (keys (Json.insert k v (map.entries m))).Pairwise (· < ·) := by
    rw [Json.keys_insert]
    exact Node.pairwise_insertName (h.pairwise m)
  refine eq_of_lookup (Json.nodup_of_increasing (h.pairwise _)) ?_ hlookup
  -- the keys are the same, and they increase on both sides
  refine (h.pairwise _).eq_of_mem_iff hpairwise fun x => ?_
  rw [← isSome_lookup_iff, ← isSome_lookup_iff, hlookup]

theorem Sorted.entries_foldl_insert (list : List (String × Json)) (m : M) :
    map.entries (list.foldl (fun m (k, v) => map.insert k v m) m) = Json.insertAll (map.entries m) list := by
  induction list generalizing m with
  | nil => rfl
  | cons e list ih => rw [List.foldl_cons, ih, h.entries_insert, Json.insertAll, Json.insertAll, List.foldl_cons]

theorem Sorted.entries_collect (list : List (String × Json)) :
    Json.object (map.entries (map.collect list)) = Json.ofEntries list := by
  rw [collect, h.entries_foldl_insert, h.entries_empty, Json.ofEntries_eq]

end Sorted

end KeyedMap

end ExprLang
