import ExprLang.Json
import ExprLang.Node.Basic
import Mathlib.Data.String.Basic

/-!
# Insertion in increasing order

The names of an expression and the entries of a JSON object are built by the same insertion, which keeps names or keys
in increasing order (`Node.pairwise_insertName`, `Json.keys_insert`).  The entries of an object are some of those that
were inserted, all of them if their keys are distinct (`Json.insertAll_perm`), and entries that are in order already are
kept as they are (`Json.insertAll_of_pairwise`).
-/

namespace ExprLang

namespace Node

variable {name x : String} {names : List String}

theorem mem_insertName : x ∈ insertName name names ↔ x = name ∨ x ∈ names := by
  induction names with
  | nil => simp [insertName]
  | cons n names ih =>
    unfold insertName
    split
    · simp
    · split
      · rename_i h
        simp [h]
      · simp only [List.mem_cons, ih]
        exact or_left_comm

theorem pairwise_insertName (h : names.Pairwise (· < ·)) : (insertName name names).Pairwise (· < ·) := by
  induction names with
  | nil => simp [insertName]
  | cons n names ih =>
    obtain ⟨hn, hnames⟩ := List.pairwise_cons.1 h
    unfold insertName
    split
    · rename_i hlt
      refine List.pairwise_cons.2 ⟨fun y hy => ?_, h⟩
      rcases List.mem_cons.1 hy with rfl | hy
      · exact hlt
      · exact hlt.trans (hn y hy)
    · split
      · exact h
      · rename_i hnlt hne
        have hlt : n < name := lt_of_le_of_ne (not_lt.1 hnlt) hne
        refine List.pairwise_cons.2 ⟨fun y hy => ?_, ih hnames⟩
        rcases mem_insertName.1 hy with rfl | hy
        · exact hlt
        · exact hn y hy

end Node

namespace Json

open Entries

variable {key : String} {value : Json} {entries sorted : List (String × Json)} {e : String × Json}

/-- The keys of sorted entries are kept as sorted names are. -/
theorem keys_insert : keys (insert key value entries) = Node.insertName key (keys entries) := by
  induction entries with
  | nil => rfl
  | cons e entries ih =>
    obtain ⟨k, v⟩ := e
    change _ = Node.insertName key (k :: keys entries)
    unfold insert Node.insertName
    split
    · rfl
    · split
      · rfl
      · rw [← ih]
        rfl

theorem mem_insert (h : e ∈ insert key value entries) : e = (key, value) ∨ e ∈ entries := by
  induction entries with
  | nil => simpa [insert] using h
  | cons f entries ih =>
    obtain ⟨k, v⟩ := f
    unfold insert at h
    grind

theorem insert_of_forall_lt (h : ∀ k ∈ keys entries, k < key) : insert key value entries = entries ++ [(key, value)] := by
  induction entries with
  | nil => rfl
  | cons e entries ih =>
    obtain ⟨k, v⟩ := e
    have hk : k < key := h k (List.mem_cons_self ..)
    rw [insert, if_neg hk.not_gt, if_neg hk.ne, ih fun l hl => h l (List.mem_cons_of_mem _ hl)]
    rfl

/-- Sets the values of the keys of a list one by one. -/
def insertAll (sorted entries : List (String × Json)) : List (String × Json) :=
  entries.foldl (fun sorted (key, value) => insert key value sorted) sorted

theorem ofEntries_eq : ofEntries entries = object (insertAll [] entries) := rfl

theorem pairwise_keys_insertAll (h : (keys sorted).Pairwise (· < ·)) :
    (keys (insertAll sorted entries)).Pairwise (· < ·) := by
  induction entries generalizing sorted with
  | nil => exact h
  | cons e entries ih =>
    refine ih ?_
    rw [keys_insert]
    exact Node.pairwise_insertName h

theorem mem_insertAll (h : e ∈ insertAll sorted entries) : e ∈ sorted ∨ e ∈ entries := by
  induction entries generalizing sorted with
  | nil => exact .inl h
  | cons f entries ih =>
    rcases ih h with h | h
    · rcases mem_insert h with rfl | h
      · exact .inr (List.mem_cons_self ..)
      · exact .inl h
    · exact .inr (List.mem_cons_of_mem _ h)

theorem insert_perm (h : key ∉ keys entries) : (insert key value entries).Perm ((key, value) :: entries) := by
  induction entries with
  | nil => exact .refl _
  | cons e entries ih =>
    obtain ⟨k, v⟩ := e
    obtain ⟨hne, hnot⟩ : key ≠ k ∧ key ∉ keys entries := not_or.1 (mt List.mem_cons.2 h)
    unfold insert
    rw [if_neg (Ne.symm hne)]
    split
    · exact .refl _
    · exact ((ih hnot).cons _).trans (.swap ..)

/-- Entries with distinct keys are all there, in some order. -/
theorem insertAll_perm (h : (keys (sorted ++ entries)).Nodup) :
    (insertAll sorted entries).Perm (sorted ++ entries) := by
  induction entries generalizing sorted with
  | nil => simp [insertAll]
  | cons e entries ih =>
    have hnew : e.1 ∉ keys sorted := by
      intro hmem
      rw [keys, List.map_append, List.nodup_append] at h
      exact h.2.2 e.1 hmem e.1 (List.mem_cons_self ..) rfl
    have hperm : (insert e.1 e.2 sorted ++ entries).Perm (sorted ++ e :: entries) :=
      ((insert_perm hnew).append_right entries).trans List.perm_middle.symm
    exact (ih ((hperm.map Prod.fst).nodup_iff.2 h)).trans hperm

/-- Entries in increasing order of their keys are kept as they are. -/
theorem insertAll_of_pairwise (h : (keys (sorted ++ entries)).Pairwise (· < ·)) :
    insertAll sorted entries = sorted ++ entries := by
  induction entries generalizing sorted with
  | nil => simp [insertAll]
  | cons e entries ih =>
    have hlt : ∀ k ∈ keys sorted, k < e.1 := by
      intro k hk
      rw [keys, List.map_append, List.pairwise_append] at h
      exact h.2.2 k hk e.1 (List.mem_cons_self ..)
    change insertAll (insert e.1 e.2 sorted) entries = _
    rw [insert_of_forall_lt hlt, ih (by simpa using h)]
    simp

end Json

end ExprLang
