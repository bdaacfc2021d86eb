/-!
# Entries in order of insertion

Lists of keys with values, in the order in which the keys were first inserted.  Inserting a key that is present
changes its value and keeps its place; erasing a key keeps the order of the others.  Both are described by what
`List.lookup` finds afterwards (`lookup_insert`, `lookup_erase`) and by the keys (`keys_insert`, `keys_erase`).
-/

namespace ExprLang.Entries

variable {β : Type}

/-- The keys in their order. -/
def keys (entries : List (String × β)) : List String := entries.map Prod.fst

/-- Sets the value of a key, which goes to the end if it is new. -/
def insert (key : String) (value : β) : List (String × β) → List (String × β)
  | [] => [(key, value)]
  | (k, v) :: entries => if k = key then (k, value) :: entries else (k, v) :: insert key value entries

/-- Removes a key. -/
def erase (key : String) : List (String × β) → List (String × β)
  | [] => []
  | (k, v) :: entries => if k = key then entries else (k, v) :: erase key entries

/-- Inserts the entries of a list one by one. -/
def ofList (list : List (String × β)) : List (String × β) :=
  list.foldl (fun entries (key, value) => insert key value entries) []

theorem mem_keys_insert {key k : String} {value : β} {entries : List (String × β)} :
    k ∈ keys (insert key value entries) ↔ k = key ∨ k ∈ keys entries := by
  induction entries with
  | nil => simp [insert, keys]
  | cons e entries ih =>
    obtain ⟨l, v⟩ := e
    simp only [keys] at ih
    unfold insert
    split
    · rename_i h
      simp [keys, h]
    · simp only [keys, List.map_cons, List.mem_cons, ih]
      exact or_left_comm

theorem mem_keys_of_mem_erase {key k : String} {entries : List (String × β)} (h : k ∈ keys (erase key entries)) :
    k ∈ keys entries := by
  induction entries with
  | nil => simp [erase, keys] at h
  | cons e entries ih =>
    obtain ⟨l, v⟩ := e
    simp only [keys] at ih
    unfold erase at h
    split at h
    · simpa [keys] using Or.inr (by simpa [keys] using h)
    · simp only [keys, List.map_cons, List.mem_cons] at h ⊢
      exact h.imp_right ih

theorem nodup_keys_insert {key : String} {value : β} {entries : List (String × β)} (h : (keys entries).Nodup) :
    (keys (insert key value entries)).Nodup := by
  induction entries with
  | nil => simp [insert, keys]
  | cons e entries ih =>
    obtain ⟨l, v⟩ := e
    simp only [keys, List.map_cons, List.nodup_cons] at h
    unfold insert
    split
    · simpa [keys] using h
    · rename_i hne
      simp only [keys, List.map_cons, List.nodup_cons]
      refine ⟨fun hm => ?_, ih h.2⟩
      exact (mem_keys_insert.mp hm).elim hne h.1

theorem nodup_keys_erase {key : String} {entries : List (String × β)} (h : (keys entries).Nodup) :
    (keys (erase key entries)).Nodup := by
  induction entries with
  | nil => simp [erase, keys]
  | cons e entries ih =>
    obtain ⟨l, v⟩ := e
    simp only [keys, List.map_cons, List.nodup_cons] at h
    unfold erase
    split
    · exact h.2
    · simp only [keys, List.map_cons, List.nodup_cons]
      exact ⟨fun hm => h.1 (mem_keys_of_mem_erase hm), ih h.2⟩

theorem nodup_keys_foldl_insert (list : List (String × β)) {entries : List (String × β)}
    (h : (keys entries).Nodup) :
    (keys (list.foldl (fun entries (key, value) => insert key value entries) entries)).Nodup := by
  induction list generalizing entries with
  | nil => exact h
  | cons e list ih => exact ih (nodup_keys_insert h)

theorem lookup_cons_eq_ite {k l : String} {v : β} {entries : List (String × β)} :
    ((l, v) :: entries).lookup k = if k = l then some v else entries.lookup k := by
  by_cases h : k = l
  · simp [h]
  · have hb : (k == l) = false := by simpa using h
    rw [List.lookup_cons, hb, if_neg h]

theorem lookup_of_mem {k : String} {v : β} {entries : List (String × β)} (hnd : (keys entries).Nodup)
    (h : (k, v) ∈ entries) : entries.lookup k = some v := by
  induction entries with
  | nil => cases h
  | cons e entries ih =>
    obtain ⟨l, w⟩ := e
    simp only [keys, List.map_cons, List.nodup_cons] at hnd
    rw [lookup_cons_eq_ite]
    rcases List.mem_cons.1 h with he | he
    · cases he
      simp
    · have hne : k ≠ l := by
        rintro rfl
        exact hnd.1 (List.mem_map_of_mem (f := Prod.fst) he)
      rw [if_neg hne]
      exact ih hnd.2 he

theorem isSome_lookup_iff {k : String} {entries : List (String × β)} :
    (entries.lookup k).isSome ↔ k ∈ keys entries := by
  rw [List.lookup_isSome_iff, keys, List.mem_map]
  constructor
  · rintro ⟨e, he, hk⟩
    exact ⟨e, he, (beq_iff_eq.1 hk).symm⟩
  · rintro ⟨e, he, rfl⟩
    exact ⟨e, he, beq_self_eq_true e.1⟩

theorem lookup_insert {key k : String} {value : β} {entries : List (String × β)} :
    (insert key value entries).lookup k = if k = key then some value else entries.lookup k := by
  induction entries with
  | nil => rw [insert, lookup_cons_eq_ite]
  | cons e entries ih =>
    obtain ⟨l, v⟩ := e
    unfold insert
    split
    · rename_i hl
      rw [lookup_cons_eq_ite, lookup_cons_eq_ite, hl]
      split <;> rfl
    · rename_i hl
      rw [lookup_cons_eq_ite, lookup_cons_eq_ite, ih]
      by_cases hk : k = l
      · rw [if_pos hk, if_pos hk, if_neg (hk ▸ hl)]
      · rw [if_neg hk, if_neg hk]

/-- Erasing a key that occurs at most once unbinds it and nothing else. -/
theorem lookup_erase {key k : String} {entries : List (String × β)} (h : (keys entries).Nodup) :
    (erase key entries).lookup k = if k = key then none else entries.lookup k := by
  induction entries with
  | nil => simp [erase]
  | cons e entries ih =>
    obtain ⟨l, v⟩ := e
    simp only [keys, List.map_cons, List.nodup_cons] at h
    unfold erase
    split
    · rename_i hl
      subst hl
      rw [lookup_cons_eq_ite]
      by_cases hk : k = l
      · rw [if_pos hk, List.lookup_eq_none_iff]
        intro e he
        have hne : k ≠ e.1 := fun heq => h.1 (hk ▸ heq ▸ List.mem_map_of_mem he)
        simpa using hne
      · rw [if_neg hk, if_neg hk]
    · rename_i hl
      rw [lookup_cons_eq_ite, lookup_cons_eq_ite, ih h.2]
      by_cases hk : k = l
      · rw [if_pos hk, if_pos hk, if_neg (hk ▸ hl)]
      · rw [if_neg hk, if_neg hk]

theorem keys_insert {key : String} {value : β} {entries : List (String × β)} :
    keys (insert key value entries) = if key ∈ keys entries then keys entries else keys entries ++ [key] := by
  induction entries with
  | nil => simp [insert, keys]
  | cons e entries ih =>
    obtain ⟨l, v⟩ := e
    simp only [keys] at ih
    unfold insert
    split
    · rename_i hl
      simp [keys, hl]
    · rename_i hl
      simp only [keys, List.map_cons, ih, List.mem_cons]
      by_cases h : key ∈ entries.map Prod.fst
      · simp [h]
      · simp [h, Ne.symm hl]

theorem keys_erase {key : String} {entries : List (String × β)} :
    keys (erase key entries) = (keys entries).erase key := by
  induction entries with
  | nil => simp [erase, keys]
  | cons e entries ih =>
    obtain ⟨l, v⟩ := e
    simp only [keys] at ih
    unfold erase
    split
    · rename_i hl
      simp [keys, hl]
    · rename_i hl
      simp [keys, hl, ih]

end ExprLang.Entries
