import ExprLang.Text.Bytes

/-!
# Searching and splitting texts

`indexOf?` finds the first occurrence of a text in another, and `splitOn` cuts a text at the leftmost occurrences of a
separator that do not overlap.  Both count characters.  `find?` gives the place of the first occurrence in bytes; the
characters in front of it are as many as `indexOf?` says (`map_charactersBefore_find?`).
-/

namespace ExprLang.Text

/-- The position of the first occurrence of `sought` in a text. -/
def indexOf? (sought : List Char) : List Char → Option Nat
  | [] => if sought.isEmpty then some 0 else none
  | c :: text => if sought.isPrefixOf (c :: text) then some 0 else (indexOf? sought text).map (· + 1)

theorem indexOf?_add_length_le {sought text : List Char} {i : Nat} (h : indexOf? sought text = some i) :
    i + sought.length ≤ text.length := by
  induction text generalizing i with
  | nil =>
    unfold indexOf? at h
    split at h
    · rename_i hs
      simp only [Option.some.injEq] at h
      simp [List.isEmpty_iff.mp hs, ← h]
    · simp at h
  | cons c text ih =>
    unfold indexOf? at h
    split at h
    · rename_i hp
      have := (List.isPrefixOf_iff_prefix.mp hp).length_le
      simp only [Option.some.injEq] at h
      omega
    · obtain ⟨j, hj, rfl⟩ := Option.map_eq_some_iff.mp h
      have := ih hj
      simp only [List.length_cons]
      omega

/-- The offset in bytes of the first occurrence of `sought` in a text. -/
def find? (sought : List Char) : List Char → Option Nat
  | [] => if sought.isEmpty then some 0 else none
  | c :: text => if sought.isPrefixOf (c :: text) then some 0 else (find? sought text).map (c.utf8Size + ·)

/-- The number of characters in front of an offset in bytes. -/
def charactersBefore (offset : Nat) (text : List Char) : Nat := ((slice? text 0 offset).getD []).length

theorem find?_eq (sought text : List Char) :
    find? sought text = (indexOf? sought text).map fun i => byteLength (text.take i) := by
  induction text with
  | nil =>
    unfold find? indexOf?
    split <;> rfl
  | cons c text ih =>
    unfold find? indexOf?
    split
    · rfl
    · rw [ih, Option.map_map, Option.map_map]
      rfl

/-- The first characters of a text end between characters, so they are a slice by bytes. -/
theorem slice?_take (text : List Char) (i : Nat) : slice? text 0 (byteLength (text.take i)) = some (text.take i) := by
  have hslice := slice?_append [] (text.take i) (text.drop i)
  rwa [List.nil_append, List.take_append_drop] at hslice

/-- The characters in front of the first occurrence of a text are as many as its position says. -/
theorem map_charactersBefore_find? (sought text : List Char) :
    (find? sought text).map (charactersBefore · text) = indexOf? sought text := by
  rw [find?_eq, Option.map_map]
  cases h : indexOf? sought text with
  | none => rfl
  | some i =>
    have hle := indexOf?_add_length_le h
    have hlength : (text.take i).length = i := List.length_take_of_le (by omega)
    simp only [Option.map_some, Function.comp_apply, charactersBefore, slice?_take, Option.getD_some, hlength]

/-- The pieces of a text between the occurrences of the separator `c :: separator`. -/
def splitOn (c : Char) (separator text : List Char) : List (List Char) :=
  match _h : indexOf? (c :: separator) text with
  | none => [text]
  | some i => text.take i :: splitOn c separator (text.drop (i + (c :: separator).length))
termination_by text.length
decreasing_by
  have := indexOf?_add_length_le _h
  simp only [List.length_cons, List.length_drop] at *
  omega

end ExprLang.Text
