/-!
# Byte offsets

Places in a source text are counted in bytes of its UTF-8 encoding.  A slice by bytes exists only when both of its
ends lie between characters: `slice?` is undefined for any other.
-/

namespace ExprLang.Text

/-- The encoding of a text. -/
def bytes (text : List Char) : List UInt8 := text.flatMap String.utf8EncodeChar

/-- The length in bytes of the encoding of a text. -/
def byteLength : List Char → Nat
  | [] => 0
  | c :: text => c.utf8Size + byteLength text

@[simp] theorem byteLength_append (s t : List Char) : byteLength (s ++ t) = byteLength s + byteLength t := by
  induction s with
  | nil => simp [byteLength]
  | cons c s ih => simp [byteLength, ih, Nat.add_assoc]

/-- The first `n` bytes of a text and the rest, if a character ends there. -/
def splitBytes? : Nat → List Char → Option (List Char × List Char)
  | 0, text => some ([], text)
  | _ + 1, [] => none
  | n + 1, c :: text =>
    if c.utf8Size ≤ n + 1 then
      (splitBytes? (n + 1 - c.utf8Size) text).map fun (before, after) => (c :: before, after)
    else none

/-- The `length` bytes of a text from `offset` on, if they are whole characters of it. -/
def slice? (text : List Char) (offset length : Nat) : Option (List Char) := do
  let (_, after) ← splitBytes? offset text
  let (slice, _) ← splitBytes? length after
  return slice

theorem splitBytes?_append (s t : List Char) : splitBytes? (byteLength s) (s ++ t) = some (s, t) := by
  induction s with
  | nil => cases t <;> simp [byteLength, splitBytes?]
  | cons c s ih =>
    have hpos := c.utf8Size_pos
    obtain ⟨n, hn⟩ : ∃ n, c.utf8Size + byteLength s = n + 1 := ⟨c.utf8Size + byteLength s - 1, by omega⟩
    have hle : c.utf8Size ≤ n + 1 := by omega
    have hsub : n + 1 - c.utf8Size = byteLength s := by omega
    rw [byteLength, hn, List.cons_append, splitBytes?, if_pos hle, hsub, ih]
    rfl

theorem eq_of_splitBytes? {n : Nat} {text before after : List Char} (h : splitBytes? n text = some (before, after)) :
    text = before ++ after ∧ byteLength before = n := by
  fun_induction splitBytes? n text generalizing before with
  | case1 =>
    cases h
    exact ⟨rfl, rfl⟩
  | case2 => cases h
  | case3 n c text hle ih =>
    obtain ⟨⟨front, back⟩, hsplit, he⟩ := Option.map_eq_some_iff.1 h
    cases he
    obtain ⟨htext, hlength⟩ := ih hsplit
    refine ⟨congrArg (c :: ·) htext, ?_⟩
    rw [byteLength, hlength]
    omega
  | case4 => cases h

/-- A text falls into two parts in one way if the length of the first is given. -/
theorem append_inj_of_byteLength {s s' t t' : List Char} (h : s ++ t = s' ++ t')
    (hs : byteLength s = byteLength s') : s = s' ∧ t = t' := by
  have hsplit := splitBytes?_append s t
  rw [h, hs, splitBytes?_append] at hsplit
  cases hsplit
  exact ⟨rfl, rfl⟩

theorem slice?_append (s m t : List Char) : slice? (s ++ (m ++ t)) (byteLength s) (byteLength m) = some m := by
  simp [slice?, splitBytes?_append]

end ExprLang.Text
