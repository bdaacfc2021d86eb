import ExprLang.Text.Search
import Mathlib.Data.List.Infix

/-!
# Occurrences of a text in another

A text occurs at a position if so many characters stand in front of it (`OccursAt`).  `indexOf?` finds the first
position (`indexOf?_eq_some_iff`), and `splitOn` cuts a text at the leftmost occurrences of a separator that do not
overlap, which `Cuts` says without a function (`splitOn_eq_iff`).  So joining the pieces gives the text back
(`Cuts.intercalate_eq`), no piece contains the separator (`Cuts.not_occurs`), and pieces without a character are cut out
of their join with this character (`cuts_intercalate`).
-/

namespace ExprLang.Text

variable {c : Char} {sought separator text before after : List Char} {pieces : List (List Char)} {i j : Nat}

/-- A text occurs in another one behind the first `i` characters. -/
def OccursAt (sought text : List Char) (i : Nat) : Prop :=
  ∃ before after, text = before ++ (sought ++ after) ∧ before.length = i

/-- The first position at which a text occurs in another one. -/
def FirstAt (sought text : List Char) (i : Nat) : Prop :=
  OccursAt sought text i ∧ ∀ j < i, ¬ OccursAt sought text j

/-! ### Positions -/

theorem occursAt_zero : OccursAt sought text 0 ↔ sought <+: text := by
  constructor
  · rintro ⟨before, after, rfl, hlength⟩
    obtain rfl := List.length_eq_zero_iff.1 hlength
    exact List.prefix_append sought after
  · rintro ⟨after, rfl⟩
    exact ⟨[], after, rfl, rfl⟩

theorem occursAt_succ : OccursAt sought (c :: text) (i + 1) ↔ OccursAt sought text i := by
  constructor
  · rintro ⟨before, after, htext, hlength⟩
    cases before with
    | nil => cases hlength
    | cons d before =>
      rw [List.cons_append, List.cons.injEq] at htext
      exact ⟨before, after, htext.2, Nat.succ.inj hlength⟩
  · rintro ⟨before, after, rfl, rfl⟩
    exact ⟨c :: before, after, rfl, rfl⟩

theorem OccursAt.add_length_le (h : OccursAt sought text i) : i + sought.length ≤ text.length := by
  obtain ⟨before, after, rfl, rfl⟩ := h
  simp only [List.length_append]
  omega

/-- The characters from an occurrence on. -/
theorem OccursAt.take_drop (h : OccursAt sought text i) : (text.drop i).take sought.length = sought := by
  obtain ⟨before, after, rfl, rfl⟩ := h
  rw [List.drop_left, List.take_left]

theorem infix_iff_occursAt : sought <:+: text ↔ ∃ i, OccursAt sought text i := by
  constructor
  · rintro ⟨before, after, rfl⟩
    exact ⟨before.length, before, after, List.append_assoc .., rfl⟩
  · rintro ⟨i, before, after, rfl, -⟩
    exact ⟨before, after, List.append_assoc ..⟩

/-- The first position of a text that is no prefix lies behind the first character. -/
theorem firstAt_succ (h : ¬ sought <+: c :: text) : FirstAt sought (c :: text) (i + 1) ↔ FirstAt sought text i := by
  unfold FirstAt
  rw [occursAt_succ]
  refine and_congr_right fun _ => ⟨fun hfirst j hj => ?_, fun hfirst j hj => ?_⟩
  · have hlater := hfirst (j + 1) (by omega)
    rwa [occursAt_succ] at hlater
  · cases j with
    | zero => rwa [occursAt_zero]
    | succ j =>
      rw [occursAt_succ]
      exact hfirst j (by omega)

theorem firstAt_of_startsWith (h : sought <+: text) : FirstAt sought text i ↔ i = 0 := by
  constructor
  · intro hfirst
    refine Nat.eq_zero_of_not_pos fun hpos => ?_
    exact hfirst.2 0 hpos (occursAt_zero.2 h)
  · rintro rfl
    exact ⟨occursAt_zero.2 h, fun j hj => absurd hj (Nat.not_lt_zero j)⟩

/-- `indexOf?` finds the first position. -/
theorem indexOf?_eq_some_iff : indexOf? sought text = some i ↔ FirstAt sought text i := by
  induction text generalizing i with
  | nil =>
    unfold indexOf?
    by_cases hempty : sought = []
    · subst hempty
      rw [firstAt_of_startsWith (List.prefix_refl _)]
      simp [eq_comm]
    · have hnone : ¬ FirstAt sought [] i := by
        rintro ⟨hoccurs, -⟩
        have hle := hoccurs.add_length_le
        have hpos := List.length_pos_iff.2 hempty
        simp only [List.length_nil] at hle
        omega
      simp [hempty, hnone]
  | cons c text ih =>
    unfold indexOf?
    by_cases hstart : sought <+: c :: text
    · rw [if_pos (List.isPrefixOf_iff_prefix.2 hstart), firstAt_of_startsWith hstart, Option.some.injEq, eq_comm]
    · rw [if_neg (mt List.isPrefixOf_iff_prefix.1 hstart)]
      cases i with
      | zero =>
        have hnone : ¬ FirstAt sought (c :: text) 0 := fun h => hstart (occursAt_zero.1 h.1)
        simp [hnone]
      | succ i =>
        rw [firstAt_succ hstart, ← ih]
        simp

theorem indexOf?_eq_none_iff : indexOf? sought text = none ↔ ¬ sought <:+: text := by
  induction text with
  | nil =>
    unfold indexOf?
    simp
  | cons c text ih =>
    unfold indexOf?
    rw [List.infix_cons_iff, not_or]
    by_cases hstart : sought <+: c :: text
    · rw [if_pos (List.isPrefixOf_iff_prefix.2 hstart)]
      simp [hstart]
    · rw [if_neg (mt List.isPrefixOf_iff_prefix.1 hstart), Option.map_eq_none_iff, ih]
      exact (and_iff_right hstart).symm

theorem isPrefixOf_iff_indexOf? : sought.isPrefixOf text = true ↔ indexOf? sought text = some 0 := by
  rw [List.isPrefixOf_iff_prefix, ← occursAt_zero, indexOf?_eq_some_iff]
  exact (and_iff_left fun j hj => absurd hj (Nat.not_lt_zero j)).symm

/-! ### Cutting at a separator -/

/-- The pieces of a text between the leftmost occurrences of a separator that do not overlap. -/
inductive Cuts (separator : List Char) : List Char → List (List Char) → Prop where
  | last {text : List Char} (h : ¬ separator <:+: text) : Cuts separator text [text]
  | more {before after : List Char} {pieces : List (List Char)}
      (h : FirstAt separator (before ++ (separator ++ after)) before.length) (rest : Cuts separator after pieces) :
      Cuts separator (before ++ (separator ++ after)) (before :: pieces)

theorem splitOn_of_not_infix (h : ¬ (c :: separator) <:+: text) : splitOn c separator text = [text] := by
  rw [splitOn]
  split
  · rfl
  · rename_i i hi
    exact absurd (infix_iff_occursAt.2 ⟨i, (indexOf?_eq_some_iff.1 hi).1⟩) h

theorem splitOn_of_firstAt (h : FirstAt (c :: separator) (before ++ (c :: separator ++ after)) before.length) :
    splitOn c separator (before ++ (c :: separator ++ after)) = before :: splitOn c separator after := by
  have hindex := indexOf?_eq_some_iff.2 h
  rw [splitOn]
  split
  · rename_i hnone
    rw [hnone] at hindex
    cases hindex
  · rename_i i hi
    rw [hi] at hindex
    cases hindex
    rw [List.take_left, ← List.drop_drop, List.drop_left, List.drop_left]

theorem cuts_splitOn (c : Char) (separator text : List Char) : Cuts (c :: separator) text (splitOn c separator text) := by
  fun_induction splitOn c separator text with
  | case1 text hnone => exact .last (indexOf?_eq_none_iff.1 hnone)
  | case2 text i hi ih =>
    have hfirst := indexOf?_eq_some_iff.1 hi
    obtain ⟨before, after, rfl, rfl⟩ := hfirst.1
    rw [List.take_left]
    rw [← List.drop_drop, List.drop_left, List.drop_left] at ih ⊢
    exact .more hfirst ih

/-- `splitOn` gives the pieces between the leftmost occurrences that do not overlap. -/
theorem splitOn_eq_iff : splitOn c separator text = pieces ↔ Cuts (c :: separator) text pieces := by
  constructor
  · rintro rfl
    exact cuts_splitOn c separator text
  · intro h
    induction h with
    | last h => exact splitOn_of_not_infix h
    | more h _ ih => rw [splitOn_of_firstAt h, ih]

namespace Cuts

theorem ne_nil (h : Cuts separator text pieces) : pieces ≠ [] := by
  cases h <;> exact List.cons_ne_nil _ _

/-- The pieces, joined by the separator, make the text. -/
theorem intercalate_eq (h : Cuts separator text pieces) : separator.intercalate pieces = text := by
  induction h with
  | last h => exact List.intercalate_singleton
  | more h rest ih => rw [List.intercalate_cons_of_ne_nil rest.ne_nil, ih, List.append_assoc]

/-- No piece contains the separator. -/
theorem not_occurs (h : Cuts separator text pieces) (hne : separator ≠ []) :
    ∀ piece ∈ pieces, ¬ separator <:+: piece := by
  induction h with
  | last h => exact List.forall_mem_singleton.2 h
  | @more before after pieces h rest ih =>
    refine List.forall_mem_cons.2 ⟨?_, ih⟩
    -- an occurrence within the piece in front of the first one would come before it
    rintro ⟨front, back, hfront⟩
    have hpos := List.length_pos_iff.2 hne
    have hlength := congrArg List.length hfront
    simp only [List.length_append] at hlength
    refine h.2 front.length (by omega) ⟨front, back ++ (separator ++ after), ?_, rfl⟩
    rw [← hfront]
    simp only [List.append_assoc]

/-- There is one piece exactly if the separator does not occur. -/
theorem length_eq_one_iff (h : Cuts separator text pieces) : pieces.length = 1 ↔ ¬ separator <:+: text := by
  cases h with
  | last h => exact iff_of_true rfl h
  | more h rest =>
    have hpos := List.length_pos_iff.2 rest.ne_nil
    refine iff_of_false ?_ (not_not_intro (infix_iff_occursAt.2 ⟨_, h.1⟩))
    simp only [List.length_cons]
    omega

/-- The first piece reaches up to the first occurrence. -/
theorem exists_head (h : Cuts separator text pieces) (hfirst : FirstAt separator text i) :
    ∃ piece rest, pieces = piece :: rest ∧ piece.length = i := by
  cases h with
  | last h => exact absurd (infix_iff_occursAt.2 ⟨i, hfirst.1⟩) h
  | @more before after pieces h rest =>
    refine ⟨before, pieces, rfl, ?_⟩
    rcases Nat.lt_trichotomy before.length i with hlt | heq | hgt
    · exact absurd h.1 (hfirst.2 _ hlt)
    · exact heq
    · exact absurd hfirst.1 (h.2 _ hgt)

end Cuts

/-- A character that a text does not contain occurs first right behind the text. -/
theorem firstAt_singleton (h : c ∉ before) : FirstAt [c] (before ++ ([c] ++ after)) before.length := by
  refine ⟨⟨before, after, rfl, rfl⟩, ?_⟩
  rintro j hj ⟨front, back, htext, rfl⟩
  have hchar := congrArg (·[front.length]?) htext
  simp only [List.getElem?_append_left hj, List.getElem?_append_right (Nat.le_refl _), Nat.sub_self] at hchar
  exact h (List.mem_of_getElem? hchar)

/-- Texts without a character are the pieces of their join with this character. -/
theorem cuts_intercalate (hne : pieces ≠ []) (h : ∀ piece ∈ pieces, c ∉ piece) :
    Cuts [c] ([c].intercalate pieces) pieces := by
  induction pieces with
  | nil => exact absurd rfl hne
  | cons piece pieces ih =>
    rw [List.forall_mem_cons] at h
    by_cases hlast : pieces = []
    · subst hlast
      rw [List.intercalate_singleton]
      exact .last (mt (List.singleton_infix_iff c piece).1 h.1)
    · rw [List.intercalate_cons_of_ne_nil hlast, List.append_assoc]
      exact .more (firstAt_singleton h.1) (ih hlast h.2)

end ExprLang.Text
