/-!
# Ranges of source text

The offset behind a range is a sum, and a machine word does not hold every sum.  `stop` and `cover` are exact, whatever
the offsets; `stop?` and `cover?` compute in words and have no value where the exact one does not fit (`cover?_eq_some`).
-/

namespace ExprLang

/-- The greatest number that a machine word holds. -/
def maxWord : Nat := UInt64.size - 1

/-- A range of the source text, in bytes. -/
structure Range where
  offset : Nat
  length : Nat
  deriving DecidableEq

namespace Range

/-- The offset behind the last byte. -/
def stop (r : Range) : Nat := r.offset + r.length

/-- A word holds the offset behind the last byte. -/
def Fits (r : Range) : Prop := r.stop ≤ maxWord

instance : DecidablePred Fits := fun r => inferInstanceAs (Decidable (r.stop ≤ maxWord))

/-- The offset behind the last byte, computed in a word. -/
def stop? (r : Range) : Option Nat := if r.Fits then some r.stop else none

/-- The smallest range that holds two others. -/
def cover (r s : Range) : Range :=
  let offset := min r.offset s.offset
  ⟨offset, max r.stop s.stop - offset⟩

/-- The smallest range that holds two others, computed in words.  No range stops before its offset, so the difference
is always there. -/
def cover? (r s : Range) : Option Range := do
  let offset := min r.offset s.offset
  return ⟨offset, max (← r.stop?) (← s.stop?) - offset⟩

variable {r s : Range}

theorem offset_le_stop (r : Range) : r.offset ≤ r.stop := Nat.le_add_right ..

@[simp] theorem stop_cover : (r.cover s).stop = max r.stop s.stop := by
  have hr := r.offset_le_stop
  simp only [cover, stop] at hr ⊢
  omega

theorem Fits.cover (hr : r.Fits) (hs : s.Fits) : (r.cover s).Fits := by
  unfold Fits
  rw [stop_cover]
  exact Nat.max_le.2 ⟨hr, hs⟩

/-- In words as without them, if both ranges fit. -/
theorem cover?_eq_some (hr : r.Fits) (hs : s.Fits) : r.cover? s = some (r.cover s) := by
  simp [cover?, stop?, cover, hr, hs]

theorem cover?_eq_none (h : ¬ (r.Fits ∧ s.Fits)) : r.cover? s = none := by
  by_cases hr : r.Fits <;> by_cases hs : s.Fits <;> simp_all [cover?, stop?]

end Range

end ExprLang
