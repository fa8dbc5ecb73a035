import Mathlib.Tactic.Common

/-!
# A clock that wraps

The clock shows a time modulo its `width`.  Times in the same epoch, that is with
the same quotient by the width, are compared correctly by what the clock shows.
Two times in different epochs that are less than a width apart never are, which is
`reading_le_iff`.  A deadline may also lie any number of epochs back; when it is then
seen to be over is `reading_le_iff_of_ahead`.
-/

namespace WrappingClock

def reading (width time : ℕ) : ℕ :=
  time % width

/-- How often the clock has wrapped. -/
def epoch (width time : ℕ) : ℕ :=
  time / width

variable {width first second : ℕ}

theorem epoch_mul_add_reading (width time : ℕ) :
    width * epoch width time + reading width time = time :=
  Nat.div_add_mod time width

theorem reading_le_of_epoch_eq (hepoch : epoch width first = epoch width second) :
    reading width first ≤ reading width second ↔ first ≤ second := by
  have hfirst := epoch_mul_add_reading width first
  have hsecond := epoch_mul_add_reading width second
  rw [hepoch] at hfirst
  omega

theorem reading_lt_of_epoch_lt (hepoch : epoch width first < epoch width second)
    (hclose : second < first + width) : reading width second < reading width first := by
  have hfirst := epoch_mul_add_reading width first
  have hsecond := epoch_mul_add_reading width second
  have hsteps : width * epoch width first + width ≤ width * epoch width second := by
    calc width * epoch width first + width
        = width * (epoch width first + 1) := (Nat.mul_succ ..).symm
      _ ≤ width * epoch width second := Nat.mul_le_mul_left width hepoch
  omega

theorem lt_of_epoch_lt (hepoch : epoch width first < epoch width second) : first < second := by
  by_contra hle
  have hback : epoch width second ≤ epoch width first :=
    Nat.div_le_div_right (Nat.le_of_not_lt hle)
  omega

/-- Times less than a width apart are compared correctly exactly when they lie in
one epoch. -/
theorem reading_le_iff (hfirst : first < second + width) (hsecond : second < first + width) :
    (reading width first ≤ reading width second ↔ first ≤ second) ↔
      epoch width second = epoch width first := by
  constructor
  · intro hcorrect
    by_contra hepoch
    rcases Nat.lt_or_gt_of_ne hepoch with hlt | hgt
    · -- the clock says that `first` is not later, but it is
      have hback := reading_lt_of_epoch_lt hlt hfirst
      have hle : first ≤ second := hcorrect.mp (Nat.le_of_lt hback)
      have hafter := lt_of_epoch_lt hlt
      omega
    · -- the clock says that `first` is later, but it is not
      have hback := reading_lt_of_epoch_lt hgt hsecond
      have hafter := lt_of_epoch_lt hgt
      have hle := hcorrect.mpr (Nat.le_of_lt hafter)
      omega
  · intro hepoch
    exact reading_le_of_epoch_eq hepoch.symm

/-- A deadline less than a width ahead, or any time back, is told from the present
correctly exactly when it lies in the same epoch, or it is over and what the clock shows
has caught up with it. -/
theorem reading_le_iff_of_ahead (hahead : first < second + width) :
    (reading width first ≤ reading width second ↔ first ≤ second) ↔
      epoch width first = epoch width second ∨
        (first ≤ second ∧ reading width first ≤ reading width second) := by
  constructor
  · intro hcorrect
    by_cases hepoch : epoch width first = epoch width second
    · exact .inl hepoch
    · right
      by_cases hover : first ≤ second
      · exact ⟨hover, hcorrect.mpr hover⟩
      · -- the deadline is in the next epoch, where the clock shows less
        have hback : epoch width second ≤ epoch width first :=
          Nat.div_le_div_right (Nat.le_of_not_le hover)
        have hlater : epoch width second < epoch width first :=
          Nat.lt_of_le_of_ne hback (Ne.symm hepoch)
        have hshown := reading_lt_of_epoch_lt hlater hahead
        exact absurd (hcorrect.mp (Nat.le_of_lt hshown)) hover
  · rintro (hepoch | ⟨hover, hshown⟩)
    · exact reading_le_of_epoch_eq hepoch
    · exact iff_of_true hshown hover

end WrappingClock
