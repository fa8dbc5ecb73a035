import Mathlib.Logic.Equiv.Basic
import Mathlib.Order.Lattice
import Mathlib.Tactic.Common

/-!
# Sorting by exchanges

The sort of two nested loops that puts the greatest of the rest at each place in turn,
exchanging whenever it meets a greater one.  An array is a function from its places.

* `Rearranged first last before after`: `after` has the entries of `before`, and only
  those at the places from `first` up to `last` have moved.
* `pass_greatest`: after the pass for a place no later entry is greater.
* `sort_sorted`, `sort_rearranged`: the array is sorted in the end, and its entries are
  those it had.
-/

namespace ExchangeSort

variable {Entry Key : Type*} [LinearOrder Key] (key : Entry → Key)

/-- Exchange the entries at two places if the second is greater. -/
def exchange (place other : ℕ) (array : ℕ → Entry) : ℕ → Entry :=
  if key (array place) < key (array other) then array ∘ Equiv.swap place other else array

/-- The inner loop: the places `place + 1`, …, of which there are `count`. -/
def passFrom (place : ℕ) : ℕ → ℕ → (ℕ → Entry) → (ℕ → Entry)
  | _, 0, array => array
  | other, count + 1, array => passFrom place (other + 1) count (exchange key place other array)

def pass (size place : ℕ) (array : ℕ → Entry) : ℕ → Entry :=
  passFrom key place (place + 1) (size - (place + 1)) array

/-- The outer loop up to a place. -/
def passes (size : ℕ) : ℕ → (ℕ → Entry) → (ℕ → Entry)
  | 0, array => array
  | place + 1, array => pass key size place (passes size place array)

def sort (size : ℕ) (array : ℕ → Entry) : ℕ → Entry :=
  passes key size size array

/-! ## Entries only move -/

structure Rearranged (first last : ℕ) (before after : ℕ → Entry) : Prop where
  moved : ∃ places : Equiv.Perm ℕ, after = before ∘ places ∧
    ∀ place, place < first ∨ last ≤ place → places place = place

variable {first last place other count size : ℕ} {array before after third : ℕ → Entry}

theorem Rearranged.refl (first last : ℕ) (array : ℕ → Entry) :
    Rearranged first last array array :=
  ⟨Equiv.refl ℕ, rfl, fun _ _ => rfl⟩

theorem Rearranged.trans (hfirst : Rearranged first last before after)
    (hsecond : Rearranged first last after third) : Rearranged first last before third := by
  obtain ⟨places, rfl, hplaces⟩ := hfirst
  obtain ⟨others, rfl, hothers⟩ := hsecond
  refine ⟨others.trans places, rfl, ?_⟩
  intro place houtside
  rw [Equiv.trans_apply, hothers place houtside, hplaces place houtside]

/-- Moving entries among fewer places. -/
theorem Rearranged.mono {earlier : ℕ} (hmoved : Rearranged first last before after)
    (hearlier : earlier ≤ first) : Rearranged earlier last before after := by
  obtain ⟨places, hafter, hplaces⟩ := hmoved
  exact ⟨places, hafter, fun place houtside => hplaces place (by omega)⟩

/-- An entry that did not move. -/
theorem Rearranged.eq_of_outside (hmoved : Rearranged first last before after)
    (houtside : place < first ∨ last ≤ place) : after place = before place := by
  obtain ⟨places, rfl, hplaces⟩ := hmoved
  rw [Function.comp_apply, hplaces place houtside]

/-- Where an entry came from. -/
theorem Rearranged.source (hmoved : Rearranged first last before after)
    (hfirst : first ≤ place) (hlast : place < last) :
    ∃ source, first ≤ source ∧ source < last ∧ after place = before source := by
  obtain ⟨places, rfl, hplaces⟩ := hmoved
  refine ⟨places place, ?_, ?_, rfl⟩
  · by_contra hbefore
    have hfixed := hplaces (places place) (.inl (by omega))
    rw [places.injective hfixed] at hbefore
    omega
  · by_contra hbehind
    have hfixed := hplaces (places place) (.inr (by omega))
    rw [places.injective hfixed] at hbehind
    omega

/-- Where an entry went. -/
theorem Rearranged.target (hmoved : Rearranged first last before after)
    (hfirst : first ≤ place) (hlast : place < last) :
    ∃ target, first ≤ target ∧ target < last ∧ after target = before place := by
  obtain ⟨places, rfl, hplaces⟩ := hmoved
  have hback : Rearranged first last (before ∘ places) before := by
    refine ⟨places.symm, ?_, ?_⟩
    · funext place
      simp
    · intro place houtside
      rw [Equiv.symm_apply_eq, hplaces place houtside]
  obtain ⟨target, htargetFirst, htargetLast, htarget⟩ := hback.source hfirst hlast
  exact ⟨target, htargetFirst, htargetLast, htarget.symm⟩

theorem exchange_rearranged (array : ℕ → Entry) (hplace : first ≤ place)
    (hplaceLast : place < last) (hother : first ≤ other) (hotherLast : other < last) :
    Rearranged first last array (exchange key place other array) := by
  unfold exchange
  split_ifs
  · refine ⟨Equiv.swap place other, rfl, ?_⟩
    intro outside houtside
    exact Equiv.swap_apply_of_ne_of_ne (by omega) (by omega)
  · exact .refl first last array

theorem passFrom_rearranged (hplace : place < other) (hlast : other + count ≤ last) :
    Rearranged place last array (passFrom key place other count array) := by
  induction count generalizing other array with
  | zero => exact .refl place last array
  | succ count ih =>
      have hexchange := exchange_rearranged key array (Nat.le_refl place)
        (show place < last by omega) (Nat.le_of_lt hplace) (show other < last by omega)
      exact hexchange.trans (ih (by omega) (by omega))

theorem pass_rearranged (array : ℕ → Entry) (hplace : place < size) :
    Rearranged place size array (pass key size place array) :=
  passFrom_rearranged key (Nat.lt_succ_self place) (by omega)

/-! ## The greatest comes first -/

/-- An exchange leaves the greater of the two at the first place, and no smaller entry
than before. -/
theorem exchange_greatest (place other : ℕ) (array : ℕ → Entry) :
    key (array place) ≤ key (exchange key place other array place) ∧
      key (exchange key place other array other) ≤ key (exchange key place other array place) := by
  unfold exchange
  by_cases hless : key (array place) < key (array other)
  · rw [if_pos hless]
    simp only [Function.comp_apply, Equiv.swap_apply_left, Equiv.swap_apply_right]
    exact ⟨hless.le, hless.le⟩
  · rw [if_neg hless]
    exact ⟨le_rfl, not_lt.mp hless⟩

theorem exchange_of_ne {third : ℕ} (hplace : third ≠ place) (hother : third ≠ other) :
    exchange key place other array third = array third := by
  unfold exchange
  split_ifs
  · exact congrArg array (Equiv.swap_apply_of_ne_of_ne hplace hother)
  · rfl

/-- The inner loop keeps what it has already compared below the entry at its place. -/
theorem passFrom_greatest (hplace : place < other)
    (hdone : ∀ earlier, place < earlier → earlier < other →
      key (array earlier) ≤ key (array place)) :
    ∀ later, place < later → later < other + count →
      key (passFrom key place other count array later) ≤
        key (passFrom key place other count array place) := by
  induction count generalizing other array with
  | zero => exact hdone
  | succ count ih =>
      intro later hlater hend
      apply ih (by omega) _ later hlater (by omega)
      intro earlier hearlier hbound
      obtain ⟨hgrown, hother⟩ := exchange_greatest key place other array
      rcases Nat.lt_or_eq_of_le (Nat.le_of_lt_succ hbound) with hbefore | rfl
      · rw [exchange_of_ne key (by omega) (by omega)]
        exact (hdone earlier hearlier hbefore).trans hgrown
      · exact hother

theorem pass_greatest (later : ℕ) (hlater : place < later) (hend : later < size) :
    key (pass key size place array later) ≤ key (pass key size place array place) :=
  passFrom_greatest key (Nat.lt_succ_self place) (fun _ _ _ => by omega) later hlater (by omega)

/-! ## Sorted -/

/-- The entries at the first `count` places are in order, and none behind is greater. -/
def SortedUpTo (count size : ℕ) (array : ℕ → Entry) : Prop :=
  ∀ place < count, ∀ later, place < later → later < size → key (array later) ≤ key (array place)

theorem passes_sorted (hcount : count ≤ size) :
    SortedUpTo key count size (passes key size count array) ∧
      Rearranged 0 size array (passes key size count array) := by
  induction count with
  | zero => exact ⟨fun _ hnone => absurd hnone (Nat.not_lt_zero _), .refl 0 size array⟩
  | succ count ih =>
      obtain ⟨hsorted, hmoved⟩ := ih (by omega)
      have hpass := pass_rearranged key (passes key size count array)
        (show count < size by omega)
      refine ⟨?_, hmoved.trans (hpass.mono (Nat.zero_le count))⟩
      intro place hplace later hlater hend
      rcases Nat.lt_or_eq_of_le (Nat.le_of_lt_succ hplace) with hbefore | rfl
      · -- the entry stays, and what is behind it was behind it before
        have hstays : passes key size (count + 1) array place =
            passes key size count array place := hpass.eq_of_outside (.inl hbefore)
        rw [hstays]
        by_cases hmovable : count ≤ later
        · obtain ⟨source, hsource, hsourceEnd, hfrom⟩ := hpass.source hmovable hend
          rw [show passes key size (count + 1) array later = _ from hfrom]
          exact hsorted place hbefore source (by omega) hsourceEnd
        · rw [show passes key size (count + 1) array later = _ from
            hpass.eq_of_outside (.inl (by omega))]
          exact hsorted place hbefore later hlater hend
      · exact pass_greatest key later hlater hend

/-- **The array is sorted**, the greatest first. -/
theorem sort_sorted (size : ℕ) (array : ℕ → Entry) :
    ∀ place later, place < later → later < size →
      key (sort key size array later) ≤ key (sort key size array place) :=
  fun place later hlater hend =>
    (passes_sorted key (Nat.le_refl size)).1 place (Nat.lt_trans hlater hend) later hlater hend

theorem sort_rearranged (size : ℕ) (array : ℕ → Entry) :
    Rearranged 0 size array (sort key size array) :=
  (passes_sorted key (Nat.le_refl size)).2

end ExchangeSort
