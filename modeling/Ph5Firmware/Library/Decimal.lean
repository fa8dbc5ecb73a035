import Mathlib.Data.List.TakeWhile
import Mathlib.Tactic.Common

/-!
# Decimal numbers in texts

`read` reads a number the way `atol` of `stdlib.h` does: after leading blanks an
optional sign and then digits, up to the first character that is none.  `text` is
the usual spelling of a number, and `read_text` the round trip.
-/

namespace Decimal

/-- `isspace`. -/
def isSpace (character : Char) : Bool :=
  character ∈ [' ', '\t', '\n', '\x0b', '\x0c', '\r']

def digits (text : List Char) : ℕ :=
  Nat.ofDigitChars 10 (text.takeWhile Char.isDigit) 0

def signed : List Char → ℤ
  | '-' :: rest => -(digits rest : ℤ)
  | '+' :: rest => digits rest
  | text => digits text

def read (text : List Char) : ℤ :=
  signed (text.dropWhile isSpace)

def text (value : ℤ) : List Char :=
  if value < 0 then '-' :: Nat.toDigits 10 value.natAbs else Nat.toDigits 10 value.natAbs

theorem digits_toDigits (number : ℕ) : digits (Nat.toDigits 10 number) = number := by
  have hall : ∀ character ∈ Nat.toDigits 10 number, character.isDigit = true := by
    intro character hmem
    exact Nat.isDigit_of_mem_toDigits (by decide) (by decide) hmem
  rw [digits, List.takeWhile_eq_self_iff.mpr hall, Nat.ofDigitChars_ten_toDigits]

/-- A digit is no blank and no sign. -/
theorem read_of_isDigit {head : Char} (hdigit : head.isDigit = true) (rest : List Char) :
    read (head :: rest) = digits (head :: rest) := by
  have hspace : ¬ isSpace head = true := by
    intro hspace
    simp only [isSpace, decide_eq_true_eq, List.mem_cons, List.not_mem_nil, or_false] at hspace
    rcases hspace with rfl | rfl | rfl | rfl | rfl | rfl <;> exact absurd hdigit (by decide)
  rw [read, List.dropWhile_cons_of_neg hspace]
  unfold signed
  split
  · next heq =>
      obtain ⟨rfl, -⟩ := List.cons.inj heq
      exact absurd hdigit (by decide)
  · next heq =>
      obtain ⟨rfl, -⟩ := List.cons.inj heq
      exact absurd hdigit (by decide)
  · rfl

/-- **Round trip** of the decimal spelling. -/
theorem read_text (value : ℤ) : read (text value) = value := by
  unfold text
  by_cases hneg : value < 0
  · have hspace : ¬ isSpace '-' = true := by decide
    rw [if_pos hneg, read, List.dropWhile_cons_of_neg hspace]
    show -(digits (Nat.toDigits 10 value.natAbs) : ℤ) = value
    rw [digits_toDigits]
    omega
  · rw [if_neg hneg]
    cases htext : Nat.toDigits 10 value.natAbs with
    | nil => exact absurd htext Nat.toDigits_ne_nil
    | cons head rest =>
        have hdigit : head.isDigit = true := by
          have hmem : head ∈ Nat.toDigits 10 value.natAbs := htext ▸ List.mem_cons_self ..
          exact Nat.isDigit_of_mem_toDigits (by decide) (by decide) hmem
        rw [read_of_isDigit hdigit, ← htext, digits_toDigits]
        omega

end Decimal
