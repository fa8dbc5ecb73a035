import Mathlib.Algebra.Order.Ring.Nat
import Mathlib.Data.List.GetD
import Mathlib.Tactic.Common

/-!
# Terminated texts in memory

The functions of `string.h` that copy a text know nothing of the size of what they
copy into.  A `Ram` is a memory that remembers which addresses were written, so
that a copy that runs past its buffer can be told from one that does not.

* `Holds memory address text`: the text and its NUL stand at the address.
  `textAt`, the text a reader finds there, is then `text` (`textAt_eq`).
* `strcpy_bytes`, `mem_written_strcpy`: every byte of memory after a copy, and
  the addresses it wrote.
* `Holds.drop`: a text that runs on past a place also stands at that place.
-/

/-- A memory and the addresses written so far. -/
structure Ram where
  bytes : ℕ → UInt8
  written : List ℕ

namespace Ram

def store (ram : Ram) (address : ℕ) (byte : UInt8) : Ram :=
  { bytes := Function.update ram.bytes address byte
    written := address :: ram.written }

def writeBytes (ram : Ram) (dest : ℕ) : List UInt8 → Ram
  | [] => ram
  | byte :: rest => (ram.store dest byte).writeBytes (dest + 1) rest

def strcpy (ram : Ram) (dest : ℕ) (text : List UInt8) : Ram :=
  ram.writeBytes dest (text ++ [0])

/-- `strncpy`: exactly `count` bytes, padded with NULs if the text is shorter. -/
def strncpy (ram : Ram) (dest : ℕ) (text : List UInt8) (count : ℕ) : Ram :=
  ram.writeBytes dest ((text ++ List.replicate count 0).take count)

def memset (ram : Ram) (dest : ℕ) (byte : UInt8) (count : ℕ) : Ram :=
  ram.writeBytes dest (List.replicate count byte)

end Ram

namespace CString

/-- The text at an address: the bytes before the first NUL, `limit` at most. -/
def textAt (memory : ℕ → UInt8) : ℕ → ℕ → List UInt8
  | 0, _ => []
  | limit + 1, address =>
      if memory address = 0 then [] else memory address :: textAt memory limit (address + 1)

/-- The text and its NUL stand at the address. -/
def Holds (memory : ℕ → UInt8) (address : ℕ) (text : List UInt8) : Prop :=
  ∀ offset ≤ text.length, memory (address + offset) = text.getD offset 0

variable {memory first second : ℕ → UInt8} {address : ℕ} {text : List UInt8}

/-! ## Reading -/

theorem textAt_eq (hholds : Holds memory address text) (hnul : 0 ∉ text) {limit : ℕ}
    (hlimit : text.length < limit) : textAt memory limit address = text := by
  induction text generalizing address limit with
  | nil =>
      obtain ⟨limit, rfl⟩ := Nat.exists_eq_succ_of_ne_zero (Nat.ne_of_gt hlimit)
      have hend : memory address = 0 := hholds 0 (Nat.le_refl 0)
      rw [textAt, if_pos hend]
  | cons byte rest ih =>
      obtain ⟨limit, rfl⟩ := Nat.exists_eq_succ_of_ne_zero (Nat.ne_of_gt (Nat.zero_lt_of_lt hlimit))
      have hhead : memory address = byte := hholds 0 (Nat.zero_le _)
      have hbyte : byte ≠ 0 := by
        intro heq
        exact hnul (heq ▸ List.mem_cons_self ..)
      have htail : Holds memory (address + 1) rest := by
        intro offset hoffset
        have hnext := hholds (offset + 1) (Nat.succ_le_succ hoffset)
        rwa [show address + (offset + 1) = address + 1 + offset by omega,
          List.getD_cons_succ] at hnext
      have hrest := ih htail (fun hmem => hnul (List.mem_cons_of_mem _ hmem))
        (Nat.lt_of_succ_lt_succ hlimit)
      rw [textAt, hhead, if_neg hbyte, hrest]

theorem holds_textAt {limit : ℕ} (hend : (textAt memory limit address).length < limit) :
    Holds memory address (textAt memory limit address) := by
  induction limit generalizing address with
  | zero => exact absurd hend (Nat.not_lt_zero _)
  | succ limit ih =>
      rw [textAt] at hend ⊢
      by_cases hnul : memory address = 0
      · rw [if_pos hnul]
        intro offset hoffset
        obtain rfl : offset = 0 := Nat.le_zero.mp hoffset
        exact hnul
      · rw [if_neg hnul] at hend ⊢
        have htail := ih (Nat.lt_of_succ_lt_succ hend)
        intro offset hoffset
        cases offset with
        | zero => rfl
        | succ offset =>
            rw [List.getD_cons_succ, show address + (offset + 1) = address + 1 + offset by omega]
            exact htail offset (Nat.le_of_succ_le_succ hoffset)

/-- One place holds one text. -/
theorem Holds.unique {other : List UInt8} (hholds : Holds memory address text)
    (hother : Holds memory address other) (hnul : 0 ∉ text) (hnul' : 0 ∉ other) :
    text = other := by
  have hlimit : text.length < text.length + other.length + 1 := by omega
  have hlimit' : other.length < text.length + other.length + 1 := by omega
  calc text
      = textAt memory (text.length + other.length + 1) address :=
        (textAt_eq hholds hnul hlimit).symm
    _ = other := textAt_eq hother hnul' hlimit'

theorem Holds.congr (hholds : Holds first address text)
    (hsame : ∀ place, address ≤ place → place ≤ address + text.length →
      second place = first place) : Holds second address text := by
  intro offset hoffset
  rw [hsame _ (by omega) (by omega), hholds offset hoffset]

/-- The rest of a text stands behind its beginning. -/
theorem Holds.drop (hholds : Holds memory address text) {count : ℕ}
    (hcount : count ≤ text.length) : Holds memory (address + count) (text.drop count) := by
  intro offset hoffset
  rw [List.length_drop] at hoffset
  have hplace := hholds (count + offset) (by omega)
  rw [Nat.add_assoc, hplace]
  simp [List.getD_eq_getElem?_getD]

/-- A text stands where its beginning stands, followed by its rest. -/
theorem Holds.of_drop (count : ℕ)
    (hbegin : ∀ offset < count, memory (address + offset) = text.getD offset 0)
    (hrest : Holds memory (address + count) (text.drop count)) : Holds memory address text := by
  intro offset hoffset
  rcases Nat.lt_or_ge offset count with hbefore | hbehind
  · exact hbegin offset hbefore
  · have hplace := hrest (offset - count) (by rw [List.length_drop]; omega)
    rw [Nat.add_assoc, Nat.add_sub_cancel' hbehind] at hplace
    rw [hplace]
    simp [List.getD_eq_getElem?_getD, Nat.add_sub_cancel' hbehind]

theorem not_mem_drop (hnul : 0 ∉ text) (count : ℕ) : 0 ∉ text.drop count := by
  intro hmem
  exact hnul (List.mem_of_mem_drop hmem)

end CString

/-! ## Writing -/

namespace Ram

open CString (Holds)

variable (ram : Ram) (dest : ℕ)

theorem store_bytes_self (byte : UInt8) : (ram.store dest byte).bytes dest = byte :=
  Function.update_self ..

theorem store_bytes_of_ne {place : ℕ} (hplace : place ≠ dest) (byte : UInt8) :
    (ram.store dest byte).bytes place = ram.bytes place :=
  Function.update_of_ne hplace ..

theorem mem_written_store {place : ℕ} (byte : UInt8) :
    place ∈ (ram.store dest byte).written ↔ place = dest ∨ place ∈ ram.written :=
  List.mem_cons

theorem writeBytes_bytes (bytes : List UInt8) (place : ℕ) :
    (ram.writeBytes dest bytes).bytes place =
      if dest ≤ place ∧ place < dest + bytes.length then bytes.getD (place - dest) 0
      else ram.bytes place := by
  induction bytes generalizing ram dest with
  | nil =>
      have houtside : ¬ (dest ≤ place ∧ place < dest + ([] : List UInt8).length) := by
        rw [List.length_nil]
        omega
      rw [writeBytes, if_neg houtside]
  | cons byte rest ih =>
      rw [writeBytes, ih, List.length_cons]
      rcases Nat.lt_trichotomy place dest with hbefore | rfl | hafter
      · rw [if_neg (by omega), if_neg (by omega)]
        exact ram.store_bytes_of_ne dest (Nat.ne_of_lt hbefore) byte
      · rw [if_neg (by omega), if_pos (by omega), Nat.sub_self]
        exact ram.store_bytes_self place byte
      · by_cases hinside : place < dest + 1 + rest.length
        · rw [if_pos ⟨hafter, hinside⟩, if_pos (by omega),
            show place - dest = place - (dest + 1) + 1 by omega, List.getD_cons_succ]
        · rw [if_neg (by omega), if_neg (by omega)]
          exact ram.store_bytes_of_ne dest (Nat.ne_of_gt hafter) byte

theorem mem_written_writeBytes (bytes : List UInt8) (place : ℕ) :
    place ∈ (ram.writeBytes dest bytes).written ↔
      place ∈ ram.written ∨ dest ≤ place ∧ place < dest + bytes.length := by
  induction bytes generalizing ram dest with
  | nil =>
      have houtside : ¬ (dest ≤ place ∧ place < dest + ([] : List UInt8).length) := by
        rw [List.length_nil]
        omega
      rw [writeBytes, or_iff_left houtside]
  | cons byte rest ih =>
      rw [writeBytes, ih, mem_written_store, List.length_cons]
      constructor
      · rintro ((rfl | hmem) | hinside)
        · exact .inr (by omega)
        · exact .inl hmem
        · exact .inr (by omega)
      · rintro (hmem | hinside)
        · exact .inl (.inr hmem)
        · by_cases hfirst : place = dest
          · exact .inl (.inl hfirst)
          · exact .inr (by omega)

variable (text : List UInt8)

theorem strcpy_bytes (place : ℕ) :
    (ram.strcpy dest text).bytes place =
      if dest ≤ place ∧ place ≤ dest + text.length then text.getD (place - dest) 0
      else ram.bytes place := by
  rw [strcpy, writeBytes_bytes, List.length_append, List.length_singleton]
  by_cases hinside : dest ≤ place ∧ place ≤ dest + text.length
  · rw [if_pos hinside, if_pos (by omega)]
    rcases Nat.lt_or_ge (place - dest) text.length with htext | hend
    · rw [List.getD_append _ _ _ _ htext]
    · rw [List.getD_append_right _ _ _ _ hend, List.getD_eq_default _ _ hend,
        show place - dest - text.length = 0 by omega]
      rfl
  · rw [if_neg hinside, if_neg (by omega)]

theorem mem_written_strcpy (place : ℕ) :
    place ∈ (ram.strcpy dest text).written ↔
      place ∈ ram.written ∨ dest ≤ place ∧ place ≤ dest + text.length := by
  rw [strcpy, mem_written_writeBytes, List.length_append, List.length_singleton,
    show dest + (text.length + 1) = dest + text.length + 1 from rfl, Nat.lt_succ_iff]

theorem strcpy_holds : Holds (ram.strcpy dest text).bytes dest text := by
  intro offset hoffset
  rw [strcpy_bytes, if_pos (by omega), Nat.add_sub_cancel_left]

theorem strcpy_of_outside {place : ℕ}
    (houtside : place < dest ∨ dest + text.length < place) :
    (ram.strcpy dest text).bytes place = ram.bytes place := by
  rw [strcpy_bytes, if_neg (by omega)]

end Ram
