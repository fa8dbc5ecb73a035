import Mathlib.Algebra.Order.Ring.Nat
import Mathlib.Data.List.Basic
import Mathlib.Tactic.Common

/-!
# Little-endian fields in memory

A memory is a function from offsets to bytes.  `load memory offset width` is the
number stored in `width` bytes from `offset`, least significant byte first, and
`store width value` the bytes that hold `value`.  `load_store` is the round trip
inside any surrounding bytes.
-/

namespace ByteMemory

/-- The bytes of a number, least significant first. -/
def store : ℕ → ℕ → List UInt8
  | 0, _ => []
  | width + 1, value => UInt8.ofNat value :: store width (value / 256)

def value : List UInt8 → ℕ
  | [] => 0
  | byte :: rest => byte.toNat + 256 * value rest

/-- The memory that holds `bytes` from offset 0, and zeros after them. -/
def ofBytes (bytes : List UInt8) (offset : ℕ) : UInt8 :=
  bytes.getD offset 0

def bytesAt (memory : ℕ → UInt8) (offset width : ℕ) : List UInt8 :=
  (List.range width).map fun index => memory (offset + index)

def load (memory : ℕ → UInt8) (offset width : ℕ) : ℕ :=
  value (bytesAt memory offset width)

@[simp] theorem length_store (width number : ℕ) : (store width number).length = width := by
  induction width generalizing number with
  | zero => rfl
  | succ width ih => simp [store, ih]

theorem value_store (width number : ℕ) : value (store width number) = number % 256 ^ width := by
  induction width generalizing number with
  | zero => simp [store, value, Nat.mod_one]
  | succ width ih =>
      have hbyte : (UInt8.ofNat number).toNat = number % 256 := UInt8.toNat_ofNat'
      rw [store, value, ih, hbyte, pow_succ', Nat.mod_mul]

@[simp] theorem length_bytesAt (memory : ℕ → UInt8) (offset width : ℕ) :
    (bytesAt memory offset width).length = width := by
  simp [bytesAt]

theorem bytesAt_ofBytes (before bytes after : List UInt8) :
    bytesAt (ofBytes (before ++ bytes ++ after)) before.length bytes.length = bytes := by
  apply List.ext_getElem
  · simp
  · intro index _ hindex
    simp [bytesAt, ofBytes, List.getD_eq_getElem?_getD, List.getElem?_append, hindex]

/-- The bytes after a header, read from a memory that starts with it. -/
theorem eq_of_bytesAt {memory : ℕ → UInt8} {before bytes : List UInt8} {width : ℕ}
    (hbytes : bytesAt memory 0 width = before ++ bytes) {index : ℕ}
    (hindex : index < bytes.length) : memory (before.length + index) = ofBytes bytes index := by
  have hlength : width = before.length + bytes.length := by
    rw [← length_bytesAt memory 0 width, hbytes, List.length_append]
  have helement := congrArg (fun list => list.getD (before.length + index) 0) hbytes
  have hinside : before.length + index < width := by omega
  simpa [bytesAt, ofBytes, List.getD_eq_getElem?_getD, hinside, List.getElem?_append_right]
    using helement

/-- **Round trip.** A stored number is loaded from where it stands. -/
theorem load_store (before after : List UInt8) {width number : ℕ}
    (hnumber : number < 256 ^ width) :
    load (ofBytes (before ++ store width number ++ after)) before.length width = number := by
  have hbytes := bytesAt_ofBytes before (store width number) after
  rw [length_store] at hbytes
  rw [load, hbytes, value_store, Nat.mod_eq_of_lt hnumber]

theorem load_congr {first second : ℕ → UInt8} {offset width : ℕ}
    (hsame : ∀ index < width, first (offset + index) = second (offset + index)) :
    load first offset width = load second offset width := by
  unfold load bytesAt
  congr 1
  exact List.map_congr_left fun index hindex => hsame index (List.mem_range.mp hindex)

end ByteMemory
