import Ph5Firmware.Library.ByteMemory

/-!
# Bytes on a network

`bigEndian` reads a number in network byte order; the bytes of a number in that
order are those of `ByteMemory.store`, reversed (`bigEndian_reverse_store`).

`masked key offset bytes` is `bytes` under a key stream, the first byte at place
`offset` of the stream.  Masking is its own inverse (`masked_masked`), and a piece of
a masked text is the masked piece, with the offset moved on (`take_masked`,
`drop_masked`).
-/

namespace NetworkBytes

/-- The number these bytes write, most significant first. -/
def bigEndian (bytes : List UInt8) : ℕ :=
  bytes.foldl (fun number byte => number <<< 8 ||| byte.toNat) 0

/-- The bytes under a key stream, from its place `offset` on. -/
def masked (key : ℕ → UInt8) : ℕ → List UInt8 → List UInt8
  | _, [] => []
  | offset, byte :: rest => (byte ^^^ key offset) :: masked key (offset + 1) rest

theorem shiftLeft_or_byte (number : ℕ) (byte : UInt8) :
    number <<< 8 ||| byte.toNat = byte.toNat + 256 * number := by
  have hbyte : byte.toNat < 2 ^ 8 := byte.toNat_lt
  rw [← Nat.shiftLeft_add_eq_or_of_lt hbyte, Nat.shiftLeft_eq]
  omega

theorem bigEndian_reverse (bytes : List UInt8) :
    bigEndian bytes.reverse = ByteMemory.value bytes := by
  induction bytes with
  | nil => rfl
  | cons byte rest ih =>
      rw [bigEndian, List.foldl_reverse] at ih ⊢
      rw [List.foldr_cons, ih, shiftLeft_or_byte]
      rfl

/-- **Round trip** in network byte order. -/
theorem bigEndian_reverse_store {width number : ℕ} (hnumber : number < 256 ^ width) :
    bigEndian (ByteMemory.store width number).reverse = number := by
  rw [bigEndian_reverse, ByteMemory.value_store, Nat.mod_eq_of_lt hnumber]

@[simp] theorem length_masked (key : ℕ → UInt8) (offset : ℕ) (bytes : List UInt8) :
    (masked key offset bytes).length = bytes.length := by
  induction bytes generalizing offset with
  | nil => rfl
  | cons byte rest ih => simp [masked, ih]

/-- Masking twice with one key gives the text back. -/
theorem masked_masked (key : ℕ → UInt8) (offset : ℕ) (bytes : List UInt8) :
    masked key offset (masked key offset bytes) = bytes := by
  induction bytes generalizing offset with
  | nil => rfl
  | cons byte rest ih =>
      rw [masked, masked, ih, UInt8.xor_assoc, UInt8.xor_self, UInt8.xor_zero]

theorem take_masked (key : ℕ → UInt8) (offset count : ℕ) (bytes : List UInt8) :
    (masked key offset bytes).take count = masked key offset (bytes.take count) := by
  induction bytes generalizing offset count with
  | nil => simp [masked]
  | cons byte rest ih =>
      cases count with
      | zero => rfl
      | succ count => rw [masked, List.take_succ_cons, ih, List.take_succ_cons, masked]

theorem drop_masked (key : ℕ → UInt8) (offset count : ℕ) (bytes : List UInt8) :
    (masked key offset bytes).drop count = masked key (offset + count) (bytes.drop count) := by
  induction bytes generalizing offset count with
  | nil => simp [masked]
  | cons byte rest ih =>
      cases count with
      | zero => rfl
      | succ count =>
          rw [masked, List.drop_succ_cons, ih, List.drop_succ_cons]
          congr 1
          omega

end NetworkBytes
