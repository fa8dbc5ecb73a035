import Ph5Firmware.Command
import Ph5Firmware.Library.ByteMemory

/-!
# The memory image of a command

On the 32-bit target a `Ph5Command` takes 24 bytes: `id` at 0, `type` at 4,
`posX` at 8, `speedX` at 12, `posY` at 16 and `speedY` at 20, all little-endian;
the bytes at 5 to 7 are padding.  The UDP receiver and the WebSocket handler cast
a byte pointer to `Ph5Command*`; `overlay` is the command such a pointer shows,
and `overlay_image` says that over an image it is the command itself.

`processCommand` first prints `cmd->toString()`, which reads every field, so
`readOffsets` are the bytes of the command it reads (`overlay_congr`).
-/

namespace Ph5Firmware

def sizeofPh5Command : ℕ := 24

namespace Ph5Command

def image (cmd : Ph5Command) (padding : Vector UInt8 3) : List UInt8 :=
  ByteMemory.store 4 cmd.id.toNat ++ ([cmd.type.toByte] ++ padding.toList) ++
    ByteMemory.store 4 cmd.posX.toUInt32.toNat ++ ByteMemory.store 4 cmd.speedX.toUInt32.toNat ++
    ByteMemory.store 4 cmd.posY.toUInt32.toNat ++ ByteMemory.store 4 cmd.speedY.toUInt32.toNat

def uint32At (memory : ℕ → UInt8) (offset : ℕ) : UInt32 :=
  UInt32.ofNat (ByteMemory.load memory offset 4)

def int32At (memory : ℕ → UInt8) (offset : ℕ) : Int32 :=
  Int32.ofUInt32 (uint32At memory offset)

/-- The command shown by a `Ph5Command*` to this memory. -/
def overlay (memory : ℕ → UInt8) : Ph5Command :=
  { id := uint32At memory 0
    type := Ph5CommandType.ofByte (memory 4)
    posX := int32At memory 8
    speedX := int32At memory 12
    posY := int32At memory 16
    speedY := int32At memory 20 }

/-- The offsets of the bytes that make up the fields. -/
def readOffsets : List ℕ :=
  [0, 1, 2, 3, 4, 8, 9, 10, 11, 12, 13, 14, 15, 16, 17, 18, 19, 20, 21, 22, 23]

theorem length_image (cmd : Ph5Command) (padding : Vector UInt8 3) :
    (cmd.image padding).length = sizeofPh5Command := by
  simp [image, sizeofPh5Command]

theorem uint32At_store (before after : List UInt8) (field : UInt32) :
    uint32At (ByteMemory.ofBytes (before ++ ByteMemory.store 4 field.toNat ++ after))
      before.length = field := by
  have hfield : field.toNat < 256 ^ 4 := field.toNat_lt
  rw [uint32At, ByteMemory.load_store before after hfield, UInt32.ofNat_toNat]

theorem int32At_store (before after : List UInt8) (field : Int32) :
    int32At (ByteMemory.ofBytes (before ++ ByteMemory.store 4 field.toUInt32.toNat ++ after))
      before.length = field := by
  rw [int32At, uint32At_store]

/-- **Round trip** of the memory image. -/
theorem overlay_image (cmd : Ph5Command) (padding : Vector UInt8 3) :
    overlay (ByteMemory.ofBytes (cmd.image padding)) = cmd := by
  let id := ByteMemory.store 4 cmd.id.toNat
  let type := [cmd.type.toByte] ++ padding.toList
  let posX := ByteMemory.store 4 cmd.posX.toUInt32.toNat
  let speedX := ByteMemory.store 4 cmd.speedX.toUInt32.toNat
  let posY := ByteMemory.store 4 cmd.posY.toUInt32.toNat
  let speedY := ByteMemory.store 4 cmd.speedY.toUInt32.toNat
  have hid := uint32At_store [] (type ++ posX ++ speedX ++ posY ++ speedY) cmd.id
  have htype : ByteMemory.ofBytes (cmd.image padding) 4 = cmd.type.toByte := by
    simp [ByteMemory.ofBytes, image, ByteMemory.store]
  have hposX := int32At_store (id ++ type) (speedX ++ posY ++ speedY) cmd.posX
  have hspeedX := int32At_store (id ++ type ++ posX) (posY ++ speedY) cmd.speedX
  have hposY := int32At_store (id ++ type ++ posX ++ speedX) speedY cmd.posY
  have hspeedY := int32At_store (id ++ type ++ posX ++ speedX ++ posY) [] cmd.speedY
  have himage : cmd.image padding = id ++ type ++ posX ++ speedX ++ posY ++ speedY := rfl
  simp only [id, type, posX, speedX, posY, speedY, List.append_assoc, List.nil_append,
    List.append_nil, List.length_append, List.length_cons, List.length_nil,
    ByteMemory.length_store, Vector.length_toList, Nat.reduceAdd] at *
  simp only [overlay, htype, Ph5CommandType.ofByte_toByte]
  rw [himage, hid, hposX, hspeedX, hposY, hspeedY]

theorem uint32At_congr {first second : ℕ → UInt8}
    (hsame : ∀ offset ∈ readOffsets, first offset = second offset) {offset : ℕ}
    (hfield : ∀ index < 4, offset + index ∈ readOffsets) :
    uint32At first offset = uint32At second offset := by
  unfold uint32At
  rw [ByteMemory.load_congr fun index hindex => hsame _ (hfield index hindex)]

/-- An overlay reads nothing but the bytes of the fields. -/
theorem overlay_congr {first second : ℕ → UInt8}
    (hsame : ∀ offset ∈ readOffsets, first offset = second offset) :
    overlay first = overlay second := by
  have hword : ∀ offset ∈ [0, 8, 12, 16, 20],
      uint32At first offset = uint32At second offset := by
    intro offset hoffset
    refine uint32At_congr hsame ?_
    revert offset
    decide
  unfold overlay int32At
  rw [hsame 4 (by decide), hword 0 (by decide), hword 8 (by decide), hword 12 (by decide),
    hword 16 (by decide), hword 20 (by decide)]

end Ph5Command

end Ph5Firmware
