import Mathlib.Tactic.Common
import Mathlib.Data.List.Basic

/-!
# Commands

`Ph5Command` of `ph5command.h`: an identifier, a one-byte type and four signed
32-bit fields.  `Ph5CommandType` is an enumeration with underlying type
`uint8_t`, and a command received as raw bytes can hold any byte there.  The
inductive type therefore has, besides the twenty enumerators, a constructor
`unnamed` for the remaining byte values; it carries the proof that its value is
none of the enumerators', so every byte has exactly one representation
(`toByte_ofByte`, `ofByte_toByte`).

`swap` exchanges the two axes in a command type and in a command.
-/

namespace Ph5Firmware

/-- The values of the enumerators of `Ph5CommandType`. -/
def namedValues : List UInt8 :=
  [1, 2, 3, 4, 5, 6, 7, 8, 9, 32, 33, 34, 48, 64, 65, 66, 250, 251, 254, 255]

/-- `enum Ph5CommandType : uint8_t`. -/
inductive Ph5CommandType where
  | moveX
  | moveY
  | moveXY
  | moveToX
  | moveToY
  | moveToXY
  | speedX
  | speedY
  | speedXY
  | stopX
  | stopY
  | stopXY
  | forceStop
  | setPosX
  | setPosY
  | setPosXY
  | ping
  | pong
  | error
  | unknown
  | unnamed (value : UInt8) (unlisted : value ∉ namedValues)
  deriving DecidableEq

namespace Ph5CommandType

def toByte : Ph5CommandType → UInt8
  | moveX => 1
  | moveY => 2
  | moveXY => 3
  | moveToX => 4
  | moveToY => 5
  | moveToXY => 6
  | speedX => 7
  | speedY => 8
  | speedXY => 9
  | stopX => 32
  | stopY => 33
  | stopXY => 34
  | forceStop => 48
  | setPosX => 64
  | setPosY => 65
  | setPosXY => 66
  | ping => 250
  | pong => 251
  | error => 254
  | unknown => 255
  | unnamed value _ => value

def enumerators : List Ph5CommandType :=
  [moveX, moveY, moveXY, moveToX, moveToY, moveToXY, speedX, speedY, speedXY, stopX, stopY,
    stopXY, forceStop, setPosX, setPosY, setPosXY, ping, pong, error, unknown]

theorem enumerators_map_toByte : enumerators.map toByte = namedValues := rfl

def ofByte (value : UInt8) : Ph5CommandType :=
  match hfind : enumerators.find? fun type => type.toByte == value with
  | some type => type
  | none => unnamed value (by
      rw [← enumerators_map_toByte, List.mem_map]
      rintro ⟨type, hmem, htype⟩
      exact absurd (beq_iff_eq.mpr htype) (List.find?_eq_none.mp hfind type hmem))

@[simp] theorem toByte_ofByte (value : UInt8) : (ofByte value).toByte = value := by
  unfold ofByte
  split
  · next type hfind => simpa using List.find?_some hfind
  · rfl

@[simp] theorem ofByte_toByte (type : Ph5CommandType) : ofByte type.toByte = type := by
  cases type with
  | unnamed value unlisted =>
      unfold ofByte
      split
      · next found hfind =>
          have hvalue : found.toByte = value := by simpa [toByte] using List.find?_some hfind
          have hlisted : found.toByte ∈ namedValues := by
            rw [← enumerators_map_toByte]
            exact List.mem_map_of_mem (List.mem_of_find?_eq_some hfind)
          exact absurd (hvalue ▸ hlisted) unlisted
      · rfl
  | _ => rfl

def swap : Ph5CommandType → Ph5CommandType
  | moveX => moveY
  | moveY => moveX
  | moveToX => moveToY
  | moveToY => moveToX
  | speedX => speedY
  | speedY => speedX
  | stopX => stopY
  | stopY => stopX
  | setPosX => setPosY
  | setPosY => setPosX
  | type => type

@[simp] theorem swap_swap (type : Ph5CommandType) : type.swap.swap = type := by
  cases type <;> rfl

end Ph5CommandType

structure Ph5Command where
  id : UInt32
  type : Ph5CommandType
  posX : Int32
  speedX : Int32
  posY : Int32
  speedY : Int32
  deriving DecidableEq

namespace Ph5Command

/-- `Ph5Command::Ph5Command()`. -/
def fresh : Ph5Command :=
  { id := 0, type := .unknown, posX := 0, speedX := 0, posY := 0, speedY := 0 }

def swap (cmd : Ph5Command) : Ph5Command :=
  { id := cmd.id, type := cmd.type.swap, posX := cmd.posY, speedX := cmd.speedY,
    posY := cmd.posX, speedY := cmd.speedX }

@[simp] theorem swap_swap (cmd : Ph5Command) : cmd.swap.swap = cmd := by
  simp [swap]

end Ph5Command

end Ph5Firmware
