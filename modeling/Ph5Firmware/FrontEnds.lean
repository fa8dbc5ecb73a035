import Ph5Firmware.Json.Motion
import Ph5Firmware.Library.Decimal
import Ph5Firmware.Mqtt
import Ph5Firmware.Wire.WebSocket

/-!
# Three ways to ask for a move

A relative move can be typed on the command line, sent as a JSON document over
MQTT, or sent as the bytes of a command over a WebSocket.  Each way has its own
decoder: `cliMoveCallback` reads argument strings, `parse` reads JSON keys and
fills in default speeds, `handleWebSocketMessage` reads memory.

All three arrive at `moveCommand`, and from there on they share the dispatcher
(`front_ends_agree`).
-/

namespace Ph5Firmware

/-- `String::toInt`: what does not fit becomes the nearest 32-bit integer. -/
def toInt (value : List Char) : Int32 :=
  Int32.ofInt (max (-2147483648) (min 2147483647 (Decimal.read value)))

/-- An argument of a command line. -/
structure Argument where
  isSet : Bool
  value : List Char
  deriving DecidableEq

/-- The positional argument a user gives, or leaves at its default. -/
def Argument.ofInput : Option Int32 → Argument
  | some value => { isSet := true, value := Decimal.text value.toInt }
  | none => { isSet := false, value := ['0'] }

variable {Motor : Type*} (driver : FastAccelStepper Motor)

def cliMoveCallback (x y : Argument) (state : State Motor) : State Motor :=
  let jc := Ph5Command.fresh
  if x.isSet && y.isSet then
    let jc := { jc with
      type := .moveXY
      posX := toInt x.value
      speedX := 1000
      posY := toInt y.value
      speedY := 1000 }
    (processCommand driver jc state).1
  else if x.isSet then
    let jc := { jc with type := .moveX, posX := toInt x.value, speedX := 1000 }
    (processCommand driver jc state).1
  else if y.isSet then
    let jc := { jc with type := .moveY, posY := toInt y.value, speedY := 1000 }
    (processCommand driver jc state).1
  else state

/-! ## The command they share -/

/-- The command for displacements of the chosen axes. -/
def moveCommand (x y : Option Int32) : Ph5Command where
  id := 0
  type := Ph5Command.typeForAxes x.isSome y.isSome .moveXY .moveX .moveY
  posX := x.getD 0
  speedX := if x.isSome then 1000 else 0
  posY := y.getD 0
  speedY := if y.isSome then 1000 else 0

/-- A `move` document without speeds and without an identifier. -/
structure MotionDocument.IsBareMove (document : MotionDocument) : Prop where
  word : document.word = .move
  speedX : document.speedX = none
  speedY : document.speedY = none
  nr : document.members.lookup "nr" = none

/-- The event of a whole binary frame that is the image of the command. -/
def moveEvent (x y : Option Int32) (padding : Vector UInt8 3) : DataEvent where
  info := { final := true, opcode := wsBinary, len := sizeofPh5Command, index := 0 }
  data := (moveCommand x y).image padding

theorem toInt_text (value : Int32) : toInt (Decimal.text value.toInt) = value := by
  have hlow : -2147483648 ≤ value.toInt := value.minValue_le_toInt
  have hhigh : value.toInt ≤ 2147483647 := value.toInt_le
  have hclamped : max (-2147483648) (min 2147483647 value.toInt) = value.toInt := by omega
  rw [toInt, Decimal.read_text, hclamped, Int32.ofInt_toInt]

theorem cliMoveCallback_ofInput {x y : Option Int32}
    (hchosen : x.isSome = true ∨ y.isSome = true) (state : State Motor) :
    cliMoveCallback driver (.ofInput x) (.ofInput y) state =
      (processCommand driver (moveCommand x y) state).1 := by
  unfold cliMoveCallback moveCommand
  cases x with
  | some steps =>
      cases y with
      | some steps' =>
          simp [Argument.ofInput, toInt_text, Ph5Command.typeForAxes, Ph5Command.fresh]
      | none => simp [Argument.ofInput, toInt_text, Ph5Command.typeForAxes, Ph5Command.fresh]
  | none =>
      cases y with
      | some steps => simp [Argument.ofInput, toInt_text, Ph5Command.typeForAxes, Ph5Command.fresh]
      | none => simp at hchosen

theorem command_of_isBareMove (json : ArduinoJson) {document : MotionDocument}
    (hbare : document.IsBareMove) :
    document.command json = moveCommand document.x document.y := by
  have hid : document.doc.nr json = 0 := by
    have hnull : (document.doc.get "nr").isNull = true := by
      simp [MotionDocument.doc, JsonVariant.get, hbare.nr, JsonVariant.isNull]
    exact if_pos hnull
  unfold MotionDocument.command
  rw [fresh_set_eq, hid]
  unfold MotionWord.command moveCommand
  rw [hbare.word, hbare.speedX, hbare.speedY]
  cases document.x <;> cases document.y <;> rfl

theorem webSocketCommand_moveEvent (x y : Option Int32) (padding : Vector UInt8 3) :
    webSocketCommand (moveEvent x y padding) = some (moveCommand x y) := by
  have hlength := (moveCommand x y).length_image padding
  unfold webSocketCommand moveEvent
  simp only [hlength, Ph5Command.overlay_image]
  rfl

/-- **The front ends agree.** The command line, a bare `move` document and the image of
the command leave the same state, for every choice of axes, all displacements and
every state. -/
theorem front_ends_agree (json : ArduinoJson) {document : MotionDocument}
    (hbare : document.IsBareMove)
    (hchosen : document.x.isSome = true ∨ document.y.isSome = true) {payload : List UInt8}
    (hread : json.deserializeJson (Text.upTo 0 payload) = .ok document.doc) (length : ℕ)
    (padding : Vector UInt8 3) (state : State Motor) :
    cliMoveCallback driver (.ofInput document.x) (.ofInput document.y) state =
        (mqttCallback driver json payload length state).state ∧
      (mqttCallback driver json payload length state).state =
        handleWebSocketMessage driver (moveEvent document.x document.y padding) state := by
  have hcli := cliMoveCallback_ofInput driver hchosen state
  have hmqtt : (mqttCallback driver json payload length state).state =
      (processCommand driver (moveCommand document.x document.y) state).1 := by
    rw [← command_of_isBareMove json hbare]
    simp only [mqttCallback, JsonCommandParser.parse, hread]
    rfl
  have hsocket : handleWebSocketMessage driver (moveEvent document.x document.y padding) state =
      (processCommand driver (moveCommand document.x document.y) state).1 := by
    rw [handleWebSocketMessage, webSocketCommand_moveEvent]
  rw [hcli, hmqtt, hsocket]
  exact ⟨rfl, rfl⟩

def bareMoveDocument : MotionDocument where
  members := [("cmd", .string "move"), ("x", .integer 5), ("y", .integer (-7))]
  word := .move
  cmd := "move"
  x := some 5
  y := some (-7)
  speedX := none
  speedY := none
  holds_cmd := rfl
  cmd_eq := by decide
  holds_x := ⟨_, rfl, .inl rfl⟩
  holds_y := ⟨_, rfl, .inl rfl⟩
  holds_speedX := rfl
  holds_speedY := rfl

def bareMoveText : List UInt8 := asciiBytes "\x7b\"cmd\":\"move\",\"x\":5,\"y\":-7\x7d"

theorem bareMove_agrees :
    let json := benchJson bareMoveText bareMoveDocument.doc
    let state := benchState 1 2
    let mqtt := (mqttCallback benchDriver json bareMoveText bareMoveText.length state).state
    cliMoveCallback benchDriver (.ofInput (some 5)) (.ofInput (some (-7))) state = mqtt ∧
      mqtt = handleWebSocketMessage benchDriver
        (moveEvent (some 5) (some (-7)) (Vector.replicate 3 0)) state :=
  front_ends_agree benchDriver (benchJson bareMoveText bareMoveDocument.doc)
    ⟨rfl, rfl, rfl, rfl⟩ (.inl rfl) (by
      have hnul : 0 ∉ bareMoveText := by decide
      rw [Text.upTo_eq_self hnul]
      exact benchJson_deserializeJson _ _) bareMoveText.length (Vector.replicate 3 0)
    (benchState 1 2)

end Ph5Firmware
