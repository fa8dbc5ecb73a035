import Mathlib.Data.List.TakeWhile
import Ph5Firmware.Bench
import Ph5Firmware.Dispatch
import Ph5Firmware.Json
import Ph5Firmware.Library.SignedWord

/-!
# From a JSON document to the calls of the steppers

A `MotionDocument` is an object whose `cmd` is one of the four words that set an
axis in motion or place it, and whose coordinates and speeds, as far as present,
are 32-bit integers.  `expectedCalls` says what such a document asks of an axis,
from that axis' own keys; `DrivenBy` says that an axis got these calls and no
others.

What `set` makes of any document at all is read off its fields
(`fresh_set_of_word`, `fresh_set_of_no_word`).  The command that `parse` makes of a
motion document gives each axis the order `ownOrder` derives from its keys, with two
exceptions (`orderY_command`): if only `y` is to `move`, the Y axis is moved by the
X field, which is 0, and if both are to `moveto`, the Y axis is sent to `x`.
-/

namespace Ph5Firmware

inductive MotionWord where
  | move
  | moveTo
  | setPos
  | speed
  deriving DecidableEq

def MotionWord.text : MotionWord → String
  | move => "move"
  | moveTo => "moveto"
  | setPos => "setpos"
  | speed => "speed"

/-- A number equal to a 32-bit integer. -/
def JsonVariant.HoldsInt32 (variant : JsonVariant) (value : Int32) : Prop :=
  variant = .integer value.toInt ∨ variant = .float (value.toInt : Rat)

/-- The members have no such key, or the key holds a 32-bit integer. -/
def HoldsKey (members : List (String × JsonVariant)) (key : String) : Option Int32 → Prop
  | none => members.lookup key = none
  | some value => ∃ variant, members.lookup key = some variant ∧ variant.HoldsInt32 value

/-- An object with a motion word and 32-bit coordinates and speeds. -/
structure MotionDocument where
  members : List (String × JsonVariant)
  word : MotionWord
  /-- `cmd`, in any letter case. -/
  cmd : String
  x : Option Int32
  y : Option Int32
  speedX : Option Int32
  speedY : Option Int32
  holds_cmd : members.lookup "cmd" = some (.string cmd)
  cmd_eq : cmd.toList.map Char.toLower = word.text.toList
  holds_x : HoldsKey members "x" x
  holds_y : HoldsKey members "y" y
  holds_speedX : HoldsKey members "speedX" speedX
  holds_speedY : HoldsKey members "speedY" speedY

def MotionDocument.doc (document : MotionDocument) : JsonVariant :=
  .object document.members

/-! ## What a document asks for -/

/-- The speed requested for `move` and `moveto`: 1000 if absent or 0. -/
def requestedSpeed : Option Int32 → Int32
  | none => 1000
  | some value => if value = 0 then 1000 else value

def magnitude (speed : Int32) : UInt32 :=
  UInt32.ofNat speed.toInt.natAbs

section Calls

variable {Motor : Type*} (driver : FastAccelStepper Motor)

/-- The calls an axis should get from the value of its coordinate and of its speed. -/
def expectedCalls (word : MotionWord) (position speed : Option Int32) (motor : Motor) :
    List StepperCall :=
  match word, position, speed with
  | .move, some steps, speed =>
      Axis.callsAtRate driver motor (requestedSpeed speed).toUInt32 (.move steps)
  | .moveTo, some target, speed =>
      Axis.callsAtRate driver motor (requestedSpeed speed).toUInt32 (.moveTo target)
  | .setPos, some target, _ =>
      if driver.isRunning motor then [] else [.setCurrentPosition target]
  | .speed, _, some value =>
      Axis.callsAtRate driver motor (magnitude value)
        (if 0 < value then .runForward else .runBackward)
  | _, _, _ => []

/-- The key without which an axis is left alone. -/
def decidingKey (word : MotionWord) (position speed : Option Int32) : Option Int32 :=
  match word with
  | .speed => speed
  | _ => position

/-- An axis with a stepper got exactly the calls its own keys ask for; without its
deciding key it also kept its run flag. -/
def DrivenBy (word : MotionWord) (position speed : Option Int32) (before after : Axis Motor) :
    Prop :=
  ∃ stepper, before.stepper = some stepper ∧
    after.calls = stepper.calls ++ expectedCalls driver word position speed stepper.motor ∧
    (decidingKey word position speed = none → after.isRunning = before.isRunning)

end Calls

/-! ## Reading a document -/

section Reading

variable (json : ArduinoJson)

theorem truncateIn_intCast {low high value : Int} (hlow : low ≤ value) (hhigh : value ≤ high) :
    JsonVariant.truncateIn low high (value : Rat) = value := by
  have hrange : (low : Rat) ≤ value ∧ (value : Rat) ≤ high :=
    ⟨by exact_mod_cast hlow, by exact_mod_cast hhigh⟩
  unfold JsonVariant.truncateIn
  rw [if_pos hrange, Rat.floor_intCast, Rat.ceil_intCast, ite_self]

theorem asInt32_of_holdsInt32 {variant : JsonVariant} {value : Int32}
    (hholds : variant.HoldsInt32 value) : variant.asInt32 json = value := by
  have hlow : -2147483648 ≤ value.toInt := value.minValue_le_toInt
  have hhigh : value.toInt ≤ 2147483647 := value.toInt_le
  have hinteger : variant.toIntegerIn json (-2147483648) 2147483647 = value.toInt := by
    rcases hholds with rfl | rfl
    · simp [JsonVariant.toIntegerIn, hlow, hhigh]
    · exact truncateIn_intCast hlow hhigh
  unfold JsonVariant.asInt32
  rw [hinteger, Int32.ofInt_toInt]

theorem isNull_of_holdsInt32 {variant : JsonVariant} {value : Int32}
    (hholds : variant.HoldsInt32 value) : variant.isNull = false := by
  rcases hholds with rfl | rfl <;> rfl

theorem isNull_get {members : List (String × JsonVariant)} {key : String} {value : Option Int32}
    (hholds : HoldsKey members key value) :
    ((JsonVariant.object members).get key).isNull = value.isNone := by
  cases value with
  | none =>
      have hlookup : members.lookup key = none := hholds
      simp [JsonVariant.get, hlookup, JsonVariant.isNull]
  | some value =>
      obtain ⟨variant, hlookup, hvalue⟩ := hholds
      simp [JsonVariant.get, hlookup, isNull_of_holdsInt32 hvalue]

theorem lowerWord_of_lower {cmd word : String} (hnul : '\x00' ∉ word.toList)
    (hcmd : cmd.toList.map Char.toLower = word.toList) :
    (JsonVariant.string cmd).lowerWord = word.toList := by
  -- no letter of the word is the lower case of NUL, so the text does not end early
  have hwhole : ∀ character ∈ cmd.toList, (character != '\x00') = true := by
    intro character hmem
    have hlower : character.toLower ∈ word.toList := hcmd ▸ List.mem_map_of_mem hmem
    rw [bne_iff_ne]
    rintro rfl
    exact hnul hlower
  show (cmd.toList.takeWhile (· != '\x00')).map Char.toLower = _
  rw [List.takeWhile_eq_self_iff.mpr hwhole, hcmd]

theorem lowerWord_string {cmd : String} {word : MotionWord}
    (hcmd : cmd.toList.map Char.toLower = word.text.toList) :
    (JsonVariant.string cmd).lowerWord = word.text.toList := by
  refine lowerWord_of_lower ?_ hcmd
  cases word <;> decide

end Reading

/-! ## Any document with a motion word -/

section AnyDocument

variable (json : ArduinoJson) (doc : JsonVariant)

/-- What the firmware makes of a key, if it finds it present. -/
def JsonVariant.field (key : String) : Option Int32 :=
  if (doc.get key).isNull then none else some ((doc.get key).asInt32 json)

/-- The identifier `set` reads. -/
def JsonVariant.nr : UInt32 :=
  if (doc.get "nr").isNull then 0 else (doc.get "nr").asUInt32 json

theorem JsonVariant.isSome_field (key : String) :
    (doc.field json key).isSome = !(doc.get key).isNull := by
  unfold JsonVariant.field
  cases (doc.get key).isNull <;> rfl

theorem JsonVariant.field_eq_some {key : String} {value : Int32}
    (hfield : doc.field json key = some value) :
    (doc.get key).isNull = false ∧ value = (doc.get key).asInt32 json := by
  unfold JsonVariant.field at hfield
  cases hnull : (doc.get key).isNull with
  | true => simp [hnull] at hfield
  | false =>
      rw [hnull] at hfield
      exact ⟨rfl, (Option.some.inj hfield).symm⟩

theorem readField_zero (key : String) :
    Ph5Command.readField json doc key 0 = (doc.field json key).getD 0 := by
  unfold Ph5Command.readField JsonVariant.field
  cases (doc.get key).isNull <;> rfl

/-- The command `set` makes of the fields of a document with this word. -/
def MotionWord.command (word : MotionWord) (id : UInt32) (x y speedX speedY : Option Int32) :
    Ph5Command :=
  let typeFor := Ph5Command.typeForAxes x.isSome y.isSome
  match word with
  | .move =>
      ⟨id, typeFor .moveXY .moveX .moveY, x.getD 0, speedX.getD 0, y.getD 0, speedY.getD 0⟩
  | .moveTo =>
      ⟨id, typeFor .moveToXY .moveToX .moveToY, x.getD 0, speedX.getD 0, y.getD 0, speedY.getD 0⟩
  | .setPos => ⟨id, typeFor .setPosXY .setPosX .setPosY, x.getD 0, 0, y.getD 0, 0⟩
  | .speed =>
      ⟨id, Ph5Command.typeForAxes speedX.isSome speedY.isSome .speedXY .speedX .speedY, 0,
        speedX.getD 0, 0, speedY.getD 0⟩

theorem fresh_set_of_word {word : MotionWord}
    (hword : (doc.get "cmd").lowerWord = word.text.toList) :
    Ph5Command.fresh.set json doc =
      word.command (doc.nr json) (doc.field json "x") (doc.field json "y")
        (doc.field json "speedX") (doc.field json "speedY") := by
  have hnull : (doc.get "cmd").isNull = false := by
    cases hcmd : doc.get "cmd" with
    | null =>
        rw [hcmd] at hword
        cases word <;> exact absurd hword (by decide)
    | _ => rfl
  unfold Ph5Command.set MotionWord.command
  simp only [hnull, hword]
  cases word <;>
    simp [MotionWord.text, Ph5Command.setMoveXY, Ph5Command.setMoveToXY, Ph5Command.setPos,
      Ph5Command.setSpeedXY, JsonVariant.isSome_field, JsonVariant.nr, readField_zero,
      Ph5Command.fresh]

/-- The type `set` gives a document without a motion word. -/
def JsonVariant.plainType : Ph5CommandType :=
  if (doc.get "cmd").lowerWord = "stop".toList then .stopXY
  else if (doc.get "cmd").lowerWord = "forcestop".toList then .forceStop
  else .unknown

theorem fresh_set_of_no_word
    (hword : ∀ word : MotionWord, (doc.get "cmd").lowerWord ≠ word.text.toList) :
    Ph5Command.fresh.set json doc =
      { Ph5Command.fresh with id := doc.nr json, type := doc.plainType } := by
  have hmove : (doc.get "cmd").lowerWord ≠ "move".toList := hword .move
  have hspeed : (doc.get "cmd").lowerWord ≠ "speed".toList := hword .speed
  have hmoveTo : (doc.get "cmd").lowerWord ≠ "moveto".toList := hword .moveTo
  have hsetPos : (doc.get "cmd").lowerWord ≠ "setpos".toList := hword .setPos
  unfold Ph5Command.set JsonVariant.plainType
  simp only [if_neg hmove, if_neg hspeed, if_neg hmoveTo, if_neg hsetPos]
  by_cases hnull : (doc.get "cmd").isNull = true
  · have hempty : (doc.get "cmd").lowerWord = [] := by
      cases hcmd : doc.get "cmd" with
      | null => rfl
      | _ => exact absurd hnull (by rw [hcmd]; exact Bool.false_ne_true)
    rw [if_pos hnull, hempty]
    rfl
  · rw [if_neg hnull]
    by_cases hstop : (doc.get "cmd").lowerWord = "stop".toList
    · rw [if_pos hstop, if_pos hstop]
      rfl
    · rw [if_neg hstop, if_neg hstop]
      by_cases hforce : (doc.get "cmd").lowerWord = "forcestop".toList
      · rw [if_pos hforce, if_pos hforce]
        rfl
      · rw [if_neg hforce, if_neg hforce]
        rfl

theorem field_eq {members : List (String × JsonVariant)} {key : String} {value : Option Int32}
    (hholds : HoldsKey members key value) :
    (JsonVariant.object members).field json key = value := by
  unfold JsonVariant.field
  rw [isNull_get hholds]
  cases value with
  | none => rfl
  | some value =>
      obtain ⟨variant, hlookup, hvalue⟩ := hholds
      simp [JsonVariant.get, hlookup, asInt32_of_holdsInt32 json hvalue]

end AnyDocument

/-! ## The orders a document leads to -/

def ownOrder (word : MotionWord) (position speed : Option Int32) : AxisOrder :=
  match word, position, speed with
  | .move, some steps, speed => .move (requestedSpeed speed) steps
  | .moveTo, some target, speed => .moveTo (requestedSpeed speed) target
  | .setPos, some target, _ => .setPos target
  | .speed, _, some value => .speed value
  | _, _, _ => .keep

/-- The coordinate the Y axis is sent to instead of its own. -/
def MotionWord.crossing (word : MotionWord) (x y : Option Int32) : Option Int32 :=
  match word, x, y with
  | .move, none, some _ => some 0
  | .moveTo, some x, some _ => some x
  | _, _, _ => none

theorem requestedSpeed_eq (speed : Option Int32) :
    requestedSpeed speed = if speed.getD 0 == 0 then 1000 else speed.getD 0 := by
  cases speed with
  | none => rfl
  | some value => simp [requestedSpeed]

section Words

variable (word : MotionWord) (id : UInt32) (x y speedX speedY : Option Int32)

theorem orderX_command_of_word :
    (jsonCommandParser.fillDefaults (word.command id x y speedX speedY)).orderX =
      ownOrder word x speedX := by
  unfold MotionWord.command
  cases word with
  | move | moveTo =>
      cases x <;> cases y <;>
        simp [Ph5Command.typeForAxes, JsonCommandParser.fillDefaults, JsonCommandParser.fillSpeed,
          JsonCommandParser.movesX, jsonCommandParser, Ph5Command.orderX, ownOrder,
          requestedSpeed_eq]
  | setPos =>
      cases x <;> cases y <;>
        simp [Ph5Command.typeForAxes, JsonCommandParser.fillDefaults, Ph5Command.orderX, ownOrder]
  | speed =>
      cases speedX <;> cases speedY <;>
        simp [Ph5Command.typeForAxes, JsonCommandParser.fillDefaults, JsonCommandParser.fillSpeed,
          JsonCommandParser.movesX, Ph5Command.orderX, ownOrder]

theorem orderY_command_of_word :
    (jsonCommandParser.fillDefaults (word.command id x y speedX speedY)).orderY =
      ownOrder word ((word.crossing x y).orElse fun _ => y) speedY := by
  unfold MotionWord.command MotionWord.crossing
  cases word with
  | move | moveTo =>
      cases x <;> cases y <;>
        simp [Ph5Command.typeForAxes, JsonCommandParser.fillDefaults, JsonCommandParser.fillSpeed,
          JsonCommandParser.movesY, jsonCommandParser, Ph5Command.orderY, ownOrder,
          requestedSpeed_eq]
  | setPos =>
      cases x <;> cases y <;>
        simp [Ph5Command.typeForAxes, JsonCommandParser.fillDefaults, Ph5Command.orderY, ownOrder]
  | speed =>
      cases speedX <;> cases speedY <;>
        simp [Ph5Command.typeForAxes, JsonCommandParser.fillDefaults, JsonCommandParser.fillSpeed,
          JsonCommandParser.movesY, Ph5Command.orderY, ownOrder]

end Words

section Orders

variable (json : ArduinoJson) (document : MotionDocument)

def MotionDocument.command : Ph5Command :=
  jsonCommandParser.fillDefaults (Ph5Command.fresh.set json document.doc)

theorem MotionDocument.lowerWord_eq :
    (document.doc.get "cmd").lowerWord = document.word.text.toList := by
  have hget : (document.doc.get "cmd") = .string document.cmd := by
    simp [MotionDocument.doc, JsonVariant.get, document.holds_cmd]
  rw [hget]
  exact lowerWord_string document.cmd_eq

theorem fresh_set_eq :
    Ph5Command.fresh.set json document.doc =
      document.word.command (document.doc.nr json) document.x document.y document.speedX
        document.speedY := by
  rw [fresh_set_of_word json document.doc document.lowerWord_eq, MotionDocument.doc,
    field_eq json document.holds_x, field_eq json document.holds_y,
    field_eq json document.holds_speedX, field_eq json document.holds_speedY]

theorem orderX_command :
    (document.command json).orderX = ownOrder document.word document.x document.speedX := by
  rw [MotionDocument.command, fresh_set_eq, orderX_command_of_word]

theorem orderY_command :
    (document.command json).orderY =
      ownOrder document.word
        ((document.word.crossing document.x document.y).orElse fun _ => document.y)
        document.speedY := by
  rw [MotionDocument.command, fresh_set_eq, orderY_command_of_word]

end Orders

/-! ## From orders to calls -/

section Driven

variable {Motor : Type*} {driver : FastAccelStepper Motor}
variable (word : MotionWord) (position speed : Option Int32)

theorem ownOrder_calls (motor : Motor) :
    (ownOrder word position speed).calls driver motor =
      expectedCalls driver word position speed motor := by
  unfold ownOrder expectedCalls
  cases word with
  | move | moveTo | setPos => cases position <;> rfl
  | speed =>
      cases speed with
      | none => rfl
      | some value =>
          by_cases hpos : 0 < value
          · simp [AxisOrder.calls, Axis.speedMagnitude, magnitude, hpos,
              SignedWord.toUInt32_of_pos hpos]
          · simp [AxisOrder.calls, Axis.speedMagnitude, magnitude, hpos,
              SignedWord.toUInt32_neg_of_not_pos hpos]

theorem ownOrder_eq_keep (habsent : decidingKey word position speed = none) :
    ownOrder word position speed = .keep := by
  unfold decidingKey at habsent
  unfold ownOrder
  cases word with
  | move | moveTo | setPos | speed => cases position <;> cases speed <;> simp_all

theorem drivenBy_ownOrder {axis : Axis Motor} (hconnected : axis.stepper.isSome = true) :
    DrivenBy driver word position speed axis
      ((ownOrder word position speed).run driver axis).1 := by
  obtain ⟨stepper, hstepper⟩ := Option.isSome_iff_exists.mp hconnected
  refine ⟨stepper, hstepper, ?_, ?_⟩
  · rw [AxisOrder.run_calls driver _ hstepper, ownOrder_calls]
  · intro habsent
    rw [ownOrder_eq_keep word position speed habsent, AxisOrder.run_keep]

/-- With a wrong target in place of the right one, the axis still gets the right
calls only if the rate is rejected or the two targets agree. -/
theorem drivenBy_wrong_iff {axis : Axis Motor} (hconnected : axis.stepper.isSome = true)
    (hword : word = .move ∨ word = .moveTo) (wrong right : Int32) :
    DrivenBy driver word (some right) speed axis
        ((ownOrder word (some wrong) speed).run driver axis).1 ↔
      (axis.accepts driver (requestedSpeed speed) = true → wrong = right) := by
  obtain ⟨stepper, hstepper⟩ := Option.isSome_iff_exists.mp hconnected
  have hpresent : decidingKey word (some right) speed ≠ none := by
    rcases hword with rfl | rfl <;> simp [decidingKey]
  have haccepts : axis.accepts driver (requestedSpeed speed) =
      driver.accepts stepper.motor (requestedSpeed speed).toUInt32 := by
    simp [Axis.accepts, hstepper]
  have hdriven : DrivenBy driver word (some right) speed axis
        ((ownOrder word (some wrong) speed).run driver axis).1 ↔
      expectedCalls driver word (some wrong) speed stepper.motor =
        expectedCalls driver word (some right) speed stepper.motor := by
    unfold DrivenBy
    simp only [hstepper, Option.some.injEq, exists_eq_left', AxisOrder.run_calls driver _ hstepper,
      ownOrder_calls, List.append_cancel_left_eq, hpresent, false_implies, and_true]
  rw [hdriven, haccepts]
  by_cases hrate : driver.accepts stepper.motor (requestedSpeed speed).toUInt32 = true <;>
    rcases hword with rfl | rfl <;> simp [expectedCalls, Axis.callsAtRate, hrate]

end Driven

/-! ## The whole path -/

/-- The Y stepper is not sent to the coordinate of another key. -/
def CrossingHarmless {Motor : Type*} (driver : FastAccelStepper Motor) (document : MotionDocument)
    (axisY : Axis Motor) : Prop :=
  ∀ wrong right, document.word.crossing document.x document.y = some wrong →
    document.y = some right →
      axisY.accepts driver (requestedSpeed document.speedY) = true → wrong = right

section Path

variable {Motor : Type*}

theorem drivenBy_orderY_iff (driver : FastAccelStepper Motor) (json : ArduinoJson)
    (document : MotionDocument) {axis : Axis Motor}
    (hconnected : axis.stepper.isSome = true) :
    DrivenBy driver document.word document.y document.speedY axis
        (((document.command json).orderY).run driver axis).1 ↔
      CrossingHarmless driver document axis := by
  rw [orderY_command]
  unfold CrossingHarmless
  cases hcrossing : document.word.crossing document.x document.y with
  | none =>
      refine iff_of_true ?_ (by simp)
      exact drivenBy_ownOrder document.word document.y document.speedY hconnected
  | some wrong =>
      have hcrossed : (document.word = .move ∨ document.word = .moveTo) ∧
          ∃ right, document.y = some right := by
        unfold MotionWord.crossing at hcrossing
        split at hcrossing <;> simp_all
      obtain ⟨hword, right, hright⟩ := hcrossed
      rw [hright]
      show DrivenBy driver _ _ _ _ ((ownOrder document.word (some wrong) _).run driver axis).1 ↔ _
      rw [drivenBy_wrong_iff document.word document.speedY hconnected hword wrong right]
      simp

/-- **From JSON to calls.** Parsing a motion document and processing the command
drives each axis by its own keys exactly when the Y stepper does not take another
key's coordinate. -/
theorem processCommand_parse_iff (driver : FastAccelStepper Motor) (json : ArduinoJson)
    (text : List UInt8) (document : MotionDocument)
    (htext : json.deserializeJson text = .ok document.doc)
    (state : State Motor) (hX : state.axisX.stepper.isSome = true)
    (hY : state.axisY.stepper.isSome = true) :
    let cmd := (jsonCommandParser.parse json text Ph5Command.fresh).2
    let after := (processCommand driver cmd state).1
    (DrivenBy driver document.word document.x document.speedX state.axisX after.axisX ∧
        DrivenBy driver document.word document.y document.speedY state.axisY after.axisY) ↔
      CrossingHarmless driver document state.axisY := by
  intro cmd after
  have hcmd : cmd = document.command json := by
    simp [cmd, JsonCommandParser.parse, htext, MotionDocument.command]
  have hafter : after = state.dispatch driver cmd.orderX cmd.orderY cmd.alwaysForces :=
    processCommand_eq_dispatch driver cmd state
  have hdrivenX : DrivenBy driver document.word document.x document.speedX state.axisX
      after.axisX := by
    rw [hafter, hcmd, orderX_command]
    exact drivenBy_ownOrder document.word document.x document.speedX hX
  have hdrivenY := drivenBy_orderY_iff driver json document hY
  rw [hafter, hcmd] at *
  constructor
  · intro hdriven
    exact hdrivenY.mp hdriven.2
  · intro hharmless
    exact ⟨hdrivenX, hdrivenY.mpr hharmless⟩

def moveYDocument : MotionDocument where
  members := [("cmd", .string "Move"), ("y", .integer 5)]
  word := .move
  cmd := "Move"
  x := none
  y := some 5
  speedX := none
  speedY := none
  holds_cmd := rfl
  cmd_eq := by decide
  holds_x := rfl
  holds_y := ⟨_, rfl, .inl rfl⟩
  holds_speedX := rfl
  holds_speedY := rfl

/-- Both coordinates, for `moveto`, with one speed. -/
def moveToDocument (x y : Int32) : MotionDocument where
  members := [("cmd", .string "MOVETO"), ("y", .integer y.toInt), ("x", .integer x.toInt),
    ("speedX", .integer 400)]
  word := .moveTo
  cmd := "MOVETO"
  x := some x
  y := some y
  speedX := some 400
  speedY := none
  holds_cmd := rfl
  cmd_eq := by decide
  holds_x := ⟨_, rfl, .inl rfl⟩
  holds_y := ⟨_, rfl, .inl rfl⟩
  holds_speedX := ⟨_, rfl, .inl rfl⟩
  holds_speedY := rfl

def moveYText : List UInt8 := asciiBytes "\x7b\"cmd\":\"Move\",\"y\":5\x7d"

/-- `y = 5` moves the Y stepper by 0. -/
theorem moveY_not_driven_by_y :
    let json := benchJson moveYText moveYDocument.doc
    let cmd := (jsonCommandParser.parse json moveYText Ph5Command.fresh).2
    let after := (processCommand benchDriver cmd (benchState 0 0)).1
    json.deserializeJson moveYText = .ok moveYDocument.doc ∧
      ¬ DrivenBy benchDriver moveYDocument.word moveYDocument.y moveYDocument.speedY
        (benchState 0 0).axisY after.axisY := by
  refine ⟨benchJson_deserializeJson _ _, ?_⟩
  rintro ⟨stepper, hstepper, hcalls, -⟩
  obtain rfl : { motor := .atRest 0, calls := [] } = stepper := Option.some.inj hstepper
  revert hcalls
  decide

def moveToText : List UInt8 :=
  asciiBytes "\x7b\"cmd\":\"MOVETO\",\"y\":6,\"x\":6,\"speedX\":400\x7d"

/-- Equal coordinates hide the crossing. -/
theorem moveTo_driven_by_own_keys :
    let json := benchJson moveToText (moveToDocument 6 6).doc
    let cmd := (jsonCommandParser.parse json moveToText Ph5Command.fresh).2
    let after := (processCommand benchDriver cmd (benchState 1 2)).1
    DrivenBy benchDriver .moveTo (some 6) (some 400) (benchState 1 2).axisX after.axisX ∧
      DrivenBy benchDriver .moveTo (some 6) none (benchState 1 2).axisY after.axisY :=
  (processCommand_parse_iff benchDriver (benchJson moveToText (moveToDocument 6 6).doc) moveToText
    (moveToDocument 6 6) (benchJson_deserializeJson _ _) (benchState 1 2) rfl rfl).mpr (by
      intro wrong right hwrong hright _
      exact (Option.some.inj hwrong).symm.trans (Option.some.inj hright))

end Path

end Ph5Firmware
