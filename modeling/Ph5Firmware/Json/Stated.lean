import Ph5Firmware.Dispatch.Frame
import Ph5Firmware.Json.Motion

/-!
# Where an executed coordinate comes from

A coordinate key is tested with `isNull` and then converted to an `int32_t`, and
the conversion has a result for every value.  So a coordinate that reaches a stepper
was under a key of the document, but need not be what the document states there.

* `AxisOrder.coordinate_of_newCalls`: the coordinate a stepper is given is the one
  of the axis' order.
* `orders_of_text`: the orders of any text, from the fields of its document.
* `coordinates_converted`: each axis is given the conversion of its own key, or
  nothing.  For the two kinds of documents that give the Y axis another position
  (`CrossesY`) only the presence of `y` is said.
-/

namespace Ph5Firmware

/-! ## Coordinates of calls and orders -/

/-- The coordinate a call passes. -/
def StepperCall.coordinate : StepperCall → Option Int32
  | .move steps => some steps
  | .moveTo position => some position
  | .setCurrentPosition position => some position
  | _ => none

def AxisOrder.coordinate : AxisOrder → Option Int32
  | .move _ position | .moveTo _ position | .setPos position => some position
  | _ => none

section Calls

variable {Motor : Type*} {driver : FastAccelStepper Motor}

theorem Axis.coordinate_of_mem_callsAtRate {motor : Motor} {rate : UInt32}
    {order call : StepperCall} (hcall : call ∈ Axis.callsAtRate driver motor rate order)
    {value : Int32} (hvalue : call.coordinate = some value) : order.coordinate = some value := by
  rcases Axis.mem_callsAtRate.mp hcall with rfl | ⟨-, rfl⟩
  · exact absurd hvalue (by simp [StepperCall.coordinate])
  · exact hvalue

theorem AxisOrder.coordinate_of_mem_calls {order : AxisOrder} {motor : Motor} {call : StepperCall}
    (hcall : call ∈ order.calls driver motor) {value : Int32}
    (hvalue : call.coordinate = some value) : order.coordinate = some value := by
  cases order with
  | keep => exact absurd hcall List.not_mem_nil
  | move | moveTo => exact Axis.coordinate_of_mem_callsAtRate hcall hvalue
  | speed velocity =>
      have hmotion := Axis.coordinate_of_mem_callsAtRate hcall hvalue
      split_ifs at hmotion
      · exact absurd hmotion (by simp [StepperCall.coordinate])
      · exact absurd hmotion (by simp [StepperCall.coordinate])
  | stop | forceStop =>
      rw [List.mem_singleton.mp hcall] at hvalue
      exact absurd hvalue (by simp [StepperCall.coordinate])
  | setPos position =>
      simp only [AxisOrder.calls] at hcall
      by_cases hrunning : driver.isRunning motor = true
      · rw [if_pos hrunning] at hcall
        exact absurd hcall List.not_mem_nil
      · rw [if_neg hrunning] at hcall
        rw [List.mem_singleton.mp hcall] at hvalue
        exact hvalue

/-- The coordinate a stepper is given is the one of the axis' order. -/
theorem AxisOrder.coordinate_of_newCalls {order : AxisOrder} {axis : Axis Motor}
    {call : StepperCall} (hcall : call ∈ Axis.newCalls axis (order.run driver axis).1)
    {value : Int32} (hvalue : call.coordinate = some value) : order.coordinate = some value := by
  cases hstepper : axis.stepper with
  | none =>
      rw [order.run_of_missing hstepper, Axis.newCalls, List.drop_length] at hcall
      exact absurd hcall List.not_mem_nil
  | some stepper =>
      rw [order.newCalls_run hstepper] at hcall
      exact AxisOrder.coordinate_of_mem_calls hcall hvalue

end Calls

/-! ## Orders of any text -/

section Orders

variable (json : ArduinoJson) (text : List UInt8)

theorem ownOrder_coordinate {word : MotionWord} {position speed : Option Int32} {value : Int32}
    (hvalue : (ownOrder word position speed).coordinate = some value) :
    word ≠ .speed ∧ position = some value := by
  cases word with
  | move | moveTo | setPos =>
      cases position with
      | none => exact absurd hvalue (by simp [ownOrder, AxisOrder.coordinate])
      | some target => exact ⟨by simp, hvalue⟩
  | speed => cases speed <;> exact absurd hvalue (by simp [ownOrder, AxisOrder.coordinate])

/-- The orders of a text: those of the fields of its document, if the text is one with a
motion word, and otherwise none that has a coordinate. -/
theorem orders_of_text :
    let cmd := (jsonCommandParser.parse json text Ph5Command.fresh).2
    (∃ doc, json.deserializeJson text = .ok doc ∧ ∃ word : MotionWord,
      (doc.get "cmd").lowerWord = word.text.toList ∧
      cmd.orderX = ownOrder word (doc.field json "x") (doc.field json "speedX") ∧
      cmd.orderY = ownOrder word
        ((word.crossing (doc.field json "x") (doc.field json "y")).orElse
          fun _ => doc.field json "y") (doc.field json "speedY")) ∨
    (∀ doc, json.deserializeJson text = .ok doc →
      ∀ word : MotionWord, (doc.get "cmd").lowerWord ≠ word.text.toList) ∧
      cmd.orderX.coordinate = none ∧ cmd.orderY.coordinate = none := by
  intro cmd
  cases htext : json.deserializeJson text with
  | error error =>
      refine .inr ⟨by simp, ?_⟩
      have hcmd : cmd = Ph5Command.fresh := by simp [cmd, JsonCommandParser.parse, htext]
      rw [hcmd]
      exact ⟨rfl, rfl⟩
  | ok doc =>
      have hcmd : cmd = jsonCommandParser.fillDefaults (Ph5Command.fresh.set json doc) := by
        simp [cmd, JsonCommandParser.parse, htext]
      by_cases hword : ∃ word : MotionWord, (doc.get "cmd").lowerWord = word.text.toList
      · obtain ⟨word, hword⟩ := hword
        refine .inl ⟨doc, rfl, word, hword, ?_⟩
        rw [hcmd, fresh_set_of_word json doc hword, orderX_command_of_word,
          orderY_command_of_word]
        exact ⟨rfl, rfl⟩
      · have hnone := not_exists.mp hword
        refine .inr ⟨?_, ?_⟩
        · intro other hother
          rw [← Except.ok.inj hother]
          exact hnone
        · rw [hcmd, fresh_set_of_no_word json doc hnone, JsonVariant.plainType]
          split_ifs <;> exact ⟨rfl, rfl⟩

end Orders

/-! ## What a document states -/

section Stated

variable (json : ArduinoJson)

/-- The number under a key: a JSON number, or a string that spells one. -/
def JsonVariant.number : JsonVariant → Option Rat
  | .integer value => some value
  | .float value => some value
  | .string value => json.textNumber value
  | _ => none

/-- The number under a key is this 32-bit integer. -/
def JsonVariant.States (variant : JsonVariant) (value : Int32) : Prop :=
  variant.number json = some (value.toInt : Rat)

theorem JsonVariant.States.asInt32_eq {variant : JsonVariant} {value : Int32}
    (hstates : variant.States json value) : variant.asInt32 json = value := by
  have hlow : -2147483648 ≤ value.toInt := value.minValue_le_toInt
  have hhigh : value.toInt ≤ 2147483647 := value.toInt_le
  cases variant with
  | integer number =>
      have hnumber : number = value.toInt := by exact_mod_cast Option.some.inj hstates
      exact asInt32_of_holdsInt32 json (.inl (congrArg _ hnumber))
  | float number =>
      exact asInt32_of_holdsInt32 json (.inr (congrArg _ (Option.some.inj hstates)))
  | string spelled =>
      have hspelled : json.textNumber spelled = some (value.toInt : Rat) := hstates
      rw [JsonVariant.asInt32, JsonVariant.toIntegerIn, hspelled]
      show Int32.ofInt (JsonVariant.truncateIn _ _ _) = value
      rw [truncateIn_intCast hlow hhigh, Int32.ofInt_toInt]
  | null | boolean | array | object => exact absurd hstates (by simp [States, number])

variable {Motor : Type*} (text : List UInt8)

/-- Every coordinate among the new calls of an axis is stated by the document, under
the axis' key. -/
def OnlyStated (key : String) (before after : Axis Motor) : Prop :=
  ∀ call ∈ Axis.newCalls before after, ∀ value, call.coordinate = some value →
    ∃ doc, json.deserializeJson text = .ok doc ∧ (doc.get key).States json value

/-- The documents that give the Y axis a position other than its own. -/
def CrossesY (doc : JsonVariant) : Prop :=
  (doc.get "cmd").lowerWord = MotionWord.move.text.toList ∧ (doc.get "x").isNull = true ∨
    (doc.get "cmd").lowerWord = MotionWord.moveTo.text.toList ∧ (doc.get "x").isNull = false

/-- What an axis gets from a text: the conversion of what its key holds, or nothing. -/
structure Converted (key : String) (crosses : JsonVariant → Prop) (before after : Axis Motor) :
    Prop where
  /-- A coordinate comes from a document with the key, and outside the crossing ones it is
  the conversion of its value: the number itself, if it is a 32-bit integer. -/
  passed : ∀ call ∈ Axis.newCalls before after, ∀ value, call.coordinate = some value →
    ∃ doc, json.deserializeJson text = .ok doc ∧ (doc.get key).isNull = false ∧
      (¬ crosses doc → value = (doc.get key).asInt32 json ∧
        ∀ stated, (doc.get key).States json stated → value = stated)
  /-- Without the key, a document that is about coordinates leaves the axis alone. -/
  missing : ∀ doc, json.deserializeJson text = .ok doc → (doc.get key).isNull = true →
    (∃ word : MotionWord, word ≠ .speed ∧ (doc.get "cmd").lowerWord = word.text.toList) →
      after = before

variable {json text} {driver : FastAccelStepper Motor} {key : String}
  {crosses : JsonVariant → Prop}

theorem converted_of_order {order : AxisOrder}
    (hpassed : ∀ value, order.coordinate = some value → ∃ doc,
      json.deserializeJson text = .ok doc ∧ (doc.get key).isNull = false ∧
        (¬ crosses doc → value = (doc.get key).asInt32 json))
    (hmissing : ∀ doc, json.deserializeJson text = .ok doc → (doc.get key).isNull = true →
      (∃ word : MotionWord, word ≠ .speed ∧ (doc.get "cmd").lowerWord = word.text.toList) →
        order = .keep) (axis : Axis Motor) :
    Converted json text key crosses axis (order.run driver axis).1 where
  passed := by
    intro call hcall value hvalue
    obtain ⟨doc, htext, hpresent, hconverted⟩ :=
      hpassed value (AxisOrder.coordinate_of_newCalls hcall hvalue)
    refine ⟨doc, htext, hpresent, ?_⟩
    intro hcrosses
    refine ⟨hconverted hcrosses, ?_⟩
    intro stated hstates
    exact (hconverted hcrosses).trans hstates.asInt32_eq
  missing := by
    intro doc htext habsent hword
    rw [hmissing doc htext habsent hword, AxisOrder.run_keep]

theorem MotionWord.text_injective {first second : MotionWord}
    (htext : first.text.toList = second.text.toList) : first = second := by
  revert htext
  cases first <;> cases second <;> decide

/-- A text has one document and that has one word. -/
theorem coordinate_word {doc other : JsonVariant} {word : MotionWord}
    (htext : json.deserializeJson text = .ok doc)
    (hword : (doc.get "cmd").lowerWord = word.text.toList)
    (hother : json.deserializeJson text = .ok other)
    (hcoordinate : ∃ word : MotionWord, word ≠ .speed ∧
      (other.get "cmd").lowerWord = word.text.toList) :
    other = doc ∧ word ≠ .speed := by
  obtain ⟨otherWord, hspeed, hotherWord⟩ := hcoordinate
  obtain rfl : doc = other := Except.ok.inj (htext.symm.trans hother)
  rw [MotionWord.text_injective (hword.symm.trans hotherWord)]
  exact ⟨rfl, hspeed⟩

theorem ownOrder_none {word : MotionWord} (hword : word ≠ .speed) (speed : Option Int32) :
    ownOrder word none speed = .keep := by
  cases word with
  | speed => exact absurd rfl hword
  | move | moveTo | setPos => rfl

theorem JsonVariant.field_eq_none_iff {doc : JsonVariant} :
    doc.field json key = none ↔ (doc.get key).isNull = true := by
  unfold JsonVariant.field
  cases (doc.get key).isNull <;> simp

/-- The position of the Y axis, if its own key has none or the document does not cross. -/
theorem crossing_orElse {doc : JsonVariant} {word : MotionWord}
    (hword : (doc.get "cmd").lowerWord = word.text.toList)
    (hown : ¬ CrossesY doc ∨ (doc.get "y").isNull = true) :
    ((word.crossing (doc.field json "x") (doc.field json "y")).orElse fun _ => doc.field json "y") =
      doc.field json "y" := by
  cases hy : doc.field json "y" with
  | none =>
      cases word <;> cases doc.field json "x" <;> rfl
  | some y =>
      have hcrosses : ¬ CrossesY doc := by
        refine hown.resolve_right ?_
        intro habsent
        exact absurd ((JsonVariant.field_eq_none_iff.mpr habsent).symm.trans hy) (by simp)
      cases word with
      | move =>
          cases hx : doc.field json "x" with
          | none => exact absurd (.inl ⟨hword, JsonVariant.field_eq_none_iff.mp hx⟩) hcrosses
          | some x => rfl
      | moveTo =>
          cases hx : doc.field json "x" with
          | none => rfl
          | some x =>
              have hpresent := (JsonVariant.field_eq_some json doc hx).1
              exact absurd (.inr ⟨hword, hpresent⟩) hcrosses
      | setPos | speed => rfl

/-- The X axis is never given another key's coordinate. -/
theorem convertedX_of_word {doc : JsonVariant} {word : MotionWord}
    (htext : json.deserializeJson text = .ok doc)
    (hword : (doc.get "cmd").lowerWord = word.text.toList) (speed : Option Int32)
    (axis : Axis Motor) :
    Converted json text "x" (fun _ => False) axis
      ((ownOrder word (doc.field json "x") speed).run driver axis).1 := by
  refine converted_of_order ?_ ?_ axis
  · intro value hvalue
    obtain ⟨hpresent, hvalue⟩ := JsonVariant.field_eq_some json doc (ownOrder_coordinate hvalue).2
    exact ⟨doc, htext, hpresent, fun _ => hvalue⟩
  · intro other hother habsent hcoordinate
    obtain ⟨rfl, hspeed⟩ := coordinate_word htext hword hother hcoordinate
    rw [JsonVariant.field_eq_none_iff.mpr habsent, ownOrder_none hspeed]

/-- The Y axis is given its own key's coordinate outside the crossing documents, and none
without the key. -/
theorem convertedY_of_word {doc : JsonVariant} {word : MotionWord}
    (htext : json.deserializeJson text = .ok doc)
    (hword : (doc.get "cmd").lowerWord = word.text.toList) (speed : Option Int32)
    (axis : Axis Motor) :
    Converted json text "y" CrossesY axis
      ((ownOrder word
        ((word.crossing (doc.field json "x") (doc.field json "y")).orElse
          fun _ => doc.field json "y") speed).run driver axis).1 := by
  refine converted_of_order ?_ ?_ axis
  · intro value hvalue
    obtain ⟨-, hposition⟩ := ownOrder_coordinate hvalue
    have hpresent : (doc.get "y").isNull = false := by
      rw [← Bool.not_eq_true]
      intro habsent
      rw [crossing_orElse hword (.inr habsent), JsonVariant.field_eq_none_iff.mpr habsent]
        at hposition
      exact absurd hposition (by simp)
    refine ⟨doc, htext, hpresent, ?_⟩
    intro hcrosses
    rw [crossing_orElse hword (.inl hcrosses)] at hposition
    exact (JsonVariant.field_eq_some json doc hposition).2
  · intro other hother habsent hcoordinate
    obtain ⟨rfl, hspeed⟩ := coordinate_word htext hword hother hcoordinate
    rw [crossing_orElse hword (.inr habsent), JsonVariant.field_eq_none_iff.mpr habsent,
      ownOrder_none hspeed]

theorem converted_of_no_word {order : AxisOrder} (hnone : order.coordinate = none)
    (hword : ∀ doc, json.deserializeJson text = .ok doc →
      ∀ word : MotionWord, (doc.get "cmd").lowerWord ≠ word.text.toList) (axis : Axis Motor) :
    Converted json text key crosses axis (order.run driver axis).1 := by
  refine converted_of_order ?_ ?_ axis
  · intro value hvalue
    exact absurd (hnone.symm.trans hvalue) (by simp)
  · intro doc htext _ ⟨word, _, hlower⟩
    exact absurd hlower (hword doc htext word)

/-- **Executed coordinates.** For every text, state and driver: a coordinate that a
stepper gets is the conversion of what the document holds under the axis' key. -/
theorem coordinates_converted (driver : FastAccelStepper Motor) (json : ArduinoJson)
    (text : List UInt8) (state : State Motor) :
    let cmd := (jsonCommandParser.parse json text Ph5Command.fresh).2
    let after := (processCommand driver cmd state).1
    Converted json text "x" (fun _ => False) state.axisX after.axisX ∧
      Converted json text "y" CrossesY state.axisY after.axisY := by
  intro cmd after
  have hafterX : after.axisX = (cmd.orderX.run driver state.axisX).1 := processCommand_axisX ..
  have hafterY : after.axisY = (cmd.orderY.run driver state.axisY).1 := processCommand_axisY ..
  rw [hafterX, hafterY]
  rcases orders_of_text json text with
    ⟨doc, htext, word, hword, hX, hY⟩ | ⟨hnone, hX, hY⟩
  · rw [hX, hY]
    exact ⟨convertedX_of_word htext hword _ _, convertedY_of_word htext hword _ _⟩
  · exact ⟨converted_of_no_word hX hnone _, converted_of_no_word hY hnone _⟩

def leftText : List UInt8 := asciiBytes "\x7b\"cmd\":\"moveto\",\"x\":\"left\"\x7d"

def leftDoc : JsonVariant :=
  .object [("cmd", .string "moveto"), ("x", .string "left")]

/-- `"x": "left"` sends the X stepper to 0, and `"y": 5` alone moves the Y stepper by 0. -/
theorem left_executed :
    (let json := benchJson leftText leftDoc
     let cmd := (jsonCommandParser.parse json leftText Ph5Command.fresh).2
     let after := (processCommand benchDriver cmd (benchState 7 0)).1
     json.deserializeJson leftText = .ok leftDoc ∧
      .moveTo 0 ∈ Axis.newCalls (benchState 7 0).axisX after.axisX ∧
      ¬ OnlyStated json leftText "x" (benchState 7 0).axisX after.axisX) ∧
    (let json := benchJson moveYText moveYDocument.doc
     let cmd := (jsonCommandParser.parse json moveYText Ph5Command.fresh).2
     let after := (processCommand benchDriver cmd (benchState 0 0)).1
     json.deserializeJson moveYText = .ok moveYDocument.doc ∧
      .move 0 ∈ Axis.newCalls (benchState 0 0).axisY after.axisY ∧
      ¬ OnlyStated json moveYText "y" (benchState 0 0).axisY after.axisY) := by
  refine ⟨?_, ?_⟩
  · intro json cmd after
    have hcall : .moveTo 0 ∈ Axis.newCalls (benchState 7 0).axisX after.axisX := by decide
    refine ⟨benchJson_deserializeJson _ _, hcall, ?_⟩
    intro hstated
    obtain ⟨doc, htext, hstates⟩ := hstated (.moveTo 0) hcall 0 rfl
    obtain rfl : leftDoc = doc :=
      Except.ok.inj ((benchJson_deserializeJson leftText leftDoc).symm.trans htext)
    have hunspelled : (leftDoc.get "x").number json = none := rfl
    exact absurd (hunspelled.symm.trans hstates) (by simp)
  · intro json cmd after
    have hcall : .move 0 ∈ Axis.newCalls (benchState 0 0).axisY after.axisY := by decide
    refine ⟨benchJson_deserializeJson _ _, hcall, ?_⟩
    intro hstated
    obtain ⟨doc, htext, hstates⟩ := hstated (.move 0) hcall 0 rfl
    obtain rfl : moveYDocument.doc = doc :=
      Except.ok.inj ((benchJson_deserializeJson moveYText moveYDocument.doc).symm.trans htext)
    have hfive : (moveYDocument.doc.get "y").number json = some 5 := rfl
    exact absurd (hfive.symm.trans hstates) (by decide)

end Stated

end Ph5Firmware
