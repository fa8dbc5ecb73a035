import Ph5Firmware.Dispatch

/-!
# The main loop

`loop` of `ph5.cpp`, from the sampling of the steppers on.  What comes before it
in an iteration (WiFi manager, OTA, telnet, command line, MQTT) can only process
commands and ask for a redraw; it is a series of events of its own, before the
iteration.  The clock is read several times in an iteration, and so is the state of
the network; both are inputs (`LoopInput`).

* `sample_eq`: what the two sampling blocks do together.  The block for X does not
  ask for a redraw when the run state changes, the block for Y does.
* `Event`, `step`: everything that happens to the state, one event at a time.
* `setup`: the state before the first iteration.
-/

namespace Ph5Firmware

/-! ## Settings and inputs -/

/-- The settings of `config.h` the main loop reads. -/
structure Config where
  sendPresentBroadcast : Bool
  presentBroadcastPeriodMs : UInt16
  sendMqttStatus : Bool
  mqttStatusSlowPeriodMs : UInt16
  mqttStatusFastPeriodMs : UInt16
  sendBroadcastStatus : Bool
  sendWebsocketStatus : Bool
  broadcastStatePeriodMs : UInt16
  receiveMqttCommands : Bool
  deriving DecidableEq

namespace Config

def shipped : Config :=
  { sendPresentBroadcast := true
    presentBroadcastPeriodMs := 1000
    sendMqttStatus := false
    mqttStatusSlowPeriodMs := 5000
    mqttStatusFastPeriodMs := 500
    sendBroadcastStatus := false
    sendWebsocketStatus := true
    broadcastStatePeriodMs := 100
    receiveMqttCommands := false }

def enableMqtt (config : Config) : Bool :=
  config.sendMqttStatus || config.receiveMqttCommands

def broadcastsStatus (config : Config) : Bool :=
  config.sendBroadcastStatus || config.sendWebsocketStatus

end Config

/-- `wifi_mode_t`; `other` stands for every value without a name. -/
inductive WifiMode where
  | null
  | sta
  | ap
  | apsta
  | max
  | other
  deriving DecidableEq

structure Network where
  mode : WifiMode
  localIP : String
  isConnected : Bool
  mqttConnected : Bool
  /-- The host of the server selected by `mqttServerIndex`. -/
  mqttHost : String
  deriving DecidableEq

/-- The values `millis()` returns in one iteration. -/
structure Clocks where
  stateTimer : UInt32
  broadcastStatusTimer : UInt32
  presentBroadcastTimer : UInt32
  /-- At the test of `handleDisplay`. -/
  display : UInt32
  /-- When the next redraw is scheduled. -/
  drawn : UInt32
  deriving DecidableEq

structure LoopInput where
  clocks : Clocks
  network : Network
  deriving DecidableEq

variable {Motor : Type*} (driver : FastAccelStepper Motor)

/-! ## Sampling -/

namespace Axis

def running (axis : Axis Motor) : Bool :=
  match axis.stepper with
  | some stepper => driver.isRunning stepper.motor
  | none => false

/-- The run state sampled differs from the stored one. -/
def edge (axis : Axis Motor) : Bool :=
  match axis.stepper with
  | some stepper => driver.isRunning stepper.motor != axis.isRunning
  | none => false

def sampled (axis : Axis Motor) : Axis Motor :=
  match axis.stepper with
  | some stepper => { axis with isRunning := driver.isRunning stepper.motor }
  | none => axis

def view (axis : Axis Motor) : Option (Int32 × Bool) :=
  axis.stepper.map fun stepper =>
    (driver.getCurrentPosition stepper.motor, driver.isRunning stepper.motor)

end Axis

namespace State

def forceStatuses (state : State Motor) : State Motor :=
  { state with
    stateTimer := state.stateTimer.forceTrigger
    broadcastStatusTimer := state.broadcastStatusTimer.forceTrigger }

/-- The block of `loop` for the X stepper; the second component is the sample. -/
def sampleX (state : State Motor) : State Motor × Bool :=
  match state.axisX.stepper with
  | none => (state, false)
  | some stepper =>
      let r := driver.isRunning stepper.motor
      let state := if r then { state with displayUpdateRequired := true } else state
      if r != state.axisX.isRunning then
        -- no redraw is asked for here
        ({ state.forceStatuses with axisX := { state.axisX with isRunning := r } }, r)
      else (state, r)

/-- The block for the Y stepper, which also asks for a redraw. -/
def sampleY (state : State Motor) : State Motor × Bool :=
  match state.axisY.stepper with
  | none => (state, false)
  | some stepper =>
      let r := driver.isRunning stepper.motor
      let state := if r then { state with displayUpdateRequired := true } else state
      if r != state.axisY.isRunning then
        ({ state.forceStatuses with
            axisY := { state.axisY with isRunning := r }, displayUpdateRequired := true }, r)
      else (state, r)

def sample (state : State Motor) : State Motor :=
  ((state.sampleX driver).1.sampleY driver).1

/-- The sampling asks for a redraw. -/
def marksDisplay (state : State Motor) : Bool :=
  state.axisX.running driver || state.axisY.running driver || state.axisY.edge driver

/-- The sampling forces both status timers. -/
def edges (state : State Motor) : Bool :=
  state.axisX.edge driver || state.axisY.edge driver

end State

/-! ## An iteration -/

/-- Which timers ran `onTimer` in an iteration. -/
structure Fired where
  stateTimer : Bool
  broadcastStatusTimer : Bool
  presentBroadcastTimer : Bool
  deriving DecidableEq

/-- `handle` on a timer that is only used when `enabled`. -/
def IntervalTimer.handleIf (enabled : Bool) (now : UInt32) (timer : IntervalTimer) :
    IntervalTimer × Bool :=
  if enabled then timer.handle now else (timer, false)

def Network.modeText (network : Network) : String :=
  match network.mode with
  | .ap => "AP  "
  | .sta => "STA "
  | .apsta => "AS  "
  | .max => "MAX "
  | .null => "NUL "
  | .other => "??? "

def Network.mqttText (network : Network) : String :=
  if network.isConnected then
    if network.mqttConnected then network.mqttHost else "[" ++ network.mqttHost ++ "]"
  else "-"

def State.frame (config : Config) (network : Network) (state : State Motor) : Frame :=
  { network := network.modeText ++ network.localIP
    mqtt := if config.enableMqtt then some ("M " ++ network.mqttText) else none
    x := state.axisX.view driver
    y := state.axisY.view driver }

def handleDisplay (config : Config) (input : LoopInput) (state : State Motor) : State Motor :=
  if !state.displayUpdateRequired then state
  else if input.clocks.display < state.displayLastUpdate then state
  else
    { state with
      displayUpdateRequired := false
      displayLastUpdate := input.clocks.drawn + 100
      drawn := some (state.frame driver config input.network) }

/-- The period of `stateTimer`.  The source takes the slow one while an axis runs. -/
def Config.statusPeriodMs (config : Config) (fastTimer : Bool) : UInt32 :=
  (if fastTimer then config.mqttStatusSlowPeriodMs
    else config.mqttStatusFastPeriodMs).toUInt32

/-- `if (sendMqttStatus) { stateTimer.setPeriodMs(...);` -/
def IntervalTimer.paced (config : Config) (fastTimer : Bool) (timer : IntervalTimer) :
    IntervalTimer :=
  if config.sendMqttStatus then timer.setPeriodMs (config.statusPeriodMs fastTimer) else timer

/-- The middle part of `loop`: the timers, each if its channel is enabled. -/
def handleTimers (config : Config) (clocks : Clocks) (fastTimer : Bool) (state : State Motor) :
    State Motor × Fired :=
  let status :=
    (state.stateTimer.paced config fastTimer).handleIf config.sendMqttStatus clocks.stateTimer
  let broadcast :=
    state.broadcastStatusTimer.handleIf config.broadcastsStatus clocks.broadcastStatusTimer
  let present :=
    state.presentBroadcastTimer.handleIf config.sendPresentBroadcast clocks.presentBroadcastTimer
  ({ state with
      stateTimer := status.1
      broadcastStatusTimer := broadcast.1
      presentBroadcastTimer := present.1 },
    { stateTimer := status.2
      broadcastStatusTimer := broadcast.2
      presentBroadcastTimer := present.2 })

/-- An iteration up to the display, given what the sampling found. -/
def State.handled (config : Config) (input : LoopInput) (state : State Motor) :
    State Motor × Fired :=
  handleTimers config input.clocks (state.axisX.running driver || state.axisY.running driver)
    (state.sample driver)

/-- `loop`, with the timers that fired. -/
def loop (config : Config) (input : LoopInput) (state : State Motor) : State Motor × Fired :=
  let x := state.sampleX driver
  let y := x.1.sampleY driver
  -- fastTimer |= r, in both blocks
  let timers := handleTimers config input.clocks (x.2 || y.2) y.1
  (handleDisplay driver config input timers.1, timers.2)

/-! ## Events -/

/-- What happens to the state: a command is processed, a stepper moves on, other
code asks for a redraw, or the main loop runs once. -/
inductive Event (Motor : Type*) where
  | command (cmd : Ph5Command)
  | motorX (motor : Motor)
  | motorY (motor : Motor)
  | displayRequest
  | iterate (input : LoopInput)

def Axis.withMotor (motor : Motor) (axis : Axis Motor) : Axis Motor :=
  { axis with stepper := axis.stepper.map fun stepper => { stepper with motor := motor } }

def step (config : Config) (state : State Motor) : Event Motor → State Motor
  | .command cmd => (processCommand driver cmd state).1
  | .motorX motor => { state with axisX := state.axisX.withMotor motor }
  | .motorY motor => { state with axisY := state.axisY.withMotor motor }
  | .displayRequest => { state with displayUpdateRequired := true }
  | .iterate input => (loop driver config input state).1

/-- Only a running stepper moves on by itself. -/
def Allowed (state : State Motor) : Event Motor → Prop
  | .motorX _ => state.axisX.running driver = true
  | .motorY _ => state.axisY.running driver = true
  | _ => True

instance (state : State Motor) (event : Event Motor) : Decidable (Allowed driver state event) := by
  cases event <;> unfold Allowed <;> infer_instance

structure SetupClocks where
  stateTimer : UInt32
  presentBroadcastTimer : UInt32
  broadcastStatusTimer : UInt32

/-- `setup`: the state before the first iteration, with the steppers found. -/
def setup (config : Config) (clocks : SetupClocks) (stepperX stepperY : Option (Stepper Motor)) :
    State Motor :=
  { axisX := { stepper := stepperX, isRunning := false }
    axisY := { stepper := stepperY, isRunning := false }
    displayUpdateRequired := true
    displayLastUpdate := 0
    stateTimer :=
      if config.sendMqttStatus then
        (IntervalTimer.fresh.start clocks.stateTimer 10000 false).forceTrigger
      else .fresh
    broadcastStatusTimer :=
      if config.broadcastsStatus then
        IntervalTimer.fresh.start clocks.broadcastStatusTimer
          config.broadcastStatePeriodMs.toUInt32 false
      else .fresh
    presentBroadcastTimer :=
      if config.sendPresentBroadcast then
        IntervalTimer.fresh.start clocks.presentBroadcastTimer
          config.presentBroadcastPeriodMs.toUInt32 false
      else .fresh
    drawn := none }

/-! ## What an iteration changes -/

namespace IntervalTimer

theorem handleIf_snd (enabled : Bool) (now : UInt32) (timer : IntervalTimer) :
    (timer.handleIf enabled now).2 = (enabled && (timer.isRunning_ && timer.due now)) := by
  unfold handleIf
  cases enabled with
  | false => rfl
  | true => exact handle_snd now timer

@[simp] theorem handleIf_isRunning_ (enabled : Bool) (now : UInt32) (timer : IntervalTimer) :
    (timer.handleIf enabled now).1.isRunning_ = timer.isRunning_ := by
  unfold handleIf
  cases enabled with
  | false => rfl
  | true => exact handle_isRunning_ now timer

@[simp] theorem handleIf_isStrict_ (enabled : Bool) (now : UInt32) (timer : IntervalTimer) :
    (timer.handleIf enabled now).1.isStrict_ = timer.isStrict_ := by
  unfold handleIf
  cases enabled with
  | false => rfl
  | true => exact handle_isStrict_ now timer

@[simp] theorem paced_isRunning_ (config : Config) (fastTimer : Bool) (timer : IntervalTimer) :
    (timer.paced config fastTimer).isRunning_ = timer.isRunning_ := by
  unfold paced
  split_ifs <;> rfl

@[simp] theorem paced_isStrict_ (config : Config) (fastTimer : Bool) (timer : IntervalTimer) :
    (timer.paced config fastTimer).isStrict_ = timer.isStrict_ := by
  unfold paced
  split_ifs <;> rfl

@[simp] theorem paced_triggerTime_ (config : Config) (fastTimer : Bool) (timer : IntervalTimer) :
    (timer.paced config fastTimer).triggerTime_ = timer.triggerTime_ := by
  unfold paced
  split_ifs <;> rfl

@[simp] theorem paced_forceTrigger_ (config : Config) (fastTimer : Bool) (timer : IntervalTimer) :
    (timer.paced config fastTimer).forceTrigger_ = timer.forceTrigger_ := by
  unfold paced
  split_ifs <;> rfl

end IntervalTimer

theorem Axis.stepper_sampled (axis : Axis Motor) :
    (axis.sampled driver).stepper = axis.stepper := by
  unfold Axis.sampled
  split <;> rfl

section Spec

variable {driver} {config : Config} {input : LoopInput} {state : State Motor}

theorem sampleX_eq (state : State Motor) :
    (state.sampleX driver).1 =
      { state with
        axisX := state.axisX.sampled driver
        displayUpdateRequired := state.displayUpdateRequired || state.axisX.running driver
        stateTimer := state.stateTimer.forceIf (state.axisX.edge driver)
        broadcastStatusTimer := state.broadcastStatusTimer.forceIf (state.axisX.edge driver) } := by
  obtain ⟨⟨stepper, isRunning⟩, axisY, _, _, _, _, _, _⟩ := state
  cases stepper with
  | none => simp [State.sampleX, Axis.sampled, Axis.running, Axis.edge]
  | some stepper =>
      cases hr : driver.isRunning stepper.motor <;> cases isRunning <;>
        simp [State.sampleX, Axis.sampled, Axis.running, Axis.edge, State.forceStatuses, hr]

theorem sampleY_eq (state : State Motor) :
    (state.sampleY driver).1 =
      { state with
        axisY := state.axisY.sampled driver
        displayUpdateRequired :=
          state.displayUpdateRequired || (state.axisY.running driver || state.axisY.edge driver)
        stateTimer := state.stateTimer.forceIf (state.axisY.edge driver)
        broadcastStatusTimer := state.broadcastStatusTimer.forceIf (state.axisY.edge driver) } := by
  obtain ⟨axisX, ⟨stepper, isRunning⟩, _, _, _, _, _, _⟩ := state
  cases stepper with
  | none => simp [State.sampleY, Axis.sampled, Axis.running, Axis.edge]
  | some stepper =>
      cases hr : driver.isRunning stepper.motor <;> cases isRunning <;>
        simp [State.sampleY, Axis.sampled, Axis.running, Axis.edge, State.forceStatuses, hr]

theorem sample_eq (state : State Motor) :
    state.sample driver =
      { state with
        axisX := state.axisX.sampled driver
        axisY := state.axisY.sampled driver
        displayUpdateRequired := state.displayUpdateRequired || state.marksDisplay driver
        stateTimer := state.stateTimer.forceIf (state.edges driver)
        broadcastStatusTimer := state.broadcastStatusTimer.forceIf (state.edges driver) } := by
  rw [State.sample, sampleX_eq, sampleY_eq]
  simp [State.marksDisplay, State.edges, Bool.or_assoc]

theorem sampleX_snd (state : State Motor) :
    (state.sampleX driver).2 = state.axisX.running driver := by
  unfold State.sampleX Axis.running
  cases state.axisX.stepper with
  | none => rfl
  | some stepper =>
      simp only
      split_ifs <;> rfl

theorem sampleY_snd (state : State Motor) :
    (state.sampleY driver).2 = state.axisY.running driver := by
  unfold State.sampleY Axis.running
  cases state.axisY.stepper with
  | none => rfl
  | some stepper =>
      simp only
      split_ifs <;> rfl

/-- An iteration samples, handles the timers and then the display. -/
theorem loop_eq (state : State Motor) :
    loop driver config input state =
      (handleDisplay driver config input (state.handled driver config input).1,
        (state.handled driver config input).2) := by
  have hy : ((state.sampleX driver).1.sampleY driver).2 = state.axisY.running driver := by
    rw [sampleY_snd, sampleX_eq]
  rw [loop, sampleX_snd, hy]
  rfl

theorem loop_fst (state : State Motor) :
    (loop driver config input state).1 =
      handleDisplay driver config input (state.handled driver config input).1 := by
  rw [loop_eq]

theorem loop_snd (state : State Motor) :
    (loop driver config input state).2 = (state.handled driver config input).2 := by
  rw [loop_eq]

theorem handled_axisX (state : State Motor) :
    (state.handled driver config input).1.axisX = state.axisX.sampled driver := by
  rw [State.handled, sample_eq]
  rfl

theorem handled_axisY (state : State Motor) :
    (state.handled driver config input).1.axisY = state.axisY.sampled driver := by
  rw [State.handled, sample_eq]
  rfl

theorem handled_drawn (state : State Motor) :
    (state.handled driver config input).1.drawn = state.drawn := by
  rw [State.handled, sample_eq]
  rfl

theorem handled_displayUpdateRequired (state : State Motor) :
    (state.handled driver config input).1.displayUpdateRequired =
      (state.displayUpdateRequired || state.marksDisplay driver) := by
  rw [State.handled, sample_eq]
  rfl

theorem handleDisplay_eq (state : State Motor) :
    handleDisplay driver config input state =
      { state with
        displayUpdateRequired := (handleDisplay driver config input state).displayUpdateRequired
        displayLastUpdate := (handleDisplay driver config input state).displayLastUpdate
        drawn := (handleDisplay driver config input state).drawn } := by
  unfold handleDisplay
  split_ifs <;> rfl

theorem loop_axisX (state : State Motor) :
    (loop driver config input state).1.axisX = state.axisX.sampled driver := by
  rw [loop_fst, handleDisplay_eq, handled_axisX]

theorem loop_axisY (state : State Motor) :
    (loop driver config input state).1.axisY = state.axisY.sampled driver := by
  rw [loop_fst, handleDisplay_eq, handled_axisY]

def State.pacedTimer (driver : FastAccelStepper Motor) (config : Config) (state : State Motor) :
    IntervalTimer :=
  (state.stateTimer.forceIf (state.edges driver)).paced config
    (state.axisX.running driver || state.axisY.running driver)

theorem loop_stateTimer (state : State Motor) :
    (loop driver config input state).1.stateTimer =
      ((state.pacedTimer driver config).handleIf config.sendMqttStatus
        input.clocks.stateTimer).1 := by
  rw [loop_fst, handleDisplay_eq, State.handled, sample_eq]
  rfl

theorem loop_broadcastStatusTimer (state : State Motor) :
    (loop driver config input state).1.broadcastStatusTimer =
      ((state.broadcastStatusTimer.forceIf (state.edges driver)).handleIf
        config.broadcastsStatus input.clocks.broadcastStatusTimer).1 := by
  rw [loop_fst, handleDisplay_eq, State.handled, sample_eq]
  rfl

theorem loop_fires_stateTimer (state : State Motor) :
    (loop driver config input state).2.stateTimer =
      ((state.pacedTimer driver config).handleIf config.sendMqttStatus
        input.clocks.stateTimer).2 := by
  rw [loop_snd, State.handled, sample_eq]
  rfl

/-- A status is sent when it is requested, by a command or by a changed run state, or
when the period in force at the last one is over. -/
theorem loop_fires_stateTimer_iff (hsend : config.sendMqttStatus = true)
    (hrunning : state.stateTimer.isRunning_ = true) :
    (loop driver config input state).2.stateTimer = true ↔
      (state.stateTimer.forceTrigger_ = true ∨ state.edges driver = true) ∨
        state.stateTimer.triggerTime_ ≤ input.clocks.stateTimer := by
  rw [loop_fires_stateTimer, IntervalTimer.handleIf_snd, hsend, IntervalTimer.due]
  simp [State.pacedTimer, hrunning]

theorem loop_triggerTime_ (hsend : config.sendMqttStatus = true)
    (hlax : state.stateTimer.isStrict_ = false) :
    (loop driver config input state).1.stateTimer.triggerTime_ =
      if (loop driver config input state).2.stateTimer then
        input.clocks.stateTimer +
          config.statusPeriodMs (state.axisX.running driver || state.axisY.running driver)
      else state.stateTimer.triggerTime_ := by
  rw [loop_stateTimer, loop_fires_stateTimer, IntervalTimer.handleIf, if_pos hsend,
    IntervalTimer.handle_fst]
  split_ifs
  · simp only [IntervalTimer.fire, State.pacedTimer, IntervalTimer.paced_isStrict_,
      IntervalTimer.forceIf_isStrict_, hlax, Bool.false_eq_true, if_false]
    rw [IntervalTimer.paced, if_pos hsend]
    rfl
  · simp only [State.pacedTimer, IntervalTimer.paced_triggerTime_,
      IntervalTimer.forceIf_triggerTime_]

theorem step_stateTimer_isRunning_ (state : State Motor) (event : Event Motor) :
    (step driver config state event).stateTimer.isRunning_ = state.stateTimer.isRunning_ := by
  cases event with
  | command cmd => rw [step, processCommand_stateTimer, IntervalTimer.forceIf_isRunning_]
  | iterate input =>
      rw [step, loop_stateTimer, IntervalTimer.handleIf_isRunning_, State.pacedTimer,
        IntervalTimer.paced_isRunning_, IntervalTimer.forceIf_isRunning_]
  | _ => rfl

theorem step_stateTimer_isStrict_ (state : State Motor) (event : Event Motor) :
    (step driver config state event).stateTimer.isStrict_ = state.stateTimer.isStrict_ := by
  cases event with
  | command cmd => rw [step, processCommand_stateTimer, IntervalTimer.forceIf_isStrict_]
  | iterate input =>
      rw [step, loop_stateTimer, IntervalTimer.handleIf_isStrict_, State.pacedTimer,
        IntervalTimer.paced_isStrict_, IntervalTimer.forceIf_isStrict_]
  | _ => rfl

theorem loop_fires_broadcastStatusTimer (state : State Motor) :
    (loop driver config input state).2.broadcastStatusTimer =
      ((state.broadcastStatusTimer.forceIf (state.edges driver)).handleIf
        config.broadcastsStatus input.clocks.broadcastStatusTimer).2 := by
  rw [loop_snd, State.handled, sample_eq]
  rfl

theorem handleDisplay_of_clean (hclean : state.displayUpdateRequired = false) :
    handleDisplay driver config input state = state := by
  unfold handleDisplay
  rw [hclean]
  rfl

/-- A display that is clean after a request shows the state. -/
theorem drawn_handleDisplay (hdirty : state.displayUpdateRequired = true)
    (hclean : (handleDisplay driver config input state).displayUpdateRequired = false) :
    (handleDisplay driver config input state).drawn =
      some (state.frame driver config input.network) := by
  unfold handleDisplay at hclean ⊢
  rw [hdirty] at hclean ⊢
  simp only [Bool.not_true, Bool.false_eq_true, if_false] at hclean ⊢
  by_cases hearly : input.clocks.display < state.displayLastUpdate
  · rw [if_pos hearly, hdirty] at hclean
    exact absurd hclean (by decide)
  · rw [if_neg hearly]

end Spec

end Ph5Firmware
