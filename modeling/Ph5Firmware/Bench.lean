import Ph5Firmware.Json
import Ph5Firmware.Loop

/-!
# Libraries to evaluate the model on

`benchDriver` keeps a position, a target and a rate, as the driver library
documents: a rate between 1 Hz and 200 kHz is accepted, `move` and `moveTo` set
the target, and the motor runs while the target is not reached or a run order is
in force.  `benchJson` reads one text.  The general statements hold of every driver
and every JSON library; these are used where a concrete run is needed.
-/

namespace Ph5Firmware

structure BenchMotor where
  position : Int32
  target : Int32
  rate : UInt32
  /-- A `runForward` or `runBackward` is in force. -/
  endless : Bool
  deriving DecidableEq

namespace BenchMotor

/-- At rest at `position`, with the rate `setup` requests. -/
def atRest (position : Int32) : BenchMotor :=
  { position := position, target := position, rate := 3200, endless := false }

end BenchMotor

def benchDriver : FastAccelStepper BenchMotor where
  setSpeedInHz motor rate :=
    if 0 < rate ∧ rate ≤ 200000 then (0, { motor with rate := rate }) else (-1, motor)
  move motor steps := (0, { motor with target := motor.position + steps, endless := false })
  moveTo motor position := (0, { motor with target := position, endless := false })
  runForward motor := (0, { motor with endless := true })
  runBackward motor := (0, { motor with endless := true })
  stopMove motor := { motor with target := motor.position, endless := false }
  forceStop motor := { motor with target := motor.position, endless := false }
  setCurrentPosition motor position := { motor with position := position, target := position }
  isRunning motor := motor.endless || motor.target != motor.position
  getCurrentPosition motor := motor.position

theorem benchDriver_targetsDiffer : benchDriver.TargetsDiffer where
  move motor rate _ first second heq := by
    have htarget := congrArg BenchMotor.target heq
    exact (Int32.add_right_inj _).mp htarget
  moveTo motor rate _ first second heq := congrArg BenchMotor.target heq

def benchAxis (position : Int32) : Axis BenchMotor :=
  { stepper := some { motor := .atRest position, calls := [] }, isRunning := false }

/-- The state after `setup`, with the axes at `x` and `y` and no timer started. -/
def benchState (x y : Int32) : State BenchMotor :=
  { axisX := benchAxis x
    axisY := benchAxis y
    displayUpdateRequired := true
    displayLastUpdate := 0
    stateTimer := .fresh
    broadcastStatusTimer := .fresh
    presentBroadcastTimer := .fresh
    drawn := none }

def benchStepper : Option (Stepper BenchMotor) :=
  some { motor := .atRest 0, calls := [] }

/-- The state after `setup` with the settings of `config.h`. -/
def benchSetup : State BenchMotor :=
  setup .shipped ⟨0, 0, 0⟩ benchStepper benchStepper

/-- The settings of `config.h` with the status channel on. -/
def publishing : Config :=
  { Config.shipped with sendMqttStatus := true }

/-- An iteration at one reading of the clock, connected to WiFi. -/
def benchInput (now : UInt32) : LoopInput :=
  { clocks :=
      { stateTimer := now, broadcastStatusTimer := now, presentBroadcastTimer := now
        display := now, drawn := now }
    network :=
      { mode := .sta, localIP := "10.0.0.5", isConnected := true, mqttConnected := false
        mqttHost := "" } }

def asciiBytes (text : String) : List UInt8 :=
  text.toList.map fun character => UInt8.ofNat character.toNat

/-- A library that reads `text` as `doc` and rejects everything else. -/
def benchJson (text : List UInt8) (doc : JsonVariant) : ArduinoJson where
  deserializeJson input := if input = text then .ok doc else .error .invalidInput
  textNumber _ := none

theorem benchJson_deserializeJson (text : List UInt8) (doc : JsonVariant) :
    (benchJson text doc).deserializeJson text = .ok doc := by
  simp [benchJson]

end Ph5Firmware
