import Ph5Firmware.Stepper
import Ph5Firmware.Timer

/-!
# The state of the firmware

The globals of `ph5.cpp` that the command dispatcher, the status timers and the
display share.  `drawn` is not a variable of the program: it records what the
display showed after the last redraw.

An `Outcome` is the part of a state that a command may be observed through: the
driver states, the run flags, the display-dirty flag and the status-force flag.
-/

namespace Ph5Firmware

/-- What `handleDisplay` shows: the network line, the MQTT line if MQTT is
enabled, and the position and running mark of each connected axis. -/
structure Frame where
  network : String
  mqtt : Option String
  x : Option (Int32 × Bool)
  y : Option (Int32 × Bool)
  deriving DecidableEq

structure State (Motor : Type*) where
  axisX : Axis Motor
  axisY : Axis Motor
  displayUpdateRequired : Bool
  displayLastUpdate : UInt32
  stateTimer : IntervalTimer
  broadcastStatusTimer : IntervalTimer
  presentBroadcastTimer : IntervalTimer
  drawn : Option Frame
  deriving DecidableEq

/-- What a command may change that can be observed. -/
structure Outcome (Motor : Type*) where
  stepperX : Option Motor
  stepperY : Option Motor
  isRunningX : Bool
  isRunningY : Bool
  displayUpdateRequired : Bool
  forceTrigger : Bool
  deriving DecidableEq

variable {Motor : Type*}

namespace State

def outcome (state : State Motor) : Outcome Motor :=
  { stepperX := state.axisX.motor
    stepperY := state.axisY.motor
    isRunningX := state.axisX.isRunning
    isRunningY := state.axisY.isRunning
    displayUpdateRequired := state.displayUpdateRequired
    forceTrigger := state.stateTimer.forceTrigger_ }

def swap (state : State Motor) : State Motor :=
  { state with axisX := state.axisY, axisY := state.axisX }

def forceStatus (state : State Motor) : State Motor :=
  { state with stateTimer := state.stateTimer.forceTrigger }

/-- Run a block on the X axis and force a status if the block asks for it. -/
def onX (block : Axis Motor → Axis Motor × Bool) (state : State Motor) : State Motor :=
  { state with
    axisX := (block state.axisX).1
    stateTimer := state.stateTimer.forceIf (block state.axisX).2 }

def onY (block : Axis Motor → Axis Motor × Bool) (state : State Motor) : State Motor :=
  { state with
    axisY := (block state.axisY).1
    stateTimer := state.stateTimer.forceIf (block state.axisY).2 }

end State

end Ph5Firmware
