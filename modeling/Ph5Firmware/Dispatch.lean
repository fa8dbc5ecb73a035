import Ph5Firmware.Command
import Ph5Firmware.State

/-!
# The command dispatcher

`processCommand` is the `switch` of `ph5.cpp`, case by case; the console output
is left out.  It returns the state and the command, because `PING` writes the
command it was given.

Every case comes down to at most one order for each axis.  `orderX` and `orderY`
are these orders, read off the cases as they are written; `alwaysForces` lists
the types whose case forces a status outside the guarded blocks.
`processCommand_eq_dispatch` says that nothing else happens, and the statements
about the dispatcher are derived from it.

Two cases give the Y stepper the X position: `MOVE_Y` and `MOVE_TO_XY`.
`orderY_eq_orderX_swap` says that these are the only two: for every other type
the order for Y is the one for X with the axes exchanged.
-/

namespace Ph5Firmware

variable {Motor : Type*} (driver : FastAccelStepper Motor)

def processCommand (cmd : Ph5Command) (state : State Motor) : State Motor × Ph5Command :=
  let state := { state with displayUpdateRequired := true }
  match cmd.type with
  | .moveX => (state.onX (Axis.rated driver cmd.speedX (.move cmd.posX)), cmd)
  -- the source reads `getPosX` here
  | .moveY => (state.onY (Axis.rated driver cmd.speedY (.move cmd.posX)), cmd)
  | .moveXY =>
      ((state.onX (Axis.rated driver cmd.speedX (.move cmd.posX))).onY
        (Axis.rated driver cmd.speedY (.move cmd.posY)), cmd)
  | .speedX => (state.onX (Axis.speed driver cmd.speedX), cmd)
  | .speedY => (state.onY (Axis.speed driver cmd.speedY), cmd)
  | .speedXY =>
      ((state.onX (Axis.speed driver cmd.speedX)).onY (Axis.speed driver cmd.speedY), cmd)
  | .moveToX => (state.onX (Axis.rated driver cmd.speedX (.moveTo cmd.posX)), cmd)
  | .moveToY => (state.onY (Axis.rated driver cmd.speedY (.moveTo cmd.posY)), cmd)
  -- and here, for the Y stepper
  | .moveToXY =>
      ((state.onX (Axis.rated driver cmd.speedX (.moveTo cmd.posX))).onY
        (Axis.rated driver cmd.speedY (.moveTo cmd.posX)), cmd)
  | .stopX => ((state.onX (Axis.halt driver .stopMove)).forceStatus, cmd)
  | .stopY => ((state.onY (Axis.halt driver .stopMove)).forceStatus, cmd)
  | .stopXY =>
      (((state.onX (Axis.halt driver .stopMove)).onY (Axis.halt driver .stopMove)).forceStatus,
        cmd)
  | .forceStop =>
      (((state.onX (Axis.halt driver .forceStop)).onY (Axis.halt driver .forceStop)).forceStatus,
        cmd)
  | .setPosX => (state.onX (Axis.setPos driver cmd.posX), cmd)
  | .setPosY => (state.onY (Axis.setPos driver cmd.posY), cmd)
  | .setPosXY =>
      ((state.onX (Axis.setPos driver cmd.posX)).onY (Axis.setPos driver cmd.posY), cmd)
  | .ping => (state, { cmd with type := .pong })
  | .unknown => (state, cmd)
  | _ => (state, cmd)

/-! ## Orders -/

inductive AxisOrder where
  | keep
  | move (rate position : Int32)
  | moveTo (rate position : Int32)
  | speed (velocity : Int32)
  | stop
  | forceStop
  | setPos (position : Int32)
  deriving DecidableEq

def AxisOrder.run : AxisOrder → Axis Motor → Axis Motor × Bool
  | .keep, axis => (axis, false)
  | .move rate position, axis => axis.rated driver rate (.move position)
  | .moveTo rate position, axis => axis.rated driver rate (.moveTo position)
  | .speed velocity, axis => axis.speed driver velocity
  | .stop, axis => axis.halt driver .stopMove
  | .forceStop, axis => axis.halt driver .forceStop
  | .setPos position, axis => axis.setPos driver position

@[simp] theorem AxisOrder.run_keep (axis : Axis Motor) :
    AxisOrder.keep.run driver axis = (axis, false) := rfl

namespace Ph5Command

def orderX (cmd : Ph5Command) : AxisOrder :=
  match cmd.type with
  | .moveX | .moveXY => .move cmd.speedX cmd.posX
  | .moveToX | .moveToXY => .moveTo cmd.speedX cmd.posX
  | .speedX | .speedXY => .speed cmd.speedX
  | .stopX | .stopXY => .stop
  | .forceStop => .forceStop
  | .setPosX | .setPosXY => .setPos cmd.posX
  | _ => .keep

def orderY (cmd : Ph5Command) : AxisOrder :=
  match cmd.type with
  | .moveY => .move cmd.speedY cmd.posX
  | .moveXY => .move cmd.speedY cmd.posY
  | .moveToY => .moveTo cmd.speedY cmd.posY
  | .moveToXY => .moveTo cmd.speedY cmd.posX
  | .speedY | .speedXY => .speed cmd.speedY
  | .stopY | .stopXY => .stop
  | .forceStop => .forceStop
  | .setPosY | .setPosXY => .setPos cmd.posY
  | _ => .keep

/-- The cases that force a status whatever the steppers do. -/
def alwaysForces (cmd : Ph5Command) : Bool :=
  match cmd.type with
  | .stopX | .stopY | .stopXY | .forceStop => true
  | _ => false

/-- The two cases that give the Y stepper the X position. -/
def crossed (cmd : Ph5Command) : Bool :=
  match cmd.type with
  | .moveY | .moveToXY => true
  | _ => false

end Ph5Command

def State.dispatch (x y : AxisOrder) (forces : Bool) (state : State Motor) : State Motor :=
  { state with
    axisX := (x.run driver state.axisX).1
    axisY := (y.run driver state.axisY).1
    displayUpdateRequired := true
    stateTimer := state.stateTimer.forceIf
      ((x.run driver state.axisX).2 || (y.run driver state.axisY).2 || forces) }

/-- A command gives each axis its order and does nothing else. -/
theorem processCommand_eq_dispatch (cmd : Ph5Command) (state : State Motor) :
    (processCommand driver cmd state).1 =
      state.dispatch driver cmd.orderX cmd.orderY cmd.alwaysForces := by
  unfold processCommand State.dispatch
  cases htype : cmd.type <;>
    simp [Ph5Command.orderX, Ph5Command.orderY, Ph5Command.alwaysForces, htype, AxisOrder.run,
      State.onX, State.onY, State.forceStatus, ← IntervalTimer.forceIf_true]

/-- A case that forces a status, or an order that does. -/
def Ph5Command.requestsStatus (cmd : Ph5Command) (state : State Motor) : Bool :=
  (cmd.orderX.run driver state.axisX).2 || (cmd.orderY.run driver state.axisY).2 ||
    cmd.alwaysForces

theorem processCommand_stateTimer (cmd : Ph5Command) (state : State Motor) :
    (processCommand driver cmd state).1.stateTimer =
      state.stateTimer.forceIf (cmd.requestsStatus driver state) := by
  rw [processCommand_eq_dispatch]
  rfl

/-- Only a `PING` writes the command it was given. -/
theorem processCommand_snd (cmd : Ph5Command) (state : State Motor) :
    (processCommand driver cmd state).2 =
      if cmd.type = .ping then { cmd with type := .pong } else cmd := by
  unfold processCommand
  cases htype : cmd.type <;> simp

/-- Only `MOVE_Y` and `MOVE_TO_XY` treat the Y axis differently from the X axis. -/
theorem Ph5Command.orderY_eq_orderX_swap {cmd : Ph5Command} (hcrossed : cmd.crossed = false) :
    cmd.orderY = cmd.swap.orderX := by
  unfold crossed at hcrossed
  cases htype : cmd.type <;>
    simp_all [orderX, orderY, Ph5Command.swap, Ph5CommandType.swap]

/-! ## Calls -/

def AxisOrder.calls (motor : Motor) : AxisOrder → List StepperCall
  | .keep => []
  | .move rate position => Axis.callsAtRate driver motor rate.toUInt32 (.move position)
  | .moveTo rate position => Axis.callsAtRate driver motor rate.toUInt32 (.moveTo position)
  | .speed velocity =>
      Axis.callsAtRate driver motor (Axis.speedMagnitude velocity).toUInt32
        (if 0 < velocity then .runForward else .runBackward)
  | .stop => [.stopMove]
  | .forceStop => [.forceStop]
  | .setPos position => if driver.isRunning motor then [] else [.setCurrentPosition position]

theorem AxisOrder.run_calls (order : AxisOrder) {axis : Axis Motor} {stepper : Stepper Motor}
    (hstepper : axis.stepper = some stepper) :
    (order.run driver axis).1.calls = stepper.calls ++ order.calls driver stepper.motor := by
  cases order with
  | keep => simp [AxisOrder.run, AxisOrder.calls, Axis.calls, hstepper]
  | move rate position | moveTo rate position =>
      simp [AxisOrder.run, AxisOrder.calls, Axis.rated, hstepper, Axis.orderAtRate_calls]
  | speed velocity =>
      by_cases hforward : 0 < velocity <;>
        simp [AxisOrder.run, AxisOrder.calls, Axis.speed, hstepper, hforward,
          Axis.orderAtRate_calls]
  | stop | forceStop =>
      simp [AxisOrder.run, AxisOrder.calls, Axis.halt, hstepper, Axis.calls, Stepper.invoke]
  | setPos position =>
      by_cases hrunning : driver.isRunning stepper.motor = true <;>
        simp [AxisOrder.run, AxisOrder.calls, Axis.setPos, hstepper, hrunning, Axis.calls,
          Stepper.invoke]

/-! ## Outcomes -/

section Outcomes

variable {driver} {x y : AxisOrder} {state : State Motor}

/-- What an order does that can be observed on its axis. -/
def AxisOrder.effect (driver : FastAccelStepper Motor) (order : AxisOrder) (axis : Axis Motor) :
    Option Motor × Bool :=
  ((order.run driver axis).1.motor, (order.run driver axis).1.isRunning)

theorem outcome_dispatch (forces : Bool) :
    (state.dispatch driver x y forces).outcome =
      { stepperX := (x.effect driver state.axisX).1
        stepperY := (y.effect driver state.axisY).1
        isRunningX := (x.effect driver state.axisX).2
        isRunningY := (y.effect driver state.axisY).2
        displayUpdateRequired := true
        forceTrigger := state.stateTimer.forceTrigger_ ||
          ((x.run driver state.axisX).2 || (y.run driver state.axisY).2 || forces) } := by
  simp [State.outcome, State.dispatch, AxisOrder.effect]

theorem effect_move_eq_iff (htargets : driver.TargetsDiffer) (axis : Axis Motor)
    (rate first second : Int32) :
    (AxisOrder.move rate first).effect driver axis =
        (AxisOrder.move rate second).effect driver axis ↔
      (axis.accepts driver rate = true → first = second) := by
  rw [← Axis.rated_eq_iff .move htargets.move, Prod.ext_iff]
  rfl

theorem effect_moveTo_eq_iff (htargets : driver.TargetsDiffer) (axis : Axis Motor)
    (rate first second : Int32) :
    (AxisOrder.moveTo rate first).effect driver axis =
        (AxisOrder.moveTo rate second).effect driver axis ↔
      (axis.accepts driver rate = true → first = second) := by
  rw [← Axis.rated_eq_iff .moveTo htargets.moveTo, Prod.ext_iff]
  rfl

end Outcomes

end Ph5Firmware
