import Ph5Firmware.Dispatch.Frame
import Ph5Firmware.Library.Runs
import Ph5Firmware.Loop

/-!
# The axes in a run

A stepper is a machine of its own: it is given the calls of the orders for its axis, one
order after the other, and moves on by itself in between.  `Stepper.advance` is that
machine.  `steppers_independent` says that a run of the firmware is two of them side by
side: iterations of the main loop, the timers, the clocks, the network, the settings, the
display and the orders for the other axis do not reach a stepper.
-/

namespace Ph5Firmware

variable {Motor : Type*} (driver : FastAccelStepper Motor)

/-- What reaches one stepper: an order for its axis, or its own movement. -/
inductive AxisEvent (Motor : Type*) where
  | order (order : AxisOrder)
  | moved (motor : Motor)

namespace Stepper

/-- The stepper after some calls. -/
def receive (stepper : Stepper Motor) (calls : List StepperCall) : Stepper Motor :=
  calls.foldl (fun stepper call => (stepper.invoke driver call).2) stepper

def advance (stepper : Stepper Motor) : AxisEvent Motor → Stepper Motor
  | .order order => stepper.receive driver (order.calls driver stepper.motor)
  | .moved motor => { stepper with motor := motor }

/-- A stepper that is not connected stays away. -/
def advance? (stepper : Option (Stepper Motor)) (event : AxisEvent Motor) :
    Option (Stepper Motor) :=
  stepper.map fun stepper => stepper.advance driver event

end Stepper

namespace Event

/-- What an event is for the X stepper. -/
def onX : Event Motor → Option (AxisEvent Motor)
  | .command cmd => some (.order cmd.orderX)
  | .motorX motor => some (.moved motor)
  | _ => none

def onY : Event Motor → Option (AxisEvent Motor)
  | .command cmd => some (.order cmd.orderY)
  | .motorY motor => some (.moved motor)
  | _ => none

end Event

variable {driver}

/-! ## One event -/

theorem stepper_orderAtRate (stepper : Stepper Motor) (isRunning : Bool) (rate : UInt32)
    (order : StepperCall) :
    (Axis.orderAtRate driver stepper isRunning rate order).1.stepper =
      some (stepper.receive driver (Axis.callsAtRate driver stepper.motor rate order)) := by
  by_cases hcode : (driver.setSpeedInHz stepper.motor rate).1 = 0 <;>
    simp [Axis.orderAtRate, Axis.callsAtRate, FastAccelStepper.accepts, Stepper.receive,
      Stepper.invoke, FastAccelStepper.perform, hcode]

/-- An order gives the stepper its calls, whatever the run flag says. -/
theorem stepper_run (order : AxisOrder) (axis : Axis Motor) :
    (order.run driver axis).1.stepper =
      Stepper.advance? driver axis.stepper (.order order) := by
  cases hstepper : axis.stepper with
  | none => rw [order.run_of_missing hstepper, hstepper, Stepper.advance?, Option.map_none]
  | some stepper =>
      rw [Stepper.advance?, Option.map_some, Stepper.advance]
      cases order with
      | keep => exact hstepper
      | move rate position | moveTo rate position =>
          simp only [AxisOrder.run, AxisOrder.calls, Axis.rated, hstepper, stepper_orderAtRate]
      | speed velocity =>
          simp only [AxisOrder.run, AxisOrder.calls, Axis.speed, hstepper]
          split_ifs <;> exact stepper_orderAtRate ..
      | stop | forceStop =>
          simp [AxisOrder.run, AxisOrder.calls, Axis.halt, hstepper, Stepper.receive]
      | setPos position =>
          by_cases hrunning : driver.isRunning stepper.motor = true <;>
            simp [AxisOrder.run, AxisOrder.calls, Axis.setPos, hstepper, hrunning, Stepper.receive]

theorem step_stepperX (config : Config) (state : State Motor) (event : Event Motor) :
    (step driver config state event).axisX.stepper =
      event.onX.elim state.axisX.stepper (Stepper.advance? driver state.axisX.stepper) := by
  cases event with
  | command cmd =>
      exact (congrArg Axis.stepper (processCommand_axisX cmd state)).trans (stepper_run ..)
  | motorX motor | motorY motor | displayRequest => rfl
  | iterate input =>
      exact (congrArg Axis.stepper (loop_axisX state)).trans (Axis.stepper_sampled driver _)

theorem step_stepperY (config : Config) (state : State Motor) (event : Event Motor) :
    (step driver config state event).axisY.stepper =
      event.onY.elim state.axisY.stepper (Stepper.advance? driver state.axisY.stepper) := by
  cases event with
  | command cmd =>
      exact (congrArg Axis.stepper (processCommand_axisY cmd state)).trans (stepper_run ..)
  | motorX motor | motorY motor | displayRequest => rfl
  | iterate input =>
      exact (congrArg Axis.stepper (loop_axisY state)).trans (Axis.stepper_sampled driver _)

/-! ## Runs -/

/-- **A run is two steppers side by side.** -/
theorem steppers_independent (driver : FastAccelStepper Motor) (config : Config)
    (state : State Motor) (events : List (Event Motor)) :
    (events.foldl (step driver config) state).axisX.stepper =
        (events.filterMap Event.onX).foldl (Stepper.advance? driver) state.axisX.stepper ∧
      (events.foldl (step driver config) state).axisY.stepper =
        (events.filterMap Event.onY).foldl (Stepper.advance? driver) state.axisY.stepper :=
  ⟨Run.foldl_part (fun state => state.axisX.stepper) Event.onX (step_stepperX config) state events,
    Run.foldl_part (fun state => state.axisY.stepper) Event.onY (step_stepperY config) state events⟩

end Ph5Firmware
