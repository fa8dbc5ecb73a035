import Mathlib.Tactic.Common

/-!
# Steppers and axes

`FastAccelStepper` is a library the firmware links against, so the driver is a
parameter: a record of the calls the firmware makes, over an arbitrary type
`Motor` of driver states.  Nothing is assumed about it here.

A `Stepper` is a driver state together with the calls it has received, oldest
first; the log is what statements about "the call an axis gets" refer to.  An
`Axis` is one of the pairs `stepperX`/`isRunningX`, `stepperY`/`isRunningY` of
`ph5.cpp`.

`processCommand` is made of a few guarded blocks, each written out once per axis
and command type.  They are `Axis.rated` (for `move` and `moveTo`), `Axis.speed`,
`Axis.halt` (for `stopMove` and `forceStop`) and `Axis.setPos` below.  The second
component of a block's result says whether the block itself calls
`stateTimer.forceTrigger()`.
-/

namespace Ph5Firmware

def moveOk : Int8 := 0

/-- The calls of `FastAccelStepper` the firmware makes. -/
structure FastAccelStepper (Motor : Type*) where
  /-- `0` when the rate is accepted. -/
  setSpeedInHz : Motor → UInt32 → Int8 × Motor
  move : Motor → Int32 → Int8 × Motor
  moveTo : Motor → Int32 → Int8 × Motor
  runForward : Motor → Int8 × Motor
  runBackward : Motor → Int8 × Motor
  stopMove : Motor → Motor
  forceStop : Motor → Motor
  setCurrentPosition : Motor → Int32 → Motor
  isRunning : Motor → Bool
  getCurrentPosition : Motor → Int32

inductive StepperCall where
  | setSpeedInHz (rate : UInt32)
  | move (steps : Int32)
  | moveTo (position : Int32)
  | runForward
  | runBackward
  | stopMove
  | forceStop
  | setCurrentPosition (position : Int32)
  deriving DecidableEq

variable {Motor : Type*} (driver : FastAccelStepper Motor)

namespace FastAccelStepper

/-- The result code and the driver state a call leaves; calls without a result
report `0`. -/
def perform (motor : Motor) : StepperCall → Int8 × Motor
  | .setSpeedInHz rate => driver.setSpeedInHz motor rate
  | .move steps => driver.move motor steps
  | .moveTo position => driver.moveTo motor position
  | .runForward => driver.runForward motor
  | .runBackward => driver.runBackward motor
  | .stopMove => (0, driver.stopMove motor)
  | .forceStop => (0, driver.forceStop motor)
  | .setCurrentPosition position => (0, driver.setCurrentPosition motor position)

/-- `setSpeedInHz(rate) == 0`. -/
def accepts (motor : Motor) (rate : UInt32) : Bool :=
  (driver.setSpeedInHz motor rate).1 == 0

end FastAccelStepper

/-- A connected stepper: its driver state and the calls it has received. -/
structure Stepper (Motor : Type*) where
  motor : Motor
  calls : List StepperCall
  deriving DecidableEq

def Stepper.invoke (stepper : Stepper Motor) (call : StepperCall) : Int8 × Stepper Motor :=
  ((driver.perform stepper.motor call).1,
    { motor := (driver.perform stepper.motor call).2, calls := stepper.calls ++ [call] })

/-- An axis: the stepper pointer, `NULL` when the stepper is not connected, and
the run flag. -/
structure Axis (Motor : Type*) where
  stepper : Option (Stepper Motor)
  isRunning : Bool
  deriving DecidableEq

namespace Axis

/-- `if (stepper->setSpeedInHz(rate) == 0) { isRunning = stepper->order() == MOVE_OK; }`,
with whether the rate was accepted. -/
def orderAtRate (stepper : Stepper Motor) (isRunning : Bool) (rate : UInt32)
    (order : StepperCall) : Axis Motor × Bool :=
  let answer := stepper.invoke driver (.setSpeedInHz rate)
  if answer.1 = 0 then
    let result := answer.2.invoke driver order
    ({ stepper := some result.2, isRunning := result.1 == moveOk }, true)
  else
    ({ stepper := some answer.2, isRunning := isRunning }, false)

/-- The block of `MOVE_*` and `MOVE_TO_*`: request the speed and, if it is
accepted, give the order and force a status. -/
def rated (speed : Int32) (order : StepperCall) (axis : Axis Motor) : Axis Motor × Bool :=
  match axis.stepper with
  | some stepper => orderAtRate driver stepper axis.isRunning speed.toUInt32 order
  | none => (axis, false)

/-- `speed` or `-speed`, as an `int32_t`.  The negation of `-2^31` wraps to itself, as it
does in the compiled code. -/
def speedMagnitude (speed : Int32) : Int32 :=
  if 0 < speed then speed else -speed

/-- The block of `SPEED_*`: run forward at `speed` or backward at `-speed`. -/
def speed (speed : Int32) (axis : Axis Motor) : Axis Motor × Bool :=
  match axis.stepper with
  | some stepper =>
      let rate := (speedMagnitude speed).toUInt32
      if 0 < speed then
        ((orderAtRate driver stepper axis.isRunning rate .runForward).1, true)
      else
        ((orderAtRate driver stepper axis.isRunning rate .runBackward).1, true)
  | none => (axis, false)

/-- The block of `STOP_*` and `FORCE_STOP`.  The status is forced outside it. -/
def halt (call : StepperCall) (axis : Axis Motor) : Axis Motor × Bool :=
  match axis.stepper with
  | some stepper => ({ axis with stepper := some (stepper.invoke driver call).2 }, false)
  | none => (axis, false)

/-- The block of `SET_POS_*`: only an idle stepper is given a new position. -/
def setPos (position : Int32) (axis : Axis Motor) : Axis Motor × Bool :=
  match axis.stepper with
  | some stepper =>
      if driver.isRunning stepper.motor then (axis, false)
      else
        ({ axis with
            stepper := some (stepper.invoke driver (.setCurrentPosition position)).2 }, true)
  | none => (axis, false)

def motor (axis : Axis Motor) : Option Motor :=
  axis.stepper.map Stepper.motor

def calls (axis : Axis Motor) : List StepperCall :=
  match axis.stepper with
  | some stepper => stepper.calls
  | none => []

def callsAtRate (motor : Motor) (rate : UInt32) (order : StepperCall) : List StepperCall :=
  .setSpeedInHz rate :: if driver.accepts motor rate then [order] else []

def accepts (speed : Int32) (axis : Axis Motor) : Bool :=
  match axis.stepper with
  | some stepper => driver.accepts stepper.motor speed.toUInt32
  | none => false

end Axis

/-! ## Rated orders with different targets

What the driver does with a position is not known beyond `TargetsDiffer`: once a
rate has been accepted, orders with different targets leave the driver in
different states. -/

/-- The driver distinguishes the targets it is ordered to. -/
structure FastAccelStepper.TargetsDiffer (driver : FastAccelStepper Motor) : Prop where
  move : ∀ motor rate, driver.accepts motor rate = true →
    Function.Injective fun steps => (driver.move (driver.setSpeedInHz motor rate).2 steps).2
  moveTo : ∀ motor rate, driver.accepts motor rate = true →
    Function.Injective fun position =>
      (driver.moveTo (driver.setSpeedInHz motor rate).2 position).2

namespace Axis

variable {driver : FastAccelStepper Motor}

theorem orderAtRate_calls (stepper : Stepper Motor) (isRunning : Bool) (rate : UInt32)
    (order : StepperCall) :
    (orderAtRate driver stepper isRunning rate order).1.calls =
      stepper.calls ++ callsAtRate driver stepper.motor rate order := by
  unfold orderAtRate callsAtRate FastAccelStepper.accepts
  by_cases hcode : (driver.setSpeedInHz stepper.motor rate).1 = 0 <;>
    simp [Stepper.invoke, FastAccelStepper.perform, hcode, calls]

theorem rated_snd (axis : Axis Motor) (speed : Int32) (order : StepperCall) :
    (axis.rated driver speed order).2 = axis.accepts driver speed := by
  unfold rated accepts orderAtRate FastAccelStepper.accepts
  cases axis.stepper with
  | none => rfl
  | some stepper =>
      by_cases hcode : (driver.setSpeedInHz stepper.motor speed.toUInt32).1 = 0 <;>
        simp [Stepper.invoke, FastAccelStepper.perform, hcode]

theorem rated_eq_of_not_accepts {axis : Axis Motor} {speed : Int32}
    (haccepts : ¬ axis.accepts driver speed = true) (first second : StepperCall) :
    axis.rated driver speed first = axis.rated driver speed second := by
  unfold accepts FastAccelStepper.accepts at haccepts
  unfold rated orderAtRate
  cases hstepper : axis.stepper with
  | none => rfl
  | some stepper =>
      have hcode : ¬ (driver.setSpeedInHz stepper.motor speed.toUInt32).1 = 0 := by
        simpa [hstepper] using haccepts
      simp [Stepper.invoke, FastAccelStepper.perform, hcode]

theorem rated_motor_of_accepts {axis : Axis Motor} {speed : Int32}
    (haccepts : axis.accepts driver speed = true) :
    ∃ motor, axis.motor = some motor ∧ driver.accepts motor speed.toUInt32 = true ∧
      ∀ order, (axis.rated driver speed order).1.motor =
        some (driver.perform (driver.setSpeedInHz motor speed.toUInt32).2 order).2 := by
  cases hstepper : axis.stepper with
  | none => simp [accepts, hstepper] at haccepts
  | some stepper =>
      have hrate : driver.accepts stepper.motor speed.toUInt32 = true := by
        simpa [accepts, hstepper] using haccepts
      have hcode : (driver.setSpeedInHz stepper.motor speed.toUInt32).1 = 0 := by
        simpa [FastAccelStepper.accepts] using hrate
      refine ⟨stepper.motor, by simp [motor, hstepper], hrate, fun order => ?_⟩
      simp [rated, orderAtRate, hstepper, Stepper.invoke, FastAccelStepper.perform, hcode, motor]

/-- Two orders at one rate have the same effect exactly when the rate is rejected
or the targets agree. -/
theorem rated_eq_iff (order : Int32 → StepperCall)
    (hinjective : ∀ motor rate, driver.accepts motor rate = true →
      Function.Injective fun target =>
        (driver.perform (driver.setSpeedInHz motor rate).2 (order target)).2)
    (axis : Axis Motor) (speed first second : Int32) :
    ((axis.rated driver speed (order first)).1.motor =
          (axis.rated driver speed (order second)).1.motor ∧
        (axis.rated driver speed (order first)).1.isRunning =
          (axis.rated driver speed (order second)).1.isRunning) ↔
      (axis.accepts driver speed = true → first = second) := by
  constructor
  · rintro ⟨hmotor, -⟩ haccepts
    obtain ⟨motor, -, hrate, hresult⟩ := rated_motor_of_accepts haccepts
    rw [hresult, hresult, Option.some.injEq] at hmotor
    exact hinjective _ _ hrate hmotor
  · intro hsame
    by_cases haccepts : axis.accepts driver speed = true
    · simp [hsame haccepts]
    · simp [rated_eq_of_not_accepts haccepts (order first) (order second)]

end Axis

end Ph5Firmware
