import Ph5Firmware.Dispatch.Combined

/-!
# What a command leaves alone

A command gives each axis one order, so what it may do to an axis is what one order
may do to it.

* `AxisOrder.run_respected`: an order writes the position only of a motor that is
  not running, starts no motion at a rate the driver rejects, and does nothing at
  all to an axis without a stepper.
* `processCommand_framed`: this holds of both axes for every command, and a command
  for one axis, or for none, leaves the others as they were.
-/

namespace Ph5Firmware

/-- The call sets the motor in motion. -/
def StepperCall.isMotion : StepperCall → Bool
  | .move _ | .moveTo _ | .runForward | .runBackward => true
  | _ => false

variable {Motor : Type*} (driver : FastAccelStepper Motor)

namespace Axis

/-- The calls an axis has got since an earlier state of it. -/
def newCalls (before after : Axis Motor) : List StepperCall :=
  after.calls.drop before.calls.length

/-- What every command owes to an axis. -/
structure Respected (before after : Axis Motor) : Prop where
  appended : after.calls = before.calls ++ newCalls before after
  position : ∀ stepper position, before.stepper = some stepper →
    .setCurrentPosition position ∈ newCalls before after → driver.isRunning stepper.motor = false
  rejected : ∀ stepper rate, before.stepper = some stepper →
    .setSpeedInHz rate ∈ newCalls before after → driver.accepts stepper.motor rate = false →
      (∀ call ∈ newCalls before after, call.isMotion = false) ∧
        after.isRunning = before.isRunning
  missing : before.stepper = none → after = before

end Axis

/-- What a command does not touch. -/
structure Framed (cmd : Ph5Command) (state : State Motor) : Prop where
  typeX : ∀ family : CommandFamily, cmd.type = family.typeX →
    (processCommand driver cmd state).1.axisY = state.axisY
  typeY : ∀ family : CommandFamily, cmd.type = family.typeY →
    (processCommand driver cmd state).1.axisX = state.axisX
  /-- All other types, listed or not, outside the combined ones and `FORCE_STOP`. -/
  other : (∀ family : CommandFamily, cmd.type ≠ family.typeX ∧ cmd.type ≠ family.typeY ∧
      cmd.type ≠ family.typeXY) → cmd.type ≠ .forceStop →
    (processCommand driver cmd state).1.axisX = state.axisX ∧
      (processCommand driver cmd state).1.axisY = state.axisY
  respectsX : Axis.Respected driver state.axisX (processCommand driver cmd state).1.axisX
  respectsY : Axis.Respected driver state.axisY (processCommand driver cmd state).1.axisY

variable {driver}

/-! ## One order -/

theorem Axis.orderAtRate_isRunning_of_rejected {stepper : Stepper Motor} {isRunning : Bool}
    {rate : UInt32} (hrejected : driver.accepts stepper.motor rate = false)
    (order : StepperCall) :
    (Axis.orderAtRate driver stepper isRunning rate order).1.isRunning = isRunning := by
  have hcode : ¬ (stepper.invoke driver (.setSpeedInHz rate)).1 = 0 := by
    show ¬ (driver.setSpeedInHz stepper.motor rate).1 = 0
    simpa [FastAccelStepper.accepts] using hrejected
  unfold Axis.orderAtRate
  simp only [if_neg hcode]

theorem Axis.mem_callsAtRate {motor : Motor} {rate : UInt32} {order call : StepperCall} :
    call ∈ Axis.callsAtRate driver motor rate order ↔
      call = .setSpeedInHz rate ∨ driver.accepts motor rate = true ∧ call = order := by
  unfold Axis.callsAtRate
  by_cases haccepts : driver.accepts motor rate = true
  · simp [haccepts]
  · simp [haccepts]

namespace AxisOrder

/-- The rate an order requests. -/
def rate : AxisOrder → Option UInt32
  | .move rate _ => some rate.toUInt32
  | .moveTo rate _ => some rate.toUInt32
  | .speed velocity => some (Axis.speedMagnitude velocity).toUInt32
  | _ => none

theorem isRunning_of_rejected (order : AxisOrder) {axis : Axis Motor} {stepper : Stepper Motor}
    (hstepper : axis.stepper = some stepper) {rate : UInt32} (hrate : order.rate = some rate)
    (hrejected : driver.accepts stepper.motor rate = false) :
    (order.run driver axis).1.isRunning = axis.isRunning := by
  cases order with
  | keep | stop | forceStop | setPos => exact absurd hrate (by simp [AxisOrder.rate])
  | move speed position | moveTo speed position =>
      obtain rfl : speed.toUInt32 = rate := Option.some.inj hrate
      simp only [AxisOrder.run, Axis.rated, hstepper]
      exact Axis.orderAtRate_isRunning_of_rejected hrejected _
  | speed velocity =>
      obtain rfl : (Axis.speedMagnitude velocity).toUInt32 = rate := Option.some.inj hrate
      simp only [AxisOrder.run, Axis.speed, hstepper]
      by_cases hforward : 0 < velocity
      · rw [if_pos hforward]
        exact Axis.orderAtRate_isRunning_of_rejected hrejected _
      · rw [if_neg hforward]
        exact Axis.orderAtRate_isRunning_of_rejected hrejected _

/-- The calls of an order that requests a rate. -/
theorem calls_of_rate (driver : FastAccelStepper Motor) (order : AxisOrder) {rate : UInt32}
    (hrate : order.rate = some rate) (motor : Motor) :
    ∃ call, call.isMotion = true ∧
      order.calls driver motor = Axis.callsAtRate driver motor rate call := by
  cases order with
  | keep | stop | forceStop | setPos => exact absurd hrate (by simp [AxisOrder.rate])
  | move speed position =>
      obtain rfl : speed.toUInt32 = rate := Option.some.inj hrate
      exact ⟨.move position, rfl, rfl⟩
  | moveTo speed position =>
      obtain rfl : speed.toUInt32 = rate := Option.some.inj hrate
      exact ⟨.moveTo position, rfl, rfl⟩
  | speed velocity =>
      obtain rfl : (Axis.speedMagnitude velocity).toUInt32 = rate := Option.some.inj hrate
      refine ⟨_, ?_, rfl⟩
      split_ifs <;> rfl

/-- The calls of an order that requests none. -/
theorem calls_of_no_rate (order : AxisOrder) (hrate : order.rate = none) (motor : Motor)
    {call : StepperCall} (hcall : call ∈ order.calls driver motor) :
    call = .stopMove ∨ call = .forceStop ∨
      ∃ position, call = .setCurrentPosition position ∧ driver.isRunning motor = false := by
  cases order with
  | keep => exact absurd hcall List.not_mem_nil
  | move | moveTo | speed => exact absurd hrate (by simp [AxisOrder.rate])
  | stop => exact .inl (List.mem_singleton.mp hcall)
  | forceStop => exact .inr (.inl (List.mem_singleton.mp hcall))
  | setPos position =>
      simp only [AxisOrder.calls] at hcall
      by_cases hrunning : driver.isRunning motor = true
      · rw [if_pos hrunning] at hcall
        exact absurd hcall List.not_mem_nil
      · rw [if_neg hrunning] at hcall
        exact .inr (.inr ⟨position, List.mem_singleton.mp hcall, Bool.not_eq_true _ ▸ hrunning⟩)

/-- Only the rate an order has is ever requested. -/
theorem rate_of_mem_calls (order : AxisOrder) {rate : UInt32} {motor : Motor}
    (hcall : .setSpeedInHz rate ∈ order.calls driver motor) : order.rate = some rate := by
  cases hrate : order.rate with
  | none =>
      rcases order.calls_of_no_rate hrate motor hcall with hstop | hstop | ⟨_, hset, -⟩
      · exact absurd hstop (by simp)
      · exact absurd hstop (by simp)
      · exact absurd hset (by simp)
  | some requested =>
      obtain ⟨call, hmotion, hcalls⟩ := order.calls_of_rate driver hrate motor
      rw [hcalls, Axis.mem_callsAtRate] at hcall
      rcases hcall with hspeed | ⟨-, rfl⟩
      · rw [StepperCall.setSpeedInHz.inj hspeed]
      · exact absurd hmotion Bool.false_ne_true

/-- A position is only written into an idle motor. -/
theorem idle_of_mem_calls (order : AxisOrder) {position : Int32} {motor : Motor}
    (hcall : .setCurrentPosition position ∈ order.calls driver motor) :
    driver.isRunning motor = false := by
  cases hrate : order.rate with
  | none =>
      rcases order.calls_of_no_rate hrate motor hcall with hstop | hstop | ⟨_, -, hidle⟩
      · exact absurd hstop (by simp)
      · exact absurd hstop (by simp)
      · exact hidle
  | some rate =>
      obtain ⟨call, hmotion, hcalls⟩ := order.calls_of_rate driver hrate motor
      rw [hcalls, Axis.mem_callsAtRate] at hcall
      rcases hcall with hspeed | ⟨-, rfl⟩
      · exact absurd hspeed (by simp)
      · exact absurd hmotion Bool.false_ne_true

theorem newCalls_run (order : AxisOrder) {axis : Axis Motor} {stepper : Stepper Motor}
    (hstepper : axis.stepper = some stepper) :
    Axis.newCalls axis (order.run driver axis).1 = order.calls driver stepper.motor := by
  have hbefore : axis.calls = stepper.calls := by
    unfold Axis.calls
    rw [hstepper]
  rw [Axis.newCalls, order.run_calls driver hstepper, hbefore, List.drop_left]

theorem run_of_missing (order : AxisOrder) {axis : Axis Motor} (hmissing : axis.stepper = none) :
    (order.run driver axis).1 = axis := by
  cases order <;>
    simp [AxisOrder.run, Axis.rated, Axis.speed, Axis.halt, Axis.setPos, hmissing]

/-- **One order.** -/
theorem run_respected (order : AxisOrder) (axis : Axis Motor) :
    Axis.Respected driver axis (order.run driver axis).1 where
  appended := by
    cases hstepper : axis.stepper with
    | none => simp [order.run_of_missing hstepper, Axis.newCalls]
    | some stepper =>
        rw [order.newCalls_run hstepper, order.run_calls driver hstepper, Axis.calls, hstepper]
  position := by
    intro stepper position hstepper hmem
    rw [order.newCalls_run hstepper] at hmem
    exact order.idle_of_mem_calls hmem
  rejected := by
    intro stepper rate hstepper hmem hrejected
    rw [order.newCalls_run hstepper] at hmem ⊢
    have hrate : order.rate = some rate := order.rate_of_mem_calls hmem
    obtain ⟨call, -, hcalls⟩ := order.calls_of_rate driver hrate stepper.motor
    refine ⟨?_, order.isRunning_of_rejected hstepper hrate hrejected⟩
    intro other hother
    rw [hcalls, Axis.mem_callsAtRate] at hother
    rcases hother with rfl | ⟨haccepts, -⟩
    · rfl
    · rw [hrejected] at haccepts
      exact absurd haccepts Bool.false_ne_true
  missing hmissing := order.run_of_missing hmissing

end AxisOrder

/-! ## One command -/

theorem processCommand_axisX (cmd : Ph5Command) (state : State Motor) :
    (processCommand driver cmd state).1.axisX = (cmd.orderX.run driver state.axisX).1 := by
  rw [processCommand_eq_dispatch]
  rfl

theorem processCommand_axisY (cmd : Ph5Command) (state : State Motor) :
    (processCommand driver cmd state).1.axisY = (cmd.orderY.run driver state.axisY).1 := by
  rw [processCommand_eq_dispatch]
  rfl

/-- A type outside the families orders nothing. -/
theorem orders_of_no_family {cmd : Ph5Command}
    (hfamily : ∀ family : CommandFamily, cmd.type ≠ family.typeX ∧ cmd.type ≠ family.typeY ∧
      cmd.type ≠ family.typeXY) (hforce : cmd.type ≠ .forceStop) :
    cmd.orderX = .keep ∧ cmd.orderY = .keep := by
  have hmove := hfamily .move
  have hmoveTo := hfamily .moveTo
  have hspeed := hfamily .speed
  have hstop := hfamily .stop
  have hsetPos := hfamily .setPos
  unfold Ph5Command.orderX Ph5Command.orderY
  cases htype : cmd.type <;>
    simp_all [CommandFamily.typeX, CommandFamily.typeY, CommandFamily.typeXY]

/-- **The frame of a command.** For every type byte, all fields, and all states. -/
theorem processCommand_framed (cmd : Ph5Command) (state : State Motor) :
    Framed driver cmd state where
  typeX := by
    intro family htype
    have hkeep : cmd.orderY = .keep := by
      rw [← orderY_typeX family cmd, Ph5Command.ofType, ← htype]
    rw [processCommand_axisY, hkeep, AxisOrder.run_keep]
  typeY := by
    intro family htype
    have hkeep : cmd.orderX = .keep := by
      rw [← orderX_typeY family cmd, Ph5Command.ofType, ← htype]
    rw [processCommand_axisX, hkeep, AxisOrder.run_keep]
  other := by
    intro hfamily hforce
    obtain ⟨hkeepX, hkeepY⟩ := orders_of_no_family hfamily hforce
    rw [processCommand_axisX, processCommand_axisY, hkeepX, hkeepY, AxisOrder.run_keep,
      AxisOrder.run_keep]
    exact ⟨rfl, rfl⟩
  respectsX := by
    rw [processCommand_axisX]
    exact cmd.orderX.run_respected state.axisX
  respectsY := by
    rw [processCommand_axisY]
    exact cmd.orderY.run_respected state.axisY

end Ph5Firmware
