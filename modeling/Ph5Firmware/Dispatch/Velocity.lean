import Ph5Firmware.Bench
import Ph5Firmware.Dispatch.Frame
import Ph5Firmware.Library.SignedWord

/-!
# Velocity commands

`SPEED_X`, `SPEED_Y` and `SPEED_XY` carry a signed velocity.  The dispatcher splits it by
sign, negates it if it is not positive, requests the magnitude as a rate, and gives the run
order if the rate is accepted.

The driver is assumed to accept the rates from 1 to some `max` below `2^31`, and to change
nothing when it rejects one (`LimitsRate`).  Then two velocities are not treated as they
should be:

* 0 is taken for a backward velocity.  Rate 0 is rejected, so a running axis goes on.
* the negation of `-2^31` overflows.

`obeys_iff` says that these are the only two, for one axis; `velocities_obeyed_iff` says
it for a command.
-/

namespace Ph5Firmware

variable {Motor : Type*} (driver : FastAccelStepper Motor) (max : ℕ)

/-- `setSpeedInHz` accepts the rates from 1 to `max`, and a rejected rate changes
nothing. -/
structure FastAccelStepper.LimitsRate : Prop where
  accepts_iff : ∀ motor rate, driver.accepts motor rate = true ↔ 0 < rate.toNat ∧ rate.toNat ≤ max
  rejected : ∀ motor rate, driver.accepts motor rate = false →
    (driver.setSpeedInHz motor rate).2 = motor
  max_lt : max < 2 ^ 31

namespace Axis

/-- What a velocity command should do to the axis of `stepper`. -/
structure Obeys (velocity : Int32) (stepper : Stepper Motor) (before after : Axis Motor) :
    Prop where
  inRange : 0 < velocity.toInt.natAbs → velocity.toInt.natAbs ≤ max →
    newCalls before after =
      [.setSpeedInHz (UInt32.ofNat velocity.toInt.natAbs),
        if 0 < velocity then .runForward else .runBackward]
  outOfRange : max < velocity.toInt.natAbs →
    after.motor = some stepper.motor ∧ ∀ call ∈ newCalls before after, call.isMotion = false
  /-- The axis is not left running as it was. -/
  zero : velocity = 0 →
    ¬ (driver.isRunning stepper.motor = true ∧ after.motor = some stepper.motor)
  magnitude : (speedMagnitude velocity).toInt = velocity.toInt.natAbs

end Axis

/-- Every connected axis the command addresses obeys its velocity. -/
structure VelocitiesObeyed (cmd : Ph5Command) (state : State Motor) : Prop where
  axisX : cmd.type = .speedX ∨ cmd.type = .speedXY →
    ∀ stepper ∈ state.axisX.stepper,
      Axis.Obeys driver max cmd.speedX stepper state.axisX
        (processCommand driver cmd state).1.axisX
  axisY : cmd.type = .speedY ∨ cmd.type = .speedXY →
    ∀ stepper ∈ state.axisY.stepper,
      Axis.Obeys driver max cmd.speedY stepper state.axisY
        (processCommand driver cmd state).1.axisY

/-- The velocity is not `-2^31`, and not 0 unless the stepper is idle. -/
def Stepper.TakesVelocity (velocity : Int32) (stepper : Stepper Motor) : Prop :=
  velocity ≠ Int32.minValue ∧ (velocity = 0 → driver.isRunning stepper.motor = false)

/-- Every connected axis the command addresses can take its velocity. -/
structure VelocitiesTaken (cmd : Ph5Command) (state : State Motor) : Prop where
  axisX : cmd.type = .speedX ∨ cmd.type = .speedXY →
    ∀ stepper ∈ state.axisX.stepper, stepper.TakesVelocity driver cmd.speedX
  axisY : cmd.type = .speedY ∨ cmd.type = .speedXY →
    ∀ stepper ∈ state.axisY.stepper, stepper.TakesVelocity driver cmd.speedY

/-! ## The magnitude -/

section Magnitude

variable {velocity : Int32}

/-- The rate that is requested, for any velocity. -/
theorem toUInt32_speedMagnitude (velocity : Int32) :
    (Axis.speedMagnitude velocity).toUInt32 = UInt32.ofNat velocity.toInt.natAbs := by
  unfold Axis.speedMagnitude
  by_cases hforward : 0 < velocity
  · rw [if_pos hforward]
    exact SignedWord.toUInt32_of_pos hforward
  · rw [if_neg hforward]
    exact SignedWord.toUInt32_neg_of_not_pos hforward

/-- As an `int32_t` the magnitude is right but for `-2^31`. -/
theorem toInt_speedMagnitude_iff :
    (Axis.speedMagnitude velocity).toInt = velocity.toInt.natAbs ↔
      velocity ≠ Int32.minValue := by
  unfold Axis.speedMagnitude
  by_cases hforward : 0 < velocity
  · rw [if_pos hforward]
    apply iff_of_true
    · exact SignedWord.toInt_of_pos hforward
    · rintro rfl
      exact absurd hforward (by decide)
  · rw [if_neg hforward]
    exact SignedWord.toInt_neg_iff hforward

end Magnitude

/-! ## One axis -/

section Orders

variable {driver} {max} {velocity : Int32} {axis : Axis Motor} {stepper : Stepper Motor}

theorem run_speed_of_some (hstepper : axis.stepper = some stepper) :
    ((AxisOrder.speed velocity).run driver axis).1 =
      (Axis.orderAtRate driver stepper axis.isRunning (Axis.speedMagnitude velocity).toUInt32
        (if 0 < velocity then .runForward else .runBackward)).1 := by
  simp only [AxisOrder.run, Axis.speed, hstepper]
  split_ifs <;> rfl

theorem accepts_magnitude_iff (hlimits : driver.LimitsRate max) (motor : Motor) :
    driver.accepts motor (Axis.speedMagnitude velocity).toUInt32 = true ↔
      0 < velocity.toInt.natAbs ∧ velocity.toInt.natAbs ≤ max := by
  rw [hlimits.accepts_iff, toUInt32_speedMagnitude, SignedWord.toNat_ofNat_natAbs]

/-- A rejected rate leaves the motor alone. -/
theorem motor_run_speed_of_rejected (hlimits : driver.LimitsRate max)
    (hstepper : axis.stepper = some stepper)
    (hrejected : driver.accepts stepper.motor (Axis.speedMagnitude velocity).toUInt32 = false) :
    ((AxisOrder.speed velocity).run driver axis).1.motor = some stepper.motor := by
  have hcode : ¬ (driver.setSpeedInHz stepper.motor
      (Axis.speedMagnitude velocity).toUInt32).1 = 0 := by
    simpa [FastAccelStepper.accepts] using hrejected
  have hkept := hlimits.rejected _ _ hrejected
  rw [run_speed_of_some hstepper]
  simp [Axis.orderAtRate, Stepper.invoke, FastAccelStepper.perform, hcode, hkept, Axis.motor]

/-- **One axis** obeys a velocity exactly when it can take it. -/
theorem obeys_iff (hlimits : driver.LimitsRate max) (hstepper : axis.stepper = some stepper) :
    Axis.Obeys driver max velocity stepper axis ((AxisOrder.speed velocity).run driver axis).1 ↔
      stepper.TakesVelocity driver velocity := by
  have haccepts : driver.accepts stepper.motor (Axis.speedMagnitude velocity).toUInt32 = true ↔
      0 < velocity.toInt.natAbs ∧ velocity.toInt.natAbs ≤ max :=
    accepts_magnitude_iff hlimits stepper.motor
  have hcalls : Axis.newCalls axis ((AxisOrder.speed velocity).run driver axis).1 =
      Axis.callsAtRate driver stepper.motor (Axis.speedMagnitude velocity).toUInt32
        (if 0 < velocity then .runForward else .runBackward) := by
    rw [AxisOrder.newCalls_run _ hstepper, AxisOrder.calls]
  constructor
  · intro hobeys
    refine ⟨toInt_speedMagnitude_iff.mp hobeys.magnitude, ?_⟩
    intro hzero
    by_contra hrunning
    have hrejected : driver.accepts stepper.motor
        (Axis.speedMagnitude velocity).toUInt32 = false := by
      rw [Bool.eq_false_iff, Ne, haccepts, SignedWord.natAbs_eq_zero.mpr hzero]
      omega
    -- rate 0 is rejected, so a running motor is left as it was
    refine hobeys.zero hzero ⟨Bool.eq_true_of_not_eq_false hrunning, ?_⟩
    exact motor_run_speed_of_rejected hlimits hstepper hrejected
  · rintro ⟨hleast, hidle⟩
    refine ⟨?_, ?_, ?_, toInt_speedMagnitude_iff.mpr hleast⟩
    · intro hpositive hmax
      rw [hcalls, Axis.callsAtRate, if_pos (haccepts.mpr ⟨hpositive, hmax⟩),
        toUInt32_speedMagnitude]
    · intro hmax
      have hrejected : driver.accepts stepper.motor
          (Axis.speedMagnitude velocity).toUInt32 = false := by
        rw [Bool.eq_false_iff, Ne, haccepts]
        omega
      refine ⟨motor_run_speed_of_rejected hlimits hstepper hrejected, ?_⟩
      intro call hcall
      rw [hcalls, Axis.mem_callsAtRate, hrejected] at hcall
      obtain rfl := hcall.resolve_right fun haccepted => Bool.false_ne_true haccepted.1
      rfl
    · rintro hzero ⟨hrunning, -⟩
      rw [hidle hzero] at hrunning
      exact Bool.false_ne_true hrunning

theorem orderX_of_speed {cmd : Ph5Command} (htype : cmd.type = .speedX ∨ cmd.type = .speedXY) :
    cmd.orderX = .speed cmd.speedX := by
  rcases htype with htype | htype <;> simp only [Ph5Command.orderX, htype]

theorem orderY_of_speed {cmd : Ph5Command} (htype : cmd.type = .speedY ∨ cmd.type = .speedXY) :
    cmd.orderY = .speed cmd.speedY := by
  rcases htype with htype | htype <;> simp only [Ph5Command.orderY, htype]

end Orders

/-! ## Commands -/

variable {driver} {max}

/-- **Velocity commands.** Every connected axis a command addresses obeys its velocity if
and only if none of the velocities is `-2^31`, or 0 for an axis that is running. -/
theorem velocities_obeyed_iff (hlimits : driver.LimitsRate max) (cmd : Ph5Command)
    (state : State Motor) :
    VelocitiesObeyed driver max cmd state ↔ VelocitiesTaken driver cmd state := by
  have hx (htype : cmd.type = .speedX ∨ cmd.type = .speedXY) {stepper : Stepper Motor}
      (hstepper : state.axisX.stepper = some stepper) :
      Axis.Obeys driver max cmd.speedX stepper state.axisX
          (processCommand driver cmd state).1.axisX ↔
        stepper.TakesVelocity driver cmd.speedX := by
    rw [processCommand_axisX, orderX_of_speed htype]
    exact obeys_iff hlimits hstepper
  have hy (htype : cmd.type = .speedY ∨ cmd.type = .speedXY) {stepper : Stepper Motor}
      (hstepper : state.axisY.stepper = some stepper) :
      Axis.Obeys driver max cmd.speedY stepper state.axisY
          (processCommand driver cmd state).1.axisY ↔
        stepper.TakesVelocity driver cmd.speedY := by
    rw [processCommand_axisY, orderY_of_speed htype]
    exact obeys_iff hlimits hstepper
  constructor
  · rintro ⟨hobeysX, hobeysY⟩
    refine ⟨?_, ?_⟩
    · intro htype stepper hstepper
      exact (hx htype hstepper).mp (hobeysX htype stepper hstepper)
    · intro htype stepper hstepper
      exact (hy htype hstepper).mp (hobeysY htype stepper hstepper)
  · rintro ⟨htakesX, htakesY⟩
    refine ⟨?_, ?_⟩
    · intro htype stepper hstepper
      exact (hx htype hstepper).mpr (htakesX htype stepper hstepper)
    · intro htype stepper hstepper
      exact (hy htype hstepper).mpr (htakesY htype stepper hstepper)

theorem benchDriver_setSpeedInHz (motor : BenchMotor) (rate : UInt32) :
    benchDriver.setSpeedInHz motor rate =
      if 0 < rate.toNat ∧ rate.toNat ≤ 200000 then (0, { motor with rate := rate })
      else (-1, motor) := rfl

theorem benchDriver_limitsRate : benchDriver.LimitsRate 200000 where
  accepts_iff motor rate := by
    rw [FastAccelStepper.accepts, benchDriver_setSpeedInHz]
    by_cases hrange : 0 < rate.toNat ∧ rate.toNat ≤ 200000
    · rw [if_pos hrange]
      exact iff_of_true rfl hrange
    · rw [if_neg hrange]
      exact iff_of_false Bool.false_ne_true hrange
  rejected motor rate hrejected := by
    rw [FastAccelStepper.accepts, benchDriver_setSpeedInHz] at hrejected
    rw [benchDriver_setSpeedInHz]
    by_cases hrange : 0 < rate.toNat ∧ rate.toNat ≤ 200000
    · rw [if_pos hrange] at hrejected
      exact absurd hrejected.symm Bool.false_ne_true
    · rw [if_neg hrange]
  max_lt := by decide

/-- X runs backward, Y is idle. -/
def runningState : State BenchMotor :=
  { benchState 0 0 with
    axisX :=
      { stepper := some
          { motor := { BenchMotor.atRest 0 with rate := 800, endless := true }, calls := [] }
        isRunning := true } }

def speedCommand (speedX speedY : Int32) : Ph5Command :=
  { Ph5Command.fresh with type := .speedXY, speedX := speedX, speedY := speedY }

/-- A running axis is given the velocity 1200, an idle one 0. -/
theorem velocities_obeyed_idle :
    VelocitiesObeyed benchDriver 200000 (speedCommand 1200 0) runningState := by
  refine (velocities_obeyed_iff benchDriver_limitsRate _ _).mpr ⟨?_, ?_⟩
  · rintro - stepper hstepper
    exact ⟨by decide, fun hzero => absurd hzero (by decide)⟩
  · rintro - stepper hstepper
    obtain rfl := Option.some.inj hstepper
    exact ⟨by decide, fun _ => rfl⟩

/-- Velocity 0 leaves the X axis running as it was, and the magnitude of `-2^31` is
negative. -/
theorem zero_and_least_not_obeyed :
    (benchDriver.LimitsRate 200000 ∧
        ¬ VelocitiesObeyed benchDriver 200000 (speedCommand 0 1200) runningState) ∧
      ¬ VelocitiesObeyed benchDriver 200000 (speedCommand 1200 Int32.minValue) runningState := by
  refine ⟨⟨benchDriver_limitsRate, ?_⟩, ?_⟩
  · intro hobeyed
    exact (hobeyed.axisX (.inr rfl) _ rfl).zero rfl ⟨rfl, by decide⟩
  · intro hobeyed
    exact absurd (hobeyed.axisY (.inr rfl) _ rfl).magnitude (by decide)

end Ph5Firmware
