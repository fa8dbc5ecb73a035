import Ph5Firmware.Bench
import Ph5Firmware.Dispatch

/-!
# Combined commands

Five families of commands come in three types, one for each axis and one for
both.  The combined type is meant to do what the two single-axis types do, one
after the other in either order.

Each dispatch touches the two axes separately, so two dispatches that address
different axes commute and merge (`dispatch_keep_right`, `dispatch_keep_left`).
What is left to compare is the order for Y: in the families `MOVE` and `MOVE_TO`
one of the two types that address Y reads the X position and the other the Y
position.
-/

namespace Ph5Firmware

inductive CommandFamily where
  | move
  | moveTo
  | speed
  | stop
  | setPos
  deriving DecidableEq

namespace CommandFamily

def typeX : CommandFamily → Ph5CommandType
  | move => .moveX
  | moveTo => .moveToX
  | speed => .speedX
  | stop => .stopX
  | setPos => .setPosX

def typeY : CommandFamily → Ph5CommandType
  | move => .moveY
  | moveTo => .moveToY
  | speed => .speedY
  | stop => .stopY
  | setPos => .setPosY

def typeXY : CommandFamily → Ph5CommandType
  | move => .moveXY
  | moveTo => .moveToXY
  | speed => .speedXY
  | stop => .stopXY
  | setPos => .setPosXY

/-- The families whose orders carry a target and a rate. -/
def rated : CommandFamily → Bool
  | move | moveTo => true
  | _ => false

end CommandFamily

def Ph5Command.ofType (cmd : Ph5Command) (type : Ph5CommandType) : Ph5Command :=
  { cmd with type := type }

variable {Motor : Type*} {driver : FastAccelStepper Motor}

/-! ## Dispatches to different axes -/

theorem dispatch_keep_right (x y : AxisOrder) (first second : Bool) (state : State Motor) :
    (state.dispatch driver x .keep first).dispatch driver .keep y second =
      state.dispatch driver x y (first || second) := by
  simp only [State.dispatch, AxisOrder.run_keep, IntervalTimer.forceIf_forceIf, Bool.false_or]
  ac_rfl

theorem dispatch_keep_left (x y : AxisOrder) (first second : Bool) (state : State Motor) :
    (state.dispatch driver .keep y first).dispatch driver x .keep second =
      state.dispatch driver x y (first || second) := by
  simp only [State.dispatch, AxisOrder.run_keep, IntervalTimer.forceIf_forceIf, Bool.false_or]
  ac_rfl

/-! ## The three types of a family -/

section Family

variable (family : CommandFamily) (cmd : Ph5Command)

theorem orderX_typeY : (cmd.ofType family.typeY).orderX = .keep := by
  cases family <;> rfl

theorem orderY_typeX : (cmd.ofType family.typeX).orderY = .keep := by
  cases family <;> rfl

theorem orderX_typeXY : (cmd.ofType family.typeXY).orderX = (cmd.ofType family.typeX).orderX := by
  cases family <;> rfl

theorem alwaysForces_types :
    (cmd.ofType family.typeX).alwaysForces = (cmd.ofType family.typeXY).alwaysForces ∧
      (cmd.ofType family.typeY).alwaysForces = (cmd.ofType family.typeXY).alwaysForces := by
  cases family <;> exact ⟨rfl, rfl⟩

/-- The two single-axis commands commute, and together they are one dispatch. -/
theorem processCommand_typeX_typeY (state : State Motor) :
    (processCommand driver (cmd.ofType family.typeY)
        (processCommand driver (cmd.ofType family.typeX) state).1).1 =
        state.dispatch driver (cmd.ofType family.typeXY).orderX (cmd.ofType family.typeY).orderY
          (cmd.ofType family.typeXY).alwaysForces ∧
      (processCommand driver (cmd.ofType family.typeX)
        (processCommand driver (cmd.ofType family.typeY) state).1).1 =
        state.dispatch driver (cmd.ofType family.typeXY).orderX (cmd.ofType family.typeY).orderY
          (cmd.ofType family.typeXY).alwaysForces := by
  obtain ⟨hforcesX, hforcesY⟩ := alwaysForces_types family cmd
  simp only [processCommand_eq_dispatch, orderX_typeY, orderY_typeX, hforcesX, hforcesY]
  rw [dispatch_keep_right, dispatch_keep_left, Bool.or_self, orderX_typeXY]
  exact ⟨rfl, rfl⟩

/-- Whether the Y stepper is told the same by the combined and the single type. -/
theorem effect_typeXY_iff (htargets : driver.TargetsDiffer) (axis : Axis Motor) :
    (cmd.ofType family.typeXY).orderY.effect driver axis =
        (cmd.ofType family.typeY).orderY.effect driver axis ↔
      (family.rated = true → axis.accepts driver cmd.speedY = true → cmd.posX = cmd.posY) := by
  have hpositions : cmd.posY = cmd.posX ↔ cmd.posX = cmd.posY := eq_comm
  cases family with
  | move =>
      show (AxisOrder.move cmd.speedY cmd.posY).effect driver axis =
        (AxisOrder.move cmd.speedY cmd.posX).effect driver axis ↔ _
      rw [effect_move_eq_iff htargets, hpositions]
      simp [CommandFamily.rated]
  | moveTo =>
      show (AxisOrder.moveTo cmd.speedY cmd.posX).effect driver axis =
        (AxisOrder.moveTo cmd.speedY cmd.posY).effect driver axis ↔ _
      rw [effect_moveTo_eq_iff htargets]
      simp [CommandFamily.rated]
  | speed => exact iff_of_true rfl (by simp [CommandFamily.rated])
  | stop => exact iff_of_true rfl (by simp [CommandFamily.rated])
  | setPos => exact iff_of_true rfl (by simp [CommandFamily.rated])

theorem run_typeXY_snd (axis : Axis Motor) :
    ((cmd.ofType family.typeXY).orderY.run driver axis).2 =
      ((cmd.ofType family.typeY).orderY.run driver axis).2 := by
  cases family with
  | move | moveTo =>
      exact (Axis.rated_snd _ _ _).trans (Axis.rated_snd _ _ _).symm
  | _ => rfl

/-- **A combined command** ends in the same outcome as its two single-axis
commands, in either order, exactly when the Y stepper takes no target that the
two read from different fields. -/
theorem processCommand_typeXY_iff (htargets : driver.TargetsDiffer) (state : State Motor) :
    ((processCommand driver (cmd.ofType family.typeXY) state).1.outcome =
          (processCommand driver (cmd.ofType family.typeY)
            (processCommand driver (cmd.ofType family.typeX) state).1).1.outcome ∧
        (processCommand driver (cmd.ofType family.typeXY) state).1.outcome =
          (processCommand driver (cmd.ofType family.typeX)
            (processCommand driver (cmd.ofType family.typeY) state).1).1.outcome) ↔
      (family.rated = true → state.axisY.accepts driver cmd.speedY = true →
        cmd.posX = cmd.posY) := by
  obtain ⟨hxy, hyx⟩ := @processCommand_typeX_typeY _ driver family cmd state
  rw [hxy, hyx, and_self, processCommand_eq_dispatch, outcome_dispatch, outcome_dispatch,
    ← effect_typeXY_iff family cmd htargets state.axisY, Prod.ext_iff]
  simp only [Outcome.mk.injEq, run_typeXY_snd, true_and, and_true]

end Family

/-- `MOVE_XY` to (3, 4) moves Y by 4 steps, `MOVE_X` and `MOVE_Y` move it by 3. -/
theorem moveXY_differs_from_moveX_moveY :
    benchDriver.TargetsDiffer ∧
      ∃ cmd : Ph5Command,
        (processCommand benchDriver (cmd.ofType .moveXY) (benchState 0 0)).1.outcome ≠
          (processCommand benchDriver (cmd.ofType .moveY)
            (processCommand benchDriver (cmd.ofType .moveX) (benchState 0 0)).1).1.outcome :=
  ⟨benchDriver_targetsDiffer,
    { id := 1, type := .moveXY, posX := 3, speedX := 1000, posY := 4, speedY := 1000 }, by decide⟩

/-- Speeds are read from the right fields. -/
theorem speedXY_agrees_with_speedX_speedY :
    let cmd : Ph5Command :=
      { id := 1, type := .speedXY, posX := 1, speedX := -700, posY := 2, speedY := 900 }
    ((processCommand benchDriver (cmd.ofType .speedXY) (benchState 0 0)).1.outcome =
        (processCommand benchDriver (cmd.ofType .speedY)
          (processCommand benchDriver (cmd.ofType .speedX) (benchState 0 0)).1).1.outcome) ∧
      (processCommand benchDriver (cmd.ofType .speedXY) (benchState 0 0)).1.outcome =
        (processCommand benchDriver (cmd.ofType .speedX)
          (processCommand benchDriver (cmd.ofType .speedY) (benchState 0 0)).1).1.outcome :=
  (processCommand_typeXY_iff .speed _ benchDriver_targetsDiffer _).mpr (by decide)

end Ph5Firmware
