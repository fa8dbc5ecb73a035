import Ph5Firmware.Bench
import Ph5Firmware.Dispatch

/-!
# Exchanging the axes

`processCommand` is meant to treat the two axes alike: exchanging them in the
command and in the state should exchange them in the result.  It does so except
when a crossed case (`MOVE_Y`, `MOVE_TO_XY`) hands a stepper the wrong position.
`processCommand_swap_iff` says exactly when that shows: a stepper takes the order
of a crossed case, or of its mirror image `MOVE_X`, and the two positions of the
command differ.
-/

namespace Ph5Firmware

variable {Motor : Type*} {driver : FastAccelStepper Motor}

/-- No stepper takes an order whose target depends on which axis is called X. -/
def SwapHarmless (driver : FastAccelStepper Motor) (cmd : Ph5Command) (state : State Motor) :
    Prop :=
  match cmd.type with
  | .moveX => state.axisX.accepts driver cmd.speedX = true → cmd.posX = cmd.posY
  | .moveY => state.axisY.accepts driver cmd.speedY = true → cmd.posX = cmd.posY
  | .moveToXY =>
      state.axisX.accepts driver cmd.speedX = true ∨
        state.axisY.accepts driver cmd.speedY = true → cmd.posX = cmd.posY
  | _ => True

/-! ## Which parts of a dispatch are symmetric anyway -/

theorem alwaysForces_swap (cmd : Ph5Command) : cmd.swap.alwaysForces = cmd.alwaysForces := by
  cases htype : cmd.type <;>
    simp [Ph5Command.alwaysForces, Ph5Command.swap, Ph5CommandType.swap, htype]

theorem run_orderX_swap_snd (cmd : Ph5Command) (axis : Axis Motor) :
    (cmd.swap.orderX.run driver axis).2 = (cmd.orderY.run driver axis).2 := by
  cases htype : cmd.type <;>
    simp [Ph5Command.orderX, Ph5Command.orderY, Ph5Command.swap, Ph5CommandType.swap, htype,
      AxisOrder.run, Axis.rated_snd]

theorem outcome_swap_iff (cmd : Ph5Command) (state : State Motor) :
    (processCommand driver cmd.swap state.swap).1.outcome =
        (processCommand driver cmd state).1.swap.outcome ↔
      cmd.swap.orderX.effect driver state.axisY = cmd.orderY.effect driver state.axisY ∧
        cmd.swap.orderY.effect driver state.axisX = cmd.orderX.effect driver state.axisX := by
  have hforces : ∀ axis, (cmd.swap.orderY.run driver axis).2 = (cmd.orderX.run driver axis).2 :=
    fun axis => by rw [← run_orderX_swap_snd, Ph5Command.swap_swap]
  rw [processCommand_eq_dispatch, processCommand_eq_dispatch, outcome_dispatch]
  simp only [State.outcome, State.swap, State.dispatch, AxisOrder.effect, Outcome.mk.injEq,
    Prod.mk.injEq, IntervalTimer.forceIf_forceTrigger_, alwaysForces_swap, run_orderX_swap_snd,
    hforces, Bool.or_comm ((cmd.orderY.run driver state.axisY).2)]
  tauto

/-- **Exchanging the axes** in the command and the state exchanges them in the
outcome exactly when no stepper takes a target that depends on the names of the
axes. -/
theorem processCommand_swap_iff (htargets : driver.TargetsDiffer) (cmd : Ph5Command)
    (state : State Motor) :
    (processCommand driver cmd.swap state.swap).1.outcome =
        (processCommand driver cmd state).1.swap.outcome ↔
      SwapHarmless driver cmd state := by
  have hpositions : cmd.posY = cmd.posX ↔ cmd.posX = cmd.posY := eq_comm
  rw [outcome_swap_iff]
  unfold SwapHarmless
  cases htype : cmd.type with
  | moveX =>
      -- mirrored, the order for the stepper of X reads the other position
      simp only [Ph5Command.orderX, Ph5Command.orderY, Ph5Command.swap, Ph5CommandType.swap, htype,
        effect_move_eq_iff htargets, true_and, hpositions]
  | moveY =>
      simp only [Ph5Command.orderX, Ph5Command.orderY, Ph5Command.swap, Ph5CommandType.swap, htype,
        effect_move_eq_iff htargets, and_true, hpositions]
  | moveToXY =>
      simp only [Ph5Command.orderX, Ph5Command.orderY, Ph5Command.swap, Ph5CommandType.swap, htype,
        effect_moveTo_eq_iff htargets, hpositions, or_imp]
      exact and_comm
  | _ =>
      -- neither the command nor its mirror image is a crossed case
      have hcmd : cmd.crossed = false := by simp [Ph5Command.crossed, htype]
      have hmirror : cmd.swap.crossed = false := by
        simp [Ph5Command.crossed, Ph5Command.swap, Ph5CommandType.swap, htype]
      rw [Ph5Command.orderY_eq_orderX_swap hcmd, Ph5Command.orderY_eq_orderX_swap hmirror,
        Ph5Command.swap_swap]
      exact iff_of_true ⟨rfl, rfl⟩ trivial

/-- `MOVE_Y` by 5 steps: the Y stepper is moved by the X field, which is 0. -/
theorem moveY_swap_differs :
    benchDriver.TargetsDiffer ∧
      ∃ cmd : Ph5Command, cmd.type = .moveY ∧
        (processCommand benchDriver cmd.swap (benchState 0 0).swap).1.outcome ≠
          (processCommand benchDriver cmd (benchState 0 0)).1.swap.outcome :=
  ⟨benchDriver_targetsDiffer,
    { id := 1, type := .moveY, posX := 0, speedX := 0, posY := 5, speedY := 1000 }, rfl,
    by decide⟩

/-- With equal positions the crossed fields do not show. -/
theorem moveToXY_swap_agrees :
    let cmd : Ph5Command :=
      { id := 1, type := .moveToXY, posX := 8, speedX := 1000, posY := 8, speedY := 500 }
    (processCommand benchDriver cmd.swap (benchState 0 3).swap).1.outcome =
      (processCommand benchDriver cmd (benchState 0 3)).1.swap.outcome :=
  (processCommand_swap_iff benchDriver_targetsDiffer _ _).mpr fun _ => rfl

end Ph5Firmware
