import Ph5Firmware.Bench
import Ph5Firmware.Library.Runs
import Ph5Firmware.Loop

/-!
# Reporting run-state changes

When the run state of an axis has changed since the previous iteration, both status
timers should fire in this one.  The samples of the previous iteration are not kept
by the program; it compares with the run flags, which commands also write.  A
`SampledState` keeps the samples next to the state.

* `Reporting`: a run flag that differs from the last sample was written by a command,
  which has forced `stateTimer`; `broadcastStatusTimer` is never left forced.
* `reports_loop_iff`: `stateTimer` fires at every change; `broadcastStatusTimer`
  needs an edge between a run flag and its sample, or its own period to be over.
* `changes_reported_iff`: whole runs.
-/

namespace Ph5Firmware

variable {Motor : Type*} (driver : FastAccelStepper Motor)

/-- A state and the samples of the previous iteration. -/
structure SampledState (Motor : Type*) where
  state : State Motor
  sampleX : Bool
  sampleY : Bool
  deriving DecidableEq

namespace SampledState

def initial (state : State Motor) : SampledState Motor :=
  { state := state, sampleX := false, sampleY := false }

/-- One event; an iteration samples both axes. -/
def step (config : Config) (sampled : SampledState Motor) (event : Event Motor) :
    SampledState Motor :=
  match event with
  | .iterate input =>
      { state := (loop driver config input sampled.state).1
        sampleX := sampled.state.axisX.running driver
        sampleY := sampled.state.axisY.running driver }
  | _ => { sampled with state := Ph5Firmware.step driver config sampled.state event }

def changed (sampled : SampledState Motor) : Bool :=
  sampled.state.axisX.running driver != sampled.sampleX ||
    sampled.state.axisY.running driver != sampled.sampleY

/-- A changed sample is reported by both timers, each if it has been started. -/
def Reports (config : Config) (sampled : SampledState Motor) : Event Motor → Prop
  | .iterate input =>
      sampled.changed driver = true →
        (sampled.state.stateTimer.isRunning_ = true →
            (loop driver config input sampled.state).2.stateTimer = true) ∧
          (sampled.state.broadcastStatusTimer.isRunning_ = true →
            (loop driver config input sampled.state).2.broadcastStatusTimer = true)
  | _ => True

/-- At a changed sample, some run flag still differs from its sample, or the
broadcast is due by itself. -/
def EdgeOrDue (sampled : SampledState Motor) : Event Motor → Prop
  | .iterate input =>
      sampled.changed driver = true → sampled.state.broadcastStatusTimer.isRunning_ = true →
        sampled.state.edges driver = true ∨
          sampled.state.broadcastStatusTimer.triggerTime_ ≤ input.clocks.broadcastStatusTimer
  | _ => True

instance (config : Config) (sampled : SampledState Motor) (event : Event Motor) :
    Decidable (sampled.Reports driver config event) :=
  match event with
  | .iterate _ => inferInstanceAs (Decidable (_ → _ ∧ _))
  | .command _ | .motorX _ | .motorY _ | .displayRequest => .isTrue trivial

end SampledState

/-- A run flag that differs from the last sample comes with a forced status.  Without
a stepper there is neither. -/
def Axis.Accounted (sample forced : Bool) (axis : Axis Motor) : Prop :=
  (axis.isRunning ≠ sample → forced = true) ∧
    (axis.stepper = none → axis.isRunning = false ∧ sample = false)

/-- What holds between events. -/
structure Reporting (config : Config) (sampled : SampledState Motor) : Prop where
  stateTimer : sampled.state.stateTimer.isRunning_ = config.sendMqttStatus
  broadcastStatusTimer :
    sampled.state.broadcastStatusTimer.isRunning_ = config.broadcastsStatus
  unforced : config.broadcastsStatus = true →
    sampled.state.broadcastStatusTimer.forceTrigger_ = false
  axisX : sampled.state.axisX.Accounted sampled.sampleX sampled.state.stateTimer.forceTrigger_
  axisY : sampled.state.axisY.Accounted sampled.sampleY sampled.state.stateTimer.forceTrigger_

/-! ## Commands -/

namespace AxisOrder

variable {driver}

/-- An order that does not force a status leaves the run flag alone. -/
theorem run_isRunning (order : AxisOrder) {axis : Axis Motor}
    (hquiet : (order.run driver axis).2 = false) :
    (order.run driver axis).1.isRunning = axis.isRunning := by
  cases order with
  | keep => rfl
  | move rate position | moveTo rate position =>
      simp only [AxisOrder.run, Axis.rated, Axis.orderAtRate] at hquiet ⊢
      cases hstepper : axis.stepper with
      | none => simp only
      | some stepper =>
          simp only [hstepper] at hquiet ⊢
          -- an order the driver takes is not quiet
          split_ifs at hquiet ⊢ with hcode
          rfl
  | speed velocity =>
      simp only [AxisOrder.run, Axis.speed] at hquiet ⊢
      cases hstepper : axis.stepper with
      | none => simp only
      | some stepper =>
          simp only [hstepper] at hquiet
          split_ifs at hquiet
  | stop | forceStop =>
      simp only [AxisOrder.run, Axis.halt]
      cases hstepper : axis.stepper with
      | none => simp only
      | some stepper => simp only
  | setPos position =>
      simp only [AxisOrder.run, Axis.setPos]
      cases hstepper : axis.stepper with
      | none => simp only
      | some stepper =>
          simp only
          split_ifs <;> rfl

theorem run_stepper_eq_none (order : AxisOrder) (axis : Axis Motor) :
    (order.run driver axis).1.stepper = none ↔ axis.stepper = none := by
  cases hstepper : axis.stepper with
  | none =>
      cases order <;>
        simp [AxisOrder.run, Axis.rated, Axis.speed, Axis.halt, Axis.setPos, hstepper]
  | some stepper =>
      cases order with
      | keep | stop | forceStop => simp [AxisOrder.run, Axis.halt, hstepper]
      | move rate position | moveTo rate position =>
          simp only [AxisOrder.run, Axis.rated, Axis.orderAtRate, hstepper]
          split_ifs <;> simp
      | speed velocity =>
          simp only [AxisOrder.run, Axis.speed, Axis.orderAtRate, hstepper]
          split_ifs <;> simp
      | setPos position =>
          simp only [AxisOrder.run, Axis.setPos, hstepper]
          split_ifs <;> simp [hstepper]

theorem accounted_run {sample forced : Bool} {axis : Axis Motor}
    (haccounted : axis.Accounted sample forced) (order : AxisOrder) {forces : Bool}
    (hforces : (order.run driver axis).2 = true → forces = true) :
    (order.run driver axis).1.Accounted sample (forced || forces) := by
  constructor
  · intro hdiffers
    by_cases hquiet : (order.run driver axis).2 = true
    · rw [hforces hquiet, Bool.or_true]
    · rw [run_isRunning order (Bool.not_eq_true _ ▸ hquiet)] at hdiffers
      rw [haccounted.1 hdiffers, Bool.true_or]
  · intro hnone
    have habsent := (run_stepper_eq_none order axis).mp hnone
    have hquiet : (order.run driver axis).2 = false := by
      cases order <;>
        simp [AxisOrder.run, Axis.rated, Axis.speed, Axis.halt, Axis.setPos, habsent]
    rw [run_isRunning order hquiet]
    exact haccounted.2 habsent

end AxisOrder

/-! ## One iteration -/

theorem SampledState.step_state (config : Config) (sampled : SampledState Motor)
    (event : Event Motor) :
    (sampled.step driver config event).state =
      Ph5Firmware.step driver config sampled.state event := by
  cases event <;> rfl

section Iteration

variable {driver} {config : Config}

/-- An axis whose sample has changed without an edge has a forced status. -/
theorem Axis.Accounted.forced_of_changed {sample forced : Bool} {axis : Axis Motor}
    (haccounted : axis.Accounted sample forced) (hchanged : axis.running driver ≠ sample)
    (hedge : axis.edge driver = false) : forced = true := by
  unfold Axis.running at hchanged
  unfold Axis.edge at hedge
  cases hstepper : axis.stepper with
  | none =>
      rw [(haccounted.2 hstepper).2, hstepper] at hchanged
      exact absurd rfl hchanged
  | some stepper =>
      simp only [hstepper, bne_eq_false_iff_eq] at hchanged hedge
      exact haccounted.1 (hedge ▸ hchanged)

theorem Axis.Accounted.sampled {sample forced : Bool} {axis : Axis Motor}
    (haccounted : axis.Accounted sample forced) (forced' : Bool) :
    (axis.sampled driver).Accounted (axis.running driver) forced' := by
  unfold Axis.sampled Axis.running
  cases hstepper : axis.stepper with
  | none =>
      have hflag := (haccounted.2 hstepper).1
      constructor
      · intro hdiffers
        exact absurd hflag hdiffers
      · intro _
        exact ⟨hflag, rfl⟩
  | some stepper =>
      constructor
      · intro hdiffers
        exact absurd rfl hdiffers
      · intro hnone
        exact absurd hnone (Option.some_ne_none stepper)

variable {input : LoopInput} {sampled : SampledState Motor}

/-- A changed sample always makes `stateTimer` fire. -/
theorem fires_stateTimer_of_changed (hreporting : Reporting config sampled)
    (hchanged : sampled.changed driver = true)
    (hrunning : sampled.state.stateTimer.isRunning_ = true) :
    (loop driver config input sampled.state).2.stateTimer = true := by
  have hsend : config.sendMqttStatus = true := hreporting.stateTimer.symm.trans hrunning
  rw [loop_fires_stateTimer_iff hsend hrunning]
  left
  by_cases hedges : sampled.state.edges driver = true
  · exact .inr hedges
  · -- without an edge, a command has written the flag and forced the timer
    obtain ⟨hedgeX, hedgeY⟩ := Bool.or_eq_false_iff.mp (Bool.not_eq_true _ ▸ hedges)
    rcases Bool.or_eq_true_iff.mp hchanged with hx | hy
    · exact .inl (hreporting.axisX.forced_of_changed (bne_iff_ne.mp hx) hedgeX)
    · exact .inl (hreporting.axisY.forced_of_changed (bne_iff_ne.mp hy) hedgeY)

theorem fires_broadcastStatusTimer_iff (hreporting : Reporting config sampled)
    (hrunning : sampled.state.broadcastStatusTimer.isRunning_ = true) :
    (loop driver config input sampled.state).2.broadcastStatusTimer = true ↔
      sampled.state.edges driver = true ∨
        sampled.state.broadcastStatusTimer.triggerTime_ ≤ input.clocks.broadcastStatusTimer := by
  have henabled : config.broadcastsStatus = true :=
    hreporting.broadcastStatusTimer.symm.trans hrunning
  rw [loop_fires_broadcastStatusTimer, IntervalTimer.handleIf_snd, henabled, IntervalTimer.due,
    IntervalTimer.forceIf_isRunning_, hrunning, IntervalTimer.forceIf_forceTrigger_,
    hreporting.unforced henabled, IntervalTimer.forceIf_triggerTime_]
  simp only [Bool.true_and, Bool.false_or, Bool.or_eq_true, decide_eq_true_eq]

/-- **One iteration.** A change is reported exactly when there is an edge or the
broadcast is due. -/
theorem reports_loop_iff (hreporting : Reporting config sampled) :
    sampled.Reports driver config (.iterate input) ↔
      sampled.EdgeOrDue driver (.iterate input) := by
  simp only [SampledState.Reports, SampledState.EdgeOrDue]
  constructor
  · intro hreports hchanged hrunning
    exact (fires_broadcastStatusTimer_iff hreporting hrunning).mp
      ((hreports hchanged).2 hrunning)
  · intro hedge hchanged
    constructor
    · intro hrunning
      exact fires_stateTimer_of_changed hreporting hchanged hrunning
    · intro hrunning
      exact (fires_broadcastStatusTimer_iff hreporting hrunning).mpr (hedge hchanged hrunning)

theorem reporting_loop (hreporting : Reporting config sampled) :
    Reporting config (sampled.step driver config (.iterate input)) where
  stateTimer := by
    rw [SampledState.step_state, step_stateTimer_isRunning_]
    exact hreporting.stateTimer
  broadcastStatusTimer := by
    simp only [SampledState.step, loop_broadcastStatusTimer, IntervalTimer.handleIf_isRunning_,
      IntervalTimer.forceIf_isRunning_]
    exact hreporting.broadcastStatusTimer
  unforced henabled := by
    simp only [SampledState.step, loop_broadcastStatusTimer, IntervalTimer.handleIf, henabled,
      if_true]
    apply IntervalTimer.handle_forceTrigger_
    rw [IntervalTimer.forceIf_isRunning_, hreporting.broadcastStatusTimer, henabled]
  axisX := by
    simp only [SampledState.step, loop_axisX]
    exact hreporting.axisX.sampled _
  axisY := by
    simp only [SampledState.step, loop_axisY]
    exact hreporting.axisY.sampled _

end Iteration

/-! ## Runs -/

section Runs

variable {driver} {config : Config} {sampled : SampledState Motor}

theorem Axis.Accounted.withMotor {sample forced : Bool} {axis : Axis Motor}
    (haccounted : axis.Accounted sample forced) (motor : Motor) :
    (axis.withMotor motor).Accounted sample forced := by
  refine ⟨haccounted.1, ?_⟩
  intro hnone
  apply haccounted.2
  simpa [Axis.withMotor] using hnone

theorem reporting_command (hreporting : Reporting config sampled) (cmd : Ph5Command) :
    Reporting config (sampled.step driver config (.command cmd)) := by
  have hrunning : (sampled.step driver config (.command cmd)).state.stateTimer.isRunning_ =
      config.sendMqttStatus := by
    rw [SampledState.step_state, step_stateTimer_isRunning_]
    exact hreporting.stateTimer
  simp only [SampledState.step, step, processCommand_eq_dispatch] at hrunning ⊢
  exact
    { stateTimer := hrunning
      broadcastStatusTimer := hreporting.broadcastStatusTimer
      unforced := hreporting.unforced
      axisX := by
        simp only [State.dispatch, IntervalTimer.forceIf_forceTrigger_]
        exact AxisOrder.accounted_run hreporting.axisX cmd.orderX fun hforces => by
          rw [hforces, Bool.true_or, Bool.true_or]
      axisY := by
        simp only [State.dispatch, IntervalTimer.forceIf_forceTrigger_]
        exact AxisOrder.accounted_run hreporting.axisY cmd.orderY fun hforces => by
          rw [hforces, Bool.or_true, Bool.true_or] }

theorem reporting_step (hreporting : Reporting config sampled) (event : Event Motor) :
    Reporting config (sampled.step driver config event) := by
  cases event with
  | command cmd => exact reporting_command hreporting cmd
  | motorX motor => exact { hreporting with axisX := hreporting.axisX.withMotor motor }
  | motorY motor => exact { hreporting with axisY := hreporting.axisY.withMotor motor }
  | displayRequest => exact { hreporting with }
  | iterate input => exact reporting_loop hreporting

theorem reports_iff_edgeOrDue (hreporting : Reporting config sampled) (event : Event Motor) :
    sampled.Reports driver config event ↔ sampled.EdgeOrDue driver event := by
  cases event with
  | iterate input => exact reports_loop_iff hreporting
  | _ => exact Iff.rfl

theorem setup_reporting (clocks : SetupClocks) (stepperX stepperY : Option (Stepper Motor)) :
    Reporting config (SampledState.initial (setup config clocks stepperX stepperY)) where
  stateTimer := by
    unfold SampledState.initial setup
    cases config.sendMqttStatus <;> rfl
  broadcastStatusTimer := by
    unfold SampledState.initial setup
    cases config.broadcastsStatus <;> rfl
  unforced henabled := by
    simp only [SampledState.initial, setup, henabled, if_true]
    rfl
  axisX := ⟨fun hdiffers => absurd rfl hdiffers, fun _ => ⟨rfl, rfl⟩⟩
  axisY := ⟨fun hdiffers => absurd rfl hdiffers, fun _ => ⟨rfl, rfl⟩⟩

/-- **Reporting.** Along a run from the start of the program every changed sample is
reported by both timers if and only if, at every changed sample, there is an edge or
the broadcast is due. -/
theorem changes_reported_iff (clocks : SetupClocks) (stepperX stepperY : Option (Stepper Motor))
    (events : List (Event Motor)) :
    Run.Along (SampledState.step driver config) (SampledState.Reports driver config)
        (.initial (setup config clocks stepperX stepperY)) events ↔
      Run.Along (SampledState.step driver config) (SampledState.EdgeOrDue driver)
        (.initial (setup config clocks stepperX stepperY)) events := by
  refine Run.along_iff ?_ ?_ (setup_reporting clocks stepperX stepperY)
    (Run.along_of_forall (P := fun _ _ => True) (fun _ _ => trivial) _ events)
  · intro sampled event hreporting _
    exact reports_iff_edgeOrDue hreporting event
  · intro sampled event hreporting _ _
    exact reporting_step hreporting event

end Runs

/-- A move ordered just before an iteration, 50 ms after the last broadcast. -/
def moveUnseen : List (Event BenchMotor) :=
  [.iterate (benchInput 100),
    .command { Ph5Command.fresh with type := .moveX, posX := 5, speedX := 1000 },
    .iterate (benchInput 150)]

/-- The command has already set the run flag, so the change is not broadcast. -/
theorem moveUnseen_not_reported :
    ¬ Run.Along (SampledState.step benchDriver .shipped)
      (SampledState.Reports benchDriver .shipped) (.initial benchSetup) moveUnseen := by
  decide

end Ph5Firmware
