import Ph5Firmware.Bench
import Ph5Firmware.Library.Runs
import Ph5Firmware.Loop

/-!
# The pace of status messages

While an axis runs, `stateTimer` should fire at the fast rate: two firings in a row, with
an axis sampled running in every iteration from the one to the other, should be at most
`mqttStatusFastPeriodMs` apart, and the `gap` between two iterations.  `loop` selects the
slow period instead, so the bound holds only where something else makes the timer fire
in time, or where the periods are the same to a millisecond.

A `StatusRun` keeps the last firing of the stretch in which an axis has been running.

* `Scheduled`: in such a stretch the trigger time is the slow period after the last
  firing, and no iteration since has passed it.
* `fast_iff`: one iteration.
* `status_fast_iff`: whole runs.
-/

namespace Ph5Firmware

variable {Motor : Type*} (driver : FastAccelStepper Motor) (config : Config) (gap : ℕ)

/-- A state, the time of the last firing of `stateTimer`, if an axis has been sampled
running in every iteration from then on, and the time of the last iteration. -/
structure StatusRun (Motor : Type*) where
  state : State Motor
  lastFiring : Option ℕ
  lastIteration : Option ℕ
  deriving DecidableEq

/-- The clock does not wrap, so what it shows is the time. -/
def LoopInput.time (input : LoopInput) : ℕ :=
  input.clocks.stateTimer.toNat

def State.anyRunning (state : State Motor) : Bool :=
  state.axisX.running driver || state.axisY.running driver

/-- A command has requested a status, or a run state has changed. -/
def State.statusRequested (state : State Motor) : Prop :=
  state.stateTimer.forceTrigger_ = true ∨ state.edges driver = true

namespace StatusRun

def initial (state : State Motor) : StatusRun Motor :=
  { state := state, lastFiring := none, lastIteration := none }

def step (run : StatusRun Motor) (event : Event Motor) : StatusRun Motor :=
  match event with
  | .iterate input =>
      { state := (loop driver config input run.state).1
        lastFiring :=
          if run.state.anyRunning driver then
            if (loop driver config input run.state).2.stateTimer then some input.time
            else run.lastFiring
          else none
        lastIteration := some input.time }
  | _ => { run with state := Ph5Firmware.step driver config run.state event }

/-- Time does not go back, and the iterations are at most `gap` apart. -/
def Allowed (run : StatusRun Motor) : Event Motor → Prop
  | .iterate input => ∀ previous ∈ run.lastIteration,
      previous ≤ input.time ∧ input.time ≤ previous + gap
  | _ => True

/-- A firing while an axis runs comes in time after the last one. -/
def Fast (run : StatusRun Motor) : Event Motor → Prop
  | .iterate input =>
      run.state.anyRunning driver = true →
        (loop driver config input run.state).2.stateTimer = true →
          ∀ last ∈ run.lastFiring,
            input.time ≤ last + config.mqttStatusFastPeriodMs.toNat + gap
  | _ => True

/-- While an axis runs, a status is requested, and the slow period ends, only in time
after the last firing. -/
def SlowInTime (run : StatusRun Motor) : Event Motor → Prop
  | .iterate input =>
      run.state.anyRunning driver = true →
        ∀ last ∈ run.lastFiring,
          (run.state.statusRequested driver ∨
              last + config.mqttStatusSlowPeriodMs.toNat ≤ input.time) →
            input.time ≤ last + config.mqttStatusFastPeriodMs.toNat + gap
  | _ => True

instance (state : State Motor) : Decidable (state.statusRequested driver) := by
  unfold State.statusRequested
  infer_instance

instance (run : StatusRun Motor) (event : Event Motor) : Decidable (run.Allowed gap event) :=
  match event with
  | .iterate _ => inferInstanceAs (Decidable (∀ _ ∈ _, _ ∧ _))
  | .command _ | .motorX _ | .motorY _ | .displayRequest => .isTrue trivial

instance (run : StatusRun Motor) (event : Event Motor) :
    Decidable (run.Fast driver config gap event) :=
  match event with
  | .iterate _ => inferInstanceAs (Decidable (_ → _ → ∀ _ ∈ _, _))
  | .command _ | .motorX _ | .motorY _ | .displayRequest => .isTrue trivial

instance (run : StatusRun Motor) (event : Event Motor) :
    Decidable (run.SlowInTime driver config gap event) :=
  match event with
  | .iterate _ => inferInstanceAs (Decidable (_ → ∀ _ ∈ _, _ → _))
  | .command _ | .motorX _ | .motorY _ | .displayRequest => .isTrue trivial

/-- What holds between events.  After the last firing either there was no iteration yet, or
the trigger time did not wrap and is still ahead. -/
structure Scheduled (run : StatusRun Motor) : Prop where
  isRunning : run.state.stateTimer.isRunning_ = true
  lax : run.state.stateTimer.isStrict_ = false
  trigger : ∀ last ∈ run.lastFiring, run.state.stateTimer.triggerTime_.toNat =
    (last + config.mqttStatusSlowPeriodMs.toNat) % 2 ^ 32
  inEpoch : ∀ last ∈ run.lastFiring, last < 2 ^ 32
  ahead : ∀ last ∈ run.lastFiring, ∃ previous ∈ run.lastIteration,
    previous = last ∨
      (last + config.mqttStatusSlowPeriodMs.toNat < 2 ^ 32 ∧
        previous < last + config.mqttStatusSlowPeriodMs.toNat)

/-! ## One iteration -/

variable {driver} {config} {gap} {run : StatusRun Motor} {input : LoopInput}

theorem step_state (run : StatusRun Motor) (event : Event Motor) :
    (run.step driver config event).state = Ph5Firmware.step driver config run.state event := by
  cases event <;> rfl

theorem mem_lastFiring_iterate {last : ℕ}
    (hlast : last ∈ (run.step driver config (.iterate input)).lastFiring) :
    run.state.anyRunning driver = true ∧
      (((loop driver config input run.state).2.stateTimer = true ∧
          last = input.time) ∨
        ((loop driver config input run.state).2.stateTimer = false ∧ last ∈ run.lastFiring)) := by
  simp only [StatusRun.step] at hlast
  cases hrunning : run.state.anyRunning driver with
  | false => simp [hrunning] at hlast
  | true =>
      refine ⟨rfl, ?_⟩
      cases hfires : (loop driver config input run.state).2.stateTimer with
      | false => exact .inr ⟨rfl, by simpa [hrunning, hfires] using hlast⟩
      | true => exact .inl ⟨rfl, by simpa [hrunning, hfires, eq_comm] using hlast⟩

/-- **One iteration.** A firing comes in time exactly when its cause does. -/
theorem fast_iff (hsend : config.sendMqttStatus = true) (hscheduled : run.Scheduled config)
    (hallowed : run.Allowed gap (.iterate input)) :
    run.Fast driver config gap (.iterate input) ↔
      run.SlowInTime driver config gap (.iterate input) := by
  simp only [Fast, SlowInTime]
  refine imp_congr_right fun _ => ?_
  rw [loop_fires_stateTimer_iff hsend hscheduled.isRunning]
  refine Iff.trans forall_comm (forall_congr' fun last => ?_)
  rw [forall_comm]
  refine imp_congr_right fun hlast => ?_
  obtain ⟨previous, hprevious, hahead⟩ := hscheduled.ahead last hlast
  obtain ⟨hafter, hsoon⟩ := hallowed previous hprevious
  rcases hahead with rfl | ⟨hnowrap, -⟩
  · -- the iteration right after the firing is in time whatever happens
    have hintime : input.time ≤ previous + config.mqttStatusFastPeriodMs.toNat + gap := by
      omega
    exact iff_of_true (fun _ => hintime) (fun _ => hintime)
  · have hreached : run.state.stateTimer.triggerTime_ ≤ input.clocks.stateTimer ↔
        last + config.mqttStatusSlowPeriodMs.toNat ≤ input.time := by
      rw [UInt32.le_iff_toNat_le, hscheduled.trigger last hlast, Nat.mod_eq_of_lt hnowrap]
      exact Iff.rfl
    rw [hreached]
    exact Iff.rfl

/-- With periods the same to a millisecond, the trigger time comes in time. -/
theorem slowInTime_of_close
    (hclose : config.mqttStatusSlowPeriodMs.toNat ≤ config.mqttStatusFastPeriodMs.toNat + 1)
    (hscheduled : run.Scheduled config) (hallowed : run.Allowed gap (.iterate input)) :
    run.SlowInTime driver config gap (.iterate input) := by
  intro _ last hlast _
  obtain ⟨previous, hprevious, hahead⟩ := hscheduled.ahead last hlast
  obtain ⟨hafter, hsoon⟩ := hallowed previous hprevious
  rcases hahead with rfl | ⟨-, hbefore⟩
  · omega
  · calc input.time
        ≤ previous + gap := hsoon
      _ ≤ last + config.mqttStatusFastPeriodMs.toNat + gap := by omega

/-- An iteration that does not fire leaves the trigger time ahead. -/
theorem ahead_of_not_fired (hscheduled : run.Scheduled config)
    (hallowed : run.Allowed gap (.iterate input))
    (hearly : ¬ run.state.stateTimer.triggerTime_ ≤ input.clocks.stateTimer)
    {last : ℕ} (hlast : last ∈ run.lastFiring) :
    last + config.mqttStatusSlowPeriodMs.toNat < 2 ^ 32 ∧
      input.time < last + config.mqttStatusSlowPeriodMs.toNat := by
  obtain ⟨previous, hprevious, hahead⟩ := hscheduled.ahead last hlast
  obtain ⟨hafter, -⟩ := hallowed previous hprevious
  rw [UInt32.le_iff_toNat_le, hscheduled.trigger last hlast] at hearly
  have htime : input.time = input.clocks.stateTimer.toNat := rfl
  have hepoch : last < 2 ^ 32 := hscheduled.inEpoch last hlast
  have hslow : config.mqttStatusSlowPeriodMs.toNat < 2 ^ 16 :=
    config.mqttStatusSlowPeriodMs.toNat_lt
  have hnowrap : last + config.mqttStatusSlowPeriodMs.toNat < 2 ^ 32 := by
    rcases hahead with rfl | ⟨hnowrap, -⟩
    · -- a trigger time that wrapped would be over already
      omega
    · exact hnowrap
  rw [Nat.mod_eq_of_lt hnowrap] at hearly
  exact ⟨hnowrap, Nat.lt_of_not_le hearly⟩

theorem Scheduled.iterate (hsend : config.sendMqttStatus = true)
    (hscheduled : run.Scheduled config) (hallowed : run.Allowed gap (.iterate input)) :
    (run.step driver config (.iterate input)).Scheduled config where
  isRunning := by
    rw [step_state, step_stateTimer_isRunning_]
    exact hscheduled.isRunning
  lax := by
    rw [step_state, step_stateTimer_isStrict_]
    exact hscheduled.lax
  trigger := by
    intro last hlast
    obtain ⟨hrunning, ⟨hfires, rfl⟩ | ⟨hquiet, hlast⟩⟩ := mem_lastFiring_iterate hlast
    · simp only [StatusRun.step, loop_triggerTime_ hsend hscheduled.lax, hfires, if_true]
      -- an axis runs, so the period is the slow one
      rw [State.anyRunning] at hrunning
      rw [hrunning, Config.statusPeriodMs, if_pos rfl, UInt32.toNat_add, UInt16.toNat_toUInt32]
      rfl
    · simp only [StatusRun.step, loop_triggerTime_ hsend hscheduled.lax, hquiet,
        Bool.false_eq_true, if_false]
      exact hscheduled.trigger last hlast
  inEpoch := by
    intro last hlast
    obtain ⟨-, ⟨-, rfl⟩ | ⟨-, hlast⟩⟩ := mem_lastFiring_iterate hlast
    · exact input.clocks.stateTimer.toNat_lt
    · exact hscheduled.inEpoch last hlast
  ahead := by
    intro last hlast
    refine ⟨input.time, rfl, ?_⟩
    obtain ⟨-, ⟨-, rfl⟩ | ⟨hquiet, hlast⟩⟩ := mem_lastFiring_iterate hlast
    · exact .inl rfl
    · have hnotfired := Bool.eq_false_iff.mp hquiet
      rw [Ne, loop_fires_stateTimer_iff hsend hscheduled.isRunning] at hnotfired
      have hearly := (not_or.mp hnotfired).2
      exact .inr (ahead_of_not_fired hscheduled hallowed hearly hlast)

/-! ## Runs -/

theorem Scheduled.step (hsend : config.sendMqttStatus = true)
    (hscheduled : run.Scheduled config) {event : Event Motor}
    (hallowed : run.Allowed gap event) : (run.step driver config event).Scheduled config := by
  cases event with
  | command cmd =>
      have htimer : (run.step driver config (.command cmd)).state.stateTimer =
          run.state.stateTimer.forceIf (cmd.requestsStatus driver run.state) :=
        processCommand_stateTimer driver cmd run.state
      exact
        { isRunning := by
            rw [step_state, step_stateTimer_isRunning_]
            exact hscheduled.isRunning
          lax := by
            rw [step_state, step_stateTimer_isStrict_]
            exact hscheduled.lax
          trigger := by
            rw [htimer, IntervalTimer.forceIf_triggerTime_]
            exact hscheduled.trigger
          inEpoch := hscheduled.inEpoch
          ahead := hscheduled.ahead }
  | motorX motor => exact { hscheduled with }
  | motorY motor => exact { hscheduled with }
  | displayRequest => exact { hscheduled with }
  | iterate input => exact hscheduled.iterate hsend hallowed

theorem fast_iff_slowInTime (hsend : config.sendMqttStatus = true)
    (hscheduled : run.Scheduled config) {event : Event Motor} (hallowed : run.Allowed gap event) :
    run.Fast driver config gap event ↔ run.SlowInTime driver config gap event := by
  cases event with
  | iterate input => exact fast_iff hsend hscheduled hallowed
  | _ => exact Iff.rfl

theorem setup_scheduled (hsend : config.sendMqttStatus = true) (clocks : SetupClocks)
    (stepperX stepperY : Option (Stepper Motor)) :
    (initial (setup config clocks stepperX stepperY)).Scheduled config where
  isRunning := by
    simp only [initial, setup, hsend, if_true]
    rfl
  lax := by
    simp only [initial, setup, hsend, if_true]
    rfl
  trigger _ hlast := absurd hlast (Option.not_mem_none _)
  inEpoch _ hlast := absurd hlast (Option.not_mem_none _)
  ahead _ hlast := absurd hlast (Option.not_mem_none _)

/-- **The fast rate.** Along a run from the start of the program, with the status channel
on, every firing while an axis runs comes in time after the last one if and only if every
request of a status and every end of a slow period does.  With periods the same to a
millisecond they always do. -/
theorem status_fast_iff (hsend : config.sendMqttStatus = true) (clocks : SetupClocks)
    (stepperX stepperY : Option (Stepper Motor)) {events : List (Event Motor)}
    (hallowed : Run.Along (step driver config) (Allowed gap)
      (initial (setup config clocks stepperX stepperY)) events) :
    (Run.Along (step driver config) (Fast driver config gap)
          (initial (setup config clocks stepperX stepperY)) events ↔
        Run.Along (step driver config) (SlowInTime driver config gap)
          (initial (setup config clocks stepperX stepperY)) events) ∧
      (config.mqttStatusSlowPeriodMs.toNat ≤ config.mqttStatusFastPeriodMs.toNat + 1 →
        Run.Along (step driver config) (Fast driver config gap)
          (initial (setup config clocks stepperX stepperY)) events) := by
  have hinitial := setup_scheduled hsend clocks stepperX stepperY
  constructor
  · refine Run.along_iff ?_ ?_ hinitial hallowed
    · intro run event hscheduled hok
      exact fast_iff_slowInTime hsend hscheduled hok
    · intro run event hscheduled hok _
      exact hscheduled.step hsend hok
  · intro hclose
    refine Run.along_of_invariant ?_ ?_ hinitial hallowed
    · intro run event hscheduled hok
      rw [fast_iff_slowInTime hsend hscheduled hok]
      cases event with
      | iterate input => exact slowInTime_of_close hclose hscheduled hok
      | _ => trivial
    · intro run event hscheduled hok
      exact hscheduled.step hsend hok

/-- X runs, and an iteration is due at each of the `times`. -/
def runningX (times : List UInt32) : List (Event BenchMotor) :=
  .command { Ph5Command.fresh with type := .moveX, posX := 100000, speedX := 1000 } ::
    times.map fun now => .iterate (benchInput now)

/-- A second command makes the timer fire 1000 ms after the first. -/
theorem status_fast_commanded :
    Run.Along (step benchDriver publishing) (Fast benchDriver publishing 500)
      (initial (setup publishing ⟨0, 0, 0⟩ benchStepper benchStepper))
      (runningX [0, 500] ++ runningX [1000]) :=
  (status_fast_iff (by decide) ⟨0, 0, 0⟩ benchStepper benchStepper (by decide)).1.mpr (by decide)

/-- Without, it fires 5000 ms after the first, while X runs all the time. -/
theorem status_slow_while_running :
    publishing.mqttStatusFastPeriodMs ≤ publishing.mqttStatusSlowPeriodMs ∧
      Run.Along (step benchDriver publishing) (Allowed 1000)
        (initial (setup publishing ⟨0, 0, 0⟩ benchStepper benchStepper))
        (runningX [0, 1000, 2000, 3000, 4000, 5000]) ∧
      ¬ Run.Along (step benchDriver publishing) (Fast benchDriver publishing 1000)
        (initial (setup publishing ⟨0, 0, 0⟩ benchStepper benchStepper))
        (runningX [0, 1000, 2000, 3000, 4000, 5000]) := by
  refine ⟨by decide, by decide, by decide⟩

end StatusRun

end Ph5Firmware
