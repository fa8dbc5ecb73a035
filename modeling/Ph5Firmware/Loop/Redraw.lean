import Ph5Firmware.Bench
import Ph5Firmware.Library.Runs
import Ph5Firmware.Loop
import Ph5Firmware.Timer.Uptime

/-!
# The pace of redraws

`handleDisplay` keeps the time from which it may draw again in `displayLastUpdate`, 100 ms
after the last redraw ("max 10Hz").  It is an absolute 32-bit time, and nothing moves it
while the screen does not change, so `millis()` may have wrapped any number of times
when it is compared with it.

* `DisplayRun` keeps, next to the state, the true time of the last redraw.  `Dated` ties
  `displayLastUpdate` to it, on every run.
* `redraws_iff`: what one call needs to do as it should.
* `redraws_paced_iff`: whole runs.
-/

namespace Ph5Firmware

open WrappingClock (epoch reading reading_le_iff_of_ahead)

/-- A call of `handleDisplay`: the times at which it reads the clock, for the test and for
the next redraw, and what else it finds. -/
structure DisplayCall where
  time : ℕ
  redrawTime : ℕ
  input : LoopInput
  deriving DecidableEq

def DisplayCall.timed (call : DisplayCall) : LoopInput :=
  { call.input with
    clocks :=
      { call.input.clocks with display := millis call.time, drawn := millis call.redrawTime } }

/-- What happens to the display.  Other code may ask for a redraw and change all of the
state but `displayLastUpdate`. -/
inductive DisplayEvent (Motor : Type*) where
  | elsewhere (state : State Motor)
  | handleDisplay (call : DisplayCall)

/-- A state, the time of the last redraw, and the last time the clock was read. -/
structure DisplayRun (Motor : Type*) where
  state : State Motor
  lastRedraw : Option ℕ
  lastTime : ℕ
  deriving DecidableEq

variable {Motor : Type*} (driver : FastAccelStepper Motor) (config : Config)

/-- The call draws: it takes the request. -/
def State.redraws (call : DisplayCall) (state : State Motor) : Bool :=
  state.displayUpdateRequired &&
    !(handleDisplay driver config call.timed state).displayUpdateRequired

namespace DisplayRun

def booted (state : State Motor) : DisplayRun Motor :=
  { state := state, lastRedraw := none, lastTime := 0 }

def step (run : DisplayRun Motor) : DisplayEvent Motor → DisplayRun Motor
  | .elsewhere state =>
      { run with state := { state with displayLastUpdate := run.state.displayLastUpdate } }
  | .handleDisplay call =>
      let drawn := run.state.redraws driver config call
      { state := handleDisplay driver config call.timed run.state
        lastRedraw := if drawn then some call.redrawTime else run.lastRedraw
        lastTime := if drawn then call.redrawTime else call.time }

/-- Time does not go back. -/
def Allowed (run : DisplayRun Motor) : DisplayEvent Motor → Prop
  | .elsewhere _ => True
  | .handleDisplay call => run.lastTime ≤ call.time ∧ call.time ≤ call.redrawTime

/-- A call draws if and only if a redraw is required and the last one, if any, is at least
100 ms ago; then the screen shows the state the call finds, and else what it showed. -/
def Paced (run : DisplayRun Motor) : DisplayEvent Motor → Prop
  | .elsewhere _ => True
  | .handleDisplay call =>
      (run.state.redraws driver config call = true ↔
        run.state.displayUpdateRequired = true ∧
          ∀ last ∈ run.lastRedraw, last + 100 ≤ call.time) ∧
      (handleDisplay driver config call.timed run.state).drawn =
        if run.state.redraws driver config call then
          some (run.state.frame driver config call.input.network)
        else run.state.drawn

/-- Where a redraw is required, the time from which it is allowed lies in the epoch of the
call, or in an earlier one and at or before the point of it that the call has reached in
its own. -/
def ClockTells (run : DisplayRun Motor) : DisplayEvent Motor → Prop
  | .elsewhere _ => True
  | .handleDisplay call =>
      run.state.displayUpdateRequired = true → ∀ last ∈ run.lastRedraw,
        epoch clockWidth (last + 100) = epoch clockWidth call.time ∨
          (last + 100 ≤ call.time ∧
            reading clockWidth (last + 100) ≤ reading clockWidth call.time)

instance (run : DisplayRun Motor) (event : DisplayEvent Motor) : Decidable (run.Allowed event) := by
  cases event <;> unfold Allowed <;> infer_instance

instance (run : DisplayRun Motor) (event : DisplayEvent Motor) :
    Decidable (run.Paced driver config event) := by
  cases event <;> unfold Paced <;> infer_instance

instance (run : DisplayRun Motor) (event : DisplayEvent Motor) :
    Decidable (run.ClockTells event) := by
  cases event <;> unfold ClockTells <;> infer_instance

/-- `displayLastUpdate` holds the time from which the next redraw is allowed. -/
structure Dated (run : DisplayRun Motor) : Prop where
  fresh : run.lastRedraw = none → run.state.displayLastUpdate = 0
  next : ∀ last ∈ run.lastRedraw, run.state.displayLastUpdate = millis (last + 100)
  order : ∀ last ∈ run.lastRedraw, last ≤ run.lastTime

/-! ## One call -/

variable {driver} {config} {run : DisplayRun Motor} {call : DisplayCall} {state : State Motor}

/-- The two tests of `handleDisplay` as one. -/
theorem handleDisplay_timed (call : DisplayCall) (state : State Motor) :
    handleDisplay driver config call.timed state =
      if state.displayUpdateRequired && decide (state.displayLastUpdate ≤ millis call.time) then
        { state with
          displayUpdateRequired := false
          displayLastUpdate := millis call.redrawTime + 100
          drawn := some (state.frame driver config call.input.network) }
      else state := by
  unfold handleDisplay
  by_cases hdirty : state.displayUpdateRequired = true
  · by_cases hearly : millis call.time < state.displayLastUpdate
    · have hlate : ¬ state.displayLastUpdate ≤ millis call.time := UInt32.not_le.mpr hearly
      simp [DisplayCall.timed, hearly, hdirty, hlate]
    · have hlate : state.displayLastUpdate ≤ millis call.time := UInt32.not_lt.mp hearly
      simp [DisplayCall.timed, hearly, hdirty, hlate]
  · simp [hdirty]

theorem redraws_eq (call : DisplayCall) (state : State Motor) :
    state.redraws driver config call =
      (state.displayUpdateRequired && decide (state.displayLastUpdate ≤ millis call.time)) := by
  rw [State.redraws, handleDisplay_timed]
  cases hdirty : state.displayUpdateRequired <;>
    cases decide (state.displayLastUpdate ≤ millis call.time) <;> simp [hdirty]

theorem handleDisplay_displayLastUpdate (call : DisplayCall) (state : State Motor) :
    (handleDisplay driver config call.timed state).displayLastUpdate =
      if state.redraws driver config call then millis (call.redrawTime + 100)
      else state.displayLastUpdate := by
  have hnext : millis call.redrawTime + 100 = millis (call.redrawTime + 100) := millis_add _ 100
  rw [redraws_eq, handleDisplay_timed, hnext]
  split_ifs <;> rfl

theorem handleDisplay_drawn (call : DisplayCall) (state : State Motor) :
    (handleDisplay driver config call.timed state).drawn =
      if state.redraws driver config call then some (state.frame driver config call.input.network)
      else state.drawn := by
  rw [redraws_eq, handleDisplay_timed]
  split_ifs <;> rfl

/-- Whatever the clock tells, `displayLastUpdate` goes on following the redraws. -/
theorem Dated.step (hdated : run.Dated) {event : DisplayEvent Motor}
    (hallowed : run.Allowed event) : (run.step driver config event).Dated := by
  cases event with
  | elsewhere state => exact { hdated with }
  | handleDisplay call =>
      obtain ⟨hafter, -⟩ := hallowed
      by_cases hdrawn : run.state.redraws driver config call = true
      · refine ⟨?_, ?_, ?_⟩
        · intro hnone
          simp [DisplayRun.step, hdrawn] at hnone
        · intro last hlast
          simp only [DisplayRun.step, hdrawn, if_true] at hlast ⊢
          obtain rfl := Option.some.inj hlast
          rw [handleDisplay_displayLastUpdate, if_pos hdrawn]
        · intro last hlast
          simp only [DisplayRun.step, hdrawn, if_true] at hlast ⊢
          obtain rfl := Option.some.inj hlast
          exact Nat.le_refl _
      · have hkept : (handleDisplay driver config call.timed run.state).displayLastUpdate =
            run.state.displayLastUpdate := by
          rw [handleDisplay_displayLastUpdate, if_neg hdrawn]
        simp only [DisplayRun.step, hdrawn, Bool.false_eq_true, if_false]
        refine ⟨?_, ?_, ?_⟩
        · intro hnone
          exact hkept.trans (hdated.fresh hnone)
        · intro last hlast
          exact hkept.trans (hdated.next last hlast)
        · intro last hlast
          exact Nat.le_trans (hdated.order last hlast) hafter

/-- **One call** draws exactly when it should if and only if the clock tells. -/
theorem redraws_iff (hdated : run.Dated) (hallowed : run.Allowed (.handleDisplay call)) :
    run.Paced driver config (.handleDisplay call) ↔ run.ClockTells (.handleDisplay call) := by
  rw [Paced, and_iff_left (handleDisplay_drawn call run.state)]
  simp only [ClockTells, redraws_eq, Bool.and_eq_true, decide_eq_true_eq, and_congr_right_iff]
  refine imp_congr_right fun _ => ?_
  cases hlast : run.lastRedraw with
  | none => simp [hdated.fresh hlast]
  | some last =>
      -- the time from which a redraw is allowed is at most 100 ms ahead of the call
      have hshown : run.state.displayLastUpdate ≤ millis call.time ↔
          reading clockWidth (last + 100) ≤ reading clockWidth call.time := by
        rw [hdated.next last hlast, UInt32.le_iff_toNat_le, toNat_millis, toNat_millis]
      have hahead : last + 100 < call.time + clockWidth := by
        have horder : last ≤ run.lastTime := hdated.order last hlast
        have hafter : run.lastTime ≤ call.time := hallowed.1
        have hwidth : clockWidth = 2 ^ 32 := rfl
        omega
      simp only [Option.mem_some, forall_eq', hshown]
      exact reading_le_iff_of_ahead hahead

theorem paced_iff_clockTells (hdated : run.Dated) {event : DisplayEvent Motor}
    (hallowed : run.Allowed event) : run.Paced driver config event ↔ run.ClockTells event := by
  cases event with
  | elsewhere state => exact Iff.rfl
  | handleDisplay call => exact redraws_iff hdated hallowed

/-! ## Runs -/

theorem setup_dated (clocks : SetupClocks) (stepperX stepperY : Option (Stepper Motor)) :
    (booted (setup config clocks stepperX stepperY)).Dated where
  fresh _ := rfl
  next _ hlast := absurd hlast (Option.not_mem_none _)
  order _ hlast := absurd hlast (Option.not_mem_none _)

/-- **Pacing of redraws.** Along a run from the start of the program every call of
`handleDisplay` draws exactly when it should if and only if, at every call that finds a
redraw required, the clock tells whether it is allowed. -/
theorem redraws_paced_iff (clocks : SetupClocks) (stepperX stepperY : Option (Stepper Motor))
    {events : List (DisplayEvent Motor)}
    (hallowed : Run.Along (step driver config) Allowed
      (booted (setup config clocks stepperX stepperY)) events) :
    Run.Along (step driver config) (Paced driver config)
        (booted (setup config clocks stepperX stepperY)) events ↔
      Run.Along (step driver config) ClockTells
        (booted (setup config clocks stepperX stepperY)) events := by
  refine Run.along_iff ?_ ?_ (setup_dated clocks stepperX stepperY) hallowed
  · intro run event hdated hok
    exact paced_iff_clockTells hdated hok
  · intro run event hdated hok _
    exact hdated.step hok

/-- A redraw is asked for, and `handleDisplay` runs. -/
def requestedAt (time : ℕ) : List (DisplayEvent BenchMotor) :=
  [.elsewhere benchSetup,
    .handleDisplay { time := time, redrawTime := time, input := benchInput 0 }]

/-- Two redraws 100 ms apart, and none in between. -/
theorem redraws_paced_early :
    Run.Along (step benchDriver .shipped) (Paced benchDriver .shipped)
      (booted (setup .shipped ⟨0, 0, 0⟩ benchStepper benchStepper))
      (requestedAt 5000 ++ requestedAt 5099 ++ requestedAt 5100) :=
  (redraws_paced_iff ⟨0, 0, 0⟩ benchStepper benchStepper (by decide)).mpr (by decide)

/-- A screen drawn in the middle of the first epoch is not drawn 5 ms into the second,
and one drawn 50 ms before the wrap is drawn again 10 ms later. -/
theorem redraws_frozen_and_unlimited :
    (Run.Along (step benchDriver .shipped) Allowed (booted benchSetup)
        (requestedAt (2 ^ 31) ++ requestedAt (2 ^ 32 + 5)) ∧
      ¬ Run.Along (step benchDriver .shipped) (Paced benchDriver .shipped) (booted benchSetup)
        (requestedAt (2 ^ 31) ++ requestedAt (2 ^ 32 + 5))) ∧
      Run.Along (step benchDriver .shipped) Allowed (booted benchSetup)
          (requestedAt (2 ^ 32 - 50) ++ requestedAt (2 ^ 32 - 40)) ∧
        ¬ Run.Along (step benchDriver .shipped) (Paced benchDriver .shipped) (booted benchSetup)
          (requestedAt (2 ^ 32 - 50) ++ requestedAt (2 ^ 32 - 40)) := by
  refine ⟨⟨by decide, by decide⟩, by decide, by decide⟩

end DisplayRun

end Ph5Firmware
