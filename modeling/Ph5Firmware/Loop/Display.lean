import Ph5Firmware.Bench
import Ph5Firmware.Library.Runs
import Ph5Firmware.Loop

/-!
# A clean display

`displayUpdateRequired` says that the display may be out of date.  A display that is
clean at the end of an iteration should show every axis as it is (`ShowsAxes`).

The flag is raised by every command, while an axis is sampled running, and when the
run state of the Y axis changes.  What is missing is the last change of the X axis:
when X has stopped since the previous iteration, and nothing else raises the flag,
the display keeps the position and the running mark of an iteration ago.

* `Tracked`: between events, a clean display shows an axis as it is, or as it was
  when it was still running; in the second case the stored run flag is still set.
* `showsAxes_loop_iff`: one iteration, for a tracked display.
* `clean_display_iff`: whole runs.
-/

namespace Ph5Firmware

variable {Motor : Type*} (driver : FastAccelStepper Motor)

/-- A clean display shows the position and the running mark of both axes. -/
def ShowsAxes (state : State Motor) : Prop :=
  state.displayUpdateRequired = false →
    state.drawn.map (fun frame => (frame.x, frame.y)) =
      some (state.axisX.view driver, state.axisY.view driver)

/-- At the end of an iteration a clean display is a correct display. -/
def CleanIsCorrect (config : Config) (state : State Motor) : Event Motor → Prop
  | .iterate input => ShowsAxes driver (loop driver config input state).1
  | _ => True

/-- No iteration starts with a clean display, finds a changed run state of the X axis
and has no other reason to redraw. -/
def ChangeNoticed (state : State Motor) : Event Motor → Prop
  | .iterate _ =>
      state.displayUpdateRequired = true ∨ state.axisX.edge driver = false ∨
        state.marksDisplay driver = true
  | _ => True

instance (state : State Motor) : Decidable (ShowsAxes driver state) := by
  unfold ShowsAxes
  infer_instance

instance (config : Config) (state : State Motor) (event : Event Motor) :
    Decidable (CleanIsCorrect driver config state event) :=
  match event with
  | .iterate _ => inferInstanceAs (Decidable (ShowsAxes _ _))
  | .command _ | .motorX _ | .motorY _ | .displayRequest => .isTrue trivial

instance (state : State Motor) (event : Event Motor) :
    Decidable (ChangeNoticed driver state event) :=
  match event with
  | .iterate _ => inferInstanceAs (Decidable (_ ∨ _ ∨ _))
  | .command _ | .motorX _ | .motorY _ | .displayRequest => .isTrue trivial

/-- What the display shows of an axis is the axis as it is, with its run flag up to
date, or an earlier position with the running mark, with the run flag still set. -/
def Axis.TrackedBy (view : Option (Int32 × Bool)) (axis : Axis Motor) : Prop :=
  (view = axis.view driver ∧ axis.edge driver = false) ∨
    (axis.stepper.isSome = true ∧ axis.isRunning = true ∧
      ∃ position, view = some (position, true))

def Tracked (state : State Motor) : Prop :=
  state.displayUpdateRequired = false →
    ∃ frame, state.drawn = some frame ∧ state.axisX.TrackedBy driver frame.x ∧
      state.axisY.TrackedBy driver frame.y

/-! ## One axis -/

namespace Axis

variable {driver} {axis : Axis Motor} {view : Option (Int32 × Bool)}

theorem view_sampled (axis : Axis Motor) :
    (axis.sampled driver).view driver = axis.view driver := by
  unfold sampled
  cases hstepper : axis.stepper with
  | none => rfl
  | some stepper => simp only [Axis.view, hstepper]

theorem edge_sampled (axis : Axis Motor) : (axis.sampled driver).edge driver = false := by
  unfold sampled
  cases hstepper : axis.stepper with
  | none => simp only [edge, hstepper]
  | some stepper => simp only [edge, bne_self_eq_false]

theorem trackedBy_sampled (hview : view = axis.view driver) :
    (axis.sampled driver).TrackedBy driver view :=
  .inl ⟨by rw [view_sampled, hview], edge_sampled axis⟩

/-- A running stepper may move on, and may stop. -/
theorem trackedBy_withMotor (htracked : axis.TrackedBy driver view)
    (hrunning : axis.running driver = true) (motor : Motor) :
    (axis.withMotor motor).TrackedBy driver view := by
  unfold running at hrunning
  cases hstepper : axis.stepper with
  | none => simp [hstepper] at hrunning
  | some stepper =>
      simp only [hstepper] at hrunning
      have hsome : (axis.withMotor motor).stepper.isSome = true := by simp [withMotor, hstepper]
      rcases htracked with ⟨hview, hedge⟩ | ⟨-, hflag, hposition⟩
      · have hflag : axis.isRunning = true := by
          simpa [edge, hstepper, hrunning] using hedge
        have hmarked : view = some (driver.getCurrentPosition stepper.motor, true) := by
          simp [hview, Axis.view, hstepper, hrunning]
        exact .inr ⟨hsome, hflag, _, hmarked⟩
      · exact .inr ⟨hsome, hflag, hposition⟩

/-- An idle axis is shown as it is, unless its run flag is still set. -/
theorem view_eq_iff_of_trackedBy (htracked : axis.TrackedBy driver view)
    (hidle : axis.running driver = false) :
    view = axis.view driver ↔ axis.edge driver = false := by
  unfold running at hidle
  rcases htracked with ⟨hview, hedge⟩ | ⟨hsome, hflag, position, hposition⟩
  · exact iff_of_true hview hedge
  · obtain ⟨stepper, hstepper⟩ := Option.isSome_iff_exists.mp hsome
    simp only [hstepper] at hidle
    apply iff_of_false
    · simp [hposition, Axis.view, hstepper, hidle]
    · simp [edge, hstepper, hidle, hflag]

end Axis

/-! ## One iteration -/

section Iteration

variable {driver} {config : Config} {input : LoopInput} {state : State Motor}

theorem showsAxes_loop_of_marked
    (hmarked : (state.displayUpdateRequired || state.marksDisplay driver) = true) :
    ShowsAxes driver (loop driver config input state).1 := by
  intro hclean
  have hdirty : (state.handled driver config input).1.displayUpdateRequired = true := by
    rw [handled_displayUpdateRequired, hmarked]
  rw [loop_axisX, loop_axisY]
  rw [loop_fst] at hclean ⊢
  rw [drawn_handleDisplay hdirty hclean]
  simp only [Option.map_some, State.frame, handled_axisX, handled_axisY]

theorem showsAxes_loop_of_unmarked
    (hunmarked : (state.displayUpdateRequired || state.marksDisplay driver) = false) :
    ShowsAxes driver (loop driver config input state).1 ↔
      state.drawn.map (fun frame => (frame.x, frame.y)) =
        some (state.axisX.view driver, state.axisY.view driver) := by
  have hclean : (state.handled driver config input).1.displayUpdateRequired = false := by
    rw [handled_displayUpdateRequired, hunmarked]
  rw [loop_fst, handleDisplay_of_clean hclean, ShowsAxes, hclean, handled_drawn, handled_axisX,
    handled_axisY, Axis.view_sampled, Axis.view_sampled]
  constructor
  · intro hshows
    exact hshows rfl
  · intro hshows _
    exact hshows

/-- **One iteration.** A tracked display that is clean afterwards is correct exactly
when the iteration did not miss a change of the X axis. -/
theorem showsAxes_loop_iff (htracked : Tracked driver state) :
    ShowsAxes driver (loop driver config input state).1 ↔
      state.displayUpdateRequired = true ∨ state.axisX.edge driver = false ∨
        state.marksDisplay driver = true := by
  by_cases hmarked : (state.displayUpdateRequired || state.marksDisplay driver) = true
  · refine iff_of_true (showsAxes_loop_of_marked hmarked) ?_
    rcases Bool.or_eq_true_iff.mp hmarked with hdirty | hmarks
    · exact .inl hdirty
    · exact .inr (.inr hmarks)
  · obtain ⟨hclean, hmarks⟩ := Bool.or_eq_false_iff.mp (Bool.not_eq_true _ ▸ hmarked)
    obtain ⟨hidle, hedgeY⟩ := Bool.or_eq_false_iff.mp hmarks
    obtain ⟨hidleX, hidleY⟩ := Bool.or_eq_false_iff.mp hidle
    obtain ⟨frame, hframe, hx, hy⟩ := htracked hclean
    -- only the X axis can be out of date
    have hcurrentY := (Axis.view_eq_iff_of_trackedBy hy hidleY).mpr hedgeY
    rw [showsAxes_loop_of_unmarked (Bool.not_eq_true _ ▸ hmarked), hframe,
      ← Axis.view_eq_iff_of_trackedBy hx hidleX]
    simp [hclean, hmarks, hcurrentY]

theorem tracked_loop (hshows : ShowsAxes driver (loop driver config input state).1) :
    Tracked driver (loop driver config input state).1 := by
  intro hclean
  have hviews := hshows hclean
  rw [loop_axisX, loop_axisY, Axis.view_sampled, Axis.view_sampled] at hviews
  obtain ⟨frame, hframe, hboth⟩ := Option.map_eq_some_iff.mp hviews
  obtain ⟨hx, hy⟩ := Prod.mk.inj hboth
  refine ⟨frame, hframe, ?_, ?_⟩
  · rw [loop_axisX]
    exact Axis.trackedBy_sampled hx
  · rw [loop_axisY]
    exact Axis.trackedBy_sampled hy

end Iteration

/-! ## Runs -/

section Runs

variable {driver} {config : Config} {state : State Motor}

theorem tracked_of_dirty (hdirty : state.displayUpdateRequired = true) : Tracked driver state := by
  intro hclean
  rw [hdirty] at hclean
  exact absurd hclean (by decide)

/-- The display stays tracked as long as it has been correct. -/
theorem tracked_step (htracked : Tracked driver state) {event : Event Motor}
    (hallowed : Allowed driver state event) (hcorrect : CleanIsCorrect driver config state event) :
    Tracked driver (step driver config state event) := by
  cases event with
  | command cmd =>
      apply tracked_of_dirty
      rw [step, processCommand_eq_dispatch]
      rfl
  | motorX motor =>
      intro hclean
      obtain ⟨frame, hframe, hx, hy⟩ := htracked hclean
      exact ⟨frame, hframe, Axis.trackedBy_withMotor hx hallowed motor, hy⟩
  | motorY motor =>
      intro hclean
      obtain ⟨frame, hframe, hx, hy⟩ := htracked hclean
      exact ⟨frame, hframe, hx, Axis.trackedBy_withMotor hy hallowed motor⟩
  | displayRequest => exact tracked_of_dirty rfl
  | iterate input => exact tracked_loop hcorrect

theorem cleanIsCorrect_iff_changeNoticed (htracked : Tracked driver state) (event : Event Motor) :
    CleanIsCorrect driver config state event ↔ ChangeNoticed driver state event := by
  cases event with
  | iterate input => exact showsAxes_loop_iff htracked
  | _ => exact Iff.rfl

/-- **A clean display.** Along a run from the start of the program a clean display is
correct after every iteration if and only if no iteration misses a change of the X
axis. -/
theorem clean_display_iff (clocks : SetupClocks) (stepperX stepperY : Option (Stepper Motor))
    {events : List (Event Motor)}
    (hallowed : Run.Along (step driver config) (Allowed driver)
      (setup config clocks stepperX stepperY) events) :
    Run.Along (step driver config) (CleanIsCorrect driver config)
        (setup config clocks stepperX stepperY) events ↔
      Run.Along (step driver config) (ChangeNoticed driver)
        (setup config clocks stepperX stepperY) events := by
  have hinitial : Tracked driver (setup config clocks stepperX stepperY) := tracked_of_dirty rfl
  refine Run.along_iff ?_ ?_ hinitial hallowed
  · intro state event htracked _
    exact cleanIsCorrect_iff_changeNoticed htracked event
  · intro state event htracked hok hcorrect
    exact tracked_step htracked hok hcorrect

end Runs

/-- The Y stepper runs to position 5 and stops between two iterations. -/
def stopY : List (Event BenchMotor) :=
  [.iterate (benchInput 0),
    .command { Ph5Command.fresh with type := .moveToY, posY := 5, speedY := 1000 },
    .iterate (benchInput 200), .motorY (.atRest 5), .iterate (benchInput 400)]

def stopX : List (Event BenchMotor) :=
  [.iterate (benchInput 0),
    .command { Ph5Command.fresh with type := .moveToX, posX := 5, speedX := 1000 },
    .iterate (benchInput 200), .motorX (.atRest 5), .iterate (benchInput 400)]

theorem stopY_shown :
    Run.Along (step benchDriver .shipped) (CleanIsCorrect benchDriver .shipped) benchSetup stopY :=
  (clean_display_iff ⟨0, 0, 0⟩ benchStepper benchStepper (by decide)).mpr (by decide)

/-- When X stops, the display keeps showing it running at an earlier position. -/
theorem stopX_not_shown :
    Run.Along (step benchDriver .shipped) (Allowed benchDriver) benchSetup stopX ∧
      ¬ Run.Along (step benchDriver .shipped) (CleanIsCorrect benchDriver .shipped) benchSetup
        stopX := by
  refine ⟨by decide, by decide⟩

end Ph5Firmware
