import Ph5Firmware.Bench
import Ph5Firmware.Dispatch.Frame
import Ph5Firmware.Loop

/-!
# No silent command

A command that does something to a stepper is followed by a status, in the first iteration
after it.  The dispatcher sets the force flag of `stateTimer` in most cases inside the block
that gives the order, in some behind it; only an iteration clears it, and it fires the timer.

* `AxisOrder.asks_of_noticed`: an order with an effect asks for a status itself, or it is a
  stop.
* `requestsStatus_of_noticed`: one command.
* `statusDue_foldl`: what happens between two iterations leaves the request alone.
* `no_silent_command`: whole runs.
-/

namespace Ph5Firmware

variable {Motor : Type*} (driver : FastAccelStepper Motor)

/-- The call does something to the stepper: every call does but a request of a rate that is
rejected. -/
def StepperCall.takesEffect (motor : Motor) : StepperCall → Bool
  | .setSpeedInHz rate => driver.accepts motor rate
  | _ => true

/-- An axis got a call that did something. -/
def Axis.Noticed (before after : Axis Motor) : Prop :=
  ∃ stepper ∈ before.stepper,
    ∃ call ∈ newCalls before after, call.takesEffect driver stepper.motor = true

/-- The command accepted a speed, set a target, gave a run order, stopped or moved the
position of some stepper. -/
def Ph5Command.Noticed (cmd : Ph5Command) (state : State Motor) : Prop :=
  Axis.Noticed driver state.axisX (processCommand driver cmd state).1.axisX ∨
    Axis.Noticed driver state.axisY (processCommand driver cmd state).1.axisY

def Event.isIteration : Event Motor → Bool
  | .iterate _ => true
  | _ => false

/-- The timer is running, and a status is requested. -/
def State.StatusDue (state : State Motor) : Prop :=
  state.stateTimer.isRunning_ = true ∧ state.stateTimer.forceTrigger_ = true

variable {driver}

/-! ## One command -/

theorem Axis.accepts_of_takesEffect {motor : Motor} {rate : UInt32} {order call : StepperCall}
    (hcall : call ∈ callsAtRate driver motor rate order)
    (heffect : call.takesEffect driver motor = true) : driver.accepts motor rate = true := by
  rw [mem_callsAtRate] at hcall
  rcases hcall with rfl | ⟨haccepts, -⟩
  · exact heffect
  · exact haccepts

namespace AxisOrder

variable {axis : Axis Motor}

/-- An order with an effect asks for a status, unless it is a stop, which leaves that to its
case. -/
theorem asks_of_noticed (order : AxisOrder)
    (hnoticed : Axis.Noticed driver axis (order.run driver axis).1) :
    (order.run driver axis).2 = true ∨ order = .stop ∨ order = .forceStop := by
  obtain ⟨stepper, hstepper, call, hcall, heffect⟩ := hnoticed
  rw [order.newCalls_run hstepper] at hcall
  cases order with
  | keep => exact absurd hcall List.not_mem_nil
  | move rate position | moveTo rate position =>
      left
      have haccepts := Axis.accepts_of_takesEffect hcall heffect
      simp only [AxisOrder.run, Axis.rated_snd, Axis.accepts]
      rw [hstepper]
      exact haccepts
  | speed velocity =>
      -- asks even where the rate was rejected
      left
      simp only [AxisOrder.run, Axis.speed]
      rw [hstepper]
      split_ifs <;> rfl
  | stop => exact .inr (.inl rfl)
  | forceStop => exact .inr (.inr rfl)
  | setPos position =>
      left
      simp only [AxisOrder.calls] at hcall
      by_cases hrunning : driver.isRunning stepper.motor = true
      · rw [if_pos hrunning] at hcall
        exact absurd hcall List.not_mem_nil
      · simp only [AxisOrder.run, Axis.setPos]
        rw [hstepper]
        simp only [if_neg hrunning]

end AxisOrder

theorem alwaysForces_of_stop {cmd : Ph5Command}
    (hstop : (cmd.orderX = .stop ∨ cmd.orderX = .forceStop) ∨
      cmd.orderY = .stop ∨ cmd.orderY = .forceStop) : cmd.alwaysForces = true := by
  unfold Ph5Command.alwaysForces
  unfold Ph5Command.orderX Ph5Command.orderY at hstop
  cases htype : cmd.type <;> simp_all

/-- **One command** that has an effect requests a status. -/
theorem requestsStatus_of_noticed {cmd : Ph5Command} {state : State Motor}
    (hnoticed : cmd.Noticed driver state) : cmd.requestsStatus driver state = true := by
  unfold Ph5Command.Noticed at hnoticed
  rw [processCommand_axisX, processCommand_axisY] at hnoticed
  unfold Ph5Command.requestsStatus
  rcases hnoticed with hx | hy
  · rcases cmd.orderX.asks_of_noticed hx with hasks | hstop
    · rw [hasks, Bool.true_or, Bool.true_or]
    · rw [alwaysForces_of_stop (.inl hstop), Bool.or_true]
  · rcases cmd.orderY.asks_of_noticed hy with hasks | hstop
    · rw [hasks, Bool.or_true, Bool.true_or]
    · rw [alwaysForces_of_stop (.inr hstop), Bool.or_true]

/-! ## Runs -/

variable {config : Config} {state : State Motor}

theorem foldl_stateTimer_isRunning_ (state : State Motor) (events : List (Event Motor)) :
    (events.foldl (step driver config) state).stateTimer.isRunning_ =
      state.stateTimer.isRunning_ := by
  induction events generalizing state with
  | nil => rfl
  | cons event rest ih => rw [List.foldl_cons, ih, step_stateTimer_isRunning_]

/-- Only an iteration clears the request. -/
theorem statusDue_step (hdue : state.StatusDue) {event : Event Motor}
    (hbetween : event.isIteration = false) : (step driver config state event).StatusDue := by
  obtain ⟨hrunning, hforced⟩ := hdue
  refine ⟨(step_stateTimer_isRunning_ state event).trans hrunning, ?_⟩
  cases event with
  | command cmd =>
      rw [step, processCommand_stateTimer, IntervalTimer.forceIf_forceTrigger_, hforced,
        Bool.true_or]
  | iterate input => exact absurd hbetween.symm Bool.false_ne_true
  | _ => exact hforced

theorem statusDue_foldl (hdue : state.StatusDue) {events : List (Event Motor)}
    (hbetween : ∀ event ∈ events, event.isIteration = false) :
    (events.foldl (step driver config) state).StatusDue := by
  induction events generalizing state with
  | nil => exact hdue
  | cons event rest ih =>
      have hnext : (step driver config state event).StatusDue :=
        statusDue_step hdue (hbetween event List.mem_cons_self)
      exact ih hnext fun later hlater => hbetween later (List.mem_cons_of_mem event hlater)

/-- **No silent command.** With the status channel on and its timer started, whatever
happened before: when a command has had an effect on a stepper, the first iteration after
it fires the timer, whatever happens in between. -/
theorem no_silent_command (hsend : config.sendMqttStatus = true) (started : State Motor)
    (hstarted : started.stateTimer.isRunning_ = true) (before between : List (Event Motor))
    (hbetween : ∀ event ∈ between, event.isIteration = false) (cmd : Ph5Command)
    (hnoticed : cmd.Noticed driver (before.foldl (step driver config) started))
    (input : LoopInput) :
    (loop driver config input
      ((before ++ .command cmd :: between).foldl (step driver config) started)).2.stateTimer =
        true := by
  have hdue : (step driver config (before.foldl (step driver config) started)
      (.command cmd)).StatusDue := by
    refine ⟨?_, ?_⟩
    · rw [step_stateTimer_isRunning_, foldl_stateTimer_isRunning_, hstarted]
    · rw [step, processCommand_stateTimer, IntervalTimer.forceIf_forceTrigger_,
        requestsStatus_of_noticed hnoticed, Bool.or_true]
  rw [List.foldl_append, List.foldl_cons]
  obtain ⟨hrunning, hforced⟩ := statusDue_foldl hdue hbetween
  exact (loop_fires_stateTimer_iff hsend hrunning).mpr (.inl (.inl hforced))

def setPosition : Ph5Command :=
  { Ph5Command.fresh with type := .setPosX, posX := 7 }

/-- What happens between the command and the next iteration. -/
def pinged : List (Event BenchMotor) :=
  [.displayRequest, .command { Ph5Command.fresh with type := .ping }]

/-- A new position for X, a redraw and a `PING`, between two iterations. -/
theorem position_not_silent :
    (loop benchDriver publishing (benchInput 20)
      (([Event.iterate (benchInput 10)] ++ Event.command setPosition :: pinged).foldl
        (step benchDriver publishing)
        (setup publishing ⟨0, 0, 0⟩ benchStepper benchStepper))).2.stateTimer = true :=
  no_silent_command rfl (setup publishing ⟨0, 0, 0⟩ benchStepper benchStepper) rfl
    [.iterate (benchInput 10)] pinged (by decide) setPosition
    (.inl ⟨{ motor := .atRest 0, calls := [] }, rfl, .setCurrentPosition 7, by decide, rfl⟩)
    (benchInput 20)

end Ph5Firmware
