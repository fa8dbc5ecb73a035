import Ph5Firmware.Library.Runs
import Ph5Firmware.Timer

/-!
# Requests from other tasks

`forceTrigger` is called from network callbacks, in tasks of their own, and from
`onTimer` itself, while the loop's task is anywhere inside `handle`.  Here `handle`
is cut into its single reads and writes, and a request can come between any two of
them.

* `uninterrupted_handle`, `interleaved_handle`: the steps of a call are
  `IntervalTimer.handle`, and a call with requests inside is that call with or
  without a request before it, and with or without one after it.
* `Requested`: what a request that was not served looks like.  The flag is set, or
  it was cleared and `onTimer` is next; only the start of `onTimer` ends that.
* `forceTrigger_served`: every request is followed by an `onTimer`, at the latest
  in the first call of `handle` that starts after it.
-/

namespace Ph5Firmware

/-- Where the loop's task is in `IntervalTimer::handle`: what it does next.  `now`
is the local variable. -/
inductive HandlePoint where
  /-- Not in `handle`: it is called next, finds out whether the timer is running and
  reads the clock. -/
  | outside
  | readFlag (now : UInt32)
  /-- The flag was read and was not set. -/
  | compareClock (now : UInt32)
  | clearFlag (now : UInt32)
  | callOnTimer (now : UInt32)
  | inOnTimer (now : UInt32)
  | setTriggerTime (now : UInt32)
  deriving DecidableEq

structure SharedTimer where
  timer : IntervalTimer
  point : HandlePoint
  deriving DecidableEq

/-- What happens next: another task, or `onTimer`, calls `forceTrigger`, or the
loop's task takes a step.  The step that reads the clock reads `millis`. -/
inductive TaskEvent where
  | forceTrigger
  | loop (millis : UInt32)
  deriving DecidableEq

def TaskEvent.isLoop : TaskEvent → Bool
  | .forceTrigger => false
  | .loop _ => true

namespace SharedTimer

/-- A timer just started; `handle` was not called yet. -/
def started (timer : IntervalTimer) (now periodMs : UInt32) (isStrict : Bool) : SharedTimer :=
  { timer := timer.start now periodMs isStrict, point := .outside }

/-- The next step of the loop's task in `IntervalTimer::handle`. -/
def loopStep (millis : UInt32) : SharedTimer → SharedTimer
  | ⟨timer, .outside⟩ => ⟨timer, if timer.isRunning_ then .readFlag millis else .outside⟩
  | ⟨timer, .readFlag now⟩ =>
      ⟨timer, if timer.forceTrigger_ then .clearFlag now else .compareClock now⟩
  | ⟨timer, .compareClock now⟩ =>
      ⟨timer, if timer.triggerTime_ ≤ now then .clearFlag now else .outside⟩
  | ⟨timer, .clearFlag now⟩ => ⟨{ timer with forceTrigger_ := false }, .callOnTimer now⟩
  | ⟨timer, .callOnTimer now⟩ => ⟨timer, .inOnTimer now⟩
  | ⟨timer, .inOnTimer now⟩ => ⟨timer, .setTriggerTime now⟩
  | ⟨timer, .setTriggerTime now⟩ =>
      ⟨{ timer with
          triggerTime_ :=
            if timer.isStrict_ then timer.triggerTime_ + timer.periodMs_
            else now + timer.periodMs_ }, .outside⟩

def step (shared : SharedTimer) : TaskEvent → SharedTimer
  | .forceTrigger => { shared with timer := shared.timer.forceTrigger }
  | .loop millis => shared.loopStep millis

/-- The event is the start of an `onTimer`. -/
def BeginsOnTimer : SharedTimer → TaskEvent → Prop
  | { timer := _, point := .callOnTimer _ }, .loop _ => True
  | _, _ => False

instance (shared : SharedTimer) (event : TaskEvent) : Decidable (shared.BeginsOnTimer event) := by
  rcases shared with ⟨timer, _ | _ | _ | _ | _ | _ | _⟩ <;> cases event <;>
    unfold BeginsOnTimer <;> infer_instance

/-! ## A call with requests inside -/

/-- A call of `handle` that began when the timer was `before` and the clock read
`now`; `ran` says whether its `onTimer` has begun.  The request `early` came before
the flag was read, `late` after it was read or cleared. -/
inductive InCall (before : IntervalTimer) (now : UInt32) : Bool → SharedTimer → Prop where
  | readFlag (early : Bool) :
      InCall before now false ⟨before.forceIf early, .readFlag now⟩
  | compareClock (late : Bool) (hunset : before.forceTrigger_ = false) :
      InCall before now false ⟨before.forceIf late, .compareClock now⟩
  | clearFlag (early late : Bool) (hdue : (before.forceIf early).due now = true) :
      InCall before now false ⟨before.forceIf late, .clearFlag now⟩
  | callOnTimer (early late : Bool) (hdue : (before.forceIf early).due now = true) :
      InCall before now false ⟨{ before with forceTrigger_ := late }, .callOnTimer now⟩
  | inOnTimer (early late : Bool) (hdue : (before.forceIf early).due now = true) :
      InCall before now true ⟨{ before with forceTrigger_ := late }, .inOnTimer now⟩
  | setTriggerTime (early late : Bool) (hdue : (before.forceIf early).due now = true) :
      InCall before now true ⟨{ before with forceTrigger_ := late }, .setTriggerTime now⟩
  | returned (early late : Bool) :
      InCall before now ((before.forceIf early).handle now).2
        ⟨((before.forceIf early).handle now).1.forceIf late, .outside⟩

variable {before : IntervalTimer} {now : UInt32} {ran : Bool} {shared : SharedTimer}

theorem InCall.request (hcall : InCall before now ran shared) :
    InCall before now ran (shared.step .forceTrigger) := by
  cases hcall with
  | readFlag early =>
      rw [step, IntervalTimer.forceTrigger_forceIf]
      exact .readFlag true
  | compareClock late hunset =>
      rw [step, IntervalTimer.forceTrigger_forceIf]
      exact .compareClock true hunset
  | clearFlag early late hdue =>
      rw [step, IntervalTimer.forceTrigger_forceIf]
      exact .clearFlag early true hdue
  | callOnTimer early late hdue => exact .callOnTimer early true hdue
  | inOnTimer early late hdue => exact .inOnTimer early true hdue
  | setTriggerTime early late hdue => exact .setTriggerTime early true hdue
  | returned early late =>
      rw [step, IntervalTimer.forceTrigger_forceIf]
      exact .returned early true

theorem InCall.loop (hrunning : before.isRunning_ = true) (hcall : InCall before now ran shared)
    (hinside : shared.point ≠ .outside) (millis : UInt32) :
    InCall before now (ran || decide (shared.BeginsOnTimer (.loop millis)))
      (shared.step (.loop millis)) := by
  cases hcall with
  | readFlag early =>
      rw [step, loopStep]
      by_cases hset : (before.forceIf early).forceTrigger_ = true
      · rw [if_pos hset]
        exact .clearFlag early early (IntervalTimer.due_iff.mpr (.inl hset))
      · rw [if_neg hset]
        rw [IntervalTimer.forceIf_forceTrigger_, Bool.or_eq_true, not_or] at hset
        exact .compareClock early (Bool.not_eq_true _ ▸ hset.1)
  | compareClock late hunset =>
      rw [step, loopStep, IntervalTimer.forceIf_triggerTime_]
      by_cases hover : before.triggerTime_ ≤ now
      · rw [if_pos hover]
        exact .clearFlag false late (IntervalTimer.due_iff.mpr (.inr hover))
      · rw [if_neg hover]
        -- nothing was due, so the call leaves the timer alone
        have hdue : ¬ before.due now = true := by
          rw [IntervalTimer.due_iff, hunset]
          exact not_or.mpr ⟨Bool.false_ne_true, hover⟩
        have hcall : InCall before now _ _ := .returned false late
        rw [IntervalTimer.forceIf_false, IntervalTimer.handle_of_not_due hdue] at hcall
        exact hcall
  | clearFlag early late hdue =>
      have hclear : { before.forceIf late with forceTrigger_ := false } =
          { before with forceTrigger_ := false } := by
        cases late <;> rfl
      rw [step, loopStep, hclear]
      exact .callOnTimer early false hdue
  | callOnTimer early late hdue => exact .inOnTimer early late hdue
  | inOnTimer early late hdue => exact .setTriggerTime early late hdue
  | setTriggerTime early late hdue =>
      have hhandle := IntervalTimer.handle_of_due
        ((IntervalTimer.forceIf_isRunning_ early before).trans hrunning) hdue
      have hfinal : ((before.forceIf early).fire now).forceIf late =
          { before with
            forceTrigger_ := late
            triggerTime_ :=
              if before.isStrict_ then before.triggerTime_ + before.periodMs_
              else now + before.periodMs_ } := by
        cases early <;> cases late <;> rfl
      have hcall : InCall before now _ _ := .returned early late
      rw [hhandle, hfinal] at hcall
      exact hcall
  | returned early late => exact absurd rfl hinside

theorem InCall.run (hrunning : before.isRunning_ = true) (hcall : InCall before now ran shared)
    {events : List TaskEvent}
    (hinside : Run.Along step (fun shared _ => shared.point ≠ .outside) shared events) :
    InCall before now (ran || decide (Run.Somewhere step BeginsOnTimer shared events))
      (events.foldl step shared) := by
  induction events generalizing ran shared with
  | nil =>
      have hnone : decide (Run.Somewhere step BeginsOnTimer shared []) = false := rfl
      rw [List.foldl_nil, hnone, Bool.or_false]
      exact hcall
  | cons event rest ih =>
      obtain ⟨hhere, hrest⟩ := hinside
      have hnext : InCall before now (ran || decide (shared.BeginsOnTimer event))
          (shared.step event) := by
        cases event with
        | forceTrigger =>
            rw [decide_eq_false (by simp [BeginsOnTimer]), Bool.or_false]
            exact hcall.request
        | loop millis => exact hcall.loop hrunning hhere millis
      have hrun := ih hnext hrest
      rw [Bool.or_assoc, ← Bool.decide_or] at hrun
      exact hrun

/-- **A call with requests inside** is a call of `IntervalTimer::handle` after and
before requests: what it makes of the timer, and whether it runs `onTimer`. -/
theorem interleaved_handle (hrunning : before.isRunning_ = true) {call : List TaskEvent}
    (hinside : Run.Along step (fun shared _ => shared.point ≠ .outside)
      ⟨before, .readFlag now⟩ call)
    (hover : (call.foldl step ⟨before, .readFlag now⟩).point = .outside) :
    ∃ early late,
      (call.foldl step ⟨before, .readFlag now⟩).timer =
        ((before.forceIf early).handle now).1.forceIf late ∧
      (Run.Somewhere step BeginsOnTimer ⟨before, .readFlag now⟩ call ↔
        ((before.forceIf early).handle now).2 = true) := by
  have hstart : InCall before now false ⟨before, .readFlag now⟩ := .readFlag false
  have hcall := hstart.run hrunning hinside
  rw [Bool.false_or] at hcall
  generalize call.foldl step ⟨before, .readFlag now⟩ = final at hcall hover ⊢
  generalize hran : decide (Run.Somewhere step BeginsOnTimer ⟨before, .readFlag now⟩ call) = ran
    at hcall
  cases hcall with
  | returned early late => exact ⟨early, late, rfl, hran ▸ decide_eq_true_iff.symm⟩
  | _ => exact absurd hover (by simp)

/-- Without a request inside, the steps of a call are the call. -/
theorem uninterrupted_handle (hrunning : before.isRunning_ = true) (now : UInt32) :
    ∃ steps, (List.replicate steps (TaskEvent.loop now)).foldl step ⟨before, .readFlag now⟩ =
      ⟨(before.handle now).1, .outside⟩ := by
  by_cases hset : before.forceTrigger_ = true
  · have hdue : before.due now = true := IntervalTimer.due_iff.mpr (.inl hset)
    refine ⟨5, ?_⟩
    rw [IntervalTimer.handle_of_due hrunning hdue, List.replicate_succ, List.foldl_cons, step,
      loopStep, if_pos hset]
    rfl
  · by_cases hover : before.triggerTime_ ≤ now
    · have hdue : before.due now = true := IntervalTimer.due_iff.mpr (.inr hover)
      refine ⟨6, ?_⟩
      rw [IntervalTimer.handle_of_due hrunning hdue, List.replicate_succ, List.foldl_cons, step,
        loopStep, if_neg hset, List.replicate_succ, List.foldl_cons, step, loopStep, if_pos hover]
      rfl
    · have hdue : ¬ before.due now = true :=
        IntervalTimer.due_iff.not.mpr (not_or.mpr ⟨hset, hover⟩)
      refine ⟨2, ?_⟩
      rw [IntervalTimer.handle_of_not_due hdue, List.replicate_succ, List.foldl_cons, step,
        loopStep, if_neg hset, List.replicate_succ, List.foldl_cons, step, loopStep, if_neg hover]
      rfl

/-! ## Requests are served -/

/-- A request came since the last `onTimer` began. -/
structure Requested (shared : SharedTimer) : Prop where
  running : shared.timer.isRunning_ = true
  owed : shared.timer.forceTrigger_ = true ∨ ∃ now, shared.point = .callOnTimer now

/-- The call under way is going to run `onTimer`. -/
inductive Serving : SharedTimer → Prop where
  | readFlag {timer : IntervalTimer} {now : UInt32} (hset : timer.forceTrigger_ = true) :
      Serving ⟨timer, .readFlag now⟩
  | clearFlag {timer : IntervalTimer} {now : UInt32} : Serving ⟨timer, .clearFlag now⟩
  | callOnTimer {timer : IntervalTimer} {now : UInt32} : Serving ⟨timer, .callOnTimer now⟩

theorem Serving.inside (hserving : shared.Serving) : shared.point ≠ .outside := by
  cases hserving <;> simp

/-- The steps the loop's task takes before it begins the `onTimer` it owes, at most. -/
def stepsToServe (shared : SharedTimer) : ℕ :=
  match shared.point with
  | .callOnTimer _ => 0
  | .clearFlag _ => 1
  | .readFlag _ => 2
  | .outside => 3
  | .compareClock _ => 4
  | .setTriggerTime _ => 4
  | .inOnTimer _ => 5

theorem stepsToServe_lt (shared : SharedTimer) : shared.stepsToServe < 6 := by
  unfold stepsToServe
  cases shared.point <;> simp

/-- What a request is owed, from the state it leaves. -/
structure Served (requested : SharedTimer) : Prop where
  /-- Once a call of `handle` that started after the request is over, an `onTimer` has
  begun since the request. -/
  call : ∀ between millis call,
    (between.foldl step requested).point = .outside →
      ((between ++ .loop millis :: call).foldl step requested).point = .outside →
        Run.Somewhere step BeginsOnTimer requested (between ++ .loop millis :: call)
  /-- Six steps of the loop's task are enough, wherever it was. -/
  steps : ∀ events, 6 ≤ events.countP TaskEvent.isLoop →
    Run.Somewhere step BeginsOnTimer requested events

theorem step_isRunning_ (shared : SharedTimer) (event : TaskEvent) :
    (shared.step event).timer.isRunning_ = shared.timer.isRunning_ := by
  rcases shared with ⟨timer, point⟩
  cases event with
  | forceTrigger => rfl
  | loop millis => cases point <;> rfl

theorem foldl_isRunning_ (shared : SharedTimer) (events : List TaskEvent) :
    (events.foldl step shared).timer.isRunning_ = shared.timer.isRunning_ := by
  induction events generalizing shared with
  | nil => rfl
  | cons event rest ih => exact (ih (shared.step event)).trans (step_isRunning_ shared event)

/-- Only the start of an `onTimer` ends a request, and it is on its way. -/
theorem Requested.step (hrequested : shared.Requested) (event : TaskEvent)
    (hbegins : ¬ shared.BeginsOnTimer event) :
    (shared.step event).Requested ∧
      (shared.step event).stepsToServe + (if event.isLoop then 1 else 0) ≤
        shared.stepsToServe := by
  obtain ⟨hrunning, howed⟩ := hrequested
  rcases shared with ⟨timer, point⟩
  cases event with
  | forceTrigger => exact ⟨⟨hrunning, .inl rfl⟩, Nat.le_refl _⟩
  | loop millis =>
      have hflag : (∀ now, point ≠ .callOnTimer now) → timer.forceTrigger_ = true := by
        intro hpoint
        exact howed.resolve_right (fun ⟨now, hnow⟩ => hpoint now hnow)
      cases point with
      | outside =>
          have hset := hflag (by simp)
          have hstep : step ⟨timer, .outside⟩ (.loop millis) = ⟨timer, .readFlag millis⟩ := by
            show (⟨timer, if timer.isRunning_ then _ else _⟩ : SharedTimer) = _
            rw [if_pos hrunning]
          rw [hstep]
          exact ⟨⟨hrunning, .inl hset⟩, Nat.le_refl _⟩
      | readFlag now =>
          have hset := hflag (by simp)
          have hstep : step ⟨timer, .readFlag now⟩ (.loop millis) = ⟨timer, .clearFlag now⟩ := by
            show (⟨timer, if timer.forceTrigger_ then _ else _⟩ : SharedTimer) = _
            rw [if_pos hset]
          rw [hstep]
          exact ⟨⟨hrunning, .inl hset⟩, Nat.le_refl _⟩
      | compareClock now =>
          have hset := hflag (by simp)
          rw [SharedTimer.step, loopStep]
          refine ⟨⟨hrunning, .inl hset⟩, ?_⟩
          by_cases hover : timer.triggerTime_ ≤ now
          · rw [if_pos hover]
            exact Nat.le_add_left 2 2
          · rw [if_neg hover]
            exact Nat.le_refl 4
      -- the flag goes, and `onTimer` is next
      | clearFlag now => exact ⟨⟨hrunning, .inr ⟨now, rfl⟩⟩, Nat.le_refl 1⟩
      | callOnTimer now => exact absurd trivial hbegins
      | inOnTimer now => exact ⟨⟨hrunning, .inl (hflag (by simp))⟩, Nat.le_refl 5⟩
      | setTriggerTime now => exact ⟨⟨hrunning, .inl (hflag (by simp))⟩, Nat.le_refl 4⟩

theorem Serving.step (hserving : shared.Serving) (event : TaskEvent)
    (hbegins : ¬ shared.BeginsOnTimer event) : (shared.step event).Serving := by
  cases hserving with
  | @readFlag timer now hset =>
      cases event with
      | forceTrigger => exact .readFlag rfl
      | loop millis =>
          rw [SharedTimer.step, loopStep, if_pos hset]
          exact .clearFlag
  | clearFlag =>
      cases event with
      | forceTrigger => exact .clearFlag
      | loop millis => exact .callOnTimer
  | callOnTimer =>
      cases event with
      | forceTrigger => exact .callOnTimer
      | loop millis => exact absurd trivial hbegins

/-- A call that starts while a request is open serves it. -/
theorem Requested.serving (hrequested : shared.Requested) (houtside : shared.point = .outside)
    (millis : UInt32) : (shared.step (.loop millis)).Serving := by
  obtain ⟨hrunning, howed⟩ := hrequested
  rcases shared with ⟨timer, point⟩
  obtain rfl : point = .outside := houtside
  have hset : timer.forceTrigger_ = true := howed.resolve_right (by simp)
  rw [SharedTimer.step, loopStep, if_pos hrunning]
  exact .readFlag hset

/-- Every open request gets its `onTimer`. -/
theorem Requested.served (hrequested : shared.Requested) : shared.Served where
  call := by
    intro between millis call hstarts hover
    rw [Run.somewhere_append]
    by_cases hbetween : Run.Somewhere SharedTimer.step BeginsOnTimer shared between
    · exact .inl hbetween
    · have hopen : (between.foldl SharedTimer.step shared).Requested :=
        Run.foldl_of_not_somewhere (fun _ event hopen hbegins => (hopen.step event hbegins).1)
          hrequested hbetween
      refine .inr (.inr ?_)
      refine Run.somewhere_of_left (fun _ event hserving => hserving.step event)
        (hopen.serving hstarts millis) ?_
      intro hserving
      rw [List.foldl_append, List.foldl_cons] at hover
      exact hserving.inside hover
  steps := by
    intro events hlong
    refine Run.somewhere_of_rank (fun _ event hopen => hopen.step event) hrequested ?_
    exact Nat.lt_of_lt_of_le shared.stepsToServe_lt hlong

/-- **No request is lost.** On a timer that was started, strict or not, whatever
happened before, every `forceTrigger` is followed by an `onTimer` that begins after
it, at the latest in the first call of `handle` that starts after it. -/
theorem forceTrigger_served (timer : IntervalTimer) (now periodMs : UInt32) (isStrict : Bool)
    (before : List TaskEvent) :
    ((before ++ [TaskEvent.forceTrigger]).foldl step
      (started timer now periodMs isStrict)).Served := by
  refine Requested.served ⟨foldl_isRunning_ _ _, .inl ?_⟩
  rw [List.foldl_append]
  rfl

-- a request between the clearing of the flag and the end of `onTimer` costs another one
example :
    let events := [.forceTrigger, .loop 1, .loop 1, .loop 1, .loop 1, .forceTrigger]
    Run.Somewhere step BeginsOnTimer (events.foldl step (started .fresh 0 100 true))
      [.loop 1, .loop 1, .loop 2, .loop 2, .loop 2, .loop 2] := by
  decide

end SharedTimer

end Ph5Firmware
