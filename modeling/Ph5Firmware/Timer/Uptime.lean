import Mathlib.Algebra.Order.Ring.Nat
import Ph5Firmware.Library.Runs
import Ph5Firmware.Library.WrappingClock
import Ph5Firmware.Timer

/-!
# Interval timers over a long uptime

`handle` compares two absolute 32-bit times, `millis()` and `triggerTime_`.  True
time does not wrap, so the comparison is right only as long as the two lie in the
same epoch of the clock.  A `TimerRun` keeps, next to the timer, what its user
knows: when it fired last, the period in force at that moment, and whether it was
forced since.

* `Tracks`: what ties the timer to that history, on runs where the timer has
  behaved so far.  The deadline is at most half a clock width away, either way.
* `handle_fires_iff`: one call, for a timer that tracks its history.
* `fires_when_due_iff`: the timer fires exactly when due, along a whole run, exactly
  when every unforced call is in the epoch of its deadline.
-/

namespace Ph5Firmware

open WrappingClock (epoch reading reading_le_iff)

abbrev clockWidth : ℕ := 2 ^ 32

/-- `millis()` at a time since the start of the program. -/
def millis (time : ℕ) : UInt32 := UInt32.ofNat time

theorem toNat_millis (time : ℕ) : (millis time).toNat = reading clockWidth time :=
  UInt32.toNat_ofNat'

theorem millis_add (time : ℕ) (duration : UInt32) :
    millis time + duration = millis (time + duration.toNat) := by
  rw [millis, millis, UInt32.ofNat_add, UInt32.ofNat_toNat]

/-- Before the clock wraps, the present is compared with the wrapped time. -/
theorem millis_le_millis {first second : ℕ} (hsecond : second < clockWidth) :
    millis first ≤ millis second ↔ first % 2 ^ 32 ≤ second := by
  have hshown : reading clockWidth second = second := Nat.mod_eq_of_lt hsecond
  rw [UInt32.le_iff_toNat_le, toNat_millis, toNat_millis, hshown]
  exact Iff.rfl

/-- The calls a running timer gets.  Only `handle` reads the clock. -/
inductive TimerCall where
  | handle (time : ℕ)
  | forceTrigger
  | setPeriodMs (periodMs : UInt32)
  deriving DecidableEq

/-- A timer and its history: when it fired last (or was started), the period in
force then, the period in force now, whether it was forced since, and when `handle`
was called last. -/
structure TimerRun where
  timer : IntervalTimer
  lastFired : ℕ
  period : ℕ
  currentPeriod : ℕ
  forced : Bool
  lastHandle : ℕ
  deriving DecidableEq

namespace TimerRun

/-- A timer started at `time`.  A request made before the start is still pending. -/
def started (timer : IntervalTimer) (time : ℕ) (periodMs : UInt32) : TimerRun :=
  { timer := timer.start (millis time) periodMs false
    lastFired := time
    period := periodMs.toNat
    currentPeriod := periodMs.toNat
    forced := timer.forceTrigger_
    lastHandle := time }

def deadline (run : TimerRun) : ℕ := run.lastFired + run.period

def step (run : TimerRun) : TimerCall → TimerRun
  | .handle time =>
      let result := run.timer.handle (millis time)
      if result.2 then
        { timer := result.1
          lastFired := time
          period := run.currentPeriod
          currentPeriod := run.currentPeriod
          forced := false
          lastHandle := time }
      else { run with timer := result.1, lastHandle := time }
  | .forceTrigger => { run with timer := run.timer.forceTrigger, forced := true }
  | .setPeriodMs periodMs =>
      { run with timer := run.timer.setPeriodMs periodMs, currentPeriod := periodMs.toNat }

/-- Time does not go back, `handle` is called at least every 2^31 ms, and periods are
below 2^31 ms. -/
def Allowed (run : TimerRun) : TimerCall → Prop
  | .handle time => run.lastHandle ≤ time ∧ time < run.lastHandle + 2 ^ 31
  | .forceTrigger => True
  | .setPeriodMs periodMs => periodMs.toNat < 2 ^ 31

/-- `handle` runs `onTimer` if and only if the timer was forced or its period is
over. -/
def FiresWhenDue (run : TimerRun) : TimerCall → Prop
  | .handle time =>
      (run.timer.handle (millis time)).2 = true ↔
        run.forced = true ∨ run.deadline ≤ time
  | _ => True

/-- An unforced call of `handle` lies in the epoch of the deadline. -/
def InEpoch (run : TimerRun) : TimerCall → Prop
  | .handle time =>
      run.forced = true ∨ epoch clockWidth time = epoch clockWidth run.deadline
  | _ => True

instance (run : TimerRun) (call : TimerCall) : Decidable (run.Allowed call) := by
  cases call <;> unfold Allowed <;> infer_instance

instance (run : TimerRun) (call : TimerCall) : Decidable (run.FiresWhenDue call) := by
  cases call <;> unfold FiresWhenDue <;> infer_instance

instance (run : TimerRun) (call : TimerCall) : Decidable (run.InEpoch call) := by
  cases call <;> unfold InEpoch <;> infer_instance

/-- The timer tracks its history: it is running and not strict, its fields hold what
the history says, and its deadline was not passed by an earlier call of `handle`. -/
structure Tracks (run : TimerRun) : Prop where
  isRunning : run.timer.isRunning_ = true
  lax : run.timer.isStrict_ = false
  forced : run.timer.forceTrigger_ = run.forced
  period : run.timer.periodMs_.toNat = run.currentPeriod
  trigger : run.timer.triggerTime_ = millis run.deadline
  currentPeriod_lt : run.currentPeriod < 2 ^ 31
  period_lt : run.period < 2 ^ 31
  order : run.lastFired ≤ run.lastHandle
  notMissed : run.lastHandle = run.lastFired ∨ run.lastHandle < run.deadline

/-! ## One call -/

theorem started_tracks (timer : IntervalTimer) (time : ℕ) {periodMs : UInt32}
    (hperiod : periodMs.toNat < 2 ^ 31) : (started timer time periodMs).Tracks where
  isRunning := rfl
  lax := rfl
  forced := rfl
  period := rfl
  trigger := millis_add time periodMs
  currentPeriod_lt := hperiod
  period_lt := hperiod
  order := Nat.le_refl time
  notMissed := .inl rfl

variable {run : TimerRun} {time : ℕ}

/-- The deadline of a timer that tracks its history is close. -/
theorem Tracks.deadline_close (htracks : run.Tracks) (hallowed : run.Allowed (.handle time)) :
    run.deadline < time + clockWidth ∧ time < run.deadline + clockWidth := by
  obtain ⟨hafter, hsoon⟩ := hallowed
  have hperiod := htracks.period_lt
  have horder := htracks.order
  have hdeadline : run.deadline = run.lastFired + run.period := rfl
  have hwidth : clockWidth = 2 ^ 32 := rfl
  rcases htracks.notMissed with hfired | hbefore
  · constructor <;> omega
  · constructor <;> omega

theorem Tracks.handle_snd (htracks : run.Tracks) (time : ℕ) :
    (run.timer.handle (millis time)).2 = true ↔
      run.forced = true ∨ reading clockWidth run.deadline ≤ reading clockWidth time := by
  rw [IntervalTimer.handle_snd, htracks.isRunning, Bool.true_and, IntervalTimer.due_iff,
    htracks.forced, htracks.trigger, UInt32.le_iff_toNat_le, toNat_millis, toNat_millis]

/-- One call of `handle` is right exactly when it is forced or in the epoch of the
deadline. -/
theorem handle_fires_iff (htracks : run.Tracks) (hallowed : run.Allowed (.handle time)) :
    run.FiresWhenDue (.handle time) ↔ run.InEpoch (.handle time) := by
  obtain ⟨hbehind, hahead⟩ := htracks.deadline_close hallowed
  simp only [FiresWhenDue, InEpoch]
  rw [htracks.handle_snd]
  by_cases hforced : run.forced = true
  · simp [hforced]
  · simp only [hforced, Bool.false_eq_true, false_or]
    exact reading_le_iff hbehind hahead

/-- A timer that fires as it should goes on tracking its history. -/
theorem tracks_handle (htracks : run.Tracks) (hallowed : run.Allowed (.handle time))
    (hfires : run.FiresWhenDue (.handle time)) : (run.step (.handle time)).Tracks := by
  obtain ⟨hafter, -⟩ := hallowed
  have horder := htracks.order
  by_cases hfired : (run.timer.handle (millis time)).2 = true
  · have htimer : (run.timer.handle (millis time)).1 = run.timer.fire (millis time) := by
      rw [IntervalTimer.handle_fst, if_pos hfired]
    simp only [step, hfired, if_true]
    exact
      { isRunning := by rw [htimer]; exact htracks.isRunning
        lax := by rw [htimer]; exact htracks.lax
        forced := by rw [htimer]; rfl
        period := by rw [htimer]; exact htracks.period
        trigger := by
          rw [htimer, IntervalTimer.fire, htracks.lax, deadline, ← htracks.period]
          exact millis_add time run.timer.periodMs_
        currentPeriod_lt := htracks.currentPeriod_lt
        period_lt := htracks.currentPeriod_lt
        order := Nat.le_refl time
        notMissed := .inl rfl }
  · have htimer : (run.timer.handle (millis time)).1 = run.timer := by
      rw [IntervalTimer.handle_fst, if_neg hfired]
    -- not fired, so not due: the deadline is still ahead
    have hbefore : time < run.deadline := by
      by_contra hpassed
      exact hfired (hfires.mpr (.inr (Nat.le_of_not_lt hpassed)))
    simp only [step, hfired, htimer, Bool.false_eq_true, if_false]
    exact
      { isRunning := htracks.isRunning
        lax := htracks.lax
        forced := htracks.forced
        period := htracks.period
        trigger := htracks.trigger
        currentPeriod_lt := htracks.currentPeriod_lt
        period_lt := htracks.period_lt
        order := Nat.le_trans horder hafter
        notMissed := .inr hbefore }

theorem tracks_step (htracks : run.Tracks) {call : TimerCall} (hallowed : run.Allowed call)
    (hfires : run.FiresWhenDue call) : (run.step call).Tracks := by
  cases call with
  | handle time => exact tracks_handle htracks hallowed hfires
  | forceTrigger => exact { htracks with forced := rfl }
  | setPeriodMs periodMs =>
      exact { htracks with period := rfl, currentPeriod_lt := hallowed }

theorem firesWhenDue_iff_inEpoch (htracks : run.Tracks) {call : TimerCall}
    (hallowed : run.Allowed call) : run.FiresWhenDue call ↔ run.InEpoch call := by
  cases call with
  | handle time => exact handle_fires_iff htracks hallowed
  | forceTrigger => exact Iff.rfl
  | setPeriodMs periodMs => exact Iff.rfl

/-! ## Runs -/

/-- **Firing when due.** Along a run the timer fires exactly when due if and only if
every unforced call of `handle` lies in the epoch of its deadline. -/
theorem fires_when_due_iff (timer : IntervalTimer) (start : ℕ) {periodMs : UInt32}
    (hperiod : periodMs.toNat < 2 ^ 31) {calls : List TimerCall}
    (hallowed : Run.Along step Allowed (started timer start periodMs) calls) :
    Run.Along step FiresWhenDue (started timer start periodMs) calls ↔
      Run.Along step InEpoch (started timer start periodMs) calls := by
  refine Run.along_iff ?_ ?_ (started_tracks timer start hperiod) hallowed
  · intro run call htracks hok
    exact firesWhenDue_iff_inEpoch htracks hok
  · intro run call htracks hok hfires
    exact tracks_step htracks hok hfires

/-- Forced and unforced firings of a timer that does not meet the wrap. -/
theorem fires_when_due_early :
    Run.Along step FiresWhenDue (started .fresh 5000 1000)
      [.handle 5100, .forceTrigger, .handle 5200, .setPeriodMs 500, .handle 6100,
        .handle 6200, .handle 6700] :=
  (fires_when_due_iff .fresh 5000 (by decide) (by decide)).mpr (by decide)

/-- Around the wrap: a period of 50 ms that ends before it is not over 150 ms after
the start, and a period of 1000 ms that ends after it is over 10 ms after the
start. -/
theorem wrap_missed_and_early :
    (Run.Along step Allowed (started .fresh (2 ^ 32 - 100) 50) [.handle (2 ^ 32 + 50)] ∧
        ¬ Run.Along step FiresWhenDue (started .fresh (2 ^ 32 - 100) 50)
          [.handle (2 ^ 32 + 50)]) ∧
      Run.Along step Allowed (started .fresh (2 ^ 32 - 100) 1000) [.handle (2 ^ 32 - 90)] ∧
        ¬ Run.Along step FiresWhenDue (started .fresh (2 ^ 32 - 100) 1000)
          [.handle (2 ^ 32 - 90)] := by
  refine ⟨⟨by decide, by decide⟩, by decide, by decide⟩

end TimerRun

end Ph5Firmware
