import Ph5Firmware.Timer.Uptime

/-!
# The window of a timer

A `Timer` is asked to be on for a while, at once or after a delay.  After every `handle` it
should be on exactly within the window of the last request, and the last `onTimer` should
have said so.

A `WindowRun` keeps that window next to the timer, in true time.  Three things go wrong.

* A timer that is on when a delayed request comes stays on through the delay.
* A `handle` that comes after the window switches the timer on, if no earlier one did.
* A window that ends at `2^32` or later ends early, because the sums wrap.

`Window.Seen` is the condition on a call; `follows_iff` compares it with what the call should
do, and `window_followed_iff` does the same for whole runs.  The clock itself does not wrap.
-/

namespace Ph5Firmware

open WrappingClock (reading)

inductive WindowCall where
  | triggerFor (time : ℕ) (durationMs : UInt32)
  | triggerAfterDelay (time : ℕ) (delayMs durationMs : UInt32)
  | handle (time : ℕ)
  deriving DecidableEq

/-- What the last request asked for. -/
structure Window where
  start : ℕ
  stop : ℕ
  delayed : Bool
  deriving DecidableEq

namespace Window

def now (time : ℕ) (durationMs : UInt32) : Window :=
  { start := time, stop := time + durationMs.toNat, delayed := false }

def later (time : ℕ) (delayMs durationMs : UInt32) : Window :=
  { start := time + delayMs.toNat, stop := time + delayMs.toNat + durationMs.toNat
    delayed := true }

def Contains (window : Window) (time : ℕ) : Prop :=
  window.start ≤ time ∧ time < window.stop

end Window

/-- A timer, the window of the last request, the argument of the last `onTimer`, and the
time of the last call. -/
structure WindowRun where
  timer : Timer
  window : Option Window
  lastArgument : Option Bool
  lastTime : ℕ
  deriving DecidableEq

namespace WindowRun

def booted (delayMs_ : UInt32) : WindowRun :=
  { timer := .fresh delayMs_, window := none, lastArgument := none, lastTime := 0 }

/-- The run after a call that left `result`. -/
def after (run : WindowRun) (result : Timer × Option Bool) (window : Option Window)
    (time : ℕ) : WindowRun :=
  { timer := result.1
    window := window
    lastArgument := result.2.or run.lastArgument
    lastTime := time }

def step (run : WindowRun) : WindowCall → WindowRun
  | .triggerFor time durationMs =>
      run.after (run.timer.triggerFor (millis time) durationMs) (some (.now time durationMs)) time
  | .triggerAfterDelay time delayMs durationMs =>
      run.after (run.timer.triggerAfterDelay (millis time) delayMs durationMs)
        (some (.later time delayMs durationMs)) time
  | .handle time => run.after (run.timer.handle (millis time)) run.window time

/-- Time does not go back, and the clock does not wrap. -/
def InTime (run : WindowRun) (time : ℕ) : Prop :=
  run.lastTime ≤ time ∧ time < clockWidth

def Allowed (run : WindowRun) : WindowCall → Prop
  | .triggerFor time _ => run.InTime time
  | .triggerAfterDelay time _ _ => run.InTime time
  | .handle time => run.InTime time

/-- After `handle` the timer is on exactly in the window of the last request, and the last
`onTimer` has said whether it is. -/
def Follows (run : WindowRun) : WindowCall → Prop
  | .handle time =>
      ((run.step (.handle time)).timer.isOn = true ↔
          ∃ window ∈ run.window, window.Contains time) ∧
        ∀ argument ∈ (run.step (.handle time)).lastArgument,
          argument = (run.step (.handle time)).timer.isOn
  | _ => True

end WindowRun

/-- What a call of `handle` needs to follow the window.  If the window ends before the clock
wraps: after a delayed request, a timer that is on has to be in the window, and one that
still waits has to be before its end.  If it does not: the request has to be delayed, and a
timer that is on has to be before the window, behind the wrapped time of its end; one that
still waits has to have a window that begins before the clock wraps; one that has stopped
has to be before the window. -/
def Window.Seen (timer : Timer) (time : ℕ) (window : Window) : Prop :=
  if window.stop < clockWidth then
    window.delayed = true →
      if timer.on_ then window.start ≤ time
      else timer.isRunning_ = true → time < window.stop
  else
    window.delayed = true ∧
      if timer.on_ then time < window.start ∧ reading clockWidth window.stop ≤ time
      else if timer.isRunning_ then window.start < clockWidth
      else time < window.start

instance (window : Window) (time : ℕ) : Decidable (window.Contains time) := by
  unfold Window.Contains
  infer_instance

instance (timer : Timer) (time : ℕ) (window : Window) : Decidable (window.Seen timer time) := by
  unfold Window.Seen
  infer_instance

namespace WindowRun

def Seen (run : WindowRun) : WindowCall → Prop
  | .handle time => ∀ window ∈ run.window, window.Seen run.timer time
  | _ => True

instance (run : WindowRun) (call : WindowCall) : Decidable (run.Allowed call) := by
  cases call <;> unfold Allowed InTime <;> infer_instance

instance (run : WindowRun) (call : WindowCall) : Decidable (run.Follows call) := by
  cases call <;> unfold Follows <;> infer_instance

instance (run : WindowRun) (call : WindowCall) : Decidable (run.Seen call) := by
  cases call <;> unfold Seen <;> infer_instance

end WindowRun

/-- What a timer holds of the last request, while it has followed the windows. -/
structure Window.Tracked (timer : Timer) (lastTime : ℕ) (window : Window) : Prop where
  stop : timer.stopTime_ = millis window.stop
  start : window.delayed = true → timer.startTime_ = millis window.start
  ordered : window.start ≤ window.stop
  start_close : window.start < lastTime + clockWidth
  stop_close : window.stop < window.start + clockWidth
  begun : window.delayed = false → window.start ≤ lastTime
  finished : timer.isRunning_ = false → window.stop < clockWidth → window.stop ≤ lastTime
  /-- A timer that was to be on at once is off only because the window is over. -/
  atOnce : window.delayed = false → timer.on_ = false →
    timer.isRunning_ = false ∧ window.stop < clockWidth

structure WindowRun.Tracks (run : WindowRun) : Prop where
  argument : ∀ argument ∈ run.lastArgument, argument = run.timer.on_
  fresh : run.window = none → run.timer.on_ = false
  running : run.timer.on_ = true → run.timer.isRunning_ = true
  waiting : run.window = none → run.timer.isRunning_ = false
  window : ∀ window ∈ run.window, window.Tracked run.timer run.lastTime

/-! ## One call of `handle` -/

namespace Timer

variable {timer : Timer} {now : UInt32}

theorem handle_of_stopped (hstopped : timer.isRunning_ = false) :
    timer.handle now = (timer, none) := by
  rw [handle, hstopped]
  rfl

theorem handle_of_on (hrunning : timer.isRunning_ = true) (hon : timer.on_ = true) :
    timer.handle now =
      if timer.stopTime_ ≤ now then
        ({ timer with isRunning_ := false, on_ := false }, some false)
      else (timer, none) := by
  rw [handle, if_pos hrunning, if_pos hon]

theorem handle_of_waiting (hrunning : timer.isRunning_ = true) (hoff : timer.on_ = false) :
    timer.handle now =
      if timer.startTime_ ≤ now then ({ timer with on_ := true }, some true)
      else (timer, none) := by
  rw [handle, if_pos hrunning, hoff]
  rfl

theorem on_handle_of_on (hrunning : timer.isRunning_ = true) (hon : timer.on_ = true) :
    (timer.handle now).1.on_ = true ↔ ¬ timer.stopTime_ ≤ now := by
  rw [handle_of_on hrunning hon]
  by_cases hover : timer.stopTime_ ≤ now
  · simp [hover]
  · simp [hover, hon]

theorem on_handle_of_waiting (hrunning : timer.isRunning_ = true) (hoff : timer.on_ = false) :
    (timer.handle now).1.on_ = true ↔ timer.startTime_ ≤ now := by
  rw [handle_of_waiting hrunning hoff]
  by_cases hbegun : timer.startTime_ ≤ now
  · simp [hbegun]
  · simp [hbegun, hoff]

/-- Whenever the output changes, `onTimer` says so. -/
theorem handle_argument (timer : Timer) (now : UInt32) :
    (timer.handle now).2 = some (timer.handle now).1.on_ ∨
      ((timer.handle now).2 = none ∧ (timer.handle now).1 = timer) := by
  unfold handle
  split_ifs <;> simp

end Timer

namespace Window

variable {timer : Timer} {window : Window} {lastTime time : ℕ}

/-- A timer that is on. -/
theorem seen_iff_of_on (htracked : window.Tracked timer lastTime)
    (hrunning : timer.isRunning_ = true) (hon : timer.on_ = true)
    (hafter : lastTime ≤ time) (htime : time < clockWidth) :
    ((timer.handle (millis time)).1.on_ = true ↔ window.Contains time) ↔
      window.Seen timer time := by
  have hcode : (timer.handle (millis time)).1.on_ = true ↔ ¬ window.stop % 2 ^ 32 ≤ time := by
    rw [Timer.on_handle_of_on hrunning hon, htracked.stop, millis_le_millis htime]
  have hwrapped : reading clockWidth window.stop = window.stop % 2 ^ 32 := rfl
  have hwidth : clockWidth = 2 ^ 32 := rfl
  have hordered := htracked.ordered
  have hclose := htracked.stop_close
  have hbegun := htracked.begun
  rw [hcode, Seen, Contains, if_pos hon, if_pos hon, hwrapped]
  by_cases hshort : window.stop < clockWidth
  · rw [if_pos hshort]
    cases hdelayed : window.delayed with
    | false =>
        -- begun at once, so only the end counts, and it did not wrap
        have hstarted := hbegun hdelayed
        simp only [Bool.false_eq_true, false_implies, iff_true]
        omega
    | true =>
        simp only [true_implies]
        omega
  · rw [if_neg hshort]
    cases hdelayed : window.delayed with
    | false =>
        -- the wrapped end lies before the request, so this call switches the timer off
        have hstarted := hbegun hdelayed
        simp only [Bool.false_eq_true, false_and, iff_false]
        omega
    | true =>
        simp only [true_and]
        omega

/-- A timer that waits for a delayed window. -/
theorem seen_iff_of_waiting (htracked : window.Tracked timer lastTime)
    (hrunning : timer.isRunning_ = true) (hoff : timer.on_ = false)
    (hafter : lastTime ≤ time) (htime : time < clockWidth) :
    ((timer.handle (millis time)).1.on_ = true ↔ window.Contains time) ↔
      window.Seen timer time := by
  have hdelayed : window.delayed = true := by
    by_contra hnow
    have hstopped := (htracked.atOnce (eq_false_of_ne_true hnow) hoff).1
    exact Bool.false_ne_true (hstopped.symm.trans hrunning)
  have hcode : (timer.handle (millis time)).1.on_ = true ↔ window.start % 2 ^ 32 ≤ time := by
    rw [Timer.on_handle_of_waiting hrunning hoff, htracked.start hdelayed,
      millis_le_millis htime]
  have hwidth : clockWidth = 2 ^ 32 := rfl
  have hordered := htracked.ordered
  have hclose := htracked.start_close
  rw [hcode, Seen, Contains, hdelayed, hoff, hrunning]
  simp only [Bool.false_eq_true, if_false, if_true, true_implies, true_and]
  split_ifs with hshort
  · omega
  · omega

/-- A timer that has stopped. -/
theorem seen_iff_of_stopped (htracked : window.Tracked timer lastTime)
    (hstopped : timer.isRunning_ = false) (hoff : timer.on_ = false)
    (hafter : lastTime ≤ time) (htime : time < clockWidth) :
    ((timer.handle (millis time)).1.on_ = true ↔ window.Contains time) ↔
      window.Seen timer time := by
  have hkept : (timer.handle (millis time)).1 = timer := by
    rw [Timer.handle_of_stopped hstopped]
  have hfinished := htracked.finished hstopped
  have hatOnce := htracked.atOnce
  rw [hkept, Seen, Contains, hoff, hstopped]
  simp only [Bool.false_eq_true, if_false, false_implies, imp_true_iff, false_iff]
  split_ifs with hshort
  · have hover := hfinished hshort
    simp only [iff_true]
    omega
  · -- a window that ends behind the wrap has not ended; the timer stopped at the wrapped end
    have hdelayed : window.delayed = true := by
      by_contra hnow
      exact hshort (hatOnce (eq_false_of_ne_true hnow) hoff).2
    simp only [hdelayed, true_and]
    omega

/-- The timer follows the window in one call exactly when it can see it. -/
theorem contains_iff_seen (htracked : window.Tracked timer lastTime)
    (hrunning : timer.on_ = true → timer.isRunning_ = true)
    (hafter : lastTime ≤ time) (htime : time < clockWidth) :
    ((timer.handle (millis time)).1.on_ = true ↔ window.Contains time) ↔
      window.Seen timer time := by
  cases hon : timer.on_ with
  | true => exact seen_iff_of_on htracked (hrunning hon) hon hafter htime
  | false =>
      cases hwaits : timer.isRunning_ with
      | true => exact seen_iff_of_waiting htracked hwaits hon hafter htime
      | false => exact seen_iff_of_stopped htracked hwaits hon hafter htime

/-- A new request is tracked, whatever the timer did before. -/
theorem tracked_now (timer : Timer) (time : ℕ) (durationMs : UInt32) :
    (Window.now time durationMs).Tracked (timer.triggerFor (millis time) durationMs).1 time where
  stop := millis_add time durationMs
  start hdelayed := absurd hdelayed Bool.false_ne_true
  ordered := Nat.le_add_right time durationMs.toNat
  start_close := Nat.lt_add_of_pos_right (by decide)
  stop_close := Nat.add_lt_add_left durationMs.toNat_lt time
  begun _ := Nat.le_refl time
  finished hstopped := absurd hstopped.symm Bool.false_ne_true
  atOnce _ hoff := absurd hoff.symm Bool.false_ne_true

theorem tracked_later (timer : Timer) (time : ℕ) (delayMs durationMs : UInt32) :
    (Window.later time delayMs durationMs).Tracked
      (timer.triggerAfterDelay (millis time) delayMs durationMs).1 time where
  stop := by
    have hstart : millis time + delayMs = millis (time + delayMs.toNat) := millis_add time delayMs
    rw [Timer.triggerAfterDelay, hstart]
    exact millis_add (time + delayMs.toNat) durationMs
  start _ := millis_add time delayMs
  ordered := Nat.le_add_right (time + delayMs.toNat) durationMs.toNat
  start_close := Nat.add_lt_add_left delayMs.toNat_lt time
  stop_close := Nat.add_lt_add_left durationMs.toNat_lt (time + delayMs.toNat)
  begun hnow := absurd hnow.symm Bool.false_ne_true
  finished hstopped := absurd hstopped.symm Bool.false_ne_true
  atOnce hnow := absurd hnow.symm Bool.false_ne_true

theorem Tracked.mono (htracked : window.Tracked timer lastTime) (hafter : lastTime ≤ time) :
    window.Tracked timer time where
  stop := htracked.stop
  start := htracked.start
  ordered := htracked.ordered
  start_close := Nat.lt_of_lt_of_le htracked.start_close (Nat.add_le_add_right hafter clockWidth)
  stop_close := htracked.stop_close
  begun hnow := Nat.le_trans (htracked.begun hnow) hafter
  finished hstopped hshort := Nat.le_trans (htracked.finished hstopped hshort) hafter
  atOnce := htracked.atOnce

/-- A timer that can see its window goes on tracking it. -/
theorem Tracked.handle (htracked : window.Tracked timer lastTime)
    (hrunning : timer.on_ = true → timer.isRunning_ = true)
    (hafter : lastTime ≤ time) (htime : time < clockWidth) (hseen : window.Seen timer time) :
    window.Tracked (timer.handle (millis time)).1 time := by
  have hkept : window.Tracked timer time := htracked.mono hafter
  cases hon : timer.on_ with
  | true =>
      rw [Timer.handle_of_on (hrunning hon) hon]
      split_ifs with hover
      · -- the timer goes off, at the end of the window or at the wrapped end
        rw [htracked.stop, millis_le_millis htime] at hover
        refine { hkept with finished := ?_, atOnce := ?_ }
        · intro _ hshort
          have hunwrapped : window.stop % 2 ^ 32 = window.stop := Nat.mod_eq_of_lt hshort
          omega
        · intro hnow _
          refine ⟨rfl, ?_⟩
          by_contra hlong
          rw [Seen, if_neg hlong] at hseen
          exact Bool.false_ne_true (hnow.symm.trans hseen.1)
      · exact hkept
  | false =>
      cases hwaits : timer.isRunning_ with
      | true =>
          rw [Timer.handle_of_waiting hwaits hon]
          split_ifs with hbegun
          · refine { hkept with finished := ?_, atOnce := ?_ }
            · intro hstopped
              exact absurd (hstopped.symm.trans hwaits) Bool.false_ne_true
            · intro _ hoff
              exact absurd hoff.symm Bool.false_ne_true
          · exact hkept
      | false =>
          rw [Timer.handle_of_stopped hwaits]
          exact hkept

end Window

/-! ## Runs -/

namespace WindowRun

variable {run : WindowRun} {call : WindowCall} {time : ℕ}

theorem booted_tracks (delayMs_ : UInt32) : (booted delayMs_).Tracks where
  argument _ hargument := absurd hargument (Option.not_mem_none _)
  fresh _ := rfl
  running hon := absurd hon Bool.false_ne_true
  waiting _ := rfl
  window _ hwindow := absurd hwindow (Option.not_mem_none _)

theorem Tracks.handle_of_fresh (htracks : run.Tracks) (hnone : run.window = none)
    {now : UInt32} : run.timer.handle now = (run.timer, none) :=
  Timer.handle_of_stopped (htracks.waiting hnone)

/-- The last argument of `onTimer` is always the output. -/
theorem argument_handle (htracks : run.Tracks) (time : ℕ) :
    ∀ argument ∈ (run.step (.handle time)).lastArgument,
      argument = (run.step (.handle time)).timer.isOn := by
  intro argument hargument
  simp only [WindowRun.step, after, Timer.isOn] at hargument ⊢
  rcases run.timer.handle_argument (millis time) with hcalled | ⟨hquiet, hkept⟩
  · rw [hcalled, Option.some_or] at hargument
    exact (Option.some.inj hargument).symm
  · rw [hquiet, Option.none_or] at hargument
    rw [hkept]
    exact htracks.argument argument hargument

/-- **One call** follows the window of the last request exactly when it can see it. -/
theorem follows_iff (htracks : run.Tracks) (hallowed : run.Allowed call) :
    run.Follows call ↔ run.Seen call := by
  cases call with
  | triggerFor time durationMs => exact Iff.rfl
  | triggerAfterDelay time delayMs durationMs => exact Iff.rfl
  | handle time =>
      obtain ⟨hafter, htime⟩ := hallowed
      rw [Follows, and_iff_left (argument_handle htracks time)]
      simp only [Seen]
      cases hwindow : run.window with
      | none =>
          simp [WindowRun.step, after, htracks.handle_of_fresh hwindow, Timer.isOn,
            htracks.fresh hwindow]
      | some window =>
          simp only [Option.mem_some, forall_eq', exists_eq_left']
          exact Window.contains_iff_seen (htracks.window window hwindow) htracks.running hafter
            htime

theorem running_handle (timer : Timer) (now : UInt32)
    (hrunning : timer.on_ = true → timer.isRunning_ = true)
    (hon : (timer.handle now).1.on_ = true) : (timer.handle now).1.isRunning_ = true := by
  cases hwaits : timer.isRunning_ with
  | false =>
      rw [Timer.handle_of_stopped hwaits] at hon
      exact absurd (hwaits.symm.trans (hrunning hon)) Bool.false_ne_true
  | true =>
      cases hbefore : timer.on_ with
      | true =>
          rw [Timer.handle_of_on hwaits hbefore] at hon ⊢
          split_ifs at hon ⊢ with hover
          exact hwaits
      | false =>
          rw [Timer.handle_of_waiting hwaits hbefore]
          split_ifs with hbegun
          · exact hwaits
          · exact hwaits

/-- As long as a timer has followed its windows, it goes on tracking them. -/
theorem Tracks.step (htracks : run.Tracks) (hallowed : run.Allowed call)
    (hfollows : run.Follows call) : (run.step call).Tracks := by
  cases call with
  | triggerFor time durationMs =>
      refine ⟨?_, ?_, fun _ => rfl, ?_, ?_⟩
      · intro argument hargument
        exact (Option.some.inj hargument).symm
      · intro hnone
        exact absurd hnone (Option.some_ne_none _)
      · intro hnone
        exact absurd hnone (Option.some_ne_none _)
      · intro window hwindow
        obtain rfl := Option.some.inj hwindow
        exact Window.tracked_now run.timer time durationMs
  | triggerAfterDelay time delayMs durationMs =>
      refine ⟨htracks.argument, ?_, fun _ => rfl, ?_, ?_⟩
      · intro hnone
        exact absurd hnone (Option.some_ne_none _)
      · intro hnone
        exact absurd hnone (Option.some_ne_none _)
      · intro window hwindow
        obtain rfl := Option.some.inj hwindow
        exact Window.tracked_later run.timer time delayMs durationMs
  | handle time =>
      -- a call that follows the window has seen it in time
      have hseen := (follows_iff htracks hallowed).mp hfollows
      obtain ⟨hafter, htime⟩ := hallowed
      refine ⟨argument_handle htracks time, ?_, ?_, ?_, ?_⟩
      · intro hnone
        simp only [WindowRun.step, after, htracks.handle_of_fresh hnone]
        exact htracks.fresh hnone
      · exact running_handle run.timer (millis time) htracks.running
      · intro hnone
        simp only [WindowRun.step, after, htracks.handle_of_fresh hnone]
        exact htracks.waiting hnone
      · intro window hwindow
        exact (htracks.window window hwindow).handle htracks.running hafter htime
          (hseen window hwindow)

/-- **The window.** Along a run from the construction of the timer, after every `handle` the
timer is on exactly in the window of the last request, and the last `onTimer` has said so,
if and only if every `handle` can see the window. -/
theorem window_followed_iff (delayMs_ : UInt32) {calls : List WindowCall}
    (hallowed : Run.Along step Allowed (booted delayMs_) calls) :
    Run.Along step Follows (booted delayMs_) calls ↔
      Run.Along step Seen (booted delayMs_) calls := by
  refine Run.along_iff ?_ ?_ (booted_tracks delayMs_) hallowed
  · intro run call htracks hok
    exact follows_iff htracks hok
  · intro run call htracks hok hfollows
    exact htracks.step hok hfollows

/-- A window at once, one that replaces it, and a delayed one. -/
theorem window_followed_early :
    Run.Along step Follows (booted 0)
      [.triggerFor 10 100, .handle 50, .triggerFor 60 200, .handle 120, .handle 260,
        .triggerAfterDelay 300 50 20, .handle 340, .handle 350, .handle 370] :=
  (window_followed_iff 0 (by decide)).mpr (by decide)

/-- A request with a delay while the timer is on, and a `handle` after the window. -/
theorem window_not_followed :
    (Run.Along step Allowed (booted 0)
          [.triggerFor 10 1000, .triggerAfterDelay 20 500 100, .handle 30] ∧
        ¬ Run.Along step Follows (booted 0)
          [.triggerFor 10 1000, .triggerAfterDelay 20 500 100, .handle 30]) ∧
      Run.Along step Allowed (booted 0) [.triggerAfterDelay 10 50 20, .handle 90] ∧
        ¬ Run.Along step Follows (booted 0) [.triggerAfterDelay 10 50 20, .handle 90] := by
  refine ⟨⟨by decide, by decide⟩, by decide, by decide⟩

end WindowRun

end Ph5Firmware
