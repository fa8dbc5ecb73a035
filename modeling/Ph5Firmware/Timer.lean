import Mathlib.Tactic.Common

/-!
# Timers

`IntervalTimer` and `Timer` of `timer.h`.  The clock `millis()` is an argument: the
32-bit value it returns at that call.  A call returns the timer after the call and
whether, or with which argument, it ran `onTimer`.
-/

namespace Ph5Firmware

structure IntervalTimer where
  forceTrigger_ : Bool
  isRunning_ : Bool
  isStrict_ : Bool
  periodMs_ : UInt32
  triggerTime_ : UInt32
  deriving DecidableEq

namespace IntervalTimer

/-- `IntervalTimer::IntervalTimer()`. -/
def fresh : IntervalTimer :=
  { forceTrigger_ := false, isRunning_ := false, isStrict_ := false, periodMs_ := 0,
    triggerTime_ := 0 }

/-- `IntervalTimer::start`, called when `millis()` returns `now`. -/
def start (now periodMs : UInt32) (isStrict : Bool) (timer : IntervalTimer) : IntervalTimer :=
  { timer with
    periodMs_ := periodMs, isStrict_ := isStrict, isRunning_ := true,
    triggerTime_ := now + periodMs }

def forceTrigger (timer : IntervalTimer) : IntervalTimer :=
  { timer with forceTrigger_ := true }

def setPeriodMs (periodMs : UInt32) (timer : IntervalTimer) : IntervalTimer :=
  { timer with periodMs_ := periodMs }

/-- The test `forceTrigger_ || now >= triggerTime_` of `handle`. -/
def due (now : UInt32) (timer : IntervalTimer) : Bool :=
  timer.forceTrigger_ || timer.triggerTime_ ≤ now

def fire (now : UInt32) (timer : IntervalTimer) : IntervalTimer :=
  { timer with
    forceTrigger_ := false
    -- the sums wrap, as they do on the target
    triggerTime_ :=
      if timer.isStrict_ then timer.triggerTime_ + timer.periodMs_ else now + timer.periodMs_ }

/-- `IntervalTimer::handle`, called when `millis()` returns `now`.  The second
component says whether `onTimer` ran. -/
def handle (now : UInt32) (timer : IntervalTimer) : IntervalTimer × Bool :=
  if timer.isRunning_ then
    if timer.due now then (timer.fire now, true) else (timer, false)
  else (timer, false)

/-- `forceTrigger` when `requested`, as at the end of a guarded block. -/
def forceIf (requested : Bool) (timer : IntervalTimer) : IntervalTimer :=
  if requested then timer.forceTrigger else timer

/-! ## What each call changes -/

theorem due_iff {now : UInt32} {timer : IntervalTimer} :
    timer.due now = true ↔ timer.forceTrigger_ = true ∨ timer.triggerTime_ ≤ now := by
  rw [due, Bool.or_eq_true, decide_eq_true_eq]

theorem handle_of_due {now : UInt32} {timer : IntervalTimer} (hrunning : timer.isRunning_ = true)
    (hdue : timer.due now = true) : timer.handle now = (timer.fire now, true) := by
  rw [handle, if_pos hrunning, if_pos hdue]

theorem handle_of_not_due {now : UInt32} {timer : IntervalTimer} (hdue : ¬ timer.due now = true) :
    timer.handle now = (timer, false) := by
  rw [handle, if_neg hdue, ite_self]

theorem handle_snd (now : UInt32) (timer : IntervalTimer) :
    (timer.handle now).2 = (timer.isRunning_ && timer.due now) := by
  unfold handle
  cases timer.isRunning_ <;> cases timer.due now <;> rfl

theorem handle_fst (now : UInt32) (timer : IntervalTimer) :
    (timer.handle now).1 = if (timer.handle now).2 then timer.fire now else timer := by
  unfold handle
  cases timer.isRunning_ <;> cases timer.due now <;> rfl

theorem handle_isRunning_ (now : UInt32) (timer : IntervalTimer) :
    (timer.handle now).1.isRunning_ = timer.isRunning_ := by
  rw [handle_fst]
  split_ifs <;> rfl

theorem handle_isStrict_ (now : UInt32) (timer : IntervalTimer) :
    (timer.handle now).1.isStrict_ = timer.isStrict_ := by
  rw [handle_fst]
  split_ifs <;> rfl

theorem handle_periodMs_ (now : UInt32) (timer : IntervalTimer) :
    (timer.handle now).1.periodMs_ = timer.periodMs_ := by
  rw [handle_fst]
  split_ifs <;> rfl

theorem handle_forceTrigger_ {timer : IntervalTimer} (hrunning : timer.isRunning_ = true)
    (now : UInt32) : (timer.handle now).1.forceTrigger_ = false := by
  rw [handle_fst, handle_snd, hrunning, Bool.true_and]
  by_cases hdue : timer.due now = true
  · rw [if_pos hdue]
    rfl
  · rw [if_neg hdue]
    exact Bool.not_eq_true _ ▸ (not_or.mp (due_iff.not.mp hdue)).1

@[simp] theorem forceIf_false (timer : IntervalTimer) : timer.forceIf false = timer := rfl

@[simp] theorem forceIf_true (timer : IntervalTimer) :
    timer.forceIf true = timer.forceTrigger := rfl

@[simp] theorem forceIf_forceIf (first second : Bool) (timer : IntervalTimer) :
    (timer.forceIf first).forceIf second = timer.forceIf (first || second) := by
  cases first <;> cases second <;> rfl

@[simp] theorem forceTrigger_forceIf (requested : Bool) (timer : IntervalTimer) :
    (timer.forceIf requested).forceTrigger = timer.forceIf true := by
  cases requested <;> rfl

@[simp] theorem forceIf_forceTrigger_ (requested : Bool) (timer : IntervalTimer) :
    (timer.forceIf requested).forceTrigger_ = (timer.forceTrigger_ || requested) := by
  cases requested <;> simp [forceIf, forceTrigger]

@[simp] theorem forceIf_isStrict_ (requested : Bool) (timer : IntervalTimer) :
    (timer.forceIf requested).isStrict_ = timer.isStrict_ := by
  cases requested <;> rfl

@[simp] theorem forceIf_triggerTime_ (requested : Bool) (timer : IntervalTimer) :
    (timer.forceIf requested).triggerTime_ = timer.triggerTime_ := by
  cases requested <;> rfl

@[simp] theorem forceIf_isRunning_ (requested : Bool) (timer : IntervalTimer) :
    (timer.forceIf requested).isRunning_ = timer.isRunning_ := by
  cases requested <;> rfl

end IntervalTimer

/-- An output that is on for a while. -/
structure Timer where
  isRunning_ : Bool
  on_ : Bool
  durationMs_ : UInt32
  delayMs_ : UInt32
  startTime_ : UInt32
  stopTime_ : UInt32
  deriving DecidableEq

namespace Timer

/-- `Timer::Timer()`, which leaves `delayMs_` as it finds it. -/
def fresh (delayMs_ : UInt32) : Timer :=
  { isRunning_ := false, on_ := false, durationMs_ := 0, delayMs_ := delayMs_, startTime_ := 0,
    stopTime_ := 0 }

def isOn (timer : Timer) : Bool :=
  timer.on_

/-- `Timer::triggerFor`, called when `millis()` returns `now`.  The second component is the
argument of `onTimer`, if the call runs it. -/
def triggerFor (now durationMs : UInt32) (timer : Timer) : Timer × Option Bool :=
  ({ timer with
      durationMs_ := durationMs, isRunning_ := true, stopTime_ := now + durationMs, on_ := true },
    some true)

def triggerAfterDelay (now delayMs durationMs : UInt32) (timer : Timer) : Timer × Option Bool :=
  ({ timer with
      durationMs_ := durationMs, delayMs_ := delayMs, isRunning_ := true
      startTime_ := now + delayMs, stopTime_ := now + delayMs + durationMs },
    none)

def handle (now : UInt32) (timer : Timer) : Timer × Option Bool :=
  if timer.isRunning_ then
    if timer.on_ then
      if timer.stopTime_ ≤ now then
        ({ timer with isRunning_ := false, on_ := false }, some false)
      else (timer, none)
    else if timer.startTime_ ≤ now then ({ timer with on_ := true }, some true)
    else (timer, none)
  else (timer, none)

end Timer

end Ph5Firmware
