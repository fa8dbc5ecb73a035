import Ph5Firmware.Timer.Uptime

/-!
# Reconnecting to MQTT

`handleMqtt` keeps the time of the next attempt as an absolute 32-bit time, and 0
stands for no attempt yet.  Like the timers of `Timer.Uptime` it compares that time
with `millis()`, but a connection may hold for days, so the two times can be any
number of epochs apart.

* `MqttRun` keeps, next to the globals, the previous attempt at its true time.
  `Follows` ties the globals to it, on every run.
* `paced_iff`: what one call needs to do as it should (`DeadlineVisible`).
* `attempts_paced_iff`: the same along a whole run, with the choice of the server.
-/

namespace Ph5Firmware

open WrappingClock (epoch reading reading_le_iff)

/-- `PREF_MQTT_1_HOST` or `PREF_MQTT_2_HOST`, as `mqttServerIndex` says. -/
def prefMqttHost (mqttServerIndex : UInt8) : String :=
  if mqttServerIndex = 0 then "mqtt-1-host" else "mqtt-2-host"

/-- The globals `handleMqtt` reads and writes. -/
structure MqttGlobals where
  mqttServerIndex : UInt8
  mqttNextConnectionAttempt : UInt32
  displayUpdateRequired : Bool
  deriving DecidableEq

/-- What a call of `handleMqtt` finds: the times at which it reads the clock, for the
test and for the next attempt, the states of MQTT and WiFi, and whether a
`connect` would succeed. -/
structure MqttCall where
  time : ℕ
  attemptTime : ℕ
  connected : Bool
  wiFiConnected : Bool
  accepted : Bool
  deriving DecidableEq

structure MqttAttempt where
  hostKey : String
  subscribed : Bool
  deriving DecidableEq

/-- The test of `handleMqtt`. -/
def MqttGlobals.tries (call : MqttCall) (globals : MqttGlobals) : Bool :=
  !call.connected && call.wiFiConnected &&
    (globals.mqttNextConnectionAttempt == 0 ||
      decide (globals.mqttNextConnectionAttempt < millis call.time))

def MqttGlobals.afterAttempt (call : MqttCall) (globals : MqttGlobals) : MqttGlobals :=
  { mqttNextConnectionAttempt := millis call.attemptTime + 5000
    mqttServerIndex :=
      if call.accepted then globals.mqttServerIndex
      else if globals.mqttServerIndex = 0 then 1
      else 0
    displayUpdateRequired := true }

/-- `handleMqtt` without the console.  The second component is the attempt to
connect, if it makes one. -/
def handleMqtt (call : MqttCall) (globals : MqttGlobals) : MqttGlobals × Option MqttAttempt :=
  if globals.tries call then
    (globals.afterAttempt call,
      some { hostKey := prefMqttHost globals.mqttServerIndex, subscribed := call.accepted })
  else (globals, none)

/-! ## Runs with a history -/

/-- An attempt that was made. -/
structure PastAttempt where
  time : ℕ
  hostKey : String
  accepted : Bool
  deriving DecidableEq

namespace PastAttempt

/-- The time after which the next attempt may be made. -/
def deadline (last : PastAttempt) : ℕ := last.time + 5000

/-- The server of the next attempt: the other one after a failure. -/
def nextHostKey (last : PastAttempt) : String :=
  if last.accepted then last.hostKey
  else if last.hostKey = prefMqttHost 0 then prefMqttHost 1
  else prefMqttHost 0

end PastAttempt

/-- The globals, the previous attempt, and the last time the clock was read. -/
structure MqttRun where
  globals : MqttGlobals
  last : Option PastAttempt
  lastTime : ℕ
  deriving DecidableEq

namespace MqttRun

def booted : MqttRun :=
  { globals :=
      { mqttServerIndex := 0, mqttNextConnectionAttempt := 0, displayUpdateRequired := true }
    last := none
    lastTime := 0 }

def step (run : MqttRun) (call : MqttCall) : MqttRun :=
  let result := handleMqtt call run.globals
  match result.2 with
  | some attempt =>
      { globals := result.1
        last := some
          { time := call.attemptTime, hostKey := attempt.hostKey, accepted := call.accepted }
        lastTime := call.attemptTime }
  | none => { run with globals := result.1, lastTime := call.time }

/-- Time does not go back. -/
def Allowed (run : MqttRun) (call : MqttCall) : Prop :=
  run.lastTime ≤ call.time ∧ call.time ≤ call.attemptTime

/-- A call attempts to connect if and only if MQTT is down, WiFi is up and the previous
attempt, if any, is more than 5000 ms ago; and it tries the right server. -/
def Paced (run : MqttRun) (call : MqttCall) : Prop :=
  ((handleMqtt call run.globals).2.isSome = true ↔
    call.connected = false ∧ call.wiFiConnected = true ∧
      ∀ last ∈ run.last, last.deadline < call.time) ∧
  ∀ attempt ∈ (handleMqtt call run.globals).2, ∀ last ∈ run.last,
    attempt.hostKey = last.nextHostKey

/-- The 32-bit clock tells whether a deadline is over.  In the epoch of the deadline it
does, except at a deadline that reads 0; in a later epoch it does from the point on at
which the deadline was in its own; before the epoch of the deadline it does not. -/
def DeadlineVisible (deadline time : ℕ) : Prop :=
  if epoch clockWidth deadline = epoch clockWidth time then
    reading clockWidth deadline = 0 → deadline < time
  else
    deadline < time ∧ (reading clockWidth deadline = 0 ∨
      reading clockWidth deadline < reading clockWidth time)

/-- `DeadlineVisible`, where a call depends on it. -/
def ClockTells (run : MqttRun) (call : MqttCall) : Prop :=
  call.connected = false → call.wiFiConnected = true →
    ∀ last ∈ run.last, DeadlineVisible last.deadline call.time

instance (run : MqttRun) (call : MqttCall) : Decidable (run.Allowed call) := by
  unfold Allowed
  infer_instance

instance (run : MqttRun) (call : MqttCall) : Decidable (run.Paced call) := by
  unfold Paced
  infer_instance

instance (deadline time : ℕ) : Decidable (DeadlineVisible deadline time) := by
  unfold DeadlineVisible
  infer_instance

instance (run : MqttRun) (call : MqttCall) : Decidable (run.ClockTells call) := by
  unfold ClockTells
  infer_instance

/-- What the globals hold, given the previous attempt. -/
structure Follows (run : MqttRun) : Prop where
  fresh : run.last = none → run.globals.mqttNextConnectionAttempt = 0
  next : ∀ last ∈ run.last, run.globals.mqttNextConnectionAttempt = millis last.deadline
  server : ∀ last ∈ run.last, prefMqttHost run.globals.mqttServerIndex = last.nextHostKey
  order : ∀ last ∈ run.last, last.time ≤ run.lastTime

/-! ## One call -/

theorem booted_follows : booted.Follows where
  fresh _ := rfl
  next _ hlast := absurd hlast (Option.not_mem_none _)
  server _ hlast := absurd hlast (Option.not_mem_none _)
  order _ hlast := absurd hlast (Option.not_mem_none _)

variable {run : MqttRun} {call : MqttCall}

theorem tries_iff (call : MqttCall) (globals : MqttGlobals) :
    globals.tries call = true ↔
      call.connected = false ∧ call.wiFiConnected = true ∧
        (globals.mqttNextConnectionAttempt = 0 ∨
          globals.mqttNextConnectionAttempt < millis call.time) := by
  simp [MqttGlobals.tries, and_assoc]

theorem isSome_handleMqtt (call : MqttCall) (globals : MqttGlobals) :
    (handleMqtt call globals).2.isSome = globals.tries call := by
  unfold handleMqtt
  cases globals.tries call <;> rfl

theorem nextHostKey_eq (index : UInt8) (accepted : Bool) (time : ℕ) :
    PastAttempt.nextHostKey ⟨time, prefMqttHost index, accepted⟩ =
      prefMqttHost (if accepted then index else if index = 0 then 1 else 0) := by
  cases accepted with
  | true => rfl
  | false =>
      by_cases hindex : index = 0
      · rw [hindex]
        rfl
      · have hkey : prefMqttHost index = prefMqttHost 1 := by
          rw [prefMqttHost, if_neg hindex]
          rfl
        simp only [PastAttempt.nextHostKey, hkey, if_neg hindex]
        rfl

/-- Whatever the clock tells, the globals go on following the attempts. -/
theorem Follows.step (hfollows : run.Follows) (hallowed : run.Allowed call) :
    (run.step call).Follows := by
  obtain ⟨hafter, -⟩ := hallowed
  by_cases htries : run.globals.tries call = true
  · have hstep : run.step call =
        { globals := run.globals.afterAttempt call
          last := some ⟨call.attemptTime, prefMqttHost run.globals.mqttServerIndex, call.accepted⟩
          lastTime := call.attemptTime } := by
      rw [MqttRun.step, handleMqtt, if_pos htries]
    rw [hstep]
    refine ⟨by simp, ?_, ?_, ?_⟩
    · intro last hlast
      obtain rfl := Option.some.inj hlast
      exact millis_add call.attemptTime 5000
    · intro last hlast
      obtain rfl := Option.some.inj hlast
      exact (nextHostKey_eq _ _ _).symm
    · intro last hlast
      obtain rfl := Option.some.inj hlast
      exact Nat.le_refl _
  · have hstep : run.step call = { run with lastTime := call.time } := by
      rw [MqttRun.step, handleMqtt, if_neg htries]
    rw [hstep]
    refine ⟨hfollows.fresh, hfollows.next, hfollows.server, ?_⟩
    intro last hlast
    exact Nat.le_trans (hfollows.order last hlast) hafter

/-- The comparison of `handleMqtt` is right exactly when the deadline is visible. -/
theorem deadline_over_iff {deadline time : ℕ} (hclose : deadline ≤ time + 5000) :
    ((reading clockWidth deadline = 0 ∨
        reading clockWidth deadline < reading clockWidth time) ↔ deadline < time) ↔
      DeadlineVisible deadline time := by
  unfold DeadlineVisible
  by_cases hepoch : epoch clockWidth deadline = epoch clockWidth time
  · rw [if_pos hepoch]
    have hcompare := WrappingClock.reading_le_of_epoch_eq hepoch.symm
    constructor
    · intro hright hzero
      exact hright.mp (.inl hzero)
    · intro hzero
      constructor
      · rintro (hread | hread)
        · exact hzero hread
        · omega
      · intro hover
        right
        omega
  · rw [if_neg hepoch]
    by_cases hover : deadline < time
    · constructor
      · intro hright
        exact ⟨hover, hright.mpr hover⟩
      · intro hvisible
        exact iff_of_true hvisible.2 hover
    · -- the deadline lies past the next wrap, and reads lower than the clock
      have hlater : epoch clockWidth time < epoch clockWidth deadline := by
        have hle : epoch clockWidth time ≤ epoch clockWidth deadline :=
          Nat.div_le_div_right (Nat.le_of_not_lt hover)
        omega
      have hwidth : clockWidth = 2 ^ 32 := rfl
      have hback := WrappingClock.reading_lt_of_epoch_lt hlater (by omega)
      constructor
      · intro hright
        exact absurd (hright.mp (.inr hback)) hover
      · intro hvisible
        exact absurd hvisible.1 hover

/-- The server is always the right one. -/
theorem Follows.server_eq (hfollows : run.Follows) (call : MqttCall) :
    ∀ attempt ∈ (handleMqtt call run.globals).2, ∀ last ∈ run.last,
      attempt.hostKey = last.nextHostKey := by
  intro attempt hattempt last hlast
  unfold handleMqtt at hattempt
  by_cases htries : run.globals.tries call = true
  · rw [if_pos htries] at hattempt
    obtain rfl := Option.some.inj hattempt
    exact hfollows.server last hlast
  · rw [if_neg htries] at hattempt
    exact absurd hattempt (Option.not_mem_none _)

/-- **One call** is made as it should be exactly when the clock tells. -/
theorem paced_iff (hfollows : run.Follows) (hallowed : run.Allowed call) :
    run.Paced call ↔ run.ClockTells call := by
  rw [Paced, and_iff_left (hfollows.server_eq call), isSome_handleMqtt, tries_iff]
  unfold ClockTells
  cases hlast : run.last with
  | none => simp [hfollows.fresh hlast]
  | some last =>
      have hnext := hfollows.next last hlast
      have hzero : run.globals.mqttNextConnectionAttempt = 0 ↔
          reading clockWidth last.deadline = 0 := by
        rw [hnext, ← UInt32.toNat_inj, toNat_millis]
        rfl
      have hless : run.globals.mqttNextConnectionAttempt < millis call.time ↔
          reading clockWidth last.deadline < reading clockWidth call.time := by
        rw [hnext, UInt32.lt_iff_toNat_lt, toNat_millis, toNat_millis]
      have hclose : last.deadline ≤ call.time + 5000 := by
        have horder := hfollows.order last hlast
        have hafter := hallowed.1
        have hdeadline : last.deadline = last.time + 5000 := rfl
        omega
      have hmem : ∀ {P : PastAttempt → Prop}, (∀ past ∈ some last, P past) ↔ P last := by
        simp
      rw [hzero, hless, hmem, hmem, ← deadline_over_iff hclose, and_congr_right_iff]
      exact imp_congr_right fun _ => and_congr_right_iff

/-! ## Runs -/

/-- **Pacing of attempts.** Along a run, from the start of the program, every call attempts
to connect exactly when it should, and at the right server, if and only if the clock
tells at every call whether the deadline is over. -/
theorem attempts_paced_iff {calls : List MqttCall}
    (hallowed : Run.Along step Allowed booted calls) :
    Run.Along step Paced booted calls ↔ Run.Along step ClockTells booted calls := by
  refine Run.along_iff ?_ ?_ booted_follows hallowed
  · intro run call hfollows hok
    exact paced_iff hfollows hok
  · intro run call hfollows hok _
    exact hfollows.step hok

/-- A call that finds MQTT down and WiFi up. -/
def lost (time : ℕ) (accepted : Bool) : MqttCall :=
  { time := time, attemptTime := time, connected := false, wiFiConnected := true
    accepted := accepted }

/-- A server that is down, the other one taken after 5001 ms, and, after the connection
is lost, taken again. -/
theorem attempts_paced_early :
    Run.Along step Paced booted
      [lost 1000 false, lost 6000 true, lost 6001 true,
        { lost 9000 false with connected := true }, lost 20000 true] :=
  (attempts_paced_iff (by decide)).mpr (by decide)

/-- A connection made 6 s before the clock wraps and lost 10 s after that is not made
again, and a deadline at the wrap is no deadline. -/
theorem attempts_not_paced :
    (Run.Along step Allowed booted [lost (2 ^ 32 - 6000) true, lost (2 ^ 32 + 10000) true] ∧
        ¬ Run.Along step Paced booted [lost (2 ^ 32 - 6000) true, lost (2 ^ 32 + 10000) true]) ∧
      Run.Along step Allowed booted [lost (2 ^ 32 - 5000) false, lost (2 ^ 32 - 4999) true] ∧
        ¬ Run.Along step Paced booted [lost (2 ^ 32 - 5000) false, lost (2 ^ 32 - 4999) true] := by
  refine ⟨⟨by decide, by decide⟩, by decide, by decide⟩

end MqttRun

end Ph5Firmware
