import Ph5Firmware.Bench
import Ph5Firmware.Library.Runs
import Ph5Firmware.Loop.Report
import Ph5Firmware.Wire.Layout

/-!
# The status feed

`BroadcastStatusTimer::onTimer` sends the positions and the run states of both axes, as
a UDP broadcast and to every WebSocket client, each if it is switched on.  It sends
nothing while a stepper is missing.

A `Feed` keeps, next to the state, what each channel was sent last, when, and what the
steppers said at that moment.

* `WSStatusMsg.overlay_image`, `Broadcast.status_udp`: what is sent reads back.
* `Current`: after an iteration, what was sent last is what the steppers said when the
  timer fired last, and that is less than a period ago.
* `Conserved`: a firing takes a period or an edge, so firings are bounded by both.
* `Honest`: a receiver never believes an axis running that the iteration found idle.
* `Announced`: an iteration that finds an axis stopped or started says so, in one message
  on each channel.
-/

namespace Ph5Firmware

/-- `WSStatusMsg`. -/
structure WSStatusMsg where
  x : Int32
  y : Int32
  active : UInt32
  deriving DecidableEq

namespace WSStatusMsg

def size : ℕ := 12

/-- The structure in memory. -/
def image (msg : WSStatusMsg) : List UInt8 :=
  ByteMemory.store 4 msg.x.toUInt32.toNat ++ ByteMemory.store 4 msg.y.toUInt32.toNat ++
    ByteMemory.store 4 msg.active.toNat

/-- The message that a `WSStatusMsg*` to this memory shows. -/
def overlay (memory : ℕ → UInt8) : WSStatusMsg :=
  { x := Ph5Command.int32At memory 0
    y := Ph5Command.int32At memory 4
    active := Ph5Command.uint32At memory 8 }

/-- `stepperX->isRunning() | stepperY->isRunning() << 1`. -/
def activeBits (runningX runningY : Bool) : UInt32 :=
  (if runningX then (1 : UInt32) else 0) ||| (if runningY then (1 : UInt32) else 0) <<< 1

def runningX (msg : WSStatusMsg) : Bool :=
  msg.active &&& 1 != 0

def runningY (msg : WSStatusMsg) : Bool :=
  msg.active &&& 2 != 0

theorem length_image (msg : WSStatusMsg) : msg.image.length = size := by
  simp [image, size]

/-- **Round trip** of a status message. -/
theorem overlay_image (msg : WSStatusMsg) : overlay (ByteMemory.ofBytes msg.image) = msg := by
  let x := ByteMemory.store 4 msg.x.toUInt32.toNat
  let y := ByteMemory.store 4 msg.y.toUInt32.toNat
  let active := ByteMemory.store 4 msg.active.toNat
  have hx := Ph5Command.int32At_store [] (y ++ active) msg.x
  have hy := Ph5Command.int32At_store x active msg.y
  have hactive := Ph5Command.uint32At_store (x ++ y) [] msg.active
  have himage : msg.image = x ++ y ++ active := rfl
  simp only [x, y, active, List.append_assoc, List.nil_append, List.append_nil,
    List.length_append, List.length_nil, ByteMemory.length_store, Nat.reduceAdd] at *
  rw [overlay, himage, hx, hy, hactive]

theorem activeBits_fields : ∀ first second : Bool,
    (activeBits first second &&& 1 != 0) = first ∧
      (activeBits first second &&& 2 != 0) = second := by
  decide

end WSStatusMsg

/-- What a timer sends. -/
inductive Broadcast where
  /-- `udp.broadcastTo` -/
  | udp (bytes : List UInt8)
  /-- `ws.binaryAll` -/
  | websocket (bytes : List UInt8)
  deriving DecidableEq

/-- `UdpStatusMsg::magicHeader`. -/
def udpStatusHeader : List UInt8 := [112, 104, 53, 0, 115, 0, 0, 0]

/-- The status a receiver reads from what was sent. -/
def Broadcast.status : Broadcast → Option WSStatusMsg
  | .udp bytes =>
      if bytes.take 8 = udpStatusHeader ∧ bytes.length = 8 + WSStatusMsg.size then
        some (.overlay (ByteMemory.ofBytes (bytes.drop 8)))
      else none
  | .websocket bytes =>
      if bytes.length = WSStatusMsg.size then some (.overlay (ByteMemory.ofBytes bytes)) else none

theorem Broadcast.status_udp (msg : WSStatusMsg) :
    (Broadcast.udp (udpStatusHeader ++ msg.image)).status = some msg := by
  have hlength : (udpStatusHeader ++ msg.image).length = 8 + WSStatusMsg.size := by
    rw [List.length_append, msg.length_image]
    rfl
  have hheader : (udpStatusHeader ++ msg.image).take 8 = udpStatusHeader :=
    List.take_left' rfl
  have hrest : (udpStatusHeader ++ msg.image).drop 8 = msg.image := List.drop_left' rfl
  rw [Broadcast.status, if_pos ⟨hheader, hlength⟩, hrest, msg.overlay_image]

theorem Broadcast.status_websocket (msg : WSStatusMsg) :
    (Broadcast.websocket msg.image).status = some msg := by
  rw [Broadcast.status, if_pos msg.length_image, msg.overlay_image]

inductive Channel where
  | udp
  | websocket
  deriving DecidableEq

def Broadcast.channel : Broadcast → Channel
  | .udp _ => .udp
  | .websocket _ => .websocket

/-- The channel is switched on. -/
def Config.sends (config : Config) : Channel → Bool
  | .udp => config.sendBroadcastStatus
  | .websocket => config.sendWebsocketStatus

/-- The last message on each channel, after some more have been sent. -/
def lastOnChannels (sent last : List Broadcast) : List Broadcast :=
  sent ++ last.filter fun earlier => sent.all fun new => new.channel != earlier.channel

variable {Motor : Type*} (driver : FastAccelStepper Motor) (config : Config)

namespace State

def statusMsg (x y : Motor) : WSStatusMsg :=
  { x := driver.getCurrentPosition x
    y := driver.getCurrentPosition y
    active := WSStatusMsg.activeBits (driver.isRunning x) (driver.isRunning y) }

/-- `BroadcastStatusTimer::onTimer`. -/
def onBroadcastStatusTimer (state : State Motor) : List Broadcast :=
  match state.axisX.stepper, state.axisY.stepper with
  | some x, some y =>
      let msg := statusMsg driver x.motor y.motor
      (if config.sendBroadcastStatus then [.udp (udpStatusHeader ++ msg.image)] else []) ++
        (if config.sendWebsocketStatus then [.websocket msg.image] else [])
  | _, _ => []

/-- What the steppers say: position and run state of each. -/
def views (state : State Motor) : Option (Int32 × Bool) × Option (Int32 × Bool) :=
  (state.axisX.view driver, state.axisY.view driver)

end State

/-- A state, what each channel was sent last, what the steppers said when the status timer
fired last, the time of it (or of the start of the timer) and of the last iteration, how
often it has fired, and how many iterations have found an edge. -/
structure Feed (Motor : Type*) where
  state : State Motor
  last : List Broadcast
  views : Option (Int32 × Bool) × Option (Int32 × Bool)
  lastTime : ℕ
  now : ℕ
  fired : ℕ
  edges : ℕ
  deriving DecidableEq

/-- A driver that carries out every order: each answers `MOVE_OK`. -/
structure FastAccelStepper.Obeys (driver : FastAccelStepper Motor) : Prop where
  move : ∀ motor steps, (driver.move motor steps).1 = moveOk
  moveTo : ∀ motor position, (driver.moveTo motor position).1 = moveOk
  runForward : ∀ motor, (driver.runForward motor).1 = moveOk
  runBackward : ∀ motor, (driver.runBackward motor).1 = moveOk

namespace Feed

def initial (clocks : SetupClocks) (stepperX stepperY : Option (Stepper Motor)) : Feed Motor :=
  { state := setup config clocks stepperX stepperY
    last := []
    views := (none, none)
    lastTime := clocks.broadcastStatusTimer.toNat
    now := clocks.broadcastStatusTimer.toNat
    fired := 0
    edges := 0 }

/-- What the status timer reads in an iteration: the clock does not wrap, so it is the
time. -/
def time (input : LoopInput) : ℕ :=
  input.clocks.broadcastStatusTimer.toNat

def period : ℕ :=
  config.broadcastStatePeriodMs.toNat

/-- What an iteration sends. -/
def sent (feed : Feed Motor) (input : LoopInput) : List Broadcast :=
  if (loop driver config input feed.state).2.broadcastStatusTimer then
    (feed.state.sample driver).onBroadcastStatusTimer driver config
  else []

def step (feed : Feed Motor) (event : Event Motor) : Feed Motor :=
  match event with
  | .iterate input =>
      let edges := feed.edges + if feed.state.edges driver then 1 else 0
      let next := loop driver config input feed.state
      if next.2.broadcastStatusTimer then
        { state := next.1
          last := lastOnChannels (feed.sent driver config input) feed.last
          views := (feed.state.sample driver).views driver
          lastTime := time input
          now := time input
          fired := feed.fired + 1
          edges := edges }
      else { feed with state := next.1, now := time input, edges := edges }
  | _ => { feed with state := Ph5Firmware.step driver config feed.state event }

/-- Time does not go back, and the clock does not wrap before the next status is due. -/
def Allowed (feed : Feed Motor) : Event Motor → Prop
  | .iterate input => feed.now ≤ time input ∧ time input + period config < 2 ^ 32
  | _ => True

instance (feed : Feed Motor) (event : Event Motor) : Decidable (feed.Allowed config event) :=
  match event with
  | .iterate _ => inferInstanceAs (Decidable (_ ∧ _))
  | .command _ | .motorX _ | .motorY _ | .displayRequest => .isTrue trivial

/-- What was sent last is what the steppers said then. -/
def Faithful (feed : Feed Motor) : Prop :=
  ∀ broadcast ∈ feed.last, ∃ status, broadcast.status = some status ∧
    feed.views = (some (status.x, status.runningX), some (status.y, status.runningY))

/-- After an iteration, what was sent last is what the steppers said when the timer fired
last, and that was in this iteration or less than a period ago. -/
def Current (feed : Feed Motor) : Event Motor → Prop
  | .iterate input =>
      let next := feed.step driver config (.iterate input)
      next.Faithful ∧ next.lastTime ≤ time input ∧
        (next.lastTime = time input ∨ time input < next.lastTime + period config)
  | _ => True

/-- A firing takes a period or an edge. -/
def Conserved (start : ℕ) (feed : Feed Motor) : Event Motor → Prop
  | .iterate input =>
      let next := feed.step driver config (.iterate input)
      start + period config * next.fired ≤ time input + period config * next.edges
  | _ => True

/-- Messages have been sent only on channels that are switched on, and only with both
steppers there. -/
structure Sourced (feed : Feed Motor) : Prop where
  enabled : ∀ broadcast ∈ feed.last, config.sends broadcast.channel = true
  connected : feed.last ≠ [] →
    feed.state.axisX.stepper ≠ none ∧ feed.state.axisY.stepper ≠ none

/-- The timer runs, is not left forced, and its trigger time is a period after it fired
last. -/
structure Timed (start : ℕ) (feed : Feed Motor) : Prop extends Sourced config feed where
  isRunning : feed.state.broadcastStatusTimer.isRunning_ = true
  lax : feed.state.broadcastStatusTimer.isStrict_ = false
  unforced : feed.state.broadcastStatusTimer.forceTrigger_ = false
  periodMs : feed.state.broadcastStatusTimer.periodMs_ = config.broadcastStatePeriodMs.toUInt32
  trigger : feed.state.broadcastStatusTimer.triggerTime_.toNat = feed.lastTime + period config
  order : feed.lastTime ≤ feed.now
  faithful : feed.Faithful
  conserved : start + period config * feed.fired ≤ feed.lastTime + period config * feed.edges

section Spec

variable {driver} {config} {feed : Feed Motor} {start : ℕ}

theorem step_state (feed : Feed Motor) (event : Event Motor) :
    (feed.step driver config event).state =
      Ph5Firmware.step driver config feed.state event := by
  cases event with
  | iterate input =>
      simp only [step]
      split_ifs <;> rfl
  | _ => rfl

/-- Nothing but an iteration touches the status timer. -/
theorem command_broadcastStatusTimer (cmd : Ph5Command) (state : State Motor) :
    (processCommand driver cmd state).1.broadcastStatusTimer = state.broadcastStatusTimer := by
  rw [processCommand_eq_dispatch]
  rfl

theorem fires_iff (henabled : config.broadcastsStatus = true) (htimed : Timed config start feed)
    (input : LoopInput) :
    (loop driver config input feed.state).2.broadcastStatusTimer = true ↔
      feed.state.edges driver = true ∨ feed.lastTime + period config ≤ time input := by
  rw [loop_fires_broadcastStatusTimer, IntervalTimer.handleIf_snd, henabled, IntervalTimer.due,
    IntervalTimer.forceIf_isRunning_, htimed.isRunning, IntervalTimer.forceIf_forceTrigger_,
    htimed.unforced, IntervalTimer.forceIf_triggerTime_, ← htimed.trigger]
  simp only [Bool.true_and, Bool.false_or, Bool.or_eq_true, decide_eq_true_eq,
    UInt32.le_iff_toNat_le]
  exact Iff.rfl

/-- What the timer sends when it fires is what the steppers say. -/
theorem status_of_mem {state : State Motor} {broadcast : Broadcast}
    (hmem : broadcast ∈ state.onBroadcastStatusTimer driver config) :
    ∃ status, broadcast.status = some status ∧
      state.views driver =
        (some (status.x, status.runningX), some (status.y, status.runningY)) := by
  unfold State.onBroadcastStatusTimer at hmem
  cases hx : state.axisX.stepper with
  | none => simp [hx] at hmem
  | some x =>
      cases hy : state.axisY.stepper with
      | none => simp [hx, hy] at hmem
      | some y =>
          have hfields := WSStatusMsg.activeBits_fields (driver.isRunning x.motor)
            (driver.isRunning y.motor)
          refine ⟨State.statusMsg driver x.motor y.motor, ?_, ?_⟩
          · simp only [hx, hy, List.mem_append] at hmem
            obtain hudp | hwebsocket := hmem
            · split_ifs at hudp
              · rw [List.mem_singleton.mp hudp]
                exact Broadcast.status_udp _
              · cases hudp
            · split_ifs at hwebsocket
              · rw [List.mem_singleton.mp hwebsocket]
                exact Broadcast.status_websocket _
              · cases hwebsocket
          · simp only [State.views, Axis.view, hx, hy, State.statusMsg, WSStatusMsg.runningX,
              WSStatusMsg.runningY, hfields, Option.map_some]

/-- With both steppers there, each channel that is switched on gets one message, and the
others none. -/
theorem sent_on_channel {state : State Motor} {x y : Stepper Motor}
    (hx : state.axisX.stepper = some x) (hy : state.axisY.stepper = some y)
    (channel : Channel) :
    ∃ broadcast, (state.onBroadcastStatusTimer driver config).filter (·.channel = channel) =
        (if config.sends channel then [broadcast] else []) ∧
      broadcast.channel = channel ∧
      broadcast.status = some (State.statusMsg driver x.motor y.motor) := by
  unfold State.onBroadcastStatusTimer
  simp only [hx, hy, List.filter_append]
  cases channel with
  | udp =>
      refine ⟨.udp (udpStatusHeader ++ (State.statusMsg driver x.motor y.motor).image), ?_, rfl,
        Broadcast.status_udp _⟩
      unfold Config.sends
      split_ifs <;> simp [Broadcast.channel]
  | websocket =>
      refine ⟨.websocket (State.statusMsg driver x.motor y.motor).image, ?_, rfl,
        Broadcast.status_websocket _⟩
      unfold Config.sends
      split_ifs <;> simp [Broadcast.channel]

theorem onBroadcastStatusTimer_of_missing {state : State Motor}
    (hmissing : ¬ (state.axisX.stepper ≠ none ∧ state.axisY.stepper ≠ none)) :
    state.onBroadcastStatusTimer driver config = [] := by
  unfold State.onBroadcastStatusTimer
  cases hx : state.axisX.stepper with
  | none => rfl
  | some x =>
      cases hy : state.axisY.stepper with
      | none => rfl
      | some y => simp [hx, hy] at hmissing

theorem sends_of_mem {state : State Motor} {broadcast : Broadcast}
    (hmem : broadcast ∈ state.onBroadcastStatusTimer driver config) :
    config.sends broadcast.channel = true := by
  unfold State.onBroadcastStatusTimer at hmem
  split at hmem
  · rcases List.mem_append.mp hmem with hudp | hwebsocket
    · split_ifs at hudp with henabled
      · rw [List.mem_singleton.mp hudp]
        exact henabled
      · cases hudp
    · split_ifs at hwebsocket with henabled
      · rw [List.mem_singleton.mp hwebsocket]
        exact henabled
      · cases hwebsocket
  · cases hmem

theorem sample_steppers (state : State Motor) :
    (state.sample driver).axisX.stepper = state.axisX.stepper ∧
      (state.sample driver).axisY.stepper = state.axisY.stepper := by
  rw [sample_eq]
  exact ⟨state.axisX.stepper_sampled driver, state.axisY.stepper_sampled driver⟩

/-- A firing replaces all that was sent before. -/
theorem lastOnChannels_sent (hsourced : Sourced config feed) :
    lastOnChannels ((feed.state.sample driver).onBroadcastStatusTimer driver config) feed.last =
      (feed.state.sample driver).onBroadcastStatusTimer driver config := by
  obtain ⟨hsampleX, hsampleY⟩ := @sample_steppers _ driver feed.state
  unfold lastOnChannels
  refine List.append_right_eq_self.mpr (List.filter_eq_nil_iff.mpr ?_)
  intro earlier hearlier hall
  obtain ⟨hconnectedX, hconnectedY⟩ := hsourced.connected (List.ne_nil_of_mem hearlier)
  obtain ⟨x, hx⟩ := Option.ne_none_iff_exists'.mp hconnectedX
  obtain ⟨y, hy⟩ := Option.ne_none_iff_exists'.mp hconnectedY
  obtain ⟨new, hsent, hchannel, -⟩ := @sent_on_channel _ driver config _ _ _
    (hsampleX.trans hx) (hsampleY.trans hy) earlier.channel
  rw [hsourced.enabled earlier hearlier, if_pos rfl] at hsent
  have hnew : new ∈ (feed.state.sample driver).onBroadcastStatusTimer driver config :=
    List.mem_of_mem_filter (hsent ▸ List.mem_singleton_self new)
  have hother := List.all_eq_true.mp hall new hnew
  rw [hchannel] at hother
  simp at hother

theorem step_of_fired (hsourced : Sourced config feed) {input : LoopInput}
    (hfires : (loop driver config input feed.state).2.broadcastStatusTimer = true) :
    feed.step driver config (.iterate input) =
      { state := (loop driver config input feed.state).1
        last := (feed.state.sample driver).onBroadcastStatusTimer driver config
        views := (feed.state.sample driver).views driver
        lastTime := time input
        now := time input
        fired := feed.fired + 1
        edges := feed.edges + if feed.state.edges driver then 1 else 0 } := by
  simp only [step, sent]
  rw [if_pos hfires, if_pos hfires, lastOnChannels_sent hsourced]

theorem step_of_not_fired {input : LoopInput}
    (hquiet : ¬ (loop driver config input feed.state).2.broadcastStatusTimer = true) :
    feed.step driver config (.iterate input) =
      { feed with
        state := (loop driver config input feed.state).1
        now := time input
        edges := feed.edges + if feed.state.edges driver then 1 else 0 } := by
  simp only [step]
  rw [if_neg hquiet]

theorem Sourced.of_steppers (hsourced : Sourced config feed) {next : Feed Motor}
    (hlast : next.last = feed.last)
    (hx : next.state.axisX.stepper = none → feed.state.axisX.stepper = none)
    (hy : next.state.axisY.stepper = none → feed.state.axisY.stepper = none) :
    Sourced config next := by
  refine ⟨?_, ?_⟩
  · rw [hlast]
    exact hsourced.enabled
  · rw [hlast]
    intro hsent
    obtain ⟨hconnectedX, hconnectedY⟩ := hsourced.connected hsent
    exact ⟨mt hx hconnectedX, mt hy hconnectedY⟩

theorem Sourced.step (hsourced : Sourced config feed) (event : Event Motor) :
    Sourced config (feed.step driver config event) := by
  cases event with
  | iterate input =>
      obtain ⟨hsampleX, hsampleY⟩ := @sample_steppers _ driver feed.state
      rw [sample_eq] at hsampleX hsampleY
      by_cases hfires : (loop driver config input feed.state).2.broadcastStatusTimer = true
      · rw [step_of_fired hsourced hfires]
        refine ⟨fun broadcast hmem => sends_of_mem hmem, fun hsent => ?_⟩
        rw [loop_axisX, loop_axisY]
        by_contra hmissing
        refine hsent (onBroadcastStatusTimer_of_missing ?_)
        rw [sample_eq]
        exact hmissing
      · rw [step_of_not_fired hfires]
        refine hsourced.of_steppers rfl ?_ ?_
        · rw [loop_axisX]
          exact fun hnone => hsampleX.symm.trans hnone
        · rw [loop_axisY]
          exact fun hnone => hsampleY.symm.trans hnone
  | command cmd =>
      refine hsourced.of_steppers rfl ?_ ?_
      · rw [step_state, Ph5Firmware.step, processCommand_eq_dispatch]
        exact (AxisOrder.run_stepper_eq_none cmd.orderX feed.state.axisX).mp
      · rw [step_state, Ph5Firmware.step, processCommand_eq_dispatch]
        exact (AxisOrder.run_stepper_eq_none cmd.orderY feed.state.axisY).mp
  | motorX motor =>
      refine hsourced.of_steppers rfl ?_ id
      rw [step_state]
      simp [Ph5Firmware.step, Axis.withMotor]
  | motorY motor =>
      refine hsourced.of_steppers rfl id ?_
      rw [step_state]
      simp [Ph5Firmware.step, Axis.withMotor]
  | displayRequest => exact hsourced.of_steppers rfl id id

/-- The trigger time after a firing is a period ahead. -/
theorem trigger_of_fired (henabled : config.broadcastsStatus = true)
    (htimed : Timed config start feed) {input : LoopInput}
    (hfires : (loop driver config input feed.state).2.broadcastStatusTimer = true)
    (hnowrap : time input + period config < 2 ^ 32) :
    (loop driver config input feed.state).1.broadcastStatusTimer.triggerTime_.toNat =
      time input + period config := by
  rw [loop_fires_broadcastStatusTimer, IntervalTimer.handleIf, if_pos henabled] at hfires
  rw [loop_broadcastStatusTimer, IntervalTimer.handleIf, if_pos henabled,
    IntervalTimer.handle_fst, if_pos hfires]
  have hperiod : (feed.state.broadcastStatusTimer.forceIf (feed.state.edges driver)).periodMs_ =
      config.broadcastStatePeriodMs.toUInt32 := by
    rw [← htimed.periodMs]
    cases feed.state.edges driver with
    | false => rfl
    | true => rfl
  simp only [IntervalTimer.fire, IntervalTimer.forceIf_isStrict_, htimed.lax, hperiod,
    Bool.false_eq_true, if_false, UInt32.toNat_add, UInt16.toNat_toUInt32]
  exact Nat.mod_eq_of_lt hnowrap

/-- An iteration in which the timer does not fire leaves it as it was. -/
theorem timer_of_not_fired (henabled : config.broadcastsStatus = true)
    (htimed : Timed config start feed) {input : LoopInput}
    (hquiet : ¬ (loop driver config input feed.state).2.broadcastStatusTimer = true) :
    (loop driver config input feed.state).1.broadcastStatusTimer =
      feed.state.broadcastStatusTimer := by
  have hedges : feed.state.edges driver = false := by
    rw [fires_iff henabled htimed, not_or] at hquiet
    exact Bool.not_eq_true _ ▸ hquiet.1
  rw [loop_fires_broadcastStatusTimer, IntervalTimer.handleIf, if_pos henabled] at hquiet
  rw [loop_broadcastStatusTimer, IntervalTimer.handleIf, if_pos henabled,
    IntervalTimer.handle_fst, if_neg hquiet, hedges]
  rfl

theorem loop_isStrict_ (input : LoopInput) (state : State Motor) :
    (loop driver config input state).1.broadcastStatusTimer.isStrict_ =
      state.broadcastStatusTimer.isStrict_ := by
  rw [loop_broadcastStatusTimer, IntervalTimer.handleIf_isStrict_, IntervalTimer.forceIf_isStrict_]

theorem loop_periodMs_ (input : LoopInput) (state : State Motor) :
    (loop driver config input state).1.broadcastStatusTimer.periodMs_ =
      state.broadcastStatusTimer.periodMs_ := by
  rw [loop_broadcastStatusTimer]
  unfold IntervalTimer.handleIf IntervalTimer.forceIf
  split_ifs
  · rw [IntervalTimer.handle_periodMs_]
    rfl
  · rw [IntervalTimer.handle_periodMs_]
  · rfl
  · rfl

theorem Timed.iterate (henabled : config.broadcastsStatus = true)
    (htimed : Timed config start feed) {input : LoopInput}
    (hallowed : feed.Allowed config (.iterate input)) :
    Timed config start (feed.step driver config (.iterate input)) := by
  obtain ⟨hafter, hnowrap⟩ := hallowed
  have hrunning :
      (loop driver config input feed.state).1.broadcastStatusTimer.isRunning_ = true := by
    rw [loop_broadcastStatusTimer, IntervalTimer.handleIf_isRunning_,
      IntervalTimer.forceIf_isRunning_]
    exact htimed.isRunning
  have hunforced :
      (loop driver config input feed.state).1.broadcastStatusTimer.forceTrigger_ = false := by
    rw [loop_broadcastStatusTimer, IntervalTimer.handleIf, if_pos henabled]
    apply IntervalTimer.handle_forceTrigger_
    rw [IntervalTimer.forceIf_isRunning_, htimed.isRunning]
  have horder := htimed.order
  have hconserved := htimed.conserved
  have hsourced : Sourced config (feed.step driver config (.iterate input)) :=
    htimed.toSourced.step (.iterate input)
  by_cases hfires : (loop driver config input feed.state).2.broadcastStatusTimer = true
  · rw [step_of_fired htimed.toSourced hfires] at hsourced ⊢
    refine ⟨hsourced, hrunning, ?_, hunforced, ?_, trigger_of_fired henabled htimed hfires hnowrap,
      le_rfl, ?_, ?_⟩
    · exact (loop_isStrict_ input feed.state).trans htimed.lax
    · exact (loop_periodMs_ input feed.state).trans htimed.periodMs
    · intro broadcast hmem
      exact status_of_mem hmem
    · simp only [Nat.mul_add, Nat.mul_one]
      rw [fires_iff henabled htimed] at hfires
      obtain hedge | hdue := hfires
      · -- a forced firing is paid for by its edge
        rw [if_pos hedge]
        omega
      · -- any other comes a period after the last one
        calc start + (period config * feed.fired + period config)
            ≤ feed.lastTime + period config * feed.edges + period config := by omega
          _ ≤ time input + period config * feed.edges := by omega
          _ ≤ _ := Nat.add_le_add_left (Nat.le_add_right _ _) _
  · have htimer := timer_of_not_fired henabled htimed hfires
    rw [step_of_not_fired hfires] at hsourced ⊢
    refine ⟨hsourced, hrunning, ?_, hunforced, ?_, ?_, ?_, htimed.faithful, ?_⟩
    · exact (loop_isStrict_ input feed.state).trans htimed.lax
    · exact (loop_periodMs_ input feed.state).trans htimed.periodMs
    · simp only [htimer]
      exact htimed.trigger
    · exact horder.trans hafter
    · simp only [Nat.mul_add]
      exact hconserved.trans (Nat.add_le_add_left (Nat.le_add_right _ _) _)

theorem Timed.step (henabled : config.broadcastsStatus = true)
    (htimed : Timed config start feed) {event : Event Motor}
    (hallowed : feed.Allowed config event) :
    Timed config start (feed.step driver config event) := by
  cases event with
  | iterate input => exact htimed.iterate henabled hallowed
  | command cmd =>
      have htimer := @command_broadcastStatusTimer _ driver cmd feed.state
      refine { htimed with
        toSourced := htimed.toSourced.step (.command cmd)
        isRunning := ?_, lax := ?_, unforced := ?_, periodMs := ?_, trigger := ?_ }
      · exact (congrArg _ htimer).trans htimed.isRunning
      · exact (congrArg _ htimer).trans htimed.lax
      · exact (congrArg _ htimer).trans htimed.unforced
      · exact (congrArg _ htimer).trans htimed.periodMs
      · exact (congrArg (fun timer => timer.triggerTime_.toNat) htimer).trans htimed.trigger
  | motorX motor => exact { htimed with toSourced := htimed.toSourced.step (.motorX motor) }
  | motorY motor => exact { htimed with toSourced := htimed.toSourced.step (.motorY motor) }
  | displayRequest => exact { htimed with toSourced := htimed.toSourced.step .displayRequest }

theorem current_of_timed (henabled : config.broadcastsStatus = true)
    (htimed : Timed config start feed) {event : Event Motor}
    (hallowed : feed.Allowed config event) : feed.Current driver config event := by
  cases event with
  | iterate input =>
      have hnext : Timed config start (feed.step driver config (.iterate input)) :=
        htimed.iterate henabled hallowed
      by_cases hfires : (loop driver config input feed.state).2.broadcastStatusTimer = true
      · have hstep := step_of_fired htimed.toSourced hfires
        refine ⟨hnext.faithful, ?_, .inl ?_⟩
        · rw [hstep]
        · rw [hstep]
      · have hstep := @step_of_not_fired _ driver config feed input hfires
        rw [fires_iff henabled htimed, not_or] at hfires
        refine ⟨hnext.faithful, ?_, .inr ?_⟩
        · rw [hstep]
          exact htimed.order.trans hallowed.1
        · rw [hstep]
          exact Nat.lt_of_not_le hfires.2
  | _ => trivial

theorem conserved_of_timed (henabled : config.broadcastsStatus = true)
    (htimed : Timed config start feed) {event : Event Motor}
    (hallowed : feed.Allowed config event) : feed.Conserved driver config start event := by
  cases event with
  | iterate input =>
      have hnext : Timed config start (feed.step driver config (.iterate input)) :=
        htimed.iterate henabled hallowed
      have hnow : (feed.step driver config (.iterate input)).now = time input := by
        simp only [step]
        split_ifs <;> rfl
      have horder := hnext.order
      rw [hnow] at horder
      exact hnext.conserved.trans (Nat.add_le_add_right horder _)
  | _ => trivial

theorem initial_sourced (clocks : SetupClocks) (stepperX stepperY : Option (Stepper Motor)) :
    Sourced config (initial config clocks stepperX stepperY) := by
  refine ⟨?_, fun hsent => absurd rfl hsent⟩
  intro broadcast hmem
  cases hmem

theorem initial_timed (henabled : config.broadcastsStatus = true) {clocks : SetupClocks}
    (hstart : clocks.broadcastStatusTimer.toNat + period config < 2 ^ 32)
    (stepperX stepperY : Option (Stepper Motor)) :
    Timed config clocks.broadcastStatusTimer.toNat (initial config clocks stepperX stepperY) := by
  have htimer : (initial config clocks stepperX stepperY).state.broadcastStatusTimer =
      IntervalTimer.fresh.start clocks.broadcastStatusTimer
        config.broadcastStatePeriodMs.toUInt32 false := if_pos henabled
  refine ⟨initial_sourced clocks stepperX stepperY, ?_, ?_, ?_, ?_, ?_, le_rfl, ?_, le_rfl⟩
  · rw [htimer]
    rfl
  · rw [htimer]
    rfl
  · rw [htimer]
    rfl
  · rw [htimer]
    rfl
  · rw [htimer, IntervalTimer.start, UInt32.toNat_add, UInt16.toNat_toUInt32]
    exact Nat.mod_eq_of_lt hstart
  · intro broadcast hmem
    cases hmem

/-- **Freshness.** Along every run from `setup` in which the clock does not wrap, what
the receivers were sent last is, after each iteration, what the steppers said less than
a period ago. -/
theorem feed_current (henabled : config.broadcastsStatus = true) (clocks : SetupClocks)
    (hstart : clocks.broadcastStatusTimer.toNat + period config < 2 ^ 32)
    (stepperX stepperY : Option (Stepper Motor)) {events : List (Event Motor)}
    (hallowed : Run.Along (Feed.step driver config) (Allowed config)
      (initial config clocks stepperX stepperY) events) :
    Run.Along (Feed.step driver config) (Current driver config)
      (initial config clocks stepperX stepperY) events := by
  refine Run.along_of_invariant ?_ ?_ (initial_timed henabled hstart stepperX stepperY) hallowed
  · intro feed event htimed hok
    exact current_of_timed henabled htimed hok
  · intro feed event htimed hok
    exact htimed.step henabled hok

/-- **Bandwidth.** On such a run, the timer fires no more often than the time that has
passed holds periods, and once more for every iteration that has found an edge. -/
theorem feed_conserved (henabled : config.broadcastsStatus = true) (clocks : SetupClocks)
    (hstart : clocks.broadcastStatusTimer.toNat + period config < 2 ^ 32)
    (stepperX stepperY : Option (Stepper Motor)) {events : List (Event Motor)}
    (hallowed : Run.Along (Feed.step driver config) (Allowed config)
      (initial config clocks stepperX stepperY) events) :
    Run.Along (Feed.step driver config)
      (Conserved driver config clocks.broadcastStatusTimer.toNat)
      (initial config clocks stepperX stepperY) events := by
  refine Run.along_of_invariant ?_ ?_ (initial_timed henabled hstart stepperX stepperY) hallowed
  · intro feed event htimed hok
    exact conserved_of_timed henabled htimed hok
  · intro feed event htimed hok
    exact htimed.step henabled hok

/-! ## Receivers are not told that an idle axis runs -/

/-- A connected axis with its run flag set. -/
def Flagged (axis : Axis Motor) : Prop :=
  axis.stepper ≠ none ∧ axis.isRunning = true

theorem orderAtRate_flagged {stepper : Stepper Motor} {isRunning : Bool} {rate : UInt32}
    {order : StepperCall} (horder : ∀ motor, (driver.perform motor order).1 = moveOk)
    (hflag : isRunning = true) :
    Flagged (Axis.orderAtRate driver stepper isRunning rate order).1 := by
  unfold Axis.orderAtRate
  simp only
  split_ifs
  · refine ⟨Option.some_ne_none _, ?_⟩
    simp only [Stepper.invoke, horder, beq_self_eq_true]
  · exact ⟨Option.some_ne_none _, hflag⟩

/-- No command clears a run flag, if every order is carried out. -/
theorem run_flagged (hobeys : driver.Obeys) (order : AxisOrder) {axis : Axis Motor}
    (hflagged : Flagged axis) : Flagged (order.run driver axis).1 := by
  obtain ⟨hconnected, hflag⟩ := hflagged
  obtain ⟨stepper, hstepper⟩ := Option.ne_none_iff_exists'.mp hconnected
  cases order with
  | keep => exact ⟨hconnected, hflag⟩
  | move rate steps =>
      simp only [AxisOrder.run, Axis.rated, hstepper]
      exact orderAtRate_flagged (fun motor => hobeys.move motor _) hflag
  | moveTo rate position =>
      simp only [AxisOrder.run, Axis.rated, hstepper]
      exact orderAtRate_flagged (fun motor => hobeys.moveTo motor _) hflag
  | speed velocity =>
      simp only [AxisOrder.run, Axis.speed, hstepper]
      split_ifs
      · exact orderAtRate_flagged hobeys.runForward hflag
      · exact orderAtRate_flagged hobeys.runBackward hflag
  | stop | forceStop =>
      simp only [AxisOrder.run, Axis.halt, hstepper]
      exact ⟨Option.some_ne_none _, hflag⟩
  | setPos position =>
      simp only [AxisOrder.run, Axis.setPos, hstepper]
      split_ifs
      · exact ⟨hconnected, hflag⟩
      · exact ⟨Option.some_ne_none _, hflag⟩

variable (config) in
/-- The status timer runs, and an axis that a receiver believes running is flagged. -/
structure Covered (feed : Feed Motor) : Prop extends Sourced config feed where
  isRunning : feed.state.broadcastStatusTimer.isRunning_ = true
  axisX : ∀ broadcast ∈ feed.last, ∀ status, broadcast.status = some status →
    status.runningX = true → Flagged feed.state.axisX
  axisY : ∀ broadcast ∈ feed.last, ∀ status, broadcast.status = some status →
    status.runningY = true → Flagged feed.state.axisY

/-- Without an edge, a flagged axis is found running and stays flagged. -/
theorem running_of_flagged {axis : Axis Motor} (hflagged : Flagged axis)
    (hedge : axis.edge driver = false) :
    axis.running driver = true ∧ Flagged (axis.sampled driver) := by
  obtain ⟨hconnected, hflag⟩ := hflagged
  obtain ⟨stepper, hstepper⟩ := Option.ne_none_iff_exists'.mp hconnected
  simp only [Axis.edge, hstepper, hflag, bne_eq_false_iff_eq] at hedge
  simp only [Axis.running, Axis.sampled, hstepper]
  exact ⟨hedge, Option.some_ne_none _, hedge⟩

/-- What a stepper says it is doing is what the iteration finds. -/
theorem sampled_of_view {axis : Axis Motor} {position : Int32}
    (hview : (axis.sampled driver).view driver = some (position, true)) :
    axis.running driver = true ∧ Flagged (axis.sampled driver) := by
  unfold Axis.sampled Axis.view at hview
  cases hstepper : axis.stepper with
  | none => simp [hstepper] at hview
  | some stepper =>
      simp only [hstepper, Option.map_some, Option.some.injEq, Prod.mk.injEq] at hview
      simp only [Axis.running, Axis.sampled, hstepper]
      exact ⟨hview.2, Option.some_ne_none _, hview.2⟩

theorem sample_views (state : State Motor) :
    (state.sample driver).views driver =
      ((state.axisX.sampled driver).view driver, (state.axisY.sampled driver).view driver) := by
  rw [sample_eq]
  rfl

/-- An iteration in which the timer does not fire has found no edge. -/
theorem edges_of_not_fired (henabled : config.broadcastsStatus = true)
    (hrunning : feed.state.broadcastStatusTimer.isRunning_ = true) {input : LoopInput}
    (hquiet : ¬ (loop driver config input feed.state).2.broadcastStatusTimer = true) :
    feed.state.axisX.edge driver = false ∧ feed.state.axisY.edge driver = false := by
  rw [loop_fires_broadcastStatusTimer, IntervalTimer.handleIf_snd, henabled,
    IntervalTimer.forceIf_isRunning_, hrunning, Bool.true_and, Bool.true_and,
    IntervalTimer.due_iff, IntervalTimer.forceIf_forceTrigger_] at hquiet
  have hedges : feed.state.edges driver = false := by
    cases hedges : feed.state.edges driver with
    | false => rfl
    | true => simp [hedges] at hquiet
  exact Bool.or_eq_false_iff.mp hedges

/-- After an iteration, an axis that a receiver believes running has been found running
and is flagged. -/
theorem covered_iterate (henabled : config.broadcastsStatus = true) (hcovered : Covered config feed)
    (input : LoopInput) {broadcast : Broadcast}
    (hmem : broadcast ∈ (feed.step driver config (.iterate input)).last) {status : WSStatusMsg}
    (hstatus : broadcast.status = some status) :
    (status.runningX = true → feed.state.axisX.running driver = true ∧
        Flagged (feed.state.axisX.sampled driver)) ∧
      (status.runningY = true → feed.state.axisY.running driver = true ∧
        Flagged (feed.state.axisY.sampled driver)) := by
  by_cases hfires : (loop driver config input feed.state).2.broadcastStatusTimer = true
  · rw [step_of_fired hcovered.toSourced hfires] at hmem
    obtain ⟨sent, hsent, hviews⟩ := status_of_mem hmem
    obtain rfl := Option.some.inj (hsent.symm.trans hstatus)
    rw [sample_views, Prod.mk.injEq] at hviews
    constructor
    · intro hrunning
      rw [hrunning] at hviews
      exact sampled_of_view hviews.1
    · intro hrunning
      rw [hrunning] at hviews
      exact sampled_of_view hviews.2
  · rw [step_of_not_fired hfires] at hmem
    obtain ⟨hedgeX, hedgeY⟩ := edges_of_not_fired henabled hcovered.isRunning hfires
    constructor
    · intro hrunning
      exact running_of_flagged (hcovered.axisX broadcast hmem status hstatus hrunning) hedgeX
    · intro hrunning
      exact running_of_flagged (hcovered.axisY broadcast hmem status hstatus hrunning) hedgeY

theorem Covered.step (henabled : config.broadcastsStatus = true) (hobeys : driver.Obeys)
    (hcovered : Covered config feed) (event : Event Motor) :
    Covered config (feed.step driver config event) := by
  cases event with
  | iterate input =>
      have hrunning : (feed.step driver config
          (.iterate input)).state.broadcastStatusTimer.isRunning_ = true := by
        rw [step_state, Ph5Firmware.step, loop_broadcastStatusTimer,
          IntervalTimer.handleIf_isRunning_, IntervalTimer.forceIf_isRunning_]
        exact hcovered.isRunning
      refine ⟨hcovered.toSourced.step _, hrunning, ?_, ?_⟩
      · intro broadcast hmem status hstatus hshown
        rw [step_state, Ph5Firmware.step, loop_axisX]
        exact ((covered_iterate henabled hcovered input hmem hstatus).1 hshown).2
      · intro broadcast hmem status hstatus hshown
        rw [step_state, Ph5Firmware.step, loop_axisY]
        exact ((covered_iterate henabled hcovered input hmem hstatus).2 hshown).2
  | command cmd =>
      have htimer := @command_broadcastStatusTimer _ driver cmd feed.state
      refine ⟨hcovered.toSourced.step _, (congrArg _ htimer).trans hcovered.isRunning, ?_, ?_⟩
      · intro broadcast hmem status hstatus hshown
        rw [step_state, Ph5Firmware.step, processCommand_eq_dispatch]
        exact run_flagged hobeys cmd.orderX (hcovered.axisX broadcast hmem status hstatus hshown)
      · intro broadcast hmem status hstatus hshown
        rw [step_state, Ph5Firmware.step, processCommand_eq_dispatch]
        exact run_flagged hobeys cmd.orderY (hcovered.axisY broadcast hmem status hstatus hshown)
  | motorX motor =>
      refine { hcovered with toSourced := hcovered.toSourced.step (.motorX motor), axisX := ?_ }
      intro broadcast hmem status hstatus hshown
      obtain ⟨hconnected, hflag⟩ := hcovered.axisX broadcast hmem status hstatus hshown
      refine ⟨?_, hflag⟩
      simpa [Feed.step, Ph5Firmware.step, Axis.withMotor] using hconnected
  | motorY motor =>
      refine { hcovered with toSourced := hcovered.toSourced.step (.motorY motor), axisY := ?_ }
      intro broadcast hmem status hstatus hshown
      obtain ⟨hconnected, hflag⟩ := hcovered.axisY broadcast hmem status hstatus hshown
      refine ⟨?_, hflag⟩
      simpa [Feed.step, Ph5Firmware.step, Axis.withMotor] using hconnected
  | displayRequest => exact { hcovered with toSourced := hcovered.toSourced.step .displayRequest }

end Spec

/-! ## X starts, runs past a status, and stops -/

def startAndStop : List (Event BenchMotor) :=
  [.iterate (benchInput 50),
    .command { Ph5Command.fresh with type := .moveX, posX := 100, speedX := 1000 },
    .iterate (benchInput 60), .iterate (benchInput 150), .motorX (.atRest 100),
    .iterate (benchInput 155), .iterate (benchInput 260)]

theorem startAndStop_current :
    Run.Along (Feed.step benchDriver .shipped) (Current benchDriver .shipped)
      (initial .shipped ⟨0, 0, 0⟩ benchStepper benchStepper) startAndStop :=
  feed_current (by decide) ⟨0, 0, 0⟩ (by decide) benchStepper benchStepper (by decide)

theorem startAndStop_conserved :
    Run.Along (Feed.step benchDriver .shipped) (Conserved benchDriver .shipped 0)
      (initial .shipped ⟨0, 0, 0⟩ benchStepper benchStepper) startAndStop :=
  feed_conserved (by decide) ⟨0, 0, 0⟩ (by decide) benchStepper benchStepper (by decide)

/-- Three firings: the period at 150, the edge at 155, and the period again. -/
example : (startAndStop.foldl (Feed.step benchDriver .shipped)
    (initial .shipped ⟨0, 0, 0⟩ benchStepper benchStepper)).fired = 3 := by decide

end Feed

end Ph5Firmware
