import Ph5Firmware.Wire.Transmission

/-!
# Progress and silence of a WebSocket client

Whether what has been queued for a client ever goes out.

* In orderly runs it does (`transmission_drains`): if from some time on the peer
  acknowledges what is on the way and the connection is polled with room for a control
  frame, both queues run empty.  `rank` counts what is left to be done, and every
  acknowledgement and every poll brings it down.
* Out of order it may never again (`mute_run`): when an acknowledgement has been counted
  for a message that was not on the way, the message in front never counts as acknowledged,
  and whatever happens no byte is sent any more.
* `mute_of_pinged` is such a run: a ping, a message queued before the pong is acknowledged,
  and one acknowledgement for the two pongs that have gone out.
-/

namespace Ph5Firmware

/-! ## What is left to be done -/

def AsyncWebSocketControl.rank (control : AsyncWebSocketControl) : ℕ :=
  if control.finished then 1 else 2

def AsyncWebSocketMultiMessage.rank (message : AsyncWebSocketMultiMessage) : ℕ :=
  if message.finished then 1 else message.data.length - message.sent + 2

def Sender.rank (sender : Sender) : ℕ :=
  (sender.controlQueue.map AsyncWebSocketControl.rank).sum +
    (sender.messageQueue.map AsyncWebSocketMultiMessage.rank).sum

namespace Sender

theorem rank_eq_zero (sender : Sender) :
    sender.rank = 0 ↔ sender.controlQueue = [] ∧ sender.messageQueue = [] := by
  have hcontrol : ∀ control : AsyncWebSocketControl, 0 < control.rank := by
    intro control
    unfold AsyncWebSocketControl.rank
    split_ifs <;> omega
  have hmessage : ∀ message : AsyncWebSocketMultiMessage, 0 < message.rank := by
    intro message
    unfold AsyncWebSocketMultiMessage.rank
    split_ifs <;> omega
  unfold rank
  cases sender.controlQueue with
  | nil =>
      cases sender.messageQueue with
      | nil => simp
      | cons message rest => simp [(hmessage message).ne']
  | cons control rest => simp [(hcontrol control).ne']

theorem runQueue_of_empty (socket : Socket) {sender : Sender} (hempty : sender.rank = 0) :
    sender.runQueue socket = sender := by
  obtain ⟨hcontrols, hmessages⟩ := (rank_eq_zero sender).mp hempty
  have hdropped : sender.dropFinished = sender := by
    unfold dropFinished
    rw [hmessages]
    exact congrArg (fun queue => { sender with messageQueue := queue }) hmessages.symm
  unfold runQueue
  simp only [hdropped, sendsControl, sendMessage, hcontrols, hmessages, if_neg Bool.false_ne_true]

theorem rank_acknowledgeFront (len : UInt32) (sender : Sender) :
    (sender.acknowledgeFront len).rank ≤ sender.rank := by
  unfold acknowledgeFront
  cases hqueue : sender.messageQueue with
  | nil => exact le_rfl
  | cons message rest =>
      simp only
      split_ifs
      · have hless : (message.acknowledge len).rank ≤ message.rank := by
          unfold AsyncWebSocketMultiMessage.acknowledge AsyncWebSocketMultiMessage.rank
            AsyncWebSocketMultiMessage.finished
          simp only
          split_ifs <;> simp_all
        unfold rank
        simp only [hqueue, List.map_cons, List.sum_cons]
        omega
      · exact le_rfl

theorem rank_dropFinished (sender : Sender) : sender.dropFinished.rank ≤ sender.rank := by
  have hmessages : ∀ messages : List AsyncWebSocketMultiMessage,
      ((messages.dropWhile AsyncWebSocketMultiMessage.finished).map
        AsyncWebSocketMultiMessage.rank).sum ≤
          (messages.map AsyncWebSocketMultiMessage.rank).sum := by
    intro messages
    induction messages with
    | nil => exact le_rfl
    | cons message rest ih =>
        by_cases hfinished : message.finished = true
        · rw [List.dropWhile_cons_of_pos hfinished, List.map_cons, List.sum_cons]
          exact ih.trans (Nat.le_add_left _ _)
        · rw [List.dropWhile_cons_of_neg hfinished]
  exact Nat.add_le_add_left (hmessages sender.messageQueue) _

theorem rank_sendControl (socket : Socket) {sender : Sender} {control : AsyncWebSocketControl}
    {rest : List AsyncWebSocketControl} (hqueue : sender.controlQueue = control :: rest)
    (hunsent : control.finished = false) :
    (sender.sendControl socket).rank < sender.rank := by
  unfold sendControl rank
  simp only [hqueue, List.map_cons, List.sum_cons]
  simp [AsyncWebSocketControl.rank, AsyncWebSocketControl.send, hunsent]

end Sender

/-- Sending from a message that is between frames leaves less to be sent. -/
theorem AsyncWebSocketMultiMessage.Under.rank_send {message : AsyncWebSocketMultiMessage}
    (hfront : message.Under 0) {socket : Socket} (hhealthy : socket.Healthy)
    (hwindow : 0 < socket.webSocketSendFrameWindow) :
    (message.send socket).1.rank < message.rank := by
  have hbetween : message.acked = message.ack :=
    UInt32.toNat_inj.mp (by have hacked := hfront.acked; omega)
  have hsending : ¬ message.finished = true := by
    simp [finished, hfront.sending]
  by_cases hempty : message.sent = message.data.length
  · have hsend : (message.send socket).1 = { message with status := .sent } := by
      unfold send
      rw [if_neg (not_not_intro hfront.sending),
        if_neg (by rw [hbetween]; exact UInt32.lt_irrefl _), if_pos hempty]
    rw [hsend]
    simp [rank, finished, hfront.sending]
  · have hleft : message.sent < message.data.length := lt_of_le_of_ne hfront.sent hempty
    have hopcode : message.nextOpcode < 16 := by
      unfold nextOpcode
      split_ifs
      · exact UInt8.lt_trans hfront.opcode_lt (by decide)
      · decide
    -- the room lets at least one byte through
    obtain ⟨count, _, hpositive, _, hwithin, hsend⟩ :=
      send_fragment hhealthy hwindow hfront.sending hbetween hopcode hleft
    rw [hsend]
    have hstill : ¬ (message.after count).finished = true := hsending
    unfold rank
    rw [if_neg hsending, if_neg hstill]
    show message.data.length - (message.sent + count) + 2 < message.data.length - message.sent + 2
    omega

namespace Transmission

variable {transmission : Transmission} {frames : List WireFrame} {socket : Socket}

/-- With room for a control frame and nothing on the way, the queue does not run in vain. -/
theorem Sound.rank_runQueue (hsound : transmission.Sound frames) (hhealthy : socket.Healthy)
    (hroom : 135 ≤ socket.room.toNat) (hwaiting : transmission.sender.waiting = false)
    (hidle : transmission.inFlight = 0) (hleft : 0 < transmission.sender.rank) :
    (transmission.sender.runQueue socket).rank < transmission.sender.rank := by
  obtain ⟨hturn, -, -, hsending⟩ := hsound.queue.dropFinished
  have hunacked : transmission.unacked = 0 := by
    rw [unacked, hwaiting, hidle]
    rfl
  have hwindow := Socket.window_of_room hroom
  have hdropped := transmission.sender.rank_dropFinished
  rw [hunacked] at hturn
  unfold Sender.runQueue
  generalize hsender : transmission.sender.dropFinished = sender at hdropped
  have hmessages : sender.messageQueue =
      transmission.sender.messageQueue.dropWhile AsyncWebSocketMultiMessage.finished :=
    hsender ▸ rfl
  have hcontrols : sender.controlQueue = transmission.sender.controlQueue := hsender ▸ rfl
  rw [← hmessages] at hturn hsending
  -- with nothing on the way, no frame of the front message is half acknowledged
  have hbetween : sender.betweenFrames = true := by
    unfold Sender.betweenFrames
    cases hqueue : sender.messageQueue with
    | nil => rfl
    | cons message rest =>
        rw [hqueue] at hturn hsending
        cases hturn with
        | finished hstatus => exact absurd (hsending message rfl) hstatus
        | under hfront hrest =>
            have hequal : message.acked = message.ack :=
              UInt32.toNat_inj.mp (by have hacked := hfront.acked; omega)
            exact beq_iff_eq.mpr hequal
  simp only
  cases hqueue : sender.controlQueue with
  | cons control rest =>
      rw [hcontrols] at hqueue
      have hmem : control ∈ transmission.sender.controlQueue := by
        rw [hqueue]
        exact List.mem_cons_self
      have hlen := AsyncWebSocketControl.toNat_len (hsound.control control hmem).2.2
      have hdata := (hsound.control control hmem).2.2
      have hsends : sender.sendsControl socket = true := by
        unfold Sender.sendsControl
        rw [hcontrols, hqueue]
        simp only [hbetween, Bool.true_and]
        exact decide_eq_true (by omega)
      have hunsent : control.finished = false := by
        simpa [Sender.waiting, hqueue] using hwaiting
      rw [if_pos hsends]
      exact (Sender.rank_sendControl socket (hcontrols.trans hqueue) hunsent).trans_le hdropped
  | nil =>
      have hsends : ¬ sender.sendsControl socket = true := by
        unfold Sender.sendsControl
        simp [hqueue]
      rw [if_neg hsends]
      unfold Sender.sendMessage
      cases hmessage : sender.messageQueue with
      | nil =>
          refine lt_of_eq_of_lt ?_ hleft
          simp [Sender.rank, hqueue, hmessage]
      | cons message rest =>
          rw [hmessage] at hturn hsending
          cases hturn with
          | finished hstatus => exact absurd (hsending message rfl) hstatus
          | under hfront hrest =>
              have hfree : (message.betweenFrames &&
                  decide (0 < socket.webSocketSendFrameWindow)) = true := by
                simp only [Sender.betweenFrames, hmessage, List.head?_cons, Option.all_some]
                  at hbetween
                rw [hbetween, Bool.true_and]
                exact decide_eq_true (by omega)
              have hless := hfront.rank_send hhealthy
                (by omega : 0 < socket.webSocketSendFrameWindow)
              simp only [if_pos hfree]
              refine lt_of_lt_of_le ?_ hdropped
              unfold Sender.rank
              simp only [hmessage, List.map_cons, List.sum_cons]
              omega

/-- The peer acknowledges what is on the way; if nothing is, the connection is polled. -/
def drainStep (socket : Socket) (transmission : Transmission) : Transmission :=
  if transmission.inFlight = 0 then transmission.step (.poll socket)
  else transmission.step (.acked (UInt16.ofNat transmission.inFlight) socket)

def drain (socket : Socket) : ℕ → Transmission → Transmission
  | 0, transmission => transmission
  | rounds + 1, transmission => drain socket rounds (transmission.drainStep socket)

theorem step_poll (hopen : transmission.sender.status ≠ .disconnected) (socket : Socket) :
    transmission.step (.poll socket) =
      { transmission with sender := transmission.sender.onPoll socket } := by
  unfold Transmission.step Sender.step
  rw [if_neg hopen, if_neg hopen]
  simp only [SenderEvent.bytesAcked, SenderEvent.messages, SenderEvent.controls,
    List.append_nil, Nat.add_zero]

/-- Before the connection is polled or an acknowledgement comes in, nothing is out of order. -/
theorem Sound.drainStep_allowed (hsound : transmission.Sound frames) (hhealthy : socket.Healthy) :
    if transmission.inFlight = 0 then
      transmission.Allowed (.poll socket) ∧ transmission.sender.waiting = false
    else
      transmission.Allowed (.acked (UInt16.ofNat transmission.inFlight) socket) ∧
        (UInt16.ofNat transmission.inFlight).toNat = transmission.inFlight := by
  split_ifs with hidle
  · -- a control frame that is awaited has bytes on the way
    have hnone : ∀ control ∈ transmission.sender.controlQueue.head?,
        ¬ control.finished = true := by
      intro control hcontrol hfinished
      have hawaited := hsound.awaited control hcontrol hfinished
      have hmem := hsound.control control (List.mem_of_mem_head? hcontrol)
      rw [hidle, AsyncWebSocketControl.toNat_len hmem.2.2] at hawaited
      omega
    refine ⟨⟨trivial, hhealthy, ?_⟩, ?_⟩
    · intro control hcontrol hfinished
      exact absurd hfinished (hnone control hcontrol)
    · rw [← Bool.not_eq_true, waiting_iff]
      rintro ⟨control, hcontrol, hfinished⟩
      exact hnone control hcontrol hfinished
  · -- what is on the way is part of one frame
    have hsize : transmission.inFlight < 2 ^ 16 := by
      rcases hsound.last with hnothing | ⟨earlier, frame, -, hframe, hwithin⟩
      · exact absurd hnothing hidle
      · omega
    have hlen : (UInt16.ofNat transmission.inFlight).toNat = transmission.inFlight := by
      rw [UInt16.toNat_ofNat', Nat.mod_eq_of_lt hsize]
    refine ⟨⟨?_, hhealthy, ?_⟩, hlen⟩
    · show 0 < (UInt16.ofNat transmission.inFlight).toNat ∧
        (UInt16.ofNat transmission.inFlight).toNat ≤ transmission.inFlight
      omega
    · intro control hcontrol hfinished
      exact ⟨rfl, .inr (hlen.trans (hsound.awaited control hcontrol hfinished))⟩

theorem Sound.inFlight_of_empty (hsound : transmission.Sound frames)
    (hcontrols : transmission.sender.controlQueue = [])
    (hmessages : transmission.sender.messageQueue = []) : transmission.inFlight = 0 := by
  refine hsound.inFlight_eq_zero ?_ ?_
  · simp [Sender.waiting, hcontrols]
  · simp [Sender.betweenFrames, hmessages]

/-- An acknowledgement of everything on the way leaves less to be done. -/
theorem Sound.rank_onAck (hsound : transmission.Sound frames) (hhealthy : socket.Healthy)
    (hroom : 135 ≤ socket.room.toNat) (hflight : transmission.inFlight ≠ 0)
    {len : UInt16} (hlen : len.toNat = transmission.inFlight) :
    (transmission.sender.onAck len.toUInt32 socket).status = .disconnected ∨
      (transmission.sender.onAck len.toUInt32 socket).rank < transmission.sender.rank := by
  obtain ⟨sender, hcase, hacked, hidle, ⟨hclosed, hstatus⟩ | hruns⟩ :=
    hsound.onAck_cases socket hlen.le (fun control hcontrol hfinished =>
      hlen.trans (hsound.awaited control hcontrol hfinished))
  · rw [hclosed]
    exact .inl hstatus
  · right
    rw [hruns]
    -- a control frame leaves with its acknowledgement; a message stays until the queue is run
    have hless : sender.rank < transmission.sender.rank ∨
        0 < sender.rank ∧ sender.rank ≤ transmission.sender.rank := by
      cases hcase with
      | control hqueue hfinished status =>
          left
          unfold Sender.rank
          rw [hqueue, List.map_cons, List.sum_cons]
          simp [AsyncWebSocketControl.rank, hfinished]
      | front =>
          right
          refine ⟨Nat.pos_of_ne_zero ?_, transmission.sender.rank_acknowledgeFront _⟩
          intro hnothing
          obtain ⟨hcontrols, hmessages⟩ := (Sender.rank_eq_zero _).mp hnothing
          obtain ⟨hsame, -, hempty⟩ := acknowledgeFront_fields len.toUInt32 transmission.sender
          exact hflight (hsound.inFlight_of_empty (hsame.symm.trans hcontrols) (hempty hmessages))
    have hwire : sender.wire = transmission.sender.wire := by
      cases hcase with
      | control hqueue hfinished status => rfl
      | front =>
          exact (acknowledgeFront_fields len.toUInt32 transmission.sender).2.1
    have hquiet : Transmission.inFlight
        { transmission with
          sender := sender
          acknowledged := transmission.acknowledged + len.toNat } = 0 := by
      unfold inFlight at hlen ⊢
      simp only [hwire]
      omega
    rcases Nat.eq_zero_or_pos sender.rank with hnothing | hleft
    · rw [Sender.runQueue_of_empty socket hnothing]
      omega
    · have hmore : (sender.runQueue socket).rank < sender.rank :=
        hacked.rank_runQueue hhealthy hroom hidle hquiet hleft
      omega

/-- **A round** leaves less to be done, or the closing handshake has ended. -/
theorem Sound.drainStep (hsound : transmission.Sound frames) (hhealthy : socket.Healthy)
    (hroom : 135 ≤ socket.room.toNat) (hopen : transmission.sender.status ≠ .disconnected) :
    (∃ more, (transmission.drainStep socket).Sound (frames ++ more)) ∧
      (transmission.drainStep socket).messages = transmission.messages ∧
      (transmission.drainStep socket).controls = transmission.controls ∧
      ((transmission.drainStep socket).sender.status = .disconnected ∨
        (transmission.drainStep socket).sender.rank < transmission.sender.rank ∨
        transmission.sender.rank = 0) := by
  have hallowed := hsound.drainStep_allowed hhealthy
  unfold Transmission.drainStep
  split_ifs at hallowed ⊢ with hidle
  · obtain ⟨⟨hproper, hhealthy, horderly⟩, hwaiting⟩ := hallowed
    have hstep := step_poll hopen socket
    refine ⟨hsound.step hproper hhealthy horderly, by rw [hstep], by rw [hstep], ?_⟩
    rcases Nat.eq_zero_or_pos transmission.sender.rank with hnothing | hleft
    · exact .inr (.inr hnothing)
    · have hsend : socket.canSend = true := decide_eq_true (by omega)
      -- a poll runs the queues only if one of them has something
      have hqueued : ¬ transmission.sender.controlQueue = [] ∨
          ¬ transmission.sender.messageQueue = [] := by
        rw [← not_and_or, ← Sender.rank_eq_zero]
        exact hleft.ne'
      have hruns : transmission.sender.onPoll socket = transmission.sender.runQueue socket := by
        unfold Sender.onPoll Sender.runIf
        rw [if_pos]
        simpa [hsend] using hqueued
      rw [hstep]
      simp only [hruns]
      exact .inr (.inl (hsound.rank_runQueue hhealthy hroom hwaiting hidle hleft))
  · obtain ⟨⟨hproper, hhealthy, horderly⟩, hlen⟩ := hallowed
    have hstep : transmission.step (.acked (UInt16.ofNat transmission.inFlight) socket) =
        { transmission with
          sender := transmission.sender.onAck (UInt16.ofNat transmission.inFlight).toUInt32 socket
          acknowledged := transmission.acknowledged +
            (UInt16.ofNat transmission.inFlight).toNat } := by
      unfold Transmission.step Sender.step
      rw [if_neg hopen, if_neg hopen]
      simp only [SenderEvent.bytesAcked, SenderEvent.messages, SenderEvent.controls,
        List.append_nil]
    refine ⟨hsound.step hproper hhealthy horderly, by rw [hstep], by rw [hstep], ?_⟩
    rw [hstep]
    rcases hsound.rank_onAck hhealthy hroom hidle hlen with hclosed | hless
    · exact .inl hclosed
    · exact .inr (.inl hless)

theorem Sound.drainStep_of_empty (hsound : transmission.Sound frames)
    (hempty : transmission.sender.rank = 0) : transmission.drainStep socket = transmission := by
  obtain ⟨hcontrols, hmessages⟩ := (Sender.rank_eq_zero _).mp hempty
  have hpoll : transmission.sender.onPoll socket = transmission.sender := by
    unfold Sender.onPoll Sender.runIf
    simp [hcontrols, hmessages]
  unfold Transmission.drainStep
  rw [if_pos (hsound.inFlight_of_empty hcontrols hmessages)]
  by_cases hclosed : transmission.sender.status = .disconnected
  · unfold Transmission.step
    rw [if_pos hclosed]
  · rw [step_poll hclosed, hpoll]

theorem drain_disconnected (hclosed : transmission.sender.status = .disconnected) (rounds : ℕ) :
    transmission.drain socket rounds = transmission := by
  have hsame : transmission.drainStep socket = transmission := by
    unfold Transmission.drainStep Transmission.step
    simp only [if_pos hclosed, ite_self]
  induction rounds with
  | zero => rfl
  | succ rounds ih => rw [Transmission.drain, hsame, ih]

/-- **Both queues run empty**, unless the closing handshake ends first. -/
theorem Sound.drain (hsound : transmission.Sound frames) (hhealthy : socket.Healthy)
    (hroom : 135 ≤ socket.room.toNat) {rounds : ℕ} (hrounds : transmission.sender.rank ≤ rounds) :
    (∃ more, (transmission.drain socket rounds).Sound (frames ++ more)) ∧
      (transmission.drain socket rounds).messages = transmission.messages ∧
      (transmission.drain socket rounds).controls = transmission.controls ∧
      ((transmission.drain socket rounds).sender.status = .disconnected ∨
        (transmission.drain socket rounds).sender.rank = 0) := by
  induction rounds generalizing transmission frames with
  | zero =>
      exact ⟨⟨[], (List.append_nil frames).symm ▸ hsound⟩, rfl, rfl,
        .inr (Nat.le_zero.mp hrounds)⟩
  | succ rounds ih =>
      by_cases hclosed : transmission.sender.status = .disconnected
      · rw [drain_disconnected hclosed]
        exact ⟨⟨[], (List.append_nil frames).symm ▸ hsound⟩, rfl, rfl, .inl hclosed⟩
      obtain ⟨⟨more, hnext⟩, hmessages, hcontrols, hless⟩ :=
        hsound.drainStep hhealthy hroom hclosed
      rw [Transmission.drain, ← hmessages, ← hcontrols]
      rcases hless with hends | hless | hempty
      · rw [drain_disconnected hends]
        exact ⟨⟨more, hnext⟩, rfl, rfl, .inl hends⟩
      · obtain ⟨⟨further, hend⟩, hrest⟩ := ih hnext (by omega)
        exact ⟨⟨more ++ further, by rw [← List.append_assoc]; exact hend⟩, hrest⟩
      · rw [hsound.drainStep_of_empty hempty]
        exact ih hsound (by omega)

/-- **Everything queued goes out.** After any orderly run, if the peer acknowledges what is on
the way and the connection is polled with room for a control frame, then after at most `rank`
rounds the client is closed, or the peer has every message and every control frame. -/
theorem transmission_drains {events : List SenderEvent}
    (hallowed : Run.Along Transmission.step Allowed fresh events) (hhealthy : socket.Healthy)
    (hroom : 135 ≤ socket.room.toNat) {rounds : ℕ}
    (hrounds : (events.foldl Transmission.step fresh).sender.rank ≤ rounds) :
    (drain socket rounds (events.foldl Transmission.step fresh)).sender.status = .disconnected ∨
      ∃ frames : List WireFrame,
        (drain socket rounds (events.foldl Transmission.step fresh)).sender.wire =
            frames.flatMap WireFrame.bytes ∧
          Reassembly.reassemble (frames.filterMap WireFrame.fragment) =
            some ⟨(events.foldl Transmission.step fresh).messages, none⟩ ∧
          frames.filterMap WireFrame.controlFrame =
            (events.foldl Transmission.step fresh).controls := by
  obtain ⟨frames, hsound⟩ := sound_fresh.run hallowed
  obtain ⟨⟨more, hend⟩, hmessages, hcontrols, hclosed | hempty⟩ :=
    hsound.drain hhealthy hroom hrounds
  · exact .inl hclosed
  · right
    obtain ⟨hnocontrol, hnomessage⟩ := (Sender.rank_eq_zero _).mp hempty
    obtain ⟨done, hinbox, hdone⟩ := hend.inbox
    have hsent := hend.controls
    rw [hnomessage, hmessages] at hdone
    rw [hnomessage] at hinbox
    rw [hnocontrol, hcontrols] at hsent
    refine ⟨_, hend.wire, ?_, ?_⟩
    · rw [hinbox, hdone]
      simp
    · rw [hsent]
      simp

/-- `mixedRun`, and a message that finds no room. -/
def blockedRun : List SenderEvent :=
  mixedRun ++ [.message wsBinary [5] .full]

theorem blockedRun_drains :
    (drain .roomy 4 (blockedRun.foldl step fresh)).sender.status = .disconnected ∨
      ∃ frames : List WireFrame,
        (drain .roomy 4 (blockedRun.foldl step fresh)).sender.wire =
            frames.flatMap WireFrame.bytes ∧
          Reassembly.reassemble (frames.filterMap WireFrame.fragment) =
            some ⟨(blockedRun.foldl step fresh).messages, none⟩ ∧
          frames.filterMap WireFrame.controlFrame = (blockedRun.foldl step fresh).controls :=
  transmission_drains (by decide) (by decide) (by decide) (by decide)

/-! ## Silence -/

/-- Nothing is on the way, and the message in front is not between frames. -/
structure Mute (transmission : Transmission) : Prop where
  quiet : transmission.inFlight = 0
  front : ∃ message rest, transmission.sender.messageQueue = message :: rest ∧
    message.status = .sending ∧ message.acked ≠ message.ack

theorem runQueue_of_mute (socket : Socket) {sender : Sender}
    {message : AsyncWebSocketMultiMessage} {rest : List AsyncWebSocketMultiMessage}
    (hqueue : sender.messageQueue = message :: rest) (hsending : message.status = .sending)
    (hacked : message.acked ≠ message.ack) : sender.runQueue socket = sender := by
  have hfinished : ¬ message.finished = true := by
    simp [AsyncWebSocketMultiMessage.finished, hsending]
  have hbetween : message.betweenFrames = false := beq_eq_false_iff_ne.mpr hacked
  have hdropped : sender.dropFinished = sender := by
    unfold Sender.dropFinished
    rw [hqueue, List.dropWhile_cons_of_neg hfinished, ← hqueue]
  have hsends : sender.sendsControl socket = false := by
    unfold Sender.sendsControl Sender.betweenFrames
    rw [hqueue, List.head?_cons, Option.all_some, hbetween]
    cases sender.controlQueue <;> rfl
  unfold Sender.runQueue
  simp only [hdropped, hsends, Bool.false_eq_true, if_false]
  unfold Sender.sendMessage
  simp only [hqueue, hbetween, Bool.false_and, Bool.false_eq_true, if_false]

/-- Nothing but an acknowledgement touches the message in front. -/
theorem step_of_mute {sender : Sender} {message : AsyncWebSocketMultiMessage}
    {rest : List AsyncWebSocketMultiMessage} (hqueue : sender.messageQueue = message :: rest)
    (hsending : message.status = .sending) (hacked : message.acked ≠ message.ack)
    {event : SenderEvent} (hnoack : ∀ len socket, event ≠ .acked len socket) :
    (∃ more, (sender.step event).messageQueue = message :: (rest ++ more)) ∧
      (sender.step event).wire = sender.wire := by
  -- whatever is queued behind it, the front message never gets between two frames again
  have hruns : ∀ (other : Sender) (more : List AsyncWebSocketMultiMessage) (enabled : Bool)
      (socket : Socket), other.messageQueue = message :: (rest ++ more) →
      other.wire = sender.wire →
      (∃ more, (other.runIf enabled socket).messageQueue = message :: (rest ++ more)) ∧
        (other.runIf enabled socket).wire = sender.wire := by
    intro other more enabled socket hother hwire
    unfold Sender.runIf
    rw [runQueue_of_mute socket hother hsending hacked, ite_self]
    exact ⟨⟨more, hother⟩, hwire⟩
  have hsame : sender.messageQueue = message :: (rest ++ []) := by rw [hqueue, List.append_nil]
  unfold Sender.step
  by_cases hdeleted : sender.status = .disconnected
  · rw [if_pos hdeleted]
    exact ⟨⟨[], hsame⟩, rfl⟩
  rw [if_neg hdeleted]
  cases event with
  | message opcode data socket =>
      simp only
      unfold Sender.queueMessage
      split_ifs
      · exact ⟨⟨[], hsame⟩, rfl⟩
      · exact hruns sender [] _ socket hsame rfl
      · exact hruns _ [.new opcode data] _ socket (by rw [hqueue, List.cons_append]) rfl
  | control opcode data socket => exact hruns _ [] _ socket hsame rfl
  | close socket =>
      simp only
      split_ifs
      · exact hruns _ [] _ socket hsame rfl
      · exact ⟨⟨[], hsame⟩, rfl⟩
  | closing data socket =>
      simp only
      split_ifs
      · exact ⟨⟨[], hsame⟩, rfl⟩
      · exact hruns _ [] _ socket hsame rfl
  | acked len socket => exact absurd rfl (hnoack len socket)
  | poll socket => exact hruns sender [] _ socket hsame rfl

/-- Whatever happens, a mute client stays mute and gets no byte. -/
theorem Mute.step (hmute : transmission.Mute) {event : SenderEvent}
    (hproper : transmission.Proper event) :
    (transmission.step event).Mute ∧
      (transmission.step event).sender.wire = transmission.sender.wire := by
  obtain ⟨hquiet, message, rest, hqueue, hsending, hacked⟩ := hmute
  have hnoack : ∀ len socket, event ≠ .acked len socket := by
    rintro len socket rfl
    obtain ⟨hpositive, hwithin⟩ := hproper
    omega
  have hnone : event.bytesAcked = 0 := by
    cases event with
    | acked len socket => exact absurd rfl (hnoack len socket)
    | _ => rfl
  obtain ⟨⟨more, hmessages⟩, hwire⟩ := step_of_mute hqueue hsending hacked hnoack
  unfold Transmission.step
  split_ifs
  · exact ⟨⟨hquiet, message, rest, hqueue, hsending, hacked⟩, rfl⟩
  · refine ⟨⟨?_, message, rest ++ more, hmessages, hsending, hacked⟩, hwire⟩
    unfold inFlight at hquiet ⊢
    simp only [hwire, hnone, Nat.add_zero]
    exact hquiet

/-- **A mute client is never sent anything again**, whatever is queued for it and whatever
the connection does. -/
theorem mute_run (hmute : transmission.Mute) {events : List SenderEvent}
    (hproper : Run.Along Transmission.step Proper transmission events) :
    (events.foldl Transmission.step transmission).Mute ∧
      (events.foldl Transmission.step transmission).sender.wire = transmission.sender.wire := by
  induction events generalizing transmission with
  | nil => exact ⟨hmute, rfl⟩
  | cons event rest ih =>
      obtain ⟨hevent, hrest⟩ := hproper
      obtain ⟨hnext, hwire⟩ := hmute.step hevent
      obtain ⟨hend, hlast⟩ := ih hnext hrest
      exact ⟨hend, hlast.trans hwire⟩

/-- Connected, and everything that has been queued has been sent and acknowledged. -/
structure Idle (transmission : Transmission) : Prop where
  connected : transmission.sender.status = .connected
  controls : transmission.sender.controlQueue = []
  messages : transmission.sender.messageQueue = []
  acknowledged : transmission.acknowledged = transmission.sender.wire.length

/-- The pong to a ping, once it has been sent. -/
def pongSent (payload : List UInt8) : AsyncWebSocketControl :=
  { AsyncWebSocketControl.new wsPong payload with finished := true }

/-- The bytes of a pong. -/
def pongBytes (payload : List UInt8) (hpayload : payload.length ≤ 125) : List UInt8 :=
  (WireFrame.plain true wsPong payload (by decide) (hpayload.trans_lt (by decide))).bytes

theorem length_pongBytes (payload : List UInt8) (hpayload : payload.length ≤ 125) :
    (pongBytes payload hpayload).length = payload.length + 2 := by
  unfold pongBytes
  rw [Socket.length_plain, if_pos (by omega)]

/-- With room for it a pong is sent, whether it has been sent before or not. -/
theorem runQueue_pong (hhealthy : socket.Healthy) (hroom : 135 ≤ socket.room.toNat)
    {payload : List UInt8} (hpayload : payload.length ≤ 125) {sender : Sender}
    (control : AsyncWebSocketControl) (hcontrols : sender.controlQueue = [control])
    (hpong : { control with finished := true } = pongSent payload)
    (hdropped : sender.dropFinished = sender) (hbetween : sender.betweenFrames = true) :
    sender.runQueue socket =
      { sender with
        controlQueue := [pongSent payload]
        wire := sender.wire ++ pongBytes payload hpayload } := by
  have hopcode : control.opcode = wsPong := congrArg AsyncWebSocketControl.opcode hpong
  have hsame : control.data = payload :=
    (congrArg AsyncWebSocketControl.data hpong).trans (List.take_of_length_le hpayload)
  have hdata : control.data.length ≤ 125 := hsame ▸ hpayload
  have hwindow := Socket.window_of_room hroom
  have hlen := AsyncWebSocketControl.toNat_len hdata
  obtain ⟨hlength, hsend⟩ := AsyncWebSocketControl.send_plain hhealthy
    (by rw [hopcode]; decide) hdata (by omega : control.len.toNat - 1 < _)
  have hsends : sender.sendsControl socket = true := by
    unfold Sender.sendsControl
    rw [hcontrols]
    simp only [hbetween, Bool.true_and]
    exact decide_eq_true (by omega)
  have hbytes : (control.send socket).2 = pongBytes payload hpayload := by
    rw [hsend]
    unfold pongBytes
    simp only [hopcode, hsame]
  unfold Sender.runQueue
  simp only [hdropped, if_pos hsends]
  unfold Sender.sendControl
  rw [hcontrols]
  simp only [hbytes]
  rw [hsend]
  simp only [hpong]

/-- A ping, a message, and one acknowledgement for two pongs. -/
def pinged (payload : List UInt8) (opcode : UInt8) (data : List UInt8)
    (first second third : Socket) (transmission : Transmission) : Transmission :=
  ((transmission.step (.control wsPong payload first)).step (.message opcode data second)).step
    (.acked (UInt16.ofNat (2 * (payload.length + 2))) third)

/-- What has been sent when that acknowledgement comes. -/
theorem pinged_sent (hidle : transmission.Idle) {payload : List UInt8}
    (hpayload : payload.length ≤ 125) (opcode : UInt8) (data : List UInt8)
    {first second : Socket} (hfirst : first.Healthy) (hfirstRoom : 135 ≤ first.room.toNat)
    (hsecond : second.Healthy) (hsecondRoom : 135 ≤ second.room.toNat) :
    ((transmission.step (.control wsPong payload first)).step
      (.message opcode data second)).sender =
        { status := .connected
          controlQueue := [pongSent payload]
          messageQueue := [.new opcode data]
          wire :=
            transmission.sender.wire ++ pongBytes payload hpayload ++ pongBytes payload hpayload } ∧
      ((transmission.step (.control wsPong payload first)).step
        (.message opcode data second)).acknowledged = transmission.acknowledged := by
  obtain ⟨hconnected, hcontrols, hmessages, -⟩ := hidle
  have hopen : transmission.sender.status ≠ .disconnected := by
    rw [hconnected]
    decide
  have hpong : transmission.sender.queueControl (.new wsPong payload) first =
      { transmission.sender with
        controlQueue := [pongSent payload]
        wire := transmission.sender.wire ++ pongBytes payload hpayload } := by
    unfold Sender.queueControl Sender.runIf
    have hsend : first.canSend = true := decide_eq_true (by omega)
    rw [if_pos hsend, hcontrols, List.nil_append]
    refine (runQueue_pong hfirst hfirstRoom hpayload (.new wsPong payload) rfl rfl ?_ ?_).trans rfl
    · unfold Sender.dropFinished
      simp only [hmessages, List.dropWhile_nil]
    · simp [Sender.betweenFrames, hmessages]
  have hfirstStep : transmission.step (.control wsPong payload first) =
      { sender := { transmission.sender with
          controlQueue := [pongSent payload]
          wire := transmission.sender.wire ++ pongBytes payload hpayload }
        acknowledged := transmission.acknowledged
        messages := transmission.messages
        controls := transmission.controls ++ [(wsPong, payload)] } := by
    unfold Transmission.step Sender.step
    rw [if_neg hopen, if_neg hopen]
    simp only [hpong, SenderEvent.bytesAcked, SenderEvent.messages, SenderEvent.controls,
      List.append_nil, Nat.add_zero]
  -- the pong is still in front, and is sent again
  have hmessage : Sender.queueMessage (.new opcode data) second
      { transmission.sender with
        controlQueue := [pongSent payload]
        wire := transmission.sender.wire ++ pongBytes payload hpayload } =
      { status := .connected
        controlQueue := [pongSent payload]
        messageQueue := [.new opcode data]
        wire :=
          transmission.sender.wire ++ pongBytes payload hpayload ++
            pongBytes payload hpayload } := by
    unfold Sender.queueMessage Sender.runIf
    have hsend : second.canSend = true := decide_eq_true (by omega)
    rw [if_neg (not_not_intro hconnected), if_neg (by rw [hmessages]; decide), if_pos hsend]
    refine (runQueue_pong hsecond hsecondRoom hpayload (pongSent payload) rfl rfl ?_ ?_).trans ?_
    · simp [Sender.dropFinished, hmessages, AsyncWebSocketMultiMessage.finished,
        AsyncWebSocketMultiMessage.new]
    · simp [Sender.betweenFrames, hmessages, AsyncWebSocketMultiMessage.betweenFrames,
        AsyncWebSocketMultiMessage.new]
    · simp only [hconnected, hmessages, List.nil_append]
  rw [hfirstStep]
  unfold Transmission.step Sender.step
  rw [if_neg hopen, if_neg hopen]
  exact ⟨hmessage, rfl⟩

/-- The acknowledgement silences the client. -/
theorem mute_pinged (hidle : transmission.Idle) {payload : List UInt8}
    (hpayload : payload.length ≤ 125) (opcode : UInt8) {data : List UInt8} (hdata : data ≠ [])
    {first second : Socket} (hfirst : first.Healthy) (hfirstRoom : 135 ≤ first.room.toNat)
    (hsecond : second.Healthy) (hsecondRoom : 135 ≤ second.room.toNat) (third : Socket) :
    (transmission.pinged payload opcode data first second third).Mute ∧
      (transmission.pinged payload opcode data first second third).sender.wire =
        transmission.sender.wire ++ pongBytes payload hpayload ++ pongBytes payload hpayload := by
  obtain ⟨hsender, hacknowledged⟩ :=
    pinged_sent hidle hpayload opcode data hfirst hfirstRoom hsecond hsecondRoom
  have hlen : (pongSent payload).len.toNat = payload.length + 2 := by
    have hkept : (pongSent payload).data = payload := List.take_of_length_le hpayload
    rw [AsyncWebSocketControl.toNat_len (hkept.symm ▸ hpayload), hkept]
  have hacked : (UInt16.ofNat (2 * (payload.length + 2))).toNat =
      2 * (payload.length + 2) := by
    rw [UInt16.toNat_ofNat', Nat.mod_eq_of_lt (by omega)]
  -- the length of one pong is left over for the message
  have hleft : (UInt16.ofNat (2 * (payload.length + 2))).toUInt32 -
      (pongSent payload).len.toUInt32 ≠ 0 := by
    intro hnothing
    have hequal := UInt32.sub_add_cancel
      (UInt16.ofNat (2 * (payload.length + 2))).toUInt32 (pongSent payload).len.toUInt32
    rw [hnothing, UInt32.zero_add] at hequal
    have hnat := congrArg UInt32.toNat hequal
    rw [UInt8.toNat_toUInt32, UInt16.toNat_toUInt32, hlen, hacked] at hnat
    omega
  generalize hlate : (UInt16.ofNat (2 * (payload.length + 2))).toUInt32 -
    (pongSent payload).len.toUInt32 = late at hleft
  have hlength : ¬ (data.length ≤ 0 ∧ 0 ≤ late) := by
    rintro ⟨hnone, -⟩
    exact hdata (List.eq_nil_of_length_eq_zero (Nat.le_zero.mp hnone))
  -- which has sent nothing yet, so it waits for bytes that never come
  have hfront : (AsyncWebSocketMultiMessage.new opcode data).acknowledge late =
      { AsyncWebSocketMultiMessage.new opcode data with acked := late } := by
    unfold AsyncWebSocketMultiMessage.acknowledge AsyncWebSocketMultiMessage.new
    simp only [UInt32.zero_add, if_neg hlength]
  have hack : Sender.onAck (UInt16.ofNat (2 * (payload.length + 2))).toUInt32 third
      { status := .connected
        controlQueue := [pongSent payload]
        messageQueue := [.new opcode data]
        wire :=
          transmission.sender.wire ++ pongBytes payload hpayload ++ pongBytes payload hpayload } =
      { status := .connected
        controlQueue := []
        messageQueue := [{ AsyncWebSocketMultiMessage.new opcode data with acked := late }]
        wire :=
          transmission.sender.wire ++ pongBytes payload hpayload ++
            pongBytes payload hpayload } := by
    refine Eq.trans ?_ (runQueue_of_mute third rfl rfl hleft)
    unfold Sender.onAck
    have hfinished : (pongSent payload).finished = true := rfl
    simp only [hlate, hfinished, if_true, Sender.acknowledgeFront, hfront, if_pos hleft]
    rfl
  have hopen : ((transmission.step (.control wsPong payload first)).step
      (.message opcode data second)).sender.status ≠ .disconnected := by
    rw [hsender]
    exact (by decide : AwsClientStatus.connected ≠ AwsClientStatus.disconnected)
  have hlast : (transmission.pinged payload opcode data first second third).sender =
      { status := .connected
        controlQueue := []
        messageQueue := [{ AsyncWebSocketMultiMessage.new opcode data with acked := late }]
        wire :=
          transmission.sender.wire ++ pongBytes payload hpayload ++ pongBytes payload hpayload } ∧
      (transmission.pinged payload opcode data first second third).acknowledged =
        transmission.acknowledged + 2 * (payload.length + 2) := by
    unfold pinged
    generalize (transmission.step (.control wsPong payload first)).step
      (.message opcode data second) = sent at hsender hacknowledged hopen
    unfold Transmission.step Sender.step
    rw [if_neg hopen, if_neg hopen, ← hack, hsender, hacknowledged]
    exact ⟨rfl, congrArg _ hacked⟩
  obtain ⟨hend, hcounted⟩ := hlast
  have hbefore := hidle.acknowledged
  refine ⟨⟨?_, ?_⟩, ?_⟩
  · unfold inFlight
    rw [hend, hcounted]
    simp only [List.length_append, length_pongBytes]
    omega
  · rw [hend]
    exact ⟨_, [], rfl, rfl, hleft⟩
  · rw [hend]

/-- **A ping at the wrong moment.** An idle client is pinged, a message is queued for it before
the pong has been acknowledged, both with room for a control frame, and the peer acknowledges
in one go what has been sent: the pong, twice.  From then on the client gets no byte, whatever
happens. -/
theorem pinged_silent (hidle : transmission.Idle) {payload : List UInt8}
    (hpayload : payload.length ≤ 125) (opcode : UInt8) {data : List UInt8} (hdata : data ≠ [])
    {first second : Socket} (hfirst : first.Healthy) (hfirstRoom : 135 ≤ first.room.toNat)
    (hsecond : second.Healthy) (hsecondRoom : 135 ≤ second.room.toNat) (third : Socket)
    {events : List SenderEvent}
    (hproper : Run.Along step Proper
      (transmission.pinged payload opcode data first second third) events) :
    ((transmission.step (.control wsPong payload first)).step
        (.message opcode data second)).inFlight = 2 * (payload.length + 2) ∧
      (events.foldl step
          (transmission.pinged payload opcode data first second third)).sender.wire =
        transmission.sender.wire ++ pongBytes payload hpayload ++ pongBytes payload hpayload := by
  obtain ⟨hsender, hacknowledged⟩ :=
    pinged_sent hidle hpayload opcode data hfirst hfirstRoom hsecond hsecondRoom
  obtain ⟨hmute, hwire⟩ :=
    mute_pinged hidle hpayload opcode hdata hfirst hfirstRoom hsecond hsecondRoom third
  refine ⟨?_, (mute_run hmute hproper).2.trans hwire⟩
  have hbefore := hidle.acknowledged
  unfold inFlight
  rw [hsender, hacknowledged]
  simp only [List.length_append, length_pongBytes]
  omega

/-- The pong to a ping of three bytes goes out twice, and then nothing does. -/
theorem ping_silences :
    Idle fresh ∧
      (((Transmission.step fresh (.control wsPong [1, 2, 3] .roomy)).step
          (.message wsBinary [9] .roomy)).inFlight = 2 * (3 + 2) ∧
        ([SenderEvent.message wsBinary [8] .roomy, .poll .roomy].foldl step
            (fresh.pinged [1, 2, 3] wsBinary [9] .roomy .roomy .roomy)).sender.wire =
          [] ++ pongBytes [1, 2, 3] (by decide) ++ pongBytes [1, 2, 3] (by decide)) :=
  have hidle : Idle fresh := ⟨rfl, rfl, rfl, rfl⟩
  ⟨hidle, pinged_silent hidle (by decide) wsBinary (List.cons_ne_nil 9 []) (by decide) (by decide)
    (by decide) (by decide) .roomy (by decide)⟩

end Transmission

end Ph5Firmware
