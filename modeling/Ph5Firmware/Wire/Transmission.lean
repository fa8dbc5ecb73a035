import Ph5Firmware.Library.Runs
import Ph5Firmware.Wire.MessageQueue

/-!
# What a WebSocket client is sent

A `Transmission` is a client with what has been queued for it and how much of what has been
sent the peer has acknowledged.  The code has no notion of the second; it relies on the two
to match, and they match as long as nothing is counted for the wrong frame (`Orderly`).

`Sound` is the invariant of orderly runs: one frame at most is on the way, and the queues say
what the frames on the wire have left over.  It is kept by

* sending a frame: `Sound.sendControl`, `Sound.sendMessage`, and with them `Sound.runQueue`;
* queueing: `Sound.queueControl`, `Sound.queueMessage`;
* an acknowledgement: `Sound.onAck_cases`.

`transmission_carries` is what a peer can tell from it.
-/

namespace Ph5Firmware

/-! ## What a run is given -/

namespace SenderEvent

def socket : SenderEvent → Socket
  | .message _ _ socket | .control _ _ socket | .close socket | .closing _ socket
  | .acked _ socket | .poll socket => socket

/-- The message that is queued, with its tag; an empty one is never sent. -/
def messages (sender : Sender) : SenderEvent → List (UInt8 × List UInt8)
  | .message opcode data _ =>
      if sender.accepts && !data.isEmpty then [(opcode &&& 0x07, data)] else []
  | _ => []

def controls (sender : Sender) : SenderEvent → List (UInt8 × List UInt8)
  | .control opcode data _ => [(opcode, data)]
  | .close _ => if sender.status = .connected then [(wsDisconnect, [])] else []
  | .closing data _ => if sender.status = .disconnecting then [] else [(wsDisconnect, data)]
  | _ => []

def bytesAcked : SenderEvent → ℕ
  | .acked len _ => len.toNat
  | _ => 0

/-- The queue is run, other than on an acknowledgement. -/
def runs (sender : Sender) : SenderEvent → Bool
  | .message _ _ socket | .close socket => sender.status == .connected && socket.canSend
  | .control _ _ socket => socket.canSend
  | .closing _ socket => sender.status != .disconnecting && socket.canSend
  | .poll socket =>
      socket.canSend && !(sender.controlQueue.isEmpty && sender.messageQueue.isEmpty)
  | .acked _ _ => false

end SenderEvent

/-- A client, with what it has been given to send and what the peer has acknowledged. -/
structure Transmission where
  sender : Sender
  acknowledged : ℕ
  messages : List (UInt8 × List UInt8)
  controls : List (UInt8 × List UInt8)

namespace Transmission

def fresh : Transmission :=
  { sender := .fresh, acknowledged := 0, messages := [], controls := [] }

/-- The bytes on the wire that the peer has not acknowledged. -/
def inFlight (transmission : Transmission) : ℕ :=
  transmission.sender.wire.length - transmission.acknowledged

def step (transmission : Transmission) (event : SenderEvent) : Transmission :=
  if transmission.sender.status = .disconnected then transmission
  else
    { sender := transmission.sender.step event
      acknowledged := transmission.acknowledged + event.bytesAcked
      messages := transmission.messages ++ event.messages transmission.sender
      controls := transmission.controls ++ event.controls transmission.sender }

/-- What the callers and the connection promise: opcodes of their kind, messages that
fit into the memory, control frames that fit into theirs, acknowledgements of bytes that
have been sent. -/
def Proper (transmission : Transmission) : SenderEvent → Prop
  | .message opcode data _ => opcode &&& 0x07 ≠ 0 ∧ data.length < 2 ^ 30
  | .control opcode data _ => 8 ≤ opcode ∧ opcode < 16 ∧ data.length ≤ 125
  | .closing data _ => data.length ≤ 125
  | .acked len _ => 0 < len.toNat ∧ len.toNat ≤ transmission.inFlight
  | .close _ | .poll _ => True

instance (transmission : Transmission) (event : SenderEvent) :
    Decidable (transmission.Proper event) :=
  match event with
  | .message _ _ _ | .control _ _ _ | .acked _ _ => inferInstanceAs (Decidable (_ ∧ _))
  | .closing _ _ => inferInstanceAs (Decidable (_ ≤ _))
  | .close _ | .poll _ => .isTrue trivial

/-- While a control frame awaits its acknowledgement, the queue is not run, and the
acknowledgement is for that frame and no other byte. -/
def Orderly (transmission : Transmission) (event : SenderEvent) : Prop :=
  ∀ control ∈ transmission.sender.controlQueue.head?, control.finished = true →
    event.runs transmission.sender = false ∧
      (event.bytesAcked = 0 ∨ event.bytesAcked = control.len.toNat)

/-- What a run owes to its events, one by one. -/
def Allowed (transmission : Transmission) (event : SenderEvent) : Prop :=
  transmission.Proper event ∧ event.socket.Healthy ∧ transmission.Orderly event

instance (transmission : Transmission) (event : SenderEvent) :
    Decidable (transmission.Allowed event) :=
  have : Decidable (transmission.Orderly event) := inferInstanceAs (Decidable
    (∀ control ∈ transmission.sender.controlQueue.head?, control.finished = true →
      event.runs transmission.sender = false ∧
        (event.bytesAcked = 0 ∨ event.bytesAcked = control.len.toNat)))
  inferInstanceAs (Decidable (_ ∧ _))

end Transmission

/-! ## The invariant -/

namespace Transmission

/-- The bytes of the message in front that are on the way. -/
def unacked (transmission : Transmission) : ℕ :=
  if transmission.sender.waiting then 0 else transmission.inFlight

/-- The bytes on the wire are these frames.  A peer that puts the fragments together has
some messages, `done`, and part of the next; what else has been queued still waits.  Only
bytes of the last frame are not acknowledged. -/
structure Carries (transmission : Transmission) (frames : List WireFrame) : Prop where
  wire : transmission.sender.wire = frames.flatMap WireFrame.bytes
  inbox : ∃ done, Reassembly.reassemble (frames.filterMap WireFrame.fragment) =
      some ⟨done, transmission.sender.messageQueue.head?.bind AsyncWebSocketMultiMessage.begun⟩ ∧
    transmission.messages = done ++
      (transmission.sender.messageQueue.filter AsyncWebSocketMultiMessage.unsent).map
        AsyncWebSocketMultiMessage.content
  controls : transmission.controls = frames.filterMap WireFrame.controlFrame ++
    (transmission.sender.controlQueue.filter fun control => !control.finished).map
      fun control => (control.opcode, control.data)
  last : transmission.inFlight = 0 ∨
    ∃ earlier frame, frames = earlier ++ [frame] ∧ frame.bytes.length < 2 ^ 16 ∧
      transmission.inFlight ≤ frame.bytes.length
  bounded : transmission.sender.messageQueue.length ≤ wsMaxQueuedMessages

/-- The invariant of orderly runs. -/
structure Sound (transmission : Transmission) (frames : List WireFrame) : Prop
    extends transmission.Carries frames where
  acknowledged : transmission.acknowledged ≤ transmission.sender.wire.length
  queue : InTurn transmission.unacked transmission.sender.messageQueue
  awaited : ∀ control ∈ transmission.sender.controlQueue.head?, control.finished = true →
    transmission.inFlight = control.len.toNat
  later : ∀ control ∈ transmission.sender.controlQueue.tail, control.finished = false
  control : ∀ control ∈ transmission.sender.controlQueue,
    8 ≤ control.opcode ∧ control.opcode < 16 ∧ control.data.length ≤ 125

/-- The same history with another sender. -/
def withSender (sender : Sender) (transmission : Transmission) : Transmission :=
  { transmission with sender := sender }

end Transmission

/-! ## Sending -/

namespace Transmission

variable {transmission : Transmission} {frames : List WireFrame} {socket : Socket}

theorem waiting_iff (sender : Sender) :
    sender.waiting = true ↔ ∃ control ∈ sender.controlQueue.head?, control.finished = true := by
  unfold Sender.waiting
  rw [Option.any_eq_true]
  rfl

theorem Sound.dropFinished (hsound : transmission.Sound frames) :
    (transmission.withSender transmission.sender.dropFinished).Sound frames := by
  obtain ⟨hturn, hunsent, hbegun, -⟩ := hsound.queue.dropFinished
  refine { hsound with inbox := ?_, queue := hturn, bounded := ?_ }
  · obtain ⟨done, hinbox, hmessages⟩ := hsound.inbox
    refine ⟨done, ?_, ?_⟩
    · simpa only [withSender, Sender.dropFinished, hbegun] using hinbox
    · simpa only [withSender, Sender.dropFinished, hunsent] using hmessages
  · exact (List.dropWhile_sublist _).length_le.trans hsound.bounded

/-- Nothing is on the way when a frame may be sent. -/
theorem Sound.inFlight_eq_zero (hsound : transmission.Sound frames)
    (hwaiting : transmission.sender.waiting = false)
    (hbetween : transmission.sender.betweenFrames = true) : transmission.inFlight = 0 := by
  have hunacked := hsound.queue.unacked_eq_zero hbetween
  rwa [unacked, hwaiting] at hunacked

/-- One more frame, and nothing else on the way. -/
theorem inFlight_append {sender : Sender} {frame : WireFrame}
    (hwire : sender.wire = transmission.sender.wire ++ frame.bytes)
    (hacknowledged : transmission.acknowledged ≤ transmission.sender.wire.length)
    (hidle : transmission.inFlight = 0) :
    (transmission.withSender sender).inFlight = frame.bytes.length := by
  have hlength := congrArg List.length hwire
  rw [List.length_append] at hlength
  unfold inFlight at hidle ⊢
  show sender.wire.length - transmission.acknowledged = frame.bytes.length
  omega

theorem Sound.sendControl (hsound : transmission.Sound frames) (hhealthy : socket.Healthy)
    (hwaiting : transmission.sender.waiting = false)
    (hsends : transmission.sender.sendsControl socket = true) :
    ∃ frame, (transmission.withSender (transmission.sender.sendControl socket)).Sound
      (frames ++ [frame]) := by
  unfold Sender.sendsControl at hsends
  cases hqueue : transmission.sender.controlQueue with
  | nil => simp [hqueue] at hsends
  | cons control rest =>
      rw [hqueue] at hsends
      obtain ⟨hbetween, hwindow⟩ := Bool.and_eq_true_iff.mp hsends
      have hunsent : control.finished = false := by
        simpa [Sender.waiting, hqueue] using hwaiting
      obtain ⟨hopcode, hlt, hdata⟩ := hsound.control control (by rw [hqueue]; exact .head _)
      obtain ⟨hlength, hsend⟩ :=
        AsyncWebSocketControl.send_plain hhealthy hlt hdata (of_decide_eq_true hwindow)
      -- nothing is on the way, so only the new frame will be
      have hidle := hsound.inFlight_eq_zero hwaiting hbetween
      have hbytes := Socket.length_plain true hlt hlength
      rw [if_pos (by omega), ← AsyncWebSocketControl.toNat_len hdata] at hbytes
      obtain ⟨hfragment, hcontrol⟩ :=
        WireFrame.controlFrame_plain true hlt hlength (UInt8.not_lt.mpr hopcode)
      generalize WireFrame.plain true control.opcode control.data hlt hlength = frame
        at hsend hbytes hfragment hcontrol
      have hsender : transmission.sender.sendControl socket =
          { transmission.sender with
            controlQueue := { control with finished := true } :: rest
            wire := transmission.sender.wire ++ frame.bytes } := by
        unfold Sender.sendControl
        simp only [hqueue, hsend]
      have hflight := inFlight_append (congrArg Sender.wire hsender) hsound.acknowledged hidle
      have hqueued := hsound.queue
      rw [unacked, hwaiting, if_neg Bool.false_ne_true, hidle] at hqueued
      rw [hsender] at hflight ⊢
      refine ⟨frame, ?_⟩
      exact
        { wire := by
            rw [List.flatMap_append, ← hsound.wire, List.flatMap_singleton]
            rfl
          inbox := by
            rw [List.filterMap_append, List.filterMap_cons_none hfragment, List.filterMap_nil,
              List.append_nil]
            exact hsound.inbox
          controls := by
            have hcontrols := hsound.controls
            rw [hqueue, List.filter_cons_of_pos (by simp [hunsent])] at hcontrols
            rw [List.filterMap_append, List.filterMap_cons_some hcontrol, List.filterMap_nil,
              List.append_assoc]
            exact hcontrols
          acknowledged := by
            show transmission.acknowledged ≤ (transmission.sender.wire ++ frame.bytes).length
            rw [List.length_append]
            exact hsound.acknowledged.trans (Nat.le_add_right _ _)
          last := .inr ⟨frames, frame, rfl,
            hbytes.trans_lt (lt_trans (UInt8.toNat_lt _) (by decide)), hflight.le⟩
          queue := hqueued
          awaited := by
            rintro _ ⟨⟩ _
            exact hflight.trans hbytes
          later := by
            intro later hlater
            exact hsound.later later (by rw [hqueue]; exact hlater)
          control := by
            intro other hother
            rcases List.mem_cons.mp hother with rfl | hother
            · exact ⟨hopcode, hlt, hdata⟩
            · exact hsound.control other (by rw [hqueue]; exact List.mem_cons_of_mem _ hother)
          bounded := hsound.bounded }

/-- A message of no bytes is done without a frame. -/
theorem Sound.sendEmpty (hsound : transmission.Sound frames)
    {message : AsyncWebSocketMultiMessage} {rest : List AsyncWebSocketMultiMessage}
    (hqueue : transmission.sender.messageQueue = message :: rest)
    (hempty : message.sent = message.data.length) (hunacked : transmission.unacked = 0)
    (hrest : ∀ later ∈ rest, later.Waits) :
    (transmission.withSender
      { transmission.sender with
        messageQueue := { message with status := .sent } :: rest
        wire := transmission.sender.wire ++ [] }).Sound frames := by
  have hwire : transmission.sender.wire ++ [] = transmission.sender.wire := List.append_nil _
  rw [hwire]
  refine { hsound with inbox := ?_, bounded := ?_, queue := ?_ }
  · have hunsent : ¬ message.unsent = true := by
      simp [AsyncWebSocketMultiMessage.unsent, hempty]
    obtain ⟨done, hinbox, hmessages⟩ := hsound.inbox
    rw [hqueue] at hinbox hmessages
    rw [List.filter_cons_of_neg hunsent] at hmessages
    refine ⟨done, hinbox, ?_⟩
    show transmission.messages = _
    rw [hmessages]
    have hnext : ¬ AsyncWebSocketMultiMessage.unsent { message with status := .sent } = true :=
      hunsent
    exact congrArg _ (congrArg _ (List.filter_cons_of_neg hnext).symm)
  · have hbounded := hsound.bounded
    rw [hqueue] at hbounded
    exact hbounded
  · exact .finished (by simp) hempty hunacked hrest

theorem Sound.sendFragment (hsound : transmission.Sound frames) (hhealthy : socket.Healthy)
    (hwaiting : transmission.sender.waiting = false)
    (hwindow : 0 < socket.webSocketSendFrameWindow)
    {message : AsyncWebSocketMultiMessage} {rest : List AsyncWebSocketMultiMessage}
    (hqueue : transmission.sender.messageQueue = message :: rest)
    (hfront : message.Under 0) (hleft : message.sent < message.data.length)
    (hidle : transmission.inFlight = 0) (hrest : ∀ later ∈ rest, later.Waits) :
    ∃ frame, (transmission.withSender
      { transmission.sender with
        messageQueue := (message.send socket).1 :: rest
        wire := transmission.sender.wire ++ (message.send socket).2 }).Sound
      (frames ++ [frame]) := by
  have hbetween : message.acked = message.ack :=
    UInt32.toNat_inj.mp (by have hacked := hfront.acked; omega)
  have hnext : message.nextOpcode < 8 := by
    unfold AsyncWebSocketMultiMessage.nextOpcode
    split_ifs
    · exact hfront.opcode_lt
    · decide
  have hopcode : message.nextOpcode < 16 := UInt8.lt_trans hnext (by decide)
  obtain ⟨count, hcount, hpositive, hsmall, hwithin, hsend⟩ :=
    AsyncWebSocketMultiMessage.send_fragment hhealthy hwindow hfront.sending hbetween hopcode hleft
  have hlength : ((message.data.drop message.sent).take count).length = count := by
    rw [List.length_take, List.length_drop]
    omega
  have hbytes := Socket.length_plain (message.sent + count == message.data.length) hopcode hcount
  rw [hlength, ← AsyncWebSocketMultiMessage.toNat_framed (hlength ▸ hcount)] at hbytes
  obtain ⟨hfragment, hcontrol⟩ := WireFrame.fragment_plain
    (message.sent + count == message.data.length) hopcode hcount hnext
  -- only the first fragment of a message carries its opcode
  have hopens : (if message.nextOpcode = 0 then none else some message.nextOpcode) =
      if message.sent = 0 then some message.opcode else none := by
    unfold AsyncWebSocketMultiMessage.nextOpcode
    by_cases hfirst : message.sent = 0
    · simp [hfirst, hfront.opcode_ne]
    · simp [hfirst]
  rw [hopens] at hfragment
  generalize WireFrame.plain (message.sent + count == message.data.length) message.nextOpcode
    ((message.data.drop message.sent).take count) hopcode hcount = frame
    at hsend hbytes hfragment hcontrol
  rw [hsend]
  have hflight := @inFlight_append transmission
    { transmission.sender with
      messageQueue := message.after count :: rest
      wire := transmission.sender.wire ++ frame.bytes } frame rfl hsound.acknowledged hidle
  obtain ⟨done, hinbox, hmessages⟩ := hsound.inbox
  refine ⟨frame, ?_⟩
  exact
    { wire := by
        rw [List.flatMap_append, ← hsound.wire, List.flatMap_singleton]
        rfl
      inbox := by
        obtain ⟨more, haccept, hcontent⟩ :=
          AsyncWebSocketMultiMessage.accept_nextFragment hleft hpositive hwithin done
        have hunsent : message.unsent = true := decide_eq_true hleft
        rw [hqueue] at hinbox hmessages
        rw [List.filter_cons_of_pos hunsent, List.map_cons] at hmessages
        rw [List.filterMap_append, List.filterMap_cons_some hfragment, List.filterMap_nil,
          Reassembly.reassemble_concat, hinbox]
        refine ⟨done ++ more, haccept, ?_⟩
        calc transmission.messages
            = done ++ ([message.content] ++
                (rest.filter AsyncWebSocketMultiMessage.unsent).map
                  AsyncWebSocketMultiMessage.content) := hmessages
          _ = done ++ more ++ (([message.after count] ++ rest).filter
                AsyncWebSocketMultiMessage.unsent).map AsyncWebSocketMultiMessage.content := by
              rw [hcontent, List.filter_append, List.map_append]
              simp only [List.append_assoc]
      controls := by
        rw [List.filterMap_append, List.filterMap_cons_none hcontrol, List.filterMap_nil,
          List.append_nil]
        exact hsound.controls
      acknowledged := by
        show transmission.acknowledged ≤ (transmission.sender.wire ++ frame.bytes).length
        rw [List.length_append]
        exact hsound.acknowledged.trans (Nat.le_add_right _ _)
      last := by
        refine .inr ⟨frames, frame, rfl, ?_, hflight.le⟩
        rw [hbytes, AsyncWebSocketMultiMessage.toNat_framed (hlength ▸ hcount)]
        split_ifs <;> omega
      queue := by
        have hunacked : (transmission.withSender
            { transmission.sender with
              messageQueue := message.after count :: rest
              wire := transmission.sender.wire ++ frame.bytes }).unacked =
            (AsyncWebSocketMultiMessage.framed count).toNat := by
          rw [← hbytes, ← hflight]
          exact if_neg (by rw [Bool.not_eq_true]; exact hwaiting)
        rw [hunacked]
        exact .under (hfront.after hpositive (hlength ▸ hcount) hwithin) hrest
      awaited := by
        intro control hcontrol hfinished
        have hwaits : transmission.sender.waiting = true :=
          (waiting_iff _).mpr ⟨control, hcontrol, hfinished⟩
        rw [hwaiting] at hwaits
        exact absurd hwaits Bool.false_ne_true
      later := hsound.later
      control := hsound.control
      bounded := by
        have hbounded := hsound.bounded
        rw [hqueue] at hbounded
        exact hbounded }

theorem Sound.sendMessage (hsound : transmission.Sound frames) (hhealthy : socket.Healthy)
    (hwaiting : transmission.sender.waiting = false)
    (hsending : ∀ message ∈ transmission.sender.messageQueue.head?, message.status = .sending) :
    ∃ more, (transmission.withSender (transmission.sender.sendMessage socket)).Sound
      (frames ++ more) := by
  have hkept : (transmission.withSender transmission.sender).Sound (frames ++ []) := by
    rw [List.append_nil]
    exact hsound
  unfold Sender.sendMessage
  cases hqueue : transmission.sender.messageQueue with
  | nil => exact ⟨[], hkept⟩
  | cons message rest =>
      simp only
      split_ifs with hsends
      · obtain ⟨hbetween, hwindow⟩ := Bool.and_eq_true_iff.mp hsends
        have hfree : transmission.sender.betweenFrames = true := by
          simpa [Sender.betweenFrames, hqueue] using hbetween
        have hidle := hsound.inFlight_eq_zero hwaiting hfree
        have hunacked : transmission.unacked = 0 := by
          rw [unacked, hwaiting, hidle]
          rfl
        have hqueued := hsound.queue
        rw [hqueue, hunacked] at hqueued
        cases hqueued with
        | finished hstatus =>
            exact absurd (hsending message (by rw [hqueue]; rfl)) hstatus
        | under hfront hrest =>
            -- a message with nothing left to send ends without a frame
            by_cases hempty : message.sent = message.data.length
            · have hsend : message.send socket = ({ message with status := .sent }, []) := by
                have hequal : message.acked = message.ack := by
                  simpa [AsyncWebSocketMultiMessage.betweenFrames] using hbetween
                unfold AsyncWebSocketMultiMessage.send
                rw [if_neg (not_not_intro hfront.sending),
                  if_neg (by rw [hequal]; exact UInt32.lt_irrefl _), if_pos hempty]
              rw [hsend]
              have hnext := hsound.sendEmpty hqueue hempty hunacked hrest
              exact ⟨[], (List.append_nil frames).symm ▸ hnext⟩
            · have hleft : message.sent < message.data.length :=
                lt_of_le_of_ne hfront.sent hempty
              obtain ⟨frame, hnext⟩ := hsound.sendFragment hhealthy hwaiting
                (of_decide_eq_true hwindow) hqueue hfront hleft hidle hrest
              exact ⟨[frame], hnext⟩
      · exact ⟨[], hkept⟩

theorem Sound.runQueue (hsound : transmission.Sound frames) (hhealthy : socket.Healthy)
    (hwaiting : transmission.sender.waiting = false) :
    ∃ more, (transmission.withSender (transmission.sender.runQueue socket)).Sound
      (frames ++ more) := by
  obtain ⟨-, -, -, hsending⟩ := hsound.queue.dropFinished
  have hdropped := hsound.dropFinished
  unfold Sender.runQueue
  simp only
  split_ifs with hsends
  · obtain ⟨frame, hnext⟩ := hdropped.sendControl hhealthy hwaiting hsends
    exact ⟨[frame], hnext⟩
  · exact hdropped.sendMessage hhealthy hwaiting hsending

theorem Sound.runIf (hsound : transmission.Sound frames) {enabled : Bool}
    (hhealthy : socket.Healthy)
    (hidle : enabled = true → transmission.sender.waiting = false) :
    ∃ more, (transmission.withSender (transmission.sender.runIf enabled socket)).Sound
      (frames ++ more) := by
  unfold Sender.runIf
  split_ifs with henabled
  · exact hsound.runQueue hhealthy (hidle henabled)
  · exact ⟨[], (List.append_nil frames).symm ▸ hsound⟩

/-! ## Queueing -/

theorem waiting_append (sender : Sender) (opcode : UInt8) (data : List UInt8) :
    Sender.waiting
        { sender with controlQueue := sender.controlQueue ++ [.new opcode data] } =
      sender.waiting := by
  unfold Sender.waiting
  cases sender.controlQueue <;> rfl

theorem Sound.queueControl (hsound : transmission.Sound frames) (hhealthy : socket.Healthy)
    (hidle : socket.canSend = true → transmission.sender.waiting = false)
    {opcode : UInt8} {data : List UInt8}
    (hproper : 8 ≤ opcode ∧ opcode < 16 ∧ data.length ≤ 125) :
    ∃ more, Sound
      { transmission with
        sender := transmission.sender.queueControl (.new opcode data) socket
        controls := transmission.controls ++ [(opcode, data)] } (frames ++ more) := by
  obtain ⟨hkind, hopcode, hdata⟩ := hproper
  -- the data fit into the control frame
  have hkept : (AsyncWebSocketControl.new opcode data).data = data :=
    List.take_of_length_le hdata
  have hwaiting := waiting_append transmission.sender opcode data
  have hqueued : Sound
      { transmission with
        sender := { transmission.sender with
          controlQueue := transmission.sender.controlQueue ++ [.new opcode data] }
        controls := transmission.controls ++ [(opcode, data)] } frames := by
    refine { hsound with controls := ?_, queue := ?_, awaited := ?_, later := ?_, control := ?_ }
    · have hunsent : ([.new opcode data] : List AsyncWebSocketControl).filter
          (fun control => !control.finished) = [.new opcode data] := rfl
      simp only [hsound.controls, List.filter_append, List.map_append, List.append_assoc,
        hunsent, List.map_cons, List.map_nil, hkept]
      rfl
    · unfold unacked
      rw [hwaiting]
      exact hsound.queue
    · intro control hcontrol hfinished
      cases hqueue : transmission.sender.controlQueue with
      | nil =>
          rw [hqueue] at hcontrol
          obtain rfl := Option.some.inj hcontrol
          exact absurd hfinished Bool.false_ne_true
      | cons first rest =>
          rw [hqueue] at hcontrol
          exact hsound.awaited control (by rw [hqueue]; exact hcontrol) hfinished
    · intro control hcontrol
      cases hqueue : transmission.sender.controlQueue with
      | nil =>
          rw [hqueue] at hcontrol
          exact absurd hcontrol List.not_mem_nil
      | cons first rest =>
          rw [hqueue] at hcontrol
          rcases List.mem_append.mp hcontrol with hbefore | hnew
          · exact hsound.later control (by rw [hqueue]; exact hbefore)
          · rw [List.mem_singleton.mp hnew]
            rfl
    · intro control hcontrol
      rcases List.mem_append.mp hcontrol with hbefore | hnew
      · exact hsound.control control hbefore
      · rw [List.mem_singleton.mp hnew]
        exact ⟨hkind, hopcode, hkept.symm ▸ hdata⟩
  refine hqueued.runIf hhealthy ?_
  intro hsend
  exact hwaiting.trans (hidle hsend)

theorem Sound.queueMessage (hsound : transmission.Sound frames) (hhealthy : socket.Healthy)
    (hidle : transmission.sender.status = .connected → socket.canSend = true →
      transmission.sender.waiting = false)
    {opcode : UInt8} {data : List UInt8} (hopcode : opcode &&& 0x07 ≠ 0)
    (hlength : data.length < 2 ^ 30) :
    ∃ more, Sound
      { transmission with
        sender := transmission.sender.queueMessage (.new opcode data) socket
        messages := transmission.messages ++
          if transmission.sender.accepts && !data.isEmpty then [(opcode &&& 0x07, data)]
          else [] } (frames ++ more) := by
  have hlow : opcode &&& 0x07 < 8 := by
    have hbound : (opcode &&& 0x07).toNat ≤ (0x07 : UInt8).toNat := by
      rw [UInt8.toNat_and]
      exact Nat.and_le_right
    exact UInt8.lt_iff_toNat_lt.mpr (Nat.lt_succ_of_le hbound)
  have hwaits : (AsyncWebSocketMultiMessage.new opcode data).Waits :=
    { length := hlength
      opcode_ne := hopcode
      opcode_lt := hlow
      sending := rfl
      sent := rfl
      ack := rfl
      acked := rfl }
  unfold Sender.queueMessage
  by_cases hstatus : transmission.sender.status = .connected
  · rw [if_neg (not_not_intro hstatus)]
    -- a message that finds the queue full is dropped, and the queue is run all the same
    by_cases hfull : wsMaxQueuedMessages ≤ transmission.sender.messageQueue.length
    · have hrefused : transmission.sender.accepts = false := by
        simp [Sender.accepts, hfull]
      rw [if_pos hfull, hrefused, Bool.false_and, if_neg Bool.false_ne_true, List.append_nil]
      exact hsound.runIf hhealthy (hidle hstatus)
    · have haccepted : transmission.sender.accepts = true := by
        simpa [Sender.accepts, hstatus] using hfull
      rw [if_neg hfull, haccepted, Bool.true_and]
      obtain ⟨hturn, hbegun⟩ := hsound.queue.append hwaits
      have hqueued : Sound
          { transmission with
            sender := { transmission.sender with
              messageQueue := transmission.sender.messageQueue ++ [.new opcode data] }
            messages := transmission.messages ++
              if !data.isEmpty then [(opcode &&& 0x07, data)] else [] } frames := by
        refine { hsound with inbox := ?_, queue := hturn, bounded := ?_ }
        · obtain ⟨done, hinbox, hmessages⟩ := hsound.inbox
          refine ⟨done, ?_, ?_⟩
          · simpa only [hbegun] using hinbox
          · have hunsent : ([AsyncWebSocketMultiMessage.new opcode data].filter
                AsyncWebSocketMultiMessage.unsent).map AsyncWebSocketMultiMessage.content =
                if !data.isEmpty then [(opcode &&& 0x07, data)] else [] := by
              cases data <;> rfl
            simp only [hmessages, List.filter_append, List.map_append, List.append_assoc, hunsent]
        · show (transmission.sender.messageQueue ++ [_]).length ≤ wsMaxQueuedMessages
          rw [List.length_append, List.length_singleton]
          omega
      exact hqueued.runIf hhealthy (hidle hstatus)
  · have hrefused : transmission.sender.accepts = false := by
      simp [Sender.accepts, hstatus]
    rw [if_pos hstatus, hrefused, Bool.false_and, if_neg Bool.false_ne_true, List.append_nil]
    exact ⟨[], (List.append_nil frames).symm ▸ hsound⟩

end Transmission

/-! ## Acknowledgements -/

namespace Transmission

variable {transmission : Transmission} {frames : List WireFrame} {socket : Socket}

/-- A control frame is acknowledged, in one piece. -/
theorem Sound.removeControl (hsound : transmission.Sound frames)
    {control : AsyncWebSocketControl} {rest : List AsyncWebSocketControl}
    (hqueue : transmission.sender.controlQueue = control :: rest)
    (hfinished : control.finished = true) (status : AwsClientStatus) {len : ℕ}
    (hlen : len = control.len.toNat) :
    Sound
        { transmission with
          sender := { transmission.sender with controlQueue := rest, status := status }
          acknowledged := transmission.acknowledged + len } frames ∧
      Sender.waiting { transmission.sender with controlQueue := rest, status := status } =
        false := by
  -- while the control frame is awaited, nothing else is on the way
  have hflight : transmission.inFlight = len :=
    (hsound.awaited control (by rw [hqueue]; rfl) hfinished).trans hlen.symm
  have hlater : ∀ later ∈ rest, later.finished = false := by
    intro later hlater
    exact hsound.later later (by rw [hqueue]; exact hlater)
  have hwaiting : Sender.waiting
      { transmission.sender with controlQueue := rest, status := status } = false := by
    unfold Sender.waiting
    cases rest with
    | nil => rfl
    | cons next rest => exact hlater next List.mem_cons_self
  have hbefore : transmission.unacked = 0 := by
    unfold unacked
    rw [(waiting_iff _).mpr ⟨control, by rw [hqueue]; rfl, hfinished⟩]
    rfl
  have hacknowledged := hsound.acknowledged
  unfold inFlight at hflight
  have hidle : transmission.sender.wire.length - (transmission.acknowledged + len) = 0 := by omega
  refine ⟨?_, hwaiting⟩
  refine { hsound with
    controls := ?_, acknowledged := ?_, last := .inl hidle, queue := ?_, awaited := ?_,
    later := ?_, control := ?_ }
  · have hcontrols := hsound.controls
    rw [hqueue, List.filter_cons_of_neg (by simp [hfinished])] at hcontrols
    exact hcontrols
  · show transmission.acknowledged + len ≤ transmission.sender.wire.length
    omega
  · unfold unacked inFlight
    rw [hwaiting, if_neg Bool.false_ne_true, hidle, ← hbefore]
    exact hsound.queue
  · intro next hnext hsent
    rw [hlater next (List.mem_of_mem_head? hnext)] at hsent
    exact absurd hsent Bool.false_ne_true
  · intro next hnext
    exact hlater next (List.mem_of_mem_tail hnext)
  · intro next hnext
    exact hsound.control next (by rw [hqueue]; exact List.mem_cons_of_mem _ hnext)

theorem acknowledgeFront_fields (len : UInt32) (sender : Sender) :
    (sender.acknowledgeFront len).controlQueue = sender.controlQueue ∧
      (sender.acknowledgeFront len).wire = sender.wire ∧
      ((sender.acknowledgeFront len).messageQueue = [] → sender.messageQueue = []) := by
  unfold Sender.acknowledgeFront
  cases hqueue : sender.messageQueue with
  | nil => exact ⟨rfl, rfl, fun _ => rfl⟩
  | cons message rest =>
      simp only
      split_ifs
      · exact ⟨rfl, rfl, by simp⟩
      · exact ⟨rfl, rfl, by simp [hqueue]⟩

/-- Bytes of the message in front are acknowledged. -/
theorem Sound.acknowledgeFront (hsound : transmission.Sound frames)
    (hwaiting : transmission.sender.waiting = false) {len : UInt32}
    (hlen : len.toNat ≤ transmission.inFlight) :
    Sound
      { transmission with
        sender := transmission.sender.acknowledgeFront len
        acknowledged := transmission.acknowledged + len.toNat } frames := by
  have hunacked : transmission.unacked = transmission.inFlight := by
    unfold unacked
    rw [hwaiting, if_neg Bool.false_ne_true]
  have hturn := hsound.queue
  rw [hunacked] at hturn
  -- an acknowledgement that a control frame has used up says nothing
  by_cases hzero : len = 0
  · have hsame : transmission.sender.acknowledgeFront len = transmission.sender := by
      unfold Sender.acknowledgeFront
      subst hzero
      cases transmission.sender.messageQueue <;> rfl
    rw [hsame, hzero]
    exact hsound
  · have hpositive : 0 < len.toNat := by
      refine Nat.pos_of_ne_zero fun hnothing => hzero ?_
      exact UInt32.toNat_inj.mp hnothing
    cases hqueue : transmission.sender.messageQueue with
    | nil =>
        rw [hqueue] at hturn
        cases hturn with
        | nothing hnothing => omega
    | cons message rest =>
        rw [hqueue] at hturn
        cases hturn with
        | finished _ _ hnothing _ => omega
        | under hfront hrest =>
            obtain ⟨hunsent, hbegun, hcontent⟩ := message.acknowledge_fields len
            have hacknowledged := hsound.acknowledged
            have hbounded := hsound.bounded
            have hnext := hfront.acknowledge hlen hrest
            have hflight : transmission.sender.wire.length -
                (transmission.acknowledged + len.toNat) = transmission.inFlight - len.toNat := by
              unfold inFlight
              omega
            unfold Sender.acknowledgeFront
            rw [hqueue]
            simp only [if_pos hzero]
            refine { hsound with
              inbox := ?_, last := ?_, bounded := ?_, acknowledged := ?_, queue := ?_,
              awaited := ?_ }
            · obtain ⟨done, hinbox, hmessages⟩ := hsound.inbox
              rw [hqueue] at hinbox hmessages
              refine ⟨done, ?_, ?_⟩
              · simpa only [List.head?_cons, Option.bind_some, hbegun] using hinbox
              · rw [hmessages]
                by_cases hleft : message.unsent = true
                · rw [List.filter_cons_of_pos hleft, List.filter_cons_of_pos (hunsent.trans hleft),
                    List.map_cons, List.map_cons, hcontent]
                · rw [List.filter_cons_of_neg hleft,
                    List.filter_cons_of_neg (by rw [hunsent]; exact hleft)]
            · unfold inFlight
              rw [hflight]
              rcases hsound.last with hnothing | ⟨earlier, frame, hframes, hframe, hwithin⟩
              · left
                omega
              · exact .inr ⟨earlier, frame, hframes, hframe, by omega⟩
            · rw [hqueue] at hbounded
              exact hbounded
            · show transmission.acknowledged + len.toNat ≤ transmission.sender.wire.length
              unfold inFlight at hlen
              omega
            · unfold unacked inFlight
              simp only
              rw [if_neg (by rw [Bool.not_eq_true]; exact hwaiting), hflight]
              exact hnext
            · intro control hcontrol hfinished
              have hwaits := (waiting_iff transmission.sender).mpr ⟨control, hcontrol, hfinished⟩
              rw [hwaiting] at hwaits
              exact absurd hwaits Bool.false_ne_true

/-- What an acknowledgement leaves before the queue is run. -/
inductive AckedTo (sender : Sender) (len : UInt32) : Sender → Prop where
  | control {control rest} (hqueue : sender.controlQueue = control :: rest)
      (hfinished : control.finished = true) (status : AwsClientStatus) :
      AckedTo sender len { sender with controlQueue := rest, status := status }
  | front : AckedTo sender len (sender.acknowledgeFront len)

/-- An acknowledgement is counted where it belongs; then the queue is run, unless the client
has been closed. -/
theorem Sound.onAck_cases (hsound : transmission.Sound frames) (socket : Socket)
    {len : UInt16} (hlen : len.toNat ≤ transmission.inFlight)
    (hwhole : ∀ control ∈ transmission.sender.controlQueue.head?, control.finished = true →
      len.toNat = control.len.toNat) :
    ∃ sender, AckedTo transmission.sender len.toUInt32 sender ∧
      Sound
        { transmission with
          sender := sender
          acknowledged := transmission.acknowledged + len.toNat } frames ∧
      sender.waiting = false ∧
      (transmission.sender.onAck len.toUInt32 socket = sender ∧ sender.status = .disconnected ∨
        transmission.sender.onAck len.toUInt32 socket = sender.runQueue socket) := by
  have hsize : len.toUInt32.toNat = len.toNat := UInt16.toNat_toUInt32 len
  cases hwaiting : transmission.sender.waiting with
  | true =>
      obtain ⟨control, hcontrol, hfinished⟩ := (waiting_iff _).mp hwaiting
      cases hqueue : transmission.sender.controlQueue with
      | nil =>
          rw [hqueue] at hcontrol
          cases hcontrol
      | cons first rest =>
          rw [hqueue] at hcontrol
          obtain rfl : first = control := Option.some.inj hcontrol
          have hlength := hwhole first (by rw [hqueue]; rfl) hfinished
          have hequal : len.toUInt32 = first.len.toUInt32 := by
            refine UInt32.toNat_inj.mp ?_
            rw [hsize, hlength, UInt8.toNat_toUInt32]
          have hnothing : len.toUInt32 - first.len.toUInt32 = 0 := by
            rw [hequal, UInt32.sub_self]
          have hsame : ∀ sender : Sender, sender.acknowledgeFront 0 = sender := by
            intro sender
            unfold Sender.acknowledgeFront
            cases sender.messageQueue <;> rfl
          have hack : transmission.sender.onAck len.toUInt32 socket =
              if transmission.sender.status = .disconnecting ∧ first.opcode = wsDisconnect then
                { transmission.sender with controlQueue := rest, status := .disconnected }
              else Sender.runQueue socket
                { transmission.sender with controlQueue := rest } := by
            unfold Sender.onAck
            rw [hqueue]
            simp only [hfinished, if_true, hnothing, hsame]
          by_cases hclosed :
              transmission.sender.status = .disconnecting ∧ first.opcode = wsDisconnect
          · obtain ⟨hremoved, hidle⟩ :=
              hsound.removeControl hqueue hfinished .disconnected hlength
            rw [if_pos hclosed] at hack
            exact ⟨_, .control hqueue hfinished .disconnected, hremoved, hidle, .inl ⟨hack, rfl⟩⟩
          · obtain ⟨hremoved, hidle⟩ :=
              hsound.removeControl hqueue hfinished transmission.sender.status hlength
            rw [if_neg hclosed] at hack
            exact ⟨_, .control hqueue hfinished _, hremoved, hidle, .inr hack⟩
  | false =>
      have hfront := hsound.acknowledgeFront hwaiting (hsize.le.trans hlen)
      have hcontrols := (acknowledgeFront_fields len.toUInt32 transmission.sender).1
      have hidle : (transmission.sender.acknowledgeFront len.toUInt32).waiting = false := by
        unfold Sender.waiting
        rw [hcontrols]
        exact hwaiting
      have hack : transmission.sender.onAck len.toUInt32 socket =
          (transmission.sender.acknowledgeFront len.toUInt32).runQueue socket := by
        unfold Sender.onAck
        cases hqueue : transmission.sender.controlQueue with
        | nil => rfl
        | cons control rest =>
            have hunsent : ¬ control.finished = true := by
              simpa [Sender.waiting, hqueue] using hwaiting
            simp only [if_neg hunsent]
      rw [hsize] at hfront
      exact ⟨_, .front, hfront, hidle, .inr hack⟩

theorem Sound.onAck (hsound : transmission.Sound frames) (hhealthy : socket.Healthy)
    {len : UInt16} (hlen : len.toNat ≤ transmission.inFlight)
    (hwhole : ∀ control ∈ transmission.sender.controlQueue.head?, control.finished = true →
      len.toNat = control.len.toNat) :
    ∃ more, Sound
      { transmission with
        sender := transmission.sender.onAck len.toUInt32 socket
        acknowledged := transmission.acknowledged + len.toNat } (frames ++ more) := by
  obtain ⟨sender, -, hacked, hidle, ⟨hclosed, -⟩ | hruns⟩ :=
    hsound.onAck_cases socket hlen hwhole
  · rw [hclosed]
    exact ⟨[], (List.append_nil frames).symm ▸ hacked⟩
  · rw [hruns]
    exact hacked.runQueue hhealthy hidle

/-! ## Runs -/

theorem Sound.withStatus (hsound : transmission.Sound frames) (status : AwsClientStatus) :
    (transmission.withSender { transmission.sender with status := status }).Sound frames :=
  { hsound with }

theorem waiting_eq_false {transmission : Transmission} {event : SenderEvent}
    (horderly : transmission.Orderly event) (hruns : event.runs transmission.sender = true) :
    transmission.sender.waiting = false := by
  rw [← Bool.not_eq_true, waiting_iff]
  rintro ⟨control, hcontrol, hfinished⟩
  rw [(horderly control hcontrol hfinished).1] at hruns
  exact Bool.false_ne_true hruns

/-- **A step.** -/
theorem Sound.step (hsound : transmission.Sound frames) {event : SenderEvent}
    (hproper : transmission.Proper event) (hhealthy : event.socket.Healthy)
    (horderly : transmission.Orderly event) :
    ∃ more, (transmission.step event).Sound (frames ++ more) := by
  have hkept : ∃ more, transmission.Sound (frames ++ more) :=
    ⟨[], (List.append_nil frames).symm ▸ hsound⟩
  unfold Transmission.step
  split_ifs with hdeleted
  · exact hkept
  unfold Sender.step
  rw [if_neg hdeleted]
  cases event with
  | message opcode data socket =>
      obtain ⟨hopcode, hlength⟩ := hproper
      have hidle : transmission.sender.status = .connected → socket.canSend = true →
          transmission.sender.waiting = false := by
        intro hconnected hsend
        exact waiting_eq_false horderly (by simp [SenderEvent.runs, hconnected, hsend])
      have hqueued := hsound.queueMessage hhealthy hidle hopcode hlength
      simp only [SenderEvent.bytesAcked, SenderEvent.messages, SenderEvent.controls,
        List.append_nil, Nat.add_zero]
      exact hqueued
  | control opcode data socket =>
      have hqueued := hsound.queueControl hhealthy
        (fun hsend => waiting_eq_false horderly hsend) hproper
      simp only [SenderEvent.bytesAcked, SenderEvent.messages, SenderEvent.controls,
        List.append_nil, Nat.add_zero]
      exact hqueued
  | close socket =>
      simp only [SenderEvent.bytesAcked, SenderEvent.messages, SenderEvent.controls,
        List.append_nil, Nat.add_zero]
      split_ifs with hconnected
      · have hidle : socket.canSend = true → transmission.sender.waiting = false := by
          intro hsend
          exact waiting_eq_false horderly (by simp [SenderEvent.runs, hconnected, hsend])
        exact hsound.queueControl hhealthy hidle (by decide)
      · rw [List.append_nil]
        exact hkept
  | closing data socket =>
      simp only [SenderEvent.bytesAcked, SenderEvent.messages, SenderEvent.controls,
        List.append_nil, Nat.add_zero]
      split_ifs with hclosing
      · rw [List.append_nil]
        exact ⟨[], (List.append_nil frames).symm ▸ hsound.withStatus .disconnected⟩
      · have hidle : socket.canSend = true → transmission.sender.waiting = false := by
          intro hsend
          exact waiting_eq_false horderly (by simp [SenderEvent.runs, hclosing, hsend])
        exact (hsound.withStatus .disconnecting).queueControl hhealthy hidle
          ⟨by decide, by decide, hproper⟩
  | acked len socket =>
      obtain ⟨hpositive, hwithin⟩ := hproper
      have hwhole : ∀ control ∈ transmission.sender.controlQueue.head?,
          control.finished = true → len.toNat = control.len.toNat := by
        intro control hcontrol hfinished
        obtain hnothing | hwhole := (horderly control hcontrol hfinished).2
        · exact absurd hnothing hpositive.ne'
        · exact hwhole
      have hacked := hsound.onAck hhealthy hwithin hwhole
      simp only [SenderEvent.bytesAcked, SenderEvent.messages, SenderEvent.controls,
        List.append_nil]
      exact hacked
  | poll socket =>
      have hpolled := hsound.runIf hhealthy
        (fun henabled => waiting_eq_false horderly henabled)
      simp only [SenderEvent.bytesAcked, SenderEvent.messages, SenderEvent.controls,
        List.append_nil, Nat.add_zero]
      exact hpolled

theorem Sound.run (hsound : transmission.Sound frames) {events : List SenderEvent}
    (hallowed : Run.Along Transmission.step Allowed transmission events) :
    ∃ more, (events.foldl Transmission.step transmission).Sound (frames ++ more) := by
  induction events generalizing transmission frames with
  | nil => exact ⟨[], (List.append_nil frames).symm ▸ hsound⟩
  | cons event rest ih =>
      obtain ⟨⟨hproper, hhealthy, horderly⟩, hrest⟩ := hallowed
      obtain ⟨more, hnext⟩ := hsound.step hproper hhealthy horderly
      obtain ⟨further, hend⟩ := ih hnext hrest
      refine ⟨more ++ further, ?_⟩
      rw [← List.append_assoc]
      exact hend

theorem sound_fresh : fresh.Sound [] where
  wire := rfl
  inbox := ⟨[], rfl, rfl⟩
  controls := rfl
  last := .inl rfl
  bounded := Nat.zero_le _
  acknowledged := Nat.zero_le _
  queue := .nothing rfl
  awaited := by
    rintro control ⟨⟩
  later := by
    intro control hcontrol
    exact absurd hcontrol List.not_mem_nil
  control := by
    intro control hcontrol
    exact absurd hcontrol List.not_mem_nil

/-- **What a client is sent.** In every orderly run over a connection that only runs out of
room, the bytes on the wire are frames, the messages come out of them in the order they were
queued, each once and whole, the control frames likewise, and all but the last frame has
been acknowledged. -/
theorem transmission_carries {events : List SenderEvent}
    (hallowed : Run.Along Transmission.step Allowed fresh events) :
    ∃ frames, (events.foldl Transmission.step fresh).Carries frames := by
  obtain ⟨frames, hsound⟩ := sound_fresh.run hallowed
  exact ⟨[] ++ frames, hsound.toCarries⟩

/-- A message in two fragments, a pong queued between them, and their acknowledgements. -/
def mixedRun : List SenderEvent :=
  [.message wsBinary [1, 2, 3] .narrow, .acked 4 .roomy, .control wsPong [7] .roomy,
    .acked 3 .roomy, .acked 3 .roomy]

theorem mixedRun_carries : ∃ frames, (mixedRun.foldl step fresh).Carries frames :=
  transmission_carries (by decide)

end Transmission

end Ph5Firmware
