import Ph5Firmware.Wire.Delivery
import Ph5Firmware.Wire.Drain

/-!
# Pings and their answers

Both sides of a client together: what `_onData` makes of the pings in a stream of bytes, and
what becomes of the pongs it queues (`pings_answered`: in an orderly run every ping comes out
as one pong, in order).

The control frames of an open client are its pongs (`controls_run`), and `transmission_drains`
puts them on the wire.
-/

namespace Ph5Firmware

namespace SenderEvent

def pong : SenderEvent → Option (List UInt8)
  | .control opcode data _ => if opcode = wsPong then some data else none
  | _ => none

/-- Nobody closes the client, and its control frames are pongs. -/
def staysOpen : SenderEvent → Bool
  | .close _ | .closing _ _ => false
  | .control opcode _ _ => opcode == wsPong
  | .message _ _ _ | .acked _ _ | .poll _ => true

end SenderEvent

namespace Sender

theorem status_runQueue (socket : Socket) (sender : Sender) :
    (sender.runQueue socket).status = sender.status := by
  have hcontrol : ∀ sender : Sender, (sender.sendControl socket).status = sender.status := by
    intro sender
    unfold sendControl
    cases sender.controlQueue <;> rfl
  have hmessage : ∀ sender : Sender, (sender.sendMessage socket).status = sender.status := by
    intro sender
    unfold sendMessage
    cases sender.messageQueue with
    | nil => rfl
    | cons message rest =>
        simp only
        split_ifs <;> rfl
  unfold runQueue
  simp only
  split_ifs
  · exact hcontrol sender.dropFinished
  · exact hmessage sender.dropFinished

theorem status_runIf (enabled : Bool) (socket : Socket) (sender : Sender) :
    (sender.runIf enabled socket).status = sender.status := by
  unfold runIf
  split_ifs
  · exact sender.status_runQueue socket
  · rfl

theorem status_onAck {sender : Sender} (hconnected : sender.status = .connected) (len : UInt32)
    (socket : Socket) : (sender.onAck len socket).status = .connected := by
  have hfront : ∀ (len : UInt32) (sender : Sender),
      (sender.acknowledgeFront len).status = sender.status := by
    intro len sender
    unfold acknowledgeFront
    cases sender.messageQueue with
    | nil => rfl
    | cons message rest =>
        simp only
        split_ifs <;> rfl
  unfold onAck
  cases sender.controlQueue with
  | nil => rw [status_runQueue, hfront, hconnected]
  | cons control rest =>
      simp only [hconnected]
      split_ifs with hfinished hclosing
      · exact absurd hclosing.1 (by decide)
      · rw [status_runQueue, hfront]
      · rw [status_runQueue, hfront, hconnected]

theorem status_step {sender : Sender} (hconnected : sender.status = .connected)
    {event : SenderEvent} (hopen : event.staysOpen = true) :
    (sender.step event).status = .connected := by
  unfold step
  rw [if_neg (by rw [hconnected]; decide)]
  cases event with
  | message opcode data socket =>
      simp only
      unfold queueMessage
      split_ifs
      · exact hconnected
      · rw [status_runIf, hconnected]
      · rw [status_runIf, hconnected]
  | control opcode data socket =>
      simp only
      unfold queueControl
      rw [status_runIf, hconnected]
  | close socket => exact absurd hopen Bool.false_ne_true
  | closing data socket => exact absurd hopen Bool.false_ne_true
  | acked len socket => exact status_onAck hconnected len.toUInt32 socket
  | poll socket =>
      simp only
      unfold onPoll
      rw [status_runIf, hconnected]

end Sender

namespace Transmission

/-- The control frames an open client is given are the pongs. -/
theorem controls_run {transmission : Transmission}
    (hconnected : transmission.sender.status = .connected) {events : List SenderEvent}
    (hopen : ∀ event ∈ events, event.staysOpen = true) :
    (events.foldl step transmission).sender.status = .connected ∧
      (events.foldl step transmission).controls = transmission.controls ++
        (events.filterMap SenderEvent.pong).map fun payload => (wsPong, payload) := by
  induction events generalizing transmission with
  | nil => exact ⟨hconnected, (List.append_nil _).symm⟩
  | cons event rest ih =>
      have hevent := hopen event List.mem_cons_self
      have hnext : (transmission.step event).sender.status = .connected ∧
          (transmission.step event).controls = transmission.controls ++
            ([event].filterMap SenderEvent.pong).map fun payload => (wsPong, payload) := by
        -- only a pong is given to the control queue here
        have hgiven : event.controls transmission.sender =
            ([event].filterMap SenderEvent.pong).map fun payload => (wsPong, payload) := by
          cases event with
          | control opcode data socket =>
              have hpong : opcode = wsPong := beq_iff_eq.mp hevent
              subst hpong
              rfl
          | close socket => exact absurd hevent Bool.false_ne_true
          | closing data socket => exact absurd hevent Bool.false_ne_true
          | _ => rfl
        unfold Transmission.step
        rw [if_neg (by rw [hconnected]; decide)]
        exact ⟨Sender.status_step hconnected hevent,
          congrArg (transmission.controls ++ ·) hgiven⟩
      obtain ⟨hstatus, hcontrols⟩ :=
        ih hnext.1 fun later hlater => hopen later (List.mem_cons_of_mem _ hlater)
      refine ⟨hstatus, ?_⟩
      rw [List.foldl_cons, hcontrols, hnext.2, List.append_assoc, ← List.map_append,
        ← List.filterMap_append]
      rfl

theorem status_drain {transmission : Transmission}
    (hconnected : transmission.sender.status = .connected) (socket : Socket) (rounds : ℕ) :
    (transmission.drain socket rounds).sender.status = .connected := by
  induction rounds generalizing transmission with
  | zero => exact hconnected
  | succ rounds ih =>
      refine ih ?_
      have hstep : ∀ event : SenderEvent, event.staysOpen = true →
          (transmission.step event).sender.status = .connected := by
        intro event hopen
        unfold Transmission.step
        rw [if_neg (by rw [hconnected]; decide)]
        exact Sender.status_step hconnected hopen
      unfold drainStep
      split_ifs
      · exact hstep _ rfl
      · exact hstep _ rfl

/-- **Every ping is answered.** A client reads a stream of frames, in segments that cut no
header, and queues its pongs in an orderly run of its sending side, among any messages.  Once
the queues have run empty, the control frames on the wire are one pong for each ping, in order,
and the messages are there too. -/
theorem pings_answered (stream : List WireFrame) {segments : List Segment}
    (hstream : segments.flatMap Segment.bytes = stream.flatMap WireFrame.bytes)
    (hcloses : closes stream ≤ 1) (hfits : ControlsFit stream)
    (hwhole : HeadersWhole (segmentCuts 0 segments) 0 stream)
    {events : List SenderEvent} (hallowed : Run.Along step Allowed fresh events)
    (hopen : ∀ event ∈ events, event.staysOpen = true)
    (hpongs : events.filterMap SenderEvent.pong =
      (WebSocketClient.fresh.receive segments).1.filterMap ClientAction.pongQueued)
    {socket : Socket} (hhealthy : socket.Healthy) (hroom : 135 ≤ socket.room.toNat)
    {rounds : ℕ} (hrounds : (events.foldl step fresh).sender.rank ≤ rounds) :
    ∃ frames : List WireFrame,
      (drain socket rounds (events.foldl step fresh)).sender.wire =
          frames.flatMap WireFrame.bytes ∧
        frames.filterMap WireFrame.controlFrame =
          (answers (WireFrame.pong (segmentCuts 0 segments)) 0 stream).map
            (fun payload => (wsPong, payload)) ∧
        Reassembly.reassemble (frames.filterMap WireFrame.fragment) =
          some ⟨(events.foldl step fresh).messages, none⟩ := by
  obtain ⟨hconnected, hcontrols⟩ := @controls_run fresh rfl events hopen
  rcases transmission_drains hallowed hhealthy hroom hrounds with
    hclosed | ⟨frames, hwire, hmessages, hframes⟩
  · rw [status_drain hconnected] at hclosed
    exact absurd hclosed (by decide)
  · refine ⟨frames, hwire, ?_, hmessages⟩
    rw [hframes, hcontrols, hpongs, (receive_pongs stream hstream hcloses hfits hwhole).1]
    rfl

/-- The pong of `cutStream` among two messages. -/
def answeredRun : List SenderEvent :=
  [.message wsBinary [1] .roomy, .control wsPong [3] .roomy, .acked 3 .roomy, .acked 3 .roomy,
    .message wsBinary [2] .full]

theorem cutStream_answered :
    ∃ frames : List WireFrame,
      (drain .roomy 4 (answeredRun.foldl step fresh)).sender.wire =
          frames.flatMap WireFrame.bytes ∧
        frames.filterMap WireFrame.controlFrame =
          (answers (WireFrame.pong (segmentCuts 0 cutStream)) 0 pingAndStops).map
            (fun payload => (wsPong, payload)) ∧
        Reassembly.reassemble (frames.filterMap WireFrame.fragment) =
          some ⟨(answeredRun.foldl step fresh).messages, none⟩ :=
  pings_answered pingAndStops (by decide) (by decide) (by decide) (by decide) (by decide)
    (by decide) (by decide) (by decide) (by decide) (by decide)

end Transmission

end Ph5Firmware
