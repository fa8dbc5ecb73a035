import Ph5Firmware.Dispatch
import Ph5Firmware.Wire.Layout

/-!
# The WebSocket command handler

`AsyncWebSocketClient::_onData` hands the payload of a frame on as it comes off
the network: each piece is one event, with the offset of the piece in the frame.
`handleWebSocketMessage` keeps nothing between events.  It acts only on an event
that is the whole of a final binary frame, so a frame that arrives in more than
one piece is dropped, whatever it holds (`commands_arriving`).  The state after some
events is the state after their commands (`foldl_handleWebSocketMessage`).

A frame as it arrives is a `SegmentedFrame`: a frame and a way to cut its payload
into non-empty pieces.
-/

namespace Ph5Firmware

def wsBinary : UInt8 := 2

/-- The part of `AwsFrameInfo` the handler reads. -/
structure AwsFrameInfo where
  final : Bool
  opcode : UInt8
  len : ℕ
  index : ℕ
  deriving DecidableEq

/-- A `WS_EVT_DATA` event. -/
structure DataEvent where
  info : AwsFrameInfo
  data : List UInt8
  deriving DecidableEq

/-- A WebSocket frame, unmasked. -/
structure WebSocketFrame where
  final : Bool
  opcode : UInt8
  payload : List UInt8
  deriving DecidableEq

namespace WebSocketFrame

/-- One turn of the loop in `_onData`, with `index` bytes of the frame already
handed on.  The last piece of a control frame is answered by the library; a piece
that is not the last is handed on whatever the opcode. -/
def event (frame : WebSocketFrame) (index : ℕ) (data : List UInt8) : Option DataEvent :=
  let info : AwsFrameInfo :=
    { final := frame.final, opcode := frame.opcode, len := frame.payload.length, index := index }
  if data.length + index < frame.payload.length then some ⟨info, data⟩
  else if data.length + index = frame.payload.length then
    if frame.opcode < 8 then some ⟨info, data⟩ else none
  else none

def events (frame : WebSocketFrame) : ℕ → List (List UInt8) → List DataEvent
  | _, [] => []
  | index, data :: rest =>
      (frame.event index data).toList ++ frame.events (index + data.length) rest

end WebSocketFrame

structure SegmentedFrame where
  frame : WebSocketFrame
  pieces : List (List UInt8)
  nonempty : ∀ piece ∈ pieces, piece ≠ []
  joined : pieces.flatten = frame.payload

/-- The command `handleWebSocketMessage` gives to `processCommand`, if any. -/
def webSocketCommand (event : DataEvent) : Option Ph5Command :=
  let info := event.info
  let len := event.data.length
  if info.final && info.index == 0 && info.len == len && info.opcode == wsBinary then
    if len = sizeofPh5Command then some (.overlay (ByteMemory.ofBytes event.data)) else none
  else none

def handleWebSocketMessage {Motor : Type*} (driver : FastAccelStepper Motor) (event : DataEvent)
    (state : State Motor) : State Motor :=
  match webSocketCommand event with
  | some cmd => (processCommand driver cmd state).1
  | none => state

/-- The commands given to `processCommand` while these frames arrive. -/
def commandsArriving (frames : List SegmentedFrame) : List Ph5Command :=
  (frames.flatMap fun arriving => arriving.frame.events 0 arriving.pieces).filterMap
    webSocketCommand

/-- The command a frame stands for: a final binary frame of the size of a command. -/
def WebSocketFrame.command (frame : WebSocketFrame) : Option Ph5Command :=
  if frame.final && frame.opcode == wsBinary && frame.payload.length == sizeofPh5Command then
    some (.overlay (ByteMemory.ofBytes frame.payload))
  else none

def SegmentedFrame.wholeCommand (arriving : SegmentedFrame) : Option Ph5Command :=
  if arriving.pieces.length = 1 then arriving.frame.command else none

/-! ## Pieces of a frame -/

/-- An event says where its piece stands in which frame. -/
theorem event_cases {frame : WebSocketFrame} {index : ℕ} {data : List UInt8} {event : DataEvent}
    (hevent : frame.event index data = some event) :
    event = ⟨⟨frame.final, frame.opcode, frame.payload.length, index⟩, data⟩ := by
  unfold WebSocketFrame.event at hevent
  split_ifs at hevent
  · exact (Option.some.inj hevent).symm
  · exact (Option.some.inj hevent).symm

/-- What the handler asks of an event. -/
theorem webSocketCommand_eq_none {event : DataEvent}
    (hdropped : event.info.index ≠ 0 ∨ event.info.len ≠ event.data.length ∨
      event.info.opcode ≠ wsBinary) : webSocketCommand event = none := by
  unfold webSocketCommand
  rw [if_neg]
  intro hkept
  simp only [Bool.and_eq_true, beq_iff_eq] at hkept
  obtain ⟨⟨⟨-, hindex⟩, hlen⟩, hopcode⟩ := hkept
  rcases hdropped with hdropped | hdropped | hdropped
  · exact hdropped hindex
  · exact hdropped hlen
  · exact hdropped hopcode

/-- A piece that does not start its frame, is not all of it, or is not binary is no
command. -/
theorem filterMap_event_eq_nil (frame : WebSocketFrame) {index : ℕ} {data : List UInt8}
    (hdropped : index ≠ 0 ∨ frame.payload.length ≠ data.length ∨ frame.opcode ≠ wsBinary) :
    (frame.event index data).toList.filterMap webSocketCommand = [] := by
  rw [List.filterMap_eq_nil_iff]
  intro event hmem
  apply webSocketCommand_eq_none
  rw [event_cases (Option.mem_toList.mp hmem)]
  exact hdropped

/-- Later pieces never become a command. -/
theorem filterMap_events_of_pos (frame : WebSocketFrame) {index : ℕ} (hindex : 0 < index)
    (pieces : List (List UInt8)) :
    (frame.events index pieces).filterMap webSocketCommand = [] := by
  induction pieces generalizing index with
  | nil => rfl
  | cons data rest ih =>
      rw [WebSocketFrame.events, List.filterMap_append,
        filterMap_event_eq_nil frame (.inl hindex.ne'), List.nil_append]
      exact ih (by omega)

theorem filterMap_event_payload (frame : WebSocketFrame) :
    (frame.event 0 frame.payload).toList.filterMap webSocketCommand = frame.command.toList := by
  by_cases hbinary : frame.opcode = wsBinary
  · have hdata : frame.opcode < 8 := by
      rw [hbinary]
      decide
    have hevent : frame.event 0 frame.payload =
        some ⟨⟨frame.final, frame.opcode, frame.payload.length, 0⟩, frame.payload⟩ := by
      unfold WebSocketFrame.event
      rw [if_neg (by omega), if_pos (by omega), if_pos hdata]
    rw [hevent]
    by_cases hfinal : frame.final = true
    · by_cases hlength : frame.payload.length = sizeofPh5Command
      · simp [webSocketCommand, WebSocketFrame.command, hbinary, hfinal, hlength]
      · simp [webSocketCommand, WebSocketFrame.command, hbinary, hfinal, hlength]
    · simp [webSocketCommand, WebSocketFrame.command, hfinal]
  · rw [filterMap_event_eq_nil frame (.inr (.inr hbinary))]
    simp [WebSocketFrame.command, hbinary]

theorem filterMap_events (arriving : SegmentedFrame) :
    (arriving.frame.events 0 arriving.pieces).filterMap webSocketCommand =
      arriving.wholeCommand.toList := by
  obtain ⟨frame, pieces, hnonempty, hjoined⟩ := arriving
  cases pieces with
  | nil => rfl
  | cons data rest =>
      have hdata : 0 < data.length :=
        List.length_pos_of_ne_nil (hnonempty data (List.mem_cons_self ..))
      have hrest := @filterMap_events_of_pos frame (0 + data.length) (by omega) rest
      simp only [WebSocketFrame.events, List.filterMap_append, hrest, List.append_nil,
        SegmentedFrame.wholeCommand]
      cases rest with
      | nil =>
          have hpayload : data = frame.payload := by simpa using hjoined
          rw [hpayload, filterMap_event_payload]
          rfl
      | cons next more =>
          have hnext : 0 < next.length := List.length_pos_of_ne_nil
            (hnonempty next (List.mem_cons_of_mem _ (List.mem_cons_self ..)))
          have hshort : frame.payload.length ≠ data.length := by
            rw [← hjoined]
            simp only [List.flatten_cons, List.length_append]
            omega
          rw [filterMap_event_eq_nil frame (.inr (.inl hshort))]
          rfl

/-- **Commands and segmentation.** The commands processed are, in order, those of
the frames that stand for a command and arrive in one piece. -/
theorem commands_arriving (frames : List SegmentedFrame) :
    commandsArriving frames = frames.filterMap SegmentedFrame.wholeCommand := by
  unfold commandsArriving
  induction frames with
  | nil => rfl
  | cons arriving rest ih =>
      rw [List.flatMap_cons, List.filterMap_append, ih, filterMap_events]
      cases hcommand : arriving.wholeCommand with
      | none => simp [hcommand]
      | some cmd => simp [hcommand]

/-- Handling events is processing their commands, one after the other. -/
theorem foldl_handleWebSocketMessage {Motor : Type*} (driver : FastAccelStepper Motor)
    (events : List DataEvent) (state : State Motor) :
    events.foldl (fun state event => handleWebSocketMessage driver event state) state =
      (events.filterMap webSocketCommand).foldl
        (fun state cmd => (processCommand driver cmd state).1) state := by
  induction events generalizing state with
  | nil => rfl
  | cons event rest ih =>
      rw [List.foldl_cons, ih]
      cases hcommand : webSocketCommand event with
      | none => rw [List.filterMap_cons_none hcommand, handleWebSocketMessage, hcommand]
      | some cmd =>
          rw [List.filterMap_cons_some hcommand, List.foldl_cons, handleWebSocketMessage,
            hcommand]

def stopFrame : WebSocketFrame where
  final := true
  opcode := wsBinary
  payload := Ph5Command.image { Ph5Command.fresh with type := .stopXY } (Vector.replicate 3 0)

def stopWhole : SegmentedFrame where
  frame := stopFrame
  pieces := [stopFrame.payload]
  nonempty := by decide
  joined := by decide

/-- The frame cut after twelve bytes. -/
def stopCut : SegmentedFrame where
  frame := stopFrame
  pieces := [stopFrame.payload.take 12, stopFrame.payload.drop 12]
  nonempty := by decide
  joined := by decide

/-- The same frame is a command in one piece and none in two. -/
theorem stop_lost_when_cut :
    stopWhole.frame = stopCut.frame ∧
      commandsArriving [stopWhole] = [{ Ph5Command.fresh with type := .stopXY }] ∧
      commandsArriving [stopCut] = [] := by
  refine ⟨rfl, by decide, by decide⟩

end Ph5Firmware
