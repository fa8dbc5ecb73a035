import Ph5Firmware.Library.Reassembly
import Ph5Firmware.Wire.FrameStream

/-!
# Sending WebSocket frames

An `AsyncWebSocketClient` keeps two queues, of control frames and of messages.
`_runQueue` sends one frame of one of them, and only if the message in front has
nothing unacknowledged; it is called whenever something is queued, when the peer has
acknowledged bytes, and when the connection is polled.

* `webSocketSendFrame` puts one frame into the TCP connection.  What the connection
  answers is an input (`Socket`), and all its calls may fail.
* `AsyncWebSocketMultiMessage.send` sends the next fragment of a message, as long as
  the window allows.
* `Sender.step` is everything that happens to the sending side of a client.  `wire`
  is no variable of the program: it records the bytes the connection has taken.

Frames are never masked: the firmware queues its messages without a mask.  Sizes that
the code compares or subtracts are `UInt32`, as `size_t` is.  What is sent over whole
runs is in `Wire.Transmission`.
-/

namespace Ph5Firmware

/-- `WS_MAX_QUEUED_MESSAGES` -/
def wsMaxQueuedMessages : ℕ := 32

/-- What the TCP connection answers during one callback. -/
structure Socket where
  /-- `tcp_sndbuf`; it is nothing when the connection is not established. -/
  room : UInt16
  /-- There is memory for a header, and the connection takes it. -/
  header : Bool
  /-- The connection takes the payload. -/
  payload : Bool
  /-- `tcp_output` succeeds. -/
  output : Bool
  /-- What `malloc` leaves in the last two bytes of a longer header. -/
  leftover : UInt8 × UInt8
  deriving DecidableEq

namespace Socket

def canSend (socket : Socket) : Bool :=
  0 < socket.room.toNat

/-- Nothing fails but for want of room. -/
def Healthy (socket : Socket) : Prop :=
  socket.header = true ∧ socket.payload = true ∧ socket.output = true

instance (socket : Socket) : Decidable socket.Healthy :=
  inferInstanceAs (Decidable (_ ∧ _))

/-- A connection with an empty send buffer. -/
def roomy : Socket :=
  { room := 5744, header := true, payload := true, output := true, leftover := (0, 0) }

/-- With room for two bytes of payload. -/
def narrow : Socket :=
  { roomy with room := 10 }

def full : Socket :=
  { roomy with room := 0 }

/-- `webSocketSendFrameWindow` -/
def webSocketSendFrameWindow (socket : Socket) : ℕ :=
  if !socket.canSend then 0
  else if socket.room.toNat < 9 then 0
  else socket.room.toNat - 8

/-- The header of an unmasked frame: `headLen` bytes, filled in for a payload of `len`. -/
def frameHeader (socket : Socket) (final : Bool) (opcode : UInt8) (headLen len : ℕ) :
    List UInt8 :=
  ((opcode &&& 0x0F) ||| (if final then 0x80 else 0)) ::
    if len < 126 then
      UInt8.ofNat len :: if headLen = 2 then [] else [socket.leftover.1, socket.leftover.2]
    else [126, UInt8.ofNat (len >>> 8), UInt8.ofNat len]

/-- `webSocketSendFrame`: the length it answers, and the bytes the connection takes. -/
def webSocketSendFrame (socket : Socket) (final : Bool) (opcode : UInt8) (data : List UInt8) :
    ℕ × List UInt8 :=
  -- the length of the header is settled before the payload is cut to the room
  let headLen := if 125 < data.length then 4 else 2
  if !socket.canSend then (0, [])
  else if socket.room.toNat < 2 then (0, [])
  else if socket.room.toNat < headLen then (0, [])
  else
    let len := min data.length (socket.room.toNat - headLen)
    let header := socket.frameHeader final opcode headLen len
    if !socket.header then (0, [])
    else if len ≠ 0 ∧ socket.payload = false then (0, header)
    else if !socket.output then (0, header ++ data.take len)
    else (len, header ++ data.take len)

end Socket

/-! ## Control frames and messages -/

structure AsyncWebSocketControl where
  opcode : UInt8
  data : List UInt8
  finished : Bool
  deriving DecidableEq

namespace AsyncWebSocketControl

/-- The constructor.  It allocates at most 125 bytes and copies all of `data`: with more
than 125 it writes past its allocation, and is not followed any further. -/
def new (opcode : UInt8) (data : List UInt8) : AsyncWebSocketControl :=
  { opcode := opcode, data := data.take 125, finished := false }

def len (control : AsyncWebSocketControl) : UInt8 :=
  UInt8.ofNat (control.data.length + 2)

def send (socket : Socket) (control : AsyncWebSocketControl) :
    AsyncWebSocketControl × List UInt8 :=
  ({ control with finished := true },
    (socket.webSocketSendFrame true (control.opcode &&& 0x0F) control.data).2)

end AsyncWebSocketControl

inductive AwsMessageStatus where
  | sending
  | sent
  | error
  deriving DecidableEq

structure AsyncWebSocketMultiMessage where
  opcode : UInt8
  data : List UInt8
  sent : ℕ
  ack : UInt32
  acked : UInt32
  status : AwsMessageStatus
  deriving DecidableEq

namespace AsyncWebSocketMultiMessage

def new (opcode : UInt8) (data : List UInt8) : AsyncWebSocketMultiMessage :=
  { opcode := opcode &&& 0x07, data := data, sent := 0, ack := 0, acked := 0, status := .sending }

def finished (message : AsyncWebSocketMultiMessage) : Bool :=
  message.status != .sending

def betweenFrames (message : AsyncWebSocketMultiMessage) : Bool :=
  message.acked == message.ack

/-- `ack`: some bytes have been acknowledged. -/
def acknowledge (len : UInt32) (message : AsyncWebSocketMultiMessage) :
    AsyncWebSocketMultiMessage :=
  let acked := message.acked + len
  if message.data.length ≤ message.sent ∧ message.ack ≤ acked then
    { message with acked := acked, status := .sent }
  else { message with acked := acked }

/-- The bytes of a fragment that the counter `_ack` awaits. -/
def framed (count : ℕ) : UInt32 :=
  UInt32.ofNat (count + if count < 126 then 2 else 4)

def send (socket : Socket) (message : AsyncWebSocketMultiMessage) :
    AsyncWebSocketMultiMessage × List UInt8 :=
  if message.status ≠ .sending then (message, [])
  else if message.acked < message.ack then (message, [])
  else if message.sent = message.data.length then ({ message with status := .sent }, [])
  else if message.data.length < message.sent then ({ message with status := .error }, [])
  else
    let toSend := min (message.data.length - message.sent) socket.webSocketSendFrameWindow
    let sent := message.sent + toSend
    let ack := message.ack + framed toSend
    let opcode := if toSend ≠ 0 ∧ sent = toSend then message.opcode else 0
    let answer := socket.webSocketSendFrame (sent == message.data.length) opcode
      ((message.data.drop message.sent).take toSend)
    if toSend ≠ 0 ∧ answer.1 ≠ toSend then
      -- the header stays counted in `ack`
      ({ message with
          sent := sent - (toSend - answer.1)
          ack := ack - UInt32.ofNat (toSend - answer.1) }, answer.2)
    else ({ message with sent := sent, ack := ack }, answer.2)

end AsyncWebSocketMultiMessage

/-! ## A client -/

/-- The part of an `AsyncWebSocketClient` that sends. -/
structure Sender where
  status : AwsClientStatus
  controlQueue : List AsyncWebSocketControl
  messageQueue : List AsyncWebSocketMultiMessage
  wire : List UInt8
  deriving DecidableEq

inductive SenderEvent where
  /-- `_queueMessage` -/
  | message (opcode : UInt8) (data : List UInt8) (socket : Socket)
  /-- `_queueControl`, of an answer to a ping -/
  | control (opcode : UInt8) (data : List UInt8) (socket : Socket)
  /-- `close`, as `cleanupClients` calls it -/
  | close (socket : Socket)
  /-- The peer closes: the last piece of its closing frame. -/
  | closing (data : List UInt8) (socket : Socket)
  /-- `_onAck` -/
  | acked (len : UInt16) (socket : Socket)
  /-- `_onPoll` -/
  | poll (socket : Socket)

namespace Sender

def fresh : Sender :=
  { status := .connected, controlQueue := [], messageQueue := [], wire := [] }

/-- The first control frame has been sent, and its acknowledgement is awaited. -/
def waiting (sender : Sender) : Bool :=
  sender.controlQueue.head?.any AsyncWebSocketControl.finished

/-- The message in front, if there is one, has nothing unacknowledged. -/
def betweenFrames (sender : Sender) : Bool :=
  sender.messageQueue.head?.all AsyncWebSocketMultiMessage.betweenFrames

def sendsControl (socket : Socket) (sender : Sender) : Bool :=
  match sender.controlQueue with
  | control :: _ =>
      sender.betweenFrames && decide (control.len.toNat - 1 < socket.webSocketSendFrameWindow)
  | [] => false

/-- Send the control frame in front.  Whether it has been sent before is not asked. -/
def sendControl (socket : Socket) (sender : Sender) : Sender :=
  match sender.controlQueue with
  | control :: rest =>
      { sender with
        controlQueue := (control.send socket).1 :: rest
        wire := sender.wire ++ (control.send socket).2 }
  | [] => sender

def sendMessage (socket : Socket) (sender : Sender) : Sender :=
  match sender.messageQueue with
  | message :: rest =>
      if message.betweenFrames && decide (0 < socket.webSocketSendFrameWindow) then
        { sender with
          messageQueue := (message.send socket).1 :: rest
          wire := sender.wire ++ (message.send socket).2 }
      else sender
  | [] => sender

def dropFinished (sender : Sender) : Sender :=
  { sender with
    messageQueue := sender.messageQueue.dropWhile AsyncWebSocketMultiMessage.finished }

/-- `_runQueue` -/
def runQueue (socket : Socket) (sender : Sender) : Sender :=
  let sender := sender.dropFinished
  if sender.sendsControl socket then sender.sendControl socket else sender.sendMessage socket

def runIf (enabled : Bool) (socket : Socket) (sender : Sender) : Sender :=
  if enabled then sender.runQueue socket else sender

def queueControl (control : AsyncWebSocketControl) (socket : Socket) (sender : Sender) : Sender :=
  runIf socket.canSend socket { sender with controlQueue := sender.controlQueue ++ [control] }

/-- A message queued now is kept. -/
def accepts (sender : Sender) : Bool :=
  sender.status == .connected && decide (sender.messageQueue.length < wsMaxQueuedMessages)

def queueMessage (message : AsyncWebSocketMultiMessage) (socket : Socket) (sender : Sender) :
    Sender :=
  if sender.status ≠ .connected then sender
  else if wsMaxQueuedMessages ≤ sender.messageQueue.length then
    sender.runIf socket.canSend socket
  else
    runIf socket.canSend socket { sender with messageQueue := sender.messageQueue ++ [message] }

/-- The message in front is told of `len` acknowledged bytes. -/
def acknowledgeFront (len : UInt32) (sender : Sender) : Sender :=
  match sender.messageQueue with
  | message :: rest =>
      if len ≠ 0 then { sender with messageQueue := message.acknowledge len :: rest }
      else sender
  | [] => sender

/-- `_onAck` -/
def onAck (len : UInt32) (socket : Socket) (sender : Sender) : Sender :=
  match sender.controlQueue with
  | control :: rest =>
      if control.finished then
        -- the length of the control frame is taken off, whatever has been acknowledged
        let len := len - control.len.toUInt32
        if sender.status = .disconnecting ∧ control.opcode = wsDisconnect then
          { sender with controlQueue := rest, status := .disconnected }
        else (acknowledgeFront len { sender with controlQueue := rest }).runQueue socket
      else (sender.acknowledgeFront len).runQueue socket
  | [] => (sender.acknowledgeFront len).runQueue socket

/-- `_onPoll`; the firmware sets no keep-alive period. -/
def onPoll (socket : Socket) (sender : Sender) : Sender :=
  sender.runIf
    (socket.canSend && !(sender.controlQueue.isEmpty && sender.messageQueue.isEmpty)) socket

/-- A client whose status is `disconnected` has been deleted. -/
def step (sender : Sender) (event : SenderEvent) : Sender :=
  if sender.status = .disconnected then sender
  else
    match event with
    | .message opcode data socket => sender.queueMessage (.new opcode data) socket
    | .control opcode data socket => sender.queueControl (.new opcode data) socket
    | .close socket =>
        if sender.status = .connected then sender.queueControl (.new wsDisconnect []) socket
        else sender
    | .closing data socket =>
        if sender.status = .disconnecting then { sender with status := .disconnected }
        else
          { sender with status := .disconnecting }.queueControl (.new wsDisconnect data) socket
    | .acked len socket => sender.onAck len.toUInt32 socket
    | .poll socket => sender.onPoll socket

end Sender

/-! ## One frame -/

/-- A frame as `webSocketSendFrame` writes it. -/
def WireFrame.plain (final : Bool) (opcode : UInt8) (payload : List UInt8)
    (hopcode : opcode < 16) (hlength : payload.length < 2 ^ 16) : WireFrame where
  frame := { final := final, opcode := opcode, payload := payload }
  mask := none
  form := if payload.length < 126 then .short else .medium
  opcode_lt := hopcode
  fits := by
    split_ifs with hshort
    · exact hshort
    · exact hlength

/-- The part a frame has in the messages. -/
def WireFrame.fragment (wire : WireFrame) : Option (Reassembly.Fragment UInt8 UInt8) :=
  if wire.frame.opcode < 8 then
    some
      { opens := if wire.frame.opcode = 0 then none else some wire.frame.opcode
        final := wire.frame.final
        payload := wire.frame.payload }
  else none

def WireFrame.controlFrame (wire : WireFrame) : Option (UInt8 × List UInt8) :=
  if wire.frame.opcode < 8 then none else some (wire.frame.opcode, wire.frame.payload)

theorem WireFrame.fragment_plain (final : Bool) {opcode : UInt8} (hopcode : opcode < 16)
    {payload : List UInt8} (hlength : payload.length < 2 ^ 16) (hdata : opcode < 8) :
    (WireFrame.plain final opcode payload hopcode hlength).fragment =
        some ⟨if opcode = 0 then none else some opcode, final, payload⟩ ∧
      (WireFrame.plain final opcode payload hopcode hlength).controlFrame = none :=
  ⟨if_pos hdata, if_pos hdata⟩

theorem WireFrame.controlFrame_plain (final : Bool) {opcode : UInt8} (hopcode : opcode < 16)
    {payload : List UInt8} (hlength : payload.length < 2 ^ 16) (hcontrol : ¬ opcode < 8) :
    (WireFrame.plain final opcode payload hopcode hlength).fragment = none ∧
      (WireFrame.plain final opcode payload hopcode hlength).controlFrame =
        some (opcode, payload) :=
  ⟨if_neg hcontrol, if_neg hcontrol⟩

namespace Socket

variable {socket : Socket}

theorem window_le (socket : Socket) :
    socket.webSocketSendFrameWindow = 0 ∨
      socket.webSocketSendFrameWindow + 8 = socket.room.toNat := by
  unfold webSocketSendFrameWindow canSend
  split_ifs
  · exact .inl rfl
  · exact .inl rfl
  · right
    omega

theorem window_of_room (hroom : 135 ≤ socket.room.toNat) :
    127 ≤ socket.webSocketSendFrameWindow := by
  unfold webSocketSendFrameWindow canSend
  rw [if_neg (by simp; omega), if_neg (by omega)]
  omega

theorem and_low {opcode : UInt8} (hopcode : opcode < 16) : opcode &&& 0x0F = opcode := by
  have hsmall : ∀ number : Fin 16, UInt8.ofNat number &&& 0x0F = UInt8.ofNat number := by decide
  have hnumber : UInt8.ofNat opcode.toNat = opcode := UInt8.ofNat_toNat
  have hlow := hsmall ⟨opcode.toNat, UInt8.lt_iff_toNat_lt.mp hopcode⟩
  rwa [hnumber] at hlow

theorem frameHeader_plain (final : Bool) {opcode : UInt8} (hopcode : opcode < 16)
    {payload : List UInt8} (hlength : payload.length < 2 ^ 16) :
    socket.frameHeader final opcode (if 125 < payload.length then 4 else 2) payload.length =
      (WireFrame.plain final opcode payload hopcode hlength).header := by
  unfold frameHeader WireFrame.header WireFrame.plain WireFrame.length
  rw [and_low hopcode, UInt8.or_comm opcode]
  by_cases hshort : payload.length < 126
  · have hhead : ¬ 125 < payload.length := by omega
    simp [hshort, hhead, LengthForm.code, LengthForm.extended]
  · have hhead : 125 < payload.length := by omega
    have hhigh : payload.length >>> 8 = payload.length / 256 := Nat.shiftRight_eq_div_pow _ 8
    simp [hshort, LengthForm.code, LengthForm.extended, ByteMemory.store, hhigh]

theorem bytes_plain (final : Bool) {opcode : UInt8} (hopcode : opcode < 16)
    {payload : List UInt8} (hlength : payload.length < 2 ^ 16) :
    (WireFrame.plain final opcode payload hopcode hlength).bytes =
      (WireFrame.plain final opcode payload hopcode hlength).header ++ payload := rfl

/-- A payload that leaves room for a header goes out as one frame. -/
theorem webSocketSendFrame_plain (hhealthy : socket.Healthy) (final : Bool) {opcode : UInt8}
    (hopcode : opcode < 16) {payload : List UInt8} (hlength : payload.length < 2 ^ 16)
    (hroom : payload.length + 8 ≤ socket.room.toNat) :
    socket.webSocketSendFrame final opcode payload =
      (payload.length, (WireFrame.plain final opcode payload hopcode hlength).bytes) := by
  obtain ⟨hheader, hpayload, houtput⟩ := hhealthy
  have hsend : socket.canSend = true := decide_eq_true (by omega)
  have hhead : (if 125 < payload.length then 4 else 2) ≤ 4 := by
    split_ifs <;> omega
  have hwhole : min payload.length
      (socket.room.toNat - if 125 < payload.length then 4 else 2) = payload.length := by
    omega
  have htwo : ¬ socket.room.toNat < 2 := by omega
  have henough : ¬ socket.room.toNat < if 125 < payload.length then 4 else 2 := by omega
  have htaken : ¬ (payload.length ≠ 0 ∧ socket.payload = false) := by simp [hpayload]
  unfold webSocketSendFrame
  simp only [hsend, Bool.not_true, Bool.false_eq_true, if_false, if_neg htwo, if_neg henough,
    hheader, houtput, hwhole, if_neg htaken, List.take_length,
    frameHeader_plain final hopcode hlength]
  rw [bytes_plain]

theorem length_plain (final : Bool) {opcode : UInt8} (hopcode : opcode < 16)
    {payload : List UInt8} (hlength : payload.length < 2 ^ 16) :
    (WireFrame.plain final opcode payload hopcode hlength).bytes.length =
      payload.length + if payload.length < 126 then 2 else 4 := by
  rw [bytes_plain, List.length_append, Nat.add_comm]
  unfold WireFrame.header WireFrame.plain
  split_ifs with hshort
  · rfl
  · simp [LengthForm.extended]

end Socket

namespace AsyncWebSocketMultiMessage

/-- The opcode of the next fragment. -/
def nextOpcode (message : AsyncWebSocketMultiMessage) : UInt8 :=
  if message.sent = 0 then message.opcode else 0

/-- The message with `count` more bytes on the wire. -/
def after (message : AsyncWebSocketMultiMessage) (count : ℕ) : AsyncWebSocketMultiMessage :=
  { message with sent := message.sent + count, ack := message.ack + framed count }

theorem send_fragment {socket : Socket} (hhealthy : socket.Healthy)
    (hwindow : 0 < socket.webSocketSendFrameWindow) {message : AsyncWebSocketMultiMessage}
    (hsending : message.status = .sending) (hbetween : message.acked = message.ack)
    (hopcode : message.nextOpcode < 16) (hleft : message.sent < message.data.length) :
    ∃ count, ∃ hcount : ((message.data.drop message.sent).take count).length < 2 ^ 16,
      0 < count ∧ count + 8 < 2 ^ 16 ∧ message.sent + count ≤ message.data.length ∧
        message.send socket =
          (message.after count,
            (WireFrame.plain (message.sent + count == message.data.length) message.nextOpcode
              ((message.data.drop message.sent).take count) hopcode hcount).bytes) := by
  obtain hnothing | hroom := socket.window_le
  · omega
  have hsize : socket.room.toNat < 2 ^ 16 := socket.room.toNat_lt
  generalize hcut : min (message.data.length - message.sent) socket.webSocketSendFrameWindow =
    count
  have hlength : ((message.data.drop message.sent).take count).length = count := by
    rw [List.length_take, List.length_drop]
    omega
  have hcount : ((message.data.drop message.sent).take count).length < 2 ^ 16 := by omega
  have hopens : (if count ≠ 0 ∧ message.sent + count = count then message.opcode else 0) =
      message.nextOpcode := by
    unfold nextOpcode
    by_cases hfirst : message.sent = 0
    · rw [if_pos ⟨by omega, by omega⟩, if_pos hfirst]
    · rw [if_neg (by omega), if_neg hfirst]
  refine ⟨count, hcount, by omega, by omega, by omega, ?_⟩
  have hanswer := Socket.webSocketSendFrame_plain hhealthy
    (message.sent + count == message.data.length) hopcode hcount (by omega)
  unfold send
  rw [if_neg (not_not_intro hsending), if_neg (by rw [hbetween]; exact UInt32.lt_irrefl _),
    if_neg hleft.ne, if_neg (by omega)]
  simp only [hcut, hopens, hanswer]
  rw [if_neg (by omega)]
  rfl

end AsyncWebSocketMultiMessage

namespace AsyncWebSocketControl

theorem toNat_len {control : AsyncWebSocketControl} (hdata : control.data.length ≤ 125) :
    control.len.toNat = control.data.length + 2 := by
  unfold len
  rw [UInt8.toNat_ofNat', Nat.mod_eq_of_lt (by omega)]

theorem send_plain {socket : Socket} (hhealthy : socket.Healthy)
    {control : AsyncWebSocketControl} (hopcode : control.opcode < 16)
    (hdata : control.data.length ≤ 125)
    (hwindow : control.len.toNat - 1 < socket.webSocketSendFrameWindow) :
    ∃ hlength : control.data.length < 2 ^ 16,
      control.send socket = ({ control with finished := true },
        (WireFrame.plain true control.opcode control.data hopcode hlength).bytes) := by
  have hlen := toNat_len hdata
  have hroom := socket.window_le
  have hlength : control.data.length < 2 ^ 16 := by omega
  refine ⟨hlength, ?_⟩
  unfold send
  rw [Socket.and_low hopcode, Socket.webSocketSendFrame_plain hhealthy true hopcode hlength
    (by omega)]

end AsyncWebSocketControl

end Ph5Firmware
