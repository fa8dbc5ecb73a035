import Ph5Firmware.Bench
import Ph5Firmware.Dispatch
import Ph5Firmware.Wire.Layout

/-!
# The UDP command receiver

`onPacket` is the handler `commandReceiverSetup` installs.  It tests the length
of the datagram against `sizeof(Command)`, where `Command` is a class of the
command line library (8 bytes on the target), and casts the start of the datagram
to `Ph5Command*`, although six header bytes stand there and `getDataPointer`
would skip them.

So the two requirements on the wire format fail everywhere: a datagram made of
the header and a command image has 30 bytes and is dropped, and a datagram that
is accepted has 8 bytes, of which a command of 24 is read
(`reception_iff_never`).  `overlay_getDataPointer` says that the format itself is
sound: behind the header, the image shows the command.
-/

namespace Ph5Firmware

/-- `sizeof(Command)`, the class of the command line library. -/
def sizeofCommand : ℕ := 8

def cmdPort : UInt16 := 1667

/-- A received datagram.  `data` is the memory at `packet.data()`; the first
`length` bytes of it are the datagram. -/
structure AsyncUDPPacket where
  data : ℕ → UInt8
  length : ℕ
  isBroadcast : Bool
  isMulticast : Bool
  remoteIP : UInt32

structure UdpReply where
  bytes : List UInt8
  address : UInt32
  port : UInt16
  deriving DecidableEq

namespace UdpPacket

/-- `isMagicHeaderPh5`: the bytes `p`, `h`, `5`, 0. -/
def isMagicHeaderPh5 (data : ℕ → UInt8) : Bool :=
  data 0 == 112 && data 1 == 104 && data 2 == 53 && data 3 == 0

/-- `isMagicHeaderCommand`: the bytes `c`, 0. -/
def isMagicHeaderCommand (data : ℕ → UInt8) : Bool :=
  data 4 == 99 && data 5 == 0

/-- `isMagicHeaderConfig`: the bytes `o`, 0. -/
def isMagicHeaderConfig (data : ℕ → UInt8) : Bool :=
  data 4 == 111 && data 5 == 0

/-- `getDataPointer`, which the receiver does not call. -/
def getDataPointer (data : ℕ → UInt8) : ℕ → UInt8 :=
  fun offset => data (6 + offset)

def commandHeader : List UInt8 := [112, 104, 53, 0, 99, 0]

end UdpPacket

/-- What one datagram leads to: the new state, the command given to
`processCommand`, and the reply. -/
structure Reception (Motor : Type*) where
  state : State Motor
  dispatched : Option Ph5Command
  reply : Option UdpReply

variable {Motor : Type*} (driver : FastAccelStepper Motor)

/-- `udp.writeTo(packet.data(), packet.length(), packet.remoteIP(), cmdPort)`. -/
def AsyncUDPPacket.reply (packet : AsyncUDPPacket) (data : ℕ → UInt8) : UdpReply :=
  { bytes := ByteMemory.bytesAt data 0 packet.length
    address := packet.remoteIP
    port := cmdPort }

/-- The packet memory after `processCommand` wrote the type of the command back. -/
def writeType (data : ℕ → UInt8) (cmd : Ph5Command) : ℕ → UInt8 :=
  fun offset => if offset = 4 then cmd.type.toByte else data offset

/-- The packet handler of `commandReceiverSetup`. -/
def onPacket (packet : AsyncUDPPacket) (state : State Motor) : Reception Motor :=
  let ignored : Reception Motor := { state := state, dispatched := none, reply := none }
  if !packet.isBroadcast && !packet.isMulticast then
    if packet.length = sizeofCommand then
      if UdpPacket.isMagicHeaderPh5 packet.data then
        if UdpPacket.isMagicHeaderCommand packet.data then
          -- the cast is made at the first header byte
          let cmd := Ph5Command.overlay packet.data
          let processed := processCommand driver cmd state
          { state := processed.1
            dispatched := some cmd
            reply := some (packet.reply (writeType packet.data processed.2)) }
        else if UdpPacket.isMagicHeaderConfig packet.data then
          { state := state, dispatched := none, reply := some (packet.reply packet.data) }
        else ignored
      else ignored
    else ignored
  else ignored

structure AsyncUDPPacket.IsCommand (packet : AsyncUDPPacket) : Prop where
  unicast : packet.isBroadcast = false ∧ packet.isMulticast = false
  length : packet.length = sizeofCommand
  ph5 : UdpPacket.isMagicHeaderPh5 packet.data = true
  command : UdpPacket.isMagicHeaderCommand packet.data = true

theorem onPacket_of_isCommand {packet : AsyncUDPPacket} (hcommand : packet.IsCommand)
    (state : State Motor) :
    onPacket driver packet state =
      { state := (processCommand driver (.overlay packet.data) state).1
        dispatched := some (.overlay packet.data)
        reply := some (packet.reply (writeType packet.data
          (processCommand driver (.overlay packet.data) state).2)) } := by
  obtain ⟨⟨hbroadcast, hmulticast⟩, hlength, hph5, hheader⟩ := hcommand
  simp [onPacket, hbroadcast, hmulticast, hlength, hph5, hheader]

theorem onPacket_dispatched_iff (packet : AsyncUDPPacket) (state : State Motor) :
    (onPacket driver packet state).dispatched.isSome = true ↔ packet.IsCommand := by
  constructor
  · intro hdispatched
    unfold onPacket at hdispatched
    split_ifs at hdispatched with hunicast hlength hph5 hcommand hconfig
    · exact ⟨by simpa using hunicast, hlength, hph5, hcommand⟩
    all_goals simp at hdispatched
  · intro hcommand
    rw [onPacket_of_isCommand driver hcommand]
    rfl

/-! ## The wire format -/

/-- A unicast datagram made of the command header and the image of a command. -/
structure AsyncUDPPacket.Carries (packet : AsyncUDPPacket) (cmd : Ph5Command) : Prop where
  unicast : packet.isBroadcast = false ∧ packet.isMulticast = false
  bytes : ∃ padding : Vector UInt8 3, ByteMemory.bytesAt packet.data 0 packet.length =
    UdpPacket.commandHeader ++ cmd.image padding

def AsyncUDPPacket.ReadsInside (packet : AsyncUDPPacket) : Prop :=
  ∀ offset ∈ Ph5Command.readOffsets, offset < packet.length

theorem length_of_carries {packet : AsyncUDPPacket} {cmd : Ph5Command}
    (hcarries : packet.Carries cmd) : packet.length = 6 + sizeofPh5Command := by
  obtain ⟨padding, hbytes⟩ := hcarries.bytes
  have hlength := congrArg List.length hbytes
  rwa [ByteMemory.length_bytesAt, List.length_append, Ph5Command.length_image] at hlength

/-- `getDataPointer` is where the command of such a datagram stands. -/
theorem overlay_getDataPointer {packet : AsyncUDPPacket} {cmd : Ph5Command}
    (hcarries : packet.Carries cmd) :
    Ph5Command.overlay (UdpPacket.getDataPointer packet.data) = cmd := by
  obtain ⟨padding, hbytes⟩ := hcarries.bytes
  calc Ph5Command.overlay (UdpPacket.getDataPointer packet.data)
      = Ph5Command.overlay (ByteMemory.ofBytes (cmd.image padding)) := by
        apply Ph5Command.overlay_congr
        intro offset hoffset
        have hinside : offset < (cmd.image padding).length := by
          rw [Ph5Command.length_image]
          revert offset
          decide
        exact ByteMemory.eq_of_bytesAt hbytes hinside
    _ = cmd := Ph5Command.overlay_image cmd padding

theorem isCommand_not_readsInside {packet : AsyncUDPPacket} (hcommand : packet.IsCommand) :
    ¬ packet.ReadsInside := by
  intro hinside
  have hlast : 23 < packet.length := hinside 23 (by decide)
  rw [hcommand.length] at hlast
  exact absurd hlast (by decide)

/-- **The format never works.** No datagram that carries a command reaches
`processCommand`, and the bytes read lie inside the datagram only when nothing is
read. -/
theorem reception_iff_never (state : State Motor) :
    (∀ cmd packet, AsyncUDPPacket.Carries packet cmd →
        (onPacket driver packet state).dispatched ≠ some cmd) ∧
      ∀ packet : AsyncUDPPacket,
        ((onPacket driver packet state).dispatched.isSome = true → packet.ReadsInside) ↔
          (onPacket driver packet state).dispatched = none := by
  constructor
  · intro cmd packet hcarries hdispatched
    have hcommand : packet.IsCommand := by
      rw [← onPacket_dispatched_iff driver packet state, hdispatched]
      rfl
    have hlength := length_of_carries hcarries
    rw [hcommand.length] at hlength
    exact absurd hlength (by decide)
  · intro packet
    rw [onPacket_dispatched_iff, ← Option.not_isSome_iff_eq_none, onPacket_dispatched_iff]
    constructor
    · intro hinside hcommand
      exact isCommand_not_readsInside hcommand (hinside hcommand)
    · intro hignored hcommand
      exact absurd hcommand hignored

def datagram (bytes : List UInt8) : AsyncUDPPacket :=
  { data := ByteMemory.ofBytes bytes
    length := bytes.length
    isBroadcast := false
    isMulticast := false
    remoteIP := 0 }

theorem datagram_carries (cmd : Ph5Command) (padding : Vector UInt8 3) :
    (datagram (UdpPacket.commandHeader ++ cmd.image padding)).Carries cmd := by
  refine ⟨⟨rfl, rfl⟩, padding, ?_⟩
  simpa [datagram] using
    ByteMemory.bytesAt_ofBytes [] (UdpPacket.commandHeader ++ cmd.image padding) []

/-- A stop command behind a whole header is dropped; eight header bytes are read
as a command beyond their end. -/
theorem stop_datagram_dropped :
    let stop : Ph5Command := { Ph5Command.fresh with type := .stopXY }
    let framed := datagram (UdpPacket.commandHeader ++ stop.image (Vector.replicate 3 0))
    let short := datagram [112, 104, 53, 0, 99, 0, 0, 0]
    framed.Carries stop ∧ (onPacket benchDriver framed (benchState 0 0)).dispatched = none ∧
      (onPacket benchDriver short (benchState 0 0)).dispatched.isSome = true ∧
      ¬ short.ReadsInside := by
  refine ⟨datagram_carries _ _, by decide, by decide, ?_⟩
  intro hinside
  exact absurd (hinside 23 (by decide)) (by decide)

end Ph5Firmware
