import Ph5Firmware.Wire.Udp

/-!
# Acknowledgements

A datagram with the command header is given to `processCommand` and sent back, one
with the configuration header is sent back at once.  What is sent back is in both
cases the datagram as it came (`onPacket_reply`): the byte that is taken for the
type of the command is the `c` of the header, so the branch that turns a `PING`
into a `PONG` is never reached.

`acknowledged_iff` compares this with what an acknowledgement is for.  It fails for
a `PING`, which is 30 bytes long and dropped, and for the configuration header,
which is no command and is answered all the same.
-/

namespace Ph5Firmware

variable {Motor : Type*} (driver : FastAccelStepper Motor)

/-- A unicast datagram of the accepted length with the configuration header. -/
structure AsyncUDPPacket.IsConfig (packet : AsyncUDPPacket) : Prop where
  unicast : packet.isBroadcast = false ∧ packet.isMulticast = false
  length : packet.length = sizeofCommand
  ph5 : UdpPacket.isMagicHeaderPh5 packet.data = true
  config : UdpPacket.isMagicHeaderConfig packet.data = true

/-- The receiver sends something back. -/
def AsyncUDPPacket.IsEchoed (packet : AsyncUDPPacket) : Prop :=
  packet.IsCommand ∨ packet.IsConfig

/-! ## What is sent back -/

section Reply

variable {driver} {packet : AsyncUDPPacket} {state : State Motor}

theorem AsyncUDPPacket.IsCommand.type_eq (hcommand : packet.IsCommand) :
    (Ph5Command.overlay packet.data).type = Ph5CommandType.ofByte (packet.data 4) ∧
      packet.data 4 = 99 := by
  refine ⟨rfl, ?_⟩
  simpa [UdpPacket.isMagicHeaderCommand] using (Bool.and_eq_true_iff.mp hcommand.command).1

theorem AsyncUDPPacket.IsConfig.not_isCommand (hconfig : packet.IsConfig) : ¬ packet.IsCommand := by
  intro hcommand
  have hbyte := hcommand.type_eq.2
  have hbyte' : packet.data 4 = 111 := by
    simpa [UdpPacket.isMagicHeaderConfig] using (Bool.and_eq_true_iff.mp hconfig.config).1
  rw [hbyte] at hbyte'
  exact absurd hbyte' (by decide)

/-- Writing the type back changes nothing. -/
theorem writeType_of_isCommand (hcommand : packet.IsCommand) :
    writeType packet.data (processCommand driver (.overlay packet.data) state).2 =
      packet.data := by
  obtain ⟨htype, hbyte⟩ := hcommand.type_eq
  have hping : ¬ (Ph5Command.overlay packet.data).type = .ping := by
    rw [htype, hbyte]
    decide
  rw [processCommand_snd, if_neg hping]
  funext offset
  unfold writeType
  by_cases hoffset : offset = 4
  · rw [if_pos hoffset, htype, Ph5CommandType.toByte_ofByte, hoffset]
  · rw [if_neg hoffset]

theorem onPacket_of_isConfig (hconfig : packet.IsConfig) :
    onPacket driver packet state =
      { state := state, dispatched := none, reply := some (packet.reply packet.data) } := by
  have hcommand : ¬ UdpPacket.isMagicHeaderCommand packet.data = true := by
    intro hheader
    exact hconfig.not_isCommand ⟨hconfig.unicast, hconfig.length, hconfig.ph5, hheader⟩
  obtain ⟨⟨hbroadcast, hmulticast⟩, hlength, hph5, hheader⟩ := hconfig
  simp [onPacket, hbroadcast, hmulticast, hlength, hph5, hheader, hcommand]

theorem onPacket_of_not_isEchoed (hechoed : ¬ packet.IsEchoed) :
    onPacket driver packet state = { state := state, dispatched := none, reply := none } := by
  unfold onPacket
  split_ifs with hunicast hlength hph5 hheader hconfig
  · exact absurd (.inl ⟨by simpa using hunicast, hlength, hph5, hheader⟩) hechoed
  · exact absurd (.inr ⟨by simpa using hunicast, hlength, hph5, hconfig⟩) hechoed
  all_goals rfl

/-- A datagram is sent back as it came. -/
theorem onPacket_reply (hechoed : packet.IsEchoed) :
    (onPacket driver packet state).reply = some (packet.reply packet.data) := by
  rcases hechoed with hcommand | hconfig
  · rw [onPacket_of_isCommand driver hcommand, writeType_of_isCommand hcommand]
  · rw [onPacket_of_isConfig hconfig]

end Reply

/-! ## What an acknowledgement is for -/

/-- The bytes of the command identifier behind the header, as far as they are there. -/
def idBytes (bytes : List UInt8) : List UInt8 :=
  (bytes.drop 6).take 4

/-- A datagram the receiver takes for a command is answered once, to its sender's `cmdPort`,
under the same identifier; a `PING` is answered by the `PONG` with the same fields; and a
datagram that is no command is not answered and changes nothing. -/
structure Acknowledged (packet : AsyncUDPPacket) (state : State Motor) : Prop where
  command : (onPacket driver packet state).dispatched.isSome = true →
    ∃ reply, (onPacket driver packet state).reply = some reply ∧
      reply.address = packet.remoteIP ∧ reply.port = cmdPort ∧
      idBytes reply.bytes = idBytes (ByteMemory.bytesAt packet.data 0 packet.length)
  ping : packet.isBroadcast = false → packet.isMulticast = false →
    ∀ (cmd : Ph5Command) (padding : Vector UInt8 3), cmd.type = .ping →
      ByteMemory.bytesAt packet.data 0 packet.length =
        UdpPacket.commandHeader ++ cmd.image padding →
      ∃ reply, (onPacket driver packet state).reply = some reply ∧
        reply.address = packet.remoteIP ∧ reply.port = cmdPort ∧
        reply.bytes =
          UdpPacket.commandHeader ++ { cmd with type := .pong : Ph5Command }.image padding
  rejected : (onPacket driver packet state).dispatched.isSome = false →
    (onPacket driver packet state).reply = none ∧ (onPacket driver packet state).state = state

def AsyncUDPPacket.CarriesPing (packet : AsyncUDPPacket) : Prop :=
  ∃ cmd, packet.Carries cmd ∧ cmd.type = .ping

theorem not_isEchoed_of_carries {packet : AsyncUDPPacket} {cmd : Ph5Command}
    (hcarries : packet.Carries cmd) : ¬ packet.IsEchoed := by
  have hlength := length_of_carries hcarries
  rintro (hcommand | hconfig)
  · rw [hcommand.length] at hlength
    exact absurd hlength (by decide)
  · rw [hconfig.length] at hlength
    exact absurd hlength (by decide)

/-- **Acknowledgement.** A datagram is acknowledged as it should be exactly when it
carries no `PING` and does not have the configuration header. -/
theorem acknowledged_iff (packet : AsyncUDPPacket) (state : State Motor) :
    Acknowledged driver packet state ↔ ¬ packet.CarriesPing ∧ ¬ packet.IsConfig := by
  constructor
  · intro hacknowledged
    constructor
    · rintro ⟨cmd, hcarries, hping⟩
      obtain ⟨⟨hbroadcast, hmulticast⟩, padding, hbytes⟩ := id hcarries
      obtain ⟨reply, hreply, -⟩ :=
        hacknowledged.ping hbroadcast hmulticast cmd padding hping hbytes
      rw [onPacket_of_not_isEchoed (not_isEchoed_of_carries hcarries)] at hreply
      exact absurd hreply (by simp)
    · intro hconfig
      have hnone : (onPacket driver packet state).dispatched.isSome = false := by
        rw [onPacket_of_isConfig hconfig]
        rfl
      have hreply := (hacknowledged.rejected hnone).1
      rw [onPacket_of_isConfig hconfig] at hreply
      exact absurd hreply (by simp)
  · rintro ⟨hping, hconfig⟩
    refine ⟨?_, ?_, ?_⟩
    · intro hdispatched
      have hcommand := (onPacket_dispatched_iff driver packet state).mp hdispatched
      exact ⟨packet.reply packet.data, onPacket_reply (.inl hcommand), rfl, rfl, rfl⟩
    · intro hbroadcast hmulticast cmd padding htype hbytes
      exact absurd ⟨cmd, ⟨⟨hbroadcast, hmulticast⟩, padding, hbytes⟩, htype⟩ hping
    · intro hnone
      have hechoed : ¬ packet.IsEchoed := by
        rintro (hcommand | hechoed)
        · rw [(onPacket_dispatched_iff driver packet state).mpr hcommand] at hnone
          exact absurd hnone (by decide)
        · exact hconfig hechoed
      rw [onPacket_of_not_isEchoed hechoed]
      exact ⟨rfl, rfl⟩

/-- A `PING` is not answered, and the configuration header is. -/
theorem ping_not_acknowledged :
    let ping : Ph5Command := { Ph5Command.fresh with id := 7, type := .ping }
    let probe := datagram (UdpPacket.commandHeader ++ ping.image (Vector.replicate 3 0))
    let config := datagram [112, 104, 53, 0, 111, 0, 0, 0]
    (probe.Carries ping ∧ (onPacket benchDriver probe (benchState 0 0)).reply = none) ∧
      (onPacket benchDriver config (benchState 0 0)).dispatched.isSome = false ∧
      (onPacket benchDriver config (benchState 0 0)).reply.isSome = true := by
  refine ⟨⟨datagram_carries _ _, by decide⟩, by decide, by decide⟩

end Ph5Firmware
