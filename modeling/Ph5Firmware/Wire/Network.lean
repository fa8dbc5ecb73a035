import Ph5Firmware.Library.Runs
import Ph5Firmware.Wire.Acknowledge

/-!
# A network of receivers

Devices at addresses run the UDP receiver on `cmdPort`, and datagrams are in flight
between them.  A step delivers any one of them.  The device at its destination
handles it; what the device sends back goes to the address the datagram came from,
or claimed to come from, at the port on which commands are received.

A reply is the datagram itself, so if it was answered once it is answered again:

* `quiet_of_none_echoed`: if no datagram in flight is of a kind that is sent back,
  no delivery ever leads to a command or a reply.
* `replies_of_echoed`: a single one that is sent back can be delivered and answered
  any number of times.
* `quiet_iff`: so acknowledgements do not loop exactly in the networks of the first
  kind.
-/

namespace Ph5Firmware

structure Datagram where
  bytes : List UInt8
  source : UInt32
  destination : UInt32
  port : UInt16
  /-- Whether a device sent it as a reply. -/
  isReply : Bool
  deriving DecidableEq

/-- The packet a device gets: the bytes, with `beyond` behind them in memory. -/
def Datagram.packet (datagram : Datagram) (beyond : ℕ → UInt8) : AsyncUDPPacket :=
  { data := fun offset =>
      if offset < datagram.bytes.length then datagram.bytes.getD offset 0 else beyond offset
    length := datagram.bytes.length
    isBroadcast := false
    isMulticast := false
    remoteIP := datagram.source }

structure UdpNetwork (Motor : Type*) where
  devices : UInt32 → Option (State Motor)
  inFlight : List Datagram
  /-- How many replies were sent and commands executed so far. -/
  replies : ℕ
  commands : ℕ

/-- The delivery of one of the datagrams in flight. -/
structure Delivery where
  index : ℕ
  beyond : ℕ → UInt8

variable {Motor : Type*} (driver : FastAccelStepper Motor)

/-- A reply in flight. -/
def UdpReply.datagram (reply : UdpReply) (sender : UInt32) : Datagram :=
  { bytes := reply.bytes
    source := sender
    destination := reply.address
    port := reply.port
    isReply := true }

namespace UdpNetwork

/-- What the device at the destination does, if there is one that listens. -/
def receive (network : UdpNetwork Motor) (datagram : Datagram) (beyond : ℕ → UInt8) :
    Option (Reception Motor) :=
  if datagram.port = cmdPort then
    (network.devices datagram.destination).map fun state =>
      onPacket driver (datagram.packet beyond) state
  else none

def deliver (network : UdpNetwork Motor) (delivery : Delivery) : UdpNetwork Motor :=
  match network.inFlight[delivery.index]? with
  | none => network
  | some datagram =>
      let inFlight := network.inFlight.eraseIdx delivery.index
      match network.receive driver datagram delivery.beyond with
      | none => { network with inFlight := inFlight }
      | some reception =>
          { devices := Function.update network.devices datagram.destination
              (some reception.state)
            inFlight := inFlight ++
              reception.reply.toList.map fun reply => reply.datagram datagram.destination
            replies := network.replies + reception.reply.toList.length
            commands := network.commands + reception.dispatched.toList.length }

def afterDeliveries (network : UdpNetwork Motor) (deliveries : List Delivery) :
    UdpNetwork Motor :=
  deliveries.foldl (deliver driver) network

/-- A reply that is delivered causes neither a command nor a reply. -/
def ReplyIsFinal (network : UdpNetwork Motor) (delivery : Delivery) : Prop :=
  ∀ datagram reception, network.inFlight[delivery.index]? = some datagram →
    datagram.isReply = true → network.receive driver datagram delivery.beyond = some reception →
    reception.dispatched = none ∧ reception.reply = none

/-- Acknowledgements do not loop: whatever is delivered in whatever order, replies are
final, and there are at most as many replies and commands as datagrams at first. -/
def Quiet (network : UdpNetwork Motor) : Prop :=
  ∀ deliveries,
    Run.Along (deliver driver) (ReplyIsFinal driver) network deliveries ∧
      (network.afterDeliveries driver deliveries).replies ≤ network.inFlight.length ∧
      (network.afterDeliveries driver deliveries).commands ≤ network.inFlight.length

/-- Nothing has happened yet, and every datagram goes from one device to another on
the command port. -/
structure Initial (network : UdpNetwork Motor) : Prop where
  replies : network.replies = 0
  commands : network.commands = 0
  sent : ∀ datagram ∈ network.inFlight, datagram.isReply = false ∧ datagram.port = cmdPort ∧
    (network.devices datagram.source).isSome = true ∧
    (network.devices datagram.destination).isSome = true

end UdpNetwork

/-- Eight bytes that start with `ph5`, a NUL, `c` or `o`, and a NUL. -/
def Datagram.Echoed (datagram : Datagram) : Prop :=
  datagram.bytes.length = sizeofCommand ∧
    (datagram.bytes.take 6 = [112, 104, 53, 0, 99, 0] ∨
      datagram.bytes.take 6 = [112, 104, 53, 0, 111, 0])

instance (datagram : Datagram) : Decidable datagram.Echoed :=
  inferInstanceAs (Decidable (_ ∧ _))

/-! ## Which datagrams are sent back -/

theorem bytesAt_packet (datagram : Datagram) (beyond : ℕ → UInt8) :
    ByteMemory.bytesAt (datagram.packet beyond).data 0 (datagram.packet beyond).length =
      datagram.bytes := by
  apply List.ext_getElem
  · exact ByteMemory.length_bytesAt ..
  · intro index _ hindex
    simp [ByteMemory.bytesAt, Datagram.packet, hindex, List.getD_eq_getElem?_getD]

theorem take_six_eq (datagram : Datagram) (beyond : ℕ → UInt8)
    (hlength : datagram.bytes.length = sizeofCommand) :
    datagram.bytes.take 6 =
      [(datagram.packet beyond).data 0, (datagram.packet beyond).data 1,
        (datagram.packet beyond).data 2, (datagram.packet beyond).data 3,
        (datagram.packet beyond).data 4, (datagram.packet beyond).data 5] := by
  have hpacket : (datagram.packet beyond).length = 8 := hlength
  rw [← bytesAt_packet datagram beyond, hpacket]
  rfl

theorem packet_isEchoed_iff (datagram : Datagram) (beyond : ℕ → UInt8) :
    (datagram.packet beyond).IsEchoed ↔ datagram.Echoed := by
  constructor
  · rintro (⟨-, hlength, hph5, hheader⟩ | ⟨-, hlength, hph5, hheader⟩)
    all_goals
      refine ⟨hlength, ?_⟩
      rw [take_six_eq datagram beyond hlength]
      simp only [UdpPacket.isMagicHeaderPh5, UdpPacket.isMagicHeaderCommand,
        UdpPacket.isMagicHeaderConfig, Bool.and_eq_true, beq_iff_eq] at hph5 hheader
      simp [hph5, hheader]
  · rintro ⟨hlength, hheader⟩
    rw [take_six_eq datagram beyond hlength] at hheader
    rcases hheader with hheader | hheader
    all_goals
      simp only [List.cons.injEq, and_true] at hheader
      obtain ⟨h0, h1, h2, h3, h4, h5⟩ := hheader
      have hph5 : UdpPacket.isMagicHeaderPh5 (datagram.packet beyond).data = true := by
        simp [UdpPacket.isMagicHeaderPh5, h0, h1, h2, h3]
    · exact .inl ⟨⟨rfl, rfl⟩, hlength, hph5, by simp [UdpPacket.isMagicHeaderCommand, h4, h5]⟩
    · exact .inr ⟨⟨rfl, rfl⟩, hlength, hph5, by simp [UdpPacket.isMagicHeaderConfig, h4, h5]⟩

/-- What comes back for a datagram that is sent back. -/
def Datagram.answer (datagram : Datagram) : Datagram :=
  { bytes := datagram.bytes
    source := datagram.destination
    destination := datagram.source
    port := cmdPort
    isReply := true }

namespace UdpNetwork

variable {driver} {network : UdpNetwork Motor}

/-! ## Nothing is sent back -/

theorem receive_of_not_echoed {datagram : Datagram} (hechoed : ¬ datagram.Echoed)
    {beyond : ℕ → UInt8} {reception : Reception Motor}
    (hreceive : network.receive driver datagram beyond = some reception) :
    reception.dispatched = none ∧ reception.reply = none := by
  unfold receive at hreceive
  split_ifs at hreceive
  obtain ⟨state, -, rfl⟩ := Option.map_eq_some_iff.mp hreceive
  rw [onPacket_of_not_isEchoed (mt (packet_isEchoed_iff datagram beyond).mp hechoed)]
  exact ⟨rfl, rfl⟩

/-- Without such datagrams a delivery only takes one out. -/
theorem deliver_silent (hsilent : ∀ datagram ∈ network.inFlight, ¬ datagram.Echoed)
    (delivery : Delivery) :
    (network.deliver driver delivery).replies = network.replies ∧
      (network.deliver driver delivery).commands = network.commands ∧
      ∀ datagram ∈ (network.deliver driver delivery).inFlight, ¬ datagram.Echoed := by
  unfold deliver
  cases hdatagram : network.inFlight[delivery.index]? with
  | none => exact ⟨rfl, rfl, hsilent⟩
  | some datagram =>
      have hremaining : ∀ other ∈ network.inFlight.eraseIdx delivery.index, ¬ other.Echoed := by
        intro other hother
        exact hsilent other (List.mem_of_mem_eraseIdx hother)
      cases hreceive : network.receive driver datagram delivery.beyond with
      | none => simpa [hreceive] using hremaining
      | some reception =>
          have hechoed := hsilent datagram (List.mem_of_getElem? hdatagram)
          obtain ⟨hdispatched, hreply⟩ := receive_of_not_echoed hechoed hreceive
          simpa [hreceive, hdispatched, hreply] using hremaining

theorem along_of_none_echoed (hsilent : ∀ datagram ∈ network.inFlight, ¬ datagram.Echoed)
    (deliveries : List Delivery) :
    Run.Along (deliver driver) (ReplyIsFinal driver) network deliveries ∧
      (network.afterDeliveries driver deliveries).replies = network.replies ∧
      (network.afterDeliveries driver deliveries).commands = network.commands := by
  induction deliveries generalizing network with
  | nil => exact ⟨trivial, rfl, rfl⟩
  | cons delivery rest ih =>
      obtain ⟨hreplies, hcommands, hnext⟩ := deliver_silent hsilent delivery
      obtain ⟨halong, hreplies', hcommands'⟩ := ih hnext
      refine ⟨⟨?_, halong⟩, hreplies'.trans hreplies, hcommands'.trans hcommands⟩
      intro datagram reception hdatagram _ hreceive
      exact receive_of_not_echoed (hsilent datagram (List.mem_of_getElem? hdatagram)) hreceive

theorem quiet_of_none_echoed (hinitial : network.Initial)
    (hsilent : ∀ datagram ∈ network.inFlight, ¬ datagram.Echoed) : network.Quiet driver := by
  intro deliveries
  obtain ⟨halong, hreplies, hcommands⟩ := along_of_none_echoed hsilent deliveries
  refine ⟨halong, ?_, ?_⟩
  · rw [hreplies, hinitial.replies]
    exact Nat.zero_le _
  · rw [hcommands, hinitial.commands]
    exact Nat.zero_le _

/-! ## One datagram is sent back -/

/-- The datagram at this place is sent back and forth between two devices. -/
structure LoopsAt (network : UdpNetwork Motor) (index : ℕ) (datagram : Datagram) : Prop where
  present : network.inFlight[index]? = some datagram
  echoed : datagram.Echoed
  port : datagram.port = cmdPort
  source : (network.devices datagram.source).isSome = true
  destination : (network.devices datagram.destination).isSome = true

/-- Its delivery puts the answer in its stead, at the end. -/
theorem deliver_loopsAt {index : ℕ} {datagram : Datagram}
    (hloops : network.LoopsAt index datagram) (beyond : ℕ → UInt8) :
    (network.deliver driver ⟨index, beyond⟩).inFlight =
        network.inFlight.eraseIdx index ++ [datagram.answer] ∧
      (network.deliver driver ⟨index, beyond⟩).replies = network.replies + 1 ∧
      ∀ address, (network.devices address).isSome = true →
        ((network.deliver driver ⟨index, beyond⟩).devices address).isSome = true := by
  obtain ⟨state, hstate⟩ := Option.isSome_iff_exists.mp hloops.destination
  have hechoed := (packet_isEchoed_iff datagram beyond).mpr hloops.echoed
  have hreceive : network.receive driver datagram beyond =
      some (onPacket driver (datagram.packet beyond) state) := by
    unfold receive
    rw [if_pos hloops.port, hstate]
    rfl
  have hanswer : ((datagram.packet beyond).reply (datagram.packet beyond).data).datagram
      datagram.destination = datagram.answer := by
    unfold AsyncUDPPacket.reply UdpReply.datagram Datagram.answer
    rw [bytesAt_packet]
    rfl
  unfold deliver
  simp only [hloops.present, hreceive, onPacket_reply hechoed, Option.toList_some, List.map_cons,
    List.map_nil, hanswer, List.length_singleton, true_and]
  intro address haddress
  by_cases hdestination : address = datagram.destination
  · rw [hdestination, Function.update_self]
    rfl
  · rwa [Function.update_of_ne hdestination]

/-- The answer is answered in turn. -/
theorem loopsAt_answer {index : ℕ} {datagram : Datagram}
    (hloops : network.LoopsAt index datagram) (beyond : ℕ → UInt8) :
    (network.deliver driver ⟨index, beyond⟩).LoopsAt (network.inFlight.length - 1)
        datagram.answer ∧
      (network.deliver driver ⟨index, beyond⟩).inFlight.length = network.inFlight.length := by
  obtain ⟨hinFlight, -, hdevices⟩ := @deliver_loopsAt _ driver _ _ _ hloops beyond
  obtain ⟨hindex, -⟩ := List.getElem?_eq_some_iff.mp hloops.present
  have hlength := List.length_eraseIdx_of_lt hindex
  constructor
  · refine ⟨?_, hloops.echoed, rfl, hdevices _ hloops.destination, hdevices _ hloops.source⟩
    rw [hinFlight, ← hlength, List.getElem?_concat_length]
  · rw [hinFlight, List.length_append, hlength, List.length_singleton]
    omega

/-- **A reply loop.** The last datagram, if it is sent back, is answered at every
delivery. -/
theorem replies_of_echoed {datagram : Datagram}
    (hloops : network.LoopsAt (network.inFlight.length - 1) datagram) (beyond : ℕ → UInt8)
    (count : ℕ) :
    (network.afterDeliveries driver
        (List.replicate count ⟨network.inFlight.length - 1, beyond⟩)).replies =
      network.replies + count := by
  induction count generalizing network datagram with
  | zero => rfl
  | succ count ih =>
      let next := network.deliver driver ⟨network.inFlight.length - 1, beyond⟩
      obtain ⟨hanswer, hlength⟩ := @loopsAt_answer _ driver _ _ _ hloops beyond
      have hlength' : next.inFlight.length = network.inFlight.length := hlength
      have hnext : next.LoopsAt (next.inFlight.length - 1) datagram.answer := by
        rw [hlength']
        exact hanswer
      have hreplies : next.replies = network.replies + 1 := (deliver_loopsAt hloops beyond).2.1
      have hrest := ih hnext
      rw [hlength'] at hrest
      calc (network.afterDeliveries driver
              (List.replicate (count + 1) ⟨network.inFlight.length - 1, beyond⟩)).replies
          = (next.afterDeliveries driver
              (List.replicate count ⟨network.inFlight.length - 1, beyond⟩)).replies := rfl
        _ = next.replies + count := hrest
        _ = network.replies + (count + 1) := by
          rw [hreplies]
          omega

/-- **Acknowledgements do not loop** exactly in the networks in which no datagram is
sent back. -/
theorem quiet_iff (hinitial : network.Initial) :
    network.Quiet driver ↔ ∀ datagram ∈ network.inFlight, ¬ datagram.Echoed := by
  constructor
  · intro hquiet datagram hmem hechoed
    obtain ⟨index, hpresent⟩ := List.getElem?_of_mem hmem
    obtain ⟨-, hport, hsource, hdestination⟩ := hinitial.sent datagram hmem
    have hloops : network.LoopsAt index datagram :=
      ⟨hpresent, hechoed, hport, hsource, hdestination⟩
    let beyond : ℕ → UInt8 := fun _ => 0
    let next := network.deliver driver ⟨index, beyond⟩
    obtain ⟨hanswer, hlength⟩ := @loopsAt_answer _ driver _ _ _ hloops beyond
    have hlength' : next.inFlight.length = network.inFlight.length := hlength
    have hnext : next.LoopsAt (next.inFlight.length - 1) datagram.answer := by
      rw [hlength']
      exact hanswer
    have hone : next.replies = network.replies + 1 := (deliver_loopsAt hloops beyond).2.1
    have hmany : (next.afterDeliveries driver
        (List.replicate network.inFlight.length ⟨next.inFlight.length - 1, beyond⟩)).replies =
          next.replies + network.inFlight.length := replies_of_echoed hnext beyond _
    -- one reply more than there were datagrams
    have hbound := (hquiet (⟨index, beyond⟩ ::
      List.replicate network.inFlight.length ⟨next.inFlight.length - 1, beyond⟩)).2.1
    have hsame : (network.afterDeliveries driver (⟨index, beyond⟩ ::
        List.replicate network.inFlight.length ⟨next.inFlight.length - 1, beyond⟩)).replies =
          next.replies + network.inFlight.length := hmany
    rw [hsame, hone, hinitial.replies] at hbound
    omega
  · intro hsilent
    exact quiet_of_none_echoed hinitial hsilent

/-- Devices at the addresses 1 and 2, with datagrams from the first to the second. -/
def benchNetwork (datagrams : List (List UInt8)) : UdpNetwork BenchMotor where
  devices address := if address = 1 ∨ address = 2 then some (benchState 0 0) else none
  inFlight := datagrams.map fun bytes =>
    { bytes := bytes, source := 1, destination := 2, port := cmdPort, isReply := false }
  replies := 0
  commands := 0

theorem benchNetwork_initial (datagrams : List (List UInt8)) :
    (benchNetwork datagrams).Initial where
  replies := rfl
  commands := rfl
  sent := by
    intro datagram hmem
    obtain ⟨bytes, -, rfl⟩ := List.mem_map.mp hmem
    exact ⟨rfl, rfl, rfl, rfl⟩

/-- A command in the wire format and eight bytes with another header. -/
theorem unanswered_quiet :
    (benchNetwork [UdpPacket.commandHeader ++ Ph5Command.fresh.image (Vector.replicate 3 0),
      [112, 104, 53, 0, 120, 0, 0, 0]]).Quiet benchDriver :=
  (quiet_iff (benchNetwork_initial _)).mpr (by decide)

/-- Eight header bytes: two deliveries, two commands and two replies. -/
theorem command_not_quiet :
    let network := benchNetwork [[112, 104, 53, 0, 99, 0, 0, 0]]
    let after := network.afterDeliveries benchDriver [⟨0, fun _ => 0⟩, ⟨0, fun _ => 0⟩]
    (after.commands = 2 ∧ after.replies = 2) ∧ ¬ network.Quiet benchDriver := by
  refine ⟨by decide, ?_⟩
  intro hquiet
  have hbound := (hquiet [⟨0, fun _ => 0⟩, ⟨0, fun _ => 0⟩]).2.1
  exact absurd hbound (by decide)

end UdpNetwork

end Ph5Firmware
