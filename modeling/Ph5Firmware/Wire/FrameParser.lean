import Ph5Firmware.Library.NetworkBytes
import Ph5Firmware.Wire.WebSocket

/-!
# Reading WebSocket frames off the network

`AsyncWebSocketClient::_onData` is called with one TCP segment at a time.  It keeps
`_pstate` and `_pinfo` from call to call, but it reads a header in one go and never
asks whether all of it has arrived.

* `turn` is one turn of its loop; `readSegment` the loop, of as many turns as it is
  given; `onData` the loop on a segment, where as many turns as the segment has bytes
  are enough if any number is (`readSegment_eq_unfinished_iff`).
* `receive` hands over one segment after the other.
* A read of a header byte past the segment is where the model stops, in `Ending.outside`:
  the loop itself goes on, with a count of bytes that has wrapped.  So it does with a client
  that the closing handshake has deleted, where the model stops in `Ending.stale`.
* `onData_ends_iff`: any other segment is consumed, unless the count of the bytes missing
  of a frame is 0 modulo 2³².

What the loop does with the bytes of well-formed frames is in `Wire.FrameStream`.
-/

namespace Ph5Firmware

def wsDisconnect : UInt8 := 0x08
def wsPing : UInt8 := 0x09
def wsPong : UInt8 := 0x0A

/-- `AWSC_PING_PAYLOAD`, the payload of the client's own pings. -/
def pingPayload : List UInt8 :=
  "ESPAsyncWebServer-PING".toList.map fun char => UInt8.ofNat char.toNat

inductive AwsClientStatus where
  | disconnected
  | connected
  | disconnecting
  deriving DecidableEq

/-- `AwsFrameInfo`, with the fields the handler does not read. -/
structure FrameInfo extends AwsFrameInfo where
  messageOpcode : UInt8
  num : UInt32
  masked : Bool
  mask : Vector UInt8 4
  deriving DecidableEq

/-- The part of an `AsyncWebSocketClient` that `_onData` reads and writes. -/
structure WebSocketClient where
  status : AwsClientStatus
  pstate : Bool
  pinfo : FrameInfo
  deriving DecidableEq

/-- What the client does with a piece of a frame, beside keeping its state. -/
inductive ClientAction where
  /-- `WS_EVT_DATA` -/
  | data (event : DataEvent)
  /-- `WS_EVT_ERROR` -/
  | error (reasonCode : UInt16)
  /-- `WS_EVT_PONG` -/
  | pong (payload : List UInt8)
  | queueControl (opcode : UInt8) (payload : List UInt8)
  | ackLater
  | close
  deriving DecidableEq

/-- A segment, and the byte that follows it in memory: `_onData` reads that byte and
puts it back. -/
structure Segment where
  bytes : List UInt8
  past : UInt8
  deriving DecidableEq

/-- The byte of a mask for the byte at `index` of the payload. -/
def maskKey (mask : Vector UInt8 4) (index : ℕ) : UInt8 :=
  mask.get ⟨index % 4, Nat.mod_lt index (Nat.succ_pos 3)⟩

namespace FrameInfo

def unmask (pinfo : FrameInfo) (data : List UInt8) : List UInt8 :=
  if pinfo.masked then NetworkBytes.masked (maskKey pinfo.mask) pinfo.index data else data

/-- The count of a message's frames, kept by the first piece of a cut frame. -/
def counted (pinfo : FrameInfo) : FrameInfo :=
  if pinfo.index = 0 then
    if pinfo.opcode ≠ 0 then { pinfo with messageOpcode := pinfo.opcode, num := 0 }
    else { pinfo with num := pinfo.num + 1 }
  else pinfo

/-- The length of the payload, and the bytes after it. -/
def readLength (len : ℕ) (bytes : List UInt8) : Option (ℕ × List UInt8) :=
  if len = 126 then
    if bytes.length < 2 then none
    else some (NetworkBytes.bigEndian (bytes.take 2), bytes.drop 2)
  else if len = 127 then
    if bytes.length < 8 then none
    else some (NetworkBytes.bigEndian (bytes.take 8), bytes.drop 8)
  else some (len, bytes)

def readMask (pinfo : FrameInfo) (bytes : List UInt8) : Option (FrameInfo × List UInt8) :=
  if pinfo.masked then
    match bytes with
    | first :: second :: third :: fourth :: rest =>
        some ({ pinfo with mask := #v[first, second, third, fourth] }, rest)
    | _ => none
  else some (pinfo, bytes)

/-- A header, or nothing if it is not all there. -/
def readHeader (pinfo : FrameInfo) (bytes : List UInt8) : Option (FrameInfo × List UInt8) :=
  match bytes with
  | first :: second :: rest =>
      match readLength (second &&& 0x7F).toNat rest with
      | some (len, rest) =>
          readMask
            { pinfo with
              index := 0
              final := first &&& 0x80 != 0
              opcode := first &&& 0x0F
              masked := second &&& 0x80 != 0
              len := len } rest
      | none => none
  | _ => none

end FrameInfo

namespace WebSocketClient

/-- What is told of a frame that closes the connection; `next` is the byte after it.
The text of the reason is left out: nothing handles the event. -/
def closeReason (data : List UInt8) (next : UInt8) : List ClientAction :=
  match data with
  | [] => []
  | first :: rest =>
      let reasonCode := first.toUInt16 <<< 8 + (rest.headD next).toUInt16
      if 1001 < reasonCode then [.error reasonCode] else []

/-- The client after the last piece of a frame; one whose status is `disconnected` has
been deleted. -/
def finished (client : WebSocketClient) : WebSocketClient :=
  if client.pinfo.opcode = wsDisconnect then
    if client.status = .disconnecting then
      { client with pstate := false, status := .disconnected }
    else { client with pstate := false, status := .disconnecting }
  else { client with pstate := false }

/-- What comes of the last piece of a frame. -/
def lastPiece (client : WebSocketClient) (data : List UInt8) (next : UInt8) :
    List ClientAction :=
  if client.pinfo.opcode = wsDisconnect then
    if client.status = .disconnecting then closeReason data next ++ [.close]
    else closeReason data next ++ [.ackLater, .queueControl wsDisconnect data]
  else if client.pinfo.opcode = wsPing then [.queueControl wsPong data]
  else if client.pinfo.opcode = wsPong then
    if data = pingPayload then [] else [.pong data]
  else if client.pinfo.opcode < 8 then [.data ⟨client.pinfo.toAwsFrameInfo, data⟩]
  else []

inductive Turn where
  /-- A byte of the header is read past the segment. -/
  | outside
  /-- The `break` of the loop. -/
  | broken (client : WebSocketClient)
  | piece (client : WebSocketClient) (actions : List ClientAction) (rest : List UInt8)

/-- One turn of the loop in `_onData`.  The bytes left of the frame are counted in a
`size_t`, of 32 bits; `index` never passes `len`, so their difference does not wrap. -/
def turn (client : WebSocketClient) (past : UInt8) (bytes : List UInt8) : Turn :=
  match if client.pstate then some (client.pinfo, bytes) else client.pinfo.readHeader bytes with
  | none => .outside
  | some (pinfo, bytes) =>
      let datalen := min ((pinfo.len - pinfo.index) % 2 ^ 32) bytes.length
      let data := pinfo.unmask (bytes.take datalen)
      let rest := bytes.drop datalen
      if datalen + pinfo.index < pinfo.len then
        let pinfo := pinfo.counted
        .piece
          { client with pstate := true, pinfo := { pinfo with index := pinfo.index + datalen } }
          [.data ⟨pinfo.toAwsFrameInfo, data⟩] rest
      else if datalen + pinfo.index = pinfo.len then
        let client := { client with pinfo := pinfo }
        .piece client.finished (client.lastPiece data (rest.headD past)) rest
      else .broken { client with pinfo := pinfo }

/-- How the loop ends, or where it is followed no further. -/
inductive Ending where
  | consumed (client : WebSocketClient)
  /-- A header is cut: `plen` wraps, and memory behind the segment is read. -/
  | outside
  /-- Bytes are left, and the client has been deleted. -/
  | stale
  /-- It has not ended after the turns it was given. -/
  | unfinished
  deriving DecidableEq

/-- The loop of `_onData`, for as many turns as given. -/
def readSegment (past : UInt8) :
    ℕ → WebSocketClient → List UInt8 → List ClientAction × Ending
  | _, client, [] => ([], .consumed client)
  | 0, _, _ :: _ => ([], .unfinished)
  | turns + 1, client, byte :: rest =>
      if client.status = .disconnected then ([], .stale)
      else
        match client.turn past (byte :: rest) with
        | .outside => ([], .outside)
        | .broken client => ([], .consumed client)
        | .piece client actions rest =>
            let later := readSegment past turns client rest
            (actions ++ later.1, later.2)

def onData (client : WebSocketClient) (segment : Segment) : List ClientAction × Ending :=
  readSegment segment.past segment.bytes.length client segment.bytes

/-- One segment after the other, as long as the loop ends in a client. -/
def receive : WebSocketClient → List Segment → List ClientAction × Ending
  | client, [] => ([], .consumed client)
  | client, segment :: rest =>
      match client.onData segment with
      | (actions, .consumed client) =>
          let later := receive client rest
          (actions ++ later.1, later.2)
      | stopped => stopped

/-- The client after the handshake. -/
def fresh : WebSocketClient where
  status := .connected
  pstate := false
  pinfo :=
    { final := false, opcode := 0, len := 0, index := 0, messageOpcode := 0, num := 0,
      masked := false, mask := Vector.replicate 4 0 }

/-! ## One turn -/

/-- The frame a turn works on, and the bytes it finds of its payload. -/
def opened (client : WebSocketClient) (bytes : List UInt8) : Option (FrameInfo × List UInt8) :=
  if client.pstate then some (client.pinfo, bytes) else client.pinfo.readHeader bytes

theorem readHeader_spec {pinfo opened : FrameInfo} {bytes rest : List UInt8}
    (hread : pinfo.readHeader bytes = some (opened, rest)) :
    opened.index = 0 ∧ rest.length + 2 ≤ bytes.length := by
  unfold FrameInfo.readHeader at hread
  split at hread
  case h_2 => cases hread
  case h_1 first second after =>
    split at hread
    case h_2 => cases hread
    case h_1 len payload hlength =>
      have hpayload : payload.length ≤ after.length := by
        unfold FrameInfo.readLength at hlength
        split_ifs at hlength
        · cases hlength
          exact (List.drop_sublist _ _).length_le
        · cases hlength
          exact (List.drop_sublist _ _).length_le
        · cases hlength
          exact le_rfl
      unfold FrameInfo.readMask at hread
      split at hread
      · split at hread
        · cases hread
          refine ⟨rfl, ?_⟩
          simp only [List.length_cons] at hpayload ⊢
          omega
        · cases hread
      · cases hread
        refine ⟨rfl, ?_⟩
        simp only [List.length_cons]
        omega

/-- What a turn does with a frame it has opened. -/
theorem turn_eq {client : WebSocketClient} {past : UInt8} {bytes body : List UInt8}
    {pinfo : FrameInfo} (hopened : client.opened bytes = some (pinfo, body)) {datalen : ℕ}
    (hdatalen : datalen = min ((pinfo.len - pinfo.index) % 2 ^ 32) body.length) :
    client.turn past bytes =
      if datalen + pinfo.index < pinfo.len then
        .piece
          { client with
            pstate := true
            pinfo := { pinfo.counted with index := pinfo.counted.index + datalen } }
          [.data ⟨pinfo.counted.toAwsFrameInfo, pinfo.unmask (body.take datalen)⟩]
          (body.drop datalen)
      else if datalen + pinfo.index = pinfo.len then
        .piece { client with pinfo := pinfo }.finished
          ({ client with pinfo := pinfo }.lastPiece (pinfo.unmask (body.take datalen))
            ((body.drop datalen).headD past))
          (body.drop datalen)
      else .broken { client with pinfo := pinfo } := by
  subst hdatalen
  unfold opened at hopened
  unfold turn
  rw [hopened]

theorem turn_outside {client : WebSocketClient} {past : UInt8} {bytes : List UInt8}
    (hopened : client.opened bytes = none) : client.turn past bytes = .outside := by
  unfold opened at hopened
  unfold turn
  rw [hopened]

@[simp] theorem counted_index (pinfo : FrameInfo) : pinfo.counted.index = pinfo.index := by
  unfold FrameInfo.counted
  split_ifs <;> rfl

@[simp] theorem counted_len (pinfo : FrameInfo) : pinfo.counted.len = pinfo.len := by
  unfold FrameInfo.counted
  split_ifs <;> rfl

@[simp] theorem counted_opcode (pinfo : FrameInfo) : pinfo.counted.opcode = pinfo.opcode := by
  unfold FrameInfo.counted
  split_ifs <;> rfl

@[simp] theorem finished_pstate (client : WebSocketClient) :
    client.finished.pstate = false := by
  unfold finished
  split_ifs <;> rfl

/-! ## The loop ends, or never does -/

/-- A frame that has been begun is not all there yet. -/
def Unread (client : WebSocketClient) : Prop :=
  client.pstate = true → client.pinfo.index < client.pinfo.len

/-- The bytes missing of the frame are a multiple of 2³², which a `size_t` counts as none. -/
structure Stalled (client : WebSocketClient) : Prop where
  begun : client.pstate = true
  unread : client.pinfo.index < client.pinfo.len
  uncounted : (client.pinfo.len - client.pinfo.index) % 2 ^ 32 = 0
  status : client.status ≠ .disconnected

/-- Some turn of the loop finds a stalled client, with bytes left. -/
inductive Stalls (past : UInt8) : WebSocketClient → List UInt8 → Prop
  | here {client : WebSocketClient} {bytes : List UInt8} (hbytes : bytes ≠ [])
      (hstalled : client.Stalled) : Stalls past client bytes
  | later {client next : WebSocketClient} {bytes rest : List UInt8} {actions : List ClientAction}
      (hbytes : bytes ≠ []) (hstatus : client.status ≠ .disconnected)
      (hturn : client.turn past bytes = .piece next actions rest)
      (hrest : Stalls past next rest) : Stalls past client bytes

/-- What is left after a turn. -/
theorem turn_rest {client next : WebSocketClient} {past : UInt8} {bytes rest : List UInt8}
    {actions : List ClientAction} (hturn : client.turn past bytes = .piece next actions rest) :
    next.Unread ∧ ∃ pinfo body, client.opened bytes = some (pinfo, body) ∧
      rest = body.drop (min ((pinfo.len - pinfo.index) % 2 ^ 32) body.length) := by
  cases hopened : client.opened bytes with
  | none =>
      rw [turn_outside hopened] at hturn
      cases hturn
  | some frame =>
      obtain ⟨pinfo, body⟩ := frame
      rw [turn_eq hopened rfl] at hturn
      split_ifs at hturn with hpart hlast
      · cases hturn
        refine ⟨fun _ => ?_, pinfo, body, rfl, rfl⟩
        simp only [counted_index, counted_len]
        omega
      · cases hturn
        refine ⟨fun hbegun => ?_, pinfo, body, rfl, rfl⟩
        rw [finished_pstate] at hbegun
        cases hbegun

/-- A turn reads something, unless the client is stalled. -/
theorem length_turn_rest {client next : WebSocketClient} {past : UInt8}
    {bytes rest : List UInt8} {actions : List ClientAction} (hunread : client.Unread)
    (hstatus : client.status ≠ .disconnected) (hbytes : bytes ≠ [])
    (hmoving : ¬ client.Stalled) (hturn : client.turn past bytes = .piece next actions rest) :
    rest.length < bytes.length := by
  obtain ⟨-, pinfo, body, hopened, rfl⟩ := turn_rest hturn
  have hpositive : 0 < bytes.length := List.length_pos_of_ne_nil hbytes
  rw [List.length_drop]
  unfold opened at hopened
  split_ifs at hopened with hbegun
  · cases hopened
    have hmissing : (client.pinfo.len - client.pinfo.index) % 2 ^ 32 ≠ 0 :=
      fun hzero => hmoving ⟨hbegun, hunread hbegun, hzero, hstatus⟩
    omega
  · have hheader := (readHeader_spec hopened).2
    omega

/-- A stalled client stays stalled, and reads nothing. -/
theorem turn_of_stalled {client : WebSocketClient} (past : UInt8) (bytes : List UInt8)
    (hstalled : client.Stalled) :
    ∃ next actions, client.turn past bytes = .piece next actions bytes ∧ next.Stalled := by
  have hopened : client.opened bytes = some (client.pinfo, bytes) := if_pos hstalled.begun
  have hdatalen : 0 = min ((client.pinfo.len - client.pinfo.index) % 2 ^ 32) bytes.length := by
    rw [hstalled.uncounted, Nat.zero_min]
  have hunread : 0 + client.pinfo.index < client.pinfo.len := by
    rw [Nat.zero_add]
    exact hstalled.unread
  rw [turn_eq hopened hdatalen, if_pos hunread]
  refine ⟨_, _, rfl, rfl, ?_, ?_, hstalled.status⟩
  · simpa using hstalled.unread
  · simpa using hstalled.uncounted

theorem readSegment_of_stalls {past : UInt8} {client : WebSocketClient} {bytes : List UInt8}
    (hstalls : Stalls past client bytes) (turns : ℕ) :
    (readSegment past turns client bytes).2 = .unfinished := by
  induction turns generalizing client bytes with
  | zero =>
      cases bytes with
      | nil => cases hstalls <;> contradiction
      | cons byte rest => rfl
  | succ turns ih =>
      cases hstalls with
      | here hbytes hstalled =>
          obtain ⟨byte, rest, rfl⟩ := List.exists_cons_of_ne_nil hbytes
          obtain ⟨next, actions, hturn, hnext⟩ := turn_of_stalled past (byte :: rest) hstalled
          rw [readSegment, if_neg hstalled.status, hturn]
          exact ih (.here hbytes hnext)
      | later hbytes hstatus hturn hrest =>
          obtain ⟨byte, rest, rfl⟩ := List.exists_cons_of_ne_nil hbytes
          rw [readSegment, if_neg hstatus, hturn]
          exact ih hrest

theorem stalls_of_readSegment {past : UInt8} {turns : ℕ} {client : WebSocketClient}
    {bytes : List UInt8} (hunread : client.Unread) (henough : bytes.length ≤ turns)
    (hunfinished : (readSegment past turns client bytes).2 = .unfinished) :
    Stalls past client bytes := by
  induction turns generalizing client bytes with
  | zero =>
      rw [List.eq_nil_of_length_eq_zero (Nat.le_zero.mp henough)] at hunfinished
      cases hunfinished
  | succ turns ih =>
      cases bytes with
      | nil => cases hunfinished
      | cons byte rest =>
          have hbytes : byte :: rest ≠ [] := List.cons_ne_nil byte rest
          by_cases hstalled : client.Stalled
          · exact .here hbytes hstalled
          · rw [readSegment] at hunfinished
            split_ifs at hunfinished with hdeleted
            cases hturn : client.turn past (byte :: rest) with
            | outside =>
                rw [hturn] at hunfinished
                cases hunfinished
            | broken next =>
                rw [hturn] at hunfinished
                cases hunfinished
            | piece next actions after =>
                rw [hturn] at hunfinished
                have hshorter := length_turn_rest hunread hdeleted hbytes hstalled hturn
                refine .later hbytes hdeleted hturn ?_
                exact ih (turn_rest hturn).1 (by omega) hunfinished

/-- The `break` of the loop is never reached. -/
theorem turn_ne_broken {client next : WebSocketClient} {past : UInt8} {bytes : List UInt8}
    (hunread : client.Unread) : client.turn past bytes ≠ .broken next := by
  intro hturn
  cases hopened : client.opened bytes with
  | none =>
      rw [turn_outside hopened] at hturn
      cases hturn
  | some frame =>
      obtain ⟨pinfo, body⟩ := frame
      have hinside : pinfo.index ≤ pinfo.len := by
        unfold opened at hopened
        split_ifs at hopened with hbegun
        · cases hopened
          exact (hunread hbegun).le
        · rw [(readHeader_spec hopened).1]
          exact Nat.zero_le _
      rw [turn_eq hopened rfl] at hturn
      split_ifs at hturn with hpart hlast
      have hfits : min ((pinfo.len - pinfo.index) % 2 ^ 32) body.length ≤
          pinfo.len - pinfo.index := (Nat.min_le_left ..).trans (Nat.mod_le ..)
      omega

theorem unread_readSegment {past : UInt8} {turns : ℕ} {client next : WebSocketClient}
    {bytes : List UInt8} (hunread : client.Unread)
    (hconsumed : (readSegment past turns client bytes).2 = .consumed next) : next.Unread := by
  induction turns generalizing client bytes with
  | zero =>
      cases bytes with
      | nil =>
          cases hconsumed
          exact hunread
      | cons byte rest => cases hconsumed
  | succ turns ih =>
      cases bytes with
      | nil =>
          cases hconsumed
          exact hunread
      | cons byte rest =>
          rw [readSegment] at hconsumed
          split_ifs at hconsumed with hdeleted
          cases hturn : client.turn past (byte :: rest) with
          | outside =>
              rw [hturn] at hconsumed
              cases hconsumed
          | broken stopped => exact absurd hturn (turn_ne_broken hunread)
          | piece after actions rest =>
              rw [hturn] at hconsumed
              exact ih (turn_rest hturn).1 hconsumed

theorem unread_receive {client next : WebSocketClient} {segments : List Segment}
    (hunread : client.Unread) (hreceived : (client.receive segments).2 = .consumed next) :
    next.Unread := by
  induction segments generalizing client with
  | nil =>
      cases hreceived
      exact hunread
  | cons segment rest ih =>
      rw [receive] at hreceived
      cases hsegment : client.onData segment with
      | mk actions ending =>
          rw [hsegment] at hreceived
          cases ending with
          | consumed after =>
              have hafter : after.Unread :=
                unread_readSegment hunread (congrArg Prod.snd hsegment)
              exact ih hafter hreceived
          | outside => cases hreceived
          | stale => cases hreceived
          | unfinished => cases hreceived

/-- **When a segment never ends.** Whatever has been received, a segment that cuts no header
and in which nothing follows the end of the closing handshake is consumed, after at most as
many turns as it has bytes, unless a turn finds bytes left and a positive multiple of 2³²
bytes missing of the frame; then the loop never ends. -/
theorem onData_ends_iff {segments : List Segment} {client : WebSocketClient}
    (hreached : (fresh.receive segments).2 = .consumed client) {segment : Segment}
    (hheaders : (client.onData segment).2 ≠ .outside)
    (hhandshake : (client.onData segment).2 ≠ .stale) :
    ((∃ next, (client.onData segment).2 = .consumed next) ↔
        ¬ Stalls segment.past client segment.bytes) ∧
      (Stalls segment.past client segment.bytes →
        ∀ turns, (readSegment segment.past turns client segment.bytes).2 = .unfinished) := by
  have hfresh : fresh.Unread := by
    intro hbegun
    cases hbegun
  refine ⟨⟨?_, ?_⟩, readSegment_of_stalls⟩
  · rintro ⟨next, hconsumed⟩ hstalls
    have hunfinished : (client.onData segment).2 = .unfinished := readSegment_of_stalls hstalls _
    rw [hunfinished] at hconsumed
    cases hconsumed
  · intro hmoving
    cases hending : (client.onData segment).2 with
    | consumed next => exact ⟨next, rfl⟩
    | outside => exact absurd hending hheaders
    | stale => exact absurd hending hhandshake
    | unfinished =>
        exact absurd (stalls_of_readSegment (unread_receive hfresh hreached) le_rfl hending)
          hmoving

/-- A header that announces 2³² bytes, with one byte after it. -/
def endlessSegment : Segment where
  bytes := [0x82, 0x7F, 0, 0, 0, 1, 0, 0, 0, 0, 0xFF]
  past := 0

theorem endlessSegment_unfinished :
    ¬ ∃ turns, (readSegment endlessSegment.past turns fresh endlessSegment.bytes).2 ≠
      .unfinished := by
  have hreached : (fresh.receive []).2 = .consumed fresh := rfl
  have hending : (fresh.onData endlessSegment).2 = .unfinished := by decide
  have hconsumed : ¬ ∃ next, (fresh.onData endlessSegment).2 = .consumed next := by
    simp [hending]
  have hheaders : (fresh.onData endlessSegment).2 ≠ .outside := by simp [hending]
  have hhandshake : (fresh.onData endlessSegment).2 ≠ .stale := by simp [hending]
  obtain ⟨hends, hnever⟩ := onData_ends_iff hreached hheaders hhandshake
  rintro ⟨turns, hended⟩
  exact hended (hnever (not_not.mp (mt hends.mpr hconsumed)) turns)

end WebSocketClient

end Ph5Firmware
