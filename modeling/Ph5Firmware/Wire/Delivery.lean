import Ph5Firmware.Wire.FrameStream
import Mathlib.Data.Nat.Find

/-!
# A stream of frames, cut into segments

The other end sends frames; TCP cuts their bytes into segments wherever it likes.
`segmentCuts` are the places where a segment ends.

A header that a segment boundary cuts makes `_onData` read past the segment
(`HeadersWhole` says there is none).  Without one it reads every frame as it was sent,
and what the boundaries decide is what a payload becomes:

* `receive_commands`: a command frame is processed if no boundary cuts its payload and
  lost otherwise; a boundary between header and payload does no harm;
* `receive_controls`: a ping and a closing frame are answered with the part of their
  payload after the last boundary in it, and `receive_pongs`, the same of pings.

A control frame to be sent has room for 125 bytes and is filled with all it is given.  The
results are about streams in which that is never more (`ControlsFit`), as the protocol has
it.

All are one simulation.  `Reading` is the place in the stream the client has come to,
`Follows` says that the client's state is that of the place, and an `Observation` is
what is looked at: a part of the actions, and what it should be for a frame whose
payload starts at a given place.
-/

namespace Ph5Firmware

/-! ## Cuts -/

/-- The places where the segments end, the first of them starting at `start`. -/
def segmentCuts : ℕ → List Segment → List ℕ
  | _, [] => []
  | start, segment :: rest =>
      (start + segment.bytes.length) :: segmentCuts (start + segment.bytes.length) rest

/-- No cut strictly inside `length` bytes from `start` on. -/
def Uncut (cuts : List ℕ) (start length : ℕ) : Prop :=
  ∀ cut ∈ cuts, cut ≤ start ∨ start + length ≤ cut

instance (cuts : List ℕ) (start length : ℕ) : Decidable (Uncut cuts start length) :=
  inferInstanceAs (Decidable (∀ cut ∈ cuts, cut ≤ start ∨ start + length ≤ cut))

/-- The last place in a payload at which it is cut, 0 if it is not. -/
def lastCut (cuts : List ℕ) (start length : ℕ) : ℕ :=
  Nat.findGreatest (fun offset => start + offset ∈ cuts) (length - 1)

/-- No header of these frames is cut. -/
def HeadersWhole (cuts : List ℕ) : ℕ → List WireFrame → Prop
  | _, [] => True
  | start, wire :: rest =>
      Uncut cuts start wire.header.length ∧ HeadersWhole cuts (start + wire.bytes.length) rest

instance decidableHeadersWhole (cuts : List ℕ) :
    (start : ℕ) → (frames : List WireFrame) → Decidable (HeadersWhole cuts start frames)
  | _, [] => inferInstanceAs (Decidable True)
  | start, wire :: rest =>
      have := decidableHeadersWhole cuts (start + wire.bytes.length) rest
      inferInstanceAs (Decidable (Uncut cuts start wire.header.length ∧
        HeadersWhole cuts (start + wire.bytes.length) rest))

/-- What is said of each frame, given the place where its payload starts. -/
def answers {α : Type*} (answer : ℕ → WireFrame → List α) : ℕ → List WireFrame → List α
  | _, [] => []
  | start, wire :: rest =>
      answer (start + wire.header.length) wire ++ answers answer (start + wire.bytes.length) rest

def closes (frames : List WireFrame) : ℕ :=
  frames.countP fun wire => wire.frame.opcode == wsDisconnect

/-- The frames that are answered with their own payload keep to the length that the
protocol allows them. -/
def ControlsFit (frames : List WireFrame) : Prop :=
  ∀ wire ∈ frames, wire.frame.opcode = wsPing ∨ wire.frame.opcode = wsDisconnect →
    wire.length ≤ 125

instance (frames : List WireFrame) : Decidable (ControlsFit frames) :=
  inferInstanceAs (Decidable (∀ wire ∈ frames,
    wire.frame.opcode = wsPing ∨ wire.frame.opcode = wsDisconnect → wire.length ≤ 125))

/-! ## The place in the stream -/

/-- The frame the client is in, with the part of its payload that is handed on, and the
frames to come. -/
structure Reading where
  current : Option (WireFrame × ℕ)
  coming : List WireFrame

namespace Reading

def bytes (reading : Reading) : List UInt8 :=
  match reading.current with
  | some (wire, index) => wire.bodyFrom index ++ reading.coming.flatMap WireFrame.bytes
  | none => reading.coming.flatMap WireFrame.bytes

def frames (reading : Reading) : List WireFrame :=
  match reading.current with
  | some (wire, _) => wire :: reading.coming
  | none => reading.coming

/-- Where the frames to come start. -/
def comingFrom (reading : Reading) (position : ℕ) : ℕ :=
  match reading.current with
  | some (wire, index) => position + (wire.length - index)
  | none => position

def answers {α : Type*} (answer : ℕ → WireFrame → List α) (reading : Reading) (position : ℕ) :
    List α :=
  match reading.current with
  | some (wire, index) =>
      answer (position - index) wire ++
        Ph5Firmware.answers answer (reading.comingFrom position) reading.coming
  | none => Ph5Firmware.answers answer (reading.comingFrom position) reading.coming

end Reading

/-- What a closing handshake leaves to close. -/
def AwsClientStatus.Allows : AwsClientStatus → ℕ → Prop
  | .connected, closes => closes ≤ 1
  | .disconnecting, closes => closes = 0
  | .disconnected, _ => False

/-- A payload of which `index` bytes are handed on when the next one is at `position`. -/
structure Begun (cuts : List ℕ) (position : ℕ) (wire : WireFrame) (index : ℕ) : Prop where
  index_le : index ≤ wire.length
  index_le_position : index ≤ position
  cut : index = 0 ∨ position ∈ cuts ∧ index < wire.length

/-- The client's state is that of the place in the stream. -/
structure Follows (cuts : List ℕ) (client : WebSocketClient) (reading : Reading)
    (position : ℕ) : Prop where
  status : client.status.Allows (closes reading.frames)
  between : reading.current = none → client.pstate = false
  inside : ∀ wire index, reading.current = some (wire, index) →
    client.pstate = true ∧ client.pinfo.Shows wire index ∧ Begun cuts position wire index ∧
      index < wire.length

/-- A part of the actions, and what it should be for a frame. -/
structure Observation (cuts : List ℕ) (α : Type*) where
  observe : ClientAction → Option α
  answer : ℕ → WireFrame → List α
  part : ∀ (wire : WireFrame) (index : ℕ) (data : List UInt8),
    index + data.length < wire.length →
      observe (.data ⟨⟨wire.frame.final, wire.frame.opcode, wire.length, index⟩, data⟩) = none
  whole : ∀ (client : WebSocketClient) (wire : WireFrame) (index position : ℕ) (next : UInt8),
    client.pinfo.Shows wire index → Begun cuts position wire index →
      Uncut cuts position (wire.length - index) →
        (wire.frame.opcode = wsDisconnect → client.status = .connected) →
        (client.lastPiece (wire.frame.payload.drop index) next).filterMap observe =
          answer (position - index) wire

/-- `count` bytes take the client from one place in the stream to another, with these
actions. -/
structure Moves {cuts : List ℕ} {α : Type*} (watch : Observation cuts α) (before : Reading)
    (position count : ℕ) (actions : List ClientAction) (after : Reading) : Prop where
  bytes : after.bytes = before.bytes.drop count
  headers : HeadersWhole cuts (after.comingFrom (position + count)) after.coming ↔
    HeadersWhole cuts (before.comingFrom position) before.coming
  answers : before.answers watch.answer position =
    actions.filterMap watch.observe ++ after.answers watch.answer (position + count)

variable {cuts : List ℕ} {α : Type*} {watch : Observation cuts α}

theorem Moves.refl (reading : Reading) (position : ℕ) :
    Moves watch reading position 0 [] reading :=
  ⟨rfl, Iff.rfl, rfl⟩

theorem Moves.trans {first second third : Reading} {position count more : ℕ}
    {actions later : List ClientAction} (hfirst : Moves watch first position count actions second)
    (hsecond : Moves watch second (position + count) more later third) :
    Moves watch first position (count + more) (actions ++ later) third := by
  refine ⟨?_, ?_, ?_⟩
  · rw [hsecond.bytes, hfirst.bytes, List.drop_drop]
  · rw [← hfirst.headers, ← hsecond.headers, Nat.add_assoc]
  · rw [hfirst.answers, hsecond.answers, List.filterMap_append, List.append_assoc, Nat.add_assoc]

/-- Reading a header that is not cut. -/
theorem moves_header (watch : Observation cuts α) {wire : WireFrame} {rest : List WireFrame}
    {position : ℕ} (hheader : Uncut cuts position wire.header.length) :
    Moves watch ⟨none, wire :: rest⟩ position wire.header.length [] ⟨some (wire, 0), rest⟩ := by
  have hlength : position + wire.header.length + wire.length = position + wire.bytes.length := by
    rw [WireFrame.bytes, List.length_append, wire.length_bodyFrom]
    omega
  refine ⟨?_, ?_, ?_⟩
  · simp only [Reading.bytes, List.flatMap_cons, WireFrame.bytes, List.append_assoc,
      List.drop_left]
  · simp only [Reading.comingFrom, HeadersWhole, Nat.sub_zero, hlength]
    exact ⟨fun hrest => ⟨hheader, hrest⟩, And.right⟩
  · simp only [Reading.answers, Reading.comingFrom, answers, Nat.sub_zero, hlength,
      List.filterMap_nil, List.nil_append]

/-- After the close frame that the handshake allows, none is left. -/
theorem allows_finished {client : WebSocketClient} {wire : WireFrame} {coming : List WireFrame}
    {index : ℕ} (hshows : client.pinfo.Shows wire index)
    (hstatus : client.status.Allows (closes (wire :: coming))) :
    client.finished.status.Allows (closes coming) := by
  have hopcode : client.pinfo.opcode = wire.frame.opcode :=
    congrArg AwsFrameInfo.opcode hshows.shown
  unfold WebSocketClient.finished
  rw [hopcode]
  by_cases hclose : wire.frame.opcode = wsDisconnect
  · have hcount : closes (wire :: coming) = closes coming + 1 := by
      simp [closes, hclose]
    rw [hcount] at hstatus
    cases hclient : client.status with
    | disconnected =>
        rw [hclient] at hstatus
        cases hstatus
    | connected =>
        rw [hclient] at hstatus
        have hnone : closes coming = 0 := Nat.le_zero.mp (Nat.le_of_succ_le_succ hstatus)
        simpa [hclose, AwsClientStatus.Allows] using hnone
    | disconnecting =>
        rw [hclient] at hstatus
        cases hstatus
  · have hcount : closes (wire :: coming) = closes coming := by
      simp [closes, hclose]
    rw [hcount] at hstatus
    rwa [if_neg hclose]

/-- The one close frame finds the client connected. -/
theorem connected_of_close {status : AwsClientStatus} {wire : WireFrame}
    {coming : List WireFrame} (hstatus : status.Allows (closes (wire :: coming)))
    (hclose : wire.frame.opcode = wsDisconnect) : status = .connected := by
  have hcount : closes (wire :: coming) = closes coming + 1 := by
    simp [closes, hclose]
  rw [hcount] at hstatus
  cases status with
  | disconnected => cases hstatus
  | connected => rfl
  | disconnecting => cases hstatus

namespace WebSocketClient

/-- A turn, once the header is read. -/
theorem turn_moves (watch : Observation cuts α) {client : WebSocketClient} (past : UInt8)
    {bytes body : List UInt8} {pinfo : FrameInfo} {wire : WireFrame} {index position : ℕ}
    {coming : List WireFrame} (hopened : client.opened bytes = some (pinfo, body))
    (hshows : pinfo.Shows wire index) (hbegun : Begun cuts position wire index)
    (hbody : body <+: wire.bodyFrom index ++ coming.flatMap WireFrame.bytes)
    (hend : position + body.length ∈ cuts) (hclear : Uncut cuts position body.length)
    (hstatus : client.status.Allows (closes (wire :: coming))) {count : ℕ}
    (hcount : count = min (wire.length - index) body.length) :
    ∃ next actions after,
      client.turn past bytes = .piece next actions (body.drop count) ∧
      Follows cuts next after (position + count) ∧
      Moves watch ⟨some (wire, index), coming⟩ position count actions after := by
  have hlength := wire.length_bodyFrom index
  obtain ⟨hindex, hposition, hcut⟩ := hbegun
  by_cases hwhole : wire.length - index ≤ body.length
  · -- the rest of the payload is all in this segment, and the frame ends
    obtain ⟨rest, rfl⟩ := List.prefix_of_prefix_length_le (List.prefix_append _ _) hbody
      (hlength.trans_le hwhole)
    have hturn := turn_whole past hopened hshows hindex
    have huncut : Uncut cuts position (wire.length - index) := by
      intro cut hmem
      have hplace := hclear cut hmem
      rw [List.length_append, hlength] at hplace
      omega
    rw [List.length_append] at hcount
    have hrest : count = (wire.bodyFrom index).length := by omega
    subst hrest
    refine ⟨_, _, ⟨none, coming⟩,
      hturn.trans (by rw [List.drop_left]), ⟨?_, ?_, ?_⟩, ⟨?_, ?_, ?_⟩⟩
    · exact allows_finished hshows hstatus
    · intro _
      exact finished_pstate _
    · intro wire index hcurrent
      cases hcurrent
    · simp only [Reading.bytes]
      rw [List.drop_left]
    · simp only [Reading.comingFrom, hlength]
    · have hanswer := watch.whole { client with pinfo := pinfo } wire index position
        (rest.headD past) hshows ⟨hindex, hposition, hcut⟩ huncut
        (connected_of_close hstatus)
      simp only [Reading.answers, Reading.comingFrom, hlength, hanswer]
  · -- the segment ends inside the payload
    have hshort : index + body.length < wire.length := by omega
    have hpart : body <+: wire.bodyFrom index :=
      List.prefix_of_prefix_length_le hbody (List.prefix_append _ _) (by omega)
    have hturn := turn_part past hopened hshows hpart hshort
    have hall : count = body.length := by omega
    subst hall
    refine ⟨_, _, ⟨some (wire, index + body.length), coming⟩,
      hturn.trans (by rw [List.drop_length]), ⟨?_, ?_, ?_⟩, ⟨?_, ?_, ?_⟩⟩
    · exact hstatus
    · intro hcurrent
      cases hcurrent
    · intro _ _ hcurrent
      cases hcurrent
      refine ⟨rfl, shows_part hshows _, ⟨by omega, by omega, ?_⟩, hshort⟩
      exact .inr ⟨hend, hshort⟩
    · simp only [Reading.bytes]
      rw [List.drop_append_of_le_length (by omega), wire.drop_bodyFrom]
    · simp only [Reading.comingFrom]
      have hsame : position + body.length + (wire.length - (index + body.length)) =
          position + (wire.length - index) := by omega
      rw [hsame]
    · have hdata : ((wire.frame.payload.drop index).take body.length).length ≤ body.length :=
        List.length_take_le ..
      have hnothing := watch.part wire index ((wire.frame.payload.drop index).take body.length)
        (by omega)
      have hsame : position + body.length + (wire.length - (index + body.length)) =
          position + (wire.length - index) := by omega
      have hstart : position + body.length - (index + body.length) = position - index := by omega
      simp only [Reading.answers, Reading.comingFrom, hsame, hstart,
        List.filterMap_cons_none hnothing, List.filterMap_nil, List.nil_append]

/-! ## Segments -/

/-- What is left of a segment, at this place in the stream: it ends at a cut, and there
is none before. -/
structure Fits (cuts : List ℕ) (reading : Reading) (position : ℕ) (bytes : List UInt8) :
    Prop where
  stream : bytes <+: reading.bytes
  ends : position + bytes.length ∈ cuts
  clear : Uncut cuts position bytes.length

theorem Fits.drop {before after : Reading} {position count : ℕ} {bytes : List UInt8}
    {actions : List ClientAction} (hfits : Fits cuts before position bytes)
    (hmoves : Moves watch before position count actions after) (hcount : count ≤ bytes.length) :
    Fits cuts after (position + count) (bytes.drop count) := by
  have hlength : (bytes.drop count).length = bytes.length - count := List.length_drop
  refine ⟨?_, ?_, ?_⟩
  · obtain ⟨more, hmore⟩ := hfits.stream
    rw [hmoves.bytes, ← hmore, List.drop_append_of_le_length hcount]
    exact List.prefix_append _ _
  · have hends := hfits.ends
    rwa [hlength, show position + count + (bytes.length - count) = position + bytes.length by omega]
  · intro cut hmem
    have hcut := hfits.clear cut hmem
    omega

/-- What the loop does with a piece of the stream that ends at a cut. -/
def Delivers (watch : Observation cuts α) (reading : Reading) (position count : ℕ)
    (result : List ClientAction × Ending) : Prop :=
  (∃ next after, result.2 = .consumed next ∧ Follows cuts next after (position + count) ∧
      Moves watch reading position count result.1 after) ∨
    (result.2 = .outside ∧ ¬ HeadersWhole cuts (reading.comingFrom position) reading.coming)

theorem delivers_append {first second : Reading} {position count more : ℕ}
    {actions : List ClientAction} {result : List ClientAction × Ending}
    (hfirst : Moves watch first position count actions second)
    (hsecond : Delivers watch second (position + count) more result) :
    Delivers watch first position (count + more) (actions ++ result.1, result.2) := by
  obtain ⟨next, after, hending, hfollows, hmoves⟩ | ⟨hending, hcut⟩ := hsecond
  · rw [Nat.add_assoc] at hfollows
    exact .inl ⟨next, after, hending, hfollows, hfirst.trans hmoves⟩
  · exact .inr ⟨hending, fun hwhole => hcut (hfirst.headers.mpr hwhole)⟩

theorem status_ne_disconnected {status : AwsClientStatus} {closes : ℕ}
    (hallows : status.Allows closes) : status ≠ .disconnected := by
  rintro rfl
  exact hallows

/-- A turn with the header read, and the loop after it. -/
theorem delivers_opened (watch : Observation cuts α) {past : UInt8} {turns : ℕ}
    (hrest : ∀ {client : WebSocketClient} {reading : Reading} {bytes : List UInt8}
      {position : ℕ}, Follows cuts client reading position → Fits cuts reading position bytes →
        bytes.length ≤ turns →
          Delivers watch reading position bytes.length (readSegment past turns client bytes))
    {client : WebSocketClient} {byte : UInt8} {bytes body : List UInt8} {pinfo : FrameInfo}
    {wire : WireFrame} {index position : ℕ} {coming : List WireFrame}
    (hopened : client.opened (byte :: bytes) = some (pinfo, body))
    (hshows : pinfo.Shows wire index) (hbegun : Begun cuts position wire index)
    (hstatus : client.status.Allows (closes (wire :: coming)))
    (hfits : Fits cuts ⟨some (wire, index), coming⟩ position body)
    (henough : body.length - min (wire.length - index) body.length ≤ turns) :
    Delivers watch ⟨some (wire, index), coming⟩ position body.length
      (readSegment past (turns + 1) client (byte :: bytes)) := by
  obtain ⟨next, actions, after, hturn, hnext, hmoves⟩ := turn_moves watch past hopened
    hshows hbegun hfits.stream hfits.ends hfits.clear hstatus rfl
  generalize hcount : min (wire.length - index) body.length = count at *
  have hinside : count ≤ body.length := by omega
  have hlength : (body.drop count).length = body.length - count := List.length_drop
  have hlater := hrest hnext (hfits.drop hmoves hinside) (by omega)
  have hdelivers := delivers_append hmoves hlater
  rw [hlength, Nat.add_sub_cancel' hinside] at hdelivers
  rw [readSegment, if_neg (status_ne_disconnected hstatus), hturn]
  exact hdelivers

theorem stream_header {wire : WireFrame} {rest : List WireFrame} {position : ℕ}
    {bytes : List UInt8} (hfits : Fits cuts ⟨none, wire :: rest⟩ position bytes) :
    bytes <+: wire.header ++ (wire.bodyFrom 0 ++ rest.flatMap WireFrame.bytes) := by
  have hstream := hfits.stream
  simpa [Reading.bytes, WireFrame.bytes] using hstream

/-- The segment ends inside the header. -/
theorem opened_cut_header {client : WebSocketClient} {wire : WireFrame} {rest : List WireFrame}
    {position : ℕ} {bytes : List UInt8} (hbetween : client.pstate = false)
    (hfits : Fits cuts ⟨none, wire :: rest⟩ position bytes)
    (hshort : bytes.length < wire.header.length) : client.opened bytes = none := by
  have hpart : bytes <+: wire.header :=
    List.prefix_of_prefix_length_le (stream_header hfits) (List.prefix_append _ _) hshort.le
  rw [opened, hbetween]
  exact readHeader_short client.pinfo hpart hshort

/-- The segment holds the header. -/
theorem delivers_header (watch : Observation cuts α) {past : UInt8} {turns : ℕ}
    (hrest : ∀ {client : WebSocketClient} {reading : Reading} {bytes : List UInt8}
      {position : ℕ}, Follows cuts client reading position → Fits cuts reading position bytes →
        bytes.length ≤ turns →
          Delivers watch reading position bytes.length (readSegment past turns client bytes))
    {client : WebSocketClient} {byte : UInt8} {bytes : List UInt8} {wire : WireFrame}
    {rest : List WireFrame} {position : ℕ} (hbetween : client.pstate = false)
    (hstatus : client.status.Allows (closes (wire :: rest)))
    (hfits : Fits cuts ⟨none, wire :: rest⟩ position (byte :: bytes))
    (hheader : wire.header.length ≤ (byte :: bytes).length)
    (henough : (byte :: bytes).length ≤ turns + 1) :
    Delivers watch ⟨none, wire :: rest⟩ position (byte :: bytes).length
      (readSegment past (turns + 1) client (byte :: bytes)) := by
  obtain ⟨body, hbody⟩ := List.prefix_of_prefix_length_le (List.prefix_append _ _)
    (stream_header hfits) hheader
  obtain ⟨pinfo, hread, hshows⟩ := readHeader_header client.pinfo wire body
  have hlength : (byte :: bytes).length = wire.header.length + body.length := by
    rw [← hbody, List.length_append]
  have htwo : 2 ≤ wire.header.length := Nat.le_add_left 2 _
  have huncut : Uncut cuts position wire.header.length := by
    intro cut hmem
    have hcut := hfits.clear cut hmem
    omega
  have hopened : client.opened (byte :: bytes) = some (pinfo, body) := by
    rw [opened, hbetween, ← hbody]
    exact hread
  have hmoves := @moves_header _ _ watch wire rest position huncut
  have hcarried := hfits.drop hmoves hheader
  rw [← hbody, List.drop_left] at hcarried
  have hdelivers := delivers_opened watch hrest hopened hshows
    ⟨Nat.zero_le _, Nat.zero_le _, .inl rfl⟩ hstatus hcarried (by omega)
  have hall := delivers_append hmoves hdelivers
  rw [← hlength] at hall
  exact hall

/-- The loop on what is left of a segment. -/
theorem readSegment_follows (watch : Observation cuts α) {past : UInt8} {turns : ℕ}
    {client : WebSocketClient} {reading : Reading} {bytes : List UInt8} {position : ℕ}
    (hfollows : Follows cuts client reading position) (hfits : Fits cuts reading position bytes)
    (henough : bytes.length ≤ turns) :
    Delivers watch reading position bytes.length (readSegment past turns client bytes) := by
  induction turns generalizing client reading bytes position with
  | zero =>
      rw [List.eq_nil_of_length_eq_zero (Nat.le_zero.mp henough)]
      exact .inl ⟨client, reading, rfl, hfollows, Moves.refl reading position⟩
  | succ turns ih =>
      cases bytes with
      | nil => exact .inl ⟨client, reading, rfl, hfollows, Moves.refl reading position⟩
      | cons byte bytes =>
          obtain ⟨current, coming⟩ := reading
          cases current with
          | some frame =>
              obtain ⟨wire, index⟩ := frame
              obtain ⟨hbegunHere, hshows, hbegun, hunread⟩ := hfollows.inside wire index rfl
              have hopened : client.opened (byte :: bytes) = some (client.pinfo, byte :: bytes) :=
                if_pos hbegunHere
              refine delivers_opened watch ih hopened hshows hbegun hfollows.status hfits ?_
              simp only [List.length_cons] at henough ⊢
              omega
          | none =>
              have hbetween := hfollows.between rfl
              cases coming with
              | nil => exact absurd hfits.stream (by simp [Reading.bytes])
              | cons wire rest =>
                  by_cases hheader : wire.header.length ≤ (byte :: bytes).length
                  · exact delivers_header watch ih hbetween hfollows.status hfits hheader henough
                  · rw [readSegment, if_neg (status_ne_disconnected hfollows.status),
                      turn_outside (opened_cut_header hbetween hfits (by omega))]
                    refine .inr ⟨rfl, fun hwhole => ?_⟩
                    have hcut := hwhole.1 _ hfits.ends
                    simp only [Reading.comingFrom, List.length_cons] at hcut hheader
                    omega

theorem le_of_mem_segmentCuts {start cut : ℕ} {segments : List Segment}
    (hmem : cut ∈ segmentCuts start segments) : start ≤ cut := by
  induction segments generalizing start with
  | nil => cases hmem
  | cons segment rest ih =>
      obtain rfl | hrest := List.mem_cons.mp hmem
      · exact Nat.le_add_right _ _
      · exact (Nat.le_add_right _ _).trans (ih hrest)

/-- One segment after the other, up to the end of the stream. -/
theorem receive_follows (watch : Observation cuts α) {client : WebSocketClient}
    {reading : Reading} {segments : List Segment} {position : ℕ} (before : List ℕ)
    (hfollows : Follows cuts client reading position)
    (hstream : segments.flatMap Segment.bytes = reading.bytes)
    (hcuts : cuts = before ++ segmentCuts position segments)
    (hbefore : ∀ cut ∈ before, cut ≤ position) :
    Delivers watch reading position (segments.flatMap Segment.bytes).length
      (client.receive segments) := by
  induction segments generalizing client reading position before with
  | nil => exact .inl ⟨client, reading, rfl, hfollows, Moves.refl reading position⟩
  | cons segment rest ih =>
      rw [segmentCuts] at hcuts
      rw [List.flatMap_cons] at hstream
      have hfits : Fits cuts reading position segment.bytes := by
        refine ⟨?_, ?_, ?_⟩
        · rw [← hstream]
          exact List.prefix_append _ _
        · simp [hcuts]
        · intro cut hmem
          rw [hcuts, List.mem_append, List.mem_cons] at hmem
          obtain hpast | rfl | hlater := hmem
          · exact .inl (hbefore cut hpast)
          · exact .inr le_rfl
          · exact .inr (le_of_mem_segmentCuts hlater)
      have hsegment : Delivers watch reading position segment.bytes.length
          (client.onData segment) := readSegment_follows watch hfollows hfits le_rfl
      rw [receive, List.flatMap_cons, List.length_append]
      generalize client.onData segment = result at *
      obtain ⟨actions, ending⟩ := result
      obtain ⟨next, after, hending, hnext, hmoves⟩ | ⟨hending, hcut⟩ := hsegment
      · cases hending
        have hrest : rest.flatMap Segment.bytes = after.bytes := by
          rw [hmoves.bytes, ← hstream, List.drop_left]
        refine delivers_append hmoves (ih (before ++ [position + segment.bytes.length])
          hnext hrest ?_ ?_)
        · rw [List.append_assoc]
          exact hcuts
        · intro cut hmem
          rw [List.mem_append, List.mem_singleton] at hmem
          obtain hpast | rfl := hmem
          · exact (hbefore cut hpast).trans (Nat.le_add_right _ _)
          · exact le_rfl
      · cases hending
        exact .inr ⟨rfl, hcut⟩

/-- At the end of the stream nothing is left to say. -/
theorem eq_end {client : WebSocketClient} {reading : Reading} {position : ℕ}
    (hfollows : Follows cuts client reading position) (hbytes : reading.bytes = []) :
    reading = ⟨none, []⟩ := by
  obtain ⟨current, coming⟩ := reading
  cases current with
  | some frame =>
      obtain ⟨wire, index⟩ := frame
      have hunread := (hfollows.inside wire index rfl).2.2.2
      have hlength := congrArg List.length (List.append_eq_nil_iff.mp hbytes).1
      rw [wire.length_bodyFrom, List.length_nil] at hlength
      omega
  | none =>
      cases coming with
      | nil => rfl
      | cons wire rest =>
          rw [Reading.bytes, List.flatMap_cons] at hbytes
          have hheader := (List.append_eq_nil_iff.mp (List.append_eq_nil_iff.mp hbytes).1).1
          cases hheader

/-- A stream of frames, whatever is looked at. -/
theorem receive_stream {frames : List WireFrame} {segments : List Segment}
    (watch : Observation (segmentCuts 0 segments) α)
    (hstream : segments.flatMap Segment.bytes = frames.flatMap WireFrame.bytes)
    (hcloses : closes frames ≤ 1) :
    (HeadersWhole (segmentCuts 0 segments) 0 frames →
        (∃ client, (fresh.receive segments).2 = .consumed client) ∧
          (fresh.receive segments).1.filterMap watch.observe = answers watch.answer 0 frames) ∧
      (¬ HeadersWhole (segmentCuts 0 segments) 0 frames →
        (fresh.receive segments).2 = .outside) := by
  have hfollows : Follows (segmentCuts 0 segments) fresh ⟨none, frames⟩ 0 := by
    refine ⟨hcloses, fun _ => rfl, ?_⟩
    intro wire index hcurrent
    cases hcurrent
  have hdelivers := receive_follows watch [] hfollows hstream rfl (by simp)
  obtain ⟨next, after, hending, hnext, hmoves⟩ | ⟨hending, hcut⟩ := hdelivers
  · have hleft : after.bytes = [] := by
      rw [hmoves.bytes, hstream]
      exact List.drop_length
    obtain rfl := eq_end hnext hleft
    refine ⟨fun _ => ⟨⟨next, hending⟩, ?_⟩, ?_⟩
    · exact (hmoves.answers.trans (List.append_nil _)).symm
    · intro hcut
      exact absurd (hmoves.headers.mp trivial) hcut
  · exact ⟨fun hwhole => absurd hwhole hcut, fun _ => hending⟩

end WebSocketClient

/-! ## Commands -/

def ClientAction.command : ClientAction → Option Ph5Command
  | .data event => webSocketCommand event
  | _ => none

/-- A frame's command, if the payload, from `start` on, is not cut. -/
def WireFrame.commandUncut (cuts : List ℕ) (start : ℕ) (wire : WireFrame) : List Ph5Command :=
  if Uncut cuts start wire.length then wire.frame.command.toList else []

theorem command_eq_none {frame : WebSocketFrame} (hopcode : frame.opcode ≠ wsBinary) :
    frame.command = none := by
  simp [WebSocketFrame.command, hopcode]

/-- What a closing frame is told of is no command and no control frame. -/
theorem filterMap_closeReason {observe : ClientAction → Option α}
    (herror : ∀ reasonCode, observe (.error reasonCode) = none) (data : List UInt8)
    (next : UInt8) : (WebSocketClient.closeReason data next).filterMap observe = [] := by
  unfold WebSocketClient.closeReason
  cases data with
  | nil => rfl
  | cons first rest =>
      simp only
      split_ifs
      · rw [List.filterMap_cons_none (herror _), List.filterMap_nil]
      · rfl

theorem lastPiece_data {client : WebSocketClient} (hdata : client.pinfo.opcode < 8)
    (data : List UInt8) (next : UInt8) :
    client.lastPiece data next = [.data ⟨client.pinfo.toAwsFrameInfo, data⟩] := by
  have hcontrol : ∀ opcode : UInt8, 8 ≤ opcode → client.pinfo.opcode ≠ opcode := by
    rintro opcode hopcode rfl
    exact absurd hdata (UInt8.not_lt.mpr hopcode)
  rw [WebSocketClient.lastPiece, if_neg (hcontrol wsDisconnect (by decide)),
    if_neg (hcontrol wsPing (by decide)), if_neg (hcontrol wsPong (by decide)), if_pos hdata]

/-- The last piece of a control frame is no command. -/
theorem lastPiece_control {client : WebSocketClient} (hcontrol : ¬ client.pinfo.opcode < 8)
    (data : List UInt8) (next : UInt8) :
    (client.lastPiece data next).filterMap ClientAction.command = [] := by
  have hreason := @filterMap_closeReason _ ClientAction.command (fun _ => rfl) data next
  unfold WebSocketClient.lastPiece
  split_ifs
  · rw [List.filterMap_append, hreason]
    rfl
  · rw [List.filterMap_append, hreason]
    rfl
  · rfl
  · rfl
  · rfl
  · rfl

theorem begun_zero_of_uncut {cuts : List ℕ} {position index : ℕ} {wire : WireFrame}
    (hbegun : Begun cuts position wire index)
    (huncut : Uncut cuts (position - index) wire.length) : index = 0 := by
  obtain ⟨hindex, hposition, hzero | ⟨hcut, hunread⟩⟩ := hbegun
  · exact hzero
  · have hplace := huncut position hcut
    omega

/-- The commands of a run: those of the frames whose payload is not cut. -/
def commandObservation (cuts : List ℕ) : Observation cuts Ph5Command where
  observe := ClientAction.command
  answer := WireFrame.commandUncut cuts
  part := by
    intro wire index data hshort
    refine webSocketCommand_eq_none (.inr (.inl ?_))
    simp only
    omega
  whole := by
    intro client wire index position next hshows hbegun huncut _
    have hopcode : client.pinfo.opcode = wire.frame.opcode :=
      congrArg AwsFrameInfo.opcode hshows.shown
    unfold WireFrame.commandUncut
    by_cases hdata : wire.frame.opcode < 8
    · rw [lastPiece_data (hopcode ▸ hdata), hshows.shown]
      by_cases hzero : index = 0
      · subst hzero
        rw [Nat.sub_zero] at huncut ⊢
        have hevent : wire.frame.event 0 wire.frame.payload =
            some ⟨⟨wire.frame.final, wire.frame.opcode, wire.length, 0⟩, wire.frame.payload⟩ := by
          unfold WebSocketFrame.event
          rw [if_neg (by omega), if_pos (by omega), if_pos hdata]
          rfl
        have hcommand := filterMap_event_payload wire.frame
        rw [hevent] at hcommand
        rw [if_pos huncut]
        exact hcommand
      · have hnone := @webSocketCommand_eq_none
          ⟨⟨wire.frame.final, wire.frame.opcode, wire.length, index⟩,
            wire.frame.payload.drop index⟩ (.inl hzero)
        rw [if_neg (fun hall => hzero (begun_zero_of_uncut hbegun hall))]
        simp only [ClientAction.command, hnone, List.filterMap_cons_none, List.filterMap_nil]
    · have hbinary : wire.frame.opcode ≠ wsBinary := by
        intro hbinary
        rw [hbinary] at hdata
        exact hdata (by decide)
      rw [lastPiece_control (hopcode ▸ hdata), command_eq_none hbinary]
      split_ifs <;> rfl

/-- **Reads past the segment.** They happen exactly if a segment boundary cuts a header. -/
theorem receive_outside_iff (frames : List WireFrame) {segments : List Segment}
    (hstream : segments.flatMap Segment.bytes = frames.flatMap WireFrame.bytes)
    (hcloses : closes frames ≤ 1) :
    (WebSocketClient.fresh.receive segments).2 = .outside ↔
      ¬ HeadersWhole (segmentCuts 0 segments) 0 frames := by
  obtain ⟨hread, hcut⟩ :=
    WebSocketClient.receive_stream (commandObservation (segmentCuts 0 segments)) hstream hcloses
  refine ⟨?_, hcut⟩
  intro houtside hwhole
  obtain ⟨⟨client, hending⟩, -⟩ := hread hwhole
  rw [houtside] at hending
  cases hending

/-! ## Control frames -/

/-- The data a control frame is made of. -/
def ClientAction.controlQueued : ClientAction → Option (UInt8 × List UInt8)
  | .queueControl opcode payload => some (opcode, payload)
  | _ => none

/-- The answer to a ping or to a closing frame: its payload from the last cut on. -/
def WireFrame.reply (cuts : List ℕ) (start : ℕ) (wire : WireFrame) :
    List (UInt8 × List UInt8) :=
  if wire.frame.opcode = wsDisconnect then
    [(wsDisconnect, wire.frame.payload.drop (lastCut cuts start wire.length))]
  else if wire.frame.opcode = wsPing then
    [(wsPong, wire.frame.payload.drop (lastCut cuts start wire.length))]
  else []

/-- The last cut is where the last piece starts. -/
theorem lastCut_eq {cuts : List ℕ} {position index : ℕ} {wire : WireFrame}
    (hbegun : Begun cuts position wire index)
    (huncut : Uncut cuts position (wire.length - index)) :
    lastCut cuts (position - index) wire.length = index := by
  obtain ⟨hindex, hposition, hcut⟩ := hbegun
  rw [lastCut, Nat.findGreatest_eq_iff]
  refine ⟨by omega, ?_, ?_⟩
  · intro hbegun
    obtain hzero | ⟨hcut, -⟩ := hcut
    · exact absurd hzero hbegun
    · rwa [Nat.sub_add_cancel hposition]
  · intro offset hafter hinside hmem
    have hplace := huncut _ hmem
    omega

def controlObservation (cuts : List ℕ) : Observation cuts (UInt8 × List UInt8) where
  observe := ClientAction.controlQueued
  answer := WireFrame.reply cuts
  part := fun _ _ _ _ => rfl
  whole := by
    intro client wire index position next hshows hbegun huncut hconnected
    have hopcode : client.pinfo.opcode = wire.frame.opcode :=
      congrArg AwsFrameInfo.opcode hshows.shown
    have hreason := @filterMap_closeReason _ ClientAction.controlQueued (fun _ => rfl)
      (wire.frame.payload.drop index) next
    unfold WireFrame.reply WebSocketClient.lastPiece
    rw [lastCut_eq hbegun huncut, hopcode]
    by_cases hclose : wire.frame.opcode = wsDisconnect
    · have hstatus : client.status ≠ .disconnecting := by
        rw [hconnected hclose]
        decide
      rw [if_pos hclose, if_pos hclose, if_neg hstatus, List.filterMap_append, hreason]
      rfl
    · rw [if_neg hclose, if_neg hclose]
      split_ifs <;> rfl

/-- What is queued to answer the control frames of a stream. -/
theorem receive_controls {frames : List WireFrame} {segments : List Segment}
    (hstream : segments.flatMap Segment.bytes = frames.flatMap WireFrame.bytes)
    (hcloses : closes frames ≤ 1) (hwhole : HeadersWhole (segmentCuts 0 segments) 0 frames) :
    (WebSocketClient.fresh.receive segments).1.filterMap ClientAction.controlQueued =
      answers (WireFrame.reply (segmentCuts 0 segments)) 0 frames :=
  ((WebSocketClient.receive_stream (controlObservation _) hstream hcloses).1 hwhole).2

theorem mem_answers {β : Type*} {answer : ℕ → WireFrame → List β} {start : ℕ}
    {frames : List WireFrame} {said : β} (hmem : said ∈ answers answer start frames) :
    ∃ wire ∈ frames, ∃ place, said ∈ answer place wire := by
  induction frames generalizing start with
  | nil => cases hmem
  | cons wire rest ih =>
      rcases List.mem_append.mp hmem with hhere | hlater
      · exact ⟨wire, List.mem_cons_self, _, hhere⟩
      · obtain ⟨other, hother, hsaid⟩ := ih hlater
        exact ⟨other, List.mem_cons_of_mem _ hother, hsaid⟩

/-- An answer is no longer than what it answers. -/
theorem controls_within {frames : List WireFrame} (hcontrols : ControlsFit frames)
    {cuts : List ℕ} {start : ℕ} :
    ∀ control ∈ answers (WireFrame.reply cuts) start frames, control.2.length ≤ 125 := by
  intro control hmem
  obtain ⟨wire, hwire, place, hreply⟩ := mem_answers hmem
  have hfits := hcontrols wire hwire
  have hdropped : (wire.frame.payload.drop (lastCut cuts place wire.length)).length ≤
      wire.length := (List.drop_sublist _ _).length_le
  unfold WireFrame.reply at hreply
  split_ifs at hreply with hclose hping
  · rw [List.mem_singleton.mp hreply]
    exact hdropped.trans (hfits (.inr hclose))
  · rw [List.mem_singleton.mp hreply]
    exact hdropped.trans (hfits (.inl hping))
  · cases hreply

/-- **Commands from raw bytes.** Frames with any masks and length forms, in segments
cut anywhere but inside a header: every byte is read, none is read past a segment, no
control frame is filled beyond its room, and the commands given to `processCommand` are
those of the frames whose payload no segment boundary cuts, in order. -/
theorem receive_commands (frames : List WireFrame) {segments : List Segment}
    (hstream : segments.flatMap Segment.bytes = frames.flatMap WireFrame.bytes)
    (hcloses : closes frames ≤ 1) (hcontrols : ControlsFit frames)
    (hwhole : HeadersWhole (segmentCuts 0 segments) 0 frames) :
    (∃ client, (WebSocketClient.fresh.receive segments).2 = .consumed client) ∧
      (∀ control ∈
          (WebSocketClient.fresh.receive segments).1.filterMap ClientAction.controlQueued,
        control.2.length ≤ 125) ∧
      (WebSocketClient.fresh.receive segments).1.filterMap ClientAction.command =
        answers (WireFrame.commandUncut (segmentCuts 0 segments)) 0 frames := by
  obtain ⟨hconsumed, hcommands⟩ :=
    (WebSocketClient.receive_stream (commandObservation _) hstream hcloses).1 hwhole
  refine ⟨hconsumed, ?_, hcommands⟩
  rw [receive_controls hstream hcloses hwhole]
  exact controls_within hcontrols

/-! ## Pings -/

def ClientAction.pongQueued (action : ClientAction) : Option (List UInt8) :=
  action.controlQueued.bind fun control =>
    if control.1 = wsPong then some control.2 else none

/-- The answer to a ping: its payload from the last cut on. -/
def WireFrame.pong (cuts : List ℕ) (start : ℕ) (wire : WireFrame) : List (List UInt8) :=
  if wire.frame.opcode = wsPing then
    [wire.frame.payload.drop (lastCut cuts start wire.length)]
  else []

theorem filterMap_answers {β γ : Type*} (f : β → Option γ) (answer : ℕ → WireFrame → List β)
    (start : ℕ) (frames : List WireFrame) :
    (answers answer start frames).filterMap f =
      answers (fun place wire => (answer place wire).filterMap f) start frames := by
  induction frames generalizing start with
  | nil => rfl
  | cons wire rest ih => rw [answers, answers, List.filterMap_append, ih]

/-- **Pongs.** Each ping is answered once, in order, and the pong has room for its payload; a
ping that a segment boundary cuts is answered with what came after the last boundary only. -/
theorem receive_pongs (frames : List WireFrame) {segments : List Segment}
    (hstream : segments.flatMap Segment.bytes = frames.flatMap WireFrame.bytes)
    (hcloses : closes frames ≤ 1) (hcontrols : ControlsFit frames)
    (hwhole : HeadersWhole (segmentCuts 0 segments) 0 frames) :
    (WebSocketClient.fresh.receive segments).1.filterMap ClientAction.pongQueued =
        answers (WireFrame.pong (segmentCuts 0 segments)) 0 frames ∧
      ∀ payload ∈ (WebSocketClient.fresh.receive segments).1.filterMap ClientAction.pongQueued,
        payload.length ≤ 125 := by
  have hqueued := receive_controls hstream hcloses hwhole
  have hpongs : (WebSocketClient.fresh.receive segments).1.filterMap ClientAction.pongQueued =
      (answers (WireFrame.reply (segmentCuts 0 segments)) 0 frames).filterMap fun control =>
        if control.1 = wsPong then some control.2 else none := by
    rw [← hqueued, List.filterMap_filterMap]
    rfl
  refine ⟨?_, ?_⟩
  · rw [hpongs, filterMap_answers]
    congr 1
    funext place wire
    unfold WireFrame.reply WireFrame.pong
    by_cases hclose : wire.frame.opcode = wsDisconnect
    · rw [if_pos hclose, hclose]
      rfl
    · rw [if_neg hclose]
      split_ifs <;> rfl
  · intro payload hmem
    rw [hpongs, List.mem_filterMap] at hmem
    obtain ⟨control, hcontrol, hpayload⟩ := hmem
    split_ifs at hpayload
    obtain rfl := Option.some.inj hpayload
    exact controls_within hcontrols control hcontrol

/-! ## A ping and two commands -/

def maskedPing : WireFrame where
  frame := { final := true, opcode := wsPing, payload := [1, 2, 3] }
  mask := some #v[0x10, 0x20, 0x30, 0x40]
  form := .short
  opcode_lt := by decide
  fits := by decide

def maskedStop : WireFrame where
  frame := stopFrame
  mask := some #v[0x0F, 0xA0, 0x55, 0x01]
  form := .medium
  opcode_lt := by decide
  fits := by decide

def pingAndStops : List WireFrame :=
  [maskedPing, maskedStop, maskedStop]

/-- The boundaries: in the ping's payload, between the header and the payload of the
first command, and in the payload of the second. -/
def cutStream : List Segment :=
  let bytes := pingAndStops.flatMap WireFrame.bytes
  [⟨bytes.take 8, 0⟩, ⟨(bytes.drop 8).take 9, 0⟩, ⟨(bytes.drop 17).take 50, 0⟩,
    ⟨bytes.drop 67, 0⟩]

theorem cutStream_commands :
    (WebSocketClient.fresh.receive cutStream).1.filterMap ClientAction.command =
      [{ Ph5Command.fresh with type := .stopXY }] :=
  (receive_commands pingAndStops (by decide) (by decide) (by decide) (by decide)).2.2.trans
    (by decide)

theorem cutStream_pongs :
    (WebSocketClient.fresh.receive cutStream).1.filterMap ClientAction.pongQueued = [[3]] :=
  (receive_pongs pingAndStops (by decide) (by decide) (by decide) (by decide)).1.trans
    (by decide)

/-- A boundary in the mask of the ping. -/
theorem cutHeader_outside :
    (WebSocketClient.fresh.receive
      [⟨maskedPing.bytes.take 4, 0⟩, ⟨maskedPing.bytes.drop 4, 0⟩]).2 = .outside :=
  (receive_outside_iff [maskedPing] (by decide) (by decide)).mpr (by decide)

end Ph5Firmware
