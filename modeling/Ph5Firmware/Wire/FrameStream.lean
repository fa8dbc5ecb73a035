import Ph5Firmware.Wire.FrameParser

/-!
# The bytes of a frame

`WireFrame` is a frame together with the way it is put on the wire: with or without a
mask, its length written in 7, 16 or 64 bits.

* `readHeader_header`: the client reads such a header back, whatever it knew before;
* `readHeader_short`: of a part of a header it reads past the segment;
* `turn_whole` and `turn_part`: with the header read, a turn of the loop hands on the
  rest of the payload, unmasked, or as much of it as the segment holds.

How the frames of a stream come through the segments is in `Wire.Delivery`.
-/

namespace Ph5Firmware

/-! ## Frames as they are sent -/

/-- How a header writes the length of the payload. -/
inductive LengthForm where
  | short
  | medium
  | long
  deriving DecidableEq

namespace LengthForm

/-- Lengths below this can be written; a `size_t` counts the payload. -/
def bound : LengthForm → ℕ
  | short => 126
  | medium => 2 ^ 16
  | long => 2 ^ 32

def code : LengthForm → ℕ → ℕ
  | short, length => length
  | medium, _ => 126
  | long, _ => 127

def extended : LengthForm → ℕ → List UInt8
  | short, _ => []
  | medium, length => (ByteMemory.store 2 length).reverse
  | long, length => (ByteMemory.store 8 length).reverse

end LengthForm

/-- A frame, and how it is put on the wire. -/
structure WireFrame where
  frame : WebSocketFrame
  mask : Option (Vector UInt8 4)
  form : LengthForm
  opcode_lt : frame.opcode < 16
  fits : frame.payload.length < form.bound

namespace WireFrame

def length (wire : WireFrame) : ℕ :=
  wire.frame.payload.length

def header (wire : WireFrame) : List UInt8 :=
  ((if wire.frame.final then 0x80 else 0) ||| wire.frame.opcode) ::
    ((if wire.mask.isSome then 0x80 else 0) ||| UInt8.ofNat (wire.form.code wire.length)) ::
      (wire.form.extended wire.length ++ (wire.mask.map Vector.toList).getD [])

/-- The payload from `index` on, as it is sent. -/
def bodyFrom (wire : WireFrame) (index : ℕ) : List UInt8 :=
  match wire.mask with
  | some mask => NetworkBytes.masked (maskKey mask) index (wire.frame.payload.drop index)
  | none => wire.frame.payload.drop index

def bytes (wire : WireFrame) : List UInt8 :=
  wire.header ++ wire.bodyFrom 0

theorem length_bodyFrom (wire : WireFrame) (index : ℕ) :
    (wire.bodyFrom index).length = wire.length - index := by
  unfold bodyFrom length
  cases wire.mask with
  | some mask => simp
  | none => simp

theorem drop_bodyFrom (wire : WireFrame) (index count : ℕ) :
    (wire.bodyFrom index).drop count = wire.bodyFrom (index + count) := by
  unfold bodyFrom
  cases wire.mask with
  | some mask => simp only [NetworkBytes.drop_masked, List.drop_drop]
  | none => simp only [List.drop_drop]

theorem length_lt (wire : WireFrame) : wire.length < 2 ^ 32 := by
  have hfits := wire.fits
  have hbound : wire.form.bound ≤ 2 ^ 32 := by
    cases wire.form with
    | short => decide
    | medium => decide
    | long => decide
  exact lt_of_lt_of_le hfits hbound

end WireFrame

/-! ## Reading a header -/

/-- The client has read this header. -/
structure FrameInfo.Shows (pinfo : FrameInfo) (wire : WireFrame) (index : ℕ) : Prop where
  shown : pinfo.toAwsFrameInfo = ⟨wire.frame.final, wire.frame.opcode, wire.length, index⟩
  masked : pinfo.masked = wire.mask.isSome
  mask : ∀ mask ∈ wire.mask, pinfo.mask = mask

namespace WebSocketClient

theorem firstByte_fields : ∀ (final : Bool) (opcode : Fin 16),
    (((if final then 0x80 else 0) ||| UInt8.ofNat opcode) &&& 0x80 != 0) = final ∧
      ((if final then 0x80 else 0) ||| UInt8.ofNat opcode) &&& 0x0F = UInt8.ofNat opcode := by
  decide

theorem secondByte_fields : ∀ (masked : Bool) (code : Fin 128),
    (((if masked then 0x80 else 0) ||| UInt8.ofNat code) &&& 0x80 != 0) = masked ∧
      (((if masked then 0x80 else 0) ||| UInt8.ofNat code) &&& 0x7F).toNat = code := by
  decide

theorem code_lt {form : LengthForm} {length : ℕ} (hfits : length < form.bound) :
    form.code length < 128 := by
  cases form with
  | short => exact hfits.trans (by decide)
  | medium => exact (by decide : 126 < 128)
  | long => exact (by decide : 127 < 128)

theorem readLength_extended {form : LengthForm} {length : ℕ} (hfits : length < form.bound)
    (rest : List UInt8) :
    FrameInfo.readLength (form.code length) (form.extended length ++ rest) =
      some (length, rest) := by
  cases form with
  | short =>
      have hshort : length < 126 := hfits
      have hplain : length ≠ 126 ∧ length ≠ 127 := by omega
      change FrameInfo.readLength length rest = _
      rw [FrameInfo.readLength, if_neg hplain.1, if_neg hplain.2]
  | medium =>
      have hmedium : length < 256 ^ 2 := hfits
      have hnumber := NetworkBytes.bigEndian_reverse_store hmedium
      have hwidth : (ByteMemory.store 2 length).reverse.length = 2 := by simp
      have henough : ¬ ((ByteMemory.store 2 length).reverse ++ rest).length < 2 := by
        rw [List.length_append]
        omega
      rw [FrameInfo.readLength, LengthForm.code, LengthForm.extended, if_pos rfl,
        if_neg henough, List.take_left' hwidth, List.drop_left' hwidth, hnumber]
  | long =>
      have hlong : length < 256 ^ 8 := lt_trans hfits (by decide)
      have hnumber := NetworkBytes.bigEndian_reverse_store hlong
      have hwidth : (ByteMemory.store 8 length).reverse.length = 8 := by simp
      have henough : ¬ ((ByteMemory.store 8 length).reverse ++ rest).length < 8 := by
        rw [List.length_append]
        omega
      rw [FrameInfo.readLength, LengthForm.code, LengthForm.extended, if_neg (by decide),
        if_pos rfl, if_neg henough, List.take_left' hwidth, List.drop_left' hwidth, hnumber]

/-- A header reads back, whatever the client knew of the frame before. -/
theorem readHeader_header (pinfo : FrameInfo) (wire : WireFrame) (rest : List UInt8) :
    ∃ opened, pinfo.readHeader (wire.header ++ rest) = some (opened, rest) ∧
      opened.Shows wire 0 := by
  obtain ⟨hfinal, hopcode⟩ :=
    firstByte_fields wire.frame.final ⟨wire.frame.opcode.toNat, wire.opcode_lt⟩
  obtain ⟨hmasked, hcode⟩ := secondByte_fields wire.mask.isSome ⟨_, code_lt wire.fits⟩
  have hlength := readLength_extended wire.fits ((wire.mask.map Vector.toList).getD [] ++ rest)
  simp only [UInt8.ofNat_toNat] at hfinal hopcode
  simp only at hcode
  simp only [WireFrame.header, FrameInfo.readHeader, List.cons_append, List.append_assoc,
    WireFrame.length, hcode, hlength, hfinal, hopcode, hmasked]
  unfold FrameInfo.readMask
  cases hmask : wire.mask with
  | none =>
      refine ⟨_, rfl, rfl, ?_, ?_⟩
      · rw [hmask]
      · simp [hmask]
  | some mask =>
      obtain ⟨first, second, third, fourth, hbytes⟩ := List.length_eq_four.mp mask.length_toList
      have hvector : #v[first, second, third, fourth] = mask := Vector.toList_inj.mp hbytes.symm
      simp only [Option.isSome_some, if_true, Option.map_some, Option.getD_some, hbytes,
        List.cons_append, List.nil_append]
      refine ⟨_, rfl, rfl, ?_, ?_⟩
      · rw [hmask]
        rfl
      · simp [hmask, hvector]

theorem readLength_short {form : LengthForm} {length : ℕ} (hfits : length < form.bound)
    {bytes : List UInt8} (hshort : bytes.length < (form.extended length).length) :
    FrameInfo.readLength (form.code length) bytes = none := by
  cases form with
  | short => cases hshort
  | medium =>
      have htwo : bytes.length < 2 := by simpa [LengthForm.extended] using hshort
      rw [FrameInfo.readLength, LengthForm.code, if_pos rfl, if_pos htwo]
  | long =>
      have height : bytes.length < 8 := by simpa [LengthForm.extended] using hshort
      rw [FrameInfo.readLength, LengthForm.code, if_neg (by decide), if_pos rfl, if_pos height]

/-- A part of a header does not read. -/
theorem readHeader_short (pinfo : FrameInfo) {wire : WireFrame} {bytes : List UInt8}
    (hbytes : bytes <+: wire.header) (hshort : bytes.length < wire.header.length) :
    pinfo.readHeader bytes = none := by
  have hfits : wire.length < wire.form.bound := wire.fits
  obtain ⟨hmasked, hcode⟩ := secondByte_fields wire.mask.isSome ⟨_, code_lt hfits⟩
  simp only at hcode
  unfold WireFrame.header at hbytes hshort
  cases bytes with
  | nil => rfl
  | cons first bytes =>
      cases bytes with
      | nil => rfl
      | cons second tail =>
          obtain ⟨rfl, hafter⟩ := List.cons_prefix_cons.mp hbytes
          obtain ⟨rfl, htail⟩ := List.cons_prefix_cons.mp hafter
          simp only [List.length_cons, List.length_append] at hshort
          simp only [FrameInfo.readHeader, hcode, hmasked]
          -- the bytes end in the extended length, or in the mask
          by_cases hextended : tail.length < (wire.form.extended wire.length).length
          · rw [readLength_short hfits hextended]
          · obtain ⟨rest, rfl⟩ := List.prefix_of_prefix_length_le (List.prefix_append _ _) htail
              (Nat.le_of_not_lt hextended)
            have hrest := (List.prefix_append_right_inj _).mp htail
            rw [readLength_extended hfits rest]
            simp only [List.length_append] at hshort
            unfold FrameInfo.readMask
            cases hmask : wire.mask with
            | none =>
                rw [hmask] at hshort
                simp at hshort
            | some mask =>
                have hfour : rest.length < 4 := by
                  rw [hmask] at hshort
                  simp at hshort
                  omega
                simp only [Option.isSome_some, if_true]
                split
                · simp only [List.length_cons] at hfour
                  omega
                · rfl

/-! ## The two ways a turn goes -/

/-- What the client finds of a payload, unmasked. -/
theorem unmask_body {pinfo : FrameInfo} {wire : WireFrame} {index : ℕ}
    (hshows : pinfo.Shows wire index) : pinfo.unmask (wire.bodyFrom index) =
      wire.frame.payload.drop index := by
  have hindex : pinfo.index = index := congrArg AwsFrameInfo.index hshows.shown
  unfold FrameInfo.unmask WireFrame.bodyFrom
  rw [hshows.masked, hindex]
  cases hmask : wire.mask with
  | none => rfl
  | some mask =>
      simp only [Option.isSome_some, if_true, hshows.mask mask hmask,
        NetworkBytes.masked_masked]

theorem unmask_take (pinfo : FrameInfo) (count : ℕ) (data : List UInt8) :
    pinfo.unmask (data.take count) = (pinfo.unmask data).take count := by
  unfold FrameInfo.unmask
  split_ifs
  · rw [NetworkBytes.take_masked]
  · rfl

/-- The rest of the payload has arrived. -/
theorem turn_whole {client : WebSocketClient} (past : UInt8) {bytes rest : List UInt8}
    {pinfo : FrameInfo} {wire : WireFrame} {index : ℕ}
    (hopened : client.opened bytes = some (pinfo, wire.bodyFrom index ++ rest))
    (hshows : pinfo.Shows wire index) (hindex : index ≤ wire.length) :
    client.turn past bytes =
      .piece { client with pinfo := pinfo }.finished
        ({ client with pinfo := pinfo }.lastPiece (wire.frame.payload.drop index)
          (rest.headD past)) rest := by
  have hlen : pinfo.len = wire.length := congrArg AwsFrameInfo.len hshows.shown
  have hat : pinfo.index = index := congrArg AwsFrameInfo.index hshows.shown
  have hlength := wire.length_bodyFrom index
  have hsize := wire.length_lt
  have hdatalen : wire.length - index =
      min ((pinfo.len - pinfo.index) % 2 ^ 32) (wire.bodyFrom index ++ rest).length := by
    rw [List.length_append, hlength, hlen, hat, Nat.mod_eq_of_lt (by omega)]
    omega
  rw [turn_eq hopened hdatalen, if_neg (by omega), if_pos (by omega), ← hlength,
    List.take_left, List.drop_left, unmask_body hshows]

/-- Only a part of it has. -/
theorem turn_part {client : WebSocketClient} (past : UInt8) {bytes body : List UInt8}
    {pinfo : FrameInfo} {wire : WireFrame} {index : ℕ}
    (hopened : client.opened bytes = some (pinfo, body)) (hshows : pinfo.Shows wire index)
    (hbody : body <+: wire.bodyFrom index) (hshort : index + body.length < wire.length) :
    client.turn past bytes =
      .piece
        { client with
          pstate := true
          pinfo := { pinfo.counted with index := index + body.length } }
        [.data ⟨⟨wire.frame.final, wire.frame.opcode, wire.length, index⟩,
          (wire.frame.payload.drop index).take body.length⟩] [] := by
  have hlen : pinfo.len = wire.length := congrArg AwsFrameInfo.len hshows.shown
  have hat : pinfo.index = index := congrArg AwsFrameInfo.index hshows.shown
  have hsize := wire.length_lt
  have hdatalen : body.length = min ((pinfo.len - pinfo.index) % 2 ^ 32) body.length := by
    rw [hlen, hat, Nat.mod_eq_of_lt (by omega)]
    omega
  have hdata : pinfo.unmask (body.take body.length) =
      (wire.frame.payload.drop index).take body.length := by
    rw [List.take_length, ← unmask_body hshows, ← unmask_take, ← List.prefix_iff_eq_take.mp hbody]
  have hcounted : pinfo.counted.toAwsFrameInfo = pinfo.toAwsFrameInfo := by
    unfold FrameInfo.counted
    split_ifs <;> rfl
  rw [turn_eq hopened hdatalen, if_pos (by omega), hdata, List.drop_length, counted_index, hat,
    hcounted, hshows.shown]

/-- A frame as the client knows it after a part of the payload. -/
theorem shows_part {pinfo : FrameInfo} {wire : WireFrame} {index : ℕ}
    (hshows : pinfo.Shows wire index) (next : ℕ) :
    FrameInfo.Shows { pinfo.counted with index := next } wire next := by
  obtain ⟨hshown, hmasked, hmask⟩ := hshows
  have hcounted : pinfo.counted.toAwsFrameInfo = pinfo.toAwsFrameInfo ∧
      pinfo.counted.masked = pinfo.masked ∧ pinfo.counted.mask = pinfo.mask := by
    unfold FrameInfo.counted
    split_ifs <;> exact ⟨rfl, rfl, rfl⟩
  refine ⟨?_, hcounted.2.1.trans hmasked, ?_⟩
  · simp only [hcounted.1, hshown]
  · intro mask hmem
    exact hcounted.2.2.trans (hmask mask hmem)

end WebSocketClient

end Ph5Firmware
