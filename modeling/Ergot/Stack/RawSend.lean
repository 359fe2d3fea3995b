import Ergot.Lib.Flavor
import Ergot.Stack.Borrow

/-!
# Raw sends

A raw frame is a header in front of bytes that are there already. Both sinks and the borrow
sockets ask their queue for a grant that is sized by the header, encode into it, and commit what
was written.

- `Serializer.encodeFrameHdr` is `encode_frame_hdr`, which hands the fields to a flavor one by
  one. It fails when the flavor does.
- `RawEnd` is where a raw send ended. `sendRaw_eq` and `recvRaw_eq` connect `sendRawEnd` and
  `recvRawEnd` with the sends that write a frame at once.
- `header_bound`: `maxHdrEncodedSize` is large enough for every header, so no raw send fails to
  encode once it has a grant, and none commits more than it was granted.
-/

namespace Ergot

/-! ## Serializers -/

namespace Serializer

variable {φ : Type} [Flavor φ UInt8]

/-- The serializer of a `u32`: the bytes of the varint in one piece. -/
def serializeU32 (ser : φ) (n : UInt32) : Option φ := Flavor.tryExtend ser (Varint.u32.encode n)

/-- `WireCommonHeader::serialize`. -/
def serializeCommon (ser : φ) (hdr : WireCommonHeader) : Option φ := do
  let ser ← serializeU32 ser hdr.src.asU32
  let ser ← serializeU32 ser hdr.dst.asU32
  Flavor.tryPush ser hdr.packed

/-- `encode_frame_hdr`. -/
def encodeFrameHdr (ser : φ) (hdr : Header) : Option φ := do
  let ser ← serializeCommon ser hdr.common.toWire
  match hdr.anyAll with
  | none => some ser
  | some app => do
    let ser ← Flavor.tryExtend ser app.key.bytes.toList
    serializeU32 ser (NameHash.toWord app.nash)

/-- A header, the bytes behind it, and the end of the frame. -/
def encodeRaw (ser : φ) (hdr : Header) (body : List UInt8) : Option (List UInt8) := do
  let ser ← encodeFrameHdr ser hdr
  let ser ← Flavor.tryExtend ser body
  Flavor.finalize ser

variable {spec : Flavor.Spec φ}

theorem serializeCommon_some {ser ser' : φ} {hdr : WireCommonHeader}
    (h : serializeCommon ser hdr = some ser') :
    spec.Wrote ser (WireCommonHeader.codec.encode hdr) ser' := by
  obtain ⟨ser₁, hsrc, h⟩ := Option.bind_eq_some_iff.mp h
  obtain ⟨ser₂, hdst, hmeta⟩ := Option.bind_eq_some_iff.mp h
  have hwrote : spec.Wrote ser _ ser₁ := spec.extend_some hsrc
  exact hwrote.trans (Flavor.Spec.Wrote.trans (spec.extend_some hdst) (spec.push_some hmeta))

/-- What is written is the header's encoding. -/
theorem encodeFrameHdr_some {ser ser' : φ} {hdr : Header}
    (h : encodeFrameHdr ser hdr = some ser') :
    spec.Wrote ser (Ergot.encodeFrameHdr hdr) ser' := by
  obtain ⟨ser₁, hcommon, h⟩ := Option.bind_eq_some_iff.mp h
  have hwrote : spec.Wrote ser _ ser₁ := serializeCommon_some hcommon
  unfold Ergot.encodeFrameHdr
  cases happ : hdr.anyAll with
  | none =>
    rw [happ] at h
    cases h
    exact hwrote.trans (.refl _)
  | some app =>
    rw [happ] at h
    obtain ⟨ser₂, hkey, hnash⟩ := Option.bind_eq_some_iff.mp h
    exact hwrote.trans (Flavor.Spec.Wrote.trans (spec.extend_some hkey) (spec.extend_some hnash))

theorem serializeCommon_room {ser : φ} {n : Nat} (hdr : WireCommonHeader)
    (h : spec.Room ser ((WireCommonHeader.codec.encode hdr).length + n)) :
    ∃ ser', serializeCommon ser hdr = some ser' ∧ spec.Room ser' n := by
  have hlen : (WireCommonHeader.codec.encode hdr).length =
      (Varint.u32.encode hdr.src.asU32).length +
        ((Varint.u32.encode hdr.dst.asU32).length + 1) := by
    show (_ ++ (_ ++ [_])).length = _
    rw [List.length_append, List.length_append, List.length_singleton]
    rfl
  rw [hlen, Nat.add_assoc, Nat.add_assoc, Nat.add_comm 1 n] at h
  obtain ⟨ser₁, hsrc, hroom₁⟩ := spec.extend_room _ h
  obtain ⟨ser₂, hdst, hroom₂⟩ := spec.extend_room _ hroom₁
  obtain ⟨ser₃, hmeta, hroom₃⟩ := spec.push_room hdr.packed hroom₂
  refine ⟨ser₃, ?_, hroom₃⟩
  exact Option.bind_eq_some_iff.mpr ⟨ser₁, hsrc, Option.bind_eq_some_iff.mpr ⟨ser₂, hdst, hmeta⟩⟩

/-- It is written if there is room for it. -/
theorem encodeFrameHdr_room {ser : φ} {n : Nat} (hdr : Header)
    (h : spec.Room ser ((Ergot.encodeFrameHdr hdr).length + n)) :
    ∃ ser', encodeFrameHdr ser hdr = some ser' ∧ spec.Room ser' n := by
  unfold Ergot.encodeFrameHdr at h
  rw [List.length_append, Nat.add_assoc] at h
  obtain ⟨ser₁, hcommon, hroom₁⟩ := serializeCommon_room _ h
  unfold encodeFrameHdr
  cases happ : hdr.anyAll with
  | none =>
    rw [happ, List.length_nil, Nat.zero_add] at hroom₁
    exact ⟨ser₁, Option.bind_eq_some_iff.mpr ⟨ser₁, hcommon, rfl⟩, hroom₁⟩
  | some app =>
    have hlen : (AnyAllAppendix.codec.encode app).length =
        app.key.bytes.toList.length + (Varint.u32.encode (NameHash.toWord app.nash)).length :=
      List.length_append
    rw [happ] at hroom₁
    dsimp only at hroom₁
    rw [hlen, Nat.add_assoc] at hroom₁
    obtain ⟨ser₂, hkey, hroom₂⟩ := spec.extend_room _ hroom₁
    obtain ⟨ser₃, hnash, hroom₃⟩ := spec.extend_room _ hroom₂
    refine ⟨ser₃, ?_, hroom₃⟩
    exact Option.bind_eq_some_iff.mpr
      ⟨ser₁, hcommon, Option.bind_eq_some_iff.mpr ⟨ser₂, hkey, hnash⟩⟩

/-- A raw frame is written if there is room for it. -/
theorem encodeRaw_room {ser : φ} {hdr : Header} {body : List UInt8}
    (h : spec.Room ser ((Ergot.encodeFrameHdr hdr).length + body.length)) :
    encodeRaw ser hdr body =
        some (spec.output (spec.pushed ser ++ (Ergot.encodeFrameHdr hdr ++ body))) ∧
      (spec.output (spec.pushed ser ++ (Ergot.encodeFrameHdr hdr ++ body))).length ≤
        spec.size ser := by
  rw [← Nat.add_zero body.length] at h
  obtain ⟨ser₁, hhdr, hroom₁⟩ := encodeFrameHdr_room hdr h
  obtain ⟨ser₂, hbody, hroom₂⟩ := spec.extend_room body hroom₁
  obtain ⟨hfinal, hle⟩ := spec.finalize_room hroom₂
  have hwrote : spec.Wrote ser _ ser₂ := (encodeFrameHdr_some hhdr).trans (spec.extend_some hbody)
  rw [hwrote.1] at hfinal hle
  rw [hwrote.2] at hle
  refine ⟨?_, hle⟩
  exact Option.bind_eq_some_iff.mpr
    ⟨ser₁, hhdr, Option.bind_eq_some_iff.mpr ⟨ser₂, hbody, hfinal⟩⟩

end Serializer

/-- postcard's `Cobs` flavor over a slice: the zero is appended in the end. -/
abbrev CobsCrates.Cobs (crates : CobsCrates) : Type := Coded crates.encode [0]

/-! ## Where a raw send ends -/

inductive RawEnd
  /-- before anything was encoded -/
  | refused
  | noGrant
  | encodeError
  | committed (grant : Nat) (frame : List UInt8)

namespace RawEnd

/-- The frame, if one was committed. -/
def frames : RawEnd → List (List UInt8)
  | .committed _ frame => [frame]
  | _ => []

/-- What a sink answers. -/
def accepted : RawEnd → Bool
  | .committed _ _ => true
  | _ => false

/-- What a borrow socket answers. -/
def answer : RawEnd → Except SocketSendError Unit
  | .committed _ _ => .ok ()
  | .encodeError => .error .whatTheHell
  | _ => .error .noSpace

/-- The header was encoded, and what was committed was granted. -/
def Sound (fin : RawEnd) : Prop :=
  fin ≠ .encodeError ∧ ∀ grant frame, fin = .committed grant frame → frame.length ≤ grant

theorem Sound.refused : Sound .refused := ⟨nofun, nofun⟩

end RawEnd

section Sends

variable {κ : Type} [BbqHandle κ]

/-- A grant, and what is encoded into it. A grant that is dropped commits nothing. -/
def grantAndWrite (prod : κ) (maxLen : Nat) (encoded : Option (List UInt8)) : RawEnd × κ :=
  match BbqHandle.grantExact prod maxLen with
  | (false, prod) => (.noGrant, prod)
  | (true, prod) =>
    match encoded with
    | none => (.encodeError, BbqHandle.commit prod [])
    | some used => (.committed maxLen used, BbqHandle.commit prod used)

/-- `send_raw` of a packet interface, and where it ended. Lengths are a `u16`. -/
def FramedStream.Sink.sendRawEnd (s : FramedStream.Sink κ) (hdr : Header) (body : List UInt8) :
    RawEnd × κ :=
  if hdr.kind = .protocolError then (.refused, s.prod)
  else
    let maxLen := maxHdrEncodedSize + body.length
    if maxLen < UInt16.size then
      grantAndWrite s.prod maxLen do
        let used ← Serializer.encodeRaw (Slice.new maxLen) hdr body
        -- `u16::try_from(used)`
        if used.length < UInt16.size then some used else none
    else (.refused, s.prod)

/-- `send_raw` of a COBS stream. The grant has a byte for the delimiter. -/
def Sink.sendRawEnd {crates : CobsCrates} (s : Sink crates κ) (hdr : Header) (body : List UInt8) :
    RawEnd × κ :=
  if hdr.kind = .protocolError then (.refused, s.prod)
  else
    let maxLen := crates.maxEncodingLength (maxHdrEncodedSize + body.length) + 1
    grantAndWrite s.prod maxLen do
      let ser : crates.Cobs ← Coded.tryNew maxLen
      Serializer.encodeRaw ser hdr body

/-- `recv_raw` of a borrow socket: the header is encoded on the stack, then the grant is for as
much as is needed. -/
def BorrowSocket.recvRawEnd (s : BorrowSocket κ) (that : List UInt8) (hdr : Header) : RawEnd × κ :=
  match (Serializer.encodeFrameHdr (Slice.new maxHdrEncodedSize) hdr).bind Flavor.finalize with
  | none => (.encodeError, s.queue)
  | some hdrUsed =>
    let needed := that.length + hdrUsed.length
    if needed < UInt16.size then grantAndWrite s.queue needed (some (hdrUsed ++ that))
    else (.refused, s.queue)

/-! ## What they encode -/

theorem grantAndWrite_sound (prod : κ) {maxLen : Nat} {used : List UInt8}
    (h : used.length ≤ maxLen) : (grantAndWrite prod maxLen (some used)).1.Sound := by
  unfold grantAndWrite
  split
  · exact ⟨nofun, nofun⟩
  · refine ⟨nofun, ?_⟩
    intro grant frame hend
    cases hend
    exact h

/-- A slice for the largest header has room for the header and the body. -/
theorem encodeRaw_slice (hdr : Header) (body : List UInt8) :
    Serializer.encodeRaw (Slice.new (maxHdrEncodedSize + body.length)) hdr body =
      some (encodeFrameHdr hdr ++ body) := by
  have hroom : (Slice.spec (α := UInt8)).Room (Slice.new (maxHdrEncodedSize + body.length))
      ((encodeFrameHdr hdr).length + body.length) := by
    have hhdr := length_encodeFrameHdr_le hdr
    show 0 + ((encodeFrameHdr hdr).length + body.length) ≤ maxHdrEncodedSize + body.length
    omega
  exact (Serializer.encodeRaw_room hroom).1

/-- The buffer of a borrow socket has room for the header. -/
theorem encodeHdr_slice (hdr : Header) :
    (Serializer.encodeFrameHdr (Slice.new maxHdrEncodedSize) hdr).bind Flavor.finalize =
      some (encodeFrameHdr hdr) := by
  have hroom : (Slice.spec (α := UInt8)).Room (Slice.new maxHdrEncodedSize)
      ((encodeFrameHdr hdr).length + 0) := by
    have hhdr := length_encodeFrameHdr_le hdr
    show 0 + ((encodeFrameHdr hdr).length + 0) ≤ maxHdrEncodedSize
    omega
  obtain ⟨ser, hser, -⟩ := Serializer.encodeFrameHdr_room hdr hroom
  have hwrote : Slice.spec.Wrote (Slice.new maxHdrEncodedSize) (encodeFrameHdr hdr) ser :=
    Serializer.encodeFrameHdr_some hser
  rw [hser]
  exact congrArg some hwrote.1

/-- The longest code of the largest header and the body has room for that of the frame. -/
theorem encodeRaw_cobs {crates : CobsCrates} (hmono : Monotone crates.maxEncodingLength)
    (hbound : ∀ data, (crates.encode data).length ≤ crates.maxEncodingLength data.length)
    (hdr : Header) (body : List UInt8) {maxLen : Nat}
    (hlen : maxLen = crates.maxEncodingLength (maxHdrEncodedSize + body.length) + 1) :
    ((Coded.tryNew maxLen : Option crates.Cobs).bind fun ser => Serializer.encodeRaw ser hdr body) =
        some (crates.encode (encodeFrameHdr hdr ++ body) ++ [0]) ∧
      (crates.encode (encodeFrameHdr hdr ++ body) ++ [0]).length ≤ maxLen := by
  have hempty : (crates.encode []).length ≤ maxLen := by
    have hzero := Nat.le_trans (hbound []) (hmono (Nat.zero_le (maxHdrEncodedSize + body.length)))
    omega
  let spec : Flavor.Spec crates.Cobs := Coded.spec hbound hmono
  have hroom : spec.Room ⟨maxLen, [], hempty⟩ ((encodeFrameHdr hdr).length + body.length) := by
    have hhdr := length_encodeFrameHdr_le hdr
    have hle : (encodeFrameHdr hdr).length + body.length ≤ maxHdrEncodedSize + body.length := by
      omega
    have hmax := hmono hle
    show crates.maxEncodingLength (0 + ((encodeFrameHdr hdr).length + body.length)) + 1 ≤ maxLen
    rw [Nat.zero_add]
    omega
  unfold Coded.tryNew
  rw [dif_pos hempty]
  exact Serializer.encodeRaw_room hroom

/-! ## The sends that write a frame at once -/

/-- A packet sink sends as in `Wire.MtuLaw`. -/
theorem FramedStream.Sink.sendRaw_eq (s : FramedStream.Sink κ) (hdr : Header) (body : List UInt8) :
    InterfaceSink.sendRaw s hdr body = ((s.sendRawEnd hdr body).1.accepted,
      { s with
        prod := (s.sendRawEnd hdr body).2
        committed := s.committed ++ (s.sendRawEnd hdr body).1.frames }) := by
  have hle := length_packet_raw_le hdr body
  simp only [InterfaceSink.sendRaw, sendRawEnd, encodeRaw_slice, Option.bind_eq_bind,
    Option.bind_some]
  by_cases hkind : hdr.kind = .protocolError
  · simp [hkind, RawEnd.accepted, RawEnd.frames]
  · by_cases hlen : maxHdrEncodedSize + body.length < UInt16.size
    · have hused : (encodeFrameHdr hdr ++ body).length < UInt16.size := Nat.lt_of_le_of_lt hle hlen
      simp only [if_neg hkind, if_pos hlen, if_pos hused, write, if_pos hle, grantAndWrite]
      cases BbqHandle.grantExact s.prod (maxHdrEncodedSize + body.length) with
      | mk granted prod =>
        cases granted <;> simp [RawEnd.accepted, RawEnd.frames]
    · simp [hkind, hlen, RawEnd.accepted, RawEnd.frames]

/-- A COBS sink sends as in `Wire.CobsStream`. -/
theorem Sink.sendRaw_eq {crates : CobsCrates} (hmono : Monotone crates.maxEncodingLength)
    (hbound : ∀ data, (crates.encode data).length ≤ crates.maxEncodingLength data.length)
    (s : Sink crates κ) (hdr : Header) (body : List UInt8) :
    InterfaceSink.sendRaw s hdr body = ((s.sendRawEnd hdr body).1.accepted,
      { s with
        prod := (s.sendRawEnd hdr body).2
        committed := s.committed ++ (s.sendRawEnd hdr body).1.frames.flatten }) := by
  obtain ⟨hencode, hle⟩ := encodeRaw_cobs hmono hbound hdr body rfl
  simp only [InterfaceSink.sendRaw, sendRawEnd, Option.bind_eq_bind, hencode]
  by_cases hkind : hdr.kind = .protocolError
  · simp [hkind, RawEnd.accepted, RawEnd.frames]
  · simp only [if_neg hkind, write, if_pos hle, grantAndWrite]
    cases BbqHandle.grantExact s.prod _ with
    | mk granted prod =>
      cases granted <;> simp [RawEnd.accepted, RawEnd.frames]

/-- A borrow socket stores as in `Stack.Borrow`. -/
theorem BorrowSocket.recvRaw_eq (s : BorrowSocket κ) (that : List UInt8) (hdr : Header) :
    s.recvRaw that hdr = ((s.recvRawEnd that hdr).1.answer,
      { s with
        queue := (s.recvRawEnd that hdr).2
        frames := s.frames ++ (s.recvRawEnd that hdr).1.frames }) := by
  have hhdr : ¬ (encodeFrameHdr hdr).length > maxHdrEncodedSize :=
    Nat.not_lt.mpr (length_encodeFrameHdr_le hdr)
  have hlen : (encodeFrameHdr hdr ++ that).length ≤ that.length + (encodeFrameHdr hdr).length := by
    rw [List.length_append, Nat.add_comm]
  simp only [recvRaw, recvRawEnd, encodeHdr_slice, if_neg hhdr]
  by_cases hneeded : that.length + (encodeFrameHdr hdr).length < UInt16.size
  · simp only [if_pos hneeded, write, if_pos hlen, grantAndWrite]
    cases BbqHandle.grantExact s.queue _ with
    | mk granted queue =>
      cases granted <;> simp [RawEnd.answer, RawEnd.frames]
  · simp [hneeded, RawEnd.answer, RawEnd.frames]

/-! ## The bound -/

theorem FramedStream.Sink.sendRawEnd_sound (s : FramedStream.Sink κ) (hdr : Header)
    (body : List UInt8) : (s.sendRawEnd hdr body).1.Sound := by
  have hle := length_packet_raw_le hdr body
  unfold sendRawEnd
  split
  · exact .refused
  · dsimp only
    split
    · next hlen =>
      rw [encodeRaw_slice, Option.bind_eq_bind, Option.bind_some,
        if_pos (Nat.lt_of_le_of_lt hle hlen)]
      exact grantAndWrite_sound s.prod hle
    · exact .refused

theorem Sink.sendRawEnd_sound {crates : CobsCrates} (hmono : Monotone crates.maxEncodingLength)
    (hbound : ∀ data, (crates.encode data).length ≤ crates.maxEncodingLength data.length)
    (s : Sink crates κ) (hdr : Header) (body : List UInt8) : (s.sendRawEnd hdr body).1.Sound := by
  obtain ⟨hencode, hle⟩ := encodeRaw_cobs hmono hbound hdr body rfl
  unfold sendRawEnd
  split
  · exact .refused
  · dsimp only
    rw [Option.bind_eq_bind, hencode]
    exact grantAndWrite_sound s.prod hle

theorem BorrowSocket.recvRawEnd_sound (s : BorrowSocket κ) (that : List UInt8) (hdr : Header) :
    (s.recvRawEnd that hdr).1.Sound := by
  unfold recvRawEnd
  rw [encodeHdr_slice]
  dsimp only
  split
  · refine grantAndWrite_sound s.queue ?_
    rw [List.length_append, Nat.add_comm]
  · exact .refused

end Sends

/-- No header is longer than `maxHdrEncodedSize`, whatever flavor it is written to. No raw send
fails to encode, and none commits more than it was granted.

`hbound` is what `max_encoding_length` is for. The crate's own is one byte short of its encoder
where the input is nothing but full blocks, 254 bytes without a zero each. -/
theorem header_bound (crates : CobsCrates) (hmono : Monotone crates.maxEncodingLength)
    (hbound : ∀ data, (crates.encode data).length ≤ crates.maxEncodingLength data.length)
    {κ : Type} [BbqHandle κ] (hdr : Header) (body : List UInt8) :
    (∀ {φ : Type} [Flavor φ UInt8] (spec : Flavor.Spec φ) (ser ser' : φ),
      Serializer.encodeFrameHdr ser hdr = some ser' →
        ∃ written, spec.pushed ser' = spec.pushed ser ++ written ∧
          written.length ≤ maxHdrEncodedSize) ∧
    (∀ s : FramedStream.Sink κ, (s.sendRawEnd hdr body).1.Sound) ∧
    (∀ s : Sink crates κ, (s.sendRawEnd hdr body).1.Sound) ∧
    (∀ s : BorrowSocket κ, (s.recvRawEnd body hdr).1.Sound) := by
  refine ⟨?_, ?_, ?_, ?_⟩
  · intro φ _ spec ser ser' h
    have hwrote : spec.Wrote ser (encodeFrameHdr hdr) ser' := Serializer.encodeFrameHdr_some h
    exact ⟨encodeFrameHdr hdr, hwrote.1, length_encodeFrameHdr_le hdr⟩
  · exact fun s => s.sendRawEnd_sound hdr body
  · exact fun s => s.sendRawEnd_sound hmono hbound hdr body
  · exact fun s => s.recvRawEnd_sound body hdr

/-- The crates, but for the room for a code after every full block, which the crate's
`max_encoding_length` lacks where the length is a multiple of 254. Elsewhere they give the same. -/
def demoRoomyCrates : CobsCrates := { demoCrates with maxEncodingOverhead := fun n => n / 254 + 1 }

theorem demoRoomyCrates_mono : Monotone demoRoomyCrates.maxEncodingLength := by
  intro m n hmn
  show m + (m / 254 + 1) ≤ n + (n / 254 + 1)
  omega

/-- A request of one byte goes out of both sinks, and into a socket. -/
theorem header_bound_demo :
    (encodeFrameHdr demoRequest).length ≤ maxHdrEncodedSize ∧
    (((⟨24, {}, []⟩ : FramedStream.Sink EndlessQueue).sendRawEnd demoRequest [7]).1 =
        .committed 25 (encodeFrameHdr demoRequest ++ [7]) ∧
      (encodeFrameHdr demoRequest ++ [7]).length ≤ 25) ∧
    (((⟨24, {}, []⟩ : Sink demoRoomyCrates EndlessQueue).sendRawEnd demoRequest [7]).1 =
        .committed 27 (Cobs.encode (encodeFrameHdr demoRequest ++ [7]) ++ [0]) ∧
      (Cobs.encode (encodeFrameHdr demoRequest ++ [7]) ++ [0]).length ≤ 27) ∧
    (((⟨24, {}, [], false⟩ : BorrowSocket EndlessQueue).recvRawEnd [7] demoRequest).1 =
        .committed 6 (encodeFrameHdr demoRequest ++ [7]) ∧
      (encodeFrameHdr demoRequest ++ [7]).length ≤ 6) := by
  obtain ⟨hhdr, hpacket, hcobs, hborrow⟩ := header_bound demoRoomyCrates demoRoomyCrates_mono
    Cobs.length_encode_le (κ := EndlessQueue) demoRequest [7]
  refine ⟨?_, ⟨rfl, (hpacket ⟨24, {}, []⟩).2 _ _ rfl⟩, ⟨rfl, (hcobs ⟨24, {}, []⟩).2 _ _ rfl⟩,
    ⟨rfl, (hborrow ⟨24, {}, [], false⟩).2 _ _ rfl⟩⟩
  obtain ⟨written, hwritten, hle⟩ := hhdr Slice.spec (Slice.new 24) _ rfl
  rwa [show encodeFrameHdr demoRequest = written from hwritten]

/-- The bound is reached, and a slice that is shorter by one is refused. -/
theorem maxHdrEncodedSize_reached : ∃ hdr, (encodeFrameHdr hdr).length = maxHdrEncodedSize ∧
    Serializer.encodeFrameHdr (Slice.new (maxHdrEncodedSize - 1)) hdr = none := by
  refine ⟨⟨⟨0xffff, 0xff, 0xff⟩, ⟨0xffff, 0xff, 0xff⟩,
    some ⟨⟨.replicate 8 0⟩, some ⟨0xffffffff, ?_⟩⟩, .topicMsg, .normal, 15⟩, ?_, ?_⟩
  · decide
  · decide
  · rfl

end Ergot
