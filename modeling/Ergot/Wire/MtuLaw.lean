import Ergot.Wire.CobsStream

/-!
# The MTU

`InterfaceSink::mtu` is the largest ergot packet, header and payload, that an interface can
accept. What the ports compare with it is not always the packet.

- `FramedStream.Sink` is the sink of a packet interface (utils/framed_stream.rs), which asks its
  queue for a grant of the MTU.
- `MtuLaw` is the documentation, for one send.
- `EdgePort::send_raw` compares the largest header with it instead of the frame's own, so it
  refuses frames that fit. `cobs_stream` has a grant for the worst encoding of `mtu` bytes, so it
  takes larger frames whose encoding is better than that. `mtu_law_iff` says that there is nothing
  else.
-/

namespace Ergot

/-! ## The sink of a packet interface -/

namespace FramedStream

/-- `framed_stream::Sink`, with all the frames that it has committed. -/
structure Sink (κ : Type) where
  mtu : UInt16
  prod : κ
  committed : List (List UInt8)

namespace Sink

variable {κ : Type} [BbqHandle κ]

/-- A grant of `maxLen` bytes, into which a frame is written. The writer fails when it does not
fit. -/
def write (s : Sink κ) (maxLen : Nat) (frame : List UInt8) : Bool × Sink κ :=
  match BbqHandle.grantExact s.prod maxLen with
  | (false, prod) => (false, { s with prod })
  | (true, prod) =>
    if frame.length ≤ maxLen then
      (true, { s with prod := BbqHandle.commit prod frame, committed := s.committed ++ [frame] })
    else (false, { s with prod := BbqHandle.commit prod [] })

/-- Each method refuses the frame kinds of the others. The length of a grant is a `u16`. -/
instance : InterfaceSink (Sink κ) where
  mtu s := s.mtu
  sendTy s hdr body :=
    if hdr.kind = .protocolError then (false, s)
    else s.write s.mtu.toNat (encodeFrameTy hdr body.bytes)
  sendRaw s hdr body :=
    if hdr.kind = .protocolError then (false, s)
    else if maxHdrEncodedSize + body.length < UInt16.size then
      s.write (maxHdrEncodedSize + body.length) (encodeFrameHdr hdr ++ body)
    else (false, s)
  sendErr s hdr err :=
    if hdr.kind ≠ .protocolError then (false, s)
    else s.write s.mtu.toNat (encodeFrameErr hdr err)

theorem write_iff (s : Sink κ) (hroom : ∀ n, (BbqHandle.grantExact s.prod n).1 = true)
    (maxLen : Nat) (frame : List UInt8) :
    (s.write maxLen frame).1 = true ↔ frame.length ≤ maxLen := by
  unfold write
  split
  · next h =>
    have hgrant := hroom maxLen
    rw [h] at hgrant
    cases hgrant
  · split <;> simp [*]

end Sink

end FramedStream

/-- A COBS sink, when there is room. -/
theorem Sink.write_iff {crates : CobsCrates} {κ : Type} [BbqHandle κ] (s : Sink crates κ)
    (hroom : ∀ n, (BbqHandle.grantExact s.prod n).1 = true) (n : Nat) (frame : List UInt8) :
    (s.write (n + 1) frame).1 = true ↔ (crates.encode frame).length ≤ n := by
  unfold write
  split
  · next h =>
    have hgrant := hroom (n + 1)
    rw [h] at hgrant
    cases hgrant
  · dsimp only
    rw [List.length_append, List.length_singleton]
    split
    · simpa using Nat.le_of_succ_le_succ ‹_›
    · simpa using fun h => ‹¬ _› (Nat.succ_le_succ h)

/-! ## What is accepted -/

/-- The ergot packet of a send, before any framing. -/
def Payload.packet (fin : Header) : Payload → List UInt8
  | .ty msg => encodeFrameTy fin msg.bytes
  | .raw data => encodeFrameHdr fin ++ data
  | .err e => encodeFrameErr fin e

/-- Errors are sent as errors, and nothing else is. -/
def Payload.Suits (payload : Payload) (fin : Header) : Prop :=
  fin.kind = .protocolError ↔ ∃ e, payload = .err e

/-- What a sink answers to a send. -/
def InterfaceSink.takes {σ : Type} [InterfaceSink σ] (s : σ) (fin : Header) : Payload → Bool
  | .ty msg => (InterfaceSink.sendTy s fin msg).1
  | .raw data => (InterfaceSink.sendRaw s fin data).1
  | .err e => (InterfaceSink.sendErr s fin e).1

/-- A port accepts what its sink takes; raw bytes have to fit. -/
theorem EdgePort.answer_ok_iff {σ : Type} [InterfaceSink σ] (p : EdgePort σ) {hdr fin : Header}
    (hfin : p.commonSend hdr = .ok fin) (payload : Payload) :
    p.answer hdr payload = .ok () ↔
      (∀ data, payload = .raw data → p.fits data) ∧ InterfaceSink.takes p.sink fin payload = true := by
  have hreport : ∀ r : Bool × σ, (p.report r).1 = .ok () ↔ r.1 = true := by
    rintro ⟨_ | _, s⟩ <;> simp [report]
  cases payload with
  | ty msg => simp [answer, send, hfin, hreport, InterfaceSink.takes]
  | raw data =>
    by_cases hfit : p.fits data
    · have hfit' : ¬ maxHdrEncodedSize + data.length > (InterfaceSink.mtu p.sink).toNat :=
        Nat.not_lt.mpr hfit
      simp [answer, sendRaw, hfin, hreport, InterfaceSink.takes, hfit, hfit']
    · have hfit' : maxHdrEncodedSize + data.length > (InterfaceSink.mtu p.sink).toNat :=
        Nat.not_le.mp hfit
      simp [answer, sendRaw, hfit, hfit']
  | err e => simp [answer, sendErr, hfin, hreport, InterfaceSink.takes]

variable {κ : Type} [BbqHandle κ]

/-- The size that a packet sink holds against its grant. -/
theorem FramedStream.Sink.takes_iff (s : FramedStream.Sink κ)
    (hroom : ∀ n, (BbqHandle.grantExact s.prod n).1 = true) (fin : Header) (payload : Payload) :
    InterfaceSink.takes s fin payload = true ↔
      payload.Suits fin ∧
        match payload with
        | .raw data => maxHdrEncodedSize + data.length < UInt16.size
        | _ => (payload.packet fin).length ≤ s.mtu.toNat := by
  cases payload with
  | ty msg =>
    by_cases hkind : fin.kind = .protocolError
    · simp [InterfaceSink.takes, InterfaceSink.sendTy, Payload.Suits, hkind]
    · simp [InterfaceSink.takes, InterfaceSink.sendTy, Payload.Suits, hkind, s.write_iff hroom,
        Payload.packet]
  | raw data =>
    have hhdr := length_encodeFrameHdr_le fin
    by_cases hkind : fin.kind = .protocolError
    · simp [InterfaceSink.takes, InterfaceSink.sendRaw, Payload.Suits, hkind]
    · by_cases hlen : maxHdrEncodedSize + data.length < UInt16.size
      · simp [InterfaceSink.takes, InterfaceSink.sendRaw, Payload.Suits, hkind, s.write_iff hroom,
          hlen, hhdr]
      · simp [InterfaceSink.takes, InterfaceSink.sendRaw, Payload.Suits, hkind, hlen]
  | err e =>
    by_cases hkind : fin.kind = .protocolError
    · simp [InterfaceSink.takes, InterfaceSink.sendErr, Payload.Suits, hkind, s.write_iff hroom,
        Payload.packet]
    · simp [InterfaceSink.takes, InterfaceSink.sendErr, Payload.Suits, hkind]

/-- The size that a COBS sink holds against its grant. -/
theorem Sink.takes_iff {crates : CobsCrates} (s : Sink crates κ)
    (hroom : ∀ n, (BbqHandle.grantExact s.prod n).1 = true) (fin : Header) (payload : Payload) :
    InterfaceSink.takes s fin payload = true ↔
      payload.Suits fin ∧ (crates.encode (payload.packet fin)).length ≤ crates.maxEncodingLength
        (match payload with
          | .raw data => maxHdrEncodedSize + data.length
          | _ => s.mtu.toNat) := by
  cases payload with
  | ty msg =>
    by_cases hkind : fin.kind = .protocolError
    · simp [InterfaceSink.takes, InterfaceSink.sendTy, Payload.Suits, hkind]
    · simp [InterfaceSink.takes, InterfaceSink.sendTy, Payload.Suits, hkind, s.write_iff hroom,
        Payload.packet]
  | raw data =>
    by_cases hkind : fin.kind = .protocolError
    · simp [InterfaceSink.takes, InterfaceSink.sendRaw, Payload.Suits, hkind]
    · simp [InterfaceSink.takes, InterfaceSink.sendRaw, Payload.Suits, hkind, s.write_iff hroom,
        Payload.packet]
  | err e =>
    by_cases hkind : fin.kind = .protocolError
    · simp [InterfaceSink.takes, InterfaceSink.sendErr, Payload.Suits, hkind, s.write_iff hroom,
        Payload.packet]
    · simp [InterfaceSink.takes, InterfaceSink.sendErr, Payload.Suits, hkind]

/-! ## The law -/

/-- A send is accepted if and only if its header goes out of the port, and the packet is no larger
than the MTU. -/
def MtuLaw {σ : Type} [InterfaceSink σ] (p : EdgePort σ) (hdr : Header) (payload : Payload) : Prop :=
  p.answer hdr payload = .ok () ↔
    ∃ fin, p.commonSend hdr = .ok fin ∧ payload.Suits fin ∧
      (payload.packet fin).length ≤ (InterfaceSink.mtu p.sink).toNat

/-- Nothing is accepted whose header does not go out. -/
theorem EdgePort.answer_ne_ok {σ : Type} [InterfaceSink σ] (p : EdgePort σ) {hdr : Header}
    {e : InterfaceSendError} (h : p.commonSend hdr = .error e) (payload : Payload) :
    p.answer hdr payload ≠ .ok () := by
  cases payload with
  | ty msg => simp [answer, send, h]
  | raw data =>
    by_cases hfit : maxHdrEncodedSize + data.length > (InterfaceSink.mtu p.sink).toNat <;>
      simp [answer, sendRaw, h, hfit]
  | err e => simp [answer, sendErr, h]

/-- The law, in the terms of the sink. -/
theorem mtuLaw_takes_iff {σ : Type} [InterfaceSink σ] (p : EdgePort σ) (hdr : Header)
    (payload : Payload) :
    MtuLaw p hdr payload ↔ ∀ fin, p.commonSend hdr = .ok fin →
      ((∀ data, payload = .raw data → p.fits data) ∧
          InterfaceSink.takes p.sink fin payload = true ↔
        payload.Suits fin ∧
          (payload.packet fin).length ≤ (InterfaceSink.mtu p.sink).toNat) := by
  unfold MtuLaw
  cases hsend : p.commonSend hdr with
  | error e => simp [p.answer_ne_ok hsend payload]
  | ok fin =>
    rw [p.answer_ok_iff hsend payload]
    simp

/-- Whether a raw packet fits the MTU with the largest header, if it does with its own. -/
def RawExact (mtu : UInt16) (fin : Header) (data : List UInt8) : Prop :=
  (encodeFrameHdr fin ++ data).length ≤ mtu.toNat → maxHdrEncodedSize + data.length ≤ mtu.toNat

/-- Whether the grant of a COBS sink tells the packets that fit the MTU from those that do not:
the encoding of the former does not exceed `max_encoding_length`, and that of a larger packet
exceeds what it is for the MTU. -/
def CobsCrates.GrantExact (crates : CobsCrates) (mtu : UInt16) (fin : Header) (payload : Payload) :
    Prop :=
  match payload with
  | .raw data => RawExact mtu fin data ∧
      (maxHdrEncodedSize + data.length ≤ mtu.toNat →
        (crates.encode (payload.packet fin)).length ≤
          crates.maxEncodingLength (maxHdrEncodedSize + data.length))
  | _ =>
    ((payload.packet fin).length ≤ mtu.toNat →
      (crates.encode (payload.packet fin)).length ≤ crates.maxEncodingLength mtu.toNat) ∧
    (mtu.toNat < (payload.packet fin).length →
      crates.maxEncodingLength mtu.toNat < (crates.encode (payload.packet fin)).length)

theorem length_packet_raw_le (fin : Header) (data : List UInt8) :
    (encodeFrameHdr fin ++ data).length ≤ maxHdrEncodedSize + data.length := by
  rw [List.length_append]
  exact Nat.add_le_add_right (length_encodeFrameHdr_le fin) _

/-- The rule of a packet sink is exact but for raw packets that would not fit with the largest
header. -/
theorem FramedStream.Sink.mtuLaw_iff (hdr : Header) (payload : Payload)
    (p : EdgePort (FramedStream.Sink κ))
    (hroom : ∀ n, (BbqHandle.grantExact p.sink.prod n).1 = true) :
    MtuLaw p hdr payload ↔
      ∀ fin, p.commonSend hdr = .ok fin → payload.Suits fin → ∀ data, payload = .raw data →
        RawExact p.sink.mtu fin data := by
  rw [mtuLaw_takes_iff]
  refine forall₂_congr fun fin _ => ?_
  rw [p.sink.takes_iff hroom, and_left_comm, and_congr_right_iff]
  refine forall_congr' fun hsuits => ?_
  cases payload with
  | raw data =>
    have hle := length_packet_raw_le fin data
    have hmtu := p.sink.mtu.toNat_lt
    -- what fits the MTU is no longer than a `u16` can say
    have hlaw : ∀ {raw packet mtu : Nat}, packet ≤ raw → mtu < UInt16.size →
        ((raw ≤ mtu ∧ raw < UInt16.size ↔ packet ≤ mtu) ↔ (packet ≤ mtu → raw ≤ mtu)) := by
      omega
    simp only [Payload.raw.injEq, forall_eq', RawExact, EdgePort.fits, Payload.packet]
    exact hlaw hle hmtu
  | ty msg => exact iff_of_true (and_iff_right nofun) nofun
  | err e => exact iff_of_true (and_iff_right nofun) nofun

/-- The rule of a COBS sink is exact where its grant is. -/
theorem Sink.mtuLaw_iff {crates : CobsCrates} (hdr : Header) (payload : Payload)
    (p : EdgePort (Sink crates κ)) (hroom : ∀ n, (BbqHandle.grantExact p.sink.prod n).1 = true) :
    MtuLaw p hdr payload ↔
      ∀ fin, p.commonSend hdr = .ok fin → payload.Suits fin →
        crates.GrantExact p.sink.mtu fin payload := by
  rw [mtuLaw_takes_iff]
  refine forall₂_congr fun fin _ => ?_
  rw [p.sink.takes_iff hroom, and_left_comm, and_congr_right_iff]
  refine forall_congr' fun hsuits => ?_
  have hother : ∀ {a b c d : Nat}, (a ≤ b ↔ c ≤ d) ↔ (c ≤ d → a ≤ b) ∧ (d < c → b < a) := by omega
  cases payload with
  | raw data =>
    have hle := length_packet_raw_le fin data
    have hlaw : ∀ {raw packet mtu enc grant : Nat}, packet ≤ raw →
        ((raw ≤ mtu ∧ enc ≤ grant ↔ packet ≤ mtu) ↔
          (packet ≤ mtu → raw ≤ mtu) ∧ (raw ≤ mtu → enc ≤ grant)) := by
      omega
    simp only [Payload.raw.injEq, forall_eq', EdgePort.fits, Payload.packet,
      CobsCrates.GrantExact, RawExact]
    exact hlaw hle
  | ty msg => exact (iff_congr (and_iff_right nofun) Iff.rfl).trans hother
  | err e => exact (iff_congr (and_iff_right nofun) Iff.rfl).trans hother

/-- When a send is held to the MTU. The rule of a packet sink is exact but for raw packets that
would not fit with the largest header. -/
theorem mtu_law_iff (crates : CobsCrates) (hdr : Header) (payload : Payload) :
    (∀ p : EdgePort (FramedStream.Sink κ), (∀ n, (BbqHandle.grantExact p.sink.prod n).1 = true) →
      (MtuLaw p hdr payload ↔
        ∀ fin, p.commonSend hdr = .ok fin → payload.Suits fin → ∀ data, payload = .raw data →
          RawExact p.sink.mtu fin data)) ∧
    (∀ p : EdgePort (Sink crates κ), (∀ n, (BbqHandle.grantExact p.sink.prod n).1 = true) →
      (MtuLaw p hdr payload ↔
        ∀ fin, p.commonSend hdr = .ok fin → payload.Suits fin →
          crates.GrantExact p.sink.mtu fin payload)) := by
  constructor
  · exact fun p hroom => FramedStream.Sink.mtuLaw_iff hdr payload p hroom
  · exact fun p hroom => Sink.mtuLaw_iff hdr payload p hroom

/-! ## A packet that fits and one that does not -/

/-- A queue that is never full. -/
structure EndlessQueue where

instance : BbqHandle EndlessQueue where
  grantExact q _ := (true, q)
  commit q _ := q

/-- The port of a packet interface, with an MTU of 24. -/
def demoPacketPort : EdgePort (FramedStream.Sink EndlessQueue) :=
  .newController ⟨24, {}, []⟩ (.active 1 1)

/-- The port of a COBS stream, with an MTU of 255. -/
def demoCobsPort : EdgePort (Sink demoCrates EndlessQueue) :=
  .newController ⟨255, {}, []⟩ (.active 1 1)

/-- A request to 1.2. -/
def demoRequest : Header := ⟨⟨0, 0, 5⟩, ⟨1, 2, 9⟩, none, .endpointReq, .normal, 15⟩

/-- A packet of 8 bytes is sent as a message, and refused raw. One of 256 bytes is sent over the
stream. -/
theorem mtu_not_exact :
    demoPacketPort.answer demoRequest (.ty ⟨0, [7]⟩) = .ok () ∧
      demoPacketPort.answer demoRequest (.raw [7]) = .error (.packetTooBig 24) ∧
      ¬ MtuLaw demoPacketPort demoRequest (.raw [7]) ∧
      demoCobsPort.answer demoRequest (.ty ⟨0, .replicate 249 0⟩) = .ok () ∧
      ¬ MtuLaw demoCobsPort demoRequest (.ty ⟨0, .replicate 249 0⟩) := by
  have hraw : demoPacketPort.answer demoRequest (.raw [7]) = .error (.packetTooBig 24) := rfl
  have hstream : demoCobsPort.answer demoRequest (.ty ⟨0, .replicate 249 0⟩) = .ok () := by
    decide +kernel
  refine ⟨by decide, hraw, fun h => ?_, hstream, fun h => ?_⟩
  · have hok := h.mpr ⟨_, rfl, iff_of_false (by decide) nofun, by decide⟩
    exact nomatch hraw.symm.trans hok
  · obtain ⟨fin, hfin, -, hle⟩ := h.mp hstream
    cases hfin
    exact absurd hle (by decide +kernel)

/-- Both ports take a message as they should. -/
theorem mtu_law_iff_demo :
    MtuLaw demoPacketPort demoRequest (.ty ⟨0, [7]⟩) ∧
      MtuLaw demoCobsPort demoRequest (.ty ⟨0, [7]⟩) := by
  obtain ⟨hpacket, hcobs⟩ := mtu_law_iff (κ := EndlessQueue) demoCrates demoRequest (.ty ⟨0, [7]⟩)
  refine ⟨(hpacket demoPacketPort fun _ => rfl).mpr nofun,
    (hcobs demoCobsPort fun _ => rfl).mpr fun fin hfin _ => ?_⟩
  cases hfin
  exact ⟨by decide, by decide⟩

end Ergot
