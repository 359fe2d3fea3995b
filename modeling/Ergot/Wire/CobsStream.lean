import Mathlib.Order.Monotone.Basic
import Ergot.Core.Port
import Ergot.Wire.Accumulator
import Ergot.Wire.Frames

/-!
# COBS stream links

`cobs_stream::Sink` (utils/cobs_stream.rs) behind an `EdgePort`, and a `CobsAccumulator` at
the other end of the stream. A sink asks the queue for a grant of the longest encoding that
it may write, and commits what it did write.

- `Sink` is the sink. The queue and the two crates that encode and decode are parameters.
- `PortOp.apply` is one use of the port, with the frame that was accepted, if one was.
- `sends_committed`: what a sequence of them commits.
- `cobs_stream_fifo`: what comes out at the other end.

A header keeps everything on the way but a hop count above `maxTtl`. A header with another
frame kind than the four of the wire, or of an error that is addressed to a reserved port,
does not come back, since the decoder builds no such header.
-/

namespace Ergot

/-- What is used of the `cobs` and `postcard` crates; a segment is what comes before the zero
that ends a frame. -/
structure CobsCrates where
  /-- what postcard's `Cobs` flavor writes before it appends the zero -/
  encode : List UInt8 → List UInt8
  decode : List UInt8 → Option (List UInt8)
  decodeInPlace : List UInt8 → Option (List UInt8)
  maxEncodingOverhead : Nat → Nat

namespace CobsCrates

/-- What their documentation says. -/
structure Documented (crates : CobsCrates) : Prop where
  zero_free : ∀ data, 0 ∉ crates.encode data
  decode_encode : ∀ data, crates.decode (crates.encode data) = some data
  decode_in_place : ∀ segment, 0 ∉ segment →
    crates.decodeInPlace (segment ++ [0]) = crates.decode segment
  overhead_mono : Monotone crates.maxEncodingOverhead

/-- `cobs::max_encoding_length`. -/
def maxEncodingLength (crates : CobsCrates) (n : Nat) : Nat := n + crates.maxEncodingOverhead n

/-- The size of the accumulator's buffer (tokio_cobs_stream.rs:218). -/
def cobsBufSize (crates : CobsCrates) (maxErgotPacketSize : UInt16) : Nat :=
  maxErgotPacketSize.toNat + crates.maxEncodingOverhead maxErgotPacketSize.toNat + 1

theorem Documented.maxEncodingLength_mono {crates : CobsCrates} (h : crates.Documented)
    {m n : Nat} (hmn : m ≤ n) : crates.maxEncodingLength m ≤ crates.maxEncodingLength n :=
  Nat.add_le_add hmn (h.overhead_mono hmn)

end CobsCrates

/-- A byte queue, together with whoever reads from it. -/
class BbqHandle (κ : Type) where
  /-- `grant_exact`: whether there is room -/
  grantExact : κ → Nat → Bool × κ
  /-- `commit`; a grant that is dropped commits nothing -/
  commit : κ → List UInt8 → κ

/-- `cobs_stream::Sink`, with all the bytes that it has committed. -/
structure Sink (crates : CobsCrates) (κ : Type) where
  mtu : UInt16
  prod : κ
  committed : List UInt8

namespace Sink

variable {crates : CobsCrates} {κ : Type} [BbqHandle κ]

/-- A grant of `maxLen` bytes, into which the `Cobs` flavor writes a frame and the zero. The
writer fails when they do not fit. -/
def write (s : Sink crates κ) (maxLen : Nat) (frame : List UInt8) : Bool × Sink crates κ :=
  match BbqHandle.grantExact s.prod maxLen with
  | (false, prod) => (false, { s with prod })
  | (true, prod) =>
    let used := crates.encode frame ++ [0]
    if used.length ≤ maxLen then
      (true, { s with prod := BbqHandle.commit prod used, committed := s.committed ++ used })
    else (false, { s with prod := BbqHandle.commit prod [] })

/-- Each method refuses the frame kinds of the others. -/
instance : InterfaceSink (Sink crates κ) where
  mtu s := s.mtu
  sendTy s hdr body :=
    if hdr.kind = .protocolError then (false, s)
    else s.write (crates.maxEncodingLength s.mtu.toNat + 1) (encodeFrameTy hdr body.bytes)
  sendRaw s hdr body :=
    if hdr.kind = .protocolError then (false, s)
    else
      s.write (crates.maxEncodingLength (maxHdrEncodedSize + body.length) + 1)
        (encodeFrameHdr hdr ++ body)
  sendErr s hdr err :=
    if hdr.kind ≠ .protocolError then (false, s)
    else s.write (crates.maxEncodingLength s.mtu.toNat + 1) (encodeFrameErr hdr err)

/-- Writing commits a frame with its zero, which fit the grant, or nothing. -/
theorem write_spec (s : Sink crates κ) (maxLen : Nat) (frame : List UInt8) :
    (s.write maxLen frame).2.mtu = s.mtu ∧
      ((s.write maxLen frame).1 = true → (crates.encode frame).length + 1 ≤ maxLen ∧
        (s.write maxLen frame).2.committed = s.committed ++ (crates.encode frame ++ [0])) ∧
      ((s.write maxLen frame).1 = false → (s.write maxLen frame).2.committed = s.committed) := by
  unfold write
  cases BbqHandle.grantExact s.prod maxLen with
  | mk granted prod =>
    cases granted with
    | false => exact ⟨rfl, nofun, fun _ => rfl⟩
    | true =>
      dsimp only
      split
      · rename_i hfits
        refine ⟨rfl, fun _ => ⟨?_, rfl⟩, nofun⟩
        rwa [List.length_append, List.length_singleton] at hfits
      · exact ⟨rfl, nofun, fun _ => rfl⟩

end Sink

/-! ## A port and its sends -/

/-- What is done with a port. -/
inductive PortOp
  | setState (state : InterfaceState)
  | send (hdr : Header) (data : Msg)
  | sendErr (hdr : Header) (err : ProtocolError)
  | sendRaw (hdr : Header) (data : List UInt8)

/-- A frame as the sink is given it: the header that `common_send` has finalised, and the body
or the error. -/
abbrev SentFrame := Header × Except ProtocolError (List UInt8)

/-- The frame that a send was accepted with. -/
def accepted (fin : Except InterfaceSendError Header) (body : Except ProtocolError (List UInt8))
    (res : Except InterfaceSendError Unit) : List SentFrame :=
  match fin, res with
  | .ok hdr, .ok () => [(hdr, body)]
  | _, _ => []

/-- One use of a port: the frame that it accepted, and the port afterwards. -/
def PortOp.apply {σ : Type} [InterfaceSink σ] (p : EdgePort σ) :
    PortOp → List SentFrame × EdgePort σ
  | .setState state => ([], (p.setState state).2)
  | .send hdr data =>
    (accepted (p.commonSend hdr) (.ok data.bytes) (p.send hdr data).1, (p.send hdr data).2)
  | .sendErr hdr err =>
    (accepted (p.commonSend hdr) (.error err) (p.sendErr hdr err).1, (p.sendErr hdr err).2)
  | .sendRaw hdr data =>
    (accepted (p.commonSend hdr) (.ok data) (p.sendRaw hdr data).1, (p.sendRaw hdr data).2)

/-- One after the other. -/
def PortOp.applyAll {σ : Type} [InterfaceSink σ] :
    EdgePort σ → List PortOp → List SentFrame × EdgePort σ
  | p, [] => ([], p)
  | p, op :: ops =>
    ((op.apply p).1 ++ (applyAll (op.apply p).2 ops).1, (applyAll (op.apply p).2 ops).2)

/-- The headers that a frame can carry, but for the hop count: the kind is one of the wire's,
no error is addressed to a reserved port, and the appendix matches the port. -/
structure Header.Representable (hdr : Header) : Prop where
  kind : hdr.kind.isValid
  err_port : hdr.kind = .protocolError → hdr.dst.portId ≠ 0 ∧ hdr.dst.portId ≠ 255
  appendix : hdr.anyAll.isSome ↔
    hdr.kind ≠ .protocolError ∧ (hdr.dst.portId = 0 ∨ hdr.dst.portId = 255)

/-- The headers that are sent. -/
def PortOp.Representable : PortOp → Prop
  | .setState _ => True
  | .send hdr _ | .sendErr hdr _ | .sendRaw hdr _ => hdr.Representable

/-- `common_send` rewrites addresses, but no port of the destination. -/
theorem EdgePort.commonSend_representable {σ : Type} {p : EdgePort σ} {hdr fin : Header}
    (h : hdr.Representable) (hfin : p.commonSend hdr = .ok fin) :
    fin.Representable := by
  unfold commonSend at hfin
  split at hfin
  · split at hfin
    · cases hfin
    · dsimp only at hfin
      split at hfin
      · cases hfin
      · cases hfin
        constructor
        · exact h.kind
        · rw [stampDst_portId]
          exact h.err_port
        · rw [stampDst_portId]
          exact h.appendix
  · cases hfin

/-- The decoder can build the header, once the hop count is what the wire carries. -/
theorem Header.Representable.wf {hdr : Header} (h : hdr.Representable)
    {body : Except ProtocolError (List UInt8)}
    (hbody : hdr.kind = .protocolError ↔ ∃ e, body = .error e) : FrameWf hdr.clampTtl body where
  err_kind := hbody
  err_port := h.err_port
  appendix := h.appendix
  ttl := by
    unfold clampTtl
    dsimp only
    split
    · exact UInt8.le_refl _
    · rename_i hle
      exact UInt8.not_lt.mp hle
  kind := h.kind

/-! ## What is committed -/

section Committed

variable {crates : CobsCrates} {κ : Type}

/-- A frame on the stream. -/
def SentFrame.segment (crates : CobsCrates) (sent : SentFrame) : List UInt8 :=
  crates.encode (encodeFrame sent.1 sent.2)

/-- What a sink has committed of the frames that were accepted: each was committed with its
zero, fits the accumulator and can be decoded. -/
structure Committed (s s' : Sink crates κ) (sent : List SentFrame) : Prop where
  mtu : s'.mtu = s.mtu
  committed : s'.committed = s.committed ++ sent.flatMap fun f => f.segment crates ++ [0]
  fits : ∀ f ∈ sent, (f.segment crates).length + 1 ≤ crates.cobsBufSize s.mtu
  wf : ∀ f ∈ sent, FrameWf f.1.clampTtl f.2

namespace Committed

/-- Nothing was accepted. -/
theorem none {s s' : Sink crates κ} (hmtu : s'.mtu = s.mtu)
    (hcommitted : s'.committed = s.committed) : Committed s s' [] :=
  { mtu := hmtu
    committed := by simp [hcommitted]
    fits := by simp
    wf := by simp }

theorem append {s s' s'' : Sink crates κ} {sent sent' : List SentFrame} (h : Committed s s' sent)
    (h' : Committed s' s'' sent') : Committed s s'' (sent ++ sent') := by
  constructor
  · rw [h'.mtu, h.mtu]
  · rw [h'.committed, h.committed, List.flatMap_append, List.append_assoc]
  · intro f hf
    rcases List.mem_append.mp hf with hf | hf
    · exact h.fits f hf
    · rw [← h.mtu]
      exact h'.fits f hf
  · intro f hf
    rcases List.mem_append.mp hf with hf | hf
    · exact h.wf f hf
    · exact h'.wf f hf

/-- The answer of the sink is the answer of the port. -/
theorem report (p : EdgePort (Sink crates κ)) {hdr : Header}
    {body : Except ProtocolError (List UInt8)} {res : Bool × Sink crates κ}
    (h : Committed p.sink res.2 (if res.1 then [(hdr, body)] else [])) :
    Committed p.sink (p.report res).2.sink (accepted (.ok hdr) body (p.report res).1) := by
  obtain ⟨ok, s⟩ := res
  cases ok <;> exact h

variable [BbqHandle κ]

/-- One frame, written into a grant that the accumulator's buffer is no smaller than. -/
theorem write (s : Sink crates κ) {hdr : Header} {body : Except ProtocolError (List UInt8)}
    {maxLen : Nat} (hrep : hdr.Representable)
    (hbody : hdr.kind = .protocolError ↔ ∃ e, body = .error e)
    (hmax : maxLen ≤ crates.cobsBufSize s.mtu) :
    Committed s (s.write maxLen (encodeFrame hdr body)).2
      (if (s.write maxLen (encodeFrame hdr body)).1 then [(hdr, body)] else []) := by
  obtain ⟨hmtu, htrue, hfalse⟩ := s.write_spec maxLen (encodeFrame hdr body)
  cases hres : (s.write maxLen (encodeFrame hdr body)).1 with
  | false => exact none hmtu (hfalse hres)
  | true =>
    obtain ⟨hlen, hcommitted⟩ := htrue hres
    constructor
    · exact hmtu
    · simpa [SentFrame.segment] using hcommitted
    · intro f hf
      obtain rfl := List.mem_singleton.mp hf
      exact Nat.le_trans hlen hmax
    · intro f hf
      obtain rfl := List.mem_singleton.mp hf
      exact hrep.wf hbody

/-- One message. -/
theorem write_ok (s : Sink crates κ) {hdr : Header} {maxLen : Nat} (hrep : hdr.Representable)
    (hkind : hdr.kind ≠ .protocolError) (body : List UInt8)
    (hmax : maxLen ≤ crates.cobsBufSize s.mtu) :
    Committed s (s.write maxLen (encodeFrame hdr (.ok body))).2
      (if (s.write maxLen (encodeFrame hdr (.ok body))).1 then [(hdr, .ok body)] else []) :=
  write s hrep (iff_of_false hkind nofun) hmax

end Committed

variable [BbqHandle κ]

theorem accepted_error (e : InterfaceSendError) (fin : Except InterfaceSendError Header)
    (body : Except ProtocolError (List UInt8)) : accepted fin body (.error e) = [] := by
  cases fin <;> rfl

/-- What one use of a port commits. -/
theorem PortOp.apply_committed (hdoc : crates.Documented) (p : EdgePort (Sink crates κ))
    {op : PortOp} (hop : op.Representable) :
    Committed p.sink (op.apply p).2.sink (op.apply p).1 := by
  have hmtu : crates.maxEncodingLength p.sink.mtu.toNat + 1 = crates.cobsBufSize p.sink.mtu := rfl
  cases op with
  | setState state =>
    have hsink : (p.setState state).2.sink = p.sink := by
      unfold EdgePort.setState
      split
      · rfl
      · rfl
      · split <;> rfl
      · split <;> rfl
    exact .none (congrArg Sink.mtu hsink) (congrArg Sink.committed hsink)
  | send hdr data =>
    simp only [apply, EdgePort.send]
    cases hfin : p.commonSend hdr with
    | error e => exact .none rfl rfl
    | ok fin =>
      have hrep := EdgePort.commonSend_representable hop hfin
      refine Committed.report p ?_
      by_cases hkind : fin.kind = .protocolError
      · simp only [InterfaceSink.sendTy, if_pos hkind]
        exact .none rfl rfl
      · simp only [InterfaceSink.sendTy, if_neg hkind]
        exact Committed.write_ok p.sink hrep hkind data.bytes (Nat.le_of_eq hmtu)
  | sendErr hdr err =>
    simp only [apply, EdgePort.sendErr]
    cases hfin : p.commonSend hdr with
    | error e => exact .none rfl rfl
    | ok fin =>
      have hrep := EdgePort.commonSend_representable hop hfin
      refine Committed.report p ?_
      by_cases hkind : fin.kind = .protocolError
      · simp only [InterfaceSink.sendErr, if_neg (not_not.mpr hkind)]
        exact Committed.write p.sink hrep (iff_of_true hkind ⟨err, rfl⟩) (Nat.le_of_eq hmtu)
      · simp only [InterfaceSink.sendErr, if_pos hkind]
        exact .none rfl rfl
  | sendRaw hdr data =>
    simp only [apply, EdgePort.sendRaw]
    by_cases hbig : maxHdrEncodedSize + data.length > (InterfaceSink.mtu p.sink).toNat
    · rw [if_pos hbig, accepted_error]
      exact .none rfl rfl
    · rw [if_neg hbig]
      cases hfin : p.commonSend hdr with
      | error e => exact .none rfl rfl
      | ok fin =>
        have hrep := EdgePort.commonSend_representable hop hfin
        -- the grant is for the body's own length, which the port has checked
        have hmax := hdoc.maxEncodingLength_mono (Nat.not_lt.mp hbig)
        refine Committed.report p ?_
        by_cases hkind : fin.kind = .protocolError
        · simp only [InterfaceSink.sendRaw, if_pos hkind]
          exact .none rfl rfl
        · simp only [InterfaceSink.sendRaw, if_neg hkind]
          exact Committed.write_ok p.sink hrep hkind data (Nat.succ_le_succ hmax)

/-- What a sequence of them commits. -/
theorem PortOp.sends_committed (hdoc : crates.Documented) (p : EdgePort (Sink crates κ))
    {ops : List PortOp} (hops : ∀ op ∈ ops, op.Representable) :
    Committed p.sink (applyAll p ops).2.sink (applyAll p ops).1 := by
  induction ops generalizing p with
  | nil => exact .none rfl rfl
  | cons op ops ih =>
    have hop := apply_committed hdoc p (hops op List.mem_cons_self)
    exact hop.append (ih (op.apply p).2 fun op' hmem => hops op' (List.mem_cons_of_mem _ hmem))

end Committed

/-! ## At the other end -/

/-- Segments that are committed one after the other do not merge. -/
theorem segments_flatMap {α : Type} (f : α → List UInt8) (hf : ∀ a, 0 ∉ f a) (xs : List α) :
    segments (xs.flatMap fun a => f a ++ [0]) = xs.map f := by
  induction xs with
  | nil => rfl
  | cons a xs ih =>
    have h : splitZeros [] (f a ++ 0 :: xs.flatMap fun a => f a ++ [0]) = _ :=
      splitZeros_zero (hf a)
    rw [List.flatMap_cons, List.append_assoc, List.singleton_append, segments, h, List.map_cons,
      ← ih]
    rfl

/-- What is received at the other end of a stream: the frames that come out, decoded. -/
def received (crates : CobsCrates) (buf : List UInt8) (chunks : List (List UInt8)) :
    List (Option SentFrame) :=
  ((CobsAccumulator.new buf).feedAll crates.decodeInPlace chunks).1.map fun frame =>
    (deFrame frame).map fun res => (res.hdr, res.body)

/-- A stream link is a queue: what is received are the frames that were accepted, in order,
each with its header and its body. Each fits the accumulator. -/
theorem cobs_stream_fifo (crates : CobsCrates) (hdoc : crates.Documented) {κ : Type}
    [BbqHandle κ] (p : EdgePort (Sink crates κ)) (hnew : p.sink.committed = [])
    (ops : List PortOp) (hops : ∀ op ∈ ops, op.Representable) (buf : List UInt8)
    (hbuf : buf.length = crates.cobsBufSize p.sink.mtu) (chunks : List (List UInt8))
    (hchunks : chunks.flatten = (PortOp.applyAll p ops).2.sink.committed) :
    received crates buf chunks =
        (PortOp.applyAll p ops).1.map (fun sent => some (sent.1.clampTtl, sent.2)) ∧
      ∀ segment ∈ segments chunks.flatten, segment.length + 1 ≤ buf.length := by
  have hsends := PortOp.sends_committed hdoc p hops
  generalize PortOp.applyAll p ops = res at hsends hchunks ⊢
  have hsegments : segments chunks.flatten = res.1.map (SentFrame.segment crates) := by
    rw [hchunks, hsends.committed, hnew, List.nil_append]
    exact segments_flatMap _ (fun sent => hdoc.zero_free _) res.1
  have hfits : ∀ segment ∈ segments chunks.flatten, segment.length + 1 ≤ buf.length := by
    intro segment hmem
    rw [hsegments] at hmem
    obtain ⟨sent, hsent, rfl⟩ := List.mem_map.mp hmem
    rw [hbuf]
    exact hsends.fits sent hsent
  have hdecode : ∀ sent : SentFrame, crates.decodeInPlace (sent.segment crates ++ [0]) =
      some (encodeFrame sent.1 sent.2) := fun sent =>
    (hdoc.decode_in_place _ (hdoc.zero_free _)).trans (hdoc.decode_encode _)
  refine ⟨?_, hfits⟩
  rw [received, CobsAccumulator.feedAll_of_fits _ hfits, hsegments, List.flatMap_map]
  simp only [hdecode, Option.toList_some]
  rw [← List.map_eq_flatMap, List.map_map]
  refine List.map_congr_left fun sent hsent => ?_
  rw [Function.comp_apply, deFrame_encodeFrame (hsends.wf sent hsent), Option.map_some]

/-! ## Examples -/

/-- A queue with room for so many bytes, from which nobody reads. -/
structure DemoQueue where
  room : Nat

instance : BbqHandle DemoQueue where
  grantExact q n := (n ≤ q.room, q)
  commit q bytes := ⟨q.room - bytes.length⟩

def demoCrates : CobsCrates where
  encode := Cobs.encode
  decode := Cobs.decode
  decodeInPlace := Cobs.decodeSentinel
  maxEncodingOverhead n := if n = 0 then 1 else (n + 253) / 254

theorem demoCrates_documented : demoCrates.Documented where
  zero_free := Cobs.zero_not_mem_encode
  decode_encode := Cobs.decode_encode
  decode_in_place _ := Cobs.decodeSentinel_append
  overhead_mono := by
    intro m n hmn
    dsimp only [demoCrates]
    split <;> split <;> omega

/-- The port of a router, with an MTU of 40 bytes and a queue of 60. -/
def demoStreamPort : EdgePort (Sink demoCrates DemoQueue) :=
  .newController ⟨40, ⟨60⟩, []⟩ (.active 1 1)

/-- A request, which is accepted, a raw frame that is larger than the MTU, and an error. -/
def demoSends : List PortOp :=
  [.send ⟨⟨0, 0, 5⟩, ⟨1, 2, 9⟩, none, .endpointReq, .normal, 15⟩ ⟨0, [0, 7]⟩,
    .sendRaw ⟨⟨0, 0, 5⟩, ⟨1, 2, 9⟩, none, .topicMsg, .normal, 15⟩ (List.replicate 17 0),
    .sendErr ⟨⟨0, 0, 5⟩, ⟨1, 2, 9⟩, none, .protocolError, .normal, 15⟩ .nsseNoRoute]

/-- In three chunks: the second frame begins in the first one, and ends in the last. -/
theorem cobs_stream_fifo_demo :
    received demoCrates (List.replicate 42 0)
        [[8, 133, 130, 4, 137, 132, 4, 95, 2, 7, 0, 9, 133], [130, 4, 137, 132], [4, 31, 13, 0]] =
      (PortOp.applyAll demoStreamPort demoSends).1.map (fun sent => some (sent.1.clampTtl, sent.2)) ∧
    ∀ segment ∈ segments
        [[8, 133, 130, 4, 137, 132, 4, 95, 2, 7, 0, 9, 133], [130, 4, 137, 132],
          [4, 31, 13, 0]].flatten,
      segment.length + 1 ≤ (List.replicate 42 (0 : UInt8)).length := by
  refine cobs_stream_fifo demoCrates demoCrates_documented demoStreamPort rfl demoSends ?_ _ rfl _ ?_
  · intro op hop
    simp only [demoSends, List.mem_cons, List.not_mem_nil, or_false] at hop
    rcases hop with rfl | rfl | rfl
    all_goals exact ⟨by decide, by decide, by decide⟩
  · decide

/-- Whether what `demoStreamPort` accepts of one send is what is received. -/
def DemoReceived (op : PortOp) : Prop :=
  received demoCrates (List.replicate 42 0) [(op.apply demoStreamPort).2.sink.committed] =
    (op.apply demoStreamPort).1.map some

/-- What does not come back as it was: a hop count of 20, an error to port 255, and a message
of kind 7. -/
theorem headers_not_kept :
    ¬ DemoReceived
        (.send ⟨⟨0, 0, 5⟩, ⟨1, 2, 9⟩, none, .endpointReq, .normal, 20⟩ ⟨0, []⟩) ∧
      ¬ DemoReceived
        (.sendErr ⟨⟨0, 0, 5⟩, ⟨1, 2, 255⟩, some ⟨⟨.replicate 8 0⟩, none⟩, .protocolError, .normal,
          15⟩ .nsseNoRoute) ∧
      ¬ DemoReceived (.send ⟨⟨0, 0, 5⟩, ⟨1, 2, 9⟩, none, ⟨7⟩, .normal, 15⟩ ⟨0, []⟩) := by
  refine ⟨?_, ?_, ?_⟩
  all_goals
    rw [DemoReceived, received, CobsAccumulator.feedAll_of_fits _ (by decide)]
    decide

end Ergot
