import Ergot.Stack.LastHop
import Ergot.Stack.Verdict
import Ergot.Wire.MtuLaw

/-!
# Borrow sockets

A borrow socket (socket/borrow.rs) keeps what it is handed as bytes, and its receiver decodes
them. An owned socket keeps the header and the message.

- `BorrowSocket` is the writing side. The queue decides whether there is room.
- `unpack` is what the receiver makes of the bytes of a message.
- `NetStack.sendVia_getElem?` says which places of the socket list a send gets to. It depends on
  the headers of the sockets alone.
- `owned_borrowed_agree_iff`: the encoder writes the appendix that the header has, and the
  decoder expects the one that the port has. Nothing refuses an appendix with a specific port, so
  the bytes of such a header are taken for another message.
-/

namespace Ergot

/-! ## The socket -/

/-- `borrow::Socket`, with the frames in its queue that the receiver has not released. -/
structure BorrowSocket (κ : Type) where
  mtu : UInt16
  queue : κ
  frames : List (List UInt8)
  /-- whether a read grant is outstanding -/
  reading : Bool

namespace BorrowSocket

variable {κ : Type} [BbqHandle κ]

/-- A grant of `maxLen` bytes, into which a frame is serialized. -/
def write (s : BorrowSocket κ) (maxLen : Nat) (frame : List UInt8) :
    Except SocketSendError Unit × BorrowSocket κ :=
  match BbqHandle.grantExact s.queue maxLen with
  | (false, queue) => (.error .noSpace, { s with queue })
  | (true, queue) =>
    if frame.length ≤ maxLen then
      (.ok (), { s with queue := BbqHandle.commit queue frame, frames := s.frames ++ [frame] })
    else (.error .noSpace, { s with queue := BbqHandle.commit queue [] })

/-- `recv_err`: an error that does not fit is lost. -/
def recvErr (s : BorrowSocket κ) (hdr : Header) (err : ProtocolError) : BorrowSocket κ :=
  (s.write s.mtu.toNat (encodeFrameErr hdr err)).2

/-- `recv_bor`, with the serializer of `borser`. -/
def recvBor (s : BorrowSocket κ) (that : Msg) (hdr : Header) :
    Except SocketSendError Unit × BorrowSocket κ :=
  s.write s.mtu.toNat (encodeFrameTy hdr that.bytes)

/-- `recv_raw`: the header is encoded on its own, and the grant is for exactly what is needed. -/
def recvRaw (s : BorrowSocket κ) (that : List UInt8) (hdr : Header) :
    Except SocketSendError Unit × BorrowSocket κ :=
  if (encodeFrameHdr hdr).length > maxHdrEncodedSize then (.error .whatTheHell, s)
  else
    let needed := that.length + (encodeFrameHdr hdr).length
    if needed < UInt16.size then s.write needed (encodeFrameHdr hdr ++ that)
    else (.error .noSpace, s)

instance : SocketVTable (BorrowSocket κ) where
  recvOwned _ := none
  recvBor s := some s.recvBor
  recvRaw s := s.recvRaw
  recvErr s := some s.recvErr

/-- Writing adds the frame, or nothing. -/
theorem frames_write (s : BorrowSocket κ) (maxLen : Nat) (frame : List UInt8) :
    (s.write maxLen frame).2.frames = s.frames ∨
      (s.write maxLen frame).2.frames = s.frames ++ [frame] := by
  unfold write
  split
  · exact .inl rfl
  · split
    · exact .inr rfl
    · exact .inl rfl

/-- Whatever bytes come in raw, they are stored after the header. -/
theorem frames_recvRaw (s : BorrowSocket κ) (that : List UInt8) (hdr : Header) :
    (s.recvRaw that hdr).2.frames = s.frames ∨
      (s.recvRaw that hdr).2.frames = s.frames ++ [encodeFrameTy hdr that] := by
  unfold recvRaw
  dsimp only
  split
  · exact .inl rfl
  · split
    · exact s.frames_write _ _
    · exact .inl rfl

end BorrowSocket

/-- A socket of either family. -/
inductive AnySocket (κ : Type)
  | owned (s : OwnedSocket)
  | borrow (s : BorrowSocket κ)

instance {κ : Type} [BbqHandle κ] : SocketVTable (AnySocket κ) where
  recvOwned
    | .owned s => some fun that hdr => ((s.recvOwned that hdr).1, .owned (s.recvOwned that hdr).2)
    | .borrow _ => none
  recvBor
    | .owned _ => none
    | .borrow s => some fun that hdr => ((s.recvBor that hdr).1, .borrow (s.recvBor that hdr).2)
  recvRaw
    | .owned s => fun that hdr => ((s.recvRaw that hdr).1, .owned (s.recvRaw that hdr).2)
    | .borrow s => fun that hdr => ((s.recvRaw that hdr).1, .borrow (s.recvRaw that hdr).2)
  recvErr
    | .owned s => some fun hdr err => .owned (s.recvErr hdr err)
    | .borrow s => some fun hdr err => .borrow (s.recvErr hdr err)

/-! ## Which sockets a send gets to -/

section Places

variable {κ P ι : Type}

/-- The `SocketHeader`. -/
def Socket.header (s : Socket κ) : Socket Unit := { s with inner := () }

/-- Whether a message is for the socket in some place. -/
def addressed (hdr : Header) (headers : List (Socket Unit)) (i : Nat) : Bool :=
  if hdr.dst.portId = 255 then headers[i]?.any (Socket.hears hdr)
  else if hdr.dst.portId = 0 then
    match hdr.anyAll with
    | none => false
    | some apdx => (headers.filter (anyMatches hdr apdx)).length = 1 &&
        headers.findIdx (anyMatches hdr apdx) = i
  else
    (headers.find? fun s => s.port = hdr.dst.portId).any (fun s => s.kind = hdr.kind) &&
      headers.findIdx (fun s => s.port = hdr.dst.portId) = i

theorem addressed_keyed {hdr : Header} {headers : List (Socket Unit)} {i : Nat}
    (h : addressed hdr headers i = true) : hdr.Keyed := by
  intro hport
  cases hany : hdr.anyAll with
  | some apdx => rfl
  | none =>
    rcases hport with h0 | h255
    · simp [addressed, h0, hany] at h
    · simp only [addressed, h255, if_true] at h
      obtain ⟨s, -, hs⟩ := (Option.any_eq_true _ _).mp h
      simp [Socket.hears, hany] at hs

/-- A search that succeeds leads to the place that is addressed. -/
theorem NetStack.deliver_getElem? (st : NetStack κ P) (path : SendPath ι) {hdr : Header}
    (hall : hdr.dst.portId ≠ 255)
    (offer : Socket κ → Except NetStackSendError Unit × Socket κ) (i : Nat) :
    (st.deliver ((Sending.data path).search st.sockets hdr) offer).2.sockets[i]? =
      st.sockets[i]?.map fun s =>
        if addressed hdr (st.sockets.map Socket.header) i then (offer s).2 else s := by
  -- what was found is put back in the place of the first that satisfies `p`
  have hput : ∀ {p : Socket κ → Bool} {s : Socket κ}, st.sockets.find? p = some s →
      (st.deliver (.ok (socketMut st.sockets p s)) offer).2.sockets[i]? =
        st.sockets[i]?.map fun s => if st.sockets.findIdx p = i then (offer s).2 else s := by
    intro p s h
    rw [← HeaplessVec.getElem?_modifyFirstList p (fun s => (offer s).2),
      ← HeaplessVec.modifyFirstList_const (fun s => (offer s).2) h]
    rfl
  have hnone : ∀ e : NetStackSendError, (st.deliver (.error e) offer).2.sockets[i]? =
      st.sockets[i]?.map fun s => if false then (offer s).2 else s := by
    intro e
    simp [deliver]
  unfold addressed Sending.search
  simp only [if_neg hall]
  by_cases hany : hdr.dst.portId = 0
  · simp only [if_pos hany, findAnyLocal]
    cases hdr.anyAll with
    | none => exact hnone _
    | some apdx =>
      have hcomp : (anyMatches hdr apdx ∘ Socket.header : Socket κ → Bool) = anyMatches hdr apdx := rfl
      simp only [List.filter_map, List.length_map, List.findIdx_map, hcomp]
      cases hfilter : st.sockets.filter (anyMatches hdr apdx) with
      | nil => exact hnone _
      | cons s l =>
        cases l with
        | nil =>
          have hfind : st.sockets.find? (anyMatches hdr apdx) = some s := by
            rw [← List.head?_filter, hfilter]
            rfl
          simpa using hput hfind
        | cons s' l => exact hnone _
  · simp only [if_neg hany, findOneLocal, List.find?_map, List.findIdx_map]
    have hcomp : ((fun s : Socket Unit => decide (s.port = hdr.dst.portId)) ∘ Socket.header :
        Socket κ → Bool) = fun s => decide (s.port = hdr.dst.portId) := rfl
    rw [hcomp]
    cases hfind : st.sockets.find? fun s => decide (s.port = hdr.dst.portId) with
    | none => exact hnone _
    | some s =>
      by_cases hkind : s.kind = hdr.kind
      · simpa [hkind, Socket.header] using hput hfind
      · simpa [hkind, Socket.header] using hnone _

variable [SocketVTable κ] [Profile P ι]

/-- A message is offered to the sockets that it is addressed to, if the profile leads to them. -/
theorem NetStack.sendVia_getElem? (st : NetStack κ P) {hdr : Header} (clock : Clock)
    (path : SendPath ι) (hkind : hdr.kind ≠ .protocolError) (i : Nat) :
    (st.sendVia hdr clock path).2.sockets[i]? = st.sockets[i]?.map fun s =>
      if st.Looks hdr clock (.data path) ∧ addressed hdr (st.sockets.map Socket.header) i = true then
        (path.sskt hdr s).2
      else s := by
  have hsend := st.sendAny_sockets hdr clock (.data path)
  simp only [sendAny] at hsend
  rw [hsend]
  by_cases hlook : st.Looks hdr clock (.data path)
  · simp only [hlook, if_true, true_and, Sending.handOut, if_neg hkind]
    by_cases hall : hdr.dst.portId = 255
    · simp only [hall, if_true, offerEach, List.getElem?_map]
      refine Option.map_congr fun s hs => ?_
      have haddr : addressed hdr (st.sockets.map Socket.header) i = s.hears hdr := by
        simp only [addressed, hall, if_true, List.getElem?_map, hs]
        rfl
      rw [haddr]
    · rw [if_neg hall]
      exact st.deliver_getElem? path hall _ i
  · simp [hlook]

end Places

/-! ## Messages and their bytes -/

/-- What the receiver makes of the bytes of a message. -/
def unpack (de : List UInt8 → Option Msg) (data : List UInt8) : Option (Header × Msg) :=
  match deFrame data with
  | some ⟨hdr, .ok body, _⟩ => (de body).map fun msg => (hdr, msg)
  | _ => none

/-- A header that a message can be sent with over the wire. -/
structure Header.Sendable (hdr : Header) : Prop where
  ttl : hdr.ttl ≤ maxTtl
  kind : hdr.kind.isValid
  not_err : hdr.kind ≠ .protocolError

/-- Whether an appendix is there for a port that has one. -/
def Header.NoStrayAppendix (hdr : Header) : Prop :=
  hdr.anyAll.isSome → hdr.dst.portId = 0 ∨ hdr.dst.portId = 255

/-- A message is read back if the appendix is the one that the port has. -/
theorem unpack_encodeFrameTy_iff {de : List UInt8 → Option Msg} {hdr : Header} {msg : Msg}
    (h : hdr.Sendable) (hround : de msg.bytes = some msg) (hkey : hdr.Keyed) :
    unpack de (encodeFrameTy hdr msg.bytes) = some (hdr, msg) ↔ hdr.NoStrayAppendix := by
  constructor
  · intro hread
    unfold unpack at hread
    split at hread
    · next frame body wf _ =>
      rw [Option.map_eq_some_iff] at hread
      obtain ⟨msg', -, hpair⟩ := hread
      cases hpair
      exact fun happ => (wf.appendix.mp happ).2
    · cases hread
  · intro hstray
    have hclamp := Header.clampTtl_of_le h.ttl
    have wf : FrameWf hdr (.ok msg.bytes) :=
      ⟨iff_of_false h.not_err nofun, fun he => absurd he h.not_err,
        ⟨fun happ => ⟨h.not_err, hstray happ⟩, fun hport => hkey hport.2⟩, h.ttl, h.kind⟩
    have hde := deFrame_encodeFrame (show FrameWf hdr.clampTtl (.ok msg.bytes) by rwa [hclamp])
    simp only [hclamp] at hde
    simp only [unpack, show encodeFrameTy hdr msg.bytes = encodeFrame hdr (.ok msg.bytes) from rfl,
      hde, hround, Option.map_some]

/-! ## The sends -/

/-- Whether this is what is sent of a message. -/
def Payload.Carries (msg : Msg) : Payload → Prop
  | .ty t => t = msg
  | .raw data => data = msg.bytes
  | .err _ => False

/-- The same send to a socket that cannot be handed a borrowed message. -/
def SendPath.toOwned {ι : Type} : SendPath ι → SendPath ι
  | .ty t | .bor t => .ty t
  | .raw body source => .raw body source

section Sockets

variable {κ P ι : Type} [BbqHandle κ]

/-- What a borrow socket stores of a message. -/
theorem SendPath.frames_sskt (path : SendPath ι) {msg : Msg} (hmsg : path.payload.Carries msg)
    (hdr : Header) {s : Socket (AnySocket κ)} {b : BorrowSocket κ} (hs : s.inner = .borrow b) :
    ∃ b', (path.sskt hdr s).2.inner = .borrow b' ∧
      (b'.frames = b.frames ∨ b'.frames = b.frames ++ [encodeFrameTy hdr msg.bytes]) := by
  cases path with
  | ty t =>
    cases hmsg
    refine ⟨(b.recvBor msg hdr).2, ?_, b.frames_write _ _⟩
    simp [sskt, sendTyToSocket, SocketVTable.recvOwned, SocketVTable.recvBor, hs, Socket.report]
  | raw body source =>
    cases hmsg
    refine ⟨(b.recvRaw msg.bytes hdr).2, ?_, b.frames_recvRaw _ _⟩
    simp [sskt, sendRawToSocket, SocketVTable.recvRaw, hs, Socket.report]
  | bor t =>
    cases hmsg
    refine ⟨(b.recvBor msg hdr).2, ?_, b.frames_write _ _⟩
    simp [sskt, sendBorToSocket, SocketVTable.recvBor, hs, Socket.report]

/-- An owned socket with room takes a message of its type. -/
theorem SendPath.received_sskt (path : SendPath ι) {msg : Msg} (hmsg : path.payload.Carries msg)
    (hdr : Header) {s : Socket (AnySocket κ)} {o : OwnedSocket} (hs : s.inner = .owned o)
    (hty : o.ty = msg.ty) (hde : o.decode msg.bytes = some msg) (hroom : o.isFull = false) :
    (path.toOwned.sskt hdr s).2.inner =
      .owned { o with received := o.received ++ [(hdr, .ok msg)] } := by
  have howned : ∀ t, t = msg → (sendTyToSocket t hdr s).2.inner =
      .owned { o with received := o.received ++ [(hdr, .ok msg)] } := by
    rintro t rfl
    simp [sendTyToSocket, SocketVTable.recvOwned, hs, Socket.report, OwnedSocket.recvOwned, hty,
      hroom, OwnedSocket.push]
  cases path with
  | ty t => exact howned t hmsg
  | bor t => exact howned t hmsg
  | raw body source =>
    cases hmsg
    simp [toOwned, sskt, sendRawToSocket, SocketVTable.recvRaw, hs, Socket.report,
      OwnedSocket.recvRaw, hroom, hde, OwnedSocket.push]

/-- Some send of the stack stores these bytes in the borrow socket in place `i`. -/
def NetStack.Stores [Profile P ι] (st : NetStack (AnySocket κ) P) (hdr : Header) (clock : Clock)
    (path : SendPath ι) (i : Nat) (data : List UInt8) : Prop :=
  ∃ s b s' b', st.sockets[i]? = some s ∧ s.inner = .borrow b ∧
    (st.sendVia hdr clock path).2.sockets[i]? = some s' ∧ s'.inner = .borrow b' ∧
      b'.frames = b.frames ++ [data]

/-- What an owned socket in place `i` receives by the same send. -/
def NetStack.TwinReceives [Profile P ι] (st : NetStack (AnySocket κ) P) (hdr : Header)
    (clock : Clock) (path : SendPath ι) (i : Nat) (de : List UInt8 → Option Msg) (msg : Msg) : Prop :=
  ∀ (st' : NetStack (AnySocket κ) P) (s : Socket (AnySocket κ)) (o : OwnedSocket),
    st'.profile = st.profile → st'.sockets.map Socket.header = st.sockets.map Socket.header →
    st'.sockets[i]? = some s → s.inner = .owned o → o.ty = msg.ty → o.decode = de →
    o.isFull = false →
    ∃ s', (st'.sendVia hdr clock path.toOwned).2.sockets[i]? = some s' ∧
      s'.inner = .owned { o with received := o.received ++ [(hdr, .ok msg)] }

/-- Only what is addressed is stored, as the codec encodes it. -/
theorem NetStack.Stores.spec [Profile P ι] {st : NetStack (AnySocket κ) P} {hdr : Header}
    {clock : Clock} {path : SendPath ι} {i : Nat} {data : List UInt8}
    (h : st.Stores hdr clock path i data) (hkind : hdr.kind ≠ .protocolError) {msg : Msg}
    (hmsg : path.payload.Carries msg) :
    data = encodeFrameTy hdr msg.bytes ∧ st.Looks hdr clock (.data path) ∧
      addressed hdr (st.sockets.map Socket.header) i = true := by
  obtain ⟨s, b, s', b', hs, hb, hs', hb', hframes⟩ := h
  rw [st.sendVia_getElem? clock path hkind i, hs, Option.map_some, Option.some.injEq] at hs'
  have hne : b.frames ≠ b.frames ++ [data] := fun h => by simpa using congrArg List.length h
  split at hs'
  · next hreached =>
    obtain ⟨b'', hinner, hwritten⟩ := path.frames_sskt hmsg hdr hb
    rw [hs', hb'] at hinner
    cases hinner
    rw [hframes] at hwritten
    rcases hwritten with hsame | hwritten
    · exact absurd hsame.symm hne
    · exact ⟨by simpa using hwritten, hreached⟩
  · rw [← hs', hb] at hb'
    cases hb'
    exact absurd hframes hne

/-- An owned socket in the same place receives the pair. -/
theorem NetStack.twinReceives [Profile P ι] {st : NetStack (AnySocket κ) P} {hdr : Header}
    {clock : Clock} {path : SendPath ι} {i : Nat} (hkind : hdr.kind ≠ .protocolError) {msg : Msg}
    (hmsg : path.payload.Carries msg) {de : List UInt8 → Option Msg}
    (hround : de msg.bytes = some msg) (hlook : st.Looks hdr clock (.data path))
    (haddr : addressed hdr (st.sockets.map Socket.header) i = true) :
    st.TwinReceives hdr clock path i de msg := by
  intro st' s o hprofile hheaders hs ho hty hde hroom
  have hlook' : st'.Looks hdr clock (.data path.toOwned) := by
    unfold Looks
    rw [hprofile]
    cases path <;> exact hlook
  refine ⟨_, ?_, path.received_sskt hmsg hdr ho hty (hde ▸ hround) hroom⟩
  rw [st'.sendVia_getElem? clock path.toOwned hkind i, hs, Option.map_some, hheaders,
    if_pos ⟨hlook', haddr⟩]

end Sockets

section Sinks

/-- A message leaves the sink of a port as it is, or is sent to it by one of two methods. -/
theorem EdgePort.sink_put {σ : Type} [InterfaceSink σ] {R : σ → Prop} (p : EdgePort σ)
    {hdr fin : Header} (hfin : p.commonSend hdr = .ok fin) {payload : Payload} {msg : Msg}
    (h : payload.Carries msg) (hself : R p.sink) (hty : R (InterfaceSink.sendTy p.sink fin msg).2)
    (hraw : R (InterfaceSink.sendRaw p.sink fin msg.bytes).2) : R (p.put hdr payload).2.sink := by
  cases payload with
  | ty t =>
    cases h
    simpa only [put, send, hfin, report] using hty
  | raw data =>
    cases h
    simp only [put, sendRaw, hfin]
    split
    · exact hself
    · exact hraw
  | err e => cases h

variable {κ : Type} [BbqHandle κ]

/-- What a packet port commits of a message. -/
theorem FramedStream.committed_put (p : EdgePort (FramedStream.Sink κ)) {hdr fin : Header}
    (hfin : p.commonSend hdr = .ok fin) {payload : Payload} {msg : Msg} (h : payload.Carries msg) :
    (p.put hdr payload).2.sink.committed = p.sink.committed ∨
      (p.put hdr payload).2.sink.committed = p.sink.committed ++ [encodeFrameTy fin msg.bytes] := by
  have hwrite : ∀ (s : FramedStream.Sink κ) maxLen frame,
      (s.write maxLen frame).2.committed = s.committed ∨
        (s.write maxLen frame).2.committed = s.committed ++ [frame] := by
    intro s maxLen frame
    unfold Sink.write
    split
    · exact .inl rfl
    · split
      · exact .inr rfl
      · exact .inl rfl
  refine p.sink_put (R := fun s => s.committed = p.sink.committed ∨
    s.committed = p.sink.committed ++ [encodeFrameTy fin msg.bytes]) hfin h (.inl rfl) ?_ ?_
  · simp only [InterfaceSink.sendTy]
    split
    · exact .inl rfl
    · exact hwrite _ _ _
  · simp only [InterfaceSink.sendRaw]
    split
    · exact .inl rfl
    · split
      · exact hwrite _ _ _
      · exact .inl rfl

/-- What a COBS port commits of a message. -/
theorem committed_put {crates : CobsCrates} (p : EdgePort (Sink crates κ)) {hdr fin : Header}
    (hfin : p.commonSend hdr = .ok fin) {payload : Payload} {msg : Msg} (h : payload.Carries msg) :
    (p.put hdr payload).2.sink.committed = p.sink.committed ∨
      (p.put hdr payload).2.sink.committed =
        p.sink.committed ++ (crates.encode (encodeFrameTy fin msg.bytes) ++ [0]) := by
  have hwrite : ∀ (s : Sink crates κ) maxLen frame,
      (s.write maxLen frame).2.committed = s.committed ∨
        (s.write maxLen frame).2.committed = s.committed ++ (crates.encode frame ++ [0]) := by
    intro s maxLen frame
    obtain ⟨-, htrue, hfalse⟩ := s.write_spec maxLen frame
    cases hres : (s.write maxLen frame).1 with
    | true => exact .inr (htrue hres).2
    | false => exact .inl (hfalse hres)
  refine p.sink_put (R := fun s => s.committed = p.sink.committed ∨
    s.committed = p.sink.committed ++ (crates.encode (encodeFrameTy fin msg.bytes) ++ [0]))
    hfin h (.inl rfl) ?_ ?_
  · simp only [InterfaceSink.sendTy]
    split
    · exact .inl rfl
    · exact hwrite _ _ _
  · simp only [InterfaceSink.sendRaw]
    split
    · exact .inl rfl
    · exact hwrite _ _ _

end Sinks

/-! ## The law -/

/-- `common_send` lets out a header that can be sent, with the appendix that it had. -/
theorem EdgePort.commonSend_sendable {σ : Type} {p : EdgePort σ} {hdr fin : Header}
    (h : hdr.Sendable) (hfin : p.commonSend hdr = .ok fin) :
    fin.Sendable ∧ fin.Keyed ∧ (fin.NoStrayAppendix ↔ hdr.NoStrayAppendix) := by
  have hkey := commonSend_ok_keyed hfin
  unfold commonSend at hfin
  split at hfin
  · split at hfin
    · cases hfin
    · dsimp only at hfin
      split at hfin
      · cases hfin
      · cases hfin
        refine ⟨⟨h.ttl, h.kind, h.not_err⟩, ?_, ?_⟩
        · unfold Header.Keyed
          rw [stampDst_portId]
          exact hkey
        · unfold Header.NoStrayAppendix
          rw [stampDst_portId]
  · cases hfin

/-- When borrowed and owned delivery agree, and what is sent can be read. The appendix is the one
that the decoder expects unless it is there for a specific port. -/
theorem owned_borrowed_agree_iff {κ P ι : Type} [BbqHandle κ] [Profile P ι] (crates : CobsCrates)
    (hdoc : crates.Documented) (de : List UInt8 → Option Msg) (hdr : Header) (msg : Msg)
    (h : hdr.Sendable) (hround : de msg.bytes = some msg) :
    (∀ (st : NetStack (AnySocket κ) P) (clock : Clock) (path : SendPath ι) (i : Nat)
        (data : List UInt8), path.payload.Carries msg → st.Stores hdr clock path i data →
      (unpack de data = some (hdr, msg) ∧ st.TwinReceives hdr clock path i de msg ↔
        hdr.NoStrayAppendix)) ∧
    (∀ (p : EdgePort (FramedStream.Sink κ)) (payload : Payload) (fin : Header) (data : List UInt8),
      payload.Carries msg → p.commonSend hdr = .ok fin →
      (p.put hdr payload).2.sink.committed = p.sink.committed ++ [data] →
        (unpack de data = some (fin, msg) ↔ hdr.NoStrayAppendix)) ∧
    (∀ (p : EdgePort (Sink crates κ)) (payload : Payload) (fin : Header) (segment : List UInt8),
      payload.Carries msg → p.commonSend hdr = .ok fin →
      (p.put hdr payload).2.sink.committed = p.sink.committed ++ (segment ++ [0]) →
        ((crates.decode segment).bind (unpack de) = some (fin, msg) ↔ hdr.NoStrayAppendix)) := by
  refine ⟨fun st clock path i data hmsg hstored => ?_, fun p payload fin data hmsg hfin hsent => ?_,
    fun p payload fin segment hmsg hfin hsent => ?_⟩
  · obtain ⟨rfl, hlook, haddr⟩ := hstored.spec h.not_err hmsg
    have htwin := NetStack.twinReceives h.not_err hmsg hround hlook haddr
    rw [unpack_encodeFrameTy_iff h hround (addressed_keyed haddr)]
    exact and_iff_left htwin
  · obtain ⟨hsend, hkey, hstray⟩ := EdgePort.commonSend_sendable h hfin
    rcases FramedStream.committed_put p hfin hmsg with hsame | hput
    · simp [hsame] at hsent
    · obtain rfl : encodeFrameTy fin msg.bytes = data := by simpa [hput] using hsent
      rw [unpack_encodeFrameTy_iff hsend hround hkey, hstray]
  · obtain ⟨hsend, hkey, hstray⟩ := EdgePort.commonSend_sendable h hfin
    rcases committed_put p hfin hmsg with hsame | hput
    · simp [hsame] at hsent
    · obtain rfl : crates.encode (encodeFrameTy fin msg.bytes) = segment := by
        simpa [hput] using hsent
      rw [hdoc.decode_encode, Option.bind_some, unpack_encodeFrameTy_iff hsend hround hkey, hstray]

/-! ## A stray appendix -/

/-- A type whose messages are any bytes. -/
def demoDe (data : List UInt8) : Option Msg := some ⟨0, data⟩

/-- A request to port 9 of this node, with an appendix. -/
def strayRequest : Header :=
  ⟨⟨0, 0, 5⟩, ⟨0, 0, 9⟩, some ⟨⟨.replicate 8 1⟩, none⟩, .endpointReq, .normal, 15⟩

/-- A node with a borrow socket on port 9. -/
def demoBorrowNode : NetStack (AnySocket EndlessQueue) Null :=
  ⟨[⟨⟨.replicate 8 0⟩, none, .endpointReq, true, 9, .borrow ⟨64, {}, [], false⟩⟩], {}⟩

/-- The socket takes the appendix for the beginning of the message. -/
theorem stray_appendix_misread :
    demoBorrowNode.Stores strayRequest (.at 0) (.ty ⟨0, [7]⟩) 0 (encodeFrameTy strayRequest [7]) ∧
      unpack demoDe (encodeFrameTy strayRequest [7]) =
        some ({ strayRequest with anyAll := none }, ⟨0, .replicate 8 1 ++ [0, 7]⟩) ∧
      ¬ ∀ (path : SendPath Unit) (i : Nat) (data : List UInt8), path.payload.Carries ⟨0, [7]⟩ →
        demoBorrowNode.Stores strayRequest (.at 0) path i data →
          unpack demoDe data = some (strayRequest, ⟨0, [7]⟩) := by
  have hstored : demoBorrowNode.Stores strayRequest (.at 0) (.ty ⟨0, [7]⟩) 0
      (encodeFrameTy strayRequest [7]) := ⟨_, _, _, _, rfl, rfl, rfl, rfl, rfl⟩
  have hread : unpack demoDe (encodeFrameTy strayRequest [7]) =
      some ({ strayRequest with anyAll := none }, ⟨0, .replicate 8 1 ++ [0, 7]⟩) := rfl
  refine ⟨hstored, hread, fun h => ?_⟩
  have hpair := h (.ty ⟨0, [7]⟩) 0 _ rfl hstored
  rw [hread] at hpair
  exact absurd hpair (by decide)

/-- A request to 1.2, out of a port and read back. -/
theorem owned_borrowed_agree_iff_demo :
    unpack demoDe (encodeFrameTy { demoRequest with src := ⟨1, 1, 5⟩ } [7]) =
      some ({ demoRequest with src := ⟨1, 1, 5⟩ }, ⟨0, [7]⟩) := by
  have h := (owned_borrowed_agree_iff (κ := EndlessQueue) (P := Null) demoCrates
    demoCrates_documented demoDe demoRequest ⟨0, [7]⟩ ⟨by decide, rfl, by decide⟩ rfl).2.1
  exact (h demoPacketPort (.ty ⟨0, [7]⟩) _ _ rfl rfl rfl).mpr nofun

end Ergot
