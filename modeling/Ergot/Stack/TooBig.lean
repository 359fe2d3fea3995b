import Ergot.Router.Forward
import Ergot.Stack.Process

/-!
# Frames that are too big

What `router::process_frame` does when the next hop of a frame cannot carry it: it sends
an `IsePacketTooBig` report to the source of the frame.

- `TooBigReplied` is what should come of it: the report is put on the arrival interface,
  and on no other.
- The report is sent with the arrival interface as its source, so it is subject to the
  loop prevention that keeps a frame from leaving the way it came. A report that is
  routed to the arrival interface is refused as a loop, whatever the state of the
  interface, and one that leaves goes astray (`tooBigReplied_iff`).
-/

namespace Ergot

namespace EdgePort

variable {σ : Type} [InterfaceSink σ] {p : EdgePort σ} {hdr : Header} {data : List UInt8}

/-- Whether a port can take an error report: it is `Active`, and its sink has room. -/
def TakesErrors (p : EdgePort σ) : Prop :=
  p.address.isSome ∧
    ∀ hdr e, hdr.kind = .protocolError → (InterfaceSink.sendErr p.sink hdr e).1 = true

/-- A frame is too big when it does not fit the interface, and that is found out before
the port does anything. -/
theorem sendRaw_tooBig {mtu : UInt16} (h : (p.sendRaw hdr data).1 = .error (.packetTooBig mtu)) :
    mtu = InterfaceSink.mtu p.sink ∧ (p.sendRaw hdr data).2 = p := by
  unfold sendRaw at h ⊢
  split at h
  · rename_i hfit
    cases h
    exact ⟨rfl, by rw [if_pos hfit]⟩
  · exfalso
    split at h
    · rename_i e he
      cases h
      unfold commonSend at he
      split at he
      · split at he
        · cases he
        · dsimp only at he
          split at he <;> cases he
      · cases he
    · rename_i hdr' _
      rcases @report_fst _ p (InterfaceSink.sendRaw p.sink hdr' data) with h' | h' <;>
        rw [h'] at h <;> cases h

end EdgePort

namespace NetStack

variable {κ P : Type} [SocketVTable κ] {st : NetStack κ P}

/-- What comes of a look-up is never an error of the interfaces. -/
theorem deliver_ne_interfaceSend {hdr : Header} {data : List UInt8} {e : InterfaceSendError} :
    (st.deliver (findAnyLocal st.sockets hdr) (sendRawToSocket data hdr)).1 ≠
        .error (.interfaceSend e) ∧
      (st.deliver (findOneLocal st.sockets hdr) (sendRawToSocket data hdr)).1 ≠
        .error (.interfaceSend e) := by
  have hreport : ∀ s : Socket κ, (sendRawToSocket data hdr s).1 ≠ .error (.interfaceSend e) := by
    intro s
    unfold sendRawToSocket Socket.report
    dsimp only
    split <;> exact nofun
  constructor
  · cases h : findAnyLocal st.sockets hdr with
    | ok ref => exact hreport _
    | error e' =>
      rintro ⟨⟩
      unfold findAnyLocal at h
      split at h
      · cases h
      · split at h <;> cases h
  · cases h : findOneLocal st.sockets hdr with
    | ok ref => exact hreport _
    | error e' =>
      rintro ⟨⟩
      unfold findOneLocal at h
      split at h
      · cases h
      · split at h <;> cases h

end NetStack

namespace Router

variable {κ σ : Type} {N S C : Nat} [SocketVTable κ] [InterfaceSink σ]

/-- A frame that was too big for its next hop: the error carries the MTU of that hop, and
nothing was sent. -/
theorem sendRaw_tooBig (st : NetStack κ (Router σ N S C)) {hdr : Header} {data : List UInt8}
    {source : UInt8} {clock : Clock} {mtu : UInt16} (hkind : hdr.kind ≠ .protocolError)
    (hall : hdr.dst.portId ≠ 255) (hb : NetStack.localBypass hdr = false)
    (h : (st.sendRaw hdr data source clock).1 = .error (.interfaceSend (.packetTooBig mtu))) :
    (∃ ident port, st.profile.Leaves hdr.dst (some source) clock ident port ∧
        mtu = InterfaceSink.mtu port.sink) ∧
      (st.sendRaw hdr data source clock).2.profile = st.profile.gcSeed clock.now := by
  simp only [NetStack.sendRaw, NetStack.sendWith, if_neg hkind, if_neg hall] at h ⊢
  rw [NetStack.unicast_profile hb]
  -- the profile says that the frame is too big
  have hsend : (st.profile.sendRaw hdr data source clock).1 = .error (.packetTooBig mtu) := by
    have hsockets := @NetStack.deliver_ne_interfaceSend κ (Router σ N S C) _
    simp only [NetStack.unicast, hb, Bool.false_eq_true, if_false] at h
    rcases hres : Profile.sendRaw st.profile hdr data source clock with ⟨e | _, p⟩
    · have hres' : st.profile.sendRaw hdr data source clock = (.error e, p) := hres
      rw [hres']
      simp only [hres] at h
      split at h
      · split at h
        · exact absurd h (hsockets).1
        · exact absurd h (hsockets).2
      · cases h
        rfl
    · simp [hres] at h
  show _ ∧ (st.profile.sendRaw hdr data source clock).2 = _
  unfold sendRaw at hsend ⊢
  cases hdec : hdr.decrementTtl with
  | error e =>
    -- a hop count that has run out is another error
    rw [hdec] at hsend
    cases hsend
    unfold Header.decrementTtl at hdec
    split at hdec <;> cases hdec
  | ok hdr' =>
    have hdst : hdr'.dst = hdr.dst ∧ hdr'.anyAll = hdr.anyAll := by
      unfold Header.decrementTtl at hdec
      split at hdec <;> cases hdec
      exact ⟨rfl, rfl⟩
    have hall' : hdr'.dst.portId ≠ 255 := by rwa [hdst.1]
    simp only [hdec, if_neg hall'] at hsend ⊢
    by_cases hkey : hdr'.dst.portId = 0 ∧ hdr'.anyAll.isNone
    · simp [findThen, find, hkey] at hsend
    · rcases st.profile.findThen_interfaces hdr' (some source) clock _ hkey with
        ⟨before, i, after, hleaves, -, hfst, -, hsame⟩ | ⟨-, ⟨e, he, hfst⟩, -⟩
      · rw [hfst] at hsend
        obtain ⟨hmtu, hport⟩ := EdgePort.sendRaw_tooBig hsend
        exact ⟨⟨i.ident, i.port, hdst.1 ▸ hleaves, hmtu⟩, hsame hport⟩
      · -- a frame that leaves by no interface is not too big for one
        rw [hfst] at hsend
        cases hsend
        rcases he with h | h | h <;> cases h

/-- What a report should do to an interface: the arrival interface, if it can take it, is
sent one, and another interface is sent nothing. -/
def ReportLeg (ident : UInt8) (src : Address) (mtu : UInt16)
    (i i' : Iface (Tapped (Header × Payload) σ)) : Prop :=
  if i.ident = ident then
    i.port.TakesErrors → ∃ hdr, hdr.dst = src ∧
      i'.port.sink.log = i.port.sink.log ++ [(hdr, .err (.isePacketTooBig mtu))]
  else i'.port.sink.log = i.port.sink.log

/-- What should come of a frame from `src` that was too big for its next hop. -/
def TooBigReplied (ident : UInt8) (src : Address) (mtu : UInt16)
    (r r' : Router (Tapped (Header × Payload) σ) N S C) : Prop :=
  List.Forall₂ (ReportLeg ident src mtu) r.interfaces r'.interfaces

/-- An interface where nothing happened is right if it is not the arrival interface, or
cannot take the report. -/
theorem reportLeg_same {ident : UInt8} {src : Address} {mtu : UInt16}
    {i : Iface (Tapped (Header × Payload) σ)} :
    ReportLeg ident src mtu i i ↔ (i.ident = ident → ¬ i.port.TakesErrors) := by
  unfold ReportLeg
  by_cases hident : i.ident = ident
  · rw [if_pos hident]
    constructor
    · intro h _ htakes
      obtain ⟨hdr, -, hlog⟩ := h htakes
      simp at hlog
    · intro h htakes
      exact absurd htakes (h hident)
  · rw [if_neg hident]
    exact iff_of_true rfl fun h => absurd h hident

/-- An error report from a frame processor is a send through its route. -/
theorem sendErr_profile (st : NetStack κ (Router σ N S C)) {hdr : Header} (e : ProtocolError)
    (source : UInt8) (clock : Clock) (hall : hdr.dst.portId ≠ 255) (httl : hdr.ttl ≠ 0)
    (hb : NetStack.localBypass hdr = false) :
    (st.sendErr hdr e (some source) clock).2.profile =
      (st.profile.findThen { hdr with ttl := hdr.ttl - 1 } (some source) clock
        fun port => port.sendErr { hdr with ttl := hdr.ttl - 1 } e).2 := by
  simp only [NetStack.sendErr, if_neg hall]
  rw [NetStack.unicastErr_profile hb]
  show (st.profile.sendErr hdr e (some source) clock).2 = _
  rw [sendErr, Header.decrementTtl_of_ne httl]

/-- What becomes of the interfaces when a report is sent. -/
theorem sendErr_report (r : Router (Tapped (Header × Payload) σ) N S C) {hdr : Header}
    (ident : UInt8) (mtu : UInt16) (clock : Clock) (hany : hdr.dst.portId ≠ 0)
    (hall : hdr.dst.portId ≠ 255) :
    TooBigReplied ident hdr.dst mtu r
        (r.findThen hdr (some ident) clock fun port => port.sendErr hdr (.isePacketTooBig mtu)).2 ↔
      (∀ i ∈ r.interfaces, i.ident = ident → ¬ i.port.TakesErrors) ∧
        ∀ other port, r.Leaves hdr.dst (some ident) clock other port →
          port.address = none ∨ port.address = some (hdr.dst.networkId, hdr.dst.nodeId) := by
  have hkey : hdr.Keyed := fun h => (h.elim hany hall).elim
  rcases r.findThen_interfaces hdr (some ident) clock
      (fun port => port.sendErr hdr (.isePacketTooBig mtu)) fun h => hany h.1 with
    ⟨before, i, after, hleaves, hsplit, -, hafter, -⟩ | ⟨hno, -, hsame⟩
  · -- the report leaves by another interface
    have hother : i.ident ≠ ident := fun h => hleaves.2.2 (by rw [h])
    rw [TooBigReplied, hsplit, hafter, HeaplessVec.forall₂_replace]
    simp only [reportLeg_same]
    -- nothing is to be sent there, so the port has to refuse it
    have hleg : ReportLeg ident hdr.dst mtu i
          (i.withPort (i.port.sendErr hdr (.isePacketTooBig mtu)).2) ↔
        (i.port.address = none ∨
          i.port.address = some (hdr.dst.networkId, hdr.dst.nodeId)) := by
      rw [ReportLeg, if_neg hother, Iface.withPort_port, EdgePort.sendErr_log _ _ hkey,
        List.append_right_eq_self]
      cases haddr : i.port.address with
      | none => simp
      | some a => simp
    rw [hleg]
    constructor
    · rintro ⟨hbefore, haddr, hrest⟩
      refine ⟨fun j hj hident => ?_, fun other port hport => ?_⟩
      · rcases List.mem_append.mp hj with hj | hj
        · exact hbefore j hj hident
        · rcases List.mem_cons.mp hj with rfl | hj
          · exact absurd hident hother
          · exact hrest j hj hident
      · obtain ⟨-, rfl⟩ := hleaves.unique hport
        exact haddr
    · rintro ⟨htakes, haddr⟩
      exact ⟨fun j hj => htakes j (by simp [hj]), haddr _ _ hleaves,
        fun j hj => htakes j (by simp [hj])⟩
  · -- the report is refused
    rw [TooBigReplied, hsame]
    have hsame' : (r.gcSeed clock.now).interfaces = r.interfaces := rfl
    rw [hsame', List.forall₂_same]
    simp only [reportLeg_same]
    exact ⟨fun h => ⟨h, fun other port hport => absurd hport (hno other port)⟩, fun h => h.1⟩

/-- The reply to a frame that was too big is what should come of it exactly if the
arrival interface cannot take a report, and none leaves by another. -/
theorem tooBigReplied_iff
    (st : NetStack κ (Router (Tapped (Header × Payload) σ) N S C)) (netId : UInt16)
    (ident : UInt8) (frame : BorrowedFrame) (clock : FrameClock) (data : List UInt8)
    (receipt : Receipt κ (Router (Tapped (Header × Payload) σ) N S C)) (mtu : UInt16)
    (hbody : frame.body = .ok data) (hunicast : frame.hdr.dst.portId ≠ 255)
    (hreceive : routerReceive netId frame st ident clock = some receipt)
    (hresult : receipt.result = .error (.interfaceSend (.packetTooBig mtu)))
    (hany : receipt.hdr.src.portId ≠ 0) (hall : receipt.hdr.src.portId ≠ 255) :
    TooBigReplied ident receipt.hdr.src mtu st.profile
        (routerProcessFrame netId frame st ident clock).profile ↔
      (∀ i ∈ st.profile.interfaces, i.ident = ident → ¬ i.port.TakesErrors) ∧
        ∀ other port, (st.profile.gcSeed clock.send.now).Leaves receipt.hdr.src (some ident)
            clock.reply other port →
          port.address = none ∨
            port.address = some (receipt.hdr.src.networkId, receipt.hdr.src.nodeId) := by
  have hprocess : routerProcessFrame netId frame st ident clock =
      (receipt.stack.sendErr receipt.hdr.errReply (.isePacketTooBig mtu) (some ident)
        clock.reply).2 := by
    simp only [routerProcessFrame, hreceive, replyTooBig, hresult, hany, hall, or_self, if_false]
  obtain ⟨hdr, hin, rfl⟩ := Option.map_eq_some_iff.mp hreceive
  obtain ⟨hport, hkind, -, hsrc⟩ := routerIngress_spec hin
  have hhdr : (st.handOn hdr frame.body ident clock.send).hdr = hdr := rfl
  rw [hhdr] at hprocess hany hall ⊢
  -- nothing was sent when the frame turned out to be too big
  have hstack : (st.handOn hdr frame.body ident clock.send).stack.profile =
      st.profile.gcSeed clock.send.now := by
    have hkind' : hdr.kind ≠ .protocolError := hkind ▸ frame.kind_ne hbody
    have hb : NetStack.localBypass hdr = false := by simp [NetStack.localBypass, hsrc]
    simp only [NetStack.handOn, hbody] at hresult ⊢
    exact (sendRaw_tooBig st hkind' (by rwa [hport]) hb hresult).2
  have hb : NetStack.localBypass hdr.errReply = false := by
    simp [NetStack.localBypass, Header.errReply, hsrc]
  have httl : hdr.errReply.ttl ≠ 0 := show defaultTtl ≠ 0 by decide
  rw [hprocess, sendErr_profile _ _ _ _ hall httl hb, hstack]
  exact @sendErr_report _ _ _ _ _ (st.profile.gcSeed clock.send.now)
    { hdr.errReply with ttl := hdr.errReply.ttl - 1 } ident mtu clock.reply hany hall

/-! ## A reply that is refused -/

/-- A root router with segments 1 and 2, the second of them too narrow for most frames. -/
def demoNarrow (room : Nat) :
    NetStack OwnedSocket (Router (Tapped (Header × Payload) FrameQueue) 2 1 1) :=
  let r : Router (Tapped (Header × Payload) FrameQueue) 2 1 1 :=
    new ⟨fun i => UInt64.ofNat i, 0⟩ two_slots
  let r := (r.registerInterface ⟨⟨2048, room, []⟩, []⟩ 0).2
  ⟨[], (r.registerInterface ⟨⟨30, room, []⟩, []⟩ 0).2⟩

/-- A request of 10 bytes from the edge of segment 1 to the edge of segment 2. -/
def demoLong : BorrowedFrame where
  hdr := ⟨⟨1, 2, 10⟩, ⟨2, 2, 20⟩, none, .endpointReq, .normal, 15⟩
  body := .ok (List.replicate 10 7)
  wf := ⟨by simp [FrameKind.endpointReq, FrameKind.protocolError],
    by simp [FrameKind.endpointReq, FrameKind.protocolError], by simp,
    show (15 : UInt8) ≤ maxTtl by decide, rfl⟩

/-- What the router makes of that request: it does not fit segment 2. -/
def demoTooBig (room : Nat) :
    Receipt OwnedSocket (Router (Tapped (Header × Payload) FrameQueue) 2 1 1) :=
  ⟨demoLong.hdr, .error (.interfaceSend (.packetTooBig 30)), demoNarrow room⟩

/-- There is room on segment 1 for the report, which is not sent. -/
theorem report_refused :
    routerReceive 1 demoLong (demoNarrow 2) 0 ⟨0, .at 0, .at 0⟩ = some (demoTooBig 2) ∧
      (demoTooBig 2).result = .error (.interfaceSend (.packetTooBig 30)) ∧
      (∃ i ∈ (demoNarrow 2).profile.interfaces, i.ident = 0 ∧ i.port.TakesErrors) ∧
      ¬ TooBigReplied 0 demoLong.hdr.src 30 (demoNarrow 2).profile
        (routerProcessFrame 1 demoLong (demoNarrow 2) 0 ⟨0, .at 0, .at 0⟩).profile := by
  have htakes : @EdgePort.TakesErrors (Tapped (Header × Payload) FrameQueue) _
      ⟨⟨⟨2048, 2, []⟩, []⟩, .active 1 1, 1, 2⟩ := by
    refine ⟨rfl, fun hdr e hkind => ?_⟩
    simp [InterfaceSink.sendErr, FrameQueue.offer, FrameQueue.admits, hkind, Payload.size,
      maxHdrEncodedSize]
  refine ⟨rfl, rfl, ⟨.slot ⟨0, ⟨⟨⟨2048, 2, []⟩, []⟩, .active 1 1, 1, 2⟩, 1⟩, ?_, rfl, htakes⟩,
    fun h => ?_⟩
  · exact List.mem_cons_self
  · obtain ⟨hdr, -, hlog⟩ := (List.forall₂_cons.mp h).1 htakes
    simp at hlog

/-- With no room on segment 1 nothing was to be sent. -/
theorem tooBigReplied_iff_demo :
    TooBigReplied 0 demoLong.hdr.src 30 (demoNarrow 0).profile
      (routerProcessFrame 1 demoLong (demoNarrow 0) 0 ⟨0, .at 0, .at 0⟩).profile := by
  refine (tooBigReplied_iff (demoNarrow 0) 1 0 demoLong ⟨0, .at 0, .at 0⟩ (List.replicate 10 7)
    (demoTooBig 0) 30 rfl (by decide) rfl rfl (by decide) (by decide)).mpr ⟨?_, ?_⟩
  · rintro i hi - ⟨-, htakes⟩
    have hroom : ∀ i ∈ (demoNarrow 0).profile.interfaces, i.port.sink.inner.room = 0 := by decide
    have hsent := htakes { demoLong.hdr with kind := .protocolError } .reserved rfl
    simp [InterfaceSink.sendErr, FrameQueue.offer, FrameQueue.admits, hroom i hi] at hsent
  · rintro other port ⟨-, hroute, hsource⟩
    have hback : (((demoNarrow 0).profile.gcSeed 0).route 1 (.at 0)).map Prod.fst = some 0 := rfl
    have hother := congrArg (Option.map Prod.fst) hroute
    exact absurd (hback.symm.trans hother) hsource

end Router

end Ergot
