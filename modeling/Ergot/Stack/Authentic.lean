import Ergot.Router.Forward
import Ergot.Stack.Process

/-!
# Where frames say they come from

The source of a frame that a router forwards or delivers, for frames that came in with a
link-local source (network id 0).

- Sinks and sockets are tapped. `Forwarded` and `Handed` are the headers that interfaces
  other than the arrival interface were offered, and that sockets were handed.
- `Faithful` is what a source should be: not an address of this node, and an address
  that is routed back to the arrival interface.
- `router::process_frame` writes the net id of the processor into such a source. A
  pending slot has none, so there the source stays link-local, and the interface that the
  frame leaves by writes its own net id into it (`stampSrc`).
-/

namespace Ergot

/-! ## What was offered and handed -/

/-- An interface other than `source` was offered a frame between the two states. -/
def Router.Forwarded {σ : Type} {N S C : Nat}
    (r r' : Router (Tapped (Header × Payload) σ) N S C) (source : UInt8) (hdr : Header) : Prop :=
  ∃ i i', (i, i') ∈ r.interfaces.zip r'.interfaces ∧ i.ident ≠ source ∧
    ∃ payload, (hdr, payload) ∈ i'.port.sink.log.drop i.port.sink.log.length

/-- A socket was handed a frame between the two states. -/
def Handed {κ P : Type} (st st' : NetStack (Tapped (Header × Payload) κ) P) (hdr : Header) :
    Prop :=
  ∃ s s', (s, s') ∈ st.sockets.zip st'.sockets ∧
    ∃ payload, (hdr, payload) ∈ s'.inner.log.drop s.inner.log.length

section Sockets

variable {κ P ι : Type} {st : NetStack (Tapped (Header × Payload) κ) P} {hdr out : Header}

/-- What a send hands to a socket has the header of the frame. -/
def HandsOnly (hdr : Header)
    (sskt : Socket (Tapped (Header × Payload) κ) →
      Except NetStackSendError Unit × Socket (Tapped (Header × Payload) κ)) : Prop :=
  ∀ s, ∃ l, (∀ x ∈ l, x.1 = hdr) ∧ (sskt s).2.inner.log = s.inner.log ++ l

theorem handsOnly_sendRaw [SocketVTable κ] (data : List UInt8) :
    @HandsOnly κ hdr (sendRawToSocket data hdr) :=
  fun _ => ⟨[(hdr, .raw data)], by simp, rfl⟩

theorem handsOnly_sendErr [SocketVTable κ] (e : ProtocolError) :
    @HandsOnly κ hdr (sendErrToSocket e hdr) := by
  intro s
  unfold sendErrToSocket
  cases h : SocketVTable.recvErr s.inner with
  | none => exact ⟨[], by simp, (List.append_nil _).symm⟩
  | some f =>
    obtain ⟨g, -, rfl⟩ := Option.map_eq_some_iff.mp h
    exact ⟨[(hdr, .err e)], by simp, rfl⟩

/-- A socket that a send went to was handed the header of the frame. -/
theorem HandsOnly.mem {sskt : Socket (Tapped (Header × Payload) κ) →
      Except NetStackSendError Unit × Socket (Tapped (Header × Payload) κ)}
    (h : HandsOnly hdr sskt) {s s' : Socket (Tapped (Header × Payload) κ)}
    (hs : s' = s ∨ s' = (sskt s).2) {payload : Payload}
    (hmem : (out, payload) ∈ s'.inner.log.drop s.inner.log.length) : out = hdr := by
  rcases hs with rfl | rfl
  · simp at hmem
  · obtain ⟨l, hl, hlog⟩ := h s
    rw [hlog, List.drop_left] at hmem
    exact hl _ hmem

/-- What is found among the sockets is the first one that satisfies some predicate. -/
def FoundFirst (sockets : List (Socket (Tapped (Header × Payload) κ)))
    (found : Except NetStackSendError (SocketMut (Tapped (Header × Payload) κ))) : Prop :=
  ∀ ref, found = .ok ref → ∃ p, sockets.find? p = some ref.socket ∧
    ref = socketMut sockets p ref.socket

theorem findOneLocal_first {sockets : List (Socket (Tapped (Header × Payload) κ))} :
    FoundFirst sockets (findOneLocal sockets hdr) := by
  intro ref h
  unfold findOneLocal at h
  split at h
  · cases h
  · rename_i s hs
    split at h
    · cases h
    · cases h
      exact ⟨_, hs, rfl⟩

theorem findOneErrLocal_first {sockets : List (Socket (Tapped (Header × Payload) κ))} :
    FoundFirst sockets (findOneErrLocal sockets hdr) := by
  intro ref h
  unfold findOneErrLocal at h
  split at h
  · cases h
  · rename_i s hs
    cases h
    exact ⟨_, hs, rfl⟩

theorem findAnyLocal_first {sockets : List (Socket (Tapped (Header × Payload) κ))} :
    FoundFirst sockets (findAnyLocal sockets hdr) := by
  intro ref h
  unfold findAnyLocal at h
  split at h
  · cases h
  · rename_i apdx _
    split at h
    · cases h
    · rename_i s hs
      cases h
      refine ⟨_, ?_, rfl⟩
      rw [← List.head?_filter, hs]
      rfl
    · cases h

/-- A look-up hands the frame to the socket it finds. -/
theorem deliver_handed {sskt : Socket (Tapped (Header × Payload) κ) →
      Except NetStackSendError Unit × Socket (Tapped (Header × Payload) κ)}
    (hsskt : HandsOnly hdr sskt) {found : Except NetStackSendError _}
    (hfound : FoundFirst st.sockets found) {p : P}
    (h : Handed st (NetStack.deliver ⟨st.sockets, p⟩ found sskt).2 out) : out = hdr := by
  obtain ⟨s, s', hzip, payload, hmem⟩ := h
  cases hres : found with
  | error e =>
    rw [hres] at hzip
    exact hsskt.mem (.inl (HeaplessVec.mem_zip_self hzip)) hmem
  | ok ref =>
    obtain ⟨q, hfind, hmut⟩ := hfound ref hres
    obtain ⟨before, after, hsplit, -, hmod⟩ := HeaplessVec.modifyFirstList_split_all hfind
    have hsockets : (NetStack.deliver ⟨st.sockets, p⟩ found sskt).2.sockets =
        before ++ (sskt ref.socket).2 :: after := by
      rw [hres, ← hmod fun _ => (sskt ref.socket).2]
      show ref.putBack (sskt ref.socket).2 = _
      rw [hmut]
      rfl
    rw [hsockets, hsplit] at hzip
    rcases HeaplessVec.mem_zip_replace hzip with hself | ⟨rfl, rfl⟩
    · exact hsskt.mem (.inl hself) hmem
    · exact hsskt.mem (.inr rfl) hmem

/-- A broadcast hands the frame to every socket that it matches. -/
theorem broadcast_handed {sskt : Socket (Tapped (Header × Payload) κ) →
      Except NetStackSendError Unit × Socket (Tapped (Header × Payload) κ)}
    (hsskt : HandsOnly hdr sskt) {smgr : P → Except InterfaceSendError Unit × P}
    (h : Handed st (st.broadcast hdr sskt smgr).2 out) : out = hdr := by
  obtain ⟨s, s', hzip, payload, hmem⟩ := h
  refine hsskt.mem ?_ hmem
  unfold NetStack.broadcast at hzip
  split at hzip
  · exact .inl (HeaplessVec.mem_zip_self hzip)
  · obtain ⟨acc, rfl⟩ := HeaplessVec.mem_zip_forEachList hzip
    unfold NetStack.broadcastLeg
    split
    · right
      split
      · rename_i heq
        rw [heq]
      · rename_i heq
        rw [heq]
      · rename_i heq
        rw [heq]
    · exact .inl rfl

theorem not_handed {st' : NetStack (Tapped (Header × Payload) κ) P}
    (hsockets : st'.sockets = st.sockets) : ¬ Handed st st' out := by
  rintro ⟨s, s', hzip, payload, hmem⟩
  rw [hsockets] at hzip
  rw [HeaplessVec.mem_zip_self hzip] at hmem
  simp at hmem

/-- What a frame processor hands on reaches sockets with the header it was handed on
with. -/
theorem handOn_handed [SocketVTable κ] [Profile P ι] {body : Except ProtocolError (List UInt8)}
    {ident : ι} {clock : Clock} (h : Handed st (st.handOn hdr body ident clock).stack out) :
    out = hdr := by
  cases body with
  | ok body =>
    have hraw : @HandsOnly κ hdr (sendRawToSocket body hdr) := handsOnly_sendRaw body
    replace h : Handed st (st.sendRaw hdr body ident clock).2 out := h
    unfold NetStack.sendRaw NetStack.sendWith at h
    split at h
    · exact absurd h (not_handed rfl)
    · split at h
      · exact broadcast_handed hraw h
      · unfold NetStack.unicast at h
        dsimp only at h
        split at h
        · exact absurd h (not_handed rfl)
        · split at h
          · split at h
            · exact deliver_handed hraw findAnyLocal_first h
            · exact deliver_handed hraw findOneLocal_first h
          · exact absurd h (not_handed rfl)
  | error e =>
    have herr : @HandsOnly κ hdr (sendErrToSocket e hdr) := handsOnly_sendErr e
    replace h : Handed st (st.sendErr hdr e (some ident) clock).2 out := h
    unfold NetStack.sendErr at h
    split at h
    · exact absurd h (not_handed rfl)
    · unfold NetStack.unicastErr at h
      dsimp only at h
      split at h
      · exact absurd h (not_handed rfl)
      · split at h
        · exact deliver_handed herr findOneErrLocal_first h
        · exact absurd h (not_handed rfl)

end Sockets

/-! ## The interfaces a frame leaves by -/

namespace Router

variable {σ : Type} {N S C : Nat}

/-- The destination that the frame has at an interface: the legs of a broadcast have
their own. -/
def legDst (r : Router σ N S C) (hdr : Header) (source : UInt8) (i : Iface σ) : Address :=
  if hdr.dst.portId = 255 then
    match i with
    | .slot s => (legHdr hdr s.netId).dst
    | .upstream _ => (r.lastLegHdr hdr source).dst
  else hdr.dst

/-- Whether a frame leaves by an interface: a broadcast by all but the source, a unicast
by the one it is routed to, if they are wide enough and `Active` under another address
than the frame's. -/
structure Egress [InterfaceSink σ] (r : Router σ N S C) (hdr : Header)
    (body : Except ProtocolError (List UInt8)) (source : UInt8) (clock : Clock) (i : Iface σ) :
    Prop where
  mem : i ∈ r.interfaces
  ttl : hdr.ttl ≠ 0
  other : i.ident ≠ source
  route : hdr.dst.portId ≠ 255 → r.Leaves hdr.dst (some source) clock i.ident i.port
  fits : ∀ data, body = .ok data → i.port.fits data
  active : i.port.address.isSome
  foreign : i.port.address ≠
    some ((r.legDst hdr source i).networkId, (r.legDst hdr source i).nodeId)

/-- The header that an interface is offered. -/
def outHdr (r : Router σ N S C) (hdr : Header) (source : UInt8) (i : Iface σ) : Header :=
  i.port.outHdr { hdr with ttl := hdr.ttl - 1, dst := r.legDst hdr source i }

/-- What a frame processor knows of a frame that it hands on. -/
structure HandedOn (hdr : Header) (body : Except ProtocolError (List UInt8)) : Prop where
  remote : NetStack.localBypass hdr = false
  kind : ∀ data, body = .ok data → hdr.kind ≠ .protocolError
  keyed : hdr.Keyed
  err_port : ∀ e, body = .error e → hdr.dst.portId ≠ 255

/-- Only the interface that changed can have been offered anything. -/
theorem forwarded_replace {r r' : Router (Tapped (Header × Payload) σ) N S C} {source : UInt8}
    {before after : List (Iface (Tapped (Header × Payload) σ))}
    {i i' : Iface (Tapped (Header × Payload) σ)} {out : Header}
    (hr : r.interfaces = before ++ i :: after) (hr' : r'.interfaces = before ++ i' :: after) :
    Forwarded r r' source out ↔ i.ident ≠ source ∧
      ∃ payload, (out, payload) ∈ i'.port.sink.log.drop i.port.sink.log.length := by
  rw [Forwarded, hr, hr']
  constructor
  · rintro ⟨j, j', hzip, hother, payload, hmem⟩
    rcases HeaplessVec.mem_zip_replace hzip with rfl | ⟨rfl, rfl⟩
    · simp at hmem
    · exact ⟨hother, payload, hmem⟩
  · rintro ⟨hother, payload, hmem⟩
    refine ⟨i, i', ?_, hother, payload, hmem⟩
    rw [List.zip_append rfl]
    simp

theorem not_forwarded {r r' : Router (Tapped (Header × Payload) σ) N S C} {source : UInt8}
    {out : Header} (h : r'.interfaces = r.interfaces) : ¬ Forwarded r r' source out := by
  rintro ⟨i, i', hzip, -, payload, hmem⟩
  rw [h] at hzip
  rw [HeaplessVec.mem_zip_self hzip] at hmem
  simp at hmem

/-- What a unicast send offers to the other interfaces, if the port does as `hlog` says. -/
theorem findThen_forwarded {r : Router (Tapped (Header × Payload) σ) N S C} {hdr : Header}
    {source : UInt8} {clock : Clock}
    {use : EdgePort (Tapped (Header × Payload) σ) →
      Except InterfaceSendError Unit × EdgePort (Tapped (Header × Payload) σ)}
    {cond : EdgePort (Tapped (Header × Payload) σ) → Prop} [DecidablePred cond]
    {out' : EdgePort (Tapped (Header × Payload) σ) → Header} {payload : Payload}
    (hkey : ¬ (hdr.dst.portId = 0 ∧ hdr.anyAll.isNone))
    (hlog : ∀ port, (use port).2.sink.log =
      port.sink.log ++ if cond port then [(out' port, payload)] else []) {out : Header} :
    Forwarded r (r.findThen hdr (some source) clock use).2 source out ↔
      ∃ i ∈ r.interfaces, r.Leaves hdr.dst (some source) clock i.ident i.port ∧
        cond i.port ∧ out = out' i.port := by
  rcases r.findThen_interfaces hdr (some source) clock use hkey with
    ⟨before, i, after, hleaves, hsplit, -, hafter, -⟩ | ⟨hno, -, hsame⟩
  · rw [forwarded_replace hsplit hafter, Iface.withPort_port, hlog, List.drop_left]
    constructor
    · rintro ⟨-, payload', hmem⟩
      split at hmem
      · rename_i hcond
        have hout : out = out' i.port := (Prod.mk.inj (List.mem_singleton.mp hmem)).1
        exact ⟨i, by simp [hsplit], hleaves, hcond, hout⟩
      · cases hmem
    · rintro ⟨j, -, hj, hcond, rfl⟩
      obtain ⟨-, hport⟩ := hleaves.unique hj
      refine ⟨fun h => hleaves.2.2 (by rw [h]), payload, ?_⟩
      rw [hport, if_pos hcond]
      exact List.mem_singleton_self _
  · refine iff_of_false (not_forwarded (by rw [hsame]; rfl)) ?_
    rintro ⟨i, -, hi, -⟩
    exact hno _ _ hi

section Sends

variable [InterfaceSink σ] {r : Router (Tapped (Header × Payload) σ) N S C} {hdr out : Header}
  {source : UInt8} {clock : Clock}

/-- Without hops left, nothing leaves. -/
theorem not_egress {body : Except ProtocolError (List UInt8)} (httl : hdr.ttl = 0) :
    ¬ ∃ i, r.Egress hdr body source clock i ∧ out = r.outHdr hdr source i := by
  rintro ⟨i, hi, -⟩
  exact hi.ttl httl

/-- What a raw flood offers to the other interfaces. -/
theorem sendRaw_forwarded_all (hkey : hdr.Keyed) (httl : hdr.ttl ≠ 0)
    (hall : hdr.dst.portId = 255) (data : List UInt8) :
    Forwarded r (r.sendRaw hdr data source clock).2 source out ↔
      ∃ i, r.Egress hdr (.ok data) source clock i ∧ out = r.outHdr hdr source i := by
  -- what one leg appends to the log of its interface
  have hleg : ∀ i ∈ r.interfaces, i.ident ≠ source →
      (rawIface { hdr with ttl := hdr.ttl - 1 }
        (r.lastLegHdr { hdr with ttl := hdr.ttl - 1 } source) data source i).port.sink.log =
        i.port.sink.log ++
          if i.port.fits data ∧ i.port.address.isSome ∧ i.port.address ≠
              some ((r.legDst hdr source i).networkId, (r.legDst hdr source i).nodeId) then
            [(r.outHdr hdr source i, .raw data)]
          else [] := by
    rintro (s | up) - hother
    · have hkey' : (legHdr { hdr with ttl := hdr.ttl - 1 } s.netId).Keyed :=
        fun _ => hkey (.inr hall)
      have hother' : source ≠ s.ident := fun h => hother h.symm
      simp only [rawIface, rawLegSlot, if_neg hother', Iface.port,
        EdgePort.sendRaw_log _ _ hkey', legDst, hall, if_true, outHdr]
      rfl
    · have hother' : source ≠ upstreamIdent := fun h => hother h.symm
      have hkey' : (r.lastLegHdr { hdr with ttl := hdr.ttl - 1 } source).Keyed := by
        rcases r.lastLegHdr_cases { hdr with ttl := hdr.ttl - 1 } source with h | ⟨n, h⟩ <;>
          rw [h] <;> exact fun _ => hkey (.inr hall)
      have hlast : r.lastLegHdr { hdr with ttl := hdr.ttl - 1 } source =
          { hdr with ttl := hdr.ttl - 1, dst := (r.lastLegHdr hdr source).dst } := by
        unfold lastLegHdr
        split <;> rfl
      simp only [rawIface, if_neg hother', Iface.port, EdgePort.sendRaw_log _ _ hkey', legDst,
        hall, if_true, outHdr, lastLegHdr_ttl]
      rw [hlast]
  rw [Forwarded, r.sendRaw_interfaces source clock hall (hkey (.inr hall)) httl]
  constructor
  · rintro ⟨i, i', hzip, hother, payload, hmem⟩
    obtain ⟨hi, rfl⟩ := HeaplessVec.mem_zip_map.mp hzip
    rw [hleg i hi hother, List.drop_left] at hmem
    split at hmem
    · rename_i hcond
      have hout : out = r.outHdr hdr source i := (Prod.mk.inj (List.mem_singleton.mp hmem)).1
      refine ⟨i, ⟨hi, httl, hother, fun h => absurd hall h, ?_, hcond.2.1, hcond.2.2⟩, hout⟩
      rintro _ ⟨⟩
      exact hcond.1
    · cases hmem
  · rintro ⟨i, hi, rfl⟩
    refine ⟨i, _, HeaplessVec.mem_zip_map.mpr ⟨hi.mem, rfl⟩, hi.other, .raw data, ?_⟩
    rw [hleg i hi.mem hi.other, List.drop_left, if_pos ⟨hi.fits _ rfl, hi.active, hi.foreign⟩]
    exact List.mem_singleton_self _

/-- What a raw send offers to the other interfaces. -/
theorem sendRaw_forwarded (hkey : hdr.Keyed) (data : List UInt8) :
    Forwarded r (r.sendRaw hdr data source clock).2 source out ↔
      ∃ i, r.Egress hdr (.ok data) source clock i ∧ out = r.outHdr hdr source i := by
  by_cases httl : hdr.ttl = 0
  · refine iff_of_false (not_forwarded ?_) (not_egress httl)
    simp [sendRaw, Header.decrementTtl, httl]
  by_cases hall : hdr.dst.portId = 255
  · exact sendRaw_forwarded_all hkey httl hall data
  have hkey' : ({ hdr with ttl := hdr.ttl - 1 } : Header).Keyed := hkey
  simp only [sendRaw, Header.decrementTtl_of_ne httl, if_neg hall]
  rw [findThen_forwarded hkey'.any fun port => port.sendRaw_log data hkey']
  constructor
  · rintro ⟨i, hi, hleaves, hcond, rfl⟩
    have hdst : r.legDst hdr source i = hdr.dst := if_neg hall
    refine ⟨i, ⟨hi, httl, fun h => hleaves.2.2 (by rw [h]), fun _ => hleaves, ?_, hcond.2.1, ?_⟩, ?_⟩
    · rintro _ ⟨⟩
      exact hcond.1
    · rw [hdst]
      exact hcond.2.2
    · rw [outHdr, hdst]
  · rintro ⟨i, hi, rfl⟩
    have hdst : r.legDst hdr source i = hdr.dst := if_neg hall
    refine ⟨i, hi.mem, hi.route hall, ⟨hi.fits _ rfl, hi.active, ?_⟩, ?_⟩
    · have hforeign := hi.foreign
      rwa [hdst] at hforeign
    · rw [outHdr, hdst]

/-- What an error send offers to the other interfaces. -/
theorem sendErr_forwarded (hkey : hdr.Keyed) (hall : hdr.dst.portId ≠ 255) (e : ProtocolError) :
    Forwarded r (r.sendErr hdr e (some source) clock).2 source out ↔
      ∃ i, r.Egress hdr (.error e) source clock i ∧ out = r.outHdr hdr source i := by
  by_cases httl : hdr.ttl = 0
  · refine iff_of_false (not_forwarded ?_) (not_egress httl)
    simp [sendErr, Header.decrementTtl, httl]
  have hkey' : ({ hdr with ttl := hdr.ttl - 1 } : Header).Keyed := hkey
  have hdst : ∀ i, r.legDst hdr source i = hdr.dst := fun i => if_neg hall
  simp only [sendErr, Header.decrementTtl_of_ne httl]
  rw [findThen_forwarded hkey'.any fun port => port.sendErr_log e hkey']
  constructor
  · rintro ⟨i, hi, hleaves, hcond, rfl⟩
    refine ⟨i, ⟨hi, httl, fun h => hleaves.2.2 (by rw [h]), fun _ => hleaves, ?_, hcond.1, ?_⟩, ?_⟩
    · rintro _ ⟨⟩
    · rw [hdst]
      exact hcond.2
    · rw [outHdr, hdst]
  · rintro ⟨i, hi, rfl⟩
    refine ⟨i, hi.mem, hi.route hall, ⟨hi.active, ?_⟩, ?_⟩
    · have hforeign := hi.foreign
      rwa [hdst] at hforeign
    · rw [outHdr, hdst]

end Sends

/-! ## What `process_frame` hands on -/

section Process

variable {κ : Type} [SocketVTable κ] [InterfaceSink σ]
  {st : NetStack (Tapped (Header × Payload) κ) (Router (Tapped (Header × Payload) σ) N S C)}
  {netId : UInt16} {ident : UInt8} {frame : BorrowedFrame} {clock : FrameClock} {hdr out : Header}

/-- The rewriting of `router::process_frame`. -/
theorem routerIngress_eq {P : Type} [Profile P UInt8] {p : P} {now : Nat} {hdr₀ : Header}
    (hin : routerIngress p netId hdr₀ now = some hdr) :
    ∃ src, routerSrc netId hdr₀.src = some src ∧
      hdr = { hdr₀ with src, dst := routerDst netId hdr₀.dst } := by
  unfold routerIngress at hin
  split at hin
  · cases hin
  · rename_i src hsrc
    split at hin
    · cases hin
    · cases hin
      exact ⟨src, hsrc, rfl⟩

omit [SocketVTable κ] in
theorem routerIngress_handedOn
    (hin : routerIngress st.profile netId frame.hdr clock.check = some hdr) :
    HandedOn hdr frame.body := by
  obtain ⟨hport, hkind, -, hsrc⟩ := routerIngress_spec hin
  obtain ⟨src, -, hhdr⟩ := routerIngress_eq hin
  have hkey : hdr.anyAll = frame.hdr.anyAll := by rw [hhdr]
  have herr : ∀ e, frame.body = .error e → frame.hdr.kind = .protocolError :=
    fun e he => frame.wf.err_kind.mpr ⟨e, he⟩
  constructor
  · simp [NetStack.localBypass, hsrc]
  · intro data hbody
    exact hkind ▸ frame.kind_ne hbody
  · intro h
    rw [hport] at h
    rw [hkey]
    refine frame.wf.appendix.mpr ⟨fun hk => ?_, h⟩
    have hports := frame.wf.err_port hk
    exact h.elim hports.1 hports.2
  · intro e he
    rw [hport]
    exact (frame.wf.err_port (herr e he)).2

/-- A frame that is handed on is offered to the interfaces it leaves by. -/
theorem handOn_forwarded_iff {body : Except ProtocolError (List UInt8)} {clock : Clock}
    (h : HandedOn hdr body) :
    Forwarded st.profile (st.handOn hdr body ident clock).stack.profile ident out ↔
      ∃ i, st.profile.Egress hdr body ident clock i ∧ out = st.profile.outHdr hdr ident i := by
  cases body with
  | ok data =>
    rw [← sendRaw_forwarded h.keyed data]
    have hprofile : (st.sendRaw hdr data ident clock).2.profile =
        (st.profile.sendRaw hdr data ident clock).2 := by
      simp only [NetStack.sendRaw, NetStack.sendWith, if_neg (h.kind data rfl)]
      split
      · rename_i hall
        obtain ⟨apdx, hapdx⟩ := Option.isSome_iff_exists.mp (h.keyed (.inr hall))
        simp only [NetStack.broadcast, hapdx]
        rfl
      · exact NetStack.unicast_profile h.remote
    rw [← hprofile]
    rfl
  | error e =>
    rw [← sendErr_forwarded h.keyed (h.err_port e rfl) e]
    have hprofile : (st.sendErr hdr e (some ident) clock).2.profile =
        (st.profile.sendErr hdr e (some ident) clock).2 := by
      simp only [NetStack.sendErr, if_neg (h.err_port e rfl)]
      exact NetStack.unicastErr_profile h.remote
    rw [← hprofile]
    rfl

/-- What the source of a frame from `ident` should be: not an address of this node, and
an address that is routed back there. -/
def Faithful (r : Router σ N S C) (ident : UInt8) (clock : Clock) (src : Address) : Prop :=
  ¬ r.Own src ∧ ∃ port, r.Leaves src none clock ident port

/-- What should come of a frame: a link-local source is made faithful before anybody sees
it, and a link-local destination keeps the frame from leaving. -/
structure Authentic (hdr₀ : Header) (ident : UInt8) (clock : Clock)
    (st st' : NetStack (Tapped (Header × Payload) κ) (Router (Tapped (Header × Payload) σ) N S C)) :
    Prop where
  source : hdr₀.src.networkId = 0 → ∀ out,
    Forwarded st.profile st'.profile ident out ∨ Handed st st' out →
      st.profile.Faithful ident clock out.src
  linkLocal : hdr₀.dst.networkId = 0 → ∀ out, ¬ Forwarded st.profile st'.profile ident out

/-- No network that another interface is `Active` under leads to an interface, and neither
does network 0. -/
def Apart (r : Router σ N S C) (ident : UInt8) (clock : Clock) : Prop :=
  ∀ net, (net = 0 ∨ ∃ i ∈ r.interfaces, i.ident ≠ ident ∧ i.port.netId = some net) →
    ∀ port, r.route net clock ≠ some (ident, some port)

omit [InterfaceSink σ] in
theorem Faithful.route {r : Router σ N S C} {clock : Clock} {src : Address}
    (h : r.Faithful ident clock src) :
    ∃ port, r.route src.networkId clock = some (ident, some port) :=
  let ⟨_, port, hleaves⟩ := h
  ⟨port, hleaves.2.1⟩

omit [InterfaceSink σ] in
/-- The source that an interface is offered: a network id that is still 0 there becomes
the interface's own. -/
theorem outHdr_src (r : Router σ N S C) {hdr : Header} (ident : UInt8) {i : Iface σ}
    (hactive : i.port.address.isSome) (hnode : hdr.src.nodeId ≠ 0) :
    ∃ net, i.port.netId = some net ∧ (r.outHdr hdr ident i).src =
      { hdr.src with networkId := if hdr.src.networkId = 0 then net else hdr.src.networkId } := by
  cases hnet : i.port.netId with
  | none => simp [EdgePort.address, hnet] at hactive
  | some net =>
    refine ⟨net, rfl, ?_⟩
    simp only [outHdr, EdgePort.outHdr, hnet, EdgePort.stampSrc, hnode, if_false]
    split <;> rfl

/-- What becomes of a link-local source. -/
theorem routerSrc_linkLocal {src src' : Address} (h : routerSrc netId src = some src')
    (hnet : src.networkId = 0) : src' = { src with networkId := netId } ∧ src'.nodeId ≠ 0 := by
  unfold routerSrc at h
  rw [if_pos hnet] at h
  split at h
  · cases h
  · rename_i hnode
    cases h
    exact ⟨rfl, fun h => hnode (.inl h)⟩

/-- What anybody sees of the source of a frame that is handed on: a network id that is
still 0 becomes that of the interface the frame leaves by, or stays. -/
theorem handOn_source {body : Except ProtocolError (List UInt8)} {clock : Clock}
    (h : HandedOn hdr body) (hnode : hdr.src.nodeId ≠ 0)
    (hseen : Forwarded st.profile (st.handOn hdr body ident clock).stack.profile ident out ∨
      Handed st (st.handOn hdr body ident clock).stack out) :
    ∃ net, (net = 0 ∨ ∃ i ∈ st.profile.interfaces, i.ident ≠ ident ∧ i.port.netId = some net) ∧
      out.src =
        { hdr.src with networkId := if hdr.src.networkId = 0 then net else hdr.src.networkId } := by
  rcases hseen with hforwarded | hhanded
  · obtain ⟨i, hi, rfl⟩ := (handOn_forwarded_iff h).mp hforwarded
    obtain ⟨net, hnet, hsrc⟩ := outHdr_src st.profile ident hi.active hnode
    exact ⟨net, .inr ⟨i, hi.mem, hi.other, hnet⟩, hsrc⟩
  · refine ⟨0, .inl rfl, ?_⟩
    rw [handOn_handed hhanded]
    split
    · rename_i hzero
      rw [← hzero]
    · rfl

/-- A link-local source becomes faithful if the processor has a net id, and the router
routes it back; and only then, unless network ids and ports are mixed up. -/
theorem authentic_iff (st : NetStack (Tapped (Header × Payload) κ)
      (Router (Tapped (Header × Payload) σ) N S C))
    (netId : UInt16) (ident : UInt8) (frame : BorrowedFrame) (clock : FrameClock)
    (receipt : Receipt (Tapped (Header × Payload) κ) (Router (Tapped (Header × Payload) σ) N S C))
    (hreceive : routerReceive netId frame st ident clock = some receipt)
    (hleads : ∃ out, Forwarded st.profile receipt.stack.profile ident out ∨
      Handed st receipt.stack out) :
    ((frame.hdr.src.networkId = 0 → netId ≠ 0 ∧
          st.profile.Faithful ident clock.send { frame.hdr.src with networkId := netId }) ∧
        (frame.hdr.dst.networkId = 0 →
          ∀ i, ¬ st.profile.Egress receipt.hdr frame.body ident clock.send i) →
      Authentic frame.hdr ident clock.send st receipt.stack) ∧
    (st.profile.Apart ident clock.send → Authentic frame.hdr ident clock.send st receipt.stack →
      (frame.hdr.src.networkId = 0 → netId ≠ 0 ∧
          st.profile.Faithful ident clock.send { frame.hdr.src with networkId := netId }) ∧
        (frame.hdr.dst.networkId = 0 →
          ∀ i, ¬ st.profile.Egress receipt.hdr frame.body ident clock.send i)) := by
  obtain ⟨hdr, hin, rfl⟩ := Option.map_eq_some_iff.mp hreceive
  have hon := routerIngress_handedOn hin
  obtain ⟨src, hsrc, hhdr⟩ := routerIngress_eq hin
  have hsrc' : hdr.src = src := by rw [hhdr]
  constructor
  · rintro ⟨hsource, hdst⟩
    constructor
    · -- with a net id in the source, no interface changes it
      intro hzero out hseen
      obtain ⟨hne, hfaithful⟩ := hsource hzero
      obtain ⟨rfl, hnode⟩ := routerSrc_linkLocal hsrc hzero
      obtain ⟨net, -, hout⟩ := handOn_source hon (by rw [hsrc']; exact hnode) hseen
      rw [hout, hsrc', if_neg hne]
      exact hfaithful
    · intro hzero out hforwarded
      obtain ⟨i, hi, -⟩ := (handOn_forwarded_iff hon).mp hforwarded
      exact hdst hzero i hi
  · rintro hapart ⟨hsource, hdst⟩
    constructor
    · intro hzero
      obtain ⟨out, hseen⟩ := hleads
      have hfaithful := hsource hzero out hseen
      obtain ⟨rfl, hnode⟩ := routerSrc_linkLocal hsrc hzero
      obtain ⟨net, hnet, hout⟩ := handOn_source hon (by rw [hsrc']; exact hnode) hseen
      rw [hout, hsrc'] at hfaithful
      by_cases hpending : netId = 0
      · -- the frame shows the network of another interface, or none
        rw [if_pos hpending] at hfaithful
        obtain ⟨port, hroute⟩ := hfaithful.route
        exact absurd hroute (hapart net hnet port)
      · rw [if_neg hpending] at hfaithful
        exact ⟨hpending, hfaithful⟩
    · intro hzero i hi
      exact hdst hzero _ ((handOn_forwarded_iff hon).mpr ⟨i, hi, rfl⟩)

end Process

/-! ## A frame from a pending slot -/

/-- The node of a bridge with segment 5 on interface 0, a pending interface 1, and the
upstream address 3.2. -/
def demoBridgeNode :
    NetStack (Tapped (Header × Payload) OwnedSocket)
      (Router (Tapped (Header × Payload) FrameQueue) 2 1 1) :=
  ⟨[], demoBridge 3⟩

/-- A request that an edge device sends to 3.1 with a link-local source. -/
def demoUp : BorrowedFrame where
  hdr := ⟨⟨0, 2, 20⟩, ⟨3, 1, 9⟩, none, .endpointReq, .normal, 15⟩
  body := .ok [7]
  wf := ⟨by simp [FrameKind.endpointReq, FrameKind.protocolError],
    by simp [FrameKind.endpointReq, FrameKind.protocolError], by simp,
    show (15 : UInt8) ≤ maxTtl by decide, rfl⟩

/-- What the bridge makes of it as a frame from `ident`. -/
def demoUpReceipt (netId : UInt16) (ident : UInt8) :
    Receipt (Tapped (Header × Payload) OwnedSocket)
      (Router (Tapped (Header × Payload) FrameQueue) 2 1 1) :=
  demoBridgeNode.handOn { demoUp.hdr with src := ⟨netId, 2, 20⟩ } demoUp.body ident (.at 0)

/-- From the pending interface, where the processor has no net id, the frame goes up as
one from the bridge itself. -/
theorem pending_speaks_as_bridge :
    routerReceive 0 demoUp demoBridgeNode 1 ⟨0, .at 0, .at 0⟩ = some (demoUpReceipt 0 1) ∧
      (∃ out, Forwarded demoBridgeNode.profile (demoUpReceipt 0 1).stack.profile 1 out ∧
        out.src = ⟨3, 2, 20⟩) ∧
      demoBridgeNode.profile.upstream.bind EdgePort.address = some (3, 2) ∧
      ¬ Authentic demoUp.hdr 1 (.at 0) demoBridgeNode (demoUpReceipt 0 1).stack := by
  have hforwarded : Forwarded demoBridgeNode.profile (demoUpReceipt 0 1).stack.profile 1
      ⟨⟨3, 2, 20⟩, ⟨3, 1, 9⟩, none, .endpointReq, .normal, 14⟩ :=
    ⟨_, _, List.mem_cons_of_mem _ (List.mem_cons_of_mem _ List.mem_cons_self), by decide,
      .raw [7], by decide⟩
  refine ⟨rfl, ⟨_, hforwarded, rfl⟩, by decide, fun h => ?_⟩
  exact (h.source rfl _ (.inl hforwarded)).1 (.inr (.inr (by decide)))

/-- From segment 5 it goes up as one from 5.2. -/
theorem authentic_iff_demo :
    Authentic demoUp.hdr 0 (.at 0) demoBridgeNode (demoUpReceipt 5 0).stack := by
  refine (authentic_iff demoBridgeNode 5 0 demoUp ⟨0, .at 0, .at 0⟩ (demoUpReceipt 5 0) rfl
    ⟨⟨⟨5, 2, 20⟩, ⟨3, 1, 9⟩, none, .endpointReq, .normal, 14⟩, .inl ⟨_, _,
      List.mem_cons_of_mem _ (List.mem_cons_of_mem _ List.mem_cons_self), by decide,
      .raw [7], by decide⟩⟩).1 ⟨fun _ => ⟨by decide, ?_, ?_⟩, fun h => absurd h (by decide)⟩
  · unfold Own
    decide
  · exact ⟨_, by decide, rfl, nofun⟩

end Router

end Ergot
