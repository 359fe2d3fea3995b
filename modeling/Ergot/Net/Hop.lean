import Ergot.Net.Ready

/-!
# What a node does with a unicast frame

A node that is set up for a topology takes a frame from one of its links and hands it to
`send_raw`, with its header as it came; then the frame is put on the next link of its path
(`ProfileReady.sendRaw_down`, `sendRaw_up`), or handed to the socket it is for
(`sendRaw_here`). In each case the node is still set up.

`NodeReady.receive` is the part that all three share: the processor lets the frame pass and
does nothing after the send.
-/

namespace Ergot

variable {ι κ : Type} {T : Topology ι} {horizon size : Nat} {q q' : InFlight ι} {v u p A B : ι}
  {hdr : Header}

/-! ## Addresses -/

namespace Topology.Assigned

variable {a : Address}

theorem networkId_ne (h : T.Assigned v a) : a.networkId ≠ 0 := by
  cases h with
  | uplink hp hnet _ =>
    rw [hnet]
    exact T.net_ne hp
  | slot hu hnet _ =>
    rw [hnet]
    exact T.net_ne hu

theorem nodeId (h : T.Assigned v a) : a.nodeId = centralNodeId ∨ a.nodeId = edgeNodeId := by
  cases h with
  | uplink _ _ hnode => exact .inr hnode
  | slot _ _ hnode => exact .inl hnode

/-- An address belongs to one node. -/
theorem unique (h : T.Assigned A a) (h' : T.Assigned B a) : A = B := by
  cases h with
  | uplink hA hnet hnode =>
    cases h' with
    | uplink hB hnet' _ => exact T.net_inj hA hB (hnet.symm.trans hnet')
    | slot _ _ hnode' =>
      rw [hnode] at hnode'
      exact absurd hnode' (by decide)
  | slot hA hnet hnode =>
    cases h' with
    | uplink _ _ hnode' =>
      rw [hnode] at hnode'
      exact absurd hnode' (by decide)
    | slot hB hnet' _ =>
      cases T.net_inj hA hB (hnet.symm.trans hnet')
      rw [hA] at hB
      exact Option.some.inj hB

end Topology.Assigned

/-- A frame from `A` to `B` on a link after which the path has `k` more. -/
structure Flying (T : Topology ι) (A B : ι) (k : Nat) (hdr : Header) : Prop where
  unicast : hdr.Unicast
  src : T.Assigned A hdr.src
  dst : T.Assigned B hdr.dst
  ttl : k < hdr.ttl.toNat
  ttl_le : hdr.ttl.toNat ≤ maxTtl.toNat

/-- A header as it leaves for the next link. -/
def Header.hop (hdr : Header) : Header := { hdr with ttl := hdr.ttl - 1 }

theorem Header.Unicast.hop (h : hdr.Unicast) : hdr.hop.Unicast := { h with }

/-- A well-formed frame is decoded as it was. -/
theorem wire_of_wf {payload : Payload} (hwf : FrameWf hdr payload.body) :
    Ergot.wire (hdr, payload) = some ⟨hdr, payload.body, hwf⟩ := by
  have httl : ¬ hdr.ttl > maxTtl := UInt8.not_lt.mpr hwf.ttl
  simp only [wire, if_neg httl, dif_pos hwf]

namespace Flying

theorem ttl_ne {k : Nat} (h : Flying T A B k hdr) : hdr.ttl ≠ 0 := by
  intro hz
  have := h.ttl
  rw [hz] at this
  exact absurd this (Nat.not_lt_zero k)

theorem hop {k : Nat} (h : Flying T A B (k + 1) hdr) : Flying T A B k hdr.hop := by
  have httl := h.ttl
  have hle := h.ttl_le
  have hsub : (hdr.ttl - 1).toNat = hdr.ttl.toNat - 1 := by
    have hone : (1 : UInt8) ≤ hdr.ttl := by
      rw [UInt8.le_iff_toNat_le]
      show 1 ≤ hdr.ttl.toNat
      omega
    rw [UInt8.toNat_sub_of_le _ _ hone]
    rfl
  refine { unicast := h.unicast.hop, src := h.src, dst := h.dst, ttl := ?_, ttl_le := ?_ }
  · show k < (hdr.ttl - 1).toNat
    omega
  · show (hdr.ttl - 1).toNat ≤ _
    omega

/-- A frame of `A` on its first link, with 14 more at most: its source is not set yet, or is
an address of `A`. -/
theorem start {k : Nat} {netId : UInt16} {own : UInt8} (hdr_ok : hdr.Unicast)
    (hsrc : hdr.src.networkId = 0 ∧ hdr.src.nodeId = 0 ∨ T.Assigned A hdr.src)
    (hown : T.Assigned A ⟨netId, own, hdr.src.portId⟩) (hdst : T.Assigned B hdr.dst)
    (httl : hdr.ttl = defaultTtl) (hk : k + 1 ≤ 14) :
    Flying T A B k (hdr.hop.leave netId own) where
  unicast := { hdr_ok with }
  src := by
    rcases hsrc with ⟨hnet, hnode⟩ | hsrc
    · simp only [Header.leave, Header.hop, hnet, hnode, if_true]
      exact hown
    · have hne := hsrc.networkId_ne
      simp only [Header.leave, Header.hop, hne, if_false]
      exact hsrc
  dst := hdst
  ttl := by
    show k < (hdr.ttl - 1).toNat
    rw [httl]
    exact Nat.lt_of_lt_of_le hk (by decide)
  ttl_le := by
    show (hdr.ttl - 1).toNat ≤ _
    rw [httl]
    decide

/-- The source is not rewritten again. -/
theorem leave {k : Nat} (h : Flying T A B k hdr) (netId : UInt16) (own : UInt8) :
    hdr.hop.leave netId own = hdr.hop := by
  have hne : hdr.hop.src.networkId ≠ 0 := h.src.networkId_ne
  simp only [Header.leave, if_neg hne]

/-- The frame is what the other end of the link decodes. -/
theorem wire {k : Nat} (h : Flying T A B k hdr) {payload : Payload} {data : List UInt8}
    (hbody : payload.body = .ok data) :
    ∃ frame : BorrowedFrame, Ergot.wire (hdr, payload) = some frame ∧ frame.hdr = hdr ∧
      frame.body = .ok data := by
  have hwf : FrameWf hdr payload.body := by
    rw [hbody]
    exact
      { err_kind := ⟨fun hk => absurd hk h.unicast.kind, by simp⟩
        err_port := fun hk => absurd hk h.unicast.kind
        appendix := by simp [h.unicast.anyAll, h.unicast.any, h.unicast.all]
        ttl := UInt8.le_iff_toNat_le.mpr h.ttl_le
        kind := h.unicast.valid }
  exact ⟨_, wire_of_wf hwf, rfl, hbody⟩

end Flying

/-! ## Ports -/

/-- An operation that puts a frame on any port that is not its destination. -/
def Puts (size : Nat) (hdr : Header) (payload : Payload)
    (use : EdgePort FrameQueue → Except InterfaceSendError Unit × EdgePort FrameQueue) : Prop :=
  ∀ netId own port, PortReady netId own size [] port →
    ¬ (hdr.dst.networkId = netId ∧ hdr.dst.nodeId = own) →
    PortReady netId own size [(hdr.leave netId own, payload)] (use port).2 ∧
      (use port).1 = .ok ()

theorem Puts.send (hdr_ok : hdr.Unicast) {msg : Msg} (hsize : msg.bytes.length ≤ size) :
    Puts size hdr (.ty msg) fun port => port.send hdr msg :=
  fun _ _ _ hport hlocal => hport.send hdr_ok hlocal hsize

theorem Puts.sendRaw (hdr_ok : hdr.Unicast) {data : List UInt8} (hsize : data.length ≤ size) :
    Puts size hdr (.raw data) fun port => port.sendRaw hdr data :=
  fun _ _ _ hport hlocal => hport.sendRaw hdr_ok hlocal hsize

namespace RouterReady

variable [DecidableEq ι] {N S C : Nat} {r : Router FrameQueue N S C} {source : Option UInt8}
  {clock : Clock} {payload : Payload}
  {use : EdgePort FrameQueue → Except InterfaceSendError Unit × EdgePort FrameQueue}

theorem put_down (h : RouterReady T horizon size q v r) (hu : T.parent u = some v)
    (hB : T.Below u B) (hdst : T.Assigned B hdr.dst) (hport : hdr.dst.portId ≠ 0)
    (hq : q (.down u) = []) (hsource : source ≠ some (T.slot u)) (hlater : clock.later < horizon)
    (hputs : Puts size hdr payload use) :
    (r.findThen hdr source clock use).1 = .ok () ∧
      RouterReady T horizon size
        (Function.update q (.down u) [(hdr.leave (T.net u) centralNodeId, payload)]) v
        (r.findThen hdr source clock use).2 := by
  have hlocal : ¬ (hdr.dst.networkId = T.net u ∧ hdr.dst.nodeId = centralNodeId) := by
    rintro ⟨hnet, hnode⟩
    cases hdst.unique (.slot hu hnet hnode)
    exact Forest.not_below_parent hu hB
  obtain ⟨port, hready, hres, hnext⟩ := h.findThen_down use hu hB hdst hport hsource hlater
  rw [hq] at hready
  obtain ⟨hsent, hok⟩ := hputs _ _ _ hready hlocal
  exact ⟨hres.trans hok, hnext _ hsent⟩

theorem put_up (h : RouterReady T horizon size q v r) (hp : T.parent v = some p)
    (hB : ¬ T.Below v B) (hdst : T.Assigned B hdr.dst) (hport : hdr.dst.portId ≠ 0)
    (hq : q (.up v) = []) (hsource : source ≠ some upstreamIdent)
    (hlater : clock.later < horizon) (hputs : Puts size hdr payload use) :
    (r.findThen hdr source clock use).1 = .ok () ∧
      RouterReady T horizon size
        (Function.update q (.up v) [(hdr.leave (T.net v) edgeNodeId, payload)]) v
        (r.findThen hdr source clock use).2 := by
  have hlocal : ¬ (hdr.dst.networkId = T.net v ∧ hdr.dst.nodeId = edgeNodeId) := by
    rintro ⟨hnet, hnode⟩
    cases hdst.unique (.uplink hp hnet hnode)
    exact hB (Forest.Below.refl v)
  obtain ⟨port, hready, hres, hnext⟩ := h.findThen_up use hp hB hdst hport hsource hlater
  rw [hq] at hready
  obtain ⟨hsent, hok⟩ := hputs _ _ _ hready hlocal
  exact ⟨hres.trans hok, hnext _ hsent⟩

end RouterReady

/-! ## Profiles -/

/-- A profile of the node `v`: a router that satisfies `R`, or an edge device with no
children. -/
inductive ProfileSetUp (T : Topology ι) (size : Nat) (q : InFlight ι) (v : ι)
    (R : {N S C : Nat} → Router FrameQueue N S C → Prop) : NodeProfile → Prop
  | router {N S C : Nat} {r : Router FrameQueue N S C} (h : R r) :
      ProfileSetUp T size q v R (.router r)
  | edge {e : DirectEdge FrameQueue} {p : ι} (hp : T.parent v = some p)
      (hleaf : ∀ u, T.parent u ≠ some v)
      (h : PortReady (T.net v) edgeNodeId size (q (.up v)) e.port) :
      ProfileSetUp T size q v R (.edge e)

abbrev ProfileReady (T : Topology ι) (horizon size : Nat) (q : InFlight ι) (v : ι) :
    NodeProfile → Prop :=
  ProfileSetUp T size q v (RouterReady T horizon size q v)

/-- Where a frame for `B` can come from: from a child that does not have `B` below it, or
from the parent if this node has. -/
inductive Came (T : Topology ι) (B v : ι) : UInt8 → Prop
  | slot {u : ι} (hu : T.parent u = some v) (hB : ¬ T.Below u B) : Came T B v (T.slot u)
  | upstream {p : ι} (hp : T.parent v = some p) (hB : T.Below v B) : Came T B v upstreamIdent

namespace ProfileReady

variable {prof : NodeProfile}

theorem congr (h : ProfileReady T horizon size q v prof)
    (hup : q' (.up v) = q (.up v)) (hdown : ∀ u, T.parent u = some v → q' (.down u) = q (.down u)) :
    ProfileReady T horizon size q' v prof := by
  cases h with
  | router h => exact .router (h.congr hup hdown)
  | edge hp hleaf h => exact .edge hp hleaf (hup ▸ h)

/-- The interfaces are `Active` on their links. -/
theorem interfaceState_slot (h : ProfileReady T horizon size q v prof) (hu : T.parent u = some v) :
    Profile.interfaceState prof (T.slot u) = some (.active (T.net u) centralNodeId) := by
  cases h with
  | router h =>
    obtain ⟨s, hs, -, hready⟩ := h.slot u hu
    show Router.interfaceState _ _ = _
    rw [Router.interfaceState, if_neg (T.slot_ne u), hs, Option.map_some, hready.state]
  | edge _ hleaf _ => exact absurd hu (hleaf u)

theorem interfaceState_up (h : ProfileReady T horizon size q v prof) (hp : T.parent v = some p) :
    Profile.interfaceState prof upstreamIdent = some (.active (T.net v) edgeNodeId) := by
  cases h with
  | router h =>
    obtain ⟨port, hup, hready⟩ := h.upstream p hp
    show Router.interfaceState _ _ = _
    rw [Router.interfaceState, if_pos rfl, hup, Option.map_some, hready.state]
  | edge _ _ h => exact congrArg some h.state

/-- Both nodes of a link are always claimed. -/
theorem isNodeClaimed (prof : NodeProfile) (netId : UInt16) {nodeId : UInt8} (now : Nat)
    (h : nodeId = centralNodeId ∨ nodeId = edgeNodeId) :
    Profile.isNodeClaimed prof netId nodeId now = true := by
  cases prof with
  | router r => exact if_pos h
  | edge e => exact decide_eq_true h

/-- The look-up of a transit network only ages the table. -/
theorem isTransitNet (h : ProfileReady T horizon size q v prof) (net : UInt16) {now : Nat}
    (hnow : now < horizon) :
    ProfileReady T horizon size q v (Profile.isTransitNet prof net now).2 := by
  cases h with
  | router h => exact .router (h.isTransitNet net hnow)
  | edge hp hleaf h => exact .edge hp hleaf h

/-- The networks in the subtree are known. -/
theorem isTransitNet_of_below {w : ι} (h : ProfileReady T horizon size q v prof)
    (hp : T.Below v p) (hw : T.parent w = some p) {now : Nat} (hnow : now < horizon) :
    (Profile.isTransitNet prof (T.net w) now).1 = true := by
  cases h with
  | @edge e _ _ hleaf _ =>
    by_cases heq : p = v
    · subst heq
      exact absurd hw (hleaf w)
    · obtain ⟨u, hu, -⟩ := hp.child heq
      exact absurd hu (hleaf u)
  | @router _ _ _ r h =>
    show (r.isTransitNet (T.net w) now).1 = true
    rw [Router.isTransitNet, if_neg (T.net_ne hw)]
    by_cases heq : p = v
    · -- a direct link
      subst heq
      obtain ⟨s, hs, hnet, -⟩ := h.slot w hw
      rw [if_pos]
      exact List.any_eq_true.mpr ⟨s, List.mem_of_find?_eq_some hs, decide_eq_true hnet⟩
    · obtain ⟨u, hu, hup⟩ := hp.child heq
      obtain ⟨scope, e, l, he, -, hl, hle⟩ := h.seed u p w hu hup hw
      have hknown := LeaseTable.containsKeyAt_of_isActive h.keys he
        (by rw [hl]; exact decide_eq_true (Nat.lt_of_lt_of_le hnow hle))
      split
      · rfl
      · exact hknown

variable [DecidableEq ι]

section Send

variable {data : List UInt8} {source : UInt8} {clock : Clock} {k : Nat}

/-! ### Frames on their way -/

/-- The addressee is in the subtree of the child `u`. -/
theorem sendRaw_down (h : ProfileReady T horizon size q v prof) (hu : T.parent u = some v)
    (hB : T.Below u B) (hq : q (.down u) = []) (hcame : Came T B v source)
    (hfly : Flying T A B (k + 1) hdr) (hsize : data.length ≤ size)
    (hlater : clock.later < horizon) :
    ∃ prof', Profile.sendRaw prof hdr data source clock = (.ok (), prof') ∧
      ProfileReady T horizon size (Function.update q (.down u) [(hdr.hop, .raw data)]) v prof' := by
  cases h with
  | edge _ hleaf _ => exact absurd hu (hleaf u)
  | @router _ _ _ r h =>
    have hsource : some source ≠ some (T.slot u) := by
      intro heq
      cases hcame with
      | slot hu' hB' =>
        cases T.slot_inj hu' hu (Option.some.inj heq)
        exact hB' hB
      | upstream _ _ => exact T.slot_ne u (Option.some.inj heq).symm
    have hputs := Puts.sendRaw hfly.hop.unicast hsize
    obtain ⟨hok, hnext⟩ := h.put_down hu hB hfly.hop.dst hfly.hop.unicast.any hq hsource hlater hputs
    rw [hfly.leave] at hnext
    refine ⟨_, ?_, .router hnext⟩
    rw [← hok]
    show (_, NodeProfile.router (r.sendRaw hdr data source clock).2) = _
    rw [Router.sendRaw, Header.decrementTtl_of_ne hfly.ttl_ne]
    simp only [if_neg hfly.unicast.all]
    rfl

/-- The addressee is not in the subtree: the frame came from a child, so that the node is
a router. -/
theorem sendRaw_up (h : ProfileReady T horizon size q v prof) (hp : T.parent v = some p)
    (hB : ¬ T.Below v B) (hq : q (.up v) = []) (hcame : Came T B v source)
    (hfly : Flying T A B (k + 1) hdr) (hsize : data.length ≤ size)
    (hlater : clock.later < horizon) :
    ∃ prof', Profile.sendRaw prof hdr data source clock = (.ok (), prof') ∧
      ProfileReady T horizon size (Function.update q (.up v) [(hdr.hop, .raw data)]) v prof' := by
  cases hcame with
  | upstream _ hB' => exact absurd hB' hB
  | @slot u hu _ =>
    cases h with
    | edge _ hleaf _ => exact absurd hu (hleaf u)
    | @router _ _ _ r h =>
      have hsource : some (T.slot u) ≠ some upstreamIdent := fun heq =>
        T.slot_ne u (Option.some.inj heq)
      have hputs := Puts.sendRaw hfly.hop.unicast hsize
      obtain ⟨hok, hnext⟩ :=
        h.put_up hp hB hfly.hop.dst hfly.hop.unicast.any hq hsource hlater hputs
      rw [hfly.leave] at hnext
      refine ⟨_, ?_, .router hnext⟩
      rw [← hok]
      show (_, NodeProfile.router (r.sendRaw hdr data (T.slot u) clock).2) = _
      rw [Router.sendRaw, Header.decrementTtl_of_ne hfly.ttl_ne]
      simp only [if_neg hfly.unicast.all]
      rfl

omit [DecidableEq ι] in
/-- The addressee is the node itself. -/
theorem sendRaw_here (h : ProfileReady T horizon size q v prof) (source : UInt8)
    (hfly : Flying T A v k hdr) (hsize : data.length ≤ size) (hlater : clock.later < horizon) :
    ∃ e prof', (e = .destinationLocal ∨ e = .routingLoop) ∧
      Profile.sendRaw prof hdr data source clock = (.error e, prof') ∧
      ProfileReady T horizon size q v prof' := by
  cases h with
  | edge hp hleaf h => exact ⟨.routingLoop, _, .inr rfl, rfl, .edge hp hleaf h⟩
  | @router _ _ _ r h =>
    obtain ⟨e, he, hres, hnext⟩ := h.findThen_here (fun port => port.sendRaw hdr.hop data)
      (show T.Assigned v hdr.hop.dst from hfly.dst) hfly.unicast.any hlater
      fun port hport hlocal => hport.sendRaw_local hlocal hsize
    refine ⟨e, _, he, ?_, .router hnext⟩
    rw [← hres]
    show (_, NodeProfile.router (r.sendRaw hdr data source clock).2) = _
    rw [Router.sendRaw, Header.decrementTtl_of_ne hfly.ttl_ne]
    simp only [if_neg hfly.unicast.all]
    rfl

/-! ### Frames that start here -/

variable {msg : Msg}

theorem send_down (h : ProfileReady T horizon size q v prof) (hu : T.parent u = some v)
    (hB : T.Below u B) (hq : q (.down u) = []) (hdr_ok : hdr.Unicast)
    (hdst : T.Assigned B hdr.dst) (httl : hdr.ttl ≠ 0) (hsize : msg.bytes.length ≤ size)
    (hlater : clock.later < horizon) :
    ∃ prof', Profile.send prof hdr msg clock = (.ok (), prof') ∧
      ProfileReady T horizon size
        (Function.update q (.down u) [(hdr.hop.leave (T.net u) centralNodeId, .ty msg)]) v
        prof' := by
  cases h with
  | edge _ hleaf _ => exact absurd hu (hleaf u)
  | @router _ _ _ r h =>
    have hputs := Puts.send hdr_ok.hop hsize
    have hsource : (none : Option UInt8) ≠ some (T.slot u) := nofun
    obtain ⟨hok, hnext⟩ := h.put_down hu hB (show T.Assigned B hdr.hop.dst from hdst)
      hdr_ok.any hq hsource hlater hputs
    refine ⟨_, ?_, .router hnext⟩
    rw [← hok]
    show (_, NodeProfile.router (r.send hdr msg clock).2) = _
    rw [Router.send, Header.decrementTtl_of_ne httl]
    simp only [if_neg hdr_ok.all]
    rfl

theorem send_up (h : ProfileReady T horizon size q v prof) (hp : T.parent v = some p)
    (hB : ¬ T.Below v B) (hq : q (.up v) = []) (hdr_ok : hdr.Unicast)
    (hdst : T.Assigned B hdr.dst) (httl : hdr.ttl ≠ 0) (hsize : msg.bytes.length ≤ size)
    (hlater : clock.later < horizon) :
    ∃ prof', Profile.send prof hdr msg clock = (.ok (), prof') ∧
      ProfileReady T horizon size
        (Function.update q (.up v) [(hdr.hop.leave (T.net v) edgeNodeId, .ty msg)]) v prof' := by
  have hputs := Puts.send hdr_ok.hop hsize
  cases h with
  | @edge e _ hp hleaf h =>
    have hlocal : ¬ (hdr.hop.dst.networkId = T.net v ∧ hdr.hop.dst.nodeId = edgeNodeId) := by
      rintro ⟨hnet, hnode⟩
      cases hdst.unique (.uplink hp hnet hnode)
      exact hB (Forest.Below.refl v)
    rw [hq] at h
    obtain ⟨hsent, hok⟩ := hputs _ _ _ h hlocal
    refine ⟨.edge ⟨(e.port.send hdr.hop msg).2⟩, ?_, .edge hp hleaf ?_⟩
    · rw [← hok]
      show ((e.send hdr msg).1, NodeProfile.edge (e.send hdr msg).2) = _
      rw [DirectEdge.send, Header.decrementTtl_of_ne httl]
      rfl
    · rw [Function.update_self]
      exact hsent
  | @router _ _ _ r h =>
    have hsource : (none : Option UInt8) ≠ some upstreamIdent := nofun
    obtain ⟨hok, hnext⟩ := h.put_up hp hB (show T.Assigned B hdr.hop.dst from hdst)
      hdr_ok.any hq hsource hlater hputs
    refine ⟨_, ?_, .router hnext⟩
    rw [← hok]
    show (_, NodeProfile.router (r.send hdr msg clock).2) = _
    rw [Router.send, Header.decrementTtl_of_ne httl]
    simp only [if_neg hdr_ok.all]
    rfl

end Send

end ProfileReady

/-! ## Stacks -/

section Stack

variable [SocketVTable κ]

/-- The sockets after the one on the destination port was handed a message. -/
def handTo (sockets : List (Socket κ)) (hdr : Header) (data : List UInt8) : List (Socket κ) :=
  HeaplessVec.modifyFirstList (fun s => s.port = hdr.dst.portId)
    (fun s => (sendRawToSocket data hdr s).2) sockets

/-- There is a socket for the frame: the first with its port has its kind. -/
def Serves (sockets : List (Socket κ)) (port : UInt8) (kind : FrameKind) : Prop :=
  ∃ s, sockets.find? (fun s => s.port = port) = some s ∧ s.kind = kind

/-- What a raw send of a unicast frame may come to: no complaint of an interface, and a node
that is still set up. -/
structure Sent [DecidableEq ι] (T : Topology ι) (horizon size : Nat) (q : InFlight ι) (v : ι)
    (sockets : List (Socket κ)) (r : Except NetStackSendError Unit × NetStack κ NodeProfile) :
    Prop where
  result : ∀ e, r.1 ≠ .error (.interfaceSend e)
  profile : ProfileReady T horizon size q v r.2.profile
  sockets : r.2.sockets = sockets

variable {st : NetStack κ NodeProfile} {data : List UInt8} {source : UInt8} {clock : Clock}

theorem sendRaw_eq_unicast (hdr_ok : hdr.Unicast) :
    st.sendRaw hdr data source clock =
      st.unicast hdr (sendRawToSocket data hdr) fun p => Profile.sendRaw p hdr data source clock := by
  rw [NetStack.sendRaw, NetStack.sendWith, if_neg hdr_ok.kind, if_neg hdr_ok.all]

theorem localBypass_of_src (hsrc : hdr.src.networkId ≠ 0) : NetStack.localBypass hdr = false := by
  simp [NetStack.localBypass, Address.netNodeAny, hsrc]

/-- The profile takes a typed message. -/
theorem sendTy_of_ok {msg : Msg} {prof : NodeProfile} (hdr_ok : hdr.Unicast)
    (hdst : hdr.dst.networkId ≠ 0) (hres : Profile.send st.profile hdr msg clock = (.ok (), prof)) :
    st.sendTy hdr msg clock = (.ok (), ⟨st.sockets, prof⟩) := by
  have hbypass : NetStack.localBypass hdr = false := by
    simp [NetStack.localBypass, Address.netNodeAny, hdst]
  rw [NetStack.sendTy, NetStack.sendWith, if_neg hdr_ok.kind, if_neg hdr_ok.all,
    NetStack.unicast_of_ok hbypass hres]

variable [DecidableEq ι]

/-- The profile takes the frame. -/
theorem Sent.of_ok (st : NetStack κ NodeProfile) {prof : NodeProfile} {k : Nat}
    (hfly : Flying T A B k hdr)
    (hres : Profile.sendRaw st.profile hdr data source clock = (.ok (), prof))
    (hprof : ProfileReady T horizon size q v prof) :
    Sent T horizon size q v st.sockets (st.sendRaw hdr data source clock) := by
  rw [sendRaw_eq_unicast hfly.unicast,
    NetStack.unicast_of_ok (localBypass_of_src hfly.src.networkId_ne) hres]
  exact ⟨nofun, hprof, rfl⟩

/-- The frame is for a socket of the node. -/
theorem Sent.of_local (st : NetStack κ NodeProfile) {prof : NodeProfile} {k : Nat}
    (hfly : Flying T A B k hdr)
    {e : InterfaceSendError} (he : e = .destinationLocal ∨ e = .routingLoop)
    (hres : Profile.sendRaw st.profile hdr data source clock = (.error e, prof))
    (hprof : ProfileReady T horizon size q v prof)
    (hserves : Serves st.sockets hdr.dst.portId hdr.kind) :
    Sent T horizon size q v (handTo st.sockets hdr data) (st.sendRaw hdr data source clock) := by
  obtain ⟨s, hs, hkind⟩ := hserves
  rw [sendRaw_eq_unicast hfly.unicast,
    NetStack.unicast_of_local (localBypass_of_src hfly.src.networkId_ne) hfly.unicast.any he hres]
  have hdeliver := NetStack.deliver_findOneLocal { st with profile := prof } hs hkind
    (sendRawToSocket data hdr)
  rw [hdeliver]
  refine ⟨?_, hprof, ?_⟩
  · intro e
    simp only [sendRawToSocket, Socket.report]
    split <;> exact nofun
  · exact HeaplessVec.modifyFirstList_const (fun s => (sendRawToSocket data hdr s).2) hs

end Stack

/-! ## Nodes -/

/-- A node that is `v`, with the processors of its interfaces. -/
structure NodeSetUp (T : Topology ι) (size : Nat) (q : InFlight ι) (v : ι)
    (R : {N S C : Nat} → Router FrameQueue N S C → Prop) (node : Node κ) : Prop where
  profile : ProfileSetUp T size q v R node.stack.profile
  slots : ∀ u, T.parent u = some v →
    ∃ s, node.processor (T.slot u) = .router s ∧ s.netId = T.net u
  uplink : ∀ p, T.parent v = some p →
    ∃ s, node.processor upstreamIdent = .edge s ∧ s.netId = some (T.net v) ∧
      s.ownNode = edgeNodeId

/-- Interfaces, processors and seed routes agree on the links below the node. -/
abbrev NodeLinked (T : Topology ι) (horizon size : Nat) (q : InFlight ι) (v : ι)
    (node : Node κ) : Prop :=
  NodeSetUp T size q v (RouterLinked T horizon size q v) node

/-- And there are no seed routes for other links. -/
abbrev NodeReady (T : Topology ι) (horizon size : Nat) (q : InFlight ι) (v : ι)
    (node : Node κ) : Prop :=
  NodeSetUp T size q v (RouterReady T horizon size q v) node

/-! ### Frames that pass

What a node does with a frame that its processor lets pass as it is. -/

section Pass

variable [SocketVTable κ] {node : Node κ} {ident : UInt8} {frame : BorrowedFrame}
  {data : List UInt8} {clock : FrameClock} {net : UInt16}

/-- On an interface of a router: nothing is sent back after a send without a complaint, and
an `Active` interface is not activated. -/
theorem Node.receive_router {s : RouterFrameProcessor} {nodeId : UInt8}
    (hs : node.processor ident = .router s) (hnet : s.netId = net)
    (hstate : Profile.interfaceState node.stack.profile ident = some (.active net nodeId))
    (hpass : routerIngress node.stack.profile net frame.hdr clock.check = some frame.hdr)
    (hbody : frame.body = .ok data)
    (hresult : ∀ e, (node.stack.sendRaw frame.hdr data ident clock.send).1 ≠
      .error (.interfaceSend e))
    (hafter : Profile.interfaceState (node.stack.sendRaw frame.hdr data ident clock.send).2.profile
      ident = some (.active net nodeId)) :
    node.receive ident frame clock =
      ⟨(node.stack.sendRaw frame.hdr data ident clock.send).2, node.processor⟩ := by
  subst hnet
  have hsync : s.sync node.stack.profile ident = s := by
    rw [RouterFrameProcessor.sync, hstate]
  have hframe : routerProcessFrame s.netId frame node.stack ident clock =
      (node.stack.sendRaw frame.hdr data ident clock.send).2 := by
    rw [routerProcessFrame, routerReceive, hpass]
    simp only [Option.map_some, NetStack.handOn, hbody, replyTooBig]
    split
    · next mtu hres => exact absurd hres (hresult _)
    · rfl
  have hprocess : s.processFrame frame node.stack ident clock =
      (false, s, (node.stack.sendRaw frame.hdr data ident clock.send).2) := by
    simp only [RouterFrameProcessor.processFrame, hsync, hframe, hafter]
    split <;> rfl
  simp only [Node.receive, FrameProcessor.processFrame, hs, hprocess]
  rw [← hs, Function.update_eq_self]

/-- The discovery window leaves a net id that the interface has as it is, if a donor has the
same one. -/
theorem EdgeFrameProcessor.discover_same {s : EdgeFrameProcessor} {prof : NodeProfile}
    (hnet : s.netId = some net)
    (hstate : Profile.interfaceState prof ident = some (.active net s.ownNode)) {dst : Address}
    (now : Nat) (hdonor : (s.donates prof dst now).1 = true → dst.networkId = net) :
    (s.discover prof dst ident now).goesOn = true ∧
      (s.discover prof dst ident now).processor.netId = some net ∧
      (s.discover prof dst ident now).processor.ownNode = s.ownNode ∧
      ((s.discover prof dst ident now).profile = prof ∨
        (s.discover prof dst ident now).profile = (s.donates prof dst now).2) := by
  unfold discover
  split
  · exact ⟨rfl, hnet, rfl, .inl rfl⟩
  · rw [hstate]
    dsimp only
    split
    · exact ⟨rfl, rfl, rfl, .inl rfl⟩
    · -- the window adopts the net id that the interface has
      simp only [discover.window, hnet]
      by_cases hd : (s.donates prof dst now).1 = true
      · simp only [hd, if_true, adopt, hdonor hd]
        exact ⟨trivial, trivial, trivial, .inr trivial⟩
      · simp only [hd, if_true, Bool.false_eq_true, if_false, adopt]
        exact ⟨trivial, trivial, trivial, .inr trivial⟩

/-- On an edge device, or on the upstream of a bridge. -/
theorem Node.receive_edge {s : EdgeFrameProcessor} (hs : node.processor ident = .edge s)
    (hgoes : (s.discover node.stack.profile frame.hdr.dst ident clock.check).goesOn = true)
    (hnet : (s.discover node.stack.profile frame.hdr.dst ident clock.check).processor.netId =
      some net)
    (hsrc : frame.hdr.src.networkId ≠ 0) (hbody : frame.body = .ok data) :
    node.receive ident frame clock =
      ⟨((⟨node.stack.sockets, (s.discover node.stack.profile frame.hdr.dst ident
          clock.check).profile⟩ : NetStack κ NodeProfile).sendRaw frame.hdr data ident clock.send).2,
        Function.update node.processor ident (.edge (s.discover node.stack.profile frame.hdr.dst
          ident clock.check).processor)⟩ := by
  have hsame : (s.discover node.stack.profile frame.hdr.dst ident clock.check).processor.edgeSrc
      frame.hdr.src = some frame.hdr.src := by
    simp only [EdgeFrameProcessor.edgeSrc, hnet, if_neg hsrc]
  simp only [Node.receive, FrameProcessor.processFrame, hs, EdgeFrameProcessor.processFrame,
    EdgeFrameProcessor.receive, EdgeFrameProcessor.ingress, hgoes, if_true, hsame,
    Option.map_some, NetStack.handOn, hbody]

end Pass

namespace NodeReady

variable {node : Node κ}

theorem ready (h : NodeReady T horizon size q v node) :
    ProfileReady T horizon size q v node.stack.profile := h.profile

theorem congr (h : NodeReady T horizon size q v node)
    (hup : q' (.up v) = q (.up v)) (hdown : ∀ u, T.parent u = some v → q' (.down u) = q (.down u)) :
    NodeReady T horizon size q' v node :=
  { h with profile := h.ready.congr hup hdown }

/-! ### Frames from a child -/

section Receive

variable [SocketVTable κ] [DecidableEq ι] {k : Nat} {frame : BorrowedFrame} {data : List UInt8}
  {clock : FrameClock} {sockets : List (Socket κ)}

omit [SocketVTable κ] [DecidableEq ι] in
/-- The processor of a slot lets the frame pass as it is. -/
theorem routerIngress_eq (prof : NodeProfile) (hfly : Flying T A B k hdr) (netId : UInt16)
    (now : Nat) : routerIngress prof netId hdr now = some hdr := by
  have hsrc : routerSrc netId hdr.src = some hdr.src := if_neg hfly.src.networkId_ne
  have hdst : routerDst netId hdr.dst = hdr.dst := if_neg hfly.dst.networkId_ne
  simp only [routerIngress, hsrc, hdst,
    ProfileReady.isNodeClaimed prof netId now hfly.src.nodeId]
  simp

/-- A frame from the child `u`. -/
theorem receive_slot (h : NodeReady T horizon size q v node) (hu : T.parent u = some v)
    (hfly : Flying T A B k frame.hdr) (hbody : frame.body = .ok data)
    (hsent : Sent T horizon size q' v sockets
      (node.stack.sendRaw frame.hdr data (T.slot u) clock.send)) :
    NodeReady T horizon size q' v (node.receive (T.slot u) frame clock) ∧
      (node.receive (T.slot u) frame clock).stack.sockets = sockets := by
  obtain ⟨s, hs, hnet⟩ := h.slots u hu
  rw [Node.receive_router hs hnet (h.ready.interfaceState_slot hu) (routerIngress_eq _ hfly _ _)
    hbody hsent.result (hsent.profile.interfaceState_slot hu)]
  exact ⟨{ h with profile := hsent.profile }, hsent.sockets⟩

/-! ### Frames from the parent -/

omit [SocketVTable κ] [DecidableEq ι] in
/-- Only a frame to the node itself may donate its net id, which is the one it has. -/
theorem donates_ready {prof : NodeProfile} (h : ProfileReady T horizon size q v prof)
    {s : EdgeFrameProcessor} (hown : s.ownNode = edgeNodeId) (hB : T.Below v B) {dst : Address}
    (hdst : T.Assigned B dst) {now : Nat} (hnow : now < horizon) :
    ((s.donates prof dst now).1 = true → dst.networkId = T.net v) ∧
      ProfileReady T horizon size q v (s.donates prof dst now).2 := by
  unfold EdgeFrameProcessor.donates
  split
  · next hcond =>
    refine ⟨?_, h.isTransitNet _ hnow⟩
    intro htransit
    simp only [Bool.not_eq_true'] at htransit
    cases hdst with
    | slot _ _ hnode =>
      rw [hown, hnode] at hcond
      exact absurd hcond.2 (by decide)
    | uplink hp hnet _ =>
      by_cases heq : B = v
      · rw [hnet, heq]
      · rw [hnet, h.isTransitNet_of_below (hB.of_parent heq hp) hp hnow] at htransit
        cases htransit
  · exact ⟨nofun, h⟩

omit [SocketVTable κ] [DecidableEq ι] in
/-- The discovery window leaves the net id as it is. -/
theorem discover_ready {prof : NodeProfile} (h : ProfileReady T horizon size q v prof)
    (hp : T.parent v = some p) {s : EdgeFrameProcessor} (hnet : s.netId = some (T.net v))
    (hown : s.ownNode = edgeNodeId) (hB : T.Below v B) {dst : Address} (hdst : T.Assigned B dst)
    {now : Nat} (hnow : now < horizon) :
    (s.discover prof dst upstreamIdent now).goesOn = true ∧
      (s.discover prof dst upstreamIdent now).processor.netId = some (T.net v) ∧
      (s.discover prof dst upstreamIdent now).processor.ownNode = edgeNodeId ∧
      ProfileReady T horizon size q v (s.discover prof dst upstreamIdent now).profile := by
  obtain ⟨hdonated, haged⟩ := donates_ready h hown hB hdst hnow
  have hstate := h.interfaceState_up hp
  rw [← hown] at hstate
  obtain ⟨hgoes, hnet', hown', hprof⟩ := EdgeFrameProcessor.discover_same hnet hstate now hdonated
  refine ⟨hgoes, hnet', hown'.trans hown, ?_⟩
  rcases hprof with hprof | hprof
  · rw [hprof]
    exact h
  · rw [hprof]
    exact haged

/-- A frame from the parent. -/
theorem receive_up (h : NodeReady T horizon size q v node) (hp : T.parent v = some p)
    (hB : T.Below v B) (hfly : Flying T A B k frame.hdr) (hbody : frame.body = .ok data)
    (hcheck : clock.check < horizon)
    (hsent : ∀ prof, ProfileReady T horizon size q v prof → Sent T horizon size q' v sockets
      ((⟨node.stack.sockets, prof⟩ : NetStack κ NodeProfile).sendRaw frame.hdr data
        upstreamIdent clock.send)) :
    NodeReady T horizon size q' v (node.receive upstreamIdent frame clock) ∧
      (node.receive upstreamIdent frame clock).stack.sockets = sockets := by
  obtain ⟨s, hs, hnet, hown⟩ := h.uplink p hp
  obtain ⟨hgoes, hnet', hown', hprof⟩ :=
    discover_ready h.profile hp hnet hown hB hfly.dst hcheck
  have hsent := hsent _ hprof
  rw [Node.receive_edge hs hgoes hnet' hfly.src.networkId_ne hbody]
  refine ⟨{ profile := hsent.profile, slots := ?_, uplink := ?_ }, hsent.sockets⟩
  · intro u hu
    obtain ⟨s', hs', hn⟩ := h.slots u hu
    exact ⟨s', (Function.update_of_ne (T.slot_ne u) _ _).trans hs', hn⟩
  · intro _ _
    exact ⟨_, Function.update_self upstreamIdent _ node.processor, hnet', hown'⟩

/-- A frame from either. -/
theorem receive (h : NodeReady T horizon size q v node) {ident : UInt8} (hcame : Came T B v ident)
    (hfly : Flying T A B k frame.hdr) (hbody : frame.body = .ok data)
    (hcheck : clock.check < horizon)
    (hsent : ∀ prof, ProfileReady T horizon size q v prof → Sent T horizon size q' v sockets
      ((⟨node.stack.sockets, prof⟩ : NetStack κ NodeProfile).sendRaw frame.hdr data
        ident clock.send)) :
    NodeReady T horizon size q' v (node.receive ident frame clock) ∧
      (node.receive ident frame clock).stack.sockets = sockets := by
  cases hcame with
  | slot hu _ => exact h.receive_slot hu hfly hbody (hsent _ h.ready)
  | upstream hp hB => exact h.receive_up hp hB hfly hbody hcheck hsent

end Receive

end NodeReady

end Ergot
