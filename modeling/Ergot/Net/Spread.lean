import Ergot.Net.Joined
import Ergot.Stack.Fanout

/-!
# What a node does with a broadcast

A node offers a broadcast to its own sockets, and puts a copy on each of its links but the one
that it came in by, as long as there are hops left.

- `Floods` is what becomes of the queues. It is the same for the sends of the node's own messages,
  which have no source (`MsgSend`), and for `send_raw`.
- `offerEach` (`Ergot.Stack.Fanout`) is what becomes of the sockets.
- `NodeJoined.receive` and `NodeJoined.send` put the two together.
-/

namespace Ergot

variable {ι κ : Type} {T : Topology ι} {size : Nat} {v u p A : ι} {link : Link ι} {e : Ends ι}
  {hdr : Header}

/-- A broadcast frame that is not an error and has a key. -/
structure Header.Broadcast (hdr : Header) : Prop where
  all : hdr.dst.portId = 255
  key : hdr.anyAll.isSome
  kind : hdr.kind ≠ .protocolError
  valid : hdr.kind.isValid

/-- A broadcast header as it leaves through a port. -/
def Header.copyTo (hdr : Header) (net : UInt16) (own other : UInt8) : Header :=
  { hdr.leave net own with dst := ⟨net, other, 255⟩ }

theorem Header.Broadcast.hop (h : hdr.Broadcast) : hdr.hop.Broadcast := { h with }

theorem Header.Broadcast.leg (h : hdr.Broadcast) (netId : UInt16) :
    (Router.legHdr hdr netId).Broadcast := { h with }

/-! ## Ports -/

namespace PortJoined

variable {net : UInt16} {own : UInt8} {port : EdgePort FrameQueue}

theorem address (h : PortJoined net own size port) : port.address = some (net, own) := by
  simp only [EdgePort.address, EdgePort.netId, h.state, h.own, Option.map_some]

/-- A broadcast is addressed to the other end of the link. -/
theorem commonSend (h : PortJoined net own size port) (hdr_ok : hdr.Broadcast)
    (hlocal : ¬ (hdr.dst.networkId = net ∧ hdr.dst.nodeId = own)) :
    port.commonSend hdr = .ok (hdr.copyTo net own port.otherNodeId) := by
  have hkey : hdr.Keyed := fun _ => hdr_ok.key
  have hout : port.outHdr hdr = hdr.copyTo net own port.otherNodeId := by
    simp only [EdgePort.outHdr, EdgePort.netId, h.state, EdgePort.stampSrc, h.own,
      EdgePort.stampDst, hdr_ok.all, if_true, Header.copyTo, Header.leave]
  rw [← hout]
  rcases port.commonSend_keyed hkey with ⟨-, hno⟩ | ⟨hok, -⟩
  · refine absurd ⟨by rw [h.address]; rfl, ?_⟩ hno
    rw [h.address]
    intro heq
    simp only [Option.some.injEq, Prod.mk.injEq] at heq
    exact hlocal ⟨heq.1.symm, heq.2.symm⟩
  · exact hok

/-- The queue takes a copy. -/
theorem sendRaw (h : PortJoined net own size port) (hempty : port.sink.frames = [])
    (hdr_ok : hdr.Broadcast) (hlocal : ¬ (hdr.dst.networkId = net ∧ hdr.dst.nodeId = own))
    {data : List UInt8} (hsize : data.length ≤ size) :
    (port.sendRaw hdr data).2.sink.frames =
      [(hdr.copyTo net own port.otherNodeId, .raw data)] := by
  have hready : PortReady net own size [] port := hempty ▸ h
  rw [EdgePort.sendRaw, if_neg (Nat.not_lt.mpr (PortReady.fits h hsize)),
    h.commonSend hdr_ok hlocal]
  exact (hready.offer (hdr.copyTo net own port.otherNodeId) (.raw data) hdr_ok.kind hsize).1.frames

theorem send (h : PortJoined net own size port) (hempty : port.sink.frames = [])
    (hdr_ok : hdr.Broadcast) (hlocal : ¬ (hdr.dst.networkId = net ∧ hdr.dst.nodeId = own))
    {msg : Msg} (hsize : msg.bytes.length ≤ size) :
    (port.send hdr msg).2.sink.frames =
      [(hdr.copyTo net own port.otherNodeId, .ty msg)] := by
  have hready : PortReady net own size [] port := hempty ▸ h
  rw [EdgePort.send, h.commonSend hdr_ok hlocal]
  exact (hready.offer (hdr.copyTo net own port.otherNodeId) (.ty msg) hdr_ok.kind hsize).1.frames

end PortJoined

/-! ## Floods -/

/-- A copy is put on every link but the one to the source, where nothing waits. -/
structure Floods (T : Topology ι) (v : ι) (hdr : Header) (payload : Payload)
    (source : Option UInt8) (prof prof' : NodeProfile) : Prop where
  sent : ∀ link e, T.ends link = some e → e.sender = v → source ≠ some e.sendIdent →
    prof.queue e.sendIdent = [] → ∃ own other,
      (∀ portId, T.Assigned v ⟨T.net link.child, own, portId⟩) ∧
        prof'.queue e.sendIdent = [(hdr.hop.copyTo (T.net link.child) own other, payload)]
  kept : ∀ ident, source = some ident → prof'.queue ident = prof.queue ident

section Slots

variable {σ : Type} {N S C N' S' C' : Nat}

private theorem interfaces_inj {a b : List (Slot σ)} {x y : Option (EdgePort σ)}
    (h : a.map Iface.slot ++ x.toList.map Iface.upstream =
      b.map Iface.slot ++ y.toList.map Iface.upstream) : a = b ∧ x = y := by
  induction a generalizing b with
  | nil =>
    cases b with
    | nil =>
      refine ⟨rfl, ?_⟩
      cases x <;> cases y <;> simp_all
    | cons s b => cases x <;> simp at h
  | cons s a ih =>
    cases b with
    | nil => cases y <;> simp at h
    | cons s' b =>
      simp only [List.map_cons, List.cons_append, List.cons.injEq, Iface.slot.injEq] at h
      obtain ⟨rfl, rfl⟩ := ih h.2
      exact ⟨by rw [h.1], rfl⟩

/-- Slots and upstream, where the interfaces are mapped one by one. -/
theorem Router.of_interfaces_map {r : Router σ N S C} {r' : Router σ N' S' C'}
    {g : Iface σ → Iface σ} {f : Slot σ → Slot σ} {k : EdgePort σ → EdgePort σ}
    (hmap : r'.interfaces = r.interfaces.map g) (hslot : ∀ s, g (.slot s) = .slot (f s))
    (hup : ∀ up, g (.upstream up) = .upstream (k up)) :
    r'.slots.toList = r.slots.toList.map f ∧ r'.upstream = r.upstream.map k := by
  apply interfaces_inj
  rw [interfaces, interfaces] at hmap
  rw [hmap]
  cases r.upstream <;> simp [Function.comp_def, hslot, hup]

end Slots

namespace RouterJoined

variable {N S C : Nat} {r r' : Router FrameQueue N S C} {clock : Clock}

/-- The queue of the slot of a child, after a loop over the slots. -/
theorem queue_slot (h : RouterJoined T size v r) (hu : T.parent u = some v)
    {f : Slot FrameQueue → Slot FrameQueue} (hident : ∀ s, (f s).ident = s.ident)
    (hslots : r'.slots.toList = r.slots.toList.map f) :
    ∃ s, s ∈ r.slots.toList ∧ s.ident = T.slot u ∧ s.netId = T.net u ∧
      PortJoined (T.net u) centralNodeId size s.port ∧
      (NodeProfile.router r).queue (T.slot u) = s.port.sink.frames ∧
      (NodeProfile.router r').queue (T.slot u) = (f s).port.sink.frames := by
  obtain ⟨s, hs, hnet, hready⟩ := h.slot u hu
  have hs' : (r'.slots.toList.find? fun s => s.ident = T.slot u) = some (f s) := by
    rw [hslots, List.find?_map]
    simp only [Function.comp_def, hident, hs, Option.map_some]
  refine ⟨s, List.mem_of_find?_eq_some hs, by simpa using List.find?_some hs, hnet, hready, ?_, ?_⟩
  · simp only [NodeProfile.queue, NodeProfile.port, if_neg (T.slot_ne u), hs, Option.map_some]
  · simp only [NodeProfile.queue, NodeProfile.port, if_neg (T.slot_ne u), hs', Option.map_some]

/-- The queue of the upstream. -/
theorem queue_upstream (h : RouterJoined T size v r) (hp : T.parent v = some p)
    {k : EdgePort FrameQueue → EdgePort FrameQueue} (hup : r'.upstream = r.upstream.map k) :
    ∃ up, r.upstream = some up ∧ PortJoined (T.net v) edgeNodeId size up ∧
      (NodeProfile.router r).queue upstreamIdent = up.sink.frames ∧
      (NodeProfile.router r').queue upstreamIdent = (k up).sink.frames := by
  obtain ⟨up, hsome, hready⟩ := h.upstream p hp
  rw [hsome, Option.map_some] at hup
  refine ⟨up, hsome, hready, ?_, ?_⟩
  · simp only [NodeProfile.queue, NodeProfile.port, if_true, hsome]
  · simp only [NodeProfile.queue, NodeProfile.port, if_true, hup]

/-- The header that the upstream is sent has another destination than the upstream has. -/
theorem lastLegHdr_local (h : RouterJoined T size v r) (hp : T.parent v = some p) (hdr : Header)
    (source : UInt8)
    (hlocal : ¬ (hdr.dst.networkId = T.net v ∧ hdr.dst.nodeId = edgeNodeId)) :
    ¬ ((r.lastLegHdr hdr source).dst.networkId = T.net v ∧
      (r.lastLegHdr hdr source).dst.nodeId = edgeNodeId) := by
  unfold Router.lastLegHdr
  split
  · exact hlocal
  · next s hs =>
    rintro ⟨hnet, -⟩
    have hmem := List.mem_of_getLast? hs
    obtain ⟨u, hu, -, hnet'⟩ := h.slots s (List.mem_filter.mp hmem).1
    -- no child is on the link to the parent
    cases T.net_inj hu hp (hnet'.symm.trans hnet)
    exact Forest.not_below_parent hu (Forest.Below.refl _)

/-- A leg has another destination than the slot it leaves by. -/
theorem leg_local {net : UInt16} (hdr : Header) (netId : UInt16) :
    ¬ ((Router.legHdr hdr netId).dst.networkId = net ∧
      (Router.legHdr hdr netId).dst.nodeId = centralNodeId) :=
  fun h => absurd h.2 (by decide : edgeNodeId ≠ centralNodeId)

theorem floods_raw (h : RouterJoined T size v r) (hdr_ok : hdr.Broadcast) (httl : hdr.ttl ≠ 0)
    {data : List UInt8} (hsize : data.length ≤ size) {source : UInt8}
    (hlocal : source ≠ upstreamIdent → ∀ p, T.parent v = some p →
      ¬ (hdr.dst.networkId = T.net v ∧ hdr.dst.nodeId = edgeNodeId)) :
    Floods T v hdr (.raw data) (some source) (.router r)
      (.router (r.sendRaw hdr data source clock).2) := by
  obtain ⟨hslots, hup⟩ := Router.of_interfaces_map
    (r.sendRaw_interfaces source clock hdr_ok.all hdr_ok.key httl data) (fun _ => rfl)
    fun _ => rfl
  have hident : ∀ s : Slot FrameQueue,
      (Router.rawLegSlot hdr.hop data source s).ident = s.ident := by
    intro s
    unfold Router.rawLegSlot
    split <;> rfl
  constructor
  case sent =>
    intro link e he hsender hsource hempty
    cases link with
    | up v' =>
      obtain ⟨p, hp, rfl⟩ := Option.map_eq_some_iff.mp he
      cases (show v' = v from hsender)
      have hne : source ≠ upstreamIdent := fun heq => hsource (congrArg some heq)
      obtain ⟨up, -, hready, hq, hq'⟩ := h.queue_upstream hp hup
      refine ⟨edgeNodeId, up.otherNodeId, fun _ => .uplink hp rfl rfl, ?_⟩
      have hlast := h.lastLegHdr_local hp hdr.hop source (hlocal hne p hp)
      show (NodeProfile.router _).queue upstreamIdent = _
      rw [hq', if_neg hne]
      -- the header is the frame's own or the last leg's
      rcases r.lastLegHdr_cases hdr.hop source with heq | ⟨n, heq⟩
      · rw [heq] at hlast
        show (up.sendRaw (r.lastLegHdr hdr.hop source) data).2.sink.frames = _
        rw [heq]
        exact hready.sendRaw (hq.symm.trans hempty) hdr_ok.hop hlast hsize
      · rw [heq] at hlast
        show (up.sendRaw (r.lastLegHdr hdr.hop source) data).2.sink.frames = _
        rw [heq]
        exact hready.sendRaw (hq.symm.trans hempty) (hdr_ok.hop.leg n) hlast hsize
    | down u =>
      obtain ⟨p, hu, rfl⟩ := Option.map_eq_some_iff.mp he
      cases (show p = v from hsender)
      obtain ⟨s, hs, hslot, hnet, hready, hq, hq'⟩ := h.queue_slot hu hident hslots
      have hne : source ≠ s.ident := fun heq => hsource (congrArg some (heq.trans hslot))
      refine ⟨centralNodeId, s.port.otherNodeId, fun _ => .slot hu rfl rfl, ?_⟩
      show (NodeProfile.router _).queue (T.slot u) = _
      rw [hq', Router.rawLegSlot, if_neg hne]
      exact hready.sendRaw (hq.symm.trans hempty) (hdr_ok.hop.leg s.netId)
        (leg_local hdr.hop s.netId) hsize
  case kept =>
    intro ident hsource
    cases hsource
    refine NodeProfile.queue_congr ?_
    by_cases hsource : source = upstreamIdent
    · simp only [NodeProfile.port, if_pos hsource, hup, Option.map_id']
    · have hfind : ((r.slots.toList.map (Router.rawLegSlot hdr.hop data source)).find?
          fun s => s.ident = source).map Slot.port =
          (r.slots.toList.find? fun s => s.ident = source).map Slot.port := by
        rw [List.find?_map]
        simp only [Function.comp_def, hident]
        cases hs : r.slots.toList.find? fun s => s.ident = source with
        | none => rfl
        | some s =>
          have hsame : s.ident = source := by simpa using List.find?_some hs
          simp only [Option.map_some, Router.rawLegSlot, if_pos hsame.symm]
      simp only [NodeProfile.port, if_neg hsource, hslots]
      exact hfind

theorem floods_send (h : RouterJoined T size v r) (hdr_ok : hdr.Broadcast) (httl : hdr.ttl ≠ 0)
    {msg : Msg} (hsize : msg.bytes.length ≤ size)
    (hlocal : ∀ p, T.parent v = some p →
      ¬ (hdr.dst.networkId = T.net v ∧ hdr.dst.nodeId = edgeNodeId)) :
    Floods T v hdr (.ty msg) none (.router r) (.router (r.send hdr msg clock).2) := by
  obtain ⟨hslots, hup⟩ := Router.of_interfaces_map
    (r.send_interfaces clock hdr_ok.all hdr_ok.key httl msg) (fun _ => rfl) fun _ => rfl
  have hident : ∀ s : Slot FrameQueue, (Router.typedLegSlot hdr.hop msg s).ident = s.ident := by
    intro s
    unfold Router.typedLegSlot
    split <;> rfl
  constructor
  case sent =>
    intro link e he hsender _ hempty
    cases link with
    | up v' =>
      obtain ⟨p, hp, rfl⟩ := Option.map_eq_some_iff.mp he
      cases (show v' = v from hsender)
      obtain ⟨up, -, hready, hq, hq'⟩ := h.queue_upstream hp hup
      refine ⟨edgeNodeId, up.otherNodeId, fun _ => .uplink hp rfl rfl, hq'.trans ?_⟩
      exact hready.send (hq.symm.trans hempty) hdr_ok.hop (hlocal p hp) hsize
    | down u =>
      obtain ⟨p, hu, rfl⟩ := Option.map_eq_some_iff.mp he
      cases (show p = v from hsender)
      obtain ⟨s, -, -, hnet, hready, hq, hq'⟩ := h.queue_slot hu hident hslots
      have hne : s.netId ≠ 0 := hnet ▸ T.net_ne hu
      refine ⟨centralNodeId, s.port.otherNodeId, fun _ => .slot hu rfl rfl, ?_⟩
      show (NodeProfile.router _).queue (T.slot u) = _
      rw [hq', Router.typedLegSlot, if_neg hne]
      exact hready.send (hq.symm.trans hempty) (hdr_ok.hop.leg s.netId)
        (leg_local hdr.hop s.netId) hsize
  case kept => rintro ident ⟨⟩

end RouterJoined

/-! ## Profiles -/

namespace ProfileJoined

variable {prof : NodeProfile} {linkIn : Link ι} {ein : Ends ι} {clock : Clock}

/-- A broadcast that a node sends leaves on all its links. -/
theorem floods_send (h : ProfileJoined T size v prof) (hdr_ok : hdr.Broadcast)
    (httl : hdr.ttl ≠ 0) {msg : Msg} (hsize : msg.bytes.length ≤ size)
    (hdst : ¬ T.Assigned v hdr.dst) :
    Floods T v hdr (.ty msg) none prof (Profile.send prof hdr msg clock).2 := by
  have hlocal : ∀ p, T.parent v = some p →
      ¬ (hdr.dst.networkId = T.net v ∧ hdr.dst.nodeId = edgeNodeId) :=
    fun p hp ⟨hnet, hnode⟩ => hdst (.uplink hp hnet hnode)
  have hprof := h
  obtain ⟨q, h⟩ := h
  cases h with
  | router h => exact h.floods_send hdr_ok httl hsize hlocal
  | @edge d p hp hleaf h =>
    refine ⟨?_, nofun⟩
    intro link e he hsender _ hempty
    cases hsender
    obtain rfl := hprof.link_of_leaf he
    have hready : PortJoined (T.net e.sender) edgeNodeId size d.port := h.of_face rfl
    refine ⟨edgeNodeId, d.port.otherNodeId, fun _ => .uplink hp rfl rfl, ?_⟩
    show (d.send hdr msg).2.port.sink.frames = _
    rw [DirectEdge.send, Header.decrementTtl_of_ne httl]
    exact hready.send hempty hdr_ok.hop (hlocal p hp) hsize

/-- A broadcast that came in on a link leaves on the others. -/
theorem floods_raw (h : ProfileJoined T size v prof) (hin : T.ends linkIn = some ein)
    (hv : ein.receiver = v) (hdr_ok : hdr.Broadcast) (httl : hdr.ttl ≠ 0)
    (hdst : hdr.dst.networkId = T.net linkIn.child) {data : List UInt8}
    (hsize : data.length ≤ size) :
    Floods T v hdr (.raw data) (some ein.recvIdent) prof
      (Profile.sendRaw prof hdr data ein.recvIdent clock).2 := by
  have hprof := h
  obtain ⟨q, h⟩ := h
  cases h with
  | router h =>
    refine h.floods_raw hdr_ok httl hsize fun hne p hp hlocal => ?_
    cases linkIn with
    | up c =>
      -- the link to a child is not the one to the parent
      obtain ⟨v', hc, rfl⟩ := Option.map_eq_some_iff.mp hin
      cases (show v' = v from hv)
      cases T.net_inj hc hp (hdst.symm.trans hlocal.1)
      exact Forest.not_below_parent hc (Forest.Below.refl _)
    | down u =>
      obtain ⟨p, hu, rfl⟩ := Option.map_eq_some_iff.mp hin
      exact hne rfl
  | @edge d p hp hleaf h =>
    refine ⟨?_, fun _ _ => rfl⟩
    intro link e he hsender hsource _
    cases hsender
    obtain rfl := hprof.link_of_leaf he
    obtain ⟨p, -, heq⟩ := Option.map_eq_some_iff.mp he
    have hident : e.sendIdent = upstreamIdent := by rw [← heq]
    refine absurd ?_ hsource
    rw [hident]
    cases linkIn with
    | up c =>
      obtain ⟨p', hc, rfl⟩ := Option.map_eq_some_iff.mp hin
      cases hv
      exact absurd hc (hleaf c)
    | down u =>
      obtain ⟨p', hu, rfl⟩ := Option.map_eq_some_iff.mp hin
      rfl

/-- Without a hop left nothing leaves. -/
theorem sendRaw_expired (prof : NodeProfile) (httl : hdr.ttl = 0) (data : List UInt8)
    (source : UInt8) : (Profile.sendRaw prof hdr data source clock).2 = prof := by
  cases prof with
  | edge d => rfl
  | router r =>
    show NodeProfile.router (r.sendRaw hdr data source clock).2 = _
    simp only [Router.sendRaw, Header.decrementTtl, if_pos httl]

end ProfileJoined

/-! ## Stacks -/

namespace NetStack

variable (st : NetStack κ NodeProfile)
  (sskt : Socket κ → Except NetStackSendError Unit × Socket κ)
  (smgr : NodeProfile → Except InterfaceSendError Unit × NodeProfile)

/-- A broadcast is offered to the matching sockets and to the profile, and what comes of it is
never an error of the interfaces. -/
theorem sendWith_broadcast (hdr_ok : hdr.Broadcast) :
    (st.sendWith hdr sskt smgr).2 = ⟨offerEach hdr sskt st.sockets, (smgr st.profile).2⟩ ∧
      ∀ e, (st.sendWith hdr sskt smgr).1 ≠ .error (.interfaceSend e) := by
  rw [sendWith, if_neg hdr_ok.kind, if_pos hdr_ok.all, broadcast_eq hdr_ok.key]
  refine ⟨rfl, fun e => ?_⟩
  dsimp only
  split <;> rintro ⟨⟩

end NetStack

/-! ## Nodes -/

/-- The sends of a node's own messages: `send_ty`, and `send_bor` of borrowed contents. -/
inductive MsgSend
  | ty
  | bor

/-- The send of a message so. -/
def MsgSend.path {ι : Type} (t : Msg) : MsgSend → SendPath ι
  | .ty => .ty t
  | .bor => .bor t

/-- The profile is handed the message itself. -/
theorem MsgSend.smgr_path {P ι : Type} [Profile P ι] (form : MsgSend) (hdr : Header) (t : Msg)
    (clock : Clock) :
    (form.path t).smgr hdr clock = fun p : P => Profile.send p hdr t clock := by
  cases form <;> rfl

namespace NodeJoined

variable [SocketVTable κ] {node : Node κ} {linkIn : Link ι} {ein : Ends ι}

/-- A node sends a broadcast. -/
theorem send (h : NodeJoined T size v node) (hdr_ok : hdr.Broadcast) (httl : hdr.ttl ≠ 0)
    {msg : Msg} (hsize : msg.bytes.length ≤ size) (hdst : ¬ T.Assigned v hdr.dst)
    (form : MsgSend) (clock : Clock) :
    NodeJoined T size v { node with stack := (node.stack.sendVia hdr clock (form.path msg)).2 } ∧
      (node.stack.sendVia hdr clock (form.path msg)).2.sockets =
        offerEach hdr ((form.path msg : SendPath UInt8).sskt hdr) node.stack.sockets ∧
      Floods T v hdr (.ty msg) none node.stack.profile
        (node.stack.sendVia hdr clock (form.path msg)).2.profile := by
  have hsend := (node.stack.sendWith_broadcast ((form.path msg : SendPath UInt8).sskt hdr)
    (fun p => Profile.send p hdr msg clock) hdr_ok).1
  rw [Conformance.sendVia_eq, form.smgr_path, hsend]
  refine ⟨h.withStack (h.profile.of_face ?_), rfl, ?_⟩
  · exact NodeProfile.face_send _ _ _ _
  · exact h.profile.floods_send hdr_ok httl hsize hdst

end NodeJoined

/-- What a node does with a broadcast that came in: it is offered to the sockets, and leaves on
the other links if it has a hop left. -/
structure PassedOn [SocketVTable κ] (T : Topology ι) (size : Nat) (v : ι) (hdr : Header)
    (data : List UInt8) (source : UInt8) (node node' : Node κ) : Prop where
  joined : NodeJoined T size v node'
  sockets : node'.stack.sockets = offerEach hdr (sendRawToSocket data hdr) node.stack.sockets
  floods : hdr.ttl ≠ 0 →
    Floods T v hdr (.raw data) (some source) node.stack.profile node'.stack.profile
  expired : hdr.ttl = 0 → ∀ ident, node'.queue ident = node.queue ident

theorem NodeProfile.queue_isTransitNet (p : NodeProfile) (netId : UInt16) (now : Nat)
    (ident : UInt8) : (Profile.isTransitNet p netId now).2.queue ident = p.queue ident := by
  cases p with
  | edge d => rfl
  | router r =>
    show (NodeProfile.router (r.isTransitNet netId now).2).queue ident = _
    unfold Router.isTransitNet
    split
    · rfl
    · split <;> rfl

namespace NodeJoined

variable [SocketVTable κ] {node : Node κ} {frame : BorrowedFrame} {data : List UInt8}

/-- A frame on the link to a child. -/
theorem receive_slot (h : NodeJoined T size v node) (hu : T.parent u = some v)
    (hdr_ok : frame.hdr.Broadcast) (hsrc : T.Assigned A frame.hdr.src)
    (hdst : frame.hdr.dst.networkId = T.net u) (hbody : frame.body = .ok data)
    (hsize : data.length ≤ size) (clock : FrameClock) :
    PassedOn T size v frame.hdr data (T.slot u) node (node.receive (T.slot u) frame clock) := by
  obtain ⟨hsent, hresult⟩ := node.stack.sendWith_broadcast
    (sendRawToSocket data frame.hdr)
    (fun p => Profile.sendRaw p frame.hdr data (T.slot u) clock.send) hdr_ok
  have hprof : ProfileJoined T size v
      (Profile.sendRaw node.stack.profile frame.hdr data (T.slot u) clock.send).2 :=
    h.profile.of_face (NodeProfile.face_sendRaw _ _ _ _ _)
  have hpass : routerIngress node.stack.profile (T.net u) frame.hdr clock.check =
      some frame.hdr := by
    have hsrc' : routerSrc (T.net u) frame.hdr.src = some frame.hdr.src := if_neg hsrc.networkId_ne
    have hdst' : routerDst (T.net u) frame.hdr.dst = frame.hdr.dst :=
      if_neg (by rw [hdst]; exact T.net_ne hu)
    simp only [routerIngress, hsrc', hdst', ProfileReady.isNodeClaimed _ _ _ hsrc.nodeId]
    simp
  have hreceive : node.receive (T.slot u) frame clock =
      { node with stack := ⟨offerEach frame.hdr (sendRawToSocket data frame.hdr)
        node.stack.sockets,
        (Profile.sendRaw node.stack.profile frame.hdr data (T.slot u) clock.send).2⟩ } := by
    have hjoined := h
    obtain ⟨q, h⟩ := h
    obtain ⟨s, hs, hnet⟩ := h.slots u hu
    have hafter : Profile.interfaceState
        (node.stack.sendRaw frame.hdr data (T.slot u) clock.send).2.profile (T.slot u) =
          some (.active (T.net u) centralNodeId) := by
      rw [NetStack.sendRaw, hsent]
      exact hprof.interfaceState_slot hu
    rw [Node.receive_router hs hnet (hjoined.profile.interfaceState_slot hu) hpass hbody hresult
      hafter, NetStack.sendRaw, hsent]
  have hin : T.ends (.up u) = some ⟨u, upstreamIdent, v, T.slot u⟩ := by
    rw [Topology.ends, hu, Option.map_some]
  rw [hreceive]
  refine ⟨h.withStack hprof, rfl, fun httl => ?_, fun httl ident => ?_⟩
  · exact h.profile.floods_raw hin rfl hdr_ok httl hdst hsize
  · show NodeProfile.queue _ ident = _
    rw [ProfileJoined.sendRaw_expired _ httl]
    rfl

/-- A frame on the link to the parent. -/
theorem receive_up (h : NodeJoined T size v node) (hp : T.parent v = some p)
    (hdr_ok : frame.hdr.Broadcast) (hsrc : T.Assigned A frame.hdr.src)
    (hdst : frame.hdr.dst.networkId = T.net v) (hbody : frame.body = .ok data)
    (hsize : data.length ≤ size) (clock : FrameClock) :
    PassedOn T size v frame.hdr data upstreamIdent node
      (node.receive upstreamIdent frame clock) := by
  have hjoined := h
  obtain ⟨q, h⟩ := h
  obtain ⟨s, hs, hnet, hown⟩ := h.uplink p hp
  have hstate := hjoined.profile.interfaceState_up hp
  rw [← hown] at hstate
  obtain ⟨hgoes, hnet', hown', hprof⟩ := EdgeFrameProcessor.discover_same hnet hstate
    clock.check (fun _ => hdst)
  rw [Node.receive_edge hs hgoes hnet' hsrc.networkId_ne hbody]
  -- the discovery window ages the table at most
  have hsame : (s.discover node.stack.profile frame.hdr.dst upstreamIdent clock.check).profile.face
        = node.stack.profile.face ∧
      ∀ ident, (s.discover node.stack.profile frame.hdr.dst upstreamIdent
        clock.check).profile.queue ident = node.stack.profile.queue ident := by
    rcases hprof with hprof | hprof
    · rw [hprof]
      exact ⟨rfl, fun _ => rfl⟩
    · rw [hprof]
      unfold EdgeFrameProcessor.donates
      split
      · exact ⟨NodeProfile.face_isTransitNet _ _ _, NodeProfile.queue_isTransitNet _ _ _⟩
      · exact ⟨rfl, fun _ => rfl⟩
  generalize (s.discover node.stack.profile frame.hdr.dst upstreamIdent clock.check).profile =
    prof at hsame
  obtain ⟨hface, hqueue⟩ := hsame
  have hprofile := hjoined.profile.of_face hface
  obtain ⟨hsent, -⟩ := NetStack.sendWith_broadcast ⟨node.stack.sockets, prof⟩
    (sendRawToSocket data frame.hdr)
    (fun p => Profile.sendRaw p frame.hdr data upstreamIdent clock.send) hdr_ok
  rw [NetStack.sendRaw, hsent]
  have hin : T.ends (.down v) = some ⟨p, T.slot v, v, upstreamIdent⟩ := by
    rw [Topology.ends, hp, Option.map_some]
  refine ⟨?_, rfl, fun httl => ?_, fun httl ident => ?_⟩
  · obtain ⟨q', hset⟩ := hprofile.of_face (NodeProfile.face_sendRaw prof frame.hdr data
      upstreamIdent clock.send)
    refine ⟨q', { profile := hset, slots := ?_, uplink := ?_ }⟩
    · intro u hu
      obtain ⟨s', hs', hn⟩ := h.slots u hu
      exact ⟨s', (Function.update_of_ne (T.slot_ne u) _ _).trans hs', hn⟩
    · intro _ _
      exact ⟨_, Function.update_self upstreamIdent _ node.processor, hnet', hown'.trans hown⟩
  · have hfloods : Floods T v frame.hdr (.raw data) (some upstreamIdent) prof
        (Profile.sendRaw prof frame.hdr data upstreamIdent clock.send).2 :=
      hprofile.floods_raw hin rfl hdr_ok httl hdst hsize
    refine ⟨fun link e he hsender hsource hempty => ?_, fun ident hident => ?_⟩
    · exact hfloods.sent link e he hsender hsource ((hqueue _).trans hempty)
    · exact (hfloods.kept ident hident).trans (hqueue ident)
  · show NodeProfile.queue _ ident = _
    rw [ProfileJoined.sendRaw_expired _ httl]
    exact hqueue ident

end NodeJoined

end Ergot
