import Mathlib.Data.List.Find
import Ergot.Net.Network
import Ergot.Router.Route
import Ergot.Router.Spec

/-!
# Nodes that are set up for a topology

`NodeReady` is what the topology asks of a node: every interface is `Active`, and slot,
port and frame processor have the net id of the link; the seed routes lead to the networks
below the node, and to no others; queues and MTUs admit frames of a given size.

- `PortReady`, `RouterReady` and `NodeReady` carry the frames that wait at the ports, so
  that a send is one change of a function on links.
- What a send does at a node depends on where the addressee is: in the subtree of a child
  (`RouterReady.findThen_down`), not in the subtree of the node (`findThen_up`), or the
  node itself (`findThen_here`). These are the cases of `Forest.Path`.
-/

namespace Ergot

/-- The frames that wait in each direction of each link. -/
abbrev InFlight (ι : Type) := Link ι → List (Header × Payload)

/-! ## Ports -/

/-- A port that is `Active` on its link, and admits a frame when nothing waits. -/
structure PortReady (netId : UInt16) (own : UInt8) (size : Nat)
    (frames : List (Header × Payload)) (p : EdgePort FrameQueue) : Prop where
  state : p.state = .active netId own
  own : p.ownNodeId = own
  mtu : maxHdrEncodedSize + size ≤ p.sink.mtu.toNat
  room : 0 < p.sink.room
  frames : p.sink.frames = frames

/-- A header when it leaves a port: with a source. -/
def Header.leave (netId : UInt16) (own : UInt8) (hdr : Header) : Header :=
  { hdr with src :=
      if hdr.src.networkId = 0 then
        { hdr.src with
          networkId := netId
          nodeId := if hdr.src.nodeId = 0 then own else hdr.src.nodeId }
      else hdr.src }

/-- A unicast frame to a socket. -/
structure Header.Unicast (hdr : Header) : Prop where
  any : hdr.dst.portId ≠ 0
  all : hdr.dst.portId ≠ 255
  anyAll : hdr.anyAll = none
  kind : hdr.kind ≠ .protocolError
  valid : hdr.kind.isValid

namespace PortReady

variable {netId : UInt16} {own : UInt8} {size : Nat} {frames : List (Header × Payload)}
  {p : EdgePort FrameQueue} {hdr : Header}

theorem commonSend (h : PortReady netId own size frames p) (hdr_ok : hdr.Unicast)
    (hlocal : ¬ (hdr.dst.networkId = netId ∧ hdr.dst.nodeId = own)) :
    p.commonSend hdr = .ok (hdr.leave netId own) := by
  have hdst : p.stampDst netId hdr.dst = hdr.dst := if_neg hdr_ok.all
  simp only [EdgePort.commonSend, h.state, h.own, if_neg hlocal, hdst]
  rw [if_neg]
  · rw [EdgePort.stampSrc, h.own]
    rfl
  · rintro ⟨hport | hport, -⟩
    · exact hdr_ok.any hport
    · exact hdr_ok.all hport

/-- The queue takes the frame. -/
theorem offer (h : PortReady netId own size [] p) (hdr : Header) (payload : Payload)
    (hkind : hdr.kind ≠ .protocolError) (hsize : payload.size ≤ size) :
    PortReady netId own size [(hdr, payload)]
        (p.report (p.sink.offer hdr payload false)).2 ∧
      (p.report (p.sink.offer hdr payload false)).1 = .ok () := by
  have hmtu := h.mtu
  have hroom := h.room
  have hadmits : p.sink.admits payload = true := by
    simp only [FrameQueue.admits, h.frames, List.length_nil, decide_eq_true_eq]
    omega
  have hoffer : p.sink.offer hdr payload false =
      (true, { p.sink with frames := [(hdr, payload)] }) := by
    simp [FrameQueue.offer, hkind, hadmits, h.frames]
  rw [hoffer]
  exact ⟨{ h with frames := rfl }, rfl⟩

theorem send (h : PortReady netId own size [] p) (hdr_ok : hdr.Unicast)
    (hlocal : ¬ (hdr.dst.networkId = netId ∧ hdr.dst.nodeId = own)) {msg : Msg}
    (hsize : msg.bytes.length ≤ size) :
    PortReady netId own size [(hdr.leave netId own, .ty msg)] (p.send hdr msg).2 ∧
      (p.send hdr msg).1 = .ok () := by
  rw [EdgePort.send, h.commonSend hdr_ok hlocal]
  exact h.offer (hdr.leave netId own) (.ty msg) hdr_ok.kind hsize

theorem fits (h : PortReady netId own size frames p) {data : List UInt8}
    (hsize : data.length ≤ size) : p.fits data :=
  Nat.le_trans (Nat.add_le_add_left hsize _) h.mtu

theorem sendRaw (h : PortReady netId own size [] p) (hdr_ok : hdr.Unicast)
    (hlocal : ¬ (hdr.dst.networkId = netId ∧ hdr.dst.nodeId = own)) {data : List UInt8}
    (hsize : data.length ≤ size) :
    PortReady netId own size [(hdr.leave netId own, .raw data)] (p.sendRaw hdr data).2 ∧
      (p.sendRaw hdr data).1 = .ok () := by
  rw [EdgePort.sendRaw, if_neg (Nat.not_lt.mpr (h.fits hsize)), h.commonSend hdr_ok hlocal]
  exact h.offer (hdr.leave netId own) (.raw data) hdr_ok.kind hsize

/-- A frame for the port itself comes back. -/
theorem sendRaw_local (h : PortReady netId own size frames p)
    (hlocal : hdr.dst.networkId = netId ∧ hdr.dst.nodeId = own) {data : List UInt8}
    (hsize : data.length ≤ size) :
    p.sendRaw hdr data = (.error .destinationLocal, p) := by
  have hcommon : p.commonSend hdr = .error .destinationLocal := by
    simp only [EdgePort.commonSend, h.state, h.own, if_pos hlocal]
  rw [EdgePort.sendRaw, if_neg (Nat.not_lt.mpr (h.fits hsize)), hcommon]

end PortReady

/-! ## Routers -/

/-- A router whose interfaces and seed routes reach the network below it. -/
structure RouterLinked {ι : Type} (T : Topology ι) (horizon size : Nat) (q : InFlight ι) (v : ι)
    {N S C : Nat} (r : Router FrameQueue N S C) : Prop where
  upstream : ∀ p, T.parent v = some p →
    ∃ port, r.upstream = some port ∧ PortReady (T.net v) edgeNodeId size (q (.up v)) port
  slot : ∀ u, T.parent u = some v → ∃ s, (r.slots.toList.find? fun s => s.ident = T.slot u) =
    some s ∧ s.netId = T.net u ∧ PortReady (T.net u) centralNodeId size (q (.down u)) s.port
  slots : ∀ s ∈ r.slots.toList, ∃ u, T.parent u = some v ∧ s.ident = T.slot u ∧
    s.netId = T.net u
  keys : r.seedRoutes.keys.Nodup
  /-- The network above a node in the subtree of the child `u` is leased through the slot
  of `u`. -/
  seed : ∀ u p w, T.parent u = some v → T.Below u p → T.parent w = some p →
    ∃ scope e l, r.seedRoutes.get (T.net w) scope = some e ∧ e.extra.viaIdent = T.slot u ∧
      e.kind = .active l ∧ horizon ≤ l.expiration

/-- A router that is set up as the node `v`: the table has no other networks of the
topology. -/
structure RouterReady {ι : Type} (T : Topology ι) (horizon size : Nat) (q : InFlight ι) (v : ι)
    {N S C : Nat} (r : Router FrameQueue N S C) : Prop extends
    RouterLinked T horizon size q v r where
  only : ∀ p w, ¬ T.Below v p → T.parent w = some p → r.seedRoutes.containsKey (T.net w) = false

namespace RouterReady

variable {ι : Type} {T : Topology ι} {horizon size : Nat} {q : InFlight ι} {v u w p : ι}
  {N S C : Nat} {r : Router FrameQueue N S C}

/-! ### The tables -/

/-- Seed routes may age. -/
theorem of_aged (h : RouterReady T horizon size q v r) {now : Nat} (hnow : now < horizon)
    {t : LeaseTable UInt16 SeedRoute S} (hsub : t.keys.Subperm r.seedRoutes.keys)
    (haged : ∀ net scope, Aged now (r.seedRoutes.get net scope) (t.get net scope)) :
    RouterReady T horizon size q v { r with seedRoutes := t } := by
  obtain ⟨keys, hperm, hkeys⟩ := id hsub
  refine { h with keys := hperm.nodup_iff.mp (hkeys.nodup h.keys), seed := ?_, only := ?_ }
  · intro u p w hu hp hw
    obtain ⟨scope, e, l, he, hvia, hl, hle⟩ := h.seed u p w hu hp hw
    refine ⟨scope, e, l, ?_, hvia, hl, hle⟩
    exact (haged (T.net w) scope).of_running he hl (Nat.lt_of_lt_of_le hnow hle)
  · intro p w hp hw
    have hno := h.only p w hp hw
    rw [← Bool.not_eq_true] at hno ⊢
    intro hin
    exact hno (LeaseTable.mem_keys.mp (hsub.subset (LeaseTable.mem_keys.mpr hin)))

theorem gcSeed (h : RouterReady T horizon size q v r) {now : Nat} (hnow : now < horizon) :
    RouterReady T horizon size q v (r.gcSeed now) :=
  h.of_aged hnow (r.seedRoutes.keys_gc_sublist now).subperm
    fun _ _ => LeaseTable.aged_get_gc (LeaseTable.ids_nodup h.keys) now _ _

theorem isTransitNet (h : RouterReady T horizon size q v r) (net : UInt16) {now : Nat}
    (hnow : now < horizon) : RouterReady T horizon size q v (r.isTransitNet net now).2 := by
  unfold Router.isTransitNet
  split
  · exact h
  · split
    · exact h
    · exact h.of_aged hnow (r.seedRoutes.keys_containsKeyAt_subperm net now)
        fun _ _ => LeaseTable.aged_get_containsKeyAt h.keys _ _ _ _

/-- A slot is told by its net id as by its ident. -/
theorem serves_eq (h : RouterReady T horizon size q v r) (hu : T.parent u = some v)
    {s : Slot FrameQueue} (hs : s ∈ r.slots.toList) :
    Slot.serves (T.net u) s = decide (s.ident = T.slot u) := by
  obtain ⟨u', hu', hident, hnet⟩ := h.slots s hs
  rw [Slot.serves, hident, hnet, decide_eq_decide]
  constructor
  · rintro ⟨-, heq⟩
    rw [T.net_inj hu' hu heq]
  · intro heq
    rw [T.slot_inj hu' hu heq]
    exact ⟨T.net_ne hu, rfl⟩

/-- The slot of a child serves the link to it. -/
theorem find_serves (h : RouterReady T horizon size q v r) (hu : T.parent u = some v) :
    r.slots.toList.find? (Slot.serves (T.net u)) =
      r.slots.toList.find? fun s => s.ident = T.slot u :=
  List.find?_congr fun _ hs => h.serves_eq hu hs

/-- No slot serves another link. -/
theorem find_serves_none (h : RouterReady T horizon size q v r) (hw : T.parent w = some p)
    (hne : p ≠ v) : r.slots.toList.find? (Slot.serves (T.net w)) = none := by
  rw [List.find?_eq_none]
  intro s hs hserves
  obtain ⟨u, hu, -, hnet⟩ := h.slots s hs
  simp only [Slot.serves, decide_eq_true_eq] at hserves
  cases T.net_inj hu hw (hnet.symm.trans hserves.2)
  rw [hw] at hu
  cases hu
  exact hne rfl

/-! ### A port is used -/

theorem congr (h : RouterReady T horizon size q v r) {q' : InFlight ι}
    (hup : q' (.up v) = q (.up v)) (hdown : ∀ u, T.parent u = some v → q' (.down u) = q (.down u)) :
    RouterReady T horizon size q' v r := by
  refine { h with upstream := ?_, slot := ?_ }
  · rw [hup]
    exact h.upstream
  · intro u hu
    rw [hdown u hu]
    exact h.slot u hu

variable [DecidableEq ι]

theorem setUpstream (h : RouterReady T horizon size q v r)
    {frames : List (Header × Payload)} {port : EdgePort FrameQueue}
    (hport : PortReady (T.net v) edgeNodeId size frames port) :
    RouterReady T horizon size (Function.update q (.up v) frames) v
      { r with upstream := some port } := by
  refine { h with upstream := ?_, slot := ?_ }
  · intro p _
    refine ⟨port, rfl, ?_⟩
    rw [Function.update_self]
    exact hport
  · intro u hu
    rw [Function.update_of_ne (by simp)]
    exact h.slot u hu

theorem setSlot (h : RouterReady T horizon size q v r) (hu : T.parent u = some v)
    {frames : List (Header × Payload)} {port : EdgePort FrameQueue}
    (hport : PortReady (T.net u) centralNodeId size frames port) :
    RouterReady T horizon size (Function.update q (.down u) frames) v
      { r with
        slots := r.slots.modifyFirst (fun s => s.ident = T.slot u) (fun s => { s with port }) } := by
  refine { h with upstream := ?_, slot := ?_, slots := ?_ }
  · intro p hp
    rw [Function.update_of_ne (by simp)]
    exact h.upstream p hp
  · intro u' hu'
    by_cases heq : u' = u
    · subst heq
      obtain ⟨s, hs, hnet, -⟩ := h.slot u' hu
      refine ⟨{ s with port }, ?_, hnet, ?_⟩
      · have hslot := List.find?_some hs
        exact HeaplessVec.find?_modifyFirstList _ hs hslot
      · rw [Function.update_self]
        exact hport
    · have hne : T.slot u' ≠ T.slot u := fun hslot => heq (T.slot_inj hu' hu hslot)
      rw [Function.update_of_ne (by simpa using heq)]
      obtain ⟨s, hs, hready⟩ := h.slot u' hu'
      refine ⟨s, ?_, hready⟩
      rw [← hs]
      refine HeaplessVec.find?_modifyFirstList_of_ne _ ?_ ?_
      · intro b hb
        simp only [decide_eq_true_eq] at hb
        simp [hb, hne.symm]
      · intro b hb
        simp only [decide_eq_true_eq] at hb
        simp [hb, hne.symm]
  · intro s hs
    rcases HeaplessVec.mem_modifyFirstList hs with hs | ⟨a, ha, rfl⟩
    · exact h.slots s hs
    · exact h.slots a (List.mem_of_find?_eq_some ha)

/-! ### Where a frame goes -/

section Find

variable {hdr : Header} {source : Option UInt8} {later : Nat}

omit [DecidableEq ι] in
theorem slotMut_congr {f g : Slot FrameQueue → Bool} (hfg : ∀ s ∈ r.slots.toList, f s = g s)
    (s : Slot FrameQueue) : r.slotMut f s = r.slotMut g s := by
  simp only [Router.slotMut, HeaplessVec.modifyFirst, HeaplessVec.modifyFirstList_congr _ hfg]

omit [DecidableEq ι] in
/-- The link to a child is direct. -/
theorem findAged_slot (h : RouterReady T horizon size q v r) (hu : T.parent u = some v)
    (hnet : hdr.dst.networkId = T.net u) (hnode : hdr.dst.nodeId ≠ centralNodeId)
    (hsource : source ≠ some (T.slot u)) :
    ∃ s, PortReady (T.net u) centralNodeId size (q (.down u)) s.port ∧
      r.findAged hdr source later = .ok (r.slotMut (fun s => s.ident = T.slot u) s) := by
  obtain ⟨s, hs, -, hready⟩ := h.slot u hu
  have hident : s.ident = T.slot u := by simpa using List.find?_some hs
  refine ⟨s, hready, ?_⟩
  rw [Router.findAged, hnet, h.find_serves hu, hs]
  simp only [if_neg hnode, hident, if_neg hsource]
  rw [slotMut_congr fun s hs => h.serves_eq hu hs]

omit [DecidableEq ι] in
/-- The central side of a link to a child is this node. -/
theorem findAged_own (h : RouterReady T horizon size q v r) (hu : T.parent u = some v)
    (hnet : hdr.dst.networkId = T.net u) (hnode : hdr.dst.nodeId = centralNodeId) :
    r.findAged hdr source later = .error .destinationLocal := by
  obtain ⟨s, hs, -⟩ := h.slot u hu
  rw [Router.findAged, hnet, h.find_serves hu, hs]
  simp only [if_pos hnode]

omit [DecidableEq ι] in
/-- A link in the subtree of a child has a seed route. -/
theorem findAged_seed (h : RouterReady T horizon size q v r) (hu : T.parent u = some v)
    (hp : T.Below u p) (hw : T.parent w = some p) (hnet : hdr.dst.networkId = T.net w)
    (hsource : source ≠ some (T.slot u)) (hlater : later < horizon) :
    ∃ s, PortReady (T.net u) centralNodeId size (q (.down u)) s.port ∧
      r.findAged hdr source later = .ok (r.slotMut (fun s => s.ident = T.slot u) s) := by
  obtain ⟨s, hs, -, hready⟩ := h.slot u hu
  obtain ⟨scope, e, l, he, hvia, hl, hle⟩ := h.seed u p w hu hp hw
  have hdirect := h.find_serves_none hw (by rintro rfl; exact Forest.not_below_parent hu hp)
  have hactive : e.kind.isActive later = true := by
    rw [hl]
    exact decide_eq_true (Nat.lt_of_lt_of_le hlater hle)
  refine ⟨s, hready, ?_⟩
  rw [Router.findAged, hnet, hdirect]
  simp only [LeaseTable.byKey_of_get h.keys he, hactive, if_true, hvia, if_neg hsource, hs]

omit [DecidableEq ι] in
/-- Anything else is left to the parent. -/
theorem findAged_upstream (h : RouterReady T horizon size q v r) (hp : ¬ T.Below v p)
    (hw : T.parent w = some p) (hnet : hdr.dst.networkId = T.net w) :
    r.findAged hdr source later = r.findUpstream source := by
  have hdirect := h.find_serves_none hw (by rintro rfl; exact hp (Forest.Below.refl _))
  have hseed : r.seedRoutes.byKey (T.net w) = none := by
    have hno := h.only p w hp hw
    rw [LeaseTable.containsKey, List.any_eq_false] at hno
    exact List.find?_eq_none.mpr hno
  rw [Router.findAged, hnet, hdirect]
  simp only [hseed]

end Find

section FindThen

variable {B : ι} {hdr : Header} {source : Option UInt8} {clock : Clock}
  (use : EdgePort FrameQueue → Except InterfaceSendError Unit × EdgePort FrameQueue)

omit [DecidableEq ι] in
theorem findThen_eq (hport : hdr.dst.portId ≠ 0) :
    r.findThen hdr source clock use =
      match (r.gcSeed clock.now).findAged hdr source clock.later with
      | .error e => (.error e, r.gcSeed clock.now)
      | .ok ref => ((use ref.port).1, ref.putBack (use ref.port).2) := by
  have hany : ¬ (hdr.dst.portId = 0 ∧ hdr.anyAll.isNone = true) := fun h => hport h.1
  simp only [Router.findThen, Router.find, if_neg hany]
  cases (r.gcSeed clock.now).findAged hdr source clock.later <;> rfl

/-- The addressee is in the subtree of the child `u`: the frame leaves through its slot. -/
theorem findThen_down (h : RouterReady T horizon size q v r) (hu : T.parent u = some v)
    (hB : T.Below u B) (hdst : T.Assigned B hdr.dst) (hport : hdr.dst.portId ≠ 0)
    (hsource : source ≠ some (T.slot u)) (hlater : clock.later < horizon) :
    ∃ port, PortReady (T.net u) centralNodeId size (q (.down u)) port ∧
      (r.findThen hdr source clock use).1 = (use port).1 ∧
      ∀ frames, PortReady (T.net u) centralNodeId size frames (use port).2 →
        RouterReady T horizon size (Function.update q (.down u) frames) v
          (r.findThen hdr source clock use).2 := by
  have hgc := h.gcSeed (Nat.lt_of_le_of_lt clock.le hlater)
  have hfind : ∃ s, PortReady (T.net u) centralNodeId size (q (.down u)) s.port ∧
      (r.gcSeed clock.now).findAged hdr source clock.later =
        .ok ((r.gcSeed clock.now).slotMut (fun s => s.ident = T.slot u) s) := by
    cases hdst with
    | @uplink _ p _ hp hnet hnode =>
      by_cases heq : B = u
      · subst heq
        exact hgc.findAged_slot hu hnet (by rw [hnode]; decide) hsource
      · exact hgc.findAged_seed hu (hB.of_parent heq hp) hp hnet hsource hlater
    | slot hw hnet _ => exact hgc.findAged_seed hu hB hw hnet hsource hlater
  obtain ⟨s, hready, hfind⟩ := hfind
  refine ⟨s.port, hready, ?_, ?_⟩
  · rw [findThen_eq use hport, hfind]
    rfl
  · intro frames hframes
    rw [findThen_eq use hport, hfind]
    exact hgc.setSlot hu hframes

/-- The addressee is not in the subtree: the frame leaves upstream. -/
theorem findThen_up (h : RouterReady T horizon size q v r) (hp : T.parent v = some p)
    (hB : ¬ T.Below v B) (hdst : T.Assigned B hdr.dst) (hport : hdr.dst.portId ≠ 0)
    (hsource : source ≠ some upstreamIdent) (hlater : clock.later < horizon) :
    ∃ port, PortReady (T.net v) edgeNodeId size (q (.up v)) port ∧
      (r.findThen hdr source clock use).1 = (use port).1 ∧
      ∀ frames, PortReady (T.net v) edgeNodeId size frames (use port).2 →
        RouterReady T horizon size (Function.update q (.up v) frames) v
          (r.findThen hdr source clock use).2 := by
  have hgc := h.gcSeed (Nat.lt_of_le_of_lt clock.le hlater)
  obtain ⟨port, hup, hready⟩ := h.upstream p hp
  have hfind : (r.gcSeed clock.now).findAged hdr source clock.later =
      (r.gcSeed clock.now).findUpstream source := by
    cases hdst with
    | uplink hw hnet _ =>
      exact hgc.findAged_upstream (fun hb => hB (hb.tail hw)) hw hnet
    | slot hw hnet _ => exact hgc.findAged_upstream hB hw hnet
  have hupstream : (r.gcSeed clock.now).upstream = some port := hup
  simp only [Router.findUpstream, hupstream, if_neg hsource] at hfind
  refine ⟨port, hready, ?_, ?_⟩
  · rw [findThen_eq use hport, hfind]
  · intro frames hframes
    rw [findThen_eq use hport, hfind]
    exact hgc.setUpstream hframes

omit [DecidableEq ι] in
/-- The addressee is the node itself: the frame is reported as local, or, when it came
from upstream to the upstream address, as a loop. -/
theorem findThen_here (h : RouterReady T horizon size q v r) (hdst : T.Assigned v hdr.dst)
    (hport : hdr.dst.portId ≠ 0) (hlater : clock.later < horizon)
    (huse : ∀ port, PortReady (T.net v) edgeNodeId size (q (.up v)) port →
      hdr.dst.networkId = T.net v ∧ hdr.dst.nodeId = edgeNodeId →
      use port = (.error .destinationLocal, port)) :
    ∃ e, (e = .destinationLocal ∨ e = .routingLoop) ∧
      (r.findThen hdr source clock use).1 = .error e ∧
      RouterReady T horizon size q v (r.findThen hdr source clock use).2 := by
  have hgc := h.gcSeed (Nat.lt_of_le_of_lt clock.le hlater)
  cases hdst with
  | slot hu hnet hnode =>
    refine ⟨.destinationLocal, .inl rfl, ?_⟩
    rw [findThen_eq use hport, hgc.findAged_own hu hnet hnode]
    exact ⟨rfl, hgc⟩
  | @uplink _ p _ hp hnet hnode =>
    obtain ⟨port, hup, hready⟩ := h.upstream p hp
    have hfind : (r.gcSeed clock.now).findAged hdr source clock.later =
        (r.gcSeed clock.now).findUpstream source :=
      hgc.findAged_upstream (Forest.not_below_parent hp) hp hnet
    have hupstream : (r.gcSeed clock.now).upstream = some port := hup
    rw [findThen_eq use hport, hfind]
    simp only [Router.findUpstream, hupstream]
    by_cases hsource : source = some upstreamIdent
    · refine ⟨.routingLoop, .inr rfl, ?_⟩
      rw [if_pos hsource]
      exact ⟨rfl, hgc⟩
    · refine ⟨.destinationLocal, .inl rfl, ?_⟩
      rw [if_neg hsource]
      simp only [huse port hready ⟨hnet, hnode⟩]
      refine ⟨trivial, ?_⟩
      rw [← hupstream]
      exact hgc

end FindThen

end RouterReady

end Ergot
