import Ergot.Net.Hop
import Ergot.Stack.Faces

/-!
# Nodes whose interfaces are joined

What a broadcast asks of a node of a topology: every interface is `Active`, and slot, port and
frame processor have the net id of the link. Nothing is asked of the seed routes, which a
broadcast does not look at, nor of the clock.

- `NodeJoined` does not say what waits at the ports. It depends on the faces of the interfaces
  alone, so a send keeps it, and so does everything else that a broadcast makes a node do.
- `Node.queue` is what waits at an interface.
-/

namespace Ergot

variable {ι κ : Type} {T : Topology ι} {size : Nat} {v u p : ι} {link : Link ι} {e : Ends ι}

/-! ## Ports -/

/-- What a send leaves of a queue. -/
def FrameQueue.limits (q : FrameQueue) : UInt16 × Nat := (q.mtu, q.room)

theorem FrameQueue.limits_kept : SinkKeeps FrameQueue.limits := by
  have hoffer : ∀ (q : FrameQueue) hdr payload isErr,
      (q.offer hdr payload isErr).2.limits = q.limits := by
    intro q hdr payload isErr
    unfold offer
    split <;> rfl
  exact ⟨fun q hdr msg => hoffer q hdr _ _, fun q hdr data => hoffer q hdr _ _,
    fun q hdr e => hoffer q hdr _ _⟩

/-- A port that is `Active` on its link, whatever waits there. -/
def PortJoined (netId : UInt16) (own : UInt8) (size : Nat) (p : EdgePort FrameQueue) : Prop :=
  PortReady netId own size p.sink.frames p

/-- Frames come and go. -/
theorem PortReady.of_face {netId : UInt16} {own : UInt8} {frames : List (Header × Payload)}
    {p p' : EdgePort FrameQueue} (h : PortReady netId own size frames p)
    (hface : p'.face FrameQueue.limits = p.face FrameQueue.limits) :
    PortJoined netId own size p' := by
  simp only [EdgePort.face, FrameQueue.limits, EdgePort.mk.injEq, Prod.mk.injEq] at hface
  obtain ⟨⟨hmtu, hroom⟩, hstate, hown, -⟩ := hface
  exact { state := hstate.trans h.state
          own := hown.trans h.own
          mtu := by rw [hmtu]; exact h.mtu
          room := by rw [hroom]; exact h.room
          frames := rfl }

/-! ## Profiles -/

/-- A router whose interfaces are those of the node `v`. -/
structure RouterJoined (T : Topology ι) (size : Nat) (v : ι) {N S C : Nat}
    (r : Router FrameQueue N S C) : Prop where
  upstream : ∀ p, T.parent v = some p →
    ∃ port, r.upstream = some port ∧ PortJoined (T.net v) edgeNodeId size port
  slot : ∀ u, T.parent u = some v → ∃ s, (r.slots.toList.find? fun s => s.ident = T.slot u) =
    some s ∧ s.netId = T.net u ∧ PortJoined (T.net u) centralNodeId size s.port
  slots : ∀ s ∈ r.slots.toList, ∃ u, T.parent u = some v ∧ s.ident = T.slot u ∧
    s.netId = T.net u

/-- A router that is set up for unicast frames is. -/
theorem RouterLinked.joined {horizon : Nat} {q : InFlight ι} {N S C : Nat}
    {r : Router FrameQueue N S C} (h : RouterLinked T horizon size q v r) :
    RouterJoined T size v r where
  upstream p hp := by
    obtain ⟨port, hup, hready⟩ := h.upstream p hp
    exact ⟨port, hup, hready.of_face rfl⟩
  slot u hu := by
    obtain ⟨s, hs, hnet, hready⟩ := h.slot u hu
    exact ⟨s, hs, hnet, hready.of_face rfl⟩
  slots := h.slots

/-- A router with the same faces. -/
theorem RouterJoined.of_faces {N S C N' S' C' : Nat} {r : Router FrameQueue N S C}
    {r' : Router FrameQueue N' S' C'} (h : RouterJoined T size v r)
    (hfaces : r'.faces FrameQueue.limits = r.faces FrameQueue.limits) :
    RouterJoined T size v r' := by
  have hslots : r'.slots.toList.map (Slot.face FrameQueue.limits) =
      r.slots.toList.map (Slot.face FrameQueue.limits) := congrArg Faces.slots hfaces
  have hup : r'.upstream.map (EdgePort.face FrameQueue.limits) =
      r.upstream.map (EdgePort.face FrameQueue.limits) := congrArg Faces.upstream hfaces
  constructor
  case upstream =>
    intro p hp
    obtain ⟨port, hport, hready⟩ := h.upstream p hp
    rw [hport, Option.map_some, Option.map_eq_some_iff] at hup
    obtain ⟨port', hport', hface⟩ := hup
    exact ⟨port', hport', hready.of_face hface⟩
  case slot =>
    intro u hu
    obtain ⟨s, hs, hnet, hready⟩ := h.slot u hu
    have hfind := Router.find?_face FrameQueue.limits (fun i => i = T.slot u)
    have hfound := (hfind r'.slots.toList).symm.trans ((congrArg _ hslots).trans
      (hfind r.slots.toList))
    rw [hs, Option.map_some, Option.map_eq_some_iff] at hfound
    obtain ⟨s', hs', hface⟩ := hfound
    simp only [Slot.face, Slot.mk.injEq] at hface
    exact ⟨s', hs', hface.2.2.trans hnet, hready.of_face hface.2.1⟩
  case slots =>
    intro s hs
    have hmem : s.face FrameQueue.limits ∈ r.slots.toList.map (Slot.face FrameQueue.limits) := by
      rw [← hslots]
      exact List.mem_map_of_mem hs
    obtain ⟨s', hs', hface⟩ := List.mem_map.mp hmem
    obtain ⟨u, hu, hident, hnet⟩ := h.slots s' hs'
    simp only [Slot.face, Slot.mk.injEq] at hface
    exact ⟨u, hu, hface.1 ▸ hident, hface.2.2 ▸ hnet⟩

namespace NodeProfile

/-- The faces of the interfaces of a node. -/
def face : NodeProfile → Faces (UInt16 × Nat) ⊕ EdgePort (UInt16 × Nat)
  | .router r => .inl (r.faces FrameQueue.limits)
  | .edge e => .inr (e.port.face FrameQueue.limits)

theorem face_send (p : NodeProfile) (hdr : Header) (msg : Msg) (clock : Clock) :
    (Profile.send p hdr msg clock).2.face = p.face := by
  cases p with
  | router r => exact congrArg Sum.inl (r.faces_send FrameQueue.limits_kept hdr msg clock)
  | edge e =>
    show Sum.inr ((e.send hdr msg).2.port.face _) = _
    unfold DirectEdge.send
    split
    · rfl
    · exact congrArg Sum.inr (e.port.face_send FrameQueue.limits_kept _ _)

theorem face_sendRaw (p : NodeProfile) (hdr : Header) (data : List UInt8) (source : UInt8)
    (clock : Clock) : (Profile.sendRaw p hdr data source clock).2.face = p.face := by
  cases p with
  | router r =>
    exact congrArg Sum.inl (r.faces_sendRaw FrameQueue.limits_kept hdr data source clock)
  | edge e => rfl

theorem face_isTransitNet (p : NodeProfile) (netId : UInt16) (now : Nat) :
    (Profile.isTransitNet p netId now).2.face = p.face := by
  cases p with
  | router r =>
    exact congrArg Sum.inl ((Router.faces_view FrameQueue.limits_kept 0).isTransitNet r netId now)
  | edge e => rfl

/-- What waits at an interface. -/
def queue (p : NodeProfile) (ident : UInt8) : List (Header × Payload) :=
  match p.port ident with
  | none => []
  | some port => port.sink.frames

theorem queue_congr {p p' : NodeProfile} {ident : UInt8} (h : p.port ident = p'.port ident) :
    p.queue ident = p'.queue ident := by
  unfold queue
  rw [h]

end NodeProfile

/-- A profile whose interfaces are those of the node `v`. -/
def ProfileJoined (T : Topology ι) (size : Nat) (v : ι) (prof : NodeProfile) : Prop :=
  ∃ q, ProfileSetUp T size q v (RouterJoined T size v) prof

/-- The node of a link that has no children of its own on it. -/
def Link.child : Link ι → ι
  | .up v | .down v => v

namespace ProfileJoined

variable {prof prof' : NodeProfile}

theorem router {N S C : Nat} {r : Router FrameQueue N S C} (h : RouterJoined T size v r) :
    ProfileJoined T size v (.router r) := ⟨fun _ => [], .router h⟩

theorem of_face (h : ProfileJoined T size v prof) (hface : prof'.face = prof.face) :
    ProfileJoined T size v prof' := by
  obtain ⟨q, h⟩ := h
  cases h with
  | router h =>
    cases prof' with
    | router r' => exact router (h.of_faces (Sum.inl.inj hface))
    | edge e' => cases hface
  | edge hp hleaf h =>
    cases prof' with
    | router r' => cases hface
    | edge e' =>
      exact ⟨fun _ => e'.port.sink.frames, .edge hp hleaf (h.of_face (Sum.inr.inj hface))⟩

/-- The port that a direction of a link leaves by, and its address. -/
theorem port (h : ProfileJoined T size e.sender prof) (he : T.ends link = some e) :
    ∃ own port, prof.port e.sendIdent = some port ∧ PortJoined (T.net link.child) own size port ∧
      ∀ portId, T.Assigned e.sender ⟨T.net link.child, own, portId⟩ := by
  obtain ⟨q, h⟩ := h
  cases link with
  | up v =>
    obtain ⟨p, hp, rfl⟩ := Option.map_eq_some_iff.mp he
    refine ⟨edgeNodeId, ?_⟩
    have hassigned : ∀ portId, T.Assigned v ⟨T.net v, edgeNodeId, portId⟩ :=
      fun _ => .uplink hp rfl rfl
    cases h with
    | router h =>
      obtain ⟨port, hup, hready⟩ := h.upstream p hp
      exact ⟨port, by simp only [NodeProfile.port, if_true, hup], hready, hassigned⟩
    | edge _ _ h => exact ⟨_, rfl, h.of_face rfl, hassigned⟩
  | down u =>
    obtain ⟨p, hu, rfl⟩ := Option.map_eq_some_iff.mp he
    refine ⟨centralNodeId, ?_⟩
    cases h with
    | router h =>
      obtain ⟨s, hs, -, hready⟩ := h.slot u hu
      refine ⟨s.port, ?_, hready, fun _ => .slot hu rfl rfl⟩
      simp only [NodeProfile.port, if_neg (T.slot_ne u), hs, Option.map_some]
    | edge _ hleaf _ => exact absurd hu (hleaf u)

theorem interfaceState_slot (h : ProfileJoined T size v prof) (hu : T.parent u = some v) :
    Profile.interfaceState prof (T.slot u) = some (.active (T.net u) centralNodeId) := by
  obtain ⟨q, h⟩ := h
  cases h with
  | router h =>
    obtain ⟨s, hs, -, hready⟩ := h.slot u hu
    show Router.interfaceState _ _ = _
    rw [Router.interfaceState, if_neg (T.slot_ne u), hs, Option.map_some, hready.state]
  | edge _ hleaf _ => exact absurd hu (hleaf u)

theorem interfaceState_up (h : ProfileJoined T size v prof) (hp : T.parent v = some p) :
    Profile.interfaceState prof upstreamIdent = some (.active (T.net v) edgeNodeId) := by
  obtain ⟨q, h⟩ := h
  cases h with
  | router h =>
    obtain ⟨port, hup, hready⟩ := h.upstream p hp
    show Router.interfaceState _ _ = _
    rw [Router.interfaceState, if_pos rfl, hup, Option.map_some, hready.state]
  | edge _ _ h => exact congrArg some h.state

/-- A node without children has one interface. -/
theorem link_of_leaf {d : DirectEdge FrameQueue} (h : ProfileJoined T size e.sender (.edge d))
    (he : T.ends link = some e) : link = .up e.sender := by
  obtain ⟨q, h⟩ := h
  cases h with
  | edge hp hleaf _ =>
    cases link with
    | up v =>
      obtain ⟨p, hp, rfl⟩ := Option.map_eq_some_iff.mp he
      rfl
    | down u =>
      obtain ⟨p, hu, rfl⟩ := Option.map_eq_some_iff.mp he
      exact absurd hu (hleaf u)

end ProfileJoined

/-- The interfaces of a node are told apart by their idents. -/
theorem Topology.ends_inj {link' : Link ι} {e' : Ends ι} (he : T.ends link = some e)
    (he' : T.ends link' = some e') (hsender : e'.sender = e.sender)
    (hident : e'.sendIdent = e.sendIdent) : link' = link := by
  cases link with
  | up v =>
    obtain ⟨p, hp, rfl⟩ := Option.map_eq_some_iff.mp he
    cases link' with
    | up v' =>
      obtain ⟨p', hp', rfl⟩ := Option.map_eq_some_iff.mp he'
      exact congrArg Link.up hsender
    | down u' =>
      obtain ⟨p', hu', rfl⟩ := Option.map_eq_some_iff.mp he'
      exact absurd hident (T.slot_ne u')
  | down u =>
    obtain ⟨p, hu, rfl⟩ := Option.map_eq_some_iff.mp he
    cases link' with
    | up v' =>
      obtain ⟨p', hp', rfl⟩ := Option.map_eq_some_iff.mp he'
      exact absurd hident.symm (T.slot_ne u)
    | down u' =>
      obtain ⟨p', hu', rfl⟩ := Option.map_eq_some_iff.mp he'
      cases (show p' = p from hsender)
      rw [T.slot_inj hu' hu hident]

/-! ### Taking a frame from a queue -/

namespace NodeProfile

variable {prof : NodeProfile} {ident : UInt8} {port port' : EdgePort FrameQueue}

/-- Another port with the same face. -/
theorem face_setPort (h : prof.port ident = some port)
    (hface : port'.face FrameQueue.limits = port.face FrameQueue.limits) :
    (prof.setPort ident port').face = prof.face := by
  cases prof with
  | edge e =>
    cases h
    exact congrArg Sum.inr hface
  | router r =>
    unfold NodeProfile.port at h
    unfold setPort
    dsimp only at h ⊢
    split at h
    · next hident =>
      rw [if_pos hident]
      refine congrArg Sum.inl ?_
      simp only [Router.faces, h, Option.map_some, hface]
    · next hident =>
      rw [if_neg hident]
      refine congrArg Sum.inl ?_
      obtain ⟨slot, hslot, rfl⟩ := Option.map_eq_some_iff.mp h
      obtain ⟨before, after, hsplit, -, hmod⟩ :=
        HeaplessVec.modifyFirstList_split (fun s => { s with port := port' }) hslot
      simp only [Router.faces, HeaplessVec.toList_modifyFirst, hmod]
      simp only [hsplit, List.map_append, List.map_cons, Slot.face, hface]

theorem port_setPort (h : prof.port ident = some port) :
    (prof.setPort ident port').port ident = some port' := by
  cases prof with
  | edge e => rfl
  | router r =>
    unfold NodeProfile.port at h
    unfold setPort
    dsimp only at h ⊢
    split at h
    · next hident => simp only [if_pos hident, NodeProfile.port]
    · next hident =>
      obtain ⟨slot, hslot, rfl⟩ := Option.map_eq_some_iff.mp h
      have hstays := List.find?_some hslot
      simp only [if_neg hident, NodeProfile.port, HeaplessVec.toList_modifyFirst]
      rw [HeaplessVec.find?_modifyFirstList _ hslot hstays]
      rfl

theorem port_setPort_of_ne {N S C : Nat} (r : Router FrameQueue N S C) {other : UInt8}
    (hne : other ≠ ident) (port' : EdgePort FrameQueue) :
    ((NodeProfile.router r).setPort ident port').port other = (NodeProfile.router r).port other := by
  unfold setPort
  by_cases hident : ident = upstreamIdent
  · have hother : other ≠ upstreamIdent := hident ▸ hne
    simp only [if_pos hident, NodeProfile.port, if_neg hother]
  · simp only [if_neg hident, NodeProfile.port, HeaplessVec.toList_modifyFirst]
    rw [HeaplessVec.find?_modifyFirstList_of_ne]
    · intro b hb
      simp only [decide_eq_true_eq] at hb
      simp [hb, hne.symm]
    · intro b hb
      simp only [decide_eq_true_eq] at hb
      simp [hb, hne.symm]

end NodeProfile

/-! ## Nodes -/

/-- A node whose interfaces, and their processors, are those of the node `v`. -/
def NodeJoined (T : Topology ι) (size : Nat) (v : ι) (node : Node κ) : Prop :=
  ∃ q, NodeSetUp T size q v (RouterJoined T size v) node

/-- A node that is set up for unicast frames is. -/
theorem NodeLinked.joined {horizon : Nat} {q : InFlight ι} {node : Node κ}
    (h : NodeLinked T horizon size q v node) : NodeJoined T size v node := by
  refine ⟨q, { profile := ?_, slots := h.slots, uplink := h.uplink }⟩
  have hprofile := h.profile
  generalize node.stack.profile = prof at hprofile
  cases hprofile with
  | router h => exact .router h.joined
  | edge hp hleaf h => exact .edge hp hleaf h

/-- What waits at an interface of a node. -/
def Node.queue (node : Node κ) (ident : UInt8) : List (Header × Payload) :=
  node.stack.profile.queue ident

namespace NodeJoined

variable {node : Node κ}

theorem profile (h : NodeJoined T size v node) : ProfileJoined T size v node.stack.profile := by
  obtain ⟨q, h⟩ := h
  exact ⟨q, h.profile⟩

/-- Another stack. -/
theorem withStack (h : NodeJoined T size v node) {st : NetStack κ NodeProfile}
    (hprof : ProfileJoined T size v st.profile) : NodeJoined T size v { node with stack := st } := by
  obtain ⟨_, h⟩ := h
  obtain ⟨q, hprof⟩ := hprof
  exact ⟨q, { profile := hprof, slots := h.slots, uplink := h.uplink }⟩

theorem pop_nil (h : NodeJoined T size e.sender node) (he : T.ends link = some e)
    (hq : node.queue e.sendIdent = []) : node.pop e.sendIdent = none := by
  obtain ⟨own, port, hport, -⟩ := h.profile.port he
  simp only [Node.queue, NodeProfile.queue, hport] at hq
  simp only [Node.pop, hport, hq]

/-- The first frame leaves, and nothing else changes. -/
theorem pop_cons (h : NodeJoined T size e.sender node) (he : T.ends link = some e)
    {f : Header × Payload} {rest : List (Header × Payload)}
    (hq : node.queue e.sendIdent = f :: rest) :
    ∃ node', node.pop e.sendIdent = some (f, node') ∧ NodeJoined T size e.sender node' ∧
      node'.stack.sockets = node.stack.sockets ∧ node'.queue e.sendIdent = rest ∧
      ∀ link' e', T.ends link' = some e' → e'.sender = e.sender → link' ≠ link →
        node'.queue e'.sendIdent = node.queue e'.sendIdent := by
  obtain ⟨own, port, hport, -⟩ := h.profile.port he
  simp only [Node.queue, NodeProfile.queue, hport] at hq
  refine ⟨{ node with stack := { node.stack with
    profile := node.stack.profile.setPort e.sendIdent
      { port with sink := { port.sink with frames := rest } } } }, ?_, ?_, rfl, ?_, ?_⟩
  · simp only [Node.pop, hport, hq]
  · exact h.withStack (h.profile.of_face (NodeProfile.face_setPort hport rfl))
  · simp only [Node.queue, NodeProfile.queue, NodeProfile.port_setPort hport]
  · intro link' e' he' hsender hne
    have hident : e'.sendIdent ≠ e.sendIdent := fun heq => hne (Topology.ends_inj he he' hsender heq)
    have hprof := h.profile
    show NodeProfile.queue (NodeProfile.setPort _ _ _) _ = _
    rw [Node.queue]
    cases hnode : node.stack.profile with
    | router r =>
      simp only [NodeProfile.queue, NodeProfile.port_setPort_of_ne r hident]
    | edge d =>
      rw [hnode] at hprof
      rw [hprof.link_of_leaf he] at hne
      rw [← hsender] at hprof hne
      exact absurd (hprof.link_of_leaf he') hne

end NodeJoined

end Ergot
