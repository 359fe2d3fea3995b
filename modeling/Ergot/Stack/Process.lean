import Ergot.Stack.Profiles

/-!
# Frame processing

What an RX worker does with a decoded frame: `router::process_frame` on the slots of
a router, `direct_edge::process_frame` on an edge device and on the upstream of a
bridge. Both rewrite link-local addresses to the net id of the segment, drop frames
that claim to be from this node, and hand the rest to `send_raw` or `send_err`.

A `Receipt` is what was handed on and what came of it. It is not observable in the
source, where a processor only logs the result; the theorems about frame processing
are about receipts.

The steps of a processor take the stack's lock one after the other, so each has its
own clock (`FrameClock`).
-/

namespace Ergot

/-- The clock readings of one `process_frame`: at the look-up in the profile, at the
send, and at the error reply. -/
structure FrameClock where
  check : Nat
  send : Clock
  reply : Clock

/-- A frame handed to the stack: the header after the rewriting, the result, and the
stack afterwards. -/
structure Receipt (κ P : Type) where
  hdr : Header
  result : Except NetStackSendError Unit
  stack : NetStack κ P

variable {κ P ι : Type} [SocketVTable κ] [Profile P ι]

/-- The last step of both processors. -/
def NetStack.handOn (st : NetStack κ P) (hdr : Header)
    (body : Except ProtocolError (List UInt8)) (ident : ι) (clock : Clock) : Receipt κ P :=
  let (result, stack) :=
    match body with
    | .ok body => st.sendRaw hdr body ident clock
    | .error e => st.sendErr hdr e (some ident) clock
  { hdr, result, stack }

/-! ## Router -/

/-- The source rewrite of `router::process_frame`; `none` is a dropped frame. -/
def routerSrc (netId : UInt16) (src : Address) : Option Address :=
  if src.networkId = 0 then
    if src.nodeId = 0 ∨ src.nodeId = centralNodeId then none
    else some { src with networkId := netId }
  else some src

/-- The destination rewrite of `router::process_frame`. -/
def routerDst (netId : UInt16) (dst : Address) : Address :=
  if dst.networkId = 0 then { dst with networkId := netId } else dst

/-- `router::process_frame` up to the sends. Only frames that originate on this
segment need a claimed node id, and wildcard frames are exempt. -/
def routerIngress (p : P) (netId : UInt16) (hdr : Header) (now : Nat) : Option Header :=
  match routerSrc netId hdr.src with
  | none => none
  | some src =>
    if hdr.dst.portId ≠ 0 ∧ src.networkId = netId
        ∧ Profile.isNodeClaimed p netId src.nodeId now = false then none
    else some { hdr with src, dst := routerDst netId hdr.dst }

/-- What the rewriting keeps, and that nothing it lets through looks like a local
message. -/
theorem routerIngress_spec {p : P} {netId : UInt16} {hdr hdr' : Header} {now : Nat}
    (h : routerIngress p netId hdr now = some hdr') :
    hdr'.dst.portId = hdr.dst.portId ∧ hdr'.kind = hdr.kind ∧ hdr'.ttl = hdr.ttl ∧
      hdr'.src.netNodeAny = false := by
  unfold routerIngress at h
  split at h
  · cases h
  · rename_i src hsrc
    split at h
    · cases h
    · cases h
      have hport : (routerDst netId hdr.dst).portId = hdr.dst.portId := by
        unfold routerDst
        split <;> rfl
      refine ⟨hport, rfl, rfl, ?_⟩
      show src.netNodeAny = false
      unfold routerSrc at hsrc
      split at hsrc
      · split at hsrc
        · cases hsrc
        · rename_i hnode
          cases hsrc
          simp [Address.netNodeAny, (not_or.mp hnode).1]
      · rename_i hnet
        cases hsrc
        simp [Address.netNodeAny, hnet]

/-- The frame as `router::process_frame` hands it on. -/
def routerReceive (netId : UInt16) (frame : BorrowedFrame) (st : NetStack κ P) (ident : ι)
    (clock : FrameClock) : Option (Receipt κ P) :=
  (routerIngress st.profile netId frame.hdr clock.check).map fun hdr =>
    st.handOn hdr frame.body ident clock.send

/-- The header of an error reply. -/
def Header.errReply (hdr : Header) : Header :=
  { src := hdr.dst, dst := hdr.src, anyAll := none, kind := .protocolError,
    trafficClass := hdr.trafficClass, ttl := defaultTtl }

/-- What `router::process_frame` does after the send: a frame that was too big for
the outgoing interface is answered, unless its source port is reserved. -/
def replyTooBig (receipt : Receipt κ P) (ident : ι) (clock : Clock) : NetStack κ P :=
  match receipt.result with
  | .error (.interfaceSend (.packetTooBig mtu)) =>
    if receipt.hdr.src.portId = 0 ∨ receipt.hdr.src.portId = 255 then receipt.stack
    else
      (receipt.stack.sendErr receipt.hdr.errReply (.isePacketTooBig mtu) (some ident) clock).2
  | _ => receipt.stack

/-- `router::process_frame`. -/
def routerProcessFrame (netId : UInt16) (frame : BorrowedFrame) (st : NetStack κ P) (ident : ι)
    (clock : FrameClock) : NetStack κ P :=
  match routerReceive netId frame st ident clock with
  | none => st
  | some receipt => replyTooBig receipt ident clock.reply

/-- The processor of a router slot (router.rs:1440). -/
structure RouterFrameProcessor where
  netId : UInt16
  activated : Bool

namespace RouterFrameProcessor

/-- `RouterFrameProcessor::new`. -/
def new (netId : UInt16) : RouterFrameProcessor := ⟨netId, false⟩

/-- The net id of the slot is read again at every frame. -/
def sync (s : RouterFrameProcessor) (p : P) (ident : ι) : RouterFrameProcessor :=
  match Profile.interfaceState p ident with
  | some (.active netId _) => { s with netId }
  | _ => s

/-- `RouterFrameProcessor::process_frame`; the flag is the returned `changed`. -/
def processFrame (s : RouterFrameProcessor) (frame : BorrowedFrame) (st : NetStack κ P)
    (ident : ι) (clock : FrameClock) : Bool × RouterFrameProcessor × NetStack κ P :=
  let s := s.sync st.profile ident
  let st := routerProcessFrame s.netId frame st ident clock
  if s.activated then (false, s, st)
  else
    match Profile.interfaceState st.profile ident with
    | some .inactive =>
      let (_, profile) :=
        Profile.setInterfaceState st.profile ident (.active s.netId centralNodeId)
      (true, { s with activated := true }, { st with profile })
    | _ => (false, s, st)

/-- `RouterFrameProcessor::reset`. -/
def reset (s : RouterFrameProcessor) : RouterFrameProcessor := { s with activated := false }

end RouterFrameProcessor

/-! ## Edge -/

/-- The processor of an edge device, and of the upstream of a bridge
(direct_edge.rs:162). -/
structure EdgeFrameProcessor where
  netId : Option UInt16
  ownNode : UInt8
  activated : Bool
  rediscovering : Bool

namespace EdgeFrameProcessor

/-- `EdgeFrameProcessor::new`. -/
def new : EdgeFrameProcessor := ⟨none, edgeNodeId, false, false⟩

/-- `EdgeFrameProcessor::new_controller`. -/
def newController (netId : UInt16) : EdgeFrameProcessor :=
  ⟨some netId, centralNodeId, false, false⟩

/-- `EdgeFrameProcessor::reset`: the net id is kept as a hint. -/
def reset (s : EdgeFrameProcessor) : EdgeFrameProcessor :=
  { s with activated := false, rediscovering := s.netId.isSome }

/-- What the discovery window did: whether the frame goes on, whether the state of
the interface changed, and the processor and profile afterwards. -/
structure Discovery (P : Type) where
  goesOn : Bool
  changed : Bool
  processor : EdgeFrameProcessor
  profile : P

/-- Whether a frame may donate its net id: it is addressed to our node id, and the
profile does not route its net id elsewhere. -/
def donates (s : EdgeFrameProcessor) (p : P) (dst : Address) (now : Nat) : Bool × P :=
  if dst.networkId ≠ 0 ∧ dst.nodeId = s.ownNode then
    let (transit, p) := Profile.isTransitNet p dst.networkId now
    (!transit, p)
  else (false, p)

/-- Adopt the net id of a donor, or the sticky one. -/
def adopt (s : EdgeFrameProcessor) (p : P) (ident : ι) (ifState : InterfaceState) (net : UInt16)
    (donated : Bool) : Discovery P :=
  let adopted : EdgeFrameProcessor :=
    if donated then { s with netId := some net, activated := true, rediscovering := false }
    else { s with netId := some net }
  if ifState = .active net s.ownNode then ⟨true, false, adopted, p⟩
  else
    match Profile.setInterfaceState p ident (.active net s.ownNode) with
    | (.ok (), p) => ⟨true, true, adopted, p⟩
    | (.error _, p) => ⟨false, false, s, p⟩

/-- The discovery window of `direct_edge::process_frame`. -/
def discover (s : EdgeFrameProcessor) (p : P) (dst : Address) (ident : ι) (now : Nat) :
    Discovery P :=
  if s.activated then ⟨true, false, s, p⟩
  else
    match Profile.interfaceState p ident with
    | none => ⟨false, false, s, p⟩
    | some (.activeLocal _) => ⟨true, false, { s with activated := true }, p⟩
    | some ifState =>
      match ifState with
      | .active netId _ =>
        if netId ≠ 0 ∧ s.rediscovering = false then
          ⟨true, false, { s with netId := some netId, activated := true }, p⟩
        else window s p dst ident now ifState
      | _ => window s p dst ident now ifState
where
  /-- Inactive, down, link-local, or a sticky id that is not confirmed yet. -/
  window (s : EdgeFrameProcessor) (p : P) (dst : Address) (ident : ι) (now : Nat)
      (ifState : InterfaceState) : Discovery P :=
    let (donated, p) := s.donates p dst now
    match if donated then some dst.networkId else s.netId with
    | none => ⟨true, false, s, p⟩
    | some net => s.adopt p ident ifState net donated

/-- The source rewrite of `direct_edge::process_frame`; `none` is a dropped frame.
Without a net id nothing is rewritten. -/
def edgeSrc (s : EdgeFrameProcessor) (src : Address) : Option Address :=
  match s.netId with
  | none => some src
  | some net =>
    if src.networkId = 0 then
      if src.nodeId = 0 ∨ src.nodeId = s.ownNode then none
      else some { src with networkId := net }
    else some src

/-- `direct_edge::process_frame` up to the sends. -/
def ingress (s : EdgeFrameProcessor) (p : P) (hdr : Header) (ident : ι) (now : Nat) :
    Discovery P × Option Header :=
  let d := s.discover p hdr.dst ident now
  (d, if d.goesOn then (d.processor.edgeSrc hdr.src).map fun src => { hdr with src } else none)

/-- The frame as `direct_edge::process_frame` hands it on. -/
def receive (s : EdgeFrameProcessor) (frame : BorrowedFrame) (st : NetStack κ P) (ident : ι)
    (clock : FrameClock) : Option (Receipt κ P) :=
  let (d, hdr) := s.ingress st.profile frame.hdr ident clock.check
  hdr.map fun hdr =>
    NetStack.handOn { st with profile := d.profile } hdr frame.body ident clock.send

/-- `direct_edge::process_frame`; the flag is the returned `state_changed`. -/
def processFrame (s : EdgeFrameProcessor) (frame : BorrowedFrame) (st : NetStack κ P)
    (ident : ι) (clock : FrameClock) : Bool × EdgeFrameProcessor × NetStack κ P :=
  let d := s.discover st.profile frame.hdr.dst ident clock.check
  match s.receive frame st ident clock with
  | none => (d.changed, d.processor, { st with profile := d.profile })
  | some receipt => (d.changed, d.processor, receipt.stack)

end EdgeFrameProcessor

/-! ## Either -/

/-- A frame processor (interface_manager/mod.rs), as an RX worker holds it. -/
inductive FrameProcessor
  | router (s : RouterFrameProcessor)
  | edge (s : EdgeFrameProcessor)

namespace FrameProcessor

/-- The stack a frame is handed to, and its header then; `none` is a dropped frame. -/
def accept (proc : FrameProcessor) (hdr : Header) (st : NetStack κ P) (ident : ι) (now : Nat) :
    NetStack κ P × Option Header :=
  match proc with
  | .router s => (st, routerIngress st.profile (s.sync st.profile ident).netId hdr now)
  | .edge s =>
    ({ st with profile := (s.ingress st.profile hdr ident now).1.profile },
      (s.ingress st.profile hdr ident now).2)

/-- The frame as the processor hands it on. -/
def receive (proc : FrameProcessor) (frame : BorrowedFrame) (st : NetStack κ P) (ident : ι)
    (clock : FrameClock) : Option (Receipt κ P) :=
  match proc with
  | .router s => routerReceive (s.sync st.profile ident).netId frame st ident clock
  | .edge s => s.receive frame st ident clock

/-- `FrameProcessor::process_frame`. -/
def processFrame (proc : FrameProcessor) (frame : BorrowedFrame) (st : NetStack κ P) (ident : ι)
    (clock : FrameClock) : Bool × FrameProcessor × NetStack κ P :=
  match proc with
  | .router s =>
    let (changed, s, st) := s.processFrame frame st ident clock
    (changed, .router s, st)
  | .edge s =>
    let (changed, s, st) := s.processFrame frame st ident clock
    (changed, .edge s, st)

/-- Whether the processor has seen, or made, its interface active. -/
def activated : FrameProcessor → Bool
  | .router s => s.activated
  | .edge s => s.activated

/-- `FrameProcessor::reset`. -/
def reset : FrameProcessor → FrameProcessor
  | .router s => .router s.reset
  | .edge s => .edge s.reset

/-- What is handed on is the accepted header, to the stack it was accepted for. -/
theorem receive_eq (proc : FrameProcessor) (frame : BorrowedFrame) (st : NetStack κ P)
    (ident : ι) (clock : FrameClock) :
    proc.receive frame st ident clock =
      (proc.accept frame.hdr st ident clock.check).2.map fun hdr =>
        (proc.accept frame.hdr st ident clock.check).1.handOn hdr frame.body ident clock.send := by
  cases proc <;> rfl

omit [SocketVTable κ] in
/-- A processor rewrites network ids only. -/
theorem accept_port {proc : FrameProcessor} {hdr hdr' : Header} {st : NetStack κ P} {ident : ι}
    {now : Nat} (h : (proc.accept hdr st ident now).2 = some hdr') :
    hdr'.dst.portId = hdr.dst.portId := by
  cases proc with
  | router s => exact (routerIngress_spec h).1
  | edge s =>
    simp only [accept, EdgeFrameProcessor.ingress, Option.ite_none_right_eq_some,
      Option.map_eq_some_iff] at h
    obtain ⟨-, src, -, rfl⟩ := h
    rfl

omit [SocketVTable κ] in
/-- A processor leaves the sockets alone until it hands the frame on. -/
theorem accept_sockets (proc : FrameProcessor) (hdr : Header) (st : NetStack κ P) (ident : ι)
    (now : Nat) : (proc.accept hdr st ident now).1.sockets = st.sockets := by
  cases proc <;> rfl

end FrameProcessor

end Ergot
