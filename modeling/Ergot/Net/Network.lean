import Mathlib.Logic.Function.Basic
import Ergot.Lib.Tree
import Ergot.Stack.Process

/-!
# A network of point-to-point links

Stacks joined by links into trees: routers (roots, and bridges with an upstream) and
edge devices. A link is the queue behind a port at either end, and the frame processor
at the other end; a step of the network takes the first frame out of one queue and
processes it.

- `Topology` says which node is attached to which interface of which router, and the net
  ids of the links. It is a forest whose nodes are told apart by their uplinks.
- `Node` is a stack with the frame processors of its interfaces. A profile is either of
  the two kinds, so that one network can have both (`NodeProfile`).
- `Network.deliver` is one step, and `sendRequest` and `respondOwned` are what a client
  and a server add to the network.
-/

namespace Ergot

/-! ## Topologies -/

/-- How nodes are linked: the slot of its parent that a node is attached to, and the net
id of this link. -/
structure Topology (ι : Type) extends Forest ι where
  slot : ι → UInt8
  net : ι → UInt16
  /-- The ident 255 is reserved for the upstream. -/
  slot_ne : ∀ v, slot v ≠ upstreamIdent
  slot_inj : ∀ {v w p}, parent v = some p → parent w = some p → slot v = slot w → v = w
  net_ne : ∀ {v p}, parent v = some p → net v ≠ 0
  net_inj : ∀ {v w p q}, parent v = some p → parent w = some q → net v = net w → v = w

/-- One direction of the link between a node and its parent. -/
inductive Link (ι : Type)
  | up (v : ι)
  | down (v : ι)
deriving DecidableEq

/-- The sending and the receiving interface of a link. -/
structure Ends (ι : Type) where
  sender : ι
  sendIdent : UInt8
  receiver : ι
  recvIdent : UInt8

namespace Topology

variable {ι : Type}

def ends (T : Topology ι) : Link ι → Option (Ends ι)
  | .up v => (T.parent v).map fun p => ⟨v, upstreamIdent, p, T.slot v⟩
  | .down v => (T.parent v).map fun p => ⟨p, T.slot v, v, upstreamIdent⟩

/-- The addresses of a node: the edge side of its uplink, and the central side of each
of its slots. -/
inductive Assigned (T : Topology ι) : ι → Address → Prop
  | uplink {v p : ι} {a : Address} : T.parent v = some p → a.networkId = T.net v →
      a.nodeId = edgeNodeId → Assigned T v a
  | slot {u v : ι} {a : Address} : T.parent u = some v → a.networkId = T.net u →
      a.nodeId = centralNodeId → Assigned T v a

end Topology

/-! ## Nodes -/

/-- The profile of a node. An edge device has the one interface, under whatever ident. -/
inductive NodeProfile
  | router {N S C : Nat} (r : Router FrameQueue N S C)
  | edge (e : DirectEdge FrameQueue)

instance : Profile NodeProfile UInt8 where
  send p hdr msg clock :=
    match p with
    | .router r => ((r.send hdr msg clock).1, .router (r.send hdr msg clock).2)
    | .edge e => ((e.send hdr msg).1, .edge (e.send hdr msg).2)
  sendErr p hdr err source clock :=
    match p with
    | .router r => ((r.sendErr hdr err source clock).1, .router (r.sendErr hdr err source clock).2)
    | .edge e =>
      ((e.sendErr hdr err (source.map fun _ => ())).1,
        .edge (e.sendErr hdr err (source.map fun _ => ())).2)
  sendRaw p hdr data source clock :=
    match p with
    | .router r => ((r.sendRaw hdr data source clock).1, .router (r.sendRaw hdr data source clock).2)
    | .edge e => (e.sendRaw.1, .edge e.sendRaw.2)
  interfaceState p ident :=
    match p with
    | .router r => r.interfaceState ident
    | .edge e => Profile.interfaceState e ()
  setInterfaceState p ident state :=
    match p with
    | .router r => ((r.setInterfaceState ident state).1, .router (r.setInterfaceState ident state).2)
    | .edge e =>
      ((Profile.setInterfaceState e () state).1, .edge (Profile.setInterfaceState e () state).2)
  isNodeClaimed p netId nodeId now :=
    match p with
    | .router r => r.isNodeClaimed netId nodeId now
    | .edge e => Profile.isNodeClaimed e netId nodeId now
  isTransitNet p netId now :=
    match p with
    | .router r => ((r.isTransitNet netId now).1, .router (r.isTransitNet netId now).2)
    | .edge e => ((Profile.isTransitNet e netId now).1, .edge (Profile.isTransitNet e netId now).2)

namespace NodeProfile

/-- The port of an interface. -/
def port : NodeProfile → UInt8 → Option (EdgePort FrameQueue)
  | .router r, ident =>
    if ident = upstreamIdent then r.upstream
    else (r.slots.toList.find? fun s => s.ident = ident).map Slot.port
  | .edge e, _ => some e.port

def setPort : NodeProfile → UInt8 → EdgePort FrameQueue → NodeProfile
  | .router r, ident, port =>
    if ident = upstreamIdent then .router { r with upstream := some port }
    else .router { r with
      slots := r.slots.modifyFirst (fun s => s.ident = ident) fun s => { s with port } }
  | .edge _, _, port => .edge ⟨port⟩

end NodeProfile

/-- A stack, and the processors that its RX workers hold. -/
structure Node (κ : Type) where
  stack : NetStack κ NodeProfile
  processor : UInt8 → FrameProcessor

variable {ι κ : Type}

/-- The first frame that waits at an interface, and the node without it. -/
def Node.pop (node : Node κ) (ident : UInt8) : Option ((Header × Payload) × Node κ) :=
  match node.stack.profile.port ident with
  | none => none
  | some port =>
    match port.sink.frames with
    | [] => none
    | frame :: frames =>
      some (frame, { node with stack := { node.stack with
        profile := node.stack.profile.setPort ident
          { port with sink := { port.sink with frames } } } })

/-- An RX worker processes a frame that came in on an interface. -/
def Node.receive [SocketVTable κ] (node : Node κ) (ident : UInt8) (frame : BorrowedFrame)
    (clock : FrameClock) : Node κ :=
  let (_, processor, stack) :=
    (node.processor ident).processFrame frame node.stack ident clock
  { stack, processor := Function.update node.processor ident processor }

/-! ## The wire -/

def Payload.body : Payload → Except ProtocolError (List UInt8)
  | .ty msg => .ok msg.bytes
  | .raw data => .ok data
  | .err e => .error e

instance (hdr : Header) (body : Except ProtocolError (List UInt8)) :
    Decidable (FrameWf hdr body) :=
  decidable_of_iff
    ((hdr.kind = .protocolError ↔ body.toOption.isNone) ∧
      (hdr.kind = .protocolError → hdr.dst.portId ≠ 0 ∧ hdr.dst.portId ≠ 255) ∧
      (hdr.anyAll.isSome ↔
        hdr.kind ≠ .protocolError ∧ (hdr.dst.portId = 0 ∨ hdr.dst.portId = 255)) ∧
      hdr.ttl ≤ maxTtl ∧ hdr.kind.isValid)
    (by
      have herr : (body.toOption.isNone = true) ↔ ∃ e, body = .error e := by
        cases body <;> simp [Except.toOption]
      rw [herr]
      exact ⟨fun ⟨a, b, c, d, e⟩ => ⟨a, b, c, d, e⟩, fun ⟨a, b, c, d, e⟩ => ⟨a, b, c, d, e⟩⟩)

/-- What `de_frame` makes of an encoded frame: the hop count is clamped (`pack_meta`). A
header that does not fit its payload, which no sender builds, is not decoded. -/
def wire (frame : Header × Payload) : Option BorrowedFrame :=
  let hdr := { frame.1 with ttl := if frame.1.ttl > maxTtl then maxTtl else frame.1.ttl }
  if h : FrameWf hdr frame.2.body then some ⟨hdr, frame.2.body, h⟩ else none

/-! ## Steps -/

/-- The nodes of a network. -/
abbrev Network (ι κ : Type) := ι → Node κ

namespace Network

variable [DecidableEq ι] [SocketVTable κ]

/-- The first frame in one direction of a link arrives. -/
def deliver (T : Topology ι) (n : Network ι κ) (link : Link ι) (clock : FrameClock) :
    Option (Network ι κ) :=
  match T.ends link with
  | none => none
  | some e =>
    match (n e.sender).pop e.sendIdent with
    | none => none
    | some (frame, node) =>
      let n := Function.update n e.sender node
      match wire frame with
      | none => some n
      | some frame =>
        some (Function.update n e.receiver ((n e.receiver).receive e.recvIdent frame clock))

/-- Any frame arrives, at any time before the horizon. -/
def Step (T : Topology ι) (horizon : Nat) (n n' : Network ι κ) : Prop :=
  ∃ link clock, clock.check < horizon ∧ clock.send.later < horizon ∧
    n.deliver T link clock = some n'

/-- A node sends a typed message. -/
def send (n : Network ι κ) (v : ι) (hdr : Header) (msg : Msg) (clock : Clock) :
    Except NetStackSendError Unit × Network ι κ :=
  let (res, stack) := (n v).stack.sendTy hdr msg clock
  (res, Function.update n v { n v with stack })

end Network

/-! ## Endpoints -/

/-- The header of `send_request` from the client socket on `port` to a named port. -/
def requestHdr (port : UInt8) (dst : Address) (trafficClass : TrafficClass) : Header :=
  { src := ⟨0, 0, port⟩, dst, anyAll := none, kind := .endpointReq, trafficClass,
    ttl := defaultTtl }

/-- The header of `respond_owned`. -/
def responseHdr (req : Header) : Header :=
  { src := req.dst, dst := req.src, anyAll := none, kind := .endpointResp,
    trafficClass := req.trafficClass, ttl := defaultTtl }

end Ergot
