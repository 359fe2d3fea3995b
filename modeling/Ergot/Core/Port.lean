import Ergot.Core.Frame

/-!
# Interface states, sinks and edge ports

`EdgePort` (edge_port.rs) is one side of a point-to-point link: the outgoing
sink, the interface state and the two node ids of the link. It is the only place
where a frame leaves the stack, so it decides what the outgoing header looks
like:

- a source with network id 0 gets this interface's network id, and the node id 0
  gets the port's own node id;
- a broadcast is addressed to the other node of the link;
- a frame addressed to the port itself is handed back as `DestinationLocal`.

The sink behind a port is generic, as `InterfaceSink` is a trait in the source.
`InterfaceSink.tapped` is the same sink with a log of the frames offered to it.
-/

namespace Ergot

/-- The state of an interface (interface_manager/mod.rs:533). -/
inductive InterfaceState
  | down
  | inactive
  | activeLocal (nodeId : UInt8)
  | active (netId : UInt16) (nodeId : UInt8)
deriving DecidableEq, Repr

/-- Node id of the central (controller/router) side of a link. -/
def centralNodeId : UInt8 := 1

/-- Node id of the edge (target/downstream) side of a link. -/
def edgeNodeId : UInt8 := 2

/-- `InterfaceState::edge_link_local`. -/
def InterfaceState.edgeLinkLocal : InterfaceState := .active 0 edgeNodeId

inductive SetStateError
  | interfaceNotFound | invalidNodeId | netIdInUse
deriving DecidableEq, Repr

/-- What is put on an interface: a typed message, raw bytes or an error. -/
inductive Payload
  | ty (msg : Msg)
  | raw (data : List UInt8)
  | err (e : ProtocolError)
deriving DecidableEq

/-- The sink side of an interface. The Boolean is the `Result<(), ()>`. -/
class InterfaceSink (σ : Type) where
  mtu : σ → UInt16
  sendTy : σ → Header → Msg → Bool × σ
  sendRaw : σ → Header → List UInt8 → Bool × σ
  sendErr : σ → Header → ProtocolError → Bool × σ

/-- A sink that logs every frame offered to it, accepted or not. -/
instance InterfaceSink.tapped {σ : Type} [InterfaceSink σ] :
    InterfaceSink (Tapped (Header × Payload) σ) where
  mtu s := mtu s.inner
  sendTy s hdr msg :=
    ((sendTy s.inner hdr msg).1, ⟨(sendTy s.inner hdr msg).2, s.log ++ [(hdr, .ty msg)]⟩)
  sendRaw s hdr data :=
    ((sendRaw s.inner hdr data).1, ⟨(sendRaw s.inner hdr data).2, s.log ++ [(hdr, .raw data)]⟩)
  sendErr s hdr e :=
    ((sendErr s.inner hdr e).1, ⟨(sendErr s.inner hdr e).2, s.log ++ [(hdr, .err e)]⟩)

/-- Size of a payload on the wire: a type's `postcard` bytes, raw bytes, or an error
code with its arguments. -/
def Payload.size : Payload → Nat
  | .ty msg => msg.bytes.length
  | .raw data => data.length
  | .err _ => 4

/-- The sink of a packet interface (`framed_stream::Sink`) at the level of frames: a
bounded queue that takes what fits the MTU with the largest header. As in the
source, each method refuses the other methods' frame kinds. -/
structure FrameQueue where
  mtu : UInt16
  room : Nat
  frames : List (Header × Payload)
deriving DecidableEq

namespace FrameQueue

/-- Whether a frame is taken. -/
def admits (q : FrameQueue) (payload : Payload) : Bool :=
  q.frames.length < q.room ∧ maxHdrEncodedSize + payload.size ≤ q.mtu.toNat

def offer (q : FrameQueue) (hdr : Header) (payload : Payload) (isErr : Bool) : Bool × FrameQueue :=
  if decide (hdr.kind = .protocolError) = isErr ∧ q.admits payload then
    (true, { q with frames := q.frames ++ [(hdr, payload)] })
  else (false, q)

instance : InterfaceSink FrameQueue where
  mtu q := q.mtu
  sendTy q hdr msg := q.offer hdr (.ty msg) false
  sendRaw q hdr data := q.offer hdr (.raw data) false
  sendErr q hdr e := q.offer hdr (.err e) true

end FrameQueue

/-- A single point-to-point interface port. -/
structure EdgePort (σ : Type) where
  sink : σ
  state : InterfaceState
  ownNodeId : UInt8
  otherNodeId : UInt8
deriving DecidableEq

namespace EdgePort

variable {σ : Type}

/-- A port in the "target" (edge) role. -/
def newTarget (sink : σ) : EdgePort σ :=
  { sink, state := .down, ownNodeId := edgeNodeId, otherNodeId := centralNodeId }

/-- A port in the "controller" (central/router) role. -/
def newController (sink : σ) (state : InterfaceState) : EdgePort σ :=
  { sink, state, ownNodeId := centralNodeId, otherNodeId := edgeNodeId }

/-- The network id of an `Active` port. -/
def netId (p : EdgePort σ) : Option UInt16 :=
  match p.state with
  | .active netId _ => some netId
  | _ => none

/-- `EdgePort::set_state`. -/
def setState (p : EdgePort σ) (state : InterfaceState) :
    Except SetStateError Unit × EdgePort σ :=
  match state with
  | .down | .inactive => (.ok (), { p with state })
  | .activeLocal nodeId =>
    if nodeId = 0 ∨ nodeId = 255 then (.error .invalidNodeId, p)
    else (.ok (), { p with ownNodeId := nodeId, state })
  | .active _ nodeId =>
    if nodeId = 0 ∨ nodeId = 255 then (.error .invalidNodeId, p)
    else (.ok (), { p with ownNodeId := nodeId, state })

/-- The source rewrite of `common_send`: no frame leaves with network id 0. -/
def stampSrc (p : EdgePort σ) (netId : UInt16) (src : Address) : Address :=
  if src.networkId = 0 then
    { src with
      networkId := netId
      nodeId := if src.nodeId = 0 then p.ownNodeId else src.nodeId }
  else src

/-- The destination rewrite of `common_send`: a broadcast goes to the remote node. -/
def stampDst (p : EdgePort σ) (netId : UInt16) (dst : Address) : Address :=
  if dst.portId = 255 then { dst with networkId := netId, nodeId := p.otherNodeId } else dst

@[simp] theorem stampDst_portId (p : EdgePort σ) (netId : UInt16) (dst : Address) :
    (p.stampDst netId dst).portId = dst.portId := by
  unfold stampDst
  split <;> rfl

/-- `EdgePort::common_send`: the header the sink is given, or why there is none. -/
def commonSend (p : EdgePort σ) (hdr : Header) : Except InterfaceSendError Header :=
  match p.state with
  | .active netId _ =>
    if hdr.dst.networkId = netId ∧ hdr.dst.nodeId = p.ownNodeId then
      .error .destinationLocal
    else
      let hdr := { hdr with src := p.stampSrc netId hdr.src, dst := p.stampDst netId hdr.dst }
      if (hdr.dst.portId = 0 ∨ hdr.dst.portId = 255) ∧ hdr.anyAll.isNone then
        .error .anyPortMissingKey
      else
        .ok hdr
  | _ => .error .noRouteToDest

/-- A sink's answer as the port reports it: a refusal is `InterfaceFull`. -/
def report (p : EdgePort σ) (r : Bool × σ) : Except InterfaceSendError Unit × EdgePort σ :=
  (if r.1 then .ok () else .error .interfaceFull, { p with sink := r.2 })

variable [InterfaceSink σ]

/-- `EdgePort::send`. -/
def send (p : EdgePort σ) (hdr : Header) (data : Msg) :
    Except InterfaceSendError Unit × EdgePort σ :=
  match p.commonSend hdr with
  | .error e => (.error e, p)
  | .ok hdr => p.report (InterfaceSink.sendTy p.sink hdr data)

/-- `EdgePort::send_err`. -/
def sendErr (p : EdgePort σ) (hdr : Header) (err : ProtocolError) :
    Except InterfaceSendError Unit × EdgePort σ :=
  match p.commonSend hdr with
  | .error e => (.error e, p)
  | .ok hdr => p.report (InterfaceSink.sendErr p.sink hdr err)

/-- `EdgePort::send_raw`: the MTU is checked before anything else. -/
def sendRaw (p : EdgePort σ) (hdr : Header) (data : List UInt8) :
    Except InterfaceSendError Unit × EdgePort σ :=
  if maxHdrEncodedSize + data.length > (InterfaceSink.mtu p.sink).toNat then
    (.error (.packetTooBig (InterfaceSink.mtu p.sink)), p)
  else
    match p.commonSend hdr with
    | .error e => (.error e, p)
    | .ok hdr => p.report (InterfaceSink.sendRaw p.sink hdr data)

/-- Whether raw bytes fit the interface. -/
def fits (p : EdgePort σ) (data : List UInt8) : Prop :=
  maxHdrEncodedSize + data.length ≤ (InterfaceSink.mtu p.sink).toNat

instance (p : EdgePort σ) (data : List UInt8) : Decidable (p.fits data) :=
  inferInstanceAs (Decidable (_ ≤ _))

/-- What a port answers to a send. -/
def answer (p : EdgePort σ) (hdr : Header) : Payload → Except InterfaceSendError Unit
  | .ty msg => (p.send hdr msg).1
  | .raw data => (p.sendRaw hdr data).1
  | .err e => (p.sendErr hdr e).1

/-- The same, with the port afterwards. -/
def put (p : EdgePort σ) (hdr : Header) : Payload → Except InterfaceSendError Unit × EdgePort σ
  | .ty msg => p.send hdr msg
  | .raw data => p.sendRaw hdr data
  | .err e => p.sendErr hdr e

end EdgePort

end Ergot
