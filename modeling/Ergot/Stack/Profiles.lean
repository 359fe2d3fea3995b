import Ergot.Stack.NetStack

/-!
# The profiles, and an owned socket

The three profiles of interface_manager/profiles, as instances of `Profile`, and the
function table of `raw_owned::Socket`, the socket that endpoints and topics are built
on.

- `Null` has no interface at all.
- `DirectEdge` has one port, and no table: a frame that came in is never sent out.
- `Router` is in `Ergot.Router.State`.
-/

namespace Ergot

/-! ## Null -/

/-- The null profile (null.rs). -/
structure Null where

/-- What every send of the null profile answers. -/
def Null.answer (hdr : Header) : Except InterfaceSendError Unit :=
  if hdr.dst.netNodeAny then .error .destinationLocal else .error .noRouteToDest

instance : Profile Null Unit where
  send p hdr _ _ := (Null.answer hdr, p)
  sendErr p hdr _ _ _ := (Null.answer hdr, p)
  sendRaw p hdr _ _ _ := (Null.answer hdr, p)
  interfaceState _ _ := none
  setInterfaceState p _ _ := (.error .interfaceNotFound, p)

/-! ## DirectEdge -/

/-- The edge device profile (direct_edge.rs:43). -/
structure DirectEdge (σ : Type) where
  port : EdgePort σ

namespace DirectEdge

variable {σ : Type}

/-- `DirectEdge::new_target`. -/
def newTarget (sink : σ) : DirectEdge σ := ⟨.newTarget sink⟩

/-- `DirectEdge::new_controller`. -/
def newController (sink : σ) (state : InterfaceState) : DirectEdge σ :=
  ⟨.newController sink state⟩

/-- What `manager.port` did, with the port back in its place. -/
def withPort (r : Except InterfaceSendError Unit × EdgePort σ) :
    Except InterfaceSendError Unit × DirectEdge σ := (r.1, ⟨r.2⟩)

variable [InterfaceSink σ]

/-- `DirectEdge::send`. -/
def send (e : DirectEdge σ) (hdr : Header) (data : Msg) :
    Except InterfaceSendError Unit × DirectEdge σ :=
  match hdr.decrementTtl with
  | .error err => (.error err, e)
  | .ok hdr => withPort (e.port.send hdr data)

/-- `DirectEdge::send_err`: an error that came in goes nowhere. -/
def sendErr (e : DirectEdge σ) (hdr : Header) (err : ProtocolError) (source : Option Unit) :
    Except InterfaceSendError Unit × DirectEdge σ :=
  if source.isSome then (.error .routingLoop, e)
  else
    match hdr.decrementTtl with
    | .error err => (.error err, e)
    | .ok hdr => withPort (e.port.sendErr hdr err)

/-- `DirectEdge::send_raw`: a raw message must have come from outside. -/
def sendRaw (e : DirectEdge σ) : Except InterfaceSendError Unit × DirectEdge σ :=
  (.error .routingLoop, e)

instance : Profile (DirectEdge σ) Unit where
  send e hdr msg _ := e.send hdr msg
  sendErr e hdr err source _ := e.sendErr hdr err source
  sendRaw e _ _ _ _ := e.sendRaw
  interfaceState e _ := some e.port.state
  setInterfaceState e _ state :=
    ((e.port.setState state).1, ⟨(e.port.setState state).2⟩)

end DirectEdge

/-! ## Router -/

instance {σ : Type} [InterfaceSink σ] {N S C : Nat} : Profile (Router σ N S C) UInt8 where
  send r hdr msg clock := r.send hdr msg clock
  sendErr r hdr err source clock := r.sendErr hdr err source clock
  sendRaw r hdr data source clock := r.sendRaw hdr data source clock
  interfaceState r ident := r.interfaceState ident
  setInterfaceState r ident state := r.setInterfaceState ident state
  isNodeClaimed r netId nodeId now := r.isNodeClaimed netId nodeId now
  isTransitNet r netId now := r.isTransitNet netId now

/-! ## A socket of owned messages -/

/-- `raw_owned::Socket` over a bounded storage; `decode` is `postcard::from_bytes`
at the type of the socket. -/
structure OwnedSocket where
  ty : TypeId
  decode : List UInt8 → Option Msg
  capacity : Nat
  received : List (Header × Except ProtocolError Msg)

namespace OwnedSocket

def isFull (s : OwnedSocket) : Bool := s.received.length ≥ s.capacity

/-- `push` of the storage, which does nothing when it is full. -/
def push (s : OwnedSocket) (hdr : Header) (t : Except ProtocolError Msg) : OwnedSocket :=
  if s.isFull then s else { s with received := s.received ++ [(hdr, t)] }

/-- `recv_owned`: the type is compared before anything is stored. -/
def recvOwned (s : OwnedSocket) (that : Msg) (hdr : Header) :
    Except SocketSendError Unit × OwnedSocket :=
  if s.ty ≠ that.ty then (.error .typeMismatch, s)
  else if s.isFull then (.error .noSpace, s)
  else (.ok (), s.push hdr (.ok that))

/-- `recv_raw`: a full socket does not look at the bytes. -/
def recvRaw (s : OwnedSocket) (that : List UInt8) (hdr : Header) :
    Except SocketSendError Unit × OwnedSocket :=
  if s.isFull then (.error .noSpace, s)
  else
    match s.decode that with
    | some t => (.ok (), s.push hdr (.ok t))
    | none => (.error .deserFailed, s)

/-- `recv_err`. -/
def recvErr (s : OwnedSocket) (hdr : Header) (err : ProtocolError) : OwnedSocket :=
  s.push hdr (.error err)

instance : SocketVTable OwnedSocket where
  recvOwned s := some s.recvOwned
  recvBor _ := none
  recvRaw s := s.recvRaw
  recvErr s := some s.recvErr

end OwnedSocket

end Ergot
