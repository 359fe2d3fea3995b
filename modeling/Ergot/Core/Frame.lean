import Mathlib.Data.UInt

/-!
# Addresses, headers and frames

The data every layer of the stack passes around: `address.rs`, the header types
of `lib.rs`, and the error types of `interface_manager/mod.rs`,
`net_stack/mod.rs` and `socket/mod.rs`.

- `Header` is the in-memory header; `Header.decrementTtl` is the one operation
  on it that can fail.
- `BorrowedFrame` is what `de_frame` (wire_frames.rs:250) hands to a frame
  processor. The decoder only builds headers whose appendix matches the
  destination port and whose kind matches the body; `FrameWf` records that, and
  a frame carries it as a field.
- `Msg` stands for a value of some `T: Serialize`: the type it has and the bytes
  `postcard` writes for it.
-/

namespace Ergot

/-- The Ergot address type (address.rs:103). -/
structure Address where
  networkId : UInt16
  nodeId : UInt8
  portId : UInt8
deriving DecidableEq, Repr

/-- `Address::unknown`. -/
def Address.unknown : Address := ⟨0, 0, 0⟩

/-- `Address::net_node_any`. -/
def Address.netNodeAny (a : Address) : Bool := a.networkId == 0 && a.nodeId == 0

/-- The kind of a frame (lib.rs:42). -/
structure FrameKind where
  val : UInt8
deriving DecidableEq, Repr

namespace FrameKind

def protocolError : FrameKind := ⟨0⟩
def endpointReq : FrameKind := ⟨1⟩
def endpointResp : FrameKind := ⟨2⟩
def topicMsg : FrameKind := ⟨3⟩

/-- Whether this is one of the four wire-representable kinds. -/
def isValid (k : FrameKind) : Bool := k.val ≤ 3

end FrameKind

/-- Key of an endpoint or a topic. -/
structure Key where
  bytes : Vector UInt8 8
deriving DecidableEq

/-- A nonzero name hash. -/
structure NameHash where
  hash : UInt32
  nonzero : hash ≠ 0
deriving DecidableEq

/-- Traffic class of a frame (lib.rs:160). -/
inductive TrafficClass
  | control | normal | bulk | background
deriving DecidableEq, Repr

structure AnyAllAppendix where
  key : Key
  nash : Option NameHash
deriving DecidableEq

structure Header where
  src : Address
  dst : Address
  anyAll : Option AnyAllAppendix
  kind : FrameKind
  /-- `class` in the source. -/
  trafficClass : TrafficClass
  ttl : UInt8
deriving DecidableEq

/-- Largest hop count the 4-bit wire field can carry. -/
def maxTtl : UInt8 := 15

def defaultTtl : UInt8 := maxTtl

/-- The largest encoded size of a header (wire_frames.rs:198). -/
def maxHdrEncodedSize : Nat := 24

/-- A protocol error report, the body of a protocol-error frame (lib.rs:52). -/
inductive ProtocolError
  | reserved
  | sseNoSpace | sseDeserFailed | sseTypeMismatch | sseWhatTheHell
  | iseDestinationLocal | iseNoRouteToDest | iseInterfaceFull | iseInternalError
  | iseAnyPortMissingKey | iseTtlExpired | iseRoutingLoop
  | isePacketTooBig (mtu : UInt16)
  | nsseNoRoute | nsseAnyPortMissingKey | nsseWrongPortKind | nsseAnyPortNotUnique
  | nsseAllPortMissingKey | nsseWouldDeadlock
deriving DecidableEq, Repr

/-- Why a profile could not send (interface_manager/mod.rs:503). -/
inductive InterfaceSendError
  | destinationLocal
  | noRouteToDest
  | interfaceFull
  | internalError
  | anyPortMissingKey
  | ttlExpired
  | routingLoop
  | packetTooBig (mtu : UInt16)
deriving DecidableEq, Repr

/-- Why a socket refused a message (socket/mod.rs:94). -/
inductive SocketSendError
  | noSpace | deserFailed | typeMismatch | whatTheHell
deriving DecidableEq, Repr

/-- Why a `NetStack` send failed (net_stack/mod.rs:69). -/
inductive NetStackSendError
  | socketSend (e : SocketSendError)
  | interfaceSend (e : InterfaceSendError)
  | noRoute
  | anyPortMissingKey
  | wrongPortKind (expected actual : FrameKind)
  | anyPortNotUnique
  | allPortMissingKey
  | wouldDeadlock
deriving DecidableEq, Repr

/-- `Header::decrement_ttl`. -/
def Header.decrementTtl (hdr : Header) : Except InterfaceSendError Header :=
  if hdr.ttl = 0 then .error .ttlExpired else .ok { hdr with ttl := hdr.ttl - 1 }

theorem Header.decrementTtl_of_ne {hdr : Header} (h : hdr.ttl ≠ 0) :
    hdr.decrementTtl = .ok { hdr with ttl := hdr.ttl - 1 } := if_neg h

/-- A header that has a hop left. -/
theorem Header.decrementTtl_ok {hdr hdr' : Header} (h : hdr.decrementTtl = .ok hdr') :
    hdr.ttl ≠ 0 ∧ hdr' = { hdr with ttl := hdr.ttl - 1 } := by
  unfold decrementTtl at h
  split at h
  · cases h
  · next hne =>
    cases h
    exact ⟨hne, rfl⟩

/-- A Rust type, as `TypeId::of` tells it apart from others. -/
abbrev TypeId := Nat

/-- A value of a serializable type: its type and its `postcard` encoding. -/
structure Msg where
  ty : TypeId
  bytes : List UInt8
deriving DecidableEq

/-- What a decoded frame's header and body have in common: only a
protocol-error frame has an error body, and the appendix is there exactly on the
reserved ports (`decode_frame_partial`, wire_frames.rs:113). -/
structure FrameWf (hdr : Header) (body : Except ProtocolError (List UInt8)) : Prop where
  err_kind : hdr.kind = .protocolError ↔ ∃ e, body = .error e
  err_port : hdr.kind = .protocolError → hdr.dst.portId ≠ 0 ∧ hdr.dst.portId ≠ 255
  appendix : hdr.anyAll.isSome ↔
    hdr.kind ≠ .protocolError ∧ (hdr.dst.portId = 0 ∨ hdr.dst.portId = 255)
  ttl : hdr.ttl ≤ maxTtl
  kind : hdr.kind.isValid

/-- A frame as `de_frame` returns it. -/
structure BorrowedFrame where
  hdr : Header
  body : Except ProtocolError (List UInt8)
  wf : FrameWf hdr body

theorem BorrowedFrame.kind_ne (frame : BorrowedFrame) {data : List UInt8}
    (hbody : frame.body = .ok data) : frame.hdr.kind ≠ .protocolError := by
  intro h
  obtain ⟨e, he⟩ := frame.wf.err_kind.mp h
  cases hbody.symm.trans he

/-- A component together with the log of everything handed to it: sinks,
sockets and profiles are observed through it. -/
structure Tapped (ε α : Type) where
  inner : α
  log : List ε

end Ergot
