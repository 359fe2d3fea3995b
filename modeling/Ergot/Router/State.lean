import Ergot.Router.Lease

/-!
# The router profile: state, registration and routing

`Router` (router.rs:378): direct slots, seed-assigned routes, node claims, and in
bridge mode an upstream port.

- Interface idents are `u8`s below `N`, and `N ≤ 255` is checked when a router is
  constructed (router.rs:420), so it is a field here. With it the ident search
  after the `is_full` check cannot fail (`freeIdent_isSome`).
- An RNG is what it puts out: the sequence of its outputs and the number drawn.
- A method that returns `&mut EdgePort` is modelled by the port and the function
  that puts it back (`PortMut`).
-/

namespace Ergot

/-- A directly connected downstream interface slot (router.rs:78). -/
structure Slot (σ : Type) where
  ident : UInt8
  port : EdgePort σ
  netId : UInt16
deriving DecidableEq

/-- A seed lease held by a bridge (interface_manager/mod.rs:109). -/
structure SeedLease where
  netId : UInt16
  refreshAddr : Address
  releaseAddr : Address
  refreshToken : Token
  expiresSeconds : UInt16
  maxRefreshSeconds : UInt16
  minRefreshSeconds : UInt16
deriving DecidableEq

/-- Routing metadata of a seed-assigned network (router.rs:344). -/
structure SeedRoute where
  viaIdent : UInt8
  parent : Option SeedLease
deriving DecidableEq

/-- Reserved ident of the upstream interface. -/
def upstreamIdent : UInt8 := 255

/-- The outputs of a random number generator, and how many were drawn. -/
structure Rng where
  out : Nat → UInt64
  pos : Nat

/-- `next_u64`. -/
def Rng.next (g : Rng) : UInt64 × Rng := (g.out g.pos, { g with pos := g.pos + 1 })

/-- A router profile (router.rs:378). -/
structure Router (σ : Type) (N S C : Nat) where
  slots : HeaplessVec (Slot σ) N
  /-- Key = assigned net id, scope = requesting net id. -/
  seedRoutes : LeaseTable UInt16 SeedRoute S
  /-- Key = node id, scope = bus net id, extra = nonce. -/
  nodeClaims : LeaseTable UInt8 UInt64 C
  rng : Rng
  upstream : Option (EdgePort σ)
  identSpace : N ≤ 255

/-- Whether a slot is the direct link to `netId`; a pending slot is not. -/
def Slot.serves {σ : Type} (netId : UInt16) (s : Slot σ) : Bool := s.netId ≠ 0 ∧ s.netId = netId

inductive RegisterError
  | full | netIdsExhausted | bridgeRequiresSeedAssignment
deriving DecidableEq, Repr

inductive DeregisterError
  | notFound
deriving DecidableEq, Repr

/-- The lowest ident in `0..N` that no slot has. -/
def freeIdent {σ : Type} (slots : List (Slot σ)) (N : Nat) : Option UInt8 :=
  ((List.range N).map UInt8.ofNat).find? fun id => !slots.any fun s => s.ident = id

/-- Pigeonhole: `N` distinct idents and fewer than `N` slots. -/
theorem freeIdent_isSome {σ : Type} {slots : List (Slot σ)} {N : Nat} (hN : N ≤ 255)
    (h : slots.length < N) : (freeIdent slots N).isSome := by
  rw [freeIdent, List.find?_isSome]
  by_contra hall
  push Not at hall
  have hsub : (List.range N).map UInt8.ofNat ⊆ slots.map Slot.ident := by
    intro id hid
    have hused : ∃ s ∈ slots, s.ident = id := by simpa using hall id hid
    obtain ⟨s, hs, rfl⟩ := hused
    exact List.mem_map_of_mem hs
  have hnodup : ((List.range N).map UInt8.ofNat).Nodup := by
    refine List.Nodup.map_on ?_ List.nodup_range
    intro x hx y hy hxy
    have hx : x < 256 := by have := List.mem_range.mp hx; omega
    have hy : y < 256 := by have := List.mem_range.mp hy; omega
    have := congrArg UInt8.toNat hxy
    rwa [UInt8.toNat_ofNat_of_lt' hx, UInt8.toNat_ofNat_of_lt' hy] at this
  have hle := (hnodup.subperm hsub).length_le
  simp only [List.length_map, List.length_range] at hle
  omega

namespace Router

/-! The numbers of slots of the routers in the examples. -/

theorem one_slot : 1 ≤ 255 := by decide

theorem two_slots : 2 ≤ 255 := by decide

theorem four_slots : 4 ≤ 255 := by decide

variable {σ : Type} {N S C : Nat}

/-- `Router::new`: a root router. -/
def new (rng : Rng) (h : N ≤ 255) : Router σ N S C :=
  { slots := .empty, seedRoutes := .new, nodeClaims := .new, rng, upstream := none,
    identSpace := h }

/-- `Router::new_bridge`: a router with an upstream interface. -/
def newBridge (rng : Rng) (upstreamSink : σ) (h : N ≤ 255) : Router σ N S C :=
  { slots := .empty, seedRoutes := .new, nodeClaims := .new, rng,
    upstream := some (.newTarget upstreamSink), identSpace := h }

/-- `Router::has_upstream`. -/
def hasUpstream (r : Router σ N S C) : Bool := r.upstream.isSome

/-- The net id the upstream interface is `Active` with. -/
def upstreamNetId (r : Router σ N S C) : Option UInt16 := r.upstream.bind EdgePort.netId

/-- `Router::net_id_in_use`. -/
def netIdInUse (r : Router σ N S C) (netId : UInt16) : Bool :=
  r.slots.toList.any (fun s => s.netId = netId)
    || r.seedRoutes.containsKey netId
    || r.upstreamNetId = some netId

/-- `Router::alloc_net_id`: the lowest free net id in `1..u16::MAX`. -/
def allocNetId (r : Router σ N S C) : Option UInt16 :=
  ((List.range' 1 65534).map UInt16.ofNat).find? fun id => !r.netIdInUse id

/-- `self.seed_routes.gc(now)`. -/
def gcSeed (r : Router σ N S C) (now : Nat) : Router σ N S C :=
  { r with seedRoutes := r.seedRoutes.gc now }

/-- `self.node_claims.gc(now)`. -/
def gcClaims (r : Router σ N S C) (now : Nat) : Router σ N S C :=
  { r with nodeClaims := r.nodeClaims.gc now }

/-! ## Registration -/

/-- Push a slot; both registrations look for a free ident after the `is_full`
check and then push. -/
def pushSlot (r : Router σ N S C) (h : r.slots.toList.length < N)
    (slot : UInt8 → Slot σ) : UInt8 × Router σ N S C :=
  let ident := (freeIdent r.slots.toList N).get (freeIdent_isSome r.identSpace h)
  (ident, { r with slots := ⟨r.slots.toList ++ [slot ident], by rw [List.length_append]; exact h⟩ })

/-- `Router::register_interface`. -/
def registerInterface (r : Router σ N S C) (sink : σ) (now : Nat) :
    Except RegisterError UInt8 × Router σ N S C :=
  if r.hasUpstream then (.error .bridgeRequiresSeedAssignment, r)
  else
    let r := r.gcSeed now
    if h : r.slots.toList.length < N then
      match r.allocNetId with
      | none => (.error .netIdsExhausted, r)
      | some netId =>
        let state := .active netId centralNodeId
        let (ident, r) := r.pushSlot h fun ident =>
          { ident, port := .newController sink state, netId }
        (.ok ident, r)
    else (.error .full, r)

/-- `Router::register_interface_pending`. -/
def registerInterfacePending (r : Router σ N S C) (sink : σ) :
    Except RegisterError UInt8 × Router σ N S C :=
  if h : r.slots.toList.length < N then
    let (ident, r) := r.pushSlot h fun ident =>
      { ident, port := .newController sink .down, netId := 0 }
    (.ok ident, r)
  else (.error .full, r)

/-- `Router::deregister_interface`. The seed routes through the interface are
tombstoned, with the grace anchored to now; its node claims are dropped. -/
def deregisterInterface (r : Router σ N S C) (ident : UInt8) (now : Nat) :
    Except DeregisterError Unit × Router σ N S C :=
  match h : r.slots.toList.findIdx? fun s => s.ident = ident with
  | none => (.error .notFound, r)
  | some pos =>
    have hpos : pos < r.slots.toList.length := (List.findIdx?_eq_some_iff_getElem.mp h).1
    let (slot, slots) := r.slots.swapRemove pos hpos
    let clearTime := now + secs tombstoneDurationSecs
    let seedRoutes := r.seedRoutes.mapEntries fun e =>
      if e.extra.viaIdent = ident then { e with kind := .tombstone clearTime } else e
    (.ok (), { r with slots, seedRoutes, nodeClaims := r.nodeClaims.dropScope slot.netId })

/-- `Router::net_id_of`. -/
def netIdOf (r : Router σ N S C) (ident : UInt8) : Option UInt16 :=
  (r.slots.toList.find? fun s => s.ident = ident).map Slot.netId

/-! ## Routing -/

/-- A `&mut EdgePort` into a router: the port, and the router once the borrow
ends with the port in some new state. -/
structure PortMut (σ : Type) (N S C : Nat) where
  port : EdgePort σ
  putBack : EdgePort σ → Router σ N S C

/-- Borrow the port of the first slot that satisfies `p`, which is `slot`. -/
def slotMut (r : Router σ N S C) (p : Slot σ → Bool) (slot : Slot σ) : PortMut σ N S C :=
  ⟨slot.port, fun port => { r with slots := r.slots.modifyFirst p fun s => { s with port } }⟩

/-- `Router::find_upstream`. -/
def findUpstream (r : Router σ N S C) (source : Option UInt8) :
    Except InterfaceSendError (PortMut σ N S C) :=
  match r.upstream with
  | none => .error .noRouteToDest
  | some up =>
    if source = some upstreamIdent then .error .routingLoop
    else .ok ⟨up, fun port => { r with upstream := some port }⟩

/-- What `Router::find` does once the seed routes are aged. -/
def findAged (r : Router σ N S C) (hdr : Header) (source : Option UInt8) (later : Nat) :
    Except InterfaceSendError (PortMut σ N S C) :=
  -- direct link lookup
  match r.slots.toList.find? (Slot.serves hdr.dst.networkId) with
  | some slot =>
    if hdr.dst.nodeId = centralNodeId then .error .destinationLocal
    else if source = some slot.ident then .error .routingLoop
    else .ok (r.slotMut (Slot.serves hdr.dst.networkId) slot)
  | none =>
    -- seed route lookup, by key alone
    match r.seedRoutes.byKey hdr.dst.networkId with
    | none => r.findUpstream source
    | some entry =>
      if entry.kind.isActive later then
        let viaIdent := entry.extra.viaIdent
        if source = some viaIdent then .error .routingLoop
        else
          match r.slots.toList.find? fun s => s.ident = viaIdent with
          | none => .error .noRouteToDest
          | some slot => .ok (r.slotMut (fun s => s.ident = viaIdent) slot)
      else .error .noRouteToDest

/-- `Router::find`. -/
def find (r : Router σ N S C) (hdr : Header) (source : Option UInt8) (clock : Clock) :
    Except InterfaceSendError (PortMut σ N S C) × Router σ N S C :=
  if hdr.dst.portId = 0 ∧ hdr.anyAll.isNone then (.error .anyPortMissingKey, r)
  else
    let r := r.gcSeed clock.now
    (r.findAged hdr source clock.later, r)

/-- Look for the port and, if there is one, send through it. -/
def findThen (r : Router σ N S C) (hdr : Header) (source : Option UInt8) (clock : Clock)
    (use : EdgePort σ → Except InterfaceSendError Unit × EdgePort σ) :
    Except InterfaceSendError Unit × Router σ N S C :=
  match r.find hdr source clock with
  | (.error e, r) => (.error e, r)
  | (.ok ref, _) => ((use ref.port).1, ref.putBack (use ref.port).2)

/-! ## Sending -/

/-- The loop variables of a flood. -/
structure Flood where
  anyGood : Bool
  genuine : Option InterfaceSendError

/-- `fold_broadcast_leg`: fold one leg's result into the loop variables. -/
def foldBroadcastLeg (res : Except InterfaceSendError Unit) (acc : Flood) : Flood :=
  match res with
  | .ok () => { acc with anyGood := true }
  | .error .noRouteToDest | .error .routingLoop | .error .destinationLocal => acc
  | .error e => { acc with genuine := some e }

/-- What a flood reports once every leg has been tried. -/
def Flood.result (acc : Flood) (defaultError : InterfaceSendError) :
    Except InterfaceSendError Unit :=
  if acc.anyGood then .ok ()
  else
    match acc.genuine with
    | some e => .error e
    | none => .error defaultError

/-- The header with the destination of a downstream broadcast leg. -/
def legHdr (hdr : Header) (netId : UInt16) : Header :=
  { hdr with dst := { hdr.dst with networkId := netId, nodeId := edgeNodeId } }

variable [InterfaceSink σ]

/-- One turn of the loop in `Router::send`: every leg gets its own header, and
pending slots are skipped. -/
def sendLeg (hdr : Header) (data : Msg) (acc : Flood) (slot : Slot σ) : Flood × Slot σ :=
  if slot.netId = 0 then (acc, slot)
  else
    let (res, port) := slot.port.send (legHdr hdr slot.netId) data
    (foldBroadcastLeg res acc, { slot with port })

/-- `Router::send`. -/
def send (r : Router σ N S C) (hdr : Header) (data : Msg) (clock : Clock) :
    Except InterfaceSendError Unit × Router σ N S C :=
  match hdr.decrementTtl with
  | .error e => (.error e, r)
  | .ok hdr =>
    if hdr.dst.portId = 255 then
      if hdr.anyAll.isNone then (.error .anyPortMissingKey, r)
      else
        let (acc, slots) := r.slots.forEach (sendLeg hdr data) ⟨false, none⟩
        match r.upstream with
        | none => (acc.result .noRouteToDest, { r with slots })
        | some up =>
          let (res, up) := up.send hdr data
          ((foldBroadcastLeg res acc).result .noRouteToDest,
            { r with slots, upstream := some up })
    else r.findThen hdr none clock fun port => port.send hdr data

/-- `Router::send_err`. -/
def sendErr (r : Router σ N S C) (hdr : Header) (err : ProtocolError) (source : Option UInt8)
    (clock : Clock) : Except InterfaceSendError Unit × Router σ N S C :=
  match hdr.decrementTtl with
  | .error e => (.error e, r)
  | .ok hdr => r.findThen hdr source clock fun port => port.sendErr hdr err

/-- The loop variables of `Router::send_raw`: its one header is rewritten as the
loop goes. -/
structure RawFlood where
  hdr : Header
  defaultError : InterfaceSendError
  acc : Flood

/-- One turn of the loop in `Router::send_raw`: only the source is skipped. -/
def sendRawLeg (data : List UInt8) (source : UInt8) (st : RawFlood) (slot : Slot σ) :
    RawFlood × Slot σ :=
  if source = slot.ident then (st, slot)
  else
    let hdr := legHdr st.hdr slot.netId
    let (res, port) := slot.port.sendRaw hdr data
    ({ hdr, defaultError := .noRouteToDest, acc := foldBroadcastLeg res st.acc },
      { slot with port })

/-- `Router::send_raw`. -/
def sendRaw (r : Router σ N S C) (hdr : Header) (data : List UInt8) (source : UInt8)
    (clock : Clock) : Except InterfaceSendError Unit × Router σ N S C :=
  match hdr.decrementTtl with
  | .error e => (.error e, r)
  | .ok hdr =>
    if hdr.dst.portId = 255 then
      if hdr.anyAll.isNone then (.error .anyPortMissingKey, r)
      else if r.slots.toList.isEmpty ∧ r.upstream.isNone then (.error .noRouteToDest, r)
      else
        let (st, slots) :=
          r.slots.forEach (sendRawLeg data source) ⟨hdr, .routingLoop, ⟨false, none⟩⟩
        let r := { r with slots }
        match r.upstream with
        | none => (st.acc.result st.defaultError, r)
        | some up =>
          if source = upstreamIdent then (st.acc.result st.defaultError, r)
          else
            -- the header still carries the last leg's destination
            let (res, up) := up.sendRaw st.hdr data
            ((foldBroadcastLeg res st.acc).result .noRouteToDest, { r with upstream := some up })
    else r.findThen hdr (some source) clock fun port => port.sendRaw hdr data

/-! ## Interface states -/

omit [InterfaceSink σ]

/-- `Profile::interface_state`. -/
def interfaceState (r : Router σ N S C) (ident : UInt8) : Option InterfaceState :=
  if ident = upstreamIdent then r.upstream.map EdgePort.state
  else (r.slots.toList.find? fun s => s.ident = ident).map fun s => s.port.state

/-- `Profile::set_interface_state`. -/
def setInterfaceState (r : Router σ N S C) (ident : UInt8) (state : InterfaceState) :
    Except SetStateError Unit × Router σ N S C :=
  if ident = upstreamIdent then
    match r.upstream with
    | none => (.error .interfaceNotFound, r)
    | some up => ((up.setState state).1, { r with upstream := some (up.setState state).2 })
  else
    match r.slots.toList.find? fun s => s.ident = ident with
    | none => (.error .interfaceNotFound, r)
    | some slot =>
      ((slot.port.setState state).1,
        { r with slots := r.slots.modifyFirst (fun s => s.ident = ident) fun s =>
            { s with port := (s.port.setState state).2 } })

/-- `Profile::reassign_interface_net_id`. -/
def reassignInterfaceNetId (r : Router σ N S C) (ident : UInt8) (newNetId : UInt16) :
    Except SetStateError Unit × Router σ N S C :=
  if newNetId = 0
      ∨ r.slots.toList.any (fun s => s.ident ≠ ident ∧ s.netId = newNetId)
      ∨ r.seedRoutes.containsKey newNetId
      ∨ r.upstreamNetId = some newNetId then
    (.error .netIdInUse, r)
  else
    match r.slots.toList.find? fun s => s.ident = ident with
    | none => (.error .interfaceNotFound, r)
    | some slot =>
      let nodeClaims :=
        if slot.netId ≠ newNetId then r.nodeClaims.dropScope slot.netId else r.nodeClaims
      let state := .active newNetId centralNodeId
      ((slot.port.setState state).1,
        { r with
          nodeClaims
          slots := r.slots.modifyFirst (fun s => s.ident = ident) fun s =>
            { s with netId := newNetId, port := (s.port.setState state).2 } })

/-- `Profile::is_transit_net`. -/
def isTransitNet (r : Router σ N S C) (netId : UInt16) (now : Nat) :
    Bool × Router σ N S C :=
  if netId = 0 then (false, r)
  else if r.slots.toList.any fun s => s.netId = netId then (true, r)
  else
    let (known, seedRoutes) := r.seedRoutes.containsKeyAt netId now
    (known, { r with seedRoutes })

end Router

end Ergot
