import Ergot.Router.State

/-!
# Where a router sends a unicast frame

`Router::find` in the terms of a routing table: the interface behind which a network
lies (`route`), and the addresses that are this node's own (`ownSlot`, `Own`).

- `route` looks at the direct slots first, then at the seed routes, then at the
  upstream; a seed route that is not live is a dead end, and so is one through an
  interface that is gone.
- `find_eq` is the specification of `find`: own slot addresses are
  `DestinationLocal`, a route back to the source is `RoutingLoop`, anything else is
  the port of the route.
- `answer` is what comes of a send through the port that was found.
-/

namespace Ergot

/-- The address an `Active` port has: its net id, and the node id of its side of the
link. -/
def EdgePort.address {σ : Type} (p : EdgePort σ) : Option (UInt16 × UInt8) :=
  p.netId.map fun netId => (netId, p.ownNodeId)

namespace EdgePort

variable {σ : Type} {p : EdgePort σ} {hdr : Header}

/-- A port hands a frame back as local exactly at its own address. -/
theorem commonSend_destinationLocal_iff :
    p.commonSend hdr = .error .destinationLocal ↔
      p.address = some (hdr.dst.networkId, hdr.dst.nodeId) := by
  obtain ⟨sink, state, own, other⟩ := p
  cases state with
  | active netId nodeId =>
    simp only [commonSend, address, EdgePort.netId, Option.map_some, Option.some.injEq,
      Prod.mk.injEq]
    constructor
    · intro h
      split at h
      · rename_i hlocal
        exact ⟨hlocal.1.symm, hlocal.2.symm⟩
      · split at h <;> exact nomatch h
    · rintro ⟨rfl, rfl⟩
      simp
  | _ => simp [commonSend, address, EdgePort.netId]

/-- A port never reports a loop. -/
theorem commonSend_ne_routingLoop : p.commonSend hdr ≠ .error .routingLoop := by
  unfold commonSend
  split
  · split
    · exact nofun
    · dsimp only
      split <;> exact nofun
  · exact nofun

theorem report_fst {r : Bool × σ} :
    (p.report r).1 = .ok () ∨ (p.report r).1 = .error .interfaceFull := by
  cases h : r.1 <;> simp [report, h]

variable [InterfaceSink σ]

/-- What `send` reports about the destination. -/
theorem send_destinationLocal_iff {msg : Msg} :
    (p.send hdr msg).1 = .error .destinationLocal ↔
      p.address = some (hdr.dst.networkId, hdr.dst.nodeId) := by
  rw [← commonSend_destinationLocal_iff, send]
  cases h : p.commonSend hdr with
  | error e => simp
  | ok hdr => rcases @report_fst _ p (InterfaceSink.sendTy p.sink hdr msg) with h | h <;> simp [h]

theorem send_ne_routingLoop {msg : Msg} : (p.send hdr msg).1 ≠ .error .routingLoop := by
  rw [send]
  cases h : p.commonSend hdr with
  | error e =>
    rintro ⟨⟩
    exact commonSend_ne_routingLoop h
  | ok hdr => rcases @report_fst _ p (InterfaceSink.sendTy p.sink hdr msg) with h | h <;> simp [h]

/-- What `send_err` reports about the destination. -/
theorem sendErr_destinationLocal_iff {e : ProtocolError} :
    (p.sendErr hdr e).1 = .error .destinationLocal ↔
      p.address = some (hdr.dst.networkId, hdr.dst.nodeId) := by
  rw [← commonSend_destinationLocal_iff, sendErr]
  cases h : p.commonSend hdr with
  | error e => simp
  | ok hdr => rcases @report_fst _ p (InterfaceSink.sendErr p.sink hdr e) with h | h <;> simp [h]

theorem sendErr_ne_routingLoop {e : ProtocolError} :
    (p.sendErr hdr e).1 ≠ .error .routingLoop := by
  rw [sendErr]
  cases h : p.commonSend hdr with
  | error e =>
    rintro ⟨⟩
    exact commonSend_ne_routingLoop h
  | ok hdr => rcases @report_fst _ p (InterfaceSink.sendErr p.sink hdr e) with h | h <;> simp [h]

/-- What `send_raw` reports about the destination: the size comes first. -/
theorem sendRaw_destinationLocal_iff {data : List UInt8} :
    (p.sendRaw hdr data).1 = .error .destinationLocal ↔
      p.fits data ∧ p.address = some (hdr.dst.networkId, hdr.dst.nodeId) := by
  rw [← commonSend_destinationLocal_iff, sendRaw, fits]
  by_cases hfit : maxHdrEncodedSize + data.length > (InterfaceSink.mtu p.sink).toNat
  · rw [if_pos hfit]
    exact iff_of_false nofun fun h => absurd h.1 (Nat.not_le.mpr hfit)
  · rw [if_neg hfit]
    have hfit := Nat.not_lt.mp hfit
    cases h : p.commonSend hdr with
    | error e => simp [hfit]
    | ok hdr =>
      rcases @report_fst _ p (InterfaceSink.sendRaw p.sink hdr data) with h | h <;> simp [h]

theorem sendRaw_ne_routingLoop {data : List UInt8} :
    (p.sendRaw hdr data).1 ≠ .error .routingLoop := by
  rw [sendRaw]
  split
  · exact nofun
  · cases h : p.commonSend hdr with
    | error e =>
      rintro ⟨⟩
      exact commonSend_ne_routingLoop h
    | ok hdr =>
      rcases @report_fst _ p (InterfaceSink.sendRaw p.sink hdr data) with h | h <;> simp [h]

end EdgePort

namespace Router

variable {σ : Type} {N S C : Nat}

/-- The interface that the frames for a network leave by: its ident, and its port if
there is one. -/
def route (r : Router σ N S C) (netId : UInt16) (clock : Clock) :
    Option (UInt8 × Option (EdgePort σ)) :=
  match r.slots.toList.find? (Slot.serves netId) with
  | some slot => some (slot.ident, some slot.port)
  | none =>
    match (r.gcSeed clock.now).seedRoutes.byKey netId with
    | some entry =>
      if entry.kind.isActive clock.later then
        some (entry.extra.viaIdent,
          (r.slots.toList.find? fun s => s.ident = entry.extra.viaIdent).map Slot.port)
      else none
    | none => r.upstream.map fun up => (upstreamIdent, some up)

/-- The address of this node on one of its segments. -/
def ownSlot (r : Router σ N S C) (dst : Address) : Bool :=
  r.slots.toList.any (Slot.serves dst.networkId) ∧ dst.nodeId = centralNodeId

/-- The addresses of a router: `0.0`, the central node of each of its segments, and
the address its upstream port has. -/
def Own (r : Router σ N S C) (dst : Address) : Prop :=
  dst.netNodeAny = true ∨ r.ownSlot dst = true ∨
    r.upstream.bind EdgePort.address = some (dst.networkId, dst.nodeId)

/-- What a send through the route of a frame comes to, when `use` is what the port
answers. -/
def answer (r : Router σ N S C) (dst : Address) (source : Option UInt8) (clock : Clock)
    (use : EdgePort σ → Except InterfaceSendError Unit) : Except InterfaceSendError Unit :=
  if r.ownSlot dst then .error .destinationLocal
  else
    match r.route dst.networkId clock with
    | none => .error .noRouteToDest
    | some (ident, port) =>
      if source = some ident then .error .routingLoop
      else
        match port with
        | none => .error .noRouteToDest
        | some port => use port

theorem gcSeed_slots (r : Router σ N S C) (now : Nat) : (r.gcSeed now).slots = r.slots := rfl

theorem gcSeed_upstream (r : Router σ N S C) (now : Nat) :
    (r.gcSeed now).upstream = r.upstream := rfl

/-- `find` finds the port of the route. -/
theorem findThen_answer (r : Router σ N S C) (hdr : Header) (source : Option UInt8)
    (clock : Clock) (use : EdgePort σ → Except InterfaceSendError Unit × EdgePort σ)
    (hkey : ¬ (hdr.dst.portId = 0 ∧ hdr.anyAll.isNone)) :
    (r.findThen hdr source clock use).1 =
      r.answer hdr.dst source clock fun port => (use port).1 := by
  simp only [findThen, find, if_neg hkey, findAged, answer, ownSlot, route, gcSeed_slots]
  cases hslot : r.slots.toList.find? (Slot.serves hdr.dst.networkId) with
  | some slot =>
    -- a direct link
    have hsome : r.slots.toList.any (Slot.serves hdr.dst.networkId) = true :=
      List.any_eq_true.mpr ⟨slot, List.mem_of_find?_eq_some hslot, List.find?_some hslot⟩
    by_cases hnode : hdr.dst.nodeId = centralNodeId
    · simp [hsome, hnode]
    · by_cases hsource : source = some slot.ident
      · simp [hnode, hsource]
      · simp [hnode, hsource, slotMut]
  | none =>
    have hnone : r.slots.toList.any (Slot.serves hdr.dst.networkId) = false := by
      simpa [List.any_eq_false] using hslot
    cases hkey : (r.gcSeed clock.now).seedRoutes.byKey hdr.dst.networkId with
    | some entry =>
      -- a seed route
      by_cases hactive : entry.kind.isActive clock.later = true
      · by_cases hsource : source = some entry.extra.viaIdent
        · simp [hnone, hactive, hsource]
        · cases hvia : r.slots.toList.find? (fun s => s.ident = entry.extra.viaIdent) with
          | none => simp [hnone, hactive, hsource, hvia]
          | some slot => simp [hnone, hactive, hsource, hvia, slotMut]
      · simp [hnone, hactive]
    | none =>
      -- the default route
      simp only [findUpstream, gcSeed_upstream]
      cases hup : r.upstream with
      | none => simp [hnone]
      | some up =>
        by_cases hsource : source = some upstreamIdent
        · simp [hnone, hsource]
        · simp [hnone, hsource]

/-- What a send answers when its frame is for this node, or loops. -/
theorem answer_eq_destinationLocal_iff {r : Router σ N S C} {dst : Address}
    {source : Option UInt8} {clock : Clock} {use : EdgePort σ → Except InterfaceSendError Unit} :
    r.answer dst source clock use = .error .destinationLocal ↔
      r.ownSlot dst = true ∨
        ∃ ident port, r.route dst.networkId clock = some (ident, some port) ∧
          source ≠ some ident ∧ use port = .error .destinationLocal := by
  unfold answer
  by_cases hown : r.ownSlot dst = true
  · simp [hown]
  · rw [if_neg hown]
    rcases r.route dst.networkId clock with _ | ⟨ident, port⟩
    · simp [hown]
    · by_cases hsource : source = some ident
      · simp [hown, hsource]
      · cases port with
        | none => simp [hown, hsource]
        | some port => simp [hown, hsource]

theorem answer_eq_routingLoop_iff {r : Router σ N S C} {dst : Address}
    {source : Option UInt8} {clock : Clock} {use : EdgePort σ → Except InterfaceSendError Unit}
    (huse : ∀ port, use port ≠ .error .routingLoop) :
    r.answer dst source clock use = .error .routingLoop ↔
      r.ownSlot dst = false ∧
        ∃ ident port, r.route dst.networkId clock = some (ident, port) ∧
          source = some ident := by
  unfold answer
  by_cases hown : r.ownSlot dst = true
  · simp [hown]
  · rw [if_neg hown]
    rcases r.route dst.networkId clock with _ | ⟨ident, port⟩
    · simp
    · by_cases hsource : source = some ident
      · simp [hown, hsource]
      · cases port with
        | none => simp [hsource]
        | some port => simpa [hsource] using huse port

section Unicast

variable [InterfaceSink σ]

/-- `send` of a unicast frame is a send through its route. -/
theorem send_answer (r : Router σ N S C) {hdr : Header} (msg : Msg) (clock : Clock)
    (hkey : ¬ (hdr.dst.portId = 0 ∧ hdr.anyAll.isNone)) (hall : hdr.dst.portId ≠ 255)
    (httl : hdr.ttl ≠ 0) :
    (r.send hdr msg clock).1 =
      r.answer hdr.dst none clock fun port =>
        (port.send { hdr with ttl := hdr.ttl - 1 } msg).1 := by
  simp only [send, Header.decrementTtl_of_ne httl, if_neg hall]
  exact r.findThen_answer _ _ _ _ hkey

/-- `send_raw` of a unicast frame is a send through its route. -/
theorem sendRaw_answer (r : Router σ N S C) {hdr : Header} (data : List UInt8) (source : UInt8)
    (clock : Clock) (hkey : ¬ (hdr.dst.portId = 0 ∧ hdr.anyAll.isNone))
    (hall : hdr.dst.portId ≠ 255) (httl : hdr.ttl ≠ 0) :
    (r.sendRaw hdr data source clock).1 =
      r.answer hdr.dst (some source) clock fun port =>
        (port.sendRaw { hdr with ttl := hdr.ttl - 1 } data).1 := by
  simp only [sendRaw, Header.decrementTtl_of_ne httl, if_neg hall]
  exact r.findThen_answer _ _ _ _ hkey

/-- `send_err` is a send through the route of its frame. -/
theorem sendErr_answer (r : Router σ N S C) {hdr : Header} (e : ProtocolError)
    (source : Option UInt8) (clock : Clock) (hkey : ¬ (hdr.dst.portId = 0 ∧ hdr.anyAll.isNone))
    (httl : hdr.ttl ≠ 0) :
    (r.sendErr hdr e source clock).1 =
      r.answer hdr.dst source clock fun port =>
        (port.sendErr { hdr with ttl := hdr.ttl - 1 } e).1 := by
  simp only [sendErr, Header.decrementTtl_of_ne httl]
  exact r.findThen_answer _ _ _ _ hkey

end Unicast

end Router

end Ergot
