import Ergot.Router.Route

/-!
# Broadcast floods

Which interfaces of a router a broadcast frame is offered to, by `send_raw` and by
the typed `send`.

- Sinks are tapped, and `interfaces` lists the ports of a router with what the flood
  has to know about them, so that a flood is described interface by interface
  (`sendRaw_logs`, `send_logs`).
- `Iface.receives` is what should be: a copy for every interface that is not pending,
  not the source, `Active` and wide enough. It depends on the interface alone.
- `send_raw` does not skip pending slots, and its last leg's destination is still in
  the header when it comes to the upstream. A port hands a frame for its own address
  back as local, so both show, and `flood_iff` says exactly when they do not.
-/

namespace Ergot

variable {σ : Type} {N S C : Nat}

/-! ## One port -/

/-- Whether a header has the appendix that a reserved port needs. -/
def Header.Keyed (hdr : Header) : Prop :=
  hdr.dst.portId = 0 ∨ hdr.dst.portId = 255 → hdr.anyAll.isSome

theorem Header.Keyed.any {hdr : Header} (h : hdr.Keyed) :
    ¬ (hdr.dst.portId = 0 ∧ hdr.anyAll.isNone) := by
  rintro ⟨hport, hnone⟩
  have hsome := h (.inl hport)
  simp [Option.isNone_iff_eq_none.mp hnone] at hsome

namespace EdgePort

/-- The header of a broadcast frame when it leaves through a port. -/
def outHdr (p : EdgePort σ) (hdr : Header) : Header :=
  match p.netId with
  | some netId => { hdr with src := p.stampSrc netId hdr.src, dst := p.stampDst netId hdr.dst }
  | none => hdr

/-- A header that has an appendix where its port needs one goes out of an `Active` port
that does not have its destination. -/
theorem commonSend_keyed (p : EdgePort σ) {hdr : Header} (hkey : hdr.Keyed) :
    (∃ e, p.commonSend hdr = .error e) ∧
        ¬ (p.address.isSome ∧ p.address ≠ some (hdr.dst.networkId, hdr.dst.nodeId)) ∨
      p.commonSend hdr = .ok (p.outHdr hdr) ∧
        p.address.isSome ∧ p.address ≠ some (hdr.dst.networkId, hdr.dst.nodeId) := by
  obtain ⟨sink, state, own, other⟩ := p
  cases state with
  | active netId nodeId =>
    by_cases hlocal : hdr.dst.networkId = netId ∧ hdr.dst.nodeId = own
    · obtain ⟨rfl, rfl⟩ := hlocal
      left
      exact ⟨⟨.destinationLocal, by simp [commonSend]⟩, by simp [address, EdgePort.netId]⟩
    · right
      have hnone : ¬ ((hdr.dst.portId = 0 ∨ hdr.dst.portId = 255) ∧ hdr.anyAll.isNone = true) := by
        rintro ⟨hp, hn⟩
        have hsome := hkey hp
        simp [Option.isNone_iff_eq_none.mp hn] at hsome
      refine ⟨?_, rfl, ?_⟩
      · simp only [commonSend, if_neg hlocal, stampDst_portId, if_neg hnone]
        rfl
      · rintro h
        simp only [address, EdgePort.netId, Option.map_some, Option.some.injEq,
          Prod.mk.injEq] at h
        exact hlocal ⟨h.1.symm, h.2.symm⟩
  | _ => exact .inl ⟨⟨.noRouteToDest, rfl⟩, by simp [address, EdgePort.netId]⟩

/-- A leg's own destination does not show in the header that leaves. -/
theorem outHdr_legHdr (p : EdgePort σ) {hdr : Header} (hall : hdr.dst.portId = 255)
    (hp : p.address.isSome) (netId : UInt16) :
    p.outHdr (Router.legHdr hdr netId) = p.outHdr hdr := by
  obtain ⟨sink, state, own, other⟩ := p
  cases state with
  | active netId nodeId => simp [outHdr, EdgePort.netId, Router.legHdr, stampDst, hall]
  | _ => simp [address, EdgePort.netId] at hp

variable [InterfaceSink σ]

/-- The log of a port after a raw send. -/
theorem sendRaw_log (p : EdgePort (Tapped (Header × Payload) σ)) {hdr : Header}
    (data : List UInt8) (hkey : hdr.Keyed) :
    (p.sendRaw hdr data).2.sink.log = p.sink.log ++
      if p.fits data ∧ p.address.isSome ∧
          p.address ≠ some (hdr.dst.networkId, hdr.dst.nodeId) then
        [(p.outHdr hdr, .raw data)]
      else [] := by
  unfold sendRaw
  by_cases hfit : p.fits data
  · rw [if_neg (Nat.not_lt.mpr hfit)]
    rcases p.commonSend_keyed hkey with ⟨⟨e, he⟩, hno⟩ | ⟨hok, hyes⟩
    · rw [he, if_neg fun h => hno h.2]
      exact (List.append_nil _).symm
    · rw [hok, if_pos ⟨hfit, hyes⟩]
      rfl
  · rw [if_pos (Nat.not_le.mp hfit), if_neg fun h => hfit h.1]
    exact (List.append_nil _).symm

/-- The log of a port after a typed send. -/
theorem send_log (p : EdgePort (Tapped (Header × Payload) σ)) {hdr : Header} (msg : Msg)
    (hkey : hdr.Keyed) :
    (p.send hdr msg).2.sink.log = p.sink.log ++
      if p.address.isSome ∧ p.address ≠ some (hdr.dst.networkId, hdr.dst.nodeId) then
        [(p.outHdr hdr, .ty msg)]
      else [] := by
  unfold send
  rcases p.commonSend_keyed hkey with ⟨⟨e, he⟩, hno⟩ | ⟨hok, hyes⟩
  · rw [he, if_neg hno]
    exact (List.append_nil _).symm
  · rw [hok, if_pos hyes]
    rfl

/-- The log of a port after an error send. -/
theorem sendErr_log (p : EdgePort (Tapped (Header × Payload) σ)) {hdr : Header}
    (e : ProtocolError) (hkey : hdr.Keyed) :
    (p.sendErr hdr e).2.sink.log = p.sink.log ++
      if p.address.isSome ∧ p.address ≠ some (hdr.dst.networkId, hdr.dst.nodeId) then
        [(p.outHdr hdr, .err e)]
      else [] := by
  unfold sendErr
  rcases p.commonSend_keyed hkey with ⟨⟨e', he⟩, hno⟩ | ⟨hok, hyes⟩
  · rw [he, if_neg hno]
    exact (List.append_nil _).symm
  · rw [hok, if_pos hyes]
    rfl

end EdgePort

/-! ## The interfaces of a router -/

/-- An interface of a router. -/
inductive Iface (σ : Type)
  | slot (s : Slot σ)
  | upstream (up : EdgePort σ)

namespace Iface

def ident : Iface σ → UInt8
  | .slot s => s.ident
  | .upstream _ => upstreamIdent

def port : Iface σ → EdgePort σ
  | .slot s => s.port
  | .upstream up => up

/-- A slot that has no net id yet. -/
def pending : Iface σ → Bool
  | .slot s => s.netId = 0
  | .upstream _ => false

/-- Whether a flood from `source` should offer an interface a copy. -/
def receives [InterfaceSink σ] (i : Iface σ) (source : UInt8) (data : List UInt8) : Bool :=
  i.ident ≠ source ∧ i.pending = false ∧ i.port.address.isSome ∧ i.port.fits data

end Iface

namespace Router

/-- The slots in their order, and the upstream. -/
def interfaces (r : Router σ N S C) : List (Iface σ) :=
  r.slots.toList.map Iface.slot ++ r.upstream.toList.map Iface.upstream

/-- The header of `send_raw` when its loop is over. -/
def lastLegHdr (r : Router σ N S C) (hdr : Header) (source : UInt8) : Header :=
  match (r.slots.toList.filter fun s => s.ident ≠ source).getLast? with
  | none => hdr
  | some s => legHdr hdr s.netId

variable [InterfaceSink σ]

/-- What a turn of the raw loop does to a slot. -/
def rawLegSlot (hdr : Header) (data : List UInt8) (source : UInt8) (s : Slot σ) : Slot σ :=
  if source = s.ident then s else { s with port := (s.port.sendRaw (legHdr hdr s.netId) data).2 }

/-- What a turn of the typed loop does to a slot. -/
def typedLegSlot (hdr : Header) (msg : Msg) (s : Slot σ) : Slot σ :=
  if s.netId = 0 then s else { s with port := (s.port.send (legHdr hdr s.netId) msg).2 }

/-- The rewritten header makes no difference to the next leg. -/
theorem sendRawLeg_slots (hdr : Header) (data : List UInt8) (source : UInt8) (acc : Flood)
    (e : InterfaceSendError) (slots : List (Slot σ)) :
    (HeaplessVec.forEachList (sendRawLeg data source) ⟨hdr, e, acc⟩ slots).2 =
      slots.map (rawLegSlot hdr data source) := by
  refine HeaplessVec.forEachList_eq_map (I := fun st => ∀ n, legHdr st.hdr n = legHdr hdr n)
    ?_ (fun _ => rfl) slots
  intro st s hst
  unfold sendRawLeg rawLegSlot
  split
  · exact ⟨hst, rfl⟩
  · rw [hst]
    exact ⟨fun _ => rfl, rfl⟩

theorem sendLeg_slots (hdr : Header) (msg : Msg) (acc : Flood) (slots : List (Slot σ)) :
    (HeaplessVec.forEachList (sendLeg hdr msg) acc slots).2 =
      slots.map (typedLegSlot hdr msg) := by
  refine HeaplessVec.forEachList_eq_map (I := fun _ => True) ?_ trivial slots
  intro acc s _
  unfold sendLeg typedLegSlot
  split <;> exact ⟨trivial, rfl⟩

/-- The header after the loop is the last leg's. -/
theorem sendRawLeg_hdr (data : List UInt8) (source : UInt8) (st : RawFlood)
    (slots : List (Slot σ)) :
    (HeaplessVec.forEachList (sendRawLeg data source) st slots).1.hdr =
      match (slots.filter fun s => s.ident ≠ source).getLast? with
      | none => st.hdr
      | some s => legHdr st.hdr s.netId := by
  induction slots generalizing st with
  | nil => rfl
  | cons s slots ih =>
    show (HeaplessVec.forEachList (sendRawLeg data source)
      (sendRawLeg data source st s).1 slots).1.hdr = _
    rw [ih]
    by_cases hs : source = s.ident
    · simp [sendRawLeg, hs]
    · have hleg : (sendRawLeg data source st s).1.hdr = legHdr st.hdr s.netId := by
        simp [sendRawLeg, hs]
      rw [hleg, List.filter_cons_of_pos (by simpa using fun h => hs h.symm),
        List.getLast?_cons]
      cases (slots.filter fun s => s.ident ≠ source).getLast? <;> rfl

/-- What a raw flood does to an interface. -/
def rawIface (hdr last : Header) (data : List UInt8) (source : UInt8) : Iface σ → Iface σ
  | .slot s => .slot (rawLegSlot hdr data source s)
  | .upstream up =>
    .upstream (if source = upstreamIdent then up else (up.sendRaw last data).2)

/-- What a typed flood does to an interface. -/
def typedIface (hdr : Header) (msg : Msg) : Iface σ → Iface σ
  | .slot s => .slot (typedLegSlot hdr msg s)
  | .upstream up => .upstream (up.send hdr msg).2

section Floods

variable (r : Router σ N S C) {hdr : Header} (source : UInt8) (clock : Clock)
  (hall : hdr.dst.portId = 255) (hkey : hdr.anyAll.isSome) (httl : hdr.ttl ≠ 0)

include hall hkey httl

/-- A raw flood, interface by interface. -/
theorem sendRaw_interfaces (data : List UInt8) :
    (r.sendRaw hdr data source clock).2.interfaces =
      r.interfaces.map (rawIface { hdr with ttl := hdr.ttl - 1 }
        (r.lastLegHdr { hdr with ttl := hdr.ttl - 1 } source) data source) := by
  have hnone : hdr.anyAll.isNone = false := by cases h : hdr.anyAll <;> simp_all
  have hslots : ∀ (e : InterfaceSendError) (acc : Flood),
      (r.slots.forEach (sendRawLeg data source)
        ⟨{ hdr with ttl := hdr.ttl - 1 }, e, acc⟩).2.toList =
        r.slots.toList.map (rawLegSlot { hdr with ttl := hdr.ttl - 1 } data source) :=
    fun e acc => sendRawLeg_slots _ data source acc e r.slots.toList
  have hlast : ∀ (e : InterfaceSendError) (acc : Flood),
      (r.slots.forEach (sendRawLeg data source)
        ⟨{ hdr with ttl := hdr.ttl - 1 }, e, acc⟩).1.hdr =
        r.lastLegHdr { hdr with ttl := hdr.ttl - 1 } source :=
    fun e acc => sendRawLeg_hdr data source _ r.slots.toList
  simp only [sendRaw, Header.decrementTtl_of_ne httl, hall, if_true, hnone, Bool.false_eq_true,
    if_false]
  split
  · rename_i hempty
    have h1 : r.slots.toList = [] := List.isEmpty_iff.mp hempty.1
    have h2 : r.upstream = none := Option.isNone_iff_eq_none.mp hempty.2
    simp [interfaces, h1, h2]
  · cases hup : r.upstream with
    | none =>
      simp [interfaces, hup, hslots, rawIface, Function.comp_def]
    | some up =>
      by_cases hsource : source = upstreamIdent
      · subst hsource
        simp [interfaces, hup, hslots, rawIface, Function.comp_def]
      · simp [interfaces, hup, hslots, hlast, rawIface, hsource, Function.comp_def]

/-- A typed flood, interface by interface. -/
theorem send_interfaces (msg : Msg) :
    (r.send hdr msg clock).2.interfaces =
      r.interfaces.map (typedIface { hdr with ttl := hdr.ttl - 1 } msg) := by
  have hnone : hdr.anyAll.isNone = false := by cases h : hdr.anyAll <;> simp_all
  have hslots : ∀ acc : Flood,
      (r.slots.forEach (sendLeg { hdr with ttl := hdr.ttl - 1 } msg) acc).2.toList =
        r.slots.toList.map (typedLegSlot { hdr with ttl := hdr.ttl - 1 } msg) :=
    fun acc => sendLeg_slots _ msg acc r.slots.toList
  simp only [send, Header.decrementTtl_of_ne httl, hall, if_true, hnone, Bool.false_eq_true,
    if_false]
  cases hup : r.upstream <;>
    simp [interfaces, hup, hslots, typedIface, Function.comp_def]

end Floods

/-- What a flood should do: every interface that is not pending, not the source,
`Active` and wide enough is offered one copy, and nobody else is; and the typed flood
of the same frame offers the same copies, but for the source. -/
structure FloodsOnce (r : Router (Tapped (Header × Payload) σ) N S C) (hdr : Header) (msg : Msg)
    (source : UInt8) (clock : Clock) : Prop where
  raw : List.Forall₂ (fun i i' => i'.port.sink.log = i.port.sink.log ++
      if i.receives source msg.bytes then
        [(i.port.outHdr { hdr with ttl := hdr.ttl - 1 }, .raw msg.bytes)]
      else [])
    r.interfaces (r.sendRaw hdr msg.bytes source clock).2.interfaces
  typed : List.Forall₂ (fun i i' => i.ident ≠ source → i.port.fits msg.bytes →
      i'.port.sink.log = i.port.sink.log ++
        if i.receives source msg.bytes then
          [(i.port.outHdr { hdr with ttl := hdr.ttl - 1 }, .ty msg)]
        else [])
    r.interfaces (r.send hdr msg clock).2.interfaces

/-- A copy is offered in the one case if and only if it is in the other. -/
theorem append_copy_eq_iff {ε : Type} {log : List ε} {x : ε} {p q : Prop} [Decidable p]
    [Decidable q] :
    (log ++ if p then [x] else []) = (log ++ if q then [x] else []) ↔ (p ↔ q) := by
  rw [List.append_cancel_left_eq]
  by_cases hp : p <;> by_cases hq : q <;> simp [hp, hq]

/-- A slot's leg is right if its port does not have the leg's destination, or if the
slot is pending and it does. -/
theorem rawLegSlot_log {s : Slot (Tapped (Header × Payload) σ)} {hdr : Header}
    {data : List UInt8} {source : UInt8} (hall : hdr.dst.portId = 255)
    (hkey : hdr.anyAll.isSome) :
    (rawLegSlot hdr data source s).port.sink.log =
        (s.port.sink.log ++ if (Iface.slot s).receives source data then
          [(s.port.outHdr hdr, .raw data)] else []) ↔
      (s.ident ≠ source → s.port.fits data → ∀ a, s.port.address = some a →
        (a = (s.netId, edgeNodeId) ↔ s.netId = 0)) := by
  by_cases hsource : s.ident = source
  · simp [rawLegSlot, hsource, Iface.receives, Iface.ident]
  · have hkey' : (legHdr hdr s.netId).Keyed := fun _ => hkey
    rw [rawLegSlot, if_neg fun h => hsource h.symm]
    simp only [EdgePort.sendRaw_log _ _ hkey']
    cases haddr : s.port.address with
    | none => simp [Iface.receives, haddr, Iface.port]
    | some a =>
      rw [EdgePort.outHdr_legHdr _ hall (by simp [haddr]), append_copy_eq_iff]
      simp only [Iface.receives, Iface.ident, Iface.port, Iface.pending, haddr, legHdr]
      by_cases hfit : s.port.fits data
      · by_cases hnet : s.netId = 0 <;> by_cases ha : a = (s.netId, edgeNodeId) <;>
          simp_all
      · simp [hfit]

omit [InterfaceSink σ] in
/-- The upstream gets the frame's own header or a leg's. -/
theorem lastLegHdr_cases (r : Router σ N S C) (hdr : Header) (source : UInt8) :
    r.lastLegHdr hdr source = hdr ∨ ∃ netId, r.lastLegHdr hdr source = legHdr hdr netId := by
  unfold lastLegHdr
  split
  · exact .inl rfl
  · exact .inr ⟨_, rfl⟩

omit [InterfaceSink σ] in
theorem lastLegHdr_ttl (r : Router σ N S C) (hdr : Header) (source ttl : UInt8) :
    (r.lastLegHdr { hdr with ttl := ttl } source).dst = (r.lastLegHdr hdr source).dst := by
  unfold lastLegHdr
  split <;> rfl

/-- The upstream's leg is right if its port does not have the destination left over
from the loop. -/
theorem rawUpstream_log {r : Router (Tapped (Header × Payload) σ) N S C}
    {up : EdgePort (Tapped (Header × Payload) σ)} {hdr : Header} {data : List UInt8}
    {source : UInt8} (hall : hdr.dst.portId = 255) (hkey : hdr.anyAll.isSome) :
    (if source = upstreamIdent then up
        else (up.sendRaw (r.lastLegHdr hdr source) data).2).sink.log =
        (up.sink.log ++ if (Iface.upstream up).receives source data then
          [(up.outHdr hdr, .raw data)] else []) ↔
      (source ≠ upstreamIdent → up.fits data → up.address ≠
        some ((r.lastLegHdr hdr source).dst.networkId, (r.lastLegHdr hdr source).dst.nodeId)) := by
  by_cases hsource : source = upstreamIdent
  · simp [hsource, Iface.receives, Iface.ident]
  · have hlast : (r.lastLegHdr hdr source).anyAll.isSome ∧
        (up.address.isSome → up.outHdr (r.lastLegHdr hdr source) = up.outHdr hdr) := by
      rcases r.lastLegHdr_cases hdr source with h | ⟨netId, h⟩ <;> rw [h]
      · exact ⟨hkey, fun _ => rfl⟩
      · exact ⟨hkey, fun hp => up.outHdr_legHdr hall hp netId⟩
    rw [if_neg hsource, EdgePort.sendRaw_log _ _ fun _ => hlast.1]
    cases haddr : up.address with
    | none => simp [Iface.receives, haddr, Iface.port]
    | some a =>
      rw [hlast.2 (by simp [haddr]), append_copy_eq_iff]
      have hsource' : ¬ upstreamIdent = source := fun h => hsource h.symm
      simp only [Iface.receives, Iface.ident, Iface.port, Iface.pending, haddr]
      by_cases hfit : up.fits data <;> simp [hfit, hsource, hsource']

/-- The typed flood skips pending slots, and gives every leg its own header. -/
theorem typedLegSlot_log {s : Slot (Tapped (Header × Payload) σ)} {hdr : Header} {msg : Msg}
    {source : UInt8} (hall : hdr.dst.portId = 255) (hkey : hdr.anyAll.isSome)
    (hright : s.ident ≠ source → s.port.fits msg.bytes → ∀ a, s.port.address = some a →
      (a = (s.netId, edgeNodeId) ↔ s.netId = 0))
    (hsource : s.ident ≠ source) (hfit : s.port.fits msg.bytes) :
    (typedLegSlot hdr msg s).port.sink.log =
      s.port.sink.log ++ if (Iface.slot s).receives source msg.bytes then
        [(s.port.outHdr hdr, .ty msg)] else [] := by
  have hkey' : (legHdr hdr s.netId).Keyed := fun _ => hkey
  by_cases hnet : s.netId = 0
  · simp [typedLegSlot, hnet, Iface.receives, Iface.pending]
  · rw [typedLegSlot, if_neg hnet]
    simp only [EdgePort.send_log _ _ hkey']
    cases haddr : s.port.address with
    | none => simp [Iface.receives, haddr, Iface.port]
    | some a =>
      have ha := hright hsource hfit a haddr
      rw [EdgePort.outHdr_legHdr _ hall (by simp [haddr]), append_copy_eq_iff]
      simp only [Iface.receives, Iface.ident, Iface.port, Iface.pending, haddr, legHdr]
      simp [hsource, hfit, hnet, ha.not.mpr hnet]

theorem typedUpstream_log {up : EdgePort (Tapped (Header × Payload) σ)} {hdr : Header}
    {msg : Msg} {source : UInt8} (hkey : hdr.anyAll.isSome) :
    (upstreamIdent ≠ source → up.fits msg.bytes →
        (up.send hdr msg).2.sink.log =
          up.sink.log ++ if (Iface.upstream up).receives source msg.bytes then
            [(up.outHdr hdr, .ty msg)] else []) ↔
      (source ≠ upstreamIdent → up.fits msg.bytes →
        up.address ≠ some (hdr.dst.networkId, hdr.dst.nodeId)) := by
  rw [ne_comm]
  refine forall₂_congr fun hsource hfit => ?_
  have hsource' : ¬ upstreamIdent = source := fun h => hsource h.symm
  rw [EdgePort.send_log _ _ fun _ => hkey, append_copy_eq_iff]
  simp only [Iface.receives, Iface.ident, Iface.port, Iface.pending]
  cases haddr : up.address <;> simp [hfit, hsource']

/-- A right flood finds the upstream at neither of the destinations it is given. -/
theorem FloodsOnce.upstream {r : Router (Tapped (Header × Payload) σ) N S C} {hdr : Header}
    {msg : Msg} {source : UInt8} {clock : Clock} (h : FloodsOnce r hdr msg source clock)
    (hall : hdr.dst.portId = 255) (hkey : hdr.anyAll.isSome) (httl : hdr.ttl ≠ 0)
    (hsource : source ≠ upstreamIdent) {up : EdgePort (Tapped (Header × Payload) σ)}
    (hup : r.upstream = some up) (hfit : up.fits msg.bytes) :
    up.address ≠ some ((r.lastLegHdr hdr source).dst.networkId,
        (r.lastLegHdr hdr source).dst.nodeId) ∧
      up.address ≠ some (hdr.dst.networkId, hdr.dst.nodeId) := by
  have hall' : ({ hdr with ttl := hdr.ttl - 1 } : Header).dst.portId = 255 := hall
  have hkey' : ({ hdr with ttl := hdr.ttl - 1 } : Header).anyAll.isSome := hkey
  have hmem : Iface.upstream up ∈ r.interfaces := by simp [interfaces, hup]
  obtain ⟨hr, ht⟩ := h
  rw [r.sendRaw_interfaces source clock hall hkey httl, List.forall₂_map_right_iff,
    List.forall₂_same] at hr
  rw [r.send_interfaces clock hall hkey httl, List.forall₂_map_right_iff,
    List.forall₂_same] at ht
  constructor
  · have h := (rawUpstream_log hall' hkey').mp (hr _ hmem) hsource hfit
    rwa [lastLegHdr_ttl] at h
  · exact (typedUpstream_log hkey').mp (ht _ hmem) hsource hfit

/-- A right flood finds the slots at their legs' destinations if they are pending, and
only then. -/
theorem FloodsOnce.slots {r : Router (Tapped (Header × Payload) σ) N S C} {hdr : Header}
    {msg : Msg} {source : UInt8} {clock : Clock} (h : FloodsOnce r hdr msg source clock)
    (hall : hdr.dst.portId = 255) (hkey : hdr.anyAll.isSome) (httl : hdr.ttl ≠ 0)
    {s : Slot (Tapped (Header × Payload) σ)} (hs : s ∈ r.slots.toList)
    (hsource : s.ident ≠ source) (hfit : s.port.fits msg.bytes) {a : UInt16 × UInt8}
    (ha : s.port.address = some a) : a = (s.netId, edgeNodeId) ↔ s.netId = 0 := by
  have hall' : ({ hdr with ttl := hdr.ttl - 1 } : Header).dst.portId = 255 := hall
  have hkey' : ({ hdr with ttl := hdr.ttl - 1 } : Header).anyAll.isSome := hkey
  have hmem : Iface.slot s ∈ r.interfaces := by simp [interfaces, hs]
  have hr := h.raw
  rw [r.sendRaw_interfaces source clock hall hkey httl, List.forall₂_map_right_iff,
    List.forall₂_same] at hr
  exact (rawLegSlot_log hall' hkey').mp (hr _ hmem) hsource hfit a ha

/-- A flood is as it should be exactly when no port has the destination that its leg
is given: not a slot, not the upstream when it is given the last leg's destination
or the frame's own. A pending slot is left out only if it does have it. -/
theorem flood_iff (r : Router (Tapped (Header × Payload) σ) N S C) (hdr : Header) (msg : Msg)
    (source : UInt8) (clock : Clock) (hall : hdr.dst.portId = 255)
    (hkey : hdr.anyAll.isSome) (httl : hdr.ttl ≠ 0) :
    FloodsOnce r hdr msg source clock ↔
      (∀ s ∈ r.slots.toList, s.ident ≠ source → s.port.fits msg.bytes →
        ∀ a, s.port.address = some a → (a = (s.netId, edgeNodeId) ↔ s.netId = 0)) ∧
      (source ≠ upstreamIdent → ∀ up, r.upstream = some up → up.fits msg.bytes →
        up.address ≠ some ((r.lastLegHdr hdr source).dst.networkId,
            (r.lastLegHdr hdr source).dst.nodeId) ∧
          up.address ≠ some (hdr.dst.networkId, hdr.dst.nodeId)) := by
  have hraw := r.sendRaw_interfaces source clock hall hkey httl msg.bytes
  have htyped := r.send_interfaces clock hall hkey httl msg
  have hall' : ({ hdr with ttl := hdr.ttl - 1 } : Header).dst.portId = 255 := hall
  have hkey' : ({ hdr with ttl := hdr.ttl - 1 } : Header).anyAll.isSome := hkey
  constructor
  · intro h
    exact ⟨fun s hs hsource hfit a ha => h.slots hall hkey httl hs hsource hfit ha,
      fun hsource up hup hfit => h.upstream hall hkey httl hsource hup hfit⟩
  · rintro ⟨hslots, hup⟩
    constructor
    · rw [hraw, List.forall₂_map_right_iff, List.forall₂_same]
      rintro (s | up) hi
      · refine (rawLegSlot_log hall' hkey').mpr (hslots s ?_)
        simpa [interfaces] using hi
      · refine (rawUpstream_log hall' hkey').mpr fun hsource hfit => ?_
        rw [lastLegHdr_ttl]
        exact (hup hsource up (by simpa [interfaces] using hi) hfit).1
    · rw [htyped, List.forall₂_map_right_iff, List.forall₂_same]
      rintro (s | up) hi
      · exact typedLegSlot_log hall' hkey' (hslots s (by simpa [interfaces] using hi))
      · refine (typedUpstream_log hkey').mpr fun hsource hfit => ?_
        exact (hup hsource up (by simpa [interfaces] using hi) hfit).2

/-! ## A flood that stops short of the upstream -/

/-- A bridge whose upstream is active as `up`.2, with a slot on segment 5 and a slot
that waits for its net id. -/
def demoBridge (up : UInt16) : Router (Tapped (Header × Payload) FrameQueue) 2 1 1 :=
  let sink : Tapped (Header × Payload) FrameQueue := ⟨⟨64, 2, []⟩, []⟩
  let r := newBridge ⟨fun i => UInt64.ofNat i, 0⟩ sink two_slots
  let r := (r.setInterfaceState upstreamIdent (.active up edgeNodeId)).2
  let r := (r.registerInterfacePending sink).2
  let r := (r.reassignInterfaceNetId 0 5).2
  (r.registerInterfacePending sink).2

/-- A topic message that the edge of segment 5 broadcasts. -/
def demoTopic : Header :=
  ⟨⟨5, 2, 20⟩, ⟨5, 1, 255⟩, some ⟨⟨.replicate 8 0⟩, none⟩, .topicMsg, .normal, 15⟩

/-- With a link-local upstream the bridge offers it the frame under the destination
of the pending slot, 0.2, which is its own. -/
theorem flood_misses_upstream :
    (demoBridge 0).upstream.map EdgePort.state = some (.active 0 2) ∧
      ((demoBridge 0).sendRaw demoTopic [7] 0 (.at 0)).2.upstream.map (fun up => up.sink.log) =
        some [] ∧
      ¬ FloodsOnce (demoBridge 0) demoTopic ⟨0, [7]⟩ 0 (.at 0) := by
  refine ⟨by decide, by decide, fun h => ?_⟩
  have hup := h.upstream rfl rfl (by decide) (by decide) rfl (by decide)
  exact hup.1 (by decide)

/-- With an upstream that has a net id it gets its copy. -/
theorem flood_iff_demo : FloodsOnce (demoBridge 3) demoTopic ⟨0, [7]⟩ 0 (.at 0) := by
  refine (flood_iff (demoBridge 3) demoTopic ⟨0, [7]⟩ 0 (.at 0) (by decide) (by decide)
    (by decide)).mpr ⟨?_, ?_⟩
  · intro s hs hsource _ a ha
    have hslots : (demoBridge 3).slots.toList.filter (fun s => s.ident ≠ 0) =
        [⟨1, ⟨⟨⟨64, 2, []⟩, []⟩, .down, 1, 2⟩, 0⟩] := rfl
    have hs : s ∈ (demoBridge 3).slots.toList.filter (fun s => s.ident ≠ 0) := by
      simp [hs, hsource]
    rw [hslots, List.mem_singleton] at hs
    subst hs
    cases ha
  · intro _ up hup _
    cases hup
    exact ⟨by decide, by decide⟩

end Router

end Ergot
