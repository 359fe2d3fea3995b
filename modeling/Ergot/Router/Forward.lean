import Ergot.Router.Flood

/-!
# Unicast sends

What a unicast send does to the interfaces of a router: to the one its route leads to,
what the port does, and to the others nothing.

- `Leaves` says which interface a frame leaves by. It is read off the routing table
  (`Router.route`), not off the code that sends.
- `Borrows` is the specification of the port that `find` lends out: it is the port of
  that interface, and putting it back changes that interface alone.
- `findThen_interfaces` puts the two together.
-/

namespace Ergot

variable {σ : Type} {N S C : Nat}

/-- An interface with another port in it. -/
def Iface.withPort (port : EdgePort σ) : Iface σ → Iface σ
  | .slot s => .slot { s with port }
  | .upstream _ => .upstream port

@[simp] theorem Iface.withPort_ident (i : Iface σ) (port : EdgePort σ) :
    (i.withPort port).ident = i.ident := by
  cases i <;> rfl

@[simp] theorem Iface.withPort_port (i : Iface σ) (port : EdgePort σ) :
    (i.withPort port).port = port := by
  cases i <;> rfl

namespace Router

variable {r : Router σ N S C} {dst : Address} {source : Option UInt8} {clock : Clock}

/-- The interface that a frame for `dst` leaves by. -/
def Leaves (r : Router σ N S C) (dst : Address) (source : Option UInt8) (clock : Clock)
    (ident : UInt8) (port : EdgePort σ) : Prop :=
  r.ownSlot dst = false ∧ r.route dst.networkId clock = some (ident, some port) ∧
    source ≠ some ident

theorem Leaves.unique {ident ident' : UInt8} {port port' : EdgePort σ}
    (h : r.Leaves dst source clock ident port) (h' : r.Leaves dst source clock ident' port') :
    ident = ident' ∧ port = port' := by
  have heq := h.2.1.symm.trans h'.2.1
  simpa using heq

/-- A frame does not go back to where it came from. -/
theorem not_leaves_of_source {ident : UInt8} {port : EdgePort σ}
    (hroute : r.route dst.networkId clock = some (ident, some port)) (hsource : source = some ident)
    (ident' : UInt8) (port' : EdgePort σ) : ¬ r.Leaves dst source clock ident' port' := by
  intro h
  obtain ⟨rfl, -⟩ : ident = ident' ∧ port = port' := by
    simpa using hroute.symm.trans h.2.1
  exact h.2.2 hsource

/-- What `find` lends out: the port of the interface that the frame leaves by. -/
structure Borrows (r : Router σ N S C) (dst : Address) (source : Option UInt8) (clock : Clock)
    (ref : PortMut σ N S C) (before : List (Iface σ)) (i : Iface σ) (after : List (Iface σ)) :
    Prop where
  leaves : r.Leaves dst source clock i.ident i.port
  port : ref.port = i.port
  interfaces : r.interfaces = before ++ i :: after
  putBack : ∀ p, (ref.putBack p).interfaces = before ++ i.withPort p :: after
  same : ref.putBack ref.port = r.gcSeed clock.now

/-- A borrow of a slot's port. -/
theorem slotMut_interfaces {p : Slot σ → Bool} {slot : Slot σ}
    (hslot : r.slots.toList.find? p = some slot) :
    (r.slotMut p slot).putBack slot.port = r ∧
      ∃ before after, r.interfaces = before ++ .slot slot :: after ∧
        ∀ port, ((r.slotMut p slot).putBack port).interfaces =
          before ++ .slot { slot with port } :: after := by
  obtain ⟨before, after, hsplit, -, hmod⟩ := HeaplessVec.modifyFirstList_split_all hslot
  constructor
  · have hsame : r.slots.modifyFirst p (fun s => { s with port := slot.port }) = r.slots := by
      apply HeaplessVec.ext
      rw [HeaplessVec.toList_modifyFirst, hmod, hsplit]
    show { r with slots := r.slots.modifyFirst p fun s => { s with port := slot.port } } = r
    rw [hsame]
  · refine ⟨before.map .slot, after.map .slot ++ r.upstream.toList.map .upstream, ?_, ?_⟩
    · simp [Router.interfaces, hsplit]
    · intro port
      simp [Router.interfaces, slotMut, hmod]

/-- The errors of a frame that leaves by no interface. -/
def Unrouted (e : InterfaceSendError) : Prop :=
  e = .destinationLocal ∨ e = .routingLoop ∨ e = .noRouteToDest

/-- What `find` does, in the terms of the routing table: it lends out the port the frame
leaves by, or there is no such port. -/
theorem find_cases (r : Router σ N S C) (hdr : Header) (source : Option UInt8) (clock : Clock)
    (hkey : ¬ (hdr.dst.portId = 0 ∧ hdr.anyAll.isNone)) :
    (∃ ref before i after, r.find hdr source clock = (.ok ref, r.gcSeed clock.now) ∧
        r.Borrows hdr.dst source clock ref before i after) ∨
      (∃ e, Unrouted e ∧ r.find hdr source clock = (.error e, r.gcSeed clock.now)) ∧
        ∀ ident port, ¬ r.Leaves hdr.dst source clock ident port := by
  have hfind : r.find hdr source clock =
      ((r.gcSeed clock.now).findAged hdr source clock.later, r.gcSeed clock.now) := by
    rw [find, if_neg hkey]
  have hlent : ∀ {p : Slot σ → Bool} {slot : Slot σ}, r.slots.toList.find? p = some slot →
      r.Leaves hdr.dst source clock slot.ident slot.port →
      ∃ before i after, r.Borrows hdr.dst source clock ((r.gcSeed clock.now).slotMut p slot)
        before i after := by
    intro p slot hslot hleaves
    obtain ⟨hsame, before, after, hsplit, hput⟩ := slotMut_interfaces (r := r.gcSeed clock.now) hslot
    exact ⟨before, .slot slot, after, hleaves, rfl, hsplit, hput, hsame⟩
  simp only [hfind, findAged, gcSeed_slots, Prod.mk.injEq, and_true]
  cases hslot : r.slots.toList.find? (Slot.serves hdr.dst.networkId) with
  | some slot =>
    -- a direct link
    have hany : r.slots.toList.any (Slot.serves hdr.dst.networkId) = true :=
      List.any_eq_true.mpr ⟨slot, List.mem_of_find?_eq_some hslot, List.find?_some hslot⟩
    have hroute : r.route hdr.dst.networkId clock = some (slot.ident, some slot.port) := by
      simp [route, hslot]
    by_cases hnode : hdr.dst.nodeId = centralNodeId
    · right
      refine ⟨⟨.destinationLocal, .inl rfl, by simp [hnode]⟩, fun ident port h => ?_⟩
      simpa [ownSlot, hany, hnode] using h.1
    · by_cases hsource : source = some slot.ident
      · right
        exact ⟨⟨.routingLoop, .inr (.inl rfl), by simp [hnode, hsource]⟩,
          not_leaves_of_source hroute hsource⟩
      · left
        obtain ⟨before, i, after, hb⟩ :=
          hlent hslot ⟨by simp [ownSlot, hnode], hroute, hsource⟩
        exact ⟨_, before, i, after, by simp [hnode, hsource], hb⟩
  | none =>
    have hown : r.ownSlot hdr.dst = false := by
      have hany : r.slots.toList.any (Slot.serves hdr.dst.networkId) = false := by
        simpa [List.any_eq_false] using hslot
      simp [ownSlot, hany]
    cases hkey : (r.gcSeed clock.now).seedRoutes.byKey hdr.dst.networkId with
    | some entry =>
      -- a seed route
      by_cases hactive : entry.kind.isActive clock.later = true
      · cases hvia : r.slots.toList.find? (fun s => s.ident = entry.extra.viaIdent) with
        | none =>
          right
          have hroute : r.route hdr.dst.networkId clock = some (entry.extra.viaIdent, none) := by
            simp [route, hslot, hkey, hactive, hvia]
          refine ⟨?_, fun ident port h => ?_⟩
          · by_cases hsource : source = some entry.extra.viaIdent
            · exact ⟨.routingLoop, .inr (.inl rfl), by simp [hactive, hsource]⟩
            · exact ⟨.noRouteToDest, .inr (.inr rfl), by simp [hactive, hsource, hvia]⟩
          · simpa using hroute.symm.trans h.2.1
        | some slot =>
          have hident : slot.ident = entry.extra.viaIdent := by
            simpa using List.find?_some hvia
          have hroute : r.route hdr.dst.networkId clock = some (slot.ident, some slot.port) := by
            simp [route, hslot, hkey, hactive, hvia, hident]
          by_cases hsource : source = some entry.extra.viaIdent
          · right
            exact ⟨⟨.routingLoop, .inr (.inl rfl), by simp [hactive, hsource]⟩,
              not_leaves_of_source hroute (by rw [hsource, hident])⟩
          · left
            obtain ⟨before, i, after, hb⟩ :=
              hlent hvia ⟨hown, hroute, by rwa [hident]⟩
            exact ⟨_, before, i, after, by simp [hactive, hsource, hvia], hb⟩
      · right
        refine ⟨⟨.noRouteToDest, .inr (.inr rfl), by simp [hactive]⟩, fun ident port h => ?_⟩
        simpa [route, hslot, hkey, hactive] using h.2.1
    | none =>
      -- the default route
      simp only [findUpstream, gcSeed_upstream]
      cases hup : r.upstream with
      | none =>
        right
        refine ⟨⟨.noRouteToDest, .inr (.inr rfl), rfl⟩, fun ident port h => ?_⟩
        simpa [route, hslot, hkey, hup] using h.2.1
      | some up =>
        have hroute : r.route hdr.dst.networkId clock = some (upstreamIdent, some up) := by
          simp [route, hslot, hkey, hup]
        by_cases hsource : source = some upstreamIdent
        · right
          exact ⟨⟨.routingLoop, .inr (.inl rfl), by simp [hsource]⟩,
            not_leaves_of_source hroute hsource⟩
        · left
          refine ⟨_, r.slots.toList.map .slot, .upstream up, [], if_neg hsource, ?_⟩
          constructor
          · exact ⟨hown, hroute, hsource⟩
          · rfl
          · simp [Router.interfaces, hup]
          · intro p
            simp [Router.interfaces, gcSeed_slots, Iface.withPort]
          · simp [gcSeed, ← hup]

/-- What a send through the port that was found does to the interfaces. -/
theorem findThen_interfaces (r : Router σ N S C) (hdr : Header) (source : Option UInt8)
    (clock : Clock) (use : EdgePort σ → Except InterfaceSendError Unit × EdgePort σ)
    (hkey : ¬ (hdr.dst.portId = 0 ∧ hdr.anyAll.isNone)) :
    (∃ before i after, r.Leaves hdr.dst source clock i.ident i.port ∧
        r.interfaces = before ++ i :: after ∧
        (r.findThen hdr source clock use).1 = (use i.port).1 ∧
        (r.findThen hdr source clock use).2.interfaces =
          before ++ i.withPort (use i.port).2 :: after ∧
        ((use i.port).2 = i.port → (r.findThen hdr source clock use).2 = r.gcSeed clock.now)) ∨
      (∀ ident port, ¬ r.Leaves hdr.dst source clock ident port) ∧
        (∃ e, Unrouted e ∧ (r.findThen hdr source clock use).1 = .error e) ∧
        (r.findThen hdr source clock use).2 = r.gcSeed clock.now := by
  rcases r.find_cases hdr source clock hkey with
    ⟨ref, before, i, after, hfind, hb⟩ | ⟨⟨e, he, hfind⟩, hno⟩
  · left
    simp only [findThen, hfind, hb.port]
    refine ⟨before, i, after, hb.leaves, hb.interfaces, rfl, hb.putBack _, fun hsame => ?_⟩
    rw [hsame, ← hb.port, hb.same]
  · right
    simp only [findThen, hfind]
    exact ⟨hno, ⟨e, he, rfl⟩, trivial⟩

end Router

end Ergot
