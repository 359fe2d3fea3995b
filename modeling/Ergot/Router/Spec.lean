import Ergot.Router.Ops

/-!
# What each router operation can do

One lemma for each operation, with everything it can do and under which checks.
The invariants of later modules cite these and do not unfold the operations.

An operation that fails leaves the state as it was, or collects garbage, or ages
one lease, or has drawn a random number; `AgedOnly` gathers these. Routing a frame
is `Quiet`, which is a little more: ports and sinks may change as well.
-/

namespace Ergot

namespace Router

variable {σ : Type} {N S C : Nat}

/-! ## Allocation -/

/-- The allocator hands out a name nobody uses. -/
theorem allocNetId_spec {r : Router σ N S C} {n : UInt16} (h : r.allocNetId = some n) :
    n ≠ 0 ∧ (∀ s ∈ r.slots.toList, s.netId ≠ n) ∧ r.seedRoutes.containsKey n = false ∧
      r.upstreamNetId ≠ some n := by
  have hfree := List.find?_some h
  have hmem := List.mem_of_find?_eq_some h
  simp only [netIdInUse, Bool.not_eq_true', Bool.or_eq_false_iff, List.any_eq_false,
    decide_eq_true_eq, decide_eq_false_iff_not] at hfree
  obtain ⟨⟨hslots, hseed⟩, hup⟩ := hfree
  refine ⟨?_, hslots, hseed, hup⟩
  obtain ⟨i, hi, rfl⟩ := List.mem_map.mp hmem
  rw [List.mem_range'_1] at hi
  intro hzero
  have hnat := congrArg UInt16.toNat hzero
  rw [UInt16.toNat_ofNat_of_lt' (show i < 65536 by omega)] at hnat
  have hnat : i = 0 := hnat
  omega

/-- The ident of a new slot is nobody's, and not the upstream's. -/
theorem freeIdent_spec {slots : List (Slot σ)} {i : UInt8} (hN : N ≤ 255)
    (h : freeIdent slots N = some i) : i ∉ slots.map Slot.ident ∧ i ≠ upstreamIdent := by
  constructor
  · intro hin
    obtain ⟨s, hs, hid⟩ := List.mem_map.mp hin
    have hfree := List.find?_some h
    simp only [Bool.not_eq_true', List.any_eq_false, decide_eq_true_eq] at hfree
    exact hfree s hs hid
  · obtain ⟨k, hk, rfl⟩ := List.mem_map.mp (List.mem_of_find?_eq_some h)
    have hk := List.mem_range.mp hk
    intro heq
    have hnat := congrArg UInt8.toNat heq
    rw [UInt8.toNat_ofNat_of_lt' (show k < 256 by omega)] at hnat
    have hnat : k = 255 := hnat
    omega

/-- A pushed slot comes last, with a fresh ident; nothing else changes. -/
theorem pushSlot_spec {r r' : Router σ N S C} {h : r.slots.toList.length < N}
    {slot : UInt8 → Slot σ} {ident : UInt8} (hpush : r.pushSlot h slot = (ident, r')) :
    ident ∉ r.slots.toList.map Slot.ident ∧ ident ≠ upstreamIdent ∧
      r'.slots.toList = r.slots.toList ++ [slot ident] ∧
      r'.seedRoutes = r.seedRoutes ∧ r'.nodeClaims = r.nodeClaims ∧
      r'.upstream = r.upstream ∧ r'.rng = r.rng := by
  unfold pushSlot at hpush
  simp only [Prod.mk.injEq] at hpush
  obtain ⟨hident, rfl⟩ := hpush
  have hfree : freeIdent r.slots.toList N = some ident := by
    rw [← hident]
    exact (Option.some_get _).symm
  obtain ⟨hfresh, hup⟩ := freeIdent_spec r.identSpace hfree
  exact ⟨hfresh, hup, by rw [← hident], rfl, rfl, rfl, rfl⟩

/-! ## Refused operations -/

/-- What an operation that fails leaves behind: seed routes and claims may have aged, and
random numbers may have been drawn. -/
structure AgedOnly (now : Nat) (r r' : Router σ N S C) : Prop where
  slots : r'.slots = r.slots
  upstream : r'.upstream = r.upstream
  seedRoutes : AgedAll now r.seedRoutes.entries.toList r'.seedRoutes.entries.toList
  nodeClaims : AgedAll now r.nodeClaims.entries.toList r'.nodeClaims.entries.toList
  rng : r'.rng.out = r.rng.out ∧ r.rng.pos ≤ r'.rng.pos

namespace AgedOnly

theorem refl (now : Nat) (r : Router σ N S C) : AgedOnly now r r where
  slots := rfl
  upstream := rfl
  seedRoutes := .refl _ _
  nodeClaims := .refl _ _
  rng := ⟨rfl, Nat.le_refl _⟩

theorem trans {now : Nat} {r r' r'' : Router σ N S C} (h : AgedOnly now r r')
    (h' : AgedOnly now r' r'') : AgedOnly now r r'' where
  slots := h'.slots.trans h.slots
  upstream := h'.upstream.trans h.upstream
  seedRoutes := h.seedRoutes.trans h'.seedRoutes
  nodeClaims := h.nodeClaims.trans h'.nodeClaims
  rng := ⟨h'.rng.1.trans h.rng.1, Nat.le_trans h.rng.2 h'.rng.2⟩

theorem gcSeed (now : Nat) (r : Router σ N S C) : AgedOnly now r (r.gcSeed now) :=
  { refl now r with seedRoutes := .filterMap_aged now _ }

theorem gcClaims (now : Nat) (r : Router σ N S C) : AgedOnly now r (r.gcClaims now) :=
  { refl now r with nodeClaims := .filterMap_aged now _ }

theorem drawn (now : Nat) (r : Router σ N S C) :
    AgedOnly now r { r with rng := r.rng.next.2 } :=
  { refl now r with rng := ⟨rfl, Nat.le_succ _⟩ }

/-- Aging one seed route, as a token check does. -/
theorem setSeedKind {now : Nat} {r : Router σ N S C} {key scope : UInt16}
    {e : LeaseEntry UInt16 SeedRoute} {kind : LeaseKind}
    (hget : r.seedRoutes.get key scope = some e) (hages : Ages now e.kind kind) :
    AgedOnly now r (r.setSeedKind key scope kind) :=
  { refl now r with seedRoutes := .modifyFirst hget hages }

/-- Aging one seed route that was looked up by its key. -/
theorem modifyByKey {now : Nat} {r : Router σ N S C} {key : UInt16}
    {e : LeaseEntry UInt16 SeedRoute} {kind : LeaseKind}
    (hget : r.seedRoutes.byKey key = some e) (hages : Ages now e.kind kind) :
    AgedOnly now r
      { r with seedRoutes := r.seedRoutes.modifyByKey key fun e => { e with kind } } :=
  { refl now r with seedRoutes := .modifyFirst hget hages }

/-- Aging one claim, as a token check does. -/
theorem setClaimKind {now : Nat} {r : Router σ N S C} {key : UInt8} {scope : UInt16}
    {e : LeaseEntry UInt8 UInt64} {kind : LeaseKind}
    (hget : r.nodeClaims.get key scope = some e) (hages : Ages now e.kind kind) :
    AgedOnly now r { r with nodeClaims := r.nodeClaims.setKind key scope kind } :=
  { refl now r with nodeClaims := .modifyFirst hget hages }

end AgedOnly

/-! ## Quiet steps -/

/-- What an operation that grants nothing does: ports and sinks may change, seed
routes and claims may age, and random numbers may be drawn. -/
structure Quiet (now : Nat) (r r' : Router σ N S C) : Prop where
  links : r'.slots.toList.map (fun s => (s.ident, s.netId)) =
    r.slots.toList.map (fun s => (s.ident, s.netId))
  seedKeys : r'.seedRoutes.keys.Subperm r.seedRoutes.keys
  seed : r.seedRoutes.keys.Nodup → ∀ k s,
    Aged now (r.seedRoutes.get k s) (r'.seedRoutes.get k s)
  claimIds : r'.nodeClaims.ids.Sublist r.nodeClaims.ids
  claims : r.nodeClaims.ids.Nodup → ∀ k s,
    Aged now (r.nodeClaims.get k s) (r'.nodeClaims.get k s)
  upstream : r'.hasUpstream = r.hasUpstream
  rng : r'.rng.out = r.rng.out ∧ r.rng.pos ≤ r'.rng.pos

namespace Quiet

theorem refl (now : Nat) (r : Router σ N S C) : Quiet now r r :=
  { links := rfl
    seedKeys := (List.Sublist.refl _).subperm
    seed := fun _ _ _ => Aged.refl _ _
    claimIds := List.Sublist.refl _
    claims := fun _ _ _ => Aged.refl _ _
    upstream := rfl
    rng := ⟨rfl, Nat.le_refl _⟩ }

theorem trans {now : Nat} {r r' r'' : Router σ N S C} (h : Quiet now r r')
    (h' : Quiet now r' r'') : Quiet now r r'' := by
  have hnodup : r.seedRoutes.keys.Nodup → r'.seedRoutes.keys.Nodup := by
    intro hk
    obtain ⟨l, hperm, hsub⟩ := h.seedKeys
    exact hperm.nodup_iff.mp (hk.sublist hsub)
  exact
    { links := h'.links.trans h.links
      seedKeys := h'.seedKeys.trans h.seedKeys
      seed := fun hk k s => (h.seed hk k s).trans (h'.seed (hnodup hk) k s)
      claimIds := h'.claimIds.trans h.claimIds
      claims := fun hk k s =>
        (h.claims hk k s).trans (h'.claims (hk.sublist h.claimIds) k s)
      upstream := h'.upstream.trans h.upstream
      rng := ⟨h'.rng.1.trans h.rng.1, Nat.le_trans h.rng.2 h'.rng.2⟩ }

/-- Only the ports of the slots, or the upstream port, changed. -/
theorem of_ports {now : Nat} {r r' : Router σ N S C}
    (hlinks : r'.slots.toList.map (fun s => (s.ident, s.netId)) =
      r.slots.toList.map (fun s => (s.ident, s.netId)))
    (hseed : r'.seedRoutes = r.seedRoutes) (hclaims : r'.nodeClaims = r.nodeClaims)
    (hup : r'.hasUpstream = r.hasUpstream) (hrng : r'.rng = r.rng) : Quiet now r r' :=
  { links := hlinks
    seedKeys := by rw [hseed]
    seed := fun _ k s => by rw [hseed]; exact Aged.refl _ _
    claimIds := by rw [hclaims]
    claims := fun _ k s => by rw [hclaims]; exact Aged.refl _ _
    upstream := hup
    rng := by rw [hrng]; exact ⟨rfl, Nat.le_refl _⟩ }

end Quiet

/-- A refused operation grants nothing. -/
theorem AgedOnly.quiet {now : Nat} {r r' : Router σ N S C} (h : AgedOnly now r r') :
    Quiet now r r' where
  links := by rw [h.slots]
  seedKeys := (h.seedRoutes.map_sublist fun _ _ => rfl).subperm
  seed hk k s := LeaseTable.aged_find h.seedRoutes (LeaseTable.ids_nodup hk) k s
  claimIds := h.nodeClaims.map_sublist fun _ _ => rfl
  claims hk k s := LeaseTable.aged_find h.nodeClaims hk k s
  upstream := by rw [hasUpstream, hasUpstream, h.upstream]
  rng := h.rng

/-! ## Routing is quiet -/

/-- Putting a port back changes one port. -/
theorem slotMut_quiet (now : Nat) (r : Router σ N S C) (p : Slot σ → Bool) (slot : Slot σ)
    (port : EdgePort σ) : Quiet now r ((r.slotMut p slot).putBack port) :=
  .of_ports (HeaplessVec.map_modifyFirstList _ _ _ fun _ _ => rfl) rfl rfl rfl rfl

theorem findUpstream_quiet {now : Nat} {r : Router σ N S C} {source : Option UInt8}
    {ref : PortMut σ N S C} (h : r.findUpstream source = .ok ref) (port : EdgePort σ) :
    Quiet now r (ref.putBack port) := by
  unfold findUpstream at h
  split at h
  · cases h
  · next up hup =>
    split at h
    · cases h
    · cases h
      exact .of_ports rfl rfl rfl (by simp [hasUpstream, hup]) rfl

theorem findAged_quiet {now later : Nat} {r : Router σ N S C} {hdr : Header}
    {source : Option UInt8} {ref : PortMut σ N S C}
    (h : r.findAged hdr source later = .ok ref) (port : EdgePort σ) :
    Quiet now r (ref.putBack port) := by
  unfold findAged at h
  split at h
  · -- a direct link
    split at h
    · cases h
    · split at h
      · cases h
      · cases h
        exact slotMut_quiet _ _ _ _ _
  · split at h
    · exact findUpstream_quiet h port
    · -- a seed route
      split at h
      · dsimp only at h
        split at h
        · cases h
        · split at h
          · cases h
          · cases h
            exact slotMut_quiet _ _ _ _ _
      · cases h

theorem find_quiet (r : Router σ N S C) (hdr : Header) (source : Option UInt8)
    (clock : Clock) : Quiet clock.now r (r.find hdr source clock).2 := by
  unfold find
  split
  · exact .refl _ _
  · exact (AgedOnly.gcSeed _ _).quiet

theorem findThen_quiet (r : Router σ N S C) (hdr : Header) (source : Option UInt8)
    (clock : Clock) (use : EdgePort σ → Except InterfaceSendError Unit × EdgePort σ) :
    Quiet clock.now r (r.findThen hdr source clock use).2 := by
  unfold findThen find
  by_cases hkey : hdr.dst.portId = 0 ∧ hdr.anyAll.isNone
  · rw [if_pos hkey]
    exact .refl _ _
  · rw [if_neg hkey]
    cases hfind : (r.gcSeed clock.now).findAged hdr source clock.later with
    | error e =>
      simp only [hfind]
      exact (AgedOnly.gcSeed _ _).quiet
    | ok ref =>
      simp only [hfind]
      exact (AgedOnly.gcSeed _ _).quiet.trans (findAged_quiet hfind _)

variable [InterfaceSink σ]

theorem send_quiet (r : Router σ N S C) (hdr : Header) (data : Msg) (clock : Clock) :
    Quiet clock.now r (r.send hdr data clock).2 := by
  have hleg : ∀ (hdr : Header) (acc : Flood) (slot : Slot σ),
      ((sendLeg hdr data acc slot).2.ident, (sendLeg hdr data acc slot).2.netId) =
        (slot.ident, slot.netId) := by
    intro hdr acc slot
    unfold sendLeg
    split <;> rfl
  unfold send
  split
  · exact .refl _ _
  · split
    · split
      · exact .refl _ _
      · dsimp only
        split
        · exact .of_ports (HeaplessVec.map_forEachList _ (hleg _) _ _) rfl rfl rfl rfl
        · next up hup =>
          refine .of_ports (HeaplessVec.map_forEachList _ (hleg _) _ _) rfl rfl ?_ rfl
          simp [hasUpstream, hup]
    · exact findThen_quiet _ _ _ _ _

theorem sendErr_quiet (r : Router σ N S C) (hdr : Header) (err : ProtocolError)
    (source : Option UInt8) (clock : Clock) :
    Quiet clock.now r (r.sendErr hdr err source clock).2 := by
  unfold sendErr
  split
  · exact .refl _ _
  · exact findThen_quiet _ _ _ _ _

theorem sendRaw_quiet (r : Router σ N S C) (hdr : Header) (data : List UInt8)
    (source : UInt8) (clock : Clock) :
    Quiet clock.now r (r.sendRaw hdr data source clock).2 := by
  have hleg : ∀ (st : RawFlood) (slot : Slot σ),
      ((sendRawLeg data source st slot).2.ident, (sendRawLeg data source st slot).2.netId) =
        (slot.ident, slot.netId) := by
    intro st slot
    unfold sendRawLeg
    split <;> rfl
  unfold sendRaw
  split
  · exact .refl _ _
  · split
    · split
      · exact .refl _ _
      · split
        · exact .refl _ _
        · dsimp only
          split
          · exact .of_ports (HeaplessVec.map_forEachList _ hleg _ _) rfl rfl rfl rfl
          · next up hup =>
            split
            · exact .of_ports (HeaplessVec.map_forEachList _ hleg _ _) rfl rfl rfl rfl
            · refine .of_ports (HeaplessVec.map_forEachList _ hleg _ _) rfl rfl ?_ rfl
              simp [hasUpstream, hup]
    · exact findThen_quiet _ _ _ _ _

omit [InterfaceSink σ]

/-! ## Interfaces -/

/-- A registered slot is `Active` with a name nobody uses. -/
theorem registerInterface_ok {r r' : Router σ N S C} {sink : σ} {now : Nat} {ident : UInt8}
    (h : r.registerInterface sink now = (.ok ident, r')) :
    ∃ netId, r.hasUpstream = false ∧ (r.gcSeed now).allocNetId = some netId ∧
      ident ∉ r.slots.toList.map Slot.ident ∧ ident ≠ upstreamIdent ∧
      r'.slots.toList = r.slots.toList ++
        [⟨ident, .newController sink (.active netId centralNodeId), netId⟩] ∧
      r'.seedRoutes = r.seedRoutes.gc now ∧ r'.nodeClaims = r.nodeClaims ∧
      r'.upstream = r.upstream ∧ r'.rng = r.rng := by
  unfold registerInterface at h
  split at h
  · cases h
  · next hup =>
    dsimp only at h
    split at h
    · next hlen =>
      split at h
      · cases h
      · next netId halloc =>
        simp only [Prod.mk.injEq, Except.ok.injEq] at h
        obtain ⟨hident, hr'⟩ := h
        have hpush := pushSlot_spec (Prod.ext hident hr')
        exact ⟨netId, by simpa using hup, halloc, hpush⟩
    · cases h

theorem registerInterface_error {r r' : Router σ N S C} {sink : σ} {now : Nat}
    {e : RegisterError} (h : r.registerInterface sink now = (.error e, r')) :
    AgedOnly now r r' := by
  unfold registerInterface at h
  split at h
  · cases h
    exact .refl _ _
  · dsimp only at h
    split at h
    · split at h
      · cases h
        exact .gcSeed _ _
      · cases h
    · cases h
      exact .gcSeed _ _

/-- A pending slot has no name yet. -/
theorem registerInterfacePending_ok {r r' : Router σ N S C} {sink : σ} {ident : UInt8}
    (h : r.registerInterfacePending sink = (.ok ident, r')) :
    ident ∉ r.slots.toList.map Slot.ident ∧ ident ≠ upstreamIdent ∧
      r'.slots.toList = r.slots.toList ++ [⟨ident, .newController sink .down, 0⟩] ∧
      r'.seedRoutes = r.seedRoutes ∧ r'.nodeClaims = r.nodeClaims ∧
      r'.upstream = r.upstream ∧ r'.rng = r.rng := by
  unfold registerInterfacePending at h
  split at h
  · simp only [Prod.mk.injEq, Except.ok.injEq] at h
    obtain ⟨hident, hr'⟩ := h
    exact pushSlot_spec (Prod.ext hident hr')
  · cases h

theorem registerInterfacePending_error {r r' : Router σ N S C} {sink : σ} {e : RegisterError}
    (h : r.registerInterfacePending sink = (.error e, r')) : r' = r := by
  unfold registerInterfacePending at h
  split at h
  · cases h
  · cases h
    rfl

/-- What deregistration does to a seed route. -/
def tombstoneVia (ident : UInt8) (now : Nat) (e : LeaseEntry UInt16 SeedRoute) :
    LeaseEntry UInt16 SeedRoute :=
  if e.extra.viaIdent = ident then
    { e with kind := .tombstone (now + secs tombstoneDurationSecs) }
  else e

theorem tombstoneVia_id (ident : UInt8) (now : Nat) (e : LeaseEntry UInt16 SeedRoute) :
    (tombstoneVia ident now e).key = e.key ∧ (tombstoneVia ident now e).scope = e.scope := by
  unfold tombstoneVia
  split
  · exact ⟨rfl, rfl⟩
  · exact ⟨rfl, rfl⟩

/-- A deregistered slot is gone, its seed routes are tombstones, and its claims
are dropped. -/
theorem deregisterInterface_ok {r r' : Router σ N S C} {ident : UInt8} {now : Nat}
    (h : r.deregisterInterface ident now = (.ok (), r')) :
    ∃ slot, slot.ident = ident ∧ r.netIdOf ident = some slot.netId ∧
      (slot :: r'.slots.toList).Perm r.slots.toList ∧
      r'.seedRoutes = r.seedRoutes.mapEntries (tombstoneVia ident now) ∧
      r'.nodeClaims = r.nodeClaims.dropScope slot.netId ∧
      r'.upstream = r.upstream ∧ r'.rng = r.rng := by
  unfold deregisterInterface at h
  split at h
  · cases h
  · next pos hpos =>
    simp only [Prod.mk.injEq, true_and] at h
    subst h
    have hlt := (List.findIdx?_eq_some_iff_getElem.mp hpos).1
    have hident := (List.findIdx?_eq_some_iff_getElem.mp hpos).2.1
    have hfind : r.slots.toList.find? (fun s => s.ident = ident) = some r.slots.toList[pos] := by
      rw [List.find?_eq_some_iff_getElem]
      refine ⟨hident, pos, hlt, rfl, ?_⟩
      intro j hj
      simpa using (List.findIdx?_eq_some_iff_getElem.mp hpos).2.2 j hj
    refine ⟨r.slots.toList[pos], by simpa using hident, ?_, ?_, rfl, rfl, rfl, rfl⟩
    · rw [netIdOf, hfind]
      rfl
    · exact HeaplessVec.swapRemoveList_perm _ pos hlt

theorem deregisterInterface_error {r r' : Router σ N S C} {ident : UInt8} {now : Nat}
    {e : DeregisterError} (h : r.deregisterInterface ident now = (.error e, r')) : r' = r := by
  unfold deregisterInterface at h
  split at h
  · cases h
    rfl
  · cases h

/-- A renumbered slot has a name nobody else uses, and the claims of its old
name are dropped. -/
theorem reassignInterfaceNetId_ok {r r' : Router σ N S C} {ident : UInt8} {netId : UInt16}
    (h : r.reassignInterfaceNetId ident netId = (.ok (), r')) :
    ∃ slot before after, netId ≠ 0 ∧
      (∀ s ∈ r.slots.toList, s.ident ≠ ident → s.netId ≠ netId) ∧
      r.seedRoutes.containsKey netId = false ∧ r.upstreamNetId ≠ some netId ∧
      slot.ident = ident ∧ r.slots.toList = before ++ slot :: after ∧
      r'.slots.toList = before ++
        { slot with netId, port := { slot.port with
            ownNodeId := centralNodeId, state := .active netId centralNodeId } } :: after ∧
      r'.seedRoutes = r.seedRoutes ∧
      r'.nodeClaims = (if slot.netId ≠ netId then r.nodeClaims.dropScope slot.netId
        else r.nodeClaims) ∧
      r'.upstream = r.upstream ∧ r'.rng = r.rng := by
  unfold reassignInterfaceNetId at h
  split at h
  · cases h
  · next hfree =>
    simp only [not_or, List.any_eq_true, decide_eq_true_eq, not_exists, not_and,
      Bool.not_eq_true] at hfree
    obtain ⟨hne, hslots, hseed, hup⟩ := hfree
    split at h
    · cases h
    · next slot hslot =>
      simp only [Prod.mk.injEq] at h
      obtain ⟨-, rfl⟩ := h
      obtain ⟨before, after, hsplit, -, hmod⟩ := HeaplessVec.modifyFirstList_split
        (fun s => { s with
          netId, port := (s.port.setState (.active netId centralNodeId)).2 }) hslot
      have hident : slot.ident = ident := by simpa using List.find?_some hslot
      exact ⟨slot, before, after, hne, hslots, hseed, hup, hident, hsplit, hmod, rfl, rfl,
        rfl, rfl⟩

theorem reassignInterfaceNetId_error {r r' : Router σ N S C} {ident : UInt8} {netId : UInt16}
    {e : SetStateError} (h : r.reassignInterfaceNetId ident netId = (.error e, r')) :
    r' = r := by
  unfold reassignInterfaceNetId at h
  split at h
  · cases h
    rfl
  · split at h
    · cases h
      rfl
    · -- node id 1 is valid, so `set_state` succeeds
      simp only [Prod.mk.injEq] at h
      cases h.1

theorem setInterfaceState_quiet (now : Nat) (r : Router σ N S C) (ident : UInt8)
    (state : InterfaceState) : Quiet now r (r.setInterfaceState ident state).2 := by
  unfold setInterfaceState
  split
  · split
    · exact .refl _ _
    · next up hup => exact .of_ports rfl rfl rfl (by simp [hasUpstream, hup]) rfl
  · split
    · exact .refl _ _
    · exact .of_ports (HeaplessVec.map_modifyFirstList _ _ _ fun _ _ => rfl) rfl rfl rfl rfl

theorem isTransitNet_quiet (r : Router σ N S C) (netId : UInt16) (now : Nat) :
    Quiet now r (r.isTransitNet netId now).2 := by
  unfold isTransitNet
  split
  · exact .refl _ _
  · split
    · exact .refl _ _
    · exact
        { Quiet.refl now r with
          seedKeys := r.seedRoutes.keys_containsKeyAt_subperm netId now
          seed := fun hk k s => LeaseTable.aged_get_containsKeyAt hk netId now k s }

/-! ## Root seed assignments -/

/-- A granted assignment: a fresh name, a fresh token, 30 seconds. -/
theorem requestSeedNetAssign_ok {r r' : Router σ N S C} {src : UInt16} {now : Nat}
    {a : SeedNetAssignment} (h : r.requestSeedNetAssign src now = (.ok a, r')) :
    ∃ via, r.hasUpstream = false ∧ src ≠ 0 ∧ r.slotIdent src = some via ∧
      (r.seedRoutes.gc now).isFull = false ∧
      (r.gcSeed now).allocNetId = some a.netId ∧
      a.expiresSeconds = initialLeaseSecs ∧ a.minRefreshSeconds = minRefreshSecs ∧
      a.refreshToken = r.rng.next.1 ∧
      r' = { r with
        rng := r.rng.next.2
        seedRoutes := (r.seedRoutes.gc now).push a.netId src ⟨via, none⟩
          (.fresh now initialLeaseSecs r.rng.next.1) } := by
  unfold requestSeedNetAssign at h
  split at h
  · cases h
  · next hup =>
    split at h
    · cases h
    · next hsrc =>
      dsimp only at h
      split at h
      · cases h
      · next via hvia =>
        split at h
        · cases h
        · next hfull =>
          split at h
          · cases h
          · next netId halloc =>
            simp only [Prod.mk.injEq, Except.ok.injEq] at h
            obtain ⟨rfl, rfl⟩ := h
            exact ⟨via, by simpa using hup, hsrc, hvia, Bool.eq_false_iff.mpr hfull, halloc, rfl,
              rfl, rfl, rfl⟩

theorem requestSeedNetAssign_error {r r' : Router σ N S C} {src : UInt16} {now : Nat}
    {e : SeedAssignmentError} (h : r.requestSeedNetAssign src now = (.error e, r')) :
    AgedOnly now r r' := by
  unfold requestSeedNetAssign at h
  split at h
  · cases h
    exact .refl _ _
  · split at h
    · cases h
      exact .refl _ _
    · dsimp only at h
      split at h
      · cases h
        exact .gcSeed _ _
      · split at h
        · cases h
          exact .gcSeed _ _
        · split at h
          · cases h
            exact .gcSeed _ _
          · cases h

/-- A refresh that is granted: the lease was renewed under a new token, or the
last answer is replayed and only a random number was drawn. -/
theorem refreshSeedNetAssignment_ok {r r' : Router σ N S C} {src net : UInt16} {tok : Token}
    {now : Nat} {a : SeedNetAssignment}
    (h : r.refreshSeedNetAssignment src net tok now = (.ok a, r')) :
    ∃ e l, r.seedRoutes.get net src = some e ∧ e.kind = .active l ∧ now < l.expiration ∧
      a.netId = net ∧
      ((l.refreshToken = tok ∧ l.expiration - now ≤ secs minRefreshSecs.toNat ∧
          a.expiresSeconds = maxLeaseSecs ∧ a.refreshToken = r.rng.next.1 ∧
          r' = setSeedKind { r with rng := r.rng.next.2 } net src
            (.active (LeaseKind.renewed l now r.rng.next.1))) ∨
        (l.refreshToken ≠ tok ∧ l.previousRefreshToken = some tok ∧
          a.expiresSeconds = remainingLeaseSeconds l.expiration now ∧
          a.refreshToken = l.refreshToken ∧
          r' = setSeedKind { r with rng := r.rng.next.2 } net src e.kind)) := by
  unfold refreshSeedNetAssignment at h
  dsimp only at h
  split at h
  · cases h
  · next e hget =>
    cases href : e.kind.refresh tok now r.rng.next.1 true with
    | mk res kind =>
      rw [href] at h
      cases res with
      | error d => cases h
      | ok res =>
        obtain ⟨l', replayed⟩ := res
        simp only [Prod.mk.injEq, Except.ok.injEq] at h
        obtain ⟨rfl, rfl⟩ := h
        cases replayed with
        | false =>
          obtain ⟨l, hk, hexp, htok, hwin, rfl, rfl⟩ := LeaseKind.refresh_rotated href
          exact ⟨e, l, hget, hk, hexp, rfl, .inl ⟨htok, hwin, rfl, rfl, rfl⟩⟩
        | true =>
          obtain ⟨hk, rfl, hexp, hne, hprev⟩ := LeaseKind.refresh_replayed href
          exact ⟨e, l', hget, hk, hexp, rfl, .inr ⟨hne, hprev, rfl, rfl, rfl⟩⟩

theorem refreshSeedNetAssignment_error {r r' : Router σ N S C} {src net : UInt16} {tok : Token}
    {now : Nat} {err : SeedRefreshError}
    (h : r.refreshSeedNetAssignment src net tok now = (.error err, r')) : AgedOnly now r r' := by
  unfold refreshSeedNetAssignment at h
  dsimp only at h
  split at h
  · cases h
    exact .drawn _ _
  · next e hget =>
    cases href : e.kind.refresh tok now r.rng.next.1 true with
    | mk res kind =>
      rw [href] at h
      cases res with
      | ok res => cases h
      | error d =>
        simp only [Prod.mk.injEq] at h
        obtain ⟨-, rfl⟩ := h
        exact (AgedOnly.drawn _ _).trans (.setSeedKind hget (LeaseKind.refresh_error href))

/-- A release that succeeds presented the current token of a running lease. -/
theorem releaseSeedNetAssignment_ok {r r' : Router σ N S C} {src net : UInt16} {tok : Token}
    {now : Nat} (h : r.releaseSeedNetAssignment src net tok now = (.ok (), r')) :
    ∃ e l, (r.seedRoutes.gc now).get net src = some e ∧ e.kind = .active l ∧
      now < l.expiration ∧ l.refreshToken = tok ∧
      ∃ r'', AgedOnly now r r'' ∧
        r' = { r'' with seedRoutes := r''.seedRoutes.remove net src } := by
  unfold releaseSeedNetAssignment at h
  dsimp only at h
  split at h
  · cases h
  · next e hget =>
    cases hval : e.kind.validateToken tok now false with
    | mk res kind =>
      rw [hval] at h
      cases res with
      | error d => cases h
      | ok m =>
        simp only [Prod.mk.injEq, true_and] at h
        obtain ⟨l, hk, rfl, hexp, hacc⟩ := LeaseKind.validateToken_ok hval
        have hcur : l.refreshToken = tok := by
          cases hacc with
          | current hcur => exact hcur
          | replay _ hr _ => cases hr
        refine ⟨e, l, hget, hk, hexp, hcur, _, ?_, h.symm⟩
        exact (AgedOnly.gcSeed _ _).trans (.setSeedKind hget (.same _))

theorem releaseSeedNetAssignment_error {r r' : Router σ N S C} {src net : UInt16} {tok : Token}
    {now : Nat} {err : SeedRefreshError}
    (h : r.releaseSeedNetAssignment src net tok now = (.error err, r')) : AgedOnly now r r' := by
  unfold releaseSeedNetAssignment at h
  dsimp only at h
  split at h
  · cases h
    exact .gcSeed _ _
  · next e hget =>
    have hages := LeaseKind.validateToken_ages e.kind tok now false
    cases hval : e.kind.validateToken tok now false with
    | mk res kind =>
      rw [hval] at h hages
      cases res with
      | ok m => cases h
      | error d =>
        simp only [Prod.mk.injEq] at h
        obtain ⟨-, rfl⟩ := h
        exact (AgedOnly.gcSeed _ _).trans (.setSeedKind hget hages)

/-! ## Delegated seed assignments -/

theorem canDelegateSeed_agedOnly (r : Router σ N S C) (src : UInt16) (now : Nat) :
    AgedOnly now r (r.canDelegateSeed src now).2 := by
  unfold canDelegateSeed
  dsimp only
  split
  · exact .gcSeed _ _
  · split
    · exact .gcSeed _ _
    · exact .gcSeed _ _

/-- A delegated route replaces whatever route the name had. -/
theorem registerDelegatedSeedNet_ok {r r' : Router σ N S C} {src : UInt16} {parent : SeedLease}
    {now : Nat} {a : SeedNetAssignment}
    (h : r.registerDelegatedSeedNet src parent now = (.ok a, r')) :
    ∃ via, src ≠ 0 ∧ r.slotIdent src = some via ∧
      (∀ s ∈ r.slots.toList, s.netId ≠ parent.netId) ∧
      r.upstreamNetId ≠ some parent.netId ∧
      ((r.seedRoutes.gc now).removeKey parent.netId).isFull = false ∧
      a = delegatedAssignment parent r.rng.next.1 parent.expiresSeconds ∧
      r' = { r with
        rng := r.rng.next.2
        seedRoutes := ((r.seedRoutes.gc now).removeKey parent.netId).push parent.netId src
          ⟨via, some parent⟩ (.fresh now parent.expiresSeconds r.rng.next.1) } := by
  unfold registerDelegatedSeedNet at h
  dsimp only at h
  split at h
  · cases h
  · next hsrc =>
    split at h
    · cases h
    · next via hvia =>
      split at h
      · cases h
      · next hcoll =>
        simp only [not_or, List.any_eq_true, decide_eq_true_eq, not_exists, not_and] at hcoll
        split at h
        · cases h
        · split at h
          · cases h
          · next hfull =>
            simp only [Prod.mk.injEq, Except.ok.injEq] at h
            obtain ⟨rfl, rfl⟩ := h
            exact ⟨via, hsrc, hvia, hcoll.1, hcoll.2,
              Bool.eq_false_iff.mpr hfull, rfl, rfl⟩

/-- A table that is full after a removal has lost nothing. -/
theorem removeKey_of_isFull {t : LeaseTable UInt16 SeedRoute S} {key : UInt16}
    (h : (t.removeKey key).isFull = true) : t.removeKey key = t := by
  have hlen : (t.removeKey key).entries.toList.length = S := by
    simpa [LeaseTable.isFull, HeaplessVec.isFull] using h
  have hsub : (t.removeKey key).entries.toList.Sublist t.entries.toList := List.filter_sublist
  have heq := hsub.eq_of_length_le (by rw [hlen]; exact t.entries.bound)
  have hentries : (t.removeKey key).entries = t.entries := HeaplessVec.ext heq
  cases t
  exact congrArg LeaseTable.mk hentries

/-- The old route is dropped before the table is found to be full: then there was none. -/
theorem registerDelegatedSeedNet_error {r r' : Router σ N S C} {src : UInt16}
    {parent : SeedLease} {now : Nat} {e : SeedAssignmentError}
    (h : r.registerDelegatedSeedNet src parent now = (.error e, r')) : AgedOnly now r r' := by
  unfold registerDelegatedSeedNet at h
  dsimp only at h
  split at h
  · cases h
    exact .gcSeed _ _
  · split at h
    · cases h
      exact .gcSeed _ _
    · split at h
      · cases h
        exact .gcSeed _ _
      · split at h
        · cases h
          exact .gcSeed _ _
        · split at h
          · next hfull =>
            cases h
            rw [removeKey_of_isFull hfull]
            exact .gcSeed _ _
          · cases h

theorem prepareDelegatedRefresh_agedOnly (r : Router σ N S C) (src net : UInt16) (tok : Token)
    (now : Nat) : AgedOnly now r (r.prepareDelegatedRefresh src net tok now).2 := by
  unfold prepareDelegatedRefresh
  dsimp only
  split
  · exact .gcSeed _ _
  · next e hget =>
    split
    · exact .gcSeed _ _
    · have hages := LeaseKind.validateToken_ages e.kind tok now true
      refine (AgedOnly.gcSeed now r).trans ?_
      split
      · exact AgedOnly.modifyByKey hget hages
      · exact AgedOnly.modifyByKey hget hages
      · exact AgedOnly.modifyByKey hget hages
      · split
        · exact AgedOnly.modifyByKey hget hages
        · exact AgedOnly.modifyByKey hget hages

/-- A prepared refresh: the route's lease runs and knows the token; the current one
leads to the parent, the previous one gets the last answer again. -/
theorem prepareDelegatedRefresh_ok {r r' : Router σ N S C} {src net : UInt16} {tok : Token}
    {now : Nat} {res : DelegatedRefreshPreparation} (hu : r.seedRoutes.keys.Nodup)
    (h : r.prepareDelegatedRefresh src net tok now = (.ok res, r')) :
    ∃ e l p, r.seedRoutes.get net src = some e ∧ e.kind = .active l ∧
      e.extra.parent = some p ∧ now < l.expiration ∧
      ((l.refreshToken = tok ∧ res = .forward p) ∨
        (l.refreshToken ≠ tok ∧ l.previousRefreshToken = some tok ∧
          res = .replay (delegatedAssignment p l.refreshToken
            (remainingLeaseSeconds l.expiration now)))) := by
  unfold prepareDelegatedRefresh at h
  dsimp only at h
  split at h
  · cases h
  · next e hget =>
    split at h
    · cases h
    · next hscope =>
      have hscope : e.scope = src := Decidable.not_not.mp hscope
      have hgc := LeaseTable.byKey_eq_get (hu.sublist (r.seedRoutes.keys_gc_sublist now)) hget
      rw [hscope] at hgc
      have haged := LeaseTable.aged_get_gc (LeaseTable.ids_nodup hu) now net src
      rcases hval : e.kind.validateToken tok now true with ⟨d | m, kind⟩
      · simp [hval] at h
      · obtain ⟨l, hk, rfl, hexp, hacc⟩ := LeaseKind.validateToken_ok hval
        rw [hgc] at haged
        obtain ⟨e₀, he₀, hages, heq⟩ := haged.of_some
        rw [hk] at hages
        have hk₀ := hages.active_eq
        have he : e₀ = e := by rw [heq, hk, ← hk₀]
        subst he
        cases hp : e₀.extra.parent with
        | none => cases m <;> simp [hval, hp] at h
        | some p =>
          refine ⟨e₀, l, p, he₀, hk, hp, hexp, ?_⟩
          cases hacc with
          | current hcur =>
            simp only [hval, hp, Prod.mk.injEq, Except.ok.injEq] at h
            exact .inl ⟨hcur, h.1.symm⟩
          | replay hne _ hprev =>
            rw [hk] at hval
            simp only [hk, hval, hp, Prod.mk.injEq, Except.ok.injEq] at h
            exact .inr ⟨hne, hprev, h.1.symm⟩

/-- A committed refresh follows the parent's lease and rotates the token. -/
theorem commitDelegatedRefresh_ok {r r' : Router σ N S C} {src : UInt16} {tok : Token}
    {parent : SeedLease} {now : Nat} {a : SeedNetAssignment}
    (h : r.commitDelegatedRefresh src tok parent now = (.ok a, r')) :
    ∃ e l p, r.seedRoutes.get parent.netId src = some e ∧ e.kind = .active l ∧
      e.extra.parent = some p ∧ now < l.expiration ∧ l.refreshToken = tok ∧
      a = delegatedAssignment parent r.rng.next.1 parent.expiresSeconds ∧
      r' = { r with
        rng := r.rng.next.2
        seedRoutes := r.seedRoutes.modifyGet parent.netId src fun e =>
          { e with
            extra := { e.extra with parent := some parent }
            kind := .active
              (l.rotated (now + secs parent.expiresSeconds.toNat) r.rng.next.1) } } := by
  unfold commitDelegatedRefresh at h
  split at h
  · cases h
  · dsimp only at h
    split at h
    · cases h
    · next e hget =>
      split at h
      · cases h
      · cases h
      · next m l hval =>
        obtain ⟨l', hk, hl, hexp, hacc⟩ := LeaseKind.validateToken_ok hval
        rw [hk] at hl
        cases hl
        have hcur : l.refreshToken = tok := by
          cases hacc with
          | current hcur => exact hcur
          | replay _ hr _ => cases hr
        split at h
        · cases h
        · next p hp =>
          simp only [Prod.mk.injEq, Except.ok.injEq] at h
          obtain ⟨rfl, rfl⟩ := h
          exact ⟨e, l, p, hget, hk, hp, hexp, hcur, rfl, rfl⟩

theorem commitDelegatedRefresh_error {r r' : Router σ N S C} {src : UInt16} {tok : Token}
    {parent : SeedLease} {now : Nat} {err : SeedRefreshError}
    (h : r.commitDelegatedRefresh src tok parent now = (.error err, r')) : AgedOnly now r r' := by
  unfold commitDelegatedRefresh at h
  split at h
  · cases h
    exact .refl _ _
  · dsimp only at h
    split at h
    · cases h
      exact .drawn _ _
    · next e hget =>
      have hages := LeaseKind.validateToken_ages e.kind tok now false
      split at h
      · next d kind hval =>
        rw [hval] at hages
        cases h
        exact (AgedOnly.drawn _ _).trans (.setSeedKind hget hages)
      · cases h
        exact .drawn _ _
      · split at h
        · cases h
          exact .drawn _ _
        · cases h

theorem prepareDelegatedRelease_agedOnly (r : Router σ N S C) (src net : UInt16) (tok : Token)
    (now : Nat) : AgedOnly now r (r.prepareDelegatedRelease src net tok now).2 := by
  unfold prepareDelegatedRelease
  dsimp only
  split
  · exact .gcSeed _ _
  · next e hget =>
    have hages := LeaseKind.validateToken_ages e.kind tok now false
    refine (AgedOnly.gcSeed now r).trans ?_
    split
    · exact .setSeedKind hget hages
    · exact .setSeedKind hget hages
    · exact .setSeedKind hget hages

/-- A prepared release presented the current token of a running lease, and leads to the
parent. -/
theorem prepareDelegatedRelease_ok {r r' : Router σ N S C} {src net : UInt16} {tok : Token}
    {now : Nat} {p : SeedLease} (hu : r.seedRoutes.keys.Nodup)
    (h : r.prepareDelegatedRelease src net tok now = (.ok p, r')) :
    ∃ e l, r.seedRoutes.get net src = some e ∧ e.kind = .active l ∧
      e.extra.parent = some p ∧ now < l.expiration ∧ l.refreshToken = tok := by
  unfold prepareDelegatedRelease at h
  dsimp only at h
  split at h
  · cases h
  · next e hget =>
    have hget : (r.seedRoutes.gc now).get net src = some e := hget
    have haged := LeaseTable.aged_get_gc (LeaseTable.ids_nodup hu) now net src
    rcases hval : e.kind.validateToken tok now false with ⟨d | m, kind⟩
    · simp [hval] at h
    · obtain ⟨l, hk, rfl, hexp, hacc⟩ := LeaseKind.validateToken_ok hval
      rw [hget] at haged
      obtain ⟨e₀, he₀, hages, heq⟩ := haged.of_some
      rw [hk] at hages
      have hk₀ := hages.active_eq
      have he : e₀ = e := by rw [heq, hk, ← hk₀]
      subst he
      cases hp : e₀.extra.parent with
      | none => simp [hval, hp] at h
      | some p' =>
        simp only [hval, hp, Prod.mk.injEq, Except.ok.injEq] at h
        obtain ⟨rfl, -⟩ := h
        cases hacc with
        | current hcur => exact ⟨e₀, l, he₀, hk, hp, hexp, hcur⟩
        | replay _ hr _ => cases hr

/-- A committed release presented the current token of a running lease. -/
theorem commitDelegatedRelease_ok {r r' : Router σ N S C} {src net : UInt16} {tok : Token}
    {now : Nat} (h : r.commitDelegatedRelease src net tok now = (.ok (), r')) :
    ∃ e l, r.seedRoutes.get net src = some e ∧ e.kind = .active l ∧ now < l.expiration ∧
      l.refreshToken = tok ∧
      ∃ r'', AgedOnly now r r'' ∧
        r' = { r'' with seedRoutes := r''.seedRoutes.remove net src } := by
  unfold commitDelegatedRelease at h
  split at h
  · cases h
  · next e hget =>
    dsimp only at h
    cases hval : e.kind.validateToken tok now false with
    | mk res kind =>
      rw [hval] at h
      cases res with
      | error d => cases h
      | ok m =>
        simp only [Prod.mk.injEq, true_and] at h
        obtain ⟨l, hk, rfl, hexp, hacc⟩ := LeaseKind.validateToken_ok hval
        have hcur : l.refreshToken = tok := by
          cases hacc with
          | current hcur => exact hcur
          | replay _ hr _ => cases hr
        exact ⟨e, l, hget, hk, hexp, hcur, _, .setSeedKind hget (.same _), h.symm⟩

theorem commitDelegatedRelease_error {r r' : Router σ N S C} {src net : UInt16} {tok : Token}
    {now : Nat} {err : SeedRefreshError}
    (h : r.commitDelegatedRelease src net tok now = (.error err, r')) : AgedOnly now r r' := by
  unfold commitDelegatedRelease at h
  split at h
  · cases h
    exact .refl _ _
  · next e hget =>
    have hages := LeaseKind.validateToken_ages e.kind tok now false
    dsimp only at h
    cases hval : e.kind.validateToken tok now false with
    | mk res kind =>
      rw [hval] at h hages
      cases res with
      | ok m => cases h
      | error d =>
        simp only [Prod.mk.injEq] at h
        obtain ⟨-, rfl⟩ := h
        exact .setSeedKind hget hages

/-! ## Node claims -/

/-- A granted claim: a retransmission of a running one, or a fresh entry. -/
theorem requestNodeClaim_ok {r r' : Router σ N S C} {src : UInt16} {node : UInt8}
    {nonce : UInt64} {now : Nat} {a : NodeClaimAssignment}
    (h : r.requestNodeClaim src node nonce now = (.ok a, r')) :
    reservedNodeId node = false ∧ src ≠ 0 ∧ (∃ s ∈ r.slots.toList, s.netId = src) ∧
      ((∃ e l, (r.nodeClaims.gc now).get node src = some e ∧ e.kind = .active l ∧
          e.extra = nonce ∧ a.refreshToken = l.refreshToken ∧
          a.expiresSeconds = UInt16.ofNat ((l.expiration - now) / secs 1) ∧
          r' = r.gcClaims now) ∨
        ((r.nodeClaims.gc now).get node src = none ∧ (r.nodeClaims.gc now).isFull = false ∧
          a.refreshToken = r.rng.next.1 ∧ a.expiresSeconds = initialLeaseSecs ∧
          r' = { r with
            rng := r.rng.next.2
            nodeClaims := (r.nodeClaims.gc now).push node src nonce
              (.fresh now initialLeaseSecs r.rng.next.1) })) := by
  unfold requestNodeClaim at h
  split at h
  · cases h
  · next hres =>
    dsimp only at h
    split at h
    · cases h
    · next hsrc =>
      simp only [not_or, Decidable.not_not, List.any_eq_true, decide_eq_true_eq] at hsrc
      refine ⟨by simpa using hres, hsrc.1, hsrc.2, ?_⟩
      split at h
      · next e hget =>
        split at h
        · cases h
        · next l hk =>
          split at h
          · next hnonce =>
            simp only [Prod.mk.injEq, Except.ok.injEq] at h
            obtain ⟨rfl, rfl⟩ := h
            exact .inl ⟨e, l, hget, hk, hnonce, rfl, rfl, rfl⟩
          · cases h
      · next hget =>
        split at h
        · cases h
        · next hfull =>
          simp only [Prod.mk.injEq, Except.ok.injEq] at h
          obtain ⟨rfl, rfl⟩ := h
          exact .inr ⟨hget, Bool.eq_false_iff.mpr hfull, rfl, rfl, rfl⟩

theorem requestNodeClaim_error {r r' : Router σ N S C} {src : UInt16} {node : UInt8}
    {nonce : UInt64} {now : Nat} {e : AddressClaimError}
    (h : r.requestNodeClaim src node nonce now = (.error e, r')) : AgedOnly now r r' := by
  unfold requestNodeClaim at h
  split at h
  · cases h
    exact .refl _ _
  · dsimp only at h
    split at h
    · cases h
      exact .gcClaims _ _
    · split at h
      · split at h
        · cases h
          exact .gcClaims _ _
        · split at h
          · cases h
          · cases h
            exact .gcClaims _ _
      · split at h
        · cases h
          exact .gcClaims _ _
        · cases h

/-- A refreshed claim: renewed under a new token, or a replay. -/
theorem refreshNodeClaim_ok {r r' : Router σ N S C} {src : UInt16} {node : UInt8} {tok : Token}
    {now : Nat} {a : NodeClaimAssignment}
    (h : r.refreshNodeClaim src node tok now = (.ok a, r')) :
    ∃ e l, r.nodeClaims.get node src = some e ∧ e.kind = .active l ∧ now < l.expiration ∧
      ((l.refreshToken = tok ∧ l.expiration - now ≤ secs minRefreshSecs.toNat ∧
          a.expiresSeconds = maxLeaseSecs ∧ a.refreshToken = r.rng.next.1 ∧
          r' = { r with
            rng := r.rng.next.2
            nodeClaims := r.nodeClaims.setKind node src
              (.active (LeaseKind.renewed l now r.rng.next.1)) }) ∨
        (l.refreshToken ≠ tok ∧ l.previousRefreshToken = some tok ∧
          a.expiresSeconds = remainingLeaseSeconds l.expiration now ∧
          a.refreshToken = l.refreshToken ∧
          r' = { r with
            rng := r.rng.next.2
            nodeClaims := r.nodeClaims.setKind node src e.kind })) := by
  unfold refreshNodeClaim at h
  dsimp only at h
  split at h
  · cases h
  · next e hget =>
    cases href : e.kind.refresh tok now r.rng.next.1 true with
    | mk res kind =>
      rw [href] at h
      cases res with
      | error d => cases h
      | ok res =>
        obtain ⟨l', replayed⟩ := res
        simp only [Prod.mk.injEq, Except.ok.injEq] at h
        obtain ⟨rfl, rfl⟩ := h
        cases replayed with
        | false =>
          obtain ⟨l, hk, hexp, htok, hwin, rfl, rfl⟩ := LeaseKind.refresh_rotated href
          exact ⟨e, l, hget, hk, hexp, .inl ⟨htok, hwin, rfl, rfl, rfl⟩⟩
        | true =>
          obtain ⟨hk, rfl, hexp, hne, hprev⟩ := LeaseKind.refresh_replayed href
          exact ⟨e, l', hget, hk, hexp, .inr ⟨hne, hprev, rfl, rfl, rfl⟩⟩

theorem refreshNodeClaim_error {r r' : Router σ N S C} {src : UInt16} {node : UInt8}
    {tok : Token} {now : Nat} {err : AddressRefreshError}
    (h : r.refreshNodeClaim src node tok now = (.error err, r')) : AgedOnly now r r' := by
  unfold refreshNodeClaim at h
  dsimp only at h
  split at h
  · cases h
    exact .drawn _ _
  · next e hget =>
    cases href : e.kind.refresh tok now r.rng.next.1 true with
    | mk res kind =>
      rw [href] at h
      cases res with
      | ok res => cases h
      | error d =>
        simp only [Prod.mk.injEq] at h
        obtain ⟨-, rfl⟩ := h
        exact (AgedOnly.drawn _ _).trans (.setClaimKind hget (LeaseKind.refresh_error href))

end Router

end Ergot
