import Ergot.Router.Segment

/-!
# A seed route is bound to one registration

A seed route names its interface by the ident, and idents are handed out again. `GrantedThrough`
says that a route was granted through the interface that has the ident now: the ident was
registered then, and has been ever since, so nobody else can have got it.

- `RouteGranted`: a step grants a route, as an assignment of a root or a registration of a bridge.
  A refresh is no grant.
- `grantedThrough_of_active`: every active route was granted through the interface it names.
- `active_needs_grant`: a route that is not active becomes active by a grant only.
- `seed_route_bound`: both over whole runs, and what they say of `find`.
-/

namespace Ergot

namespace Router

open Runs

variable {σ : Type} {N S C : Nat}

/-- The step grants the seed route `(k, s)` through the interface `via`. -/
inductive RouteGranted (k s : UInt16) (via : UInt8) (r : Router σ N S C) : Clock × Op σ → Prop
  | assigned {clock a} (h : (r.requestSeedNetAssign s clock.now).1 = .ok a) (hk : a.netId = k)
      (hvia : r.slotIdent s = some via) :
      RouteGranted k s via r (clock, .requestSeedNetAssign s)
  | delegated {clock parent a} (h : (r.registerDelegatedSeedNet s parent clock.now).1 = .ok a)
      (hk : parent.netId = k) (hvia : r.slotIdent s = some via) :
      RouteGranted k s via r (clock, .registerDelegatedSeedNet s parent)

/-- The route `(k, s)` runs, in the sense that it is no tombstone. -/
def ActiveRoute (k s : UInt16) (r : Router σ N S C) : Prop :=
  ∃ e l, r.seedRoutes.get k s = some e ∧ e.kind = .active l

/-- The ident belongs to an interface. -/
def Registered (i : UInt8) (r : Router σ N S C) : Prop := r.netIdOf i ≠ none

/-- A route that is granted goes through a registered interface, with the net id the request
came from. -/
theorem slotIdent_netIdOf {r : Router σ N S C} (hwf : r.directory.Wf) {s : UInt16} {via : UInt8}
    (h : r.slotIdent s = some via) : r.netIdOf via = some s := by
  obtain ⟨slot, hslot, rfl⟩ := Option.map_eq_some_iff.mp h
  have hnet : slot.netId = s := by simpa using List.find?_some hslot
  rw [← hnet, netIdOf_eq_some hwf]
  exact List.mem_map.mpr ⟨slot, List.mem_of_find?_eq_some hslot, rfl⟩

theorem RouteGranted.registered {k s : UInt16} {via : UInt8} {r : Router σ N S C}
    {step : Clock × Op σ} (hwf : r.directory.Wf) (h : RouteGranted k s via r step) :
    Registered via r := by
  have hnet : r.netIdOf via = some s := by
    cases h with
    | assigned _ _ hvia => exact slotIdent_netIdOf hwf hvia
    | delegated _ _ hvia => exact slotIdent_netIdOf hwf hvia
  rw [Registered, hnet]
  exact Option.some_ne_none s

/-- After a deregistration, no route through the interface is active. -/
theorem deregister_tombstones {r : Router σ N S C} {ident : UInt8} {now : Nat}
    (h : (r.deregisterInterface ident now).1 = .ok ()) {k s : UInt16}
    {e : LeaseEntry UInt16 SeedRoute} {l : Lease}
    (he : (r.deregisterInterface ident now).2.seedRoutes.get k s = some e)
    (hl : e.kind = .active l) : e.extra.viaIdent ≠ ident := by
  rcases hres : r.deregisterInterface ident now with ⟨_ | _, r'⟩
  · rw [hres] at h
    cases h
  · obtain ⟨slot, -, -, -, hseed, -⟩ := deregisterInterface_ok hres
    rw [hres] at he
    have he : r'.seedRoutes.get k s = some e := he
    rw [hseed, LeaseTable.get_mapEntries _ (tombstoneVia_id ident now),
      Option.map_eq_some_iff] at he
    obtain ⟨e₀, -, rfl⟩ := he
    unfold tombstoneVia at hl ⊢
    split at hl
    · cases hl
    · next hvia =>
      rw [if_neg hvia]
      exact hvia

variable [InterfaceSink σ]

/-- An interface stays registered until it is deregistered. -/
theorem Registered.step {r : Router σ N S C} (hwf : r.directory.Wf) {i : UInt8}
    (h : Registered i r) (step : Clock × Op σ) :
    Registered i (r.exec step) ∨
      step.2 = .deregisterInterface i ∧ (r.deregisterInterface i step.1.now).1 = .ok () := by
  obtain ⟨clock, op⟩ := step
  have heffect := slot_effect hwf clock op i
  generalize hafter : (r.exec (clock, op)).netIdOf i = after at heffect
  cases heffect with
  | kept heq => exact .inl (by rw [Registered, hafter, heq]; exact h)
  | registered _ hnone => exact absurd hnone h
  | pending _ hnone => exact absurd hnone h
  | deregistered hok _ => exact .inr ⟨rfl, hok⟩
  | renumbered _ _ _ => exact .inl (by rw [Registered, hafter]; exact Option.some_ne_none _)

/-- A step that leaves a route active leaves its interface registered. -/
theorem Registered.of_active {r : Router σ N S C} (hwf : r.directory.Wf) {step : Clock × Op σ}
    {k s : UInt16} {e : LeaseEntry UInt16 SeedRoute} {l : Lease}
    (he : (r.exec step).seedRoutes.get k s = some e) (hl : e.kind = .active l)
    (h : Registered e.extra.viaIdent r) : Registered e.extra.viaIdent (r.exec step) := by
  rcases h.step hwf step with h | ⟨hop, hok⟩
  · exact h
  · obtain ⟨clock, op⟩ := step
    subst hop
    exact absurd rfl (deregister_tombstones hok he hl)

/-- What a step that leaves a route active has done: it has granted the route, or the route was
active before, through the same interface. -/
theorem active_step {r : Router σ N S C} (hwf : r.directory.Wf) (step : Clock × Op σ)
    {k s : UInt16} {e : LeaseEntry UInt16 SeedRoute} {l : Lease}
    (he : (r.exec step).seedRoutes.get k s = some e) (hl : e.kind = .active l) :
    RouteGranted k s e.extra.viaIdent r step ∨
      ∃ e₀ l₀, r.seedRoutes.get k s = some e₀ ∧ e₀.kind = .active l₀ ∧
        e₀.extra.viaIdent = e.extra.viaIdent := by
  obtain ⟨clock, op⟩ := step
  have heffect := seed_effect hwf clock op k s
  rw [he] at heffect
  generalize ho : some e = o at heffect
  cases heffect with
  | aged haged =>
    rw [← ho] at haged
    obtain ⟨e₀, he₀, hages, heq⟩ := haged.of_some
    rw [hl] at hages
    exact .inr ⟨e₀, l, he₀, hages.active_eq, by rw [heq]⟩
  | assigned hok hk hvia _ =>
    cases ho
    exact .inl (.assigned hok hk hvia)
  | renewed he₀ hl₀ _ _ _ =>
    cases ho
    exact .inr ⟨_, _, he₀, hl₀, rfl⟩
  | released _ _ _ _ _ => cases ho
  | releasedDelegated _ _ _ _ _ => cases ho
  | lost _ _ _ =>
    cases ho
    cases hl
  | delegated hok hk hvia =>
    cases ho
    exact .inl (.delegated hok hk hvia)
  | replaced _ => cases ho
  | committed hk he₀ hl₀ _ _ _ =>
    cases ho
    exact .inr ⟨_, _, he₀, hl₀, rfl⟩

/-- A route that is not active becomes active by a grant only. -/
theorem active_needs_grant {r : Router σ N S C} (hwf : r.Wf) {k s : UInt16}
    (hno : ¬ ActiveRoute k s r) {acts : List (Clock × Op σ)}
    (h : ActiveRoute k s (runAll exec r acts)) :
    Happens exec (fun r step => ∃ via, RouteGranted k s via r step) r acts := by
  by_contra hnone
  have hinv := runAll_unless
    (I := fun r : Router σ N S C => r.Wf ∧ ¬ ActiveRoute k s r)
    (P := fun r step => ∃ via, RouteGranted k s via r step) ?_ ⟨hwf, hno⟩ hnone
  · exact hinv.2 h
  · intro r step hr hgrant
    refine ⟨hr.1.exec step, ?_⟩
    rintro ⟨e, l, he, hl⟩
    rcases active_step hr.1.directory step he hl with hgranted | ⟨e₀, l₀, he₀, hl₀, -⟩
    · exact hgrant ⟨_, hgranted⟩
    · exact hr.2 ⟨e₀, l₀, he₀, hl₀⟩

/-- The route `(k, s)` was granted in the run through the interface `via`, which has been
registered ever since. -/
def GrantedThrough (r : Router σ N S C) (acts : List (Clock × Op σ)) (k s : UInt16) (via : UInt8) :
    Prop :=
  ∃ before grant after, acts = before ++ grant :: after ∧
    RouteGranted k s via (runAll exec r before) grant ∧
      Throughout exec (Registered via) (runAll exec r before) (grant :: after)

omit [InterfaceSink σ] in
theorem Initial.seedRoutes_get {r : Router σ N S C} (h : Initial r) (k s : UInt16) :
    r.seedRoutes.get k s = none := by
  cases h with
  | root => rfl
  | bridge => rfl

/-- Every active route was granted through the interface it names. -/
theorem grantedThrough_of_active {r : Router σ N S C} (hinit : Initial r)
    (acts : List (Clock × Op σ)) {k s : UInt16} {e : LeaseEntry UInt16 SeedRoute} {l : Lease}
    (he : (runAll exec r acts).seedRoutes.get k s = some e) (hl : e.kind = .active l) :
    GrantedThrough r acts k s e.extra.viaIdent := by
  induction acts using List.reverseRecOn generalizing e l with
  | nil =>
    rw [runAll_nil, hinit.seedRoutes_get] at he
    cases he
  | append_singleton acts step ih =>
    have hwf := (hinit.wf.run acts).directory
    rw [runAll_append] at he
    have he : (exec (runAll exec r acts) step).seedRoutes.get k s = some e := he
    rcases active_step hwf step he hl with hgrant | ⟨e₀, l₀, he₀, hl₀, hvia⟩
    · have hreg := hgrant.registered hwf
      exact ⟨acts, step, [], rfl, hgrant, hreg, hreg.of_active hwf he hl⟩
    · obtain ⟨before, grant, after, rfl, hgrant, hall⟩ := ih he₀ hl₀
      rw [hvia] at hgrant hall
      refine ⟨before, grant, after ++ [step], by simp, hgrant, ?_⟩
      refine Throughout.snoc hall ?_
      have hlast := hall.last
      rw [← runAll_append] at hlast ⊢
      exact hlast.of_active hwf he hl

omit [InterfaceSink σ] in
/-- What `find` does with a destination that only a seed route serves: it takes the interface
the route names. -/
theorem find_seedRoute {r : Router σ N S C} {hdr : Header} {source : Option UInt8} {clock : Clock}
    {ref : PortMut σ N S C} {e : LeaseEntry UInt16 SeedRoute}
    (hfind : (r.find hdr source clock).1 = .ok ref)
    (hdirect : r.slots.toList.find? (Slot.serves hdr.dst.networkId) = none)
    (he : (r.gcSeed clock.now).seedRoutes.byKey hdr.dst.networkId = some e) :
    e.kind.isActive clock.later = true ∧ ∃ slot ∈ r.slots.toList, slot.ident = e.extra.viaIdent ∧
      ref = (r.gcSeed clock.now).slotMut (fun s => s.ident = e.extra.viaIdent) slot := by
  unfold find at hfind
  split at hfind
  · cases hfind
  · unfold findAged at hfind
    have hdirect : (r.gcSeed clock.now).slots.toList.find? (Slot.serves hdr.dst.networkId)
        = none := hdirect
    simp only [hdirect, he] at hfind
    split at hfind
    · next hactive =>
      split at hfind
      · cases hfind
      · split at hfind
        · cases hfind
        · next slot hslot =>
          cases hfind
          exact ⟨hactive, slot, List.mem_of_find?_eq_some hslot,
            by simpa using List.find?_some hslot, rfl⟩
    · cases hfind

/-- **A seed route is bound to one registration.** After every run: an active route was granted
through the interface that has its ident now; a route that is not active is active later only
after a grant; and a frame that `find` sends along a seed route goes out through the interface
the route was granted through. -/
theorem seed_route_bound (r : Router σ N S C) (hinit : Initial r) (acts : List (Clock × Op σ)) :
    (∀ e ∈ (runAll exec r acts).seedRoutes.entries.toList, ∀ l, e.kind = .active l →
      GrantedThrough r acts e.key e.scope e.extra.viaIdent) ∧
      (∀ k s more, ¬ ActiveRoute k s (runAll exec r acts) →
        ActiveRoute k s (runAll exec r (acts ++ more)) →
          Happens exec (fun r step => ∃ via, RouteGranted k s via r step)
            (runAll exec r acts) more) ∧
      ∀ hdr source clock ref e, ((runAll exec r acts).find hdr source clock).1 = .ok ref →
        (runAll exec r acts).slots.toList.find? (Slot.serves hdr.dst.networkId) = none →
        ((runAll exec r acts).gcSeed clock.now).seedRoutes.byKey hdr.dst.networkId = some e →
          ∃ slot ∈ (runAll exec r acts).slots.toList,
            ref = ((runAll exec r acts).gcSeed clock.now).slotMut
              (fun s => s.ident = e.extra.viaIdent) slot ∧
            slot.ident = e.extra.viaIdent ∧
              GrantedThrough r acts hdr.dst.networkId e.scope slot.ident := by
  have hwf := hinit.wf.run acts
  have hkeys := hwf.directory.leases
  refine ⟨fun e he l hl => ?_, fun k s more hno hactive => ?_,
    fun hdr source clock ref e hfind hdirect hroute => ?_⟩
  · have hget := LeaseTable.get_of_mem (LeaseTable.ids_nodup hkeys) he
    exact grantedThrough_of_active hinit acts hget hl
  · rw [runAll_append] at hactive
    exact active_needs_grant hwf hno hactive
  · obtain ⟨hactive, slot, hslot, hident, href⟩ := find_seedRoute hfind hdirect hroute
    refine ⟨slot, hslot, href, hident, ?_⟩
    -- a route that is active after collection was there before
    obtain ⟨l, hl⟩ : ∃ l, e.kind = .active l := by
      cases hkind : e.kind with
      | active l => exact ⟨l, rfl⟩
      | tombstone c =>
        rw [hkind] at hactive
        cases hactive
    have hgc := LeaseTable.byKey_eq_get
      (hkeys.sublist ((runAll exec r acts).seedRoutes.keys_gc_sublist clock.now)) hroute
    have hget := get_of_get_gc (LeaseTable.ids_nodup hkeys) hgc hl
    rw [hident]
    exact grantedThrough_of_active hinit acts hget hl

/-- The ident 0 is given to a second interface. -/
def demoReuse : List (Clock × Op FrameQueue) :=
  [(.at 0, .registerInterface ⟨64, 1, []⟩), (.at 0, .requestSeedNetAssign 1),
    (.at (secs 1), .deregisterInterface 0), (.at (secs 2), .registerInterface ⟨64, 1, []⟩),
    (.at (secs 2), .requestSeedNetAssign 1)]

/-- The one route that is active then was granted through the second. -/
theorem seed_route_bound_demo :
    GrantedThrough (new ⟨fun i => UInt64.ofNat i, 0⟩ one_slot : Router FrameQueue 1 2 1)
      demoReuse 3 1 0 := by
  have h := (seed_route_bound (new ⟨fun i => UInt64.ofNat i, 0⟩ one_slot :
    Router FrameQueue 1 2 1) (.root _ _) demoReuse).1
  exact h ⟨3, 1, ⟨0, none⟩, .active ⟨secs 32, 1, none⟩⟩ (by decide +kernel) _ rfl

end Router

end Ergot
