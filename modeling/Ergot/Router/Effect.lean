import Ergot.Router.Unique

/-!
# What one step does to a lease

`SeedEffect` and `ClaimEffect` list everything one operation can do to the lease
of one `(key, scope)` pair, with the checks it made. `seed_effect` and
`claim_step` say that every operation does one of these: statements about leases
over runs are case analyses over the effects, not over the operations.
-/

namespace Ergot

namespace Router

variable {σ : Type} {N S C : Nat}

/-- An active entry found after collection was there before it, unchanged. -/
theorem get_of_get_gc {K X : Type} [DecidableEq K] {n : Nat} {t : LeaseTable K X n}
    (hu : t.ids.Nodup) {now : Nat} {k : K} {s : UInt16} {e : LeaseEntry K X} {l : Lease}
    (h : (t.gc now).get k s = some e) (hk : e.kind = .active l) : t.get k s = some e := by
  have haged := LeaseTable.aged_get_gc hu now k s
  rw [h] at haged
  obtain ⟨e', he', hages, heq⟩ := haged.of_some
  rw [hk] at hages
  have hk' := hages.active_eq
  rw [he', heq, hk, ← hk']

/-! ## Seed routes -/

/-- After an assignment the new route is found, and what a collection has left. -/
theorem requestSeedNetAssign_get {r r' : Router σ N S C} {src : UInt16} {now : Nat}
    {a : SeedNetAssignment} (h : r.requestSeedNetAssign src now = (.ok a, r')) :
    ∃ via, r.slotIdent src = some via ∧ (r.seedRoutes.gc now).containsKey a.netId = false ∧
      ∀ k s, r'.seedRoutes.get k s =
        if k = a.netId ∧ s = src then
          some ⟨a.netId, src, ⟨via, none⟩, .fresh now initialLeaseSecs r.rng.next.1⟩
        else (r.seedRoutes.gc now).get k s := by
  obtain ⟨via, -, -, hvia, hfull, halloc, -, -, -, rfl⟩ := requestSeedNetAssign_ok h
  obtain ⟨-, -, hfree, -⟩ := allocNetId_spec halloc
  have hnone : (r.seedRoutes.gc now).get a.netId src = none :=
    LeaseTable.get_eq_none_of_not_containsKey _ hfree
  exact ⟨via, hvia, hfree, LeaseTable.get_push hfull hnone⟩

/-- After a registration the new route is the only one of its net id. -/
theorem registerDelegatedSeedNet_get {r r' : Router σ N S C} {src : UInt16} {parent : SeedLease}
    {now : Nat} {a : SeedNetAssignment}
    (h : r.registerDelegatedSeedNet src parent now = (.ok a, r')) :
    ∃ via, r.slotIdent src = some via ∧ ∀ k s, r'.seedRoutes.get k s =
      if k = parent.netId then
        if s = src then
          some ⟨parent.netId, src, ⟨via, some parent⟩,
            .fresh now parent.expiresSeconds r.rng.next.1⟩
        else none
      else (r.seedRoutes.gc now).get k s := by
  obtain ⟨via, -, hvia, -, -, hfull, -, rfl⟩ := registerDelegatedSeedNet_ok h
  have hnone : ((r.seedRoutes.gc now).removeKey parent.netId).get parent.netId src = none := by
    rw [LeaseTable.get_removeKey, if_pos rfl]
  refine ⟨via, hvia, fun k s => ?_⟩
  rw [LeaseTable.get_push hfull hnone, LeaseTable.get_removeKey]
  by_cases hk : k = parent.netId
  · simp only [hk, true_and, if_true]
  · simp only [hk, false_and, if_false]

/-- A commit renews a running route and gives it another parent lease. -/
theorem commitDelegatedRefresh_get {r r' : Router σ N S C} {src : UInt16} {tok : Token}
    {parent : SeedLease} {now : Nat} {a : SeedNetAssignment}
    (h : r.commitDelegatedRefresh src tok parent now = (.ok a, r')) :
    ∃ e l p, r.seedRoutes.get parent.netId src = some e ∧ e.kind = .active l ∧
      e.extra.parent = some p ∧ now < l.expiration ∧ l.refreshToken = tok ∧
      ∀ k s, r'.seedRoutes.get k s =
        if k = parent.netId ∧ s = src then
          some { e with
            extra := { e.extra with parent := some parent }
            kind := .active (l.rotated (now + secs parent.expiresSeconds.toNat) r.rng.next.1) }
        else r.seedRoutes.get k s := by
  obtain ⟨e, l, p, he, hl, hp, hexp, htok, -, rfl⟩ := commitDelegatedRefresh_ok h
  refine ⟨e, l, p, he, hl, hp, hexp, htok, fun k s => ?_⟩
  show (r.seedRoutes.modifyGet parent.netId src _).get k s = _
  rw [LeaseTable.get_modifyGet r.seedRoutes parent.netId src
    (f := fun e => { e with
      extra := { e.extra with parent := some parent }
      kind := .active (l.rotated (now + secs parent.expiresSeconds.toNat) r.rng.next.1) })
    (fun _ => ⟨rfl, rfl⟩)]
  split
  · next hks =>
    obtain ⟨rfl, rfl⟩ := hks
    rw [he]
    rfl
  · rfl

/-- Everything one operation can do to the seed route `(k, s)`. -/
inductive SeedEffect (r : Router σ N S C) (clock : Clock) (k s : UInt16) :
    Op σ → Option (LeaseEntry UInt16 SeedRoute) → Prop
  /-- Nothing, except that time passes. -/
  | aged {op o} (h : Aged clock.now (r.seedRoutes.get k s) o) : SeedEffect r clock k s op o
  /-- A root assigns the net id. -/
  | assigned {a via} (h : (r.requestSeedNetAssign s clock.now).1 = .ok a) (hk : a.netId = k)
      (hvia : r.slotIdent s = some via)
      (hfree : (r.seedRoutes.gc clock.now).containsKey k = false) :
      SeedEffect r clock k s (.requestSeedNetAssign s)
        (some ⟨k, s, ⟨via, none⟩, .fresh clock.now initialLeaseSecs r.rng.next.1⟩)
  /-- A refresh that is not a replay. -/
  | renewed {e l tok} (he : r.seedRoutes.get k s = some e) (hl : e.kind = .active l)
      (hexp : clock.now < l.expiration) (htok : l.refreshToken = tok)
      (hwin : l.expiration - clock.now ≤ secs minRefreshSecs.toNat) :
      SeedEffect r clock k s (.refreshSeedNetAssignment s k tok)
        (some { e with kind := .active (LeaseKind.renewed l clock.now r.rng.next.1) })
  /-- A release at the root. -/
  | released {e l tok} (h : (r.releaseSeedNetAssignment s k tok clock.now).1 = .ok ())
      (he : r.seedRoutes.get k s = some e) (hl : e.kind = .active l)
      (hexp : clock.now < l.expiration) (htok : l.refreshToken = tok) :
      SeedEffect r clock k s (.releaseSeedNetAssignment s k tok) none
  /-- A release committed at a bridge. -/
  | releasedDelegated {e l tok} (h : (r.commitDelegatedRelease s k tok clock.now).1 = .ok ())
      (he : r.seedRoutes.get k s = some e) (hl : e.kind = .active l)
      (hexp : clock.now < l.expiration) (htok : l.refreshToken = tok) :
      SeedEffect r clock k s (.commitDelegatedRelease s k tok) none
  /-- The interface the route goes through is deregistered. -/
  | lost {e ident} (h : (r.deregisterInterface ident clock.now).1 = .ok ())
      (he : r.seedRoutes.get k s = some e) (hvia : e.extra.viaIdent = ident) :
      SeedEffect r clock k s (.deregisterInterface ident)
        (some { e with kind := .tombstone (clock.now + secs tombstoneDurationSecs) })
  /-- A bridge registers the net id for this requester. -/
  | delegated {parent via a}
      (h : (r.registerDelegatedSeedNet s parent clock.now).1 = .ok a) (hk : parent.netId = k)
      (hvia : r.slotIdent s = some via) :
      SeedEffect r clock k s (.registerDelegatedSeedNet s parent)
        (some ⟨k, s, ⟨via, some parent⟩, .fresh clock.now parent.expiresSeconds r.rng.next.1⟩)
  /-- A bridge registers the net id, and the old route is dropped on the way. -/
  | replaced {parent s'} (hk : parent.netId = k) :
      SeedEffect r clock k s (.registerDelegatedSeedNet s' parent) none
  /-- A refresh committed at a bridge. -/
  | committed {e l p tok parent} (hk : parent.netId = k)
      (he : r.seedRoutes.get k s = some e) (hl : e.kind = .active l)
      (hp : e.extra.parent = some p) (hexp : clock.now < l.expiration)
      (htok : l.refreshToken = tok) :
      SeedEffect r clock k s (.commitDelegatedRefresh s tok parent)
        (some { e with
          extra := { e.extra with parent := some parent }
          kind := .active
            (l.rotated (clock.now + secs parent.expiresSeconds.toNat) r.rng.next.1) })

namespace SeedEffect

variable {r r' : Router σ N S C} {clock : Clock} {k s : UInt16} {op : Op σ}

theorem of_quiet (hwf : r.directory.Wf) (h : Quiet clock.now r r') :
    SeedEffect r clock k s op (r'.seedRoutes.get k s) :=
  .aged (h.seed hwf.leases k s)

theorem of_same (h : r'.seedRoutes = r.seedRoutes) :
    SeedEffect r clock k s op (r'.seedRoutes.get k s) := by
  rw [h]
  exact .aged (Aged.refl _ _)

/-- An operation that does not write to the seed routes. -/
theorem of_footprint [InterfaceSink σ] (hwf : r.directory.Wf)
    (hop : op.writes .seedRoutes = false) :
    SeedEffect r clock k s op ((r.exec (clock, op)).seedRoutes.get k s) := by
  obtain ⟨r₀, hquiet, hfoot⟩ := r.exec_footprint clock op
  rw [hfoot.seedRoutes hop]
  exact .of_quiet hwf hquiet

end SeedEffect

theorem deregisterInterface_effect (r : Router σ N S C) (clock : Clock) (ident : UInt8)
    (k s : UInt16) :
    SeedEffect r clock k s (.deregisterInterface ident)
      ((r.deregisterInterface ident clock.now).2.seedRoutes.get k s) := by
  cases h : r.deregisterInterface ident clock.now with
  | mk res r' =>
    cases res with
    | error e => exact .of_same (by rw [deregisterInterface_error h])
    | ok u =>
      obtain ⟨slot, -, -, -, hseed, -⟩ := deregisterInterface_ok h
      show SeedEffect r clock k s _ (r'.seedRoutes.get k s)
      rw [hseed, LeaseTable.get_mapEntries _ (tombstoneVia_id ident clock.now)]
      cases he : r.seedRoutes.get k s with
      | none => exact .aged (by rw [he]; exact .none)
      | some e =>
        rw [Option.map_some]
        by_cases hvia : e.extra.viaIdent = ident
        · rw [tombstoneVia, if_pos hvia]
          exact .lost (by rw [h]) he hvia
        · rw [tombstoneVia, if_neg hvia]
          exact .aged (by rw [he]; exact Aged.refl _ _)

theorem requestSeedNetAssign_effect {r : Router σ N S C} (hwf : r.directory.Wf) (clock : Clock)
    (src k s : UInt16) :
    SeedEffect r clock k s (.requestSeedNetAssign src)
      ((r.requestSeedNetAssign src clock.now).2.seedRoutes.get k s) := by
  cases h : r.requestSeedNetAssign src clock.now with
  | mk res r' =>
    cases res with
    | error e => exact .of_quiet hwf (requestSeedNetAssign_error h).quiet
    | ok a =>
      obtain ⟨via, hvia, hfree, hget⟩ := requestSeedNetAssign_get h
      rw [hget]
      split
      · next hks =>
        obtain ⟨rfl, rfl⟩ := hks
        exact .assigned (by rw [h]) rfl hvia hfree
      · exact .aged (LeaseTable.aged_get_gc (LeaseTable.ids_nodup hwf.leases) _ _ _)

theorem refreshSeedNetAssignment_effect {r : Router σ N S C} (hwf : r.directory.Wf)
    (clock : Clock) (src net : UInt16) (tok : Token) (k s : UInt16) :
    SeedEffect r clock k s (.refreshSeedNetAssignment src net tok)
      ((r.refreshSeedNetAssignment src net tok clock.now).2.seedRoutes.get k s) := by
  cases h : r.refreshSeedNetAssignment src net tok clock.now with
  | mk res r' =>
    cases res with
    | error e => exact .of_quiet hwf (refreshSeedNetAssignment_error h).quiet
    | ok a =>
      obtain ⟨e, l, he, hl, hexp, -, hcases⟩ := refreshSeedNetAssignment_ok h
      rcases hcases with ⟨htok, hwin, -, -, rfl⟩ | ⟨-, -, -, -, rfl⟩
      · show SeedEffect r clock k s _ ((r.seedRoutes.setKind net src _).get k s)
        rw [LeaseTable.get_setKind]
        split
        · next hks =>
          obtain ⟨rfl, rfl⟩ := hks
          rw [he]
          exact .renewed he hl hexp htok hwin
        · exact .aged (Aged.refl _ _)
      · -- a replay writes back what was there
        show SeedEffect r clock k s _ ((r.seedRoutes.setKind net src _).get k s)
        rw [LeaseTable.get_setKind]
        split
        · next hks =>
          obtain ⟨rfl, rfl⟩ := hks
          rw [he]
          exact .aged (by rw [he]; exact Aged.refl _ _)
        · exact .aged (Aged.refl _ _)

/-- A lookup after a quiet step and the removal of one pair. -/
theorem remove_effect {r r'' : Router σ N S C} (hwf : r.directory.Wf) {clock : Clock}
    {op : Op σ} {src net : UInt16} (hq : Quiet clock.now r r'') (k s : UInt16)
    (hgone : k = net → s = src → SeedEffect r clock k s op none) :
    SeedEffect r clock k s op ((r''.seedRoutes.remove net src).get k s) := by
  rw [LeaseTable.get_remove]
  split
  · next hks => exact hgone hks.1 hks.2
  · exact .aged (hq.seed hwf.leases k s)

theorem releaseSeedNetAssignment_effect {r : Router σ N S C} (hwf : r.directory.Wf)
    (clock : Clock) (src net : UInt16) (tok : Token) (k s : UInt16) :
    SeedEffect r clock k s (.releaseSeedNetAssignment src net tok)
      ((r.releaseSeedNetAssignment src net tok clock.now).2.seedRoutes.get k s) := by
  cases h : r.releaseSeedNetAssignment src net tok clock.now with
  | mk res r' =>
    cases res with
    | error e => exact .of_quiet hwf (releaseSeedNetAssignment_error h).quiet
    | ok u =>
      obtain ⟨e, l, hget, hl, hexp, htok, r'', hq, rfl⟩ := releaseSeedNetAssignment_ok h
      have he := get_of_get_gc (LeaseTable.ids_nodup hwf.leases) hget hl
      refine remove_effect hwf hq.quiet k s ?_
      rintro rfl rfl
      exact .released (by rw [h]) he hl hexp htok

theorem commitDelegatedRelease_effect {r : Router σ N S C} (hwf : r.directory.Wf)
    (clock : Clock) (src net : UInt16) (tok : Token) (k s : UInt16) :
    SeedEffect r clock k s (.commitDelegatedRelease src net tok)
      ((r.commitDelegatedRelease src net tok clock.now).2.seedRoutes.get k s) := by
  cases h : r.commitDelegatedRelease src net tok clock.now with
  | mk res r' =>
    cases res with
    | error e => exact .of_quiet hwf (commitDelegatedRelease_error h).quiet
    | ok u =>
      obtain ⟨e, l, he, hl, hexp, htok, r'', hq, rfl⟩ := commitDelegatedRelease_ok h
      refine remove_effect hwf hq.quiet k s ?_
      rintro rfl rfl
      exact .releasedDelegated (by rw [h]) he hl hexp htok

theorem registerDelegatedSeedNet_effect {r : Router σ N S C} (hwf : r.directory.Wf)
    (clock : Clock) (src : UInt16) (parent : SeedLease) (k s : UInt16) :
    SeedEffect r clock k s (.registerDelegatedSeedNet src parent)
      ((r.registerDelegatedSeedNet src parent clock.now).2.seedRoutes.get k s) := by
  cases h : r.registerDelegatedSeedNet src parent clock.now with
  | mk res r' =>
    cases res with
    | error e => exact .of_quiet hwf (registerDelegatedSeedNet_error h).quiet
    | ok a =>
      obtain ⟨via, hvia, hget⟩ := registerDelegatedSeedNet_get h
      rw [hget]
      split
      · next hk =>
        subst hk
        split
        · next hs =>
          subst hs
          exact .delegated (by rw [h]) rfl hvia
        · exact .replaced rfl
      · exact .aged (LeaseTable.aged_get_gc (LeaseTable.ids_nodup hwf.leases) _ _ _)

theorem commitDelegatedRefresh_effect {r : Router σ N S C} (hwf : r.directory.Wf)
    (clock : Clock) (src : UInt16) (tok : Token) (parent : SeedLease) (k s : UInt16) :
    SeedEffect r clock k s (.commitDelegatedRefresh src tok parent)
      ((r.commitDelegatedRefresh src tok parent clock.now).2.seedRoutes.get k s) := by
  cases h : r.commitDelegatedRefresh src tok parent clock.now with
  | mk res r' =>
    cases res with
    | error e => exact .of_quiet hwf (commitDelegatedRefresh_error h).quiet
    | ok a =>
      obtain ⟨e, l, p, he, hl, hp, hexp, htok, hget⟩ := commitDelegatedRefresh_get h
      rw [hget]
      split
      · next hks =>
        obtain ⟨rfl, rfl⟩ := hks
        exact .committed rfl he hl hp hexp htok
      · exact .aged (Aged.refl _ _)

variable [InterfaceSink σ]

/-- Every operation has one of the listed effects on every seed route. -/
theorem seed_effect {r : Router σ N S C} (hwf : r.directory.Wf) (clock : Clock) (op : Op σ)
    (k s : UInt16) :
    SeedEffect r clock k s op ((r.exec (clock, op)).seedRoutes.get k s) := by
  cases op with
  | deregisterInterface ident => exact deregisterInterface_effect r clock ident k s
  | requestSeedNetAssign src => exact requestSeedNetAssign_effect hwf clock src k s
  | refreshSeedNetAssignment src net tok =>
    exact refreshSeedNetAssignment_effect hwf clock src net tok k s
  | releaseSeedNetAssignment src net tok =>
    exact releaseSeedNetAssignment_effect hwf clock src net tok k s
  | registerDelegatedSeedNet src parent =>
    exact registerDelegatedSeedNet_effect hwf clock src parent k s
  | commitDelegatedRefresh src tok parent =>
    exact commitDelegatedRefresh_effect hwf clock src tok parent k s
  | commitDelegatedRelease src net tok =>
    exact commitDelegatedRelease_effect hwf clock src net tok k s
  | _ => exact .of_footprint hwf rfl

omit [InterfaceSink σ]

/-! ## Node claims -/

/-- The step deregisters or renumbers the slot with net id `net`. -/
inductive SegmentGone (net : UInt16) (r : Router σ N S C) : Clock × Op σ → Prop
  | deregistered {clock ident} (h : (r.deregisterInterface ident clock.now).1 = .ok ())
      (hnet : r.netIdOf ident = some net) :
      SegmentGone net r (clock, .deregisterInterface ident)
  | renumbered {clock ident net'} (h : (r.reassignInterfaceNetId ident net').1 = .ok ())
      (hnet : r.netIdOf ident = some net) (hne : net ≠ net') :
      SegmentGone net r (clock, .reassignInterfaceNetId ident net')

/-- Everything one operation can do to the claim `(k, s)`. -/
inductive ClaimEffect (r : Router σ N S C) (clock : Clock) (k : UInt8) (s : UInt16) :
    Op σ → Option (LeaseEntry UInt8 UInt64) → Prop
  /-- Nothing, except that time passes. -/
  | aged {op o} (h : Aged clock.now (r.nodeClaims.get k s) o) : ClaimEffect r clock k s op o
  /-- A node id nobody holds is claimed. -/
  | claimed {a nonce} (h : (r.requestNodeClaim s k nonce clock.now).1 = .ok a)
      (hfree : (r.nodeClaims.gc clock.now).get k s = none) :
      ClaimEffect r clock k s (.requestNodeClaim s k nonce)
        (some ⟨k, s, nonce, .fresh clock.now initialLeaseSecs r.rng.next.1⟩)
  /-- A refresh that is not a replay. -/
  | renewed {e l tok a} (h : (r.refreshNodeClaim s k tok clock.now).1 = .ok a)
      (he : r.nodeClaims.get k s = some e) (hl : e.kind = .active l)
      (hexp : clock.now < l.expiration) (htok : l.refreshToken = tok)
      (hwin : l.expiration - clock.now ≤ secs minRefreshSecs.toNat) :
      ClaimEffect r clock k s (.refreshNodeClaim s k tok)
        (some { e with kind := .active (LeaseKind.renewed l clock.now r.rng.next.1) })
  /-- The segment goes away. -/
  | gone {op} (h : SegmentGone s r (clock, op)) : ClaimEffect r clock k s op none

/-- A step's effect on the claims: one of the listed ones on each, and the pairs
stay distinct. -/
structure ClaimStep (r : Router σ N S C) (clock : Clock) (op : Op σ)
    (t : LeaseTable UInt8 UInt64 C) : Prop where
  ids : t.ids.Nodup
  effect : ∀ k s, ClaimEffect r clock k s op (t.get k s)

namespace ClaimStep

variable {r r' : Router σ N S C} {clock : Clock} {op : Op σ}

theorem of_quiet (hu : r.nodeClaims.ids.Nodup) (h : Quiet clock.now r r') :
    ClaimStep r clock op r'.nodeClaims :=
  { ids := hu.sublist h.claimIds
    effect := fun k s => .aged (h.claims hu k s) }

theorem of_same (hu : r.nodeClaims.ids.Nodup) (h : r'.nodeClaims = r.nodeClaims) :
    ClaimStep r clock op r'.nodeClaims := by
  rw [h]
  exact
    { ids := hu
      effect := fun k s => .aged (Aged.refl _ _) }

/-- An operation that does not write to the claims. -/
theorem of_footprint [InterfaceSink σ] (hu : r.nodeClaims.ids.Nodup)
    (hop : op.writes .nodeClaims = false) :
    ClaimStep r clock op (r.exec (clock, op)).nodeClaims := by
  obtain ⟨r₀, hquiet, hfoot⟩ := r.exec_footprint clock op
  rw [hfoot.nodeClaims hop]
  exact .of_quiet hu hquiet

theorem of_dropScope (hu : r.nodeClaims.ids.Nodup) {net : UInt16}
    (hgone : SegmentGone net r (clock, op)) :
    ClaimStep r clock op (r.nodeClaims.dropScope net) :=
  { ids := hu.sublist (r.nodeClaims.ids_dropScope_sublist net)
    effect := by
      intro k s
      rw [LeaseTable.get_dropScope]
      split
      · next h =>
        subst h
        exact .gone hgone
      · exact .aged (Aged.refl _ _) }

end ClaimStep

theorem deregisterInterface_claims {r : Router σ N S C} (hu : r.nodeClaims.ids.Nodup)
    (clock : Clock) (ident : UInt8) :
    ClaimStep r clock (.deregisterInterface ident)
      (r.deregisterInterface ident clock.now).2.nodeClaims := by
  cases h : r.deregisterInterface ident clock.now with
  | mk res r' =>
    cases res with
    | error e => exact .of_same hu (by rw [deregisterInterface_error h])
    | ok u =>
      obtain ⟨slot, -, hnet, -, -, hclaims, -⟩ := deregisterInterface_ok h
      show ClaimStep r clock _ r'.nodeClaims
      rw [hclaims]
      exact .of_dropScope hu (.deregistered (by rw [h]) hnet)

theorem reassignInterfaceNetId_claims {r : Router σ N S C} (hwf : r.directory.Wf)
    (hu : r.nodeClaims.ids.Nodup) (clock : Clock) (ident : UInt8) (netId : UInt16) :
    ClaimStep r clock (.reassignInterfaceNetId ident netId)
      (r.reassignInterfaceNetId ident netId).2.nodeClaims := by
  cases h : r.reassignInterfaceNetId ident netId with
  | mk res r' =>
    cases res with
    | error e => exact .of_same hu (by rw [reassignInterfaceNetId_error h])
    | ok u =>
      obtain ⟨slot, before, after, -, -, -, -, hident, hsplit, -, -, hclaims, -⟩ :=
        reassignInterfaceNetId_ok h
      show ClaimStep r clock _ r'.nodeClaims
      rw [hclaims]
      split
      · next hne =>
        refine .of_dropScope hu (.renumbered (by rw [h]) ?_ hne)
        -- idents are distinct, so `slot` is the one the ident finds
        have hidents := (netIdsUnique_of_wf hwf).idents
        rw [hsplit, List.pairwise_append] at hidents
        have hbefore : before.find? (fun s => s.ident = ident) = none := by
          rw [List.find?_eq_none]
          intro s hs heq
          refine hidents.2.2 s hs slot List.mem_cons_self ?_
          rw [hident]
          simpa using heq
        rw [netIdOf, hsplit, List.find?_append, hbefore]
        simp [hident]
      · exact
          { ids := hu
            effect := fun k s => .aged (Aged.refl _ _) }

theorem requestNodeClaim_claims {r : Router σ N S C} (hu : r.nodeClaims.ids.Nodup)
    (clock : Clock) (src : UInt16) (node : UInt8) (nonce : UInt64) :
    ClaimStep r clock (.requestNodeClaim src node nonce)
      (r.requestNodeClaim src node nonce clock.now).2.nodeClaims := by
  cases h : r.requestNodeClaim src node nonce clock.now with
  | mk res r' =>
    cases res with
    | error e => exact .of_quiet hu (requestNodeClaim_error h).quiet
    | ok a =>
      obtain ⟨-, -, -, ⟨-, -, -, -, -, -, -, rfl⟩ | ⟨hnone, hfull, -, -, rfl⟩⟩ :=
        requestNodeClaim_ok h
      · -- a retransmission only collects
        exact .of_quiet hu (AgedOnly.gcClaims _ _).quiet
      · have hids := hu.sublist (r.nodeClaims.ids_gc_sublist clock.now)
        refine { ids := ?_, effect := ?_ }
        · show (((r.nodeClaims.gc clock.now).push node src nonce
            (.fresh clock.now initialLeaseSecs r.rng.next.1)).ids).Nodup
          rw [LeaseTable.ids_push hfull]
          refine List.nodup_append.mpr ⟨hids, List.nodup_singleton _, ?_⟩
          intro a ha b hb heq
          have hb : b = (node, src) := by simpa using hb
          subst heq hb
          obtain ⟨e, he, hid⟩ := List.mem_map.mp ha
          have hget := LeaseTable.get_of_mem hids he
          simp only [Prod.mk.injEq] at hid
          rw [hid.1, hid.2, hnone] at hget
          cases hget
        · intro k s
          show ClaimEffect r clock k s _ (((r.nodeClaims.gc clock.now).push node src nonce
            (.fresh clock.now initialLeaseSecs r.rng.next.1)).get k s)
          rw [LeaseTable.get_push hfull hnone]
          split
          · next hks =>
            obtain ⟨rfl, rfl⟩ := hks
            exact .claimed (by rw [h]) hnone
          · exact .aged (LeaseTable.aged_get_gc hu _ _ _)

theorem refreshNodeClaim_claims {r : Router σ N S C} (hu : r.nodeClaims.ids.Nodup)
    (clock : Clock) (src : UInt16) (node : UInt8) (tok : Token) :
    ClaimStep r clock (.refreshNodeClaim src node tok)
      (r.refreshNodeClaim src node tok clock.now).2.nodeClaims := by
  cases h : r.refreshNodeClaim src node tok clock.now with
  | mk res r' =>
    cases res with
    | error e => exact .of_quiet hu (refreshNodeClaim_error h).quiet
    | ok a =>
      obtain ⟨e, l, he, hl, hexp, hcases⟩ := refreshNodeClaim_ok h
      have hids : ∀ kind, (r.nodeClaims.setKind node src kind).ids.Nodup := by
        intro kind
        rw [LeaseTable.ids_setKind]
        exact hu
      rcases hcases with ⟨htok, hwin, -, -, rfl⟩ | ⟨-, -, -, -, rfl⟩
      · refine { ids := hids _, effect := ?_ }
        intro k s
        show ClaimEffect r clock k s _ ((r.nodeClaims.setKind node src _).get k s)
        rw [LeaseTable.get_setKind]
        split
        · next hks =>
          obtain ⟨rfl, rfl⟩ := hks
          rw [he]
          exact .renewed (by rw [h]) he hl hexp htok hwin
        · exact .aged (Aged.refl _ _)
      · -- a replay writes back what was there
        refine { ids := hids _, effect := ?_ }
        intro k s
        show ClaimEffect r clock k s _ ((r.nodeClaims.setKind node src _).get k s)
        rw [LeaseTable.get_setKind]
        split
        · next hks =>
          obtain ⟨rfl, rfl⟩ := hks
          rw [he]
          exact .aged (by rw [he]; exact Aged.refl _ _)
        · exact .aged (Aged.refl _ _)

variable [InterfaceSink σ]

/-- Every operation has one of the listed effects on every claim. -/
theorem claim_step {r : Router σ N S C} (hwf : r.directory.Wf) (hu : r.nodeClaims.ids.Nodup)
    (clock : Clock) (op : Op σ) :
    ClaimStep r clock op (r.exec (clock, op)).nodeClaims := by
  cases op with
  | deregisterInterface ident => exact deregisterInterface_claims hu clock ident
  | reassignInterfaceNetId ident netId => exact reassignInterfaceNetId_claims hwf hu clock ident netId
  | requestNodeClaim src node nonce => exact requestNodeClaim_claims hu clock src node nonce
  | refreshNodeClaim src node tok => exact refreshNodeClaim_claims hu clock src node tok
  | _ => exact .of_footprint hu rfl

/-- Directory and claims of a router that has only run its operations. -/
structure Wf (r : Router σ N S C) : Prop where
  directory : r.directory.Wf
  claims : r.nodeClaims.ids.Nodup

theorem Wf.exec {r : Router σ N S C} (h : r.Wf) (step : Clock × Op σ) : (r.exec step).Wf :=
  { directory := exec_wf h.directory step
    claims := (claim_step h.directory h.claims step.1 step.2).ids }

omit [InterfaceSink σ] in
theorem Initial.wf {r : Router σ N S C} (h : Initial r) : r.Wf := by
  cases h with
  | root rng h => exact { directory := Directory.empty_wf, claims := List.nodup_nil }
  | bridge rng sink h => exact { directory := Directory.empty_wf, claims := List.nodup_nil }

theorem Wf.run {r : Router σ N S C} (h : r.Wf) (steps : List (Clock × Op σ)) :
    (Runs.runAll Router.exec r steps).Wf :=
  Runs.runAll_inv (I := Router.Wf) (fun _ step h => Wf.exec h step) h steps

end Router

end Ergot
