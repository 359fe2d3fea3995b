import Ergot.Router.BridgeTokens
import Ergot.Router.SeedOrigins

/-!
# Refresh windows nest

Whoever holds a lease in a tree of bridges believes that it ends no earlier than it does, as
long as its token is the current one: a bridge by the lease of its own route, a holder by the
time that it was told. So a holder that keeps its window is inside that of every node above.

- `Router.EndsBy` says this of one lease. It is kept by everything that a router does, since a
  lease that is set anew has a new token.
- `Told` is the invariant about a node and its parent, `Nested` the one about the tree, and
  `Paced` is about what goes on for one holder.
-/

namespace Ergot

open Runs

/-! ## One router -/

namespace Router

variable {σ : Type} {N S C : Nat} {r r' : Router σ N S C} {src net : UInt16} {tok : Token}
  {now ends : Nat}

/-- As long as `tok` is its token, the lease of `net` to `src` ends by `ends`. -/
def EndsBy (r : Router σ N S C) (src net : UInt16) (tok : Token) (ends : Nat) : Prop :=
  tok ∈ r.rng.drawn ∧ ∀ e l, r.seedRoutes.get net src = some e → e.kind = .active l →
    l.refreshToken = tok → l.expiration ≤ ends

theorem EndsBy.mono {ends' : Nat} (h : r.EndsBy src net tok ends) (hle : ends ≤ ends') :
    r.EndsBy src net tok ends' :=
  ⟨h.1, fun e l he hl htok => Nat.le_trans (h.2 e l he hl htok) hle⟩

/-- The leases of `r'` are those of `r`, or one under the token that was drawn. -/
structure Draws (r r' : Router σ N S C) : Prop where
  rng : r.rng.Extends r'.rng
  lease : ∀ net src e l, r'.seedRoutes.get net src = some e → e.kind = .active l →
    r.seedRoutes.get net src = some e ∨
      l.refreshToken = r.rng.next.1 ∧ r'.rng = r.rng.next.2

theorem Draws.of_quiet (hr : r.Wf) (h : Quiet now r r') : Draws r r' :=
  ⟨h.rng, fun net src e l he hl => .inl (Shrinks.of_quiet hr h net src e l he hl)⟩

theorem Draws.of_register (hr : r.Wf) {parent : SeedLease} {a : SeedNetAssignment}
    (h : r.registerDelegatedSeedNet src parent now = (.ok a, r')) : Draws r r' := by
  have hrng : r'.rng = r.rng.next.2 := by
    obtain ⟨_, -, -, -, -, -, -, rfl⟩ := registerDelegatedSeedNet_ok h
    rfl
  refine ⟨hrng ▸ .next _, fun net x e l he hl => ?_⟩
  rcases route_of_register hr h he hl with ⟨-, -, -, rfl⟩ | ⟨-, hold⟩
  · exact .inr ⟨rfl, hrng⟩
  · exact .inl hold

/-- The routes after a commit. -/
theorem get_of_commit {parent : SeedLease} {a : SeedNetAssignment}
    (h : r.commitDelegatedRefresh src tok parent now = (.ok a, r')) {k x : UInt16}
    {e : LeaseEntry UInt16 SeedRoute} (he : r'.seedRoutes.get k x = some e) :
    (k = parent.netId ∧ x = src ∧ e.extra.parent = some parent ∧
      ∃ e₀ l₀, r.seedRoutes.get k x = some e₀ ∧ e₀.kind = .active l₀ ∧ now < l₀.expiration ∧
        l₀.refreshToken = tok ∧
        e.kind = .active (l₀.rotated (now + secs parent.expiresSeconds.toNat) r.rng.next.1)) ∨
      ((k, x) ≠ (parent.netId, src) ∧ r.seedRoutes.get k x = some e) := by
  obtain ⟨e₀, l₀, p, he₀, hl₀, -, hexp, htok, hget⟩ := commitDelegatedRefresh_get h
  rw [hget] at he
  split at he
  · next hsame =>
    obtain ⟨rfl, rfl⟩ := hsame
    cases he
    exact .inl ⟨rfl, rfl, rfl, e₀, l₀, he₀, hl₀, hexp, htok, rfl⟩
  · next hne =>
    refine .inr ⟨fun heq => hne ?_, he⟩
    cases heq
    exact ⟨rfl, rfl⟩

theorem rng_of_commit {parent : SeedLease} {a : SeedNetAssignment}
    (h : r.commitDelegatedRefresh src tok parent now = (.ok a, r')) :
    r'.rng = r.rng.next.2 := by
  obtain ⟨_, _, _, -, -, -, -, -, -, rfl⟩ := commitDelegatedRefresh_ok h
  rfl

theorem Draws.of_commit {parent : SeedLease} {a : SeedNetAssignment}
    (h : r.commitDelegatedRefresh src tok parent now = (.ok a, r')) : Draws r r' := by
  have hrng := rng_of_commit h
  refine ⟨hrng ▸ .next _, fun k x e l he hl => ?_⟩
  rcases get_of_commit h he with ⟨-, -, -, _, l₀, -, -, -, -, hl'⟩ | ⟨-, hold⟩
  · rw [hl] at hl'
    cases hl'
    exact .inr ⟨rfl, hrng⟩
  · exact .inl hold

section Exec

variable [InterfaceSink σ]

/-- No operation sets a lease under an old token. -/
theorem Draws.exec (hr : r.Wf) (clock : Clock) (op : Op σ) : Draws r (r.exec (clock, op)) := by
  refine ⟨exec_rng r _, fun net src e l he hl => ?_⟩
  have heffect := seed_effect hr.directory clock op net src
  rw [he] at heffect
  generalize ho : some e = o at heffect
  cases heffect with
  | aged haged =>
    subst ho
    obtain ⟨e', he', hages, heq⟩ := haged.of_some
    rw [hl] at hages
    exact .inl (by rw [he', heq, hl, ← hages.active_eq])
  | assigned hok =>
    cases ho
    cases hl
    exact .inr ⟨rfl, rng_of_assign clock hok⟩
  | renewed =>
    cases ho
    cases hl
    exact .inr ⟨rfl, rng_of_refresh r _ _ _ clock⟩
  | released => cases ho
  | releasedDelegated => cases ho
  | lost =>
    cases ho
    cases hl
  | replaced => cases ho
  | @delegated parent via a hok =>
    cases ho
    rcases hres : r.registerDelegatedSeedNet src parent clock.now with ⟨res, r'⟩
    rw [hres] at hok
    obtain rfl : res = .ok a := hok
    have hexec : r.exec (clock, .registerDelegatedSeedNet src parent) = r' := by
      simp only [Router.exec, hres]
    rw [hexec] at he ⊢
    exact (Draws.of_register hr hres).lease net src _ l he hl
  | @committed e₀ l₀ p tok parent =>
    cases ho
    rcases hres : r.commitDelegatedRefresh src tok parent clock.now with ⟨err | a, r'⟩
    · have hexec : r.exec (clock, .commitDelegatedRefresh src tok parent) = r' := by
        simp only [Router.exec, hres]
      rw [hexec] at he
      exact .inl (Shrinks.of_quiet hr (commitDelegatedRefresh_error hres).quiet net src _ l he hl)
    · have hexec : r.exec (clock, .commitDelegatedRefresh src tok parent) = r' := by
        simp only [Router.exec, hres]
      rw [hexec] at he ⊢
      exact (Draws.of_commit hres).lease net src _ l he hl

end Exec

theorem EndsBy.draws (h : r.EndsBy src net tok ends) (hd : Draws r r') (hfresh : r'.rng.Distinct) :
    r'.EndsBy src net tok ends := by
  refine ⟨hd.rng.drawn h.1, fun e l he hl htok => ?_⟩
  rcases hd.lease net src e l he hl with hold | ⟨hnew, hrng⟩
  · exact h.2 e l hold hl htok
  · rw [hrng] at hfresh
    exact absurd (hnew ▸ htok ▸ h.1) (Rng.next_not_mem_drawn hfresh)

/-! ### Answers -/

/-- The lease behind an answer with a grant: its token was told, and the time that it has left,
rounded up to whole seconds. -/
def Backs (r : Router σ N S C) (src : UInt16) (now : Nat) (a : SeedNetAssignment) : Prop :=
  ∃ e l, r.seedRoutes.get a.netId src = some e ∧ e.kind = .active l ∧
    l.refreshToken = a.refreshToken ∧ l.expiration ≤ now + secs a.expiresSeconds.toNat ∧
    now + secs a.expiresSeconds.toNat < l.expiration + secs 1

/-- No lease is longer than the maximum, and every token was drawn. -/
def Sound (r : Router σ N S C) (now : Nat) : Prop :=
  ∀ net src e l, r.seedRoutes.get net src = some e → e.kind = .active l →
    l.expiration ≤ now + secs maxLeaseSecs.toNat ∧ l.refreshToken ∈ r.rng.drawn

theorem Backs.endsBy {a : SeedNetAssignment} (h : r.Backs src now a) (hs : r.Sound now) :
    r.EndsBy src a.netId a.refreshToken (now + secs a.expiresSeconds.toNat) := by
  obtain ⟨e, l, he, hl, htok, hle, -⟩ := h
  refine ⟨htok ▸ (hs _ _ e l he hl).2, fun e' l' he' hl' _ => ?_⟩
  rw [he] at he'
  cases he'
  rw [hl] at hl'
  cases hl'
  exact hle

/-- No answer tells more than the maximum. -/
theorem Backs.short {a : SeedNetAssignment} (h : r.Backs src now a) (hs : r.Sound now) :
    a.expiresSeconds.toNat ≤ maxLeaseSecs.toNat := by
  obtain ⟨e, l, he, hl, -, -, hlt⟩ := h
  have hle := (hs _ _ e l he hl).1
  simp only [secs] at hlt hle
  omega

theorem Backs.of_register {parent : SeedLease} {a : SeedNetAssignment}
    (h : r.registerDelegatedSeedNet src parent now = (.ok a, r')) : r'.Backs src now a := by
  obtain ⟨-, -, -, -, -, -, rfl, -⟩ := registerDelegatedSeedNet_ok h
  obtain ⟨via, -, hget⟩ := registerDelegatedSeedNet_get h
  have hnew := hget parent.netId src
  rw [if_pos rfl, if_pos rfl] at hnew
  exact ⟨_, _, hnew, rfl, rfl, Nat.le_refl _, Nat.lt_add_of_pos_right (by decide)⟩

theorem Backs.of_commit {parent : SeedLease} {a : SeedNetAssignment}
    (h : r.commitDelegatedRefresh src tok parent now = (.ok a, r')) : r'.Backs src now a := by
  obtain ⟨-, -, -, -, -, -, -, -, rfl, -⟩ := commitDelegatedRefresh_ok h
  obtain ⟨e₀, l₀, p, -, -, -, -, -, hget⟩ := commitDelegatedRefresh_get h
  have hnew := hget parent.netId src
  rw [if_pos ⟨rfl, rfl⟩] at hnew
  exact ⟨_, _, hnew, rfl, rfl, Nat.le_refl _, Nat.lt_add_of_pos_right (by decide)⟩

/-- A running lease backs the answer that tells its token and what it has left. -/
theorem Backs.of_running (hr : r.Wf) (hs : r.Sound now) (haged : AgedOnly now r r')
    {e : LeaseEntry UInt16 SeedRoute} {l : Lease} (he : r.seedRoutes.get net src = some e)
    (hl : e.kind = .active l) (hexp : now < l.expiration) {a : SeedNetAssignment}
    (hnet : a.netId = net) (htok : a.refreshToken = l.refreshToken)
    (hsecs : a.expiresSeconds = remainingLeaseSeconds l.expiration now) :
    r'.Backs src now a := by
  have haged := haged.quiet.seed hr.directory.leases net src
  have he' := haged.of_running he hl hexp
  refine ⟨e, l, hnet ▸ he', hl, htok.symm, ?_, ?_⟩
  · rw [hsecs]
    exact le_remainingLeaseSeconds (hs _ _ e l he hl).1
  · rw [hsecs]
    have hlt := remainingLeaseSeconds_lt l.expiration now
    omega

/-! ### The handler -/

theorem registerDelegatedSeedNet_margin {parent : SeedLease} {a : SeedNetAssignment}
    (h : r.registerDelegatedSeedNet src parent now = (.ok a, r')) :
    seedDelegationRefreshMargin < parent.minRefreshSeconds := by
  unfold registerDelegatedSeedNet at h
  dsimp only at h
  split at h
  · cases h
  · split at h
    · cases h
    · split at h
      · cases h
      · split at h
        · cases h
        · next hmargin => exact UInt16.not_le.mp hmargin

theorem commitDelegatedRefresh_margin {parent : SeedLease} {a : SeedNetAssignment}
    (h : r.commitDelegatedRefresh src tok parent now = (.ok a, r')) :
    seedDelegationRefreshMargin < parent.minRefreshSeconds := by
  unfold commitDelegatedRefresh at h
  split at h
  · cases h
  · next hmargin => exact UInt16.not_le.mp hmargin

/-- The route that a handler sets when the parent grants it `a`. -/
structure Rests (r' : Router σ N S C) (now : Nat) (k : UInt16) (a : SeedNetAssignment)
    (e : LeaseEntry UInt16 SeedRoute) (parent : SeedLease) (l : Lease) : Prop where
  netId : a.netId = k
  stored : e.extra.parent = some parent
  parent : parent.netId = a.netId ∧ parent.refreshToken = a.refreshToken ∧
    parent.minRefreshSeconds = a.minRefreshSeconds
  margin : seedDelegationRefreshMargin < a.minRefreshSeconds
  active : e.kind = .active l
  expiration : l.expiration = now + secs a.expiresSeconds.toNat
  drawn : l.refreshToken ∈ r'.rng.drawn

/-- After a response the routes are those from before, but for one that the response set. -/
theorem route_of_response (hr : r.Wf) {L : SeedLink} {id : Nat} {handler : SeedHandler}
    {res : SeedResponse} {k x : UInt16} {e : LeaseEntry UInt16 SeedRoute}
    (he : (r.takeResponse L now id handler res).2.seedRoutes.get k x = some e) :
    (∃ e₀, r.seedRoutes.get k x = some e₀ ∧ Ages now e₀.kind e.kind ∧ e.extra = e₀.extra ∧
      ∀ res' a, (r.takeResponse L now id handler res).1 = .answer res' → res'.grant = some a →
        a.netId ≠ k) ∨
      ∃ a parent l, res.grant = some a ∧
        Rests (r.takeResponse L now id handler res).2 now k a e parent l ∧
        ∃ res' b, (r.takeResponse L now id handler res).1 = .answer res' ∧
          res'.grant = some b ∧ b.netId = k := by
  have haged : ∀ r', AgedOnly now r r' → r'.seedRoutes.get k x = some e →
      ∃ e₀, r.seedRoutes.get k x = some e₀ ∧ Ages now e₀.kind e.kind ∧ e.extra = e₀.extra := by
    intro r' hr' he
    have haged := hr'.quiet.seed hr.directory.leases k x
    rw [he] at haged
    obtain ⟨e₀, he₀, hages, heq⟩ := haged.of_some
    exact ⟨e₀, he₀, hages, by rw [heq]⟩
  have hspec := r.takeResponse_spec L now id handler res
  generalize r.takeResponse L now id handler res = out at he hspec ⊢
  cases hspec with
  | waits =>
    obtain ⟨e₀, he₀, hages, hsame⟩ := haged _ (.refl _ _) he
    exact .inl ⟨e₀, he₀, hages, hsame, nofun⟩
  | refused hold hnone =>
    obtain ⟨e₀, he₀, hages, hsame⟩ := haged _ hold he
    refine .inl ⟨e₀, he₀, hages, hsame, fun res' a hout ha => ?_⟩
    cases hout
    rw [hnone] at ha
    cases ha
  | rollsBack hold =>
    obtain ⟨e₀, he₀, hages, hsame⟩ := haged _ hold he
    exact .inl ⟨e₀, he₀, hages, hsame, nofun⟩
  | @registered i t src up granted a r' hreg =>
    have hmargin := registerDelegatedSeedNet_margin hreg
    obtain ⟨_, -, -, -, -, -, rfl, hr'⟩ := registerDelegatedSeedNet_ok hreg
    obtain ⟨via, -, hget⟩ := registerDelegatedSeedNet_get hreg
    rw [hget] at he
    split at he
    · next hnet =>
      subst hnet
      split at he
      · cases he
        refine .inr ⟨granted.assignment, Delegation.leaseOf up granted,
          ⟨now + secs granted.assignment.expiresSeconds.toNat, r.rng.next.1, none⟩, rfl, ?_, _, _,
          rfl, rfl, rfl⟩
        exact
          { netId := rfl
            stored := rfl
            parent := ⟨rfl, rfl, rfl⟩
            margin := hmargin
            active := rfl
            expiration := rfl
            drawn := hr' ▸ Rng.next_mem_drawn _ }
      · cases he
    · next hne =>
      have hgc := LeaseTable.aged_get_gc (LeaseTable.ids_nodup hr.directory.leases) now k x
      rw [he] at hgc
      obtain ⟨e₀, he₀, hages, heq⟩ := hgc.of_some
      refine .inl ⟨e₀, he₀, hages, by rw [heq], fun res' b hout hb => ?_⟩
      cases hout
      cases hb
      exact fun heq => hne heq.symm
  | @committed i t src net tok parent assignment a r' hcommit =>
    have hmargin := commitDelegatedRefresh_margin hcommit
    rcases get_of_commit hcommit he with ⟨rfl, rfl, hp, e₀, l₀, -, -, -, -, hl⟩ | ⟨hne, hold⟩
    · refine .inr ⟨assignment, Delegation.refreshedLease parent assignment,
        l₀.rotated (now + secs assignment.expiresSeconds.toNat) r.rng.next.1, rfl, ?_, _, a, rfl,
        rfl, ?_⟩
      swap
      · obtain ⟨_, _, _, -, -, -, -, -, rfl, -⟩ := commitDelegatedRefresh_ok hcommit
        rfl
      exact
        { netId := rfl
          stored := hp
          parent := ⟨rfl, rfl, rfl⟩
          margin := hmargin
          active := hl
          expiration := rfl
          drawn := rng_of_commit hcommit ▸ Rng.next_mem_drawn _ }
    · refine .inl ⟨e, hold, .same _, rfl, fun res' b hout hb => ?_⟩
      cases hout
      cases hb
      obtain ⟨e₀, _, _, he₀, -, -, -, -, rfl, -⟩ := commitDelegatedRefresh_ok hcommit
      rintro rfl
      have hold : r.seedRoutes.get (Delegation.refreshedLease parent assignment).netId x = some e :=
        hold
      -- one route has the net id
      obtain ⟨-, hx⟩ := LeaseTable.get_unique hr.directory.leases he₀ hold
      exact hne (Prod.ext rfl hx)
  | released hrel =>
    obtain ⟨_, _, -, -, -, -, r'', hquiet, rfl⟩ := commitDelegatedRelease_ok hrel
    rw [LeaseTable.get_remove] at he
    split at he
    · cases he
    · obtain ⟨e₀, he₀, hages, hsame⟩ := haged _ hquiet he
      refine .inl ⟨e₀, he₀, hages, hsame, fun res' a hout ha => ?_⟩
      cases hout
      cases ha

/-- What the answer grants of a handler that has a response. -/
theorem grant_of_response {L : SeedLink} {id : Nat} {handler : SeedHandler}
    {res res' : SeedResponse} {a : SeedNetAssignment}
    (hsrc : ∀ x, handler.source = some x → x = src)
    (hout : (r.takeResponse L now id handler res).1 = .answer res') (ha : res'.grant = some a) :
    (r.takeResponse L now id handler res).2.Backs src now a ∧
      ∃ b, res.grant = some b ∧ a.netId = b.netId ∧ a.expiresSeconds = b.expiresSeconds ∧
        seedDelegationRefreshMargin < b.minRefreshSeconds ∧
        a.minRefreshSeconds = b.minRefreshSeconds - seedDelegationRefreshMargin := by
  have hspec := r.takeResponse_spec L now id handler res
  generalize r.takeResponse L now id handler res = out at hout hspec ⊢
  obtain ⟨out, r'⟩ := out
  cases hout
  cases hspec with
  | refused _ hnone =>
    rw [hnone] at ha
    cases ha
  | @registered i t src' up granted a' _ hreg =>
    cases ha
    cases hsrc _ rfl
    refine ⟨.of_register hreg, granted.assignment, rfl, ?_⟩
    have hmargin := registerDelegatedSeedNet_margin hreg
    obtain ⟨_, -, -, -, -, -, rfl, -⟩ := registerDelegatedSeedNet_ok hreg
    exact ⟨rfl, rfl, hmargin, rfl⟩
  | @committed i t src' net tok parent assignment a' _ hcommit =>
    cases ha
    cases hsrc _ rfl
    refine ⟨.of_commit hcommit, assignment, rfl, ?_⟩
    have hmargin := commitDelegatedRefresh_margin hcommit
    obtain ⟨_, _, _, -, -, -, -, -, rfl, -⟩ := commitDelegatedRefresh_ok hcommit
    exact ⟨rfl, rfl, hmargin, rfl⟩
  | released => cases ha

/-- What the handler grants at once is a replay. -/
theorem grant_of_request (hr : r.Wf) (hs : r.Sound now)
    (hkeys : ∀ k x e parent, r.seedRoutes.get k x = some e → e.extra.parent = some parent →
      parent.netId = k) {id : Nat} {req : SeedRequest} {res : SeedResponse}
    {a : SeedNetAssignment} (hout : (r.takeRequest now id src req).1 = .answer res)
    (ha : res.grant = some a) :
    (r.takeRequest now id src req).2.Backs src now a ∧
      ∃ tok e l parent, req = .refresh a.netId tok ∧ r.seedRoutes.get a.netId src = some e ∧
        e.kind = .active l ∧ l.refreshToken ≠ tok ∧
        l.expiration ≤ now + secs a.expiresSeconds.toNat ∧ e.extra.parent = some parent ∧
        a.minRefreshSeconds = parent.minRefreshSeconds - seedDelegationRefreshMargin := by
  obtain ⟨hspec, haged⟩ := takeRequest_spec hr.directory.leases now id src req
  rw [hout] at hspec
  cases hspec with
  | refused hnone =>
    rw [hnone] at ha
    cases ha
  | @replayed net tok e l parent he hl hp hexp htok =>
    cases ha
    obtain rfl := hkeys _ _ _ _ he hp
    exact ⟨.of_running hr hs haged he hl hexp rfl rfl rfl, tok, e, l, parent, rfl, he, hl, htok,
      le_remainingLeaseSeconds (hs _ _ e l he hl).1, hp, rfl⟩

variable [InterfaceSink σ]

/-- The routes of a root have no parent. -/
theorem route_of_rootOp (hr : r.Wf) {clock : Clock} {op : Op σ} (hop : rootOp op) {k x : UInt16}
    {e : LeaseEntry UInt16 SeedRoute} (he : (r.exec (clock, op)).seedRoutes.get k x = some e) :
    e.extra.parent = none ∨ ∃ e₀, r.seedRoutes.get k x = some e₀ ∧ e.extra = e₀.extra := by
  have heffect := seed_effect hr.directory clock op k x
  rw [he] at heffect
  generalize ho : some e = o at heffect
  cases heffect with
  | aged haged =>
    subst ho
    obtain ⟨e₀, he₀, -, heq⟩ := haged.of_some
    exact .inr ⟨e₀, he₀, by rw [heq]⟩
  | assigned =>
    cases ho
    exact .inl rfl
  | renewed he₀ =>
    cases ho
    exact .inr ⟨_, he₀, rfl⟩
  | released => cases ho
  | releasedDelegated => cases ho
  | lost _ he₀ =>
    cases ho
    exact .inr ⟨_, he₀, rfl⟩
  | replaced => cases ho
  | delegated => cases hop
  | committed => cases hop

theorem Sound.exec (hr : r.Wf) {op : Op σ} (hop : rootOp op) (hs : r.Sound now) :
    (r.exec (.at now, op)).Sound now :=
  fun net x _ _ he hl => lease_sound hr hop (hs net x) he hl

omit [InterfaceSink σ] in
theorem rootOp_of_request (req : SeedRequest) (up : UInt16) : rootOp (req.op up : Op σ) := by
  cases req <;> rfl

omit [InterfaceSink σ] in
theorem rootOp_of_seedSource {op : Op σ} (h : op.seedSource = none) : rootOp op := by
  cases op <;> first | rfl | cases h

omit [InterfaceSink σ] in
theorem refreshSeedNetAssignment_min {a : SeedNetAssignment}
    (h : r.refreshSeedNetAssignment src net tok now = (.ok a, r')) :
    a.minRefreshSeconds = minRefreshSecs := by
  unfold refreshSeedNetAssignment at h
  dsimp only at h
  split at h
  · cases h
  · split at h
    · cases h
    · cases h
      rfl

/-- What a root grants. -/
theorem grant_of_root (hs : r.Sound now) {L : SeedLink} {req : SeedRequest}
    {a : SeedNetAssignment} (ha : (Delegation.answer L r now req).grant = some a) :
    (r.exec (.at now, req.op L.up)).Backs L.up now a ∧ a.minRefreshSeconds = minRefreshSecs := by
  cases req with
  | assign =>
    rcases hres : r.requestSeedNetAssign L.up now with ⟨e | b, r'⟩
    · simp [Delegation.answer, hres, Except.map, SeedResponse.grant] at ha
    · obtain rfl : b = a := by
        simpa [Delegation.answer, hres, Except.map, SeedResponse.grant] using ha
      have hexec : r.exec (.at now, .requestSeedNetAssign L.up) = r' := by
        simp only [Router.exec, Clock.at, hres]
      obtain ⟨-, -, -, -, -, -, hsecs, hmin, htok, -⟩ := requestSeedNetAssign_ok hres
      obtain ⟨via, -, -, hget⟩ := requestSeedNetAssign_get hres
      refine ⟨?_, hmin⟩
      have hnew := hget b.netId L.up
      rw [if_pos ⟨rfl, rfl⟩] at hnew
      show (r.exec (.at now, .requestSeedNetAssign L.up)).Backs L.up now b
      rw [hexec]
      refine ⟨_, _, hnew, rfl, htok.symm, ?_, ?_⟩
      · rw [hsecs]
      · rw [hsecs]
        exact Nat.lt_add_of_pos_right (by decide)
  | refresh net tok =>
    rcases hres : r.refreshSeedNetAssignment L.up net tok now with ⟨e | b, r'⟩
    · simp [Delegation.answer, hres, SeedResponse.grant] at ha
    · obtain rfl : b = a := by
        simpa [Delegation.answer, hres, SeedResponse.grant] using ha
      have hexec : r.exec (.at now, .refreshSeedNetAssignment L.up net tok) = r' := by
        simp only [Router.exec, Clock.at, hres]
      show (r.exec (.at now, .refreshSeedNetAssignment L.up net tok)).Backs L.up now b ∧ _
      rw [hexec]
      have hmin : b.minRefreshSeconds = minRefreshSecs := refreshSeedNetAssignment_min hres
      obtain ⟨e, l, he, hl, hexp, rfl, hcases⟩ := refreshSeedNetAssignment_ok hres
      refine ⟨?_, hmin⟩
      rcases hcases with ⟨-, -, hsecs, htok, rfl⟩ | ⟨-, -, hsecs, htok, rfl⟩
      · refine ⟨_, _, LeaseTable.get_setKind_self he _, rfl, htok.symm, ?_, ?_⟩
        · rw [hsecs]
          exact Nat.le_refl _
        · rw [hsecs]
          exact Nat.lt_add_of_pos_right (by decide)
      · refine ⟨_, l, LeaseTable.get_setKind_self he e.kind, hl, htok.symm, ?_, ?_⟩
        · rw [hsecs]
          exact le_remainingLeaseSeconds (hs _ _ e l he hl).1
        · have hlt := remainingLeaseSeconds_lt l.expiration now
          rw [hsecs]
          omega
  | release net tok => cases ha

end Router

/-! ## A node and its parent -/

/-- What a node tells about the window: every hop has taken the margin off it. -/
def SeedTree.Tells {ι : Type} (T : SeedTree ι) (p : ι) (m : UInt16) : Prop :=
  m.toNat + seedDelegationRefreshMargin.toNat * T.depth p = minRefreshSecs.toNat

theorem SeedTree.tells_root {ι : Type} {T : SeedTree ι} {p : ι} (h : T.parent p = none) :
    T.Tells p minRefreshSecs := by
  rw [SeedTree.Tells, T.depth_root h]
  rfl

/-- There is room for the margin, and the subtraction does not wrap. -/
theorem SeedTree.Tells.child {ι : Type} {T : SeedTree ι} {v p : ι} (hp : T.parent v = some p)
    {m : UInt16} (h : T.Tells p m) (hmargin : seedDelegationRefreshMargin < m) :
    T.Tells v (m - seedDelegationRefreshMargin) := by
  have hle : seedDelegationRefreshMargin.toNat ≤ m.toNat := Nat.le_of_lt hmargin
  rw [SeedTree.Tells] at h ⊢
  rw [UInt16.toNat_sub_of_le _ _ (UInt16.le_of_lt hmargin), T.depth_parent hp, Nat.mul_add]
  omega

namespace SeedNet

variable {ι σ : Type} {N S C : ι → Nat} {T : SeedTree ι} {s s' : SeedNet ι σ N S C}
  {l : SeedLabel ι σ} {v p : ι}

/-- What `v` may rely on when `p` has granted it `a`. -/
structure Granted (T : SeedTree ι) (s : SeedNet ι σ N S C) (v p : ι) (a : SeedNetAssignment) :
    Prop where
  ends : (s.router p).EndsBy (T.up v) a.netId a.refreshToken
    (s.now + secs a.expiresSeconds.toNat)
  short : a.expiresSeconds.toNat ≤ maxLeaseSecs.toNat
  tells : T.Tells p a.minRefreshSeconds

/-- A lease that a child of `p` has stored with its route of `net`. -/
structure Stored (T : SeedTree ι) (p : ι) (net : UInt16) (lease : SeedLease) : Prop where
  netId : lease.netId = net
  margin : seedDelegationRefreshMargin < lease.minRefreshSeconds
  tells : T.Tells p lease.minRefreshSeconds

/-- Nobody believes that a lease ends earlier than it does. -/
structure Nested (T : SeedTree ι) (s : SeedNet ι σ N S C) : Prop where
  jobs : Jobs T s
  wf : ∀ v, (s.router v).Wf
  sound : ∀ v, (s.router v).Sound s.now
  answers : ∀ v p, T.parent v = some p → ∀ call ∈ (s.node v).responses, ∀ a,
    call.msg.grant = some a → Granted T s v p a
  stored : ∀ v net src e lease, (s.router v).seedRoutes.get net src = some e →
    e.extra.parent = some lease → ∃ p, T.parent v = some p ∧ Stored T p net lease
  delegated : ∀ v p, T.parent v = some p → ∀ net src e,
    (s.router v).seedRoutes.get net src = some e → ∃ lease, e.extra.parent = some lease
  routes : ∀ v p, T.parent v = some p → ∀ net src e l lease,
    (s.router v).seedRoutes.get net src = some e → e.kind = .active l →
    e.extra.parent = some lease →
    (s.router p).EndsBy (T.up v) net lease.refreshToken l.expiration
  held : ∀ v p, T.parent v = some p → ∀ lease ends, (s.node v).lease = some (lease, ends) →
    (s.router p).EndsBy (T.up v) lease.netId lease.refreshToken ends ∧
      T.Tells p lease.minRefreshSeconds

/-- The stored lease of a route has the route's net id. -/
theorem Nested.keys (h : Nested T s) (v : ι) (net src : UInt16)
    (e : LeaseEntry UInt16 SeedRoute) (lease : SeedLease)
    (he : (s.router v).seedRoutes.get net src = some e) (hp : e.extra.parent = some lease) :
    lease.netId = net := by
  obtain ⟨_, -, hstored⟩ := h.stored v net src e lease he hp
  exact hstored.netId

variable [InterfaceSink σ]

/-- Behind every answer is a lease. -/
theorem Answered.backs (hn : Nested T s) {call : SeedCall ι SeedResponse}
    (h : Answered T s s' v p call) {a : SeedNetAssignment} (ha : call.msg.grant = some a) :
    (s'.router p).Backs (T.up v) s.now a ∧ T.Tells p a.minRefreshSeconds := by
  cases h with
  | root hroot _ hr =>
    obtain ⟨hback, hmin⟩ := Router.grant_of_root (hn.sound p) ha
    rw [hmin]
    exact ⟨hr ▸ hback, SeedTree.tells_root hroot⟩
  | served hg _ hout hr =>
    obtain ⟨hback, tok, e, l, lease, -, he, -, -, -, hstored, hmin⟩ :=
      Router.grant_of_request (hn.wf p) (hn.sound p) (hn.keys p) hout ha
    obtain ⟨g, hg, hlease⟩ := hn.stored p _ _ e lease he hstored
    rw [hmin]
    exact ⟨hr ▸ hback, hlease.tells.child hg hlease.margin⟩
  | @resumed c g sub handler sent res hres hc hout hr =>
    obtain ⟨-, -, hsrc⟩ := hn.jobs.clients p handler c hres.task
    obtain ⟨hback, b, hb, -, -, hmargin, hmin⟩ := Router.grant_of_response (hc ▸ hsrc) hout ha
    rw [hmin]
    exact ⟨hr ▸ hback,
      ((hn.answers p g hres.parent sub hres.mem b hb).tells).child hres.parent hmargin⟩
  | @gaveUp c handler res _ _ hout => cases handler <;> cases hout <;> cases ha

/-- A grant is true when it is made. -/
theorem Answered.granted (hn : Nested T s) (hs : ∀ v, (s'.router v).Sound s.now)
    (hle : s.now ≤ s'.now) {call : SeedCall ι SeedResponse}
    (h : Answered T s s' v p call) {a : SeedNetAssignment} (ha : call.msg.grant = some a) :
    Granted T s' v p a := by
  obtain ⟨hback, htells⟩ := h.backs hn ha
  exact ⟨(hback.endsBy (hs p)).mono (by omega), hback.short (hs p), htells⟩

/-! ### One step -/

theorem Routed.draws (hwf : (s.router v).Wf) (h : Routed T s s' v l) :
    Router.Draws (s.router v) (s'.router v) := by
  rcases h.exec with heq | ⟨op, heq⟩
  · rw [heq]
    exact ⟨.refl _, fun _ _ _ _ he _ => .inl he⟩
  · rw [heq]
    exact .exec hwf _ op

/-- A route of a bridge is from before, or a response has set it. -/
theorem Routed.route (hwf : (s.router v).Wf) (hp : T.parent v = some p)
    (h : Routed T s s' v l) {net src : UInt16} {e : LeaseEntry UInt16 SeedRoute}
    (he : (s'.router v).seedRoutes.get net src = some e) :
    (∃ e₀, (s.router v).seedRoutes.get net src = some e₀ ∧ e.extra = e₀.extra ∧
      s'.took v net = s.took v net ∧
      (Ages s.now e₀.kind e.kind ∨ l = .op v (.deregisterInterface e₀.extra.viaIdent) ∧
        ((s.router v).deregisterInterface e₀.extra.viaIdent s.now).1 = .ok () ∧
        ∃ t, e.kind = .tombstone t)) ∨
      ∃ call handler c sent a lease new, Resumes T s v p call handler c sent ∧
        call.msg.grant = some a ∧ Router.Rests (s'.router v) s.now net a e lease new ∧
        (s'.node v).task = none ∧ s'.took v net = s.now - sent := by
  cases h with
  | same h htook => exact .inl ⟨e, h ▸ he, rfl, by rw [htook], .inl (.same _)⟩
  | @op op hop h htook =>
    rw [h] at he
    have heffect := Router.seed_effect hwf.directory (.at s.now) op net src
    rw [he] at heffect
    generalize ho : some e = o at heffect
    cases heffect with
    | aged haged =>
      subst ho
      obtain ⟨e₀, he₀, hages, heq⟩ := haged.of_some
      exact .inl ⟨e₀, he₀, by rw [heq], by rw [htook], .inl hages⟩
    | lost hlost he₀ hvia =>
      cases ho
      subst hvia
      exact .inl ⟨_, he₀, rfl, by rw [htook], .inr ⟨rfl, hlost, _, rfl⟩⟩
    | _ => cases hop
  | root _ hroot =>
    rw [hp] at hroot
    cases hroot
  | @served w _ _ call _ _ _ h htook =>
    rw [h] at he
    have hspec := Router.takeRequest_spec hwf.directory.leases s.now (s.node v).next (T.up w)
      call.msg
    have haged := hspec.2.quiet.seed hwf.directory.leases net src
    rw [he] at haged
    obtain ⟨e₀, he₀, hages, heq⟩ := haged.of_some
    exact .inl ⟨e₀, he₀, by rw [heq], by rw [htook], .inl hages⟩
  | @resumed q c call handler sent hres h hdone htook hnew =>
    cases hp.symm.trans hres.parent
    rw [h] at he ⊢
    rcases Router.route_of_response hwf he with ⟨e₀, he₀, hages, heq, hother⟩ |
      ⟨a, lease, new, ha, hrests, res, b, hout, hb, hnet⟩
    · refine .inl ⟨e₀, he₀, heq, ?_, .inl hages⟩
      rcases htook net with hsame | ⟨-, res, b, hout, hb, hnet⟩
      · exact hsame
      · exact absurd hnet (hother res b hout hb)
    · exact .inr ⟨call, handler, c, sent, a, lease, new, hres, ha, hrests, hdone res hout,
        hnet ▸ hnew res b hout hb⟩

/-- The router of a root takes an operation of a root, if it takes any. -/
theorem Routed.root_exec (h : Routed T s s' v l) (hp : T.parent v = none) :
    s'.router v = s.router v ∨ ∃ op : Op σ, Router.rootOp op ∧
      s'.router v = (s.router v).exec (.at s.now, op) := by
  cases h with
  | same h => exact .inl h
  | op hop h => exact .inr ⟨_, Router.rootOp_of_seedSource hop, h⟩
  | root _ _ _ h => exact .inr ⟨_, Router.rootOp_of_request _ _, h⟩
  | served hg => cases hp.symm.trans hg
  | resumed hres => cases hp.symm.trans hres.parent

theorem Routed.sound (hn : Nested T s) (h : Routed T s s' v l) : (s'.router v).Sound s.now := by
  have hrng := (h.draws (hn.wf v)).rng
  cases hp : T.parent v with
  | none =>
    rcases h.root_exec hp with hsame | ⟨op, hop, hexec⟩
    · rw [hsame]
      exact hn.sound v
    · rw [hexec]
      exact .exec (hn.wf v) hop (hn.sound v)
  | some p =>
    intro net src e l he hl
    rcases h.route (hn.wf v) hp he with ⟨e₀, he₀, -, -, hages | ⟨-, -, t, ht⟩⟩ |
      ⟨call, handler, c, sent, a, lease, new, hres, ha, hrests, -⟩
    · rw [hl] at hages
      obtain ⟨hshort, hdrawn⟩ := hn.sound v net src e₀ l he₀ hages.active_eq
      exact ⟨hshort, hrng.drawn hdrawn⟩
    · rw [hl] at ht
      cases ht
    · cases hl.symm.trans hrests.active
      refine ⟨?_, hrests.drawn⟩
      have hshort := (hn.answers v p hp call hres.mem a ha).short
      rw [hrests.expiration]
      simp only [secs]
      omega

omit [InterfaceSink σ] in
theorem Granted.later {a : SeedNetAssignment} (h : Granted T s v p a) (hle : s.now ≤ s'.now)
    (hd : Router.Draws (s.router p) (s'.router p)) (hfresh : (s'.router p).rng.Distinct) :
    Granted T s' v p a :=
  ⟨(h.ends.draws hd hfresh).mono (by omega), h.short, h.tells⟩

variable [DecidableEq ι]

/-- The invariant is kept by every step that draws no token twice. -/
theorem Nested.step (hn : Nested T s) (hs : Step T s l s')
    (hfresh : ∀ v, (s'.router v).rng.Distinct) : Nested T s' := by
  have hle := hs.now_le
  have hdraws : ∀ v, Router.Draws (s.router v) (s'.router v) :=
    fun v => (hs.routed v).draws (hn.wf v)
  have hsound : ∀ v, (s'.router v).Sound s.now := fun v => (hs.routed v).sound hn
  constructor
  case jobs => exact hn.jobs.step hn.wf (fun v net src e lease => hn.keys v net src e lease) hs
  case wf => exact fun v => (hs.routed v).wf (hn.wf v)
  case sound =>
    intro v net src e l he hl
    obtain ⟨hshort, hdrawn⟩ := hsound v net src e l he hl
    exact ⟨by omega, hdrawn⟩
  case answers =>
    intro v p hp call hc a ha
    rcases hs.answered hn.jobs hp hc with hold | hnew
    · exact (hn.answers v p hp call hold a ha).later hle (hdraws p) (hfresh p)
    · exact hnew.granted hn hsound hle ha
  case stored =>
    intro v net src e lease he hstored
    cases hp : T.parent v with
    | none =>
      rw [← hp]
      rcases (hs.routed v).root_exec hp with hsame | ⟨op, hop, hexec⟩
      · exact hn.stored v net src e lease (hsame ▸ he) hstored
      · rw [hexec] at he
        rcases Router.route_of_rootOp (hn.wf v) hop he with hnone | ⟨e₀, he₀, hsame⟩
        · rw [hnone] at hstored
          cases hstored
        · exact hn.stored v net src e₀ lease he₀ (hsame ▸ hstored)
    | some p =>
      rw [← hp]
      rcases (hs.routed v).route (hn.wf v) hp he with ⟨e₀, he₀, hsame, -⟩ |
        ⟨call, handler, c, sent, a, lease', new, hres, ha, hrests, -⟩
      · exact hn.stored v net src e₀ lease he₀ (hsame ▸ hstored)
      · cases hstored.symm.trans hrests.stored
        obtain ⟨hnet, -, hmin⟩ := hrests.parent
        refine ⟨p, hp, hnet.trans hrests.netId, hmin ▸ hrests.margin, ?_⟩
        rw [hmin]
        exact (hn.answers v p hp call hres.mem a ha).tells
  case delegated =>
    intro v p hp net src e he
    rcases (hs.routed v).route (hn.wf v) hp he with ⟨e₀, he₀, hsame, -⟩ |
      ⟨_, _, _, _, _, lease, _, -, -, hrests, -⟩
    · rw [hsame]
      exact hn.delegated v p hp net src e₀ he₀
    · exact ⟨lease, hrests.stored⟩
  case routes =>
    intro v p hp net src e l lease he hl hstored
    rcases (hs.routed v).route (hn.wf v) hp he with ⟨e₀, he₀, hsame, -, hages | ⟨-, -, t, ht⟩⟩ |
      ⟨call, handler, c, sent, a, lease', new, hres, ha, hrests, -⟩
    · rw [hl] at hages
      exact (hn.routes v p hp net src e₀ l lease he₀ hages.active_eq (hsame ▸ hstored)).draws
        (hdraws p) (hfresh p)
    · rw [hl] at ht
      cases ht
    · cases hstored.symm.trans hrests.stored
      cases hl.symm.trans hrests.active
      obtain ⟨-, htok, -⟩ := hrests.parent
      rw [htok, hrests.expiration, ← hrests.netId]
      exact (hn.answers v p hp call hres.mem a ha).ends.draws (hdraws p) (hfresh p)
  case held =>
    intro v p hp lease ends hlease
    have hold : ∀ lease ends, (s.node v).lease = some (lease, ends) →
        (s'.router p).EndsBy (T.up v) lease.netId lease.refreshToken ends ∧
          T.Tells p lease.minRefreshSeconds := by
      intro lease ends hlease
      obtain ⟨hends, htells⟩ := hn.held v p hp lease ends hlease
      exact ⟨hends.draws (hdraws p) (hfresh p), htells⟩
    rcases hs.leased (v := v) with hsame | hnone | ⟨q, call, hq, hc, hnew⟩
    · exact hold lease ends (hsame ▸ hlease)
    · rw [hnone] at hlease
      cases hlease
    · cases hp.symm.trans hq
      have hanswer := hn.answers v p hp call hc
      rw [hnew] at hlease
      unfold SeedNode.accept at hlease
      split at hlease
      · next granted hmsg =>
        cases hlease
        have hgrant := hanswer granted.assignment (by rw [hmsg]; rfl)
        exact ⟨hgrant.ends.draws (hdraws p) (hfresh p), hgrant.tells⟩
      · next a lease₀ ends₀ hmsg hlease₀ =>
        cases hlease
        have hgrant := hanswer a (by rw [hmsg]; rfl)
        exact ⟨hgrant.ends.draws (hdraws p) (hfresh p), hgrant.tells⟩
      · exact hold lease ends hlease

end SeedNet

end Ergot
