import Ergot.Router.Rotation

/-!
# Holders are not stranded

What a holder gets that is in step with its server (`Ergot.Lib.TokenWindow`): a retry
is not refused for its token, and the previous token gets the current one again
without changing anything.

- `SeedHolder.Safe` and `ClaimHolder.Safe` say so for a seed route and for a node
  claim, about whatever requests come, in whatever order.
- A bridge is such a holder itself (`Bridged`): it presents the token in the parent
  lease that is stored with its route.
-/

namespace Ergot

open TokenWindow (Window Client Server Lawful)
open Runs

namespace Router

variable {σ : Type} {N S C : Nat}

/-! ## Retries -/

theorem entry_of_windowOf {K X : Type} {o : Option (LeaseEntry K X)} {w : Window Token}
    (h : windowOf o = some w) :
    ∃ e l, o = some e ∧ e.kind = .active l ∧ w = ⟨l.refreshToken, l.previousRefreshToken⟩ := by
  obtain ⟨e, rfl, hw⟩ := Option.bind_eq_some_iff.mp h
  cases hk : e.kind with
  | tombstone c =>
    rw [hk] at hw
    cases hw
  | active l =>
    rw [hk] at hw
    cases hw
    exact ⟨e, l, rfl, hk, rfl⟩

/-- A refresh at the root with a token the lease knows is not refused for it. -/
theorem refreshSeed_ne_badRequest {r : Router σ N S C} {src net : UInt16} {w : Window Token}
    {tok : Token} (hw : windowOf (r.seedRoutes.get net src) = some w) (htok : w.Knows tok)
    (now : Nat) : (r.refreshSeedNetAssignment src net tok now).1 ≠ .error .badRequest := by
  obtain ⟨e, l, he, hl, rfl⟩ := entry_of_windowOf hw
  obtain ⟨m, hacc⟩ := LeaseKind.accepts_of_knows htok
  unfold refreshSeedNetAssignment
  simp only [he, hl]
  rcases href : (LeaseKind.active l).refresh tok now r.rng.next.1 true with ⟨d | res, kind⟩
  · cases d with
    | badToken => exact absurd href (LeaseKind.refresh_ne_badToken hacc)
    | expired => rintro ⟨⟩
    | tooSoon => rintro ⟨⟩
  · rintro ⟨⟩

/-- A refresh of a claim with a token it knows is not refused for it. -/
theorem refreshClaim_ne_badRequest {r : Router σ N S C} {src : UInt16} {node : UInt8}
    {w : Window Token} {tok : Token} (hw : windowOf (r.nodeClaims.get node src) = some w)
    (htok : w.Knows tok) (now : Nat) :
    (r.refreshNodeClaim src node tok now).1 ≠ .error .badRequest := by
  obtain ⟨e, l, he, hl, rfl⟩ := entry_of_windowOf hw
  obtain ⟨m, hacc⟩ := LeaseKind.accepts_of_knows htok
  unfold refreshNodeClaim
  simp only [he, hl]
  rcases href : (LeaseKind.active l).refresh tok now r.rng.next.1 true with ⟨d | res, kind⟩
  · cases d with
    | badToken => exact absurd href (LeaseKind.refresh_ne_badToken hacc)
    | expired => rintro ⟨⟩
    | tooSoon => rintro ⟨⟩
  · rintro ⟨⟩

/-- The first half of a delegated refresh, with a token the route knows, is not refused
for it. -/
theorem prepareRefresh_ne_badRequest {r : Router σ N S C} (hr : r.Wf) {src net : UInt16}
    {w : Window Token} {tok : Token} (hw : windowOf (r.seedRoutes.get net src) = some w)
    (htok : w.Knows tok) (now : Nat) :
    (r.prepareDelegatedRefresh src net tok now).1 ≠ .error .badRequest := by
  obtain ⟨e, l, he, hl, rfl⟩ := entry_of_windowOf hw
  obtain ⟨m, hacc⟩ := LeaseKind.accepts_of_knows htok
  unfold prepareDelegatedRefresh
  dsimp only
  split
  · rintro ⟨⟩
  · next e' hget =>
    -- the only route of this net id is the holder's
    obtain ⟨hages, heq⟩ := LeaseTable.of_byKey_gc hr.directory.leases he hget
    have hscope : e'.scope = src := by
      rw [heq]
      exact (LeaseTable.get_id he).2
    rw [hl] at hages
    rw [if_neg (not_not.mpr hscope)]
    rcases hval : e'.kind.validateToken tok now true with ⟨d | m', kind⟩
    · cases d with
      | badToken => exact absurd hval (LeaseKind.validateToken_ne_badToken hages hacc)
      | expired => simp [RefreshDenied.toSeedError]
      | tooSoon => exact absurd hval (LeaseKind.validateToken_ne_tooSoon _ _ _ _ _)
    · cases hp : e'.extra.parent <;> cases m' <;> simp
      split <;> simp

/-- The second half of a delegated refresh is not refused for its token if the route, as
far as it still runs, has that token for its current one. -/
theorem commitRefresh_ne_badRequest {r : Router σ N S C} {src : UInt16} {parent : SeedLease}
    {tok : Token}
    (hcur : ∀ w, windowOf (r.seedRoutes.get parent.netId src) = some w → w.current = tok)
    (now : Nat) : (r.commitDelegatedRefresh src tok parent now).1 ≠ .error .badRequest := by
  unfold commitDelegatedRefresh
  split
  · rintro ⟨⟩
  · dsimp only
    split
    · rintro ⟨⟩
    · next e he =>
      have hkind : ∀ l, e.kind = .active l → l.refreshToken = tok := fun l hl =>
        hcur _ (by rw [he, windowOf_active hl])
      split
      · next d kind hval =>
        have hd : d ≠ .badToken := by
          rintro rfl
          cases hk : e.kind with
          | tombstone c => simp [hk, LeaseKind.validateToken] at hval
          | active l =>
            rw [hk] at hval
            exact LeaseKind.validateToken_ne_badToken (.same _) (.current (hkind l hk)) hval
        cases d with
        | badToken => exact absurd rfl hd
        | expired => rintro ⟨⟩
        | tooSoon => exact absurd hval (LeaseKind.validateToken_ne_tooSoon _ _ _ _ _)
      · rintro ⟨⟩
      · split <;> rintro ⟨⟩

/-! ## Replays -/

/-- An answer that changed nothing: neither this entry nor, up to aging, any other. -/
structure Untouched (now : Nat) (r r' : Router σ N S C) : Prop where
  quiet : Quiet now r r'
  /-- Every lease that still runs is as it was. -/
  seed : ∀ k s e, r.seedRoutes.get k s = some e → e.kind.isActive now →
    r'.seedRoutes.get k s = some e
  claims : ∀ k s e, r.nodeClaims.get k s = some e → e.kind.isActive now →
    r'.nodeClaims.get k s = some e

theorem Quiet.untouched {now : Nat} {r r' : Router σ N S C} (hr : r.Wf) (h : Quiet now r r') :
    Untouched now r r' where
  quiet := h
  seed k s e he ha := by
    have haged := h.seed hr.directory.leases k s
    rw [he] at haged
    exact haged.of_isActive ha
  claims k s e he ha := by
    have haged := h.claims hr.claims k s
    rw [he] at haged
    exact haged.of_isActive ha

/-- The previous token at a root: the current one and the time that is left. -/
theorem refreshSeed_replay {r : Router σ N S C} (hr : r.Wf) {src net : UInt16}
    {e : LeaseEntry UInt16 SeedRoute} {l : Lease} {tok : Token} {now : Nat}
    (he : r.seedRoutes.get net src = some e) (hl : e.kind = .active l)
    (hexp : now < l.expiration) (hne : l.refreshToken ≠ tok)
    (hprev : l.previousRefreshToken = some tok) :
    (r.refreshSeedNetAssignment src net tok now).1 =
        .ok ⟨net, remainingLeaseSeconds l.expiration now, maxLeaseSecs, minRefreshSecs,
          l.refreshToken⟩ ∧
      Untouched now r (r.refreshSeedNetAssignment src net tok now).2 := by
  have href : e.kind.refresh tok now r.rng.next.1 true = (.ok (l, true), e.kind) := by
    rw [hl, LeaseKind.refresh_of_accepts hexp (.replay hne rfl hprev), if_pos rfl]
  unfold refreshSeedNetAssignment
  simp only [he, href]
  exact ⟨rfl, ((AgedOnly.drawn _ _).trans (.setSeedKind he (.same _))).quiet.untouched hr⟩

/-- The previous token of a claim. -/
theorem refreshClaim_replay {r : Router σ N S C} (hr : r.Wf) {src : UInt16} {node : UInt8}
    {e : LeaseEntry UInt8 UInt64} {l : Lease} {tok : Token} {now : Nat}
    (he : r.nodeClaims.get node src = some e) (hl : e.kind = .active l)
    (hexp : now < l.expiration) (hne : l.refreshToken ≠ tok)
    (hprev : l.previousRefreshToken = some tok) :
    (r.refreshNodeClaim src node tok now).1 =
        .ok ⟨node, src, remainingLeaseSeconds l.expiration now, maxLeaseSecs, minRefreshSecs,
          l.refreshToken⟩ ∧
      Untouched now r (r.refreshNodeClaim src node tok now).2 := by
  have href : e.kind.refresh tok now r.rng.next.1 true = (.ok (l, true), e.kind) := by
    rw [hl, LeaseKind.refresh_of_accepts hexp (.replay hne rfl hprev), if_pos rfl]
  unfold refreshNodeClaim
  simp only [he, href]
  exact ⟨rfl, ((AgedOnly.drawn _ _).trans (.setClaimKind he (.same _))).quiet.untouched hr⟩

/-- The previous token at a bridge: nothing is forwarded. -/
theorem prepareRefresh_replay {r : Router σ N S C} (hr : r.Wf) {src net : UInt16}
    {e : LeaseEntry UInt16 SeedRoute} {l : Lease} {p : SeedLease} {tok : Token} {now : Nat}
    (he : r.seedRoutes.get net src = some e) (hl : e.kind = .active l)
    (hp : e.extra.parent = some p) (hexp : now < l.expiration) (hne : l.refreshToken ≠ tok)
    (hprev : l.previousRefreshToken = some tok) :
    (r.prepareDelegatedRefresh src net tok now).1 =
        .ok (.replay (delegatedAssignment p l.refreshToken
          (remainingLeaseSeconds l.expiration now))) ∧
      Untouched now r (r.prepareDelegatedRefresh src net tok now).2 := by
  refine ⟨?_, (prepareDelegatedRefresh_agedOnly r src net tok now).quiet.untouched hr⟩
  have hu := hr.directory.leases
  have haged := LeaseTable.aged_get_gc (LeaseTable.ids_nodup hu) now net src
  have hgc : (r.gcSeed now).seedRoutes.byKey net = some e :=
    LeaseTable.byKey_of_get (hu.sublist (r.seedRoutes.keys_gc_sublist now))
      (haged.of_running he hl hexp)
  have hval : e.kind.validateToken tok now true = (.ok .replay, .active l) := by
    rw [hl]
    exact LeaseKind.validateToken_of_accepts hexp (.replay hne rfl hprev)
  unfold prepareDelegatedRefresh
  dsimp only
  rw [hgc]
  simp [(LeaseTable.get_id he).2, hval, hp]

/-! ## Holders -/

section Holders

variable [InterfaceSink σ]

/-- What the holder of the seed route `net` on segment `src` can rely on: it has the
token `s.2.token`, and `s.1` is the router. -/
structure SeedSafe (src net : UInt16) (s : Router σ N S C × Client Token) : Prop where
  /-- The holder has the current token or the one before it. -/
  knows : ∀ e l, s.1.seedRoutes.get net src = some e → e.kind = .active l →
    l.refreshToken = s.2.token ∨ l.previousRefreshToken = some s.2.token
  /-- A root does not refuse a retry for its token. -/
  refresh : ∀ e l, s.1.seedRoutes.get net src = some e → e.kind = .active l → ∀ now,
    (s.1.refreshSeedNetAssignment src net s.2.token now).1 ≠ .error .badRequest
  /-- Nor does a bridge, before it asks its parent. -/
  prepare : ∀ e l, s.1.seedRoutes.get net src = some e → e.kind = .active l → ∀ now,
    (s.1.prepareDelegatedRefresh src net s.2.token now).1 ≠ .error .badRequest
  /-- Nor after it has, whatever it did for others in the meantime. -/
  commit : ∀ (clock : Clock) p,
    (s.1.prepareDelegatedRefresh src net s.2.token clock.now).1 = .ok (.forward p) →
    ∀ (acts : List (Clock × Op σ)) (parent : SeedLease) now, parent.netId = net →
      ((runAll (TokenWindow.exec (seedServer src net))
        (s.1.exec (clock, .prepareDelegatedRefresh src net s.2.token), s.2)
        (acts.map .other)).1.commitDelegatedRefresh src s.2.token parent now).1 ≠
          .error .badRequest
  /-- A root answers the previous token with the current one. -/
  replay : ∀ e l tok now, s.1.seedRoutes.get net src = some e → e.kind = .active l →
    now < l.expiration → l.previousRefreshToken = some tok →
    (s.1.refreshSeedNetAssignment src net tok now).1 =
        .ok ⟨net, remainingLeaseSeconds l.expiration now, maxLeaseSecs, minRefreshSecs,
          l.refreshToken⟩ ∧
      Untouched now s.1 (s.1.refreshSeedNetAssignment src net tok now).2
  /-- So does a bridge, and its parent is not asked. -/
  replayDelegated : ∀ e l p tok now, s.1.seedRoutes.get net src = some e →
    e.kind = .active l → e.extra.parent = some p → now < l.expiration →
    l.previousRefreshToken = some tok →
    (s.1.prepareDelegatedRefresh src net tok now).1 =
        .ok (.replay (delegatedAssignment p l.refreshToken
          (remainingLeaseSeconds l.expiration now))) ∧
      Untouched now s.1 (s.1.prepareDelegatedRefresh src net tok now).2

/-- What the holder of the claim of `node` on segment `src` can rely on. -/
structure ClaimSafe (src : UInt16) (node : UInt8) (s : Router σ N S C × Client Token) :
    Prop where
  knows : ∀ e l, s.1.nodeClaims.get node src = some e → e.kind = .active l →
    l.refreshToken = s.2.token ∨ l.previousRefreshToken = some s.2.token
  refresh : ∀ e l, s.1.nodeClaims.get node src = some e → e.kind = .active l → ∀ now,
    (s.1.refreshNodeClaim src node s.2.token now).1 ≠ .error .badRequest
  replay : ∀ e l tok now, s.1.nodeClaims.get node src = some e → e.kind = .active l →
    now < l.expiration → l.previousRefreshToken = some tok →
    (s.1.refreshNodeClaim src node tok now).1 =
        .ok ⟨node, src, remainingLeaseSeconds l.expiration now, maxLeaseSecs, minRefreshSecs,
          l.refreshToken⟩ ∧
      Untouched now s.1 (s.1.refreshNodeClaim src node tok now).2

/-- After the first half of a delegated refresh, what the router does for others leaves
the token current, as long as the lease runs. -/
theorem current_of_others {src net : UInt16} {tok : Token} (acts : List (Clock × Op σ))
    {s : Router σ N S C × Client Token} (hr : s.1.Wf)
    (hcur : ∀ w, windowOf (s.1.seedRoutes.get net src) = some w → w.current = tok) :
    ∀ w, windowOf ((runAll (TokenWindow.exec (seedServer src net)) s
      (acts.map .other)).1.seedRoutes.get net src) = some w → w.current = tok := by
  induction acts generalizing s with
  | nil => exact hcur
  | cons a acts ih =>
    rw [List.map_cons, runAll_cons]
    simp only [TokenWindow.exec]
    split
    · next hguard =>
      refine ih ((seedServer_lawful src net).inv_step s.1 a hr) fun w hw => ?_
      rcases (seedServer_lawful src net).other s.1 a hr hguard.1 hguard.2 with hsame | hnone
      · exact hcur w (hsame.symm.trans hw)
      · have hw : (seedServer src net).window (exec s.1 a) = some w := hw
        rw [show (seedServer src net).window (exec s.1 a) = none from hnone] at hw
        cases hw
    · exact ih hr hcur

/-- A holder in step with the router of its seed route. -/
theorem SeedSafe.of_inv {src net : UInt16} {s : Router σ N S C × Client Token}
    (h : TokenWindow.SysInv (seedServer src net) s) : SeedSafe src net s := by
  obtain ⟨r, c⟩ := s
  obtain ⟨hr, hc⟩ := h
  have hr : r.Wf := hr
  have hwin : ∀ e l, r.seedRoutes.get net src = some e → e.kind = .active l →
      windowOf (r.seedRoutes.get net src) = some ⟨l.refreshToken, l.previousRefreshToken⟩ := by
    intro e l he hl
    rw [he, windowOf_active hl]
  have hknows : ∀ e l, r.seedRoutes.get net src = some e → e.kind = .active l →
      (Window.mk l.refreshToken l.previousRefreshToken).Knows c.token := fun e l he hl =>
    (hc.inStep _ (hwin e l he hl)).knows
  have hprev : ∀ e l tok, r.seedRoutes.get net src = some e → e.kind = .active l →
      l.previousRefreshToken = some tok → l.refreshToken ≠ tok := by
    rintro e l tok he hl hprev rfl
    exact (hc.window _ (hwin e l he hl)).2 hprev
  constructor
  case knows => exact hknows
  case refresh =>
    intro e l he hl now
    exact refreshSeed_ne_badRequest (hwin e l he hl) (hknows e l he hl) now
  case prepare =>
    intro e l he hl now
    exact prepareRefresh_ne_badRequest hr (hwin e l he hl) (hknows e l he hl) now
  case commit =>
    rintro clock p hforward acts parent now rfl
    have hr' := hr.exec (clock, .prepareDelegatedRefresh src parent.netId c.token)
    refine commitRefresh_ne_badRequest (current_of_others acts hr' ?_) now
    -- only the current token is forwarded
    rcases hprep : r.prepareDelegatedRefresh src parent.netId c.token clock.now with ⟨res, r'⟩
    rw [hprep] at hforward
    obtain rfl : res = .ok (.forward p) := hforward
    obtain ⟨e, l, p', he, hl, hp, hexp, ⟨htok, -⟩ | ⟨-, -, hres⟩⟩ :=
      prepareDelegatedRefresh_ok hr.directory.leases hprep
    · intro w hw
      have haged := (prepareDelegatedRefresh_agedOnly r src parent.netId c.token clock.now).quiet.seed
        hr.directory.leases parent.netId src
      have hsame := haged.of_running he hl hexp
      have hw : windowOf ((r.prepareDelegatedRefresh src parent.netId c.token
        clock.now).2.seedRoutes.get parent.netId src) = some w := hw
      rw [hsame, windowOf_active hl] at hw
      cases hw
      exact htok
    · cases hres
  case replay =>
    intro e l tok now he hl hexp htok
    exact refreshSeed_replay hr he hl hexp (hprev e l tok he hl htok) htok
  case replayDelegated =>
    intro e l p tok now he hl hp hexp htok
    exact prepareRefresh_replay hr he hl hp hexp (hprev e l tok he hl htok) htok

/-- A holder in step with the router of its node claim. -/
theorem ClaimSafe.of_inv {src : UInt16} {node : UInt8} {s : Router σ N S C × Client Token}
    (h : TokenWindow.SysInv (claimServer src node) s) : ClaimSafe src node s := by
  obtain ⟨r, c⟩ := s
  obtain ⟨hr, hc⟩ := h
  have hwin : ∀ e l, r.nodeClaims.get node src = some e → e.kind = .active l →
      windowOf (r.nodeClaims.get node src) = some ⟨l.refreshToken, l.previousRefreshToken⟩ := by
    intro e l he hl
    rw [he, windowOf_active hl]
  constructor
  case knows =>
    intro e l he hl
    exact (hc.inStep _ (hwin e l he hl)).knows
  case refresh =>
    intro e l he hl now
    exact refreshClaim_ne_badRequest (hwin e l he hl) (hc.inStep _ (hwin e l he hl)).knows now
  case replay =>
    intro e l tok now he hl hexp htok
    refine refreshClaim_replay hr he hl hexp ?_ htok
    rintro rfl
    exact (hc.window _ (hwin e l he hl)).2 htok

/-! ## Grants -/

/-- The step gives `tok` to a requester on segment `src`, for the net id `net`. -/
inductive SeedGranted (src net : UInt16) (tok : Token) (r : Router σ N S C) :
    Clock × Op σ → Prop
  | assigned {clock a} (h : (r.requestSeedNetAssign src clock.now).1 = .ok a)
      (hnet : a.netId = net) (htok : a.refreshToken = tok) :
      SeedGranted src net tok r (clock, .requestSeedNetAssign src)
  | delegated {clock parent a} (h : (r.registerDelegatedSeedNet src parent clock.now).1 = .ok a)
      (hnet : a.netId = net) (htok : a.refreshToken = tok) :
      SeedGranted src net tok r (clock, .registerDelegatedSeedNet src parent)

/-- The step gives `tok` to a device on segment `src`, for the node id `node` that
nobody held. -/
inductive ClaimedAnew (src : UInt16) (node : UInt8) (tok : Token) (r : Router σ N S C) :
    Clock × Op σ → Prop
  | claimed {clock nonce a} (h : (r.requestNodeClaim src node nonce clock.now).1 = .ok a)
      (hfree : (r.nodeClaims.gc clock.now).get node src = none) (htok : a.refreshToken = tok) :
      ClaimedAnew src node tok r (clock, .requestNodeClaim src node nonce)

/-- A grant starts a lease with one token. -/
theorem SeedGranted.window {src net : UInt16} {tok : Token} {r : Router σ N S C}
    {grant : Clock × Op σ} (h : SeedGranted src net tok r grant) :
    windowOf ((r.exec grant).seedRoutes.get net src) = some ⟨tok, none⟩ ∧
      tok ∈ (r.exec grant).rng.drawn := by
  cases h with
  | @assigned clock a h hnet htok =>
    subst hnet htok
    rcases hreq : r.requestSeedNetAssign src clock.now with ⟨res, r'⟩
    rw [hreq] at h
    obtain rfl : res = .ok a := h
    obtain ⟨via, -, -, hget⟩ := requestSeedNetAssign_get hreq
    obtain ⟨_, -, -, -, -, -, -, -, htok, hr'⟩ := requestSeedNetAssign_ok hreq
    simp only [exec, hreq, htok]
    rw [hget, if_pos ⟨rfl, rfl⟩, hr']
    exact ⟨rfl, Rng.next_mem_drawn _⟩
  | @delegated clock parent a h hnet htok =>
    subst hnet htok
    rcases hreq : r.registerDelegatedSeedNet src parent clock.now with ⟨res, r'⟩
    rw [hreq] at h
    obtain rfl : res = .ok a := h
    obtain ⟨via, -, hget⟩ := registerDelegatedSeedNet_get hreq
    obtain ⟨_, -, -, -, -, -, rfl, hr'⟩ := registerDelegatedSeedNet_ok hreq
    simp only [exec, hreq, delegatedAssignment]
    rw [hget, if_pos rfl, if_pos rfl, hr']
    exact ⟨rfl, Rng.next_mem_drawn _⟩

/-- Its holder has that token. -/
theorem SeedGranted.start {src net : UInt16} {tok : Token} {r : Router σ N S C} (hr : r.Wf)
    {grant : Clock × Op σ} (h : SeedGranted src net tok r grant) :
    TokenWindow.SysInv (seedServer src net) (r.exec grant, .start tok) := by
  refine { server := hr.exec grant, client := ?_ }
  have hstart := h.window
  show TokenWindow.Inv (windowOf ((r.exec grant).seedRoutes.get net src)) _ _
  rw [hstart.1]
  exact .start hstart.2

theorem ClaimedAnew.start {src : UInt16} {node : UInt8} {tok : Token} {r : Router σ N S C}
    (hr : r.Wf) {grant : Clock × Op σ} (h : ClaimedAnew src node tok r grant) :
    TokenWindow.SysInv (claimServer src node) (r.exec grant, .start tok) := by
  refine { server := hr.exec grant, client := ?_ }
  obtain ⟨h, hfree, rfl⟩ := h
  rename_i clock nonce a
  rcases hreq : r.requestNodeClaim src node nonce clock.now with ⟨res, r'⟩
  rw [hreq] at h
  obtain rfl : res = .ok a := h
  obtain ⟨-, -, -, ⟨e, l, he, -⟩ | ⟨-, hfull, htok, -, rfl⟩⟩ := requestNodeClaim_ok hreq
  · rw [hfree] at he
    cases he
  · have hwin : windowOf ((r.exec (clock, .requestNodeClaim src node nonce)).nodeClaims.get
        node src) = some ⟨a.refreshToken, none⟩ := by
      simp only [exec, hreq, htok]
      rw [LeaseTable.get_push hfull hfree, if_pos ⟨rfl, rfl⟩]
      rfl
    show TokenWindow.Inv (windowOf ((r.exec _).nodeClaims.get node src)) _ _
    rw [hwin]
    refine .start ?_
    show a.refreshToken ∈ (r.exec (clock, .requestNodeClaim src node nonce)).rng.drawn
    simp only [exec, hreq, htok]
    exact Rng.next_mem_drawn _

end Holders

end Router

end Ergot
