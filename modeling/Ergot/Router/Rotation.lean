import Mathlib.Data.Set.Function
import Ergot.Lib.TokenWindow
import Ergot.Router.Effect

/-!
# Token rotation

The leases of a router as servers of rotating tokens, in the sense of
`Ergot.Lib.TokenWindow`.

- `seedServer` is a seed route, refreshed at its root or through a bridge:
  `prepare_delegated_refresh` and `commit_delegated_refresh` are two actions, so that
  anything may happen between them. `claimServer` is a node claim.
- Tokens are outputs of the router's RNG (`Rng.drawn`); `Rng.Distinct` says that those
  drawn so far are distinct.
- `BridgeHolder` puts a bridge in the place of the holder: the token it presents is
  the one in the parent lease that is stored with its route, and it learns the next
  one only if it can commit the refresh.
-/

namespace Ergot

open TokenWindow (Window Client Served Server Lawful)

/-! ## Tokens -/

namespace Rng

/-- The random numbers drawn so far. -/
def drawn (g : Rng) : Set UInt64 := {t | ∃ i < g.pos, g.out i = t}

/-- No random number was drawn twice. -/
def Distinct (g : Rng) : Prop := Set.InjOn g.out {i | i < g.pos}

/-- `g'` is `g` after some draws. -/
def Extends (g g' : Rng) : Prop := g'.out = g.out ∧ g.pos ≤ g'.pos

theorem Extends.refl (g : Rng) : Extends g g := ⟨rfl, Nat.le_refl _⟩

theorem Extends.trans {g g' g'' : Rng} (h : Extends g g') (h' : Extends g' g'') : Extends g g'' :=
  ⟨h'.1.trans h.1, Nat.le_trans h.2 h'.2⟩

theorem Extends.next (g : Rng) : Extends g g.next.2 := ⟨rfl, Nat.le_succ _⟩

theorem Extends.drawn {g g' : Rng} (h : Extends g g') : g.drawn ⊆ g'.drawn := by
  rintro t ⟨i, hi, rfl⟩
  exact ⟨i, Nat.lt_of_lt_of_le hi h.2, by rw [h.1]⟩

theorem Extends.distinct {g g' : Rng} (h : Extends g g') (hd : g'.Distinct) : g.Distinct := by
  intro i hi j hj heq
  refine hd (Nat.lt_of_lt_of_le hi h.2) (Nat.lt_of_lt_of_le hj h.2) ?_
  rw [h.1]
  exact heq

/-- The next output is new, if it will not have been a repetition. -/
theorem next_not_mem_drawn {g : Rng} (hd : g.next.2.Distinct) : g.next.1 ∉ g.drawn := by
  rintro ⟨i, hi, heq⟩
  have hpos : i = g.pos := hd (Nat.lt_succ_of_lt hi) (Nat.lt_succ_self _) heq
  omega

/-- Distinctness of finitely many outputs can be computed. -/
theorem distinct_of_decide {g : Rng} (h : ∀ i < g.pos, ∀ j < g.pos, g.out i = g.out j → i = j) :
    g.Distinct := fun i hi j hj => h i hi j hj

theorem next_mem_drawn (g : Rng) : g.next.1 ∈ g.next.2.drawn :=
  ⟨g.pos, Nat.lt_succ_self _, rfl⟩

end Rng

/-- The tokens that a lease accepts. -/
def LeaseKind.window : LeaseKind → Option (Window Token)
  | .active l => some ⟨l.refreshToken, l.previousRefreshToken⟩
  | .tombstone _ => none

/-- The window of what a lookup found. -/
def windowOf {K X : Type} (o : Option (LeaseEntry K X)) : Option (Window Token) :=
  o.bind fun e => e.kind.window

theorem windowOf_aged {K X : Type} {now : Nat} {o o' : Option (LeaseEntry K X)}
    (h : Aged now o o') : windowOf o' = windowOf o ∨ windowOf o' = none := by
  cases h with
  | none => exact .inl rfl
  | reaped => exact .inr rfl
  | @kept e k hk =>
    obtain ⟨key, scope, extra, kind⟩ := e
    cases hk with
    | same => exact .inl rfl
    | expired => exact .inr rfl

namespace LeaseKind

/-- A token in the window is accepted in one way or the other. -/
theorem accepts_of_knows {l : Lease} {tok : Token}
    (h : (Window.mk l.refreshToken l.previousRefreshToken).Knows tok) :
    ∃ m, Accepts l tok true m := by
  by_cases hcur : l.refreshToken = tok
  · exact ⟨.current, .current hcur⟩
  · exact ⟨.replay, .replay hcur rfl (h.resolve_left hcur)⟩

/-- A lease never refuses a token it knows for being bad. -/
theorem validateToken_ne_badToken {k k' : LeaseKind} {l : Lease} {tok : Token} {now : Nat}
    {b : Bool} {m : TokenMatch} (hk : Ages now (.active l) k) (hacc : Accepts l tok b m) :
    k.validateToken tok now b ≠ (.error .badToken, k') := by
  cases hk with
  | expired => simp [validateToken]
  | same =>
    by_cases hexp : now < l.expiration
    · rw [validateToken_of_accepts hexp hacc]
      simp
    · cases hacc with
      | current h => simp [validateToken, h, Nat.not_lt.mp hexp]
      | replay hne hr h => simp [validateToken, hne, hr, h, Nat.not_lt.mp hexp]

/-- Validation does not look at the refresh window. -/
theorem validateToken_ne_tooSoon (k k' : LeaseKind) (tok : Token) (now : Nat) (b : Bool) :
    k.validateToken tok now b ≠ (.error .tooSoon, k') := by
  unfold validateToken
  split
  · simp
  · dsimp only
    split
    · simp
    · split <;> simp

theorem refresh_ne_badToken {k' : LeaseKind} {l : Lease} {tok newToken : Token} {now : Nat}
    {m : TokenMatch} (hacc : Accepts l tok true m) :
    (LeaseKind.active l).refresh tok now newToken true ≠ (.error .badToken, k') := by
  unfold refresh
  split
  · rename_i e k hv
    rintro ⟨⟩
    exact validateToken_ne_badToken (.same _) hacc hv
  · split
    · simp
    · split
      · simp
      · split <;> simp

end LeaseKind

namespace Router

variable {σ : Type} {N S C : Nat}

/-! ## What the operations draw and answer -/

/-- Operations only draw. -/
theorem exec_rng [InterfaceSink σ] (r : Router σ N S C) (step : Clock × Op σ) :
    r.rng.Extends (r.exec step).rng := by
  obtain ⟨clock, op⟩ := step
  obtain ⟨r₀, hquiet, hfoot⟩ := r.exec_footprint clock op
  refine .trans hquiet.rng ?_
  rcases hfoot.rng with hrng | hrng
  · rw [hrng]
    exact .refl _
  · rw [hrng]
    exact .next _

/-! ## Seed routes -/

section Servers

variable [InterfaceSink σ]

/-- The seed route of `net` to the requester `src`, as a server of tokens. -/
def seedServer (src net : UInt16) : Server (Router σ N S C) (Clock × Op σ) Token where
  step := exec
  presents := fun (_, op) =>
    match op with
    | .refreshSeedNetAssignment s k tok => if s = src ∧ k = net then some tok else none
    | .prepareDelegatedRefresh s k tok => if s = src ∧ k = net then some tok else none
    | .commitDelegatedRefresh s tok parent =>
      if s = src ∧ parent.netId = net then some tok else none
    | _ => none
  reply := fun r (clock, op) =>
    match op with
    | .refreshSeedNetAssignment s k tok =>
      match (r.refreshSeedNetAssignment s k tok clock.now).1 with
      | .ok a => some a.refreshToken
      | .error _ => none
    | .prepareDelegatedRefresh s k tok =>
      match (r.prepareDelegatedRefresh s k tok clock.now).1 with
      | .ok (.replay a) => some a.refreshToken
      | _ => none
    | .commitDelegatedRefresh s tok parent =>
      match (r.commitDelegatedRefresh s tok parent clock.now).1 with
      | .ok a => some a.refreshToken
      | .error _ => none
    | _ => none
  grants := fun r (clock, op) =>
    match op with
    | .requestSeedNetAssign s =>
      match (r.requestSeedNetAssign s clock.now).1 with
      | .ok a => s = src ∧ a.netId = net
      | .error _ => false
    | .registerDelegatedSeedNet s parent =>
      match (r.registerDelegatedSeedNet s parent clock.now).1 with
      | .ok _ => s = src ∧ parent.netId = net
      | .error _ => false
    | _ => false
  window := fun r => windowOf (r.seedRoutes.get net src)
  used := fun r => r.rng.drawn
  Inv := Wf
  Fresh := fun r => r.rng.Distinct

omit [InterfaceSink σ] in
/-- The tokens a quiet step leaves: those that were there, or none. -/
theorem served_of_quiet {r r' : Router σ N S C} (hr : r.Wf) {now : Nat} (hq : Quiet now r r')
    (src net : UInt16) (used used' : Set Token) (tok : Token) :
    Served (windowOf (r.seedRoutes.get net src)) used used' tok
      (windowOf (r'.seedRoutes.get net src)) none := by
  rcases windowOf_aged (hq.seed hr.directory.leases net src) with h | h
  · rw [h]
    exact .refused
  · rw [h]
    exact .ended

theorem windowOf_active {K X : Type} {e : LeaseEntry K X} {l : Lease}
    (hl : e.kind = .active l) :
    windowOf (some e) = some ⟨l.refreshToken, l.previousRefreshToken⟩ := by
  simp [windowOf, hl, LeaseKind.window]

theorem refresh_served {r : Router σ N S C} (hr : r.Wf) (src net : UInt16) (clock : Clock)
    (tok : Token) (hfresh : (r.exec (clock, .refreshSeedNetAssignment src net tok)).rng.Distinct) :
    Served (windowOf (r.seedRoutes.get net src)) r.rng.drawn
      (r.exec (clock, .refreshSeedNetAssignment src net tok)).rng.drawn tok
      (windowOf ((r.exec (clock, .refreshSeedNetAssignment src net tok)).seedRoutes.get net src))
      ((seedServer src net).reply r (clock, .refreshSeedNetAssignment src net tok)) := by
  simp only [exec, seedServer] at hfresh ⊢
  rcases h : r.refreshSeedNetAssignment src net tok clock.now with ⟨e | a, r'⟩
  · exact served_of_quiet hr (refreshSeedNetAssignment_error h).quiet src net _ _ tok
  · rw [h] at hfresh
    obtain ⟨e, l, he, hl, -, -, hcases⟩ := refreshSeedNetAssignment_ok h
    rcases hcases with ⟨rfl, -, -, htok, rfl⟩ | ⟨hne, hprev, -, htok, rfl⟩
    · have hwin : windowOf ((r.seedRoutes.setKind net src
          (.active (LeaseKind.renewed l clock.now r.rng.next.1))).get net src) =
            some ⟨r.rng.next.1, some l.refreshToken⟩ := by
        rw [LeaseTable.get_setKind_self he]
        rfl
      show Served (windowOf (r.seedRoutes.get net src)) r.rng.drawn r.rng.next.2.drawn
        l.refreshToken (windowOf ((r.seedRoutes.setKind net src
          (.active (LeaseKind.renewed l clock.now r.rng.next.1))).get net src))
        (some a.refreshToken)
      rw [he, windowOf_active hl, hwin, htok]
      exact .rotated rfl (Rng.next_not_mem_drawn hfresh) (Rng.next_mem_drawn _)
    · have hget : (r.seedRoutes.setKind net src e.kind).get net src = some e :=
        LeaseTable.get_setKind_self he e.kind
      simp only [setSeedKind, hget, he, windowOf_active hl, htok, hprev]
      exact .replayed rfl hne

theorem prepare_served {r : Router σ N S C} (hr : r.Wf) (src net : UInt16) (clock : Clock)
    (tok : Token) :
    Served (windowOf (r.seedRoutes.get net src)) r.rng.drawn
      (r.exec (clock, .prepareDelegatedRefresh src net tok)).rng.drawn tok
      (windowOf ((r.exec (clock, .prepareDelegatedRefresh src net tok)).seedRoutes.get net src))
      ((seedServer src net).reply r (clock, .prepareDelegatedRefresh src net tok)) := by
  simp only [exec, seedServer]
  have hq := (prepareDelegatedRefresh_agedOnly r src net tok clock.now).quiet
  rcases h : r.prepareDelegatedRefresh src net tok clock.now with ⟨e | res, r'⟩
  · rw [h] at hq
    exact served_of_quiet hr hq src net _ _ tok
  · rw [h] at hq
    obtain ⟨e, l, p, he, hl, hp, hexp, hcases⟩ :=
      prepareDelegatedRefresh_ok hr.directory.leases h
    rcases hcases with ⟨-, rfl⟩ | ⟨hne, hprev, rfl⟩
    · exact served_of_quiet hr hq src net _ _ tok
    · have hkept : r'.seedRoutes.get net src = some e :=
        (hq.seed hr.directory.leases net src).of_running he hl hexp
      simp only [hkept, he, windowOf_active hl, hprev, delegatedAssignment]
      exact .replayed rfl hne

theorem commit_served {r : Router σ N S C} (hr : r.Wf) (src : UInt16) (clock : Clock)
    (tok : Token) (parent : SeedLease)
    (hfresh : (r.exec (clock, .commitDelegatedRefresh src tok parent)).rng.Distinct) :
    Served (windowOf (r.seedRoutes.get parent.netId src)) r.rng.drawn
      (r.exec (clock, .commitDelegatedRefresh src tok parent)).rng.drawn tok
      (windowOf
        ((r.exec (clock, .commitDelegatedRefresh src tok parent)).seedRoutes.get parent.netId src))
      ((seedServer src parent.netId).reply r (clock, .commitDelegatedRefresh src tok parent)) := by
  simp only [exec, seedServer] at hfresh ⊢
  rcases h : r.commitDelegatedRefresh src tok parent clock.now with ⟨e | a, r'⟩
  · exact served_of_quiet hr (commitDelegatedRefresh_error h).quiet src _ _ _ tok
  · rw [h] at hfresh
    obtain ⟨e, l, p, he, hl, -, -, rfl, hget⟩ := commitDelegatedRefresh_get h
    obtain ⟨_, _, _, -, -, -, -, -, rfl, hr'⟩ := commitDelegatedRefresh_ok h
    have hwin := congrArg windowOf (hget parent.netId src)
    rw [if_pos ⟨rfl, rfl⟩] at hwin
    subst hr'
    rw [he, windowOf_active hl]
    simp only [hwin]
    exact .rotated rfl (Rng.next_not_mem_drawn hfresh) (Rng.next_mem_drawn _)

/-- A seed route, at a root or at a bridge, is a lawful server of its tokens. -/
theorem seedServer_lawful (src net : UInt16) :
    Lawful (seedServer src net : Server (Router σ N S C) (Clock × Op σ) Token) where
  inv_step r a hr := hr.exec a
  fresh_of_step r a hfresh := (exec_rng r a).distinct hfresh
  used_mono r a := (exec_rng r a).drawn
  served := by
    rintro r ⟨clock, op⟩ tok hr hfresh hpres
    cases op with
    | refreshSeedNetAssignment s k t =>
      simp only [seedServer, Option.ite_none_right_eq_some, Option.some.injEq] at hpres
      obtain ⟨⟨rfl, rfl⟩, rfl⟩ := hpres
      exact refresh_served hr s k clock t hfresh
    | prepareDelegatedRefresh s k t =>
      simp only [seedServer, Option.ite_none_right_eq_some, Option.some.injEq] at hpres
      obtain ⟨⟨rfl, rfl⟩, rfl⟩ := hpres
      exact prepare_served hr s k clock t
    | commitDelegatedRefresh s t parent =>
      simp only [seedServer, Option.ite_none_right_eq_some, Option.some.injEq] at hpres
      obtain ⟨⟨rfl, rfl⟩, rfl⟩ := hpres
      exact commit_served hr s clock t parent hfresh
    | _ => cases hpres
  other := by
    rintro r ⟨clock, op⟩ hr hpres hgrants
    have heffect := seed_effect hr.directory clock op net src
    show windowOf ((r.exec (clock, op)).seedRoutes.get net src) = windowOf _ ∨
      windowOf ((r.exec (clock, op)).seedRoutes.get net src) = none
    revert heffect
    generalize (r.exec (clock, op)).seedRoutes.get net src = o
    intro heffect
    cases heffect with
    | aged h => exact windowOf_aged h
    | released => exact .inr rfl
    | releasedDelegated => exact .inr rfl
    | replaced => exact .inr rfl
    | lost => exact .inr rfl
    | assigned h hk => simp [seedServer, h, hk] at hgrants
    | delegated h hk => simp [seedServer, h, hk] at hgrants
    | renewed => simp [seedServer] at hpres
    | committed hk => simp [seedServer, hk] at hpres

/-! ## Node claims -/

/-- The claim of `node` by a device on segment `src`, as a server of tokens. A claim
that is retransmitted with the nonce it was made with draws nothing and starts
nothing. -/
def claimServer (src : UInt16) (node : UInt8) :
    Server (Router σ N S C) (Clock × Op σ) Token where
  step := exec
  presents := fun (_, op) =>
    match op with
    | .refreshNodeClaim s k tok => if s = src ∧ k = node then some tok else none
    | _ => none
  reply := fun r (clock, op) =>
    match op with
    | .refreshNodeClaim s k tok =>
      match (r.refreshNodeClaim s k tok clock.now).1 with
      | .ok a => some a.refreshToken
      | .error _ => none
    | _ => none
  grants := fun r (clock, op) =>
    match op with
    | .requestNodeClaim s k nonce =>
      match (r.requestNodeClaim s k nonce clock.now).1 with
      | .ok _ => s = src ∧ k = node ∧ ((r.nodeClaims.gc clock.now).get node src).isNone
      | .error _ => false
    | _ => false
  window := fun r => windowOf (r.nodeClaims.get node src)
  used := fun r => r.rng.drawn
  Inv := Wf
  Fresh := fun r => r.rng.Distinct

theorem refreshClaim_served {r : Router σ N S C} (hr : r.Wf) (src : UInt16) (node : UInt8)
    (clock : Clock) (tok : Token)
    (hfresh : (r.exec (clock, .refreshNodeClaim src node tok)).rng.Distinct) :
    Served (windowOf (r.nodeClaims.get node src)) r.rng.drawn
      (r.exec (clock, .refreshNodeClaim src node tok)).rng.drawn tok
      (windowOf ((r.exec (clock, .refreshNodeClaim src node tok)).nodeClaims.get node src))
      ((claimServer src node).reply r (clock, .refreshNodeClaim src node tok)) := by
  simp only [exec, claimServer] at hfresh ⊢
  rcases h : r.refreshNodeClaim src node tok clock.now with ⟨e | a, r'⟩
  · rcases windowOf_aged ((refreshNodeClaim_error h).quiet.claims hr.claims node src) with hw | hw
    · rw [hw]
      exact .refused
    · rw [hw]
      exact .ended
  · rw [h] at hfresh
    obtain ⟨e, l, he, hl, -, hcases⟩ := refreshNodeClaim_ok h
    rcases hcases with ⟨rfl, -, -, htok, rfl⟩ | ⟨hne, hprev, -, htok, rfl⟩
    · have hwin : windowOf ((r.nodeClaims.setKind node src
          (.active (LeaseKind.renewed l clock.now r.rng.next.1))).get node src) =
            some ⟨r.rng.next.1, some l.refreshToken⟩ := by
        rw [LeaseTable.get_setKind_self he]
        rfl
      show Served (windowOf (r.nodeClaims.get node src)) r.rng.drawn r.rng.next.2.drawn
        l.refreshToken (windowOf ((r.nodeClaims.setKind node src
          (.active (LeaseKind.renewed l clock.now r.rng.next.1))).get node src))
        (some a.refreshToken)
      rw [he, windowOf_active hl, hwin, htok]
      exact .rotated rfl (Rng.next_not_mem_drawn hfresh) (Rng.next_mem_drawn _)
    · have hget : (r.nodeClaims.setKind node src e.kind).get node src = some e :=
        LeaseTable.get_setKind_self he e.kind
      simp only [hget, he, windowOf_active hl, htok, hprev]
      exact .replayed rfl hne

/-- A node claim is a lawful server of its tokens. -/
theorem claimServer_lawful (src : UInt16) (node : UInt8) :
    Lawful (claimServer src node : Server (Router σ N S C) (Clock × Op σ) Token) where
  inv_step r a hr := hr.exec a
  fresh_of_step r a hfresh := (exec_rng r a).distinct hfresh
  used_mono r a := (exec_rng r a).drawn
  served := by
    rintro r ⟨clock, op⟩ tok hr hfresh hpres
    cases op with
    | refreshNodeClaim s k t =>
      simp only [claimServer, Option.ite_none_right_eq_some, Option.some.injEq] at hpres
      obtain ⟨⟨rfl, rfl⟩, rfl⟩ := hpres
      exact refreshClaim_served hr s k clock t hfresh
    | _ => cases hpres
  other := by
    rintro r ⟨clock, op⟩ hr hpres hgrants
    have heffect := (claim_step hr.directory hr.claims clock op).effect node src
    show windowOf ((r.exec (clock, op)).nodeClaims.get node src) = windowOf _ ∨
      windowOf ((r.exec (clock, op)).nodeClaims.get node src) = none
    revert heffect
    generalize (r.exec (clock, op)).nodeClaims.get node src = o
    intro heffect
    cases heffect with
    | aged h => exact windowOf_aged h
    | claimed h hfree => simp [claimServer, h, hfree] at hgrants
    | renewed => simp [claimServer] at hpres
    | gone => exact .inr rfl

end Servers

end Router

end Ergot
