import Ergot.Router.Agreement
import Ergot.Router.Holder

/-!
# The lease of a bridge

What a step of the parent does to the tokens and the time of a lease that it gave a bridge,
and what has to hold for a refresh or a release to succeed, at the bridge and at the parent.
-/

namespace Ergot

open TokenWindow (Window Client)
open Runs

namespace Router

variable {σ : Type} {N S C : Nat} [InterfaceSink σ]

/-! ## What a step of the parent does to a lease of the bridge -/

/-- Unless the net id is assigned again or its lease refreshed, the tokens stay. -/
theorem window_exec {up net : UInt16} {r : Router σ N S C} (hr : r.Wf) {clock : Clock}
    {op : Op σ} (hroot : rootOp op)
    (hrefresh : ∀ tok, op ≠ .refreshSeedNetAssignment up net tok)
    (halloc : ∀ a, op = .requestSeedNetAssign up →
      (r.requestSeedNetAssign up clock.now).1 = .ok a → a.netId ≠ net) :
    windowOf ((r.exec (clock, op)).seedRoutes.get net up) = windowOf (r.seedRoutes.get net up) ∨
      windowOf ((r.exec (clock, op)).seedRoutes.get net up) = none := by
  refine (seedServer_lawful up net).other r (clock, op) hr ?_ ?_
  · cases op with
    | refreshSeedNetAssignment src k tok =>
      have hne : ¬ (src = up ∧ k = net) := by
        rintro ⟨rfl, rfl⟩
        exact hrefresh tok rfl
      simp [seedServer, hne]
    | prepareDelegatedRefresh => cases hroot
    | commitDelegatedRefresh => cases hroot
    | _ => rfl
  · cases op with
    | registerDelegatedSeedNet => cases hroot
    | requestSeedNetAssign src =>
      simp only [seedServer]
      rcases hreq : r.requestSeedNetAssign src clock.now with ⟨e | a, r'⟩
      · rfl
      · simp only [decide_eq_false_iff_not, not_and]
        rintro rfl
        exact halloc a rfl (by rw [hreq])
    | _ => rfl

/-- An assignment and a refresh draw one token. -/
theorem rng_of_assign {r : Router σ N S C} {src : UInt16} (clock : Clock)
    {a : SeedNetAssignment} (hok : (r.requestSeedNetAssign src clock.now).1 = .ok a) :
    (r.exec (clock, .requestSeedNetAssign src)).rng = r.rng.next.2 := by
  rcases hreq : r.requestSeedNetAssign src clock.now with ⟨res, r'⟩
  rw [hreq] at hok
  obtain rfl : res = .ok a := hok
  obtain ⟨_, -, -, -, -, -, -, -, -, rfl⟩ := requestSeedNetAssign_ok hreq
  simp only [exec, hreq]

theorem rng_of_refresh (r : Router σ N S C) (src net : UInt16) (tok : Token) (clock : Clock) :
    (r.exec (clock, .refreshSeedNetAssignment src net tok)).rng = r.rng.next.2 := by
  show (r.refreshSeedNetAssignment src net tok clock.now).2.rng = r.rng.next.2
  unfold refreshSeedNetAssignment
  dsimp only
  split
  · rfl
  · split <;> rfl

/-- A lease under a token that was drawn before is not new. -/
theorem lease_of_drawn {net src : UInt16} {r : Router σ N S C} (hr : r.Wf) {clock : Clock}
    {op : Op σ} (hroot : rootOp op) (hfresh : (r.exec (clock, op)).rng.Distinct)
    {e : LeaseEntry UInt16 SeedRoute} {l : Lease}
    (he : (r.exec (clock, op)).seedRoutes.get net src = some e) (hl : e.kind = .active l)
    (hdrawn : l.refreshToken ∈ r.rng.drawn) :
    ∃ e₀, r.seedRoutes.get net src = some e₀ ∧ e₀.kind = .active l := by
  have heffect := seed_effect hr.directory clock op net src
  rw [he] at heffect
  generalize ho : some e = o at heffect
  cases heffect with
  | aged haged =>
    subst ho
    obtain ⟨e₀, he₀, hages, -⟩ := haged.of_some
    rw [hl] at hages
    exact ⟨e₀, he₀, hages.active_eq⟩
  | @assigned a via hok =>
    cases ho
    cases hl
    rw [rng_of_assign clock hok] at hfresh
    exact absurd hdrawn (Rng.next_not_mem_drawn hfresh)
  | @renewed e₀ l₀ tok =>
    cases ho
    cases hl
    rw [rng_of_refresh] at hfresh
    exact absurd hdrawn (Rng.next_not_mem_drawn hfresh)
  | released => cases ho
  | releasedDelegated => cases ho
  | lost =>
    cases ho
    cases hl
  | replaced => cases ho
  | delegated => cases hroot
  | committed => cases hroot

/-- No lease of a root is longer than the maximum, and its token was drawn. -/
theorem lease_sound {net src : UInt16} {r : Router σ N S C} (hr : r.Wf) {clock : Clock}
    {op : Op σ} (hroot : rootOp op)
    (hsound : ∀ e l, r.seedRoutes.get net src = some e → e.kind = .active l →
      l.expiration ≤ clock.now + secs maxLeaseSecs.toNat ∧ l.refreshToken ∈ r.rng.drawn)
    {e : LeaseEntry UInt16 SeedRoute} {l : Lease}
    (he : (r.exec (clock, op)).seedRoutes.get net src = some e) (hl : e.kind = .active l) :
    l.expiration ≤ clock.now + secs maxLeaseSecs.toNat ∧
      l.refreshToken ∈ (r.exec (clock, op)).rng.drawn := by
  have heffect := seed_effect hr.directory clock op net src
  rw [he] at heffect
  generalize ho : some e = o at heffect
  cases heffect with
  | aged haged =>
    subst ho
    obtain ⟨e₀, he₀, hages, -⟩ := haged.of_some
    rw [hl] at hages
    obtain ⟨hshort, hdrawn⟩ := hsound e₀ l he₀ hages.active_eq
    exact ⟨hshort, (exec_rng r _).drawn hdrawn⟩
  | assigned hok =>
    cases ho
    cases hl
    rw [rng_of_assign clock hok]
    refine ⟨?_, Rng.next_mem_drawn _⟩
    show clock.now + secs initialLeaseSecs.toNat ≤ _
    have hle : secs initialLeaseSecs.toNat ≤ secs maxLeaseSecs.toNat := by decide
    omega
  | renewed =>
    cases ho
    cases hl
    rw [rng_of_refresh]
    exact ⟨Nat.le_refl _, Rng.next_mem_drawn _⟩
  | released => cases ho
  | releasedDelegated => cases ho
  | lost =>
    cases ho
    cases hl
  | replaced => cases ho
  | delegated => cases hroot
  | committed => cases hroot

omit [InterfaceSink σ] in
/-- What is held is not free. -/
theorem Held.not_assigned {net src up : UInt16} {d now : Nat} {r : Router σ N S C} (hr : r.Wf)
    (h : Held src net d r) (hnow : now < d) {a : SeedNetAssignment}
    (hok : (r.requestSeedNetAssign up now).1 = .ok a) : a.netId ≠ net := by
  rintro rfl
  rcases hreq : r.requestSeedNetAssign up now with ⟨res, r'⟩
  rw [hreq] at hok
  obtain rfl : res = .ok a := hok
  obtain ⟨-, -, -, -, -, halloc, -⟩ := requestSeedNetAssign_ok hreq
  have hfree : (r.seedRoutes.gc now).containsKey a.netId = false := (allocNetId_spec halloc).2.2.1
  rw [h.contains_gc hr.directory hnow] at hfree
  cases hfree

omit [InterfaceSink σ] in
/-- The remaining time is rounded up, if it can be told at all. -/
theorem le_remainingLeaseSeconds {expiration now : Nat}
    (hshort : expiration ≤ now + secs maxLeaseSecs.toNat) :
    expiration ≤ now + secs (remainingLeaseSeconds expiration now).toNat := by
  have hmax : maxLeaseSecs.toNat = 120 := rfl
  rw [hmax] at hshort
  simp only [remainingLeaseSeconds]
  have hup : expiration - now ≤ secs ((expiration - now) / secs 1 +
      if expiration - now > secs ((expiration - now) / secs 1) then 1 else 0) := by
    split <;> simp only [secs] at * <;> omega
  have hone : (if expiration - now > secs ((expiration - now) / secs 1) then 1 else 0) ≤ 1 := by
    split <;> omega
  generalize (if expiration - now > secs ((expiration - now) / secs 1) then 1 else 0) = up
    at hone hup ⊢
  have hmin : min ((expiration - now) / secs 1 + up) 65535 = (expiration - now) / secs 1 + up := by
    simp only [secs] at *
    omega
  rw [hmin, UInt16.toNat_ofNat_of_lt' (by simp only [secs, UInt16.size] at *; omega)]
  omega

/-- How long an assignment lasts, and that its token is new. -/
theorem assign_lasts {up : UInt16} {r : Router σ N S C} {now : Nat} {a : SeedNetAssignment}
    (hok : (r.requestSeedNetAssign up now).1 = .ok a) :
    a.refreshToken = r.rng.next.1 ∧
      ∀ e l, (r.exec (.at now, .requestSeedNetAssign up)).seedRoutes.get a.netId up = some e →
        e.kind = .active l → l.expiration ≤ now + secs a.expiresSeconds.toNat := by
  rcases hres : r.requestSeedNetAssign up now with ⟨res, r'⟩
  rw [hres] at hok
  obtain rfl : res = .ok a := hok
  obtain ⟨-, -, -, -, -, -, hsecs, -, htok, -⟩ := requestSeedNetAssign_ok hres
  obtain ⟨via, -, -, hget⟩ := requestSeedNetAssign_get hres
  refine ⟨htok, fun e l he hl => ?_⟩
  simp only [exec, Clock.at, hres] at he
  rw [hget, if_pos ⟨rfl, rfl⟩] at he
  cases he
  cases hl
  rw [hsecs]

/-- How long the lease behind the answer to a refresh lasts, and that its token was drawn. -/
theorem refresh_lasts {net up : UInt16} {tok : Token} {r : Router σ N S C} {now : Nat}
    {a : SeedNetAssignment} (hsound : ∀ e l, r.seedRoutes.get net up = some e →
      e.kind = .active l →
      l.expiration ≤ now + secs maxLeaseSecs.toNat ∧ l.refreshToken ∈ r.rng.drawn)
    (hok : (r.refreshSeedNetAssignment up net tok now).1 = .ok a) :
    a.netId = net ∧
      a.refreshToken ∈ (r.exec (.at now, .refreshSeedNetAssignment up net tok)).rng.drawn ∧
      ∀ e l, (r.exec (.at now, .refreshSeedNetAssignment up net tok)).seedRoutes.get net up =
        some e → e.kind = .active l → l.expiration ≤ now + secs a.expiresSeconds.toNat := by
  rcases hres : r.refreshSeedNetAssignment up net tok now with ⟨res, r'⟩
  rw [hres] at hok
  obtain rfl : res = .ok a := hok
  obtain ⟨e, l, he, hl, hexp, hnet, hcases⟩ := refreshSeedNetAssignment_ok hres
  refine ⟨hnet, ?_⟩
  have hexec : r.exec (.at now, .refreshSeedNetAssignment up net tok) = r' := by
    show (r.refreshSeedNetAssignment up net tok now).2 = r'
    rw [hres]
  rw [hexec]
  rcases hcases with ⟨-, -, hsecs, htok, rfl⟩ | ⟨-, -, hsecs, htok, rfl⟩
  · refine ⟨?_, ?_⟩
    · rw [htok]
      exact Rng.next_mem_drawn _
    · intro e' l' he' hl'
      cases (LeaseTable.get_setKind_self he _).symm.trans he'
      cases hl'
      rw [hsecs]
      exact Nat.le_refl _
  · refine ⟨?_, ?_⟩
    · rw [htok]
      exact (Rng.Extends.next r.rng).drawn (hsound e l he hl).2
    · intro e' l' he' hl'
      cases (LeaseTable.get_setKind_self he e.kind).symm.trans he'
      have hl' : e.kind = .active l' := hl'
      rw [hl] at hl'
      cases hl'
      rw [hsecs]
      exact le_remainingLeaseSeconds (hsound e l he hl).1

/-! ## What succeeds -/

omit [InterfaceSink σ] in
/-- A refresh at the root that is not too early, with a token it knows. -/
theorem refreshSeed_succeeds {r : Router σ N S C} {up net : UInt16} {tok : Token} {now : Nat}
    {e : LeaseEntry UInt16 SeedRoute} {l : Lease} (he : r.seedRoutes.get net up = some e)
    (hl : e.kind = .active l) (hexp : now < l.expiration)
    (hknows : (Window.mk l.refreshToken l.previousRefreshToken).Knows tok)
    (hopen : l.refreshToken = tok → l.expiration - now ≤ secs minRefreshSecs.toNat) :
    ∃ a, (r.refreshSeedNetAssignment up net tok now).1 = .ok a ∧ a.netId = net ∧
      a.minRefreshSeconds = minRefreshSecs := by
  have hres : ∃ res kind, e.kind.refresh tok now r.rng.next.1 true = (.ok res, kind) := by
    rw [hl]
    by_cases hcur : l.refreshToken = tok
    · have hnot : ¬ l.expiration - now > secs minRefreshSecs.toNat := Nat.not_lt.mpr (hopen hcur)
      rw [LeaseKind.refresh_of_accepts hexp (.current hcur)]
      simp [hnot]
    · rw [LeaseKind.refresh_of_accepts hexp (.replay hcur rfl (hknows.resolve_left hcur))]
      simp
  obtain ⟨⟨l', replayed⟩, kind, hres⟩ := hres
  unfold refreshSeedNetAssignment
  simp only [he, hres]
  exact ⟨_, rfl, rfl, rfl⟩

omit [InterfaceSink σ] in
/-- Collection leaves a running lease alone. -/
theorem get_gcSeed_of_running {r : Router σ N S C} (hr : r.Wf) {src net : UInt16} {now : Nat}
    {e : LeaseEntry UInt16 SeedRoute} {l : Lease} (he : r.seedRoutes.get net src = some e)
    (hl : e.kind = .active l) (hexp : now < l.expiration) :
    (r.gcSeed now).seedRoutes.get net src = some e := by
  have haged := LeaseTable.aged_get_gc (LeaseTable.ids_nodup hr.directory.leases) now net src
  exact haged.of_running he hl hexp

omit [InterfaceSink σ] in
/-- A release at the root with any token but the current one. -/
theorem releaseSeed_refused {r : Router σ N S C} (hr : r.Wf) {up net : UInt16} {tok : Token}
    {now : Nat} {e : LeaseEntry UInt16 SeedRoute} {l : Lease}
    (he : r.seedRoutes.get net up = some e) (hl : e.kind = .active l) (hexp : now < l.expiration)
    (hother : l.refreshToken ≠ tok) :
    (r.releaseSeedNetAssignment up net tok now).1 = .error .badRequest := by
  have hgc := get_gcSeed_of_running hr he hl hexp
  unfold releaseSeedNetAssignment
  simp [hgc, hl, LeaseKind.validateToken, hother, RefreshDenied.toSeedError]

omit [InterfaceSink σ] in
theorem prepareRefresh_forwards {r : Router σ N S C} (hr : r.Wf) {src net : UInt16} {now : Nat}
    {e : LeaseEntry UInt16 SeedRoute} {l : Lease} {p : SeedLease}
    (he : r.seedRoutes.get net src = some e) (hl : e.kind = .active l)
    (hp : e.extra.parent = some p) (hexp : now < l.expiration) :
    (r.prepareDelegatedRefresh src net l.refreshToken now).1 = .ok (.forward p) := by
  have hgc := LeaseTable.byKey_of_get
    (hr.directory.leases.sublist (r.seedRoutes.keys_gc_sublist now))
    (get_gcSeed_of_running hr he hl hexp)
  have hgc : (r.gcSeed now).seedRoutes.byKey net = some e := hgc
  have hval := LeaseKind.validateToken_current hl hexp true
  unfold prepareDelegatedRefresh
  simp [hgc, (LeaseTable.get_id he).2, hval, hp]

omit [InterfaceSink σ] in
theorem prepareRelease_forwards {r : Router σ N S C} (hr : r.Wf) {src net : UInt16} {now : Nat}
    {e : LeaseEntry UInt16 SeedRoute} {l : Lease} {p : SeedLease}
    (he : r.seedRoutes.get net src = some e) (hl : e.kind = .active l)
    (hp : e.extra.parent = some p) (hexp : now < l.expiration) :
    (r.prepareDelegatedRelease src net l.refreshToken now).1 = .ok p := by
  have hgc := get_gcSeed_of_running hr he hl hexp
  have hval := LeaseKind.validateToken_current hl hexp false
  unfold prepareDelegatedRelease
  simp [hgc, hval, hp]

omit [InterfaceSink σ] in
theorem commitRefresh_succeeds {r : Router σ N S C} {src : UInt16} {now : Nat}
    {e : LeaseEntry UInt16 SeedRoute} {l : Lease} {p : SeedLease} (parent : SeedLease)
    (he : r.seedRoutes.get parent.netId src = some e) (hl : e.kind = .active l)
    (hp : e.extra.parent = some p) (hexp : now < l.expiration)
    (hmargin : ¬ parent.minRefreshSeconds ≤ seedDelegationRefreshMargin) :
    ∃ a, (r.commitDelegatedRefresh src l.refreshToken parent now).1 = .ok a := by
  have hval := LeaseKind.validateToken_current hl hexp false
  unfold commitDelegatedRefresh
  simp [hmargin, he, hval, hp]

omit [InterfaceSink σ] in
theorem commitRelease_succeeds {r : Router σ N S C} {src net : UInt16} {now : Nat}
    {e : LeaseEntry UInt16 SeedRoute} {l : Lease} (he : r.seedRoutes.get net src = some e)
    (hl : e.kind = .active l) (hexp : now < l.expiration) :
    (r.commitDelegatedRelease src net l.refreshToken now).1 = .ok () ∧
      (r.commitDelegatedRelease src net l.refreshToken now).2.seedRoutes.get net src = none := by
  have hval := LeaseKind.validateToken_current hl hexp false
  unfold commitDelegatedRelease
  simp [he, hval, LeaseTable.get_remove]

end Router

end Ergot
