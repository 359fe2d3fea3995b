import Ergot.Router.Delegation

/-!
# Running seed routes

The two sides of a delegation, each by itself: what the operations of a parent do to the net
id that it holds for a bridge (`Held`), and what those of a bridge do to its running routes
(`runsSeed`). A route is only ever gained by a registration and renewed by a commit
(`Shrinks`).
-/

namespace Ergot

open Runs

namespace Router

variable {σ : Type} {N S C : Nat}

/-- A running seed route of `net`. -/
def runsSeed (r : Router σ N S C) (net : UInt16) (now : Nat) : Bool :=
  match r.seedRoutes.byKey net with
  | some e => e.kind.isActive now
  | none => false

/-- `tok` is the current token of a running lease of `net`, held by `src`. -/
def holdsToken (r : Router σ N S C) (src net : UInt16) (tok : Token) (now : Nat) : Bool :=
  match r.seedRoutes.get net src with
  | some ⟨_, _, _, .active l⟩ => now < l.expiration && l.refreshToken = tok
  | _ => false

theorem runsSeed_of_get {r : Router σ N S C} (hr : r.Wf) {net src : UInt16} {now : Nat}
    {e : LeaseEntry UInt16 SeedRoute} {l : Lease} (he : r.seedRoutes.get net src = some e)
    (hl : e.kind = .active l) (hexp : now < l.expiration) : r.runsSeed net now := by
  rw [runsSeed, LeaseTable.byKey_of_get hr.directory.leases he]
  simp [hl, LeaseKind.isActive, hexp]

theorem runsSeed_iff {r : Router σ N S C} (hr : r.Wf) {net : UInt16} {now : Nat} :
    r.runsSeed net now ↔ ∃ src e l, r.seedRoutes.get net src = some e ∧ e.kind = .active l ∧
      now < l.expiration := by
  constructor
  · intro h
    unfold runsSeed at h
    split at h
    · next e he =>
      have hget := LeaseTable.byKey_eq_get hr.directory.leases he
      cases hk : e.kind with
      | tombstone c =>
        rw [hk] at h
        cases h
      | active l =>
        rw [hk] at h
        exact ⟨e.scope, e, l, hget, hk, of_decide_eq_true h⟩
    · cases h
  · rintro ⟨src, e, l, he, hl, hexp⟩
    exact runsSeed_of_get hr he hl hexp

/-! ## The parent -/

/-- The request is not a release of `net` that succeeds. -/
def keeps (up net : UInt16) (r : Router σ N S C) (now : Nat) : SeedRequest → Prop
  | .release k tok => k = net → r.holdsToken up net tok now = false
  | _ => True

variable [InterfaceSink σ]

/-- What the parent does on its own does not shorten what the bridge holds. -/
theorem Held.ownOp {up net : UInt16} {d now : Nat} {r : Router σ N S C} (hr : r.Wf)
    (h : Held up net d r) (hnow : now < d) {op : Op σ} (hop : Delegation.ownOp up r op) :
    Held up net d (r.exec (.at now, op)) := by
  simp only [Delegation.ownOp, Bool.and_eq_true, bne_iff_ne] at hop
  obtain ⟨⟨hroot, hsrc⟩, hlink⟩ := hop
  have hstep := @Held.step σ N S C _ up net d r (.at now, op) hr.directory hroot h hnow
  rcases hstep with h | hrel | ⟨hlost, -⟩
  · exact h
  · cases hrel
    exact absurd rfl hsrc
  · cases hlost with
    | lost hok he hvia =>
      have hmem := List.all_eq_true.mp hlink _ (LeaseTable.mem_of_get he)
      simp [(LeaseTable.get_id he).2, hvia] at hmem

/-- Nor does serving the bridge, except for a release that succeeds. -/
theorem Held.serve {up net : UInt16} {d now : Nat} {r : Router σ N S C} (hr : r.Wf)
    (h : Held up net d r) (hnow : now < d) {req : SeedRequest}
    (hkeeps : keeps up net r now req) : Held up net d (r.exec (.at now, req.op up)) := by
  have hroot : rootOp (req.op up : Op σ) := by cases req <;> rfl
  have hstep := @Held.step σ N S C _ up net d r (.at now, req.op up) hr.directory hroot h hnow
  rcases hstep with h | hrel | ⟨hlost, -⟩
  · exact h
  · cases req with
    | assign => cases hrel
    | refresh => cases hrel
    | release k tok =>
      cases hrel with
      | release hok htok =>
        obtain ⟨e, l, he, hl, htok⟩ := htok
        have hno := hkeeps rfl
        -- a release that succeeds found a running lease
        rcases hres : r.releaseSeedNetAssignment up net tok now with ⟨res, r'⟩
        have hok : (r.releaseSeedNetAssignment up net tok now).1 = .ok () := hok
        rw [hres] at hok
        obtain rfl : res = .ok () := hok
        obtain ⟨e', l', he', hl', hexp, -⟩ := releaseSeedNetAssignment_ok hres
        have hold := get_of_get_gc (LeaseTable.ids_nodup hr.directory.leases) he' hl'
        rw [he] at hold
        cases hold
        rw [hl] at hl'
        cases hl'
        obtain ⟨key, scope, extra, kind⟩ := e
        cases hl
        simp [holdsToken, he, hexp, htok] at hno
  · cases req <;> cases hlost

/-- A net id that is not in the table gets there only by being assigned. -/
theorem not_containsKey_exec {net : UInt16} {r : Router σ N S C} (hr : r.Wf)
    {clock : Clock} {op : Op σ} (hroot : rootOp op) (hno : r.seedRoutes.containsKey net = false)
    (halloc : ∀ src a, op = .requestSeedNetAssign src →
      (r.requestSeedNetAssign src clock.now).1 = .ok a → a.netId ≠ net) :
    (r.exec (clock, op)).seedRoutes.containsKey net = false := by
  have hr' := hr.exec (clock, op)
  by_contra hin
  rw [Bool.not_eq_false, LeaseTable.containsKey, List.any_eq_true] at hin
  obtain ⟨e, he, hkey⟩ := hin
  obtain rfl : e.key = net := by simpa using hkey
  have hget := LeaseTable.get_of_mem (LeaseTable.ids_nodup hr'.directory.leases) he
  have hnone := LeaseTable.get_eq_none_of_not_containsKey e.scope hno
  have heffect := seed_effect hr.directory clock op e.key e.scope
  rw [hget] at heffect
  generalize ho : some e = o at heffect
  cases heffect with
  | aged haged =>
    subst ho
    obtain ⟨e', he', -⟩ := haged.of_some
    rw [hnone] at he'
    cases he'
  | @assigned a via hok hk hvia hfree =>
    exact halloc e.scope a rfl hok hk
  | renewed he' =>
    rw [hnone] at he'
    cases he'
  | lost hok he' =>
    rw [hnone] at he'
    cases he'
  | released => cases ho
  | releasedDelegated => cases ho
  | replaced => cases ho
  | delegated => cases hroot
  | committed => cases hroot

/-- What a grant to the bridge holds: the net id for the whole lease and the grace. -/
theorem held_of_assign {up : UInt16} {now : Nat} {r : Router σ N S C}
    {a : SeedNetAssignment} (hok : (r.requestSeedNetAssign up now).1 = .ok a) :
    Held up a.netId (now + secs a.expiresSeconds.toNat + secs tombstoneDurationSecs)
      (r.exec (.at now, .requestSeedNetAssign up)) :=
  Grants.held (.assigned hok rfl rfl)

/-- Less than a second is added to the remaining time. -/
theorem remainingLeaseSeconds_lt (expiration now : Nat) :
    secs (remainingLeaseSeconds expiration now).toNat < expiration - now + secs 1 := by
  have hup : secs ((expiration - now) / secs 1 +
      if expiration - now > secs ((expiration - now) / secs 1) then 1 else 0) <
        expiration - now + secs 1 := by
    split
    · next hlt =>
      rw [secs, Nat.add_mul]
      exact Nat.add_lt_add_right hlt _
    · exact Nat.lt_of_le_of_lt (Nat.div_mul_le_self _ _) (Nat.lt_add_of_pos_right (by decide))
  simp only [remainingLeaseSeconds]
  generalize (if expiration - now > secs ((expiration - now) / secs 1) then 1 else 0) = up
    at hup ⊢
  have hsize : min ((expiration - now) / secs 1 + up) 65535 < UInt16.size :=
    Nat.lt_of_le_of_lt (Nat.min_le_right _ _) (by decide)
  rw [UInt16.toNat_ofNat_of_lt' hsize]
  exact Nat.lt_of_le_of_lt (Nat.mul_le_mul_right _ (Nat.min_le_left _ _)) hup

/-- A whole second at most is added to the remaining time. -/
theorem remainingLeaseSeconds_le (expiration now : Nat) :
    secs (remainingLeaseSeconds expiration now).toNat ≤ expiration - now + secs 1 :=
  Nat.le_of_lt (remainingLeaseSeconds_lt expiration now)

/-- What a refresh for the bridge holds, by its answer: a second more for rounding. -/
theorem held_of_refresh {up net : UInt16} {tok : Token} {now : Nat} {r : Router σ N S C}
    {a : SeedNetAssignment} (hok : (r.refreshSeedNetAssignment up net tok now).1 = .ok a) :
    a.netId = net ∧ Held up net (now + secs a.expiresSeconds.toNat + secs 29)
      (r.exec (.at now, .refreshSeedNetAssignment up net tok)) := by
  rcases hres : r.refreshSeedNetAssignment up net tok now with ⟨res, r'⟩
  rw [hres] at hok
  obtain rfl : res = .ok a := hok
  have hexec : r.exec (.at now, .refreshSeedNetAssignment up net tok) = r' := by
    show (r.refreshSeedNetAssignment up net tok now).2 = r'
    rw [hres]
  obtain ⟨e, l, he, hl, hexp, hnet, hcases⟩ := refreshSeedNetAssignment_ok hres
  refine ⟨hnet, ?_⟩
  rw [hexec]
  rcases hcases with ⟨-, -, hsecs, -, rfl⟩ | ⟨-, -, hsecs, -, rfl⟩
  · refine ⟨_, LeaseTable.get_setKind_self he _, ?_⟩
    rw [hsecs]
    show _ ≤ now + secs maxLeaseSecs.toNat + secs tombstoneDurationSecs
    simp only [secs, tombstoneDurationSecs]
    omega
  · refine ⟨_, LeaseTable.get_setKind_self he e.kind, ?_⟩
    have hle := remainingLeaseSeconds_le l.expiration now
    rw [← hsecs] at hle
    show _ ≤ e.kind.reservedUntil
    rw [hl]
    show _ ≤ l.expiration + secs tombstoneDurationSecs
    simp only [secs, tombstoneDurationSecs] at *
    omega

/-! ## The bridge -/

/-- Every seed lease in `r'` was there before. -/
def Shrinks (r r' : Router σ N S C) : Prop :=
  ∀ net src e l, r'.seedRoutes.get net src = some e → e.kind = .active l →
    r.seedRoutes.get net src = some e

omit [InterfaceSink σ] in
theorem Shrinks.refl (r : Router σ N S C) : Shrinks r r := fun _ _ _ _ h _ => h

omit [InterfaceSink σ] in
theorem Shrinks.runsSeed {r r' : Router σ N S C} (hr : r.Wf) (hr' : r'.Wf)
    (h : Shrinks r r') {net : UInt16} {now : Nat} (hruns : r'.runsSeed net now) :
    r.runsSeed net now := by
  obtain ⟨src, e, l, he, hl, hexp⟩ := (runsSeed_iff hr').mp hruns
  exact (runsSeed_iff hr).mpr ⟨src, e, l, h net src e l he hl, hl, hexp⟩

omit [InterfaceSink σ] in
theorem Shrinks.of_quiet {now : Nat} {r r' : Router σ N S C} (hr : r.Wf) (h : Quiet now r r') :
    Shrinks r r' := by
  intro net src e l he hl
  have haged := h.seed hr.directory.leases net src
  rw [he] at haged
  obtain ⟨e', he', hages, heq⟩ := haged.of_some
  rw [hl] at hages
  rw [he', heq, hl, ← hages.active_eq]

/-- Operations that give nobody a seed lease. -/
def grantsSeed : Op σ → Bool
  | .requestSeedNetAssign _ | .refreshSeedNetAssignment .. | .registerDelegatedSeedNet ..
  | .commitDelegatedRefresh .. => true
  | _ => false

theorem Shrinks.exec {r : Router σ N S C} (hr : r.Wf) (clock : Clock) (op : Op σ)
    (hop : grantsSeed op = false) : Shrinks r (r.exec (clock, op)) := by
  intro net src e l he hl
  have heffect := seed_effect hr.directory clock op net src
  rw [he] at heffect
  generalize ho : some e = o at heffect
  cases heffect with
  | aged haged =>
    subst ho
    obtain ⟨e', he', hages, heq⟩ := haged.of_some
    rw [hl] at hages
    rw [he', heq, hl, ← hages.active_eq]
  | lost =>
    cases ho
    cases hl
  | released => cases ho
  | releasedDelegated => cases ho
  | replaced => cases ho
  | assigned => cases hop
  | renewed => cases hop
  | delegated => cases hop
  | committed => cases hop

omit [InterfaceSink σ] in
/-- A registration that succeeds adds one route. -/
theorem route_of_register {r r' : Router σ N S C} (hr : r.Wf) {src : UInt16}
    {parent : SeedLease} {now : Nat} {a : SeedNetAssignment}
    (h : r.registerDelegatedSeedNet src parent now = (.ok a, r')) {net s : UInt16}
    {e : LeaseEntry UInt16 SeedRoute} {l : Lease} (he : r'.seedRoutes.get net s = some e)
    (hl : e.kind = .active l) :
    (net = parent.netId ∧ s = src ∧ e.extra.parent = some parent ∧
        l = ⟨now + secs parent.expiresSeconds.toNat, r.rng.next.1, none⟩) ∨
      (net ≠ parent.netId ∧ r.seedRoutes.get net s = some e) := by
  obtain ⟨via, -, hget⟩ := registerDelegatedSeedNet_get h
  rw [hget] at he
  split at he
  · next hnet =>
    split at he
    · next hsrc =>
      cases he
      cases hl
      exact .inl ⟨hnet, hsrc, rfl, rfl⟩
    · cases he
  · next hne =>
    exact .inr ⟨hne, get_of_get_gc (LeaseTable.ids_nodup hr.directory.leases) he hl⟩

omit [InterfaceSink σ] in
theorem Shrinks.of_register_error {r r' : Router σ N S C} (hr : r.Wf) {src : UInt16}
    {parent : SeedLease} {now : Nat} {e : SeedAssignmentError}
    (h : r.registerDelegatedSeedNet src parent now = (.error e, r')) : Shrinks r r' := by
  exact .of_quiet hr (registerDelegatedSeedNet_error h).quiet

/-- After the commit of a release, no route of the net id runs, if none ran but the one
with this token. -/
theorem commitRelease_stops {r : Router σ N S C} (hr : r.Wf) {src net : UInt16} {tok : Token}
    (honly : ∀ src' e l, r.seedRoutes.get net src' = some e → e.kind = .active l →
      src' = src ∧ l.refreshToken = tok) (now : Nat) :
    (r.commitDelegatedRelease src net tok now).2.runsSeed net now = false := by
  by_contra hruns
  rw [Bool.not_eq_false] at hruns
  have hr' : (r.commitDelegatedRelease src net tok now).2.Wf :=
    hr.exec (.at now, .commitDelegatedRelease src net tok)
  have hshrinks : Shrinks r (r.commitDelegatedRelease src net tok now).2 :=
    Shrinks.exec hr (.at now) (.commitDelegatedRelease src net tok) rfl
  obtain ⟨src', e, l, he', hl, hexp⟩ := (runsSeed_iff hr').mp hruns
  have he := hshrinks net src' e l he' hl
  obtain ⟨rfl, rfl⟩ := honly src' e l he hl
  -- the route runs and has the token, so the commit removed it
  have hval := LeaseKind.validateToken_current hl hexp false
  unfold commitDelegatedRelease at he'
  simp only [he, hval] at he'
  rw [LeaseTable.get_remove, if_pos ⟨rfl, rfl⟩] at he'
  cases he'

omit [InterfaceSink σ] in
/-- A commit that succeeds renews one running route. -/
theorem route_of_commit {r r' : Router σ N S C} {src : UInt16} {tok : Token}
    {parent : SeedLease} {now : Nat} {a : SeedNetAssignment}
    (h : r.commitDelegatedRefresh src tok parent now = (.ok a, r')) {net s : UInt16}
    {e : LeaseEntry UInt16 SeedRoute} {l : Lease} (he : r'.seedRoutes.get net s = some e)
    (hl : e.kind = .active l) :
    (net = parent.netId ∧ s = src ∧ e.extra.parent = some parent ∧
        l.expiration = now + secs parent.expiresSeconds.toNat ∧
        ∃ e₀ l₀, r.seedRoutes.get net s = some e₀ ∧ e₀.kind = .active l₀ ∧
          now < l₀.expiration) ∨
      r.seedRoutes.get net s = some e := by
  obtain ⟨e₀, l₀, p, he₀, hl₀, -, hexp, -, hget⟩ := commitDelegatedRefresh_get h
  rw [hget] at he
  split at he
  · next hsame =>
    obtain ⟨rfl, rfl⟩ := hsame
    cases he
    cases hl
    exact .inl ⟨rfl, rfl, rfl, rfl, e₀, l₀, he₀, hl₀, hexp⟩
  · exact .inr he

end Router

end Ergot
