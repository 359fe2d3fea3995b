import Ergot.Router.Binding

/-!
# Leases that can still be renewed

A seed route records the network its holder asks from as its scope, and the interface it goes
through as an ident. A refresh is looked up with the net id the interface has now, so the two
have to agree (`recognised_iff`).

`reassign_interface_net_id` drops the node claims of the old net id, but leaves the seed routes
through the interface with the scope they have. `keepsHolders_run_iff` says that this is the one
way in which a holder loses a lease that still runs.
-/

namespace Ergot

namespace Router

open Runs

variable {σ : Type} {N S C : Nat}

/-- Whether an answer treats the lease as unknown, or as somebody else's. -/
def Disowned {α : Type} (res : Except SeedRefreshError α) : Prop :=
  res = .error .unknownNetId ∨ res = .error .badRequest

/-- Whoever asks from `net` with the token `tok` may refresh and release the net id `k`, at a
root and at a bridge. -/
structure Recognised (r : Router σ N S C) (now : Nat) (net k : UInt16) (tok : Token) : Prop where
  refresh : ¬ Disowned (r.refreshSeedNetAssignment net k tok now).1
  release : ¬ Disowned (r.releaseSeedNetAssignment net k tok now).1
  prepareRefresh : ¬ Disowned (r.prepareDelegatedRefresh net k tok now).1
  commitRefresh : ∀ parent, parent.netId = k →
    ¬ Disowned (r.commitDelegatedRefresh net tok parent now).1
  prepareRelease : ¬ Disowned (r.prepareDelegatedRelease net k tok now).1
  commitRelease : ¬ Disowned (r.commitDelegatedRelease net k tok now).1

/-- The holder of every lease that runs at `now` is recognised, from the net id that the route's
interface has. -/
def KeepsHolders (r : Router σ N S C) (now : Nat) : Prop :=
  ∀ e ∈ r.seedRoutes.entries.toList, ∀ l net, e.kind = .active l → now < l.expiration →
    r.netIdOf e.extra.viaIdent = some net → r.Recognised now net e.key l.refreshToken

/-- A lease that runs accepts its token. -/
theorem recognised_of_get {r : Router σ N S C} (hkeys : r.seedRoutes.keys.Nodup) {now : Nat}
    {net k : UInt16} {e : LeaseEntry UInt16 SeedRoute} {l : Lease}
    (he : r.seedRoutes.get k net = some e) (hl : e.kind = .active l)
    (hexp : now < l.expiration) : r.Recognised now net k l.refreshToken := by
  have hgc : (r.gcSeed now).seedRoutes.get k net = some e :=
    (LeaseTable.aged_get_gc (LeaseTable.ids_nodup hkeys) now k net).of_running he hl hexp
  have hscope : e.scope = net := (LeaseTable.get_id he).2
  have hkey : (r.gcSeed now).seedRoutes.byKey k = some e :=
    LeaseTable.byKey_of_get (hkeys.sublist (r.seedRoutes.keys_gc_sublist now)) hgc
  have hvalid := LeaseKind.validateToken_current hl hexp
  constructor
  · have hrefresh : (LeaseKind.active l).refresh l.refreshToken now r.rng.next.1 true = _ :=
      LeaseKind.refresh_of_accepts hexp (.current rfl)
    have he' : ({ r with rng := r.rng.next.2 } : Router σ N S C).seedRoutes.get k net = some e := he
    simp only [refreshSeedNetAssignment, he', hl, hrefresh, reduceCtorEq, if_false]
    by_cases hwin : l.expiration - now > secs minRefreshSecs.toNat
    · simp [hwin, Disowned, RefreshDenied.toRefreshError]
    · simp [hwin, Disowned]
  · simp [releaseSeedNetAssignment, hgc, hvalid, Disowned]
  · simp only [prepareDelegatedRefresh, hkey, hscope, ne_eq, not_true_eq_false, if_false, hvalid]
    cases e.extra.parent <;> simp [Disowned]
  · rintro parent rfl
    unfold commitDelegatedRefresh
    split
    · simp [Disowned]
    · simp only [he, hvalid]
      cases e.extra.parent <;> simp [Disowned]
  · simp only [prepareDelegatedRelease, hgc, hvalid]
    cases e.extra.parent <;> simp [Disowned]
  · simp [commitDelegatedRelease, he, hvalid, Disowned]

/-- The holder of a lease that runs is recognised exactly from the net id in its scope. -/
theorem recognised_iff {r : Router σ N S C} (hkeys : r.seedRoutes.keys.Nodup) {now : Nat}
    {net : UInt16} {e : LeaseEntry UInt16 SeedRoute} {l : Lease}
    (he : e ∈ r.seedRoutes.entries.toList) (hl : e.kind = .active l) (hexp : now < l.expiration) :
    r.Recognised now net e.key l.refreshToken ↔ e.scope = net := by
  have hget := LeaseTable.get_of_mem (LeaseTable.ids_nodup hkeys) he
  constructor
  · intro h
    by_contra hne
    -- the net id's one route has another scope
    have hnone : r.seedRoutes.get e.key net = none := by
      cases hnet : r.seedRoutes.get e.key net with
      | none => rfl
      | some e' =>
        obtain ⟨-, hscope⟩ := LeaseTable.get_unique hkeys hget hnet
        exact absurd hscope.symm hne
    refine h.refresh (.inl ?_)
    have hnone : ({ r with rng := r.rng.next.2 } : Router σ N S C).seedRoutes.get e.key net = none :=
      hnone
    simp only [refreshSeedNetAssignment, hnone]
  · rintro rfl
    exact recognised_of_get hkeys hget hl hexp

/-! ## Scopes and interfaces -/

/-- Every route that runs at `t` goes through the interface that has its scope as the net id. -/
def ScopesAgree (r : Router σ N S C) (t : Nat) : Prop :=
  ∀ k s e l, r.seedRoutes.get k s = some e → e.kind = .active l → t < l.expiration →
    r.netIdOf e.extra.viaIdent = some s

/-- The step gives another net id to the interface of a route that still runs. -/
inductive Orphans (r : Router σ N S C) : Clock × Op σ → Prop
  | mk {clock i old new e l} (h : (r.reassignInterfaceNetId i new).1 = .ok ())
      (hold : r.netIdOf i = some old) (hne : old ≠ new) (he : e ∈ r.seedRoutes.entries.toList)
      (hvia : e.extra.viaIdent = i) (hl : e.kind = .active l) (hexp : clock.later < l.expiration) :
      Orphans r (clock, .reassignInterfaceNetId i new)

theorem ScopesAgree.keepsHolders {r : Router σ N S C} (hkeys : r.seedRoutes.keys.Nodup) {t : Nat}
    (h : r.ScopesAgree t) {now : Nat} (hnow : t ≤ now) : r.KeepsHolders now := by
  intro e he l net hl hexp hnet
  have hget := LeaseTable.get_of_mem (LeaseTable.ids_nodup hkeys) he
  rw [h _ _ _ _ hget hl (Nat.lt_of_le_of_lt hnow hexp)] at hnet
  exact (recognised_iff hkeys he hl hexp).mpr (Option.some.inj hnet)

theorem reassign_seedRoutes (r : Router σ N S C) (i : UInt8) (net : UInt16) :
    (r.reassignInterfaceNetId i net).2.seedRoutes = r.seedRoutes := by
  unfold reassignInterfaceNetId
  split
  · rfl
  · split <;> rfl

variable [InterfaceSink σ]

/-- A route that runs after a step went, before the step, through the interface that had its
scope as the net id. -/
theorem ScopesAgree.before {r : Router σ N S C} (hwf : r.directory.Wf) {t : Nat}
    (h : r.ScopesAgree t) {clock : Clock} {op : Op σ} (ht : t ≤ clock.now)
    (hclock : clock.now ≤ clock.later) {k s : UInt16} {e : LeaseEntry UInt16 SeedRoute} {l : Lease}
    (he : (r.exec (clock, op)).seedRoutes.get k s = some e) (hl : e.kind = .active l)
    (hexp : clock.later < l.expiration) : r.netIdOf e.extra.viaIdent = some s := by
  have heffect := seed_effect hwf clock op k s
  rw [he] at heffect
  generalize ho : some e = o at heffect
  cases heffect with
  | aged haged =>
    rw [← ho] at haged
    obtain ⟨e₀, he₀, hages, heq⟩ := haged.of_some
    rw [hl] at hages
    have hvia : e.extra.viaIdent = e₀.extra.viaIdent := by rw [heq]
    rw [hvia]
    exact h k s e₀ l he₀ hages.active_eq (by omega)
  | assigned _ _ hvia _ =>
    cases ho
    exact slotIdent_netIdOf hwf hvia
  | renewed he₀ hl₀ hexp₀ _ _ =>
    cases ho
    have hvia := h k s _ _ he₀ hl₀ (by omega)
    exact hvia
  | released _ _ _ _ _ => cases ho
  | releasedDelegated _ _ _ _ _ => cases ho
  | lost _ _ _ =>
    cases ho
    cases hl
  | delegated _ _ hvia =>
    cases ho
    exact slotIdent_netIdOf hwf hvia
  | replaced _ => cases ho
  | committed _ he₀ hl₀ _ hexp₀ _ =>
    cases ho
    have hvia := h k s _ _ he₀ hl₀ (by omega)
    exact hvia

/-- Only a step that orphans a route parts a scope from its interface. -/
theorem ScopesAgree.step {r : Router σ N S C} (hwf : r.directory.Wf) {t : Nat}
    (h : r.ScopesAgree t) {step : Clock × Op σ} (ht : t ≤ step.1.now)
    (hclock : step.1.now ≤ step.1.later) (hno : ¬ Orphans r step) :
    (r.exec step).ScopesAgree step.1.later := by
  obtain ⟨clock, op⟩ := step
  intro k s e l he hl hexp
  have hbefore := h.before hwf ht hclock he hl hexp
  have heffect := slot_effect hwf clock op e.extra.viaIdent
  generalize hafter : (r.exec (clock, op)).netIdOf e.extra.viaIdent = after at heffect ⊢
  cases heffect with
  | kept heq => exact heq.trans hbefore
  | registered _ hnone => cases hnone.symm.trans hbefore
  | pending _ hnone => cases hnone.symm.trans hbefore
  | deregistered hok _ => exact absurd rfl (deregister_tombstones hok he hl)
  | @renumbered old net hok _ _ =>
    by_cases hsame : s = net
    · rw [hsame]
    · have he : (r.reassignInterfaceNetId e.extra.viaIdent net).2.seedRoutes.get k s = some e := he
      rw [reassign_seedRoutes] at he
      exact absurd (.mk hok hbefore hsame (LeaseTable.mem_of_get he) rfl hl hexp) hno

/-- A step that orphans a route leaves a holder that is not recognised. -/
theorem Orphans.not_keepsHolders {r : Router σ N S C} (hwf : r.directory.Wf) {t : Nat}
    (hagree : r.ScopesAgree t) {step : Clock × Op σ} (ht : t ≤ step.1.later) (h : Orphans r step) :
    ¬ (r.exec step).KeepsHolders step.1.later := by
  have hwf' := exec_wf hwf step
  intro hkeeps
  obtain ⟨hok, hold, hne, he, rfl, hl, hexp⟩ := h
  rename_i clock old new e l
  rcases hres : r.reassignInterfaceNetId e.extra.viaIdent new with ⟨_ | u, r'⟩
  · rw [hres] at hok
    cases hok
  · have hexec : r.exec (clock, .reassignInterfaceNetId e.extra.viaIdent new) = r' := by
      show (r.reassignInterfaceNetId e.extra.viaIdent new).2 = r'
      rw [hres]
    have hseed : r'.seedRoutes = r.seedRoutes := by
      rw [← reassign_seedRoutes r e.extra.viaIdent new, hres]
    rw [hexec] at hkeeps hwf'
    rw [← hseed] at he
    have hknown := hkeeps e he l new hl hexp (netIdOf_reassign hwf hres)
    have hscope := (recognised_iff hwf'.leases he hl hexp).mp hknown
    -- before the step the interface had the route's scope
    have hget := LeaseTable.get_of_mem (LeaseTable.ids_nodup hwf'.leases) he
    rw [hseed] at hget
    have hbefore := hagree _ _ _ _ hget hl (Nat.lt_of_le_of_lt ht hexp)
    rw [hold, hscope] at hbefore
    exact hne (Option.some.inj hbefore)

omit [InterfaceSink σ] in
theorem Initial.scopesAgree {r : Router σ N S C} (h : Initial r) (t : Nat) : r.ScopesAgree t := by
  intro k s e l he
  rw [h.seedRoutes_get] at he
  cases he

/-- Along a run that starts with scopes that agree, every holder keeps its lease exactly as
long as no step orphans a route. -/
theorem keepsHolders_iff_of_agree {r : Router σ N S C} (hwf : r.Wf) {t : Nat}
    (hagree : r.ScopesAgree t) {acts : List (Clock × Op σ)} (htimed : Timed span t acts) :
    Always exec (fun r step => ∀ now, step.1.later ≤ now → (r.exec step).KeepsHolders now) r acts ↔
      Always exec (fun r step => ¬ Orphans r step) r acts := by
  induction acts generalizing r t with
  | nil => exact Iff.rfl
  | cons step acts ih =>
    obtain ⟨ht, hclock, htail⟩ := htimed
    have ht : t ≤ step.1.now := ht
    have hclock : step.1.now ≤ step.1.later := hclock
    have hno : (∀ now, step.1.later ≤ now → (r.exec step).KeepsHolders now) → ¬ Orphans r step :=
      fun h horphans => horphans.not_keepsHolders hwf.directory hagree (Nat.le_trans ht hclock)
        (h _ (Nat.le_refl _))
    constructor
    · rintro ⟨hkeeps, hrest⟩
      have hnext := hagree.step hwf.directory ht hclock (hno hkeeps)
      exact ⟨hno hkeeps, (ih (hwf.exec step) hnext htail).mp hrest⟩
    · rintro ⟨horphans, hrest⟩
      have hnext := hagree.step hwf.directory ht hclock horphans
      refine ⟨fun now => hnext.keepsHolders (hwf.exec step).directory.leases, ?_⟩
      exact (ih (hwf.exec step) hnext htail).mpr hrest

/-- **A lease can be renewed** by its holder, through the interface it was granted through and at
all times that it runs, in exactly the runs in which no interface of a route that still runs gets
another net id. -/
theorem keepsHolders_run_iff (r : Router σ N S C) (hinit : Initial r)
    (acts : List (Clock × Op σ)) (htimed : Timed span 0 acts) :
    Always exec (fun r step => ∀ now, step.1.later ≤ now → (r.exec step).KeepsHolders now) r acts ↔
      Always exec (fun r step => ¬ Orphans r step) r acts :=
  keepsHolders_iff_of_agree hinit.wf (hinit.scopesAgree 0) htimed

/-- A net id is assigned behind interface 0, and the interface is given the net id 7. -/
def demoRenumber : List (Clock × Op FrameQueue) :=
  [(.at 0, .registerInterface ⟨64, 1, []⟩), (.at 0, .requestSeedNetAssign 1),
    (.at (secs 1), .reassignInterfaceNetId 0 7)]

/-- A root with room for two interfaces and two routes. -/
def demoRenumberRoot : Router FrameQueue 2 2 1 := new ⟨fun i => UInt64.ofNat (100 + i), 0⟩ two_slots

/-- After that the holder of the lease is a stranger, although the lease runs. -/
theorem renumbered_holder_disowned :
    let r := runAll exec demoRenumberRoot demoRenumber
    ¬ r.KeepsHolders (secs 2) ∧
      (r.refreshSeedNetAssignment 7 2 100 (secs 2)).1 = .error .unknownNetId ∧
      (r.releaseSeedNetAssignment 7 2 100 (secs 2)).1 = .error .unknownNetId ∧
      (r.prepareDelegatedRefresh 7 2 100 (secs 2)).1 = .error .badRequest := by
  intro r
  have hrefresh : (r.refreshSeedNetAssignment 7 2 100 (secs 2)).1 = .error .unknownNetId := by
    decide +kernel
  refine ⟨fun h => ?_, hrefresh, by decide +kernel, by decide +kernel⟩
  have hknown := h ⟨2, 1, ⟨0, none⟩, .active ⟨secs 30, 100, none⟩⟩ (by decide +kernel) _ 7 rfl
    (by decide +kernel) (by decide +kernel)
  exact hknown.refresh (.inl hrefresh)

theorem keepsHolders_run_iff_demo :
    Always exec (fun r step => ∀ now, step.1.later ≤ now → (r.exec step).KeepsHolders now)
      demoRenumberRoot (demoRenumber.take 2) ↔
      Always exec (fun r step => ¬ Orphans r step) demoRenumberRoot (demoRenumber.take 2) :=
  keepsHolders_run_iff demoRenumberRoot (.root _ _) (demoRenumber.take 2)
    (by simp [Timed, span, demoRenumber, Clock.at])

end Router

end Ergot
