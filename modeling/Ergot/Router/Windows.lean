import Ergot.Router.Binding
import Ergot.Router.Expiry
import Ergot.Router.Pacing

/-!
# Delegated refresh windows

The invariants of `Nesting`, `Pacing` and `Expiry` over whole runs of a tree of bridges, with
messages that take any time, are lost, or are sent again, as long as no answer is taken for that
to another RPC. `late_answer_too_soon` is a run in which one is.
-/

namespace Ergot

open Runs

/-- When a lease ends, or has ended. -/
def LeaseKind.expiry : LeaseKind → Nat
  | .active l => l.expiration
  | .tombstone clearTime => clearTime - secs tombstoneDurationSecs

theorem LeaseKind.reservedUntil_le (k : LeaseKind) :
    k.reservedUntil ≤ k.expiry + secs tombstoneDurationSecs := by
  cases k with
  | active l => exact Nat.le_refl _
  | tombstone clearTime => exact Nat.le_add_of_sub_le (Nat.le_refl _)

namespace SeedNet

variable {ι σ : Type} {N S C : ι → Nat} {T : SeedTree ι}
  {router : ∀ v, Router σ (N v) (S v) (C v)}

/-! ## The start -/

theorem Nested.start (hinit : ∀ v, (router v).Initial) : Nested T (start router) where
  jobs :=
    { clients := nofun
      waits := nofun
      requestIds := nofun
      responseIds := nofun
      requests := nofun
      jobs := nofun
      responses := nofun }
  wf v := (hinit v).wf
  sound v net src e l he := by
    rw [SeedNet.start, (hinit v).seedRoutes_get] at he
    cases he
  answers _ _ _ _ hc := by cases hc
  stored v net src e lease he := by
    rw [SeedNet.start, (hinit v).seedRoutes_get] at he
    cases he
  delegated v _ _ net src e he := by
    rw [SeedNet.start, (hinit v).seedRoutes_get] at he
    cases he
  routes v _ _ net src e l lease he := by
    rw [SeedNet.start, (hinit v).seedRoutes_get] at he
    cases he
  held _ _ _ _ _ hlease := by cases hlease

theorem Follows.start (hinit : ∀ v, (router v).Initial) (net : UInt16) (v p : ι) :
    Follows T (start router) net v p where
  routes src e he := by
    rw [SeedNet.start, (hinit v).seedRoutes_get] at he
    cases he
  awaited _ _ _ _ _ h := by cases h.mem
  assigned _ _ _ _ _ h := by cases h.mem
  refreshed _ _ _ _ _ _ _ _ h := by cases h.mem
  asks _ _ _ _ _ _ h := by cases h

/-! ## Runs -/

variable [DecidableEq ι] [InterfaceSink σ]

/-- No step forgets a token. -/
theorem Step.rng {s s' : SeedNet ι σ N S C} {l : SeedLabel ι σ} (hs : Step T s l s') (v : ι) :
    (s.router v).rng.Extends (s'.router v).rng := by
  rcases (hs.routed v).exec with heq | ⟨op, heq⟩
  · rw [heq]
    exact .refl _
  · rw [heq]
    exact Router.exec_rng _ _

/-- All that holds after a run: of the leases, of the messages for a holder that has kept its
window, and of a net id of which no lease was lost. -/
theorem run (hinit : ∀ v, (router v).Initial) (labels : List (SeedLabel ι σ))
    (hown : ¬ Happens (exec T) (fun s l => s.crosses T l) (start router) labels)
    (hfresh : ∀ v, ((runAll (exec T) (start router) labels).router v).rng.Distinct) :
    Nested T (runAll (exec T) (start router) labels) ∧
      (∀ h, ¬ Happens (exec T) (fun s l => s.hurries h l) (start router) labels →
        Paced T (runAll (exec T) (start router) labels) h) ∧
      ∀ net, ¬ Happens (exec T) (fun s l => s.breaks T net l) (start router) labels →
        ∀ v p, T.parent v = some p →
          Follows T (runAll (exec T) (start router) labels) net v p := by
  induction labels using List.reverseRecOn with
  | nil =>
    exact ⟨.start hinit, fun h _ => .start T router h, fun net _ v p _ => .start hinit net v p⟩
  | append_singleton labels l ih =>
    simp only [runAll_append, runAll_cons, runAll_nil] at hfresh ⊢
    have hs := exec_step T (runAll (exec T) (start router) labels) l fun hbad =>
      hown (Happens_append.mpr (.inr (.inl hbad)))
    obtain ⟨hn, hpaced, hfollows⟩ :=
      ih (fun hbad => hown (Happens_append.mpr (.inl hbad))) fun v => (hs.rng v).distinct (hfresh v)
    refine ⟨hn.step hs hfresh, fun h hno => ?_, fun net hno v p hp => ?_⟩
    · have hbefore := fun hbad => hno (Happens_append.mpr (.inl hbad))
      have hlast := fun hbad => hno (Happens_append.mpr (.inr (.inl hbad)))
      exact (hpaced h hbefore).step hn hs hfresh hlast
    · have hbefore := fun hbad => hno (Happens_append.mpr (.inl hbad))
      have hlast := fun hbad => hno (Happens_append.mpr (.inr (.inl hbad)))
      exact Follows.step hn (hfollows net hbefore) hs hlast hp

/-- Refresh windows nest. After every run of a tree of bridges in which no answer is taken for that
to another RPC and no router draws a token twice: the lease that a bridge stores with a route has
its net id, and a window that leaves room for the margin of the next hop; a holder that kept its
window has been told by nobody that it is too early; and a running route of a net id of which no
lease was lost ends no later than the lease of the parent, but for the time of the exchange that
set it and a second of rounding. -/
theorem refresh_windows_nest (T : SeedTree ι) (router : ∀ v, Router σ (N v) (S v) (C v))
    (hinit : ∀ v, (router v).Initial) (labels : List (SeedLabel ι σ))
    (hown : ¬ Happens (exec T) (fun s l => s.crosses T l) (start router) labels)
    (hfresh : ∀ v, ((runAll (exec T) (start router) labels).router v).rng.Distinct) :
    let s := runAll (exec T) (start router) labels
    (∀ v p, T.parent v = some p → ∀ net src e, (s.router v).seedRoutes.get net src = some e →
      ∃ lease, e.extra.parent = some lease ∧ lease.netId = net ∧
        seedDelegationRefreshMargin < lease.minRefreshSeconds) ∧
    (∀ h, ¬ Happens (exec T) (fun s l => s.hurries h l) (start router) labels →
      ∀ v p, T.parent v = some p → ∀ call ∈ (s.node v).responses, call.owner = h →
        call.msg ≠ .refreshed (.error .tooSoon)) ∧
    ∀ net, ¬ Happens (exec T) (fun s l => s.breaks T net l) (start router) labels →
      ∀ v p, T.parent v = some p → ∀ src e l, (s.router v).seedRoutes.get net src = some e →
        e.kind = .active l → s.now < l.expiration →
        ∃ e', (s.router p).seedRoutes.get net (T.up v) = some e' ∧
          l.expiration ≤ e'.kind.expiry + s.took v net + secs 1 := by
  intro s
  obtain ⟨hn, hpaced, hfollows⟩ := run (T := T) hinit labels hown hfresh
  refine ⟨?_, fun h hno => (hpaced h hno).responses, ?_⟩
  · intro v p hp net src e he
    obtain ⟨lease, hlease⟩ := hn.delegated v p hp net src e he
    obtain ⟨_, -, hstored⟩ := hn.stored v net src e lease he hlease
    exact ⟨lease, hlease, hstored.netId, hstored.margin⟩
  · intro net hno v p hp src e l he hl hexp
    have hleans : Leans (T.depth p) s.now (s.took v net) e
      ((s.router p).seedRoutes.get net (T.up v)) := (hfollows net hno v p hp).routes src e he
    rcases hleans with ⟨e', he', -, hle, -⟩ | hlate
    · have hends := e'.kind.reservedUntil_le
      rw [LeaseEntry.reservedUntil_of_active hl] at hle
      exact ⟨e', he', by omega⟩
    · -- the route would have ended
      obtain ⟨lease, hlease⟩ := hn.delegated v p hp net src e he
      obtain ⟨q, hq, hstored⟩ := hn.stored v net src e lease he hlease
      cases hp.symm.trans hq
      have hdepth := hstored.tells.depth_le
      rw [LeaseEntry.reservedUntil_of_active hl] at hlate
      simp only [late, tombstoneDurationSecs, secs] at hlate
      omega

/-- A root, a bridge and a holder. -/
def demoChain : SeedTree (Fin 3) where
  parent v := if v = 0 then none else some (v - 1)
  depth v := v.val
  depth_parent := by decide
  depth_root := by decide
  up v := if v = 2 then 7 else 1
  refreshPort _ := 3
  releasePort _ := 4
  port _ _ := 5

def demoChainRouter (v : Fin 3) : Router FrameQueue 2 2 1 :=
  if v = 0 then .new ⟨UInt64.ofNat, 0⟩ Router.two_slots
  else .newBridge ⟨UInt64.ofNat, 0⟩ ⟨64, 1, []⟩ Router.two_slots

theorem demoChainRouter_initial (v : Fin 3) : (demoChainRouter v).Initial := by
  unfold demoChainRouter
  split
  · exact .root _ _
  · exact .bridge _ _ _

/-- Net id 2 is leased and then refreshed twice, since the first answer of the root is lost. -/
def demoLease : List (SeedLabel (Fin 3) FrameQueue) :=
  [.op 0 (.registerInterface ⟨64, 1, []⟩), .op 1 (.setInterfaceState 255 (.active 1 2)),
    .op 1 (.registerInterfacePending ⟨64, 1, []⟩), .op 1 (.reassignInterfaceNetId 0 7),
    .assign 2, .serve 2 0, .serve 1 0, .respond 1 0, .respond 2 0,
    .tick (secs 10), .refresh 2, .serve 2 1, .serve 1 1, .lose 1 1, .timeout 1, .respond 2 1,
    .tick (secs 2), .refresh 2, .serve 2 2, .serve 1 2, .respond 1 2]

theorem refresh_windows_nest_demo :
    let s := runAll (exec demoChain) (start demoChainRouter) demoLease
    (∃ call ∈ (s.node 2).responses, call.owner = 2 ∧ call.msg ≠ .refreshed (.error .tooSoon)) ∧
      ∃ e l e', (s.router 1).seedRoutes.get 2 7 = some e ∧ e.kind = .active l ∧
        (s.router 0).seedRoutes.get 2 1 = some e' ∧
        l.expiration ≤ e'.kind.expiry + s.took 1 2 + secs 1 := by
  intro s
  have h := refresh_windows_nest demoChain demoChainRouter demoChainRouter_initial demoLease
    (by decide +kernel) fun v => Rng.distinct_of_decide (by revert v; decide +kernel)
  obtain ⟨-, hpaced, hfollows⟩ := h
  refine ⟨?_, ?_⟩
  · have hcall : ∃ call ∈ (s.node 2).responses, call.owner = 2 := by decide +kernel
    obtain ⟨call, hmem, howner⟩ := hcall
    exact ⟨call, hmem, howner, hpaced 2 (by decide +kernel) 2 1 rfl call hmem howner⟩
  · have hroute : ((s.router 1).seedRoutes.get 2 7).map LeaseEntry.kind =
        some (.active ⟨secs 130, 1, some 0⟩) := by decide +kernel
    obtain ⟨e, he, hl⟩ := Option.map_eq_some_iff.mp hroute
    obtain ⟨e', he', hle⟩ := hfollows 2 (by decide +kernel) 1 0 rfl 7 e _ he hl (by decide +kernel)
    exact ⟨e, _, e', he, hl, he', hle⟩

/-- A root, a bridge, and two holders below it. An RPC of a node is over before the next one
begins, so that all of them get the same port. -/
def demoFork : SeedTree (Fin 4) where
  parent v := if v = 0 then none else if v = 1 then some 0 else some 1
  depth v := min v.val 2
  depth_parent := by decide
  depth_root := by decide
  up v := if v = 1 then 1 else if v = 2 then 7 else 8
  refreshPort _ := 3
  releasePort _ := 4
  port _ _ := 5

def demoForkRouter (v : Fin 4) : Router FrameQueue 2 2 1 :=
  if v = 0 then .new ⟨UInt64.ofNat, 0⟩ Router.two_slots
  else .newBridge ⟨UInt64.ofNat, 0⟩ ⟨64, 1, []⟩ Router.two_slots

/-- Both holders have a lease. The one at node 3 refreshes twice, so that the root answers that
this is too soon; but the bridge has stopped waiting when the answer arrives, and waits for the
refresh of the other holder. -/
def demoLate : List (SeedLabel (Fin 4) FrameQueue) :=
  [.op 0 (.registerInterface ⟨64, 1, []⟩), .op 1 (.setInterfaceState 255 (.active 1 2)),
    .op 1 (.registerInterfacePending ⟨64, 1, []⟩), .op 1 (.registerInterfacePending ⟨64, 1, []⟩),
    .op 1 (.reassignInterfaceNetId 0 7), .op 1 (.reassignInterfaceNetId 1 8),
    .assign 2, .serve 2 0, .serve 1 0, .respond 1 0, .respond 2 0,
    .assign 3, .serve 3 0, .serve 1 1, .respond 1 1, .respond 3 0,
    .refresh 3, .serve 3 1, .serve 1 2, .respond 1 2, .respond 3 1,
    .refresh 3, .serve 3 2, .serve 1 3, .tick (secs 1), .timeout 1,
    .refresh 2, .serve 2 1, .respond 1 3]

/-- The holder at node 2 has kept its window, and is told that it is too soon. -/
theorem late_answer_too_soon :
    ¬ Happens (exec demoFork) (fun s l => s.hurries 2 l) (start demoForkRouter) demoLate ∧
      (∀ v, ((runAll (exec demoFork) (start demoForkRouter) demoLate).router v).rng.Distinct) ∧
      ∃ call ∈ ((runAll (exec demoFork) (start demoForkRouter) demoLate).node 2).responses,
        call.owner = 2 ∧ call.msg = .refreshed (.error .tooSoon) := by
  refine ⟨by decide +kernel, fun v => ?_, by decide +kernel⟩
  exact Rng.distinct_of_decide (by revert v; decide +kernel)

end SeedNet

end Ergot
