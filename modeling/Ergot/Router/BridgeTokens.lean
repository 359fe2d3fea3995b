import Ergot.Router.BridgeLease

/-!
# The bridge as a holder

For each of its running routes the bridge is a holder of the parent's lease in the sense of
`Ergot.Lib.TokenWindow`: the token stored with the route is the current or the previous one
at the parent, whatever requests and answers are under way. `TInv` says so, with the times
by which the leases end; `TInv.run` is the run lemma.
-/

namespace Ergot

open TokenWindow (Window Client)
open Runs

/-- The refresh of `net` that the handler waits for. -/
def SeedHandler.refreshes (h : SeedHandler) (net : UInt16) : Option Nat :=
  match h with
  | .refreshing id _ _ k _ _ => if k = net then some id else none
  | _ => none

namespace Delegation

variable {σ : Type} {N S C N' S' C' : Nat}

/-- The refreshes of `net` among the requests. -/
def refreshRequest (net : UInt16) : Nat × SeedRequest → Option (Nat × Token)
  | (id, .refresh k t) => if k = net then some (id, t) else none
  | _ => none

/-- The answers to refreshes of `net`. -/
def refreshResponse (net : UInt16) : Nat × SeedResponse → Option (Nat × Token)
  | (id, .refreshed (.ok a)) => if a.netId = net then some (id, a.refreshToken) else none
  | _ => none

/-- The bridge as the holder of the parent's lease of `net`, with `tok` stored. -/
def holder (s : Delegation σ N S C N' S' C') (net : UInt16) (tok : Token) : Client Token :=
  { token := tok
    outstanding := s.handler.refreshes net
    next := s.next
    requests := s.requests.filterMap (refreshRequest net)
    responses := s.responses.filterMap (refreshResponse net) }

theorem mem_refreshRequests {requests : List (Nat × SeedRequest)} {net : UInt16}
    {q : Nat × Token} :
    q ∈ requests.filterMap (refreshRequest net) ↔ (q.1, .refresh net q.2) ∈ requests := by
  rw [List.mem_filterMap]
  constructor
  · rintro ⟨⟨id, req⟩, hmem, hq⟩
    cases req with
    | refresh k t =>
      simp only [refreshRequest, Option.ite_none_right_eq_some, Option.some.injEq] at hq
      obtain ⟨rfl, rfl⟩ := hq
      exact hmem
    | assign => cases hq
    | release => cases hq
  · intro hmem
    exact ⟨_, hmem, by simp [refreshRequest]⟩

theorem mem_refreshResponses {responses : List (Nat × SeedResponse)} {net : UInt16}
    {q : Nat × Token} :
    q ∈ responses.filterMap (refreshResponse net) ↔
      ∃ a, (q.1, .refreshed (.ok a)) ∈ responses ∧ a.netId = net ∧ a.refreshToken = q.2 := by
  rw [List.mem_filterMap]
  constructor
  · rintro ⟨⟨id, res⟩, hmem, hq⟩
    rcases res with r | (e | a) | r
    case refreshed.ok =>
      simp only [refreshResponse, Option.ite_none_right_eq_some, Option.some.injEq] at hq
      obtain ⟨hnet, rfl⟩ := hq
      exact ⟨a, hmem, hnet, rfl⟩
    all_goals cases hq
  · rintro ⟨a, hmem, hnet, htok⟩
    exact ⟨_, hmem, by simp [refreshResponse, hnet, htok]⟩

/-- The parent's lease of `net` to the bridge, while its token is `tok`, ends by `x`. -/
def EndsBy (L : SeedLink) (s : Delegation σ N S C N' S' C') (net : UInt16) (tok : Token)
    (x : Nat) : Prop :=
  ∀ e l, s.parent.seedRoutes.get net L.up = some e → e.kind = .active l →
    l.refreshToken = tok → l.expiration ≤ x

/-- The invariant about tokens. -/
structure TInv (L : SeedLink) (s : Delegation σ N S C N' S' C') : Prop where
  leases : ∀ net e l, s.parent.seedRoutes.get net L.up = some e → e.kind = .active l →
    l.expiration ≤ s.now + secs maxLeaseSecs.toNat ∧ l.refreshToken ∈ s.parent.rng.drawn
  requests : ∀ id net t, (id, .refresh net t) ∈ s.requests → t ∈ s.parent.rng.drawn
  responses : ∀ id a, (id, .refreshed (.ok a)) ∈ s.responses →
    a.refreshToken ∈ s.parent.rng.drawn ∧
      s.EndsBy L a.netId a.refreshToken (s.now + secs a.expiresSeconds.toNat)
  /-- An assignment that is awaited is still under its first token. -/
  assigned : ∀ id sent src up g, s.handler = .assigning id sent src up →
    (id, .assigned (.ok g)) ∈ s.responses →
    s.now ≤ sent + secs delegatedSeedRpcTimeoutSecs →
    g.assignment.refreshToken ∈ s.parent.rng.drawn ∧
      s.EndsBy L g.assignment.netId g.assignment.refreshToken
        (s.now + secs g.assignment.expiresSeconds.toNat) ∧
      (∀ i t, (i, .refresh g.assignment.netId t) ∈ s.requests →
        t ≠ g.assignment.refreshToken) ∧
      (windowOf (s.parent.seedRoutes.get g.assignment.netId L.up) =
          some ⟨g.assignment.refreshToken, none⟩ ∨
        windowOf (s.parent.seedRoutes.get g.assignment.netId L.up) = none)
  /-- The bridge is a holder for each of its running routes. -/
  routes : ∀ net src e l p, s.bridge.seedRoutes.get net src = some e → e.kind = .active l →
    s.now < l.expiration → e.extra.parent = some p →
    TokenWindow.Inv (windowOf (s.parent.seedRoutes.get net L.up)) s.parent.rng.drawn
        (s.holder net p.refreshToken) ∧
      s.EndsBy L net p.refreshToken l.expiration

/-- Steps that start no refresh and bring no answer: the parent is the same, and everything
else becomes less. -/
theorem TInv.relax {L : SeedLink} {s s' : Delegation σ N S C N' S' C'} (h : TInv L s)
    (hparent : s'.parent = s.parent) (hnow : s.now ≤ s'.now)
    (hbridge : Router.Shrinks s.bridge s'.bridge)
    (hreq : ∀ id k t, (id, SeedRequest.refresh k t) ∈ s'.requests →
      (id, SeedRequest.refresh k t) ∈ s.requests)
    (hresp : ∀ q ∈ s'.responses, q ∈ s.responses) (hnext : s.next ≤ s'.next)
    (hout : ∀ net id, s'.handler.refreshes net = some id → s.handler.refreshes net = some id)
    (hassign : ∀ id sent src up g, s'.handler = .assigning id sent src up →
      (id, SeedResponse.assigned (.ok g)) ∈ s'.responses →
      s.handler = .assigning id sent src up) : TInv L s' := by
  have hends : ∀ net tok x x', x ≤ x' → s.EndsBy L net tok x → s'.EndsBy L net tok x' := by
    intro net tok x x' hle hx e l he hl htok
    rw [hparent] at he
    exact Nat.le_trans (hx e l he hl htok) hle
  constructor
  case leases =>
    intro net e l he hl
    rw [hparent] at he ⊢
    obtain ⟨hshort, hdrawn⟩ := h.leases net e l he hl
    exact ⟨by omega, hdrawn⟩
  case requests =>
    intro id net t hmem
    rw [hparent]
    exact h.requests id net t (hreq id net t hmem)
  case responses =>
    intro id a hmem
    obtain ⟨hdrawn, hx⟩ := h.responses id a (hresp _ hmem)
    rw [hparent]
    exact ⟨hdrawn, hends _ _ _ _ (by omega) hx⟩
  case assigned =>
    intro id sent src up g hh hmem htime
    obtain ⟨hdrawn, hx, hnew, hwin⟩ := h.assigned id sent src up g (hassign _ _ _ _ g hh hmem)
      (hresp _ hmem) (Nat.le_trans hnow htime)
    rw [hparent]
    exact ⟨hdrawn, hends _ _ _ _ (by omega) hx, fun i t hi => hnew i t (hreq i _ t hi), hwin⟩
  case routes =>
    intro net src e l p he hl hexp hp
    obtain ⟨hinv, hx⟩ := h.routes net src e l p (hbridge net src e l he hl) hl
      (Nat.lt_of_le_of_lt hnow hexp) hp
    refine ⟨?_, hends _ _ _ _ (Nat.le_refl _) hx⟩
    rw [hparent]
    refine hinv.weaken rfl hnext ?_ ?_ (hout net)
    · intro q hq
      exact mem_refreshRequests.mpr (hreq _ _ _ (mem_refreshRequests.mp hq))
    · intro q hq
      obtain ⟨a, hmem, ha⟩ := mem_refreshResponses.mp hq
      exact mem_refreshResponses.mpr ⟨a, hresp _ hmem, ha⟩

theorem TInv.start {L : SeedLink} {parent : Router σ N S C} {bridge : Router σ N' S' C'}
    (hp : parent.seedRoutes.keys = []) (hb : bridge.seedRoutes.keys = []) :
    TInv L (start parent bridge) where
  leases := by
    intro net e l he
    have hin : net ∈ parent.seedRoutes.keys :=
      LeaseTable.mem_keys.mpr (LeaseTable.containsKey_of_get he)
    rw [hp] at hin
    cases hin
  requests := nofun
  responses := nofun
  assigned := nofun
  routes := by
    intro net src e l p he
    have hin : net ∈ bridge.seedRoutes.keys :=
      LeaseTable.mem_keys.mpr (LeaseTable.containsKey_of_get he)
    rw [hb] at hin
    cases hin

/-! ## Steps of the bridge -/

/-- The handler is idle again, or as it was. -/
theorem TInv.done {L : SeedLink} {s : Delegation σ N S C N' S' C'} (h : TInv L s)
    {b : Router σ N' S' C'} (hb : Router.Shrinks s.bridge b) (res : SeedResponse) :
    TInv L ({ s with bridge := b }.done res) :=
  h.relax rfl (Nat.le_refl _) hb (fun _ _ _ hq => hq) (fun _ hq => hq) (Nat.le_refl _) nofun nofun

theorem TInv.handleAssign {L : SeedLink} {s : Delegation σ N S C N' S' C'} (h : TInv L s)
    (hs : Inv L s) (src : UInt16) : TInv L (s.handleAssign src) := by
  have hb := Router.Shrinks.of_quiet hs.bridge
    (Router.canDelegateSeed_agedOnly s.bridge src s.now).quiet
  simp only [Delegation.handleAssign]
  split
  · exact h.done hb _
  · split
    · exact h.done hb _
    · split
      · exact h.done hb _
      · refine h.relax rfl (Nat.le_refl _) hb ?_ (fun _ hq => hq) (Nat.le_succ _) ?_ ?_
        · intro id k t hq
          rcases List.mem_append.mp hq with hq | hq
          · exact hq
          · cases List.mem_singleton.mp hq
        · rintro net id ⟨⟩
        · -- no answer can have the new number
          rintro id sent src' up g ⟨⟩ hg
          have := (hs.responses _ hg).1
          omega

theorem TInv.handleRelease {L : SeedLink} {s : Delegation σ N S C N' S' C'} (h : TInv L s)
    (hs : Inv L s) (src net : UInt16) (tok : Token) : TInv L (s.handleRelease src net tok) := by
  have hb := Router.Shrinks.of_quiet hs.bridge
    (Router.prepareDelegatedRelease_agedOnly s.bridge src net tok s.now).quiet
  simp only [Delegation.handleRelease]
  split
  · exact h.done hb _
  · refine h.relax rfl (Nat.le_refl _) hb ?_ (fun _ hq => hq) (Nat.le_succ _) ?_ ?_
    · intro id k t hq
      rcases List.mem_append.mp hq with hq | hq
      · exact hq
      · cases List.mem_singleton.mp hq
    · rintro net id ⟨⟩
    · rintro id sent src' up g ⟨⟩

theorem TInv.handleRefresh {L : SeedLink} {s : Delegation σ N S C N' S' C'} (h : TInv L s)
    (hs : Inv L s) (hidle : s.handler = .idle) (src net : UInt16) (tok : Token) :
    TInv L (s.handleRefresh src net tok) := by
  have hb := Router.Shrinks.of_quiet hs.bridge
    (Router.prepareDelegatedRefresh_agedOnly s.bridge src net tok s.now).quiet
  rcases hres : s.bridge.prepareDelegatedRefresh src net tok s.now with ⟨res, b⟩
  rw [hres] at hb
  simp only [Delegation.handleRefresh, hres]
  split
  · exact h.done hb _
  · exact h.done hb _
  · next p =>
    -- the stored lease of a running route is forwarded
    obtain ⟨e, l, p', he, hl, hp, hexp, ⟨-, hforward⟩ | ⟨-, -, hreplay⟩⟩ :=
      Router.prepareDelegatedRefresh_ok hs.bridge.directory.leases hres
    case inr => cases hreplay
    cases hforward
    obtain ⟨hnet, -⟩ := hs.routes net src e l p he hl hexp hp
    obtain ⟨hinv, hx⟩ := h.routes net src e l p he hl hexp hp
    constructor
    case leases => exact h.leases
    case requests =>
      intro id k t hq
      rcases List.mem_append.mp hq with hq | hq
      · exact h.requests id k t hq
      · cases List.mem_singleton.mp hq
        exact hinv.token
    case responses => exact h.responses
    case assigned => rintro id sent src' up g ⟨⟩
    case routes =>
      intro k src' e' l' p' he' hl' hexp' hp'
      have hbefore := hb k src' e' l' he' hl'
      obtain ⟨hinv', hx'⟩ := h.routes k src' e' l' p' hbefore hl' hexp' hp'
      refine ⟨?_, hx'⟩
      by_cases hk : k = net
      · -- the route that is refreshed
        subst hk
        obtain ⟨rfl, -⟩ := LeaseTable.get_unique hs.bridge.directory.leases he hbefore
        rw [hp] at hp'
        cases hp'
        refine hinv.ask.weaken ?_ ?_ ?_ ?_ ?_
        all_goals
          have hnone : (s.holder k p.refreshToken).outstanding = none := by
            simp [holder, hidle, SeedHandler.refreshes]
          simp only [Client.ask, hnone, if_true]
        · rfl
        · exact Nat.le_refl _
        · intro q hq
          rcases List.mem_append.mp (mem_refreshRequests.mp hq) with hq | hq
          · exact List.mem_append_left _ (mem_refreshRequests.mpr hq)
          · obtain ⟨h1, h2⟩ := Prod.mk.inj (List.mem_singleton.mp hq)
            obtain ⟨-, h2⟩ := SeedRequest.refresh.inj h2
            refine List.mem_append_right _ (List.mem_singleton.mpr (Prod.ext h1 h2))
        · intro q hq
          exact hq
        · intro id hid
          simpa [holder, SeedHandler.refreshes] using hid
      · refine hinv'.weaken rfl (Nat.le_succ _) ?_ (fun _ hq => hq) ?_
        · intro q hq
          rcases List.mem_append.mp (mem_refreshRequests.mp hq) with hq | hq
          · exact mem_refreshRequests.mpr hq
          · obtain ⟨-, h2⟩ := Prod.mk.inj (List.mem_singleton.mp hq)
            obtain ⟨h2, -⟩ := SeedRequest.refresh.inj h2
            exact absurd (h2.trans hnet) hk
        · intro id hid
          have hne : ¬ net = k := fun heq => hk heq.symm
          simp [holder, SeedHandler.refreshes, hne] at hid

/-- The bridge registers an assignment: it starts as the holder of its first token. -/
theorem TInv.register {L : SeedLink} {s : Delegation σ N S C N' S' C'} (h : TInv L s)
    (hs : Inv L s) {id sent : Nat} {src up : UInt16} {g : SeedRouterAssignment}
    (hh : s.handler = .assigning id sent src up)
    (hg : (id, .assigned (.ok g)) ∈ s.responses)
    (hnow : s.now ≤ sent + secs delegatedSeedRpcTimeoutSecs) {b : Router σ N' S' C'}
    {a : SeedNetAssignment}
    (hreg : s.bridge.registerDelegatedSeedNet src (leaseOf up g) s.now = (.ok a, b))
    (res : SeedResponse) : TInv L ({ s with bridge := b }.done res) := by
  obtain ⟨hdrawn, hx, hnew, hwin⟩ := h.assigned id sent src up g hh hg hnow
  refine { h with assigned := nofun, routes := ?_ }
  intro net src' e l p he hl hexp hp
  rcases Router.route_of_register hs.bridge hreg he hl with ⟨rfl, rfl, hstored, rfl⟩ | ⟨-, hold⟩
  · rw [hstored] at hp
    cases hp
    refine ⟨?_, hx⟩
    exact
      { requests := fun q hq =>
          ⟨hs.requests _ (mem_refreshRequests.mp hq), h.requests _ _ _ (mem_refreshRequests.mp hq)⟩
        responses := by
          intro q hq
          obtain ⟨a', hmem, -, htok⟩ := mem_refreshResponses.mp hq
          exact ⟨(hs.responses _ hmem).1, htok ▸ (h.responses _ a' hmem).1⟩
        outstanding := nofun
        token := hdrawn
        window := by
          intro w hw
          rcases hwin with hwin | hwin
          · have hw := hwin.symm.trans hw
            cases hw
            refine ⟨?_, nofun⟩
            rintro t (rfl | ht)
            · exact hdrawn
            · cases ht
          · have hw := hwin.symm.trans hw
            cases hw
        inStep := by
          intro w hw
          rcases hwin with hwin | hwin
          · have hw := hwin.symm.trans hw
            cases hw
            exact .current rfl fun _ _ => nofun
          · have hw := hwin.symm.trans hw
            cases hw }
  · obtain ⟨hinv, hx'⟩ := h.routes net src' e l p hold hl hexp hp
    exact ⟨hinv.weaken rfl (Nat.le_refl _) (fun _ hq => hq) (fun _ hq => hq) nofun, hx'⟩

/-- The bridge commits a refresh: it has the token that the answer brought. -/
theorem TInv.commit {L : SeedLink} {s : Delegation σ N S C N' S' C'} (h : TInv L s)
    (hs : Inv L s) {id sent : Nat} {src net : UInt16} {tok : Token} {p : SeedLease}
    {a : SeedNetAssignment} (hh : s.handler = .refreshing id sent src net tok p)
    (ha : (id, .refreshed (.ok a)) ∈ s.responses) {b : Router σ N' S' C'} {x : SeedNetAssignment}
    (hcommit : s.bridge.commitDelegatedRefresh src tok (refreshedLease p a) s.now = (.ok x, b))
    (res : SeedResponse) : TInv L ({ s with bridge := b }.done res) := by
  have hnet : a.netId = net := (hs.refreshed _ _ _ _ _ _ a hh ha).1
  have hends := (h.responses id a ha).2
  refine { h with assigned := nofun, routes := ?_ }
  intro k src' e l p' he hl hexp hp
  rcases Router.route_of_commit hcommit he hl with
    ⟨rfl, rfl, hstored, hx, e₀, l₀, he₀, hl₀, hexp₀⟩ | hold
  · rw [hstored] at hp
    cases hp
    subst hnet
    refine ⟨?_, ?_⟩
    · -- the route was running before, with another token
      obtain ⟨_, _, p₀, he₀', -, hp₀, -⟩ := Router.commitDelegatedRefresh_ok hcommit
      rw [show (refreshedLease p a).netId = a.netId from rfl] at he₀' he₀
      rw [he₀] at he₀'
      cases he₀'
      obtain ⟨hinv, -⟩ := h.routes _ _ e₀ l₀ p₀ he₀ hl₀ hexp₀ hp₀
      refine (hinv.receive (t := a.refreshToken)
        (mem_refreshResponses.mpr ⟨a, ha, rfl, rfl⟩) ?_).weaken rfl (Nat.le_refl _)
        (fun _ hq => hq) (fun _ hq => hq) nofun
      simp [holder, hh, SeedHandler.refreshes]
    · intro e' l' he' hl' htok
      have := hends e' l' he' hl' htok
      rw [hx]
      exact this
  · obtain ⟨hinv, hx'⟩ := h.routes k src' e l p' hold hl hexp hp
    exact ⟨hinv.weaken rfl (Nat.le_refl _) (fun _ hq => hq) (fun _ hq => hq) nofun, hx'⟩

theorem TInv.timeOut {L : SeedLink} {s : Delegation σ N S C N' S' C'} (h : TInv L s) :
    TInv L s.timeOut := by
  unfold Delegation.timeOut
  split
  case h_1 => exact h
  all_goals exact h.done (.refl _) _

section Steps

variable [InterfaceSink σ]

theorem TInv.proceed {L : SeedLink} {s : Delegation σ N S C N' S' C'} (h : TInv L s)
    (hs : Inv L s) {id sent : Nat} {res : SeedResponse}
    (hawaits : s.handler.awaits = some (id, sent))
    (hnow : s.now ≤ sent + secs delegatedSeedRpcTimeoutSecs) (hres : (id, res) ∈ s.responses) :
    TInv L (s.proceed L res) := by
  unfold Delegation.proceed
  split
  case h_2 id' sent' src upstreamNet granted hh =>
    rw [hh] at hawaits
    cases hawaits
    rcases hreg : s.bridge.registerDelegatedSeedNet src (leaseOf upstreamNet granted) s.now
      with ⟨e | a, b⟩
    · simp only [hreg]
      refine h.relax rfl (Nat.le_refl _) (.of_register_error hs.bridge hreg) ?_
        (fun _ hq => hq) (Nat.le_succ _) nofun nofun
      intro i k t hq
      rcases List.mem_append.mp hq with hq | hq
      · exact hq
      · cases List.mem_singleton.mp hq
    · simp only [hreg]
      exact h.register hs hh hres hnow hreg _
  case h_5 id' sent' src net tok parent a hh =>
    rw [hh] at hawaits
    cases hawaits
    rcases hcommit : s.bridge.commitDelegatedRefresh src tok (refreshedLease parent a) s.now
      with ⟨e | x, b⟩
    · dsimp only
      exact h.done (.of_quiet hs.bridge (Router.commitDelegatedRefresh_error hcommit).quiet) _
    · dsimp only
      exact h.commit hs hh hres hcommit _
  case h_7 id' sent' src net tok u hh =>
    exact h.done (Router.Shrinks.exec hs.bridge (.at s.now)
      (.commitDelegatedRelease src net tok) rfl) _
  case h_8 => exact h
  all_goals exact h.done (.refl _) _

/-! ## Steps of the parent -/

omit [InterfaceSink σ] in
/-- No net id of the bridge is assigned by the parent, if nothing comes between the halves
of a release. -/
theorem Inv.not_assigned {L : SeedLink} {s : Delegation σ N S C N' S' C'} (h : Inv L s)
    {up : UInt16} (hno : s.wouldReassign up = false) {net src : UInt16}
    {e : LeaseEntry UInt16 SeedRoute} {l : Lease} {p : SeedLease}
    (he : s.bridge.seedRoutes.get net src = some e) (hl : e.kind = .active l)
    (hexp : s.now < l.expiration) (hp : e.extra.parent = some p) {a : SeedNetAssignment}
    (hok : (s.parent.requestSeedNetAssign up s.now).1 = .ok a) : a.netId ≠ net := by
  obtain ⟨-, hheld | ⟨id, sent, src', tok, hh, -⟩⟩ := h.routes net src e l p he hl hexp hp
  · exact hheld.not_assigned h.parent (by omega) hok
  · have hruns := Router.runsSeed_of_get h.bridge he hl hexp
    simpa [wouldReassign, hh, hok, hruns] using hno

/-- An answer that was awaited before, or a route, bounds the lease as before. -/
theorem EndsBy.exec {L : SeedLink} {s s' : Delegation σ N S C N' S' C'} (hs : s.parent.Wf)
    {op : Op σ} (hroot : Router.rootOp op) (hparent : s'.parent = s.parent.exec (.at s.now, op))
    (hfresh : s'.parent.rng.Distinct) {net : UInt16} {tok : Token} {x : Nat}
    (hdrawn : tok ∈ s.parent.rng.drawn) (h : s.EndsBy L net tok x) : s'.EndsBy L net tok x := by
  rintro e l he hl rfl
  rw [hparent] at he hfresh
  obtain ⟨e₀, he₀, hl₀⟩ := Router.lease_of_drawn hs hroot hfresh he hl hdrawn
  exact h e₀ l he₀ hl₀ rfl

omit [InterfaceSink σ] in
/-- A lease that keeps its tokens or ends stays under its first token, or ends. -/
theorem firstToken_of_step {w w' : Option (Window Token)} {t : Token}
    (hstep : w' = w ∨ w' = none) (hw : w = some ⟨t, none⟩ ∨ w = none) :
    w' = some ⟨t, none⟩ ∨ w' = none := by
  rcases hstep with rfl | hnone
  · exact hw
  · exact .inr hnone

theorem TInv.parentOp {L : SeedLink} {s : Delegation σ N S C N' S' C'} (h : TInv L s)
    (hs : Inv L s) {op : Op σ} (hop : ownOp L.up s.parent op)
    (hfresh : (s.parent.exec (.at s.now, op)).rng.Distinct) :
    TInv L { s with parent := s.parent.exec (.at s.now, op) } := by
  have hown := hop
  simp only [ownOp, Bool.and_eq_true, bne_iff_ne] at hown
  obtain ⟨⟨hroot, hsrc⟩, -⟩ := hown
  have hdrawn := (Router.exec_rng s.parent (.at s.now, op)).drawn
  have hwindow : ∀ net, windowOf ((s.parent.exec (.at s.now, op)).seedRoutes.get net L.up) =
      windowOf (s.parent.seedRoutes.get net L.up) ∨
      windowOf ((s.parent.exec (.at s.now, op)).seedRoutes.get net L.up) = none := by
    intro net
    refine Router.window_exec hs.parent hroot ?_ ?_
    · rintro tok rfl
      exact hsrc rfl
    · rintro a rfl
      exact absurd rfl hsrc
  constructor
  case leases =>
    exact fun net e l he hl => Router.lease_sound hs.parent hroot (h.leases net) he hl
  case requests => exact fun id net t hq => hdrawn (h.requests id net t hq)
  case responses =>
    intro id a hq
    obtain ⟨ht, hx⟩ := h.responses id a hq
    exact ⟨hdrawn ht, hx.exec hs.parent hroot rfl hfresh ht⟩
  case assigned =>
    intro id sent src up g hh hg hnow
    obtain ⟨ht, hx, hnew, hwin⟩ := h.assigned id sent src up g hh hg hnow
    refine ⟨hdrawn ht, hx.exec hs.parent hroot rfl hfresh ht, hnew, ?_⟩
    exact firstToken_of_step (hwindow g.assignment.netId) hwin
  case routes =>
    intro net src e l p he hl hexp hp
    obtain ⟨hinv, hx⟩ := h.routes net src e l p he hl hexp hp
    exact ⟨hinv.mono hdrawn (hwindow net), hx.exec hs.parent hroot rfl hfresh hinv.token⟩

/-- A token that was never presented is not touched by the refresh of another. -/
theorem window_of_refresh {up net : UInt16} {r : Router σ N S C} (hr : r.Wf) {now : Nat}
    {tok cur : Token} (hne : tok ≠ cur)
    (hfresh : (r.exec (.at now, .refreshSeedNetAssignment up net tok)).rng.Distinct)
    (hwin : windowOf (r.seedRoutes.get net up) = some ⟨cur, none⟩ ∨
      windowOf (r.seedRoutes.get net up) = none) :
    windowOf ((r.exec (.at now, .refreshSeedNetAssignment up net tok)).seedRoutes.get net up) =
        some ⟨cur, none⟩ ∨
      windowOf ((r.exec (.at now, .refreshSeedNetAssignment up net tok)).seedRoutes.get net up) =
        none := by
  have hserved := Router.refresh_served hr up net (.at now) tok hfresh
  generalize windowOf ((r.exec _).seedRoutes.get net up) = w' at hserved ⊢
  generalize (Router.seedServer up net).reply r _ = answer at hserved
  cases hserved with
  | ended => exact .inr rfl
  | refused => exact hwin
  | rotated hw =>
    rcases hwin with hwin | hwin
    · rw [hw] at hwin
      cases hwin
      exact absurd rfl hne
    · rw [hw] at hwin
      cases hwin
  | replayed hw =>
    rcases hwin with hwin | hwin
    · rw [hw] at hwin
      cases hwin
    · rw [hw] at hwin
      cases hwin

/-- The answer to an assignment brings the only token of the lease, which no request has
presented. -/
theorem TInv.assigned_answer {L : SeedLink} {s s' : Delegation σ N S C N' S' C'} (h : TInv L s)
    {a : SeedNetAssignment} (hres : (s.parent.requestSeedNetAssign L.up s.now).1 = .ok a)
    (hfresh : (s.parent.exec (.at s.now, .requestSeedNetAssign L.up)).rng.Distinct)
    (hparent : s'.parent = s.parent.exec (.at s.now, .requestSeedNetAssign L.up))
    (hreq : ∀ i t, (i, .refresh a.netId t) ∈ s'.requests → (i, .refresh a.netId t) ∈ s.requests) :
    a.refreshToken ∈ s'.parent.rng.drawn ∧
      s'.EndsBy L a.netId a.refreshToken (s.now + secs a.expiresSeconds.toNat) ∧
      (∀ i t, (i, .refresh a.netId t) ∈ s'.requests → t ≠ a.refreshToken) ∧
      (windowOf (s'.parent.seedRoutes.get a.netId L.up) = some ⟨a.refreshToken, none⟩ ∨
        windowOf (s'.parent.seedRoutes.get a.netId L.up) = none) := by
  have hgrant : Router.SeedGranted L.up a.netId a.refreshToken s.parent
      (.at s.now, .requestSeedNetAssign L.up) := .assigned hres rfl rfl
  obtain ⟨hwin, ht⟩ := hgrant.window
  obtain ⟨hnew, hx⟩ := Router.assign_lasts hres
  rw [EndsBy, hparent]
  refine ⟨ht, fun e l he hl _ => hx e l he hl, ?_, .inl hwin⟩
  rintro i t hq rfl
  -- requests present tokens that were drawn before
  have hold := h.requests i _ _ (hreq i _ hq)
  rw [Router.rng_of_assign (.at s.now) hres] at hfresh
  have hnew : a.refreshToken = s.parent.rng.next.1 := hnew
  rw [hnew] at hold
  exact Rng.next_not_mem_drawn hfresh hold

/-- The parent serves a refresh: for the route this is a request of its holder that is
answered. -/
theorem holder_served {L : SeedLink} {s : Delegation σ N S C N' S' C'} (hs : s.parent.Wf)
    {id : Nat} {net : UInt16} {t tok : Token}
    (hinv : TokenWindow.Inv (windowOf (s.parent.seedRoutes.get net L.up)) s.parent.rng.drawn
      (s.holder net tok))
    (hmem : (id, .refresh net t) ∈ s.requests)
    (hfresh : (s.parent.exec (.at s.now, .refreshSeedNetAssignment L.up net t)).rng.Distinct) :
    TokenWindow.Inv
      (windowOf ((s.parent.exec (.at s.now, .refreshSeedNetAssignment L.up net t)).seedRoutes.get
        net L.up))
      (s.parent.exec (.at s.now, .refreshSeedNetAssignment L.up net t)).rng.drawn
      (holder { s with
        parent := s.parent.exec (.at s.now, .refreshSeedNetAssignment L.up net t)
        requests := s.requests.filter fun p => p.1 ≠ id
        responses := s.responses ++ [(id, answer L s.parent s.now (.refresh net t))] } net tok) := by
  have hdrawn := (Router.exec_rng s.parent (.at s.now, .refreshSeedNetAssignment L.up net t)).drawn
  have hserved := Router.refresh_served hs L.up net (.at s.now) t hfresh
  have hinv' := hinv.serve hdrawn hserved (mem_refreshRequests.mpr hmem)
  obtain ⟨hreqs, hout, htok, hnext⟩ := TokenWindow.Inv.reply_same (s.holder net tok) id
    ((Router.seedServer L.up net).reply s.parent (.at s.now, .refreshSeedNetAssignment L.up net t))
  refine hinv'.weaken htok.symm (Nat.le_of_eq hnext) ?_ ?_ ?_
  · intro q hq
    rw [hreqs]
    exact mem_refreshRequests.mpr (List.mem_of_mem_filter (mem_refreshRequests.mp hq))
  · intro q hq
    obtain ⟨a, hq, hnet, ht⟩ := mem_refreshResponses.mp hq
    rcases List.mem_append.mp hq with hq | hq
    · have hold : q ∈ (s.holder net tok).responses :=
        mem_refreshResponses.mpr ⟨a, hq, hnet, ht⟩
      unfold Client.reply
      split
      · exact hold
      · exact List.mem_append_left _ hold
    · -- the answer to this request
      obtain ⟨hid, hans⟩ := Prod.mk.inj (List.mem_singleton.mp hq)
      simp only [answer, SeedResponse.refreshed.injEq] at hans
      simp only [Router.seedServer, Clock.at, ← hans, Client.reply]
      exact List.mem_append_right _ (List.mem_singleton.mpr (Prod.ext hid ht.symm))
  · intro i hi
    rw [hout]
    exact hi

theorem TInv.serve {L : SeedLink} {s : Delegation σ N S C N' S' C'} (h : TInv L s)
    (hs : Inv L s) {id : Nat} {req : SeedRequest}
    (hfind : s.requests.find? (fun p => p.1 = id) = some (id, req))
    (hmeets : s.meets L (.serve id))
    (hfresh : (s.parent.exec (.at s.now, req.op L.up)).rng.Distinct) :
    TInv L { s with
      parent := s.parent.exec (.at s.now, req.op L.up)
      requests := s.requests.filter fun p => p.1 ≠ id
      responses := s.responses ++ [(id, answer L s.parent s.now req)] } := by
  have hmem := List.mem_of_find?_eq_some hfind
  have hroot : Router.rootOp (req.op L.up : Op σ) := by cases req <;> rfl
  have hdrawn := (Router.exec_rng s.parent (.at s.now, req.op L.up)).drawn
  have hassign : req = .assign → s.wouldReassign L.up = false := by
    rintro rfl
    simpa [meets, hfind] using hmeets
  -- a lease that is not refreshed keeps its tokens
  have hwindow : ∀ net, (∀ t, req ≠ .refresh net t) →
      (∀ a, req = .assign → (s.parent.requestSeedNetAssign L.up s.now).1 = .ok a →
        a.netId ≠ net) →
      windowOf ((s.parent.exec (.at s.now, req.op L.up)).seedRoutes.get net L.up) =
        windowOf (s.parent.seedRoutes.get net L.up) ∨
      windowOf ((s.parent.exec (.at s.now, req.op L.up)).seedRoutes.get net L.up) = none := by
    intro net hrefresh halloc
    refine Router.window_exec hs.parent hroot ?_ ?_
    · intro tok heq
      cases req with
      | refresh k t =>
        cases heq
        exact hrefresh _ rfl
      | assign => cases heq
      | release => cases heq
    · intro a heq hok
      cases req with
      | assign => exact halloc a rfl hok
      | refresh => cases heq
      | release => cases heq
  constructor
  case leases =>
    exact fun net e l he hl => Router.lease_sound hs.parent hroot (h.leases net) he hl
  case requests =>
    exact fun i net t hq => hdrawn (h.requests i net t (List.mem_of_mem_filter hq))
  case responses =>
    intro i a hq
    rcases List.mem_append.mp hq with hq | hq
    · obtain ⟨ht, hx⟩ := h.responses i a hq
      exact ⟨hdrawn ht, hx.exec hs.parent hroot rfl hfresh ht⟩
    · obtain ⟨rfl, hans⟩ := Prod.mk.inj (List.mem_singleton.mp hq)
      cases req with
      | assign => cases hans
      | release => cases hans
      | refresh net t =>
        simp only [answer, SeedResponse.refreshed.injEq] at hans
        obtain ⟨rfl, ht, hx⟩ := Router.refresh_lasts (h.leases net) hans.symm
        exact ⟨ht, fun e l he hl _ => hx e l he hl⟩
  case assigned =>
    intro i sent src up g hh hg hnow
    rcases List.mem_append.mp hg with hg | hg
    · obtain ⟨ht, hx, hnew, hwin⟩ := h.assigned i sent src up g hh hg hnow
      have hheld := hs.assigning i sent src up g hh hg hnow
      refine ⟨hdrawn ht, hx.exec hs.parent hroot rfl hfresh ht,
        fun i t hq => hnew i t (List.mem_of_mem_filter hq), ?_⟩
      by_cases hrefresh : ∃ t, req = .refresh g.assignment.netId t
      · obtain ⟨t, rfl⟩ := hrefresh
        exact window_of_refresh hs.parent (hnew _ t hmem) hfresh hwin
      · have hstep := hwindow g.assignment.netId (fun t heq => hrefresh ⟨t, heq⟩)
          fun _ _ hok => hheld.not_assigned hs.parent (lt_of_timeout hnow _) hok
        exact firstToken_of_step hstep hwin
    · -- the answer to an assignment brings the only token
      obtain ⟨rfl, hans⟩ := Prod.mk.inj (List.mem_singleton.mp hg)
      cases req with
      | refresh => cases hans
      | release => cases hans
      | assign =>
        rcases hres : (s.parent.requestSeedNetAssign L.up s.now).1 with e | a
        · simp [answer, hres, Except.map] at hans
        · simp only [answer, hres, Except.map, SeedResponse.assigned.injEq,
            Except.ok.injEq] at hans
          subst hans
          exact h.assigned_answer hres hfresh rfl fun i t hq => List.mem_of_mem_filter hq
  case routes =>
    intro net src e l p he hl hexp hp
    obtain ⟨hinv, hx⟩ := h.routes net src e l p he hl hexp hp
    refine ⟨?_, hx.exec hs.parent hroot rfl hfresh hinv.token⟩
    by_cases hrefresh : ∃ t, req = .refresh net t
    · obtain ⟨t, rfl⟩ := hrefresh
      exact holder_served hs.parent hinv hmem hfresh
    · refine (hinv.mono hdrawn (hwindow net (fun t heq => hrefresh ⟨t, heq⟩)
        fun _ heq hok => hs.not_assigned (hassign heq) he hl hexp hp hok)).weaken rfl
        (Nat.le_refl _) ?_ ?_
        (fun _ hid => hid)
      · intro q hq
        exact mem_refreshRequests.mpr (List.mem_of_mem_filter (mem_refreshRequests.mp hq))
      · intro q hq
        obtain ⟨a, hq, hnet, ht⟩ := mem_refreshResponses.mp hq
        rcases List.mem_append.mp hq with hq | hq
        · exact mem_refreshResponses.mpr ⟨a, hq, hnet, ht⟩
        · -- the answer is about another net id
          obtain ⟨-, hans⟩ := Prod.mk.inj (List.mem_singleton.mp hq)
          cases req with
          | assign => cases hans
          | release => cases hans
          | refresh k t =>
            simp only [answer, SeedResponse.refreshed.injEq] at hans
            obtain ⟨hk, -⟩ := Router.refresh_lasts (h.leases k) hans.symm
            exact absurd ⟨t, by rw [← hnet, hk]⟩ hrefresh

/-! ## Runs -/

/-- The parent draws tokens only when it acts. -/
theorem exec_rng (L : SeedLink) (s : Delegation σ N S C N' S' C') (l : DelegationLabel σ) :
    s.parent.rng.Extends (s.exec L l).parent.rng := by
  have hproceed : ∀ (s : Delegation σ N S C N' S' C') res,
      (s.proceed L res).parent = s.parent := by
    intro s res
    unfold Delegation.proceed
    split
    case h_2 =>
      dsimp only
      split <;> rfl
    all_goals rfl
  cases l with
  | tick => exact .refl _
  | lose => exact .refl _
  | assign src =>
    simp only [Delegation.exec, Delegation.handleAssign]
    split
    · split
      · exact .refl _
      · split
        · exact .refl _
        · split <;> exact .refl _
    · exact .refl _
  | refresh src net tok =>
    simp only [Delegation.exec, Delegation.handleRefresh]
    split
    · split <;> exact .refl _
    · exact .refl _
  | release src net tok =>
    simp only [Delegation.exec, Delegation.handleRelease]
    split
    · split <;> exact .refl _
    · exact .refl _
  | serve id =>
    simp only [Delegation.exec]
    split
    · exact .refl _
    · exact Router.exec_rng _ _
  | respond id =>
    simp only [Delegation.exec]
    split
    · exact .refl _
    · split
      · exact .refl _
      · split
        · split
          · exact .refl _
          · rw [hproceed]
            exact .refl _
        · exact .refl _
  | timeout =>
    simp only [Delegation.exec, Delegation.timeOut]
    split <;> exact .refl _
  | parentOp op =>
    simp only [Delegation.exec]
    split
    · exact Router.exec_rng _ _
    · exact .refl _
  | bridgeOp op =>
    simp only [Delegation.exec]
    split <;> exact .refl _

/-- One step that meets the condition and draws no token again. -/
theorem TInv.exec {L : SeedLink} {s : Delegation σ N S C N' S' C'} (h : TInv L s)
    (hs : Inv L s) (l : DelegationLabel σ) (hmeets : s.meets L l)
    (hfresh : (s.exec L l).parent.rng.Distinct) : TInv L (s.exec L l) := by
  cases l with
  | tick d =>
    exact h.relax rfl (Nat.le_add_right _ _) (.refl _) (fun _ _ _ hq => hq) (fun _ hq => hq)
      (Nat.le_refl _) (fun _ _ hid => hid) fun _ _ _ _ _ hh _ => hh
  | assign src =>
    simp only [Delegation.exec]
    split
    · exact h.handleAssign hs src
    · exact h
  | refresh src net tok =>
    simp only [Delegation.exec]
    split
    · next hidle => exact h.handleRefresh hs hidle src net tok
    · exact h
  | release src net tok =>
    simp only [Delegation.exec]
    split
    · exact h.handleRelease hs src net tok
    · exact h
  | serve id =>
    simp only [Delegation.exec] at hfresh ⊢
    split
    · exact h
    · next id' req hfind =>
      rw [hfind] at hfresh
      have hid : id' = id := by simpa using List.find?_some hfind
      subst hid
      exact h.serve hs hfind hmeets hfresh
  | respond id =>
    have hforget : ∀ (s' : Delegation σ N S C N' S' C') responses, TInv L s' →
        (∀ q ∈ responses, q ∈ s'.responses) → TInv L { s' with responses } :=
      fun s' responses h' hsub => h'.relax rfl (Nat.le_refl _) (.refl _) (fun _ _ _ hq => hq)
        (fun _ hq => hsub _ hq) (Nat.le_refl _) (fun _ _ hid => hid) fun _ _ _ _ _ hh _ => hh
    obtain ⟨responses, hsub, hdrop | ⟨res, sent, hres, hawaits, hnow, htake⟩⟩ :=
      exec_respond hmeets
    · rw [hdrop]
      exact hforget s responses h hsub
    · rw [htake]
      refine hforget _ responses (h.proceed hs hawaits hnow hres) ?_
      rw [responses_proceed]
      exact hsub
  | lose id =>
    exact h.relax rfl (Nat.le_refl _) (.refl _) (fun _ _ _ hq => List.mem_of_mem_filter hq)
      (fun _ hq => List.mem_of_mem_filter hq) (Nat.le_refl _) (fun _ _ hid => hid)
      fun _ _ _ _ _ hh _ => hh
  | timeout => exact h.timeOut
  | parentOp op =>
    simp only [Delegation.exec] at hfresh ⊢
    split
    · next hop =>
      rw [if_pos hop] at hfresh
      exact h.parentOp hs hop hfresh
    · exact h
  | bridgeOp op =>
    simp only [Delegation.exec]
    split
    · next hop =>
      refine h.relax rfl (Nat.le_refl _) (Router.Shrinks.exec hs.bridge _ op ?_)
        (fun _ _ _ hq => hq) (fun _ hq => hq) (Nat.le_refl _) (fun _ _ hid => hid)
        fun _ _ _ _ _ hh _ => hh
      cases op <;> first | rfl | cases hop
    · exact h

theorem TInv.run {L : SeedLink} {s : Delegation σ N S C N' S' C'} (h : TInv L s)
    (hs : Inv L s) (labels : List (DelegationLabel σ)) (hmeets : s.Meets L labels)
    (hfresh : (runAll (Delegation.exec L) s labels).parent.rng.Distinct) :
    TInv L (runAll (Delegation.exec L) s labels) := by
  induction labels using List.reverseRecOn with
  | nil => exact h
  | append_singleton labels l ih =>
    rw [runAll_append] at hfresh ⊢
    have hbefore : s.Meets L labels := fun hbad => hmeets (Happens_append.mpr (.inl hbad))
    have hlast : (runAll (Delegation.exec L) s labels).meets L l := by
      by_contra hbad
      exact hmeets (Happens_append.mpr (.inr (.inl (Bool.eq_false_of_not_eq_true hbad))))
    have hfresh' := (exec_rng L (runAll (Delegation.exec L) s labels) l).distinct hfresh
    exact (ih hbefore hfresh').exec (hs.run labels hbefore) l hlast hfresh

end Steps

end Delegation

end Ergot
