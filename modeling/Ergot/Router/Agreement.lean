import Ergot.Router.Running

/-!
# The bridge and its parent agree

While a bridge has a running route for a net id, its parent has the net id reserved for
the bridge, and for longer: `Held` until 28 seconds after the route's lease ends. The
route's lease was set by an answer that came within the timeout, and the parent keeps a
key for 30 seconds after the lease.

Two things break this.

- A release. The parent performs it before the bridge does, so in between the route runs on
  a net id that the parent may assign again, and if the answer is lost the bridge keeps it.
- An answer that comes after the timeout, when the next RPC has got the port. It is taken
  for the answer to that one (`crosses`).

`meets` is what a step must not do; `Inv.exec` is the step lemma, one case for each label,
and `Inv.run` the run lemma.
-/

namespace Ergot

open Runs

/-- The handler waits for RPC `id`, a release. -/
def SeedHandler.releases (h : SeedHandler) (id : Nat) : Bool :=
  match h with
  | .releasing awaited _ _ _ _ => awaited = id
  | _ => false

namespace Delegation

variable {σ : Type} {N S C N' S' C' : Nat}

/-! ## What has to be avoided -/

/-- The bridge has a running route of `net`, or will have: the answer to an assignment
is on its way, and there is time. -/
def promised (s : Delegation σ N S C N' S' C') (net : UInt16) : Bool :=
  s.bridge.runsSeed net s.now ||
    match s.handler with
    | .assigning id sent _ _ => s.responses.any fun q =>
      q.1 = id && s.now ≤ sent + secs delegatedSeedRpcTimeoutSecs && match q.2 with
        | .assigned (.ok granted) => granted.assignment.netId = net
        | _ => false
    | _ => false

/-- The parent would assign `src` the net id that the bridge waits to release, while the
route of the bridge runs. -/
def wouldReassign (s : Delegation σ N S C N' S' C') (src : UInt16) : Bool :=
  match s.handler, (s.parent.requestSeedNetAssign src s.now).1 with
  | .releasing _ _ _ net _, .ok a => a.netId = net && s.bridge.runsSeed net s.now
  | _, _ => false

/-- The answer to `id` arrives when the port of its RPC has gone to another one, which takes
it. -/
def crosses (L : SeedLink) (s : Delegation σ N S C N' S' C') (id : Nat) : Bool :=
  match s.handler.awaits, s.responses.find? (fun p => p.1 = id) with
  | some (awaited, sent), some (_, res) =>
    awaited ≠ id && L.port awaited = L.port id &&
      s.now ≤ sent + secs delegatedSeedRpcTimeoutSecs && (res.readAs s.handler.rpc).isSome
  | _, _ => false

/-- The step does not come between the two halves of a release, and mixes up no RPCs.

- The parent performs a release only while the bridge waits for it, or when it concerns
  no route of the bridge.
- It does not assign the net id again before the bridge has the answer.
- The bridge does not stop waiting after the parent has performed the release.
- The bridge does not take the answer to one RPC for that to another. -/
def meets (L : SeedLink) (s : Delegation σ N S C N' S' C') : DelegationLabel σ → Bool
  | .serve id =>
    match s.requests.find? (fun p => p.1 = id) with
    | some (_, .release net tok) =>
      !s.parent.holdsToken L.up net tok s.now || s.handler.releases id
        || !s.promised net
    | some (_, .assign) => !s.wouldReassign L.up
    | _ => true
  | .respond id => !s.crosses L id
  | .timeout =>
    match s.handler with
    | .releasing _ _ _ net _ =>
      !s.bridge.runsSeed net s.now || (s.parent.seedRoutes.get net L.up).isSome
    | _ => true
  | .parentOp (.requestSeedNetAssign src) => !s.wouldReassign src
  | _ => true

/-! ## The invariant -/

/-- The handler waits for the answer to a release of `net` that the parent has
performed: the answer is on its way, or lost. -/
def Released (s : Delegation σ N S C N' S' C') (net : UInt16) : Prop :=
  ∃ id sent src tok, s.handler = .releasing id sent src net tok ∧
    s.parent.seedRoutes.containsKey net = false ∧
    (∀ q ∈ s.responses, q.1 = id → q.2 = .released (.ok ())) ∧ ∀ q ∈ s.requests, q.1 ≠ id

structure Inv (L : SeedLink) (s : Delegation σ N S C N' S' C') : Prop where
  parent : s.parent.Wf
  bridge : s.bridge.Wf
  requests : ∀ q ∈ s.requests, q.1 < s.next
  responses : ∀ q ∈ s.responses, q.1 < s.next ∧ ∀ p ∈ s.requests, p.1 ≠ q.1
  awaits : ∀ id sent, s.handler.awaits = some (id, sent) → id < s.next ∧ sent ≤ s.now
  /-- An assignment that is awaited stands at the parent. -/
  assigning : ∀ id sent src up granted, s.handler = .assigning id sent src up →
    (id, .assigned (.ok granted)) ∈ s.responses →
    s.now ≤ sent + secs delegatedSeedRpcTimeoutSecs →
    Router.Held L.up granted.assignment.netId
      (sent + secs 29 + secs granted.assignment.expiresSeconds.toNat) s.parent
  refreshing : ∀ id sent src net tok p, s.handler = .refreshing id sent src net tok p →
    p.netId = net ∧ ∀ req, (id, req) ∈ s.requests → ∃ t, req = .refresh net t
  /-- So does a refresh, while there is a route to commit it to. -/
  refreshed : ∀ id sent src net tok p a, s.handler = .refreshing id sent src net tok p →
    (id, .refreshed (.ok a)) ∈ s.responses → a.netId = net ∧
      (s.now ≤ sent + secs delegatedSeedRpcTimeoutSecs → s.bridge.runsSeed net s.now →
        Router.Held L.up net (sent + secs 29 + secs a.expiresSeconds.toNat) s.parent)
  releasing : ∀ id sent src net tok, s.handler = .releasing id sent src net tok →
    (∀ req, (id, req) ∈ s.requests → ∃ t, req = .release net t) ∧
    ∀ src' e l, s.bridge.seedRoutes.get net src' = some e → e.kind = .active l →
      src' = src ∧ l.refreshToken = tok
  /-- Every running route is reserved at the parent, or being released. -/
  routes : ∀ net src e l p, s.bridge.seedRoutes.get net src = some e → e.kind = .active l →
    s.now < l.expiration → e.extra.parent = some p →
    p.netId = net ∧
      (Router.Held L.up net (l.expiration + secs 28) s.parent ∨ s.Released net)

/-- An answer in time comes a second before what it stands for would lapse. -/
theorem lt_of_timeout {now sent : Nat} (h : now ≤ sent + secs delegatedSeedRpcTimeoutSecs)
    (lease : Nat) : now < sent + secs 29 + lease := by
  simp only [secs, delegatedSeedRpcTimeoutSecs] at *
  omega

theorem Inv.start {L : SeedLink} {parent : Router σ N S C} {bridge : Router σ N' S' C'}
    (hp : parent.Wf) (hb : bridge.Wf) (hempty : bridge.seedRoutes.keys = []) :
    Inv L (start parent bridge) where
  parent := hp
  bridge := hb
  requests := nofun
  responses := nofun
  awaits := nofun
  assigning := nofun
  refreshing := nofun
  refreshed := nofun
  releasing := nofun
  routes := by
    intro net src e l p he
    have hin : net ∈ bridge.seedRoutes.keys :=
      LeaseTable.mem_keys.mpr (LeaseTable.containsKey_of_get he)
    rw [hempty] at hin
    cases hin

/-! ## Steps of the bridge -/

/-- The bridge gains no seed lease. -/
theorem Inv.ofShrinks {L : SeedLink} {s : Delegation σ N S C N' S' C'} (h : Inv L s)
    {b : Router σ N' S' C'} (hb : b.Wf) (hs : Router.Shrinks s.bridge b) :
    Inv L { s with bridge := b } := by
  refine { h with bridge := hb, refreshed := ?_, releasing := ?_, routes := ?_ }
  · intro id sent src net tok p a hh ha
    obtain ⟨hnet, hheld⟩ := h.refreshed id sent src net tok p a hh ha
    exact ⟨hnet, fun hnow hruns => hheld hnow (hs.runsSeed h.bridge hb hruns)⟩
  · intro id sent src net tok hh
    obtain ⟨hreq, hroute⟩ := h.releasing id sent src net tok hh
    exact ⟨hreq, fun src' e l he hl => hroute src' e l (hs net src' e l he hl) hl⟩
  · intro net src e l p he hl hexp hp
    exact h.routes net src e l p (hs net src e l he hl) hl hexp hp

/-- Messages can get lost. -/
theorem Inv.forget {L : SeedLink} {s : Delegation σ N S C N' S' C'} (h : Inv L s)
    {requests : List (Nat × SeedRequest)} {responses : List (Nat × SeedResponse)}
    (hreq : ∀ q ∈ requests, q ∈ s.requests) (hresp : ∀ q ∈ responses, q ∈ s.responses) :
    Inv L { s with requests, responses } := by
  refine
    { parent := h.parent, bridge := h.bridge, awaits := h.awaits, requests := ?_,
      responses := ?_, assigning := ?_, refreshing := ?_, refreshed := ?_, releasing := ?_,
      routes := ?_ }
  · exact fun q hq => h.requests q (hreq q hq)
  · intro q hq
    obtain ⟨hlt, hne⟩ := h.responses q (hresp q hq)
    exact ⟨hlt, fun p hp => hne p (hreq p hp)⟩
  · exact fun id sent src up g hh hg => h.assigning id sent src up g hh (hresp _ hg)
  · intro id sent src net tok p hh
    obtain ⟨hnet, hkind⟩ := h.refreshing id sent src net tok p hh
    exact ⟨hnet, fun req hr => hkind req (hreq _ hr)⟩
  · exact fun id sent src net tok p a hh ha =>
      h.refreshed id sent src net tok p a hh (hresp _ ha)
  · intro id sent src net tok hh
    obtain ⟨hkind, hroute⟩ := h.releasing id sent src net tok hh
    exact ⟨fun req hr => hkind req (hreq _ hr), hroute⟩
  · intro net src e l p he hl hexp hp
    obtain ⟨hnet, hheld | ⟨id, sent, src', tok, hh, hfree, hdone, hgone⟩⟩ :=
      h.routes net src e l p he hl hexp hp
    · exact ⟨hnet, .inl hheld⟩
    · exact ⟨hnet, .inr ⟨id, sent, src', tok, hh, hfree, fun q hq => hdone q (hresp q hq),
        fun q hq => hgone q (hreq q hq)⟩⟩

theorem Inv.tick {L : SeedLink} {s : Delegation σ N S C N' S' C'} (h : Inv L s) (d : Nat) :
    Inv L { s with now := s.now + d } := by
  refine { h with awaits := ?_, assigning := ?_, refreshed := ?_, routes := ?_ }
  · intro id sent hh
    obtain ⟨hlt, hle⟩ := h.awaits id sent hh
    exact ⟨hlt, Nat.le_add_right_of_le hle⟩
  · intro id sent src up g hh hg hnow
    have hnow : s.now + d ≤ sent + secs delegatedSeedRpcTimeoutSecs := hnow
    exact h.assigning id sent src up g hh hg (by omega)
  · intro id sent src net tok p a hh ha
    obtain ⟨hnet, hheld⟩ := h.refreshed id sent src net tok p a hh ha
    refine ⟨hnet, fun hnow hruns => hheld ?_ ?_⟩
    · have hnow : s.now + d ≤ sent + secs delegatedSeedRpcTimeoutSecs := hnow
      omega
    · obtain ⟨src', e, l, he, hl, hexp⟩ := (Router.runsSeed_iff h.bridge).mp hruns
      have hexp : s.now + d < l.expiration := hexp
      exact (Router.runsSeed_iff h.bridge).mpr ⟨src', e, l, he, hl, by omega⟩
  · intro net src e l p he hl hexp hp
    have hexp : s.now + d < l.expiration := hexp
    exact h.routes net src e l p he hl (by omega) hp

/-- The handler may become idle unless it leaves a release half done. -/
theorem Inv.done {L : SeedLink} {s : Delegation σ N S C N' S' C'} (h : Inv L s)
    (hno : ∀ net, s.Released net → s.bridge.runsSeed net s.now = false) (res : SeedResponse) :
    Inv L (s.done res) := by
  refine
    { h with awaits := nofun, assigning := nofun, refreshing := nofun, refreshed := nofun,
             releasing := nofun, routes := ?_ }
  intro net src e l p he hl hexp hp
  obtain ⟨hnet, hheld | hrel⟩ := h.routes net src e l p he hl hexp hp
  · exact ⟨hnet, .inl hheld⟩
  · have hruns : s.bridge.runsSeed net s.now := Router.runsSeed_of_get h.bridge he hl hexp
    rw [hno net hrel] at hruns
    cases hruns

/-- A new RPC: nothing that is in flight belongs to it. -/
theorem Inv.wait {L : SeedLink} {s : Delegation σ N S C N' S' C'} (h : Inv L s)
    (hno : ∀ net, s.Released net → s.bridge.runsSeed net s.now = false) {req : SeedRequest}
    {handler : SeedHandler} (hawaits : handler.awaits = some (s.next, s.now))
    (hrefreshing : ∀ id sent src net tok p, handler = .refreshing id sent src net tok p →
      p.netId = net ∧ ∃ t, req = .refresh net t)
    (hreleasing : ∀ id sent src net tok, handler = .releasing id sent src net tok →
      (∃ t, req = .release net t) ∧ ∀ src' e l, s.bridge.seedRoutes.get net src' = some e →
        e.kind = .active l → src' = src ∧ l.refreshToken = tok) :
    Inv L { s.send req with handler } := by
  -- no answer in flight bears the new number, and no request but the new one
  have hnew : ∀ id sent, handler.awaits = some (id, sent) → ∀ q ∈ s.responses, q.1 ≠ id := by
    intro id sent hid q hq heq
    rw [hawaits] at hid
    cases hid
    have := (h.responses q hq).1
    omega
  have hmine : ∀ id sent, handler.awaits = some (id, sent) → ∀ req',
      (id, req') ∈ s.requests ++ [(s.next, req)] → req' = req := by
    intro id sent hid req' hreq'
    rw [hawaits] at hid
    cases hid
    rcases List.mem_append.mp hreq' with hold | hnew
    · have := h.requests _ hold
      omega
    · exact congrArg Prod.snd (List.mem_singleton.mp hnew)
  refine
    { parent := h.parent, bridge := h.bridge, requests := ?_, responses := ?_, awaits := ?_,
      assigning := ?_, refreshing := ?_, refreshed := ?_, releasing := ?_, routes := ?_ }
  · intro q hq
    show q.1 < s.next + 1
    rcases List.mem_append.mp hq with hold | hnew
    · have := h.requests q hold
      omega
    · obtain rfl := List.mem_singleton.mp hnew
      exact Nat.lt_succ_self _
  · intro q hq
    obtain ⟨hlt, hne⟩ := h.responses q hq
    refine ⟨Nat.lt_succ_of_lt hlt, fun p hp => ?_⟩
    rcases List.mem_append.mp hp with hold | hnew
    · exact hne p hold
    · obtain rfl := List.mem_singleton.mp hnew
      show s.next ≠ q.1
      omega
  · intro id sent hid
    have hid : handler.awaits = some (id, sent) := hid
    rw [hawaits] at hid
    cases hid
    exact ⟨Nat.lt_succ_self _, Nat.le_refl _⟩
  · intro id sent src up g hh hg
    have hh : handler = .assigning id sent src up := hh
    exact absurd rfl (hnew id sent (by rw [hh]; rfl) _ hg)
  · intro id sent src net tok p hh
    have hh : handler = .refreshing id sent src net tok p := hh
    obtain ⟨hnet, t, ht⟩ := hrefreshing id sent src net tok p hh
    refine ⟨hnet, fun req' hreq' => ⟨t, ?_⟩⟩
    rw [← ht]
    exact hmine id sent (by rw [hh]; rfl) req' hreq'
  · intro id sent src net tok p a hh ha
    have hh : handler = .refreshing id sent src net tok p := hh
    exact absurd rfl (hnew id sent (by rw [hh]; rfl) _ ha)
  · intro id sent src net tok hh
    have hh : handler = .releasing id sent src net tok := hh
    obtain ⟨⟨t, ht⟩, hroute⟩ := hreleasing id sent src net tok hh
    refine ⟨fun req' hreq' => ⟨t, ?_⟩, hroute⟩
    rw [← ht]
    exact hmine id sent (by rw [hh]; rfl) req' hreq'
  · intro net src e l p he hl hexp hp
    obtain ⟨hnet, hheld | hrel⟩ := h.routes net src e l p he hl hexp hp
    · exact ⟨hnet, .inl hheld⟩
    · have hruns : s.bridge.runsSeed net s.now := Router.runsSeed_of_get h.bridge he hl hexp
      rw [hno net hrel] at hruns
      cases hruns

theorem not_released {s : Delegation σ N S C N' S' C'} {net : UInt16}
    (hh : ∀ id sent src tok, s.handler ≠ .releasing id sent src net tok) : ¬ s.Released net := by
  rintro ⟨id, sent, src, tok, heq, -⟩
  exact hh id sent src tok heq

/-- A route that is stored for an answer of the parent, and the handler is idle again. -/
theorem Inv.commit {L : SeedLink} {s : Delegation σ N S C N' S' C'} (h : Inv L s)
    (hh : ∀ id sent src net tok, s.handler ≠ .releasing id sent src net tok)
    {b : Router σ N' S' C'} (hb : b.Wf) {l : SeedLease} {x : Nat}
    (hroutes : ∀ net src e k, b.seedRoutes.get net src = some e → e.kind = .active k →
      (net = l.netId ∧ e.extra.parent = some l ∧ k.expiration = x ∧
        Router.Held L.up net (x + secs 28) s.parent) ∨
      s.bridge.seedRoutes.get net src = some e) (res : SeedResponse) :
    Inv L ({ s with bridge := b }.done res) := by
  refine
    { h with bridge := hb, awaits := nofun, assigning := nofun, refreshing := nofun,
             refreshed := nofun, releasing := nofun, routes := ?_ }
  intro net src e k p he hl hexp hp
  rcases hroutes net src e k he hl with ⟨rfl, hstored, rfl, hheld⟩ | hold
  · rw [hstored] at hp
    cases hp
    exact ⟨rfl, .inl hheld⟩
  · obtain ⟨hnet, hheld | hrel⟩ := h.routes net src e k p hold hl hexp hp
    · exact ⟨hnet, .inl hheld⟩
    · exact absurd hrel (not_released fun id sent src tok => hh id sent src net tok)

section Steps

variable [InterfaceSink σ]

theorem Inv.handleAssign {L : SeedLink} {s : Delegation σ N S C N' S' C'} (h : Inv L s)
    (hidle : s.handler = .idle) (src : UInt16) : Inv L (s.handleAssign src) := by
  have hq := (Router.canDelegateSeed_agedOnly s.bridge src s.now).quiet
  have hb := h.bridge.exec (.at s.now, .canDelegateSeed src)
  have h' : Inv L { s with bridge := (s.bridge.canDelegateSeed src s.now).2 } :=
    h.ofShrinks hb (.of_quiet h.bridge hq)
  have hno : ∀ net, ¬ { s with bridge := (s.bridge.canDelegateSeed src s.now).2 }.Released net :=
    fun net => not_released fun id sent src tok => by simp [hidle]
  simp only [Delegation.handleAssign]
  split
  · exact h'.done (fun net hrel => absurd hrel (hno net)) _
  · split
    · exact h'.done (fun net hrel => absurd hrel (hno net)) _
    · split
      · exact h'.done (fun net hrel => absurd hrel (hno net)) _
      · exact h'.wait (fun net hrel => absurd hrel (hno net)) rfl nofun nofun

theorem Inv.handleRefresh {L : SeedLink} {s : Delegation σ N S C N' S' C'} (h : Inv L s)
    (hidle : s.handler = .idle) (src net : UInt16) (tok : Token) :
    Inv L (s.handleRefresh src net tok) := by
  have hq := (Router.prepareDelegatedRefresh_agedOnly s.bridge src net tok s.now).quiet
  have hb := h.bridge.exec (.at s.now, .prepareDelegatedRefresh src net tok)
  have h' : Inv L { s with bridge := (s.bridge.prepareDelegatedRefresh src net tok s.now).2 } :=
    h.ofShrinks hb (.of_quiet h.bridge hq)
  have hno : ∀ k, ¬ { s with
      bridge := (s.bridge.prepareDelegatedRefresh src net tok s.now).2 }.Released k :=
    fun k => not_released fun id sent src tok => by simp [hidle]
  rcases hres : s.bridge.prepareDelegatedRefresh src net tok s.now with ⟨res, b⟩
  rw [hres] at h' hno
  simp only [Delegation.handleRefresh, hres]
  split
  · exact h'.done (fun k hrel => absurd hrel (hno k)) _
  · exact h'.done (fun k hrel => absurd hrel (hno k)) _
  · -- what is forwarded is the lease of a running route
    obtain ⟨e, l, p, he, hl, hp, hexp, ⟨-, hforward⟩ | ⟨-, -, hreplay⟩⟩ :=
      Router.prepareDelegatedRefresh_ok h.bridge.directory.leases hres
    · cases hforward
      obtain ⟨hnet, -⟩ := h.routes net src e l _ he hl hexp hp
      refine h'.wait (fun k hrel => absurd hrel (hno k)) rfl ?_ nofun
      rintro id sent src' net' tok' p' ⟨⟩
      exact ⟨hnet, _, by rw [hnet]⟩
    · cases hreplay

theorem Inv.handleRelease {L : SeedLink} {s : Delegation σ N S C N' S' C'} (h : Inv L s)
    (hidle : s.handler = .idle) (src net : UInt16) (tok : Token) :
    Inv L (s.handleRelease src net tok) := by
  have hq := (Router.prepareDelegatedRelease_agedOnly s.bridge src net tok s.now).quiet
  have hb := h.bridge.exec (.at s.now, .prepareDelegatedRelease src net tok)
  have h' : Inv L { s with bridge := (s.bridge.prepareDelegatedRelease src net tok s.now).2 } :=
    h.ofShrinks hb (.of_quiet h.bridge hq)
  have hno : ∀ k, ¬ { s with
      bridge := (s.bridge.prepareDelegatedRelease src net tok s.now).2 }.Released k :=
    fun k => not_released fun id sent src tok => by simp [hidle]
  rcases hres : s.bridge.prepareDelegatedRelease src net tok s.now with ⟨res, b⟩
  rw [hres] at h' hno hq
  simp only [Delegation.handleRelease, hres]
  split
  · exact h'.done (fun k hrel => absurd hrel (hno k)) _
  · obtain ⟨e, l, he, hl, hp, hexp, htok⟩ :=
      Router.prepareDelegatedRelease_ok h.bridge.directory.leases hres
    obtain ⟨hnet, -⟩ := h.routes net src e l _ he hl hexp hp
    refine h'.wait (fun k hrel => absurd hrel (hno k)) rfl nofun ?_
    rintro id sent src' net' tok' ⟨⟩
    refine ⟨⟨_, by rw [hnet]⟩, fun src' e' l' he' hl' => ?_⟩
    -- net ids are unique at the bridge
    have he' := Router.Shrinks.of_quiet h.bridge hq net src' e' l' he' hl'
    obtain ⟨rfl, hsrc⟩ := LeaseTable.get_unique h.bridge.directory.leases he he'
    rw [hl] at hl'
    cases hl'
    exact ⟨hsrc, htok⟩

/-- The answer of the parent arrives in time. -/
theorem Inv.proceed {L : SeedLink} {s : Delegation σ N S C N' S' C'} (h : Inv L s)
    {id sent : Nat} {res : SeedResponse} (hawaits : s.handler.awaits = some (id, sent))
    (hnow : s.now ≤ sent + secs delegatedSeedRpcTimeoutSecs) (hres : (id, res) ∈ s.responses) :
    Inv L (s.proceed L res) := by
  have hsent := (h.awaits id sent hawaits).2
  unfold Delegation.proceed
  split
  case h_1 hh =>
    -- the parent refused an assignment
    refine h.done (fun net hrel => absurd hrel (not_released ?_)) _
    simp [hh]
  case h_2 id' sent' src upstreamNet granted hh =>
    -- an assignment: it is registered, or released again if there is no room
    rw [hh] at hawaits
    cases hawaits
    have hheld := h.assigning _ _ _ _ granted hh hres hnow
    have hb := h.bridge.exec (.at s.now, .registerDelegatedSeedNet src
      (leaseOf upstreamNet granted))
    rcases hreg : s.bridge.registerDelegatedSeedNet src (leaseOf upstreamNet granted) s.now
      with ⟨e | a, b⟩
    · have hb : b.Wf := by simpa only [Router.exec, Clock.at, hreg] using hb
      simp only [hreg]
      refine (h.ofShrinks hb (.of_register_error h.bridge hreg)).wait ?_ rfl ?_ ?_
      · intro net hrel
        exact absurd hrel (not_released (by simp [hh]))
      · rintro id' sent' src' net tok p ⟨⟩
      · rintro id' sent' src' net tok ⟨⟩
    · have hb : b.Wf := by simpa only [Router.exec, Clock.at, hreg] using hb
      simp only [hreg]
      refine h.commit (by simp [hh]) hb (l := leaseOf upstreamNet granted)
        (x := s.now + secs granted.assignment.expiresSeconds.toNat) ?_ _
      intro net src' e l he hl
      rcases Router.route_of_register h.bridge hreg he hl with ⟨rfl, rfl, hstored, rfl⟩ | ⟨-, hold⟩
      · refine .inl ⟨rfl, hstored, rfl, hheld.mono ?_⟩
        simp only [secs, delegatedSeedRpcTimeoutSecs] at *
        omega
      · exact .inr hold
  case h_3 hh =>
    -- the rollback of an assignment is not looked at
    refine h.done (fun net hrel => absurd hrel (not_released ?_)) _
    simp [hh]
  case h_4 hh =>
    -- the parent refused a refresh
    refine h.done (fun net hrel => absurd hrel (not_released ?_)) _
    simp [hh]
  case h_5 id' sent' src net tok parent a hh =>
    -- a refresh: it is committed, unless the route has gone in the meantime
    rw [hh] at hawaits
    cases hawaits
    obtain ⟨hnet, hheld⟩ := h.refreshed _ _ _ _ _ _ a hh hres
    have hb := h.bridge.exec (.at s.now, .commitDelegatedRefresh src tok
      (refreshedLease parent a))
    rcases hcommit : s.bridge.commitDelegatedRefresh src tok (refreshedLease parent a) s.now
      with ⟨e | x, b⟩
    · have hb : b.Wf := by simpa only [Router.exec, Clock.at, hcommit] using hb
      have hq := (Router.commitDelegatedRefresh_error hcommit).quiet
      refine (h.ofShrinks hb (.of_quiet h.bridge hq)).done ?_ _
      intro k hrel
      exact absurd hrel (not_released (by simp [hh]))
    · have hb : b.Wf := by simpa only [Router.exec, Clock.at, hcommit] using hb
      refine h.commit (by simp [hh]) hb (l := refreshedLease parent a)
        (x := s.now + secs a.expiresSeconds.toNat) ?_ _
      intro k src' e l he hl
      rcases Router.route_of_commit hcommit he hl with
        ⟨rfl, rfl, hstored, hx, e₀, l₀, he₀, hl₀, hexp₀⟩ | hold
      · have hruns := Router.runsSeed_of_get h.bridge he₀ hl₀ hexp₀
        have hnet' : (refreshedLease parent a).netId = net := hnet
        rw [hnet'] at hruns ⊢
        refine .inl ⟨rfl, hstored, hx, (hheld hnow hruns).mono ?_⟩
        simp only [secs, delegatedSeedRpcTimeoutSecs] at *
        omega
      · exact .inr hold
  case h_6 id' sent' src net tok e hh =>
    -- the parent refused, so it has not performed the release
    rw [hh] at hawaits
    cases hawaits
    refine h.done ?_ _
    rintro k ⟨i, t, src', tok', hh', -, hdone, -⟩
    rw [hh] at hh'
    cases hh'
    cases hdone _ hres rfl
  case h_7 id' sent' src net tok u hh =>
    -- a release: the route is stopped before the handler is idle
    have hroute := (h.releasing _ _ _ _ _ hh).2
    have hb := h.bridge.exec (.at s.now, .commitDelegatedRelease src net tok)
    have hshrinks := Router.Shrinks.exec h.bridge (.at s.now)
      (.commitDelegatedRelease src net tok) rfl
    refine (h.ofShrinks hb hshrinks).done ?_ _
    rintro k ⟨i, t, src', tok', hh', -⟩
    have hh' : s.handler = .releasing i t src' k tok' := hh'
    rw [hh] at hh'
    cases hh'
    exact Router.commitRelease_stops h.bridge hroute s.now
  case h_8 => exact h

omit [InterfaceSink σ] in
theorem Inv.timeOut {L : SeedLink} {s : Delegation σ N S C N' S' C'} (h : Inv L s)
    (hmeets : s.meets L .timeout) : Inv L s.timeOut := by
  unfold Delegation.timeOut
  split
  case h_1 => exact h
  case h_5 hh =>
    refine h.done ?_ _
    rintro net ⟨id, sent, src, tok, hh', hfree, -⟩
    rw [hh] at hh'
    cases hh'
    simp only [meets, hh, Bool.or_eq_true, Bool.not_eq_true'] at hmeets
    rcases hmeets with hruns | hsome
    · exact hruns
    · -- the parent still has the lease
      rw [LeaseTable.get_eq_none_of_not_containsKey L.up hfree] at hsome
      cases hsome
  all_goals
    rename_i hh
    refine h.done (fun net hrel => absurd hrel (not_released ?_)) _
    simp [hh]

/-! ## Steps of the parent -/

/-- The parent acts on its own. -/
theorem Inv.parentOp {L : SeedLink} {s : Delegation σ N S C N' S' C'} (h : Inv L s)
    {op : Op σ} (hop : ownOp L.up s.parent op) (hmeets : s.meets L (.parentOp op)) :
    Inv L { s with parent := s.parent.exec (.at s.now, op) } := by
  have hroot : Router.rootOp op := by
    simp only [ownOp, Bool.and_eq_true] at hop
    exact hop.1.1
  refine { h with parent := h.parent.exec _, assigning := ?_, refreshed := ?_, routes := ?_ }
  · intro id sent src up g hh hg hnow
    exact (h.assigning id sent src up g hh hg hnow).ownOp h.parent (lt_of_timeout hnow _) hop
  · intro id sent src net tok p a hh ha
    obtain ⟨hnet, hheld⟩ := h.refreshed id sent src net tok p a hh ha
    exact ⟨hnet, fun hnow hruns => (hheld hnow hruns).ownOp h.parent (lt_of_timeout hnow _) hop⟩
  · intro net src e l p he hl hexp hp
    have hexp : s.now < l.expiration := hexp
    obtain ⟨hnet, hheld | ⟨id, sent, src', tok, hh, hfree, hdone, hgone⟩⟩ :=
      h.routes net src e l p he hl hexp hp
    · exact ⟨hnet, .inl (hheld.ownOp h.parent (by omega) hop)⟩
    · refine ⟨hnet, .inr ⟨id, sent, src', tok, hh, ?_, hdone, hgone⟩⟩
      refine Router.not_containsKey_exec h.parent hroot hfree fun k a hk ha => ?_
      subst hk
      have hh : s.handler = .releasing id sent src' net tok := hh
      have ha : (s.parent.requestSeedNetAssign k s.now).1 = .ok a := ha
      have hruns := Router.runsSeed_of_get h.bridge he hl hexp
      simpa [meets, wouldReassign, hh, ha, hruns] using hmeets

omit [InterfaceSink σ] in
/-- What a step does not keep, it releases. -/
theorem release_of_not_keeps {up net : UInt16} {r : Router σ N S C} {now : Nat}
    {req : SeedRequest} (h : ¬ Router.keeps up net r now req) :
    ∃ tok, req = .release net tok ∧ r.holdsToken up net tok now := by
  cases req with
  | assign => exact absurd trivial h
  | refresh => exact absurd trivial h
  | release k tok =>
    simp only [Router.keeps, Classical.not_imp, Bool.not_eq_false] at h
    obtain ⟨rfl, hholds⟩ := h
    exact ⟨tok, rfl, hholds⟩

omit [InterfaceSink σ] in
theorem holdsToken_iff {up net : UInt16} {tok : Token} {r : Router σ N S C} {now : Nat} :
    r.holdsToken up net tok now ↔ ∃ e l, r.seedRoutes.get net up = some e ∧
      e.kind = .active l ∧ now < l.expiration ∧ l.refreshToken = tok := by
  unfold Router.holdsToken
  constructor
  · intro h
    split at h
    · next key scope extra l he =>
      simp only [Bool.and_eq_true, decide_eq_true_eq] at h
      exact ⟨_, l, he, rfl, h⟩
    · cases h
  · rintro ⟨⟨key, scope, extra, kind⟩, l, he, rfl, hexp, htok⟩
    simp [he, hexp, htok]

/-- What is left at the parent after a release that it performs: nobody has the net id. -/
theorem release_performed {up net : UInt16} {tok : Token} {r : Router σ N S C} {now : Nat}
    (hr : r.Wf) (h : r.holdsToken up net tok now) :
    (r.releaseSeedNetAssignment up net tok now).1 = .ok () ∧
      (r.exec (.at now, .releaseSeedNetAssignment up net tok)).seedRoutes.containsKey net =
        false := by
  obtain ⟨e, l, he, hl, hexp, rfl⟩ := holdsToken_iff.mp h
  have hu := hr.directory.leases
  have hgc : (r.seedRoutes.gc now).get net up = some e :=
    (LeaseTable.aged_get_gc (LeaseTable.ids_nodup hu) now net up).of_running he hl hexp
  have hval := LeaseKind.validateToken_current hl hexp false
  have hget : (r.gcSeed now).seedRoutes.get net up = some e := hgc
  refine ⟨by simp [Router.releaseSeedNetAssignment, hget, hval], ?_⟩
  have hr' := hr.exec (.at now, .releaseSeedNetAssignment up net l.refreshToken)
  by_contra hin
  rw [Bool.not_eq_false, LeaseTable.containsKey, List.any_eq_true] at hin
  obtain ⟨e', he', hkey⟩ := hin
  have hkey : e'.key = net := by simpa using hkey
  have hget' := LeaseTable.get_of_mem (LeaseTable.ids_nodup hr'.directory.leases) he'
  rw [hkey] at hget'
  have hexec : (r.exec (.at now, .releaseSeedNetAssignment up net l.refreshToken)).seedRoutes =
      ((r.seedRoutes.gc now).setKind net up (.active l)).remove net up := by
    show (r.releaseSeedNetAssignment up net l.refreshToken now).2.seedRoutes = _
    simp only [Router.releaseSeedNetAssignment, hget, hval]
    rfl
  rw [hexec, LeaseTable.get_remove] at hget'
  split at hget'
  · cases hget'
  · next hne =>
    -- another requester would have the same net id
    rw [LeaseTable.get_setKind, if_neg hne] at hget'
    have hu' := hu.sublist (r.seedRoutes.keys_gc_sublist now)
    have hsame := LeaseTable.byKey_of_get hu' hget'
    rw [LeaseTable.byKey_of_get hu' hgc] at hsame
    cases hsame
    exact hne ⟨rfl, (LeaseTable.get_id hgc).2⟩

/-- The parent performs a release that the handler waits for. -/
theorem Inv.release_awaited {L : SeedLink} {s : Delegation σ N S C N' S' C'} (h : Inv L s)
    {id : Nat} {net : UInt16} {tok : Token} (hmem : (id, .release net tok) ∈ s.requests)
    (hholds : s.parent.holdsToken L.up net tok s.now) (hrel : s.handler.releases id) :
    Released { s with
      parent := s.parent.exec (.at s.now, .releaseSeedNetAssignment L.up net tok)
      requests := s.requests.filter fun p => p.1 ≠ id
      responses := s.responses ++ [(id, answer L s.parent s.now (.release net tok))] } net := by
  obtain ⟨hok, hfree⟩ := release_performed h.parent hholds
  rcases hh : s.handler with _ | _ | _ | _ | ⟨i, sent, src, net', t⟩
  case releasing =>
    simp only [SeedHandler.releases, hh, decide_eq_true_eq] at hrel
    subst hrel
    obtain ⟨t', ht⟩ := (h.releasing i sent src net' t hh).1 _ hmem
    cases ht
    refine ⟨i, sent, src, t, rfl, hfree, ?_, ?_⟩
    · intro q hq heq
      rcases List.mem_append.mp hq with hq | hq
      · -- no answer bears the number of a request that is still there
        exact absurd heq.symm ((h.responses q hq).2 _ hmem)
      · obtain rfl := List.mem_singleton.mp hq
        simp [answer, hok]
    · intro q hq
      simpa using (List.mem_filter.mp hq).2
  all_goals simp [SeedHandler.releases, hh] at hrel

/-- The parent serves a request of the bridge. -/
theorem Inv.serve {L : SeedLink} {s : Delegation σ N S C N' S' C'} (h : Inv L s) {id : Nat}
    {req : SeedRequest} (hfind : s.requests.find? (fun p => p.1 = id) = some (id, req))
    (hmeets : s.meets L (.serve id)) :
    Inv L { s with
      parent := s.parent.exec (.at s.now, req.op L.up)
      requests := s.requests.filter fun p => p.1 ≠ id
      responses := s.responses ++ [(id, answer L s.parent s.now req)] } := by
  have hmem := List.mem_of_find?_eq_some hfind
  have hroot : Router.rootOp (req.op L.up : Op σ) := by cases req <;> rfl
  -- a release that is performed is awaited, or it concerns no route
  have hrelease : ∀ net, ¬ Router.keeps L.up net s.parent s.now req → s.promised net →
      s.handler.releases id := by
    intro net hkeeps hpromised
    obtain ⟨tok, rfl, hholds⟩ := release_of_not_keeps hkeeps
    simpa [meets, hfind, hholds, hpromised] using hmeets
  refine
    { parent := h.parent.exec _, bridge := h.bridge, requests := ?_, responses := ?_,
      awaits := h.awaits, assigning := ?_, refreshing := ?_, refreshed := ?_, releasing := ?_,
      routes := ?_ }
  · intro q hq
    exact h.requests q (List.mem_of_mem_filter hq)
  · intro q hq
    rcases List.mem_append.mp hq with hq | hq
    · obtain ⟨hlt, hne⟩ := h.responses q hq
      exact ⟨hlt, fun p hp => hne p (List.mem_of_mem_filter hp)⟩
    · obtain rfl := List.mem_singleton.mp hq
      refine ⟨h.requests _ hmem, fun p hp => ?_⟩
      simpa using (List.mem_filter.mp hp).2
  · intro i sent src up g hh hg hnow
    have hsent := (h.awaits i sent (by rw [hh]; rfl)).2
    rcases List.mem_append.mp hg with hg | hg
    · -- an answer that was there before
      have hheld := h.assigning i sent src up g hh hg hnow
      refine hheld.serve h.parent (lt_of_timeout hnow _) ?_
      by_contra hkeeps
      have hh : s.handler = .assigning i sent src up := hh
      have hpromised : s.promised g.assignment.netId := by
        simp only [promised, hh, Bool.or_eq_true, List.any_eq_true]
        exact .inr ⟨_, hg, by simp [hnow]⟩
      have hrel := hrelease g.assignment.netId hkeeps hpromised
      simp [hh, SeedHandler.releases] at hrel
    · -- the answer to an assignment
      obtain ⟨rfl, hans⟩ := Prod.mk.inj (List.mem_singleton.mp hg)
      cases req with
      | refresh => cases hans
      | release => cases hans
      | assign =>
        rcases hres : (s.parent.requestSeedNetAssign L.up s.now).1 with e | a
        · simp [answer, hres, Except.map] at hans
        · simp only [answer, hres, Except.map, SeedResponse.assigned.injEq,
            Except.ok.injEq] at hans
          subst hans
          refine (Router.held_of_assign hres).mono ?_
          simp only [secs, tombstoneDurationSecs]
          omega
  · intro i sent src net tok p hh
    obtain ⟨hnet, hkind⟩ := h.refreshing i sent src net tok p hh
    exact ⟨hnet, fun r hr => hkind r (List.mem_of_mem_filter hr)⟩
  · intro i sent src net tok p a hh ha
    have hsent := (h.awaits i sent (by rw [hh]; rfl)).2
    rcases List.mem_append.mp ha with ha | ha
    · obtain ⟨hnet, hheld⟩ := h.refreshed i sent src net tok p a hh ha
      refine ⟨hnet, fun hnow hruns => (hheld hnow hruns).serve h.parent (lt_of_timeout hnow _) ?_⟩
      by_contra hkeeps
      have hh : s.handler = .refreshing i sent src net tok p := hh
      have hruns : s.bridge.runsSeed net s.now := hruns
      have hrel := hrelease net hkeeps (by simp [promised, hruns])
      simp [hh, SeedHandler.releases] at hrel
    · -- the answer to a refresh of this net id
      obtain ⟨rfl, hans⟩ := Prod.mk.inj (List.mem_singleton.mp ha)
      obtain ⟨t, rfl⟩ := (h.refreshing i sent src net tok p hh).2 req hmem
      simp only [answer, SeedResponse.refreshed.injEq] at hans
      obtain ⟨hnet, hheld⟩ := Router.held_of_refresh hans.symm
      refine ⟨hnet, fun _ _ => hheld.mono ?_⟩
      omega
  · intro i sent src net tok hh
    obtain ⟨hkind, hroute⟩ := h.releasing i sent src net tok hh
    exact ⟨fun r hr => hkind r (List.mem_of_mem_filter hr), hroute⟩
  · intro net src e l p he hl hexp hp
    have hexp : s.now < l.expiration := hexp
    obtain ⟨hnet, hheld | ⟨i, sent, src', tok, hh, hfree, hdone, hgone⟩⟩ :=
      h.routes net src e l p he hl hexp hp
    · refine ⟨hnet, ?_⟩
      by_cases hkeeps : Router.keeps L.up net s.parent s.now req
      · exact .inl (hheld.serve h.parent (by omega) hkeeps)
      · -- the release of this very route, and it is awaited
        right
        obtain ⟨t, rfl, hholds⟩ := release_of_not_keeps hkeeps
        have hruns := Router.runsSeed_of_get h.bridge he hl hexp
        have hrel := hrelease net hkeeps (by simp [promised, hruns])
        exact h.release_awaited hmem hholds hrel
    · refine ⟨hnet, .inr ⟨i, sent, src', tok, hh, ?_, ?_, ?_⟩⟩
      · refine Router.not_containsKey_exec h.parent hroot hfree fun k a hk ha => ?_
        cases req with
        | refresh => cases hk
        | release => cases hk
        | assign =>
          cases hk
          have ha : (s.parent.requestSeedNetAssign L.up s.now).1 = .ok a := ha
          have hruns := Router.runsSeed_of_get h.bridge he hl hexp
          simpa [meets, hfind, wouldReassign, hh, ha, hruns] using hmeets
      · intro q hq heq
        rcases List.mem_append.mp hq with hq | hq
        · exact hdone q hq heq
        · obtain rfl := List.mem_singleton.mp hq
          exact absurd heq (hgone _ hmem)
      · exact fun q hq => hgone q (List.mem_of_mem_filter hq)

/-! ## Runs -/

omit [InterfaceSink σ] in
/-- The handlers do not look at the other answers in flight. -/
theorem proceed_responses (L : SeedLink) (s : Delegation σ N S C N' S' C') (res : SeedResponse)
    (responses : List (Nat × SeedResponse)) :
    { s with responses }.proceed L res = { s.proceed L res with responses } := by
  obtain ⟨now, parent, bridge, handler, next, requests, old, reply⟩ := s
  rcases res with (e | g) | (e | a) | (e | u)
  case assigned.ok =>
    cases handler with
    | assigning =>
      simp only [Delegation.proceed]
      split <;> rfl
    | _ => rfl
  all_goals cases handler <;> rfl

omit [InterfaceSink σ] in
theorem responses_proceed (L : SeedLink) (s : Delegation σ N S C N' S' C') (res : SeedResponse) :
    (s.proceed L res).responses = s.responses := by
  have h := congrArg Delegation.responses (proceed_responses L s res s.responses)
  exact h

/-- An answer that is not taken for that to another RPC: it is dropped, or the handler waits
for it. -/
theorem exec_respond {L : SeedLink} {s : Delegation σ N S C N' S' C'} {id : Nat}
    (hmeets : s.meets L (.respond id)) :
    ∃ responses, (∀ q ∈ responses, q ∈ s.responses) ∧
      (s.exec L (.respond id) = { s with responses } ∨
        ∃ res sent, (id, res) ∈ s.responses ∧ s.handler.awaits = some (id, sent) ∧
          s.now ≤ sent + secs delegatedSeedRpcTimeoutSecs ∧
          s.exec L (.respond id) = { s.proceed L res with responses }) := by
  have hsub : ∀ q ∈ s.responses.filter fun p => p.1 ≠ id, q ∈ s.responses :=
    fun q hq => List.mem_of_mem_filter hq
  simp only [Delegation.exec]
  split
  · exact ⟨s.responses, fun q hq => hq, .inl rfl⟩
  · next id' res hfind =>
    obtain rfl : id' = id := by simpa using List.find?_some hfind
    refine ⟨_, hsub, ?_⟩
    split
    · exact .inl rfl
    · next awaited sent hawaits =>
      split
      · next hguard =>
        obtain ⟨hport, hnow⟩ := hguard
        split
        · exact .inl rfl
        · next res' htakes =>
          by_cases hown : awaited = id'
          · subst hown
            rw [SeedRpc.takes, if_pos rfl] at htakes
            cases htakes
            exact .inr ⟨res, sent, List.mem_of_find?_eq_some hfind, hawaits, hnow,
              proceed_responses L s res _⟩
          · rw [SeedRpc.takes, if_neg hown] at htakes
            simp [meets, crosses, hawaits, hfind, hown, hport, hnow, htakes] at hmeets
      · exact .inl rfl

/-- One step that meets the condition. -/
theorem Inv.exec {L : SeedLink} {s : Delegation σ N S C N' S' C'} (h : Inv L s)
    (l : DelegationLabel σ) (hmeets : s.meets L l) : Inv L (s.exec L l) := by
  cases l with
  | tick d => exact h.tick d
  | assign src =>
    simp only [Delegation.exec]
    split
    · next hidle => exact h.handleAssign hidle src
    · exact h
  | refresh src net tok =>
    simp only [Delegation.exec]
    split
    · next hidle => exact h.handleRefresh hidle src net tok
    · exact h
  | release src net tok =>
    simp only [Delegation.exec]
    split
    · next hidle => exact h.handleRelease hidle src net tok
    · exact h
  | serve id =>
    simp only [Delegation.exec]
    split
    · exact h
    · next id' req hfind =>
      have hid : id' = id := by simpa using List.find?_some hfind
      subst hid
      exact h.serve hfind hmeets
  | respond id =>
    obtain ⟨responses, hsub, hdrop | ⟨res, sent, hres, hawaits, hnow, htake⟩⟩ :=
      exec_respond hmeets
    · rw [hdrop]
      exact h.forget (fun q hq => hq) hsub
    · rw [htake]
      refine (h.proceed hawaits hnow hres).forget (fun q hq => hq) ?_
      rw [responses_proceed]
      exact hsub
  | lose id =>
    exact h.forget (fun q hq => List.mem_of_mem_filter hq) fun q hq => List.mem_of_mem_filter hq
  | timeout => exact h.timeOut hmeets
  | parentOp op =>
    simp only [Delegation.exec]
    split
    · next hop => exact h.parentOp hop hmeets
    · exact h
  | bridgeOp op =>
    simp only [Delegation.exec]
    split
    · next hop =>
      refine h.ofShrinks (h.bridge.exec _) (Router.Shrinks.exec h.bridge _ op ?_)
      cases op <;> first | rfl | cases hop
    · exact h

/-- No step of the run comes between the two halves of a release. -/
def Meets (L : SeedLink) (s : Delegation σ N S C N' S' C') (labels : List (DelegationLabel σ)) :
    Prop :=
  ¬ Happens (Delegation.exec L) (fun s l => s.meets L l = false) s labels

instance (L : SeedLink) (s : Delegation σ N S C N' S' C') (labels : List (DelegationLabel σ)) :
    Decidable (s.Meets L labels) :=
  inferInstanceAs (Decidable (¬ Happens _ _ _ _))

theorem Inv.run {L : SeedLink} {s : Delegation σ N S C N' S' C'} (h : Inv L s)
    (labels : List (DelegationLabel σ)) (hmeets : s.Meets L labels) :
    Inv L (runAll (Delegation.exec L) s labels) :=
  runAll_unless (I := Inv L) (fun _ l hs hl => hs.exec l (by simpa using hl)) h hmeets

end Steps

end Delegation

end Ergot
