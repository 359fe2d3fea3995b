import Ergot.Router.Holder

/-!
# A bridge as a holder

A bridge refreshes the lease it has from its parent when its own downstream holder
refreshes: `handle_refresh_delegated` (services.rs) prepares, asks the parent, and
commits the answer. The token it presents is not kept by a client but stored with its
route, so the bridge takes the place of the holder of `Ergot.Lib.TokenWindow` only as
long as the two agree (`Bridged.Inv`): the stored token changes when the commit
succeeds, and then to the one the parent's answer brought.

`token_rotation` collects what this means for all who hold a lease.
-/

namespace Ergot

open TokenWindow (Client)
open Runs

/-- A bridge and its parent, seen from a net id that the parent leased to it. -/
structure Bridged (σ : Type) (N S C N' S' C' : Nat) where
  parent : Router σ N S C
  /-- The bridge as a holder, with the network up to the parent. -/
  client : Client Token
  bridge : Router σ N' S' C'
  /-- The downstream request (segment and token) that waits for the parent. -/
  pending : Option (UInt16 × Token)

/-- A step of the two. -/
inductive BridgedLabel (σ : Type)
  /-- A refresh request from a downstream segment. -/
  | refresh (clock : Clock) (src : UInt16) (tok : Token)
  /-- The bridge stops waiting for the parent, or is refused. -/
  | timeout
  /-- The answer of the parent to request `id`. -/
  | response (id : Nat) (clock : Clock) (lease : SeedLease)
  /-- The parent serves request `id`. -/
  | serve (id : Nat) (a : Clock × Op σ)
  | parentOp (a : Clock × Op σ)
  | bridgeOp (a : Clock × Op σ)

namespace Bridged

variable {σ : Type} {N S C N' S' C' : Nat}

/-- The bridge operation stores a parent lease of `net`. -/
def stores (net : UInt16) (r : Router σ N S C) : Clock × Op σ → Bool
  | (clock, .registerDelegatedSeedNet src parent) =>
    match (r.registerDelegatedSeedNet src parent clock.now).1 with
    | .ok _ => parent.netId = net
    | .error _ => false
  | (_, .commitDelegatedRefresh _ _ parent) => parent.netId = net
  | _ => false

variable [InterfaceSink σ]

/-- `handle_refresh_delegated`, with the network between its steps. `up` is the segment
of the parent on which the bridge is. The handler is one task: while it waits it takes
no other request. -/
def exec (up net : UInt16) (s : Bridged σ N S C N' S' C') :
    BridgedLabel σ → Bridged σ N S C N' S' C'
  | .refresh clock src tok =>
    if s.pending.isSome then s
    else
      let (prepared, bridge) := s.bridge.prepareDelegatedRefresh src net tok clock.now
      match prepared with
      | .ok (.forward parent) =>
        { s with bridge, client := s.client.ask parent.refreshToken, pending := some (src, tok) }
      | _ => { s with bridge }
  | .timeout => { s with client := s.client.giveUp, pending := none }
  | .response id clock lease =>
    if (id, lease.refreshToken) ∈ s.client.responses ∧ s.client.outstanding = some id
        ∧ lease.netId = net then
      match s.pending with
      | none => s
      | some (src, tok) =>
        let (committed, bridge) := s.bridge.commitDelegatedRefresh src tok lease clock.now
        match committed with
        | .ok _ =>
          { s with bridge, client := s.client.receive lease.refreshToken, pending := none }
        | .error _ => { s with bridge, client := s.client.giveUp, pending := none }
    else s
  | .serve id a =>
    let p := TokenWindow.exec (Router.seedServer up net) (s.parent, s.client) (.serve id a)
    { s with parent := p.1, client := p.2 }
  | .parentOp a =>
    let p := TokenWindow.exec (Router.seedServer up net) (s.parent, s.client) (.other a)
    { s with parent := p.1, client := p.2 }
  | .bridgeOp a => if stores net s.bridge a then s else { s with bridge := s.bridge.exec a }

/-- The stored token is the holder's. -/
def Stored (net : UInt16) (bridge : Router σ N' S' C') (tok : Token) : Prop :=
  ∀ src e p, bridge.seedRoutes.get net src = some e → e.extra.parent = some p →
    p.refreshToken = tok

structure Inv (up net : UInt16) (s : Bridged σ N S C N' S' C') : Prop where
  holder : TokenWindow.SysInv (Router.seedServer up net) (s.parent, s.client)
  bridge : s.bridge.Wf
  stored : Stored net s.bridge s.client.token

omit [InterfaceSink σ] in
/-- Aging does not touch the stored lease. -/
theorem Stored.of_quiet {net : UInt16} {r r' : Router σ N' S' C'} {tok : Token} {now : Nat}
    (h : Stored net r tok) (hr : r.Wf) (hq : Router.Quiet now r r') : Stored net r' tok := by
  intro src e p he hp
  have haged := hq.seed hr.directory.leases net src
  rw [he] at haged
  obtain ⟨e', he', -, heq⟩ := haged.of_some
  refine h src e' p he' ?_
  rw [heq] at hp
  exact hp

/-- Nor does any operation that stores no lease of this net id. -/
theorem Stored.exec {net : UInt16} {r : Router σ N' S' C'} {tok : Token}
    (h : Stored net r tok) (hr : r.Wf) {a : Clock × Op σ} (hno : stores net r a = false) :
    Stored net (r.exec a) tok := by
  obtain ⟨clock, op⟩ := a
  intro src e p he hp
  have heffect := Router.seed_effect hr.directory clock op net src
  rw [he] at heffect
  generalize ho : some e = o at heffect
  cases heffect with
  | aged haged =>
    subst ho
    obtain ⟨e', he', -, heq⟩ := haged.of_some
    rw [heq] at hp
    exact h src e' p he' hp
  | assigned =>
    cases ho
    cases hp
  | renewed he' =>
    cases ho
    exact h src _ p he' hp
  | lost _ he' =>
    cases ho
    exact h src _ p he' hp
  | released => cases ho
  | releasedDelegated => cases ho
  | replaced => cases ho
  | delegated hok hk => simp [stores, hok, hk] at hno
  | committed hk => simp [stores, hk] at hno

omit [InterfaceSink σ] in
/-- A commit stores the lease it was given, and net ids are unique. -/
theorem stored_of_commit {r r' : Router σ N' S' C'} (hr : r.Wf) {src : UInt16} {tok : Token}
    {lease : SeedLease} {now : Nat} {a : SeedNetAssignment}
    (h : r.commitDelegatedRefresh src tok lease now = (.ok a, r')) :
    Stored lease.netId r' lease.refreshToken := by
  obtain ⟨e, l, p, he, -, -, -, -, hget⟩ := Router.commitDelegatedRefresh_get h
  intro src' e' p' he' hp'
  rw [hget] at he'
  split at he'
  · cases he'
    cases hp'
    rfl
  · next hother =>
    -- another requester would hold the same net id
    obtain ⟨-, hsrc⟩ := LeaseTable.get_unique hr.directory.leases he he'
    exact absurd ⟨rfl, hsrc⟩ hother

/-- Every step keeps the bridge in the holder's place. -/
theorem Inv.exec {up net : UInt16} {s : Bridged σ N S C N' S' C'} (h : Inv up net s)
    (l : BridgedLabel σ) (hfresh : (s.exec up net l).parent.rng.Distinct) :
    Inv up net (s.exec up net l) := by
  have hS := Router.seedServer_lawful up net (σ := σ) (N := N) (S := S) (C := C)
  cases l with
  | refresh clock src tok =>
    simp only [Bridged.exec]
    split
    · exact h
    · have hq := (Router.prepareDelegatedRefresh_agedOnly s.bridge src net tok clock.now).quiet
      have hwf := h.bridge.exec (clock, .prepareDelegatedRefresh src net tok)
      have hstored := h.stored.of_quiet h.bridge hq
      split
      · next parent hprep =>
        rcases hres : s.bridge.prepareDelegatedRefresh src net tok clock.now with ⟨res, r'⟩
        rw [hres] at hprep
        obtain rfl : res = .ok (.forward parent) := hprep
        -- what is forwarded is the stored lease
        obtain ⟨e, l, p, he, -, hp, -, ⟨-, hforward⟩ | ⟨-, -, hreplay⟩⟩ :=
          Router.prepareDelegatedRefresh_ok h.bridge.directory.leases hres
        · cases hforward
          have htok := h.stored src e parent he hp
          rw [← hres]
          refine { holder := ⟨h.holder.server, ?_⟩, bridge := hwf, stored := ?_ }
          · rw [htok]
            exact h.holder.client.ask
          · have hsame : (s.client.ask parent.refreshToken).token = s.client.token := by
              unfold Client.ask
              split <;> rfl
            show Stored net _ (s.client.ask parent.refreshToken).token
            rw [hsame]
            exact hstored
        · cases hreplay
      · exact { holder := h.holder, bridge := hwf, stored := hstored }
  | timeout =>
    exact { holder := ⟨h.holder.server, h.holder.client.giveUp⟩, bridge := h.bridge,
            stored := h.stored }
  | response id clock lease =>
    simp only [Bridged.exec]
    split
    · next hguard =>
      obtain ⟨hresp, hout, hnet⟩ := hguard
      subst hnet
      split
      · exact h
      · next src tok hpending =>
        have hwf := h.bridge.exec (clock, .commitDelegatedRefresh src tok lease)
        rcases hres : s.bridge.commitDelegatedRefresh src tok lease clock.now with ⟨e | a, r'⟩
        · have hwf : r'.Wf := by
            simp only [Router.exec, hres] at hwf
            exact hwf
          exact { holder := ⟨h.holder.server, h.holder.client.giveUp⟩, bridge := hwf,
                  stored :=
                    h.stored.of_quiet h.bridge (Router.commitDelegatedRefresh_error hres).quiet }
        · have hwf : r'.Wf := by
            simp only [Router.exec, hres] at hwf
            exact hwf
          exact { holder := ⟨h.holder.server, h.holder.client.receive hresp hout⟩, bridge := hwf,
                  stored := stored_of_commit h.bridge hres }
    · exact h
  | serve id a =>
    have hholder := h.holder.exec hS (.serve id a) hfresh
    refine { holder := hholder, bridge := h.bridge, stored := ?_ }
    have hsame : (TokenWindow.exec (Router.seedServer up net) (s.parent, s.client)
        (.serve id a)).2.token = s.client.token := by
      simp only [TokenWindow.exec]
      split
      · rfl
      · split
        · exact (TokenWindow.Inv.reply_same _ _ _).2.2.1
        · rfl
    show Stored net s.bridge (TokenWindow.exec _ _ _).2.token
    rw [hsame]
    exact h.stored
  | parentOp a =>
    have hholder := h.holder.exec hS (.other a) hfresh
    refine { holder := hholder, bridge := h.bridge, stored := ?_ }
    have hsame : (TokenWindow.exec (Router.seedServer up net) (s.parent, s.client)
        (.other a)).2.token = s.client.token := by
      simp only [TokenWindow.exec]
      split <;> rfl
    show Stored net s.bridge (TokenWindow.exec _ _ _).2.token
    rw [hsame]
    exact h.stored
  | bridgeOp a =>
    simp only [Bridged.exec]
    split
    · exact h
    · next hno =>
      exact { holder := h.holder, bridge := h.bridge.exec a,
              stored := h.stored.exec h.bridge (Bool.not_eq_true _ ▸ hno) }

/-- The parent draws tokens only when it acts. -/
theorem distinct_of_exec {up net : UInt16} {s : Bridged σ N S C N' S' C'}
    {l : BridgedLabel σ} (h : (s.exec up net l).parent.rng.Distinct) :
    s.parent.rng.Distinct := by
  have hS := Router.seedServer_lawful up net (σ := σ) (N := N) (S := S) (C := C)
  cases l with
  | serve id a => exact TokenWindow.fresh_of_exec hS (s.parent, s.client) (.serve id a) h
  | parentOp a => exact TokenWindow.fresh_of_exec hS (s.parent, s.client) (.other a) h
  | timeout => exact h
  | refresh clock src tok =>
    simp only [Bridged.exec] at h
    split at h
    · exact h
    · split at h <;> exact h
  | response id clock lease =>
    simp only [Bridged.exec] at h
    split at h
    · split at h
      · exact h
      · split at h <;> exact h
    · exact h
  | bridgeOp a =>
    simp only [Bridged.exec] at h
    split at h <;> exact h

theorem Inv.run {up net : UInt16} {s : Bridged σ N S C N' S' C'} (h : Inv up net s)
    (labels : List (BridgedLabel σ))
    (hfresh : (runAll (Bridged.exec up net) s labels).parent.rng.Distinct) :
    Inv up net (runAll (Bridged.exec up net) s labels) := by
  induction labels using List.reverseRecOn with
  | nil => exact h
  | append_singleton labels l ih =>
    rw [runAll_append] at hfresh ⊢
    exact (ih (distinct_of_exec hfresh)).exec l hfresh

/-- A bridge that has just registered the lease its parent just gave it. -/
theorem Inv.start {up net : UInt16} {tok : Token} {parent : Router σ N S C} (hp : parent.Wf)
    {grant : Clock × Op σ} (hgrant : Router.SeedGranted up net tok parent grant)
    {bridge : Router σ N' S' C'} (hb : bridge.Wf) {src : UInt16} {lease : SeedLease}
    {clock : Clock} {a : SeedNetAssignment} (hnet : lease.netId = net)
    (htok : lease.refreshToken = tok)
    (hreg : (bridge.registerDelegatedSeedNet src lease clock.now).1 = .ok a) :
    Inv up net ⟨parent.exec grant, .start tok,
      bridge.exec (clock, .registerDelegatedSeedNet src lease), none⟩ := by
  subst hnet htok
  have hwf := hb.exec (clock, .registerDelegatedSeedNet src lease)
  refine { holder := hgrant.start hp, bridge := hwf, stored := ?_ }
  intro k e p he hstored
  have he : (bridge.registerDelegatedSeedNet src lease clock.now).2.seedRoutes.get lease.netId k
    = some e := he
  rcases hres : bridge.registerDelegatedSeedNet src lease clock.now with ⟨res, r'⟩
  rw [hres] at hreg he
  obtain rfl : res = .ok a := hreg
  obtain ⟨via, -, hget⟩ := Router.registerDelegatedSeedNet_get hres
  rw [hget, if_pos rfl] at he
  split at he
  · cases he
    cases hstored
    rfl
  · cases he

end Bridged

namespace Router

variable {σ : Type} {N S C N' S' C' : Nat} [InterfaceSink σ]

/-- Token rotation never strands a holder: not at a root or a bridge that refreshes seed
routes, not at a router that refreshes claims, and not a bridge at its parent. Requests
may be lost, duplicated and late. Responses may be lost, and a holder takes one only
while the request that it answers is outstanding, so a late or second one changes
nothing. No token is drawn twice. -/
theorem token_rotation :
    (∀ (r : Router σ N S C) (before : List (Clock × Op σ)) (src net : UInt16) (tok : Token)
        (grant : Clock × Op σ) (labels : List (TokenWindow.Label (Clock × Op σ) Token)),
      Initial r → SeedGranted src net tok (runAll exec r before) grant →
      (runAll (TokenWindow.exec (seedServer src net))
        ((runAll exec r before).exec grant, .start tok) labels).1.rng.Distinct →
      SeedSafe src net (runAll (TokenWindow.exec (seedServer src net))
        ((runAll exec r before).exec grant, .start tok) labels)) ∧
    (∀ (r : Router σ N S C) (before : List (Clock × Op σ)) (src : UInt16) (node : UInt8)
        (tok : Token) (grant : Clock × Op σ)
        (labels : List (TokenWindow.Label (Clock × Op σ) Token)),
      Initial r → ClaimedAnew src node tok (runAll exec r before) grant →
      (runAll (TokenWindow.exec (claimServer src node))
        ((runAll exec r before).exec grant, .start tok) labels).1.rng.Distinct →
      ClaimSafe src node (runAll (TokenWindow.exec (claimServer src node))
        ((runAll exec r before).exec grant, .start tok) labels)) ∧
    (∀ (parent : Router σ N S C) (bridge : Router σ N' S' C')
        (beforeParent beforeBridge : List (Clock × Op σ)) (up net src : UInt16) (tok : Token)
        (grant : Clock × Op σ) (lease : SeedLease) (clock : Clock) (a : SeedNetAssignment)
        (labels : List (BridgedLabel σ)),
      Initial parent → Initial bridge →
      SeedGranted up net tok (runAll exec parent beforeParent) grant →
      lease.netId = net → lease.refreshToken = tok →
      ((runAll exec bridge beforeBridge).registerDelegatedSeedNet src lease clock.now).1 =
        .ok a →
      let s := runAll (Bridged.exec up net)
        ⟨(runAll exec parent beforeParent).exec grant, .start tok,
          (runAll exec bridge beforeBridge).exec (clock, .registerDelegatedSeedNet src lease),
          none⟩ labels
      s.parent.rng.Distinct →
        Bridged.Stored net s.bridge s.client.token ∧ SeedSafe up net (s.parent, s.client)) := by
  refine ⟨?_, ?_, ?_⟩
  · intro r before src net tok grant labels hinit hgrant hfresh
    exact .of_inv (TokenWindow.inStep_of_run (seedServer_lawful src net)
      (hgrant.start (hinit.wf.run before)) labels hfresh)
  · intro r before src node tok grant labels hinit hgrant hfresh
    exact .of_inv (TokenWindow.inStep_of_run (claimServer_lawful src node)
      (hgrant.start (hinit.wf.run before)) labels hfresh)
  · intro parent bridge beforeParent beforeBridge up net src tok grant lease clock a labels
      hparent hbridge hgrant hnet htok hreg s hfresh
    have hinv := (Bridged.Inv.start (hparent.wf.run beforeParent) hgrant
      (hbridge.wf.run beforeBridge) hnet htok hreg).run labels hfresh
    exact ⟨hinv.stored, .of_inv hinv.holder⟩

/-- A root with one segment, and a bridge whose segment has net id 7. -/
def demoParent : Router FrameQueue 2 2 1 := new ⟨UInt64.ofNat, 0⟩ two_slots

def demoDelegate : Router FrameQueue 2 2 1 :=
  newBridge ⟨UInt64.ofNat, 0⟩ ⟨64, 1, []⟩ two_slots

def demoSegment : List (Clock × Op FrameQueue) :=
  [(.at 0, .registerInterfacePending ⟨64, 1, []⟩), (.at 0, .reassignInterfaceNetId 0 7)]

/-- The holder refreshes and the response is lost, then so is its second one. -/
theorem token_rotation_demo :
    SeedSafe 1 2 (runAll (TokenWindow.exec (seedServer 1 2))
      ((runAll exec demoParent [(.at 0, .registerInterface ⟨64, 1, []⟩)]).exec
        (.at (secs 1), .requestSeedNetAssign 1), .start 0)
      [.ask, .serve 0 (.at (secs 2), .refreshSeedNetAssignment 1 2 0), .giveUp, .ask]) ∧
    ClaimSafe 1 10 (runAll (TokenWindow.exec (claimServer 1 10))
      ((runAll exec demoParent [(.at 0, .registerInterface ⟨64, 1, []⟩)]).exec
        (.at (secs 1), .requestNodeClaim 1 10 5), .start 0)
      [.ask, .serve 0 (.at (secs 2), .refreshNodeClaim 1 10 0), .giveUp, .ask]) ∧
    (let s := runAll (Bridged.exec 1 2)
      ⟨(runAll exec demoParent [(.at 0, .registerInterface ⟨64, 1, []⟩)]).exec
          (.at (secs 1), .requestSeedNetAssign 1), .start 0,
        (runAll exec demoDelegate demoSegment).exec (.at (secs 1), .registerDelegatedSeedNet 7
          ⟨2, ⟨1, 1, 1⟩, ⟨1, 1, 2⟩, 0, 30, 120, 62⟩), none⟩
      [.refresh (.at (secs 2)) 7 0, .serve 0 (.at (secs 2), .refreshSeedNetAssignment 1 2 0)]
    Bridged.Stored 2 s.bridge s.client.token ∧ SeedSafe 1 2 (s.parent, s.client)) := by
  have h := @token_rotation FrameQueue 2 2 1 2 2 1 _
  refine ⟨h.1 demoParent _ 1 2 0 _ _ (.root _ _) ?_ ?_,
    h.2.1 demoParent _ 1 10 0 _ _ (.root _ _) ?_ ?_,
    h.2.2 demoParent demoDelegate _ demoSegment 1 2 7 0 _ _ (.at (secs 1)) ⟨2, 30, 120, 57, 0⟩ _
      (.root _ _) (.bridge _ _ _) ?_ rfl rfl ?_ ?_⟩
  · exact .assigned (a := ⟨2, 30, 120, 62, 0⟩) (by decide) rfl rfl
  · exact Rng.distinct_of_decide (by decide)
  · exact .claimed (a := ⟨10, 1, 30, 120, 62, 0⟩) (by decide) (by decide) rfl
  · exact Rng.distinct_of_decide (by decide)
  · exact .assigned (a := ⟨2, 30, 120, 62, 0⟩) (by decide) rfl rfl
  · decide
  · exact Rng.distinct_of_decide (by decide)

end Router

end Ergot
