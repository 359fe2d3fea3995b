import Mathlib.Logic.Function.Basic
import Ergot.Lib.Tree
import Ergot.Router.Delegation

/-!
# Chains of bridges

Bridges below a root, each a child of the one that it leases its net ids from: a chain is a
path of the tree. A bridge answers its children as `seed_router_request_handler` does, so that
a request of a holder goes up until a node can answer it.

- `Router.takeRequest` and `Router.takeResponse` are the handler of `Delegation` between two
  awaits, as a function of the router alone.
- `SeedNet` is the state: the routers, what is in flight on the link of each node to its parent,
  and the holder that each node has besides its handler.
- A message says which holder it is for (`owner`), and `took` how long the exchange took that
  set the lease of a route. No step depends on either.
- An answer goes to the port of its RPC, and whoever waits there takes it. `crosses` says that
  this is another RPC; `Step` is what the steps do that are not such.
-/

namespace Ergot

open Runs

/-- Which node asks which for net ids. -/
structure SeedTree (ι : Type) extends Forest ι where
  depth_root : ∀ {v}, parent v = none → depth v = 0
  /-- The net id under which the parent sees a node. -/
  up : ι → UInt16
  refreshPort : ι → UInt8
  releasePort : ι → UInt8
  /-- The port of the response socket of each RPC of a node. -/
  port : ι → Nat → UInt8

def SeedTree.link {ι : Type} (T : SeedTree ι) (v p : ι) : SeedLink :=
  { up := T.up v
    parentRefreshPort := T.refreshPort p
    parentReleasePort := T.releasePort p
    refreshPort := T.refreshPort v
    releasePort := T.releasePort v
    port := T.port v }

/-! ## The handler of a bridge -/

/-- What the handler does next. -/
inductive SeedOutcome
  /-- Answer the requester. -/
  | answer (res : SeedResponse)
  /-- Ask the parent, and wait. -/
  | ask (req : SeedRequest) (handler : SeedHandler)
  | wait

namespace Router

variable {σ : Type} {N S C : Nat}

/-- `handle_assign_delegated`, `handle_refresh_delegated` and `handle_release_delegated` up to
the RPC, which gets the id `id`. -/
def takeRequest (r : Router σ N S C) (now id : Nat) (src : UInt16) :
    SeedRequest → SeedOutcome × Router σ N S C
  | .assign =>
    let (res, r) := r.canDelegateSeed src now
    match res with
    | .error e => (.answer (.assigned (.error e)), r)
    | .ok _ =>
      match r.upstreamNetId with
      | none => (.answer (.assigned (.error .upstreamUnavailable)), r)
      | some upstreamNet =>
        if upstreamNet = 0 then (.answer (.assigned (.error .upstreamUnavailable)), r)
        else (.ask .assign (.assigning id now src upstreamNet), r)
  | .refresh net tok =>
    let (res, r) := r.prepareDelegatedRefresh src net tok now
    match res with
    | .error e => (.answer (.refreshed (.error e)), r)
    | .ok (.replay assignment) => (.answer (.refreshed (.ok assignment)), r)
    | .ok (.forward parent) =>
      (.ask (.refresh parent.netId parent.refreshToken) (.refreshing id now src net tok parent), r)
  | .release net tok =>
    let (res, r) := r.prepareDelegatedRelease src net tok now
    match res with
    | .error e => (.answer (.released (.error e)), r)
    | .ok parent =>
      (.ask (.release parent.netId parent.refreshToken) (.releasing id now src net tok), r)

/-- The handlers after the RPC. Another one, to roll back, gets the id `id`. -/
def takeResponse (L : SeedLink) (r : Router σ N S C) (now id : Nat) (handler : SeedHandler)
    (res : SeedResponse) : SeedOutcome × Router σ N S C :=
  match handler, res with
  | .assigning .., .assigned (.error e) => (.answer (.assigned (.error e)), r)
  | .assigning _ _ src upstreamNet, .assigned (.ok granted) =>
    let lease := Delegation.leaseOf upstreamNet granted
    let (res, r) := r.registerDelegatedSeedNet src lease now
    match res with
    | .ok assignment => (.answer (.assigned (.ok ⟨assignment, L.refreshPort, L.releasePort⟩)), r)
    | .error e => (.ask (.release lease.netId lease.refreshToken) (.rollingBack id now e), r)
  | .rollingBack _ _ e, .released _ => (.answer (.assigned (.error e)), r)
  | .refreshing .., .refreshed (.error e) => (.answer (.refreshed (.error e)), r)
  | .refreshing _ _ src _ tok parent, .refreshed (.ok assignment) =>
    let (res, r) :=
      r.commitDelegatedRefresh src tok (Delegation.refreshedLease parent assignment) now
    (.answer (.refreshed res), r)
  | .releasing .., .released (.error e) => (.answer (.released (.error e)), r)
  | .releasing _ _ src net tok, .released (.ok _) =>
    let (res, r) := r.commitDelegatedRelease src net tok now
    (.answer (.released res), r)
  | _, _ => (.wait, r)

end Router

/-- The handler stops waiting. -/
def SeedHandler.giveUp : SeedHandler → SeedOutcome
  | .idle => .wait
  | .assigning .. => .answer (.assigned (.error .upstreamUnavailable))
  | .rollingBack _ _ e => .answer (.assigned (.error e))
  | .refreshing .. => .answer (.refreshed (.error .upstreamUnavailable))
  | .releasing .. => .answer (.released (.error .upstreamUnavailable))

/-- What an answer grants. -/
def SeedResponse.grant : SeedResponse → Option SeedNetAssignment
  | .assigned (.ok granted) => some granted.assignment
  | .refreshed (.ok assignment) => some assignment
  | _ => none

/-! ### What it does -/

namespace Router

variable {σ : Type} {N S C : Nat}

/-- What comes of a request. The router ages, and nothing else. -/
inductive TakesRequest (r : Router σ N S C) (now id : Nat) (src : UInt16) :
    SeedRequest → SeedOutcome → Prop
  | refused {req res} (hres : res.grant = none) (hsoon : res ≠ .refreshed (.error .tooSoon)) :
      TakesRequest r now id src req (.answer res)
  | replayed {net tok e l parent} (he : r.seedRoutes.get net src = some e)
      (hl : e.kind = .active l) (hp : e.extra.parent = some parent) (hexp : now < l.expiration)
      (htok : l.refreshToken ≠ tok) :
      TakesRequest r now id src (.refresh net tok) (.answer (.refreshed (.ok
        (delegatedAssignment parent l.refreshToken (remainingLeaseSeconds l.expiration now)))))
  | refreshing {net tok e l parent} (he : r.seedRoutes.get net src = some e)
      (hl : e.kind = .active l) (hp : e.extra.parent = some parent) (hexp : now < l.expiration)
      (htok : l.refreshToken = tok) :
      TakesRequest r now id src (.refresh net tok)
        (.ask (.refresh parent.netId parent.refreshToken) (.refreshing id now src net tok parent))
  | assigning {upstreamNet} :
      TakesRequest r now id src .assign (.ask .assign (.assigning id now src upstreamNet))
  | releasing {net tok} {parent : SeedLease} :
      TakesRequest r now id src (.release net tok)
        (.ask (.release parent.netId parent.refreshToken) (.releasing id now src net tok))

theorem prepareDelegatedRefresh_ne_tooSoon {r r' : Router σ N S C} {src net : UInt16}
    {tok : Token} {now : Nat} {e : SeedRefreshError}
    (h : r.prepareDelegatedRefresh src net tok now = (.error e, r')) : e ≠ .tooSoon := by
  unfold prepareDelegatedRefresh at h
  rintro rfl
  dsimp only at h
  split at h
  · cases h
  · split at h
    · cases h
    · split at h
      · next d hval =>
        cases d <;> cases h
      · cases h
      · cases h
      · split at h <;> cases h

theorem takeRequest_spec {r : Router σ N S C} (hu : r.seedRoutes.keys.Nodup) (now id : Nat)
    (src : UInt16) (req : SeedRequest) :
    TakesRequest r now id src req (r.takeRequest now id src req).1 ∧
      AgedOnly now r (r.takeRequest now id src req).2 := by
  cases req with
  | assign =>
    have haged := r.canDelegateSeed_agedOnly src now
    dsimp only [takeRequest]
    generalize r.canDelegateSeed src now = res at haged ⊢
    rcases res with ⟨e | _, r'⟩
    · exact ⟨.refused rfl nofun, haged⟩
    · dsimp only
      split
      · exact ⟨.refused rfl nofun, haged⟩
      · split
        · exact ⟨.refused rfl nofun, haged⟩
        · exact ⟨.assigning, haged⟩
  | refresh net tok =>
    have haged := r.prepareDelegatedRefresh_agedOnly src net tok now
    dsimp only [takeRequest]
    rcases h : r.prepareDelegatedRefresh src net tok now with ⟨e | res, r'⟩
    · rw [h] at haged
      have hne := prepareDelegatedRefresh_ne_tooSoon h
      exact ⟨.refused rfl fun heq => hne (by cases heq; rfl), haged⟩
    · rw [h] at haged
      obtain ⟨e, l, parent, he, hl, hp, hexp, hres⟩ := prepareDelegatedRefresh_ok hu h
      rcases hres with ⟨htok, rfl⟩ | ⟨htok, -, rfl⟩
      · exact ⟨.refreshing he hl hp hexp htok, haged⟩
      · exact ⟨.replayed he hl hp hexp htok, haged⟩
  | release net tok =>
    have haged := r.prepareDelegatedRelease_agedOnly src net tok now
    dsimp only [takeRequest]
    rcases h : r.prepareDelegatedRelease src net tok now with ⟨e | parent, r'⟩
    · rw [h] at haged
      exact ⟨.refused rfl nofun, haged⟩
    · rw [h] at haged
      exact ⟨.releasing, haged⟩

theorem takesRequest_of_fst {r : Router σ N S C} (hu : r.seedRoutes.keys.Nodup) {now id : Nat}
    {src : UInt16} {req : SeedRequest} {out : SeedOutcome}
    (h : (r.takeRequest now id src req).1 = out) : TakesRequest r now id src req out :=
  h ▸ (takeRequest_spec hu now id src req).1

/-- What comes of a response. -/
inductive TakesResponse (L : SeedLink) (r : Router σ N S C) (now id : Nat) :
    SeedHandler → SeedResponse → SeedOutcome × Router σ N S C → Prop
  | waits {handler res} : TakesResponse L r now id handler res (.wait, r)
  | refused {handler res res' r'} (haged : AgedOnly now r r') (hres : res'.grant = none)
      (hsoon : res' = .refreshed (.error .tooSoon) → res = .refreshed (.error .tooSoon)) :
      TakesResponse L r now id handler res (.answer res', r')
  | registered {i t src up granted a r'}
      (h : r.registerDelegatedSeedNet src (Delegation.leaseOf up granted) now = (.ok a, r')) :
      TakesResponse L r now id (.assigning i t src up) (.assigned (.ok granted))
        (.answer (.assigned (.ok ⟨a, L.refreshPort, L.releasePort⟩)), r')
  | rollsBack {i t src up res net tok e r'} (haged : AgedOnly now r r') :
      TakesResponse L r now id (.assigning i t src up) res
        (.ask (.release net tok) (.rollingBack id now e), r')
  | committed {i t src net tok parent assignment a r'}
      (h : r.commitDelegatedRefresh src tok (Delegation.refreshedLease parent assignment) now =
        (.ok a, r')) :
      TakesResponse L r now id (.refreshing i t src net tok parent)
        (.refreshed (.ok assignment)) (.answer (.refreshed (.ok a)), r')
  | released {i t src net tok r'}
      (h : r.commitDelegatedRelease src net tok now = (.ok (), r')) :
      TakesResponse L r now id (.releasing i t src net tok) (.released (.ok ()))
        (.answer (.released (.ok ())), r')

theorem commitDelegatedRefresh_ne_tooSoon {r r' : Router σ N S C} {src : UInt16} {tok : Token}
    {parent : SeedLease} {now : Nat} {e : SeedRefreshError}
    (h : r.commitDelegatedRefresh src tok parent now = (.error e, r')) : e ≠ .tooSoon := by
  unfold commitDelegatedRefresh at h
  rintro rfl
  split at h
  · cases h
  · dsimp only at h
    split at h
    · cases h
    · split at h
      · next d kind hval =>
        cases d <;> cases h
      · cases h
      · split at h <;> cases h

theorem takeResponse_spec (L : SeedLink) (r : Router σ N S C) (now id : Nat)
    (handler : SeedHandler) (res : SeedResponse) :
    TakesResponse L r now id handler res (r.takeResponse L now id handler res) := by
  unfold takeResponse
  split
  · exact .refused (.refl _ _) rfl nofun
  · next i t src up granted =>
    dsimp only
    rcases h : r.registerDelegatedSeedNet src (Delegation.leaseOf up granted) now with ⟨e | a, r'⟩
    · exact .rollsBack (registerDelegatedSeedNet_error h)
    · exact .registered h
  · exact .refused (.refl _ _) rfl nofun
  · exact .refused (.refl _ _) rfl fun heq => by cases heq; rfl
  · next i t src net tok parent assignment =>
    dsimp only
    rcases h : r.commitDelegatedRefresh src tok (Delegation.refreshedLease parent assignment) now
      with ⟨e | a, r'⟩
    · have hne := commitDelegatedRefresh_ne_tooSoon h
      exact .refused (commitDelegatedRefresh_error h) rfl fun heq => absurd (by cases heq; rfl) hne
    · exact .committed h
  · exact .refused (.refl _ _) rfl nofun
  · next i t src net tok _ =>
    dsimp only
    rcases h : r.commitDelegatedRelease src net tok now with ⟨e | _, r'⟩
    · exact .refused (commitDelegatedRelease_error h) rfl nofun
    · exact .released h
  · exact .waits

theorem takesResponse_of_fst {L : SeedLink} {r : Router σ N S C} {now id : Nat}
    {handler : SeedHandler} {res : SeedResponse} {out : SeedOutcome}
    (h : (r.takeResponse L now id handler res).1 = out) :
    ∃ r', TakesResponse L r now id handler res (out, r') := by
  subst h
  exact ⟨_, r.takeResponse_spec L now id handler res⟩

end Router

namespace Delegation

variable {σ : Type} {N S C N' S' C' : Nat}

/-- A bridge with a root above it goes on. -/
def follow (s : Delegation σ N S C N' S' C') (out : SeedOutcome × Router σ N' S' C') :
    Delegation σ N S C N' S' C' :=
  let s := { s with bridge := out.2 }
  match out.1 with
  | .answer res => s.done res
  | .ask req handler => { s.send req with handler }
  | .wait => s

theorem handleAssign_eq (s : Delegation σ N S C N' S' C') (src : UInt16) :
    s.handleAssign src = s.follow (s.bridge.takeRequest s.now s.next src .assign) := by
  dsimp only [handleAssign, Router.takeRequest]
  rcases s.bridge.canDelegateSeed src s.now with ⟨e | _, bridge⟩
  · rfl
  · dsimp only
    cases bridge.upstreamNetId with
    | none => rfl
    | some net =>
      dsimp only
      split <;> rfl

theorem handleRefresh_eq (s : Delegation σ N S C N' S' C') (src net : UInt16) (tok : Token) :
    s.handleRefresh src net tok =
      s.follow (s.bridge.takeRequest s.now s.next src (.refresh net tok)) := by
  dsimp only [handleRefresh, Router.takeRequest]
  rcases s.bridge.prepareDelegatedRefresh src net tok s.now with ⟨e | _ | _, bridge⟩ <;> rfl

theorem handleRelease_eq (s : Delegation σ N S C N' S' C') (src net : UInt16) (tok : Token) :
    s.handleRelease src net tok =
      s.follow (s.bridge.takeRequest s.now s.next src (.release net tok)) := by
  dsimp only [handleRelease, Router.takeRequest]
  rcases s.bridge.prepareDelegatedRelease src net tok s.now with ⟨e | _, bridge⟩ <;> rfl

theorem proceed_eq (L : SeedLink) (s : Delegation σ N S C N' S' C') (res : SeedResponse) :
    s.proceed L res = s.follow (s.bridge.takeResponse L s.now s.next s.handler res) := by
  unfold proceed Router.takeResponse
  generalize s.handler = handler
  cases handler with
  | idle => rfl
  | assigning _ _ src upstreamNet =>
    rcases res with (_ | granted) | _ | _
    case assigned.ok =>
      dsimp only
      rcases s.bridge.registerDelegatedSeedNet src (leaseOf upstreamNet granted) s.now with
        ⟨_ | _, bridge⟩ <;> rfl
    all_goals rfl
  | rollingBack => cases res <;> rfl
  | refreshing => rcases res with _ | (_ | _) | _ <;> rfl
  | releasing => rcases res with _ | _ | (_ | _) <;> rfl

theorem timeOut_eq (s : Delegation σ N S C N' S' C') :
    s.timeOut = s.follow (s.handler.giveUp, s.bridge) := by
  unfold timeOut SeedHandler.giveUp
  cases s.handler <;> rfl

end Delegation

/-! ## Nodes -/

/-- Whose request a handler is busy with. -/
structure SeedClient (ι : Type) where
  child : ι
  id : Nat
  owner : ι

/-- A message of the RPC `id`. -/
structure SeedCall (ι α : Type) where
  id : Nat
  owner : ι
  msg : α

/-- The handler and the holder of a node, and what is in flight between it and its parent. -/
structure SeedNode (ι : Type) where
  task : Option (SeedHandler × SeedClient ι)
  /-- The lease of the holder, and when it ends. -/
  lease : Option (SeedLease × Nat)
  /-- The RPC that the holder waits for, and its endpoint. -/
  pending : Option (Nat × SeedRpc)
  next : Nat
  requests : List (SeedCall ι SeedRequest)
  responses : List (SeedCall ι SeedResponse)

namespace SeedNode

variable {ι : Type}

def new : SeedNode ι :=
  { task := none, lease := none, pending := none, next := 0, requests := [], responses := [] }

/-- Send a request under a new id. -/
def call (nd : SeedNode ι) (owner : ι) (msg : SeedRequest) : SeedNode ι :=
  { nd with next := nd.next + 1, requests := nd.requests ++ [⟨nd.next, owner, msg⟩] }

/-- The request does not wait at the parent any more. -/
def taken (nd : SeedNode ι) (id : Nat) : SeedNode ι :=
  { nd with requests := nd.requests.filter fun c => c.id ≠ id }

/-- The response has arrived, or was lost. -/
def arrived (nd : SeedNode ι) (id : Nat) : SeedNode ι :=
  { nd with responses := nd.responses.filter fun c => c.id ≠ id }

/-- The holder takes an answer (`request_seed_lease`, `bridge_seed_refresh`). -/
def accept (nd : SeedNode ι) (up : UInt16) (now : Nat) (res : SeedResponse) : SeedNode ι :=
  { nd with
    pending := none
    lease :=
      match res, nd.lease with
      | .assigned (.ok granted), _ =>
        some (Delegation.leaseOf up granted, now + secs granted.assignment.expiresSeconds.toNat)
      | .refreshed (.ok a), some (lease, _) =>
        some (Delegation.refreshedLease lease a, now + secs a.expiresSeconds.toNat)
      | _, lease => lease }

end SeedNode

/-! ## Networks -/

structure SeedNet (ι σ : Type) (N S C : ι → Nat) where
  now : Nat
  router : ∀ v, Router σ (N v) (S v) (C v)
  node : ι → SeedNode ι
  took : ι → UInt16 → Nat

inductive SeedLabel (ι σ : Type)
  | tick (d : Nat)
  | op (v : ι) (op : Op σ)
  /-- The holder of `v` asks. -/
  | assign (v : ι)
  | refresh (v : ι)
  | release (v : ι)
  /-- Request `id` of `v` is taken by the handler of the parent. -/
  | serve (v : ι) (id : Nat)
  /-- Response `id` arrives at `v`. -/
  | respond (v : ι) (id : Nat)
  | lose (v : ι) (id : Nat)
  /-- The handler of `v` stops waiting. -/
  | timeout (v : ι)

namespace SeedNet

variable {ι σ : Type} {N S C : ι → Nat} [DecidableEq ι]

def start (router : ∀ v, Router σ (N v) (S v) (C v)) : SeedNet ι σ N S C :=
  { now := 0, router, node := fun _ => .new, took := fun _ _ => 0 }

def setNode (s : SeedNet ι σ N S C) (v : ι) (nd : SeedNode ι) : SeedNet ι σ N S C :=
  { s with node := Function.update s.node v nd }

def setRouter (s : SeedNet ι σ N S C) (v : ι) (r : Router σ (N v) (S v) (C v)) :
    SeedNet ι σ N S C :=
  { s with router := Function.update s.router v r }

/-- Answer a child (`respond_owned`). -/
def reply (s : SeedNet ι σ N S C) (c : SeedClient ι) (res : SeedResponse) : SeedNet ι σ N S C :=
  s.setNode c.child { s.node c.child with
    responses := (s.node c.child).responses ++ [⟨c.id, c.owner, res⟩] }

/-- The handler of `p` goes on with the request of `c`. -/
def follow (s : SeedNet ι σ N S C) (p : ι) (c : SeedClient ι)
    (out : SeedOutcome × Router σ (N p) (S p) (C p)) : SeedNet ι σ N S C :=
  let s := s.setRouter p out.2
  match out.1 with
  | .answer res => (s.setNode p { s.node p with task := none }).reply c res
  | .ask req handler =>
    s.setNode p { (s.node p).call c.owner req with task := some (handler, c) }
  | .wait => s

/-- Note how long the exchange took, if its outcome is an answer with a lease. -/
def record (s : SeedNet ι σ N S C) (v : ι) (time : Nat) : SeedOutcome → SeedNet ι σ N S C
  | .answer res =>
    match res.grant with
    | some a => { s with
        took := Function.update s.took v (Function.update (s.took v) a.netId time) }
    | none => s
  | _ => s

/-- The handler of a bridge takes a request of `v`. -/
def serve (T : SeedTree ι) (s : SeedNet ι σ N S C) (v p : ι) (call : SeedCall ι SeedRequest) :
    SeedNet ι σ N S C :=
  (s.setNode v ((s.node v).taken call.id)).follow p ⟨v, call.id, call.owner⟩
    ((s.router p).takeRequest s.now (s.node p).next (T.up v) call.msg)

/-- The RPC of the holder of `v`, if it waits at the port of the RPC `id`. -/
def heldPort (T : SeedTree ι) (s : SeedNet ι σ N S C) (v : ι) (id : Nat) :
    Option (Nat × SeedRpc) :=
  (s.node v).pending.filter fun q => T.port v q.1 = T.port v id

/-- A response arrives at `v`, at the port of its RPC: the holder takes it, or the handler if it
waits there and still in time. -/
def respond (T : SeedTree ι) (s : SeedNet ι σ N S C) (v p : ι) (call : SeedCall ι SeedResponse) :
    SeedNet ι σ N S C :=
  let s := s.setNode v ((s.node v).arrived call.id)
  match s.heldPort T v call.id with
  | some (awaited, rpc) =>
    match rpc.takes awaited call.id call.msg with
    | none => s
    | some msg => s.setNode v ((s.node v).accept (T.up v) s.now msg)
  | none =>
    match (s.node v).task with
    | none => s
    | some (handler, c) =>
      match handler.awaits with
      | none => s
      | some (awaited, sent) =>
        if T.port v awaited = T.port v call.id ∧
            s.now ≤ sent + secs delegatedSeedRpcTimeoutSecs then
          match handler.rpc.takes awaited call.id call.msg with
          | none => s
          | some msg =>
            let out := (s.router v).takeResponse (T.link v p) s.now (s.node v).next handler msg
            (s.follow v c out).record v (s.now - sent) out.1
        else s

/-- The response arrives when the port of its RPC has gone to another one, which takes it. -/
def crosses (T : SeedTree ι) (s : SeedNet ι σ N S C) : SeedLabel ι σ → Bool
  | .respond v id =>
    (s.node v).responses.any fun call => call.id = id &&
      match s.heldPort T v id, (s.node v).task with
      | some (awaited, rpc), _ => awaited ≠ id && (call.msg.readAs rpc).isSome
      | none, some (handler, _) =>
        match handler.awaits with
        | some (awaited, sent) =>
          awaited ≠ id && T.port v awaited = T.port v id &&
            s.now ≤ sent + secs delegatedSeedRpcTimeoutSecs &&
            (call.msg.readAs handler.rpc).isSome
        | none => false
      | none, none => false
  | _ => false

variable [InterfaceSink σ]

/-- A root answers a request of `v`. -/
def serveRoot (T : SeedTree ι) (s : SeedNet ι σ N S C) (v p : ι)
    (call : SeedCall ι SeedRequest) : SeedNet ι σ N S C :=
  ((s.setNode v ((s.node v).taken call.id)).setRouter p
    ((s.router p).exec (.at s.now, call.msg.op (T.up v)))).reply ⟨v, call.id, call.owner⟩
      (Delegation.answer (T.link v p) (s.router p) s.now call.msg)

def exec (T : SeedTree ι) (s : SeedNet ι σ N S C) : SeedLabel ι σ → SeedNet ι σ N S C
  | .tick d => { s with now := s.now + d }
  | .op v op =>
    if op.seedSource = none then s.setRouter v ((s.router v).exec (.at s.now, op)) else s
  | .assign v =>
    s.setNode v { (s.node v).call v .assign with pending := some ((s.node v).next, .assign) }
  | .refresh v =>
    match (s.node v).lease with
    | none => s
    | some (lease, _) =>
      s.setNode v { (s.node v).call v (.refresh lease.netId lease.refreshToken) with
        pending := some ((s.node v).next, .refresh) }
  | .release v =>
    match (s.node v).lease with
    | none => s
    | some (lease, _) =>
      s.setNode v { (s.node v).call v (.release lease.netId lease.refreshToken) with
        pending := some ((s.node v).next, .release), lease := none }
  | .serve v id =>
    match T.parent v, (s.node v).requests.find? (fun c => c.id = id) with
    | some p, some call =>
      -- a bridge takes one request at a time
      if T.parent p = none then s.serveRoot T v p call
      else if (s.node p).task.isNone then s.serve T v p call
      else s
    | _, _ => s
  | .respond v id =>
    match T.parent v, (s.node v).responses.find? (fun c => c.id = id) with
    | some p, some call => s.respond T v p call
    | _, _ => s
  | .lose v id => s.setNode v (((s.node v).taken id).arrived id)
  | .timeout v =>
    match (s.node v).task with
    | none => s
    | some (handler, c) => s.follow v c (handler.giveUp, s.router v)

/-! ## What a step does -/

/-- Everything that a step can do in which no answer is taken for that to another RPC, with what
was checked. -/
inductive Step (T : SeedTree ι) (s : SeedNet ι σ N S C) :
    SeedLabel ι σ → SeedNet ι σ N S C → Prop
  | idle {l} : Step T s l s
  | tick {d} : Step T s (.tick d) { s with now := s.now + d }
  | op {v op} (hop : op.seedSource = none) :
      Step T s (.op v op) (s.setRouter v ((s.router v).exec (.at s.now, op)))
  | assign {v} : Step T s (.assign v)
      (s.setNode v { (s.node v).call v .assign with pending := some ((s.node v).next, .assign) })
  | refresh {v lease ends} (hlease : (s.node v).lease = some (lease, ends)) :
      Step T s (.refresh v) (s.setNode v
        { (s.node v).call v (.refresh lease.netId lease.refreshToken) with
          pending := some ((s.node v).next, .refresh) })
  | release {v lease ends} (hlease : (s.node v).lease = some (lease, ends)) :
      Step T s (.release v) (s.setNode v
        { (s.node v).call v (.release lease.netId lease.refreshToken) with
          pending := some ((s.node v).next, .release), lease := none })
  | serveRoot {v p call} (hp : T.parent v = some p) (hroot : T.parent p = none)
      (hcall : call ∈ (s.node v).requests) :
      Step T s (.serve v call.id) (s.serveRoot T v p call)
  | serve {v p g call} (hp : T.parent v = some p) (hg : T.parent p = some g)
      (hcall : call ∈ (s.node v).requests) (hidle : (s.node p).task = none) :
      Step T s (.serve v call.id) (s.serve T v p call)
  | accept {v p call} (hp : T.parent v = some p) (hcall : call ∈ (s.node v).responses) :
      Step T s (.respond v call.id) ((s.setNode v ((s.node v).arrived call.id)).setNode v
        (((s.node v).arrived call.id).accept (T.up v) s.now call.msg))
  | drop {v id} : Step T s (.respond v id) (s.setNode v ((s.node v).arrived id))
  | respond {v p call handler c sent} (hp : T.parent v = some p)
      (hcall : call ∈ (s.node v).responses) (htask : (s.node v).task = some (handler, c))
      (hawaits : handler.awaits = some (call.id, sent))
      (hle : s.now ≤ sent + secs delegatedSeedRpcTimeoutSecs) :
      Step T s (.respond v call.id)
        (((s.setNode v ((s.node v).arrived call.id)).follow v c
          ((s.router v).takeResponse (T.link v p) s.now (s.node v).next handler call.msg)).record
            v (s.now - sent)
            ((s.router v).takeResponse (T.link v p) s.now (s.node v).next handler call.msg).1)
  | lose {v id} : Step T s (.lose v id) (s.setNode v (((s.node v).taken id).arrived id))
  | timeout {v handler c} (htask : (s.node v).task = some (handler, c)) :
      Step T s (.timeout v) (s.follow v c (handler.giveUp, s.router v))

omit [DecidableEq ι] [InterfaceSink σ] in
/-- What is taken is the answer to the RPC itself. -/
theorem takes_own {T : SeedTree ι} {s : SeedNet ι σ N S C} {v : ι}
    {call : SeedCall ι SeedResponse} {awaited : Nat} {rpc : SeedRpc} {msg : SeedResponse}
    (htakes : rpc.takes awaited call.id call.msg = some msg)
    (hown : awaited ≠ call.id → (call.msg.readAs rpc).isSome →
      s.crosses T (.respond v call.id))
    (hno : ¬ s.crosses T (.respond v call.id)) : awaited = call.id ∧ msg = call.msg := by
  by_cases hsame : awaited = call.id
  · rw [SeedRpc.takes, if_pos hsame] at htakes
    exact ⟨hsame, (Option.some.inj htakes).symm⟩
  · rw [SeedRpc.takes, if_neg hsame] at htakes
    exact absurd (hown hsame (by rw [htakes]; rfl)) hno

/-- What an answer does that is no other RPC's. -/
theorem respond_step {T : SeedTree ι} {s : SeedNet ι σ N S C} {v p : ι}
    {call : SeedCall ι SeedResponse} (hp : T.parent v = some p)
    (hcall : call ∈ (s.node v).responses) (hno : ¬ s.crosses T (.respond v call.id)) :
    Step T s (.respond v call.id) (s.respond T v p call) := by
  have hself : (s.setNode v ((s.node v).arrived call.id)).node v =
      (s.node v).arrived call.id := Function.update_self _ _ _
  have hport : (s.setNode v ((s.node v).arrived call.id)).heldPort T v call.id =
      s.heldPort T v call.id := by
    simp only [heldPort, hself]
    rfl
  unfold SeedNet.respond
  simp only [hport, hself]
  split
  · next awaited rpc hheld =>
    split
    · exact .drop
    · next msg htakes =>
      obtain ⟨-, rfl⟩ := takes_own htakes (fun hne hsome => by
        simp only [crosses, List.any_eq_true]
        exact ⟨call, hcall, by simp [hheld, hne, hsome]⟩) hno
      exact .accept hp hcall
  · next hheld =>
    split
    · exact .drop
    · next handler c htask =>
      split
      · exact .drop
      · next awaited sent hawaits =>
        split
        · next hand =>
          obtain ⟨hsame, hle⟩ := hand
          split
          · exact .drop
          · next msg htakes =>
            have htask : (s.node v).task = some (handler, c) := htask
            have hle : s.now ≤ sent + secs delegatedSeedRpcTimeoutSecs := hle
            obtain ⟨rfl, rfl⟩ := takes_own htakes (fun hne hsome => by
              simp only [crosses, List.any_eq_true]
              exact ⟨call, hcall, by simp [hheld, htask, hawaits, hsame, hle, hne, hsome]⟩) hno
            exact .respond hp hcall htask hawaits hle
        · exact .drop

theorem exec_step (T : SeedTree ι) (s : SeedNet ι σ N S C) (l : SeedLabel ι σ)
    (hno : ¬ s.crosses T l) : Step T s l (s.exec T l) := by
  cases l with
  | tick d => exact .tick
  | op v op =>
    unfold exec
    dsimp only
    split
    · next hop => exact .op hop
    · exact .idle
  | assign v => exact .assign
  | refresh v =>
    unfold exec
    dsimp only
    split
    · exact .idle
    · next lease ends hlease => exact .refresh hlease
  | release v =>
    unfold exec
    dsimp only
    split
    · exact .idle
    · next lease ends hlease => exact .release hlease
  | serve v id =>
    unfold exec
    dsimp only
    split
    · next p call hp hfind =>
      have hcall := List.mem_of_find?_eq_some hfind
      obtain rfl : call.id = id := by simpa using List.find?_some hfind
      cases hg : T.parent p with
      | none =>
        rw [if_pos rfl]
        exact .serveRoot hp hg hcall
      | some g =>
        rw [if_neg nofun]
        split
        · next hidle => exact .serve hp hg hcall (Option.isNone_iff_eq_none.mp hidle)
        · exact .idle
    · exact .idle
  | respond v id =>
    unfold exec
    dsimp only
    split
    · next p call hp hfind =>
      have hcall := List.mem_of_find?_eq_some hfind
      obtain rfl : call.id = id := by simpa using List.find?_some hfind
      exact respond_step hp hcall hno
    · exact .idle
  | lose v id => exact .lose
  | timeout v =>
    unfold exec
    dsimp only
    split
    · exact .idle
    · next handler c htask => exact .timeout htask

end SeedNet

end Ergot
