import Ergot.Router.Reservation

/-!
# Delegated leases between a bridge and its parent

`seed_router_request_handler` (services.rs) on a bridge whose parent is a root: the
messages, the handler as the states between its awaits, and a step for everything
that can happen.

- The handler is one task: it takes a request from downstream only when it is idle,
  asks the parent at most once for it (twice, if an assignment has to be rolled back),
  and waits for one answer at a time.
- An answer goes to the socket on the port that the request named as its source. The
  port is free again when an RPC is over and the next one may get it, so the socket
  takes whatever answer arrives there (`find_one_local` looks at port and kind only), and
  reads it as an answer of its own endpoint.
- Requests and responses stay in flight until they are delivered or lost. The parent
  serves a request when it arrives, however late; the bridge takes an answer until
  the timeout.
- The parent and the bridge also do anything else their profiles can do, except for
  seed operations that the handler does not perform and the loss of the link between
  the two.
-/

namespace Ergot

open Runs

/-- `DELEGATED_SEED_RPC_TIMEOUT_SECS`. -/
def delegatedSeedRpcTimeoutSecs : Nat := 1

/-- `SeedRouterAssignment`: an assignment, and where to refresh and to release it. -/
structure SeedRouterAssignment where
  assignment : SeedNetAssignment
  refreshPort : UInt8
  releasePort : UInt8
deriving DecidableEq

/-- A request of the bridge to its parent. -/
inductive SeedRequest
  | assign
  | refresh (refreshNet : UInt16) (refreshToken : Token)
  | release (releaseNet : UInt16) (refreshToken : Token)
deriving DecidableEq

/-- An answer, of the parent to the bridge or of the bridge to a downstream requester. -/
inductive SeedResponse
  | assigned (res : Except SeedAssignmentError SeedRouterAssignment)
  | refreshed (res : Except SeedRefreshError SeedNetAssignment)
  | released (res : Except SeedRefreshError Unit)
deriving DecidableEq

/-! ## Reading an answer -/

/-- The three endpoints. -/
inductive SeedRpc
  | assign
  | refresh
  | release
deriving DecidableEq

/-- The error with the same number. `SeedRefreshError` has all the numbers of
`SeedAssignmentError`. -/
def SeedAssignmentError.asRefresh : SeedAssignmentError → SeedRefreshError
  | .profileCantSeed => .profileCantSeed
  | .netIdsExhausted => .unknownNetId
  | .unknownSource => .notAssigned
  | .upstreamUnavailable => .alreadyExpired
  | .delegationDepthExceeded => .badRequest
  | .netIdCollision => .tooSoon

/-- The error with the same number, if there is one. -/
def SeedRefreshError.asAssignment : SeedRefreshError → Option SeedAssignmentError
  | .profileCantSeed => some .profileCantSeed
  | .unknownNetId => some .netIdsExhausted
  | .notAssigned => some .unknownSource
  | .alreadyExpired => some .upstreamUnavailable
  | .badRequest => some .delegationDepthExceeded
  | .tooSoon => some .netIdCollision
  | .upstreamUnavailable | .delegationDepthExceeded => none

/-- The bytes of an answer, read as an answer of another endpoint. `postcard::from_bytes`
drops what is left over, and fails when the bytes end too early. -/
def SeedResponse.readAs : SeedRpc → SeedResponse → Option SeedResponse
  | .assign, .assigned res => some (.assigned res)
  | .assign, .refreshed (.ok _) | .assign, .released (.ok _) => none
  | .assign, .refreshed (.error e) | .assign, .released (.error e) =>
    e.asAssignment.map fun e => .assigned (.error e)
  | .refresh, .assigned (.ok granted) => some (.refreshed (.ok granted.assignment))
  | .refresh, .assigned (.error e) => some (.refreshed (.error e.asRefresh))
  | .refresh, .refreshed res => some (.refreshed res)
  | .refresh, .released (.ok _) => none
  | .refresh, .released (.error e) => some (.refreshed (.error e))
  | .release, .assigned (.ok _) | .release, .refreshed (.ok _) => some (.released (.ok ()))
  | .release, .assigned (.error e) => some (.released (.error e.asRefresh))
  | .release, .refreshed (.error e) => some (.released (.error e))
  | .release, .released res => some (.released res)

/-- What the socket of the RPC `awaited` makes of the answer to `id`. The answer to the RPC
itself is of its endpoint. -/
def SeedRpc.takes (rpc : SeedRpc) (awaited id : Nat) (res : SeedResponse) : Option SeedResponse :=
  if awaited = id then some res else res.readAs rpc

/-! ## The bridge and its parent -/

/-- Where the handler of the bridge is: idle, or waiting for the RPC `id` that was sent
at `sent`. -/
inductive SeedHandler
  | idle
  | assigning (id sent : Nat) (src upstreamNet : UInt16)
  | rollingBack (id sent : Nat) (error : SeedAssignmentError)
  | refreshing (id sent : Nat) (src net : UInt16) (tok : Token) (parent : SeedLease)
  | releasing (id sent : Nat) (src net : UInt16) (tok : Token)
deriving DecidableEq

/-- The RPC the handler waits for, and when it was sent. -/
def SeedHandler.awaits : SeedHandler → Option (Nat × Nat)
  | .idle => none
  | .assigning id sent _ _ => some (id, sent)
  | .rollingBack id sent _ => some (id, sent)
  | .refreshing id sent _ _ _ _ => some (id, sent)
  | .releasing id sent _ _ _ => some (id, sent)

/-- The endpoint of the RPC that the handler waits for, if it waits. -/
def SeedHandler.rpc : SeedHandler → SeedRpc
  | .idle | .assigning .. => .assign
  | .refreshing .. => .refresh
  | .rollingBack .. | .releasing .. => .release

/-- What is fixed: the net id under which the parent sees the bridge, the ports of the two
handlers, and the port that `alloc_port` gives the response socket of each RPC. -/
structure SeedLink where
  up : UInt16
  parentRefreshPort : UInt8
  parentReleasePort : UInt8
  refreshPort : UInt8
  releasePort : UInt8
  port : Nat → UInt8

/-- A bridge, its parent, and what is in flight between them, under the ids of the RPCs. -/
structure Delegation (σ : Type) (N S C N' S' C' : Nat) where
  now : Nat
  parent : Router σ N S C
  bridge : Router σ N' S' C'
  handler : SeedHandler
  next : Nat
  requests : List (Nat × SeedRequest)
  responses : List (Nat × SeedResponse)
  /-- The last answer to a downstream requester. -/
  reply : Option SeedResponse

inductive DelegationLabel (σ : Type)
  | tick (d : Nat)
  /-- A request of a downstream requester on segment `src` arrives at the bridge. -/
  | assign (src : UInt16)
  | refresh (src net : UInt16) (tok : Token)
  | release (src net : UInt16) (tok : Token)
  /-- Request `id` arrives at the parent. -/
  | serve (id : Nat)
  /-- Response `id` arrives at the bridge. -/
  | respond (id : Nat)
  | lose (id : Nat)
  /-- The handler stops waiting. -/
  | timeout
  | parentOp (op : Op σ)
  | bridgeOp (op : Op σ)

/-- The segment a seed operation is for. -/
def Op.seedSource {σ : Type} : Op σ → Option UInt16
  | .requestSeedNetAssign src | .refreshSeedNetAssignment src _ _
  | .releaseSeedNetAssignment src _ _ | .canDelegateSeed src | .registerDelegatedSeedNet src _
  | .prepareDelegatedRefresh src _ _ | .commitDelegatedRefresh src _ _
  | .prepareDelegatedRelease src _ _ | .commitDelegatedRelease src _ _ => some src
  | _ => none

/-- The operation of the root that a request asks for. -/
def SeedRequest.op {σ : Type} (up : UInt16) : SeedRequest → Op σ
  | .assign => .requestSeedNetAssign up
  | .refresh net tok => .refreshSeedNetAssignment up net tok
  | .release net tok => .releaseSeedNetAssignment up net tok

namespace Delegation

variable {σ : Type} {N S C N' S' C' : Nat}

/-- Both routers before anything has happened. -/
def start (parent : Router σ N S C) (bridge : Router σ N' S' C') : Delegation σ N S C N' S' C' :=
  { now := 0, parent, bridge, handler := .idle, next := 0, requests := [], responses := [],
    reply := none }

/-! ## The handler of the bridge -/

/-- Send a request under a new id. -/
def send (s : Delegation σ N S C N' S' C') (req : SeedRequest) : Delegation σ N S C N' S' C' :=
  { s with next := s.next + 1, requests := s.requests ++ [(s.next, req)] }

/-- Answer the downstream requester (`respond_owned`) and take the next request. -/
def done (s : Delegation σ N S C N' S' C') (res : SeedResponse) : Delegation σ N S C N' S' C' :=
  { s with handler := .idle, reply := some res }

/-- `handle_assign_delegated`, up to the RPC. The upstream interface has to be active. -/
def handleAssign (s : Delegation σ N S C N' S' C') (src : UInt16) :
    Delegation σ N S C N' S' C' :=
  let (res, bridge) := s.bridge.canDelegateSeed src s.now
  let s := { s with bridge }
  match res with
  | .error e => s.done (.assigned (.error e))
  | .ok _ =>
    match bridge.upstreamNetId with
    | none => s.done (.assigned (.error .upstreamUnavailable))
    | some upstreamNet =>
      if upstreamNet = 0 then s.done (.assigned (.error .upstreamUnavailable))
      else { s.send .assign with handler := .assigning s.next s.now src upstreamNet }

/-- `handle_refresh_delegated`, up to the RPC. -/
def handleRefresh (s : Delegation σ N S C N' S' C') (src net : UInt16) (tok : Token) :
    Delegation σ N S C N' S' C' :=
  let (res, bridge) := s.bridge.prepareDelegatedRefresh src net tok s.now
  let s := { s with bridge }
  match res with
  | .error e => s.done (.refreshed (.error e))
  | .ok (.replay assignment) => s.done (.refreshed (.ok assignment))
  | .ok (.forward parent) =>
    { s.send (.refresh parent.netId parent.refreshToken) with
      handler := .refreshing s.next s.now src net tok parent }

/-- `handle_release_delegated`, up to the RPC. -/
def handleRelease (s : Delegation σ N S C N' S' C') (src net : UInt16) (tok : Token) :
    Delegation σ N S C N' S' C' :=
  let (res, bridge) := s.bridge.prepareDelegatedRelease src net tok s.now
  let s := { s with bridge }
  match res with
  | .error e => s.done (.released (.error e))
  | .ok parent =>
    { s.send (.release parent.netId parent.refreshToken) with
      handler := .releasing s.next s.now src net tok }

/-- The lease that `request_seed_lease` builds from an answer. -/
def leaseOf (upstreamNet : UInt16) (granted : SeedRouterAssignment) : SeedLease :=
  { netId := granted.assignment.netId
    refreshAddr := ⟨upstreamNet, centralNodeId, granted.refreshPort⟩
    releaseAddr := ⟨upstreamNet, centralNodeId, granted.releasePort⟩
    refreshToken := granted.assignment.refreshToken
    expiresSeconds := granted.assignment.expiresSeconds
    maxRefreshSeconds := granted.assignment.maxRefreshSeconds
    minRefreshSeconds := granted.assignment.minRefreshSeconds }

/-- The lease that `bridge_seed_refresh` builds from an answer. -/
def refreshedLease (lease : SeedLease) (refreshed : SeedNetAssignment) : SeedLease :=
  { netId := refreshed.netId
    refreshAddr := lease.refreshAddr
    releaseAddr := lease.releaseAddr
    refreshToken := refreshed.refreshToken
    expiresSeconds := refreshed.expiresSeconds
    maxRefreshSeconds := refreshed.maxRefreshSeconds
    minRefreshSeconds := refreshed.minRefreshSeconds }

/-- The handlers after the RPC: what the answer of the parent leads to. An assignment that
cannot be registered is released again. -/
def proceed (L : SeedLink) (s : Delegation σ N S C N' S' C') (res : SeedResponse) :
    Delegation σ N S C N' S' C' :=
  match s.handler, res with
  | .assigning .., .assigned (.error e) => s.done (.assigned (.error e))
  | .assigning _ _ src upstreamNet, .assigned (.ok granted) =>
    let lease := leaseOf upstreamNet granted
    let (res, bridge) := s.bridge.registerDelegatedSeedNet src lease s.now
    let s := { s with bridge }
    match res with
    | .ok assignment =>
      s.done (.assigned (.ok ⟨assignment, L.refreshPort, L.releasePort⟩))
    | .error e =>
      { s.send (.release lease.netId lease.refreshToken) with
        handler := .rollingBack s.next s.now e }
  | .rollingBack _ _ e, .released _ => s.done (.assigned (.error e))
  | .refreshing .., .refreshed (.error e) => s.done (.refreshed (.error e))
  | .refreshing _ _ src _ tok parent, .refreshed (.ok assignment) =>
    let (res, bridge) :=
      s.bridge.commitDelegatedRefresh src tok (refreshedLease parent assignment) s.now
    { s with bridge }.done (.refreshed res)
  | .releasing .., .released (.error e) => s.done (.released (.error e))
  | .releasing _ _ src net tok, .released (.ok _) =>
    let (res, bridge) := s.bridge.commitDelegatedRelease src net tok s.now
    { s with bridge }.done (.released res)
  | _, _ => s

/-- `delegated_seed_rpc_timeout` fires, or the request failed on the way. -/
def timeOut (s : Delegation σ N S C N' S' C') : Delegation σ N S C N' S' C' :=
  match s.handler with
  | .idle => s
  | .assigning .. => s.done (.assigned (.error .upstreamUnavailable))
  | .rollingBack _ _ e => s.done (.assigned (.error e))
  | .refreshing .. => s.done (.refreshed (.error .upstreamUnavailable))
  | .releasing .. => s.done (.released (.error .upstreamUnavailable))

/-! ## The handler of the parent -/

/-- `handle_assign`, `handle_refresh` and `handle_release`: the answer. -/
def answer (L : SeedLink) (r : Router σ N S C) (now : Nat) : SeedRequest → SeedResponse
  | .assign =>
    .assigned ((r.requestSeedNetAssign L.up now).1.map
      fun assignment => ⟨assignment, L.parentRefreshPort, L.parentReleasePort⟩)
  | .refresh net tok => .refreshed (r.refreshSeedNetAssignment L.up net tok now).1
  | .release net tok => .released (r.releaseSeedNetAssignment L.up net tok now).1

/-- The parent does something on its own: not for the bridge, and not deregistering the
interface of the link. -/
def ownOp (up : UInt16) (r : Router σ N S C) (op : Op σ) : Bool :=
  Router.rootOp op && op.seedSource != some up &&
    match op with
    | .deregisterInterface ident =>
      r.seedRoutes.entries.toList.all fun e => e.scope != up || e.extra.viaIdent != ident
    | _ => true

/-! ## Steps -/

variable [InterfaceSink σ]

def exec (L : SeedLink) (s : Delegation σ N S C N' S' C') :
    DelegationLabel σ → Delegation σ N S C N' S' C'
  | .tick d => { s with now := s.now + d }
  | .assign src => if s.handler = .idle then s.handleAssign src else s
  | .refresh src net tok => if s.handler = .idle then s.handleRefresh src net tok else s
  | .release src net tok => if s.handler = .idle then s.handleRelease src net tok else s
  | .serve id =>
    match s.requests.find? (fun p => p.1 = id) with
    | none => s
    | some (_, req) =>
      { s with
        parent := s.parent.exec (.at s.now, req.op L.up)
        requests := s.requests.filter fun p => p.1 ≠ id
        responses := s.responses ++ [(id, answer L s.parent s.now req)] }
  | .respond id =>
    match s.responses.find? (fun p => p.1 = id) with
    | none => s
    | some (_, res) =>
      let s := { s with responses := s.responses.filter fun p => p.1 ≠ id }
      match s.handler.awaits with
      | none => s
      | some (awaited, sent) =>
        -- the socket that is attached at the port of `id`
        if L.port awaited = L.port id ∧ s.now ≤ sent + secs delegatedSeedRpcTimeoutSecs then
          match s.handler.rpc.takes awaited id res with
          | none => s
          | some res => s.proceed L res
        else s
  | .lose id =>
    { s with
      requests := s.requests.filter fun p => p.1 ≠ id
      responses := s.responses.filter fun p => p.1 ≠ id }
  | .timeout => s.timeOut
  | .parentOp op =>
    if ownOp L.up s.parent op then { s with parent := s.parent.exec (.at s.now, op) } else s
  | .bridgeOp op =>
    if op.seedSource = none then { s with bridge := s.bridge.exec (.at s.now, op) } else s

end Delegation

end Ergot
