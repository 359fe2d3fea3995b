import Ergot.Router.State

/-!
# Seed assignments and node claims of the router profile

The lease operations of `impl Profile for Router` (router.rs:929–1421).

- A *root* allocates net ids itself: `requestSeedNetAssign`,
  `refreshSeedNetAssignment`, `releaseSeedNetAssignment`.
- A *bridge* holds a lease of its parent for every net id it hands on. Each
  delegated operation is a `prepare` before the parent is asked and a `commit`
  after it has answered; both check the token, since the route may change in
  between.
- Node claims go through the same lease lifecycle, keyed by node id and scoped to
  the bus.

Refresh tokens travel as little-endian bytes; a `Token` is the number.
-/

namespace Ergot

/-- A successful net id assignment or refresh (interface_manager/mod.rs:90). -/
structure SeedNetAssignment where
  netId : UInt16
  expiresSeconds : UInt16
  maxRefreshSeconds : UInt16
  minRefreshSeconds : UInt16
  refreshToken : Token
deriving DecidableEq, Repr

/-- Result of validating a delegated refresh request. -/
inductive DelegatedRefreshPreparation
  | forward (parent : SeedLease)
  | replay (assignment : SeedNetAssignment)
deriving DecidableEq

inductive SeedAssignmentError
  | profileCantSeed | netIdsExhausted | unknownSource | upstreamUnavailable
  | delegationDepthExceeded | netIdCollision
deriving DecidableEq, Repr

inductive SeedRefreshError
  | profileCantSeed | unknownNetId | notAssigned | alreadyExpired | badRequest | tooSoon
  | upstreamUnavailable | delegationDepthExceeded
deriving DecidableEq, Repr

/-- A successful node id claim (interface_manager/mod.rs:160). -/
structure NodeClaimAssignment where
  nodeId : UInt8
  netId : UInt16
  expiresSeconds : UInt16
  maxRefreshSeconds : UInt16
  minRefreshSeconds : UInt16
  refreshToken : Token
deriving DecidableEq, Repr

inductive AddressClaimError
  | conflict | exhausted | unknownSource | notSupported | invalidNodeId
deriving DecidableEq, Repr

inductive AddressRefreshError
  | unknownNodeId | alreadyExpired | badRequest | tooSoon | notSupported
deriving DecidableEq, Repr

/-- `delegated_assignment` (router.rs:51). -/
def delegatedAssignment (parent : SeedLease) (refreshToken : Token) (expiresSeconds : UInt16) :
    SeedNetAssignment :=
  { netId := parent.netId
    expiresSeconds
    maxRefreshSeconds := parent.maxRefreshSeconds
    minRefreshSeconds := parent.minRefreshSeconds - seedDelegationRefreshMargin
    refreshToken }

/-- The lease after a committed delegated refresh. -/
def Lease.rotated (l : Lease) (expiration : Nat) (newToken : Token) : Lease :=
  { expiration, refreshToken := newToken, previousRefreshToken := some l.refreshToken }

/-- How the delegated operations and the root's release report a rejected token;
`TooSoon` cannot come out of `validateToken`. -/
def RefreshDenied.toSeedError : RefreshDenied → SeedRefreshError
  | .expired => .alreadyExpired
  | .badToken | .tooSoon => .badRequest

/-- How the root's refresh reports a rejection. -/
def RefreshDenied.toRefreshError : RefreshDenied → SeedRefreshError
  | .expired => .alreadyExpired
  | .badToken => .badRequest
  | .tooSoon => .tooSoon

/-- How a claim refresh reports a rejection. -/
def RefreshDenied.toAddressError : RefreshDenied → AddressRefreshError
  | .expired => .alreadyExpired
  | .badToken => .badRequest
  | .tooSoon => .tooSoon

namespace Router

variable {σ : Type} {N S C : Nat}

/-- Set the lease of the seed route `get_mut(key, scope)` finds. -/
def setSeedKind (r : Router σ N S C) (key scope : UInt16) (kind : LeaseKind) : Router σ N S C :=
  { r with seedRoutes := r.seedRoutes.setKind key scope kind }

/-- The ident of the slot with net id `netId`. -/
def slotIdent (r : Router σ N S C) (netId : UInt16) : Option UInt8 :=
  (r.slots.toList.find? fun s => s.netId = netId).map Slot.ident

/-! ## Root operations -/

/-- `Router::request_seed_net_assign`. -/
def requestSeedNetAssign (r : Router σ N S C) (sourceNet : UInt16) (now : Nat) :
    Except SeedAssignmentError SeedNetAssignment × Router σ N S C :=
  if r.hasUpstream then (.error .profileCantSeed, r)
  else if sourceNet = 0 then (.error .unknownSource, r)
  else
    let r := r.gcSeed now
    match r.slotIdent sourceNet with
    | none => (.error .unknownSource, r)
    | some viaIdent =>
      if r.seedRoutes.isFull then (.error .netIdsExhausted, r)
      else
        match r.allocNetId with
        | none => (.error .netIdsExhausted, r)
        | some netId =>
          let (refreshToken, rng) := r.rng.next
          (.ok {
            netId
            expiresSeconds := initialLeaseSecs
            maxRefreshSeconds := maxLeaseSecs
            minRefreshSeconds := minRefreshSecs
            refreshToken },
            { r with
              rng
              seedRoutes := r.seedRoutes.push netId sourceNet { viaIdent, parent := none }
                (.fresh now initialLeaseSecs refreshToken) })

/-- `Router::refresh_seed_net_assignment`. The new token is drawn first. -/
def refreshSeedNetAssignment (r : Router σ N S C) (sourceNet refreshNet : UInt16)
    (refreshToken : Token) (now : Nat) :
    Except SeedRefreshError SeedNetAssignment × Router σ N S C :=
  let (newToken, rng) := r.rng.next
  let r := { r with rng }
  match r.seedRoutes.get refreshNet sourceNet with
  | none => (.error .unknownNetId, r)
  | some entry =>
    let (res, kind) := entry.kind.refresh refreshToken now newToken true
    let r := r.setSeedKind refreshNet sourceNet kind
    match res with
    | .error e => (.error e.toRefreshError, r)
    | .ok (lease, replayed) =>
      (.ok {
        netId := refreshNet
        expiresSeconds :=
          if replayed then remainingLeaseSeconds lease.expiration now else maxLeaseSecs
        maxRefreshSeconds := maxLeaseSecs
        minRefreshSeconds := minRefreshSecs
        refreshToken := lease.refreshToken }, r)

/-- `Router::release_seed_net_assignment`. -/
def releaseSeedNetAssignment (r : Router σ N S C) (sourceNet releaseNet : UInt16)
    (refreshToken : Token) (now : Nat) : Except SeedRefreshError Unit × Router σ N S C :=
  let r := r.gcSeed now
  match r.seedRoutes.get releaseNet sourceNet with
  | none => (.error .unknownNetId, r)
  | some entry =>
    let (res, kind) := entry.kind.validateToken refreshToken now false
    let r := r.setSeedKind releaseNet sourceNet kind
    match res with
    | .error e => (.error e.toSeedError, r)
    | .ok _ => (.ok (), { r with seedRoutes := r.seedRoutes.remove releaseNet sourceNet })

/-! ## Delegated operations -/

/-- `Router::seed_delegation_upstream`. -/
def seedDelegationUpstream (r : Router σ N S C) : Option UInt8 :=
  if r.hasUpstream then some upstreamIdent else none

/-- `Router::can_delegate_seed`. -/
def canDelegateSeed (r : Router σ N S C) (sourceNet : UInt16) (now : Nat) :
    Except SeedAssignmentError Unit × Router σ N S C :=
  let r := r.gcSeed now
  if sourceNet = 0 ∨ ¬ r.slots.toList.any fun s => s.netId = sourceNet then
    (.error .unknownSource, r)
  else if r.seedRoutes.isFull then (.error .netIdsExhausted, r)
  else (.ok (), r)

/-- `Router::register_delegated_seed_net`. A route that is already there is
dropped and registered again. -/
def registerDelegatedSeedNet (r : Router σ N S C) (sourceNet : UInt16) (parent : SeedLease)
    (now : Nat) : Except SeedAssignmentError SeedNetAssignment × Router σ N S C :=
  let r := r.gcSeed now
  if sourceNet = 0 then (.error .unknownSource, r)
  else
    match r.slotIdent sourceNet with
    | none => (.error .unknownSource, r)
    | some viaIdent =>
      if r.slots.toList.any (fun s => s.netId = parent.netId)
          ∨ r.upstreamNetId = some parent.netId then
        (.error .netIdCollision, r)
      else if parent.minRefreshSeconds ≤ seedDelegationRefreshMargin then
        (.error .delegationDepthExceeded, r)
      else
        let r := { r with seedRoutes := r.seedRoutes.removeKey parent.netId }
        if r.seedRoutes.isFull then (.error .netIdsExhausted, r)
        else
          let (refreshToken, rng) := r.rng.next
          (.ok (delegatedAssignment parent refreshToken parent.expiresSeconds),
            { r with
              rng
              seedRoutes := r.seedRoutes.push parent.netId sourceNet
                { viaIdent, parent := some parent }
                (.fresh now parent.expiresSeconds refreshToken) })

/-- `Router::prepare_delegated_refresh`. -/
def prepareDelegatedRefresh (r : Router σ N S C) (sourceNet refreshNet : UInt16)
    (refreshToken : Token) (now : Nat) :
    Except SeedRefreshError DelegatedRefreshPreparation × Router σ N S C :=
  let r := r.gcSeed now
  match r.seedRoutes.byKey refreshNet with
  | none => (.error .unknownNetId, r)
  | some entry =>
    if entry.scope ≠ sourceNet then (.error .badRequest, r)
    else
      let (res, kind) := entry.kind.validateToken refreshToken now true
      let r := { r with seedRoutes := r.seedRoutes.modifyByKey refreshNet fun e => { e with kind } }
      match res, entry.extra.parent with
      | .error e, _ => (.error e.toSeedError, r)
      | .ok _, none => (.error .notAssigned, r)
      | .ok .current, some parent => (.ok (.forward parent), r)
      | .ok .replay, some parent =>
        match kind with
        | .tombstone _ => (.error .alreadyExpired, r) -- unreachable: just validated
        | .active lease =>
          (.ok (.replay (delegatedAssignment parent lease.refreshToken
            (remainingLeaseSeconds lease.expiration now))), r)

/-- `Router::commit_delegated_refresh`. The token is checked again, and the
lease follows the parent's. -/
def commitDelegatedRefresh (r : Router σ N S C) (sourceNet : UInt16) (refreshToken : Token)
    (refreshedParent : SeedLease) (now : Nat) :
    Except SeedRefreshError SeedNetAssignment × Router σ N S C :=
  if refreshedParent.minRefreshSeconds ≤ seedDelegationRefreshMargin then
    (.error .delegationDepthExceeded, r)
  else
    let (newToken, rng) := r.rng.next
    let r := { r with rng }
    match r.seedRoutes.get refreshedParent.netId sourceNet with
    | none => (.error .unknownNetId, r)
    | some entry =>
      match entry.kind.validateToken refreshToken now false with
      | (.error e, kind) =>
        (.error e.toSeedError, r.setSeedKind refreshedParent.netId sourceNet kind)
      | (.ok _, .tombstone _) => (.error .alreadyExpired, r) -- unreachable: just validated
      | (.ok _, .active lease) =>
        match entry.extra.parent with
        | none => (.error .notAssigned, r)
        | some _ =>
          let expiration := now + secs refreshedParent.expiresSeconds.toNat
          (.ok (delegatedAssignment refreshedParent newToken refreshedParent.expiresSeconds),
            { r with
              seedRoutes := r.seedRoutes.modifyGet refreshedParent.netId sourceNet fun e =>
                { e with
                  extra := { e.extra with parent := some refreshedParent }
                  kind := .active (lease.rotated expiration newToken) } })

/-- `Router::prepare_delegated_release`. -/
def prepareDelegatedRelease (r : Router σ N S C) (sourceNet releaseNet : UInt16)
    (refreshToken : Token) (now : Nat) :
    Except SeedRefreshError SeedLease × Router σ N S C :=
  let r := r.gcSeed now
  match r.seedRoutes.get releaseNet sourceNet with
  | none => (.error .unknownNetId, r)
  | some entry =>
    let (res, kind) := entry.kind.validateToken refreshToken now false
    let r := r.setSeedKind releaseNet sourceNet kind
    match res, entry.extra.parent with
    | .error e, _ => (.error e.toSeedError, r)
    | .ok _, none => (.error .notAssigned, r)
    | .ok _, some parent => (.ok parent, r)

/-- `Router::commit_delegated_release`; unlike the others it does not collect
garbage first. -/
def commitDelegatedRelease (r : Router σ N S C) (sourceNet releaseNet : UInt16)
    (refreshToken : Token) (now : Nat) : Except SeedRefreshError Unit × Router σ N S C :=
  match r.seedRoutes.get releaseNet sourceNet with
  | none => (.error .unknownNetId, r)
  | some entry =>
    let (res, kind) := entry.kind.validateToken refreshToken now false
    let r := r.setSeedKind releaseNet sourceNet kind
    match res with
    | .error e => (.error e.toSeedError, r)
    | .ok _ => (.ok (), { r with seedRoutes := r.seedRoutes.remove releaseNet sourceNet })

/-! ## Node claims -/

/-- Node ids nobody can claim. -/
def reservedNodeId (candidate : UInt8) : Bool :=
  candidate = 0 ∨ candidate = centralNodeId ∨ candidate = edgeNodeId ∨ candidate = 255

/-- `Router::request_node_claim`. -/
def requestNodeClaim (r : Router σ N S C) (sourceNet : UInt16) (candidate : UInt8)
    (nonce : UInt64) (now : Nat) :
    Except AddressClaimError NodeClaimAssignment × Router σ N S C :=
  if reservedNodeId candidate then (.error .invalidNodeId, r)
  else
    let r := r.gcClaims now
    if sourceNet = 0 ∨ ¬ r.slots.toList.any fun s => s.netId = sourceNet then
      (.error .unknownSource, r)
    else
      match r.nodeClaims.get candidate sourceNet with
      | some entry =>
        -- the same nonce is a retransmission, anything else is a conflict
        match entry.kind with
        | .tombstone _ => (.error .conflict, r)
        | .active lease =>
          if entry.extra = nonce then
            (.ok {
              nodeId := candidate
              netId := sourceNet
              expiresSeconds := UInt16.ofNat ((lease.expiration - now) / secs 1)
              maxRefreshSeconds := maxLeaseSecs
              minRefreshSeconds := minRefreshSecs
              refreshToken := lease.refreshToken }, r)
          else (.error .conflict, r)
      | none =>
        if r.nodeClaims.isFull then (.error .exhausted, r)
        else
          let (refreshToken, rng) := r.rng.next
          (.ok {
            nodeId := candidate
            netId := sourceNet
            expiresSeconds := initialLeaseSecs
            maxRefreshSeconds := maxLeaseSecs
            minRefreshSeconds := minRefreshSecs
            refreshToken },
            { r with
              rng
              nodeClaims := r.nodeClaims.push candidate sourceNet nonce
                (.fresh now initialLeaseSecs refreshToken) })

/-- `Router::refresh_node_claim`. -/
def refreshNodeClaim (r : Router σ N S C) (sourceNet : UInt16) (nodeId : UInt8)
    (refreshToken : Token) (now : Nat) :
    Except AddressRefreshError NodeClaimAssignment × Router σ N S C :=
  let (newToken, rng) := r.rng.next
  let r := { r with rng }
  match r.nodeClaims.get nodeId sourceNet with
  | none => (.error .unknownNodeId, r)
  | some entry =>
    let (res, kind) := entry.kind.refresh refreshToken now newToken true
    let r := { r with nodeClaims := r.nodeClaims.setKind nodeId sourceNet kind }
    match res with
    | .error e => (.error e.toAddressError, r)
    | .ok (lease, replayed) =>
      (.ok {
        nodeId
        netId := sourceNet
        expiresSeconds :=
          if replayed then remainingLeaseSeconds lease.expiration now else maxLeaseSecs
        maxRefreshSeconds := maxLeaseSecs
        minRefreshSeconds := minRefreshSecs
        refreshToken := lease.refreshToken }, r)

/-- `Router::is_node_claimed`. -/
def isNodeClaimed (r : Router σ N S C) (netId : UInt16) (nodeId : UInt8) (now : Nat) : Bool :=
  if nodeId = centralNodeId ∨ nodeId = edgeNodeId then true
  else
    match r.nodeClaims.get nodeId netId with
    | none => false
    | some e => e.kind.isActive now

end Router

end Ergot
