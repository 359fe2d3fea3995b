import Ergot.Lib.Directory
import Ergot.Lib.Runs
import Ergot.Router.Seed
import Ergot.Router.Table

/-!
# Runs of router operations

`Op` lists the operations of a router, with their arguments; `exec` performs one
at a given clock. Runs are lists of clocked operations (`Runs.runAll exec`).

A router's *directory* is the part of the state that hands out names: the ident
and net id of every slot, and the keys of the seed-route table. That every operation
acts on it as a sequence of `Directory.Step`s, and so keeps it well formed, is in
Unique.lean (`exec_steps`, `exec_wf`): this is where the two tables, the allocator,
swap-removal and lazy expiry come together.
-/

namespace Ergot

/-- The operations of a router. -/
inductive Op (σ : Type)
  | registerInterface (sink : σ)
  | registerInterfacePending (sink : σ)
  | deregisterInterface (ident : UInt8)
  | reassignInterfaceNetId (ident : UInt8) (newNetId : UInt16)
  | setInterfaceState (ident : UInt8) (state : InterfaceState)
  | requestSeedNetAssign (sourceNet : UInt16)
  | refreshSeedNetAssignment (sourceNet refreshNet : UInt16) (refreshToken : Token)
  | releaseSeedNetAssignment (sourceNet releaseNet : UInt16) (refreshToken : Token)
  | canDelegateSeed (sourceNet : UInt16)
  | registerDelegatedSeedNet (sourceNet : UInt16) (parent : SeedLease)
  | prepareDelegatedRefresh (sourceNet refreshNet : UInt16) (refreshToken : Token)
  | commitDelegatedRefresh (sourceNet : UInt16) (refreshToken : Token) (parent : SeedLease)
  | prepareDelegatedRelease (sourceNet releaseNet : UInt16) (refreshToken : Token)
  | commitDelegatedRelease (sourceNet releaseNet : UInt16) (refreshToken : Token)
  | requestNodeClaim (sourceNet : UInt16) (candidate : UInt8) (nonce : UInt64)
  | refreshNodeClaim (sourceNet : UInt16) (nodeId : UInt8) (refreshToken : Token)
  | isTransitNet (netId : UInt16)
  | find (hdr : Header) (source : Option UInt8)
  | send (hdr : Header) (data : Msg)
  | sendErr (hdr : Header) (err : ProtocolError) (source : Option UInt8)
  | sendRaw (hdr : Header) (data : List UInt8) (source : UInt8)

namespace Router

variable {σ : Type} {N S C : Nat} [InterfaceSink σ]

/-- The state after one operation. -/
def exec (r : Router σ N S C) (step : Clock × Op σ) : Router σ N S C :=
  let now := step.1.now
  match step.2 with
  | .registerInterface sink => (r.registerInterface sink now).2
  | .registerInterfacePending sink => (r.registerInterfacePending sink).2
  | .deregisterInterface ident => (r.deregisterInterface ident now).2
  | .reassignInterfaceNetId ident newNetId => (r.reassignInterfaceNetId ident newNetId).2
  | .setInterfaceState ident state => (r.setInterfaceState ident state).2
  | .requestSeedNetAssign src => (r.requestSeedNetAssign src now).2
  | .refreshSeedNetAssignment src net tok => (r.refreshSeedNetAssignment src net tok now).2
  | .releaseSeedNetAssignment src net tok => (r.releaseSeedNetAssignment src net tok now).2
  | .canDelegateSeed src => (r.canDelegateSeed src now).2
  | .registerDelegatedSeedNet src parent => (r.registerDelegatedSeedNet src parent now).2
  | .prepareDelegatedRefresh src net tok => (r.prepareDelegatedRefresh src net tok now).2
  | .commitDelegatedRefresh src tok parent => (r.commitDelegatedRefresh src tok parent now).2
  | .prepareDelegatedRelease src net tok => (r.prepareDelegatedRelease src net tok now).2
  | .commitDelegatedRelease src net tok => (r.commitDelegatedRelease src net tok now).2
  | .requestNodeClaim src candidate nonce => (r.requestNodeClaim src candidate nonce now).2
  | .refreshNodeClaim src nodeId tok => (r.refreshNodeClaim src nodeId tok now).2
  | .isTransitNet netId => (r.isTransitNet netId now).2
  | .find hdr source => (r.find hdr source step.1).2
  | .send hdr data => (r.send hdr data step.1).2
  | .sendErr hdr err source => (r.sendErr hdr err source step.1).2
  | .sendRaw hdr data source => (r.sendRaw hdr data source step.1).2

/-- The span of time an operation takes. -/
def span (step : Clock × Op σ) : Nat × Nat := (step.1.now, step.1.later)

end Router

end Ergot
