import Ergot.Router.Spec

/-!
# What an operation leaves alone

`Op.writes` says which tables an operation is about: the slots, the seed routes and the node
claims. Besides these it only lets time pass (`Quiet`) and draws random numbers:
`exec_footprint` is the frame lemma, one case for each operation, and results about one of
the tables need no more of the operations that do not write to it.
-/

namespace Ergot

/-- The tables of a router. -/
inductive Part
  | slots | seedRoutes | nodeClaims

/-- Whether an operation writes to a table, other than by collection. -/
def Op.writes {σ : Type} : Part → Op σ → Bool
  | .slots, .registerInterface _ | .slots, .registerInterfacePending _
  | .slots, .deregisterInterface _ | .slots, .reassignInterfaceNetId _ _ => true
  -- the routes through an interface end with it
  | .seedRoutes, .deregisterInterface _
  | .seedRoutes, .requestSeedNetAssign _ | .seedRoutes, .refreshSeedNetAssignment _ _ _
  | .seedRoutes, .releaseSeedNetAssignment _ _ _ | .seedRoutes, .registerDelegatedSeedNet _ _
  | .seedRoutes, .commitDelegatedRefresh _ _ _ | .seedRoutes, .commitDelegatedRelease _ _ _ => true
  -- and so do the claims of its segment, which a new net id ends too
  | .nodeClaims, .deregisterInterface _ | .nodeClaims, .reassignInterfaceNetId _ _
  | .nodeClaims, .requestNodeClaim _ _ _ | .nodeClaims, .refreshNodeClaim _ _ _ => true
  | _, _ => false

namespace Router

variable {σ : Type} {N S C : Nat}

/-- What an operation did after a quiet step: it wrote to its tables, and drew one random
number at most. -/
structure Footprint (op : Op σ) (r r' : Router σ N S C) : Prop where
  links : op.writes .slots = false → r'.slots.toList.map (fun s => (s.ident, s.netId)) =
    r.slots.toList.map (fun s => (s.ident, s.netId))
  seedRoutes : op.writes .seedRoutes = false → r'.seedRoutes = r.seedRoutes
  nodeClaims : op.writes .nodeClaims = false → r'.nodeClaims = r.nodeClaims
  rng : r'.rng = r.rng ∨ r'.rng = r.rng.next.2

theorem Footprint.refl (op : Op σ) (r : Router σ N S C) : Footprint op r r :=
  ⟨fun _ => rfl, fun _ => rfl, fun _ => rfl, .inl rfl⟩

variable [InterfaceSink σ]

/-- Every operation keeps to its tables. -/
theorem exec_footprint (r : Router σ N S C) (clock : Clock) (op : Op σ) :
    ∃ r₀, Quiet clock.now r r₀ ∧ Footprint op r₀ (r.exec (clock, op)) := by
  have hquiet : ∀ {r'}, Quiet clock.now r r' → ∃ r₀, Quiet clock.now r r₀ ∧ Footprint op r₀ r' :=
    fun h => ⟨_, h, .refl op _⟩
  cases op with
  | registerInterface sink =>
    show ∃ r₀, _ ∧ Footprint _ r₀ (r.registerInterface sink clock.now).2
    rcases h : r.registerInterface sink clock.now with ⟨e | ident, r'⟩
    · exact hquiet (registerInterface_error h).quiet
    · obtain ⟨_, -, -, -, -, -, hseed, hclaims, -, hrng⟩ := registerInterface_ok h
      exact ⟨r.gcSeed clock.now, (AgedOnly.gcSeed _ _).quiet, nofun, fun _ => hseed,
        fun _ => hclaims, .inl hrng⟩
  | registerInterfacePending sink =>
    show ∃ r₀, _ ∧ Footprint _ r₀ (r.registerInterfacePending sink).2
    rcases h : r.registerInterfacePending sink with ⟨e | ident, r'⟩
    · rw [registerInterfacePending_error h]
      exact hquiet (.refl _ _)
    · obtain ⟨-, -, -, hseed, hclaims, -, hrng⟩ := registerInterfacePending_ok h
      exact ⟨r, .refl _ _, nofun, fun _ => hseed, fun _ => hclaims, .inl hrng⟩
  | deregisterInterface ident =>
    show ∃ r₀, _ ∧ Footprint _ r₀ (r.deregisterInterface ident clock.now).2
    rcases h : r.deregisterInterface ident clock.now with ⟨e | u, r'⟩
    · rw [deregisterInterface_error h]
      exact hquiet (.refl _ _)
    · obtain ⟨_, -, -, -, -, -, -, hrng⟩ := deregisterInterface_ok h
      exact ⟨r, .refl _ _, nofun, nofun, nofun, .inl hrng⟩
  | reassignInterfaceNetId ident netId =>
    show ∃ r₀, _ ∧ Footprint _ r₀ (r.reassignInterfaceNetId ident netId).2
    rcases h : r.reassignInterfaceNetId ident netId with ⟨e | u, r'⟩
    · rw [reassignInterfaceNetId_error h]
      exact hquiet (.refl _ _)
    · obtain ⟨_, _, _, -, -, -, -, -, -, -, hseed, -, -, hrng⟩ := reassignInterfaceNetId_ok h
      exact ⟨r, .refl _ _, nofun, fun _ => hseed, nofun, .inl hrng⟩
  | setInterfaceState ident state => exact hquiet (setInterfaceState_quiet _ _ _ _)
  | requestSeedNetAssign src =>
    show ∃ r₀, _ ∧ Footprint _ r₀ (r.requestSeedNetAssign src clock.now).2
    rcases h : r.requestSeedNetAssign src clock.now with ⟨e | a, r'⟩
    · exact hquiet (requestSeedNetAssign_error h).quiet
    · obtain ⟨_, -, -, -, -, -, -, -, -, rfl⟩ := requestSeedNetAssign_ok h
      exact ⟨r, .refl _ _, fun _ => rfl, nofun, fun _ => rfl, .inr rfl⟩
  | refreshSeedNetAssignment src net tok =>
    show ∃ r₀, _ ∧ Footprint _ r₀ (r.refreshSeedNetAssignment src net tok clock.now).2
    rcases h : r.refreshSeedNetAssignment src net tok clock.now with ⟨e | a, r'⟩
    · exact hquiet (refreshSeedNetAssignment_error h).quiet
    · obtain ⟨_, _, -, -, -, -, ⟨-, -, -, -, rfl⟩ | ⟨-, -, -, -, rfl⟩⟩ :=
        refreshSeedNetAssignment_ok h
      · exact ⟨r, .refl _ _, fun _ => rfl, nofun, fun _ => rfl, .inr rfl⟩
      · exact ⟨r, .refl _ _, fun _ => rfl, nofun, fun _ => rfl, .inr rfl⟩
  | releaseSeedNetAssignment src net tok =>
    show ∃ r₀, _ ∧ Footprint _ r₀ (r.releaseSeedNetAssignment src net tok clock.now).2
    rcases h : r.releaseSeedNetAssignment src net tok clock.now with ⟨e | u, r'⟩
    · exact hquiet (releaseSeedNetAssignment_error h).quiet
    · obtain ⟨_, _, -, -, -, -, r'', hq, rfl⟩ := releaseSeedNetAssignment_ok h
      exact ⟨r'', hq.quiet, fun _ => rfl, nofun, fun _ => rfl, .inl rfl⟩
  | canDelegateSeed src => exact hquiet (canDelegateSeed_agedOnly _ _ _).quiet
  | registerDelegatedSeedNet src parent =>
    show ∃ r₀, _ ∧ Footprint _ r₀ (r.registerDelegatedSeedNet src parent clock.now).2
    rcases h : r.registerDelegatedSeedNet src parent clock.now with ⟨e | a, r'⟩
    · exact hquiet (registerDelegatedSeedNet_error h).quiet
    · obtain ⟨_, -, -, -, -, -, -, rfl⟩ := registerDelegatedSeedNet_ok h
      exact ⟨r, .refl _ _, fun _ => rfl, nofun, fun _ => rfl, .inr rfl⟩
  | prepareDelegatedRefresh src net tok =>
    exact hquiet (prepareDelegatedRefresh_agedOnly _ _ _ _ _).quiet
  | commitDelegatedRefresh src tok parent =>
    show ∃ r₀, _ ∧ Footprint _ r₀ (r.commitDelegatedRefresh src tok parent clock.now).2
    rcases h : r.commitDelegatedRefresh src tok parent clock.now with ⟨e | a, r'⟩
    · exact hquiet (commitDelegatedRefresh_error h).quiet
    · obtain ⟨_, _, _, -, -, -, -, -, -, rfl⟩ := commitDelegatedRefresh_ok h
      exact ⟨r, .refl _ _, fun _ => rfl, nofun, fun _ => rfl, .inr rfl⟩
  | prepareDelegatedRelease src net tok =>
    exact hquiet (prepareDelegatedRelease_agedOnly _ _ _ _ _).quiet
  | commitDelegatedRelease src net tok =>
    show ∃ r₀, _ ∧ Footprint _ r₀ (r.commitDelegatedRelease src net tok clock.now).2
    rcases h : r.commitDelegatedRelease src net tok clock.now with ⟨e | u, r'⟩
    · exact hquiet (commitDelegatedRelease_error h).quiet
    · obtain ⟨_, _, -, -, -, -, r'', hq, rfl⟩ := commitDelegatedRelease_ok h
      exact ⟨r'', hq.quiet, fun _ => rfl, nofun, fun _ => rfl, .inl rfl⟩
  | requestNodeClaim src node nonce =>
    show ∃ r₀, _ ∧ Footprint _ r₀ (r.requestNodeClaim src node nonce clock.now).2
    rcases h : r.requestNodeClaim src node nonce clock.now with ⟨e | a, r'⟩
    · exact hquiet (requestNodeClaim_error h).quiet
    · obtain ⟨-, -, -, ⟨_, _, -, -, -, -, -, rfl⟩ | ⟨-, -, -, -, rfl⟩⟩ := requestNodeClaim_ok h
      · exact ⟨r, .refl _ _, fun _ => rfl, fun _ => rfl, nofun, .inl rfl⟩
      · exact ⟨r, .refl _ _, fun _ => rfl, fun _ => rfl, nofun, .inr rfl⟩
  | refreshNodeClaim src node tok =>
    show ∃ r₀, _ ∧ Footprint _ r₀ (r.refreshNodeClaim src node tok clock.now).2
    rcases h : r.refreshNodeClaim src node tok clock.now with ⟨e | a, r'⟩
    · exact hquiet (refreshNodeClaim_error h).quiet
    · obtain ⟨_, _, -, -, -, ⟨-, -, -, -, rfl⟩ | ⟨-, -, -, -, rfl⟩⟩ := refreshNodeClaim_ok h
      · exact ⟨r, .refl _ _, fun _ => rfl, fun _ => rfl, nofun, .inr rfl⟩
      · exact ⟨r, .refl _ _, fun _ => rfl, fun _ => rfl, nofun, .inr rfl⟩
  | isTransitNet netId => exact hquiet (isTransitNet_quiet _ _ _)
  | find hdr source => exact hquiet (find_quiet _ _ _ _)
  | send hdr data => exact hquiet (send_quiet _ _ _ _)
  | sendErr hdr err source => exact hquiet (sendErr_quiet _ _ _ _ _)
  | sendRaw hdr data source => exact hquiet (sendRaw_quiet _ _ _ _ _)

end Router

end Ergot
