import Ergot.Router.Spec
import Ergot.Stack.Discovery

/-!
# Recovery of a claimed node id

A device on a bus claims a node id from the router of its segment (`bus_claim`), which
sets the state of its interface. After a silence the interface is brought back by the
frame processor, which has a node id of its own: that of its role, since
`EdgeFrameProcessor` is told of no claim.

- `requestNodeClaim_names`: a granted node id is the candidate, and no reserved one.
- `Reopens`: a frame finds the discovery window open, and a net id to settle on.
- `claim_survives_iff`: along a run after the claim, every recovery restores the claimed
  address exactly when there is no recovery; each one leaves the node with the id of its
  role.
-/

namespace Ergot

/-! ## Claiming -/

/-- `AddressClaimGranted`, the answer to a claim request. -/
structure AddressClaimGranted where
  assignment : NodeClaimAssignment
  refreshPort : UInt8
deriving DecidableEq

/-- `NodeClaimLease`, what is needed to refresh a claim. -/
structure NodeClaimLease where
  nodeId : UInt8
  netId : UInt16
  refreshAddr : Address
  refreshToken : Token
  expiresSeconds : UInt16
  maxRefreshSeconds : UInt16
  minRefreshSeconds : UInt16
deriving DecidableEq

/-- `ClaimClientError`, as far as `bus_claim` returns it after an answer. -/
inductive ClaimClientError
  | claimDenied (e : AddressClaimError)
  | setStateFailed
deriving DecidableEq

/-- `handle_address_claim`: the answer of the router. -/
def Router.handleAddressClaim {σ : Type} {N S C : Nat} (r : Router σ N S C) (refreshPort : UInt8)
    (srcNet : UInt16) (candidate : UInt8) (nonce : UInt64) (now : Nat) :
    Except AddressClaimError AddressClaimGranted × Router σ N S C :=
  match r.requestNodeClaim srcNet candidate nonce now with
  | (.error e, r) => (.error e, r)
  | (.ok assignment, r) => (.ok ⟨assignment, refreshPort⟩, r)

/-- `bus_claim`, once the answer of the router is there. -/
def NetStack.busClaim {κ P ι : Type} [Profile P ι] (st : NetStack κ P) (ident : ι)
    (result : Except AddressClaimError AddressClaimGranted) :
    Except ClaimClientError NodeClaimLease × NetStack κ P :=
  match result with
  | .error e => (.error (.claimDenied e), st)
  | .ok granted =>
    let assignment := granted.assignment
    match Profile.setInterfaceState st.profile ident (.active assignment.netId assignment.nodeId) with
    | (.error _, profile) => (.error .setStateFailed, { st with profile })
    | (.ok (), profile) =>
      (.ok
        { nodeId := assignment.nodeId
          netId := assignment.netId
          refreshAddr := ⟨assignment.netId, centralNodeId, granted.refreshPort⟩
          refreshToken := assignment.refreshToken
          expiresSeconds := assignment.expiresSeconds
          maxRefreshSeconds := assignment.maxRefreshSeconds
          minRefreshSeconds := assignment.minRefreshSeconds }, { st with profile })

/-- What a granted claim names: the net it came from and the candidate, which is not the
node id of a role. -/
theorem Router.requestNodeClaim_names {σ : Type} {N S C : Nat} {r r' : Router σ N S C}
    {src : UInt16} {node : UInt8} {nonce : UInt64} {now : Nat} {a : NodeClaimAssignment}
    (h : r.requestNodeClaim src node nonce now = (.ok a, r')) :
    a.netId = src ∧ a.nodeId = node ∧ src ≠ 0 ∧ reservedNodeId node = false := by
  obtain ⟨hreserved, hsrc, -, -⟩ := r.requestNodeClaim_ok h
  have hnames : a.netId = src ∧ a.nodeId = node := by
    unfold requestNodeClaim at h
    split at h
    · cases h
    · dsimp only at h
      split at h
      · cases h
      · split at h
        · split at h
          · cases h
          · split at h
            · cases h
              exact ⟨rfl, rfl⟩
            · cases h
        · split at h
          · cases h
          · cases h
            exact ⟨rfl, rfl⟩
  exact ⟨hnames.1, hnames.2, hsrc, hreserved⟩

/-! ## Recoveries -/

/-- The interface has the address of a net. -/
def InterfaceState.Joined : InterfaceState → Prop
  | .active netId _ => netId ≠ 0
  | .activeLocal _ | .down | .inactive => False

instance InterfaceState.Joined.decidable : (s : InterfaceState) → Decidable s.Joined
  | .active netId _ => inferInstanceAs (Decidable (netId ≠ 0))
  | .activeLocal _ | .down | .inactive => inferInstanceAs (Decidable False)

section Recovery

variable {κ σ : Type} [SocketVTable κ] [InterfaceSink σ]

namespace RxWorker

/-- A frame brings an interface that has no net back onto one. -/
def Recovery (w : RxWorker Unit) (st : NetStack κ (DirectEdge σ)) (act : WorkerAct) : Prop :=
  (∃ frame clock, act = .frame frame clock) ∧ ¬ st.profile.port.state.Joined ∧
    (w.step st act).2.profile.port.state.Joined

/-- A recovery restores the claimed address. -/
def Restores (granted : AddressClaimGranted) (w : RxWorker Unit)
    (st : NetStack κ (DirectEdge σ)) (act : WorkerAct) : Prop :=
  w.Recovery st act → (w.step st act).2.profile.port.state =
    .active granted.assignment.netId granted.assignment.nodeId

/-- A recovery leaves the interface, and the frames it sends, with the node id `own`. -/
def Resets (own : UInt8) (w : RxWorker Unit) (st : NetStack κ (DirectEdge σ))
    (act : WorkerAct) : Prop :=
  w.Recovery st act → ∃ net, (w.step st act).2.profile.port.state = .active net own ∧
    (w.step st act).2.profile.port.ownNodeId = own

/-- A frame finds the interface without a net, the discovery window open, and a net id
to settle on. -/
def Reopens (w : RxWorker Unit) (st : NetStack κ (DirectEdge σ)) (act : WorkerAct) : Prop :=
  ∃ s frame clock net, w.processor = .edge s ∧ act = .frame frame clock ∧
    ¬ st.profile.port.state.Joined ∧ s.activated = false ∧
    s.opens st.profile.port.state = true ∧
    s.settles st.profile frame.hdr.dst clock.check = some net ∧ net ≠ 0

/-- The worker has an edge processor whose role has the node id `own`. -/
def HasRole (own : UInt8) (w : RxWorker Unit) : Prop :=
  ∃ s, w.processor = .edge s ∧ s.RoleNode ∧ s.ownNode = own

variable {w : RxWorker Unit} {st : NetStack κ (DirectEdge σ)} {own : UInt8}

/-- A frame that finds the window open. -/
theorem reopens_state (hrole : w.HasRole own) {act : WorkerAct} (h : w.Reopens st act) :
    ∃ net, net ≠ 0 ∧ (w.step st act).2.profile.port.state = .active net own ∧
      (w.step st act).2.profile.port.ownNodeId = own := by
  obtain ⟨s, frame, clock, net, hproc, rfl, hstate, hactive, hopen, hsettles, hnet⟩ := h
  obtain ⟨s', hproc', hrole, rfl⟩ := hrole
  cases hproc.symm.trans hproc'
  have hne : st.profile.port.state ≠ .active net s.ownNode := by
    intro heq
    rw [heq] at hstate
    exact hstate hnet
  -- what is written has the node id of the processor
  have hwritten : w.written st.profile (.frame frame clock) = some (.active net s.ownNode) := by
    have hknown : Profile.interfaceState st.profile w.ident = some st.profile.port.state := rfl
    simp only [written, hproc, EdgeFrameProcessor.written, hknown, hsettles]
    rw [if_pos ⟨hactive, hopen, hne⟩]
  have hface := w.step_view (DirectEdge.face_view SinkKeeps.unit) st (.frame frame clock)
  rw [hwritten] at hface
  have hafter := hface.trans ((st.profile.port.face fun _ => ()).setState_active (hrole.valid net))
  exact ⟨net, hnet, congrArg EdgePort.state hafter, congrArg EdgePort.ownNodeId hafter⟩

/-- A recovery is a frame that finds the window open. -/
theorem recovery_iff (hrole : w.HasRole own) (act : WorkerAct) :
    w.Recovery st act ↔ w.Reopens st act := by
  constructor
  · rintro ⟨⟨frame, clock, rfl⟩, hbefore, hafter⟩
    obtain ⟨s, hproc, hrole, rfl⟩ := hrole
    have hknown : Profile.interfaceState st.profile w.ident = some st.profile.port.state := rfl
    have hstep : (w.step st (.frame frame clock)).2 =
        (s.processFrame frame st w.ident clock).2.2 := by
      simp only [step, hproc, FrameProcessor.processFrame]
    rw [hstep] at hafter
    by_cases hwindow : s.activated = false ∧ s.opens st.profile.port.state = true
    · -- the interface joins the net that the frame settles on, if it settles on one
      have hstate := EdgeFrameProcessor.processFrame_state_of_opens hknown hwindow.1 hwindow.2
        hrole frame clock
      cases hsettles : s.settles st.profile frame.hdr.dst clock.check with
      | none =>
        rw [hsettles] at hstate
        rw [Option.some.inj hstate] at hafter
        exact absurd hafter hbefore
      | some net =>
        rw [hsettles] at hstate
        rw [Option.some.inj hstate] at hafter
        exact ⟨s, frame, clock, net, hproc, rfl, hbefore, hwindow.1, hwindow.2, hsettles, hafter⟩
    · have hclosed : s.activated = true ∨ s.opens st.profile.port.state = false := by
        rw [not_and_or] at hwindow
        simpa using hwindow
      have hstate := EdgeFrameProcessor.processFrame_state_of_closed hknown hclosed frame clock
      rw [Option.some.inj hstate] at hafter
      exact absurd hafter hbefore
  · intro h
    obtain ⟨net, hnet, hstate, -⟩ := reopens_state hrole h
    obtain ⟨-, frame, clock, -, -, rfl, hbefore, -⟩ := h
    refine ⟨⟨frame, clock, rfl⟩, hbefore, ?_⟩
    rw [hstate]
    exact hnet

/-- No act changes the node id of the processor. -/
theorem hasRole_step (hrole : w.HasRole own) (act : WorkerAct) : (w.step st act).1.HasRole own := by
  obtain ⟨s, hproc, hrole, rfl⟩ := hrole
  rcases w with ⟨ident, proc⟩
  subst hproc
  have hstep : ((⟨ident, .edge s⟩ : RxWorker Unit).step st act).1.RoleNode :=
    step_roleNode hrole act
  cases act with
  | frame frame clock =>
    exact ⟨_, rfl, hstep, EdgeFrameProcessor.processFrame_ownNode hrole frame clock⟩
  | livenessTimeout _ => exact ⟨_, rfl, hstep, rfl⟩
  | reset => exact ⟨_, rfl, hstep, rfl⟩
  | run _ => exact ⟨_, rfl, hstep, rfl⟩
  | setDown => exact ⟨_, rfl, hstep, rfl⟩
  | connected => exact ⟨_, rfl, hstep, rfl⟩

/-- A recovery does not restore an address with another node id. -/
theorem restores_iff (hrole : w.HasRole own) {granted : AddressClaimGranted}
    (hne : own ≠ granted.assignment.nodeId) (act : WorkerAct) :
    w.Restores granted st act ↔ ¬ w.Reopens st act := by
  constructor
  · intro h hopen
    obtain ⟨net, -, hstate, -⟩ := reopens_state hrole hopen
    have hrestored := h ((recovery_iff hrole act).mpr hopen)
    rw [hstate] at hrestored
    exact hne (InterfaceState.active.inj hrestored).2
  · intro hclosed h
    exact absurd ((recovery_iff hrole act).mp h) hclosed

theorem resets (hrole : w.HasRole own) (act : WorkerAct) : w.Resets own st act := by
  intro h
  obtain ⟨net, -, hstate, hown⟩ := reopens_state hrole ((recovery_iff hrole act).mp h)
  exact ⟨net, hstate, hown⟩

end RxWorker

/-! ## Runs with a claim -/

/-- What a processor at the edge side of a link is made for. -/
def Role.edge : Option UInt16 → Role
  | none => .target
  | some netId => .controller netId

/-- The node id of that role. -/
def Role.edgeOwn : Option UInt16 → UInt8
  | none => edgeNodeId
  | some _ => centralNodeId

theorem RxWorker.hasRole_boot (netId : Option UInt16) :
    (⟨(), .boot (.edge netId)⟩ : RxWorker Unit).HasRole (Role.edgeOwn netId) := by
  cases netId with
  | none => exact ⟨_, rfl, .inl rfl, rfl⟩
  | some netId => exact ⟨_, rfl, .inr rfl, rfl⟩

/-- A device that has run for a while and is then granted a claim. -/
def RxWorker.claimed (netId : Option UInt16) (st : NetStack κ (DirectEdge σ))
    (before : List WorkerAct) (granted : AddressClaimGranted) :
    RxWorker Unit × NetStack κ (DirectEdge σ) :=
  let s := Runs.runAll RxWorker.next (⟨(), .boot (.edge netId)⟩, st) before
  (s.1, (s.2.busClaim () (.ok granted)).2)

omit [SocketVTable κ] in
theorem busClaim_state (st : NetStack κ (DirectEdge σ)) {granted : AddressClaimGranted}
    (hnode : Router.reservedNodeId granted.assignment.nodeId = false) :
    (st.busClaim () (.ok granted)).2.profile.port.state =
      .active granted.assignment.netId granted.assignment.nodeId := by
  have hvalid : ¬ (granted.assignment.nodeId = 0 ∨ granted.assignment.nodeId = 255) := by
    rintro (h | h) <;> simp [Router.reservedNodeId, h] at hnode
  simp only [NetStack.busClaim, Profile.setInterfaceState, EdgePort.setState, if_neg hvalid]

end Recovery

/-! ## A silence -/

/-- A router with one segment, of net 1. -/
def demoSegment : Router FrameQueue 4 0 4 :=
  ((Router.new ⟨fun _ => 0, 0⟩ Router.four_slots).registerInterface ⟨1000, 4, []⟩ 0).2

/-- A device that joins with node id 47. -/
def demoJoining : NetStack OwnedSocket (DirectEdge FrameQueue) :=
  ⟨[], ⟨((EdgePort.newTarget ⟨1000, 4, []⟩).setState (.active 0 47)).2⟩⟩

/-- The claim it is granted. -/
def demoGranted : AddressClaimGranted :=
  ⟨⟨47, 1, initialLeaseSecs, maxLeaseSecs, minRefreshSecs, 0⟩, 20⟩

/-- It hears from the router, hears nothing for a while, and hears from it again. -/
def demoSilence : List WorkerAct :=
  [.frame (emptyFrame 1 1 1 47) demoFrameClock, .livenessTimeout false,
    .frame (emptyFrame 1 1 1 47) demoFrameClock]

end Ergot
