import Ergot.Router.Unique
import Ergot.Stack.Faces

/-!
# The net id of a slot and the state of its port

A router keeps the net id of a direct link twice: in the slot, where frames are routed by
it, and in the state of the port, where it is stamped on them. A third copy is in the
`RouterFrameProcessor` of the link. `Slot.Agrees` is that the first two are the same.

The router's own operations keep them so. The RX workers write the port alone, so they
keep them only as long as what they write is about the slot they write to: `Conforms` is
the exact condition, act by act, and `agree_run_iff` the theorem about runs that mix
operations of the router with the acts of any number of workers.
-/

namespace Ergot

/-- The port of a slot, where it has an address, has the address of the slot. -/
def Slot.Agrees {σ : Type} (s : Slot σ) : Prop :=
  s.netId ≠ 0 → ∀ netId nodeId, s.port.state = .active netId nodeId →
    netId = s.netId ∧ s.port.ownNodeId = centralNodeId

/-- All slots agree with their ports. -/
def Router.Agree {σ : Type} {N S C : Nat} (r : Router σ N S C) : Prop :=
  ∀ s ∈ r.slots.toList, s.Agrees

/-! ## The world -/

/-- A router with the RX workers of its links. -/
structure Transports (κ σ : Type) (N S C : Nat) where
  workers : List (RxWorker UInt8)
  stack : NetStack κ (Router σ N S C)

/-- An operation of the router, or an act of a worker. -/
inductive TransportAct (σ : Type)
  | register (sink : σ) (now : Nat)
  | registerPending (sink : σ)
  | reassign (ident : UInt8) (newNetId : UInt16)
  | deregister (ident : UInt8) (now : Nat)
  | spawn (ident : UInt8) (netId : UInt16)
  | spawnUpstream
  | worker (k : Nat) (act : WorkerAct)

namespace Transports

variable {κ σ : Type} {N S C : Nat} [SocketVTable κ] [InterfaceSink σ]

/-- `manage_profile` with an operation of the router. -/
def manage (t : Transports κ σ N S C) (r : Router σ N S C) : Transports κ σ N S C :=
  { t with stack := { t.stack with profile := r } }

/-- One step of the world. -/
def step (t : Transports κ σ N S C) : TransportAct σ → Transports κ σ N S C
  | .register sink now => t.manage (t.stack.profile.registerInterface sink now).2
  | .registerPending sink => t.manage (t.stack.profile.registerInterfacePending sink).2
  | .reassign ident newNetId => t.manage (t.stack.profile.reassignInterfaceNetId ident newNetId).2
  | .deregister ident now => t.manage (t.stack.profile.deregisterInterface ident now).2
  | .spawn ident netId =>
    { t with workers := t.workers ++ [⟨ident, .router (.new netId)⟩] }
  | .spawnUpstream => { t with workers := t.workers ++ [⟨upstreamIdent, .edge .new⟩] }
  | .worker k act =>
    match t.workers[k]? with
    | none => t
    | some w =>
      let (w, stack) := w.step t.stack act
      { workers := t.workers.set k w, stack }

/-- What an act of a worker may not do to the slot it writes to, where the slot has a
net id. -/
def Misfits (w : RxWorker UInt8) (slot : Slot σ) : WorkerAct → Prop
  | .frame _ _ =>
    -- reactivation, by the net id that the processor remembers
    ∃ s, w.processor = .router s ∧ s.activated = false ∧ slot.port.state = .inactive ∧
      s.netId ≠ slot.netId
  | .livenessTimeout linkLocalOnTimeout =>
    linkLocalOnTimeout = true ∧ ∃ netId nodeId, slot.port.state = .active netId nodeId
  | .run initialState =>
    initialState.Valid ∧ ∃ netId nodeId, initialState = .active netId nodeId ∧
      ¬ (netId = slot.netId ∧ nodeId = centralNodeId)
  | .connected => ∀ netId nodeId, slot.port.state ≠ .active netId nodeId
  | .setDown | .reset => False

/-- The worker of a slot does not misfit it; the upstream is no slot. -/
def Conforms (t : Transports κ σ N S C) : TransportAct σ → Prop
  | .worker k act => ∀ w slot, t.workers[k]? = some w → w.ident ≠ upstreamIdent →
    (t.stack.profile.slots.toList.find? fun s => s.ident = w.ident) = some slot →
    slot.netId ≠ 0 → ¬ Misfits w slot act
  | _ => True

end Transports

/-! ## One write -/

/-- What may be written to the port of a slot with a net id. -/
def Slot.Fits {σ : Type} (s : Slot σ) (state : InterfaceState) : Prop :=
  state.Valid → ∀ netId nodeId, state = .active netId nodeId →
    netId = s.netId ∧ nodeId = centralNodeId

section Write

variable {σ : Type}

/-- A write to a slot that agrees with its port. -/
theorem Slot.agrees_setState {s : Slot σ} (h : s.Agrees) (state : InterfaceState) :
    (s.setState state).Agrees ↔ (s.netId ≠ 0 → s.Fits state) := by
  refine imp_congr_right fun (hnet : s.netId ≠ 0) => ?_
  by_cases hvalid : state.Valid
  · cases state with
    | active netId nodeId =>
      have hset := s.port.setState_active hvalid
      simp [Slot.setState, hset, Fits, hvalid]
    | down => simp [Slot.setState, EdgePort.setState, Fits]
    | inactive => simp [Slot.setState, EdgePort.setState, Fits]
    | activeLocal nodeId =>
      have hstate := s.port.setState_state (.activeLocal nodeId)
      simp [Slot.setState, hstate, Fits, hvalid]
  · simp only [Slot.setState, s.port.setState_invalid hvalid, Fits, hvalid, false_imp_iff, iff_true]
    exact h hnet

/-- A write to one slot of a table that agrees. -/
theorem Faces.agrees_setState {r : Faces σ} (h : ∀ s ∈ r.slots, s.Agrees) {ident : UInt8}
    (hident : ident ≠ upstreamIdent) (state : InterfaceState) :
    (∀ s ∈ (r.setState ident state).slots, s.Agrees) ↔
      ∀ slot, (r.slots.find? fun s => s.ident = ident) = some slot → slot.netId ≠ 0 →
        slot.Fits state := by
  unfold setState
  rw [if_neg hident]
  cases hslot : r.slots.find? fun s => s.ident = ident with
  | none =>
    simp only [HeaplessVec.modifyFirstList_of_find?_none hslot]
    exact iff_of_true h fun slot hsome => nomatch hsome
  | some slot =>
    obtain ⟨before, after, hsplit, -, hmod⟩ :=
      HeaplessVec.modifyFirstList_split (Slot.setState state) hslot
    have hmem : slot ∈ r.slots := List.mem_of_find?_eq_some hslot
    simp only [hmod, Option.some.injEq, forall_eq']
    rw [← Slot.agrees_setState (h slot hmem)]
    constructor
    · intro hall
      exact hall _ (List.mem_append_right _ List.mem_cons_self)
    · intro hone s hs
      rcases List.mem_append.mp hs with hs | hs
      · exact h s (hsplit ▸ List.mem_append_left _ hs)
      · rcases List.mem_cons.mp hs with rfl | hs
        · exact hone
        · exact h s (hsplit ▸ List.mem_append_right _ (List.mem_cons_of_mem _ hs))

end Write

/-! ## One act of a worker -/

section Worker

variable {κ σ : Type} {N S C : Nat} [SocketVTable κ] [InterfaceSink σ]

omit [SocketVTable κ] [InterfaceSink σ] in
theorem Router.agree_faces {r : Router σ N S C} :
    r.Agree ↔ ∀ s ∈ (r.faces fun _ => ()).slots, s.Agrees := by
  constructor
  · intro h s hs
    obtain ⟨slot, hslot, rfl⟩ := List.mem_map.mp hs
    exact h slot hslot
  · intro h s hs
    exact h _ (List.mem_map_of_mem (f := Slot.face fun _ => ()) hs)

/-- A worker that the transports start: of a slot, or of the upstream. -/
def RxWorker.Started (w : RxWorker UInt8) : Prop :=
  w.ident = upstreamIdent ∨ ∃ s, w.processor = .router s

/-- What a worker writes to its slot fits the slot, but for the acts that misfit. -/
theorem RxWorker.written_fits {w : RxWorker UInt8} {p : Router σ N S C} {slot : Slot σ}
    {s : RouterFrameProcessor} (hproc : w.processor = .router s) (hident : w.ident ≠ upstreamIdent)
    (hslot : (p.slots.toList.find? fun s => s.ident = w.ident) = some slot)
    (hagrees : slot.Agrees) (hnet : slot.netId ≠ 0) (act : WorkerAct) :
    (∀ state, w.written p act = some state → slot.Fits state) ↔
      ¬ Transports.Misfits w slot act := by
  have hstate : Profile.interfaceState p w.ident = some slot.port.state := by
    show p.interfaceState w.ident = _
    rw [Router.interfaceState, if_neg hident, hslot]
    rfl
  -- the boot state of an edge fits no slot that has a net id
  have hboot : ¬ slot.Fits .edgeLinkLocal := fun h =>
    hnet (h (InterfaceState.valid_edge 0) 0 edgeNodeId rfl).1.symm
  cases act with
  | frame frame clock =>
    by_cases hwrites : s.activated = false ∧ slot.port.state = .inactive
    · -- reactivation, with the net id that the processor has
      have hwritten : w.written p (.frame frame clock) = some (.active s.netId centralNodeId) := by
        simp [written, hproc, RouterFrameProcessor.written, hstate, hwrites.1, hwrites.2]
      have hfits : slot.Fits (.active s.netId centralNodeId) ↔ s.netId = slot.netId := by
        simp [Slot.Fits]
      simp [hwritten, hfits, Transports.Misfits, hproc, hwrites.1, hwrites.2]
    · have hwritten : w.written p (.frame frame clock) = none := by
        simpa [written, hproc, RouterFrameProcessor.written, hstate] using hwrites
      refine iff_of_true (fun _ h => ?_) ?_
      · rw [hwritten] at h
        cases h
      · rintro ⟨s', hproc', hactive, hinactive, -⟩
        cases hproc.symm.trans hproc'
        exact hwrites ⟨hactive, hinactive⟩
  | livenessTimeout linkLocalOnTimeout =>
    cases hport : slot.port.state with
    | active netId nodeId =>
      have hown : netId ≠ 0 := (hagrees hnet netId nodeId hport).1 ▸ hnet
      cases linkLocalOnTimeout with
      | false =>
        have hwritten : w.written p (.livenessTimeout false) = some .inactive := by
          simp [written, hstate, hport, timeoutTarget]
        simp [hwritten, Slot.Fits, Transports.Misfits]
      | true =>
        have hwritten : w.written p (.livenessTimeout true) = some .edgeLinkLocal := by
          simp [written, hstate, hport, timeoutTarget, InterfaceState.edgeLinkLocal, hown]
        simp [hwritten, hboot, Transports.Misfits, hport]
    | down => simp [written, hstate, hport, Transports.Misfits]
    | inactive => simp [written, hstate, hport, Transports.Misfits]
    | activeLocal nodeId => simp [written, hstate, hport, Transports.Misfits]
  | reset =>
    refine iff_of_true ?_ fun h => h
    rintro state ⟨⟩
  | run initialState =>
    simp [written, Slot.Fits, Transports.Misfits]
  | setDown =>
    simp [written, Slot.Fits, Transports.Misfits]
  | connected =>
    cases hport : slot.port.state with
    | active netId nodeId => simp [written, hstate, hport, Transports.Misfits]
    | down => simp [written, hstate, hport, Transports.Misfits, hboot]
    | inactive => simp [written, hstate, hport, Transports.Misfits, hboot]
    | activeLocal nodeId => simp [written, hstate, hport, Transports.Misfits, hboot]

/-- One act of a worker. -/
theorem RxWorker.agree_step {w : RxWorker UInt8} {st : NetStack κ (Router σ N S C)}
    (hstarted : w.Started) (h : st.profile.Agree) (act : WorkerAct) :
    (w.step st act).2.profile.Agree ↔
      ∀ slot, w.ident ≠ upstreamIdent →
        (st.profile.slots.toList.find? fun s => s.ident = w.ident) = some slot →
        slot.netId ≠ 0 → ¬ Transports.Misfits w slot act := by
  have hfaces := Router.agree_faces.mp h
  rw [Router.agree_faces, w.step_view (Router.faces_view .unit w.ident)]
  by_cases hident : w.ident = upstreamIdent
  · -- the upstream is no slot
    refine iff_of_true ?_ fun slot hne => absurd hident hne
    cases w.written st.profile act with
    | none => exact hfaces
    | some state =>
      show ∀ s ∈ ((st.profile.faces fun _ => ()).setState w.ident state).slots, s.Agrees
      simpa only [Faces.setState, if_pos hident] using hfaces
  · obtain ⟨s, hproc⟩ := hstarted.resolve_left hident
    have hfits : ∀ slot, (st.profile.slots.toList.find? fun s => s.ident = w.ident) = some slot →
        slot.netId ≠ 0 → ((∀ state, w.written st.profile act = some state → slot.Fits state) ↔
          ¬ Transports.Misfits w slot act) := fun slot hslot hnet =>
      written_fits hproc hident hslot (h slot (List.mem_of_find?_eq_some hslot)) hnet act
    have hfind := Router.find?_face (fun _ => ()) (fun i => i = w.ident) st.profile.slots.toList
    cases hwritten : w.written st.profile act with
    | none =>
      -- what is not written cannot misfit
      refine iff_of_true hfaces fun slot _ hslot hnet => (hfits slot hslot hnet).mp ?_
      intro state hstate
      rw [hwritten] at hstate
      cases hstate
    | some state =>
      -- the slot that is written to is the one with the ident of the worker
      refine (Faces.agrees_setState hfaces hident state).trans ?_
      constructor
      · intro hall slot _ hslot hnet
        refine (hfits slot hslot hnet).mp fun state' hstate => ?_
        cases hwritten.symm.trans hstate
        refine hall (slot.face fun _ => ()) ?_ hnet
        rw [show (st.profile.faces fun _ => ()).slots.find? _ = _ from hfind, hslot]
        rfl
      · intro hall face hface hnet
        rw [show (st.profile.faces fun _ => ()).slots.find? _ = _ from hfind,
          Option.map_eq_some_iff] at hface
        obtain ⟨slot, hslot, rfl⟩ := hface
        exact (hfits slot hslot hnet).mpr (hall slot hident hslot hnet) state hwritten

theorem RxWorker.started_step {w : RxWorker UInt8} {st : NetStack κ (Router σ N S C)}
    (hstarted : w.Started) (act : WorkerAct) : (w.step st act).1.Started := by
  rcases hstarted with hident | ⟨s, hproc⟩
  · exact .inl ((w.step_ident st act).trans hident)
  · right
    rcases w with ⟨ident, proc⟩
    subst hproc
    cases act <;> exact ⟨_, rfl⟩

end Worker

/-! ## Operations of the router -/

namespace Router

variable {σ : Type} {N S C : Nat} {r : Router σ N S C}

private theorem agree_append {r' : Router σ N S C} {slot : Slot σ} (h : r.Agree)
    (hslots : r'.slots.toList = r.slots.toList ++ [slot]) (hslot : slot.Agrees) : r'.Agree := by
  intro s hs
  rw [hslots] at hs
  rcases List.mem_append.mp hs with hs | hs
  · exact h s hs
  · rw [List.mem_singleton.mp hs]
    exact hslot

/-- A new slot is `Active` with its net id. -/
theorem agree_registerInterface (h : r.Agree) (sink : σ) (now : Nat) :
    (r.registerInterface sink now).2.Agree := by
  rcases hres : r.registerInterface sink now with ⟨e | ident, r'⟩
  · intro s hs
    exact h s ((registerInterface_error hres).slots ▸ hs)
  · obtain ⟨netId, -, -, -, -, hslots, -⟩ := registerInterface_ok hres
    refine agree_append h hslots fun _ net node hstate => ?_
    cases hstate
    exact ⟨rfl, rfl⟩

/-- A pending slot has no net id. -/
theorem agree_registerInterfacePending (h : r.Agree) (sink : σ) :
    (r.registerInterfacePending sink).2.Agree := by
  rcases hres : r.registerInterfacePending sink with ⟨e | ident, r'⟩
  · rw [registerInterfacePending_error hres]
    exact h
  · obtain ⟨-, -, hslots, -⟩ := registerInterfacePending_ok hres
    exact agree_append h hslots fun hnet => absurd rfl hnet

/-- A renumbered slot and its port are given the same net id. -/
theorem agree_reassign (h : r.Agree) (ident : UInt8) (newNetId : UInt16) :
    (r.reassignInterfaceNetId ident newNetId).2.Agree := by
  rcases hres : r.reassignInterfaceNetId ident newNetId with ⟨e | _, r'⟩
  · rw [reassignInterfaceNetId_error hres]
    exact h
  · obtain ⟨slot, before, after, -, -, -, -, -, hsplit, hslots, -⟩ :=
      reassignInterfaceNetId_ok hres
    intro s hs
    rw [hslots] at hs
    rcases List.mem_append.mp hs with hs | hs
    · exact h s (hsplit ▸ List.mem_append_left _ hs)
    · rcases List.mem_cons.mp hs with rfl | hs
      · intro _ net node hstate
        cases hstate
        exact ⟨rfl, rfl⟩
      · exact h s (hsplit ▸ List.mem_append_right _ (List.mem_cons_of_mem _ hs))

theorem agree_deregister (h : r.Agree) (ident : UInt8) (now : Nat) :
    (r.deregisterInterface ident now).2.Agree := by
  rcases hres : r.deregisterInterface ident now with ⟨e | _, r'⟩
  · rw [deregisterInterface_error hres]
    exact h
  · obtain ⟨slot, -, -, hperm, -⟩ := deregisterInterface_ok hres
    intro s hs
    exact h s (hperm.subset (List.mem_cons_of_mem _ hs))

end Router

/-! ## Runs -/

namespace Transports

variable {κ σ : Type} {N S C : Nat} [SocketVTable κ] [InterfaceSink σ]

/-- One step of the world. -/
theorem agree_step_iff {t : Transports κ σ N S C} (h : t.stack.profile.Agree)
    (hstarted : ∀ w ∈ t.workers, w.Started) (act : TransportAct σ) :
    (t.step act).stack.profile.Agree ↔ t.Conforms act := by
  cases act with
  | register sink now => exact iff_of_true (Router.agree_registerInterface h sink now) trivial
  | registerPending sink => exact iff_of_true (Router.agree_registerInterfacePending h sink) trivial
  | reassign ident newNetId => exact iff_of_true (Router.agree_reassign h ident newNetId) trivial
  | deregister ident now => exact iff_of_true (Router.agree_deregister h ident now) trivial
  | spawn ident netId => exact iff_of_true h trivial
  | spawnUpstream => exact iff_of_true h trivial
  | worker k act =>
    simp only [step, Conforms]
    cases hk : t.workers[k]? with
    | none => exact iff_of_true h fun w slot hw => nomatch hw
    | some w =>
      refine (RxWorker.agree_step (hstarted w (List.mem_of_getElem? hk)) h act).trans ?_
      constructor
      · intro hall w' slot hw
        cases hw
        exact hall slot
      · intro hall slot
        exact hall w slot rfl

theorem started_next {t : Transports κ σ N S C} (hstarted : ∀ w ∈ t.workers, w.Started)
    (act : TransportAct σ) : ∀ w ∈ (t.step act).workers, w.Started := by
  have happend : ∀ {w : RxWorker UInt8}, w.Started → ∀ w' ∈ t.workers ++ [w], w'.Started := by
    intro w hw w' hw'
    rcases List.mem_append.mp hw' with hw' | hw'
    · exact hstarted w' hw'
    · rw [List.mem_singleton.mp hw']
      exact hw
  cases act with
  | register _ _ => exact hstarted
  | registerPending _ => exact hstarted
  | reassign _ _ => exact hstarted
  | deregister _ _ => exact hstarted
  | spawn ident netId => exact happend (.inr ⟨_, rfl⟩)
  | spawnUpstream => exact happend (.inl rfl)
  | worker k act =>
    simp only [step]
    cases hk : t.workers[k]? with
    | none => exact hstarted
    | some w =>
      intro w' hw'
      rcases List.mem_or_eq_of_mem_set hw' with hw' | rfl
      · exact hstarted w' hw'
      · exact RxWorker.started_step (hstarted w (List.mem_of_getElem? hk)) act

/-- The world at start: no link, no worker. -/
def boot (sockets : List (Socket κ)) (r : Router σ N S C) : Transports κ σ N S C :=
  ⟨[], ⟨sockets, r⟩⟩

/-- Every slot agrees with its port in every state of a run exactly when no act of a worker
misfits the slot it writes to. -/
theorem agree_run_iff {r : Router σ N S C} (h : r.Initial) (sockets : List (Socket κ))
    (acts : List (TransportAct σ)) :
    Runs.Always step (fun t act => (t.step act).stack.profile.Agree) (boot sockets r) acts ↔
      Runs.Always step Conforms (boot sockets r) acts := by
  refine Runs.Always_iff (I := fun t : Transports κ σ N S C =>
    t.stack.profile.Agree ∧ ∀ w ∈ t.workers, w.Started) ?_ ?_ ?_ acts
  · rintro t act ⟨hagree, hstarted⟩
    exact agree_step_iff hagree hstarted act
  · rintro t act ⟨hagree, hstarted⟩ hact
    exact ⟨(agree_step_iff hagree hstarted act).mpr hact, started_next hstarted act⟩
  · refine ⟨fun s hs => ?_, fun w hw => nomatch hw⟩
    cases h <;> exact nomatch hs

end Transports

/-! ## A reconnect, and a stale processor -/

namespace Transports

/-- A root router without links. -/
def demoHub : Transports OwnedSocket FrameQueue 4 0 0 :=
  boot [] (.new ⟨fun _ => 0, 0⟩ Router.four_slots)

/-- A request from the link with ident 0. -/
def demoRequest : WorkerAct :=
  .frame (emptyFrame 0 2 0 1) ⟨0, .at 0, .at 0⟩

/-- A USB device is registered, unplugged and plugged in again. -/
def demoReplug : List (TransportAct FrameQueue) :=
  [.register ⟨1000, 4, []⟩ 0, .spawn 0 1, .worker 0 .setDown, .worker 0 .connected]

/-- A link is renumbered from net 1 to net 7, then is silent for a while. -/
def demoRenumbered : List (TransportAct FrameQueue) :=
  [.register ⟨1000, 4, []⟩ 0, .spawn 0 1, .worker 0 demoRequest, .reassign 0 7,
    .worker 0 (.livenessTimeout false), .worker 0 demoRequest]

/-- The nets and port states of a router. -/
def demoTable (acts : List (TransportAct FrameQueue)) : List (UInt16 × InterfaceState) :=
  (Runs.runAll step demoHub acts).stack.profile.slots.toList.map
    fun s => (s.netId, s.port.state)

theorem slot_port_disagree :
    demoTable demoReplug = [(1, .active 0 2)] ∧ demoTable demoRenumbered = [(7, .active 1 1)] ∧
      ¬ Runs.Always step (fun t act => (t.step act).stack.profile.Agree) demoHub
        demoReplug ∧
      ¬ Runs.Always step (fun t act => (t.step act).stack.profile.Agree) demoHub
        demoRenumbered := by
  refine ⟨by decide, by decide, ?_, ?_⟩
  · rintro ⟨-, -, -, h, -⟩
    have hslot := h _ List.mem_cons_self (by decide) _ _ rfl
    revert hslot
    decide
  · rintro ⟨-, -, -, -, -, h, -⟩
    have hslot := h _ List.mem_cons_self (by decide) _ _ rfl
    revert hslot
    decide

/-- A link is silent for a while, unplugged, and plugged in again by a driver that writes the net id
of the slot. Another is pending, and then given a net id; the first is deregistered. -/
def demoSilent : List (TransportAct FrameQueue) :=
  [.register ⟨1000, 4, []⟩ 0, .spawn 0 1, .worker 0 demoRequest,
    .worker 0 (.livenessTimeout false), .worker 0 demoRequest, .worker 0 .setDown,
    .worker 0 (.run (.active 1 1)), .registerPending ⟨1000, 4, []⟩, .reassign 1 5, .deregister 0 0]

theorem agree_run_iff_demo :
    Runs.Always step (fun t act => (t.step act).stack.profile.Agree) demoHub demoSilent := by
  refine (agree_run_iff (.root _ _) [] demoSilent).mpr
    ⟨trivial, trivial, ?_, ?_, ?_, ?_, ?_, trivial, trivial, trivial, trivial⟩
  · rintro w slot ⟨⟩ - ⟨⟩ - ⟨s, -, -, hstate, -⟩
    cases hstate
  · rintro w slot ⟨⟩ - ⟨⟩ - ⟨hlink, -⟩
    cases hlink
  · rintro w slot ⟨⟩ - ⟨⟩ - ⟨s, hs, -, -, hne⟩
    cases hs
    exact hne rfl
  · rintro w slot ⟨⟩ - ⟨⟩ - ⟨⟩
  · rintro w slot ⟨⟩ - ⟨⟩ - ⟨-, netId, nodeId, hactive, hne⟩
    cases hactive
    exact hne ⟨rfl, rfl⟩

end Transports

end Ergot
