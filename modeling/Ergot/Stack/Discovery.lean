import Ergot.Stack.Faces

/-!
# Discovery over transport transitions

A frame processor remembers what it has done to its interface, and the worker that
holds it writes the state of the same interface by itself. `Unstuck` says that the
memory is still true and that a frame still does what it should:

- an edge processor that considers itself activated is right about the net id, and a
  frame addressed to it brings the interface onto a net;
- a router processor brings an `Inactive` interface back with any frame.

Boot, frames, liveness timeouts and resets keep this. The transitions that write the
state and do not reset the processor keep it as long as the processor is not activated
(`Undisturbed`), and break it otherwise (`discovery_unstuck_iff`).
-/

namespace Ergot

variable {κ P ι : Type}

/-! ## What a processor remembers -/

/-- Whether an interface is on a net, or is managed by the claim protocol. -/
def InterfaceState.OnNet : InterfaceState → Prop
  | .active netId _ => netId ≠ 0
  | .activeLocal _ => True
  | .down | .inactive => False

instance InterfaceState.OnNet.decidable : (s : InterfaceState) → Decidable s.OnNet
  | .active netId _ => inferInstanceAs (Decidable (netId ≠ 0))
  | .activeLocal _ => inferInstanceAs (Decidable True)
  | .down | .inactive => inferInstanceAs (Decidable False)

/-- The processor is right about an interface that it considers activated. -/
def EdgeFrameProcessor.Agrees (s : EdgeFrameProcessor) : InterfaceState → Prop
  | .active netId _ => netId ≠ 0 ∧ s.netId = some netId
  | .activeLocal _ => True
  | .down | .inactive => False

instance EdgeFrameProcessor.Agrees.decidable (s : EdgeFrameProcessor) :
    (state : InterfaceState) → Decidable (s.Agrees state)
  | .active netId _ => inferInstanceAs (Decidable (netId ≠ 0 ∧ s.netId = some netId))
  | .activeLocal _ => inferInstanceAs (Decidable True)
  | .down | .inactive => inferInstanceAs (Decidable False)

theorem EdgeFrameProcessor.Agrees.onNet {s : EdgeFrameProcessor} {state : InterfaceState}
    (h : s.Agrees state) : state.OnNet := by
  cases state with
  | active netId nodeId => exact h.1
  | activeLocal nodeId => trivial
  | down => exact h
  | inactive => exact h

namespace EdgeFrameProcessor

section Discover

variable [Profile P ι] [Interfaces P] {s : EdgeFrameProcessor} {p : P} {ident : ι}
  {ifState : InterfaceState}

/-- The processor once it has settled on a net id. -/
def adopted (s : EdgeFrameProcessor) (net : UInt16) (donated : Bool) : EdgeFrameProcessor :=
  if donated then { s with netId := some net, activated := true, rediscovering := false }
  else { s with netId := some net }

theorem adopt_processor {net : UInt16} (hknown : (Profile.interfaceState p ident).isSome)
    (hown : (InterfaceState.active net s.ownNode).Valid) (donated : Bool) :
    (s.adopt p ident ifState net donated).processor = s.adopted net donated := by
  have hset := (Interfaces.set_ok p ident (.active net s.ownNode)).mpr ⟨hown, hknown⟩
  unfold adopt
  by_cases hsame : ifState = .active net s.ownNode
  · simp only [hsame, if_true, adopted]
  · simp only [hsame, if_false]
    rcases hres : Profile.setInterfaceState p ident (.active net s.ownNode) with ⟨res, p'⟩
    rw [hres] at hset
    cases hset
    rfl

/-- How a processor comes out of the discovery window, on an interface it knows. -/
inductive Discovers (s : EdgeFrameProcessor) (p : P) (dst : Address) (now : Nat)
    (ifState : InterfaceState) : EdgeFrameProcessor → Prop
  | steady (hactive : s.activated = true) : Discovers s p dst now ifState s
  | claimed {nodeId : UInt8} (hactive : s.activated = false)
      (hlocal : ifState = .activeLocal nodeId) :
      Discovers s p dst now ifState { s with activated := true }
  | preset {netId : UInt16} {nodeId : UInt8} (hactive : s.activated = false)
      (hopen : s.opens ifState = false) (hstate : ifState = .active netId nodeId)
      (hnet : netId ≠ 0) :
      Discovers s p dst now ifState { s with netId := some netId, activated := true }
  | unknown (hactive : s.activated = false) (hopen : s.opens ifState = true)
      (hnet : s.settles p dst now = none) : Discovers s p dst now ifState s
  | settled {net : UInt16} (hactive : s.activated = false) (hopen : s.opens ifState = true)
      (hnet : s.settles p dst now = some net) :
      Discovers s p dst now ifState (s.adopted net (s.donates p dst now).1)

theorem discovers (hown : ∀ net, (InterfaceState.active net s.ownNode).Valid)
    (hstate : Profile.interfaceState p ident = some ifState) (dst : Address) (now : Nat) :
    s.Discovers p dst now ifState (s.discover p dst ident now).processor := by
  cases hactive : s.activated with
  | true =>
    -- an activated processor does not look at the interface
    have hd : s.discover p dst ident now = ⟨true, false, s, p⟩ := by simp [discover, hactive]
    rw [hd]
    exact .steady hactive
  | false =>
    cases hopen : s.opens ifState with
    | false =>
      cases ifState with
      | down => cases hopen
      | inactive => cases hopen
      | activeLocal nodeId =>
        have hd : s.discover p dst ident now = ⟨true, false, { s with activated := true }, p⟩ := by
          simp [discover, hactive, hstate]
        rw [hd]
        exact .claimed hactive rfl
      | active netId nodeId =>
        have hnet : netId ≠ 0 ∧ s.rediscovering = false := by simpa [opens] using hopen
        have hd : s.discover p dst ident now =
            ⟨true, false, { s with netId := some netId, activated := true }, p⟩ := by
          simp [discover, hactive, hstate, hnet.1, hnet.2]
        rw [hd]
        exact .preset hactive hopen rfl hnet.1
    | true =>
      rw [s.discover_of_opens hactive hstate hopen, window_eq]
      cases hnet : s.settles p dst now with
      | none => exact .unknown hactive hopen hnet
      | some net =>
        have hknown : (Profile.interfaceState (s.donates p dst now).2 ident).isSome := by
          rw [s.donates_view (Interfaces.view ident), hstate]
          rfl
        simp only [adopt_processor hknown (hown net)]
        exact .settled hactive hopen hnet

end Discover

/-- The node id of a processor is that of its role on the link. -/
def RoleNode (s : EdgeFrameProcessor) : Prop := s.ownNode = edgeNodeId ∨ s.ownNode = centralNodeId

theorem RoleNode.valid {s : EdgeFrameProcessor} (h : s.RoleNode) (netId : UInt16) :
    (InterfaceState.active netId s.ownNode).Valid := by
  rcases h with h | h
  · rw [h]
    exact InterfaceState.valid_edge netId
  · rw [h]
    exact InterfaceState.valid_central netId

section Frame

variable [SocketVTable κ] [Profile P ι] [Interfaces P] {s : EdgeFrameProcessor}
  {st : NetStack κ P} {ident : ι} {ifState : InterfaceState}

omit [Interfaces P] in
theorem processFrame_processor (frame : BorrowedFrame) (clock : FrameClock) :
    (s.processFrame frame st ident clock).2.1 =
      (s.discover st.profile frame.hdr.dst ident clock.check).processor := by
  unfold processFrame
  dsimp only
  split <;> rfl

/-- A processor keeps its node id. -/
theorem processFrame_ownNode (hrole : s.RoleNode) (frame : BorrowedFrame) (clock : FrameClock) :
    (s.processFrame frame st ident clock).2.1.ownNode = s.ownNode := by
  rw [processFrame_processor]
  cases hstate : Profile.interfaceState st.profile ident with
  | none =>
    unfold discover
    rw [hstate]
    split <;> rfl
  | some ifState =>
    have hcases := discovers hrole.valid hstate frame.hdr.dst clock.check
    generalize (s.discover st.profile frame.hdr.dst ident clock.check).processor = s' at hcases ⊢
    cases hcases with
    | steady _ => rfl
    | claimed _ _ => rfl
    | preset _ _ _ _ => rfl
    | unknown _ _ _ => rfl
    | settled _ _ _ =>
      unfold adopted
      split <;> rfl

/-- Where the discovery window is closed, a frame leaves the interface as it was. -/
theorem processFrame_state_of_closed (hstate : Profile.interfaceState st.profile ident = some ifState)
    (h : s.activated = true ∨ s.opens ifState = false) (frame : BorrowedFrame) (clock : FrameClock) :
    Profile.interfaceState (s.processFrame frame st ident clock).2.2.profile ident =
      some ifState := by
  have hnone : s.written st.profile frame.hdr.dst ident clock.check = none := by
    unfold written
    rw [hstate]
    split
    · next ifState' net heq hnet =>
      cases heq
      rw [if_neg]
      rintro ⟨hactive, hopen, -⟩
      rcases h with h | h
      · rw [hactive] at h
        cases h
      · rw [hopen] at h
        cases h
    · rfl
  rw [s.processFrame_view (Interfaces.view ident), hnone]
  exact hstate

/-- Where it is open, a frame brings the interface onto the net it settles on. -/
theorem processFrame_state_of_opens (hstate : Profile.interfaceState st.profile ident = some ifState)
    (hactive : s.activated = false) (hopen : s.opens ifState = true) (hrole : s.RoleNode)
    (frame : BorrowedFrame) (clock : FrameClock) :
    Profile.interfaceState (s.processFrame frame st ident clock).2.2.profile ident =
      match s.settles st.profile frame.hdr.dst clock.check with
      | none => some ifState
      | some net => some (.active net s.ownNode) := by
  rw [s.processFrame_view (Interfaces.view ident), written, hstate]
  cases s.settles st.profile frame.hdr.dst clock.check with
  | none => rfl
  | some net =>
    by_cases hsame : ifState = .active net s.ownNode
    · simp [hsame, applyWrite]
    · simp [hactive, hopen, hsame, applyWrite, writeState, hrole.valid net]

/-- The processor remembers no net that its interface is not on. -/
def Truthful (s : EdgeFrameProcessor) (p : P) (ident : ι) : Prop :=
  s.activated = true → ∀ state, Profile.interfaceState p ident = some state → s.Agrees state

/-- A frame for the processor's own node, on a net that is not routed elsewhere. -/
def Addressed (s : EdgeFrameProcessor) (p : P) (dst : Address) (now : Nat) : Prop :=
  dst.networkId ≠ 0 ∧ dst.nodeId = s.ownNode ∧ (Profile.isTransitNet p dst.networkId now).1 = false

omit [Interfaces P] in
theorem donates_iff (s : EdgeFrameProcessor) (p : P) (dst : Address) (now : Nat) :
    (s.donates p dst now).1 = true ↔ s.Addressed p dst now := by
  unfold donates Addressed
  split
  · next h => simp [h.1, h.2]
  · next h =>
    constructor
    · intro h'
      cases h'
    · intro h'
      exact absurd ⟨h'.1, h'.2.1⟩ h

omit [SocketVTable κ] [Interfaces P] in
theorem settles_of_donates {p : P} {dst : Address} {now : Nat} {net : UInt16}
    (h : (s.donates p dst now).1 = true) (hnet : s.settles p dst now = some net) : net ≠ 0 := by
  unfold settles at hnet
  rw [if_pos h] at hnet
  cases hnet
  exact ((s.donates_iff p dst now).mp h).1

/-- A frame leaves the processor truthful, and one that is addressed to it brings the
interface onto a net. -/
theorem processFrame_truthful (hrole : s.RoleNode) (htrue : s.Truthful st.profile ident)
    (frame : BorrowedFrame) (clock : FrameClock) :
    (s.processFrame frame st ident clock).2.1.Truthful
        (s.processFrame frame st ident clock).2.2.profile ident ∧
      (s.Addressed st.profile frame.hdr.dst clock.check →
        ∀ state, Profile.interfaceState (s.processFrame frame st ident clock).2.2.profile ident =
          some state → state.OnNet) := by
  cases hstate : Profile.interfaceState st.profile ident with
  | none =>
    have hafter : Profile.interfaceState (s.processFrame frame st ident clock).2.2.profile ident =
        none := by
      rw [s.processFrame_view (Interfaces.view ident), written, hstate]
      rfl
    constructor
    · intro _ state h
      rw [hafter] at h
      cases h
    · intro _ state h
      rw [hafter] at h
      cases h
  | some ifState =>
    have hcases := discovers hrole.valid hstate frame.hdr.dst clock.check
    rw [← processFrame_processor (s := s) frame clock] at hcases
    -- what is to be shown of the one state the interface is in afterwards
    have hgoal : ∀ {s' : EdgeFrameProcessor} {after : InterfaceState},
        Profile.interfaceState (s.processFrame frame st ident clock).2.2.profile ident = some after →
        (s'.activated = true → s'.Agrees after) →
        (s.Addressed st.profile frame.hdr.dst clock.check → after.OnNet) →
        s'.Truthful (s.processFrame frame st ident clock).2.2.profile ident ∧
          (s.Addressed st.profile frame.hdr.dst clock.check →
            ∀ state, Profile.interfaceState (s.processFrame frame st ident clock).2.2.profile ident =
              some state → state.OnNet) := by
      intro s' after hafter hagree honnet
      constructor
      · intro hactive state h
        cases hafter.symm.trans h
        exact hagree hactive
      · intro haddr state h
        cases hafter.symm.trans h
        exact honnet haddr
    generalize (s.processFrame frame st ident clock).2.1 = s' at hcases
    cases hcases with
    | steady hactive =>
      -- it was right before, and nothing was written
      have hagree := htrue hactive ifState hstate
      exact hgoal (processFrame_state_of_closed hstate (.inl hactive) frame clock)
        (fun _ => hagree) fun _ => hagree.onNet
    | claimed hactive hlocal =>
      subst hlocal
      exact hgoal (processFrame_state_of_closed hstate (.inr rfl) frame clock)
        (fun _ => trivial) fun _ => trivial
    | preset hactive hopen hpreset hnet =>
      subst hpreset
      exact hgoal (processFrame_state_of_closed hstate (.inr hopen) frame clock)
        (fun _ => ⟨hnet, rfl⟩) fun _ => hnet
    | unknown hactive hopen hnet =>
      have hafter := processFrame_state_of_opens hstate hactive hopen hrole frame clock
      rw [hnet] at hafter
      refine hgoal hafter (fun h => ?_) fun haddr => ?_
      · rw [hactive] at h
        cases h
      · -- a donor would have been settled on
        rw [settles, if_pos ((s.donates_iff _ _ _).mpr haddr)] at hnet
        cases hnet
    | settled hactive hopen hnet =>
      -- only a donor activates; the sticky net id leaves the window open
      next net =>
      have hafter := processFrame_state_of_opens hstate hactive hopen hrole frame clock
      rw [hnet] at hafter
      refine hgoal hafter (fun h => ?_) fun haddr => ?_
      · cases hdonates : (s.donates st.profile frame.hdr.dst clock.check).1 with
        | true =>
          exact ⟨settles_of_donates hdonates hnet, rfl⟩
        | false =>
          rw [hdonates] at h
          exact absurd (hactive.symm.trans h) Bool.false_ne_true
      · exact settles_of_donates ((s.donates_iff _ _ _).mpr haddr) hnet

end Frame

end EdgeFrameProcessor

/-! ## Workers -/

namespace RxWorker

variable [SocketVTable κ] [Profile P ι]

/-- Discovery is not stuck: the processor is right about its interface, and the next
frame does what it should. -/
def Unstuck (w : RxWorker ι) (st : NetStack κ P) : Prop :=
  match w.processor with
  | .edge s =>
    s.Truthful st.profile w.ident ∧
      ∀ frame clock, s.Addressed st.profile frame.hdr.dst clock.check →
        ∀ state, Profile.interfaceState (w.step st (.frame frame clock)).2.profile w.ident =
          some state → state.OnNet
  | .router _ =>
    ∀ frame clock, Profile.interfaceState st.profile w.ident = some .inactive →
      ∃ netId nodeId, Profile.interfaceState (w.step st (.frame frame clock)).2.profile w.ident =
        some (.active netId nodeId)

/-- A transition that leaves the interface in a state an activated processor does not
expect. -/
def Disturbs (processor : FrameProcessor) (old : InterfaceState) : WorkerAct → Prop
  | .run initialState =>
    match processor with
    | .edge s => initialState.Valid ∧ ¬ s.Agrees initialState
    | .router _ => initialState = .inactive
  | .setDown => ∃ s, processor = .edge s
  | .connected => (∃ s, processor = .edge s) ∧ ∀ netId nodeId, old ≠ .active netId nodeId
  | .frame _ _ | .livenessTimeout _ | .reset => False

/-- Transitions that disturb find the processor not activated, or no interface. -/
def Undisturbed (w : RxWorker ι) (st : NetStack κ P) (act : WorkerAct) : Prop :=
  w.processor.activated = true →
    ∀ old, Profile.interfaceState st.profile w.ident = some old → ¬ Disturbs w.processor old act

/-- The node id of an edge processor is that of its role. -/
def RoleNode (w : RxWorker ι) : Prop :=
  match w.processor with
  | .edge s => s.RoleNode
  | .router _ => True

variable [Interfaces P] {ident : ι} {st : NetStack κ P}

/-- What an act does to the state of the interface. -/
theorem step_interfaceState (w : RxWorker ι) (st : NetStack κ P) (act : WorkerAct) :
    Profile.interfaceState (w.step st act).2.profile w.ident =
      applyWrite writeState (w.written st.profile act) (Profile.interfaceState st.profile w.ident) :=
  w.step_view (Interfaces.view w.ident) st act

theorem applyWrite_none (written : Option InterfaceState) :
    applyWrite writeState written none = none := by
  cases written with
  | none => rfl
  | some state =>
    show writeState state none = none
    unfold writeState
    split <;> rfl

section Edge

variable {s : EdgeFrameProcessor}

theorem unstuck_edge (hrole : s.RoleNode) :
    (⟨ident, .edge s⟩ : RxWorker ι).Unstuck st ↔ s.Truthful st.profile ident := by
  constructor
  · intro h
    exact h.1
  · intro htrue
    refine ⟨htrue, fun frame clock haddr => ?_⟩
    exact (EdgeFrameProcessor.processFrame_truthful hrole htrue frame clock).2 haddr

/-- The acts that keep the processor as it is. -/
theorem truthful_after_iff {act : WorkerAct} (htrue : s.Truthful st.profile ident)
    (hdisturbs : ∀ old, Profile.interfaceState st.profile ident = some old →
      s.activated = true →
      (Disturbs (.edge s) old act ↔
        ∃ state, (⟨ident, .edge s⟩ : RxWorker ι).written st.profile act = some state ∧
          state.Valid ∧ ¬ s.Agrees state)) :
    s.Truthful ((⟨ident, .edge s⟩ : RxWorker ι).step st act).2.profile ident ↔
      (⟨ident, .edge s⟩ : RxWorker ι).Undisturbed st act := by
  -- an activated processor is wrong afterwards if the act writes what it does not expect
  have hafter := step_interfaceState (⟨ident, .edge s⟩ : RxWorker ι) st act
  refine imp_congr_right fun (hactive : s.activated = true) => ?_
  simp only [hafter]
  cases hold : Profile.interfaceState st.profile ident with
  | none => simp [applyWrite_none]
  | some old =>
    have hagree := htrue hactive old hold
    have hdisturbs := hdisturbs old hold hactive
    simp only [Option.some.injEq, forall_eq', hdisturbs]
    cases (⟨ident, .edge s⟩ : RxWorker ι).written st.profile act with
    | none => simp [applyWrite, hagree]
    | some state =>
      by_cases hvalid : state.Valid
      · simp [applyWrite, writeState, hvalid]
      · simp [applyWrite, writeState, hvalid, hagree]

theorem step_roleNode (hrole : s.RoleNode) (act : WorkerAct) :
    ((⟨ident, .edge s⟩ : RxWorker ι).step st act).1.RoleNode := by
  cases act with
  | frame frame clock =>
    show EdgeFrameProcessor.RoleNode (s.processFrame frame st ident clock).2.1
    unfold EdgeFrameProcessor.RoleNode
    rw [EdgeFrameProcessor.processFrame_ownNode hrole]
    exact hrole
  | livenessTimeout _ => exact hrole
  | reset => exact hrole
  | run _ => exact hrole
  | setDown => exact hrole
  | connected => exact hrole

/-- One act of the worker of an edge device. -/
theorem truthful_step_iff (hrole : s.RoleNode) (htrue : s.Truthful st.profile ident)
    (act : WorkerAct) :
    (((⟨ident, .edge s⟩ : RxWorker ι).step st act).1.Unstuck
        ((⟨ident, .edge s⟩ : RxWorker ι).step st act).2) ↔
      (⟨ident, .edge s⟩ : RxWorker ι).Undisturbed st act := by
  have hreset : s.reset.RoleNode := hrole
  cases act with
  | frame frame clock =>
    have htrue' := (EdgeFrameProcessor.processFrame_truthful hrole htrue frame clock).1
    have hrole' : ((⟨ident, .edge s⟩ : RxWorker ι).step st (.frame frame clock)).1.RoleNode :=
      step_roleNode hrole _
    exact iff_of_true ((unstuck_edge hrole').mpr htrue') fun _ _ _ h => h
  | livenessTimeout linkLocalOnTimeout =>
    refine iff_of_true ((unstuck_edge hreset).mpr fun h => ?_) fun _ _ _ h => h
    cases h
  | reset =>
    refine iff_of_true ((unstuck_edge hreset).mpr fun h => ?_) fun _ _ _ h => h
    cases h
  | run initialState =>
    refine (unstuck_edge hrole).trans (truthful_after_iff htrue fun old _ _ => ?_)
    simp [Disturbs, written]
  | setDown =>
    refine (unstuck_edge hrole).trans (truthful_after_iff htrue fun old _ _ => ?_)
    refine iff_of_true ⟨s, rfl⟩ ⟨.down, rfl, trivial, fun h => h⟩
  | connected =>
    refine (unstuck_edge hrole).trans (truthful_after_iff htrue fun old hold _ => ?_)
    constructor
    · rintro ⟨-, hold'⟩
      refine ⟨.edgeLinkLocal, ?_, by decide, fun h => h.1 rfl⟩
      simp only [written, hold]
      cases old with
      | active netId nodeId => exact absurd rfl (hold' netId nodeId)
      | down => rfl
      | inactive => rfl
      | activeLocal nodeId => rfl
    · rintro ⟨state, hwritten, -⟩
      refine ⟨⟨s, rfl⟩, ?_⟩
      rintro netId nodeId rfl
      simp [written, hold] at hwritten

end Edge

section Router

variable {s : RouterFrameProcessor}

theorem unstuck_router :
    (⟨ident, .router s⟩ : RxWorker ι).Unstuck st ↔
      (Profile.interfaceState st.profile ident = some .inactive → s.activated = false) := by
  have hafter := fun frame clock =>
    step_interfaceState (⟨ident, .router s⟩ : RxWorker ι) st (.frame frame clock)
  constructor
  · intro h hstate
    by_contra hactive
    have clock : FrameClock := ⟨0, ⟨0, 0, Nat.le_refl _⟩, ⟨0, 0, Nat.le_refl _⟩⟩
    obtain ⟨netId, nodeId, h⟩ := h (emptyFrame 0 2 0 1) clock hstate
    rw [hafter] at h
    simp [written, RouterFrameProcessor.written, hactive, hstate, applyWrite] at h
  · intro h frame clock hstate
    refine ⟨s.netId, centralNodeId, ?_⟩
    rw [hafter]
    simp [written, RouterFrameProcessor.written, h hstate, hstate, applyWrite, writeState]

/-- One act of the worker of a router slot. -/
theorem router_step_iff (h : (⟨ident, .router s⟩ : RxWorker ι).Unstuck st) (act : WorkerAct) :
    (((⟨ident, .router s⟩ : RxWorker ι).step st act).1.Unstuck
        ((⟨ident, .router s⟩ : RxWorker ι).step st act).2) ↔
      (⟨ident, .router s⟩ : RxWorker ι).Undisturbed st act := by
  have hbefore := unstuck_router.mp h
  have hafter := step_interfaceState (⟨ident, .router s⟩ : RxWorker ι) st act
  cases act with
  | frame frame clock =>
    -- after a frame the interface is not `Inactive`
    refine iff_of_true (unstuck_router.mpr fun hstate => absurd hstate ?_) fun _ _ _ h => h
    rw [hafter]
    by_cases hin : Profile.interfaceState st.profile ident = some .inactive
    · simp [written, RouterFrameProcessor.written, hbefore hin, hin, applyWrite, writeState]
    · simp [written, RouterFrameProcessor.written, hin, applyWrite]
  | livenessTimeout linkLocalOnTimeout =>
    exact iff_of_true (unstuck_router.mpr fun _ => rfl) fun _ _ _ h => h
  | reset =>
    exact iff_of_true (unstuck_router.mpr fun _ => rfl) fun _ _ _ h => h
  | run initialState =>
    -- the one act that can leave the interface `Inactive` behind the processor's back
    refine unstuck_router.trans ?_
    rw [hafter]
    cases hstate : Profile.interfaceState st.profile ident with
    | none => simp [Undisturbed, hstate, applyWrite_none]
    | some old =>
      by_cases hinit : initialState = .inactive
      · subst hinit
        simp [Undisturbed, Disturbs, FrameProcessor.activated, written, hstate, applyWrite,
          writeState]
      · by_cases hvalid : initialState.Valid
        · simp [Undisturbed, Disturbs, written, hstate, applyWrite, writeState, hvalid, hinit]
        · rw [hstate] at hbefore
          simp only [written, applyWrite, writeState, hvalid, if_false]
          exact iff_of_true hbefore fun _ _ _ h => hinit h
  | setDown =>
    refine iff_of_true (unstuck_router.mpr fun hstate => absurd hstate ?_) fun _ _ _ h => ?_
    · rw [hafter]
      simp [written, applyWrite, writeState]
    · obtain ⟨s', h⟩ := h
      cases h
  | connected =>
    refine iff_of_true (unstuck_router.mpr fun hstate => absurd hstate ?_) fun _ _ _ h => ?_
    · rw [hafter]
      cases hold : Profile.interfaceState st.profile ident with
      | none => simp [applyWrite_none]
      | some old =>
        cases old <;>
          simp [written, hold, applyWrite, writeState, InterfaceState.edgeLinkLocal]
    · obtain ⟨⟨s', h⟩, -⟩ := h
      cases h

end Router

/-- One act of a worker. -/
theorem unstuck_step_iff {w : RxWorker ι} (hrole : w.RoleNode) (h : w.Unstuck st)
    (act : WorkerAct) :
    (w.step st act).1.Unstuck (w.step st act).2 ↔ w.Undisturbed st act := by
  rcases w with ⟨ident, s | s⟩
  · exact router_step_iff h act
  · exact truthful_step_iff hrole ((unstuck_edge hrole).mp h) act

theorem roleNode_step {w : RxWorker ι} (hrole : w.RoleNode) (act : WorkerAct) :
    (w.step st act).1.RoleNode := by
  rcases w with ⟨ident, s | s⟩
  · cases act <;> trivial
  · exact step_roleNode hrole act

end RxWorker

/-! ## Runs -/

/-- What a processor is made for: `EdgeFrameProcessor::new`,
`EdgeFrameProcessor::new_controller` or `RouterFrameProcessor::new`. -/
inductive Role
  | target
  | controller (netId : UInt16)
  | router (netId : UInt16)

/-- The processor a worker starts with. -/
def FrameProcessor.boot : Role → FrameProcessor
  | .target => .edge .new
  | .controller netId => .edge (.newController netId)
  | .router netId => .router (.new netId)

namespace RxWorker

variable [SocketVTable κ]

theorem unstuck_run_iff [Profile P ι] [Interfaces P] (role : Role) (ident : ι)
    (st : NetStack κ P) (acts : List WorkerAct) :
    Runs.Always next (fun s act => (next s act).1.Unstuck (next s act).2)
        (⟨ident, .boot role⟩, st) acts ↔
      Runs.Always next (fun s act => s.1.Undisturbed s.2 act) (⟨ident, .boot role⟩, st) acts := by
  refine Runs.Always_iff (I := fun s => s.1.Unstuck s.2 ∧ s.1.RoleNode) ?_ ?_ ?_ acts
  · rintro ⟨w, st⟩ act ⟨h, hrole⟩
    exact unstuck_step_iff hrole h act
  · rintro ⟨w, st⟩ act ⟨h, hrole⟩ hact
    exact ⟨(unstuck_step_iff hrole h act).mpr hact, roleNode_step hrole act⟩
  · -- at boot, no processor is activated
    cases role with
    | target => exact ⟨(unstuck_edge (.inl rfl)).mpr fun h => absurd h Bool.false_ne_true, .inl rfl⟩
    | controller netId => exact ⟨(unstuck_edge (.inr rfl)).mpr fun h => absurd h Bool.false_ne_true,
        .inr rfl⟩
    | router netId => exact ⟨unstuck_router.mpr fun _ => rfl, trivial⟩

/-- Discovery is never stuck along a run exactly when no transition of the transport
disturbs an activated processor. -/
theorem discovery_unstuck_iff {σ : Type} [InterfaceSink σ] {N S C : Nat} (role : Role)
    (acts : List WorkerAct) :
    (∀ st : NetStack κ (DirectEdge σ),
      Runs.Always next (fun s act => (next s act).1.Unstuck (next s act).2)
          (⟨(), .boot role⟩, st) acts ↔
        Runs.Always next (fun s act => s.1.Undisturbed s.2 act) (⟨(), .boot role⟩, st) acts) ∧
      ∀ (ident : UInt8) (st : NetStack κ (Router σ N S C)),
        Runs.Always next (fun s act => (next s act).1.Unstuck (next s act).2)
            (⟨ident, .boot role⟩, st) acts ↔
          Runs.Always next (fun s act => s.1.Undisturbed s.2 act)
            (⟨ident, .boot role⟩, st) acts :=
  ⟨fun st => unstuck_run_iff role () st acts, fun ident st => unstuck_run_iff role ident st acts⟩

end RxWorker

/-! ## A reconnect -/

/-- The clock does not matter here. -/
def demoFrameClock : FrameClock := ⟨0, ⟨0, 0, Nat.le_refl _⟩, ⟨0, 0, Nat.le_refl _⟩⟩

/-- A USB device that has not been plugged in yet. -/
def demoDevice : RxWorker Unit × NetStack OwnedSocket (DirectEdge FrameQueue) :=
  (⟨(), .boot .target⟩, ⟨[], .newTarget ⟨1000, 4, []⟩⟩)

/-- It is plugged in, hears from the host, and is unplugged and plugged in again. -/
def demoReconnect : List WorkerAct :=
  [.connected, .frame (emptyFrame 1 1 1 2) demoFrameClock, .setDown, .connected]

/-- A router with one slot, which is inactive. -/
def demoSlot : RxWorker UInt8 × NetStack OwnedSocket (Router FrameQueue 4 0 0) :=
  (⟨0, .boot (.router 1)⟩,
    ⟨[], ((Router.new ⟨fun _ => 0, 0⟩ Router.four_slots).registerInterface ⟨1000, 4, []⟩ 0).2⟩)

/-- Its serial port is opened, works, fails, and is opened again. -/
def demoReopen : List WorkerAct :=
  [.run .inactive, .frame (emptyFrame 0 2 0 1) demoFrameClock, .setDown, .run .inactive]

/-- After the reconnect the device stays on link-local addresses, and the slot stays
inactive, whatever they hear. -/
theorem reconnect_stuck :
    ¬ Runs.Always RxWorker.next (fun s act => (RxWorker.next s act).1.Unstuck (RxWorker.next s act).2)
        demoDevice demoReconnect ∧
      ¬ Runs.Always RxWorker.next
        (fun s act => (RxWorker.next s act).1.Unstuck (RxWorker.next s act).2) demoSlot demoReopen := by
  constructor
  · rintro ⟨-, -, -, ⟨-, h⟩, -⟩
    have haddr := h (emptyFrame 1 1 1 2) demoFrameClock ⟨by decide, by decide, by decide⟩
      (.active 0 2) (by decide)
    exact haddr rfl
  · rintro ⟨-, -, -, h, -⟩
    obtain ⟨netId, nodeId, h⟩ := h (emptyFrame 0 2 0 1) demoFrameClock (by decide)
    cases h

end Ergot
