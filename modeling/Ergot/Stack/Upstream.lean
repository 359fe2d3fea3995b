import Ergot.Router.Segment
import Ergot.Stack.Discovery

/-!
# The upstream's own network

A bridge learns the net id of its upstream from the frames it hears there, and routes net ids of
its own: those of its slots and of its seed routes. The two must not meet.

- A donor is checked: `donates` asks `is_transit_net`.
- The net id that the processor remembers is not checked again when it is used after a reset.
- The router keeps the upstream's net id out of its tables, but only while the upstream is
  `Active` with it.

`adoptsOwn_run_iff` says that the remembered net id is the one way to go wrong, and which operations
have to be kept from it.
-/

namespace Ergot

open Runs

/-! ## The net ids that a router routes -/

namespace Router

variable {σ : Type} {N S C : Nat}

/-- A slot or a seed route has the net id, even a route that has run out. -/
def Routed (r : Router σ N S C) (net : UInt16) : Prop :=
  net ≠ 0 ∧ (net ∈ r.slots.toList.map Slot.netId ∨ net ∈ r.seedRoutes.keys)

/-- What is transit is routed. -/
theorem Routed.of_isTransitNet {r : Router σ N S C} {net : UInt16} {now : Nat}
    (h : (r.isTransitNet net now).1 = true) : r.Routed net := by
  unfold isTransitNet at h
  split at h
  · cases h
  · next hne =>
    refine ⟨hne, ?_⟩
    split at h
    · next hslot =>
      obtain ⟨s, hs, hnet⟩ := List.any_eq_true.mp hslot
      exact .inl (List.mem_map.mpr ⟨s, hs, by simpa using hnet⟩)
    · exact .inr (LeaseTable.mem_keys_of_containsKeyAt h)

/-- After a look-up that says no, the net id is not routed. -/
theorem not_routed_of_isTransitNet {r : Router σ N S C} (hkeys : r.seedRoutes.keys.Nodup)
    {net : UInt16} {now : Nat} (h : (r.isTransitNet net now).1 = false) :
    ¬ (r.isTransitNet net now).2.Routed net := by
  rintro ⟨hne, hrouted⟩
  unfold isTransitNet at h hrouted
  rw [if_neg hne] at h hrouted
  split at h
  · cases h
  · next hslot =>
    rw [if_neg hslot] at hrouted
    rcases hrouted with hrouted | hrouted
    · obtain ⟨s, hs, hnet⟩ := List.mem_map.mp hrouted
      exact hslot (List.any_eq_true.mpr ⟨s, hs, by simpa using hnet⟩)
    · exact LeaseTable.not_mem_keys_containsKeyAt hkeys h hrouted

/-- The net ids are those from before, or fewer. -/
structure NetsKept (r r' : Router σ N S C) : Prop where
  links : r'.directory.links = r.directory.links
  keys : r'.seedRoutes.keys.Subperm r.seedRoutes.keys

theorem NetsKept.of_quiet {now : Nat} {r r' : Router σ N S C} (h : Quiet now r r') :
    NetsKept r r' :=
  ⟨h.links, h.seedKeys⟩

theorem NetsKept.routed {r r' : Router σ N S C} (h : NetsKept r r') {net : UInt16}
    (hrouted : r'.Routed net) : r.Routed net := by
  obtain ⟨hne, hslot | hkey⟩ := hrouted
  · refine ⟨hne, .inl ?_⟩
    have hnets := congrArg (List.map Prod.snd) h.links
    simp only [directory, List.map_map] at hnets
    rw [show r.slots.toList.map Slot.netId = r'.slots.toList.map Slot.netId from hnets.symm]
    exact hslot
  · exact ⟨hne, .inr (h.keys.subset hkey)⟩

theorem NetsKept.wf {r r' : Router σ N S C} (h : NetsKept r r') (hwf : r.directory.Wf) :
    r'.directory.Wf := by
  have hdir : r'.directory = { r.directory with leases := r'.seedRoutes.keys } := by
    show r'.directory = ⟨r.directory.links, r'.seedRoutes.keys⟩
    rw [← h.links]
    rfl
  rw [hdir]
  exact hwf.steps (.single (.forget _ h.keys))

variable [InterfaceSink σ]

/-- Frames keep the net ids. -/
theorem netsKept_frames (ident : UInt8) :
    FramesKeep ident (NetsKept : Router σ N S C → Router σ N S C → Prop) where
  refl _ := ⟨rfl, (List.Sublist.refl _).subperm⟩
  trans h h' := ⟨h'.links.trans h.links, h'.keys.trans h.keys⟩
  sendRaw r hdr body source clock := .of_quiet (sendRaw_quiet r hdr body source clock)
  sendErr r hdr e source clock := .of_quiet (sendErr_quiet r hdr e source clock)
  isTransitNet r netId now := .of_quiet (isTransitNet_quiet r netId now)
  set r state := .of_quiet (setInterfaceState_quiet 0 r ident state)

/-- Frames on a slot leave the state of the upstream alone. -/
theorem upstream_frames {ident : UInt8} (hident : ident ≠ upstreamIdent) :
    FramesKeep ident fun r r' : Router σ N S C =>
      r'.interfaceState upstreamIdent = r.interfaceState upstreamIdent where
  refl _ := rfl
  trans h h' := h'.trans h
  sendRaw := (Interfaces.view upstreamIdent).sendRaw
  sendErr := (Interfaces.view upstreamIdent).sendErr
  isTransitNet := (Interfaces.view upstreamIdent).isTransitNet
  set r state := by
    show (r.setInterfaceState ident state).2.interfaceState upstreamIdent = _
    unfold setInterfaceState
    rw [if_neg hident]
    split <;> rfl

/-- Where a net id that is routed comes from, at a bridge. -/
theorem routed_of_exec {r : Router σ N S C} (hwf : r.directory.Wf) (hup : r.hasUpstream = true)
    {clock : Clock} {op : Op σ} {net : UInt16} (h : (r.exec (clock, op)).Routed net) :
    r.Routed net ∨
      (∃ i, op = .reassignInterfaceNetId i net ∧ (r.reassignInterfaceNetId i net).1 = .ok ()) ∨
      ∃ src parent a, op = .registerDelegatedSeedNet src parent ∧ parent.netId = net ∧
        (r.registerDelegatedSeedNet src parent clock.now).1 = .ok a := by
  obtain ⟨hne, hslot | hkey⟩ := h
  · obtain ⟨s, hs, hnet⟩ := List.mem_map.mp hslot
    obtain ⟨i, hi⟩ := netIdOf_of_slot (exec_wf hwf (clock, op)) ⟨s, hs, hnet⟩
    have hbefore : ∀ i, r.netIdOf i = some net → r.Routed net := by
      intro i hi
      obtain ⟨slot, hslot, hnet⟩ := Option.map_eq_some_iff.mp hi
      exact ⟨hne, .inl (List.mem_map.mpr ⟨slot, List.mem_of_find?_eq_some hslot, hnet⟩)⟩
    have heffect := slot_effect hwf clock op i
    rw [hi] at heffect
    generalize ho : some net = o at heffect
    cases heffect with
    | kept heq => exact .inl (hbefore i (heq.symm.trans ho.symm))
    | registered hok _ _ =>
      simp [registerInterface, hup] at hok
    | pending _ _ =>
      cases ho
      exact absurd rfl hne
    | deregistered _ _ => cases ho
    | renumbered hok _ _ =>
      cases ho
      exact .inr (.inl ⟨i, rfl, hok⟩)
  · obtain ⟨e, he, rfl⟩ := List.mem_map.mp hkey
    have hget := LeaseTable.get_of_mem
      (LeaseTable.ids_nodup (exec_wf hwf (clock, op)).leases) he
    have hbefore : ∀ {e₀ s}, r.seedRoutes.get e.key s = some e₀ → r.Routed e.key := fun he₀ =>
      ⟨hne, .inr (LeaseTable.mem_keys.mpr (LeaseTable.containsKey_of_get he₀))⟩
    have heffect := seed_effect hwf clock op e.key e.scope
    rw [hget] at heffect
    generalize ho : some e = o at heffect
    cases heffect with
    | aged haged =>
      rw [← ho] at haged
      obtain ⟨e₀, he₀, -, -⟩ := haged.of_some
      exact .inl (hbefore he₀)
    | assigned hok _ _ _ => simp [requestSeedNetAssign, hup] at hok
    | renewed he₀ _ _ _ _ => exact .inl (hbefore he₀)
    | released _ _ _ _ _ => cases ho
    | releasedDelegated _ _ _ _ _ => cases ho
    | lost _ he₀ _ => exact .inl (hbefore he₀)
    | delegated hok hk _ => exact .inr (.inr ⟨_, _, _, rfl, hk, hok⟩)
    | replaced _ => cases ho
    | committed _ he₀ _ _ _ _ => exact .inl (hbefore he₀)

/-- Only a write to the state of the upstream changes it. -/
theorem exec_upstream (r : Router σ N S C) (clock : Clock) {op : Op σ}
    (hop : ∀ state, op ≠ .setInterfaceState upstreamIdent state) :
    (r.exec (clock, op)).interfaceState upstreamIdent = r.interfaceState upstreamIdent := by
  have hfaces : ∀ {r' : Router σ N S C}, (r'.faces fun _ => ()) = (r.faces fun _ => ()) →
      r'.interfaceState upstreamIdent = r.interfaceState upstreamIdent := by
    intro r' h
    rw [← interfaceState_faces, ← interfaceState_faces, h]
  have hsame : ∀ {r' : Router σ N S C}, r'.upstream = r.upstream →
      r'.interfaceState upstreamIdent = r.interfaceState upstreamIdent := by
    intro r' h
    rw [interfaceState, interfaceState, if_pos rfl, if_pos rfl, h]
  cases op with
  | send hdr data => exact hfaces (r.faces_send .unit hdr data clock)
  | sendErr hdr err source => exact hfaces (r.faces_sendErr .unit hdr err source clock)
  | sendRaw hdr data source => exact hfaces (r.faces_sendRaw .unit hdr data source clock)
  | setInterfaceState ident state =>
    have hident : ident ≠ upstreamIdent := fun h => hop state (by rw [h])
    refine hsame ?_
    show (r.setInterfaceState ident state).2.upstream = r.upstream
    unfold setInterfaceState
    rw [if_neg hident]
    split <;> rfl
  | registerInterface sink =>
    show (r.registerInterface sink clock.now).2.interfaceState _ = _
    rcases h : r.registerInterface sink clock.now with ⟨e | ident, r'⟩
    · exact hsame (registerInterface_error h).upstream
    · obtain ⟨_, -, -, -, -, -, -, -, hup, -⟩ := registerInterface_ok h
      exact hsame hup
  | registerInterfacePending sink =>
    show (r.registerInterfacePending sink).2.interfaceState _ = _
    rcases h : r.registerInterfacePending sink with ⟨e | ident, r'⟩
    · rw [registerInterfacePending_error h]
    · obtain ⟨-, -, -, -, -, hup, -⟩ := registerInterfacePending_ok h
      exact hsame hup
  | deregisterInterface ident =>
    show (r.deregisterInterface ident clock.now).2.interfaceState _ = _
    rcases h : r.deregisterInterface ident clock.now with ⟨e | u, r'⟩
    · rw [deregisterInterface_error h]
    · obtain ⟨_, -, -, -, -, -, hup, -⟩ := deregisterInterface_ok h
      exact hsame hup
  | reassignInterfaceNetId ident netId =>
    show (r.reassignInterfaceNetId ident netId).2.interfaceState _ = _
    rcases h : r.reassignInterfaceNetId ident netId with ⟨e | u, r'⟩
    · rw [reassignInterfaceNetId_error h]
    · obtain ⟨_, _, _, -, -, -, -, -, -, -, -, -, hup, -⟩ := reassignInterfaceNetId_ok h
      exact hsame hup
  | requestSeedNetAssign src =>
    show (r.requestSeedNetAssign src clock.now).2.interfaceState _ = _
    rcases h : r.requestSeedNetAssign src clock.now with ⟨e | a, r'⟩
    · exact hsame (requestSeedNetAssign_error h).upstream
    · obtain ⟨_, -, -, -, -, -, -, -, -, rfl⟩ := requestSeedNetAssign_ok h
      exact hsame rfl
  | refreshSeedNetAssignment src net tok =>
    show (r.refreshSeedNetAssignment src net tok clock.now).2.interfaceState _ = _
    rcases h : r.refreshSeedNetAssignment src net tok clock.now with ⟨e | a, r'⟩
    · exact hsame (refreshSeedNetAssignment_error h).upstream
    · obtain ⟨_, _, -, -, -, -, ⟨-, -, -, -, rfl⟩ | ⟨-, -, -, -, rfl⟩⟩ :=
        refreshSeedNetAssignment_ok h <;> exact hsame rfl
  | releaseSeedNetAssignment src net tok =>
    show (r.releaseSeedNetAssignment src net tok clock.now).2.interfaceState _ = _
    rcases h : r.releaseSeedNetAssignment src net tok clock.now with ⟨e | u, r'⟩
    · exact hsame (releaseSeedNetAssignment_error h).upstream
    · obtain ⟨_, _, -, -, -, -, r'', hq, rfl⟩ := releaseSeedNetAssignment_ok h
      exact hsame hq.upstream
  | canDelegateSeed src => exact hsame (canDelegateSeed_agedOnly r src clock.now).upstream
  | registerDelegatedSeedNet src parent =>
    show (r.registerDelegatedSeedNet src parent clock.now).2.interfaceState _ = _
    rcases h : r.registerDelegatedSeedNet src parent clock.now with ⟨e | a, r'⟩
    · exact hsame (registerDelegatedSeedNet_error h).upstream
    · obtain ⟨_, -, -, -, -, -, -, rfl⟩ := registerDelegatedSeedNet_ok h
      exact hsame rfl
  | prepareDelegatedRefresh src net tok =>
    exact hsame (prepareDelegatedRefresh_agedOnly r src net tok clock.now).upstream
  | commitDelegatedRefresh src tok parent =>
    show (r.commitDelegatedRefresh src tok parent clock.now).2.interfaceState _ = _
    rcases h : r.commitDelegatedRefresh src tok parent clock.now with ⟨e | a, r'⟩
    · exact hsame (commitDelegatedRefresh_error h).upstream
    · obtain ⟨_, _, _, -, -, -, -, -, -, rfl⟩ := commitDelegatedRefresh_ok h
      exact hsame rfl
  | prepareDelegatedRelease src net tok =>
    exact hsame (prepareDelegatedRelease_agedOnly r src net tok clock.now).upstream
  | commitDelegatedRelease src net tok =>
    show (r.commitDelegatedRelease src net tok clock.now).2.interfaceState _ = _
    rcases h : r.commitDelegatedRelease src net tok clock.now with ⟨e | u, r'⟩
    · exact hsame (commitDelegatedRelease_error h).upstream
    · obtain ⟨_, _, -, -, -, -, r'', hq, rfl⟩ := commitDelegatedRelease_ok h
      exact hsame hq.upstream
  | requestNodeClaim src node nonce =>
    show (r.requestNodeClaim src node nonce clock.now).2.interfaceState _ = _
    rcases h : r.requestNodeClaim src node nonce clock.now with ⟨e | a, r'⟩
    · exact hsame (requestNodeClaim_error h).upstream
    · obtain ⟨-, -, -, ⟨_, _, -, -, -, -, -, rfl⟩ | ⟨-, -, -, -, rfl⟩⟩ :=
        requestNodeClaim_ok h <;> exact hsame rfl
  | refreshNodeClaim src node tok =>
    show (r.refreshNodeClaim src node tok clock.now).2.interfaceState _ = _
    rcases h : r.refreshNodeClaim src node tok clock.now with ⟨e | a, r'⟩
    · exact hsame (refreshNodeClaim_error h).upstream
    · obtain ⟨_, _, -, -, -, ⟨-, -, -, -, rfl⟩ | ⟨-, -, -, -, rfl⟩⟩ :=
        refreshNodeClaim_ok h <;> exact hsame rfl
  | isTransitNet netId =>
    refine hsame ?_
    show (r.isTransitNet netId clock.now).2.upstream = r.upstream
    unfold isTransitNet
    split
    · rfl
    · split <;> rfl
  | find hdr source =>
    refine hsame ?_
    show (r.find hdr source clock).2.upstream = r.upstream
    unfold find
    split <;> rfl

end Router

/-! ## A bridge and the processor of its upstream -/

/-- The stack of a bridge, and the processor that the upstream's worker has. -/
structure Uplink (κ σ : Type) (N S C : Nat) where
  processor : EdgeFrameProcessor
  stack : NetStack κ (Router σ N S C)

/-- What happens at a bridge: an operation of the router (also a write of a transport to the state
of an interface), a frame on the upstream or on a slot, a reset of the upstream's processor, or a
new worker for the upstream. -/
inductive UplinkAct (σ : Type)
  | op (step : Clock × Op σ)
  | upstream (frame : BorrowedFrame) (clock : FrameClock)
  | downstream (ident : UInt8) (hident : ident ≠ upstreamIdent) (processor : RouterFrameProcessor)
      (frame : BorrowedFrame) (clock : FrameClock)
  | reset
  | spawn

namespace Uplink

variable {κ σ : Type} {N S C : Nat} [SocketVTable κ] [InterfaceSink σ]

/-- `manage_profile` with an operation of the router. -/
def manage (u : Uplink κ σ N S C) (r : Router σ N S C) : Uplink κ σ N S C :=
  { u with stack := { u.stack with profile := r } }

/-- One act. -/
def step (u : Uplink κ σ N S C) : UplinkAct σ → Uplink κ σ N S C
  | .op step => u.manage (u.stack.profile.exec step)
  | .upstream frame clock =>
    let (_, processor, stack) := u.processor.processFrame frame u.stack upstreamIdent clock
    { processor, stack }
  | .downstream ident _ processor frame clock =>
    { u with stack := (processor.processFrame frame u.stack ident clock).2.2 }
  | .reset => { u with processor := u.processor.reset }
  | .spawn => { u with processor := .new }

/-- A bridge as it is made, with a worker on its upstream. -/
def boot (sockets : List (Socket κ)) (rng : Rng) (sink : σ) (h : N ≤ 255) : Uplink κ σ N S C :=
  ⟨.new, ⟨sockets, .newBridge rng sink h⟩⟩

/-- The state of the upstream interface. -/
def upstreamState (u : Uplink κ σ N S C) : Option InterfaceState :=
  u.stack.profile.interfaceState upstreamIdent

/-- If a frame sets the upstream to `Active`, it is with a net id that the router does not
route. -/
def AdoptsOwn (u : Uplink κ σ N S C) (act : UplinkAct σ) : Prop :=
  match act with
  | .upstream _ clock => ∀ net node, (u.step act).upstreamState = some (.active net node) →
      u.upstreamState ≠ some (.active net node) →
      (u.stack.profile.isTransitNet net clock.check).1 = false
  | _ => True

/-- If a frame reaches the open discovery window and is no donor, then the net id that the
processor remembers, and the upstream is not `Active` with, is not one that the router routes. -/
def RemembersOwn (u : Uplink κ σ N S C) : UplinkAct σ → Prop
  | .upstream frame clock => ∀ state net, u.upstreamState = some state →
      u.processor.activated = false → u.processor.opens state = true →
      ¬ u.processor.Addressed u.stack.profile frame.hdr.dst clock.check →
      u.processor.netId = some net → state ≠ .active net u.processor.ownNode →
      (u.stack.profile.isTransitNet net clock.check).1 = false
  | _ => True

/-- The act does not make the router route the net id that the processor remembers, or make the
upstream `Active` with a net id that the router routes. -/
def KeepsOff (u : Uplink κ σ N S C) : UplinkAct σ → Prop
  | .op (_, .reassignInterfaceNetId ident net) =>
    (u.stack.profile.reassignInterfaceNetId ident net).1 = .ok () → u.processor.netId ≠ some net
  | .op (clock, .registerDelegatedSeedNet src parent) =>
    ∀ a, (u.stack.profile.registerDelegatedSeedNet src parent clock.now).1 = .ok a →
      u.processor.netId ≠ some parent.netId
  | .op (_, .setInterfaceState ident (.active net _)) =>
    ident = upstreamIdent → ¬ u.stack.profile.Routed net
  | _ => True

/-- What the processor remembers and what the upstream is `Active` with is not routed. -/
structure Apart (u : Uplink κ σ N S C) : Prop where
  role : u.processor.RoleNode
  wf : u.stack.profile.directory.Wf
  bridge : u.upstreamState.isSome
  remembered : ∀ net, u.processor.netId = some net → ¬ u.stack.profile.Routed net
  active : ∀ net node, u.upstreamState = some (.active net node) → ¬ u.stack.profile.Routed net

/-! ### The discovery window -/

section Discover

variable {u : Uplink κ σ N S C} {frame : BorrowedFrame} {clock : FrameClock}

/-- What a frame leaves the upstream in. -/
theorem upstreamState_upstream :
    (u.step (.upstream frame clock)).upstreamState =
      applyWrite writeState
        (u.processor.written u.stack.profile frame.hdr.dst upstreamIdent clock.check)
        u.upstreamState :=
  u.processor.processFrame_view (Interfaces.view upstreamIdent) frame u.stack clock

omit [SocketVTable κ] in
/-- When a frame is about to write a net id to the upstream. -/
theorem written_iff {state : InterfaceState} :
    u.processor.written u.stack.profile frame.hdr.dst upstreamIdent clock.check = some state ↔
      ∃ old net, u.upstreamState = some old ∧
        u.processor.settles u.stack.profile frame.hdr.dst clock.check = some net ∧
        u.processor.activated = false ∧ u.processor.opens old = true ∧
        old ≠ .active net u.processor.ownNode ∧ state = .active net u.processor.ownNode := by
  have hstate : Profile.interfaceState u.stack.profile upstreamIdent = u.upstreamState := rfl
  unfold EdgeFrameProcessor.written
  rw [hstate]
  constructor
  · intro h
    split at h
    · next old net hold hnet =>
      obtain ⟨⟨hactive, hopen, hne⟩, heq⟩ := Option.ite_none_right_eq_some.mp h
      exact ⟨old, net, hold, hnet, hactive, hopen, hne, (Option.some.inj heq).symm⟩
    · cases h
  · rintro ⟨old, net, hold, hnet, hactive, hopen, hne, rfl⟩
    rw [hold, hnet]
    exact if_pos ⟨hactive, hopen, hne⟩

/-- A frame sets the upstream to what it writes. -/
theorem upstreamState_iff (hrole : u.processor.RoleNode) {net : UInt16} {node : UInt8}
    (hne : u.upstreamState ≠ some (.active net node)) :
    (u.step (.upstream frame clock)).upstreamState = some (.active net node) ↔
      u.processor.written u.stack.profile frame.hdr.dst upstreamIdent clock.check =
        some (.active net node) := by
  rw [upstreamState_upstream]
  constructor
  · intro h
    cases hw : u.processor.written u.stack.profile frame.hdr.dst upstreamIdent clock.check with
    | none =>
      rw [hw] at h
      exact absurd h hne
    | some state =>
      obtain ⟨old, net', hold, -, -, -, -, rfl⟩ := written_iff.mp hw
      rw [hw, hold] at h
      simpa [applyWrite, writeState, hrole.valid net'] using h
  · intro hw
    obtain ⟨old, net', hold, -, -, -, -, heq⟩ := written_iff.mp hw
    rw [hw, hold, heq]
    simp [applyWrite, writeState, hrole.valid net']

/-- The net id that the processor remembers is the one way to go wrong. -/
theorem adoptsOwn_iff (hrole : u.processor.RoleNode) (act : UplinkAct σ) :
    u.AdoptsOwn act ↔ u.RemembersOwn act := by
  cases act with
  | upstream frame clock =>
    constructor
    · intro h old net hold hactive hopen hdonor hnet hne
      refine h net u.processor.ownNode ?_ (by rw [hold]; exact fun heq => hne (Option.some.inj heq))
      rw [upstreamState_iff hrole (by rw [hold]; exact fun heq => hne (Option.some.inj heq))]
      refine written_iff.mpr ⟨old, net, hold, ?_, hactive, hopen, hne, rfl⟩
      rw [EdgeFrameProcessor.settles,
        if_neg (mt (EdgeFrameProcessor.donates_iff _ _ _ _).mp hdonor)]
      exact hnet
    · intro h net node hafter hbefore
      obtain ⟨old, net', hold, hsettles, hactive, hopen, hne, heq⟩ :=
        written_iff.mp ((upstreamState_iff hrole hbefore).mp hafter)
      cases heq
      by_cases hdonor : u.processor.Addressed u.stack.profile frame.hdr.dst clock.check
      · -- a donor has been checked
        rw [EdgeFrameProcessor.settles,
          if_pos ((EdgeFrameProcessor.donates_iff _ _ _ _).mpr hdonor)] at hsettles
        cases hsettles
        exact hdonor.2.2
      · rw [EdgeFrameProcessor.settles,
          if_neg (mt (EdgeFrameProcessor.donates_iff _ _ _ _).mp hdonor)] at hsettles
        exact h old net hold hactive hopen hdonor hsettles hne
  | op _ => exact Iff.rfl
  | downstream _ _ _ _ _ => exact Iff.rfl
  | reset => exact Iff.rfl
  | spawn => exact Iff.rfl

/-- After a frame that settled on a net id, the router does not route it. -/
theorem Apart.settled (h : u.Apart) {state : InterfaceState} {net : UInt16}
    (hstate : u.upstreamState = some state) (hactive : u.processor.activated = false)
    (hopen : u.processor.opens state = true)
    (hnet : u.processor.settles u.stack.profile frame.hdr.dst clock.check = some net) :
    ¬ (u.step (.upstream frame clock)).stack.profile.Routed net := by
  have hkeep := Router.netsKept_frames (σ := σ) (N := N) (S := S) (C := C) upstreamIdent
  intro hrouted
  cases hdonates : (u.processor.donates u.stack.profile frame.hdr.dst clock.check).1 with
  | true =>
    -- a donor's net id was looked up
    have hbefore := (hkeep.afterDonates hstate hactive hopen).routed hrouted
    rw [EdgeFrameProcessor.settles, if_pos hdonates] at hnet
    cases hnet
    have haddr := (EdgeFrameProcessor.donates_iff _ _ _ _).mp hdonates
    rw [EdgeFrameProcessor.donates, if_pos ⟨haddr.1, haddr.2.1⟩] at hbefore
    exact Router.not_routed_of_isTransitNet h.wf.leases haddr.2.2 hbefore
  | false =>
    rw [EdgeFrameProcessor.settles, hdonates] at hnet
    exact h.remembered net hnet ((hkeep.edge u.processor frame u.stack clock).routed hrouted)

end Discover

omit [SocketVTable κ] [InterfaceSink σ] in
/-- A write does not make or end an interface. -/
theorem writeState_isSome (state : InterfaceState) (old : Option InterfaceState) :
    (writeState state old).isSome = old.isSome := by
  unfold writeState
  split
  · rw [Option.isSome_map]
  · rfl

theorem role_step {u : Uplink κ σ N S C} (hrole : u.processor.RoleNode) (act : UplinkAct σ) :
    (u.step act).processor.RoleNode := by
  cases act with
  | upstream frame clock =>
    show EdgeFrameProcessor.RoleNode
      (u.processor.processFrame frame u.stack upstreamIdent clock).2.1
    unfold EdgeFrameProcessor.RoleNode
    rw [EdgeFrameProcessor.processFrame_ownNode hrole]
    exact hrole
  | op _ => exact hrole
  | downstream _ _ _ _ _ => exact hrole
  | reset => exact hrole
  | spawn => exact .inl rfl

/-- A frame on the upstream. -/
theorem Apart.upstream {u : Uplink κ σ N S C} (h : u.Apart) (frame : BorrowedFrame)
    (clock : FrameClock) : (u.step (.upstream frame clock)).Apart := by
  have hkept : u.stack.profile.NetsKept (u.step (.upstream frame clock)).stack.profile :=
    (Router.netsKept_frames upstreamIdent).edge u.processor frame u.stack clock
  obtain ⟨state, hstate⟩ := Option.isSome_iff_exists.mp h.bridge
  refine
    { role := ?_
      wf := hkept.wf h.wf
      bridge := ?_
      remembered := ?_
      active := ?_ }
  · exact role_step h.role (.upstream frame clock)
  · rw [upstreamState_upstream]
    cases u.processor.written u.stack.profile frame.hdr.dst upstreamIdent clock.check with
    | none => exact h.bridge
    | some state => exact (writeState_isSome state _).trans h.bridge
  · intro net hnet hrouted
    have hbefore : Profile.interfaceState u.stack.profile upstreamIdent = some state := hstate
    have hafter : (u.processor.processFrame frame u.stack upstreamIdent clock).2.1 = _ :=
      EdgeFrameProcessor.processFrame_processor frame clock
    have hcases := EdgeFrameProcessor.discovers h.role.valid hbefore frame.hdr.dst clock.check
    rw [← hafter] at hcases
    have hnet : (u.processor.processFrame frame u.stack upstreamIdent clock).2.1.netId = some net :=
      hnet
    generalize (u.processor.processFrame frame u.stack upstreamIdent clock).2.1 = s' at hcases hnet
    cases hcases with
    | steady _ => exact h.remembered net hnet (hkept.routed hrouted)
    | claimed _ _ => exact h.remembered net hnet (hkept.routed hrouted)
    | @preset netId nodeId _ _ heq _ =>
      cases hnet
      rw [heq] at hstate
      exact h.active _ _ hstate (hkept.routed hrouted)
    | unknown _ _ _ => exact h.remembered net hnet (hkept.routed hrouted)
    | settled hactive hopen hsettles =>
      refine h.settled hstate hactive hopen hsettles ?_
      have hnet' := hnet
      unfold EdgeFrameProcessor.adopted at hnet'
      split at hnet' <;> exact Option.some.inj hnet' ▸ hrouted
  · intro net node hafter hrouted
    by_cases hbefore : u.upstreamState = some (.active net node)
    · exact h.active net node hbefore (hkept.routed hrouted)
    · obtain ⟨old, net', hold, hsettles, hactive, hopen, -, heq⟩ :=
        written_iff.mp ((upstreamState_iff h.role hbefore).mp hafter)
      cases heq
      exact h.settled hold hactive hopen hsettles hrouted

/-- A frame on a slot. -/
theorem Apart.downstream {u : Uplink κ σ N S C} (h : u.Apart) {ident : UInt8}
    (hident : ident ≠ upstreamIdent) (processor : RouterFrameProcessor) (frame : BorrowedFrame)
    (clock : FrameClock) : (u.step (.downstream ident hident processor frame clock)).Apart := by
  have hkept : u.stack.profile.NetsKept
      (u.step (.downstream ident hident processor frame clock)).stack.profile :=
    (Router.netsKept_frames ident).router processor frame u.stack clock
  have hstate : (u.step (.downstream ident hident processor frame clock)).upstreamState =
      u.upstreamState :=
    (Router.upstream_frames hident).router processor frame u.stack clock
  exact
    { role := h.role
      wf := hkept.wf h.wf
      bridge := hstate ▸ h.bridge
      remembered := fun net hnet hrouted => h.remembered net hnet (hkept.routed hrouted)
      active := fun net node hactive hrouted =>
        h.active net node (hstate ▸ hactive) (hkept.routed hrouted) }

/-- A write of a transport to the state of the upstream. -/
theorem Apart.setUpstream {u : Uplink κ σ N S C} (h : u.Apart) {clock : Clock}
    {state : InterfaceState}
    (hkeeps : u.KeepsOff (.op (clock, .setInterfaceState upstreamIdent state))) :
    (u.step (.op (clock, .setInterfaceState upstreamIdent state))).Apart := by
  have hkept : u.stack.profile.NetsKept
      (u.step (.op (clock, .setInterfaceState upstreamIdent state))).stack.profile :=
    .of_quiet (Router.setInterfaceState_quiet 0 u.stack.profile upstreamIdent state)
  have hstate : (u.step (.op (clock, .setInterfaceState upstreamIdent state))).upstreamState =
      writeState state u.upstreamState :=
    (Interfaces.view upstreamIdent).set u.stack.profile state
  refine
    { role := h.role
      wf := hkept.wf h.wf
      bridge := by rw [hstate, writeState_isSome]; exact h.bridge
      remembered := fun net hnet hrouted => h.remembered net hnet (hkept.routed hrouted)
      active := ?_ }
  intro net node hactive hrouted
  rw [hstate] at hactive
  unfold writeState at hactive
  split at hactive
  · obtain ⟨old, -, rfl⟩ := Option.map_eq_some_iff.mp hactive
    exact hkeeps rfl (hkept.routed hrouted)
  · exact h.active net node hactive (hkept.routed hrouted)

/-- Any other operation of the router. -/
theorem Apart.op {u : Uplink κ σ N S C} (h : u.Apart) {clock : Clock} {op : Op σ}
    (hop : ∀ state, op ≠ .setInterfaceState upstreamIdent state)
    (hkeeps : u.KeepsOff (.op (clock, op))) : (u.step (.op (clock, op))).Apart := by
  have hstate : (u.step (.op (clock, op))).upstreamState = u.upstreamState :=
    Router.exec_upstream u.stack.profile clock hop
  have hup : u.stack.profile.hasUpstream = true := by
    have hbridge := h.bridge
    unfold upstreamState Router.interfaceState at hbridge
    rw [if_pos rfl, Option.isSome_map] at hbridge
    exact hbridge
  -- an `Active` upstream is seen by the checks of the router
  have hseen : ∀ {net node}, u.upstreamState = some (.active net node) →
      u.stack.profile.upstreamNetId = some net := by
    intro net node hactive
    unfold upstreamState Router.interfaceState at hactive
    rw [if_pos rfl] at hactive
    obtain ⟨port, hport, hactive⟩ := Option.map_eq_some_iff.mp hactive
    simp [Router.upstreamNetId, hport, EdgePort.netId, hactive]
  refine
    { role := h.role
      wf := Router.exec_wf h.wf (clock, op)
      bridge := hstate ▸ h.bridge
      remembered := ?_
      active := ?_ }
  · intro net hnet hrouted
    rcases Router.routed_of_exec h.wf hup hrouted with hbefore | ⟨i, rfl, hok⟩ |
      ⟨src, parent, a, rfl, rfl, hok⟩
    · exact h.remembered net hnet hbefore
    · exact hkeeps hok hnet
    · exact hkeeps a hok hnet
  · intro net node hactive hrouted
    rw [hstate] at hactive
    rcases Router.routed_of_exec h.wf hup hrouted with hbefore | ⟨i, rfl, hok⟩ |
      ⟨src, parent, a, rfl, rfl, hok⟩
    · exact h.active net node hactive hbefore
    · rcases hres : u.stack.profile.reassignInterfaceNetId i net with ⟨e | _, r'⟩
      · rw [hres] at hok
        cases hok
      · obtain ⟨_, _, _, -, -, -, hfree, -⟩ := Router.reassignInterfaceNetId_ok hres
        exact hfree (hseen hactive)
    · rcases hres : u.stack.profile.registerDelegatedSeedNet src parent clock.now with ⟨e | _, r'⟩
      · rw [hres] at hok
        cases hok
      · obtain ⟨_, -, -, -, hfree, -⟩ := Router.registerDelegatedSeedNet_ok hres
        exact hfree (hseen hactive)

/-- One act that keeps off. -/
theorem Apart.step {u : Uplink κ σ N S C} (h : u.Apart) {act : UplinkAct σ}
    (hkeeps : u.KeepsOff act) : (u.step act).Apart := by
  cases act with
  | upstream frame clock => exact h.upstream frame clock
  | downstream ident hident processor frame clock => exact h.downstream hident processor frame clock
  | reset => exact { h with role := h.role, remembered := h.remembered }
  | spawn => exact { h with role := .inl rfl, remembered := fun net hnet => by cases hnet }
  | op step =>
    obtain ⟨clock, op⟩ := step
    by_cases hop : ∃ state, op = .setInterfaceState upstreamIdent state
    · obtain ⟨state, rfl⟩ := hop
      exact h.setUpstream hkeeps
    · exact h.op (fun state heq => hop ⟨state, heq⟩) hkeeps

/-- What the processor remembers is not transit. -/
theorem Apart.adoptsOwn {u : Uplink κ σ N S C} (h : u.Apart) (act : UplinkAct σ) :
    u.AdoptsOwn act := by
  rw [adoptsOwn_iff h.role]
  cases act with
  | upstream frame clock =>
    intro state net _ _ _ _ hnet _
    by_contra htransit
    exact h.remembered net hnet (.of_isTransitNet (Bool.not_eq_false _ ▸ htransit))
  | op _ => trivial
  | downstream _ _ _ _ _ => trivial
  | reset => trivial
  | spawn => trivial

omit [SocketVTable κ] [InterfaceSink σ] in
theorem boot_apart (sockets : List (Socket κ)) (rng : Rng) (sink : σ) (h : N ≤ 255) :
    (boot sockets rng sink h : Uplink κ σ N S C).Apart where
  role := .inl rfl
  wf := (Router.Initial.bridge rng sink h : Router.Initial _).wf.directory
  bridge := rfl
  remembered net hnet := by cases hnet
  active net node hactive := by cases hactive

/-- **The upstream never adopts a network that the bridge routes** in exactly the runs in which
the net id that the processor remembers is not routed when a frame that is no donor makes the
processor use it again. It is enough that no operation gives the remembered net id to a slot or a
seed route, and that no transport makes the upstream `Active` with a net id that is routed. -/
theorem adoptsOwn_run_iff (sockets : List (Socket κ)) (rng : Rng) (sink : σ) (h : N ≤ 255)
    (acts : List (UplinkAct σ)) :
    (Always step AdoptsOwn (boot sockets rng sink h : Uplink κ σ N S C) acts ↔
        Always step RemembersOwn (boot sockets rng sink h : Uplink κ σ N S C) acts) ∧
      (Always step KeepsOff (boot sockets rng sink h : Uplink κ σ N S C) acts →
        Always step AdoptsOwn (boot sockets rng sink h : Uplink κ σ N S C) acts) := by
  have hboot := boot_apart (S := S) (C := C) sockets rng sink h
  constructor
  · refine Always_iff (I := fun u : Uplink κ σ N S C => u.processor.RoleNode) ?_ ?_ hboot.role acts
    · intro u act hrole
      exact adoptsOwn_iff hrole act
    · intro u act hrole _
      exact role_step hrole act
  · refine Always.mono_of_inv (I := Apart) ?_ ?_ hboot
    · intro u act hapart _
      exact hapart.adoptsOwn act
    · intro u act hapart hkeeps
      exact hapart.step hkeeps

/-! ### A net id that changes sides -/

/-- A bridge that has just been made. -/
def demoBridge : Uplink OwnedSocket FrameQueue 1 1 0 :=
  boot [] ⟨fun _ => 0, 0⟩ ⟨1000, 4, []⟩ Router.one_slot

/-- The bridge learns net 7 on its upstream, which falls silent. Its slot is given the net id 7,
and then a frame that is addressed to another network arrives on the upstream. -/
def demoSides : List (UplinkAct FrameQueue) :=
  [.op (.at 0, .registerInterfacePending ⟨1000, 4, []⟩),
    .upstream (emptyFrame 7 1 7 2) demoFrameClock,
    .op (.at 0, .setInterfaceState upstreamIdent .inactive), .reset,
    .op (.at 0, .reassignInterfaceNetId 0 7),
    .upstream (emptyFrame 7 1 9 5) demoFrameClock]

/-- Now net 7 is on both sides. -/
theorem upstream_adopts_transit :
    (runAll step demoBridge demoSides).upstreamState = some (.active 7 edgeNodeId) ∧
      ((runAll step demoBridge demoSides).stack.profile.isTransitNet 7 0).1 = true ∧
      ¬ Always step AdoptsOwn demoBridge demoSides := by
  refine ⟨by decide, by decide, ?_⟩
  rintro ⟨-, -, -, -, -, h, -⟩
  have htransit := h 7 edgeNodeId (by decide) (by decide)
  revert htransit
  decide

theorem adoptsOwn_run_iff_demo : Always step AdoptsOwn demoBridge (demoSides.take 4) := by
  have hkeeps : Always step KeepsOff demoBridge (demoSides.take 4) := by
    simp [demoSides, Always, KeepsOff]
  have h := adoptsOwn_run_iff (κ := OwnedSocket) (S := 1) (C := 0) [] ⟨fun _ => 0, 0⟩
    (⟨1000, 4, []⟩ : FrameQueue) Router.one_slot (demoSides.take 4)
  exact h.2 hkeeps

end Uplink

end Ergot
