import Ergot.Lib.Runs
import Ergot.Router.Flood
import Ergot.Stack.Process

/-!
# RX workers

A transport runs one RX worker for each interface. It hands the frames it reads to its
frame processor, and it writes the state of the interface by itself: when the transport
comes up, when it goes down, and when it has been quiet for too long. Several transports
share the same writes, so there is one `WorkerAct` for each kind:

| act               | transports/                                              |
|-------------------|----------------------------------------------------------|
| `frame`           | `process_frame` on a frame that was read                 |
| `livenessTimeout` | `liveness_timeout` (futures_io.rs), `read_or_timeout`     |
|                   | (eio.rs), timeout and suspend in `one_conn` (eusb_0_5.rs) |
| `reset`           | `FrameProcessor::reset` alone                            |
| `run`             | the entry of `run` (eio.rs)                              |
| `setDown`         | `set_down` (futures_io.rs), the exit of `run` (eio.rs),   |
|                   | "Connection lost" (eusb_0_5.rs)                          |
| `connected`       | "Connection established" in `run` (eusb_0_5.rs)          |

An act writes the state of its interface at most once. `RxWorker.written` reads off the
state before the act what it writes, and `RxWorker.step_view` says that this is all that
an act does to what a profile keeps of its interfaces (`IfaceView`).
-/

namespace Ergot

/-- Whether `set_state` takes a state: the node ids 0 and 255 are refused. -/
def InterfaceState.Valid : InterfaceState → Prop
  | .down | .inactive => True
  | .activeLocal nodeId => nodeId ≠ 0 ∧ nodeId ≠ 255
  | .active _ nodeId => nodeId ≠ 0 ∧ nodeId ≠ 255

instance InterfaceState.Valid.decidable : (s : InterfaceState) → Decidable s.Valid
  | .down | .inactive => inferInstanceAs (Decidable True)
  | .activeLocal nodeId => inferInstanceAs (Decidable (nodeId ≠ 0 ∧ nodeId ≠ 255))
  | .active _ nodeId => inferInstanceAs (Decidable (nodeId ≠ 0 ∧ nodeId ≠ 255))

namespace InterfaceState

@[simp] theorem valid_down : InterfaceState.down.Valid := trivial

@[simp] theorem valid_inactive : InterfaceState.inactive.Valid := trivial

@[simp] theorem valid_central (netId : UInt16) : (active netId centralNodeId).Valid :=
  ⟨by decide, by decide⟩

@[simp] theorem valid_edge (netId : UInt16) : (active netId edgeNodeId).Valid :=
  ⟨by decide, by decide⟩

end InterfaceState

/-- What an RX worker does besides waiting for its transport. -/
inductive WorkerAct
  | frame (frame : BorrowedFrame) (clock : FrameClock)
  | livenessTimeout (linkLocalOnTimeout : Bool)
  | reset
  | run (initialState : InterfaceState)
  | setDown
  | connected

/-- A request with an empty body, between port 20 of two nodes. -/
def emptyFrame (srcNet : UInt16) (srcNode : UInt8) (dstNet : UInt16) (dstNode : UInt8) :
    BorrowedFrame where
  hdr := ⟨⟨srcNet, srcNode, 20⟩, ⟨dstNet, dstNode, 20⟩, none, .endpointReq, .normal, 15⟩
  body := .ok []
  wf := ⟨by simp [FrameKind.endpointReq, FrameKind.protocolError],
    by simp [FrameKind.endpointReq, FrameKind.protocolError], by simp,
    show (15 : UInt8) ≤ maxTtl by decide, rfl⟩

/-- An RX worker, as far as it touches the stack. -/
structure RxWorker (ι : Type) where
  ident : ι
  processor : FrameProcessor

namespace RxWorker

variable {κ P ι : Type} [Profile P ι]

/-- The state that a liveness timeout moves an `Active` interface to. -/
def timeoutTarget (linkLocalOnTimeout : Bool) : InterfaceState :=
  if linkLocalOnTimeout then .edgeLinkLocal else .inactive

/-- `manage_profile(|im| im.set_interface_state(ident, state))`. -/
def setState (w : RxWorker ι) (st : NetStack κ P) (state : InterfaceState) : NetStack κ P :=
  { st with profile := (Profile.setInterfaceState st.profile w.ident state).2 }

/-- The interface part of `liveness_timeout`. -/
def timeout (w : RxWorker ι) (st : NetStack κ P) (target : InterfaceState) : NetStack κ P :=
  match Profile.interfaceState st.profile w.ident with
  | some (.active netId nodeId) =>
    -- an interface that is there already is not written again
    if .active netId nodeId ≠ target then w.setState st target else st
  | _ => st

/-- "Skip if already Active". -/
def connect (w : RxWorker ι) (st : NetStack κ P) : NetStack κ P :=
  match Profile.interfaceState st.profile w.ident with
  | some (.active _ _) => st
  | _ => w.setState st .edgeLinkLocal

/-- One act of an RX worker. -/
def step [SocketVTable κ] (w : RxWorker ι) (st : NetStack κ P) :
    WorkerAct → RxWorker ι × NetStack κ P
  | .frame frame clock =>
    let (_, processor, st) := w.processor.processFrame frame st w.ident clock
    ({ w with processor }, st)
  | .livenessTimeout linkLocalOnTimeout =>
    ({ w with processor := w.processor.reset }, w.timeout st (timeoutTarget linkLocalOnTimeout))
  | .reset => ({ w with processor := w.processor.reset }, st)
  | .run initialState => (w, w.setState st initialState)
  | .setDown => (w, w.setState st .down)
  | .connected => (w, w.connect st)

/-- A worker and the stack it works on. -/
def next [SocketVTable κ] (s : RxWorker ι × NetStack κ P) (act : WorkerAct) :
    RxWorker ι × NetStack κ P := s.1.step s.2 act

end RxWorker

/-! ## What a profile keeps when it sends -/

namespace NetStack

variable {κ P : Type} {R : P → P → Prop} {st : NetStack κ P} {hdr : Header}
  {sskt : Socket κ → Except NetStackSendError Unit × Socket κ}
  {smgr : P → Except InterfaceSendError Unit × P}

theorem unicast_keeps (hrefl : ∀ p, R p p) (h : ∀ p, R p (smgr p).2) :
    R st.profile (st.unicast hdr sskt smgr).2.profile := by
  cases hb : localBypass hdr with
  | false =>
    rw [unicast_profile hb]
    exact h _
  | true =>
    simp only [unicast, hb, if_true, true_or]
    split_ifs <;> rw [deliver_profile] <;> exact hrefl _

theorem unicastErr_keeps (hrefl : ∀ p, R p p) (h : ∀ p, R p (smgr p).2) :
    R st.profile (st.unicastErr hdr sskt smgr).2.profile := by
  cases hb : localBypass hdr with
  | false =>
    rw [unicastErr_profile hb]
    exact h _
  | true =>
    simp only [unicastErr, hb, if_true]
    rw [deliver_profile]
    exact hrefl _

theorem broadcast_keeps (hrefl : ∀ p, R p p) (h : ∀ p, R p (smgr p).2) :
    R st.profile (st.broadcast hdr sskt smgr).2.profile := by
  unfold broadcast
  split
  · exact hrefl _
  · exact h _

/-- The stack hands a frame to its profile once, or not at all. -/
theorem sendWith_keeps (hrefl : ∀ p, R p p) (h : ∀ p, R p (smgr p).2) :
    R st.profile (st.sendWith hdr sskt smgr).2.profile := by
  unfold sendWith
  split
  · exact hrefl _
  · split
    · exact broadcast_keeps hrefl h
    · exact unicast_keeps hrefl h

theorem sendErr_keeps {ι : Type} [SocketVTable κ] [Profile P ι] {err : ProtocolError}
    {source : Option ι} {clock : Clock} (hrefl : ∀ p, R p p)
    (h : ∀ p, R p (Profile.sendErr p hdr err source clock).2) :
    R st.profile (st.sendErr hdr err source clock).2.profile := by
  unfold sendErr
  split
  · exact hrefl _
  · exact unicastErr_keeps hrefl h

end NetStack

/-- A relation between the profile before and after that the sends of a frame keep to. -/
structure SendsKeep {P ι : Type} [Profile P ι] (R : P → P → Prop) : Prop where
  refl : ∀ p, R p p
  trans : ∀ {p q r}, R p q → R q r → R p r
  sendRaw : ∀ p hdr body (source : ι) clock, R p (Profile.sendRaw p hdr body source clock).2
  sendErr : ∀ p hdr e (source : Option ι) clock, R p (Profile.sendErr p hdr e source clock).2

namespace SendsKeep

variable {κ P ι : Type} {R : P → P → Prop} [SocketVTable κ] [Profile P ι] (hR : SendsKeep R)
include hR

theorem netStack_sendRaw (st : NetStack κ P) (hdr : Header) (body : List UInt8) (source : ι)
    (clock : Clock) : R st.profile (st.sendRaw hdr body source clock).2.profile :=
  NetStack.sendWith_keeps hR.refl fun p => hR.sendRaw p hdr body source clock

theorem netStack_sendErr (st : NetStack κ P) (hdr : Header) (err : ProtocolError)
    (source : Option ι) (clock : Clock) :
    R st.profile (st.sendErr hdr err source clock).2.profile :=
  NetStack.sendErr_keeps hR.refl fun p => hR.sendErr p hdr err source clock

theorem handOn (st : NetStack κ P) (hdr : Header) (body : Except ProtocolError (List UInt8))
    (source : ι) (clock : Clock) : R st.profile (st.handOn hdr body source clock).stack.profile := by
  cases body with
  | ok body => exact hR.netStack_sendRaw st hdr body source clock
  | error e => exact hR.netStack_sendErr st hdr e (some source) clock

/-- Handing a frame on, and the error reply, are sends. -/
theorem routerProcessFrame (netId : UInt16) (frame : BorrowedFrame) (st : NetStack κ P)
    (source : ι) (clock : FrameClock) :
    R st.profile (Ergot.routerProcessFrame netId frame st source clock).profile := by
  unfold Ergot.routerProcessFrame routerReceive
  cases routerIngress st.profile netId frame.hdr clock.check with
  | none => exact hR.refl _
  | some hdr =>
    have hon := hR.handOn st hdr frame.body source clock.send
    -- the reply about a frame that was too big is one more send
    simp only [Option.map_some]
    unfold replyTooBig
    split
    · split
      · exact hon
      · exact hR.trans hon (hR.netStack_sendErr _ _ _ _ _)
    · exact hon

end SendsKeep

/-- A relation that everything else keeps to that the frame processor of the interface `ident`
does with a profile. -/
structure WritesKeep {P ι : Type} [Profile P ι] (ident : ι) (R : P → P → Prop) : Prop where
  refl : ∀ p, R p p
  trans : ∀ {p q r}, R p q → R q r → R p r
  isTransitNet : ∀ p netId now, R p (Profile.isTransitNet p netId now).2
  set : ∀ p state, R p (Profile.setInterfaceState p ident state).2

/-- A relation that a frame processor keeps to. -/
structure FramesKeep {P ι : Type} [Profile P ι] (ident : ι) (R : P → P → Prop) : Prop
    extends SendsKeep R, WritesKeep ident R

/-! ## What a profile keeps of its interfaces -/

/-- A view `V` of a profile that sends leave alone, and that a write to the interface
`ident` changes as `write` says. -/
structure IfaceView {P ι β : Type} [Profile P ι] (ident : ι) (V : P → β)
    (write : InterfaceState → β → β) : Prop where
  sendRaw : ∀ p hdr body (source : ι) clock, V (Profile.sendRaw p hdr body source clock).2 = V p
  sendErr : ∀ p hdr e (source : Option ι) clock,
    V (Profile.sendErr p hdr e source clock).2 = V p
  isTransitNet : ∀ (p : P) netId now, V (Profile.isTransitNet p netId now).2 = V p
  set : ∀ p state, V (Profile.setInterfaceState p ident state).2 = write state (V p)

/-- What a valid write does to the state of an interface, where there is one. -/
def writeState (state : InterfaceState) (old : Option InterfaceState) : Option InterfaceState :=
  if state.Valid then old.map fun _ => state else old

/-- What all profiles with interfaces have in common. -/
class Interfaces (P : Type) {ι : outParam Type} [Profile P ι] : Prop where
  view : ∀ ident, IfaceView ident (fun p : P => Profile.interfaceState p ident) writeState
  set_ok : ∀ (p : P) ident state, (Profile.setInterfaceState p ident state).1 = .ok () ↔
    state.Valid ∧ (Profile.interfaceState p ident).isSome

namespace IfaceView

variable {κ P ι β : Type} [SocketVTable κ] [Profile P ι] {ident : ι} {V : P → β}
  {write : InterfaceState → β → β}

omit [SocketVTable κ] in
/-- A view of a view. -/
theorem map {γ : Type} {V' : P → γ} {write' : InterfaceState → γ → γ}
    (hV : IfaceView ident V write) (g : β → γ) (hg : ∀ p, V' p = g (V p))
    (hwrite : ∀ state v, g (write state v) = write' state (g v)) : IfaceView ident V' write' where
  sendRaw p hdr body source clock := by rw [hg, hg, hV.sendRaw]
  sendErr p hdr e source clock := by rw [hg, hg, hV.sendErr]
  isTransitNet p netId now := by rw [hg, hg, hV.isTransitNet]
  set p state := by rw [hg, hg, hV.set, hwrite]

variable (hV : IfaceView ident V write)
include hV

omit [SocketVTable κ] in
theorem sendsKeep : SendsKeep fun p q : P => V q = V p where
  refl _ := rfl
  trans hpq hqr := hqr.trans hpq
  sendRaw := hV.sendRaw
  sendErr := hV.sendErr

theorem handOn (st : NetStack κ P) (hdr : Header) (body : Except ProtocolError (List UInt8))
    (source : ι) (clock : Clock) : V (st.handOn hdr body source clock).stack.profile = V st.profile :=
  hV.sendsKeep.handOn st hdr body source clock

theorem routerProcessFrame (netId : UInt16) (frame : BorrowedFrame) (st : NetStack κ P)
    (source : ι) (clock : FrameClock) :
    V (Ergot.routerProcessFrame netId frame st source clock).profile = V st.profile :=
  hV.sendsKeep.routerProcessFrame netId frame st source clock

end IfaceView

/-! ## What an act writes -/

section Written

variable {P ι : Type} [Profile P ι]

/-- What the reactivation of `RouterFrameProcessor::process_frame` writes. -/
def RouterFrameProcessor.written (s : RouterFrameProcessor) (p : P) (ident : ι) :
    Option InterfaceState :=
  if s.activated = false ∧ Profile.interfaceState p ident = some .inactive then
    some (.active s.netId centralNodeId)
  else none

/-- Whether the discovery window is open for an interface in this state. -/
def EdgeFrameProcessor.opens (s : EdgeFrameProcessor) : InterfaceState → Bool
  | .activeLocal _ => false
  | .active netId _ => netId = 0 ∨ s.rediscovering
  | .down | .inactive => true

/-- The net id that the discovery window settles on: the donor's, or the sticky one. -/
def EdgeFrameProcessor.settles (s : EdgeFrameProcessor) (p : P) (dst : Address) (now : Nat) :
    Option UInt16 :=
  if (s.donates p dst now).1 then some dst.networkId else s.netId

/-- What the discovery window writes. -/
def EdgeFrameProcessor.written (s : EdgeFrameProcessor) (p : P) (dst : Address) (ident : ι)
    (now : Nat) : Option InterfaceState :=
  match Profile.interfaceState p ident, s.settles p dst now with
  | some ifState, some net =>
    if s.activated = false ∧ s.opens ifState ∧ ifState ≠ .active net s.ownNode then
      some (.active net s.ownNode)
    else none
  | _, _ => none

/-- What an act of an RX worker writes to the state of its interface. -/
def RxWorker.written (w : RxWorker ι) (p : P) : WorkerAct → Option InterfaceState
  | .frame frame clock =>
    match w.processor with
    | .router s => s.written p w.ident
    | .edge s => s.written p frame.hdr.dst w.ident clock.check
  | .livenessTimeout linkLocalOnTimeout =>
    match Profile.interfaceState p w.ident with
    | some (.active netId nodeId) =>
      if .active netId nodeId ≠ timeoutTarget linkLocalOnTimeout then
        some (timeoutTarget linkLocalOnTimeout)
      else none
    | _ => none
  | .reset => none
  | .run initialState => some initialState
  | .setDown => some .down
  | .connected =>
    match Profile.interfaceState p w.ident with
    | some (.active _ _) => none
    | _ => some .edgeLinkLocal

end Written

/-- A view with the write of an act, if there is one. -/
def applyWrite {β : Type} (write : InterfaceState → β → β) (written : Option InterfaceState)
    (v : β) : β :=
  match written with
  | none => v
  | some state => write state v

section StepView

variable {κ P ι β : Type} [SocketVTable κ] [Profile P ι] {V : P → β}
  {write : InterfaceState → β → β}

/-- A frame reaches a router's interface before it is decided whether to reactivate it,
but leaves its state as it was. -/
theorem RouterFrameProcessor.processFrame_view [Interfaces P] {ident : ι}
    (hV : IfaceView ident V write) (s : RouterFrameProcessor) (frame : BorrowedFrame)
    (st : NetStack κ P) (clock : FrameClock) :
    V (s.processFrame frame st ident clock).2.2.profile =
      applyWrite write (s.written st.profile ident) (V st.profile) := by
  -- the state that is looked at after the frame is the one from before it
  have hstate : Profile.interfaceState (Ergot.routerProcessFrame (s.sync st.profile ident).netId
      frame st ident clock).profile ident = Profile.interfaceState st.profile ident :=
    (Interfaces.view ident).routerProcessFrame _ _ _ _ _
  have hframe := hV.routerProcessFrame (s.sync st.profile ident).netId frame st ident clock
  have hactivated : (s.sync st.profile ident).activated = s.activated := by
    unfold sync
    split <;> rfl
  simp only [processFrame, hactivated, hstate, written]
  cases hactive : s.activated with
  | true =>
    simpa [applyWrite] using hframe
  | false =>
    cases hbefore : Profile.interfaceState st.profile ident with
    | none => simpa [applyWrite] using hframe
    | some state =>
      cases state with
      | inactive =>
        -- an interface that is not active keeps the net id the processor has
        have hsync : s.sync st.profile ident = s := by simp [sync, hbefore]
        simp only [applyWrite, hsync, and_self, Bool.false_eq_true, if_true, if_false]
        rw [hV.set, ← hframe, hsync]
      | down => simpa [applyWrite] using hframe
      | activeLocal nodeId => simpa [applyWrite] using hframe
      | active netId nodeId => simpa [applyWrite] using hframe

omit [SocketVTable κ] in
theorem EdgeFrameProcessor.donates_view {ident : ι} (hV : IfaceView ident V write)
    (s : EdgeFrameProcessor) (p : P) (dst : Address) (now : Nat) :
    V (s.donates p dst now).2 = V p := by
  unfold donates
  split
  · exact hV.isTransitNet p dst.networkId now
  · rfl

omit [SocketVTable κ] in
theorem EdgeFrameProcessor.adopt_view {ident : ι} (hV : IfaceView ident V write)
    (s : EdgeFrameProcessor) (p : P) (ifState : InterfaceState) (net : UInt16) (donated : Bool) :
    V (s.adopt p ident ifState net donated).profile =
      if ifState = .active net s.ownNode then V p else write (.active net s.ownNode) (V p) := by
  unfold adopt
  by_cases hsame : ifState = .active net s.ownNode
  · simp only [hsame, if_true]
  · have hset := hV.set p (.active net s.ownNode)
    simp only [hsame, if_false]
    rcases hres : Profile.setInterfaceState p ident (.active net s.ownNode) with ⟨res, p'⟩
    rw [hres] at hset
    cases res <;> exact hset

omit [SocketVTable κ] in
theorem EdgeFrameProcessor.window_eq {ident : ι} (s : EdgeFrameProcessor) (p : P) (dst : Address)
    (now : Nat) (ifState : InterfaceState) :
    discover.window s p dst ident now ifState =
      match s.settles p dst now with
      | none => ⟨true, false, s, (s.donates p dst now).2⟩
      | some net =>
        s.adopt (s.donates p dst now).2 ident ifState net (s.donates p dst now).1 := rfl

omit [SocketVTable κ] in
/-- The discovery window is entered by the interface states it is open for. -/
theorem EdgeFrameProcessor.discover_of_opens {ident : ι} {s : EdgeFrameProcessor} {p : P}
    {ifState : InterfaceState} (hactive : s.activated = false)
    (hstate : Profile.interfaceState p ident = some ifState) (hopen : s.opens ifState = true)
    (dst : Address) (now : Nat) :
    s.discover p dst ident now = discover.window s p dst ident now ifState := by
  cases ifState with
  | down => simp [discover, hactive, hstate]
  | inactive => simp [discover, hactive, hstate]
  | activeLocal nodeId => cases hopen
  | active netId nodeId =>
    have hclosed : ¬ (netId ≠ 0 ∧ s.rediscovering = false) := by
      have h : netId = 0 ∨ s.rediscovering = true := by simpa [opens] using hopen
      rintro ⟨hnet, hre⟩
      rcases h with h | h
      · exact hnet h
      · rw [hre] at h
        cases h
    simp only [discover, hactive, hstate, hclosed, Bool.false_eq_true, if_false]

omit [SocketVTable κ] in
/-- The discovery window is open for the interface, or it is closed. -/
theorem EdgeFrameProcessor.opens_or_closed (s : EdgeFrameProcessor) (p : P) (ident : ι) :
    (∃ ifState, s.activated = false ∧ Profile.interfaceState p ident = some ifState ∧
        s.opens ifState = true) ∨
      (s.activated = true ∨ ∀ ifState, Profile.interfaceState p ident = some ifState →
        s.opens ifState = false) := by
  by_contra h
  push Not at h
  obtain ⟨hopen, hactive, ifState, hstate, hne⟩ := h
  exact hopen ifState (by simpa using hactive) hstate (by simpa using hne)

omit [SocketVTable κ] in
/-- The discovery window does not touch the profile where it is closed. -/
theorem EdgeFrameProcessor.discover_profile_of_closed {ident : ι} {s : EdgeFrameProcessor} {p : P}
    (h : s.activated = true ∨ ∀ ifState, Profile.interfaceState p ident = some ifState →
      s.opens ifState = false) (dst : Address) (now : Nat) :
    (s.discover p dst ident now).profile = p := by
  unfold discover
  split
  · rfl
  · next hactive =>
    have hopen := h.resolve_left hactive
    split
    · rfl
    · rfl
    · next ifState hlocal hstate =>
      have hclosed := hopen _ hstate
      split
      · next netId nodeId =>
        have hnet : netId ≠ 0 ∧ s.rediscovering = false := by simpa [opens] using hclosed
        rw [if_pos hnet]
      · next hne =>
        cases ifState with
        | down => cases hclosed
        | inactive => cases hclosed
        | activeLocal nodeId => exact absurd rfl (hlocal nodeId)
        | active netId nodeId => exact absurd rfl (hne netId nodeId)

omit [SocketVTable κ] in
/-- The discovery window. -/
theorem EdgeFrameProcessor.discover_view {ident : ι} (hV : IfaceView ident V write)
    (s : EdgeFrameProcessor) (p : P) (dst : Address) (now : Nat) :
    V (s.discover p dst ident now).profile =
      applyWrite write (s.written p dst ident now) (V p) := by
  rcases s.opens_or_closed p ident with ⟨ifState, hactive, hstate, hopen⟩ | hclosed
  · rw [s.discover_of_opens hactive hstate hopen, window_eq, written, hstate]
    cases s.settles p dst now with
    | none => exact s.donates_view hV p dst now
    | some net =>
      -- the interface is written unless it has the address already
      simp only [s.adopt_view hV, s.donates_view hV, hactive, hopen, true_and]
      by_cases hsame : ifState = .active net s.ownNode
      · rw [if_pos hsame, if_neg (not_not.mpr hsame)]
        rfl
      · rw [if_neg hsame, if_pos hsame]
        rfl
  · rw [s.discover_profile_of_closed hclosed]
    have hnone : s.written p dst ident now = none := by
      unfold written
      split
      · next ifState net hstate hnet =>
        rw [if_neg]
        rintro ⟨hactive, hopen, -⟩
        rcases hclosed with hclosed | hclosed
        · rw [hactive] at hclosed
          cases hclosed
        · rw [hclosed ifState hstate] at hopen
          cases hopen
      · rfl
    rw [hnone]
    rfl

theorem EdgeFrameProcessor.processFrame_view {ident : ι} (hV : IfaceView ident V write)
    (s : EdgeFrameProcessor) (frame : BorrowedFrame) (st : NetStack κ P) (clock : FrameClock) :
    V (s.processFrame frame st ident clock).2.2.profile =
      applyWrite write (s.written st.profile frame.hdr.dst ident clock.check) (V st.profile) := by
  rw [← s.discover_view hV]
  simp only [processFrame, receive, ingress]
  split
  · rfl
  · next receipt hreceipt =>
    rw [Option.map_eq_some_iff] at hreceipt
    obtain ⟨hdr, -, rfl⟩ := hreceipt
    exact hV.handOn _ _ _ _ _

namespace WritesKeep

variable {ident : ι} {R : P → P → Prop} (hR : WritesKeep ident R)
include hR

omit [SocketVTable κ]

theorem donates (s : EdgeFrameProcessor) (p : P) (dst : Address) (now : Nat) :
    R p (s.donates p dst now).2 := by
  unfold EdgeFrameProcessor.donates
  split
  · exact hR.isTransitNet _ _ _
  · exact hR.refl _

theorem adopt (s : EdgeFrameProcessor) (p : P) (ifState : InterfaceState) (net : UInt16)
    (donated : Bool) : R p (s.adopt p ident ifState net donated).profile := by
  have hset := hR.set p (.active net s.ownNode)
  unfold EdgeFrameProcessor.adopt
  dsimp only
  split
  · exact hR.refl _
  · split
    · next p' heq =>
      rw [heq] at hset
      exact hset
    · next p' heq =>
      rw [heq] at hset
      exact hset

theorem discover (s : EdgeFrameProcessor) (p : P) (dst : Address) (now : Nat) :
    R p (s.discover p dst ident now).profile := by
  rcases s.opens_or_closed p ident with ⟨ifState, hactive, hstate, hopen⟩ | hclosed
  · rw [s.discover_of_opens hactive hstate hopen, s.window_eq]
    have hdonates := hR.donates s p dst now
    cases s.settles p dst now with
    | none => exact hdonates
    | some net => exact hR.trans hdonates (hR.adopt _ _ _ _ _)
  · rw [s.discover_profile_of_closed hclosed]
    exact hR.refl _

end WritesKeep

namespace FramesKeep

variable {ident : ι} {R : P → P → Prop} (hR : FramesKeep ident R)
include hR

/-- A frame on a router's interface. -/
theorem router (s : RouterFrameProcessor) (frame : BorrowedFrame) (st : NetStack κ P)
    (clock : FrameClock) : R st.profile (s.processFrame frame st ident clock).2.2.profile := by
  have hframe := hR.routerProcessFrame (s.sync st.profile ident).netId frame st ident clock
  unfold RouterFrameProcessor.processFrame
  dsimp only
  split
  · exact hframe
  · split
    · exact hR.trans hframe (hR.set _ _)
    · exact hframe

/-- What is left to do after the discovery window. -/
theorem afterDiscover (s : EdgeFrameProcessor) (frame : BorrowedFrame) (st : NetStack κ P)
    (clock : FrameClock) :
    R (s.discover st.profile frame.hdr.dst ident clock.check).profile
      (s.processFrame frame st ident clock).2.2.profile := by
  simp only [EdgeFrameProcessor.processFrame, EdgeFrameProcessor.receive,
    EdgeFrameProcessor.ingress]
  split
  · exact hR.refl _
  · next receipt hreceipt =>
    rw [Option.map_eq_some_iff] at hreceipt
    obtain ⟨hdr, -, rfl⟩ := hreceipt
    exact hR.handOn { st with profile := _ } _ _ _ _

/-- A frame on an edge device or on the upstream of a bridge. -/
theorem edge (s : EdgeFrameProcessor) (frame : BorrowedFrame) (st : NetStack κ P)
    (clock : FrameClock) : R st.profile (s.processFrame frame st ident clock).2.2.profile :=
  hR.trans (hR.discover s st.profile frame.hdr.dst clock.check) (hR.afterDiscover s frame st clock)

/-- The rest of a frame, once it is known whether it is a donor. -/
theorem afterDonates {s : EdgeFrameProcessor} {frame : BorrowedFrame} {st : NetStack κ P}
    {clock : FrameClock} {ifState : InterfaceState}
    (hstate : Profile.interfaceState st.profile ident = some ifState)
    (hactive : s.activated = false) (hopen : s.opens ifState = true) :
    R (s.donates st.profile frame.hdr.dst clock.check).2
      (s.processFrame frame st ident clock).2.2.profile := by
  refine hR.trans ?_ (hR.afterDiscover s frame st clock)
  rw [s.discover_of_opens hactive hstate hopen, s.window_eq]
  cases s.settles st.profile frame.hdr.dst clock.check with
  | none => exact hR.refl _
  | some net => exact hR.adopt _ _ _ _ _

end FramesKeep

/-- What an act does to what a profile keeps of its interfaces. -/
theorem RxWorker.step_view [Interfaces P] (w : RxWorker ι) (hV : IfaceView w.ident V write)
    (st : NetStack κ P) (act : WorkerAct) :
    V (w.step st act).2.profile = applyWrite write (w.written st.profile act) (V st.profile) := by
  have hset : ∀ state, V (w.setState st state).profile = write state (V st.profile) :=
    fun state => hV.set st.profile state
  cases act with
  | frame frame clock =>
    rcases w with ⟨ident, s | s⟩
    · exact s.processFrame_view hV frame st clock
    · exact s.processFrame_view hV frame st clock
  | livenessTimeout linkLocalOnTimeout =>
    simp only [step, timeout, written]
    split
    · split
      · exact hset _
      · rfl
    · rfl
  | reset => rfl
  | run initialState => exact hset _
  | setDown => exact hset _
  | connected =>
    simp only [step, connect, written]
    split
    · rfl
    · exact hset _

@[simp] theorem RxWorker.step_ident (w : RxWorker ι) (st : NetStack κ P) (act : WorkerAct) :
    (w.step st act).1.ident = w.ident := by
  cases act <;> rfl

end StepView

end Ergot
