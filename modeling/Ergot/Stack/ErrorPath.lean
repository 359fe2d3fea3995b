import Ergot.Router.Route
import Ergot.Stack.Process

/-!
# Protocol errors

Which received protocol-error frames for this node reach the socket they are
addressed to.

- `LookedUp` is what should come of such a frame: the first socket with its
  destination port is handed the error, and nobody else. That is where `send_raw`
  looks too, but for the kind (`findOneErrLocal_of_findOneLocal`).
- The error path takes only `DestinationLocal` for an answer that leads to the
  sockets, while `send_raw` also takes `RoutingLoop`. A `DirectEdge` answers
  `RoutingLoop` to every error that came in, and a router to the errors that come for
  its upstream address from upstream (`errors_reach_sockets_iff`).
-/

namespace Ergot

section LookUp

variable {κ P ι : Type}

variable [SocketVTable κ]

/-- The error was handed to the socket with the destination port, if there is one,
and to no other. -/
def LookedUp (sockets : List (Socket κ)) (hdr : Header) (e : ProtocolError)
    (result : Except NetStackSendError Unit) (sockets' : List (Socket κ)) : Prop :=
  match sockets.find? fun s => s.port = hdr.dst.portId with
  | none => result = .error .noRoute ∧ sockets' = sockets
  | some s =>
    result = (sendErrToSocket e hdr s).1 ∧
      sockets' = HeaplessVec.modifyFirstList (fun s => s.port = hdr.dst.portId)
        (fun _ => (sendErrToSocket e hdr s).2) sockets

/-- The look-up of `unicast_err`. -/
theorem deliver_lookedUp (st : NetStack κ P) (hdr : Header) (e : ProtocolError) :
    LookedUp st.sockets hdr e
      (st.deliver (findOneErrLocal st.sockets hdr) (sendErrToSocket e hdr)).1
      (st.deliver (findOneErrLocal st.sockets hdr) (sendErrToSocket e hdr)).2.sockets := by
  unfold LookedUp
  split
  · rename_i hsocket
    simp [findOneErrLocal, hsocket, NetStack.deliver]
  · rename_i s hsocket
    rw [NetStack.deliver_findOneErrLocal st hsocket]
    exact ⟨rfl, rfl⟩

/-- A tapped socket that takes an error shows it. -/
theorem sendErrToSocket_tapped {e : ProtocolError} {hdr : Header}
    {s : Socket (Tapped (Header × Payload) κ)} (h : (sendErrToSocket e hdr s).1 = .ok ()) :
    (sendErrToSocket e hdr s).2 ≠ s := by
  unfold sendErrToSocket at h ⊢
  split at h
  · rename_i f hf
    obtain ⟨g, -, rfl⟩ := Option.map_eq_some_iff.mp hf
    intro hs
    have hs := congrArg (fun s => s.inner.log.length) hs
    simp at hs
  · cases h

theorem sendErrToSocket_answer (e : ProtocolError) (hdr : Header) (s : Socket κ) :
    (sendErrToSocket e hdr s).1 = .ok () ∨
      (sendErrToSocket e hdr s).1 = .error (.socketSend .whatTheHell) := by
  unfold sendErrToSocket
  split
  · exact .inl rfl
  · exact .inr rfl

/-- Without a look-up the sockets are as they were and the result is the profile's. -/
theorem not_lookedUp_of_profile {sockets : List (Socket (Tapped (Header × Payload) κ))}
    {hdr : Header} {e : ProtocolError} {result : Except NetStackSendError Unit}
    (hresult : result = .ok () ∨ ∃ e', result = .error (.interfaceSend e')) :
    ¬ LookedUp sockets hdr e result sockets := by
  unfold LookedUp
  split
  · rintro ⟨h, -⟩
    rcases hresult with rfl | ⟨e', rfl⟩ <;> cases h
  · rename_i s hsocket
    rintro ⟨h, hsame⟩
    obtain ⟨before, after, hsplit, -, hmod⟩ :=
      HeaplessVec.modifyFirstList_split (fun _ => (sendErrToSocket e hdr s).2) hsocket
    have hs : (sendErrToSocket e hdr s).2 = s := by
      rw [hmod, hsplit] at hsame
      exact (List.cons.inj (List.append_cancel_left hsame)).1.symm
    rcases sendErrToSocket_answer e hdr s with hok | herr
    · exact sendErrToSocket_tapped hok hs
    · rw [herr] at h
      rcases hresult with rfl | ⟨e', rfl⟩ <;> cases h

/-- An error is looked up exactly when the profile is left out or answers
`DestinationLocal`. -/
theorem sendErr_lookedUp_iff [Profile P ι] (st : NetStack (Tapped (Header × Payload) κ) P)
    (hdr : Header) (e : ProtocolError) (source : Option ι) (clock : Clock)
    (hall : hdr.dst.portId ≠ 255) :
    LookedUp st.sockets hdr e (st.sendErr hdr e source clock).1
        (st.sendErr hdr e source clock).2.sockets ↔
      NetStack.localBypass hdr = true ∨
        (Profile.sendErr st.profile hdr e source clock).1 = .error .destinationLocal := by
  simp only [NetStack.sendErr, if_neg hall]
  by_cases hb : NetStack.localBypass hdr = true
  · rw [NetStack.unicastErr_of_bypass hb]
    exact iff_of_true (deliver_lookedUp st hdr e) (.inl hb)
  · have hb' := Bool.eq_false_iff.mpr hb
    rcases hres : Profile.sendErr st.profile hdr e source clock with ⟨res | e', p⟩
    · by_cases he : res = .destinationLocal
      · subst he
        rw [NetStack.unicastErr_of_local hb' hres]
        exact iff_of_true (deliver_lookedUp ⟨st.sockets, p⟩ hdr e) (.inr rfl)
      · rw [NetStack.unicastErr_of_error hb' he hres]
        exact iff_of_false (not_lookedUp_of_profile (.inr ⟨res, rfl⟩)) (by simp [hb, he])
    · rw [NetStack.unicastErr_of_ok hb' hres]
      exact iff_of_false (not_lookedUp_of_profile (.inl rfl)) (by simp [hb])

end LookUp

/-! ## The profiles -/

variable {κ σ P ι : Type} {N S C : Nat} [SocketVTable κ] [InterfaceSink σ]

/-- The addresses of an edge device: `0.0`, and the one its port has. -/
def DirectEdge.Own (e : DirectEdge σ) (dst : Address) : Prop :=
  dst.netNodeAny = true ∨ e.port.address = some (dst.networkId, dst.nodeId)

/-- Whether the route of a frame ends at the router: at the address of a slot, or at
the address of the port it would leave by, which is not the one it came in by. -/
def Router.EndsHere (r : Router σ N S C) (dst : Address) (source : UInt8) (clock : Clock) :
    Prop :=
  r.ownSlot dst = true ∨
    ∃ ident port, r.route dst.networkId clock = some (ident, some port) ∧ ident ≠ source ∧
      port.address = some (dst.networkId, dst.nodeId)

/-- An error frame is looked up if it has hops left and is for an address that
satisfies `own`, once it is handed on. -/
def ErrorReaches [Profile P ι] (own : P → Address → Prop) (proc : FrameProcessor)
    (st : NetStack κ P) (ident : ι) (frame : BorrowedFrame) (clock : FrameClock)
    (e : ProtocolError) : Prop :=
  ∀ receipt, proc.receive frame st ident clock = some receipt → receipt.hdr.ttl ≠ 0 →
    own (proc.accept frame.hdr st ident clock.check).1.profile receipt.hdr.dst →
      LookedUp st.sockets receipt.hdr e receipt.result receipt.stack.sockets

/-- What is handed on, in place of the receipt. -/
theorem errorReaches_iff [Profile P ι] {own : P → Address → Prop} {proc : FrameProcessor}
    {st : NetStack (Tapped (Header × Payload) κ) P} {ident : ι} {frame : BorrowedFrame}
    {clock : FrameClock} {e : ProtocolError} (hbody : frame.body = .error e) :
    ErrorReaches own proc st ident frame clock e ↔
      ∀ st' hdr, proc.accept frame.hdr st ident clock.check = (st', some hdr) → hdr.ttl ≠ 0 →
        own st'.profile hdr.dst →
          (NetStack.localBypass hdr = true ∨
            (Profile.sendErr st'.profile hdr e (some ident) clock.send).1 =
              .error .destinationLocal) := by
  have hport := (frame.wf.err_port (frame.wf.err_kind.mpr ⟨e, hbody⟩)).2
  have hsockets := FrameProcessor.accept_sockets proc frame.hdr st ident clock.check
  rcases haccept : proc.accept frame.hdr st ident clock.check with ⟨st', _ | hdr⟩
  · simp [ErrorReaches, FrameProcessor.receive_eq, haccept]
  · replace hsockets : st'.sockets = st.sockets := by simpa [haccept] using hsockets
    have hall : hdr.dst.portId ≠ 255 := by
      have hkept := FrameProcessor.accept_port (congrArg Prod.snd haccept)
      rwa [hkept]
    have hlook := sendErr_lookedUp_iff st' hdr e (some ident) clock.send hall
    rw [hsockets] at hlook
    simp only [ErrorReaches, FrameProcessor.receive_eq, haccept, hbody, NetStack.handOn,
      Option.map_some, Option.some.injEq, Prod.mk.injEq]
    constructor
    · rintro h st'' hdr' ⟨rfl, rfl⟩ httl hown
      exact hlook.mp (h _ rfl httl hown)
    · rintro h receipt rfl httl hown
      exact hlook.mpr (h st' hdr ⟨rfl, rfl⟩ httl hown)

/-- A `DirectEdge` refuses every error that came in. -/
theorem DirectEdge.sendErr_ne_destinationLocal (e : DirectEdge σ) (hdr : Header)
    (err : ProtocolError) :
    (e.sendErr hdr err (some ())).1 ≠ .error .destinationLocal := nofun

/-- A router gives back the errors whose route ends here. -/
theorem Router.sendErr_destinationLocal_iff (r : Router σ N S C) {hdr : Header}
    (err : ProtocolError) (source : UInt8) (clock : Clock) (hany : hdr.dst.portId ≠ 0)
    (httl : hdr.ttl ≠ 0) :
    (r.sendErr hdr err (some source) clock).1 = .error .destinationLocal ↔
      r.EndsHere hdr.dst source clock := by
  rw [sendErr_answer r err (some source) clock (fun h => hany h.1) httl,
    answer_eq_destinationLocal_iff]
  simp only [EdgePort.sendErr_destinationLocal_iff, EndsHere, ne_eq, Option.some.injEq,
    eq_comm (a := source)]

/-- An error for this node reaches its socket exactly if the profile is left out, or,
at a router, its route ends there. -/
theorem errors_reach_sockets_iff (proc : FrameProcessor) (frame : BorrowedFrame)
    (clock : FrameClock) (err : ProtocolError) (hbody : frame.body = .error err) :
    (∀ st : NetStack (Tapped (Header × Payload) κ) (DirectEdge σ),
      ErrorReaches DirectEdge.Own proc st () frame clock err ↔
        ∀ st' hdr, proc.accept frame.hdr st () clock.check = (st', some hdr) → hdr.ttl ≠ 0 →
          st'.profile.Own hdr.dst → NetStack.localBypass hdr = true) ∧
    (∀ (st : NetStack (Tapped (Header × Payload) κ) (Router σ N S C)) (ident : UInt8),
      ErrorReaches Router.Own proc st ident frame clock err ↔
        ∀ st' hdr, proc.accept frame.hdr st ident clock.check = (st', some hdr) → hdr.ttl ≠ 0 →
          st'.profile.Own hdr.dst →
            (NetStack.localBypass hdr = true ∨
              st'.profile.EndsHere hdr.dst ident clock.send)) := by
  have hany := (frame.wf.err_port (frame.wf.err_kind.mpr ⟨err, hbody⟩)).1
  constructor
  · intro st
    rw [errorReaches_iff hbody]
    refine forall₅_congr fun st' hdr _ _ _ => ?_
    exact or_iff_left (DirectEdge.sendErr_ne_destinationLocal st'.profile hdr err)
  · intro st ident
    rw [errorReaches_iff hbody]
    refine forall₄_congr fun st' hdr haccept httl => forall_congr' fun _ => or_congr_right ?_
    have hport := FrameProcessor.accept_port (congrArg Prod.snd haccept)
    exact Router.sendErr_destinationLocal_iff st'.profile err ident clock.send (by rwa [hport]) httl

/-! ## An error that is lost, and one that is not -/

namespace ErrorPath

/-- A socket on port 9. -/
def demoSocket : Socket (Tapped (Header × Payload) OwnedSocket) :=
  ⟨⟨.replicate 8 0⟩, none, .endpointReq, true, 9, ⟨⟨0, fun b => some ⟨0, b⟩, 1, []⟩, []⟩⟩

/-- An edge device with that socket, active as 1.2. -/
def demoEdge :
    NetStack (Tapped (Header × Payload) OwnedSocket) (DirectEdge FrameQueue) :=
  ⟨[demoSocket], ⟨{ EdgePort.newTarget ⟨64, 1, []⟩ with state := .active 1 2 }⟩⟩

/-- A root router with that socket and one segment, number 1. -/
def demoRouter :
    NetStack (Tapped (Header × Payload) OwnedSocket) (Router FrameQueue 1 1 1) :=
  ⟨[demoSocket],
    ((Router.new ⟨fun i => UInt64.ofNat i, 0⟩ Router.one_slot).registerInterface ⟨64, 1, []⟩ 0).2⟩

/-- A protocol error from 1.`src` to port 9 of 1.`dst`. -/
def demoError (src dst : UInt8) : BorrowedFrame where
  hdr := ⟨⟨1, src, 20⟩, ⟨1, dst, 9⟩, none, .protocolError, .normal, 15⟩
  body := .error .nsseNoRoute
  wf := ⟨by simp, by simp, by simp, show (15 : UInt8) ≤ maxTtl by decide, rfl⟩

/-- The processor of the edge device, which has seen frames before. -/
def demoProcessor : FrameProcessor := .edge ⟨some 1, edgeNodeId, true, false⟩

/-- An error that 1.1 sends to port 9 of 1.2 does not reach the socket of 1.2. -/
theorem edge_loses_error :
    ¬ ErrorReaches DirectEdge.Own demoProcessor demoEdge () (demoError 1 2)
      ⟨0, .at 0, .at 0⟩ .nsseNoRoute := by
  intro h
  have hlook := h ⟨(demoError 1 2).hdr, .error (.interfaceSend .routingLoop), demoEdge⟩ rfl
    (by decide) (.inr rfl)
  exact nomatch (show Except.error _ = Except.ok () from hlook.1)

/-- An error that 1.2 sends to port 9 of 1.1 reaches the socket of 1.1. -/
theorem errors_reach_sockets_iff_demo :
    ErrorReaches Router.Own (.router ⟨1, true⟩) demoRouter 0 (demoError 2 1)
      ⟨0, .at 0, .at 0⟩ .nsseNoRoute := by
  have hiff := (errors_reach_sockets_iff (σ := FrameQueue) (κ := OwnedSocket) (N := 1) (S := 1)
    (C := 1) (.router ⟨1, true⟩) (demoError 2 1) ⟨0, .at 0, .at 0⟩ .nsseNoRoute rfl).2
  refine (hiff demoRouter 0).mpr ?_
  rintro st' hdr haccept - -
  cases haccept
  exact .inr (.inl (by decide))

end ErrorPath

end Ergot
