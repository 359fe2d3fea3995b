import Ergot.Router.Route
import Ergot.Stack.Process

/-!
# Misdelivery at a router

Which received unicast frames a router hands to its own sockets.

- Sockets are tapped: `bodies` is what a socket was handed, and `HandsBody` says that
  some socket was handed a body by a step of the stack.
- A frame is handed to a socket when the profile answers `DestinationLocal` or
  `RoutingLoop`. The second answer is also what prevents loops: a frame whose route
  leads back through the interface it came from is delivered here, although it is for
  somebody else. So is a frame that is routed to the address of a slot port, where
  that is not the address of the slot (`LeadsBack`).
- `misdelivery_iff` says that these are the only misdelivered frames.
-/

namespace Ergot

/-! ## What sockets were handed -/

section Bodies

variable {κ P ι : Type}

/-- The bodies a socket was handed, with their headers. -/
def bodies (s : Socket (Tapped (Header × Payload) κ)) : List (Header × List UInt8) :=
  s.inner.log.filterMap fun (hdr, payload) =>
    match payload with
    | .raw data => some (hdr, data)
    | _ => none

/-- Some socket was handed a body between the two states. -/
def HandsBody (st st' : NetStack (Tapped (Header × Payload) κ) P) : Prop :=
  st'.sockets.map bodies ≠ st.sockets.map bodies

variable [SocketVTable κ]

theorem bodies_sendErrToSocket (e : ProtocolError) (hdr : Header)
    (s : Socket (Tapped (Header × Payload) κ)) :
    bodies (sendErrToSocket e hdr s).2 = bodies s := by
  unfold sendErrToSocket
  cases h : SocketVTable.recvErr s.inner with
  | none => rfl
  | some f =>
    obtain ⟨g, -, rfl⟩ := Option.map_eq_some_iff.mp h
    simp [bodies]

theorem bodies_sendRawToSocket (data : List UInt8) (hdr : Header)
    (s : Socket (Tapped (Header × Payload) κ)) :
    bodies (sendRawToSocket data hdr s).2 = bodies s ++ [(hdr, data)] := by
  simp [bodies, sendRawToSocket, Socket.report, SocketVTable.recvRaw]

/-- An error never hands anybody a body. -/
theorem sendErr_bodies [Profile P ι] (st : NetStack (Tapped (Header × Payload) κ) P)
    (hdr : Header) (e : ProtocolError) (source : Option ι) (clock : Clock) :
    (st.sendErr hdr e source clock).2.sockets.map bodies = st.sockets.map bodies := by
  have hdeliver : ∀ p : P,
      (NetStack.deliver ⟨st.sockets, p⟩ (findOneErrLocal st.sockets hdr)
        (sendErrToSocket e hdr)).2.sockets.map bodies = st.sockets.map bodies := by
    intro p
    cases hsocket : st.sockets.find? (fun s => s.port = hdr.dst.portId) with
    | none => simp [findOneErrLocal, hsocket, NetStack.deliver]
    | some s =>
      have hfound := NetStack.deliver_findOneErrLocal ⟨st.sockets, p⟩ hsocket (sendErrToSocket e hdr)
      obtain ⟨before, after, hsplit, -, hmod⟩ :=
        HeaplessVec.modifyFirstList_split (fun _ => (sendErrToSocket e hdr s).2) hsocket
      rw [hfound, hmod, hsplit]
      simp [bodies_sendErrToSocket]
  unfold NetStack.sendErr
  split
  · rfl
  · unfold NetStack.unicastErr
    dsimp only
    split
    · rfl
    · split
      · exact hdeliver _
      · rfl

end Bodies

/-! ## The router -/

namespace Router

variable {κ σ : Type} {N S C : Nat} [SocketVTable κ] [InterfaceSink σ]

/-- Whether the route of a frame leads back: through the interface it came from, or
to the address of the port it would leave by. -/
def LeadsBack (r : Router σ N S C) (dst : Address) (source : UInt8) (clock : Clock)
    (data : List UInt8) : Prop :=
  ∃ ident port, r.route dst.networkId clock = some (ident, port) ∧
    (ident = source ∨
      ∃ p, port = some p ∧ p.fits data ∧ p.address = some (dst.networkId, dst.nodeId))

/-- Whether there is a socket for a frame: the first one with its port, which must
have its kind. -/
def HasSocket (sockets : List (Socket κ)) (hdr : Header) : Prop :=
  ∃ s, sockets.find? (fun s => s.port = hdr.dst.portId) = some s ∧ s.kind = hdr.kind

/-- The answers of the profile that lead to the sockets. -/
theorem sendRaw_local_iff (r : Router σ N S C) {hdr : Header} (data : List UInt8)
    (source : UInt8) (clock : Clock) (hany : hdr.dst.portId ≠ 0) (hall : hdr.dst.portId ≠ 255) :
    (r.sendRaw hdr data source clock).1 = .error .destinationLocal ∨
        (r.sendRaw hdr data source clock).1 = .error .routingLoop ↔
      hdr.ttl ≠ 0 ∧ (r.ownSlot hdr.dst = true ∨ r.LeadsBack hdr.dst source clock data) := by
  by_cases httl : hdr.ttl = 0
  · simp [sendRaw, Header.decrementTtl, httl]
  · rw [sendRaw_answer r data source clock (fun h => hany h.1) hall httl,
      answer_eq_destinationLocal_iff,
      answer_eq_routingLoop_iff fun _ => EdgePort.sendRaw_ne_routingLoop]
    simp only [EdgePort.sendRaw_destinationLocal_iff, ne_eq, httl, not_false_eq_true, true_and,
      LeadsBack]
    by_cases hown : r.ownSlot hdr.dst = true
    · simp [hown]
    · simp only [Bool.not_eq_true] at hown
      simp only [hown, Bool.false_eq_true, false_or, true_and]
      constructor
      · rintro (⟨ident, port, hroute, -, hfits, haddr⟩ | ⟨ident, port, hroute, hsource⟩)
        · exact ⟨ident, some port, hroute, .inr ⟨port, rfl, hfits, haddr⟩⟩
        · exact ⟨ident, port, hroute, .inl (Option.some.inj hsource).symm⟩
      · rintro ⟨ident, port, hroute, hback⟩
        by_cases hsource : ident = source
        · exact .inr ⟨ident, port, hroute, by rw [hsource]⟩
        · obtain ⟨p, rfl, hfits, haddr⟩ := hback.resolve_left hsource
          exact .inl ⟨ident, p, hroute, by simpa using fun h => hsource h.symm, hfits, haddr⟩

/-- A frame that is handed on reaches a socket exactly when there is one for it and
the profile gives the frame back. -/
theorem sendRaw_handsBody_iff
    (st : NetStack (Tapped (Header × Payload) κ) (Router σ N S C)) {hdr : Header}
    (data : List UInt8) (source : UInt8) (clock : Clock) (hkind : hdr.kind ≠ .protocolError)
    (hany : hdr.dst.portId ≠ 0) (hall : hdr.dst.portId ≠ 255)
    (hb : NetStack.localBypass hdr = false) :
    HandsBody st (st.sendRaw hdr data source clock).2 ↔
      HasSocket st.sockets hdr ∧ hdr.ttl ≠ 0 ∧
        (st.profile.ownSlot hdr.dst = true ∨ st.profile.LeadsBack hdr.dst source clock data) := by
  rw [← sendRaw_local_iff st.profile data source clock hany hall]
  simp only [NetStack.sendRaw, NetStack.sendWith, if_neg hkind, if_neg hall]
  rcases hres : Profile.sendRaw st.profile hdr data source clock with ⟨res | e, p⟩
  all_goals
    have hres' : st.profile.sendRaw hdr data source clock = _ := hres
    rw [hres']
  · by_cases he : res = .destinationLocal ∨ res = .routingLoop
    · rw [NetStack.unicast_of_local hb hany he hres]
      simp only [Except.error.injEq, he, and_true]
      cases hsocket : st.sockets.find? (fun s => s.port = hdr.dst.portId) with
      | none =>
        simp [HandsBody, HasSocket, hsocket, findOneLocal, NetStack.deliver]
      | some s =>
        by_cases hs : s.kind = hdr.kind
        · refine iff_of_true ?_ ⟨s, hsocket, hs⟩
          obtain ⟨before, after, hsplit, -, hmod⟩ :=
            HeaplessVec.modifyFirstList_split (fun _ => (sendRawToSocket data hdr s).2) hsocket
          have hfound := NetStack.deliver_findOneLocal ⟨st.sockets, p⟩ hsocket hs
            (sendRawToSocket data hdr)
          rw [HandsBody, hfound, hmod, hsplit]
          simp [bodies_sendRawToSocket]
        · simp [HandsBody, HasSocket, hsocket, hs, findOneLocal, NetStack.deliver]
    · obtain ⟨hlocal, hloop⟩ := not_or.mp he
      rw [NetStack.unicast_of_error hb hlocal hloop hres]
      simp [HandsBody, hlocal, hloop]
  · cases e
    rw [NetStack.unicast_of_ok hb hres]
    simp [HandsBody]

/-- The reply to a frame that was too big is not a body. -/
theorem replyTooBig_bodies (receipt : Receipt (Tapped (Header × Payload) κ) (Router σ N S C))
    (ident : UInt8) (clock : Clock) :
    (replyTooBig receipt ident clock).sockets.map bodies =
      receipt.stack.sockets.map bodies := by
  unfold replyTooBig
  split
  · split
    · rfl
    · exact sendErr_bodies _ _ _ _ _
  · rfl

/-- What `process_frame` hands to the sockets. -/
theorem processFrame_handsBody_iff
    (st : NetStack (Tapped (Header × Payload) κ) (Router σ N S C)) (netId : UInt16)
    (ident : UInt8) (frame : BorrowedFrame) (clock : FrameClock) {data : List UInt8}
    (hbody : frame.body = .ok data) (hany : frame.hdr.dst.portId ≠ 0)
    (hall : frame.hdr.dst.portId ≠ 255) :
    HandsBody st (routerProcessFrame netId frame st ident clock) ↔
      ∃ hdr, routerIngress st.profile netId frame.hdr clock.check = some hdr ∧
        HasSocket st.sockets hdr ∧ hdr.ttl ≠ 0 ∧
        (st.profile.ownSlot hdr.dst = true ∨
          st.profile.LeadsBack hdr.dst ident clock.send data) := by
  cases hin : routerIngress st.profile netId frame.hdr clock.check with
  | none => simp [HandsBody, routerProcessFrame, routerReceive, hin]
  | some hdr =>
    obtain ⟨hport, hkind, -, hsrc⟩ := routerIngress_spec hin
    have hkind' : hdr.kind ≠ .protocolError := hkind ▸ frame.kind_ne hbody
    have hb : NetStack.localBypass hdr = false := by simp [NetStack.localBypass, hsrc]
    have hsend := sendRaw_handsBody_iff st data ident clock.send hkind'
      (by rwa [hport]) (by rwa [hport]) hb
    simp only [Option.some.injEq, exists_eq_left', ← hsend, HandsBody, routerProcessFrame,
      routerReceive, hin, Option.map_some, replyTooBig_bodies, NetStack.handOn, hbody]

/-- A frame is misdelivered exactly when it is for somebody else, there is a socket
here for it, and its route leads back. -/
theorem misdelivery_iff (st : NetStack (Tapped (Header × Payload) κ) (Router σ N S C))
    (netId : UInt16) (ident : UInt8) (frame : BorrowedFrame) (clock : FrameClock)
    (data : List UInt8) (hbody : frame.body = .ok data) (hany : frame.hdr.dst.portId ≠ 0)
    (hall : frame.hdr.dst.portId ≠ 255) :
    (HandsBody st (routerProcessFrame netId frame st ident clock) →
        ∀ hdr, routerIngress st.profile netId frame.hdr clock.check = some hdr →
          st.profile.Own hdr.dst) ↔
      ∀ hdr, routerIngress st.profile netId frame.hdr clock.check = some hdr →
        hdr.ttl ≠ 0 → HasSocket st.sockets hdr → ¬ st.profile.Own hdr.dst →
          ¬ st.profile.LeadsBack hdr.dst ident clock.send data := by
  rw [processFrame_handsBody_iff st netId ident frame clock hbody hany hall]
  constructor
  · intro h hdr hin httl hsocket hown hback
    exact hown (h ⟨hdr, hin, hsocket, httl, .inr hback⟩ hdr hin)
  · rintro h ⟨hdr, hin, hsocket, httl, hlocal⟩ hdr' hin'
    obtain rfl := Option.some.inj (hin.symm.trans hin')
    by_contra hown
    rcases hlocal with hslot | hback
    · exact hown (.inr (.inl hslot))
    · exact h hdr hin httl hsocket hown hback

/-! ## A neighbour's frame -/

/-- A root router with one segment, number 1, and a socket on port 9. -/
def demoNode : NetStack (Tapped (Header × Payload) OwnedSocket) (Router FrameQueue 1 1 1) :=
  ⟨[⟨⟨.replicate 8 0⟩, none, .endpointReq, true, 9, ⟨⟨0, fun b => some ⟨0, b⟩, 1, []⟩, []⟩⟩],
    ((new ⟨fun i => UInt64.ofNat i, 0⟩ one_slot).registerInterface ⟨64, 1, []⟩ 0).2⟩

/-- A request that the edge of segment 1 sends to port 9 of another node. -/
def demoFrame (netId : UInt16) (nodeId : UInt8) : BorrowedFrame where
  hdr := ⟨⟨1, 2, 20⟩, ⟨netId, nodeId, 9⟩, none, .endpointReq, .normal, 15⟩
  body := .ok [7]
  wf := ⟨by simp [FrameKind.endpointReq, FrameKind.protocolError],
    by simp [FrameKind.endpointReq, FrameKind.protocolError], by simp,
    show (15 : UInt8) ≤ maxTtl by decide, rfl⟩

/-- A request to 1.3, a neighbour of its sender, is answered by the router. -/
theorem neighbour_misdelivered :
    HandsBody demoNode (routerProcessFrame 1 (demoFrame 1 3) demoNode 0 ⟨0, .at 0, .at 0⟩) ∧
      routerIngress demoNode.profile 1 (demoFrame 1 3).hdr 0 = some (demoFrame 1 3).hdr ∧
      ¬ demoNode.profile.Own (demoFrame 1 3).hdr.dst := by
  refine ⟨?_, rfl, ?_⟩
  · unfold HandsBody
    decide
  · unfold Own
    decide

/-- A request to 1.1 is handed to the socket, and is for the router. -/
theorem misdelivery_iff_demo :
    HandsBody demoNode (routerProcessFrame 1 (demoFrame 1 1) demoNode 0 ⟨0, .at 0, .at 0⟩) ∧
      demoNode.profile.Own (demoFrame 1 1).hdr.dst := by
  have hhands : HandsBody demoNode
      (routerProcessFrame 1 (demoFrame 1 1) demoNode 0 ⟨0, .at 0, .at 0⟩) := by
    unfold HandsBody
    decide
  refine ⟨hhands, (misdelivery_iff demoNode 1 0 (demoFrame 1 1) ⟨0, .at 0, .at 0⟩ [7] rfl
    (by decide) (by decide)).mpr ?_ hhands _ rfl⟩
  intro hdr hin _ _ hown
  obtain rfl := Option.some.inj hin
  exact absurd (.inr (.inl (by decide))) hown

end Router

end Ergot
