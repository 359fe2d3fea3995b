import Ergot.Stack.Profiles

/-!
# Unicast conformance

The unicast rules of conformance/net_stack.rs, and how far the three non-error sends
follow them.

- `Conformance.unicast` is the document: a destination of `0.0` is for the sockets
  and for nobody else; anything else is for the profile, and comes back to the
  sockets on `DestinationLocal` only.
- `SendPath` is one of `send_ty`, `send_raw` and `send_bor` with its message, so
  that one theorem is about the three of them.
- `sendVia_conforms_iff` says when a send does what the document says. Sockets and
  profile are tapped, so equal outcomes are equal offers as well as equal results.
-/

namespace Ergot

/-! ## The document -/

namespace Conformance

variable {κ P : Type}

/-- "Socket Sending" for a port other than 0. -/
def socketSending (st : NetStack κ P) (hdr : Header)
    (offer : Socket κ → Except NetStackSendError Unit × Socket κ) :
    Except NetStackSendError Unit × NetStack κ P :=
  match st.sockets.find? fun s => s.port = hdr.dst.portId with
  | none => (.error .noRoute, st)
  | some s =>
    if s.kind = hdr.kind then
      ((offer s).1,
        { st with
          sockets := HeaplessVec.modifyFirstList (fun s => s.port = hdr.dst.portId)
            (fun _ => (offer s).2) st.sockets })
    else (.error (.wrongPortKind s.kind hdr.kind), st)

/-- "Unicast Messages", with "Profile Sending". -/
def unicast (st : NetStack κ P) (hdr : Header)
    (offer : Socket κ → Except NetStackSendError Unit × Socket κ)
    (offerProfile : P → Except InterfaceSendError Unit × P) :
    Except NetStackSendError Unit × NetStack κ P :=
  if hdr.dst.netNodeAny then socketSending st hdr offer
  else
    match offerProfile st.profile with
    | (.ok (), profile) => (.ok (), { st with profile })
    | (.error .destinationLocal, profile) => socketSending { st with profile } hdr offer
    | (.error e, profile) => (.error (.interfaceSend e), { st with profile })

end Conformance

/-! ## The three sends -/

/-- A non-error send: the method, and the message it is given. -/
inductive SendPath (ι : Type)
  | ty (t : Msg)
  | raw (body : List UInt8) (source : ι)
  | bor (t : Msg)

namespace SendPath

variable {κ P ι : Type}

/-- What the method does to a socket. -/
def sskt [SocketVTable κ] (hdr : Header) :
    SendPath ι → Socket κ → Except NetStackSendError Unit × Socket κ
  | .ty t => sendTyToSocket t hdr
  | .raw body _ => sendRawToSocket body hdr
  | .bor t => sendBorToSocket t hdr

/-- What the method does to the profile. -/
def smgr [Profile P ι] (hdr : Header) (clock : Clock) :
    SendPath ι → P → Except InterfaceSendError Unit × P
  | .ty t => fun p => Profile.send p hdr t clock
  | .raw body source => fun p => Profile.sendRaw p hdr body source clock
  | .bor t => fun p => Profile.send p hdr t clock

end SendPath

/-- Send a message by one of the three methods. -/
def NetStack.sendVia {κ P ι : Type} [SocketVTable κ] [Profile P ι] (st : NetStack κ P)
    (hdr : Header) (clock : Clock) :
    SendPath ι → Except NetStackSendError Unit × NetStack κ P
  | .ty t => st.sendTy hdr t clock
  | .raw body source => st.sendRaw hdr body source clock
  | .bor t => st.sendBor hdr t clock

namespace Conformance

variable {κ P ι : Type}

/-- The sockets are searched as the document says. -/
theorem deliver_findOneLocal (st : NetStack κ P) (hdr : Header)
    (offer : Socket κ → Except NetStackSendError Unit × Socket κ) :
    st.deliver (findOneLocal st.sockets hdr) offer = socketSending st hdr offer := by
  simp only [findOneLocal, socketSending]
  cases st.sockets.find? (fun s => s.port = hdr.dst.portId) with
  | none => rfl
  | some s =>
    by_cases hkind : s.kind = hdr.kind
    · simp only [ne_eq, hkind, not_true_eq_false, if_false, if_true]
      rfl
    · simp only [ne_eq, hkind, not_false_eq_true, if_true, if_false]
      rfl

section Iff

variable {st : NetStack κ P} {hdr : Header}
  {offer : Socket κ → Except NetStackSendError Unit × Socket κ}
  {offerProfile : P → Except InterfaceSendError Unit × P}

/-- The sockets answer with errors of their own, not with the profile's. -/
theorem socketSending_ne_interfaceSend (hoffer : ∀ s e, (offer s).1 ≠ .error (.interfaceSend e))
    (st : NetStack κ P) (e : InterfaceSendError) :
    (socketSending st hdr offer).1 ≠ .error (.interfaceSend e) := by
  unfold socketSending
  split
  · exact nofun
  · split
    · exact hoffer _ e
    · exact nofun

theorem socketSending_profile (st : NetStack κ P) :
    (socketSending st hdr offer).2.profile = st.profile := by
  rw [← deliver_findOneLocal, NetStack.deliver_profile]

/-- `NoRoute` is what the search says, and only it. -/
theorem socketSending_eq_noRoute_iff (hoffer : ∀ s, (offer s).1 ≠ .error .noRoute)
    (st : NetStack κ P) :
    socketSending st hdr offer = (.error .noRoute, st) ↔
      ∀ s ∈ st.sockets, s.port ≠ hdr.dst.portId := by
  have hfind : (st.sockets.find? fun s => s.port = hdr.dst.portId) = none ↔
      ∀ s ∈ st.sockets, s.port ≠ hdr.dst.portId := by simp
  rw [← hfind]
  constructor
  · intro h
    have h := congrArg Prod.fst h
    unfold socketSending at h
    split at h
    · assumption
    · split at h
      · exact absurd h (hoffer _)
      · exact nomatch h
  · intro h
    simp [socketSending, h]

/-- `unicast` follows the document unless its test of source and destination
together hides a destination of `0.0`, or the profile answers `RoutingLoop`. -/
theorem unicast_eq_iff (hport : hdr.dst.portId ≠ 0)
    (hoffer : ∀ s e, (offer s).1 ≠ .error (.interfaceSend e))
    (hprofile : (offerProfile st.profile).2 ≠ st.profile) :
    st.unicast hdr offer offerProfile = unicast st hdr offer offerProfile ↔
      if hdr.dst.netNodeAny then hdr.src.netNodeAny = true
      else (offerProfile st.profile).1 ≠ .error .routingLoop := by
  by_cases hdst : hdr.dst.netNodeAny = true
  · rw [if_pos hdst]
    by_cases hsrc : hdr.src.netNodeAny = true
    · have hb : NetStack.localBypass hdr = true := by simp [NetStack.localBypass, hsrc, hdst]
      rw [NetStack.unicast_of_bypass hb hport, deliver_findOneLocal, unicast, if_pos hdst]
      simp [hsrc]
    · -- the profile is asked although the destination is `0.0`: it shows in its state
      have hb : NetStack.localBypass hdr = false := by simp [NetStack.localBypass, hsrc]
      refine iff_of_false (fun h => hprofile ?_) hsrc
      have h := congrArg (fun x => x.2.profile) h
      simpa only [unicast, hdst, if_true, socketSending_profile, NetStack.unicast_profile hb]
        using h
  · rw [if_neg hdst]
    have hb : NetStack.localBypass hdr = false := by simp [NetStack.localBypass, hdst]
    rcases hres : offerProfile st.profile with ⟨res, p⟩
    cases res with
    | ok u => simp [NetStack.unicast_of_ok hb hres, unicast, hdst, hres]
    | error e =>
      by_cases hloop : e = .routingLoop
      · -- the sockets are asked although the destination is elsewhere
        subst hloop
        rw [NetStack.unicast_of_local hb hport (.inr rfl) hres,
          show NetStack.deliver ⟨st.sockets, p⟩ (findOneLocal st.sockets hdr) offer
            = socketSending ⟨st.sockets, p⟩ hdr offer from
          deliver_findOneLocal ⟨st.sockets, p⟩ hdr offer]
        refine iff_of_false (fun h => ?_) (fun h => h rfl)
        simp only [unicast, hdst, hres] at h
        exact socketSending_ne_interfaceSend hoffer _ _ (congrArg Prod.fst h)
      · refine iff_of_true ?_ (by simpa using hloop)
        by_cases hlocal : e = .destinationLocal
        · subst hlocal
          rw [NetStack.unicast_of_local hb hport (.inl rfl) hres]
          simp only [unicast, hdst, hres]
          exact deliver_findOneLocal ⟨st.sockets, p⟩ hdr offer
        · rw [NetStack.unicast_of_error hb hlocal hloop hres]
          cases e <;> simp_all [unicast]

end Iff

section Paths

variable [SocketVTable κ] [Profile P ι]

theorem sendVia_eq (st : NetStack κ P) (hdr : Header) (clock : Clock) (path : SendPath ι) :
    st.sendVia hdr clock path = st.sendWith hdr (path.sskt hdr) (path.smgr hdr clock) := by
  cases path <;> rfl

/-- What a socket is asked, it answers itself. -/
theorem sskt_answer (path : SendPath ι) (hdr : Header) (s : Socket κ) :
    (path.sskt hdr s).1 = .ok () ∨ ∃ e, (path.sskt hdr s).1 = .error (.socketSend e) := by
  have hreport : ∀ r : Except SocketSendError Unit × κ,
      (s.report r).1 = .ok () ∨ ∃ e, (s.report r).1 = .error (.socketSend e) := by
    rintro ⟨res | e, t⟩
    · exact .inr ⟨_, rfl⟩
    · exact .inl rfl
  cases path with
  | ty t =>
    simp only [SendPath.sskt, sendTyToSocket]
    split
    · exact hreport _
    · exact hreport _
    · exact .inr ⟨_, rfl⟩
  | raw body source => exact hreport _
  | bor t =>
    simp only [SendPath.sskt, sendBorToSocket]
    split
    · exact hreport _
    · exact .inr ⟨_, rfl⟩

/-- An offer to a tapped profile shows. -/
theorem smgr_tapped_ne (path : SendPath ι) (hdr : Header) (clock : Clock)
    (p : Tapped (Header × Payload) P) : (path.smgr hdr clock p).2 ≠ p := by
  intro h
  have h := congrArg (fun q => q.log.length) h
  cases path <;> simp [SendPath.smgr, Profile.send, Profile.sendRaw] at h

/-- What the document says of a send. -/
def expected (st : NetStack κ P) (hdr : Header) (clock : Clock) (path : SendPath ι) :
    Except NetStackSendError Unit × NetStack κ P :=
  unicast st hdr (path.sskt hdr) (path.smgr hdr clock)

end Paths

/-- When a unicast send does what the document says. A protocol-error frame is
refused, and the document has no such rule; a source other than `0.0` leads a
frame for `0.0` to the profile; and `RoutingLoop` leads any frame to the sockets. -/
theorem sendVia_conforms_iff [SocketVTable κ] [Profile P ι]
    (st : NetStack (Tapped (Header × Payload) κ) (Tapped (Header × Payload) P)) (hdr : Header)
    (clock : Clock) (path : SendPath ι) (hany : hdr.dst.portId ≠ 0)
    (hall : hdr.dst.portId ≠ 255) :
    st.sendVia hdr clock path = expected st hdr clock path ↔
      if hdr.kind = .protocolError then
        hdr.dst.netNodeAny = true ∧ ∀ s ∈ st.sockets, s.port ≠ hdr.dst.portId
      else if hdr.dst.netNodeAny then hdr.src.netNodeAny = true
      else (path.smgr hdr clock st.profile).1 ≠ .error .routingLoop := by
  have hoffer : ∀ (s : Socket (Tapped (Header × Payload) κ)) e, (path.sskt hdr s).1 ≠ .error (.interfaceSend e) := by
    intro s e h
    rcases sskt_answer path hdr s with h' | ⟨e', h'⟩ <;> simp [h'] at h
  have hnoRoute : ∀ s : Socket (Tapped (Header × Payload) κ), (path.sskt hdr s).1 ≠ .error .noRoute := by
    intro s h
    rcases sskt_answer path hdr s with h' | ⟨e', h'⟩ <;> simp [h'] at h
  rw [sendVia_eq, NetStack.sendWith, expected]
  by_cases hkind : hdr.kind = .protocolError
  · rw [if_pos hkind, if_pos hkind]
    by_cases hdst : hdr.dst.netNodeAny = true
    · rw [unicast, if_pos hdst, eq_comm, socketSending_eq_noRoute_iff hnoRoute]
      simp [hdst]
    · -- the document would have the profile asked
      refine iff_of_false (fun h => ?_) (fun h => hdst h.1)
      have h := congrArg (fun x => x.2.profile) h
      refine smgr_tapped_ne path hdr clock st.profile ?_
      rw [unicast, if_neg hdst] at h
      rcases hres : path.smgr hdr clock st.profile with ⟨res | e, p⟩
      · cases res <;> simp_all [socketSending_profile]
      · simp_all
  · rw [if_neg hkind, if_neg hall, if_neg hkind]
    exact unicast_eq_iff hany hoffer (smgr_tapped_ne path hdr clock st.profile)

/-! ## A frame for somebody else -/

/-- A socket on port 9 that takes one message of any bytes. -/
def demoSocket : Socket (Tapped (Header × Payload) OwnedSocket) :=
  ⟨⟨.replicate 8 0⟩, none, .endpointReq, true, 9, ⟨⟨0, fun b => some ⟨0, b⟩, 1, []⟩, []⟩⟩

/-- An edge device with that socket, active as 1.2. -/
def demoEdge :
    NetStack (Tapped (Header × Payload) OwnedSocket)
      (Tapped (Header × Payload) (DirectEdge FrameQueue)) :=
  ⟨[demoSocket], ⟨⟨{ EdgePort.newTarget ⟨64, 1, []⟩ with state := .active 1 2 }⟩, []⟩⟩

/-- A request from 3.1 to port 9 of 10.10. -/
def demoHdr : Header := ⟨⟨3, 1, 20⟩, ⟨10, 10, 9⟩, none, .endpointReq, .normal, 15⟩

/-- The profile refuses the frame with `RoutingLoop`, and the socket gets it. -/
theorem raw_reaches_socket_on_routingLoop :
    demoEdge.profile.inner.sendRaw.1 = .error .routingLoop ∧
      (demoEdge.sendVia demoHdr (.at 0) (.raw [7] ())).1 = .ok () ∧
      (demoEdge.sendVia demoHdr (.at 0) (.raw [7] ())).2.sockets.map (fun s => s.inner.log) =
        [[(demoHdr, .raw [7])]] ∧
      demoEdge.sendVia demoHdr (.at 0) (.raw [7] ()) ≠
        expected demoEdge demoHdr (.at 0) (.raw [7] ()) := by
  refine ⟨rfl, rfl, rfl, fun h => ?_⟩
  have h := congrArg Prod.fst h
  exact nomatch (show Except.ok () = Except.error _ from h)

/-- The typed send of the same edge goes out, as the document says. -/
theorem sendVia_conforms_iff_demo :
    demoEdge.sendVia demoHdr (.at 0) (.ty ⟨0, [7]⟩) =
      expected demoEdge demoHdr (.at 0) (.ty ⟨0, [7]⟩) :=
  (sendVia_conforms_iff demoEdge demoHdr (.at 0) (.ty ⟨0, [7]⟩) (by decide) (by decide)).mpr
    (by decide)

end Conformance

end Ergot
