import Ergot.Stack.ErrorPath
import Ergot.Stack.Fanout
import Ergot.Stack.Workers

/-!
# The last hop

The hop count of a frame is there to limit how often it is forwarded. A frame for this node has
arrived, whatever is left of the count.

- `Sending` is a send of the stack, of a message or of an error. `Sending.handOut` is what the
  sockets get if the frame ends here, and `heard` what they were handed, hop counts aside.
- `HopLaw`: a frame for this node is handed out with any hop count, and one that has no hop left
  changes nothing in the profile.
- The profiles spend a hop before they look at the destination, so a frame that comes in with
  its last hop spent is refused with `TtlExpired` (`hop_law_iff`). Only an edge device looks at
  nothing when the frame is raw.
-/

namespace Ergot

variable {κ P ι σ : Type}

/-! ## Sends -/

/-- A send: a message by one of the three methods, or an error. -/
inductive Sending (ι : Type)
  | data (path : SendPath ι)
  | err (e : ProtocolError) (source : Option ι)

namespace Sending

def payload : Sending ι → Payload
  | .data path => path.payload
  | .err e _ => .err e

/-- What the send does to a socket. -/
def sskt [SocketVTable κ] (hdr : Header) :
    Sending ι → Socket κ → Except NetStackSendError Unit × Socket κ
  | .data path => path.sskt hdr
  | .err e _ => sendErrToSocket e hdr

/-- What the send does to the profile. -/
def smgr [Profile P ι] (hdr : Header) (clock : Clock) :
    Sending ι → P → Except InterfaceSendError Unit × P
  | .data path => path.smgr hdr clock
  | .err e source => fun p => Profile.sendErr p hdr e source clock

/-- The answers of a profile that lead to the sockets. -/
def leads : Sending ι → Except InterfaceSendError Unit → Bool
  | .data _, r => r = .error .destinationLocal ∨ r = .error .routingLoop
  | .err _ _, r => r = .error .destinationLocal

/-- The socket that a unicast frame is for. -/
def search (sockets : List (Socket κ)) (hdr : Header) :
    Sending ι → Except NetStackSendError (SocketMut κ)
  | .data _ => if hdr.dst.portId = 0 then findAnyLocal sockets hdr else findOneLocal sockets hdr
  | .err _ _ => findOneErrLocal sockets hdr

/-- The sockets after a frame that ends here. -/
def handOut [SocketVTable κ] (st : NetStack κ P) (hdr : Header) : Sending ι → List (Socket κ)
  | .data path =>
    if hdr.kind = .protocolError then st.sockets
    else if hdr.dst.portId = 255 then offerEach hdr (path.sskt hdr) st.sockets
    else (st.deliver (search st.sockets hdr (.data path)) (path.sskt hdr)).2.sockets
  | .err e source =>
    if hdr.dst.portId = 255 then st.sockets
    else (st.deliver (search st.sockets hdr (.err e source)) (sendErrToSocket e hdr)).2.sockets

end Sending

namespace NetStack

/-- Send a message or an error. -/
def sendAny [SocketVTable κ] [Profile P ι] (st : NetStack κ P) (hdr : Header) (clock : Clock) :
    Sending ι → Except NetStackSendError Unit × NetStack κ P
  | .data path => st.sendVia hdr clock path
  | .err e source => st.sendErr hdr e source clock

/-- Whether a send gets as far as the sockets. -/
def Looks [Profile P ι] (st : NetStack κ P) (hdr : Header) (clock : Clock) (s : Sending ι) :
    Prop :=
  hdr.dst.portId = 255 ∨ localBypass hdr = true ∨
    s.leads (s.smgr hdr clock st.profile).1 = true

instance [Profile P ι] (st : NetStack κ P) (hdr : Header) (clock : Clock) (s : Sending ι) :
    Decidable (st.Looks hdr clock s) :=
  inferInstanceAs (Decidable (_ ∨ _ ∨ _))

/-- Neither the search nor the offer looks at the profile. -/
theorem deliver_sockets (st : NetStack κ P) (p : P)
    (found : Except NetStackSendError (SocketMut κ))
    (sskt : Socket κ → Except NetStackSendError Unit × Socket κ) :
    (deliver { st with profile := p } found sskt).2.sockets = (st.deliver found sskt).2.sockets := by
  cases found <;> rfl

theorem unicast_sockets (st : NetStack κ P) (hdr : Header)
    (sskt : Socket κ → Except NetStackSendError Unit × Socket κ)
    (smgr : P → Except InterfaceSendError Unit × P) (path : SendPath ι) :
    (st.unicast hdr sskt smgr).2.sockets =
      if localBypass hdr = true ∨ (Sending.data path).leads (smgr st.profile).1 = true then
        (st.deliver ((Sending.data path).search st.sockets hdr) sskt).2.sockets
      else st.sockets := by
  unfold unicast Sending.search Sending.leads
  by_cases hb : localBypass hdr = true
  · simp only [hb, if_true, true_or]
    split <;> rfl
  · rcases smgr st.profile with ⟨e | u, p⟩
    · by_cases he : e = .destinationLocal ∨ e = .routingLoop
      · simp only [hb, he, Bool.false_eq_true, if_false, if_true, decide_true, or_true,
          Except.error.injEq]
        split <;> exact deliver_sockets st p _ _
      · simp [hb, he]
    · simp [hb]

theorem unicastErr_sockets (st : NetStack κ P) (hdr : Header)
    (sskt : Socket κ → Except NetStackSendError Unit × Socket κ)
    (smgr : P → Except InterfaceSendError Unit × P) (err : ProtocolError) (source : Option ι) :
    (st.unicastErr hdr sskt smgr).2.sockets =
      if localBypass hdr = true ∨ (Sending.err err source).leads (smgr st.profile).1 = true then
        (st.deliver (findOneErrLocal st.sockets hdr) sskt).2.sockets
      else st.sockets := by
  unfold unicastErr Sending.leads
  by_cases hb : localBypass hdr = true
  · simp [hb]
  · rcases smgr st.profile with ⟨e | u, p⟩
    · by_cases he : e = .destinationLocal
      · simp only [hb, he, Bool.false_eq_true, if_false, if_true, decide_true, or_true]
        exact deliver_sockets st p _ _
      · simp [hb, he]
    · simp [hb]

variable [SocketVTable κ] [Profile P ι]

/-- A send that gets to the sockets hands the frame out, and any other leaves them as they
are. -/
theorem sendAny_sockets (st : NetStack κ P) (hdr : Header) (clock : Clock) (s : Sending ι) :
    (st.sendAny hdr clock s).2.sockets =
      if st.Looks hdr clock s then s.handOut st hdr else st.sockets := by
  unfold Looks
  cases s with
  | data path =>
    simp only [sendAny, Conformance.sendVia_eq, sendWith, Sending.handOut]
    by_cases hkind : hdr.kind = .protocolError
    · simp only [if_pos hkind, ite_self]
    · by_cases hall : hdr.dst.portId = 255
      · simp only [if_neg hkind, hall, true_or, if_true]
        cases hkey : hdr.anyAll with
        | none => simp [broadcast, hkey, offerEach, Socket.hears]
        | some apdx => rw [broadcast_eq (by simp [hkey])]
      · simp only [if_neg hkind, hall, false_or, if_false]
        exact st.unicast_sockets hdr _ _ path
  | err e source =>
    simp only [sendAny, sendErr, Sending.handOut]
    by_cases hall : hdr.dst.portId = 255
    · simp only [if_pos hall, ite_self]
    · simp only [hall, false_or, if_false]
      exact st.unicastErr_sockets hdr _ _ e source

end NetStack

/-! ## What the sockets hear -/

/-- What a socket was handed, hop counts aside. -/
def Socket.heard (s : Socket (Tapped (Header × Payload) κ)) : List (Header × Payload) :=
  s.inner.log.map fun f => ({ f.1 with ttl := 0 }, f.2)

section Heard

variable [SocketVTable κ]

theorem Sending.heard_sskt (s : Sending ι) (hdr : Header) (ttl : UInt8)
    (skt : Socket (Tapped (Header × Payload) κ)) :
    (s.sskt { hdr with ttl } skt).2.heard = (s.sskt hdr skt).2.heard := by
  cases s with
  | data path =>
    simp only [Sending.sskt, Socket.heard, SendPath.sskt_log, List.map_append]
    split <;> rfl
  | err e source =>
    unfold Sending.sskt sendErrToSocket
    cases hrecv : SocketVTable.recvErr skt.inner.inner with
    | none => simp [SocketVTable.recvErr, hrecv]
    | some f => simp [SocketVTable.recvErr, hrecv, Socket.heard]

omit [SocketVTable κ] in
/-- What is found is a pointer to the first socket of some kind. -/
theorem Sending.search_ok (s : Sending ι) {sockets : List (Socket κ)} {hdr : Header}
    {ref : SocketMut κ} (h : s.search sockets hdr = .ok ref) :
    ∃ p, ref = socketMut sockets p ref.socket := by
  cases s with
  | data path =>
    simp only [search] at h
    split at h
    · unfold findAnyLocal at h
      split at h
      · cases h
      · split at h <;> cases h
        exact ⟨_, rfl⟩
    · unfold findOneLocal at h
      split at h
      · cases h
      · split at h <;> cases h
        exact ⟨_, rfl⟩
  | err e source =>
    simp only [search, findOneErrLocal] at h
    split at h <;> cases h
    exact ⟨_, rfl⟩

omit [SocketVTable κ] in
/-- A view of the sockets that does not tell two offers apart. -/
theorem NetStack.map_deliver {β : Type} (f : Socket κ → β) (st : NetStack κ P) (s : Sending ι)
    (hdr : Header) {offer offer' : Socket κ → Except NetStackSendError Unit × Socket κ}
    (h : ∀ skt, f (offer skt).2 = f (offer' skt).2) :
    (st.deliver (s.search st.sockets hdr) offer).2.sockets.map f =
      (st.deliver (s.search st.sockets hdr) offer').2.sockets.map f := by
  cases hfound : s.search st.sockets hdr with
  | error e => rfl
  | ok ref =>
    obtain ⟨p, hp⟩ := s.search_ok hfound
    rw [hp]
    exact HeaplessVec.map_modifyFirstList_congr (fun _ _ => h _) st.sockets

/-- Who a frame is for does not depend on its hop count. -/
theorem Sending.heard_handOut (s : Sending ι) (hdr : Header) (ttl : UInt8)
    (st : NetStack (Tapped (Header × Payload) κ) P) :
    (s.handOut st { hdr with ttl }).map Socket.heard = (s.handOut st hdr).map Socket.heard := by
  have hsskt := s.heard_sskt (κ := κ) hdr ttl
  cases s with
  | data path =>
    by_cases hkind : hdr.kind = .protocolError
    · simp only [handOut, if_pos hkind]
    · by_cases hall : hdr.dst.portId = 255
      · simp only [handOut, if_neg hkind, if_pos hall, offerEach, List.map_map]
        refine List.map_congr_left fun skt _ => ?_
        simp only [Function.comp_apply]
        show Socket.heard (if skt.hears hdr then _ else _) = _
        split
        · exact hsskt skt
        · rfl
      · simp only [handOut, if_neg hkind, if_neg hall]
        exact st.map_deliver Socket.heard (.data path) hdr hsskt
  | err e source =>
    by_cases hall : hdr.dst.portId = 255
    · simp only [handOut, if_pos hall]
    · simp only [handOut, if_neg hall]
      exact st.map_deliver Socket.heard (.err e source) hdr hsskt

end Heard

/-! ## What the profiles make of the hop count -/

section Hops

variable [InterfaceSink σ] {N S C : Nat}

/-- What leads to the sockets does so with any number of hops left. -/
theorem DirectEdge.leads_congr (e : DirectEdge σ) (s : Sending Unit) {hdr hdr' : Header}
    (clock : Clock) (hdst : hdr'.dst = hdr.dst) (h : hdr.ttl ≠ 0) (h' : hdr'.ttl ≠ 0) :
    s.leads (s.smgr hdr' clock e).1 = s.leads (s.smgr hdr clock e).1 := by
  have hty : ∀ msg, s.leads (e.send hdr' msg).1 = s.leads (e.send hdr msg).1 := by
    intro msg
    cases s <;>
      simp only [send, Header.decrementTtl_of_ne h, Header.decrementTtl_of_ne h', withPort,
        Sending.leads, EdgePort.send_destinationLocal_iff, EdgePort.send_ne_routingLoop, hdst]
  cases s with
  | data path =>
    cases path with
    | ty msg => exact hty msg
    | raw body source => rfl
    | bor msg => exact hty msg
  | err err source =>
    cases source with
    | some source => rfl
    | none =>
      simp only [Sending.smgr, Profile.sendErr, sendErr, Header.decrementTtl_of_ne h,
        Header.decrementTtl_of_ne h', withPort, Sending.leads, Option.isSome_none,
        Bool.false_eq_true, if_false, EdgePort.sendErr_destinationLocal_iff, hdst]

omit [InterfaceSink σ] in
/-- Sends through the same route lead to the sockets together. -/
theorem Router.answer_leads_congr (r : Router σ N S C) (s : Sending UInt8) {dst : Address}
    {source : Option UInt8} {clock : Clock} {use use' : EdgePort σ → Except InterfaceSendError Unit}
    (hlocal : ∀ p, use p = .error .destinationLocal ↔ use' p = .error .destinationLocal)
    (hloop : ∀ p, use p ≠ .error .routingLoop) (hloop' : ∀ p, use' p ≠ .error .routingLoop) :
    s.leads (r.answer dst source clock use) = s.leads (r.answer dst source clock use') := by
  have hdst : r.answer dst source clock use = .error .destinationLocal ↔
      r.answer dst source clock use' = .error .destinationLocal := by
    simp only [answer_eq_destinationLocal_iff, hlocal]
  have hback : r.answer dst source clock use = .error .routingLoop ↔
      r.answer dst source clock use' = .error .routingLoop := by
    rw [answer_eq_routingLoop_iff hloop, answer_eq_routingLoop_iff hloop']
  cases s <;> simp only [Sending.leads, hdst, hback]

theorem Router.leads_congr (r : Router σ N S C) (s : Sending UInt8) {hdr hdr' : Header}
    (clock : Clock) (hdst : hdr'.dst = hdr.dst) (hany : hdr'.anyAll = hdr.anyAll)
    (hall : hdr.dst.portId ≠ 255) (h : hdr.ttl ≠ 0) (h' : hdr'.ttl ≠ 0) :
    s.leads (s.smgr hdr' clock r).1 = s.leads (s.smgr hdr clock r).1 := by
  by_cases hkey : hdr.dst.portId = 0 ∧ hdr.anyAll.isNone
  · -- `find` does not get to the routes
    cases s with
    | data path =>
      cases path <;>
        simp [Sending.smgr, SendPath.smgr, Profile.send, Profile.sendRaw, send, sendRaw, findThen,
          find, hkey, hdst, hany, Header.decrementTtl_of_ne h, Header.decrementTtl_of_ne h']
    | err e source =>
      simp [Sending.smgr, Profile.sendErr, sendErr, findThen, find, hkey, hdst, hany,
        Header.decrementTtl_of_ne h, Header.decrementTtl_of_ne h']
  · have hkey' : ¬ (hdr'.dst.portId = 0 ∧ hdr'.anyAll.isNone) := by rwa [hdst, hany]
    have hall' : hdr'.dst.portId ≠ 255 := by rwa [hdst]
    have hty : ∀ msg, s.leads (r.send hdr' msg clock).1 = s.leads (r.send hdr msg clock).1 := by
      intro msg
      rw [send_answer r msg clock hkey hall h, send_answer r msg clock hkey' hall' h', hdst]
      refine r.answer_leads_congr s (fun p => ?_) (fun _ => EdgePort.send_ne_routingLoop)
        fun _ => EdgePort.send_ne_routingLoop
      simp only [EdgePort.send_destinationLocal_iff]
    cases s with
    | data path =>
      cases path with
      | ty msg => exact hty msg
      | raw body source =>
        show Sending.leads _ (r.sendRaw hdr' body source clock).1 =
          Sending.leads _ (r.sendRaw hdr body source clock).1
        rw [sendRaw_answer r body source clock hkey hall h,
          sendRaw_answer r body source clock hkey' hall' h', hdst]
        refine r.answer_leads_congr _ (fun p => ?_) (fun _ => EdgePort.sendRaw_ne_routingLoop)
          fun _ => EdgePort.sendRaw_ne_routingLoop
        simp only [EdgePort.sendRaw_destinationLocal_iff]
      | bor msg => exact hty msg
    | err e source =>
      show Sending.leads _ (r.sendErr hdr' e source clock).1 =
        Sending.leads _ (r.sendErr hdr e source clock).1
      rw [sendErr_answer r e source clock hkey h, sendErr_answer r e source clock hkey' h', hdst]
      refine r.answer_leads_congr _ (fun p => ?_) (fun _ => EdgePort.sendErr_ne_routingLoop)
        fun _ => EdgePort.sendErr_ne_routingLoop
      simp only [EdgePort.sendErr_destinationLocal_iff]

/-- Whether a send is of a raw message. -/
def Sending.isRaw : Sending ι → Bool
  | .data (.raw _ _) => true
  | _ => false

/-- An edge device refuses everything but raw messages with the last hop spent. -/
theorem DirectEdge.smgr_of_last (e : DirectEdge σ) (s : Sending Unit) {hdr : Header}
    (clock : Clock) (h : hdr.ttl = 0) :
    s.leads (s.smgr hdr clock e).1 = s.isRaw ∧ (s.smgr hdr clock e).2 = e := by
  cases s with
  | data path =>
    cases path <;>
      simp [Sending.smgr, SendPath.smgr, Profile.send, Profile.sendRaw, send, sendRaw,
        Header.decrementTtl, h, Sending.leads, Sending.isRaw]
  | err err source =>
    cases source <;>
      simp [Sending.smgr, Profile.sendErr, sendErr, Header.decrementTtl, h, Sending.leads,
        Sending.isRaw]

/-- A router refuses everything. -/
theorem Router.smgr_of_last (r : Router σ N S C) (s : Sending UInt8) {hdr : Header}
    (clock : Clock) (h : hdr.ttl = 0) :
    s.leads (s.smgr hdr clock r).1 = false ∧ (s.smgr hdr clock r).2 = r := by
  cases s with
  | data path =>
    cases path <;>
      simp [Sending.smgr, SendPath.smgr, Profile.send, Profile.sendRaw, send, sendRaw,
        Header.decrementTtl, h, Sending.leads]
  | err e source =>
    simp [Sending.smgr, Profile.sendErr, sendErr, Header.decrementTtl, h, Sending.leads]

end Hops

/-! ## The law -/

section Law

variable [SocketVTable κ] [Profile P ι]

/-- What the hop count of a frame for an address that satisfies `own` is for: none of it is
needed to hand the frame out, and without any the frame is not forwarded. -/
structure HopLaw (own : P → Address → Prop) (st : NetStack (Tapped (Header × Payload) κ) P)
    (hdr : Header) (clock : Clock) (s : Sending ι) : Prop where
  delivery : own st.profile hdr.dst →
    (st.sendAny hdr clock s).2.sockets.map Socket.heard =
      (st.sendAny { hdr with ttl := maxTtl } clock s).2.sockets.map Socket.heard
  last : own st.profile hdr.dst → hdr.ttl = 0 →
    (st.sendAny hdr clock s).2.sockets.map Socket.heard = (s.handOut st hdr).map Socket.heard
  forwarding : hdr.ttl = 0 → (st.sendAny hdr clock s).2.profile = st.profile

/-- Whether there is a socket that a frame is for. -/
def HasAddressee (st : NetStack (Tapped (Header × Payload) κ) P) (hdr : Header) (s : Sending ι) :
    Prop :=
  (s.handOut st hdr).map Socket.heard ≠ st.sockets.map Socket.heard

/-- What the sockets hear of a send. -/
theorem heard_sendAny (st : NetStack (Tapped (Header × Payload) κ) P) (hdr : Header) (clock : Clock)
    (s : Sending ι) :
    (st.sendAny hdr clock s).2.sockets.map Socket.heard =
      if st.Looks hdr clock s then (s.handOut st hdr).map Socket.heard
      else st.sockets.map Socket.heard := by
  rw [st.sendAny_sockets, apply_ite (List.map Socket.heard)]

/-- A send uses the profile once, or not at all. -/
theorem sendAny_profile (st : NetStack (Tapped (Header × Payload) κ) P) (hdr : Header)
    (clock : Clock) (s : Sending ι) (h : (s.smgr hdr clock st.profile).2 = st.profile) :
    (st.sendAny hdr clock s).2.profile = st.profile := by
  have hkeeps : (st.sendAny hdr clock s).2.profile = st.profile ∨
      (st.sendAny hdr clock s).2.profile = (s.smgr hdr clock st.profile).2 := by
    cases s with
    | data path =>
      simp only [NetStack.sendAny, Conformance.sendVia_eq]
      exact NetStack.sendWith_keeps (R := fun p p' => p' = p ∨ p' = (path.smgr hdr clock p).2)
        (fun _ => .inl rfl) fun _ => .inr rfl
    | err e source =>
      exact NetStack.sendErr_keeps
        (R := fun p p' => p' = p ∨ p' = (Profile.sendErr p hdr e source clock).2)
        (fun _ => .inl rfl) fun _ => .inr rfl
  exact hkeeps.elim id fun hused => hused.trans h

/-- The profile decides. With a hop left, what it decides is the same as with all of them; with
none, it `takes` the frame for local or it does not. -/
theorem hopLaw_iff {own : P → Address → Prop} {st : NetStack (Tapped (Header × Payload) κ) P}
    {hdr : Header} {clock : Clock} {s : Sending ι} (takes : Bool)
    (hcongr : hdr.dst.portId ≠ 255 → hdr.ttl ≠ 0 →
      s.leads (s.smgr { hdr with ttl := maxTtl } clock st.profile).1 =
        s.leads (s.smgr hdr clock st.profile).1)
    (hlast : hdr.ttl = 0 → s.leads (s.smgr hdr clock st.profile).1 = takes ∧
      (s.smgr hdr clock st.profile).2 = st.profile)
    (htakes : takes = true →
      s.leads (s.smgr { hdr with ttl := maxTtl } clock st.profile).1 = true) :
    HopLaw own st hdr clock s ↔
      hdr.ttl ≠ 0 ∨ ¬ own st.profile hdr.dst ∨ ¬ HasAddressee st hdr s ∨
        hdr.dst.portId = 255 ∨ NetStack.localBypass hdr = true ∨ takes = true := by
  have hout := s.heard_handOut hdr maxTtl st
  constructor
  · intro h
    by_contra hno
    simp only [not_or, not_not] at hno
    obtain ⟨httl, hown, haddr, hall, hb, hno⟩ := hno
    -- the profile has refused the frame
    have hlook : ¬ st.Looks hdr clock s := by
      rintro (h255 | hbypass | hleads)
      · exact hall h255
      · exact hb hbypass
      · exact hno ((hlast httl).1.symm.trans hleads)
    have hheard := h.last hown httl
    rw [heard_sendAny, if_neg hlook] at hheard
    exact haddr hheard.symm
  · intro h
    by_cases httl : hdr.ttl = 0
    · have hlooks : ¬ own st.profile hdr.dst ∨ ¬ HasAddressee st hdr s ∨
          (st.Looks hdr clock s ∧ st.Looks { hdr with ttl := maxTtl } clock s) := by
        rcases h.resolve_left (not_not_intro httl) with hown | haddr | h255 | hbypass | hleads
        · exact .inl hown
        · exact .inr (.inl haddr)
        · exact .inr (.inr ⟨.inl h255, .inl h255⟩)
        · exact .inr (.inr ⟨.inr (.inl hbypass), .inr (.inl hbypass)⟩)
        · exact .inr (.inr ⟨.inr (.inr ((hlast httl).1.trans hleads)),
            .inr (.inr (htakes hleads))⟩)
      refine ⟨fun hown => ?_, fun hown _ => ?_,
        fun _ => sendAny_profile st hdr clock s (hlast httl).2⟩
      · rw [heard_sendAny, heard_sendAny, hout]
        rcases hlooks with hno | hno | ⟨hlook, hfull⟩
        · exact absurd hown hno
        · rw [not_ne_iff.mp hno, ite_self, ite_self]
        · rw [if_pos hlook, if_pos hfull]
      · rw [heard_sendAny]
        rcases hlooks with hno | hno | ⟨hlook, -⟩
        · exact absurd hown hno
        · rw [not_ne_iff.mp hno, ite_self]
        · rw [if_pos hlook]
    · refine ⟨fun _ => ?_, fun _ h => absurd h httl, fun h => absurd h httl⟩
      have hlook : st.Looks { hdr with ttl := maxTtl } clock s ↔ st.Looks hdr clock s := by
        by_cases hall : hdr.dst.portId = 255
        · exact iff_of_true (.inl hall) (.inl hall)
        · exact or_congr Iff.rfl (or_congr Iff.rfl (by rw [hcongr hall httl]))
      rw [heard_sendAny, heard_sendAny, hout]
      simp only [hlook]

end Law

/-- When the hop count only limits forwarding. A frame for this node with its last hop spent is
handed out if there is no socket for it anyway, if it is a broadcast, if the profile is left out,
or if an edge device gets it raw. -/
theorem hop_law_iff [SocketVTable κ] [InterfaceSink σ] {N S C : Nat} (hdr : Header)
    (clock : Clock) :
    (∀ (st : NetStack (Tapped (Header × Payload) κ) (DirectEdge σ)) (s : Sending Unit),
      HopLaw DirectEdge.Own st hdr clock s ↔
        hdr.ttl ≠ 0 ∨ ¬ st.profile.Own hdr.dst ∨ ¬ HasAddressee st hdr s ∨
          hdr.dst.portId = 255 ∨ NetStack.localBypass hdr = true ∨ s.isRaw = true) ∧
    (∀ (st : NetStack (Tapped (Header × Payload) κ) (Router σ N S C)) (s : Sending UInt8),
      HopLaw Router.Own st hdr clock s ↔
        hdr.ttl ≠ 0 ∨ ¬ st.profile.Own hdr.dst ∨ ¬ HasAddressee st hdr s ∨
          hdr.dst.portId = 255 ∨ NetStack.localBypass hdr = true) := by
  have hmax : maxTtl ≠ 0 := by decide
  constructor
  · intro st s
    refine hopLaw_iff s.isRaw (fun _ h => st.profile.leads_congr s clock rfl h hmax)
      (fun h => st.profile.smgr_of_last s clock h) fun hraw => ?_
    cases s with
    | data path =>
      cases path with
      | raw body source => rfl
      | ty msg => cases hraw
      | bor msg => cases hraw
    | err e source => cases hraw
  · intro st s
    have hiff : HopLaw Router.Own st hdr clock s ↔ _ := hopLaw_iff false
      (fun hall h => st.profile.leads_congr s clock rfl rfl hall h hmax)
      (fun h => st.profile.smgr_of_last s clock h) nofun
    simpa using hiff

/-- A request of 1.`src` to port 9 of 1.`dst`, whose last hop is spent. -/
def lastHop (src dst : UInt8) : Header :=
  ⟨⟨1, src, 20⟩, ⟨1, dst, 9⟩, none, .endpointReq, .normal, 0⟩

/-- An edge device gets the request, and a router does not. -/
theorem last_hop_refused :
    (ErrorPath.demoEdge.sendAny (lastHop 1 2) (.at 0) (.data (.raw [7] ()))).1 = .ok () ∧
      (ErrorPath.demoRouter.sendAny (lastHop 2 1) (.at 0) (.data (.raw [7] 0))).1 =
        .error (.interfaceSend .ttlExpired) ∧
      ¬ HopLaw Router.Own ErrorPath.demoRouter (lastHop 2 1) (.at 0) (.data (.raw [7] 0)) := by
  refine ⟨rfl, rfl, fun h => ?_⟩
  have hlast := h.last (.inr (.inl (by decide))) rfl
  exact absurd hlast (by decide)

end Ergot
