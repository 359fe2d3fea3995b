import Ergot.Stack.Conformance

/-!
# Broadcast conformance

The broadcast rules of conformance/net_stack.rs: a keyed broadcast is offered to every matching
socket and to the profile, and it is a success if a socket matched or if the profile has no
delivery failure to report.

- `offerEach` is what the loop over the sockets does to them, and `Conformance.counts` what it
  counts as a recipient (`broadcast_eq`).
- `Conformance.Broadcasts` is the document, for the three sends.
- `broadcasts_iff`: the loop counts the sockets that took the message or are full. The document
  counts those that match, so a socket that matches and refuses the message for another reason
  is lost when the profile fails as well.
-/

namespace Ergot

variable {κ P ι : Type}

/-- Whether a socket is a matching broadcast socket. -/
def Socket.hears (hdr : Header) (s : Socket κ) : Bool :=
  match hdr.anyAll with
  | none => false
  | some apdx => allMatches hdr apdx s

/-- The sockets after each matching one was offered a message once. -/
def offerEach (hdr : Header) (sskt : Socket κ → Except NetStackSendError Unit × Socket κ)
    (sockets : List (Socket κ)) : List (Socket κ) :=
  sockets.map fun s => if s.hears hdr then (sskt s).2 else s

namespace Conformance

/-- What a socket answers that the loop counts as a recipient. -/
def counts : Except NetStackSendError Unit → Bool
  | .ok () | .error (.socketSend .noSpace) => true
  | _ => false

/-- What a profile answers that is no delivery failure. -/
def benign : Except InterfaceSendError Unit → Bool
  | .ok () | .error .noRouteToDest | .error .routingLoop => true
  | _ => false

end Conformance

open Conformance

namespace NetStack

variable {st : NetStack κ P} {hdr : Header}
  {sskt : Socket κ → Except NetStackSendError Unit × Socket κ}
  {smgr : P → Except InterfaceSendError Unit × P}

/-- One turn of the loop. -/
theorem broadcastLeg_eq (p : Socket κ → Bool) (found : Bool) (s : Socket κ) :
    broadcastLeg p sskt found s =
      (found || (p s && counts (sskt s).1), if p s then (sskt s).2 else s) := by
  unfold broadcastLeg
  cases hp : p s with
  | false => simp
  | true =>
    rcases hs : sskt s with ⟨e | u, s'⟩
    · cases e with
      | socketSend e => cases e <;> simp [counts]
      | _ => simp [counts]
    · simp [counts]

/-- The loop over the sockets. -/
theorem broadcastLoop_eq (p : Socket κ → Bool) (found : Bool) (sockets : List (Socket κ)) :
    HeaplessVec.forEachList (broadcastLeg p sskt) found sockets =
      (found || sockets.any fun s => p s && counts (sskt s).1,
        sockets.map fun s => if p s then (sskt s).2 else s) := by
  induction sockets generalizing found with
  | nil => simp [HeaplessVec.forEachList]
  | cons s sockets ih =>
    rw [HeaplessVec.forEachList, broadcastLeg_eq, ih]
    simp [Bool.or_assoc]

/-- A broadcast with a key. -/
theorem broadcast_eq (hkey : hdr.anyAll.isSome) :
    st.broadcast hdr sskt smgr =
      (if (st.sockets.any fun s => s.hears hdr && counts (sskt s).1) ||
          benign (smgr st.profile).1 then .ok () else .error .noRoute,
        ⟨offerEach hdr sskt st.sockets, (smgr st.profile).2⟩) := by
  obtain ⟨apdx, hapdx⟩ := Option.isSome_iff_exists.mp hkey
  have hhears : ∀ s : Socket κ, s.hears hdr = allMatches hdr apdx s := by
    intro s
    rw [Socket.hears, hapdx]
  simp only [broadcast, hapdx, broadcastLoop_eq, Bool.false_or, offerEach, hhears]
  rcases smgr st.profile with ⟨e | u, p⟩
  · cases e <;> simp [benign]
  · simp [benign]

end NetStack

namespace SendPath

/-- What the method hands to a socket. -/
def payload : SendPath ι → Payload
  | .ty t | .bor t => .ty t
  | .raw body _ => .raw body

/-- Whether a function table has an entry for the method. A socket of owned messages has none
for `send_bor`. -/
def reaches [SocketVTable κ] (s : κ) : SendPath ι → Bool
  | .ty _ => (SocketVTable.recvOwned s).isSome || (SocketVTable.recvBor s).isSome
  | .raw _ _ => true
  | .bor _ => (SocketVTable.recvBor s).isSome

/-- An offer shows in the log of a tapped socket, once, if there is an entry. -/
theorem sskt_log [SocketVTable κ] (path : SendPath ι) (hdr : Header)
    (s : Socket (Tapped (Header × Payload) κ)) :
    (path.sskt hdr s).2.inner.log =
      s.inner.log ++ if path.reaches s.inner.inner then [(hdr, path.payload)] else [] := by
  cases path with
  | ty t =>
    cases hown : SocketVTable.recvOwned s.inner.inner with
    | some f =>
      simp [sskt, sendTyToSocket, SocketVTable.recvOwned, hown, reaches, payload, Socket.report]
    | none =>
      cases hbor : SocketVTable.recvBor s.inner.inner with
      | some f =>
        simp [sskt, sendTyToSocket, SocketVTable.recvOwned, SocketVTable.recvBor, hown, hbor,
          reaches, payload, Socket.report]
      | none =>
        simp [sskt, sendTyToSocket, SocketVTable.recvOwned, SocketVTable.recvBor, hown, hbor,
          reaches]
  | raw body source => rfl
  | bor t =>
    cases hbor : SocketVTable.recvBor s.inner.inner with
    | some f =>
      simp [sskt, sendBorToSocket, SocketVTable.recvBor, hbor, reaches, payload, Socket.report]
    | none => simp [sskt, sendBorToSocket, SocketVTable.recvBor, hbor, reaches]

end SendPath

namespace Conformance

variable [SocketVTable κ] [Profile P ι]

/-- "Broadcast Messages": the matching sockets are each offered the message once, and no other
socket is; the result is a success if and only if one matched, or the profile took the message
or has no recipient for it. -/
structure Broadcasts (st : NetStack (Tapped (Header × Payload) κ) P) (hdr : Header)
    (clock : Clock) (path : SendPath ι) : Prop where
  offered : (st.sendVia hdr clock path).2.sockets.map (fun s => s.inner.log) =
    st.sockets.map fun s =>
      s.inner.log ++ if s.hears hdr then [(hdr, path.payload)] else []
  others : ∀ (i : Nat) (s : Socket (Tapped (Header × Payload) κ)), st.sockets[i]? = some s →
    s.hears hdr = false → (st.sendVia hdr clock path).2.sockets[i]? = some s
  result : (st.sendVia hdr clock path).1 = .ok () ↔
    (∃ s ∈ st.sockets, s.hears hdr = true) ∨ benign (path.smgr hdr clock st.profile).1 = true

/-- What a keyed broadcast answers. -/
theorem sendVia_ok_iff (st : NetStack κ P) {hdr : Header} (clock : Clock)
    (path : SendPath ι) (hall : hdr.dst.portId = 255) (hkey : hdr.anyAll.isSome)
    (hkind : hdr.kind ≠ .protocolError) :
    (st.sendVia hdr clock path).1 = .ok () ↔
      (∃ s ∈ st.sockets, s.hears hdr = true ∧ counts (path.sskt hdr s).1 = true) ∨
        benign (path.smgr hdr clock st.profile).1 = true := by
  rw [sendVia_eq, NetStack.sendWith, if_neg hkind, if_pos hall, NetStack.broadcast_eq hkey]
  have hif : ∀ b : Bool,
      (if b then (.ok () : Except NetStackSendError Unit) else .error .noRoute) = .ok () ↔
        b = true := by
    intro b
    cases b <;> simp
  rw [hif, Bool.or_eq_true, List.any_eq_true]
  simp only [Bool.and_eq_true]

/-- Whom it is offered to. -/
theorem sendVia_sockets (st : NetStack κ P) {hdr : Header} (clock : Clock)
    (path : SendPath ι) (hall : hdr.dst.portId = 255) (hkey : hdr.anyAll.isSome)
    (hkind : hdr.kind ≠ .protocolError) :
    (st.sendVia hdr clock path).2.sockets = offerEach hdr (path.sskt hdr) st.sockets := by
  rw [sendVia_eq, NetStack.sendWith, if_neg hkind, if_pos hall, NetStack.broadcast_eq hkey]

/-- What shows of the offers in the logs. -/
theorem offerEach_logs (hdr : Header) (path : SendPath ι)
    (sockets : List (Socket (Tapped (Header × Payload) κ))) :
    (offerEach hdr (path.sskt hdr) sockets).map (fun s => s.inner.log) =
      sockets.map fun s =>
        s.inner.log ++ if s.hears hdr ∧ path.reaches s.inner.inner then
          [(hdr, path.payload)] else [] := by
  rw [offerEach, List.map_map]
  refine List.map_congr_left fun s _ => ?_
  simp only [Function.comp_apply]
  split
  · next hhears => simp [path.sskt_log, hhears]
  · next hhears => simp [hhears]

/-- When a keyed broadcast does what the document says: every socket that matches can be
handed the message, and if there is one, one of them takes it or is full, or the profile has no
failure to report. -/
theorem broadcasts_iff (st : NetStack (Tapped (Header × Payload) κ) P) (hdr : Header)
    (clock : Clock) (path : SendPath ι) (hall : hdr.dst.portId = 255)
    (hkey : hdr.anyAll.isSome) (hkind : hdr.kind ≠ .protocolError) :
    Broadcasts st hdr clock path ↔
      (∀ s ∈ st.sockets, s.hears hdr = true → path.reaches s.inner.inner = true) ∧
        ((∃ s ∈ st.sockets, s.hears hdr = true) →
          (∃ s ∈ st.sockets, s.hears hdr = true ∧ counts (path.sskt hdr s).1 = true) ∨
            benign (path.smgr hdr clock st.profile).1 = true) := by
  have hok := sendVia_ok_iff st clock path hall hkey hkind
  have hsockets := sendVia_sockets st clock path hall hkey hkind
  have hlogs := offerEach_logs hdr path st.sockets
  rw [← hsockets] at hlogs
  constructor
  · intro h
    refine ⟨fun s hs hhears => ?_, fun hmatch => hok.mp (h.result.mpr (.inl hmatch))⟩
    have hsame := List.map_inj_left.mp (hlogs.symm.trans h.offered) s hs
    by_contra hno
    simp [hhears, hno] at hsame
  · rintro ⟨hreaches, hcounts⟩
    refine ⟨hlogs.trans (List.map_congr_left fun s hs => ?_), fun i s hi hhears => ?_, ?_⟩
    · cases hhears : s.hears hdr with
      | false => simp
      | true => simp [hreaches s hs hhears]
    · rw [hsockets, offerEach, List.getElem?_map, hi]
      simp [hhears]
    · rw [hok]
      constructor
      · rintro (⟨s, hs, hhears, -⟩ | hbenign)
        · exact .inl ⟨s, hs, hhears⟩
        · exact .inr hbenign
      · rintro (hmatch | hbenign)
        · exact hcounts hmatch
        · exact .inr hbenign

/-- A topic socket for messages of type 0. -/
def demoTopic : Socket (Tapped (Header × Payload) OwnedSocket) :=
  ⟨⟨.replicate 8 0⟩, none, .topicMsg, true, 255, ⟨⟨0, fun b => some ⟨0, b⟩, 1, []⟩, []⟩⟩

/-- An edge device with that socket, whose queue is full. -/
def demoTopicEdge : NetStack (Tapped (Header × Payload) OwnedSocket) (DirectEdge FrameQueue) :=
  ⟨[demoTopic], ⟨{ EdgePort.newTarget ⟨64, 0, []⟩ with state := .active 1 2 }⟩⟩

def demoTopicHdr : Header :=
  ⟨.unknown, ⟨0, 0, 255⟩, some ⟨⟨.replicate 8 0⟩, none⟩, .topicMsg, .normal, 15⟩

/-- A message of another type: a socket matches, and the result is `NoRoute`. -/
theorem matched_socket_not_counted :
    demoTopic.hears demoTopicHdr = true ∧
      (demoTopicEdge.sendVia demoTopicHdr (.at 0) (.ty ⟨1, [7]⟩)).1 = .error .noRoute ∧
      ¬ Broadcasts demoTopicEdge demoTopicHdr (.at 0) (.ty ⟨1, [7]⟩) := by
  refine ⟨by decide, rfl, fun h => ?_⟩
  have hok := h.result.mpr (.inl ⟨demoTopic, List.mem_singleton.mpr rfl, by decide⟩)
  exact nomatch (show Except.error NetStackSendError.noRoute = Except.ok () from hok)

/-- A message of the right type. -/
theorem broadcasts_iff_demo :
    Broadcasts demoTopicEdge demoTopicHdr (.at 0) (.ty ⟨0, [7]⟩) :=
  (broadcasts_iff demoTopicEdge demoTopicHdr (.at 0) (.ty ⟨0, [7]⟩) rfl rfl (by decide)).mpr
    ⟨fun _ hs _ => by cases List.mem_singleton.mp hs; rfl,
      fun _ => .inl ⟨demoTopic, List.mem_singleton.mpr rfl, by decide, rfl⟩⟩

end Conformance

end Ergot
