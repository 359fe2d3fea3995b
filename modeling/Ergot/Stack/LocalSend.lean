import Ergot.Stack.Fanout
import Ergot.Stack.Profiles
import Ergot.Lib.Runs

/-!
# Local sends

`NetStackInner::send_ty_local` sends a message that need not be serializable to the sockets of this
node: `Topics::broadcast_local` broadcasts so. It has its own `unicast_local` and `broadcast_local`,
which are `unicast` and `broadcast` without the profile, except for what they answer.

- `LocalSend.run_local`: a program that sends locally has the sockets that it would have if it sent
  over the profile that has no interface (`Null`), as long as no socket borrows, and it leaves its
  own profile alone. Its sends succeed where those do, but for broadcasts to another node.
- A broadcast to this node that nobody hears is an error in both cases: `Null` answers
  `DestinationLocal`, which `broadcast` does not take for the lack of an audience.
- One to another node that nobody hears is an error of the local send only: there `Null` answers
  `NoRouteToDest`, which is taken for the lack of an audience.
- A unicast to this node from elsewhere is the exception: the local send refuses it, and over `Null`
  it arrives.
-/

namespace Ergot

variable {κ P : Type} [SocketVTable κ]

/-- `send_ty_to_socket` without a serializer. -/
def sendTyLocalToSocket (t : Msg) (hdr : Header) (s : Socket κ) :
    Except NetStackSendError Unit × Socket κ :=
  match SocketVTable.recvOwned s.inner, SocketVTable.recvBor s.inner with
  | some f, _ => s.report (f t hdr)
  | none, some _ => (.error (.socketSend .typeMismatch), s)
  | none, none => (.error (.socketSend .whatTheHell), s)

namespace NetStack

omit [SocketVTable κ] in
/-- `NetStackInner::broadcast_local`. -/
def broadcastLocal (st : NetStack κ P) (hdr : Header)
    (sskt : Socket κ → Except NetStackSendError Unit × Socket κ) :
    Except NetStackSendError Unit × NetStack κ P :=
  match hdr.anyAll with
  | none => (.error .allPortMissingKey, st)
  | some apdx =>
    let (found, sockets) :=
      HeaplessVec.forEachList (broadcastLeg (allMatches hdr apdx) sskt) false st.sockets
    (if found then .ok () else .error .noRoute, { st with sockets })

omit [SocketVTable κ] in
/-- `NetStackInner::unicast_local`. -/
def unicastLocal (st : NetStack κ P) (hdr : Header)
    (sskt : Socket κ → Except NetStackSendError Unit × Socket κ) :
    Except NetStackSendError Unit × NetStack κ P :=
  if !localBypass hdr then (.error .noRoute, st)
  else if hdr.dst.portId = 0 then st.deliver (findAnyLocal st.sockets hdr) sskt
  else st.deliver (findOneLocal st.sockets hdr) sskt

/-- `NetStackInner::send_ty_local`. -/
def sendTyLocal (st : NetStack κ P) (hdr : Header) (t : Msg) :
    Except NetStackSendError Unit × NetStack κ P :=
  if hdr.kind = .protocolError then (.error .noRoute, st)
  else if hdr.dst.portId = 255 then st.broadcastLocal hdr (sendTyLocalToSocket t hdr)
  else st.unicastLocal hdr (sendTyLocalToSocket t hdr)

end NetStack

omit [SocketVTable κ] in
/-- With both addresses `0.0` and no port, the profile is left out, too. -/
theorem NetStack.unicast_any_of_bypass {st : NetStack κ P} {hdr : Header}
    {sskt : Socket κ → Except NetStackSendError Unit × Socket κ}
    {smgr : P → Except InterfaceSendError Unit × P} (hb : localBypass hdr = true)
    (hport : hdr.dst.portId = 0) :
    st.unicast hdr sskt smgr = st.deliver (findAnyLocal st.sockets hdr) sskt := by
  unfold unicast
  simp [hb, hport]

/-! ## Programs that send locally -/

namespace LocalSend

/-- What a program does: it sends, or its sockets change. -/
inductive Act (κ : Type)
  | send (hdr : Header) (t : Msg)
  | change (f : List (Socket κ) → List (Socket κ))

/-- A stack, and what was answered to each send so far. -/
structure Program (κ P : Type) where
  stack : NetStack κ P
  answers : List (Header × Except NetStackSendError Unit)

namespace Program

/-- A send with its answer. -/
def sent (s : Program κ P) (hdr : Header) (res : Except NetStackSendError Unit × NetStack κ P) :
    Program κ P :=
  ⟨res.2, s.answers ++ [(hdr, res.1)]⟩

/-- One step of a program that sends locally. -/
def stepLocal (s : Program κ P) : Act κ → Program κ P
  | .send hdr t => s.sent hdr (s.stack.sendTyLocal hdr t)
  | .change f => { s with stack := { s.stack with sockets := f s.stack.sockets } }

/-- One step of a program that sends over a profile, at an instant that does not matter. -/
def step {ι : Type} [Profile P ι] (clock : Clock) (s : Program κ P) : Act κ → Program κ P
  | .send hdr t => s.sent hdr (s.stack.sendTy hdr t clock)
  | .change f => { s with stack := { s.stack with sockets := f s.stack.sockets } }

end Program

/-- A unicast to this node is from this node. -/
def FromHere : Act κ → Prop
  | .send hdr _ => hdr.dst.portId = 255 ∨ (hdr.dst.netNodeAny = true → hdr.src.netNodeAny = true)
  | .change _ => True

/-- The answers to one send: a success locally is one over `Null`, and the other way around, but
for a broadcast to another node. -/
def Agree (a a' : Header × Except NetStackSendError Unit) : Prop :=
  a.1 = a'.1 ∧ (a.2 = .ok () → a'.2 = .ok ()) ∧
    (a.1.dst.portId ≠ 255 ∨ a.1.dst.netNodeAny = true → a'.2 = .ok () → a.2 = .ok ())

/-- Two programs with the same sockets. The first has the profile `p`. -/
structure Same (p : P) (s : Program κ P) (s' : Program κ Null) : Prop where
  sockets : s.stack.sockets = s'.stack.sockets
  profile : s.stack.profile = p
  answers : List.Forall₂ Agree s.answers s'.answers

variable {p : P} {s : Program κ P} {s' : Program κ Null}

omit [SocketVTable κ] in
/-- Both send. -/
theorem Same.sent (h : Same p s s') {hdr : Header}
    {res : Except NetStackSendError Unit × NetStack κ P}
    {res' : Except NetStackSendError Unit × NetStack κ Null}
    (hsockets : res.2.sockets = res'.2.sockets) (hprofile : res.2.profile = p)
    (hok : res.1 = .ok () → res'.1 = .ok ())
    (hno : hdr.dst.portId ≠ 255 ∨ hdr.dst.netNodeAny = true → res'.1 = .ok () → res.1 = .ok ()) :
    Same p (s.sent hdr res) (s'.sent hdr res') where
  sockets := hsockets
  profile := hprofile
  answers := List.rel_append h.answers (.cons ⟨rfl, hok, hno⟩ .nil)

omit [SocketVTable κ] in
/-- Both are refused. -/
theorem Same.refused (h : Same p s s') (hdr : Header) (e e' : NetStackSendError) :
    Same p (s.sent hdr (.error e, s.stack)) (s'.sent hdr (.error e', s'.stack)) := by
  refine h.sent h.sockets h.profile ?_ ?_
  · rintro ⟨⟩
  · rintro - ⟨⟩

/-- Without sockets that borrow, a serializer makes no difference. -/
theorem sendTyLocalToSocket_eq
    (hown : ∀ s : κ, SocketVTable.recvOwned s = none → SocketVTable.recvBor s = none) (t : Msg)
    (hdr : Header) :
    (sendTyLocalToSocket t hdr : Socket κ → Except NetStackSendError Unit × Socket κ) =
      sendTyToSocket t hdr := by
  funext s
  unfold sendTyLocalToSocket sendTyToSocket
  cases hres : SocketVTable.recvOwned s.inner with
  | some f => rfl
  | none => rw [hown s.inner hres]

omit [SocketVTable κ] in
theorem Same.broadcast (h : Same p s s') (hdr : Header) (hall : hdr.dst.portId = 255)
    (sskt : Socket κ → Except NetStackSendError Unit × Socket κ) :
    Same p (s.sent hdr (s.stack.broadcastLocal hdr sskt))
      (s'.sent hdr (s'.stack.broadcast hdr sskt fun q => (Null.answer hdr, q))) := by
  cases hkey : hdr.anyAll with
  | none =>
    simp only [NetStack.broadcastLocal, NetStack.broadcast, hkey]
    exact h.refused hdr _ _
  | some apdx =>
    simp only [NetStack.broadcastLocal, NetStack.broadcast, hkey, h.sockets]
    generalize HeaplessVec.forEachList _ _ _ = res
    refine h.sent rfl h.profile ?_ ?_
    · -- who took it here took it over `Null`
      cases res.1 with
      | true => exact fun _ => rfl
      | false =>
        intro hnone
        cases hnone
    · intro hhere hok
      have hdst := hhere.resolve_left (not_not.mpr hall)
      rw [Null.answer, if_pos hdst] at hok
      simpa using hok

omit [SocketVTable κ] in
theorem Same.deliver (h : Same p s s') (hdr : Header)
    (found : List (Socket κ) → Except NetStackSendError (SocketMut κ))
    (sskt : Socket κ → Except NetStackSendError Unit × Socket κ) :
    Same p (s.sent hdr (s.stack.deliver (found s.stack.sockets) sskt))
      (s'.sent hdr (s'.stack.deliver (found s'.stack.sockets) sskt)) := by
  rw [h.sockets]
  cases found s'.stack.sockets with
  | error e => exact h.sent h.sockets h.profile id fun _ => id
  | ok ref => exact h.sent rfl h.profile id fun _ => id

omit [SocketVTable κ] in
theorem Same.unicast (h : Same p s s') (hdr : Header)
    (hhere : hdr.dst.netNodeAny = true → hdr.src.netNodeAny = true)
    (sskt : Socket κ → Except NetStackSendError Unit × Socket κ) :
    Same p (s.sent hdr (s.stack.unicastLocal hdr sskt))
      (s'.sent hdr (s'.stack.unicast hdr sskt fun q => (Null.answer hdr, q))) := by
  unfold NetStack.unicastLocal
  cases hb : NetStack.localBypass hdr with
  | false =>
    -- the destination is elsewhere
    have hdst : hdr.dst.netNodeAny = false := by
      cases hdst : hdr.dst.netNodeAny with
      | false => rfl
      | true => simp [NetStack.localBypass, hdst, hhere hdst] at hb
    have hnull : Null.answer hdr = .error .noRouteToDest := by
      simp [Null.answer, hdst]
    rw [NetStack.unicast_of_error (e := .noRouteToDest) hb (by decide) (by decide) (by rw [hnull])]
    exact h.refused hdr _ _
  | true =>
    simp only [Bool.not_true, Bool.false_eq_true, if_false]
    split
    · next hport =>
      rw [NetStack.unicast_any_of_bypass hb hport]
      exact h.deliver hdr (fun sockets => findAnyLocal sockets hdr) sskt
    · next hport =>
      rw [NetStack.unicast_of_bypass hb hport]
      exact h.deliver hdr (fun sockets => findOneLocal sockets hdr) sskt

theorem Same.step (h : Same p s s')
    (hown : ∀ s : κ, SocketVTable.recvOwned s = none → SocketVTable.recvBor s = none)
    (clock : Clock) {act : Act κ} (hhere : FromHere act) :
    Same p (s.stepLocal act) (s'.step clock act) := by
  cases act with
  | change f =>
    refine ⟨?_, h.profile, h.answers⟩
    show f s.stack.sockets = f s'.stack.sockets
    rw [h.sockets]
  | send hdr t =>
    show Same p (s.sent hdr (s.stack.sendTyLocal hdr t)) (s'.sent hdr (s'.stack.sendTy hdr t clock))
    unfold NetStack.sendTyLocal NetStack.sendTy NetStack.sendWith
    rw [sendTyLocalToSocket_eq hown]
    split
    · exact h.refused hdr _ _
    · split
      · next hall => exact h.broadcast hdr hall _
      · next hport => exact h.unicast hdr (hhere.resolve_left hport) _

/-- A program that sends locally, whatever its profile is, has at any time the sockets of the
program that does the same over `Null`, and it has not touched its profile. Where one of its sends
succeeds the other does, and the other way around but for broadcasts to another node. -/
theorem run_local (st : NetStack κ P) (clock : Clock)
    (hown : ∀ s : κ, SocketVTable.recvOwned s = none → SocketVTable.recvBor s = none)
    (acts : List (Act κ)) (hhere : ∀ act ∈ acts, FromHere act) :
    Same st.profile (Runs.runAll Program.stepLocal ⟨st, []⟩ acts)
      (Runs.runAll (Program.step clock) ⟨⟨st.sockets, ⟨⟩⟩, []⟩ acts) := by
  have hstart : Same st.profile (⟨st, []⟩ : Program κ P) ⟨⟨st.sockets, ⟨⟩⟩, []⟩ :=
    ⟨rfl, rfl, .nil⟩
  exact Runs.runAll_sim_of_forall (G := FromHere)
    (fun s s' act hhere h => h.step hown clock hhere) hstart hhere

/-- A device with a topic socket for messages of type 0. -/
def demoLocal : NetStack OwnedSocket (DirectEdge FrameQueue) :=
  ⟨[⟨⟨.replicate 8 0⟩, none, .topicMsg, true, 255, ⟨0, fun b => some ⟨0, b⟩, 1, []⟩⟩],
    .newTarget ⟨64, 4, []⟩⟩

/-- It broadcasts one message that is heard, and one that nobody hears. -/
def demoLocalSends : List (Act OwnedSocket) :=
  [.send Conformance.demoTopicHdr ⟨0, [7]⟩,
    .send { Conformance.demoTopicHdr with anyAll := some ⟨⟨.replicate 8 1⟩, none⟩ } ⟨0, [7]⟩]

theorem run_local_demo :
    (Runs.runAll Program.stepLocal ⟨demoLocal, []⟩ demoLocalSends).stack.profile =
      demoLocal.profile := by
  have hown : ∀ s : OwnedSocket,
      SocketVTable.recvOwned s = none → SocketVTable.recvBor s = none := by
    intro s hnone
    cases hnone
  have hhere : ∀ act ∈ demoLocalSends, FromHere act := by
    simp [demoLocalSends, FromHere, Conformance.demoTopicHdr]
  exact (run_local demoLocal (.at 0) hown demoLocalSends hhere).profile

-- The first broadcast succeeds, and the second does not, over `Null` either.
example :
    let answers : List (Header × Except NetStackSendError Unit) → List Bool :=
      List.map fun a => a.2.toBool
    answers (Runs.runAll Program.stepLocal ⟨demoLocal, []⟩ demoLocalSends).answers =
        [true, false] ∧
      answers (Runs.runAll (Program.step (.at 0)) ⟨⟨demoLocal.sockets, Null.mk⟩, []⟩
        demoLocalSends).answers = [true, false] := by
  decide

end LocalSend

end Ergot
