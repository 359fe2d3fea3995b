import Mathlib.Data.List.Forall2
import Ergot.Stack.Workers

/-!
# Sockets that cannot be told apart

A stack knows its sockets by their header and by the answers of their function table. So sockets
may be exchanged for others that answer alike.

- `VTableSim R`: `R` relates what is behind two sockets, and every function of the table keeps it.
- `NetStack.Alike R` relates two stacks with such sockets and the same profile.
- `sendTy_alike` and its like, up to `RxWorker.step_alike`: whatever is done with two such stacks,
  the answers are the same, and the stacks stay alike.

With a relation that is a property of one side only, these are invariants of the sockets.
-/

namespace Ergot

variable {κ κ' P ι : Type}

/-- Two answers of a function table: the same, with related sockets. -/
def SameAnswer {α σ σ' : Type} (R : σ → σ' → Prop) (res : α × σ) (res' : α × σ') : Prop :=
  res.1 = res'.1 ∧ R res.2 res'.2

/-- Two functions of a table: both are there or none, and they answer alike. -/
def SameEntry {α σ σ' : Type} (R : σ → σ' → Prop) :
    Option (Msg → Header → α × σ) → Option (Msg → Header → α × σ') → Prop
  | some f, some f' => ∀ msg hdr, SameAnswer R (f msg hdr) (f' msg hdr)
  | none, none => True
  | _, _ => False

/-- A relation that the functions of two tables keep. -/
structure VTableSim [SocketVTable κ] [SocketVTable κ'] (R : κ → κ' → Prop) : Prop where
  recvOwned : ∀ s s', R s s' →
    SameEntry R (SocketVTable.recvOwned s) (SocketVTable.recvOwned s')
  recvBor : ∀ s s', R s s' → SameEntry R (SocketVTable.recvBor s) (SocketVTable.recvBor s')
  recvRaw : ∀ s s', R s s' → ∀ data hdr,
    SameAnswer R (SocketVTable.recvRaw s data hdr) (SocketVTable.recvRaw s' data hdr)
  recvErr : ∀ s s', R s s' →
    match SocketVTable.recvErr s, SocketVTable.recvErr s' with
    | some f, some f' => ∀ hdr e, R (f hdr e) (f' hdr e)
    | none, none => True
    | _, _ => False

/-- Two sockets with the same header. -/
structure Socket.Alike (R : κ → κ' → Prop) (s : Socket κ) (s' : Socket κ') : Prop where
  key : s.key = s'.key
  nash : s.nash = s'.nash
  kind : s.kind = s'.kind
  discoverable : s.discoverable = s'.discoverable
  port : s.port = s'.port
  inner : R s.inner s'.inner

/-- Two stacks with the same profile. -/
structure NetStack.Alike (R : κ → κ' → Prop) (st : NetStack κ P) (st' : NetStack κ' P) : Prop where
  sockets : List.Forall₂ (Socket.Alike R) st.sockets st'.sockets
  profile : st.profile = st'.profile

/-! ## Lists of sockets -/

section Lists

variable {R : κ → κ' → Prop} {α β : Type} {A : α → β → Prop} {p : α → Bool} {q : β → Bool}
  {l : List α} {l' : List β}

theorem find?_alike (h : List.Forall₂ A l l') (hpq : ∀ a b, A a b → p a = q b) :
    Option.Rel A (l.find? p) (l'.find? q) := by
  induction h with
  | nil => exact .none
  | @cons a b l l' hab _ ih =>
    rw [List.find?_cons, List.find?_cons, ← hpq a b hab]
    cases p a with
    | true => exact .some hab
    | false => exact ih

theorem modifyFirstList_alike (h : List.Forall₂ A l l') (hpq : ∀ a b, A a b → p a = q b)
    {f : α → α} {g : β → β} (hfg : ∀ a b, A a b → A (f a) (g b)) :
    List.Forall₂ A (HeaplessVec.modifyFirstList p f l) (HeaplessVec.modifyFirstList q g l') := by
  induction h with
  | nil => exact .nil
  | @cons a b l l' hab hrest ih =>
    unfold HeaplessVec.modifyFirstList
    rw [← hpq a b hab]
    split
    · exact .cons (hfg a b hab) hrest
    · exact .cons hab ih

theorem forEachList_alike {γ : Type} (h : List.Forall₂ A l l') {f : γ → α → γ × α}
    {g : γ → β → γ × β} (hfg : ∀ c a b, A a b → SameAnswer A (f c a) (g c b)) (c : γ) :
    SameAnswer (List.Forall₂ A) (HeaplessVec.forEachList f c l)
      (HeaplessVec.forEachList g c l') := by
  induction h generalizing c with
  | nil => exact ⟨rfl, .nil⟩
  | @cons a b l l' hab _ ih =>
    obtain ⟨hacc, helem⟩ := hfg c a b hab
    obtain ⟨hacc', hrest⟩ := ih (f c a).1
    unfold HeaplessVec.forEachList
    rw [← hacc]
    exact ⟨hacc', .cons helem hrest⟩

theorem filter_alike (h : List.Forall₂ A l l') (hpq : ∀ a b, A a b → p a = q b) :
    List.Forall₂ A (l.filter p) (l'.filter q) := by
  induction h with
  | nil => exact .nil
  | @cons a b l l' hab _ ih =>
    rw [List.filter_cons, List.filter_cons, ← hpq a b hab]
    split
    · exact .cons hab ih
    · exact ih

theorem getElem?_alike (h : List.Forall₂ A l l') (i : Nat) : Option.Rel A l[i]? l'[i]? := by
  induction h generalizing i with
  | nil => exact .none
  | cons hab _ ih =>
    cases i with
    | zero => exact .some hab
    | succ i => exact ih i

theorem set_alike (h : List.Forall₂ A l l') (i : Nat) {a : α} {b : β} (hab : A a b) :
    List.Forall₂ A (l.set i a) (l'.set i b) := by
  induction h generalizing i with
  | nil => exact .nil
  | cons hfirst hrest ih =>
    cases i with
    | zero => exact .cons hab hrest
    | succ i => exact .cons hfirst (ih i)

theorem exists_alike (h : List.Forall₂ A l l') {a : α} (ha : a ∈ l) : ∃ b ∈ l', A a b := by
  induction h with
  | nil => cases ha
  | @cons a' b l l' hab _ ih =>
    rcases List.mem_cons.mp ha with rfl | ha
    · exact ⟨b, List.mem_cons_self, hab⟩
    · obtain ⟨b, hb, hab⟩ := ih ha
      exact ⟨b, List.mem_cons_of_mem _ hb, hab⟩

theorem eraseIdx_alike (h : List.Forall₂ A l l') (i : Nat) :
    List.Forall₂ A (l.eraseIdx i) (l'.eraseIdx i) := by
  induction h generalizing i with
  | nil => exact .nil
  | cons hfirst hrest ih =>
    cases i with
    | zero => exact hrest
    | succ i => exact .cons hfirst (ih i)

end Lists

/-! ## Finding a socket -/

/-- Two look-ups: they fail alike, or they find related sockets. -/
def FoundAlike (R : κ → κ' → Prop) :
    Except NetStackSendError (SocketMut κ) → Except NetStackSendError (SocketMut κ') → Prop
  | .ok ref, .ok ref' =>
    ref.socket.Alike R ref'.socket ∧
      ∀ t t', t.Alike R t' → List.Forall₂ (Socket.Alike R) (ref.putBack t) (ref'.putBack t')
  | .error e, .error e' => e = e'
  | _, _ => False

section Find

variable {R : κ → κ' → Prop} {sockets : List (Socket κ)} {sockets' : List (Socket κ')}

theorem socketMut_alike (h : List.Forall₂ (Socket.Alike R) sockets sockets')
    {p : Socket κ → Bool} {q : Socket κ' → Bool}
    (hpq : ∀ s s', s.Alike R s' → p s = q s') {s : Socket κ} {s' : Socket κ'}
    (hs : s.Alike R s') :
    FoundAlike R (.ok (socketMut sockets p s)) (.ok (socketMut sockets' q s')) :=
  ⟨hs, fun _ _ ht => modifyFirstList_alike h hpq fun _ _ _ => ht⟩

theorem port_alike (hdr : Header) (s : Socket κ) (s' : Socket κ') (h : s.Alike R s') :
    decide (s.port = hdr.dst.portId) = decide (s'.port = hdr.dst.portId) := by rw [h.port]

theorem findOneLocal_alike (h : List.Forall₂ (Socket.Alike R) sockets sockets') (hdr : Header) :
    FoundAlike R (findOneLocal sockets hdr) (findOneLocal sockets' hdr) := by
  have hfind := find?_alike h (port_alike hdr)
  unfold findOneLocal
  generalize sockets.find? _ = found at hfind ⊢
  generalize sockets'.find? _ = found' at hfind ⊢
  cases hfind with
  | none => rfl
  | some hs =>
    dsimp only
    rw [← hs.kind]
    split
    · rfl
    · exact socketMut_alike h (port_alike hdr) hs

theorem findOneErrLocal_alike (h : List.Forall₂ (Socket.Alike R) sockets sockets')
    (hdr : Header) : FoundAlike R (findOneErrLocal sockets hdr) (findOneErrLocal sockets' hdr) := by
  have hfind := find?_alike h (port_alike hdr)
  unfold findOneErrLocal
  generalize sockets.find? _ = found at hfind ⊢
  generalize sockets'.find? _ = found' at hfind ⊢
  cases hfind with
  | none => rfl
  | some hs => exact socketMut_alike h (port_alike hdr) hs

theorem nashAdmits_alike (nash : Option NameHash) {s : Socket κ} {s' : Socket κ'}
    (h : s.Alike R s') : nashAdmits nash s = nashAdmits nash s' := by
  unfold nashAdmits
  rw [h.nash]

theorem anyMatches_alike (hdr : Header) (apdx : AnyAllAppendix) (s : Socket κ) (s' : Socket κ')
    (h : s.Alike R s') : anyMatches hdr apdx s = anyMatches hdr apdx s' := by
  unfold anyMatches
  rw [h.kind, h.discoverable, h.key, nashAdmits_alike _ h]

theorem allMatches_alike (hdr : Header) (apdx : AnyAllAppendix) (s : Socket κ) (s' : Socket κ')
    (h : s.Alike R s') : allMatches hdr apdx s = allMatches hdr apdx s' := by
  unfold allMatches
  rw [h.port, h.kind, h.key, nashAdmits_alike _ h]

theorem findAnyLocal_alike (h : List.Forall₂ (Socket.Alike R) sockets sockets') (hdr : Header) :
    FoundAlike R (findAnyLocal sockets hdr) (findAnyLocal sockets' hdr) := by
  unfold findAnyLocal
  cases hdr.anyAll with
  | none => rfl
  | some apdx =>
    have hfilter := filter_alike h (anyMatches_alike hdr apdx)
    dsimp only
    generalize sockets.filter _ = found at hfilter ⊢
    generalize sockets'.filter _ = found' at hfilter ⊢
    cases hfilter with
    | nil => rfl
    | cons hs hrest =>
      cases hrest with
      | nil => exact socketMut_alike h (anyMatches_alike hdr apdx) hs
      | cons _ _ => rfl

end Find

/-! ## Sends -/

/-- Two ways to hand a message to a socket. -/
def HandsAlike (R : κ → κ' → Prop) (sskt : Socket κ → Except NetStackSendError Unit × Socket κ)
    (sskt' : Socket κ' → Except NetStackSendError Unit × Socket κ') : Prop :=
  ∀ s s', s.Alike R s' → SameAnswer (Socket.Alike R) (sskt s) (sskt' s')

theorem Socket.report_alike {R : κ → κ' → Prop} {s : Socket κ} {s' : Socket κ'}
    (h : s.Alike R s') {res : Except SocketSendError Unit × κ}
    {res' : Except SocketSendError Unit × κ'} (hres : SameAnswer R res res') :
    SameAnswer (Socket.Alike R) (s.report res) (s'.report res') := by
  obtain ⟨answer, inner⟩ := res
  obtain ⟨answer', inner'⟩ := res'
  obtain ⟨rfl, hinner⟩ := hres
  exact ⟨rfl, { h with inner := hinner }⟩

section Hands

variable [SocketVTable κ] [SocketVTable κ'] {R : κ → κ' → Prop} (hR : VTableSim R)
include hR

theorem sendTyToSocket_alike (t : Msg) (hdr : Header) :
    HandsAlike R (sendTyToSocket t hdr) (sendTyToSocket t hdr) := by
  intro s s' h
  have howned := hR.recvOwned _ _ h.inner
  have hbor := hR.recvBor _ _ h.inner
  unfold sendTyToSocket
  generalize SocketVTable.recvOwned s.inner = owned at howned ⊢
  generalize SocketVTable.recvOwned s'.inner = owned' at howned ⊢
  generalize SocketVTable.recvBor s.inner = bor at hbor ⊢
  generalize SocketVTable.recvBor s'.inner = bor' at hbor ⊢
  cases owned <;> cases owned' <;> try exact howned.elim
  · cases bor <;> cases bor' <;> try exact hbor.elim
    · exact ⟨rfl, h⟩
    · exact Socket.report_alike h (hbor t hdr)
  · exact Socket.report_alike h (howned t hdr)

theorem sendBorToSocket_alike (t : Msg) (hdr : Header) :
    HandsAlike R (sendBorToSocket t hdr) (sendBorToSocket t hdr) := by
  intro s s' h
  have hbor := hR.recvBor _ _ h.inner
  unfold sendBorToSocket
  generalize SocketVTable.recvBor s.inner = bor at hbor ⊢
  generalize SocketVTable.recvBor s'.inner = bor' at hbor ⊢
  cases bor <;> cases bor' <;> try exact hbor.elim
  · exact ⟨rfl, h⟩
  · exact Socket.report_alike h (hbor t hdr)

theorem sendRawToSocket_alike (body : List UInt8) (hdr : Header) :
    HandsAlike R (sendRawToSocket body hdr) (sendRawToSocket body hdr) :=
  fun _ _ h => Socket.report_alike h (hR.recvRaw _ _ h.inner body hdr)

theorem sendErrToSocket_alike (err : ProtocolError) (hdr : Header) :
    HandsAlike R (sendErrToSocket err hdr) (sendErrToSocket err hdr) := by
  intro s s' h
  have herr := hR.recvErr _ _ h.inner
  unfold sendErrToSocket
  generalize SocketVTable.recvErr s.inner = f at herr ⊢
  generalize SocketVTable.recvErr s'.inner = f' at herr ⊢
  cases f <;> cases f' <;> try exact herr.elim
  · exact ⟨rfl, h⟩
  · exact ⟨rfl, { h with inner := herr hdr err }⟩

end Hands

namespace NetStack

variable {R : κ → κ' → Prop} {st : NetStack κ P} {st' : NetStack κ' P}
  {sskt : Socket κ → Except NetStackSendError Unit × Socket κ}
  {sskt' : Socket κ' → Except NetStackSendError Unit × Socket κ'}

theorem deliver_alike (h : st.Alike R st') {found : Except NetStackSendError (SocketMut κ)}
    {found' : Except NetStackSendError (SocketMut κ')} (hfound : FoundAlike R found found')
    (hskt : HandsAlike R sskt sskt') :
    SameAnswer (Alike R) (st.deliver found sskt) (st'.deliver found' sskt') := by
  cases found with
  | error e =>
    cases found' with
    | error e' => exact ⟨congrArg Except.error hfound, h⟩
    | ok ref' => exact hfound.elim
  | ok ref =>
    cases found' with
    | error e' => exact hfound.elim
    | ok ref' =>
      obtain ⟨hs, hput⟩ := hfound
      obtain ⟨hanswer, hafter⟩ := hskt _ _ hs
      exact ⟨hanswer, hput _ _ hafter, h.profile⟩

theorem unicast_alike (h : st.Alike R st') (hdr : Header) (hskt : HandsAlike R sskt sskt')
    (smgr : P → Except InterfaceSendError Unit × P) :
    SameAnswer (Alike R) (st.unicast hdr sskt smgr) (st'.unicast hdr sskt' smgr) := by
  unfold unicast
  rw [← h.profile]
  generalize (if localBypass hdr then (Except.error InterfaceSendError.destinationLocal, st.profile)
    else smgr st.profile) = res
  obtain ⟨e | u, p⟩ := res
  · have hst : Alike R { st with profile := p } { st' with profile := p } := ⟨h.sockets, rfl⟩
    dsimp only
    split
    · split
      · exact deliver_alike hst (findAnyLocal_alike h.sockets hdr) hskt
      · exact deliver_alike hst (findOneLocal_alike h.sockets hdr) hskt
    · exact ⟨rfl, hst⟩
  · exact ⟨rfl, h.sockets, rfl⟩

theorem unicastErr_alike (h : st.Alike R st') (hdr : Header) (hskt : HandsAlike R sskt sskt')
    (smgr : P → Except InterfaceSendError Unit × P) :
    SameAnswer (Alike R) (st.unicastErr hdr sskt smgr) (st'.unicastErr hdr sskt' smgr) := by
  unfold unicastErr
  rw [← h.profile]
  generalize (if localBypass hdr then (Except.error InterfaceSendError.destinationLocal, st.profile)
    else smgr st.profile) = res
  obtain ⟨e | u, p⟩ := res
  · have hst : Alike R { st with profile := p } { st' with profile := p } := ⟨h.sockets, rfl⟩
    dsimp only
    split
    · exact deliver_alike hst (findOneErrLocal_alike h.sockets hdr) hskt
    · exact ⟨rfl, hst⟩
  · exact ⟨rfl, h.sockets, rfl⟩

theorem broadcastLeg_alike {p : Socket κ → Bool} {q : Socket κ' → Bool}
    (hpq : ∀ s s', s.Alike R s' → p s = q s') (hskt : HandsAlike R sskt sskt') (found : Bool)
    (s : Socket κ) (s' : Socket κ') (h : s.Alike R s') :
    SameAnswer (Socket.Alike R) (broadcastLeg p sskt found s) (broadcastLeg q sskt' found s') := by
  unfold broadcastLeg
  rw [← hpq s s' h]
  split
  · obtain ⟨hanswer, hafter⟩ := hskt s s' h
    generalize sskt s = res at hanswer hafter ⊢
    generalize sskt' s' = res' at hanswer hafter ⊢
    obtain ⟨answer, after⟩ := res
    obtain ⟨answer', after'⟩ := res'
    obtain rfl : answer = answer' := hanswer
    -- whether the message counts as found is read off the answer
    cases answer with
    | ok u => exact ⟨rfl, hafter⟩
    | error e =>
      cases e with
      | socketSend e => cases e <;> exact ⟨rfl, hafter⟩
      | _ => exact ⟨rfl, hafter⟩
  · exact ⟨rfl, h⟩

theorem broadcast_alike (h : st.Alike R st') (hdr : Header) (hskt : HandsAlike R sskt sskt')
    (smgr : P → Except InterfaceSendError Unit × P) :
    SameAnswer (Alike R) (st.broadcast hdr sskt smgr) (st'.broadcast hdr sskt' smgr) := by
  unfold broadcast
  cases hdr.anyAll with
  | none => exact ⟨rfl, h⟩
  | some apdx =>
    obtain ⟨hfound, hsockets⟩ := forEachList_alike h.sockets
      (broadcastLeg_alike (allMatches_alike hdr apdx) hskt) false
    rw [← h.profile]
    dsimp only
    rw [← hfound]
    exact ⟨rfl, hsockets, rfl⟩

theorem sendWith_alike (h : st.Alike R st') (hdr : Header) (hskt : HandsAlike R sskt sskt')
    (smgr : P → Except InterfaceSendError Unit × P) :
    SameAnswer (Alike R) (st.sendWith hdr sskt smgr) (st'.sendWith hdr sskt' smgr) := by
  unfold sendWith
  split
  · exact ⟨rfl, h⟩
  · split
    · exact broadcast_alike h hdr hskt smgr
    · exact unicast_alike h hdr hskt smgr

variable [SocketVTable κ] [SocketVTable κ'] [Profile P ι] (hR : VTableSim R)
include hR

theorem sendTy_alike (h : st.Alike R st') (hdr : Header) (t : Msg) (clock : Clock) :
    SameAnswer (Alike R) (st.sendTy hdr t clock) (st'.sendTy hdr t clock) :=
  sendWith_alike h hdr (sendTyToSocket_alike hR t hdr) _

theorem sendBor_alike (h : st.Alike R st') (hdr : Header) (t : Msg) (clock : Clock) :
    SameAnswer (Alike R) (st.sendBor hdr t clock) (st'.sendBor hdr t clock) :=
  sendWith_alike h hdr (sendBorToSocket_alike hR t hdr) _

theorem sendRaw_alike (h : st.Alike R st') (hdr : Header) (body : List UInt8) (source : ι)
    (clock : Clock) :
    SameAnswer (Alike R) (st.sendRaw hdr body source clock) (st'.sendRaw hdr body source clock) :=
  sendWith_alike h hdr (sendRawToSocket_alike hR body hdr) _

theorem sendErr_alike (h : st.Alike R st') (hdr : Header) (err : ProtocolError)
    (source : Option ι) (clock : Clock) :
    SameAnswer (Alike R) (st.sendErr hdr err source clock) (st'.sendErr hdr err source clock) := by
  unfold sendErr
  split
  · exact ⟨rfl, h⟩
  · exact unicastErr_alike h hdr (sendErrToSocket_alike hR err hdr) _

/-- A frame that is handed on. -/
theorem handOn_alike (h : st.Alike R st') (hdr : Header)
    (body : Except ProtocolError (List UInt8)) (ident : ι) (clock : Clock) :
    (st.handOn hdr body ident clock).hdr = (st'.handOn hdr body ident clock).hdr ∧
      SameAnswer (Alike R)
        ((st.handOn hdr body ident clock).result, (st.handOn hdr body ident clock).stack)
        ((st'.handOn hdr body ident clock).result, (st'.handOn hdr body ident clock).stack) := by
  cases body with
  | ok body => exact ⟨rfl, sendRaw_alike hR h hdr body ident clock⟩
  | error e => exact ⟨rfl, sendErr_alike hR h hdr e (some ident) clock⟩

end NetStack

/-! ## Frames -/

section Frames

variable [SocketVTable κ] [SocketVTable κ'] [Profile P ι] {R : κ → κ' → Prop} (hR : VTableSim R)
  {st : NetStack κ P} {st' : NetStack κ' P}
include hR

theorem replyTooBig_alike {receipt : Receipt κ P} {receipt' : Receipt κ' P}
    (hhdr : receipt.hdr = receipt'.hdr)
    (h : SameAnswer (NetStack.Alike R) (receipt.result, receipt.stack)
      (receipt'.result, receipt'.stack)) (ident : ι) (clock : Clock) :
    (replyTooBig receipt ident clock).Alike R (replyTooBig receipt' ident clock) := by
  obtain ⟨hdr, result, stack⟩ := receipt
  obtain ⟨hdr', result', stack'⟩ := receipt'
  obtain ⟨hresult, hstack⟩ := h
  dsimp only at hhdr hresult hstack
  subst hhdr hresult
  unfold replyTooBig
  dsimp only
  split
  · split
    · exact hstack
    · exact (NetStack.sendErr_alike hR hstack _ _ _ _).2
  · exact hstack

theorem routerProcessFrame_alike (h : st.Alike R st') (netId : UInt16) (frame : BorrowedFrame)
    (ident : ι) (clock : FrameClock) :
    (routerProcessFrame netId frame st ident clock).Alike R
      (routerProcessFrame netId frame st' ident clock) := by
  unfold routerProcessFrame routerReceive
  rw [← h.profile]
  cases routerIngress st.profile netId frame.hdr clock.check with
  | none => exact h
  | some hdr =>
    obtain ⟨hhdr, hanswer⟩ := NetStack.handOn_alike hR h hdr frame.body ident clock.send
    exact replyTooBig_alike hR hhdr hanswer ident clock.reply

/-- Two results of a frame processor: the same flag and processor. -/
def ProcessedAlike {α : Type} (R : κ → κ' → Prop) (res : Bool × α × NetStack κ P)
    (res' : Bool × α × NetStack κ' P) : Prop :=
  res.1 = res'.1 ∧ SameAnswer (NetStack.Alike R) res.2 res'.2

theorem RouterFrameProcessor.processFrame_alike (h : st.Alike R st') (s : RouterFrameProcessor)
    (frame : BorrowedFrame) (ident : ι) (clock : FrameClock) :
    ProcessedAlike R (s.processFrame frame st ident clock)
      (s.processFrame frame st' ident clock) := by
  unfold processFrame
  dsimp only
  rw [← h.profile]
  have hframe := routerProcessFrame_alike hR h (s.sync st.profile ident).netId frame ident clock
  rw [← hframe.profile]
  split
  · exact ⟨rfl, rfl, hframe⟩
  · split
    · exact ⟨rfl, rfl, hframe.sockets, rfl⟩
    · exact ⟨rfl, rfl, hframe⟩

theorem EdgeFrameProcessor.processFrame_alike (h : st.Alike R st') (s : EdgeFrameProcessor)
    (frame : BorrowedFrame) (ident : ι) (clock : FrameClock) :
    ProcessedAlike R (s.processFrame frame st ident clock)
      (s.processFrame frame st' ident clock) := by
  unfold processFrame receive
  rw [← h.profile]
  generalize s.ingress st.profile frame.hdr ident clock.check = res
  obtain ⟨d, hdr⟩ := res
  cases hdr with
  | none => exact ⟨rfl, rfl, h.sockets, rfl⟩
  | some hdr =>
    have hd : NetStack.Alike R { st with profile := d.profile } { st' with profile := d.profile } :=
      ⟨h.sockets, rfl⟩
    exact ⟨rfl, rfl, (NetStack.handOn_alike hR hd hdr frame.body ident clock.send).2.2⟩

theorem FrameProcessor.processFrame_alike (h : st.Alike R st') (proc : FrameProcessor)
    (frame : BorrowedFrame) (ident : ι) (clock : FrameClock) :
    ProcessedAlike R (proc.processFrame frame st ident clock)
      (proc.processFrame frame st' ident clock) := by
  cases proc with
  | router s =>
    obtain ⟨hflag, hproc, hafter⟩ := s.processFrame_alike hR h frame ident clock
    exact ⟨hflag, congrArg FrameProcessor.router hproc, hafter⟩
  | edge s =>
    obtain ⟨hflag, hproc, hafter⟩ := s.processFrame_alike hR h frame ident clock
    exact ⟨hflag, congrArg FrameProcessor.edge hproc, hafter⟩

omit hR [SocketVTable κ] [SocketVTable κ'] in
/-- A write of a worker. -/
theorem RxWorker.setState_alike (h : st.Alike R st') (w : RxWorker ι) (state : InterfaceState) :
    (w.setState st state).Alike R (w.setState st' state) := by
  refine ⟨h.sockets, ?_⟩
  show (Profile.setInterfaceState st.profile w.ident state).2 = _
  rw [h.profile]
  rfl

/-- One act of an RX worker. -/
theorem RxWorker.step_alike (h : st.Alike R st') (w : RxWorker ι) (act : WorkerAct) :
    SameAnswer (NetStack.Alike R) (w.step st act) (w.step st' act) := by
  cases act with
  | frame frame clock =>
    obtain ⟨-, hproc, hafter⟩ := w.processor.processFrame_alike hR h frame w.ident clock
    exact ⟨congrArg (RxWorker.mk w.ident) hproc, hafter⟩
  | livenessTimeout linkLocalOnTimeout =>
    refine ⟨rfl, ?_⟩
    show (w.timeout st _).Alike R (w.timeout st' _)
    unfold timeout
    rw [← h.profile]
    split
    · split
      · exact setState_alike h w _
      · exact h
    · exact h
  | reset => exact ⟨rfl, h⟩
  | run initialState => exact ⟨rfl, setState_alike h w initialState⟩
  | setDown => exact ⟨rfl, setState_alike h w .down⟩
  | connected =>
    refine ⟨rfl, ?_⟩
    show (w.connect st).Alike R (w.connect st')
    unfold connect
    rw [← h.profile]
    split
    · exact h
    · exact setState_alike h w _

end Frames

end Ergot
