import Ergot.Lib.HeaplessVec
import Ergot.Router.Seed

/-!
# The net stack

`NetStackInner` (net_stack/inner.rs): a list of sockets and a profile. A message is
handed to the profile or to sockets; which of the two, and what the sender is told,
is decided by `unicast`, `unicastErr` and `broadcast`, which are shared by the send
methods.

- `Profile` is the trait of interface_manager/mod.rs, as far as frames need it, and
  `SocketVTable` the function table of a socket. Both have tapped instances that log
  every frame offered.
- A socket list is searched by predicates on the socket header; what the source
  keeps as a raw pointer is a `SocketMut`, the socket and the function that puts it
  back.
- Closures over the message (`sskt`, `smgr`) are functions here as in the source.
-/

namespace Ergot

/-! ## Profiles -/

/-- A profile (interface_manager/mod.rs:281); `ι` is its interface ident. -/
class Profile (P : Type) (ι : outParam Type) where
  send : P → Header → Msg → Clock → Except InterfaceSendError Unit × P
  sendErr : P → Header → ProtocolError → Option ι → Clock → Except InterfaceSendError Unit × P
  sendRaw : P → Header → List UInt8 → ι → Clock → Except InterfaceSendError Unit × P
  interfaceState : P → ι → Option InterfaceState
  setInterfaceState : P → ι → InterfaceState → Except SetStateError Unit × P
  isNodeClaimed : P → UInt16 → UInt8 → Nat → Bool :=
    fun _ _ nodeId _ => nodeId = centralNodeId ∨ nodeId = edgeNodeId
  isTransitNet : P → UInt16 → Nat → Bool × P := fun p _ _ => (false, p)

/-- A profile that logs every frame offered to it. -/
instance Profile.tapped {P ι : Type} [Profile P ι] :
    Profile (Tapped (Header × Payload) P) ι where
  send p hdr msg clock :=
    ((send p.inner hdr msg clock).1,
      ⟨(send p.inner hdr msg clock).2, p.log ++ [(hdr, .ty msg)]⟩)
  sendErr p hdr e source clock :=
    ((sendErr p.inner hdr e source clock).1,
      ⟨(sendErr p.inner hdr e source clock).2, p.log ++ [(hdr, .err e)]⟩)
  sendRaw p hdr data source clock :=
    ((sendRaw p.inner hdr data source clock).1,
      ⟨(sendRaw p.inner hdr data source clock).2, p.log ++ [(hdr, .raw data)]⟩)
  interfaceState p ident := interfaceState p.inner ident
  setInterfaceState p ident state :=
    ((setInterfaceState p.inner ident state).1,
      ⟨(setInterfaceState p.inner ident state).2, p.log⟩)
  isNodeClaimed p netId nodeId now := isNodeClaimed p.inner netId nodeId now
  isTransitNet p netId now :=
    ((isTransitNet p.inner netId now).1, ⟨(isTransitNet p.inner netId now).2, p.log⟩)

/-! ## Sockets -/

/-- The function table of a socket (socket/mod.rs:104). -/
class SocketVTable (κ : Type) where
  recvOwned : κ → Option (Msg → Header → Except SocketSendError Unit × κ)
  recvBor : κ → Option (Msg → Header → Except SocketSendError Unit × κ)
  recvRaw : κ → List UInt8 → Header → Except SocketSendError Unit × κ
  recvErr : κ → Option (Header → ProtocolError → κ)

/-- A socket whose function table logs everything handed to it. -/
instance SocketVTable.tapped {κ : Type} [SocketVTable κ] :
    SocketVTable (Tapped (Header × Payload) κ) where
  recvOwned s := (recvOwned s.inner).map fun f msg hdr =>
    ((f msg hdr).1, ⟨(f msg hdr).2, s.log ++ [(hdr, .ty msg)]⟩)
  recvBor s := (recvBor s.inner).map fun f msg hdr =>
    ((f msg hdr).1, ⟨(f msg hdr).2, s.log ++ [(hdr, .ty msg)]⟩)
  recvRaw s data hdr :=
    ((recvRaw s.inner data hdr).1, ⟨(recvRaw s.inner data hdr).2, s.log ++ [(hdr, .raw data)]⟩)
  recvErr s := (recvErr s.inner).map fun f hdr e => ⟨f hdr e, s.log ++ [(hdr, .err e)]⟩

/-- A socket: the `SocketHeader` (socket/mod.rs:77) and what is behind it. -/
structure Socket (κ : Type) where
  key : Key
  nash : Option NameHash
  kind : FrameKind
  discoverable : Bool
  port : UInt8
  inner : κ

/-- A pointer into a socket list: the socket, and the list with another in its
place. -/
structure SocketMut (κ : Type) where
  socket : Socket κ
  putBack : Socket κ → List (Socket κ)

/-- Point to the first socket that satisfies `p`, which is `socket`. -/
def socketMut {κ : Type} (sockets : List (Socket κ)) (p : Socket κ → Bool) (socket : Socket κ) :
    SocketMut κ :=
  ⟨socket, fun s => HeaplessVec.modifyFirstList p (fun _ => s) sockets⟩

/-- `NetStackInner::find_one_local`: the first socket with the port must have the
kind. -/
def findOneLocal {κ : Type} (sockets : List (Socket κ)) (hdr : Header) :
    Except NetStackSendError (SocketMut κ) :=
  match sockets.find? fun s => s.port = hdr.dst.portId with
  | none => .error .noRoute
  | some s =>
    if s.kind ≠ hdr.kind then .error (.wrongPortKind s.kind hdr.kind)
    else .ok (socketMut sockets (fun s => s.port = hdr.dst.portId) s)

/-- `NetStackInner::find_one_err_local`: the kind is not looked at. -/
def findOneErrLocal {κ : Type} (sockets : List (Socket κ)) (hdr : Header) :
    Except NetStackSendError (SocketMut κ) :=
  match sockets.find? fun s => s.port = hdr.dst.portId with
  | none => .error .noRoute
  | some s => .ok (socketMut sockets (fun s => s.port = hdr.dst.portId) s)

/-- Whether a name hash constraint admits a socket. -/
def nashAdmits {κ : Type} (nash : Option NameHash) (s : Socket κ) : Bool :=
  match nash with
  | none => true
  | some nash => s.nash = some nash

/-- Whether a socket can be the destination of an "any" message. -/
def anyMatches {κ : Type} (hdr : Header) (apdx : AnyAllAppendix) (s : Socket κ) : Bool :=
  s.kind = hdr.kind ∧ s.discoverable ∧ s.key = apdx.key ∧ nashAdmits apdx.nash s

/-- `NetStackInner::find_any_local`: exactly one socket has to match. -/
def findAnyLocal {κ : Type} (sockets : List (Socket κ)) (hdr : Header) :
    Except NetStackSendError (SocketMut κ) :=
  match hdr.anyAll with
  | none => .error .anyPortMissingKey
  | some apdx =>
    match sockets.filter (anyMatches hdr apdx) with
    | [] => .error .noRoute
    | [s] => .ok (socketMut sockets (anyMatches hdr apdx) s)
    | _ => .error .anyPortNotUnique

/-- Whether `find_all_local` yields a socket. -/
def allMatches {κ : Type} (hdr : Header) (apdx : AnyAllAppendix) (s : Socket κ) : Bool :=
  s.port = 255 ∧ s.kind = hdr.kind ∧ s.key = apdx.key ∧ nashAdmits apdx.nash s

section ToSocket

variable {κ : Type} [SocketVTable κ]

/-- A socket's answer as the stack reports it. -/
def Socket.report (s : Socket κ) (r : Except SocketSendError Unit × κ) :
    Except NetStackSendError Unit × Socket κ :=
  (match r.1 with
    | .ok () => .ok ()
    | .error e => .error (.socketSend e), { s with inner := r.2 })

/-- `send_ty_to_socket`: a borrow socket gets the message serialized. -/
def sendTyToSocket (t : Msg) (hdr : Header) (s : Socket κ) :
    Except NetStackSendError Unit × Socket κ :=
  match SocketVTable.recvOwned s.inner, SocketVTable.recvBor s.inner with
  | some f, _ => s.report (f t hdr)
  | none, some f => s.report (f t hdr)
  | none, none => (.error (.socketSend .whatTheHell), s)

/-- `send_bor_to_socket`. -/
def sendBorToSocket (t : Msg) (hdr : Header) (s : Socket κ) :
    Except NetStackSendError Unit × Socket κ :=
  match SocketVTable.recvBor s.inner with
  | some f => s.report (f t hdr)
  | none => (.error (.socketSend .whatTheHell), s)

/-- `send_raw_to_socket`. -/
def sendRawToSocket (body : List UInt8) (hdr : Header) (s : Socket κ) :
    Except NetStackSendError Unit × Socket κ :=
  s.report (SocketVTable.recvRaw s.inner body hdr)

/-- `send_err_to_socket`. -/
def sendErrToSocket (err : ProtocolError) (hdr : Header) (s : Socket κ) :
    Except NetStackSendError Unit × Socket κ :=
  match SocketVTable.recvErr s.inner with
  | some f => (.ok (), { s with inner := f hdr err })
  | none => (.error (.socketSend .whatTheHell), s)

end ToSocket

/-! ## The stack -/

/-- Sockets and a profile (net_stack/inner.rs:18). -/
structure NetStack (κ P : Type) where
  sockets : List (Socket κ)
  profile : P

namespace NetStack

variable {κ P ι : Type}

/-- Hand the message to the socket that was found, if one was. -/
def deliver (st : NetStack κ P) (found : Except NetStackSendError (SocketMut κ))
    (sskt : Socket κ → Except NetStackSendError Unit × Socket κ) :
    Except NetStackSendError Unit × NetStack κ P :=
  match found with
  | .error e => (.error e, st)
  | .ok ref => ((sskt ref.socket).1, { st with sockets := ref.putBack (sskt ref.socket).2 })

/-- Both addresses are `0.0`, so the profile can be left out. -/
def localBypass (hdr : Header) : Bool := hdr.src.netNodeAny && hdr.dst.netNodeAny

/-- `NetStackInner::unicast`. -/
def unicast (st : NetStack κ P) (hdr : Header)
    (sskt : Socket κ → Except NetStackSendError Unit × Socket κ)
    (smgr : P → Except InterfaceSendError Unit × P) :
    Except NetStackSendError Unit × NetStack κ P :=
  let (res, profile) :=
    if localBypass hdr then (.error .destinationLocal, st.profile) else smgr st.profile
  let st := { st with profile }
  match res with
  | .ok () => (.ok (), st)
  | .error e =>
    -- both can be returned when there is no interface interest
    if e = .destinationLocal ∨ e = .routingLoop then
      if hdr.dst.portId = 0 then st.deliver (findAnyLocal st.sockets hdr) sskt
      else st.deliver (findOneLocal st.sockets hdr) sskt
    else (.error (.interfaceSend e), st)

/-- `NetStackInner::unicast_err`: only `DestinationLocal` leads to the sockets. -/
def unicastErr (st : NetStack κ P) (hdr : Header)
    (sskt : Socket κ → Except NetStackSendError Unit × Socket κ)
    (smgr : P → Except InterfaceSendError Unit × P) :
    Except NetStackSendError Unit × NetStack κ P :=
  let (res, profile) :=
    if localBypass hdr then (.error .destinationLocal, st.profile) else smgr st.profile
  let st := { st with profile }
  match res with
  | .ok () => (.ok (), st)
  | .error e =>
    if e = .destinationLocal then st.deliver (findOneErrLocal st.sockets hdr) sskt
    else (.error (.interfaceSend e), st)

/-- One turn of the loop over the broadcast sockets; the flag is `any_found`. A
matched socket that is full still counts as found. -/
def broadcastLeg (p : Socket κ → Bool)
    (sskt : Socket κ → Except NetStackSendError Unit × Socket κ) (found : Bool) (s : Socket κ) :
    Bool × Socket κ :=
  if p s then
    match sskt s with
    | (.ok (), s) | (.error (.socketSend .noSpace), s) => (true, s)
    | (_, s) => (found, s)
  else (found, s)

/-- `NetStackInner::broadcast`. -/
def broadcast (st : NetStack κ P) (hdr : Header)
    (sskt : Socket κ → Except NetStackSendError Unit × Socket κ)
    (smgr : P → Except InterfaceSendError Unit × P) :
    Except NetStackSendError Unit × NetStack κ P :=
  match hdr.anyAll with
  | none => (.error .allPortMissingKey, st)
  | some apdx =>
    let (found, sockets) :=
      HeaplessVec.forEachList (broadcastLeg (allMatches hdr apdx) sskt) false st.sockets
    let (res, profile) := smgr st.profile
    let remote : Bool :=
      match res with
      | .ok () => true
      | .error e => e = .routingLoop ∨ e = .noRouteToDest
    (if found || remote then .ok () else .error .noRoute, { sockets, profile })

variable [SocketVTable κ] [Profile P ι]

/-- What the three non-error sends share: a protocol-error frame is refused, a
broadcast goes everywhere, a unicast to one place. -/
def sendWith (st : NetStack κ P) (hdr : Header)
    (sskt : Socket κ → Except NetStackSendError Unit × Socket κ)
    (smgr : P → Except InterfaceSendError Unit × P) :
    Except NetStackSendError Unit × NetStack κ P :=
  if hdr.kind = .protocolError then (.error .noRoute, st)
  else if hdr.dst.portId = 255 then st.broadcast hdr sskt smgr
  else st.unicast hdr sskt smgr

/-- `NetStackInner::send_raw`. -/
def sendRaw (st : NetStack κ P) (hdr : Header) (body : List UInt8) (source : ι) (clock : Clock) :
    Except NetStackSendError Unit × NetStack κ P :=
  st.sendWith hdr (sendRawToSocket body hdr) fun p => Profile.sendRaw p hdr body source clock

/-- `NetStackInner::send_ty`. -/
def sendTy (st : NetStack κ P) (hdr : Header) (t : Msg) (clock : Clock) :
    Except NetStackSendError Unit × NetStack κ P :=
  st.sendWith hdr (sendTyToSocket t hdr) fun p => Profile.send p hdr t clock

/-- `NetStackInner::send_bor`. -/
def sendBor (st : NetStack κ P) (hdr : Header) (t : Msg) (clock : Clock) :
    Except NetStackSendError Unit × NetStack κ P :=
  st.sendWith hdr (sendBorToSocket t hdr) fun p => Profile.send p hdr t clock

/-- `NetStackInner::send_err`: an error is never sent to the broadcast port. -/
def sendErr (st : NetStack κ P) (hdr : Header) (err : ProtocolError) (source : Option ι)
    (clock : Clock) : Except NetStackSendError Unit × NetStack κ P :=
  if hdr.dst.portId = 255 then (.error .noRoute, st)
  else
    st.unicastErr hdr (sendErrToSocket err hdr) fun p => Profile.sendErr p hdr err source clock

/-! ## What each decision leads to -/

omit [SocketVTable κ] [Profile P ι]

@[simp] theorem deliver_profile (st : NetStack κ P)
    (found : Except NetStackSendError (SocketMut κ))
    (sskt : Socket κ → Except NetStackSendError Unit × Socket κ) :
    (st.deliver found sskt).2.profile = st.profile := by
  cases found <;> rfl

/-- The first socket with the port is handed the message if it has the kind. -/
theorem deliver_findOneLocal (st : NetStack κ P) {hdr : Header} {s : Socket κ}
    (h : st.sockets.find? (fun s => s.port = hdr.dst.portId) = some s) (hkind : s.kind = hdr.kind)
    (sskt : Socket κ → Except NetStackSendError Unit × Socket κ) :
    st.deliver (findOneLocal st.sockets hdr) sskt =
      ((sskt s).1, ⟨HeaplessVec.modifyFirstList (fun s => s.port = hdr.dst.portId)
        (fun _ => (sskt s).2) st.sockets, st.profile⟩) := by
  simp [findOneLocal, h, hkind, deliver, socketMut]

/-- The first socket with the port is handed an error, whatever its kind. -/
theorem deliver_findOneErrLocal (st : NetStack κ P) {hdr : Header} {s : Socket κ}
    (h : st.sockets.find? (fun s => s.port = hdr.dst.portId) = some s)
    (sskt : Socket κ → Except NetStackSendError Unit × Socket κ) :
    st.deliver (findOneErrLocal st.sockets hdr) sskt =
      ((sskt s).1, ⟨HeaplessVec.modifyFirstList (fun s => s.port = hdr.dst.portId)
        (fun _ => (sskt s).2) st.sockets, st.profile⟩) := by
  simp [findOneErrLocal, h, deliver, socketMut]

section Unicast

variable {st : NetStack κ P} {hdr : Header}
  {sskt : Socket κ → Except NetStackSendError Unit × Socket κ}
  {smgr : P → Except InterfaceSendError Unit × P} {p : P}

/-- With both addresses `0.0`, the profile is left out. -/
theorem unicast_of_bypass (hb : localBypass hdr = true) (hport : hdr.dst.portId ≠ 0) :
    st.unicast hdr sskt smgr = st.deliver (findOneLocal st.sockets hdr) sskt := by
  unfold unicast
  simp [hb, hport]

/-- The profile took the message. -/
theorem unicast_of_ok (hb : localBypass hdr = false) (hres : smgr st.profile = (.ok (), p)) :
    st.unicast hdr sskt smgr = (.ok (), { st with profile := p }) := by
  unfold unicast
  simp [hb, hres]

/-- The profile answered one of the two errors that lead to the sockets. -/
theorem unicast_of_local (hb : localBypass hdr = false) (hport : hdr.dst.portId ≠ 0)
    {e : InterfaceSendError} (he : e = .destinationLocal ∨ e = .routingLoop)
    (hres : smgr st.profile = (.error e, p)) :
    st.unicast hdr sskt smgr =
      deliver { st with profile := p } (findOneLocal st.sockets hdr) sskt := by
  unfold unicast
  simp [hb, hres, hport, he]

/-- The profile answered any other error. -/
theorem unicast_of_error (hb : localBypass hdr = false) {e : InterfaceSendError}
    (hlocal : e ≠ .destinationLocal) (hloop : e ≠ .routingLoop)
    (hres : smgr st.profile = (.error e, p)) :
    st.unicast hdr sskt smgr = (.error (.interfaceSend e), { st with profile := p }) := by
  unfold unicast
  simp [hb, hres, hlocal, hloop]

theorem unicastErr_of_bypass (hb : localBypass hdr = true) :
    st.unicastErr hdr sskt smgr = st.deliver (findOneErrLocal st.sockets hdr) sskt := by
  unfold unicastErr
  simp [hb]

theorem unicastErr_of_ok (hb : localBypass hdr = false)
    (hres : smgr st.profile = (.ok (), p)) :
    st.unicastErr hdr sskt smgr = (.ok (), { st with profile := p }) := by
  unfold unicastErr
  simp [hb, hres]

theorem unicastErr_of_local (hb : localBypass hdr = false)
    (hres : smgr st.profile = (.error .destinationLocal, p)) :
    st.unicastErr hdr sskt smgr =
      deliver { st with profile := p } (findOneErrLocal st.sockets hdr) sskt := by
  unfold unicastErr
  simp [hb, hres]

theorem unicastErr_of_error (hb : localBypass hdr = false) {e : InterfaceSendError}
    (he : e ≠ .destinationLocal) (hres : smgr st.profile = (.error e, p)) :
    st.unicastErr hdr sskt smgr = (.error (.interfaceSend e), { st with profile := p }) := by
  unfold unicastErr
  simp [hb, hres, he]

/-- The sockets do not matter to the profile. -/
theorem unicast_profile (hb : localBypass hdr = false) :
    (st.unicast hdr sskt smgr).2.profile = (smgr st.profile).2 := by
  unfold unicast
  simp only [hb]
  rcases smgr st.profile with ⟨res | e, p⟩ <;> simp only [Bool.false_eq_true, if_false]
  split_ifs <;> simp

theorem unicastErr_profile (hb : localBypass hdr = false) :
    (st.unicastErr hdr sskt smgr).2.profile = (smgr st.profile).2 := by
  unfold unicastErr
  simp only [hb]
  rcases smgr st.profile with ⟨res | e, p⟩ <;> simp only [Bool.false_eq_true, if_false]
  split_ifs <;> simp

end Unicast

end NetStack

end Ergot
