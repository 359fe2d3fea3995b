import Ergot.Lib.Runs
import Ergot.Stack.NetStack
import Ergot.Stack.Ports

/-!
# Endpoint requests

`request_full` (net_stack/endpoints.rs:108) attaches a socket for the response, sends the
request and waits. When the call returns, or is dropped, the socket is detached and its port
is free. A response is matched to the socket by its port and its kind alone.

- `State` is a node with its sockets, the requests that are with a server or on their way,
  and the responses on their way back. `step` is one step of a call, of a server or of the
  network.
- `Clear` says that a port may be handed out: nothing that comes back to it could be taken
  for the response to the new request.
- `no_cross_talk` is the result: with `Clear`, no request completes with the response to
  another, and without it one can.

`fromBytes` stands for `postcard::from_bytes`: whether some bytes are those of a type's value.
-/

namespace Ergot.Requests

/-- What comes back for a request. The code has no field `request`: it records the request
that the server answered. -/
structure Answer where
  hdr : Header
  request : Nat
  /-- whether the server is on the same node, so that the response is not serialized -/
  isLocal : Bool
  body : Except ProtocolError Msg

/-- A request that was sent, and not answered yet; `resp` is the endpoint's response type. -/
structure Asked where
  hdr : Header
  request : Nat
  isLocal : Bool
  resp : TypeId

/-! ## The response socket -/

/-- The client socket of a request, with storage for one message (socket/owned.rs). -/
structure ClientSocket where
  request : Nat
  resp : TypeId
  requestPending : Bool
  sto : Option Answer

/-- A socket of the node, with the client socket if it is one of a request. -/
abbrev Skt := Socket (Option ClientSocket)

namespace ClientSocket

/-- `Storage::push`. -/
def push (c : ClientSocket) (msg : Answer) : Except SocketSendError Unit × ClientSocket :=
  if c.sto.isSome then (.error .noSpace, c) else (.ok (), { c with sto := some msg })

/-- `recv_owned` (socket/raw_owned.rs:264). -/
def recvOwned (c : ClientSocket) (msg : Answer) (that : Msg) :
    Except SocketSendError Unit × ClientSocket :=
  if c.resp ≠ that.ty then (.error .typeMismatch, c) else c.push msg

/-- `recv_raw`. -/
def recvRaw (fromBytes : TypeId → List UInt8 → Bool) (c : ClientSocket) (msg : Answer)
    (that : List UInt8) : Except SocketSendError Unit × ClientSocket :=
  if c.sto.isSome then (.error .noSpace, c)
  else if fromBytes c.resp that then (.ok (), (c.push msg).2)
  else (.error .deserFailed, c)

/-- `recv_err`. -/
def recvErr (c : ClientSocket) (msg : Answer) : ClientSocket := (c.push msg).2

end ClientSocket

variable (fromBytes : TypeId → List UInt8 → Bool)

/-- Hand a message to a socket. What other sockets than the clients' do with it is left out. -/
def Answer.toSocket (a : Answer) (s : Skt) : Except NetStackSendError Unit × Skt :=
  match s.inner with
  | none => (.ok (), s)
  | some c =>
    match a.body with
    | .error _ => (.ok (), { s with inner := some (c.recvErr a) })
    | .ok msg =>
      let res := if a.isLocal then c.recvOwned a msg else c.recvRaw fromBytes a msg.bytes
      s.report (res.1, some res.2)

/-- A message that the profile has handed back to the stack: it goes to one socket. -/
def Answer.deliver (a : Answer) (sockets : List Skt) : List Skt :=
  let st : NetStack (Option ClientSocket) Unit := ⟨sockets, ()⟩
  let found :=
    match a.body with
    | .ok _ => findOneLocal sockets a.hdr
    | .error _ => findOneErrLocal sockets a.hdr
  (st.deliver found (a.toSocket fromBytes)).2.sockets

/-! ## The node -/

/-- A node: its sockets and its port cache, the number of requests so far, what is under way,
and how requests were completed. -/
structure State where
  sockets : List Skt
  ports : PortCache
  next : Nat
  asked : List Asked
  answers : List Answer
  completed : List (Nat × Answer)

namespace State

def init : State := ⟨[], .empty, 0, [], [], []⟩

/-- The ports in use. -/
def portIds (s : State) : List UInt8 := s.sockets.map Socket.port

/-- `try_attach_socket`: without a free port, nothing is attached. -/
def tryAttachSocket (s : State) (node : Skt) : State :=
  match s.ports.allocPort s.portIds with
  | (some port, ports) => { s with sockets := { node with port } :: s.sockets, ports }
  | (none, ports) => { s with ports }

/-- `attach_broadcast_socket`. -/
def attachBroadcastSocket (s : State) (node : Skt) : State :=
  { s with sockets := s.sockets ++ [{ node with port := 255 }] }

/-- `detach_socket`, of the first socket that satisfies `p`; no-op if there is none. -/
def detachSocket (s : State) (p : Skt → Bool) : State :=
  match s.sockets.find? p with
  | none => s
  | some node =>
    { s with
      sockets := s.sockets.eraseP p
      ports := if node.port ≠ 255 then s.ports.freePort node.port else s.ports }

/-- `request_full` up to the send: it attaches `single_client`. -/
def requestFull (s : State) (key : Key) (resp : TypeId) : State :=
  { s.tryAttachSocket
      { key, nash := none, kind := .endpointResp, discoverable := false, port := 0
        inner := some ⟨s.next, resp, false, none⟩ } with
    next := s.next + 1 }

end State

/-- The client socket of a request. -/
def ofRequest (request : Nat) (s : Skt) : Bool :=
  match s.inner with
  | some c => c.request = request
  | none => false

/-- `respond_owned`, and what the servers do: source and destination are swapped. -/
def respondOwned (reqHdr : Header) (kind : FrameKind) : Header where
  src := reqHdr.dst
  dst := reqHdr.src
  anyAll := none
  kind := kind
  trafficClass := reqHdr.trafficClass
  ttl := defaultTtl

/-- A step of a call, of another socket's owner, of a server or of the network. -/
inductive Act
  /-- `request_full` begins: its response socket is attached -/
  | requestFull (key : Key) (resp : TypeId)
  /-- it sends the request -/
  | sendRequest (request : Nat) (dst : Address) (apdx : AnyAllAppendix) (trafficClass : TrafficClass)
    (isLocal : Bool)
  /-- it takes the response and returns -/
  | recv (request : Nat)
  /-- it is dropped, or returns with an error of its own -/
  | drop (request : Nat)
  /-- another socket comes -/
  | attach (node : Skt)
  | attachBroadcast (node : Skt)
  /-- another socket goes -/
  | detach (p : Skt → Bool)
  /-- a server, or the stack of its node, answers; the network has filled in the source -/
  | serve (i : Nat) (netId : UInt16) (nodeId : UInt8) (body : Except ProtocolError (List UInt8))
  /-- an answer arrives -/
  | deliver (i : Nat)
  /-- a request or an answer is lost -/
  | loseAsked (i : Nat)
  | loseAnswer (i : Nat)

/-- The request that `send_request` sends (socket/endpoint.rs:186). -/
def ClientSocket.sendRequest (c : ClientSocket) (port : UInt8) (dst : Address)
    (apdx : AnyAllAppendix) (trafficClass : TrafficClass) (isLocal : Bool) : Asked where
  hdr :=
    { src := ⟨0, 0, port⟩
      dst := dst
      anyAll := if dst.portId = 0 then some apdx else none
      kind := .endpointReq
      trafficClass := trafficClass
      ttl := defaultTtl }
  request := c.request
  isLocal := isLocal
  resp := c.resp

/-- The answer to a request; a response has the type of the endpoint. -/
def Asked.answer (a : Asked) (netId : UInt16) (nodeId : UInt8)
    (body : Except ProtocolError (List UInt8)) : Answer :=
  let reqHdr := { a.hdr with src := ⟨netId, nodeId, a.hdr.src.portId⟩ }
  match body with
  | .ok bytes =>
    ⟨respondOwned reqHdr .endpointResp, a.request, a.isLocal, .ok ⟨a.resp, bytes⟩⟩
  | .error e => ⟨respondOwned reqHdr .protocolError, a.request, a.isLocal, .error e⟩

/-- Whether a server can answer with these bytes: they are those of a value of the type. -/
def Asked.Valid (a : Asked) : Except ProtocolError (List UInt8) → Bool
  | .ok bytes => fromBytes a.resp bytes
  | .error _ => true

/-- One step; one that is not possible changes nothing. -/
def step (s : State) : Act → State
  | .requestFull key resp => s.requestFull key resp
  | .sendRequest request dst apdx trafficClass isLocal =>
    match s.sockets.find? (ofRequest request) with
    | none => s
    | some node =>
      match node.inner with
      | none => s
      | some c =>
        -- a second request and a broadcast are refused
        if c.requestPending ∨ dst.portId = 255 then s
        else
          { s with
            sockets := HeaplessVec.modifyFirstList (ofRequest request)
              (fun _ => { node with inner := some { c with requestPending := true } }) s.sockets
            asked := s.asked ++ [c.sendRequest node.port dst apdx trafficClass isLocal] }
  | .recv request =>
    match (s.sockets.find? (ofRequest request)).bind fun node => node.inner.bind (·.sto) with
    | none => s
    | some msg =>
      { s.detachSocket (ofRequest request) with
        completed := s.completed ++ [(request, msg)] }
  | .drop request => s.detachSocket (ofRequest request)
  | .attach node => s.tryAttachSocket { node with inner := none }
  | .attachBroadcast node => s.attachBroadcastSocket { node with inner := none }
  | .detach p => s.detachSocket fun node => node.inner.isNone && p node
  | .serve i netId nodeId body =>
    match s.asked[i]? with
    | none => s
    | some a =>
      if a.Valid fromBytes body then
        { s with
          asked := s.asked.eraseIdx i
          answers := s.answers ++ [a.answer netId nodeId body] }
      else s
  | .deliver i =>
    match s.answers[i]? with
    | none => s
    | some a =>
      { s with answers := s.answers.eraseIdx i, sockets := a.deliver fromBytes s.sockets }
  | .loseAsked i => { s with asked := s.asked.eraseIdx i }
  | .loseAnswer i => { s with answers := s.answers.eraseIdx i }

/-! ## What a socket would take -/

/-- Whether a client socket for responses of type `resp` takes an answer for a response. -/
def Answer.Fits (a : Answer) (resp : TypeId) : Prop :=
  match a.body with
  | .ok msg => if a.isLocal then resp = msg.ty else fromBytes resp msg.bytes = true
  | .error _ => False

/-- Whether it would take one of a server's possible responses. -/
def Asked.CanFit (a : Asked) (resp : TypeId) : Prop :=
  ∃ bytes, a.Valid fromBytes (.ok bytes) ∧
    if a.isLocal then resp = a.resp else fromBytes resp bytes = true

theorem Asked.CanFit.of_fits {a : Asked} {netId : UInt16} {nodeId : UInt8}
    {body : Except ProtocolError (List UInt8)} {resp : TypeId} (hvalid : a.Valid fromBytes body)
    (h : (a.answer netId nodeId body).Fits fromBytes resp) : a.CanFit fromBytes resp := by
  cases body with
  | ok bytes => exact ⟨bytes, hvalid, h⟩
  | error e => exact h.elim

/-- The completed request was answered with an error, or with the response to it. -/
def Matched (res : Nat × Answer) : Prop := res.2.body.isOk → res.2.request = res.1

/-- Before a request begins: nothing that is under way to the port it gets could be taken for
its response. -/
def Clear (s : State) : Act → Prop
  | .requestFull _ resp =>
    ∀ port, (s.ports.allocPort s.portIds).1 = some port →
      (∀ a ∈ s.asked, a.hdr.src.portId = port → ¬ a.CanFit fromBytes resp) ∧
        ∀ a ∈ s.answers, a.hdr.dst.portId = port → ¬ a.Fits fromBytes resp
  | _ => True

/-! ## The invariant -/

/-- What is under way to a client socket's port is its own, or it cannot be taken for a
response; and so is what it has stored. -/
structure Sound (asked : List Asked) (answers : List Answer) (node : Skt) (c : ClientSocket) :
    Prop where
  port : node.port ≠ 255
  asked : ∀ a ∈ asked, a.hdr.src.portId = node.port →
    a.request = c.request ∨ ¬ a.CanFit fromBytes c.resp
  answers : ∀ a ∈ answers, a.hdr.dst.portId = node.port →
    a.request = c.request ∨ ¬ a.Fits fromBytes c.resp
  sto : ∀ msg, c.sto = some msg → Matched (c.request, msg)

/-- What holds of a node in every run whose requests begin with a clear port. -/
structure Inv (s : State) : Prop where
  covers : s.ports.Covers s.portIds
  distinct : s.portIds.Pairwise fun p q => p = q → p = 255
  sound : ∀ node ∈ s.sockets, ∀ c, node.inner = some c → Sound fromBytes s.asked s.answers node c
  request_lt : ∀ node ∈ s.sockets, ∀ c, node.inner = some c → c.request < s.next
  asked_lt : ∀ a ∈ s.asked, a.request < s.next
  answers_lt : ∀ a ∈ s.answers, a.request < s.next
  answers_kind : ∀ a ∈ s.answers, a.body.isOk → a.hdr.kind = .endpointResp
  completed : ∀ res ∈ s.completed, Matched res

theorem inv_init : Inv fromBytes .init :=
  { covers := PortCache.covers_empty
    distinct := .nil
    sound := fun _ h => absurd h List.not_mem_nil
    request_lt := fun _ h => absurd h List.not_mem_nil
    asked_lt := fun _ h => absurd h List.not_mem_nil
    answers_lt := fun _ h => absurd h List.not_mem_nil
    answers_kind := fun _ h => absurd h List.not_mem_nil
    completed := fun _ h => absurd h List.not_mem_nil }

variable {fromBytes} {s : State}

/-- Less may be under way. -/
theorem Sound.mono {asked asked' : List Asked} {answers answers' : List Answer} {node : Skt}
    {c : ClientSocket} (h : Sound fromBytes asked answers node c)
    (hasked : ∀ a ∈ asked', a ∈ asked) (hanswers : ∀ a ∈ answers', a ∈ answers) :
    Sound fromBytes asked' answers' node c :=
  { h with
    asked := fun a ha => h.asked a (hasked a ha)
    answers := fun a ha => h.answers a (hanswers a ha) }

/-- Two sockets with one port are the same, but for the broadcast port. -/
theorem Inv.eq_of_port (h : Inv fromBytes s) {node node' : Skt} (hnode : node ∈ s.sockets)
    (hnode' : node' ∈ s.sockets) (hport : node.port = node'.port) (hne : node.port ≠ 255) :
    node = node' := by
  have hpair := List.pairwise_map.mp h.distinct
  have hall := List.Pairwise.forall_of_forall_of_flip (l := s.sockets)
    (R := fun a b => a.port = b.port → a.port = 255 ∨ a = b) (fun _ _ _ => .inr rfl)
    (hpair.imp fun hab heq => .inl (hab heq))
    (hpair.imp fun hab heq => .inl (heq.trans (hab heq.symm)))
  exact (hall hnode hnode' hport).resolve_left hne

/-! ## One lemma for each operation -/

/-- A message is stored, if the socket has room for it and takes it, or nothing happens. -/
theorem toSocket_cases (a : Answer) (node : Skt) :
    (a.toSocket fromBytes node).2 = node ∨
      ∃ c, node.inner = some c ∧ c.sto = none ∧ (a.body.isOk → a.Fits fromBytes c.resp) ∧
        (a.toSocket fromBytes node).2 = { node with inner := some { c with sto := some a } } := by
  obtain ⟨key, nash, kind, discoverable, port, inner⟩ := node
  obtain ⟨hdr, request, isLocal, body⟩ := a
  cases inner with
  | none => exact .inl rfl
  | some c =>
    obtain ⟨owner, resp, pending, sto⟩ := c
    cases sto with
    | some msg =>
      -- no room
      left
      cases body with
      | error e => rfl
      | ok msg' =>
        cases isLocal with
        | true =>
          by_cases hty : resp = msg'.ty <;>
            simp [Answer.toSocket, ClientSocket.recvOwned, ClientSocket.push, Socket.report, hty]
        | false => rfl
    | none =>
      cases body with
      | error e => exact .inr ⟨_, rfl, rfl, nofun, rfl⟩
      | ok msg' =>
        cases isLocal with
        | true =>
          by_cases hty : resp = msg'.ty
          · refine .inr ⟨_, rfl, rfl, fun _ => hty, ?_⟩
            simp [Answer.toSocket, ClientSocket.recvOwned, ClientSocket.push, Socket.report, hty]
          · left
            simp [Answer.toSocket, ClientSocket.recvOwned, Socket.report, hty]
        | false =>
          by_cases hbytes : fromBytes resp msg'.bytes = true
          · refine .inr ⟨_, rfl, rfl, fun _ => hbytes, ?_⟩
            simp [Answer.toSocket, ClientSocket.recvRaw, ClientSocket.push, Socket.report, hbytes]
          · left
            simp [Answer.toSocket, ClientSocket.recvRaw, Socket.report, hbytes]

/-- The socket with the port of an answer, and whether it has its kind. -/
def Answer.findsKind (a : Answer) (node : Skt) : Bool :=
  match a.body with
  | .ok _ => node.kind = a.hdr.kind
  | .error _ => true

theorem deliver_eq (a : Answer) {sockets : List Skt} {node : Skt}
    (hfind : sockets.find? (fun s => s.port = a.hdr.dst.portId) = some node) :
    a.deliver fromBytes sockets =
      if a.findsKind node then
        HeaplessVec.modifyFirstList (fun s => s.port = a.hdr.dst.portId)
          (fun _ => (a.toSocket fromBytes node).2) sockets
      else sockets := by
  unfold Answer.deliver Answer.findsKind
  cases a.body with
  | error e => simp [findOneErrLocal, hfind, NetStack.deliver, socketMut]
  | ok msg =>
    by_cases hkind : node.kind = a.hdr.kind <;>
      simp [findOneLocal, hfind, NetStack.deliver, socketMut, hkind]

theorem deliver_none (a : Answer) {sockets : List Skt}
    (hfind : sockets.find? (fun s => s.port = a.hdr.dst.portId) = none) :
    a.deliver fromBytes sockets = sockets := by
  unfold Answer.deliver
  cases a.body <;> simp [findOneLocal, findOneErrLocal, hfind, NetStack.deliver]

/-- What the arrival of an answer does to the sockets. -/
theorem deliver_cases (a : Answer) (sockets : List Skt) :
    a.deliver fromBytes sockets = sockets ∨
      ∃ node c, sockets.find? (fun s => s.port = a.hdr.dst.portId) = some node ∧
        node.inner = some c ∧ (a.body.isOk → a.Fits fromBytes c.resp) ∧
        a.deliver fromBytes sockets =
          HeaplessVec.modifyFirstList (fun s => s.port = a.hdr.dst.portId)
            (fun _ => { node with inner := some { c with sto := some a } }) sockets := by
  cases hfind : sockets.find? (fun s => s.port = a.hdr.dst.portId) with
  | none => exact .inl (deliver_none a hfind)
  | some node =>
    rw [deliver_eq a hfind]
    by_cases hkind : a.findsKind node = true
    · rw [if_pos hkind]
      rcases @toSocket_cases fromBytes a node with hsame | ⟨c, hc, -, hfits, hres⟩
      · left
        obtain ⟨before, after, rfl, -, hmod⟩ := HeaplessVec.modifyFirstList_split_all hfind
        rw [hmod, hsame]
      · exact .inr ⟨node, c, rfl, hc, hfits, by rw [hres]⟩
    · rw [if_neg hkind]
      exact .inl rfl

theorem tryAttachSocket_next (s : State) (node : Skt) :
    { s.tryAttachSocket node with next := s.next } = s.tryAttachSocket node := by
  unfold State.tryAttachSocket
  split <;> rfl

/-- A new socket is attached, whose request may be the next one. -/
theorem Inv.tryAttachSocket (h : Inv fromBytes s) (node : Skt) {next : Nat} (hnext : s.next ≤ next)
    (hlt : ∀ c, node.inner = some c → c.request < next)
    (hnode : ∀ port c, (s.ports.allocPort s.portIds).1 = some port → port ≠ 255 →
      node.inner = some c → Sound fromBytes s.asked s.answers { node with port } c) :
    Inv fromBytes { s.tryAttachSocket node with next } := by
  have hspec := PortCache.allocPort_spec h.covers
  have hasked : ∀ a ∈ s.asked, a.request < next := fun a ha =>
    Nat.lt_of_lt_of_le (h.asked_lt a ha) hnext
  have hanswers : ∀ a ∈ s.answers, a.request < next := fun a ha =>
    Nat.lt_of_lt_of_le (h.answers_lt a ha) hnext
  have hold : ∀ node ∈ s.sockets, ∀ c, node.inner = some c → c.request < next := fun n hn c hc =>
    Nat.lt_of_lt_of_le (h.request_lt n hn c hc) hnext
  unfold State.tryAttachSocket
  generalize s.ports.allocPort s.portIds = res at hspec hnode
  obtain ⟨port, ports⟩ := res
  cases port with
  | none =>
    exact { h with covers := hspec, asked_lt := hasked, answers_lt := hanswers, request_lt := hold }
  | some port =>
    obtain ⟨hfree, -, hne, hcovers⟩ := hspec
    refine { h with
      covers := hcovers, asked_lt := hasked, answers_lt := hanswers, distinct := ?_, sound := ?_
      request_lt := ?_ }
    · -- the port of the new socket is nobody's
      refine List.pairwise_cons.mpr ⟨fun q hq heq => ?_, h.distinct⟩
      have heq : port = q := heq
      rw [heq] at hfree
      exact absurd hq hfree
    · intro other hother c hc
      rcases List.mem_cons.mp hother with rfl | hother
      · exact hnode port c rfl hne hc
      · exact h.sound other hother c hc
    · intro other hother c hc
      rcases List.mem_cons.mp hother with rfl | hother
      · exact hlt c hc
      · exact hold other hother c hc

/-- A request begins with a clear port. -/
theorem Inv.requestFull (h : Inv fromBytes s) {key : Key} {resp : TypeId}
    (hclear : Clear fromBytes s (.requestFull key resp)) :
    Inv fromBytes (s.requestFull key resp) := by
  unfold State.requestFull
  refine h.tryAttachSocket _ (Nat.le_succ s.next) ?_ fun port c hport hne hc => ?_
  · intro c hc
    cases hc
    exact Nat.lt_succ_self s.next
  · cases hc
    obtain ⟨hasked, hanswers⟩ := hclear port hport
    exact
      { port := hne
        asked := fun a ha haport => .inr (hasked a ha haport)
        answers := fun a ha haport => .inr (hanswers a ha haport)
        sto := nofun }

theorem Inv.attachBroadcastSocket (h : Inv fromBytes s) {node : Skt} (hnode : node.inner = none) :
    Inv fromBytes (s.attachBroadcastSocket node) := by
  have hports : (s.attachBroadcastSocket node).portIds = s.portIds ++ [255] := by
    simp [State.attachBroadcastSocket, State.portIds]
  constructor
  · rw [hports]
    refine { h.covers with bits := fun port hport hne => ?_ }
    rcases List.mem_append.mp hport with hport | hport
    · exact h.covers.bits port hport hne
    · exact absurd (List.mem_singleton.mp hport) hne
  · rw [hports, List.pairwise_append]
    refine ⟨h.distinct, List.pairwise_singleton _ _, fun p _ q hq heq => ?_⟩
    rw [heq, List.mem_singleton.mp hq]
  · intro other hother c hc
    rcases List.mem_append.mp hother with hother | hother
    · exact h.sound other hother c hc
    · rw [List.mem_singleton.mp hother] at hc
      exact absurd (hnode.symm.trans hc) nofun
  · intro other hother c hc
    rcases List.mem_append.mp hother with hother | hother
    · exact h.request_lt other hother c hc
    · rw [List.mem_singleton.mp hother] at hc
      exact absurd (hnode.symm.trans hc) nofun
  · exact h.asked_lt
  · exact h.answers_lt
  · exact h.answers_kind
  · exact h.completed

theorem Inv.detachSocket (h : Inv fromBytes s) (p : Skt → Bool) :
    Inv fromBytes (s.detachSocket p) := by
  unfold State.detachSocket
  cases hfind : s.sockets.find? p with
  | none => exact h
  | some node =>
    obtain ⟨hp, before, after, hsockets, hbefore⟩ := List.find?_eq_some_iff_append.mp hfind
    have herase : s.sockets.eraseP p = before ++ after := by
      rw [hsockets, List.eraseP_append_right _ fun b hb => by simpa using hbefore b hb,
        List.eraseP_cons_of_pos hp]
    have hsub : ∀ b ∈ before ++ after, b ∈ s.sockets := by
      intro b hb
      rw [hsockets]
      simp only [List.mem_append, List.mem_cons] at hb ⊢
      exact hb.imp_right .inr
    -- the socket that goes is the only one with its port, so that the port may be freed
    have hdistinct := h.distinct
    rw [State.portIds, hsockets, List.map_append, List.map_cons] at hdistinct
    have hcovers : s.ports.Covers ((before ++ after).map Socket.port) := by
      refine h.covers.mono fun port hport => ?_
      obtain ⟨b, hb, rfl⟩ := List.mem_map.mp hport
      exact List.mem_map_of_mem (hsub b hb)
    dsimp only
    rw [herase]
    refine { h with
      covers := ?_, distinct := ?_, sound := fun b hb => h.sound b (hsub b hb)
      request_lt := fun b hb => h.request_lt b (hsub b hb) }
    · dsimp only [State.portIds]
      split
      · rename_i hne
        refine hcovers.freePort hne fun hmem => hne ?_
        -- the port of a socket before it, or after it
        rw [List.map_append, List.mem_append] at hmem
        obtain ⟨-, hafter, hcross⟩ := List.pairwise_append.mp hdistinct
        rcases hmem with hmem | hmem
        · exact hcross _ hmem _ List.mem_cons_self rfl
        · exact (List.pairwise_cons.mp hafter).1 _ hmem rfl
      · exact hcovers
    · dsimp only [State.portIds]
      rw [List.map_append]
      exact hdistinct.sublist ((List.Sublist.refl _).append (List.sublist_cons_self _ _))

/-- A socket is updated in place, and something else is under way. -/
theorem Inv.replace (h : Inv fromBytes s) {p : Skt → Bool} {node : Skt} (node' : Skt)
    (hfind : s.sockets.find? p = some node) (hport : node'.port = node.port)
    {asked : List Asked} {answers : List Answer} (hasked : ∀ a ∈ asked, a.request < s.next)
    (hanswers : ∀ a ∈ answers, a ∈ s.answers)
    (hold : ∀ n ∈ s.sockets, ∀ c, n.inner = some c → Sound fromBytes asked answers n c)
    (hnew : ∀ c, node'.inner = some c → Sound fromBytes asked answers node' c ∧ c.request < s.next) :
    Inv fromBytes { s with
      sockets := HeaplessVec.modifyFirstList p (fun _ => node') s.sockets, asked, answers } := by
  have hports : (HeaplessVec.modifyFirstList p (fun _ => node') s.sockets).map Socket.port =
      s.portIds := by
    obtain ⟨before, after, hsockets, -, hmod⟩ := HeaplessVec.modifyFirstList_split_all hfind
    rw [hmod, State.portIds, hsockets]
    simp [hport]
  constructor
  · rw [State.portIds, hports]
    exact h.covers
  · rw [State.portIds, hports]
    exact h.distinct
  · intro n hn c hc
    rcases HeaplessVec.mem_modifyFirstList hn with hn | ⟨_, _, rfl⟩
    · exact hold n hn c hc
    · exact (hnew c hc).1
  · intro n hn c hc
    rcases HeaplessVec.mem_modifyFirstList hn with hn | ⟨_, _, rfl⟩
    · exact h.request_lt n hn c hc
    · exact (hnew c hc).2
  · exact hasked
  · exact fun a ha => h.answers_lt a (hanswers a ha)
  · exact fun a ha => h.answers_kind a (hanswers a ha)
  · exact h.completed

/-- A request is sent: it is under way to its own socket's port, and there is no other. -/
theorem Inv.sendRequest (h : Inv fromBytes s) {request : Nat} {node : Skt} {c : ClientSocket}
    (hfind : s.sockets.find? (ofRequest request) = some node) (hc : node.inner = some c)
    {a : Asked} (hreq : a.request = c.request) (hport : a.hdr.src.portId = node.port) :
    Inv fromBytes { s with
      sockets := HeaplessVec.modifyFirstList (ofRequest request)
        (fun _ => { node with inner := some { c with requestPending := true } }) s.sockets
      asked := s.asked ++ [a] } := by
  have hnode := List.mem_of_find?_eq_some hfind
  have hsound := h.sound node hnode c hc
  have hlt := h.request_lt node hnode c hc
  -- a socket that the new request concerns is the one that sent it
  have hadd : ∀ {node' : Skt} {c' : ClientSocket}, Sound fromBytes s.asked s.answers node' c' →
      (node.port = node'.port → c'.request = c.request) →
      Sound fromBytes (s.asked ++ [a]) s.answers node' c' := by
    intro node' c' h' hsame
    refine { h' with asked := fun b hb hbport => ?_ }
    rcases List.mem_append.mp hb with hb | hb
    · exact h'.asked b hb hbport
    · rw [List.mem_singleton.mp hb] at hbport ⊢
      exact .inl (hreq.trans (hsame (hport.symm.trans hbport)).symm)
  refine h.replace { node with inner := some { c with requestPending := true } } hfind rfl ?_
    (fun _ hb => hb) ?_ ?_
  · intro b hb
    rcases List.mem_append.mp hb with hb | hb
    · exact h.asked_lt b hb
    · rw [List.mem_singleton.mp hb, hreq]
      exact hlt
  · intro node' hnode' c' hc'
    refine hadd (h.sound node' hnode' c' hc') fun hport' => ?_
    have heq := h.eq_of_port hnode hnode' hport' hsound.port
    rw [← heq, hc] at hc'
    cases hc'
    rfl
  · intro c' hc'
    cases hc'
    exact ⟨hadd { hsound with } fun _ => rfl, hlt⟩

/-- An answer can be taken for no more than the request that it answers. -/
theorem Inv.serve (h : Inv fromBytes s) {i : Nat} {a : Asked} (ha : s.asked[i]? = some a)
    {netId : UInt16} {nodeId : UInt8} {body : Except ProtocolError (List UInt8)}
    (hvalid : a.Valid fromBytes body) :
    Inv fromBytes { s with
      asked := s.asked.eraseIdx i
      answers := s.answers ++ [a.answer netId nodeId body] } := by
  have hmem : a ∈ s.asked := List.mem_of_getElem? ha
  have hkept : ∀ b ∈ s.asked.eraseIdx i, b ∈ s.asked := fun b hb => List.mem_of_mem_eraseIdx hb
  have hreq : (a.answer netId nodeId body).request = a.request := by cases body <;> rfl
  have hdst : (a.answer netId nodeId body).hdr.dst.portId = a.hdr.src.portId := by
    cases body <;> rfl
  refine { h with
    sound := ?_, asked_lt := fun b hb => h.asked_lt b (hkept b hb), answers_lt := ?_
    answers_kind := ?_ }
  · intro node hnode c hc
    have hsound := h.sound node hnode c hc
    refine { hsound.mono hkept fun b hb => hb with answers := fun b hb hport => ?_ }
    rcases List.mem_append.mp hb with hb | hb
    · exact hsound.answers b hb hport
    · rw [List.mem_singleton.mp hb] at hport ⊢
      rw [hdst] at hport
      rw [hreq]
      exact (hsound.asked a hmem hport).imp_right fun hnot hfits => hnot (.of_fits _ hvalid hfits)
  · intro b hb
    rcases List.mem_append.mp hb with hb | hb
    · exact h.answers_lt b hb
    · rw [List.mem_singleton.mp hb, hreq]
      exact h.asked_lt a hmem
  · intro b hb
    rcases List.mem_append.mp hb with hb | hb
    · exact h.answers_kind b hb
    · rw [List.mem_singleton.mp hb]
      cases body with
      | ok bytes => exact fun _ => rfl
      | error e => exact nofun

/-- An answer that is stored is the response to the socket's own request. -/
theorem Inv.deliver (h : Inv fromBytes s) {i : Nat} {a : Answer} (ha : s.answers[i]? = some a) :
    Inv fromBytes { s with
      answers := s.answers.eraseIdx i, sockets := a.deliver fromBytes s.sockets } := by
  have hmem : a ∈ s.answers := List.mem_of_getElem? ha
  have hkept : ∀ b ∈ s.answers.eraseIdx i, b ∈ s.answers := fun b hb => List.mem_of_mem_eraseIdx hb
  have hsound : ∀ node ∈ s.sockets, ∀ c, node.inner = some c →
      Sound fromBytes s.asked (s.answers.eraseIdx i) node c := fun node hnode c hc =>
    (h.sound node hnode c hc).mono (fun b hb => hb) hkept
  rcases @deliver_cases fromBytes a s.sockets with
    hsame | ⟨node, c, hfind, hc, hfits, hres⟩
  · rw [hsame]
    exact { h with
      sound := hsound
      answers_lt := fun b hb => h.answers_lt b (hkept b hb)
      answers_kind := fun b hb => h.answers_kind b (hkept b hb) }
  · rw [hres]
    -- the socket took it as a response, so that by the invariant it is its own
    have hnode := List.mem_of_find?_eq_some hfind
    have hport : node.port = a.hdr.dst.portId := by simpa using List.find?_some hfind
    refine h.replace { node with inner := some { c with sto := some a } } hfind rfl h.asked_lt
      hkept hsound fun c' hc' => ?_
    cases hc'
    refine ⟨{ hsound node hnode c hc with sto := fun msg hmsg => ?_ }, h.request_lt node hnode c hc⟩
    cases hmsg
    intro hok
    exact ((h.sound node hnode c hc).answers a hmem hport.symm).resolve_right fun hnot =>
      hnot (hfits hok)

/-- A request completes with what its socket has stored. -/
theorem Inv.recv (h : Inv fromBytes s) {request : Nat} {node : Skt} {c : ClientSocket}
    {msg : Answer} (hfind : s.sockets.find? (ofRequest request) = some node)
    (hc : node.inner = some c) (hsto : c.sto = some msg) :
    Inv fromBytes { s.detachSocket (ofRequest request) with
      completed := s.completed ++ [(request, msg)] } := by
  have hreq : c.request = request := by
    have hof := List.find?_some hfind
    rw [ofRequest, hc] at hof
    exact of_decide_eq_true hof
  refine { h.detachSocket (ofRequest request) with completed := fun res hres => ?_ }
  rcases List.mem_append.mp hres with hres | hres
  · exact h.completed res hres
  · rw [List.mem_singleton.mp hres, ← hreq]
    exact (h.sound node (List.mem_of_find?_eq_some hfind) c hc).sto msg hsto

/-! ## Runs -/

/-- What one step preserves, if a request begins with a clear port. -/
theorem Inv.step (h : Inv fromBytes s) {act : Act} (hclear : Clear fromBytes s act) :
    Inv fromBytes (step fromBytes s act) := by
  cases act with
  | requestFull key resp => exact h.requestFull hclear
  | sendRequest request dst apdx trafficClass isLocal =>
    unfold Requests.step
    dsimp only
    cases hfind : s.sockets.find? (ofRequest request) with
    | none => exact h
    | some node =>
      dsimp only
      cases hc : node.inner with
      | none => exact h
      | some c =>
        dsimp only
        split
        · exact h
        · exact h.sendRequest hfind hc rfl rfl
  | recv request =>
    unfold Requests.step
    dsimp only
    cases hmsg : (s.sockets.find? (ofRequest request)).bind fun node => node.inner.bind (·.sto) with
    | none => exact h
    | some msg =>
      obtain ⟨node, hfind, hinner⟩ := Option.bind_eq_some_iff.mp hmsg
      obtain ⟨c, hc, hsto⟩ := Option.bind_eq_some_iff.mp hinner
      exact h.recv hfind hc hsto
  | drop request => exact h.detachSocket _
  | attach node =>
    have hnone : ∀ c, ¬ ({ node with inner := none } : Skt).inner = some c := fun _ hc =>
      Option.some_ne_none _ hc.symm
    have hattach := h.tryAttachSocket { node with inner := none } (Nat.le_refl s.next)
      (fun c hc => absurd hc (hnone c)) fun _ c _ _ hc => absurd hc (hnone c)
    rwa [tryAttachSocket_next] at hattach
  | attachBroadcast node => exact h.attachBroadcastSocket rfl
  | detach p => exact h.detachSocket _
  | serve i netId nodeId body =>
    unfold Requests.step
    dsimp only
    cases ha : s.asked[i]? with
    | none => exact h
    | some a =>
      dsimp only
      split
      · rename_i hvalid
        exact h.serve ha hvalid
      · exact h
  | deliver i =>
    unfold Requests.step
    dsimp only
    cases ha : s.answers[i]? with
    | none => exact h
    | some a => exact h.deliver ha
  | loseAsked i =>
    have hkept : ∀ b ∈ s.asked.eraseIdx i, b ∈ s.asked := fun b hb => List.mem_of_mem_eraseIdx hb
    exact { h with
      sound := fun node hnode c hc => (h.sound node hnode c hc).mono hkept fun b hb => hb
      asked_lt := fun b hb => h.asked_lt b (hkept b hb) }
  | loseAnswer i =>
    have hkept : ∀ b ∈ s.answers.eraseIdx i, b ∈ s.answers := fun b hb =>
      List.mem_of_mem_eraseIdx hb
    exact { h with
      sound := fun node hnode c hc => (h.sound node hnode c hc).mono (fun b hb => hb) hkept
      answers_lt := fun b hb => h.answers_lt b (hkept b hb)
      answers_kind := fun b hb => h.answers_kind b (hkept b hb) }

/-- Some request of a run begins with a port that is not clear. -/
def Reuses (fromBytes : TypeId → List UInt8 → Bool) (acts : List Act) : Prop :=
  Runs.Happens (step fromBytes) (fun s act => ¬ Clear fromBytes s act) .init acts

theorem inv_of_run {acts : List Act} (h : ¬ Reuses fromBytes acts) :
    Inv fromBytes (Runs.runAll (step fromBytes) .init acts) :=
  Runs.runAll_unless (fun _ _ hinv hclear => hinv.step (not_not.mp hclear)) (inv_init fromBytes) h

/-! ## When it goes wrong -/

theorem Answer.Fits.isOk {a : Answer} {resp : TypeId} (h : a.Fits fromBytes resp) :
    ∃ msg, a.body = .ok msg := by
  unfold Answer.Fits at h
  cases hbody : a.body with
  | ok msg => exact ⟨msg, rfl⟩
  | error e =>
    rw [hbody] at h
    exact h.elim

/-- An answer that arrives at a socket which takes it is what the socket's request completes
with. -/
theorem completes {t : State} {node : Skt} {rest : List Skt} {request : Nat} {resp : TypeId}
    {i : Nat} {a : Answer} (hsockets : t.sockets = node :: rest)
    (hinner : node.inner = some ⟨request, resp, false, none⟩) (hkind : node.kind = .endpointResp)
    (ha : t.answers[i]? = some a) (hport : node.port = a.hdr.dst.portId)
    (hakind : a.hdr.kind = .endpointResp) (hfits : a.Fits fromBytes resp) :
    (request, a) ∈ (Runs.runAll (step fromBytes) t [.deliver i, .recv request]).completed := by
  obtain ⟨msg, hbody⟩ := hfits.isOk
  have hstored : (a.toSocket fromBytes node).2 =
      { node with inner := some ⟨request, resp, false, some a⟩ } := by
    unfold Answer.Fits at hfits
    rw [hbody] at hfits
    cases hlocal : a.isLocal with
    | true =>
      simp only [hlocal, if_true] at hfits
      simp [Answer.toSocket, hinner, hbody, hlocal, ClientSocket.recvOwned, ClientSocket.push,
        Socket.report, hfits]
    | false =>
      simp only [hlocal, Bool.false_eq_true, if_false] at hfits
      simp [Answer.toSocket, hinner, hbody, hlocal, ClientSocket.recvRaw, ClientSocket.push,
        Socket.report, hfits]
  have hdeliver : a.deliver fromBytes t.sockets =
      { node with inner := some ⟨request, resp, false, some a⟩ } :: rest := by
    have hfind : t.sockets.find? (fun s => s.port = a.hdr.dst.portId) = some node := by
      rw [hsockets]
      exact List.find?_cons_of_pos (decide_eq_true hport)
    have hfinds : a.findsKind node = true := by
      rw [Answer.findsKind, hbody]
      exact decide_eq_true (hkind.trans hakind.symm)
    rw [deliver_eq a hfind, if_pos hfinds, hstored, hsockets, HeaplessVec.modifyFirstList,
      if_pos (decide_eq_true hport)]
  have hof : ofRequest request { node with inner := some ⟨request, resp, false, some a⟩ } = true :=
    decide_eq_true rfl
  simp [step, ha, hdeliver, hof]

/-- When a request begins with a port that is not clear, it can complete with the response to
another. -/
theorem Inv.crossed (h : Inv fromBytes s) {key : Key} {resp : TypeId}
    (hclear : ¬ Clear fromBytes s (.requestFull key resp)) :
    ∃ acts, ∃ res ∈ (Runs.runAll (Requests.step fromBytes) s
      (.requestFull key resp :: acts)).completed, ¬ Matched res := by
  obtain ⟨port, hport, hwaiting⟩ : ∃ port, (s.ports.allocPort s.portIds).1 = some port ∧
      ((∃ a ∈ s.asked, a.hdr.src.portId = port ∧ a.CanFit fromBytes resp) ∨
        ∃ a ∈ s.answers, a.hdr.dst.portId = port ∧ a.Fits fromBytes resp) := by
    simp only [Clear, not_forall, not_and_or, not_not, exists_prop] at hclear
    obtain ⟨port, hport, hwaiting⟩ := hclear
    exact ⟨port, hport, hwaiting.imp (fun ⟨a, ha, h1, h2⟩ => ⟨a, ha, h1, h2⟩)
      fun ⟨a, ha, h1, h2⟩ => ⟨a, ha, h1, h2⟩⟩
  -- the new socket is the first one
  have hstep : Requests.step fromBytes s (.requestFull key resp) =
      { s with
        sockets := ⟨key, none, .endpointResp, false, port, some ⟨s.next, resp, false, none⟩⟩ ::
          s.sockets
        ports := (s.ports.allocPort s.portIds).2
        next := s.next + 1 } := by
    simp only [Requests.step, State.requestFull, State.tryAttachSocket]
    generalize s.ports.allocPort s.portIds = res at hport
    obtain ⟨port', ports⟩ := res
    simp only at hport
    subst hport
    rfl
  have hcrossed : ∀ a : Answer, a.request < s.next → a.Fits fromBytes resp →
      ¬ Matched (s.next, a) := by
    intro a hlt hfits hmatched
    obtain ⟨msg, hbody⟩ := hfits.isOk
    exact Nat.ne_of_lt hlt (hmatched (by rw [hbody]; rfl))
  rcases hwaiting with ⟨a, ha, haport, bytes, hvalid, hfits⟩ | ⟨a, ha, haport, hfits⟩
  · -- the request of another is with a server, which answers now
    obtain ⟨i, hi⟩ := List.getElem?_of_mem ha
    have hans : (a.answer 0 0 (.ok bytes)).Fits fromBytes resp := hfits
    refine ⟨[.serve i 0 0 (.ok bytes), .deliver s.answers.length, .recv s.next],
      (s.next, a.answer 0 0 (.ok bytes)), ?_, hcrossed _ (h.asked_lt a ha) hans⟩
    rw [Runs.runAll_cons, hstep, Runs.runAll_cons]
    simp only [Requests.step, hi, hvalid, if_true]
    exact completes rfl rfl rfl List.getElem?_concat_length haport.symm rfl hans
  · -- the response to another is on its way, and arrives now
    obtain ⟨i, hi⟩ := List.getElem?_of_mem ha
    refine ⟨[.deliver i, .recv s.next], (s.next, a), ?_, hcrossed a (h.answers_lt a ha) hfits⟩
    rw [Runs.runAll_cons, hstep]
    obtain ⟨msg, hbody⟩ := hfits.isOk
    have hkind := h.answers_kind a ha (by rw [hbody]; rfl)
    exact completes rfl rfl rfl hi haport.symm hkind hfits

/-- In a run whose requests begin with clear ports, a request completes with an error or with
the response to itself. After such a run, a request that begins with a port that is not clear
can complete with the response to another. -/
theorem no_cross_talk (fromBytes : TypeId → List UInt8 → Bool) (acts : List Act) :
    (¬ Reuses fromBytes acts →
      ∀ res ∈ (Runs.runAll (step fromBytes) .init acts).completed, Matched res) ∧
    (¬ Reuses fromBytes acts → ∀ key resp,
      ¬ Clear fromBytes (Runs.runAll (step fromBytes) .init acts) (.requestFull key resp) →
      ∃ acts', ∃ res ∈ (Runs.runAll (step fromBytes) .init
        (acts ++ .requestFull key resp :: acts')).completed, ¬ Matched res) := by
  refine ⟨fun h => (inv_of_run h).completed, fun h key resp hclear => ?_⟩
  obtain ⟨acts', res, hres, hcrossed⟩ := (inv_of_run h).crossed hclear
  exact ⟨acts', res, by rwa [Runs.runAll_append], hcrossed⟩

/-- A request is dropped before its server has answered, and the next one of the same endpoint
gets its port. -/
def demoReuse : List Act :=
  [.requestFull ⟨.replicate 8 1⟩ 7,
    .sendRequest 0 ⟨1, 2, 9⟩ ⟨⟨.replicate 8 2⟩, none⟩ .normal false,
    .drop 0,
    .requestFull ⟨.replicate 8 1⟩ 7,
    .sendRequest 1 ⟨1, 2, 9⟩ ⟨⟨.replicate 8 2⟩, none⟩ .normal false,
    .serve 0 1 1 (.ok [42]),
    .deliver 0,
    .recv 1]

/-- It completes with the response to the first. -/
theorem cross_talk :
    ∃ res ∈ (Runs.runAll (step fun _ _ => true) .init demoReuse).completed, ¬ Matched res := by
  have hres : (Runs.runAll (step fun _ _ => true) .init demoReuse).completed.map
      (fun res => (res.1, res.2.request, res.2.body.isOk)) = [(1, 0, true)] := by
    decide +kernel
  obtain ⟨res, hmem, heq⟩ := List.mem_map.mp (hres ▸ List.mem_singleton_self _)
  simp only [Prod.mk.injEq] at heq
  obtain ⟨hfor, hreq, hok⟩ := heq
  refine ⟨res, hmem, fun hmatched => ?_⟩
  have hsame := hmatched hok
  omega

end Ergot.Requests
