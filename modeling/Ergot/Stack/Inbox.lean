import Ergot.Lib.Mailbox
import Ergot.Lib.Runs
import Ergot.Stack.Profiles
import Ergot.Stack.Simulation

/-!
# Owned sockets and their receivers

The receiving side of socket/raw_owned.rs, over the storages of socket/owned.rs: the functions of
the table put a message into the storage and wake the task that waits, and a receiver takes it out
or waits. Topic receivers and servers go on until they find a message that is no error
(`ReceiverHandle::recv`, `serve`), clients take what comes.

- `Store` is the storage of a socket, of one of three kinds.
- `RawOwned` is the socket. `RawOwned.Refines` compares it with an `OwnedSocket`, which is a bounded
  list and has no wakers.
- `StackNode` is a stack with its sockets and an RX worker, for sockets of either sort, and
  `StackNode.step` what is done with it.
- `run_refines`: a stack with the one sort of sockets cannot be told from a stack with the other.
  `run_inbox`: in no run does a task sleep at a socket that has something for it, and what a socket
  has accepted is given to its receivers once, in order.
-/

namespace Ergot

/-- What a socket stores (socket/mod.rs). -/
abbrev Response := Header × Except ProtocolError Msg

/-! ## The storages -/

section Storages

variable {T : Type}

/-- `single`: an `Option`. -/
instance : Storage (Option T) T where
  isFull s := s.isSome
  push s t := if s.isSome then none else some (some t)
  tryPop s := s.map fun t => (t, none)
  contents := Option.toList
  capacity _ := 1
  isFull_iff s := by cases s <;> simp
  push_spec s t := by cases s <;> simp
  tryPop_spec s := by cases s <;> simp

/-- `std_bounded::Bounded`. -/
structure StdBounded (T : Type) where
  storage : List T
  maxLen : Nat

instance : Storage (StdBounded T) T where
  isFull s := s.storage.length ≥ s.maxLen
  push s t :=
    if s.storage.length ≥ s.maxLen then none else some { s with storage := s.storage ++ [t] }
  tryPop s :=
    match s.storage with
    | [] => none
    | t :: storage => some (t, { s with storage })
  contents s := s.storage
  capacity s := s.maxLen
  isFull_iff s := by simp
  push_spec s t := by
    by_cases hfull : s.maxLen ≤ s.storage.length <;> simp [hfull]
  tryPop_spec s := by cases s.storage <;> simp

section Deque

variable {n : Nat}

theorem deque_tail_le (s : HeaplessVec T n) : s.toList.tail.length ≤ n := by
  have hbound := s.bound
  rw [List.length_tail]
  omega

theorem deque_isFull_iff (s : HeaplessVec T n) : s.isFull = true ↔ n ≤ s.toList.length := by
  have hbound := s.bound
  simp only [HeaplessVec.isFull, beq_iff_eq]
  omega

theorem deque_push_spec (s : HeaplessVec T n) (t : T) : (s.isFull = true ∧ s.push t = none) ∨
    ∃ s', s.isFull = false ∧ s.push t = some s' ∧ s'.toList = s.toList ++ [t] ∧ n = n := by
  have hbound := s.bound
  unfold HeaplessVec.push
  by_cases hroom : s.toList.length < n
  · refine .inr ⟨_, ?_, dif_pos hroom, rfl, rfl⟩
    simpa [HeaplessVec.isFull] using Nat.ne_of_lt hroom
  · refine .inl ⟨?_, dif_neg hroom⟩
    rw [deque_isFull_iff]
    omega

/-- `stack_vec::Bounded`, over a `heapless::Deque`. -/
instance : Storage (HeaplessVec T n) T where
  isFull s := s.isFull
  push s t := s.push t
  tryPop s := s.toList.head?.map fun t => (t, ⟨s.toList.tail, deque_tail_le s⟩)
  contents s := s.toList
  capacity _ := n
  isFull_iff := deque_isFull_iff
  push_spec := deque_push_spec
  tryPop_spec s := by
    obtain ⟨items, hbound⟩ := s
    cases items with
    | nil => exact .inl ⟨rfl, rfl⟩
    | cons t rest => exact .inr ⟨t, ⟨rest, Nat.le_of_succ_le hbound⟩, rfl, rfl, rfl⟩

end Deque

/-- The storage of a socket. -/
inductive Store (T : Type)
  | single (s : Option T)
  | stdBounded (s : StdBounded T)
  | stackVec {n : Nat} (s : HeaplessVec T n)

namespace Store

def isFull : Store T → Bool
  | .single s => Storage.isFull s
  | .stdBounded s => Storage.isFull s
  | .stackVec s => Storage.isFull s

def push (t : T) : Store T → Option (Store T)
  | .single s => (Storage.push s t).map .single
  | .stdBounded s => (Storage.push s t).map .stdBounded
  | .stackVec s => (Storage.push s t).map .stackVec

def tryPop : Store T → Option (T × Store T)
  | .single s => (Storage.tryPop s).map (Prod.map id .single)
  | .stdBounded s => (Storage.tryPop s).map (Prod.map id .stdBounded)
  | .stackVec s => (Storage.tryPop s).map (Prod.map id .stackVec)

def contents : Store T → List T
  | .single s => Storage.contents s
  | .stdBounded s => Storage.contents s
  | .stackVec s => Storage.contents s

def capacity : Store T → Nat
  | .single s => Storage.capacity s
  | .stdBounded s => Storage.capacity s
  | .stackVec s => Storage.capacity s

instance : Storage (Store T) T where
  isFull := isFull
  push s t := s.push t
  tryPop := tryPop
  contents := contents
  capacity := capacity
  isFull_iff s := by cases s <;> exact Storage.isFull_iff _
  push_spec s t := by
    cases s with
    | single s => exact Storage.push_spec_map single (fun _ => rfl) (fun _ => rfl) s t
    | stdBounded s => exact Storage.push_spec_map stdBounded (fun _ => rfl) (fun _ => rfl) s t
    | stackVec s => exact Storage.push_spec_map stackVec (fun _ => rfl) (fun _ => rfl) s t
  tryPop_spec s := by
    cases s with
    | single s => exact Storage.tryPop_spec_map single (fun _ => rfl) (fun _ => rfl) s
    | stdBounded s => exact Storage.tryPop_spec_map stdBounded (fun _ => rfl) (fun _ => rfl) s
    | stackVec s => exact Storage.tryPop_spec_map stackVec (fun _ => rfl) (fun _ => rfl) s

end Store

end Storages

/-! ## The sockets -/

/-- Which storage a socket has. -/
inductive StoreKind
  | single
  | stdBounded (bound : Nat)
  | stackVec (n : Nat)

/-- The storage of a new socket. -/
def StoreKind.empty {T : Type} : StoreKind → Store T
  | .single => .single none
  | .stdBounded bound => .stdBounded ⟨[], bound⟩
  | .stackVec n => .stackVec (.empty : HeaplessVec T n)

/-- A sort of sockets that can be received from. -/
class Receiver (κ : Type) extends SocketVTable κ where
  /-- a socket with nothing in it -/
  create : TypeId → (List UInt8 → Option Msg) → StoreKind → κ
  /-- `poll` by a task, or `try_recv`, which may go on after errors -/
  receive : κ → Bool → Option Nat → Option Response × κ

/-- What a receiver looks for. -/
def wanted (skipErrors : Bool) (resp : Response) : Bool := !skipErrors || resp.2.isOk

/-- `raw_owned::Socket`. -/
structure RawOwned where
  ty : TypeId
  fromBytes : List UInt8 → Option Msg
  inner : Station (Store Response) Response

namespace RawOwned

/-- `Storage::push`, and the wake. -/
def push (s : RawOwned) (msg : Response) : Bool × RawOwned :=
  ((s.inner.box.put msg).1, { s with inner := s.inner.put msg })

/-- `recv_err`. -/
def recvErr (s : RawOwned) (hdr : Header) (err : ProtocolError) : RawOwned :=
  (s.push (hdr, .error err)).2

/-- `recv_owned`. -/
def recvOwned (s : RawOwned) (that : Msg) (hdr : Header) :
    Except SocketSendError Unit × RawOwned :=
  if s.ty ≠ that.ty then (.error .typeMismatch, s)
  else
    match s.push (hdr, .ok that) with
    | (true, s) => (.ok (), s)
    | (false, s) => (.error .noSpace, s)

/-- `recv_raw`. -/
def recvRaw (s : RawOwned) (that : List UInt8) (hdr : Header) :
    Except SocketSendError Unit × RawOwned :=
  if Storage.isFull s.inner.box.sto then (.error .noSpace, s)
  else
    match s.fromBytes that with
    | some t => (.ok (), (s.push (hdr, .ok t)).2)
    | none => (.error .deserFailed, s)

instance : Receiver RawOwned where
  recvOwned s := some s.recvOwned
  recvBor _ := none
  recvRaw s := s.recvRaw
  recvErr s := some s.recvErr
  create ty fromBytes kind := ⟨ty, fromBytes, .new kind.empty⟩
  receive s skipErrors task :=
    ((s.inner.box.receive (wanted skipErrors) task).result,
      { s with inner := s.inner.receive (wanted skipErrors) task })

end RawOwned

/-- A bounded list is received from at the front. -/
instance : Receiver OwnedSocket where
  create ty fromBytes kind :=
    ⟨ty, fromBytes, Storage.capacity (kind.empty : Store Response), []⟩
  receive s skipErrors _ :=
    (s.received.find? (wanted skipErrors),
      { s with received := (s.received.dropWhile fun resp => !wanted skipErrors resp).tail })

/-! ## What a socket with wakers is worth -/

namespace RawOwned

/-- The bounded list that a socket stands for. -/
def view (s : RawOwned) : OwnedSocket :=
  ⟨s.ty, s.fromBytes, Storage.capacity s.inner.box.sto, s.inner.box.contents⟩

/-- Whether something is no error. All receivers look for that. -/
def isMessage (resp : Response) : Bool := resp.2.isOk

/-- A socket and the list, where all is well with the wakers. -/
structure Refines (s : RawOwned) (a : OwnedSocket) : Prop where
  view : s.view = a
  inv : s.inner.Inv isMessage

theorem isFull_view (s : RawOwned) : s.view.isFull = Storage.isFull s.inner.box.sto := by
  rw [Bool.eq_iff_iff, Storage.isFull_iff]
  exact decide_eq_true_iff

/-- There is room in the socket where there is in the list, and then both have the message. -/
theorem Refines.push {s : RawOwned} {a : OwnedSocket} (h : s.Refines a) (msg : Response) :
    (s.push msg).1 = !a.isFull ∧ (s.push msg).2.Refines (a.push msg.1 msg.2) := by
  have hinv : (s.push msg).2.inner.Inv isMessage := h.inv.put msg
  have hfull := h.view ▸ s.isFull_view
  rcases Storage.push_spec s.inner.box.sto msg with
    ⟨hno, hpush⟩ | ⟨sto, hroom, hpush, hcontents, hcapacity⟩
  · have hput : s.inner.box.put msg = (false, none, s.inner.box) := by
      unfold Mailbox.put
      rw [hpush]
    have hafter : s.push msg = (false, s) := by
      unfold RawOwned.push Station.put
      rw [hput]
    rw [hafter, hfull, hno]
    refine ⟨rfl, ?_, h.inv⟩
    rw [OwnedSocket.push, hfull, hno]
    exact h.view
  · have hput : s.inner.box.put msg = (true, s.inner.box.wait, ⟨none, sto⟩) := by
      unfold Mailbox.put
      rw [hpush]
    rw [hfull, hroom]
    refine ⟨congrArg Prod.fst hput, ?_, hinv⟩
    have hbox : (s.push msg).2.inner.box = ⟨none, sto⟩ := by
      unfold RawOwned.push Station.put
      rw [hput]
    have ha : a.push msg.1 msg.2 = { a with received := a.received ++ [msg] } := by
      rw [OwnedSocket.push, hfull, hroom]
      rfl
    rw [ha, ← h.view]
    unfold RawOwned.view Mailbox.contents
    rw [hbox, hcontents, hcapacity]
    rfl

theorem recvOwned_refines {s : RawOwned} {a : OwnedSocket} (h : s.Refines a) (that : Msg)
    (hdr : Header) : SameAnswer Refines (s.recvOwned that hdr) (a.recvOwned that hdr) := by
  have hty : s.ty = a.ty := congrArg OwnedSocket.ty h.view
  obtain ⟨hroom, hafter⟩ := h.push (hdr, .ok that)
  unfold RawOwned.recvOwned OwnedSocket.recvOwned
  rw [hty]
  split
  · exact ⟨rfl, h⟩
  · generalize s.push (hdr, .ok that) = res at hroom hafter ⊢
    obtain ⟨room, s'⟩ := res
    obtain rfl : room = !a.isFull := hroom
    cases hfull : a.isFull with
    | true =>
      have hsame : a.push hdr (.ok that) = a := by
        rw [OwnedSocket.push, hfull]
        rfl
      rw [hsame] at hafter
      exact ⟨rfl, hafter⟩
    | false => exact ⟨rfl, hafter⟩

theorem recvRaw_refines {s : RawOwned} {a : OwnedSocket} (h : s.Refines a) (that : List UInt8)
    (hdr : Header) : SameAnswer Refines (s.recvRaw that hdr) (a.recvRaw that hdr) := by
  have hdecode : s.fromBytes = a.decode := congrArg OwnedSocket.decode h.view
  have hfull : a.isFull = Storage.isFull s.inner.box.sto := h.view ▸ s.isFull_view
  unfold RawOwned.recvRaw OwnedSocket.recvRaw
  rw [hfull, hdecode]
  split
  · exact ⟨rfl, h⟩
  · cases a.decode that with
    | none => exact ⟨rfl, h⟩
    | some t => exact ⟨rfl, (h.push (hdr, .ok t)).2⟩

/-- A new socket is empty. -/
theorem create_refines (ty : TypeId) (fromBytes : List UInt8 → Option Msg) (kind : StoreKind) :
    Refines (Receiver.create ty fromBytes kind) (Receiver.create ty fromBytes kind) := by
  have hnil : Storage.contents (kind.empty : Store Response) = [] := by cases kind <;> rfl
  refine ⟨?_, Station.inv_new hnil⟩
  exact congrArg (OwnedSocket.mk ty fromBytes _) hnil

/-- The functions of the table cannot tell the two apart. -/
theorem vtable_sim : VTableSim Refines where
  recvOwned _ _ h := recvOwned_refines h
  recvBor _ _ _ := trivial
  recvRaw _ _ h := recvRaw_refines h
  recvErr _ _ h hdr e := (h.push (hdr, .error e)).2

/-- Neither can a receiver. -/
theorem receive_refines {s : RawOwned} {a : OwnedSocket} (h : s.Refines a) (skipErrors : Bool)
    (task : Option Nat) :
    SameAnswer Refines (Receiver.receive s skipErrors task)
      (Receiver.receive a skipErrors task) := by
  have hspec := s.inner.box.receive_spec (wanted skipErrors) task
  have hinv : (s.inner.receive (wanted skipErrors) task).Inv isMessage := by
    refine h.inv.receive (fun resp hok => ?_) task
    rw [wanted, show resp.2.isOk = true from hok, Bool.or_true]
  obtain ⟨hfind, hrest⟩ := hspec.find
  rw [← h.view]
  refine ⟨hfind.symm, ?_, hinv⟩
  show OwnedSocket.mk _ _ (Storage.capacity _) _ = OwnedSocket.mk _ _ _ _
  congr 1
  · exact hspec.capacity
  · exact hrest.symm

end RawOwned

/-! ## A node -/

/-- A stack with an RX worker, what its sends have answered, and what its receivers were given. -/
structure StackNode (κ P ι : Type) where
  stack : NetStack κ P
  worker : RxWorker ι
  answers : List (Except NetStackSendError Unit)
  given : List (Option Response)

/-- What is done with a node. The socket of a `receive` is the one at that place in the list. -/
inductive StackAct (ι : Type)
  | attach (node : Socket Unit) (ty : TypeId) (fromBytes : List UInt8 → Option Msg)
    (kind : StoreKind)
  | detach (i : Nat)
  | sendTy (hdr : Header) (t : Msg) (clock : Clock)
  | sendBor (hdr : Header) (t : Msg) (clock : Clock)
  | sendRaw (hdr : Header) (body : List UInt8) (source : ι) (clock : Clock)
  | sendErr (hdr : Header) (err : ProtocolError) (source : Option ι) (clock : Clock)
  | worker (act : WorkerAct)
  | receive (i : Nat) (skipErrors : Bool) (task : Option Nat)

namespace StackNode

variable {κ P ι : Type} [Profile P ι]

/-- A send, and its answer. -/
def sent (n : StackNode κ P ι) (res : Except NetStackSendError Unit × NetStack κ P) :
    StackNode κ P ι :=
  { n with stack := res.2, answers := n.answers ++ [res.1] }

/-- A node without sockets. -/
def start (profile : P) (worker : RxWorker ι) : StackNode κ P ι := ⟨⟨[], profile⟩, worker, [], []⟩

variable [Receiver κ]

/-- A socket comes: broadcast sockets last. -/
def attach (sockets : List (Socket κ)) (node : Socket Unit) (inner : κ) : List (Socket κ) :=
  let socket : Socket κ := { node with inner }
  if node.port = 255 then sockets ++ [socket] else socket :: sockets

/-- One step. -/
def step (n : StackNode κ P ι) : StackAct ι → StackNode κ P ι
  | .attach node ty fromBytes kind =>
    { n with
      stack.sockets := attach n.stack.sockets node (Receiver.create ty fromBytes kind) }
  | .detach i => { n with stack.sockets := n.stack.sockets.eraseIdx i }
  | .sendTy hdr t clock => n.sent (n.stack.sendTy hdr t clock)
  | .sendBor hdr t clock => n.sent (n.stack.sendBor hdr t clock)
  | .sendRaw hdr body source clock => n.sent (n.stack.sendRaw hdr body source clock)
  | .sendErr hdr err source clock => n.sent (n.stack.sendErr hdr err source clock)
  | .worker act =>
    { n with worker := (n.worker.step n.stack act).1, stack := (n.worker.step n.stack act).2 }
  | .receive i skipErrors task =>
    match n.stack.sockets[i]? with
    | none => n
    | some s =>
      let res := Receiver.receive s.inner skipErrors task
      { n with
        stack.sockets := n.stack.sockets.set i { s with inner := res.2 }
        given := n.given ++ [res.1] }

/-- Two nodes that cannot be told apart. -/
structure Alike (n : StackNode RawOwned P ι) (a : StackNode OwnedSocket P ι) : Prop where
  stack : n.stack.Alike RawOwned.Refines a.stack
  worker : n.worker = a.worker
  answers : n.answers = a.answers
  given : n.given = a.given

variable {n : StackNode RawOwned P ι} {a : StackNode OwnedSocket P ι}

omit [Profile P ι] in
theorem Alike.sent (h : n.Alike a) {res : Except NetStackSendError Unit × NetStack RawOwned P}
    {res' : Except NetStackSendError Unit × NetStack OwnedSocket P}
    (hres : SameAnswer (NetStack.Alike RawOwned.Refines) res res') :
    (n.sent res).Alike (a.sent res') where
  stack := hres.2
  worker := h.worker
  answers := by rw [StackNode.sent, StackNode.sent, h.answers, hres.1]
  given := h.given

/-- What one step keeps. -/
theorem Alike.step (h : n.Alike a) (act : StackAct ι) : (n.step act).Alike (a.step act) := by
  have hsim := RawOwned.vtable_sim
  cases act with
  | attach node ty fromBytes kind =>
    have hnew := RawOwned.create_refines ty fromBytes kind
    refine { h with stack := ⟨?_, h.stack.profile⟩ }
    show List.Forall₂ _ (attach _ _ _) (attach _ _ _)
    unfold attach
    split
    · exact List.rel_append h.stack.sockets (.cons ⟨rfl, rfl, rfl, rfl, rfl, hnew⟩ .nil)
    · exact .cons ⟨rfl, rfl, rfl, rfl, rfl, hnew⟩ h.stack.sockets
  | detach i => exact { h with stack := ⟨eraseIdx_alike h.stack.sockets i, h.stack.profile⟩ }
  | sendTy hdr t clock => exact h.sent (NetStack.sendTy_alike hsim h.stack hdr t clock)
  | sendBor hdr t clock => exact h.sent (NetStack.sendBor_alike hsim h.stack hdr t clock)
  | sendRaw hdr body source clock =>
    exact h.sent (NetStack.sendRaw_alike hsim h.stack hdr body source clock)
  | sendErr hdr err source clock =>
    exact h.sent (NetStack.sendErr_alike hsim h.stack hdr err source clock)
  | worker act =>
    obtain ⟨hworker, hstack⟩ := n.worker.step_alike hsim h.stack act
    rw [h.worker] at hworker hstack
    exact
      { h with
        stack := by
          show (n.worker.step n.stack act).2.Alike _ _
          rw [h.worker]
          exact hstack
        worker := by
          show (n.worker.step n.stack act).1 = _
          rw [h.worker]
          exact hworker }
  | receive i skipErrors task =>
    have hget := getElem?_alike h.stack.sockets i
    unfold StackNode.step
    dsimp only
    generalize n.stack.sockets[i]? = found at hget ⊢
    generalize a.stack.sockets[i]? = found' at hget ⊢
    cases hget with
    | none => exact h
    | some hs =>
      obtain ⟨hresult, hafter⟩ := RawOwned.receive_refines hs.inner skipErrors task
      refine ⟨⟨?_, h.stack.profile⟩, h.worker, h.answers, ?_⟩
      · exact set_alike h.stack.sockets i { hs with inner := hafter }
      · dsimp only
        rw [h.given, hresult]

theorem alike_run (profile : P) (worker : RxWorker ι) (acts : List (StackAct ι)) :
    (Runs.runAll step (start profile worker) acts).Alike
      (Runs.runAll step (start profile worker) acts) :=
  Runs.runAll_sim (fun _ _ act h => h.step act) ⟨⟨.nil, rfl⟩, rfl, rfl, rfl⟩ acts

/-- Whatever is done with a node, its sends, its receivers, its interfaces and its peers find what
they would find if its sockets were bounded lists. -/
theorem run_refines (profile : P) (worker : RxWorker ι) (acts : List (StackAct ι)) :
    let n : StackNode RawOwned P ι := Runs.runAll step (start profile worker) acts
    let a : StackNode OwnedSocket P ι := Runs.runAll step (start profile worker) acts
    n.answers = a.answers ∧ n.given = a.given ∧ n.worker = a.worker ∧
      n.stack.profile = a.stack.profile ∧
      n.stack.sockets.map (fun s => s.inner.view) = a.stack.sockets.map (fun s => s.inner) := by
  intro n a
  have h : n.Alike a := alike_run profile worker acts
  refine ⟨h.answers, h.given, h.worker, h.stack.profile, ?_⟩
  have hviews := h.stack.sockets
  generalize n.stack.sockets = sockets at hviews
  generalize a.stack.sockets = sockets' at hviews
  induction hviews with
  | nil => rfl
  | cons hs _ ih => rw [List.map_cons, List.map_cons, ih, hs.inner.view]

/-- What a socket of a node has at any time: the messages that it accepted, in order, are those
that its receivers were given and those that are still there, no more than fit. A task that waits
for it is not waiting for something that is there. -/
theorem run_inbox (profile : P) (worker : RxWorker ι) (acts : List (StackAct ι)) :
    let n : StackNode RawOwned P ι := Runs.runAll step (start profile worker) acts
    ∀ s ∈ n.stack.sockets, let inbox := s.inner.inner
      inbox.accepted.filter RawOwned.isMessage =
          inbox.given.filter RawOwned.isMessage ++ inbox.box.contents.filter RawOwned.isMessage ∧
        inbox.box.contents.length ≤ Storage.capacity inbox.box.sto ∧
        ∀ task ∈ inbox.sleeping, inbox.box.contents = [] := by
  intro n s hs inbox
  obtain ⟨a, -, halike⟩ := exists_alike (alike_run profile worker acts).stack.sockets hs
  have hinv : inbox.Inv RawOwned.isMessage := halike.inner.inv
  exact ⟨hinv.given_or_left, hinv.fits, fun task htask => hinv.no_lost_wakeup htask⟩

end StackNode

end Ergot
