import Ergot.Stack.Attach

/-!
# Socket queries

A device asks its network for sockets by key, name and kind, and each node that has one answers
with its port (`socket_query_handler` and `query_searcher`, net_stack/services.rs). The port is
what the device will use from then on, while sockets of the node come and go.

- `querySearcher` walks over the sockets that are public; `SocketQuery.Finds` is what it looks for.
- `Leads` says that a message with a given header is offered to a given socket.
- `query_answered`: there is an answer if there is a socket to be found, and the answer leads to
  that socket until it is detached.
-/

namespace Ergot.Attach

/-! ## The query -/

inductive NameRequirement
  | none
  | any
  | specific (nameHash : NameHash)

structure SocketQuery where
  key : Key
  nashReq : NameRequirement
  frameKind : FrameKind
  broadcast : Bool

structure SocketQueryResponse where
  name : Option NameHash
  port : UInt8
deriving DecidableEq

/-- Whether a socket with this name is passed over. -/
def NameRequirement.refuses (nash : Option NameHash) : NameRequirement → Bool
  | .none => nash.isSome
  | .any => false
  | .specific nameHash => nash ≠ some nameHash

variable {κ : Type}

/-- `SocketHeaderIter`. -/
def socketHeaderIter (sockets : List (Socket κ)) : List (Socket κ) :=
  sockets.filter (·.discoverable)

/-- `query_searcher`. -/
def querySearcher (query : SocketQuery) : List (Socket κ) → Option SocketQueryResponse
  | [] => none
  | hdr :: iter =>
    if query.frameKind ≠ hdr.kind then querySearcher query iter
    else if query.broadcast = true ∧ hdr.port ≠ 255 then querySearcher query iter
    else if query.broadcast = false ∧ hdr.port = 255 then querySearcher query iter
    else if query.nashReq.refuses hdr.nash then querySearcher query iter
    else if query.key ≠ hdr.key then querySearcher query iter
    else some ⟨hdr.nash, hdr.port⟩

/-- Whether a socket is what a query asks for. -/
structure SocketQuery.Finds (query : SocketQuery) (s : Socket κ) : Prop where
  discoverable : s.discoverable = true
  kind : s.kind = query.frameKind
  port : s.port = 255 ↔ query.broadcast = true
  nash : query.nashReq.refuses s.nash = false
  key : s.key = query.key

/-- The first socket that is asked for is the answer. -/
theorem querySearcher_spec (query : SocketQuery) (sockets : List (Socket κ)) :
    (querySearcher query (socketHeaderIter sockets) = none ∧ ∀ s ∈ sockets, ¬ query.Finds s) ∨
      ∃ s ∈ sockets, query.Finds s ∧
        querySearcher query (socketHeaderIter sockets) = some ⟨s.nash, s.port⟩ := by
  induction sockets with
  | nil => exact .inl ⟨rfl, nofun⟩
  | cons s sockets ih =>
    by_cases hfinds : query.Finds s
    · refine .inr ⟨s, List.mem_cons_self, hfinds, ?_⟩
      rw [socketHeaderIter, List.filter_cons_of_pos hfinds.discoverable]
      unfold querySearcher
      rw [if_neg (not_not_intro hfinds.kind.symm),
        if_neg (fun h => h.2 (hfinds.port.mpr h.1)),
        if_neg (fun h => Bool.false_ne_true (h.1.symm.trans (hfinds.port.mp h.2))),
        if_neg (by rw [hfinds.nash]; exact Bool.false_ne_true),
        if_neg (not_not_intro hfinds.key.symm)]
    · have hskip : querySearcher query (socketHeaderIter (s :: sockets)) =
          querySearcher query (socketHeaderIter sockets) := by
        unfold socketHeaderIter
        by_cases hpublic : s.discoverable = true
        · rw [List.filter_cons_of_pos hpublic]
          conv_lhs => unfold querySearcher
          split_ifs with h1 h2 h3 h4 h5
          · rfl
          · rfl
          · rfl
          · rfl
          · rfl
          · refine absurd ⟨hpublic, (not_not.mp h1).symm, ?_, ?_, (not_not.mp h5).symm⟩ hfinds
            · cases hb : query.broadcast with
              | true => simpa [hb] using h2
              | false => simpa [hb] using h3
            · exact Bool.eq_false_iff.mpr h4
        · rw [List.filter_cons_of_neg hpublic]
      rw [hskip]
      rcases ih with ⟨hnone, hall⟩ | ⟨t, ht, hfound, hsome⟩
      · exact .inl ⟨hnone, List.forall_mem_cons.mpr ⟨hfinds, hall⟩⟩
      · exact .inr ⟨t, List.mem_cons_of_mem s ht, hfound, hsome⟩

/-! ## Where a message goes -/

/-- A message with this header is offered to the socket. -/
def Leads (sockets : List (Socket κ)) (hdr : Header) (s : Socket κ) : Prop :=
  if hdr.dst.portId = 255 then
    ∃ apdx, hdr.anyAll = some apdx ∧ s ∈ sockets.filter (allMatches hdr apdx)
  else ∃ ref, findOneLocal sockets hdr = .ok ref ∧ ref.socket = s

/-- A message of the kind that was asked for, to the port that was answered. To a broadcast socket
it has the key of the query, and the name of the answer or none. -/
structure Follows (query : SocketQuery) (resp : SocketQueryResponse) (hdr : Header) : Prop where
  port : hdr.dst.portId = resp.port
  kind : hdr.kind = query.frameKind
  apdx : resp.port = 255 → ∃ apdx, hdr.anyAll = some apdx ∧ apdx.key = query.key ∧
    (apdx.nash = none ∨ apdx.nash = resp.name)

section Nodes

variable {ι : Type} [DecidableEq ι] {s : NetStackInner (Node ι)} {node : Socket (Node ι)}

omit [DecidableEq ι] in
/-- The port of an attached socket is that of no other. -/
theorem find?_port (h : Agree s) (hnode : node ∈ s.sockets) (hport : node.port ≠ 255) :
    (s.sockets.find? fun n => n.port = node.port) = some node := by
  obtain ⟨pre, suf, hsplit⟩ := List.append_of_mem hnode
  refine List.find?_eq_some_iff_append.mpr ⟨by simp, pre, suf, hsplit, fun n hn => ?_⟩
  have hother := h.port_notMem hsplit hport
  rw [List.map_append, List.mem_append, not_or] at hother
  have hne : n.port ≠ node.port := fun heq => hother.1 (heq ▸ List.mem_map_of_mem hn)
  simpa using hne

omit [DecidableEq ι] in
/-- An answer leads to the socket that it is about. -/
theorem leads_of_follows (h : Agree s) (hnode : node ∈ s.sockets) {query : SocketQuery}
    (hfinds : query.Finds node) {hdr : Header}
    (hfollows : Follows query ⟨node.nash, node.port⟩ hdr) : Leads s.sockets hdr node := by
  have hport : hdr.dst.portId = node.port := hfollows.port
  have hkind : node.kind = hdr.kind := hfinds.kind.trans hfollows.kind.symm
  unfold Leads
  split
  · next hbroadcast =>
    obtain ⟨apdx, hapdx, hkey, hname⟩ := hfollows.apdx (hport ▸ hbroadcast)
    refine ⟨apdx, hapdx, List.mem_filter.mpr ⟨hnode, ?_⟩⟩
    have hadmits : nashAdmits apdx.nash node = true := by
      unfold nashAdmits
      split
      · rfl
      · next nash hnash =>
        rcases hname with hname | hname
        · rw [hname] at hnash
          cases hnash
        · exact decide_eq_true (hname.symm.trans hnash)
    exact decide_eq_true ⟨hport ▸ hbroadcast, hkind, hfinds.key.trans hkey.symm, hadmits⟩
  · next hunicast =>
    have hfind := find?_port h hnode (hport ▸ hunicast)
    rw [← hport] at hfind
    refine ⟨socketMut s.sockets (fun n => n.port = hdr.dst.portId) node, ?_, rfl⟩
    rw [findOneLocal, hfind]
    exact if_neg (not_not_intro hkind)

/-- A socket stays where it is until it is detached. -/
theorem exec_mem (hnode : node ∈ s.sockets) {op : SocketOp ι}
    (hop : op ≠ .detach node.inner.addr) : node ∈ (exec s op).sockets := by
  cases op with
  | tryAttach new =>
    show node ∈ (s.tryAttachSocket (Node.of new false)).2.sockets
    rcases tryAttachSocket_cases s (Node.of new false) with ⟨port, -, hres⟩ | ⟨-, hres⟩
    · rw [hres]
      exact List.mem_cons_of_mem _ hnode
    · rwa [hres]
  | attachBroadcast new => exact List.mem_append_left _ hnode
  | detach addr =>
    show node ∈ (s.detachSocket addr).sockets
    by_cases haddr : addr ∈ s.addrs
    · obtain ⟨other, pre, suf, hsplit, hother, hres⟩ := detachSocket_split haddr
      rw [hres]
      rw [hsplit, List.mem_append, List.mem_cons] at hnode
      rcases hnode with hpre | rfl | hsuf
      · exact List.mem_append_left suf hpre
      · exact absurd (congrArg SocketOp.detach hother.symm) hop
      · exact List.mem_append_right pre hsuf
    · rwa [detachSocket_of_notMem haddr]

theorem runAll_mem (hnode : node ∈ s.sockets) {ops : List (SocketOp ι)}
    (hops : .detach node.inner.addr ∉ ops) : node ∈ (Runs.runAll exec s ops).sockets := by
  refine Runs.runAll_inv_of_forall (I := fun s : NetStackInner (Node ι) => node ∈ s.sockets)
    (G := fun op => op ≠ SocketOp.detach node.inner.addr) (fun _ _ hop h => exec_mem h hop) hnode ?_
  rintro op hop rfl
  exact hops hop

end Nodes

/-! ## Every run -/

/-- Whatever sockets have been attached and detached: a query has an answer if there is a socket to
be found. Messages that follow the answer are offered to that socket, whatever sockets are attached
and detached from then on, until it is detached itself. -/
theorem query_answered {ι : Type} [DecidableEq ι] (ops : List (SocketOp ι))
    (hops : Runs.Always exec Detached .new ops) (query : SocketQuery) :
    let s := Runs.runAll exec .new ops
    let answer := querySearcher query (socketHeaderIter s.sockets)
    (answer = none ↔ ∀ node ∈ s.sockets, ¬ query.Finds node) ∧
      ∀ resp, answer = some resp → ∃ node ∈ s.sockets, query.Finds node ∧
        ∀ ops', Runs.Always exec Detached s ops' → .detach node.inner.addr ∉ ops' →
          ∀ hdr, Follows query resp hdr → Leads (Runs.runAll exec s ops').sockets hdr node := by
  intro s answer
  have hs : Agree s := runAll_agree agree_new hops
  have hanswer : answer = querySearcher query (socketHeaderIter s.sockets) := rfl
  rcases querySearcher_spec query s.sockets with ⟨hnone, hall⟩ | ⟨node, hnode, hfinds, hsome⟩
  · rw [hnone] at hanswer
    refine ⟨iff_of_true hanswer hall, fun resp hresp => ?_⟩
    rw [hanswer] at hresp
    cases hresp
  · rw [hsome] at hanswer
    refine ⟨iff_of_false ?_ fun hall => hall node hnode hfinds, fun resp hresp => ?_⟩
    · rw [hanswer]
      exact Option.some_ne_none _
    · rw [hanswer] at hresp
      cases hresp
      refine ⟨node, hnode, hfinds, fun ops' hops' hstays hdr hfollows => ?_⟩
      exact leads_of_follows (runAll_agree hs hops') (runAll_mem hnode hstays) hfinds hfollows

/-- A server and a client. -/
def demoService : List (SocketOp Nat) :=
  [.tryAttach { demoSocket 0 with kind := .endpointReq, discoverable := true },
    .tryAttach (demoSocket 1)]

def demoQuery : SocketQuery := ⟨⟨.replicate 8 0⟩, .any, .endpointReq, false⟩

theorem query_answered_demo :
    let s := Runs.runAll exec .new demoService
    querySearcher demoQuery (socketHeaderIter s.sockets) = some ⟨none, 1⟩ ∧
      ∃ node ∈ s.sockets, demoQuery.Finds node := by
  have hops : Runs.Always exec Detached .new demoService := by decide +kernel
  have hanswer : querySearcher demoQuery
      (socketHeaderIter (Runs.runAll exec .new demoService).sockets) = some ⟨none, 1⟩ := by
    decide +kernel
  obtain ⟨node, hnode, hfinds, -⟩ := (query_answered demoService hops demoQuery).2 _ hanswer
  exact ⟨hanswer, node, hnode, hfinds⟩

end Ergot.Attach
