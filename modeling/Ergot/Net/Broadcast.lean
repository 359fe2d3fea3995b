import Mathlib.Data.Fintype.Sum
import Ergot.Lib.Runs
import Ergot.Net.Spread
import Ergot.Net.Unicast

/-!
# Broadcast in a tree

A broadcast is offered once to every matching socket of every node that is at most 15 links
away, and crosses no link twice.

- `Topology.Away`: the direction of a link that leads away from the sender. Every other node has
  one of these to it, the last link of its path.
- `Spreading` is the invariant. A node has been reached if the log, which lists the deliveries,
  has a link to it; a copy waits on a link away from the sender if the one end has been reached,
  and the other has not.
- `broadcast_once`: every run ends, and where it ends the log has every link away from the
  sender once, and no other.
- `broadcast_not_flooded`: a broadcast to an address of the sender does not leave through the port
  that has it, and one from an address that nobody has claimed goes no further than the next node.
-/

namespace Ergot

open Runs

variable {ι κ : Type} {T : Topology ι} {size : Nat} {v u p A : ι} {link link' : Link ι}
  {e e' : Ends ι} {hdr hdr₀ : Header} {k k' : Nat}

/-! ## Away from the sender -/

namespace Topology

/-- A direction of a link that leads away from `A`. -/
def Away (T : Topology ι) (A : ι) : Link ι → Prop
  | .up v => T.Below v A
  | .down v => ¬ T.Below v A

/-- The path to `A` goes back along it. -/
theorem Away.path (h : T.Away A link) (he : T.ends link = some e) (hpath : T.Path e.sender A k) :
    T.Path e.receiver A (k + 1) := by
  cases link with
  | up v =>
    obtain ⟨p, hp, rfl⟩ := Option.map_eq_some_iff.mp he
    exact .down hp h hpath
  | down v =>
    obtain ⟨p, hp, rfl⟩ := Option.map_eq_some_iff.mp he
    exact .up hp h hpath

/-- Every other node has one of these to it. -/
theorem away_of_path (hpath : T.Path v A (k + 1)) :
    ∃ link e, T.ends link = some e ∧ e.receiver = v ∧ T.Away A link ∧ T.Path e.sender A k := by
  cases hpath with
  | @up _ p _ _ hp hnot hrest =>
    exact ⟨.down v, ⟨p, T.slot v, v, upstreamIdent⟩, by rw [ends, hp, Option.map_some], rfl, hnot,
      hrest⟩
  | @down _ c _ _ hc hbelow hrest =>
    exact ⟨.up c, ⟨c, upstreamIdent, v, T.slot c⟩, by rw [ends, hc, Option.map_some], rfl, hbelow,
      hrest⟩

/-- And no more than one. -/
theorem Away.unique (h : T.Away A link) (he : T.ends link = some e) (h' : T.Away A link')
    (he' : T.ends link' = some e') (hsame : e'.receiver = e.receiver) : link' = link := by
  cases link with
  | up c =>
    obtain ⟨p, hc, rfl⟩ := Option.map_eq_some_iff.mp he
    cases link' with
    | up c' =>
      obtain ⟨p', hc', rfl⟩ := Option.map_eq_some_iff.mp he'
      cases (show p' = p from hsame)
      rw [Forest.Below.child_unique hc' hc h' h]
    | down v =>
      obtain ⟨p', hv, rfl⟩ := Option.map_eq_some_iff.mp he'
      cases (show v = p from hsame)
      exact absurd (Forest.Below.head hc h) h'
  | down v =>
    obtain ⟨p, hv, rfl⟩ := Option.map_eq_some_iff.mp he
    cases link' with
    | up c' =>
      obtain ⟨p', hc', rfl⟩ := Option.map_eq_some_iff.mp he'
      cases (show p' = v from hsame)
      exact absurd (Forest.Below.head hc' h') h
    | down v' =>
      exact congrArg Link.down (by
        obtain ⟨p', hv', rfl⟩ := Option.map_eq_some_iff.mp he'
        exact hsame)

/-- None leads to the sender. -/
theorem Away.receiver_ne (h : T.Away A link) (he : T.ends link = some e) : e.receiver ≠ A := by
  cases link with
  | up v =>
    obtain ⟨p, hp, rfl⟩ := Option.map_eq_some_iff.mp he
    rintro rfl
    exact Forest.not_below_parent hp h
  | down v =>
    obtain ⟨p, hp, rfl⟩ := Option.map_eq_some_iff.mp he
    rintro rfl
    exact h (Forest.Below.refl _)

/-- All links of the sender do. -/
theorem away_of_sender (he : T.ends link = some e) (hA : e.sender = A) : T.Away A link := by
  cases link with
  | up v =>
    obtain ⟨p, hp, rfl⟩ := Option.map_eq_some_iff.mp he
    cases hA
    exact Forest.Below.refl _
  | down v =>
    obtain ⟨p, hp, rfl⟩ := Option.map_eq_some_iff.mp he
    cases hA
    exact Forest.not_below_parent hp

/-- So do the links of another node, but for the way back. -/
theorem Away.out (h : T.Away A link) (he : T.ends link = some e) (he' : T.ends link' = some e')
    (hsender : e'.sender = e.receiver) : T.Away A link' ↔ e'.sendIdent ≠ e.recvIdent := by
  cases link with
  | up c =>
    obtain ⟨p, hc, rfl⟩ := Option.map_eq_some_iff.mp he
    cases link' with
    | up v =>
      obtain ⟨p', hp', rfl⟩ := Option.map_eq_some_iff.mp he'
      cases (show v = p from hsender)
      exact iff_of_true (Forest.Below.head hc h) (T.slot_ne c).symm
    | down u =>
      obtain ⟨p', hu, rfl⟩ := Option.map_eq_some_iff.mp he'
      cases (show p' = p from hsender)
      constructor
      · intro haway hslot
        cases T.slot_inj hu hc hslot
        exact haway h
      · intro hslot hbelow
        cases Forest.Below.child_unique hu hc hbelow h
        exact hslot rfl
  | down v =>
    obtain ⟨p, hv, rfl⟩ := Option.map_eq_some_iff.mp he
    cases link' with
    | up v' =>
      obtain ⟨p', hp', rfl⟩ := Option.map_eq_some_iff.mp he'
      cases (show v' = v from hsender)
      exact iff_of_false h fun hne => hne rfl
    | down u =>
      obtain ⟨p', hu, rfl⟩ := Option.map_eq_some_iff.mp he'
      cases (show p' = v from hsender)
      exact iff_of_true (fun hbelow => h (Forest.Below.head hu hbelow)) (T.slot_ne u)

theorem sender_ne_receiver (he : T.ends link = some e) : e.sender ≠ e.receiver :=
  fun heq => (away_of_sender he heq).receiver_ne he rfl

end Topology

/-! ## Copies -/

/-- A node id of either end of a link. -/
def Address.AtEnd (a : Address) : Prop := a.nodeId = centralNodeId ∨ a.nodeId = edgeNodeId

/-- Where the network of an address is left out, both ends of a link have it. -/
theorem Topology.Assigned.atEnd {a a' : Address} (h : T.Assigned v a)
    (hnet : a'.networkId = a.networkId) (hend : a'.AtEnd) : ∃ B, T.Assigned B a' := by
  cases h with
  | uplink hp hnet' _ =>
    rcases hend with hnode | hnode
    · exact ⟨_, .slot hp (hnet.trans hnet') hnode⟩
    · exact ⟨_, .uplink hp (hnet.trans hnet') hnode⟩
  | slot hu hnet' _ =>
    rcases hend with hnode | hnode
    · exact ⟨_, .slot hu (hnet.trans hnet') hnode⟩
    · exact ⟨_, .uplink hu (hnet.trans hnet') hnode⟩

/-- A broadcast that leaves a node: its source is not set yet, or is an address of some node, with
the network or without; and its destination is no address of the node. -/
structure Header.Originates (T : Topology ι) (A : ι) (hdr : Header) : Prop
    extends hdr.Broadcast where
  src : hdr.src.networkId = 0 ∧ (hdr.src.nodeId = 0 ∨ hdr.src.AtEnd) ∨ ∃ B, T.Assigned B hdr.src
  dst : ¬ T.Assigned A hdr.dst
  ttl : hdr.ttl = defaultTtl

/-- The header of `broadcast_with_src_port`. -/
def topicHdr (port : UInt8) (apdx : AnyAllAppendix) (trafficClass : TrafficClass) : Header :=
  { src := ⟨0, 0, port⟩, dst := ⟨0, 0, 255⟩, anyAll := some apdx, kind := .topicMsg, trafficClass,
    ttl := defaultTtl }

theorem topicHdr_originates (port : UInt8) (apdx : AnyAllAppendix) (trafficClass : TrafficClass) :
    (topicHdr port apdx trafficClass).Originates T A where
  all := rfl
  key := rfl
  kind := nofun
  valid := rfl
  src := .inl ⟨rfl, .inl rfl⟩
  dst := fun h => h.networkId_ne rfl
  ttl := rfl

/-- The header of the copy that waits on the `k`-th link from the sender. -/
structure Copied (T : Topology ι) (A : ι) (hdr₀ : Header) (link : Link ι) (k : Nat)
    (hdr : Header) : Prop where
  key : hdr.anyAll = hdr₀.anyAll
  kind : hdr.kind = hdr₀.kind
  trafficClass : hdr.trafficClass = hdr₀.trafficClass
  src : ∃ B, T.Assigned B hdr.src
  srcOwn : hdr₀.src.networkId = 0 → hdr₀.src.nodeId = 0 → T.Assigned A hdr.src
  srcKept : hdr₀.src.networkId ≠ 0 → hdr.src = hdr₀.src
  srcPort : hdr.src.portId = hdr₀.src.portId
  dst : hdr.dst.networkId = T.net link.child
  dstPort : hdr.dst.portId = 255
  ttl : hdr.ttl.toNat + k = maxTtl.toNat

namespace Copied

theorem broadcast (h : Copied T A hdr₀ link k hdr) (hdr_ok : hdr₀.Broadcast) : hdr.Broadcast where
  all := h.dstPort
  key := by rw [h.key]; exact hdr_ok.key
  kind := by rw [h.kind]; exact hdr_ok.kind
  valid := by rw [h.kind]; exact hdr_ok.valid

theorem toNat_hop (httl : hdr.ttl ≠ 0) : hdr.hop.ttl.toNat + 1 = hdr.ttl.toNat := by
  have hone : 1 ≤ hdr.ttl := by
    rw [UInt8.le_iff_toNat_le]
    exact Nat.one_le_iff_ne_zero.mpr fun h => httl (UInt8.toNat_inj.mp h)
  show (hdr.ttl - 1).toNat + 1 = _
  rw [UInt8.toNat_sub_of_le _ _ hone]
  exact Nat.sub_add_cancel (UInt8.le_iff_toNat_le.mp hone)

theorem copyTo_src {net : UInt16} {own other : UInt8} (hne : hdr.src.networkId ≠ 0) :
    (hdr.hop.copyTo net own other).src = hdr.src := if_neg hne

theorem copyTo_src_stamped {net : UInt16} {own other : UInt8} (hnet : hdr.src.networkId = 0) :
    (hdr.hop.copyTo net own other).src =
      ⟨net, if hdr.src.nodeId = 0 then own else hdr.src.nodeId, hdr.src.portId⟩ := if_pos hnet

theorem copyTo_srcPort (hdr : Header) (net : UInt16) (own other : UInt8) :
    (hdr.hop.copyTo net own other).src.portId = hdr.src.portId := by
  unfold Header.copyTo Header.leave
  dsimp only
  split <;> rfl

/-- On a link of the sender. -/
theorem first (h : hdr₀.Originates T A) {own other : UInt8}
    (hown : ∀ portId, T.Assigned A ⟨T.net link.child, own, portId⟩) :
    Copied T A hdr₀ link 1 (hdr₀.hop.copyTo (T.net link.child) own other) where
  key := rfl
  kind := rfl
  trafficClass := rfl
  src := by
    rcases h.src with ⟨hnet, hnode⟩ | ⟨B, hsrc⟩
    · rw [copyTo_src_stamped hnet]
      split
      · exact ⟨A, hown _⟩
      · next hset => exact (hown hdr₀.src.portId).atEnd rfl (hnode.resolve_left hset)
    · rw [copyTo_src hsrc.networkId_ne]
      exact ⟨B, hsrc⟩
  srcOwn hnet hnode := by
    rw [copyTo_src_stamped hnet, if_pos hnode]
    exact hown _
  srcKept hnet := copyTo_src hnet
  srcPort := copyTo_srcPort hdr₀ _ own other
  dst := rfl
  dstPort := rfl
  ttl := by
    have hne : hdr₀.ttl ≠ 0 := by rw [h.ttl]; decide
    have hhop := toNat_hop hne
    rw [h.ttl] at hhop
    exact hhop

/-- On a link of a node that passes the broadcast on. -/
theorem next (h : Copied T A hdr₀ link k hdr) (httl : hdr.ttl ≠ 0) (own other : UInt8) :
    Copied T A hdr₀ link' (k + 1) (hdr.hop.copyTo (T.net link'.child) own other) where
  key := h.key
  kind := h.kind
  trafficClass := h.trafficClass
  src := by
    obtain ⟨B, hsrc⟩ := h.src
    rw [copyTo_src hsrc.networkId_ne]
    exact ⟨B, hsrc⟩
  srcOwn hnet hnode := by
    have hsrc := h.srcOwn hnet hnode
    rw [copyTo_src hsrc.networkId_ne]
    exact hsrc
  srcKept hnet := by
    have hsrc := h.srcKept hnet
    rwa [copyTo_src (hsrc ▸ hnet)]
  srcPort := (copyTo_srcPort hdr _ own other).trans h.srcPort
  dst := rfl
  dstPort := rfl
  ttl := by
    have hhop := toNat_hop httl
    have httl' := h.ttl
    show hdr.hop.ttl.toNat + (k + 1) = _
    omega

theorem wire (h : Copied T A hdr₀ link k hdr) (hdr_ok : hdr₀.Broadcast) {payload : Payload}
    {data : List UInt8} (hbody : payload.body = .ok data) :
    ∃ frame : BorrowedFrame, Ergot.wire (hdr, payload) = some frame ∧ frame.hdr = hdr ∧
      frame.body = .ok data := by
  have hok := h.broadcast hdr_ok
  have hwf : FrameWf hdr payload.body := by
    rw [hbody]
    exact
      { err_kind := ⟨fun hk => absurd hk hok.kind, by simp⟩
        err_port := fun hk => absurd hk hok.kind
        appendix := by simp [hok.key, hok.kind, hok.all]
        ttl := UInt8.le_iff_toNat_le.mpr (by have := h.ttl; omega)
        kind := hok.valid }
  exact ⟨_, wire_of_wf hwf, rfl, hbody⟩

/-- It matches the same sockets. -/
theorem hears (h : Copied T A hdr₀ link k hdr) (s : Socket κ) : s.hears hdr = s.hears hdr₀ := by
  simp only [Socket.hears, allMatches, h.key, h.kind]

end Copied

/-! ## Reach -/

variable {log : List (Link ι)}

/-- A node that has the broadcast. -/
def Reached (T : Topology ι) (A : ι) (log : List (Link ι)) (v : ι) : Prop :=
  v = A ∨ ∃ link ∈ log, ∃ e, T.ends link = some e ∧ e.receiver = v

/-- A link away from the sender, that is the `k + 1`-th on its path and in reach. -/
structure InReach (T : Topology ι) (A : ι) (link : Link ι) (e : Ends ι) (k : Nat) : Prop where
  ends : T.ends link = some e
  away : T.Away A link
  path : T.Path e.sender A k
  lt : k < maxTtl.toNat

/-- A link in reach that a copy waits on: it has got to the one end, and not to the other. -/
structure Waiting (T : Topology ι) (A : ι) (log : List (Link ι)) (link : Link ι) (e : Ends ι)
    (k : Nat) : Prop extends InReach T A link e k where
  reached : Reached T A log e.sender
  fresh : link ∉ log

theorem Reached.append (h : Reached T A log v) : Reached T A (log ++ [link]) v :=
  h.imp_right fun ⟨l, hl, he⟩ => ⟨l, List.mem_append_left _ hl, he⟩

theorem reached_append (he : T.ends link = some e) :
    Reached T A (log ++ [link]) v ↔ Reached T A log v ∨ v = e.receiver := by
  constructor
  · rintro (hA | ⟨l, hl, e', he', hv⟩)
    · exact .inl (.inl hA)
    · rcases List.mem_append.mp hl with hl | hl
      · exact .inl (.inr ⟨l, hl, e', he', hv⟩)
      · cases List.mem_singleton.mp hl
        rw [he] at he'
        cases he'
        exact .inr hv.symm
  · rintro (h | rfl)
    · exact h.append
    · exact .inr ⟨link, List.mem_append_right _ (List.mem_singleton_self _), e, he, rfl⟩

namespace InReach

theorem receiver (h : InReach T A link e k) : T.Path e.receiver A (k + 1) :=
  h.away.path h.ends h.path

/-- The links behind one in reach. -/
theorem next (h : InReach T A link e k) (he' : T.ends link' = some e')
    (hsender : e'.sender = e.receiver) :
    InReach T A link' e' k' ↔ e'.sendIdent ≠ e.recvIdent ∧ k' = k + 1 ∧ k + 1 < maxTtl.toNat := by
  have hpath := h.receiver
  rw [← hsender] at hpath
  constructor
  · intro h'
    have hk := h'.path.unique hpath
    exact ⟨(h.away.out h.ends he' hsender).mp h'.away, hk, hk ▸ h'.lt⟩
  · rintro ⟨hident, rfl, hlt⟩
    exact ⟨he', (h.away.out h.ends he' hsender).mpr hident, hpath, hlt⟩

end InReach

/-- The other links of the network wait as they did. -/
theorem waiting_append (he : T.ends link = some e) (hsender : e'.sender ≠ e.receiver)
    (hlink : link' ≠ link) :
    Waiting T A (log ++ [link]) link' e' k ↔ Waiting T A log link' e' k := by
  constructor
  · rintro ⟨hreach, hr, hf⟩
    refine ⟨hreach, ?_, fun hmem => hf (List.mem_append_left _ hmem)⟩
    exact ((reached_append he).mp hr).resolve_right hsender
  · rintro ⟨hreach, hr, hf⟩
    refine ⟨hreach, hr.append, fun hmem => ?_⟩
    rcases List.mem_append.mp hmem with hmem | hmem
    · exact hf hmem
    · exact hlink (List.mem_singleton.mp hmem)

/-! ## Arrivals -/

/-- A frame of either direction of the link of a node. -/
theorem NodeJoined.receive [SocketVTable κ] {node : Node κ} {frame : BorrowedFrame}
    {data : List UInt8} (h : NodeJoined T size e.receiver node) (he : T.ends link = some e)
    (hdr_ok : frame.hdr.Broadcast) (hsrc : T.Assigned A frame.hdr.src)
    (hdst : frame.hdr.dst.networkId = T.net link.child) (hbody : frame.body = .ok data)
    (hsize : data.length ≤ size) (clock : FrameClock) :
    PassedOn T size e.receiver frame.hdr data e.recvIdent node
      (node.receive e.recvIdent frame clock) := by
  cases link with
  | up v =>
    obtain ⟨p, hp, rfl⟩ := Option.map_eq_some_iff.mp he
    exact h.receive_slot hp hdr_ok hsrc hdst hbody hsize clock
  | down v =>
    obtain ⟨p, hp, rfl⟩ := Option.map_eq_some_iff.mp he
    exact h.receive_up hp hdr_ok hsrc hdst hbody hsize clock

variable [SocketVTable κ] {n n' n₀ : Network ι κ} {form : MsgSend} {msg : Msg}

/-- What the arrival of a copy changes: the one end has it no longer, and the other passes it
on. -/
structure Arrived (T : Topology ι) (size : Nat) (link : Link ι) (e : Ends ι) (hdr : Header)
    (data : List UInt8) (n n' : Network ι κ) : Prop where
  joined : ∀ v, NodeJoined T size v (n' v)
  passed : PassedOn T size e.receiver hdr data e.recvIdent (n e.receiver) (n' e.receiver)
  sockets : ∀ v, v ≠ e.receiver → (n' v).stack.sockets = (n v).stack.sockets
  taken : (n' e.sender).queue e.sendIdent = []
  queues : ∀ link' e', T.ends link' = some e' → e'.sender ≠ e.receiver → link' ≠ link →
    (n' e'.sender).queue e'.sendIdent = (n e'.sender).queue e'.sendIdent

/-! ## Runs -/

/-- A node sends a message of its own. -/
def Network.sendMsg [DecidableEq ι] (n : Network ι κ) (v : ι) (form : MsgSend) (hdr : Header)
    (msg : Msg) (clock : Clock) : Except NetStackSendError Unit × Network ι κ :=
  let (res, stack) := (n v).stack.sendVia hdr clock (form.path msg)
  (res, Function.update n v { n v with stack })

/-- The states of a broadcast: the network, and the links that a copy has crossed. -/
structure Spreading (T : Topology ι) (size : Nat) (A : ι) (form : MsgSend) (hdr : Header)
    (msg : Msg) (n₀ : Network ι κ) (s : Network ι κ × List (Link ι)) : Prop where
  joined : ∀ v, NodeJoined T size v (s.1 v)
  once : s.2.Nodup
  crossed : ∀ link ∈ s.2, ∃ e k, InReach T A link e k ∧ Reached T A s.2 e.sender
  waits : ∀ link e k, Waiting T A s.2 link e k → ∃ hdr' payload,
    (s.1 e.sender).queue e.sendIdent = [(hdr', payload)] ∧ payload.body = .ok msg.bytes ∧
      Copied T A hdr link (k + 1) hdr'
  idle : ∀ link e, T.ends link = some e → (∀ k, ¬ Waiting T A s.2 link e k) →
    (s.1 e.sender).queue e.sendIdent = []
  own : (s.1 A).stack.sockets =
    offerEach hdr ((form.path msg : SendPath UInt8).sskt hdr) (n₀ A).stack.sockets
  heard : ∀ link ∈ s.2, ∀ e k, InReach T A link e k → ∃ hdr', Copied T A hdr link (k + 1) hdr' ∧
    (s.1 e.receiver).stack.sockets =
      offerEach hdr (sendRawToSocket msg.bytes hdr') (n₀ e.receiver).stack.sockets
  deaf : ∀ v, ¬ Reached T A s.2 v → (s.1 v).stack.sockets = (n₀ v).stack.sockets

namespace Spreading

variable {s : Network ι κ × List (Link ι)}

/-- No link but the one that a copy waits on leads to the receiver. -/
theorem not_reached (h : Spreading T size A form hdr msg n₀ s) (hwait : Waiting T A s.2 link e k) :
    ¬ Reached T A s.2 e.receiver := by
  rintro (hA | ⟨link', hlink', e', he', hv⟩)
  · exact hwait.away.receiver_ne hwait.ends hA
  · obtain ⟨_, k', hreach, -⟩ := h.crossed link' hlink'
    cases hwait.away.unique hwait.ends hreach.away he' hv
    exact hwait.fresh hlink'

/-- The links of a node that has not been reached are new, and nothing waits there. -/
theorem untouched (h : Spreading T size A form hdr msg n₀ s) (hnot : ¬ Reached T A s.2 e.sender)
    (he : T.ends link = some e) : link ∉ s.2 ∧ (s.1 e.sender).queue e.sendIdent = [] := by
  refine ⟨fun hmem => ?_, h.idle link e he fun k hwait => hnot hwait.reached⟩
  obtain ⟨e', k, hreach, hr⟩ := h.crossed link hmem
  have hends := hreach.ends
  rw [he] at hends
  cases hends
  exact hnot hr

/-- A copy arrives. -/
theorem arrived (h : Spreading T size A form hdr msg n₀ (n, log)) (hwait : Waiting T A log link e k)
    {hdr' : Header} (hcopy : Copied T A hdr link (k + 1) hdr')
    (harr : Arrived T size link e hdr' msg.bytes n n') :
    Spreading T size A form hdr msg n₀ (n', log ++ [link]) := by
  have hfirst : ¬ Reached T A log e.receiver := h.not_reached hwait
  have hleft : hdr'.ttl ≠ 0 ↔ k + 1 < maxTtl.toNat := by
    have httl := hcopy.ttl
    rw [Ne, ← UInt8.toNat_inj]
    show ¬ hdr'.ttl.toNat = 0 ↔ _
    omega
  constructor
  case joined => exact harr.joined
  case once =>
    exact List.nodup_append.mpr ⟨h.once, List.nodup_singleton _, fun a ha b hb heq =>
      hwait.fresh (List.mem_singleton.mp hb ▸ heq ▸ ha)⟩
  case crossed =>
    intro link' hmem
    rcases List.mem_append.mp hmem with hmem | hmem
    · obtain ⟨e', k', hreach, hr⟩ := h.crossed link' hmem
      exact ⟨e', k', hreach, hr.append⟩
    · cases List.mem_singleton.mp hmem
      exact ⟨e, k, hwait.toInReach, hwait.reached.append⟩
  case waits =>
    intro link' e' k' hw
    by_cases hsender : e'.sender = e.receiver
    · obtain ⟨hident, rfl, hlt⟩ := (hwait.toInReach.next hw.ends hsender).mp hw.toInReach
      have httl := hleft.mpr hlt
      obtain ⟨own, other, -, hqueue⟩ := (harr.passed.floods httl).sent link' e' hw.ends hsender
        (fun heq => hident (Option.some.inj heq).symm)
        (hsender ▸ (h.untouched (hsender ▸ hfirst) hw.ends).2)
      rw [← hsender] at hqueue
      exact ⟨_, .raw msg.bytes, hqueue, rfl, hcopy.next httl own other⟩
    · have hlink : link' ≠ link := by
        rintro rfl
        exact hw.fresh (List.mem_append_right _ (List.mem_singleton_self _))
      obtain ⟨hdr'', payload, hqueue, hrest⟩ := h.waits link' e' k'
        ((waiting_append hwait.ends hsender hlink).mp hw)
      exact ⟨hdr'', payload, (harr.queues link' e' hw.ends hsender hlink).trans hqueue, hrest⟩
  case idle =>
    intro link' e' he' hidle
    by_cases hsender : e'.sender = e.receiver
    · obtain ⟨hfresh, hbefore⟩ := h.untouched (hsender ▸ hfirst) he'
      have hlink : link' ≠ link := by
        rintro rfl
        rw [hwait.ends] at he'
        cases he'
        exact Topology.sender_ne_receiver hwait.ends hsender
      show (Node.queue (n' e'.sender) _) = _
      rw [hsender] at hbefore ⊢
      by_cases httl : hdr'.ttl = 0
      · exact (harr.passed.expired httl _).trans hbefore
      · -- then it is the link that the copy came in by
        have hback : e'.sendIdent = e.recvIdent := by
          by_contra hident
          exact hidle (k + 1) ⟨(hwait.toInReach.next he' hsender).mpr
            ⟨hident, rfl, hleft.mp httl⟩, (reached_append hwait.ends).mpr (.inr hsender),
            fun hmem => (List.mem_append.mp hmem).elim hfresh fun hmem =>
              hlink (List.mem_singleton.mp hmem)⟩
        rw [hback] at hbefore ⊢
        exact ((harr.passed.floods httl).kept _ rfl).trans hbefore
    · by_cases hlink : link' = link
      · rw [hlink, hwait.ends] at he'
        cases he'
        exact harr.taken
      · have hbefore := h.idle link' e' he' fun k' hw =>
          hidle k' ((waiting_append hwait.ends hsender hlink).mpr hw)
        exact (harr.queues link' e' he' hsender hlink).trans hbefore
  case own =>
    have hA : A ≠ e.receiver := (hwait.away.receiver_ne hwait.ends).symm
    exact (harr.sockets A hA).trans h.own
  case heard =>
    intro link' hmem e' k' hreach
    rcases List.mem_append.mp hmem with hmem | hmem
    · obtain ⟨hdr'', hcopy', hsockets⟩ := h.heard link' hmem e' k' hreach
      refine ⟨hdr'', hcopy', (harr.sockets _ fun hv => ?_).trans hsockets⟩
      exact hfirst (.inr ⟨link', hmem, e', hreach.ends, hv⟩)
    · cases List.mem_singleton.mp hmem
      have hends := hreach.ends
      rw [hwait.ends] at hends
      cases hends
      cases hreach.path.unique hwait.path
      refine ⟨hdr', hcopy, ?_⟩
      have hsockets := harr.passed.sockets
      rw [h.deaf _ hfirst] at hsockets
      rw [hsockets]
      simp only [offerEach, hcopy.hears]
  case deaf =>
    intro v hv
    have hv' : v ≠ e.receiver := fun heq => hv ((reached_append hwait.ends).mpr (.inr heq))
    exact (harr.sockets v hv').trans (h.deaf v fun hr => hv hr.append)

end Spreading

/-! ## Steps -/

variable [DecidableEq ι]

theorem Network.deliver_none (he : T.ends link = some e)
    (hpop : (n e.sender).pop e.sendIdent = none) (clock : FrameClock) :
    n.deliver T link clock = none := by
  simp only [deliver, he, hpop]

theorem Network.deliver_nil (h : ∀ v, NodeJoined T size v (n v)) (he : T.ends link = some e)
    (hq : (n e.sender).queue e.sendIdent = []) (clock : FrameClock) :
    n.deliver T link clock = none :=
  deliver_none he ((h e.sender).pop_nil he hq) clock

theorem Network.deliver_copy (h : ∀ v, NodeJoined T size v (n v)) (he : T.ends link = some e)
    (hdr_ok : hdr₀.Broadcast) (hcopy : Copied T A hdr₀ link k hdr) {payload : Payload}
    {data : List UInt8} (hbody : payload.body = .ok data) (hsize : data.length ≤ size)
    (hq : (n e.sender).queue e.sendIdent = [(hdr, payload)]) (clock : FrameClock) :
    ∃ n', n.deliver T link clock = some n' ∧ Arrived T size link e hdr data n n' := by
  obtain ⟨node, hpop, hnode, hsockets, htaken, hqueues⟩ := (h e.sender).pop_cons he hq
  obtain ⟨frame, hwire, rfl, hframe⟩ := hcopy.wire hdr_ok hbody
  obtain ⟨B, hsrc⟩ := hcopy.src
  have hne := Topology.sender_ne_receiver he
  have hpassed := (h e.receiver).receive he (hcopy.broadcast hdr_ok) hsrc hcopy.dst hframe
    hsize clock
  have hrecv : Function.update n e.sender node e.receiver = n e.receiver :=
    Function.update_of_ne hne.symm _ _
  refine ⟨Function.update (Function.update n e.sender node) e.receiver
    ((n e.receiver).receive e.recvIdent frame clock), ?_, ?_⟩
  · simp only [deliver, he, hpop, hwire, hrecv]
  have hself : Function.update (Function.update n e.sender node) e.receiver
      ((n e.receiver).receive e.recvIdent frame clock) e.receiver =
        (n e.receiver).receive e.recvIdent frame clock := Function.update_self _ _ _
  have hsender : Function.update (Function.update n e.sender node) e.receiver
      ((n e.receiver).receive e.recvIdent frame clock) e.sender = node := by
    rw [Function.update_of_ne hne, Function.update_self]
  have hother : ∀ v, v ≠ e.receiver → v ≠ e.sender →
      Function.update (Function.update n e.sender node) e.receiver
        ((n e.receiver).receive e.recvIdent frame clock) v = n v := by
    intro v hv hv'
    rw [Function.update_of_ne hv, Function.update_of_ne hv']
  constructor
  case joined =>
    intro v
    by_cases hv : v = e.receiver
    · rw [hv, hself]
      exact hpassed.joined
    · by_cases hv' : v = e.sender
      · rw [hv', hsender]
        exact hnode
      · rw [hother v hv hv']
        exact h v
  case passed =>
    rw [hself]
    exact hpassed
  case sockets =>
    intro v hv
    by_cases hv' : v = e.sender
    · rw [hv', hsender, hsockets]
    · rw [hother v hv hv']
  case taken => rw [hsender, htaken]
  case queues =>
    intro link' e' he' hv hlink
    by_cases hv' : e'.sender = e.sender
    · rw [hv', hsender]
      exact hqueues link' e' he' hv' hlink
    · rw [hother _ hv hv']

namespace Spreading

variable {s : Network ι κ × List (Link ι)}

/-- The sender puts a copy on each of its links. -/
theorem init (hn : ∀ v, NodeJoined T size v (n v))
    (hquiet : ∀ link e, T.ends link = some e → (n e.sender).queue e.sendIdent = [])
    (hdr_ok : hdr.Originates T A) (hsize : msg.bytes.length ≤ size) (clock : Clock) :
    Spreading T size A form hdr msg n ((n.sendMsg A form hdr msg clock).2, []) := by
  have httl : hdr.ttl ≠ 0 := by
    rw [hdr_ok.ttl]
    decide
  obtain ⟨hjoined, hsockets, hfloods⟩ :=
    (hn A).send hdr_ok.toBroadcast httl hsize hdr_ok.dst form clock
  have hself : (n.sendMsg A form hdr msg clock).2 A =
      { n A with stack := ((n A).stack.sendVia hdr clock (form.path msg)).2 } :=
    Function.update_self _ _ _
  have hother : ∀ v, v ≠ A → (n.sendMsg A form hdr msg clock).2 v = n v :=
    fun v hv => Function.update_of_ne hv _ _
  constructor
  case joined =>
    intro v
    by_cases hv : v = A
    · rw [hv]
      show NodeJoined T size A ((n.sendMsg A form hdr msg clock).2 A)
      rw [hself]
      exact hjoined
    · show NodeJoined T size v ((n.sendMsg A form hdr msg clock).2 v)
      rw [hother v hv]
      exact hn v
  case once => exact List.nodup_nil
  case crossed => exact nofun
  case waits =>
    intro link e k hwait
    have hA : e.sender = A := hwait.reached.resolve_right nofun
    have hk : k = 0 := by
      have hpath := hwait.path
      rw [hA] at hpath
      exact hpath.unique (.nil A)
    obtain ⟨own, other, hown, hqueue⟩ :=
      hfloods.sent link e hwait.ends hA nofun (hA ▸ hquiet link e hwait.ends)
    refine ⟨hdr.hop.copyTo (T.net link.child) own other, .ty msg, ?_, rfl, ?_⟩
    · show (Node.queue ((n.sendMsg A form hdr msg clock).2 e.sender) _) = _
      rw [hA, hself]
      exact hqueue
    · rw [hk]
      exact .first hdr_ok hown
  case idle =>
    intro link e he hidle
    have hA : e.sender ≠ A := by
      intro hA
      refine hidle 0 ⟨⟨he, Topology.away_of_sender he hA, ?_, by decide⟩, .inl hA, nofun⟩
      rw [hA]
      exact .nil A
    show (Node.queue ((n.sendMsg A form hdr msg clock).2 e.sender) _) = _
    rw [hother _ hA]
    exact hquiet link e he
  case own => exact (congrArg (fun node => node.stack.sockets) hself).trans hsockets
  case heard => exact nofun
  case deaf =>
    intro v hv
    show ((n.sendMsg A form hdr msg clock).2 v).stack.sockets = _
    rw [hother v fun hA => hv (.inl hA)]

end Spreading

/-- The first frame of a link arrives, and the log has it. -/
def Arrives (T : Topology ι) (s s' : Network ι κ × List (Link ι)) : Prop :=
  ∃ link clock, s.1.deliver T link clock = some s'.1 ∧ s'.2 = s.2 ++ [link]

instance [Fintype ι] : Fintype (Link ι) :=
  Fintype.ofEquiv (ι ⊕ ι)
    { toFun := Sum.elim .up .down
      invFun := fun | .up v => .inl v | .down v => .inr v
      left_inv := by rintro (v | v) <;> rfl
      right_inv := by rintro (v | v) <;> rfl }

/-- The end of a broadcast. -/
structure BroadcastDone (T : Topology ι) (A : ι) (form : MsgSend) (hdr : Header) (msg : Msg)
    (n₀ : Network ι κ) (s : Network ι κ × List (Link ι)) : Prop where
  quiet : ∀ link e, T.ends link = some e → (s.1 e.sender).queue e.sendIdent = []
  once : s.2.Nodup
  noReturn : ∀ v, .up v ∈ s.2 → .down v ∉ s.2
  crossed : ∀ link, link ∈ s.2 ↔ ∃ e k, T.ends link = some e ∧ T.Away A link ∧
    T.Walk A e.receiver k ∧ k ≤ maxTtl.toNat
  own : (s.1 A).stack.sockets =
    offerEach hdr ((form.path msg : SendPath UInt8).sskt hdr) (n₀ A).stack.sockets
  heard : ∀ v k, v ≠ A → T.Walk A v k → k ≤ maxTtl.toNat → ∃ link k' hdr',
    Copied T A hdr link k' hdr' ∧ (s.1 v).stack.sockets =
      offerEach hdr (sendRawToSocket msg.bytes hdr') (n₀ v).stack.sockets
  deaf : ∀ v, (∀ k, T.Walk A v k → maxTtl.toNat < k) →
    (s.1 v).stack.sockets = (n₀ v).stack.sockets

namespace Spreading

variable {s s' : Network ι κ × List (Link ι)}

theorem step (h : Spreading T size A form hdr msg n₀ s) (hdr_ok : hdr.Broadcast)
    (hsize : msg.bytes.length ≤ size) (hs : Arrives T s s') :
    Spreading T size A form hdr msg n₀ s' ∧ s'.2.length = s.2.length + 1 := by
  obtain ⟨n, log⟩ := s
  obtain ⟨n', log'⟩ := s'
  obtain ⟨link, clock, hdeliver, rfl⟩ := hs
  cases he : T.ends link with
  | none =>
    simp only [Network.deliver, he] at hdeliver
    cases hdeliver
  | some e =>
    by_cases hwait : ∃ k, Waiting T A log link e k
    · obtain ⟨k, hwait⟩ := hwait
      obtain ⟨hdr', payload, hqueue, hbody, hcopy⟩ := h.waits link e k hwait
      obtain ⟨n₁, hdeliver', harr⟩ :=
        Network.deliver_copy h.joined he hdr_ok hcopy hbody hsize hqueue clock
      cases hdeliver.symm.trans hdeliver'
      exact ⟨h.arrived hwait hcopy harr, List.length_append⟩
    · have hqueue := h.idle link e he fun k hw => hwait ⟨k, hw⟩
      cases hdeliver.symm.trans (Network.deliver_nil h.joined he hqueue clock)

/-- Where nothing waits, the broadcast got to all nodes in reach. -/
theorem reached_of_quiet (h : Spreading T size A form hdr msg n₀ s)
    (hquiet : ∀ link e, T.ends link = some e → (s.1 e.sender).queue e.sendIdent = [])
    (hpath : T.Path v A k) (hk : k ≤ maxTtl.toNat) :
    Reached T A s.2 v ∧ ∀ link e, InReach T A link e k → e.sender = v → link ∈ s.2 := by
  have hlast : ∀ {v k}, Reached T A s.2 v → ∀ link e, InReach T A link e k → e.sender = v →
      link ∈ s.2 := by
    intro v k hv link e hreach hsender
    by_contra hfresh
    obtain ⟨_, _, hqueue, -⟩ := h.waits link e k ⟨hreach, hsender ▸ hv, hfresh⟩
    rw [hquiet link e hreach.ends] at hqueue
    cases hqueue
  have hv : Reached T A s.2 v := by
    induction k generalizing v with
    | zero =>
      cases hpath
      exact .inl rfl
    | succ k ih =>
      obtain ⟨link, e, he, rfl, haway, hrest⟩ := Topology.away_of_path hpath
      have hmem := hlast (ih hrest (by omega)) link e ⟨he, haway, hrest, hk⟩ rfl
      exact .inr ⟨link, hmem, e, he, rfl⟩
  exact ⟨hv, hlast hv⟩

theorem done (h : Spreading T size A form hdr msg n₀ s) (hdr_ok : hdr.Broadcast)
    (hsize : msg.bytes.length ≤ size) (hrest : ∀ s', ¬ Arrives T s s') :
    BroadcastDone T A form hdr msg n₀ s := by
  have hquiet : ∀ link e, T.ends link = some e → (s.1 e.sender).queue e.sendIdent = [] := by
    intro link e he
    refine h.idle link e he fun k hwait => ?_
    obtain ⟨hdr', payload, hqueue, hbody, hcopy⟩ := h.waits link e k hwait
    obtain ⟨n', hdeliver, -⟩ :=
      Network.deliver_copy h.joined he hdr_ok hcopy hbody hsize hqueue ⟨0, .at 0, .at 0⟩
    exact hrest (n', s.2 ++ [link]) ⟨link, _, hdeliver, rfl⟩
  have hcrossed : ∀ link, link ∈ s.2 ↔ ∃ e k, InReach T A link e k := by
    intro link
    constructor
    · intro hmem
      obtain ⟨e, k, hreach, -⟩ := h.crossed link hmem
      exact ⟨e, k, hreach⟩
    · rintro ⟨e, k, hreach⟩
      exact (h.reached_of_quiet hquiet hreach.path hreach.lt.le).2 link e hreach rfl
  constructor
  case quiet => exact hquiet
  case once => exact h.once
  case noReturn =>
    intro v hup hdown
    obtain ⟨e, k, hreach, -⟩ := h.crossed _ hup
    obtain ⟨e', k', hreach', -⟩ := h.crossed _ hdown
    exact hreach'.away hreach.away
  case crossed =>
    intro link
    rw [hcrossed]
    constructor
    · rintro ⟨e, k, hreach⟩
      exact ⟨e, k + 1, hreach.ends, hreach.away, hreach.receiver.walk.symm, hreach.lt⟩
    · rintro ⟨e, k, he, haway, hwalk, hk⟩
      obtain ⟨k', hle, hpath⟩ := hwalk.symm.path
      cases k' with
      | zero =>
        exact absurd (show e.receiver = A by cases hpath; rfl) (haway.receiver_ne he)
      | succ k' =>
        obtain ⟨link', e', he', hrecv, haway', hrest'⟩ := Topology.away_of_path hpath
        cases haway.unique he haway' he' hrecv
        rw [he] at he'
        cases he'
        exact ⟨e, k', he, haway, hrest', by omega⟩
  case own => exact h.own
  case heard =>
    intro v k hv hwalk hk
    obtain ⟨k', hle, hpath⟩ := hwalk.symm.path
    rcases (h.reached_of_quiet hquiet hpath (hle.trans hk)).1 with hA | ⟨link, hmem, e, he, rfl⟩
    · exact absurd hA hv
    · obtain ⟨e', k'', hreach, -⟩ := h.crossed link hmem
      have hends := hreach.ends
      rw [he] at hends
      cases hends
      obtain ⟨hdr', hcopy, hsockets⟩ := h.heard link hmem e k'' hreach
      exact ⟨link, k'' + 1, hdr', hcopy, hsockets⟩
  case deaf =>
    intro v hfar
    refine h.deaf v ?_
    rintro (rfl | ⟨link, hmem, e, he, rfl⟩)
    · exact absurd (hfar 0 (.nil v)) (Nat.not_lt_zero _)
    · obtain ⟨e', k, hreach, -⟩ := h.crossed link hmem
      have hends := hreach.ends
      rw [he] at hends
      cases hends
      have := hfar _ hreach.receiver.walk.symm
      have := hreach.lt
      omega

end Spreading

/-- A broadcast of an owned or a borrowed message is offered to each matching socket of each node in
reach once, and crosses no link twice, or back. -/
theorem broadcast_once [Fintype ι] (hn : ∀ v, NodeJoined T size v (n v))
    (hquiet : ∀ link e, T.ends link = some e → (n e.sender).queue e.sendIdent = [])
    (hdr_ok : hdr.Originates T A) (hsize : msg.bytes.length ≤ size) (form : MsgSend)
    (clock : Clock) :
    Settles (Arrives T) (BroadcastDone T A form hdr msg n)
      ((n.sendMsg A form hdr msg clock).2, []) := by
  refine Settles.of_measure (I := Spreading T size A form hdr msg n)
    (fun s => Fintype.card (Link ι) - s.2.length) ?_ ?_ (.init hn hquiet hdr_ok hsize clock)
  · intro s s' h hs
    obtain ⟨h', hlen⟩ := h.step hdr_ok.toBroadcast hsize hs
    have hcard : s'.2.length ≤ Fintype.card (Link ι) := h'.once.length_le_card
    exact ⟨h', by omega⟩
  · intro s h hrest
    exact h.done hdr_ok.toBroadcast hsize hrest

/-! ### A topic message of a bridge -/

namespace Unicast

def demoTopicHdr : Header := topicHdr 0 ⟨(demoSocket .topicMsg 0).key, none⟩ .normal

/-- The bridge sends a topic message. -/
theorem broadcast_once_demo :
    Settles (Arrives demoTree) (BroadcastDone demoTree 1 .ty demoTopicHdr ⟨0, [1]⟩ (demoNet .new))
      (((demoNet .new).sendMsg 1 .ty demoTopicHdr ⟨0, [1]⟩ (.at 0)).2, []) := by
  have hjoined := fun v => (demoNet_linked .new List.nodup_nil v).joined
  refine broadcast_once hjoined ?_ (topicHdr_originates 0 _ .normal) (by decide) .ty (.at 0)
  have hcases : ∀ v : Fin 3, v = 0 ∨ v = 1 ∨ v = 2 := by decide
  intro link e he
  cases link with
  | up v =>
    rcases hcases v with rfl | rfl | rfl
    · cases he
    · cases he; rfl
    · cases he; rfl
  | down v =>
    rcases hcases v with rfl | rfl | rfl
    · cases he
    · cases he; rfl
    · cases he; rfl

/-- The edge device listens to the topic. -/
def demoListener : Network (Fin 3) OwnedSocket := fun v =>
  let node := demoNet .new v
  if v.val = 2 then
    { node with stack := { node.stack with sockets := [demoSocket .topicMsg 255] } }
  else node

/-- The bridge addresses the topic to itself. -/
def ownTopicHdr : Header := { demoTopicHdr with dst := ⟨1, 2, 255⟩ }

/-- The bridge gives a source on its network that nobody has claimed. -/
def strangerTopicHdr : Header := { demoTopicHdr with src := ⟨1, 3, 0⟩ }

/-- Nothing waits at the ports of the three nodes. -/
theorem demoTree_rests {s : Network (Fin 3) OwnedSocket × List (Link (Fin 3))}
    (h₁ : (s.1 1).pop upstreamIdent = none) (h₂ : (s.1 2).pop upstreamIdent = none)
    (h₀₁ : (s.1 0).pop 0 = none) (h₀₂ : (s.1 0).pop 1 = none)
    (s' : Network (Fin 3) OwnedSocket × List (Link (Fin 3))) : ¬ Arrives demoTree s s' := by
  rintro ⟨link, clock, hstep, -⟩
  cases link with
  | up v =>
    match v with
    | 0 => cases hstep
    | 1 => cases (Network.deliver_none rfl h₁ clock).symm.trans hstep
    | 2 => cases (Network.deliver_none rfl h₂ clock).symm.trans hstep
  | down v =>
    match v with
    | 0 => cases hstep
    | 1 => cases (Network.deliver_none rfl h₀₁ clock).symm.trans hstep
    | 2 => cases (Network.deliver_none rfl h₀₂ clock).symm.trans hstep

/-- The port to the root answers that the destination is the node itself; the root drops a frame
of a node that it does not know. Either send is a success, and the listener, two links away, hears
nothing. -/
theorem broadcast_not_flooded :
    (∀ v, NodeJoined demoTree 40 v (demoListener v)) ∧ demoTree.Walk 1 2 2 ∧
      ∀ hdr ∈ [ownTopicHdr, strangerTopicHdr], hdr.ttl = defaultTtl ∧
        (∃ s ∈ (demoListener 2).stack.sockets, s.hears hdr) ∧
        (demoListener.sendMsg 1 .ty hdr ⟨0, [1]⟩ (.at 0)).1 = .ok () ∧
        Settles (Arrives demoTree)
          (fun s => (s.1 2).stack.sockets = (demoListener 2).stack.sockets)
          ((demoListener.sendMsg 1 .ty hdr ⟨0, [1]⟩ (.at 0)).2, []) := by
  refine ⟨fun v => ?_, demo_walk, ?_⟩
  · have hjoined := (demoNet_linked .new List.nodup_nil v).joined
    match v with
    | 0 => exact hjoined
    | 1 => exact hjoined
    | 2 => exact hjoined.withStack hjoined.profile
  · intro hdr hmem
    rcases List.mem_pair.mp hmem with rfl | rfl
    · refine ⟨rfl, ⟨_, List.mem_singleton.mpr rfl, rfl⟩, rfl, ?_⟩
      exact .rest (demoTree_rests rfl rfl rfl rfl) rfl
    · refine ⟨rfl, ⟨_, List.mem_singleton.mpr rfl, rfl⟩, rfl, ?_⟩
      refine @Settles.go _ _ _ _ (_, _) ⟨.up 1, ⟨0, .at 0, .at 0⟩, rfl, rfl⟩ ?_
      rintro ⟨n, log⟩ ⟨link, clock, hstep, -⟩
      cases link with
      | up v =>
        match v with
        | 0 => cases hstep
        | 1 =>
          cases hstep
          exact .rest (demoTree_rests rfl rfl rfl rfl) rfl
        | 2 => cases hstep
      | down v =>
        match v with
        | 0 => cases hstep
        | 1 => cases hstep
        | 2 => cases hstep

end Unicast

end Ergot
