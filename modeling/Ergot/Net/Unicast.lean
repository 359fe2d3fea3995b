import Ergot.Lib.Runs
import Ergot.Net.Hop

/-!
# Unicast in a tree

A request reaches its addressee and no other node, and so does the response.

- `NetReady.arrive`: a frame that is taken from a link goes to the next link of its path,
  or to the socket it is for.
- `NetReady.flight`: from then on, every run ends with the frame in that socket. The
  induction is on the links that are left.
- `NetReady.unicast` adds the send, and `request_response` is a request and its response.
-/

namespace Ergot

open Runs

variable {ι κ : Type} {T : Topology ι} {horizon size : Nat} {q q' : InFlight ι} {v u p A B : ι}
  {hdr : Header} {link : Link ι} {e : Ends ι} {frames : List (Header × Payload)}

/-- Nothing waits anywhere. -/
def quiet {ι : Type} : InFlight ι := fun _ => []

theorem update_quiet [DecidableEq ι] (link : Link ι) : Function.update quiet link [] = quiet :=
  Function.update_eq_self link quiet

/-! ## Taking a frame from a link -/

section Pop

variable [DecidableEq ι]

/-- The port that a direction of a link leaves by. -/
theorem ProfileReady.port {prof : NodeProfile} (he : T.ends link = some e)
    (h : ProfileReady T horizon size q e.sender prof) :
    ∃ net own port, prof.port e.sendIdent = some port ∧ PortReady net own size (q link) port ∧
      ∀ frames port', PortReady net own size frames port' →
        ProfileReady T horizon size (Function.update q link frames) e.sender
          (prof.setPort e.sendIdent port') := by
  cases link with
  | up v =>
    obtain ⟨p, hp, rfl⟩ := Option.map_eq_some_iff.mp he
    cases h with
    | router h =>
      obtain ⟨port, hup, hready⟩ := h.upstream p hp
      refine ⟨_, _, port, ?_, hready, ?_⟩
      · simp only [NodeProfile.port, if_true, hup]
      · intro frames port' hport'
        simp only [NodeProfile.setPort, if_true]
        exact .router (h.setUpstream hport')
    | edge hp' hleaf h =>
      refine ⟨_, _, _, rfl, h, ?_⟩
      intro frames port' hport'
      refine .edge hp' hleaf ?_
      rw [Function.update_self]
      exact hport'
  | down u =>
    obtain ⟨p, hu, rfl⟩ := Option.map_eq_some_iff.mp he
    cases h with
    | router h =>
      obtain ⟨s, hs, -, hready⟩ := h.slot u hu
      refine ⟨_, _, s.port, ?_, hready, ?_⟩
      · simp only [NodeProfile.port, if_neg (T.slot_ne u), hs, Option.map_some]
      · intro frames port' hport'
        simp only [NodeProfile.setPort, if_neg (T.slot_ne u)]
        exact .router (h.setSlot hu hport')
    | edge _ hleaf _ => exact absurd hu (hleaf u)

variable {node : Node κ}

theorem NodeReady.pop_nil (he : T.ends link = some e)
    (h : NodeReady T horizon size q e.sender node) (hq : q link = []) :
    node.pop e.sendIdent = none := by
  obtain ⟨net, own, port, hport, hready, -⟩ := ProfileReady.port he h.ready
  simp only [Node.pop, hport, hready.frames, hq]

theorem NodeReady.pop_cons (he : T.ends link = some e)
    (h : NodeReady T horizon size q e.sender node) {frame : Header × Payload}
    (hq : q link = frame :: frames) :
    ∃ node', node.pop e.sendIdent = some (frame, node') ∧
      NodeReady T horizon size (Function.update q link frames) e.sender node' ∧
      node'.stack.sockets = node.stack.sockets := by
  obtain ⟨net, own, port, hport, hready, hset⟩ := ProfileReady.port he h.ready
  have hframes : port.sink.frames = frame :: frames := hready.frames.trans hq
  refine ⟨{ node with stack := { node.stack with
    profile := node.stack.profile.setPort e.sendIdent
      { port with sink := { port.sink with frames } } } }, ?_, ?_, rfl⟩
  · simp only [Node.pop, hport, hframes]
  · exact { profile := hset frames _ { hready with frames := rfl }
            slots := h.slots
            uplink := h.uplink }

end Pop

/-! ## Networks -/

/-- Every node is set up, and `q` waits on the links. -/
structure NetReady (T : Topology ι) (horizon size : Nat) (q : InFlight ι)
    (sockets : ι → List (Socket κ)) (n : Network ι κ) : Prop where
  node : ∀ v, NodeReady T horizon size q v (n v)
  sockets : ∀ v, (n v).stack.sockets = sockets v

namespace NetReady

variable [DecidableEq ι] {sockets : ι → List (Socket κ)} {n : Network ι κ} {node : Node κ}

theorem update_sockets (h : NetReady T horizon size q sockets n) {v : ι}
    {s : List (Socket κ)} (hs : s = (n v).stack.sockets) :
    Function.update sockets v s = sockets := by
  rw [hs, h.sockets v, Function.update_eq_self]

/-- A node changes, and the frames at one of its ports. -/
theorem set (h : NetReady T horizon size q sockets n) (he : T.ends link = some e)
    (hnode : NodeReady T horizon size (Function.update q link frames) e.sender node) :
    NetReady T horizon size (Function.update q link frames)
      (Function.update sockets e.sender node.stack.sockets) (Function.update n e.sender node) := by
  constructor
  case node =>
    intro w
    by_cases hw : w = e.sender
    · subst hw
      rw [Function.update_self]
      exact hnode
    · -- no other node sends on this link
      rw [Function.update_of_ne hw]
      refine (h.node w).congr ?_ ?_
      · refine Function.update_of_ne ?_ _ _
        rintro rfl
        obtain ⟨p, hp, rfl⟩ := Option.map_eq_some_iff.mp he
        exact hw rfl
      · intro u hu
        refine Function.update_of_ne ?_ _ _
        rintro rfl
        obtain ⟨p, hp, rfl⟩ := Option.map_eq_some_iff.mp he
        rw [hu] at hp
        exact hw (Option.some.inj hp)
  case sockets =>
    intro w
    by_cases hw : w = e.sender
    · subst hw
      rw [Function.update_self, Function.update_self]
    · rw [Function.update_of_ne hw, Function.update_of_ne hw]
      exact h.sockets w

/-- Only the profile changes. -/
theorem setProfile (h : NetReady T horizon size q sockets n) (he : T.ends link = some e)
    {prof : NodeProfile}
    (hprof : ProfileReady T horizon size (Function.update q link frames) e.sender prof) :
    NetReady T horizon size (Function.update q link frames) sockets
      (Function.update n e.sender
        { n e.sender with stack := ⟨(n e.sender).stack.sockets, prof⟩ }) := by
  have hnode : NodeReady T horizon size (Function.update q link frames) e.sender
      { n e.sender with stack := ⟨(n e.sender).stack.sockets, prof⟩ } :=
    { profile := hprof
      slots := (h.node e.sender).slots
      uplink := (h.node e.sender).uplink }
  have hset := h.set he hnode
  rw [h.update_sockets rfl] at hset
  exact hset

/-- A node changes, but no frames. -/
theorem setNode (h : NetReady T horizon size q sockets n)
    (hnode : NodeReady T horizon size q v node) :
    NetReady T horizon size q (Function.update sockets v node.stack.sockets)
      (Function.update n v node) := by
  constructor
  case node =>
    intro w
    by_cases hw : w = v
    · subst hw
      rw [Function.update_self]
      exact hnode
    · rw [Function.update_of_ne hw]
      exact h.node w
  case sockets =>
    intro w
    by_cases hw : w = v
    · subst hw
      rw [Function.update_self, Function.update_self]
    · rw [Function.update_of_ne hw, Function.update_of_ne hw]
      exact h.sockets w

variable [SocketVTable κ] {clock : FrameClock}

/-- Nothing arrives where nothing waits. -/
theorem deliver_nil (h : NetReady T horizon size q sockets n) (hq : q link = []) :
    n.deliver T link clock = none := by
  unfold Network.deliver
  split
  · rfl
  · next e he => rw [(h.node e.sender).pop_nil he hq]

theorem rest (h : NetReady T horizon size quiet sockets n) (n' : Network ι κ) :
    ¬ n.Step T horizon n' := by
  rintro ⟨link, clock, -, -, hstep⟩
  rw [h.deliver_nil rfl] at hstep
  cases hstep

/-- The only frame arrives. -/
theorem deliver_cons {k : Nat} {payload : Payload} {data : List UInt8}
    (h : NetReady T horizon size (Function.update quiet link [(hdr, payload)]) sockets n)
    (he : T.ends link = some e) (hfly : Flying T A B k hdr) (hbody : payload.body = .ok data) :
    ∃ n₁ frame, NetReady T horizon size quiet sockets n₁ ∧ frame.hdr = hdr ∧
      frame.body = .ok data ∧ ∀ clock, n.deliver T link clock =
        some (Function.update n₁ e.receiver ((n₁ e.receiver).receive e.recvIdent frame clock)) := by
  obtain ⟨node, hpop, hnode, hsockets⟩ :=
    (h.node e.sender).pop_cons he (Function.update_self link [(hdr, payload)] quiet)
  obtain ⟨frame, hwire, hhdr, hframe⟩ := hfly.wire hbody
  refine ⟨Function.update n e.sender node, frame, ?_, hhdr, hframe, ?_⟩
  · have hset := h.set he hnode
    rw [h.update_sockets hsockets, Function.update_idem, update_quiet] at hset
    exact hset
  · intro clock
    simp only [Network.deliver, he, hpop, hwire]

/-- The only step is the arrival of the only frame. -/
theorem step_then {frame : Header × Payload} {P : Network ι κ → Prop}
    {next : FrameClock → Network ι κ}
    (h : NetReady T horizon size (Function.update quiet link [frame]) sockets n)
    (hdeliver : ∀ clock, n.deliver T link clock = some (next clock)) (hpos : 0 < horizon)
    (hnext : ∀ clock, clock.check < horizon → clock.send.later < horizon →
      Settles (Network.Step T horizon) P (next clock)) :
    Settles (Network.Step T horizon) P n := by
  refine .go ⟨link, ⟨0, .at 0, .at 0⟩, hpos, hpos, hdeliver _⟩ ?_
  rintro n' ⟨link', clock, hcheck, hlater, hstep⟩
  by_cases hlink : link' = link
  · subst hlink
    rw [hdeliver] at hstep
    cases hstep
    exact hnext clock hcheck hlater
  · rw [h.deliver_nil (Function.update_of_ne hlink _ _)] at hstep
    cases hstep

/-! ### One hop -/

section Arrive

variable {k : Nat} {frame : BorrowedFrame} {data : List UInt8} {ident : UInt8}

/-- The frame goes up. -/
theorem arrive_up (h : NetReady T horizon size quiet sockets n) (hcame : Came T B v ident)
    (hp : T.parent v = some p) (hB : ¬ T.Below v B) (hfly : Flying T A B (k + 1) frame.hdr)
    (hbody : frame.body = .ok data) (hsize : data.length ≤ size) (hcheck : clock.check < horizon)
    (hlater : clock.send.later < horizon) :
    NetReady T horizon size (Function.update quiet (.up v) [(frame.hdr.hop, .raw data)]) sockets
      (Function.update n v ((n v).receive ident frame clock)) := by
  obtain ⟨hnode, hsockets⟩ := (h.node v).receive hcame hfly hbody hcheck fun prof hprof => by
    obtain ⟨prof', hres, hprof'⟩ := hprof.sendRaw_up hp hB rfl hcame hfly hsize hlater
    exact Sent.of_ok ⟨(n v).stack.sockets, prof⟩ hfly hres hprof'
  have he : T.ends (.up v) = some ⟨v, upstreamIdent, p, T.slot v⟩ := by
    rw [Topology.ends, hp, Option.map_some]
  have hset := h.set he hnode
  rw [h.update_sockets hsockets] at hset
  exact hset

/-- The frame goes down to the child `u`. -/
theorem arrive_down (h : NetReady T horizon size quiet sockets n) (hcame : Came T B v ident)
    (hu : T.parent u = some v) (hB : T.Below u B) (hfly : Flying T A B (k + 1) frame.hdr)
    (hbody : frame.body = .ok data) (hsize : data.length ≤ size) (hcheck : clock.check < horizon)
    (hlater : clock.send.later < horizon) :
    NetReady T horizon size (Function.update quiet (.down u) [(frame.hdr.hop, .raw data)]) sockets
      (Function.update n v ((n v).receive ident frame clock)) := by
  obtain ⟨hnode, hsockets⟩ := (h.node v).receive hcame hfly hbody hcheck fun prof hprof => by
    obtain ⟨prof', hres, hprof'⟩ := hprof.sendRaw_down hu hB rfl hcame hfly hsize hlater
    exact Sent.of_ok ⟨(n v).stack.sockets, prof⟩ hfly hres hprof'
  have he : T.ends (.down u) = some ⟨v, T.slot u, u, upstreamIdent⟩ := by
    rw [Topology.ends, hu, Option.map_some]
  have hset := h.set he hnode
  rw [h.update_sockets hsockets] at hset
  exact hset

/-- The frame is where it should be. -/
theorem arrive_here (h : NetReady T horizon size quiet sockets n) (hcame : Came T B B ident)
    (hfly : Flying T A B k frame.hdr) (hbody : frame.body = .ok data)
    (hsize : data.length ≤ size) (hcheck : clock.check < horizon)
    (hlater : clock.send.later < horizon)
    (hserves : Serves (sockets B) frame.hdr.dst.portId frame.hdr.kind) :
    NetReady T horizon size quiet
      (Function.update sockets B (handTo (sockets B) frame.hdr data))
      (Function.update n B ((n B).receive ident frame clock)) := by
  rw [← h.sockets B] at hserves ⊢
  have hsent : ∀ prof, ProfileReady T horizon size quiet B prof →
      Sent T horizon size quiet B (handTo (n B).stack.sockets frame.hdr data)
        ((⟨(n B).stack.sockets, prof⟩ : NetStack κ NodeProfile).sendRaw frame.hdr data ident
          clock.send) := by
    intro prof hprof
    obtain ⟨e, prof', he, hres, hprof'⟩ := hprof.sendRaw_here ident hfly hsize hlater
    exact Sent.of_local ⟨(n B).stack.sockets, prof⟩ hfly he hres hprof' hserves
  obtain ⟨hnode, hsockets⟩ := (h.node B).receive hcame hfly hbody hcheck hsent
  have hset := h.setNode hnode
  rw [hsockets] at hset
  exact hset

end Arrive

/-! ### All hops -/

/-- What becomes of a frame in flight: its addressee has it, with some hop count left. -/
def Landed (T : Topology ι) (horizon size : Nat) (sockets : ι → List (Socket κ)) (B : ι)
    (hdr : Header) (data : List UInt8) (n : Network ι κ) : Prop :=
  ∃ ttl, NetReady T horizon size quiet
    (Function.update sockets B (handTo (sockets B) { hdr with ttl } data)) n

theorem flight {k : Nat} {payload : Payload} {data : List UInt8}
    (h : NetReady T horizon size (Function.update quiet link [(hdr, payload)]) sockets n)
    (he : T.ends link = some e) (hpath : T.Path e.receiver B k)
    (hcame : Came T B e.receiver e.recvIdent) (hfly : Flying T A B k hdr)
    (hbody : payload.body = .ok data) (hsize : data.length ≤ size) (hpos : 0 < horizon)
    (hserves : Serves (sockets B) hdr.dst.portId hdr.kind) :
    Settles (Network.Step T horizon) (Landed T horizon size sockets B hdr data) n := by
  -- on the links that are left; every step takes the frame from `link`
  induction k generalizing link e n hdr payload with
  | zero =>
    obtain ⟨n₁, frame, h₁, rfl, hframe, hdeliver⟩ := h.deliver_cons he hfly hbody
    refine h.step_then hdeliver hpos ?_
    intro clock hcheck hlater
    cases hpath
    have hhere := h₁.arrive_here hcame hfly hframe hsize hcheck hlater hserves
    exact .rest hhere.rest ⟨_, hhere⟩
  | succ k ih =>
    obtain ⟨n₁, frame, h₁, rfl, hframe, hdeliver⟩ := h.deliver_cons he hfly hbody
    refine h.step_then hdeliver hpos ?_
    intro clock hcheck hlater
    show Settles _ (Landed T horizon size sockets B frame.hdr.hop data) _
    cases hpath with
    | up hp hB hrest =>
      have hnext := h₁.arrive_up hcame hp hB hfly hframe hsize hcheck hlater
      exact ih hnext (by rw [Topology.ends, hp, Option.map_some]) hrest (.slot hp hB) hfly.hop rfl
        hserves
    | down hc hB hrest =>
      have hnext := h₁.arrive_down hcame hc hB hfly hframe hsize hcheck hlater
      exact ih hnext (by rw [Topology.ends, hc, Option.map_some]) hrest (.upstream hc hB) hfly.hop
        rfl hserves

/-- A message from `A` lands at `B`, under a source address of `A`. -/
theorem unicast {k : Nat} {msg : Msg} {clock : Clock}
    (h : NetReady T horizon size quiet sockets n) (hAB : A ≠ B) (hpath : T.Path A B k)
    (hk : k ≤ 14) (hdr_ok : hdr.Unicast)
    (hsrc : hdr.src.networkId = 0 ∧ hdr.src.nodeId = 0 ∨ T.Assigned A hdr.src)
    (hdst : T.Assigned B hdr.dst) (httl : hdr.ttl = defaultTtl) (hsize : msg.bytes.length ≤ size)
    (hlater : clock.later < horizon) (hserves : Serves (sockets B) hdr.dst.portId hdr.kind) :
    (n.send A hdr msg clock).1 = .ok () ∧ ∃ src, T.Assigned A src ∧
      src.portId = hdr.src.portId ∧ (hdr.src.networkId ≠ 0 → src = hdr.src) ∧
      Settles (Network.Step T horizon) (Landed T horizon size sockets B { hdr with src } msg.bytes)
        (n.send A hdr msg clock).2 := by
  have hpos : 0 < horizon := Nat.lt_of_le_of_lt (Nat.zero_le _) hlater
  have httl0 : hdr.ttl ≠ 0 := by
    rw [httl]
    decide
  have hport : ∀ netId own, (hdr.hop.leave netId own).src.portId = hdr.src.portId := by
    intro netId own
    simp only [Header.leave]
    split <;> rfl
  have hkeep : ∀ netId own, hdr.src.networkId ≠ 0 →
      (hdr.hop.leave netId own).src = hdr.src := fun netId own hne => if_neg hne
  cases hpath with
  | nil => exact absurd rfl hAB
  | @up _ p _ k hp hB hrest =>
    obtain ⟨prof, hres, hprof⟩ :=
      (h.node A).ready.send_up hp hB rfl hdr_ok hdst httl0 hsize hlater
    have hsend := sendTy_of_ok hdr_ok hdst.networkId_ne hres
    have hfly : Flying T A B k (hdr.hop.leave (T.net A) edgeNodeId) :=
      .start hdr_ok hsrc (.uplink hp rfl rfl) hdst httl (by omega)
    have he : T.ends (.up A) = some ⟨A, upstreamIdent, p, T.slot A⟩ := by
      rw [Topology.ends, hp, Option.map_some]
    simp only [Network.send, hsend]
    refine ⟨trivial, _, hfly.src, hport _ _, hkeep _ _, ?_⟩
    have hset := h.setProfile he hprof
    exact hset.flight he hrest (.slot hp hB) hfly rfl hsize hpos hserves
  | @down _ c _ k hc hB hrest =>
    obtain ⟨prof, hres, hprof⟩ :=
      (h.node A).ready.send_down hc hB rfl hdr_ok hdst httl0 hsize hlater
    have hsend := sendTy_of_ok hdr_ok hdst.networkId_ne hres
    have hfly : Flying T A B k (hdr.hop.leave (T.net c) centralNodeId) :=
      .start hdr_ok hsrc (.slot hc rfl rfl) hdst httl (by omega)
    have he : T.ends (.down c) = some ⟨A, T.slot c, c, upstreamIdent⟩ := by
      rw [Topology.ends, hc, Option.map_some]
    simp only [Network.send, hsend]
    refine ⟨trivial, _, hfly.src, hport _ _, hkeep _ _, ?_⟩
    have hset := h.setProfile he hprof
    exact hset.flight he hrest (.upstream hc hB) hfly rfl hsize hpos hserves

end NetReady

/-! ## A request and its response -/

variable [DecidableEq ι] [SocketVTable κ]

/-- One message was handed to the socket at `v` that it is for, and nothing to any other
socket of any node. -/
def Delivered (n : Network ι κ) (v : ι) (hdr : Header) (data : List UInt8) (n' : Network ι κ) :
    Prop :=
  ∀ w, (n' w).stack.sockets =
    if w = v then handTo (n v).stack.sockets hdr data else (n w).stack.sockets

theorem Landed.delivered {n n' : Network ι κ} {data : List UInt8}
    (h : NetReady.Landed T horizon size (fun v => (n v).stack.sockets) B hdr data n') :
    ∃ ttl, Delivered n B { hdr with ttl } data n' := by
  obtain ⟨ttl, hready⟩ := h
  refine ⟨ttl, ?_⟩
  intro w
  rw [hready.sockets w, Function.update_apply]

theorem Landed.ready {sockets : ι → List (Socket κ)} {n : Network ι κ} {data : List UInt8}
    (h : NetReady.Landed T horizon size sockets B hdr data n) (v : ι) :
    NodeReady T horizon size quiet v (n v) := by
  obtain ⟨ttl, hready⟩ := h
  exact hready.node v

/-- `A` sends a request to an address of `B`, at most 14 links away, and `B` answers what it
got with `respond_owned`. Either message is handed to the socket it is for, once, and to no
other socket of any node. -/
theorem request_response (T : Topology ι) (horizon size : Nat) (n : Network ι κ)
    (hready : ∀ v, NodeReady T horizon size quiet v (n v)) {A B : ι} (hAB : A ≠ B) {k : Nat}
    (hk : k ≤ 14) (hlinks : T.Walk A B k) {dst : Address} (hdst : T.Assigned B dst)
    (hany : dst.portId ≠ 0) (hall : dst.portId ≠ 255)
    (hserver : Serves (n B).stack.sockets dst.portId .endpointReq) {port : UInt8}
    (hport : port ≠ 0) (hport' : port ≠ 255)
    (hclient : Serves (n A).stack.sockets port .endpointResp) (trafficClass : TrafficClass)
    {req resp : Msg} (hreq : req.bytes.length ≤ size) (hresp : resp.bytes.length ≤ size)
    {clock : Clock} (hlater : clock.later < horizon) :
    (n.send A (requestHdr port dst trafficClass) req clock).1 = .ok () ∧
      Settles (Network.Step T horizon) (fun n₁ => ∃ src ttl,
          T.Assigned A src ∧ src.portId = port ∧
          Delivered n B { requestHdr port dst trafficClass with src, ttl } req.bytes n₁ ∧
          ∀ clock' : Clock, clock'.later < horizon →
            let hdr := responseHdr { requestHdr port dst trafficClass with src, ttl }
            (n₁.send B hdr resp clock').1 = .ok () ∧
              Settles (Network.Step T horizon) (fun n₂ => ∃ ttl,
                Delivered n₁ A { hdr with ttl } resp.bytes n₂) (n₁.send B hdr resp clock').2)
        (n.send A (requestHdr port dst trafficClass) req clock).2 := by
  obtain ⟨k₁, hk₁, hpath⟩ := hlinks.path
  have h : NetReady T horizon size quiet (fun v => (n v).stack.sockets) n := ⟨hready, fun _ => rfl⟩
  have hreq_ok : (requestHdr port dst trafficClass).Unicast :=
    { any := hany, all := hall, anyAll := rfl, kind := nofun, valid := rfl }
  obtain ⟨hsent, src, hsrc, hsrcPort, -, hlands⟩ := h.unicast hAB hpath (by omega) hreq_ok
    (.inl ⟨rfl, rfl⟩) hdst rfl hreq hlater hserver
  refine ⟨hsent, hlands.mono ?_⟩
  intro n₁ hlanded
  obtain ⟨ttl, hdelivered⟩ := Landed.delivered hlanded
  refine ⟨src, ttl, hsrc, hsrcPort, hdelivered, ?_⟩
  intro clock' hlater'
  -- the way back
  obtain ⟨k₂, hk₂, hback⟩ := hlinks.symm.path
  have h₁ : NetReady T horizon size quiet (fun v => (n₁ v).stack.sockets) n₁ :=
    ⟨Landed.ready hlanded, fun _ => rfl⟩
  have hsrcPort : src.portId = port := hsrcPort
  have hresp_ok : (responseHdr { requestHdr port dst trafficClass with src, ttl }).Unicast :=
    { any := by rw [← hsrcPort] at hport; exact hport
      all := by rw [← hsrcPort] at hport'; exact hport'
      anyAll := rfl
      kind := nofun
      valid := rfl }
  have hclient' : Serves (n₁ A).stack.sockets src.portId .endpointResp := by
    rw [hdelivered A, if_neg hAB, hsrcPort]
    exact hclient
  obtain ⟨hsent', src', -, -, hsame, hlands'⟩ := h₁.unicast hAB.symm hback (by omega) hresp_ok
    (.inr hdst) hsrc rfl hresp hlater' hclient'
  rw [hsame hdst.networkId_ne] at hlands'
  exact ⟨hsent', hlands'.mono fun n₂ hlanded => Landed.delivered hlanded⟩

/-! ### A root, a bridge and an edge device -/

namespace Unicast

/-- Node 0 is a root; node 1 is on its slot 0, network 1, and node 2 on its slot 1,
network 2. -/
def demoTree : Topology (Fin 3) where
  parent v := if v.val = 0 then none else some ⟨0, by decide⟩
  depth v := if v.val = 0 then 0 else 1
  depth_parent := by decide
  slot v := if v.val = 2 then 1 else 0
  net v := if v.val = 2 then 2 else 1
  slot_ne := by decide
  slot_inj := by decide
  net_ne := by decide
  net_inj := by decide

def demoPort (netId : UInt16) (own other : UInt8) : EdgePort FrameQueue :=
  { sink := ⟨64, 1, []⟩, state := .active netId own, ownNodeId := own, otherNodeId := other }

def demoRoot : Router FrameQueue 2 1 1 :=
  { slots := ⟨[⟨0, demoPort 1 1 2, 1⟩, ⟨1, demoPort 2 1 2, 2⟩], by decide⟩
    seedRoutes := .new, nodeClaims := .new, rng := ⟨UInt64.ofNat, 0⟩, upstream := none
    identSpace := Router.two_slots }

/-- A bridge with nothing on its slots. -/
def demoBridge (seedRoutes : LeaseTable UInt16 SeedRoute 1) : Router FrameQueue 2 1 1 :=
  { slots := .empty, seedRoutes, nodeClaims := .new, rng := ⟨UInt64.ofNat, 0⟩
    upstream := some (demoPort 1 2 1), identSpace := Router.two_slots }

def demoSocket (kind : FrameKind) (port : UInt8) : Socket OwnedSocket :=
  { key := ⟨#v[0, 0, 0, 0, 0, 0, 0, 0]⟩, nash := none, kind, discoverable := true, port
    inner := ⟨0, fun bytes => some ⟨0, bytes⟩, 1, []⟩ }

/-- The bridge has a client socket on port 20, the edge device a server on port 9. -/
def demoNet (seedRoutes : LeaseTable UInt16 SeedRoute 1) : Network (Fin 3) OwnedSocket
  | 0 => ⟨⟨[], .router demoRoot⟩, fun ident => .router ⟨if ident = 1 then 2 else 1, false⟩⟩
  | 1 => ⟨⟨[demoSocket .endpointResp 20], .router (demoBridge seedRoutes)⟩,
      fun _ => .edge ⟨some 1, 2, false, true⟩⟩
  | 2 => ⟨⟨[demoSocket .endpointReq 9], .edge ⟨demoPort 2 2 1⟩⟩,
      fun _ => .edge ⟨some 2, 2, true, false⟩⟩

theorem demoPort_ready (netId : UInt16) (own other : UInt8) :
    PortReady netId own 40 [] (demoPort netId own other) :=
  { state := rfl
    own := rfl
    mtu := (by decide : 24 + 40 ≤ (64 : UInt16).toNat)
    room := Nat.one_pos
    frames := rfl }

/-- There is nothing below the two children. -/
theorem demoTree_flat : ∀ d c, demoTree.parent d = some c → demoTree.parent c = none := by decide

theorem demoNet_linked (seedRoutes : LeaseTable UInt16 SeedRoute 1)
    (hkeys : seedRoutes.keys.Nodup) (v : Fin 3) :
    NodeLinked demoTree 100 40 quiet v (demoNet seedRoutes v) := by
  match v with
  | 0 =>
    refine { profile := .router ?_, slots := ?_, uplink := nofun }
    · refine { upstream := nofun, slot := ?_, slots := ?_, keys := List.nodup_nil, seed := ?_ }
      · intro u hu
        match u with
        | 1 => exact ⟨_, rfl, rfl, demoPort_ready 1 1 2⟩
        | 2 => exact ⟨_, rfl, rfl, demoPort_ready 2 1 2⟩
      · decide
      · intro u p w hu hp hw
        have hroot := demoTree_flat w p hw
        obtain rfl : p = u := by
          by_contra hne
          obtain ⟨d, hd, -⟩ := hp.parent hne
          rw [hroot] at hd
          cases hd
        rw [hroot] at hu
        cases hu
    · intro u hu
      match u with
      | 1 => exact ⟨_, rfl, rfl⟩
      | 2 => exact ⟨_, rfl, rfl⟩
  | 1 =>
    have hleaf : ∀ u, demoTree.parent u ≠ some 1 := by decide
    refine { profile := .router ?_, slots := ?_, uplink := ?_ }
    · refine { upstream := ?_, slot := ?_, slots := nofun, keys := hkeys, seed := ?_ }
      · intro p _
        exact ⟨_, rfl, demoPort_ready 1 2 1⟩
      · intro u hu
        exact absurd hu (hleaf u)
      · intro u p w hu
        exact absurd hu (hleaf u)
    · intro u hu
      exact absurd hu (hleaf u)
    · intro p _
      exact ⟨_, rfl, rfl, rfl⟩
  | 2 =>
    have hleaf : ∀ u, demoTree.parent u ≠ some 2 := by decide
    have hparent : demoTree.parent 2 = some 0 := rfl
    refine { profile := .edge hparent hleaf (demoPort_ready 2 2 1), slots := ?_, uplink := ?_ }
    · intro u hu
      exact absurd hu (hleaf u)
    · intro p _
      exact ⟨_, rfl, rfl, rfl⟩

theorem demoNet_ready (v : Fin 3) : NodeReady demoTree 100 40 quiet v (demoNet .new v) := by
  have h := demoNet_linked .new List.nodup_nil v
  refine { profile := ?_, slots := h.slots, uplink := h.uplink }
  have hprofile := h.profile
  match v with
  | 0 =>
    cases hprofile with
    | router hlinked => exact .router { hlinked with only := fun _ _ _ _ => rfl }
  | 1 =>
    cases hprofile with
    | router hlinked => exact .router { hlinked with only := fun _ _ _ _ => rfl }
  | 2 =>
    cases hprofile with
    | edge hp hleaf hport => exact .edge hp hleaf hport

/-- From the bridge to the edge device, up and down. -/
theorem demo_walk : demoTree.Walk 1 2 2 := by
  have h1 : demoTree.parent 1 = some 0 := rfl
  have h2 : demoTree.parent 2 = some 0 := rfl
  exact .up h1 (.down h2 (.nil 2))

/-- The bridge asks the edge device. -/
theorem request_response_demo :
    ((demoNet .new).send 1 (requestHdr 20 ⟨2, 2, 9⟩ .normal) ⟨0, [1]⟩ (.at 0)).1 = .ok () ∧
      Settles (Network.Step demoTree 100)
        (fun n₁ => ∃ src ttl, Delivered (demoNet .new) 2
          { requestHdr 20 ⟨2, 2, 9⟩ .normal with src, ttl } [1] n₁)
        ((demoNet .new).send 1 (requestHdr 20 ⟨2, 2, 9⟩ .normal) ⟨0, [1]⟩ (.at 0)).2 := by
  have hassigned : demoTree.Assigned 2 ⟨2, 2, 9⟩ := by
    have h2 : demoTree.parent 2 = some 0 := rfl
    exact .uplink h2 rfl rfl
  have h := @request_response (Fin 3) OwnedSocket _ _ demoTree 100 40 (demoNet .new) demoNet_ready
    1 2 (by decide) 2 (by decide) demo_walk ⟨2, 2, 9⟩ hassigned (by decide) (by decide)
    ⟨_, rfl, rfl⟩ 20 (by decide) (by decide) ⟨_, rfl, rfl⟩ .normal ⟨0, [1]⟩ ⟨0, [2]⟩ (by decide)
    (by decide) (.at 0) (by decide)
  refine ⟨h.1, h.2.mono ?_⟩
  rintro n₁ ⟨src, ttl, -, -, hdelivered, -⟩
  exact ⟨src, ttl, hdelivered⟩

/-- The bridge has a lease of network 2 that ended: a tombstone. -/
def staleRoutes : LeaseTable UInt16 SeedRoute 1 :=
  ⟨⟨[⟨2, 7, ⟨0, none⟩, .tombstone (secs 30)⟩], by decide⟩⟩

/-- Interfaces and seed routes reach every network below them, but the bridge has a seed
route for a network elsewhere: its request is refused, and nothing is delivered. -/
theorem stale_route_loses_request :
    (∀ v, NodeLinked demoTree 100 40 quiet v (demoNet staleRoutes v)) ∧ demoTree.Walk 1 2 2 ∧
      demoTree.Assigned 2 ⟨2, 2, 9⟩ ∧
      ((demoNet staleRoutes).send 1 (requestHdr 20 ⟨2, 2, 9⟩ .normal) ⟨0, [1]⟩ (.at 0)).1 =
        .error (.interfaceSend .noRouteToDest) ∧
      Settles (Network.Step demoTree 100)
        (fun n' => (n' 2).stack.sockets = (demoNet staleRoutes 2).stack.sockets)
        ((demoNet staleRoutes).send 1 (requestHdr 20 ⟨2, 2, 9⟩ .normal) ⟨0, [1]⟩ (.at 0)).2 := by
  have h2 : demoTree.parent 2 = some 0 := rfl
  refine ⟨demoNet_linked staleRoutes (by decide), demo_walk, .uplink h2 rfl rfl, rfl, ?_⟩
  refine .rest ?_ rfl
  rintro n' ⟨link, clock, -, -, hstep⟩
  cases link with
  | up v =>
    match v with
    | 0 => cases hstep
    | 1 => cases hstep
    | 2 => cases hstep
  | down v =>
    match v with
    | 0 => cases hstep
    | 1 => cases hstep
    | 2 => cases hstep

end Unicast

end Ergot
