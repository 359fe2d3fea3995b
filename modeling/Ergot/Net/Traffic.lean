import Mathlib.Algebra.BigOperators.Group.Finset.Basic
import Mathlib.Algebra.Order.Sub.Basic
import Mathlib.Data.Multiset.OrderedMonoid
import Mathlib.Tactic.Abel
import Ergot.Net.Network
import Ergot.Stack.Emission
import Ergot.Stack.ErrorPath

/-!
# Traffic dies out

What becomes of the frames in a network of routers and edge devices that are joined in any
way, with loops or without, while their tables change as they may.

- `Node.forwards` and `Node.errors` are what a node puts into its queues when it receives a
  frame: copies of the frame, and a report about it. `Reception` says what they can be.
- `Wiring` says who hears what is taken out of a queue. A link may have any number of
  listeners.
- A copy has a smaller hop count than its original. A report starts with a fresh one, but
  there is only one of it, and none about a report. So a frame has a rank (`Header.rank`) that
  all its offspring are below, which bounds the work of every run (`traffic_dies_out`).
-/

namespace Ergot

open Offspring

/-! ## What a node sends -/

namespace NodeProfile

/-- The frames that wait at the interfaces of a node. -/
def frames : NodeProfile → Multiset (Header × Payload)
  | .router r => r.frames
  | .edge e => e.port.frames

theorem send_grows (p : NodeProfile) (hdr : Header) (msg : Msg) (clock : Clock) :
    Grows (Copy hdr) 256 p.frames (Profile.send p hdr msg clock).2.frames := by
  cases p with
  | router r => exact r.send_grows hdr msg clock
  | edge e =>
    show Grows _ _ _ (e.send hdr msg).2.port.frames
    unfold DirectEdge.send
    cases hdec : hdr.decrementTtl with
    | error e => exact .refl _ _ _
    | ok hdr' =>
      obtain ⟨httl, rfl⟩ := Header.decrementTtl_ok hdec
      exact (e.port.send_grows _ msg).mono (by decide) fun _ hf => hf.copy httl

theorem sendErr_grows (p : NodeProfile) (hdr : Header) (e : ProtocolError) (source : Option UInt8)
    (clock : Clock) : Grows (Copy hdr) 1 p.frames (Profile.sendErr p hdr e source clock).2.frames := by
  cases p with
  | router r => exact r.sendErr_grows hdr e source clock
  | edge d =>
    show Grows _ _ _ (d.sendErr hdr e (source.map fun _ => ())).2.port.frames
    unfold DirectEdge.sendErr
    split
    · exact .refl _ _ _
    · cases hdec : hdr.decrementTtl with
      | error e => exact .refl _ _ _
      | ok hdr' =>
        obtain ⟨httl, rfl⟩ := Header.decrementTtl_ok hdec
        exact (d.port.sendErr_grows _ e).mono (Nat.le_refl 1) fun _ hf => hf.copy httl

theorem sendRaw_grows (p : NodeProfile) (hdr : Header) (data : List UInt8) (source : UInt8)
    (clock : Clock) :
    Grows (Copy hdr) 256 p.frames (Profile.sendRaw p hdr data source clock).2.frames := by
  cases p with
  | router r => exact r.sendRaw_grows hdr data source clock
  | edge e => exact .refl _ _ _

/-- Besides its sends, a frame processor leaves the queues alone. -/
theorem frames_kept (ident : UInt8) :
    WritesKeep ident fun p p' : NodeProfile => p'.frames = p.frames where
  refl _ := rfl
  trans h h' := h'.trans h
  isTransitNet p netId now := by
    cases p with
    | router r =>
      show (r.isTransitNet netId now).2.frames = r.frames
      unfold Router.isTransitNet
      split
      · rfl
      · split <;> rfl
    | edge e => rfl
  set p state := by
    cases p with
    | router r => exact r.frames_setInterfaceState ident state
    | edge e => exact e.port.frames_setState state

end NodeProfile

/-- A profile whose queues grew by frames that satisfy `P`. -/
def NodeProfile.Queues (P : Header × Payload → Prop) (n : ℕ) (p p' : NodeProfile) : Prop :=
  Grows P n p.frames p'.frames

namespace NetStack

variable {κ : Type} [SocketVTable κ] (st : NetStack κ NodeProfile) (hdr : Header)

theorem sendTy_grows (msg : Msg) (clock : Clock) :
    Grows (Copy hdr) 256 st.profile.frames (st.sendTy hdr msg clock).2.profile.frames :=
  sendWith_keeps (R := NodeProfile.Queues (Copy hdr) 256) (fun _ => .refl _ _ _)
    fun p => p.send_grows hdr msg clock

theorem sendRaw_grows (data : List UInt8) (source : UInt8) (clock : Clock) :
    Grows (Copy hdr) 256 st.profile.frames (st.sendRaw hdr data source clock).2.profile.frames :=
  sendWith_keeps (R := NodeProfile.Queues (Copy hdr) 256) (fun _ => .refl _ _ _)
    fun p => p.sendRaw_grows hdr data source clock

theorem sendErr_grows (e : ProtocolError) (source : Option UInt8) (clock : Clock) :
    Grows (Copy hdr) 1 st.profile.frames (st.sendErr hdr e source clock).2.profile.frames :=
  sendErr_keeps (R := NodeProfile.Queues (Copy hdr) 1) (fun _ => .refl _ _ _)
    fun p => p.sendErr_grows hdr e source clock

end NetStack

/-! ### Reports -/

/-- A frame in a queue that is a protocol error. -/
def IsReport (frame : Header × Payload) : Prop := frame.1.kind = .protocolError

theorem EdgePort.sendErr_ne_tooBig {σ : Type} [InterfaceSink σ] (p : EdgePort σ) (hdr : Header)
    (e : ProtocolError) (mtu : UInt16) : (p.sendErr hdr e).1 ≠ .error (.packetTooBig mtu) := by
  unfold sendErr
  cases h : p.commonSend hdr with
  | error e =>
    rintro ⟨⟩
    unfold commonSend at h
    split at h
    · split at h
      · cases h
      · dsimp only at h
        split at h <;> cases h
    · cases h
  | ok hdr' =>
    show (p.report _).1 ≠ _
    rcases @report_fst _ p (InterfaceSink.sendErr p.sink hdr' e) with h | h <;> rw [h] <;> exact nofun

/-- A report is never too big: the size of an error is not looked at. -/
theorem NodeProfile.sendErr_ne_tooBig (p : NodeProfile) (hdr : Header) (e : ProtocolError)
    (source : Option UInt8) (clock : Clock) (mtu : UInt16) :
    (Profile.sendErr p hdr e source clock).1 ≠ .error (.packetTooBig mtu) := by
  have hexpired : ∀ {hdr : Header} {e}, hdr.decrementTtl = .error e → e = .ttlExpired := by
    intro hdr e h
    unfold Header.decrementTtl at h
    split at h <;> cases h
    rfl
  cases p with
  | router r =>
    show (r.sendErr hdr e source clock).1 ≠ _
    unfold Router.sendErr
    cases hdec : hdr.decrementTtl with
    | error e' =>
      rw [hexpired hdec]
      rintro ⟨⟩
    | ok hdr' =>
      by_cases hkey : hdr'.dst.portId = 0 ∧ hdr'.anyAll.isNone
      · simp [Router.findThen, Router.find, hkey]
      · rcases r.findThen_interfaces hdr' source clock (fun port => port.sendErr hdr' e) hkey with
          ⟨_, i, _, -, -, hres, -⟩ | ⟨-, ⟨e', he, hres⟩, -⟩
        · simp only [hres]
          exact i.port.sendErr_ne_tooBig hdr' e mtu
        · simp only [hres]
          rcases he with rfl | rfl | rfl <;> rintro ⟨⟩
  | edge d =>
    show (d.sendErr hdr e (source.map fun _ => ())).1 ≠ _
    unfold DirectEdge.sendErr
    split
    · rintro ⟨⟩
    · cases hdec : hdr.decrementTtl with
      | error e' =>
        rw [hexpired hdec]
        rintro ⟨⟩
      | ok hdr' => exact d.port.sendErr_ne_tooBig hdr' e mtu

/-- A report is not reported. -/
theorem NetStack.sendErr_ne_tooBig {κ : Type} [SocketVTable κ] (st : NetStack κ NodeProfile)
    (hdr : Header) (e : ProtocolError) (source : Option UInt8) (clock : Clock) (mtu : UInt16) :
    (st.sendErr hdr e source clock).1 ≠ .error (.interfaceSend (.packetTooBig mtu)) := by
  have hsockets : ∀ st : NetStack κ NodeProfile,
      (st.deliver (findOneErrLocal st.sockets hdr) (sendErrToSocket e hdr)).1 ≠
        .error (.interfaceSend (.packetTooBig mtu)) := by
    intro st
    cases h : findOneErrLocal st.sockets hdr with
    | error e' =>
      rintro ⟨⟩
      unfold findOneErrLocal at h
      split at h <;> cases h
    | ok ref =>
      show (sendErrToSocket e hdr ref.socket).1 ≠ _
      rcases sendErrToSocket_answer e hdr ref.socket with h | h <;> rw [h] <;> exact nofun
  unfold sendErr
  split
  · exact nofun
  · cases hb : localBypass hdr with
    | true =>
      rw [unicastErr_of_bypass hb]
      exact hsockets st
    | false =>
      rcases hres : Profile.sendErr st.profile hdr e source clock with ⟨e' | _, p⟩
      · by_cases hlocal : e' = .destinationLocal
        · subst hlocal
          rw [unicastErr_of_local hb hres]
          exact hsockets _
        · rw [unicastErr_of_error hb hlocal hres]
          rintro ⟨⟩
          have hne := st.profile.sendErr_ne_tooBig hdr e source clock mtu
          rw [hres] at hne
          exact hne rfl
      · rw [unicastErr_of_ok hb hres]
        exact nofun

namespace FrameProcessor

variable {κ : Type} [SocketVTable κ] {proc : FrameProcessor} {frame : BorrowedFrame}
  {st : NetStack κ NodeProfile} {ident : UInt8} {clock : FrameClock}

omit [SocketVTable κ] in
/-- A processor rewrites addresses only, and leaves the queues alone until it hands the frame
on. -/
theorem accept_frames (proc : FrameProcessor) (hdr : Header) (st : NetStack κ NodeProfile)
    (ident : UInt8) (now : Nat) :
    (proc.accept hdr st ident now).1.profile.frames = st.profile.frames := by
  cases proc with
  | router s => rfl
  | edge s => exact (NodeProfile.frames_kept ident).discover s st.profile hdr.dst now

omit [SocketVTable κ] in
theorem accept_hdr {hdr hdr' : Header} {now : Nat}
    (h : (proc.accept hdr st ident now).2 = some hdr') :
    hdr'.kind = hdr.kind ∧ hdr'.ttl = hdr.ttl := by
  cases proc with
  | router s =>
    obtain ⟨-, hkind, httl, -⟩ := routerIngress_spec h
    exact ⟨hkind, httl⟩
  | edge s =>
    simp only [accept, EdgeFrameProcessor.ingress, Option.ite_none_right_eq_some,
      Option.map_eq_some_iff] at h
    obtain ⟨-, src, -, rfl⟩ := h
    exact ⟨rfl, rfl⟩

/-- Handing a frame on puts copies of it into the queues. -/
theorem receive_grows {receipt : Receipt κ NodeProfile}
    (h : proc.receive frame st ident clock = some receipt) :
    Grows (Copy frame.hdr) 256 st.profile.frames receipt.stack.profile.frames := by
  rw [receive_eq, Option.map_eq_some_iff] at h
  obtain ⟨hdr, hhdr, rfl⟩ := h
  obtain ⟨hkind, httl⟩ := accept_hdr hhdr
  rw [← proc.accept_frames frame.hdr st ident clock.check]
  have hcopy : ∀ f, Copy hdr f → Copy frame.hdr f := fun f hf =>
    ⟨by rw [hf.1, httl], hf.2.trans hkind⟩
  unfold NetStack.handOn
  cases frame.body with
  | ok body =>
    exact (NetStack.sendRaw_grows _ hdr body ident clock.send).mono (Nat.le_refl 256) hcopy
  | error e =>
    exact (NetStack.sendErr_grows _ hdr e (some ident) clock.send).mono (by decide) hcopy

/-- What a router does after it has handed a frame on: it reports one that was too big. -/
theorem replyTooBig_grows (receipt : Receipt κ NodeProfile) (ident : UInt8) (clock : Clock) :
    Grows IsReport 1 receipt.stack.profile.frames
      (replyTooBig receipt ident clock).profile.frames := by
  unfold replyTooBig
  split
  · split
    · exact .refl _ _ _
    · exact (receipt.stack.sendErr_grows _ _ _ _).mono (Nat.le_refl 1) fun _ hf => hf.2
  · exact .refl _ _ _

/-- A report that was received is handed on by `send_err`, so that nothing was too big. -/
theorem replyTooBig_report {receipt : Receipt κ NodeProfile}
    (h : proc.receive frame st ident clock = some receipt)
    (hkind : frame.hdr.kind = .protocolError) (now : Clock) :
    replyTooBig receipt ident now = receipt.stack := by
  obtain ⟨e, hbody⟩ := frame.wf.err_kind.mp hkind
  rw [receive_eq, Option.map_eq_some_iff] at h
  obtain ⟨hdr, -, rfl⟩ := h
  unfold replyTooBig
  split
  · next mtu hres =>
    simp only [NetStack.handOn, hbody] at hres
    exact absurd hres (NetStack.sendErr_ne_tooBig _ _ _ _ _ _)
  · rfl

/-- Reactivating an interface leaves the queues alone. -/
theorem router_frames (s : RouterFrameProcessor) :
    (s.processFrame frame st ident clock).2.2.profile.frames =
      (routerProcessFrame (s.sync st.profile ident).netId frame st ident clock).profile.frames := by
  unfold RouterFrameProcessor.processFrame
  dsimp only
  split
  · rfl
  · split
    · exact (NodeProfile.frames_kept ident).set _ _
    · rfl

/-- A frame that is dropped. -/
theorem processFrame_none (h : proc.receive frame st ident clock = none) :
    (proc.processFrame frame st ident clock).2.2.profile.frames = st.profile.frames := by
  cases proc with
  | router s =>
    refine (router_frames s).trans ?_
    simp only [receive] at h
    rw [routerProcessFrame, h]
  | edge s =>
    simp only [receive] at h
    simp only [processFrame, EdgeFrameProcessor.processFrame, h]
    exact (NodeProfile.frames_kept ident).discover s st.profile frame.hdr.dst clock.check

/-- A frame that is handed on leads to one report at most, and to none if it is one. -/
theorem processFrame_grows {receipt : Receipt κ NodeProfile}
    (h : proc.receive frame st ident clock = some receipt) :
    Grows IsReport 1 receipt.stack.profile.frames
        (proc.processFrame frame st ident clock).2.2.profile.frames ∧
      (frame.hdr.kind = .protocolError →
        (proc.processFrame frame st ident clock).2.2.profile.frames =
          receipt.stack.profile.frames) := by
  cases proc with
  | router s =>
    have hframe : (FrameProcessor.processFrame (.router s) frame st ident clock).2.2.profile.frames =
        (replyTooBig receipt ident clock.reply).profile.frames := by
      have hreceipt : routerReceive (s.sync st.profile ident).netId frame st ident clock =
          some receipt := h
      refine (router_frames s).trans ?_
      rw [routerProcessFrame, hreceipt]
    rw [hframe]
    refine ⟨replyTooBig_grows receipt ident clock.reply, fun hkind => ?_⟩
    rw [replyTooBig_report h hkind]
  | edge s =>
    have hframe : (FrameProcessor.processFrame (.edge s) frame st ident clock).2.2.profile.frames =
        receipt.stack.profile.frames := by
      simp only [receive] at h
      simp only [processFrame, EdgeFrameProcessor.processFrame, h]
    rw [hframe]
    exact ⟨.refl _ _ _, fun _ => rfl⟩

end FrameProcessor

/-! ### Receptions -/

namespace NodeProfile

/-- Another port at an interface. -/
theorem frames_setPort {p : NodeProfile} {ident : UInt8} {port : EdgePort FrameQueue}
    (h : p.port ident = some port) (port' : EdgePort FrameQueue) :
    (p.setPort ident port').frames + port.frames = p.frames + port'.frames := by
  cases p with
  | edge e =>
    cases h
    exact add_comm _ _
  | router r =>
    unfold NodeProfile.port at h
    unfold setPort
    dsimp only at h ⊢
    split at h
    · next hident =>
      simp only [if_pos hident, frames, Router.frames, Router.interfaces, h, Option.toList_some,
        List.map_append, List.map_cons, List.map_nil, List.sum_append, List.sum_cons, List.sum_nil,
        Iface.port, add_zero]
      exact add_right_comm _ _ _
    · next hident =>
      rw [if_neg hident]
      obtain ⟨slot, hslot, rfl⟩ := Option.map_eq_some_iff.mp h
      obtain ⟨before, after, hsplit, -, hmod⟩ :=
        HeaplessVec.modifyFirstList_split (fun s => { s with port := port' }) hslot
      simp only [frames, Router.frames, Router.interfaces, HeaplessVec.toList_modifyFirst, hmod]
      simp only [hsplit, List.map_append, List.map_cons, List.sum_append, List.sum_cons, Iface.port]
      abel

end NodeProfile

/-- The frames that wait at a node. -/
def Node.frames {κ : Type} (node : Node κ) : Multiset (Header × Payload) :=
  node.stack.profile.frames

/-- Taking a frame out of a queue. -/
theorem Node.pop_frames {κ : Type} {node node' : Node κ} {ident : UInt8} {f : Header × Payload}
    (h : node.pop ident = some (f, node')) : node.frames = f ::ₘ node'.frames := by
  unfold pop at h
  split at h
  · cases h
  · next port hport =>
    split at h
    · cases h
    · next f' rest hrest =>
      cases h
      have hset := NodeProfile.frames_setPort hport
        { port with sink := { port.sink with frames := rest } }
      have hcons : port.frames = f ::ₘ (rest : Multiset (Header × Payload)) := by
        rw [EdgePort.frames, hrest]
        rfl
      rw [hcons] at hset
      refine add_right_cancel (b := (rest : Multiset (Header × Payload))) (hset.symm.trans ?_)
      rw [Multiset.add_cons, Multiset.cons_add]
      rfl

namespace Node

variable {κ : Type} [SocketVTable κ]

/-- The stack of a node once a frame has been handed on. -/
def handedOn (node : Node κ) (ident : UInt8) (frame : BorrowedFrame) (clock : FrameClock) :
    NetStack κ NodeProfile :=
  match (node.processor ident).receive frame node.stack ident clock with
  | none => node.stack
  | some receipt => receipt.stack

/-- What a node puts into its queues by handing a frame on. -/
def forwards (node : Node κ) (ident : UInt8) (frame : BorrowedFrame) (clock : FrameClock) :
    Multiset (Header × Payload) :=
  (node.handedOn ident frame clock).profile.frames - node.frames

/-- What a node puts into its queues when it has handed a frame on. -/
def errors (node : Node κ) (ident : UInt8) (frame : BorrowedFrame) (clock : FrameClock) :
    Multiset (Header × Payload) :=
  (node.receive ident frame clock).frames - (node.handedOn ident frame clock).profile.frames

/-- What can come of a frame that a node receives. -/
structure Reception (node : Node κ) (ident : UInt8) (frame : BorrowedFrame) (clock : FrameClock) :
    Prop where
  frames : (node.receive ident frame clock).frames =
    node.frames + (node.forwards ident frame clock + node.errors ident frame clock)
  /-- A frame that is forwarded has one hop less. -/
  forwards : ∀ f ∈ node.forwards ident frame clock, Copy frame.hdr f
  fanOut : (node.forwards ident frame clock).card ≤ 256
  hops : frame.hdr.ttl ≤ maxTtl
  errors : ∀ f ∈ node.errors ident frame clock, IsReport f
  once : (node.errors ident frame clock).card ≤ 1
  /-- A report causes no other. -/
  silent : frame.hdr.kind = .protocolError → node.errors ident frame clock = 0

theorem reception (node : Node κ) (ident : UInt8) (frame : BorrowedFrame) (clock : FrameClock) :
    node.Reception ident frame clock := by
  have hforwards : Grows (Copy frame.hdr) 256 node.frames
      (node.handedOn ident frame clock).profile.frames := by
    unfold handedOn
    split
    · exact .refl _ _ _
    · next receipt hreceipt => exact FrameProcessor.receive_grows hreceipt
  have herrors : Grows IsReport 1 (node.handedOn ident frame clock).profile.frames
        (node.receive ident frame clock).frames ∧
      (frame.hdr.kind = .protocolError → (node.receive ident frame clock).frames =
        (node.handedOn ident frame clock).profile.frames) := by
    unfold handedOn
    split
    · next hnone =>
      have hsame : (node.receive ident frame clock).frames = node.stack.profile.frames :=
        FrameProcessor.processFrame_none hnone
      rw [hsame]
      exact ⟨.refl _ _ _, fun _ => rfl⟩
    · next receipt hreceipt => exact FrameProcessor.processFrame_grows hreceipt
  obtain ⟨hon, hfew, hcopy⟩ := hforwards.sub
  obtain ⟨hafter, hone, hreport⟩ := herrors.1.sub
  constructor
  · calc (node.receive ident frame clock).frames
        = (node.handedOn ident frame clock).profile.frames +
          node.errors ident frame clock := hafter
      _ = node.frames + node.forwards ident frame clock +
          node.errors ident frame clock := congrArg (· + node.errors ident frame clock) hon
      _ = node.frames + (node.forwards ident frame clock + node.errors ident frame clock) :=
        add_assoc _ _ _
  · exact hcopy
  · exact hfew
  · exact frame.wf.ttl
  · exact hreport
  · exact hone
  · intro hkind
    rw [errors, herrors.2 hkind]
    exact tsub_self _

end Node

/-! ## Rank -/

/-- How far down a frame is: reports are below all other frames, and among the ones or the
others it is the hop count. -/
def Header.rank (hdr : Header) : ℕ :=
  (if hdr.kind = .protocolError then 0 else 16) + min hdr.ttl.toNat 15

theorem Header.rank_le (hdr : Header) : hdr.rank ≤ 31 := by
  unfold rank
  split <;> omega

/-- The wire keeps the kind of a frame, and its hop count if that fits. -/
theorem wire_eq {f : Header × Payload} {frame : BorrowedFrame} (h : wire f = some frame) :
    frame.hdr.kind = f.1.kind ∧ frame.hdr.ttl.toNat = min f.1.ttl.toNat 15 := by
  unfold wire at h
  dsimp only at h
  obtain ⟨hwf, heq⟩ := Option.dite_none_right_eq_some.mp h
  obtain rfl := Option.some.inj heq
  refine ⟨rfl, ?_⟩
  dsimp only
  split
  · next hbig =>
    have hmax : (15 : ℕ) < f.1.ttl.toNat := UInt8.lt_iff_toNat_lt.mp hbig
    exact (Nat.min_eq_right (Nat.le_of_lt hmax)).symm
  · next hfits =>
    have hmax : f.1.ttl.toNat ≤ 15 := Nat.not_lt.mp fun h => hfits (UInt8.lt_iff_toNat_lt.mpr h)
    exact (Nat.min_eq_left hmax).symm

/-- The wire keeps the rank. -/
theorem wire_rank {f : Header × Payload} {frame : BorrowedFrame} (h : wire f = some frame) :
    frame.hdr.rank = f.1.rank := by
  obtain ⟨hkind, httl⟩ := wire_eq h
  rw [Header.rank, Header.rank, hkind, httl, Nat.min_assoc, Nat.min_self]

/-- What a node puts into its queues is below the frame that it received. -/
theorem Node.Reception.rank_lt {κ : Type} [SocketVTable κ] {node : Node κ} {ident : UInt8}
    {frame : BorrowedFrame} {clock : FrameClock} (h : node.Reception ident frame clock) :
    ∀ f ∈ node.forwards ident frame clock + node.errors ident frame clock,
      f.1.rank < frame.hdr.rank := by
  have httl : frame.hdr.ttl.toNat ≤ 15 := UInt8.le_iff_toNat_le.mp h.hops
  intro f hf
  rcases Multiset.mem_add.mp hf with hf | hf
  · obtain ⟨hhops, hkind⟩ := h.forwards f hf
    unfold Header.rank
    rw [hkind]
    omega
  · -- what is reported is not itself a report
    have hreport : f.1.kind = .protocolError := h.errors f hf
    have hframe : frame.hdr.kind ≠ .protocolError := by
      intro hkind
      rw [h.silent hkind] at hf
      exact Multiset.notMem_zero _ hf
    unfold Header.rank
    rw [if_pos hreport, if_neg hframe]
    omega

/-- A frame reaches a node after `k` forwarding hops, whichever nodes forwarded it. -/
inductive ForwardedBy (κ : Type) [SocketVTable κ] :
    ℕ → BorrowedFrame → BorrowedFrame → Prop
  | origin (frame : BorrowedFrame) : ForwardedBy κ 0 frame frame
  | hop {k : ℕ} {first frame frame' : BorrowedFrame} (node : Node κ) (ident : UInt8)
      (clock : FrameClock) (f : Header × Payload) (h : ForwardedBy κ k first frame)
      (hf : f ∈ node.forwards ident frame clock) (hwire : wire f = some frame') :
      ForwardedBy κ (k + 1) first frame'

/-- Every hop takes one off the hop count. -/
theorem ForwardedBy.hops {κ : Type} [SocketVTable κ] {k : ℕ} {first frame : BorrowedFrame}
    (h : ForwardedBy κ k first frame) : frame.hdr.ttl.toNat + k = first.hdr.ttl.toNat := by
  induction h with
  | origin frame => rfl
  | @hop k first frame frame' node ident clock f h hf hwire ih =>
    obtain ⟨hcopy, -⟩ := (node.reception ident frame clock).forwards f hf
    have hshort : frame.hdr.ttl.toNat ≤ 15 := UInt8.le_iff_toNat_le.mp frame.wf.ttl
    obtain ⟨-, hsame⟩ := wire_eq hwire
    omega

/-! ## Networks with loops -/

/-- How the interfaces of a network are joined: whose queue a link empties, and who hears
what is taken out of it. -/
structure Wiring (ι Λ : Type) where
  sender : Λ → ι × UInt8
  listeners : Λ → List (ι × UInt8)
  fanOut : ℕ
  bounded : ∀ link, (listeners link).length ≤ fanOut

/-- A change of a node that puts no frame into its queues: a write to its tables or to the
state of an interface, a new interface, one that is removed, frames that get lost. -/
structure Management (κ : Type) where
  change : Node κ → Node κ
  quiet : ∀ node, (change node).frames ≤ node.frames

/-- What happens in a network. Only a delivery is the stacks' own doing: `sendTy` and
`sendErr` are sends of an application. -/
inductive TrafficAct (ι Λ κ : Type)
  | deliver (link : Λ) (clock : ι × UInt8 → FrameClock)
  | sendTy (v : ι) (hdr : Header) (msg : Msg) (clock : Clock)
  | sendErr (v : ι) (hdr : Header) (e : ProtocolError) (clock : Clock)
  | manage (v : ι) (management : Management κ)

/-- Whether a frame is injected. -/
def TrafficAct.injects {ι Λ κ : Type} : TrafficAct ι Λ κ → Bool
  | .sendTy _ _ _ _ | .sendErr _ _ _ _ => true
  | .deliver _ _ | .manage _ _ => false

namespace Network

variable {ι κ : Type} [DecidableEq ι] [SocketVTable κ]

/-- All listeners receive a frame. -/
def hear (frame : BorrowedFrame) (clock : ι × UInt8 → FrameClock) :
    List (ι × UInt8) → Network ι κ → Network ι κ
  | [], n => n
  | i :: is, n =>
    hear frame clock is (Function.update n i.1 ((n i.1).receive i.2 frame (clock i)))

/-- The number of frames that they transmit. -/
def transmits (frame : BorrowedFrame) (clock : ι × UInt8 → FrameClock) :
    List (ι × UInt8) → Network ι κ → ℕ
  | [], _ => 0
  | i :: is, n =>
    ((n i.1).forwards i.2 frame (clock i)).card + ((n i.1).errors i.2 frame (clock i)).card +
      transmits frame clock is (Function.update n i.1 ((n i.1).receive i.2 frame (clock i)))

end Network

namespace Wiring

variable {ι Λ κ : Type} [DecidableEq ι] [SocketVTable κ] (W : Wiring ι Λ)

/-- One step of a network. -/
def step (n : Network ι κ) : TrafficAct ι Λ κ → Network ι κ
  | .deliver link clock =>
    match (n (W.sender link).1).pop (W.sender link).2 with
    | none => n
    | some (frame, node) =>
      let n : Network ι κ := Function.update n (W.sender link).1 node
      match wire frame with
      | none => n
      | some frame => n.hear frame clock (W.listeners link)
  | .sendTy v hdr msg clock =>
    Function.update n v { n v with stack := ((n v).stack.sendTy hdr msg clock).2 }
  | .sendErr v hdr e clock =>
    Function.update n v { n v with stack := ((n v).stack.sendErr hdr e none clock).2 }
  | .manage v management => Function.update n v (management.change (n v))

/-- The work of a step: a frame that leaves its queue, and those that the stacks transmit. -/
def work (n : Network ι κ) : TrafficAct ι Λ κ → ℕ
  | .deliver link clock =>
    match (n (W.sender link).1).pop (W.sender link).2 with
    | none => 0
    | some (frame, node) =>
      let n : Network ι κ := Function.update n (W.sender link).1 node
      match wire frame with
      | none => 1
      | some frame => 1 + n.transmits frame clock (W.listeners link)
  | _ => 0

/-- The number of frames that can come directly of one frame. -/
def offspring : ℕ := 257 * W.fanOut

/-- All the work that can come of one frame. -/
def limit : ℕ := toll W.offspring 31

end Wiring

namespace Topology

variable {ι κ : Type} (T : Topology ι)

/-- A topology, as a wiring where each direction of a link has one listener. -/
def wiring : Wiring ι {link : Link ι // (T.ends link).isSome} where
  sender link := (((T.ends link).get link.2).sender, ((T.ends link).get link.2).sendIdent)
  listeners link := [(((T.ends link).get link.2).receiver, ((T.ends link).get link.2).recvIdent)]
  fanOut := 1
  bounded _ := Nat.le_refl 1

/-- A frame that arrives in a topology arrives in its wiring. -/
theorem wiring_deliver [DecidableEq ι] [SocketVTable κ] {n n' : Network ι κ} {link : Link ι}
    {clock : FrameClock} (h : n.deliver T link clock = some n') :
    ∃ hlink, T.wiring.step n (.deliver ⟨link, hlink⟩ fun _ => clock) = n' := by
  unfold Network.deliver at h
  split at h
  · cases h
  · next e hends =>
    refine ⟨by simp [hends], ?_⟩
    simp only [Wiring.step, wiring, hends, Option.get_some]
    cases hpop : (n e.sender).pop e.sendIdent with
    | none => simp [hpop] at h
    | some popped =>
      simp only [hpop] at h ⊢
      cases hwire : wire popped.1 with
      | none =>
        simp only [hwire, Option.some.injEq] at h ⊢
        exact h
      | some frame =>
        simp only [hwire, Option.some.injEq] at h ⊢
        exact h

end Topology

/-! ## Traffic dies out -/

namespace Network

variable {ι κ : Type} [Fintype ι]

/-- All the frames that wait in a network. -/
def frames (n : Network ι κ) : Multiset (Header × Payload) := ∑ v, (n v).frames

variable [DecidableEq ι]

/-- A node changes, and with it the frames in its queues. -/
theorem frames_update (n : Network ι κ) (v : ι) (node : Node κ) :
    frames (Function.update n v node) + (n v).frames = n.frames + node.frames := by
  have hrest : ∑ w ∈ Finset.univ.erase v, (Function.update n v node w).frames =
      ∑ w ∈ Finset.univ.erase v, (n w).frames := by
    refine Finset.sum_congr rfl fun w hw => ?_
    rw [Function.update_of_ne (Finset.ne_of_mem_erase hw)]
  rw [frames, frames, ← Finset.add_sum_erase _ _ (Finset.mem_univ v),
    ← Finset.add_sum_erase _ (fun w => (n w).frames) (Finset.mem_univ v), hrest,
    Function.update_self]
  abel

variable [SocketVTable κ]

/-- What the listeners add. -/
theorem hear_frames (frame : BorrowedFrame) (clock : ι × UInt8 → FrameClock)
    (is : List (ι × UInt8)) (n : Network ι κ) :
    ∃ new, (n.hear frame clock is).frames = n.frames + new ∧
      n.transmits frame clock is = new.card ∧ new.card ≤ 257 * is.length ∧
      ∀ f ∈ new, f.1.rank < frame.hdr.rank := by
  induction is generalizing n with
  | nil => exact ⟨0, (add_zero _).symm, rfl, Nat.zero_le _, fun _ h => absurd h (by simp)⟩
  | cons i is ih =>
    have hr := (n i.1).reception i.2 frame (clock i)
    obtain ⟨new, hnew, hcount, hcard, hrank⟩ :=
      ih (Function.update n i.1 ((n i.1).receive i.2 frame (clock i)))
    have hnode := frames_update n i.1 ((n i.1).receive i.2 frame (clock i))
    rw [hr.frames] at hnode
    refine ⟨(n i.1).forwards i.2 frame (clock i) + (n i.1).errors i.2 frame (clock i) + new,
      ?_, ?_, ?_, ?_⟩
    · have hfirst := add_right_cancel (b := (n i.1).frames) (hnode.trans
        (show _ = n.frames + ((n i.1).forwards i.2 frame (clock i) +
          (n i.1).errors i.2 frame (clock i)) + (n i.1).frames by abel))
      show (hear frame clock is _).frames = _
      rw [hnew, hfirst, add_assoc]
    · rw [Multiset.card_add, Multiset.card_add, ← hcount]
      rfl
    · have hfan := hr.fanOut
      have honce := hr.once
      rw [Multiset.card_add, Multiset.card_add, List.length_cons]
      omega
    · intro f hf
      rcases Multiset.mem_add.mp hf with hf | hf
      · exact hr.rank_lt f hf
      · exact hrank f hf

end Network

namespace Wiring

variable {ι Λ κ : Type} [Fintype ι] [DecidableEq ι] [SocketVTable κ] (W : Wiring ι Λ)

/-- What is charged to the frames that wait in a network. -/
def charged (n : Network ι κ) : ℕ := charge W.offspring (fun f => f.1.rank) n.frames

/-- What an injection adds to that. -/
def gain (act : TrafficAct ι Λ κ) : ℕ := if act.injects then 256 * W.limit else 0

omit [Fintype ι] [DecidableEq ι] in
theorem charge_le_limit (s : Multiset (Header × Payload)) :
    charge W.offspring (fun f => f.1.rank) s ≤ s.card * W.limit :=
  charge_le_card fun f _ => f.1.rank_le

omit [SocketVTable κ] in
/-- A node whose queues grow is charged for the new frames. -/
theorem charged_grows (n : Network ι κ) (v : ι) (node : Node κ) {P : Header × Payload → Prop}
    {k : ℕ} (hk : k ≤ 256) (h : Grows P k (n v).frames node.frames) :
    W.charged (Function.update n v node) ≤ W.charged n + 256 * W.limit := by
  obtain ⟨new, hnew, hcard, -⟩ := h
  have hupdate := n.frames_update v node
  rw [hnew, add_comm (n v).frames, ← add_assoc] at hupdate
  have hnet := add_right_cancel hupdate
  have hlimit := W.charge_le_limit new
  have hfew := Nat.mul_le_mul_right W.limit (hcard.trans hk)
  rw [charged, charged, hnet, charge_add]
  omega

/-- The work of a step is paid for. -/
theorem work_charged (n : Network ι κ) (act : TrafficAct ι Λ κ) :
    W.work n act + W.charged (W.step n act) ≤ W.charged n + W.gain act := by
  cases act with
  | sendTy v hdr msg clock =>
    have h := W.charged_grows n v { n v with stack := ((n v).stack.sendTy hdr msg clock).2 }
      (Nat.le_refl 256) ((n v).stack.sendTy_grows hdr msg clock)
    exact (Nat.zero_add _).trans_le h
  | sendErr v hdr e clock =>
    have h := W.charged_grows n v { n v with stack := ((n v).stack.sendErr hdr e none clock).2 }
      (by decide) ((n v).stack.sendErr_grows hdr e none clock)
    exact (Nat.zero_add _).trans_le h
  | manage v management =>
    have hle := management.quiet (n v)
    obtain ⟨lost, hlost⟩ := Multiset.le_iff_exists_add.mp hle
    have hupdate := n.frames_update v (management.change (n v))
    rw [hlost, add_left_comm, add_comm n.frames] at hupdate
    have hnet : Network.frames (Function.update n v (management.change (n v))) + lost = n.frames :=
      add_left_cancel hupdate
    have hless : W.charged (Function.update n v (management.change (n v))) ≤ W.charged n := by
      rw [charged, charged, ← hnet]
      exact charge_le_of_le (Multiset.le_add_right _ _)
    exact (Nat.zero_add _).trans_le hless
  | deliver link clock =>
    simp only [work, step, gain, TrafficAct.injects, Bool.false_eq_true, if_false, Nat.add_zero]
    cases hpop : (n (W.sender link).1).pop (W.sender link).2 with
    | none => simp
    | some popped =>
      obtain ⟨f, node⟩ := popped
      -- the frame leaves its queue
      have hupdate := n.frames_update (W.sender link).1 node
      rw [Node.pop_frames hpop, Multiset.add_cons, ← Multiset.cons_add] at hupdate
      have htaken : f ::ₘ Network.frames (Function.update n (W.sender link).1 node) = n.frames := by
        exact add_right_cancel hupdate
      have hbefore : W.charged n = toll W.offspring f.1.rank +
          charge W.offspring (fun f => f.1.rank)
            (Network.frames (Function.update n (W.sender link).1 node)) := by
        rw [charged, ← htaken, charge_cons]
      rw [hbefore]
      cases hwire : wire f with
      | none =>
        have hpos := toll_pos W.offspring f.1.rank
        simp only [hwire, charged]
        omega
      | some frame =>
        -- and its listeners put smaller ones into theirs
        obtain ⟨new, hnew, hcount, hcard, hrank⟩ := Network.hear_frames frame clock
          (W.listeners link) (Function.update n (W.sender link).1 node)
        have hfew : new.card ≤ W.offspring :=
          hcard.trans (Nat.mul_le_mul_left 257 (W.bounded link))
        have hpays := toll_offspring hfew hrank
        rw [wire_rank hwire] at hpays
        simp only [hwire, charged, hnew, charge_add, hcount]
        omega

/-- The injections of a run. -/
def injections (acts : List (TrafficAct ι Λ κ)) : ℕ := acts.countP TrafficAct.injects

omit [Fintype ι] [DecidableEq ι] [SocketVTable κ] in
theorem sum_gain (acts : List (TrafficAct ι Λ κ)) :
    (acts.map W.gain).sum = 256 * injections acts * W.limit := by
  induction acts with
  | nil => simp [injections]
  | cons act acts ih =>
    rw [List.map_cons, List.sum_cons, ih, injections, injections, List.countP_cons, gain]
    split
    · rw [Nat.mul_add, Nat.add_mul, Nat.mul_one, Nat.add_comm]
    · rw [Nat.zero_add, Nat.add_zero]

end Wiring

/-- Traffic dies out, however the nodes are joined and whatever their tables are. A node that
receives a frame forwards copies with one hop less, and it adds one report at most and none
about a report; no frame is forwarded more than 15 times; and however a network goes on,
the frames that leave its queues and those that its stacks transmit are no more than the
frames it starts with and the frames that are injected allow. -/
theorem traffic_dies_out {ι Λ κ : Type} [Fintype ι] [DecidableEq ι] [SocketVTable κ]
    (W : Wiring ι Λ) :
    (∀ (node : Node κ) (ident : UInt8) (frame : BorrowedFrame) (clock : FrameClock),
        node.Reception ident frame clock) ∧
      (∀ (k : ℕ) (first frame : BorrowedFrame), ForwardedBy κ k first frame → k ≤ 15) ∧
      ∀ (n : Network ι κ) (acts : List (TrafficAct ι Λ κ)),
        Runs.total W.step W.work n acts ≤
          (n.frames.card + 256 * Wiring.injections acts) * W.limit := by
  refine ⟨fun node => node.reception, fun k first frame h => ?_, fun n acts => ?_⟩
  · have hhops := h.hops
    have hfirst : first.hdr.ttl.toNat ≤ 15 := UInt8.le_iff_toNat_le.mp first.wf.ttl
    omega
  · have hpaid := Runs.total_le W.work_charged n acts
    have hstart := W.charge_le_limit n.frames
    rw [W.sum_gain] at hpaid
    calc Runs.total W.step W.work n acts
        ≤ W.charged n + 256 * Wiring.injections acts * W.limit := hpaid
      _ ≤ n.frames.card * W.limit + 256 * Wiring.injections acts * W.limit :=
        Nat.add_le_add_right hstart _
      _ = (n.frames.card + 256 * Wiring.injections acts) * W.limit := (Nat.add_mul _ _ _).symm

end Ergot
