import Ergot.Stack.Workers
import Ergot.Wire.Frames

/-!
# What an interface lets in

A message with the source 0.0 is one of our own: `unicast` does not offer it to the profile
when its destination is 0.0 as well, and `common_send` stamps it with the address of the port.
Both processors rewrite the source of a received frame so that it is not taken for one, but for
an edge processor that knows no net id (`EdgeFrameProcessor.Unnumbered`): it rewrites nothing,
and a source of 0.0 goes through (`no_local_source_iff`).
-/

namespace Ergot

/-- A header that no stack takes for its own: no local bypass, and no port lends its node id. -/
structure Header.Remote (hdr : Header) : Prop where
  src : hdr.src.netNodeAny = false
  bypass : NetStack.localBypass hdr = false
  stamp : ∀ {σ : Type} (port : EdgePort σ) (netId : UInt16),
    (port.stampSrc netId hdr.src).nodeId = hdr.src.nodeId

/-- The source decides. -/
theorem Header.remote_iff {hdr : Header} : hdr.Remote ↔ hdr.src.netNodeAny = false := by
  constructor
  · exact Remote.src
  · intro hsrc
    refine ⟨hsrc, by simp [NetStack.localBypass, hsrc], fun port netId => ?_⟩
    unfold EdgePort.stampSrc
    split
    · next hnet =>
      have hnode : hdr.src.nodeId ≠ 0 := by simpa [Address.netNodeAny, hnet] using hsrc
      exact if_neg hnode
    · rfl

namespace EdgeFrameProcessor

variable {P ι : Type} [Profile P ι]

/-- Whether the processor goes on without a net id: it has none, and neither the interface nor
the frame brings one. -/
def Unnumbered (s : EdgeFrameProcessor) (p : P) (dst : Address) (ident : ι) (now : Nat) : Prop :=
  s.netId = none ∧
    (s.activated = true ∨
      ∃ state, Profile.interfaceState p ident = some state ∧
        ((∃ nodeId, state = .activeLocal nodeId) ∨
          s.opens state = true ∧ (s.donates p dst now).1 = false))

/-- What is adopted is a net id. -/
theorem adopt_netId (s : EdgeFrameProcessor) (p : P) (ident : ι) (ifState : InterfaceState)
    (net : UInt16) (donated : Bool) (h : (s.adopt p ident ifState net donated).goesOn = true) :
    (s.adopt p ident ifState net donated).processor.netId = some net := by
  unfold adopt at h ⊢
  dsimp only at h ⊢
  split
  · split <;> rfl
  · next hne =>
    rw [if_neg hne] at h
    rcases hres : Profile.setInterfaceState p ident (.active net s.ownNode) with ⟨e | u, p'⟩
    · rw [hres] at h
      cases h
    · dsimp only
      split <;> rfl

/-- A frame goes on without a net id exactly when none is known. -/
theorem discover_unnumbered_iff (s : EdgeFrameProcessor) (p : P) (dst : Address) (ident : ι)
    (now : Nat) :
    ((s.discover p dst ident now).goesOn = true ∧
        (s.discover p dst ident now).processor.netId = none) ↔
      s.Unnumbered p dst ident now := by
  unfold Unnumbered
  cases hactive : s.activated with
  | true => simp [discover, hactive]
  | false =>
    cases hstate : Profile.interfaceState p ident with
    | none => simp [discover, hactive, hstate]
    | some ifState =>
      cases hopen : s.opens ifState with
      | true =>
        have hlocal : ∀ nodeId, ifState ≠ .activeLocal nodeId := by
          rintro nodeId rfl
          cases hopen
        rw [s.discover_of_opens hactive hstate hopen, window_eq]
        unfold settles
        cases hdonates : (s.donates p dst now).1 with
        | true =>
          -- the donor's net id is known, or nothing goes on
          simp only [if_true, Bool.true_eq_false, and_false, or_false]
          constructor
          · rintro ⟨hgoes, hnone⟩
            rw [adopt_netId s _ ident ifState _ _ hgoes] at hnone
            cases hnone
          · rintro ⟨-, h⟩
            simp [hlocal] at h
        | false =>
          cases hnet : s.netId with
          | none => simp [hnet, hopen]
          | some net =>
            simp only [Bool.false_eq_true, if_false, reduceCtorEq, false_and, iff_false]
            rintro ⟨hgoes, hnone⟩
            rw [adopt_netId s _ ident ifState net _ hgoes] at hnone
            cases hnone
      | false =>
        cases ifState with
        | down => cases hopen
        | inactive => cases hopen
        | activeLocal nodeId => simp [discover, hactive, hstate]
        | active netId nodeId =>
          have hnet : netId ≠ 0 ∧ s.rediscovering = false := by simpa [opens] using hopen
          simp [discover, hactive, hstate, hnet.1, hnet.2, hopen]

/-- The source rewrite lets 0.0 through without a net id, and only then. -/
theorem edgeSrc_any_iff (s : EdgeFrameProcessor) (src : Address) :
    (∃ src', s.edgeSrc src = some src' ∧ src'.netNodeAny = true) ↔
      s.netId = none ∧ src.netNodeAny = true := by
  cases hnet : s.netId with
  | none => simp [edgeSrc, hnet]
  | some net =>
    simp only [edgeSrc, hnet, reduceCtorEq, false_and, iff_false]
    rintro ⟨src', hsrc', hany⟩
    split at hsrc'
    · split at hsrc'
      · cases hsrc'
      · next hnode =>
        cases hsrc'
        simp [Address.netNodeAny, (not_or.mp hnode).1] at hany
    · next hnz =>
      cases hsrc'
      simp [Address.netNodeAny, hnz] at hany

end EdgeFrameProcessor

namespace FrameProcessor

variable {κ P ι : Type} [Profile P ι]

/-- Whether a processor goes on without a net id; a router slot rewrites with the net id it
has, also when that is 0. -/
def Unnumbered (proc : FrameProcessor) (p : P) (dst : Address) (ident : ι) (now : Nat) : Prop :=
  match proc with
  | .router _ => False
  | .edge s => s.Unnumbered p dst ident now

/-- A header with the source 0.0 is let in by an unnumbered processor only. -/
theorem accept_any_iff (proc : FrameProcessor) (hdr : Header) (st : NetStack κ P) (ident : ι)
    (now : Nat) :
    (∃ hdr', (proc.accept hdr st ident now).2 = some hdr' ∧ hdr'.src.netNodeAny = true) ↔
      hdr.src.netNodeAny = true ∧ proc.Unnumbered st.profile hdr.dst ident now := by
  cases proc with
  | router s =>
    simp only [accept, Unnumbered, and_false, iff_false]
    rintro ⟨hdr', hdr'_eq, hany⟩
    rw [(routerIngress_spec hdr'_eq).2.2.2] at hany
    cases hany
  | edge s =>
    show _ ↔ _ ∧ s.Unnumbered st.profile hdr.dst ident now
    rw [← s.discover_unnumbered_iff]
    have hsrc := (s.discover st.profile hdr.dst ident now).processor.edgeSrc_any_iff hdr.src
    simp only [accept, EdgeFrameProcessor.ingress, Option.ite_none_right_eq_some,
      Option.map_eq_some_iff]
    constructor
    · rintro ⟨hdr', ⟨hgoes, src', hsrc', rfl⟩, hany⟩
      obtain ⟨hnone, hany⟩ := hsrc.mp ⟨src', hsrc', hany⟩
      exact ⟨hany, hgoes, hnone⟩
    · rintro ⟨hany, hgoes, hnone⟩
      obtain ⟨src', hsrc', hany⟩ := hsrc.mpr ⟨hnone, hany⟩
      exact ⟨{ hdr with src := src' }, ⟨hgoes, src', hsrc', rfl⟩, hany⟩

end FrameProcessor

/-- What the stack is handed of the bytes an interface received is never taken for a local
message, but for frames with the source 0.0 at a processor that knows no net id. -/
theorem no_local_source_iff {κ P ι : Type} [SocketVTable κ] [Profile P ι]
    (proc : FrameProcessor) (st : NetStack κ P) (ident : ι) (clock : FrameClock)
    (data : List UInt8) :
    (∀ frame receipt, deFrame data = some frame →
        proc.receive frame st ident clock = some receipt → receipt.hdr.Remote) ↔
      ∀ frame, deFrame data = some frame → frame.hdr.src.netNodeAny = true →
        ¬ proc.Unnumbered st.profile frame.hdr.dst ident clock.check := by
  constructor
  · intro h frame hframe hany hun
    obtain ⟨hdr, hhdr, hhdr_any⟩ := (proc.accept_any_iff frame.hdr st ident clock.check).mpr
      ⟨hany, hun⟩
    have hreceive := proc.receive_eq frame st ident clock
    rw [hhdr, Option.map_some] at hreceive
    have hremote : hdr.Remote := h frame _ hframe hreceive
    rw [hremote.src] at hhdr_any
    cases hhdr_any
  · intro h frame receipt hframe hreceipt
    rw [proc.receive_eq, Option.map_eq_some_iff] at hreceipt
    obtain ⟨hdr, hhdr, rfl⟩ := hreceipt
    rw [Header.remote_iff]
    show hdr.src.netNodeAny = false
    by_contra hany
    obtain ⟨hsrc, hun⟩ := (proc.accept_any_iff frame.hdr st ident clock.check).mp
      ⟨hdr, hhdr, Bool.not_eq_false _ ▸ hany⟩
    exact h frame hframe hsrc hun

/-- A device that has not been reached yet, with a socket on port 9. -/
def demoUnnumbered : NetStack OwnedSocket (DirectEdge FrameQueue) :=
  ⟨[⟨⟨.replicate 8 0⟩, none, .endpointReq, true, 9, ⟨0, fun b => some ⟨0, b⟩, 1, []⟩⟩],
    .newTarget ⟨64, 1, []⟩⟩

/-- A frame from 0.0:5 to 0.0:9 bypasses the profile of the device that received it. -/
theorem remote_frame_taken_for_local :
    ∃ frame receipt, deFrame [5, 9, 0x5f, 7] = some frame ∧
      (FrameProcessor.edge .new).receive frame demoUnnumbered ()
        ⟨0, ⟨0, 0, Nat.le_refl _⟩, ⟨0, 0, Nat.le_refl _⟩⟩ = some receipt ∧
      receipt.result = .ok () ∧ ¬ receipt.hdr.Remote :=
  ⟨_, _, rfl, rfl, rfl, fun h => nomatch h.src⟩

end Ergot
