import Mathlib.Data.List.Pairwise
import Ergot.Router.Segment
import Ergot.Stack.SlotPort

/-!
# Only claimed node ids speak on a bus

A frame that originates on a segment is let through if its node id is claimed there. Who has
claimed it is in the table of node claims (`isNodeClaimed_iff_holds`); which segment it is, the
processor has to know, from its copy of the slot's net id.

`sync` reads the copy again at every frame, but only while the interface is `Active`. The check
is right for all frames exactly if the copy is (`claims_enforced_iff`).
-/

namespace Ergot

open Runs

/-! ## Who holds a claim -/

namespace Router

variable {σ : Type} {N S C : Nat}

/-- Two idents with one net id other than 0 are the same. -/
theorem netIdOf_inj {r : Router σ N S C} (hwf : r.directory.Wf) {i j : UInt8} {net : UInt16}
    (hnet : net ≠ 0) (hi : r.netIdOf i = some net) (hj : r.netIdOf j = some net) : i = j := by
  have hsymm : Std.Symm fun a b : UInt8 × UInt16 => a.2 ≠ 0 → a.2 ≠ b.2 :=
    ⟨fun a b hab hb heq => hab (heq ▸ hb) heq.symm⟩
  by_contra hne
  refine hwf.names.forall ((netIdOf_eq_some hwf).mp hi) ((netIdOf_eq_some hwf).mp hj) ?_ hnet rfl
  intro heq
  cases heq
  exact hne rfl

variable [InterfaceSink σ]

/-- The end of a segment takes its net id from the interface. -/
theorem SegmentGone.netIdOf_ne {r : Router σ N S C} (hwf : r.directory.Wf) {i : UInt8}
    {net : UInt16} (hnet : net ≠ 0) (hi : r.netIdOf i = some net) {step : Clock × Op σ}
    (h : SegmentGone net r step) : (r.exec step).netIdOf i ≠ some net := by
  cases h with
  | @deregistered clock ident hok hident =>
    cases netIdOf_inj hwf hnet hi hident
    show (r.deregisterInterface i clock.now).2.netIdOf i ≠ some net
    rcases hres : r.deregisterInterface i clock.now with ⟨e | u, r'⟩
    · rw [hres] at hok
      cases hok
    · rw [netIdOf_deregister hwf hres]
      intro h
      cases h
  | @renumbered clock ident net' hok hident hne =>
    cases netIdOf_inj hwf hnet hi hident
    show (r.reassignInterfaceNetId i net').2.netIdOf i ≠ some net
    rcases hres : r.reassignInterfaceNetId i net' with ⟨e | u, r'⟩
    · rw [hres] at hok
      cases hok
    · rw [netIdOf_reassign hwf hres]
      exact fun heq => hne (Option.some.inj heq).symm

/-- An interface keeps its net id exactly as long as the segment does not go. -/
theorem throughout_netIdOf {r : Router σ N S C} (hwf : r.directory.Wf) {i : UInt8}
    {net : UInt16} (hnet : net ≠ 0) (hi : r.netIdOf i = some net) (acts : List (Clock × Op σ)) :
    Throughout exec (fun r => r.netIdOf i = some net) r acts ↔
      ¬ Happens exec (SegmentGone net) r acts := by
  induction acts generalizing r with
  | nil => exact iff_of_true hi fun h => h
  | cons step acts ih =>
    have hwf' := exec_wf hwf step
    constructor
    · rintro ⟨-, hrest⟩ (hgone | hlater)
      · exact hgone.netIdOf_ne hwf hnet hi hrest.first
      · exact (ih hwf' hrest.first).mp hrest hlater
    · intro hno
      have hafter := (netIdOf_continuous hwf hi step).resolve_right fun h => hno (.inl h)
      exact ⟨hi, (ih hwf' hafter).mpr fun h => hno (.inr h)⟩

omit [InterfaceSink σ] in
/-- A claim is granted on a segment that is there. -/
theorem ClaimGranted.segment {r : Router σ N S C} (hwf : r.directory.Wf)
    (hclaims : r.ClaimsOnSegments) {net : UInt16} {node : UInt8} {nonce : UInt64} {x : Nat}
    {step : Clock × Op σ} (h : ClaimGranted net node nonce x r step) :
    reservedNodeId node = false ∧ net ≠ 0 ∧ ∃ i, r.netIdOf i = some net := by
  cases h with
  | claimed hok _ => exact requestNodeClaim_segment hwf hok
  | renewed _ htok _ =>
    obtain ⟨e, l, he, -, -⟩ := htok
    exact hclaims node net e he

omit [InterfaceSink σ] in
/-- A grant does not end a segment. -/
theorem ClaimGranted.not_gone {r : Router σ N S C} {net net' : UInt16} {node : UInt8}
    {nonce : UInt64} {x : Nat} {step : Clock × Op σ} (h : ClaimGranted net node nonce x r step) :
    ¬ SegmentGone net' r step := by
  intro hgone
  cases h with
  | claimed _ _ => cases hgone
  | renewed _ _ _ => cases hgone

/-- At `t` a device holds an unexpired claim to `node` that was granted on the segment of the
interface `i`, which has had the net id `net` ever since. -/
def HoldsClaim (r : Router σ N S C) (acts : List (Clock × Op σ)) (i : UInt8)
    (net : UInt16) (node : UInt8) (t : Nat) : Prop :=
  ∃ before grant after nonce x, acts = before ++ grant :: after ∧
    ClaimGranted net node nonce x (runAll exec r before) grant ∧ t < x ∧
    Throughout exec (fun r => r.netIdOf i = some net) (runAll exec r before) (grant :: after)

/-- Node ids that nobody can claim are not held. -/
theorem HoldsClaim.reserved {r : Router σ N S C} (hinit : Initial r)
    {acts : List (Clock × Op σ)} {i : UInt8} {net : UInt16} {node : UInt8} {t : Nat}
    (h : HoldsClaim r acts i net node t) : reservedNodeId node = false := by
  obtain ⟨before, grant, after, nonce, x, -, hgrant, -, -⟩ := h
  exact (hgrant.segment (hinit.wf.run before).directory (hinit.claimsOnSegments before)).1

/-- A node id that is reserved does not count as claimed, unless it has a role. -/
theorem isNodeClaimed_reserved {r : Router σ N S C} (hinit : Initial r)
    (acts : List (Clock × Op σ)) {node : UInt8} (hnode : reservedNodeId node = true ∧
      node ≠ centralNodeId ∧ node ≠ edgeNodeId) (net : UInt16) (t : Nat) :
    (runAll exec r acts).isNodeClaimed net node t = false := by
  obtain ⟨hreserved, hcentral, hedge⟩ := hnode
  unfold isNodeClaimed
  rw [if_neg (not_or.mpr ⟨hcentral, hedge⟩)]
  cases he : (runAll exec r acts).nodeClaims.get node net with
  | none => rfl
  | some e =>
    have hfree := (hinit.claimsOnSegments acts node net e he).1
    rw [hreserved] at hfree
    cases hfree

/-- A node id counts as claimed exactly if a device holds a claim to it. -/
theorem isNodeClaimed_iff_holds (r : Router σ N S C) (hinit : Initial r)
    (acts : List (Clock × Op σ)) (t : Nat) (htimed : Timed span 0 acts)
    (hend : endTime span 0 acts ≤ t) {i : UInt8} {net : UInt16}
    (hi : (runAll exec r acts).netIdOf i = some net) {node : UInt8}
    (hcentral : node ≠ centralNodeId) (hedge : node ≠ edgeNodeId) :
    (runAll exec r acts).isNodeClaimed net node t = true ↔ HoldsClaim r acts i net node t := by
  rw [isNodeClaimed_iff r hinit net node hcentral hedge acts t htimed hend]
  constructor
  · rintro ⟨before, grant, after, nonce, x, rfl, hgrant, ht, hno⟩
    have hwf := (hinit.wf.run before).directory
    obtain ⟨-, hnet, j, hj⟩ := hgrant.segment hwf (hinit.claimsOnSegments before)
    have hgone : ¬ Happens exec (SegmentGone net) (runAll exec r before) (grant :: after) := by
      rintro (hgone | hlater)
      · exact hgrant.not_gone hgone
      · rw [runAll_append] at hno
        exact hno hlater
    have hall := (throughout_netIdOf hwf hnet hj _).mpr hgone
    -- whoever has the net id at the end is the interface `i`
    have hlast := hall.last
    rw [← runAll_append] at hlast
    cases netIdOf_inj (hinit.wf.run _).directory hnet hi hlast
    exact ⟨before, grant, after, nonce, x, rfl, hgrant, ht, hall⟩
  · rintro ⟨before, grant, after, nonce, x, rfl, hgrant, ht, hall⟩
    have hwf := (hinit.wf.run before).directory
    obtain ⟨-, hnet, -⟩ := hgrant.segment hwf (hinit.claimsOnSegments before)
    refine ⟨before, grant, after, nonce, x, rfl, hgrant, ht, fun hlater => ?_⟩
    rw [runAll_append] at hlater
    exact (throughout_netIdOf hwf hnet hall.first _).mp hall (.inr hlater)

end Router

/-! ## The check at the interface -/

section Check

variable {κ P ι : Type} [SocketVTable κ] [Profile P ι]

/-- The processor comes to a frame on `ident` with the net id `net`: the interface is `Active`
with it, or is not `Active` and the processor remembers it. -/
def RouterFrameProcessor.Current (s : RouterFrameProcessor) (p : P) (ident : ι) (net : UInt16) :
    Prop :=
  match Profile.interfaceState p ident with
  | some (.active netId _) => netId = net
  | _ => s.netId = net

omit [SocketVTable κ] in
theorem RouterFrameProcessor.sync_netId {s : RouterFrameProcessor} {p : P} {ident : ι}
    {net : UInt16} : (s.sync p ident).netId = net ↔ s.Current p ident net := by
  unfold sync Current
  cases Profile.interfaceState p ident with
  | none => rfl
  | some state => cases state <;> rfl

/-- Which frames a router's interface lets through. -/
theorem receive_isSome_iff {netId : UInt16} {frame : BorrowedFrame} {st : NetStack κ P}
    {ident : ι} {clock : FrameClock} {src : Address}
    (hsrc : routerSrc netId frame.hdr.src = some src) :
    (routerReceive netId frame st ident clock).isSome ↔
      (frame.hdr.dst.portId ≠ 0 → src.networkId = netId →
        Profile.isNodeClaimed st.profile netId src.nodeId clock.check = true) := by
  simp only [routerReceive, routerIngress, hsrc, Option.isSome_map]
  split
  · next h => simp [h]
  · next h =>
    refine iff_of_true rfl fun hport hnet => ?_
    by_contra hclaimed
    exact h ⟨hport, hnet, Bool.not_eq_true _ ▸ hclaimed⟩

end Check

variable {κ σ : Type} {N S C : Nat} [SocketVTable κ] [InterfaceSink σ]

/-- The claim check is right for every frame that the processor `s` reads from the interface `i`,
whose slot has the net id `net`. The source of a frame is the one after the rewriting. -/
structure ClaimsEnforced (r : Router σ N S C) (acts : List (Clock × Op σ)) (i : UInt8)
    (net : UInt16) (s : RouterFrameProcessor) (sockets : List (Socket κ)) : Prop where
  /-- Nobody speaks without a claim. -/
  noBypass : ∀ (frame : BorrowedFrame) (clock : FrameClock) (src : Address),
    endTime Router.span 0 acts ≤ clock.check → frame.hdr.dst.portId ≠ 0 →
    routerSrc (s.sync (runAll Router.exec r acts) i).netId frame.hdr.src = some src →
    src.networkId = net → src.nodeId ≠ centralNodeId → src.nodeId ≠ edgeNodeId →
    ((FrameProcessor.router s).receive frame ⟨sockets, runAll Router.exec r acts⟩ i
      clock).isSome →
    r.HoldsClaim acts i net src.nodeId clock.check
  /-- Whoever holds a claim, or speaks from another network, is let through. -/
  noFalseDrop : ∀ (frame : BorrowedFrame) (clock : FrameClock) (src : Address),
    endTime Router.span 0 acts ≤ clock.check →
    routerSrc (s.sync (runAll Router.exec r acts) i).netId frame.hdr.src = some src →
    src.networkId ≠ net ∨ r.HoldsClaim acts i net src.nodeId clock.check →
    ((FrameProcessor.router s).receive frame ⟨sockets, runAll Router.exec r acts⟩ i
      clock).isSome

/-- **The claim check** of an interface is right for all frames, after every run, exactly if the
processor comes to them with the net id of the slot. -/
theorem claims_enforced_iff (r : Router σ N S C) (hinit : r.Initial)
    (acts : List (Clock × Op σ)) (htimed : Timed Router.span 0 acts) (i : UInt8)
    (net : UInt16) (hnet : (runAll Router.exec r acts).netIdOf i = some net)
    (s : RouterFrameProcessor) (sockets : List (Socket κ)) :
    ClaimsEnforced r acts i net s sockets ↔ s.Current (runAll Router.exec r acts) i net := by
  rw [← RouterFrameProcessor.sync_netId]
  have hclaimed : ∀ (t : Nat) (node : UInt8), endTime Router.span 0 acts ≤ t →
      node ≠ centralNodeId → node ≠ edgeNodeId →
      ((runAll Router.exec r acts).isNodeClaimed net node t = true ↔
        r.HoldsClaim acts i net node t) := fun t node ht =>
    Router.isNodeClaimed_iff_holds r hinit acts t htimed ht hnet
  constructor
  · intro h
    by_contra hne
    -- a frame from node 255 of the network that the processor takes the segment for
    let m := (s.sync (runAll Router.exec r acts) i).netId
    let t := endTime Router.span 0 acts
    have hsrc : routerSrc m (emptyFrame m 255 m edgeNodeId).hdr.src = some ⟨m, 255, 20⟩ := by
      by_cases hm : m = 0 <;> simp [routerSrc, emptyFrame, hm, centralNodeId]
    have hport : (emptyFrame m 255 m edgeNodeId).hdr.dst.portId ≠ 0 := by
      show (20 : UInt8) ≠ 0
      decide
    have hpass := (receive_isSome_iff hsrc).mp (h.noFalseDrop (emptyFrame m 255 m edgeNodeId)
      ⟨t, .at t, .at t⟩ _ (Nat.le_refl t) hsrc (.inl hne)) hport rfl
    rw [show Profile.isNodeClaimed (runAll Router.exec r acts) m 255 t = false from
      Router.isNodeClaimed_reserved hinit acts (by decide) m t] at hpass
    cases hpass
  · intro hcurrent
    constructor
    · intro frame clock src ht hport hsrc hsame hcentral hedge hpass
      have hpass := (receive_isSome_iff hsrc).mp hpass hport (hsame.trans hcurrent.symm)
      rw [hcurrent] at hpass
      exact (hclaimed clock.check _ ht hcentral hedge).mp hpass
    · intro frame clock src ht hsrc hsource
      refine (receive_isSome_iff hsrc).mpr fun hport hsame => ?_
      have hholds := hsource.resolve_left fun hother => hother (hsame.trans hcurrent)
      rw [hcurrent]
      have hfree := hholds.reserved hinit
      refine (hclaimed clock.check _ ht ?_ ?_).mpr hholds
      · rintro heq
        rw [heq] at hfree
        revert hfree
        decide
      · rintro heq
        rw [heq] at hfree
        revert hfree
        decide

/-! ## A stale processor -/

/-- A link that was renumbered from net 1 to net 7 is silent for a while, so that it is `Inactive`
when its processor, which still has net 1, comes to the next frame. -/
def demoStale : List (TransportAct FrameQueue) :=
  [.register ⟨1000, 4, []⟩ 0, .spawn 0 1, .register ⟨1000, 4, []⟩ 0, .reassign 0 7,
    .worker 0 (.livenessTimeout false)]

/-- The same for the router. -/
def demoStaleOps : List (Clock × Op FrameQueue) :=
  [(.at 0, .registerInterface ⟨1000, 4, []⟩), (.at 0, .registerInterface ⟨1000, 4, []⟩),
    (.at 0, .reassignInterfaceNetId 0 7), (.at 0, .setInterfaceState 0 .inactive)]

/-- A frame from node 10 of net 7, that nobody has claimed, is forwarded to net 2. -/
theorem stale_processor_bypassed :
    let t := runAll Transports.step Transports.demoHub demoStale
    let t' := t.step (.worker 0 (.frame (emptyFrame 7 10 2 2) ⟨0, .at 0, .at 0⟩))
    t.workers.map RxWorker.processor = [.router (.new 1)] ∧
      t.stack.profile.netIdOf 0 = some 7 ∧ t.stack.profile.isNodeClaimed 7 10 0 = false ∧
      (t'.stack.profile.slots.toList.map fun s => (s.netId, s.port.sink.frames.length)) =
        [(7, 0), (2, 1)] ∧
      ¬ ClaimsEnforced (Transports.demoHub.stack.profile) demoStaleOps 0 7 (.new 1)
        ([] : List (Socket OwnedSocket)) := by
  intro t t'
  refine ⟨by rfl, by decide, by decide, by decide, fun h => ?_⟩
  have hholds := h.noBypass (emptyFrame 7 10 2 2) ⟨0, .at 0, .at 0⟩ ⟨7, 10, 20⟩ (by decide)
    (by decide) (by decide) rfl (by decide) (by decide) (by decide)
  have hclaimed := (Router.isNodeClaimed_iff_holds _ (.root _ _) demoStaleOps 0
    (by simp [Timed, Router.span, demoStaleOps, Clock.at]) (by decide) (by decide) (by decide)
    (by decide)).mpr hholds
  revert hclaimed
  decide

theorem claims_enforced_iff_demo :
    ClaimsEnforced (Transports.demoHub.stack.profile) (demoStaleOps.take 3) 0 7 (.new 1)
      ([] : List (Socket OwnedSocket)) :=
  (claims_enforced_iff _ (.root _ _) (demoStaleOps.take 3)
    (by simp [Timed, Router.span, demoStaleOps, Clock.at]) 0 7 (by decide) (.new 1) []).mpr rfl

end Ergot
