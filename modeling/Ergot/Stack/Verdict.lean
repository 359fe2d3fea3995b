import Ergot.Router.Forward
import Ergot.Stack.LastHop

/-!
# Verdicts

What a send answers says where the destination of its frame is: here, nowhere, back where it
came from, or behind a port that is to transmit it. That is a question about the header.

- `Verdict.of` reads an answer. `EdgePort.verdict` and `Router.due` are the verdicts that the
  states of the ports, their addresses and the routing table give. No body occurs in them.
- The typed send and the error send keep to them. `EdgePort::send_raw` looks at the size of the
  body before it looks at the state and the address of the port, so a body that does not fit
  hides what they say.
- `verdicts_iff` says when a raw send keeps to them as well. A broadcast has a verdict for each
  interface. There a raw send also tries pending slots, and it asks the upstream under the
  destination of its last leg.
-/

namespace Ergot

variable {σ : Type} {N S C : Nat}

/-- What an answer says of the destination. A port that is full or too small was to transmit the
frame. -/
inductive Verdict
  | isLocal | noRoute | loop | refused | transmit
deriving DecidableEq

def Verdict.of : Except InterfaceSendError Unit → Verdict
  | .error .destinationLocal => .isLocal
  | .error .noRouteToDest => .noRoute
  | .error .routingLoop => .loop
  | .error .ttlExpired | .error .anyPortMissingKey => .refused
  | .error .interfaceFull | .error .internalError | .error (.packetTooBig _) => .transmit
  | .ok () => .transmit

@[simp] theorem Verdict.of_noRoute : Verdict.of (.error .noRouteToDest) = .noRoute := rfl

@[simp] theorem Verdict.of_loop : Verdict.of (.error .routingLoop) = .loop := rfl

/-! ## Ports -/

namespace EdgePort

/-- What the state and the address of a port say of a header. -/
def verdict (p : EdgePort σ) (hdr : Header) : Verdict :=
  Verdict.of ((p.commonSend hdr).map fun _ => ())

/-- Whether a destination is at the other end of a port: the port is `Active`, and the address
is not its own. -/
def Takes (p : EdgePort σ) (dst : Address) : Prop :=
  p.address.isSome ∧ p.address ≠ some (dst.networkId, dst.nodeId)

instance (p : EdgePort σ) (dst : Address) : Decidable (p.Takes dst) :=
  inferInstanceAs (Decidable (_ ∧ _))

/-- What a port lets out has an appendix where it needs one. -/
theorem commonSend_ok_keyed {p : EdgePort σ} {hdr hdr' : Header} (h : p.commonSend hdr = .ok hdr') :
    hdr.Keyed := by
  unfold commonSend at h
  split at h
  · split at h
    · cases h
    · dsimp only at h
      split at h
      · cases h
      · next hkey =>
        intro hport
        rw [stampDst_portId] at hkey
        cases hany : hdr.anyAll with
        | none => exact absurd ⟨hport, by rw [hany]; rfl⟩ hkey
        | some apdx => rfl
  · cases h

theorem verdict_transmit_iff (p : EdgePort σ) {hdr : Header} :
    p.verdict hdr = .transmit ↔ p.Takes hdr.dst ∧ hdr.Keyed := by
  have hrefuses : ∀ {e}, p.commonSend hdr = .error e → Verdict.of (.error e) ≠ .transmit := by
    intro e h
    unfold commonSend at h
    split at h
    · split at h
      · cases h
        exact nofun
      · dsimp only at h
        split at h <;> cases h
        exact nofun
    · cases h
      exact nofun
  unfold verdict
  by_cases hkey : hdr.Keyed
  · rcases p.commonSend_keyed hkey with ⟨⟨e, he⟩, hno⟩ | ⟨hok, hyes⟩
    · rw [he]
      exact iff_of_false (hrefuses he) fun h => hno h.1
    · rw [hok]
      exact iff_of_true rfl ⟨hyes, hkey⟩
  · refine iff_of_false (fun h => ?_) fun h => hkey h.2
    cases hsend : p.commonSend hdr with
    | error e =>
      rw [hsend] at h
      exact hrefuses hsend h
    | ok hdr' => exact hkey (commonSend_ok_keyed hsend)

/-- Only a missing appendix is refused. -/
theorem verdict_ne_refused (p : EdgePort σ) {hdr : Header} (hkey : hdr.Keyed) :
    p.verdict hdr ≠ .refused := by
  unfold verdict
  cases hsend : p.commonSend hdr with
  | ok hdr' => exact nofun
  | error e =>
    unfold commonSend at hsend
    split at hsend
    · split at hsend
      · cases hsend
        exact nofun
      · dsimp only at hsend
        split at hsend
        · next hmissing =>
          rw [stampDst_portId] at hmissing
          have hsome := hkey hmissing.1
          simp [Option.isNone_iff_eq_none.mp hmissing.2] at hsome
        · cases hsend
    · cases hsend
      exact nofun

variable [InterfaceSink σ]

omit [InterfaceSink σ] in
theorem verdict_report (p : EdgePort σ) (r : Bool × σ) : Verdict.of (p.report r).1 = .transmit := by
  rcases @report_fst _ p r with h | h <;> rw [h] <;> rfl

theorem verdict_send (p : EdgePort σ) (hdr : Header) (msg : Msg) :
    Verdict.of (p.send hdr msg).1 = p.verdict hdr := by
  unfold send verdict
  cases p.commonSend hdr with
  | error e => rfl
  | ok hdr' => exact p.verdict_report _

theorem verdict_sendErr (p : EdgePort σ) (hdr : Header) (e : ProtocolError) :
    Verdict.of (p.sendErr hdr e).1 = p.verdict hdr := by
  unfold sendErr verdict
  cases p.commonSend hdr with
  | error e => rfl
  | ok hdr' => exact p.verdict_report _

/-- The size comes first. -/
theorem verdict_sendRaw (p : EdgePort σ) (hdr : Header) (data : List UInt8) :
    Verdict.of (p.sendRaw hdr data).1 =
      if p.fits data then p.verdict hdr else .transmit := by
  unfold sendRaw
  by_cases hfit : p.fits data
  · rw [if_neg (Nat.not_lt.mpr hfit), if_pos hfit, verdict]
    cases p.commonSend hdr with
    | error e => rfl
    | ok hdr' => exact p.verdict_report _
  · rw [if_pos (Nat.not_le.mp hfit), if_neg hfit]
    rfl

/-- A raw send gives the verdict if the body fits, or if the frame is to be transmitted. -/
theorem verdict_sendRaw_iff (p : EdgePort σ) (hdr : Header) (data : List UInt8) :
    Verdict.of (p.sendRaw hdr data).1 = p.verdict hdr ↔
      p.fits data ∨ (p.Takes hdr.dst ∧ hdr.Keyed) := by
  rw [verdict_sendRaw, ← verdict_transmit_iff]
  split
  · simp [*]
  · simp [*, eq_comm]

/-- What a raw send takes for a frame to transmit. -/
theorem sendRaw_transmit_iff (p : EdgePort σ) {hdr : Header} (hkey : hdr.Keyed)
    (data : List UInt8) :
    Verdict.of (p.sendRaw hdr data).1 = .transmit ↔ (p.fits data → p.Takes hdr.dst) := by
  rw [verdict_sendRaw]
  split
  · simp [*, verdict_transmit_iff]
  · simp [*]

end EdgePort

/-! ## Routes -/

namespace Router

/-- Sends through a route give the same verdict if they do at the port the frame leaves by. -/
theorem verdict_answer_iff (r : Router σ N S C) {dst : Address} {source : Option UInt8}
    {clock : Clock} {use use' : EdgePort σ → Except InterfaceSendError Unit} :
    Verdict.of (r.answer dst source clock use) = Verdict.of (r.answer dst source clock use') ↔
      ∀ ident port, r.Leaves dst source clock ident port →
        Verdict.of (use port) = Verdict.of (use' port) := by
  unfold answer Leaves
  by_cases hown : r.ownSlot dst = true
  · simp [hown]
  · simp only [Bool.eq_false_iff.mpr hown, true_and, Bool.false_eq_true, if_false]
    rcases r.route dst.networkId clock with _ | ⟨ident, port⟩
    · simp
    · by_cases hsource : source = some ident
      · have hno : ∀ ident' (port' : EdgePort σ), some (ident, port) = some (ident', some port') →
            ¬ source ≠ some ident' := by
          rintro ident' port' heq
          cases heq
          exact not_not_intro hsource
        simp only [if_pos hsource, true_iff]
        exact fun ident' port' h => absurd h.2 (hno ident' port' h.1)
      · cases port with
        | none => simp [hsource]
        | some port => simp [hsource]

/-! ### Floods -/

/-- Whether a leg was more than a leg without a recipient. -/
def Flood.tried (acc : Flood) : Bool := acc.anyGood || acc.genuine.isSome

/-- What a loop over legs adds to its variables: whether a leg was tried, and failures of such
legs only. -/
structure Flood.Folds (acc acc' : Flood) (tried : Bool) : Prop where
  tried : acc'.tried = (acc.tried || tried)
  genuine : (∀ e, acc.genuine = some e → Verdict.of (.error e) = .transmit) →
    ∀ e, acc'.genuine = some e → Verdict.of (.error e) = .transmit

namespace Flood

theorem Folds.refl (acc : Flood) : Folds acc acc false := ⟨(Bool.or_false _).symm, id⟩

theorem Folds.trans {acc acc' acc'' : Flood} {tried tried' : Bool} (h : Folds acc acc' tried)
    (h' : Folds acc' acc'' tried') : Folds acc acc'' (tried || tried') :=
  ⟨by rw [h'.tried, h.tried, Bool.or_assoc], h'.genuine ∘ h.genuine⟩

/-- A leg without a recipient leaves no trace, whatever the reason. -/
theorem folds_foldBroadcastLeg {res : Except InterfaceSendError Unit} (acc : Flood)
    (h : Verdict.of res ≠ .refused) :
    Folds acc (foldBroadcastLeg res acc) (Verdict.of res = .transmit) := by
  cases res with
  | ok u => exact ⟨by simp [Flood.tried, foldBroadcastLeg, Verdict.of], id⟩
  | error e =>
    cases e with
    | destinationLocal => exact .refl acc
    | noRouteToDest => exact .refl acc
    | routingLoop => exact .refl acc
    | anyPortMissingKey => exact absurd rfl h
    | ttlExpired => exact absurd rfl h
    | _ =>
      refine ⟨by simp [Flood.tried, foldBroadcastLeg, Verdict.of], fun _ e' he => ?_⟩
      cases he
      rfl

theorem Folds.leg {acc acc' : Flood} {tried : Bool} (h : Folds acc acc' tried)
    {res : Except InterfaceSendError Unit} (hres : Verdict.of res ≠ .refused) :
    Folds acc (foldBroadcastLeg res acc') (tried || decide (Verdict.of res = .transmit)) :=
  h.trans (folds_foldBroadcastLeg acc' hres)

/-- What a flood reports. -/
theorem Folds.result {acc : Flood} {tried : Bool} (h : Folds ⟨false, none⟩ acc tried)
    (e : InterfaceSendError) :
    Verdict.of (acc.result e) = if tried then .transmit else Verdict.of (.error e) := by
  have htried : acc.tried = tried := by rw [h.tried]; exact Bool.false_or _
  have hgenuine := h.genuine nofun
  rw [← htried, Flood.tried, Flood.result]
  cases acc.anyGood with
  | true => rfl
  | false =>
    cases hg : acc.genuine with
    | none => rfl
    | some e' => exact hgenuine e' hg

end Flood

end Router

namespace Iface

/-- The header of the leg over an interface. -/
def leg (hdr : Header) : Iface σ → Header
  | .slot s => Router.legHdr hdr s.netId
  | .upstream _ => hdr

/-- Whether a broadcast is to be transmitted over an interface. -/
def due (hdr : Header) (i : Iface σ) : Bool :=
  i.pending = false ∧ i.port.verdict (i.leg hdr) = .transmit

theorem due_slot_iff {hdr : Header} (hkey : hdr.anyAll.isSome) {s : Slot σ} :
    (slot s).due hdr = true ↔ s.netId ≠ 0 ∧ s.port.Takes (Router.legHdr hdr s.netId).dst := by
  have hkey' : (Router.legHdr hdr s.netId).Keyed := fun _ => hkey
  simp [due, pending, port, leg, EdgePort.verdict_transmit_iff, hkey']

theorem due_upstream_iff {hdr : Header} (hkey : hdr.anyAll.isSome) {up : EdgePort σ} :
    (upstream up).due hdr = true ↔ up.Takes hdr.dst := by
  have hkey' : hdr.Keyed := fun _ => hkey
  simp [due, pending, port, leg, EdgePort.verdict_transmit_iff, hkey']

end Iface

namespace Router

/-- The verdict on a broadcast that did not come from `source` and goes out over some
interfaces. -/
def floodVerdict (r : Router σ N S C) (source : Option UInt8) (goes : Iface σ → Bool) : Verdict :=
  if r.interfaces.any (fun i => source != some i.ident && goes i) then .transmit
  else if r.interfaces ≠ [] ∧ r.interfaces.all (fun i => source == some i.ident) then .loop
  else .noRoute

theorem floodVerdict_eq (r : Router σ N S C) (source : Option UInt8) (goes : Iface σ → Bool) :
    r.floodVerdict source goes =
      if (r.slots.toList.any fun s => source != some s.ident && goes (.slot s)) ||
          (r.upstream.any fun up => source != some upstreamIdent && goes (.upstream up)) then
        .transmit
      else if ¬ (r.slots.toList.isEmpty ∧ r.upstream.isNone) ∧
          (r.slots.toList.all fun s => source == some s.ident) ∧
          (r.upstream.all fun _ => source == some upstreamIdent) then .loop
      else .noRoute := by
  cases hup : r.upstream <;>
    simp [floodVerdict, interfaces, hup, List.any_map, Function.comp_def, Iface.ident]

/-- The header under which a raw send offers a frame to an interface. -/
def rawLeg (r : Router σ N S C) (hdr : Header) (source : UInt8) : Iface σ → Header
  | .slot s => legHdr hdr s.netId
  | .upstream _ => r.lastLegHdr hdr source

variable [InterfaceSink σ]

/-- Whether a raw send takes an interface for one with a recipient. -/
def rawGoes (r : Router σ N S C) (hdr : Header) (source : UInt8) (data : List UInt8)
    (i : Iface σ) : Bool :=
  Verdict.of (i.port.sendRaw (r.rawLeg hdr source i) data).1 = .transmit

@[simp] theorem rawGoes_slot (r : Router σ N S C) (hdr : Header) (source : UInt8)
    (data : List UInt8) (s : Slot σ) :
    r.rawGoes hdr source data (.slot s) =
      decide (Verdict.of (s.port.sendRaw (legHdr hdr s.netId) data).1 = .transmit) := rfl

@[simp] theorem rawGoes_upstream (r : Router σ N S C) (hdr : Header) (source : UInt8)
    (data : List UInt8) (up : EdgePort σ) :
    r.rawGoes hdr source data (.upstream up) =
      decide (Verdict.of (up.sendRaw (r.lastLegHdr hdr source) data).1 = .transmit) := rfl

theorem rawGoes_slot_iff (r : Router σ N S C) {hdr : Header} (hkey : hdr.anyAll.isSome)
    {source : UInt8} {data : List UInt8} {s : Slot σ} :
    r.rawGoes hdr source data (.slot s) = true ↔
      (s.port.fits data → s.port.Takes (legHdr hdr s.netId).dst) := by
  have hkey' : (legHdr hdr s.netId).Keyed := fun _ => hkey
  rw [rawGoes_slot, decide_eq_true_eq, s.port.sendRaw_transmit_iff hkey']

theorem rawGoes_upstream_iff (r : Router σ N S C) {hdr : Header} (hkey : hdr.anyAll.isSome)
    {source : UInt8} {data : List UInt8} {up : EdgePort σ} :
    r.rawGoes hdr source data (.upstream up) = true ↔
      (up.fits data → up.Takes (r.lastLegHdr hdr source).dst) := by
  have hlast : (r.lastLegHdr hdr source).Keyed := by
    rcases r.lastLegHdr_cases hdr source with h | ⟨n, h⟩ <;> rw [h] <;> exact fun _ => hkey
  rw [rawGoes_upstream, decide_eq_true_eq, up.sendRaw_transmit_iff hlast]

/-- The typed loop over the slots. -/
theorem sendLeg_folds {hdr : Header} (hkey : hdr.anyAll.isSome) (msg : Msg) (acc : Flood)
    (slots : List (Slot σ)) :
    Flood.Folds acc (HeaplessVec.forEachList (sendLeg hdr msg) acc slots).1
      (slots.any fun s => (Iface.slot s).due hdr) := by
  induction slots generalizing acc with
  | nil => exact .refl acc
  | cons s slots ih =>
    have hleg : Flood.Folds acc (sendLeg hdr msg acc s).1 ((Iface.slot s).due hdr) := by
      unfold sendLeg
      by_cases hnet : s.netId = 0
      · rw [if_pos hnet]
        simpa [Iface.due, hnet, Iface.pending] using Flood.Folds.refl acc
      · rw [if_neg hnet]
        have hsend := s.port.verdict_send (legHdr hdr s.netId) msg
        have hdue : (Iface.slot s).due hdr =
            decide (Verdict.of (s.port.send (legHdr hdr s.netId) msg).1 = .transmit) := by
          simp [Iface.due, Iface.pending, hnet, hsend, Iface.port, Iface.leg]
        rw [hdue]
        refine Flood.folds_foldBroadcastLeg acc ?_
        rw [hsend]
        exact s.port.verdict_ne_refused fun _ => hkey
    rw [List.any_cons]
    exact hleg.trans (ih _)

/-- A raw leg is not refused. -/
theorem verdict_sendRaw_ne_refused (p : EdgePort σ) {hdr : Header} (hkey : hdr.Keyed)
    (data : List UInt8) : Verdict.of (p.sendRaw hdr data).1 ≠ .refused := by
  rw [p.verdict_sendRaw]
  split
  · exact p.verdict_ne_refused hkey
  · exact nofun

/-- The raw loop over the slots: the rewritten header makes no difference to the next leg. -/
theorem sendRawLeg_folds {hdr : Header} (hkey : hdr.anyAll.isSome) (data : List UInt8)
    (source : UInt8) (st : RawFlood) (hst : ∀ n, legHdr st.hdr n = legHdr hdr n)
    (slots : List (Slot σ)) :
    Flood.Folds st.acc (HeaplessVec.forEachList (sendRawLeg data source) st slots).1.acc
        (slots.any fun s => source != s.ident &&
          decide (Verdict.of (s.port.sendRaw (legHdr hdr s.netId) data).1 = .transmit)) ∧
      (HeaplessVec.forEachList (sendRawLeg data source) st slots).1.defaultError =
        if slots.all (fun s => source == s.ident) then st.defaultError else .noRouteToDest := by
  induction slots generalizing st with
  | nil => exact ⟨.refl _, rfl⟩
  | cons s slots ih =>
    by_cases hsource : source = s.ident
    · -- the source is left out
      subst hsource
      have hleg : sendRawLeg data s.ident st s = (st, s) := by rw [sendRawLeg, if_pos rfl]
      simpa [HeaplessVec.forEachList, hleg] using ih st hst
    · have hleg : (sendRawLeg data source st s).1 =
          ⟨legHdr hdr s.netId, .noRouteToDest,
            foldBroadcastLeg (s.port.sendRaw (legHdr hdr s.netId) data).1 st.acc⟩ := by
        rw [sendRawLeg, if_neg hsource, hst]
      obtain ⟨hfolds, hdefault⟩ := ih (sendRawLeg data source st s).1 (by rw [hleg]; intro n; rfl)
      rw [hleg] at hfolds hdefault
      constructor
      · have hfold := Flood.folds_foldBroadcastLeg st.acc
          (verdict_sendRaw_ne_refused s.port (show (legHdr hdr s.netId).Keyed from fun _ => hkey) data)
        rw [HeaplessVec.forEachList, hleg, List.any_cons, bne_iff_ne.mpr hsource, Bool.true_and]
        exact hfold.trans hfolds
      · rw [HeaplessVec.forEachList, hleg]
        simpa [hsource] using hdefault

section Floods

variable (r : Router σ N S C) {hdr hdr' : Header} (clock : Clock)
  (hdec : hdr.decrementTtl = .ok hdr') (hall : hdr'.dst.portId = 255) (hkey : hdr'.anyAll.isSome)

include hdec hall hkey

/-- What a typed flood reports. -/
theorem verdict_send_flood (msg : Msg) :
    Verdict.of (r.send hdr msg clock).1 = r.floodVerdict none (Iface.due hdr') := by
  have hnone : hdr'.anyAll.isNone = false := by cases h : hdr'.anyAll <;> simp_all
  have hslots := sendLeg_folds hkey msg ⟨false, none⟩ r.slots.toList
  simp only [send, hdec, if_pos hall, hnone, Bool.false_eq_true, if_false]
  cases hup : r.upstream with
  | none =>
    refine (hslots.result _).trans ?_
    rw [floodVerdict_eq, hup]
    cases r.slots.toList <;> simp
  | some up =>
    have hsend := up.verdict_send hdr' msg
    have hres : Verdict.of (up.send hdr' msg).1 ≠ .refused := by
      rw [hsend]
      exact up.verdict_ne_refused fun _ => hkey
    refine ((hslots.leg hres).result _).trans ?_
    rw [hsend, floodVerdict_eq, hup]
    simp [Iface.due, Iface.pending, Iface.port, Iface.leg]

/-- What a raw flood reports. -/
theorem verdict_sendRaw_flood (data : List UInt8) (source : UInt8) :
    Verdict.of (r.sendRaw hdr data source clock).1 =
      r.floodVerdict (some source) (r.rawGoes hdr' source data) := by
  have hnone : hdr'.anyAll.isNone = false := by cases h : hdr'.anyAll <;> simp_all
  obtain ⟨hslots, hdefault⟩ := sendRawLeg_folds hkey data source
    ⟨hdr', .routingLoop, ⟨false, none⟩⟩ (fun _ => rfl) r.slots.toList
  have hlast : (HeaplessVec.forEachList (sendRawLeg data source)
      ⟨hdr', .routingLoop, ⟨false, none⟩⟩ r.slots.toList).1.hdr = r.lastLegHdr hdr' source :=
    sendRawLeg_hdr data source _ r.slots.toList
  simp only [sendRaw, hdec, if_pos hall, hnone, Bool.false_eq_true, if_false]
  rw [floodVerdict_eq]
  split
  · next hempty =>
    obtain ⟨hslots', hup⟩ := hempty
    simp [List.isEmpty_iff.mp hslots', Option.isNone_iff_eq_none.mp hup]
  · next hempty =>
    simp only [HeaplessVec.forEach]
    generalize (HeaplessVec.forEachList (sendRawLeg data source)
      ⟨hdr', .routingLoop, ⟨false, none⟩⟩ r.slots.toList).1 = st at hslots hdefault hlast
    have hslots : Flood.Folds ⟨false, none⟩ st.acc _ := hslots
    have hdefault : Verdict.of (.error st.defaultError) =
        if r.slots.toList.all (fun s => source == s.ident) then .loop else .noRoute := by
      rw [hdefault]
      split <;> rfl
    cases hup : r.upstream with
    | none =>
      refine (hslots.result _).trans ?_
      rw [hup] at hempty
      have hne : r.slots.toList ≠ [] := by simpa using hempty
      rw [hdefault]
      simp [hne]
    | some up =>
      by_cases hsource : source = upstreamIdent
      · -- the frame came in by the upstream
        simp only [if_pos hsource]
        refine (hslots.result _).trans ?_
        rw [hdefault]
        simp [hsource]
      · have hres : Verdict.of (up.sendRaw st.hdr data).1 ≠ .refused := by
          refine verdict_sendRaw_ne_refused up ?_ data
          rw [hlast]
          rcases r.lastLegHdr_cases hdr' source with h | ⟨n, h⟩ <;> rw [h] <;> exact fun _ => hkey
        simp only [if_neg hsource]
        refine ((hslots.leg hres).result _).trans ?_
        rw [hlast]
        simp [hsource]

end Floods

/-! ## The law -/

omit [InterfaceSink σ] in
/-- Interfaces that the frame came in by do not matter. -/
theorem floodVerdict_congr {r : Router σ N S C} {source : Option UInt8} {goes goes' : Iface σ → Bool}
    (h : ∀ i ∈ r.interfaces, source ≠ some i.ident → goes i = goes' i) :
    r.floodVerdict source goes = r.floodVerdict source goes' := by
  have hany : (r.interfaces.any fun i => source != some i.ident && goes i) =
      r.interfaces.any fun i => source != some i.ident && goes' i := by
    rw [Bool.eq_iff_iff, List.any_eq_true, List.any_eq_true]
    refine exists_congr fun i => and_congr_right fun hi => ?_
    by_cases hsource : source = some i.ident
    · simp [hsource]
    · rw [h i hi hsource]
  rw [floodVerdict, floodVerdict, hany]

omit [InterfaceSink σ] in
/-- The verdict on a frame that did not come from `source`. -/
def due (r : Router σ N S C) (hdr : Header) (source : Option UInt8) (clock : Clock) : Verdict :=
  match hdr.decrementTtl with
  | .error _ => .refused
  | .ok hdr =>
    if hdr.dst.portId = 255 then
      if hdr.anyAll.isNone then .refused else r.floodVerdict source (Iface.due hdr)
    else if hdr.dst.portId = 0 ∧ hdr.anyAll.isNone then .refused
    else Verdict.of (r.answer hdr.dst source clock fun p => (p.commonSend hdr).map fun _ => ())

end Router

/-- The interface that the frame of a send came in by. -/
def Sending.source {ι : Type} : Sending ι → Option ι
  | .data (.raw _ source) => some source
  | .data _ => none
  | .err _ source => source

namespace Router

variable [InterfaceSink σ]

/-- A send gives the verdict on its header, whatever its body is; and so does a raw send to the
broadcast port on each leg. An error has one destination. -/
structure SameVerdict (r : Router σ N S C) (hdr : Header) (clock : Clock) (s : Sending UInt8) :
    Prop where
  result : (∀ e source, s = .err e source → hdr.dst.portId ≠ 255) →
    Verdict.of (s.smgr hdr clock r).1 = r.due hdr s.source clock
  legs : ∀ data source hdr', s = .data (.raw data source) → hdr.decrementTtl = .ok hdr' →
    hdr.dst.portId = 255 → hdr.anyAll.isSome →
      ∀ i ∈ r.interfaces, i.ident ≠ source → r.rawGoes hdr' source data i = i.due hdr'

/-- Whether the size of a raw body hides no verdict: it fits every port that would not transmit
it, no pending slot would transmit it, and the upstream would do the same under either
destination. -/
def Discloses (r : Router σ N S C) (hdr : Header) (clock : Clock) (data : List UInt8)
    (source : UInt8) : Prop :=
  if hdr.dst.portId = 255 then
    (∀ s ∈ r.slots.toList, s.ident ≠ source →
      if s.netId = 0 then s.port.fits data ∧ ¬ s.port.Takes (legHdr hdr s.netId).dst
      else s.port.fits data ∨ s.port.Takes (legHdr hdr s.netId).dst) ∧
    (∀ up, r.upstream = some up → upstreamIdent ≠ source →
      if up.fits data then (up.Takes (r.lastLegHdr hdr source).dst ↔ up.Takes hdr.dst)
      else up.Takes hdr.dst)
  else
    ∀ ident port, r.Leaves hdr.dst (some source) clock ident port →
      port.fits data ∨ port.Takes hdr.dst

/-- A frame without a hop left, or without an appendix that it needs, is refused by every send. -/
theorem verdict_refused (r : Router σ N S C) {hdr : Header} (clock : Clock) (s : Sending UInt8)
    (herr : ∀ e source, s = .err e source → hdr.dst.portId ≠ 255)
    (h : hdr.ttl = 0 ∨ ¬ hdr.Keyed) :
    Verdict.of (s.smgr hdr clock r).1 = .refused ∧ r.due hdr s.source clock = .refused := by
  by_cases httl : hdr.ttl = 0
  · refine ⟨?_, by simp [due, Header.decrementTtl, httl]⟩
    cases s with
    | data path =>
      cases path <;>
        simp [Sending.smgr, SendPath.smgr, Profile.send, Profile.sendRaw, send, sendRaw,
          Header.decrementTtl, httl, Verdict.of]
    | err e source => simp [Sending.smgr, Profile.sendErr, sendErr, Header.decrementTtl, httl, Verdict.of]
  · obtain ⟨hport, hany⟩ : (hdr.dst.portId = 0 ∨ hdr.dst.portId = 255) ∧ hdr.anyAll = none := by
      have hno := h.resolve_left httl
      unfold Header.Keyed at hno
      rw [Classical.not_imp] at hno
      exact ⟨hno.1, by simpa using hno.2⟩
    have hdec := Header.decrementTtl_of_ne httl
    refine ⟨?_, by rcases hport with hport | hport <;> simp [due, hdec, hport, hany]⟩
    cases s with
    | data path =>
      rcases hport with hport | hport <;> cases path <;>
        simp [Sending.smgr, SendPath.smgr, Profile.send, Profile.sendRaw, send, sendRaw, hdec,
          findThen, find, hport, hany, Verdict.of]
    | err e source =>
      have hport := hport.resolve_right (herr e source rfl)
      simp [Sending.smgr, Profile.sendErr, sendErr, hdec, findThen, find, hport, hany, Verdict.of]

section Keyed

variable (r : Router σ N S C) {hdr : Header} (clock : Clock) (httl : hdr.ttl ≠ 0)
  (hkey : hdr.Keyed)

include httl hkey

theorem verdict_send (msg : Msg) :
    Verdict.of (r.send hdr msg clock).1 = r.due hdr none clock := by
  have hdec := Header.decrementTtl_of_ne httl
  by_cases hall : hdr.dst.portId = 255
  · have hsome := hkey (.inr hall)
    rw [r.verdict_send_flood clock hdec hall hsome]
    simp [due, hdec, hall, Option.isNone_eq_false_iff.mpr hsome]
  · rw [send_answer r msg clock hkey.any hall httl]
    simp only [due, hdec, if_neg hall, if_neg hkey.any]
    exact r.verdict_answer_iff.mpr fun _ port _ => port.verdict_send _ msg

theorem verdict_sendErr (e : ProtocolError) (source : Option UInt8) (hall : hdr.dst.portId ≠ 255) :
    Verdict.of (r.sendErr hdr e source clock).1 = r.due hdr source clock := by
  have hdec := Header.decrementTtl_of_ne httl
  rw [sendErr_answer r e source clock hkey.any httl]
  simp only [due, hdec, if_neg hall, if_neg hkey.any]
  exact r.verdict_answer_iff.mpr fun _ port _ => port.verdict_sendErr _ e

/-- The unicast raw send. -/
theorem verdict_sendRaw_unicast_iff (data : List UInt8) (source : UInt8)
    (hall : hdr.dst.portId ≠ 255) :
    Verdict.of (r.sendRaw hdr data source clock).1 = r.due hdr (some source) clock ↔
      r.Discloses hdr clock data source := by
  have hdec := Header.decrementTtl_of_ne httl
  rw [sendRaw_answer r data source clock hkey.any hall httl]
  simp only [due, hdec, if_neg hall, if_neg hkey.any, Discloses]
  rw [verdict_answer_iff]
  refine forall₃_congr fun ident port _ => ?_
  exact (port.verdict_sendRaw_iff _ data).trans (or_congr_right (and_iff_left hkey))

omit httl hkey [InterfaceSink σ] in
theorem forall_interfaces (r : Router σ N S C) {p : Iface σ → Prop} :
    (∀ i ∈ r.interfaces, p i) ↔
      (∀ s ∈ r.slots.toList, p (.slot s)) ∧ ∀ up, r.upstream = some up → p (.upstream up) := by
  simp [interfaces, or_imp, forall_and]

omit httl in
/-- The legs of the raw flood. -/
theorem rawGoes_eq_due_iff (data : List UInt8) (source : UInt8) (hall : hdr.dst.portId = 255) :
    (∀ i ∈ r.interfaces, i.ident ≠ source →
        r.rawGoes { hdr with ttl := hdr.ttl - 1 } source data i =
          i.due { hdr with ttl := hdr.ttl - 1 }) ↔
      r.Discloses hdr clock data source := by
  have hsome := hkey (.inr hall)
  have hsome' : ({ hdr with ttl := hdr.ttl - 1 } : Header).anyAll.isSome := hsome
  rw [forall_interfaces, Discloses, if_pos hall]
  refine and_congr (forall₃_congr fun s _ hsource => ?_) (forall₃_congr fun up _ hsource => ?_)
  · rw [Bool.eq_iff_iff, rawGoes_slot_iff _ hsome', Iface.due_slot_iff hsome']
    show ((s.port.fits data → s.port.Takes (legHdr hdr s.netId).dst) ↔
      s.netId ≠ 0 ∧ s.port.Takes (legHdr hdr s.netId).dst) ↔ _
    by_cases hnet : s.netId = 0 <;> by_cases hfit : s.port.fits data <;> simp [hnet, hfit]
  · rw [Bool.eq_iff_iff, rawGoes_upstream_iff _ hsome', Iface.due_upstream_iff hsome',
      lastLegHdr_ttl]
    by_cases hfit : up.fits data <;> simp [hfit]

/-- A raw send. The verdicts on its legs decide what a flood reports. -/
theorem sameVerdict_raw_iff (data : List UInt8) (source : UInt8) :
    r.SameVerdict hdr clock (.data (.raw data source)) ↔ r.Discloses hdr clock data source := by
  have hdec := Header.decrementTtl_of_ne httl
  by_cases hall : hdr.dst.portId = 255
  · have hsome := hkey (.inr hall)
    rw [← r.rawGoes_eq_due_iff clock hkey data source hall]
    constructor
    · exact fun h => h.legs data source _ rfl hdec hall hsome
    · intro h
      refine ⟨fun _ => ?_, fun data' source' hdr' hs hdec' _ _ => ?_⟩
      · show Verdict.of (r.sendRaw hdr data source clock).1 = r.due hdr (some source) clock
        rw [r.verdict_sendRaw_flood clock hdec hall hsome]
        simp only [due, hdec, if_pos hall, Option.isNone_eq_false_iff.mpr hsome, Bool.false_eq_true,
          if_false]
        exact floodVerdict_congr fun i hi hsource => h i hi fun heq => hsource (by rw [heq])
      · cases hs
        cases hdec.symm.trans hdec'
        exact h
  · rw [← r.verdict_sendRaw_unicast_iff clock httl hkey data source hall]
    exact ⟨fun h => h.result nofun, fun h => ⟨fun _ => h, fun _ _ _ _ _ h255 => absurd h255 hall⟩⟩

end Keyed

/-- When the verdict on a frame is independent of its body and of the way it is sent. -/
theorem verdicts_iff :
    (∀ (p : EdgePort σ) (hdr : Header) (payload : Payload),
      Verdict.of (p.answer hdr payload) = p.verdict hdr ↔
        ∀ data, payload = .raw data → p.fits data ∨ (p.Takes hdr.dst ∧ hdr.Keyed)) ∧
    (∀ (r : Router σ N S C) (hdr : Header) (clock : Clock) (s : Sending UInt8),
      r.SameVerdict hdr clock s ↔
        ∀ data source, s = .data (.raw data source) → hdr.ttl ≠ 0 → hdr.Keyed →
          r.Discloses hdr clock data source) := by
  constructor
  · intro p hdr payload
    cases payload with
    | ty msg => exact iff_of_true (p.verdict_send hdr msg) nofun
    | raw data =>
      refine (p.verdict_sendRaw_iff hdr data).trans ⟨fun h data' heq => ?_, fun h => h data rfl⟩
      cases heq
      exact h
    | err e => exact iff_of_true (p.verdict_sendErr hdr e) nofun
  · intro r hdr clock s
    by_cases hrefused : hdr.ttl = 0 ∨ ¬ hdr.Keyed
    · refine iff_of_true ⟨fun herr => ?_, fun data source hdr' hs hdec hall hsome => ?_⟩
        fun data source _ httl hkey => (hrefused.elim httl (· hkey)).elim
      · obtain ⟨hsend, hdue⟩ := r.verdict_refused clock s herr hrefused
        rw [hsend, hdue]
      · have httl := (Header.decrementTtl_ok hdec).1
        exact (hrefused.elim httl (· fun _ => hsome)).elim
    · obtain ⟨httl, hkey⟩ : hdr.ttl ≠ 0 ∧ hdr.Keyed := by simpa using hrefused
      cases s with
      | data path =>
        cases path with
        | ty msg => exact iff_of_true ⟨fun _ => r.verdict_send clock httl hkey msg, nofun⟩ nofun
        | bor msg => exact iff_of_true ⟨fun _ => r.verdict_send clock httl hkey msg, nofun⟩ nofun
        | raw data source =>
          have hlaw := r.sameVerdict_raw_iff clock httl hkey data source
          refine hlaw.trans ⟨fun h data' source' hs _ _ => ?_, fun h => h data source rfl httl hkey⟩
          cases hs
          exact h
      | err e source =>
        exact iff_of_true
          ⟨fun h => r.verdict_sendErr clock httl hkey e source (h e source rfl), nofun⟩ nofun

/-! ## An interface that is down -/

/-- A root router with one segment, whose interface is down. -/
def demoDown : Router FrameQueue 1 1 1 :=
  let r := ((new ⟨fun i => UInt64.ofNat i, 0⟩ one_slot).registerInterface ⟨64, 1, []⟩ 0).2
  (r.setInterfaceState 0 .down).2

/-- A topic message for everybody that came in by the interface 5. -/
def demoShout : Header :=
  ⟨⟨7, 2, 20⟩, ⟨0, 0, 255⟩, some ⟨⟨.replicate 8 0⟩, none⟩, .topicMsg, .normal, 15⟩

/-- A short message finds no recipient, and a long one finds the interface too small. -/
theorem long_body_hides_verdict :
    (demoDown.sendRaw demoShout (.replicate 40 7) 5 (.at 0)).1 = .error .noRouteToDest ∧
      (demoDown.sendRaw demoShout (.replicate 41 7) 5 (.at 0)).1 = .error (.packetTooBig 64) ∧
      ¬ demoDown.SameVerdict demoShout (.at 0) (.data (.raw (.replicate 41 7) 5)) := by
  refine ⟨rfl, rfl, fun h => ?_⟩
  exact nomatch (show Verdict.transmit = Verdict.noRoute from h.result nofun)

end Router

end Ergot
