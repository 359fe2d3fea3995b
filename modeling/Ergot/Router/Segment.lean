import Ergot.Router.Claims

/-!
# Segments, and the claims on them

A segment is a registered interface with a net id. `SlotEffect` lists everything one operation
can do to the net id of one ident, as `SeedEffect` does for a lease.

- `netIdOf_continuous`: an ident keeps its net id until its segment goes.
- `ClaimsOnSegments`: a claim is on a segment that is there, by a node id that can be claimed.
- `claim_table_integrity`: both over whole runs. A claim that is honoured was made on the
  segment that has its net id now, and the segment has had it ever since.
-/

namespace Ergot

namespace Router

open Runs

variable {σ : Type} {N S C : Nat}

/-! ## What one operation does to a segment -/

/-- With distinct idents, the net id of an ident is the one of its slot. -/
theorem netIdOf_eq_some {r : Router σ N S C} (hwf : r.directory.Wf) {i : UInt8} {n : UInt16} :
    r.netIdOf i = some n ↔ (i, n) ∈ r.directory.links := by
  have hidents := (netIdsUnique_of_wf hwf).idents
  rw [netIdOf, Option.map_eq_some_iff]
  constructor
  · rintro ⟨slot, hslot, rfl⟩
    have hident : slot.ident = i := by simpa using List.find?_some hslot
    exact List.mem_map.mpr ⟨slot, List.mem_of_find?_eq_some hslot, by rw [hident]⟩
  · intro hmem
    obtain ⟨slot, hslot, heq⟩ := List.mem_map.mp hmem
    cases heq
    refine ⟨slot, ?_, rfl⟩
    obtain ⟨found, hfound⟩ : ∃ found,
        (r.slots.toList.find? fun s => s.ident = slot.ident) = some found := by
      rw [← Option.isSome_iff_exists, List.find?_isSome]
      exact ⟨slot, hslot, by simp⟩
    have hsame : found.ident = slot.ident := by simpa using List.find?_some hfound
    have hinj := List.inj_on_of_nodup_map (List.pairwise_map.mpr hidents)
      (List.mem_of_find?_eq_some hfound) hslot hsame
    rw [hfound, hinj]

/-- Two directories with the same links have the same net ids. -/
theorem netIdOf_congr {r r' : Router σ N S C} (hwf : r.directory.Wf) (hwf' : r'.directory.Wf)
    {i : UInt8} (h : ∀ n, (i, n) ∈ r'.directory.links ↔ (i, n) ∈ r.directory.links) :
    r'.netIdOf i = r.netIdOf i := by
  refine Option.ext fun n => ?_
  rw [netIdOf_eq_some hwf', netIdOf_eq_some hwf, h]

/-- Everything one operation can do to the net id of the ident `i`. -/
inductive SlotEffect (r : Router σ N S C) (clock : Clock) (i : UInt8) :
    Op σ → Option UInt16 → Prop
  /-- Nothing. -/
  | kept {op o} (h : o = r.netIdOf i) : SlotEffect r clock i op o
  /-- The ident is given to a new interface. -/
  | registered {sink net} (h : (r.registerInterface sink clock.now).1 = .ok i)
      (hnone : r.netIdOf i = none) (hnet : net ≠ 0) :
      SlotEffect r clock i (.registerInterface sink) (some net)
  /-- The ident is given to a new interface, which has no net id yet. -/
  | pending {sink} (h : (r.registerInterfacePending sink).1 = .ok i)
      (hnone : r.netIdOf i = none) :
      SlotEffect r clock i (.registerInterfacePending sink) (some 0)
  /-- The interface goes. -/
  | deregistered {net} (h : (r.deregisterInterface i clock.now).1 = .ok ())
      (hnet : r.netIdOf i = some net) :
      SlotEffect r clock i (.deregisterInterface i) none
  /-- The interface gets a net id, or another one. -/
  | renumbered {old net} (h : (r.reassignInterfaceNetId i net).1 = .ok ())
      (hold : r.netIdOf i = some old) (hnet : net ≠ 0) :
      SlotEffect r clock i (.reassignInterfaceNetId i net) (some net)

/-- A new slot: its ident has a net id now, and the others keep theirs. -/
theorem netIdOf_push {r r' : Router σ N S C} {slot : Slot σ}
    (hslots : r'.slots.toList = r.slots.toList ++ [slot])
    (hfresh : slot.ident ∉ r.slots.toList.map Slot.ident) (i : UInt8) :
    r.netIdOf slot.ident = none ∧
      r'.netIdOf i = if i = slot.ident then some slot.netId else r.netIdOf i := by
  have hnone : (r.slots.toList.find? fun s => s.ident = slot.ident) = none := by
    rw [List.find?_eq_none]
    intro s hs heq
    exact hfresh (List.mem_map.mpr ⟨s, hs, by simpa using heq⟩)
  refine ⟨by rw [netIdOf, hnone]; rfl, ?_⟩
  rw [netIdOf, hslots, List.find?_append]
  by_cases hi : i = slot.ident
  · subst hi
    rw [hnone, if_pos rfl]
    simp
  · rw [if_neg hi, netIdOf]
    have hsingle : [slot].find? (fun s => s.ident = i) = none := by simp [Ne.symm hi]
    rw [hsingle, Option.or_none]

variable [InterfaceSink σ]

/-- An operation that does not write to the slots. -/
theorem netIdOf_of_footprint {r : Router σ N S C} (hwf : r.directory.Wf) (clock : Clock)
    {op : Op σ} (hop : op.writes .slots = false) (i : UInt8) :
    (r.exec (clock, op)).netIdOf i = r.netIdOf i := by
  obtain ⟨r₀, hquiet, hfoot⟩ := r.exec_footprint clock op
  refine netIdOf_congr hwf (exec_wf hwf _) fun n => ?_
  rw [directory, directory, hfoot.links hop, hquiet.links]

omit [InterfaceSink σ] in
/-- An ident that is not in use any more has no net id. -/
theorem netIdOf_deregister {r r' : Router σ N S C} (hwf : r.directory.Wf) {ident : UInt8}
    {now : Nat} (h : r.deregisterInterface ident now = (.ok (), r')) :
    r'.netIdOf ident = none := by
  obtain ⟨slot, hident, -, hperm, -⟩ := deregisterInterface_ok h
  have hidents := (hperm.map Slot.ident).nodup_iff.mpr (List.pairwise_map.mpr
    (netIdsUnique_of_wf hwf).idents)
  rw [List.map_cons, List.nodup_cons, hident] at hidents
  refine Option.eq_none_iff_forall_ne_some.mpr fun n hn => hidents.1 ?_
  obtain ⟨s, hs, -⟩ := Option.map_eq_some_iff.mp hn
  have hsame : s.ident = ident := by simpa using List.find?_some hs
  exact List.mem_map.mpr ⟨s, List.mem_of_find?_eq_some hs, hsame⟩

theorem deregisterInterface_slot {r : Router σ N S C} (hwf : r.directory.Wf) (clock : Clock)
    (ident i : UInt8) : SlotEffect r clock i (.deregisterInterface ident)
      ((r.deregisterInterface ident clock.now).2.netIdOf i) := by
  have hwf' : (r.deregisterInterface ident clock.now).2.directory.Wf :=
    exec_wf hwf (clock, .deregisterInterface ident)
  rcases h : r.deregisterInterface ident clock.now with ⟨e | u, r'⟩
  · exact .kept (by rw [deregisterInterface_error h])
  · rw [h] at hwf'
    obtain ⟨slot, hident, hnet, hperm, -⟩ := deregisterInterface_ok h
    have hlinks : ((ident, slot.netId) :: r'.directory.links).Perm r.directory.links := by
      rw [← hident]
      exact hperm.map fun s : Slot σ => (s.ident, s.netId)
    show SlotEffect r clock i _ (r'.netIdOf i)
    by_cases hi : i = ident
    · subst hi
      rw [netIdOf_deregister hwf h]
      exact .deregistered (by rw [h]) hnet
    · refine .kept (netIdOf_congr hwf hwf' fun n => ?_)
      rw [← hlinks.mem_iff, List.mem_cons]
      simp [hi]

/-- The interface has the net id it was given. -/
theorem netIdOf_reassign {r r' : Router σ N S C} (hwf : r.directory.Wf) {ident : UInt8}
    {net : UInt16} (h : r.reassignInterfaceNetId ident net = (.ok (), r')) :
    r'.netIdOf ident = some net := by
  have hwf' : (r.reassignInterfaceNetId ident net).2.directory.Wf :=
    exec_wf hwf (.at 0, .reassignInterfaceNetId ident net)
  rw [h] at hwf'
  obtain ⟨slot, before, after, -, -, -, -, rfl, -, hslots, -⟩ := reassignInterfaceNetId_ok h
  rw [netIdOf_eq_some hwf', directory, hslots]
  simp

theorem reassignInterfaceNetId_slot {r : Router σ N S C} (hwf : r.directory.Wf) (clock : Clock)
    (ident : UInt8) (net : UInt16) (i : UInt8) :
    SlotEffect r clock i (.reassignInterfaceNetId ident net)
      ((r.reassignInterfaceNetId ident net).2.netIdOf i) := by
  have hwf' : (r.reassignInterfaceNetId ident net).2.directory.Wf :=
    exec_wf hwf (clock, .reassignInterfaceNetId ident net)
  rcases h : r.reassignInterfaceNetId ident net with ⟨e | u, r'⟩
  · exact .kept (by rw [reassignInterfaceNetId_error h])
  · rw [h] at hwf'
    obtain ⟨slot, before, after, hne, -, -, -, hident, hsplit, hslots, -⟩ :=
      reassignInterfaceNetId_ok h
    subst hident
    show SlotEffect r clock i _ (r'.netIdOf i)
    by_cases hi : i = slot.ident
    · subst hi
      have hold : r.netIdOf slot.ident = some slot.netId := by
        rw [netIdOf_eq_some hwf, directory, hsplit]
        simp
      rw [netIdOf_reassign hwf h]
      exact .renumbered (by rw [h]) hold hne
    · refine .kept (netIdOf_congr hwf hwf' fun n => ?_)
      rw [directory, directory, hslots, hsplit]
      simp [hi]

/-- Every operation has one of the listed effects on every ident. -/
theorem slot_effect {r : Router σ N S C} (hwf : r.directory.Wf) (clock : Clock) (op : Op σ)
    (i : UInt8) : SlotEffect r clock i op ((r.exec (clock, op)).netIdOf i) := by
  cases op with
  | registerInterface sink =>
    show SlotEffect r clock i _ ((r.registerInterface sink clock.now).2.netIdOf i)
    rcases h : r.registerInterface sink clock.now with ⟨e | ident, r'⟩
    · exact .kept (by rw [netIdOf, netIdOf, (registerInterface_error h).slots])
    · obtain ⟨net, -, halloc, hfresh, -, hslots, -⟩ := registerInterface_ok h
      obtain ⟨hnone, hnet⟩ := netIdOf_push hslots hfresh i
      show SlotEffect r clock i _ (r'.netIdOf i)
      rw [hnet]
      split
      · next hi =>
        subst hi
        exact .registered (by rw [h]) hnone (allocNetId_spec halloc).1
      · exact .kept rfl
  | registerInterfacePending sink =>
    show SlotEffect r clock i _ ((r.registerInterfacePending sink).2.netIdOf i)
    rcases h : r.registerInterfacePending sink with ⟨e | ident, r'⟩
    · exact .kept (by rw [registerInterfacePending_error h])
    · obtain ⟨hfresh, -, hslots, -⟩ := registerInterfacePending_ok h
      obtain ⟨hnone, hnet⟩ := netIdOf_push hslots hfresh i
      show SlotEffect r clock i _ (r'.netIdOf i)
      rw [hnet]
      split
      · next hi =>
        subst hi
        exact .pending (by rw [h]) hnone
      · exact .kept rfl
  | deregisterInterface ident => exact deregisterInterface_slot hwf clock ident i
  | reassignInterfaceNetId ident net => exact reassignInterfaceNetId_slot hwf clock ident net i
  | _ => exact .kept (netIdOf_of_footprint hwf clock rfl i)

/-- A segment keeps its net id until it is deregistered or renumbered. -/
theorem netIdOf_continuous {r : Router σ N S C} (hwf : r.directory.Wf) {i : UInt8} {net : UInt16}
    (hnet : r.netIdOf i = some net) (step : Clock × Op σ) :
    (r.exec step).netIdOf i = some net ∨ SegmentGone net r step := by
  obtain ⟨clock, op⟩ := step
  have heffect := slot_effect hwf clock op i
  generalize hafter : (r.exec (clock, op)).netIdOf i = after at heffect
  cases heffect with
  | kept h => exact .inl (h.trans hnet)
  | registered _ hnone => cases hnone.symm.trans hnet
  | pending _ hnone => cases hnone.symm.trans hnet
  | deregistered hok _ => exact .inr (.deregistered hok hnet)
  | @renumbered old net' hok _ _ =>
    by_cases hsame : net = net'
    · exact .inl (by rw [hsame])
    · exact .inr (.renumbered hok hnet hsame)

/-! ## Claims -/

/-- Every claim is on a segment that is there, by a node id that can be claimed. -/
def ClaimsOnSegments (r : Router σ N S C) : Prop :=
  ∀ node net e, r.nodeClaims.get node net = some e →
    reservedNodeId node = false ∧ net ≠ 0 ∧ ∃ i, r.netIdOf i = some net

omit [InterfaceSink σ] in
/-- A slot's net id is one that its ident leads to. -/
theorem netIdOf_of_slot {r : Router σ N S C} (hwf : r.directory.Wf) {net : UInt16}
    (h : ∃ s ∈ r.slots.toList, s.netId = net) : ∃ i, r.netIdOf i = some net := by
  obtain ⟨s, hs, rfl⟩ := h
  exact ⟨s.ident, (netIdOf_eq_some hwf).mpr (List.mem_map.mpr ⟨s, hs, rfl⟩)⟩

omit [InterfaceSink σ] in
/-- A claim is only granted on a segment that is there. -/
theorem requestNodeClaim_segment {r : Router σ N S C} (hwf : r.directory.Wf) {net : UInt16}
    {node : UInt8} {nonce : UInt64} {now : Nat} {a : NodeClaimAssignment}
    (h : (r.requestNodeClaim net node nonce now).1 = .ok a) :
    reservedNodeId node = false ∧ net ≠ 0 ∧ ∃ i, r.netIdOf i = some net := by
  rcases hres : r.requestNodeClaim net node nonce now with ⟨e | a', r'⟩
  · rw [hres] at h
    cases h
  · obtain ⟨hnode, hnet, hslot, -⟩ := requestNodeClaim_ok hres
    exact ⟨hnode, hnet, netIdOf_of_slot hwf hslot⟩

/-- One step keeps the claims on their segments. -/
theorem ClaimsOnSegments.step {r : Router σ N S C} (hwf : r.Wf) (h : r.ClaimsOnSegments)
    (step : Clock × Op σ) : (r.exec step).ClaimsOnSegments := by
  intro node net e he
  -- whoever has the claim after the step has the segment after the step
  have hkept : (∃ i, r.netIdOf i = some net) → ∃ i, (r.exec step).netIdOf i = some net := by
    rintro ⟨i, hi⟩
    rcases netIdOf_continuous hwf.directory hi step with hnet | hgone
    · exact ⟨i, hnet⟩
    · rw [hgone.get_eq_none node] at he
      cases he
  obtain ⟨clock, op⟩ := step
  have heffect := (claim_step hwf.directory hwf.claims clock op).effect node net
  rw [he] at heffect
  generalize ho : some e = o at heffect
  cases heffect with
  | aged haged =>
    rw [← ho] at haged
    obtain ⟨e₀, he₀, -, -⟩ := haged.of_some
    obtain ⟨hnode, hnet, hslot⟩ := h node net e₀ he₀
    exact ⟨hnode, hnet, hkept hslot⟩
  | claimed hok _ =>
    obtain ⟨hnode, hnet, hslot⟩ := requestNodeClaim_segment hwf.directory hok
    exact ⟨hnode, hnet, hkept hslot⟩
  | renewed _ he₀ _ _ _ _ =>
    obtain ⟨hnode, hnet, hslot⟩ := h node net _ he₀
    exact ⟨hnode, hnet, hkept hslot⟩
  | gone _ => cases ho

omit [InterfaceSink σ] in
theorem Initial.nodeClaims_get {r : Router σ N S C} (h : Initial r) (node : UInt8)
    (net : UInt16) : r.nodeClaims.get node net = none := by
  cases h with
  | root => rfl
  | bridge => rfl

theorem Initial.claimsOnSegments {r : Router σ N S C} (h : Initial r)
    (acts : List (Clock × Op σ)) : (runAll exec r acts).ClaimsOnSegments := by
  have hinv := runAll_inv (I := fun r : Router σ N S C => r.Wf ∧ r.ClaimsOnSegments)
    (fun r step hr => ⟨hr.1.exec step, hr.2.step hr.1 step⟩)
    ⟨h.wf, fun node net e he => by rw [h.nodeClaims_get] at he; cases he⟩ acts
  exact hinv.2

/-- The claim of `(net, node)` was made in the run, on a segment that has had the net id ever
since. -/
def MadeHere (r : Router σ N S C) (acts : List (Clock × Op σ)) (net : UInt16) (node : UInt8) :
    Prop :=
  ∃ before clock nonce after i a,
    acts = before ++ (clock, .requestNodeClaim net node nonce) :: after ∧
    ((runAll exec r before).requestNodeClaim net node nonce clock.now).1 = .ok a ∧
      Throughout exec (fun r => r.netIdOf i = some net) (runAll exec r before)
        ((clock, .requestNodeClaim net node nonce) :: after)

theorem MadeHere.snoc {r : Router σ N S C} {acts : List (Clock × Op σ)} {net : UInt16}
    {node : UInt8} {step : Clock × Op σ} (hwf : (runAll exec r acts).directory.Wf)
    (h : MadeHere r acts net node) (hno : ¬ SegmentGone net (runAll exec r acts) step) :
    MadeHere r (acts ++ [step]) net node := by
  obtain ⟨before, clock, nonce, after, i, a, rfl, hok, hall⟩ := h
  refine ⟨before, clock, nonce, after ++ [step], i, a, by simp, hok, hall.snoc ?_⟩
  rw [← runAll_append]
  have hlast := hall.last
  rw [← runAll_append] at hlast
  rcases netIdOf_continuous hwf hlast step with hnet | hgone
  · exact hnet
  · exact absurd hgone hno

/-- Every claim that is in the table was made on the segment it is on. -/
theorem madeHere_of_get {r : Router σ N S C} (hinit : Initial r) (acts : List (Clock × Op σ))
    {net : UInt16} {node : UInt8} {e : LeaseEntry UInt8 UInt64}
    (he : (runAll exec r acts).nodeClaims.get node net = some e) : MadeHere r acts net node := by
  induction acts using List.reverseRecOn generalizing e with
  | nil =>
    rw [runAll_nil, hinit.nodeClaims_get] at he
    cases he
  | append_singleton acts step ih =>
    have hwf := hinit.wf.run acts
    rw [runAll_append] at he
    have he : (exec (runAll exec r acts) step).nodeClaims.get node net = some e := he
    have hno : ¬ SegmentGone net (runAll exec r acts) step := by
      intro hgone
      rw [hgone.get_eq_none node] at he
      cases he
    obtain ⟨clock, op⟩ := step
    have heffect := (claim_step hwf.directory hwf.claims clock op).effect node net
    rw [he] at heffect
    generalize ho : some e = o at heffect
    cases heffect with
    | aged haged =>
      rw [← ho] at haged
      obtain ⟨e₀, he₀, -, -⟩ := haged.of_some
      exact (ih he₀).snoc hwf.directory hno
    | @claimed a nonce hok _ =>
      obtain ⟨-, -, i, hi⟩ := requestNodeClaim_segment hwf.directory hok
      refine ⟨acts, clock, nonce, [], i, a, rfl, hok, hi, ?_⟩
      show (exec (runAll exec r acts) _).netIdOf i = some net
      rcases netIdOf_continuous hwf.directory hi (clock, .requestNodeClaim net node nonce)
        with hnet | hgone
      · exact hnet
      · exact absurd hgone hno
    | renewed _ he₀ _ _ _ _ => exact (ih he₀).snoc hwf.directory hno
    | gone _ => cases ho

omit [InterfaceSink σ] in
/-- The node ids that can be claimed. -/
theorem reservedNodeId_eq_false {node : UInt8} :
    reservedNodeId node = false ↔ 3 ≤ node.toNat ∧ node.toNat ≤ 254 := by
  have h : ∀ n : Fin 256, reservedNodeId (UInt8.ofNat n) = false ↔
      3 ≤ (UInt8.ofNat n).toNat ∧ (UInt8.ofNat n).toNat ≤ 254 := by decide +kernel
  have h := h ⟨node.toNat, node.toNat_lt⟩
  rwa [UInt8.ofNat_toNat] at h

/-- **The table of node claims is sound**, after every run. Every entry is on the segment of a
registered slot, by a node id that is neither reserved nor one of the point-to-point roles, and
the pairs are distinct. A claim that counts at any time was made in the run, on an interface that
has had the net id of the segment from then on. -/
theorem claim_table_integrity (r : Router σ N S C) (hinit : Initial r)
    (acts : List (Clock × Op σ)) :
    (∀ e ∈ (runAll exec r acts).nodeClaims.entries.toList,
      (e.scope ≠ 0 ∧ ∃ s ∈ (runAll exec r acts).slots.toList, s.netId = e.scope) ∧
        3 ≤ e.key.toNat ∧ e.key.toNat ≤ 254) ∧
      (runAll exec r acts).nodeClaims.ids.Nodup ∧
      ∀ net node now, node ≠ centralNodeId → node ≠ edgeNodeId →
        (runAll exec r acts).isNodeClaimed net node now = true → MadeHere r acts net node := by
  have hwf := hinit.wf.run acts
  refine ⟨fun e he => ?_, hwf.claims, fun net node now hcentral hedge hclaimed => ?_⟩
  · obtain ⟨hnode, hnet, i, hi⟩ := hinit.claimsOnSegments acts e.key e.scope e
      (LeaseTable.get_of_mem hwf.claims he)
    obtain ⟨slot, hslot, hscope⟩ := Option.map_eq_some_iff.mp hi
    exact ⟨⟨hnet, slot, List.mem_of_find?_eq_some hslot, hscope⟩,
      reservedNodeId_eq_false.mp hnode⟩
  · unfold isNodeClaimed at hclaimed
    rw [if_neg (by simp [hcentral, hedge])] at hclaimed
    split at hclaimed
    · cases hclaimed
    · next e he => exact madeHere_of_get hinit acts he

theorem claim_table_integrity_demo :
    let r : Router FrameQueue 1 1 1 :=
      runAll exec (new ⟨fun i => UInt64.ofNat i, 0⟩ one_slot) demoClaims
    ((1 : UInt16) ≠ 0 ∧ ∃ s ∈ r.slots.toList, s.netId = 1) ∧ 3 ≤ (10 : UInt8).toNat ∧
      (10 : UInt8).toNat ≤ 254 :=
  (claim_table_integrity _ (.root _ _) demoClaims).1
    ⟨10, 1, 5, .fresh (secs 1) initialLeaseSecs 0⟩ (List.mem_of_getElem? (i := 0) (by decide))

end Router

end Ergot
