import Mathlib.Data.List.Induction
import Ergot.Router.Effect

/-!
# Node claims are exclusive

A grant of `(net, node)` to a nonce, with the instant `x` at which the lease
expires, is *kept* by every step that does not take the segment away: the entry
stays, under the same nonce, until 30 seconds after `x`. So no other nonce is granted
the pair before (`claim_exclusive`).

Read the other way round, every active claim in the table goes back to a grant with
the expiration it has, after which the segment has not gone (`granted_of_active`).
Together they say when `isNodeClaimed` answers `true` (`isNodeClaimed_iff`).
-/

namespace Ergot

namespace Router

open Runs

variable {σ : Type} {N S C : Nat}

/-- The claim of `(net, node)` is active and `tok` is its current token. -/
def CurrentClaimToken (r : Router σ N S C) (net : UInt16) (node : UInt8) (tok : Token) : Prop :=
  ∃ e l, r.nodeClaims.get node net = some e ∧ e.kind = .active l ∧ l.refreshToken = tok

/-- After `r'`, the claim of `(net, node)` belongs to `nonce` and expires at `x`. -/
def ClaimedUntil (net : UInt16) (node : UInt8) (nonce : UInt64) (x : Nat)
    (r' : Router σ N S C) : Prop :=
  ∃ e l, r'.nodeClaims.get node net = some e ∧ e.extra = nonce ∧ e.kind = .active l ∧
    l.expiration = x

/-- The step grants `(net, node)` to `nonce` until `x`: a claim, or a refresh that is
not a replay. -/
inductive ClaimGranted (net : UInt16) (node : UInt8) (nonce : UInt64) (x : Nat)
    (r : Router σ N S C) : Clock × Op σ → Prop
  | claimed {clock a} (h : (r.requestNodeClaim net node nonce clock.now).1 = .ok a)
      (hx : ClaimedUntil net node nonce x (r.requestNodeClaim net node nonce clock.now).2) :
      ClaimGranted net node nonce x r (clock, .requestNodeClaim net node nonce)
  | renewed {clock tok a} (h : (r.refreshNodeClaim net node tok clock.now).1 = .ok a)
      (htok : CurrentClaimToken r net node tok)
      (hx : ClaimedUntil net node nonce x (r.refreshNodeClaim net node tok clock.now).2) :
      ClaimGranted net node nonce x r (clock, .refreshNodeClaim net node tok)

/-- The table keeps `(net, node)` for `nonce` until `d` or later. -/
def ClaimHeld (net : UInt16) (node : UInt8) (nonce : UInt64) (d : Nat)
    (r : Router σ N S C) : Prop :=
  ∃ e, r.nodeClaims.get node net = some e ∧ e.extra = nonce ∧ d ≤ e.kind.reservedUntil

/-- Before the deadline, aging keeps the claim held. -/
theorem ClaimHeld.of_aged {net : UInt16} {node : UInt8} {nonce : UInt64} {d now : Nat}
    {r : Router σ N S C} {t : LeaseTable UInt8 UInt64 C} (h : ClaimHeld net node nonce d r)
    (hnow : now < d) (haged : Aged now (r.nodeClaims.get node net) (t.get node net)) :
    ∃ e, t.get node net = some e ∧ e.extra = nonce ∧ d ≤ e.kind.reservedUntil := by
  obtain ⟨e, he, hnonce, hd⟩ := h
  rw [he] at haged
  obtain ⟨k, hk, hages⟩ := haged.of_reserved (Nat.lt_of_lt_of_le hnow hd)
  exact ⟨_, hk, hnonce, by rw [← hages.reservedUntil] at hd; exact hd⟩

/-- A held claim is not granted to another nonce before the deadline. -/
theorem ClaimHeld.granted_late {net : UInt16} {node : UInt8} {nonce nonce' : UInt64} {d now : Nat}
    {r : Router σ N S C} {a : NodeClaimAssignment} (hwf : r.Wf)
    (h : ClaimHeld net node nonce d r) (hne : nonce' ≠ nonce)
    (hok : (r.requestNodeClaim net node nonce' now).1 = .ok a) : d ≤ now := by
  by_contra hlt
  obtain ⟨e, he, hnonce, -⟩ := h.of_aged (Nat.not_le.mp hlt)
    (LeaseTable.aged_get_gc hwf.claims now node net)
  cases hreq : r.requestNodeClaim net node nonce' now with
  | mk res r' =>
    rw [hreq] at hok
    cases hok
    obtain ⟨-, -, -, ⟨e', -, he', -, hnonce', -⟩ | ⟨hnone, -⟩⟩ := requestNodeClaim_ok hreq
    · rw [he] at he'
      cases he'
      exact hne (hnonce'.symm.trans hnonce)
    · rw [he] at hnone
      cases hnone

/-- A grant until `x` holds the claim through the grace period. -/
theorem ClaimGranted.held [InterfaceSink σ] {net : UInt16} {node : UInt8} {nonce : UInt64}
    {x : Nat} {r : Router σ N S C} {step : Clock × Op σ}
    (h : ClaimGranted net node nonce x r step) :
    ClaimHeld net node nonce (x + secs tombstoneDurationSecs) (r.exec step) := by
  have hx : ClaimedUntil net node nonce x (r.exec step) := by
    cases h with
    | claimed _ hx => exact hx
    | renewed _ _ hx => exact hx
  obtain ⟨e, l, he, hnonce, hl, rfl⟩ := hx
  exact ⟨e, he, hnonce, by rw [hl]; exact Nat.le_refl _⟩

/-- No claim survives its segment. -/
theorem SegmentGone.get_eq_none [InterfaceSink σ] {net : UInt16} {r : Router σ N S C}
    {step : Clock × Op σ} (h : SegmentGone net r step) (node : UInt8) :
    (r.exec step).nodeClaims.get node net = none := by
  cases h with
  | @deregistered clock ident hok hnet =>
    show (r.deregisterInterface ident clock.now).2.nodeClaims.get node net = none
    cases hd : r.deregisterInterface ident clock.now with
    | mk res r' =>
      rw [hd] at hok
      cases hok
      obtain ⟨slot, -, hslot, -, -, hclaims, -⟩ := deregisterInterface_ok hd
      rw [hslot] at hnet
      cases hnet
      show r'.nodeClaims.get node _ = none
      rw [hclaims, LeaseTable.get_dropScope, if_pos rfl]
  | @renumbered clock ident net' hok hnet hne =>
    show (r.reassignInterfaceNetId ident net').2.nodeClaims.get node net = none
    unfold netIdOf at hnet
    obtain ⟨slot, hslot, rfl⟩ := Option.map_eq_some_iff.mp hnet
    unfold reassignInterfaceNetId at hok ⊢
    split at hok
    · cases hok
    · next hfree =>
      rw [if_neg hfree]
      simp only [hslot, if_pos hne]
      rw [LeaseTable.get_dropScope, if_pos rfl]

variable [InterfaceSink σ]

/-- A step that is not the end of the segment keeps a claim held. -/
theorem ClaimHeld.step {net : UInt16} {node : UInt8} {nonce : UInt64} {d : Nat}
    {r : Router σ N S C} {step : Clock × Op σ} (hwf : r.Wf) (h : ClaimHeld net node nonce d r)
    (hnow : step.1.now < d) :
    ClaimHeld net node nonce d (r.exec step) ∨ SegmentGone net r step := by
  obtain ⟨clock, op⟩ := step
  have heffect := (claim_step hwf.directory hwf.claims clock op).effect node net
  generalize hafter : (r.exec (clock, op)).nodeClaims.get node net = after at heffect
  cases heffect with
  | aged haged =>
    rw [← hafter] at haged
    exact .inl (h.of_aged hnow haged)
  | claimed hok hfree =>
    -- the table has an entry for the pair, so it is not free
    obtain ⟨e, he, -, -⟩ := h.of_aged hnow
      (LeaseTable.aged_get_gc hwf.claims clock.now node net)
    rw [hfree] at he
    cases he
  | renewed hok he hl hexp htok hwin =>
    obtain ⟨e', he', hnonce, hd⟩ := h
    rw [he] at he'
    cases he'
    rw [hl] at hd
    have hd : d ≤ _ + secs tombstoneDurationSecs := hd
    refine .inl ⟨_, hafter, hnonce, ?_⟩
    show d ≤ clock.now + secs maxLeaseSecs.toNat + secs tombstoneDurationSecs
    have hmax : secs minRefreshSecs.toNat ≤ secs maxLeaseSecs.toNat := by decide
    omega
  | gone hgone => exact .inr hgone

/-- A held claim is granted to another nonce only after the deadline, or after the
segment has gone. -/
theorem ClaimHeld.regrant {net : UInt16} {node : UInt8} {nonce nonce' : UInt64} {d t : Nat}
    {r : Router σ N S C} {clock : Clock} {a : NodeClaimAssignment} (hwf : r.Wf)
    (h : ClaimHeld net node nonce d r) (hne : nonce' ≠ nonce) {mid : List (Clock × Op σ)}
    (htimed : Timed span t (mid ++ [(clock, .requestNodeClaim net node nonce')]))
    (hok : ((runAll exec r mid).requestNodeClaim net node nonce' clock.now).1 = .ok a) :
    d ≤ clock.now ∨ Happens exec (SegmentGone net) r mid := by
  induction mid generalizing r t with
  | nil => exact .inl (h.granted_late hwf hne hok)
  | cons st mid ih =>
    obtain ⟨-, hspan, htail⟩ := htimed
    have hspan : st.1.now ≤ st.1.later := hspan
    have hlast := htail.le_of_mem (a := (clock, .requestNodeClaim net node nonce')) (by simp)
    have hlast : st.1.later ≤ clock.now := hlast
    by_cases hdue : d ≤ st.1.now
    · exact .inl (Nat.le_trans hdue (Nat.le_trans hspan hlast))
    · rcases h.step hwf (Nat.not_le.mp hdue) with h | hgone
      · exact (ih (hwf.exec st) h htail hok).imp_right .inr
      · exact .inr (.inl hgone)

/-- A pair granted to a nonce until `x` is granted to no other nonce before the grace
period after `x` has passed, unless the segment was deregistered or renumbered. -/
theorem claim_exclusive (r : Router σ N S C) (hinit : Initial r) (net : UInt16) (node : UInt8)
    (nonce nonce' : UInt64) (x : Nat) (before mid : List (Clock × Op σ)) (grant : Clock × Op σ)
    (clock : Clock) (a : NodeClaimAssignment) (hne : nonce' ≠ nonce)
    (htimed : Timed span 0
      (before ++ grant :: (mid ++ [(clock, .requestNodeClaim net node nonce')])))
    (hgrant : ClaimGranted net node nonce x (runAll exec r before) grant)
    (hok : ((runAll exec r (before ++ grant :: mid)).requestNodeClaim net node nonce'
      clock.now).1 = .ok a) :
    x + secs tombstoneDurationSecs ≤ clock.now ∨
      Happens exec (SegmentGone net) (runAll exec r (before ++ [grant])) mid := by
  have hbefore : (runAll exec r before).Wf := hinit.wf.run before
  have hafter : runAll exec r (before ++ [grant]) = exec (runAll exec r before) grant :=
    runAll_append _ before [grant]
  have hsplit : before ++ grant :: mid = (before ++ [grant]) ++ mid := by simp
  rw [hsplit, runAll_append, hafter] at hok
  rw [hafter]
  exact hgrant.held.regrant (hbefore.exec grant) hne (Timed_append.mp htimed).2.2.2 hok

/-! ## When a node id counts as claimed -/

/-- An active claim goes back to a grant, after which the segment has not gone. -/
theorem granted_of_active {r : Router σ N S C} (hwf : r.Wf) (hempty : r.nodeClaims.ids = [])
    {net : UInt16} {node : UInt8} (acts : List (Clock × Op σ))
    {e : LeaseEntry UInt8 UInt64} {l : Lease}
    (he : (runAll exec r acts).nodeClaims.get node net = some e) (hl : e.kind = .active l) :
    ∃ before grant after, acts = before ++ grant :: after ∧
      ClaimGranted net node e.extra l.expiration (runAll exec r before) grant ∧
      ¬ Happens exec (SegmentGone net) (runAll exec r (before ++ [grant])) after := by
  induction acts using List.reverseRecOn generalizing e l with
  | nil =>
    have hmem : (e.key, e.scope) ∈ r.nodeClaims.ids :=
      List.mem_map.mpr ⟨e, LeaseTable.mem_of_get he, rfl⟩
    rw [hempty] at hmem
    exact absurd hmem List.not_mem_nil
  | append_singleton acts st ih =>
    obtain ⟨clock, op⟩ := st
    rw [runAll_append] at he
    have hwf' := hwf.run acts
    have heffect := (claim_step hwf'.directory hwf'.claims clock op).effect node net
    rw [show (exec (runAll exec r acts) (clock, op)).nodeClaims.get node net = some e from he]
      at heffect
    have hdone : ClaimGranted net node e.extra l.expiration (runAll exec r acts) (clock, op) →
        ∃ before grant after, acts ++ [(clock, op)] = before ++ grant :: after ∧
          ClaimGranted net node e.extra l.expiration (runAll exec r before) grant ∧
          ¬ Happens exec (SegmentGone net) (runAll exec r (before ++ [grant])) after :=
      fun hgrant => ⟨acts, (clock, op), [], rfl, hgrant, fun h => h⟩
    generalize ho : some e = o at heffect
    cases heffect with
    | aged haged =>
      -- the claim was there before, and the segment did not go in this step
      subst ho
      obtain ⟨e', he', hages, heq⟩ := haged.of_some
      rw [hl] at hages
      obtain ⟨before, grant, after, rfl, hgrant, hno⟩ := ih he' hages.active_eq
      have hextra : e'.extra = e.extra := by rw [heq]
      refine ⟨before, grant, after ++ [(clock, op)], by simp, hextra ▸ hgrant, ?_⟩
      intro hgone
      rcases Happens_append.mp hgone with hgone | hgone | hgone
      · exact hno hgone
      · have hnone := hgone.get_eq_none node
        rw [← runAll_append, List.append_assoc, List.singleton_append] at hnone
        rw [show (exec (runAll exec r (before ++ grant :: after)) (clock, op)).nodeClaims.get
          node net = some e from he] at hnone
        cases hnone
      · exact hgone
    | claimed hok hfree =>
      cases ho
      exact hdone (.claimed hok ⟨_, l, he, rfl, hl, rfl⟩)
    | renewed hok he' hl' hexp htok hwin =>
      cases ho
      exact hdone (.renewed hok ⟨_, _, he', hl', htok⟩ ⟨_, l, he, rfl, hl, rfl⟩)
    | gone hgone => cases ho

/-- A claim granted until `x` is active until `x` while the segment is there. -/
theorem active_of_granted {r : Router σ N S C} (hwf : r.Wf) {net : UInt16} {node : UInt8}
    {x t₀ t : Nat} (hactive : ∃ e l, r.nodeClaims.get node net = some e ∧
      e.kind = .active l ∧ x ≤ l.expiration)
    {acts : List (Clock × Op σ)} (htimed : Timed span t₀ acts)
    (hend : endTime span t₀ acts ≤ t) (ht : t < x)
    (hno : ¬ Happens exec (SegmentGone net) r acts) :
    ∃ e l, (runAll exec r acts).nodeClaims.get node net = some e ∧ e.kind = .active l ∧
      x ≤ l.expiration := by
  induction acts generalizing r t₀ with
  | nil => exact hactive
  | cons st acts ih =>
    obtain ⟨clock, op⟩ := st
    obtain ⟨-, hspan, htail⟩ := htimed
    have hspan : clock.now ≤ clock.later := hspan
    have hlast : clock.later ≤ endTime span clock.later acts := htail.le_endTime
    have hend' : endTime span clock.later acts ≤ t := hend
    have hnow : clock.now < x := by omega
    have hno' : ¬ Happens exec (SegmentGone net) (r.exec (clock, op)) acts :=
      fun h => hno (.inr h)
    refine ih (hwf.exec _) ?_ htail hend hno'
    obtain ⟨e, l, he, hl, hx⟩ := hactive
    have hrun : e.kind.isActive clock.now := by
      rw [hl, LeaseKind.isActive_active, decide_eq_true_eq]
      omega
    have heffect := (claim_step hwf.directory hwf.claims clock op).effect node net
    generalize hafter : (r.exec (clock, op)).nodeClaims.get node net = after at heffect
    cases heffect with
    | aged haged =>
      rw [he] at haged
      exact ⟨e, l, by rw [haged.of_isActive hrun], hl, hx⟩
    | claimed hok hfree =>
      have haged := LeaseTable.aged_get_gc hwf.claims clock.now node net
      rw [he, hfree] at haged
      cases haged.of_isActive hrun
    | renewed hok he' hl' hexp htok hwin =>
      rw [he] at he'
      cases he'
      rw [hl] at hl'
      cases hl'
      refine ⟨_, _, rfl, rfl, ?_⟩
      show x ≤ clock.now + secs maxLeaseSecs.toNat
      have hmax : secs minRefreshSecs.toNat ≤ secs maxLeaseSecs.toNat := by decide
      omega
    | gone hgone => exact absurd (.inl hgone) hno

/-- After a run, a node id other than the two point-to-point roles counts as claimed
at `t` exactly if it was granted until some `x > t` and the segment has not gone
since. -/
theorem isNodeClaimed_iff (r : Router σ N S C) (hinit : Initial r) (net : UInt16) (node : UInt8)
    (hcentral : node ≠ centralNodeId) (hedge : node ≠ edgeNodeId)
    (acts : List (Clock × Op σ)) (t : Nat) (htimed : Timed span 0 acts)
    (hend : endTime span 0 acts ≤ t) :
    (runAll exec r acts).isNodeClaimed net node t = true ↔
      ∃ before grant after nonce x, acts = before ++ grant :: after ∧
        ClaimGranted net node nonce x (runAll exec r before) grant ∧ t < x ∧
        ¬ Happens exec (SegmentGone net) (runAll exec r (before ++ [grant])) after := by
  have hempty : r.nodeClaims.ids = [] := by
    cases hinit with
    | root => rfl
    | bridge => rfl
  have hlookup : (runAll exec r acts).isNodeClaimed net node t = true ↔
      ∃ e l, (runAll exec r acts).nodeClaims.get node net = some e ∧ e.kind = .active l ∧
        t < l.expiration := by
    unfold isNodeClaimed
    rw [if_neg (by simp [hcentral, hedge])]
    cases (runAll exec r acts).nodeClaims.get node net with
    | none => simp
    | some e =>
      obtain ⟨key, scope, extra, kind⟩ := e
      cases kind with
      | active l => simp [LeaseKind.isActive]
      | tombstone c => simp [LeaseKind.isActive]
  rw [hlookup]
  constructor
  · rintro ⟨e, l, he, hl, ht⟩
    obtain ⟨before, grant, after, hsplit, hgrant, hno⟩ :=
      granted_of_active hinit.wf hempty acts he hl
    exact ⟨before, grant, after, e.extra, l.expiration, hsplit, hgrant, ht, hno⟩
  · rintro ⟨before, grant, after, nonce, x, rfl, hgrant, ht, hno⟩
    have hsplit : before ++ grant :: after = (before ++ [grant]) ++ after := by simp
    have hafter : runAll exec r (before ++ [grant]) = exec (runAll exec r before) grant :=
      runAll_append _ before [grant]
    have hactive : ∃ e l, (runAll exec r (before ++ [grant])).nodeClaims.get node net = some e ∧
        e.kind = .active l ∧ x ≤ l.expiration := by
      rw [hafter]
      cases hgrant with
      | claimed _ hx =>
        obtain ⟨e, l, he, -, hl, rfl⟩ := hx
        exact ⟨e, l, he, hl, Nat.le_refl _⟩
      | renewed _ _ hx =>
        obtain ⟨e, l, he, -, hl, rfl⟩ := hx
        exact ⟨e, l, he, hl, Nat.le_refl _⟩
    rw [hsplit] at htimed hend ⊢
    rw [runAll_append]
    obtain ⟨e, l, he, hl, hx⟩ := active_of_granted (hinit.wf.run _) hactive
      (Timed_append.mp htimed).2 (by rw [← endTime_append]; exact hend) ht hno
    exact ⟨e, l, he, hl, Nat.lt_of_lt_of_le ht hx⟩

/-- Node claims over every run of a router: the window in which a granted pair is
nobody else's, and when a node id counts as claimed. -/
theorem node_claims_exclusive (r : Router σ N S C) (hinit : Initial r) (net : UInt16)
    (node : UInt8) :
    (∀ (nonce nonce' : UInt64) (x : Nat) (before mid : List (Clock × Op σ))
        (grant : Clock × Op σ) (clock : Clock) (a : NodeClaimAssignment), nonce' ≠ nonce →
      Timed span 0 (before ++ grant :: (mid ++ [(clock, .requestNodeClaim net node nonce')])) →
      ClaimGranted net node nonce x (runAll exec r before) grant →
      ((runAll exec r (before ++ grant :: mid)).requestNodeClaim net node nonce'
        clock.now).1 = .ok a →
      x + secs tombstoneDurationSecs ≤ clock.now ∨
        Happens exec (SegmentGone net) (runAll exec r (before ++ [grant])) mid) ∧
    (node ≠ centralNodeId → node ≠ edgeNodeId → ∀ (acts : List (Clock × Op σ)) (t : Nat),
      Timed span 0 acts → endTime span 0 acts ≤ t →
      ((runAll exec r acts).isNodeClaimed net node t = true ↔
        ∃ before grant after nonce x, acts = before ++ grant :: after ∧
          ClaimGranted net node nonce x (runAll exec r before) grant ∧ t < x ∧
          ¬ Happens exec (SegmentGone net) (runAll exec r (before ++ [grant])) after)) := by
  constructor
  · intro nonce nonce' x before mid grant clock a hne htimed hgrant hok
    exact claim_exclusive r hinit net node nonce nonce' x before mid grant clock a hne htimed
      hgrant hok
  · intro hcentral hedge acts t htimed hend
    exact isNodeClaimed_iff r hinit net node hcentral hedge acts t htimed hend

/-- Node 10 on net 1 is claimed at 1 s, and by another device at 61 s. -/
def demoClaims : List (Clock × Op FrameQueue) :=
  [(.at 0, .registerInterface ⟨64, 1, []⟩), (.at (secs 1), .requestNodeClaim 1 10 5)]

theorem node_claims_exclusive_demo :
    let r : Router FrameQueue 2 2 1 := new ⟨fun _ => 7, 0⟩ (by decide)
    (secs 31 + secs tombstoneDurationSecs ≤ secs 61 ∨
      Happens exec (SegmentGone 1) (runAll exec r (demoClaims.take 1 ++
        [(.at (secs 1), .requestNodeClaim 1 10 5)])) []) ∧
    ((runAll exec r demoClaims).isNodeClaimed 1 10 (secs 30) = true ↔
      ∃ before grant after nonce x, demoClaims = before ++ grant :: after ∧
        ClaimGranted 1 10 nonce x (runAll exec r before) grant ∧ secs 30 < x ∧
        ¬ Happens exec (SegmentGone 1) (runAll exec r (before ++ [grant])) after) := by
  intro r
  have h := node_claims_exclusive r (.root _ _) 1 10
  refine ⟨?_, h.2 (by decide) (by decide) demoClaims (secs 30) ?_ (by decide)⟩
  · refine h.1 5 6 (secs 31) (demoClaims.take 1) [] (.at (secs 1), .requestNodeClaim 1 10 5)
      (.at (secs 61)) ⟨10, 1, 30, 120, 62, 7⟩ (by decide) ?_ ?_ (by decide)
    · simp [Timed, span, demoClaims, Clock.at, secs]
    · exact .claimed (a := ⟨10, 1, 30, 120, 62, 7⟩) (by decide) ⟨_, _, rfl, rfl, rfl, rfl⟩
  · simp [Timed, span, demoClaims, Clock.at, secs]

end Router

end Ergot
