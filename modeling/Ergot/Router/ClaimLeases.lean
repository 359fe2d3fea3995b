import Ergot.Router.Rotation
import Ergot.Router.Segment

/-!
# What the table of claims says about a lease

A device knows a lease by the answer it was sent: a node id, a token, and a number of seconds.

- `TokenOf`: nobody else's claim accepts the token, since no token is drawn twice.
- `Vouched`: the table bears the lease out, until it ends and through the grace period. Every step
  keeps this but the end of the segment (`Vouched.step`), and a granted claim or refresh starts
  with it (`Vouched.of_request`, `Vouched.of_refresh`).

The seconds of a replayed refresh are rounded up, so a lease may end for its device up to a second
later than it does for the router. The grace period makes up for it.
-/

namespace Ergot

open Runs

theorem LeaseKind.window_eq_some {k : LeaseKind} {w : TokenWindow.Window Token}
    (h : k.window = some w) :
    ∃ l, k = .active l ∧ w = ⟨l.refreshToken, l.previousRefreshToken⟩ := by
  cases k with
  | active l =>
    cases h
    exact ⟨l, rfl, rfl⟩
  | tombstone c => cases h

theorem LeaseKind.window_of_active {k : LeaseKind} {l : Lease} (h : k = .active l) :
    k.window = some ⟨l.refreshToken, l.previousRefreshToken⟩ := by
  rw [h]
  rfl

/-- What is active after a collection still runs. -/
theorem LeaseTable.running_of_get_gc {K X : Type} [DecidableEq K] {n : Nat}
    {t : LeaseTable K X n} {now : Nat} {k : K} {s : UInt16} {e : LeaseEntry K X} {l : Lease}
    (h : (t.gc now).get k s = some e) (hl : e.kind = .active l) : now < l.expiration := by
  obtain ⟨e₀, -, haged⟩ := List.mem_filterMap.mp (LeaseTable.mem_of_get h)
  split at haged
  · next hkept =>
    cases haged
    have hkept : (e₀.kind.gcRetain now).2 = true := hkept
    have hl : (e₀.kind.gcRetain now).1 = .active l := hl
    rw [LeaseKind.gcRetain_snd] at hkept
    have hreserved := of_decide_eq_true hkept
    cases hk : e₀.kind with
    | tombstone c =>
      rw [hk] at hl
      cases hl
    | active l₀ =>
      rw [hk] at hl hreserved
      have hreserved : now < l₀.expiration + secs tombstoneDurationSecs := hreserved
      unfold LeaseKind.gcRetain at hl
      simp only [Nat.not_le.mpr hreserved, if_false] at hl
      split at hl
      · cases hl
      · next hexp =>
        cases hl
        exact Nat.not_le.mp hexp
  · cases haged

namespace Router

variable {σ : Type} {N S C : Nat}

/-- `(net, node)` is claimed by `nonce` until `x` or later. -/
def ClaimedFor (net : UInt16) (node : UInt8) (nonce : UInt64) (x : Nat) (r : Router σ N S C) :
    Prop :=
  ∃ e l, r.nodeClaims.get node net = some e ∧ e.extra = nonce ∧ e.kind = .active l ∧
    x ≤ l.expiration

/-- The token was drawn, and if a claim of `(net, node)` accepts it, that is one of `nonce`. -/
structure TokenOf (net : UInt16) (node : UInt8) (nonce : UInt64) (tok : Token)
    (r : Router σ N S C) : Prop where
  drawn : tok ∈ r.rng.drawn
  owner : ∀ e w, r.nodeClaims.get node net = some e → e.kind.window = some w → w.Knows tok →
    e.extra = nonce

/-- For how long after the end of a lease the pair is nobody else's: the grace period, less what
the seconds of the lease may have been rounded up by. -/
def graceSecs : Nat := tombstoneDurationSecs - 1

/-- At `t` the table bears out a lease of `(net, node)` to `nonce` that ends at `x` or up to a
second before. -/
structure Vouched (net : UInt16) (node : UInt8) (nonce : UInt64) (tok : Token) (x t : Nat)
    (r : Router σ N S C) : Prop where
  token : TokenOf net node nonce tok r
  claimed : t < x - secs 1 → ClaimedFor net node nonce (x - secs 1) r
  held : t < x + secs graceSecs → ClaimHeld net node nonce (x + secs graceSecs) r

variable {net : UInt16} {node : UInt8} {nonce : UInt64} {tok : Token} {x t : Nat}
  {r : Router σ N S C}

/-- Time and other claims leave a claim as it is until it expires. -/
theorem ClaimedFor.step [InterfaceSink σ] {step : Clock × Op σ} (hwf : r.Wf)
    (h : ClaimedFor net node nonce x r) (hnow : step.1.now < x) :
    ClaimedFor net node nonce x (r.exec step) ∨ SegmentGone net r step := by
  obtain ⟨clock, op⟩ := step
  obtain ⟨e, l, he, hnonce, hl, hx⟩ := h
  have hnow : clock.now < x := hnow
  have heffect := (claim_step hwf.directory hwf.claims clock op).effect node net
  generalize hafter : (r.exec (clock, op)).nodeClaims.get node net = after at heffect
  cases heffect with
  | aged haged =>
    exact .inl ⟨e, l, by rw [hafter]; exact haged.of_running he hl (by omega), hnonce, hl, hx⟩
  | claimed _ hfree =>
    have haged := LeaseTable.aged_get_gc hwf.claims clock.now node net
    rw [hfree] at haged
    cases haged.of_running he hl (by omega)
  | renewed _ he' hl' _ _ _ =>
    rw [he] at he'
    cases he'
    rw [hl] at hl'
    cases hl'
    refine .inl ⟨_, _, hafter, hnonce, rfl, ?_⟩
    show x ≤ clock.now + secs maxLeaseSecs.toNat
    have hmax : secs minRefreshSecs.toNat ≤ secs maxLeaseSecs.toNat := by decide
    omega
  | gone hgone => exact .inr hgone

/-! ## The tokens of the claims -/

/-- Where the tokens of a claim come from that is there after a step: from the claim before, or
they are new. -/
inductive TokenSource (r r' : Router σ N S C) (net : UInt16) (node : UInt8)
    (e : LeaseEntry UInt8 UInt64) (w : TokenWindow.Window Token) : Prop
  | kept {e₀} (he : r.nodeClaims.get node net = some e₀) (hextra : e.extra = e₀.extra)
      (hw : e₀.kind.window = some w)
  | granted (hprev : w.previous = none) (hnew : w.current ∉ r.rng.drawn)
      (hdrawn : w.current ∈ r'.rng.drawn)
  | rotated {e₀ w₀} (he : r.nodeClaims.get node net = some e₀) (hextra : e.extra = e₀.extra)
      (hw : e₀.kind.window = some w₀) (hprev : w.previous = some w₀.current)
      (hnew : w.current ∉ r.rng.drawn) (hdrawn : w.current ∈ r'.rng.drawn)

theorem tokenSource [InterfaceSink σ] {step : Clock × Op σ} (hwf : r.Wf)
    (hfresh : (r.exec step).rng.Distinct) {e : LeaseEntry UInt8 UInt64}
    {w : TokenWindow.Window Token} (he : (r.exec step).nodeClaims.get node net = some e)
    (hw : e.kind.window = some w) : TokenSource r (r.exec step) net node e w := by
  obtain ⟨l, hl, rfl⟩ := LeaseKind.window_eq_some hw
  obtain ⟨clock, op⟩ := step
  have heffect := (claim_step hwf.directory hwf.claims clock op).effect node net
  rw [he] at heffect
  generalize ho : some e = o at heffect
  cases heffect with
  | aged haged =>
    rw [← ho] at haged
    obtain ⟨e₀, he₀, hages, heq⟩ := haged.of_some
    rw [hl] at hages
    refine .kept he₀ (by rw [heq]) ?_
    rw [hages.active_eq]
    rfl
  | @claimed a nonce' hok hfree =>
    cases ho
    cases hl
    have hrng : (r.exec (clock, .requestNodeClaim net node nonce')).rng = r.rng.next.2 := by
      show (r.requestNodeClaim net node nonce' clock.now).2.rng = _
      rcases hres : r.requestNodeClaim net node nonce' clock.now with ⟨err | a', r'⟩
      · rw [hres] at hok
        cases hok
      · obtain ⟨-, -, -, ⟨_, _, hget, -⟩ | ⟨-, -, -, -, rfl⟩⟩ := requestNodeClaim_ok hres
        · rw [hfree] at hget
          cases hget
        · rfl
    rw [hrng] at hfresh
    refine .granted rfl (Rng.next_not_mem_drawn hfresh) ?_
    rw [hrng]
    exact Rng.next_mem_drawn _
  | @renewed e₀ l₀ tok' a hok he₀ hl₀ _ htok _ =>
    cases ho
    cases hl
    have hrng : (r.exec (clock, .refreshNodeClaim net node tok')).rng = r.rng.next.2 := by
      show (r.refreshNodeClaim net node tok' clock.now).2.rng = _
      rcases hres : r.refreshNodeClaim net node tok' clock.now with ⟨err | a', r'⟩
      · rw [hres] at hok
        cases hok
      · obtain ⟨_, _, -, -, -, ⟨-, -, -, -, rfl⟩ | ⟨-, -, -, -, rfl⟩⟩ := refreshNodeClaim_ok hres
        · rfl
        · rfl
    rw [hrng] at hfresh
    refine .rotated he₀ rfl (LeaseKind.window_of_active hl₀) rfl (Rng.next_not_mem_drawn hfresh) ?_
    rw [hrng]
    exact Rng.next_mem_drawn _
  | gone _ => cases ho

/-- Every token of a claim was drawn. -/
def TokensDrawn (r : Router σ N S C) : Prop :=
  ∀ node net e w, r.nodeClaims.get node net = some e → e.kind.window = some w →
    w.tokens ⊆ r.rng.drawn

theorem TokensDrawn.current (h : r.TokensDrawn) {e : LeaseEntry UInt8 UInt64} {l : Lease}
    (he : r.nodeClaims.get node net = some e) (hl : e.kind = .active l) :
    l.refreshToken ∈ r.rng.drawn :=
  h node net e _ he (LeaseKind.window_of_active hl) (.inl rfl)

theorem TokensDrawn.step [InterfaceSink σ] {step : Clock × Op σ} (hwf : r.Wf)
    (hfresh : (r.exec step).rng.Distinct) (h : r.TokensDrawn) : (r.exec step).TokensDrawn := by
  have hmono := (exec_rng r step).drawn
  intro node net e w he hw tok htok
  cases tokenSource hwf hfresh he hw with
  | kept he₀ _ hw₀ => exact hmono (h node net _ _ he₀ hw₀ htok)
  | granted hprev _ hdrawn =>
    rcases htok with rfl | hold
    · exact hdrawn
    · rw [hprev] at hold
      cases hold
  | rotated he₀ _ hw₀ hprev _ hdrawn =>
    rcases htok with rfl | hold
    · exact hdrawn
    · rw [hprev] at hold
      cases hold
      exact hmono (h node net _ _ he₀ hw₀ (.inl rfl))

/-- Whoever has a token keeps it to itself, since new tokens are new. -/
theorem TokenOf.step [InterfaceSink σ] {step : Clock × Op σ} (hwf : r.Wf)
    (hfresh : (r.exec step).rng.Distinct) (h : TokenOf net node nonce tok r) :
    TokenOf net node nonce tok (r.exec step) := by
  refine ⟨(exec_rng r step).drawn h.drawn, ?_⟩
  intro e w he hw htok
  cases tokenSource hwf hfresh he hw with
  | kept he₀ hextra hw₀ => exact hextra.trans (h.owner _ _ he₀ hw₀ htok)
  | granted hprev hnew _ =>
    rcases htok with rfl | hold
    · exact absurd h.drawn hnew
    · rw [hprev] at hold
      cases hold
  | rotated he₀ hextra hw₀ hprev hnew _ =>
    rcases htok with rfl | hold
    · exact absurd h.drawn hnew
    · rw [hprev] at hold
      cases hold
      exact hextra.trans (h.owner _ _ he₀ hw₀ (.inl rfl))

/-! ## Leases -/

/-- A running lease is borne out. -/
theorem Vouched.of_active {e : LeaseEntry UInt8 UInt64} {l : Lease}
    (he : r.nodeClaims.get node net = some e) (hnonce : e.extra = nonce)
    (hl : e.kind = .active l) (hx : x ≤ l.expiration + secs 1)
    (hdrawn : l.refreshToken ∈ r.rng.drawn) :
    Vouched net node nonce l.refreshToken x t r := by
  have howner : TokenOf net node nonce l.refreshToken r := by
    refine ⟨hdrawn, fun e' w he' _ _ => ?_⟩
    rw [he] at he'
    cases he'
    exact hnonce
  refine { token := howner, claimed := fun _ => ?_, held := fun _ => ?_ }
  · exact ⟨e, l, he, hnonce, hl, by omega⟩
  · refine ⟨e, he, hnonce, ?_⟩
    rw [hl]
    show x + secs graceSecs ≤ l.expiration + secs tombstoneDurationSecs
    have hgrace : secs graceSecs + secs 1 = secs tombstoneDurationSecs := by decide
    omega

/-- Whole seconds. -/
theorem secs_div_le {q n : Nat} (h : q ≤ n / secs 1) : secs q ≤ n := by
  have hmul : q * secs 1 ≤ n / secs 1 * secs 1 := Nat.mul_le_mul_right _ h
  have hdiv := Nat.div_mul_le_self n (secs 1)
  rw [show secs q = q * secs 1 by simp [secs]]
  exact Nat.le_trans hmul hdiv

/-- The seconds of a lease that is rounded up are less than a second too many. -/
theorem secs_remaining_le (expiration now : Nat) :
    secs (remainingLeaseSeconds expiration now).toNat ≤ expiration - now + secs 1 := by
  have hround : (remainingLeaseSeconds expiration now).toNat ≤ (expiration - now) / secs 1 + 1 := by
    unfold remainingLeaseSeconds
    rw [UInt16.toNat_ofNat']
    refine Nat.le_trans (Nat.mod_le _ _) (Nat.le_trans (Nat.min_le_left _ _) ?_)
    refine Nat.add_le_add_left ?_ _
    split <;> decide
  refine secs_div_le (Nat.le_trans hround ?_)
  rw [Nat.add_div_right _ (by decide)]

/-- A claim that is granted is borne out. -/
theorem Vouched.of_request {r' : Router σ N S C} {now : Nat} {a : NodeClaimAssignment}
    (hwf : r.Wf) (htoks : r.TokensDrawn)
    (h : r.requestNodeClaim net node nonce now = (.ok a, r')) :
    Vouched net node nonce a.refreshToken (now + secs a.expiresSeconds.toNat) t r' := by
  obtain ⟨-, -, -, ⟨e, l, he, hl, hnonce, htok, hexp, rfl⟩ | ⟨hnone, hfull, htok, hexp, rfl⟩⟩ :=
    requestNodeClaim_ok h
  · have hrun := LeaseTable.running_of_get_gc he hl
    have hsecs : secs (UInt16.ofNat ((l.expiration - now) / secs 1)).toNat ≤ l.expiration - now :=
      secs_div_le (by rw [UInt16.toNat_ofNat']; exact Nat.mod_le _ _)
    rw [htok, hexp]
    refine .of_active he hnonce hl (by omega) ?_
    exact htoks.current (get_of_get_gc hwf.claims he hl) hl
  · rw [htok, hexp]
    have hget : ((r.nodeClaims.gc now).push node net nonce
        (.fresh now initialLeaseSecs r.rng.next.1)).get node net =
          some ⟨node, net, nonce, .fresh now initialLeaseSecs r.rng.next.1⟩ := by
      rw [LeaseTable.get_push hfull hnone, if_pos ⟨rfl, rfl⟩]
    exact .of_active (l := ⟨now + secs initialLeaseSecs.toNat, r.rng.next.1, none⟩) hget rfl rfl
      (Nat.le_add_right _ _) (Rng.next_mem_drawn _)

/-- A refresh that is granted is borne out, if the device had the token to itself. -/
theorem Vouched.of_refresh {r' : Router σ N S C} {now : Nat} {tok : Token}
    {a : NodeClaimAssignment} (htoks : r.TokensDrawn) (htok : TokenOf net node nonce tok r)
    (h : r.refreshNodeClaim net node tok now = (.ok a, r')) :
    Vouched net node nonce a.refreshToken (now + secs a.expiresSeconds.toNat) t r' := by
  obtain ⟨e, l, he, hl, hrun, ⟨hcur, -, hexp, hnew, rfl⟩ | ⟨-, hprev, hexp, hnew, rfl⟩⟩ :=
    refreshNodeClaim_ok h
  · have hnonce := htok.owner e _ he (LeaseKind.window_of_active hl) (.inl hcur)
    rw [hnew, hexp]
    exact .of_active (l := LeaseKind.renewed l now r.rng.next.1)
      (LeaseTable.get_setKind_self he _) hnonce rfl (Nat.le_add_right _ _) (Rng.next_mem_drawn _)
  · have hnonce := htok.owner e _ he (LeaseKind.window_of_active hl) (.inr hprev)
    have hsecs := secs_remaining_le l.expiration now
    rw [hnew, hexp]
    refine .of_active (LeaseTable.get_setKind_self he _) hnonce hl (by omega) ?_
    exact (Rng.Extends.next _).drawn (htoks.current he hl)

/-- A lease stays borne out, as long as the segment is there. -/
theorem Vouched.step [InterfaceSink σ] {step : Clock × Op σ} (hwf : r.Wf)
    (hfresh : (r.exec step).rng.Distinct) (hno : ¬ SegmentGone net r step)
    (ht : t ≤ step.1.now) (h : Vouched net node nonce tok x t r) :
    Vouched net node nonce tok x step.1.later (r.exec step) := by
  have hle := step.1.le
  refine { token := h.token.step hwf hfresh, claimed := fun hx => ?_, held := fun hx => ?_ }
  · exact ((h.claimed (by omega)).step hwf (by omega)).resolve_right hno
  · exact ((h.held (by omega)).step hwf (by omega)).resolve_right hno

/-- Time passes. -/
theorem Vouched.later {t' : Nat} (h : Vouched net node nonce tok x t r) (ht : t ≤ t') :
    Vouched net node nonce tok x t' r :=
  { token := h.token
    claimed := fun hx => h.claimed (Nat.lt_of_le_of_lt ht hx)
    held := fun hx => h.held (Nat.lt_of_le_of_lt ht hx) }

/-- What a refresh names. -/
theorem refreshNodeClaim_names {r' : Router σ N S C} {now : Nat} {a : NodeClaimAssignment}
    (h : r.refreshNodeClaim net node tok now = (.ok a, r')) : a.netId = net ∧ a.nodeId = node := by
  unfold refreshNodeClaim at h
  dsimp only at h
  split at h
  · cases h
  · split at h
    · cases h
    · cases h
      exact ⟨rfl, rfl⟩

/-- What a router answers to a claim of a pair it keeps: only a running lease of the same nonce
is granted again. -/
theorem requestNodeClaim_kept {now : Nat} {nonce' : UInt64} (hwf : r.Wf)
    (hsegments : r.ClaimsOnSegments) {e : LeaseEntry UInt8 UInt64}
    (he : (r.nodeClaims.gc now).get node net = some e) :
    (∃ a, (r.requestNodeClaim net node nonce' now).1 = .ok a) ∨
      (r.requestNodeClaim net node nonce' now).1 = .error .conflict ∧
        ¬ (e.extra = nonce' ∧ e.kind.isActive now) := by
  have haged := LeaseTable.aged_get_gc hwf.claims now node net
  rw [he] at haged
  obtain ⟨e₀, he₀, -, -⟩ := haged.of_some
  obtain ⟨hnode, hnet, i, hi⟩ := hsegments node net e₀ he₀
  have hslot : r.slots.toList.any (fun s => s.netId = net) = true := by
    unfold netIdOf at hi
    obtain ⟨slot, hslot, rfl⟩ := Option.map_eq_some_iff.mp hi
    exact List.any_eq_true.mpr ⟨slot, List.mem_of_find?_eq_some hslot, decide_eq_true rfl⟩
  have hsrc : ¬ (net = 0 ∨ ¬ (r.gcClaims now).slots.toList.any (fun s => s.netId = net) = true) :=
    not_or.mpr ⟨hnet, not_not.mpr hslot⟩
  have he' : (r.gcClaims now).nodeClaims.get node net = some e := he
  unfold requestNodeClaim
  simp only [hnode, Bool.false_eq_true, if_false, if_neg hsrc, he']
  cases hl : e.kind with
  | tombstone c => exact .inr ⟨rfl, fun h => absurd h.2 Bool.false_ne_true⟩
  | active l =>
    by_cases hextra : e.extra = nonce'
    · exact .inl ⟨_, by simp only [if_pos hextra]; rfl⟩
    · exact .inr ⟨by simp only [if_neg hextra], fun h => hextra h.1⟩

/-- A pair that is kept for a nonce is refused to the others. -/
theorem ClaimHeld.refuses {now d : Nat} {nonce' : UInt64} (hwf : r.Wf)
    (hsegments : r.ClaimsOnSegments) (h : ClaimHeld net node nonce d r) (hnow : now < d)
    (hne : nonce' ≠ nonce) : (r.requestNodeClaim net node nonce' now).1 = .error .conflict := by
  obtain ⟨e, he, -, -⟩ := h.of_aged hnow (LeaseTable.aged_get_gc hwf.claims now node net)
  rcases requestNodeClaim_kept hwf hsegments he with ⟨a, hok⟩ | ⟨hconflict, -⟩
  · have hlate := h.granted_late hwf hne hok
    omega
  · exact hconflict

/-- The holder of a running claim is granted it again. -/
theorem ClaimedFor.grants {now : Nat} (hwf : r.Wf) (hsegments : r.ClaimsOnSegments)
    (h : ClaimedFor net node nonce x r) (hnow : now < x) :
    ∃ a, (r.requestNodeClaim net node nonce now).1 = .ok a := by
  obtain ⟨e, l, he, hnonce, hl, hx⟩ := h
  have hactive : e.kind.isActive now := by
    rw [hl]
    exact decide_eq_true (Nat.lt_of_lt_of_le hnow hx)
  have hgc := (LeaseTable.aged_get_gc hwf.claims now node net)
  rw [he] at hgc
  exact (requestNodeClaim_kept hwf hsegments (hgc.of_isActive hactive)).resolve_right
    fun h => h.2 ⟨hnonce, hactive⟩

theorem ClaimedFor.isNodeClaimed {now : Nat} (h : ClaimedFor net node nonce x r)
    (hnow : now < x) : r.isNodeClaimed net node now = true := by
  obtain ⟨e, l, he, -, hl, hx⟩ := h
  unfold Router.isNodeClaimed
  split
  · rfl
  · rw [he]
    show e.kind.isActive now = true
    rw [hl]
    exact decide_eq_true (Nat.lt_of_lt_of_le hnow hx)

end Router

end Ergot
