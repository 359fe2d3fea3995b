import Ergot.Router.Effect

/-!
# How long a leased net id stays reserved

At a root, a granted net id `N` is *held*: the seed-route table has an entry for it
whose `reservedUntil` is at least the promised deadline. While it is held, neither
the allocator nor a renumbering can give `N` away (`Held.reissued_late`), and every
step keeps it held except a release with the current token, the loss of the
interface its route goes through, and the deadline itself (`Held.step`).

Losing the interface replaces the lease by a tombstone that lasts 30 seconds from
the loss, so it can shorten the reservation: `reissued_early_after_deregister` is
such a run, and `reissue_after_reservation` states the reservation that is kept.
-/

namespace Ergot

namespace Router

open Runs

variable {σ : Type} {N S C : Nat}

/-- The operations a root performs: the delegated ones need an upstream. -/
def rootOp : Op σ → Bool
  | .canDelegateSeed .. | .registerDelegatedSeedNet .. | .prepareDelegatedRefresh ..
  | .commitDelegatedRefresh .. | .prepareDelegatedRelease .. | .commitDelegatedRelease .. => false
  | _ => true

/-- The lease of `net` held by `src` is active and `tok` is its current token. -/
def CurrentToken (r : Router σ N S C) (src net : UInt16) (tok : Token) : Prop :=
  ∃ e l, r.seedRoutes.get net src = some e ∧ e.kind = .active l ∧ l.refreshToken = tok

/-- The step grants `net` to `src` for `secs` seconds: an assignment, or a refresh
that is not a replay. -/
inductive Grants (r : Router σ N S C) (src net secs : UInt16) : Clock × Op σ → Prop
  | assigned {clock a} (h : (r.requestSeedNetAssign src clock.now).1 = .ok a)
      (hnet : a.netId = net) (hsecs : a.expiresSeconds = secs) :
      Grants r src net secs (clock, .requestSeedNetAssign src)
  | renewed {clock tok a} (h : (r.refreshSeedNetAssignment src net tok clock.now).1 = .ok a)
      (htok : CurrentToken r src net tok) (hsecs : a.expiresSeconds = secs) :
      Grants r src net secs (clock, .refreshSeedNetAssignment src net tok)

/-- The step gives `net` to a seed assignment or to a direct slot. -/
inductive Reissues (r : Router σ N S C) (net : UInt16) : Clock × Op σ → Prop
  | seed {clock src a} (h : (r.requestSeedNetAssign src clock.now).1 = .ok a)
      (hnet : a.netId = net) : Reissues r net (clock, .requestSeedNetAssign src)
  | slot {clock sink ident} (h : (r.registerInterface sink clock.now).1 = .ok ident)
      (hnet : (r.registerInterface sink clock.now).2.netIdOf ident = some net) :
      Reissues r net (clock, .registerInterface sink)
  | renumber {clock ident} (h : (r.reassignInterfaceNetId ident net).1 = .ok ()) :
      Reissues r net (clock, .reassignInterfaceNetId ident net)

/-- The step ends the lease of `net` with its current token. -/
inductive Released (src net : UInt16) (r : Router σ N S C) : Clock × Op σ → Prop
  | release {clock tok} (h : (r.releaseSeedNetAssignment src net tok clock.now).1 = .ok ())
      (htok : CurrentToken r src net tok) :
      Released src net r (clock, .releaseSeedNetAssignment src net tok)

/-- The step deregisters, at `d`, the interface the route to `net` goes through. -/
inductive LostAt (src net : UInt16) (d : Nat) (r : Router σ N S C) : Clock × Op σ → Prop
  | lost {clock ident e} (h : (r.deregisterInterface ident clock.now).1 = .ok ())
      (he : r.seedRoutes.get net src = some e) (hvia : e.extra.viaIdent = ident)
      (hd : clock.now = d) : LostAt src net d r (clock, .deregisterInterface ident)

/-! ## Holding a net id -/

/-- The table reserves `net`, leased by `src`, until `deadline` or later. -/
def Held (src net : UInt16) (deadline : Nat) (r : Router σ N S C) : Prop :=
  ∃ e, r.seedRoutes.get net src = some e ∧ deadline ≤ e.kind.reservedUntil

theorem Held.mono {src net : UInt16} {d d' : Nat} {r : Router σ N S C} (h : Held src net d r)
    (hle : d' ≤ d) : Held src net d' r := by
  obtain ⟨e, he, hd⟩ := h
  exact ⟨e, he, Nat.le_trans hle hd⟩

/-- Before the deadline, aging keeps the net id held. -/
theorem Held.of_aged {src net : UInt16} {d now : Nat} {r : Router σ N S C}
    {t : LeaseTable UInt16 SeedRoute S} (h : Held src net d r) (hnow : now < d)
    (haged : Aged now (r.seedRoutes.get net src) (t.get net src)) :
    ∃ e, t.get net src = some e ∧ d ≤ e.kind.reservedUntil := by
  obtain ⟨e, he, hd⟩ := h
  rw [he] at haged
  obtain ⟨k, hk, hages⟩ := haged.of_reserved (Nat.lt_of_lt_of_le hnow hd)
  exact ⟨_, hk, by rw [← hages.reservedUntil] at hd; exact hd⟩

/-- Before the deadline, a collected table still contains the net id. -/
theorem Held.contains_gc {src net : UInt16} {d now : Nat} {r : Router σ N S C}
    (hwf : r.directory.Wf) (h : Held src net d r) (hnow : now < d) :
    (r.seedRoutes.gc now).containsKey net = true := by
  obtain ⟨e, he, -⟩ := h.of_aged hnow
    (LeaseTable.aged_get_gc (LeaseTable.ids_nodup hwf.leases) now net src)
  exact LeaseTable.containsKey_of_get he

/-- A held net id is not given away before the deadline. -/
theorem Held.reissued_late {src net : UInt16} {d : Nat} {r : Router σ N S C}
    {step : Clock × Op σ} (hwf : r.directory.Wf) (h : Held src net d r)
    (hre : Reissues r net step) : d ≤ step.1.now := by
  by_contra hlt
  have hlt : step.1.now < d := Nat.not_le.mp hlt
  have hcontains := h.contains_gc hwf hlt
  cases hre with
  | @seed clock src' a hok hnet =>
    cases hreq : r.requestSeedNetAssign src' clock.now with
    | mk res r' =>
      rw [hreq] at hok
      cases hok
      obtain ⟨-, -, -, -, -, halloc, -⟩ := requestSeedNetAssign_ok hreq
      obtain ⟨-, -, hfree, -⟩ := allocNetId_spec halloc
      rw [hnet] at hfree
      exact Bool.false_ne_true (hfree.symm.trans hcontains)
  | @slot clock sink ident hok hnet =>
    cases hreg : r.registerInterface sink clock.now with
    | mk res r' =>
      rw [hreg] at hok hnet
      cases hok
      obtain ⟨netId, -, halloc, hident, -, hslots, -⟩ := registerInterface_ok hreg
      obtain ⟨-, -, hfree, -⟩ := allocNetId_spec halloc
      -- the new slot is the only one with its ident
      have hnone : r.slots.toList.find? (fun s => s.ident = ident) = none := by
        rw [List.find?_eq_none]
        intro s hs heq
        exact hident (List.mem_map.mpr ⟨s, hs, by simpa using heq⟩)
      rw [netIdOf, hslots, List.find?_append, hnone] at hnet
      have hnet : netId = net := by simpa using hnet
      rw [hnet] at hfree
      exact Bool.false_ne_true (hfree.symm.trans hcontains)
  | @renumber clock ident hok =>
    cases hre : r.reassignInterfaceNetId ident net with
    | mk res r' =>
      rw [hre] at hok
      cases hok
      obtain ⟨_, _, _, -, -, hfree, -⟩ := reassignInterfaceNetId_ok hre
      obtain ⟨e, he, -⟩ := h
      exact Bool.false_ne_true (hfree.symm.trans (LeaseTable.containsKey_of_get he))

/-- Right after a grant, the net id is held for the promised time and the grace. -/
theorem Grants.held [InterfaceSink σ] {r : Router σ N S C} {src net s : UInt16}
    {step : Clock × Op σ} (h : Grants r src net s step) :
    Held src net (step.1.now + secs s.toNat + secs tombstoneDurationSecs) (r.exec step) := by
  cases h with
  | @assigned clock a hok hnet hsecs =>
    cases hreq : r.requestSeedNetAssign src clock.now with
    | mk res r' =>
      have hexec : r.exec (clock, .requestSeedNetAssign src) = r' := by
        show (r.requestSeedNetAssign src clock.now).2 = r'
        rw [hreq]
      rw [hreq] at hok
      cases hok
      obtain ⟨-, -, -, -, -, -, hexp, -⟩ := requestSeedNetAssign_ok hreq
      obtain ⟨via, -, -, hget⟩ := requestSeedNetAssign_get hreq
      rw [hexec]
      subst hnet hsecs
      refine ⟨_, (hget _ _).trans (if_pos ⟨rfl, rfl⟩), ?_⟩
      rw [hexp]
      exact Nat.le_refl _
  | @renewed clock tok a hok htok hsecs =>
    cases hreq : r.refreshSeedNetAssignment src net tok clock.now with
    | mk res r' =>
      have hexec : r.exec (clock, .refreshSeedNetAssignment src net tok) = r' := by
        show (r.refreshSeedNetAssignment src net tok clock.now).2 = r'
        rw [hreq]
      rw [hreq] at hok
      cases hok
      obtain ⟨e, l, he, hl, -, -, hcases⟩ := refreshSeedNetAssignment_ok hreq
      obtain ⟨e', l', he', hl', hcur⟩ := htok
      rw [he] at he'
      cases he'
      rw [hl] at hl'
      cases hl'
      rcases hcases with ⟨-, -, hexp, -, rfl⟩ | ⟨hne, -⟩
      · rw [hexec]
        subst hsecs
        refine ⟨_, LeaseTable.get_setKind_self he _, ?_⟩
        rw [hexp]
        exact Nat.le_refl _
      · exact absurd hcur hne

variable [InterfaceSink σ]

/-- What a step of a root does to a net id that is held past the step's time: only
a release or the loss of the interface can end or shorten it. -/
theorem Held.step {src net : UInt16} {d : Nat} {r : Router σ N S C} {step : Clock × Op σ}
    (hwf : r.directory.Wf) (hroot : rootOp step.2) (h : Held src net d r)
    (hnow : step.1.now < d) :
    Held src net d (r.exec step) ∨ Released src net r step ∨
      (LostAt src net step.1.now r step ∧
        Held src net (step.1.now + secs tombstoneDurationSecs) (r.exec step)) := by
  obtain ⟨clock, op⟩ := step
  have hcontains := h.contains_gc hwf hnow
  have heffect := seed_effect hwf clock op net src
  generalize hafter : (r.exec (clock, op)).seedRoutes.get net src = after at heffect
  cases heffect with
  | aged haged =>
    rw [← hafter] at haged
    exact .inl (h.of_aged hnow haged)
  | assigned hok hk hvia hfree => exact absurd hcontains (by rw [hfree]; exact Bool.false_ne_true)
  | renewed he hl hexp htok hwin =>
    refine .inl ⟨_, hafter, ?_⟩
    obtain ⟨e', he', hd⟩ := h
    rw [he] at he'
    cases he'
    rw [hl] at hd
    have hd : d ≤ _ + secs tombstoneDurationSecs := hd
    show d ≤ clock.now + secs maxLeaseSecs.toNat + secs tombstoneDurationSecs
    have hmax : secs minRefreshSecs.toNat ≤ secs maxLeaseSecs.toNat := by decide
    omega
  | released hok he hl hexp htok => exact .inr (.inl (.release hok ⟨_, _, he, hl, htok⟩))
  | releasedDelegated => cases hroot
  | lost hok he hvia =>
    exact .inr (.inr ⟨.lost hok he hvia rfl, _, hafter, Nat.le_refl _⟩)
  | delegated => cases hroot
  | replaced => cases hroot
  | committed => cases hroot

/-! ## Runs -/

/-- What is held until `d` is not reissued before `d`, when the interface was lost
at most 30 seconds before `d`: losing it again shortens nothing. -/
theorem Held.reissue_lost {src net : UInt16} {d t : Nat} {r : Router σ N S C}
    (hwf : r.directory.Wf) (h : Held src net d r) (hle : d ≤ t + secs tombstoneDurationSecs)
    {mid : List (Clock × Op σ)} {reissue : Clock × Op σ} (hroot : ∀ st ∈ mid, rootOp st.2)
    (htimed : Timed span t (mid ++ [reissue]))
    (hre : Reissues (runAll exec r mid) net reissue) :
    d ≤ reissue.1.now ∨ Happens exec (Released src net) r mid := by
  induction mid generalizing r t with
  | nil => exact .inl (h.reissued_late hwf hre)
  | cons st mid ih =>
    obtain ⟨hstart, hspan, htail⟩ := htimed
    have hstart : t ≤ st.1.now := hstart
    have hspan : st.1.now ≤ st.1.later := hspan
    have hlast : st.1.later ≤ reissue.1.now := htail.le_of_mem (by simp)
    by_cases hdue : d ≤ st.1.now
    · exact .inl (Nat.le_trans hdue (Nat.le_trans hspan hlast))
    · have hnow := Nat.not_le.mp hdue
      have hheld : Held src net d (r.exec st) ∨ Released src net r st := by
        rcases h.step hwf (hroot st List.mem_cons_self) hnow with h | hrel | ⟨-, h⟩
        · exact .inl h
        · exact .inr hrel
        · exact .inl (h.mono (by omega))
      rcases hheld with h | hrel
      · have hrest : ∀ st ∈ mid, rootOp st.2 :=
          fun st hst => hroot st (List.mem_cons_of_mem _ hst)
        exact (ih (exec_wf hwf st) h (by omega) hrest htail hre).imp_right .inr
      · exact .inr (.inl hrel)

/-- What is held until `d` is not reissued before `d`, unless it is released or its
interface is lost on the way. -/
theorem Held.reissue {src net : UInt16} {d t : Nat} {r : Router σ N S C}
    (hwf : r.directory.Wf) (h : Held src net d r) {mid : List (Clock × Op σ)}
    {reissue : Clock × Op σ} (hroot : ∀ st ∈ mid, rootOp st.2)
    (htimed : Timed span t (mid ++ [reissue]))
    (hre : Reissues (runAll exec r mid) net reissue) :
    d ≤ reissue.1.now ∨ Happens exec (Released src net) r mid ∨
      ∃ t, Happens exec (LostAt src net t) r mid ∧
        min d (t + secs tombstoneDurationSecs) ≤ reissue.1.now := by
  induction mid generalizing r t with
  | nil => exact .inl (h.reissued_late hwf hre)
  | cons st mid ih =>
    obtain ⟨-, hspan, htail⟩ := htimed
    have hspan : st.1.now ≤ st.1.later := hspan
    have hlast : st.1.later ≤ reissue.1.now := htail.le_of_mem (by simp)
    have hrest : ∀ st ∈ mid, rootOp st.2 := fun st hst => hroot st (List.mem_cons_of_mem _ hst)
    by_cases hdue : d ≤ st.1.now
    · exact .inl (Nat.le_trans hdue (Nat.le_trans hspan hlast))
    · rcases h.step hwf (hroot st List.mem_cons_self) (Nat.not_le.mp hdue) with
        h | hrel | ⟨hlost, h⟩
      · rcases ih (exec_wf hwf st) h hrest htail hre with hd | hrel | ⟨t', hlost, hd⟩
        · exact .inl hd
        · exact .inr (.inl (.inr hrel))
        · exact .inr (.inr ⟨t', .inr hlost, hd⟩)
      · exact .inr (.inl (.inl hrel))
      · -- from here on only the sooner of the two deadlines is kept
        have hmin := h.mono (Nat.min_le_right d _)
        have hle : min d (st.1.now + secs tombstoneDurationSecs) ≤
            st.1.later + secs tombstoneDurationSecs := by omega
        rcases hmin.reissue_lost (exec_wf hwf st) hle hrest htail hre with hd | hrel
        · exact .inr (.inr ⟨_, .inl hlost, hd⟩)
        · exact .inr (.inl (.inr hrel))

/-- A root reissues a net id granted at `t` for `s` seconds no earlier than 30
seconds after the lease would have expired, unless it was released with its
current token; if the interface its route goes through is deregistered at `d`, no
earlier than 30 seconds after the sooner of `d` and the expiration. -/
theorem reissue_after_reservation (rng : Rng) (hN : N ≤ 255) (src net s : UInt16)
    (before mid : List (Clock × Op σ)) (grant reissue : Clock × Op σ)
    (hroot : ∀ st ∈ mid, rootOp st.2)
    (htimed : Timed span 0 (before ++ grant :: (mid ++ [reissue])))
    (hgrant : Grants (runAll exec (new rng hN : Router σ N S C) before) src net s grant)
    (hreissue : Reissues (runAll exec (new rng hN : Router σ N S C) (before ++ grant :: mid))
      net reissue) :
    let r := runAll exec (new rng hN : Router σ N S C) (before ++ [grant])
    let expiry := grant.1.now + secs s.toNat
    expiry + secs tombstoneDurationSecs ≤ reissue.1.now ∨
      Happens exec (Released src net) r mid ∨
      ∃ d, Happens exec (LostAt src net d) r mid ∧
        min expiry d + secs tombstoneDurationSecs ≤ reissue.1.now := by
  intro r expiry
  have hbefore := runAll_wf (.root rng hN : Initial (new rng hN : Router σ N S C)) before
  have hr : r = exec (runAll exec (new rng hN : Router σ N S C) before) grant :=
    runAll_append _ before [grant]
  have hwf : r.directory.Wf := hr ▸ exec_wf hbefore grant
  have hheld : Held src net (expiry + secs tombstoneDurationSecs) r := hr ▸ hgrant.held
  have hsplit : before ++ grant :: mid = (before ++ [grant]) ++ mid := by simp
  rw [hsplit, runAll_append] at hreissue
  have hmid := (Timed_append.mp htimed).2.2.2
  rcases hheld.reissue hwf hroot hmid hreissue with hd | hrel | ⟨d, hlost, hd⟩
  · exact .inl hd
  · exact .inr (.inl hrel)
  · exact .inr (.inr ⟨d, hlost, by omega⟩)

/-! ## A run that loses the interface -/

/-- A root with room for two interfaces. -/
def demoRoot : Router FrameQueue 2 2 1 := new ⟨fun i => UInt64.ofNat (100 + i), 0⟩ two_slots

/-- A segment is attached and becomes net 1. -/
def demoAttach (t : Nat) : Clock × Op FrameQueue := (.at t, .registerInterface ⟨64, 1, []⟩)

/-- A bridge on net 1 asks for a net id. -/
def demoAssign (t : Nat) : Clock × Op FrameQueue := (.at t, .requestSeedNetAssign 1)

/-- The segment goes away after a second and comes back when the tombstone clears. -/
def demoLoss : List (Clock × Op FrameQueue) :=
  [(.at (secs 1), .deregisterInterface 0), demoAttach (secs 31)]

theorem demoAssign_grants :
    Grants (runAll exec demoRoot [demoAttach 0]) 1 2 30 (demoAssign 0) :=
  .assigned (a := ⟨2, 30, 120, 62, 100⟩) (by decide) rfl rfl

theorem demoAssign_reissues :
    Reissues (runAll exec demoRoot ([demoAttach 0] ++ demoAssign 0 :: demoLoss)) 2
      (demoAssign (secs 31)) :=
  .seed (a := ⟨2, 30, 120, 62, 101⟩) (by decide) rfl

/-- Net 2 is granted at 0 for 30 seconds and nothing is released, but it is granted
again at 31 seconds, and not at 60. -/
theorem reissued_early_after_deregister :
    Grants (runAll exec demoRoot [demoAttach 0]) 1 2 30 (demoAssign 0) ∧
      Reissues (runAll exec demoRoot ([demoAttach 0] ++ demoAssign 0 :: demoLoss)) 2
        (demoAssign (secs 31)) ∧
      Timed span 0 ([demoAttach 0] ++ demoAssign 0 :: (demoLoss ++ [demoAssign (secs 31)])) ∧
      ¬ Happens exec (Released 1 2) (runAll exec demoRoot [demoAttach 0, demoAssign 0]) demoLoss ∧
      ¬ (demoAssign 0).1.now + secs 30 + secs tombstoneDurationSecs ≤
        (demoAssign (secs 31)).1.now := by
  refine ⟨demoAssign_grants, demoAssign_reissues, ?_, ?_, by decide⟩
  · simp [Timed, span, demoAttach, demoAssign, demoLoss, Clock.at, secs]
  · rintro (h | h | h)
    · cases h
    · cases h
    · exact h

/-- The reservation that is kept, on the same run. -/
theorem reissue_after_reservation_demo :
    let r := runAll exec demoRoot ([demoAttach 0] ++ [demoAssign 0])
    0 + secs (30 : UInt16).toNat + secs tombstoneDurationSecs ≤ secs 31 ∨
      Happens exec (Released 1 2) r demoLoss ∨
      ∃ d, Happens exec (LostAt 1 2 d) r demoLoss ∧
        min (0 + secs (30 : UInt16).toNat) d + secs tombstoneDurationSecs ≤ secs 31 :=
  reissue_after_reservation _ (by decide) 1 2 30 [demoAttach 0] demoLoss (demoAssign 0)
    (demoAssign (secs 31)) (by decide)
    (by simp [Timed, span, demoAttach, demoAssign, demoLoss, Clock.at, secs])
    demoAssign_grants demoAssign_reissues

end Router

end Ergot
