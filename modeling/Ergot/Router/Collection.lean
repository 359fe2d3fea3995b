import Ergot.Router.Spec

/-!
# Garbage collection

Leases expire lazily: some operations collect garbage first, some age only the entry that they
look at, and some find a lease expired that was never collected. Which of them happened makes no
difference.

- `AgedAll.filterMap_aged_eq`: a later collection makes the same of a table and of what the
  passing of time has made of it. `LeaseTable.gc_gc` and `containsKeyAt_gc` follow.
- `Alike` is what an operation can be told apart by: whether it succeeds, with which value, and
  what a later collection makes of the table.
- Each operation does the same after a collection (`..._alike`). Those that do not collect first
  find a running lease where it was, and refuse any other.
- `gc_unobservable` has them all.
-/

namespace Ergot

/-! ## Entries -/

section Entries

variable {K X : Type} {n : Nat} {now later : Nat}

/-- What is not reserved any more is dropped. -/
theorem LeaseEntry.aged_eq_none {e : LeaseEntry K X} (h : e.kind.reservedUntil ≤ now) :
    e.aged now = none := by
  unfold LeaseEntry.aged LeaseTable.ageEntry
  rw [LeaseKind.gcRetain_snd, decide_eq_false (Nat.not_lt.mpr h)]
  rfl

/-- A lease that has aged is collected as it would have been. -/
theorem Ages.aged_eq {e : LeaseEntry K X} {k : LeaseKind} (h : Ages now e.kind k)
    (hle : now ≤ later) : LeaseEntry.aged later { e with kind := k } = e.aged later := by
  obtain ⟨key, scope, extra, kind⟩ := e
  cases h with
  | same => rfl
  | @expired l hexp =>
    have hexp' : l.expiration ≤ later := Nat.le_trans hexp hle
    by_cases hclear : l.expiration + secs tombstoneDurationSecs ≤ later
    · rw [LeaseEntry.aged_eq_none hclear, LeaseEntry.aged_eq_none hclear]
    · simp [LeaseEntry.aged, LeaseTable.ageEntry, LeaseKind.gcRetain, hexp', hclear,
        Nat.not_le.mp hclear]

/-- Whether a lease runs does not change by aging. -/
theorem Ages.isActive_eq {k k' : LeaseKind} (h : Ages now k k') :
    k'.isActive now = k.isActive now := by
  cases h with
  | same => rfl
  | expired hexp => exact (decide_eq_false (Nat.not_lt.mpr hexp)).symm

/-- Whatever has aged by now, a later collection makes the same of it. -/
theorem AgedAll.filterMap_aged_eq {l l' : List (LeaseEntry K X)} (h : AgedAll now l l')
    (hle : now ≤ later) :
    l'.filterMap (LeaseEntry.aged later) = l.filterMap (LeaseEntry.aged later) := by
  induction h with
  | nil => rfl
  | kept hk _ ih => rw [List.filterMap_cons, List.filterMap_cons, hk.aged_eq hle, ih]
  | reaped hr _ ih => rw [List.filterMap_cons, LeaseEntry.aged_eq_none (Nat.le_trans hr hle), ih]

/-- A choice by key and scope, which do not age. -/
theorem AgedAll.filter {l l' : List (LeaseEntry K X)} (h : AgedAll now l l')
    {q : LeaseEntry K X → Bool} (hq : ∀ e k, q { e with kind := k } = q e) :
    AgedAll now (l.filter q) (l'.filter q) := by
  induction h with
  | nil => exact .nil
  | @kept e k l l' hk _ ih =>
    simp only [List.filter_cons, hq]
    split
    · exact .kept hk ih
    · exact ih
  | @reaped e l l' hr _ ih =>
    rw [List.filter_cons]
    split
    · exact .reaped hr ih
    · exact ih

/-- A change to a running lease is the same before a collection and after it. -/
theorem filterMap_modifyFirst {l : List (LeaseEntry K X)} {p : LeaseEntry K X → Bool}
    {e : LeaseEntry K X} (f : LeaseEntry K X → LeaseEntry K X) (hfind : l.find? p = some e)
    (hp : ∀ e k, p { e with kind := k } = p e) (hlive : e.kind.isActive now)
    (hle : now ≤ later) :
    (HeaplessVec.modifyFirstList p f (l.filterMap (LeaseEntry.aged now))).filterMap
        (LeaseEntry.aged later) =
      (HeaplessVec.modifyFirstList p f l).filterMap (LeaseEntry.aged later) := by
  induction l with
  | nil => cases hfind
  | cons a l ih =>
    by_cases ha : p a = true
    · rw [List.find?_cons_of_pos ha] at hfind
      cases hfind
      have hrest := (AgedAll.filterMap_aged now l).filterMap_aged_eq hle
      simp only [List.filterMap_cons, LeaseEntry.aged_of_isActive hlive,
        HeaplessVec.modifyFirstList, ha, if_true, hrest]
    · rw [List.find?_cons_of_neg ha] at hfind
      have haged := LeaseEntry.aged_aged now a
      rw [List.filterMap_cons]
      generalize a.aged now = aged at haged
      cases haged with
      | @kept _ k hk =>
        have ha' : ¬ p { a with kind := k } = true := fun h => ha ((hp a k).symm.trans h)
        simp only [HeaplessVec.modifyFirstList, ha, ha', Bool.false_eq_true, if_false,
          List.filterMap_cons, hk.aged_eq hle, ih hfind]
      | reaped hr =>
        have hnone := LeaseEntry.aged_eq_none (Nat.le_trans hr hle)
        simp only [HeaplessVec.modifyFirstList, ha, Bool.false_eq_true, if_false,
          List.filterMap_cons, hnone, ih hfind]

end Entries

/-! ## Tables -/

namespace LeaseTable

variable {K X : Type} {n : Nat} {now later : Nat}

/-- Tables with the same entries are the same. -/
theorem eq_of_toList {t t' : LeaseTable K X n} (h : t.entries.toList = t'.entries.toList) :
    t = t' := by
  obtain ⟨entries⟩ := t
  obtain ⟨entries'⟩ := t'
  exact congrArg mk (HeaplessVec.ext h)

/-- A later collection does not see that time has passed. -/
theorem gc_of_agedAll {t t' : LeaseTable K X n}
    (h : AgedAll now t.entries.toList t'.entries.toList) (hle : now ≤ later) :
    t'.gc later = t.gc later :=
  eq_of_toList (h.filterMap_aged_eq hle)

/-- An earlier collection is not seen by a later one. -/
theorem gc_gc (t : LeaseTable K X n) (hle : now ≤ later) : (t.gc now).gc later = t.gc later :=
  gc_of_agedAll (.filterMap_aged now _) hle

variable [DecidableEq K]

theorem gc_modifyGet_gc {t : LeaseTable K X n} {k : K} {s : UInt16} {e : LeaseEntry K X}
    (f : LeaseEntry K X → LeaseEntry K X) (hget : t.get k s = some e)
    (hlive : e.kind.isActive now) (hle : now ≤ later) :
    ((t.gc now).modifyGet k s f).gc later = (t.modifyGet k s f).gc later :=
  eq_of_toList (filterMap_modifyFirst f hget (fun _ _ => rfl) hlive hle)

/-- What is removed need not be changed first. -/
theorem remove_setKind (t : LeaseTable K X n) (k : K) (s : UInt16) (kind : LeaseKind) :
    (t.setKind k s kind).remove k s = t.remove k s := by
  refine eq_of_toList ?_
  show (HeaplessVec.modifyFirstList _ _ t.entries.toList).filter _ = t.entries.toList.filter _
  induction t.entries.toList with
  | nil => rfl
  | cons e l ih =>
    unfold HeaplessVec.modifyFirstList
    by_cases he : e.key = k ∧ e.scope = s
    · simp [he]
    · rw [if_neg (by simpa using he), List.filter_cons, List.filter_cons, ih]

theorem gc_remove_gc (t : LeaseTable K X n) (k : K) (s : UInt16) (hle : now ≤ later) :
    ((t.gc now).remove k s).gc later = (t.remove k s).gc later :=
  gc_of_agedAll ((AgedAll.filterMap_aged now _).filter fun _ _ => rfl) hle

/-- After a collection there is a key exactly where one is found that is still reserved. -/
theorem containsKey_gc {t : LeaseTable K X n} {k : K} :
    (t.gc now).containsKey k = true ↔
      ∃ e ∈ t.entries.toList, e.key = k ∧ now < e.kind.reservedUntil := by
  show ((t.entries.toList.filterMap (LeaseEntry.aged now)).any fun e => e.key = k) = true ↔ _
  simp only [List.any_filterMap, List.any_eq_true]
  refine exists_congr fun e => and_congr_right fun _ => ?_
  unfold LeaseEntry.aged ageEntry
  rw [LeaseKind.gcRetain_snd]
  by_cases h : now < e.kind.reservedUntil <;> simp [h]

/-- The lazy check answers as a collection and a lookup would, and a later collection does not see
that it was made instead. -/
theorem containsKeyAt_gc {t : LeaseTable K X n} (hu : t.keys.Nodup) (k : K) :
    (t.containsKeyAt k now).1 = (t.gc now).containsKey k ∧
      ∀ later, now ≤ later →
        ((t.containsKeyAt k now).2.gc later).entries.toList.Perm (t.gc later).entries.toList := by
  unfold containsKeyAt
  split
  · next hnone =>
    refine ⟨(Bool.eq_false_iff.mpr fun h => ?_).symm, fun later _ => .refl _⟩
    obtain ⟨e, he, hkey, -⟩ := containsKey_gc.mp h
    have hno := List.findIdx?_eq_none_iff.mp hnone e he
    simp [hkey] at hno
  · next pos hpos =>
    have hlt : pos < t.entries.toList.length := (List.findIdx?_eq_some_iff_getElem.mp hpos).1
    have hkey : t.entries.toList[pos].key = k := by
      simpa using (List.findIdx?_eq_some_iff_getElem.mp hpos).2.1
    have hmem := List.getElem_mem hlt
    have hfind : t.byKey k = some t.entries.toList[pos] := by
      rw [← hkey]
      exact byKey_of_get hu (get_of_mem (ids_nodup hu) hmem)
    have hsnd := LeaseKind.gcRetain_snd t.entries.toList[pos].kind now
    dsimp only
    split
    · next hkept =>
      have hreserved : now < t.entries.toList[pos].kind.reservedUntil :=
        of_decide_eq_true (hsnd.symm.trans hkept)
      refine ⟨(containsKey_gc.mpr ⟨_, hmem, hkey, hreserved⟩).symm, fun later hle => .of_eq ?_⟩
      have hages := LeaseKind.gcRetain_ages t.entries.toList[pos].kind now
      have hmodify := AgedAll.modifyFirst hfind hages
      rw [← HeaplessVec.modifyFirstList_const _ hfind] at hmodify
      have hage := HeaplessVec.modifyFirstList_const (fun e => (ageEntry now e).1) hfind
      exact (hage ▸ hmodify).filterMap_aged_eq hle
    · next hdropped =>
      have hfree : t.entries.toList[pos].kind.reservedUntil ≤ now :=
        Nat.not_lt.mp (of_decide_eq_false (hsnd.symm.trans (Bool.eq_false_iff.mpr hdropped)))
      refine ⟨(Bool.eq_false_iff.mpr fun h => ?_).symm, fun later hle => ?_⟩
      · obtain ⟨e, he, hek, hreserved⟩ := containsKey_gc.mp h
        have hsame : e = t.entries.toList[pos] :=
          List.inj_on_of_nodup_map hu he hmem (by rw [hek, hkey])
        rw [hsame] at hreserved
        exact Nat.lt_irrefl _ (Nat.lt_of_lt_of_le hreserved hfree)
      · -- the entry that went would not have been seen later
        have hperm := (HeaplessVec.swapRemoveList_perm t.entries.toList pos hlt).filterMap
          (LeaseEntry.aged later)
        rw [List.filterMap_cons, LeaseEntry.aged_eq_none (Nat.le_trans hfree hle)] at hperm
        exact hperm

/-- There is a lease that runs. -/
def Running (t : LeaseTable K X n) (k : K) (s : UInt16) (now : Nat) : Prop :=
  ∃ e l, t.get k s = some e ∧ e.kind = .active l ∧ now < l.expiration

omit [DecidableEq K] in
theorem Running.isActive {e : LeaseEntry K X} {l : Lease} (hkind : e.kind = .active l)
    (hexp : now < l.expiration) : e.kind.isActive now := by
  rw [hkind]
  exact decide_eq_true hexp

/-- A collection leaves a running lease as it is. -/
theorem get_gc_of_running {t : LeaseTable K X n} (hu : t.ids.Nodup) {k : K} {s : UInt16}
    {e : LeaseEntry K X} (hget : t.get k s = some e) (hlive : e.kind.isActive now) :
    (t.gc now).get k s = some e := by
  have haged := aged_get_gc hu now k s
  rw [hget] at haged
  exact haged.of_isActive hlive

/-- No other lease runs after a collection. -/
theorem Running.of_gc {t : LeaseTable K X n} (hu : t.ids.Nodup) {k : K} {s : UInt16}
    (h : (t.gc now).Running k s now) : t.Running k s now := by
  obtain ⟨e, l, hget, hkind, hexp⟩ := h
  have haged := aged_get_gc hu now k s
  rw [hget] at haged
  obtain ⟨e₀, he₀, hages, -⟩ := haged.of_some
  rw [hkind] at hages
  exact ⟨e₀, l, he₀, hages.active_eq, hexp⟩

end LeaseTable

/-! ## Operations -/

section Alike

variable {σ ε α K X : Type} {N S C n : Nat} {now : Nat}

/-- Two outcomes of an operation that look the same: if one succeeds then so does the other, with
the same value, and a later collection makes the same of the table. -/
def Alike (table : Router σ N S C → LeaseTable K X n) (now : Nat)
    (x y : Except ε α × Router σ N S C) : Prop :=
  (∀ v, x.1 = .ok v ↔ y.1 = .ok v) ∧
    ∀ later, now ≤ later → (table x.2).gc later = (table y.2).gc later

namespace Alike

variable {table : Router σ N S C → LeaseTable K X n} {x y z : Except ε α × Router σ N S C}

theorem refl (x : Except ε α × Router σ N S C) : Alike table now x x :=
  ⟨fun _ => Iff.rfl, fun _ _ => rfl⟩

theorem symm (h : Alike table now x y) : Alike table now y x :=
  ⟨fun v => (h.1 v).symm, fun later hle => (h.2 later hle).symm⟩

theorem trans (h : Alike table now x y) (h' : Alike table now y z) : Alike table now x z :=
  ⟨fun v => (h.1 v).trans (h'.1 v), fun later hle => (h.2 later hle).trans (h'.2 later hle)⟩

/-- Both fail, and time has passed for both tables. -/
theorem of_refused (hx : ∀ v, x.1 ≠ .ok v) (hy : ∀ v, y.1 ≠ .ok v)
    (h : ∀ later, now ≤ later → (table x.2).gc later = (table y.2).gc later) :
    Alike table now x y :=
  ⟨fun v => iff_of_false (hx v) (hy v), h⟩

end Alike

/-- A lookup that is followed by a token check, in a table that was collected before and in one
that was not. Where no lease runs it fails, and only time passes. -/
theorem alike_of_running [DecidableEq K] {table : Router σ N S C → LeaseTable K X n}
    (op : Router σ N S C → Except ε α × Router σ N S C) {r r' : Router σ N S C} {k : K} {s : UInt16}
    (hgc : table r' = (table r).gc now) (hu : (table r).ids.Nodup)
    (hok : ∀ r v, (op r).1 = .ok v → (table r).Running k s now)
    (herr : ∀ r e, (op r).1 = .error e →
      AgedAll now (table r).entries.toList (table (op r).2).entries.toList)
    (hrun : ∀ e, (table r).get k s = some e → ((table r).gc now).get k s = some e →
      e.kind.isActive now → Alike table now (op r') (op r)) :
    Alike table now (op r') (op r) := by
  by_cases h : (table r).Running k s now
  · obtain ⟨e, l, hget, hkind, hexp⟩ := h
    have hlive := LeaseTable.Running.isActive hkind hexp
    exact hrun e hget (LeaseTable.get_gc_of_running hu hget hlive) hlive
  · have hrefused : ∀ v, (op r).1 ≠ .ok v := fun v hv => h (hok r v hv)
    have hrefused' : ∀ v, (op r').1 ≠ .ok v := by
      intro v hv
      have hrun := hok r' v hv
      rw [hgc] at hrun
      exact h (hrun.of_gc hu)
    -- what fails has an error
    have hpassed : ∀ r₀, (∀ v, (op r₀).1 ≠ .ok v) →
        AgedAll now (table r₀).entries.toList (table (op r₀).2).entries.toList := by
      intro r₀ hno
      cases hres : (op r₀).1 with
      | ok v => exact absurd hres (hno v)
      | error e => exact herr r₀ e hres
    refine .of_refused hrefused' hrefused fun later hle => ?_
    rw [LeaseTable.gc_of_agedAll (hpassed r hrefused) hle,
      LeaseTable.gc_of_agedAll (hpassed r' hrefused') hle, hgc, LeaseTable.gc_gc _ hle]

end Alike

namespace Router

variable {σ : Type} {N S C : Nat} {now : Nat} {r : Router σ N S C}

theorem gcSeed_gcSeed (r : Router σ N S C) {t now : Nat} (hle : t ≤ now) :
    (r.gcSeed t).gcSeed now = r.gcSeed now := by
  simp only [gcSeed, LeaseTable.gc_gc _ hle]

theorem gcClaims_gcClaims (r : Router σ N S C) {t now : Nat} (hle : t ≤ now) :
    (r.gcClaims t).gcClaims now = r.gcClaims now := by
  simp only [gcClaims, LeaseTable.gc_gc _ hle]

/-! ### Operations that collect first -/

theorem requestSeedNetAssign_alike (r : Router σ N S C) (src : UInt16) (now : Nat) :
    Alike seedRoutes now ((r.gcSeed now).requestSeedNetAssign src now)
      (r.requestSeedNetAssign src now) := by
  have hup : (r.gcSeed now).hasUpstream = r.hasUpstream := rfl
  have hrefused : ∀ e : SeedAssignmentError,
      Alike (α := SeedNetAssignment) seedRoutes now (.error e, r.gcSeed now) (.error e, r) :=
    fun e => .of_refused nofun nofun fun later hle => LeaseTable.gc_gc _ hle
  simp only [requestSeedNetAssign, hup, gcSeed_gcSeed r (Nat.le_refl now)]
  split
  · exact hrefused _
  · split
    · exact hrefused _
    · exact .refl _

theorem releaseSeedNetAssignment_alike (r : Router σ N S C) (src net : UInt16) (tok : Token)
    (now : Nat) :
    Alike seedRoutes now ((r.gcSeed now).releaseSeedNetAssignment src net tok now)
      (r.releaseSeedNetAssignment src net tok now) := by
  simp only [releaseSeedNetAssignment, gcSeed_gcSeed r (Nat.le_refl now)]
  exact .refl _

theorem prepareDelegatedRefresh_alike (r : Router σ N S C) (src net : UInt16) (tok : Token)
    (now : Nat) :
    Alike seedRoutes now ((r.gcSeed now).prepareDelegatedRefresh src net tok now)
      (r.prepareDelegatedRefresh src net tok now) := by
  simp only [prepareDelegatedRefresh, gcSeed_gcSeed r (Nat.le_refl now)]
  exact .refl _

theorem prepareDelegatedRelease_alike (r : Router σ N S C) (src net : UInt16) (tok : Token)
    (now : Nat) :
    Alike seedRoutes now ((r.gcSeed now).prepareDelegatedRelease src net tok now)
      (r.prepareDelegatedRelease src net tok now) := by
  simp only [prepareDelegatedRelease, gcSeed_gcSeed r (Nat.le_refl now)]
  exact .refl _

theorem requestNodeClaim_alike (r : Router σ N S C) (src : UInt16) (node : UInt8) (nonce : UInt64)
    (now : Nat) :
    Alike nodeClaims now ((r.gcClaims now).requestNodeClaim src node nonce now)
      (r.requestNodeClaim src node nonce now) := by
  simp only [requestNodeClaim, gcClaims_gcClaims r (Nat.le_refl now)]
  split
  · refine .of_refused ?_ ?_ fun later hle => LeaseTable.gc_gc _ hle
    · rintro v ⟨⟩
    · rintro v ⟨⟩
  · exact .refl _

/-! ### Operations that do not -/

theorem refreshSeedNetAssignment_alike (hu : r.seedRoutes.ids.Nodup) (src net : UInt16)
    (tok : Token) (now : Nat) :
    Alike seedRoutes now ((r.gcSeed now).refreshSeedNetAssignment src net tok now)
      (r.refreshSeedNetAssignment src net tok now) := by
  refine alike_of_running (fun r => r.refreshSeedNetAssignment src net tok now) (k := net)
    (s := src) rfl hu (fun r v hv => ?_) (fun r e he => ?_) fun e hget hget' hlive => ?_
  · obtain ⟨e, l, hget, hkind, hexp, -⟩ := refreshSeedNetAssignment_ok (Prod.ext hv rfl)
    exact ⟨e, l, hget, hkind, hexp⟩
  · exact (refreshSeedNetAssignment_error (Prod.ext he rfl)).seedRoutes
  · simp only [refreshSeedNetAssignment, gcSeed, hget, hget']
    rcases e.kind.refresh tok now r.rng.next.1 true with ⟨d | ⟨l, replayed⟩, kind⟩
    · exact ⟨fun v => Iff.rfl, fun later hle => LeaseTable.gc_modifyGet_gc _ hget hlive hle⟩
    · exact ⟨fun v => Iff.rfl, fun later hle => LeaseTable.gc_modifyGet_gc _ hget hlive hle⟩

theorem commitDelegatedRefresh_alike (hu : r.seedRoutes.ids.Nodup) (src : UInt16) (tok : Token)
    (parent : SeedLease) (now : Nat) :
    Alike seedRoutes now ((r.gcSeed now).commitDelegatedRefresh src tok parent now)
      (r.commitDelegatedRefresh src tok parent now) := by
  refine alike_of_running (fun r => r.commitDelegatedRefresh src tok parent now)
    (k := parent.netId) (s := src) rfl hu (fun r v hv => ?_) (fun r e he => ?_)
    fun e hget hget' hlive => ?_
  · obtain ⟨e, l, -, hget, hkind, -, hexp, -⟩ := commitDelegatedRefresh_ok (Prod.ext hv rfl)
    exact ⟨e, l, hget, hkind, hexp⟩
  · exact (commitDelegatedRefresh_error (Prod.ext he rfl)).seedRoutes
  · have hpassed : ∀ later, now ≤ later → (r.seedRoutes.gc now).gc later = r.seedRoutes.gc later :=
      fun later hle => LeaseTable.gc_gc _ hle
    simp only [commitDelegatedRefresh, gcSeed, hget, hget']
    split
    · exact ⟨fun v => Iff.rfl, hpassed⟩
    · rcases e.kind.validateToken tok now false with ⟨d | m, kind⟩
      · exact ⟨fun v => Iff.rfl, fun later hle => LeaseTable.gc_modifyGet_gc _ hget hlive hle⟩
      · cases kind with
        | tombstone clearTime => exact ⟨fun v => Iff.rfl, hpassed⟩
        | active l =>
          cases e.extra.parent with
          | none => exact ⟨fun v => Iff.rfl, hpassed⟩
          | some p =>
            exact ⟨fun v => Iff.rfl, fun later hle => LeaseTable.gc_modifyGet_gc _ hget hlive hle⟩

theorem commitDelegatedRelease_alike (hu : r.seedRoutes.ids.Nodup) (src net : UInt16) (tok : Token)
    (now : Nat) :
    Alike seedRoutes now ((r.gcSeed now).commitDelegatedRelease src net tok now)
      (r.commitDelegatedRelease src net tok now) := by
  refine alike_of_running (fun r => r.commitDelegatedRelease src net tok now) (k := net)
    (s := src) rfl hu (fun r v hv => ?_) (fun r e he => ?_) fun e hget hget' hlive => ?_
  · obtain ⟨e, l, hget, hkind, hexp, -⟩ := commitDelegatedRelease_ok (Prod.ext hv rfl)
    exact ⟨e, l, hget, hkind, hexp⟩
  · exact (commitDelegatedRelease_error (Prod.ext he rfl)).seedRoutes
  · simp only [commitDelegatedRelease, gcSeed, hget, hget']
    rcases e.kind.validateToken tok now false with ⟨d | m, kind⟩
    · exact ⟨fun v => Iff.rfl, fun later hle => LeaseTable.gc_modifyGet_gc _ hget hlive hle⟩
    · refine ⟨fun v => Iff.rfl, fun later hle => ?_⟩
      -- what is removed does not have to be set
      simp only [setSeedKind, LeaseTable.remove_setKind]
      exact LeaseTable.gc_remove_gc _ _ _ hle

theorem refreshNodeClaim_alike (hu : r.nodeClaims.ids.Nodup) (src : UInt16) (node : UInt8)
    (tok : Token) (now : Nat) :
    Alike nodeClaims now ((r.gcClaims now).refreshNodeClaim src node tok now)
      (r.refreshNodeClaim src node tok now) := by
  refine alike_of_running (fun r => r.refreshNodeClaim src node tok now) (k := node)
    (s := src) rfl hu (fun r v hv => ?_) (fun r e he => ?_) fun e hget hget' hlive => ?_
  · obtain ⟨e, l, hget, hkind, hexp, -⟩ := refreshNodeClaim_ok (Prod.ext hv rfl)
    exact ⟨e, l, hget, hkind, hexp⟩
  · exact (refreshNodeClaim_error (Prod.ext he rfl)).nodeClaims
  · simp only [refreshNodeClaim, gcClaims, hget, hget']
    rcases e.kind.refresh tok now r.rng.next.1 true with ⟨d | ⟨l, replayed⟩, kind⟩
    · exact ⟨fun v => Iff.rfl, fun later hle => LeaseTable.gc_modifyGet_gc _ hget hlive hle⟩
    · exact ⟨fun v => Iff.rfl, fun later hle => LeaseTable.gc_modifyGet_gc _ hget hlive hle⟩

/-- A claim is looked up without a collection. -/
theorem isNodeClaimed_gcClaims (hu : r.nodeClaims.ids.Nodup) (net : UInt16) (node : UInt8)
    (now : Nat) : (r.gcClaims now).isNodeClaimed net node now = r.isNodeClaimed net node now := by
  have haged : Aged now (r.nodeClaims.get node net) ((r.nodeClaims.gc now).get node net) :=
    LeaseTable.aged_get_gc hu now node net
  simp only [isNodeClaimed, gcClaims]
  split
  · rfl
  · generalize (r.nodeClaims.gc now).get node net = found' at haged
    generalize r.nodeClaims.get node net = found at haged
    cases haged with
    | none => rfl
    | kept hk => exact hk.isActive_eq
    | @reaped e hr =>
      refine (Bool.eq_false_iff.mpr fun hlive => ?_).symm
      have hkept := (Aged.reaped hr).of_isActive hlive
      cases hkept

end Router

/-! ## Runs of the collector -/

section Unobservable

variable {σ ε α K X : Type} {N S C n : Nat}

/-- How often garbage was collected before an operation does not show. -/
def Unobservable (gc : Router σ N S C → Nat → Router σ N S C)
    (table : Router σ N S C → LeaseTable K X n)
    (op : Router σ N S C → Nat → Except ε α × Router σ N S C) : Prop :=
  ∀ r, (table r).ids.Nodup → ∀ (times : List Nat) now, (∀ t ∈ times, t ≤ now) →
    Alike table now (op (times.foldl gc r) now) (op r now)

variable {gc : Router σ N S C → Nat → Router σ N S C} {table : Router σ N S C → LeaseTable K X n}

/-- A collection at the end makes those before it superfluous. -/
theorem gc_foldl (hidem : ∀ r t now, t ≤ now → gc (gc r t) now = gc r now)
    (r : Router σ N S C) {times : List Nat} {now : Nat} (htimes : ∀ t ∈ times, t ≤ now) :
    gc (times.foldl gc r) now = gc r now := by
  induction times generalizing r with
  | nil => rfl
  | cons t times ih =>
    rw [List.foldl_cons, ih (gc r t) fun t' ht' => htimes t' (List.mem_cons_of_mem t ht'),
      hidem r t now (htimes t List.mem_cons_self)]

theorem ids_nodup_foldl (hgc : ∀ r t, table (gc r t) = (table r).gc t) {r : Router σ N S C}
    (hu : (table r).ids.Nodup) (times : List Nat) : (table (times.foldl gc r)).ids.Nodup := by
  induction times generalizing r with
  | nil => exact hu
  | cons t times ih =>
    refine ih ?_
    rw [hgc]
    exact hu.sublist (LeaseTable.ids_gc_sublist _ t)

/-- It is enough that a collection at the very moment of the operation does not show. -/
theorem unobservable_of_alike {op : Router σ N S C → Nat → Except ε α × Router σ N S C}
    (hgc : ∀ r t, table (gc r t) = (table r).gc t)
    (hidem : ∀ r t now, t ≤ now → gc (gc r t) now = gc r now)
    (h : ∀ r now, (table r).ids.Nodup → Alike table now (op (gc r now) now) (op r now)) :
    Unobservable gc table op := by
  intro r hu times now htimes
  have hcollected := h _ now (ids_nodup_foldl hgc hu times)
  rw [gc_foldl hidem r htimes] at hcollected
  exact hcollected.symm.trans (h r now hu)

variable {op : Router σ N S C → Nat → Except ε α × Router σ N S C}

theorem Router.unobservable_seed
    (h : ∀ r now, r.seedRoutes.ids.Nodup → Alike seedRoutes now (op (r.gcSeed now) now) (op r now)) :
    Unobservable gcSeed seedRoutes op :=
  unobservable_of_alike (fun _ _ => rfl) (fun r _ _ => gcSeed_gcSeed r) h

theorem Router.unobservable_claims
    (h : ∀ r now, r.nodeClaims.ids.Nodup →
      Alike nodeClaims now (op (r.gcClaims now) now) (op r now)) :
    Unobservable gcClaims nodeClaims op :=
  unobservable_of_alike (fun _ _ => rfl) (fun r _ _ => gcClaims_gcClaims r) h

end Unobservable

open Router in
/-- Garbage collection does not show: not in a later collection, not in the lazy check of a key,
and not in the operations on seed routes and node claims. -/
theorem gc_unobservable {σ : Type} {N S C : Nat} :
    (∀ {K X : Type} {n : Nat} (t : LeaseTable K X n) (t₁ t₂ : Nat), t₁ ≤ t₂ →
      (t.gc t₁).gc t₂ = t.gc t₂) ∧
    (∀ {K X : Type} {n : Nat} [DecidableEq K] (t : LeaseTable K X n), t.keys.Nodup →
      ∀ (k : K) (now : Nat), (t.containsKeyAt k now).1 = (t.gc now).containsKey k ∧
        ∀ later, now ≤ later → ((t.containsKeyAt k now).2.gc later).entries.toList.Perm
          (t.gc later).entries.toList) ∧
    (∀ (src net : UInt16) (tok : Token),
      Unobservable (σ := σ) (N := N) (S := S) (C := C) gcSeed seedRoutes
          (fun r now => r.requestSeedNetAssign src now) ∧
        Unobservable (σ := σ) (N := N) (S := S) (C := C) gcSeed seedRoutes
          (fun r now => r.refreshSeedNetAssignment src net tok now) ∧
        Unobservable (σ := σ) (N := N) (S := S) (C := C) gcSeed seedRoutes
          (fun r now => r.releaseSeedNetAssignment src net tok now) ∧
        Unobservable (σ := σ) (N := N) (S := S) (C := C) gcSeed seedRoutes
          (fun r now => r.prepareDelegatedRefresh src net tok now) ∧
        (∀ parent : SeedLease,
          Unobservable (σ := σ) (N := N) (S := S) (C := C) gcSeed seedRoutes
            (fun r now => r.commitDelegatedRefresh src tok parent now)) ∧
        Unobservable (σ := σ) (N := N) (S := S) (C := C) gcSeed seedRoutes
          (fun r now => r.prepareDelegatedRelease src net tok now) ∧
        Unobservable (σ := σ) (N := N) (S := S) (C := C) gcSeed seedRoutes
          (fun r now => r.commitDelegatedRelease src net tok now)) ∧
    (∀ (src : UInt16) (node : UInt8) (nonce : UInt64) (tok : Token),
      Unobservable (σ := σ) (N := N) (S := S) (C := C) gcClaims nodeClaims
          (fun r now => r.requestNodeClaim src node nonce now) ∧
        Unobservable (σ := σ) (N := N) (S := S) (C := C) gcClaims nodeClaims
          (fun r now => r.refreshNodeClaim src node tok now) ∧
        ∀ r : Router σ N S C, r.nodeClaims.ids.Nodup → ∀ (times : List Nat) (now : Nat),
          (∀ t ∈ times, t ≤ now) →
            (times.foldl gcClaims r).isNodeClaimed src node now = r.isNodeClaimed src node now) := by
  refine ⟨fun t _ _ hle => t.gc_gc hle, fun t hu k now => LeaseTable.containsKeyAt_gc hu k,
    fun src net tok => ⟨?_, ?_, ?_, ?_, fun parent => ?_, ?_, ?_⟩,
    fun src node nonce tok => ⟨?_, ?_, fun r hu times now htimes => ?_⟩⟩
  · exact unobservable_seed fun r now _ => requestSeedNetAssign_alike r src now
  · exact unobservable_seed fun r now hu => refreshSeedNetAssignment_alike hu src net tok now
  · exact unobservable_seed fun r now _ => releaseSeedNetAssignment_alike r src net tok now
  · exact unobservable_seed fun r now _ => prepareDelegatedRefresh_alike r src net tok now
  · exact unobservable_seed fun r now hu => commitDelegatedRefresh_alike hu src tok parent now
  · exact unobservable_seed fun r now _ => prepareDelegatedRelease_alike r src net tok now
  · exact unobservable_seed fun r now hu => commitDelegatedRelease_alike hu src net tok now
  · exact unobservable_claims fun r now _ => requestNodeClaim_alike r src node nonce now
  · exact unobservable_claims fun r now hu => refreshNodeClaim_alike hu src node tok now
  · have hu' : (times.foldl gcClaims r).nodeClaims.ids.Nodup :=
      ids_nodup_foldl (fun _ _ => rfl) hu times
    rw [← isNodeClaimed_gcClaims hu src node now, ← isNodeClaimed_gcClaims hu' src node now,
      gc_foldl (fun r _ _ => gcClaims_gcClaims r) r htimes]

/-- A root router with one segment, whose node has had net 2 for 10 seconds. -/
def demoLeased : Router FrameQueue 1 1 1 :=
  let r := (Router.new ⟨fun i => UInt64.ofNat i, 0⟩ Router.one_slot).registerInterface ⟨64, 1, []⟩ 0
  (r.2.requestSeedNetAssign 1 (secs 10)).2

/-- A refresh after two collections is granted as it is without. -/
theorem gc_unobservable_demo :
    (((demoLeased.gcSeed (secs 20)).gcSeed (secs 30)).refreshSeedNetAssignment 1 2 0 (secs 30)).1 =
      .ok ⟨2, maxLeaseSecs, maxLeaseSecs, minRefreshSecs, 1⟩ := by
  have h := (gc_unobservable (σ := FrameQueue) (N := 1) (S := 1) (C := 1)).2.2.1 1 2 0
  have halike := h.2.1 demoLeased (by decide) [secs 20, secs 30] (secs 30) (by decide)
  exact (halike.1 _).mpr (by decide)

end Ergot
