import Mathlib.Data.List.Find
import Ergot.Router.Lease

/-!
# What lease operations do

- `Ages now k k'`: all that time alone can do to a lease at `now`. Both the
  garbage collector and a refused token check stay within it, and it never moves
  `reservedUntil`.
- `LeaseKind.validateToken_ok`, `LeaseKind.refresh_rotated` and
  `LeaseKind.refresh_replayed`: what an accepted token means.
- `LeaseTable.get` as a finite map: one lemma for each table operation, saying
  what a later lookup finds. Only `gc` needs the keys to be distinct, because
  dropping an entry uncovers a second one with the same key.
-/

namespace Ergot

/-! ## One lease -/

/-- What the passing of time can do to a lease by `now`. -/
inductive Ages (now : Nat) : LeaseKind → LeaseKind → Prop
  | same (k : LeaseKind) : Ages now k k
  | expired {l : Lease} (h : l.expiration ≤ now) :
      Ages now (.active l) (.tombstone (l.expiration + secs tombstoneDurationSecs))

namespace Ages

theorem reservedUntil {now : Nat} {k k' : LeaseKind} (h : Ages now k k') :
    k'.reservedUntil = k.reservedUntil := by
  cases h <;> rfl

/-- A lease that is still running has not aged. -/
theorem eq_of_isActive {now : Nat} {k k' : LeaseKind} (h : Ages now k k')
    (ha : k.isActive now) : k' = k := by
  cases h with
  | same => rfl
  | expired hexp =>
    have hlt := of_decide_eq_true ha
    omega

/-- Aging never revives a lease. -/
theorem active_eq {now : Nat} {k : LeaseKind} {l : Lease} (h : Ages now k (.active l)) :
    k = .active l := by
  cases h
  rfl

theorem trans {now : Nat} {k k' k'' : LeaseKind} (h : Ages now k k')
    (h' : Ages now k' k'') : Ages now k k'' := by
  cases h with
  | same => exact h'
  | expired hexp =>
    cases h' with
    | same => exact .expired hexp

end Ages

namespace LeaseKind

theorem isActive_active {l : Lease} {now : Nat} :
    (LeaseKind.active l).isActive now = decide (now < l.expiration) := rfl

/-- A lease is kept exactly as long as its key is reserved. -/
theorem gcRetain_snd (k : LeaseKind) (now : Nat) :
    (k.gcRetain now).2 = decide (now < k.reservedUntil) := by
  cases k with
  | tombstone clearTime => rfl
  | active l =>
    unfold gcRetain reservedUntil
    simp only [secs, tombstoneDurationSecs]
    by_cases h : l.expiration ≤ now
    · by_cases h' : l.expiration + 30 * 1000000000 ≤ now
      · simp [h, h', Nat.not_lt.mpr h']
      · simp [h, h', Nat.not_le.mp h']
    · have hlt : now < l.expiration + 30 * 1000000000 := by omega
      simp [h, hlt]

/-- The garbage collector only ages. -/
theorem gcRetain_ages (k : LeaseKind) (now : Nat) : Ages now k (k.gcRetain now).1 := by
  cases k with
  | tombstone clearTime => exact .same _
  | active l =>
    unfold gcRetain
    by_cases h : l.expiration ≤ now
    · simp only [h, if_true]
      split
      · exact .same _
      · exact .expired h
    · simp only [h, if_false]
      exact .same _

/-- Which token a lease accepts: the current one, or for a replay the previous. -/
inductive Accepts (l : Lease) (tok : Token) (allowReplay : Bool) : TokenMatch → Prop
  | current (h : l.refreshToken = tok) : Accepts l tok allowReplay .current
  | replay (hne : l.refreshToken ≠ tok) (hr : allowReplay = true)
      (h : l.previousRefreshToken = some tok) : Accepts l tok allowReplay .replay

/-- An accepted token: the lease is running, knows the token, and is unchanged. -/
theorem validateToken_ok {k k' : LeaseKind} {tok : Token} {now : Nat} {b : Bool}
    {m : TokenMatch} (h : k.validateToken tok now b = (.ok m, k')) :
    ∃ l, k = .active l ∧ k' = k ∧ now < l.expiration ∧ Accepts l tok b m := by
  cases k with
  | tombstone clearTime => simp [validateToken] at h
  | active l =>
    refine ⟨l, rfl, ?_⟩
    unfold validateToken at h
    by_cases hcur : l.refreshToken = tok
    · simp only [hcur, if_true] at h
      split at h
      · simp at h
      · next hexp =>
        simp only [Prod.mk.injEq, Except.ok.injEq] at h
        obtain ⟨rfl, rfl⟩ := h
        exact ⟨rfl, Nat.not_le.mp hexp, .current hcur⟩
    · simp only [hcur, if_false] at h
      by_cases hrep : b = true ∧ l.previousRefreshToken = some tok
      · simp only [hrep, and_self, if_true] at h
        split at h
        · simp at h
        · next hexp =>
          simp only [Prod.mk.injEq, Except.ok.injEq] at h
          obtain ⟨rfl, rfl⟩ := h
          exact ⟨rfl, Nat.not_le.mp hexp, .replay hcur hrep.1 hrep.2⟩
      · simp [hrep] at h

/-- A token check only ages the lease. -/
theorem validateToken_ages (k : LeaseKind) (tok : Token) (now : Nat) (b : Bool) :
    Ages now k (k.validateToken tok now b).2 := by
  cases k with
  | tombstone clearTime => exact .same _
  | active l =>
    unfold validateToken
    simp only
    split
    · exact .same _
    · split
      · next hexp => exact .expired hexp
      · exact .same _

/-- A running lease accepts the tokens it accepts. -/
theorem validateToken_of_accepts {l : Lease} {tok : Token} {now : Nat} {b : Bool}
    {m : TokenMatch} (hexp : now < l.expiration) (h : Accepts l tok b m) :
    (LeaseKind.active l).validateToken tok now b = (.ok m, .active l) := by
  have hle : ¬ l.expiration ≤ now := Nat.not_le.mpr hexp
  cases h with
  | current h => simp [validateToken, h, hle]
  | replay hne hr h => simp [validateToken, hne, hr, h, hle]

/-- A running lease accepts its own token. -/
theorem validateToken_current {k : LeaseKind} {l : Lease} {now : Nat} (hl : k = .active l)
    (hexp : now < l.expiration) (b : Bool) :
    k.validateToken l.refreshToken now b = (.ok .current, .active l) := by
  subst hl
  exact validateToken_of_accepts hexp (.current rfl)

/-- The lease a refresh that was not a replay leaves behind. -/
def renewed (l : Lease) (now : Nat) (newToken : Token) : Lease :=
  { expiration := now + secs maxLeaseSecs.toNat
    refreshToken := newToken
    previousRefreshToken := some l.refreshToken }

/-- A refresh that rotated: the current token was presented, inside the window. -/
theorem refresh_rotated {k k' : LeaseKind} {tok newToken : Token} {now : Nat} {l' : Lease}
    (h : k.refresh tok now newToken true = (.ok (l', false), k')) :
    ∃ l, k = .active l ∧ now < l.expiration ∧ l.refreshToken = tok ∧
      l.expiration - now ≤ secs minRefreshSecs.toNat ∧
      l' = renewed l now newToken ∧ k' = .active l' := by
  unfold refresh at h
  split at h
  · simp at h
  · next m k'' hv =>
    obtain ⟨l, rfl, rfl, hexp, hacc⟩ := validateToken_ok hv
    refine ⟨l, rfl, hexp, ?_⟩
    simp only at h
    cases hacc with
    | replay => simp at h
    | current hcur =>
      simp only [reduceCtorEq, if_false] at h
      split at h
      · simp at h
      · next hwin =>
        simp only [if_true, Prod.mk.injEq, Except.ok.injEq, and_true] at h
        obtain ⟨rfl, rfl⟩ := h
        exact ⟨hcur, Nat.not_lt.mp hwin, rfl, rfl⟩

/-- A replayed refresh: the previous token was presented, and nothing changed. -/
theorem refresh_replayed {k k' : LeaseKind} {tok newToken : Token} {now : Nat} {l' : Lease}
    (h : k.refresh tok now newToken true = (.ok (l', true), k')) :
    k = .active l' ∧ k' = k ∧ now < l'.expiration ∧
      l'.refreshToken ≠ tok ∧ l'.previousRefreshToken = some tok := by
  unfold refresh at h
  split at h
  · simp at h
  · next m k'' hv =>
    obtain ⟨l, rfl, rfl, hexp, hacc⟩ := validateToken_ok hv
    simp only at h
    cases hacc with
    | current =>
      simp only [reduceCtorEq, if_false] at h
      split at h <;> simp at h
    | replay hne hr hprev =>
      simp only [if_true, Prod.mk.injEq, Except.ok.injEq, and_true] at h
      obtain ⟨rfl, rfl⟩ := h
      exact ⟨rfl, rfl, hexp, hne, hprev⟩

/-- A refused refresh only ages the lease. -/
theorem refresh_error {k k' : LeaseKind} {tok newToken : Token} {now : Nat} {b : Bool}
    {e : RefreshDenied} (h : k.refresh tok now newToken b = (.error e, k')) : Ages now k k' := by
  have hages := validateToken_ages k tok now b
  unfold refresh at h
  split at h
  · next e' k'' hv =>
    rw [hv] at hages
    simp only [Prod.mk.injEq] at h
    obtain ⟨-, rfl⟩ := h
    exact hages
  · next m k'' hv =>
    obtain ⟨l, rfl, rfl, -, -⟩ := validateToken_ok hv
    simp only at h
    split at h
    · simp at h
    · split at h
      · simp only [Prod.mk.injEq] at h
        obtain ⟨-, rfl⟩ := h
        exact .same _
      · simp at h

/-- A refresh is never refused for its token when the lease accepts the token. -/
theorem refresh_of_accepts {l : Lease} {tok newToken : Token} {now : Nat} {m : TokenMatch}
    (hexp : now < l.expiration) (h : Accepts l tok true m) :
    (LeaseKind.active l).refresh tok now newToken true =
      if m = .replay then (.ok (l, true), .active l)
      else if l.expiration - now > secs minRefreshSecs.toNat then (.error .tooSoon, .active l)
      else (.ok (renewed l now newToken, false), .active (renewed l now newToken)) := by
  unfold refresh
  rw [validateToken_of_accepts hexp h]
  rfl

end LeaseKind

/-! ## Lookups that age -/

variable {K X : Type} {n : Nat}

/-- What collection at `now` makes of an entry. -/
def LeaseEntry.aged (now : Nat) (e : LeaseEntry K X) : Option (LeaseEntry K X) :=
  if (LeaseTable.ageEntry now e).2 then some (LeaseTable.ageEntry now e).1 else none

/-- What the passing of time can do, by `now`, to what a lookup finds. -/
inductive Aged (now : Nat) : Option (LeaseEntry K X) → Option (LeaseEntry K X) → Prop
  | none : Aged now none none
  | kept {e : LeaseEntry K X} {k : LeaseKind} (h : Ages now e.kind k) :
      Aged now (some e) (some { e with kind := k })
  | reaped {e : LeaseEntry K X} (h : e.kind.reservedUntil ≤ now) : Aged now (some e) none

namespace Aged

theorem refl (now : Nat) (o : Option (LeaseEntry K X)) : Aged now o o := by
  cases o with
  | none => exact .none
  | some e => exact .kept (.same _)

theorem trans {now : Nat} {o o' o'' : Option (LeaseEntry K X)} (h : Aged now o o')
    (h' : Aged now o' o'') : Aged now o o'' := by
  cases h with
  | none => exact h'
  | kept hk =>
    cases h' with
    | kept hk' => exact .kept (hk.trans hk')
    | reaped hr =>
      have hr : _ ≤ now := hr
      rw [hk.reservedUntil] at hr
      exact .reaped hr
  | reaped hr =>
    cases h'
    exact .reaped hr

/-- Nothing appears by aging. -/
theorem of_some {now : Nat} {o : Option (LeaseEntry K X)} {e' : LeaseEntry K X}
    (h : Aged now o (some e')) :
    ∃ e, o = some e ∧ Ages now e.kind e'.kind ∧ e' = { e with kind := e'.kind } := by
  cases h with
  | kept hk => exact ⟨_, rfl, hk, rfl⟩

/-- While the key is reserved the entry is still there. -/
theorem of_reserved {now : Nat} {o : Option (LeaseEntry K X)} {e : LeaseEntry K X}
    (h : Aged now (some e) o) (hr : now < e.kind.reservedUntil) :
    ∃ k, o = some { e with kind := k } ∧ Ages now e.kind k := by
  cases h with
  | kept hk => exact ⟨_, rfl, hk⟩
  | reaped hle => omega

/-- While the lease runs the entry is unchanged. -/
theorem of_isActive {now : Nat} {o : Option (LeaseEntry K X)} {e : LeaseEntry K X}
    (h : Aged now (some e) o) (ha : e.kind.isActive now) : o = some e := by
  cases h with
  | kept hk => rw [hk.eq_of_isActive ha]
  | reaped hle =>
    cases hkind : e.kind with
    | tombstone c => rw [hkind] at ha; cases ha
    | active l =>
      rw [hkind] at ha hle
      have hlt : now < l.expiration := of_decide_eq_true ha
      have hle : l.expiration + secs tombstoneDurationSecs ≤ now := hle
      omega

theorem of_running {now : Nat} {o o' : Option (LeaseEntry K X)} {e : LeaseEntry K X} {l : Lease}
    (h : Aged now o o') (he : o = some e) (hl : e.kind = .active l) (hexp : now < l.expiration) :
    o' = some e := by
  subst he
  refine h.of_isActive ?_
  rw [hl]
  exact decide_eq_true hexp

end Aged

/-- Collection ages. -/
theorem LeaseEntry.aged_aged (now : Nat) (e : LeaseEntry K X) :
    Aged now (some e) (e.aged now) := by
  unfold LeaseEntry.aged LeaseTable.ageEntry
  rw [LeaseKind.gcRetain_snd]
  by_cases h : now < e.kind.reservedUntil
  · simp only [h, decide_true, if_true]
    exact .kept (LeaseKind.gcRetain_ages _ _)
  · simp only [h, decide_false, Bool.false_eq_true, if_false]
    exact .reaped (Nat.not_lt.mp h)

theorem LeaseEntry.aged_of_isActive {now : Nat} {e : LeaseEntry K X}
    (h : e.kind.isActive now) : e.aged now = some e :=
  (LeaseEntry.aged_aged now e).of_isActive h

/-- What the passing of time can do to all the entries of a table: each ages where it is,
or goes when its key is not reserved any more. -/
inductive AgedAll (now : Nat) : List (LeaseEntry K X) → List (LeaseEntry K X) → Prop
  | nil : AgedAll now [] []
  | kept {e : LeaseEntry K X} {k : LeaseKind} {l l' : List (LeaseEntry K X)}
      (h : Ages now e.kind k) (hl : AgedAll now l l') :
      AgedAll now (e :: l) ({ e with kind := k } :: l')
  | reaped {e : LeaseEntry K X} {l l' : List (LeaseEntry K X)} (h : e.kind.reservedUntil ≤ now)
      (hl : AgedAll now l l') : AgedAll now (e :: l) l'

namespace AgedAll

theorem refl (now : Nat) (l : List (LeaseEntry K X)) : AgedAll now l l := by
  induction l with
  | nil => exact .nil
  | cons e l ih => exact .kept (.same _) ih

theorem trans {now : Nat} {l l' l'' : List (LeaseEntry K X)} (h : AgedAll now l l')
    (h' : AgedAll now l' l'') : AgedAll now l l'' := by
  induction h generalizing l'' with
  | nil => exact h'
  | kept hk _ ih =>
    cases h' with
    | kept hk' hl' => exact .kept (hk.trans hk') (ih hl')
    | reaped hr hl' =>
      have hr : _ ≤ now := hr
      rw [hk.reservedUntil] at hr
      exact .reaped hr (ih hl')
  | reaped hr _ ih => exact .reaped hr (ih h')

/-- Collection ages. -/
theorem filterMap_aged (now : Nat) (l : List (LeaseEntry K X)) :
    AgedAll now l (l.filterMap (LeaseEntry.aged now)) := by
  induction l with
  | nil => exact .nil
  | cons e l ih =>
    have he := LeaseEntry.aged_aged now e
    rw [List.filterMap_cons]
    cases haged : e.aged now with
    | none =>
      rw [haged] at he
      cases he with
      | reaped hr => exact .reaped hr ih
    | some e' =>
      rw [haged] at he
      cases he with
      | kept hk => exact .kept hk ih

/-- Aging the one entry that a lookup finds. -/
theorem modifyFirst {now : Nat} {l : List (LeaseEntry K X)} {p : LeaseEntry K X → Bool}
    {e : LeaseEntry K X} {kind : LeaseKind} (hfind : l.find? p = some e)
    (hages : Ages now e.kind kind) :
    AgedAll now l (HeaplessVec.modifyFirstList p (fun e => { e with kind }) l) := by
  induction l with
  | nil => exact .nil
  | cons a l ih =>
    unfold HeaplessVec.modifyFirstList
    by_cases ha : p a
    · rw [List.find?_cons_of_pos ha] at hfind
      cases hfind
      rw [if_pos ha]
      exact .kept hages (refl now l)
    · rw [List.find?_cons_of_neg ha] at hfind
      rw [if_neg ha]
      exact .kept (.same _) (ih hfind)

theorem map_sublist {α : Type} {now : Nat} {l l' : List (LeaseEntry K X)} (h : AgedAll now l l')
    {f : LeaseEntry K X → α} (hf : ∀ (e : LeaseEntry K X) k, f { e with kind := k } = f e) :
    (l'.map f).Sublist (l.map f) := by
  induction h with
  | nil => exact .slnil
  | kept _ _ ih =>
    rw [List.map_cons, List.map_cons, hf]
    exact ih.cons_cons _
  | reaped _ _ ih => exact ih.cons _

end AgedAll

/-! ## Tables as finite maps -/

namespace LeaseTable

/-- The keys in a table, active and tombstoned alike. -/
def keys (t : LeaseTable K X n) : List K := t.entries.toList.map LeaseEntry.key

/-- The `(key, scope)` pairs in a table. -/
def ids (t : LeaseTable K X n) : List (K × UInt16) :=
  t.entries.toList.map fun e => (e.key, e.scope)

/-- Distinct keys are distinct pairs. -/
theorem ids_nodup {t : LeaseTable K X n} (h : t.keys.Nodup) : t.ids.Nodup := by
  have hmap : t.ids.map Prod.fst = t.keys := by
    rw [ids, keys, List.map_map]
    rfl
  rw [← hmap] at h
  exact h.of_map _

/-- An entry that survives keeps its key. -/
theorem aged_key {now : Nat} {e e' : LeaseEntry K X} (h : e.aged now = some e') :
    e'.key = e.key ∧ e'.scope = e.scope := by
  unfold LeaseEntry.aged at h
  split at h
  · cases h
    exact ⟨rfl, rfl⟩
  · cases h

theorem keys_gc_sublist (t : LeaseTable K X n) (now : Nat) :
    (t.gc now).keys.Sublist t.keys :=
  HeaplessVec.map_filterMap_sublist _ _ fun _ _ h => (aged_key h).1

theorem ids_gc_sublist (t : LeaseTable K X n) (now : Nat) :
    (t.gc now).ids.Sublist t.ids :=
  HeaplessVec.map_filterMap_sublist _ _ fun _ _ h => by
    rw [(aged_key h).1, (aged_key h).2]

theorem push_toList {t : LeaseTable K X n} {key : K} {scope : UInt16} {extra : X}
    {kind : LeaseKind} (h : t.isFull = false) :
    (t.push key scope extra kind).entries.toList =
      t.entries.toList ++ [⟨key, scope, extra, kind⟩] := by
  obtain ⟨w, hw⟩ :=
    HeaplessVec.push_isSome (⟨key, scope, extra, kind⟩ : LeaseEntry K X) h
  have hpush := HeaplessVec.push_eq_some hw
  unfold push
  rw [hw]
  exact hpush

theorem keys_push {t : LeaseTable K X n} (h : t.isFull = false) (key : K) (scope : UInt16)
    (extra : X) (kind : LeaseKind) :
    (t.push key scope extra kind).keys = t.keys ++ [key] := by
  rw [keys, push_toList h, List.map_append]
  rfl

theorem ids_push {t : LeaseTable K X n} (h : t.isFull = false) (key : K) (scope : UInt16)
    (extra : X) (kind : LeaseKind) :
    (t.push key scope extra kind).ids = t.ids ++ [(key, scope)] := by
  rw [ids, push_toList h, List.map_append]
  rfl

theorem keys_mapEntries (t : LeaseTable K X n) {f : LeaseEntry K X → LeaseEntry K X}
    (hf : ∀ e, (f e).key = e.key) : (t.mapEntries f).keys = t.keys := by
  show (t.entries.toList.map f).map LeaseEntry.key = t.keys
  rw [List.map_map]
  exact List.map_congr_left fun e _ => hf e

theorem ids_dropScope_sublist (t : LeaseTable K X n) (scope : UInt16) :
    (t.dropScope scope).ids.Sublist t.ids :=
  List.filter_sublist.map _

variable [DecidableEq K]

theorem mem_keys {t : LeaseTable K X n} {k : K} : k ∈ t.keys ↔ t.containsKey k := by
  simp [keys, containsKey]

/-- The entries a lookup by key and scope looks for. -/
def hasId (k : K) (s : UInt16) (e : LeaseEntry K X) : Bool := e.key = k ∧ e.scope = s

theorem get_eq (t : LeaseTable K X n) (k : K) (s : UInt16) :
    t.get k s = t.entries.toList.find? (hasId k s) := rfl

theorem get_id {t : LeaseTable K X n} {k : K} {s : UInt16} {e : LeaseEntry K X}
    (h : t.get k s = some e) : e.key = k ∧ e.scope = s := by
  simpa using List.find?_some h

theorem mem_of_get {t : LeaseTable K X n} {k : K} {s : UInt16} {e : LeaseEntry K X}
    (h : t.get k s = some e) : e ∈ t.entries.toList :=
  List.mem_of_find?_eq_some h

/-- With distinct pairs, every entry is found. -/
theorem get_of_mem {t : LeaseTable K X n} (hu : t.ids.Nodup) {e : LeaseEntry K X}
    (h : e ∈ t.entries.toList) : t.get e.key e.scope = some e := by
  cases hg : t.get e.key e.scope with
  | none =>
    have hno := List.find?_eq_none.mp hg e h
    simp at hno
  | some e' =>
    obtain ⟨hk, hs⟩ := get_id hg
    have heq := List.inj_on_of_nodup_map hu (mem_of_get hg) h (by simp [hk, hs])
    rw [heq]

/-- With distinct keys, a lookup by key is the lookup with the scope found there. -/
theorem byKey_eq_get {t : LeaseTable K X n} (hu : t.keys.Nodup) {k : K} {e : LeaseEntry K X}
    (h : t.byKey k = some e) : t.get k e.scope = some e := by
  have hkey : e.key = k := by simpa using List.find?_some h
  rw [← hkey]
  exact get_of_mem (ids_nodup hu) (List.mem_of_find?_eq_some h)

/-- With distinct keys, the lookup by key finds what the pair lookup finds. -/
theorem byKey_of_get {t : LeaseTable K X n} (hu : t.keys.Nodup) {k : K} {s : UInt16}
    {e : LeaseEntry K X} (h : t.get k s = some e) : t.byKey k = some e := by
  obtain ⟨hk, hs⟩ := get_id h
  cases hb : t.byKey k with
  | none =>
    have hno := List.find?_eq_none.mp hb e (mem_of_get h)
    simp [hk] at hno
  | some e' =>
    have hk' : e'.key = k := by simpa using List.find?_some hb
    have heq := List.inj_on_of_nodup_map hu (List.mem_of_find?_eq_some hb) (mem_of_get h)
      (by rw [hk, hk'])
    rw [heq]

/-- With distinct keys, a key has one entry and one scope. -/
theorem get_unique {t : LeaseTable K X n} (hu : t.keys.Nodup) {k : K} {s s' : UInt16}
    {e e' : LeaseEntry K X} (h : t.get k s = some e) (h' : t.get k s' = some e') :
    e' = e ∧ s' = s := by
  have hsame := byKey_of_get hu h
  rw [byKey_of_get hu h'] at hsame
  cases hsame
  exact ⟨rfl, (get_id h').2.symm.trans (get_id h).2⟩

theorem containsKey_of_get {t : LeaseTable K X n} {k : K} {s : UInt16} {e : LeaseEntry K X}
    (h : t.get k s = some e) : t.containsKey k := by
  rw [containsKey, List.any_eq_true]
  exact ⟨e, mem_of_get h, by simp [(get_id h).1]⟩

theorem get_eq_none_of_not_containsKey {t : LeaseTable K X n} {k : K} (s : UInt16)
    (h : t.containsKey k = false) : t.get k s = none := by
  cases hg : t.get k s with
  | none => rfl
  | some e =>
    rw [containsKey_of_get hg] at h
    cases h

/-- When all entries age, so does what a lookup finds. -/
theorem aged_find {now : Nat} {l l' : List (LeaseEntry K X)} (h : AgedAll now l l')
    (hu : (l.map fun e => (e.key, e.scope)).Nodup) (k : K) (s : UInt16) :
    Aged now (l.find? (hasId k s)) (l'.find? (hasId k s)) := by
  induction h with
  | nil => exact .none
  | @kept e kind l l' hk _ ih =>
    have ih := ih (List.nodup_cons.mp hu).2
    by_cases hm : hasId k s e
    · have hm' : hasId k s { e with kind } := hm
      rw [List.find?_cons_of_pos hm, List.find?_cons_of_pos hm']
      exact .kept hk
    · have hm' : ¬ hasId k s { e with kind } := hm
      rw [List.find?_cons_of_neg hm, List.find?_cons_of_neg hm']
      exact ih
  | @reaped e l l' hr _ ih =>
    obtain ⟨hnot, hu⟩ := List.nodup_cons.mp hu
    have ih := ih hu
    by_cases hm : hasId k s e
    · -- `e` was the only entry for the pair
      have hrest : l.find? (hasId k s) = none := by
        rw [List.find?_eq_none]
        intro e' he' hm'
        refine hnot (List.mem_map.mpr ⟨e', he', ?_⟩)
        simp only [hasId, decide_eq_true_eq] at hm hm'
        simp [hm, hm']
      rw [hrest] at ih
      rw [List.find?_cons_of_pos hm]
      generalize l'.find? (hasId k s) = found at ih ⊢
      cases ih
      exact .reaped hr
    · rw [List.find?_cons_of_neg hm]
      exact ih

theorem aged_get_gc {t : LeaseTable K X n} (hu : t.ids.Nodup) (now : Nat) (k : K)
    (s : UInt16) : Aged now (t.get k s) ((t.gc now).get k s) :=
  aged_find (AgedAll.filterMap_aged now t.entries.toList) hu k s

/-- After collection, a key leads to what was there before, aged. -/
theorem of_byKey_gc {t : LeaseTable K X n} (hu : t.keys.Nodup) {now : Nat} {k : K} {s : UInt16}
    {e e' : LeaseEntry K X} (he : t.get k s = some e) (h : (t.gc now).byKey k = some e') :
    Ages now e.kind e'.kind ∧ e' = { e with kind := e'.kind } := by
  have hget := byKey_eq_get (hu.sublist (t.keys_gc_sublist now)) h
  have haged := aged_get_gc (ids_nodup hu) now k e'.scope
  rw [hget] at haged
  obtain ⟨e₀, he₀, hages, heq⟩ := haged.of_some
  obtain ⟨rfl, -⟩ := get_unique hu he he₀
  exact ⟨hages, heq⟩

/-- Pushing a new pair: it is found, and nothing else changes. -/
theorem get_push {t : LeaseTable K X n} {key : K} {scope : UInt16} {extra : X}
    {kind : LeaseKind} (hfull : t.isFull = false) (hnew : t.get key scope = none)
    (k : K) (s : UInt16) :
    (t.push key scope extra kind).get k s =
      if k = key ∧ s = scope then some ⟨key, scope, extra, kind⟩ else t.get k s := by
  rw [get_eq, push_toList hfull, List.find?_append]
  by_cases h : k = key ∧ s = scope
  · obtain ⟨rfl, rfl⟩ := h
    rw [← get_eq, hnew]
    simp [hasId]
  · have hno : hasId k s (⟨key, scope, extra, kind⟩ : LeaseEntry K X) = false := by
      simp only [hasId, decide_eq_false_iff_not]
      rintro ⟨rfl, rfl⟩
      exact h ⟨rfl, rfl⟩
    rw [← get_eq, if_neg h, List.find?_cons, hno]
    simp

/-- An update in place, for an `f` that keeps the key and the scope. -/
theorem get_modifyGet (t : LeaseTable K X n) (key : K) (scope : UInt16)
    {f : LeaseEntry K X → LeaseEntry K X}
    (hf : ∀ e, (f e).key = e.key ∧ (f e).scope = e.scope) (k : K) (s : UInt16) :
    (t.modifyGet key scope f).get k s =
      if k = key ∧ s = scope then (t.get k s).map f else t.get k s := by
  rw [get_eq, get_eq]
  show (HeaplessVec.modifyFirstList _ _ t.entries.toList).find? _ = _
  induction t.entries.toList with
  | nil => simp [HeaplessVec.modifyFirstList]
  | cons e l ih =>
    unfold HeaplessVec.modifyFirstList
    by_cases he : e.key = key ∧ e.scope = scope
    · simp only [he, and_self, decide_true, if_true]
      by_cases h : k = key ∧ s = scope
      · have hm : hasId k s e := by simp [hasId, he, h]
        have hmf : hasId k s (f e) := by simp [hasId, hf, he, h]
        rw [List.find?_cons_of_pos hmf, List.find?_cons_of_pos hm, if_pos h]
        rfl
      · have hm : ¬ hasId k s e := by
          simp only [hasId, he, decide_eq_true_eq]
          rintro ⟨rfl, rfl⟩
          exact h ⟨rfl, rfl⟩
        have hmf : ¬ hasId k s (f e) := by simpa [hasId, hf] using hm
        rw [List.find?_cons_of_neg hmf, List.find?_cons_of_neg hm, if_neg h]
    · simp only [he, decide_false, Bool.false_eq_true, if_false]
      by_cases hm : hasId k s e
      · have hne : ¬ (k = key ∧ s = scope) := by
          simp only [hasId, decide_eq_true_eq] at hm
          rintro ⟨rfl, rfl⟩
          exact he hm
        rw [List.find?_cons_of_pos hm, List.find?_cons_of_pos hm, if_neg hne]
      · rw [List.find?_cons_of_neg hm, List.find?_cons_of_neg hm, ih]

theorem get_setKind (t : LeaseTable K X n) (key : K) (scope : UInt16) (kind : LeaseKind)
    (k : K) (s : UInt16) :
    (t.setKind key scope kind).get k s =
      if k = key ∧ s = scope then (t.get k s).map fun e => { e with kind } else t.get k s :=
  get_modifyGet t key scope (f := fun e => { e with kind }) (fun _ => ⟨rfl, rfl⟩) k s

/-- The entry that was found, with the new kind. -/
theorem get_setKind_self {t : LeaseTable K X n} {key : K} {scope : UInt16} {e : LeaseEntry K X}
    (he : t.get key scope = some e) (kind : LeaseKind) :
    (t.setKind key scope kind).get key scope = some { e with kind } := by
  rw [get_setKind, if_pos ⟨rfl, rfl⟩, he]
  rfl

/-- An update of every entry that keeps keys and scopes. -/
theorem get_mapEntries (t : LeaseTable K X n) {f : LeaseEntry K X → LeaseEntry K X}
    (hf : ∀ e, (f e).key = e.key ∧ (f e).scope = e.scope) (k : K) (s : UInt16) :
    (t.mapEntries f).get k s = (t.get k s).map f := by
  rw [get_eq, get_eq]
  show (t.entries.toList.map f).find? _ = _
  rw [List.find?_map]
  have hcomp : (hasId k s ∘ f) = hasId k s := by
    funext e
    simp [hasId, hf]
  rw [hcomp]

/-- With distinct keys, an update by key changes what the key's lookups find. -/
theorem get_modifyByKey {t : LeaseTable K X n} (hu : t.keys.Nodup) (key : K)
    {f : LeaseEntry K X → LeaseEntry K X}
    (hf : ∀ e, (f e).key = e.key ∧ (f e).scope = e.scope) (k : K) (s : UInt16) :
    (t.modifyByKey key f).get k s = if k = key then (t.get k s).map f else t.get k s := by
  rw [get_eq, get_eq]
  show (HeaplessVec.modifyFirstList _ _ t.entries.toList).find? _ = _
  unfold keys at hu
  revert hu
  induction t.entries.toList with
  | nil => simp [HeaplessVec.modifyFirstList]
  | cons e l ih =>
    intro hu
    rw [List.map_cons, List.nodup_cons] at hu
    obtain ⟨hnot, hu⟩ := hu
    have hcongr : hasId k s (f e) = hasId k s e := by simp [hasId, hf]
    unfold HeaplessVec.modifyFirstList
    by_cases he : e.key = key
    · simp only [he, decide_true, if_true]
      by_cases hm : hasId k s e
      · have hk : k = key := by
          simp only [hasId, decide_eq_true_eq] at hm
          rw [← hm.1, he]
        rw [List.find?_cons_of_pos (hcongr.trans hm), List.find?_cons_of_pos hm, if_pos hk]
        rfl
      · rw [List.find?_cons_of_neg (by rw [hcongr]; exact hm), List.find?_cons_of_neg hm]
        split
        · next hk =>
          -- no later entry has the key
          have hrest : l.find? (hasId k s) = none := by
            rw [List.find?_eq_none]
            intro e' he' hm'
            simp only [hasId, decide_eq_true_eq] at hm'
            refine hnot (List.mem_map.mpr ⟨e', he', ?_⟩)
            rw [hm'.1, he, hk]
          rw [hrest]
          rfl
        · rfl
    · simp only [he, decide_false, Bool.false_eq_true, if_false]
      by_cases hm : hasId k s e
      · have hne : k ≠ key := by
          simp only [hasId, decide_eq_true_eq] at hm
          rw [← hm.1]
          exact he
        rw [List.find?_cons_of_pos hm, List.find?_cons_of_pos hm, if_neg hne]
      · rw [List.find?_cons_of_neg hm, List.find?_cons_of_neg hm, ih hu]

theorem get_remove (t : LeaseTable K X n) (key : K) (scope : UInt16) (k : K) (s : UInt16) :
    (t.remove key scope).get k s = if k = key ∧ s = scope then none else t.get k s := by
  rw [get_eq, get_eq]
  show (t.entries.toList.filter _).find? _ = _
  rw [List.find?_filter]
  by_cases h : k = key ∧ s = scope
  · obtain ⟨rfl, rfl⟩ := h
    rw [if_pos ⟨rfl, rfl⟩, List.find?_eq_none]
    intro e _
    simp only [hasId]
    grind
  · rw [if_neg h]
    refine List.find?_congr fun e _ => ?_
    simp only [hasId]
    grind

theorem get_removeKey (t : LeaseTable K X n) (key k : K) (s : UInt16) :
    (t.removeKey key).get k s = if k = key then none else t.get k s := by
  rw [get_eq, get_eq]
  show (t.entries.toList.filter _).find? _ = _
  rw [List.find?_filter]
  by_cases h : k = key
  · subst h
    rw [if_pos rfl, List.find?_eq_none]
    intro e _
    simp only [hasId]
    grind
  · rw [if_neg h]
    refine List.find?_congr fun e _ => ?_
    simp only [hasId]
    grind

theorem get_dropScope (t : LeaseTable K X n) (scope : UInt16) (k : K) (s : UInt16) :
    (t.dropScope scope).get k s = if s = scope then none else t.get k s := by
  rw [get_eq, get_eq]
  show (t.entries.toList.filter _).find? _ = _
  rw [List.find?_filter]
  by_cases h : s = scope
  · subst h
    rw [if_pos rfl, List.find?_eq_none]
    intro e _
    simp only [hasId]
    grind
  · rw [if_neg h]
    refine List.find?_congr fun e _ => ?_
    simp only [hasId]
    grind

/-! ## Keys and pairs -/

theorem keys_modifyGet (t : LeaseTable K X n) (key : K) (scope : UInt16)
    {f : LeaseEntry K X → LeaseEntry K X} (hf : ∀ e, (f e).key = e.key) :
    (t.modifyGet key scope f).keys = t.keys :=
  HeaplessVec.map_modifyFirstList _ _ _ fun e _ => hf e

theorem ids_modifyGet (t : LeaseTable K X n) (key : K) (scope : UInt16)
    {f : LeaseEntry K X → LeaseEntry K X}
    (hf : ∀ e, (f e).key = e.key ∧ (f e).scope = e.scope) :
    (t.modifyGet key scope f).ids = t.ids :=
  HeaplessVec.map_modifyFirstList _ _ _ fun e _ => by rw [(hf e).1, (hf e).2]

theorem keys_setKind (t : LeaseTable K X n) (key : K) (scope : UInt16) (kind : LeaseKind) :
    (t.setKind key scope kind).keys = t.keys :=
  keys_modifyGet t key scope (f := fun e => { e with kind }) fun _ => rfl

theorem ids_setKind (t : LeaseTable K X n) (key : K) (scope : UInt16) (kind : LeaseKind) :
    (t.setKind key scope kind).ids = t.ids :=
  ids_modifyGet t key scope (f := fun e => { e with kind }) fun _ => ⟨rfl, rfl⟩

theorem keys_modifyByKey (t : LeaseTable K X n) (key : K)
    {f : LeaseEntry K X → LeaseEntry K X} (hf : ∀ e, (f e).key = e.key) :
    (t.modifyByKey key f).keys = t.keys :=
  HeaplessVec.map_modifyFirstList _ _ _ fun e _ => hf e

theorem keys_remove_sublist (t : LeaseTable K X n) (key : K) (scope : UInt16) :
    (t.remove key scope).keys.Sublist t.keys :=
  List.filter_sublist.map _

theorem keys_removeKey_sublist (t : LeaseTable K X n) (key : K) :
    (t.removeKey key).keys.Sublist t.keys :=
  List.filter_sublist.map _

theorem not_mem_keys_removeKey (t : LeaseTable K X n) (key : K) :
    key ∉ (t.removeKey key).keys := by
  intro h
  obtain ⟨e, he, hk⟩ := List.mem_map.mp h
  have hne := (List.mem_filter.mp he).2
  simp [hk] at hne

/-- The lazy check drops at most the one entry, and may reorder the others. -/
theorem keys_containsKeyAt_subperm (t : LeaseTable K X n) (key : K) (now : Nat) :
    (t.containsKeyAt key now).2.keys.Subperm t.keys := by
  unfold containsKeyAt
  split
  · exact (List.Sublist.refl _).subperm
  · next pos hpos =>
    dsimp only
    split
    · have hkeys := keys_modifyByKey t key (f := fun e => (ageEntry now e).1) fun _ => rfl
      exact (List.Perm.of_eq hkeys).subperm
    · have hperm := HeaplessVec.swapRemoveList_perm t.entries.toList pos
        (List.findIdx?_eq_some_iff_getElem.mp hpos).1
      have hmap := hperm.map LeaseEntry.key
      refine List.Subperm.trans ?_ hmap.subperm
      exact (List.sublist_cons_self _ _).subperm

/-- The lazy check finds nothing but keys. -/
theorem mem_keys_of_containsKeyAt {t : LeaseTable K X n} {key : K} {now : Nat}
    (h : (t.containsKeyAt key now).1 = true) : key ∈ t.keys := by
  unfold containsKeyAt at h
  split at h
  · cases h
  · next pos hpos =>
    obtain ⟨hlt, hkey, -⟩ := List.findIdx?_eq_some_iff_getElem.mp hpos
    exact List.mem_map.mpr ⟨_, List.getElem_mem hlt, by simpa using hkey⟩

/-- After it says no, the key is not in the table. -/
theorem not_mem_keys_containsKeyAt {t : LeaseTable K X n} (hu : t.keys.Nodup) {key : K} {now : Nat}
    (h : (t.containsKeyAt key now).1 = false) : key ∉ (t.containsKeyAt key now).2.keys := by
  unfold containsKeyAt at h ⊢
  split at h
  · next hnone =>
    intro hmem
    obtain ⟨e, he, hkey⟩ := List.mem_map.mp hmem
    have hno := List.findIdx?_eq_none_iff.mp hnone e he
    simp [hkey] at hno
  · next pos hpos =>
    obtain ⟨hlt, hkey, -⟩ := List.findIdx?_eq_some_iff_getElem.mp hpos
    have hkey : (t.entries.toList[pos]).key = key := by simpa using hkey
    dsimp only at h ⊢
    split at h
    · cases h
    · next hdrop =>
      rw [if_neg hdrop]
      -- the entry that went had the key, and no other has it
      have hnodup := HeaplessVec.nodup_map_swapRemoveList LeaseEntry.key hlt hu
      rw [hkey, List.nodup_cons] at hnodup
      exact hnodup.1

/-- The lazy check finds a running lease. -/
theorem containsKeyAt_of_isActive {t : LeaseTable K X n} (hu : t.keys.Nodup) {k : K} {s : UInt16}
    {e : LeaseEntry K X} {now : Nat} (h : t.get k s = some e) (ha : e.kind.isActive now) :
    (t.containsKeyAt k now).1 = true := by
  obtain ⟨hk, -⟩ := get_id h
  unfold containsKeyAt
  split
  · next hnone =>
    have hno := List.findIdx?_eq_none_iff.mp hnone e (mem_of_get h)
    simp [hk] at hno
  · next pos hpos =>
    have hlt : pos < t.entries.toList.length := (List.findIdx?_eq_some_iff_getElem.mp hpos).1
    have hkey : t.entries.toList[pos].key = k := by
      simpa using (List.findIdx?_eq_some_iff_getElem.mp hpos).2.1
    have hsame : t.entries.toList[pos] = e :=
      List.inj_on_of_nodup_map hu (List.getElem_mem hlt) (mem_of_get h) (by rw [hkey, hk])
    have hage : (ageEntry now e).2 = true := by
      have haged := LeaseEntry.aged_of_isActive ha
      unfold LeaseEntry.aged at haged
      split at haged
      · assumption
      · cases haged
    simp [hsame, hage]

/-- The lazy check ages one entry. -/
theorem aged_get_containsKeyAt {t : LeaseTable K X n} (hu : t.keys.Nodup) (key : K) (now : Nat)
    (k : K) (s : UInt16) : Aged now (t.get k s) ((t.containsKeyAt key now).2.get k s) := by
  unfold containsKeyAt
  split
  · exact Aged.refl _ _
  · next pos hpos =>
    have hlt : pos < t.entries.toList.length := (List.findIdx?_eq_some_iff_getElem.mp hpos).1
    have hkey : t.entries.toList[pos].key = key := by
      simpa using (List.findIdx?_eq_some_iff_getElem.mp hpos).2.1
    have hsnd := LeaseKind.gcRetain_snd t.entries.toList[pos].kind now
    dsimp only
    split
    · -- the entry stays
      rw [get_modifyByKey hu key (f := fun e => (ageEntry now e).1) fun _ => ⟨rfl, rfl⟩]
      split
      · cases t.get k s with
        | none => exact .none
        | some e => exact .kept (LeaseKind.gcRetain_ages _ _)
      · exact Aged.refl _ _
    · next hdrop =>
      -- the entry goes, and the last one takes its place
      have hperm := HeaplessVec.swapRemoveList_perm t.entries.toList pos hlt
      show Aged now _
        ((HeaplessVec.swapRemoveList t.entries.toList pos hlt).find? (hasId k s))
      by_cases hm : hasId k s t.entries.toList[pos]
      · have hid : t.entries.toList[pos].key = k ∧ t.entries.toList[pos].scope = s := by
          simpa [hasId] using hm
        have hget : t.get k s = some t.entries.toList[pos] := by
          rw [← hid.1, ← hid.2]
          exact get_of_mem (ids_nodup hu) (List.getElem_mem hlt)
        have hnodup := HeaplessVec.nodup_map_swapRemoveList LeaseEntry.key hlt hu
        have hrest : (HeaplessVec.swapRemoveList t.entries.toList pos hlt).find? (hasId k s)
            = none := by
          rw [List.find?_eq_none]
          intro e' he' hm'
          simp only [hasId, decide_eq_true_eq] at hm'
          refine (List.nodup_cons.mp hnodup).1 (List.mem_map.mpr ⟨e', he', ?_⟩)
          rw [hm'.1, hid.1]
        rw [hget, hrest]
        refine .reaped ?_
        have hno : decide (now < t.entries.toList[pos].kind.reservedUntil) ≠ true := by
          rw [← hsnd]
          exact hdrop
        simpa using hno
      · -- another entry: the lookup does not see the change
        have hids := ids_nodup hu
        have hsame : (HeaplessVec.swapRemoveList t.entries.toList pos hlt).find? (hasId k s)
            = t.get k s := by
          rw [get_eq, ← List.find?_cons_of_neg hm (l := HeaplessVec.swapRemoveList _ pos hlt)]
          refine List.find?_eq_find?_of_perm hperm ?_
          rintro a ⟨ha, hma⟩ b ⟨hb, hmb⟩
          simp only [hasId, decide_eq_true_eq] at hma hmb
          exact List.inj_on_of_nodup_map hids (hperm.mem_iff.mp ha) (hperm.mem_iff.mp hb)
            (by rw [hma.1, hma.2, hmb.1, hmb.2])
        rw [hsame]
        exact Aged.refl _ _

end LeaseTable

end Ergot
