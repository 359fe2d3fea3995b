import Ergot.Router.Nesting

/-!
# A lease and the one that it rests on

The lease of a bridge's route is set by an answer of the parent, to end as long after it arrives
as the parent's lease had left. So it ends later, by the time of the exchange and the rounding,
until the parent's lease is renewed: by far more, even if the bridge does not learn of it.

- `Leans` says so of one route and the lease that it rests on, `Awaits` of an answer that is under
  way; `Passes` is what can happen to the parent's lease, and both are kept by it.
- `Follows` is the invariant about a node and its parent, for one net id, as long as no lease of it
  is released or loses its interface (`breaks`).
-/

namespace Ergot

open Runs

/-! ## One lease -/

/-- By how much a renewal moves an expiry, at depth `d`: less at every hop, since the lease that is
renewed may have ended later than the one that it rests on. -/
def gain (d : Nat) : Nat := secs (56 - 2 * d)

/-- How late the routes of a child may still be reserved when a node at depth `d` gives the net id
to somebody else. -/
def late (d : Nat) : Nat := secs (2 + 2 * d)

/-- What can happen to the lease that a node at depth `d` has given a child. -/
inductive Passes (d now : Nat) : Option (LeaseEntry UInt16 SeedRoute) →
    Option (LeaseEntry UInt16 SeedRoute) → Prop
  | aged {o o'} (h : Aged now o o') : Passes d now o o'
  | renewed {e e' l l'} (hl : e.kind = .active l) (hl' : e'.kind = .active l')
      (hgain : l.expiration + gain d + secs 2 ≤ l'.expiration) : Passes d now (some e) (some e')
  /-- The net id is given away again, when the lease has ended. -/
  | replaced {o o'} (h : ∀ e, o = some e → e.kind.reservedUntil ≤ now + secs (2 * d)) :
      Passes d now o o'

/-- The route `e` rests on the parent's lease `o`, and was set by an exchange that took `took`. It
ends no later but for that time and the rounding; and if the parent's lease has been renewed
since, it ends much earlier. -/
def Leans (d now took : Nat) (e : LeaseEntry UInt16 SeedRoute)
    (o : Option (LeaseEntry UInt16 SeedRoute)) : Prop :=
  (∃ e', o = some e' ∧ took ≤ secs 1 ∧
      e.kind.reservedUntil ≤ e'.kind.reservedUntil + took + secs 1 ∧
      ∀ l l' lease, e.kind = .active l → e'.kind = .active l' → e.extra.parent = some lease →
        lease.refreshToken ≠ l'.refreshToken → l.expiration + gain d ≤ l'.expiration) ∨
    e.kind.reservedUntil ≤ now + late d

/-- An answer to a request sent at `sent` grants `a` from the parent's lease `o`. -/
def Awaits (d sent : Nat) (a : SeedNetAssignment) (o : Option (LeaseEntry UInt16 SeedRoute)) :
    Prop :=
  ∃ e', o = some e' ∧
    sent + secs a.expiresSeconds.toNat + secs 29 ≤ e'.kind.reservedUntil ∧
    ∀ l', e'.kind = .active l' → a.refreshToken ≠ l'.refreshToken →
      sent + secs 1 + secs a.expiresSeconds.toNat + gain d ≤ l'.expiration

variable {d now sent took : Nat} {o o' : Option (LeaseEntry UInt16 SeedRoute)}
  {e e' : LeaseEntry UInt16 SeedRoute} {a : SeedNetAssignment}

theorem secs_add (m n : Nat) : secs (m + n) = secs m + secs n := Nat.add_mul m n _

theorem late_eq (d : Nat) : late d = secs 1 + secs 1 + secs (2 * d) := by
  rw [late, ← secs_add, ← secs_add]

/-- The hops below a root take time off what a renewal gains. -/
theorem gain_child {d : Nat} (hd : d ≤ 27) : gain (d + 1) + secs 2 = gain d := by
  rw [gain, gain, ← secs_add]
  exact congrArg secs (by omega)

/-- An active lease is reserved for the grace period after its end. -/
theorem LeaseEntry.reservedUntil_of_active {K X : Type} {e : LeaseEntry K X} {l : Lease}
    (h : e.kind = .active l) :
    e.kind.reservedUntil = l.expiration + secs tombstoneDurationSecs := by
  rw [h]
  rfl

theorem Leans.later {now' : Nat} (h : Leans d now took e o) (hle : now ≤ now') :
    Leans d now' took e o := by
  refine h.imp_right fun hlate => ?_
  omega

theorem Leans.ages (h : Leans d now took e o) (hages : Ages now e.kind e'.kind)
    (hsame : e'.extra = e.extra) : Leans d now took e' o := by
  rw [Leans, hages.reservedUntil]
  refine h.imp_left ?_
  rintro ⟨p, hp, htook, hle, hmargin⟩
  refine ⟨p, hp, htook, hle, fun l l' lease hl hl' hlease hne => ?_⟩
  rw [hl] at hages
  exact hmargin l l' lease hages.active_eq hl' (hsame ▸ hlease) hne

/-- A route that rests on the parent's lease still does after a step of the parent. -/
theorem Leans.passes (h : Leans d now took e o) (hp : Passes d now o o') :
    Leans d now took e o' := by
  rcases h with ⟨p, rfl, htook, hle, hmargin⟩ | hlate
  · cases hp with
    | aged haged =>
      cases haged with
      | @kept _ k hages =>
        refine .inl ⟨_, rfl, htook, by rw [hages.reservedUntil]; exact hle, ?_⟩
        intro l l' lease hl hl' hlease hne
        rw [show k = .active l' from hl'] at hages
        exact hmargin l l' lease hl hages.active_eq hlease hne
      | reaped hgone =>
        have hlate := late_eq d
        exact .inr (by omega)
    | renewed hl₀ hl₀' hgain =>
      rw [LeaseEntry.reservedUntil_of_active hl₀] at hle
      refine .inl ⟨_, rfl, htook, ?_, ?_⟩
      · rw [LeaseEntry.reservedUntil_of_active hl₀']
        omega
      · intro l l' lease hl hl' _ _
        cases hl₀'.symm.trans hl'
        rw [LeaseEntry.reservedUntil_of_active hl] at hle
        have htwo : secs 2 = secs 1 + secs 1 := secs_add 1 1
        omega
    | replaced hended =>
      have hended := hended p rfl
      have hlate := late_eq d
      exact .inr (by omega)
  · exact .inr hlate

/-- An answer that is awaited still says what the parent's lease is. -/
theorem Awaits.passes (h : Awaits d sent a o) (hp : Passes d now o o')
    (hnow : now ≤ sent + secs 1) (hd : d ≤ 13) : Awaits d sent a o' := by
  obtain ⟨p, rfl, hle, hmargin⟩ := h
  cases hp with
  | aged haged =>
    cases haged with
    | @kept _ k hages =>
      refine ⟨_, rfl, by rw [hages.reservedUntil]; exact hle, fun l' hl' hne => ?_⟩
      rw [show k = .active l' from hl'] at hages
      exact hmargin l' hages.active_eq hne
    | reaped hgone =>
      simp only [secs] at *
      omega
  | renewed hl₀ hl₀' hgain =>
    rw [LeaseEntry.reservedUntil_of_active hl₀] at hle
    refine ⟨_, rfl, ?_, fun l' hl' _ => ?_⟩
    · rw [LeaseEntry.reservedUntil_of_active hl₀']
      omega
    · cases hl₀'.symm.trans hl'
      simp only [tombstoneDurationSecs, secs] at *
      omega
  | replaced hended =>
    have hended := hended p rfl
    simp only [secs] at *
    omega

/-- A grant that is made is from a lease. -/
theorem Awaits.of_backs {σ : Type} {N S C : Nat} {r : Router σ N S C} {src : UInt16}
    (h : r.Backs src now a) (hsent : sent ≤ now) :
    Awaits d sent a (r.seedRoutes.get a.netId src) := by
  obtain ⟨e, l, he, hl, htok, -, hlt⟩ := h
  refine ⟨e, he, ?_, fun l' hl' hne => ?_⟩
  · rw [LeaseEntry.reservedUntil_of_active hl]
    simp only [tombstoneDurationSecs, secs] at *
    omega
  · cases hl.symm.trans hl'
    exact absurd htok.symm hne

/-- The route that an answer sets in time rests on the lease that it is from. -/
theorem Leans.of_awaits {σ : Type} {N S C : Nat} {r : Router σ N S C} {net : UInt16}
    {lease : SeedLease} {l : Lease} (hrests : Router.Rests r now net a e lease l)
    (h : Awaits d sent a o) (hsent : sent ≤ now) (hnow : now ≤ sent + secs 1) :
    Leans d now (now - sent) e o := by
  obtain ⟨p, rfl, hle, hmargin⟩ := h
  have hexp := hrests.expiration
  refine .inl ⟨p, rfl, by omega, ?_, ?_⟩
  · rw [LeaseEntry.reservedUntil_of_active hrests.active]
    simp only [tombstoneDurationSecs, secs] at *
    omega
  · intro l₀ l' lease' hl hl' hlease hne
    cases hrests.active.symm.trans hl
    cases hrests.stored.symm.trans hlease
    have hgain := hmargin l' hl' (hrests.parent.2.1 ▸ hne)
    omega

/-! ## A node and its parent -/

namespace Router

variable {σ : Type} {N S C : Nat}

/-- The lease of `net` is released, or the interface that it runs through goes away. -/
def losesSeed (r : Router σ N S C) (now : Nat) (net : UInt16) : Op σ → Bool
  | .deregisterInterface ident => (r.deregisterInterface ident now).1.isOk &&
    r.seedRoutes.entries.toList.any fun e => e.key = net && e.extra.viaIdent = ident
  | .releaseSeedNetAssignment src k tok =>
    k = net && (r.releaseSeedNetAssignment src k tok now).1.isOk
  | .commitDelegatedRelease src k tok =>
    k = net && (r.commitDelegatedRelease src k tok now).1.isOk
  | _ => false

/-- A net id that nobody holds is not reserved for anybody. -/
theorem ended_of_free {r : Router σ N S C} (hr : r.Wf) {now : Nat} {net x : UInt16}
    (hfree : (r.seedRoutes.gc now).containsKey net = false) {e : LeaseEntry UInt16 SeedRoute}
    (he : r.seedRoutes.get net x = some e) : e.kind.reservedUntil ≤ now := by
  have hgc := LeaseTable.aged_get_gc (LeaseTable.ids_nodup hr.directory.leases) now net x
  rw [LeaseTable.get_eq_none_of_not_containsKey x hfree, he] at hgc
  cases hgc with
  | reaped hle => exact hle

/-- What a root does with the leases of `net`. -/
theorem passes_of_request [InterfaceSink σ] {r : Router σ N S C} (hr : r.Wf) {now : Nat}
    {req : SeedRequest} {up net : UInt16} (hb : ¬ r.losesSeed now net (req.op up : Op σ))
    (x : UInt16) :
    Passes 0 now (r.seedRoutes.get net x)
      ((r.exec (.at now, (req.op up : Op σ))).seedRoutes.get net x) := by
  have heffect := seed_effect hr.directory (.at now) (req.op up) net x
  generalize (r.exec (.at now, req.op up)).seedRoutes.get net x = o at heffect ⊢
  cases req with
  | assign =>
    rw [SeedRequest.op] at heffect
    cases heffect with
    | aged haged => exact .aged haged
    | assigned _ _ _ hfree =>
      exact .replaced fun e he => Nat.le_add_right_of_le (ended_of_free hr hfree he)
  | refresh k tok =>
    rw [SeedRequest.op] at heffect
    cases heffect with
    | aged haged => exact .aged haged
    | renewed he hl hexp _ hwin =>
      rw [he]
      refine .renewed hl rfl ?_
      have hmin : minRefreshSecs.toNat = 62 := rfl
      have hmax : maxLeaseSecs.toNat = 120 := rfl
      simp only [LeaseKind.renewed, gain, Clock.at, hmin, hmax, secs] at *
      omega
  | release k tok =>
    rw [SeedRequest.op] at heffect
    cases heffect with
    | aged haged => exact .aged haged
    | released h =>
      have h : (r.releaseSeedNetAssignment up net tok now).1 = .ok () := h
      exact absurd (by simp [losesSeed, SeedRequest.op, h, Except.isOk, Except.toBool]) hb

end Router

/-- Nobody is granted a lease that is too far from the root. -/
theorem SeedTree.Tells.depth_le {ι : Type} {T : SeedTree ι} {p : ι} {m : UInt16}
    (h : T.Tells p m) : T.depth p ≤ 12 := by
  have hmargin : seedDelegationRefreshMargin.toNat = 5 := rfl
  have hmin : minRefreshSecs.toNat = 62 := rfl
  rw [SeedTree.Tells, hmargin, hmin] at h
  omega

namespace SeedNet

variable {ι σ : Type} {N S C : ι → Nat} {T : SeedTree ι} {s s' : SeedNet ι σ N S C}
  {l : SeedLabel ι σ} {v p : ι} {net : UInt16}

/-- A node loses a lease of `net`: its interface is deregistered, a root performs a release, or a
bridge commits one. -/
def breaks (T : SeedTree ι) (net : UInt16) (s : SeedNet ι σ N S C) : SeedLabel ι σ → Bool
  | .op v op => op.seedSource = none && (s.router v).losesSeed s.now net op
  | .serve v id =>
    match T.parent v with
    | none => false
    | some p => (T.parent p).isNone && (s.node v).requests.any fun call =>
        call.id = id && (s.router p).losesSeed s.now net (call.msg.op (T.up v) : Op σ)
  | .respond v id =>
    match (s.node v).task with
    | some (.releasing i sent src k tok, _) =>
      i = id && s.now ≤ sent + secs delegatedSeedRpcTimeoutSecs &&
        ((s.node v).responses.any fun call => call.id = id && call.msg = .released (.ok ())) &&
        (s.router v).losesSeed s.now net (.commitDelegatedRelease src k tok : Op σ)
    | _ => false
  | _ => false

theorem breaks_of_lost {e : LeaseEntry UInt16 SeedRoute} {x : UInt16}
    (h : ((s.router v).deregisterInterface e.extra.viaIdent s.now).1 = .ok ())
    (he : (s.router v).seedRoutes.get net x = some e) :
    s.breaks T net (.op v (.deregisterInterface e.extra.viaIdent)) := by
  have hmem : e ∈ (s.router v).seedRoutes.entries.toList := List.mem_of_find?_eq_some he
  have hkey := (LeaseTable.get_id he).1
  simp only [breaks, Op.seedSource, Router.losesSeed, h, Except.isOk, Except.toBool, decide_true,
    Bool.true_and, List.any_eq_true, Bool.and_eq_true, decide_eq_true_eq]
  exact ⟨e, hmem, hkey, rfl⟩

theorem breaks_of_request {call : SeedCall ι SeedRequest} (hp : T.parent v = some p)
    (hroot : T.parent p = none) (hcall : call ∈ (s.node v).requests)
    (h : (s.router p).losesSeed s.now net (call.msg.op (T.up v) : Op σ)) :
    s.breaks T net (.serve v call.id) := by
  simp only [breaks, hp, hroot, Option.isNone_none, Bool.true_and, List.any_eq_true,
    Bool.and_eq_true, decide_eq_true_eq]
  exact ⟨call, hcall, rfl, h⟩

theorem Resumes.breaks {call : SeedCall ι SeedResponse} {sent t : Nat} {src : UInt16} {tok : Token}
    {c : SeedClient ι} (hres : Resumes T s v p call (.releasing call.id t src net tok) c sent)
    (hmsg : call.msg = .released (.ok ()))
    (h : ((s.router v).commitDelegatedRelease src net tok s.now).1 = .ok ()) :
    s.breaks T net (.respond v call.id) := by
  obtain ⟨-, hmem, htask, hawaits, htime⟩ := hres
  cases hawaits
  simp only [SeedNet.breaks, htask, Router.losesSeed, h, Except.isOk, Except.toBool, decide_true,
    Bool.true_and, Bool.and_true, Bool.and_eq_true, List.any_eq_true, decide_eq_true_eq]
  exact ⟨htime, call, hmem, rfl, hmsg⟩

/-- What holds between `v` and its parent `p` about the leases of `net`. -/
structure Follows (T : SeedTree ι) (s : SeedNet ι σ N S C) (net : UInt16) (v p : ι) : Prop where
  routes : ∀ src e, (s.router v).seedRoutes.get net src = some e →
    Leans (T.depth p) s.now (s.took v net) e ((s.router p).seedRoutes.get net (T.up v))
  awaited : ∀ call handler c sent a, Resumes T s v p call handler c sent →
    call.msg.grant = some a → a.netId = net →
    Awaits (T.depth p) sent a ((s.router p).seedRoutes.get net (T.up v))
  /-- Whatever route of `net` there was before an assignment has ended. -/
  assigned : ∀ call handler c sent g, Resumes T s v p call handler c sent →
    call.msg = .assigned (.ok g) → g.assignment.netId = net →
    ∀ src e, (s.router v).seedRoutes.get net src = some e →
      e.kind.reservedUntil ≤ s.now + late (T.depth p)
  /-- A refresh moves the expiry of the route that it is for. -/
  refreshed : ∀ call id sent src tok lease c a,
    Resumes T s v p call (.refreshing id sent src net tok lease) c sent →
    call.msg = .refreshed (.ok a) → ∀ e l, (s.router v).seedRoutes.get net src = some e →
      e.kind = .active l → s.now < l.expiration →
      l.expiration + gain (T.depth p) ≤ s.now + secs a.expiresSeconds.toNat
  /-- The lease that is refreshed is the one that the route rests on. -/
  asks : ∀ id sent src tok lease c,
    (s.node v).task = some (.refreshing id sent src net tok lease, c) → lease.netId = net ∧
      ∀ e l, (s.router v).seedRoutes.get net src = some e → e.kind = .active l →
        e.extra.parent = some lease

/-! ### The parent -/

/-- What a response does with the leases of `net` that a bridge has given its children. -/
theorem Resumes.passes (hn : Nested T s) {g : ι} (hf : Follows T s net p g)
    {call : SeedCall ι SeedResponse} {handler : SeedHandler} {c : SeedClient ι} {sent : Nat}
    (hres : Resumes T s p g call handler c sent) (hb : ¬ s.breaks T net (.respond p call.id))
    (x : UInt16) :
    Passes (T.depth p) s.now ((s.router p).seedRoutes.get net x)
      ((resuming T s p g handler call.msg).2.seedRoutes.get net x) := by
  have hdepth := T.depth_parent hres.parent
  have hkeys := (hn.wf p).directory.leases
  have haged : ∀ r', Router.AgedOnly s.now (s.router p) r' →
      Passes (T.depth p) s.now ((s.router p).seedRoutes.get net x) (r'.seedRoutes.get net x) :=
    fun r' hr' => .aged (hr'.quiet.seed hkeys net x)
  have hspec := (s.router p).takeResponse_spec (T.link p g) s.now (s.node p).next handler call.msg
  rw [resuming]
  generalize (s.router p).takeResponse (T.link p g) s.now (s.node p).next handler call.msg = out
    at hspec ⊢
  generalize hmsg : call.msg = msg at hspec
  cases hspec with
  | waits => exact haged _ (.refl _ _)
  | refused h => exact haged _ h
  | rollsBack h => exact haged _ h
  | @registered i t src up granted a r' hreg =>
    by_cases hnet : granted.assignment.netId = net
    · -- whatever was there has ended
      refine .replaced fun e he => ?_
      have hlate := hf.assigned call _ c sent granted hres hmsg hnet x e he
      have hd : late (T.depth g) = secs (2 * T.depth p) := by
        rw [late, hdepth]
        exact congrArg secs (by omega)
      omega
    · obtain ⟨via, -, hget⟩ := Router.registerDelegatedSeedNet_get hreg
      have hother : net ≠ (Delegation.leaseOf up granted).netId := fun h => hnet h.symm
      refine .aged ?_
      rw [hget, if_neg hother]
      exact LeaseTable.aged_get_gc (LeaseTable.ids_nodup hkeys) s.now net x
  | @committed i t src k tok lease a b r' hcommit =>
    obtain ⟨e₀, l₀, _, he₀, hl₀, -, hexp, -, hget⟩ := Router.commitDelegatedRefresh_get hcommit
    rw [hget]
    split
    · next hsame =>
      obtain ⟨hnet, rfl⟩ := hsame
      rw [hnet, he₀]
      refine .renewed hl₀ rfl ?_
      have hask := (hn.jobs.responses p call hres.mem _ c sent hres.task hres.awaits).2 _ rfl a hmsg
      have hk : k = net := hask.symm.trans hnet.symm
      subst hk
      cases hres.awaits
      have hgain := hf.refreshed call _ _ _ _ _ c a hres hmsg e₀ l₀ (hnet ▸ he₀) hl₀ hexp
      have hdepth_le :=
        (hn.answers p g hres.parent call hres.mem a (by rw [hmsg]; rfl)).tells.depth_le
      have hstep : gain (T.depth p) + secs 2 = gain (T.depth g) := by
        rw [hdepth]
        exact gain_child (by omega)
      show l₀.expiration + gain (T.depth p) + secs 2 ≤ s.now + secs a.expiresSeconds.toNat
      omega
    · exact .aged (.refl _ _)
  | @released i t src k tok r' hrel =>
    obtain ⟨_, _, -, -, -, -, r'', hquiet, rfl⟩ := Router.commitDelegatedRelease_ok hrel
    by_cases hnet : k = net
    · subst hnet
      cases hres.awaits
      exact absurd (hres.breaks hmsg (by rw [hrel])) hb
    · show Passes _ _ _ ((r''.seedRoutes.remove k src).get net x)
      rw [LeaseTable.get_remove, if_neg fun h => hnet h.1.symm]
      exact haged _ hquiet

variable [InterfaceSink σ]

/-- What one step does with the leases of `net` that a node has given its children. -/
theorem Routed.passes (hn : Nested T s) (hf : ∀ g, T.parent p = some g → Follows T s net p g)
    (hb : ¬ s.breaks T net l) (h : Routed T s s' p l) (x : UInt16) :
    Passes (T.depth p) s.now ((s.router p).seedRoutes.get net x)
      ((s'.router p).seedRoutes.get net x) := by
  have hkeys := (hn.wf p).directory.leases
  cases h with
  | same h =>
    rw [h]
    exact .aged (.refl _ _)
  | @op op hop h =>
    have heffect := Router.seed_effect (hn.wf p).directory (.at s.now) op net x
    rw [h]
    generalize ((s.router p).exec (.at s.now, op)).seedRoutes.get net x = o at heffect ⊢
    cases heffect with
    | aged haged => exact .aged haged
    | lost hlost he hvia =>
      subst hvia
      exact absurd (breaks_of_lost hlost he) hb
    | _ => cases hop
  | @root w call hw hroot hcall h =>
    rw [h, T.depth_root hroot]
    exact Router.passes_of_request (hn.wf p)
      (fun hlose => hb (breaks_of_request hw hroot hcall hlose)) x
  | @served w _ _ call _ _ _ h =>
    rw [h]
    have hspec := Router.takeRequest_spec hkeys s.now (s.node p).next (T.up w) call.msg
    exact .aged (hspec.2.quiet.seed hkeys net x)
  | @resumed g c call handler sent hres h =>
    rw [h]
    exact hres.passes hn (hf g hres.parent) hb x

/-! ### The answers -/

/-- An answer is to a request from before. -/
theorem Answered.id_lt (hj : Jobs T s) {call : SeedCall ι SeedResponse}
    (h : Answered T s s' v p call) : call.id < (s.node v).next := by
  cases h with
  | root _ hreq => exact hj.requestIds v _ hreq
  | served _ hreq => exact hj.requestIds v _ hreq
  | @resumed c _ _ handler _ _ hres hc =>
    subst hc
    exact (hj.clients p handler c hres.task).2.1
  | @gaveUp c handler _ htask hc =>
    subst hc
    exact (hj.clients p handler c htask).2.1

/-- When a net id is assigned, no lease of it is left, but for the time that the levels above
differ by. -/
theorem Answered.assigns (hn : Nested T s) (hf : ∀ g, T.parent p = some g → Follows T s net p g)
    {call : SeedCall ι SeedResponse} (h : Answered T s s' v p call) {g : SeedRouterAssignment}
    (hmsg : call.msg = .assigned (.ok g)) (hnet : g.assignment.netId = net) {x : UInt16}
    {e : LeaseEntry UInt16 SeedRoute} (he : (s.router p).seedRoutes.get net x = some e) :
    e.kind.reservedUntil ≤ s.now + secs (2 * T.depth p) := by
  cases h with
  | @root req hroot =>
    obtain ⟨id, owner, msg⟩ := req
    cases msg with
    | assign =>
      rcases hres : (s.router p).requestSeedNetAssign (T.up v) s.now with ⟨err | b, r'⟩
      · simp [Delegation.answer, SeedTree.link, hres, Except.map] at hmsg
      · obtain ⟨via, -, -, -, -, halloc, -⟩ := Router.requestSeedNetAssign_ok hres
        have hb : b = g.assignment := by
          simp only [Delegation.answer, SeedTree.link, hres, Except.map,
            SeedResponse.assigned.injEq, Except.ok.injEq] at hmsg
          exact congrArg SeedRouterAssignment.assignment hmsg
        subst hnet
        subst hb
        exact Nat.le_add_right_of_le
          (Router.ended_of_free (hn.wf p) (Router.allocNetId_spec halloc).2.2.1 he)
    | refresh => cases hmsg
    | release => cases hmsg
  | @served q req res _ _ hout =>
    obtain rfl : res = .assigned (.ok g) := hmsg
    have hspec := Router.takesRequest_of_fst (hn.wf p).directory.leases hout
    generalize req.msg = msg at hspec
    cases hspec with
    | refused hnone => cases hnone
  | @resumed c q sub handler sent res hres _ hout =>
    obtain rfl : res = .assigned (.ok g) := hmsg
    obtain ⟨r, hspec⟩ := Router.takesResponse_of_fst hout
    generalize hsub : sub.msg = msg at hspec
    cases hspec with
    | refused _ hnone => cases hnone
    | @registered i t src up granted a _ hreg =>
      obtain ⟨_, -, -, -, -, -, rfl, -⟩ := Router.registerDelegatedSeedNet_ok hreg
      have hlate := (hf q hres.parent).assigned sub _ c sent granted hres hsub hnet x e he
      have hd : late (T.depth q) = secs (2 * T.depth p) := by
        rw [late, T.depth_parent hres.parent]
        exact congrArg secs (by omega)
      omega
  | @gaveUp c handler res _ _ hout =>
    obtain rfl : res = .assigned (.ok g) := hmsg
    cases handler <;> cases hout

/-- A refresh that is granted is a replay, of a lease with another token than the one that was
presented, or it renews the lease. -/
theorem Answered.refreshes (hn : Nested T s) (hf : ∀ g, T.parent p = some g → Follows T s net p g)
    {call : SeedCall ι SeedResponse} (h : Answered T s s' v p call) {a : SeedNetAssignment}
    (hmsg : call.msg = .refreshed (.ok a)) {sent : Nat} {src : UInt16} {tok : Token}
    {lease : SeedLease} {c : SeedClient ι}
    (htask : (s.node v).task = some (.refreshing call.id sent src net tok lease, c)) :
    ∃ e l, (s.router p).seedRoutes.get net (T.up v) = some e ∧ e.kind = .active l ∧
      (lease.refreshToken ≠ l.refreshToken ∧
          l.expiration ≤ s.now + secs a.expiresSeconds.toNat ∨
        l.expiration + gain (T.depth p) + secs 2 ≤ s.now + secs a.expiresSeconds.toNat) := by
  cases h with
  | @root req hroot hreq =>
    have hask := (hn.jobs.requests v req hreq _ c sent htask rfl).2 _ rfl
    simp only [hask, Delegation.answer, SeedTree.link, SeedResponse.refreshed.injEq] at hmsg
    rcases hres : (s.router p).refreshSeedNetAssignment (T.up v) net lease.refreshToken s.now with
      ⟨res, r'⟩
    rw [hres] at hmsg
    obtain rfl : res = .ok a := hmsg
    obtain ⟨e, l, he, hl, hexp, -, ⟨-, hwin, hsecs, -, -⟩ | ⟨hne, -, hsecs, -, -⟩⟩ :=
      Router.refreshSeedNetAssignment_ok hres
    · refine ⟨e, l, he, hl, .inr ?_⟩
      have hmin : minRefreshSecs.toNat = 62 := rfl
      have hmax : maxLeaseSecs.toNat = 120 := rfl
      rw [hsecs, T.depth_root hroot]
      simp only [gain, hmin, hmax, secs] at *
      omega
    · refine ⟨e, l, he, hl, .inl ⟨hne.symm, ?_⟩⟩
      rw [hsecs]
      exact Router.le_remainingLeaseSeconds (hn.sound p _ _ e l he hl).1
  | @served q req res _ hreq hout =>
    have hask := (hn.jobs.requests v req hreq _ c sent htask rfl).2 _ rfl
    obtain ⟨-, tok', e, l, _, hmsg', he, hl, hne, hle, -⟩ := Router.grant_of_request (hn.wf p)
      (hn.sound p) (hn.keys p) hout (show res.grant = some a by rw [show res = _ from hmsg]; rfl)
    rw [hask] at hmsg'
    cases hmsg'
    exact ⟨e, l, he, hl, .inl ⟨hne.symm, hle⟩⟩
  | @resumed c' q sub handler sent' res hres hc hout =>
    subst hc
    obtain rfl : res = .refreshed (.ok a) := hmsg
    obtain ⟨hparent, -, hsrc⟩ := hn.jobs.clients p handler c' hres.task
    have hdoes := (hn.jobs.jobs p handler c' hres.task _ c sent htask rfl).2 _ rfl
    obtain ⟨r, hspec⟩ := Router.takesResponse_of_fst hout
    generalize hsub : sub.msg = msg at hspec
    cases hspec with
    | refused _ hnone => cases hnone
    | @committed i t src' k tok' lease' b _ _ hcommit =>
      cases hdoes
      obtain rfl := hsrc src' rfl
      cases hres.awaits
      obtain ⟨e, l, _, he, hl, -, hexp, -, rfl, -⟩ := Router.commitDelegatedRefresh_ok hcommit
      have hnet : b.netId = net :=
        (hn.jobs.responses p sub hres.mem _ c' sent' hres.task rfl).2 _ rfl b hsub
      have he : (s.router p).seedRoutes.get net (T.up c'.child) = some e := hnet ▸ he
      refine ⟨e, l, he, hl, .inr ?_⟩
      have hgain := (hf q hres.parent).refreshed sub _ _ _ _ _ c' b hres hsub e l he hl hexp
      have hdepth := (hn.answers p q hres.parent sub hres.mem b (by rw [hsub]; rfl)).tells.depth_le
      have hstep : gain (T.depth p) + secs 2 = gain (T.depth q) := by
        rw [T.depth_parent hres.parent]
        exact gain_child (by omega)
      show l.expiration + gain (T.depth p) + secs 2 ≤ s.now + secs b.expiresSeconds.toNat
      omega
  | @gaveUp c' handler res _ _ hout =>
    obtain rfl : res = .refreshed (.ok a) := hmsg
    cases handler <;> cases hout

/-! ### The step -/

section Step

variable [DecidableEq ι]

/-- A handler that waits for an answer has been waiting, and the answer was there or is new. -/
theorem Resumes.before (hn : Nested T s) (hs : Step T s l s') {call : SeedCall ι SeedResponse}
    {handler : SeedHandler} {c : SeedClient ι} {sent : Nat}
    (h : Resumes T s' v p call handler c sent) :
    (s.node v).task = some (handler, c) ∧
      (Resumes T s v p call handler c sent ∨ Answered T s s' v p call) := by
  have hcall := hs.answered hn.jobs h.parent h.mem
  have hid : call.id < (s.node v).next := by
    rcases hcall with hold | hnew
    · exact hn.jobs.responseIds v call hold
    · exact hnew.id_lt hn.jobs
  have hnext : ∀ t, handler.awaits ≠ some ((s.node v).next, t) := by
    intro t heq
    rw [h.awaits, Option.some.injEq, Prod.mk.injEq] at heq
    omega
  have htask : (s.node v).task = some (handler, c) := by
    cases hs.tasked v with
    | same hsame => exact hsame ▸ h.task
    | idle hnone => cases hnone.symm.trans h.task
    | @takes w q req msg handler' hw _ hreq _ hout hnew =>
      cases hnew.symm.trans h.task
      have hspec := Router.takesRequest_of_fst (hn.wf v).directory.leases hout
      generalize req.msg = reqmsg at hspec
      cases hspec with
      | refreshing => exact absurd rfl (hnext s.now)
      | assigning => exact absurd rfl (hnext s.now)
      | releasing => exact absurd rfl (hnext s.now)
    | rollsBack hnew =>
      cases hnew.symm.trans h.task
      exact absurd rfl (hnext s.now)
  have hle := hs.now_le
  refine ⟨htask, hcall.imp_left fun hold => ⟨h.parent, hold, htask, h.awaits, ?_⟩⟩
  exact Nat.le_trans hle h.inTime

/-- As long as the handler of a bridge is busy its routes only age. -/
theorem Step.route_before (hn : Nested T s) (hs : Step T s l s') (hb : ¬ s.breaks T net l)
    (hp : T.parent v = some p) {job : SeedHandler × SeedClient ι}
    (htask : (s'.node v).task = some job) {src : UInt16} {e : LeaseEntry UInt16 SeedRoute}
    (he : (s'.router v).seedRoutes.get net src = some e) :
    ∃ e₀, (s.router v).seedRoutes.get net src = some e₀ ∧ Ages s.now e₀.kind e.kind ∧
      e.extra = e₀.extra := by
  rcases (hs.routed v).route (hn.wf v) hp he with ⟨e₀, he₀, hsame, -, hages | ⟨rfl, hlost, -⟩⟩ |
    ⟨_, _, _, _, _, _, _, -, -, -, hnone, -⟩
  · exact ⟨e₀, he₀, hages, hsame⟩
  · exact absurd (breaks_of_lost hlost he₀) hb
  · cases hnone.symm.trans htask

/-- What holds between a node and its parent is kept by every step in which no lease of the net id
is lost. -/
theorem Follows.step (hn : Nested T s)
    (hf : ∀ v p, T.parent v = some p → Follows T s net v p) (hs : Step T s l s')
    (hb : ¬ s.breaks T net l) (hp : T.parent v = some p) : Follows T s' net v p := by
  have hle := hs.now_le
  have hlink := hf v p hp
  have hpass := (hs.routed p).passes hn (hf p) hb (T.up v)
  constructor
  case routes =>
    intro src e he
    rcases (hs.routed v).route (hn.wf v) hp he with
      ⟨e₀, he₀, hsame, htook, hages | ⟨rfl, hlost, -⟩⟩ |
      ⟨call, handler, c, sent, a, lease, new, hres, ha, hrests, -, htook⟩
    · rw [htook]
      exact (((hlink.routes src e₀ he₀).ages hages hsame).passes hpass).later hle
    · exact absurd (breaks_of_lost hlost he₀) hb
    · rw [htook]
      have hawaits := hlink.awaited call handler c sent a hres ha hrests.netId
      have hsent := (hn.jobs.waits v handler c _ sent hres.task hres.awaits).2
      exact ((Leans.of_awaits hrests hawaits hsent hres.inTime).passes hpass).later hle
  case awaited =>
    intro call handler c sent a h ha hnet
    obtain ⟨htask, hold | hnew⟩ := h.before hn hs
    · have hdepth := (hn.answers v p hp call hold.mem a ha).tells.depth_le
      exact (hlink.awaited call handler c sent a hold ha hnet).passes hpass hold.inTime (by omega)
    · have hsent := (hn.jobs.waits v handler c _ sent htask h.awaits).2
      rw [← hnet]
      exact .of_backs (hnew.backs hn ha).1 hsent
  case assigned =>
    intro call handler c sent g h hmsg hnet src e he
    obtain ⟨e₀, he₀, hages, -⟩ := hs.route_before hn hb hp h.task he
    rw [hages.reservedUntil]
    obtain ⟨-, hold | hnew⟩ := h.before hn hs
    · have hended := hlink.assigned call handler c sent g hold hmsg hnet src e₀ he₀
      omega
    · rcases hlink.routes src e₀ he₀ with ⟨e', he', htook, hle', -⟩ | hended
      · have hended := hnew.assigns hn (hf p) hmsg hnet he'
        have hlate := late_eq (T.depth p)
        omega
      · omega
  case refreshed =>
    intro call id sent src tok lease c a h hmsg e le he hl hexp
    obtain ⟨e₀, he₀, hages, -⟩ := hs.route_before hn hb hp h.task he
    rw [hl] at hages
    have hl₀ := hages.active_eq
    obtain ⟨htask, hold | hnew⟩ := h.before hn hs
    · have hgain :=
        hlink.refreshed call id sent src tok lease c a hold hmsg e₀ le he₀ hl₀ (by omega)
      omega
    · have hid : id = call.id := (Prod.mk.inj (Option.some.inj h.awaits)).1
      subst hid
      obtain ⟨e', l', he', hl', hreply⟩ := hnew.refreshes hn (hf p) hmsg htask
      obtain ⟨-, hstored⟩ := hlink.asks _ sent src tok lease c htask
      rcases hlink.routes src e₀ he₀ with ⟨e'', he'', htook, hle', hmargin⟩ | hended
      · cases he'.symm.trans he''
        rcases hreply with ⟨hne, hends⟩ | hgain
        · have hmargin := hmargin le l' lease hl₀ hl' (hstored e₀ le he₀ hl₀) hne
          omega
        · rw [LeaseEntry.reservedUntil_of_active hl₀,
            LeaseEntry.reservedUntil_of_active hl'] at hle'
          have htwo : secs 2 = secs 1 + secs 1 := secs_add 1 1
          omega
      · -- the route would have ended
        rw [LeaseEntry.reservedUntil_of_active hl₀] at hended
        have hdepth := (hnew.backs hn (show call.msg.grant = some a by rw [hmsg]; rfl)).2.depth_le
        simp only [late, tombstoneDurationSecs, secs] at hended
        omega
  case asks =>
    intro id sent src tok lease c htask
    cases hs.tasked v with
    | same hsame =>
      rw [hsame] at htask
      obtain ⟨hnet, hstored⟩ := hlink.asks id sent src tok lease c htask
      refine ⟨hnet, fun e le he hl => ?_⟩
      obtain ⟨e₀, he₀, hages, hextra⟩ := hs.route_before hn hb hp (by rw [hsame, htask]) he
      rw [hl] at hages
      rw [hextra]
      exact hstored e₀ le he₀ hages.active_eq
    | idle hnone => cases hnone.symm.trans htask
    | @takes w q req msg handler hw _ hreq _ hout hnew =>
      cases hnew.symm.trans htask
      have hspec := Router.takesRequest_of_fst (hn.wf v).directory.leases hout
      generalize req.msg = reqmsg at hspec
      cases hspec with
      | @refreshing _ _ e' l' _ he' _ hstored =>
        refine ⟨hn.keys v _ _ e' lease he' hstored, fun e le he hl => ?_⟩
        obtain ⟨e₀, he₀, -, hextra⟩ := hs.route_before hn hb hp htask he
        rw [hextra]
        cases he₀.symm.trans he'
        exact hstored
    | rollsBack hnew => cases hnew.symm.trans htask

end Step

end SeedNet

end Ergot
