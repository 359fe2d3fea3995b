import Ergot.Router.Spec

/-!
# Refused operations

Several operations collect garbage, drop an entry or draw a token before they know whether
they succeed. `refused_agedOnly` says that an operation that returns an error has changed
nothing: the slots and the upstream are the same, and the seed routes and the node claims
have at most aged.
-/

namespace Ergot

namespace Router

variable {σ : Type} {N S C : Nat}

/-- Whether an operation returns an error. The operations that route a frame and
`is_transit_net` grant nothing, and are not looked at. -/
def Refuses (r : Router σ N S C) (now : Nat) : Op σ → Prop
  | .registerInterface sink => (r.registerInterface sink now).1.isOk = false
  | .registerInterfacePending sink => (r.registerInterfacePending sink).1.isOk = false
  | .deregisterInterface ident => (r.deregisterInterface ident now).1.isOk = false
  | .reassignInterfaceNetId ident newNetId =>
    (r.reassignInterfaceNetId ident newNetId).1.isOk = false
  | .setInterfaceState ident state => (r.setInterfaceState ident state).1.isOk = false
  | .requestSeedNetAssign src => (r.requestSeedNetAssign src now).1.isOk = false
  | .refreshSeedNetAssignment src net tok =>
    (r.refreshSeedNetAssignment src net tok now).1.isOk = false
  | .releaseSeedNetAssignment src net tok =>
    (r.releaseSeedNetAssignment src net tok now).1.isOk = false
  | .canDelegateSeed src => (r.canDelegateSeed src now).1.isOk = false
  | .registerDelegatedSeedNet src parent =>
    (r.registerDelegatedSeedNet src parent now).1.isOk = false
  | .prepareDelegatedRefresh src net tok =>
    (r.prepareDelegatedRefresh src net tok now).1.isOk = false
  | .commitDelegatedRefresh src tok parent =>
    (r.commitDelegatedRefresh src tok parent now).1.isOk = false
  | .prepareDelegatedRelease src net tok =>
    (r.prepareDelegatedRelease src net tok now).1.isOk = false
  | .commitDelegatedRelease src net tok =>
    (r.commitDelegatedRelease src net tok now).1.isOk = false
  | .requestNodeClaim src candidate nonce =>
    (r.requestNodeClaim src candidate nonce now).1.isOk = false
  | .refreshNodeClaim src nodeId tok => (r.refreshNodeClaim src nodeId tok now).1.isOk = false
  | .isTransitNet _ | .find .. | .send .. | .sendErr .. | .sendRaw .. => False

instance Refuses.decidable (r : Router σ N S C) (now : Nat) :
    ∀ op, Decidable (r.Refuses now op) := by
  intro op
  cases op <;> unfold Refuses <;> infer_instance

/-- A result that is no success is an error, which is what the operations' lemmas are
about. -/
theorem of_isOk_eq_false {ε α : Type} {res : Except ε α × Router σ N S C}
    {P : Router σ N S C → Prop} (h : res.1.isOk = false)
    (herr : ∀ e r', res = (.error e, r') → P r') : P res.2 := by
  obtain ⟨e | a, r'⟩ := res
  · exact herr e r' rfl
  · cases h

theorem modifyFirstList_eq_self {α : Type} {p : α → Bool} {f : α → α} {l : List α} {a : α}
    (hfind : l.find? p = some a) (hf : f a = a) : HeaplessVec.modifyFirstList p f l = l := by
  obtain ⟨before, after, hsplit, -, hmod⟩ := HeaplessVec.modifyFirstList_split f hfind
  rw [hmod, hf, ← hsplit]

/-- A port whose state is refused keeps the state it has. -/
theorem setState_error {p : EdgePort σ} {state : InterfaceState} {e : SetStateError}
    (h : (p.setState state).1 = .error e) : (p.setState state).2 = p := by
  unfold EdgePort.setState at h ⊢
  split
  · cases h
  · cases h
  · split
    · rfl
    · next hvalid =>
      dsimp only at h
      rw [if_neg hvalid] at h
      cases h
  · split
    · rfl
    · next hvalid =>
      dsimp only at h
      rw [if_neg hvalid] at h
      cases h

theorem setInterfaceState_error {r r' : Router σ N S C} {ident : UInt8} {state : InterfaceState}
    {e : SetStateError} (h : r.setInterfaceState ident state = (.error e, r')) : r' = r := by
  unfold setInterfaceState at h
  split at h
  · split at h
    · cases h
      rfl
    · next up hup =>
      simp only [Prod.mk.injEq] at h
      obtain ⟨hres, rfl⟩ := h
      rw [setState_error hres, ← hup]
  · split at h
    · cases h
      rfl
    · next slot hslot =>
      simp only [Prod.mk.injEq] at h
      obtain ⟨hres, rfl⟩ := h
      have hslots : r.slots.modifyFirst (fun s => s.ident = ident)
          (fun s => { s with port := (s.port.setState state).2 }) = r.slots :=
        HeaplessVec.ext (modifyFirstList_eq_self hslot (by rw [setState_error hres]))
      rw [hslots]

variable [InterfaceSink σ]

/-- **Operations are atomic.** One that returns an error has let time pass, and nothing else:
no interface, no route and no claim is another, up to the expiry of leases, and random
numbers may have been drawn. -/
theorem refused_agedOnly (r : Router σ N S C) (clock : Clock) (op : Op σ)
    (h : r.Refuses clock.now op) : AgedOnly clock.now r (r.exec (clock, op)) := by
  have hsame : ∀ {r' : Router σ N S C}, r' = r → AgedOnly clock.now r r' := by
    rintro _ rfl
    exact .refl _ _
  cases op with
  | registerInterface sink => exact of_isOk_eq_false h fun _ _ => registerInterface_error
  | registerInterfacePending sink =>
    exact of_isOk_eq_false h fun _ _ h => hsame (registerInterfacePending_error h)
  | deregisterInterface ident =>
    exact of_isOk_eq_false h fun _ _ h => hsame (deregisterInterface_error h)
  | reassignInterfaceNetId ident newNetId =>
    exact of_isOk_eq_false h fun _ _ h => hsame (reassignInterfaceNetId_error h)
  | setInterfaceState ident state =>
    exact of_isOk_eq_false h fun _ _ h => hsame (setInterfaceState_error h)
  | requestSeedNetAssign src => exact of_isOk_eq_false h fun _ _ => requestSeedNetAssign_error
  | refreshSeedNetAssignment src net tok =>
    exact of_isOk_eq_false h fun _ _ => refreshSeedNetAssignment_error
  | releaseSeedNetAssignment src net tok =>
    exact of_isOk_eq_false h fun _ _ => releaseSeedNetAssignment_error
  | canDelegateSeed src => exact canDelegateSeed_agedOnly r src clock.now
  | registerDelegatedSeedNet src parent =>
    exact of_isOk_eq_false h fun _ _ => registerDelegatedSeedNet_error
  | prepareDelegatedRefresh src net tok =>
    exact prepareDelegatedRefresh_agedOnly r src net tok clock.now
  | commitDelegatedRefresh src tok parent =>
    exact of_isOk_eq_false h fun _ _ => commitDelegatedRefresh_error
  | prepareDelegatedRelease src net tok =>
    exact prepareDelegatedRelease_agedOnly r src net tok clock.now
  | commitDelegatedRelease src net tok =>
    exact of_isOk_eq_false h fun _ _ => commitDelegatedRelease_error
  | requestNodeClaim src candidate nonce =>
    exact of_isOk_eq_false h fun _ _ => requestNodeClaim_error
  | refreshNodeClaim src nodeId tok =>
    exact of_isOk_eq_false h fun _ _ => refreshNodeClaim_error
  | isTransitNet | find | send | sendErr | sendRaw => exact h.elim

/-- A root whose one seed route has expired; the table is full until the grace is over. -/
def demoFull : Router FrameQueue 1 1 1 :=
  Runs.runAll exec (new ⟨fun i => UInt64.ofNat (100 + i), 0⟩ one_slot)
    [(.at 0, .registerInterface ⟨64, 1, []⟩), (.at 0, .requestSeedNetAssign 1)]

theorem refused_agedOnly_demo :
    demoFull.Refuses (secs 40) (.requestSeedNetAssign 1) ∧
      AgedOnly (secs 40) demoFull (demoFull.exec (.at (secs 40), .requestSeedNetAssign 1)) := by
  have h : demoFull.Refuses (secs 40) (.requestSeedNetAssign 1) := by decide +kernel
  exact ⟨h, refused_agedOnly demoFull (.at (secs 40)) (.requestSeedNetAssign 1) h⟩

end Router

end Ergot
