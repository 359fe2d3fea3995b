import Ergot.Router.Footprint

/-!
# Net ids are unique

The directory of a router (the ident and net id of every slot, and the keys of
the seed-route table, active and tombstoned) moves by `Directory.Step`s only:
one lemma for each operation that hands out or takes back a name, and `footprint_steps`
for all the others. Well-formedness of the directory over whole runs follows.

`Unique` adds that the node claims are keyed by distinct pairs.
-/

namespace Ergot

namespace Router

open Runs

variable {σ : Type} {N S C : Nat}

/-- The part of the state that hands out names. -/
def directory (r : Router σ N S C) : Directory UInt8 UInt16 :=
  { links := r.slots.toList.map fun s => (s.ident, s.netId)
    leases := r.seedRoutes.keys }

/-! ## Every operation is a sequence of directory steps -/

theorem quiet_steps {now : Nat} {r r' : Router σ N S C} (h : Quiet now r r') :
    Directory.Steps r.directory r'.directory := by
  have hdir : r'.directory = { r.directory with leases := r'.seedRoutes.keys } := by
    rw [directory, h.links]
    rfl
  rw [hdir]
  exact .single (.forget _ h.seedKeys)

theorem gcSeed_steps (now : Nat) (r : Router σ N S C) :
    Directory.Steps r.directory (r.gcSeed now).directory :=
  quiet_steps (AgedOnly.gcSeed now r).quiet

/-- A name the allocator found free is free in the directory. -/
theorem allocNetId_fresh {r : Router σ N S C} {n : UInt16} (h : r.allocNetId = some n) :
    n ≠ 0 ∧ n ∉ r.directory.links.map Prod.snd ∧ n ∉ r.directory.leases := by
  obtain ⟨hne, hslots, hseed, -⟩ := allocNetId_spec h
  refine ⟨hne, ?_, ?_⟩
  · intro hin
    obtain ⟨l, hl, rfl⟩ := List.mem_map.mp hin
    obtain ⟨s, hs, rfl⟩ := List.mem_map.mp hl
    exact hslots s hs rfl
  · intro hin
    have hin : r.seedRoutes.containsKey n = true := LeaseTable.mem_keys.mp hin
    rw [hseed] at hin
    cases hin

/-- The directory after a slot has been pushed. -/
theorem directory_push {r r' : Router σ N S C} {slot : Slot σ} {t : LeaseTable UInt16 SeedRoute S}
    (hslots : r'.slots.toList = r.slots.toList ++ [slot]) (hseed : r'.seedRoutes = t) :
    r'.directory =
      { links := r.directory.links ++ [(slot.ident, slot.netId)], leases := t.keys } := by
  rw [directory, hslots, hseed, List.map_append]
  rfl

theorem not_mem_idents {r : Router σ N S C} {ident : UInt8}
    (h : ident ∉ r.slots.toList.map Slot.ident) : ident ∉ r.directory.links.map Prod.fst := by
  have hmap : r.directory.links.map Prod.fst = r.slots.toList.map Slot.ident := by
    rw [directory, List.map_map]
    rfl
  rwa [hmap]

theorem registerInterface_steps (r : Router σ N S C) (sink : σ) (now : Nat) :
    Directory.Steps r.directory (r.registerInterface sink now).2.directory := by
  cases h : r.registerInterface sink now with
  | mk res r' =>
    cases res with
    | error e => exact quiet_steps (registerInterface_error h).quiet
    | ok ident =>
      obtain ⟨netId, -, halloc, hident, -, hslots, hseed, -⟩ := registerInterface_ok h
      obtain ⟨-, hnet, hkey⟩ := allocNetId_fresh halloc
      refine (gcSeed_steps now r).tail ?_
      show Directory.Step _ r'.directory
      rw [directory_push hslots hseed]
      exact .attach ident netId (not_mem_idents hident) (.inr ⟨hnet, hkey⟩)

theorem registerInterfacePending_steps (r : Router σ N S C) (sink : σ) :
    Directory.Steps r.directory (r.registerInterfacePending sink).2.directory := by
  cases h : r.registerInterfacePending sink with
  | mk res r' =>
    cases res with
    | error e =>
      rw [registerInterfacePending_error h]
      exact .refl
    | ok ident =>
      obtain ⟨hident, -, hslots, hseed, -⟩ := registerInterfacePending_ok h
      show Directory.Steps _ r'.directory
      rw [directory_push hslots hseed]
      exact .single (.attach ident 0 (not_mem_idents hident) (.inl rfl))

theorem deregisterInterface_steps (r : Router σ N S C) (ident : UInt8) (now : Nat) :
    Directory.Steps r.directory (r.deregisterInterface ident now).2.directory := by
  cases h : r.deregisterInterface ident now with
  | mk res r' =>
    cases res with
    | error e =>
      rw [deregisterInterface_error h]
      exact .refl
    | ok u =>
      obtain ⟨slot, -, -, hperm, hseed, -⟩ := deregisterInterface_ok h
      have hkeys : r'.seedRoutes.keys = r.seedRoutes.keys := by
        rw [hseed]
        exact LeaseTable.keys_mapEntries _ fun e => (tombstoneVia_id ident now e).1
      have hdir : r'.directory =
          { r.directory with links := r'.slots.toList.map fun s => (s.ident, s.netId) } := by
        rw [directory, hkeys]
        rfl
      show Directory.Steps _ r'.directory
      have hlinks := hperm.map fun s : Slot σ => (s.ident, s.netId)
      rw [hdir]
      exact .single (.detach slot.ident slot.netId _ hlinks)

/-- Renumbering checks the other slots by ident, so distinct idents are needed. -/
theorem reassignInterfaceNetId_steps {r : Router σ N S C} (hwf : r.directory.Wf)
    (ident : UInt8) (netId : UInt16) :
    Directory.Steps r.directory (r.reassignInterfaceNetId ident netId).2.directory := by
  cases h : r.reassignInterfaceNetId ident netId with
  | mk res r' =>
    cases res with
    | error e =>
      rw [reassignInterfaceNetId_error h]
      exact .refl
    | ok u =>
      obtain ⟨slot, before, after, -, hothers, hseed, -, hident, hsplit, hslots, hseed', -⟩ :=
        reassignInterfaceNetId_ok h
      show Directory.Steps _ r'.directory
      have hidents := hwf.idents
      simp only [directory, hsplit, List.map_append, List.map_cons, List.map_map] at hidents
      have hnot := (List.nodup_middle.mp hidents)
      rw [List.nodup_cons] at hnot
      have hdir : r'.directory =
          { r.directory with
            links := (before.map fun s => (s.ident, s.netId)) ++
              (slot.ident, netId) :: after.map fun s => (s.ident, s.netId) } := by
        rw [directory, hslots, hseed', List.map_append, List.map_cons]
        rfl
      rw [hdir]
      refine .single (.renumber slot.ident slot.netId netId _ _ ?_ ?_ ?_)
      · rw [directory, hsplit, List.map_append, List.map_cons]
      · intro l hl
        rw [← List.map_append] at hl
        obtain ⟨s, hs, rfl⟩ := List.mem_map.mp hl
        have hmem : s ∈ r.slots.toList := by
          rw [hsplit]
          rcases List.mem_append.mp hs with hs | hs
          · exact List.mem_append_left _ hs
          · exact List.mem_append_right _ (List.mem_cons_of_mem _ hs)
        refine hothers s hmem fun heq => hnot.1 ?_
        rw [← List.map_append]
        exact List.mem_map.mpr ⟨s, hs, by rw [← hident] at heq; exact heq⟩
      · intro hin
        have hin : r.seedRoutes.containsKey netId = true := LeaseTable.mem_keys.mp hin
        rw [hseed] at hin
        cases hin

theorem requestSeedNetAssign_steps (r : Router σ N S C) (src : UInt16) (now : Nat) :
    Directory.Steps r.directory (r.requestSeedNetAssign src now).2.directory := by
  cases h : r.requestSeedNetAssign src now with
  | mk res r' =>
    cases res with
    | error e => exact quiet_steps (requestSeedNetAssign_error h).quiet
    | ok a =>
      obtain ⟨via, -, -, -, hfull, halloc, -, -, -, rfl⟩ := requestSeedNetAssign_ok h
      obtain ⟨-, hnet, hkey⟩ := allocNetId_fresh halloc
      refine (gcSeed_steps now r).tail ?_
      have hkeys := LeaseTable.keys_push hfull a.netId src ⟨via, none⟩
        (.fresh now initialLeaseSecs r.rng.next.1)
      have hstep := Directory.Step.lease (d := (r.gcSeed now).directory) a.netId
        (fun l hl heq => absurd (List.mem_map.mpr ⟨l, hl, heq⟩) hnet) hkey
      rw [← show _ = (r.gcSeed now).directory.leases ++ [a.netId] from hkeys] at hstep
      exact hstep

/-- Dropping the route to a name and leasing the name again. -/
theorem removeKey_steps (r : Router σ N S C) (now : Nat) (key : UInt16) :
    Directory.Steps r.directory
      { r.directory with leases := ((r.seedRoutes.gc now).removeKey key).keys } := by
  refine .single (.forget _ ?_)
  exact ((LeaseTable.keys_removeKey_sublist _ key).trans
    (r.seedRoutes.keys_gc_sublist now)).subperm

theorem registerDelegatedSeedNet_steps (r : Router σ N S C) (src : UInt16) (parent : SeedLease)
    (now : Nat) :
    Directory.Steps r.directory (r.registerDelegatedSeedNet src parent now).2.directory := by
  cases h : r.registerDelegatedSeedNet src parent now with
  | mk res r' =>
    cases res with
    | error e => exact quiet_steps (registerDelegatedSeedNet_error h).quiet
    | ok a =>
      obtain ⟨via, -, -, hslots, -, hfull, -, rfl⟩ := registerDelegatedSeedNet_ok h
      have hkeys := LeaseTable.keys_push hfull parent.netId src ⟨via, some parent⟩
        (.fresh now parent.expiresSeconds r.rng.next.1)
      refine (removeKey_steps r now parent.netId).tail ?_
      have hstep := Directory.Step.lease
        (d := { r.directory with
          leases := ((r.seedRoutes.gc now).removeKey parent.netId).keys }) parent.netId ?_
        (LeaseTable.not_mem_keys_removeKey _ _)
      · rw [← hkeys] at hstep
        exact hstep
      · intro l hl heq
        obtain ⟨s, hs, rfl⟩ := List.mem_map.mp hl
        exact absurd heq (hslots s hs)

theorem refreshSeedNetAssignment_steps (r : Router σ N S C) (src net : UInt16) (tok : Token)
    (now : Nat) :
    Directory.Steps r.directory (r.refreshSeedNetAssignment src net tok now).2.directory := by
  cases h : r.refreshSeedNetAssignment src net tok now with
  | mk res r' =>
    cases res with
    | error e => exact quiet_steps (refreshSeedNetAssignment_error h).quiet
    | ok a =>
      obtain ⟨e, l, -, -, -, -, hcases⟩ := refreshSeedNetAssignment_ok h
      have hsame : r'.directory = r.directory := by
        rcases hcases with ⟨-, -, -, -, rfl⟩ | ⟨-, -, -, -, rfl⟩
        · rw [directory, directory, setSeedKind, LeaseTable.keys_setKind]
        · rw [directory, directory, setSeedKind, LeaseTable.keys_setKind]
      show Directory.Steps _ r'.directory
      rw [hsame]
      exact .refl

/-- Ending a lease after a quiet step. -/
theorem remove_steps {now : Nat} {r r'' : Router σ N S C} (h : Quiet now r r'')
    (net src : UInt16) :
    Directory.Steps r.directory
      { r'' with seedRoutes := r''.seedRoutes.remove net src : Router σ N S C }.directory :=
  (quiet_steps h).tail (.forget _ (r''.seedRoutes.keys_remove_sublist net src).subperm)

theorem releaseSeedNetAssignment_steps (r : Router σ N S C) (src net : UInt16) (tok : Token)
    (now : Nat) :
    Directory.Steps r.directory (r.releaseSeedNetAssignment src net tok now).2.directory := by
  cases h : r.releaseSeedNetAssignment src net tok now with
  | mk res r' =>
    cases res with
    | error e => exact quiet_steps (releaseSeedNetAssignment_error h).quiet
    | ok u =>
      obtain ⟨-, -, -, -, -, -, r'', hq, rfl⟩ := releaseSeedNetAssignment_ok h
      exact remove_steps hq.quiet net src

theorem commitDelegatedRelease_steps (r : Router σ N S C) (src net : UInt16) (tok : Token)
    (now : Nat) :
    Directory.Steps r.directory (r.commitDelegatedRelease src net tok now).2.directory := by
  cases h : r.commitDelegatedRelease src net tok now with
  | mk res r' =>
    cases res with
    | error e => exact quiet_steps (commitDelegatedRelease_error h).quiet
    | ok u =>
      obtain ⟨-, -, -, -, -, -, r'', hq, rfl⟩ := commitDelegatedRelease_ok h
      exact remove_steps hq.quiet net src

theorem commitDelegatedRefresh_steps (r : Router σ N S C) (src : UInt16) (tok : Token)
    (parent : SeedLease) (now : Nat) :
    Directory.Steps r.directory (r.commitDelegatedRefresh src tok parent now).2.directory := by
  cases h : r.commitDelegatedRefresh src tok parent now with
  | mk res r' =>
    cases res with
    | error e => exact quiet_steps (commitDelegatedRefresh_error h).quiet
    | ok a =>
      obtain ⟨-, l, -, -, -, -, -, -, -, rfl⟩ := commitDelegatedRefresh_ok h
      have hkeys := r.seedRoutes.keys_modifyGet parent.netId src
        (f := fun e => { e with
          extra := { e.extra with parent := some parent }
          kind := .active (l.rotated (now + secs parent.expiresSeconds.toNat) r.rng.next.1) })
        fun _ => rfl
      refine .single ?_
      have hstep := Directory.Step.forget (d := r.directory) _ (List.Perm.of_eq hkeys).subperm
      exact hstep

variable [InterfaceSink σ]

/-- An operation that writes neither to the slots nor to the seed routes. -/
theorem footprint_steps (r : Router σ N S C) (clock : Clock) {op : Op σ}
    (hslots : op.writes .slots = false) (hseed : op.writes .seedRoutes = false) :
    Directory.Steps r.directory (r.exec (clock, op)).directory := by
  obtain ⟨r₀, hquiet, hfoot⟩ := r.exec_footprint clock op
  have hsame : (r.exec (clock, op)).directory = r₀.directory := by
    rw [directory, directory, hfoot.links hslots, hfoot.seedRoutes hseed]
  rw [hsame]
  exact quiet_steps hquiet

/-- Every operation moves the directory by its steps. -/
theorem exec_steps {r : Router σ N S C} (hwf : r.directory.Wf) (step : Clock × Op σ) :
    Directory.Steps r.directory (r.exec step).directory := by
  obtain ⟨clock, op⟩ := step
  cases op with
  | registerInterface sink => exact registerInterface_steps _ _ _
  | registerInterfacePending sink => exact registerInterfacePending_steps _ _
  | deregisterInterface ident => exact deregisterInterface_steps _ _ _
  | reassignInterfaceNetId ident netId => exact reassignInterfaceNetId_steps hwf _ _
  | requestSeedNetAssign src => exact requestSeedNetAssign_steps _ _ _
  | refreshSeedNetAssignment src net tok => exact refreshSeedNetAssignment_steps _ _ _ _ _
  | releaseSeedNetAssignment src net tok => exact releaseSeedNetAssignment_steps _ _ _ _ _
  | registerDelegatedSeedNet src parent => exact registerDelegatedSeedNet_steps _ _ _ _
  | commitDelegatedRefresh src tok parent => exact commitDelegatedRefresh_steps _ _ _ _ _
  | commitDelegatedRelease src net tok => exact commitDelegatedRelease_steps _ _ _ _ _
  | _ => exact r.footprint_steps clock rfl rfl

theorem exec_wf {r : Router σ N S C} (hwf : r.directory.Wf) (step : Clock × Op σ) :
    (r.exec step).directory.Wf :=
  hwf.steps (exec_steps hwf step)

/-- A router as a constructor returns it. -/
inductive Initial : Router σ N S C → Prop
  | root (rng : Rng) (h : N ≤ 255) : Initial (new rng h)
  | bridge (rng : Rng) (sink : σ) (h : N ≤ 255) : Initial (newBridge rng sink h)

/-- The directory stays well formed over every run. -/
theorem runAll_wf {r : Router σ N S C} (h : Initial r) (steps : List (Clock × Op σ)) :
    (runAll exec r steps).directory.Wf := by
  refine runAll_inv (I := fun r : Router σ N S C => r.directory.Wf)
    (fun r step hwf => exec_wf hwf step) ?_ steps
  cases h with
  | root rng h => exact Directory.empty_wf
  | bridge rng sink h => exact Directory.empty_wf

/-- Slot idents, nonzero slot net ids and seed-route keys are pairwise distinct,
and no seed-route key is a slot's nonzero net id. -/
structure NetIdsUnique (r : Router σ N S C) : Prop where
  idents : r.slots.toList.Pairwise fun a b => a.ident ≠ b.ident
  slotNets : r.slots.toList.Pairwise fun a b => a.netId ≠ 0 → a.netId ≠ b.netId
  seedKeys : r.seedRoutes.entries.toList.Pairwise fun a b => a.key ≠ b.key
  disjoint : ∀ s ∈ r.slots.toList, s.netId ≠ 0 →
    ∀ e ∈ r.seedRoutes.entries.toList, e.key ≠ s.netId

omit [InterfaceSink σ] in
theorem netIdsUnique_of_wf {r : Router σ N S C} (h : r.directory.Wf) : NetIdsUnique r := by
  refine
    { idents := ?_
      slotNets := ?_
      seedKeys := List.pairwise_map.mp h.leases
      disjoint := ?_ }
  · have hidents := h.idents
    rw [directory, List.map_map] at hidents
    exact List.pairwise_map.mp hidents
  · exact List.pairwise_map.mp h.names
  · intro s hs hne e he heq
    refine h.disjoint (s.ident, s.netId) (List.mem_map.mpr ⟨s, hs, rfl⟩) hne ?_
    exact List.mem_map.mpr ⟨e, he, heq⟩

/-- Net ids are unique after every run of operations, whatever the clock and the
random numbers do. -/
theorem netIdsUnique_of_run (r : Router σ N S C) (h : Initial r)
    (steps : List (Clock × Op σ)) : NetIdsUnique (runAll exec r steps) :=
  netIdsUnique_of_wf (runAll_wf h steps)

/-- A slot, an assignment for the net behind it, and the slot going away. -/
theorem netIdsUnique_of_run_root :
    NetIdsUnique (runAll exec (new ⟨fun _ => 7, 0⟩ (by decide) : Router FrameQueue 2 2 1)
      [(.at 0, .registerInterface ⟨64, 1, []⟩), (.at 1, .requestSeedNetAssign 1),
        (.at 2, .deregisterInterface 0)]) :=
  netIdsUnique_of_run _ (.root _ _) _

end Router

end Ergot
