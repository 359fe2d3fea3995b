import Ergot.Router.Unique
import Ergot.Stack.Faces

/-!
# Registrations and the tasks that outlive them

A transport registers an interface with the router and spawns a task for it, which runs the
RX worker and deregisters the interface when the worker is done
(`register_router`, tokio_cobs_stream.rs). The only name the task has for its interface is
the ident, and `deregister_interface` frees the ident at once, while the task is told to
stop some time later.

- The `k`-th task belongs to the `k`-th registration. The sink of a slot remembers whose it
  is (`Linked`), which no code looks at.
- `TouchesOwn` is what a step of a task should leave alone: the slots of the other
  registrations, as they are, and their frames.
- `Isolated` says that of all that the tasks may still do.
- `isolated_run_iff`: tasks stay isolated along a run exactly as long as no registration is
  given the ident of a task that is still there (`RegistersFresh`).
-/

namespace Ergot

/-- A sink with the number of the registration it was made for. -/
structure Linked (σ : Type) where
  link : Nat
  inner : σ
deriving DecidableEq

instance Linked.interfaceSink {σ : Type} [InterfaceSink σ] : InterfaceSink (Linked σ) where
  mtu s := InterfaceSink.mtu s.inner
  sendTy s hdr msg :=
    ((InterfaceSink.sendTy s.inner hdr msg).1,
      { s with inner := (InterfaceSink.sendTy s.inner hdr msg).2 })
  sendRaw s hdr data :=
    ((InterfaceSink.sendRaw s.inner hdr data).1,
      { s with inner := (InterfaceSink.sendRaw s.inner hdr data).2 })
  sendErr s hdr e :=
    ((InterfaceSink.sendErr s.inner hdr e).1,
      { s with inner := (InterfaceSink.sendErr s.inner hdr e).2 })

theorem SinkKeeps.link {σ : Type} [InterfaceSink σ] : SinkKeeps (Linked.link : Linked σ → Nat) :=
  ⟨fun _ _ _ => rfl, fun _ _ _ => rfl, fun _ _ _ => rfl⟩

/-! ## Tasks -/

/-- How far the task of a link is: its worker runs, has returned, the task has
deregistered the interface, and has dropped the worker. -/
inductive Phase
  | running | exited | left | dropped
deriving DecidableEq

/-- The task of a link. -/
structure LinkTask where
  worker : RxWorker UInt8
  phase : Phase

/-- A router with the tasks of its links. -/
structure Links (κ σ : Type) (N S C : Nat) where
  tasks : List LinkTask
  stack : NetStack κ (Router (Linked σ) N S C)

/-- A step of the program. The flags of `exit` and `drop` say whether the transport has a
`set_down` there. -/
inductive LinkAct (σ : Type)
  | register (sink : σ) (now : Nat)
  | registerPending (sink : σ)
  | reassign (ident : UInt8) (newNetId : UInt16)
  | deregister (ident : UInt8) (now : Nat)
  | work (k : Nat) (act : WorkerAct)
  | exit (k : Nat) (setsDown : Bool)
  | leave (k : Nat) (now : Nat)
  | drop (k : Nat) (setsDown : Bool)

/-- The task whose step it is. -/
def LinkAct.task {σ : Type} : LinkAct σ → Option Nat
  | .work k _ | .exit k _ | .leave k _ | .drop k _ => some k
  | .register _ _ | .registerPending _ | .reassign _ _ | .deregister _ _ => none

/-- The registration part of `register_router`. -/
def Router.registerRouter {σ : Type} {N S C : Nat} (r : Router σ N S C) (sink : σ) (now : Nat) :
    Option (UInt8 × UInt16) × Router σ N S C :=
  match r.registerInterface sink now with
  | (.error _, r) => (none, r)
  | (.ok ident, r) =>
    match r.interfaceState ident with
    | some (.active netId _) => (some (ident, netId), r)
    | _ => (none, (r.deregisterInterface ident now).2)

namespace Links

variable {κ σ : Type} {N S C : Nat} [SocketVTable κ] [InterfaceSink σ]

/-- `manage_profile` with an operation of the router. -/
def manage (t : Links κ σ N S C) (r : Router (Linked σ) N S C) : Links κ σ N S C :=
  { t with stack := { t.stack with profile := r } }

/-- The worker of a link that was registered. -/
def spawn (t : Links κ σ N S C) (ident : UInt8) (netId : UInt16) : Links κ σ N S C :=
  { t with tasks := t.tasks ++ [⟨⟨ident, .router (.new netId)⟩, .running⟩] }

/-- `set_down`, where there is one. -/
def setDownIf (setsDown : Bool) (w : RxWorker UInt8) (st : NetStack κ (Router (Linked σ) N S C)) :
    NetStack κ (Router (Linked σ) N S C) :=
  if setsDown then w.setState st .down else st

/-- One step of the program. -/
def step (t : Links κ σ N S C) : LinkAct σ → Links κ σ N S C
  | .register sink now =>
    match t.stack.profile.registerRouter ⟨t.tasks.length, sink⟩ now with
    | (none, r) => t.manage r
    | (some (ident, netId), r) => (t.manage r).spawn ident netId
  | .registerPending sink =>
    match t.stack.profile.registerInterfacePending ⟨t.tasks.length, sink⟩ with
    | (.error _, r) => t.manage r
    | (.ok ident, r) => (t.manage r).spawn ident 0
  | .reassign ident newNetId => t.manage (t.stack.profile.reassignInterfaceNetId ident newNetId).2
  | .deregister ident now => t.manage (t.stack.profile.deregisterInterface ident now).2
  | .work k act =>
    match t.tasks[k]? with
    | some ⟨w, .running⟩ =>
      let (w, stack) := w.step t.stack act
      { tasks := t.tasks.set k ⟨w, .running⟩, stack }
    | _ => t
  | .exit k setsDown =>
    match t.tasks[k]? with
    | some ⟨w, .running⟩ =>
      { tasks := t.tasks.set k ⟨w, .exited⟩, stack := setDownIf setsDown w t.stack }
    | _ => t
  | .leave k now =>
    match t.tasks[k]? with
    | some ⟨w, .exited⟩ =>
      -- by the ident, whoever it belongs to by now
      let t := t.manage (t.stack.profile.deregisterInterface w.ident now).2
      { t with tasks := t.tasks.set k ⟨w, .left⟩ }
    | _ => t
  | .drop k setsDown =>
    match t.tasks[k]? with
    | none | some ⟨_, .dropped⟩ => t
    | some ⟨w, _⟩ =>
      { tasks := t.tasks.set k ⟨w, .dropped⟩, stack := setDownIf setsDown w t.stack }

/-- The slots of the router, with the registration each is of. -/
def table (t : Links κ σ N S C) : List (Slot Nat) :=
  (t.stack.profile.faces Linked.link).slots

/-- A step of a task leaves the slots of the other registrations as they are, and its
frames do not arrive on their interfaces. -/
def TouchesOwn (t : Links κ σ N S C) (act : LinkAct σ) : Prop :=
  ∀ k, act.task = some k →
    (∀ s ∈ t.table, s.port.sink ≠ k → s ∈ (t.step act).table) ∧
      ∀ w frame clock, act = .work k (.frame frame clock) → t.tasks[k]? = some ⟨w, .running⟩ →
        ∀ s ∈ t.table, s.ident = w.ident → s.port.sink = k

/-- Whatever the tasks still do, each touches its own registration only. -/
def Isolated (t : Links κ σ N S C) : Prop :=
  ∀ more : List (LinkAct σ), (∀ act ∈ more, act.task.isSome) →
    Runs.Always step TouchesOwn t more

/-- No task that is still there has the ident. -/
def Unheld (t : Links κ σ N S C) (ident : UInt8) : Prop :=
  ∀ task ∈ t.tasks, task.phase ≠ .dropped → task.worker.ident ≠ ident

/-- A registration is given an ident that no task holds. -/
def RegistersFresh (t : Links κ σ N S C) : LinkAct σ → Prop
  | .register sink now => ∀ ident netId,
    (t.stack.profile.registerRouter ⟨t.tasks.length, sink⟩ now).1 = some (ident, netId) →
      t.Unheld ident
  | .registerPending sink => ∀ ident,
    (t.stack.profile.registerInterfacePending ⟨t.tasks.length, sink⟩).1 = .ok ident →
      t.Unheld ident
  | .reassign _ _ | .deregister _ _ | .work _ _ | .exit _ _ | .leave _ _ | .drop _ _ => True

end Links

/-! ## What a task can do to the table -/

section Writes

variable {τ : Type}

/-- One write to the interface `ident`: of a state, or its removal. -/
inductive Writes (ident : UInt8) (before : Faces τ) : Faces τ → Prop
  | none : Writes ident before before
  | state (state : InterfaceState) : Writes ident before (before.setState ident state)
  | removed {after : Faces τ} (slot : Slot τ) (hident : slot.ident = ident)
      (hperm : (slot :: after.slots).Perm before.slots) : Writes ident before after

variable {ident : UInt8} {before after : Faces τ}

/-- The slots with another ident stay. -/
theorem Writes.other (h : Writes ident before after) {s : Slot τ} (hs : s ∈ before.slots)
    (hne : s.ident ≠ ident) : s ∈ after.slots := by
  cases h with
  | none => exact hs
  | state state =>
    unfold Faces.setState
    split
    · exact hs
    · exact HeaplessVec.mem_modifyFirstList_of_not _ hs (decide_eq_false hne)
  | removed slot hident hperm =>
    rcases List.mem_cons.mp (hperm.symm.subset hs) with rfl | hs
    · exact absurd hident hne
    · exact hs

/-- No write brings in a slot, or gives one another ident or sink. -/
theorem Writes.origin (h : Writes ident before after) {s : Slot τ} (hs : s ∈ after.slots) :
    ∃ s' ∈ before.slots, s'.ident = s.ident ∧ s'.port.sink = s.port.sink := by
  cases h with
  | none => exact ⟨s, hs, rfl, rfl⟩
  | state state =>
    unfold Faces.setState at hs
    split at hs
    · exact ⟨s, hs, rfl, rfl⟩
    · rcases HeaplessVec.mem_modifyFirstList hs with hs | ⟨s', hs', rfl⟩
      · exact ⟨s, hs, rfl, rfl⟩
      · exact ⟨s', List.mem_of_find?_eq_some hs', rfl, (s'.port.setState_sink state).symm⟩
  | removed slot hident hperm =>
    exact ⟨s, hperm.subset (List.mem_cons_of_mem _ hs), rfl, rfl⟩

end Writes

section Tasks

variable {κ σ : Type} {N S C : Nat} [SocketVTable κ] [InterfaceSink σ]

omit [InterfaceSink σ] in
theorem Router.deregister_writes {r : Router (Linked σ) N S C} (ident : UInt8) (now : Nat) :
    Writes ident (r.faces Linked.link) ((r.deregisterInterface ident now).2.faces Linked.link) := by
  rcases hres : r.deregisterInterface ident now with ⟨e | _, r'⟩
  · rw [deregisterInterface_error hres]
    exact .none
  · obtain ⟨slot, hident, -, hperm, -⟩ := deregisterInterface_ok hres
    exact .removed (slot.face Linked.link) hident (hperm.map (Slot.face Linked.link))

theorem RxWorker.step_writes (w : RxWorker UInt8) (st : NetStack κ (Router (Linked σ) N S C))
    (act : WorkerAct) :
    Writes w.ident (st.profile.faces Linked.link)
      ((w.step st act).2.profile.faces Linked.link) := by
  rw [w.step_view (Router.faces_view .link w.ident)]
  cases w.written st.profile act with
  | none => exact .none
  | some state => exact .state state

namespace Links

variable {t : Links κ σ N S C}

omit [SocketVTable κ] in
theorem setDownIf_writes (setsDown : Bool) (w : RxWorker UInt8)
    (st : NetStack κ (Router (Linked σ) N S C)) :
    Writes w.ident (st.profile.faces Linked.link)
      ((setDownIf setsDown w st).profile.faces Linked.link) := by
  cases setsDown with
  | false => exact .none
  | true =>
    have hset := st.profile.faces_setInterfaceState Linked.link w.ident .down
    show Writes _ _ ((st.profile.setInterfaceState w.ident .down).2.faces Linked.link)
    rw [hset]
    exact .state .down

/-- A step of a task: a write to its ident, as long as it is there. -/
inductive TaskStep (t : Links κ σ N S C) (k : Nat) : Links κ σ N S C → Prop
  | idle : TaskStep t k t
  | acts {t' : Links κ σ N S C} (task task' : LinkTask) (hk : t.tasks[k]? = some task)
      (hlive : task.phase ≠ .dropped) (hident : task'.worker.ident = task.worker.ident)
      (htasks : t'.tasks = t.tasks.set k task')
      (hwrites : Writes task.worker.ident (t.stack.profile.faces Linked.link)
        (t'.stack.profile.faces Linked.link)) : TaskStep t k t'

theorem step_task {act : LinkAct σ} {k : Nat} (hact : act.task = some k) :
    TaskStep t k (t.step act) := by
  cases act with
  | register _ _ => cases hact
  | registerPending _ => cases hact
  | reassign _ _ => cases hact
  | deregister _ _ => cases hact
  | work k' act =>
    cases hact
    simp only [step]
    split
    · next w hk =>
      exact .acts _ _ hk nofun (w.step_ident t.stack act) rfl (w.step_writes t.stack act)
    · exact .idle
  | exit k' setsDown =>
    cases hact
    simp only [step]
    split
    · next w hk => exact .acts _ ⟨w, .exited⟩ hk nofun rfl rfl (setDownIf_writes setsDown w t.stack)
    · exact .idle
  | leave k' now =>
    cases hact
    simp only [step]
    split
    · next w hk => exact .acts _ ⟨w, .left⟩ hk nofun rfl rfl (Router.deregister_writes w.ident now)
    · exact .idle
  | drop k' setsDown =>
    cases hact
    simp only [step]
    split
    · exact .idle
    · exact .idle
    · next w phase hlive hk =>
      exact .acts _ ⟨w, .dropped⟩ hk hlive rfl rfl (setDownIf_writes setsDown w t.stack)

/-! ## Tasks that own their ident -/

/-- The slots that have the ident of a task that is still there are of its registration. -/
def Own (t : Links κ σ N S C) : Prop :=
  ∀ k task, t.tasks[k]? = some task → task.phase ≠ .dropped →
    ∀ s ∈ t.table, s.ident = task.worker.ident → s.port.sink = k

/-- A task that owns its ident touches nothing else. -/
theorem Own.touchesOwn (h : t.Own) (act : LinkAct σ) : t.TouchesOwn act := by
  intro k hact
  constructor
  · intro s hs hne
    have hstep := Links.step_task (t := t) hact
    generalize t.step act = t' at hstep
    cases hstep with
    | idle => exact hs
    | acts task task' hk hlive hident htasks hwrites =>
      refine hwrites.other hs fun hs' => hne ?_
      exact h k task hk hlive s hs hs'
  · rintro w frame clock rfl hk s hs hident
    exact h k _ hk nofun s hs hident

omit [SocketVTable κ] [InterfaceSink σ] in
/-- A step that brings in no slot and no task. -/
theorem Own.shrink {t' : Links κ σ N S C} (h : t.Own)
    (htasks : ∀ (k : Nat) (task' : LinkTask), t'.tasks[k]? = some task' → task'.phase ≠ .dropped →
      ∃ task : LinkTask, t.tasks[k]? = some task ∧ task.phase ≠ .dropped ∧
        task.worker.ident = task'.worker.ident)
    (htable : ∀ s ∈ t'.table, ∃ s' ∈ t.table, s'.ident = s.ident ∧ s'.port.sink = s.port.sink) :
    t'.Own := by
  intro k task' hk hlive s hs hident
  -- the task and the slot were there before, under the same ident
  obtain ⟨task, hk, hlive, htask⟩ := htasks k task' hk hlive
  obtain ⟨s', hs', hident', hsink⟩ := htable s hs
  rw [← hsink]
  exact h k task hk hlive s' hs' (hident'.trans (hident.trans htask.symm))

/-- A step of a task. -/
theorem Own.step_task (h : t.Own) {act : LinkAct σ} {k : Nat} (hact : act.task = some k) :
    (t.step act).Own := by
  have hstep := Links.step_task (t := t) hact
  generalize t.step act = t' at hstep
  cases hstep with
  | idle => exact h
  | acts task task' hk hlive hident htasks hwrites =>
    refine h.shrink ?_ fun s hs => hwrites.origin hs
    intro j taskj hj hlivej
    rw [htasks, List.getElem?_set] at hj
    split at hj
    · next hkj =>
      subst hkj
      split at hj
      · cases hj
        exact ⟨task, hk, hlive, hident.symm⟩
      · cases hj
    · exact ⟨taskj, hj, hlivej, rfl⟩

theorem Own.isolated (h : t.Own) : t.Isolated := by
  intro more hmore
  induction more generalizing t with
  | nil => trivial
  | cons act more ih =>
    obtain ⟨k, hact⟩ := Option.isSome_iff_exists.mp (hmore act List.mem_cons_self)
    exact ⟨h.touchesOwn act, ih (h.step_task hact) fun a ha => hmore a (List.mem_cons_of_mem _ ha)⟩

/-! ## Registrations -/

section Registered

omit [SocketVTable κ] [InterfaceSink σ]

theorem manage_table_of_slots {r : Router (Linked σ) N S C}
    (h : r.slots = t.stack.profile.slots) : (t.manage r).table = t.table := by
  show r.slots.toList.map (Slot.face Linked.link) = _
  rw [h]
  rfl

/-- What is registered: a slot with an ident that no slot has, of the next link. -/
structure Registered (t t' : Links κ σ N S C) (ident : UInt8) : Prop where
  fresh : ∀ s ∈ t.table, s.ident ≠ ident
  notUpstream : ident ≠ upstreamIdent
  table : ∃ slot : Slot Nat, slot.ident = ident ∧ slot.port.sink = t.tasks.length ∧
    t'.table = t.table ++ [slot]
  tasks : ∃ netId, t'.tasks = t.tasks ++ [⟨⟨ident, .router (.new netId)⟩, .running⟩]

theorem registered_spawn {r : Router (Linked σ) N S C} {ident : UInt8} {port : EdgePort (Linked σ)}
    {slotNet : UInt16} (netId : UInt16)
    (hfresh : ident ∉ t.stack.profile.slots.toList.map Slot.ident) (hup : ident ≠ upstreamIdent)
    (hlink : port.sink.link = t.tasks.length)
    (hslots : r.slots.toList = t.stack.profile.slots.toList ++ [⟨ident, port, slotNet⟩]) :
    t.Registered ((t.manage r).spawn ident netId) ident where
  fresh := by
    intro s hs hident
    obtain ⟨slot, hslot, rfl⟩ := List.mem_map.mp hs
    exact hfresh (hident ▸ List.mem_map_of_mem hslot)
  notUpstream := hup
  table := by
    refine ⟨Slot.face Linked.link ⟨ident, port, slotNet⟩, rfl, hlink, ?_⟩
    show r.slots.toList.map (Slot.face Linked.link) = _
    rw [hslots, List.map_append]
    rfl
  tasks := ⟨netId, rfl⟩

/-- A new slot is found by its ident, and is `Active`. -/
theorem registerInterface_state {r r' : Router (Linked σ) N S C} {sink : Linked σ} {now : Nat}
    {ident : UInt8} (h : r.registerInterface sink now = (.ok ident, r')) :
    ∃ netId, r'.interfaceState ident = some (.active netId centralNodeId) := by
  obtain ⟨netId, -, -, hfresh, hup, hslots, -⟩ := Router.registerInterface_ok h
  refine ⟨netId, ?_⟩
  have hnone : r.slots.toList.find? (fun s => s.ident = ident) = none := by
    rw [List.find?_eq_none]
    intro s hs hident
    exact hfresh (of_decide_eq_true hident ▸ List.mem_map_of_mem hs)
  rw [Router.interfaceState, if_neg hup, hslots, List.find?_append, hnone]
  simp [EdgePort.newController]

end Registered

/-- What a registration does, where it is given an ident and where it is not. -/
theorem step_register (sink : σ) (now : Nat) :
    (∃ ident netId,
      (t.stack.profile.registerRouter ⟨t.tasks.length, sink⟩ now).1 = some (ident, netId) ∧
        t.Registered (t.step (.register sink now)) ident) ∨
      (t.stack.profile.registerRouter ⟨t.tasks.length, sink⟩ now).1 = none ∧
        (t.step (.register sink now)).table = t.table ∧
        (t.step (.register sink now)).tasks = t.tasks := by
  rcases hres : t.stack.profile.registerInterface ⟨t.tasks.length, sink⟩ now with ⟨e | ident, r⟩
  · right
    have hrouter : t.stack.profile.registerRouter ⟨t.tasks.length, sink⟩ now = (none, r) := by
      rw [Router.registerRouter, hres]
    have hslots := (Router.registerInterface_error hres).slots
    simp only [step, hrouter]
    exact ⟨trivial, manage_table_of_slots hslots, rfl⟩
  · left
    -- a new slot is `Active`, so that the task is spawned with its net id
    obtain ⟨netId, hstate⟩ := registerInterface_state hres
    have hrouter : t.stack.profile.registerRouter ⟨t.tasks.length, sink⟩ now =
        (some (ident, netId), r) := by
      simp only [Router.registerRouter, hres, hstate]
    obtain ⟨slotNet, -, -, hfresh, hup, hslots, -⟩ := Router.registerInterface_ok hres
    refine ⟨ident, netId, by rw [hrouter], ?_⟩
    simp only [step, hrouter]
    exact registered_spawn netId hfresh hup rfl hslots

theorem step_registerPending (sink : σ) :
    (∃ ident, (t.stack.profile.registerInterfacePending ⟨t.tasks.length, sink⟩).1 = .ok ident ∧
        t.Registered (t.step (.registerPending sink)) ident) ∨
      (∃ e, (t.stack.profile.registerInterfacePending ⟨t.tasks.length, sink⟩).1 = .error e) ∧
        (t.step (.registerPending sink)).table = t.table ∧
        (t.step (.registerPending sink)).tasks = t.tasks := by
  rcases hres : t.stack.profile.registerInterfacePending ⟨t.tasks.length, sink⟩ with ⟨e | ident, r⟩
  · right
    have hsame := Router.registerInterfacePending_error hres
    simp only [step, hres]
    exact ⟨⟨e, rfl⟩, manage_table_of_slots (by rw [hsame]), rfl⟩
  · left
    obtain ⟨hfresh, hup, hslots, -⟩ := Router.registerInterfacePending_ok hres
    refine ⟨ident, rfl, ?_⟩
    simp only [step, hres]
    exact registered_spawn 0 hfresh hup rfl hslots

omit [SocketVTable κ] [InterfaceSink σ] in
/-- A registration whose ident no task holds. -/
theorem Own.registered {t' : Links κ σ N S C} {ident : UInt8} (h : t.Own)
    (hreg : t.Registered t' ident) (hheld : t.Unheld ident) : t'.Own := by
  obtain ⟨slot, hslot, hlink, htable⟩ := hreg.table
  obtain ⟨netId, htasks⟩ := hreg.tasks
  intro k task hk hlive s hs hident
  rw [htasks] at hk
  rw [htable] at hs
  by_cases hlt : k < t.tasks.length
  · -- a task from before
    rw [List.getElem?_append_left hlt] at hk
    rcases List.mem_append.mp hs with hs | hs
    · exact h k task hk hlive s hs hident
    · rw [List.mem_singleton.mp hs, hslot] at hident
      exact absurd hident.symm (hheld task (List.mem_of_getElem? hk) hlive)
  · -- the new one
    rw [List.getElem?_append_right (Nat.not_lt.mp hlt), List.getElem?_singleton] at hk
    split at hk
    · next hzero =>
      cases hk
      rcases List.mem_append.mp hs with hs | hs
      · exact absurd hident (hreg.fresh s hs)
      · rw [List.mem_singleton.mp hs, hlink]
        omega
    · cases hk

omit [SocketVTable κ] [InterfaceSink σ] in
/-- A write to the slot that was registered last. -/
theorem setState_registered {v : Faces Nat} {ident : UInt8} {slots : List (Slot Nat)}
    {slot : Slot Nat} (hfresh : ∀ s ∈ slots, s.ident ≠ ident) (hup : ident ≠ upstreamIdent)
    (hslot : slot.ident = ident) (hv : v.slots = slots ++ [slot]) (state : InterfaceState) :
    (v.setState ident state).slots = slots ++ [slot.setState state] := by
  simp only [Faces.setState, if_neg hup, hv]
  exact HeaplessVec.modifyFirstList_concat _ (fun s hs => decide_eq_false (hfresh s hs))
    (decide_eq_true hslot)

omit [SocketVTable κ] in
/-- The table after a write of a worker to the slot that was registered last. -/
theorem table_setState {t' : Links κ σ N S C} {w : RxWorker UInt8} {slots : List (Slot Nat)}
    {slot : Slot Nat} {state : InterfaceState} (hfresh : ∀ s ∈ slots, s.ident ≠ w.ident)
    (hup : w.ident ≠ upstreamIdent) (hslot : slot.ident = w.ident)
    (htable : t.table = slots ++ [slot]) (hstack : t'.stack = w.setState t.stack state) :
    t'.table = slots ++ [slot.setState state] := by
  have hset := t.stack.profile.faces_setInterfaceState Linked.link w.ident state
  rw [table, hstack]
  show ((t.stack.profile.setInterfaceState w.ident state).2.faces Linked.link).slots = _
  rw [hset]
  exact setState_registered hfresh hup hslot htable state

/-- A registration that is given the ident of a task that is still there: the new worker
may bring its interface up, and the old task then sets it down. -/
theorem Registered.not_isolated {t' : Links κ σ N S C} {ident : UInt8}
    (hreg : t.Registered t' ident) (hheld : ¬ t.Unheld ident) : ¬ t'.Isolated := by
  obtain ⟨slot, hslot, hlink, htable⟩ := hreg.table
  obtain ⟨netId, htasks⟩ := hreg.tasks
  simp only [Unheld, not_forall] at hheld
  obtain ⟨⟨w, phase⟩, hmem, hlive, hident⟩ := hheld
  have hident : w.ident = ident := not_not.mp hident
  subst hident
  obtain ⟨k, hlt, hk⟩ := List.getElem_of_mem hmem
  intro hiso
  obtain ⟨-, htouch, -⟩ := hiso
    [.work t.tasks.length (.run (.active 0 centralNodeId)), .drop k true] (by simp [LinkAct.task])
  -- the new worker has its interface
  have hnew : t'.tasks[t.tasks.length]? =
      some ⟨⟨w.ident, .router (.new netId)⟩, .running⟩ := by
    rw [htasks]
    exact List.getElem?_concat_length
  have hup : (t'.step (.work t.tasks.length (.run (.active 0 centralNodeId)))).table =
      t.table ++ [slot.setState (.active 0 centralNodeId)] := by
    refine table_setState (w := ⟨w.ident, .router (.new netId)⟩) hreg.fresh hreg.notUpstream hslot
      htable ?_
    simp only [step, hnew, RxWorker.step]
  have hold : (t'.step (.work t.tasks.length (.run (.active 0 centralNodeId)))).tasks[k]? =
      some ⟨w, phase⟩ := by
    simp only [step, hnew, RxWorker.step]
    rw [List.getElem?_set_ne (Nat.ne_of_gt hlt), htasks, List.getElem?_append_left hlt,
      List.getElem?_eq_getElem hlt, hk]
  generalize t'.step (.work t.tasks.length (.run (.active 0 centralNodeId))) = u at hup hold htouch
  -- the old task sets it down
  have hdown : (u.step (.drop k true)).table =
      t.table ++ [(slot.setState (.active 0 centralNodeId)).setState .down] := by
    refine table_setState hreg.fresh hreg.notUpstream hslot hup ?_
    cases phase with
    | running => simp only [step, hold, setDownIf, if_true]
    | exited => simp only [step, hold, setDownIf, if_true]
    | left => simp only [step, hold, setDownIf, if_true]
    | dropped => exact absurd rfl hlive
  have hkept := (htouch k rfl).1 (slot.setState (.active 0 centralNodeId))
    (hup ▸ List.mem_append_right _ List.mem_cons_self) ?_
  · rw [hdown] at hkept
    rcases List.mem_append.mp hkept with hmem | hmem
    · exact hreg.fresh _ hmem hslot
    · have hstate := congrArg (fun s => s.port.state) (List.mem_singleton.mp hmem)
      simp [Slot.setState, EdgePort.setState_state] at hstate
  · have hsink : (slot.setState (.active 0 centralNodeId)).port.sink = t.tasks.length :=
      (slot.port.setState_sink _).trans hlink
    rw [hsink]
    exact Nat.ne_of_gt hlt

/-! ## Runs -/

omit [SocketVTable κ] [InterfaceSink σ] in
/-- The steps of the program that are neither a task's nor a registration. -/
private theorem Own.same {t' : Links κ σ N S C} (h : t.Own) (htasks : t'.tasks = t.tasks)
    (htable : ∀ s ∈ t'.table, ∃ s' ∈ t.table, s'.ident = s.ident ∧ s'.port.sink = s.port.sink) :
    t'.Own := by
  refine h.shrink (fun k task hk hlive => ?_) htable
  rw [htasks] at hk
  exact ⟨task, hk, hlive, rfl⟩

theorem reassign_table (ident : UInt8) (newNetId : UInt16) :
    ∀ s ∈ (t.step (.reassign ident newNetId)).table,
      ∃ s' ∈ t.table, s'.ident = s.ident ∧ s'.port.sink = s.port.sink := by
  intro s hs
  obtain ⟨slot, hslot, rfl⟩ := List.mem_map.mp hs
  have hslot : slot ∈ (t.stack.profile.reassignInterfaceNetId ident newNetId).2.slots.toList := hslot
  have hsame : ∀ slot' ∈ t.stack.profile.slots.toList, slot'.ident = slot.ident →
      slot'.port.sink = slot.port.sink →
      ∃ s' ∈ t.table, s'.ident = slot.ident ∧ s'.port.sink = slot.port.sink.link := by
    intro slot' hslot' hident hsink
    exact ⟨slot'.face Linked.link, List.mem_map_of_mem hslot', hident, congrArg Linked.link hsink⟩
  rcases hres : t.stack.profile.reassignInterfaceNetId ident newNetId with ⟨e | _, r⟩
  · rw [hres, Router.reassignInterfaceNetId_error hres] at hslot
    exact hsame slot hslot rfl rfl
  · obtain ⟨old, before, after, -, -, -, -, -, hsplit, hslots, -⟩ :=
      Router.reassignInterfaceNetId_ok hres
    rw [hres, hslots] at hslot
    rcases List.mem_append.mp hslot with hslot | hslot
    · exact hsame slot (hsplit ▸ List.mem_append_left _ hslot) rfl rfl
    · rcases List.mem_cons.mp hslot with rfl | hslot
      · exact hsame old (hsplit ▸ List.mem_append_right _ List.mem_cons_self) rfl rfl
      · exact hsame slot (hsplit ▸ List.mem_append_right _ (List.mem_cons_of_mem _ hslot)) rfl rfl

/-- Fresh registrations keep the tasks in possession of their idents. -/
theorem own_step (h : t.Own) {act : LinkAct σ} (hfresh : t.RegistersFresh act) :
    (t.step act).Own := by
  cases act with
  | register sink now =>
    rcases step_register (t := t) sink now with ⟨ident, netId, hres, hreg⟩ | ⟨-, htable, htasks⟩
    · exact h.registered hreg (hfresh ident netId hres)
    · exact h.same htasks fun s hs => ⟨s, htable ▸ hs, rfl, rfl⟩
  | registerPending sink =>
    rcases step_registerPending (t := t) sink with ⟨ident, hres, hreg⟩ | ⟨-, htable, htasks⟩
    · exact h.registered hreg (hfresh ident hres)
    · exact h.same htasks fun s hs => ⟨s, htable ▸ hs, rfl, rfl⟩
  | reassign ident newNetId => exact h.same rfl (reassign_table ident newNetId)
  | deregister ident now =>
    exact h.same rfl fun s hs => (Router.deregister_writes ident now).origin hs
  | work k act => exact h.step_task rfl
  | exit k setsDown => exact h.step_task rfl
  | leave k now => exact h.step_task rfl
  | drop k setsDown => exact h.step_task rfl

/-- One step of the program, from a state where the tasks own their idents. -/
theorem isolated_step_iff (h : t.Own) (act : LinkAct σ) :
    (t.step act).Isolated ↔ t.RegistersFresh act := by
  constructor
  · intro hiso
    cases act with
    | register sink now =>
      intro ident netId hres
      rcases step_register (t := t) sink now with ⟨ident', netId', hres', hreg⟩ | ⟨hres', -⟩
      · cases hres.symm.trans hres'
        exact not_not.mp fun hheld => hreg.not_isolated hheld hiso
      · cases hres.symm.trans hres'
    | registerPending sink =>
      intro ident hres
      rcases step_registerPending (t := t) sink with ⟨ident', hres', hreg⟩ | ⟨⟨e, hres'⟩, -⟩
      · cases hres.symm.trans hres'
        exact not_not.mp fun hheld => hreg.not_isolated hheld hiso
      · cases hres.symm.trans hres'
    | reassign _ _ => trivial
    | deregister _ _ => trivial
    | work _ _ => trivial
    | exit _ _ => trivial
    | leave _ _ => trivial
    | drop _ _ => trivial
  · intro hfresh
    exact (own_step h hfresh).isolated

/-- The program before it registers anything: there are no tasks. -/
def boot (sockets : List (Socket κ)) (r : Router (Linked σ) N S C) : Links κ σ N S C :=
  ⟨[], ⟨sockets, r⟩⟩

/-- In every state of a run the tasks touch only their own registrations, whatever they
still do, exactly when no registration is given the ident of a task that is still there. -/
theorem isolated_run_iff (sockets : List (Socket κ)) (r : Router (Linked σ) N S C)
    (acts : List (LinkAct σ)) :
    Runs.Always step (fun t act => (t.step act).Isolated) (boot sockets r) acts ↔
      Runs.Always step RegistersFresh (boot sockets r) acts := by
  refine Runs.Always_iff (I := Own) (fun t act h => isolated_step_iff h act)
    (fun t act h hfresh => own_step h hfresh) ?_ acts
  intro k task hk
  cases hk

end Links

end Tasks

/-! ## A link that comes back -/

namespace Links

/-- A root router without links. -/
def demoRoot : Links OwnedSocket FrameQueue 4 0 0 :=
  boot [] (.new ⟨fun _ => 0, 0⟩ Router.four_slots)

/-- A link is registered and deregistered, and the next one is given its ident. -/
def demoReuse : List (LinkAct FrameQueue) :=
  [.register ⟨1000, 4, []⟩ 0, .deregister 0 0, .register ⟨1000, 4, []⟩ 0]

/-- The idents, registrations and states of a router. -/
def demoSlots (acts : List (LinkAct FrameQueue)) : List (UInt8 × Nat × InterfaceState) :=
  (Runs.runAll step demoRoot acts).table.map fun s => (s.ident, s.port.sink, s.port.state)

/-- The task of the first link sets the second one down when it is dropped, and removes it
when its worker returns. -/
theorem reused_ident :
    demoSlots demoReuse = [(0, 1, .active 1 1)] ∧
      demoSlots (demoReuse ++ [.drop 0 true]) = [(0, 1, .down)] ∧
      demoSlots (demoReuse ++ [.exit 0 true, .leave 0 0]) = [] ∧
      ¬ Runs.Always step (fun t act => (t.step act).Isolated) demoRoot demoReuse := by
  refine ⟨by decide, by decide, by decide, ?_⟩
  rintro ⟨-, -, hiso, -⟩
  obtain ⟨htouch, -⟩ := hiso [.drop 0 true] (by simp [LinkAct.task])
  have hkept := (htouch 0 rfl).1 _ List.mem_cons_self (by decide)
  revert hkept
  decide

end Links

end Ergot
