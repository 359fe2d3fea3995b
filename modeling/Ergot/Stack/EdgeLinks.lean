import Ergot.Stack.Faces
import Ergot.Transport.Watched
import Ergot.Lib.Runs

/-!
# Edges that are registered again

A transport registers itself with an edge device and spawns an RX task and a TX task
(`register_edge` in tokio_cobs_stream.rs, tokio_udp.rs and nusb.rs). It is refused unless the
interface is `Down`, and what ends a link sets the interface `Down`. The device has one interface
only, and remembers the closer of the link that was registered last, which `teardown` and the next
registration close.

- `EdgeLinks` is a device with the RX tasks of all the links that were registered, and
  `EdgeLinks.step` one step. Of a TX task there is what it does to the others: it closes the closer.
- `EdgeLinks.run_told`: every link but the last has been told to end, and so has the last one after
  `teardown`.
- `EdgeLinks.alone_run_iff`: the links that were registered before the last one have nothing more
  to do with the stack exactly if all registrations found that the RX tasks before them were gone,
  where no registration is made with the interface `Down`.
- `EdgeLinks.run_guarded`: without `teardown`, and if no registration comes between the return of an
  RX worker and its drop, the state of the interface tells a registration just that.
-/

namespace Ergot

/-! ## Links -/

/-- Where the RX task of a link is: the worker runs, it has returned, or the task has ended. -/
inductive EdgePhase
  | running | exited | dropped
deriving DecidableEq

/-- The RX task of a link, and whether the closer of the link is closed. -/
structure EdgeTask where
  worker : RxWorker Unit
  phase : EdgePhase
  closed : Bool

/-- An edge device with its links, in the order in which they were registered. `closer` is the
number of the link whose closer the device has. -/
structure EdgeLinks (κ σ : Type) where
  tasks : List EdgeTask
  closer : Option Nat
  stack : NetStack κ (DirectEdge σ)

/-- A step: somebody registers a link or tears the last one down; the RX task of a link is given a
frame or sees a silence; its closer is closed, by its TX task; its worker returns, which sets the
interface `Down` in some of the transports; or the task ends, which does in all of them. -/
inductive EdgeAct
  | register (processor : EdgeFrameProcessor) (initialState : InterfaceState)
  | teardown
  | feed (k : Nat) (data : List UInt8) (clock : FrameClock)
  | timeout (k : Nat)
  | close (k : Nat)
  | exit (k : Nat) (setsDown : Bool)
  | drop (k : Nat)

/-- The link whose step it is. -/
def EdgeAct.link : EdgeAct → Option Nat
  | .register _ _ | .teardown => none
  | .feed k _ _ | .timeout k | .close k | .exit k _ | .drop k => some k

/-- A frame that was read. -/
def RxWorker.feed {κ P ι : Type} [Profile P ι] [SocketVTable κ] (w : RxWorker ι)
    (st : NetStack κ P) (data : List UInt8) (clock : FrameClock) : RxWorker ι × NetStack κ P :=
  let (_, processor, st) := w.processor.processBytes data st w.ident clock
  ({ w with processor }, st)

namespace EdgeLinks

variable {κ σ : Type}

/-- A device without links. -/
def boot (sockets : List (Socket κ)) (edge : DirectEdge σ) : EdgeLinks κ σ :=
  ⟨[], none, ⟨sockets, edge⟩⟩

/-- The state of the interface. -/
def state (t : EdgeLinks κ σ) : InterfaceState := t.stack.profile.port.state

/-- The closer of a link is closed. -/
def close (t : EdgeLinks κ σ) (k : Nat) : EdgeLinks κ σ :=
  match t.tasks[k]? with
  | some task => { t with tasks := t.tasks.set k { task with closed := true } }
  | none => t

/-- The closer that the device has is taken out and closed. -/
def takeCloser (t : EdgeLinks κ σ) : EdgeLinks κ σ :=
  match t.closer with
  | some k => { t.close k with closer := none }
  | none => t

variable [InterfaceSink σ]

/-- `DirectEdge::teardown`. -/
def teardown (t : EdgeLinks κ σ) : EdgeLinks κ σ :=
  let t := t.takeCloser
  { t with
    stack := { t.stack with profile := (Profile.setInterfaceState t.stack.profile () .down).2 } }

/-- `register_edge`, and whether it succeeds. -/
def registerEdge (t : EdgeLinks κ σ) (processor : EdgeFrameProcessor)
    (initialState : InterfaceState) : Bool × EdgeLinks κ σ :=
  match Profile.interfaceState t.stack.profile () with
  | some .down | none =>
    -- `set_closer`, which is not undone if the state is refused
    let s := { t.takeCloser with closer := some t.tasks.length }
    match Profile.setInterfaceState s.stack.profile () initialState with
    | (.error _, profile) => (false, { s with stack := { s.stack with profile } })
    | (.ok _, profile) =>
      let task := { worker := ⟨(), .edge processor⟩, phase := .running, closed := false }
      (true, { s with tasks := s.tasks ++ [task], stack := { s.stack with profile } })
  | some _ => (false, t)

/-- The worker of a link does something, as long as it runs. -/
def work (t : EdgeLinks κ σ) (k : Nat)
    (f : RxWorker Unit → RxWorker Unit × NetStack κ (DirectEdge σ)) : EdgeLinks κ σ :=
  match t.tasks[k]? with
  | some ⟨w, .running, closed⟩ =>
    let (w, stack) := f w
    { t with tasks := t.tasks.set k ⟨w, .running, closed⟩, stack }
  | _ => t

variable [SocketVTable κ]

/-- One step. -/
def step (t : EdgeLinks κ σ) : EdgeAct → EdgeLinks κ σ
  | .register processor initialState => (t.registerEdge processor initialState).2
  | .teardown => t.teardown
  | .feed k data clock => t.work k fun w => w.feed t.stack data clock
  | .timeout k => t.work k fun w => w.step t.stack (.livenessTimeout false)
  | .close k => t.close k
  | .exit k setsDown =>
    match t.tasks[k]? with
    | some ⟨w, .running, _⟩ =>
      { t with
        tasks := t.tasks.set k ⟨w, .exited, true⟩
        stack := if setsDown then w.setState t.stack .down else t.stack }
    | _ => t
  | .drop k =>
    match t.tasks[k]? with
    | some ⟨w, .exited, closed⟩ =>
      { t with tasks := t.tasks.set k ⟨w, .dropped, closed⟩, stack := w.setState t.stack .down }
    | _ => t

/-! ## What a step can do -/

omit [InterfaceSink σ] [SocketVTable κ] in
@[simp] theorem close_length (t : EdgeLinks κ σ) (k : Nat) :
    (t.close k).tasks.length = t.tasks.length := by
  unfold close
  split
  · exact List.length_set
  · rfl

omit [InterfaceSink σ] [SocketVTable κ] in
@[simp] theorem close_stack (t : EdgeLinks κ σ) (k : Nat) : (t.close k).stack = t.stack := by
  unfold close
  split <;> rfl

omit [InterfaceSink σ] [SocketVTable κ] in
/-- A closer is closed, and no task is anywhere else. -/
theorem close_task {t : EdgeLinks κ σ} {k j : Nat} {task : EdgeTask}
    (h : (t.close k).tasks[j]? = some task) :
    ∃ old, t.tasks[j]? = some old ∧ old.phase = task.phase ∧
      (task.closed = false → old.closed = false ∧ j ≠ k) := by
  unfold close at h
  split at h
  · next old hold =>
    rw [List.getElem?_set] at h
    split at h
    · next hkj =>
      subst hkj
      split at h
      · cases h
        exact ⟨old, hold, rfl, nofun⟩
      · cases h
    · next hne => exact ⟨task, h, rfl, fun hclosed => ⟨hclosed, fun hjk => hne hjk.symm⟩⟩
  · next hnone =>
    refine ⟨task, h, rfl, fun hclosed => ⟨hclosed, ?_⟩⟩
    rintro rfl
    rw [hnone] at h
    cases h

omit [InterfaceSink σ] [SocketVTable κ] in
@[simp] theorem takeCloser_length (t : EdgeLinks κ σ) :
    t.takeCloser.tasks.length = t.tasks.length := by
  unfold takeCloser
  split
  · exact close_length t _
  · rfl

omit [InterfaceSink σ] [SocketVTable κ] in
@[simp] theorem takeCloser_stack (t : EdgeLinks κ σ) : t.takeCloser.stack = t.stack := by
  unfold takeCloser
  split
  · exact close_stack t _
  · rfl

omit [InterfaceSink σ] [SocketVTable κ] in
theorem takeCloser_task {t : EdgeLinks κ σ} {j : Nat} {task : EdgeTask}
    (h : t.takeCloser.tasks[j]? = some task) :
    ∃ old, t.tasks[j]? = some old ∧ old.phase = task.phase ∧
      (task.closed = false → old.closed = false ∧ t.closer ≠ some j) := by
  unfold takeCloser at h
  split at h
  · next k hk =>
    obtain ⟨old, hold, hphase, hclosed⟩ := close_task h
    refine ⟨old, hold, hphase, fun hopen => ⟨(hclosed hopen).1, ?_⟩⟩
    rw [hk]
    rintro ⟨⟩
    exact (hclosed hopen).2 rfl
  · next hnone =>
    refine ⟨task, h, rfl, fun hopen => ⟨hopen, ?_⟩⟩
    rw [hnone]
    exact nofun

/-- What a registration does, where it succeeds and where it does not. -/
inductive Registers (t : EdgeLinks κ σ) (initialState : InterfaceState) :
    Bool × EdgeLinks κ σ → Prop
  | refused (hstate : t.state ≠ .down) : Registers t initialState (false, t)
  | invalid {t' : EdgeLinks κ σ} (hstate : t.state = .down) (hinvalid : ¬ initialState.Valid)
      (hstate' : t'.state = .down) (htasks : t'.tasks = t.takeCloser.tasks)
      (hcloser : t'.closer = some t.tasks.length) : Registers t initialState (false, t')
  | registered {t' : EdgeLinks κ σ} (processor : EdgeFrameProcessor) (hstate : t.state = .down)
      (hvalid : initialState.Valid) (hstate' : t'.state = initialState)
      (htasks : t'.tasks = t.takeCloser.tasks ++ [⟨⟨(), .edge processor⟩, .running, false⟩])
      (hcloser : t'.closer = some t.tasks.length) : Registers t initialState (true, t')

omit [SocketVTable κ] in
theorem registerEdge_registers (t : EdgeLinks κ σ) (processor : EdgeFrameProcessor)
    (initialState : InterfaceState) :
    t.Registers initialState (t.registerEdge processor initialState) := by
  have hset : ∀ profile : DirectEdge σ,
      ((Profile.setInterfaceState profile () initialState).1 = .ok () ↔ initialState.Valid) ∧
        (Profile.setInterfaceState profile () initialState).2.port.state =
          if initialState.Valid then initialState else profile.port.state :=
    fun profile => ⟨profile.port.setState_ok initialState, profile.port.setState_state initialState⟩
  have hcurrent : Profile.interfaceState t.stack.profile () = some t.state := rfl
  unfold registerEdge
  rw [hcurrent]
  cases hstate : t.state with
  | down =>
    simp only [takeCloser_stack]
    obtain ⟨hok, hstate'⟩ := hset t.stack.profile
    split
    · next e profile hres =>
      rw [hres] at hok hstate'
      have hinvalid : ¬ initialState.Valid := fun hvalid => nomatch hok.mpr hvalid
      rw [if_neg hinvalid] at hstate'
      exact .invalid hstate hinvalid (hstate'.trans hstate) rfl rfl
    · next profile hres =>
      rw [hres] at hok hstate'
      have hvalid := hok.mp rfl
      rw [if_pos hvalid] at hstate'
      exact .registered processor hstate hvalid hstate' rfl rfl
  | inactive => exact .refused (by rw [hstate]; exact nofun)
  | activeLocal nodeId => exact .refused (by rw [hstate]; exact nofun)
  | active netId nodeId => exact .refused (by rw [hstate]; exact nofun)

/-- What a step of a link does. -/
inductive LinkStep (t : EdgeLinks κ σ) (k : Nat) : EdgeLinks κ σ → Prop
  | idle : LinkStep t k t
  | closed : LinkStep t k (t.close k)
  | works {w : RxWorker Unit} {closed : Bool} (hk : t.tasks[k]? = some ⟨w, .running, closed⟩)
      (w' : RxWorker Unit) (stack : NetStack κ (DirectEdge σ))
      (hstate : t.state ≠ .down → stack.profile.port.state ≠ .down) :
      LinkStep t k { t with tasks := t.tasks.set k ⟨w', .running, closed⟩, stack }
  | exits {w : RxWorker Unit} {closed : Bool} (hk : t.tasks[k]? = some ⟨w, .running, closed⟩)
      (stack : NetStack κ (DirectEdge σ)) :
      LinkStep t k { t with tasks := t.tasks.set k ⟨w, .exited, true⟩, stack }
  | ends {w : RxWorker Unit} {closed : Bool} (hk : t.tasks[k]? = some ⟨w, .exited, closed⟩) :
      LinkStep t k
        { t with tasks := t.tasks.set k ⟨w, .dropped, closed⟩, stack := w.setState t.stack .down }

omit [SocketVTable κ] in
/-- A worker that runs does not set the interface `Down`. -/
theorem work_linkStep {t : EdgeLinks κ σ} {k : Nat}
    {f : RxWorker Unit → RxWorker Unit × NetStack κ (DirectEdge σ)}
    (hstate : ∀ w, t.state ≠ .down → (f w).2.profile.port.state ≠ .down) :
    t.LinkStep k (t.work k f) := by
  unfold work
  split
  · next w closed hk => exact .works hk (f w).1 (f w).2 (hstate w)
  · exact .idle

theorem feed_state (w : RxWorker Unit) (st : NetStack κ (DirectEdge σ)) (data : List UInt8)
    (clock : FrameClock) (h : st.profile.port.state ≠ .down) :
    (w.feed st data clock).2.profile.port.state ≠ .down := by
  have hup := w.processor.processBytes_up data st w.ident clock
  rcases hup with hsame | ⟨netId, nodeId, hactive⟩
  · have hport : (w.feed st data clock).2.profile.port.state = st.profile.port.state :=
      Option.some.inj hsame
    rwa [hport]
  · have hport : (w.feed st data clock).2.profile.port.state = .active netId nodeId :=
      Option.some.inj hactive
    rw [hport]
    exact nofun

omit [SocketVTable κ] in
theorem timeout_state (w : RxWorker Unit) (st : NetStack κ (DirectEdge σ))
    (h : st.profile.port.state ≠ .down) :
    (w.timeout st .inactive).profile.port.state ≠ .down := by
  unfold RxWorker.timeout
  split
  · split
    · exact nofun
    · exact h
  · exact h

theorem step_linkStep {t : EdgeLinks κ σ} {act : EdgeAct} {k : Nat} (hact : act.link = some k) :
    t.LinkStep k (t.step act) := by
  cases act with
  | register _ _ => cases hact
  | teardown => cases hact
  | feed k' data clock =>
    cases hact
    exact work_linkStep fun w => feed_state w t.stack data clock
  | timeout k' =>
    cases hact
    show LinkStep t _ (t.work _ fun w => w.step t.stack (.livenessTimeout false))
    exact work_linkStep fun w => timeout_state w t.stack
  | close k' =>
    cases hact
    exact .closed
  | exit k' setsDown =>
    cases hact
    simp only [step]
    split
    · next w closed hk => exact .exits hk _
    · exact .idle
  | drop k' =>
    cases hact
    simp only [step]
    split
    · next w closed hk => exact .ends hk
    · exact .idle

omit [SocketVTable κ] in
/-- A step of a link moves its own task only, on from where it was. -/
theorem LinkStep.task {t t' : EdgeLinks κ σ} {k : Nat} (h : t.LinkStep k t') :
    t'.tasks.length = t.tasks.length ∧ t'.closer = t.closer ∧
      ∀ (j : Nat) (task : EdgeTask), t'.tasks[j]? = some task →
        ∃ old, t.tasks[j]? = some old ∧ (old.phase = .dropped → task.phase = .dropped) ∧
          (task.phase = .running → old.phase = .running) ∧
          (j ≠ k → task.phase = old.phase) ∧ (task.closed = false → old.closed = false) := by
  -- a task that takes the place of an old one
  have hset : ∀ (old new : EdgeTask), t.tasks[k]? = some old → old.phase ≠ .dropped →
      (new.phase = .running → old.phase = .running) →
      (new.closed = false → old.closed = false) →
      ∀ (j : Nat) (task : EdgeTask), (t.tasks.set k new)[j]? = some task →
        ∃ old, t.tasks[j]? = some old ∧ (old.phase = .dropped → task.phase = .dropped) ∧
          (task.phase = .running → old.phase = .running) ∧
          (j ≠ k → task.phase = old.phase) ∧ (task.closed = false → old.closed = false) := by
    intro old new hk hlive hrunning hclosed j task hj
    rw [List.getElem?_set] at hj
    split at hj
    · next hkj =>
      subst hkj
      split at hj
      · cases hj
        exact ⟨old, hk, fun h => absurd h hlive, hrunning, fun h => absurd rfl h, hclosed⟩
      · cases hj
    · exact ⟨task, hj, id, id, fun _ => rfl, id⟩
  cases h with
  | idle => exact ⟨rfl, rfl, fun j task hj => ⟨task, hj, id, id, fun _ => rfl, id⟩⟩
  | closed =>
    refine ⟨close_length t k, ?_, fun j task hj => ?_⟩
    · unfold close
      split <;> rfl
    · obtain ⟨old, hold, hphase, hclosed⟩ := close_task hj
      exact ⟨old, hold, fun h => hphase ▸ h, fun h => hphase ▸ h, fun _ => hphase.symm,
        fun h => (hclosed h).1⟩
  | works hk w' stack hstate =>
    exact ⟨List.length_set, rfl, hset _ _ hk (by exact nofun) id id⟩
  | exits hk stack => exact ⟨List.length_set, rfl, hset _ _ hk (by exact nofun) nofun nofun⟩
  | ends hk => exact ⟨List.length_set, rfl, hset _ _ hk (by exact nofun) nofun id⟩

/-! ## Who is told to end -/

/-- A worker that runs has been told to end, or is of the last link, whose closer the device
has. -/
def Told (t : EdgeLinks κ σ) : Prop :=
  ∀ (k : Nat) (task : EdgeTask), t.tasks[k]? = some task → task.phase = .running →
    task.closed = false → k + 1 = t.tasks.length ∧ t.closer = some k

omit [InterfaceSink σ] [SocketVTable κ] in
/-- Once the closer of the device is closed, there is no link that has not been told. -/
theorem Told.takeCloser {t : EdgeLinks κ σ} (h : t.Told) {j : Nat} {task : EdgeTask}
    (hj : t.takeCloser.tasks[j]? = some task) (hrunning : task.phase = .running) :
    task.closed = true := by
  obtain ⟨old, hold, hphase, hclosed⟩ := takeCloser_task hj
  cases hopen : task.closed with
  | true => rfl
  | false =>
    obtain ⟨hopen, hne⟩ := hclosed hopen
    exact absurd (h j old hold (hphase.trans hrunning) hopen).2 hne

theorem Told.step {t : EdgeLinks κ σ} (h : t.Told) (act : EdgeAct) : (t.step act).Told := by
  have hlink : ∀ k, act.link = some k → (t.step act).Told := by
    intro k hact j task hj hrunning hopen
    obtain ⟨hlength, hcloser, htask⟩ := (step_linkStep (t := t) hact).task
    obtain ⟨old, hold, -, hrun, -, hclosed⟩ := htask j task hj
    rw [hlength, hcloser]
    exact h j old hold (hrun hrunning) (hclosed hopen)
  cases act with
  | register processor initialState =>
    have hreg := t.registerEdge_registers processor initialState
    show (t.registerEdge processor initialState).2.Told
    generalize t.registerEdge processor initialState = res at hreg
    cases hreg with
    | refused hstate => exact h
    | invalid hstate hinvalid hstate' htasks hcloser =>
      intro j task hj hrunning hopen
      rw [htasks] at hj
      rw [h.takeCloser hj hrunning] at hopen
      cases hopen
    | registered processor hstate hvalid hstate' htasks hcloser =>
      intro j task hj hrunning hopen
      rw [htasks, List.getElem?_append] at hj
      split at hj
      · rw [h.takeCloser hj hrunning] at hopen
        cases hopen
      · next hlast =>
        obtain ⟨hlt, -⟩ := List.getElem?_eq_some_iff.mp hj
        rw [takeCloser_length, List.length_singleton] at hlt
        rw [takeCloser_length] at hlast
        have hjlen : j = t.tasks.length := by omega
        rw [htasks, hcloser, List.length_append, takeCloser_length, List.length_singleton, hjlen]
        exact ⟨rfl, rfl⟩
  | teardown =>
    intro j task hj hrunning hopen
    rw [h.takeCloser hj hrunning] at hopen
    cases hopen
  | feed k data clock => exact hlink k rfl
  | timeout k => exact hlink k rfl
  | close k => exact hlink k rfl
  | exit k setsDown => exact hlink k rfl
  | drop k => exact hlink k rfl

/-- Who is told to end, in every state that is reached: every link but the last that was
registered; and if the device is torn down, the last one, too. -/
theorem run_told (sockets : List (Socket κ)) (edge : DirectEdge σ) (acts : List EdgeAct) :
    let t := Runs.runAll step (boot sockets edge) acts
    (∀ (k : Nat) (task : EdgeTask), t.tasks[k]? = some task → task.phase = .running →
        k + 1 < t.tasks.length → task.closed = true) ∧
      ∀ task ∈ t.teardown.tasks, task.phase = .running → task.closed = true := by
  have hboot : (boot sockets edge).Told := by
    intro k task hk
    cases hk
  have h : (Runs.runAll step (boot sockets edge) acts).Told :=
    Runs.runAll_inv (I := fun t : EdgeLinks κ σ => t.Told) (fun t act h => h.step act) hboot acts
  refine ⟨fun k task hk hrunning hlt => ?_, fun task hmem hrunning => ?_⟩
  · cases hopen : task.closed with
    | true => rfl
    | false =>
      have hlast := (h k task hk hrunning hopen).1
      omega
  · obtain ⟨j, hj⟩ := List.getElem?_of_mem hmem
    exact h.takeCloser hj hrunning

/-! ## Links that are alone -/

/-- A step of a link that is not the last does nothing to the stack. -/
def LeavesStack (t : EdgeLinks κ σ) (act : EdgeAct) : Prop :=
  ∀ k, act.link = some k → k + 1 < t.tasks.length → (t.step act).stack = t.stack

/-- Whatever the links still do, those that are not the last do nothing to the stack. -/
def Alone (t : EdgeLinks κ σ) : Prop :=
  ∀ more : List EdgeAct, (∀ act ∈ more, act.link.isSome) → Runs.Always step LeavesStack t more

/-- A registration that succeeds finds that the tasks of all links have ended. -/
def RegistersFresh (t : EdgeLinks κ σ) : EdgeAct → Prop
  | .register processor initialState => (t.registerEdge processor initialState).1 = true →
    ∀ task ∈ t.tasks, task.phase = .dropped
  | .teardown | .feed _ _ _ | .timeout _ | .close _ | .exit _ _ | .drop _ => True

/-- A registration brings the interface up. -/
def BringsUp : EdgeAct → Prop
  | .register _ initialState => initialState ≠ .down
  | .teardown | .feed _ _ _ | .timeout _ | .close _ | .exit _ _ | .drop _ => True

/-- The tasks of all links but the last have ended. -/
def Past (t : EdgeLinks κ σ) : Prop :=
  ∀ (k : Nat) (task : EdgeTask), t.tasks[k]? = some task → k + 1 < t.tasks.length →
    task.phase = .dropped

omit [SocketVTable κ] in
theorem Past.linkStep {t t' : EdgeLinks κ σ} {k : Nat} (h : t.Past) (hstep : t.LinkStep k t') :
    t'.Past := by
  obtain ⟨hlength, -, htask⟩ := hstep.task
  intro j task hj hlt
  obtain ⟨old, hold, hdropped, -⟩ := htask j task hj
  exact hdropped (h j old hold (hlength ▸ hlt))

/-- The tasks that have ended do nothing. -/
theorem Past.leavesStack {t : EdgeLinks κ σ} (h : t.Past) (act : EdgeAct) : t.LeavesStack act := by
  intro k hact hlt
  have hstep := step_linkStep (t := t) hact
  generalize t.step act = t' at hstep
  cases hstep with
  | idle => rfl
  | closed => exact close_stack t k
  | works hk w' stack hstate => exact nomatch h k _ hk hlt
  | exits hk stack => exact nomatch h k _ hk hlt
  | ends hk => exact nomatch h k _ hk hlt

theorem Past.alone {t : EdgeLinks κ σ} (h : t.Past) : t.Alone := by
  intro more hmore
  induction more generalizing t with
  | nil => trivial
  | cons act more ih =>
    obtain ⟨k, hact⟩ := Option.isSome_iff_exists.mp (hmore act List.mem_cons_self)
    have hrest : ∀ a ∈ more, a.link.isSome := fun a ha => hmore a (List.mem_cons_of_mem _ ha)
    exact ⟨h.leavesStack act, ih (h.linkStep (step_linkStep hact)) hrest⟩

omit [InterfaceSink σ] [SocketVTable κ] in
/-- After a registration, the last link is the new one. -/
theorem Past.register {t t' : EdgeLinks κ σ} {initialState : InterfaceState} {ok : Bool}
    (h : t.Past) (hreg : t.Registers initialState (ok, t'))
    (hfresh : ok = true → ∀ task ∈ t.tasks, task.phase = .dropped) : t'.Past := by
  cases hreg with
  | refused hstate => exact h
  | invalid hstate hinvalid hstate' htasks hcloser =>
    intro j task hj hlt
    rw [htasks] at hj hlt
    rw [takeCloser_length] at hlt
    obtain ⟨old, hold, hphase, -⟩ := takeCloser_task hj
    exact hphase ▸ h j old hold hlt
  | registered processor hstate hvalid hstate' htasks hcloser =>
    intro j task hj hlt
    rw [htasks, List.length_append, List.length_singleton, Nat.add_lt_add_iff_right] at hlt
    rw [htasks, List.getElem?_append_left hlt] at hj
    obtain ⟨old, hold, hphase, -⟩ := takeCloser_task hj
    exact hphase ▸ hfresh rfl old (List.mem_of_getElem? hold)

theorem Past.step {t : EdgeLinks κ σ} (h : t.Past) {act : EdgeAct}
    (hfresh : t.RegistersFresh act) : (t.step act).Past := by
  cases act with
  | register processor initialState =>
    exact h.register (t.registerEdge_registers processor initialState) hfresh
  | teardown =>
    intro j task hj hlt
    obtain ⟨old, hold, hphase, -⟩ := takeCloser_task hj
    have hlt : j + 1 < t.takeCloser.tasks.length := hlt
    rw [takeCloser_length] at hlt
    exact hphase ▸ h j old hold hlt
  | feed k data clock => exact h.linkStep (step_linkStep rfl)
  | timeout k => exact h.linkStep (step_linkStep rfl)
  | close k => exact h.linkStep (step_linkStep rfl)
  | exit k setsDown => exact h.linkStep (step_linkStep rfl)
  | drop k => exact h.linkStep (step_linkStep rfl)

/-- The task of a link can still end, and sets the interface `Down` when it does. -/
theorem ends_down {t : EdgeLinks κ σ} {k : Nat} {task : EdgeTask} (hk : t.tasks[k]? = some task)
    (hlive : task.phase ≠ .dropped) (hlt : k + 1 < t.tasks.length) (h : t.Alone) :
    t.state = .down := by
  -- of a worker that has returned
  have hexited : ∀ (t : EdgeLinks κ σ) (w : RxWorker Unit) (closed : Bool),
      t.tasks[k]? = some ⟨w, .exited, closed⟩ → k + 1 < t.tasks.length → t.LeavesStack (.drop k) →
        t.state = .down := by
    intro t w closed hk hlt hleaves
    have hsame := hleaves k rfl hlt
    simp only [step, hk] at hsame
    show t.stack.profile.port.state = .down
    rw [← hsame]
    rfl
  obtain ⟨w, phase, closed⟩ := task
  cases phase with
  | running =>
    obtain ⟨-, hdrop, -⟩ := h [.exit k false, .drop k] (by simp [EdgeAct.link])
    let s : EdgeLinks κ σ := { t with tasks := t.tasks.set k ⟨w, .exited, true⟩ }
    have hstep : t.step (.exit k false) = s := by
      simp only [step, hk]
      rfl
    have hks : s.tasks[k]? = some ⟨w, .exited, true⟩ :=
      List.getElem?_set_self (Nat.lt_of_succ_lt hlt)
    have hlts : k + 1 < s.tasks.length := hlt.trans_eq List.length_set.symm
    rw [hstep] at hdrop
    exact hexited s w true hks hlts hdrop
  | exited =>
    obtain ⟨hdrop, -⟩ := h [.drop k] (by simp [EdgeAct.link])
    exact hexited t w closed hk hlt hdrop
  | dropped => exact absurd rfl hlive

theorem alone_step_iff {t : EdgeLinks κ σ} (h : t.Past) {act : EdgeAct} (hup : BringsUp act) :
    (t.step act).Alone ↔ t.RegistersFresh act := by
  constructor
  · intro halone
    cases act with
    | register processor initialState =>
      intro hok task hmem
      have hreg := t.registerEdge_registers processor initialState
      have halone : (t.registerEdge processor initialState).2.Alone := halone
      generalize t.registerEdge processor initialState = res at hreg hok halone
      cases hreg with
      | refused hstate => cases hok
      | invalid hstate hinvalid hstate' htasks hcloser => cases hok
      | @registered t' processor hstate hvalid hstate' htasks hcloser =>
        by_contra hlive
        obtain ⟨k, hk⟩ := List.getElem?_of_mem hmem
        obtain ⟨hlt, -⟩ := List.getElem?_eq_some_iff.mp hk
        have hlen : k < t.takeCloser.tasks.length := by rwa [takeCloser_length]
        -- the task is there after the registration, and so is the new state
        have hk' : t'.tasks[k]? = some t.takeCloser.tasks[k] := by
          rw [htasks, List.getElem?_append_left hlen, List.getElem?_eq_getElem hlen]
        obtain ⟨old, hold, hphase, -⟩ := takeCloser_task (List.getElem?_eq_getElem hlen)
        rw [hk] at hold
        cases hold
        have hlt' : k + 1 < t'.tasks.length := by
          rw [htasks, List.length_append, takeCloser_length, List.length_singleton]
          omega
        have hdown := ends_down hk' (fun hdropped => hlive (hphase.trans hdropped)) hlt' halone
        exact hup (hstate'.symm.trans hdown)
    | teardown => trivial
    | feed _ _ _ => trivial
    | timeout _ => trivial
    | close _ => trivial
    | exit _ _ => trivial
    | drop _ => trivial
  · intro hfresh
    exact (h.step hfresh).alone

/-- In every state of a run whose registrations all bring the interface up, the links but the last
do nothing more to the stack, whatever they do, exactly when all registrations find that the RX
tasks before them have ended. -/
theorem alone_run_iff (sockets : List (Socket κ)) (edge : DirectEdge σ) (acts : List EdgeAct)
    (hup : ∀ act ∈ acts, BringsUp act) :
    Runs.Always step (fun t act => (t.step act).Alone) (boot sockets edge) acts ↔
      Runs.Always step RegistersFresh (boot sockets edge) acts := by
  refine Runs.Always_iff_of_forall (I := Past) (G := BringsUp)
    (fun t act hup h => alone_step_iff h hup) (fun t act _ h hfresh => h.step hfresh) ?_ hup
  intro k task hk
  cases hk

def demoDevice : EdgeLinks OwnedSocket FrameQueue := boot [] (.newTarget ⟨1000, 4, []⟩)

/-- A link is registered, torn down, and registered again. -/
def demoTorn : List EdgeAct :=
  [.register .new .edgeLinkLocal, .teardown, .register .new .edgeLinkLocal]

/-- The first worker may still be running then. -/
theorem alone_run_iff_demo :
    ¬ Runs.Always step (fun t act => (t.step act).Alone) demoDevice demoTorn := by
  intro halone
  have hup : ∀ act ∈ demoTorn, BringsUp act := by
    simp [demoTorn, BringsUp, InterfaceState.edgeLinkLocal]
  obtain ⟨-, -, hfresh, -⟩ := (alone_run_iff [] _ demoTorn hup).mp halone
  cases hfresh (by decide) _ List.mem_cons_self

-- It sets the second link `Down` when it sees that it is to end.
example : (Runs.runAll step demoDevice demoTorn).state = .edgeLinkLocal ∧
    (Runs.runAll step demoDevice (demoTorn ++ [.exit 0 true])).state = .down := by
  decide

/-! ## What the guard is good for -/

/-- Nobody tears the device down, no registration leaves the interface `Down`, and none comes when
an RX worker has returned and its task has not ended. -/
def Orderly (t : EdgeLinks κ σ) : EdgeAct → Prop
  | .register _ initialState => initialState ≠ .down ∧ ∀ task ∈ t.tasks, task.phase ≠ .exited
  | .teardown => False
  | .feed _ _ _ | .timeout _ | .close _ | .exit _ _ | .drop _ => True

instance Orderly.decidable (t : EdgeLinks κ σ) : (act : EdgeAct) → Decidable (t.Orderly act)
  | .register _ initialState =>
    inferInstanceAs (Decidable (initialState ≠ .down ∧ ∀ task ∈ t.tasks, task.phase ≠ .exited))
  | .teardown => inferInstanceAs (Decidable False)
  | .feed _ _ _ | .timeout _ | .close _ | .exit _ _ | .drop _ => inferInstanceAs (Decidable True)

/-- The state of the interface says whether there is a link. -/
structure Guarded (t : EdgeLinks κ σ) : Prop where
  past : t.Past
  running : ∀ task ∈ t.tasks, task.phase = .running → t.state ≠ .down
  dropped : (∀ task ∈ t.tasks, task.phase = .dropped) → t.state = .down

omit [InterfaceSink σ] [SocketVTable κ] in
/-- A registration that is not refused finds no task, if none has returned without having ended. -/
theorem Guarded.all_dropped {t : EdgeLinks κ σ} (h : t.Guarded) (hstate : t.state = .down)
    (hexited : ∀ task ∈ t.tasks, task.phase ≠ .exited) :
    ∀ task ∈ t.tasks, task.phase = .dropped := by
  intro task hmem
  cases hphase : task.phase with
  | running => exact absurd hstate (h.running task hmem hphase)
  | exited => exact absurd hphase (hexited task hmem)
  | dropped => rfl

omit [SocketVTable κ] in
theorem Guarded.linkStep {t t' : EdgeLinks κ σ} {k : Nat} (h : t.Guarded)
    (hstep : t.LinkStep k t') : t'.Guarded := by
  have hpast := h.past.linkStep hstep
  -- the task that takes a step is the last, and there is no other
  have hothers : ∀ (old new : EdgeTask), t.tasks[k]? = some old → old.phase ≠ .dropped →
      ∀ task ∈ t.tasks.set k new, task.phase = .dropped ∨ task = new := by
    intro old new hk hlive task hmem
    obtain ⟨j, hj⟩ := List.getElem?_of_mem hmem
    rw [List.getElem?_set] at hj
    split at hj
    · split at hj
      · exact .inr (Option.some.inj hj).symm
      · cases hj
    · next hkj =>
      obtain ⟨hjlt, -⟩ := List.getElem?_eq_some_iff.mp hj
      obtain ⟨hklt, -⟩ := List.getElem?_eq_some_iff.mp hk
      have hklast : ¬ k + 1 < t.tasks.length := fun hlt => hlive (h.past k old hk hlt)
      exact .inl (h.past j task hj (by omega))
  -- the task that took it has not ended
  have hset : ∀ (old new : EdgeTask) (stack : NetStack κ (DirectEdge σ)),
      t.tasks[k]? = some old → new.phase ≠ .dropped →
        ({ t with tasks := t.tasks.set k new, stack } : EdgeLinks κ σ).Past →
        (∀ task ∈ t.tasks.set k new, task.phase = .running → stack.profile.port.state ≠ .down) →
        ({ t with tasks := t.tasks.set k new, stack } : EdgeLinks κ σ).Guarded := by
    intro old new stack hk hlive hpast hrunning
    refine ⟨hpast, hrunning, fun hall => absurd (hall new ?_) hlive⟩
    obtain ⟨hlt, -⟩ := List.getElem?_eq_some_iff.mp hk
    exact List.mem_set hlt new
  cases hstep with
  | idle => exact h
  | closed =>
    refine ⟨hpast, fun task hmem hrunning => ?_, fun hall => ?_⟩
    · obtain ⟨j, hj⟩ := List.getElem?_of_mem hmem
      obtain ⟨old, hold, hphase, -⟩ := close_task hj
      have hstate := h.running old (List.mem_of_getElem? hold) (hphase.trans hrunning)
      show (t.close k).stack.profile.port.state ≠ _
      rw [close_stack]
      exact hstate
    · show (t.close k).stack.profile.port.state = _
      rw [close_stack]
      refine h.dropped fun old hmem => ?_
      obtain ⟨j, hj⟩ := List.getElem?_of_mem hmem
      obtain ⟨hlt, -⟩ := List.getElem?_eq_some_iff.mp hj
      rw [← close_length t k] at hlt
      obtain ⟨old', hold', hphase, -⟩ := close_task (List.getElem?_eq_getElem hlt)
      cases hj.symm.trans hold'
      exact hphase.trans (hall _ (List.getElem_mem hlt))
  | works hk w' stack hstate =>
    refine hset _ _ stack hk (by exact nofun) hpast fun task hmem hrunning => ?_
    exact hstate (h.running _ (List.mem_of_getElem? hk) rfl)
  | exits hk stack =>
    refine hset _ _ stack hk (by exact nofun) hpast fun task hmem hrunning => ?_
    rcases hothers _ _ hk (by exact nofun) task hmem with hdropped | rfl
    · cases hdropped.symm.trans hrunning
    · cases hrunning
  | @ends w closed hk =>
    refine ⟨hpast, fun task hmem hrunning => ?_, fun _ => rfl⟩
    rcases hothers _ _ hk (by exact nofun) task hmem with hdropped | rfl
    · cases hdropped.symm.trans hrunning
    · cases hrunning

theorem Guarded.step {t : EdgeLinks κ σ} (h : t.Guarded) {act : EdgeAct}
    (horderly : t.Orderly act) : (t.step act).Guarded := by
  cases act with
  | register processor initialState =>
    obtain ⟨hup, hexited⟩ := horderly
    have hreg := t.registerEdge_registers processor initialState
    show (t.registerEdge processor initialState).2.Guarded
    generalize t.registerEdge processor initialState = res at hreg
    have hpast : res.2.Past := by
      refine h.past.register hreg fun hok => ?_
      cases hreg with
      | refused hstate => cases hok
      | invalid hstate hinvalid hstate' htasks hcloser => cases hok
      | registered processor hstate hvalid hstate' htasks hcloser =>
        exact h.all_dropped hstate hexited
    cases hreg with
    | refused hstate => exact h
    | invalid hstate hinvalid hstate' htasks hcloser =>
      refine ⟨hpast, fun task hmem hrunning => ?_, fun _ => hstate'⟩
      rw [htasks] at hmem
      obtain ⟨j, hj⟩ := List.getElem?_of_mem hmem
      obtain ⟨old, hold, hphase, -⟩ := takeCloser_task hj
      exact absurd hstate (h.running old (List.mem_of_getElem? hold) (hphase.trans hrunning))
    | registered processor hstate hvalid hstate' htasks hcloser =>
      refine ⟨hpast, fun _ _ _ => ?_, fun hall => ?_⟩
      · rw [hstate']
        exact hup
      · rw [htasks] at hall
        cases hall _ (List.mem_append_right _ List.mem_cons_self)
  | teardown => exact horderly.elim
  | feed k data clock => exact h.linkStep (step_linkStep rfl)
  | timeout k => exact h.linkStep (step_linkStep rfl)
  | close k => exact h.linkStep (step_linkStep rfl)
  | exit k setsDown => exact h.linkStep (step_linkStep rfl)
  | drop k => exact h.linkStep (step_linkStep rfl)

/-- What the guard of a registration is good for, on a device that starts `Down`, as long as nobody
tears it down, all registrations bring it up, and none comes between the return of an RX worker and
the end of its task: no registration succeeds while an RX worker runs; once the RX tasks of all
links have ended, one does; and links are alone. -/
theorem run_guarded (sockets : List (Socket κ)) (edge : DirectEdge σ)
    (hdown : edge.port.state = .down) (acts : List EdgeAct)
    (horderly : Runs.Always step Orderly (boot sockets edge) acts) :
    let t := Runs.runAll step (boot sockets edge) acts
    t.Alone ∧ ∀ processor initialState, initialState.Valid →
      (((t.registerEdge processor initialState).1 = true →
          ∀ task ∈ t.tasks, task.phase ≠ .running) ∧
        ((∀ task ∈ t.tasks, task.phase = .dropped) →
          (t.registerEdge processor initialState).1 = true)) := by
  have hboot : (boot sockets edge).Guarded :=
    { past := fun k task hk => (by cases hk)
      running := List.forall_mem_nil _
      dropped := fun _ => hdown }
  have h : (Runs.runAll step (boot sockets edge) acts).Guarded :=
    Runs.runAll_inv_of_always (I := fun t : EdgeLinks κ σ => t.Guarded)
      (fun t act horderly h => h.step horderly) hboot horderly
  refine ⟨h.past.alone, fun processor initialState hvalid => ?_⟩
  generalize Runs.runAll step (boot sockets edge) acts = t at h
  have hreg := t.registerEdge_registers processor initialState
  generalize t.registerEdge processor initialState = res at hreg
  cases hreg with
  | refused hstate => exact ⟨nofun, fun hall => absurd (h.dropped hall) hstate⟩
  | invalid hstate hinvalid hstate' htasks hcloser => exact absurd hvalid hinvalid
  | registered processor hstate hvalid hstate' htasks hcloser =>
    exact ⟨fun _ task hmem hrunning => h.running task hmem hrunning hstate, fun _ => rfl⟩

/-- The TX task of a link closes its closer, and the link is registered again. -/
def demoAgain : List EdgeAct :=
  [.register .new .edgeLinkLocal, .close 0, .exit 0 true, .drop 0, .register .new .edgeLinkLocal]

theorem run_guarded_demo : (Runs.runAll step demoDevice demoAgain).Alone := by
  have horderly : Runs.Always step Orderly demoDevice demoAgain := by decide
  obtain ⟨halone, -⟩ := run_guarded ([] : List (Socket OwnedSocket))
    (DirectEdge.newTarget (⟨1000, 4, []⟩ : FrameQueue)) rfl demoAgain horderly
  exact halone

end EdgeLinks

end Ergot
