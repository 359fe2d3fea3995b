import Ergot.Stack.Workers
import Ergot.Wire.Frames

/-!
# Watched interfaces

What the RX workers of all transports do with the stack besides reading: they hand bytes to
their frame processor, and they write the state of their interface. An observer may wait for
changes of that state (`state_notify`); it looks at the state when it is woken.

- `processBytes` is `FrameProcessor::process_frame` on the bytes of a frame. A router counts
  bytes that are no frame as a sign of life, an edge device does not.
- `Watched` is a worker with its stack and with what the observer has seen last. `feed`,
  `livenessTimeout`, `setDown` and `notify` are the pieces that the transports are made of.
- `Watched.Current` says that the observer has seen the state that the interface is in.
-/

namespace Ergot

section ProcessBytes

variable {κ P ι : Type} [SocketVTable κ] [Profile P ι]

/-- The reactivation at the end of `RouterFrameProcessor::process_frame`. -/
def RouterFrameProcessor.reactivate (s : RouterFrameProcessor) (st : NetStack κ P) (ident : ι) :
    Bool × RouterFrameProcessor × NetStack κ P :=
  if s.activated then (false, s, st)
  else
    match Profile.interfaceState st.profile ident with
    | some .inactive =>
      let (_, profile) :=
        Profile.setInterfaceState st.profile ident (.active s.netId centralNodeId)
      (true, { s with activated := true }, { st with profile })
    | _ => (false, s, st)

/-- `process_frame` on the bytes that a transport has read. -/
def FrameProcessor.processBytes (proc : FrameProcessor) (data : List UInt8) (st : NetStack κ P)
    (ident : ι) (clock : FrameClock) : Bool × FrameProcessor × NetStack κ P :=
  match deFrame data with
  | some frame => proc.processFrame frame st ident clock
  | none =>
    match proc with
    | .router s =>
      -- the frame is ignored, and the interface comes up nevertheless
      let (changed, s, st) := (s.sync st.profile ident).reactivate st ident
      (changed, .router s, st)
    | .edge s => (false, .edge s, st)

end ProcessBytes

/-! ## What the flag says -/

section Changed

variable {κ P ι : Type} [SocketVTable κ] [Profile P ι]

omit [SocketVTable κ] in
theorem RouterFrameProcessor.reactivate_unchanged {s : RouterFrameProcessor} {st : NetStack κ P}
    {ident : ι} (h : (s.reactivate st ident).1 = false) : (s.reactivate st ident).2.2 = st := by
  unfold reactivate at h ⊢
  split
  · rfl
  · next hactive =>
    rw [if_neg hactive] at h
    split
    · next hstate =>
      rw [hstate] at h
      cases h
    · rfl

variable [Interfaces P]

omit [SocketVTable κ] in
/-- A write that is refused writes nothing. -/
theorem Interfaces.set_error {p : P} {ident : ι} {state : InterfaceState} {e : SetStateError}
    (h : (Profile.setInterfaceState p ident state).1 = .error e) :
    Profile.interfaceState (Profile.setInterfaceState p ident state).2 ident =
      Profile.interfaceState p ident := by
  have hview : Profile.interfaceState (Profile.setInterfaceState p ident state).2 ident =
      writeState state (Profile.interfaceState p ident) := (Interfaces.view ident).set p state
  rw [hview, writeState]
  split
  · next hvalid =>
    have hnone : ¬ (Profile.interfaceState p ident).isSome := by
      intro hsome
      rw [(Interfaces.set_ok p ident state).mpr ⟨hvalid, hsome⟩] at h
      cases h
    rw [Option.not_isSome_iff_eq_none.mp hnone]
    rfl
  · rfl

omit [SocketVTable κ] in
theorem EdgeFrameProcessor.adopt_unchanged {s : EdgeFrameProcessor} {p : P} {ident : ι}
    {ifState : InterfaceState} {net : UInt16} {donated : Bool}
    (h : (s.adopt p ident ifState net donated).changed = false) :
    Profile.interfaceState (s.adopt p ident ifState net donated).profile ident =
      Profile.interfaceState p ident := by
  unfold adopt at h ⊢
  dsimp only at h ⊢
  split
  · rfl
  · next hne =>
    rw [if_neg hne] at h
    split
    · next hset =>
      rw [hset] at h
      cases h
    · next e q hset =>
      have hrefused := Interfaces.set_error (P := P) (congrArg Prod.fst hset)
      rwa [hset] at hrefused

omit [SocketVTable κ] in
/-- Where the discovery window reports no change, the state of the interface is as it was. -/
theorem EdgeFrameProcessor.discover_unchanged {s : EdgeFrameProcessor} {p : P} {dst : Address}
    {ident : ι} {now : Nat} (h : (s.discover p dst ident now).changed = false) :
    Profile.interfaceState (s.discover p dst ident now).profile ident =
      Profile.interfaceState p ident := by
  rcases s.opens_or_closed p ident with ⟨ifState, hactive, hstate, hopen⟩ | hclosed
  · rw [s.discover_of_opens hactive hstate hopen, window_eq] at h ⊢
    have hdonates : Profile.interfaceState (s.donates p dst now).2 ident =
        Profile.interfaceState p ident := s.donates_view (Interfaces.view ident) p dst now
    cases hnet : s.settles p dst now with
    | none => exact hdonates
    | some net =>
      rw [hnet] at h
      exact (adopt_unchanged h).trans hdonates
  · rw [s.discover_profile_of_closed hclosed]

/-- Where a processor reports no change, the state of the interface is as it was. -/
theorem FrameProcessor.processBytes_unchanged {proc : FrameProcessor} {data : List UInt8}
    {st : NetStack κ P} {ident : ι} {clock : FrameClock}
    (h : (proc.processBytes data st ident clock).1 = false) :
    Profile.interfaceState (proc.processBytes data st ident clock).2.2.profile ident =
      Profile.interfaceState st.profile ident := by
  have hrouter : ∀ (s : RouterFrameProcessor) (st : NetStack κ P),
      (s.reactivate st ident).1 = false →
      Profile.interfaceState (s.reactivate st ident).2.2.profile ident =
        Profile.interfaceState st.profile ident := by
    intro s st h
    rw [RouterFrameProcessor.reactivate_unchanged h]
  unfold processBytes at h ⊢
  cases hde : deFrame data with
  | none =>
    rw [hde] at h
    cases proc with
    | router s => exact hrouter (s.sync st.profile ident) st h
    | edge s => rfl
  | some frame =>
    rw [hde] at h
    cases proc with
    | router s =>
      -- the frame is handed on before it is decided whether to reactivate the interface
      have hframe : Profile.interfaceState (routerProcessFrame (s.sync st.profile ident).netId
          frame st ident clock).profile ident = Profile.interfaceState st.profile ident :=
        (Interfaces.view ident).routerProcessFrame _ _ _ _ _
      exact (hrouter (s.sync st.profile ident) _ h).trans hframe
    | edge s =>
      have hflag : (s.processFrame frame st ident clock).1 =
          (s.discover st.profile frame.hdr.dst ident clock.check).changed := by
        unfold EdgeFrameProcessor.processFrame
        dsimp only
        split <;> rfl
      have hstate : Profile.interfaceState (s.processFrame frame st ident clock).2.2.profile ident =
          Profile.interfaceState
            (s.discover st.profile frame.hdr.dst ident clock.check).profile ident := by
        rw [s.discover_view (Interfaces.view ident)]
        exact s.processFrame_view (Interfaces.view ident) frame st clock
      exact hstate.trans (EdgeFrameProcessor.discover_unchanged (hflag.symm.trans h))

/-- A write leaves a state as it is, or replaces it. -/
theorem writeState_eq_or (state : InterfaceState) (old : Option InterfaceState) :
    writeState state old = old ∨ writeState state old = some state := by
  unfold writeState
  cases old with
  | none => exact .inl (ite_self _)
  | some old =>
    split
    · exact .inr rfl
    · exact .inl rfl

/-- What is `Active`, or as it was. -/
def UpOrSame (old new : Option InterfaceState) : Prop :=
  new = old ∨ ∃ netId nodeId, new = some (.active netId nodeId)

theorem upOrSame_applyWrite {written : Option InterfaceState}
    (h : ∀ state, written = some state → ∃ netId nodeId, state = .active netId nodeId)
    (old : Option InterfaceState) : UpOrSame old (applyWrite writeState written old) := by
  cases written with
  | none => exact .inl rfl
  | some state =>
    obtain ⟨netId, nodeId, rfl⟩ := h state rfl
    exact (writeState_eq_or _ old).imp_right fun hwrite => ⟨netId, nodeId, hwrite⟩

omit [SocketVTable κ] in
theorem RouterFrameProcessor.reactivate_up (s : RouterFrameProcessor) (st : NetStack κ P)
    (ident : ι) : UpOrSame (Profile.interfaceState st.profile ident)
      (Profile.interfaceState (s.reactivate st ident).2.2.profile ident) := by
  unfold reactivate
  split
  · exact .inl rfl
  · split
    · have hset := (Interfaces.view ident).set st.profile (.active s.netId centralNodeId)
      rcases writeState_eq_or (.active s.netId centralNodeId)
        (Profile.interfaceState st.profile ident) with hwrite | hwrite
      · exact .inl (hset.trans hwrite)
      · exact .inr ⟨_, _, hset.trans hwrite⟩
    · exact .inl rfl

omit [SocketVTable κ] [Interfaces P] in
theorem EdgeFrameProcessor.written_active {s : EdgeFrameProcessor} {p : P} {dst : Address}
    {ident : ι} {now : Nat} {state : InterfaceState} (h : s.written p dst ident now = some state) :
    ∃ netId nodeId, state = .active netId nodeId := by
  unfold written at h
  split at h
  · split at h
    · cases h
      exact ⟨_, _, rfl⟩
    · cases h
  · cases h

/-- A processor takes an interface up, or leaves it. -/
theorem FrameProcessor.processBytes_up (proc : FrameProcessor) (data : List UInt8)
    (st : NetStack κ P) (ident : ι) (clock : FrameClock) :
    UpOrSame (Profile.interfaceState st.profile ident)
      (Profile.interfaceState (proc.processBytes data st ident clock).2.2.profile ident) := by
  unfold processBytes
  cases deFrame data with
  | none =>
    cases proc with
    | router s => exact (s.sync st.profile ident).reactivate_up st ident
    | edge s => exact .inl rfl
  | some frame =>
    cases proc with
    | router s =>
      have hframe : Profile.interfaceState (routerProcessFrame (s.sync st.profile ident).netId
          frame st ident clock).profile ident = Profile.interfaceState st.profile ident :=
        (Interfaces.view ident).routerProcessFrame _ _ _ _ _
      rw [← hframe]
      exact (s.sync st.profile ident).reactivate_up _ ident
    | edge s =>
      have hview := s.processFrame_view (Interfaces.view ident) frame st clock
      exact hview ▸ upOrSame_applyWrite (fun _ => s.written_active) _

end Changed

/-! ## Workers and their observers -/

/-- A worker, its stack, and the state of the interface that the observer has seen last. -/
structure Watched (κ P ι : Type) where
  worker : RxWorker ι
  stack : NetStack κ P
  seen : Option InterfaceState

namespace Watched

variable {κ P ι : Type} [Profile P ι]

/-- The state of the interface. -/
def current (w : Watched κ P ι) : Option InterfaceState :=
  Profile.interfaceState w.stack.profile w.worker.ident

/-- `notify`: the observer is woken, and looks. -/
def notify (w : Watched κ P ι) : Watched κ P ι := { w with seen := w.current }

/-- `if changed { self.notify() }`. -/
def notifyIf (w : Watched κ P ι) (changed : Bool) : Watched κ P ι :=
  if changed then w.notify else w

/-- A frame that was read. -/
def feed [SocketVTable κ] (w : Watched κ P ι) (data : List UInt8) (clock : FrameClock) :
    Watched κ P ι :=
  let (changed, processor, stack) :=
    w.worker.processor.processBytes data w.stack w.worker.ident clock
  { w with worker := { w.worker with processor }, stack }.notifyIf changed

/-- `liveness_timeout`: only an `Active` interface is moved, and only elsewhere. -/
def livenessTimeout (w : Watched κ P ι) (target : InterfaceState) : Watched κ P ι :=
  let changed : Bool :=
    match w.current with
    | some (.active netId nodeId) => .active netId nodeId ≠ target
    | _ => false
  let w := { w with stack := w.worker.timeout w.stack target }.notifyIf changed
  { w with worker := { w.worker with processor := w.worker.processor.reset } }

/-- A write, after which the observer is woken in any case. -/
def setState (w : Watched κ P ι) (state : InterfaceState) : Watched κ P ι :=
  { w with stack := w.worker.setState w.stack state }.notify

/-- `set_down` (futures_io.rs). -/
def setDown (w : Watched κ P ι) : Watched κ P ι :=
  let wasDown : Bool := w.current = some .down ∨ w.current = none
  { w with stack := w.worker.setState w.stack .down }.notifyIf (!wasDown)

/-- What an USB device does once its endpoint is enabled. -/
def connect (w : Watched κ P ι) : Watched κ P ι :=
  { w with stack := w.worker.connect w.stack }.notify

/-- What it does when the bus is suspended, or silent. -/
def idle (w : Watched κ P ι) : Watched κ P ι :=
  { w with
    stack := w.worker.timeout w.stack .inactive
    worker := { w.worker with processor := w.worker.processor.reset } }.notify

/-- The observer has seen the state that the interface is in. -/
def Current (w : Watched κ P ι) : Prop := w.seen = w.current

/-- The interface is down, or not there. -/
def IsDown (w : Watched κ P ι) : Prop := w.current = none ∨ w.current = some .down

variable {w : Watched κ P ι}

theorem current_notify (w : Watched κ P ι) : w.notify.Current := rfl

@[simp] theorem notifyIf_worker (w : Watched κ P ι) (changed : Bool) :
    (w.notifyIf changed).worker = w.worker := by
  unfold notifyIf
  split <;> rfl

@[simp] theorem notifyIf_stack (w : Watched κ P ι) (changed : Bool) :
    (w.notifyIf changed).stack = w.stack := by
  unfold notifyIf
  split <;> rfl

@[simp] theorem notifyIf_notify (w : Watched κ P ι) (changed : Bool) :
    (w.notifyIf changed).notify = w.notify := by
  unfold notifyIf
  split <;> rfl

theorem Current.notify_eq (h : w.Current) : w.notify = w :=
  congrArg (Watched.mk w.worker w.stack) h.symm

/-- A change of the state that is reported, or none. -/
theorem Current.notifyIf {changed : Bool} (h : changed = false → w.Current) :
    (w.notifyIf changed).Current := by
  cases changed with
  | true => exact current_notify w
  | false => exact h rfl

variable [Interfaces P]

theorem Current.feed [SocketVTable κ] (h : w.Current) (data : List UInt8) (clock : FrameClock) :
    (w.feed data clock).Current :=
  Current.notifyIf fun hunchanged =>
    h.trans (FrameProcessor.processBytes_unchanged hunchanged).symm

omit [Interfaces P] in
/-- Where a timeout is not to change the state, it does not write it. -/
theorem Current.livenessTimeout (h : w.Current) (target : InterfaceState) :
    (w.livenessTimeout target).Current := by
  refine Current.notifyIf (w := { w with stack := w.worker.timeout w.stack target })
    fun hunchanged => h.trans ?_
  refine congrArg (fun st : NetStack κ P => Profile.interfaceState st.profile w.worker.ident) ?_
  show w.stack = w.worker.timeout w.stack target
  unfold RxWorker.timeout
  unfold current at hunchanged
  split
  · next netId nodeId hstate =>
    rw [hstate] at hunchanged
    rw [if_neg (of_decide_eq_false hunchanged)]
  · rfl

/-- An interface that is down already, or not there, is not changed. -/
theorem Current.setDown (h : w.Current) : w.setDown.Current := by
  refine Current.notifyIf (w := { w with stack := w.worker.setState w.stack .down })
    fun hunchanged => h.trans ?_
  have hdown : w.current = some .down ∨ w.current = none := by
    rw [Bool.not_eq_false'] at hunchanged
    exact of_decide_eq_true hunchanged
  have hset : Profile.interfaceState (w.worker.setState w.stack .down).profile w.worker.ident =
      writeState .down w.current := (Interfaces.view w.worker.ident).set w.stack.profile .down
  refine Eq.trans ?_ hset.symm
  rcases hdown with hdown | hdown <;> rw [hdown] <;> rfl

/-- The observer of an interface that is down already has nothing to see. -/
theorem Current.setDown_eq (h : w.Current) : w.setDown = w.setState .down := by
  rw [← h.setDown.notify_eq]
  exact notifyIf_notify _ _

/-- An interface that is there is down afterwards. -/
theorem setDown_current (w : Watched κ P ι) :
    w.setDown.current = w.current.map fun _ => .down := by
  have hset : w.setDown.current = writeState .down w.current := by
    show Profile.interfaceState (w.setDown.stack).profile w.setDown.worker.ident = _
    unfold setDown
    rw [notifyIf_worker, notifyIf_stack]
    exact (Interfaces.view w.worker.ident).set w.stack.profile .down
  rw [hset]
  rfl

theorem setState_current (w : Watched κ P ι) (state : InterfaceState) :
    (w.setState state).current = writeState state w.current :=
  (Interfaces.view w.worker.ident).set w.stack.profile state

theorem isDown_setState (w : Watched κ P ι) : (w.setState .down).IsDown := by
  unfold IsDown
  rw [setState_current]
  cases w.current with
  | none => exact .inl rfl
  | some state => exact .inr rfl

theorem feed_current [SocketVTable κ] (w : Watched κ P ι) (data : List UInt8)
    (clock : FrameClock) : UpOrSame w.current (w.feed data clock).current := by
  have hup := w.worker.processor.processBytes_up data w.stack w.worker.ident clock
  show UpOrSame _ (Profile.interfaceState (w.feed data clock).stack.profile
    (w.feed data clock).worker.ident)
  unfold feed
  rw [notifyIf_stack, notifyIf_worker]
  exact hup

/-- An interface is not down any more then. -/
theorem connect_current (w : Watched κ P ι) : w.connect.current ≠ some .down := by
  show Profile.interfaceState (w.worker.connect w.stack).profile w.worker.ident ≠ _
  unfold RxWorker.connect
  split
  · next hactive =>
    rw [hactive]
    exact nofun
  · have hset : Profile.interfaceState (w.worker.setState w.stack .edgeLinkLocal).profile
        w.worker.ident = writeState .edgeLinkLocal w.current :=
      (Interfaces.view w.worker.ident).set w.stack.profile .edgeLinkLocal
    rw [hset]
    cases w.current with
    | none => exact nofun
    | some state => exact nofun

theorem idle_current (w : Watched κ P ι) :
    w.idle.current = w.current ∨ w.idle.current = some .inactive := by
  show Profile.interfaceState (w.worker.timeout w.stack .inactive).profile w.worker.ident = _ ∨
    Profile.interfaceState (w.worker.timeout w.stack .inactive).profile w.worker.ident = _
  unfold RxWorker.timeout
  split
  · split
    · have hset := (Interfaces.view w.worker.ident).set w.stack.profile .inactive
      rcases writeState_eq_or .inactive w.current with hwrite | hwrite
      · exact .inl (hset.trans hwrite)
      · exact .inr (hset.trans hwrite)
    · exact .inl rfl
  · exact .inl rfl

omit [Interfaces P] in
theorem current_setState (w : Watched κ P ι) (state : InterfaceState) :
    (w.setState state).Current :=
  current_notify _

end Watched

end Ergot
