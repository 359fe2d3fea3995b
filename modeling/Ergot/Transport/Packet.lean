import Ergot.Stack.Faces
import Ergot.Transport.Watched
import Ergot.Lib.Runs

/-!
# Workers of packet transports

`PacketRxTxWorker` (transports/packet.rs) receives and sends in one loop, for transports whose
packets are frames. The loop waits for the receiver, for a frame to send, and for the timer,
whichever comes first; while it sends it does nothing else. A frame is released once it has been
sent, so a send that fails, or whose future is dropped, leaves it first in the queue for the next
run. `RxTxWorker` (transports/embassy_net_udp.rs) is the same loop without a timer, which goes on
after an oversized datagram.

- `PacketWorker` is a worker with its queue, and `PacketWorker.step` one thing that happens to it.
- `Offered` says that frames were given to the sender in order, each once or more.
- `PacketWorker.run_sends`: no frame is skipped or overtaken, through any number of runs, and each
  repetition is due to a send that was interrupted.
- `PacketWorker.run_observed`: what the observer knows, that the interface is down after a run has
  returned and after the worker is dropped, and that a timeout comes only after a silence in both
  directions, since each turn of the loop starts the timer anew.
-/

namespace Ergot

/-! ## The worker -/

/-- How a worker is set up. `skipsErrors`: an error of the receiver does not end the run.
`clock` has the readings for each frame. -/
structure PacketConfig where
  liveness : Option Nat
  skipsErrors : Bool
  clock : Nat → FrameClock

/-- `PacketRxTxWorker`. -/
def PacketConfig.packet (liveness : Option Nat) (clock : Nat → FrameClock) : PacketConfig :=
  { liveness, skipsErrors := false, clock }

/-- `RxTxWorker` of embassy_net_udp.rs: the only error of its receiver is `Truncated`. -/
def PacketConfig.embassyNetUdp (clock : Nat → FrameClock) : PacketConfig :=
  { liveness := none, skipsErrors := true, clock }

/-- Where a worker is: it has not run or its future was dropped, it waits in `select`, it waits for
its sender, its last run has returned, or it has been dropped. -/
inductive PacketPhase
  | idle | select | send | returned | dropped
deriving DecidableEq

/-- What happens to a worker: `run` is called; a frame is committed to its queue; its receiver or
its sender returns, `none` and `false` being errors; `wait_read` has a frame; the timer fires; the
future of `run` is dropped; or the worker is. -/
inductive PacketEvent
  | run (initialState : InterfaceState)
  | commit (frame : List UInt8)
  | received (res : Option (List UInt8))
  | ready
  | sent (ok : Bool)
  | timer
  | cancel
  | stop

/-- A worker. The timer counts from `since`. The code has no fields `committed`, `offered`, `done`,
`interrupted` and `stamps`: they record the frames that were committed, given to the sender and
released, the sends that failed or were dropped, and the instants at which a frame had been
received or sent. -/
structure PacketWorker (κ P ι : Type) where
  link : Watched κ P ι
  phase : PacketPhase
  queue : List (List UInt8)
  haveReceived : Bool
  since : Nat
  received : Nat
  committed : List (List UInt8)
  offered : List (List UInt8)
  done : List (List UInt8)
  interrupted : Nat
  stamps : List Nat

namespace PacketWorker

variable {κ P ι : Type}

/-- `new`. -/
def new (link : Watched κ P ι) : PacketWorker κ P ι :=
  ⟨link, .idle, [], false, 0, 0, [], [], [], 0, []⟩

/-- Whether the timer runs, and has run for long enough. -/
def Due (cfg : PacketConfig) (s : PacketWorker κ P ι) (now : Nat) : Prop :=
  s.phase = .select ∧ s.haveReceived = true ∧ ∃ timeout ∈ cfg.liveness, s.since + timeout ≤ now

instance Due.decidable (cfg : PacketConfig) (s : PacketWorker κ P ι) (now : Nat) :
    Decidable (s.Due cfg now) :=
  match h : cfg.liveness with
  | none => isFalse (by rintro ⟨-, -, timeout, hmem, -⟩; rw [h] at hmem; cases hmem)
  | some timeout =>
    decidable_of_iff (s.phase = .select ∧ s.haveReceived = true ∧ s.since + timeout ≤ now) (by
      simp [Due, h])

/-- The next turn of the loop. -/
def turn (s : PacketWorker κ P ι) (now : Nat) : PacketWorker κ P ι :=
  { s with phase := .select, since := now }

/-- A send that comes to nothing. -/
def interrupt (s : PacketWorker κ P ι) : PacketWorker κ P ι :=
  { s with interrupted := s.interrupted + if s.phase = .send then 1 else 0 }

variable [Profile P ι]

/-- The end of `run`. -/
def finish (s : PacketWorker κ P ι) : PacketWorker κ P ι :=
  { s.interrupt with link := s.link.setState .down, phase := .returned }

/-- One event at `now`. -/
def step [SocketVTable κ] (cfg : PacketConfig) (s : PacketWorker κ P ι) (now : Nat) :
    PacketEvent → PacketWorker κ P ι
  | .run initialState =>
    match s.phase with
    | .idle | .returned => { s with link := s.link.setState initialState }.turn now
    | .select | .send | .dropped => s
  | .commit frame => { s with queue := s.queue ++ [frame], committed := s.committed ++ [frame] }
  | .received res =>
    match s.phase, res with
    | .select, some data =>
      { s with
        link := s.link.feed data (cfg.clock s.received)
        haveReceived := true
        received := s.received + 1
        stamps := s.stamps ++ [now] }.turn now
    | .select, none => if cfg.skipsErrors then s.turn now else s.finish
    | _, _ => s
  | .ready =>
    match s.phase, s.queue with
    | .select, frame :: _ => { s with phase := .send, offered := s.offered ++ [frame] }
    | _, _ => s
  | .sent ok =>
    match s.phase with
    | .send =>
      if ok then
        { s with
          queue := s.queue.tail
          done := s.done ++ s.queue.head?.toList
          stamps := s.stamps ++ [now] }.turn now
      else s.finish
    | _ => s
  | .timer =>
    if s.Due cfg now then
      { s with link := s.link.livenessTimeout .inactive, haveReceived := false }.turn now
    else s
  | .cancel =>
    match s.phase with
    | .select | .send => { s.interrupt with phase := .idle }
    | .idle | .returned | .dropped => s
  | .stop =>
    match s.phase with
    | .dropped => s
    | _ =>
      let needsDown := ¬ (s.link.current = some .down ∨ s.link.current = none)
      { s.interrupt with
        link := if needsDown then s.link.setState .down else s.link
        phase := .dropped }

/-- A run of events, each with the instant at which it happens. -/
def exec [SocketVTable κ] (cfg : PacketConfig) (s : PacketWorker κ P ι)
    (act : Nat × PacketEvent) : PacketWorker κ P ι :=
  s.step cfg act.1 act.2

end PacketWorker

/-! ## What is sent -/

/-- `offered` are the frames `frames`, in order, each once or more. -/
inductive Offered : List (List UInt8) → List (List UInt8) → Prop
  | nil : Offered [] []
  | first {frames offered : List (List UInt8)} (h : Offered frames offered)
      (frame : List UInt8) : Offered (frames ++ [frame]) (offered ++ [frame])
  | again {frames offered : List (List UInt8)} {frame : List UInt8}
      (h : Offered (frames ++ [frame]) offered) :
      Offered (frames ++ [frame]) (offered ++ [frame])

namespace PacketWorker

variable {κ P ι : Type}

/-- What the sender was given: all that was released, and the first of the queue possibly. -/
def Tried (s : PacketWorker κ P ι) : Prop :=
  (s.phase ≠ .send ∧ Offered s.done s.offered) ∨
    ∃ frame rest, s.queue = frame :: rest ∧ Offered (s.done ++ [frame]) s.offered

/-- The frames are where they should be. -/
structure Sends (s : PacketWorker κ P ι) : Prop where
  committed : s.done ++ s.queue = s.committed
  tried : s.Tried
  counted : s.offered.length =
    s.done.length + s.interrupted + if s.phase = .send then 1 else 0

theorem sends_new (link : Watched κ P ι) : (new link).Sends where
  committed := rfl
  tried := .inl ⟨nofun, .nil⟩
  counted := rfl

/-- Frames are counted once a send has ended. -/
theorem Tried.interrupt {s : PacketWorker κ P ι} (h : s.Tried) (link : Watched κ P ι)
    {phase : PacketPhase} (hphase : phase ≠ .send) :
    ({ s.interrupt with link, phase } : PacketWorker κ P ι).Tried := by
  rcases h with ⟨-, h⟩ | h
  · exact .inl ⟨hphase, h⟩
  · exact .inr h

/-- A send that ends without success, or nothing that has to do with sending. -/
theorem Sends.interrupt {s : PacketWorker κ P ι} (h : s.Sends) (link : Watched κ P ι)
    {phase : PacketPhase} (hphase : phase ≠ .send) :
    ({ s.interrupt with link, phase } : PacketWorker κ P ι).Sends where
  committed := h.committed
  tried := h.tried.interrupt link hphase
  counted := by
    have hcounted := h.counted
    simp only [PacketWorker.interrupt, if_neg hphase]
    omega

/-- Another turn that was not sending. -/
theorem Sends.turn {s : PacketWorker κ P ι} (h : s.Sends) (hphase : s.phase ≠ .send) (now : Nat) :
    (s.turn now).Sends where
  committed := h.committed
  tried := h.tried.imp_left fun h => ⟨by rintro ⟨⟩, h.2⟩
  counted := by
    have hcounted := h.counted
    rw [if_neg hphase] at hcounted
    exact hcounted

variable [Profile P ι] [SocketVTable κ]

omit [SocketVTable κ] in
theorem Sends.finish {s : PacketWorker κ P ι} (h : s.Sends) : s.finish.Sends :=
  h.interrupt _ nofun

omit [Profile P ι] [SocketVTable κ] in
/-- The first frame of the queue is given to the sender. -/
theorem Sends.ready {s : PacketWorker κ P ι} (h : s.Sends) (hphase : s.phase ≠ .send)
    {frame : List UInt8} {rest : List (List UInt8)} (hqueue : s.queue = frame :: rest) :
    ({ s with phase := .send, offered := s.offered ++ [frame] } : PacketWorker κ P ι).Sends where
  committed := h.committed
  tried := by
    refine .inr ⟨frame, rest, hqueue, ?_⟩
    rcases h.tried with ⟨-, hoffered⟩ | ⟨frame', rest', hqueue', hoffered⟩
    · exact hoffered.first frame
    · -- it is the frame of a send that was interrupted
      rw [hqueue] at hqueue'
      cases hqueue'
      exact hoffered.again
  counted := by
    have hcounted := h.counted
    rw [if_neg hphase] at hcounted
    simp only [List.length_append, List.length_singleton, if_pos]
    omega

omit [Profile P ι] [SocketVTable κ] in
/-- The frame has been sent, and is released. -/
theorem Sends.sent {s : PacketWorker κ P ι} (h : s.Sends) (hphase : s.phase = .send) (now : Nat)
    (stamps : List Nat) :
    ({ s with
      queue := s.queue.tail
      done := s.done ++ s.queue.head?.toList
      stamps := stamps }.turn now : PacketWorker κ P ι).Sends := by
  rcases h.tried with ⟨hne, -⟩ | ⟨frame, rest, hqueue, hoffered⟩
  · exact absurd hphase hne
  · have hcommitted := h.committed
    have hcounted := h.counted
    rw [hqueue] at hcommitted
    rw [if_pos hphase] at hcounted
    refine { committed := ?_, tried := .inl ⟨nofun, ?_⟩, counted := ?_ }
    · simpa [PacketWorker.turn, hqueue] using hcommitted
    · simpa [PacketWorker.turn, hqueue] using hoffered
    · simp only [PacketWorker.turn, hqueue, List.head?_cons, Option.toList_some, List.length_append,
        List.length_singleton, reduceCtorEq, if_false]
      omega

theorem Sends.step {cfg : PacketConfig} {s : PacketWorker κ P ι} (h : s.Sends) (now : Nat)
    (event : PacketEvent) : (s.step cfg now event).Sends := by
  have hturn : ∀ s' : PacketWorker κ P ι, s'.Sends → s'.phase ≠ .send → (s'.turn now).Sends :=
    fun s' h' hphase => h'.turn hphase now
  cases event with
  | run initialState =>
    simp only [PacketWorker.step]
    split
    · next hphase =>
      exact hturn _ ⟨h.committed, h.tried, h.counted⟩ (by simp [hphase])
    · next hphase =>
      exact hturn _ ⟨h.committed, h.tried, h.counted⟩ (by simp [hphase])
    all_goals exact h
  | commit frame =>
    refine { committed := ?_, tried := ?_, counted := h.counted }
    · show s.done ++ (s.queue ++ [frame]) = s.committed ++ [frame]
      rw [← List.append_assoc, h.committed]
    · refine h.tried.imp_right ?_
      rintro ⟨first, rest, hqueue, hoffered⟩
      refine ⟨first, rest ++ [frame], ?_, hoffered⟩
      show s.queue ++ [frame] = _
      rw [hqueue, List.cons_append]
  | received res =>
    simp only [PacketWorker.step]
    split
    · next data hphase =>
      exact hturn _ ⟨h.committed, h.tried, h.counted⟩ (by simp [hphase])
    · next hphase =>
      split
      · exact hturn s h (by simp [hphase])
      · exact h.finish
    · exact h
  | ready =>
    simp only [PacketWorker.step]
    split
    · next frame rest hphase hqueue => exact h.ready (by simp [hphase]) hqueue
    · exact h
  | sent ok =>
    simp only [PacketWorker.step]
    split
    · next hphase =>
      split
      · exact h.sent hphase now _
      · exact h.finish
    · exact h
  | timer =>
    simp only [PacketWorker.step]
    split
    · next hdue =>
      exact hturn _ ⟨h.committed, h.tried, h.counted⟩ (by simp [hdue.1])
    · exact h
  | cancel =>
    simp only [PacketWorker.step]
    split
    · exact h.interrupt s.link nofun
    · exact h.interrupt s.link nofun
    all_goals exact h
  | stop =>
    simp only [PacketWorker.step]
    split
    · exact h
    · exact h.interrupt _ nofun

/-- What a worker sends, through any number of runs, interruptions and drops: no committed frame is
lost or overtaken, the sender is given them in order, each again until one of its sends succeeds,
and no more often than that. -/
theorem run_sends (cfg : PacketConfig) (link : Watched κ P ι) (acts : List (Nat × PacketEvent)) :
    let s := Runs.runAll (exec cfg) (new link) acts
    s.done ++ s.queue = s.committed ∧ s.Tried ∧
      s.offered.length = s.done.length + s.interrupted + if s.phase = .send then 1 else 0 := by
  have h : (Runs.runAll (exec cfg) (new link) acts).Sends :=
    Runs.runAll_inv (I := fun s : PacketWorker κ P ι => s.Sends)
      (fun s act h => h.step act.1 act.2) (sends_new link) acts
  exact ⟨h.committed, h.tried, h.counted⟩

/-! ## What is observed -/

/-- What holds at `t`. -/
structure Observes (t : Nat) (s : PacketWorker κ P ι) : Prop where
  current : s.link.Current
  down : s.phase = .returned ∨ s.phase = .dropped → s.link.IsDown
  stamps : ∀ x ∈ s.stamps, x ≤ t ∧ (s.phase = .select → x ≤ s.since)

omit [SocketVTable κ] in
theorem Observes.later {t t' : Nat} {s : PacketWorker κ P ι} (h : s.Observes t) (ht : t ≤ t') :
    s.Observes t' :=
  { h with stamps := fun x hx => ⟨Nat.le_trans (h.stamps x hx).1 ht, (h.stamps x hx).2⟩ }

variable [Interfaces P]

omit [SocketVTable κ] [Interfaces P] in
/-- A turn of the loop at `t`. -/
theorem observes_turn {t : Nat} {s : PacketWorker κ P ι} (hcurrent : s.link.Current)
    (hstamps : ∀ x ∈ s.stamps, x ≤ t) : (s.turn t).Observes t where
  current := hcurrent
  down := by rintro (h | h) <;> cases h
  stamps := fun x hx => ⟨hstamps x hx, fun _ => hstamps x hx⟩

omit [SocketVTable κ] in
theorem Observes.finish {t : Nat} {s : PacketWorker κ P ι} (h : s.Observes t) :
    s.finish.Observes t where
  current := Watched.current_setState _ _
  down := fun _ => Watched.isDown_setState _
  stamps := fun x hx => ⟨(h.stamps x hx).1, nofun⟩

theorem Observes.step {cfg : PacketConfig} {t : Nat} {s : PacketWorker κ P ι} (h : s.Observes t)
    (event : PacketEvent) : (s.step cfg t event).Observes t := by
  have hold : ∀ x ∈ s.stamps, x ≤ t := fun x hx => (h.stamps x hx).1
  have hnew : ∀ x ∈ s.stamps ++ [t], x ≤ t := by
    intro x hx
    rcases List.mem_append.mp hx with hx | hx
    · exact hold x hx
    · exact Nat.le_of_eq (List.mem_singleton.mp hx)
  cases event with
  | run initialState =>
    simp only [PacketWorker.step]
    split
    · exact observes_turn (s := { s with link := s.link.setState initialState })
        (Watched.current_setState _ _) hold
    · exact observes_turn (s := { s with link := s.link.setState initialState })
        (Watched.current_setState _ _) hold
    all_goals exact h
  | commit frame => exact ⟨h.current, h.down, h.stamps⟩
  | received res =>
    simp only [PacketWorker.step]
    split
    · exact observes_turn (h.current.feed _ _) hnew
    · split
      · exact observes_turn h.current hold
      · exact h.finish
    · exact h
  | ready =>
    simp only [PacketWorker.step]
    split
    · refine ⟨h.current, ?_, fun x hx => ⟨hold x hx, nofun⟩⟩
      rintro (h | h) <;> cases h
    · exact h
  | sent ok =>
    simp only [PacketWorker.step]
    split
    · split
      · exact observes_turn h.current hnew
      · exact h.finish
    · exact h
  | timer =>
    simp only [PacketWorker.step]
    split
    · exact observes_turn (h.current.livenessTimeout _) hold
    · exact h
  | cancel =>
    have hidle : ({ s.interrupt with phase := .idle } : PacketWorker κ P ι).Observes t :=
      ⟨h.current, (by rintro (h | h) <;> cases h), fun x hx => ⟨hold x hx, nofun⟩⟩
    simp only [PacketWorker.step]
    split
    · exact hidle
    · exact hidle
    all_goals exact h
  | stop =>
    simp only [PacketWorker.step]
    split
    · exact h
    · refine ⟨?_, fun _ => ?_, fun x hx => ⟨hold x hx, nofun⟩⟩
      · dsimp only
        split
        · exact Watched.current_setState _ _
        · exact h.current
      · dsimp only
        split
        · exact Watched.isDown_setState _
        · next hdown => exact (not_not.mp hdown).symm

/-- An event happens in an instant. -/
def span (act : Nat × PacketEvent) : Nat × Nat := (act.1, act.1)

theorem Observes.run {cfg : PacketConfig} {t : Nat} {s : PacketWorker κ P ι} (h : s.Observes t)
    {acts : List (Nat × PacketEvent)} (htimed : Runs.Timed span t acts) :
    (Runs.runAll (exec cfg) s acts).Observes (Runs.endTime span t acts) := by
  induction acts generalizing s t with
  | nil => exact h
  | cons act acts ih =>
    obtain ⟨hstart, -, hrest⟩ := htimed
    exact ih ((h.later hstart).step act.2) hrest

/-- What can be seen of a worker whose observer is up to date to begin with, after any events: the
observer is up to date; once a run has returned, or the worker was dropped, the interface is down;
and the timer is only due if nothing was received, and nothing sent, for as long as it takes. -/
theorem run_observed (cfg : PacketConfig) (link : Watched κ P ι) (h : link.Current)
    (acts : List (Nat × PacketEvent)) (htimed : Runs.Timed span 0 acts) :
    let s := Runs.runAll (exec cfg) (new link) acts
    s.link.Current ∧ (s.phase = .returned ∨ s.phase = .dropped → s.link.IsDown) ∧
      ∀ now, s.Due cfg now → ∀ timeout ∈ cfg.liveness, ∀ t ∈ s.stamps, t + timeout ≤ now := by
  have hnew : (new link).Observes 0 := ⟨h, (by rintro (h | h) <;> cases h), nofun⟩
  have hrun : Observes _ (Runs.runAll (exec cfg) (new link) acts) := hnew.run htimed
  refine ⟨hrun.current, hrun.down, ?_⟩
  rintro now ⟨hphase, -, timeout, hmem, hdue⟩ timeout' hmem' x hx
  cases Option.some.inj (hmem.symm.trans hmem')
  have hsince := (hrun.stamps x hx).2 hphase
  omega

/-- A timeout of 5, and a clock that stands still. -/
def demoConfig : PacketConfig := .packet (some 5) fun _ => ⟨0, .at 0, .at 0⟩

def demoDown : Watched OwnedSocket (DirectEdge FrameQueue) Unit :=
  ⟨⟨(), .edge .new⟩, ⟨[], .newTarget ⟨1000, 4, []⟩⟩, some .down⟩

/-- Something is received at 1, and after that frames are sent. -/
def demoSending : List (Nat × PacketEvent) :=
  [(0, .run .edgeLinkLocal), (0, .commit [1]), (0, .commit [2]), (1, .received (some [7])),
    (2, .ready), (4, .sent true), (8, .ready), (8, .sent true)]

theorem run_observed_demo :
    let s := Runs.runAll (exec demoConfig) (new demoDown) demoSending
    s.link.Current ∧ (s.phase = .returned ∨ s.phase = .dropped → s.link.IsDown) ∧
      ∀ now, s.Due demoConfig now → ∀ timeout ∈ demoConfig.liveness, ∀ t ∈ s.stamps,
        t + timeout ≤ now :=
  run_observed demoConfig demoDown rfl demoSending
    (by simp [Runs.Timed, span, demoSending])

-- Nothing was received for longer than the timeout, and the timer is not due before 13.
example :
    let s := Runs.runAll (exec demoConfig) (new demoDown) demoSending
    ¬ s.Due demoConfig 12 ∧ s.Due demoConfig 13 := by
  decide

end PacketWorker

end Ergot
