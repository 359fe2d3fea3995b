import Mathlib.Data.List.DropRight
import Ergot.Lib.Runs
import Ergot.Stack.Faces
import Ergot.Transport.Watched

/-!
# USB hosts: reception

`NusbRxWorker::run` (transports/nusb.rs). It keeps four requests in flight, so that the device can
go on while a frame is processed. After an error it may cancel them, wait for each of them, clear
the halt of the endpoint, and start over.

- `NusbRx` is the worker with its stack and its observer, and `NusbRx.step` one thing that happens
  to it. To wait for a completion with nothing in flight is a panic of the queue: `panicked`.
- `streak` is how many errors in a row there were last, and `Tolerable` says of a history that
  recovery was to be tried after each error in it.
- `NusbRx.run_recovers`: the worker never waits for nothing, hands on every good frame that it did
  not drain, and gives up exactly when the history is not tolerable.
-/

namespace Ergot.Usb

/-- `nusb::transfer::TransferError`. -/
inductive TransferError
  | cancelled | stall | disconnected | fault | unknown
deriving DecidableEq

def inFlightReqs : Nat := 4

def maxStallRetries : Nat := 3

/-- Why a worker has ended: it was closed, the halt could not be cleared, or there were errors it
does not recover from. -/
inductive NusbRxEnd
  | closed | halted | gaveUp
deriving DecidableEq

/-- What a worker is at: it waits for a frame, it waits for `left` more of the requests that it has
cancelled, it clears the halt, or it has ended. -/
inductive NusbRxPhase
  | receiving
  | draining (left : Nat)
  | clearing
  | ended (reason : NusbRxEnd)
  | panicked
deriving DecidableEq

/-- What there is at the end of a request. -/
abbrev Completion := Except TransferError (List UInt8)

/-- What happens: the first of the requests in flight is complete, `clear_halt` returns, or the
closer is woken. -/
inductive NusbRxEvent
  | complete (res : Completion)
  | clearHalt (ok : Bool)
  | close

/-- A worker. The code has no fields `frames` and `history`: they record the frames that were
handed on, and the completions that were looked at. -/
structure NusbRx (κ P ι : Type) where
  link : Watched κ P ι
  phase : NusbRxPhase
  pending : Nat
  consecutiveErrs : Nat
  frames : List (List UInt8)
  history : List Completion

/-- The kinds of errors that a worker may recover from. -/
def TransferError.recoverable : TransferError → Bool
  | .stall | .unknown => true
  | .cancelled | .disconnected | .fault => false

namespace NusbRx

variable {κ P ι : Type}

/-- The top of the loop: the queue is filled. -/
def rehydrate (s : NusbRx κ P ι) : NusbRx κ P ι :=
  { s with phase := .receiving, pending := s.pending + (inFlightReqs - s.pending) }

/-- A worker that `run` is called of, with a new queue. -/
def new (link : Watched κ P ι) : NusbRx κ P ι := rehydrate ⟨link, .receiving, 0, 0, [], []⟩

variable [SocketVTable κ] [Profile P ι] (clock : Nat → FrameClock)

omit [SocketVTable κ] in
/-- The run ends, and the task around it marks the interface. -/
def finish (s : NusbRx κ P ι) (reason : NusbRxEnd) : NusbRx κ P ι :=
  { s with link := s.link.setState .down, phase := .ended reason }

/-- A completion that is looked at. -/
def receive (s : NusbRx κ P ι) (res : Completion) : NusbRx κ P ι :=
  let s := { s with history := s.history ++ [res] }
  match res with
  | .error e =>
    let s := { s with consecutiveErrs := s.consecutiveErrs + 1 }
    if e.recoverable && s.consecutiveErrs ≤ maxStallRetries then
      { s with phase := .draining (inFlightReqs - 1) }
    else s.finish .gaveUp
  | .ok data =>
    let s := { s with
      consecutiveErrs := 0
      link := s.link.feed data (clock s.frames.length)
      frames := s.frames ++ [data] }
    s.rehydrate

/-- `run`. -/
def step (s : NusbRx κ P ι) (event : NusbRxEvent) : NusbRx κ P ι :=
  match s.phase, event with
  | .receiving, .complete res =>
    if s.pending = 0 then { s with phase := .panicked }
    else { s with pending := s.pending - 1 }.receive clock res
  | .draining left, .complete _ =>
    if s.pending = 0 then { s with phase := .panicked }
    else
      { s with
        pending := s.pending - 1
        phase := if left ≤ 1 then .clearing else .draining (left - 1) }
  | .clearing, .clearHalt ok => if ok then s.rehydrate else s.finish .halted
  | .receiving, .close => s.finish .closed
  | .draining _, .close => s.finish .closed
  | _, _ => s

end NusbRx

/-! ## Histories -/

/-- How many errors in a row there were last. -/
def streak (history : List Completion) : Nat := (history.rtakeWhile (!·.isOk)).length

/-- Recovery is to be tried after each error: it is of a kind for that, and there were at most
three in a row. -/
def Tolerable (history : List Completion) : Prop :=
  ∀ before e, before ++ [.error e] <+: history →
    e.recoverable = true ∧ streak (before ++ [.error e]) ≤ maxStallRetries

theorem streak_error (history : List Completion) (e : TransferError) :
    streak (history ++ [.error e]) = streak history + 1 := by
  rw [streak, List.rtakeWhile_concat_pos _ _ _ rfl, List.length_append]
  rfl

theorem streak_ok (history : List Completion) (data : List UInt8) :
    streak (history ++ [.ok data]) = 0 := by
  rw [streak, List.rtakeWhile_concat_neg _ _ _ (by simp [Except.isOk, Except.toBool])]
  rfl

theorem tolerable_nil : Tolerable [] := by
  intro before e h
  have hlen := h.length_le
  simp at hlen

/-- One more completion. -/
theorem tolerable_snoc (history : List Completion) (res : Completion) :
    Tolerable (history ++ [res]) ↔ Tolerable history ∧ ∀ e, res = .error e →
      e.recoverable = true ∧ streak history + 1 ≤ maxStallRetries := by
  constructor
  · intro h
    refine ⟨fun before e hpre => h before e (hpre.trans (List.prefix_append _ _)), ?_⟩
    rintro e rfl
    have hlast := h history e (List.prefix_refl _)
    rwa [streak_error] at hlast
  · rintro ⟨h, hlast⟩ before e hpre
    rcases List.prefix_concat_iff.mp hpre with heq | hpre
    · obtain ⟨rfl, hres⟩ := List.append_inj' heq rfl
      rw [streak_error]
      exact hlast e (List.singleton_inj.mp hres).symm
    · exact h before e hpre

/-! ## The invariants -/

namespace NusbRx

variable {κ P ι : Type} {clock : Nat → FrameClock} {s : NusbRx κ P ι}

/-- How many requests are in flight. -/
def Counted (pending : Nat) : NusbRxPhase → Prop
  | .receiving => pending = inFlightReqs
  | .draining left => pending = left ∧ 0 < left ∧ left < inFlightReqs
  | .clearing => pending = 0
  | .ended _ => True
  | .panicked => False

/-- What holds of a worker at all times. -/
structure Inv (s : NusbRx κ P ι) : Prop where
  counted : Counted s.pending s.phase
  errs : s.consecutiveErrs = streak s.history
  frames : s.frames = s.history.filterMap Except.toOption
  gaveUp : s.phase = .ended .gaveUp ↔ ¬ Tolerable s.history

theorem inv_new (link : Watched κ P ι) : (new link).Inv where
  counted := rfl
  errs := rfl
  frames := rfl
  gaveUp := iff_of_false nofun (not_not_intro tolerable_nil)

/-- The worker goes on, with as many requests as at the beginning. -/
theorem Inv.rehydrate (h : s.Inv) (hpending : s.pending ≤ inFlightReqs)
    (hphase : s.phase ≠ .ended .gaveUp) : s.rehydrate.Inv where
  counted := by
    show s.pending + (inFlightReqs - s.pending) = inFlightReqs
    omega
  errs := h.errs
  frames := h.frames
  gaveUp := iff_of_false nofun fun hnot => hphase (h.gaveUp.mpr hnot)

variable [SocketVTable κ] [Profile P ι]

omit [SocketVTable κ] in
/-- It ends, not because of an error. -/
theorem Inv.finish (h : s.Inv) {reason : NusbRxEnd} (hreason : reason ≠ .gaveUp)
    (hphase : s.phase ≠ .ended .gaveUp) : (s.finish reason).Inv where
  counted := trivial
  errs := h.errs
  frames := h.frames
  gaveUp := by
    refine iff_of_false (fun heq => ?_) fun hnot => hphase (h.gaveUp.mpr hnot)
    exact hreason (NusbRxPhase.ended.inj heq)

/-- A completion is looked at, with the other requests still in flight. -/
theorem Inv.receive (h : s.Inv) (hphase : s.phase = .receiving) (res : Completion) :
    ({ s with pending := s.pending - 1 }.receive clock res).Inv := by
  have hpending : s.pending = inFlightReqs := by
    have hcounted := h.counted
    rwa [hphase] at hcounted
  have htolerable : Tolerable s.history := by
    by_contra hnot
    exact nomatch hphase.symm.trans (h.gaveUp.mpr hnot)
  cases res with
  | ok data =>
    have hkept : Tolerable (s.history ++ [.ok data]) :=
      (tolerable_snoc _ _).mpr ⟨htolerable, nofun⟩
    refine ⟨?_, (streak_ok _ _).symm, ?_, iff_of_false nofun (not_not_intro hkept)⟩
    · show s.pending - 1 + (inFlightReqs - (s.pending - 1)) = inFlightReqs
      omega
    · show s.frames ++ [data] = (s.history ++ [Except.ok data]).filterMap Except.toOption
      rw [List.filterMap_append, h.frames]
      rfl
  | error e =>
    have herrs : s.consecutiveErrs + 1 = streak (s.history ++ [.error e]) := by
      rw [streak_error, h.errs]
    have hframes : s.frames = (s.history ++ [Except.error e]).filterMap Except.toOption := by
      rw [List.filterMap_append, h.frames]
      exact (List.append_nil _).symm
    have hsnoc : Tolerable (s.history ++ [.error e]) ↔
        e.recoverable = true ∧ streak s.history + 1 ≤ maxStallRetries := by
      rw [tolerable_snoc, and_iff_right htolerable]
      exact ⟨fun hall => hall e rfl, fun hone e' he => Except.error.inj he ▸ hone⟩
    unfold NusbRx.receive
    dsimp only
    split
    · next hrecover =>
      rw [Bool.and_eq_true, decide_eq_true_eq, h.errs, ← hsnoc] at hrecover
      refine ⟨⟨?_, by decide, by decide⟩, herrs, hframes,
        iff_of_false nofun (not_not_intro hrecover)⟩
      show s.pending - 1 = inFlightReqs - 1
      rw [hpending]
    · next hrecover =>
      rw [Bool.and_eq_true, decide_eq_true_eq, h.errs, ← hsnoc] at hrecover
      exact ⟨trivial, herrs, hframes, iff_of_true rfl hrecover⟩

/-- What one step preserves. -/
theorem Inv.step (h : s.Inv) (event : NusbRxEvent) : (s.step clock event).Inv := by
  have hcounted := h.counted
  unfold NusbRx.step
  split
  · next res hphase =>
    rw [hphase] at hcounted
    rw [if_neg (by rw [show s.pending = inFlightReqs from hcounted]; decide)]
    exact h.receive hphase res
  · next left res hphase =>
    rw [hphase] at hcounted
    obtain ⟨hpending, hpos, hlt⟩ := hcounted
    rw [if_neg (by omega)]
    have htolerable := h.gaveUp
    rw [hphase] at htolerable
    refine ⟨?_, h.errs, h.frames, ?_⟩
    · show Counted (s.pending - 1) (if left ≤ 1 then .clearing else .draining (left - 1))
      split
      · show s.pending - 1 = 0
        omega
      · exact ⟨by omega, by omega, by omega⟩
    · show (if left ≤ 1 then NusbRxPhase.clearing else .draining (left - 1)) = _ ↔ _
      rw [← htolerable]
      refine iff_of_false ?_ nofun
      split <;> exact nofun
  · next ok hphase =>
    rw [hphase] at hcounted
    have hrunning : s.phase ≠ .ended .gaveUp := by
      rw [hphase]
      exact nofun
    split
    · exact h.rehydrate (by rw [show s.pending = 0 from hcounted]; exact Nat.zero_le _) hrunning
    · exact h.finish (by decide) hrunning
  · next hphase =>
    exact h.finish (by decide) (by rw [hphase]; exact nofun)
  · next left hphase =>
    exact h.finish (by decide) (by rw [hphase]; exact nofun)
  · exact h

/-- What an observer can rely on. -/
structure Observed (s : NusbRx κ P ι) : Prop where
  current : s.link.Current
  down : ∀ reason, s.phase = .ended reason →
    s.link.current = some .down ∨ s.link.current = none

section Observer

variable [Interfaces P]

omit [SocketVTable κ] in
theorem observed_finish (s : NusbRx κ P ι) (reason : NusbRxEnd) : (s.finish reason).Observed where
  current := s.link.current_setState .down
  down _ _ := by
    show (s.link.setState .down).current = _ ∨ (s.link.setState .down).current = _
    rw [Watched.setState_current]
    cases s.link.current with
    | none => exact .inr rfl
    | some state => exact .inl rfl

theorem Observed.step (h : s.Observed) (event : NusbRxEvent) : (s.step clock event).Observed := by
  unfold NusbRx.step
  split
  · split
    · exact ⟨h.current, nofun⟩
    · next res _ _ =>
      unfold NusbRx.receive
      cases res with
      | ok data => exact ⟨h.current.feed data _, nofun⟩
      | error e =>
        dsimp only
        split
        · exact ⟨h.current, nofun⟩
        · exact observed_finish _ .gaveUp
  · split
    · exact ⟨h.current, nofun⟩
    · refine ⟨h.current, fun reason heq => ?_⟩
      dsimp only at heq
      split at heq <;> cases heq
  · split
    · exact ⟨h.current, nofun⟩
    · exact observed_finish _ .halted
  · exact observed_finish _ .closed
  · exact observed_finish _ .closed
  · exact h

end Observer

/-- Whatever comes from the bus: the worker never waits for a completion with nothing in flight, it
hands on every good frame that it looks at, an observer that sleeps until it is woken, and that is
up to date to begin with, knows the state of the interface, and the worker gives up exactly when
recovery is not to be tried. -/
theorem run_recovers [Interfaces P] (clock : Nat → FrameClock) (link : Watched κ P ι)
    (hlink : link.Current) (script : List NusbRxEvent) :
    let s := Runs.runAll (step clock) (new link) script
    s.phase ≠ .panicked ∧ s.frames = s.history.filterMap Except.toOption ∧ s.Observed ∧
      (s.phase = .ended .gaveUp ↔ ¬ Tolerable s.history) := by
  intro s
  have hs : s.Inv :=
    Runs.runAll_inv (I := Inv) (fun _ event h => h.step event) (inv_new link) script
  have hobserved : s.Observed :=
    Runs.runAll_inv (I := Observed) (fun _ event h => h.step event)
      ⟨hlink, by rintro reason ⟨⟩⟩ script
  refine ⟨fun hphase => ?_, hs.frames, hobserved, hs.gaveUp⟩
  have hcounted := hs.counted
  rw [hphase] at hcounted
  exact hcounted

/-- A host on its segment. -/
def demoHost : Watched OwnedSocket (DirectEdge FrameQueue) Unit :=
  ⟨⟨(), .edge (.newController 1)⟩, ⟨[], .newController ⟨1000, 4, []⟩ (.active 1 1)⟩,
    some (.active 1 1)⟩

/-- A stall that is recovered from, a frame, and the device is unplugged. -/
def demoNusbScript : List NusbRxEvent :=
  [.complete (.error .stall), .complete (.error .cancelled), .complete (.error .cancelled),
    .complete (.ok [1]), .clearHalt true, .complete (.ok [2, 3]),
    .complete (.error .disconnected)]

theorem run_recovers_demo :
    let s := Runs.runAll (step fun _ => ⟨0, .at 0, .at 0⟩) (new demoHost) demoNusbScript
    s.frames = [[2, 3]] ∧ s.phase = .ended .gaveUp ∧ ¬ Tolerable s.history :=
  have h := run_recovers (fun _ => ⟨0, .at 0, .at 0⟩) demoHost rfl demoNusbScript
  ⟨rfl, rfl, h.2.2.2.mp rfl⟩

end NusbRx

end Ergot.Usb
