import Ergot.Stack.Faces
import Ergot.Transport.Watched
import Ergot.Wire.Accumulator
import Ergot.Lib.Runs

/-!
# RX workers of a byte stream

The same worker is written twice, for hosts (transports/futures_io.rs) and for embedded targets
(transports/eio.rs). Both feed what they read to a `CobsAccumulator`, hand its frames to their
frame processor, and start over when no frame has come for a while. They are not written alike:

- `eio.rs` feeds until the accumulator has consumed everything, `futures_io.rs` until nothing is
  left to feed;
- after a timeout `futures_io.rs` resets the accumulator at once, `eio.rs` when it reads again;
- at the end `eio.rs` wakes the observer in any case, `futures_io.rs` if the interface was not
  down already.

`StreamRx` is what they have in common. `workers_agree` says that none of the differences can be
seen, and `frames_reference` which frames are handed on: each is decoded from bytes that were read
with no timeout between them.
-/

namespace Ergot

/-- What comes from the transport, from the timer, or from the owner of the worker: an empty read
is the end of the stream, and `stop` wakes the closer or drops the worker. -/
inductive RxEvent
  | read (bytes : List UInt8)
  | error
  | timeout
  | stop

/-- How a run ended. -/
inductive RxEnd
  | eof | failed | closed
deriving DecidableEq

/-- How a worker is set up; `clock` has the readings for each frame. -/
structure RxConfig where
  decodeInPlace : List UInt8 → Option (List UInt8)
  liveness : Bool
  linkLocalOnTimeout : Bool
  clock : Nat → FrameClock

/-- Whether there was nothing left to feed. -/
def FeedResult.isConsumed : FeedResult → Bool
  | .consumed => true
  | _ => false

/-- What a worker does while it runs. The code has no fields `frames`, `past` and `epoch`: they
record the frames that were handed on, and the bytes that were read, before each timeout and
since the last one. -/
structure StreamRx (κ P ι : Type) where
  link : Watched κ P ι
  acc : CobsAccumulator
  haveReceived : Bool
  ended : Option RxEnd
  frames : List (List UInt8)
  past : List (List UInt8)
  epoch : List UInt8

namespace StreamRx

variable {κ P ι : Type} [SocketVTable κ] [Profile P ι] (cfg : RxConfig)

omit [SocketVTable κ] [Profile P ι] in
/-- A worker that enters its loop, with an empty accumulator. -/
def new (link : Watched κ P ι) (frame : List UInt8) : StreamRx κ P ι :=
  ⟨link, .new frame, false, none, [], [], []⟩

/-- A frame is handed to the processor. -/
def process (s : StreamRx κ P ι) (data : List UInt8) : StreamRx κ P ι :=
  { s with
    link := s.link.feed data (cfg.clock s.frames.length)
    haveReceived := true
    frames := s.frames ++ [data] }

/-- The accumulator is fed once, and its frame, if there is one, is handed on. -/
def feedOnce (s : StreamRx κ P ι) (remain : List UInt8) : FeedResult × StreamRx κ P ι :=
  let res := s.acc.feedRaw cfg.decodeInPlace remain
  (res.1, res.1.frame.foldl (process cfg) { s with acc := res.2 })

/-- `while !remain.is_empty()` (futures_io.rs). -/
def feedWhile (s : StreamRx κ P ι) (remain : List UInt8) : StreamRx κ P ι :=
  if _h : remain = [] then s
  else
    let res := s.feedOnce cfg remain
    res.2.feedWhile res.1.remaining
termination_by remain.length
decreasing_by exact CobsAccumulator.remaining_lt _h

/-- `loop`, until `FeedResult::Consumed` (eio.rs). -/
def feedLoop (s : StreamRx κ P ι) (remain : List UInt8) : StreamRx κ P ι :=
  let res := s.feedOnce cfg remain
  if _h : res.1.isConsumed then res.2 else res.2.feedLoop res.1.remaining
termination_by remain.length
decreasing_by
  refine CobsAccumulator.remaining_lt ?_
  rintro rfl
  exact _h rfl

/-- `liveness_timeout`. The timer runs only once a frame has been received. -/
def timeout (s : StreamRx κ P ι) : StreamRx κ P ι :=
  { s with
    link := s.link.livenessTimeout (RxWorker.timeoutTarget cfg.linkLocalOnTimeout)
    haveReceived := false
    past := s.past ++ [s.epoch]
    epoch := [] }

/-- `run_inner` and `set_down` (futures_io.rs). -/
def futuresStep (s : StreamRx κ P ι) (event : RxEvent) : StreamRx κ P ι :=
  if s.ended.isSome then s
  else
    match event with
    | .read [] => { s with link := s.link.setDown, ended := some .eof }
    | .read bytes => { s with epoch := s.epoch ++ bytes }.feedWhile cfg bytes
    | .error => { s with link := s.link.setDown, ended := some .failed }
    | .stop => { s with link := s.link.setDown, ended := some .closed }
    | .timeout =>
      if cfg.liveness && s.haveReceived then
        let s := s.timeout cfg
        { s with acc := s.acc.reset }
      else s

end StreamRx

/-- The worker of eio.rs, which remembers that the accumulator has to be reset. -/
structure EioRx (κ P ι : Type) where
  run : StreamRx κ P ι
  needsCobsReset : Bool

namespace EioRx

variable {κ P ι : Type} [SocketVTable κ] [Profile P ι] (cfg : RxConfig)

omit [SocketVTable κ] [Profile P ι] in
def new (link : Watched κ P ι) (frame : List UInt8) : EioRx κ P ι := ⟨.new link frame, false⟩

/-- The end of `run`, or `drop`. -/
def finish (e : EioRx κ P ι) (res : RxEnd) : EioRx κ P ι :=
  { e with run := { e.run with link := e.run.link.setState .down, ended := some res } }

/-- `read_or_timeout` and `run_inner` (eio.rs). -/
def step (e : EioRx κ P ι) (event : RxEvent) : EioRx κ P ι :=
  if e.run.ended.isSome then e
  else
    match event with
    | .read [] => e.finish .eof
    | .read bytes =>
      let acc := if e.needsCobsReset then e.run.acc.reset else e.run.acc
      let run := { e.run with acc, epoch := e.run.epoch ++ bytes }
      { run := run.feedLoop cfg bytes, needsCobsReset := false }
    | .error => e.finish .failed
    | .stop => e.finish .closed
    | .timeout =>
      if cfg.liveness && e.run.haveReceived then
        { run := e.run.timeout cfg, needsCobsReset := true }
      else e

end EioRx

namespace StreamRx

variable {κ P ι : Type} [SocketVTable κ] [Profile P ι] {cfg : RxConfig}

/-! ## The two loops -/

theorem feedWhile_nil (s : StreamRx κ P ι) : s.feedWhile cfg [] = s := by
  rw [feedWhile, dif_pos rfl]

theorem feedWhile_of_ne_nil (s : StreamRx κ P ι) {remain : List UInt8} (h : remain ≠ []) :
    s.feedWhile cfg remain =
      (s.feedOnce cfg remain).2.feedWhile cfg (s.feedOnce cfg remain).1.remaining := by
  rw [feedWhile, dif_neg h]

theorem feedOnce_nil (s : StreamRx κ P ι) : s.feedOnce cfg [] = (.consumed, s) := rfl

theorem feedLoop_nil (s : StreamRx κ P ι) : s.feedLoop cfg [] = s := by
  rw [feedLoop, feedOnce_nil]
  rfl

theorem feedLoop_next (s : StreamRx κ P ι) (remain : List UInt8) :
    s.feedLoop cfg remain =
      (s.feedOnce cfg remain).2.feedLoop cfg (s.feedOnce cfg remain).1.remaining := by
  rw [feedLoop]
  split
  · next hconsumed =>
    cases hres : (s.feedOnce cfg remain).1 with
    | consumed => rw [FeedResult.remaining, feedLoop_nil]
    | _ =>
      rw [hres] at hconsumed
      cases hconsumed
  · rfl

/-- Whether a loop ends by what is left or by what the accumulator says makes no difference. -/
theorem feedLoop_eq (s : StreamRx κ P ι) (remain : List UInt8) :
    s.feedLoop cfg remain = s.feedWhile cfg remain := by
  induction hlen : remain.length using Nat.strongRecOn generalizing s remain with
  | _ len ih =>
    by_cases hnil : remain = []
    · rw [hnil, feedLoop_nil, feedWhile_nil]
    · rw [feedLoop_next, feedWhile_of_ne_nil s hnil]
      exact ih _ (hlen ▸ CobsAccumulator.remaining_lt hnil) _ _ rfl

/-- What one call of the loop does, for the fields that the processor has no part in. -/
theorem process_frame_or_not (cfg : RxConfig) (s : StreamRx κ P ι) (res : FeedResult) :
    let s' := res.frame.foldl (process cfg) s
    s'.acc = s.acc ∧ s'.ended = s.ended ∧ s'.past = s.past ∧ s'.epoch = s.epoch ∧
      s'.frames = s.frames ++ res.frame := by
  cases res <;> simp [FeedResult.frame, process]

/-- `feedWhile` is `CobsAccumulator.feedChunk`, with its frames handed on. -/
theorem feedWhile_spec (cfg : RxConfig) (s : StreamRx κ P ι) (remain : List UInt8) :
    let s' := s.feedWhile cfg remain
    let res := s.acc.feedChunk cfg.decodeInPlace remain
    s'.frames = s.frames ++ res.1 ∧ s'.acc = res.2 ∧ s'.ended = s.ended ∧ s'.past = s.past ∧
      s'.epoch = s.epoch := by
  induction hlen : remain.length using Nat.strongRecOn generalizing s remain with
  | _ len ih =>
    by_cases hnil : remain = []
    · subst hnil
      rw [feedWhile_nil, CobsAccumulator.feedChunk_nil]
      simp
    · rw [feedWhile_of_ne_nil s hnil, CobsAccumulator.feedChunk_of_ne_nil _ hnil]
      obtain ⟨hacc, hended, hpast, hepoch, hframes⟩ := process_frame_or_not cfg
        { s with acc := (s.acc.feedRaw cfg.decodeInPlace remain).2 }
        (s.acc.feedRaw cfg.decodeInPlace remain).1
      obtain ⟨hframes', hacc', hended', hpast', hepoch'⟩ :=
        ih _ (hlen ▸ CobsAccumulator.remaining_lt hnil) (s.feedOnce cfg remain).2
          (s.feedOnce cfg remain).1.remaining rfl
      have hacc : (s.feedOnce cfg remain).2.acc =
          (s.acc.feedRaw cfg.decodeInPlace remain).2 := hacc
      rw [hacc] at hframes' hacc'
      refine ⟨?_, hacc', hended'.trans hended, hpast'.trans hpast, hepoch'.trans hepoch⟩
      rw [hframes', ← List.append_assoc]
      exact congrArg (· ++ _) hframes

/-! ## The observer -/

/-- What an observer can rely on: it has seen the state of the interface, and the interface is not
up any more when the worker has ended. -/
structure Observed (s : StreamRx κ P ι) : Prop where
  current : s.link.Current
  down : s.ended.isSome → s.link.current = some .down ∨ s.link.current = none

/-- An observer that has seen the state of the interface goes on seeing it. -/
theorem current_feedWhile [Interfaces P] {s : StreamRx κ P ι} (h : s.link.Current)
    (remain : List UInt8) : (s.feedWhile cfg remain).link.Current := by
  induction hlen : remain.length using Nat.strongRecOn generalizing s remain with
  | _ len ih =>
    by_cases hnil : remain = []
    · rwa [hnil, feedWhile_nil]
    · rw [feedWhile_of_ne_nil s hnil]
      refine ih _ (hlen ▸ CobsAccumulator.remaining_lt hnil) ?_ _ rfl
      show (List.foldl (process cfg) _ (s.acc.feedRaw cfg.decodeInPlace remain).1.frame).link.Current
      cases (s.acc.feedRaw cfg.decodeInPlace remain).1 with
      | success data remaining => exact h.feed data _
      | successInput data remaining => exact h.feed data _
      | consumed => exact h
      | overFull remaining => exact h
      | decodeError remaining => exact h

omit [SocketVTable κ] in
/-- `set_down`, however the run ends. -/
theorem Observed.setDown [Interfaces P] {s : StreamRx κ P ι} (h : s.Observed) (res : RxEnd) :
    Observed { s with link := s.link.setDown, ended := some res } where
  current := h.current.setDown
  down _ := by
    rw [Watched.setDown_current]
    cases s.link.current with
    | none => exact .inr rfl
    | some state => exact .inl rfl

/-- What one step preserves. -/
theorem Observed.futuresStep [Interfaces P] {s : StreamRx κ P ι} (h : s.Observed)
    (event : RxEvent) : (s.futuresStep cfg event).Observed := by
  unfold StreamRx.futuresStep
  split
  · exact h
  · next hended =>
    split
    · exact h.setDown .eof
    · next bytes _ =>
      refine ⟨current_feedWhile (s := { s with epoch := s.epoch ++ bytes }) h.current bytes, ?_⟩
      intro hended'
      rw [(feedWhile_spec cfg _ bytes).2.2.1] at hended'
      exact absurd hended' hended
    · exact h.setDown .failed
    · exact h.setDown .closed
    · split
      · exact ⟨h.current.livenessTimeout _, fun hended' => absurd hended' hended⟩
      · exact h

/-- For every script of events, an observer that sleeps until it is woken has seen the state of the
interface, provided that it had when the run began. -/
theorem observed_run [Interfaces P] (cfg : RxConfig) (link : Watched κ P ι) (hlink : link.Current)
    (frame : List UInt8) (script : List RxEvent) :
    (Runs.runAll (futuresStep cfg) (new link frame) script).Observed := by
  refine Runs.runAll_inv (I := Observed) (fun _ event h => h.futuresStep event) ?_ script
  exact ⟨hlink, fun hended => nomatch hended⟩

end StreamRx

/-- A worker with a liveness timeout. -/
def demoRxConfig : RxConfig where
  decodeInPlace := Cobs.decodeSentinel
  liveness := true
  linkLocalOnTimeout := true
  clock _ := ⟨0, .at 0, .at 0⟩

/-- A device that has not heard from anyone yet. -/
def demoLink : Watched OwnedSocket (DirectEdge FrameQueue) Unit :=
  ⟨⟨(), .edge .new⟩, ⟨[], .newTarget ⟨1000, 4, []⟩⟩, some .down⟩

/-- A frame in two reads, a timeout within the next one, and the end of the stream. -/
def demoScript : List RxEvent :=
  [.read [3, 7], .read [7, 0, 5, 1], .timeout, .read [2, 9, 0], .read []]

theorem StreamRx.observed_run_demo :
    (Runs.runAll (futuresStep demoRxConfig) (new demoLink [0, 0, 0, 0]) demoScript).Observed :=
  observed_run demoRxConfig demoLink rfl [0, 0, 0, 0] demoScript

/-! ## That the workers agree -/

namespace EioRx

variable {κ P ι : Type} [SocketVTable κ] [Profile P ι] {cfg : RxConfig}

/-- The worker for hosts in the same situation: it has reset its accumulator already. -/
def core (e : EioRx κ P ι) : StreamRx κ P ι :=
  { e.run with acc := if e.needsCobsReset then e.run.acc.reset else e.run.acc }

theorem core_feedLoop (run : StreamRx κ P ι) (bytes : List UInt8) :
    core ⟨run.feedLoop cfg bytes, false⟩ = run.feedWhile cfg bytes := by
  rw [StreamRx.feedLoop_eq]
  rfl

omit [SocketVTable κ] in
/-- Where the observer has seen the state, a wake that changes nothing is not seen. -/
theorem core_finish [Interfaces P] {e : EioRx κ P ι} (h : e.run.link.Current) (res : RxEnd) :
    (e.finish res).core = { e.core with link := e.core.link.setDown, ended := some res } := by
  have hlink : e.run.link.setState .down = e.run.link.setDown := h.setDown_eq.symm
  rw [core, finish, hlink]
  rfl

/-- What one event does to one worker, it does to the other. -/
theorem core_step [Interfaces P] {e : EioRx κ P ι} (h : e.core.link.Current) (event : RxEvent) :
    (e.step cfg event).core = e.core.futuresStep cfg event := by
  by_cases hended : e.run.ended.isSome
  · have hcore : e.core.ended.isSome := hended
    unfold step StreamRx.futuresStep
    rw [if_pos hended, if_pos hcore]
  · have hcore : ¬ e.core.ended.isSome := hended
    unfold step StreamRx.futuresStep
    rw [if_neg hended, if_neg hcore]
    cases event with
    | read bytes =>
      cases bytes with
      | nil => exact core_finish h .eof
      | cons b bytes => exact core_feedLoop _ _
    | error => exact core_finish h .failed
    | stop => exact core_finish h .closed
    | timeout =>
      have hreceived : e.core.haveReceived = e.run.haveReceived := rfl
      simp only [hreceived]
      split
      · unfold core StreamRx.timeout CobsAccumulator.reset
        cases e.needsCobsReset <;> rfl
      · rfl

/-- For every script of events, the two workers hand on the same frames, leave the stack in the
same state, and show the same to an observer that is up to date when the run begins. -/
theorem workers_agree [Interfaces P] (cfg : RxConfig) (link : Watched κ P ι) (hlink : link.Current)
    (frame : List UInt8) (script : List RxEvent) :
    let e := Runs.runAll (step cfg) (new link frame) script
    let s := Runs.runAll (StreamRx.futuresStep cfg) (.new link frame) script
    e.run.link = s.link ∧ e.run.frames = s.frames ∧ e.run.ended = s.ended := by
  intro e s
  have hsim : s = e.core ∧ s.Observed := by
    refine Runs.runAll_sim (R := fun (e : EioRx κ P ι) s => s = e.core ∧ s.Observed) ?_ ?_ script
    · rintro e s event ⟨rfl, hobserved⟩
      exact ⟨(core_step hobserved.current event).symm, hobserved.futuresStep event⟩
    · exact ⟨rfl, hlink, fun hended => nomatch hended⟩
  rw [hsim.1]
  exact ⟨rfl, rfl, rfl⟩

theorem workers_agree_demo :
    let e := Runs.runAll (step demoRxConfig) (new demoLink [0, 0, 0, 0]) demoScript
    let s := Runs.runAll (StreamRx.futuresStep demoRxConfig) (.new demoLink [0, 0, 0, 0]) demoScript
    e.run.link = s.link ∧ e.run.frames = s.frames ∧ e.run.ended = s.ended :=
  workers_agree demoRxConfig demoLink rfl [0, 0, 0, 0] demoScript

end EioRx

/-! ## The frames -/

namespace StreamRx

variable {κ P ι : Type} [SocketVTable κ] [Profile P ι] {cfg : RxConfig}

/-- Where the frames come from: `kepts` and `kept` are the segments of the stretches of bytes that
no timeout cut, as far as a buffer of `n` bytes keeps them. -/
structure Traced (cfg : RxConfig) (n : Nat) (s : StreamRx κ P ι)
    (kepts : List (List (List UInt8))) (kept : List (List UInt8)) : Prop where
  past : List.Forall₂ (fun bytes kept => Kept n (segments bytes) kept) s.past kepts
  epoch : Kept n (segments s.epoch) kept
  holds : s.acc.Holds n (splitZeros [] s.epoch).2
  frames : s.frames = (kepts.flatten ++ kept).flatMap fun segment =>
    (cfg.decodeInPlace (segment ++ [0])).toList

omit [SocketVTable κ] [Profile P ι] in
theorem traced_new (link : Watched κ P ι) (frame : List UInt8) :
    Traced cfg frame.length (new link frame) [] [] where
  past := .nil
  epoch := .nil
  holds := CobsAccumulator.Holds.new frame
  frames := rfl

variable {n : Nat} {s : StreamRx κ P ι} {kepts : List (List (List UInt8))}
  {kept : List (List UInt8)}

/-- Bytes that are read belong to the stretch that has begun. -/
theorem Traced.read (h : Traced cfg n s kepts kept) (bytes : List UInt8) :
    ∃ kept', Traced cfg n ({ s with epoch := s.epoch ++ bytes }.feedWhile cfg bytes) kepts
      (kept ++ kept') := by
  obtain ⟨hframes, hacc, -, hpast, hepoch⟩ :=
    feedWhile_spec cfg { s with epoch := s.epoch ++ bytes } bytes
  obtain ⟨hholds, kept', hkept, hdecoded⟩ := h.holds.feedChunk cfg.decodeInPlace bytes
  refine ⟨kept', ?_, ?_, ?_, ?_⟩
  · rw [hpast]
    exact h.past
  · rw [hepoch, segments, splitZeros_append]
    exact h.epoch.append hkept
  · rw [hacc, hepoch, splitZeros_append]
    exact hholds
  · rw [hframes, hdecoded, ← List.append_assoc, List.flatMap_append]
    exact congrArg (· ++ _) h.frames

omit [SocketVTable κ] in
/-- A timeout begins a new stretch, and what was begun of a segment is given up. -/
theorem Traced.timeout (h : Traced cfg n s kepts kept) :
    Traced cfg n { s.timeout cfg with acc := s.acc.reset } (kepts ++ [kept]) [] where
  past := List.rel_append h.past (.cons h.epoch .nil)
  epoch := .nil
  holds := h.holds.reset
  frames := by
    rw [List.flatten_append, List.flatten_singleton, List.append_nil]
    exact h.frames

/-- What one step preserves. -/
theorem Traced.futuresStep (h : Traced cfg n s kepts kept) (event : RxEvent) :
    ∃ kepts' kept', Traced cfg n (s.futuresStep cfg event) kepts' kept' := by
  unfold StreamRx.futuresStep
  split
  · exact ⟨kepts, kept, h⟩
  · split
    · exact ⟨kepts, kept, { h with }⟩
    · next bytes _ =>
      obtain ⟨kept', hread⟩ := h.read bytes
      exact ⟨kepts, kept ++ kept', hread⟩
    · exact ⟨kepts, kept, { h with }⟩
    · exact ⟨kepts, kept, { h with }⟩
    · split
      · exact ⟨kepts ++ [kept], [], h.timeout⟩
      · exact ⟨kepts, kept, h⟩

/-- For every script of events: the frames that are handed on are the decodings of the segments of
what was read, stretch by stretch. Only segments that do not fit the buffer may be missing, and
no frame has bytes from before and from after a timeout. -/
theorem frames_reference (cfg : RxConfig) (link : Watched κ P ι) (frame : List UInt8)
    (script : List RxEvent) :
    let s := Runs.runAll (futuresStep cfg) (new link frame) script
    ∃ kepts, List.Forall₂ (fun bytes kept => Kept frame.length (segments bytes) kept)
        (s.past ++ [s.epoch]) kepts ∧
      s.frames = kepts.flatten.flatMap fun segment =>
        (cfg.decodeInPlace (segment ++ [0])).toList := by
  intro s
  have hs : ∃ kepts kept, Traced cfg frame.length s kepts kept := by
    refine Runs.runAll_inv (I := fun s => ∃ kepts kept, Traced cfg frame.length s kepts kept)
      ?_ ?_ script
    · rintro s event ⟨kepts, kept, h⟩
      exact h.futuresStep event
    · exact ⟨[], [], traced_new link frame⟩
  obtain ⟨kepts, kept, h⟩ := hs
  refine ⟨kepts ++ [kept], List.rel_append h.past (.cons h.epoch .nil), ?_⟩
  rw [List.flatten_append, List.flatten_singleton]
  exact h.frames

end StreamRx

end Ergot
