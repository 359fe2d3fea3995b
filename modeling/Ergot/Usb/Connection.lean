import Ergot.Lib.Runs
import Ergot.Stack.Faces
import Ergot.Transport.Watched
import Ergot.Usb.Receive

/-!
# USB connections

The RX worker of an USB device, `RxWorker::run` and `one_conn` (transports/eusb_0_5.rs). It calls
`one_frame` until the endpoint is disabled, and drops a call when the bus is suspended or resumes,
and when nothing has been heard for a while: what the call has read by then is lost.

- `CallSpec` says what one more packet does to a call of `one_frame` that waits.
- `UsbRx` is the worker, with its stack and its observer, and `UsbRx.step` one thing that happens
  to it.
- `UsbRx.run_watched`: the observer knows the state of the interface, and the interface is down
  exactly while there is no connection.
- `UsbRx.frames_of_runs`: which frames are handed on. A frame has no bytes from both sides of a
  short packet, or of an interruption.
-/

namespace Ergot.Usb

open Packets

/-! ## A call that waits -/

section Call

variable {m buflen : Nat}

/-- What one more read does to a call that has `got` bytes and waits. -/
inductive CallSpec (m : Nat) (got : List UInt8) : Arrival → Outcome → Prop
  | more {p : List UInt8} (hfull : p.length = m) : CallSpec m got (.packet p) none
  | frame {p : List UInt8} (hshort : p.length ≠ m) :
      CallSpec m got (.packet p) (some (.ok (got ++ p), []))
  | tooLarge {p : List UInt8} :
      CallSpec m got (.packet p) (some (.error .receivedMessageTooLarge, []))
  | closed : CallSpec m got .disabled (some (.error .connectionClosed, []))

theorem drain_snoc {reads : List Arrival} (h : drain m buflen reads = none) (got : List UInt8)
    (a : Arrival) : CallSpec m got a (drain m buflen (reads ++ [a])) := by
  induction reads with
  | nil =>
    cases a with
    | disabled => exact .closed
    | packet p =>
      simp only [List.nil_append, drain, Arrival.read]
      by_cases hfits : p.length ≤ buflen
      · rw [if_pos hfits]
        dsimp only
        by_cases hfull : p.length = m
        · rw [if_pos hfull]
          exact .more hfull
        · rw [if_neg hfull]
          exact .tooLarge
      · rw [if_neg hfits]
        exact .tooLarge
  | cons x reads ih =>
    simp only [drain] at h
    simp only [List.cons_append, drain]
    split at h
    · cases h
    · split at h
      · next hfull =>
        rw [if_pos hfull]
        exact ih h
      · cases h

theorem peek_snoc (hm : 0 < m) {frame : List UInt8} (reads : List Arrival)
    (h : peek m buflen frame reads = none) (got : List UInt8) (hgot : reads = [] → got = frame)
    (a : Arrival) : CallSpec m got a (peek m buflen frame (reads ++ [a])) := by
  cases reads with
  | nil =>
    obtain rfl := hgot rfl
    cases a with
    | disabled => exact .closed
    | packet p =>
      simp only [List.nil_append, peek, Arrival.read]
      by_cases hfits : p.length ≤ buflen
      · rw [if_pos hfits]
        dsimp only
        by_cases hempty : p.length = 0
        · have hspec : CallSpec m got (.packet p) (some (.ok (got ++ p), [])) :=
            .frame (by omega)
          rw [if_pos hempty]
          obtain rfl := List.eq_nil_of_length_eq_zero hempty
          rwa [List.append_nil] at hspec
        · rw [if_neg hempty]
          by_cases hfull : p.length = m
          · rw [if_pos hfull]
            exact .more hfull
          · rw [if_neg hfull]
            exact .tooLarge
      · rw [if_neg hfits]
        exact .tooLarge
  | cons x reads =>
    simp only [peek] at h
    simp only [List.cons_append, peek]
    split at h
    · cases h
    · split at h
      · cases h
      · next hne =>
        split at h
        · next hfull =>
          rw [if_neg hne, if_pos hfull]
          exact drain_snoc h got a
        · cases h

theorem fill_snoc (hm : 0 < m) {frame : List UInt8} {reads : List (List UInt8)}
    (h : fill m buflen frame (reads.map .packet) = none) (a : Arrival) :
    CallSpec m (frame ++ reads.flatten) a (fill m buflen frame (reads.map .packet ++ [a])) := by
  induction reads generalizing frame with
  | nil =>
    rw [List.flatten_nil, List.append_nil, List.map_nil, List.nil_append]
    by_cases hfull : frame.length = buflen
    · rw [fill, if_pos hfull]
      exact peek_snoc hm [] rfl frame (fun _ => rfl) a
    · cases a with
      | disabled =>
        simp only [fill, hfull, if_false, Arrival.read]
        exact .closed
      | packet p =>
        simp only [fill, hfull, if_false, Arrival.read]
        by_cases hfits : p.length ≤ buflen - frame.length
        · rw [if_pos hfits]
          dsimp only
          by_cases hlen : p.length = m
          · rw [if_neg (not_not_intro hlen)]
            exact .more hlen
          · rw [if_pos hlen]
            exact .frame hlen
        · rw [if_neg hfits]
          exact .tooLarge
  | cons p reads ih =>
    rw [List.map_cons] at h ⊢
    rw [List.cons_append]
    by_cases hfull : frame.length = buflen
    · rw [fill, if_pos hfull] at h ⊢
      exact peek_snoc hm (.packet p :: reads.map .packet) h _
        (fun hnil => absurd hnil (List.cons_ne_nil _ _)) a
    · simp only [fill, hfull, if_false, Arrival.read] at h ⊢
      by_cases hfits : p.length ≤ buflen - frame.length
      · simp only [hfits, if_true] at h ⊢
        split at h
        · cases h
        · next hlen =>
          rw [if_neg hlen, List.flatten_cons, ← List.append_assoc]
          exact ih h
      · simp only [hfits, if_false] at h
        cases h

/-- One more read of a call that waits. -/
theorem oneFrame_snoc (hm : 0 < m) {reads : List (List UInt8)}
    (h : oneFrame m buflen (reads.map .packet) = none) (a : Arrival) :
    CallSpec m reads.flatten a (oneFrame m buflen (reads.map .packet ++ [a])) :=
  fill_snoc hm h a

/-- What is not read by a call is left. -/
theorem drain_append {arrivals rest : List Arrival} {res : Except ReceiverError (List UInt8)}
    (h : drain m buflen arrivals = some (res, rest)) (more : List Arrival) :
    drain m buflen (arrivals ++ more) = some (res, rest ++ more) := by
  induction arrivals with
  | nil => cases h
  | cons a arrivals ih =>
    simp only [drain] at h
    simp only [List.cons_append, drain]
    split at h
    · cases h
      rfl
    · split at h
      · next hfull =>
        rw [if_pos hfull]
        exact ih h
      · next hfull =>
        rw [if_neg hfull]
        cases h
        rfl

theorem peek_append {frame : List UInt8} {arrivals rest : List Arrival}
    {res : Except ReceiverError (List UInt8)}
    (h : peek m buflen frame arrivals = some (res, rest)) (more : List Arrival) :
    peek m buflen frame (arrivals ++ more) = some (res, rest ++ more) := by
  cases arrivals with
  | nil => cases h
  | cons a arrivals =>
    simp only [peek] at h
    simp only [List.cons_append, peek]
    split at h
    · cases h
      rfl
    · split at h
      · next hempty =>
        rw [if_pos hempty]
        cases h
        rfl
      · next hempty =>
        rw [if_neg hempty]
        split at h
        · next hfull =>
          rw [if_pos hfull]
          exact drain_append h more
        · next hfull =>
          rw [if_neg hfull]
          cases h
          rfl

theorem fill_append {frame : List UInt8} {arrivals rest : List Arrival}
    {res : Except ReceiverError (List UInt8)}
    (h : fill m buflen frame arrivals = some (res, rest)) (more : List Arrival) :
    fill m buflen frame (arrivals ++ more) = some (res, rest ++ more) := by
  induction arrivals generalizing frame with
  | nil => cases h
  | cons a arrivals ih =>
    rw [List.cons_append]
    unfold fill at h ⊢
    split at h
    · next hfull =>
      rw [if_pos hfull]
      exact peek_append h more
    · next hfull =>
      rw [if_neg hfull]
      split at h
      · cases h
        rfl
      · split at h
        · next hlen =>
          rw [if_pos hlen]
          cases h
          rfl
        · next hlen =>
          rw [if_neg hlen]
          exact ih h

/-! ### A buffer of full packets -/

/-- Full packets and a short one are what a frame is sent in. -/
theorem packetize_full {reads : List (List UInt8)} (hreads : ∀ p ∈ reads, p.length = m)
    {last : List UInt8} (hlast : last.length < m) :
    packetize m (reads.flatten ++ last) = reads ++ [last] := by
  induction reads with
  | nil => exact packetize_of_lt hlast
  | cons p reads ih =>
    obtain ⟨hp, hreads⟩ := List.forall_mem_cons.mp hreads
    have hm : 0 < m := Nat.lt_of_le_of_lt (Nat.zero_le _) hlast
    have hle : m ≤ ((p :: reads).flatten ++ last).length := by
      rw [List.flatten_cons, List.append_assoc, List.length_append]
      omega
    rw [packetize_of_le hm hle, List.flatten_cons, List.append_assoc, List.take_left' hp,
      List.drop_left' hp, ih hreads]
    rfl

variable (hbuf : 0 < buflen) (hdvd : m ∣ buflen) {reads : List (List UInt8)}
  (hreads : ∀ p ∈ reads, p.length = m)

include hbuf hdvd hreads

/-- A short packet ends the frame, and the call. -/
theorem oneFrame_short (last : List UInt8) (hlast : last.length < m) :
    oneFrame m buflen ((reads ++ [last]).map .packet) =
      some (expected buflen (reads.flatten ++ last), []) := by
  have hm : 0 < m := Nat.lt_of_le_of_lt (Nat.zero_le _) hlast
  obtain ⟨tail, hone, hclean⟩ := oneFrame_arrivals buflen hm (reads.flatten ++ last) []
  obtain rfl := hclean.mpr (.inl ⟨hbuf, hdvd⟩)
  rw [arrivals_cons, packetize_full hreads hlast] at hone
  simpa [arrivals] using hone

/-- Full packets do not. -/
theorem oneFrame_full (hm : 0 < m) : oneFrame m buflen (reads.map .packet) = none := by
  cases hone : oneFrame m buflen (reads.map .packet) with
  | none => rfl
  | some outcome =>
    obtain ⟨res, rest⟩ := outcome
    have hlast := oneFrame_short hbuf hdvd hreads [] hm
    rw [List.map_append, List.map_singleton, oneFrame, fill_append hone] at hlast
    simp at hlast

end Call

/-! ## The worker -/

/-- How a worker is set up; `clock` has the readings for each frame. The packet size is what `run`
asserts it to be. -/
structure UsbRxConfig where
  maxUsbFrameSize : Nat
  isPowerOfTwo : ∃ k, maxUsbFrameSize = 2 ^ k
  buflen : Nat
  liveness : Bool
  clock : Nat → FrameClock

theorem UsbRxConfig.pos (cfg : UsbRxConfig) : 0 < cfg.maxUsbFrameSize := by
  obtain ⟨k, hk⟩ := cfg.isPowerOfTwo
  rw [hk]
  exact Nat.two_pow_pos k

/-- What a worker is at: it waits for its first connection or for another one, it is in one, or it
has been dropped. -/
inductive ConnPhase
  | starting | connected | lost | dropped
deriving DecidableEq

/-- What comes from the endpoint, the watch that tells of suspension, and the timer, or the owner
drops the worker. -/
inductive UsbRxEvent
  | enabled
  | arrival (a : Arrival)
  | suspend (suspended : Bool)
  | timeout
  | stop

/-- No packet is longer than those of the endpoint. -/
def UsbRxEvent.Fits (m : Nat) : UsbRxEvent → Prop
  | .arrival (.packet p) => p.length ≤ m
  | _ => True

/-- The packet that a read has returned. -/
def Arrival.packet? : Arrival → Option (List UInt8)
  | .packet p => some p
  | .disabled => none

/-- A worker; `reads` is what the call of `one_frame` that it waits for has read. The code has no
fields `frames` and `trace`: they record the frames that were handed on, and the packets that were
read with the interruptions between them. -/
structure UsbRx (κ P ι : Type) where
  link : Watched κ P ι
  phase : ConnPhase
  reads : List (List UInt8)
  haveReceived : Bool
  frames : List (List UInt8)
  trace : List (Option (List UInt8))

namespace UsbRx

variable {κ P ι : Type}

/-- A worker that `run` is called of. -/
def new (link : Watched κ P ι) : UsbRx κ P ι := ⟨link, .starting, [], false, [], []⟩

/-- The call of `one_frame` is dropped. -/
def interrupt (s : UsbRx κ P ι) : UsbRx κ P ι := { s with reads := [], trace := s.trace ++ [none] }

variable [SocketVTable κ] [Profile P ι] (cfg : UsbRxConfig)

/-- A call has returned a frame. -/
def process (s : UsbRx κ P ι) (data : List UInt8) : UsbRx κ P ι :=
  { s with
    link := s.link.feed data (cfg.clock s.frames.length)
    haveReceived := true
    frames := s.frames ++ [data] }

/-- A read of `one_frame` has returned. -/
def arrival (s : UsbRx κ P ι) (a : Arrival) : UsbRx κ P ι :=
  let s' := { s with reads := [], trace := s.trace ++ [a.packet?] }
  match oneFrame cfg.maxUsbFrameSize cfg.buflen (s.reads.map .packet ++ [a]) with
  | none => { s' with reads := s.reads ++ a.packet?.toList }
  | some (.ok data, _) => s'.process cfg data
  | some (.error .receivedMessageTooLarge, _) => s'
  | some (.error .connectionClosed, _) =>
    { s' with link := s.link.setState .down, phase := .lost }

/-- `run` and `one_conn`. -/
def step (s : UsbRx κ P ι) (event : UsbRxEvent) : UsbRx κ P ι :=
  match s.phase, event with
  | .dropped, _ => s
  | _, .stop => { s.interrupt with link := s.link.setState .down, phase := .dropped }
  | .connected, .arrival a => s.arrival cfg a
  | .connected, .suspend suspended =>
    if suspended then { s.interrupt with link := s.link.idle, haveReceived := false }
    else s.interrupt
  | .connected, .timeout =>
    if cfg.liveness && s.haveReceived then
      { s.interrupt with link := s.link.idle, haveReceived := false }
    else s
  | .connected, .enabled => s
  | _, .enabled =>
    -- no call of `one_frame` is left over from an earlier connection
    { s with link := s.link.connect, phase := .connected, haveReceived := false }
  | _, _ => s

variable {cfg}

/-- What a read does, by what `one_frame` is at. -/
inductive ArrivalSpec (cfg : UsbRxConfig) (s : UsbRx κ P ι) : Arrival → UsbRx κ P ι → Prop
  | more {p : List UInt8} (hfull : p.length = cfg.maxUsbFrameSize)
      (hwait : oneFrame cfg.maxUsbFrameSize cfg.buflen ((s.reads ++ [p]).map .packet) = none) :
      ArrivalSpec cfg s (.packet p)
        { s with reads := s.reads ++ [p], trace := s.trace ++ [some p] }
  | frame {p : List UInt8} (hshort : p.length ≠ cfg.maxUsbFrameSize) :
      ArrivalSpec cfg s (.packet p)
        ({ s with reads := [], trace := s.trace ++ [some p] }.process cfg (s.reads.flatten ++ p))
  | tooLarge {p : List UInt8} :
      ArrivalSpec cfg s (.packet p) { s with reads := [], trace := s.trace ++ [some p] }
  | closed : ArrivalSpec cfg s .disabled
      { s.interrupt with link := s.link.setState .down, phase := .lost }

theorem arrival_spec {s : UsbRx κ P ι}
    (h : oneFrame cfg.maxUsbFrameSize cfg.buflen (s.reads.map .packet) = none) (a : Arrival) :
    ArrivalSpec cfg s a (s.arrival cfg a) := by
  have hspec := oneFrame_snoc cfg.pos h a
  unfold arrival
  generalize hone : oneFrame cfg.maxUsbFrameSize cfg.buflen (s.reads.map .packet ++ [a]) = outcome
    at hspec
  cases hspec with
  | @more p hfull => exact .more hfull (by rw [List.map_append, List.map_singleton, hone])
  | frame hshort => exact .frame hshort
  | tooLarge => exact .tooLarge
  | closed => exact .closed

/-! ### The observer -/

/-- What an observer can rely on. -/
structure Observed (s : UsbRx κ P ι) : Prop where
  current : s.link.Current
  up : s.phase = .connected → s.link.current ≠ some .down
  down : s.phase = .lost ∨ s.phase = .dropped →
    s.link.current = some .down ∨ s.link.current = none

section Observer

variable [Interfaces P] {s : UsbRx κ P ι}

omit [SocketVTable κ] in
/-- The connection is lost, or the worker is dropped. -/
theorem observed_setDown {link : Watched κ P ι} (hlink : s.link = link.setState .down)
    (hphase : s.phase = .lost ∨ s.phase = .dropped) : s.Observed where
  current := hlink ▸ link.current_setState .down
  up h := by rcases hphase with hphase | hphase <;> exact nomatch hphase.symm.trans h
  down _ := by
    rw [hlink, Watched.setState_current]
    cases link.current with
    | none => exact .inr rfl
    | some state => exact .inl rfl

/-- A frame does not take an interface down. -/
theorem Observed.process (h : s.Observed) (hphase : s.phase = .connected) (data : List UInt8) :
    (s.process cfg data).Observed where
  current := h.current.feed data _
  up _ := by
    show (s.link.feed data (cfg.clock s.frames.length)).current ≠ _
    rcases s.link.feed_current data (cfg.clock s.frames.length) with hsame | ⟨netId, nodeId, hup⟩
    · rw [hsame]
      exact h.up hphase
    · rw [hup]
      exact nofun
  down hdown := by
    rcases hdown with hdown | hdown <;> exact nomatch hphase.symm.trans hdown

omit [SocketVTable κ] in
/-- Neither does a pause. -/
theorem Observed.idle (h : s.Observed) (hphase : s.phase = .connected) :
    Observed { s.interrupt with link := s.link.idle, haveReceived := false } where
  current := Watched.current_notify _
  up _ := by
    show s.link.idle.current ≠ _
    rcases s.link.idle_current with hsame | hidle
    · rw [hsame]
      exact h.up hphase
    · rw [hidle]
      exact nofun
  down hdown := by
    rcases hdown with hdown | hdown <;> exact nomatch hphase.symm.trans hdown

theorem Observed.arrival (h : s.Observed) (hphase : s.phase = .connected) (a : Arrival) :
    (s.arrival cfg a).Observed := by
  unfold UsbRx.arrival
  split
  · exact ⟨h.current, h.up, h.down⟩
  · next data rest _ =>
    exact Observed.process (s := { s with reads := [], trace := s.trace ++ [a.packet?] })
      ⟨h.current, h.up, h.down⟩ hphase data
  · exact ⟨h.current, h.up, h.down⟩
  · exact observed_setDown rfl (.inl rfl)

/-- What one step preserves. -/
theorem Observed.step (h : s.Observed) (event : UsbRxEvent) : (s.step cfg event).Observed := by
  unfold UsbRx.step
  split
  · exact h
  · exact observed_setDown rfl (.inr rfl)
  · next a hphase => exact h.arrival hphase a
  · next suspended hphase =>
    split
    · exact h.idle hphase
    · exact ⟨h.current, h.up, h.down⟩
  · next hphase =>
    split
    · exact h.idle hphase
    · exact h
  · exact h
  · refine ⟨Watched.current_notify _, fun _ => s.link.connect_current, fun hdown => ?_⟩
    rcases hdown with hdown | hdown <;> exact nomatch hdown
  · exact h

/-- Whatever happens to the bus: an observer that sleeps until it is woken has seen the state of
the interface, provided that it had to begin with. The interface is not down while there is a
connection, and it is when the connection is lost. -/
theorem run_watched (cfg : UsbRxConfig) (link : Watched κ P ι) (hlink : link.Current)
    (script : List UsbRxEvent) : (Runs.runAll (step cfg) (new link) script).Observed := by
  refine Runs.runAll_inv (I := Observed) (fun _ event h => h.step event) ⟨hlink, ?_, ?_⟩ script
  · exact nofun
  · rintro (h | h) <;> cases h

end Observer

/-! ### The frames -/

/-- The runs of packets that are read without an interruption. -/
def runs (cfg : UsbRxConfig) (s : UsbRx κ P ι) : Cut UInt8 := Cut.seen cfg.maxUsbFrameSize s.trace

/-- What is known of a call that waits, and of the frames before it. -/
structure Inv (cfg : UsbRxConfig) (s : UsbRx κ P ι) : Prop where
  waits : oneFrame cfg.maxUsbFrameSize cfg.buflen (s.reads.map .packet) = none
  full : ∀ p ∈ s.reads, p.length = cfg.maxUsbFrameSize
  reads : s.reads.flatten <:+ (s.runs cfg).current
  frames : List.SublistForall₂ (· <:+ ·) s.frames (s.runs cfg).ended

section Frames

variable {s s' : UsbRx κ P ι}

omit [SocketVTable κ] [Profile P ι] in
theorem inv_new (link : Watched κ P ι) : (new link).Inv cfg :=
  ⟨rfl, nofun, List.suffix_refl _, .nil⟩

omit [SocketVTable κ] [Profile P ι] in
theorem runs_packet (cfg : UsbRxConfig) (s s' : UsbRx κ P ι) {p : List UInt8}
    (h : s'.trace = s.trace ++ [some p]) :
    s'.runs cfg = (s.runs cfg).next cfg.maxUsbFrameSize p := by
  rw [runs, h, Cut.seen_append_singleton]
  rfl

omit [SocketVTable κ] [Profile P ι] in
/-- A call has been dropped, or has ended without a frame. -/
theorem Inv.interrupt (h : s.Inv cfg) (hreads : s'.reads = []) (hframes : s'.frames = s.frames)
    (htrace : s'.trace = s.trace ++ [none]) : s'.Inv cfg := by
  have hruns : s'.runs cfg = { s.runs cfg with current := [] } := by
    rw [runs, htrace, Cut.seen_append_singleton]
    rfl
  refine ⟨?_, ?_, ?_, ?_⟩
  · rw [hreads]
    rfl
  · rw [hreads]
    exact nofun
  · rw [hreads]
    exact List.nil_suffix
  · rw [hframes, hruns]
    exact h.frames

theorem Inv.arrival (h : s.Inv cfg) {a : Arrival}
    (hfits : (UsbRxEvent.arrival a).Fits cfg.maxUsbFrameSize) : (s.arrival cfg a).Inv cfg := by
  have hspec := arrival_spec h.waits a
  generalize s.arrival cfg a = s' at hspec
  cases hspec with
  | @more p hfull hwait =>
    have hruns := runs_packet cfg s
      { s with reads := s.reads ++ [p], trace := s.trace ++ [some p] } rfl
    have hopen : ¬ p.length < cfg.maxUsbFrameSize := by omega
    rw [Cut.next, if_neg hopen] at hruns
    refine ⟨hwait, fun q hq => ?_, ?_, ?_⟩
    · rcases List.mem_append.mp hq with hq | hq
      · exact h.full q hq
      · rwa [List.mem_singleton.mp hq]
    · obtain ⟨front, hfront⟩ := h.reads
      rw [hruns, List.flatten_append, List.flatten_singleton, ← hfront, List.append_assoc]
      exact List.suffix_append _ _
    · rw [hruns]
      exact h.frames
  | @frame p hshort =>
    have hended : p.length < cfg.maxUsbFrameSize := Nat.lt_of_le_of_ne hfits hshort
    have hruns := runs_packet cfg s
      ({ s with reads := [], trace := s.trace ++ [some p] }.process cfg (s.reads.flatten ++ p)) rfl
    rw [Cut.next, if_pos hended] at hruns
    refine ⟨rfl, List.forall_mem_nil _, List.nil_suffix, ?_⟩
    rw [hruns]
    refine Cut.sublistForall₂_append h.frames ?_
    obtain ⟨front, hfront⟩ := h.reads
    rw [← hfront, List.append_assoc]
    exact List.suffix_append _ _
  | @tooLarge p =>
    have hruns := runs_packet cfg s { s with reads := [], trace := s.trace ++ [some p] } rfl
    refine ⟨rfl, List.forall_mem_nil _, List.nil_suffix, ?_⟩
    rw [hruns]
    exact Cut.sublistForall₂_of_sublist h.frames
      (Cut.ended_prefix_foldl _ [p] (s.runs cfg)).sublist
  | closed => exact h.interrupt rfl rfl rfl

/-- What one step preserves. -/
theorem Inv.step (h : s.Inv cfg) {event : UsbRxEvent} (hfits : event.Fits cfg.maxUsbFrameSize) :
    (s.step cfg event).Inv cfg := by
  unfold UsbRx.step
  split
  · exact h
  · exact h.interrupt rfl rfl rfl
  · exact h.arrival hfits
  · split
    · exact h.interrupt rfl rfl rfl
    · exact h.interrupt rfl rfl rfl
  · split
    · exact h.interrupt rfl rfl rfl
    · exact h
  · exact h
  · exact ⟨h.waits, h.full, h.reads, h.frames⟩
  · exact h

/-- With a buffer of full packets nothing is lost but what does not fit the buffer. -/
structure Exact (cfg : UsbRxConfig) (s : UsbRx κ P ι) : Prop where
  full : ∀ p ∈ s.reads, p.length = cfg.maxUsbFrameSize
  reads : s.reads.flatten = (s.runs cfg).current
  frames : s.frames = (s.runs cfg).ended.filter (·.length ≤ cfg.buflen)

omit [SocketVTable κ] [Profile P ι] in
theorem exact_new (link : Watched κ P ι) : (new link).Exact cfg := ⟨nofun, rfl, rfl⟩

omit [SocketVTable κ] [Profile P ι] in
theorem Exact.interrupt (h : s.Exact cfg) (hreads : s'.reads = [])
    (hframes : s'.frames = s.frames) (htrace : s'.trace = s.trace ++ [none]) : s'.Exact cfg := by
  have hruns : s'.runs cfg = { s.runs cfg with current := [] } := by
    rw [runs, htrace, Cut.seen_append_singleton]
    rfl
  refine ⟨?_, ?_, ?_⟩
  · rw [hreads]
    exact nofun
  · rw [hreads, hruns]
    rfl
  · rw [hframes, hruns]
    exact h.frames

variable (hbuf : 0 < cfg.buflen) (hdvd : cfg.maxUsbFrameSize ∣ cfg.buflen)

include hbuf hdvd

theorem Exact.arrival (h : s.Exact cfg) {a : Arrival}
    (hfits : (UsbRxEvent.arrival a).Fits cfg.maxUsbFrameSize) : (s.arrival cfg a).Exact cfg := by
  have hwaits := oneFrame_full hbuf hdvd h.full cfg.pos
  cases a with
  | disabled =>
    have hspec := arrival_spec hwaits .disabled
    generalize s.arrival cfg .disabled = s' at hspec
    cases hspec
    exact h.interrupt rfl rfl rfl
  | packet p =>
    have hruns : ∀ {s' : UsbRx κ P ι}, s'.trace = s.trace ++ [some p] →
        s'.runs cfg = (s.runs cfg).next cfg.maxUsbFrameSize p := runs_packet cfg s _
    rcases Nat.lt_or_eq_of_le hfits with hshort | hfull
    · -- the run has ended
      have hone := oneFrame_short hbuf hdvd h.full p hshort
      rw [List.map_append, List.map_singleton] at hone
      have hrun : (s.runs cfg).next cfg.maxUsbFrameSize p =
          ⟨(s.runs cfg).ended ++ [s.reads.flatten ++ p], []⟩ := by
        rw [Cut.next, if_pos hshort, h.reads]
      unfold UsbRx.arrival
      rw [hone, expected]
      by_cases hroom : (s.reads.flatten ++ p).length ≤ cfg.buflen
      · rw [if_pos hroom]
        refine ⟨List.forall_mem_nil _, ?_, ?_⟩
        · rw [hruns rfl, hrun]
          rfl
        · rw [hruns rfl, hrun, List.filter_append, ← h.frames, List.filter_singleton,
            decide_eq_true hroom]
          rfl
      · rw [if_neg hroom]
        refine ⟨List.forall_mem_nil _, ?_, ?_⟩
        · rw [hruns rfl, hrun]
          rfl
        · rw [hruns rfl, hrun, List.filter_append, ← h.frames, List.filter_singleton,
            decide_eq_false hroom]
          exact (List.append_nil _).symm
    · -- the run goes on
      have hall : ∀ q ∈ s.reads ++ [p], q.length = cfg.maxUsbFrameSize := by
        intro q hq
        rcases List.mem_append.mp hq with hq | hq
        · exact h.full q hq
        · rwa [List.mem_singleton.mp hq]
      have hone := oneFrame_full hbuf hdvd hall cfg.pos
      rw [List.map_append, List.map_singleton] at hone
      have hrun : (s.runs cfg).next cfg.maxUsbFrameSize p =
          ⟨(s.runs cfg).ended, (s.runs cfg).current ++ p⟩ := by
        rw [Cut.next, if_neg (Nat.not_lt.mpr (Nat.le_of_eq hfull.symm))]
      unfold UsbRx.arrival
      rw [hone]
      refine ⟨hall, ?_, ?_⟩
      · rw [hruns rfl, hrun, ← h.reads]
        simp [Arrival.packet?]
      · rw [hruns rfl, hrun]
        exact h.frames

theorem Exact.step (h : s.Exact cfg) {event : UsbRxEvent} (hfits : event.Fits cfg.maxUsbFrameSize) :
    (s.step cfg event).Exact cfg := by
  unfold UsbRx.step
  split
  · exact h
  · exact h.interrupt rfl rfl rfl
  · exact h.arrival hbuf hdvd hfits
  · split
    · exact h.interrupt rfl rfl rfl
    · exact h.interrupt rfl rfl rfl
  · split
    · exact h.interrupt rfl rfl rfl
    · exact h
  · exact h
  · exact ⟨h.full, h.reads, h.frames⟩
  · exact h

end Frames

/-- Whatever happens to the bus: what is handed on are ends of the runs of packets that were read
without an interruption, in order; with a buffer of full packets it is the runs that fit it. -/
theorem frames_of_runs (cfg : UsbRxConfig) (link : Watched κ P ι) (script : List UsbRxEvent)
    (hscript : ∀ event ∈ script, event.Fits cfg.maxUsbFrameSize) :
    let s := Runs.runAll (step cfg) (new link) script
    List.SublistForall₂ (· <:+ ·) s.frames (s.runs cfg).ended ∧
      (0 < cfg.buflen → cfg.maxUsbFrameSize ∣ cfg.buflen →
        s.frames = (s.runs cfg).ended.filter (·.length ≤ cfg.buflen)) := by
  have hinv := Runs.runAll_inv_of_forall (I := Inv cfg) (G := UsbRxEvent.Fits cfg.maxUsbFrameSize)
    (fun _ _ hfits h => h.step hfits) (inv_new link) hscript
  refine ⟨hinv.frames, fun hbuf hdvd => ?_⟩
  exact (Runs.runAll_inv_of_forall (I := Exact cfg) (G := UsbRxEvent.Fits cfg.maxUsbFrameSize)
    (fun _ _ hfits h => h.step hbuf hdvd hfits) (exact_new link) hscript).frames

/-! ### A device -/

/-- A device with packets of four bytes and a buffer for two of them. -/
def demoUsbConfig : UsbRxConfig where
  maxUsbFrameSize := 4
  isPowerOfTwo := ⟨2, rfl⟩
  buflen := 8
  liveness := true
  clock _ := ⟨0, .at 0, .at 0⟩

/-- It has not heard from anyone yet. -/
def demoDevice : Watched OwnedSocket (DirectEdge FrameQueue) Unit :=
  ⟨⟨(), .edge .new⟩, ⟨[], .newTarget ⟨1000, 4, []⟩⟩, some .down⟩

/-- A frame of five bytes, one that is cut by a suspension, and the end of the connection. -/
def demoUsbScript : List UsbRxEvent :=
  [.enabled, .arrival (.packet [1, 2, 3, 4]), .arrival (.packet [5]),
    .arrival (.packet [6, 7, 8, 9]), .suspend true, .arrival (.packet [10]), .arrival .disabled]

theorem run_watched_demo :
    (Runs.runAll (step demoUsbConfig) (new demoDevice) demoUsbScript).Observed :=
  run_watched demoUsbConfig demoDevice rfl demoUsbScript

theorem frames_of_runs_demo :
    let s := Runs.runAll (step demoUsbConfig) (new demoDevice) demoUsbScript
    s.frames = (s.runs demoUsbConfig).ended.filter (·.length ≤ 8) :=
  (frames_of_runs demoUsbConfig demoDevice demoUsbScript
    (by simp [demoUsbScript, demoUsbConfig, UsbRxEvent.Fits])).2 (by decide) (by decide)

end UsbRx

end Ergot.Usb
