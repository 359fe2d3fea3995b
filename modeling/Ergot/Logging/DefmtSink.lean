import Ergot.Lib.ContiguousRing

/-!
# The defmt sink

`logging/defmt_sink.rs` with the network output: the encoder of a log message writes its bytes in
pieces, which are accumulated in a scratch buffer. The whole frame is put into a ring with framed
grants, or none of it, and a consumer takes the frames out again. Where the ring places a grant is
a parameter, and so is the encoder.

- `maxFrameSize` and `BufSize` are the constants and what the build asserts of them.
- `FrameAccumulator` and `Scratch` are one frame. `FrameAccumulator.Holds` is the invariant: what
  the two know of the bytes that were written.
- `Logger` is the `defmt::Logger`, with the queue. `Log` says what it is for: the frames that
  were closed, each whole, and those that the consumer has released. `Logger.Refines` connects
  them, and `Logger.run_whole_frames` is the result for every run.
- `defmt_sink_whole_frames`: nothing but whole frames is committed, and an empty queue has room
  for every frame, wherever its offsets are.
-/

namespace Ergot

namespace DefmtSink

/-- `MAX_FRAME_SIZE`, for a queue of so many bytes. -/
def maxFrameSize (bufSize : Nat) : Nat := bufSize / 2 - 4

/-- A `DEFMT_SINK_BUF_SIZE` that builds. -/
structure BufSize where
  size : Nat
  large : 16 < size
  u16 : maxFrameSize size < UInt16.size

/-- What a framed queue needs for a frame: the length comes first, as a `u16`. -/
def framed (n : Nat) : Nat := n + 2

/-- The grant of a whole frame takes at most half of the queue. -/
theorem framed_le {bufSize n : Nat} (hsize : 16 < bufSize) (hn : n ≤ maxFrameSize bufSize) :
    2 * framed n ≤ bufSize := by
  unfold framed
  unfold maxFrameSize at hn
  omega

abbrev Queue := ContiguousRing (List UInt8)

variable {b : BufSize}

/-! ## Whole frames -/

/-- A frame that is committed, if it is not empty, not too long, and there is a grant. -/
def Fits (b : BufSize) (place : Placement) (queue : Queue) (frame : List UInt8) : Prop :=
  frame ≠ [] ∧ frame.length ≤ maxFrameSize b.size ∧
    (queue.grant place (framed frame.length)).isSome

/-- All of a frame, or nothing. -/
def offer (b : BufSize) (place : Placement) (queue : Queue) (frame : List UInt8) : Queue :=
  if frame = [] ∨ maxFrameSize b.size < frame.length then queue
  else queue.push place (framed frame.length) frame

theorem offer_of_fits {place : Placement} {queue : Queue} {frame : List UInt8}
    (h : Fits b place queue frame) :
    (offer b place queue frame).items = queue.items ++ [frame] := by
  obtain ⟨hne, hle, hgrant⟩ := h
  unfold offer
  rw [if_neg (not_or.mpr ⟨hne, Nat.not_lt.mpr hle⟩), ContiguousRing.items_push, if_pos hgrant]

theorem offer_of_not_fits {place : Placement} {queue : Queue} {frame : List UInt8}
    (h : ¬ Fits b place queue frame) : offer b place queue frame = queue := by
  unfold offer
  split
  · rfl
  · next hfits =>
    obtain ⟨hne, hle⟩ := not_or.mp hfits
    have hnone : queue.grant place (framed frame.length) = none :=
      Option.not_isSome_iff_eq_none.mp fun hgrant => h ⟨hne, Nat.not_lt.mp hle, hgrant⟩
    unfold ContiguousRing.push
    rw [hnone]

theorem held_offer {queue : Queue} (h : queue.Held) (place : Placement) (frame : List UInt8) :
    (offer b place queue frame).Held := by
  unfold offer
  split
  · exact h
  · exact h.push place _ frame

theorem size_offer (place : Placement) (queue : Queue) (frame : List UInt8) :
    (offer b place queue frame).size = queue.size := by
  unfold offer
  split
  · rfl
  · exact queue.size_push place _ frame

theorem sublist_offer {place : Placement} {queue : Queue} {released closed : List (List UInt8)}
    (h : (released ++ queue.items).Sublist closed) (frame : List UInt8) :
    (released ++ (offer b place queue frame).items).Sublist (closed ++ [frame]) := by
  by_cases hfits : Fits b place queue frame
  · have hitems : (offer b place queue frame).items = queue.items ++ [frame] :=
      offer_of_fits hfits
    rw [hitems, ← List.append_assoc]
    exact h.append (List.Sublist.refl _)
  · rw [offer_of_not_fits hfits]
    exact h.trans (List.sublist_append_left _ _)

/-! ## One frame -/

/-- `SCRATCH`, with whatever earlier frames left in it. -/
structure Scratch (b : BufSize) where
  bytes : List UInt8
  length_eq : bytes.length = maxFrameSize b.size

namespace Scratch

def new : Scratch b := ⟨.replicate (maxFrameSize b.size) 0, List.length_replicate⟩

/-- `scratch[pos..pos + data.len()].copy_from_slice(data)`. -/
def copyFromSlice (scratch : Scratch b) (pos : Nat) (data : List UInt8)
    (h : pos + data.length ≤ maxFrameSize b.size) : Scratch b where
  bytes := scratch.bytes.take pos ++ data ++ scratch.bytes.drop (pos + data.length)
  length_eq := by
    have hlen := scratch.length_eq
    simp only [List.length_append, List.length_take, List.length_drop]
    omega

theorem take_copyFromSlice (scratch : Scratch b) {pos : Nat} {data : List UInt8}
    (h : pos + data.length ≤ maxFrameSize b.size) :
    (scratch.copyFromSlice pos data h).bytes.take (pos + data.length) =
      scratch.bytes.take pos ++ data := by
  have hpos : (scratch.bytes.take pos).length = pos := by
    rw [List.length_take, scratch.length_eq]
    omega
  exact List.take_left' (by rw [List.length_append, hpos])

end Scratch

structure FrameAccumulator (b : BufSize) where
  pos : Nat
  truncated : Bool
  pos_le : pos ≤ maxFrameSize b.size

namespace FrameAccumulator

/-- `FrameAccumulator::try_new`. -/
def tryNew : Option (FrameAccumulator b) := some ⟨0, false, Nat.zero_le _⟩

/-- `FrameAccumulator::write`: what does not fit is left out, and the frame is marked. -/
def write (acc : FrameAccumulator b) (scratch : Scratch b) (data : List UInt8) :
    FrameAccumulator b × Scratch b :=
  let remaining := maxFrameSize b.size - acc.pos
  let truncated := if data.length > remaining then true else acc.truncated
  let toWrite := min data.length remaining
  have hfits : acc.pos + (data.take toWrite).length ≤ maxFrameSize b.size := by
    have hpos := acc.pos_le
    rw [List.length_take]
    omega
  if toWrite > 0 then
    (⟨acc.pos + (data.take toWrite).length, truncated, hfits⟩,
      scratch.copyFromSlice acc.pos (data.take toWrite) hfits)
  else ({ acc with truncated }, scratch)

/-- One piece after the other. -/
def writeAll : FrameAccumulator b × Scratch b → List (List UInt8) → FrameAccumulator b × Scratch b
  | (acc, scratch), [] => (acc, scratch)
  | (acc, scratch), data :: writes => writeAll (acc.write scratch data) writes

/-- `FrameAccumulator::commit`; `none` is the panic of a slice that is out of bounds. A frame for
which there is no grant is dropped. -/
def commit (place : Placement) (acc : FrameAccumulator b) (scratch : Scratch b) (queue : Queue) :
    Option Queue :=
  if acc.truncated || acc.pos == 0 then some queue
  else
    -- `self.pos as u16`
    let len := acc.pos % UInt16.size
    match queue.grant place (framed len) with
    | none => some queue
    | some start =>
      if acc.pos ≤ len then some (queue.commit start (framed len) (scratch.bytes.take acc.pos))
      else none

theorem truncated_write (acc : FrameAccumulator b) (scratch : Scratch b) (data : List UInt8) :
    (acc.write scratch data).1.truncated = true ↔
      maxFrameSize b.size < acc.pos + data.length ∨ acc.truncated = true := by
  have hpos := acc.pos_le
  have htruncated : (acc.write scratch data).1.truncated =
      if data.length > maxFrameSize b.size - acc.pos then true else acc.truncated := by
    unfold write
    dsimp only
    split <;> rfl
  rw [htruncated]
  split
  · exact iff_of_true rfl (.inl (by omega))
  · exact ⟨.inr, fun h => h.resolve_left (by omega)⟩

/-- A piece that fits is written behind what is there. -/
theorem write_of_fits (acc : FrameAccumulator b) (scratch : Scratch b) {data : List UInt8}
    (h : acc.pos + data.length ≤ maxFrameSize b.size) :
    (acc.write scratch data).1.pos = acc.pos + data.length ∧
      (acc.write scratch data).2.bytes.take (acc.write scratch data).1.pos =
        scratch.bytes.take acc.pos ++ data := by
  have hmin : min data.length (maxFrameSize b.size - acc.pos) = data.length := by omega
  unfold write
  simp only [hmin, List.take_length]
  split
  · exact ⟨rfl, scratch.take_copyFromSlice h⟩
  · next hzero =>
    have hnil : data = [] := List.length_eq_zero_iff.mp (Nat.eq_zero_of_not_pos hzero)
    subst hnil
    exact ⟨rfl, (List.append_nil _).symm⟩

/-- What an accumulator and its scratch buffer know of the bytes that were written. -/
structure Holds (acc : FrameAccumulator b) (scratch : Scratch b) (data : List UInt8) : Prop where
  truncated : acc.truncated = true ↔ maxFrameSize b.size < data.length
  kept : data.length ≤ maxFrameSize b.size →
    acc.pos = data.length ∧ scratch.bytes.take acc.pos = data

theorem holds_new {acc : FrameAccumulator b} (h : tryNew = some acc) (scratch : Scratch b) :
    acc.Holds scratch [] := by
  cases h
  exact ⟨iff_of_false nofun (Nat.not_lt_zero _), fun _ => ⟨rfl, rfl⟩⟩

theorem Holds.write {acc : FrameAccumulator b} {scratch : Scratch b} {data : List UInt8}
    (h : acc.Holds scratch data) (more : List UInt8) :
    (acc.write scratch more).1.Holds (acc.write scratch more).2 (data ++ more) := by
  by_cases hlen : data.length ≤ maxFrameSize b.size
  · obtain ⟨hpos, hbytes⟩ := h.kept hlen
    have hnot : ¬ acc.truncated = true := fun ht => Nat.not_lt.mpr hlen (h.truncated.mp ht)
    constructor
    · rw [truncated_write, List.length_append, hpos, or_iff_left hnot]
    · intro hfits
      rw [List.length_append, ← hpos] at hfits
      obtain ⟨hpos', hbytes'⟩ := acc.write_of_fits scratch hfits
      exact ⟨by rw [hpos', hpos, List.length_append], by rw [hbytes', hbytes]⟩
  · -- a frame that is too long stays so
    have htoo : maxFrameSize b.size < (data ++ more).length := by
      rw [List.length_append]
      omega
    constructor
    · exact iff_of_true ((truncated_write acc scratch more).mpr
        (.inr (h.truncated.mpr (Nat.not_le.mp hlen)))) htoo
    · exact fun hle => absurd htoo (Nat.not_lt.mpr hle)

theorem Holds.writeAll {acc : FrameAccumulator b} {scratch : Scratch b} {data : List UInt8}
    (h : acc.Holds scratch data) (writes : List (List UInt8)) :
    (FrameAccumulator.writeAll (acc, scratch) writes).1.Holds
      (FrameAccumulator.writeAll (acc, scratch) writes).2 (data ++ writes.flatten) := by
  induction writes generalizing acc scratch data with
  | nil =>
    rw [List.flatten_nil, List.append_nil]
    exact h
  | cons more writes ih =>
    rw [List.flatten_cons, ← List.append_assoc]
    exact ih (h.write more)

/-- A frame is pushed whole, unless it is empty or too long. -/
theorem Holds.commit {acc : FrameAccumulator b} {scratch : Scratch b} {data : List UInt8}
    (h : acc.Holds scratch data) (place : Placement) (queue : Queue) :
    acc.commit place scratch queue =
      some (offer b place queue data) := by
  unfold offer
  by_cases hlen : data.length ≤ maxFrameSize b.size
  · obtain ⟨hpos, hbytes⟩ := h.kept hlen
    have hnot : acc.truncated = false :=
      Bool.eq_false_iff.mpr fun ht => Nat.not_lt.mpr hlen (h.truncated.mp ht)
    -- the build asserts that the length is a `u16`
    have hu16 : acc.pos % UInt16.size = acc.pos := by
      have hmax := b.u16
      exact Nat.mod_eq_of_lt (by omega)
    by_cases hnil : data = []
    · have hzero : acc.pos = 0 := by rw [hpos, hnil, List.length_nil]
      simp [FrameAccumulator.commit, hzero, hnil]
    · have hne : acc.pos ≠ 0 := by
        rw [hpos]
        exact fun hzero => hnil (List.length_eq_zero_iff.mp hzero)
      rw [if_neg (not_or.mpr ⟨hnil, Nat.not_lt.mpr hlen⟩)]
      simp only [FrameAccumulator.commit, hnot, hu16, hbytes, Bool.false_or, beq_iff_eq, hne,
        if_false, ContiguousRing.push]
      rw [← hpos]
      cases queue.grant place (framed acc.pos) with
      | none => rfl
      | some start => exact if_pos (Nat.le_refl _)
  · have htoo := h.truncated.mpr (Nat.not_le.mp hlen)
    rw [if_pos (.inr (Nat.not_le.mp hlen))]
    simp [FrameAccumulator.commit, htoo]

end FrameAccumulator

/-! ## The logger -/

/-- `defmt::Encoder`, by what it hands to `do_write`, piece by piece. -/
class Encoder (ε : Type) where
  startFrame : ε → ε × List (List UInt8)
  write : ε → List UInt8 → ε × List (List UInt8)
  endFrame : ε → ε × List (List UInt8)

/-- The `LoggerState`, the two flags that the network output is set up with, and the queue. -/
structure Logger (b : BufSize) (ε : Type) where
  networkEnabled : Bool
  consumerTaken : Bool
  taken : Bool
  encoder : ε
  frameAccumulator : Option (FrameAccumulator b)
  scratch : Scratch b
  queue : Queue

/-- What is done to a logger, and what the consumer does. -/
inductive LoggerAct
  | initNetwork
  | acquire
  | write (bytes : List UInt8)
  | release
  | read
  | releaseGrant

namespace Logger

variable {ε : Type} [Encoder ε]

def new (encoder : ε) : Logger b ε :=
  ⟨false, false, false, encoder, none, .new, .new b.size⟩

/-- `do_write`. -/
def doWrite (l : Logger b ε) (data : List UInt8) : Logger b ε :=
  match l.frameAccumulator with
  | none => l
  | some acc =>
    { l with
      frameAccumulator := some (acc.write l.scratch data).1
      scratch := (acc.write l.scratch data).2 }

/-- What the encoder made of a call is written. -/
def encode (l : Logger b ε) (out : ε × List (List UInt8)) : Logger b ε :=
  out.2.foldl doWrite { l with encoder := out.1 }

/-- `init_network`. There is one consumer. -/
def initNetwork (l : Logger b ε) : Option (Logger b ε) :=
  if l.consumerTaken then none else some { l with networkEnabled := true, consumerTaken := true }

/-- `Logger::acquire`. -/
def acquire (l : Logger b ε) : Option (Logger b ε) :=
  if l.taken then none
  else
    let frameAccumulator := if l.networkEnabled then FrameAccumulator.tryNew else none
    some ({ l with taken := true, frameAccumulator }.encode (Encoder.startFrame l.encoder))

/-- `Logger::write`. -/
def write (l : Logger b ε) (bytes : List UInt8) : Logger b ε :=
  l.encode (Encoder.write l.encoder bytes)

/-- `Logger::release`. -/
def release (place : Placement) (l : Logger b ε) : Option (Logger b ε) :=
  let l := l.encode (Encoder.endFrame l.encoder)
  match l.frameAccumulator with
  | none => some { l with taken := false }
  | some acc =>
    (acc.commit place l.scratch l.queue).map fun queue =>
      { l with frameAccumulator := none, queue, taken := false }

/-- `none` is a panic. -/
def step (place : Placement) (l : Logger b ε) : LoggerAct → Option (Logger b ε)
  | .initNetwork => l.initNetwork
  | .acquire => l.acquire
  | .write bytes => some (l.write bytes)
  | .release => l.release place
  | .read => some { l with queue := l.queue.peek }
  | .releaseGrant => some { l with queue := l.queue.release }

end Logger

/-! ## What a logger is for -/

/-- All frames that were meant for the network, each with all that the encoder wrote from
`acquire` to `release`, and those that the consumer has given back. -/
structure Log where
  /-- the frame that is being written -/
  current : Option (List UInt8)
  closed : List (List UInt8)
  /-- the frames whose read grants were released -/
  released : List (List UInt8)

namespace Logger

variable {ε : Type} [Encoder ε]

/-- The frame that `release` closes. -/
def closing (l : Logger b ε) (log : Log) : Option (List UInt8) :=
  log.current.map fun data => data ++ (Encoder.endFrame l.encoder).2.flatten

/-- The log of what is done to a logger. -/
def record (l : Logger b ε) (log : Log) : LoggerAct → Log
  | .acquire =>
    { log with
      current := if l.networkEnabled then some (Encoder.startFrame l.encoder).2.flatten else none }
  | .write bytes =>
    { log with
      current := log.current.map fun data => data ++ (Encoder.write l.encoder bytes).2.flatten }
  | .release => { log with current := none, closed := log.closed ++ (l.closing log).toList }
  | .releaseGrant => { log with released := log.released ++ l.queue.items.head?.toList }
  | .initNetwork | .read => log

/-- A logger, with its log. -/
def logged (place : Placement) (s : Logger b ε × Log) (a : LoggerAct) : Option (Logger b ε × Log) :=
  (s.1.step place a).map fun l => (l, s.1.record s.2 a)

/-- The frame that is being accumulated is the one of the log. -/
def Accumulates (l : Logger b ε) (current : Option (List UInt8)) : Prop :=
  Option.Rel (fun acc data => acc.Holds l.scratch data) l.frameAccumulator current

/-- The frames that were released and those in the queue are some of the closed ones, in their
order. -/
structure Refines (l : Logger b ε) (log : Log) : Prop where
  accumulates : l.Accumulates log.current
  held : l.queue.Held
  size : l.queue.size = b.size
  whole : (log.released ++ l.queue.items).Sublist log.closed

omit [Encoder ε] in
theorem queue_encode (l : Logger b ε) (out : ε × List (List UInt8)) :
    (l.encode out).queue = l.queue := by
  have hpieces : ∀ (pieces : List (List UInt8)) (l : Logger b ε),
      (pieces.foldl doWrite l).queue = l.queue := by
    intro pieces
    induction pieces with
    | nil => exact fun _ => rfl
    | cons data pieces ih =>
      intro l
      rw [List.foldl_cons, ih]
      unfold doWrite
      split <;> rfl
  exact hpieces out.2 _

omit [Encoder ε] in
theorem Accumulates.doWrite {l : Logger b ε} {current : Option (List UInt8)}
    (h : l.Accumulates current) (data : List UInt8) :
    (l.doWrite data).Accumulates (current.map (· ++ data)) := by
  unfold Accumulates at h
  cases hacc : l.frameAccumulator with
  | none =>
    rw [hacc] at h
    cases h
    have hsame : l.doWrite data = l := by
      unfold Logger.doWrite
      rw [hacc]
    rw [hsame]
    unfold Accumulates
    rw [hacc]
    exact .none
  | some acc =>
    rw [hacc] at h
    cases h with
    | some hholds =>
      unfold Accumulates Logger.doWrite
      rw [hacc]
      exact .some (hholds.write data)

omit [Encoder ε] in
theorem Accumulates.encode {l : Logger b ε} {current : Option (List UInt8)}
    (h : l.Accumulates current) (out : ε × List (List UInt8)) :
    (l.encode out).Accumulates (current.map (· ++ out.2.flatten)) := by
  have hpieces : ∀ (pieces : List (List UInt8)) {l : Logger b ε} {current : Option (List UInt8)},
      l.Accumulates current →
        (pieces.foldl Logger.doWrite l).Accumulates (current.map (· ++ pieces.flatten)) := by
    intro pieces
    induction pieces with
    | nil =>
      intro l current h
      simpa using h
    | cons data pieces ih =>
      intro l current h
      simpa [Option.map_map, Function.comp_def] using ih (h.doWrite data)
  exact hpieces out.2 h

omit [Encoder ε] in
theorem Refines.encode {l : Logger b ε} {log : Log} (h : l.Refines log)
    (out : ε × List (List UInt8)) :
    (l.encode out).Refines { log with current := log.current.map (· ++ out.2.flatten) } where
  accumulates := h.accumulates.encode out
  held := by rw [queue_encode]; exact h.held
  size := by rw [queue_encode]; exact h.size
  whole := by rw [queue_encode]; exact h.whole

omit [Encoder ε] in
theorem Refines.initNetwork {l l' : Logger b ε} {log : Log} (h : l.Refines log)
    (hstep : l.initNetwork = some l') : l'.Refines log := by
  unfold Logger.initNetwork at hstep
  split at hstep
  · cases hstep
  · cases hstep
    exact { h with }

theorem Refines.acquire {l l' : Logger b ε} {log : Log} (h : l.Refines log)
    (hstep : l.acquire = some l') : l'.Refines (l.record log .acquire) := by
  unfold Logger.acquire at hstep
  split at hstep
  · cases hstep
  · cases hstep
    have hcurrent :
        (if l.networkEnabled then some (Encoder.startFrame l.encoder).2.flatten else none) =
          (if l.networkEnabled then some [] else none).map
            (· ++ (Encoder.startFrame l.encoder).2.flatten) := by
      split <;> rfl
    have haccumulates : Option.Rel (fun acc data => FrameAccumulator.Holds acc l.scratch data)
        (if l.networkEnabled then FrameAccumulator.tryNew else none)
        (if l.networkEnabled then some [] else none) := by
      split
      · exact .some (FrameAccumulator.holds_new rfl l.scratch)
      · exact .none
    have hstart : ({ l with
          taken := true
          frameAccumulator := if l.networkEnabled then FrameAccumulator.tryNew else none } :
        Logger b ε).Refines { log with current := if l.networkEnabled then some [] else none } :=
      { h with accumulates := haccumulates }
    unfold record
    dsimp only
    rw [hcurrent]
    exact hstart.encode _

/-- What a release leaves in the queue. -/
theorem Refines.release_eq {l : Logger b ε} {log : Log} (h : l.Refines log) (place : Placement) :
    ∃ l', l.release place = some l' ∧ l'.frameAccumulator = none ∧
      l'.queue = (l.closing log).elim l.queue (offer b place l.queue) := by
  have hend := (h.encode (Encoder.endFrame l.encoder)).accumulates
  have hqueue := queue_encode l (Encoder.endFrame l.encoder)
  change Option.Rel _ _ (l.closing log) at hend
  unfold Logger.release
  dsimp only
  generalize (l.encode (Encoder.endFrame l.encoder)).frameAccumulator = acc,
    l.closing log = closing at hend
  cases hend with
  | none => exact ⟨_, rfl, rfl, hqueue⟩
  | some hholds =>
    dsimp only
    rw [hqueue, hholds.commit, Option.map_some]
    exact ⟨_, rfl, rfl, rfl⟩

theorem Refines.release {l l' : Logger b ε} {log : Log} (h : l.Refines log) {place : Placement}
    (hstep : l.release place = some l') : l'.Refines (l.record log .release) := by
  obtain ⟨l'', hl'', hacc, hqueue⟩ := h.release_eq place
  cases hl''.symm.trans hstep
  have haccumulates : l'.Accumulates none := by
    unfold Accumulates
    rw [hacc]
    exact .none
  unfold record
  cases hclosing : l.closing log with
  | none =>
    rw [hclosing, Option.elim_none] at hqueue
    exact
      { accumulates := haccumulates
        held := by rw [hqueue]; exact h.held
        size := by rw [hqueue]; exact h.size
        whole := by
          rw [hqueue]
          exact h.whole.trans (List.sublist_append_left _ _) }
  | some frame =>
    rw [hclosing, Option.elim_some] at hqueue
    exact
      { accumulates := haccumulates
        held := by rw [hqueue]; exact held_offer h.held place frame
        size := by rw [hqueue, size_offer]; exact h.size
        whole := by rw [hqueue]; exact sublist_offer h.whole frame }

/-- Every step keeps to the log. -/
theorem Refines.step {l l' : Logger b ε} {log : Log} (h : l.Refines log) {place : Placement}
    {a : LoggerAct} (hstep : l.step place a = some l') : l'.Refines (l.record log a) := by
  cases a with
  | initNetwork => exact h.initNetwork hstep
  | acquire => exact h.acquire hstep
  | write bytes =>
    cases hstep
    exact h.encode _
  | release => exact h.release hstep
  | read =>
    cases hstep
    exact
      { accumulates := h.accumulates
        held := h.held.peek
        size := l.queue.size_peek.trans h.size
        whole := by rw [ContiguousRing.items_peek]; exact h.whole }
  | releaseGrant =>
    cases hstep
    exact
      { accumulates := h.accumulates
        held := h.held.release
        size := l.queue.size_release.trans h.size
        whole := by
          -- the frame goes from the queue to the log, and the two together are as before
          have hsame : (log.released ++ l.queue.items.head?.toList) ++ l.queue.items.tail =
              log.released ++ l.queue.items := by
            rw [List.append_assoc]
            cases l.queue.items <;> rfl
          unfold record
          rw [ContiguousRing.items_release, hsame]
          exact h.whole }

omit [Encoder ε] in
theorem refines_new (encoder : ε) : (new encoder : Logger b ε).Refines ⟨none, [], []⟩ where
  accumulates := .none
  held := ContiguousRing.held_new b.size
  size := rfl
  whole := .refl []

/-- A run keeps to its log. -/
theorem run_keeps_log {place : Placement} {encoder : ε} {acts : List LoggerAct} {l : Logger b ε}
    {log : Log} (hrun : acts.foldlM (logged place) (new encoder, ⟨none, [], []⟩) = some (l, log)) :
    l.Refines log := by
  refine Runs.attemptAll_inv (I := fun s : Logger b ε × Log => s.1.Refines s.2) ?_
    (refines_new encoder) hrun
  rintro ⟨l, log⟩ a ⟨l', log'⟩ h hstep
  obtain ⟨l'', hl'', heq⟩ := Option.map_eq_some_iff.mp hstep
  cases heq
  exact h.step hl''

/-- In every run of a logger: what the consumer has released and what it still finds are frames
that were closed, each whole, in their order and none of them twice, and the next frame is queued
if it is the only one. A step that panics takes the logger twice, or the consumer. -/
theorem run_whole_frames {place : Placement} (hplace : place.Finds) {encoder : ε}
    {acts : List LoggerAct} {l : Logger b ε} {log : Log}
    (hrun : acts.foldlM (logged place) (new encoder, ⟨none, [], []⟩) = some (l, log)) :
    (log.released ++ l.queue.items).Sublist log.closed ∧
      (∀ frame, l.closing log = some frame → frame ≠ [] → frame.length ≤ maxFrameSize b.size →
        l.queue.items = [] → ∃ l', l.release place = some l' ∧ l'.queue.items = [frame]) ∧
      ∀ a, l.step place a = none →
        (a = .acquire ∧ l.taken) ∨ (a = .initNetwork ∧ l.consumerTaken) := by
  have h := run_keeps_log hrun
  refine ⟨h.whole, ?_, ?_⟩
  · intro frame hclosing hne hle hempty
    obtain ⟨l', hl', -, hqueue⟩ := h.release_eq place
    refine ⟨l', hl', ?_⟩
    have hroom : 2 * framed frame.length ≤ l.queue.size := by
      rw [h.size]
      exact framed_le b.large hle
    have hgrant := h.held.grant_of_empty hplace hempty hroom
    rw [hqueue, hclosing, Option.elim_some, offer_of_fits ⟨hne, hle, hgrant⟩, hempty,
      List.nil_append]
  · intro a hpanic
    cases a with
    | initNetwork =>
      refine .inr ⟨rfl, ?_⟩
      by_contra hfree
      change l.initNetwork = none at hpanic
      unfold Logger.initNetwork at hpanic
      rw [if_neg hfree] at hpanic
      cases hpanic
    | acquire =>
      refine .inl ⟨rfl, ?_⟩
      by_contra hfree
      change l.acquire = none at hpanic
      unfold Logger.acquire at hpanic
      rw [if_neg hfree] at hpanic
      cases hpanic
    | release =>
      obtain ⟨l', hl', -⟩ := h.release_eq place
      cases hl'.symm.trans hpanic
    | write bytes => cases hpanic
    | read => cases hpanic
    | releaseGrant => cases hpanic

end Logger

/-- The smallest queue, for frames of four bytes. -/
def demoBufSize : BufSize := ⟨17, by decide, by decide⟩

/-- An encoder that adds nothing to what it is given. -/
structure RawEncoder where

instance : Encoder RawEncoder where
  startFrame e := (e, [])
  write e bytes := (e, [bytes])
  endFrame e := (e, [])

/-- A message in two pieces, one that is too long, and one that finds the queue full. The consumer
takes the first. -/
def demoMessages : List LoggerAct :=
  [.initNetwork, .acquire, .write [1, 2], .write [3, 4], .release, .acquire, .write [5, 6, 7],
    .write [8, 9], .release, .acquire, .write [10, 11, 12, 13], .release, .acquire,
    .write [14, 15, 16, 17], .release, .read, .releaseGrant]

theorem Logger.run_whole_frames_demo :
    ∃ (l : Logger demoBufSize RawEncoder) (log : Log),
      demoMessages.foldlM (Logger.logged .bip) (Logger.new {}, ⟨none, [], []⟩) = some (l, log) ∧
        log.released = [[1, 2, 3, 4]] ∧ l.queue.items = [[10, 11, 12, 13]] ∧
          (log.released ++ l.queue.items).Sublist log.closed := by
  have hrun : demoMessages.foldlM (Logger.logged .bip)
      ((Logger.new {} : Logger demoBufSize RawEncoder), (⟨none, [], []⟩ : Log)) = some (_, _) := rfl
  exact ⟨_, _, hrun, rfl, rfl, (Logger.run_whole_frames Placement.bip_finds hrun).1⟩

/-! ## The sink -/

/-- An empty queue has a grant for every frame that is not too long, after any history and
wherever its offsets are. What is committed of a frame is all that was written, or nothing: if
there is no grant or it is too long, and if nothing was written. -/
theorem defmt_sink_whole_frames (place : Placement) (hplace : place.Finds) :
    (∀ (size : Nat) (history : List (ContiguousRing.Act (List UInt8))) (n : Nat), 16 < size →
      1 ≤ n → n ≤ maxFrameSize size →
      (Runs.runAll (ContiguousRing.act place) (.new size) history).items = [] →
        ((Runs.runAll (ContiguousRing.act place) (.new size) history).grant place
          (framed n)).isSome) ∧
    (∀ (b : BufSize) (acc : FrameAccumulator b) (scratch : Scratch b) (queue : Queue)
      (writes : List (List UInt8)), FrameAccumulator.tryNew = some acc →
      ∃ queue', (FrameAccumulator.writeAll (acc, scratch) writes).1.commit place
          (FrameAccumulator.writeAll (acc, scratch) writes).2 queue = some queue' ∧
        (Fits b place queue writes.flatten ∧ queue'.items = queue.items ++ [writes.flatten] ∨
          ¬ Fits b place queue writes.flatten ∧ queue' = queue)) := by
  constructor
  · intro size history n hsize _ hn hempty
    obtain ⟨hheld, heq⟩ := ContiguousRing.held_run place size history
    refine hheld.grant_of_empty hplace hempty ?_
    rw [heq]
    exact framed_le hsize hn
  · intro b acc scratch queue writes hnew
    have hholds := (FrameAccumulator.holds_new hnew scratch).writeAll writes
    rw [List.nil_append] at hholds
    refine ⟨_, hholds.commit place queue, ?_⟩
    by_cases hfits : Fits b place queue writes.flatten
    · exact .inl ⟨hfits, offer_of_fits hfits⟩
    · exact .inr ⟨hfits, offer_of_not_fits hfits⟩

/-- Two frames come and go. The offsets are at 12, and the next one lies at the front. -/
def demoHistory : List (ContiguousRing.Act (List UInt8)) :=
  [.push (framed 4) [1, 2, 3, 4], .peek, .release, .push (framed 4) [5, 6, 7, 8], .peek, .release]

/-- The largest frame is granted. Three bytes in two pieces are committed, and five are not. -/
theorem defmt_sink_whole_frames_demo :
    ((Runs.runAll (ContiguousRing.act .bip) (.new 17) demoHistory).grant .bip (framed 4)).isSome ∧
    ∃ acc : FrameAccumulator demoBufSize, FrameAccumulator.tryNew = some acc ∧
      (∃ queue', (FrameAccumulator.writeAll (acc, .new) [[1, 2], [3]]).1.commit .bip
          (FrameAccumulator.writeAll (acc, .new) [[1, 2], [3]]).2 (.new 17) = some queue' ∧
        queue'.items = [[1, 2, 3]]) ∧
      ∃ queue', (FrameAccumulator.writeAll (acc, .new) [[1, 2], [3, 4, 5]]).1.commit .bip
          (FrameAccumulator.writeAll (acc, .new) [[1, 2], [3, 4, 5]]).2 (.new 17) = some queue' ∧
        queue'.items = [] := by
  obtain ⟨hgrant, hwhole⟩ := defmt_sink_whole_frames .bip Placement.bip_finds
  refine ⟨hgrant 17 demoHistory 4 (by decide) (by decide) (by decide) rfl, _, rfl, ?_, ?_⟩
  · obtain ⟨queue', hcommit, ⟨-, hitems⟩ | ⟨hnot, -⟩⟩ :=
      hwhole demoBufSize _ .new (.new 17) [[1, 2], [3]] rfl
    · exact ⟨queue', hcommit, hitems⟩
    · exact absurd ⟨nofun, by decide, rfl⟩ hnot
  · obtain ⟨queue', hcommit, ⟨hfits, -⟩ | ⟨-, hsame⟩⟩ :=
      hwhole demoBufSize _ .new (.new 17) [[1, 2], [3, 4, 5]] rfl
    · exact absurd hfits.2.1 (by decide)
    · exact ⟨queue', hcommit, congrArg ContiguousRing.items hsame⟩

end DefmtSink

end Ergot
