import Ergot.Lib.Runs

/-!
# TX workers of a byte stream

The two loops that empty the byte queue of a stream interface into a writer: `tx_worker` with
`async_write_all` (transports/futures_io.rs), and `tx_worker` (interface_impls/embedded_io.rs).
A writer may take any part of what it is offered, and it may fail.

- `TxWorker` is a worker with its queue, and with what it has been given and what the writer
  has taken since the beginning.
- `TxStep` is one thing that happens to it. The two loops differ in when bytes leave the queue:
  `futuresPoll` releases a grant as a whole, `embeddedPoll` what was taken of it.
- `TxWorker.Inv` says where every byte is. `run_written` is the result: what is written is what
  was committed, in order, up to what is still in the queue.
-/

namespace Ergot

/-- How a worker ends: the queue gave it nothing, the writer took nothing or failed, or the
closer was woken. -/
inductive TxEnd
  | done | writeZero | failed | closed
deriving DecidableEq

/-- What a worker is at: it waits for the queue, it has `buf` left to write of a grant of `len`
bytes, it flushes the writer after them, or it has ended with `rest` of a grant not written. -/
inductive TxPhase
  | waitRead
  | writing (len : Nat) (buf : List UInt8)
  | flushing (len : Nat)
  | ended (res : TxEnd) (len : Nat) (rest : List UInt8)

/-- What polling a writer gives. -/
inductive WriterPoll
  | ready (n : Nat)
  | error

/-- A worker; `queue` is what has been committed and not released. -/
structure TxWorker where
  queue : List UInt8
  phase : TxPhase
  committed : List UInt8
  written : List UInt8

namespace TxWorker

/-- A worker before anything was committed. -/
def start : TxWorker := ⟨[], .waitRead, [], []⟩

/-- The producer commits bytes. -/
def commit (w : TxWorker) (bytes : List UInt8) : TxWorker :=
  { w with queue := w.queue ++ bytes, committed := w.committed ++ bytes }

/-- `wait_read`, of a grant of `len` bytes: where the ring wraps around, a grant is not all that
there is. -/
def waitRead (w : TxWorker) (len : Nat) : TxWorker :=
  match w.phase with
  | .waitRead =>
    let data := w.queue.take len
    { w with
      phase := if data.length = 0 then .ended .done 0 [] else .writing data.length data }
  | _ => w

/-- `release`, and the next turn of the loop. -/
def release (w : TxWorker) (len : Nat) : TxWorker :=
  { w with queue := w.queue.drop len, phase := .waitRead }

/-- A poll of the writer in `async_write_all`, or of its flush. -/
def futuresPoll (w : TxWorker) (poll : WriterPoll) : TxWorker :=
  match w.phase, poll with
  | .writing len buf, .ready n =>
    let taken := buf.take n
    if taken.length = 0 then { w with phase := .ended .writeZero len buf }
    else
      let rest := buf.drop n
      { w with
        written := w.written ++ taken
        phase := if rest.length = 0 then .flushing len else .writing len rest }
  | .writing len buf, .error => { w with phase := .ended .failed len buf }
  | .flushing len, .ready _ => w.release len
  | .flushing len, .error => { w with phase := .ended .failed len [] }
  | .waitRead, _ | .ended _ _ _, _ => w

/-- The one write of `tx_worker` (embedded_io.rs); what was not taken is granted again. -/
def embeddedPoll (w : TxWorker) (poll : WriterPoll) : TxWorker :=
  match w.phase, poll with
  | .writing _ buf, .ready n =>
    let taken := buf.take n
    let w := { w with written := w.written ++ taken }.release taken.length
    if taken.length = 0 then { w with phase := .ended .done 0 [] } else w
  | .writing len buf, .error => { w with phase := .ended .failed len buf }
  | .waitRead, _ | .flushing _, _ | .ended _ _ _, _ => w

/-- The `select!` with the closer of `CobsStreamTxWorker::run`, which drops the grant. -/
def close (w : TxWorker) : TxWorker :=
  match w.phase with
  | .waitRead => { w with phase := .ended .closed 0 [] }
  | .writing len buf => { w with phase := .ended .closed len buf }
  | .flushing len => { w with phase := .ended .closed len [] }
  | .ended _ _ _ => w

end TxWorker

/-- The two loops. -/
inductive TxLoop
  | futures | embedded

/-- One thing that happens to a worker. -/
inductive TxStep
  | commit (bytes : List UInt8)
  | waitRead (len : Nat)
  | poll (poll : WriterPoll)
  | close

/-- What a step commits. -/
def TxStep.bytes : TxStep → List UInt8
  | .commit bytes => bytes
  | .waitRead _ | .poll _ | .close => []

namespace TxWorker

/-- One step of a worker. -/
def step (loop : TxLoop) (w : TxWorker) : TxStep → TxWorker
  | .commit bytes => w.commit bytes
  | .waitRead len => w.waitRead len
  | .poll poll =>
    match loop with
    | .futures => w.futuresPoll poll
    | .embedded => w.embeddedPoll poll
  | .close => w.close

/-- What is committed, only the producer says; what is written stays written. -/
structure Extends (w w' : TxWorker) (bytes : List UInt8) : Prop where
  committed : w'.committed = w.committed ++ bytes
  written : w.written <+: w'.written

theorem Extends.refl (w : TxWorker) : w.Extends w [] := ⟨(List.append_nil _).symm, List.prefix_rfl⟩

theorem extends_step (loop : TxLoop) (w : TxWorker) (act : TxStep) :
    w.Extends (w.step loop act) act.bytes := by
  cases act with
  | commit bytes => exact ⟨rfl, List.prefix_rfl⟩
  | waitRead len =>
    show w.Extends (w.waitRead len) []
    unfold TxWorker.waitRead
    split
    · exact { Extends.refl w with }
    · exact .refl w
  | poll poll =>
    have hwrite : ∀ bytes, w.written <+: w.written ++ bytes := fun bytes =>
      List.prefix_append _ bytes
    cases loop with
    | futures =>
      show w.Extends (w.futuresPoll poll) []
      unfold futuresPoll
      split
      · dsimp only
        split
        · exact { Extends.refl w with }
        · exact ⟨(Extends.refl w).committed, hwrite _⟩
      all_goals exact { Extends.refl w with }
    | embedded =>
      show w.Extends (w.embeddedPoll poll) []
      unfold embeddedPoll
      split
      · dsimp only
        split <;> exact ⟨(Extends.refl w).committed, hwrite _⟩
      all_goals exact { Extends.refl w with }
  | close =>
    show w.Extends w.close []
    unfold TxWorker.close
    split <;> exact { Extends.refl w with }

/-! ## Where the bytes are -/

/-- How much of the queue the writer has taken already. -/
def sentLength : TxPhase → Nat
  | .waitRead => 0
  | .writing len buf => len - buf.length
  | .flushing len => len
  | .ended _ len rest => len - rest.length

/-- What the writer has not taken yet. -/
def pending (w : TxWorker) : List UInt8 := w.queue.drop (sentLength w.phase)

/-- What is left of a grant comes first of what is pending. The embedded worker offers whole grants
only. -/
structure Granted (loop : TxLoop) (w : TxWorker) (len : Nat) (buf : List UInt8) : Prop where
  le : buf.length ≤ len
  pending : buf <+: w.pending
  whole : loop = .embedded → buf.length = len

/-- What holds of a worker at all times: every byte is written or pending. -/
structure Inv (loop : TxLoop) (w : TxWorker) : Prop where
  committed : w.committed = w.written ++ w.pending
  bound : sentLength w.phase ≤ w.queue.length
  grant : ∀ len buf, w.phase = .writing len buf → Granted loop w len buf

theorem inv_start (loop : TxLoop) : Inv loop start where
  committed := rfl
  bound := Nat.le_refl 0
  grant _ _ h := nomatch h

variable {loop : TxLoop} {w : TxWorker}

/-- Where the worker is does not matter, as long as it has sent as much. -/
theorem Inv.of_phase (h : Inv loop w) {phase : TxPhase}
    (hsent : sentLength phase = sentLength w.phase)
    (hgrant : ∀ len buf, phase = .writing len buf → Granted loop w len buf) :
    Inv loop { w with phase } := by
  have hpending : pending { w with phase } = w.pending := by
    show w.queue.drop (sentLength phase) = w.pending
    rw [hsent]
    rfl
  constructor
  · rw [hpending]
    exact h.committed
  · show sentLength phase ≤ w.queue.length
    rw [hsent]
    exact h.bound
  · intro len buf hphase
    have hgranted := hgrant len buf hphase
    exact { hgranted with pending := hpending.symm ▸ hgranted.pending }

/-- A worker that does not write any more. -/
theorem Inv.of_idle (h : Inv loop w) {phase : TxPhase}
    (hsent : sentLength phase = sentLength w.phase)
    (hidle : ∀ len buf, phase ≠ .writing len buf) : Inv loop { w with phase } :=
  h.of_phase hsent fun len buf hphase => absurd hphase (hidle len buf)

/-- The producer adds to what is pending. -/
theorem Inv.commit (h : Inv loop w) (bytes : List UInt8) : Inv loop (w.commit bytes) := by
  have hpending : (w.commit bytes).pending = w.pending ++ bytes :=
    List.drop_append_of_le_length h.bound
  constructor
  · rw [hpending, ← List.append_assoc]
    exact congrArg (· ++ bytes) h.committed
  · have hbound := h.bound
    show sentLength w.phase ≤ (w.queue ++ bytes).length
    rw [List.length_append]
    omega
  · intro len buf hphase
    have hgranted := h.grant len buf hphase
    refine { hgranted with pending := ?_ }
    rw [hpending]
    exact hgranted.pending.trans (List.prefix_append _ _)

/-- A grant is the beginning of the queue. -/
theorem Inv.waitRead (h : Inv loop w) (len : Nat) : Inv loop (w.waitRead len) := by
  unfold TxWorker.waitRead
  split
  · next hphase =>
    have hnone : sentLength w.phase = 0 := by rw [hphase]; rfl
    dsimp only
    split
    · exact h.of_idle hnone.symm (fun _ _ => nofun)
    · refine h.of_phase ?_ fun len' buf hbuf => ?_
      · rw [hnone]
        exact Nat.sub_self _
      · cases hbuf
        refine ⟨Nat.le_refl _, ?_, fun _ => rfl⟩
        rw [pending, hnone, List.drop_zero]
        exact List.take_prefix len w.queue
  · exact h

/-- What is released has been written. -/
theorem Inv.release (h : Inv loop w) {len : Nat} (hsent : sentLength w.phase = len) :
    Inv loop (w.release len) where
  committed := by
    show w.committed = w.written ++ w.queue.drop len
    rw [← hsent]
    exact h.committed
  bound := Nat.zero_le _
  grant _ _ hphase := nomatch hphase

/-- The writer takes the first bytes of what is pending, and the worker counts them. -/
theorem Inv.taken (h : Inv loop w) {len : Nat} {buf : List UInt8}
    (hphase : w.phase = .writing len buf) (n : Nat) {phase : TxPhase}
    (hsent : sentLength phase = len - (buf.drop n).length)
    (hgrant : ∀ len' buf', phase = .writing len' buf' →
      loop = .futures ∧ len' = len ∧ buf' = buf.drop n) :
    Inv loop { w with written := w.written ++ buf.take n, phase } := by
  obtain ⟨hlen, ⟨more, hmore⟩, -⟩ := h.grant len buf hphase
  have hbefore : w.pending = w.queue.drop (len - buf.length) := by rw [pending, hphase]; rfl
  have hdrop : (buf.drop n).length = buf.length - n := List.length_drop
  have hqueue : (len - buf.length) + (buf.length + more.length) = w.queue.length := by
    have hcount := congrArg List.length (hmore.trans hbefore)
    have hbound := h.bound
    rw [hphase] at hbound
    simp only [sentLength, List.length_append, List.length_drop] at hcount hbound
    omega
  have hafter : w.queue.drop (sentLength phase) = buf.drop n ++ more := by
    -- at most the whole of the grant is taken
    have hcount : sentLength phase = (len - buf.length) + min n buf.length := by
      rw [hsent, hdrop]
      omega
    rw [hcount, ← List.drop_drop, ← hbefore, ← hmore,
      List.drop_append_of_le_length (Nat.min_le_right _ _)]
    congr 1
    by_cases hn : n ≤ buf.length
    · rw [Nat.min_eq_left hn]
    · have hn := Nat.le_of_not_le hn
      rw [Nat.min_eq_right hn, List.drop_length, List.drop_eq_nil_of_le hn]
  constructor
  · show w.committed = w.written ++ buf.take n ++ w.queue.drop (sentLength phase)
    rw [hafter, h.committed, ← hmore, List.append_assoc, ← List.append_assoc (buf.take n),
      List.take_append_drop]
  · show sentLength phase ≤ w.queue.length
    rw [hsent, hdrop]
    omega
  · intro len' buf' hphase'
    obtain ⟨rfl, rfl, rfl⟩ := hgrant len' buf' hphase'
    refine ⟨?_, ?_, nofun⟩
    · rw [hdrop]
      omega
    · show buf.drop n <+: w.queue.drop (sentLength phase)
      rw [hafter]
      exact List.prefix_append _ _

theorem Inv.futuresPoll (h : Inv .futures w) (poll : WriterPoll) :
    Inv .futures (w.futuresPoll poll) := by
  unfold TxWorker.futuresPoll
  split
  · next len buf n hphase =>
    dsimp only
    split
    · exact h.of_idle (by rw [hphase]; rfl) (fun _ _ => nofun)
    · split
      · next hrest =>
        refine h.taken hphase n ?_ (fun _ _ => nofun)
        rw [hrest]
        rfl
      · refine h.taken hphase n rfl fun len' buf' hbuf => ?_
        cases hbuf
        exact ⟨rfl, rfl, rfl⟩
  · next len buf hphase => exact h.of_idle (by rw [hphase]; rfl) (fun _ _ => nofun)
  · next len n hphase => exact h.release (by rw [hphase]; rfl)
  · next len hphase => exact h.of_idle (by rw [hphase]; exact Nat.sub_zero len) (fun _ _ => nofun)
  · exact h
  · exact h

theorem Inv.embeddedPoll (h : Inv .embedded w) (poll : WriterPoll) :
    Inv .embedded (w.embeddedPoll poll) := by
  unfold TxWorker.embeddedPoll
  split
  · next len buf n hphase =>
    have hwhole := (h.grant len buf hphase).whole rfl
    -- a whole grant was offered, so that what was taken is what the queue gives up
    let phase : TxPhase := .ended .done len (buf.drop n)
    have htaken : Inv .embedded { w with written := w.written ++ buf.take n, phase } :=
      h.taken hphase n rfl (fun _ _ => nofun)
    have hsent : sentLength phase = (buf.take n).length := by
      simp only [phase, sentLength, List.length_drop, List.length_take]
      omega
    have hreleased := htaken.release hsent
    dsimp only
    split
    · exact hreleased.of_idle rfl (fun _ _ => nofun)
    · exact hreleased
  · next len buf hphase => exact h.of_idle (by rw [hphase]; rfl) (fun _ _ => nofun)
  · exact h
  · exact h
  · exact h

theorem Inv.close (h : Inv loop w) : Inv loop w.close := by
  unfold TxWorker.close
  split
  · next hphase => exact h.of_idle (by rw [hphase]; rfl) (fun _ _ => nofun)
  · next len buf hphase => exact h.of_idle (by rw [hphase]; rfl) (fun _ _ => nofun)
  · next len hphase => exact h.of_idle (by rw [hphase]; exact Nat.sub_zero len) (fun _ _ => nofun)
  · exact h

/-- What one step preserves. -/
theorem Inv.step (h : Inv loop w) (act : TxStep) : Inv loop (w.step loop act) := by
  cases act with
  | commit bytes => exact h.commit bytes
  | waitRead len => exact h.waitRead len
  | poll poll =>
    cases loop with
    | futures => exact h.futuresPoll poll
    | embedded => exact h.embeddedPoll poll
  | close => exact h.close

/-- Whatever a writer takes at a time, and wherever it fails: it is given what was committed, in
order, each byte once, and what it was not given is still in the queue. -/
theorem run_written (loop : TxLoop) (acts : List TxStep) :
    let w := Runs.runAll (step loop) start acts
    w.committed = w.written ++ w.pending ∧ w.pending <:+ w.queue := by
  intro w
  have hw : Inv loop w :=
    Runs.runAll_inv (I := Inv loop) (fun _ act h => h.step act) (inv_start loop) acts
  exact ⟨hw.committed, List.drop_suffix _ _⟩

end TxWorker

end Ergot
