import Ergot.Lib.Packets
import Ergot.Lib.Runs

/-!
# USB hosts: transmission

`NusbTxWorker::run` (transports/nusb.rs), which writes the frames of a queue as bulk transfers. A
transfer has no empty packet at its end, so the worker submits another transfer for it: where the
packet size is known, after a frame that is a multiple of it, and otherwise after every frame.

- `NusbTxWorker` is the worker with its queue, the transfers it has submitted, and the packets
  that have reached the device. `NusbTxWorker.step` is one thing that happens to it; a transfer may
  fail with any part of it sent, and one behind it may get through.
- `Sent` says which runs there are on the wire, and `NusbTxWorker.Inv` in which of its phases.
- `NusbTxWorker.run_wire`: no run has bytes of two frames. Until a transfer fails they are the
  frames, in order.
-/

namespace Ergot.Usb

open Packets

/-! ## The worker -/

/-- What a worker is at: it waits for a frame, it has submitted one, it waits for the transfer
that terminates it, or it has ended, because it was closed or because a transfer has failed. -/
inductive NusbTxPhase
  | waitRead
  | sending (needsZlp : Bool)
  | terminating
  | closed
  | failed
deriving DecidableEq

/-- A worker; the frame that is being sent is released at the end, so that it is the first of
`queue` until then. The code has no fields `wire`, `committed` and `released`: they record what has
reached the device, what was committed to the queue, and what was released. -/
structure NusbTxWorker where
  maxUsbFrameSize : Option Nat
  queue : List (List UInt8)
  phase : NusbTxPhase
  inFlight : List (List UInt8)
  wire : List (List UInt8)
  committed : List (List UInt8)
  released : List (List UInt8)

/-- What happens to a worker: a frame is committed, the worker looks for one, the first of the
transfers in flight ends, or the closer is woken. -/
inductive NusbTxAct
  | commit (frame : List UInt8)
  | serve
  | complete (ok : Bool) (reached : Nat)
  | close

/-- The packets of a transfer. -/
def transferPackets (m : Nat) (data : List UInt8) : List (List UInt8) :=
  if data.isEmpty then [[]] else chunks m data

/-- Whether a frame is terminated by a transfer of its own. -/
def needsZlp (maxUsbFrameSize : Option Nat) (frame : List UInt8) : Bool :=
  match maxUsbFrameSize with
  | some mps => frame.length % mps == 0
  | none => true

/-- That transfer, if there is one. -/
def terminator (needsZlp : Bool) : List (List UInt8) := if needsZlp then [[]] else []

namespace NusbTxWorker

/-- A worker before anything was committed. -/
def start (maxUsbFrameSize : Option Nat) : NusbTxWorker :=
  ⟨maxUsbFrameSize, [], .waitRead, [], [], [], []⟩

/-- `release`, and the next turn of the loop. -/
def release (w : NusbTxWorker) : NusbTxWorker :=
  { w with
    queue := w.queue.tail
    phase := .waitRead
    released := w.released ++ w.queue.head?.toList }

/-- What the worker does when `next_complete` returns. -/
def next (w : NusbTxWorker) (ok : Bool) : NusbTxWorker :=
  match w.phase with
  | .sending needsZlp =>
    if !ok then { w with phase := .failed }
    else if needsZlp then { w with phase := .terminating }
    else w.release
  | .terminating => if !ok then { w with phase := .failed } else w.release
  | _ => w

/-- One step; `m` is the packet size of the endpoint. -/
def step (m : Nat) (w : NusbTxWorker) : NusbTxAct → NusbTxWorker
  | .commit frame =>
    { w with queue := w.queue ++ [frame], committed := w.committed ++ [frame] }
  | .serve =>
    match w.phase, w.queue with
    | .waitRead, frame :: _ =>
      let zlp := needsZlp w.maxUsbFrameSize frame
      { w with phase := .sending zlp, inFlight := w.inFlight ++ frame :: terminator zlp }
    | _, _ => w
  | .complete ok reached =>
    match w.inFlight with
    | [] => w
    | data :: inFlight =>
      let packets := transferPackets m data
      let sent := if ok then packets else packets.take reached
      { w with inFlight, wire := w.wire ++ sent }.next ok
  | .close =>
    match w.phase with
    | .waitRead => { w with phase := .closed }
    | _ => w

end NusbTxWorker

/-! ## The wire -/

/-- The runs that are not empty. -/
def nonempty (runs : List (List UInt8)) : List (List UInt8) := runs.filter (!·.isEmpty)

@[simp] theorem nonempty_append (runs runs' : List (List UInt8)) :
    nonempty (runs ++ runs') = nonempty runs ++ nonempty runs' := List.filter_append _ _

@[simp] theorem nonempty_nil : nonempty [] = [] := rfl

@[simp] theorem nonempty_singleton_nil : nonempty [[]] = [] := rfl

/-- All runs have ended, and they are these frames. -/
structure Sent (c : Cut UInt8) (frames : List (List UInt8)) : Prop where
  ended : nonempty c.ended = nonempty frames
  current : c.current = []

/-- All runs, the open one included, are first parts of different ones of these frames. -/
def Partly (c : Cut UInt8) (frames : List (List UInt8)) : Prop :=
  List.SublistForall₂ (· <+: ·) (nonempty (c.ended ++ [c.current])) frames

section Wire

variable {m : Nat} {c : Cut UInt8} {frames : List (List UInt8)}

theorem prefix_refl_list (frames : List (List UInt8)) :
    List.SublistForall₂ (· <+: ·) (nonempty frames) frames := by
  refine List.sublistForall₂_iff.mpr ⟨nonempty frames, ?_, List.filter_sublist⟩
  exact List.forall₂_same.mpr fun run _ => List.prefix_refl run

theorem Sent.partly (h : Sent c frames) : Partly c frames := by
  unfold Partly
  rw [h.current, nonempty_append, nonempty_singleton_nil, List.append_nil, h.ended]
  exact prefix_refl_list frames

theorem Partly.mono (h : Partly c frames) {frames' : List (List UInt8)}
    (hsub : frames.Sublist frames') : Partly c frames' :=
  Cut.sublistForall₂_of_sublist h hsub

/-- An empty packet ends a run, if one is open. -/
theorem next_nil (hm : 0 < m) (c : Cut UInt8) : c.next m [] = ⟨c.ended ++ [c.current], []⟩ := by
  rw [Cut.next, if_pos (by simpa using hm), List.append_nil]

theorem Partly.terminate (h : Partly c frames) (hm : 0 < m) : Partly (c.next m []) frames := by
  unfold Partly at h ⊢
  rw [next_nil hm, nonempty_append, nonempty_singleton_nil, List.append_nil]
  exact h

/-- A transfer that fails. -/
theorem Sent.fail (h : Sent c frames) (hm : 0 < m) (frame : List UInt8) (n : Nat) :
    Partly (((transferPackets m frame).take n).foldl (Cut.next m) c) (frames ++ [frame]) := by
  have hrun : ∀ p, p <+: frame →
      List.SublistForall₂ (· <+: ·) (nonempty frames ++ nonempty [p]) (frames ++ [frame]) := by
    intro p hp
    cases p with
    | nil =>
      rw [nonempty_singleton_nil, List.append_nil]
      exact Cut.sublistForall₂_of_sublist (prefix_refl_list frames) (List.sublist_append_left _ _)
    | cons b p => exact Cut.sublistForall₂_append (prefix_refl_list frames) hp
  unfold transferPackets
  cases frame with
  | nil =>
    have hkept : Partly c (frames ++ [[]]) := h.partly.mono (List.sublist_append_left _ _)
    cases n with
    | zero => exact hkept
    | succ n =>
      rw [List.isEmpty_nil, if_pos rfl, List.take_succ_cons, List.take_nil]
      exact hkept.terminate hm
  | cons b frame =>
    rw [List.isEmpty_cons, if_neg Bool.false_ne_true]
    unfold Partly
    rcases Cut.foldl_take_chunks hm c (b :: frame) n with ⟨p, hp, hcut⟩ | hcut
    · rw [hcut, h.current, nonempty_append, h.ended]
      exact hrun p hp
    · rw [hcut, h.current, nonempty_append, nonempty_append, h.ended, nonempty_singleton_nil,
        List.append_nil]
      exact hrun _ (List.prefix_refl _)

/-- A transfer that succeeds, of a frame that needs no other one. -/
theorem Sent.frame (h : Sent c frames) (hm : 0 < m) {frame : List UInt8}
    (hlen : frame.length % m ≠ 0) :
    Sent ((transferPackets m frame).foldl (Cut.next m) c) (frames ++ [frame]) := by
  have hne : frame ≠ [] := by
    rintro rfl
    exact hlen (Nat.zero_mod m)
  rw [transferPackets, if_neg (by simpa using hne), Cut.foldl_chunks hm c hne, if_neg hlen]
  refine ⟨?_, rfl⟩
  rw [h.current, nonempty_append, nonempty_append, h.ended]
  rfl

/-- A transfer that succeeds, and the empty one after it. -/
theorem Sent.terminated (h : Sent c frames) (hm : 0 < m) (frame : List UInt8) :
    Sent (((transferPackets m frame).foldl (Cut.next m) c).next m []) (frames ++ [frame]) := by
  rw [next_nil hm]
  refine ⟨?_, rfl⟩
  unfold transferPackets
  cases frame with
  | nil =>
    rw [List.isEmpty_nil, if_pos rfl, List.foldl_cons, List.foldl_nil, next_nil hm, h.current]
    simp only [nonempty_append, nonempty_singleton_nil, h.ended]
    exact List.append_nil _
  | cons b frame =>
    rw [List.isEmpty_cons, if_neg Bool.false_ne_true,
      Cut.foldl_chunks hm c (List.cons_ne_nil b frame)]
    split
    · simp only [nonempty_append, h.ended, h.current, List.nil_append]
    · simp only [nonempty_append, nonempty_singleton_nil, h.ended, h.current, List.nil_append]
      exact List.append_nil _

end Wire

/-! ## Where the worker is -/

namespace NusbTxWorker

/-- What there is on the wire, by what the worker is at. -/
def WireInv (m : Nat) (w : NusbTxWorker) : NusbTxPhase → Prop
  | .waitRead => w.inFlight = [] ∧ Sent (.of m w.wire) w.released
  | .sending zlp => ∃ frame rest, w.queue = frame :: rest ∧ zlp = needsZlp w.maxUsbFrameSize frame ∧
      w.inFlight = frame :: terminator zlp ∧ Sent (.of m w.wire) w.released
  | .terminating => ∃ frame rest c, w.queue = frame :: rest ∧ w.inFlight = [[]] ∧
      Sent c w.released ∧ Cut.of m w.wire = (transferPackets m frame).foldl (Cut.next m) c
  | .closed => w.inFlight = [] ∧ Sent (.of m w.wire) w.released
  | .failed => (w.inFlight = [] ∨ w.inFlight = [[]]) ∧ Partly (.of m w.wire) w.committed

/-- What holds of a worker at all times. -/
structure Inv (m : Nat) (w : NusbTxWorker) : Prop where
  mps : w.maxUsbFrameSize = none ∨ w.maxUsbFrameSize = some m
  committed : w.committed = w.released ++ w.queue
  wire : w.WireInv m w.phase

section Steps

variable {m : Nat} {w : NusbTxWorker}

/-- What was released and the first frame that was not are among what was committed. -/
theorem sublist_of_queue {committed released rest : List (List UInt8)} {frame : List UInt8}
    (h : committed = released ++ frame :: rest) : (released ++ [frame]).Sublist committed := by
  rw [h]
  exact (List.Sublist.refl released).append (List.cons_sublist_cons.mpr (List.nil_sublist rest))

theorem inv_start {mps : Option Nat} (h : mps = none ∨ mps = some m) : (start mps).Inv m :=
  ⟨h, rfl, rfl, rfl, rfl⟩

/-- A frame at the end of the queue makes no difference. -/
theorem Inv.commit (h : w.Inv m) (frame : List UInt8) : (w.step m (.commit frame)).Inv m := by
  have hwire := h.wire
  refine ⟨h.mps, ?_, ?_⟩
  · show w.committed ++ [frame] = w.released ++ (w.queue ++ [frame])
    rw [h.committed, List.append_assoc]
  · show (w.step m (.commit frame)).WireInv m w.phase
    cases hphase : w.phase with
    | waitRead => rwa [hphase] at hwire
    | sending zlp =>
      rw [hphase] at hwire
      obtain ⟨first, rest, hqueue, hrest⟩ := hwire
      exact ⟨first, rest ++ [frame], congrArg (· ++ [frame]) hqueue, hrest⟩
    | terminating =>
      rw [hphase] at hwire
      obtain ⟨first, rest, c, hqueue, hrest⟩ := hwire
      exact ⟨first, rest ++ [frame], c, congrArg (· ++ [frame]) hqueue, hrest⟩
    | closed => rwa [hphase] at hwire
    | failed =>
      rw [hphase] at hwire
      exact ⟨hwire.1, hwire.2.mono (List.sublist_append_left _ _)⟩

theorem Inv.serve (h : w.Inv m) : (w.step m .serve).Inv m := by
  simp only [step]
  split
  · next frame rest hphase hqueue =>
    have hwire := h.wire
    rw [hphase] at hwire
    refine ⟨h.mps, h.committed, frame, rest, hqueue, rfl, ?_, hwire.2⟩
    rw [hwire.1, List.nil_append]
  · exact h

theorem Inv.close (h : w.Inv m) : (w.step m .close).Inv m := by
  simp only [step]
  split
  · next hphase =>
    have hwire := h.wire
    rw [hphase] at hwire
    exact ⟨h.mps, h.committed, hwire⟩
  · exact h

/-- An empty transfer, all of it or nothing. -/
theorem sent_terminator (m : Nat) (ok : Bool) (reached : Nat) :
    let packets := transferPackets m []
    (if ok then packets else packets.take reached) = [] ∨
      (if ok then packets else packets.take reached) = [[]] := by
  cases ok with
  | true => exact .inr rfl
  | false => cases reached <;> simp [transferPackets]

/-- What there is on the wire is the beginning of a frame, and then the terminator or not. -/
theorem partly_terminator (hm : 0 < m) {wire frames : List (List UInt8)} (ok : Bool)
    (reached : Nat) (h : Partly (.of m wire) frames) :
    Partly (.of m (wire ++ if ok then transferPackets m []
      else (transferPackets m []).take reached)) frames := by
  rw [Cut.of_append]
  rcases sent_terminator m ok reached with hsent | hsent
  · rwa [hsent]
  · rw [hsent]
    exact h.terminate hm

theorem Inv.complete (hm : 0 < m) (h : w.Inv m) (ok : Bool) (reached : Nat) :
    (w.step m (.complete ok reached)).Inv m := by
  obtain ⟨mps, queue, phase, inFlight, wire, committed, released⟩ := w
  obtain ⟨hmps, hcommitted, hwire⟩ := h
  dsimp only at hmps hcommitted hwire
  cases phase with
  | waitRead =>
    obtain ⟨rfl, hsent⟩ := hwire
    exact ⟨hmps, hcommitted, rfl, hsent⟩
  | closed =>
    obtain ⟨rfl, hsent⟩ := hwire
    exact ⟨hmps, hcommitted, rfl, hsent⟩
  | failed =>
    obtain ⟨rfl | rfl, hpartly⟩ := hwire
    · exact ⟨hmps, hcommitted, .inl rfl, hpartly⟩
    · exact ⟨hmps, hcommitted, .inl rfl, partly_terminator hm ok reached hpartly⟩
  | sending zlp =>
    obtain ⟨frame, rest, rfl, hzlp, rfl, hsent⟩ := hwire
    dsimp only at hzlp hsent hcommitted
    have hsub : (released ++ [frame]).Sublist committed := sublist_of_queue hcommitted
    cases ok with
    | false =>
      refine ⟨hmps, hcommitted, ?_, ?_⟩
      · show terminator zlp = [] ∨ terminator zlp = [[]]
        cases zlp with
        | true => exact .inr rfl
        | false => exact .inl rfl
      · show Partly (.of m (wire ++ (transferPackets m frame).take reached)) committed
        rw [Cut.of_append]
        exact (hsent.fail hm frame reached).mono hsub
    | true =>
      cases zlp with
      | true =>
        refine ⟨hmps, hcommitted, frame, rest, .of m wire, rfl, rfl, hsent, ?_⟩
        exact Cut.of_append m wire (transferPackets m frame)
      | false =>
        -- the packet size is known, and the last packet is short
        have hlen : frame.length % m ≠ 0 := by
          rcases hmps with rfl | rfl
          · cases hzlp
          · simpa [needsZlp] using hzlp.symm
        refine ⟨hmps, ?_, rfl, ?_⟩
        · show committed = (released ++ [frame]) ++ rest
          rw [hcommitted, List.append_assoc]
          rfl
        · show Sent (.of m (wire ++ transferPackets m frame)) (released ++ [frame])
          rw [Cut.of_append]
          exact hsent.frame hm hlen
  | terminating =>
    obtain ⟨frame, rest, c, rfl, rfl, hsent, hcut⟩ := hwire
    dsimp only at hsent hcut hcommitted
    have hsub : (released ++ [frame]).Sublist committed := sublist_of_queue hcommitted
    cases ok with
    | false =>
      have hpartly : Partly (.of m wire) committed := by
        have hall := hsent.fail hm frame (transferPackets m frame).length
        rw [List.take_length, ← hcut] at hall
        exact hall.mono hsub
      exact ⟨hmps, hcommitted, .inl rfl, partly_terminator hm false reached hpartly⟩
    | true =>
      refine ⟨hmps, ?_, rfl, ?_⟩
      · show committed = (released ++ [frame]) ++ rest
        rw [hcommitted, List.append_assoc]
        rfl
      · show Sent (.of m (wire ++ [[]])) (released ++ [frame])
        rw [Cut.of_append, hcut]
        exact hsent.terminated hm frame

/-- What one step preserves. -/
theorem Inv.step (hm : 0 < m) (h : w.Inv m) (act : NusbTxAct) : (w.step m act).Inv m := by
  cases act with
  | commit frame => exact h.commit frame
  | serve => exact h.serve
  | complete ok reached => exact h.complete hm ok reached
  | close => exact h.close

/-- Whatever a worker is at, the runs on the wire are first parts of frames. -/
theorem Inv.partly (hm : 0 < m) (h : w.Inv m) : Partly (.of m w.wire) w.committed := by
  have hreleased : w.released.Sublist w.committed := by
    rw [h.committed]
    exact List.sublist_append_left _ _
  have hwire := h.wire
  cases hphase : w.phase with
  | waitRead =>
    rw [hphase] at hwire
    exact hwire.2.partly.mono hreleased
  | sending zlp =>
    rw [hphase] at hwire
    obtain ⟨frame, rest, -, -, -, hsent⟩ := hwire
    exact hsent.partly.mono hreleased
  | terminating =>
    rw [hphase] at hwire
    obtain ⟨frame, rest, c, hqueue, -, hsent, hcut⟩ := hwire
    have hall := hsent.fail hm frame (transferPackets m frame).length
    rw [List.take_length, ← hcut] at hall
    exact hall.mono (sublist_of_queue (hqueue ▸ h.committed))
  | closed =>
    rw [hphase] at hwire
    exact hwire.2.partly.mono hreleased
  | failed =>
    rw [hphase] at hwire
    exact hwire.2

theorem Sent.prefix_of_append {c : Cut UInt8} {frames : List (List UInt8)} (h : Sent c frames)
    (rest : List (List UInt8)) : nonempty c.ended <+: nonempty (frames ++ rest) := by
  rw [nonempty_append, h.ended]
  exact List.prefix_append _ _

/-- Until a transfer fails, they are the first frames. -/
theorem Inv.whole (hm : 0 < m) (h : w.Inv m) (hphase : w.phase ≠ .failed) :
    nonempty (Cut.of m w.wire).ended <+: nonempty w.committed := by
  have hwire := h.wire
  rw [h.committed]
  cases hat : w.phase with
  | waitRead =>
    rw [hat] at hwire
    exact Sent.prefix_of_append hwire.2 _
  | sending zlp =>
    rw [hat] at hwire
    obtain ⟨frame, rest, -, -, -, hsent⟩ := hwire
    exact Sent.prefix_of_append hsent _
  | terminating =>
    rw [hat] at hwire
    obtain ⟨frame, rest, c, hqueue, -, hsent, hcut⟩ := hwire
    -- with the terminator the frame is complete, and the runs before it stay as they are
    have hended : (Cut.of m w.wire).ended <+: ((Cut.of m w.wire).next m []).ended :=
      Cut.ended_prefix_foldl m [[]] _
    have hall := Sent.prefix_of_append (hsent.terminated hm frame) rest
    rw [← hcut] at hall
    rw [hqueue, List.append_cons]
    exact List.IsPrefix.trans (hended.filter _) hall
  | closed =>
    rw [hat] at hwire
    exact Sent.prefix_of_append hwire.2 _
  | failed => exact absurd hat hphase

/-- With nothing in the queue they are all of the frames, also of a worker that was closed. -/
theorem Inv.drained (h : w.Inv m) (hphase : w.phase ≠ .failed) (hqueue : w.queue = []) :
    nonempty (Cut.of m w.wire).ended = nonempty w.committed := by
  have hwire := h.wire
  rw [h.committed, hqueue, List.append_nil]
  cases hat : w.phase with
  | waitRead =>
    rw [hat] at hwire
    exact hwire.2.ended
  | sending zlp =>
    -- the frame that is being sent is still in the queue
    rw [hat] at hwire
    obtain ⟨frame, rest, hfirst, -⟩ := hwire
    cases hqueue.symm.trans hfirst
  | terminating =>
    rw [hat] at hwire
    obtain ⟨frame, rest, c, hfirst, -⟩ := hwire
    cases hqueue.symm.trans hfirst
  | closed =>
    rw [hat] at hwire
    exact hwire.2.ended
  | failed => exact absurd hat hphase

end Steps

/-- Whatever is committed, and whichever transfers fail: the runs on the wire are the beginnings of
different frames, in order. Unless a transfer has failed they are the first frames, and all of them
once the queue is empty, whether the worker waits for another frame or was closed. -/
theorem run_wire {m : Nat} (hm : 0 < m) {mps : Option Nat} (hmps : mps = none ∨ mps = some m)
    (acts : List NusbTxAct) :
    let w := Runs.runAll (step m) (start mps) acts
    let runs := Cut.of m w.wire
    List.SublistForall₂ (· <+: ·) (nonempty (runs.ended ++ [runs.current])) w.committed ∧
      (w.phase ≠ .failed → nonempty runs.ended <+: nonempty w.committed) ∧
      (w.phase ≠ .failed → w.queue = [] → nonempty runs.ended = nonempty w.committed) := by
  intro w runs
  have hw : w.Inv m :=
    Runs.runAll_inv (I := Inv m) (fun _ act h => h.step hm act) (inv_start hmps) acts
  exact ⟨hw.partly hm, hw.whole hm, hw.drained⟩

/-- A frame that is a multiple of the packet size, and one whose transfer fails halfway. -/
theorem run_wire_demo :
    let w := Runs.runAll (step 2) (start (some 2)) [.commit [1, 2], .commit [3, 4, 5], .serve,
      .complete true 0, .complete true 0, .serve, .complete false 1]
    w.wire = [[1, 2], [], [3, 4]] ∧
      List.SublistForall₂ (· <+: ·) (nonempty [[1, 2], [3, 4]]) w.committed :=
  ⟨rfl, (run_wire (m := 2) (by decide) (.inr rfl) [.commit [1, 2], .commit [3, 4, 5], .serve,
    .complete true 0, .complete true 0, .serve, .complete false 1]).1⟩

end NusbTxWorker

end Ergot.Usb
