import Ergot.Lib.Packets
import Ergot.Lib.Runs

/-!
# USB transmission

`tx_worker` and `send_all` (interface_impls/embassy_usb.rs), which write the frames of a queue to a
bulk endpoint, each with a time limit.

- `EndpointIn` is the endpoint, with a script of what happens to its writes and with the packets
  that have reached the host.
- `sendAll` and `TxWorker.step` are the code. The flag `pending` is set before the first byte of a
  frame and cleared after the packet that ends it.
- `tx_never_fuses`: where the flag is not set, the host has no open run, and where it is, the next
  frame begins with an empty packet. So no run has bytes of two frames.
-/

namespace Ergot.Usb

open Packets

variable {α : Type}

/-! ## The endpoint -/

/-- What happens to a write: it succeeds, or the time is up or the endpoint closed first. The
packet may have reached the host then. -/
inductive WriteEvent
  | done
  | timeout (reached : Bool)
  | closed (reached : Bool)

inductive TransmitError
  | connectionClosed | timeout
deriving DecidableEq

/-- An endpoint, the events of its writes, and the packets that have reached the host. -/
structure EndpointIn (α : Type) where
  script : Nat → WriteEvent
  writes : Nat
  host : List (List α)

/-- `EndpointIn::write`, under the timer of `send_all`. -/
def EndpointIn.write (ep : EndpointIn α) (packet : List α) :
    Except TransmitError Unit × EndpointIn α :=
  let ep' (reached : Bool) : EndpointIn α :=
    { ep with writes := ep.writes + 1, host := ep.host ++ if reached then [packet] else [] }
  match ep.script ep.writes with
  | .done => (.ok (), ep' true)
  | .timeout reached => (.error .timeout, ep' reached)
  | .closed reached => (.error .connectionClosed, ep' reached)

/-- One packet after the other, until a write fails. -/
def EndpointIn.writeAll (ep : EndpointIn α) :
    List (List α) → Except TransmitError Unit × EndpointIn α
  | [] => (.ok (), ep)
  | packet :: packets =>
    match ep.write packet with
    | (.error e, ep) => (.error e, ep)
    | (.ok (), ep) => ep.writeAll packets

/-! ## The code -/

/-- `send_all`: the answer, the flag and the endpoint. -/
def sendAll (ep : EndpointIn α) (out : List α) (pendingFrame : Bool) (maxUsbFrameSize : Nat) :
    Except TransmitError Unit × Bool × EndpointIn α :=
  if out.isEmpty then (.ok (), pendingFrame, ep)
  else
    -- a frame was left off, so the message is not terminated yet
    match ep.writeAll (if pendingFrame then [[]] else []) with
    | (.error e, ep) => (.error e, pendingFrame, ep)
    | (.ok (), ep) =>
      match ep.writeAll (chunks maxUsbFrameSize out) with
      | (.error e, ep) => (.error e, true, ep)
      | (.ok (), ep) =>
        match ep.writeAll (if out.length &&& (maxUsbFrameSize - 1) = 0 then [[]] else []) with
        | (.error e, ep) => (.error e, true, ep)
        | (.ok (), ep) => (.ok (), false, ep)

/-- `tx_worker`, with the queue that it reads. Each byte has the number of its frame. -/
structure TxWorker where
  pending : Bool
  connected : Bool
  queue : List (List (Nat × UInt8))
  ep : EndpointIn (Nat × UInt8)
  enqueued : Nat

/-- What happens next. -/
inductive TxAct
  | enqueue (frame : List UInt8)
  | connect
  | serve

namespace TxWorker

/-- A worker that was just started. -/
def start (script : Nat → WriteEvent) : TxWorker := ⟨false, false, [], ⟨script, 0, []⟩, 0⟩

/-- The stack queues a frame, `wait_enabled` returns, or a frame is served. When the connection is
lost, the queue is drained. -/
def step (maxUsbFrameSize : Nat) (w : TxWorker) : TxAct → TxWorker
  | .enqueue frame =>
    { w with
      queue := w.queue ++ [frame.map fun byte => (w.enqueued, byte)], enqueued := w.enqueued + 1 }
  | .connect => { w with connected := true }
  | .serve =>
    if w.connected then
      match w.queue with
      | [] => w
      | frame :: queue =>
        match sendAll w.ep frame w.pending maxUsbFrameSize with
        | (.error .connectionClosed, pending, ep) =>
          { w with pending, ep, connected := false, queue := [] }
        | (.ok (), pending, ep) | (.error .timeout, pending, ep) => { w with pending, ep, queue }
    else w

end TxWorker

/-! ## Writes -/

namespace EndpointIn

/-- A packet that was written has reached the host. Another one may have. -/
theorem host_write (ep : EndpointIn α) (packet : List α) :
    ((ep.write packet).1 = .ok () ∧ (ep.write packet).2.host = ep.host ++ [packet]) ∨
      (∃ e, (ep.write packet).1 = .error e) ∧
        ((ep.write packet).2.host = ep.host ++ [packet] ∨ (ep.write packet).2.host = ep.host) := by
  unfold write
  cases ep.script ep.writes with
  | done => exact .inl ⟨rfl, rfl⟩
  | timeout reached => cases reached <;> simp
  | closed reached => cases reached <;> simp

/-- The first packets have reached the host, and all of them if no write failed. -/
theorem host_writeAll (ep : EndpointIn α) (packets : List (List α)) :
    ∃ sent, sent <+: packets ∧ (ep.writeAll packets).2.host = ep.host ++ sent ∧
      ((ep.writeAll packets).1 = .ok () → sent = packets) := by
  induction packets generalizing ep with
  | nil => exact ⟨[], List.nil_prefix, (List.append_nil _).symm, fun _ => rfl⟩
  | cons packet packets ih =>
    have hone : [packet] <+: packet :: packets := ⟨packets, rfl⟩
    have hwrite := ep.host_write packet
    unfold writeAll
    generalize ep.write packet = res at hwrite
    rcases res with ⟨e | u, ep'⟩
    · rcases hwrite with ⟨hok, -⟩ | ⟨-, hhost | hhost⟩
      · cases hok
      · exact ⟨[packet], hone, hhost, nofun⟩
      · exact ⟨[], List.nil_prefix, hhost.trans (List.append_nil _).symm, nofun⟩
    · rcases hwrite with ⟨-, hhost⟩ | ⟨⟨e, herr⟩, -⟩
      · obtain ⟨sent, hprefix, hrest, hall⟩ := ih ep'
        refine ⟨packet :: sent, List.cons_prefix_cons.mpr ⟨rfl, hprefix⟩, ?_, fun hok => ?_⟩
        · dsimp only at hhost ⊢
          rw [hrest, hhost, List.append_assoc]
          rfl
        · rw [hall hok]
      · cases herr

theorem host_prefix (ep : EndpointIn α) (packets : List (List α)) :
    ep.host <+: (ep.writeAll packets).2.host := by
  obtain ⟨sent, -, hhost, -⟩ := ep.host_writeAll packets
  exact ⟨sent, hhost.symm⟩

end EndpointIn

/-! ## Runs -/

/-- All bytes are of one frame. -/
def OneFrame (run : List (Nat × UInt8)) : Prop := ∀ a ∈ run, ∀ b ∈ run, a.1 = b.1

theorem oneFrame_nil : OneFrame [] := nofun

/-- What the host has received, and what the flag says of it: no run has bytes of two frames, and
there is an open one only if the flag is set. -/
structure Separated (m : Nat) (host : List (List (Nat × UInt8))) (pending : Bool) : Prop where
  runs : (Cut.of m host).All OneFrame
  closed : pending = false → (Cut.of m host).current = []

/-- The open run is of the frame `out`, or empty. -/
structure Continues (m : Nat) (out : List (Nat × UInt8)) (host : List (List (Nat × UInt8))) :
    Prop where
  runs : (Cut.of m host).All OneFrame
  current : ∀ a ∈ (Cut.of m host).current, a ∈ out

section Sending

variable {m : Nat} {host : List (List (Nat × UInt8))} {out : List (Nat × UInt8)}

/-- Some packets of the frame. -/
theorem Continues.append (hout : OneFrame out) {packets : List (List (Nat × UInt8))}
    (hpackets : ∀ packet ∈ packets, ∀ a ∈ packet, a ∈ out) (h : Continues m out host) :
    Continues m out (host ++ packets) := by
  induction packets generalizing host with
  | nil => rwa [List.append_nil]
  | cons packet packets ih =>
    have hpacket := hpackets packet List.mem_cons_self
    have hrun : ∀ a ∈ (Cut.of m host).current ++ packet, a ∈ out := fun a ha =>
      (List.mem_append.mp ha).elim (h.current a) (hpacket a)
    have hone : OneFrame ((Cut.of m host).current ++ packet) := fun a ha b hb =>
      hout a (hrun a ha) b (hrun b hb)
    have hof : Cut.of m (host ++ [packet]) = (Cut.of m host).next m packet := Cut.of_append ..
    have hfirst : Continues m out (host ++ [packet]) := by
      refine ⟨?_, fun a ha => ?_⟩
      · rw [hof]
        exact h.runs.next oneFrame_nil hone
      · rw [hof, Cut.next] at ha
        split at ha
        · cases ha
        · exact hrun a ha
    rw [List.append_cons]
    exact ih (fun p hp => hpackets p (List.mem_cons_of_mem _ hp)) hfirst

/-- The packet that is owed. -/
theorem Separated.terminate (hm : 0 < m) {pending : Bool} (h : Separated m host pending) :
    Separated m (host ++ if pending then [[]] else []) pending ∧
      (Cut.of m (host ++ if pending then [[]] else [])).current = [] := by
  cases pending with
  | false =>
    rw [if_neg Bool.false_ne_true, List.append_nil]
    exact ⟨h, h.closed rfl⟩
  | true =>
    have hend := h.runs.terminate hm oneFrame_nil
    have hof : Cut.of m (host ++ [[]]) = (Cut.of m host).next m [] := Cut.of_append ..
    rw [if_pos rfl, hof]
    exact ⟨⟨by rw [hof]; exact hend.1, nofun⟩, hend.2⟩

end Sending

/-- A frame is sent, or some of it. -/
theorem sendAll_separated (k : Nat) {ep : EndpointIn (Nat × UInt8)} {pending : Bool}
    {out : List (Nat × UInt8)} (hout : OneFrame out) (h : Separated (2 ^ k) ep.host pending) :
    Separated (2 ^ k) (sendAll ep out pending (2 ^ k)).2.2.host
      (sendAll ep out pending (2 ^ k)).2.1 := by
  have hm : 0 < 2 ^ k := Nat.two_pow_pos k
  unfold sendAll
  split
  · exact h
  · next hempty =>
    have hne : out ≠ [] := by simpa using hempty
    obtain ⟨howed, hclosed⟩ := h.terminate hm
    obtain ⟨sent, hsent, hhost, hall⟩ := ep.host_writeAll (if pending then [[]] else [])
    generalize ep.writeAll (if pending then [[]] else []) = first at hhost hall
    rcases first with ⟨e | u, ep₁⟩
    · -- the terminator may have been sent, but nobody knows
      dsimp only at hhost ⊢
      rw [hhost]
      cases pending with
      | false => rwa [List.prefix_nil.mp hsent, List.append_nil]
      | true =>
        rcases List.prefix_cons_iff.mp hsent with rfl | ⟨t, rfl, ht⟩
        · rwa [List.append_nil]
        · rwa [List.prefix_nil.mp ht]
    · obtain rfl := hall rfl
      dsimp only at hhost ⊢
      rw [← hhost] at howed hclosed
      -- the frame, and the open run is of it then
      have hstart : Continues (2 ^ k) out ep₁.host := ⟨howed.runs, by rw [hclosed]; exact nofun⟩
      obtain ⟨sent, hsent, hhost₁, hall₁⟩ := ep₁.host_writeAll (chunks (2 ^ k) out)
      have hframe : Continues (2 ^ k) out (ep₁.host ++ sent) :=
        hstart.append hout fun packet hpacket a ha => mem_of_mem_chunks (hsent.mem hpacket) ha
      rw [← hhost₁] at hframe
      generalize ep₁.writeAll (chunks (2 ^ k) out) = second at hhost₁ hall₁ hframe
      rcases second with ⟨e | u, ep₂⟩
      · exact ⟨hframe.runs, nofun⟩
      · obtain rfl := hall₁ rfl
        dsimp only at hhost₁ hframe ⊢
        -- the empty packet after a full one
        rw [Nat.and_two_pow_sub_one_eq_mod]
        generalize hlast : (if out.length % 2 ^ k = 0 then [[]] else []) = last
        obtain ⟨sent, hsent, hhost₂, hall₂⟩ := ep₂.host_writeAll last
        have hended : Continues (2 ^ k) out (ep₂.host ++ sent) := by
          refine hframe.append hout fun packet hpacket => ?_
          have hmem := hsent.mem hpacket
          rw [← hlast] at hmem
          split at hmem
          · rw [List.mem_singleton.mp hmem]
            exact nofun
          · cases hmem
        rw [← hhost₂] at hended
        generalize ep₂.writeAll last = third at hhost₂ hall₂ hended
        rcases third with ⟨e | u, ep₃⟩
        · exact ⟨hended.runs, nofun⟩
        · refine ⟨hended.runs, fun _ => ?_⟩
          have hpackets : ep₃.host = ep₁.host ++ packetize (2 ^ k) out := by
            rw [← chunks_append hm hne, hlast, ← List.append_assoc, ← hhost₁, ← hall₂ rfl]
            exact hhost₂
          rw [hpackets, Cut.of_append]
          exact Cut.current_packetize hm _ out

/-- Where a terminator is owed, nothing comes before it. -/
theorem sendAll_owed {m : Nat} {ep : EndpointIn α} {out : List α} :
    (sendAll ep out true m).2.2.host = ep.host ∨
      ep.host ++ [[]] <+: (sendAll ep out true m).2.2.host := by
  unfold sendAll
  split
  · exact .inl rfl
  · rw [if_pos rfl]
    obtain ⟨sent, hsent, hhost, hall⟩ := ep.host_writeAll [[]]
    generalize ep.writeAll [[]] = first at hhost hall
    rcases first with ⟨e | u, ep₁⟩
    · rcases List.prefix_cons_iff.mp hsent with rfl | ⟨t, rfl, ht⟩
      · exact .inl (hhost.trans (List.append_nil _))
      · rw [List.prefix_nil.mp ht] at hhost
        exact .inr ⟨[], (List.append_nil _).trans hhost.symm⟩
    · obtain rfl := hall rfl
      refine .inr ?_
      dsimp only at hhost ⊢
      rw [← hhost]
      have hframe := ep₁.host_prefix (chunks m out)
      generalize ep₁.writeAll (chunks m out) = second at hframe
      rcases second with ⟨e | u, ep₂⟩
      · exact hframe
      · dsimp only at hframe ⊢
        have hlast := ep₂.host_prefix (if out.length &&& (m - 1) = 0 then [[]] else [])
        generalize ep₂.writeAll (if out.length &&& (m - 1) = 0 then [[]] else []) = third at hlast
        rcases third with ⟨e | u, ep₃⟩
        · exact hframe.trans hlast
        · exact hframe.trans hlast

/-! ## The worker -/

namespace TxWorker

/-- Nothing is served, or a frame of the queue is sent. -/
theorem step_serve (m : Nat) (w : TxWorker) :
    w.step m .serve = w ∨ ∃ frame ∈ w.queue,
      (w.step m .serve).ep = (sendAll w.ep frame w.pending m).2.2 ∧
      (w.step m .serve).pending = (sendAll w.ep frame w.pending m).2.1 ∧
      ∀ out ∈ (w.step m .serve).queue, out ∈ w.queue := by
  simp only [step]
  split
  · split
    · exact .inl rfl
    · next frame queue hqueue =>
      refine .inr ⟨frame, by rw [hqueue]; exact List.mem_cons_self, ?_⟩
      have hrest : ∀ out ∈ queue, out ∈ w.queue := fun out hout => by
        rw [hqueue]
        exact List.mem_cons_of_mem _ hout
      rcases sendAll w.ep frame w.pending m with ⟨(_ | _) | u, pending, ep⟩
      · exact ⟨rfl, rfl, nofun⟩
      · exact ⟨rfl, rfl, hrest⟩
      · exact ⟨rfl, rfl, hrest⟩
  · exact .inl rfl

/-- What holds of a worker at all times. -/
structure Inv (m : Nat) (w : TxWorker) : Prop where
  host : Separated m w.ep.host w.pending
  queue : ∀ frame ∈ w.queue, OneFrame frame

theorem start_inv (m : Nat) (script : Nat → WriteEvent) : (start script).Inv m :=
  ⟨⟨⟨nofun, oneFrame_nil⟩, fun _ => rfl⟩, nofun⟩

theorem step_inv (k : Nat) {w : TxWorker} (h : w.Inv (2 ^ k)) (act : TxAct) :
    (w.step (2 ^ k) act).Inv (2 ^ k) := by
  cases act with
  | enqueue frame =>
    refine ⟨h.host, fun out hout => ?_⟩
    rcases List.mem_append.mp hout with hout | hout
    · exact h.queue out hout
    · rw [List.mem_singleton.mp hout]
      intro a ha b hb
      obtain ⟨x, -, rfl⟩ := List.mem_map.mp ha
      obtain ⟨y, -, rfl⟩ := List.mem_map.mp hb
      rfl
  | connect => exact ⟨h.host, h.queue⟩
  | serve =>
    rcases step_serve (2 ^ k) w with hsame | ⟨frame, hframe, hep, hpending, hqueue⟩
    · rwa [hsame]
    · refine ⟨?_, fun out hout => h.queue out (hqueue out hout)⟩
      rw [hep, hpending]
      exact sendAll_separated k (h.queue frame hframe) h.host

/-- A terminator that is owed is sent first. -/
theorem step_owed {m : Nat} {w : TxWorker} (h : w.pending = true) (act : TxAct) :
    (w.step m act).ep.host = w.ep.host ∨ w.ep.host ++ [[]] <+: (w.step m act).ep.host := by
  cases act with
  | enqueue frame => exact .inl rfl
  | connect => exact .inl rfl
  | serve =>
    rcases step_serve m w with hsame | ⟨frame, -, hep, -⟩
    · rw [hsame]
      exact .inl rfl
    · rw [hep, h]
      exact sendAll_owed

end TxWorker

/-- Whatever is queued, and whatever happens to the writes: no run that reaches the host has bytes
of two frames, and where one is open, the next thing to reach the host is an empty packet. -/
theorem tx_never_fuses (k : Nat) (script : Nat → WriteEvent) (acts : List TxAct) :
    let w := Runs.runAll (TxWorker.step (2 ^ k)) (.start script) acts
    (Cut.of (2 ^ k) w.ep.host).All OneFrame ∧
      ((Cut.of (2 ^ k) w.ep.host).current ≠ [] → ∀ act,
        (w.step (2 ^ k) act).ep.host = w.ep.host ∨
          w.ep.host ++ [[]] <+: (w.step (2 ^ k) act).ep.host) := by
  intro w
  have hw : w.Inv (2 ^ k) :=
    Runs.runAll_inv (I := TxWorker.Inv (2 ^ k)) (fun _ act h => TxWorker.step_inv k h act)
      (TxWorker.start_inv (2 ^ k) script) acts
  refine ⟨hw.host.runs, fun hopen act => ?_⟩
  have hpending : w.pending = true := by
    by_contra hp
    exact hopen (hw.host.closed (Bool.eq_false_iff.mpr hp))
  exact TxWorker.step_owed hpending act

end Ergot.Usb
