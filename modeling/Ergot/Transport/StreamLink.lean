import Ergot.Transport.StreamRx
import Ergot.Transport.StreamTx
import Ergot.Wire.CobsStream

/-!
# A stream link, end to end

A node sends through an `EdgePort` into a `cobs_stream::Sink`. Its TX worker empties the queue
into a writer, a part of it at a time; at the other end an RX worker reads what is there. All of
this goes on at once.

- `StreamQueue` is the queue, with the worker that reads from it.
- `StreamLink` is the link, and `LinkStep` what happens at either end of it.
- `StreamLink.Inv` is the invariant: the sink has committed what the worker was given, the worker
  has written what was not released, and the reader has read a beginning of that.
- `run_received` is the result: the frames that the other node processes are the first of the
  frames that were accepted, in order, and all of them once everything has been read.

A stream may have an opening that is no frame of this link: what the transport had buffered
before it was opened, and the zero that tokio_serial.rs writes then.
-/

namespace Ergot

/-- A byte queue, its reader, and what the queue answers to the next requests for a grant; when
it is out of answers it has no room. -/
structure StreamQueue where
  worker : TxWorker
  grants : List Bool

instance : BbqHandle StreamQueue where
  grantExact q _ := (q.grants.headD false, { q with grants := q.grants.tail })
  commit q bytes := { q with worker := q.worker.commit bytes }

section Write

variable {crates : CobsCrates} {κ : Type} [BbqHandle κ] {I : Sink crates κ → Prop}

/-- The sink of a port is written to by sends, and by nothing else. -/
theorem PortOp.apply_sink (hwrite : ∀ s maxLen frame, I s → I (s.write maxLen frame).2)
    {p : EdgePort (Sink crates κ)} (h : I p.sink) (op : PortOp) : I (op.apply p).2.sink := by
  cases op with
  | setState state =>
    have hsink : (p.setState state).2.sink = p.sink := by
      unfold EdgePort.setState
      split
      · rfl
      · rfl
      · split <;> rfl
      · split <;> rfl
    exact hsink ▸ h
  | send hdr data =>
    simp only [apply, EdgePort.send]
    cases p.commonSend hdr with
    | error e => exact h
    | ok fin =>
      show I (InterfaceSink.sendTy p.sink fin data).2
      simp only [InterfaceSink.sendTy]
      split
      · exact h
      · exact hwrite _ _ _ h
  | sendErr hdr err =>
    simp only [apply, EdgePort.sendErr]
    cases p.commonSend hdr with
    | error e => exact h
    | ok fin =>
      show I (InterfaceSink.sendErr p.sink fin err).2
      simp only [InterfaceSink.sendErr]
      split
      · exact h
      · exact hwrite _ _ _ h
  | sendRaw hdr data =>
    simp only [apply, EdgePort.sendRaw]
    split
    · exact h
    · cases p.commonSend hdr with
      | error e => exact h
      | ok fin =>
        show I (InterfaceSink.sendRaw p.sink fin data).2
        simp only [InterfaceSink.sendRaw]
        split
        · exact h
        · exact hwrite _ _ _ h

end Write

/-- A link: the port of the node that sends, the worker of the node that receives, how much of the
stream has been read, and the frames that the port has accepted. -/
structure StreamLink (crates : CobsCrates) (κ P ι : Type) where
  port : EdgePort (Sink crates StreamQueue)
  rx : StreamRx κ P ι
  consumed : Nat
  sent : List SentFrame

/-- What happens at either end; `hangUp` is what ends the receiving worker. -/
inductive LinkStep
  | port (op : PortOp)
  | waitRead (len : Nat)
  | poll (poll : WriterPoll)
  | closeTx
  | read (n : Nat)
  | timeout
  | hangUp (res : RxEnd)

/-- What ends a run so. -/
def RxEnd.event : RxEnd → RxEvent
  | .eof => .read []
  | .failed => .error
  | .closed => .stop

/-- A stretch of bytes that ends where a frame does. -/
def EndsClean (bytes : List UInt8) : Prop := (splitZeros [] bytes).2 = []

namespace StreamLink

variable {crates : CobsCrates} {κ P ι : Type}

/-- The worker that writes. -/
def tx (s : StreamLink crates κ P ι) : TxWorker := s.port.sink.prod.worker

/-- What the worker does, it does with the queue of the port. -/
def withTx (s : StreamLink crates κ P ι) (worker : TxWorker) : StreamLink crates κ P ι :=
  { s with port.sink.prod.worker := worker }

/-- What was written, and not read yet. -/
def wire (opening : List UInt8) (s : StreamLink crates κ P ι) : List UInt8 :=
  (opening ++ s.tx.written).drop s.consumed

/-- A link on which nothing has happened. -/
def start (port : EdgePort (Sink crates StreamQueue)) (link : Watched κ P ι)
    (frame : List UInt8) : StreamLink crates κ P ι :=
  ⟨port, .new link frame, 0, []⟩

/-- A frame that is handed on, decoded. -/
def decoded (frame : List UInt8) : Option SentFrame :=
  (deFrame frame).map fun res => (res.hdr, res.body)

/-- What was received. -/
def received (s : StreamLink crates κ P ι) : List (Option SentFrame) := s.rx.frames.map decoded

/-- The headers that are sent are those of the wire, and a timeout comes between two frames. -/
def Orderly (s : StreamLink crates κ P ι) : LinkStep → Prop
  | .port op => op.Representable
  | .timeout => EndsClean s.rx.epoch
  | _ => True

variable [SocketVTable κ] [Profile P ι] (cfg : RxConfig) (loop : TxLoop) (opening : List UInt8)

/-- One step of a link. A read takes some of what is on the wire. -/
def step (s : StreamLink crates κ P ι) : LinkStep → StreamLink crates κ P ι
  | .port op => { s with port := (op.apply s.port).2, sent := s.sent ++ (op.apply s.port).1 }
  | .waitRead len => s.withTx (s.tx.step loop (.waitRead len))
  | .poll poll => s.withTx (s.tx.step loop (.poll poll))
  | .closeTx => s.withTx (s.tx.step loop .close)
  | .read n =>
    let bytes := (s.wire opening).take n
    if s.rx.ended.isSome || bytes.isEmpty then s
    else
      { s with
        rx := s.rx.futuresStep cfg (.read bytes)
        consumed := s.consumed + bytes.length }
  | .timeout => { s with rx := s.rx.futuresStep cfg .timeout }
  | .hangUp res => { s with rx := s.rx.futuresStep cfg res.event }

end StreamLink

/-! ## The invariant -/

/-- Stretches that all end where a frame does. -/
theorem segments_flatten {stretches : List (List UInt8)} (h : ∀ bytes ∈ stretches, EndsClean bytes)
    (rest : List UInt8) :
    splitZeros [] (stretches.flatten ++ rest) =
      ((stretches.map segments).flatten ++ segments rest, (splitZeros [] rest).2) := by
  induction stretches with
  | nil => rfl
  | cons bytes stretches ih =>
    have hbytes : (splitZeros [] bytes).2 = [] := h bytes List.mem_cons_self
    have hrest := ih fun b hb => h b (List.mem_cons_of_mem _ hb)
    rw [List.flatten_cons, List.append_assoc, splitZeros_append, hbytes, hrest, List.map_cons,
      List.flatten_cons, List.append_assoc]
    rfl

/-- What has been read of a stream is read in the same segments. -/
theorem segments_take {xs ys : List UInt8} (h : xs <+: ys) : segments xs <+: segments ys := by
  obtain ⟨rest, rfl⟩ := h
  rw [segments, segments, splitZeros_append]
  exact List.prefix_append _ _

namespace Kept

variable {n : Nat}

theorem flatten {stretches kepts : List (List (List UInt8))}
    (h : List.Forall₂ (Kept n) stretches kepts) : Kept n stretches.flatten kepts.flatten := by
  induction h with
  | nil => exact .nil
  | cons hkept _ ih => exact hkept.append ih

/-- What is kept of two lists of segments is kept of each. -/
theorem split {ss ss' kept : List (List UInt8)} (h : Kept n (ss ++ ss') kept) :
    ∃ kept₁ kept₂, kept = kept₁ ++ kept₂ ∧ Kept n ss kept₁ ∧ Kept n ss' kept₂ := by
  induction ss generalizing kept with
  | nil => exact ⟨[], kept, rfl, .nil, h⟩
  | cons s ss ih =>
    cases h with
    | keep _ h =>
      obtain ⟨kept₁, kept₂, rfl, h₁, h₂⟩ := ih h
      exact ⟨s :: kept₁, kept₂, rfl, .keep s h₁, h₂⟩
    | skip hlong h =>
      obtain ⟨kept₁, kept₂, rfl, h₁, h₂⟩ := ih h
      exact ⟨kept₁, kept₂, rfl, .skip hlong h₁, h₂⟩

end Kept

namespace StreamLink

variable {crates : CobsCrates} {κ P ι : Type} [SocketVTable κ] [Profile P ι] {cfg : RxConfig}
  {loop : TxLoop} {opening : List UInt8} {sink : Sink crates StreamQueue} {n : Nat}

/-- Where the bytes of a link are. -/
structure Inv (cfg : RxConfig) (loop : TxLoop) (opening : List UInt8)
    (sink : Sink crates StreamQueue) (n : Nat) (s : StreamLink crates κ P ι) : Prop where
  tx : s.tx.Inv loop
  committed : s.port.sink.committed = s.tx.committed
  sent : Committed sink s.port.sink s.sent
  consumed : s.consumed ≤ (opening ++ s.tx.written).length
  read : s.rx.past.flatten ++ s.rx.epoch = (opening ++ s.tx.written).take s.consumed
  traced : ∃ kepts kept, s.rx.Traced cfg n kepts kept
  clean : ∀ bytes ∈ s.rx.past, EndsClean bytes

omit [SocketVTable κ] [Profile P ι] in
theorem inv_start {port : EdgePort (Sink crates StreamQueue)}
    (hcommitted : port.sink.committed = []) (hworker : port.sink.prod.worker = .start)
    (link : Watched κ P ι) (frame : List UInt8) :
    Inv cfg loop opening port.sink frame.length (start port link frame) where
  tx := by
    show TxWorker.Inv loop port.sink.prod.worker
    rw [hworker]
    exact TxWorker.inv_start loop
  committed := by
    show port.sink.committed = port.sink.prod.worker.committed
    rw [hcommitted, hworker]
    rfl
  sent := .none rfl rfl
  consumed := Nat.zero_le _
  read := rfl
  traced := ⟨[], [], StreamRx.traced_new link frame⟩
  clean _ h := nomatch h

variable {s : StreamLink crates κ P ι}

omit [SocketVTable κ] [Profile P ι] in
/-- A longer stream reads the same so far. -/
theorem Inv.longer (h : Inv cfg loop opening sink n s) {written : List UInt8}
    (hwritten : s.tx.written <+: written) :
    s.consumed ≤ (opening ++ written).length ∧
      s.rx.past.flatten ++ s.rx.epoch = (opening ++ written).take s.consumed := by
  obtain ⟨more, rfl⟩ := hwritten
  have hconsumed := h.consumed
  rw [← List.append_assoc, List.take_append_of_le_length hconsumed]
  have hlength : (opening ++ s.tx.written ++ more).length =
      (opening ++ s.tx.written).length + more.length := List.length_append
  exact ⟨by omega, h.read⟩

omit [SocketVTable κ] [Profile P ι] in
/-- The worker that writes goes on. -/
theorem Inv.withTx (h : Inv cfg loop opening sink n s) (act : TxStep) (hact : act.bytes = []) :
    Inv cfg loop opening sink n (s.withTx (s.tx.step loop act)) := by
  obtain ⟨hcommitted, hwritten⟩ := TxWorker.extends_step loop s.tx act
  obtain ⟨hconsumed, hread⟩ := h.longer hwritten
  rw [hact, List.append_nil] at hcommitted
  exact { h with
    tx := h.tx.step act
    committed := h.committed.trans hcommitted.symm
    sent := { h.sent with }
    consumed := hconsumed
    read := hread }

/-- The port is used. -/
theorem Inv.port (hdoc : crates.Documented) (h : Inv cfg loop opening sink n s) {op : PortOp}
    (hop : op.Representable) : Inv cfg loop opening sink n (s.step cfg loop opening (.port op)) := by
  -- what a write into the queue keeps
  let I : Sink crates StreamQueue → Prop := fun sink =>
    sink.prod.worker.Inv loop ∧ sink.committed = sink.prod.worker.committed ∧
      sink.prod.worker.written = s.tx.written
  have hsink : I (op.apply s.port).2.sink := by
    refine PortOp.apply_sink (I := I) ?_ ⟨h.tx, h.committed, rfl⟩ op
    rintro sink maxLen frame ⟨htx, hcommitted, hwritten⟩
    have hgrant : (BbqHandle.grantExact sink.prod maxLen).2.worker = sink.prod.worker := rfl
    unfold Sink.write
    generalize BbqHandle.grantExact sink.prod maxLen = res at hgrant ⊢
    obtain ⟨granted, prod⟩ := res
    rw [← hgrant] at htx hcommitted hwritten
    cases granted with
    | false => exact ⟨htx, hcommitted, hwritten⟩
    | true =>
      dsimp only
      split
      · exact ⟨htx.commit _, congrArg (· ++ _) hcommitted, hwritten⟩
      · refine ⟨htx.commit [], ?_, hwritten⟩
        exact hcommitted.trans (List.append_nil _).symm
  obtain ⟨htx, hcommitted, hwritten⟩ := hsink
  obtain ⟨hconsumed, hread⟩ := h.longer ⟨[], (List.append_nil _).trans hwritten.symm⟩
  exact { h with
    tx := htx
    committed := hcommitted
    sent := h.sent.append (PortOp.apply_committed hdoc s.port hop)
    consumed := hconsumed
    read := hread }

/-- Bytes that arrive while the worker reads. -/
theorem futuresStep_read (cfg : RxConfig) {rx : StreamRx κ P ι} (hended : ¬ rx.ended.isSome)
    {bytes : List UInt8} (hne : bytes ≠ []) :
    (rx.futuresStep cfg (.read bytes)).past = rx.past ∧
      (rx.futuresStep cfg (.read bytes)).epoch = rx.epoch ++ bytes := by
  cases bytes with
  | nil => exact absurd rfl hne
  | cons b bytes =>
    unfold StreamRx.futuresStep
    rw [if_neg hended]
    obtain ⟨-, -, -, hpast, hepoch⟩ :=
      StreamRx.feedWhile_spec cfg { rx with epoch := rx.epoch ++ b :: bytes } (b :: bytes)
    exact ⟨hpast, hepoch⟩

/-- A timeout divides what has been read, and nothing else. -/
theorem futuresStep_timeout (cfg : RxConfig) (rx : StreamRx κ P ι) :
    let rx' := rx.futuresStep cfg .timeout
    rx'.past.flatten ++ rx'.epoch = rx.past.flatten ++ rx.epoch ∧
      ∀ bytes ∈ rx'.past, bytes ∈ rx.past ∨ bytes = rx.epoch := by
  unfold StreamRx.futuresStep
  split
  · exact ⟨rfl, fun _ h => .inl h⟩
  · dsimp only
    split
    · constructor
      · simp [StreamRx.timeout]
      · intro bytes hbytes
        simpa [StreamRx.timeout] using hbytes
    · exact ⟨rfl, fun _ h => .inl h⟩

theorem futuresStep_hangUp (cfg : RxConfig) (rx : StreamRx κ P ι) (res : RxEnd) :
    (rx.futuresStep cfg res.event).past = rx.past ∧
      (rx.futuresStep cfg res.event).epoch = rx.epoch := by
  unfold StreamRx.futuresStep
  split
  · exact ⟨rfl, rfl⟩
  · cases res <;> exact ⟨rfl, rfl⟩

/-- Some of what is on the wire is read. -/
theorem Inv.read_step (h : Inv cfg loop opening sink n s) (k : Nat) :
    Inv cfg loop opening sink n (s.step cfg loop opening (.read k)) := by
  obtain ⟨kepts, kept, htraced⟩ := h.traced
  simp only [step]
  split
  · exact h
  · next hreads =>
    rw [Bool.or_eq_true, not_or] at hreads
    generalize hbytes : (s.wire opening).take k = bytes at hreads ⊢
    have hne : bytes ≠ [] := fun hnil => hreads.2 (by rw [hnil]; rfl)
    obtain ⟨hpast, hepoch⟩ := futuresStep_read cfg hreads.1 hne
    have hlength : bytes.length = min k ((opening ++ s.tx.written).length - s.consumed) := by
      rw [← hbytes, wire, List.length_take, List.length_drop]
    have hconsumed := h.consumed
    exact { h with
      consumed := by
        show s.consumed + bytes.length ≤ (opening ++ s.tx.written).length
        omega
      read := by
        show (s.rx.futuresStep cfg (.read bytes)).past.flatten ++
          (s.rx.futuresStep cfg (.read bytes)).epoch =
            (opening ++ s.tx.written).take (s.consumed + bytes.length)
        rw [hpast, hepoch, ← List.append_assoc, h.read, List.take_add, hlength, ← List.length_drop,
          ← List.take_eq_take_min]
        exact congrArg _ hbytes.symm
      traced := htraced.futuresStep _
      clean := hpast ▸ h.clean }

/-- What one step preserves. -/
theorem Inv.step (hdoc : crates.Documented) (h : Inv cfg loop opening sink n s) {act : LinkStep}
    (hact : s.Orderly act) :
    Inv cfg loop opening sink n (s.step cfg loop opening act) := by
  obtain ⟨kepts, kept, htraced⟩ := h.traced
  cases act with
  | port op => exact h.port hdoc hact
  | waitRead len => exact h.withTx (.waitRead len) rfl
  | poll poll => exact h.withTx (.poll poll) rfl
  | closeTx => exact h.withTx .close rfl
  | read k => exact h.read_step k
  | timeout =>
    obtain ⟨hread, hpast⟩ := futuresStep_timeout cfg s.rx
    exact { h with
      read := hread.trans h.read
      traced := htraced.futuresStep .timeout
      clean := by
        intro bytes hbytes
        rcases hpast bytes hbytes with hbytes | rfl
        · exact h.clean bytes hbytes
        · exact hact }
  | hangUp res =>
    obtain ⟨hpast, hepoch⟩ := futuresStep_hangUp cfg s.rx res
    exact { h with
      read := by
        show (s.rx.futuresStep cfg res.event).past.flatten ++ (s.rx.futuresStep cfg res.event).epoch
          = (opening ++ s.tx.written).take s.consumed
        rw [hpast, hepoch]
        exact h.read
      traced := htraced.futuresStep _
      clean := by
        show ∀ bytes ∈ (s.rx.futuresStep cfg res.event).past, EndsClean bytes
        rw [hpast]
        exact h.clean }

/-! ## What is received -/

/-- At most one frame comes out of a segment. -/
theorem flatMap_decode_length (decode : List UInt8 → Option (List UInt8))
    (kept : List (List UInt8)) :
    (kept.flatMap fun segment => (decode segment).toList).length ≤ kept.length := by
  induction kept with
  | nil => exact Nat.le_refl 0
  | cons segment kept ih =>
    have hone : (decode segment).toList.length ≤ 1 := by
      cases decode segment <;> simp
    rw [List.flatMap_cons, List.length_append, List.length_cons]
    omega

/-- What was accepted comes back. -/
theorem decoded_sent (hdoc : crates.Documented) {sent : List SentFrame}
    (hwf : ∀ f ∈ sent, FrameWf f.1.clampTtl f.2) :
    ((sent.map (SentFrame.segment crates)).flatMap fun segment =>
        (crates.decodeInPlace (segment ++ [0])).toList).map decoded =
      sent.map fun f => some (f.1.clampTtl, f.2) := by
  have hdecode : ∀ f : SentFrame, crates.decodeInPlace (f.segment crates ++ [0]) =
      some (encodeFrame f.1 f.2) := fun f =>
    (hdoc.decode_in_place _ (hdoc.zero_free _)).trans (hdoc.decode_encode _)
  rw [List.flatMap_map]
  simp only [hdecode, Option.toList_some]
  rw [← List.map_eq_flatMap, List.map_map]
  refine List.map_congr_left fun f hf => ?_
  rw [Function.comp_apply, decoded, deFrame_encodeFrame (hwf f hf), Option.map_some]

omit [SocketVTable κ] [Profile P ι] in
/-- The frames are those of the first segments of the stream. -/
theorem Inv.segments_read (hdoc : crates.Documented) (h : Inv cfg loop opening sink n s)
    (hsink : sink.committed = []) (hopening : EndsClean opening) :
    ∃ k kept, Kept n ((segments opening ++ s.sent.map (SentFrame.segment crates)).take k) kept ∧
      s.rx.frames = (kept.flatMap fun segment => (cfg.decodeInPlace (segment ++ [0])).toList) ∧
      (s.tx.pending = [] → s.wire opening = [] → k = (segments opening).length + s.sent.length) := by
  obtain ⟨kepts, kept, htraced⟩ := h.traced
  have hcommitted : s.tx.committed = s.sent.flatMap fun f => f.segment crates ++ [0] := by
    rw [← h.committed, h.sent.committed, hsink, List.nil_append]
  have hstream : segments (opening ++ s.tx.committed) =
      segments opening ++ s.sent.map (SentFrame.segment crates) := by
    have hclean : (splitZeros [] opening).2 = [] := hopening
    rw [segments, splitZeros_append, hclean, hcommitted]
    exact congrArg _ (segments_flatMap _ (fun f => hdoc.zero_free _) s.sent)
  have hread : (opening ++ s.tx.written).take s.consumed <+: opening ++ s.tx.committed := by
    rw [h.tx.committed, ← List.append_assoc]
    exact (List.take_prefix _ _).trans (List.prefix_append _ _)
  have hkept : Kept n (segments ((opening ++ s.tx.written).take s.consumed))
      (kepts.flatten ++ kept) := by
    have hsegments : segments (s.rx.past.flatten ++ s.rx.epoch) =
        (s.rx.past.map segments).flatten ++ segments s.rx.epoch :=
      congrArg Prod.fst (segments_flatten h.clean s.rx.epoch)
    rw [← h.read, hsegments]
    exact (Kept.flatten (List.forall₂_map_left_iff.mpr htraced.past)).append htraced.epoch
  refine ⟨(segments ((opening ++ s.tx.written).take s.consumed)).length, kepts.flatten ++ kept, ?_,
    htraced.frames, ?_⟩
  · rw [← hstream, ← List.prefix_iff_eq_take.mp (segments_take hread)]
    exact hkept
  · intro hpending hwire
    have hall : (opening ++ s.tx.written).take s.consumed = opening ++ s.tx.committed := by
      rw [List.take_of_length_le (List.drop_eq_nil_iff.mp hwire), h.tx.committed, hpending,
        List.append_nil]
    rw [hall, hstream, List.length_append, List.length_map]

omit [SocketVTable κ] [Profile P ι] in
/-- What has been received of what was sent, after some frames that the opening made. -/
theorem Inv.received_of_sent (hdoc : crates.Documented) (h : Inv cfg loop opening sink n s)
    (hcfg : cfg.decodeInPlace = crates.decodeInPlace) (hsink : sink.committed = [])
    (hn : crates.cobsBufSize sink.mtu ≤ n) (hopening : EndsClean opening) :
    ∃ noise m, s.received = noise ++ (s.sent.take m).map (fun f => some (f.1.clampTtl, f.2)) ∧
      noise.length ≤ (segments opening).length ∧
      (s.tx.pending = [] → s.wire opening = [] → m = s.sent.length) := by
  obtain ⟨k, kept, hkept, hframes, hdrained⟩ := h.segments_read hdoc hsink hopening
  rw [List.take_append, ← List.map_take] at hkept
  obtain ⟨kept₁, kept₂, rfl, hnoise, hsent⟩ := hkept.split
  have htaken : ∀ f ∈ s.sent.take (k - (segments opening).length), f ∈ s.sent := fun f hf =>
    List.mem_of_mem_take hf
  have hall := hsent.eq_of_fits (by
    intro segment hmem
    obtain ⟨f, hf, rfl⟩ := List.mem_map.mp hmem
    exact (h.sent.fits f (htaken f hf)).trans hn)
  subst hall
  refine ⟨(kept₁.flatMap fun segment => (cfg.decodeInPlace (segment ++ [0])).toList).map decoded,
    k - (segments opening).length, ?_, ?_, ?_⟩
  · rw [received, hframes, List.flatMap_append, List.map_append, hcfg,
      decoded_sent hdoc fun f hf => h.sent.wf f (htaken f hf)]
  · have hkept₁ := hnoise.sublist.length_le
    have hone := flatMap_decode_length (fun segment => cfg.decodeInPlace (segment ++ [0])) kept₁
    rw [List.length_take] at hkept₁
    rw [List.length_map]
    omega
  · intro hpending hwire
    have hk := hdrained hpending hwire
    omega

/-- For every order of sends of representable headers, writes and reads, with a buffer for the
largest frame of the sink: what is received is the beginning of what was accepted, in order, and all
of it when nothing is left on the way. Only what was on the wire before may come first, if it ends
where a frame does, and a timeout between two frames does no harm. -/
theorem run_received (crates : CobsCrates) (hdoc : crates.Documented) (cfg : RxConfig)
    (hcfg : cfg.decodeInPlace = crates.decodeInPlace) (loop : TxLoop) (opening : List UInt8)
    (hopening : EndsClean opening) (port : EdgePort (Sink crates StreamQueue))
    (hcommitted : port.sink.committed = []) (hworker : port.sink.prod.worker = .start)
    (link : Watched κ P ι) (frame : List UInt8)
    (hframe : crates.cobsBufSize port.sink.mtu ≤ frame.length) (acts : List LinkStep)
    (hacts : Runs.Always (step cfg loop opening) Orderly (start port link frame) acts) :
    let s := Runs.runAll (step cfg loop opening) (start port link frame) acts
    ∃ noise m, s.received = noise ++ (s.sent.take m).map (fun f => some (f.1.clampTtl, f.2)) ∧
      noise.length ≤ (segments opening).length ∧
      (s.tx.pending = [] → s.wire opening = [] → m = s.sent.length) := by
  intro s
  have hs : Inv cfg loop opening port.sink frame.length s :=
    Runs.runAll_inv_of_always (fun _ _ hact h => h.step hdoc hact)
      (inv_start hcommitted hworker link frame) hacts
  exact hs.received_of_sent hdoc hcfg hcommitted hframe hopening

/-- The port of a router whose queue has room for two frames. -/
def demoPort : EdgePort (Sink demoCrates StreamQueue) :=
  .newController ⟨40, ⟨.start, [true, true]⟩, []⟩ (.active 1 1)

/-- A request is written in two parts, and an error is accepted before the second one. The reader
finds a zero first. -/
def demoActs : List LinkStep :=
  [.read 1, .port (.send ⟨⟨0, 0, 5⟩, ⟨1, 2, 9⟩, none, .endpointReq, .normal, 15⟩ ⟨0, [0, 7]⟩),
    .waitRead 64, .poll (.ready 4), .read 3,
    .port (.sendErr ⟨⟨0, 0, 5⟩, ⟨1, 2, 9⟩, none, .protocolError, .normal, 15⟩ .nsseNoRoute),
    .poll (.ready 64), .read 64, .hangUp .eof]

theorem run_received_demo :
    let s := Runs.runAll (step demoRxConfig .futures [0])
      (start demoPort demoLink (List.replicate 42 0)) demoActs
    ∃ noise m, s.received = noise ++ (s.sent.take m).map (fun f => some (f.1.clampTtl, f.2)) ∧
      noise.length ≤ (segments [0]).length ∧
      (s.tx.pending = [] → s.wire [0] = [] → m = s.sent.length) := by
  refine run_received demoCrates demoCrates_documented demoRxConfig rfl .futures [0] rfl demoPort
    rfl rfl demoLink (List.replicate 42 0) (by decide) demoActs ?_
  refine ⟨trivial, ?_, trivial, trivial, trivial, ?_, trivial, trivial, trivial, trivial⟩
  · exact ⟨by decide, by decide, by decide⟩
  · exact ⟨by decide, by decide, by decide⟩

end StreamLink

end Ergot
