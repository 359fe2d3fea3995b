import Ergot.Lib.Runs
import Ergot.Stack.Borrow

/-!
# The receiver of a borrow socket

The reading side of socket/borrow.rs. `poll` takes a read grant for the oldest frame, decodes it,
and keeps the grant for as long as the receiver holds a message. An error is released at once,
and a frame that does not decode stays where it is.

- `poll`, `release` and `ResponseGrant.tryAccess` are the functions of the source.
- `Reader` is a socket with what it has stored and what its receiver was given, and
  `Reader.step` one delivery, one receive or one release.
- `borrow_fifo`: the receiver is given what was stored, in order, and is never stuck, as long as
  the decoder accepts the headers. The hop counts are those of the wire.
-/

namespace Ergot

/-! ## Receiving -/

/-- The side of a queue that reads. -/
class BbqConsumer (κ : Type) where
  /-- `release`, which makes room -/
  release : κ → κ

/-- What a `ResponseGrant` holds. -/
inductive ResponseGrantInner
  | ok (grant : List UInt8) (offset : Nat)
  | err (e : ProtocolError)

structure ResponseGrant where
  hdr : Header
  inner : ResponseGrantInner

/-- `ResponseGrant::try_access`; `de` is `postcard::from_bytes`. -/
def ResponseGrant.tryAccess {α : Type} (de : List UInt8 → Option α) (g : ResponseGrant) :
    Option (Header × Except ProtocolError α) :=
  match g.inner with
  | .ok grant offset =>
    if offset ≤ grant.length then (de (grant.drop offset)).map fun t => (g.hdr, .ok t) else none
  | .err e => some (g.hdr, .error e)

namespace BorrowSocket

variable {κ : Type} [BbqConsumer κ]

/-- `FramedGrantR::release`. -/
def releaseFrame (s : BorrowSocket κ) : BorrowSocket κ :=
  { s with queue := BbqConsumer.release s.queue, frames := s.frames.tail, reading := false }

/-- `Recv::poll`. There is no second grant, and a grant that is dropped keeps its frame. -/
def poll (s : BorrowSocket κ) : Option ResponseGrant × BorrowSocket κ :=
  if s.reading then (none, s)
  else
    match s.frames with
    | [] => (none, s)
    | frame :: _ =>
      match deFrame frame with
      | some ⟨hdr, .ok body, _⟩ =>
        (some ⟨hdr, .ok frame (frame.length - body.length)⟩, { s with reading := true })
      | some ⟨hdr, .error e, _⟩ => (some ⟨hdr, .err e⟩, s.releaseFrame)
      | none => (none, s)

/-- A `ResponseGrant` is dropped. That of an error holds nothing. -/
def release (s : BorrowSocket κ) : BorrowSocket κ := if s.reading then s.releaseFrame else s

end BorrowSocket

/-! ## Runs -/

/-- What is handed to a borrow socket. -/
inductive Delivery
  | bor (msg : Msg) (hdr : Header)
  | raw (data : List UInt8) (hdr : Header)
  | err (hdr : Header) (e : ProtocolError)

namespace Delivery

/-- What the socket does with it. -/
def apply {κ : Type} [BbqHandle κ] (s : BorrowSocket κ) : Delivery → BorrowSocket κ
  | .bor msg hdr => (s.recvBor msg hdr).2
  | .raw data hdr => (s.recvRaw data hdr).2
  | .err hdr e => s.recvErr hdr e

/-- The header and the body, or the error. -/
def sent : Delivery → SentFrame
  | .bor msg hdr => (hdr, .ok msg.bytes)
  | .raw data hdr => (hdr, .ok data)
  | .err hdr e => (hdr, .error e)

/-- The frame is stored, or it is not. -/
theorem frames_apply {κ : Type} [BbqHandle κ] (d : Delivery) (s : BorrowSocket κ) :
    (d.apply s).frames = s.frames ∨
      (d.apply s).frames = s.frames ++ [encodeFrame d.sent.1 d.sent.2] := by
  cases d with
  | bor msg hdr => exact s.frames_write _ _
  | raw data hdr => exact s.frames_recvRaw _ _
  | err hdr e => exact s.frames_write _ _

/-- A writer does not touch the read grant. -/
theorem reading_apply {κ : Type} [BbqHandle κ] (d : Delivery) (s : BorrowSocket κ) :
    (d.apply s).reading = s.reading := by
  have hwrite : ∀ maxLen frame, (s.write maxLen frame).2.reading = s.reading := by
    intro maxLen frame
    unfold BorrowSocket.write
    split
    · rfl
    · split <;> rfl
  cases d with
  | bor msg hdr => exact hwrite _ _
  | raw data hdr =>
    show (s.recvRaw data hdr).2.reading = s.reading
    unfold BorrowSocket.recvRaw
    dsimp only
    split
    · rfl
    · split
      · exact hwrite _ _
      · rfl
  | err hdr e => exact hwrite _ _

/-- Whether the decoder accepts the header, and the kind is that of the path. -/
structure Sound (d : Delivery) : Prop where
  hdr : d.sent.1.Representable
  kind : d.sent.1.kind = .protocolError ↔ ∃ e, d.sent.2 = .error e

/-- What the receiver is to be given, with the hop count of the wire. -/
def answer {α : Type} (de : List UInt8 → Option α) (f : SentFrame) :
    Option (Header × Except ProtocolError α) :=
  match f.2 with
  | .ok body => (de body).map fun t => (f.1.clampTtl, .ok t)
  | .error e => some (f.1.clampTtl, .error e)

end Delivery

/-- One thing that is done with a borrow socket. -/
inductive BorrowAct
  | deliver (d : Delivery)
  | recv
  | release

/-- A borrow socket, with what it has stored and what its receiver was given. -/
structure Reader (κ : Type) where
  socket : BorrowSocket κ
  stored : List SentFrame
  yields : List ResponseGrant

namespace Reader

variable {κ : Type} [BbqHandle κ] [BbqConsumer κ]

/-- A socket that is new. -/
def new (mtu : UInt16) (queue : κ) : Reader κ := ⟨⟨mtu, queue, [], false⟩, [], []⟩

/-- A delivery is stored if it makes the queue longer. -/
def step (r : Reader κ) : BorrowAct → Reader κ
  | .deliver d =>
    { r with
      socket := d.apply r.socket
      stored := r.stored ++
        if r.socket.frames.length < (d.apply r.socket).frames.length then [d.sent] else [] }
  | .recv =>
    { r with socket := r.socket.poll.2, yields := r.yields ++ r.socket.poll.1.toList }
  | .release => { r with socket := r.socket.release }

/-- The bytes of a frame that was stored. -/
def bytes (f : SentFrame) : List UInt8 := encodeFrame f.1 f.2

/-- What was stored is what the receiver was given, then what is in the queue. The frame of a
grant that is outstanding is in both. -/
structure Queued (r : Reader κ) (given waiting : List SentFrame) : Prop where
  stored : r.stored = given ++ waiting
  sound : ∀ f ∈ r.stored, f.1.Representable ∧ (f.1.kind = .protocolError ↔ ∃ e, f.2 = .error e)
  frames : ∃ held, r.socket.frames = held ++ waiting.map bytes ∧
    held.length = if r.socket.reading then 1 else 0
  yields : ∀ {α : Type} (de : List UInt8 → Option α),
    r.yields.map (·.tryAccess de) = given.map (Delivery.answer de)

omit [BbqHandle κ] in
/-- A receive, when a frame that decodes is the oldest and no grant is outstanding: it is given to
the receiver. -/
theorem poll_spec {s : BorrowSocket κ} {f : SentFrame} {rest : List (List UInt8)}
    (hreading : s.reading = false) (hframes : s.frames = bytes f :: rest)
    (wf : FrameWf f.1.clampTtl f.2) :
    ∃ g s', s.poll = (some g, s') ∧
      (∃ held, s'.frames = held ++ rest ∧ held.length = if s'.reading then 1 else 0) ∧
      ∀ {α : Type} (de : List UInt8 → Option α), g.tryAccess de = Delivery.answer de f := by
  obtain ⟨hdr, body⟩ := f
  have hde := deFrame_encodeFrame wf
  simp only [BorrowSocket.poll, hreading, hframes, bytes, hde, Bool.false_eq_true, if_false]
  cases body with
  | ok body =>
    refine ⟨_, _, rfl, ⟨[_], rfl, rfl⟩, fun de => ?_⟩
    -- the body is what is behind the header
    simp only [ResponseGrant.tryAccess, Delivery.answer, encodeFrame, encodeFrameTy,
      List.length_append, Nat.add_sub_cancel, Nat.le_add_right, if_true, List.drop_left]
  | error e =>
    refine ⟨_, _, rfl, ⟨[], ?_, rfl⟩, fun de => rfl⟩
    simp [BorrowSocket.releaseFrame, hframes]

omit [BbqHandle κ] in
/-- A receive while a grant is outstanding, or with nothing in the queue. -/
theorem poll_none {s : BorrowSocket κ} (h : s.reading = true ∨ s.frames = []) :
    s.poll = (none, s) := by
  unfold BorrowSocket.poll
  rcases h with hreading | hframes
  · rw [if_pos hreading]
  · rw [hframes, ite_self]

omit [BbqHandle κ] [BbqConsumer κ] in
/-- A frame that was stored can be decoded. -/
theorem Queued.wf {r : Reader κ} {given waiting : List SentFrame} (h : r.Queued given waiting)
    {f : SentFrame} (hf : f ∈ waiting) : FrameWf f.1.clampTtl f.2 := by
  obtain ⟨hrep, hkind⟩ := h.sound f (h.stored ▸ List.mem_append_right given hf)
  exact hrep.wf hkind

/-- A receive gives out the oldest frame that is waiting, unless a grant is outstanding. -/
theorem Queued.poll {r : Reader κ} {given waiting : List SentFrame} (h : r.Queued given waiting) :
    (r.step .recv).Queued given waiting ∧ (r.socket.reading = true ∨ waiting = []) ∨
      ∃ f rest g, waiting = f :: rest ∧ (r.step .recv).Queued (given ++ [f]) rest ∧
        r.socket.poll.1 = some g ∧
        ∀ {α : Type} (de : List UInt8 → Option α), g.tryAccess de = Delivery.answer de f := by
  obtain ⟨held, hframes, hheld⟩ := h.frames
  by_cases hidle : r.socket.reading = true ∨ r.socket.frames = []
  · have hpoll := poll_none hidle
    refine .inl ⟨⟨h.stored, h.sound, ?_, fun de => ?_⟩, hidle.imp_right fun hnil => ?_⟩
    · simp only [step, hpoll]
      exact h.frames
    · simpa only [step, hpoll, Option.toList_none, List.append_nil] using h.yields de
    · rw [hnil, eq_comm, List.append_eq_nil_iff, List.map_eq_nil_iff] at hframes
      exact hframes.2
  · obtain ⟨hreading, hne⟩ := not_or.mp hidle
    rw [if_neg hreading, List.length_eq_zero_iff] at hheld
    rw [hheld, List.nil_append] at hframes
    cases waiting with
    | nil => exact absurd hframes hne
    | cons f rest =>
      obtain ⟨g, s', hpoll, hs', haccess⟩ :=
        poll_spec (Bool.eq_false_of_not_eq_true hreading) hframes (h.wf List.mem_cons_self)
      refine .inr ⟨f, rest, g, rfl, ⟨?_, h.sound, ?_, fun de => ?_⟩, by rw [hpoll], haccess⟩
      · simpa [step] using h.stored
      · simpa only [step, hpoll] using hs'
      · simp only [step, hpoll, Option.toList_some, List.map_append, List.map_cons, List.map_nil,
          h.yields de, haccess de]

/-- What is released was given before. -/
theorem Queued.release {r : Reader κ} {given waiting : List SentFrame} (h : r.Queued given waiting) :
    (r.step .release).Queued given waiting := by
  refine ⟨h.stored, h.sound, ?_, h.yields⟩
  obtain ⟨held, hframes, hheld⟩ := h.frames
  simp only [step, BorrowSocket.release]
  split
  · next hreading =>
    rw [if_pos hreading, List.length_eq_one_iff] at hheld
    obtain ⟨frame, rfl⟩ := hheld
    exact ⟨[], by simp [BorrowSocket.releaseFrame, hframes], rfl⟩
  · next hreading =>
    rw [if_neg hreading] at hheld
    exact ⟨held, hframes, by simpa [hreading] using hheld⟩

/-- What is stored waits behind the others. -/
theorem Queued.deliver {r : Reader κ} {given waiting : List SentFrame} (h : r.Queued given waiting)
    {d : Delivery} (hd : d.Sound) :
    ∃ waiting', (r.step (.deliver d)).Queued given waiting' := by
  obtain ⟨held, hframes, hheld⟩ := h.frames
  have hreading : (d.apply r.socket).reading = r.socket.reading := d.reading_apply r.socket
  rcases d.frames_apply r.socket with hsame | hmore
  · refine ⟨waiting, ?_, ?_, ⟨held, ?_, ?_⟩, h.yields⟩
    · simp [step, hsame, h.stored]
    · simpa [step, hsame] using h.sound
    · simpa only [step, hsame] using hframes
    · simpa only [step, hreading] using hheld
  · have hstored : (r.step (.deliver d)).stored = r.stored ++ [d.sent] := by simp [step, hmore]
    refine ⟨waiting ++ [d.sent], ?_, ?_, ⟨held, ?_, ?_⟩, h.yields⟩
    · rw [hstored, h.stored, List.append_assoc]
    · intro f hf
      rw [hstored] at hf
      rcases List.mem_append.mp hf with hf | hf
      · exact h.sound f hf
      · obtain rfl := List.mem_singleton.mp hf
        exact ⟨hd.hdr, hd.kind⟩
    · simp [step, hmore, hframes, bytes]
    · simpa only [step, hreading] using hheld

omit [BbqHandle κ] [BbqConsumer κ] in
theorem queued_new (mtu : UInt16) (queue : κ) : (new mtu queue).Queued [] [] :=
  ⟨rfl, by simp [new], ⟨[], rfl, rfl⟩, fun _ => rfl⟩

/-- The queue, after every run. -/
theorem queued_run (mtu : UInt16) (queue : κ) {acts : List BorrowAct}
    (hacts : ∀ a ∈ acts, ∀ d, a = .deliver d → d.Sound) :
    ∃ given waiting, (Runs.runAll step (new mtu queue) acts).Queued given waiting := by
  refine Runs.runAll_inv_of_forall (I := fun r => ∃ given waiting, Queued r given waiting)
    (G := fun a => ∀ d, a = .deliver d → d.Sound) ?_ ⟨[], [], queued_new mtu queue⟩ hacts
  rintro r a hsound ⟨given, waiting, h⟩
  cases a with
  | deliver d =>
    obtain ⟨waiting', h'⟩ := h.deliver (hsound d rfl)
    exact ⟨given, waiting', h'⟩
  | recv =>
    rcases h.poll with ⟨h', -⟩ | ⟨f, rest, g, -, h', -⟩
    · exact ⟨given, waiting, h'⟩
    · exact ⟨given ++ [f], rest, h'⟩
  | release => exact ⟨given, waiting, h.release⟩

end Reader

/-- A borrow socket is a queue. Its receiver is given what was stored, in order, each frame with
its header and the message or the error, and the next one whenever it asks without a grant. -/
theorem borrow_fifo {κ : Type} [BbqHandle κ] [BbqConsumer κ] (mtu : UInt16) (queue : κ)
    (acts : List BorrowAct) (hacts : ∀ a ∈ acts, ∀ d, a = .deliver d → d.Sound) :
    let r := Runs.runAll Reader.step (.new mtu queue) acts
    (r.yields.length ≤ r.stored.length ∧
      ∀ {α : Type} (de : List UInt8 → Option α), r.yields.map (·.tryAccess de) =
        (r.stored.take r.yields.length).map (Delivery.answer de)) ∧
    (r.socket.reading = false → ∀ f, r.stored[r.yields.length]? = some f →
      ∃ g, r.socket.poll.1 = some g ∧
        ∀ {α : Type} (de : List UInt8 → Option α), g.tryAccess de = Delivery.answer de f) := by
  intro r
  obtain ⟨given, waiting, h⟩ : ∃ given waiting, r.Queued given waiting :=
    Reader.queued_run mtu queue hacts
  have hlen : r.yields.length = given.length := by
    simpa using congrArg List.length (h.yields some)
  refine ⟨⟨?_, fun de => ?_⟩, fun hreading f hf => ?_⟩
  · rw [hlen, h.stored, List.length_append]
    exact Nat.le_add_right _ _
  · rw [h.yields de, hlen, h.stored, List.take_left]
  · rw [hlen, h.stored, List.getElem?_append_right (Nat.le_refl _), Nat.sub_self] at hf
    rcases h.poll with ⟨-, hbusy | hnil⟩ | ⟨f', rest, g, hwaiting, -, hpoll, haccess⟩
    · exact absurd (hreading.symm.trans hbusy) Bool.false_ne_true
    · rw [hnil] at hf
      cases hf
    · rw [hwaiting] at hf
      cases hf
      exact ⟨g, hpoll, haccess⟩

/-! ## Frames that do not come back -/

instance : BbqConsumer EndlessQueue where
  release q := q

/-- A request with more hops than the wire has. -/
def farRequest : Header := ⟨⟨0, 0, 5⟩, ⟨0, 0, 9⟩, none, .endpointReq, .normal, 20⟩

/-- An error to the port of "any". -/
def anyError : Header :=
  ⟨⟨0, 0, 5⟩, ⟨0, 0, 0⟩, some ⟨⟨.replicate 8 1⟩, none⟩, .protocolError, .normal, 15⟩

/-- Whether the appendix matches the port, and the kind the path. -/
structure Delivery.Matched (d : Delivery) : Prop where
  appendix : d.sent.1.anyAll.isSome ↔ d.sent.1.dst.portId = 0 ∨ d.sent.1.dst.portId = 255
  kind : d.sent.1.kind = .protocolError ↔ ∃ e, d.sent.2 = .error e

/-- What the receiver was given of these deliveries, which it asked for twice. -/
def demoReader (deliveries : List Delivery) : Reader EndlessQueue :=
  Runs.runAll Reader.step (.new 64 {}) (deliveries.map .deliver ++ [.recv, .recv])

/-- A header with too many hops comes back with fewer. An error to the port of "any" does not come
back, nor does what is stored behind it. -/
theorem borrow_fifo_wire_only :
    (∀ d ∈ [Delivery.bor ⟨0, [7]⟩ farRequest, .err anyError .nsseNoRoute, .raw [8] demoRequest],
      d.Matched) ∧
    (demoReader [.bor ⟨0, [7]⟩ farRequest]).stored = [(farRequest, .ok [7])] ∧
    (demoReader [.bor ⟨0, [7]⟩ farRequest]).yields.map (·.tryAccess some) =
      [some ({ farRequest with ttl := 15 }, .ok [7])] ∧
    (demoReader [.err anyError .nsseNoRoute, .raw [8] demoRequest]).stored =
      [(anyError, .error .nsseNoRoute), (demoRequest, .ok [8])] ∧
    (demoReader [.err anyError .nsseNoRoute, .raw [8] demoRequest]).yields = [] ∧
    (demoReader [.err anyError .nsseNoRoute, .raw [8] demoRequest]).socket.poll.1 = none := by
  refine ⟨?_, rfl, rfl, rfl, rfl, rfl⟩
  intro d hd
  simp only [List.mem_cons, List.not_mem_nil, or_false] at hd
  rcases hd with rfl | rfl | rfl
  · exact ⟨by decide, iff_of_false (by decide) nofun⟩
  · exact ⟨by decide, iff_of_true rfl ⟨_, rfl⟩⟩
  · exact ⟨by decide, iff_of_false (by decide) nofun⟩

/-- A message, an error and a raw message, with a receive while a grant is outstanding. -/
def demoReads : List BorrowAct :=
  [.deliver (.bor ⟨0, [7]⟩ demoRequest), .recv,
    .deliver (.err { demoRequest with kind := .protocolError } .nsseNoRoute), .recv, .release,
    .deliver (.raw [8] farRequest), .recv, .recv]

theorem borrow_fifo_demo :
    (Runs.runAll Reader.step (.new 64 EndlessQueue.mk) demoReads).yields.map (·.tryAccess some) =
      [some (demoRequest, .ok [7]),
        some ({ demoRequest with kind := .protocolError }, .error .nsseNoRoute),
        some ({ farRequest with ttl := 15 }, .ok [8])] := by
  have hacts : ∀ a ∈ demoReads, ∀ d, a = .deliver d → d.Sound := by
    intro a ha d hd
    subst hd
    simp only [demoReads, List.mem_cons, BorrowAct.deliver.injEq, reduceCtorEq, false_or,
      List.not_mem_nil, or_false] at ha
    rcases ha with rfl | rfl | rfl
    · exact ⟨⟨rfl, by decide, by decide⟩, iff_of_false (by decide) nofun⟩
    · exact ⟨⟨rfl, by decide, by decide⟩, iff_of_true rfl ⟨_, rfl⟩⟩
    · exact ⟨⟨rfl, by decide, by decide⟩, iff_of_false (by decide) nofun⟩
  exact (borrow_fifo 64 EndlessQueue.mk demoReads hacts).1.2 some

end Ergot
