import Ergot.Stack.Faces
import Ergot.Transport.Watched
import Ergot.Lib.Runs

/-!
# UDP links of a host

`register_edge` (transports/tokio_udp.rs) spawns two tasks for a socket: the RX task hands
datagrams to the frame processor, the TX task sends the frames of a queue as datagrams. They share
a closer, and where the socket is not connected a watch channel, by which the RX task tells the TX
task the address of its peer.

- `UdpLink` is the link with both tasks, and `UdpLink.step` one thing that happens to it.
- `UdpLink.run_peer`: all datagrams go to one address, from which something was received before
  the first of them, and they are the committed frames, each once and in order, whatever the socket
  says to them.
- `UdpLink.run_closes`: a task only ends with the closer closed, the RX task only with the
  interface down, and once the closer is closed three turns end both tasks.

The TX task takes the newest address when it looks, which need not be that of the first datagram.
-/

namespace Ergot

/-! ## The two tasks -/

/-- Where the TX task is: it waits for the address of its peer, for a frame, or for the socket, or
it has ended. -/
inductive UdpTxPhase (α : Type)
  | waitPeer
  | waitRead (peer : Option α)
  | sending (peer : Option α)
  | ended
deriving DecidableEq

/-- What happens to a link: a datagram or an error comes from the socket, the liveness timer fires,
the RX task sees the closer; a frame is committed; the TX task sees the channel, the queue, the end
of its send (with or without an error) or the closer; or somebody closes the closer. -/
inductive UdpEvent (α : Type)
  | datagram (addr : α) (data : List UInt8)
  | recvError
  | timer
  | rxClosed
  | commit (frame : List UInt8)
  | peerChanged
  | ready
  | sent (ok : Bool)
  | txClosed
  | close

/-- A link. Addresses are of any type `α`. The watch channel is there if the socket is not
connected: its value, and whether the TX task has seen it. The code has no fields `heard`, `sends`
and `committed`: they record the addresses of the datagrams that were received, the datagrams that
were sent and to whom, and the frames that were committed. -/
structure UdpLink (α κ P ι : Type) where
  link : Watched κ P ι
  liveness : Bool
  clock : Nat → FrameClock
  learnPeer : Bool
  peer : Option α
  peerSeen : Bool
  closed : Bool
  rxEnded : Bool
  haveReceived : Bool
  tx : UdpTxPhase α
  queue : List (List UInt8)
  heard : List α
  sends : List (Option α × List UInt8)
  committed : List (List UInt8)

namespace UdpLink

variable {α κ P ι : Type}

/-- A link that was just registered. A connected socket has its peer. -/
def start (link : Watched κ P ι) (liveness : Bool) (clock : Nat → FrameClock) (learnPeer : Bool) :
    UdpLink α κ P ι :=
  { link, liveness, clock, learnPeer
    peer := none
    peerSeen := true
    closed := false
    rxEnded := false
    haveReceived := false
    tx := if learnPeer then .waitPeer else .waitRead none
    queue := []
    heard := []
    sends := []
    committed := [] }

variable [Profile P ι]

/-- The end of the RX task. Its side of the channel goes with it. -/
def leave (s : UdpLink α κ P ι) : UdpLink α κ P ι :=
  { s with link := s.link.setState .down, closed := true, rxEnded := true }

/-- The TX task returns, or breaks out of its loop. -/
def endTx (s : UdpLink α κ P ι) : UdpLink α κ P ι := { s with closed := true, tx := .ended }

/-- `UdpRxWorker::run` and the task around it. -/
def stepRx [SocketVTable κ] (s : UdpLink α κ P ι) : UdpEvent α → UdpLink α κ P ι
  | .datagram addr data =>
    -- an empty datagram is not a sign of life
    if data.isEmpty then s
    else
      { s with
        haveReceived := true
        peer := if s.learnPeer then some addr else s.peer
        peerSeen := if s.learnPeer then false else s.peerSeen
        link := s.link.feed data (s.clock s.heard.length)
        heard := s.heard ++ [addr] }
  | .timer =>
    if s.liveness && s.haveReceived then { s with link := s.link.setState .down }.leave else s
  | .rxClosed => if s.closed then s.leave else s
  | _ => s

omit [Profile P ι] in
/-- `UdpTxWorker::run`. -/
def stepTx (s : UdpLink α κ P ι) : UdpEvent α → UdpLink α κ P ι
  | .peerChanged =>
    match s.tx with
    | .waitPeer =>
      if s.peerSeen then if s.rxEnded then s.endTx else s
      else
        match s.peer with
        | some addr => { s with peerSeen := true, tx := .waitRead (some addr) }
        | none => { s with peerSeen := true }
    | _ => s
  | .ready =>
    match s.tx, s.queue with
    | .waitRead peer, _ :: _ => { s with tx := .sending peer }
    | _, _ => s
  | .sent _ =>
    match s.tx with
    | .sending peer =>
      -- the frame is released before the result is looked at
      { s with
        tx := .waitRead peer
        queue := s.queue.tail
        sends := s.sends ++ s.queue.head?.toList.map fun frame => (peer, frame) }
    | _ => s
  | .txClosed =>
    match s.tx with
    | .waitPeer | .waitRead _ => if s.closed then s.endTx else s
    | .sending _ | .ended => s
  | _ => s

/-- One event. -/
def step [SocketVTable κ] (s : UdpLink α κ P ι) : UdpEvent α → UdpLink α κ P ι
  | .commit frame => { s with queue := s.queue ++ [frame], committed := s.committed ++ [frame] }
  | .close => { s with closed := true }
  | .datagram addr data => if s.rxEnded then s else s.stepRx (.datagram addr data)
  | .recvError => s
  | .timer => if s.rxEnded then s else s.stepRx .timer
  | .rxClosed => if s.rxEnded then s else s.stepRx .rxClosed
  | .peerChanged => s.stepTx .peerChanged
  | .ready => s.stepTx .ready
  | .sent ok => s.stepTx (.sent ok)
  | .txClosed => s.stepTx .txClosed

/-! ## What is sent, and to whom -/

/-- The address that the TX task sends to: none if the socket is connected, and otherwise one of
those from which something was received. -/
def SendsTo (s : UdpLink α κ P ι) (target : Option α) : Prop :=
  if s.learnPeer then ∃ addr ∈ s.heard, target = some addr else target = none

/-- What the TX task knows, depending on where it is. -/
def PeerKnown (s : UdpLink α κ P ι) : Prop :=
  match s.tx with
  | .waitPeer => s.sends = []
  | .waitRead peer | .sending peer => s.SendsTo peer ∧ ∀ x ∈ s.sends, x.1 = peer
  | .ended => s.sends = [] ∨ ∃ peer, s.SendsTo peer ∧ ∀ x ∈ s.sends, x.1 = peer

/-- The frames are where they should be, and the channel has an address that was heard. -/
structure Delivers (s : UdpLink α κ P ι) : Prop where
  committed : s.sends.map Prod.snd ++ s.queue = s.committed
  channel : ∀ addr, s.peer = some addr → addr ∈ s.heard ∧ s.learnPeer = true
  known : s.PeerKnown

omit [Profile P ι] in
theorem delivers_start (link : Watched κ P ι) (liveness : Bool) (clock : Nat → FrameClock)
    (learnPeer : Bool) :
    (start link liveness clock learnPeer : UdpLink α κ P ι).Delivers where
  committed := rfl
  channel := nofun
  known := by
    cases learnPeer with
    | true => exact rfl
    | false => exact ⟨rfl, nofun⟩

omit [Profile P ι] in
/-- More addresses are heard. -/
theorem SendsTo.mono {s s' : UdpLink α κ P ι} {target : Option α} (h : s.SendsTo target)
    (hlearn : s'.learnPeer = s.learnPeer) (hheard : s.heard ⊆ s'.heard) : s'.SendsTo target := by
  unfold SendsTo at h ⊢
  rw [hlearn]
  split at h
  · next hl =>
    obtain ⟨addr, hmem, rfl⟩ := h
    rw [if_pos hl]
    exact ⟨addr, hheard hmem, rfl⟩
  · next hl =>
    rw [if_neg hl]
    exact h

omit [Profile P ι] in
/-- The RX task leaves the TX task alone, and hears more. -/
theorem PeerKnown.mono {s s' : UdpLink α κ P ι} (h : s.PeerKnown)
    (hlearn : s'.learnPeer = s.learnPeer) (hheard : s.heard ⊆ s'.heard) (htx : s'.tx = s.tx)
    (hsends : s'.sends = s.sends) : s'.PeerKnown := by
  unfold PeerKnown at h ⊢
  rw [htx, hsends]
  cases hphase : s.tx with
  | waitPeer => simpa [hphase] using h
  | waitRead peer =>
    simp only [hphase] at h
    exact ⟨h.1.mono hlearn hheard, h.2⟩
  | sending peer =>
    simp only [hphase] at h
    exact ⟨h.1.mono hlearn hheard, h.2⟩
  | ended =>
    simp only [hphase] at h
    exact h.imp_right fun ⟨peer, hto, hall⟩ => ⟨peer, hto.mono hlearn hheard, hall⟩

omit [Profile P ι] in
/-- Whatever the TX task was doing, it may have ended. -/
theorem PeerKnown.ended {s : UdpLink α κ P ι} (h : s.PeerKnown) : s.endTx.PeerKnown := by
  unfold PeerKnown at h
  show s.sends = [] ∨ ∃ peer, s.SendsTo peer ∧ ∀ x ∈ s.sends, x.1 = peer
  split at h
  · exact .inl h
  · exact .inr ⟨_, h⟩
  · exact .inr ⟨_, h⟩
  · exact h

variable [SocketVTable κ]

theorem Delivers.stepRx {s : UdpLink α κ P ι} (h : s.Delivers) (event : UdpEvent α) :
    (s.stepRx event).Delivers := by
  have hsame : ∀ link closed rxEnded,
      ({ s with link, closed, rxEnded } : UdpLink α κ P ι).Delivers :=
    fun link closed rxEnded => ⟨h.committed, h.channel, h.known⟩
  cases event with
  | datagram addr data =>
    simp only [UdpLink.stepRx]
    split
    · exact h
    · have hheard : s.heard ⊆ s.heard ++ [addr] := List.subset_append_left _ _
      refine { committed := h.committed, channel := ?_, known := h.known.mono rfl hheard rfl rfl }
      intro addr' haddr
      dsimp only at haddr
      split at haddr
      · next hlearn =>
        cases haddr
        exact ⟨by simp, hlearn⟩
      · exact ⟨hheard (h.channel addr' haddr).1, (h.channel addr' haddr).2⟩
  | timer =>
    simp only [UdpLink.stepRx]
    split
    · exact hsame _ _ _
    · exact h
  | rxClosed =>
    simp only [UdpLink.stepRx]
    split
    · exact hsame _ _ _
    · exact h
  | _ => exact h

omit [Profile P ι] [SocketVTable κ] in
theorem Delivers.endTx {s : UdpLink α κ P ι} (h : s.Delivers) : s.endTx.Delivers :=
  ⟨h.committed, h.channel, h.known.ended⟩

omit [Profile P ι] [SocketVTable κ] in
theorem Delivers.stepTx {s : UdpLink α κ P ι} (h : s.Delivers) (event : UdpEvent α) :
    (s.stepTx event).Delivers := by
  have hknown := h.known
  cases event with
  | peerChanged =>
    simp only [UdpLink.stepTx]
    split
    · next htx =>
      simp only [PeerKnown, htx] at hknown
      split
      · split
        · exact h.endTx
        · exact h
      · split
        · next addr hpeer =>
          obtain ⟨hheard, hlearn⟩ := h.channel addr hpeer
          refine ⟨h.committed, h.channel, ?_, ?_⟩
          · unfold SendsTo
            rw [if_pos hlearn]
            exact ⟨addr, hheard, rfl⟩
          · intro x hx
            rw [show ({ s with peerSeen := true, tx := .waitRead (some addr) } :
              UdpLink α κ P ι).sends = [] from hknown] at hx
            cases hx
        · exact ⟨h.committed, h.channel, h.known⟩
    · exact h
  | ready =>
    simp only [UdpLink.stepTx]
    split
    · next peer frame rest htx hqueue =>
      simp only [PeerKnown, htx] at hknown
      exact ⟨h.committed, h.channel, hknown⟩
    · exact h
  | sent ok =>
    simp only [UdpLink.stepTx]
    split
    · next peer htx =>
      simp only [PeerKnown, htx] at hknown
      refine ⟨?_, h.channel, hknown.1, ?_⟩
      · rw [← h.committed]
        cases s.queue with
        | nil => simp
        | cons frame rest => simp
      · intro x hx
        rcases List.mem_append.mp hx with hx | hx
        · exact hknown.2 x hx
        · obtain ⟨frame, -, rfl⟩ := List.mem_map.mp hx
          rfl
    · exact h
  | txClosed =>
    simp only [UdpLink.stepTx]
    split
    · split
      · exact h.endTx
      · exact h
    · split
      · exact h.endTx
      · exact h
    all_goals exact h
  | _ => exact h

theorem Delivers.step {s : UdpLink α κ P ι} (h : s.Delivers) (event : UdpEvent α) :
    (s.step event).Delivers := by
  cases event with
  | commit frame =>
    refine { committed := ?_, channel := h.channel, known := h.known }
    show s.sends.map Prod.snd ++ (s.queue ++ [frame]) = s.committed ++ [frame]
    rw [← List.append_assoc, h.committed]
  | close => exact ⟨h.committed, h.channel, h.known⟩
  | recvError => exact h
  | peerChanged => exact h.stepTx .peerChanged
  | ready => exact h.stepTx .ready
  | sent ok => exact h.stepTx (.sent ok)
  | txClosed => exact h.stepTx .txClosed
  | datagram addr data =>
    simp only [UdpLink.step]
    split
    · exact h
    · exact h.stepRx _
  | timer =>
    simp only [UdpLink.step]
    split
    · exact h
    · exact h.stepRx _
  | rxClosed =>
    simp only [UdpLink.step]
    split
    · exact h
    · exact h.stepRx _

/-- What a link sends, after any events: the datagrams are the committed frames, in order and each
once, up to those that are still queued. They all have one address: none over a connected socket,
and otherwise one from which something had been received when the first of them was sent. -/
theorem run_peer (link : Watched κ P ι) (liveness : Bool) (clock : Nat → FrameClock)
    (learnPeer : Bool) (events : List (UdpEvent α)) :
    let s := Runs.runAll step (start link liveness clock learnPeer) events
    s.sends.map Prod.snd ++ s.queue = s.committed ∧
      (s.sends = [] ∨ ∃ peer, s.SendsTo peer ∧ ∀ x ∈ s.sends, x.1 = peer) := by
  have h : (Runs.runAll step (start link liveness clock learnPeer) events).Delivers :=
    Runs.runAll_inv (I := fun s : UdpLink α κ P ι => s.Delivers)
      (fun s event h => h.step event) (delivers_start link liveness clock learnPeer) events
  exact ⟨h.committed, h.known.ended⟩

def demoUnlinked : Watched OwnedSocket (DirectEdge FrameQueue) Unit :=
  ⟨⟨(), .edge .new⟩, ⟨[], .newTarget ⟨1000, 4, []⟩⟩, some .down⟩

/-- A link that is not connected learns its peer, sends a frame, and is closed. -/
def demoDatagrams : List (UdpEvent Nat) :=
  [.commit [1], .datagram 7 [5], .datagram 8 [6], .peerChanged, .ready, .close, .sent false]

-- Two datagrams arrive before the TX task looks: it replies to the second of them.
example : (Runs.runAll step (start demoUnlinked true (fun _ => ⟨0, .at 0, .at 0⟩) true)
    demoDatagrams).sends = [(some 8, [1])] := by
  decide

/-! ## How a link ends -/

/-- A task has only ended with what it leaves behind. -/
structure Closes (s : UdpLink α κ P ι) : Prop where
  current : s.link.Current
  rx : s.rxEnded = true → s.closed = true ∧ s.link.IsDown
  tx : s.tx = .ended → s.closed = true

variable [Interfaces P]

omit [SocketVTable κ] in
theorem Closes.leave {s : UdpLink α κ P ι} : s.leave.Closes where
  current := Watched.current_setState _ _
  rx := fun _ => ⟨rfl, Watched.isDown_setState _⟩
  tx := fun _ => rfl

theorem Closes.stepRx {s : UdpLink α κ P ι} (h : s.Closes) (hrx : ¬ s.rxEnded = true)
    (event : UdpEvent α) : (s.stepRx event).Closes := by
  cases event with
  | datagram addr data =>
    simp only [UdpLink.stepRx]
    split
    · exact h
    · exact ⟨h.current.feed _ _, fun hended => absurd hended hrx, h.tx⟩
  | timer =>
    simp only [UdpLink.stepRx]
    split
    · exact .leave
    · exact h
  | rxClosed =>
    simp only [UdpLink.stepRx]
    split
    · exact .leave
    · exact h
  | _ => exact h

omit [SocketVTable κ] [Interfaces P] in
/-- The TX task goes on, and has not ended. -/
theorem Closes.going {s : UdpLink α κ P ι} (h : s.Closes) {tx : UdpTxPhase α}
    (htx : tx ≠ .ended) (peerSeen : Bool) (queue : List (List UInt8))
    (sends : List (Option α × List UInt8)) :
    ({ s with tx, peerSeen, queue, sends } : UdpLink α κ P ι).Closes :=
  ⟨h.current, h.rx, fun hended => absurd hended htx⟩

omit [SocketVTable κ] [Interfaces P] in
theorem Closes.endTx {s : UdpLink α κ P ι} (h : s.Closes) : s.endTx.Closes :=
  ⟨h.current, fun hended => ⟨rfl, (h.rx hended).2⟩, fun _ => rfl⟩

omit [SocketVTable κ] [Interfaces P] in
theorem Closes.stepTx {s : UdpLink α κ P ι} (h : s.Closes) (event : UdpEvent α) :
    (s.stepTx event).Closes := by
  cases event with
  | peerChanged =>
    simp only [UdpLink.stepTx]
    split
    · split
      · split
        · exact h.endTx
        · exact h
      · split
        · exact h.going (by simp) _ _ _
        · exact ⟨h.current, h.rx, h.tx⟩
    · exact h
  | ready =>
    simp only [UdpLink.stepTx]
    split
    · exact h.going (by simp) _ _ _
    · exact h
  | sent ok =>
    simp only [UdpLink.stepTx]
    split
    · exact h.going (by simp) _ _ _
    · exact h
  | txClosed =>
    simp only [UdpLink.stepTx]
    split
    · split
      · exact h.endTx
      · exact h
    · split
      · exact h.endTx
      · exact h
    all_goals exact h
  | _ => exact h

theorem Closes.step {s : UdpLink α κ P ι} (h : s.Closes) (event : UdpEvent α) :
    (s.step event).Closes := by
  cases event with
  | commit frame => exact ⟨h.current, h.rx, h.tx⟩
  | close => exact ⟨h.current, fun hended => ⟨rfl, (h.rx hended).2⟩, fun _ => rfl⟩
  | recvError => exact h
  | peerChanged => exact h.stepTx .peerChanged
  | ready => exact h.stepTx .ready
  | sent ok => exact h.stepTx (.sent ok)
  | txClosed => exact h.stepTx .txClosed
  | datagram addr data =>
    simp only [UdpLink.step]
    split
    · exact h
    · next hrx => exact h.stepRx hrx _
  | timer =>
    simp only [UdpLink.step]
    split
    · exact h
    · next hrx => exact h.stepRx hrx _
  | rxClosed =>
    simp only [UdpLink.step]
    split
    · exact h
    · next hrx => exact h.stepRx hrx _

/-- The events by which the tasks come to see the closer: the TX task looks once it has sent what
it is sending. -/
def windDown (ok : Bool) : List (UdpEvent α) := [.rxClosed, .sent ok, .txClosed]

omit [Interfaces P] in
theorem windDown_ends {s : UdpLink α κ P ι} (hclosed : s.closed = true) (ok : Bool) :
    (Runs.runAll step s (windDown ok)).rxEnded = true ∧
      (Runs.runAll step s (windDown ok)).tx = .ended := by
  have hrx : (s.step .rxClosed).rxEnded = true ∧ (s.step .rxClosed).closed = true ∧
      (s.step .rxClosed).tx = s.tx := by
    simp only [step, stepRx, hclosed, if_true]
    split
    · next hended => exact ⟨hended, hclosed, rfl⟩
    · exact ⟨rfl, rfl, rfl⟩
  obtain ⟨hended, hclosed', htx⟩ := hrx
  simp only [windDown, Runs.runAll_cons, Runs.runAll_nil]
  generalize s.step .rxClosed = s' at hended hclosed'
  cases hphase : s'.tx <;> simp [step, stepTx, hphase, hclosed', hended, endTx]

/-- How a link ends, after any events: its observer is up to date, if it was to begin with; a task
that has ended has closed the closer, and the RX task has left the interface down; and once the
closer is closed, the tasks end as soon as they look. -/
theorem run_closes (link : Watched κ P ι) (hlink : link.Current) (liveness : Bool)
    (clock : Nat → FrameClock) (learnPeer : Bool) (events : List (UdpEvent α)) :
    let s := Runs.runAll step (start link liveness clock learnPeer) events
    s.link.Current ∧ (s.rxEnded = true → s.closed = true ∧ s.link.IsDown) ∧
      (s.tx = .ended → s.closed = true) ∧
      (s.closed = true → ∀ ok, (Runs.runAll step s (windDown ok)).rxEnded = true ∧
        (Runs.runAll step s (windDown ok)).tx = .ended) := by
  have hstart : (start link liveness clock learnPeer : UdpLink α κ P ι).Closes := by
    refine ⟨hlink, nofun, fun hended => ?_⟩
    cases learnPeer <;> cases hended
  have h : (Runs.runAll step (start link liveness clock learnPeer) events).Closes :=
    Runs.runAll_inv (I := fun s : UdpLink α κ P ι => s.Closes)
      (fun s event h => h.step event) hstart events
  exact ⟨h.current, h.rx, h.tx, fun hclosed ok => windDown_ends hclosed ok⟩

theorem run_closes_demo :
    let s : UdpLink Nat _ _ _ :=
      Runs.runAll step (start demoUnlinked true (fun _ => ⟨0, .at 0, .at 0⟩) true) demoDatagrams
    (Runs.runAll step s (windDown true)).rxEnded = true ∧
      (Runs.runAll step s (windDown true)).tx = .ended := by
  intro s
  exact (run_closes demoUnlinked rfl true (fun _ => ⟨0, .at 0, .at 0⟩) true demoDatagrams).2.2.2
    rfl true

end UdpLink

end Ergot
