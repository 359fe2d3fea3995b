import Ergot.Usb.Connection
import Ergot.Usb.NusbTx

/-!
# USB links

A host that writes to a device: the transfers of `NusbTxWorker` as packets on the bus, read in
order by the `RxWorker` of the device, which may be interrupted anywhere.

- `UsbLink` is both of them, and `UsbLink.step` a step of either. `taken` is how many packets of
  the wire the device has read.
- `UsbLink.Inv` says that what the device has seen is what it has read of the wire.
- `UsbLink.run_delivered`: a frame that is handed on has bytes of one frame that was committed
  only, and without failures and interruptions the frames are the committed ones.
-/

namespace Ergot.Usb

open Packets

structure UsbLink (κ P ι : Type) where
  tx : NusbTxWorker
  taken : Nat
  rx : UsbRx κ P ι

/-- What happens to a link: something at the host, the device reads a packet, or something else at
the device. -/
inductive UsbLinkAct
  | host (act : NusbTxAct)
  | read
  | device (event : UsbRxEvent)

namespace UsbLink

variable {κ P ι : Type}

def start (mps : Option Nat) (link : Watched κ P ι) : UsbLink κ P ι := ⟨.start mps, 0, .new link⟩

variable [SocketVTable κ] [Profile P ι] (cfg : UsbRxConfig)

def step (l : UsbLink κ P ι) : UsbLinkAct → UsbLink κ P ι
  | .host act => { l with tx := l.tx.step cfg.maxUsbFrameSize act }
  | .read =>
    match l.rx.phase, l.tx.wire[l.taken]? with
    | .connected, some p =>
      { l with taken := l.taken + 1, rx := l.rx.step cfg (.arrival (.packet p)) }
    | _, _ => l
  | .device event =>
    match event with
    | .arrival (.packet _) => l
    | event => { l with rx := l.rx.step cfg event }

end UsbLink

/-! ## The host -/

namespace NusbTxWorker

variable {m : Nat} {w : NusbTxWorker}

theorem length_le_of_mem_transferPackets {data p : List UInt8} (hp : p ∈ transferPackets m data) :
    p.length ≤ m := by
  unfold transferPackets at hp
  split at hp
  · rw [List.mem_singleton.mp hp]
    exact Nat.zero_le m
  · exact length_le_of_mem_chunks hp

@[simp] theorem next_wire (w : NusbTxWorker) (ok : Bool) : (w.next ok).wire = w.wire := by
  unfold next
  split
  · split
    · rfl
    · split <;> rfl
  · split <;> rfl
  · rfl

/-- What one step adds to the wire: nothing, or packets of a transfer. -/
theorem step_wire (m : Nat) (w : NusbTxWorker) (act : NusbTxAct) :
    (w.step m act).wire = w.wire ∨ ∃ data packets, (w.step m act).wire = w.wire ++ packets ∧
      ∀ p ∈ packets, p ∈ transferPackets m data := by
  cases act with
  | commit frame => exact .inl rfl
  | serve =>
    refine .inl ?_
    simp only [step]
    split <;> rfl
  | complete ok reached =>
    simp only [step]
    split
    · exact .inl rfl
    · next data inFlight _ =>
      refine .inr ⟨data, if ok then transferPackets m data else
        (transferPackets m data).take reached, next_wire _ _, fun p hp => ?_⟩
      cases ok with
      | true => exact hp
      | false => exact List.mem_of_mem_take hp
  | close =>
    refine .inl ?_
    simp only [step]
    split <;> rfl

end NusbTxWorker

/-! ## The device -/

namespace UsbRx

variable {κ P ι : Type} [SocketVTable κ] [Profile P ι]

theorem arrival_trace (cfg : UsbRxConfig) (s : UsbRx κ P ι) (a : Arrival) :
    (s.arrival cfg a).trace = s.trace ++ [a.packet?] := by
  unfold arrival
  split <;> rfl

/-- What is not a packet is no more than an interruption. -/
theorem step_trace (cfg : UsbRxConfig) (s : UsbRx κ P ι) {event : UsbRxEvent}
    (h : ∀ p, event ≠ .arrival (.packet p)) :
    (s.step cfg event).trace = s.trace ∨ (s.step cfg event).trace = s.trace ++ [none] := by
  unfold step
  split
  · exact .inl rfl
  · exact .inr rfl
  · next a _ =>
    cases a with
    | packet p => exact absurd rfl (h p)
    | disabled => exact .inr (arrival_trace cfg s .disabled)
  · split <;> exact .inr rfl
  · split
    · exact .inr rfl
    · exact .inl rfl
  · exact .inl rfl
  · exact .inl rfl
  · exact .inl rfl

end UsbRx

/-! ## Both -/

namespace UsbLink

variable {κ P ι : Type} {cfg : UsbRxConfig} {l : UsbLink κ P ι}

/-- What holds of a link at all times. -/
structure Inv (cfg : UsbRxConfig) (l : UsbLink κ P ι) : Prop where
  tx : l.tx.Inv cfg.maxUsbFrameSize
  fits : ∀ p ∈ l.tx.wire, p.length ≤ cfg.maxUsbFrameSize
  rx : l.rx.Inv cfg
  exact : 0 < cfg.buflen → cfg.maxUsbFrameSize ∣ cfg.buflen → l.rx.Exact cfg
  seen : l.rx.trace.reduceOption = l.tx.wire.take l.taken
  taken : l.taken ≤ l.tx.wire.length

theorem inv_start {mps : Option Nat} (h : mps = none ∨ mps = some cfg.maxUsbFrameSize)
    (link : Watched κ P ι) : (start mps link).Inv cfg where
  tx := NusbTxWorker.inv_start h
  fits := nofun
  rx := UsbRx.inv_new link
  exact _ _ := UsbRx.exact_new link
  seen := rfl
  taken := Nat.le_refl 0

theorem Inv.host (h : l.Inv cfg) (act : NusbTxAct) :
    Inv cfg { l with tx := l.tx.step cfg.maxUsbFrameSize act } := by
  obtain ⟨packets, hwire, hpackets⟩ : ∃ packets,
      (l.tx.step cfg.maxUsbFrameSize act).wire = l.tx.wire ++ packets ∧
        ∀ p ∈ packets, p.length ≤ cfg.maxUsbFrameSize := by
    rcases l.tx.step_wire cfg.maxUsbFrameSize act with hsame | ⟨data, packets, hwire, hpackets⟩
    · exact ⟨[], by rw [hsame, List.append_nil], nofun⟩
    · exact ⟨packets, hwire, fun p hp =>
        NusbTxWorker.length_le_of_mem_transferPackets (hpackets p hp)⟩
  refine ⟨h.tx.step cfg.pos act, ?_, h.rx, h.exact, ?_, ?_⟩
  · show ∀ p ∈ (l.tx.step cfg.maxUsbFrameSize act).wire, _
    rw [hwire, List.forall_mem_append]
    exact ⟨h.fits, hpackets⟩
  · show l.rx.trace.reduceOption = (l.tx.step cfg.maxUsbFrameSize act).wire.take l.taken
    rw [hwire, List.take_append_of_le_length h.taken]
    exact h.seen
  · show l.taken ≤ (l.tx.step cfg.maxUsbFrameSize act).wire.length
    rw [hwire, List.length_append]
    exact Nat.le_add_right_of_le h.taken

variable [SocketVTable κ] [Profile P ι]

theorem Inv.read (h : l.Inv cfg) {p : List UInt8} (hphase : l.rx.phase = .connected)
    (hp : l.tx.wire[l.taken]? = some p) :
    Inv cfg { l with taken := l.taken + 1, rx := l.rx.step cfg (.arrival (.packet p)) } := by
  have hstep : l.rx.step cfg (.arrival (.packet p)) = l.rx.arrival cfg (.packet p) := by
    unfold UsbRx.step
    rw [hphase]
  have hfits : p.length ≤ cfg.maxUsbFrameSize := h.fits p (List.mem_of_getElem? hp)
  refine ⟨h.tx, h.fits, h.rx.step hfits,
    fun hbuf hdvd => (h.exact hbuf hdvd).step hbuf hdvd hfits, ?_, ?_⟩
  · show (l.rx.step cfg (.arrival (.packet p))).trace.reduceOption = l.tx.wire.take (l.taken + 1)
    rw [hstep, UsbRx.arrival_trace, List.reduceOption_append, h.seen, List.take_add_one, hp]
    rfl
  · exact (List.getElem?_eq_some_iff.mp hp).1

theorem Inv.device (h : l.Inv cfg) {event : UsbRxEvent} (hne : ∀ p, event ≠ .arrival (.packet p)) :
    Inv cfg { l with rx := l.rx.step cfg event } := by
  have hfits : event.Fits cfg.maxUsbFrameSize := by
    cases event with
    | arrival a =>
      cases a with
      | packet p => exact absurd rfl (hne p)
      | disabled => trivial
    | _ => trivial
  refine ⟨h.tx, h.fits, h.rx.step hfits,
    fun hbuf hdvd => (h.exact hbuf hdvd).step hbuf hdvd hfits, ?_, h.taken⟩
  show (l.rx.step cfg event).trace.reduceOption = l.tx.wire.take l.taken
  rw [← h.seen]
  rcases UsbRx.step_trace cfg l.rx hne with hsame | hgap
  · rw [hsame]
  · rw [hgap, List.reduceOption_append]
    exact List.append_nil _

/-- What one step preserves. -/
theorem Inv.step (h : l.Inv cfg) (act : UsbLinkAct) : (l.step cfg act).Inv cfg := by
  cases act with
  | host act => exact h.host act
  | read =>
    simp only [UsbLink.step]
    split
    · next p hphase hp => exact h.read hphase hp
    · exact h
  | device event =>
    simp only [UsbLink.step]
    split
    · exact h
    · next hne => exact h.device fun p hp => hne p hp

/-! ## What is delivered -/

omit [SocketVTable κ] [Profile P ι] in
/-- What the device has read are the first of the runs on the wire. -/
theorem Inv.runs_first (h : l.Inv cfg) :
    (Cut.of cfg.maxUsbFrameSize l.rx.trace.reduceOption).ended <+:
      (Cut.of cfg.maxUsbFrameSize l.tx.wire).ended := by
  rw [h.seen]
  exact Cut.ended_prefix_of _ (List.take_prefix _ _)

/-- Ends of runs, without those that are empty. -/
theorem sublistForall₂_nonempty {runs runs' : List (List UInt8)}
    (h : List.SublistForall₂ (· <:+ ·) runs runs') :
    List.SublistForall₂ (· <:+ ·) (nonempty runs) (nonempty runs') := by
  have hkeep : ∀ run rest, nonempty (run :: rest) = nonempty [run] ++ nonempty rest :=
    fun run rest => nonempty_append [run] rest
  induction h with
  | nil => exact .nil
  | @cons run run' rest rest' hrun _ ih =>
    rw [hkeep run, hkeep run']
    cases run with
    | nil =>
      rw [nonempty_singleton_nil, List.nil_append]
      exact Cut.sublistForall₂_of_sublist ih (List.sublist_append_right _ _)
    | cons b run =>
      cases run' with
      | nil => exact absurd (List.suffix_nil.mp hrun) (List.cons_ne_nil b run)
      | cons b' run' => exact .cons hrun ih
  | @cons_right run' rest rest' _ ih =>
    rw [hkeep run']
    exact Cut.sublistForall₂_of_sublist ih (List.sublist_append_right _ _)

omit [SocketVTable κ] [Profile P ι] in
/-- Each frame that is handed on is a part of another one that was committed. -/
theorem Inv.parts (h : l.Inv cfg) :
    List.SublistForall₂ (· <:+: ·) (nonempty l.rx.frames) l.tx.committed := by
  -- the ends of runs of the wire
  have hends : List.SublistForall₂ (· <:+ ·) l.rx.frames
      (Cut.of cfg.maxUsbFrameSize l.tx.wire).ended := by
    refine Cut.sublistForall₂_of_sublist ?_ h.runs_first.sublist
    exact Cut.sublistForall₂_comp (S := (· <:+ ·)) (fun _ _ _ hab hbc => hab.trans hbc) h.rx.frames
      (Cut.seen_tailOf cfg.maxUsbFrameSize l.rx.trace).ended
  -- which are the beginnings of frames
  have hruns : List.SublistForall₂ (· <+: ·)
      (nonempty (Cut.of cfg.maxUsbFrameSize l.tx.wire).ended) l.tx.committed := by
    have hpartly := h.tx.partly cfg.pos
    rw [Partly, nonempty_append] at hpartly
    exact Cut.sublistForall₂_comp (fun _ _ _ hab hbc => hab ▸ hbc)
      (List.sublistForall₂_iff.mpr
        ⟨_, List.forall₂_same.mpr fun _ _ => rfl, List.sublist_append_left _ _⟩) hpartly
  exact Cut.sublistForall₂_comp (fun _ _ _ hab hbc => hab.isInfix.trans hbc.isInfix)
    (sublistForall₂_nonempty hends) hruns

theorem reduceOption_map_some {α : Type} {events : List (Option α)} (h : none ∉ events) :
    events.reduceOption.map some = events := by
  induction events with
  | nil => rfl
  | cons event events ih =>
    obtain ⟨hfirst, hrest⟩ := not_or.mp (mt List.mem_cons.mpr h)
    cases event with
    | none => exact absurd rfl hfirst
    | some a => rw [List.reduceOption_cons_of_some, List.map_cons, ih hrest]

omit [SocketVTable κ] [Profile P ι] in
/-- Without interruptions, what is handed on are the runs that were read and fit the buffer. -/
theorem Inv.frames (h : l.Inv cfg) (hbuf : 0 < cfg.buflen)
    (hdvd : cfg.maxUsbFrameSize ∣ cfg.buflen) (hgap : none ∉ l.rx.trace) :
    nonempty l.rx.frames =
      (nonempty (Cut.of cfg.maxUsbFrameSize (l.tx.wire.take l.taken)).ended).filter
        (·.length ≤ cfg.buflen) := by
  rw [← h.seen, ← Cut.seen_map_some, reduceOption_map_some hgap, (h.exact hbuf hdvd).frames,
    nonempty, nonempty, List.filter_filter, List.filter_filter]
  simp only [Bool.and_comm]
  rfl

/-- Nothing has failed, and the device was not interrupted. -/
def Undisturbed (l : UsbLink κ P ι) : Prop := l.tx.phase ≠ .failed ∧ none ∉ l.rx.trace

/-- Everything that was committed has been sent, and read. -/
def Drained (l : UsbLink κ P ι) : Prop :=
  l.tx.queue = [] ∧ l.taken = l.tx.wire.length

/-- Whatever is committed, whichever transfers fail, and wherever the device is interrupted: a
frame that is handed on is a part of one frame that was committed, in order. With a buffer of full
packets, and on a link that is not disturbed, they are the first frames that fit, and all of them
in the end. -/
theorem run_delivered (cfg : UsbRxConfig) {mps : Option Nat}
    (hmps : mps = none ∨ mps = some cfg.maxUsbFrameSize) (link : Watched κ P ι)
    (acts : List UsbLinkAct) :
    let l := Runs.runAll (step cfg) (start mps link) acts
    let fitting := (nonempty l.tx.committed).filter (·.length ≤ cfg.buflen)
    List.SublistForall₂ (· <:+: ·) (nonempty l.rx.frames) l.tx.committed ∧
      (0 < cfg.buflen → cfg.maxUsbFrameSize ∣ cfg.buflen → l.Undisturbed →
        nonempty l.rx.frames <+: fitting ∧ (l.Drained → nonempty l.rx.frames = fitting)) := by
  intro l fitting
  have hl : l.Inv cfg :=
    Runs.runAll_inv (I := Inv cfg) (fun _ act h => h.step act) (inv_start hmps link) acts
  refine ⟨hl.parts, fun hbuf hdvd ⟨hok, hgap⟩ => ?_⟩
  rw [hl.frames hbuf hdvd hgap]
  constructor
  · have hread : (Cut.of cfg.maxUsbFrameSize (l.tx.wire.take l.taken)).ended <+:
        (Cut.of cfg.maxUsbFrameSize l.tx.wire).ended :=
      Cut.ended_prefix_of _ (List.take_prefix _ _)
    exact ((hread.filter _).trans (hl.tx.whole cfg.pos hok)).filter _
  · rintro ⟨hqueue, htaken⟩
    show _ = (nonempty l.tx.committed).filter _
    rw [htaken, List.take_length, hl.tx.drained hok hqueue]

/-- A frame in two packets, of which the second is lost for the device, and another one. -/
def demoLinkScript : List UsbLinkAct :=
  [.host (.commit [1, 2, 3, 4, 5]), .host (.commit [6]), .host .serve, .host (.complete true 0),
    .device .enabled, .read, .host .serve, .host (.complete true 0), .device (.suspend true),
    .read, .read]

theorem run_delivered_demo :
    let l := Runs.runAll (step UsbRx.demoUsbConfig) (start (some 4) UsbRx.demoDevice) demoLinkScript
    l.rx.frames = [[5], [6]] ∧
      List.SublistForall₂ (· <:+: ·) (nonempty l.rx.frames) l.tx.committed :=
  ⟨rfl, (run_delivered UsbRx.demoUsbConfig (.inr rfl) UsbRx.demoDevice
    demoLinkScript).1⟩

end UsbLink

end Ergot.Usb
