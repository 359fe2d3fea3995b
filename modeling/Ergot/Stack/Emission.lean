import Ergot.Lib.Offspring
import Ergot.Router.Forward
import Ergot.Stack.Faces

/-!
# What a send adds to the outgoing queues

The frames that wait at the ports of a router, as one multiset, and how it grows: a send puts
copies of its frame into the queues, at most one for each interface, and nothing else. A copy
has one hop less to go (`Copy`).
-/

namespace Ergot

open Offspring

/-- A frame in a queue that has the hop count and the kind of a header. -/
def Carries (hdr : Header) (frame : Header × Payload) : Prop :=
  frame.1.ttl = hdr.ttl ∧ frame.1.kind = hdr.kind

/-- A frame in a queue that a frame with this header was sent as. -/
def Copy (hdr : Header) (frame : Header × Payload) : Prop :=
  frame.1.ttl.toNat + 1 = hdr.ttl.toNat ∧ frame.1.kind = hdr.kind

/-- What carries the header that is left of one is a copy of it. -/
theorem Carries.copy {hdr : Header} (httl : hdr.ttl ≠ 0) {frame : Header × Payload}
    (h : Carries { hdr with ttl := hdr.ttl - 1 } frame) : Copy hdr frame := by
  obtain ⟨hhops, hkind⟩ := h
  refine ⟨?_, hkind⟩
  have hle : 1 ≤ hdr.ttl := by
    rw [UInt8.le_iff_toNat_le]
    exact Nat.one_le_iff_ne_zero.mpr fun h => httl (UInt8.toNat_inj.mp h)
  rw [hhops]
  show (hdr.ttl - 1).toNat + 1 = hdr.ttl.toNat
  rw [UInt8.toNat_sub_of_le _ _ hle]
  exact Nat.sub_add_cancel (UInt8.le_iff_toNat_le.mp hle)

/-! ## Ports -/

namespace EdgePort

/-- The frames that wait at a port. -/
def frames (p : EdgePort FrameQueue) : Multiset (Header × Payload) := p.sink.frames

theorem commonSend_carries {σ : Type} {p : EdgePort σ} {hdr hdr' : Header}
    (h : p.commonSend hdr = .ok hdr') : hdr'.ttl = hdr.ttl ∧ hdr'.kind = hdr.kind := by
  unfold commonSend at h
  split at h
  · split at h
    · cases h
    · dsimp only at h
      split at h
      · cases h
      · cases h
        exact ⟨rfl, rfl⟩
  · cases h

theorem offer_grows (q : FrameQueue) (hdr : Header) (payload : Payload) (isErr : Bool) :
    Grows (Carries hdr) 1 q.frames (q.offer hdr payload isErr).2.frames := by
  unfold FrameQueue.offer
  split
  · refine ⟨{(hdr, payload)}, (Multiset.coe_add _ _).symm, Nat.le_refl 1, fun f hf => ?_⟩
    rw [Multiset.mem_singleton.mp hf]
    exact ⟨rfl, rfl⟩
  · exact .refl _ _ _

/-- A frame that a port passes on goes into its queue, if there is room. -/
private theorem passOn_grows {p : EdgePort FrameQueue} {hdr hdr' : Header}
    (h : p.commonSend hdr = .ok hdr') (payload : Payload) (isErr : Bool) :
    Grows (Carries hdr) 1 p.frames (p.report (p.sink.offer hdr' payload isErr)).2.frames := by
  obtain ⟨httl, hkind⟩ := commonSend_carries h
  refine (offer_grows p.sink hdr' payload isErr).mono (Nat.le_refl 1) fun f hf => ?_
  exact ⟨hf.1.trans httl, hf.2.trans hkind⟩

theorem send_grows (p : EdgePort FrameQueue) (hdr : Header) (msg : Msg) :
    Grows (Carries hdr) 1 p.frames (p.send hdr msg).2.frames := by
  unfold send
  cases h : p.commonSend hdr with
  | error e => exact .refl _ _ _
  | ok hdr' => exact passOn_grows h _ _

theorem sendErr_grows (p : EdgePort FrameQueue) (hdr : Header) (e : ProtocolError) :
    Grows (Carries hdr) 1 p.frames (p.sendErr hdr e).2.frames := by
  unfold sendErr
  cases h : p.commonSend hdr with
  | error e => exact .refl _ _ _
  | ok hdr' => exact passOn_grows h _ _

theorem sendRaw_grows (p : EdgePort FrameQueue) (hdr : Header) (data : List UInt8) :
    Grows (Carries hdr) 1 p.frames (p.sendRaw hdr data).2.frames := by
  unfold sendRaw
  split
  · exact .refl _ _ _
  · cases h : p.commonSend hdr with
    | error e => exact .refl _ _ _
    | ok hdr' => exact passOn_grows h _ _

theorem frames_setState (p : EdgePort FrameQueue) (state : InterfaceState) :
    (p.setState state).2.frames = p.frames := by
  rw [frames, setState_sink, frames]

end EdgePort

/-! ## Routers -/

namespace Router

variable {N S C : Nat} (r : Router FrameQueue N S C) (hdr : Header)

/-- The frames that wait at the interfaces of a router. -/
def frames (r : Router FrameQueue N S C) : Multiset (Header × Payload) :=
  (r.interfaces.map fun i => i.port.frames).sum

theorem length_interfaces {σ : Type} (r : Router σ N S C) : r.interfaces.length ≤ 256 := by
  have hslots := r.slots.bound
  have hidents := r.identSpace
  have hup : r.upstream.toList.length ≤ 1 := by cases r.upstream <;> simp
  simp only [interfaces, List.length_append, List.length_map]
  omega

theorem frames_gcSeed (now : Nat) : (r.gcSeed now).frames = r.frames := rfl

/-- A router whose interfaces are those of another one, each after a send. -/
theorem grows_of_map {r r' : Router FrameQueue N S C} {hdr : Header}
    {g : Iface FrameQueue → Iface FrameQueue} (hmap : r'.interfaces = r.interfaces.map g)
    (hg : ∀ i, Grows (Carries hdr) 1 i.port.frames (g i).port.frames) :
    Grows (Carries hdr) 256 r.frames r'.frames := by
  have hsum : Grows (Carries hdr) r.interfaces.length r.frames r'.frames := by
    rw [frames, frames, hmap]
    exact Grows.sum_map fun i _ => hg i
  exact hsum.mono r.length_interfaces fun _ h => h

/-- A send through the port that was found. -/
theorem findThen_grows (source : Option UInt8) (clock : Clock)
    {use : EdgePort FrameQueue → Except InterfaceSendError Unit × EdgePort FrameQueue}
    (huse : ∀ p, Grows (Carries hdr) 1 p.frames (use p).2.frames) :
    Grows (Carries hdr) 1 r.frames (r.findThen hdr source clock use).2.frames := by
  by_cases hkey : hdr.dst.portId = 0 ∧ hdr.anyAll.isNone
  · simp only [findThen, find, if_pos hkey]
    exact .refl _ _ _
  · rcases r.findThen_interfaces hdr source clock use hkey with
      ⟨before, i, after, -, hsplit, -, hafter, -⟩ | ⟨-, -, hsame⟩
    · -- one interface is sent to, and the others stay as they are
      have hrest : ∀ s : Multiset (Header × Payload), Grows (Carries hdr) 0 s s :=
        fun s => .refl _ _ s
      rw [frames, frames, hsplit, hafter]
      simp only [List.map_append, List.map_cons, List.sum_append, List.sum_cons,
        Iface.withPort_port]
      exact ((hrest _).add ((huse i.port).add (hrest _))).mono (Nat.le_refl 1) fun _ h => h
    · rw [hsame, frames_gcSeed]
      exact .refl _ _ _

/-- A send that starts with `decrement_ttl`. -/
private theorem copies_of_carries {hdr : Header} (httl : hdr.ttl ≠ 0) {n m : ℕ} (hn : n ≤ m)
    {s t : Multiset (Header × Payload)}
    (h : Grows (Carries { hdr with ttl := hdr.ttl - 1 }) n s t) : Grows (Copy hdr) m s t :=
  h.mono hn fun _ hf => hf.copy httl

theorem sendErr_grows (e : ProtocolError) (source : Option UInt8) (clock : Clock) :
    Grows (Copy hdr) 1 r.frames (r.sendErr hdr e source clock).2.frames := by
  unfold sendErr
  cases hdec : hdr.decrementTtl with
  | error e => exact .refl _ _ _
  | ok hdr' =>
    obtain ⟨httl, rfl⟩ := Header.decrementTtl_ok hdec
    exact copies_of_carries httl (Nat.le_refl 1)
      (r.findThen_grows _ source clock fun p => p.sendErr_grows _ e)

theorem send_grows (msg : Msg) (clock : Clock) :
    Grows (Copy hdr) 256 r.frames (r.send hdr msg clock).2.frames := by
  cases hdec : hdr.decrementTtl with
  | error e =>
    simp only [send, hdec]
    exact .refl _ _ _
  | ok hdr' =>
    obtain ⟨httl, rfl⟩ := Header.decrementTtl_ok hdec
    by_cases hall : hdr.dst.portId = 255
    · cases hkey : hdr.anyAll.isSome with
      | false =>
        have hnone : hdr.anyAll.isNone = true := by simpa using hkey
        simp only [send, hdec, hall, hnone, if_true]
        exact .refl _ _ _
      | true =>
        refine copies_of_carries httl (Nat.le_refl 256)
          (grows_of_map (r.send_interfaces clock hall hkey httl msg) fun i => ?_)
        cases i with
        | slot s =>
          simp only [typedIface, typedLegSlot]
          split
          · exact .refl _ _ _
          · exact s.port.send_grows (legHdr _ s.netId) msg
        | upstream up => exact up.send_grows _ msg
    · simp only [send, hdec, hall, if_false]
      exact copies_of_carries httl (by decide)
        (r.findThen_grows _ none clock fun p => p.send_grows _ msg)

theorem sendRaw_grows (data : List UInt8) (source : UInt8) (clock : Clock) :
    Grows (Copy hdr) 256 r.frames (r.sendRaw hdr data source clock).2.frames := by
  cases hdec : hdr.decrementTtl with
  | error e =>
    simp only [sendRaw, hdec]
    exact .refl _ _ _
  | ok hdr' =>
    obtain ⟨httl, rfl⟩ := Header.decrementTtl_ok hdec
    by_cases hall : hdr.dst.portId = 255
    · cases hkey : hdr.anyAll.isSome with
      | false =>
        have hnone : hdr.anyAll.isNone = true := by simpa using hkey
        simp only [sendRaw, hdec, hall, hnone, if_true]
        exact .refl _ _ _
      | true =>
        refine copies_of_carries httl (Nat.le_refl 256)
          (grows_of_map (r.sendRaw_interfaces source clock hall hkey httl data) fun i => ?_)
        cases i with
        | slot s =>
          simp only [rawIface, rawLegSlot]
          split
          · exact .refl _ _ _
          · exact s.port.sendRaw_grows (legHdr _ s.netId) data
        | upstream up =>
          simp only [rawIface]
          split
          · exact .refl _ _ _
          · -- the upstream is sent the last leg's header, or the frame's own
            rcases r.lastLegHdr_cases { hdr with ttl := hdr.ttl - 1 } source with h | ⟨n, h⟩
            · rw [h]
              exact up.sendRaw_grows _ data
            · rw [h]
              exact up.sendRaw_grows (legHdr _ n) data
    · simp only [sendRaw, hdec, hall, if_false]
      exact copies_of_carries httl (by decide)
        (r.findThen_grows _ (some source) clock fun p => p.sendRaw_grows _ data)

/-- A write to the state of an interface leaves the queues alone. -/
theorem frames_setInterfaceState (ident : UInt8) (state : InterfaceState) :
    (r.setInterfaceState ident state).2.frames = r.frames := by
  unfold setInterfaceState
  split
  · cases hup : r.upstream with
    | none => rfl
    | some up =>
      simp only [frames, interfaces, hup, Option.toList_some, List.map_append, List.map_cons,
        List.map_nil, Iface.port, EdgePort.frames_setState]
  · split
    · rfl
    · have hslots := HeaplessVec.map_modifyFirstList (l := r.slots.toList)
        (fun s : Slot FrameQueue => s.port.frames) (fun s => s.ident = ident)
        (fun s => { s with port := (s.port.setState state).2 }) fun s _ => s.port.frames_setState state
      simp only [frames, interfaces, List.map_append, List.map_map, List.sum_append]
      exact congrArg (· + _) (congrArg List.sum hslots)

end Router

end Ergot
