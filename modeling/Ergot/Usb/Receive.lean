import Mathlib.Algebra.Ring.Nat
import Ergot.Lib.Packets

/-!
# USB reception

`RxWorker::one_frame` (transports/eusb_0_5.rs), which puts a frame together from the packets of a
bulk endpoint.

- `read` is a read of the endpoint: into a window that is too small it consumes the packet and
  fails. `fill`, `peek` and `drain` are the loops of `oneFrame` and what is between them.
- `Reassembles` is what calling it again and again is for: each frame that fits comes out, each
  other one gives one error, and the endpoint is then at the start of the next.
- `reassembles_iff`: a window that is not a multiple of the packet size ends with a read that a
  full packet does not fit. That read gives up without draining, so the rest of the frame
  is taken for another one.
-/

namespace Ergot.Usb

open Packets

/-! ## The endpoint -/

/-- What there is at an endpoint to be read. -/
inductive Arrival
  | packet (bytes : List UInt8)
  | disabled

inductive EndpointError
  | bufferOverflow | disabled

/-- `EndpointOut::read` into a window. -/
def Arrival.read (window : Nat) : Arrival → Except EndpointError (List UInt8)
  | .packet bytes => if bytes.length ≤ window then .ok bytes else .error .bufferOverflow
  | .disabled => .error .disabled

/-- Errors observable by the receiver. -/
inductive ReceiverError
  | receivedMessageTooLarge | connectionClosed
deriving DecidableEq

/-- How a read that fails ends the frame. -/
def EndpointError.toReceiverError : EndpointError → ReceiverError
  | .bufferOverflow => .receivedMessageTooLarge
  | .disabled => .connectionClosed

/-! ## `one_frame` -/

/-- What a call returns and what is left at the endpoint. It may be waiting instead. -/
abbrev Outcome := Option (Except ReceiverError (List UInt8) × List Arrival)

section OneFrame

variable (maxFrameLen buflen : Nat)

/-- The rest of a frame that is too large. -/
def drain : List Arrival → Outcome
  | [] => none
  | a :: arrivals =>
    match a.read buflen with
    | .error e => some (.error e.toReceiverError, arrivals)
    | .ok bytes =>
      if bytes.length = maxFrameLen then drain arrivals
      else some (.error .receivedMessageTooLarge, arrivals)

/-- The buffer is full: the next packet tells whether that was all. -/
def peek (frame : List UInt8) : List Arrival → Outcome
  | [] => none
  | a :: arrivals =>
    match a.read buflen with
    | .error e => some (.error e.toReceiverError, arrivals)
    | .ok bytes =>
      if bytes.length = 0 then some (.ok frame, arrivals)
      else if bytes.length = maxFrameLen then drain maxFrameLen buflen arrivals
      else some (.error .receivedMessageTooLarge, arrivals)

/-- The loop that fills the buffer; `frame` is what is in it. -/
def fill (frame : List UInt8) : List Arrival → Outcome
  | [] => none
  | a :: arrivals =>
    if frame.length = buflen then peek maxFrameLen buflen frame (a :: arrivals)
    else
      match a.read (buflen - frame.length) with
      | .error e => some (.error e.toReceiverError, arrivals)
      | .ok bytes =>
        if bytes.length ≠ maxFrameLen then some (.ok (frame ++ bytes), arrivals)
        else fill (frame ++ bytes) arrivals

/-- `RxWorker::one_frame`. -/
def oneFrame : List Arrival → Outcome := fill maxFrameLen buflen []

/-- Repeated calls, until one waits. -/
def calls : Nat → List Arrival → List (Except ReceiverError (List UInt8)) × List Arrival
  | 0, arrivals => ([], arrivals)
  | n + 1, arrivals =>
    match oneFrame maxFrameLen buflen arrivals with
    | none => ([], arrivals)
    | some (res, rest) => (res :: (calls n rest).1, (calls n rest).2)

end OneFrame

/-! ## The law -/

/-- The packets of frames that were written one after the other. -/
def arrivals (maxFrameLen : Nat) (frames : List (List UInt8)) : List Arrival :=
  (frames.flatMap (packetize maxFrameLen)).map .packet

/-- What is to be returned for a frame. -/
def expected (buflen : Nat) (frame : List UInt8) : Except ReceiverError (List UInt8) :=
  if frame.length ≤ buflen then .ok frame else .error .receivedMessageTooLarge

/-- After any number of calls, that many frames have been returned or refused, and the endpoint is
at the start of the next. -/
def Reassembles (maxFrameLen buflen : Nat) (frames : List (List UInt8)) : Prop :=
  ∀ n ≤ frames.length, calls maxFrameLen buflen n (arrivals maxFrameLen frames) =
    ((frames.take n).map (expected buflen), arrivals maxFrameLen (frames.drop n))

/-- Whether a frame that is too large is noticed with its last packet, or where it can be
drained. -/
def Clean (maxFrameLen buflen : Nat) (frame : List UInt8) : Prop :=
  (0 < buflen ∧ maxFrameLen ∣ buflen) ∨ frame.length / maxFrameLen ≤ buflen / maxFrameLen

/-! ## One frame -/

section Steps

variable {m buflen : Nat}

/-- The packets of the next frame, and of those after it. -/
theorem arrivals_cons (m : Nat) (f : List UInt8) (frames : List (List UInt8)) :
    arrivals m (f :: frames) = (packetize m f).map .packet ++ arrivals m frames := by
  rw [arrivals, List.flatMap_cons, List.map_append]
  rfl

/-- A full packet fits, so the rest of a frame is drained. -/
theorem drain_packetize (hm : 0 < m) (hle : m ≤ buflen) (f : List UInt8) (rest : List Arrival) :
    drain m buflen ((packetize m f).map .packet ++ rest) =
      some (.error .receivedMessageTooLarge, rest) := by
  induction f using frame_induction hm with
  | short f hlt =>
    have hfits : f.length ≤ buflen := Nat.le_trans (Nat.le_of_lt hlt) hle
    rw [packetize_of_lt hlt]
    simp [drain, Arrival.read, hfits, Nat.ne_of_lt hlt]
  | full f hfull ih =>
    have hlen : (f.take m).length = m := List.length_take_of_le hfull
    rw [packetize_of_le hm hfull, List.map_cons, List.cons_append]
    simp only [drain, Arrival.read, hlen, hle, if_true]
    exact ih

/-- A frame that fits what is left of the buffer is returned. -/
theorem fill_of_fits (hm : 0 < m) {got f : List UInt8} (rest : List Arrival)
    (h : got.length + f.length ≤ buflen) :
    fill m buflen got ((packetize m f).map .packet ++ rest) = some (.ok (got ++ f), rest) := by
  induction f using frame_induction hm generalizing got with
  | short f hlt =>
    rw [packetize_of_lt hlt, List.map_cons, List.map_nil, List.cons_append, List.nil_append]
    by_cases hfull : got.length = buflen
    · -- the buffer is full, and the packet is empty
      obtain rfl : f = [] := List.eq_nil_of_length_eq_zero (by omega)
      simp [fill, hfull, peek, Arrival.read]
    · have hfits : f.length ≤ buflen - got.length := by omega
      simp [fill, hfull, Arrival.read, hfits, Nat.ne_of_lt hlt]
  | full f hfull ih =>
    have hlen : (f.take m).length = m := List.length_take_of_le hfull
    have hne : ¬ got.length = buflen := by omega
    have hfits : m ≤ buflen - got.length := by omega
    rw [packetize_of_le hm hfull, List.map_cons, List.cons_append]
    simp only [fill, hne, if_false, Arrival.read, hlen, hfits, if_true, ne_eq, not_true_eq_false]
    have hroom : (got ++ f.take m).length + (f.drop m).length ≤ buflen := by
      simp only [List.length_append, hlen, List.length_drop]
      omega
    rw [ih hroom, List.append_assoc, List.take_append_drop]

/-- A frame that does not fit what is left of the buffer gives an error. The endpoint is left at
the start of the next frame unless a full packet has overrun the window. -/
theorem fill_of_large (hm : 0 < m) {got f : List UInt8} (rest : List Arrival)
    (hgot : got.length ≤ buflen) (hbig : buflen < got.length + f.length) :
    ∃ tail, fill m buflen got ((packetize m f).map .packet ++ rest) =
        some (.error .receivedMessageTooLarge, tail ++ rest) ∧
      (tail = [] ↔ (m ≤ buflen ∧ m ∣ buflen - got.length) ∨
        f.length / m ≤ (buflen - got.length) / m) := by
  induction f using frame_induction hm generalizing got with
  | short f hlt =>
    have hzero : f.length / m = 0 := Nat.div_eq_of_lt hlt
    refine ⟨[], ?_, iff_of_true rfl (.inr (hzero ▸ Nat.zero_le _))⟩
    rw [packetize_of_lt hlt, List.map_cons, List.map_nil, List.cons_append, List.nil_append]
    by_cases hfull : got.length = buflen
    · have hne : ¬ f.length = 0 := by omega
      by_cases hfits : f.length ≤ buflen
      · simp [fill, hfull, peek, Arrival.read, hfits, hne, Nat.ne_of_lt hlt]
      · simp [fill, hfull, peek, Arrival.read, hfits, EndpointError.toReceiverError]
    · have hover : ¬ f.length ≤ buflen - got.length := by omega
      simp [fill, hfull, Arrival.read, hover, EndpointError.toReceiverError]
  | full f hfull ih =>
    have hlen : (f.take m).length = m := List.length_take_of_le hfull
    have hpos : 0 < f.length / m := Nat.div_pos hfull hm
    have htail : ((packetize m (f.drop m)).map Arrival.packet) ≠ [] := by
      simpa using packetize_ne_nil m (f.drop m)
    rw [packetize_of_le hm hfull, List.map_cons, List.cons_append]
    by_cases hend : got.length = buflen
    · simp only [fill, hend, if_true, peek, Arrival.read, hlen, Nat.sub_self, Nat.zero_div]
      by_cases hle : m ≤ buflen
      · refine ⟨[], ?_, iff_of_true rfl (.inl ⟨hle, Nat.dvd_zero m⟩)⟩
        simp only [hle, if_true, hlen, Nat.ne_of_gt hm, if_false]
        exact drain_packetize hm hle (f.drop m) rest
      · refine ⟨_, by simp only [hle, if_false, EndpointError.toReceiverError], iff_of_false htail ?_⟩
        rintro (⟨h, -⟩ | h)
        · exact hle h
        · omega
    · by_cases hle : m ≤ buflen - got.length
      · -- the packet is taken, and the window is smaller by it
        have hnext : (got ++ f.take m).length = got.length + m := by
          rw [List.length_append, hlen]
        have hdrop : (f.drop m).length = f.length - m := List.length_drop
        have hgot' : (got ++ f.take m).length ≤ buflen := by omega
        obtain ⟨tail, hfill, hclean⟩ := ih hgot' (by omega)
        refine ⟨tail, ?_, hclean.trans ?_⟩
        · simp only [fill, hend, if_false, Arrival.read, hlen, hle, if_true, ne_eq,
            not_true_eq_false]
          exact hfill
        · have hw : buflen - (got ++ f.take m).length = buflen - got.length - m := by omega
          rw [hw, hdrop, Nat.div_eq_sub_div hm hfull, Nat.div_eq_sub_div hm hle,
            Nat.add_le_add_iff_right, Nat.dvd_sub_iff_left hle (Nat.dvd_refl m)]
      · have hw : (buflen - got.length) / m = 0 := Nat.div_eq_of_lt (by omega)
        refine ⟨_, by simp only [fill, hend, if_false, Arrival.read, hlen, hle,
          EndpointError.toReceiverError], iff_of_false htail ?_⟩
        rintro (⟨-, h⟩ | h)
        · exact absurd (Nat.le_of_dvd (by omega) h) hle
        · omega

/-- One call, at the start of a frame. -/
theorem oneFrame_arrivals (buflen : Nat) (hm : 0 < m) (f : List UInt8) (frames : List (List UInt8)) :
    ∃ tail, oneFrame m buflen (arrivals m (f :: frames)) =
        some (expected buflen f, tail ++ arrivals m frames) ∧
      (tail = [] ↔ Clean m buflen f) := by
  rw [arrivals_cons]
  by_cases hfits : f.length ≤ buflen
  · refine ⟨[], ?_, iff_of_true rfl (.inr (Nat.div_le_div_right hfits))⟩
    rw [expected, if_pos hfits]
    exact fill_of_fits hm _ (by simpa using hfits)
  · have hbig : buflen < ([] : List UInt8).length + f.length := by simpa using hfits
    obtain ⟨tail, hfill, hclean⟩ := fill_of_large hm (arrivals m frames) (Nat.zero_le _) hbig
    refine ⟨tail, ?_, hclean.trans (or_congr (and_congr_left fun hdvd => ?_) Iff.rfl)⟩
    · rw [expected, if_neg hfits]
      exact hfill
    · exact ⟨Nat.lt_of_lt_of_le hm, fun hpos => Nat.le_of_dvd hpos hdvd⟩

end Steps

/-- When frames are put together again: the buffer is made of full packets, or no frame has more
full packets than the buffer has room for. -/
theorem reassembles_iff (k buflen : Nat) (frames : List (List UInt8)) :
    Reassembles (2 ^ k) buflen frames ↔ ∀ f ∈ frames, Clean (2 ^ k) buflen f := by
  have hm : 0 < 2 ^ k := Nat.two_pow_pos k
  induction frames with
  | nil =>
    refine iff_of_true (fun n hn => ?_) nofun
    obtain rfl : n = 0 := Nat.le_zero.mp hn
    rfl
  | cons f frames ih =>
    obtain ⟨tail, hone, hclean⟩ := oneFrame_arrivals buflen hm f frames
    rw [List.forall_mem_cons]
    refine Iff.trans ?_ (and_congr hclean ih)
    have hcalls : ∀ n, calls (2 ^ k) buflen (n + 1) (arrivals (2 ^ k) (f :: frames)) =
        (expected buflen f :: (calls (2 ^ k) buflen n (tail ++ arrivals (2 ^ k) frames)).1,
          (calls (2 ^ k) buflen n (tail ++ arrivals (2 ^ k) frames)).2) := by
      intro n
      rw [calls, hone]
    constructor
    · intro h
      have htail : tail = [] := by
        have hfirst := h 1 (Nat.le_add_left 1 _)
        rw [hcalls] at hfirst
        simpa [calls] using congrArg Prod.snd hfirst
      refine ⟨htail, fun n hn => ?_⟩
      have hmore := h (n + 1) (Nat.succ_le_succ hn)
      rw [hcalls, htail, List.nil_append] at hmore
      simpa [Prod.ext_iff] using hmore
    · rintro ⟨rfl, hrest⟩ n hn
      cases n with
      | zero => rfl
      | succ n =>
        rw [hcalls, List.nil_append, hrest n (Nat.le_of_succ_le_succ hn)]
        rfl

/-- A frame of nine bytes in packets of four, with a buffer for six: its last byte is returned as a
frame. -/
theorem tail_returned :
    calls 4 6 2 (arrivals 4 [[1, 2, 3, 4, 5, 6, 7, 8, 9]]) =
        ([.error .receivedMessageTooLarge, .ok [9]], []) ∧
      ¬ Reassembles 4 6 [[1, 2, 3, 4, 5, 6, 7, 8, 9]] := by
  refine ⟨rfl, fun h => ?_⟩
  have hleft := congrArg (fun res => res.2.length) (h 1 (Nat.le_refl 1))
  exact absurd hleft (by decide)

end Ergot.Usb
