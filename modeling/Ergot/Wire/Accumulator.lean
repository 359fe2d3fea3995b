import Mathlib.Data.List.Basic
import Ergot.Lib.Cobs

/-!
# The COBS accumulator

`CobsAccumulator` (cobs-acc) and the loop in which an RX worker feeds it. A chunk of bytes
is cut at its first zero; a segment that lies within the chunk is decoded there, and one
that began in an earlier chunk is completed in the buffer. A segment that does not fit the
buffer is skipped, up to the zero that ends it.

- `segments` is the reference: the stream split at its zeros.
- `Kept n` relates the segments of a stream to those that are decoded: only segments that
  are longer than the buffer, with their zero, may be missing.
- `Holds` is the invariant: what the accumulator knows of the segment that has begun.
- `feedAll_reference` is the result, for every way of cutting the stream into chunks.

`decode_in_place` is the `cobs` crate's; it is a parameter that is given a segment with
the zero at its end.
-/

namespace Ergot

/-- The accumulator. The bytes before `idx` are those of a segment that has begun. -/
structure CobsAccumulator where
  buf : List UInt8
  idx : Nat
  inOverflow : Bool

/-- The result of feeding the accumulator. -/
inductive FeedResult
  | consumed
  | overFull (remaining : List UInt8)
  | decodeError (remaining : List UInt8)
  | success (data remaining : List UInt8)
  | successInput (data remaining : List UInt8)

namespace CobsAccumulator

/-- `CobsAccumulator::new`. -/
def new (buf : List UInt8) : CobsAccumulator := ⟨buf, 0, false⟩

/-- `CobsAccumulator::reset`, after a liveness timeout. -/
def reset (acc : CobsAccumulator) : CobsAccumulator := { acc with idx := 0, inOverflow := false }

/-- `push`: whether the data fits behind what is there. If not, that is given up. -/
def push (acc : CobsAccumulator) (data : List UInt8) : Bool × CobsAccumulator :=
  let newEnd := acc.idx + data.length
  if newEnd ≤ acc.buf.length then
    (true, { acc with buf := acc.buf.take acc.idx ++ data ++ acc.buf.drop newEnd, idx := newEnd })
  else (false, { acc with idx := 0 })

/-- `push_reset`: the used part of the buffer, if the data fits; the next call starts
with an empty one in any case. -/
def pushReset (acc : CobsAccumulator) (data : List UInt8) :
    Option (List UInt8) × CobsAccumulator :=
  let newEnd := acc.idx + data.length
  if newEnd ≤ acc.buf.length then
    let used := acc.buf.take acc.idx ++ data
    (some used, { acc with buf := used ++ acc.buf.drop newEnd, idx := 0 })
  else (none, { acc with idx := 0 })

/-- `CobsAccumulator::feed_raw`. What `decode_in_place` writes to the buffer is never read
again, so the buffer is left as it was. -/
def feedRaw (decodeInPlace : List UInt8 → Option (List UInt8)) (acc : CobsAccumulator)
    (input : List UInt8) : FeedResult × CobsAccumulator :=
  if input.isEmpty then (.consumed, acc)
  else
    match input.findIdx? (· = 0) with
    | none =>
      if acc.inOverflow then (.overFull [], acc)
      else
        match acc.push input with
        | (true, acc) => (.consumed, acc)
        | (false, acc) => (.overFull [], { acc with inOverflow := true })
    | some n =>
      let take := input.take (n + 1)
      let release := input.drop (n + 1)
      if acc.inOverflow then (.overFull release, { acc with inOverflow := false })
      else if acc.idx = 0 then
        match decodeInPlace take with
        | some data => (.successInput data release, acc)
        | none => (.decodeError release, acc)
      else
        match acc.pushReset take with
        | (none, acc) => (.overFull release, acc)
        | (some used, acc) =>
          match decodeInPlace used with
          | some data => (.success data release, acc)
          | none => (.decodeError release, acc)

end CobsAccumulator

/-- The frame a result carries. -/
def FeedResult.frame : FeedResult → List (List UInt8)
  | .success data _ | .successInput data _ => [data]
  | _ => []

/-- What is fed next; nothing when the input was consumed. -/
def FeedResult.remaining : FeedResult → List UInt8
  | .consumed => []
  | .overFull remaining | .decodeError remaining => remaining
  | .success _ remaining | .successInput _ remaining => remaining

namespace CobsAccumulator

variable {decodeInPlace : List UInt8 → Option (List UInt8)}

/-- Feeding makes progress. -/
theorem remaining_lt {acc : CobsAccumulator} {input : List UInt8} (h : input ≠ []) :
    (acc.feedRaw decodeInPlace input).1.remaining.length < input.length := by
  have hpos := List.length_pos_iff.mpr h
  have hdrop : ∀ n, (input.drop (n + 1)).length < input.length := by
    intro n
    rw [List.length_drop]
    omega
  unfold feedRaw
  split
  · exact hpos
  · split
    · split
      · exact hpos
      · split <;> exact hpos
    · dsimp only
      split
      · exact hdrop _
      · split
        · split <;> exact hdrop _
        · split
          · exact hdrop _
          · split <;> exact hdrop _

/-- The loop of `run_inner` over one chunk: the frames that are processed, and the
accumulator afterwards. It ends, since every call shortens what is left. -/
def feedChunk (decodeInPlace : List UInt8 → Option (List UInt8)) (acc : CobsAccumulator)
    (remain : List UInt8) : List (List UInt8) × CobsAccumulator :=
  if _h : remain = [] then ([], acc)
  else
    let res := acc.feedRaw decodeInPlace remain
    let rest := res.2.feedChunk decodeInPlace res.1.remaining
    (res.1.frame ++ rest.1, rest.2)
termination_by remain.length
decreasing_by exact remaining_lt _h

theorem feedChunk_nil (acc : CobsAccumulator) : acc.feedChunk decodeInPlace [] = ([], acc) := by
  rw [feedChunk, dif_pos rfl]

theorem feedChunk_of_ne_nil (acc : CobsAccumulator) {remain : List UInt8} (h : remain ≠ []) :
    acc.feedChunk decodeInPlace remain =
      ((acc.feedRaw decodeInPlace remain).1.frame ++
        ((acc.feedRaw decodeInPlace remain).2.feedChunk decodeInPlace
          (acc.feedRaw decodeInPlace remain).1.remaining).1,
        ((acc.feedRaw decodeInPlace remain).2.feedChunk decodeInPlace
          (acc.feedRaw decodeInPlace remain).1.remaining).2) := by
  rw [feedChunk, dif_neg h]

/-- One chunk after the other. -/
def feedAll (decodeInPlace : List UInt8 → Option (List UInt8)) :
    CobsAccumulator → List (List UInt8) → List (List UInt8) × CobsAccumulator
  | acc, [] => ([], acc)
  | acc, chunk :: chunks =>
    let res := acc.feedChunk decodeInPlace chunk
    let rest := feedAll decodeInPlace res.2 chunks
    (res.1 ++ rest.1, rest.2)

end CobsAccumulator

/-! ## The reference -/

/-- Split at the zeros, when `begun` came before: the segments that are ended by a zero,
and what comes after the last one. -/
def splitZeros : List UInt8 → List UInt8 → List (List UInt8) × List UInt8
  | begun, [] => ([], begun)
  | begun, b :: stream =>
    if b = 0 then (begun :: (splitZeros [] stream).1, (splitZeros [] stream).2)
    else splitZeros (begun ++ [b]) stream

/-- The segments of a stream, without their zeros. -/
def segments (stream : List UInt8) : List (List UInt8) := (splitZeros [] stream).1

theorem splitZeros_append (begun xs ys : List UInt8) :
    splitZeros begun (xs ++ ys) =
      ((splitZeros begun xs).1 ++ (splitZeros (splitZeros begun xs).2 ys).1,
        (splitZeros (splitZeros begun xs).2 ys).2) := by
  induction xs generalizing begun with
  | nil => rfl
  | cons b xs ih =>
    simp only [List.cons_append, splitZeros]
    split
    · simp [ih]
    · exact ih _

theorem splitZeros_of_not_mem {begun xs : List UInt8} (h : 0 ∉ xs) :
    splitZeros begun xs = ([], begun ++ xs) := by
  induction xs generalizing begun with
  | nil => simp [splitZeros]
  | cons b xs ih =>
    have hb : b ≠ 0 := fun hb => h (by simp [hb])
    rw [splitZeros, if_neg hb, ih fun hx => h (List.mem_cons_of_mem _ hx)]
    simp

/-- The first zero of some bytes. -/
theorem splitZeros_zero {begun pre rest : List UInt8} (h : 0 ∉ pre) :
    splitZeros begun (pre ++ 0 :: rest) =
      ((begun ++ pre) :: (splitZeros [] rest).1, (splitZeros [] rest).2) := by
  rw [splitZeros_append, splitZeros_of_not_mem h]
  simp [splitZeros]

/-- Which segments are kept by a buffer of `n` bytes: all but some that are longer, with
the zero. -/
inductive Kept (n : Nat) : List (List UInt8) → List (List UInt8) → Prop
  | nil : Kept n [] []
  | keep (s : List UInt8) {ss kept : List (List UInt8)} (h : Kept n ss kept) :
      Kept n (s :: ss) (s :: kept)
  | skip {s : List UInt8} (hlong : n < s.length + 1) {ss kept : List (List UInt8)}
      (h : Kept n ss kept) : Kept n (s :: ss) kept

namespace Kept

variable {n : Nat} {ss kept ss' kept' : List (List UInt8)}

theorem append (h : Kept n ss kept) (h' : Kept n ss' kept') :
    Kept n (ss ++ ss') (kept ++ kept') := by
  induction h with
  | nil => exact h'
  | keep s _ ih => exact .keep s ih
  | skip hlong _ ih => exact .skip hlong ih

/-- Nothing is kept that was not there, in another order, or twice. -/
theorem sublist (h : Kept n ss kept) : kept.Sublist ss := by
  induction h with
  | nil => exact .slnil
  | keep s _ ih => exact ih.cons_cons s
  | skip _ _ ih => exact ih.cons _

/-- A segment that fits the buffer is kept. -/
theorem eq_of_fits (h : Kept n ss kept) (hfits : ∀ s ∈ ss, s.length + 1 ≤ n) : kept = ss := by
  induction h with
  | nil => rfl
  | keep s _ ih => rw [ih fun t ht => hfits t (List.mem_cons_of_mem _ ht)]
  | skip hlong _ _ => exact absurd hlong (Nat.not_lt.mpr (hfits _ List.mem_cons_self))

end Kept

/-! ## The invariant -/

namespace CobsAccumulator

/-- What the accumulator holds of a segment that has begun: all of it, or that it is too
long. -/
structure Holds (acc : CobsAccumulator) (n : Nat) (begun : List UInt8) : Prop where
  size : acc.buf.length = n
  zero_free : 0 ∉ begun
  fits : acc.inOverflow = false → acc.buf.take acc.idx = begun ∧ acc.idx = begun.length
  overflow : acc.inOverflow = true → acc.idx = 0 ∧ n < begun.length

theorem Holds.new (buf : List UInt8) : Holds (new buf) buf.length [] :=
  { size := rfl
    zero_free := List.not_mem_nil
    fits := fun _ => ⟨by simp [CobsAccumulator.new], rfl⟩
    overflow := nofun }

variable {acc : CobsAccumulator} {n : Nat} {begun : List UInt8}

/-- A segment that has begun is discarded. -/
theorem Holds.reset (h : Holds acc n begun) : Holds acc.reset n [] :=
  h.size ▸ Holds.new acc.buf

/-- What one call does with bytes that have no zero: they are added to the segment. -/
theorem Holds.feedRaw_none (h : Holds acc n begun)
    (decodeInPlace : List UInt8 → Option (List UInt8)) {input : List UInt8} (hne : input ≠ [])
    (hzero : 0 ∉ input) :
    (acc.feedRaw decodeInPlace input).1.frame = [] ∧
      (acc.feedRaw decodeInPlace input).1.remaining = [] ∧
      Holds (acc.feedRaw decodeInPlace input).2 n (begun ++ input) := by
  have hfind : input.findIdx? (· = 0) = none := by
    rw [List.findIdx?_eq_none_iff]
    intro b hb
    refine decide_eq_false fun hb0 => ?_
    rw [hb0] at hb
    exact hzero hb
  have hempty : input.isEmpty = false := by simpa using hne
  have hfree : 0 ∉ begun ++ input := by simp [h.zero_free, hzero]
  simp only [feedRaw, hempty, hfind, Bool.false_eq_true, if_false]
  by_cases hover : acc.inOverflow = true
  · -- the segment is too long already
    obtain ⟨hidx, hlong⟩ := h.overflow hover
    rw [if_pos hover]
    refine ⟨rfl, rfl, h.size, hfree, fun hnot => ?_, fun _ => ⟨hidx, ?_⟩⟩
    · rw [hover] at hnot
      cases hnot
    · rw [List.length_append]
      omega
  · have hover := Bool.eq_false_iff.mpr hover
    obtain ⟨htake, hidx⟩ := h.fits hover
    simp only [hover, Bool.false_eq_true, if_false, push]
    by_cases hfit : acc.idx + input.length ≤ acc.buf.length
    · rw [if_pos hfit]
      refine ⟨rfl, rfl, ?_, hfree, fun _ => ⟨?_, ?_⟩, nofun⟩
      · have hsize := h.size
        simp only [List.length_append, List.length_drop, List.length_take]
        omega
      · simp only [htake]
        rw [hidx, ← List.length_append, List.take_left]
      · simp only [hidx, List.length_append]
    · -- the segment has become too long
      rw [if_neg hfit]
      refine ⟨rfl, rfl, h.size, hfree, nofun, fun _ => ⟨rfl, ?_⟩⟩
      rw [List.length_append, ← h.size]
      omega

/-- What one call does with a zero in the bytes: it ends the segment. -/
theorem Holds.feedRaw_some (h : Holds acc n begun)
    (decodeInPlace : List UInt8 → Option (List UInt8)) {pre : List UInt8} (rest : List UInt8)
    (hzero : 0 ∉ pre) :
    (acc.feedRaw decodeInPlace (pre ++ 0 :: rest)).1.remaining = rest ∧
      Holds (acc.feedRaw decodeInPlace (pre ++ 0 :: rest)).2 n [] ∧
      ((acc.feedRaw decodeInPlace (pre ++ 0 :: rest)).1.frame =
          (decodeInPlace (begun ++ pre ++ [0])).toList ∨
        n < (begun ++ pre).length + 1 ∧
          (acc.feedRaw decodeInPlace (pre ++ 0 :: rest)).1.frame = []) := by
  have hfind : (pre ++ 0 :: rest).findIdx? (· = 0) = some pre.length := by
    rw [List.findIdx?_eq_some_iff_getElem]
    refine ⟨by simp, by simp, fun j hj => ?_⟩
    rw [List.getElem_append_left hj]
    simpa using fun hj0 : pre[j] = 0 => hzero (hj0 ▸ List.getElem_mem hj)
  have hempty : (pre ++ 0 :: rest).isEmpty = false := by simp
  have hsplit : pre ++ 0 :: rest = (pre ++ [0]) ++ rest := by simp
  have htake : (pre ++ 0 :: rest).take (pre.length + 1) = pre ++ [0] := by
    rw [hsplit, List.take_left' (by simp)]
  have hdrop : (pre ++ 0 :: rest).drop (pre.length + 1) = rest := by
    rw [hsplit, List.drop_left' (by simp)]
  -- whatever the segment was, the next one starts with an empty buffer
  have hnext : ∀ buf, buf.length = n → Holds ⟨buf, 0, false⟩ n [] := by
    rintro buf rfl
    exact Holds.new buf
  simp only [feedRaw, hempty, hfind, htake, hdrop, Bool.false_eq_true, if_false]
  by_cases hover : acc.inOverflow = true
  · -- the zero ends the overflow, and what came before it is dropped
    obtain ⟨hidx, hlong⟩ := h.overflow hover
    rw [if_pos hover, hidx]
    refine ⟨rfl, hnext _ h.size, .inr ⟨?_, rfl⟩⟩
    rw [List.length_append]
    omega
  · have hover := Bool.eq_false_iff.mpr hover
    obtain ⟨hbegun, hidx⟩ := h.fits hover
    obtain ⟨buf, idx, inOverflow⟩ := acc
    simp only at hover hbegun hidx
    subst hover hidx
    simp only [Bool.false_eq_true, if_false]
    split
    · -- nothing has been read yet: decode in the chunk
      rename_i hnil
      obtain rfl := List.eq_nil_of_length_eq_zero hnil
      rw [List.nil_append]
      cases decodeInPlace (pre ++ [0]) with
      | some data => exact ⟨rfl, hnext _ h.size, .inl rfl⟩
      | none => exact ⟨rfl, hnext _ h.size, .inl rfl⟩
    · -- decode in the buffer, if the segment fits
      have hsize : buf.length = n := h.size
      simp only [pushReset, hbegun]
      by_cases hfit : begun.length + (pre ++ [(0 : UInt8)]).length ≤ buf.length
      · rw [if_pos hfit]
        have hsize' : (begun ++ (pre ++ [(0 : UInt8)]) ++
            buf.drop (begun.length + (pre ++ [(0 : UInt8)]).length)).length = n := by
          rw [List.length_append, List.length_append, List.length_drop]
          omega
        rw [List.append_assoc begun pre [0]]
        dsimp only
        cases decodeInPlace (begun ++ (pre ++ [0])) with
        | some data => exact ⟨rfl, hnext _ hsize', .inl rfl⟩
        | none => exact ⟨rfl, hnext _ hsize', .inl rfl⟩
      · rw [if_neg hfit]
        refine ⟨rfl, hnext _ hsize, .inr ⟨?_, rfl⟩⟩
        simp only [List.length_append, List.length_singleton] at hfit ⊢
        omega

/-- The loop over one chunk decodes the segments that end in it, but for some that are too
long. -/
theorem Holds.feedChunk (h : Holds acc n begun)
    (decodeInPlace : List UInt8 → Option (List UInt8)) (chunk : List UInt8) :
    Holds (acc.feedChunk decodeInPlace chunk).2 n (splitZeros begun chunk).2 ∧
      ∃ kept, Kept n (splitZeros begun chunk).1 kept ∧
        (acc.feedChunk decodeInPlace chunk).1 =
          kept.flatMap fun s => (decodeInPlace (s ++ [0])).toList := by
  induction hlen : chunk.length using Nat.strongRecOn generalizing acc begun chunk with
  | ind len ih =>
    by_cases hnil : chunk = []
    · subst hnil
      rw [feedChunk_nil]
      exact ⟨h, [], .nil, rfl⟩
    · rw [feedChunk_of_ne_nil acc hnil]
      by_cases hzero : 0 ∈ chunk
      · -- the first zero ends the segment that has begun, and the loop goes on after it
        obtain ⟨pre, rest, rfl, hpre⟩ := List.eq_append_cons_of_mem hzero
        obtain ⟨hrest, hholds, hframe⟩ :=
          h.feedRaw_some decodeInPlace rest hpre
        have hlt : rest.length < len := by
          rw [← hlen, List.length_append, List.length_cons]
          omega
        obtain ⟨hholds', kept, hkept, hframes⟩ := ih _ hlt hholds rest rfl
        simp only [hrest, hframes, splitZeros_zero hpre]
        refine ⟨hholds', ?_⟩
        rcases hframe with hframe | ⟨hlong, hframe⟩
        · exact ⟨(begun ++ pre) :: kept, .keep _ hkept, by rw [hframe, List.flatMap_cons]⟩
        · exact ⟨kept, .skip hlong hkept, by rw [hframe, List.nil_append]⟩
      · obtain ⟨hframe, hrest, hholds⟩ := h.feedRaw_none decodeInPlace hnil hzero
        simp only [hframe, hrest, splitZeros_of_not_mem hzero, List.nil_append, feedChunk_nil]
        exact ⟨hholds, [], .nil, rfl⟩

theorem Holds.feedAll (h : Holds acc n begun)
    (decodeInPlace : List UInt8 → Option (List UInt8)) (chunks : List (List UInt8)) :
    ∃ kept, Kept n (splitZeros begun chunks.flatten).1 kept ∧
      (acc.feedAll decodeInPlace chunks).1 =
        kept.flatMap fun s => (decodeInPlace (s ++ [0])).toList := by
  induction chunks generalizing acc begun with
  | nil => exact ⟨[], .nil, rfl⟩
  | cons chunk chunks ih =>
    obtain ⟨hholds, kept, hkept, hframes⟩ := h.feedChunk decodeInPlace chunk
    obtain ⟨kept', hkept', hframes'⟩ := ih hholds
    refine ⟨kept ++ kept', ?_, ?_⟩
    · rw [List.flatten_cons, splitZeros_append]
      exact hkept.append hkept'
    · simp only [CobsAccumulator.feedAll, hframes, hframes', List.flatMap_append]

end CobsAccumulator

/-! ## The frames that come out -/

theorem zero_not_mem_splitZeros {begun stream segment : List UInt8} (hbegun : 0 ∉ begun)
    (h : segment ∈ (splitZeros begun stream).1) : 0 ∉ segment := by
  induction stream generalizing begun with
  | nil => simp [splitZeros] at h
  | cons b stream ih =>
    rw [splitZeros] at h
    split at h
    · rcases List.mem_cons.mp h with rfl | h
      · exact hbegun
      · exact ih List.not_mem_nil h
    · rename_i hb
      refine ih ?_ h
      simp only [List.mem_append, List.mem_singleton, not_or]
      exact ⟨hbegun, fun h0 => hb h0.symm⟩

/-- A segment has no zero in it. -/
theorem zero_not_mem_of_segments {stream segment : List UInt8} (h : segment ∈ segments stream) :
    0 ∉ segment :=
  zero_not_mem_splitZeros List.not_mem_nil h

/-- When every segment fits the buffer, none is missing. -/
theorem CobsAccumulator.feedAll_of_fits (decodeInPlace : List UInt8 → Option (List UInt8))
    {buf : List UInt8} {chunks : List (List UInt8)}
    (hfits : ∀ segment ∈ segments chunks.flatten, segment.length + 1 ≤ buf.length) :
    ((CobsAccumulator.new buf).feedAll decodeInPlace chunks).1 =
      (segments chunks.flatten).flatMap fun segment => (decodeInPlace (segment ++ [0])).toList := by
  obtain ⟨kept, hkept, hframes⟩ :=
    (CobsAccumulator.Holds.new buf).feedAll decodeInPlace chunks
  rw [hframes, hkept.eq_of_fits hfits]
  rfl

/-- However a stream is cut into chunks, the frames that come out are the decodings of its
segments, in order; only segments that do not fit the buffer may be missing. `decode` is
what `decode_in_place` computes of a segment. -/
theorem feedAll_reference (decodeInPlace decode : List UInt8 → Option (List UInt8))
    (hdecode : ∀ segment, 0 ∉ segment → decodeInPlace (segment ++ [0]) = decode segment)
    (buf : List UInt8) (chunks : List (List UInt8)) :
    ∃ kept, Kept buf.length (segments chunks.flatten) kept ∧
      ((CobsAccumulator.new buf).feedAll decodeInPlace chunks).1 = kept.filterMap decode := by
  obtain ⟨kept, hkept, hframes⟩ :=
    (CobsAccumulator.Holds.new buf).feedAll decodeInPlace chunks
  refine ⟨kept, hkept, ?_⟩
  rw [hframes, List.filterMap_eq_flatMap_toList]
  refine List.flatMap_congr fun segment hmem => ?_
  rw [hdecode segment (zero_not_mem_of_segments (hkept.sublist.subset hmem))]

/-- A segment that begins in one chunk and is too long for the buffer, and one after it
that is not; what comes last has no zero yet. -/
theorem feedAll_reference_demo :
    ∃ kept, Kept 4 (segments [[3, 7, 7], [1, 1, 0, 2, 9, 0, 5], [6]].flatten) kept ∧
      ((CobsAccumulator.new [0, 0, 0, 0]).feedAll Cobs.decodeSentinel
        [[3, 7, 7], [1, 1, 0, 2, 9, 0, 5], [6]]).1 = kept.filterMap Cobs.decode :=
  feedAll_reference Cobs.decodeSentinel Cobs.decode (fun _ => Cobs.decodeSentinel_append)
    [0, 0, 0, 0] [[3, 7, 7], [1, 1, 0, 2, 9, 0, 5], [6]]

end Ergot
