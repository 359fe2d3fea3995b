import Mathlib.Data.List.Basic

/-!
# Consistent overhead byte stuffing

COBS writes bytes without zeros, so that a zero can end a frame. The bytes are cut into
blocks at their zeros, and every block is led by a code, its length plus one. A block of
254 bytes has the code 255 and stands for no zero at its end; the zero at the end of the
last block is left out.

`decode` walks the codes with the number of bytes left in the block. `decode_encode`,
`zero_not_mem_encode` and `length_encode_le` are all that a framing layer needs to know.
-/

namespace Cobs

/-- Decode with `left` bytes to go in the block; `zero` says whether a zero comes before
the next one. -/
def decodeFrom : Nat → Bool → List UInt8 → Option (List UInt8)
  | 0, _, [] => some []
  | _ + 1, _, [] => none
  | 0, zero, code :: rest =>
    if code = 0 then none
    else
      (decodeFrom (code.toNat - 1) (code ≠ 255) rest).map fun out =>
        if zero then 0 :: out else out
  | left + 1, zero, b :: rest =>
    if b = 0 then none else (decodeFrom left zero rest).map (b :: ·)

/-- The decoding of a segment, which is what comes before the zero that ends a frame. -/
def decode (segment : List UInt8) : Option (List UInt8) := decodeFrom 0 false segment

/-- Decode what comes before the first zero. -/
def decodeSentinel (bytes : List UInt8) : Option (List UInt8) :=
  decode (bytes.takeWhile (· ≠ 0))

theorem decodeSentinel_append {segment : List UInt8} (h : 0 ∉ segment) :
    decodeSentinel (segment ++ [0]) = decode segment := by
  have hne : ∀ b ∈ segment, decide (b ≠ 0) = true := by
    intro b hb
    refine decide_eq_true fun hb0 => ?_
    rw [hb0] at hb
    exact h hb
  rw [decodeSentinel, List.takeWhile_append_of_pos hne]
  simp

/-- Encode with `block` read since the last code. -/
def encodeFrom : List UInt8 → List UInt8 → List UInt8
  | block, [] => UInt8.ofNat (block.length + 1) :: block
  | block, b :: rest =>
    if b = 0 then (UInt8.ofNat (block.length + 1) :: block) ++ encodeFrom [] rest
    else if block.length = 253 then (255 :: (block ++ [b])) ++ encodeFrom [] rest
    else encodeFrom (block ++ [b]) rest

def encode (data : List UInt8) : List UInt8 := encodeFrom [] data

theorem code_ne_zero {n : Nat} (h : n ≤ 253) : UInt8.ofNat (n + 1) ≠ 0 := by
  intro hzero
  have := congrArg UInt8.toNat hzero
  rw [UInt8.toNat_ofNat_of_lt' (show n + 1 < 256 by omega)] at this
  simp at this

theorem zero_not_mem_encodeFrom (block data : List UInt8) (hblock : 0 ∉ block)
    (hlen : block.length ≤ 253) : 0 ∉ encodeFrom block data := by
  induction data generalizing block with
  | nil =>
    simp only [encodeFrom, List.mem_cons, not_or]
    exact ⟨(code_ne_zero hlen).symm, hblock⟩
  | cons b data ih =>
    have hrest := ih [] List.not_mem_nil (by simp)
    unfold encodeFrom
    split
    · simp only [List.mem_append, List.mem_cons, not_or]
      exact ⟨⟨(code_ne_zero hlen).symm, hblock⟩, hrest⟩
    · rename_i hb
      split
      · simp only [List.mem_append, List.mem_cons, List.not_mem_nil, or_false, not_or]
        exact ⟨⟨by decide, hblock, fun h => hb h.symm⟩, hrest⟩
      · refine ih _ ?_ ?_
        · simp only [List.mem_append, List.mem_cons, List.not_mem_nil, or_false, not_or]
          exact ⟨hblock, fun h => hb h.symm⟩
        · simp only [List.length_append, List.length_singleton]
          omega

theorem zero_not_mem_encode (data : List UInt8) : 0 ∉ encode data :=
  zero_not_mem_encodeFrom [] data List.not_mem_nil (by simp)

theorem length_encodeFrom_le (block data : List UInt8) (hlen : block.length ≤ 253) :
    (encodeFrom block data).length ≤
      block.length + data.length + (block.length + data.length) / 254 + 1 := by
  induction data generalizing block with
  | nil =>
    simp only [encodeFrom, List.length_cons, List.length_nil]
    omega
  | cons b data ih =>
    have hrest := ih [] (Nat.zero_le 253)
    rw [List.length_nil] at hrest
    unfold encodeFrom
    split
    · simp only [List.length_append, List.length_cons]
      omega
    · split
      · simp only [List.length_append, List.length_cons, List.length_nil]
        omega
      · have hlonger : (block ++ [b]).length = block.length + 1 := List.length_append
        have hle := ih (block ++ [b]) (by omega)
        rw [hlonger] at hle
        rw [List.length_cons]
        omega

/-- One code, and one more for every 254 bytes. -/
theorem length_encode_le (data : List UInt8) :
    (encode data).length ≤ data.length + (data.length / 254 + 1) := by
  have hle := length_encodeFrom_le [] data (Nat.zero_le 253)
  rw [List.length_nil, Nat.zero_add] at hle
  exact hle

/-- The bytes of a block come out as they are. -/
theorem decodeFrom_block {block rest : List UInt8} {zero : Bool} (hblock : 0 ∉ block) :
    decodeFrom block.length zero (block ++ rest) = (decodeFrom 0 zero rest).map (block ++ ·) := by
  induction block with
  | nil => simp
  | cons b block ih =>
    have hb : b ≠ 0 := fun h => hblock (by simp [h])
    have hblock' : 0 ∉ block := fun h => hblock (List.mem_cons_of_mem _ h)
    simp only [List.length_cons, List.cons_append, decodeFrom, hb, if_false, ih hblock',
      Option.map_map]
    rfl

/-- A code and its block. -/
theorem decodeFrom_code {block : List UInt8} (rest : List UInt8) (zero : Bool) (hblock : 0 ∉ block)
    (hlen : block.length ≤ 254) :
    decodeFrom 0 zero (UInt8.ofNat (block.length + 1) :: block ++ rest) =
      (decodeFrom 0 (block.length ≠ 254) rest).map fun out =>
        (if zero then [0] else []) ++ block ++ out := by
  have hcode : (UInt8.ofNat (block.length + 1)).toNat = block.length + 1 :=
    UInt8.toNat_ofNat_of_lt' (show block.length + 1 < 256 by omega)
  have hzero : UInt8.ofNat (block.length + 1) ≠ 0 := by
    intro h
    rw [h] at hcode
    simp at hcode
  have hfull : (UInt8.ofNat (block.length + 1) = 255) ↔ block.length = 254 := by
    rw [← UInt8.toNat_inj, hcode]
    exact Nat.succ_inj
  simp only [List.cons_append, decodeFrom, hzero, if_false, hcode, Nat.add_sub_cancel,
    decodeFrom_block hblock, Option.map_map, ne_eq, hfull]
  congr 1
  funext out
  cases zero <;> simp

theorem decodeFrom_encodeFrom (block data : List UInt8) (zero : Bool) (hblock : 0 ∉ block)
    (hlen : block.length ≤ 253) :
    decodeFrom 0 zero (encodeFrom block data) =
      some ((if zero then [0] else []) ++ block ++ data) := by
  induction data generalizing block zero with
  | nil =>
    have h := decodeFrom_code [] zero hblock (by omega)
    simp only [List.append_nil] at h
    rw [encodeFrom, h]
    simp [decodeFrom]
  | cons b data ih =>
    have hrest : ∀ zero, decodeFrom 0 zero (encodeFrom [] data) =
        some ((if zero then [0] else []) ++ data) := by
      intro zero
      simpa using ih [] zero List.not_mem_nil (by simp)
    unfold encodeFrom
    split
    · rename_i hb
      rw [decodeFrom_code _ _ hblock (by omega), hrest]
      have hne : block.length ≠ 254 := by omega
      simp [hne, hb]
    · rename_i hb
      have hblock' : 0 ∉ block ++ [b] := by
        simp only [List.mem_append, List.mem_cons, List.not_mem_nil, or_false, not_or]
        exact ⟨hblock, fun h => hb h.symm⟩
      split
      · rename_i hfull
        have hlen' : (block ++ [b]).length = 254 := by simp [hfull]
        have h := decodeFrom_code (encodeFrom [] data) zero hblock' (by omega)
        rw [hlen'] at h
        rw [show (255 : UInt8) = UInt8.ofNat (254 + 1) from rfl, h, hrest]
        simp
      · have hlen' : (block ++ [b]).length ≤ 253 := by
          simp only [List.length_append, List.length_singleton]
          omega
        rw [ih _ _ hblock' hlen']
        simp

theorem decode_encode (data : List UInt8) : decode (encode data) = some data := by
  have h := decodeFrom_encodeFrom [] data false List.not_mem_nil (by simp)
  simpa [decode, encode] using h

end Cobs
