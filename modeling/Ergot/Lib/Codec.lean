import Mathlib.Logic.Equiv.Defs
import Mathlib.Tactic.Ring

/-!
# Codecs

A `Codec` writes the values of a type as bytes and reads a value off the front of some
bytes. It carries its two laws:

- what was written is read back, with the bytes after it untouched;
- what was read is written with no more bytes than were read. A reader may accept more
  than one encoding of a value, and the writer chooses the shortest.

`Codec.prod`, `Codec.equiv` and `Codec.bytes` build codecs from codecs; `Varint` are the
base-128 numbers, lowest group first, with a limit on their width.
-/

/-- A writer and a reader for `α`. -/
structure Codec (α : Type) where
  encode : α → List UInt8
  decode : List UInt8 → Option (α × List UInt8)
  roundtrip : ∀ a rest, decode (encode a ++ rest) = some (a, rest)
  shrink : ∀ {data a rest}, decode data = some (a, rest) →
    ∃ used, data = used ++ rest ∧ (encode a).length ≤ used.length

namespace Codec

variable {α β : Type}

/-- One value after the other. -/
def prod (c : Codec α) (d : Codec β) : Codec (α × β) where
  encode p := c.encode p.1 ++ d.encode p.2
  decode data :=
    match c.decode data with
    | none => none
    | some (a, rest) => (d.decode rest).map fun (b, rest) => ((a, b), rest)
  roundtrip p rest := by
    simp [List.append_assoc, c.roundtrip, d.roundtrip]
  shrink {data p rest} h := by
    split at h
    · cases h
    · rename_i a rest₁ ha
      obtain ⟨⟨b, rest₂⟩, hb, heq⟩ := Option.map_eq_some_iff.mp h
      cases heq
      obtain ⟨used₁, rfl, hlen₁⟩ := c.shrink ha
      obtain ⟨used₂, rfl, hlen₂⟩ := d.shrink hb
      refine ⟨used₁ ++ used₂, (List.append_assoc _ _ _).symm, ?_⟩
      simp only [List.length_append]
      omega

/-- The same bytes for another type. -/
def equiv (c : Codec α) (e : α ≃ β) : Codec β where
  encode b := c.encode (e.symm b)
  decode data := (c.decode data).map fun (a, rest) => (e a, rest)
  roundtrip b rest := by simp [c.roundtrip]
  shrink {data b rest} h := by
    obtain ⟨⟨a, rest'⟩, ha, heq⟩ := Option.map_eq_some_iff.mp h
    cases heq
    simpa using c.shrink ha

/-- A raw byte. -/
def byte : Codec UInt8 where
  encode b := [b]
  decode
    | [] => none
    | b :: rest => some (b, rest)
  roundtrip b rest := rfl
  shrink {data b rest} h := by
    cases data with
    | nil => cases h
    | cons c data =>
      cases h
      exact ⟨[b], rfl, Nat.le_refl _⟩

/-- A fixed number of raw bytes. -/
def bytes (n : Nat) : Codec (Vector UInt8 n) where
  encode v := v.toList
  decode data :=
    if h : n ≤ data.length then some (⟨⟨data.take n⟩, by simpa using h⟩, data.drop n) else none
  roundtrip v rest := by
    have hlen : n ≤ (v.toList ++ rest).length := by simp
    rw [dif_pos hlen]
    have htake : (v.toList ++ rest).take n = v.toList := List.take_left' (by simp)
    have hdrop : (v.toList ++ rest).drop n = rest := List.drop_left' (by simp)
    rw [hdrop]
    congr 2
    apply Vector.toList_inj.mp
    exact htake
  shrink {data v rest} h := by
    split at h
    · rename_i hlen
      cases h
      refine ⟨data.take n, (List.take_append_drop n data).symm, ?_⟩
      simp
    · cases h

end Codec

namespace Varint

/-- A number in at most `k` groups of seven bits; every byte but the last has its high bit
set. -/
def encode : Nat → Nat → List UInt8
  | 0, _ => []
  | k + 1, n =>
    if n < 128 then [UInt8.ofNat n] else UInt8.ofNat (n % 128 + 128) :: encode k (n / 128)

theorem length_encode_le (k n : Nat) : (encode k n).length ≤ k := by
  induction k generalizing n with
  | zero => exact Nat.le_refl 0
  | succ k ih =>
    unfold encode
    split
    · simp
    · exact Nat.succ_le_succ (ih _)

/-- A number of at most `bits` bits. The last group that fits must end the number and may
not be wider than what is left of it. -/
def decode : Nat → List UInt8 → Option (Nat × List UInt8)
  | _, [] => none
  | bits, b :: rest =>
    if bits ≤ 7 then if b.toNat < 2 ^ bits then some (b.toNat, rest) else none
    else if b.toNat < 128 then some (b.toNat, rest)
    else (decode (bits - 7) rest).map fun (n, rest) => (b.toNat - 128 + 128 * n, rest)

theorem two_pow_sub_seven {bits : Nat} (h : 7 < bits) : 2 ^ bits = 128 * 2 ^ (bits - 7) := by
  rw [show (128 : Nat) = 2 ^ 7 from rfl, ← Nat.pow_add]
  congr 1
  omega

theorem decode_encode {k bits n : Nat} (hn : n < 2 ^ bits) (hk : 0 < k) (hbits : bits ≤ 7 * k)
    (rest : List UInt8) : decode bits (encode k n ++ rest) = some (n, rest) := by
  induction k generalizing bits n with
  | zero => omega
  | succ k ih =>
    unfold encode
    split
    · rename_i hlt
      have hbyte : (UInt8.ofNat n).toNat = n :=
        UInt8.toNat_ofNat_of_lt' (show n < 256 by omega)
      simp [decode, hbyte, hn, hlt]
    · rename_i hge
      have hwide : 7 < bits := by
        by_contra hle
        have : 2 ^ bits ≤ 2 ^ 7 := Nat.pow_le_pow_right (by decide) (by omega)
        omega
      have hbyte : (UInt8.ofNat (n % 128 + 128)).toNat = n % 128 + 128 :=
        UInt8.toNat_ofNat_of_lt' (show n % 128 + 128 < 256 by omega)
      have hn' : n / 128 < 2 ^ (bits - 7) := by
        rw [two_pow_sub_seven hwide] at hn
        exact Nat.div_lt_of_lt_mul hn
      have ih := ih hn' (by omega) (by omega)
      have hle : ¬ bits ≤ 7 := by omega
      have hhigh : ¬ n % 128 + 128 < 128 := by omega
      simp only [List.cons_append, decode, hbyte, hle, hhigh, if_false, ih, Option.map_some]
      congr 2
      omega

/-- What is read fits the width, and is written with no more bytes. -/
theorem decode_shrink {bits n : Nat} {data rest : List UInt8}
    (h : decode bits data = some (n, rest)) (k : Nat) :
    n < 2 ^ bits ∧ ∃ used, data = used ++ rest ∧ (encode k n).length ≤ used.length := by
  induction data generalizing bits n k with
  | nil => cases h
  | cons b data ih =>
    have hone : ∀ m, m < 128 → (encode k m).length ≤ 1 := by
      intro m hm
      cases k <;> simp [encode, hm]
    unfold decode at h
    split at h
    · rename_i hbits
      split at h
      · rename_i hlt
        cases h
        have : 2 ^ bits ≤ 2 ^ 7 := Nat.pow_le_pow_right (by decide) hbits
        exact ⟨hlt, [b], rfl, hone _ (by omega)⟩
      · cases h
    · rename_i hbits
      have hpow := two_pow_sub_seven (show 7 < bits by omega)
      have hpos := Nat.two_pow_pos (bits - 7)
      split at h
      · rename_i hlt
        cases h
        exact ⟨by omega, [b], rfl, hone _ hlt⟩
      · rename_i hge
        obtain ⟨⟨m, rest'⟩, hm, heq⟩ := Option.map_eq_some_iff.mp h
        cases heq
        obtain ⟨hlt, used, rfl, hlen⟩ := ih hm (k - 1)
        have hb := b.toNat_lt
        refine ⟨by omega, b :: used, rfl, ?_⟩
        cases k with
        | zero => simp [encode]
        | succ k =>
          have hdiv : (b.toNat - 128 + 128 * m) / 128 = m := by omega
          unfold encode
          split
          · simp
          · rw [hdiv]
            exact Nat.succ_le_succ hlen

/-- 16-bit numbers. -/
def u16 : Codec UInt16 where
  encode n := encode 3 n.toNat
  decode data := (decode 16 data).map fun (n, rest) => (UInt16.ofNat n, rest)
  roundtrip n rest := by
    rw [decode_encode n.toNat_lt (by decide) (by decide)]
    simp
  shrink {data n rest} h := by
    obtain ⟨⟨m, rest'⟩, hm, heq⟩ := Option.map_eq_some_iff.mp h
    cases heq
    obtain ⟨hlt, hused⟩ := decode_shrink hm 3
    rwa [UInt16.toNat_ofNat_of_lt' hlt]

/-- 32-bit numbers. -/
def u32 : Codec UInt32 where
  encode n := encode 5 n.toNat
  decode data := (decode 32 data).map fun (n, rest) => (UInt32.ofNat n, rest)
  roundtrip n rest := by
    rw [decode_encode n.toNat_lt (by decide) (by decide)]
    simp
  shrink {data n rest} h := by
    obtain ⟨⟨m, rest'⟩, hm, heq⟩ := Option.map_eq_some_iff.mp h
    cases heq
    obtain ⟨hlt, hused⟩ := decode_shrink hm 5
    rwa [UInt32.toNat_ofNat_of_lt' hlt]

end Varint
