import Mathlib.Data.List.Basic

/-!
# The port allocator

`alloc_port` and `free_port` (net_stack/inner.rs:797). The stack remembers which of 32 ports,
from a multiple of 32 on, are taken. Only when all of them are does it look at its sockets,
to find 32 others.

`PortCache.Covers` is what the cache knows of the ports that are in use. With it, a port that
is handed out is in use by nobody, and it is neither of the two reserved ports.
-/

namespace Ergot

/-- The upper three bits of a port. -/
def pupper (port : UInt8) : UInt8 := port &&& ~~~31

/-- The lower five bits of a port. -/
def plower (port : UInt8) : Nat := (port &&& 31).toNat

theorem pupper_toNat (port : UInt8) : (pupper port).toNat = 32 * (port.toNat / 32) := by
  have h : ∀ n : Fin 256, n.val &&& 224 = 32 * (n.val / 32) := by decide +kernel
  have h := h ⟨port.toNat, port.toNat_lt⟩
  rw [pupper, UInt8.toNat_and]
  exact h

theorem plower_eq (port : UInt8) : plower port = port.toNat % 32 := by
  rw [plower, UInt8.toNat_and]
  exact Nat.and_two_pow_sub_one_eq_mod port.toNat 5

theorem plower_lt (port : UInt8) : plower port < 32 := by
  rw [plower_eq]
  exact Nat.mod_lt _ (by decide)

/-- The two parts of a port. -/
theorem port_eq {p q : UInt8} (hupper : pupper p = pupper q) (hlower : plower p = plower q) :
    p = q := by
  have h := congrArg UInt8.toNat hupper
  rw [pupper_toNat, pupper_toNat] at h
  rw [plower_eq, plower_eq] at hlower
  rw [← UInt8.toNat_inj]
  omega

/-- `u32::trailing_ones`. -/
def trailingOnes (bits : BitVec 32) : Nat :=
  ((List.range 32).find? fun i => !bits.getLsbD i).getD 32

theorem trailingOnes_spec {bits : BitVec 32} (h : bits ≠ BitVec.allOnes 32) :
    trailingOnes bits < 32 ∧ bits.getLsbD (trailingOnes bits) = false := by
  unfold trailingOnes
  cases hfind : (List.range 32).find? fun i => !bits.getLsbD i with
  | none =>
    rw [List.find?_eq_none] at hfind
    refine absurd (BitVec.eq_of_getLsbD_eq fun i hi => ?_) h
    have hbit := hfind i (List.mem_range.mpr hi)
    rw [BitVec.getLsbD_allOnes]
    simpa [hi] using hbit
  | some i =>
    exact ⟨List.mem_range.mp (List.mem_of_find?_eq_some hfind), by
      simpa using List.find?_some hfind⟩

/-- The ports the stack remembers: a bit for each from `pcacheStart` on. -/
structure PortCache where
  pcacheBits : BitVec 32
  pcacheStart : UInt8

namespace PortCache

/-- The cache of a new stack. -/
def empty : PortCache := ⟨0, 0⟩

/-- Allocate from the current range, unless all of it is taken. -/
def take (c : PortCache) : Option (UInt8 × PortCache) :=
  if c.pcacheBits = BitVec.allOnes 32 then none
  else
    let ldg := trailingOnes c.pcacheBits
    some (c.pcacheStart + UInt8.ofNat ldg,
      { c with pcacheBits := c.pcacheBits ||| BitVec.twoPow 32 ldg })

/-- The bits of a range before any socket is looked at: the ports 0 and 255 are not
allowed. -/
def reserved (start : UInt8) : BitVec 32 :=
  (if start = 0 then BitVec.twoPow 32 0 else 0) |||
    (if start = 0b11100000 then BitVec.twoPow 32 31 else 0)

/-- What a socket's port adds to the bits of a range. -/
def mark (start : UInt8) (bits : BitVec 32) (port : UInt8) : BitVec 32 :=
  if port = 255 then bits
  else if pupper port = start then bits ||| BitVec.twoPow 32 (plower port)
  else bits

/-- The cache for another range, from the ports of the sockets. -/
def refill (ports : List UInt8) (start : UInt8) : PortCache :=
  ⟨ports.foldl (mark start) (reserved start), start⟩

/-- The loop over the other ranges. -/
def search (ports : List UInt8) (oldStart : UInt8) :
    PortCache → List UInt8 → Option UInt8 × PortCache
  | c, [] => (none, c)
  | c, start :: rest =>
    if start = oldStart then search ports oldStart c rest
    else
      match (refill ports start).take with
      | some (port, c) => (some port, c)
      | none => search ports oldStart (refill ports start) rest

/-- `NetStackInner::alloc_port`; `ports` are those of the sockets. -/
def allocPort (ports : List UInt8) (c : PortCache) : Option UInt8 × PortCache :=
  let c := { c with
    pcacheBits := c.pcacheBits ||| (if c.pcacheStart = 0 then BitVec.twoPow 32 0 else 0) }
  match c.take with
  | some (port, c) => (some port, c)
  | none => search ports c.pcacheStart c [0, 32, 64, 96, 128, 160, 192, 224]

/-- `NetStackInner::free_port`. -/
def freePort (c : PortCache) (port : UInt8) : PortCache :=
  if pupper port = c.pcacheStart then
    { c with pcacheBits := c.pcacheBits &&& ~~~(BitVec.twoPow 32 (plower port)) }
  else c

/-- What the cache knows of the ports in use: those of its range have their bits set. -/
structure Covers (c : PortCache) (ports : List UInt8) : Prop where
  start : c.pcacheStart.toNat % 32 = 0
  bits : ∀ port ∈ ports, port ≠ 255 → pupper port = c.pcacheStart →
    c.pcacheBits.getLsbD (plower port) = true
  last : c.pcacheStart = 0b11100000 → c.pcacheBits.getLsbD 31 = true

theorem covers_empty : empty.Covers [] :=
  { start := rfl
    bits := fun _ h => absurd h List.not_mem_nil
    last := nofun }

theorem Covers.mono {c : PortCache} {ports ports' : List UInt8} (h : c.Covers ports)
    (hsub : ∀ port ∈ ports', port ∈ ports) : c.Covers ports' :=
  { h with bits := fun port hport => h.bits port (hsub port hport) }

/-- More bits do no harm. -/
theorem Covers.set {c : PortCache} {ports : List UInt8} (h : c.Covers ports) (bits : BitVec 32) :
    Covers { c with pcacheBits := c.pcacheBits ||| bits } ports where
  start := h.start
  bits port hport hne hupper := by
    rw [BitVec.getLsbD_or, h.bits port hport hne hupper, Bool.true_or]
  last hlast := by rw [BitVec.getLsbD_or, h.last hlast, Bool.true_or]

/-- The port that is allocated from the current range: its bit was clear, and it is set. -/
theorem take_eq_some {c c' : PortCache} {port : UInt8} (hstart : c.pcacheStart.toNat % 32 = 0)
    (htake : c.take = some (port, c')) :
    pupper port = c.pcacheStart ∧ c.pcacheBits.getLsbD (plower port) = false ∧
      c' = { c with pcacheBits := c.pcacheBits ||| BitVec.twoPow 32 (plower port) } := by
  unfold PortCache.take at htake
  split at htake
  · cases htake
  · rename_i hbits
    obtain ⟨hlt, hfree⟩ := trailingOnes_spec hbits
    cases htake
    generalize trailingOnes c.pcacheBits = ldg at hlt hfree
    -- the port's two parts
    have hnat : (c.pcacheStart + UInt8.ofNat ldg).toNat = c.pcacheStart.toNat + ldg := by
      rw [UInt8.toNat_add, UInt8.toNat_ofNat_of_lt' (show ldg < 256 by omega)]
      have := c.pcacheStart.toNat_lt
      omega
    have hupper : pupper (c.pcacheStart + UInt8.ofNat ldg) = c.pcacheStart := by
      rw [← UInt8.toNat_inj, pupper_toNat, hnat]
      omega
    have hlower : plower (c.pcacheStart + UInt8.ofNat ldg) = ldg := by
      rw [plower_eq, hnat]
      omega
    rw [hlower]
    exact ⟨hupper, hfree, rfl⟩

/-- A port from the current range. -/
theorem Covers.take {c c' : PortCache} {ports : List UInt8} {port : UInt8} (h : c.Covers ports)
    (hzero : c.pcacheStart = 0 → c.pcacheBits.getLsbD 0 = true) (htake : c.take = some (port, c')) :
    port ∉ ports ∧ port ≠ 0 ∧ port ≠ 255 ∧ c'.Covers (port :: ports) := by
  obtain ⟨hupper, hfree, rfl⟩ := take_eq_some h.start htake
  have hclear : ∀ {b : Bool}, c.pcacheBits.getLsbD (plower port) = b → b = false :=
    fun hb => hb.symm.trans hfree
  have hne255 : port ≠ 255 := by
    rintro rfl
    cases hclear (h.last hupper.symm)
  have hne0 : port ≠ 0 := by
    rintro rfl
    cases hclear (hzero hupper.symm)
  refine ⟨fun hmem => ?_, hne0, hne255, ?_⟩
  · cases hclear (h.bits _ hmem hne255 hupper)
  · have hset := h.set (BitVec.twoPow 32 (plower port))
    refine { hset with bits := fun p hp hne hp' => ?_ }
    rcases List.mem_cons.mp hp with rfl | hp
    · rw [BitVec.getLsbD_or, BitVec.getLsbD_twoPow]
      simp [plower_lt]
    · exact hset.bits p hp hne hp'

theorem mark_mono {start port : UInt8} {bits : BitVec 32} {i : Nat}
    (h : bits.getLsbD i = true) : (mark start bits port).getLsbD i = true := by
  unfold mark
  split
  · exact h
  · split
    · rw [BitVec.getLsbD_or, h, Bool.true_or]
    · exact h

theorem foldl_mark_mono {start : UInt8} {bits : BitVec 32} {i : Nat} (ports : List UInt8)
    (h : bits.getLsbD i = true) : (ports.foldl (mark start) bits).getLsbD i = true := by
  induction ports generalizing bits with
  | nil => exact h
  | cons port ports ih => exact ih (mark_mono h)

theorem foldl_mark_mem {start port : UInt8} {ports : List UInt8} (bits : BitVec 32)
    (hport : port ∈ ports) (hne : port ≠ 255) (hupper : pupper port = start) :
    (ports.foldl (mark start) bits).getLsbD (plower port) = true := by
  induction ports generalizing bits with
  | nil => exact absurd hport List.not_mem_nil
  | cons q ports ih =>
    rcases List.mem_cons.mp hport with rfl | hport
    · refine foldl_mark_mono ports ?_
      rw [mark, if_neg hne, if_pos hupper, BitVec.getLsbD_or, BitVec.getLsbD_twoPow]
      simp [plower_lt]
    · exact ih _ hport

theorem refill_covers (ports : List UInt8) {start : UInt8} (hstart : start.toNat % 32 = 0) :
    (refill ports start).Covers ports ∧
      (start = 0 → (refill ports start).pcacheBits.getLsbD 0 = true) := by
  refine ⟨⟨hstart, fun port hport hne hupper => ?_, ?_⟩, ?_⟩
  · exact foldl_mark_mem _ hport hne hupper
  · rintro rfl
    exact foldl_mark_mono ports rfl
  · rintro rfl
    exact foldl_mark_mono ports rfl

/-- What an allocation leaves behind: the cache covers the ports and the new one, which is
free and not reserved. -/
def Allocated (ports : List UInt8) (res : Option UInt8 × PortCache) : Prop :=
  match res.1 with
  | some port => port ∉ ports ∧ port ≠ 0 ∧ port ≠ 255 ∧ res.2.Covers (port :: ports)
  | none => res.2.Covers ports

theorem search_spec {ports : List UInt8} {oldStart : UInt8} {bases : List UInt8}
    (hbases : ∀ start ∈ bases, start.toNat % 32 = 0) {c : PortCache} (h : c.Covers ports) :
    Allocated ports (search ports oldStart c bases) := by
  induction bases generalizing c with
  | nil => exact h
  | cons start bases ih =>
    have hrest : ∀ start ∈ bases, start.toNat % 32 = 0 := fun s hs =>
      hbases s (List.mem_cons_of_mem _ hs)
    obtain ⟨hcovers, hzero⟩ := refill_covers ports (hbases start List.mem_cons_self)
    unfold search
    by_cases hold : start = oldStart
    · rw [if_pos hold]
      exact ih hrest h
    · rw [if_neg hold]
      cases htake : (refill ports start).take with
      | none => exact ih hrest hcovers
      | some res => exact hcovers.take hzero htake

/-- A port that is handed out is free. -/
theorem allocPort_spec {ports : List UInt8} {c : PortCache} (h : c.Covers ports) :
    Allocated ports (allocPort ports c) := by
  have hset := h.set (if c.pcacheStart = 0 then BitVec.twoPow 32 0 else 0)
  have hzero : c.pcacheStart = 0 →
      (c.pcacheBits ||| (if c.pcacheStart = 0 then BitVec.twoPow 32 0 else 0)).getLsbD 0 = true := by
    intro h0
    rw [if_pos h0, BitVec.getLsbD_or, BitVec.getLsbD_twoPow]
    simp
  unfold allocPort
  dsimp only
  generalize c.pcacheBits ||| _ = bits at hset hzero ⊢
  cases htake : PortCache.take { c with pcacheBits := bits } with
  | some res => exact hset.take hzero htake
  | none => exact search_spec (by simp) hset

/-- Freeing a port that nobody uses any more. -/
theorem Covers.freePort {c : PortCache} {ports : List UInt8} {port : UInt8} (h : c.Covers ports)
    (hport : port ≠ 255) (hfree : port ∉ ports) : (c.freePort port).Covers ports := by
  unfold PortCache.freePort
  split
  · rename_i hupper
    have hkeep : ∀ i < 32, i ≠ plower port → c.pcacheBits.getLsbD i = true →
        (c.pcacheBits &&& ~~~(BitVec.twoPow 32 (plower port))).getLsbD i = true := by
      intro i hi hne hbit
      rw [BitVec.getLsbD_and, hbit, BitVec.getLsbD_not, BitVec.getLsbD_twoPow]
      simp [hi, hne.symm]
    refine ⟨h.start, fun q hq hne hq' => ?_, fun hlast => ?_⟩
    · refine hkeep _ (plower_lt q) (fun hlower => ?_) (h.bits q hq hne hq')
      rw [port_eq (hq'.trans hupper.symm) hlower] at hq
      exact hfree hq
    · refine hkeep 31 (by decide) (fun hlower => hport ?_) (h.last hlast)
      exact port_eq (q := 255) (hupper.trans hlast) hlower.symm
  · exact h

/-! ## What the bits say exactly

`Covers` is one direction only: it forbids that a port is handed out twice. That the allocator
also finds every free port takes the other one. -/

/-- The bits of the cache's range are those of the ports in use and of the reserved ports,
except perhaps for the port 0, which could be clear on the first allocation. -/
structure Tracks (c : PortCache) (ports : List UInt8) : Prop where
  start : c.pcacheStart.toNat % 32 = 0
  bits : ∀ port, port ≠ 0 → pupper port = c.pcacheStart →
    (c.pcacheBits.getLsbD (plower port) = true ↔ port ∈ ports ∨ port = 255)

/-- The bits of the cache's range are exactly those of the ports in use and of the reserved
ports. -/
structure Marks (c : PortCache) (ports : List UInt8) : Prop where
  start : c.pcacheStart.toNat % 32 = 0
  bits : ∀ port, pupper port = c.pcacheStart →
    (c.pcacheBits.getLsbD (plower port) = true ↔ port ∈ ports ∨ port = 0 ∨ port = 255)

theorem tracks_empty : empty.Tracks [] where
  start := rfl
  bits port hport hupper := by
    constructor
    · intro h
      have hclear : empty.pcacheBits.getLsbD (plower port) = false := BitVec.getLsbD_zero
      cases h.symm.trans hclear
    · rintro (h | rfl)
      · exact absurd h List.not_mem_nil
      · exact absurd hupper (by decide)

variable {c c' : PortCache} {ports ports' : List UInt8} {port : UInt8}

theorem Marks.tracks (h : c.Marks ports) : c.Tracks ports where
  start := h.start
  bits port hport hupper := by
    rw [h.bits port hupper]
    simp [hport]

theorem Tracks.congr (h : c.Tracks ports) (hmem : ∀ p, p ≠ 255 → (p ∈ ports' ↔ p ∈ ports)) :
    c.Tracks ports' where
  start := h.start
  bits port hport hupper := by
    rw [h.bits port hport hupper]
    by_cases hlast : port = 255
    · simp [hlast]
    · simp [hlast, hmem port hlast]

theorem Marks.congr (h : c.Marks ports) (hmem : ∀ p, p ≠ 255 → (p ∈ ports' ↔ p ∈ ports)) :
    c.Marks ports' where
  start := h.start
  bits port hupper := by
    rw [h.bits port hupper]
    by_cases hlast : port = 255
    · simp [hlast]
    · simp [hlast, hmem port hlast]

/-- Where the port 0 is not in use, the exact bits are bits that cover. -/
theorem Tracks.covers (h : c.Tracks ports) (hzero : 0 ∉ ports) : c.Covers ports where
  start := h.start
  bits port hport _ hupper := by
    have hne : port ≠ 0 := by
      rintro rfl
      exact hzero hport
    exact (h.bits port hne hupper).mpr (.inl hport)
  last hlast := (h.bits 255 (by decide) hlast.symm).mpr (.inr rfl)

/-- An allocation begins with the bit of the port 0. -/
theorem Tracks.marks (h : c.Tracks ports) :
    Marks { c with
      pcacheBits := c.pcacheBits ||| (if c.pcacheStart = 0 then BitVec.twoPow 32 0 else 0) }
      ports where
  start := h.start
  bits port hupper := by
    show (c.pcacheBits ||| _).getLsbD (plower port) = true ↔ _
    have hupper : pupper port = c.pcacheStart := hupper
    rw [BitVec.getLsbD_or, Bool.or_eq_true]
    by_cases hport : port = 0
    · subst hport
      have h0 : c.pcacheStart = 0 := hupper.symm
      rw [if_pos h0]
      constructor
      · intro _
        exact .inr (.inl rfl)
      · intro _
        exact .inr rfl
    · have hclear : BitVec.getLsbD
          (if c.pcacheStart = 0 then BitVec.twoPow 32 0 else 0) (plower port) = false := by
        split
        · rename_i h0
          rw [BitVec.getLsbD_twoPow]
          have : plower port ≠ 0 := fun hlower =>
            hport (port_eq (q := 0) (hupper.trans h0) hlower)
          simp [this.symm]
        · exact BitVec.getLsbD_zero
      rw [hclear, h.bits port hport hupper]
      simp [hport]

/-- The bit of a port is set. -/
theorem Marks.set (h : c.Marks ports) (hport : pupper port = c.pcacheStart) :
    Marks { c with pcacheBits := c.pcacheBits ||| BitVec.twoPow 32 (plower port) }
      (port :: ports) where
  start := h.start
  bits p hupper := by
    show (c.pcacheBits ||| _).getLsbD (plower p) = true ↔ _
    have hupper : pupper p = c.pcacheStart := hupper
    rw [BitVec.getLsbD_or, BitVec.getLsbD_twoPow, Bool.or_eq_true, h.bits p hupper]
    by_cases hp : p = port
    · subst hp
      simp [plower_lt]
    · have hlower : plower port ≠ plower p := fun hlower =>
        hp (port_eq (hupper.trans hport.symm) hlower.symm)
      simp [hp, hlower]

/-- The bit of a port is cleared. -/
theorem Tracks.freePort (h : c.Tracks (port :: ports)) (hport : port ≠ 255)
    (hfree : port ∉ ports) : (c.freePort port).Tracks ports := by
  unfold PortCache.freePort
  split
  · rename_i hrange
    refine ⟨h.start, fun p hp hupper => ?_⟩
    show (c.pcacheBits &&& _).getLsbD (plower p) = true ↔ _
    have hupper : pupper p = c.pcacheStart := hupper
    rw [BitVec.getLsbD_and, BitVec.getLsbD_not, BitVec.getLsbD_twoPow, Bool.and_eq_true,
      h.bits p hp hupper]
    by_cases heq : p = port
    · subst heq
      simp [hport, hfree, plower_lt]
    · have hlower : plower port ≠ plower p := fun hlower =>
        heq (port_eq (hupper.trans hrange.symm) hlower.symm)
      simp [heq, hlower, plower_lt]
  · rename_i hrange
    refine ⟨h.start, fun p hp hupper => ?_⟩
    have hne : p ≠ port := by
      rintro rfl
      exact hrange hupper
    rw [h.bits p hp hupper]
    simp [hne]

/-- Where no port can be taken, all of the range is in use or reserved. -/
theorem Marks.take_eq_none (h : c.Marks ports) (htake : c.take = none)
    (hport : pupper port = c.pcacheStart) : port ∈ ports ∨ port = 0 ∨ port = 255 := by
  unfold PortCache.take at htake
  split at htake
  · rename_i hbits
    refine (h.bits port hport).mp ?_
    rw [hbits, BitVec.getLsbD_allOnes]
    simp [plower_lt]
  · cases htake

theorem Marks.take (h : c.Marks ports) (htake : c.take = some (port, c')) :
    c'.Marks (port :: ports) := by
  obtain ⟨hupper, -, rfl⟩ := take_eq_some h.start htake
  exact h.set hupper

theorem mark_marks {start : UInt8} {bits : BitVec 32} (h : Marks ⟨bits, start⟩ ports)
    (port : UInt8) : Marks ⟨mark start bits port, start⟩ (port :: ports) := by
  unfold mark
  split
  · rename_i hlast
    refine h.congr fun p hp => ?_
    simp [hlast, hp]
  · split
    · rename_i hupper
      exact h.set hupper
    · rename_i hupper
      refine ⟨h.start, fun p hp => ?_⟩
      have hne : p ≠ port := by
        rintro rfl
        exact hupper hp
      rw [h.bits p hp]
      simp [hne]

theorem foldl_mark_marks {start : UInt8} (ports' : List UInt8) {bits : BitVec 32}
    (h : Marks ⟨bits, start⟩ ports) :
    Marks ⟨ports'.foldl (mark start) bits, start⟩ (ports' ++ ports) := by
  induction ports' generalizing bits ports with
  | nil => exact h
  | cons port ports' ih =>
    refine (ih (mark_marks h port)).congr fun p _ => ?_
    simp [or_left_comm]

/-- A range before any socket is looked at. -/
theorem reserved_marks {start : UInt8} (hstart : start.toNat % 32 = 0) :
    Marks ⟨reserved start, start⟩ [] where
  start := hstart
  bits port hupper := by
    have hupper : pupper port = start := hupper
    show (reserved start).getLsbD (plower port) = true ↔ _
    subst hupper
    have h : ∀ port : Fin 256,
        (reserved (pupper (UInt8.ofNat port))).getLsbD (plower (UInt8.ofNat port)) = true ↔
          UInt8.ofNat port = 0 ∨ UInt8.ofNat port = 255 := by decide +kernel
    have h := h ⟨port.toNat, port.toNat_lt⟩
    rw [UInt8.ofNat_toNat] at h
    simpa using h

theorem refill_marks (ports : List UInt8) {start : UInt8} (hstart : start.toNat % 32 = 0) :
    (refill ports start).Marks ports := by
  have h := foldl_mark_marks ports (reserved_marks hstart)
  rw [List.append_nil] at h
  exact h

/-- What an allocation finds: with a port, the bits are exact for the ports and the new one;
without one, they are exact for the ports, and all of the ranges looked at is taken. -/
def Found (ports : List UInt8) (ranges : List UInt8) (res : Option UInt8 × PortCache) : Prop :=
  match res.1 with
  | some port => res.2.Marks (port :: ports)
  | none => res.2.Marks ports ∧
      ∀ port, pupper port ∈ ranges → port ∈ ports ∨ port = 0 ∨ port = 255

/-- The loop skips the range it comes from, which is known to be taken. -/
theorem search_found {oldStart : UInt8} {bases : List UInt8}
    (hbases : ∀ start ∈ bases, start.toNat % 32 = 0) (h : c.Marks ports)
    (hold : ∀ port, pupper port = oldStart → port ∈ ports ∨ port = 0 ∨ port = 255) :
    Found ports bases (search ports oldStart c bases) := by
  induction bases generalizing c with
  | nil => exact ⟨h, fun _ h => absurd h List.not_mem_nil⟩
  | cons start bases ih =>
    have hrest : ∀ start ∈ bases, start.toNat % 32 = 0 := fun s hs =>
      hbases s (List.mem_cons_of_mem _ hs)
    -- the first range is taken, and the rest is as the loop finds it
    have hcons : ∀ {res}, (∀ port, pupper port = start → port ∈ ports ∨ port = 0 ∨ port = 255) →
        Found ports bases res → Found ports (start :: bases) res := by
      rintro ⟨_ | port, c⟩ hfull hres
      · refine ⟨hres.1, fun port hport => ?_⟩
        rcases List.mem_cons.mp hport with hport | hport
        · exact hfull port hport
        · exact hres.2 port hport
      · exact hres
    have hrefill := refill_marks ports (hbases start List.mem_cons_self)
    unfold search
    by_cases heq : start = oldStart
    · rw [if_pos heq]
      exact hcons (heq ▸ hold) (ih hrest h)
    · rw [if_neg heq]
      cases htake : (refill ports start).take with
      | none => exact hcons (fun port => hrefill.take_eq_none htake) (ih hrest hrefill)
      | some res => exact hrefill.take htake

/-- Every port is in one of the ranges. -/
theorem pupper_mem (port : UInt8) :
    pupper port ∈ ([0, 32, 64, 96, 128, 160, 192, 224] : List UInt8) := by
  have h : ∀ port : Fin 256, pupper (UInt8.ofNat port) ∈
      ([0, 32, 64, 96, 128, 160, 192, 224] : List UInt8) := by decide +kernel
  have h := h ⟨port.toNat, port.toNat_lt⟩
  rwa [UInt8.ofNat_toNat] at h

/-- An allocation finds a free port if there is one. -/
theorem allocPort_found (h : c.Tracks ports) :
    Found ports [0, 32, 64, 96, 128, 160, 192, 224] (allocPort ports c) := by
  have hmarks := h.marks
  unfold allocPort
  dsimp only
  generalize c.pcacheBits ||| _ = bits at hmarks ⊢
  cases htake : PortCache.take { c with pcacheBits := bits } with
  | some res => exact hmarks.take htake
  | none => exact search_found (by simp) hmarks fun port => hmarks.take_eq_none htake

/-- There is no port left exactly when all but the reserved ones are in use. -/
theorem allocPort_eq_none (h : c.Tracks ports) (hzero : 0 ∉ ports) :
    (allocPort ports c).1 = none ↔ ∀ port, port ≠ 0 → port ≠ 255 → port ∈ ports := by
  constructor
  · intro hnone port h0 h255
    have hfound := allocPort_found h
    rw [Found, hnone] at hfound
    rcases hfound.2 port (pupper_mem port) with hmem | rfl | rfl
    · exact hmem
    · exact absurd rfl h0
    · exact absurd rfl h255
  · intro hall
    have hspec := allocPort_spec (h.covers hzero)
    cases hres : (allocPort ports c).1 with
    | none => rfl
    | some port =>
      rw [Allocated, hres] at hspec
      obtain ⟨hfree, h0, h255, -⟩ := hspec
      exact absurd (hall port h0 h255) hfree

end PortCache

end Ergot
