import Mathlib.Order.Monotone.Basic

/-!
# Serializer outputs

A serializer hands what it writes to a `Flavor`, piece by piece; the flavor refuses a piece for
which its slice has no room.

- `Slice` puts the pieces one after the other.
- `Coded code tail` keeps the slice as the code of all that was pushed, and ends it with `tail`.
- `Flavor.Spec` says what a flavor holds, and how much more it is sure to take. It is enough to
  tell that a serializer does not fail, without a look at the slice.
-/

/-- Where a serializer puts its elements. -/
class Flavor (φ : Type) (α : outParam Type) where
  tryPush : φ → α → Option φ
  tryExtend : φ → List α → Option φ
  /-- what is in the slice in the end -/
  finalize : φ → Option (List α)

namespace Flavor

variable {φ α : Type} [Flavor φ α]

/-- What a flavor does. -/
structure Spec (φ : Type) {α : Type} [Flavor φ α] where
  pushed : φ → List α
  /-- the length of the slice -/
  size : φ → Nat
  /-- what is in the slice in the end, when this was pushed -/
  output : List α → List α
  /-- so many more elements fit, whichever they are -/
  Room : φ → Nat → Prop
  push_some : ∀ {ser ser' : φ} {a : α}, tryPush ser a = some ser' →
    pushed ser' = pushed ser ++ [a] ∧ size ser' = size ser
  extend_some : ∀ {ser ser' : φ} {as : List α}, tryExtend ser as = some ser' →
    pushed ser' = pushed ser ++ as ∧ size ser' = size ser
  push_room : ∀ {ser : φ} {n : Nat} (a : α), Room ser (n + 1) →
    ∃ ser', tryPush ser a = some ser' ∧ Room ser' n
  extend_room : ∀ {ser : φ} {n : Nat} (as : List α), Room ser (as.length + n) →
    ∃ ser', tryExtend ser as = some ser' ∧ Room ser' n
  finalize_room : ∀ {ser : φ} {n : Nat}, Room ser n →
    finalize ser = some (output (pushed ser)) ∧ (output (pushed ser)).length ≤ size ser

namespace Spec

variable (spec : Spec φ)

/-- What a serializer appended on the way from one state of the flavor to another. -/
def Wrote (ser : φ) (as : List α) (ser' : φ) : Prop :=
  spec.pushed ser' = spec.pushed ser ++ as ∧ spec.size ser' = spec.size ser

variable {spec}

theorem Wrote.refl (ser : φ) : spec.Wrote ser [] ser := ⟨(List.append_nil _).symm, rfl⟩

theorem Wrote.trans {ser ser' ser'' : φ} {as bs : List α} (h : spec.Wrote ser as ser')
    (h' : spec.Wrote ser' bs ser'') : spec.Wrote ser (as ++ bs) ser'' := by
  constructor
  · rw [h'.1, h.1, List.append_assoc]
  · rw [h'.2, h.2]

end Spec

end Flavor

/-! ## A slice -/

/-- A slice of `size` elements, of which the first are written. -/
structure Slice (α : Type) where
  size : Nat
  written : List α
  fits : written.length ≤ size

namespace Slice

variable {α : Type}

def new (size : Nat) : Slice α := ⟨size, [], Nat.zero_le size⟩

def tryExtend (s : Slice α) (as : List α) : Option (Slice α) :=
  if h : as.length ≤ s.size - s.written.length then
    some ⟨s.size, s.written ++ as, by
      have := s.fits
      rw [List.length_append]
      omega⟩
  else none

instance : Flavor (Slice α) α where
  tryPush s a :=
    if h : s.written.length < s.size then
      some ⟨s.size, s.written ++ [a], by rw [List.length_append]; exact h⟩
    else none
  tryExtend := tryExtend
  finalize s := some s.written

/-- A slice takes as much as it has room for. -/
def spec : Flavor.Spec (Slice α) where
  pushed := written
  size := size
  output as := as
  Room s n := s.written.length + n ≤ s.size
  push_some {s s' a} h := by
    dsimp only [Flavor.tryPush] at h
    split at h
    · cases h
      exact ⟨rfl, rfl⟩
    · cases h
  extend_some {s s' as} h := by
    dsimp only [Flavor.tryExtend, tryExtend] at h
    split at h
    · cases h
      exact ⟨rfl, rfl⟩
    · cases h
  push_room {s n} a h := by
    have hroom : s.written.length < s.size := by omega
    refine ⟨_, dif_pos hroom, ?_⟩
    show (s.written ++ [a]).length + n ≤ s.size
    rw [List.length_append, List.length_singleton]
    omega
  extend_room {s n} as h := by
    have hroom : as.length ≤ s.size - s.written.length := by omega
    refine ⟨_, dif_pos hroom, ?_⟩
    show (s.written ++ as).length + n ≤ s.size
    rw [List.length_append]
    omega
  finalize_room {s n} _ := ⟨rfl, s.fits⟩

end Slice

/-! ## A code -/

/-- A slice that holds the code of what was pushed. -/
structure Coded {α : Type} (code : List α → List α) (tail : List α) where
  size : Nat
  pushed : List α
  fits : (code pushed).length ≤ size

namespace Coded

variable {α : Type} {code : List α → List α} {tail : List α}

/-- The code of nothing may already need room. -/
def tryNew (size : Nat) : Option (Coded code tail) :=
  if h : (code []).length ≤ size then some ⟨size, [], h⟩ else none

def tryPush (s : Coded code tail) (a : α) : Option (Coded code tail) :=
  if h : (code (s.pushed ++ [a])).length ≤ s.size then some ⟨s.size, s.pushed ++ [a], h⟩ else none

instance : Flavor (Coded code tail) α where
  tryPush := tryPush
  tryExtend s as := as.foldlM tryPush s
  finalize s :=
    if (code s.pushed).length + tail.length ≤ s.size then some (code s.pushed ++ tail) else none

theorem tryPush_some {s s' : Coded code tail} {a : α} (h : s.tryPush a = some s') :
    s'.pushed = s.pushed ++ [a] ∧ s'.size = s.size := by
  unfold tryPush at h
  split at h
  · cases h
    exact ⟨rfl, rfl⟩
  · cases h

theorem foldlM_tryPush_some {as : List α} {s s' : Coded code tail}
    (h : as.foldlM tryPush s = some s') : s'.pushed = s.pushed ++ as ∧ s'.size = s.size := by
  induction as generalizing s with
  | nil =>
    cases h
    exact ⟨(List.append_nil _).symm, rfl⟩
  | cons a as ih =>
    rw [List.foldlM_cons] at h
    obtain ⟨mid, hmid, hrest⟩ := Option.bind_eq_some_iff.mp h
    obtain ⟨hpushed, hsize⟩ := tryPush_some hmid
    obtain ⟨hpushed', hsize'⟩ := ih hrest
    constructor
    · rw [hpushed', hpushed, List.append_assoc, List.singleton_append]
    · rw [hsize', hsize]

section Bounded

variable {bound : Nat → Nat}

/-- Room for the longest code of so many more elements, and for the tail. -/
def Room (bound : Nat → Nat) (s : Coded code tail) (n : Nat) : Prop :=
  bound (s.pushed.length + n) + tail.length ≤ s.size

theorem tryPush_room (hbound : ∀ as, (code as).length ≤ bound as.length) (hmono : Monotone bound)
    {s : Coded code tail} {n : Nat} (a : α) (h : s.Room bound (n + 1)) :
    ∃ s', s.tryPush a = some s' ∧ s'.Room bound n := by
  have hlen : (s.pushed ++ [a]).length = s.pushed.length + 1 := List.length_append
  have hcode := hbound (s.pushed ++ [a])
  have hle : bound (s.pushed ++ [a]).length ≤ bound (s.pushed.length + (n + 1)) :=
    hmono (by omega)
  have hfits : (code (s.pushed ++ [a])).length ≤ s.size := by
    unfold Room at h
    omega
  refine ⟨_, dif_pos hfits, ?_⟩
  unfold Room at h ⊢
  rwa [hlen, Nat.add_right_comm]

theorem foldlM_tryPush_room (hbound : ∀ as, (code as).length ≤ bound as.length)
    (hmono : Monotone bound) (as : List α) {s : Coded code tail} {n : Nat}
    (h : s.Room bound (as.length + n)) :
    ∃ s', as.foldlM tryPush s = some s' ∧ s'.Room bound n := by
  induction as generalizing s with
  | nil =>
    rw [List.length_nil, Nat.zero_add] at h
    exact ⟨s, rfl, h⟩
  | cons a as ih =>
    rw [List.length_cons, Nat.add_right_comm] at h
    obtain ⟨mid, hmid, hroom⟩ := tryPush_room hbound hmono a h
    obtain ⟨s', hs', hroom'⟩ := ih hroom
    refine ⟨s', ?_, hroom'⟩
    rw [List.foldlM_cons, hmid]
    exact hs'

/-- A code takes as much as its longest code has room for. -/
def spec (hbound : ∀ as, (code as).length ≤ bound as.length) (hmono : Monotone bound) :
    Flavor.Spec (Coded code tail) where
  pushed := pushed
  size := size
  output as := code as ++ tail
  Room := Room bound
  push_some := tryPush_some
  extend_some := foldlM_tryPush_some
  push_room := tryPush_room hbound hmono
  extend_room as := foldlM_tryPush_room hbound hmono as
  finalize_room {s n} h := by
    have hcode := hbound s.pushed
    have hle : bound s.pushed.length ≤ bound (s.pushed.length + n) := hmono (Nat.le_add_right _ n)
    have hfits : (code s.pushed).length + tail.length ≤ s.size := by
      unfold Room at h
      omega
    exact ⟨if_pos hfits, by rwa [List.length_append]⟩

end Bounded

end Coded
