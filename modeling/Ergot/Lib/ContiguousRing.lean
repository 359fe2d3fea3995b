import Mathlib.Data.List.Basic
import Ergot.Lib.Runs

/-!
# Rings of contiguous stretches

A ring buffer that hands out contiguous room: an item lies in one piece, behind the last one or at
the front again, and never around the end. Where a grant begins is up to a `Placement`, which knows
the two offsets and nothing else.

- `ContiguousRing` has the two offsets, and the items with where they lie, oldest first.
- `ContiguousRing.Held` is the invariant: the write offset is where the last item ends, and an
  empty ring has its two offsets in one place.
- `windows_cover_iff`: when an empty ring has room at every place of its offsets.
- `Held.grant_of_empty` is the result, for the rings of any history (`held_run`).
-/

/-- An item in the ring. -/
structure Stretch (α : Type) where
  start : Nat
  len : Nat
  item : α

def Stretch.stop {α : Type} (s : Stretch α) : Nat := s.start + s.len

/-- A ring of `size`, whose items are released from the oldest on. -/
structure ContiguousRing (α : Type) where
  size : Nat
  read : Nat
  write : Nat
  stretches : List (Stretch α)

/-- Where a grant begins, if there is room: by the size, the read and the write offset, and the
length. -/
abbrev Placement := Nat → Nat → Nat → Nat → Option Nat

/-- What a placement is good for while the room is not split by the read offset: it finds room that
there is behind the write offset, and room at the front that leaves the read offset free. -/
structure Placement.Finds (place : Placement) : Prop where
  tail : ∀ {size read write n : Nat}, read ≤ write → write + n ≤ size →
    (place size read write n).isSome
  front : ∀ {size read write n : Nat}, read ≤ write → n < read →
    (place size read write n).isSome

/-- Behind the write offset, or else at the front. With the offsets the other way round, the room
is between them, and the last of it is left free. -/
def Placement.bip : Placement := fun size read write n =>
  if write < read then if write + n < read then some write else none
  else if write + n ≤ size then some write
  else if n < read then some 0
  else none

theorem Placement.bip_finds : Placement.bip.Finds where
  tail {size read write n} hle hroom := by
    unfold Placement.bip
    rw [if_neg (Nat.not_lt.mpr hle), if_pos hroom]
    rfl
  front {size read write n} hle hroom := by
    unfold Placement.bip
    rw [if_neg (Nat.not_lt.mpr hle), if_pos hroom]
    split <;> rfl

/-- Wherever the offsets are, there is room behind them or in front of them, if and only if twice
the room is not more than the ring. -/
theorem windows_cover_iff (size n : Nat) :
    (∀ w, w + n ≤ size ∨ n < w) ↔ 2 * n ≤ size := by
  constructor
  · intro h
    -- the first place where the tail is too short
    have hzero := h 0
    have hlast := h (size - n + 1)
    omega
  · intro h w
    omega

namespace ContiguousRing

variable {α : Type}

def new (size : Nat) : ContiguousRing α := ⟨size, 0, 0, []⟩

/-- The items, oldest first. -/
def items (r : ContiguousRing α) : List α := r.stretches.map Stretch.item

/-- Contiguous room. -/
def grant (place : Placement) (r : ContiguousRing α) (n : Nat) : Option Nat :=
  place r.size r.read r.write n

/-- An item in the room that was granted. -/
def commit (r : ContiguousRing α) (start n : Nat) (item : α) : ContiguousRing α :=
  { r with write := start + n, stretches := r.stretches ++ [⟨start, n, item⟩] }

/-- A grant and a commit of the whole of it, unless there is no room. -/
def push (place : Placement) (r : ContiguousRing α) (n : Nat) (item : α) : ContiguousRing α :=
  match r.grant place n with
  | none => r
  | some start => r.commit start n item

/-- A grant to read: the read offset follows to where the oldest item lies. -/
def peek (r : ContiguousRing α) : ContiguousRing α :=
  match r.stretches with
  | [] => r
  | s :: _ => { r with read := s.start }

/-- The oldest item is released. -/
def release (r : ContiguousRing α) : ContiguousRing α :=
  match r.stretches with
  | [] => r
  | s :: rest => { r with read := s.stop, stretches := rest }

/-- An item goes in behind the others, if there is room. -/
theorem items_push (place : Placement) (r : ContiguousRing α) (n : Nat) (item : α) :
    (r.push place n item).items =
      if (r.grant place n).isSome then r.items ++ [item] else r.items := by
  unfold push
  cases r.grant place n with
  | none => rfl
  | some start => exact List.map_append

@[simp] theorem items_peek (r : ContiguousRing α) : r.peek.items = r.items := by
  unfold peek
  split <;> rfl

/-- Items come out at the front. -/
@[simp] theorem items_release (r : ContiguousRing α) : r.release.items = r.items.tail := by
  unfold release
  split
  · next hnil => simp [items, hnil]
  · next s rest hs => simp [items, hs]

/-- What is done to a ring. -/
inductive Act (α : Type)
  | push (n : Nat) (item : α)
  | peek
  | release

def act (place : Placement) (r : ContiguousRing α) : Act α → ContiguousRing α
  | .push n item => r.push place n item
  | .peek => r.peek
  | .release => r.release

/-- The offsets belong to the items. -/
def Held (r : ContiguousRing α) : Prop :=
  r.write = (r.stretches.getLast?.map Stretch.stop).getD r.read

theorem held_iff_of_cons {r : ContiguousRing α} {s : Stretch α} {rest : List (Stretch α)}
    (h : r.stretches = s :: rest) : r.Held ↔ r.write = (rest.getLast?.getD s).stop := by
  unfold Held
  rw [h, List.getLast?_cons, Option.map_some, Option.getD_some]

theorem held_new (size : Nat) : (new size : ContiguousRing α).Held := rfl

theorem Held.commit {r : ContiguousRing α} (start n : Nat) (item : α) :
    (r.commit start n item).Held := by
  unfold Held ContiguousRing.commit
  simp [Stretch.stop]

theorem Held.push {r : ContiguousRing α} (h : r.Held) (place : Placement) (n : Nat) (item : α) :
    (r.push place n item).Held := by
  unfold ContiguousRing.push
  cases r.grant place n with
  | none => exact h
  | some start => exact .commit start n item

theorem Held.peek {r : ContiguousRing α} (h : r.Held) : r.peek.Held := by
  unfold ContiguousRing.peek
  split
  · exact h
  · next s rest hs =>
    have hwrite := (held_iff_of_cons hs).mp h
    exact (held_iff_of_cons (r := { r with read := s.start }) hs).mpr hwrite

theorem Held.release {r : ContiguousRing α} (h : r.Held) : r.release.Held := by
  unfold ContiguousRing.release
  split
  · exact h
  · next s rest hs =>
    have hwrite := (held_iff_of_cons hs).mp h
    cases rest with
    | nil => exact hwrite
    | cons s' rest =>
      rw [List.getLast?_cons, Option.getD_some] at hwrite
      exact (held_iff_of_cons rfl).mpr hwrite

theorem Held.act {r : ContiguousRing α} (h : r.Held) (place : Placement) (a : Act α) :
    (r.act place a).Held := by
  cases a with
  | push n item => exact h.push place n item
  | peek => exact h.peek
  | release => exact h.release

@[simp] theorem size_push (place : Placement) (r : ContiguousRing α) (n : Nat) (item : α) :
    (r.push place n item).size = r.size := by
  unfold push
  split <;> rfl

@[simp] theorem size_peek (r : ContiguousRing α) : r.peek.size = r.size := by
  unfold peek
  split <;> rfl

@[simp] theorem size_release (r : ContiguousRing α) : r.release.size = r.size := by
  unfold release
  split <;> rfl

theorem size_act (place : Placement) (r : ContiguousRing α) (a : Act α) :
    (r.act place a).size = r.size := by
  cases a with
  | push n item => exact r.size_push place n item
  | peek => exact r.size_peek
  | release => exact r.size_release

/-- A ring after some history. -/
theorem held_run (place : Placement) (size : Nat) (acts : List (Act α)) :
    (Runs.runAll (act place) (new size) acts).Held ∧
      (Runs.runAll (act place) (new size) acts).size = size :=
  Runs.runAll_inv (I := fun r : ContiguousRing α => r.Held ∧ r.size = size)
    (fun r a h => ⟨h.1.act place a, (r.size_act place a).trans h.2⟩) ⟨held_new size, rfl⟩ acts

/-- An empty ring has room for as much as half of it, wherever its offsets are. -/
theorem Held.grant_of_empty {r : ContiguousRing α} (h : r.Held) {place : Placement}
    (hfinds : place.Finds) (hempty : r.items = []) {n : Nat} (hn : 2 * n ≤ r.size) :
    (r.grant place n).isSome := by
  have hnil : r.stretches = [] := List.map_eq_nil_iff.mp hempty
  have hoffsets : r.write = r.read := by
    unfold Held at h
    rwa [hnil] at h
  rcases (windows_cover_iff r.size n).mpr hn r.write with htail | hfront
  · exact hfinds.tail (Nat.le_of_eq hoffsets.symm) htail
  · exact hfinds.front (Nat.le_of_eq hoffsets.symm) (hoffsets ▸ hfront)

end ContiguousRing
