import Mathlib.Logic.Relation

/-!
# Forests, and the way from one node to another

A forest is given by its parent function. Nothing is said about the number of roots:
nodes that are linked are in one tree.

- `Below v w`: `w` is in the subtree of `v`, or is `v`.
- `Walk v w k` is any way from `v` to `w` over `k` links.
- `Path v w k` is the way that a node can choose by its own subtree: down to the child
  that has `w` below it, and up if no child has. It is no longer than any walk
  (`Walk.path`).
-/

namespace Ergot

structure Forest (ι : Type) where
  parent : ι → Option ι
  depth : ι → Nat
  depth_parent : ∀ {v p}, parent v = some p → depth v = depth p + 1

namespace Forest

variable {ι : Type} {T : Forest ι} {v w u c c' p : ι} {k : Nat}

/-! ## Subtrees -/

/-- `w` is in the subtree of `v`. -/
def Below (T : Forest ι) (v w : ι) : Prop :=
  Relation.ReflTransGen (fun u w => T.parent w = some u) v w

theorem Below.refl (v : ι) : T.Below v v := Relation.ReflTransGen.refl

theorem Below.tail (h : T.Below v u) (hp : T.parent w = some u) : T.Below v w :=
  Relation.ReflTransGen.tail h hp

theorem Below.head (hp : T.parent c = some v) (h : T.Below c w) : T.Below v w :=
  Relation.ReflTransGen.head hp h

theorem Below.depth_le (h : T.Below v w) : T.depth v ≤ T.depth w := by
  induction h with
  | refl => exact Nat.le_refl _
  | tail _ hp ih =>
    have := T.depth_parent hp
    omega

/-- A subtree does not contain the parent. -/
theorem not_below_parent (hp : T.parent c = some v) : ¬ T.Below c v := by
  intro h
  have := h.depth_le
  have := T.depth_parent hp
  omega

/-- A node below another, and not itself, has its parent below it too. -/
theorem Below.parent (h : T.Below v w) (hne : w ≠ v) :
    ∃ u, T.parent w = some u ∧ T.Below v u := by
  rcases Relation.ReflTransGen.cases_tail h with heq | ⟨u, hu, hp⟩
  · exact absurd heq hne
  · exact ⟨u, hp, hu⟩

theorem Below.of_parent (h : T.Below v w) (hne : w ≠ v) (hp : T.parent w = some u) :
    T.Below v u := by
  obtain ⟨u', hp', hu⟩ := h.parent hne
  rw [hp] at hp'
  cases hp'
  exact hu

/-- A node below another, and not itself, is below one of its children. -/
theorem Below.child (h : T.Below v w) (hne : w ≠ v) :
    ∃ c, T.parent c = some v ∧ T.Below c w := by
  rcases Relation.ReflTransGen.cases_head h with heq | ⟨c, hc, hcw⟩
  · exact absurd heq.symm hne
  · exact ⟨c, hc, hcw⟩

/-- Two children have disjoint subtrees. -/
theorem Below.child_unique (hc : T.parent c = some v) (hc' : T.parent c' = some v)
    (h : T.Below c w) (h' : T.Below c' w) : c = c' := by
  induction h with
  | refl =>
    by_cases heq : c = c'
    · exact heq
    · exact absurd (h'.of_parent heq hc) (not_below_parent hc')
  | @tail u w hu hp ih =>
    by_cases hne : w = c'
    · subst hne
      rw [hc'] at hp
      cases hp
      exact absurd hu (not_below_parent hc)
    · exact ih (h'.of_parent hne hp)

/-! ## Walks and paths -/

inductive Walk (T : Forest ι) : ι → ι → Nat → Prop
  | nil (v : ι) : Walk T v v 0
  | up {v p w : ι} {k : Nat} : T.parent v = some p → Walk T p w k → Walk T v w (k + 1)
  | down {v c w : ι} {k : Nat} : T.parent c = some v → Walk T c w k → Walk T v w (k + 1)

inductive Path (T : Forest ι) : ι → ι → Nat → Prop
  | nil (v : ι) : Path T v v 0
  | up {v p w : ι} {k : Nat} :
      T.parent v = some p → ¬ T.Below v w → Path T p w k → Path T v w (k + 1)
  | down {v c w : ι} {k : Nat} :
      T.parent c = some v → T.Below c w → Path T c w k → Path T v w (k + 1)

/-- No walk is shorter than the path. -/
theorem Walk.path (h : T.Walk v w k) : ∃ k', k' ≤ k ∧ T.Path v w k' := by
  induction h with
  | nil v => exact ⟨0, Nat.le_refl _, .nil v⟩
  | @up v p w k hp _ ih =>
    obtain ⟨k', hle, hpath⟩ := ih
    by_cases hbelow : T.Below v w
    · -- the path comes back down to `v`
      cases hpath with
      | nil => exact absurd hbelow (not_below_parent hp)
      | up _ hnot _ => exact absurd (Below.head hp hbelow) hnot
      | down hc hcw hrest =>
        cases Below.child_unique hp hc hbelow hcw
        exact ⟨_, by omega, hrest⟩
    · exact ⟨k' + 1, by omega, .up hp hbelow hpath⟩
  | @down v c w k hc _ ih =>
    obtain ⟨k', hle, hpath⟩ := ih
    by_cases hbelow : T.Below c w
    · exact ⟨k' + 1, by omega, .down hc hbelow hpath⟩
    · -- the path goes back up to `v`
      cases hpath with
      | nil => exact absurd (Below.refl _) hbelow
      | up hp _ hrest =>
        rw [hc] at hp
        cases hp
        exact ⟨_, by omega, hrest⟩
      | down hc' hcw _ => exact absurd (Below.head hc' hcw) hbelow

theorem Path.walk (h : T.Path v w k) : T.Walk v w k := by
  induction h with
  | nil v => exact .nil v
  | up hp _ _ ih => exact .up hp ih
  | down hc _ _ ih => exact .down hc ih

/-- There is one path. -/
theorem Path.unique {k' : Nat} (h : T.Path v w k) (h' : T.Path v w k') : k = k' := by
  induction h generalizing k' with
  | nil v =>
    cases h' with
    | nil => rfl
    | up _ hnot _ => exact absurd (Below.refl v) hnot
    | down hc hcv _ => exact absurd hcv (not_below_parent hc)
  | up hp hnot _ ih =>
    cases h' with
    | nil => exact absurd (Below.refl _) hnot
    | up hp' _ hrest =>
      rw [hp] at hp'
      cases hp'
      rw [ih hrest]
    | down hc hcw _ => exact absurd (Below.head hc hcw) hnot
  | down hc hcw _ ih =>
    cases h' with
    | nil => exact absurd hcw (not_below_parent hc)
    | up _ hnot _ => exact absurd (Below.head hc hcw) hnot
    | down hc' hcw' hrest =>
      cases Below.child_unique hc hc' hcw hcw'
      rw [ih hrest]

theorem Walk.snoc_up (h : T.Walk v w k) (hp : T.parent w = some u) : T.Walk v u (k + 1) := by
  induction h with
  | nil v => exact .up hp (.nil u)
  | up hv _ ih => exact .up hv (ih hp)
  | down hc _ ih => exact .down hc (ih hp)

theorem Walk.snoc_down (h : T.Walk v w k) (hc : T.parent u = some w) : T.Walk v u (k + 1) := by
  induction h with
  | nil v => exact .down hc (.nil u)
  | up hv _ ih => exact .up hv (ih hc)
  | down hc' _ ih => exact .down hc' (ih hc)

theorem Walk.symm (h : T.Walk v w k) : T.Walk w v k := by
  induction h with
  | nil v => exact .nil v
  | up hp _ ih => exact ih.snoc_down hp
  | down hc _ ih => exact ih.snoc_up hc

end Forest

end Ergot
