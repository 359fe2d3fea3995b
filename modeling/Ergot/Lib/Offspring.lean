import Mathlib.Algebra.BigOperators.Group.Multiset.Basic
import Mathlib.Algebra.Order.BigOperators.Group.Multiset
import Mathlib.Algebra.Order.Ring.Nat

/-!
# Populations that die out

A multiset that only changes by an element leaving and by its offspring coming in. If an
element has at most `b` offspring, all of a smaller rank, then everything that ever comes of
it is bounded by its rank.

- `Grows P n s t`: `t` is `s` and at most `n` more elements, all of which satisfy `P`.
- `toll b r`: what is charged to an element of rank `r`: its own leaving, the coming in of
  its offspring, and what is charged to them. `toll_offspring` is the charging step.
-/

namespace Offspring

variable {α β : Type}

/-! ## Growth -/

/-- `t` is `s` and at most `n` more elements, all of which satisfy `P`. -/
def Grows (P : α → Prop) (n : ℕ) (s t : Multiset α) : Prop :=
  ∃ new, t = s + new ∧ new.card ≤ n ∧ ∀ a ∈ new, P a

namespace Grows

variable {P Q : α → Prop} {n m : ℕ} {s t u : Multiset α}

theorem refl (P : α → Prop) (n : ℕ) (s : Multiset α) : Grows P n s s :=
  ⟨0, (add_zero s).symm, Nat.zero_le n, fun _ h => absurd h (Multiset.notMem_zero _)⟩

theorem mono (h : Grows P n s t) (hn : n ≤ m) (hPQ : ∀ a, P a → Q a) : Grows Q m s t := by
  obtain ⟨new, rfl, hcard, hP⟩ := h
  exact ⟨new, rfl, hcard.trans hn, fun a ha => hPQ a (hP a ha)⟩

theorem add (h : Grows P n s t) {s' t' : Multiset α} (h' : Grows P m s' t') :
    Grows P (n + m) (s + s') (t + t') := by
  obtain ⟨new, rfl, hcard, hP⟩ := h
  obtain ⟨new', rfl, hcard', hP'⟩ := h'
  refine ⟨new + new', add_add_add_comm _ _ _ _, ?_, ?_⟩
  · rw [Multiset.card_add]
    exact Nat.add_le_add hcard hcard'
  · intro a ha
    rcases Multiset.mem_add.mp ha with ha | ha
    · exact hP a ha
    · exact hP' a ha

/-- The new elements are the difference. -/
theorem sub [DecidableEq α] (h : Grows P n s t) :
    t = s + (t - s) ∧ (t - s).card ≤ n ∧ ∀ a ∈ t - s, P a := by
  obtain ⟨new, rfl, hcard, hP⟩ := h
  rw [add_tsub_cancel_left]
  exact ⟨rfl, hcard, hP⟩

/-- A collection of multisets where each grows by one element at most. -/
theorem sum_map {F : β → Multiset α} {g : β → β} {l : List β}
    (h : ∀ b ∈ l, Grows P 1 (F b) (F (g b))) :
    Grows P l.length (l.map F).sum ((l.map g).map F).sum := by
  induction l with
  | nil => exact refl P 0 0
  | cons b l ih =>
    have hfirst := h b List.mem_cons_self
    have hrest := ih fun c hc => h c (List.mem_cons_of_mem b hc)
    simp only [List.map_cons, List.sum_cons, List.length_cons]
    rw [Nat.add_comm]
    exact hfirst.add hrest

end Grows

/-! ## Charging -/

/-- What is charged to an element of rank `r`: one for its leaving, and for each of its `b`
offspring one for the coming in, and what is charged to it. -/
def toll (b : ℕ) : ℕ → ℕ
  | 0 => 1
  | r + 1 => 1 + b * (1 + toll b r)

theorem toll_mono (b : ℕ) : Monotone (toll b) := by
  refine monotone_nat_of_le_succ fun r => ?_
  induction r with
  | zero => exact Nat.le_add_right 1 _
  | succ r ih => exact Nat.add_le_add_left (Nat.mul_le_mul_left b (Nat.add_le_add_left ih 1)) 1

theorem toll_pos (b r : ℕ) : 0 < toll b r := by
  cases r with
  | zero => exact Nat.one_pos
  | succ r => exact Nat.add_pos_left Nat.one_pos _

/-- What is charged to a population. -/
def charge (b : ℕ) (rank : α → ℕ) (s : Multiset α) : ℕ := (s.map fun a => toll b (rank a)).sum

section Charge

variable {b : ℕ} {rank : α → ℕ}

@[simp] theorem charge_zero : charge b rank 0 = 0 := rfl

@[simp] theorem charge_add (s t : Multiset α) :
    charge b rank (s + t) = charge b rank s + charge b rank t := by
  simp [charge]

@[simp] theorem charge_cons (a : α) (s : Multiset α) :
    charge b rank (a ::ₘ s) = toll b (rank a) + charge b rank s := by
  simp [charge]

theorem charge_le_of_le {s t : Multiset α} (h : s ≤ t) : charge b rank s ≤ charge b rank t := by
  obtain ⟨u, rfl⟩ := Multiset.le_iff_exists_add.mp h
  rw [charge_add]
  exact Nat.le_add_right _ _

theorem charge_le_card {s : Multiset α} {r : ℕ} (h : ∀ a ∈ s, rank a ≤ r) :
    charge b rank s ≤ s.card * toll b r := by
  have hsum : charge b rank s ≤ (s.map fun a => toll b (rank a)).card • toll b r := by
    refine Multiset.sum_le_card_nsmul _ _ fun x hx => ?_
    obtain ⟨a, ha, rfl⟩ := Multiset.mem_map.mp hx
    exact toll_mono b (h a ha)
  rw [Multiset.card_map] at hsum
  exact hsum

/-- An element pays for itself and for its offspring, if they are few and of smaller rank. -/
theorem toll_offspring {s : Multiset α} {r : ℕ} (hcard : s.card ≤ b) (hrank : ∀ a ∈ s, rank a < r) :
    1 + (s.card + charge b rank s) ≤ toll b r := by
  cases r with
  | zero =>
    -- there is nothing of a smaller rank
    have hnone : s = 0 := Multiset.eq_zero_of_forall_notMem fun a ha =>
      absurd (hrank a ha) (Nat.not_lt_zero _)
    subst hnone
    exact Nat.le_refl 1
  | succ r =>
    have hcharge : charge b rank s ≤ s.card * toll b r :=
      charge_le_card fun a ha => Nat.le_of_lt_succ (hrank a ha)
    calc 1 + (s.card + charge b rank s)
        ≤ 1 + (s.card + s.card * toll b r) := by omega
      _ = 1 + s.card * (1 + toll b r) := by rw [Nat.mul_add, Nat.mul_one]
      _ ≤ 1 + b * (1 + toll b r) := Nat.add_le_add_left (Nat.mul_le_mul_right _ hcard) 1

end Charge

end Offspring
