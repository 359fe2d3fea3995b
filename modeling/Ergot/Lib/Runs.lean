import Mathlib.Algebra.Ring.Nat

/-!
# Runs of a deterministic system

A system is a function `step : State → Act → State`; a run is a list of actions.

- `runAll` is the state a run ends in.
- `Happens P s acts`: some action of the run satisfies `P` in the state it is
  taken in.
- `Always P s acts`: every action of the run does. `Always_iff` compares two such
  properties where one keeps an invariant.
- `Throughout I s acts`: every state of the run satisfies `I`.
- `runAll_inv` and `runAll_unless` are the two induction rules: an invariant of
  every step holds at the end, and an invariant of every step that is not a `P`
  holds at the end of a run where no `P` happens.
- `runAll_sim`: a relation between two systems that every action keeps.
- `attemptAll_inv`: an invariant of every step of a system whose steps may fail.
- `total cost s acts`: what the actions of the run cost together. `total_le` bounds it by a
  potential.
- `Timed span t acts`: the time spans of the actions follow one another from `t`.
- `Settles step P s`: every run of a relation `step` from `s` ends, in a state where `P`
  holds.
-/

namespace Runs

variable {State Act : Type} (step : State → Act → State)

/-- The state after a run. -/
def runAll : State → List Act → State
  | s, [] => s
  | s, a :: acts => runAll (step s a) acts

/-- Some action of the run satisfies `P` in the state it is taken in. -/
def Happens (P : State → Act → Prop) : State → List Act → Prop
  | _, [] => False
  | s, a :: acts => P s a ∨ Happens P (step s a) acts

instance Happens.decidable {P : State → Act → Prop} [∀ s a, Decidable (P s a)] :
    ∀ s acts, Decidable (Happens step P s acts)
  | _, [] => inferInstanceAs (Decidable False)
  | s, a :: acts =>
    have := Happens.decidable (P := P) (step s a) acts
    inferInstanceAs (Decidable (P s a ∨ Happens step P (step s a) acts))

/-- Every action of the run satisfies `P` in the state it is taken in. -/
def Always (P : State → Act → Prop) : State → List Act → Prop
  | _, [] => True
  | s, a :: acts => P s a ∧ Always P (step s a) acts

instance Always.decidable {P : State → Act → Prop} [∀ s a, Decidable (P s a)] :
    ∀ s acts, Decidable (Always step P s acts)
  | _, [] => inferInstanceAs (Decidable True)
  | s, a :: acts =>
    have := Always.decidable (P := P) (step s a) acts
    inferInstanceAs (Decidable (P s a ∧ Always step P (step s a) acts))

/-- Every state of the run satisfies `I`, the first and the last included. -/
def Throughout (I : State → Prop) : State → List Act → Prop
  | s, [] => I s
  | s, a :: acts => I s ∧ Throughout I (step s a) acts

/-- What the actions of a run cost, each in the state it is taken in. -/
def total (cost : State → Act → ℕ) : State → List Act → ℕ
  | _, [] => 0
  | s, a :: acts => cost s a + total cost (step s a) acts

variable {step}

@[simp] theorem runAll_nil (s : State) : runAll step s [] = s := rfl

@[simp] theorem runAll_cons (s : State) (a : Act) (acts : List Act) :
    runAll step s (a :: acts) = runAll step (step s a) acts := rfl

theorem runAll_append (s : State) (acts acts' : List Act) :
    runAll step s (acts ++ acts') = runAll step (runAll step s acts) acts' := by
  induction acts generalizing s with
  | nil => rfl
  | cons a acts ih => exact ih (step s a)

theorem Happens_append {P : State → Act → Prop} {s : State} {acts acts' : List Act} :
    Happens step P s (acts ++ acts') ↔
      Happens step P s acts ∨ Happens step P (runAll step s acts) acts' := by
  induction acts generalizing s with
  | nil =>
    constructor
    · exact .inr
    · rintro (h | h)
      · exact h.elim
      · exact h
  | cons a acts ih =>
    constructor
    · rintro (h | h)
      · exact .inl (.inl h)
      · exact (ih.mp h).imp_left .inr
    · rintro ((h | h) | h)
      · exact .inl h
      · exact .inr (ih.mpr (.inl h))
      · exact .inr (ih.mpr (.inr h))

/-- An invariant of every step is an invariant of every run. -/
theorem runAll_inv {I : State → Prop} (hstep : ∀ s a, I s → I (step s a)) {s : State}
    (h : I s) (acts : List Act) : I (runAll step s acts) := by
  induction acts generalizing s with
  | nil => exact h
  | cons a acts ih => exact ih (hstep s a h)

/-- Two systems that take related states to related states by every action. -/
theorem runAll_sim {State' : Type} {step' : State' → Act → State'} {R : State → State' → Prop}
    (hstep : ∀ s s' a, R s s' → R (step s a) (step' s' a)) {s : State} {s' : State'} (h : R s s')
    (acts : List Act) : R (runAll step s acts) (runAll step' s' acts) := by
  induction acts generalizing s s' with
  | nil => exact h
  | cons a acts ih => exact ih (hstep s s' a h)

/-- `runAll_sim` on a run of actions that satisfy `G`. -/
theorem runAll_sim_of_forall {State' : Type} {step' : State' → Act → State'}
    {R : State → State' → Prop} {G : Act → Prop}
    (hstep : ∀ s s' a, G a → R s s' → R (step s a) (step' s' a)) {s : State} {s' : State'}
    (h : R s s') {acts : List Act} (hacts : ∀ a ∈ acts, G a) :
    R (runAll step s acts) (runAll step' s' acts) := by
  induction acts generalizing s s' with
  | nil => exact h
  | cons a acts ih =>
    have hfirst := hstep s s' a (hacts a List.mem_cons_self) h
    exact ih hfirst fun b hb => hacts b (List.mem_cons_of_mem _ hb)

/-- An invariant of the steps that satisfy `G`, on a run of such steps. -/
theorem runAll_inv_of_forall {I : State → Prop} {G : Act → Prop}
    (hstep : ∀ s a, G a → I s → I (step s a)) {s : State} (h : I s) {acts : List Act}
    (hacts : ∀ a ∈ acts, G a) : I (runAll step s acts) := by
  induction acts generalizing s with
  | nil => exact h
  | cons a acts ih =>
    have hfirst := hstep s a (hacts a List.mem_cons_self) h
    exact ih hfirst fun b hb => hacts b (List.mem_cons_of_mem _ hb)

/-- An invariant of the steps that are taken where `P` allows them, on a run of such steps. -/
theorem runAll_inv_of_always {I : State → Prop} {P : State → Act → Prop}
    (hstep : ∀ s a, P s a → I s → I (step s a)) {s : State} (h : I s) {acts : List Act}
    (hacts : Always step P s acts) : I (runAll step s acts) := by
  induction acts generalizing s with
  | nil => exact h
  | cons a acts ih => exact ih (hstep s a hacts.1 h) hacts.2

/-- An invariant of every step of a system whose steps may fail. -/
theorem attemptAll_inv {attempt : State → Act → Option State} {I : State → Prop}
    (hstep : ∀ s a s', I s → attempt s a = some s' → I s') {s s' : State} (h : I s)
    {acts : List Act} (hrun : acts.foldlM attempt s = some s') : I s' := by
  induction acts generalizing s with
  | nil =>
    cases hrun
    exact h
  | cons a acts ih =>
    rw [List.foldlM_cons] at hrun
    obtain ⟨mid, hmid, hrest⟩ := Option.bind_eq_some_iff.mp hrun
    exact ih (hstep s a mid h hmid) hrest

/-- What every step but the `P`s preserves is there at the end, unless a `P`
happens. -/
theorem runAll_unless {I : State → Prop} {P : State → Act → Prop}
    (hstep : ∀ s a, I s → ¬ P s a → I (step s a)) {s : State} (h : I s) {acts : List Act}
    (hno : ¬ Happens step P s acts) : I (runAll step s acts) := by
  induction acts generalizing s with
  | nil => exact h
  | cons a acts ih =>
    have ha : ¬ P s a := fun hP => hno (.inl hP)
    have hrest : ¬ Happens step P (step s a) acts := fun hP => hno (.inr hP)
    exact ih (hstep s a h ha) hrest

/-- Two properties that agree wherever an invariant holds, on a run along which one of
them keeps the invariant. -/
theorem Always_iff {I : State → Prop} {P Q : State → Act → Prop}
    (hiff : ∀ s a, I s → (P s a ↔ Q s a)) (hstep : ∀ s a, I s → Q s a → I (step s a))
    {s : State} (h : I s) (acts : List Act) :
    Always step P s acts ↔ Always step Q s acts := by
  induction acts generalizing s with
  | nil => exact Iff.rfl
  | cons a acts ih =>
    constructor
    · rintro ⟨hP, hrest⟩
      have hQ := (hiff s a h).mp hP
      exact ⟨hQ, (ih (hstep s a h hQ)).mp hrest⟩
    · rintro ⟨hQ, hrest⟩
      exact ⟨(hiff s a h).mpr hQ, (ih (hstep s a h hQ)).mpr hrest⟩

/-- A property that follows from another wherever an invariant holds, on a run along which the
other one keeps the invariant. -/
theorem Always.mono_of_inv {I : State → Prop} {P Q : State → Act → Prop}
    (hP : ∀ s a, I s → Q s a → P s a) (hstep : ∀ s a, I s → Q s a → I (step s a))
    {s : State} (h : I s) {acts : List Act} (hQ : Always step Q s acts) : Always step P s acts := by
  induction acts generalizing s with
  | nil => trivial
  | cons a acts ih =>
    obtain ⟨ha, hrest⟩ := hQ
    exact ⟨hP s a h ha, ih (hstep s a h ha) hrest⟩

/-- `Always_iff` on a run of actions that satisfy `G`. -/
theorem Always_iff_of_forall {I : State → Prop} {G : Act → Prop} {P Q : State → Act → Prop}
    (hiff : ∀ s a, G a → I s → (P s a ↔ Q s a)) (hstep : ∀ s a, G a → I s → Q s a → I (step s a))
    {s : State} (h : I s) {acts : List Act} (hacts : ∀ a ∈ acts, G a) :
    Always step P s acts ↔ Always step Q s acts := by
  induction acts generalizing s with
  | nil => exact Iff.rfl
  | cons a acts ih =>
    have ha := hacts a List.mem_cons_self
    have hrest : ∀ b ∈ acts, G b := fun b hb => hacts b (List.mem_cons_of_mem _ hb)
    constructor
    · rintro ⟨hP, hacts⟩
      have hQ := (hiff s a ha h).mp hP
      exact ⟨hQ, (ih (hstep s a ha h hQ) hrest).mp hacts⟩
    · rintro ⟨hQ, hacts⟩
      exact ⟨(hiff s a ha h).mpr hQ, (ih (hstep s a ha h hQ) hrest).mpr hacts⟩

/-- What every state that satisfies an invariant satisfies. -/
theorem Always_of_inv {I : State → Prop} {P : State → Act → Prop} (hP : ∀ s a, I s → P s a)
    (hstep : ∀ s a, I s → I (step s a)) {s : State} (h : I s) (acts : List Act) :
    Always step P s acts := by
  induction acts generalizing s with
  | nil => trivial
  | cons a acts ih => exact ⟨hP s a h, ih (hstep s a h)⟩

/-- A run costs no more than the potential it starts with and what its actions add to it. -/
theorem total_le {cost : State → Act → ℕ} {pot : State → ℕ} {gain : Act → ℕ}
    (hstep : ∀ s a, cost s a + pot (step s a) ≤ pot s + gain a) (s : State) (acts : List Act) :
    total step cost s acts ≤ pot s + (acts.map gain).sum := by
  induction acts generalizing s with
  | nil => exact Nat.zero_le _
  | cons a acts ih =>
    have hfirst := hstep s a
    have hrest := ih (step s a)
    rw [List.map_cons, List.sum_cons, total]
    omega

theorem Throughout.first {I : State → Prop} {s : State} {acts : List Act}
    (h : Throughout step I s acts) : I s := by
  cases acts with
  | nil => exact h
  | cons a acts => exact h.1

theorem Throughout.last {I : State → Prop} {s : State} {acts : List Act}
    (h : Throughout step I s acts) : I (runAll step s acts) := by
  induction acts generalizing s with
  | nil => exact h
  | cons a acts ih => exact ih h.2

/-- A run goes on by one action. -/
theorem Throughout.snoc {I : State → Prop} {s : State} {acts : List Act} {a : Act}
    (h : Throughout step I s acts) (hlast : I (step (runAll step s acts) a)) :
    Throughout step I s (acts ++ [a]) := by
  induction acts generalizing s with
  | nil => exact ⟨h, hlast⟩
  | cons b acts ih => exact ⟨h.1, ih h.2 hlast⟩

/-! ## Time -/

/-- The spans `(start, stop)` of the actions follow one another, from `t` on. -/
def Timed (span : Act → ℕ × ℕ) : ℕ → List Act → Prop
  | _, [] => True
  | t, a :: acts => t ≤ (span a).1 ∧ (span a).1 ≤ (span a).2 ∧ Timed span (span a).2 acts

/-- When the last action of a run has stopped. -/
def endTime (span : Act → ℕ × ℕ) : ℕ → List Act → ℕ
  | t, [] => t
  | _, a :: acts => endTime span (span a).2 acts

variable {span : Act → ℕ × ℕ}

theorem Timed_append {t : ℕ} {acts acts' : List Act} :
    Timed span t (acts ++ acts') ↔
      Timed span t acts ∧ Timed span (endTime span t acts) acts' := by
  induction acts generalizing t with
  | nil => simp [Timed, endTime]
  | cons a acts ih => simp [Timed, endTime, ih, and_assoc]

theorem endTime_append {t : ℕ} {acts acts' : List Act} :
    endTime span t (acts ++ acts') = endTime span (endTime span t acts) acts' := by
  induction acts generalizing t with
  | nil => rfl
  | cons a acts ih => exact ih

/-- Time does not run backwards. -/
theorem Timed.le_endTime {t : ℕ} {acts : List Act} (h : Timed span t acts) :
    t ≤ endTime span t acts := by
  induction acts generalizing t with
  | nil => exact Nat.le_refl t
  | cons a acts ih =>
    obtain ⟨h1, h2, h3⟩ := h
    exact Nat.le_trans (Nat.le_trans h1 h2) (ih h3)

/-- Every action of the run starts after the run does. -/
theorem Timed.le_of_mem {t : ℕ} {acts : List Act} (h : Timed span t acts) {a : Act}
    (ha : a ∈ acts) : t ≤ (span a).1 := by
  induction acts generalizing t with
  | nil => exact absurd ha List.not_mem_nil
  | cons b acts ih =>
    obtain ⟨h1, h2, h3⟩ := h
    rcases List.mem_cons.mp ha with rfl | ha
    · exact h1
    · exact Nat.le_trans (Nat.le_trans h1 h2) (ih h3 ha)

/-! ## Runs that end -/

/-- However the system goes on from a state, it stops in a state that satisfies `P`. -/
inductive Settles (step : State → State → Prop) (P : State → Prop) : State → Prop
  | rest {s : State} (hrest : ∀ s', ¬ step s s') (h : P s) : Settles step P s
  | go {s s' : State} (hstep : step s s') (h : ∀ s', step s s' → Settles step P s') :
      Settles step P s

/-- A system with an invariant, where every step takes a measure down. -/
theorem Settles.of_measure {step : State → State → Prop} {I P : State → Prop} (μ : State → ℕ)
    (hstep : ∀ s s', I s → step s s' → I s' ∧ μ s' < μ s)
    (hrest : ∀ s, I s → (∀ s', ¬ step s s') → P s) {s : State} (h : I s) : Settles step P s := by
  induction hμ : μ s using Nat.strongRecOn generalizing s with
  | _ n ih =>
    by_cases hgoes : ∃ s', step s s'
    · obtain ⟨s', hs'⟩ := hgoes
      refine .go hs' fun s'' hs'' => ?_
      obtain ⟨hI, hless⟩ := hstep s s'' h hs''
      exact ih (μ s'') (hμ ▸ hless) hI rfl
    · exact .rest (fun s' hs' => hgoes ⟨s', hs'⟩) (hrest s h fun s' hs' => hgoes ⟨s', hs'⟩)

theorem Settles.mono {step : State → State → Prop} {P Q : State → Prop} {s : State}
    (h : Settles step P s) (hPQ : ∀ s, P s → Q s) : Settles step Q s := by
  induction h with
  | rest hrest h => exact .rest hrest (hPQ _ h)
  | go hstep _ ih => exact .go hstep ih

end Runs
