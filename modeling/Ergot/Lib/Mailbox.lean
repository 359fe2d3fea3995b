import Mathlib.Data.Nat.Notation

/-!
# A mailbox with one waker

A bounded queue that tasks wait at. A task that finds nothing leaves its waker and goes to sleep;
what is put into the mailbox wakes the task whose waker is there. There is room for one waker: a
second task that goes to sleep wakes the first.

- `Storage` is the queue, with the list that it stands for.
- `Mailbox.put` and `Mailbox.receive` are the operations. A receiver may discard what it does not
  look for.
- `Station` is a mailbox with the tasks that sleep at it, and with what was put in, taken out and
  given to a receiver.
- `Station.Inv` is the invariant: no task sleeps at a mailbox with something in it, and everything
  comes out once, in order.

A task is a number. All of its wakers wake it.
-/

/-- A queue with a bound. `push` gives nothing when it is full. -/
class Storage (S : Type) (T : outParam Type) where
  isFull : S → Bool
  push : S → T → Option S
  tryPop : S → Option (T × S)
  /-- what is in it, the oldest first -/
  contents : S → List T
  capacity : S → ℕ
  isFull_iff : ∀ s, isFull s = true ↔ capacity s ≤ (contents s).length
  push_spec : ∀ s t, (isFull s = true ∧ push s t = none) ∨
    ∃ s', isFull s = false ∧ push s t = some s' ∧ contents s' = contents s ++ [t] ∧
      capacity s' = capacity s
  tryPop_spec : ∀ s, (contents s = [] ∧ tryPop s = none) ∨
    ∃ t s', tryPop s = some (t, s') ∧ contents s = t :: contents s' ∧ capacity s' = capacity s

namespace Storage

variable {S S' T : Type} [Storage S T] {contents' : S' → List T} {capacity' : S' → ℕ}

/-- `push`, when the queue is one of several kinds. -/
theorem push_spec_map (f : S → S') (hcontents : ∀ s, contents' (f s) = contents s)
    (hcapacity : ∀ s, capacity' (f s) = capacity s) (s : S) (t : T) :
    (isFull s = true ∧ (push s t).map f = none) ∨
      ∃ s', isFull s = false ∧ (push s t).map f = some s' ∧ contents' s' = contents s ++ [t] ∧
        capacity' s' = capacity s := by
  rcases push_spec s t with ⟨hfull, hpush⟩ | ⟨s', hroom, hpush, hafter, hsame⟩
  · exact .inl ⟨hfull, by rw [hpush]; rfl⟩
  · exact .inr ⟨f s', hroom, by rw [hpush]; rfl, (hcontents s').trans hafter,
      (hcapacity s').trans hsame⟩

/-- `tryPop`, when the queue is one of several kinds. -/
theorem tryPop_spec_map (f : S → S') (hcontents : ∀ s, contents' (f s) = contents s)
    (hcapacity : ∀ s, capacity' (f s) = capacity s) (s : S) :
    (contents s = [] ∧ (tryPop s).map (Prod.map id f) = none) ∨
      ∃ t s', (tryPop s).map (Prod.map id f) = some (t, s') ∧ contents s = t :: contents' s' ∧
        capacity' s' = capacity s := by
  rcases tryPop_spec s with ⟨hnil, hpop⟩ | ⟨t, s', hpop, hbefore, hsame⟩
  · exact .inl ⟨hnil, by rw [hpop]; rfl⟩
  · refine .inr ⟨t, f s', by rw [hpop]; rfl, ?_, (hcapacity s').trans hsame⟩
    rw [hbefore, hcontents]

end Storage

/-- A queue and the waker of the task that waits for it. -/
structure Mailbox (S : Type) where
  wait : Option ℕ
  sto : S

/-- What a receiver finds, what it discards before that, and whom it wakes. -/
structure Receipt (S T : Type) where
  discarded : List T
  result : Option T
  woken : Option ℕ
  box : Mailbox S

namespace Mailbox

variable {S T : Type} [Storage S T]

/-- What is in the mailbox. -/
def contents (b : Mailbox S) : List T := Storage.contents b.sto

/-- Put something in, and wake who waits: whether there was room, and whom to wake. -/
def put (b : Mailbox S) (t : T) : Bool × Option ℕ × Mailbox S :=
  match Storage.push b.sto t with
  | some sto => (true, b.wait, ⟨none, sto⟩)
  | none => (false, none, b)

/-- Find nothing. A task waits, and another one that waited is woken. -/
def pend (b : Mailbox S) : Option ℕ → Option ℕ × Mailbox S
  | some task => (b.wait.filter (· ≠ task), { b with wait := some task })
  | none => (none, b)

theorem contents_tryPop {b : Mailbox S} {t : T} {sto : S}
    (h : Storage.tryPop b.sto = some (t, sto)) :
    b.contents = t :: Storage.contents sto ∧ Storage.capacity sto = Storage.capacity b.sto := by
  rcases Storage.tryPop_spec b.sto with ⟨-, hnone⟩ | ⟨t', s', hsome, hspec⟩
  · rw [hnone] at h
    cases h
  · rw [hsome] at h
    cases h
    exact hspec

/-- Take what is there until something satisfies `p`. A task waits if nothing does; without one,
this is `try_recv`. -/
def receive (p : T → Bool) (task : Option ℕ) (b : Mailbox S) : Receipt S T :=
  match _h : Storage.tryPop b.sto with
  | some (t, sto) =>
    if p t then ⟨[], some t, none, { b with sto }⟩
    else
      let rest := receive p task { b with sto }
      { rest with discarded := t :: rest.discarded }
  | none => ⟨[], none, (b.pend task).1, (b.pend task).2⟩
termination_by b.contents.length
decreasing_by
  rw [(contents_tryPop _h).1, List.length_cons]
  exact Nat.lt_succ_self _

/-- What a receiver leaves behind. -/
structure Received (p : T → Bool) (task : Option ℕ) (b : Mailbox S) (res : Receipt S T) : Prop where
  contents : b.contents = res.discarded ++ res.result.toList ++ res.box.contents
  capacity : Storage.capacity res.box.sto = Storage.capacity b.sto
  discarded : ∀ t ∈ res.discarded, p t = false
  found : ∀ t ∈ res.result, p t = true ∧ res.woken = none ∧ res.box.wait = b.wait
  pending : res.result = none →
    res.box.contents = [] ∧ res.woken = (b.pend task).1 ∧ res.box.wait = (b.pend task).2.wait

theorem receive_spec (p : T → Bool) (task : Option ℕ) (b : Mailbox S) :
    Received p task b (b.receive p task) := by
  induction hlen : b.contents.length using Nat.strongRecOn generalizing b with
  | _ len ih =>
    rw [receive]
    split
    · next t sto hpop =>
      obtain ⟨hcontents, hcapacity⟩ := contents_tryPop hpop
      split
      · next hfound =>
        exact
          { contents := hcontents
            capacity := hcapacity
            discarded := nofun
            found := by
              rintro _ ⟨⟩
              exact ⟨hfound, rfl, rfl⟩
            pending := nofun }
      · next hnot =>
        have hless : (contents { b with sto }).length < len := by
          rw [← hlen, hcontents, List.length_cons]
          exact Nat.lt_succ_self _
        have hrest := ih _ hless { b with sto } rfl
        exact
          { contents := hcontents.trans (congrArg (t :: ·) hrest.contents)
            capacity := hrest.capacity.trans hcapacity
            discarded := by
              intro u hu
              rcases List.mem_cons.mp hu with rfl | hu
              · exact Bool.eq_false_iff.mpr hnot
              · exact hrest.discarded u hu
            found := hrest.found
            pending := by
              intro hnone
              cases task <;> exact hrest.pending hnone }
    · next hpop =>
      have hnil : b.contents = [] := by
        rcases Storage.tryPop_spec b.sto with ⟨hnil, -⟩ | ⟨t, sto, hsome, -⟩
        · exact hnil
        · rw [hpop] at hsome
          cases hsome
      cases task <;>
      exact
        { contents := rfl
          capacity := rfl
          discarded := nofun
          found := nofun
          pending := fun _ => ⟨hnil, rfl, rfl⟩ }

/-- A receiver finds the first thing that it looks for, and leaves what comes after it. -/
theorem Received.find {p : T → Bool} {task : Option ℕ} {b : Mailbox S} {res : Receipt S T}
    (h : Received p task b res) :
    b.contents.find? p = res.result ∧
      (b.contents.dropWhile fun t => !p t).tail = res.box.contents := by
  have hskip : ∀ t ∈ res.discarded, (!p t) = true := fun t ht => by rw [h.discarded t ht]; rfl
  have hnone : res.discarded.find? p = none :=
    List.find?_eq_none.mpr fun t ht => Bool.eq_false_iff.mp (h.discarded t ht)
  rw [h.contents, List.append_assoc, List.find?_append, hnone, Option.none_or,
    List.dropWhile_append_of_pos hskip]
  cases hres : res.result with
  | none =>
    obtain ⟨hnil, -, -⟩ := h.pending hres
    rw [hnil]
    exact ⟨rfl, rfl⟩
  | some t =>
    obtain ⟨hfound, -, -⟩ := h.found t hres
    simp [hfound]

end Mailbox

/-- A mailbox, the tasks that sleep at it, what was put in, what was taken out, and what of that
was given to a receiver. -/
structure Station (S T : Type) where
  box : Mailbox S
  sleeping : List ℕ
  accepted : List T
  taken : List T
  given : List T

namespace Station

variable {S T : Type} [Storage S T]

omit [Storage S T] in
/-- An empty mailbox. -/
def new (sto : S) : Station S T := ⟨⟨none, sto⟩, [], [], [], []⟩

/-- `put`, with the wake. -/
def put (s : Station S T) (t : T) : Station S T :=
  match s.box.put t with
  | (true, woken, box) =>
    { s with
      box
      sleeping := s.sleeping.filter fun task => some task ≠ woken
      accepted := s.accepted ++ [t] }
  | (false, _, _) => s

/-- `receive`, by a task, which is awake until it finds nothing, or without waiting. -/
def receive (p : T → Bool) (s : Station S T) (task : Option ℕ) : Station S T :=
  let res := s.box.receive p task
  let awake := s.sleeping.filter fun other => some other ≠ task ∧ some other ≠ res.woken
  { box := res.box
    sleeping := if res.result.isNone then task.toList ++ awake else awake
    accepted := s.accepted
    taken := s.taken ++ res.discarded ++ res.result.toList
    given := s.given ++ res.result.toList }

/-- What holds of a mailbox at all times: a task that sleeps is the one whose waker is there, and
there is none where there is something to take. `q` is what all receivers look for. -/
structure Inv (q : T → Bool) (s : Station S T) : Prop where
  fifo : s.accepted = s.taken ++ s.box.contents
  given : s.given.filter q = s.taken.filter q
  fits : s.box.contents.length ≤ Storage.capacity s.box.sto
  asleep : ∀ task ∈ s.sleeping, s.box.wait = some task
  registered : s.box.wait.isSome → s.box.contents = []

variable {q : T → Bool}

theorem inv_new {sto : S} (h : Storage.contents sto = []) : (new sto).Inv q where
  fifo := h.symm
  given := rfl
  fits := by
    show (Storage.contents sto).length ≤ _
    rw [h]
    exact Nat.zero_le _
  asleep _ h := nomatch h
  registered h := nomatch h

variable {s : Station S T}

/-- What is put in wakes whoever sleeps. -/
theorem Inv.put (h : s.Inv q) (t : T) : (s.put t).Inv q := by
  unfold Station.put Mailbox.put
  rcases Storage.push_spec s.box.sto t with ⟨-, hpush⟩ | ⟨sto, hroom, hpush, hcontents, hcapacity⟩
  · rw [hpush]
    exact h
  · rw [hpush]
    refine ⟨?_, h.given, ?_, ?_, nofun⟩
    · show s.accepted ++ [t] = s.taken ++ Storage.contents sto
      rw [hcontents, ← List.append_assoc]
      exact congrArg (· ++ [t]) h.fifo
    · show (Storage.contents sto).length ≤ Storage.capacity sto
      have hfull := mt (Storage.isFull_iff s.box.sto).mpr (Bool.eq_false_iff.mp hroom)
      rw [hcontents, hcapacity, List.length_append, List.length_singleton]
      omega
    · intro task htask
      obtain ⟨hmem, hne⟩ := List.mem_filter.mp htask
      exact absurd (h.asleep task hmem).symm (of_decide_eq_true hne)

/-- A task that goes to sleep leaves its waker, and whoever slept before is woken. -/
theorem Inv.receive (h : s.Inv q) {p : T → Bool} (hp : ∀ t, q t = true → p t = true)
    (task : Option ℕ) : (s.receive p task).Inv q := by
  have hspec := s.box.receive_spec p task
  unfold Station.receive
  generalize s.box.receive p task = res at hspec
  have hdiscarded : res.discarded.filter q = [] :=
    List.filter_eq_nil_iff.mpr fun t ht hq =>
      Bool.eq_false_iff.mp (hspec.discarded t ht) (hp t hq)
  have hfits := h.fits
  refine ⟨?_, ?_, ?_, ?_, ?_⟩
  · rw [h.fifo, hspec.contents]
    simp only [List.append_assoc]
  · rw [List.filter_append, List.filter_append, List.filter_append, hdiscarded, List.append_nil,
      h.given]
  · rw [hspec.contents, List.length_append] at hfits
    show res.box.contents.length ≤ Storage.capacity res.box.sto
    rw [hspec.capacity]
    omega
  · intro other hother
    dsimp only at hother ⊢
    cases hres : res.result with
    | some t =>
      rw [hres] at hother
      obtain ⟨-, -, hwait⟩ := hspec.found t hres
      exact hwait.trans (h.asleep other (List.mem_filter.mp hother).1)
    | none =>
      rw [hres] at hother
      obtain ⟨-, hwoken, hwait⟩ := hspec.pending hres
      rw [hwait]
      cases task with
      | none => exact h.asleep other (List.mem_filter.mp hother).1
      | some task =>
        rcases List.mem_cons.mp hother with rfl | hother
        · rfl
        · -- another one that slept has been woken
          obtain ⟨hmem, hawake⟩ := List.mem_filter.mp hother
          obtain ⟨hself, hother⟩ := of_decide_eq_true hawake
          have hwake : (s.box.pend (some task)).1 = some other := by
            show s.box.wait.filter (· ≠ task) = some other
            rw [h.asleep other hmem]
            simpa using fun heq => hself (congrArg some heq)
          exact absurd (hwoken.trans hwake).symm hother
  · intro hwait
    cases hres : res.result with
    | none => exact (hspec.pending hres).1
    | some t =>
      have hcontents := hspec.contents
      obtain ⟨-, -, hsame⟩ := hspec.found t hres
      rw [h.registered (hsame ▸ hwait), hres] at hcontents
      simp at hcontents

/-- A task that sleeps has nothing to take. -/
theorem Inv.no_lost_wakeup (h : s.Inv q) {task : ℕ} (htask : task ∈ s.sleeping) :
    s.box.contents = [] := by
  refine h.registered ?_
  rw [h.asleep task htask]
  rfl

/-- What all receivers look for is given to one of them, or it is still there, in order. -/
theorem Inv.given_or_left (h : s.Inv q) :
    s.accepted.filter q = s.given.filter q ++ s.box.contents.filter q := by
  rw [h.fifo, List.filter_append, h.given]

end Station
