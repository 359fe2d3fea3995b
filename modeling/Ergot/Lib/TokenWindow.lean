import Mathlib.Data.List.Induction
import Mathlib.Data.Set.Basic
import Ergot.Lib.Runs

/-!
# Rotating tokens over a lossy network

A server keeps a lease whose token it replaces at every renewal, and still knows the
token before. A holder presents the token it has, one request at a time, and learns
the next one from the response. Requests may be lost, duplicated and late; responses
may be lost.

- A `Client` is the holder with its part of the network. Requests are never taken
  out, so that a request can be served again at any time; a response counts only
  while its request is outstanding.
- `Served` is all that a server may do with a token it is presented: rotate on the
  current one, replay on the previous one, refuse, or end the lease.
- `InStep` relates window and client: the holder has the current token, or it has the
  previous one and the current one has never been presented. It is an invariant of
  every server that is `Lawful` (`inStep_of_run`).
-/

namespace TokenWindow

variable {ρ α τ : Type}

/-- The tokens of a running lease. -/
structure Window (τ : Type) where
  current : τ
  previous : Option τ

/-- The tokens a running lease accepts. -/
def Window.Knows (w : Window τ) (t : τ) : Prop := w.current = t ∨ w.previous = some t

/-! ## The holder -/

/-- A holder, the requests it sent and the responses it was sent, under the numbers
of the requests. -/
structure Client (τ : Type) where
  token : τ
  outstanding : Option ℕ
  next : ℕ
  requests : List (ℕ × τ)
  responses : List (ℕ × τ)

namespace Client

/-- A holder that was just given a token. -/
def start (t : τ) : Client τ := ⟨t, none, 0, [], []⟩

/-- Present a token, unless a request is outstanding. -/
def ask (c : Client τ) (t : τ) : Client τ :=
  if c.outstanding = none then
    { c with outstanding := some c.next, next := c.next + 1, requests := c.requests ++ [(c.next, t)] }
  else c

/-- Stop waiting: a timeout, or a refusal. -/
def giveUp (c : Client τ) : Client τ := { c with outstanding := none }

/-- Take the token of a response. -/
def receive (c : Client τ) (t : τ) : Client τ := { c with token := t, outstanding := none }

/-- A response to request `id` goes on its way. -/
def reply (c : Client τ) (id : ℕ) : Option τ → Client τ
  | none => c
  | some t => { c with responses := c.responses ++ [(id, t)] }

end Client

/-! ## The server -/

/-- What a server may do when it is presented `t`, with window `w` and tokens `used`
before and `used'` after: the window afterwards, and the token in the response. -/
inductive Served (w : Option (Window τ)) (used used' : Set τ) (t : τ) :
    Option (Window τ) → Option τ → Prop
  /-- The current token is replaced by one that is drawn for it. -/
  | rotated {previous new} (hw : w = some ⟨t, previous⟩) (hnew : new ∉ used)
      (hdrawn : new ∈ used') : Served w used used' t (some ⟨new, some t⟩) (some new)
  /-- The previous token gets the current one. -/
  | replayed {current} (hw : w = some ⟨current, some t⟩) (hne : current ≠ t) :
      Served w used used' t w (some current)
  | refused : Served w used used' t w none
  | ended : Served w used used' t none none

/-- The tokens of a window. -/
def Window.tokens (w : Window τ) : Set τ := {t | w.Knows t}

/-- A server with actions `α`, seen from one of its leases. -/
structure Server (ρ α τ : Type) where
  step : ρ → α → ρ
  /-- The token that an action presents to the lease. -/
  presents : α → Option τ
  /-- The token in the response to an action. -/
  reply : ρ → α → Option τ
  /-- The action starts a new lease in the place of this one. -/
  grants : ρ → α → Bool
  /-- The window of the lease while it runs. -/
  window : ρ → Option (Window τ)
  /-- The tokens drawn so far. -/
  used : ρ → Set τ
  /-- An invariant of the server. -/
  Inv : ρ → Prop
  /-- No token was drawn twice so far. -/
  Fresh : ρ → Prop

/-- What a server has to satisfy. -/
structure Lawful (S : Server ρ α τ) : Prop where
  inv_step : ∀ r a, S.Inv r → S.Inv (S.step r a)
  fresh_of_step : ∀ r a, S.Fresh (S.step r a) → S.Fresh r
  used_mono : ∀ r a, S.used r ⊆ S.used (S.step r a)
  served : ∀ r a t, S.Inv r → S.Fresh (S.step r a) → S.presents a = some t →
    Served (S.window r) (S.used r) (S.used (S.step r a)) t (S.window (S.step r a)) (S.reply r a)
  other : ∀ r a, S.Inv r → S.presents a = none → S.grants r a = false →
    S.window (S.step r a) = S.window r ∨ S.window (S.step r a) = none

/-! ## The two together -/

/-- How the holder and a running lease stand to each other. -/
inductive InStep (w : Window τ) (c : Client τ) : Prop
  /-- The holder has the current token, and no response is on its way to it. -/
  | current (htok : c.token = w.current)
      (hnone : ∀ p ∈ c.responses, c.outstanding ≠ some p.1)
  /-- The holder has the previous token, nobody ever presented the current one, and
  a response that is on its way brings it. -/
  | previous (htok : w.previous = some c.token) (hne : c.token ≠ w.current)
      (hnever : ∀ p ∈ c.requests, p.2 ≠ w.current)
      (hbrings : ∀ p ∈ c.responses, c.outstanding = some p.1 → p.2 = w.current)

theorem InStep.knows {w : Window τ} {c : Client τ} (h : InStep w c) : w.Knows c.token := by
  cases h with
  | current htok => exact .inl htok.symm
  | previous htok => exact .inr htok

/-- The invariant of a holder and a server whose window is `w`. -/
structure Inv (w : Option (Window τ)) (used : Set τ) (c : Client τ) : Prop where
  requests : ∀ p ∈ c.requests, p.1 < c.next ∧ p.2 ∈ used
  responses : ∀ p ∈ c.responses, p.1 < c.next ∧ p.2 ∈ used
  outstanding : ∀ id, c.outstanding = some id → id < c.next ∧
    ∀ p ∈ c.requests, p.1 = id → p.2 = c.token
  token : c.token ∈ used
  window : ∀ win, w = some win → win.tokens ⊆ used ∧ win.previous ≠ some win.current
  inStep : ∀ win, w = some win → InStep win c

namespace Inv

variable {w w' : Option (Window τ)} {used used' : Set τ} {c : Client τ} {t : τ} {id : ℕ}

theorem start (ht : t ∈ used) : Inv (some ⟨t, none⟩) used (.start t) :=
  { requests := nofun
    responses := nofun
    outstanding := nofun
    token := ht
    window := by
      rintro win ⟨⟩
      refine ⟨?_, nofun⟩
      rintro t' (rfl | h)
      · exact ht
      · cases h
    inStep := by
      rintro win ⟨⟩
      exact .current rfl nofun }

/-- Time and draws do no harm. -/
theorem mono (h : Inv w used c) (hused : used ⊆ used') (hw : w' = w ∨ w' = none) :
    Inv w' used' c :=
  { requests := fun p hp => ⟨(h.requests p hp).1, hused (h.requests p hp).2⟩
    responses := fun p hp => ⟨(h.responses p hp).1, hused (h.responses p hp).2⟩
    outstanding := h.outstanding
    token := hused h.token
    window := by
      intro win hwin
      rcases hw with rfl | rfl
      · exact ⟨(h.window win hwin).1.trans hused, (h.window win hwin).2⟩
      · cases hwin
    inStep := by
      intro win hwin
      rcases hw with rfl | rfl
      · exact h.inStep win hwin
      · cases hwin }

theorem ask (h : Inv w used c) : Inv w used (c.ask c.token) := by
  unfold Client.ask
  split
  · rename_i hout
    refine
      { requests := ?_, responses := ?_, outstanding := ?_, token := h.token,
        window := h.window, inStep := ?_ }
    · intro p hp
      rcases List.mem_append.mp hp with hp | hp
      · exact ⟨Nat.lt_succ_of_lt (h.requests p hp).1, (h.requests p hp).2⟩
      · obtain rfl := List.mem_singleton.mp hp
        exact ⟨Nat.lt_succ_self _, h.token⟩
    · intro p hp
      exact ⟨Nat.lt_succ_of_lt (h.responses p hp).1, (h.responses p hp).2⟩
    · rintro id ⟨⟩
      refine ⟨Nat.lt_succ_self _, fun p hp heq => ?_⟩
      rcases List.mem_append.mp hp with hp | hp
      · exact absurd heq (Nat.ne_of_lt (h.requests p hp).1)
      · obtain rfl := List.mem_singleton.mp hp
        rfl
    · intro win hwin
      -- no response carries the number of the new request yet
      have hnew : ∀ p ∈ c.responses, some c.next ≠ some p.1 := by
        intro p hp heq
        have := (h.responses p hp).1
        have := Option.some.inj heq
        omega
      cases h.inStep win hwin with
      | current htok => exact .current htok hnew
      | previous htok hne hnever _ =>
        refine .previous htok hne ?_ fun p hp heq => absurd heq (hnew p hp)
        intro p hp
        rcases List.mem_append.mp hp with hp | hp
        · exact hnever p hp
        · obtain rfl := List.mem_singleton.mp hp
          exact hne
  · exact h

/-- Messages may get lost, numbers be left out, and the holder stop waiting. -/
theorem weaken {c' : Client τ} (h : Inv w used c) (htok : c'.token = c.token)
    (hnext : c.next ≤ c'.next) (hreq : c'.requests ⊆ c.requests)
    (hresp : c'.responses ⊆ c.responses)
    (hout : ∀ id, c'.outstanding = some id → c.outstanding = some id) : Inv w used c' :=
  { requests := fun p hp =>
      ⟨Nat.lt_of_lt_of_le (h.requests p (hreq hp)).1 hnext, (h.requests p (hreq hp)).2⟩
    responses := fun p hp =>
      ⟨Nat.lt_of_lt_of_le (h.responses p (hresp hp)).1 hnext, (h.responses p (hresp hp)).2⟩
    outstanding := by
      intro id hid
      obtain ⟨hlt, hown⟩ := h.outstanding id (hout id hid)
      rw [htok]
      exact ⟨Nat.lt_of_lt_of_le hlt hnext, fun p hp => hown p (hreq hp)⟩
    token := by
      rw [htok]
      exact h.token
    window := h.window
    inStep := by
      intro win hwin
      cases h.inStep win hwin with
      | current htoken hnone =>
        exact .current (htok.trans htoken) fun p hp heq => hnone p (hresp hp) (hout _ heq)
      | previous htoken hne hnever hbrings =>
        rw [← htok] at htoken hne
        exact .previous htoken hne (fun p hp => hnever p (hreq hp))
          fun p hp heq => hbrings p (hresp hp) (hout _ heq) }

theorem giveUp (h : Inv w used c) : Inv w used c.giveUp :=
  h.weaken rfl (Nat.le_refl _) (fun _ hp => hp) (fun _ hp => hp) nofun

/-- A response to the outstanding request brings the current token. -/
theorem receive (h : Inv w used c) (hresp : (id, t) ∈ c.responses)
    (hout : c.outstanding = some id) : Inv w used (c.receive t) :=
  { requests := h.requests
    responses := h.responses
    outstanding := nofun
    token := (h.responses _ hresp).2
    window := h.window
    inStep := by
      intro win hwin
      cases h.inStep win hwin with
      | current _ hnone => exact absurd hout (hnone _ hresp)
      | previous _ _ _ hbrings => exact .current (hbrings _ hresp hout) fun _ _ => nofun }

/-- A response is added to those of one request. -/
theorem mem_reply {r : Option τ} {p : ℕ × τ} (hp : p ∈ (c.reply id r).responses) :
    p ∈ c.responses ∨ p.1 = id ∧ r = some p.2 := by
  cases r with
  | none => exact .inl hp
  | some t =>
    rcases List.mem_append.mp hp with hp | hp
    · exact .inl hp
    · obtain rfl := List.mem_singleton.mp hp
      exact .inr ⟨rfl, rfl⟩

theorem reply_same (c : Client τ) (id : ℕ) (r : Option τ) :
    (c.reply id r).requests = c.requests ∧ (c.reply id r).outstanding = c.outstanding ∧
      (c.reply id r).token = c.token ∧ (c.reply id r).next = c.next := by
  cases r <;> exact ⟨rfl, rfl, rfl, rfl⟩

/-- The heart of the protocol: whatever the server does with a request, however old,
the holder stays in step. -/
theorem inStep_served {win' : Window τ} {r : Option τ} (h : Inv w used c)
    (hs : Served w used used' t w' r) (hreq : (id, t) ∈ c.requests) (hw' : w' = some win') :
    InStep win' (c.reply id r) := by
  obtain ⟨hreqs, hout, htok, -⟩ := reply_same c id r
  cases hs with
  | refused => exact h.inStep win' hw'
  | ended => cases hw'
  | @rotated previous new hw hnew hdrawn =>
    cases hw'
    cases h.inStep _ hw with
    | previous _ _ hnever _ => exact absurd rfl (hnever _ hreq)
    | current htoken hnone =>
      -- the holder's own token was presented, so it now has the previous one
      have hfresh : ∀ p ∈ c.requests, p.2 ≠ new := fun p hp heq =>
        hnew (heq ▸ (h.requests p hp).2)
      refine .previous ?_ ?_ ?_ ?_
      · rw [htok, htoken]
      · rw [htok]
        intro heq
        have heq : c.token = new := heq
        exact hnew (heq ▸ h.token)
      · rw [hreqs]
        exact hfresh
      · intro p hp heq
        rw [hout] at heq
        rcases mem_reply hp with hp | ⟨-, hp⟩
        · exact absurd heq (hnone p hp)
        · exact (Option.some.inj hp).symm
  | replayed hw hne =>
    rw [hw] at hw'
    cases hw'
    cases h.inStep _ hw with
    | current htoken hnone =>
      -- the outstanding request presented the current token, so this was another
      refine .current (htok.trans htoken) ?_
      intro p hp heq
      rw [hout] at heq
      rcases mem_reply hp with hp | ⟨hid, -⟩
      · exact hnone p hp heq
      · have hown := (h.outstanding _ heq).2 _ hreq hid.symm
        exact hne (htoken.symm.trans hown.symm)
    | previous htoken hne' hnever hbrings =>
      refine .previous (by rw [htok]; exact htoken) (by rw [htok]; exact hne') ?_ ?_
      · rw [hreqs]
        exact hnever
      · intro p hp heq
        rw [hout] at heq
        rcases mem_reply hp with hp | ⟨-, hp⟩
        · exact hbrings p hp heq
        · exact (Option.some.inj hp).symm

/-- A request is served. -/
theorem serve {r : Option τ} (h : Inv w used c) (hused : used ⊆ used')
    (hs : Served w used used' t w' r) (hreq : (id, t) ∈ c.requests) :
    Inv w' used' (c.reply id r) := by
  obtain ⟨hreqs, hout, htok, hnext⟩ := reply_same c id r
  have hbrought : ∀ t', r = some t' → t' ∈ used' := by
    rintro t' rfl
    cases hs with
    | rotated hw hnew hdrawn => exact hdrawn
    | replayed hw => exact hused ((h.window _ hw).1 (.inl rfl))
  have hwindow : ∀ win, w' = some win →
      win.tokens ⊆ used' ∧ win.previous ≠ some win.current := by
    rintro win rfl
    cases hs with
    | refused => exact ⟨(h.window _ rfl).1.trans hused, (h.window _ rfl).2⟩
    | replayed hw => exact ⟨(h.window _ rfl).1.trans hused, (h.window _ rfl).2⟩
    | @rotated _ new hw hnew hdrawn =>
      constructor
      · rintro t' (rfl | heq)
        · exact hdrawn
        · obtain rfl := Option.some.inj heq
          exact hused (h.requests _ hreq).2
      · intro heq
        have heq : t = new := Option.some.inj heq
        exact hnew (heq ▸ (h.requests _ hreq).2)
  refine
    { requests := ?_, responses := ?_, outstanding := ?_, token := ?_, window := hwindow,
      inStep := fun win hwin => inStep_served h hs hreq hwin }
  · rw [hreqs, hnext]
    exact fun p hp => ⟨(h.requests p hp).1, hused (h.requests p hp).2⟩
  · rw [hnext]
    intro p hp
    rcases mem_reply hp with hp | ⟨hid, hp⟩
    · exact ⟨(h.responses p hp).1, hused (h.responses p hp).2⟩
    · exact ⟨hid ▸ (h.requests _ hreq).1, hbrought _ hp⟩
  · rw [hreqs, hout, hnext, htok]
    exact h.outstanding
  · rw [htok]
    exact hused h.token

end Inv

/-! ## Runs -/

/-- A step of the server and its holder. -/
inductive Label (α τ : Type)
  | ask
  | giveUp
  | receive (id : ℕ) (t : τ)
  /-- A request arrives, perhaps not for the first time. -/
  | serve (id : ℕ) (a : α)
  /-- The server does something else. -/
  | other (a : α)

variable [DecidableEq τ]

/-- Perform a step if it is possible. -/
def exec (S : Server ρ α τ) (s : ρ × Client τ) : Label α τ → ρ × Client τ
  | .ask => (s.1, s.2.ask s.2.token)
  | .giveUp => (s.1, s.2.giveUp)
  | .receive id t =>
    if (id, t) ∈ s.2.responses ∧ s.2.outstanding = some id then (s.1, s.2.receive t) else s
  | .serve id a =>
    match S.presents a with
    | none => s
    | some t =>
      if (id, t) ∈ s.2.requests then (S.step s.1 a, s.2.reply id (S.reply s.1 a)) else s
  | .other a =>
    if S.presents a = none ∧ S.grants s.1 a = false then (S.step s.1 a, s.2) else s

/-- The invariant of the two. -/
structure SysInv (S : Server ρ α τ) (s : ρ × Client τ) : Prop where
  server : S.Inv s.1
  client : Inv (S.window s.1) (S.used s.1) s.2

theorem fresh_of_exec {S : Server ρ α τ} (hS : Lawful S) (s : ρ × Client τ) (l : Label α τ)
    (h : S.Fresh (exec S s l).1) : S.Fresh s.1 := by
  cases l with
  | ask => exact h
  | giveUp => exact h
  | receive id t =>
    simp only [exec] at h
    split at h <;> exact h
  | serve id a =>
    simp only [exec] at h
    split at h
    · exact h
    · split at h
      · exact hS.fresh_of_step _ _ h
      · exact h
  | other a =>
    simp only [exec] at h
    split at h
    · exact hS.fresh_of_step _ _ h
    · exact h

/-- One step, as long as no token is drawn twice. -/
theorem SysInv.exec {S : Server ρ α τ} (hS : Lawful S) {s : ρ × Client τ} (h : SysInv S s)
    (l : Label α τ) (hfresh : S.Fresh (exec S s l).1) : SysInv S (exec S s l) := by
  obtain ⟨r, c⟩ := s
  obtain ⟨hr, hc⟩ := h
  cases l with
  | ask => exact ⟨hr, hc.ask⟩
  | giveUp => exact ⟨hr, hc.giveUp⟩
  | receive id t =>
    simp only [TokenWindow.exec]
    split
    · rename_i hguard
      exact ⟨hr, hc.receive hguard.1 hguard.2⟩
    · exact ⟨hr, hc⟩
  | serve id a =>
    cases hpres : S.presents a with
    | none =>
      simp only [TokenWindow.exec, hpres]
      exact ⟨hr, hc⟩
    | some t =>
      by_cases hreq : (id, t) ∈ c.requests
      · simp only [TokenWindow.exec, hpres, hreq, if_true] at hfresh ⊢
        exact ⟨hS.inv_step r a hr,
          hc.serve (hS.used_mono r a) (hS.served r a t hr hfresh hpres) hreq⟩
      · simp only [TokenWindow.exec, hpres, hreq, if_false]
        exact ⟨hr, hc⟩
  | other a =>
    simp only [TokenWindow.exec]
    split
    · rename_i hguard
      exact ⟨hS.inv_step r a hr, hc.mono (hS.used_mono r a)
        (hS.other r a hr hguard.1 hguard.2)⟩
    · exact ⟨hr, hc⟩

/-- In every state that a run reaches without a repeated token, the holder's token is
one that a running lease knows. -/
theorem inStep_of_run {S : Server ρ α τ} (hS : Lawful S) {s : ρ × Client τ} (h : SysInv S s)
    (labels : List (Label α τ)) (hfresh : S.Fresh (Runs.runAll (exec S) s labels).1) :
    SysInv S (Runs.runAll (exec S) s labels) := by
  induction labels using List.reverseRecOn with
  | nil => exact h
  | append_singleton labels l ih =>
    rw [Runs.runAll_append] at hfresh ⊢
    exact SysInv.exec hS (ih (fresh_of_exec hS _ l hfresh)) l hfresh

end TokenWindow
