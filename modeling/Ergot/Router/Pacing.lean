import Ergot.Router.Nesting

/-!
# A holder that keeps its window

A refresh is too soon only for the current token, at the root. If a holder asks within the window
that it was told, whoever is asked for it does so within the window of the root: `Paced` is the
invariant about the messages that are on the way for one holder, `Paced.step` the step lemma.
-/

namespace Ergot

open Runs

namespace Router

variable {σ : Type} {N S C : Nat} {r : Router σ N S C} {src net : UInt16} {tok : Token} {now : Nat}

/-- Only the current token of a lease can be too early. -/
theorem lease_of_tooSoon (h : (r.refreshSeedNetAssignment src net tok now).1 = .error .tooSoon) :
    ∃ e l, r.seedRoutes.get net src = some e ∧ e.kind = .active l ∧ l.refreshToken = tok ∧
      now + secs minRefreshSecs.toNat < l.expiration := by
  unfold refreshSeedNetAssignment at h
  dsimp only at h
  split at h
  · cases h
  · next e he =>
    rcases hval : e.kind.validateToken tok now true with ⟨d | m, kind⟩
    · -- no refusal of a token is this one
      have href : e.kind.refresh tok now r.rng.next.1 true = (.error d, kind) := by
        rw [LeaseKind.refresh, hval]
      rw [href] at h
      cases d with
      | tooSoon => exact absurd hval (LeaseKind.validateToken_ne_tooSoon _ _ _ _ _)
      | expired => cases h
      | badToken => cases h
    · obtain ⟨l, hl, -, hexp, hacc⟩ := LeaseKind.validateToken_ok hval
      rw [hl, LeaseKind.refresh_of_accepts hexp hacc] at h
      cases hacc with
      | replay => cases h
      | current htok =>
        refine ⟨e, l, he, hl, htok, ?_⟩
        by_contra hle
        rw [if_neg nofun, if_neg (by omega)] at h
        cases h

end Router

namespace SeedNet

variable {ι σ : Type} {N S C : ι → Nat} {T : SeedTree ι}
  {s s' : SeedNet ι σ N S C} {l : SeedLabel ι σ} {v p h : ι}

/-- What is on the way for the holder `h` is in time, and no answer says that it is not. -/
structure Paced (T : SeedTree ι) (s : SeedNet ι σ N S C) (h : ι) : Prop where
  requests : ∀ v p, T.parent v = some p → ∀ call ∈ (s.node v).requests, call.owner = h →
    ∀ net tok, call.msg = .refresh net tok →
      (s.router p).EndsBy (T.up v) net tok (s.now + secs minRefreshSecs.toNat)
  responses : ∀ v p, T.parent v = some p → ∀ call ∈ (s.node v).responses, call.owner = h →
    call.msg ≠ .refreshed (.error .tooSoon)

/-- The holder `h` does not keep its window: it refreshes when more is left of its lease than what
it was told. -/
def hurries [DecidableEq ι] (h : ι) (s : SeedNet ι σ N S C) : SeedLabel ι σ → Bool
  | .refresh v => v = h &&
    match (s.node v).lease with
    | none => false
    | some (lease, ends) => s.now + secs lease.minRefreshSeconds.toNat < ends
  | _ => false

theorem Paced.start (T : SeedTree ι) (router : ∀ v, Router σ (N v) (S v) (C v)) (h : ι) :
    Paced T (start router) h where
  requests _ _ _ _ hc := by cases hc
  responses _ _ _ _ hc := by cases hc

variable [DecidableEq ι]

/-- What is asked for a holder that keeps its window is in time. -/
theorem Asked.paced (hn : Nested T s) (hpaced : Paced T s h) (hwindow : ¬ s.hurries h l)
    (hp : T.parent v = some p) {call : SeedCall ι SeedRequest} (hasked : Asked T s v l call)
    (howner : call.owner = h) {net : UInt16} {tok : Token} (hmsg : call.msg = .refresh net tok) :
    (s.router p).EndsBy (T.up v) net tok (s.now + secs minRefreshSecs.toNat) := by
  cases hasked with
  | assign => cases hmsg
  | @refresh lease ends hlease =>
    cases hmsg
    obtain ⟨hends, htells⟩ := hn.held v p hp lease ends hlease
    have hle : ends ≤ s.now + secs lease.minRefreshSeconds.toNat := by
      refine Nat.not_lt.mp fun hlt => hwindow ?_
      obtain rfl : v = h := howner
      simp only [hurries, hlease, hlt, decide_true, Bool.and_self]
    rw [SeedTree.Tells] at htells
    refine hends.mono (Nat.le_trans hle (Nat.add_le_add_left (Nat.mul_le_mul_right _ ?_) _))
    omega
  | release => cases hmsg
  | @served w q _ req msg handler hw hq hreq hout =>
    cases hp.symm.trans hq
    have hspec := Router.takesRequest_of_fst (hn.wf v).directory.leases hout
    obtain rfl : msg = .refresh net tok := hmsg
    generalize hreqmsg : req.msg = reqmsg at hspec
    cases hspec with
    | @refreshing _ tok' e le lease he hl hstored hexp htok =>
      -- the route ends in time, so the lease that it rests on does
      have hends := (hpaced.requests w v hw req hreq howner _ _ hreqmsg).2 e le he hl htok
      have hnet := hn.keys v _ _ e lease he hstored
      rw [hnet]
      exact (hn.routes v p hp _ _ e le lease he hl hstored).mono hends
  | @resumed _ _ _ _ _ _ _ _ hres hout =>
    obtain ⟨⟨_, _, hrel⟩, -⟩ := Router.takeResponse_ask hout
    rw [hrel] at hmsg
    cases hmsg

variable [InterfaceSink σ]

omit [DecidableEq ι] in
/-- No answer that is in time says that it is not. -/
theorem Answered.paced (hn : Nested T s) (hpaced : Paced T s h) (hp : T.parent v = some p)
    {call : SeedCall ι SeedResponse} (hanswered : Answered T s s' v p call)
    (howner : call.owner = h) : call.msg ≠ .refreshed (.error .tooSoon) := by
  intro hmsg
  cases hanswered with
  | @root req _ hreq =>
    obtain ⟨id, owner, msg⟩ := req
    cases msg with
    | assign => cases hmsg
    | release => cases hmsg
    | refresh net tok =>
      have hres : (s.router p).refreshSeedNetAssignment (T.up v) net tok s.now =
          (.error .tooSoon, ((s.router p).refreshSeedNetAssignment (T.up v) net tok s.now).2) :=
        Prod.ext (SeedResponse.refreshed.inj hmsg) rfl
      obtain ⟨e, le, he, hl, htok, hlong⟩ :=
        Router.lease_of_tooSoon (SeedResponse.refreshed.inj hmsg)
      have hle := (hpaced.requests v p hp _ hreq howner net tok rfl).2 e le he hl htok
      omega
  | @served g req res _ _ hout =>
    have hspec := Router.takesRequest_of_fst (hn.wf p).directory.leases hout
    obtain rfl : res = .refreshed (.error .tooSoon) := hmsg
    generalize req.msg = msg at hspec
    cases hspec with
    | refused _ hsoon => exact hsoon rfl
  | @resumed c g sub handler sent res hres hc hout =>
    obtain rfl : res = .refreshed (.error .tooSoon) := hmsg
    obtain ⟨hsame, -⟩ := hn.jobs.responses p sub hres.mem handler c sent hres.task hres.awaits
    obtain ⟨r, hspec⟩ := Router.takesResponse_of_fst hout
    generalize hsub : sub.msg = msg at hspec
    cases hspec with
    | refused _ _ hsoon =>
      exact hpaced.responses p g hres.parent sub hres.mem (hsame.trans howner)
        (hsub.trans (hsoon rfl))
  | @gaveUp c handler res _ _ hout =>
    obtain rfl : res = .refreshed (.error .tooSoon) := hmsg
    cases handler <;> cases hout

/-- The invariant is kept by every step in which the holder keeps its window. -/
theorem Paced.step (hn : Nested T s) (hpaced : Paced T s h) (hs : Step T s l s')
    (hfresh : ∀ v, (s'.router v).rng.Distinct) (hwindow : ¬ s.hurries h l) : Paced T s' h where
  requests := by
    intro v p hp call hc howner net tok hmsg
    have hends : (s.router p).EndsBy (T.up v) net tok (s.now + secs minRefreshSecs.toNat) := by
      rcases hs.asked hc with hold | hnew
      · exact hpaced.requests v p hp call hold howner net tok hmsg
      · exact hnew.paced hn hpaced hwindow hp howner hmsg
    have hle := hs.now_le
    exact (hends.draws ((hs.routed p).draws (hn.wf p)) (hfresh p)).mono (by omega)
  responses := by
    intro v p hp call hc howner
    rcases hs.answered hn.jobs hp hc with hold | hnew
    · exact hpaced.responses v p hp call hold howner
    · exact hnew.paced hn hpaced hp howner

end SeedNet

end Ergot
