import Ergot.Router.SeedJobs

/-!
# Where the state of a tree comes from

What is there after a step was there before, or has one of the listed origins: `Routed` for the
router of a node, `Tasked` for its handler, `Answered` and `Asked` for the messages between a node
and its parent, `Leased` for what its holder has. The invariants of later modules are case
analyses over these.
-/

namespace Ergot

open Runs

namespace Router

variable {σ : Type} {N S C : Nat} [InterfaceSink σ]

/-- The handler performs one operation for a request. -/
theorem takeRequest_exec (r : Router σ N S C) (now id : Nat) (src : UInt16) (req : SeedRequest) :
    ∃ op : Op σ, (r.takeRequest now id src req).2 = r.exec (.at now, op) := by
  cases req with
  | assign =>
    refine ⟨.canDelegateSeed src, ?_⟩
    show _ = (r.canDelegateSeed src now).2
    dsimp only [takeRequest]
    rcases r.canDelegateSeed src now with ⟨e | _, r'⟩
    · rfl
    · dsimp only
      split
      · rfl
      · split <;> rfl
  | refresh net tok =>
    refine ⟨.prepareDelegatedRefresh src net tok, ?_⟩
    show _ = (r.prepareDelegatedRefresh src net tok now).2
    dsimp only [takeRequest]
    rcases r.prepareDelegatedRefresh src net tok now with ⟨e | _ | _, r'⟩ <;> rfl
  | release net tok =>
    refine ⟨.prepareDelegatedRelease src net tok, ?_⟩
    show _ = (r.prepareDelegatedRelease src net tok now).2
    dsimp only [takeRequest]
    rcases r.prepareDelegatedRelease src net tok now with ⟨e | _, r'⟩ <;> rfl

/-- The handler performs one operation at most for a response. -/
theorem takeResponse_exec (L : SeedLink) (r : Router σ N S C) (now id : Nat)
    (handler : SeedHandler) (res : SeedResponse) : (r.takeResponse L now id handler res).2 = r ∨
      ∃ op : Op σ, (r.takeResponse L now id handler res).2 = r.exec (.at now, op) := by
  unfold takeResponse
  split
  · exact .inl rfl
  · next src up granted =>
    refine .inr ⟨.registerDelegatedSeedNet src (Delegation.leaseOf up granted), ?_⟩
    show _ = (r.registerDelegatedSeedNet src (Delegation.leaseOf up granted) now).2
    dsimp only
    split <;> rfl
  · exact .inl rfl
  · exact .inl rfl
  · next src _ tok parent assignment =>
    exact .inr ⟨.commitDelegatedRefresh src tok (Delegation.refreshedLease parent assignment), rfl⟩
  · exact .inl rfl
  · next src net tok _ => exact .inr ⟨.commitDelegatedRelease src net tok, rfl⟩
  · exact .inl rfl

end Router

/-- After a response a handler asks for nothing but a release, to roll back. -/
theorem Router.takeResponse_ask {σ : Type} {N S C : Nat} {L : SeedLink} {r : Router σ N S C}
    {now id : Nat} {handler handler' : SeedHandler} {res : SeedResponse} {msg : SeedRequest}
    (h : (r.takeResponse L now id handler res).1 = .ask msg handler') :
    (∃ net tok, msg = .release net tok) ∧ ∃ e, handler' = .rollingBack id now e := by
  obtain ⟨r', hspec⟩ := takesResponse_of_fst h
  cases hspec with
  | rollsBack => exact ⟨⟨_, _, rfl⟩, _, rfl⟩

namespace SeedNet

variable {ι σ : Type} {N S C : ι → Nat} [DecidableEq ι] {T : SeedTree ι}
  {s s' : SeedNet ι σ N S C} {l : SeedLabel ι σ} {v p w : ι} {c : SeedClient ι}
  {out : SeedOutcome × Router σ (N p) (S p) (C p)}

/-! ## The handler goes on -/

@[simp] theorem follow_now : (s.follow p c out).now = s.now := by
  unfold follow
  split <;> rfl

@[simp] theorem follow_took : (s.follow p c out).took = s.took := by
  unfold follow
  split <;> rfl

@[simp] theorem follow_router : (s.follow p c out).router = (s.setRouter p out.2).router := by
  unfold follow
  split <;> rfl

/-- A reply adds a response, and nothing else. -/
theorem reply_node (s : SeedNet ι σ N S C) (c : SeedClient ι) (res : SeedResponse) (w : ι) :
    (s.reply c res).node w =
      { s.node w with responses := ((s.reply c res).node w).responses } := by
  by_cases hw : w = c.child
  · rw [hw, reply, setNode_self]
  · rw [reply, setNode_of_ne _ hw]

theorem mem_reply_responses {res : SeedResponse} {call : SeedCall ι SeedResponse}
    (h : call ∈ ((s.reply c res).node w).responses) :
    call ∈ (s.node w).responses ∨ w = c.child ∧ call = ⟨c.id, c.owner, res⟩ := by
  by_cases hw : w = c.child
  · subst hw
    rw [reply, setNode_self] at h
    exact (List.mem_append.mp h).imp_right fun h => ⟨rfl, List.mem_singleton.mp h⟩
  · rw [reply, setNode_of_ne _ hw] at h
    exact .inl h

/-- A node whose handler is done. -/
theorem setIdle_node (s : SeedNet ι σ N S C) (p w : ι) :
    (s.setNode p { s.node p with task := none }).node w = s.node w ∨
      (s.setNode p { s.node p with task := none }).node w = { s.node w with task := none } := by
  by_cases hw : w = p
  · rw [hw, setNode_self]
    exact .inr rfl
  · rw [setNode_of_ne _ hw]
    exact .inl rfl

/-- What the handler does is to answer, to ask, or nothing. -/
theorem follow_node (s : SeedNet ι σ N S C) (p : ι) (c : SeedClient ι)
    (out : SeedOutcome × Router σ (N p) (S p) (C p)) (w : ι) :
    (s.follow p c out).node w = s.node w ∨
      (∃ res, out.1 = .answer res ∧ ∃ task, (task = (s.node w).task ∨ task = none) ∧
        ∃ responses, (∀ call ∈ responses, call ∈ (s.node w).responses ∨
            w = c.child ∧ call = ⟨c.id, c.owner, res⟩) ∧
          (s.follow p c out).node w = { s.node w with task, responses }) ∨
      ∃ req handler, out.1 = .ask req handler ∧ w = p ∧
        (s.follow p c out).node w =
          { (s.node p).call c.owner req with task := some (handler, c) } := by
  unfold follow
  split
  · next res hout =>
    refine .inr (.inl ⟨res, hout, ?_⟩)
    rw [reply_node]
    rcases setIdle_node (s.setRouter p out.2) p w with hidle | hidle
    · refine ⟨_, .inl rfl, _, fun call hc => ?_, by rw [hidle]; rfl⟩
      have hc := mem_reply_responses hc
      rwa [hidle] at hc
    · refine ⟨_, .inr rfl, _, fun call hc => ?_, by rw [hidle]; rfl⟩
      have hc := mem_reply_responses hc
      rwa [hidle] at hc
  · next req handler hout =>
    by_cases hw : w = p
    · subst hw
      rw [setNode_self]
      exact .inr (.inr ⟨req, handler, hout, rfl, rfl⟩)
    · rw [setNode_of_ne _ hw]
      exact .inl rfl
  · exact .inl rfl

theorem mem_follow_responses {call : SeedCall ι SeedResponse}
    (h : call ∈ ((s.follow p c out).node w).responses) : call ∈ (s.node w).responses ∨
      ∃ res, out.1 = .answer res ∧ w = c.child ∧ call = ⟨c.id, c.owner, res⟩ := by
  rcases s.follow_node p c out w with heq | ⟨res, hout, _, -, _, hresp, heq⟩ |
    ⟨req, handler, -, rfl, heq⟩
  · exact .inl (heq ▸ h)
  · rw [heq] at h
    exact (hresp call h).imp_right fun hnew => ⟨res, hout, hnew⟩
  · rw [heq] at h
    exact .inl h

theorem mem_follow_requests {call : SeedCall ι SeedRequest}
    (h : call ∈ ((s.follow p c out).node w).requests) : call ∈ (s.node w).requests ∨
      ∃ req handler, out.1 = .ask req handler ∧ w = p ∧
        call = ⟨(s.node p).next, c.owner, req⟩ := by
  rcases s.follow_node p c out w with heq | ⟨_, -, _, -, _, -, heq⟩ |
    ⟨req, handler, hout, rfl, heq⟩
  · exact .inl (heq ▸ h)
  · rw [heq] at h
    exact .inl h
  · rw [heq] at h
    exact (List.mem_append.mp h).imp_right fun h =>
      ⟨req, handler, hout, rfl, List.mem_singleton.mp h⟩

theorem follow_lease : ((s.follow p c out).node w).lease = (s.node w).lease := by
  rcases s.follow_node p c out w with heq | ⟨_, -, _, -, _, -, heq⟩ | ⟨_, _, -, rfl, heq⟩
  · rw [heq]
  · rw [heq]
  · rw [heq]
    rfl

theorem follow_task (s : SeedNet ι σ N S C) (p : ι) (c : SeedClient ι)
    (out : SeedOutcome × Router σ (N p) (S p) (C p)) (w : ι) :
    ((s.follow p c out).node w).task = (s.node w).task ∨
    ((s.follow p c out).node w).task = none ∨
      ∃ req handler, out.1 = .ask req handler ∧ w = p ∧
        ((s.follow p c out).node w).task = some (handler, c) := by
  rcases s.follow_node p c out w with heq | ⟨_, -, task, htask, _, -, heq⟩ |
    ⟨req, handler, hout, rfl, heq⟩
  · exact .inl (by rw [heq])
  · rw [heq]
    exact htask.imp_right .inl
  · exact .inr (.inr ⟨req, handler, hout, rfl, by rw [heq]⟩)

/-! ## Origins -/

/-- What comes of a request of `v` at the handler of `p`. -/
abbrev taking (T : SeedTree ι) (s : SeedNet ι σ N S C) (v p : ι) (req : SeedRequest) :
    SeedOutcome × Router σ (N p) (S p) (C p) :=
  (s.router p).takeRequest s.now (s.node p).next (T.up v) req

/-- What comes of a response of `p` at the handler of `v`. -/
abbrev resuming (T : SeedTree ι) (s : SeedNet ι σ N S C) (v p : ι) (handler : SeedHandler)
    (res : SeedResponse) : SeedOutcome × Router σ (N v) (S v) (C v) :=
  (s.router v).takeResponse (T.link v p) s.now (s.node v).next handler res

/-- The handler of `v` goes on with a response that it waits for. -/
structure Resumes (T : SeedTree ι) (s : SeedNet ι σ N S C) (v p : ι)
    (call : SeedCall ι SeedResponse) (handler : SeedHandler) (c : SeedClient ι) (sent : Nat) :
    Prop where
  parent : T.parent v = some p
  mem : call ∈ (s.node v).responses
  task : (s.node v).task = some (handler, c)
  awaits : handler.awaits = some (call.id, sent)
  inTime : s.now ≤ sent + secs delegatedSeedRpcTimeoutSecs

/-- Where a response to `v` comes from. -/
inductive Answered [InterfaceSink σ] (T : SeedTree ι) (s s' : SeedNet ι σ N S C) (v p : ι) :
    SeedCall ι SeedResponse → Prop
  | root {req} (hroot : T.parent p = none) (hreq : req ∈ (s.node v).requests)
      (h : s'.router p = (s.router p).exec (.at s.now, req.msg.op (T.up v))) :
      Answered T s s' v p
        ⟨req.id, req.owner, Delegation.answer (T.link v p) (s.router p) s.now req.msg⟩
  | served {g req res} (hg : T.parent p = some g) (hreq : req ∈ (s.node v).requests)
      (hout : (taking T s v p req.msg).1 = .answer res)
      (h : s'.router p = (taking T s v p req.msg).2) :
      Answered T s s' v p ⟨req.id, req.owner, res⟩
  | resumed {c : SeedClient ι} {g call handler sent res}
      (hres : Resumes T s p g call handler c sent) (hc : c.child = v)
      (hout : (resuming T s p g handler call.msg).1 = .answer res)
      (h : s'.router p = (resuming T s p g handler call.msg).2) :
      Answered T s s' v p ⟨c.id, c.owner, res⟩
  | gaveUp {c : SeedClient ι} {handler res} (htask : (s.node p).task = some (handler, c))
      (hc : c.child = v) (hout : handler.giveUp = .answer res) :
      Answered T s s' v p ⟨c.id, c.owner, res⟩

/-- Where a request of `v` comes from. -/
inductive Asked (T : SeedTree ι) (s : SeedNet ι σ N S C) (v : ι) :
    SeedLabel ι σ → SeedCall ι SeedRequest → Prop
  | assign : Asked T s v (.assign v) ⟨(s.node v).next, v, .assign⟩
  | refresh {lease ends} (hlease : (s.node v).lease = some (lease, ends)) :
      Asked T s v (.refresh v)
        ⟨(s.node v).next, v, .refresh lease.netId lease.refreshToken⟩
  | release {lease ends} (hlease : (s.node v).lease = some (lease, ends)) :
      Asked T s v (.release v)
        ⟨(s.node v).next, v, .release lease.netId lease.refreshToken⟩
  | served {w p : ι} {l : SeedLabel ι σ} {req msg handler} (hw : T.parent w = some v)
      (hp : T.parent v = some p) (hreq : req ∈ (s.node w).requests)
      (hout : (taking T s w v req.msg).1 = .ask msg handler) :
      Asked T s v l ⟨(s.node v).next, req.owner, msg⟩
  | resumed {p : ι} {c : SeedClient ι} {l : SeedLabel ι σ} {call handler sent msg handler'}
      (hres : Resumes T s v p call handler c sent)
      (hout : (resuming T s v p handler call.msg).1 = .ask msg handler') :
      Asked T s v l ⟨(s.node v).next, c.owner, msg⟩

/-- Where the handler of `v` is. -/
inductive Tasked (T : SeedTree ι) (s s' : SeedNet ι σ N S C) (v : ι) : Prop
  | same (h : (s'.node v).task = (s.node v).task)
  | idle (h : (s'.node v).task = none)
  | takes {w p : ι} {req msg handler} (hw : T.parent w = some v) (hp : T.parent v = some p)
      (hreq : req ∈ (s.node w).requests) (hidle : (s.node v).task = none)
      (hout : (taking T s w v req.msg).1 = .ask msg handler)
      (h : (s'.node v).task = some (handler, ⟨w, req.id, req.owner⟩))
      (hr : s'.router v = (taking T s w v req.msg).2)
  | rollsBack {c : SeedClient ι} {e}
      (h : (s'.node v).task = some (.rollingBack (s.node v).next s.now e, c))

/-- Where the router of `v` comes from. -/
inductive Routed [InterfaceSink σ] (T : SeedTree ι) (s s' : SeedNet ι σ N S C) (v : ι) :
    SeedLabel ι σ → Prop
  | same {l : SeedLabel ι σ} (h : s'.router v = s.router v) (htook : s'.took v = s.took v) :
      Routed T s s' v l
  | op {op} (hop : op.seedSource = none)
      (h : s'.router v = (s.router v).exec (.at s.now, op)) (htook : s'.took v = s.took v) :
      Routed T s s' v (.op v op)
  | root {w : ι} {call} (hw : T.parent w = some v) (hroot : T.parent v = none)
      (hcall : call ∈ (s.node w).requests)
      (h : s'.router v = (s.router v).exec (.at s.now, call.msg.op (T.up w)))
      (htook : s'.took v = s.took v) : Routed T s s' v (.serve w call.id)
  | served {w p : ι} {l : SeedLabel ι σ} {call} (hp : T.parent v = some p)
      (hcall : call ∈ (s.node w).requests) (hidle : (s.node v).task = none)
      (h : s'.router v = (taking T s w v call.msg).2)
      (htook : s'.took v = s.took v) : Routed T s s' v l
  | resumed {p : ι} {c : SeedClient ι} {call handler sent}
      (hres : Resumes T s v p call handler c sent)
      (h : s'.router v = (resuming T s v p handler call.msg).2)
      (hdone : ∀ res, (resuming T s v p handler call.msg).1 = .answer res →
        (s'.node v).task = none)
      (htook : ∀ k, s'.took v k = s.took v k ∨ s'.took v k = s.now - sent ∧
        ∃ res a, (resuming T s v p handler call.msg).1 = .answer res ∧ res.grant = some a ∧
          a.netId = k)
      (hnew : ∀ res a, (resuming T s v p handler call.msg).1 = .answer res →
        res.grant = some a → s'.took v a.netId = s.now - sent) :
      Routed T s s' v (.respond v call.id)

/-! ## Messages that go -/

theorem responses_of_setNode {nd : SeedNode ι} {call : SeedCall ι SeedResponse}
    (h : call ∈ ((s.setNode v nd).node w).responses)
    (hnd : ∀ call ∈ nd.responses, call ∈ (s.node v).responses) :
    call ∈ (s.node w).responses := by
  by_cases hw : w = v
  · subst hw
    rw [setNode_self] at h
    exact hnd call h
  · rwa [setNode_of_ne _ hw] at h

theorem requests_of_setNode {nd : SeedNode ι} {call : SeedCall ι SeedRequest}
    (h : call ∈ ((s.setNode v nd).node w).requests)
    (hnd : ∀ call ∈ nd.requests, call ∈ (s.node v).requests) :
    call ∈ (s.node w).requests := by
  by_cases hw : w = v
  · subst hw
    rw [setNode_self] at h
    exact hnd call h
  · rwa [setNode_of_ne _ hw] at h

theorem task_of_setNode {nd : SeedNode ι} (hnd : nd.task = (s.node v).task) (w : ι) :
    ((s.setNode v nd).node w).task = (s.node w).task := by
  by_cases hw : w = v
  · rw [hw, setNode_self, hnd]
  · rw [setNode_of_ne _ hw]

theorem lease_of_setNode {nd : SeedNode ι} (hnd : nd.lease = (s.node v).lease) (w : ι) :
    ((s.setNode v nd).node w).lease = (s.node w).lease := by
  by_cases hw : w = v
  · rw [hw, setNode_self, hnd]
  · rw [setNode_of_ne _ hw]

omit [DecidableEq ι] in
theorem of_mem_taken {nd : SeedNode ι} {id : Nat} {call : SeedCall ι SeedRequest}
    (h : call ∈ (nd.taken id).requests) : call ∈ nd.requests := (List.mem_filter.mp h).1

omit [DecidableEq ι] in
theorem of_mem_arrived {nd : SeedNode ι} {id : Nat} {call : SeedCall ι SeedResponse}
    (h : call ∈ (nd.arrived id).responses) : call ∈ nd.responses := (List.mem_filter.mp h).1

theorem record_eq (s : SeedNet ι σ N S C) (v : ι) (time : Nat) (out : SeedOutcome) :
    s.record v time out = { s with took := (s.record v time out).took } := by
  unfold record
  split
  · split
    · rfl
    · rfl
  · rfl

@[simp] theorem record_node (s : SeedNet ι σ N S C) (v : ι) (time : Nat) (out : SeedOutcome) :
    (s.record v time out).node = s.node := by
  rw [record_eq]

@[simp] theorem record_router (s : SeedNet ι σ N S C) (v : ι) (time : Nat) (out : SeedOutcome) :
    (s.record v time out).router = s.router := by
  rw [record_eq]

@[simp] theorem record_now (s : SeedNet ι σ N S C) (v : ι) (time : Nat) (out : SeedOutcome) :
    (s.record v time out).now = s.now := by
  rw [record_eq]

theorem record_took_of_ne (h : w ≠ v) (s : SeedNet ι σ N S C) (time : Nat) (out : SeedOutcome) :
    (s.record v time out).took w = s.took w := by
  unfold record
  split
  · split
    · exact Function.update_of_ne h _ _
    · rfl
  · rfl

theorem record_took (s : SeedNet ι σ N S C) (v : ι) (time : Nat) (out : SeedOutcome)
    (k : UInt16) : (s.record v time out).took v k = s.took v k ∨
      (s.record v time out).took v k = time ∧
        ∃ res a, out = .answer res ∧ res.grant = some a ∧ a.netId = k := by
  unfold record
  split
  · next res =>
    split
    · next a ha =>
      show Function.update s.took v (Function.update (s.took v) a.netId time) v k = _ ∨
        Function.update s.took v (Function.update (s.took v) a.netId time) v k = _ ∧ _
      rw [Function.update_self]
      by_cases hk : k = a.netId
      · subst hk
        exact .inr ⟨Function.update_self _ _ _, res, a, rfl, ha, rfl⟩
      · exact .inl (Function.update_of_ne hk _ _)
    · exact .inl rfl
  · exact .inl rfl

theorem record_took_self (s : SeedNet ι σ N S C) (v : ι) (time : Nat) {res : SeedResponse}
    {a : SeedNetAssignment} (ha : res.grant = some a) :
    (s.record v time (.answer res)).took v a.netId = time := by
  simp only [record, ha, Function.update_self]

/-- A handler that answers is done. -/
theorem follow_done {res : SeedResponse} (h : out.1 = .answer res) :
    ((s.follow p c out).node p).task = none := by
  simp only [follow, h]
  rw [reply_node, setNode_self]

namespace Step

variable [InterfaceSink σ]

theorem now_le (hs : Step T s l s') : s.now ≤ s'.now := by
  cases hs with
  | tick => exact Nat.le_add_right _ _
  | respond =>
    rw [record_now, follow_now]
    exact Nat.le_refl _
  | serve =>
    rw [SeedNet.serve, follow_now]
    exact Nat.le_refl _
  | timeout =>
    rw [follow_now]
  | _ => exact Nat.le_refl _

theorem answered (hs : Step T s l s') (hj : Jobs T s) (hp : T.parent v = some p)
    {call : SeedCall ι SeedResponse} (hc : call ∈ (s'.node v).responses) :
    call ∈ (s.node v).responses ∨ Answered T s s' v p call := by
  cases hs with
  | idle => exact .inl hc
  | tick => exact .inl hc
  | op => exact .inl hc
  | assign => exact .inl (responses_of_setNode hc fun _ h => h)
  | refresh => exact .inl (responses_of_setNode hc fun _ h => h)
  | release => exact .inl (responses_of_setNode hc fun _ h => h)
  | @serveRoot w q req hq hroot hreq =>
    rcases mem_reply_responses hc with hc | ⟨rfl, rfl⟩
    · exact .inl (responses_of_setNode hc fun _ h => h)
    · cases hp.symm.trans hq
      refine .inr (.root hroot hreq ?_)
      exact setRouter_self _ _ _
  | @serve w q g req hq hg hreq hidle =>
    have hself : (s.setNode w ((s.node w).taken req.id)).node q = s.node q :=
      setNode_of_ne _ (child_ne hq).symm _
    rcases mem_follow_responses hc with hc | ⟨res, hout, rfl, rfl⟩
    · exact .inl (responses_of_setNode hc fun _ h => h)
    · cases hp.symm.trans hq
      refine .inr (.served hg hreq hout ?_)
      rw [SeedNet.serve, follow_router, setRouter_self]
  | accept =>
    have hc := responses_of_setNode hc fun _ h => by rw [setNode_self]; exact h
    exact .inl (responses_of_setNode hc fun _ h => of_mem_arrived h)
  | drop => exact .inl (responses_of_setNode hc fun _ h => of_mem_arrived h)
  | @respond u q sub handler c sent hq hsub htask hawaits hle =>
    rw [record_node] at hc
    rcases mem_follow_responses hc with hc | ⟨res, hout, rfl, rfl⟩
    · exact .inl (responses_of_setNode hc fun _ h => of_mem_arrived h)
    · obtain ⟨hparent, -, -⟩ := hj.clients u handler c htask
      cases hp.symm.trans hparent
      refine .inr (.resumed ⟨hq, hsub, htask, hawaits, hle⟩ rfl hout ?_)
      rw [record_router, follow_router, setRouter_self]
  | lose => exact .inl (responses_of_setNode hc fun _ h => of_mem_arrived h)
  | @timeout u handler c htask =>
    rcases mem_follow_responses hc with hc | ⟨res, hout, rfl, rfl⟩
    · exact .inl hc
    · obtain ⟨hparent, -, -⟩ := hj.clients u handler c htask
      cases hp.symm.trans hparent
      exact .inr (.gaveUp htask rfl hout)

theorem asked (hs : Step T s l s') {call : SeedCall ι SeedRequest}
    (hc : call ∈ (s'.node v).requests) :
    call ∈ (s.node v).requests ∨ Asked T s v l call := by
  cases hs with
  | idle => exact .inl hc
  | tick => exact .inl hc
  | op => exact .inl hc
  | @assign w =>
    by_cases hv : v = w
    · subst hv
      rw [setNode_self] at hc
      rcases List.mem_append.mp hc with hc | hc
      · exact .inl hc
      · cases List.mem_singleton.mp hc
        exact .inr .assign
    · rw [setNode_of_ne _ hv] at hc
      exact .inl hc
  | @refresh w lease ends hlease =>
    by_cases hv : v = w
    · subst hv
      rw [setNode_self] at hc
      rcases List.mem_append.mp hc with hc | hc
      · exact .inl hc
      · cases List.mem_singleton.mp hc
        exact .inr (.refresh hlease)
    · rw [setNode_of_ne _ hv] at hc
      exact .inl hc
  | @release w lease ends hlease =>
    by_cases hv : v = w
    · subst hv
      rw [setNode_self] at hc
      rcases List.mem_append.mp hc with hc | hc
      · exact .inl hc
      · cases List.mem_singleton.mp hc
        exact .inr (.release hlease)
    · rw [setNode_of_ne _ hv] at hc
      exact .inl hc
  | serveRoot =>
    rw [SeedNet.serveRoot, reply_node] at hc
    exact .inl (requests_of_setNode hc fun _ h => of_mem_taken h)
  | @serve w q g req hq hg hreq hidle =>
    have hself : (s.setNode w ((s.node w).taken req.id)).node q = s.node q :=
      setNode_of_ne _ (child_ne hq).symm _
    rcases mem_follow_requests hc with hc | ⟨msg, handler, hout, rfl, rfl⟩
    · exact .inl (requests_of_setNode hc fun _ h => of_mem_taken h)
    · rw [hself]
      exact .inr (.served hq hg hreq hout)
  | accept =>
    have hc := requests_of_setNode hc fun _ h => by rw [setNode_self]; exact h
    exact .inl (requests_of_setNode hc fun _ h => h)
  | drop => exact .inl (requests_of_setNode hc fun _ h => h)
  | @respond u q sub handler c sent hq hsub htask hawaits hle =>
    rw [record_node] at hc
    rcases mem_follow_requests hc with hc | ⟨msg, handler', hout, rfl, rfl⟩
    · exact .inl (requests_of_setNode hc fun _ h => h)
    · rw [setNode_self]
      exact .inr (.resumed ⟨hq, hsub, htask, hawaits, hle⟩ hout)
  | lose => exact .inl (requests_of_setNode hc fun _ h => of_mem_taken h)
  | @timeout u handler c htask =>
    rcases mem_follow_requests hc with hc | ⟨msg, handler', hout, rfl, rfl⟩
    · exact .inl hc
    · cases handler <;> cases hout

theorem leased (hs : Step T s l s') : (s'.node v).lease = (s.node v).lease ∨
    (s'.node v).lease = none ∨ ∃ p call, T.parent v = some p ∧ call ∈ (s.node v).responses ∧
      (s'.node v).lease = ((s.node v).accept (T.up v) s.now call.msg).lease := by
  cases hs with
  | assign => exact .inl (lease_of_setNode (by rfl) v)
  | refresh => exact .inl (lease_of_setNode (by rfl) v)
  | @release w =>
    by_cases hv : v = w
    · subst hv
      rw [setNode_self]
      exact .inr (.inl rfl)
    · rw [setNode_of_ne _ hv]
      exact .inl rfl
  | serveRoot =>
    rw [SeedNet.serveRoot, reply_node]
    exact .inl (lease_of_setNode (by rfl) v)
  | serve =>
    rw [SeedNet.serve, follow_lease]
    exact .inl (lease_of_setNode (by rfl) v)
  | @accept w p call hp hcall =>
    by_cases hv : v = w
    · subst hv
      rw [setNode_self]
      exact .inr (.inr ⟨p, call, hp, hcall, rfl⟩)
    · rw [setNode_of_ne _ hv, setNode_of_ne _ hv]
      exact .inl rfl
  | drop => exact .inl (lease_of_setNode (by rfl) v)
  | respond =>
    rw [record_node, follow_lease]
    exact .inl (lease_of_setNode (by rfl) v)
  | lose => exact .inl (lease_of_setNode (by rfl) v)
  | timeout => exact .inl follow_lease
  | _ => exact .inl rfl

theorem tasked (hs : Step T s l s') (v : ι) : Tasked T s s' v := by
  cases hs with
  | assign => exact .same (task_of_setNode (by rfl) v)
  | refresh => exact .same (task_of_setNode (by rfl) v)
  | release => exact .same (task_of_setNode (by rfl) v)
  | serveRoot =>
    refine .same ?_
    rw [SeedNet.serveRoot, reply_node]
    exact task_of_setNode (by rfl) v
  | @serve w p g req hp hg hreq hidle =>
    rcases (s.setNode w ((s.node w).taken req.id)).follow_task p ⟨w, req.id, req.owner⟩
      (taking T s w p req.msg) v with
      htask | hnone | ⟨msg, handler, hout, rfl, htask⟩
    · exact .same (htask.trans (task_of_setNode (by rfl) v))
    · exact .idle hnone
    · refine .takes hp hg hreq hidle hout htask ?_
      rw [SeedNet.serve, follow_router, setRouter_self]
  | accept =>
    refine .same ((task_of_setNode ?_ v).trans (task_of_setNode (by rfl) v))
    rw [setNode_self]
    rfl
  | drop => exact .same (task_of_setNode (by rfl) v)
  | @respond u p call handler c sent hp hcall htask hawaits hle =>
    rcases (s.setNode u ((s.node u).arrived call.id)).follow_task u c
      (resuming T s u p handler call.msg) v with
      heq | hnone | ⟨msg, handler', hout, rfl, heq⟩
    · exact .same (by rw [record_node]; exact heq.trans (task_of_setNode (by rfl) v))
    · exact .idle (by rw [record_node]; exact hnone)
    · obtain ⟨-, e, rfl⟩ := Router.takeResponse_ask hout
      exact .rollsBack ((congrArg (fun n => (n v).task) (record_node _ _ _ _)).trans heq)
  | lose => exact .same (task_of_setNode (by rfl) v)
  | @timeout u handler c htask =>
    rcases s.follow_task u c (handler.giveUp, s.router u) v with
      heq | hnone | ⟨msg, handler', hout, rfl, heq⟩
    · exact .same heq
    · exact .idle hnone
    · cases handler <;> cases hout
  | _ => exact .same rfl

theorem routed (hs : Step T s l s') (v : ι) : Routed T s s' v l := by
  cases hs with
  | @op w op hop =>
    by_cases hv : v = w
    · subst hv
      exact .op hop (setRouter_self _ _ _) rfl
    · exact .same (setRouter_of_ne _ hv _) rfl
  | @serveRoot w q req hq hroot hreq =>
    by_cases hv : v = q
    · subst hv
      exact .root hq hroot hreq (setRouter_self _ _ _) rfl
    · exact .same (setRouter_of_ne _ hv _) rfl
  | @serve w q g req hq hg hreq hidle =>
    rw [SeedNet.serve]
    by_cases hv : v = q
    · subst hv
      refine .served hg hreq hidle ?_ (by rw [follow_took]; rfl)
      rw [follow_router, setRouter_self]
    · refine .same ?_ (by rw [follow_took]; rfl)
      rw [follow_router, setRouter_of_ne _ hv]
      rfl
  | @respond u q sub handler c sent hq hsub htask hawaits hle =>
    by_cases hv : v = u
    · subst hv
      have htook : ((s.setNode v ((s.node v).arrived sub.id)).follow v c
          (resuming T s v q handler sub.msg)).took = s.took := follow_took
      refine .resumed ⟨hq, hsub, htask, hawaits, hle⟩ ?_ ?_ ?_ ?_
      · rw [record_router, follow_router, setRouter_self]
      · intro res hout
        rw [record_node]
        exact follow_done hout
      · intro k
        rw [← htook]
        exact record_took _ _ _ _ _
      · intro res a hout ha
        rw [hout]
        exact record_took_self _ _ _ ha
    · refine .same ?_ ?_
      · rw [record_router, follow_router, setRouter_of_ne _ hv]
        rfl
      · rw [record_took_of_ne hv, follow_took]
        rfl
  | @timeout u handler c htask =>
    refine .same ?_ (by rw [follow_took])
    rw [follow_router]
    exact congrFun (Function.update_eq_self u s.router) v
  | _ => exact .same rfl rfl

end Step

omit [DecidableEq ι] in
/-- Whatever happens, a router performs at most one operation. -/
theorem Routed.exec [InterfaceSink σ] (h : Routed T s s' v l) : s'.router v = s.router v ∨
    ∃ op : Op σ, s'.router v = (s.router v).exec (.at s.now, op) := by
  cases h with
  | same h => exact .inl h
  | op _ h => exact .inr ⟨_, h⟩
  | root _ _ _ h => exact .inr ⟨_, h⟩
  | served _ _ _ h =>
    rw [h]
    exact .inr (Router.takeRequest_exec _ _ _ _ _)
  | resumed _ h =>
    rw [h]
    exact Router.takeResponse_exec _ _ _ _ _ _

omit [DecidableEq ι] in
theorem Routed.wf [InterfaceSink σ] (h : Routed T s s' v l) (hwf : (s.router v).Wf) :
    (s'.router v).Wf := by
  rcases h.exec with heq | ⟨op, heq⟩
  · rwa [heq]
  · rw [heq]
    exact hwf.exec _

end SeedNet

end Ergot
