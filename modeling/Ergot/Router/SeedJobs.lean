import Ergot.Router.SeedTree

/-!
# The exchanges of a tree

An RPC of a node is a request, then the task of the handler above, and then a response, and it
keeps its id and its owner. The handler of the node, as long as it waits for it, knows what it
asked: `SeedNet.Jobs` is the invariant, `Jobs.step` the step lemma.
-/

namespace Ergot

open Runs

namespace SeedHandler

/-- The net id that the parent is asked to refresh, and with which token. -/
def asked : SeedHandler → Option (UInt16 × Token)
  | .refreshing _ _ _ net _ parent => some (net, parent.refreshToken)
  | _ => none

/-- The refresh that the requester asked for. -/
def does : SeedHandler → Option (UInt16 × Token)
  | .refreshing _ _ _ net tok _ => some (net, tok)
  | _ => none

/-- The network of the requester. -/
def source : SeedHandler → Option UInt16
  | .assigning _ _ src _ | .refreshing _ _ src _ _ _ | .releasing _ _ src _ _ => some src
  | _ => none

end SeedHandler

namespace SeedNet

variable {ι σ : Type} {N S C : ι → Nat} {T : SeedTree ι}
  {s s' : SeedNet ι σ N S C} {v p w : ι}

/-! ## The invariant -/

/-- The handler that waits for the RPC of `c`, if there is one, is busy for the same holder,
and what it asked to refresh is `P`. -/
def Fits (s : SeedNet ι σ N S C) (c : SeedClient ι) (P : UInt16 × Token → Prop) : Prop :=
  ∀ h c' t, (s.node c.child).task = some (h, c') → h.awaits = some (c.id, t) →
    c.owner = c'.owner ∧ ∀ q, h.asked = some q → P q

structure Jobs (T : SeedTree ι) (s : SeedNet ι σ N S C) : Prop where
  clients : ∀ p h c, (s.node p).task = some (h, c) → T.parent c.child = some p ∧
    c.id < (s.node c.child).next ∧ ∀ src, h.source = some src → src = T.up c.child
  waits : ∀ v h c id t, (s.node v).task = some (h, c) → h.awaits = some (id, t) →
    id < (s.node v).next ∧ t ≤ s.now
  requestIds : ∀ v, ∀ call ∈ (s.node v).requests, call.id < (s.node v).next
  responseIds : ∀ v, ∀ call ∈ (s.node v).responses, call.id < (s.node v).next
  requests : ∀ v, ∀ call ∈ (s.node v).requests,
    s.Fits ⟨v, call.id, call.owner⟩ fun q => call.msg = .refresh q.1 q.2
  jobs : ∀ p h c, (s.node p).task = some (h, c) → s.Fits c fun q => h.does = some q
  responses : ∀ v, ∀ call ∈ (s.node v).responses, s.Fits ⟨v, call.id, call.owner⟩
    fun q => ∀ a, call.msg = .refreshed (.ok a) → a.netId = q.1

/-- A child is not its parent. -/
theorem child_ne (hp : T.parent v = some p) : v ≠ p := by
  rintro rfl
  have := T.depth_parent hp
  omega

/-- What a node has less when messages are delivered or lost, or its handler is done. -/
structure Sheds (nd nd' : SeedNode ι) : Prop where
  next : nd'.next = nd.next
  task : nd'.task = nd.task ∨ nd'.task = none
  requests : ∀ call ∈ nd'.requests, call ∈ nd.requests
  responses : ∀ call ∈ nd'.responses, call ∈ nd.responses

theorem Sheds.refl (nd : SeedNode ι) : Sheds nd nd :=
  { next := rfl, task := .inl rfl, requests := fun _ h => h, responses := fun _ h => h }

theorem Sheds.task_some {nd nd' : SeedNode ι} (h : Sheds nd nd')
    {x : SeedHandler × SeedClient ι} (hx : nd'.task = some x) : nd.task = some x := by
  rcases h.task with heq | heq
  · rw [← heq, hx]
  · rw [heq] at hx
    cases hx

theorem Fits.mono {c : SeedClient ι} {P Q : UInt16 × Token → Prop} (h : s.Fits c P)
    (htask : ∀ x, (s'.node c.child).task = some x → (s.node c.child).task = some x)
    (hPQ : ∀ q, P q → Q q) : s'.Fits c Q := by
  intro handler c' t ht ha
  obtain ⟨howner, hq⟩ := h handler c' t (htask _ ht) ha
  exact ⟨howner, fun q hasked => hPQ q (hq q hasked)⟩

/-- A handler with a new job, that of `c`: it waits for an RPC that is new too. -/
structure Starts (T : SeedTree ι) (s s' : SeedNet ι σ N S C) (p : ι) (h : SeedHandler)
    (c : SeedClient ι) : Prop where
  parent : T.parent c.child = some p
  id_lt : c.id < (s.node c.child).next
  source : ∀ src, h.source = some src → src = T.up c.child
  awaits : ∀ id t, h.awaits = some (id, t) →
    (s.node p).next ≤ id ∧ id < (s'.node p).next ∧ t ≤ s'.now
  does : s.Fits c fun q => h.does = some q

/-- Of a state that keeps or drops what there was, only what is new must be shown to fit. -/
theorem Jobs.extend (h : Jobs T s) (hnow : s.now ≤ s'.now)
    (hnext : ∀ w, (s.node w).next ≤ (s'.node w).next)
    (htask : ∀ p hh c, (s'.node p).task = some (hh, c) →
      (s.node p).task = some (hh, c) ∨ Starts T s s' p hh c)
    (hreq : ∀ w, ∀ call ∈ (s'.node w).requests, call ∈ (s.node w).requests ∨
      call.id < (s'.node w).next ∧
        s'.Fits ⟨w, call.id, call.owner⟩ fun q => call.msg = .refresh q.1 q.2)
    (hresp : ∀ w, ∀ call ∈ (s'.node w).responses, call ∈ (s.node w).responses ∨
      call.id < (s.node w).next ∧ s.Fits ⟨w, call.id, call.owner⟩
        fun q => ∀ a, call.msg = .refreshed (.ok a) → a.netId = q.1) : Jobs T s' := by
  -- a handler that is new waits for no RPC that was there
  have hfits : ∀ (c : SeedClient ι) P, c.id < (s.node c.child).next → s.Fits c P →
      s'.Fits c P := by
    intro c P hc hP handler c' t ht ha
    rcases htask c.child handler c' ht with hold | hnew
    · exact hP handler c' t hold ha
    · have := (hnew.awaits c.id t ha).1
      omega
  constructor
  case clients =>
    intro p hh c ht
    rcases htask p hh c ht with hold | hnew
    · obtain ⟨hparent, hid, hsrc⟩ := h.clients p hh c hold
      exact ⟨hparent, Nat.lt_of_lt_of_le hid (hnext _), hsrc⟩
    · exact ⟨hnew.parent, Nat.lt_of_lt_of_le hnew.id_lt (hnext _), hnew.source⟩
  case waits =>
    intro v hh c id t ht ha
    rcases htask v hh c ht with hold | hnew
    · obtain ⟨hid, hle⟩ := h.waits v hh c id t hold ha
      exact ⟨Nat.lt_of_lt_of_le hid (hnext v), Nat.le_trans hle hnow⟩
    · exact (hnew.awaits id t ha).2
  case requestIds =>
    intro v call hc
    rcases hreq v call hc with hold | hnew
    · exact Nat.lt_of_lt_of_le (h.requestIds v call hold) (hnext v)
    · exact hnew.1
  case responseIds =>
    intro v call hc
    rcases hresp v call hc with hold | hnew
    · exact Nat.lt_of_lt_of_le (h.responseIds v call hold) (hnext v)
    · exact Nat.lt_of_lt_of_le hnew.1 (hnext v)
  case requests =>
    intro v call hc
    rcases hreq v call hc with hold | hnew
    · exact hfits _ _ (h.requestIds v call hold) (h.requests v call hold)
    · exact hnew.2
  case jobs =>
    intro p hh c ht
    rcases htask p hh c ht with hold | hnew
    · exact hfits _ _ (h.clients p hh c hold).2.1 (h.jobs p hh c hold)
    · exact hfits _ _ hnew.id_lt hnew.does
  case responses =>
    intro v call hc
    rcases hresp v call hc with hold | hnew
    · exact hfits _ _ (h.responseIds v call hold) (h.responses v call hold)
    · exact hfits _ _ hnew.1 hnew.2

/-- Messages go, and handlers become idle. -/
theorem Jobs.sheds (h : Jobs T s) (hnow : s.now ≤ s'.now)
    (hnode : ∀ v, Sheds (s.node v) (s'.node v)) : Jobs T s' := by
  refine h.extend hnow (fun v => ?_) (fun p hh c ht => ?_) (fun v call hc => ?_) fun v call hc => ?_
  · rw [(hnode v).next]
  · exact .inl ((hnode p).task_some ht)
  · exact .inl ((hnode v).requests call hc)
  · exact .inl ((hnode v).responses call hc)

variable [DecidableEq ι]

/-! ## Updates -/

@[simp] theorem setNode_self (s : SeedNet ι σ N S C) (v : ι) (nd : SeedNode ι) :
    (s.setNode v nd).node v = nd := Function.update_self _ _ _

theorem setNode_of_ne (s : SeedNet ι σ N S C) (h : w ≠ v) (nd : SeedNode ι) :
    (s.setNode v nd).node w = s.node w := Function.update_of_ne h _ _

@[simp] theorem setNode_router (s : SeedNet ι σ N S C) (v : ι) (nd : SeedNode ι) :
    (s.setNode v nd).router = s.router := rfl

@[simp] theorem setNode_now (s : SeedNet ι σ N S C) (v : ι) (nd : SeedNode ι) :
    (s.setNode v nd).now = s.now := rfl

@[simp] theorem setRouter_node (s : SeedNet ι σ N S C) (v : ι)
    (r : Router σ (N v) (S v) (C v)) : (s.setRouter v r).node = s.node := rfl

@[simp] theorem setRouter_self (s : SeedNet ι σ N S C) (v : ι)
    (r : Router σ (N v) (S v) (C v)) : (s.setRouter v r).router v = r :=
  Function.update_self _ _ _

theorem setRouter_of_ne (s : SeedNet ι σ N S C) (h : w ≠ v) (r : Router σ (N v) (S v) (C v)) :
    (s.setRouter v r).router w = s.router w := Function.update_of_ne h _ _

@[simp] theorem setRouter_now (s : SeedNet ι σ N S C) (v : ι)
    (r : Router σ (N v) (S v) (C v)) : (s.setRouter v r).now = s.now := rfl

namespace Jobs

/-- One node changes. -/
theorem setNode (h : Jobs T s) {nd : SeedNode ι} (hnext : (s.node v).next ≤ nd.next)
    (htask : ∀ hh c, nd.task = some (hh, c) →
      (s.node v).task = some (hh, c) ∨ Starts T s (s.setNode v nd) v hh c)
    (hreq : ∀ call ∈ nd.requests, call ∈ (s.node v).requests ∨ call.id < nd.next ∧
      (s.setNode v nd).Fits ⟨v, call.id, call.owner⟩ fun q => call.msg = .refresh q.1 q.2)
    (hresp : ∀ call ∈ nd.responses, call ∈ (s.node v).responses ∨ call.id < (s.node v).next ∧
      s.Fits ⟨v, call.id, call.owner⟩
        fun q => ∀ a, call.msg = .refreshed (.ok a) → a.netId = q.1) :
    Jobs T (s.setNode v nd) := by
  refine h.extend (Nat.le_refl _) (fun w => ?_) (fun w hh c ht => ?_) (fun w call hc => ?_)
    fun w call hc => ?_ <;> by_cases hw : w = v
  · rw [hw, setNode_self]
    exact hnext
  · rw [setNode_of_ne s hw]
  · rw [hw, setNode_self] at ht
    exact hw ▸ htask hh c ht
  · rw [setNode_of_ne s hw] at ht
    exact .inl ht
  · rw [hw, setNode_self] at hc
    rw [hw, setNode_self]
    exact hreq call hc
  · rw [setNode_of_ne s hw] at hc
    exact .inl hc
  · rw [hw, setNode_self] at hc
    exact hw ▸ hresp call hc
  · rw [setNode_of_ne s hw] at hc
    exact .inl hc

/-- A node sends a request: its holder, or its handler for the requester `c`. -/
theorem sends (h : Jobs T s) {nd : SeedNode ι} (call : SeedCall ι SeedRequest)
    (hid : call.id = (s.node v).next) (hnext : nd.next = (s.node v).next + 1)
    (hreq : nd.requests = (s.node v).requests ++ [call])
    (hresp : nd.responses = (s.node v).responses)
    (htask : nd.task = (s.node v).task ∨ ∃ handler c, nd.task = some (handler, c) ∧
      call.owner = c.owner ∧ (∀ q, handler.asked = some q → call.msg = .refresh q.1 q.2) ∧
      Starts T s (s.setNode v nd) v handler c) : Jobs T (s.setNode v nd) := by
  refine h.setNode (by omega) (fun hh c ht => ?_) (fun call' hc => ?_) fun call' hc => ?_
  · rcases htask with heq | ⟨handler', c', heq, -, -, hstarts⟩
    · exact .inl (heq ▸ ht)
    · rw [heq] at ht
      cases ht
      exact .inr hstarts
  · rw [hreq] at hc
    rcases List.mem_append.mp hc with hc | hc
    · exact .inl hc
    · cases List.mem_singleton.mp hc
      refine .inr ⟨by omega, ?_⟩
      -- only the handler that sends it can wait for it
      intro handler c' t ht ha
      have ht : nd.task = some (handler, c') := (setNode_self s v nd) ▸ ht
      rcases htask with heq | ⟨handler', c'', heq, howner, hasked, -⟩
      · rw [heq] at ht
        have hlt : call.id < (s.node v).next := (h.waits v handler c' _ t ht ha).1
        omega
      · rw [heq] at ht
        cases ht
        exact ⟨howner, hasked⟩
  · exact .inl (hresp ▸ hc)

/-- A handler answers. -/
theorem reply (h : Jobs T s) {c : SeedClient ι} {res : SeedResponse}
    (hid : c.id < (s.node c.child).next)
    (hfits : s.Fits c fun q => ∀ a, res = .refreshed (.ok a) → a.netId = q.1) :
    Jobs T (s.reply c res) := by
  refine h.setNode (Nat.le_refl _) (fun _ _ ht => .inl ht) (fun _ hc => .inl hc) fun call hc => ?_
  rcases List.mem_append.mp hc with hc | hc
  · exact .inl hc
  · cases List.mem_singleton.mp hc
    exact .inr ⟨hid, hfits⟩

/-- A message of `v` has been delivered. -/
theorem delivered (h : Jobs T s) {nd : SeedNode ι} (hnd : Sheds (s.node v) nd) :
    Jobs T (s.setNode v nd) :=
  h.setNode (Nat.le_of_eq hnd.next.symm) (fun _ _ ht => .inl (hnd.task_some ht))
    (fun call hc => .inl (hnd.requests call hc)) fun call hc => .inl (hnd.responses call hc)

/-- A handler goes on with the request of `c`. -/
theorem follow (h : Jobs T s) {c : SeedClient ι} {out : SeedOutcome × Router σ (N p) (S p) (C p)}
    (hp : T.parent c.child = some p) (hid : c.id < (s.node c.child).next)
    (hanswer : ∀ res, out.1 = .answer res →
      s.Fits c fun q => ∀ a, res = .refreshed (.ok a) → a.netId = q.1)
    (hask : ∀ req handler, out.1 = .ask req handler →
      (∀ src, handler.source = some src → src = T.up c.child) ∧
      handler.awaits = some ((s.node p).next, s.now) ∧
      (∀ q, handler.asked = some q → req = .refresh q.1 q.2) ∧
      s.Fits c fun q => handler.does = some q) : Jobs T (s.follow p c out) := by
  obtain ⟨out, r⟩ := out
  have hr : Jobs T (s.setRouter p r) :=
    h.sheds (Nat.le_refl _) fun v => .refl (s.node v)
  cases out with
  | wait => exact hr
  | ask req handler =>
    obtain ⟨hsrc, hawaits, hasked, hdoes⟩ := hask req handler rfl
    refine hr.sends ⟨(s.node p).next, c.owner, req⟩ rfl rfl rfl rfl
      (.inr ⟨handler, c, rfl, rfl, hasked, ?_⟩)
    refine { parent := hp, id_lt := hid, source := hsrc, awaits := fun id t ha => ?_, does := hdoes }
    cases hawaits.symm.trans ha
    rw [setNode_self]
    exact ⟨Nat.le_refl _, Nat.lt_succ_self _, Nat.le_refl _⟩
  | answer res =>
    have hne := child_ne hp
    have hidle : Jobs T ((s.setRouter p r).setNode p { s.node p with task := none }) :=
      hr.delivered
        { next := rfl, task := .inr rfl, requests := fun _ h => h, responses := fun _ h => h }
    have hchild : ((s.setRouter p r).setNode p { s.node p with task := none }).node c.child =
        s.node c.child := setNode_of_ne _ hne _
    refine hidle.reply (hchild ▸ hid) ?_
    exact (hanswer res rfl).mono (fun x hx => hchild ▸ hx) fun _ hq => hq

omit [DecidableEq ι] in
theorem sheds_taken (nd : SeedNode ι) (id : Nat) : Sheds nd (nd.taken id) :=
  { next := rfl, task := .inl rfl, requests := fun _ hc => (List.mem_filter.mp hc).1
    responses := fun _ hc => hc }

omit [DecidableEq ι] in
theorem sheds_arrived (nd : SeedNode ι) (id : Nat) : Sheds nd (nd.arrived id) :=
  { next := rfl, task := .inl rfl, requests := fun _ hc => hc
    responses := fun _ hc => (List.mem_filter.mp hc).1 }

theorem serve (h : Jobs T s) (hu : (s.router p).seedRoutes.keys.Nodup)
    (hkeys : ∀ k x e parent, (s.router p).seedRoutes.get k x = some e →
      e.extra.parent = some parent → parent.netId = k) (hp : T.parent v = some p)
    {call : SeedCall ι SeedRequest} (hcall : call ∈ (s.node v).requests) :
    Jobs T (s.serve T v p call) := by
  have hne := child_ne hp
  have hpn : (s.setNode v ((s.node v).taken call.id)).node p = s.node p :=
    setNode_of_ne _ hne.symm _
  have hfits : (s.setNode v ((s.node v).taken call.id)).Fits ⟨v, call.id, call.owner⟩
      fun q => call.msg = .refresh q.1 q.2 :=
    (h.requests v call hcall).mono (fun x hx => by rw [setNode_self] at hx; exact hx)
      fun _ hq => hq
  have hspec := (Router.takeRequest_spec hu s.now (s.node p).next (T.up v) call.msg).1
  unfold SeedNet.serve
  generalize (s.router p).takeRequest s.now (s.node p).next (T.up v) call.msg = out at hspec
  refine (h.delivered (sheds_taken _ call.id)).follow hp ?_ ?_ ?_
  · rw [setNode_self]
    exact h.requestIds v call hcall
  · intro res hout
    rw [hout] at hspec
    refine hfits.mono (fun _ hx => hx) ?_
    rintro q hq a rfl
    cases hmsg : call.msg with
    | refresh net tok =>
      rw [hmsg] at hspec hq
      cases hq
      cases hspec with
      | refused hres => cases hres
      | replayed he _ hparent => exact hkeys _ _ _ _ he hparent
    | assign =>
      rw [hmsg] at hq
      cases hq
    | release net tok =>
      rw [hmsg] at hq
      cases hq
  · intro req handler hout
    rw [hout] at hspec
    rw [hpn]
    generalize hmsg : call.msg = msg at hspec hfits
    cases hspec with
    | refreshing he _ hparent =>
      refine ⟨fun src hsrc => (Option.some.inj hsrc).symm, rfl, ?_, hfits.mono (fun _ hx => hx) ?_⟩
      · intro q hq
        cases hq
        rw [hkeys _ _ _ _ he hparent]
      · intro q hq
        cases hq
        rfl
    | assigning =>
      exact ⟨fun src hsrc => (Option.some.inj hsrc).symm, rfl, nofun,
        hfits.mono (fun _ hx => hx) nofun⟩
    | releasing =>
      exact ⟨fun src hsrc => (Option.some.inj hsrc).symm, rfl, nofun,
        hfits.mono (fun _ hx => hx) nofun⟩

theorem respond (h : Jobs T s) (L : SeedLink) {call : SeedCall ι SeedResponse}
    (hcall : call ∈ (s.node v).responses) {handler : SeedHandler} {c : SeedClient ι} {sent : Nat}
    (htask : (s.node v).task = some (handler, c))
    (hawaits : handler.awaits = some (call.id, sent)) :
    Jobs T ((s.setNode v ((s.node v).arrived call.id)).follow v c
      ((s.router v).takeResponse L s.now (s.node v).next handler call.msg)) := by
  obtain ⟨hparent, hid, hsrc⟩ := h.clients v handler c htask
  have hne := child_ne hparent
  have hcn : (s.setNode v ((s.node v).arrived call.id)).node c.child = s.node c.child :=
    setNode_of_ne _ hne _
  have hdoes : (s.setNode v ((s.node v).arrived call.id)).Fits c fun q => handler.does = some q :=
    (h.jobs v handler c htask).mono (fun x hx => hcn ▸ hx) fun _ hq => hq
  have hspec := (s.router v).takeResponse_spec L s.now (s.node v).next handler call.msg
  generalize (s.router v).takeResponse L s.now (s.node v).next handler call.msg = out at hspec
  refine (h.delivered (sheds_arrived _ call.id)).follow hparent (hcn ▸ hid) ?_ ?_
  · intro res hout
    refine hdoes.mono (fun _ hx => hx) ?_
    rintro q hq a rfl
    have hown := (h.responses v call hcall handler c sent htask hawaits).2
    obtain ⟨out, r⟩ := out
    cases hout
    generalize hmsg : call.msg = msg at hspec hown
    cases hspec with
    | refused _ hres => cases hres
    | @committed _ _ _ net _ parent assignment _ _ hcommit =>
      cases hq
      obtain ⟨-, -, -, -, -, -, -, -, rfl, -⟩ := Router.commitDelegatedRefresh_ok hcommit
      show assignment.netId = net
      exact hown (net, parent.refreshToken) rfl assignment rfl
  · intro req handler' hout
    obtain ⟨out, r⟩ := out
    cases hout
    generalize call.msg = msg at hspec
    cases hspec with
    | rollsBack =>
      refine ⟨nofun, ?_, nofun, hdoes.mono (fun _ hx => hx) nofun⟩
      rw [setNode_self]
      rfl

theorem timeout (h : Jobs T s) {handler : SeedHandler} {c : SeedClient ι}
    (htask : (s.node v).task = some (handler, c)) :
    Jobs T (s.follow v c (handler.giveUp, s.router v)) := by
  obtain ⟨hparent, hid, -⟩ := h.clients v handler c htask
  refine h.follow hparent hid ?_ ?_
  · intro res hout
    refine (h.jobs v handler c htask).mono (fun _ hx => hx) ?_
    rintro q hq a rfl
    cases handler <;> cases hout
  · intro req handler' hout
    cases handler <;> cases hout

variable [InterfaceSink σ]

theorem serveRoot (h : Jobs T s) {call : SeedCall ι SeedRequest}
    (hcall : call ∈ (s.node v).requests) : Jobs T (s.serveRoot T v p call) := by
  have htaken : Jobs T ((s.setNode v ((s.node v).taken call.id)).setRouter p
      ((s.router p).exec (.at s.now, call.msg.op (T.up v)))) :=
    (h.delivered (sheds_taken _ call.id)).sheds (Nat.le_refl _) fun w => .refl _
  refine htaken.reply ?_ ?_
  · rw [setRouter_node, setNode_self]
    exact h.requestIds v call hcall
  · refine (h.requests v call hcall).mono (fun x hx => ?_) ?_
    · rw [setRouter_node, setNode_self] at hx
      exact hx
    · intro q hq a hans
      rw [hq] at hans
      simp only [Delegation.answer, SeedResponse.refreshed.injEq] at hans
      rcases hres : (s.router p).refreshSeedNetAssignment (T.up v) q.1 q.2 s.now with ⟨res, r'⟩
      rw [SeedTree.link, hres] at hans
      obtain rfl : res = .ok a := hans
      obtain ⟨-, -, -, -, -, hnet, -⟩ := Router.refreshSeedNetAssignment_ok hres
      exact hnet

/-- The invariant is kept by every step. -/
theorem step (h : Jobs T s) (hwf : ∀ v, (s.router v).Wf)
    (hkeys : ∀ v k x e parent, (s.router v).seedRoutes.get k x = some e →
      e.extra.parent = some parent → parent.netId = k) {l : SeedLabel ι σ} (hs : Step T s l s') :
    Jobs T s' := by
  cases hs with
  | idle => exact h
  | tick => exact h.sheds (Nat.le_add_right _ _) fun v => .refl _
  | op => exact h.sheds (Nat.le_refl _) fun v => .refl _
  | assign => exact h.sends _ rfl rfl rfl rfl (.inl rfl)
  | refresh => exact h.sends _ rfl rfl rfl rfl (.inl rfl)
  | release => exact h.sends _ rfl rfl rfl rfl (.inl rfl)
  | serveRoot _ _ hcall => exact h.serveRoot hcall
  | serve hp _ hcall => exact h.serve (hwf _).directory.leases (hkeys _) hp hcall
  | @accept v p call hp hcall =>
    have hnd : Sheds ((s.node v).arrived call.id)
        (((s.node v).arrived call.id).accept (T.up v) s.now call.msg) :=
      { next := rfl, task := .inl rfl, requests := fun _ hc => hc, responses := fun _ hc => hc }
    refine (h.delivered (sheds_arrived _ call.id)).delivered ?_
    rw [setNode_self]
    exact hnd
  | drop => exact h.delivered (sheds_arrived _ _)
  | @respond v p call handler c sent _ hcall htask hawaits =>
    refine (h.respond (T.link v p) hcall htask hawaits).sheds ?_ fun w => ?_
    · unfold record
      split
      · split <;> exact Nat.le_refl _
      · exact Nat.le_refl _
    · unfold record
      split
      · split <;> exact .refl _
      · exact .refl _
  | @lose v id =>
    refine h.delivered ?_
    exact { next := rfl, task := .inl rfl
            requests := fun _ hc => (List.mem_filter.mp hc).1
            responses := fun _ hc => (List.mem_filter.mp hc).1 }
  | timeout htask => exact h.timeout htask

end Jobs

end SeedNet

end Ergot
