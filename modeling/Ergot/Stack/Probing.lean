import Ergot.Router.ClaimLeases
import Ergot.Stack.Recovery

/-!
# Devices that probe for a node id

Devices share a segment of a router. A device claims a node id (`bus_claim`), tries one candidate
after the other (`bus_claim_with_retry`) and refreshes what it was granted (`bus_claim_refresh`).
Its requests wait on the bus until the router takes them; the answers can be heard by every device
that waits for one. Requests and answers are lost, and calls are abandoned while their request is
still on its way. In between the router does anything else.

- `Bus.Inv`: the router's table bears out every lease that a device holds and every answer on the
  bus.
- `Bus.held_leases`: as long as no device takes another one's answer, no two devices hold one node
  id, and the router lets the frames of a holder through. A lease is told in whole seconds, which
  leaves the two bounds a second apart from the router's own.
-/

namespace Ergot

open Runs

/-! ## The calls of a device -/

/-- `ReqRespError`. -/
inductive ReqRespError
  | localError (e : NetStackSendError)
  | remoteError (e : ProtocolError)
  | noBroadcast
  | requestPending
deriving DecidableEq

/-- How a call ends without a lease: `ClaimClientError`, of which `bus_claim` returns the
`claim` cases once it has an answer. -/
inductive ProbeError
  | requestFailed (e : ReqRespError)
  | claim (e : ClaimClientError)
  | refreshDenied (e : AddressRefreshError)
  | noFreeCandidate
deriving DecidableEq

/-- `AddressClaimRequest` and `AddressRefreshRequest`, the latter with the address it is sent
to. -/
inductive BusRequest
  | claim (candidateNodeId : UInt8) (nonce : UInt64)
  | refresh (dst : Address) (nodeId : UInt8) (refreshToken : Token)
deriving DecidableEq

/-- What the router says to a request. -/
inductive BusAnswer
  | claim (res : Except AddressClaimError AddressClaimGranted)
  | refresh (res : Except AddressRefreshError NodeClaimAssignment)

/-- What an answer grants. -/
def BusAnswer.assignment : BusAnswer → Option NodeClaimAssignment
  | .claim (.ok granted) => some granted.assignment
  | .refresh (.ok assignment) => some assignment
  | .claim (.error _) | .refresh (.error _) => none

/-- An answer on the bus, whom it is for, and when the router gave it. -/
structure BusResponse (δ : Type) where
  asker : δ
  servedAt : Nat
  answer : BusAnswer

/-- The call a device waits in. Of the candidates that are left, `rest n` is what the iterator
returns after `n` more; a plain `bus_claim` has none. -/
inductive BusCall
  | claim (rest : Option (Nat → Option UInt8))
  | refresh (lease : NodeClaimLease)

/-- A lease, with the instant from which its seconds count. -/
structure HeldLease where
  lease : NodeClaimLease
  servedAt : Nat
deriving DecidableEq

/-- When the lease ends, by what the device was told. -/
def HeldLease.ends (h : HeldLease) : Nat := h.servedAt + secs h.lease.expiresSeconds.toNat

/-- A device: its net stack, the call it waits in, the lease it holds, and what its last call
returned. -/
structure BusDevice (κ P : Type) where
  stack : NetStack κ P
  call : Option BusCall
  held : Option HeldLease
  result : Option (Except ProbeError NodeClaimLease)

namespace BusDevice

variable {κ P ι : Type}

/-- The call returns. -/
def finish (v : BusDevice κ P) (res : Except ProbeError NodeClaimLease) : BusDevice κ P :=
  { v with call := none, result := some res }

/-- A call sends its request and waits, unless it cannot be sent. -/
def ask (v : BusDevice κ P) (call : BusCall) (req : BusRequest) :
    Option ReqRespError → BusDevice κ P × Option BusRequest
  | none => ({ v with call := some call }, some req)
  | some e => (v.finish (.error (.requestFailed e)), none)

/-- The loop of `bus_claim_with_retry`: on to the next candidate. -/
def tryNext (v : BusDevice κ P) (nonce : UInt64) (candidates : Nat → Option UInt8)
    (err : Option ReqRespError) : BusDevice κ P × Option BusRequest :=
  match candidates 0 with
  | none => (v.finish (.error .noFreeCandidate), none)
  | some candidate =>
    v.ask (.claim (some fun n => candidates (n + 1))) (.claim candidate nonce) err

/-- The lease `bus_claim_refresh` returns. -/
def refreshed (lease : NodeClaimLease) (a : NodeClaimAssignment) : NodeClaimLease :=
  { nodeId := a.nodeId
    netId := a.netId
    refreshAddr := lease.refreshAddr
    refreshToken := a.refreshToken
    expiresSeconds := a.expiresSeconds
    maxRefreshSeconds := a.maxRefreshSeconds
    minRefreshSeconds := a.minRefreshSeconds }

/-- An answer, given at `servedAt`, reaches the device. A call waits only for answers of its
endpoint. -/
def hear [Profile P ι] (v : BusDevice κ P) (ident : ι) (nonce : UInt64) (servedAt : Nat)
    (answer : BusAnswer) (err : Option ReqRespError) : BusDevice κ P × Option BusRequest :=
  match v.call, answer with
  | some (.claim rest), .claim res =>
    match v.stack.busClaim ident res, rest with
    | (.ok lease, stack), _ =>
      ({ v with stack, held := some ⟨lease, servedAt⟩ }.finish (.ok lease), none)
    -- taken by another device
    | (.error (.claimDenied .conflict), stack), some candidates =>
      { v with stack }.tryNext nonce candidates err
    | (.error e, stack), _ => ({ v with stack }.finish (.error (.claim e)), none)
  | some (.refresh _), .refresh (.error e) => (v.finish (.error (.refreshDenied e)), none)
  | some (.refresh lease), .refresh (.ok a) =>
    let lease := refreshed lease a
    ({ v with held := some ⟨lease, servedAt⟩ }.finish (.ok lease), none)
  | _, _ => (v, none)

end BusDevice

/-! ## The bus -/

/-- What is fixed: the net id of the segment, the port of the router's refresh endpoint, the
interface by which a device is on the bus, and its nonce. -/
structure BusLink (δ ι : Type) where
  net : UInt16
  refreshPort : UInt8
  ident : ι
  nonce : δ → UInt64

/-- A router, the devices on one of its segments, and what is on its way between them. -/
structure Bus (σ : Type) (N S C : Nat) (δ κ P : Type) where
  router : Router σ N S C
  device : δ → BusDevice κ P
  requests : List (δ × BusRequest)
  responses : List (BusResponse δ)

/-- What happens on the bus. Where a request may be sent, `err` is the error if it cannot be. -/
inductive BusAct (σ δ : Type)
  /-- The router does anything else. -/
  | router (op : Op σ)
  | claim (d : δ) (candidate : UInt8) (err : Option ReqRespError)
  | probe (d : δ) (candidates : Nat → Option UInt8) (err : Option ReqRespError)
  | refresh (d : δ) (err : Option ReqRespError)
  /-- The future of the call is dropped. -/
  | abandon (d : δ)
  /-- An error comes back instead of an answer. -/
  | fail (d : δ) (e : ReqRespError)
  /-- `address_claim_handler` takes a request. -/
  | serve (i : Nat)
  /-- A device hears an answer, which stays for the others. -/
  | hear (i : Nat) (d : δ) (err : Option ReqRespError)
  | loseRequest (i : Nat)
  | loseResponse (i : Nat)

namespace Bus

variable {σ : Type} {N S C : Nat} {δ κ P ι : Type}

/-- A device goes on, having sent a request or not. -/
def put [DecidableEq δ] (s : Bus σ N S C δ κ P) (d : δ)
    (next : BusDevice κ P × Option BusRequest) : Bus σ N S C δ κ P :=
  { s with
    device := Function.update s.device d next.1
    requests := s.requests ++ (next.2.map fun req => (d, req)).toList }

/-- `handle_address_claim` and `handle_address_refresh`: the answer to a request, if it is
addressed to one of the two endpoints. -/
def handle (L : BusLink δ ι) (r : Router σ N S C) (now : Nat) :
    BusRequest → Option BusAnswer × Router σ N S C
  | .claim candidate nonce =>
    let (res, r) := r.handleAddressClaim L.refreshPort L.net candidate nonce now
    (some (.claim res), r)
  | .refresh dst nodeId tok =>
    if dst = ⟨L.net, centralNodeId, L.refreshPort⟩ then
      let (res, r) := r.refreshNodeClaim L.net nodeId tok now
      (some (.refresh res), r)
    else (none, r)

/-- The router takes request `i`. -/
def serve (L : BusLink δ ι) (s : Bus σ N S C δ κ P) (now i : Nat) : Bus σ N S C δ κ P :=
  match s.requests[i]? with
  | none => s
  | some (d, req) =>
    let (answer, r) := handle L s.router now req
    { s with
      router := r
      requests := s.requests.eraseIdx i
      responses := s.responses ++ (answer.map fun a => ⟨d, now, a⟩).toList }

variable [InterfaceSink σ] [Profile P ι] [DecidableEq δ]

/-- One action. -/
def exec (L : BusLink δ ι) (s : Bus σ N S C δ κ P) (step : Clock × BusAct σ δ) :
    Bus σ N S C δ κ P :=
  match step.2 with
  | .router op => { s with router := s.router.exec (step.1, op) }
  | .claim d candidate err =>
    s.put d ((s.device d).ask (.claim none) (.claim candidate (L.nonce d)) err)
  | .probe d candidates err => s.put d ((s.device d).tryNext (L.nonce d) candidates err)
  | .refresh d err =>
    match (s.device d).held with
    | none => s
    | some ⟨lease, _⟩ =>
      s.put d ((s.device d).ask (.refresh lease)
        (.refresh lease.refreshAddr lease.nodeId lease.refreshToken) err)
  | .abandon d => s.put d ({ s.device d with call := none }, none)
  | .fail d e => s.put d ((s.device d).finish (.error (.requestFailed e)), none)
  | .serve i => s.serve L step.1.now i
  | .hear i d err =>
    match s.responses[i]? with
    | none => s
    | some resp =>
      s.put d ((s.device d).hear L.ident (L.nonce d) resp.servedAt resp.answer err)
  | .loseRequest i => { s with requests := s.requests.eraseIdx i }
  | .loseResponse i => { s with responses := s.responses.eraseIdx i }

end Bus

/-! ## What a device takes from an answer -/

/-- The lease is the one an assignment says, from `servedAt` on. -/
structure HeldLease.Of (a : NodeClaimAssignment) (servedAt : Nat) (h : HeldLease) : Prop where
  nodeId : h.lease.nodeId = a.nodeId
  netId : h.lease.netId = a.netId
  refreshToken : h.lease.refreshToken = a.refreshToken
  expiresSeconds : h.lease.expiresSeconds = a.expiresSeconds
  servedAt : h.servedAt = servedAt

section Device

variable {κ P ι : Type} [Profile P ι]

theorem busClaim_ok {st st' : NetStack κ P} {ident : ι}
    {res : Except AddressClaimError AddressClaimGranted} {lease : NodeClaimLease}
    (h : st.busClaim ident res = (.ok lease, st')) :
    ∃ granted, res = .ok granted ∧
      ∀ servedAt, HeldLease.Of granted.assignment servedAt ⟨lease, servedAt⟩ := by
  unfold NetStack.busClaim at h
  split at h
  · cases h
  · next granted =>
    dsimp only at h
    split at h
    · cases h
    · cases h
      exact ⟨granted, rfl, fun _ => ⟨rfl, rfl, rfl, rfl, rfl⟩⟩

namespace BusDevice

variable {v : BusDevice κ P} {ident : ι} {nonce : UInt64} {servedAt : Nat} {answer : BusAnswer}
  {err : Option ReqRespError}

omit [Profile P ι] in
@[simp] theorem finish_held (res : Except ProbeError NodeClaimLease) :
    (v.finish res).held = v.held := rfl

omit [Profile P ι] in
theorem ask_held {call : BusCall} {req : BusRequest} : (v.ask call req err).1.held = v.held := by
  cases err <;> rfl

omit [Profile P ι] in
theorem ask_sent {call : BusCall} {req req' : BusRequest} (h : (v.ask call req err).2 = some req') :
    req' = req := by
  cases err with
  | none => exact (Option.some.inj h).symm
  | some e => cases h

omit [Profile P ι] in
theorem tryNext_held {candidates : Nat → Option UInt8} :
    (v.tryNext nonce candidates err).1.held = v.held := by
  unfold tryNext
  split
  · rfl
  · exact ask_held

omit [Profile P ι] in
theorem tryNext_sent {candidates : Nat → Option UInt8} {req : BusRequest}
    (h : (v.tryNext nonce candidates err).2 = some req) : ∃ c, req = .claim c nonce := by
  unfold tryNext at h
  split at h
  · cases h
  · exact ⟨_, ask_sent h⟩

/-- A device holds what it held before, or what the answer grants it. -/
theorem hear_held {h : HeldLease}
    (hheld : (v.hear ident nonce servedAt answer err).1.held = some h) :
    v.held = some h ∨ ∃ a, answer.assignment = some a ∧ h.Of a servedAt := by
  unfold hear at hheld
  split at hheld
  · next rest res hcall =>
    split at hheld
    · next lease st' hclaim =>
      cases hheld
      obtain ⟨granted, rfl, hof⟩ := busClaim_ok hclaim
      exact .inr ⟨granted.assignment, rfl, hof servedAt⟩
    · rw [tryNext_held] at hheld
      exact .inl hheld
    · exact .inl hheld
  · exact .inl hheld
  · next lease a hcall =>
    cases hheld
    exact .inr ⟨a, rfl, rfl, rfl, rfl, rfl, rfl⟩
  · exact .inl hheld

/-- After an answer a device sends nothing but the claim of its next candidate. -/
theorem hear_sent {req : BusRequest}
    (h : (v.hear ident nonce servedAt answer err).2 = some req) : ∃ c, req = .claim c nonce := by
  unfold hear at h
  split at h
  · split at h
    · cases h
    · exact tryNext_sent h
    · cases h
  · cases h
  · cases h
  · cases h

end BusDevice

end Device

/-! ## Runs of the bus -/

namespace Bus

variable {σ : Type} {N S C : Nat} {δ κ P ι : Type}

/-- The span of an action. -/
def span (step : Clock × BusAct σ δ) : Nat × Nat := (step.1.now, step.1.later)

/-- A bus that nobody has used. -/
structure Boot (s : Bus σ N S C δ κ P) : Prop where
  router : Router.Initial s.router
  requests : s.requests = []
  responses : s.responses = []
  held : ∀ d, (s.device d).held = none

/-- The segment goes away. -/
def Gone (L : BusLink δ ι) (s : Bus σ N S C δ κ P) (step : Clock × BusAct σ δ) : Prop :=
  ∃ op, step.2 = .router op ∧ Router.SegmentGone L.net s.router (step.1, op)

/-- A device only takes answers that are for it. -/
def Own (s : Bus σ N S C δ κ P) : Clock × BusAct σ δ → Prop
  | (_, .hear i d _) => (s.responses[i]?.map fun resp => resp.asker) ∈ [none, some d]
  | _ => True

instance Own.decidable [DecidableEq δ] (s : Bus σ N S C δ κ P) :
    (step : Clock × BusAct σ δ) → Decidable (Own s step)
  | (_, .hear i d _) =>
    inferInstanceAs (Decidable ((s.responses[i]?.map fun resp => resp.asker) ∈ [none, some d]))
  | (_, .router _) | (_, .claim _ _ _) | (_, .probe _ _ _) | (_, .refresh _ _) | (_, .abandon _)
  | (_, .fail _ _) | (_, .serve _) | (_, .loseRequest _) | (_, .loseResponse _) =>
    inferInstanceAs (Decidable True)

/-- The table bears out what `d` was told: a lease on this segment that ends at `x`. -/
def Vouches (L : BusLink δ ι) (t : Nat) (r : Router σ N S C) (d : δ) (netId : UInt16)
    (nodeId : UInt8) (tok : Token) (x : Nat) : Prop :=
  netId = L.net ∧ Router.Vouched L.net nodeId (L.nonce d) tok x t r

/-- A request that `d` may have sent. -/
def Fair (L : BusLink δ ι) (r : Router σ N S C) (d : δ) : BusRequest → Prop
  | .claim _ nonce => nonce = L.nonce d
  | .refresh _ nodeId tok => Router.TokenOf L.net nodeId (L.nonce d) tok r

/-- What holds at `t`. -/
structure Inv (L : BusLink δ ι) (t : Nat) (s : Bus σ N S C δ κ P) : Prop where
  wf : s.router.Wf
  segments : s.router.ClaimsOnSegments
  tokens : s.router.TokensDrawn
  requests : ∀ d req, (d, req) ∈ s.requests → Fair L s.router d req
  responses : ∀ resp ∈ s.responses, ∀ a, resp.answer.assignment = some a →
    Vouches L t s.router resp.asker a.netId a.nodeId a.refreshToken
      (resp.servedAt + secs a.expiresSeconds.toNat)
  held : ∀ d h, (s.device d).held = some h →
    Vouches L t s.router d h.lease.netId h.lease.nodeId h.lease.refreshToken h.ends

variable {L : BusLink δ ι} {t : Nat} {s : Bus σ N S C δ κ P}

theorem Boot.inv (h : s.Boot) : Inv L 0 s where
  wf := h.router.wf
  segments := by
    intro node net e he
    rw [h.router.nodeClaims_get] at he
    cases he
  tokens := by
    intro node net e w he
    rw [h.router.nodeClaims_get] at he
    cases he
  requests := by
    intro d req hreq
    rw [h.requests] at hreq
    cases hreq
  responses := by
    intro resp hresp
    rw [h.responses] at hresp
    cases hresp
  held := by
    intro d hl hheld
    rw [h.held] at hheld
    cases hheld

/-- Time passes. -/
theorem Inv.later {t' : Nat} (h : Inv L t s) (ht : t ≤ t') : Inv L t' s :=
  { h with
    responses := fun resp hresp a ha =>
      ⟨(h.responses resp hresp a ha).1, (h.responses resp hresp a ha).2.later ht⟩
    held := fun d hl hheld => ⟨(h.held d hl hheld).1, (h.held d hl hheld).2.later ht⟩ }

section Steps

variable [InterfaceSink σ]

/-- The router does something, and the segment stays. -/
theorem Inv.ofRouter {step : Clock × Op σ} (h : Inv L t s) (ht : t ≤ step.1.now)
    (hfresh : (s.router.exec step).rng.Distinct)
    (hno : ¬ Router.SegmentGone L.net s.router step) :
    Inv L step.1.later { s with router := s.router.exec step } where
  wf := h.wf.exec step
  segments := h.segments.step h.wf step
  tokens := h.tokens.step h.wf hfresh
  requests := by
    intro d req hreq
    have hfair := h.requests d req hreq
    cases req with
    | claim c n => exact hfair
    | refresh dst node tok => exact hfair.step h.wf hfresh
  responses := fun resp hresp a ha =>
    ⟨(h.responses resp hresp a ha).1,
      (h.responses resp hresp a ha).2.step h.wf hfresh hno ht⟩
  held := fun d hl hheld =>
    ⟨(h.held d hl hheld).1, (h.held d hl hheld).2.step h.wf hfresh hno ht⟩

end Steps

/-- Requests and answers are lost. -/
theorem Inv.lose {requests : List (δ × BusRequest)} {responses : List (BusResponse δ)}
    (h : Inv L t s) (hreq : requests ⊆ s.requests) (hresp : responses ⊆ s.responses) :
    Inv L t { s with requests, responses } :=
  { h with
    requests := fun d req hmem => h.requests d req (hreq hmem)
    responses := fun resp hmem => h.responses resp (hresp hmem) }

/-- The router answers. -/
theorem Inv.respond (h : Inv L t s) {resp : BusResponse δ}
    (hresp : ∀ a, resp.answer.assignment = some a →
      Vouches L t s.router resp.asker a.netId a.nodeId a.refreshToken
        (resp.servedAt + secs a.expiresSeconds.toNat)) :
    Inv L t { s with responses := s.responses ++ [resp] } :=
  { h with
    responses := by
      intro resp' hmem
      rcases List.mem_append.mp hmem with hmem | hmem
      · exact h.responses resp' hmem
      · cases List.mem_singleton.mp hmem
        exact hresp }

/-- A device goes on. -/
theorem Inv.put [DecidableEq δ] (h : Inv L t s) {d : δ}
    {next : BusDevice κ P × Option BusRequest}
    (hheld : ∀ hl, next.1.held = some hl →
      Vouches L t s.router d hl.lease.netId hl.lease.nodeId hl.lease.refreshToken hl.ends)
    (hsent : ∀ req, next.2 = some req → Fair L s.router d req) :
    Inv L t (s.put d next) where
  wf := h.wf
  segments := h.segments
  tokens := h.tokens
  requests := by
    intro d' req hmem
    rcases List.mem_append.mp hmem with hmem | hmem
    · exact h.requests d' req hmem
    · cases hnext : next.2 with
      | none =>
        rw [hnext] at hmem
        cases hmem
      | some req' =>
        rw [hnext] at hmem
        cases List.mem_singleton.mp hmem
        exact hsent req hnext
  responses := h.responses
  held := by
    intro d' hl hmem
    by_cases hd : d' = d
    · subst hd
      have hmem : (Function.update s.device d' next.1 d').held = some hl := hmem
      rw [Function.update_self] at hmem
      exact hheld hl hmem
    · have hmem : (Function.update s.device d next.1 d').held = some hl := hmem
      rw [Function.update_of_ne hd] at hmem
      exact h.held d' hl hmem

section Steps

variable [InterfaceSink σ]

/-- What the router does with a request of `d`: it ignores it, or it performs an operation on its
claims and the table bears out the answer. -/
theorem handle_spec {r : Router σ N S C} (hwf : r.Wf) (htoks : r.TokensDrawn) (clock : Clock)
    {d : δ} {req : BusRequest} (hfair : Fair L r d req) :
    handle L r clock.now req = (none, r) ∨ ∃ op answer,
      handle L r clock.now req = (some answer, r.exec (clock, op)) ∧
      ¬ Router.SegmentGone L.net r (clock, op) ∧
      ∀ a, answer.assignment = some a → Vouches L t (r.exec (clock, op)) d a.netId a.nodeId
        a.refreshToken (clock.now + secs a.expiresSeconds.toNat) := by
  cases req with
  | claim c nonce =>
    cases hfair
    refine .inr ⟨.requestNodeClaim L.net c (L.nonce d), ?_⟩
    have hno : ¬ Router.SegmentGone L.net r (clock, .requestNodeClaim L.net c (L.nonce d)) :=
      fun h => by cases h
    rcases hres : r.requestNodeClaim L.net c (L.nonce d) clock.now with ⟨e | a, r'⟩
    · have hexec : r.exec (clock, .requestNodeClaim L.net c (L.nonce d)) = r' :=
        congrArg Prod.snd hres
      rw [hexec]
      refine ⟨.claim (.error e), ?_, hno, fun a ha => by cases ha⟩
      simp only [handle, Router.handleAddressClaim, hres]
    · have hexec : r.exec (clock, .requestNodeClaim L.net c (L.nonce d)) = r' :=
        congrArg Prod.snd hres
      obtain ⟨hnet, rfl, -, -⟩ := Router.requestNodeClaim_names hres
      rw [hexec]
      refine ⟨.claim (.ok ⟨a, L.refreshPort⟩), ?_, hno, ?_⟩
      · simp only [handle, Router.handleAddressClaim, hres]
      · rintro a' ⟨⟩
        exact ⟨hnet, .of_request hwf htoks hres⟩
  | refresh dst node tok =>
    by_cases hdst : dst = ⟨L.net, centralNodeId, L.refreshPort⟩
    · refine .inr ⟨.refreshNodeClaim L.net node tok, ?_⟩
      have hno : ¬ Router.SegmentGone L.net r (clock, .refreshNodeClaim L.net node tok) :=
        fun h => by cases h
      rcases hres : r.refreshNodeClaim L.net node tok clock.now with ⟨e | a, r'⟩
      · have hexec : r.exec (clock, .refreshNodeClaim L.net node tok) = r' :=
          congrArg Prod.snd hres
        rw [hexec]
        refine ⟨.refresh (.error e), ?_, hno, fun a ha => by cases ha⟩
        simp only [handle, if_pos hdst, hres]
      · have hexec : r.exec (clock, .refreshNodeClaim L.net node tok) = r' :=
          congrArg Prod.snd hres
        obtain ⟨hnet, rfl⟩ := Router.refreshNodeClaim_names hres
        rw [hexec]
        refine ⟨.refresh (.ok a), ?_, hno, ?_⟩
        · simp only [handle, if_pos hdst, hres]
        · rintro a' ⟨⟩
          exact ⟨hnet, .of_refresh htoks hfair hres⟩
    · exact .inl (by simp only [handle, if_neg hdst])

/-- The router takes a request. -/
theorem Inv.serve {clock : Clock} {i : Nat} (h : Inv L t s) (ht : t ≤ clock.now)
    (hfresh : (s.serve L clock.now i).router.rng.Distinct) :
    Inv L clock.later (s.serve L clock.now i) := by
  have hlater : Inv L clock.later s := h.later (Nat.le_trans ht clock.le)
  unfold Bus.serve at hfresh ⊢
  split
  · exact hlater
  · next d req hget =>
    rw [hget] at hfresh
    have hfair := h.requests d req (List.mem_of_getElem? hget)
    have herase := (List.eraseIdx_sublist s.requests i).subset
    rcases handle_spec (t := clock.later) h.wf h.tokens clock hfair with
      hnone | ⟨op, answer, hhandle, hno, hvouches⟩
    · simp only [hnone, Option.map_none, Option.toList_none, List.append_nil]
      exact hlater.lose herase (List.Subset.refl _)
    · simp only [hhandle, Option.map_some, Option.toList_some] at hfresh ⊢
      let op' : Clock × Op σ := (clock, op)
      let resp : BusResponse δ := ⟨d, clock.now, answer⟩
      have hlost := h.lose herase (List.Subset.refl s.responses)
      have hrouter : Inv L clock.later
          { s with router := s.router.exec op', requests := s.requests.eraseIdx i } :=
        Inv.ofRouter hlost ht hfresh hno
      exact hrouter.respond (t := clock.later) hvouches

variable [Profile P ι] [DecidableEq δ]

/-- Every action keeps it, if the segment stays and a device only takes its own answers. -/
theorem Inv.exec {step : Clock × BusAct σ δ} (h : Inv L t s) (ht : t ≤ step.1.now)
    (hfresh : (s.exec L step).router.rng.Distinct) (hno : ¬ Gone L s step) (hown : Own s step) :
    Inv L step.1.later (s.exec L step) := by
  obtain ⟨clock, act⟩ := step
  have hlater : Inv L clock.later s := h.later (Nat.le_trans ht clock.le)
  -- what a device has and says before it hears an answer
  have hkeep : ∀ {d : δ} {next : BusDevice κ P × Option BusRequest},
      next.1.held = (s.device d).held → (∀ req, next.2 = some req → Fair L s.router d req) →
        Inv L clock.later (s.put d next) := by
    intro d next hheld hsent
    refine hlater.put (fun hl hmem => hlater.held d hl ?_) hsent
    rw [← hheld]
    exact hmem
  cases act with
  | router op =>
    have hstay : ¬ Router.SegmentGone L.net s.router (clock, op) :=
      fun hgone => hno ⟨op, rfl, hgone⟩
    exact h.ofRouter ht hfresh hstay
  | claim d candidate err =>
    refine hkeep BusDevice.ask_held fun req hreq => ?_
    rw [BusDevice.ask_sent hreq]
    rfl
  | probe d candidates err =>
    refine hkeep BusDevice.tryNext_held fun req hreq => ?_
    obtain ⟨c, rfl⟩ := BusDevice.tryNext_sent hreq
    rfl
  | refresh d err =>
    show Inv L clock.later (match (s.device d).held with | none => s | some ⟨lease, _⟩ => _)
    split
    · exact hlater
    · next lease servedAt hheld =>
      refine hkeep BusDevice.ask_held fun req hreq => ?_
      rw [BusDevice.ask_sent hreq]
      exact (h.held d _ hheld).2.token
  | abandon d => exact hkeep rfl fun req hreq => by cases hreq
  | fail d e => exact hkeep rfl fun req hreq => by cases hreq
  | serve i => exact h.serve ht hfresh
  | hear i d err =>
    show Inv L clock.later (match s.responses[i]? with | none => s | some resp => _)
    split
    · exact hlater
    · next resp hget =>
      have hasker : resp.asker = d := by simpa [Own, hget] using hown
      subst hasker
      refine hlater.put (fun hl hheld => ?_) fun req hreq => ?_
      · rcases BusDevice.hear_held hheld with hold | ⟨a, ha, hof⟩
        · exact hlater.held _ hl hold
        · have hv := hlater.responses resp (List.mem_of_getElem? hget) a ha
          rw [hof.netId, hof.nodeId, hof.refreshToken, HeldLease.ends, hof.servedAt,
            hof.expiresSeconds]
          exact hv
      · obtain ⟨c, rfl⟩ := BusDevice.hear_sent hreq
        rfl
  | loseRequest i =>
    exact hlater.lose (List.eraseIdx_sublist _ _).subset (List.Subset.refl _)
  | loseResponse i =>
    exact hlater.lose (List.Subset.refl _) (List.eraseIdx_sublist _ _).subset

omit [Profile P ι] [DecidableEq δ] in
theorem handle_rng (L : BusLink δ ι) (r : Router σ N S C) (now : Nat) (req : BusRequest) :
    r.rng.Extends (handle L r now req).2.rng := by
  cases req with
  | claim c nonce =>
    have hrng := Router.exec_rng r (.at now, .requestNodeClaim L.net c nonce)
    have hrng : r.rng.Extends (r.requestNodeClaim L.net c nonce now).2.rng := hrng
    simp only [handle, Router.handleAddressClaim]
    rcases hres : r.requestNodeClaim L.net c nonce now with ⟨e | a, r'⟩
    · rw [hres] at hrng
      exact hrng
    · rw [hres] at hrng
      exact hrng
  | refresh dst node tok =>
    have hrng := Router.exec_rng r (.at now, .refreshNodeClaim L.net node tok)
    have hrng : r.rng.Extends (r.refreshNodeClaim L.net node tok now).2.rng := hrng
    simp only [handle]
    split
    · exact hrng
    · exact .refl _

/-- Actions only draw. -/
theorem exec_rng (L : BusLink δ ι) (s : Bus σ N S C δ κ P) (step : Clock × BusAct σ δ) :
    s.router.rng.Extends (s.exec L step).router.rng := by
  obtain ⟨clock, act⟩ := step
  cases act with
  | router op => exact Router.exec_rng s.router (clock, op)
  | serve i =>
    show s.router.rng.Extends (s.serve L clock.now i).router.rng
    unfold Bus.serve
    split
    · exact .refl _
    · exact handle_rng L s.router clock.now _
  | refresh d err =>
    show s.router.rng.Extends
      (match (s.device d).held with | none => s | some ⟨lease, _⟩ => _ : Bus σ N S C δ κ P).router.rng
    split <;> exact .refl _
  | hear i d err =>
    show s.router.rng.Extends
      (match s.responses[i]? with | none => s | some resp => _ : Bus σ N S C δ κ P).router.rng
    split <;> exact .refl _
  | _ => exact .refl _

/-- A whole run keeps it. -/
theorem Inv.run {acts : List (Clock × BusAct σ δ)} (h : Inv L t s) (htimed : Timed span t acts)
    (hfresh : (runAll (Bus.exec L) s acts).router.rng.Distinct)
    (hno : ¬ Happens (Bus.exec L) (Gone L) s acts) (hown : Always (Bus.exec L) Own s acts) :
    Inv L (endTime span t acts) (runAll (Bus.exec L) s acts) := by
  induction acts generalizing s t with
  | nil => exact h
  | cons step acts ih =>
    obtain ⟨hstart, -, hrest⟩ := htimed
    obtain ⟨hfirst, hown⟩ := hown
    -- what is drawn twice in the first step is drawn twice in the run
    have hdraws : (s.exec L step).router.rng.Extends
        (runAll (Bus.exec L) (s.exec L step) acts).router.rng :=
      runAll_inv (I := fun s' : Bus σ N S C δ κ P =>
        (s.exec L step).router.rng.Extends s'.router.rng)
        (fun s' step' hext => hext.trans (exec_rng L s' step')) (.refl _) acts
    have hnext := h.exec hstart (hdraws.distinct hfresh) (fun hgone => hno (.inl hgone)) hfirst
    exact ih hnext hrest hfresh (fun hgone => hno (.inr hgone)) hown

/-- What every lease of a device is worth at `t`, after any run in which the segment of the
devices stays, no token is drawn twice, and a device only takes answers that are for it. No two
devices hold a node id, and a holder's claim is refused to the others, until 29 seconds after its
lease ends (`graceSecs`: the grace period less the second of rounding). Until a second before the
lease ends, its frames are let through and it is granted the claim again. -/
theorem held_leases (L : BusLink δ ι) (hnonce : Function.Injective L.nonce)
    (s : Bus σ N S C δ κ P) (hboot : s.Boot) (acts : List (Clock × BusAct σ δ))
    (htimed : Timed span 0 acts) (hfresh : (runAll (exec L) s acts).router.rng.Distinct)
    (hno : ¬ Happens (exec L) (Gone L) s acts) (hown : Always (exec L) Own s acts) (t : Nat)
    (ht : endTime span 0 acts ≤ t) (d : δ) (h : HeldLease)
    (hheld : ((runAll (exec L) s acts).device d).held = some h) :
    h.lease.netId = L.net ∧
      (t < h.ends + secs Router.graceSecs →
        (∀ nonce, nonce ≠ L.nonce d → ((runAll (exec L) s acts).router.requestNodeClaim L.net
          h.lease.nodeId nonce t).1 = .error .conflict) ∧
        ∀ d' h', ((runAll (exec L) s acts).device d').held = some h' →
          t < h'.ends + secs Router.graceSecs → h'.lease.nodeId = h.lease.nodeId → d' = d) ∧
      (t + secs 1 < h.ends →
        (runAll (exec L) s acts).router.isNodeClaimed L.net h.lease.nodeId t = true ∧
        ∃ a, ((runAll (exec L) s acts).router.requestNodeClaim L.net h.lease.nodeId (L.nonce d)
          t).1 = .ok a) := by
  have hinv := (hboot.inv.run htimed hfresh hno hown).later ht
  generalize runAll (exec L) s acts = s' at hinv hheld
  obtain ⟨hnet, hvouched⟩ := hinv.held d h hheld
  refine ⟨hnet, fun hgrace => ⟨fun nonce hne => ?_, fun d' h' hheld' hgrace' hnode => ?_⟩,
    fun hends => ⟨?_, ?_⟩⟩
  · exact (hvouched.held hgrace).refuses hinv.wf hinv.segments hgrace hne
  · -- the entry of the pair has one nonce
    obtain ⟨-, hvouched'⟩ := hinv.held d' h' hheld'
    obtain ⟨e, he, hd, -⟩ := hvouched.held hgrace
    obtain ⟨e', he', hd', -⟩ := hvouched'.held hgrace'
    rw [hnode, he] at he'
    cases he'
    exact hnonce (hd'.symm.trans hd)
  · exact (hvouched.claimed (by omega)).isNodeClaimed (by omega)
  · exact (hvouched.claimed (by omega)).grants hinv.wf hinv.segments (by omega)

end Steps

/-! ## Two devices -/

/-- Whether an action can take a segment away. -/
def renumbers : BusAct σ δ → Bool
  | .router (.deregisterInterface _) | .router (.reassignInterfaceNetId _ _) => true
  | _ => false

theorem not_gone [InterfaceSink σ] [Profile P ι] [DecidableEq δ] {L : BusLink δ ι}
    {acts : List (Clock × BusAct σ δ)} (h : ∀ step ∈ acts, renumbers step.2 = false)
    (s : Bus σ N S C δ κ P) : ¬ Happens (exec L) (Gone L) s acts := by
  induction acts generalizing s with
  | nil => exact fun h => h
  | cons step acts ih =>
    rintro (⟨op, hop, hgone⟩ | hlater)
    · have hfirst := h step List.mem_cons_self
      rw [hop] at hfirst
      cases hgone <;> cases hfirst
    · exact ih (fun step' hmem => h step' (List.mem_cons_of_mem _ hmem)) _ hlater

/-- Two devices on net 1. -/
def demoBusLink : BusLink Bool Unit := ⟨1, 9, (), fun d => if d then 5 else 6⟩

/-- They use the link-local net at first. -/
def demoBus : Bus FrameQueue 2 2 4 Bool OwnedSocket (DirectEdge FrameQueue) :=
  { router := .new ⟨fun n => UInt64.ofNat n, 0⟩ (by decide)
    device := fun _ => ⟨⟨[], ⟨((EdgePort.newTarget ⟨1000, 4, []⟩).setState (.active 0 47)).2⟩⟩,
      none, none, none⟩
    requests := []
    responses := [] }

/-- Both try 10 and then 11. -/
def demoProbing : List (Clock × BusAct FrameQueue Bool) :=
  [(.at 0, .router (.registerInterface ⟨64, 1, []⟩)),
    (.at (secs 1), .probe true (fun n => [10, 11][n]?) none),
    (.at (secs 1), .probe false (fun n => [10, 11][n]?) none),
    (.at (secs 2), .serve 0),
    (.at (secs 2), .serve 0),
    (.at (secs 3), .hear 0 true none),
    (.at (secs 3), .hear 1 false none),
    (.at (secs 4), .serve 0),
    (.at (secs 5), .hear 2 false none)]

/-- The second device holds 11, which is its own for 29 s after the lease. -/
theorem held_leases_demo :
    let s := runAll (exec demoBusLink) demoBus demoProbing
    (∀ nonce, nonce ≠ 6 → (s.router.requestNodeClaim 1 11 nonce (secs 40)).1 = .error .conflict) ∧
      ∀ d' h', (s.device d').held = some h' → secs 40 < h'.ends + secs Router.graceSecs →
        h'.lease.nodeId = 11 → d' = false := by
  have hnonce : Function.Injective demoBusLink.nonce := by decide
  have hboot : demoBus.Boot :=
    { router := .root _ _, requests := rfl, responses := rfl, held := fun _ => rfl }
  have h := held_leases demoBusLink hnonce demoBus hboot demoProbing
    (by simp [Timed, span, demoProbing, Clock.at, secs]) (Rng.distinct_of_decide (by decide))
    (not_gone (by decide) _) (by decide) (secs 40) (by decide) false
    ⟨⟨11, 1, ⟨1, 1, 9⟩, 1, 30, 120, 62⟩, secs 4⟩ (by decide)
  exact h.2.1 (by decide)

-- A device that takes the other one's answer holds the same node id.
example :
    let s := runAll (exec demoBusLink) demoBus (demoProbing.take 6 ++
      [(.at (secs 3), .hear 0 false none)])
    ((s.device true).held.map fun h => h.lease.nodeId) = some 10 ∧
      ((s.device false).held.map fun h => h.lease.nodeId) = some 10 := by
  decide

end Bus

end Ergot
