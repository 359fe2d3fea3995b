import Ergot.Core.Port
import Ergot.Lib.HeaplessVec

/-!
# Leases and lease tables

The lease lifecycle of `router.rs:37–334`, shared by seed routes and node claims.

- `LeaseKind` is an active lease (expiration, current token, the immediately
  previous token kept for replays) or a tombstone that keeps the key reserved
  until its `clearTime`.
- `LeaseKind.gcRetain` ages one lease, `LeaseKind.validateToken` and
  `LeaseKind.refresh` are the token checks every operation goes through.
- `LeaseTable` is the fixed-capacity table; expiry is lazy, so an expired lease
  stays `Active` in the table until some operation ages it.

Instants and durations are natural numbers of nanoseconds.

A method on `&mut self` that returns a `Result` is a function that returns the
result together with the new state.
-/

namespace Ergot

/-! ## Time -/

/-- `Duration::from_secs`. -/
def secs (n : Nat) : Nat := n * 1000000000

/-- The two readings of the clock one operation may take. `Router::find` reads
the clock for the garbage collection and again for the activity check. -/
structure Clock where
  now : Nat
  later : Nat
  le : now ≤ later
deriving DecidableEq

/-- A clock that stands still during the operation. -/
def Clock.at (now : Nat) : Clock := ⟨now, now, Nat.le_refl now⟩

/-- Initial lease duration (seconds). -/
def initialLeaseSecs : UInt16 := 30
/-- Maximum lease duration after refresh (seconds). -/
def maxLeaseSecs : UInt16 := 120
/-- Refresh is allowed only when the remaining time is at most this (seconds). -/
def minRefreshSecs : UInt16 := 62
/-- How long a key stays reserved after its lease has ended (seconds). -/
def tombstoneDurationSecs : Nat := 30
/-- What each delegation hop takes off `min_refresh_seconds`. -/
def seedDelegationRefreshMargin : UInt16 := 5

/-- `remaining_lease_seconds`: whole seconds, rounded up. -/
def remainingLeaseSeconds (expiration now : Nat) : UInt16 :=
  let remaining := expiration - now
  let wholeSeconds := remaining / secs 1
  let roundedUp := wholeSeconds + if remaining > secs wholeSeconds then 1 else 0
  UInt16.ofNat (min roundedUp 65535)

/-! ## One lease -/

/-- A refresh token: `u64`, or its little-endian bytes in a message. -/
abbrev Token := UInt64

/-- A granted lease (router.rs:95). -/
structure Lease where
  expiration : Nat
  refreshToken : Token
  previousRefreshToken : Option Token
deriving DecidableEq, Repr

/-- The state of a leased resource (router.rs:105). -/
inductive LeaseKind
  | active (lease : Lease)
  | tombstone (clearTime : Nat)
deriving DecidableEq, Repr

/-- Why `LeaseKind::refresh` was rejected. -/
inductive RefreshDenied
  | expired | badToken | tooSoon
deriving DecidableEq, Repr

inductive TokenMatch
  | current | replay
deriving DecidableEq, Repr

namespace LeaseKind

/-- `LeaseKind::active`: a fresh lease that expires `s` seconds from `now`. -/
def fresh (now : Nat) (s : UInt16) (token : Token) : LeaseKind :=
  .active {
    expiration := now + secs s.toNat
    refreshToken := token
    previousRefreshToken := none }

/-- `LeaseKind::is_active`. -/
def isActive (k : LeaseKind) (now : Nat) : Bool :=
  match k with
  | .active l => now < l.expiration
  | .tombstone _ => false

/-- `LeaseKind::gc_retain`: the aged lease, and whether to keep it. -/
def gcRetain (k : LeaseKind) (now : Nat) : LeaseKind × Bool :=
  match k with
  | .active l =>
    if l.expiration ≤ now then
      let clearTime := l.expiration + secs tombstoneDurationSecs
      if clearTime ≤ now then (k, false) else (.tombstone clearTime, true)
    else (k, true)
  | .tombstone clearTime => (k, now < clearTime)

/-- `LeaseKind::validate_token`: the token is looked at before the expiry, and
an expired lease is turned into a tombstone on the way. -/
def validateToken (k : LeaseKind) (reqToken : Token) (now : Nat) (allowReplay : Bool) :
    Except RefreshDenied TokenMatch × LeaseKind :=
  match k with
  | .tombstone _ => (.error .expired, k)
  | .active lease =>
    let tokenMatch : Option TokenMatch :=
      if lease.refreshToken = reqToken then some .current
      else if allowReplay ∧ lease.previousRefreshToken = some reqToken then some .replay
      else none
    match tokenMatch with
    | none => (.error .badToken, k)
    | some m =>
      if lease.expiration ≤ now then
        (.error .expired, .tombstone (lease.expiration + secs tombstoneDurationSecs))
      else (.ok m, k)

/-- `LeaseKind::refresh`: the renewed lease and whether this was a replay. -/
def refresh (k : LeaseKind) (reqToken : Token) (now : Nat) (newToken : Token)
    (allowReplay : Bool) : Except RefreshDenied (Lease × Bool) × LeaseKind :=
  match k.validateToken reqToken now allowReplay with
  | (.error e, k) => (.error e, k)
  | (.ok tokenMatch, k) =>
    match k with
    | .tombstone _ => (.error .expired, k) -- unreachable: validation found an active lease
    | .active lease =>
      if tokenMatch = .replay then (.ok (lease, true), k)
      else if lease.expiration - now > secs minRefreshSecs.toNat then (.error .tooSoon, k)
      else
        let lease : Lease := {
          expiration := now + secs maxLeaseSecs.toNat
          refreshToken := newToken
          previousRefreshToken := if allowReplay then some lease.refreshToken else none }
        (.ok (lease, false), .active lease)

/-- How long the key is still reserved if nothing else happens to the lease:
until the grace period after the expiration has passed. -/
def reservedUntil : LeaseKind → Nat
  | .active l => l.expiration + secs tombstoneDurationSecs
  | .tombstone clearTime => clearTime

end LeaseKind

/-! ## Lease tables -/

/-- One entry in a `LeaseTable` (router.rs:225). -/
structure LeaseEntry (K X : Type) where
  key : K
  scope : UInt16
  extra : X
  kind : LeaseKind
deriving DecidableEq

/-- A fixed-capacity table of leases (router.rs:234). -/
structure LeaseTable (K X : Type) (n : Nat) where
  entries : HeaplessVec (LeaseEntry K X) n

namespace LeaseTable

variable {K X : Type} {n : Nat}

def new : LeaseTable K X n := ⟨.empty⟩

def isFull (t : LeaseTable K X n) : Bool := t.entries.isFull

/-- What `gc` does to one entry. -/
def ageEntry (now : Nat) (e : LeaseEntry K X) : LeaseEntry K X × Bool :=
  ({ e with kind := (e.kind.gcRetain now).1 }, (e.kind.gcRetain now).2)

/-- `LeaseTable::gc`. -/
def gc (t : LeaseTable K X n) (now : Nat) : LeaseTable K X n :=
  ⟨t.entries.retainMut (ageEntry now)⟩

/-- `LeaseTable::drop_scope`. -/
def dropScope (t : LeaseTable K X n) (scope : UInt16) : LeaseTable K X n :=
  ⟨t.entries.retain fun e => e.scope ≠ scope⟩

/-- `LeaseTable::push`; a full table stays as it is. The callers have checked
`is_full` and ignore the answer. -/
def push (t : LeaseTable K X n) (key : K) (scope : UInt16) (extra : X) (kind : LeaseKind) :
    LeaseTable K X n :=
  match t.entries.push { key, scope, extra, kind } with
  | none => t
  | some entries => ⟨entries⟩

/-- Update every entry (`iter_mut`). -/
def mapEntries (t : LeaseTable K X n) (f : LeaseEntry K X → LeaseEntry K X) :
    LeaseTable K X n :=
  ⟨t.entries.mapAll f⟩

variable [DecidableEq K]

/-- `LeaseTable::contains_key`. -/
def containsKey (t : LeaseTable K X n) (key : K) : Bool :=
  t.entries.toList.any fun e => e.key = key

/-- `LeaseTable::by_key`. -/
def byKey (t : LeaseTable K X n) (key : K) : Option (LeaseEntry K X) :=
  t.entries.toList.find? fun e => e.key = key

/-- `LeaseTable::get`. -/
def get (t : LeaseTable K X n) (key : K) (scope : UInt16) : Option (LeaseEntry K X) :=
  t.entries.toList.find? fun e => e.key = key ∧ e.scope = scope

/-- Write through `LeaseTable::by_key_mut`. -/
def modifyByKey (t : LeaseTable K X n) (key : K) (f : LeaseEntry K X → LeaseEntry K X) :
    LeaseTable K X n :=
  ⟨t.entries.modifyFirst (fun e => e.key = key) f⟩

/-- Write through `LeaseTable::get_mut`. -/
def modifyGet (t : LeaseTable K X n) (key : K) (scope : UInt16)
    (f : LeaseEntry K X → LeaseEntry K X) : LeaseTable K X n :=
  ⟨t.entries.modifyFirst (fun e => e.key = key ∧ e.scope = scope) f⟩

/-- Write the lease through `LeaseTable::get_mut`. -/
def setKind (t : LeaseTable K X n) (key : K) (scope : UInt16) (kind : LeaseKind) :
    LeaseTable K X n :=
  t.modifyGet key scope fun e => { e with kind }

/-- `LeaseTable::remove_key`. -/
def removeKey (t : LeaseTable K X n) (key : K) : LeaseTable K X n :=
  ⟨t.entries.retain fun e => e.key ≠ key⟩

/-- `LeaseTable::remove`. The callers ignore whether anything was removed. -/
def remove (t : LeaseTable K X n) (key : K) (scope : UInt16) : LeaseTable K X n :=
  ⟨t.entries.retain fun e => e.key ≠ key ∨ e.scope ≠ scope⟩

/-- `LeaseTable::contains_key_at`: ages or removes only the entry looked at. -/
def containsKeyAt (t : LeaseTable K X n) (key : K) (now : Nat) :
    Bool × LeaseTable K X n :=
  match h : t.entries.toList.findIdx? fun e => e.key = key with
  | none => (false, t)
  | some pos =>
    have hpos : pos < t.entries.toList.length := (List.findIdx?_eq_some_iff_getElem.mp h).1
    if (ageEntry now (t.entries.toList[pos])).2 then
      (true, t.modifyByKey key fun e => (ageEntry now e).1)
    else
      (false, ⟨(t.entries.swapRemove pos hpos).2⟩)

end LeaseTable

end Ergot
