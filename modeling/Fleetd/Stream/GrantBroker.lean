import Fleetd.Stream.ChannelStream
import Fleetd.Tally.Counts
import Fleetd.Tally.Lifelines

/-!
# The stream grant broker

One-time grants for browser streams: a grant is issued under a digest, consumed by the first
redeem that presents it, and exchanged for a slot of bounded active capacity that lives as long
as its stream. The broker keeps its counters beside the maps they summarise.

A redeem takes the broker's lock twice and awaits in between, so it is three steps here, and
other threads may come between any two of them. A step that panics in the source sets
`panicked` and changes nothing else. Each issue is numbered, and the history of what happened to
each number is recorded beside the broker.
-/

namespace Fleetd

open Relational Tally

def streamGrantPrefix : String := "fl_sg_"
def streamGrantEntropyBytes : Nat := 32
def streamGrantEncodedLength : Nat := 43
def maxProtocolLength : Nat := 128
def maxEntropyAttempts : Nat := 4

/-- The URL-safe alphabet without padding. -/
class UrlSafeNoPad where
  encode : List UInt8 → String
  decode : String → Option (List UInt8)

/-- Clock readings and lifetimes are in nanoseconds. -/
structure BrokerLimits where
  grantLifetime : Nat
  unusedPerCredential : Nat
  unusedTotal : Nat
  activePerCredential : Nat
  activeTotal : Nat
  deriving DecidableEq, Repr

def BrokerLimits.default : BrokerLimits where
  grantLifetime := 15000000000
  unusedPerCredential := 8
  unusedTotal := 1024
  activePerCredential := 16
  activeTotal := 1024

/-- A grant that was not redeemed yet. `issue` is its number in the history. -/
structure GrantRecord where
  issue : Nat
  authorization : AuthorizedChannelStream
  protocol : String
  expiresAt : Nat
  deriving DecidableEq, Repr

/-- What the lock guards. Digests stand as their hexadecimal text. -/
@[ext] structure BrokerState where
  unused : AList fun _ : String => GrantRecord
  unusedByCredential : Counts String
  activeByCredential : Counts String
  activeTotal : Nat

def BrokerState.empty : BrokerState := ⟨∅, ∅, ∅, 0⟩

inductive StreamGrantBrokerError
  | capacity
  | invalidScope
  | rejected
  | entropy
  | revalidation
  deriving DecidableEq, Repr

/-! ## Grants -/

section Grants

variable [Sha256] [UrlSafeNoPad]

/-- The digest that a grant is kept under. -/
def digestOf (grant : String) : String := Sha256.hexDigest (utf8Bytes grant)

/-- Draws entropy until its digest is not in use. `fill` gives the draws, last attempt first. -/
def generateUniqueGrant (existing : AList fun _ : String => GrantRecord)
    (fill : Nat → Option (Vector UInt8 32)) :
    Nat → Except StreamGrantBrokerError (String × String)
  | 0 => .error .entropy
  | attempts + 1 =>
    match fill attempts with
    | none => .error .entropy
    | some entropy =>
      let grant := streamGrantPrefix ++ UrlSafeNoPad.encode entropy.toList
      if digestOf grant ∈ existing then generateUniqueGrant existing fill attempts
      else .ok (grant, digestOf grant)

/-- The rest of a text that starts as given. -/
def stripStart (start text : String) : Option String :=
  if start.toList.isPrefixOf text.toList then
    some (String.ofList (text.toList.drop start.toList.length))
  else none

/-- The digest of a well-formed grant. -/
def grantDigest (grant : String) : Option String := do
  let encoded ← stripStart streamGrantPrefix grant
  if byteLen encoded ≠ streamGrantEncodedLength then none
  else
    let entropy ← UrlSafeNoPad.decode encoded
    if entropy.length ≠ streamGrantEntropyBytes then none else some (digestOf grant)

end Grants

/-! ## Under the lock -/

/-- Ownership of one active capacity slot. -/
structure ActiveStreamSlot where
  credentialId : String
  deriving DecidableEq, Repr

/-- The credential an entry counts for. -/
def GrantRecord.credentialId (record : GrantRecord) : String := record.authorization.credentialId

/-- Takes a grant out and adjusts its counter. -/
def BrokerState.takeUnused (digest : String) (record : GrantRecord) (state : BrokerState) :
    Option BrokerState := do
  let counts ← decrement state.unusedByCredential record.credentialId
  some { state with unused := state.unused.erase digest, unusedByCredential := counts }

/-- The grants that expired, with their digests. -/
def BrokerState.expired (now : Nat) (state : BrokerState) : List ((_ : String) × GrantRecord) :=
  state.unused.entries.filter fun entry => decide (entry.2.expiresAt ≤ now)

/-- Takes the grants of some digests out, one after the other. -/
def BrokerState.removeAll : List String → BrokerState → Option BrokerState
  | [], state => some state
  | digest :: rest, state =>
    match state.unused.lookup digest with
    | none => state.removeAll rest
    | some record => (state.takeUnused digest record).bind (BrokerState.removeAll rest)

/-- Removes every expired grant. -/
def BrokerState.pruneExpired (now : Nat) (state : BrokerState) : Option BrokerState :=
  state.removeAll ((state.expired now).map Sigma.fst)

/-- Whether another grant of a credential may be issued. -/
def BrokerState.hasUnusedCapacity (limits : BrokerLimits) (credentialId : String)
    (state : BrokerState) : Bool :=
  decide (state.unused.entries.length < limits.unusedTotal) &&
    decide ((state.unusedByCredential.lookup credentialId).getD 0 < limits.unusedPerCredential)

/-- Reserves one active slot. -/
def BrokerState.reserveActive (limits : BrokerLimits) (credentialId : String) (state : BrokerState) :
    Except StreamGrantBrokerError (BrokerState × ActiveStreamSlot) :=
  let credentialActive := (state.activeByCredential.lookup credentialId).getD 0
  if limits.activeTotal ≤ state.activeTotal ∨ limits.activePerCredential ≤ credentialActive then
    .error .rejected
  else .ok ({ state with
    activeTotal := state.activeTotal + 1
    activeByCredential := increment state.activeByCredential credentialId }, ⟨credentialId⟩)

/-- The destructor of an active slot. -/
def BrokerState.releaseActive (credentialId : String) (state : BrokerState) : Option BrokerState := do
  let counts ← decrement state.activeByCredential credentialId
  if state.activeTotal = 0 then none
  else some { state with activeByCredential := counts, activeTotal := state.activeTotal - 1 }

/-! ## The broker and its threads -/

/-- What happens to a grant. -/
inductive GrantEvent
  | issued (expiresAt : Nat)
  | pruned
  | consumed
  | checked (now : Nat)
  | rejected (error : StreamGrantBrokerError)
  | cancelled
  | redeemed
  | dropped
  deriving DecidableEq, Repr

/-- Where a redeem stands after it consumed its grant. -/
inductive RedeemStage
  | consumed
  | revalidating (checkedAt : Nat)
  | reserving (checkedAt : Nat)
  deriving DecidableEq, Repr

/-- A redeem under way. -/
structure Redemption where
  record : GrantRecord
  protocol : String
  stage : RedeemStage
  deriving DecidableEq, Repr

/-- An authorized stream and the slot it holds, with the grant it comes from. -/
structure RedeemedStreamGrant where
  authorization : AuthorizedChannelStream
  activeSlot : ActiveStreamSlot
  issue : Nat
  expiresAt : Nat
  checkedAt : Nat
  deriving DecidableEq, Repr

/-- A grant as its caller gets it. -/
structure IssuedStreamGrant where
  grant : String
  lifetime : Nat
  deriving DecidableEq, Repr

/-- The broker, the redeems under way and the live slots, both in no particular order. -/
structure BrokerSystem where
  state : BrokerState
  issues : Nat
  redeeming : List Redemption
  live : List RedeemedStreamGrant
  history : List (Nat × GrantEvent)
  panicked : Bool

/-- A new broker. -/
def BrokerSystem.init : BrokerSystem := ⟨.empty, 0, [], [], [], false⟩

/-- What can happen to a broker. Threads and slots are named by their position. -/
inductive BrokerStep
  | issue (authorization : AuthorizedChannelStream) (protocol : String) (now : Nat)
    (fill : Nat → Option (Vector UInt8 32))
  | redeem (grant protocol : String)
  | check (thread now : Nat)
  | revalidated (thread : Nat) (answer : Option Bool)
  | cancelled (thread : Nat)
  | reserve (thread : Nat)
  | dropSlot (slot : Nat)

/-- A step that panics. -/
def BrokerSystem.panic (w : BrokerSystem) : BrokerSystem := { w with panicked := true }

/-- A redeem is over without a slot. -/
def BrokerSystem.giveUp (thread : Nat) (record : GrantRecord) (event : GrantEvent)
    (w : BrokerSystem) : BrokerSystem :=
  { w with
    redeeming := w.redeeming.eraseIdx thread
    history := w.history ++ [(record.issue, event)] }

section Steps

variable [Sha256] [UrlSafeNoPad]

/-- Issues one grant for an authorized stream: prunes, checks the capacity and draws. -/
def BrokerSystem.issue (limits : BrokerLimits) (authorization : AuthorizedChannelStream)
    (protocol : String) (now : Nat) (fill : Nat → Option (Vector UInt8 32)) (w : BrokerSystem) :
    Option (Except StreamGrantBrokerError IssuedStreamGrant) × BrokerSystem :=
  if authorization.after < 0 ∨ protocol = "" ∨ maxProtocolLength < byteLen protocol then
    (some (.error .invalidScope), w)
  else match w.state.pruneExpired now with
    | none => (none, w.panic)
    | some state =>
      let gone := (w.state.expired now).map fun entry => (entry.2.issue, GrantEvent.pruned)
      let pruned := { w with state := state, history := w.history ++ gone }
      if state.hasUnusedCapacity limits authorization.credentialId then
        match generateUniqueGrant state.unused fill maxEntropyAttempts with
        | .error error => (some (.error error), pruned)
        | .ok (grant, digest) =>
          let record : GrantRecord :=
            ⟨w.issues, authorization, protocol, now + limits.grantLifetime⟩
          (some (.ok ⟨grant, limits.grantLifetime⟩), { pruned with
            state := { state with
              unused := state.unused.insert digest record
              unusedByCredential := increment state.unusedByCredential authorization.credentialId }
            issues := w.issues + 1
            history := pruned.history ++ [(w.issues, .issued record.expiresAt)] })
      else (some (.error .capacity), pruned)

/-- A redeem consumes the grant it presents. A grant that is unknown is rejected at once. -/
def BrokerSystem.redeem (grant protocol : String) (w : BrokerSystem) : BrokerSystem :=
  match (grantDigest grant).bind fun digest => (w.state.unused.lookup digest).map (digest, ·) with
  | none => w
  | some (digest, record) =>
    match w.state.takeUnused digest record with
    | none => w.panic
    | some state => { w with
        state := state
        redeeming := ⟨record, protocol, .consumed⟩ :: w.redeeming
        history := w.history ++ [(record.issue, .consumed)] }

/-- The clock and the protocol are checked after the grant is gone. -/
def BrokerSystem.check (thread now : Nat) (w : BrokerSystem) : BrokerSystem :=
  match w.redeeming[thread]? with
  | some ⟨record, protocol, .consumed⟩ =>
    if record.expiresAt ≤ now ∨ record.protocol ≠ protocol then
      w.giveUp thread record (.rejected .rejected)
    else { w with
      redeeming := ⟨record, protocol, .revalidating now⟩ :: w.redeeming.eraseIdx thread
      history := w.history ++ [(record.issue, .checked now)] }
  | _ => w

/-- The credential check is answered: it failed, or says whether the credential is current. -/
def BrokerSystem.revalidated (thread : Nat) (answer : Option Bool) (w : BrokerSystem) :
    BrokerSystem :=
  match w.redeeming[thread]? with
  | some ⟨record, protocol, .revalidating checkedAt⟩ =>
    match answer with
    | none => w.giveUp thread record (.rejected .revalidation)
    | some false => w.giveUp thread record (.rejected .rejected)
    | some true => { w with
        redeeming := ⟨record, protocol, .reserving checkedAt⟩ :: w.redeeming.eraseIdx thread }
  | _ => w

/-- The redeem is dropped while it awaits the credential check. -/
def BrokerSystem.cancelled (thread : Nat) (w : BrokerSystem) : BrokerSystem :=
  match w.redeeming[thread]? with
  | some ⟨record, _, .revalidating _⟩ => w.giveUp thread record .cancelled
  | _ => w

/-- The active slot is reserved, or the capacity is used up. -/
def BrokerSystem.reserve (limits : BrokerLimits) (thread : Nat) (w : BrokerSystem) : BrokerSystem :=
  match w.redeeming[thread]? with
  | some ⟨record, _, .reserving checkedAt⟩ =>
    match w.state.reserveActive limits record.credentialId with
    | .error error => w.giveUp thread record (.rejected error)
    | .ok (state, activeSlot) => { w with
        state := state
        redeeming := w.redeeming.eraseIdx thread
        live := ⟨record.authorization, activeSlot, record.issue, record.expiresAt, checkedAt⟩ :: w.live
        history := w.history ++ [(record.issue, .redeemed)] }
  | _ => w

/-- A slot is dropped. -/
def BrokerSystem.dropSlot (slot : Nat) (w : BrokerSystem) : BrokerSystem :=
  match w.live[slot]? with
  | none => w
  | some redeemed =>
    match w.state.releaseActive redeemed.activeSlot.credentialId with
    | none => w.panic
    | some state => { w with
        state := state
        live := w.live.eraseIdx slot
        history := w.history ++ [(redeemed.issue, .dropped)] }

/-- One step of the broker. -/
def BrokerStep.next (limits : BrokerLimits) (step : BrokerStep) (w : BrokerSystem) : BrokerSystem :=
  match step with
  | .issue authorization protocol now fill => (w.issue limits authorization protocol now fill).2
  | .redeem grant protocol => w.redeem grant protocol
  | .check thread now => w.check thread now
  | .revalidated thread answer => w.revalidated thread answer
  | .cancelled thread => w.cancelled thread
  | .reserve thread => w.reserve limits thread
  | .dropSlot slot => w.dropSlot slot

/-- A broker after some steps. -/
def brokerRun (limits : BrokerLimits) (steps : List BrokerStep) : BrokerSystem :=
  runFrom (BrokerStep.next limits) .init steps

end Steps

end Fleetd
