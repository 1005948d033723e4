import Fleetd.Execution.SessionBinding

/-!
# Delivery settlement composed with the invocation fence

A delivery and the invocation that fences it settle together or not at all. The kernel
owns the delivery row, the fence owns the invocation record, and each operation here
applies both in one transaction.
-/

namespace Fleetd

open Relational Relational.Transaction

variable {Json : Type}

/-- A leased batch. -/
structure ClaimBatch (Json : Type) where
  leaseToken : String
  leaseExpiresAtMs : Int
  deliveries : List (Delivery Json)
  deriving DecidableEq, Repr

/-- Atomically leases the oldest eligible entries from one agent inbox. -/
def claimDeliveries [SerdeJson Json] (agentId : String) (input : ClaimDeliveries) (now : Int)
    (leaseToken : String) : Tx (ClaimBatch Json) := do
  check (validateClaim input)
  let leaseExpiresAtMs ← check (leaseExpiry now input)
  ensureAgent agentId
  let _ ← recoverExpiredInvocationsTransaction agentId now
  leaseClaimable agentId leaseToken leaseExpiresAtMs now input.limit none
  let deliveries ← leasedBatch agentId leaseToken
  pure { leaseToken, leaseExpiresAtMs, deliveries }

/-- Acknowledges successful processing under the active lease. -/
def acknowledgeDelivery (agentId messageId leaseToken : String) (now : Int) : Tx Unit := do
  check (validateToken leaseToken)
  let before ← read id
  let moved ← markAcknowledged agentId messageId leaseToken now
  if moved then
    terminalizeInvocation agentId messageId leaseToken .outcomeKnown .acknowledged now
  else
    rollback before
    settleMiss agentId messageId leaseToken .acknowledged

/-- Releases a failed delivery for a later attempt under the active lease. -/
def retryDelivery (agentId messageId : String) (input : RetryDelivery) (now : Int) : Tx Unit := do
  check (validateRetry input)
  let retryDelay ← check (tryFromU64 input.retryAfterMs "retry delay is too large")
  let availableAtMs ← check (checkedAdd now retryDelay "retry time overflowed")
  let before ← read id
  ensureRetryIsSafe agentId messageId input.leaseToken
  let moved ← markRetry agentId messageId input availableAtMs now
  if moved then
    terminalizeInvocation agentId messageId input.leaseToken .notStarted .retry now
  else
    rollback before
    settleMiss agentId messageId input.leaseToken .retry

/-- Parks an ambiguously executed delivery under its active lease. -/
def blockDelivery [SerdeJson Json] (agentId messageId : String) (input : BlockDelivery)
    (now : Int) : Tx (BlockedDelivery Json × Bool) := do
  check (validateBlock input)
  let before ← read id
  let moved ← markBlocked agentId messageId input now
  if moved then
    let blockId ← insertBlockRecord agentId messageId input now
    terminalizeInvocation agentId messageId input.leaseToken .outcomeUnknown .blocked now
    let blocked ← blockedDeliveryById blockId
    pure (blocked, true)
  else
    let existing ← blockedDeliveryByLease agentId messageId input.leaseToken
    match existing with
    | some (blocked, reason) =>
      ensure (reason = input.reason)
        (.conflict "lease was already blocked with different evidence")
      pure (blocked, false)
    | none =>
      rollback before
      settleMiss agentId messageId input.leaseToken .blocked
      fail (.leaseConflict "blocked settlement evidence is missing")

/-- Applies one operator decision to a blocked delivery and retires the uncertain session
generation bound to that exact attempt. -/
def resolveDeliveryBlock (blockId : Int) (input : ResolveDeliveryBlock) (now : Int) :
    Tx Unit := do
  resolveDeliveryBlockTransaction blockId input now
  let _ ← retireUncertainSessionForDeliveryBlock blockId input.resolution now
  pure ()

end Fleetd
