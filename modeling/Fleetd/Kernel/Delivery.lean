import Fleetd.Kernel.Message

/-!
# The delivery row and its state machine

Every transition a delivery row can make. What else belongs in the same commit is the
caller's decision, so a transition reports whether the row moved. A settlement addresses
the one leased row it may touch by `LeasedRow`: which delivery, whose it is, the token the
caller holds, and the side of its expiry the lease has to be on.
-/

namespace Fleetd

open Relational Relational.Transaction

variable {Json : Type}

/-- A request to lease deliveries. -/
structure ClaimDeliveries where
  limit : Nat
  leaseDurationMs : Nat
  deriving DecidableEq, Repr

/-- A request to release a delivery for a later attempt. -/
structure RetryDelivery where
  leaseToken : String
  retryAfterMs : Nat
  error : Option String
  deriving DecidableEq, Repr

/-- A request to park a delivery. -/
structure BlockDelivery where
  leaseToken : String
  reason : String
  deriving DecidableEq, Repr

/-- An operator's decision about one block. -/
structure ResolveDeliveryBlock where
  resolution : BlockResolution
  note : Option String
  retryAfterMs : Nat
  deriving DecidableEq, Repr

/-- A leased delivery as it is handed out. -/
structure Delivery (Json : Type) where
  message : Message Json
  attempt : Nat
  leaseExpiresAtMs : Int
  lastError : Option String
  deriving DecidableEq, Repr

/-- A block as it is shown to its reader. -/
structure BlockedDelivery (Json : Type) where
  blockId : Nat
  agentId : String
  message : Message Json
  attempt : Nat
  reason : String
  blockedAtMs : Int
  deriving DecidableEq, Repr

def maxClaimLimit : Nat := 100
def maxLeaseDurationMs : Nat := 3600000
def maxRetryDelayMs : Nat := 86400000
def maxErrorLength : Nat := 4096

/-! ## Validation -/

/-- The bounds of a claim. -/
def validateClaim (input : ClaimDeliveries) : Except FleetError Unit :=
  if input.limit = 0 ∨ input.limit > maxClaimLimit then
    .error (.invalid s!"claim limit must be between 1 and {maxClaimLimit}")
  else if input.leaseDurationMs = 0 ∨ input.leaseDurationMs > maxLeaseDurationMs then
    .error (.invalid s!"lease duration must be between 1 and {maxLeaseDurationMs} milliseconds")
  else .ok ()

/-- A lease token is not blank. -/
def validateToken (leaseToken : String) : Except FleetError Unit :=
  if isBlank leaseToken then .error (.invalid "lease token must not be empty") else .ok ()

/-- The bounds of a retry. -/
def validateRetry (input : RetryDelivery) : Except FleetError Unit := do
  validateToken input.leaseToken
  if input.retryAfterMs > maxRetryDelayMs then
    .error (.invalid s!"retry delay must not exceed {maxRetryDelayMs} milliseconds")
  else if input.error.any (byteLen · > maxErrorLength) then
    .error (.invalid s!"retry error must not exceed {maxErrorLength} bytes")
  else .ok ()

/-- Evidence, when present, is bounded and not blank. -/
def validateEvidence (label : String) (value : Option String) : Except FleetError Unit :=
  if value.any (byteLen · > maxErrorLength) then
    .error (.invalid s!"{label} must not exceed {maxErrorLength} bytes")
  else if value.any isBlank then .error (.invalid s!"{label} must not be empty")
  else .ok ()

/-- The bounds of a block. -/
def validateBlock (input : BlockDelivery) : Except FleetError Unit := do
  validateToken input.leaseToken
  validateEvidence "block reason" (some input.reason)

/-- The bounds of a resolution. -/
def validateResolution (blockId : Int) (input : ResolveDeliveryBlock) : Except FleetError Unit :=
  if blockId ≤ 0 then .error (.invalid "delivery block ID must be positive")
  else if input.retryAfterMs > maxRetryDelayMs then
    .error (.invalid s!"retry delay must not exceed {maxRetryDelayMs} milliseconds")
  else if input.resolution = .abandon ∧ input.retryAfterMs ≠ 0 then
    .error (.invalid "abandoned blocks cannot have a retry delay")
  else validateEvidence "resolution note" input.note

/-- An unsigned value that has to fit a signed column. -/
def tryFromU64 (value : Nat) (message : String) : Except FleetError Int :=
  if value ≤ i64Max then .ok value else .error (.invalid message)

/-- The agent exists. -/
def ensureAgent (agentId : String) : Tx Unit :=
  ensureExists (fun s => s.agents.map (·.id)) "agent" agentId

/-! ## The leased row a settlement may touch -/

/-- How a settlement addresses the delivery row it is settling. -/
inductive DeliveryKey
  | messageId (id : String)
  | seq (messageSeq : Nat)
  deriving DecidableEq, Repr

/-- The durable sequence of a message's public identifier. -/
def seqOfMessageId (messages : List MessageRow) (id : String) : Option Nat :=
  (messages.find? fun m => m.id = id).map (·.seq)

/-- Whether a row is the addressed one. -/
def DeliveryKey.predicate (key : DeliveryKey) (messages : List MessageRow) (rowSeq : Nat) : Bool :=
  match key with
  | .messageId id => seqOfMessageId messages id = some rowSeq
  | .seq messageSeq => rowSeq = messageSeq

/-- Which side of its expiry the lease has to be on. -/
inductive LeaseWindow
  | live
  | expired
  deriving DecidableEq, Repr

/-- Whether an expiry is on the wanted side. -/
def LeaseWindow.predicate (window : LeaseWindow) (leaseExpiresAtMs now : Int) : Bool :=
  match window with
  | .live => leaseExpiresAtMs > now
  | .expired => leaseExpiresAtMs ≤ now

/-- The exact row one settlement is allowed to touch. -/
structure LeasedRow where
  key : DeliveryKey
  agentId : String
  leaseToken : String
  window : LeaseWindow
  now : Int
  deriving DecidableEq, Repr

/-- Whether a stored row is the one addressed. -/
def LeasedRow.selects (row : LeasedRow) (messages : List MessageRow) (d : AgentDelivery) : Bool :=
  row.key.predicate messages d.messageSeq && decide (d.agentId = row.agentId) &&
    match d.state with
    | .leased leaseToken leaseExpiresAtMs =>
      decide (leaseToken = row.leaseToken) && row.window.predicate leaseExpiresAtMs row.now
    | _ => false

/-- Rewrites the addressed row and reports whether it was there. -/
def LeasedRow.update (row : LeasedRow) (set : AgentDelivery → AgentDelivery) : Tx Bool :=
  write fun s => (s.agentDeliveries.countP (row.selects s.messages) = 1, { s with
    agentDeliveries := updateWhere (row.selects s.messages) set s.agentDeliveries })

/-- The columns of an acknowledgement. -/
def acknowledgedColumns (leaseToken : String) (now : Int) (d : AgentDelivery) : AgentDelivery :=
  { d with
    state := .acknowledged now
    lastSettledLeaseToken := some leaseToken
    lastSettlement := some .acknowledged }

/-- The columns of a release. -/
def retryColumns (input : RetryDelivery) (availableAtMs : Int) (d : AgentDelivery) :
    AgentDelivery :=
  { d with
    state := .pending
    availableAtMs := availableAtMs
    lastError := input.error
    lastSettledLeaseToken := some input.leaseToken
    lastSettlement := some .retry }

/-- The columns of a parked row. -/
def blockedColumns (leaseToken reason : String) (d : AgentDelivery) : AgentDelivery :=
  { d with
    state := .blocked
    lastError := some reason
    lastSettledLeaseToken := some leaseToken
    lastSettlement := some .blocked }

/-- Moves one leased row to `acknowledged`. -/
def markAcknowledged (agentId messageId leaseToken : String) (now : Int) : Tx Bool :=
  LeasedRow.update ⟨.messageId messageId, agentId, leaseToken, .live, now⟩
    (acknowledgedColumns leaseToken now)

/-- Releases one leased row for a later attempt. -/
def markRetry (agentId messageId : String) (input : RetryDelivery) (availableAtMs now : Int) :
    Tx Bool :=
  LeasedRow.update ⟨.messageId messageId, agentId, input.leaseToken, .live, now⟩
    (retryColumns input availableAtMs)

/-- Parks one leased row so it never becomes automatically claimable again. -/
def markBlocked (agentId messageId : String) (input : BlockDelivery) (now : Int) : Tx Bool :=
  LeasedRow.update ⟨.messageId messageId, agentId, input.leaseToken, .live, now⟩
    (blockedColumns input.leaseToken input.reason)

/-- Blocks the row an armed lease held, keyed by sequence. -/
def blockExpiredLease (agentId : String) (messageSeq : Nat) (leaseToken reason : String)
    (now : Int) : Tx Bool :=
  LeasedRow.update ⟨.seq messageSeq, agentId, leaseToken, .expired, now⟩
    (blockedColumns leaseToken reason)

/-- Moves one leased row to `acknowledged`, keyed by sequence. -/
def acknowledgeLeasedSeq (agentId : String) (messageSeq : Nat) (leaseToken : String) (now : Int) :
    Tx Bool :=
  LeasedRow.update ⟨.seq messageSeq, agentId, leaseToken, .live, now⟩
    (acknowledgedColumns leaseToken now)

/-- Recognises a replay of a settlement that was already recorded. -/
def settleMiss (agentId messageId leaseToken : String) (expectedSettlement : Settlement) :
    Tx Unit := do
  let s ← read id
  let d ← require
    (s.agentDeliveries.find? fun d =>
      d.agentId = agentId ∧ seqOfMessageId s.messages messageId = some d.messageSeq)
    (.notFound "delivery" s!"{agentId}/{messageId}")
  ensure (d.lastSettledLeaseToken = some leaseToken ∧ d.lastSettlement = some expectedSettlement)
    (.leaseConflict "lease is expired, invalid, or owned by another worker")

/-! ## Blocks -/

/-- Records block evidence for a row identified by sequence. -/
def recordBlock (messageSeq : Nat) (agentId : String) (attempt : Nat) (leaseToken reason : String)
    (blockedAtMs : Int) : Tx Nat := do
  let blocks ← read (·.deliveryBlocks)
  ensure (0 < attempt) (.database "CHECK constraint failed: attempt > 0")
  ensure (∀ b ∈ blocks, ¬ (b.deliveryKey = (messageSeq, agentId) ∧ b.leaseToken = leaseToken))
    (.database "UNIQUE constraint failed: delivery_blocks")
  write fun s => (s.deliveryBlockSequence + 1, { s with
    deliveryBlockSequence := s.deliveryBlockSequence + 1
    deliveryBlocks := s.deliveryBlocks ++ [{
      id := s.deliveryBlockSequence + 1
      messageSeq := messageSeq
      agentId := agentId
      attempt := attempt
      leaseToken := leaseToken
      reason := reason
      blockedAtMs := blockedAtMs
      resolved := none }] })

/-- Records block evidence for the row that was just parked, and returns its identifier. -/
def insertBlockRecord (agentId messageId : String) (input : BlockDelivery) (blockedAtMs : Int) :
    Tx Nat := do
  let rows : List AgentDelivery ← read fun s => s.agentDeliveries.filter fun d =>
    d.agentId = agentId ∧ seqOfMessageId s.messages messageId = some d.messageSeq ∧
      d.state = .blocked
  match rows with
  | [d] => recordBlock d.messageSeq d.agentId d.attempt input.leaseToken input.reason blockedAtMs
  | _ => fail (.leaseConflict "blocked delivery changed before evidence was recorded")

/-- Decodes a block with its message. -/
def blockedDeliveryFromRow [SerdeJson Json] (block : DeliveryBlock) (message : MessageRow) :
    Except FleetError (BlockedDelivery Json) := do
  let message ← messageFromRow message
  pure { blockId := block.id, agentId := block.agentId, message, attempt := block.attempt,
         reason := block.reason, blockedAtMs := block.blockedAtMs }

/-- One block by its identifier. -/
def blockedDeliveryById [SerdeJson Json] (blockId : Nat) : Tx (BlockedDelivery Json) := do
  let s ← read id
  let block ← require (s.deliveryBlocks.find? fun b => b.id = blockId)
    (.notFound "delivery block" (toString blockId))
  let message ← require (s.messages.find? fun m => m.seq = block.messageSeq)
    (.notFound "delivery block" (toString blockId))
  check (blockedDeliveryFromRow block message)

/-- The block a lease was parked with, and its reason. -/
def blockedDeliveryByLease [SerdeJson Json] (agentId messageId leaseToken : String) :
    Tx (Option (BlockedDelivery Json × String)) := do
  let found : Option (DeliveryBlock × MessageRow) ← read fun s =>
    (s.deliveryBlocks.find? fun b => b.agentId = agentId ∧
        seqOfMessageId s.messages messageId = some b.messageSeq ∧
        b.leaseToken = leaseToken).bind fun block =>
      (s.messages.find? fun m => m.id = messageId).map (block, ·)
  match found with
  | some (block, message) =>
    let blocked ← check (blockedDeliveryFromRow block message)
    pure (some (blocked, block.reason))
  | none => pure none

/-! ## Operator resolution -/

/-- The block under review with the state of its delivery. -/
def resolutionRow (blockId : Int) : Tx (DeliveryBlock × DeliveryState) := do
  let s ← read id
  let block ← require (s.deliveryBlocks.find? fun b => (b.id : Int) = blockId)
    (.notFound "delivery block" (toString blockId))
  let d ← require (s.agentDeliveries.find? fun d => d.key = block.deliveryKey)
    (.notFound "delivery block" (toString blockId))
  pure (block, d.state)

/-- Whether the block already carries exactly this decision. -/
def resolutionIsReplay (block : DeliveryBlock) (input : ResolveDeliveryBlock) :
    Except FleetError Bool :=
  match block.resolved with
  | none => .ok false
  | some stored =>
    if stored.resolution = input.resolution ∧ stored.resolutionNote = input.note ∧
        stored.retryAfterMs = input.retryAfterMs then .ok true
    else .error (.conflict "delivery block was already resolved differently")

/-- The delivery columns of a decision. -/
def resolvedColumns (input : ResolveDeliveryBlock) (availableAtMs : Int) (d : AgentDelivery) :
    AgentDelivery :=
  match input.resolution with
  | .requeue => { d with
      state := .pending
      availableAtMs := availableAtMs
      lastError := input.note <|> d.lastError
      lastSettledLeaseToken := none
      lastSettlement := none }
  | .abandon => { d with
      state := .dead
      lastError := input.note <|> d.lastError
      lastSettledLeaseToken := none
      lastSettlement := none }

/-- When a requeued delivery becomes available; an abandoned one never does. -/
def resolvedAvailability (input : ResolveDeliveryBlock) (now : Int) : Except FleetError Int :=
  match input.resolution with
  | .requeue => checkedAdd now input.retryAfterMs "retry time overflowed"
  | .abandon => .ok now

/-- Moves the blocked delivery where the decision says. -/
def resolveDeliveryRow (block : DeliveryBlock) (input : ResolveDeliveryBlock) (now : Int) :
    Tx Unit := do
  let availableAtMs ← check (resolvedAvailability input now)
  let rows ← write fun s =>
    let selected := fun d : AgentDelivery =>
      decide (d.key = block.deliveryKey) && decide (d.state = .blocked)
    (s.agentDeliveries.countP selected, { s with
      agentDeliveries :=
        updateWhere selected (resolvedColumns input availableAtMs) s.agentDeliveries })
  ensure (rows = 1) (.conflict "delivery block changed during resolution")

/-- The block with the decision written into it. -/
def DeliveryBlock.resolve (block : DeliveryBlock) (input : ResolveDeliveryBlock) (now : Int) :
    DeliveryBlock :=
  { block with
    resolved := some { resolvedAtMs := now, resolution := input.resolution,
                       resolutionNote := input.note, retryAfterMs := input.retryAfterMs } }

/-- Applies one delivery-block resolution inside a caller-owned transaction. -/
def resolveDeliveryBlockTransaction (blockId : Int) (input : ResolveDeliveryBlock) (now : Int) :
    Tx Unit := do
  check (validateResolution blockId input)
  let _retryAfterMs ← check (tryFromU64 input.retryAfterMs "retry delay is too large")
  let (block, deliveryState) ← resolutionRow blockId
  let replay ← check (resolutionIsReplay block input)
  if replay then pure ()
  else
    ensure (deliveryState = .blocked)
      (.conflict "delivery block is not the current unresolved block")
    resolveDeliveryRow block input now
    let rows ← write fun s =>
      let selected := fun b : DeliveryBlock =>
        decide ((b.id : Int) = blockId) && b.resolved.isNone
      (s.deliveryBlocks.countP selected, { s with
        deliveryBlocks := updateWhere selected (·.resolve input now) s.deliveryBlocks })
    ensure (rows = 1) (.conflict "delivery block changed during resolution")

/-! ## Leasing -/

/-- Whether a state may be leased at a time: pending, or leased and expired. -/
def DeliveryState.isClaimable (now : Int) : DeliveryState → Bool
  | .pending => true
  | .leased _ leaseExpiresAtMs => leaseExpiresAtMs ≤ now
  | _ => false

/-- Whether one row may be leased by an agent for a set of kinds. -/
def claimable (agentId : String) (now : Int) (messageKinds : Option (List String))
    (messages : List MessageRow) (d : AgentDelivery) : Bool :=
  decide (d.agentId = agentId) && decide (d.availableAtMs ≤ now) && d.state.isClaimable now &&
    messages.any fun m => decide (m.seq = d.messageSeq) &&
      match messageKinds with
      | none => true
      | some kinds => decide (m.kind ∈ kinds)

/-- The oldest claimable rows, at most `limit` of them. -/
def claimSelection (agentId : String) (now : Int) (limit : Nat)
    (messageKinds : Option (List String)) (s : Store) : List AgentDelivery :=
  ((s.agentDeliveries.filter (claimable agentId now messageKinds s.messages)).insertionSort
    (fun a b => a.messageSeq ≤ b.messageSeq)).take limit

/-- The columns of a new lease. -/
def leasedColumns (leaseToken : String) (leaseExpiresAtMs : Int) (d : AgentDelivery) :
    AgentDelivery :=
  { d with state := .leased leaseToken leaseExpiresAtMs, attempt := d.attempt + 1 }

/-- Leases the oldest eligible rows in one agent inbox. -/
def leaseClaimable (agentId leaseToken : String) (leaseExpiresAtMs now : Int) (limit : Nat)
    (messageKinds : Option (List String)) : Tx Unit :=
  write fun s => ((), { s with
    agentDeliveries := updateWhere
      (fun d => decide (d ∈ claimSelection agentId now limit messageKinds s))
      (leasedColumns leaseToken leaseExpiresAtMs) s.agentDeliveries })

/-- The rows one agent holds under a lease token, in order of their messages. -/
def leasedRows (agentId leaseToken : String) (s : Store) : List (AgentDelivery × MessageRow) :=
  ((s.agentDeliveries.filter fun d =>
      d.agentId = agentId ∧ d.state.leaseToken = some leaseToken).insertionSort
    (fun a b => a.messageSeq ≤ b.messageSeq)).filterMap fun d =>
      (s.messages.find? fun m => m.seq = d.messageSeq).map (d, ·)

/-- Decodes a leased row. -/
def deliveryFromRow [SerdeJson Json] (row : AgentDelivery × MessageRow) :
    Except FleetError (Delivery Json) := do
  let message ← messageFromRow row.2
  match row.1.state.leaseExpiresAtMs with
  | some leaseExpiresAtMs =>
    pure { message, attempt := row.1.attempt, leaseExpiresAtMs, lastError := row.1.lastError }
  | none => .error (.database "error occurred while decoding column lease_expires_at_ms")

/-- Reads the deliveries currently held under one lease token. -/
def leasedBatch [SerdeJson Json] (agentId leaseToken : String) : Tx (List (Delivery Json)) := do
  let rows ← read (leasedRows agentId leaseToken)
  check (rows.mapM deliveryFromRow)

end Fleetd
