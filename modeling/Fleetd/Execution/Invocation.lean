import Fleetd.Execution.SessionTurn

/-!
# Managed invocations

An invocation is the durable fence of one delivery attempt: reserved with the lease, armed
immediately before the effectful dispatch, and terminal once its outcome is recorded. A
reservation that expires unarmed is proven not started and may be reclaimed; an armed one
whose lease expires is parked with its delivery.
-/

namespace Fleetd

open Relational Relational.Transaction

variable {Json : Type}

/-- The fence a worker presents when it arms an invocation. -/
structure ArmInvocation where
  leaseToken : String
  fenceToken : String
  deriving DecidableEq, Repr

/-- The fence and the result a worker presents when it completes an invocation. -/
structure CompleteInvocation (Json : Type) where
  leaseToken : String
  fenceToken : String
  kind : String
  payload : Json
  deriving DecidableEq, Repr

/-- A decoded invocation. The state carries the columns its `CHECK` constraints tie to it. -/
structure Invocation (Json : Type) where
  id : String
  agentId : String
  message : Message Json
  deliveryAttempt : Nat
  leaseToken : String
  leaseExpiresAtMs : Int
  fenceToken : String
  state : InvocationState
  reservedAtMs : Int
  resultMessageId : Option String
  deriving DecidableEq, Repr

/-- The result of a completion. -/
structure InvocationCompletion (Json : Type) where
  invocation : Invocation Json
  result : Message Json
  deriving DecidableEq, Repr

/-- The columns of an ended invocation. -/
def terminalColumns (now : Int) (certainty : ExecutionCertainty) (reason : TerminalReason)
    (i : InvocationRow) : InvocationRow :=
  { i with state := .terminal i.state.dispatchArmedAtMs now certainty reason }

/-- The result message a state names. -/
def InvocationState.resultMessageSeq : InvocationState → Option Nat
  | .terminal _ _ _ (.completed resultMessageSeq) => some resultMessageSeq
  | _ => none

/-- Decodes an invocation with its message and its result. -/
def invocationFromRow [SerdeJson Json] (messages : List MessageRow) (i : InvocationRow)
    (m : MessageRow) : Except FleetError (Invocation Json) := do
  let message ← messageFromRow m
  pure {
    id := i.id
    agentId := i.agentId
    message := message
    deliveryAttempt := i.deliveryAttempt
    leaseToken := i.leaseToken
    leaseExpiresAtMs := i.leaseExpiresAtMs
    fenceToken := i.fenceToken
    state := i.state
    reservedAtMs := i.reservedAtMs
    resultMessageId := i.state.resultMessageSeq.bind fun resultSeq =>
      (messages.find? fun r => r.seq = resultSeq).map (·.id) }

/-- One invocation, decoded. -/
def invocationById [SerdeJson Json] (invocationId : String) : Tx (Invocation Json) := do
  let s ← read id
  let i ← require (s.invocations.find? fun i => i.id = invocationId)
    (.notFound "invocation" invocationId)
  let m ← require (s.messages.find? fun m => m.seq = i.messageSeq)
    (.notFound "invocation" invocationId)
  check (invocationFromRow s.messages i m)

/-- The values of a request that may not be blank, in the order they are checked. -/
def validatePresent : List (String × String) → Except FleetError Unit
  | [] => .ok ()
  | (label, value) :: rest =>
    if isBlank value then .error (.invalid s!"{label} must not be empty") else validatePresent rest

/-- The bounds of an arming request. -/
def validateArm (invocationId : String) (input : ArmInvocation) : Except FleetError Unit :=
  validatePresent [("invocation ID", invocationId), ("lease token", input.leaseToken),
    ("fence token", input.fenceToken)]

/-- The bounds of a completion request. -/
def validateCompletion (invocationId : String) (input : CompleteInvocation Json) :
    Except FleetError Unit :=
  validatePresent [("invocation ID", invocationId), ("lease token", input.leaseToken),
    ("fence token", input.fenceToken), ("result kind", input.kind)]

/-- One invocation of an agent with its delivery and its input message. -/
structure InvocationWithDelivery where
  invocation : InvocationRow
  delivery : AgentDelivery
  input : MessageRow
  deriving DecidableEq, Repr

/-- Reads one invocation of an agent with its delivery and its input message. -/
def invocationWithDelivery (agentId invocationId : String) : Tx InvocationWithDelivery := do
  let s ← read id
  let i ← require (s.invocations.find? fun i => i.id = invocationId ∧ i.agentId = agentId)
    (.notFound "invocation" invocationId)
  let d ← require (s.agentDeliveries.find? fun d => d.key = i.deliveryKey)
    (.notFound "invocation" invocationId)
  let m ← require (s.messages.find? fun m => m.seq = i.messageSeq)
    (.notFound "invocation" invocationId)
  pure { invocation := i, delivery := d, input := m }

/-- The caller presents the tokens the invocation was reserved with. -/
def validateStaticFence (row : InvocationWithDelivery) (leaseToken fenceToken : String) :
    Except FleetError Unit :=
  if row.invocation.leaseToken ≠ leaseToken ∨ row.invocation.fenceToken ≠ fenceToken then
    .error (.leaseConflict "invocation lease or fence token is invalid")
  else .ok ()

/-- The lease is live on both rows and still owns the delivery. -/
def validateLiveLease (row : InvocationWithDelivery) (leaseToken : String) (now : Int) :
    Except FleetError Unit :=
  if row.invocation.leaseExpiresAtMs ≤ now ∨
      row.delivery.state.leaseExpiresAtMs.all (fun expiry => decide (expiry ≤ now)) = true ∨
      row.delivery.state.leaseToken ≠ some leaseToken then
    .error (.leaseConflict "invocation lease is expired or no longer owns the delivery")
  else .ok ()

/-- The fence of an arming request. -/
def validateInvocationFence (row : InvocationWithDelivery) (input : ArmInvocation) (now : Int) :
    Except FleetError Unit := do
  validateStaticFence row input.leaseToken input.fenceToken
  validateLiveLease row input.leaseToken now

/-! ## Arming -/

/-- Arms one invocation inside a caller's transaction. -/
def armInvocationTransaction [SerdeJson Json] (agentId invocationId : String)
    (input : ArmInvocation) (now : Int) : Tx (Invocation Json) := do
  check (validateArm invocationId input)
  let row ← invocationWithDelivery agentId invocationId
  check (validateInvocationFence row input now)
  match row.invocation.state with
  | .reserved =>
    let rows ← write fun s =>
      let selected := fun i : InvocationRow => decide (i.id = invocationId) &&
        decide (i.agentId = agentId) && decide (i.state = .reserved)
      (s.invocations.countP selected, { s with
        invocations := updateWhere selected ({ · with state := .dispatchArmed now })
          s.invocations })
    ensure (rows = 1) (.conflict "invocation changed while dispatch was armed")
  | .dispatchArmed _ => pure ()
  | .terminal .. => fail (.conflict "terminal invocation cannot be dispatched")
  invocationById invocationId

/-- Durably arms one invocation immediately before an effectful dispatch. -/
def armInvocation [SerdeJson Json] (agentId invocationId : String) (input : ArmInvocation)
    (now : Int) : Tx (Invocation Json) :=
  armInvocationTransaction agentId invocationId input now

/-! ## Completion -/

/-- The result message a completion asks for. -/
def resultInput (agentId invocationId : String) (input : MessageRow)
    (completion : CompleteInvocation Json) : CreateMessage Json where
  senderId := agentId
  idempotencyKey := some s!"invocation/{invocationId}/result"
  recipientId := some input.senderId
  kind := completion.kind
  payload := completion.payload
  correlationId := input.correlationId
  causationId := some input.id

/-- Whether a stored message is the result a completion asks for. -/
def messageMatchesResult [DecidableEq Json] (message : Message Json) (channelId : String)
    (input : CreateMessage Json) : Bool :=
  message.channelId = channelId ∧ message.senderId = input.senderId ∧
    message.recipientId = input.recipientId ∧ message.kind = input.kind ∧
    message.payload = input.payload ∧ message.correlationId = input.correlationId ∧
    message.causationId = input.causationId

/-- The result key has not been used by an ordinary message. -/
def ensureResultKeyUnused (agentId invocationId : String) : Tx Unit := do
  let messages ← read (·.messages)
  ensure (∀ m ∈ messages, ¬ (m.senderId = agentId ∧
      m.idempotencyKey = some s!"invocation/{invocationId}/result"))
    (.conflict "invocation result key was already used outside completion")

/-- Acknowledges the input of a completed invocation. -/
def acknowledgeInvocationDelivery (row : InvocationWithDelivery) (agentId leaseToken : String)
    (now : Int) : Tx Unit := do
  let moved ← acknowledgeLeasedSeq agentId row.invocation.messageSeq leaseToken now
  ensure (moved = true) (.leaseConflict "invocation no longer owns its input delivery")

/-- Recognises a repeat of a completion that was already recorded. -/
def completedReplay [DecidableEq Json] [SerdeJson Json] (invocationId : String)
    (row : InvocationWithDelivery) (expected : CreateMessage Json) :
    Tx (InvocationCompletion Json) := do
  let resultSeq ← require row.invocation.state.resultMessageSeq
    (.conflict "terminal invocation was not completed with a result")
  let result ← messageBySeq resultSeq
  ensure (messageMatchesResult result row.input.channelId expected = true)
    (.conflict "invocation was already completed with a different result")
  let invocation ← invocationById invocationId
  pure { invocation, result }

/-- Ends an armed invocation as completed with its result message. -/
def markCompleted (agentId invocationId : String) (resultMessageSeq : Nat) (now : Int) :
    Tx Unit := do
  let rows ← write fun s =>
    let selected := fun i : InvocationRow => decide (i.id = invocationId) &&
      decide (i.agentId = agentId) && i.state.isArmed
    (s.invocations.countP selected, { s with
      invocations := updateWhere selected
        (terminalColumns now .outcomeKnown (.completed resultMessageSeq)) s.invocations })
  ensure (rows = 1) (.conflict "invocation changed during completion")

/-- Publishes the result of an armed invocation and acknowledges its input, inside a
caller's transaction. The result message draws its own identifier and clock. -/
def publishCompletion [SerdeJson Json] (agentId invocationId : String)
    (input : CompleteInvocation Json) (row : InvocationWithDelivery) (now : Int)
    (resultId : String) (resultNow : Int) : Tx (InvocationCompletion Json) := do
  check (validateLiveLease row input.leaseToken now)
  ensureResultKeyUnused agentId invocationId
  let result ← insertMessage row.input.channelId (resultInput agentId invocationId row.input input)
    resultId resultNow
  acknowledgeInvocationDelivery row agentId input.leaseToken now
  markCompleted agentId invocationId result.seq now
  let invocation ← invocationById invocationId
  pure { invocation, result }

/-- A completion outside its session must not find a turn in flight. -/
def ensureSessionAllowsCompletion (invocationId : String) (allowActiveSessionBinding : Bool) :
    Tx Unit :=
  if allowActiveSessionBinding then pure () else ensureInvocationNotActiveOnSession invocationId

/-- Completes an invocation, or recognises a repeat, inside a caller's transaction. -/
def completeInvocationTransaction [DecidableEq Json] [SerdeJson Json]
    (agentId invocationId : String) (input : CompleteInvocation Json) (now : Int)
    (allowActiveSessionBinding : Bool) (resultId : String) (resultNow : Int) :
    Tx (InvocationCompletion Json × Bool) := do
  check (validateCompletion invocationId input)
  ensureSessionAllowsCompletion invocationId allowActiveSessionBinding
  let row ← invocationWithDelivery agentId invocationId
  check (validateStaticFence row input.leaseToken input.fenceToken)
  match row.invocation.state with
  | .terminal .. =>
    let completion ← completedReplay invocationId row
      (resultInput agentId invocationId row.input input)
    pure (completion, false)
  | .reserved => fail (.conflict "invocation must be armed before completion")
  | .dispatchArmed _ =>
    let completion ← publishCompletion agentId invocationId input row now resultId resultNow
    pure (completion, true)

/-- Atomically publishes the invocation result and acknowledges its input delivery. -/
def completeInvocation [DecidableEq Json] [SerdeJson Json] (agentId invocationId : String)
    (input : CompleteInvocation Json) (now : Int) (resultId : String) (resultNow : Int) :
    Tx (InvocationCompletion Json × Bool) :=
  completeInvocationTransaction agentId invocationId input now false resultId resultNow

/-! ## Settlement of the fence -/

/-- A retry is safe only while the open invocation of the lease was never armed. -/
def ensureRetryIsSafe (agentId messageId leaseToken : String) : Tx Unit := do
  let state : Option InvocationState ← read fun s =>
    (s.invocations.find? (openInvocation agentId messageId leaseToken s.messages)).map (·.state)
  match state with
  | some (.dispatchArmed _) =>
    fail (.conflict "dispatch-armed invocation must be blocked or acknowledged")
  | _ => pure ()

/-- Ends the open invocation of a lease together with its delivery. -/
def terminalizeInvocation (agentId messageId leaseToken : String) (certainty : ExecutionCertainty)
    (reason : TerminalReason) (now : Int) : Tx Unit := do
  ensureBoundTurnAllowsDeliverySettlement agentId messageId leaseToken
    (decide (certainty = .outcomeUnknown) && decide (reason = .blocked))
  write fun s => ((), { s with
    invocations := updateWhere (openInvocation agentId messageId leaseToken s.messages)
      (terminalColumns now certainty reason) s.invocations })

/-! ## Expiry recovery -/

/-- Whether a delivery row still carries the expired lease of an invocation. -/
def holdsExpiredLease (i : InvocationRow) (now : Int) (d : AgentDelivery) : Bool :=
  decide (d.key = i.deliveryKey) &&
    match d.state with
    | .leased leaseToken leaseExpiresAtMs =>
      decide (leaseToken = i.leaseToken) && decide (leaseExpiresAtMs ≤ now)
    | _ => false

/-- Ends every expired reservation of an agent as not started. -/
def terminalizeExpiredReservations (agentId : String) (now : Int) : Tx Nat :=
  write fun s =>
    let selected := fun i : InvocationRow => decide (i.agentId = agentId) &&
      decide (i.state = .reserved) && decide (i.leaseExpiresAtMs ≤ now) &&
      s.agentDeliveries.any (holdsExpiredLease i now)
    (s.invocations.countP selected, { s with
      invocations := updateWhere selected
        (terminalColumns now .notStarted .reservationExpiredBeforeDispatch) s.invocations })

/-- The expired armed invocations of an agent, with the attempt of their delivery. -/
def expiredArmedInvocations (agentId : String) (now : Int) (s : Store) :
    List (InvocationRow × Nat) :=
  ((s.invocations.filter fun i =>
      i.agentId = agentId ∧ i.state.isArmed ∧ i.leaseExpiresAtMs ≤ now).insertionSort
    (fun a b => a.reservedAtMs < b.reservedAtMs ∨
      (a.reservedAtMs = b.reservedAtMs ∧ ¬ b.id < a.id))).filterMap fun i =>
    (s.agentDeliveries.find? (holdsExpiredLease i now)).map fun d => (i, d.attempt)

/-- The reason recorded for an invocation whose lease expired after it was armed. -/
def expiredReason (invocationId : String) : String :=
  s!"invocation {invocationId} lease expired after dispatch was armed"

/-- Parks one expired armed invocation: its delivery, its block record and its session. -/
def parkExpiredArmedInvocation (i : InvocationRow) (attempt : Nat) (agentId : String)
    (now : Int) : Tx Unit := do
  let moved ← blockExpiredLease agentId i.messageSeq i.leaseToken (expiredReason i.id) now
  ensure (moved = true) (.conflict "expired invocation delivery changed during recovery")
  let _ ← recordBlock i.messageSeq agentId attempt i.leaseToken (expiredReason i.id) now
  let rows ← write fun s =>
    let selected := fun row : InvocationRow => decide (row.id = i.id) && row.state.isArmed
    (s.invocations.countP selected, { s with
      invocations := updateWhere selected
        (terminalColumns now .outcomeUnknown .leaseExpiredAfterDispatchArmed) s.invocations })
  ensure (rows = 1) (.conflict "expired invocation changed during recovery")
  markExpiredSessionTurnUncertain i.id (expiredReason i.id) now

/-- Parks the expired armed invocations one after the other. -/
def parkAll (agentId : String) (now : Int) : List (InvocationRow × Nat) → Tx Nat
  | [] => pure 0
  | (i, attempt) :: rest => do
    parkExpiredArmedInvocation i attempt agentId now
    let parked ← parkAll agentId now rest
    pure (parked + 1)

/-- Reconciles the expired invocations of one agent inside a caller's transaction. -/
def recoverExpiredInvocationsTransaction (agentId : String) (now : Int) : Tx Nat := do
  let recovered ← terminalizeExpiredReservations agentId now
  let rows ← read (expiredArmedInvocations agentId now)
  let parked ← parkAll agentId now rows
  pure (recovered + parked)

/-- The agents with an expired invocation, as read before the transaction begins. -/
def expiredAgents (now : Int) (s : Store) : List String :=
  ((s.invocations.filter fun i => !i.state.isTerminal && decide (i.leaseExpiresAtMs ≤ now) &&
      s.agentDeliveries.any (holdsExpiredLease i now)).map (·.agentId)).dedup.insertionSort
    (fun a b => ¬ b < a)

/-- Recovers the agents one after the other. -/
def recoverAgents (now : Int) : List String → Tx Nat
  | [] => pure 0
  | agentId :: rest => do
    let recovered ← recoverExpiredInvocationsTransaction agentId now
    let others ← recoverAgents now rest
    pure (recovered + others)

/-- Reconciles every expired managed invocation. The agents are read from the pool before
the transaction, so they come from some earlier state of the database. -/
def recoverAllExpiredInvocations (earlier : Store) (now : Int) : Tx Nat :=
  recoverAgents now (expiredAgents now earlier)

/-! ## Reservation -/

/-- Creates the invocation of one leased delivery. -/
def reserveRow [SerdeJson Json] (row : AgentDelivery × MessageRow)
    (agentId leaseToken : String) (leaseExpiresAtMs reservedAtMs : Int)
    (id fenceToken : String) : Tx (Invocation Json) := do
  let i : InvocationRow := {
    id := id
    messageSeq := row.2.seq
    agentId := agentId
    deliveryAttempt := row.1.attempt
    leaseToken := leaseToken
    leaseExpiresAtMs := leaseExpiresAtMs
    fenceToken := fenceToken
    state := .reserved
    reservedAtMs := reservedAtMs }
  let invocations ← read (·.invocations)
  ensure (0 < i.deliveryAttempt) (.database "CHECK constraint failed: delivery_attempt > 0")
  ensure (∀ j ∈ invocations, j.id ≠ i.id ∧ j.fenceToken ≠ i.fenceToken ∧
      ¬ (j.deliveryKey = i.deliveryKey ∧ j.deliveryAttempt = i.deliveryAttempt))
    (.database "UNIQUE constraint failed: invocations")
  write fun s => ((), { s with invocations := s.invocations ++ [i] })
  check (invocationFromRow [] i row.2)

/-- Creates the invocations of a leased batch. The `n`-th row draws the `n`-th pair of a
fresh identifier and a fresh fence token. -/
def reserveRows [SerdeJson Json] (agentId leaseToken : String)
    (leaseExpiresAtMs reservedAtMs : Int) (mint : Nat → String × String) :
    Nat → List (AgentDelivery × MessageRow) → Tx (List (Invocation Json))
  | _, [] => pure []
  | n, row :: rest => do
    let invocation ← reserveRow row agentId leaseToken leaseExpiresAtMs reservedAtMs
      (mint n).1 (mint n).2
    let invocations ← reserveRows agentId leaseToken leaseExpiresAtMs reservedAtMs mint (n + 1) rest
    pure (invocation :: invocations)

/-- When a lease taken now expires. -/
def leaseExpiry (now : Int) (input : ClaimDeliveries) : Except FleetError Int := do
  let leaseDuration ← tryFromU64 input.leaseDurationMs "lease duration is too large"
  checkedAdd now leaseDuration "lease expiry overflowed"

/-- Leases eligible deliveries and creates their invocation records. -/
def reserveInvocationsFiltered [SerdeJson Json] (agentId : String) (input : ClaimDeliveries)
    (messageKinds : Option (List String)) (now : Int) (leaseToken : String)
    (mint : Nat → String × String) : Tx (List (Invocation Json)) := do
  check (validateClaim input)
  ensureAgent agentId
  let leaseExpiresAtMs ← check (leaseExpiry now input)
  let _ ← recoverExpiredInvocationsTransaction agentId now
  leaseClaimable agentId leaseToken leaseExpiresAtMs now input.limit messageKinds
  let rows ← read (leasedRows agentId leaseToken)
  reserveRows agentId leaseToken leaseExpiresAtMs now mint 0 rows

/-- Atomically leases eligible deliveries and creates their durable invocation records. -/
def reserveInvocations [SerdeJson Json] (agentId : String) (input : ClaimDeliveries) (now : Int)
    (leaseToken : String) (mint : Nat → String × String) : Tx (List (Invocation Json)) :=
  reserveInvocationsFiltered agentId input none now leaseToken mint

/-- Atomically reserves only deliveries whose kind is in an exact acceptance set. -/
def reserveInvocationsByKind [SerdeJson Json] (agentId : String) (input : ClaimDeliveries)
    (messageKinds : List String) (now : Int) (leaseToken : String)
    (mint : Nat → String × String) : Tx (List (Invocation Json)) := do
  ensure (messageKinds ≠ []) (.invalid "invocation message-kind selector must not be empty")
  reserveInvocationsFiltered agentId input (some messageKinds) now leaseToken mint

end Fleetd
