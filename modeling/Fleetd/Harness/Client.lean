import Fleetd.Harness.Protocol

/-!
# The host side of the harness interface

The typed client of a plugin process. It keeps the turn it has started, the last event of that
turn, and the digest of every event it has seen, so that an exact repeat of any of them is let
through and anything else that is out of order is refused. What the process answers to a call is
given beside the call.
-/

namespace Fleetd.Harness

open Serde (Value)

/-- The turn that a client is waiting for. -/
structure ActiveTurn where
  fence : ExecutionFence
  lastEventSeq : Nat
  seen : List (Nat × String)
  deriving DecidableEq, Repr

structure HarnessAcpClient where
  activeTurn : Option ActiveTurn
  deriving DecidableEq, Repr

/-- What a driver promises to enforce. -/
structure EffectiveEnforcement where
  wallTimeout : String
  idleTimeout : String
  cancelDrainTimeout : String
  capturedOutputBytes : String
  toolBudget : String
  tokenBudget : String
  deriving DecidableEq, Repr

structure StartTurnResult where
  accepted : Bool
  effectiveEnforcement : EffectiveEnforcement
  deriving DecidableEq, Repr

/-! ## Checks -/

def validateId (kind value : String) : Except PluginError Unit :=
  if isBlank value = true ∨ maxFleetIdBytes < byteLen value then
    .error (.protocol s!"{kind} must contain between 1 and {maxFleetIdBytes} bytes")
  else .ok ()

def validatePositive (kind : String) (value : Nat) : Except PluginError Unit :=
  if value = 0 then .error (.protocol s!"{kind} must be greater than zero") else .ok ()

def validateSessionRef (sessionRef : String) : Except PluginError Unit :=
  if sessionRef = "" ∨ maxSessionRefBytes < byteLen sessionRef then
    .error (.protocol s!"session_ref must contain between 1 and {maxSessionRefBytes} bytes")
  else .ok ()

def validateFence (fence : ExecutionFence) : Except PluginError Unit := do
  validateId "binding_id" fence.bindingId
  validatePositive "binding_generation" fence.bindingGeneration
  validatePositive "owner_epoch" fence.ownerEpoch
  validateId "invocation_id" fence.invocationId
  validateId "fence_token" fence.fenceToken

/-- An identifier that may be missing. -/
def validateOptionalId (kind : String) : Option String → Except PluginError Unit
  | some value => validateId kind value
  | none => .ok ()

def validateTurnSource (source : TurnSource) : Except PluginError Unit := do
  validateId "source agent_id" source.agentId
  validateId "source message_id" source.messageId
  validateId "source channel_id" source.channelId
  validateId "source sender_id" source.senderId
  validateOptionalId "source correlation_id" source.correlationId
  validateOptionalId "source causation_id" source.causationId

/-- The bounds and the enforcement a turn may ask for. -/
def validatePolicy (policy : TurnPolicy) : Except PluginError Unit :=
  if policy.idleTimeoutMs = 0 ∨ policy.wallTimeoutMs = 0 ∨ policy.cancelDrainTimeoutMs = 0 ∨
      policy.maxCapturedOutputBytes = 0 ∨ maxCaptureBytes < policy.maxCapturedOutputBytes then
    .error (.protocol "turn policy bounds are invalid")
  else if policy.permissionPolicy ≠ "controller" ∨
      policy.toolBudget.requiredEnforcement ≠ "observe_then_cancel" ∨ policy.tokenBudget ≠ none then
    .error (.protocol "turn requests unsupported enforcement")
  else .ok ()

def validateEffectiveEnforcement (enforcement : EffectiveEnforcement) : Except PluginError Unit :=
  if enforcement.wallTimeout ≠ "hard" ∨ enforcement.idleTimeout ≠ "hard" ∨
      enforcement.cancelDrainTimeout ≠ "hard" ∨ enforcement.capturedOutputBytes ≠ "hard" ∨
      enforcement.toolBudget ≠ "observe_then_cancel" ∨ enforcement.tokenBudget ≠ "unavailable" then
    .error (.protocol "driver did not provide the required effective enforcement")
  else .ok ()

/-! ## Calls -/

namespace HarnessAcpClient

/-- Starts a turn, with what the process answers. -/
def startTurn (client : HarnessAcpClient) (request : StartTurn)
    (answer : Except PluginError StartTurnResult) : Except PluginError HarnessAcpClient :=
  if client.activeTurn.isSome then .error (.protocol "a harness turn is already active")
  else do
    validateFence request.fence
    validateSessionRef request.sessionRef
    validateTurnSource request.source
    if request.prompt = [] then .error (.protocol "turn prompt must contain at least one block")
    else do
      validatePolicy request.policy
      let result ← answer
      if result.accepted = false then
        .error (.protocol "driver returned an unaccepted turn as success")
      else do
        validateEffectiveEnforcement result.effectiveEnforcement
        .ok { activeTurn := some { fence := request.fence, lastEventSeq := 0, seen := [] } }

/-- The turn that a fence belongs to. -/
def validateActiveFence (client : HarnessAcpClient) (fence : ExecutionFence) :
    Except PluginError ActiveTurn := do
  validateFence fence
  match client.activeTurn with
  | none => .error (.protocol "no harness turn is active")
  | some active =>
    if active.fence = fence then .ok active
    else .error (.protocol "notification or request fence does not match active turn")

/-- Resolves a permission request, with whether the process accepted it. -/
def resolvePermission (client : HarnessAcpClient) (request : PermissionResolution)
    (answer : Except PluginError Bool) : Except PluginError Unit := do
  let _ ← client.validateActiveFence request.fence
  validateId "permission_id" request.permissionId
  let accepted ← answer
  if accepted = false then .error (.protocol "driver rejected permission resolution") else .ok ()

/-- Requests cancellation of the active turn, with whether the process accepted it. -/
def cancelTurn (client : HarnessAcpClient) (reason : String) (answer : Except PluginError Bool) :
    Except PluginError Unit :=
  match client.activeTurn with
  | none => .error (.protocol "no harness turn is active")
  | some _ => do
    validateId "cancellation reason" reason
    let accepted ← answer
    if accepted = false then .error (.protocol "driver rejected turn cancellation") else .ok ()

/-- Admits one event: a new one in sequence, or an exact repeat of one that was seen. -/
def admitEvent [Sha256] (client : HarnessAcpClient) (fence : ExecutionFence) (eventSeq : Nat)
    (raw : Value) : Except PluginError HarnessAcpClient := do
  let active ← client.validateActiveFence fence
  validatePositive "event_seq" eventSeq
  let digest := Sha256.hexDigest (utf8Bytes raw.print)
  match active.seen.lookup eventSeq with
  | some previous =>
    if previous = digest then .ok client
    else .error (.protocol "event sequence was reused with different content")
  | none =>
    if u64Max < active.lastEventSeq + 1 then .error (.protocol "event sequence overflowed")
    else if eventSeq ≠ active.lastEventSeq + 1 then
      .error (.protocol
        s!"event sequence is not contiguous: expected {active.lastEventSeq + 1}, received {eventSeq}")
    else .ok { activeTurn := some { active with
      lastEventSeq := eventSeq
      seen := (eventSeq, digest) :: active.seen } }

/-- Whether a message names events that a terminal frame does not cover. -/
def invalidEventBounds (terminal : TurnTerminal) (message : AssistantMessage) : Bool :=
  decide (message.firstEventSeq = 0) || decide (message.lastEventSeq < message.firstEventSeq) ||
    decide (terminal.lastEventSeq < message.lastEventSeq)

/-- The checks of a terminal frame against the events that were admitted. -/
def validateTerminal (client : HarnessAcpClient) (terminal : TurnTerminal) :
    Except PluginError Unit := do
  let active ← client.validateActiveFence terminal.fence
  if terminal.lastEventSeq ≠ active.lastEventSeq then
    .error (.protocol
      s!"terminal event sequence does not match admitted evidence: expected {active.lastEventSeq}, received {terminal.lastEventSeq}")
  else do
    validateId "terminal stop reason" terminal.stopReason
    if terminal.executionCertainty = .notStarted then
      .error (.protocol "an accepted turn cannot terminate with not-started certainty")
    else if terminal.sessionQuiescent = true ∧ terminal.executionCertainty = .outcomeUnknown then
      .error (.protocol "outcome-unknown terminal evidence cannot claim a quiescent session")
    else if terminal.assistantMessages.any (invalidEventBounds terminal) = true then
      .error (.protocol "assistant message references invalid turn event bounds")
    else .ok ()

/-- Checks the next notification of the process, once it has been decoded. -/
def nextNotification [Sha256] (client : HarnessAcpClient) (notification : Notification) :
    Except PluginError HarnessAcpClient :=
  match notification with
  | .turnEvent event => do
    validateId "event classification" event.classification
    client.admitEvent event.fence event.eventSeq event.toValue
  | .permissionRequested request => do
    validateId "permission_id" request.permissionId
    client.admitEvent request.fence request.eventSeq request.toValue
  | .transcriptEntry entry => do
    validateId "entry classification" entry.classification
    .ok client
  | .transcriptComplete _ => .ok client
  | .turnTerminal terminal => do
    client.validateTerminal terminal
    .ok { activeTurn := none }

end HarnessAcpClient

end Fleetd.Harness
