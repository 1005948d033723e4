import Fleetd.Harness.Protocol
import Fleetd.Effects.Script

/-!
# Managed turns

The controller arms a reserved invocation, activates the grants of its turn, starts the turn and
drains its evidence up to a terminal frame; it then revokes the grants and settles. What the
harness, the grants and the store answer to each call is given beside the turn, so that a run is
a function of both. A run leaves the list of its effects: a call of the store or of a grant counts
as an effect when it succeeded, a request to the harness when it was made.

The wait for evidence is raced against an interruption and a deadline. An answer that is missing
stands for a wait that the stop came before; notifications after it are never looked at.
-/

namespace Fleetd

open Serde (Value)
open Effects Harness

/-! ## The turn -/

/-- Permission authority granted to one worker. -/
inductive PermissionPolicy
  | deny
  | allowOnce
  deriving DecidableEq, Repr

def PermissionPolicy.asStr : PermissionPolicy → String
  | .deny => "deny"
  | .allowOnce => "allow_once"

/-- How a turn exposes its output. -/
inductive TurnResultCapture
  | transcript
  | finalAssistantJson
  deriving DecidableEq, Repr

/-- A reason outside the harness that stops an active turn. -/
inductive ManagedTurnInterruption
  | workerShutdown
  | newerMessage (messageId : String)
  deriving DecidableEq, Repr

/-- One reserved attempt that is ready to be dispatched. Grants are counted, and named by their
position. -/
structure ManagedTurn where
  invocation : Invocation Value
  generationId : String
  binding : Binding
  sessionRef : String
  prompt : List PromptBlock
  policy : TurnPolicy
  grants : Nat
  resultKind : String
  resultCapture : TurnResultCapture
  resultContext : Value
  permissionPolicy : PermissionPolicy
  interruptible : Bool
  deriving DecidableEq, Repr

/-- How a turn was durably settled. -/
inductive ManagedTurnOutcome
  | completed (completion : InvocationCompletion Value)
  | interrupted (completion : InvocationCompletion Value) (interruption : ManagedTurnInterruption)
  | blocked (delivery : BlockedDelivery Value)
  deriving DecidableEq, Repr

/-- Why a turn was not driven or not settled. -/
inductive ManagedTurnError
  | invalid (message : String)
  | fleet (error : FleetError)
  | harnessBeforeArm (error : PluginError)
  deriving DecidableEq, Repr

/-- The text of a store error. -/
def FleetError.display : FleetError → String
  | .notFound entity id => entity ++ " not found: " ++ id
  | .notMember agentId channelId => "agent " ++ agentId ++ " is not a member of channel " ++ channelId
  | .invalid message => "invalid input: " ++ message
  | .forbidden message => "forbidden: " ++ message
  | .conflict message => "conflict: " ++ message
  | .leaseConflict message => "lease conflict: " ++ message
  | .database message => "database error: " ++ message
  | .serialization message => "serialization error: " ++ message

def ManagedTurnError.display : ManagedTurnError → String
  | .invalid message => "managed turn input is invalid: " ++ message
  | .fleet error => "managed turn persistence failed: " ++ error.display
  | .harnessBeforeArm error => "managed harness failed before dispatch was armed: " ++ error.display

/-- The checks of a turn before anything is called. -/
def validateTurn (turn : ManagedTurn) : Except ManagedTurnError Unit :=
  if turn.invocation.state ≠ .reserved then
    .error (.invalid "invocation must be reserved before managed dispatch")
  else if isBlank turn.generationId = true then
    .error (.invalid "plugin generation ID must not be empty")
  else if turn.invocation.agentId = turn.invocation.message.senderId then
    .error (.invalid "managed invocation cannot answer its own source message")
  else if isBlank turn.resultKind = true ∨ turn.prompt = [] then
    .error (.invalid "result kind and prompt must not be empty")
  else .ok ()

/-- The request that starts a turn. -/
def startTurnRequest (turn : ManagedTurn) : StartTurn where
  fence := {
    bindingId := turn.binding.bindingId
    bindingGeneration := turn.binding.bindingGeneration
    ownerEpoch := turn.binding.ownerEpoch
    invocationId := turn.invocation.id
    fenceToken := turn.invocation.fenceToken }
  sessionRef := turn.sessionRef
  source := {
    agentId := turn.invocation.agentId
    messageId := turn.invocation.message.id
    channelId := turn.invocation.message.channelId
    senderId := turn.invocation.message.senderId
    correlationId := turn.invocation.message.correlationId
    causationId := turn.invocation.message.causationId }
  prompt := turn.prompt
  policy := turn.policy

/-! ## Permission requests -/

/-- One decision with the explanation that is folded into the evidence. -/
structure PermissionDecision where
  outcome : PermissionOutcome
  evidence : Value
  deriving DecidableEq, Repr

def PermissionDecision.cancelled (policy : PermissionPolicy) (reason : String) :
    PermissionDecision where
  outcome := .cancelled
  evidence := .object [
    ("policy", .string policy.asStr),
    ("decision", .string "cancelled"),
    ("reason", .string reason)]

/-- The identifier of an option that allows once. -/
def allowOnceOption (option : Value) : Option String :=
  if option.getStr "kind" = some "allow_once" then
    (option.getStr "optionId").filter fun optionId => !isBlank optionId
  else none

/-- Resolves a request without looking at what the model says of its tool. -/
def decidePermission (policy : PermissionPolicy) (request : PermissionRequested) :
    PermissionDecision :=
  if policy = .deny then .cancelled policy "policy_denied"
  else
    match request.options.filterMap allowOnceOption with
    | [] => .cancelled policy "allow_once_option_missing"
    | [optionId] => {
        outcome := .selected optionId
        evidence := .object [
          ("policy", .string policy.asStr),
          ("decision", .string "selected"),
          ("option_kind", .string "allow_once"),
          ("option_id", .string optionId)] }
    | _ => .cancelled policy "allow_once_option_ambiguous"

/-! ## Stops -/

/-- Why the host stopped a turn. -/
inductive HostStopReason
  | wallDeadline
  | workerShutdown
  | newerMessage (messageId : String)
  deriving DecidableEq, Repr

def HostStopReason.asStr : HostStopReason → String
  | .wallDeadline => "host_wall_deadline"
  | .workerShutdown => "host_worker_shutdown"
  | .newerMessage _ => "host_newer_message"

def HostStopReason.cancelReason : HostStopReason → String
  | .wallDeadline => "wall_deadline"
  | .workerShutdown => "worker_shutdown"
  | .newerMessage _ => "newer_message"

def HostStopReason.isInterruption : HostStopReason → Bool
  | .wallDeadline => false
  | _ => true

def HostStopReason.interruption : HostStopReason → Option ManagedTurnInterruption
  | .workerShutdown => some .workerShutdown
  | .newerMessage messageId => some (.newerMessage messageId)
  | .wallDeadline => none

def HostStopReason.from : ManagedTurnInterruption → HostStopReason
  | .workerShutdown => .workerShutdown
  | .newerMessage messageId => .newerMessage messageId

/-- A terminal frame with the reason for which the host had stopped the turn. -/
structure TerminalWithStop where
  terminal : Harness.TurnTerminal
  hostStopReason : Option HostStopReason
  deriving DecidableEq, Repr

/-- How the wait for a terminal frame ended. -/
inductive TerminalDrain
  | terminal (evidence : TerminalWithStop)
  | blocked (delivery : BlockedDelivery Value)
  deriving DecidableEq, Repr

/-! ## The result of a turn -/

/-- Whether messages name events of the turn, in order and without overlap. -/
def validEventBounds : Nat → List AssistantMessage → Bool
  | _, [] => true
  | previousLast, message :: rest =>
    if message.firstEventSeq = 0 ∨ message.lastEventSeq < message.firstEventSeq ∨
        message.firstEventSeq ≤ previousLast then false
    else validEventBounds message.lastEventSeq rest

/-- The final message of the assistant and how it was found. -/
def selectFinalAssistantMessage (messages : List AssistantMessage) :
    Except String (AssistantMessage × String) :=
  match messages.getLast? with
  | none => .error "no_assistant_message"
  | some finalMessage =>
    if validEventBounds 0 messages = false then .error "invalid_message_event_bounds"
    else if messages.length = 1 then .ok (finalMessage, "only_assistant_message")
    else if none ∈ messages.map (·.messageId) ∨ ¬ (messages.map (·.messageId)).Nodup then
      .error "ambiguous_message_boundary"
    else .ok (finalMessage, "last_identified_assistant_message")

/-- A structured result that is not there. -/
def structuredUnavailable (reason : String) : Value :=
  .object [("status", .string "unavailable"), ("reason", .string reason)]

/-- The text of one block of a message, if it is a text. -/
def textFragment (block : Value) : Option String :=
  if block.getStr "type" = some "text" then block.getStr "text" else none

/-- Parses the final message of the assistant. -/
def captureFinalAssistantJson (messages : List AssistantMessage) : Value :=
  match selectFinalAssistantMessage messages with
  | .error reason => structuredUnavailable reason
  | .ok (message, selection) =>
    if message.complete = false then structuredUnavailable "incomplete_final_message"
    else
      match message.content.mapM textFragment with
      | none => structuredUnavailable "unsupported_final_content"
      | some fragments =>
        let text := String.join fragments
        if isBlank text = true then structuredUnavailable "empty_final_message"
        else
          match Serde.parse text with
          | none => structuredUnavailable "malformed_final_json"
          | some value => .object [
              ("status", .string "captured"),
              ("source", .object [
                ("selection", .string selection),
                ("message_id", .optional message.messageId),
                ("first_event_seq", .nat message.firstEventSeq),
                ("last_event_seq", .nat message.lastEventSeq)]),
              ("value", value)]

/-- The payload of the result message of a settled turn. -/
def terminalPayload (invocationId : String) (resultCapture : TurnResultCapture)
    (resultContext : Value) (terminal : Harness.TurnTerminal)
    (hostStopReason : Option HostStopReason) : Value :=
  let transcriptComplete := terminal.assistantMessages.all (·.complete)
  let effectiveStopReason := (hostStopReason.map HostStopReason.asStr).getD terminal.stopReason
  let runtimeStopReason :=
    if hostStopReason.isSome then terminal.runtimeStopReason <|> some terminal.stopReason
    else terminal.runtimeStopReason
  let terminalSuccess := !hostStopReason.isSome && runtimeStopReason.isNone &&
    decide (terminal.stopReason = "end_turn") && transcriptComplete
  let resultStatus :=
    if hostStopReason.any HostStopReason.isInterruption then "interrupted"
    else if terminalSuccess then "completed"
    else "failed"
  let messages := Value.array (terminal.assistantMessages.map AssistantMessage.toValue)
  let persistence := Value.string (persistenceStr terminal.sessionPersistence)
  let payload : List (String × Value) :=
    match resultCapture with
    | .transcript => [
        ("status", .string resultStatus),
        ("invocation_id", .string invocationId),
        ("stop_reason", .string effectiveStopReason),
        ("output_complete", .bool transcriptComplete),
        ("assistant_messages", messages),
        ("usage", terminal.usage),
        ("session_persistence", persistence),
        ("result_context", resultContext)]
    | .finalAssistantJson =>
      let structuredResult := captureFinalAssistantJson terminal.assistantMessages
      let structuredCaptured := decide (structuredResult.getStr "status" = some "captured")
      [ ("status", .string (
          if resultStatus = "interrupted" then "interrupted"
          else if terminalSuccess && structuredCaptured then "completed"
          else "failed")),
        ("invocation_id", .string invocationId),
        ("stop_reason", .string effectiveStopReason),
        ("transcript_complete", .bool transcriptComplete),
        ("assistant_messages", messages),
        ("structured_result", structuredResult),
        ("usage", terminal.usage),
        ("session_persistence", persistence),
        ("result_context", resultContext)]
  let interruptedBy : List (String × Value) :=
    match hostStopReason with
    | some (.newerMessage messageId) => [("interrupted_by_message_id", .string messageId)]
    | _ => []
  .object (payload ++ optionalMember "runtime_stop_reason" runtimeStopReason ++ interruptedBy)

/-! ## Effects and answers -/

/-- One event as it is recorded. -/
structure EventRecord where
  eventSeq : Nat
  observedAtMs : Int
  classification : String
  raw : Value
  deriving DecidableEq, Repr

/-- How a trajectory is closed. -/
inductive TrajectoryClose
  | terminal (terminal : Harness.TurnTerminal)
  | parked (reason : String)
  deriving DecidableEq, Repr

/-- What a run does to its environment. -/
inductive TurnEffect
  | armed
  | trajectoryOpened
  | activated (grant : Nat)
  | startRequested (request : StartTurn)
  | eventRecorded (record : EventRecord)
  | trajectoryObserved (record : EventRecord)
  | permissionResolved (resolution : PermissionResolution)
  | terminalRecorded (terminal : Harness.TurnTerminal)
  | cancelRequested (reason : String)
  | deactivated (grant : Nat)
  | markedUncertain (reason : String)
  | deliveryBlocked (reason : String)
  | completed (kind : String) (payload : Value)
  | trajectoryClosed (close : TrajectoryClose)
  deriving DecidableEq, Repr

/-- What comes of one wait of a drain: the notification that arrives, the clock reading for it,
and what the store and the harness answer. -/
structure Arrival where
  notification : Except PluginError Notification
  now : Int
  recorded : Option (Except FleetError Unit)
  resolved : Option (Except PluginError Unit)
  deriving DecidableEq, Repr

/-- What everything outside the controller answers in one run. -/
structure TurnAnswers where
  describe : Except PluginError Unit
  arm : Except FleetError Unit
  activate : Nat → Except String Unit
  start : Except PluginError Unit
  arrivals : List Arrival
  interruption : Option ManagedTurnInterruption
  cancel : Except PluginError Unit
  cancelArrivals : List Arrival
  markUncertain : Except FleetError Unit
  block : Except FleetError (BlockedDelivery Value)
  complete : Except FleetError (InvocationCompletion Value)

/-- Why a drain failed. -/
inductive TurnDrainError
  | unexpectedNotification (what : String)
  | plugin (error : PluginError)
  | evidence (error : FleetError)
  deriving DecidableEq, Repr

def TurnDrainError.display : TurnDrainError → String
  | .unexpectedNotification what => "harness sent " ++ what ++ " while a turn was draining"
  | .plugin error => "harness protocol failed: " ++ error.display
  | .evidence error => "durable invocation evidence failed: " ++ error.display

/-! ## The drain -/

/-- What the controller offers to a sink, if there is one. -/
def offer {δ : Type} (sink : Bool) (effect : TurnEffect) : Script TurnEffect δ Unit :=
  Script.emitAll (if sink then [effect] else [])

/-- The record of a turn event. -/
def eventRecord (event : TurnEvent) : EventRecord where
  eventSeq := event.eventSeq
  observedAtMs := event.observedAtMs
  classification := event.classification
  raw := event.rawUpdate

/-- The record of a permission request, with the clock reading of the controller. -/
def permissionRecord (request : PermissionRequested) (decision : PermissionDecision) (now : Int) :
    EventRecord where
  eventSeq := request.eventSeq
  observedAtMs := now
  classification := "permission_request"
  raw := request.toValue.insert "controller_resolution" decision.evidence

/-- Drains the evidence of a turn. Nothing is returned when the arrivals end, or a wait is given
up, before a terminal frame was recorded. -/
def drainTurn (sink : Bool) (policy : PermissionPolicy) (fence : ExecutionFence) :
    List Arrival → Script TurnEffect TurnDrainError (Option Harness.TurnTerminal)
  | [] => pure none
  | arrival :: rest =>
    match arrival.notification with
    | .error error => .fail (.plugin error)
    | .ok (.turnEvent event) =>
      match arrival.recorded with
      | none => pure none
      | some (.error error) => .fail (.evidence error)
      | some (.ok ()) => do
        .emit (.eventRecorded (eventRecord event))
        offer sink (.trajectoryObserved (eventRecord event))
        drainTurn sink policy fence rest
    | .ok (.permissionRequested request) =>
      let decision := decidePermission policy request
      let record := permissionRecord request decision arrival.now
      match arrival.recorded with
      | none => pure none
      | some (.error error) => .fail (.evidence error)
      | some (.ok ()) => do
        .emit (.eventRecorded record)
        offer sink (.trajectoryObserved record)
        .emit (.permissionResolved ⟨fence, request.permissionId, decision.outcome⟩)
        match arrival.resolved with
        | none => pure none
        | some (.error error) => .fail (.plugin error)
        | some (.ok ()) => drainTurn sink policy fence rest
    | .ok (.transcriptEntry _) => .fail (.unexpectedNotification "a transcript entry")
    | .ok (.transcriptComplete _) => .fail (.unexpectedNotification "a transcript completion")
    | .ok (.turnTerminal terminal) =>
      match arrival.recorded with
      | none => pure none
      | some (.error error) => .fail (.evidence error)
      | some (.ok ()) => do
        .emit (.terminalRecorded terminal)
        pure (some terminal)

/-! ## The run -/

section
variable (sink : Bool) (turn : ManagedTurn) (answers : TurnAnswers)

/-- A failure reason that fits its column. -/
def boundedReason (reason : String) : String := truncateUtf8 4096 reason

/-- Fences the invocation as uncertain and blocks its delivery. -/
def block (reason : String) : Script TurnEffect ManagedTurnError (BlockedDelivery Value) := do
  let reason := boundedReason reason
  .lift (answers.markUncertain.mapError .fleet)
  .emit (.markedUncertain reason)
  let blocked ← .lift (answers.block.mapError .fleet)
  .emit (.deliveryBlocked reason)
  offer sink (.trajectoryClosed (.parked reason))
  pure blocked

def blockAfterArm (reason : String) : Script TurnEffect ManagedTurnError ManagedTurnOutcome := do
  let blocked ← block sink answers reason
  pure (.blocked blocked)

def blockedDrain (reason : String) : Script TurnEffect ManagedTurnError TerminalDrain := do
  let blocked ← block sink answers reason
  pure (.blocked blocked)

/-- Revokes some grants, the last one first. -/
def revokeGrants (count : Nat) : Script TurnEffect ManagedTurnError Unit :=
  .emitAll ((List.range count).reverse.map .deactivated)

/-- Activates the grants from one position on, and says which one failed. -/
def activateFrom (grant : Nat) : Nat → Script TurnEffect ManagedTurnError (Option (Nat × String))
  | 0 => pure none
  | count + 1 =>
    match answers.activate grant with
    | .error error => pure (some (grant, error))
    | .ok () => do
      .emit (.activated grant)
      activateFrom (grant + 1) count

/-- Closes an open trajectory when a step after arming fails outright. -/
def closingOnError {α : Type} (result : Except ManagedTurnError α) :
    Script TurnEffect ManagedTurnError α :=
  match result with
  | .ok value => pure value
  | .error error => do
    offer sink (.trajectoryClosed (.parked ("managed turn failed after arming: " ++ error.display)))
    .fail error

/-- Cancels a stopped turn and drains what it still sends. -/
def cancelAndDrain (hostStopReason : HostStopReason) :
    Script TurnEffect ManagedTurnError TerminalDrain := do
  .emit (.cancelRequested hostStopReason.cancelReason)
  match answers.cancel with
  | .error error =>
    blockedDrain sink answers
      ("host " ++ hostStopReason.cancelReason ++ " cancellation failed: " ++ error.display)
  | .ok () =>
    let drained ← (drainTurn sink turn.permissionPolicy (startTurnRequest turn).fence
      answers.cancelArrivals).attempt
    match drained with
    | .ok (some terminal) => pure (.terminal ⟨terminal, some hostStopReason⟩)
    | .error error => blockedDrain sink answers ("cancel drain failed: " ++ error.display)
    | .ok none => blockedDrain sink answers "cancel drain deadline exceeded"

/-- The stop that ends the wait for evidence: an interruption, where the turn has one, or else
the wall deadline. -/
def hostStop : HostStopReason :=
  match turn.interruptible, answers.interruption with
  | true, some interruption => .from interruption
  | _, _ => .wallDeadline

/-- Waits for the terminal frame of a turn. -/
def awaitTerminal : Script TurnEffect ManagedTurnError TerminalDrain := do
  let initial ← (drainTurn sink turn.permissionPolicy (startTurnRequest turn).fence
    answers.arrivals).attempt
  match initial with
  | .ok (some terminal) => pure (.terminal ⟨terminal, none⟩)
  | .error error => blockedDrain sink answers ("turn evidence failed: " ++ error.display)
  | .ok none => cancelAndDrain sink turn answers (hostStop turn answers)

/-- The spelling of a certainty in a diagnostic. -/
def certaintyDebug : ExecutionCertainty → String
  | .notStarted => "NotStarted"
  | .outcomeKnown => "OutcomeKnown"
  | .outcomeUnknown => "OutcomeUnknown"

/-- Settles a turn that has ended. -/
def settleTerminal (evidence : TerminalWithStop) :
    Script TurnEffect ManagedTurnError ManagedTurnOutcome := do
  let terminal := evidence.terminal
  if terminal.executionCertainty = .outcomeUnknown ∨ terminal.sessionQuiescent = false then
    let blocked ← block sink answers ("terminal outcome is not safely settleable: certainty=" ++
      certaintyDebug terminal.executionCertainty ++ ", quiescent=" ++
      toString terminal.sessionQuiescent)
    pure (.blocked blocked)
  else
    let payload := terminalPayload turn.invocation.id turn.resultCapture turn.resultContext terminal
      evidence.hostStopReason
    let completion ← .lift (answers.complete.mapError .fleet)
    .emit (.completed turn.resultKind payload)
    offer sink (.trajectoryClosed (.terminal terminal))
    match evidence.hostStopReason.bind HostStopReason.interruption with
    | some interruption => pure (.interrupted completion interruption)
    | none => pure (.completed completion)

/-- Waits for the end of a started turn, revokes its grants and settles it. -/
def finishTurn : Script TurnEffect ManagedTurnError ManagedTurnOutcome := do
  let terminalResult ← (awaitTerminal sink turn answers).attempt
  revokeGrants turn.grants
  let drained ← closingOnError sink terminalResult
  match drained with
  | .blocked blocked => pure (.blocked blocked)
  | .terminal evidence =>
    let settled ← (settleTerminal sink turn answers evidence).attempt
    closingOnError sink settled

/-- Arms, dispatches, drains and settles one reserved invocation. -/
def runTurn : Script TurnEffect ManagedTurnError ManagedTurnOutcome := do
  .lift (validateTurn turn)
  .lift (answers.describe.mapError .harnessBeforeArm)
  .lift (answers.arm.mapError .fleet)
  .emit .armed
  offer sink .trajectoryOpened
  let failed ← activateFrom answers 0 turn.grants
  match failed with
  | some (activated, error) =>
    revokeGrants activated
    blockAfterArm sink answers ("invocation grant activation failed: " ++ error)
  | none =>
    .emit (.startRequested (startTurnRequest turn))
    match answers.start with
    | .error error =>
      revokeGrants turn.grants
      blockAfterArm sink answers ("turn start failed: " ++ error.display)
    | .ok () => finishTurn sink turn answers

end

end Fleetd
