import Fleetd.AcpHost.Update

/-!
# Turns and permissions

The lock-protected parts of starting, cancelling and ending a turn, and of asking for, resolving
and withdrawing a permission. The monitor of a turn waits for the answer to the prompt, for its
deadlines and for a cancellation, and hands what it decided to `emitTerminal`.
-/

namespace Fleetd.AcpHost

open Serde (Value)
open Harness

/-- Whether a binding is the one that a fence names. -/
def Binding.owns (binding : Binding) (fence : ExecutionFence) : Bool :=
  decide (binding.bindingId = fence.bindingId) &&
    decide (binding.bindingGeneration = fence.bindingGeneration) &&
    decide (binding.ownerEpoch = fence.ownerEpoch)

/-! ## Starting -/

/-- What a driver promises for every turn. -/
def effectiveEnforcement : EffectiveEnforcement where
  wallTimeout := "hard"
  idleTimeout := "hard"
  cancelDrainTimeout := "hard"
  capturedOutputBytes := "hard"
  toolBudget := "observe_then_cancel"
  tokenBudget := "unavailable"

/-- The record of a turn that has just started. -/
def ActiveTurn.start (request : StartTurn) (watch : Nat) : ActiveTurn where
  fence := request.fence
  nextEventSeq := 1
  policy := request.policy
  capturedBytes := 0
  assistantMessages := []
  toolCalls := 0
  usage := .null
  watch

/-- Starts a turn whose monitor has the given number. -/
def startTurn (request : StartTurn) (watch : Nat) (shared : SharedState) :
    Except DriverError (StartTurnResult × SharedState) :=
  if request.policy.maxCapturedOutputBytes = 0 ∨
      request.policy.maxCapturedOutputBytes > maxCaptureBytes then
    .error (.protocol s!"max_captured_output_bytes must be between 1 and {maxCaptureBytes}")
  else if request.policy.permissionPolicy ≠ "controller" ∨
      request.policy.toolBudget.requiredEnforcement ≠ "observe_then_cancel" ∨
      request.policy.tokenBudget ≠ none then
    .error (.protocol "requested turn enforcement is not supported")
  else
    match shared.sessions.lookup request.sessionRef with
    | none => .error (.protocol "turn references an unopened session")
    | some session =>
      if session.active.isSome = true then
        .error (.protocol "session already has an active turn")
      else if Binding.owns session.binding request.fence = false then
        .error (.protocol "turn fence does not match session binding")
      else
        .ok (⟨true, effectiveEnforcement⟩, { shared with
          sessions := shared.sessions.insert request.sessionRef
            { session with active := some (.start request watch) } })

/-! ## Ending -/

/-- How a prompt ended. -/
inductive PromptOutcome
  | known (response : Value) (hostStopReason : Option String)
  | unknown (evidence : Value)
  deriving DecidableEq, Repr

/-- How a pending request of the connection ends: with a response, with an error of the runtime, or
with a failure of the task that waits for it. -/
inductive PromptAnswer
  | response (response : Value)
  | error (message : String)
  | joinError (message : String)
  deriving DecidableEq, Repr

/-- The outcome of a prompt that was answered before anything else happened. -/
def PromptAnswer.outcome : PromptAnswer → PromptOutcome
  | .response value => .known value none
  | .error message => .unknown (.object [("error", .string message)])
  | .joinError message => .unknown (.object [("join_error", .string message)])

/-- The outcome of a prompt that was cancelled; without an answer the drain ran into its deadline. -/
def drainedOutcome (reason : String) : Option PromptAnswer → PromptOutcome
  | some (.response value) => .known value (some reason)
  | some (.error message) =>
    .unknown (.object [("cancel_reason", .string reason), ("error", .string message)])
  | some (.joinError message) =>
    .unknown (.object [("cancel_reason", .string reason), ("join_error", .string message)])
  | none => .unknown (.object
      [("cancel_reason", .string reason), ("error", .string "cancel drain deadline exceeded")])

/-- The reason that a runtime gives for the end of a prompt. -/
def runtimeStop (response : Value) : String := (response.getStr "stopReason").getD "unknown"

/-- The last frame of a turn. -/
def terminalOf [Sha256] (active : ActiveTurn) (outcome : PromptOutcome) :
    Harness.TurnTerminal :=
  let (rawResponse, certainty, quiescent, stopReason, runtimeStopReason) :=
    match outcome with
    | .known response (some hostStop) =>
      (response, ExecutionCertainty.outcomeKnown, true, hostStop, some (runtimeStop response))
    | .known response none =>
      (response, ExecutionCertainty.outcomeKnown, true, runtimeStop response, none)
    | .unknown evidence =>
      (evidence, ExecutionCertainty.outcomeUnknown, false, "outcome_unknown", none)
  { fence := active.fence
    lastEventSeq := active.nextEventSeq - 1
    stopReason
    runtimeStopReason
    executionCertainty := certainty
    sessionQuiescent := quiescent
    sessionPersistence := if quiescent = true then .runtimeClaimed else .unknown
    assistantMessages := active.assistantMessages
    usage := active.usage
    rawPromptResponse := boundJson rawResponse (maxFrameBytes / 2) }

/-- The requests that wait for an answer under a fence. -/
def permissionsOf (fence : ExecutionFence) (shared : SharedState) : List String :=
  (shared.permissions.entries.filter fun entry => decide (entry.2.fence = fence)).map (·.1)

/-- A terminal frame on its way: the turn it was taken from, and the permissions to withdraw before
it is sent. -/
structure TakenTurn where
  watch : Nat
  terminal : Harness.TurnTerminal
  permissionIds : List String
  deriving DecidableEq, Repr

/-- The part of `emit_terminal` that takes the active turn under the lock. -/
def emitTerminal [Sha256] (sessionRef : String) (outcome : PromptOutcome) (shared : SharedState) :
    Except DriverError (TakenTurn × SharedState) :=
  match shared.sessions.lookup sessionRef with
  | none => .error (.protocol "terminal turn session disappeared")
  | some session =>
    match session.active with
    | none => .error (.protocol "terminal turn was not active")
    | some active =>
      .ok (⟨active.watch, terminalOf active outcome, permissionsOf active.fence shared⟩,
        { shared with
          sessions := shared.sessions.insert sessionRef { session with active := none } })

/-! ## Cancelling -/

structure CancelTurn where
  fence : ExecutionFence
  reason : String
  deriving DecidableEq, Repr

/-- Whether the active turn of a session has a fence. -/
def SessionState.hasFence (fence : ExecutionFence) (session : SessionState) : Bool :=
  match session.active with
  | some active => decide (active.fence = fence)
  | none => false

/-- The session whose active turn has a fence. -/
def sessionOfFence (fence : ExecutionFence) (shared : SharedState) : Except DriverError String :=
  match shared.sessions.entries.find? fun entry => SessionState.hasFence fence entry.2 with
  | some entry => .ok entry.1
  | none => .error (.protocol "turn fence is not active")

/-- The monitor that is told about a cancellation. -/
def watchOfSession (sessionRef : String) (shared : SharedState) : Except DriverError Nat :=
  match (shared.sessions.lookup sessionRef).bind (·.active) with
  | some active => .ok active.watch
  | none => .error (.protocol "turn stopped during cancellation")

/-! ## Permissions -/

/-- What the handler of a permission request leaves when it releases the lock. -/
structure PermissionAsked where
  shared : SharedState
  watch : Nat
  request : PermissionRequested

/-- The part of a permission request that is handled under the lock. The sequence number is a
64-bit counter without a check. -/
def handlePermissionRequest (raw : Value) (permissionId : String) (handler : Nat) (now : Int)
    (shared : SharedState) : Except DriverError PermissionAsked :=
  match raw.getStr "sessionId" with
  | none => .error (.protocol "permission request omitted sessionId")
  | some sessionRef =>
    match shared.sessions.lookup sessionRef with
    | none => .error (.protocol "permission request references unknown session")
    | some session =>
      match session.active with
      | none => .error (.protocol "permission request arrived outside an active turn")
      | some active =>
        let expiry := min active.policy.idleTimeoutMs active.policy.wallTimeoutMs
        .ok {
          shared := {
            sessions := shared.sessions.insert sessionRef { session with
              active := some { active with
                nextEventSeq := (active.nextEventSeq + 1) % (u64Max + 1) } }
            permissions := shared.permissions.insert permissionId ⟨active.fence, handler⟩ }
          watch := active.watch
          request := {
            fence := active.fence
            permissionId
            eventSeq := active.nextEventSeq
            toolCall := (raw.get "toolCall").getD .null
            options := ((raw.get "options").bind Value.asArray).getD []
            expiresAtMs := min (now + min expiry i64Max) i64Max } }

/-- Takes a permission out, for whoever answers it. -/
def takePermission (permissionId : String) (shared : SharedState) :
    Option PendingPermission × SharedState :=
  (shared.permissions.lookup permissionId,
    { shared with permissions := shared.permissions.erase permissionId })

/-- Takes out several permissions. -/
def takePermissions (permissionIds : List String) (shared : SharedState) :
    List PendingPermission × SharedState :=
  permissionIds.foldl (fun (taken, shared) permissionId =>
    let (pending, shared) := takePermission permissionId shared
    (taken ++ pending.toList, shared)) ([], shared)

end Fleetd.AcpHost
