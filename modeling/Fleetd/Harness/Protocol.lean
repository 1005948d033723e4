import Fleetd.Execution.Operations
import Fleetd.Serde.Parser

/-!
# The harness interface

The frames that the host and a harness plugin exchange, with the JSON values they are written as.
Every effectful frame of a turn carries the fence of its invocation. A transcript replay carries
none, because it starts no work.
-/

namespace Fleetd

open Serde (Value)

/-- Payloads that are JSON values, printed and parsed as such. -/
instance : SerdeJson Value where
  toString := Value.print
  fromStr := Serde.parse

/-- The largest value of an unsigned 64-bit field. -/
def u64Max : Nat := 18446744073709551615

/-- The longest part of a text at its front that fits some bytes. -/
def truncateChars : Nat → List Char → List Char
  | _, [] => []
  | limit, c :: rest =>
    if c.utf8Size ≤ limit then c :: truncateChars (limit - c.utf8Size) rest else []

/-- A text cut at the last character boundary within some bytes. -/
def truncateUtf8 (limit : Nat) (text : String) : String :=
  if byteLen text ≤ limit then text else String.ofList (truncateChars limit text.toList)

namespace Harness

def maxFleetIdBytes : Nat := 256
def maxSessionRefBytes : Nat := 4096
def maxFrameBytes : Nat := 1024 * 1024
def maxCaptureBytes : Nat := 512 * 1024

/-! ## Turns -/

/-- The complete write-ahead fence of one effectful turn. -/
structure ExecutionFence where
  bindingId : String
  bindingGeneration : Nat
  ownerEpoch : Nat
  invocationId : String
  fenceToken : String
  deriving DecidableEq, Repr

/-- Where a turn comes from. -/
structure TurnSource where
  agentId : String
  messageId : String
  channelId : String
  senderId : String
  correlationId : Option String
  causationId : Option String
  deriving DecidableEq, Repr

/-- One block of a prompt. -/
inductive PromptBlock
  | text (text : String)
  deriving DecidableEq, Repr

structure ToolBudget where
  limit : Nat
  requiredEnforcement : String
  deriving DecidableEq, Repr

/-- The bounds of a turn. -/
structure TurnPolicy where
  idleTimeoutMs : Nat
  wallTimeoutMs : Nat
  cancelDrainTimeoutMs : Nat
  maxCapturedOutputBytes : Nat
  permissionPolicy : String
  toolBudget : ToolBudget
  tokenBudget : Option Nat
  deriving DecidableEq, Repr

/-- Starts one prompt under an already durable fence. -/
structure StartTurn where
  fence : ExecutionFence
  sessionRef : String
  source : TurnSource
  prompt : List PromptBlock
  policy : TurnPolicy
  deriving DecidableEq, Repr

/-- One observed update of a turn. -/
structure TurnEvent where
  fence : ExecutionFence
  eventSeq : Nat
  observedAtMs : Int
  classification : String
  rawUpdate : Value
  deriving DecidableEq, Repr

/-- A request for consent in the middle of a turn. -/
structure PermissionRequested where
  fence : ExecutionFence
  permissionId : String
  eventSeq : Nat
  toolCall : Value
  options : List Value
  expiresAtMs : Int
  deriving DecidableEq, Repr

inductive PermissionOutcome
  | selected (optionId : String)
  | cancelled
  deriving DecidableEq, Repr

/-- The answer to a request for consent. -/
structure PermissionResolution where
  fence : ExecutionFence
  permissionId : String
  outcome : PermissionOutcome
  deriving DecidableEq, Repr

/-- A message of the assistant with the events it came from. -/
structure AssistantMessage where
  messageId : Option String
  content : List Value
  complete : Bool
  firstEventSeq : Nat
  lastEventSeq : Nat
  deriving DecidableEq, Repr

/-- The last frame of a turn. -/
structure TurnTerminal where
  fence : ExecutionFence
  lastEventSeq : Nat
  stopReason : String
  runtimeStopReason : Option String
  executionCertainty : ExecutionCertainty
  sessionQuiescent : Bool
  sessionPersistence : SessionPersistence
  assistantMessages : List AssistantMessage
  usage : Value
  rawPromptResponse : Value
  deriving DecidableEq, Repr

/-! ## Transcripts -/

/-- One stored conversation entry, as the runtime replayed it. -/
structure TranscriptEntry where
  sessionRef : String
  entrySeq : Nat
  observedAtMs : Int
  classification : String
  rawUpdate : Value
  deriving DecidableEq, Repr

/-- The end of one replay. -/
structure TranscriptComplete where
  sessionRef : String
  entryCount : Nat
  observedPayloadBytes : Nat
  truncated : Bool
  failure : Option String
  deriving DecidableEq, Repr

/-- The closed set of notifications. -/
inductive Notification
  | turnEvent (event : TurnEvent)
  | permissionRequested (request : PermissionRequested)
  | turnTerminal (terminal : TurnTerminal)
  | transcriptEntry (entry : TranscriptEntry)
  | transcriptComplete (complete : TranscriptComplete)
  deriving DecidableEq, Repr

/-- The method a notification is sent under. -/
def Notification.method : Notification → String
  | .turnEvent _ => "harness.acp.turn.event"
  | .permissionRequested _ => "harness.acp.permission.requested"
  | .turnTerminal _ => "harness.acp.turn.terminal"
  | .transcriptEntry _ => "harness.acp.session.transcript.entry"
  | .transcriptComplete _ => "harness.acp.session.transcript.complete"

/-! ## Values -/

def ExecutionFence.toValue (fence : ExecutionFence) : Value :=
  .object [
    ("binding_id", .string fence.bindingId),
    ("binding_generation", .nat fence.bindingGeneration),
    ("owner_epoch", .nat fence.ownerEpoch),
    ("invocation_id", .string fence.invocationId),
    ("fence_token", .string fence.fenceToken)]

def TurnEvent.toValue (event : TurnEvent) : Value :=
  .object [
    ("fence", event.fence.toValue),
    ("event_seq", .nat event.eventSeq),
    ("observed_at_ms", .int event.observedAtMs),
    ("classification", .string event.classification),
    ("raw_update", event.rawUpdate)]

def PermissionRequested.toValue (request : PermissionRequested) : Value :=
  .object [
    ("fence", request.fence.toValue),
    ("permission_id", .string request.permissionId),
    ("event_seq", .nat request.eventSeq),
    ("tool_call", request.toolCall),
    ("options", .array request.options),
    ("expires_at_ms", .int request.expiresAtMs)]

def AssistantMessage.toValue (message : AssistantMessage) : Value :=
  .object [
    ("message_id", .optional message.messageId),
    ("content", .array message.content),
    ("complete", .bool message.complete),
    ("first_event_seq", .nat message.firstEventSeq),
    ("last_event_seq", .nat message.lastEventSeq)]

/-- The spelling of a certainty on the wire. -/
def certaintyStr : ExecutionCertainty → String
  | .notStarted => "not_started"
  | .outcomeKnown => "outcome_known"
  | .outcomeUnknown => "outcome_unknown"

/-- The spelling of a persistence on the wire. -/
def persistenceStr : SessionPersistence → String
  | .confirmed => "confirmed"
  | .runtimeClaimed => "runtime_claimed"
  | .unknown => "unknown"

/-- A member that is left out when there is nothing to say. -/
def optionalMember (key : String) : Option String → List (String × Value)
  | some text => [(key, .string text)]
  | none => []

def TurnTerminal.toValue (terminal : TurnTerminal) : Value :=
  .object (
    [("fence", terminal.fence.toValue),
      ("last_event_seq", .nat terminal.lastEventSeq),
      ("stop_reason", .string terminal.stopReason)] ++
    optionalMember "runtime_stop_reason" terminal.runtimeStopReason ++
    [("execution_certainty", .string (certaintyStr terminal.executionCertainty)),
      ("session_quiescent", .bool terminal.sessionQuiescent),
      ("session_persistence", .string (persistenceStr terminal.sessionPersistence)),
      ("assistant_messages", .array (terminal.assistantMessages.map AssistantMessage.toValue)),
      ("usage", terminal.usage),
      ("raw_prompt_response", terminal.rawPromptResponse)])

def TranscriptEntry.toValue (entry : TranscriptEntry) : Value :=
  .object [
    ("session_ref", .string entry.sessionRef),
    ("entry_seq", .nat entry.entrySeq),
    ("observed_at_ms", .int entry.observedAtMs),
    ("classification", .string entry.classification),
    ("raw_update", entry.rawUpdate)]

def TranscriptComplete.toValue (complete : TranscriptComplete) : Value :=
  .object (
    [("session_ref", .string complete.sessionRef),
      ("entry_count", .nat complete.entryCount),
      ("observed_payload_bytes", .nat complete.observedPayloadBytes),
      ("truncated", .bool complete.truncated)] ++
    optionalMember "failure" complete.failure)

/-- The parameters of a notification. -/
def Notification.params : Notification → Value
  | .turnEvent event => event.toValue
  | .permissionRequested request => request.toValue
  | .turnTerminal terminal => terminal.toValue
  | .transcriptEntry entry => entry.toValue
  | .transcriptComplete complete => complete.toValue

/-! ## Errors -/

/-- A failure of the plugin process or of its protocol. -/
inductive PluginError
  | protocol (message : String)
  | transport (message : String)
  | timeout (method deadline : String)
  | remote (method : String) (code : Int) (message : String)
  | exited (code : Option Int)
  | io (message : String)
  | json (message : String)
  deriving DecidableEq, Repr

/-- The text of a plugin error. -/
def PluginError.display : PluginError → String
  | .protocol message => "plugin protocol error: " ++ message
  | .transport message => "plugin transport error: " ++ message
  | .timeout method deadline => "plugin call " ++ method ++ " timed out after " ++ deadline
  | .remote method code message =>
    "plugin call " ++ method ++ " failed with JSON-RPC error " ++ toString code ++ ": " ++ message
  | .exited code =>
    "plugin exited unexpectedly with code " ++
      (match code with | some code => "Some(" ++ toString code ++ ")" | none => "None")
  | .io message => "plugin I/O error: " ++ message
  | .json message => "plugin JSON error: " ++ message

end Harness

end Fleetd
