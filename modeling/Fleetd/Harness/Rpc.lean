import Fleetd.Harness.Client
import Fleetd.Serde.Size

/-!
# Calls of a plugin process

A call numbers its request, encodes it and refuses a frame that is too long before it writes a
byte of it; then it waits for the reply. What the process replies, or how the exchange fails, is
given beside the call.
-/

namespace Fleetd.Harness

open Serde (Value)

/-- The longest frame that is written, in bytes. -/
def maxFrameLength : Nat := 1024 * 1024

def TurnSource.toValue (source : TurnSource) : Value :=
  .object [
    ("agent_id", .string source.agentId),
    ("message_id", .string source.messageId),
    ("channel_id", .string source.channelId),
    ("sender_id", .string source.senderId),
    ("correlation_id", .optional source.correlationId),
    ("causation_id", .optional source.causationId)]

def PromptBlock.toValue : PromptBlock → Value
  | .text content => .object [("type", .string "text"), ("text", .string content)]

def ToolBudget.toValue (budget : ToolBudget) : Value :=
  .object [
    ("limit", .nat budget.limit),
    ("required_enforcement", .string budget.requiredEnforcement)]

/-- A number that may be missing. -/
def optionalNat : Option Nat → Value
  | some n => .nat n
  | none => .null

def TurnPolicy.toValue (policy : TurnPolicy) : Value :=
  .object [
    ("idle_timeout_ms", .nat policy.idleTimeoutMs),
    ("wall_timeout_ms", .nat policy.wallTimeoutMs),
    ("cancel_drain_timeout_ms", .nat policy.cancelDrainTimeoutMs),
    ("max_captured_output_bytes", .nat policy.maxCapturedOutputBytes),
    ("permission_policy", .string policy.permissionPolicy),
    ("tool_budget", policy.toolBudget.toValue),
    ("token_budget", optionalNat policy.tokenBudget)]

def StartTurn.toValue (request : StartTurn) : Value :=
  .object [
    ("fence", request.fence.toValue),
    ("session_ref", .string request.sessionRef),
    ("source", request.source.toValue),
    ("prompt", .array (request.prompt.map PromptBlock.toValue)),
    ("policy", request.policy.toValue)]

/-- The frame of a request. -/
def requestFrame (id : Nat) (method : String) (params : Value) : Value :=
  .object [
    ("jsonrpc", .string "2.0"),
    ("id", .nat id),
    ("method", .string method),
    ("params", params)]

/-- The sending side of a plugin process: the number of the next request, and why nothing can be
sent any more. -/
structure RpcPeer where
  nextId : Nat
  failure : Option String
  deriving DecidableEq, Repr

/-- What came of a call, and the frame that was written for it. -/
structure RpcCall (α : Type) where
  result : Except PluginError α
  written : Option Value
  deriving Repr

/-- Calls a method, with how the exchange ends once the frame is written. -/
def RpcPeer.call {α : Type} (peer : RpcPeer) (method : String) (params : Value)
    (reply : Except PluginError α) : RpcCall α :=
  let request := requestFrame peer.nextId method params
  if peer.nextId = u64Max then
    ⟨.error (.protocol "JSON-RPC request identifier space exhausted"), none⟩
  else if maxFrameLength < request.size then
    ⟨.error (.protocol s!"outbound JSON-RPC frame exceeds {maxFrameLength} bytes"), none⟩
  else
    match peer.failure with
    | some failure => ⟨.error (.protocol failure), none⟩
    | none => ⟨reply, some request⟩

/-- The method that starts a turn. -/
def startTurnMethod : String := "harness.acp.turn.start"

/-- Starts a turn through a peer. -/
def HarnessAcpClient.startTurnCall (client : HarnessAcpClient) (peer : RpcPeer) (request : StartTurn)
    (reply : Except PluginError StartTurnResult) : Except PluginError HarnessAcpClient :=
  client.startTurn request (peer.call startTurnMethod request.toValue reply).result

end Fleetd.Harness
