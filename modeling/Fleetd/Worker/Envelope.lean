import Fleetd.Harness.Rpc
import Fleetd.Kernel.History
import Fleetd.Serde.Pretty
import Fleetd.Worker.Configuration

/-!
# The prompt of a turn

A reserved message is put in front of a harness as one text: instructions, and the message with a
bounded part of its channel as indented JSON. The members and the messages of the context are
counted and, for the messages, measured; the message itself, its fields and the names of the
members are not.
-/

namespace Fleetd.Worker

open Serde (Value)
open Harness Relational Relational.Transaction

def maxChannelContextMembers : Nat := 64
def maxChannelContextMessages : Nat := 32
def maxChannelContextHistoryBytes : Nat := 64 * 1024

/-! ## Values -/

def deliveryModeStr : MembershipDeliveryMode → String
  | .inbox => "inbox"
  | .streamOnly => "stream_only"

def memberValue (member : ChannelMemberView) : Value :=
  .object [
    ("channel_id", .string member.channelId),
    ("agent_id", .string member.agentId),
    ("agent_name", .string member.agentName),
    ("joined_at_ms", .int member.joinedAtMs),
    ("delivery_mode", .string (deliveryModeStr member.deliveryMode))]

def messageValue (message : Message Value) : Value :=
  .object [
    ("seq", .nat message.seq),
    ("id", .string message.id),
    ("channel_id", .string message.channelId),
    ("sender_id", .string message.senderId),
    ("recipient_id", .optional message.recipientId),
    ("kind", .string message.kind),
    ("payload", message.payload),
    ("correlation_id", .optional message.correlationId),
    ("causation_id", .optional message.causationId),
    ("created_at_ms", .int message.createdAtMs)]

/-! ## The context -/

/-- The part of its channel that a turn is shown. -/
structure ChannelTurnContext where
  members : List ChannelMemberView
  membersTruncated : Bool
  recentHistory : List (Message Value)
  recentHistoryTruncated : Bool
  deriving DecidableEq, Repr

/-- Adds a member unless its agent is there. -/
def includeMember (bounded : List ChannelMemberView) (member : ChannelMemberView) :
    List ChannelMemberView :=
  if bounded.any (fun other => other.agentId = member.agentId) then bounded else bounded ++ [member]

/-- The members that a turn is about, as far as the channel has them. -/
def priorityMembers (members : List ChannelMemberView) (invocation : Invocation Value) :
    List ChannelMemberView :=
  let ids := [some invocation.agentId, some invocation.message.senderId,
    invocation.message.recipientId].filterMap id
  (ids.filterMap fun id => members.find? fun member => member.agentId = id).foldl includeMember []

/-- Adds further members up to the bound. -/
def fillMembers : List ChannelMemberView → List ChannelMemberView → List ChannelMemberView
  | bounded, [] => bounded
  | bounded, member :: rest =>
    if bounded.length = maxChannelContextMembers then bounded
    else fillMembers (includeMember bounded member) rest

def boundedContextMembers (members : List ChannelMemberView) (invocation : Invocation Value) :
    List ChannelMemberView × Bool :=
  let bounded := fillMembers (priorityMembers members invocation) members
  (bounded, decide (bounded.length < members.length))

/-- Messages from the latest one on while their encoding fits, and whether one did not. -/
def retainHistory : Nat → List (Message Value) → List (Message Value) × Bool
  | _, [] => ([], false)
  | encodedBytes, message :: rest =>
    let nextBytes := encodedBytes + (messageValue message).size
    if maxChannelContextHistoryBytes < nextBytes then ([], true)
    else
      let (retained, truncated) := retainHistory nextBytes rest
      (message :: retained, truncated)

def boundedContextHistory (history : List (Message Value)) : List (Message Value) × Bool :=
  let (retained, truncated) :=
    retainHistory 0 (history.drop (history.length - maxChannelContextMessages)).reverse
  (retained.reverse, decide (maxChannelContextMessages < history.length) || truncated)

/-- Reads the context of a turn; its two reads are transactions of their own. -/
def channelTurnContext (invocation : Invocation Value) : Tx ChannelTurnContext := do
  let members ← listChannelMembers invocation.message.channelId
  let history ← listRecentMessagesBefore invocation.message.channelId invocation.message.seq
    (maxChannelContextMessages + 1)
  let (members, membersTruncated) := boundedContextMembers members invocation
  let (recentHistory, recentHistoryTruncated) := boundedContextHistory history
  pure { members, membersTruncated, recentHistory, recentHistoryTruncated }

/-! ## The prompt -/

/-- One turn as an adapter has prepared it. -/
structure PreparedTurn where
  lanePolicy : String
  laneKey : String
  prompt : List PromptBlock
  resultKind : String
  resultCapture : TurnResultCapture
  resultContext : Value
  deriving DecidableEq, Repr

/-- The envelope of a message with its context. -/
def envelope (invocation : Invocation Value) (context : ChannelTurnContext) : Value :=
  .object [
    ("invocation", .object [
      ("id", .string invocation.id),
      ("delivery_attempt", .nat invocation.deliveryAttempt)]),
    ("channel", .object [
      ("id", .string invocation.message.channelId),
      ("members", .array (context.members.map memberValue)),
      ("members_truncated", .bool context.membersTruncated),
      ("recent_history", .array (context.recentHistory.map messageValue)),
      ("recent_history_truncated", .bool context.recentHistoryTruncated)]),
    ("message", messageValue invocation.message)]

/-- What every prompt begins with. -/
def promptIntroduction : String :=
  "You are participating in a durable Fleetd channel. The channel members and " ++
    "recent shared history below are context; the message field is the exact " ++
    "message that woke you. Act on its request and make your final response " ++
    "suitable to return to the sending member. When another member should act " ++
    "and a Fleetd messaging tool is available, address a durable message using " ++
    "that member's exact agent_id from channel.members. Do not claim a peer " ++
    "response you have not received, and do not invent authority absent from the " ++
    "request."

/-- What stands in front of standing instructions. -/
def standingIntroduction : String :=
  "\n\nYour standing instructions for this agent identity are:\n"

/-- The standing instructions in a prompt. -/
def standing : Option String → String
  | some instructions => standingIntroduction ++ instructions
  | none => ""

/-- The text of a prompt. -/
def promptText (adapter : EnvelopeTurnAdapter) (invocation : Invocation Value)
    (context : ChannelTurnContext) : String :=
  promptIntroduction ++ standing adapter.standingInstructions ++ "\n\n" ++
    (envelope invocation context).printPretty 0

/-- Prepares the turn of a message. -/
def prepareEnvelope (adapter : EnvelopeTurnAdapter) (invocation : Invocation Value)
    (context : ChannelTurnContext) : PreparedTurn where
  lanePolicy := "per-channel"
  laneKey := invocation.message.channelId
  prompt := [.text (promptText adapter invocation context)]
  resultKind := adapter.resultKind
  resultCapture := .transcript
  resultContext := .null

/-- What a prepared turn must have. -/
def validatePreparedTurn (prepared : PreparedTurn) : Except String Unit :=
  if isBlank prepared.lanePolicy = true ∨ isBlank prepared.laneKey = true ∨
      isBlank prepared.resultKind = true ∨ prepared.prompt = [] then
    .error "lane policy, lane key, result kind, and prompt must not be empty"
  else .ok ()

/-! ## The turn -/

/-- A native session that is open under a binding. -/
structure OpenedSession where
  binding : Binding
  sessionRef : String
  deriving DecidableEq, Repr

/-- The turn that the controller is asked to drive. -/
def managedTurn (config : ContinuousWorkerConfig) (generationId : String) (opened : OpenedSession)
    (invocation : Invocation Value) (prepared : PreparedTurn) : ManagedTurn where
  invocation := invocation
  generationId := generationId
  binding := opened.binding
  sessionRef := opened.sessionRef
  prompt := prepared.prompt
  policy := config.turnPolicy
  grants := config.turnGrants
  resultKind := prepared.resultKind
  resultCapture := prepared.resultCapture
  resultContext := prepared.resultContext
  permissionPolicy := config.permissionPolicy
  interruptible := true

end Fleetd.Worker
