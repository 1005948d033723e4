import Fleetd.System.Command

/-!
# Invocation-scoped message grants

A grant is armed for exactly one invocation and fixes what a publish may say: the sender, the
channel, the correlation and causation it inherits, and how many messages it may produce. The
grant is behind a fair lock that a publish holds through its durable append.

A call starts, waits for the lock, and has it: an activation or a deactivation is over at once,
a publish that passes its checks keeps the lock until its append has committed or failed. Calls
of the store by anyone else come between any two steps. Activations are numbered, and the history
of what they led to is recorded beside the service.
-/

namespace Fleetd

open Relational

def maxMessagesPerInvocation : Nat := 8
def maxOperationIdBytes : Nat := 128
def maxMessageKindBytes : Nat := 256

/-- An armed grant. -/
structure ActiveMessageGrant where
  invocationId : String
  senderId : String
  channelId : String
  sourceMessageId : String
  correlationId : String
  expiresAtMs : Int
  publishedMessages : Nat
  operations : List String
  deriving DecidableEq, Repr

/-- What a caller of publish chooses. -/
structure PublishMessageInput (Json : Type) where
  operationId : String
  recipientId : String
  kind : String
  payload : Json
  deriving DecidableEq, Repr

/-- What a caller of publish is told. -/
structure PublishMessageOutput where
  messageId : String
  seq : Nat
  created : Bool
  channelId : String
  correlationId : String
  causationId : String
  deriving DecidableEq, Repr

variable {Json : Type}

/-- The grant that an invocation arms. -/
def ActiveMessageGrant.arm (invocation : Invocation Json) : ActiveMessageGrant where
  invocationId := invocation.id
  senderId := invocation.agentId
  channelId := invocation.message.channelId
  sourceMessageId := invocation.message.id
  correlationId := invocation.message.correlationId.getD invocation.message.id
  expiresAtMs := invocation.leaseExpiresAtMs
  publishedMessages := 0
  operations := []

/-- A text that is not blank and bounded. -/
def validateBoundedText (field value : String) (maxBytes : Nat) : Except String Unit :=
  if isBlank value = true ∨ maxBytes < byteLen value then
    .error s!"{field} must contain between 1 and {maxBytes} bytes"
  else .ok ()

/-- The bounds of a publish. -/
def validatePublishInput [SerdeJson Json] (input : PublishMessageInput Json) : Except String Unit := do
  validateBoundedText "operation_id" input.operationId maxOperationIdBytes
  validateBoundedText "recipient_id" input.recipientId maxAgentIdBytes
  validateBoundedText "kind" input.kind maxMessageKindBytes
  if maxPayloadBytes < byteLen (SerdeJson.toString input.payload) then
    .error s!"payload must not exceed {maxPayloadBytes} encoded bytes"
  else .ok ()

/-- The text of a store error that a caller may see. -/
def publicFleetError : FleetError → String
  | .notFound entity id => s!"{entity} not found: {id}"
  | .notMember agentId channelId => s!"agent {agentId} is not a member of channel {channelId}"
  | .invalid message => s!"invalid input: {message}"
  | .forbidden message => s!"forbidden: {message}"
  | .conflict message => s!"conflict: {message}"
  | .leaseConflict _ => "Fleetd could not commit the durable message"
  | .database _ => "Fleetd could not commit the durable message"
  | .serialization _ => "Fleetd could not commit the durable message"

/-- The checks of a publish under the lock. -/
def ActiveMessageGrant.admit (now : Int) (input : PublishMessageInput Json)
    (grant : ActiveMessageGrant) : Except String Unit :=
  if grant.expiresAtMs ≤ now then .error "the active Fleetd invocation grant has expired"
  else if input.recipientId = grant.senderId then
    .error "recipient_id must identify a peer, not the sending agent"
  else if input.operationId ∉ grant.operations ∧ maxMessagesPerInvocation ≤ grant.publishedMessages then
    .error s!"this invocation may publish at most {maxMessagesPerInvocation} messages"
  else .ok ()

/-- The key under which an operation of an invocation is appended. -/
def publishKey [Sha256] (invocationId operationId : String) : String :=
  "invocation:" ++ invocationId ++ ":publish:" ++ Sha256.hexDigest (utf8Bytes operationId)

/-- What a publish appends. -/
def ActiveMessageGrant.message [Sha256] (input : PublishMessageInput Json)
    (grant : ActiveMessageGrant) : CreateMessage Json where
  senderId := grant.senderId
  idempotencyKey := some (publishKey grant.invocationId input.operationId)
  recipientId := some input.recipientId
  kind := input.kind
  payload := input.payload
  correlationId := some grant.correlationId
  causationId := some grant.sourceMessageId

/-- The grant after a successful append. -/
def ActiveMessageGrant.record (operationId : String) (created : Bool) (grant : ActiveMessageGrant) :
    ActiveMessageGrant :=
  { grant with
    publishedMessages := if created then grant.publishedMessages + 1 else grant.publishedMessages
    operations := if operationId ∈ grant.operations then grant.operations
      else grant.operations ++ [operationId] }

/-- The answer to a publish, which expects that its linkage was stored. -/
def publishOutput (result : AppendMessageResult Json) : Option PublishMessageOutput := do
  let correlationId ← result.message.correlationId
  let causationId ← result.message.causationId
  some {
    messageId := result.message.id
    seq := result.message.seq
    created := result.created
    channelId := result.message.channelId
    correlationId
    causationId }

/-! ## The service -/

/-- What is called. -/
inductive GrantRequest (Json : Type)
  | activate (invocation : Invocation Json)
  | deactivate (invocationId : String)
  | publish (input : PublishMessageInput Json)
  deriving DecidableEq, Repr

def GrantRequest.isPublish : GrantRequest Json → Bool
  | .publish _ => true
  | _ => false

/-- A call that waits for the lock. `during` is the activation it was made under, if one was
armed then and not about to be disarmed. -/
structure WaitingCall (Json : Type) where
  request : GrantRequest Json
  during : Option Nat
  deriving DecidableEq, Repr

/-- A publish that has the lock and awaits its append. -/
structure HeldPublish (Json : Type) where
  input : PublishMessageInput Json
  during : Option Nat
  deriving DecidableEq, Repr

/-- What happened. -/
inductive MessageGrantEvent (Json : Type)
  | activated (activation : Nat) (invocation : Invocation Json)
  | deactivated (activation : Nat)
  | published (activation : Nat) (during : Option Nat) (grant : ActiveMessageGrant)
    (input : PublishMessageInput Json) (result : AppendMessageResult Json)
    (output : PublishMessageOutput)
  | refused (reason : String)
  | panicked
  deriving DecidableEq, Repr

/-- The service, the calls that wait for its lock, and the calls that the store has seen. -/
structure MessageGrantService (Json : Type) where
  commands : List (Command Json)
  active : Option (Nat × ActiveMessageGrant)
  held : Option (HeldPublish Json)
  waiting : List (WaitingCall Json)
  activations : Nat
  history : List (MessageGrantEvent Json)

/-- What can happen to the service. -/
inductive MessageGrantStep (Json : Type)
  | call (request : GrantRequest Json) (now : Int)
  | acquire (now : Int)
  | append (messageId : String) (createdAtMs : Int)
  | store (command : Command Json)

/-- The lease tokens that a step mints. -/
def MessageGrantStep.leaseTokens : MessageGrantStep Json → List String
  | .store command => command.leaseTokens
  | _ => []

/-- A service that was never armed. -/
def MessageGrantService.init : MessageGrantService Json := ⟨[], none, none, [], 0, []⟩

/-- A call is over with an error. -/
def MessageGrantService.refuse (reason : String) (w : MessageGrantService Json) :
    MessageGrantService Json :=
  { w with history := w.history ++ [.refused reason] }

/-- A call queues for the lock. -/
def MessageGrantService.enqueue (request : GrantRequest Json) (w : MessageGrantService Json) :
    MessageGrantService Json :=
  let during := if w.waiting.all (fun c => c.request.isPublish) then w.active.map Prod.fst else none
  { w with waiting := w.waiting ++ [⟨request, during⟩] }

/-- A call starts. An activation reads the clock before it locks, a publish checks its bounds. -/
def MessageGrantService.call [SerdeJson Json] (request : GrantRequest Json) (now : Int)
    (w : MessageGrantService Json) : MessageGrantService Json :=
  match request with
  | .activate invocation =>
    if invocation.leaseExpiresAtMs ≤ now then w.refuse "invocation lease already expired"
    else w.enqueue request
  | .deactivate _ => w.enqueue request
  | .publish input =>
    match validatePublishInput input with
    | .error reason => w.refuse reason
    | .ok _ => w.enqueue request

/-- An activation has the lock. -/
def MessageGrantService.activate (invocation : Invocation Json) (w : MessageGrantService Json) :
    MessageGrantService Json :=
  match w.active with
  | some _ => w.refuse "message grant already has an active invocation"
  | none => { w with
      active := some (w.activations, .arm invocation)
      activations := w.activations + 1
      history := w.history ++ [.activated w.activations invocation] }

/-- A deactivation has the lock. -/
def MessageGrantService.deactivate (invocationId : String) (w : MessageGrantService Json) :
    MessageGrantService Json :=
  match w.active with
  | some (activation, grant) =>
    if grant.invocationId = invocationId then
      { w with active := none, history := w.history ++ [.deactivated activation] }
    else w
  | none => w

/-- A publish has the lock: it keeps it if its checks pass. -/
def MessageGrantService.admit (input : PublishMessageInput Json) (during : Option Nat) (now : Int)
    (w : MessageGrantService Json) : MessageGrantService Json :=
  match w.active with
  | none => w.refuse "no active Fleetd invocation grants message publishing"
  | some (_, grant) =>
    match grant.admit now input with
    | .error reason => w.refuse reason
    | .ok _ => { w with held := some ⟨input, during⟩ }

/-- The lock goes to the call that waits longest. -/
def MessageGrantService.acquire (now : Int) (w : MessageGrantService Json) :
    MessageGrantService Json :=
  match w.held, w.waiting with
  | none, ⟨request, during⟩ :: rest =>
    let next := { w with waiting := rest }
    match request with
    | .activate invocation => next.activate invocation
    | .deactivate invocationId => next.deactivate invocationId
    | .publish input => next.admit input during now
  | _, _ => w

section Store

variable [DecidableEq Json] [SerdeJson Json] [Sha256]

/-- The database behind the service. -/
def MessageGrantService.database (w : MessageGrantService Json) : Store := run w.commands

/-- The append of the publish that holds the lock commits or fails, and the lock is free. -/
def MessageGrantService.append (messageId : String) (createdAtMs : Int)
    (w : MessageGrantService Json) : MessageGrantService Json :=
  match w.held, w.active with
  | some ⟨input, during⟩, some (activation, grant) =>
    let request := grant.message input
    let next : MessageGrantService Json := { w with
      held := none
      commands := w.commands ++ [.appendMessage grant.channelId request messageId createdAtMs] }
    match appendMessageIdempotent grant.channelId request messageId createdAtMs w.database with
    | .error error => next.refuse (publicFleetError error)
    | .ok (result, _) =>
      let recorded : MessageGrantService Json := { next with
        active := some (activation, grant.record input.operationId result.created) }
      match publishOutput result with
      | none => { recorded with history := w.history ++ [.panicked] }
      | some output => { recorded with
          history := w.history ++ [.published activation during grant input result output] }
  | _, _ => w

/-- One step of the service. -/
def MessageGrantStep.next (step : MessageGrantStep Json) (w : MessageGrantService Json) :
    MessageGrantService Json :=
  match step with
  | .call request now => w.call request now
  | .acquire now => w.acquire now
  | .append messageId createdAtMs => w.append messageId createdAtMs
  | .store command => { w with commands := w.commands ++ [command] }

/-- The service after some steps. -/
def grantRun (steps : List (MessageGrantStep Json)) : MessageGrantService Json :=
  runFrom MessageGrantStep.next .init steps

end Store

end Fleetd
