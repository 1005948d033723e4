import Fleetd.Kernel.Channel

/-!
# Messages, idempotent append and the delivery snapshot

Every entry point that creates a message goes through `insertMessage`: ordinary sends,
trigger firings and granted sends after the idempotency lookup of
`appendMessageInTransaction`, invocation results directly. The insert writes the message
and one pending delivery for each inbox member it addresses.
-/

namespace Fleetd

open Relational Relational.Transaction

variable {Json : Type}

/-- A decoded message. -/
structure Message (Json : Type) where
  seq : Nat
  id : String
  channelId : String
  senderId : String
  recipientId : Option String
  kind : String
  payload : Json
  correlationId : Option String
  causationId : Option String
  createdAtMs : Int
  deriving DecidableEq, Repr

/-- A request to append a message. -/
structure CreateMessage (Json : Type) where
  senderId : String
  idempotencyKey : Option String
  recipientId : Option String
  kind : String
  payload : Json
  correlationId : Option String
  causationId : Option String
  deriving DecidableEq, Repr

/-- The durable result of appending a message with optional idempotency. -/
structure AppendMessageResult (Json : Type) where
  message : Message Json
  created : Bool
  deriving DecidableEq, Repr

def maxIdempotencyKeyLength : Nat := 256

/-- Decodes one stored message. -/
def messageFromRow [SerdeJson Json] (row : MessageRow) : Except FleetError (Message Json) :=
  match SerdeJson.fromStr row.payloadJson with
  | some payload => .ok
      { seq := row.seq, id := row.id, channelId := row.channelId, senderId := row.senderId,
        recipientId := row.recipientId, kind := row.kind, payload,
        correlationId := row.correlationId, causationId := row.causationId,
        createdAtMs := row.createdAtMs }
  | none => .error (.serialization "payload_json")

/-- An idempotency key, when present, is not blank and bounded. -/
def validateIdempotencyKey (idempotencyKey : Option String) : Except FleetError Unit :=
  match idempotencyKey with
  | none => .ok ()
  | some key =>
    if isBlank key then .error (.invalid "idempotency key must not be empty")
    else if byteLen key > maxIdempotencyKeyLength then
      .error (.invalid s!"idempotency key must not exceed {maxIdempotencyKeyLength} bytes")
    else .ok ()

/-- Whether a stored message is the one a request asks for. -/
def messageMatchesInput [DecidableEq Json] (message : Message Json) (channelId : String)
    (input : CreateMessage Json) : Bool :=
  message.channelId = channelId ∧ message.senderId = input.senderId ∧
    message.recipientId = input.recipientId ∧ message.kind = input.kind ∧
    message.payload = input.payload ∧ message.correlationId = input.correlationId ∧
    message.causationId = input.causationId

/-- The members a message is delivered to: the recipient alone, or everyone but the sender. -/
def snapshotMembers (channelId senderId : String) (recipientId : Option String)
    (members : List ChannelMember) : List ChannelMember :=
  match recipientId with
  | some recipient => members.filter fun m =>
      m.channelId = channelId ∧ m.agentId = recipient ∧ m.deliveryMode = .inbox
  | none => members.filter fun m =>
      m.channelId = channelId ∧ m.agentId ≠ senderId ∧ m.deliveryMode = .inbox

/-- A delivery as it is created. -/
def pendingDelivery (messageSeq : Nat) (agentId : String) (createdAtMs : Int) : AgentDelivery where
  messageSeq := messageSeq
  agentId := agentId
  state := .pending
  attempt := 0
  availableAtMs := createdAtMs
  lastError := none
  lastSettledLeaseToken := none
  lastSettlement := none
  createdAtMs := createdAtMs

/-- Creates the pending deliveries of one new message. -/
def insertDeliverySnapshot (channelId senderId : String) (recipientId : Option String)
    (messageSeq : Nat) (createdAtMs : Int) : Tx Unit :=
  write fun s => ((), { s with
    agentDeliveries := s.agentDeliveries ++
      (snapshotMembers channelId senderId recipientId s.channelMembers).map
        (fun m => pendingDelivery messageSeq m.agentId createdAtMs) })

/-- A directed message needs its recipient in the channel. -/
def ensureRecipient (channelId : String) : Option String → Tx Unit
  | some recipient => ensureMember channelId recipient
  | none => pure ()

/-- Checks channel and membership, then inserts a message with its deliveries. -/
def insertMessage [SerdeJson Json] (channelId : String) (input : CreateMessage Json) (id : String)
    (createdAtMs : Int) : Tx (Message Json) := do
  let channel ← channelRow channelId
  ensure (channel.archivedAtMs = none) (.conflict s!"channel is archived: {channelId}")
  ensureMember channelId input.senderId
  ensureRecipient channelId input.recipientId
  let messages ← read (·.messages)
  ensure (∀ m ∈ messages, m.id ≠ id) (.database "UNIQUE constraint failed: messages.id")
  ensure (input.idempotencyKey = none ∨
      ∀ m ∈ messages, ¬ (m.senderId = input.senderId ∧ m.idempotencyKey = input.idempotencyKey))
    (.database "UNIQUE constraint failed: messages.sender_id, messages.idempotency_key")
  let messageSeq ← write fun s => (s.messageSequence + 1, { s with
    messageSequence := s.messageSequence + 1
    messages := s.messages ++ [{
      seq := s.messageSequence + 1
      id := id
      channelId := channelId
      senderId := input.senderId
      idempotencyKey := input.idempotencyKey
      recipientId := input.recipientId
      kind := input.kind
      payloadJson := SerdeJson.toString input.payload
      correlationId := input.correlationId
      causationId := input.causationId
      createdAtMs := createdAtMs }] })
  insertDeliverySnapshot channelId input.senderId input.recipientId messageSeq createdAtMs
  pure {
    seq := messageSeq
    id := id
    channelId := channelId
    senderId := input.senderId
    recipientId := input.recipientId
    kind := input.kind
    payload := input.payload
    correlationId := input.correlationId
    causationId := input.causationId
    createdAtMs := createdAtMs }

/-- The stored message of a sender under an idempotency key. -/
def messageByKey (senderId key : String) (messages : List MessageRow) : Option MessageRow :=
  messages.find? fun m => m.senderId = senderId ∧ m.idempotencyKey = some key

/-- Appends a message, or recognises a repeat, inside a caller's transaction. -/
def appendMessageInTransaction [DecidableEq Json] [SerdeJson Json] (channelId : String)
    (input : CreateMessage Json) (id : String) (createdAtMs : Int) :
    Tx (AppendMessageResult Json) := do
  ensure (isBlank input.kind = false) (.invalid "message kind must not be empty")
  check (validateIdempotencyKey input.idempotencyKey)
  let existing : Option MessageRow ← read fun s =>
    input.idempotencyKey.bind (messageByKey input.senderId · s.messages)
  match existing with
  | some row =>
    let message ← check (messageFromRow row)
    ensure (messageMatchesInput message channelId input = true)
      (.conflict "idempotency key was already used for a different message")
    pure { message, created := false }
  | none =>
    let message ← insertMessage channelId input id createdAtMs
    pure { message, created := true }

/-- Appends one immutable message or returns the existing identical message. -/
def appendMessageIdempotent [DecidableEq Json] [SerdeJson Json] (channelId : String)
    (input : CreateMessage Json) (id : String) (createdAtMs : Int) :
    Tx (AppendMessageResult Json) :=
  appendMessageInTransaction channelId input id createdAtMs

/-- The stored message of one sequence number, decoded. -/
def messageBySeq [SerdeJson Json] (messageSeq : Nat) : Tx (Message Json) := do
  let messages ← read (·.messages)
  let row ← require (messages.find? fun m => m.seq = messageSeq)
    (.notFound "message" (toString messageSeq))
  check (messageFromRow row)

end Fleetd
