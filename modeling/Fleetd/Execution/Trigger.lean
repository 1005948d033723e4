import Fleetd.Kernel.Delivery

/-!
# Inbound triggers

A trigger is a durable registration of what a thing outside the fleet may create: one
channel, one sender, and a declared set of message kinds. Firing derives the sender, the
channel and the idempotency key from the registration and appends through the shared path.
-/

namespace Fleetd

open Relational Relational.Transaction

variable {Json : Type}

/-- A request to register a trigger. -/
structure RegisterTrigger where
  name : String
  channelId : String
  senderId : String
  acceptedKinds : List String
  deriving DecidableEq, Repr

/-- One firing. -/
structure TriggerOccurrence (Json : Type) where
  occurrenceId : String
  recipientId : String
  kind : String
  payload : Json
  deriving DecidableEq, Repr

/-- What a firing reports. -/
structure TriggerFired where
  triggerId : String
  occurrenceId : String
  messageId : String
  created : Bool
  deriving DecidableEq, Repr

def maxAcceptedKinds : Nat := 32
def maxKindBytes : Nat := 256
def maxRetirementReasonBytes : Nat := 512
def maxOccurrenceIdBytes : Nat := 128
def maxAgentIdBytes : Nat := 256
def maxPayloadBytes : Nat := 64 * 1024

/-- The declared kinds are bounded, not blank and distinct. -/
def checkKinds : List String → List String → Except FleetError Unit
  | [], _ => .ok ()
  | kind :: rest, seen =>
    if isBlank kind ∨ byteLen kind > maxKindBytes then
      .error (.invalid s!"a declared message kind must contain between 1 and {maxKindBytes} bytes")
    else if kind ∈ seen then .error (.invalid s!"duplicate declared message kind {kind}")
    else checkKinds rest (kind :: seen)

/-- Sorts the declared set after checking it. -/
def normalizeKinds (kinds : List String) : Except FleetError (List String) :=
  if kinds = [] then .error (.invalid "a trigger must declare at least one message kind")
  else if kinds.length > maxAcceptedKinds then
    .error (.invalid s!"a trigger may declare at most {maxAcceptedKinds} message kinds")
  else do
    checkKinds kinds []
    pure (kinds.insertionSort fun a b => ¬ b < a)

/-- Builds the registration a caller asked for. -/
def newTrigger (id : String) (input : RegisterTrigger) (now : Int) : Except FleetError Trigger := do
  validateName "trigger" input.name
  let acceptedKinds ← normalizeKinds input.acceptedKinds
  pure {
    id := id
    name := input.name
    channelId := input.channelId
    senderId := input.senderId
    acceptedKinds := acceptedKinds
    state := .active
    createdAtMs := now
    updatedAtMs := now
    lastFired := none
    acceptedOccurrences := 0 }

/-- Registers a trigger. -/
def registerTrigger (triggerId : String) (input : RegisterTrigger) (now : Int) : Tx Trigger := do
  let trigger ← check (newTrigger triggerId input now)
  let s ← read id
  ensure (∀ t ∈ s.triggers, t.id ≠ trigger.id ∧ t.name ≠ trigger.name)
    (.conflict "trigger name already exists")
  ensure ((∃ c ∈ s.channels, c.id = trigger.channelId) ∧ ∃ a ∈ s.agents, a.id = trigger.senderId)
    (.database "FOREIGN KEY constraint failed")
  write fun s => ((), { s with triggers := s.triggers ++ [trigger] })
  pure trigger

/-- Reads a registration. -/
def triggerInTransaction (triggerId : String) : Tx Trigger := do
  let triggers ← read (·.triggers)
  require (triggers.find? fun t => t.id = triggerId) (.notFound "trigger" triggerId)

/-- Moves an active registration to retired; one already at rest keeps its reason. -/
def retireTriggerRow (triggerId reason : String) (now : Int) : Tx Unit :=
  write fun s => ((), { s with
    triggers := updateWhere (fun t => decide (t.id = triggerId) && decide (t.state = .active))
      ({ · with state := .retired now reason, updatedAtMs := now }) s.triggers })

/-- Retires a trigger. -/
def retireTrigger (triggerId reason : String) (now : Int) : Tx Trigger := do
  ensure (¬ (isBlank reason = true ∨ byteLen reason > maxRetirementReasonBytes))
    (.invalid s!"a retirement reason must contain between 1 and {maxRetirementReasonBytes} bytes")
  retireTriggerRow triggerId reason now
  triggerInTransaction triggerId

/-- Records that an active trigger created work, and reports whether it did. -/
def recordTriggerOccurrence (triggerId occurrenceId : String) (now : Int) : Tx Bool :=
  write fun s =>
    let selected := fun t : Trigger => decide (t.id = triggerId) && decide (t.state = .active)
    (decide (0 < s.triggers.countP selected), { s with
      triggers := updateWhere selected
        (fun t => { t with
          lastFired := some (occurrenceId, now)
          updatedAtMs := now
          acceptedOccurrences := t.acceptedOccurrences + 1 }) s.triggers })

/-- Derives the durable key from the trigger and the occurrence together. -/
def durableKey [Sha256] (triggerId occurrenceId : String) : String :=
  s!"trigger:{triggerId}:occurrence:{Sha256.hexDigest (utf8Bytes occurrenceId)}"

/-- The bounds of one firing. -/
def validateOccurrence [SerdeJson Json] (occurrence : TriggerOccurrence Json) :
    Except FleetError Unit :=
  if isBlank occurrence.occurrenceId ∨ byteLen occurrence.occurrenceId > maxOccurrenceIdBytes then
    .error (.invalid s!"occurrence_id must contain between 1 and {maxOccurrenceIdBytes} bytes")
  else if isBlank occurrence.recipientId ∨ byteLen occurrence.recipientId > maxAgentIdBytes then
    .error (.invalid s!"recipient_id must contain between 1 and {maxAgentIdBytes} bytes")
  else if byteLen (SerdeJson.toString occurrence.payload) > maxPayloadBytes then
    .error (.invalid s!"payload must not exceed {maxPayloadBytes} encoded bytes")
  else .ok ()

/-- The append a firing asks for. -/
def occurrenceInput [Sha256] (trigger : Trigger) (triggerId : String)
    (occurrence : TriggerOccurrence Json) : CreateMessage Json where
  senderId := trigger.senderId
  idempotencyKey := some (durableKey triggerId occurrence.occurrenceId)
  recipientId := some occurrence.recipientId
  kind := occurrence.kind
  payload := occurrence.payload
  correlationId := none
  causationId := none

/-- An occurrence that created work is recorded on its trigger, which has to be active still. -/
def recordCreated (triggerId occurrenceId : String) (created : Bool) (now : Int) : Tx Unit :=
  if created then do
    let recorded ← recordTriggerOccurrence triggerId occurrenceId now
    ensure (recorded = true) (.conflict s!"trigger {triggerId} was retired while it was firing")
  else pure ()

/-- Creates the work one occurrence asks for, under the trigger's registration. -/
def fire [DecidableEq Json] [SerdeJson Json] [Sha256] (triggerId : String)
    (occurrence : TriggerOccurrence Json) (messageId : String) (messageNow now : Int) :
    Tx TriggerFired := do
  check (validateOccurrence occurrence)
  let trigger ← triggerInTransaction triggerId
  ensure (trigger.state = .active)
    (.conflict s!"trigger {triggerId} is retired and may not create work")
  ensure (occurrence.kind ∈ trigger.acceptedKinds)
    (.forbidden s!"trigger {trigger.name} did not declare the message kind {occurrence.kind}")
  ensure (occurrence.recipientId ≠ trigger.senderId)
    (.invalid "recipient_id must identify a peer, not the trigger's own sender")
  let appended ← appendMessageInTransaction trigger.channelId
    (occurrenceInput trigger triggerId occurrence) messageId messageNow
  recordCreated triggerId occurrence.occurrenceId appended.created now
  pure { triggerId, occurrenceId := occurrence.occurrenceId, messageId := appended.message.id,
         created := appended.created }

end Fleetd
