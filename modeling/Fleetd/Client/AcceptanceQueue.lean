import Mathlib.Logic.Function.Basic
import Fleetd.Kernel.Message

/-!
# Durable acceptance in the stream clients

The lane that both stream clients put between their socket and their consumer. Frames wait
in a bounded queue, one message at a time is with the consumer, and only a resolved consumer
advances the replay cursor. The lane classifies a message when its turn comes, not when it
arrives.
-/

namespace Fleetd

def maxRetainedIdentities : Nat := 4096

/-- The largest integer a number of the client represents exactly. -/
def maxSafeInteger : Int := 9007199254740991

def isSafeInteger (value : Int) : Bool :=
  decide (-maxSafeInteger ≤ value) && decide (value ≤ maxSafeInteger)

/-- The identities of accepted messages, in both directions, and their order of acceptance. -/
structure AcceptedIdentityIndex where
  bySequence : Nat → Option String
  byId : String → Option Nat
  order : List Nat

def createAcceptedIdentityIndex : AcceptedIdentityIndex := ⟨fun _ => none, fun _ => none, []⟩

/-- A message envelope as it is on the wire. -/
structure MessageEnvelope (Json : Type) where
  seq : Int
  id : String
  channelId : String
  senderId : String
  recipientId : Option String
  kind : String
  payload : Json
  correlationId : Option String
  causationId : Option String
  createdAtMs : Int
  deriving DecidableEq, Repr

variable {Json : Type}

/-- Validates the fixed envelope while retaining its opaque kind and payload. -/
def decodeChannelMessage (value : MessageEnvelope Json) (channelId : String) :
    Option (Message Json) :=
  if isSafeInteger value.seq = true ∧ 0 < value.seq ∧ value.id ≠ "" ∧ value.channelId = channelId ∧
      value.senderId ≠ "" ∧ value.kind ≠ "" ∧ isSafeInteger value.createdAtMs = true then
    some {
      seq := value.seq.toNat
      id := value.id
      channelId := value.channelId
      senderId := value.senderId
      recipientId := value.recipientId
      kind := value.kind
      payload := value.payload
      correlationId := value.correlationId
      causationId := value.causationId
      createdAtMs := value.createdAtMs }
  else none

/-- How a message relates to what was accepted. -/
inductive Duplicate
  | new
  | duplicate
  | conflict
  deriving DecidableEq, Repr

/-- Compares a message with the accepted identities and the cursor. -/
def classifyDuplicate (message : Message Json) (cursor : Nat) (identities : AcceptedIdentityIndex) :
    Duplicate :=
  if (identities.byId message.id).any (fun seq => decide (seq ≠ message.seq)) then .conflict
  else if (identities.bySequence message.seq).any (fun id => decide (id ≠ message.id)) then .conflict
  else if message.seq ≤ cursor then .duplicate
  else .new

/-- Remembers an accepted message and forgets the oldest one past the bound. -/
def rememberIdentity (message : Message Json) (identities : AcceptedIdentityIndex) :
    AcceptedIdentityIndex :=
  let bySequence := Function.update identities.bySequence message.seq (some message.id)
  let byId := Function.update identities.byId message.id (some message.seq)
  let order := identities.order ++ [message.seq]
  match order with
  | expired :: rest =>
    if order.length ≤ maxRetainedIdentities then ⟨bySequence, byId, order⟩
    else
      ⟨Function.update bySequence expired none,
        match bySequence expired with
        | some id => Function.update byId id none
        | none => byId,
        rest⟩
  | [] => ⟨bySequence, byId, order⟩

/-- The queue of frames behind one asynchronous acceptance. -/
structure MessageAcceptanceQueue (Json : Type) where
  pending : List (Message Json)
  accepting : Option (Message Json)
  terminal : Bool
  deriving DecidableEq, Repr

def MessageAcceptanceQueue.empty : MessageAcceptanceQueue Json := ⟨[], none, false⟩

def MessageAcceptanceQueue.busy (lane : MessageAcceptanceQueue Json) : Bool := lane.accepting.isSome

def MessageAcceptanceQueue.clear (lane : MessageAcceptanceQueue Json) : MessageAcceptanceQueue Json :=
  { lane with pending := [] }

def MessageAcceptanceQueue.stop (lane : MessageAcceptanceQueue Json) : MessageAcceptanceQueue Json :=
  { lane with pending := [], terminal := true }

/-- Where the drain loop stops: nothing is left, a message goes to the consumer, or a message
contradicts an accepted one. -/
inductive Drained (Json : Type)
  | idle
  | offered (message : Message Json) (rest : List (Message Json))
  | conflict
  deriving DecidableEq, Repr

/-- The drain loop up to its next await. Duplicates are dropped. -/
def drainPending (cursor : Nat) (identities : AcceptedIdentityIndex) :
    List (Message Json) → Drained Json
  | [] => .idle
  | message :: rest =>
    match classifyDuplicate message cursor identities with
    | .conflict => .conflict
    | .duplicate => drainPending cursor identities rest
    | .new => .offered message rest

end Fleetd
