import Fleetd.Relational.Transaction

/-!
# The durable tables

The rows of the control database, with the columns that the operations read or write.
A column group that a `CHECK` constraint ties to the state column is carried by that
state's constructor: a leased delivery has its token and expiry, an armed invocation has
its arming time, a retired binding has its reason. A row that the schema would refuse
can therefore not be written down.

Clock columns are integers in milliseconds. Sequence numbers, attempts, generations and
epochs are natural numbers; the conversions that can overflow are checked where the code
checks them.
-/

namespace Fleetd

/-- Errors of the domain and persistence boundary, with the text each one carries. -/
inductive FleetError
  | notFound (entity id : String)
  | notMember (agentId channelId : String)
  | invalid (message : String)
  | forbidden (message : String)
  | conflict (message : String)
  | leaseConflict (message : String)
  | database (message : String)
  | serialization (message : String)
  deriving DecidableEq, Repr

/-- Whether a channel is shared or belongs to one exact pair. -/
inductive ConversationKind
  | shared
  | direct
  deriving DecidableEq, Repr

/-- Whether a member receives durable inbox deliveries. -/
inductive MembershipDeliveryMode
  | inbox
  | streamOnly
  deriving DecidableEq, Repr

/-- A row of `agents`. -/
structure Agent where
  id : String
  name : String
  createdAtMs : Int
  deriving DecidableEq, Repr

/-- A row of `channels`. -/
structure Channel where
  id : String
  name : String
  kind : ConversationKind
  directPairKey : Option String
  createdAtMs : Int
  archivedAtMs : Option Int
  deriving DecidableEq, Repr

/-- A row of `channel_members`. -/
structure ChannelMember where
  channelId : String
  agentId : String
  joinedAtMs : Int
  deliveryMode : MembershipDeliveryMode
  readThroughSeq : Nat
  deriving DecidableEq, Repr

/-- A row of `messages`. -/
structure MessageRow where
  seq : Nat
  id : String
  channelId : String
  senderId : String
  idempotencyKey : Option String
  recipientId : Option String
  kind : String
  payloadJson : String
  correlationId : Option String
  causationId : Option String
  createdAtMs : Int
  deriving DecidableEq, Repr

/-- Whether a trigger may still create work, with the evidence of its retirement. -/
inductive TriggerState
  | active
  | retired (retiredAtMs : Int) (retiredReason : String)
  deriving DecidableEq, Repr

/-- A row of `triggers`. -/
structure Trigger where
  id : String
  name : String
  channelId : String
  senderId : String
  acceptedKinds : List String
  state : TriggerState
  createdAtMs : Int
  updatedAtMs : Int
  lastFired : Option (String × Int)
  acceptedOccurrences : Nat
  deriving DecidableEq, Repr

/-- How a lease ended, as remembered for replays. -/
inductive Settlement
  | acknowledged
  | retry
  | blocked
  deriving DecidableEq, Repr

/-- The state column of a delivery with the columns its `CHECK` constraints tie to it. -/
inductive DeliveryState
  | pending
  | leased (leaseToken : String) (leaseExpiresAtMs : Int)
  | blocked
  | acknowledged (acknowledgedAtMs : Int)
  | dead
  deriving DecidableEq, Repr

/-- A row of `agent_deliveries`. -/
structure AgentDelivery where
  messageSeq : Nat
  agentId : String
  state : DeliveryState
  attempt : Nat
  availableAtMs : Int
  lastError : Option String
  lastSettledLeaseToken : Option String
  lastSettlement : Option Settlement
  createdAtMs : Int
  deriving DecidableEq, Repr

/-- An operator's decision about a blocked delivery. -/
inductive BlockResolution
  | requeue
  | abandon
  deriving DecidableEq, Repr

/-- The resolution columns of a block, written together and once. -/
structure ResolvedBlock where
  resolvedAtMs : Int
  resolution : BlockResolution
  resolutionNote : Option String
  retryAfterMs : Nat
  deriving DecidableEq, Repr

/-- A row of `delivery_blocks`. -/
structure DeliveryBlock where
  id : Nat
  messageSeq : Nat
  agentId : String
  attempt : Nat
  leaseToken : String
  reason : String
  blockedAtMs : Int
  resolved : Option ResolvedBlock
  deriving DecidableEq, Repr

/-- What is durably believed about the effect of an attempt. -/
inductive ExecutionCertainty
  | notStarted
  | outcomeKnown
  | outcomeUnknown
  deriving DecidableEq, Repr

/-- Why an invocation ended. Only a completed one names its result message. -/
inductive TerminalReason
  | completed (resultMessageSeq : Nat)
  | acknowledged
  | retry
  | blocked
  | reservationExpiredBeforeDispatch
  | leaseExpiredAfterDispatchArmed
  deriving DecidableEq, Repr

/-- The state column of an invocation with the columns its `CHECK` constraints tie to it. -/
inductive InvocationState
  | reserved
  | dispatchArmed (dispatchArmedAtMs : Int)
  | terminal (dispatchArmedAtMs : Option Int) (terminalAtMs : Int)
      (executionCertainty : ExecutionCertainty) (terminalReason : TerminalReason)
  deriving DecidableEq, Repr

/-- A row of `invocations`. -/
structure InvocationRow where
  id : String
  messageSeq : Nat
  agentId : String
  deliveryAttempt : Nat
  leaseToken : String
  leaseExpiresAtMs : Int
  fenceToken : String
  state : InvocationState
  reservedAtMs : Int
  deriving DecidableEq, Repr

/-- What a harness claims about the durability of its session. -/
inductive SessionPersistence
  | confirmed
  | runtimeClaimed
  | unknown
  deriving DecidableEq, Repr

/-- The state column of a binding with the columns its `CHECK` constraint ties to it. -/
inductive SessionBindingState
  | opening
  | ready (sessionRef : String) (openedAtMs : Int)
  | active (sessionRef : String) (openedAtMs : Int) (activeInvocationId : String)
  | uncertain (sessionRef : String) (openedAtMs : Int) (activeInvocationId : String)
      (uncertainReason : String)
  | retired (sessionRef : Option String) (openedAtMs : Option Int)
      (uncertainReason : Option String) (retiredReason : String) (retiredAtMs : Int)
  deriving DecidableEq, Repr

/-- A row of `session_bindings`. -/
structure SessionBinding where
  bindingId : String
  bindingGeneration : Nat
  agentId : String
  lanePolicy : String
  laneKey : String
  ownerEpoch : Nat
  ownerInstanceId : String
  profileDigest : String
  compatibilityDigest : String
  workingDirectory : String
  additionalDirectories : List String
  state : SessionBindingState
  lastQuiescentInvocationId : Option String
  sessionPersistence : Option SessionPersistence
  createdAtMs : Int
  updatedAtMs : Int
  deriving DecidableEq, Repr

/-- The state column of a turn with the columns its `CHECK` constraint ties to it. -/
inductive TurnState
  | active
  | quiescent (terminalAtMs : Int) (sessionPersistence : SessionPersistence)
  | uncertain (terminalAtMs : Int) (uncertainReason : String)
  deriving DecidableEq, Repr

/-- A row of `session_binding_turns`. -/
structure SessionBindingTurn where
  invocationId : String
  bindingId : String
  bindingGeneration : Nat
  ownerEpoch : Nat
  state : TurnState
  startedAtMs : Int
  deriving DecidableEq, Repr

/-- What a worker reported when it retired a plugin generation. -/
structure StopEvidence where
  stoppedAtMs : Int
  stopDisposition : String
  stopReason : String
  shutdownOutcome : String
  shutdownExitCode : Option Int
  deriving DecidableEq, Repr

/-- A row of `plugin_generations`. A generation is stopped once it has its evidence. -/
structure PluginGeneration where
  id : String
  agentId : String
  startedAtMs : Int
  lastHeartbeatAtMs : Int
  stopped : Option StopEvidence
  deriving DecidableEq, Repr

/-- The fixed event counters of an observation. -/
structure EventCounts where
  prompt : Nat := 0
  assistant : Nat := 0
  reasoning : Nat := 0
  tool : Nat := 0
  plan : Nat := 0
  usage : Nat := 0
  metadata : Nat := 0
  permission : Nat := 0
  unknown : Nat := 0
  deriving DecidableEq, Repr

/-- The terminal columns of an observation, written together and once. -/
structure TerminalEvidence where
  terminalAtMs : Int
  stopReason : String
  runtimeStopReason : Option String
  executionCertainty : ExecutionCertainty
  sessionQuiescent : Bool
  sessionPersistence : SessionPersistence
  usageJson : String
  deriving DecidableEq, Repr

/-- A row of `invocation_observations`. -/
structure InvocationObservation where
  invocationId : String
  generationId : String
  bindingId : String
  bindingGeneration : Nat
  ownerEpoch : Nat
  startedAtMs : Int
  updatedAtMs : Int
  firstEventAtMs : Option Int
  lastEventAtMs : Option Int
  eventCount : Nat
  observedPayloadBytes : Nat
  lastEventSeq : Nat
  lastEventDigest : Option String
  eventChainDigest : Option String
  counts : EventCounts
  terminal : Option TerminalEvidence
  deriving DecidableEq, Repr

/-- The tables that a delivery attempt and the session under it are settled in, with the
counter behind the autoincremented block identifier. -/
structure Ledger where
  agentDeliveries : List AgentDelivery
  invocations : List InvocationRow
  deliveryBlocks : List DeliveryBlock
  deliveryBlockSequence : Nat
  sessionBindings : List SessionBinding
  sessionBindingTurns : List SessionBindingTurn
  deriving DecidableEq, Repr

/-- The whole database. -/
structure Store extends Ledger where
  agents : List Agent
  channels : List Channel
  channelMembers : List ChannelMember
  messages : List MessageRow
  messageSequence : Nat
  triggers : List Trigger
  pluginGenerations : List PluginGeneration
  invocationObservations : List InvocationObservation
  deriving DecidableEq, Repr

/-- A freshly migrated database. -/
def Store.empty : Store where
  agentDeliveries := []
  invocations := []
  deliveryBlocks := []
  deliveryBlockSequence := 0
  sessionBindings := []
  sessionBindingTurns := []
  agents := []
  channels := []
  channelMembers := []
  messages := []
  messageSequence := 0
  triggers := []
  pluginGenerations := []
  invocationObservations := []

/-- A transaction against the database. -/
abbrev Tx := Relational.Transaction Store FleetError

/-! ## Keys and state columns -/

/-- The primary key of a delivery. -/
def AgentDelivery.key (d : AgentDelivery) : Nat × String := (d.messageSeq, d.agentId)

/-- The delivery an invocation attempts. -/
def InvocationRow.deliveryKey (i : InvocationRow) : Nat × String := (i.messageSeq, i.agentId)

/-- The delivery a block is evidence about. -/
def DeliveryBlock.deliveryKey (b : DeliveryBlock) : Nat × String := (b.messageSeq, b.agentId)

/-- The primary key of a binding. -/
def SessionBinding.key (b : SessionBinding) : String × Nat := (b.bindingId, b.bindingGeneration)

/-- The binding generation a turn ran under. -/
def SessionBindingTurn.bindingKey (t : SessionBindingTurn) : String × Nat :=
  (t.bindingId, t.bindingGeneration)

/-- The lane a binding belongs to. -/
def SessionBinding.lane (b : SessionBinding) : String × String × String :=
  (b.agentId, b.lanePolicy, b.laneKey)

/-- Whether an invocation has ended. -/
def InvocationState.isTerminal : InvocationState → Bool
  | .terminal .. => true
  | _ => false

/-- Whether an invocation was armed and has not ended. -/
def InvocationState.isArmed : InvocationState → Bool
  | .dispatchArmed _ => true
  | _ => false

/-- The `dispatch_armed_at_ms` column. -/
def InvocationState.dispatchArmedAtMs : InvocationState → Option Int
  | .reserved => none
  | .dispatchArmed at_ => some at_
  | .terminal at_ _ _ _ => at_

/-- The `lease_token` column. -/
def DeliveryState.leaseToken : DeliveryState → Option String
  | .leased token _ => some token
  | _ => none

/-- The `lease_expires_at_ms` column. -/
def DeliveryState.leaseExpiresAtMs : DeliveryState → Option Int
  | .leased _ leaseExpiresAtMs => some leaseExpiresAtMs
  | _ => none

/-- The `session_ref` column. -/
def SessionBindingState.sessionRef : SessionBindingState → Option String
  | .opening => none
  | .ready ref _ => some ref
  | .active ref _ _ => some ref
  | .uncertain ref _ _ _ => some ref
  | .retired ref _ _ _ _ => ref

/-- The `opened_at_ms` column. -/
def SessionBindingState.openedAtMs : SessionBindingState → Option Int
  | .opening => none
  | .ready _ opened => some opened
  | .active _ opened _ => some opened
  | .uncertain _ opened _ _ => some opened
  | .retired _ opened _ _ _ => opened

/-- The `active_invocation_id` column. -/
def SessionBindingState.activeInvocationId : SessionBindingState → Option String
  | .active _ _ id => some id
  | .uncertain _ _ id _ => some id
  | _ => none

/-- The `uncertain_reason` column. -/
def SessionBindingState.uncertainReason : SessionBindingState → Option String
  | .uncertain _ _ _ reason => some reason
  | .retired _ _ reason _ _ => reason
  | _ => none

/-- The `retired_reason` column. -/
def SessionBindingState.retiredReason : SessionBindingState → Option String
  | .retired _ _ _ reason _ => some reason
  | _ => none

/-- Whether a binding generation has been retired. -/
def SessionBindingState.isRetired : SessionBindingState → Bool
  | .retired .. => true
  | _ => false

/-- Whether a binding generation has a turn in flight. -/
def SessionBindingState.isActive : SessionBindingState → Bool
  | .active .. => true
  | _ => false

/-- Whether a binding generation is fenced as uncertain. -/
def SessionBindingState.isUncertain : SessionBindingState → Bool
  | .uncertain .. => true
  | _ => false

/-- The stored name of a binding state. -/
def SessionBindingState.asStr : SessionBindingState → String
  | .opening => "opening"
  | .ready .. => "ready"
  | .active .. => "active"
  | .uncertain .. => "uncertain"
  | .retired .. => "retired"

end Fleetd
