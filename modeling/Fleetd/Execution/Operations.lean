import Fleetd.Execution.Invocation

/-!
# Durable observations of workers and turns

A plugin generation has a heartbeat clock that every durable change advances and that
freezes when the generation stops. An observation folds the events of one turn into
counters and a chain digest; its clock freezes when the terminal summary is recorded. Both
tables are read in pages addressed by a change clock and an identifier.
-/

namespace Fleetd

open Relational Relational.Transaction

variable {Json : Type}

def maxEvidencePage : Nat := 500
def maxEvidenceJsonBytes : Nat := 1024 * 1024

/-! ## Evidence pages -/

/-- The position of one evidence row. -/
structure EvidenceCursor where
  changedAtMs : Int
  id : String
  deriving DecidableEq, Repr

/-- The direction of a walk. -/
inductive EvidenceOrder
  | newest
  | oldest
  deriving DecidableEq, Repr

/-- Which page of one evidence listing to read, and which way to walk. -/
structure EvidencePage where
  agentId : Option String
  after : Option EvidenceCursor
  limit : Nat
  settled : Bool
  order : EvidenceOrder
  deriving DecidableEq, Repr

/-- Checks the cursor and returns the page size actually readable. -/
def EvidencePage.validate (page : EvidencePage) : Except FleetError Nat :=
  if page.after.any (fun after => decide (after.changedAtMs < 0)) then
    .error (.invalid "evidence cursor must not be negative")
  else .ok (max 1 (min page.limit maxEvidencePage))

/-- Where one evidence table keeps the columns a page is addressed by. -/
structure EvidenceColumns (α : Type) where
  agent : α → Option String
  changed : α → Int
  id : α → String
  settled : α → Bool

/-- The position a row has in the listing. -/
def EvidenceColumns.cursor {α : Type} (columns : EvidenceColumns α) (row : α) : EvidenceCursor :=
  ⟨columns.changed row, columns.id row⟩

/-- The comparison of two positions, clock first and identifier second. -/
def EvidenceCursor.before (a b : EvidenceCursor) : Bool :=
  decide (a.changedAtMs < b.changedAtMs) ||
    (decide (a.changedAtMs = b.changedAtMs) && decide (a.id < b.id))

/-- Whether a position comes strictly after another in the direction of a walk. -/
def EvidenceOrder.follows (order : EvidenceOrder) (a b : EvidenceCursor) : Bool :=
  match order with
  | .newest => a.before b
  | .oldest => b.before a

/-- The rows of one page: filtered, past the cursor, in order, and bounded. -/
def evidenceRows {α : Type} (columns : EvidenceColumns α) (page : EvidencePage) (limit : Nat)
    (rows : List α) : List α :=
  ((rows.filter fun row =>
      (match page.agentId with
        | some agentId => decide (columns.agent row = some agentId)
        | none => true) &&
      (!page.settled || columns.settled row) &&
      (match page.after with
        | some after => page.order.follows (columns.cursor row) after
        | none => true)).insertionSort
    (fun a b => ¬ page.order.follows (columns.cursor a) (columns.cursor b) = true)).take limit

/-- The page columns of `plugin_generations`. -/
def generationColumns : EvidenceColumns PluginGeneration where
  agent g := some g.agentId
  changed g := g.lastHeartbeatAtMs
  id g := g.id
  settled g := g.stopped.isSome

/-- The page columns of `invocation_observations`, whose agent is the invocation's. -/
def observationColumns (invocations : List InvocationRow) :
    EvidenceColumns InvocationObservation where
  agent o := (invocations.find? fun i => i.id = o.invocationId).map (·.agentId)
  changed o := o.updatedAtMs
  id o := o.invocationId
  settled o := o.terminal.isSome

/-- Reads one cursor-addressed page of durable generation records. -/
def listPluginGenerations (page : EvidencePage) : Tx (List PluginGeneration) := do
  let limit ← check page.validate
  read fun s => evidenceRows generationColumns page limit s.pluginGenerations

/-- Reads one cursor-addressed page of bounded invocation observations. -/
def listInvocationObservations (page : EvidencePage) : Tx (List InvocationObservation) := do
  let limit ← check page.validate
  read fun s => evidenceRows (observationColumns s.invocations) page limit s.invocationObservations

/-! ## Plugin generations -/

/-- The evidence required before a worker may route work to a generation, with its JSON
columns already encoded. -/
structure NewPluginGeneration where
  id : String
  agentId : String
  interfaceCount : Nat
  interfacesJson : String
  agentCapabilitiesJson : String
  rawInitializeResultJson : String
  compatibilityDigest : String
  heartbeatIntervalMs : Nat
  maxFrameBytes : Nat
  maxConcurrentTurns : Nat
  acpProtocolVersion : Nat
  deriving DecidableEq, Repr

/-- The evidence attached when a worker retires a generation. -/
structure StopPluginGeneration where
  disposition : String
  reason : String
  shutdownOutcome : String
  shutdownExitCode : Option Int
  deriving DecidableEq, Repr

/-- The identity of a generation is complete. -/
def validateGeneration (generation : NewPluginGeneration) : Except FleetError Unit :=
  if isBlank generation.id ∨ isBlank generation.agentId ∨ isBlank generation.compatibilityDigest ∨
      generation.heartbeatIntervalMs = 0 ∨ generation.interfaceCount = 0 then
    .error (.invalid
      "generation identity, agent, interfaces, compatibility, and poll interval are required")
  else .ok ()

/-- An encoded value that is bounded. -/
def boundedJson (encoded label : String) : Except FleetError String :=
  if byteLen encoded > maxEvidenceJsonBytes then
    .error (.invalid s!"{label} exceeds {maxEvidenceJsonBytes} bytes")
  else .ok encoded

/-- One generation by its identifier. -/
def pluginGeneration (generationId : String) : Tx PluginGeneration := do
  let generations ← read (·.pluginGenerations)
  require (generations.find? fun g => g.id = generationId)
    (.notFound "plugin generation" generationId)

/-- Persists the identity of a ready plugin generation before work routes through it. -/
def recordPluginGeneration (generation : NewPluginGeneration) (now : Int) :
    Tx PluginGeneration := do
  check (validateGeneration generation)
  let _ ← check (boundedJson generation.interfacesJson "plugin interfaces")
  let _ ← check (boundedJson generation.agentCapabilitiesJson "agent capabilities")
  let _ ← check (boundedJson generation.rawInitializeResultJson "raw initialize result")
  let _ ← check (tryFromU64 generation.heartbeatIntervalMs "heartbeat interval is too large")
  let _ ← check (tryFromU64 generation.maxFrameBytes "maximum frame size is too large")
  ensure (0 < generation.maxFrameBytes ∧ 0 < generation.maxConcurrentTurns ∧
      0 < generation.acpProtocolVersion)
    (.database "CHECK constraint failed: plugin_generations")
  let generations ← read (·.pluginGenerations)
  ensure (∀ g ∈ generations, g.id ≠ generation.id)
    (.conflict s!"plugin generation already exists: {generation.id}")
  ensureAgent generation.agentId
  write fun s => ((), { s with
    pluginGenerations := s.pluginGenerations ++ [{
      id := generation.id
      agentId := generation.agentId
      startedAtMs := now
      lastHeartbeatAtMs := now
      stopped := none }] })
  pluginGeneration generation.id

/-- Whether a row is the active generation of an identifier. -/
def activeGeneration (generationId : String) (g : PluginGeneration) : Bool :=
  decide (g.id = generationId) && g.stopped.isNone

/-- The heartbeat of an active generation; a stopped one keeps its clock. -/
def touchGeneration (generationId : String) (now : Int) : Tx Nat :=
  write fun s => (s.pluginGenerations.countP (activeGeneration generationId), { s with
    pluginGenerations := updateWhere (activeGeneration generationId)
      ({ · with lastHeartbeatAtMs := now }) s.pluginGenerations })

/-- Advances liveness for one active generation. -/
def heartbeatPluginGeneration (generationId : String) (now : Int) : Tx Unit := do
  let rows ← touchGeneration generationId now
  ensure (rows = 1) (.conflict s!"plugin generation is not active: {generationId}")

/-- A stop reason is not blank and bounded. -/
def validateReason (reason : String) : Except FleetError Unit :=
  if isBlank reason ∨ byteLen reason > maxReasonBytes then
    .error (.invalid s!"generation stop reason must contain between 1 and {maxReasonBytes} bytes")
  else .ok ()

/-- The stored evidence of a stop. -/
def StopPluginGeneration.evidence (stop : StopPluginGeneration) (now : Int) : StopEvidence where
  stoppedAtMs := now
  stopDisposition := stop.disposition
  stopReason := stop.reason
  shutdownOutcome := stop.shutdownOutcome
  shutdownExitCode := stop.shutdownExitCode

/-- Durably retires one generation. An exact replay is idempotent. -/
def stopPluginGeneration (generationId : String) (stop : StopPluginGeneration) (now : Int) :
    Tx PluginGeneration := do
  check (validateReason stop.reason)
  let rows ← write fun s => (s.pluginGenerations.countP (activeGeneration generationId), { s with
    pluginGenerations := updateWhere (activeGeneration generationId)
      ({ · with lastHeartbeatAtMs := now, stopped := some (stop.evidence now) })
      s.pluginGenerations })
  if rows = 0 then
    let existing ← pluginGeneration generationId
    ensure (existing.stopped.any (fun stored => decide
        (stored = stop.evidence stored.stoppedAtMs)) = true)
      (.conflict s!"plugin generation already stopped with different evidence: {generationId}")
    pure existing
  else pluginGeneration generationId

/-! ## Event evidence -/

/-- The vocabulary of event counters. -/
inductive EventClass
  | prompt
  | assistant
  | reasoning
  | tool
  | plan
  | usage
  | metadata
  | permission
  | unknown
  deriving DecidableEq, Repr

/-- Reduces one wire classification to the counter it advances. -/
def EventClass.parse (classification : String) : EventClass :=
  match classification with
  | "user_message_content" => .prompt
  | "agent_message_content" => .assistant
  | "reasoning_content" => .reasoning
  | "tool_call" => .tool
  | "tool_call_update" => .tool
  | "plan_update" => .plan
  | "usage" => .usage
  | "metadata" => .metadata
  | "permission_request" => .permission
  | _ => .unknown

/-- The name of a counter. -/
def EventClass.asStr : EventClass → String
  | .prompt => "prompt"
  | .assistant => "assistant"
  | .reasoning => "reasoning"
  | .tool => "tool"
  | .plan => "plan"
  | .usage => "usage"
  | .metadata => "metadata"
  | .permission => "permission"
  | .unknown => "unknown"

/-- The increment of one event. -/
def eventIncrements (classification : String) : EventCounts :=
  match EventClass.parse classification with
  | .prompt => { prompt := 1 }
  | .assistant => { assistant := 1 }
  | .reasoning => { reasoning := 1 }
  | .tool => { tool := 1 }
  | .plan => { plan := 1 }
  | .usage => { usage := 1 }
  | .metadata => { metadata := 1 }
  | .permission => { permission := 1 }
  | .unknown => { unknown := 1 }

/-- Counters advanced by increments. -/
def EventCounts.add (a b : EventCounts) : EventCounts where
  prompt := a.prompt + b.prompt
  assistant := a.assistant + b.assistant
  reasoning := a.reasoning + b.reasoning
  tool := a.tool + b.tool
  plan := a.plan + b.plan
  usage := a.usage + b.usage
  metadata := a.metadata + b.metadata
  permission := a.permission + b.permission
  unknown := a.unknown + b.unknown

/-- The eight bytes of a signed 64-bit value, most significant first. -/
def toBeBytes (value : Int) : List UInt8 :=
  let bits := (value % 18446744073709551616).toNat
  [UInt8.ofNat (bits / 72057594037927936), UInt8.ofNat (bits / 281474976710656),
    UInt8.ofNat (bits / 1099511627776), UInt8.ofNat (bits / 4294967296),
    UInt8.ofNat (bits / 16777216), UInt8.ofNat (bits / 65536), UInt8.ofNat (bits / 256),
    UInt8.ofNat bits]

/-- The bytes hashed for one event. -/
def eventPreimage (eventSeq : Nat) (observedAtMs : Int) (classification : String)
    (raw : List UInt8) : List UInt8 :=
  toBeBytes eventSeq ++ toBeBytes observedAtMs ++ utf8Bytes classification ++ [0] ++ raw

/-- The bytes hashed for one link of the chain. -/
def chainPreimage (previous : Option String) (event : String) : List UInt8 :=
  utf8Bytes (previous.getD "sha256:genesis") ++ [0] ++ utf8Bytes event

/-- A digest as it is stored. -/
def sha256Digest [Sha256] (preimage : List UInt8) : String :=
  "sha256:" ++ Sha256.hexDigest preimage

/-- The digest of one event. -/
def eventDigest [Sha256] (eventSeq : Nat) (observedAtMs : Int) (classification : String)
    (raw : List UInt8) : String :=
  sha256Digest (eventPreimage eventSeq observedAtMs classification raw)

/-- The digest of the chain up to and including one event. -/
def chainDigest [Sha256] (previous : Option String) (event : String) : String :=
  sha256Digest (chainPreimage previous event)

/-- The columns of one folded event. -/
structure EventFold where
  generationId : String
  invocationId : String
  previousSeq : Nat
  eventSeq : Nat
  observedAtMs : Int
  payloadBytes : Nat
  eventDigest : String
  chainDigest : String
  counts : EventCounts
  deriving DecidableEq, Repr

/-- The row with one more event folded into it. -/
def EventFold.columns (event : EventFold) (now : Int) (o : InvocationObservation) :
    InvocationObservation :=
  { o with
    updatedAtMs := now
    firstEventAtMs := o.firstEventAtMs <|> some event.observedAtMs
    lastEventAtMs := some event.observedAtMs
    eventCount := o.eventCount + 1
    observedPayloadBytes := o.observedPayloadBytes + event.payloadBytes
    lastEventSeq := event.eventSeq
    lastEventDigest := some event.eventDigest
    eventChainDigest := some event.chainDigest
    counts := o.counts.add event.counts }

/-- Folds one event into its row. -/
def applyEventFold (event : EventFold) (now : Int) : Tx Unit := do
  let rows ← write fun s =>
    let selected := fun o : InvocationObservation =>
      decide (o.invocationId = event.invocationId) &&
        decide (o.generationId = event.generationId) && decide (o.lastEventSeq = event.previousSeq)
    (s.invocationObservations.countP selected, { s with
      invocationObservations := updateWhere selected (event.columns now) s.invocationObservations })
  ensure (rows = 1) (.conflict "invocation observation changed concurrently")
  let _ ← touchGeneration event.generationId now
  pure ()

/-- The observation of an invocation under a generation. -/
def observationOf (invocationId generationId : String) (s : Store) : Option InvocationObservation :=
  s.invocationObservations.find? fun o =>
    o.invocationId = invocationId ∧ o.generationId = generationId

/-- `i64::saturating_add(1)` on a stored sequence. -/
def nextSeq (previousSeq : Nat) : Nat := min (previousSeq + 1) i64Max

/-- Folds one exact harness update into the invocation's counters and chain digest. -/
def recordInvocationEvent [SerdeJson Json] [Sha256] (generationId invocationId : String)
    (eventSeq : Nat) (observedAtMs : Int) (classification : String) (raw : Json) (now : Int) :
    Tx Unit := do
  ensure (¬ (eventSeq = 0 ∨ observedAtMs ≤ 0 ∨ isBlank classification = true))
    (.invalid "invocation event sequence, time, and classification must be valid")
  let _ ← check (tryFromU64 eventSeq "event sequence is too large")
  let rawBytes := utf8Bytes (SerdeJson.toString raw)
  let _ ← check (tryFromU64 rawBytes.length "event payload is too large")
  let digest := eventDigest eventSeq observedAtMs classification rawBytes
  let s ← read id
  let o ← require (observationOf invocationId generationId s)
    (.notFound "invocation observation" invocationId)
  let g ← require (s.pluginGenerations.find? fun g => g.id = generationId)
    (.notFound "invocation observation" invocationId)
  ensure (g.stopped = none) (.conflict "invocation generation is no longer active")
  ensure (o.terminal = none) (.conflict "invocation observation is already terminal")
  if eventSeq = o.lastEventSeq then
    ensure (o.lastEventDigest = some digest)
      (.conflict "event sequence was reused with different evidence")
  else
    ensure (eventSeq = nextSeq o.lastEventSeq)
      (.conflict s!"event sequence is not contiguous: expected {nextSeq o.lastEventSeq}, received {eventSeq}")
    applyEventFold {
      generationId := generationId
      invocationId := invocationId
      previousSeq := o.lastEventSeq
      eventSeq := eventSeq
      observedAtMs := observedAtMs
      payloadBytes := rawBytes.length
      eventDigest := digest
      chainDigest := chainDigest o.eventChainDigest digest
      counts := eventIncrements classification } now

/-- The terminal summary of a turn, with the fields that are stored. -/
structure TurnTerminal (Json : Type) where
  invocationId : String
  lastEventSeq : Nat
  stopReason : String
  runtimeStopReason : Option String
  executionCertainty : ExecutionCertainty
  sessionQuiescent : Bool
  sessionPersistence : SessionPersistence
  usage : Json
  deriving DecidableEq, Repr

/-- The stored evidence of a terminal summary. -/
def TurnTerminal.evidence (terminal : TurnTerminal Json) (usageJson : String) (now : Int) :
    TerminalEvidence where
  terminalAtMs := now
  stopReason := terminal.stopReason
  runtimeStopReason := terminal.runtimeStopReason
  executionCertainty := terminal.executionCertainty
  sessionQuiescent := terminal.sessionQuiescent
  sessionPersistence := terminal.sessionPersistence
  usageJson := usageJson

/-- Records the exact terminal summary before result settlement. -/
def recordInvocationTerminal [SerdeJson Json] (generationId : String)
    (terminal : TurnTerminal Json) (now : Int) : Tx Unit := do
  let _ ← check (tryFromU64 terminal.lastEventSeq "terminal event sequence is too large")
  let usageJson ← check (boundedJson (SerdeJson.toString terminal.usage) "terminal usage")
  let s ← read id
  let o ← require (observationOf terminal.invocationId generationId s)
    (.notFound "invocation observation" terminal.invocationId)
  ensure (o.lastEventSeq = terminal.lastEventSeq)
    (.conflict "terminal event sequence does not match durable observations")
  match o.terminal with
  | some stored =>
    ensure (stored = terminal.evidence usageJson stored.terminalAtMs)
      (.conflict "invocation terminal was already recorded with different evidence")
  | none =>
    write fun s => ((), { s with
      invocationObservations := updateWhere
        (fun o => decide (o.invocationId = terminal.invocationId) &&
          decide (o.generationId = generationId) && o.terminal.isNone)
        ({ · with updatedAtMs := now, terminal := some (terminal.evidence usageJson now) })
        s.invocationObservations })
    let _ ← touchGeneration generationId now
    pure ()

/-- Begins the observation of a turn under an active generation of its agent. -/
def beginInvocationObservation (agentId invocationId generationId : String) (binding : Binding)
    (now : Int) : Tx Unit := do
  let _ ← check (tryFromU64 binding.bindingGeneration "binding generation is too large")
  let _ ← check (tryFromU64 binding.ownerEpoch "owner epoch is too large")
  let s ← read id
  ensure (∃ g ∈ s.pluginGenerations, g.id = generationId ∧ g.agentId = agentId ∧ g.stopped = none)
    (.conflict s!"plugin generation is not active for agent {agentId}: {generationId}")
  ensure (∀ o ∈ s.invocationObservations, o.invocationId ≠ invocationId)
    (.conflict s!"invocation observation already exists: {invocationId}")
  write fun s => ((), { s with
    invocationObservations := s.invocationObservations ++ [{
      invocationId := invocationId
      generationId := generationId
      bindingId := binding.bindingId
      bindingGeneration := binding.bindingGeneration
      ownerEpoch := binding.ownerEpoch
      startedAtMs := now
      updatedAtMs := now
      firstEventAtMs := none
      lastEventAtMs := none
      eventCount := 0
      observedPayloadBytes := 0
      lastEventSeq := 0
      lastEventDigest := none
      eventChainDigest := none
      counts := {}
      terminal := none }] })

end Fleetd
