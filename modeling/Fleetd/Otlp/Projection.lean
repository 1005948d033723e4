import Fleetd.Execution.Operations
import Fleetd.Harness.Protocol

/-!
# Projection of turns into spans

What is exported of a turn to a telemetry collector: one span for the turn, one for each tool call,
and an event for each update. A level says how much of an update may leave the process. Identities
are derived from digests, so that the same evidence gives the same spans.
-/

namespace Fleetd.Otlp

open Serde (Value)
open Harness

/-- How much of an observed update may leave the process. -/
inductive ContentLevel
  | none
  | metadata
  | full
  deriving DecidableEq, Repr

/-- What the projection reads of the egress contract of a seat. -/
structure EgressConfig where
  content : ContentLevel
  classifications : List String
  maxAttributeBytes : Nat
  deriving DecidableEq, Repr

/-! ## Offers -/

/-- Identity of one turn. -/
structure OwnedTurn where
  invocationId : String
  agentId : String
  channelId : String
  sourceMessageId : String
  generationId : String
  bindingId : String
  bindingGeneration : Nat
  ownerEpoch : Nat
  correlationId : Option String
  causationId : Option String
  openedAtMs : Int
  deriving DecidableEq, Repr

/-- One observed update. -/
structure OwnedUpdate where
  invocationId : String
  eventSeq : Nat
  observedAtMs : Int
  classification : String
  rawUpdate : Value
  deriving DecidableEq, Repr

/-- How one turn ended. -/
structure OwnedClose where
  invocationId : String
  closedAtMs : Int
  stopReason : Option String
  runtimeStopReason : Option String
  certainty : Option String
  sessionQuiescent : Option Bool
  usage : Option Value
  parkedReason : Option String
  deriving DecidableEq, Repr

/-! ## Spans -/

inductive AttributeValue
  | string (text : String)
  | i64 (value : Int)
  | bool (value : Bool)
  deriving DecidableEq, Repr

structure KeyValue where
  key : String
  value : AttributeValue
  deriving DecidableEq, Repr

structure Event where
  name : String
  timestamp : Nat
  attributes : List KeyValue
  deriving DecidableEq, Repr

inductive SpanStatus
  | unset
  | ok
  | error (description : String)
  deriving DecidableEq, Repr

/-- A span, with the identities as hexadecimal texts. What is the same in every span is left out. -/
structure SpanData where
  traceId : String
  spanId : String
  parentSpanId : Option String
  name : String
  startTime : Nat
  endTime : Nat
  attributes : List KeyValue
  events : List Event
  status : SpanStatus
  deriving DecidableEq, Repr

/-- Milliseconds since the epoch; earlier times are the epoch. -/
def systemTime (ms : Int) : Nat := ms.toNat

/-- An unsigned number as an attribute. -/
def attributeNat (key : String) (value : Nat) : KeyValue := ⟨key, .i64 (min value i64Max)⟩

def attributeText (key value : String) : KeyValue := ⟨key, .string value⟩

/-- The first digits of a digest, which are not all zero. -/
def identity (digits : Nat) (digest : String) : String :=
  let id := String.ofList (digest.toList.take digits)
  if id = String.ofList (List.replicate digits '0') then
    String.ofList (List.replicate (digits - 1) '0' ++ ['1'])
  else id

section
variable [Sha256]

def deriveTraceId (correlation : String) : String :=
  identity 32 (Sha256.hexDigest
    (utf8Bytes "fleetd-trajectory-trace-v1" ++ [0] ++ utf8Bytes correlation))

def deriveSpanId (role identifier : String) : String :=
  identity 16 (Sha256.hexDigest
    (utf8Bytes "fleetd-trajectory-span-v1" ++ [0] ++ utf8Bytes role ++ [0] ++ utf8Bytes identifier))

end

/-! ## Content of updates -/

/-- Content selected from an update that is not one of a tool. -/
def eventAttributes (class_ : EventClass) (raw : Value) (config : EgressConfig) : List KeyValue :=
  if config.content = .none then []
  else
    let planEntries :=
      if class_ = .plan then
        ((raw.get "entries").bind Value.asArray).toList.map fun entries =>
          attributeNat "fleetd.plan_entries" entries.length
      else []
    let content :=
      if config.content = .full then
        match (raw.get "content").bind (Value.getStr "text") with
        | some text =>
          [attributeText "fleetd.content" (truncateUtf8 config.maxAttributeBytes text)]
        | none =>
          if class_ = .unknown then
            [attributeText "fleetd.raw_update" (truncateUtf8 config.maxAttributeBytes raw.print)]
          else []
      else []
    planEntries ++ content

/-- The value under a field of an update, printed. -/
def printedAttribute (raw : Value) (config : EgressConfig) (field key : String) : List KeyValue :=
  (raw.get field).toList.map fun value =>
    attributeText key (truncateUtf8 config.maxAttributeBytes value.print)

/-- Content selected from an update of a tool. -/
def toolAttributes (raw : Value) (config : EgressConfig) : List KeyValue :=
  if config.content = .none then []
  else
    let kind := (raw.getStr "kind").toList.map (attributeText "gen_ai.tool.name")
    let status := (raw.getStr "status").toList.map (attributeText "fleetd.tool_status")
    let prose :=
      if config.content = .full then
        (raw.getStr "title").toList.map (fun title =>
          attributeText "fleetd.tool_title" (truncateUtf8 config.maxAttributeBytes title)) ++
        printedAttribute raw config "rawInput" "fleetd.tool_input" ++
        printedAttribute raw config "rawOutput" "fleetd.tool_output"
      else []
    kind ++ status ++ prose

/-- The first field that holds a count gives the attribute. -/
def usageAttribute (usage : Value) (key : String) (fields : List String) : List KeyValue :=
  (fields.findSome? fun field => (usage.get field).bind Value.asI64).toList.map fun count =>
    ⟨key, .i64 count⟩

/-- Token usage, by the two spellings of its fields. -/
def usageAttributes (usage : Value) : List KeyValue :=
  usageAttribute usage "gen_ai.usage.input_tokens" ["inputTokens", "input_tokens"] ++
    usageAttribute usage "gen_ai.usage.output_tokens" ["outputTokens", "output_tokens"]

/-- The tool call that an update is about. -/
def toolCallId (raw : Value) : Option String :=
  ((raw.get "toolCallId").orElse fun _ => raw.get "tool_call_id").bind Value.asStr

/-! ## Turns in flight -/

/-- One tool call, open until its last update. -/
structure ToolSpan where
  spanId : String
  start : Nat
  end_ : Nat
  attributes : List KeyValue
  events : List Event
  deriving DecidableEq, Repr

/-- One turn whose span has opened and not yet closed. Its tool calls are kept in the order of their
identifiers. -/
structure InFlight where
  traceId : String
  spanId : String
  start : Nat
  attributes : List KeyValue
  events : List Event
  tools : List (String × ToolSpan)
  observed : Nat
  deriving DecidableEq, Repr

/-- Changes the entry of a key, which is put in its place if it is not there. -/
def upsertTool (key : String) (fresh : ToolSpan) (change : ToolSpan → ToolSpan) :
    List (String × ToolSpan) → List (String × ToolSpan)
  | [] => [(key, change fresh)]
  | (other, tool) :: rest =>
    if key = other then (other, change tool) :: rest
    else if key < other then (key, change fresh) :: (other, tool) :: rest
    else (other, tool) :: upsertTool key fresh change rest

/-- The position of an update, as an attribute. -/
def eventSeqAttribute (update : OwnedUpdate) : KeyValue :=
  attributeNat "fleetd.event_seq" update.eventSeq

namespace InFlight

section
variable [Sha256]

def open_ (turn : OwnedTurn) : InFlight where
  traceId := deriveTraceId (turn.correlationId.getD turn.sourceMessageId)
  spanId := deriveSpanId "invocation" turn.invocationId
  start := systemTime turn.openedAtMs
  attributes := [
    attributeText "gen_ai.operation.name" "invoke_agent",
    attributeText "fleetd.invocation_id" turn.invocationId,
    attributeText "fleetd.agent_id" turn.agentId,
    attributeText "fleetd.channel_id" turn.channelId,
    attributeText "fleetd.source_message_id" turn.sourceMessageId,
    attributeText "fleetd.generation_id" turn.generationId,
    attributeText "fleetd.binding_id" turn.bindingId,
    attributeNat "fleetd.binding_generation" turn.bindingGeneration,
    attributeNat "fleetd.owner_epoch" turn.ownerEpoch] ++
    turn.correlationId.toList.map (attributeText "fleetd.correlation_id") ++
    turn.causationId.toList.map (attributeText "fleetd.causation_id")
  events := []
  tools := []
  observed := 0

/-- Folds an update of a tool into the span of its call. Without an identifier of the call it is an
event of the turn. -/
def observeTool (config : EgressConfig) (update : OwnedUpdate) (at_ : Nat) (flight : InFlight) :
    InFlight :=
  match toolCallId update.rawUpdate with
  | none =>
    { flight with events := flight.events ++ [⟨"tool", at_, [eventSeqAttribute update]⟩] }
  | some toolCallId =>
    let fresh : ToolSpan := {
      spanId := deriveSpanId ("tool:" ++ toolCallId) update.invocationId
      start := at_
      end_ := at_
      attributes := [
        attributeText "gen_ai.operation.name" "execute_tool",
        attributeText "fleetd.tool_call_id" toolCallId]
      events := [] }
    { flight with
      tools := upsertTool toolCallId fresh (fun tool => { tool with
        end_ := at_
        attributes := tool.attributes ++ toolAttributes update.rawUpdate config
        events := tool.events ++ [⟨update.classification, at_, [eventSeqAttribute update]⟩] })
        flight.tools }

/-- Folds one update into the span of a tool call or an event of the turn. -/
def observe (config : EgressConfig) (flight : InFlight) (update : OwnedUpdate) : InFlight :=
  let class_ := EventClass.parse update.classification
  if class_.asStr ∉ config.classifications then flight
  else
    let flight := { flight with observed := min (flight.observed + 1) u64Max }
    let at_ := systemTime update.observedAtMs
    if class_ = .tool then flight.observeTool config update at_
    else
      { flight with events := flight.events ++
          [⟨class_.asStr, at_, eventSeqAttribute update ::
            eventAttributes class_ update.rawUpdate config⟩] }

end

/-- The status of the span of a turn. -/
def status (close : OwnedClose) : SpanStatus :=
  match close.parkedReason, close.certainty with
  | some reason, _ => .error reason
  | none, some "outcome_unknown" => .error "harness outcome unknown"
  | none, _ => .ok

/-- The span of a tool call. -/
def toolSpan (flight : InFlight) (tool : ToolSpan) : SpanData where
  traceId := flight.traceId
  spanId := tool.spanId
  parentSpanId := some flight.spanId
  name := "execute_tool"
  startTime := tool.start
  endTime := tool.end_
  attributes := tool.attributes
  events := tool.events
  status := .unset

/-- Finishes the span of the turn and those of its tool calls. -/
def close (flight : InFlight) (close : OwnedClose) : List SpanData :=
  flight.tools.map (fun tool => flight.toolSpan tool.2) ++ [{
    traceId := flight.traceId
    spanId := flight.spanId
    parentSpanId := none
    name := "invoke_agent"
    startTime := flight.start
    endTime := systemTime close.closedAtMs
    attributes := flight.attributes ++
      [attributeNat "fleetd.observed_event_count" flight.observed] ++
      close.stopReason.toList.map (attributeText "fleetd.stop_reason") ++
      close.runtimeStopReason.toList.map (attributeText "fleetd.runtime_stop_reason") ++
      close.certainty.toList.map (attributeText "fleetd.execution_certainty") ++
      close.sessionQuiescent.toList.map (fun quiescent => ⟨"fleetd.session_quiescent", .bool quiescent⟩) ++
      close.usage.toList.flatMap usageAttributes
    events := flight.events
    status := status close }]

end InFlight

/-- The spans of a turn with all its updates. -/
def exported [Sha256] (config : EgressConfig) (turn : OwnedTurn) (updates : List OwnedUpdate)
    (close : OwnedClose) : List SpanData :=
  (updates.foldl (InFlight.observe config) (InFlight.open_ turn)).close close

end Fleetd.Otlp
