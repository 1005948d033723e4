import Fleetd.Kernel.Sha256
import Fleetd.Otlp.Projection

/-!
# The level of exported content

What leaves the process does not depend on what the configured level keeps inside. A level keeps an
update from the spans if the step that observes it does the same for every update that shows the
same. The lowest level is to show nothing of an update, but the span of a tool call is found and
named by an identifier that is read off the update, at every level.
-/

namespace Fleetd.Otlp

open Serde (Value)
open Harness

/-! ## What two runs share -/

/-- Steps that do the same end in the same state. -/
theorem foldl_eq_of_forall₂ {σ α : Type} {f : σ → α → σ} {R : α → α → Prop} {as bs : List α}
    (h : List.Forall₂ R as bs) (same : ∀ a b, R a b → ∀ s, f s a = f s b) (s : σ) :
    as.foldl f s = bs.foldl f s := by
  induction h generalizing s with
  | nil => rfl
  | @cons a b as bs hab _ ih =>
    calc (a :: as).foldl f s
      _ = bs.foldl f (f s a) := ih (f s a)
      _ = (b :: bs).foldl f s := by rw [List.foldl_cons, same a b hab]

/-- Updates that differ in what they report at most. -/
structure SameHeader (update other : OwnedUpdate) : Prop where
  invocationId : update.invocationId = other.invocationId
  eventSeq : update.eventSeq = other.eventSeq
  observedAtMs : update.observedAtMs = other.observedAtMs
  classification : update.classification = other.classification

/-- How many entries a plan has. -/
def planEntries (raw : Value) : Option Nat :=
  ((raw.get "entries").bind Value.asArray).map List.length

/-- Updates that also agree on the shape of the work. -/
structure SameShape (update other : OwnedUpdate) : Prop extends SameHeader update other where
  toolCallId : toolCallId update.rawUpdate = toolCallId other.rawUpdate
  toolKind : update.rawUpdate.getStr "kind" = other.rawUpdate.getStr "kind"
  toolStatus : update.rawUpdate.getStr "status" = other.rawUpdate.getStr "status"
  planEntries : planEntries update.rawUpdate = planEntries other.rawUpdate

/-- The spans of a turn show no more of its updates than the configured level allows. -/
structure RespectsLevel [Sha256] (config : EgressConfig) (turn : OwnedTurn) (updates : List OwnedUpdate)
    (close : OwnedClose) : Prop where
  none : config.content = .none → ∀ others, List.Forall₂ SameHeader updates others →
    exported config turn updates close = exported config turn others close
  metadata : config.content = .metadata → ∀ others, List.Forall₂ SameShape updates others →
    exported config turn updates close = exported config turn others close

/-- An update of a tool that is exported. -/
def ToolExported (config : EgressConfig) (update : OwnedUpdate) : Prop :=
  EventClass.parse update.classification = .tool ∧ EventClass.tool.asStr ∈ config.classifications

/-! ## Steps -/

section Attributes
variable {config : EgressConfig}

/-- Nothing is selected of an event at the lowest level. -/
theorem eventAttributes_none (h : config.content = .none) (class_ : EventClass) (raw : Value) :
    eventAttributes class_ raw config = [] := if_pos h

/-- Only the size of a plan is selected of an event at the level of metadata. -/
theorem eventAttributes_metadata (h : config.content = .metadata) (class_ : EventClass) (raw : Value) :
    eventAttributes class_ raw config = if class_ = .plan then
      (planEntries raw).toList.map (attributeNat "fleetd.plan_entries") else [] := by
  unfold eventAttributes planEntries
  simp only [h, reduceCtorEq, if_false, List.append_nil]
  split
  · cases (raw.get "entries").bind Value.asArray <;> rfl
  · rfl

/-- Only its kind and its status are selected of a tool call at the level of metadata. -/
theorem toolAttributes_metadata (h : config.content = .metadata) (raw : Value) :
    toolAttributes raw config =
      (raw.getStr "kind").toList.map (attributeText "gen_ai.tool.name") ++
        (raw.getStr "status").toList.map (attributeText "fleetd.tool_status") := by
  simp [toolAttributes, h]

end Attributes

section Steps
variable [Sha256] {config : EgressConfig} {update other : OwnedUpdate}

/-- An update that is not one of an exported tool shows nothing at the lowest level. -/
theorem observe_none (h : config.content = .none) (same : SameHeader update other)
    (tool : ¬ ToolExported config update) (flight : InFlight) :
    flight.observe config update = flight.observe config other := by
  obtain ⟨-, hseq, hat, hclass⟩ := same
  unfold InFlight.observe
  simp only [← hclass, ← hat, eventSeqAttribute, ← hseq, eventAttributes_none h]
  by_cases hexported : (EventClass.parse update.classification).asStr ∉ config.classifications
  · rw [if_pos hexported, if_pos hexported]
  · rw [if_neg hexported, if_neg hexported]
    have htool : EventClass.parse update.classification ≠ .tool := by
      intro hparse
      rw [hparse] at hexported
      exact tool ⟨hparse, not_not.1 hexported⟩
    rw [if_neg htool, if_neg htool]

/-- Updates of the same shape do the same at the level of metadata. -/
theorem observe_metadata (h : config.content = .metadata) (same : SameShape update other)
    (flight : InFlight) : flight.observe config update = flight.observe config other := by
  obtain ⟨⟨hinvocation, hseq, hat, hclass⟩, hid, hkind, hstatus, hplan⟩ := same
  unfold InFlight.observe InFlight.observeTool
  simp only [hinvocation, hclass, hat, eventSeqAttribute, hseq, eventAttributes_metadata h,
    toolAttributes_metadata h, hid, hkind, hstatus, hplan]

end Steps

/-! ## Tool calls are found by what they say -/

/-- An update that reports something else. -/
def OwnedUpdate.withRaw (raw : Value) (update : OwnedUpdate) : OwnedUpdate :=
  { update with rawUpdate := raw }

/-- What an update reports is no part of its header. -/
theorem sameHeader_withRaw (raw : Value) (updates : List OwnedUpdate) :
    List.Forall₂ SameHeader updates (updates.map (OwnedUpdate.withRaw raw)) := by
  induction updates with
  | nil => exact .nil
  | cons update updates ih => exact .cons ⟨rfl, rfl, rfl, rfl⟩ ih

/-- An update that names a tool call. -/
def namedCall : Value := .object [("toolCallId", .string "call")]

/-- There is one span for each tool call, and one for the turn. -/
theorem length_close (flight : InFlight) (close : OwnedClose) :
    (flight.close close).length = flight.tools.length + 1 := by
  simp [InFlight.close]

/-- A tool call that is entered is there. -/
theorem upsertTool_ne_nil (key : String) (fresh : ToolSpan) (change : ToolSpan → ToolSpan)
    (tools : List (String × ToolSpan)) : upsertTool key fresh change tools ≠ [] := by
  cases tools with
  | nil => simp [upsertTool]
  | cons tool rest =>
    obtain ⟨other, tool⟩ := tool
    unfold upsertTool
    split
    · simp
    · split <;> simp

section Tools
variable [Sha256] (config : EgressConfig)

/-- An update that says nothing opens no tool call. -/
theorem tools_observe_silent (flight : InFlight) (update : OwnedUpdate) :
    (flight.observe config (update.withRaw .null)).tools = flight.tools := by
  unfold InFlight.observe
  dsimp only
  split
  · rfl
  · split <;> rfl

/-- Updates that say nothing open no tool call. -/
theorem tools_foldl_silent (updates : List OwnedUpdate) (flight : InFlight) :
    ((updates.map (OwnedUpdate.withRaw .null)).foldl (InFlight.observe config) flight).tools =
      flight.tools := by
  induction updates generalizing flight with
  | nil => rfl
  | cons update updates ih =>
    rw [List.map_cons, List.foldl_cons, ih]
    exact tools_observe_silent config flight update

/-- Tool calls are not forgotten before the turn closes. -/
theorem tools_observe_ne_nil {flight : InFlight} (h : flight.tools ≠ []) (update : OwnedUpdate) :
    (flight.observe config update).tools ≠ [] := by
  unfold InFlight.observe
  dsimp only
  split
  · exact h
  · split
    · unfold InFlight.observeTool
      split
      · exact h
      · exact upsertTool_ne_nil _ _ _ _
    · exact h

/-- Tool calls are not forgotten before the turn closes. -/
theorem tools_foldl_ne_nil (updates : List OwnedUpdate) {flight : InFlight} (h : flight.tools ≠ []) :
    (updates.foldl (InFlight.observe config) flight).tools ≠ [] := by
  induction updates generalizing flight with
  | nil => exact h
  | cons update updates ih => exact ih (tools_observe_ne_nil config h update)

/-- An exported update that names a tool call opens it. -/
theorem tools_observe_named {update : OwnedUpdate} (h : ToolExported config update)
    (flight : InFlight) : (flight.observe config (update.withRaw namedCall)).tools ≠ [] := by
  obtain ⟨hparse, hselected⟩ := h
  have hexported : ¬ EventClass.asStr (EventClass.parse update.classification) ∉
      config.classifications := by
    rw [hparse]
    exact not_not.2 hselected
  have hid : toolCallId namedCall = some "call" := by decide
  simp only [InFlight.observe, OwnedUpdate.withRaw, if_neg hexported, if_pos hparse,
    InFlight.observeTool, hid]
  exact upsertTool_ne_nil _ _ _ _

/-- Updates of which an exported one is about a tool open a tool call if they name it. -/
theorem tools_foldl_named {updates : List OwnedUpdate} {update : OwnedUpdate} (hmem : update ∈ updates)
    (h : ToolExported config update) (flight : InFlight) :
    ((updates.map (OwnedUpdate.withRaw namedCall)).foldl (InFlight.observe config) flight).tools ≠ [] := by
  induction updates generalizing flight with
  | nil => exact absurd hmem List.not_mem_nil
  | cons first updates ih =>
    rw [List.map_cons, List.foldl_cons]
    obtain rfl | hmem := List.mem_cons.1 hmem
    · exact tools_foldl_ne_nil config _ (tools_observe_named config h flight)
    · exact ih hmem _

/-- The exported spans of a turn respect the configured level exactly if no update of a tool is
exported at the lowest one. -/
theorem exported_respectsLevel_iff (turn : OwnedTurn) (updates : List OwnedUpdate)
    (close : OwnedClose) : RespectsLevel config turn updates close ↔
      (config.content = .none → ∀ update ∈ updates, ¬ ToolExported config update) := by
  constructor
  · intro hrespects hcontent update hmem hexported
    have hsilent := hrespects.none hcontent _ (sameHeader_withRaw .null updates)
    have hnamed := hrespects.none hcontent _ (sameHeader_withRaw namedCall updates)
    have hlength := congrArg List.length (hsilent.symm.trans hnamed)
    rw [exported, exported, length_close, length_close, tools_foldl_silent] at hlength
    have hnil : ((updates.map (OwnedUpdate.withRaw namedCall)).foldl (InFlight.observe config)
        (InFlight.open_ turn)).tools = [] := List.length_eq_zero_iff.1 (Nat.succ.inj hlength).symm
    exact tools_foldl_named config hmem hexported _ hnil
  · intro htools
    constructor
    case none =>
      intro hcontent others hsame
      have hforall : List.Forall₂ (fun update other => SameHeader update other ∧
          ¬ ToolExported config update) updates others := by
        have hnone := htools hcontent
        clear htools
        induction hsame with
        | nil => exact .nil
        | @cons update other updates others hheader _ ih =>
          refine .cons ⟨hheader, hnone update List.mem_cons_self⟩ (ih ?_)
          exact fun update hmem => hnone update (List.mem_cons_of_mem _ hmem)
      rw [exported, exported, foldl_eq_of_forall₂ hforall fun update other h flight =>
        observe_none hcontent h.1 h.2 flight]
    case metadata =>
      intro hcontent others hsame
      rw [exported, exported, foldl_eq_of_forall₂ hsame fun update other h flight =>
        observe_metadata hcontent h flight]

end Tools

/-! ## A tool call at the lowest level -/

/-- The egress contract of the sample, with every class of updates at the lowest level. -/
def sampleEgress : EgressConfig where
  content := .none
  classifications := ["prompt", "assistant", "reasoning", "tool", "plan", "usage", "metadata",
    "permission", "unknown"]
  maxAttributeBytes := 32

def sampleOwnedTurn : OwnedTurn where
  invocationId := "i"
  agentId := "a"
  channelId := "c"
  sourceMessageId := "m"
  generationId := "g"
  bindingId := "B"
  bindingGeneration := 1
  ownerEpoch := 2
  correlationId := none
  causationId := none
  openedAtMs := 1000

def sampleOwnedClose : OwnedClose where
  invocationId := "i"
  closedAtMs := 2000
  stopReason := some "end_turn"
  runtimeStopReason := none
  certainty := some "outcome_known"
  sessionQuiescent := some true
  usage := none
  parkedReason := none

/-- An update of a tool call of the sample. -/
def sampleToolUpdate (toolCallId : String) : OwnedUpdate where
  invocationId := "i"
  eventSeq := 1
  observedAtMs := 1001
  classification := "tool_call"
  rawUpdate := .object [("toolCallId", .string toolCallId)]

/-- What is said of the first span. -/
def firstAttributes (spans : List SpanData) : List (List KeyValue) := (spans.map (·.attributes)).take 1

set_option maxRecDepth 100000 in
/-- The identifier of a tool call leaves the process at the lowest level. -/
theorem not_respectsLevel_sampleToolUpdate :
    ¬ RespectsLevel sampleEgress sampleOwnedTurn [sampleToolUpdate "secret"] sampleOwnedClose ∧
      firstAttributes (exported sampleEgress sampleOwnedTurn [sampleToolUpdate "secret"]
        sampleOwnedClose) = [[attributeText "gen_ai.operation.name" "execute_tool",
          attributeText "fleetd.tool_call_id" "secret"]] := by
  have hspans : ∀ toolCallId, firstAttributes (exported sampleEgress sampleOwnedTurn
      [sampleToolUpdate toolCallId] sampleOwnedClose) = [[
      attributeText "gen_ai.operation.name" "execute_tool",
      attributeText "fleetd.tool_call_id" toolCallId]] := fun _ => rfl
  refine ⟨fun h => ?_, hspans "secret"⟩
  have hsame := h.none rfl [sampleToolUpdate "other"] (.cons ⟨rfl, rfl, rfl, rfl⟩ .nil)
  have hattributes := congrArg firstAttributes hsame
  rw [hspans, hspans] at hattributes
  revert hattributes
  decide

end Fleetd.Otlp
