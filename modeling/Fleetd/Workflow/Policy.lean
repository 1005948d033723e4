import Fleetd.Workflow.Payloads

/-!
# The author-review policy: its configuration, its checks and its reading of payloads

What an evaluation may be asked about, who may take which role, and how the semantic payload
of a message is found: directly, or in the final assistant message of a managed turn.
-/

namespace Fleetd.Workflow

open Serde (Value)

def maxIdBytes : Nat := 128
def maxTextBytes : Nat := 8 * 1024
def maxListItems : Nat := 64
def maxChildren : Nat := 16

/-- Why an evaluation fails. A reason is missing where it is the text of the decoding library. -/
inductive AuthorReviewError
  | configuration (reason : Option String)
  | evaluation (reason : String)
  | payload (kind : String) (reason : Option String)
  deriving DecidableEq, Repr

/-- A check that fails under a condition. -/
def rejectIf (condition : Prop) [Decidable condition] (error : AuthorReviewError) :
    Except AuthorReviewError Unit :=
  if condition then .error error else .ok ()

/-- A value that must be there. -/
def okOr {α : Type} (value : Option α) (error : AuthorReviewError) : Except AuthorReviewError α :=
  match value with
  | some a => .ok a
  | none => .error error

@[simp]
theorem rejectIf_ok {condition : Prop} [Decidable condition] {error : AuthorReviewError} {u : Unit} :
    rejectIf condition error = .ok u ↔ ¬ condition := by
  by_cases h : condition <;> simp [rejectIf, h]

@[simp]
theorem okOr_ok {α : Type} {value : Option α} {error : AuthorReviewError} {a : α} :
    okOr value error = .ok a ↔ value = some a := by
  cases value <;> simp [okOr]

def payloadError (kind reason : String) : AuthorReviewError := .payload kind (some reason)

/-! ## Validation -/

def validateIdentifier (label value : String) : Except AuthorReviewError Unit :=
  rejectIf (isBlank value = true ∨ byteLen value > maxIdBytes)
    (.evaluation s!"{label} must contain between 1 and {maxIdBytes} bytes")

def validateText (label value : String) : Except AuthorReviewError Unit :=
  rejectIf (isBlank value = true ∨ byteLen value > maxTextBytes)
    (.evaluation s!"{label} must contain between 1 and {maxTextBytes} bytes")

def validateNonemptyTextList (label : String) (values : List String) :
    Except AuthorReviewError Unit := do
  rejectIf (values = [] ∨ values.length > maxListItems)
    (.evaluation s!"{label} must contain between 1 and {maxListItems} entries")
  values.forM (validateText label)

def validateBoundedList {α : Type} (label : String) (values : List α) :
    Except AuthorReviewError Unit :=
  rejectIf (values.length > maxListItems) (.evaluation s!"{label} exceeds {maxListItems} entries")

def requireSchemaOne (version : Nat) (kind : String) : Except AuthorReviewError Unit :=
  rejectIf (version ≠ 1) (payloadError kind "schema_version must equal 1")

def validateChangeRequest (request : ChangeRequest) (workflowId : String) :
    Except AuthorReviewError Unit := do
  requireSchemaOne request.schemaVersion workRequested
  rejectIf (request.requestId ≠ workflowId)
    (payloadError workRequested "request_id must equal the durable workflow correlation")
  validateIdentifier "change request ID" request.requestId
  validateText "change title" request.title
  validateText "change objective" request.objective
  validateText "repository path" request.repository.path
  validateIdentifier "base revision" request.repository.baseRevision
  validateNonemptyTextList "scope" request.scope
  validateNonemptyTextList "acceptance_criteria" request.acceptanceCriteria

def validateChildRequest (child : ChildRequest) : Except AuthorReviewError Unit := do
  validateIdentifier "child request ID" child.requestId
  validateText "child title" child.title
  validateText "child objective" child.objective
  validateNonemptyTextList "child scope" child.scope
  validateNonemptyTextList "child acceptance_criteria" child.acceptanceCriteria

/-- One more message of the history, after the last sequence number and the ids seen so far. -/
def checkHistoryMessage (params : EvaluateParams) (previous : Int × List String)
    (message : WorkflowMessage) : Except AuthorReviewError (Int × List String) := do
  rejectIf (message.channelId ≠ params.input.channelId ∨
      message.correlationId ≠ some params.workflowId ∨ message.seq ≤ previous.1 ∨
      message.id ∈ previous.2)
    (.evaluation "history must be one strictly ordered channel log")
  pure (message.seq, message.id :: previous.2)

def validateEvaluation (params : EvaluateParams) : Except AuthorReviewError Unit := do
  validateIdentifier "runner_agent_id" params.runnerAgentId
  validateIdentifier "workflow_id" params.workflowId
  rejectIf (params.history = [] ∨ params.history.length > maxHistoryMessages)
    (.evaluation s!"history must contain between 1 and {maxHistoryMessages} messages")
  rejectIf (params.members = [] ∨ params.members.length > maxMembers)
    (.evaluation s!"membership must contain between 1 and {maxMembers} members")
  rejectIf (params.input.recipientId ≠ some params.runnerAgentId)
    (.evaluation "leased input is not addressed to the workflow runner")
  rejectIf (params.runnerAgentId ∉ params.members.map WorkflowMember.agentId ∨
      params.input.senderId ∉ params.members.map WorkflowMember.agentId)
    (.evaluation "runner and input sender must be channel members")
  let _ ← params.history.foldlM (checkHistoryMessage params) (0, [])
  rejectIf (params.history.any (fun message => message.id = params.input.id) = false)
    (.evaluation "history does not contain the leased input")

/-! ## Configuration -/

structure AuthorReviewConfiguration where
  schemaVersion : Nat
  coordinatorAgentId : String
  authorAgentIds : List String
  reviewerAgentIds : List String
  maxChildren : Nat
  maxRevisionRounds : Nat
  deriving DecidableEq, Repr

def AuthorReviewConfiguration.ofValue (value : Value) : Option AuthorReviewConfiguration :=
  match structFields true ["schema_version", "coordinator_agent_id", "author_agent_ids",
    "reviewer_agent_ids", "max_children", "max_revision_rounds"] value with
  | some [schemaVersion, coordinatorAgentId, authorAgentIds, reviewerAgentIds, maxChildren,
      maxRevisionRounds] => do
    let schemaVersion ← required asU32 schemaVersion
    let coordinatorAgentId ← required Value.asStr coordinatorAgentId
    let authorAgentIds ← required (asList Value.asStr) authorAgentIds
    let reviewerAgentIds ← required (asList Value.asStr) reviewerAgentIds
    let maxChildren ← required Value.asU64 maxChildren
    let maxRevisionRounds ← required asU32 maxRevisionRounds
    pure { schemaVersion, coordinatorAgentId, authorAgentIds, reviewerAgentIds, maxChildren,
           maxRevisionRounds }
  | _ => none

/-- The delivery mode of an agent; the last of several rows of an agent counts. -/
def memberMode (members : List WorkflowMember) (agentId : String) : Option String :=
  (members.reverse.find? fun member => member.agentId = agentId).map (·.deliveryMode)

/-- An agent with a role reads its inbox in the channel. -/
def validateRole (params : EvaluateParams) (role agentId : String) :
    Except AuthorReviewError Unit := do
  validateIdentifier s!"{role} agent ID" agentId
  rejectIf (memberMode params.members agentId ≠ some "inbox")
    (.configuration s!"{role} agent {agentId} must be an inbox member of the channel")

def validateConfiguration (params : EvaluateParams) :
    Except AuthorReviewError AuthorReviewConfiguration := do
  let configuration ← okOr (AuthorReviewConfiguration.ofValue params.configuration)
    (.configuration none)
  rejectIf (configuration.schemaVersion ≠ 1) (.configuration "schema_version must equal 1")
  rejectIf (configuration.authorAgentIds = [] ∨ configuration.reviewerAgentIds = [] ∨
      configuration.authorAgentIds.length > maxMembers ∨
      configuration.reviewerAgentIds.length > maxMembers)
    (.configuration "author and reviewer candidate sets must be non-empty and bounded")
  rejectIf (configuration.maxChildren = 0 ∨ configuration.maxChildren > maxChildren)
    (.configuration s!"max_children must be between 1 and {maxChildren}")
  rejectIf (¬ (minRevisionRounds ≤ configuration.maxRevisionRounds ∧
      configuration.maxRevisionRounds ≤ maxRevisionRounds))
    (.configuration
      s!"max_revision_rounds must be between {minRevisionRounds} and {maxRevisionRounds}")
  validateRole params "coordinator" configuration.coordinatorAgentId
  configuration.authorAgentIds.forM (validateRole params "author")
  configuration.reviewerAgentIds.forM (validateRole params "reviewer")
  rejectIf (configuration.reviewerAgentIds.any (fun reviewer =>
      configuration.authorAgentIds.any fun author => author ≠ reviewer) = false)
    (.configuration "at least one author/reviewer pair must use distinct agents")
  pure configuration

/-! ## Payloads -/

/-- A decoded value, or the error of the decoding library. -/
def decodeValue {α : Type} (ofValue : Value → Option α) (kind : String) (value : Value) :
    Except AuthorReviewError α :=
  okOr (ofValue value) (.payload kind none)

/-- The payload of a message, decoded as it is. -/
def decodeDirectPayload {α : Type} (ofValue : Value → Option α) (message : WorkflowMessage) :
    Except AuthorReviewError α :=
  decodeValue ofValue message.kind message.payload

/-- A flag of an object. -/
def flag (key : String) (value : Value) : Option Bool :=
  match value.get key with
  | some (.bool flag) => some flag
  | _ => none

def isObject : Value → Bool
  | .object _ => true
  | _ => false

/-- The event bounds of one assistant message, after those of the one before it. -/
def checkEventBounds (kind : String) (previousLast : Nat) (assistant : Value) :
    Except AuthorReviewError Nat := do
  rejectIf (isObject assistant = false) (payloadError kind "assistant message must be an object")
  let first ← okOr ((assistant.get "first_event_seq").bind Value.asU64)
    (payloadError kind "invalid assistant event bounds")
  let last ← okOr ((assistant.get "last_event_seq").bind Value.asU64)
    (payloadError kind "invalid assistant event bounds")
  rejectIf (first = 0 ∨ first > last ∨ first ≤ previousLast)
    (payloadError kind "assistant event bounds are not strictly ordered")
  pure last

/-- The text so far with one more block of the final message. -/
def appendBlock (kind text : String) (block : Value) : Except AuthorReviewError String := do
  rejectIf (block.getStr "type" ≠ some "text")
    (payloadError kind "final content supports only text blocks")
  let fragment ← okOr (block.getStr "text") (payloadError kind "text block lacks text")
  rejectIf (byteLen text + byteLen fragment > maxTextBytes * 8)
    (payloadError kind "final semantic output exceeds its bound")
  pure (text ++ fragment)

/-- The payload that the policy reads: the message's own, or what its final output says. -/
def extractSemanticPayload (message : WorkflowMessage) : Except AuthorReviewError Value :=
  if (message.payload.get "schema_version").isSome then .ok message.payload
  else do
    let payload := message.payload
    rejectIf (isObject payload = false) (payloadError message.kind "payload must be an object")
    rejectIf (payload.getStr "status" ≠ some "completed" ∨
        flag "output_complete" payload ≠ some true)
      (payloadError message.kind "managed result must be completed with complete output")
    let messages ← okOr ((payload.get "assistant_messages").bind Value.asArray)
      (payloadError message.kind "assistant_messages must be an array")
    let finalMessage ← okOr (messages.getLast?.filter isObject)
      (payloadError message.kind "assistant output is empty")
    rejectIf (flag "complete" finalMessage ≠ some true)
      (payloadError message.kind "final assistant message is incomplete")
    let _ ← messages.foldlM (checkEventBounds message.kind) 0
    let content ← okOr ((finalMessage.get "content").bind Value.asArray)
      (payloadError message.kind "final content must be an array")
    let text ← content.foldlM (appendBlock message.kind) ""
    okOr (Serde.parse text) (.payload message.kind none)

/-- The artifact that a message proposes, if it can be read. -/
def proposedArtifact (message : WorkflowMessage) : Option ProposedArtifact :=
  (extractSemanticPayload message).toOption.bind ProposedArtifact.ofValue

/-- The review that a message completes, if it can be read. -/
def completedReview (message : WorkflowMessage) : Option CompletedReview :=
  (extractSemanticPayload message).toOption.bind CompletedReview.ofValue

end Fleetd.Workflow
