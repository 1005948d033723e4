import Fleetd.Serde.Agreement
import Fleetd.Workflow.Policy

/-!
# The author-review plugin

The plugin keeps nothing between evaluations. From the history it finds the root request,
the decomposition, the assignments and the effects that are committed already, checks that
the leased input fits them, and proposes the effects that follow from it and are missing.
-/

namespace Fleetd.Workflow

open Serde (Value)

/-! ## Committed effects -/

/-- The part of an effect's payload that a repeat must have in common with it. -/
def stableEffectPayload (kind : String) (payload : Value) : Value :=
  match payload with
  | .object members => .object (members.filter fun member =>
      !((kind = reviewRequested && member.1 = "proposal_message_id") ||
        ((kind = revisionRequested || kind = workCompleted) && member.1 = "review_message_id")))
  | other => other

/-- Whether two payloads say the same under a key. -/
def sameField (key : String) (a b : Value) : Bool := Value.agreesOptional (a.get key) (b.get key)

/-- Whether a message is the effect that a proposal asks for. -/
def sameLogicalEffect (message : WorkflowMessage) (proposal : ProposedMessage) : Bool :=
  message.kind = proposal.kind && sameField "request_id" message.payload proposal.payload &&
    if proposal.kind = workRequested ∨ proposal.kind = reviewRequested ∨
        proposal.kind = revisionRequested then
      sameField "assignment" message.payload proposal.payload &&
        sameField "revision" message.payload proposal.payload
    else proposal.kind = workCompleted || proposal.kind = workBlocked

/-- Whether a committed effect differs from the proposal in what a repeat must keep. -/
def divergesFrom (message : WorkflowMessage) (proposal : ProposedMessage) : Bool :=
  message.recipientId ≠ some proposal.recipientId ||
    !(stableEffectPayload proposal.kind message.payload).agrees
      (stableEffectPayload proposal.kind proposal.payload)

/-- Looks at one more message for a committed effect. -/
def noteCommitted (runnerAgentId : String) (proposal : ProposedMessage) (committed : Bool)
    (message : WorkflowMessage) : Except AuthorReviewError Bool := do
  if message.senderId ≠ runnerAgentId ∨ sameLogicalEffect message proposal = false then
    pure committed
  else
    rejectIf (divergesFrom message proposal = true)
      (.evaluation
        s!"correlated history contains a conflicting committed {proposal.kind} effect")
    pure true

/-- A proposal, unless the runner has published the effect already. -/
def missingEffect (params : EvaluateParams) (proposal : ProposedMessage) :
    Except AuthorReviewError (Option ProposedMessage) := do
  let committed ← params.history.foldlM (noteCommitted params.runnerAgentId proposal) false
  pure (if committed then none else some proposal)

/-! ## Lookups -/

def assignmentIdentity (message : WorkflowMessage) : Option AssignmentIdentity :=
  AssignmentIdentity.ofValue message.payload

/-- Whether a message assigns a revision of a request. -/
def assigns (requestId assignment : String) (revision : Nat) (message : WorkflowMessage) : Bool :=
  (assignmentIdentity message).any fun identity =>
    identity.requestId = requestId && identity.assignment = assignment &&
      identity.revision = revision

def findAssignment (history : List WorkflowMessage)
    (runnerAgentId kind requestId assignment : String) (revision : Nat) : Option WorkflowMessage :=
  history.find? fun message =>
    message.senderId = runnerAgentId && message.kind = kind &&
      assigns requestId assignment revision message

/-- Whether a message reads as a request for the whole workflow. -/
def requestsRoot (workflowId : String) (message : WorkflowMessage) : Bool :=
  message.kind = workRequested && message.payload.getStr "request_id" = some workflowId &&
    (message.payload.get "assignment").isNone

def findRootRequest (history : List WorkflowMessage) (workflowId : String) :
    Except AuthorReviewError ChangeRequest := do
  let message ← okOr (history.find? fun message =>
      requestsRoot workflowId message && message.senderId ≠ message.recipientId.getD "")
    (.evaluation "root request is absent")
  decodeDirectPayload ChangeRequest.ofValue message

def rootRequester (history : List WorkflowMessage) (workflowId : String) :
    Except AuthorReviewError String := do
  let message ← okOr (history.find? (requestsRoot workflowId))
    (.evaluation "root requester is absent")
  pure message.senderId

/-- The children that a message decomposes the workflow into. -/
def decomposes (workflowId : String) (message : WorkflowMessage) : Option (List ChildRequest) :=
  if message.kind ≠ artifactProposed then none
  else match proposedArtifact message with
    | some (.decomposition _ requestId children) =>
      if requestId = workflowId then some children else none
    | _ => none

def findChildren (history : List WorkflowMessage) (workflowId : String) :
    Except AuthorReviewError (List ChildRequest) :=
  okOr (history.findSome? (decomposes workflowId)) (.evaluation "workflow decomposition is absent")

def hasTerminalEvent (history : List WorkflowMessage) (runnerAgentId kind requestId : String) :
    Bool :=
  history.any fun message =>
    message.senderId = runnerAgentId && message.kind = kind &&
      message.payload.getStr "request_id" = some requestId

def parentWillBeComplete (params : EvaluateParams) (approvingChildId : String)
    (children : List ChildRequest) : Bool :=
  children.all fun child =>
    child.requestId = approvingChildId ||
      hasTerminalEvent params.history params.runnerAgentId workCompleted child.requestId

/-- The reviewers in turn from a place that the request picks; the first who is not the author. -/
def selectReviewer (configuration : AuthorReviewConfiguration) (authorId requestId : String) :
    Except AuthorReviewError String :=
  let reviewers := configuration.reviewerAgentIds
  let start := (utf8Bytes requestId).foldl (fun accumulator byte => accumulator + byte.toNat) 0 %
    reviewers.length
  okOr ((List.range reviewers.length).findSome? fun offset =>
      (reviewers[(start + offset) % reviewers.length]?).filter (· ≠ authorId))
    (.configuration s!"no reviewer distinct from author {authorId}")

def projection (params : EvaluateParams) (rootRequestId phase : String)
    (children : List ChildRequest) : Value :=
  let ended := fun kind => children.countP fun child =>
    hasTerminalEvent params.history params.runnerAgentId kind child.requestId
  .object [
    ("workflow_id", .string params.workflowId),
    ("root_request_id", .string rootRequestId),
    ("phase", .string phase),
    ("child_count", .nat children.length),
    ("completed_children", .nat (ended workCompleted)),
    ("blocked_children", .nat (ended workBlocked))]

/-! ## Conflicts -/

/-- Whether an earlier or later message of the coordinator decomposes the workflow differently. -/
def conflictsDecomposition (params : EvaluateParams) (coordinatorId requestId : String)
    (children : List ChildRequest) (message : WorkflowMessage) : Bool :=
  if message.id = params.input.id ∨ message.kind ≠ artifactProposed ∨
      message.senderId ≠ coordinatorId ∨ message.recipientId ≠ some params.runnerAgentId then false
  else match proposedArtifact message with
    | some (.decomposition schemaVersion priorRequestId priorChildren) =>
      if schemaVersion ≠ 1 ∨ priorRequestId ≠ requestId then false
      else
        !(ProposedArtifact.decomposition schemaVersion priorRequestId priorChildren).toValue.agrees
          (ProposedArtifact.decomposition 1 requestId children).toValue
    | _ => false

def rejectConflictingDecomposition (params : EvaluateParams) (coordinatorId requestId : String)
    (children : List ChildRequest) : Except AuthorReviewError Unit :=
  rejectIf
    (params.history.any (conflictsDecomposition params coordinatorId requestId children) = true)
    (.evaluation "workflow already has a different coordinator decomposition")

/-- Whether another message of the author proposes a different change for the same revision. -/
def conflictsChange (params : EvaluateParams) (requestId : String) (revision : Nat)
    (authorId : String) (current : Value) (message : WorkflowMessage) : Bool :=
  if message.id = params.input.id ∨ message.kind ≠ artifactProposed ∨
      message.senderId ≠ authorId ∨ message.recipientId ≠ some params.runnerAgentId then false
  else match proposedArtifact message with
    | some (.change schemaVersion priorRequestId priorRevision summary artifacts evidence) =>
      if priorRequestId ≠ requestId ∨ priorRevision ≠ revision then false
      else !(ProposedArtifact.change schemaVersion priorRequestId priorRevision summary artifacts
        evidence).toValue.agrees current
    | _ => false

def rejectConflictingChangeArtifact (params : EvaluateParams) (requestId : String) (revision : Nat)
    (authorId : String) (current : Value) : Except AuthorReviewError Unit :=
  rejectIf (params.history.any (conflictsChange params requestId revision authorId current) = true)
    (.evaluation
      s!"change {requestId} revision {revision} already has a different accepted artifact")

/-- Whether another message of the reviewer completes the same assignment differently. -/
def conflictsReview (params : EvaluateParams) (reviewRequest : WorkflowMessage)
    (current : CompletedReview) (message : WorkflowMessage) : Bool :=
  if message.id = params.input.id ∨ message.kind ≠ reviewCompleted ∨
      message.senderId ≠ params.input.senderId ∨
      message.recipientId ≠ some params.runnerAgentId ∨
      message.causationId ≠ some reviewRequest.id then false
  else match completedReview message with
    | some prior =>
      if prior.requestId ≠ current.requestId ∨ prior.revision ≠ current.revision then false
      else !prior.toValue.agrees current.toValue
    | none => false

def rejectConflictingCompletedReview (params : EvaluateParams) (reviewRequest : WorkflowMessage)
    (current : CompletedReview) : Except AuthorReviewError Unit :=
  rejectIf (params.history.any (conflictsReview params reviewRequest current) = true)
    (.evaluation "review assignment already has a different completed review")

/-! ## Root requests -/

/-- What the plugin asks of an assignee, as it is written into an assignment. -/
def expectedOutput (fields : List (String × Value)) (instruction : String) : Value :=
  .object (fields ++ [("instruction", .string instruction)])

/-- The coordinator is asked for a decomposition. -/
def assignCoordinator (configuration : AuthorReviewConfiguration) (request : ChangeRequest) :
    ProposedMessage where
  operationId := "assign-coordinator"
  recipientId := configuration.coordinatorAgentId
  kind := workRequested
  payload := .object [
    ("schema_version", .nat 1),
    ("request_id", .string request.requestId),
    ("parent_request_id", .null),
    ("assignment", .string "coordinator"),
    ("revision", .nat 0),
    ("change_request", request.toValue),
    ("expected_output", expectedOutput
      [("kind", .string artifactProposed), ("artifact_type", .string "decomposition")]
      ("Return only one JSON object matching the decomposition artifact schema as the final " ++
        "assistant message."))]

def evaluateRootRequest (params : EvaluateParams) (configuration : AuthorReviewConfiguration) :
    Except AuthorReviewError EvaluateResult := do
  let request ← decodeDirectPayload ChangeRequest.ofValue params.input
  validateChangeRequest request params.workflowId
  rejectIf (params.input.senderId = params.runnerAgentId)
    (.evaluation "root request must originate outside the workflow runner")
  let proposal ← missingEffect params (assignCoordinator configuration request)
  pure {
    projection := .object [
      ("workflow_id", .string params.workflowId),
      ("root_request_id", .string request.requestId),
      ("phase", .string "awaiting_decomposition"),
      ("child_count", .nat 0),
      ("completed_children", .nat 0),
      ("blocked_children", .nat 0)]
    proposals := proposal.toList }

/-! ## Decompositions -/

/-- One more child: it is valid, not the parent, and not among those before it. -/
def checkChild (requestId : String) (childIds : List String) (child : ChildRequest) :
    Except AuthorReviewError (List String) := do
  validateChildRequest child
  rejectIf (child.requestId = requestId ∨ child.requestId ∈ childIds)
    (payloadError artifactProposed "child request IDs must be unique and differ from the parent")
  pure (child.requestId :: childIds)

/-- An author is asked for the change of one child. -/
def assignAuthor (configuration : AuthorReviewConfiguration) (root : ChangeRequest)
    (requestId : String) (index : Nat) (child : ChildRequest) : ProposedMessage where
  operationId := s!"assign-author:{index}"
  recipientId :=
    (configuration.authorAgentIds[index % configuration.authorAgentIds.length]?).getD ""
  kind := workRequested
  payload := .object [
    ("schema_version", .nat 1),
    ("request_id", .string child.requestId),
    ("parent_request_id", .string requestId),
    ("assignment", .string "author"),
    ("revision", .nat 0),
    ("repository", root.repository.toValue),
    ("change_request", child.toValue),
    ("expected_output", expectedOutput
      [("kind", .string artifactProposed), ("artifact_type", .string "change")]
      ("Implement the bounded change, then return only one JSON object matching the change " ++
        "artifact schema as the final assistant message."))]

def evaluateDecomposition (params : EvaluateParams) (configuration : AuthorReviewConfiguration)
    (schemaVersion : Nat) (requestId : String) (children : List ChildRequest) :
    Except AuthorReviewError EvaluateResult := do
  requireSchemaOne schemaVersion artifactProposed
  rejectIf (requestId ≠ params.workflowId)
    (payloadError artifactProposed "decomposition request_id does not match workflow_id")
  let coordinatorAssignment ← okOr (findAssignment params.history params.runnerAgentId
      workRequested requestId "coordinator" 0)
    (.evaluation "decomposition has no coordinator assignment")
  rejectIf (coordinatorAssignment.recipientId ≠ some params.input.senderId)
    (.evaluation "decomposition sender is not the assigned coordinator")
  rejectConflictingDecomposition params params.input.senderId requestId children
  rejectIf (children = [] ∨ children.length > configuration.maxChildren)
    (payloadError artifactProposed
      s!"decomposition must contain between 1 and {configuration.maxChildren} children")
  let _ ← children.foldlM (checkChild requestId) []
  let root ← findRootRequest params.history requestId
  let proposals ← (children.mapIdx (assignAuthor configuration root requestId)).mapM
    (missingEffect params)
  pure {
    projection := projection params requestId "awaiting_child_artifacts" children
    proposals := proposals.reduceOption }

/-! ## Changes -/

/-- The kind of message that assigns a revision to its author. -/
def authorAssignmentKind (revision : Nat) : String :=
  if revision = 0 then workRequested else revisionRequested

/-- A reviewer is asked to review a change. -/
def requestReview (params : EvaluateParams) (reviewer requestId : String) (revision : Nat)
    (summary : String) (artifacts : List ArtifactReference) (evidence : List String) :
    ProposedMessage where
  operationId := "request-review"
  recipientId := reviewer
  kind := reviewRequested
  payload := .object [
    ("schema_version", .nat 1),
    ("request_id", .string requestId),
    ("parent_request_id", .string params.workflowId),
    ("assignment", .string "reviewer"),
    ("revision", .nat revision),
    ("proposal_message_id", .string params.input.id),
    ("proposal", .object [
      ("summary", .string summary),
      ("artifacts", .array (artifacts.map ArtifactReference.toValue)),
      ("evidence", strings evidence)]),
    ("expected_output", expectedOutput [("kind", .string reviewCompleted)]
      ("Review the exact proposed artifacts and evidence, then return only one JSON object " ++
        "matching the completed review schema as the final assistant message."))]

/-- The references and the evidence of a change are within their bounds. -/
def validateChange (requestId summary : String) (artifacts : List ArtifactReference)
    (evidence : List String) : Except AuthorReviewError Unit := do
  validateIdentifier "change request_id" requestId
  validateText "change summary" summary
  validateBoundedList "change artifacts" artifacts
  validateBoundedList "change evidence" evidence
  rejectIf (artifacts = [])
    (payloadError artifactProposed "change artifact must identify at least one bounded output")
  artifacts.forM fun reference => do
    validateIdentifier "artifact kind" reference.kind
    validateText "artifact URI" reference.uri
    validateIdentifier "artifact revision" reference.revision
  evidence.forM (validateText "artifact evidence")

def evaluateChangeArtifact (params : EvaluateParams) (configuration : AuthorReviewConfiguration)
    (schemaVersion : Nat) (requestId : String) (revision : Nat) (summary : String)
    (artifacts : List ArtifactReference) (evidence : List String) :
    Except AuthorReviewError EvaluateResult := do
  requireSchemaOne schemaVersion artifactProposed
  validateChange requestId summary artifacts evidence
  let authorAssignment ← okOr (findAssignment params.history params.runnerAgentId
      (authorAssignmentKind revision) requestId "author" revision)
    (.evaluation s!"change {requestId} revision {revision} has no author assignment")
  rejectIf (authorAssignment.recipientId ≠ some params.input.senderId)
    (.evaluation "change artifact sender is not its assigned author")
  rejectConflictingChangeArtifact params requestId revision params.input.senderId
    (ProposedArtifact.change schemaVersion requestId revision summary artifacts evidence).toValue
  let reviewer ← selectReviewer configuration params.input.senderId requestId
  let proposal ← missingEffect params
    (requestReview params reviewer requestId revision summary artifacts evidence)
  let children ← findChildren params.history params.workflowId
  pure {
    projection := projection params params.workflowId "awaiting_review" children
    proposals := proposal.toList }

/-- A proposed artifact is evaluated by its variant. -/
def evaluateProposed (params : EvaluateParams) (configuration : AuthorReviewConfiguration) :
    ProposedArtifact → Except AuthorReviewError EvaluateResult
  | .decomposition schemaVersion requestId children =>
    evaluateDecomposition params configuration schemaVersion requestId children
  | .change schemaVersion requestId revision summary artifacts evidence =>
    evaluateChangeArtifact params configuration schemaVersion requestId revision summary artifacts
      evidence

def evaluateArtifact (params : EvaluateParams) (configuration : AuthorReviewConfiguration) :
    Except AuthorReviewError EvaluateResult := do
  let value ← extractSemanticPayload params.input
  let artifact ← decodeValue ProposedArtifact.ofValue artifactProposed value
  evaluateProposed params configuration artifact

/-! ## Reviews -/

/-- The fields of a review are within their bounds. -/
def validateReview (review : CompletedReview) : Except AuthorReviewError Unit := do
  requireSchemaOne review.schemaVersion reviewCompleted
  validateIdentifier "review request_id" review.requestId
  validateText "review summary" review.summary
  validateBoundedList "review findings" review.findings
  review.findings.forM (validateText "review finding")

/-- The review request that a completed review answers. -/
def findReviewRequest (params : EvaluateParams) (review : CompletedReview) :
    Option WorkflowMessage :=
  params.input.causationId.bind fun causationId => params.history.find? fun message =>
    message.id = causationId && message.senderId = params.runnerAgentId &&
      message.kind = reviewRequested && assigns review.requestId "reviewer" review.revision message

/-- A change artifact with the fields that the policy reads. -/
def changeParts : ProposedArtifact →
    Option (Nat × String × Nat × String × List ArtifactReference × List String)
  | .change schemaVersion requestId revision summary artifacts evidence =>
    some (schemaVersion, requestId, revision, summary, artifacts, evidence)
  | .decomposition .. => none

def validateReviewedProposal (params : EvaluateParams) (reviewRequest : WorkflowMessage)
    (proposalMessageId requestId : String) (revision : Nat) : Except AuthorReviewError Unit := do
  let proposalMessage ← okOr (params.history.find? fun message =>
      message.id = proposalMessageId && message.kind = artifactProposed &&
        message.recipientId = some params.runnerAgentId)
    (.evaluation "review assignment does not identify a correlated artifact")
  rejectIf (reviewRequest.causationId ≠ some proposalMessageId)
    (.evaluation "review assignment is not caused by its exact artifact")
  let value ← extractSemanticPayload proposalMessage
  let artifact ← decodeValue ProposedArtifact.ofValue artifactProposed value
  let (schemaVersion, artifactRequestId, artifactRevision, summary, artifacts, evidence) ←
    okOr (changeParts artifact)
      (.evaluation "review assignment does not identify a change artifact")
  requireSchemaOne schemaVersion artifactProposed
  rejectIf (artifactRequestId ≠ requestId ∨ artifactRevision ≠ revision)
    (.evaluation "review assignment identifies the wrong artifact revision")
  let authorAssignment ← okOr (findAssignment params.history params.runnerAgentId
      (authorAssignmentKind revision) requestId "author" revision)
    (.evaluation "reviewed artifact has no author assignment")
  rejectIf (authorAssignment.recipientId ≠ some proposalMessage.senderId)
    (.evaluation "reviewed artifact sender is not its assigned author")
  rejectIf (Value.agreesOptional (reviewRequest.payload.get "proposal") (some (.object [
      ("summary", .string summary),
      ("artifacts", .array (artifacts.map ArtifactReference.toValue)),
      ("evidence", strings evidence)])) = false)
    (.evaluation "review assignment proposal does not match its exact artifact")

/-- A child is reported as completed. -/
def completeChild (params : EvaluateParams) (requester : String) (review : CompletedReview)
    (proposalMessageId : String) : ProposedMessage where
  operationId := "complete-child"
  recipientId := requester
  kind := workCompleted
  payload := .object [
    ("schema_version", .nat 1),
    ("request_id", .string review.requestId),
    ("parent_request_id", .string params.workflowId),
    ("revision", .nat review.revision),
    ("proposal_message_id", .string proposalMessageId),
    ("review_message_id", .string params.input.id),
    ("summary", .string review.summary)]

/-- The whole request is reported as completed. -/
def completeParent (params : EvaluateParams) (requester : String) (root : ChangeRequest)
    (children : List ChildRequest) : ProposedMessage where
  operationId := "complete-parent"
  recipientId := requester
  kind := workCompleted
  payload := .object [
    ("schema_version", .nat 1),
    ("request_id", .string params.workflowId),
    ("parent_request_id", .null),
    ("title", .string root.title),
    ("children", strings (children.map ChildRequest.requestId)),
    ("summary", .string "Every child change request completed its author-review policy.")]

def approveReview (params : EvaluateParams) (review : CompletedReview) (proposalMessageId : String)
    (root : ChangeRequest) (children : List ChildRequest) :
    Except AuthorReviewError (List ProposedMessage) := do
  let requester ← rootRequester params.history params.workflowId
  let child ← missingEffect params (completeChild params requester review proposalMessageId)
  if parentWillBeComplete params review.requestId children then
    let requester ← rootRequester params.history params.workflowId
    let parent ← missingEffect params (completeParent params requester root children)
    pure (child.toList ++ parent.toList)
  else pure child.toList

/-- A child is reported as blocked. -/
def blockChild (params : EvaluateParams) (requester : String) (review : CompletedReview) :
    ProposedMessage where
  operationId := "block-child"
  recipientId := requester
  kind := workBlocked
  payload := .object [
    ("schema_version", .nat 1),
    ("request_id", .string review.requestId),
    ("parent_request_id", .string params.workflowId),
    ("reason", .string "revision_limit_reached"),
    ("revision", .nat review.revision),
    ("findings", strings review.findings)]

/-- The whole request is reported as blocked. -/
def blockParent (params : EvaluateParams) (requester : String) (review : CompletedReview)
    (root : ChangeRequest) : ProposedMessage where
  operationId := "block-parent"
  recipientId := requester
  kind := workBlocked
  payload := .object [
    ("schema_version", .nat 1),
    ("request_id", .string params.workflowId),
    ("parent_request_id", .null),
    ("title", .string root.title),
    ("reason", .string "child_revision_limit_reached"),
    ("blocked_child_id", .string review.requestId)]

/-- The author is asked for the next revision. -/
def requestRevision (params : EvaluateParams) (author : String) (review : CompletedReview)
    (proposalMessageId : String) : ProposedMessage where
  operationId := "request-revision"
  recipientId := author
  kind := revisionRequested
  payload := .object [
    ("schema_version", .nat 1),
    ("request_id", .string review.requestId),
    ("parent_request_id", .string params.workflowId),
    ("assignment", .string "author"),
    ("revision", .nat (review.revision + 1)),
    ("prior_proposal_message_id", .string proposalMessageId),
    ("review_message_id", .string params.input.id),
    ("findings", strings review.findings),
    ("expected_output", expectedOutput
      [("kind", .string artifactProposed), ("artifact_type", .string "change"),
        ("revision", .nat (review.revision + 1))]
      ("Address every finding, then return only one JSON object matching the change artifact " ++
        "schema as the final assistant message."))]

def reviseReview (params : EvaluateParams) (configuration : AuthorReviewConfiguration)
    (review : CompletedReview) (proposalMessageId : String) (root : ChangeRequest) :
    Except AuthorReviewError (List ProposedMessage) := do
  rejectIf (review.findings = [])
    (payloadError reviewCompleted "revision decision requires at least one finding")
  let requester ← rootRequester params.history params.workflowId
  if review.revision ≥ configuration.maxRevisionRounds then
    let child ← missingEffect params (blockChild params requester review)
    let parent ← missingEffect params (blockParent params requester review root)
    pure (child.toList ++ parent.toList)
  else
    let originalAuthor ← okOr ((findAssignment params.history params.runnerAgentId workRequested
        review.requestId "author" 0).bind (·.recipientId))
      (.evaluation "child has no original author")
    let proposal ← missingEffect params
      (requestRevision params originalAuthor review proposalMessageId)
    pure proposal.toList

/-- What is proposed on the decision of a review. -/
def proposalsOn (params : EvaluateParams) (configuration : AuthorReviewConfiguration)
    (review : CompletedReview) (proposalMessageId : String) (root : ChangeRequest)
    (children : List ChildRequest) : Except AuthorReviewError (List ProposedMessage) :=
  match review.decision with
  | .approve => approveReview params review proposalMessageId root children
  | .revise => reviseReview params configuration review proposalMessageId root

/-- How far the workflow is after a review. -/
def phaseAfterReview (params : EvaluateParams) (configuration : AuthorReviewConfiguration)
    (review : CompletedReview) (children : List ChildRequest) : String :=
  match review.decision with
  | .approve =>
    if parentWillBeComplete params review.requestId children then "completed"
    else "awaiting_children"
  | .revise =>
    if review.revision ≥ configuration.maxRevisionRounds then "blocked" else "awaiting_revision"

def evaluateReview (params : EvaluateParams) (configuration : AuthorReviewConfiguration) :
    Except AuthorReviewError EvaluateResult := do
  let value ← extractSemanticPayload params.input
  let review ← decodeValue CompletedReview.ofValue reviewCompleted value
  validateReview review
  let reviewRequest ← okOr (findReviewRequest params review)
    (.evaluation (s!"review {review.requestId} revision {review.revision} is not caused by its " ++
      "precise review assignment"))
  rejectIf (reviewRequest.recipientId ≠ some params.input.senderId)
    (.evaluation "completed review sender is not its assigned reviewer")
  let proposalMessageId ← okOr ((assignmentIdentity reviewRequest).bind (·.proposalMessageId))
    (.evaluation "review request lacks proposal identity")
  validateReviewedProposal params reviewRequest proposalMessageId review.requestId review.revision
  rejectConflictingCompletedReview params reviewRequest review
  let root ← findRootRequest params.history params.workflowId
  let children ← findChildren params.history params.workflowId
  rejectIf (children.any (fun child => child.requestId = review.requestId) = false)
    (.evaluation "completed review does not belong to the workflow decomposition")
  let proposals ← proposalsOn params configuration review proposalMessageId root children
  pure {
    projection := projection params params.workflowId
      (phaseAfterReview params configuration review children) children
    proposals := proposals }

/-! ## Evaluation -/

/-- One more proposal: its operation is named, not proposed twice, and its kind is declared. -/
def checkProposal (operationIds : List String) (proposal : ProposedMessage) :
    Except AuthorReviewError (List String) := do
  validateIdentifier "proposal operation_id" proposal.operationId
  rejectIf (proposal.operationId ∈ operationIds)
    (.evaluation s!"duplicate proposal operation_id {proposal.operationId}")
  rejectIf (proposal.kind ∉ eventKinds)
    (.evaluation s!"proposal has undeclared kind {proposal.kind}")
  pure (proposal.operationId :: operationIds)

/-- What the leased input asks for, by its kind. -/
def evaluateInput (params : EvaluateParams) (configuration : AuthorReviewConfiguration) :
    Except AuthorReviewError EvaluateResult :=
  if params.input.kind = workRequested then evaluateRootRequest params configuration
  else if params.input.kind = artifactProposed then evaluateArtifact params configuration
  else if params.input.kind = reviewCompleted then evaluateReview params configuration
  else .error (.evaluation s!"runner received unsupported input kind {params.input.kind}")

/-- Projects the workflow from its history and proposes the effects that are missing. -/
def evaluate (params : EvaluateParams) : Except AuthorReviewError EvaluateResult := do
  validateEvaluation params
  let configuration ← validateConfiguration params
  let result ← evaluateInput params configuration
  rejectIf (result.proposals.length > maxProposals)
    (.evaluation s!"plugin proposed more than {maxProposals} effects")
  let _ ← result.proposals.foldlM checkProposal []
  pure result

end Fleetd.Workflow
