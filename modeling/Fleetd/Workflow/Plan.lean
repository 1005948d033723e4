import Mathlib.Data.List.ReduceOption
import Fleetd.Effects.Fallible
import Fleetd.Workflow.Plugin

/-!
# What an evaluation plans

An evaluation does two things that the code interleaves: it derives from the history which
effects the leased input calls for, and it leaves out those that are committed. Here the
effects that are called for are a relation of their own, with one case for each kind of
input, and an evaluation that succeeds is a plan of which the missing effects are proposed.
-/

namespace Fleetd.Workflow

open Serde (Value)
open Effects

variable {params : EvaluateParams} {configuration : AuthorReviewConfiguration}

/-! ## Missing effects -/

/-- Whether a message of the history commits the effect that a proposal asks for. -/
def EvaluateParams.commits (params : EvaluateParams) (proposal : ProposedMessage)
    (message : WorkflowMessage) : Bool :=
  message.senderId = params.runnerAgentId && sameLogicalEffect message proposal

/-- Whether the history commits the effect that a proposal asks for. -/
def EvaluateParams.committed (params : EvaluateParams) (proposal : ProposedMessage) : Bool :=
  params.history.any (params.commits proposal)

/-- Every committed effect that a proposal asks for is the one that it asks for. -/
def EvaluateParams.Undisputed (params : EvaluateParams) (proposal : ProposedMessage) : Prop :=
  ∀ message ∈ params.history, params.commits proposal message = true →
    divergesFrom message proposal = false

/-- One message is noted if it commits the effect, and then it must not diverge from it. -/
theorem noteCommitted_ok {proposal : ProposedMessage} {message : WorkflowMessage}
    {before after : Bool} :
    noteCommitted params.runnerAgentId proposal before message = .ok after ↔
      (params.commits proposal message = true → divergesFrom message proposal = false) ∧
        after = (before || params.commits proposal message) := by
  rw [noteCommitted]
  cases hcommits : params.commits proposal message with
  | true =>
    have hrun : ¬ (message.senderId ≠ params.runnerAgentId ∨
        sameLogicalEffect message proposal = false) := by
      simpa [EvaluateParams.commits] using hcommits
    rw [if_neg hrun]
    simp only [except_bind_ok, rejectIf_ok, except_pure_ok]
    simp
  | false =>
    have hskip : message.senderId ≠ params.runnerAgentId ∨
        sameLogicalEffect message proposal = false := by
      rw [EvaluateParams.commits, Bool.and_eq_false_iff, decide_eq_false_iff_not] at hcommits
      exact hcommits
    rw [if_pos hskip]
    simp [except_pure_ok]

/-- Going through some messages notes whether one of them commits the effect. -/
theorem foldlM_noteCommitted {proposal : ProposedMessage} {history : List WorkflowMessage}
    {before after : Bool} :
    history.foldlM (noteCommitted params.runnerAgentId proposal) before = .ok after ↔
      (∀ message ∈ history, params.commits proposal message = true →
        divergesFrom message proposal = false) ∧
      after = (before || history.any (params.commits proposal)) := by
  induction history generalizing before with
  | nil => simp [except_pure_ok]
  | cons message history ih =>
    simp only [List.foldlM_cons, except_bind_ok, noteCommitted_ok, ih, List.any_cons,
      List.forall_mem_cons]
    constructor
    · rintro ⟨_, ⟨hfirst, rfl⟩, hrest, hafter⟩
      exact ⟨⟨hfirst, hrest⟩, by rw [hafter, Bool.or_assoc]⟩
    · rintro ⟨⟨hfirst, hrest⟩, hafter⟩
      exact ⟨_, ⟨hfirst, rfl⟩, hrest, by rw [hafter, Bool.or_assoc]⟩

/-- A proposal is left out exactly if its effect is committed, and a diverging one is an error. -/
theorem missingEffect_ok {proposal : ProposedMessage} {missing : Option ProposedMessage} :
    missingEffect params proposal = .ok missing ↔
      params.Undisputed proposal ∧
        missing = if params.committed proposal then none else some proposal := by
  simp only [missingEffect, except_bind_ok, foldlM_noteCommitted, except_pure_ok, Bool.false_or]
  constructor
  · rintro ⟨_, ⟨hundisputed, rfl⟩, hmissing⟩
    exact ⟨hundisputed, hmissing⟩
  · rintro ⟨hundisputed, hmissing⟩
    exact ⟨_, ⟨hundisputed, rfl⟩, hmissing⟩

/-- The effects of a plan that are missing. -/
def EvaluateParams.missing (params : EvaluateParams) (planned : List ProposedMessage) :
    List ProposedMessage :=
  planned.filter fun proposal => !params.committed proposal

/-- Going through a plan leaves out the effects that are committed. -/
theorem mapM_missingEffect {planned : List ProposedMessage} {found : List (Option ProposedMessage)} :
    planned.mapM (missingEffect params) = .ok found ↔
      (∀ proposal ∈ planned, params.Undisputed proposal) ∧
        found = planned.map fun proposal => if params.committed proposal then none else some proposal := by
  induction planned generalizing found with
  | nil => simp [except_pure_ok]
  | cons proposal planned ih =>
    simp only [List.mapM_cons, except_bind_ok, missingEffect_ok, ih, List.forall_mem_cons,
      List.map_cons, except_pure_ok]
    constructor
    · rintro ⟨_, ⟨hfirst, rfl⟩, _, ⟨hrest, rfl⟩, hfound⟩
      exact ⟨⟨hfirst, hrest⟩, hfound⟩
    · rintro ⟨⟨hfirst, hrest⟩, hfound⟩
      exact ⟨_, ⟨hfirst, rfl⟩, _, ⟨hrest, rfl⟩, hfound⟩

/-- What is found missing of a plan. -/
theorem reduceOption_missing (planned : List ProposedMessage) :
    (planned.map fun proposal => if params.committed proposal then none else some proposal).reduceOption =
      params.missing planned := by
  induction planned with
  | nil => rfl
  | cons proposal planned ih =>
    rw [EvaluateParams.missing] at ih ⊢
    cases h : params.committed proposal with
    | true =>
      rw [List.map_cons, if_pos h, List.reduceOption_cons_of_none, ih,
        List.filter_cons_of_neg (by simp [h])]
    | false =>
      rw [List.map_cons, if_neg (by simp [h]), List.reduceOption_cons_of_some, ih,
        List.filter_cons_of_pos (by simp [h])]

/-- What is found missing of one effect. -/
theorem toList_missing (proposal : ProposedMessage) :
    (if params.committed proposal then none else some proposal).toList =
      params.missing [proposal] := by
  by_cases h : params.committed proposal = true <;> simp [EvaluateParams.missing, h]

/-- What is missing of two parts of a plan. -/
theorem missing_append (planned more : List ProposedMessage) :
    params.missing (planned ++ more) = params.missing planned ++ params.missing more :=
  List.filter_append ..

/-! ## Plans -/

/-- What is established about a completed review before its decision counts. -/
structure Reviewed (params : EvaluateParams) (review : CompletedReview)
    (reviewRequest : WorkflowMessage) (proposalMessageId : String) (root : ChangeRequest)
    (children : List ChildRequest) : Prop where
  kind : params.input.kind = reviewCompleted
  payload : completedReview params.input = some review
  valid : validateReview review = .ok ()
  request : findReviewRequest params review = some reviewRequest
  reviewer : reviewRequest.recipientId = some params.input.senderId
  identity :
    (assignmentIdentity reviewRequest).bind (·.proposalMessageId) = some proposalMessageId
  artifact : validateReviewedProposal params reviewRequest proposalMessageId review.requestId
    review.revision = .ok ()
  settled : rejectConflictingCompletedReview params reviewRequest review = .ok ()
  rooted : findRootRequest params.history params.workflowId = .ok root
  decomposed : findChildren params.history params.workflowId = .ok children
  belongs : children.any (fun child => child.requestId = review.requestId) = true

/-- The effects that the leased input calls for, committed or not. -/
inductive Plans (params : EvaluateParams) (configuration : AuthorReviewConfiguration) :
    List ProposedMessage → Prop
  | rootRequest {request : ChangeRequest} (kind : params.input.kind = workRequested)
      (payload : ChangeRequest.ofValue params.input.payload = some request)
      (valid : validateChangeRequest request params.workflowId = .ok ())
      (sender : params.input.senderId ≠ params.runnerAgentId) :
      Plans params configuration [assignCoordinator configuration request]
  | decomposition {children : List ChildRequest} {root : ChangeRequest}
      {assignment : WorkflowMessage} (kind : params.input.kind = artifactProposed)
      (payload : proposedArtifact params.input =
        some (.decomposition 1 params.workflowId children))
      (assigned : findAssignment params.history params.runnerAgentId workRequested
        params.workflowId "coordinator" 0 = some assignment)
      (coordinator : assignment.recipientId = some params.input.senderId)
      (settled : rejectConflictingDecomposition params params.input.senderId params.workflowId
        children = .ok ())
      (bounded : ¬ (children = [] ∨ children.length > configuration.maxChildren))
      (checked : ∃ ids, children.foldlM (checkChild params.workflowId) [] = .ok ids)
      (rooted : findRootRequest params.history params.workflowId = .ok root) :
      Plans params configuration
        (children.mapIdx (assignAuthor configuration root params.workflowId))
  | change {requestId summary reviewer : String} {revision : Nat}
      {artifacts : List ArtifactReference} {evidence : List String}
      {children : List ChildRequest} {assignment : WorkflowMessage}
      (kind : params.input.kind = artifactProposed)
      (payload : proposedArtifact params.input =
        some (.change 1 requestId revision summary artifacts evidence))
      (valid : validateChange requestId summary artifacts evidence = .ok ())
      (assigned : findAssignment params.history params.runnerAgentId
        (authorAssignmentKind revision) requestId "author" revision = some assignment)
      (author : assignment.recipientId = some params.input.senderId)
      (settled : rejectConflictingChangeArtifact params requestId revision params.input.senderId
        (ProposedArtifact.change 1 requestId revision summary artifacts evidence).toValue = .ok ())
      (selected : selectReviewer configuration params.input.senderId requestId = .ok reviewer)
      (decomposed : findChildren params.history params.workflowId = .ok children) :
      Plans params configuration
        [requestReview params reviewer requestId revision summary artifacts evidence]
  | approval {review : CompletedReview} {reviewRequest : WorkflowMessage}
      {proposalMessageId requester : String} {root : ChangeRequest} {children : List ChildRequest}
      (reviewed : Reviewed params review reviewRequest proposalMessageId root children)
      (decision : review.decision = .approve)
      (requested : rootRequester params.history params.workflowId = .ok requester) :
      Plans params configuration (completeChild params requester review proposalMessageId ::
        if parentWillBeComplete params review.requestId children then
          [completeParent params requester root children]
        else [])
  | blocking {review : CompletedReview} {reviewRequest : WorkflowMessage}
      {proposalMessageId requester : String} {root : ChangeRequest} {children : List ChildRequest}
      (reviewed : Reviewed params review reviewRequest proposalMessageId root children)
      (decision : review.decision = .revise) (findings : review.findings ≠ [])
      (requested : rootRequester params.history params.workflowId = .ok requester)
      (limit : configuration.maxRevisionRounds ≤ review.revision) :
      Plans params configuration
        [blockChild params requester review, blockParent params requester review root]
  | revision {review : CompletedReview} {reviewRequest : WorkflowMessage}
      {proposalMessageId requester author : String} {root : ChangeRequest}
      {children : List ChildRequest}
      (reviewed : Reviewed params review reviewRequest proposalMessageId root children)
      (decision : review.decision = .revise) (findings : review.findings ≠ [])
      (requested : rootRequester params.history params.workflowId = .ok requester)
      (limit : review.revision < configuration.maxRevisionRounds)
      (assigned : (findAssignment params.history params.runnerAgentId workRequested
        review.requestId "author" 0).bind (·.recipientId) = some author) :
      Plans params configuration [requestRevision params author review proposalMessageId]

/-- The proposals are those effects of a plan that are missing, and nothing disputes the rest. -/
def EvaluateParams.Settles (params : EvaluateParams) (planned proposals : List ProposedMessage) :
    Prop :=
  (∀ proposal ∈ planned, params.Undisputed proposal) ∧ proposals = params.missing planned

/-- A result with the given proposals, whatever its projection. -/
def Proposes (result : Except AuthorReviewError EvaluateResult)
    (proposals : List ProposedMessage) : Prop :=
  ∃ projection, result = .ok ⟨projection, proposals⟩

theorem settles_singleton {proposal : ProposedMessage} {proposals : List ProposedMessage} :
    params.Settles [proposal] proposals ↔
      params.Undisputed proposal ∧
        proposals = (if params.committed proposal then none else some proposal).toList := by
  rw [EvaluateParams.Settles, toList_missing, List.forall_mem_singleton]

/-- A root request is answered with the coordinator's assignment. -/
theorem evaluateRootRequest_iff {proposals : List ProposedMessage} :
    Proposes (evaluateRootRequest params configuration) proposals ↔
      ∃ request, ChangeRequest.ofValue params.input.payload = some request ∧
        validateChangeRequest request params.workflowId = .ok () ∧
        params.input.senderId ≠ params.runnerAgentId ∧
        params.Settles [assignCoordinator configuration request] proposals := by
  simp only [Proposes, evaluateRootRequest, except_bind_ok, decodeDirectPayload, decodeValue,
    okOr_ok, rejectIf_ok, missingEffect_ok, except_pure_ok, EvaluateResult.mk.injEq,
    settles_singleton]
  constructor
  · rintro ⟨_, request, hpayload, _, hvalid, _, hsender, _, ⟨hundisputed, rfl⟩, _, hproposals⟩
    exact ⟨request, hpayload, hvalid, hsender, hundisputed, hproposals⟩
  · rintro ⟨request, hpayload, hvalid, hsender, hundisputed, hproposals⟩
    exact ⟨_, request, hpayload, (), hvalid, (), hsender, _, ⟨hundisputed, rfl⟩, rfl, hproposals⟩

/-- A decomposition is answered with an assignment for each child. -/
theorem evaluateDecomposition_iff {schemaVersion : Nat} {requestId : String}
    {children : List ChildRequest} {proposals : List ProposedMessage} :
    Proposes (evaluateDecomposition params configuration schemaVersion requestId children)
        proposals ↔
      schemaVersion = 1 ∧ requestId = params.workflowId ∧ ∃ assignment root,
        findAssignment params.history params.runnerAgentId workRequested requestId "coordinator" 0 =
          some assignment ∧
        assignment.recipientId = some params.input.senderId ∧
        rejectConflictingDecomposition params params.input.senderId requestId children = .ok () ∧
        ¬ (children = [] ∨ children.length > configuration.maxChildren) ∧
        (∃ ids, children.foldlM (checkChild requestId) [] = .ok ids) ∧
        findRootRequest params.history requestId = .ok root ∧
        params.Settles (children.mapIdx (assignAuthor configuration root requestId)) proposals := by
  simp only [Proposes, evaluateDecomposition, requireSchemaOne, except_bind_ok, okOr_ok,
    rejectIf_ok, mapM_missingEffect, except_pure_ok, EvaluateResult.mk.injEq, not_not,
    EvaluateParams.Settles]
  constructor
  · rintro ⟨_, _, hschema, _, hrequest, assignment, hassigned, _, hcoordinator, _, hsettled, _,
      hbounded, ids, hids, root, hroot, _, ⟨hundisputed, rfl⟩, _, hproposals⟩
    rw [reduceOption_missing] at hproposals
    exact ⟨hschema, hrequest, assignment, root, hassigned, hcoordinator, hsettled, hbounded,
      ⟨ids, hids⟩, hroot, hundisputed, hproposals⟩
  · rintro ⟨hschema, hrequest, assignment, root, hassigned, hcoordinator, hsettled, hbounded,
      ⟨ids, hids⟩, hroot, hundisputed, hproposals⟩
    exact ⟨_, (), hschema, (), hrequest, assignment, hassigned, (), hcoordinator, (), hsettled, (),
      hbounded, ids, hids, root, hroot, _, ⟨hundisputed, rfl⟩, rfl,
      hproposals.trans (reduceOption_missing _).symm⟩

/-- A change is answered with an assignment for its reviewer. -/
theorem evaluateChangeArtifact_iff {schemaVersion revision : Nat} {requestId summary : String}
    {artifacts : List ArtifactReference} {evidence : List String}
    {proposals : List ProposedMessage} :
    Proposes (evaluateChangeArtifact params configuration schemaVersion requestId revision summary
        artifacts evidence) proposals ↔
      schemaVersion = 1 ∧ ∃ assignment reviewer children,
        validateChange requestId summary artifacts evidence = .ok () ∧
        findAssignment params.history params.runnerAgentId (authorAssignmentKind revision) requestId
          "author" revision = some assignment ∧
        assignment.recipientId = some params.input.senderId ∧
        rejectConflictingChangeArtifact params requestId revision params.input.senderId
          (ProposedArtifact.change schemaVersion requestId revision summary artifacts
            evidence).toValue = .ok () ∧
        selectReviewer configuration params.input.senderId requestId = .ok reviewer ∧
        findChildren params.history params.workflowId = .ok children ∧
        params.Settles [requestReview params reviewer requestId revision summary artifacts evidence]
          proposals := by
  simp only [Proposes, evaluateChangeArtifact, requireSchemaOne, except_bind_ok, okOr_ok,
    rejectIf_ok, missingEffect_ok, except_pure_ok, EvaluateResult.mk.injEq, not_not,
    settles_singleton]
  constructor
  · rintro ⟨_, _, hschema, _, hvalid, assignment, hassigned, _, hauthor, _, hsettled, reviewer,
      hreviewer, _, ⟨hundisputed, rfl⟩, children, hchildren, _, hproposals⟩
    exact ⟨hschema, assignment, reviewer, children, hvalid, hassigned, hauthor, hsettled, hreviewer,
      hchildren, hundisputed, hproposals⟩
  · rintro ⟨hschema, assignment, reviewer, children, hvalid, hassigned, hauthor, hsettled,
      hreviewer, hchildren, hundisputed, hproposals⟩
    exact ⟨_, (), hschema, (), hvalid, assignment, hassigned, (), hauthor, (), hsettled, reviewer,
      hreviewer, _, ⟨hundisputed, rfl⟩, children, hchildren, rfl, hproposals⟩

/-- A semantic payload that is found and decoded. -/
theorem extracted_iff {α : Type} {ofValue : Value → Option α} {message : WorkflowMessage} {a : α} :
    (extractSemanticPayload message).toOption.bind ofValue = some a ↔
      ∃ value, extractSemanticPayload message = .ok value ∧ ofValue value = some a := by
  cases extractSemanticPayload message <;> simp [Except.toOption]

/-- An approval is answered with the completion of the child, and of the parent if it is the last. -/
theorem approveReview_ok {review : CompletedReview} {proposalMessageId : String}
    {root : ChangeRequest} {children : List ChildRequest} {proposals : List ProposedMessage} :
    approveReview params review proposalMessageId root children = .ok proposals ↔
      ∃ requester, rootRequester params.history params.workflowId = .ok requester ∧
        params.Settles (completeChild params requester review proposalMessageId ::
          if parentWillBeComplete params review.requestId children then
            [completeParent params requester root children]
          else []) proposals := by
  rw [approveReview]
  by_cases hlast : parentWillBeComplete params review.requestId children = true
  · simp only [hlast, if_true, except_bind_ok, missingEffect_ok, except_pure_ok,
      EvaluateParams.Settles, List.forall_mem_cons, List.not_mem_nil, false_imp_iff, implies_true,
      and_true]
    constructor
    · rintro ⟨requester, hrequester, _, ⟨hchild, rfl⟩, again, hagain, _, ⟨hparent, rfl⟩, hproposals⟩
      obtain rfl : requester = again := Except.ok.inj (hrequester.symm.trans hagain)
      rw [toList_missing, toList_missing, ← missing_append] at hproposals
      exact ⟨requester, hrequester, ⟨hchild, hparent⟩, hproposals⟩
    · rintro ⟨requester, hrequester, ⟨hchild, hparent⟩, hproposals⟩
      refine ⟨requester, hrequester, _, ⟨hchild, rfl⟩, requester, hrequester, _, ⟨hparent, rfl⟩, ?_⟩
      rw [toList_missing, toList_missing, ← missing_append]
      exact hproposals
  · simp only [hlast, except_bind_ok, missingEffect_ok, except_pure_ok, EvaluateParams.Settles,
      List.forall_mem_singleton, Bool.false_eq_true, if_false]
    constructor
    · rintro ⟨requester, hrequester, _, ⟨hchild, rfl⟩, hproposals⟩
      rw [toList_missing] at hproposals
      exact ⟨requester, hrequester, hchild, hproposals⟩
    · rintro ⟨requester, hrequester, hchild, hproposals⟩
      exact ⟨requester, hrequester, _, ⟨hchild, rfl⟩, by rw [toList_missing]; exact hproposals⟩

/-- A revision is answered with a new assignment, or with the end of the child and its parent. -/
theorem reviseReview_ok {review : CompletedReview} {proposalMessageId : String}
    {root : ChangeRequest} {proposals : List ProposedMessage} :
    reviseReview params configuration review proposalMessageId root = .ok proposals ↔
      review.findings ≠ [] ∧ ∃ requester,
        rootRequester params.history params.workflowId = .ok requester ∧
        (configuration.maxRevisionRounds ≤ review.revision ∧
            params.Settles [blockChild params requester review,
              blockParent params requester review root] proposals ∨
          review.revision < configuration.maxRevisionRounds ∧ ∃ author,
            (findAssignment params.history params.runnerAgentId workRequested review.requestId
              "author" 0).bind (·.recipientId) = some author ∧
            params.Settles [requestRevision params author review proposalMessageId] proposals) := by
  rw [reviseReview]
  by_cases hlimit : review.revision ≥ configuration.maxRevisionRounds
  · have hnot : ¬ review.revision < configuration.maxRevisionRounds := Nat.not_lt.2 hlimit
    simp only [if_pos hlimit, except_bind_ok, rejectIf_ok, missingEffect_ok, except_pure_ok,
      EvaluateParams.Settles, List.forall_mem_cons, List.not_mem_nil, false_imp_iff, implies_true,
      and_true, hnot, false_and, or_false]
    constructor
    · rintro ⟨_, hfindings, requester, hrequester, _, ⟨hchild, rfl⟩, _, ⟨hparent, rfl⟩, hproposals⟩
      rw [toList_missing, toList_missing, ← missing_append] at hproposals
      exact ⟨hfindings, requester, hrequester, hlimit, ⟨hchild, hparent⟩, hproposals⟩
    · rintro ⟨hfindings, requester, hrequester, -, ⟨hchild, hparent⟩, hproposals⟩
      refine ⟨(), hfindings, requester, hrequester, _, ⟨hchild, rfl⟩, _, ⟨hparent, rfl⟩, ?_⟩
      rw [toList_missing, toList_missing, ← missing_append]
      exact hproposals
  · have hbelow : review.revision < configuration.maxRevisionRounds := Nat.not_le.1 hlimit
    have hnot : ¬ configuration.maxRevisionRounds ≤ review.revision := hlimit
    simp only [ge_iff_le, hnot, if_false, except_bind_ok, rejectIf_ok, okOr_ok, missingEffect_ok,
      except_pure_ok, settles_singleton, hbelow, false_and, false_or, true_and]
    constructor
    · rintro ⟨_, hfindings, requester, hrequester, author, hauthor, _, ⟨hnext, rfl⟩, hproposals⟩
      exact ⟨hfindings, requester, hrequester, author, hauthor, hnext, hproposals⟩
    · rintro ⟨hfindings, requester, hrequester, author, hauthor, hnext, hproposals⟩
      exact ⟨(), hfindings, requester, hrequester, author, hauthor, _, ⟨hnext, rfl⟩, hproposals⟩

/-- A review is established before its decision counts. -/
theorem evaluateReview_iff {proposals : List ProposedMessage}
    (hkind : params.input.kind = reviewCompleted) :
    Proposes (evaluateReview params configuration) proposals ↔
      ∃ review reviewRequest proposalMessageId root children,
        Reviewed params review reviewRequest proposalMessageId root children ∧
        proposalsOn params configuration review proposalMessageId root children = .ok proposals := by
  simp only [Proposes, evaluateReview, decodeValue, except_bind_ok, okOr_ok, rejectIf_ok,
    except_pure_ok, EvaluateResult.mk.injEq, Bool.not_eq_false, not_not]
  constructor
  · rintro ⟨_, value, hvalue, review, hreview, _, hvalid, reviewRequest, hrequest, _, hreviewer,
      proposalMessageId, hidentity, _, hartifact, _, hsettled, root, hroot, children, hchildren, _,
      hbelongs, _, hfound, -, rfl⟩
    exact ⟨review, reviewRequest, proposalMessageId, root, children,
      ⟨hkind, extracted_iff.2 ⟨value, hvalue, hreview⟩, hvalid, hrequest, hreviewer, hidentity,
        hartifact, hsettled, hroot, hchildren, hbelongs⟩, hfound⟩
  · rintro ⟨review, reviewRequest, proposalMessageId, root, children, h, hfound⟩
    obtain ⟨value, hvalue, hreview⟩ := extracted_iff.1 h.payload
    exact ⟨_, value, hvalue, review, hreview, (), h.valid, reviewRequest, h.request, (), h.reviewer,
      proposalMessageId, h.identity, (), h.artifact, (), h.settled, root, h.rooted, children,
      h.decomposed, (), h.belongs, proposals, hfound, rfl, rfl⟩

/-- An artifact is read before its variant is looked at. -/
theorem evaluateArtifact_iff {proposals : List ProposedMessage} :
    Proposes (evaluateArtifact params configuration) proposals ↔
      ∃ artifact, proposedArtifact params.input = some artifact ∧
        Proposes (evaluateProposed params configuration artifact) proposals := by
  simp only [Proposes, evaluateArtifact, decodeValue, except_bind_ok, okOr_ok, proposedArtifact,
    extracted_iff]
  constructor
  · rintro ⟨shown, value, hvalue, artifact, hartifact, hresult⟩
    exact ⟨artifact, ⟨value, hvalue, hartifact⟩, shown, hresult⟩
  · rintro ⟨artifact, ⟨value, hvalue, hartifact⟩, shown, hresult⟩
    exact ⟨shown, value, hvalue, artifact, hartifact, hresult⟩

/-- An artifact is evaluated as one. -/
theorem evaluateInput_artifact (hkind : params.input.kind = artifactProposed) :
    evaluateInput params configuration = evaluateArtifact params configuration := by
  rw [evaluateInput, hkind, if_neg (by decide), if_pos rfl]

/-- A review is evaluated as one. -/
theorem evaluateInput_review (hkind : params.input.kind = reviewCompleted) :
    evaluateInput params configuration = evaluateReview params configuration := by
  rw [evaluateInput, hkind, if_neg (by decide), if_neg (by decide), if_pos rfl]

/-- What is evaluated is a root request, an artifact or a review. -/
theorem kind_of_proposes {proposals : List ProposedMessage}
    (h : Proposes (evaluateInput params configuration) proposals) :
    params.input.kind = workRequested ∨ params.input.kind = artifactProposed ∨
      params.input.kind = reviewCompleted := by
  by_contra hother
  simp only [not_or] at hother
  obtain ⟨hroot, hartifact, hreview⟩ := hother
  obtain ⟨shown, h⟩ := h
  rw [evaluateInput, if_neg hroot, if_neg hartifact, if_neg hreview] at h
  cases h

/-- An evaluated input is a plan of which the missing effects are proposed. -/
theorem evaluateInput_iff {proposals : List ProposedMessage} :
    Proposes (evaluateInput params configuration) proposals ↔
      ∃ planned, Plans params configuration planned ∧ params.Settles planned proposals := by
  constructor
  · intro h
    rcases kind_of_proposes h with hkind | hkind | hkind
    · rw [evaluateInput, if_pos hkind] at h
      obtain ⟨request, hpayload, hvalid, hsender, hsettles⟩ := evaluateRootRequest_iff.1 h
      exact ⟨_, .rootRequest hkind hpayload hvalid hsender, hsettles⟩
    · rw [evaluateInput_artifact hkind] at h
      obtain ⟨artifact, hpayload, h⟩ := evaluateArtifact_iff.1 h
      cases artifact with
      | decomposition schemaVersion requestId children =>
        obtain ⟨rfl, rfl, assignment, root, hassigned, hcoordinator, hsettled, hbounded, hchecked,
          hroot, hsettles⟩ := evaluateDecomposition_iff.1 h
        exact ⟨_, .decomposition hkind hpayload hassigned hcoordinator hsettled hbounded hchecked
          hroot, hsettles⟩
      | change schemaVersion requestId revision summary artifacts evidence =>
        obtain ⟨rfl, assignment, reviewer, children, hvalid, hassigned, hauthor, hsettled,
          hreviewer, hchildren, hsettles⟩ := evaluateChangeArtifact_iff.1 h
        exact ⟨_, .change hkind hpayload hvalid hassigned hauthor hsettled hreviewer hchildren,
          hsettles⟩
    · rw [evaluateInput_review hkind] at h
      obtain ⟨review, reviewRequest, proposalMessageId, root, children, hreviewed, hfound⟩ :=
        (evaluateReview_iff hkind).1 h
      rw [proposalsOn] at hfound
      cases hdecision : review.decision with
      | approve =>
        rw [hdecision] at hfound
        obtain ⟨requester, hrequester, hsettles⟩ := approveReview_ok.1 hfound
        exact ⟨_, .approval hreviewed hdecision hrequester, hsettles⟩
      | revise =>
        rw [hdecision] at hfound
        obtain ⟨hfindings, requester, hrequester, hcase⟩ := reviseReview_ok.1 hfound
        rcases hcase with ⟨hlimit, hsettles⟩ | ⟨hlimit, author, hauthor, hsettles⟩
        · exact ⟨_, .blocking hreviewed hdecision hfindings hrequester hlimit, hsettles⟩
        · exact ⟨_, .revision hreviewed hdecision hfindings hrequester hlimit hauthor, hsettles⟩
  · rintro ⟨planned, hplans, hsettles⟩
    cases hplans with
    | rootRequest hkind hpayload hvalid hsender =>
      rw [evaluateInput, if_pos hkind]
      exact evaluateRootRequest_iff.2 ⟨_, hpayload, hvalid, hsender, hsettles⟩
    | decomposition hkind hpayload hassigned hcoordinator hsettled hbounded hchecked hroot =>
      rw [evaluateInput_artifact hkind]
      exact evaluateArtifact_iff.2 ⟨_, hpayload, evaluateDecomposition_iff.2 ⟨rfl, rfl, _, _,
        hassigned, hcoordinator, hsettled, hbounded, hchecked, hroot, hsettles⟩⟩
    | change hkind hpayload hvalid hassigned hauthor hsettled hreviewer hchildren =>
      rw [evaluateInput_artifact hkind]
      exact evaluateArtifact_iff.2 ⟨_, hpayload, evaluateChangeArtifact_iff.2 ⟨rfl, _, _, _, hvalid,
        hassigned, hauthor, hsettled, hreviewer, hchildren, hsettles⟩⟩
    | approval hreviewed hdecision hrequester =>
      rw [evaluateInput_review hreviewed.kind]
      refine (evaluateReview_iff hreviewed.kind).2 ⟨_, _, _, _, _, hreviewed, ?_⟩
      rw [proposalsOn, hdecision]
      exact approveReview_ok.2 ⟨_, hrequester, hsettles⟩
    | blocking hreviewed hdecision hfindings hrequester hlimit =>
      rw [evaluateInput_review hreviewed.kind]
      refine (evaluateReview_iff hreviewed.kind).2 ⟨_, _, _, _, _, hreviewed, ?_⟩
      rw [proposalsOn, hdecision]
      exact reviseReview_ok.2 ⟨hfindings, _, hrequester, .inl ⟨hlimit, hsettles⟩⟩
    | revision hreviewed hdecision hfindings hrequester hlimit hauthor =>
      rw [evaluateInput_review hreviewed.kind]
      refine (evaluateReview_iff hreviewed.kind).2 ⟨_, _, _, _, _, hreviewed, ?_⟩
      rw [proposalsOn, hdecision]
      exact reviseReview_ok.2 ⟨hfindings, _, hrequester, .inr ⟨hlimit, _, hauthor, hsettles⟩⟩

end Fleetd.Workflow
