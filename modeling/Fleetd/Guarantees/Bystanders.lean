import Fleetd.Workflow.Admission

/-!
# Bystanders do not matter

The history of a workflow is the channel's, and any member may add to it. Every lookup of an
evaluation asks for a message from the runner, for one to the runner, for a request for the
whole workflow or for its decomposition. A message that is none of these can be inserted
anywhere without changing the result.
-/

namespace Fleetd.Workflow

open Serde (Value)
open Effects

/-- A message that no lookup of an evaluation asks for. -/
structure Bystander (runnerAgentId workflowId : String) (message : WorkflowMessage) : Prop where
  sender : message.senderId ≠ runnerAgentId
  recipient : message.recipientId ≠ some runnerAgentId
  root : requestsRoot workflowId message = false
  decomposition : decomposes workflowId message = none

/-! ## Lists without some of their elements -/

section Lists

variable {α β σ ε : Type} {keep : α → Bool} {l : List α}

/-- The first element that is asked for is found if it is kept. -/
theorem find?_filter_keep {p : α → Bool} (h : ∀ x ∈ l, keep x = false → p x = false) :
    (l.filter keep).find? p = l.find? p := by
  induction l with
  | nil => rfl
  | cons x rest ih =>
    have hrest := ih fun y hy => h y (List.mem_cons_of_mem _ hy)
    cases hkeep : keep x with
    | true => rw [List.filter_cons_of_pos hkeep, List.find?_cons, List.find?_cons, hrest]
    | false =>
      have hx := h x List.mem_cons_self hkeep
      rw [List.filter_cons_of_neg (by simp [hkeep]), hrest, List.find?_cons, hx]

/-- Whether there is an element that is asked for does not depend on the others. -/
theorem any_filter_keep {p : α → Bool} (h : ∀ x ∈ l, keep x = false → p x = false) :
    (l.filter keep).any p = l.any p := by
  have hfind : ∀ l' : List α, l'.any p = (l'.find? p).isSome := fun l' => by
    rw [Bool.eq_iff_iff, List.any_eq_true, List.find?_isSome]
  rw [hfind, hfind, find?_filter_keep h]

/-- The first answer is found if the element that gives it is kept. -/
theorem findSome?_filter_keep {f : α → Option β} (h : ∀ x ∈ l, keep x = false → f x = none) :
    (l.filter keep).findSome? f = l.findSome? f := by
  induction l with
  | nil => rfl
  | cons x rest ih =>
    have hrest := ih fun y hy => h y (List.mem_cons_of_mem _ hy)
    cases hkeep : keep x with
    | true => rw [List.filter_cons_of_pos hkeep, List.findSome?_cons, List.findSome?_cons, hrest]
    | false =>
      have hx := h x List.mem_cons_self hkeep
      rw [List.filter_cons_of_neg (by simp [hkeep]), hrest, List.findSome?_cons, hx]

/-- Going through a list does not notice elements that change nothing. -/
theorem foldlM_filter_keep {step : σ → α → Except ε σ} {s : σ}
    (h : ∀ x ∈ l, keep x = false → ∀ s, step s x = .ok s) :
    (l.filter keep).foldlM step s = l.foldlM step s := by
  induction l generalizing s with
  | nil => rfl
  | cons x rest ih =>
    have hrest := fun s => @ih s fun y hy => h y (List.mem_cons_of_mem _ hy)
    cases hkeep : keep x with
    | true =>
      rw [List.filter_cons_of_pos hkeep, List.foldlM_cons, List.foldlM_cons]
      exact congrArg _ (funext hrest)
    | false =>
      rw [List.filter_cons_of_neg (by simp [hkeep]), hrest, List.foldlM_cons,
        h x List.mem_cons_self hkeep s]
      rfl

/-- A part of a list without repeats is what is left of the list without the rest. -/
theorem filter_mem_of_sublist [DecidableEq α] {part : List α} (h : part.Sublist l)
    (hnodup : l.Nodup) : l.filter (fun x => x ∈ part) = part := by
  induction h with
  | slnil => rfl
  | @cons part whole x hpart ih =>
    obtain ⟨hx, hwhole⟩ := List.nodup_cons.1 hnodup
    rw [List.filter_cons_of_neg (by simpa using fun hmem => hx (hpart.subset hmem)), ih hwhole]
  | @cons_cons part whole x hpart ih =>
    obtain ⟨hx, hwhole⟩ := List.nodup_cons.1 hnodup
    rw [List.filter_cons_of_pos (by simp)]
    congr 1
    have hsame : ∀ y ∈ whole, decide (y ∈ x :: part) = decide (y ∈ part) := by
      intro y hy
      have hne : y ≠ x := fun heq => hx (heq ▸ hy)
      simp [hne]
    rw [List.filter_congr hsame, ih hwhole]

end Lists

/-! ## Lookups -/

section Lookups

variable {params : EvaluateParams} {keep : WorkflowMessage → Bool}

/-- An evaluation of which some messages of the history are kept back. -/
abbrev EvaluateParams.restrict (params : EvaluateParams) (keep : WorkflowMessage → Bool) :
    EvaluateParams :=
  { params with history := params.history.filter keep }

/-- The messages that are kept back are bystanders. -/
def OnlyBystanders (params : EvaluateParams) (keep : WorkflowMessage → Bool) : Prop :=
  ∀ m ∈ params.history, keep m = false → Bystander params.runnerAgentId params.workflowId m

variable (h : OnlyBystanders params keep)
include h

theorem missingEffect_restrict (proposal : ProposedMessage) :
    missingEffect (params.restrict keep) proposal = missingEffect params proposal := by
  have hfold : ((params.history.filter keep).foldlM
      (noteCommitted params.runnerAgentId proposal) false) =
      params.history.foldlM (noteCommitted params.runnerAgentId proposal) false := by
    apply foldlM_filter_keep
    intro m hm hkeep committed
    rw [noteCommitted, if_pos (Or.inl (h m hm hkeep).sender)]
    rfl
  rw [missingEffect, missingEffect, hfold]

theorem findAssignment_restrict (kind requestId assignment : String) (revision : Nat) :
    findAssignment (params.history.filter keep) params.runnerAgentId kind requestId assignment
        revision =
      findAssignment params.history params.runnerAgentId kind requestId assignment revision := by
  apply find?_filter_keep
  intro m hm hkeep
  simp [(h m hm hkeep).sender]

theorem findRootRequest_restrict :
    findRootRequest (params.history.filter keep) params.workflowId =
      findRootRequest params.history params.workflowId := by
  rw [findRootRequest, findRootRequest, find?_filter_keep]
  intro m hm hkeep
  rw [(h m hm hkeep).root, Bool.false_and]

theorem rootRequester_restrict :
    rootRequester (params.history.filter keep) params.workflowId =
      rootRequester params.history params.workflowId := by
  rw [rootRequester, rootRequester, find?_filter_keep fun m hm hkeep => (h m hm hkeep).root]

theorem findChildren_restrict :
    findChildren (params.history.filter keep) params.workflowId =
      findChildren params.history params.workflowId := by
  rw [findChildren, findChildren,
    findSome?_filter_keep fun m hm hkeep => (h m hm hkeep).decomposition]

theorem hasTerminalEvent_restrict (kind requestId : String) :
    hasTerminalEvent (params.history.filter keep) params.runnerAgentId kind requestId =
      hasTerminalEvent params.history params.runnerAgentId kind requestId := by
  apply any_filter_keep
  intro m hm hkeep
  simp [(h m hm hkeep).sender]

theorem parentWillBeComplete_restrict (childId : String) (children : List ChildRequest) :
    parentWillBeComplete (params.restrict keep) childId children =
      parentWillBeComplete params childId children := by
  simp only [parentWillBeComplete, hasTerminalEvent_restrict h]

theorem projection_restrict (rootRequestId phase : String) (children : List ChildRequest) :
    projection (params.restrict keep) rootRequestId phase children =
      projection params rootRequestId phase children := by
  simp only [projection, hasTerminalEvent_restrict h]

theorem rejectConflictingDecomposition_restrict (coordinatorId requestId : String)
    (children : List ChildRequest) :
    rejectConflictingDecomposition (params.restrict keep) coordinatorId requestId children =
      rejectConflictingDecomposition params coordinatorId requestId children := by
  have hany : (params.history.filter keep).any
      (conflictsDecomposition params coordinatorId requestId children) =
      params.history.any (conflictsDecomposition params coordinatorId requestId children) := by
    apply any_filter_keep
    intro m hm hkeep
    rw [conflictsDecomposition, if_pos (.inr (.inr (.inr (h m hm hkeep).recipient)))]
  rw [rejectConflictingDecomposition, rejectConflictingDecomposition, ← hany]
  rfl

theorem rejectConflictingChangeArtifact_restrict (requestId : String) (revision : Nat)
    (authorId : String) (current : Value) :
    rejectConflictingChangeArtifact (params.restrict keep) requestId revision authorId current =
      rejectConflictingChangeArtifact params requestId revision authorId current := by
  have hany : (params.history.filter keep).any
      (conflictsChange params requestId revision authorId current) =
      params.history.any (conflictsChange params requestId revision authorId current) := by
    apply any_filter_keep
    intro m hm hkeep
    rw [conflictsChange, if_pos (.inr (.inr (.inr (h m hm hkeep).recipient)))]
  rw [rejectConflictingChangeArtifact, rejectConflictingChangeArtifact, ← hany]
  rfl

theorem rejectConflictingCompletedReview_restrict (reviewRequest : WorkflowMessage)
    (current : CompletedReview) :
    rejectConflictingCompletedReview (params.restrict keep) reviewRequest current =
      rejectConflictingCompletedReview params reviewRequest current := by
  have hany : (params.history.filter keep).any (conflictsReview params reviewRequest current) =
      params.history.any (conflictsReview params reviewRequest current) := by
    apply any_filter_keep
    intro m hm hkeep
    rw [conflictsReview, if_pos (.inr (.inr (.inr (.inl (h m hm hkeep).recipient))))]
  rw [rejectConflictingCompletedReview, rejectConflictingCompletedReview, ← hany]
  rfl

theorem findReviewRequest_restrict (review : CompletedReview) :
    findReviewRequest (params.restrict keep) review = findReviewRequest params review := by
  rw [findReviewRequest, findReviewRequest]
  congr 1
  funext causationId
  apply find?_filter_keep
  intro m hm hkeep
  simp [(h m hm hkeep).sender]

theorem validateReviewedProposal_restrict (reviewRequest : WorkflowMessage)
    (proposalMessageId requestId : String) (revision : Nat) :
    validateReviewedProposal (params.restrict keep) reviewRequest proposalMessageId requestId
        revision =
      validateReviewedProposal params reviewRequest proposalMessageId requestId revision := by
  have hfind : (params.history.filter keep).find? (fun message =>
        message.id = proposalMessageId && message.kind = artifactProposed &&
          message.recipientId = some params.runnerAgentId) =
      params.history.find? fun message =>
        message.id = proposalMessageId && message.kind = artifactProposed &&
          message.recipientId = some params.runnerAgentId := by
    apply find?_filter_keep
    intro m hm hkeep
    simp [(h m hm hkeep).recipient]
  simp only [validateReviewedProposal, hfind,
    findAssignment_restrict h]

/-! ## Evaluation -/

theorem evaluateRootRequest_restrict (configuration : AuthorReviewConfiguration) :
    evaluateRootRequest (params.restrict keep) configuration =
      evaluateRootRequest params configuration := by
  simp only [evaluateRootRequest, missingEffect_restrict h]

theorem evaluateProposed_restrict (configuration : AuthorReviewConfiguration)
    (artifact : ProposedArtifact) :
    evaluateProposed (params.restrict keep) configuration artifact =
      evaluateProposed params configuration artifact := by
  have hmissing : missingEffect (params.restrict keep) = missingEffect params :=
    funext (missingEffect_restrict h)
  cases artifact with
  | decomposition schemaVersion requestId children =>
    -- the lookups are about the workflow once the request is known to be the workflow's
    by_cases hrequest : requestId = params.workflowId
    · subst hrequest
      simp only [evaluateProposed, evaluateDecomposition, hmissing, findAssignment_restrict h,
        rejectConflictingDecomposition_restrict h, findRootRequest_restrict h,
        projection_restrict h]
    · have hfail : ∀ (error : AuthorReviewError)
          (next : Unit → Except AuthorReviewError EvaluateResult),
          (rejectIf (requestId ≠ params.workflowId) error >>= next) = .error error := by
        intro error next
        rw [rejectIf, if_pos hrequest]
        rfl
      simp only [evaluateProposed, evaluateDecomposition, hfail]
  | change schemaVersion requestId revision summary artifacts evidence =>
    have hreview : ∀ reviewer, requestReview (params.restrict keep) reviewer requestId revision
        summary artifacts evidence =
        requestReview params reviewer requestId revision summary artifacts evidence :=
      fun _ => rfl
    simp only [evaluateProposed, evaluateChangeArtifact, hmissing, hreview,
      findAssignment_restrict h, rejectConflictingChangeArtifact_restrict h,
      findChildren_restrict h, projection_restrict h]

theorem proposalsOn_restrict (configuration : AuthorReviewConfiguration) (review : CompletedReview)
    (proposalMessageId : String) (root : ChangeRequest) (children : List ChildRequest) :
    proposalsOn (params.restrict keep) configuration review proposalMessageId root children =
      proposalsOn params configuration review proposalMessageId root children := by
  have hchild : ∀ requester, completeChild (params.restrict keep) requester review
      proposalMessageId = completeChild params requester review proposalMessageId :=
    fun _ => rfl
  have hparent : ∀ requester, completeParent (params.restrict keep) requester root children =
      completeParent params requester root children := fun _ => rfl
  have hblocked : ∀ requester, blockChild (params.restrict keep) requester review =
      blockChild params requester review := fun _ => rfl
  have hstuck : ∀ requester, blockParent (params.restrict keep) requester review root =
      blockParent params requester review root := fun _ => rfl
  have hnext : ∀ author, requestRevision (params.restrict keep) author review proposalMessageId =
      requestRevision params author review proposalMessageId := fun _ => rfl
  simp only [proposalsOn, approveReview, reviseReview, rootRequester_restrict h,
    missingEffect_restrict h, parentWillBeComplete_restrict h, findAssignment_restrict h, hchild,
    hparent, hblocked, hstuck, hnext]

theorem evaluateReview_restrict (configuration : AuthorReviewConfiguration) :
    evaluateReview (params.restrict keep) configuration = evaluateReview params configuration := by
  simp only [evaluateReview, phaseAfterReview, findReviewRequest_restrict h,
    validateReviewedProposal_restrict h, rejectConflictingCompletedReview_restrict h, findRootRequest_restrict h,
    findChildren_restrict h, proposalsOn_restrict h, projection_restrict h,
    parentWillBeComplete_restrict h]

/-- What the leased input asks for does not depend on bystanders. -/
theorem evaluateInput_restrict (configuration : AuthorReviewConfiguration) :
    evaluateInput (params.restrict keep) configuration = evaluateInput params configuration := by
  simp only [evaluateInput, evaluateArtifact, evaluateRootRequest_restrict h,
    evaluateProposed_restrict h, evaluateReview_restrict h]

end Lookups

/-- Inserting bystanders into a history on which an evaluation succeeds, within the bounds of a
history, leaves the result as it is: the projection and every proposal. -/
theorem evaluate_bystanders {params : EvaluateParams} {result : EvaluateResult}
    {history : List WorkflowMessage} (hok : evaluate params = .ok result)
    (hinserted : params.history.Sublist history)
    (hbystanders : ∀ m ∈ history, m ∉ params.history →
      Bystander params.runnerAgentId params.workflowId m)
    (hlog : CorrelatedLog params.input.channelId params.workflowId history)
    (hbounded : history.length ≤ maxHistoryMessages) :
    evaluate { params with history := history } = .ok result := by
  let full : EvaluateParams := { params with history := history }
  let keep : WorkflowMessage → Bool := fun m => m ∈ params.history
  have hkept : history.filter keep = params.history :=
    filter_mem_of_sublist hinserted hlog.ids.of_map
  have hrestrict : full.restrict keep = params := by
    rw [EvaluateParams.restrict]
    show { params with history := history.filter keep } = params
    rw [hkept]
  have honly : OnlyBystanders full keep := by
    intro m hm hkeep
    exact hbystanders m hm (of_decide_eq_false hkeep)
  have hadmitted : Admitted params := (evaluate_iff.1 ⟨_, hok⟩).1
  have hvalid : validateEvaluation full = .ok () := by
    rw [validateEvaluation_iff]
    obtain ⟨m, hm, hid⟩ := hadmitted.found
    exact ⟨hadmitted.runner, hadmitted.workflow, hbounded, hadmitted.members, hadmitted.addressed,
      hadmitted.present, hlog, m, hinserted.subset hm, hid⟩
  have hinput : evaluateInput full = evaluateInput params := by
    funext configuration
    rw [← hrestrict]
    exact (evaluateInput_restrict honly configuration).symm
  have hconfiguration : validateConfiguration full = validateConfiguration params := rfl
  show evaluate full = .ok result
  rw [← hok, evaluate, evaluate, hvalid, validateEvaluation_iff.2 hadmitted, hinput,
    hconfiguration]

/-- An author shows the reviewer a change while the coordinator is still at work. -/
def sampleChatter : WorkflowMessage :=
  sampleMessage 3 "m3" "a" "r" artifactProposed
    (ProposedArtifact.change 1 "k1" 0 "draft" [⟨"commit", "uri", "rev"⟩] []).toValue

/-- The sample with a message between two other members. -/
theorem evaluate_bystanders_sampleChatter : ∃ result,
    evaluate { sampleParams with
      history := sampleHistory.take 2 ++ sampleChatter :: sampleHistory.drop 2 } = .ok result := by
  have hok : (evaluate sampleParams).isOk = true := by decide +kernel
  cases hresult : evaluate sampleParams with
  | error e =>
    rw [hresult] at hok
    cases hok
  | ok result =>
    refine ⟨result, evaluate_bystanders hresult ?_ ?_ ?_ (by decide)⟩
    · have hinserted := (List.sublist_cons_self sampleChatter (sampleHistory.drop 2)).append_left
        (sampleHistory.take 2)
      rw [List.take_append_drop] at hinserted
      exact hinserted
    · intro m hm hnew
      have hchatter : m = sampleChatter := by
        rcases List.mem_append.1 hm with hbefore | hrest
        · exact absurd (List.mem_of_mem_take hbefore) hnew
        · rcases List.mem_cons.1 hrest with hhere | hafter
          · exact hhere
          · exact absurd (List.mem_of_mem_drop hafter) hnew
      subst hchatter
      exact ⟨by decide, by decide, by decide, by decide +kernel⟩
    · exact ⟨by decide, by decide, by decide, by decide⟩

end Fleetd.Workflow
