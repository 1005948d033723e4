import Mathlib.Data.List.Nodup
import Fleetd.Guarantees.EffectsOnce

/-!
# Completed work was reviewed

Whatever others post, the runner reports a child as completed only after the agent to whom it
gave the child's review approved a revision that came from the agent to whom it gave the child's
work, and these two are different agents. It reports the workflow as completed only after this
happened to every child of the first decomposition. A completion rests on earlier completions,
so this is an induction along the log.
-/

namespace Fleetd.Workflow

open Serde (Value)
open Effects

variable {runner : Runner} {s : RunnerState} {messages log : List WorkflowMessage}

/-- A revision of a child that its assigned author proposed and its assigned reviewer, another
agent, approved. -/
structure Approval (runner : Runner) (log : List WorkflowMessage) (childId : String)
    (revision : Nat) (assignment artifact request answer : WorkflowMessage) : Prop where
  posted : ∀ m ∈ [assignment, artifact, request, answer], m ∈ log
  assigned : assignment.senderId = runner.agentId ∧
    assignment.recipientId = some artifact.senderId ∧
    assigns childId "author" revision assignment = true
  proposed : artifact.kind = artifactProposed ∧ ∃ summary artifacts evidence,
    proposedArtifact artifact = some (.change 1 childId revision summary artifacts evidence)
  requested : request.senderId = runner.agentId ∧ request.kind = reviewRequested ∧
    request.causationId = some artifact.id ∧ request.recipientId = some answer.senderId ∧
    assigns childId "reviewer" revision request = true
  approved : answer.kind = reviewCompleted ∧ answer.causationId = some request.id ∧
    ∃ review, completedReview answer = some review ∧ review.requestId = childId ∧
      review.revision = revision ∧ review.decision = .approve
  independent : answer.senderId ≠ artifact.senderId

/-- Some revision of a child was approved. -/
def Approved (runner : Runner) (log : List WorkflowMessage) (childId : String) : Prop :=
  ∃ revision assignment artifact request answer,
    Approval runner log childId revision assignment artifact request answer

/-- What a completion rests on in the log before it. -/
inductive Completes (runner : Runner) (log : List WorkflowMessage) (workflowId : String)
    (m : WorkflowMessage) : Prop
  | child {childId : String} {revision : Nat}
      {assignment artifact request answer : WorkflowMessage}
      (about : m.payload.get "request_id" = some (.string childId))
      (other : childId ≠ workflowId)
      (approval : Approval runner log childId revision assignment artifact request answer)
      (proposal : m.payload.get "proposal_message_id" = some (.string artifact.id))
      (review : m.payload.get "review_message_id" = some (.string answer.id))
  | parent {children : List ChildRequest}
      (about : m.payload.get "request_id" = some (.string workflowId))
      (decomposed : findChildren log workflowId = .ok children) (nonempty : children ≠ [])
      (approved : ∀ child ∈ children, Approved runner log child.requestId)

/-- The messages of a workflow before one of its messages. -/
def earlier (messages : List WorkflowMessage) (workflowId : String) (m : WorkflowMessage) :
    List WorkflowMessage :=
  (workflowLog messages m.channelId workflowId).filter fun n => n.seq < m.seq

/-- Every completion of the runner rests on what was posted before it. -/
def CompletionsReviewed (runner : Runner) (messages : List WorkflowMessage) : Prop :=
  ∀ m ∈ messages, m.senderId = runner.agentId → m.kind = workCompleted →
    ∀ workflowId, m.correlationId = some workflowId →
      Completes runner (earlier messages workflowId m) workflowId m

/-! ## Logs -/

theorem Approval.mono {more : List WorkflowMessage} (hsubset : log ⊆ more) {childId : String}
    {revision : Nat} {assignment artifact request answer : WorkflowMessage}
    (h : Approval runner log childId revision assignment artifact request answer) :
    Approval runner more childId revision assignment artifact request answer :=
  ⟨fun m hm => hsubset (h.posted m hm), h.assigned, h.proposed, h.requested, h.approved,
    h.independent⟩

theorem Approved.mono {more : List WorkflowMessage} (hsubset : log ⊆ more) {childId : String}
    (h : Approved runner log childId) : Approved runner more childId := by
  obtain ⟨revision, assignment, artifact, request, answer, happroval⟩ := h
  exact ⟨revision, assignment, artifact, request, answer, happroval.mono hsubset⟩

theorem mem_earlier {workflowId : String} {m n : WorkflowMessage} :
    n ∈ earlier messages workflowId m ↔
      n ∈ workflowLog messages m.channelId workflowId ∧ n.seq < m.seq := by
  rw [earlier, List.mem_filter, decide_eq_true_eq]

/-- What is before a message is where the log starts. -/
theorem earlier_isPrefix (hordered : messages.Pairwise fun m n => m.seq < n.seq)
    (workflowId : String) (m : WorkflowMessage) :
    earlier messages workflowId m <+: workflowLog messages m.channelId workflowId := by
  have hlog : (workflowLog messages m.channelId workflowId).Pairwise fun m n => m.seq < n.seq :=
    hordered.sublist List.filter_sublist
  have hbefore : earlier messages workflowId m =
      (workflowLog messages m.channelId workflowId).filter fun n => n.seq ≤ m.seq - 1 := by
    rw [earlier]
    apply List.filter_congr
    intro n _
    rw [decide_eq_decide]
    omega
  rw [hbefore]
  exact ⟨_, filter_le_append_filter_lt hlog (m.seq - 1)⟩

/-! ## Plans -/

/-- The reviewer who is selected is not the author. -/
theorem selectReviewer_ne {configuration : AuthorReviewConfiguration}
    {authorId requestId reviewer : String}
    (h : selectReviewer configuration authorId requestId = .ok reviewer) : reviewer ≠ authorId := by
  rw [selectReviewer, okOr_ok, List.findSome?_eq_some_iff] at h
  obtain ⟨_, offset, _, _, hfound, -⟩ := h
  exact of_decide_eq_true (Option.filter_eq_some_iff.1 hfound).2

/-- What is established about the artifact that a review is about. -/
theorem validateReviewedProposal_ok {params : EvaluateParams} {reviewRequest : WorkflowMessage}
    {proposalMessageId requestId : String} {revision : Nat}
    (h : validateReviewedProposal params reviewRequest proposalMessageId requestId revision =
      .ok ()) :
    ∃ artifact ∈ params.history, ∃ assignment ∈ params.history,
      artifact.id = proposalMessageId ∧ reviewRequest.causationId = some proposalMessageId ∧
      (artifact.kind = artifactProposed ∧ ∃ summary artifacts evidence,
        proposedArtifact artifact =
          some (.change 1 requestId revision summary artifacts evidence)) ∧
      assignment.senderId = params.runnerAgentId ∧
      assignment.kind = authorAssignmentKind revision ∧
      assignment.recipientId = some artifact.senderId ∧
      assigns requestId "author" revision assignment = true := by
  simp only [validateReviewedProposal, decodeValue, requireSchemaOne, except_bind_ok, okOr_ok,
    rejectIf_ok, not_not, not_or] at h
  obtain ⟨artifact, hartifact, _, hcaused, value, hvalue, proposed, hproposed, parts, hparts, _,
    hversion, _, ⟨hrequest, hrevision⟩, assignment, hassignment, _, hauthor, -⟩ := h
  have hread : proposedArtifact artifact = some proposed := by
    rw [proposedArtifact, hvalue]
    exact hproposed
  have hfound := List.find?_some hartifact
  have hassigned := List.find?_some hassignment
  simp only [Bool.and_eq_true, decide_eq_true_eq] at hfound hassigned
  refine ⟨artifact, List.mem_of_find?_eq_some hartifact, assignment,
    List.mem_of_find?_eq_some hassignment, hfound.1.1, hcaused, ⟨hfound.1.2, ?_⟩, hassigned.1.1,
    hassigned.1.2, hauthor, hassigned.2⟩
  cases proposed with
  | decomposition => cases hparts
  | change version readRequest readRevision summary artifacts evidence =>
    obtain rfl := Option.some.inj hparts
    refine ⟨summary, artifacts, evidence, ?_⟩
    rw [hread, ← hrequest, ← hrevision, ← hversion]

/-- The review request that a completed review answers. -/
theorem Reviewed.requested {params : EvaluateParams} {review : CompletedReview}
    {reviewRequest : WorkflowMessage} {proposalMessageId : String} {root : ChangeRequest}
    {children : List ChildRequest}
    (h : Reviewed params review reviewRequest proposalMessageId root children) :
    reviewRequest ∈ params.history ∧ params.input.causationId = some reviewRequest.id ∧
      reviewRequest.senderId = params.runnerAgentId ∧ reviewRequest.kind = reviewRequested ∧
      assigns review.requestId "reviewer" review.revision reviewRequest = true := by
  obtain ⟨causationId, hcausation, hfound⟩ := Option.bind_eq_some_iff.1 h.request
  have hmatches := List.find?_some hfound
  simp only [Bool.and_eq_true, decide_eq_true_eq] at hmatches
  rw [hcausation, hmatches.1.1.1]
  exact ⟨List.mem_of_find?_eq_some hfound, rfl, hmatches.1.1.2, hmatches.1.2, hmatches.2⟩

/-! ## Runs -/

/-- In a log with distinct ids a message is known by its id. -/
theorem EffectsOnce.eq_of_id (h : EffectsOnce runner s) {m n : WorkflowMessage}
    (hm : m ∈ s.messages) (hn : n ∈ s.messages) (hid : m.id = n.id) : m = n :=
  List.inj_on_of_nodup_map (List.pairwise_map.2 h.distinct) hm hn hid

/-- An input that is evaluated is in its history. -/
theorem EffectsOnce.input_mem (h : EffectsOnce runner s) {params : EvaluateParams}
    {planned : List ProposedMessage} (hdecided : Decided runner s.messages params planned) :
    params.input ∈ params.history := by
  obtain ⟨m, hm, hid⟩ := hdecided.admitted.found
  rw [← h.eq_of_id (hdecided.posted m hm).1 hdecided.input hid]
  exact hm

/-- The reviewer whom the runner asked did not propose the artifact. -/
theorem EffectsOnce.independent (h : EffectsOnce runner s)
    {request artifact : WorkflowMessage} {reviewer : String} (hrequest : request ∈ s.messages)
    (hartifact : artifact ∈ s.messages) (hsender : request.senderId = runner.agentId)
    (hkind : request.kind = reviewRequested) (hcaused : request.causationId = some artifact.id)
    (hreviewer : request.recipientId = some reviewer) : reviewer ≠ artifact.senderId := by
  obtain ⟨params, planned, hdecided, -, p, hp, seq, id, createdAtMs, rfl⟩ :=
    h.sourced request hrequest hsender
  obtain ⟨configuration, -, hplans⟩ := hdecided.plans
  have hinput : params.input = artifact :=
    h.eq_of_id hdecided.input hartifact (Option.some.inj hcaused)
  obtain ⟨selected, _, _, _, _, _, hselected, rfl⟩ := (hplans.planned p hp).reviewing hkind
  have hne := selectReviewer_ne hselected
  rw [hinput] at hne
  exact Option.some.inj hreviewer ▸ hne

/-- A review that counts was made by the assigned reviewer of what the assigned author proposed. -/
theorem EffectsOnce.approval (h : EffectsOnce runner s) {params : EvaluateParams}
    {planned : List ProposedMessage} (hdecided : Decided runner s.messages params planned)
    {review : CompletedReview} {reviewRequest : WorkflowMessage} {proposalMessageId : String}
    {root : ChangeRequest} {children : List ChildRequest}
    (hreviewed : Reviewed params review reviewRequest proposalMessageId root children)
    (hdecision : review.decision = .approve) :
    ∃ assignment artifact, artifact.id = proposalMessageId ∧
      Approval runner params.history review.requestId review.revision assignment artifact
        reviewRequest params.input := by
  obtain ⟨artifact, hartifact, assignment, hassignment, hid, hcaused, hproposed, hsender, -,
    hauthor, hassigns⟩ := validateReviewedProposal_ok hreviewed.artifact
  obtain ⟨hrequest, hanswers, hasked, hkind, hreviews⟩ := hreviewed.requested
  refine ⟨assignment, artifact, hid, ?_⟩
  constructor
  case posted =>
    intro m hm
    simp only [List.mem_cons, List.not_mem_nil, or_false] at hm
    rcases hm with rfl | rfl | rfl | rfl
    · exact hassignment
    · exact hartifact
    · exact hrequest
    · exact h.input_mem hdecided
  case assigned => exact ⟨hsender.trans hdecided.agent, hauthor, hassigns⟩
  case proposed => exact hproposed
  case requested =>
    exact ⟨hasked.trans hdecided.agent, hkind, hid ▸ hcaused, hreviewed.reviewer, hreviews⟩
  case approved =>
    exact ⟨hreviewed.kind, hanswers, review, hreviewed.payload, rfl, rfl, hdecision⟩
  case independent =>
    exact h.independent (hdecided.posted _ hrequest).1 (hdecided.posted _ hartifact).1
      (hasked.trans hdecided.agent) hkind (hid ▸ hcaused) hreviewed.reviewer

/-- A message of the runner is an effect of an evaluation whose history starts the log before
it. -/
theorem EffectsOnce.effect (h : EffectsOnce runner s) {m : WorkflowMessage}
    (hm : m ∈ s.messages) (hsender : m.senderId = runner.agentId) {workflowId : String}
    (hcorrelation : m.correlationId = some workflowId) :
    ∃ params planned configuration p, Decided runner s.messages params planned ∧
      params.workflowId = workflowId ∧ m.channelId = params.input.channelId ∧
      params.history <+: earlier s.messages workflowId m ∧
      AuthorReviewConfiguration.ofValue runner.pluginConfiguration = some configuration ∧
      Planned params configuration p ∧ m.kind = p.kind ∧ m.payload = p.payload := by
  obtain ⟨params, planned, hdecided, hbefore, p, hp, seq, id, createdAtMs, rfl⟩ :=
    h.sourced m hm hsender
  obtain ⟨configuration, hconfiguration, hplans⟩ := hdecided.plans
  obtain rfl : params.workflowId = workflowId := Option.some.inj hcorrelation
  refine ⟨params, planned, configuration, p, hdecided, rfl, rfl, ?_,
    hdecided.configured ▸ ofValue_of_validateConfiguration hconfiguration, hplans.planned p hp, rfl,
    rfl⟩
  obtain ⟨more, hmore⟩ := hdecided.history
  have hkept : params.history.filter (fun n => n.seq < seq) = params.history :=
    List.filter_eq_self.2 fun n hn => decide_eq_true (hbefore n hn)
  show params.history <+:
    (workflowLog s.messages params.input.channelId params.workflowId).filter fun n => n.seq < seq
  rw [← hmore, List.filter_append, hkept]
  exact List.prefix_append ..

/-- If the children of a workflow are complete and the completions before this one rest on
reviews, then every child was approved. -/
theorem EffectsOnce.children_approved (h : EffectsOnce runner s) {m : WorkflowMessage}
    {params : EvaluateParams} {planned : List ProposedMessage}
    (hdecided : Decided runner s.messages params planned)
    (hchannel : m.channelId = params.input.channelId)
    (hhistory : params.history <+: earlier s.messages params.workflowId m)
    (hearlier : ∀ n ∈ s.messages, n.seq < m.seq → n.senderId = runner.agentId →
      n.kind = workCompleted → n.correlationId = some params.workflowId →
        Completes runner (earlier s.messages params.workflowId n) params.workflowId n)
    {childId : String} {children : List ChildRequest}
    (hchildren : findChildren params.history params.workflowId = .ok children)
    (hcomplete : parentWillBeComplete params childId children = true)
    (happroved : Approved runner (earlier s.messages params.workflowId m) childId) :
    ∀ child ∈ children,
      Approved runner (earlier s.messages params.workflowId m) child.requestId := by
  intro child hchild
  rw [parentWillBeComplete, List.all_eq_true] at hcomplete
  have hended := hcomplete child hchild
  rw [Bool.or_eq_true, decide_eq_true_eq] at hended
  rcases hended with hthis | hended
  · rw [hthis]
    exact happroved
  · -- the child was reported before: by its own review, or together with the workflow
    obtain ⟨n, hn, hmatches⟩ := List.any_eq_true.1 hended
    simp only [Bool.and_eq_true, decide_eq_true_eq] at hmatches
    obtain ⟨hmem, hplace, hcorrelated⟩ := hdecided.posted n hn
    have hlt := (mem_earlier.1 (hhistory.subset hn)).2
    have hsubset : earlier s.messages params.workflowId n ⊆
        earlier s.messages params.workflowId m := by
      intro x hx
      rw [mem_earlier, hplace] at hx
      rw [mem_earlier, hchannel]
      exact ⟨hx.1, Int.lt_trans hx.2 hlt⟩
    have hrests := hearlier n hmem hlt (hmatches.1.1.trans hdecided.agent) hmatches.1.2 hcorrelated
    cases hrests with
    | @child childId _ _ _ _ _ hget _ happroval =>
      have hsame : childId = child.requestId := by
        have hread := hmatches.2
        rw [Value.getStr, hget] at hread
        exact Option.some.inj hread
      rw [← hsame]
      exact ⟨_, _, _, _, _, happroval.mono hsubset⟩
    | @parent found _ hfound _ hall =>
      have hfirst : found = children := by
        have hwhole := findChildren_mono (earlier_isPrefix h.ordered _ n) hfound
        rw [hplace, findChildren_mono hdecided.history hchildren] at hwhole
        exact (Except.ok.inj hwhole).symm
      rw [hfirst] at hall
      exact (hall child hchild).mono hsubset

/-- A completion rests on what was posted before it if the completions before it do. -/
theorem EffectsOnce.completes (h : EffectsOnce runner s) {m : WorkflowMessage}
    (hm : m ∈ s.messages) (hsender : m.senderId = runner.agentId) (hkind : m.kind = workCompleted)
    {workflowId : String} (hcorrelation : m.correlationId = some workflowId)
    (hearlier : ∀ n ∈ s.messages, n.seq < m.seq → n.senderId = runner.agentId →
      n.kind = workCompleted → n.correlationId = some workflowId →
        Completes runner (earlier s.messages workflowId n) workflowId n) :
    Completes runner (earlier s.messages workflowId m) workflowId m := by
  obtain ⟨params, planned, configuration, p, hdecided, rfl, hchannel, hhistory, -, hplanned, hsame,
    hpayload⟩ := h.effect hm hsender hcorrelation
  rw [hsame] at hkind
  have hgrounded := hdecided.groundedHistory h.grounded
  obtain ⟨review, reviewRequest, proposalMessageId, root, children, requester, hreviewed, hdecision,
    rfl | ⟨hcomplete, rfl⟩⟩ := hplanned.completion hkind
  · obtain ⟨assignment, artifact, hid, happroval⟩ := h.approval hdecided hreviewed hdecision
    apply Completes.child _ (hreviewed.ne_workflow hgrounded) (happroval.mono hhistory.subset)
    · rw [hpayload, hid]
      rfl
    · rw [hpayload]
      rfl
    · rw [hpayload]
      rfl
  · obtain ⟨assignment, artifact, -, happroval⟩ := h.approval hdecided hreviewed hdecision
    apply Completes.parent _ (findChildren_mono hhistory hreviewed.decomposed)
    · intro hnil
      have hbelongs := hreviewed.belongs
      rw [hnil] at hbelongs
      cases hbelongs
    · exact h.children_approved hdecided hchannel hhistory hearlier hreviewed.decomposed hcomplete
        ⟨_, _, _, _, _, happroval.mono hhistory.subset⟩
    · rw [hpayload]
      rfl

/-- Every completion in a state that is reached rests on what was posted before it. -/
theorem EffectsOnce.completions (h : EffectsOnce runner s) :
    CompletionsReviewed runner s.messages := by
  intro m
  induction hseq : m.seq.toNat using Nat.strong_induction_on generalizing m with
  | _ place ih =>
    intro hm hsender hkind workflowId hcorrelation
    apply h.completes hm hsender hkind hcorrelation
    intro n hn hlt hown hcompleted hcorrelated
    have hpositive := h.positive n hn
    exact ih n.seq.toNat (by omega) n rfl hn hown hcompleted workflowId hcorrelated

/-- In every run of the runner, whatever is posted, leased, stopped and repeated, a child is
reported as completed only after an independent review by the assigned reviewer approved what the
assigned author proposed, and the workflow only after this happened to each of its children. -/
theorem run_completionsReviewed (runner : Runner) (actions : List RunnerAction) :
    CompletionsReviewed runner (runner.run actions).messages :=
  (effectsOnce_run runner actions).completions

/-- An input is posted, leased, read, evaluated and answered with at most two messages. -/
def sampleRound (input : WorkflowMessage) (first second : String) : List RunnerAction := [
  .post ⟨input, none⟩, .lease input, .read, .evaluate sampleMembers,
  .publish (input.seq + 1) first 0, .publish (input.seq + 2) second 0, .stop]

/-- A request with one child, which is changed and approved. -/
def sampleRounds : List RunnerAction :=
  sampleRound (sampleMessage 1 "m1" "u" "runner" workRequested sampleRequest.toValue) "m2" "" ++
  sampleRound (sampleMessage 3 "m3" "c" "runner" artifactProposed
    (ProposedArtifact.decomposition 1 "w"
      [⟨"k1", "first", "objective", ["scope"], ["criterion"]⟩]).toValue) "m4" "" ++
  sampleRound (sampleMessage 5 "m5" "a" "runner" artifactProposed
    (ProposedArtifact.change 1 "k1" 0 "done" [⟨"commit", "uri", "rev"⟩] []).toValue) "m6" "" ++
  sampleRound { sampleMessage 7 "m7" "r" "runner" reviewCompleted
    (CompletedReview.mk 1 "k1" 0 .approve "good" []).toValue with causationId := some "m6" }
    "m8" "m9"

-- the child is reported as completed, and the workflow with it
example : ((Runner.mk "runner" sampleConfigurationValue).run sampleRounds).messages.map
    (fun m => (m.senderId, m.kind, m.payload.getStr "request_id")) = [
      ("u", workRequested, some "w"), ("runner", workRequested, some "w"),
      ("c", artifactProposed, some "w"), ("runner", workRequested, some "k1"),
      ("a", artifactProposed, some "k1"), ("runner", reviewRequested, some "k1"),
      ("r", reviewCompleted, some "k1"), ("runner", workCompleted, some "k1"),
      ("runner", workCompleted, some "w")] := by
  decide +kernel

end Fleetd.Workflow
