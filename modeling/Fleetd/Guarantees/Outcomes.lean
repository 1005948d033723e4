import Mathlib.Data.List.Pairwise
import Fleetd.Guarantees.Completions

/-!
# A request has one outcome

The runner never reports one request both as completed and as blocked. Each revision of a child
is decided once: an evaluation that sees two reviews of one assignment with different decisions
fails. A later revision exists only because the one before it was sent back within the limit of
rounds, so an approved revision and one that exhausted the limit exclude each other.
-/

namespace Fleetd.Workflow

open Serde (Value)
open Effects

variable {runner : Runner} {s : RunnerState} {messages log : List WorkflowMessage}
  {configuration : AuthorReviewConfiguration} {channelId workflowId childId : String}

/-- A decision on a revision of a child that an evaluation of the runner accepted. -/
structure Decision (runner : Runner) (messages : List WorkflowMessage)
    (channelId workflowId childId : String) (revision : Nat) (decision : ReviewDecision)
    (params : EvaluateParams) (review : CompletedReview) (reviewRequest : WorkflowMessage) :
    Prop where
  decided : ∃ planned, Decided runner messages params planned
  place : params.input.channelId = channelId ∧ params.workflowId = workflowId
  reviewed : ∃ proposalMessageId root children,
    Reviewed params review reviewRequest proposalMessageId root children
  about : review.requestId = childId ∧ review.revision = revision ∧ review.decision = decision

/-- Some evaluation of the runner accepted a decision on a revision of a child. -/
def Decides (runner : Runner) (messages : List WorkflowMessage)
    (channelId workflowId childId : String) (revision : Nat) (decision : ReviewDecision) : Prop :=
  ∃ params review reviewRequest,
    Decision runner messages channelId workflowId childId revision decision params review
      reviewRequest

/-- No request of a workflow is reported both as completed and as blocked. -/
def OneOutcome (runner : Runner) (messages : List WorkflowMessage) : Prop :=
  ∀ m ∈ messages, ∀ n ∈ messages, m.senderId = runner.agentId → n.senderId = runner.agentId →
    m.channelId = n.channelId → m.correlationId = n.correlationId → m.kind = workCompleted →
      n.kind = workBlocked → m.payload.get "request_id" ≠ n.payload.get "request_id"

/-! ## One review request for a revision -/

theorem SameEffect.symm {m n : WorkflowMessage} (h : SameEffect m n) : SameEffect n m := by
  refine ⟨h.kind.symm, h.request.symm, ?_⟩
  intro hassign
  obtain ⟨hassignment, hrevision⟩ := h.assignment (h.kind ▸ hassign)
  exact ⟨hassignment.symm, hrevision.symm⟩

instance : Std.Symm (Unrepeated runner) where
  symm _ _ h hx hy hchannel hcorrelation hsame :=
    h hy hx hchannel.symm hcorrelation.symm hsame.symm

/-- Messages of the runner with the same effect are one message. -/
theorem EffectsOnce.eq_of_sameEffect (h : EffectsOnce runner s) {m n : WorkflowMessage}
    (hm : m ∈ s.messages) (hn : n ∈ s.messages) (hmsender : m.senderId = runner.agentId)
    (hnsender : n.senderId = runner.agentId) (hchannel : m.channelId = n.channelId)
    (hcorrelation : m.correlationId = n.correlationId) (hsame : SameEffect m n) : m = n := by
  by_contra hne
  exact h.once.forall hm hn hne hmsender hnsender hchannel hcorrelation hsame

/-- What a review request of the runner assigns is written in its payload. -/
theorem EffectsOnce.reviewRequest_fields (h : EffectsOnce runner s) {m : WorkflowMessage}
    (hm : m ∈ s.messages) (hsender : m.senderId = runner.agentId)
    (hcorrelation : m.correlationId = some workflowId) (hkind : m.kind = reviewRequested)
    {role : String} {revision : Nat} (hassigns : assigns childId role revision m = true) :
    m.payload.get "request_id" = some (.string childId) ∧
      m.payload.get "assignment" = some (.string role) ∧
      m.payload.get "revision" = some (.nat revision) := by
  obtain ⟨params, planned, configuration, p, -, -, -, -, -, hplanned, hsame, hpayload⟩ :=
    h.effect hm hsender hcorrelation
  rw [hsame] at hkind
  obtain ⟨identity, hidentity, hmatches⟩ := (Option.any_eq_true _ _).1 hassigns
  simp only [Bool.and_eq_true, decide_eq_true_eq] at hmatches
  rw [assignmentIdentity, hpayload] at hidentity
  rw [hpayload]
  obtain ⟨_, _, written, _, _, _, -, rfl⟩ := hplanned.reviewing hkind
  obtain ⟨hrequest, hrole⟩ := identity_fields hidentity
  have hrevision : identity.revision = written := identity_revision hidentity rfl
  refine ⟨hmatches.1.1 ▸ hrequest, hmatches.1.2 ▸ hrole, ?_⟩
  rw [← hmatches.2, hrevision]
  rfl

section Twice

variable {revision : Nat} {first second : ReviewDecision} {params params' : EvaluateParams}
  {review review' : CompletedReview} {request request' : WorkflowMessage}

/-- Decisions on the same revision answer the same review request. -/
theorem Decision.request_eq (h : EffectsOnce runner s)
    (ha : Decision runner s.messages channelId workflowId childId revision first params review
      request)
    (hb : Decision runner s.messages channelId workflowId childId revision second params' review'
      request') : request = request' := by
  have hfields : ∀ {decision params review request},
      Decision runner s.messages channelId workflowId childId revision decision params review
        request →
      request ∈ s.messages ∧ request.senderId = runner.agentId ∧ request.channelId = channelId ∧
        request.correlationId = some workflowId ∧ request.kind = reviewRequested ∧
        request.payload.get "request_id" = some (.string childId) ∧
        request.payload.get "assignment" = some (.string "reviewer") ∧
        request.payload.get "revision" = some (.nat revision) := by
    intro decision params review request hd
    obtain ⟨⟨planned, hdecided⟩, ⟨rfl, rfl⟩, ⟨_, _, _, hreviewed⟩, rfl, rfl, rfl⟩ := hd
    obtain ⟨hrequest, -, hsender, hkind, hassigns⟩ := hreviewed.requested
    obtain ⟨hmem, hchannel, hcorrelation⟩ := hdecided.posted request hrequest
    have hown := hsender.trans hdecided.agent
    exact ⟨hmem, hown, hchannel, hcorrelation, hkind,
      h.reviewRequest_fields hmem hown hcorrelation hkind hassigns⟩
  obtain ⟨hm, hmsender, hmchannel, hmflow, hmkind, hmabout, hmrole, hmrevision⟩ := hfields ha
  obtain ⟨hn, hnsender, hnchannel, hnflow, hnkind, hnabout, hnrole, hnrevision⟩ := hfields hb
  apply h.eq_of_sameEffect hm hn hmsender hnsender (hmchannel.trans hnchannel.symm)
    (hmflow.trans hnflow.symm)
  exact ⟨hmkind.trans hnkind.symm, hmabout.trans hnabout.symm,
    fun _ => ⟨hmrole.trans hnrole.symm, hmrevision.trans hnrevision.symm⟩⟩

/-- What is earlier in an ordered log than a message of its start is in the start too. -/
theorem mem_start_of_lt (hordered : messages.Pairwise fun m n => m.seq < n.seq)
    (hbegins : log <+: messages) {m n : WorkflowMessage} (hm : m ∈ messages) (hn : n ∈ log)
    (hlt : m.seq < n.seq) : m ∈ log := by
  obtain ⟨more, rfl⟩ := hbegins
  rcases List.mem_append.1 hm with hin | hlater
  · exact hin
  · have hgt := (List.pairwise_append.1 hordered).2.2 n hn m hlater
    omega

/-- The later of two reviews of one assignment is accepted only if it decides like the earlier. -/
theorem Decision.agree_of_lt (h : EffectsOnce runner s)
    (ha : Decision runner s.messages channelId workflowId childId revision first params review
      request)
    (hb : Decision runner s.messages channelId workflowId childId revision second params' review'
      request') (hlt : params.input.seq < params'.input.seq) : first = second := by
  obtain rfl := ha.request_eq h hb
  obtain ⟨⟨planned, hdecided⟩, ⟨hchannel, hworkflow⟩, ⟨_, _, _, hreviewed⟩, hchild, hround, rfl⟩ :=
    ha
  obtain ⟨⟨planned', hdecided'⟩, ⟨rfl, rfl⟩, ⟨_, _, _, hreviewed'⟩, rfl, rfl, rfl⟩ := hb
  have hposted := hdecided.posted _ (h.input_mem hdecided)
  have hlog : (workflowLog s.messages params'.input.channelId params'.workflowId).Pairwise
      fun m n => m.seq < n.seq := h.ordered.sublist List.filter_sublist
  have hseen : params.input ∈ params'.history :=
    mem_start_of_lt hlog hdecided'.history
      (mem_workflowLog.2 ⟨hdecided.input, hchannel, hworkflow ▸ hposted.2.2⟩)
      (h.input_mem hdecided') hlt
  have hsettled := hreviewed'.settled
  rw [rejectConflictingCompletedReview, rejectIf_ok, Bool.not_eq_true,
    List.any_eq_false] at hsettled
  have hquiet := hsettled params.input hseen
  have hid : params.input.id ≠ params'.input.id := by
    intro heq
    rw [h.eq_of_id hdecided.input hdecided'.input heq] at hlt
    exact Int.lt_irrefl _ hlt
  have hsender : params.input.senderId = params'.input.senderId :=
    Option.some.inj (hreviewed.reviewer.symm.trans hreviewed'.reviewer)
  have haddressed : params.input.recipientId = some params'.runnerAgentId := by
    rw [hdecided.admitted.addressed, hdecided.agent, hdecided'.agent]
  have hanswers := hreviewed.requested.2.1
  rw [conflictsReview, if_neg (by simp [hid, hreviewed.kind, hsender, haddressed, hanswers]),
    hreviewed.payload] at hquiet
  simp only [hchild, hround, ne_eq, not_true_eq_false, or_self, if_false, Bool.not_eq_true',
    Bool.not_eq_false] at hquiet
  have hdecisions : ∃ written, review'.toValue.get "decision" = some written ∧
      (Value.string review.decision.name).agrees written = true := Serde.agrees_get hquiet rfl
  obtain ⟨written, hwritten, hagrees⟩ := hdecisions
  cases hwritten
  have hnames := Serde.agrees_string.1 hagrees
  simp only [Value.string.injEq] at hnames
  generalize review.decision = first at hnames ⊢
  generalize review'.decision = second at hnames ⊢
  cases first <;> cases second <;> simp_all [ReviewDecision.name]

/-- A revision of a child is decided in one way. -/
theorem Decision.agree (h : EffectsOnce runner s)
    (ha : Decision runner s.messages channelId workflowId childId revision first params review
      request)
    (hb : Decision runner s.messages channelId workflowId childId revision second params' review'
      request') : first = second := by
  rcases Int.lt_trichotomy params.input.seq params'.input.seq with hlt | heq | hgt
  · exact ha.agree_of_lt h hb hlt
  · obtain ⟨⟨planned, hdecided⟩, -, ⟨_, _, _, hreviewed⟩, -, -, rfl⟩ := ha
    obtain ⟨⟨planned', hdecided'⟩, -, ⟨_, _, _, hreviewed'⟩, -, -, rfl⟩ := hb
    have hsame : params.input = params'.input :=
      List.inj_on_of_nodup_map
        (List.pairwise_map.2 (h.ordered.imp fun hlt => Int.ne_of_lt hlt)) hdecided.input
        hdecided'.input heq
    have hreview := hreviewed.payload
    rw [hsame, hreviewed'.payload] at hreview
    rw [Option.some.inj hreview]
  · exact (hb.agree_of_lt h ha hgt).symm

end Twice

/-! ## The rounds of a child -/

/-- A later revision was asked for because the one before it was sent back within the limit. -/
theorem EffectsOnce.sentBack (h : EffectsOnce runner s)
    (hconfiguration : AuthorReviewConfiguration.ofValue runner.pluginConfiguration =
      some configuration) {revision : Nat} {decision : ReviewDecision}
    (hd : Decides runner s.messages channelId workflowId childId (revision + 1) decision) :
    Decides runner s.messages channelId workflowId childId revision .revise ∧
      revision < configuration.maxRevisionRounds := by
  obtain ⟨params, review, request, ⟨planned, hdecided⟩, ⟨rfl, rfl⟩, ⟨_, _, _, hreviewed⟩, rfl,
    hround, -⟩ := hd
  obtain ⟨-, -, assignment, hassignment, -, -, -, hsender, hkind, -, hassigns⟩ :=
    validateReviewedProposal_ok hreviewed.artifact
  obtain ⟨hmem, hchannel, hcorrelation⟩ := hdecided.posted assignment hassignment
  obtain ⟨params', planned', read, p, hdecided', hworkflow, hplace, -, hread, hplanned, hsame,
    hpayload⟩ := h.effect hmem (hsender.trans hdecided.agent) hcorrelation
  obtain rfl : read = configuration := Option.some.inj (hread.symm.trans hconfiguration)
  rw [hround, authorAssignmentKind, if_neg (Nat.succ_ne_zero revision), hsame] at hkind
  obtain ⟨identity, hidentity, hmatches⟩ := (Option.any_eq_true _ _).1 hassigns
  simp only [Bool.and_eq_true, decide_eq_true_eq] at hmatches
  rw [assignmentIdentity, hpayload] at hidentity
  obtain ⟨review', request', _, _, _, _, hreviewed', hdecision, hlimit, rfl⟩ :=
    hplanned.revising hkind
  have habout : review'.requestId = review.requestId := by
    have hwritten : some (Value.string review'.requestId) = some (.string identity.requestId) :=
      (identity_fields hidentity).1
    rw [hmatches.1.1, Option.some.injEq, Value.string.injEq] at hwritten
    exact hwritten
  have hbefore : review'.revision = revision := by
    have hwritten : identity.revision = review'.revision + 1 := identity_revision hidentity rfl
    rw [hmatches.2, hround] at hwritten
    omega
  exact ⟨⟨params', review', request', ⟨planned', hdecided'⟩, ⟨hplace.symm.trans hchannel,
    hworkflow⟩, ⟨_, _, _, hreviewed'⟩, habout, hbefore, hdecision⟩, hbefore ▸ hlimit⟩

/-- Every revision before one that was decided was sent back within the limit. -/
theorem EffectsOnce.sentBack_below (h : EffectsOnce runner s)
    (hconfiguration : AuthorReviewConfiguration.ofValue runner.pluginConfiguration =
      some configuration) {revision : Nat} {decision : ReviewDecision}
    (hd : Decides runner s.messages channelId workflowId childId revision decision) :
    ∀ earlier < revision, Decides runner s.messages channelId workflowId childId earlier .revise ∧
      earlier < configuration.maxRevisionRounds := by
  induction revision generalizing decision with
  | zero => exact fun earlier hlt => absurd hlt (Nat.not_lt_zero earlier)
  | succ revision ih =>
    intro earlier hlt
    have hback := h.sentBack hconfiguration hd
    rcases Nat.lt_succ_iff_lt_or_eq.1 hlt with hbelow | rfl
    · exact ih hback.1 earlier hbelow
    · exact hback

/-- An approved child did not exhaust its rounds. -/
theorem EffectsOnce.not_exhausted (h : EffectsOnce runner s)
    (hconfiguration : AuthorReviewConfiguration.ofValue runner.pluginConfiguration =
      some configuration) {approved exhausted : Nat}
    (happroved : Decides runner s.messages channelId workflowId childId approved .approve)
    (hrevise : Decides runner s.messages channelId workflowId childId exhausted .revise) :
    exhausted < configuration.maxRevisionRounds := by
  have hdiffer : ∀ revision,
      Decides runner s.messages channelId workflowId childId revision .approve →
        ¬ Decides runner s.messages channelId workflowId childId revision .revise := by
    rintro revision ⟨params, review, request, ha⟩ ⟨params', review', request', hb⟩
    exact absurd (ha.agree h hb) (by decide)
  rcases Nat.lt_trichotomy approved exhausted with hlt | rfl | hgt
  · exact absurd (h.sentBack_below hconfiguration hrevise approved hlt).1 (hdiffer _ happroved)
  · exact absurd hrevise (hdiffer _ happroved)
  · exact (h.sentBack_below hconfiguration happroved exhausted hgt).2

/-! ## Outcomes -/

/-- A child that is reported as completed was approved. -/
theorem EffectsOnce.decides_of_completed (h : EffectsOnce runner s) {m : WorkflowMessage}
    (hm : m ∈ s.messages) (hsender : m.senderId = runner.agentId) (hkind : m.kind = workCompleted)
    (hchannel : m.channelId = channelId) (hcorrelation : m.correlationId = some workflowId)
    (habout : m.payload.get "request_id" = some (.string childId)) (hchild : childId ≠ workflowId) :
    ∃ revision, Decides runner s.messages channelId workflowId childId revision .approve := by
  obtain ⟨params, planned, configuration, p, hdecided, hworkflow, hplace, -, -, hplanned, hsame,
    hpayload⟩ := h.effect hm hsender hcorrelation
  rw [hsame] at hkind
  rw [hpayload] at habout
  obtain ⟨review, request, _, _, _, _, hreviewed, hdecision, rfl | ⟨-, rfl⟩⟩ :=
    hplanned.completion hkind
  · have hrequest : some (Value.string review.requestId) = some (.string childId) := habout
    simp only [Option.some.injEq, Value.string.injEq] at hrequest
    exact ⟨review.revision, params, review, request, ⟨planned, hdecided⟩,
      ⟨hplace.symm.trans hchannel, hworkflow⟩, ⟨_, _, _, hreviewed⟩, hrequest, rfl, hdecision⟩
  · have hrequest : some (Value.string params.workflowId) = some (.string childId) := habout
    simp only [Option.some.injEq, Value.string.injEq] at hrequest
    exact absurd (hrequest.symm.trans hworkflow) hchild

/-- When the workflow is reported as completed, every child of it was approved. -/
theorem EffectsOnce.decides_of_parentCompleted (h : EffectsOnce runner s) {m : WorkflowMessage}
    (hm : m ∈ s.messages) (hsender : m.senderId = runner.agentId) (hkind : m.kind = workCompleted)
    (hchannel : m.channelId = channelId) (hcorrelation : m.correlationId = some workflowId)
    (habout : m.payload.get "request_id" = some (.string workflowId))
    {children : List ChildRequest} {child : ChildRequest}
    (hchildren : findChildren (workflowLog s.messages channelId workflowId) workflowId =
      .ok children)
    (hmem : child ∈ children) (hne : child.requestId ≠ workflowId) :
    ∃ revision,
      Decides runner s.messages channelId workflowId child.requestId revision .approve := by
  obtain ⟨params, planned, configuration, p, hdecided, rfl, hplace, -, -, hplanned, hsame,
    hpayload⟩ := h.effect hm hsender hcorrelation
  obtain rfl := hchannel
  rw [hsame] at hkind
  rw [hpayload] at habout
  obtain ⟨review, request, _, _, found, _, hreviewed, hdecision, rfl | ⟨hcomplete, rfl⟩⟩ :=
    hplanned.completion hkind
  · have hrequest : some (Value.string review.requestId) = some (.string params.workflowId) :=
      habout
    simp only [Option.some.injEq, Value.string.injEq] at hrequest
    exact absurd hrequest (hreviewed.ne_workflow (hdecided.groundedHistory h.grounded))
  · have hsamechildren : found = children := by
      have hwhole := findChildren_mono hdecided.history hreviewed.decomposed
      rw [← hplace, hchildren] at hwhole
      exact (Except.ok.inj hwhole).symm
    rw [hsamechildren, parentWillBeComplete, List.all_eq_true] at hcomplete
    have hended := hcomplete child hmem
    rw [Bool.or_eq_true, decide_eq_true_eq] at hended
    rcases hended with hthis | hended
    · exact ⟨review.revision, params, review, request, ⟨planned, hdecided⟩, ⟨hplace.symm, rfl⟩,
        ⟨_, _, _, hreviewed⟩, hthis.symm, rfl, hdecision⟩
    · obtain ⟨n, hn, hmatches⟩ := List.any_eq_true.1 hended
      simp only [Bool.and_eq_true, decide_eq_true_eq] at hmatches
      obtain ⟨hposted, hsamechannel, hcorrelated⟩ := hdecided.posted n hn
      apply h.decides_of_completed hposted (hmatches.1.1.trans hdecided.agent) hmatches.1.2
        (hsamechannel.trans hplace.symm) hcorrelated _ hne
      have hread := hmatches.2
      rw [Value.getStr, Option.bind_eq_some_iff] at hread
      obtain ⟨value, hvalue, hstr⟩ := hread
      rw [hvalue]
      cases value <;> simp_all [Value.asStr]

/-- No state that is reached holds both outcomes of a request. -/
theorem EffectsOnce.oneOutcome (h : EffectsOnce runner s) : OneOutcome runner s.messages := by
  intro m hm n hn hmsender hnsender hchannel hcorrelation hmkind hnkind hsame
  obtain ⟨workflowId, hflow⟩ : ∃ workflowId, n.correlationId = some workflowId := by
    obtain ⟨params, _, _, _, _, _, _, _, _, rfl⟩ := h.sourced n hn hnsender
    exact ⟨params.workflowId, rfl⟩
  obtain ⟨params, planned, configuration, p, hdecided, rfl, hplace, -, hconfiguration, hplanned,
    hkind, hpayload⟩ := h.effect hn hnsender hflow
  rw [hkind] at hnkind
  rw [hpayload] at hsame
  rw [hflow] at hcorrelation
  have hmplace := hchannel.trans hplace
  obtain ⟨review, request, _, _, children, _, hreviewed, hdecision, hlimit, hreport⟩ :=
    hplanned.blocking hnkind
  have hne := hreviewed.ne_workflow (hdecided.groundedHistory h.grounded)
  have happroved : ∃ revision, Decides runner s.messages params.input.channelId params.workflowId
      review.requestId revision .approve := by
    rcases hreport with rfl | rfl
    · exact h.decides_of_completed hm hmsender hmkind hmplace hcorrelation hsame hne
    · obtain ⟨child, hchild, hthis⟩ := List.any_eq_true.1 hreviewed.belongs
      rw [decide_eq_true_eq] at hthis
      rw [← hthis]
      exact h.decides_of_parentCompleted hm hmsender hmkind hmplace hcorrelation hsame
        (findChildren_mono hdecided.history hreviewed.decomposed) hchild (hthis ▸ hne)
  obtain ⟨revision, happroved⟩ := happroved
  have hrevise : Decides runner s.messages params.input.channelId params.workflowId
      review.requestId review.revision .revise :=
    ⟨params, review, request, ⟨planned, hdecided⟩, ⟨rfl, rfl⟩, ⟨_, _, _, hreviewed⟩, rfl, rfl,
      hdecision⟩
  have hbelow := h.not_exhausted hconfiguration happroved hrevise
  omega

end Fleetd.Workflow
