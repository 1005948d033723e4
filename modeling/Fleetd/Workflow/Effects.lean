import Fleetd.Workflow.Admission
import Fleetd.Workflow.Runner

/-!
# Effects and their repeats

What the effects of a plan have in common: a repeat is recognised by the request that it is
about and, for an assignment, by who is assigned and for which revision. A message that was
published for a proposal is recognised as its effect, and as no other effect of the plan.
-/

namespace Fleetd.Workflow

open Serde (Value)
open Effects

variable {params : EvaluateParams} {configuration : AuthorReviewConfiguration}

/-- A message that the runner sent for a proposal. -/
def Publishes (params : EvaluateParams) (proposal : ProposedMessage) (message : WorkflowMessage) :
    Prop :=
  ∃ seq id createdAtMs, message = publishedMessage params proposal seq id createdAtMs

/-- What is accepted as a configuration is what the value reads as. -/
theorem ofValue_of_validateConfiguration (h : validateConfiguration params = .ok configuration) :
    AuthorReviewConfiguration.ofValue params.configuration = some configuration := by
  simp only [validateConfiguration, except_bind_ok, okOr_ok, except_pure_ok] at h
  obtain ⟨read, hread, _, -, _, -, _, -, _, -, _, -, _, -, _, -, _, -, rfl⟩ := h
  exact hread

/-! ## Lookups on a longer history -/

/-- What is found stays what is found first. -/
theorem find?_append_of_some {α : Type} {p : α → Bool} {l more : List α} {a : α}
    (h : l.find? p = some a) : (l ++ more).find? p = some a := by
  rw [List.find?_append, h, Option.some_or]

section Longer

variable {history longer : List WorkflowMessage} {workflowId : String}
  (hbegins : history <+: longer)
include hbegins

/-- The first decomposition stays the first when more is posted. -/
theorem findChildren_mono {children : List ChildRequest}
    (h : findChildren history workflowId = .ok children) :
    findChildren longer workflowId = .ok children := by
  obtain ⟨more, rfl⟩ := hbegins
  rw [findChildren, okOr_ok] at h ⊢
  rw [List.findSome?_append, h, Option.some_or]

theorem findRootRequest_mono {root : ChangeRequest}
    (h : findRootRequest history workflowId = .ok root) :
    findRootRequest longer workflowId = .ok root := by
  obtain ⟨more, rfl⟩ := hbegins
  simp only [findRootRequest, except_bind_ok, okOr_ok] at h ⊢
  obtain ⟨message, hmessage, hroot⟩ := h
  exact ⟨message, find?_append_of_some hmessage, hroot⟩

theorem rootRequester_mono {requester : String}
    (h : rootRequester history workflowId = .ok requester) :
    rootRequester longer workflowId = .ok requester := by
  obtain ⟨more, rfl⟩ := hbegins
  simp only [rootRequester, except_bind_ok, okOr_ok] at h ⊢
  obtain ⟨message, hmessage, hrequester⟩ := h
  exact ⟨message, find?_append_of_some hmessage, hrequester⟩

theorem findAssignment_mono {runnerAgentId kind requestId assignment : String} {revision : Nat}
    {message : WorkflowMessage}
    (h : findAssignment history runnerAgentId kind requestId assignment revision = some message) :
    findAssignment longer runnerAgentId kind requestId assignment revision = some message := by
  obtain ⟨more, rfl⟩ := hbegins
  exact find?_append_of_some h

end Longer

/-! ## Payloads without repeated keys -/

theorem keyedMembers_iff {members : List (String × Value)} :
    Value.KeyedMembers members ↔ ∀ m ∈ members, m.2.Keyed := by
  induction members with
  | nil => simp [Value.KeyedMembers]
  | cons member members ih =>
    rw [Value.KeyedMembers, ih, List.forall_mem_cons, Value.KeyedMember]

theorem keyedItems_iff {items : List Value} :
    Value.KeyedItems items ↔ ∀ v ∈ items, v.Keyed := by
  induction items with
  | nil => simp [Value.KeyedItems]
  | cons item items ih => rw [Value.KeyedItems, ih, List.forall_mem_cons]

/-- What is read from a value without repeated keys has none either. -/
theorem keyed_get {value v : Value} {key : String} (h : value.Keyed)
    (hget : value.get key = some v) : v.Keyed := by
  cases value with
  | object members =>
    rw [Value.Keyed, keyedMembers_iff] at h
    exact h.2 _ (Serde.mem_of_get hget)
  | _ => simp [Value.get] at hget

theorem keyed_strings (texts : List String) : (strings texts).Keyed := by
  rw [strings, Value.Keyed, keyedItems_iff]
  intro v hv
  obtain ⟨text, -, rfl⟩ := List.mem_map.1 hv
  simp [Value.Keyed]

/-- Leaving out members repeats no key. -/
theorem keyed_stable {kind : String} {payload : Value} (h : payload.Keyed) :
    (stableEffectPayload kind payload).Keyed := by
  cases payload with
  | object members =>
    rw [Value.Keyed, keyedMembers_iff] at h
    rw [stableEffectPayload, Value.Keyed, keyedMembers_iff]
    exact ⟨h.1.sublist (List.filter_sublist.map _), fun m hm => h.2 m (List.mem_filter.1 hm).1⟩
  | _ => exact h

theorem ChangeRequest.keyed (request : ChangeRequest) : request.toValue.Keyed := by
  simp [ChangeRequest.toValue, RepositoryTarget.toValue, Value.Keyed, Value.KeyedMembers,
    Value.KeyedMember, Value.nat, keyed_strings]

theorem ChildRequest.keyed (child : ChildRequest) : child.toValue.Keyed := by
  simp [ChildRequest.toValue, Value.Keyed, Value.KeyedMembers, Value.KeyedMember, keyed_strings]

theorem keyed_artifacts (artifacts : List ArtifactReference) :
    Value.KeyedItems (artifacts.map ArtifactReference.toValue) := by
  rw [keyedItems_iff]
  intro v hv
  obtain ⟨reference, -, rfl⟩ := List.mem_map.1 hv
  simp [ArtifactReference.toValue, Value.Keyed, Value.KeyedMembers, Value.KeyedMember]

/-! ## What a plan consists of -/

/-- One effect of a plan, with what it rests on. -/
inductive Planned (params : EvaluateParams) (configuration : AuthorReviewConfiguration) :
    ProposedMessage → Prop
  | coordinator (request : ChangeRequest) :
      Planned params configuration (assignCoordinator configuration request)
  | author (root : ChangeRequest) {children : List ChildRequest} {child : ChildRequest}
      (index : Nat) (member : child ∈ children)
      (checked : ∃ ids, children.foldlM (checkChild params.workflowId) [] = .ok ids) :
      Planned params configuration (assignAuthor configuration root params.workflowId index child)
  | reviewer {requestId reviewer : String} {revision : Nat} {assignment : WorkflowMessage}
      (summary : String) (artifacts : List ArtifactReference) (evidence : List String)
      (assigned : findAssignment params.history params.runnerAgentId
        (authorAssignmentKind revision) requestId "author" revision = some assignment)
      (selected : selectReviewer configuration params.input.senderId requestId = .ok reviewer) :
      Planned params configuration
        (requestReview params reviewer requestId revision summary artifacts evidence)
  | childCompleted {review : CompletedReview} {reviewRequest : WorkflowMessage}
      {proposalMessageId : String} {root : ChangeRequest} {children : List ChildRequest}
      (requester : String)
      (reviewed : Reviewed params review reviewRequest proposalMessageId root children)
      (decision : review.decision = .approve) :
      Planned params configuration (completeChild params requester review proposalMessageId)
  | parentCompleted {review : CompletedReview} {reviewRequest : WorkflowMessage}
      {proposalMessageId : String} {root : ChangeRequest} {children : List ChildRequest}
      (requester : String)
      (reviewed : Reviewed params review reviewRequest proposalMessageId root children)
      (decision : review.decision = .approve)
      (complete : parentWillBeComplete params review.requestId children = true) :
      Planned params configuration (completeParent params requester root children)
  | childBlocked {review : CompletedReview} {reviewRequest : WorkflowMessage}
      {proposalMessageId : String} {root : ChangeRequest} {children : List ChildRequest}
      (requester : String)
      (reviewed : Reviewed params review reviewRequest proposalMessageId root children)
      (decision : review.decision = .revise)
      (limit : configuration.maxRevisionRounds ≤ review.revision) :
      Planned params configuration (blockChild params requester review)
  | parentBlocked {review : CompletedReview} {reviewRequest : WorkflowMessage}
      {proposalMessageId : String} {root : ChangeRequest} {children : List ChildRequest}
      (requester : String)
      (reviewed : Reviewed params review reviewRequest proposalMessageId root children)
      (decision : review.decision = .revise)
      (limit : configuration.maxRevisionRounds ≤ review.revision) :
      Planned params configuration (blockParent params requester review root)
  | revision {review : CompletedReview} {reviewRequest : WorkflowMessage}
      {proposalMessageId : String} {root : ChangeRequest} {children : List ChildRequest}
      (author : String)
      (reviewed : Reviewed params review reviewRequest proposalMessageId root children)
      (decision : review.decision = .revise)
      (limit : review.revision < configuration.maxRevisionRounds) :
      Planned params configuration (requestRevision params author review proposalMessageId)

/-- A plan consists of such effects. -/
theorem Plans.planned {planned : List ProposedMessage} (h : Plans params configuration planned) :
    ∀ p ∈ planned, Planned params configuration p := by
  intro p hp
  cases h with
  | rootRequest =>
    rw [List.mem_singleton.1 hp]
    exact .coordinator _
  | decomposition _ _ _ _ _ _ hchecked =>
    obtain ⟨index, hindex, rfl⟩ := List.mem_mapIdx.1 hp
    exact .author _ index (List.getElem_mem hindex) hchecked
  | change _ _ _ hassigned _ _ hselected =>
    rw [List.mem_singleton.1 hp]
    exact .reviewer _ _ _ hassigned hselected
  | approval hreviewed hdecision =>
    rcases List.mem_cons.1 hp with rfl | hparent
    · exact .childCompleted _ hreviewed hdecision
    · split at hparent
      · rename_i hcomplete
        rw [List.mem_singleton.1 hparent]
        exact .parentCompleted _ hreviewed hdecision hcomplete
      · exact absurd hparent List.not_mem_nil
  | blocking hreviewed hdecision _ _ hlimit =>
    rcases List.mem_cons.1 hp with rfl | hparent
    · exact .childBlocked _ hreviewed hdecision hlimit
    · rw [List.mem_singleton.1 hparent]
      exact .parentBlocked _ hreviewed hdecision hlimit
  | revision hreviewed hdecision _ _ hlimit =>
    rw [List.mem_singleton.1 hp]
    exact .revision _ hreviewed hdecision hlimit

/-- An effect that reports a completion comes from an approving review. -/
theorem Planned.completion {p : ProposedMessage} (h : Planned params configuration p)
    (hkind : p.kind = workCompleted) :
    ∃ review reviewRequest proposalMessageId root children requester,
      Reviewed params review reviewRequest proposalMessageId root children ∧
        review.decision = .approve ∧
        (p = completeChild params requester review proposalMessageId ∨
          parentWillBeComplete params review.requestId children = true ∧
            p = completeParent params requester root children) := by
  cases h with
  | childCompleted _ hreviewed hdecision =>
    exact ⟨_, _, _, _, _, _, hreviewed, hdecision, .inl rfl⟩
  | parentCompleted _ hreviewed hdecision hcomplete =>
    exact ⟨_, _, _, _, _, _, hreviewed, hdecision, .inr ⟨hcomplete, rfl⟩⟩
  | coordinator => exact absurd hkind (by decide : workRequested ≠ workCompleted)
  | author => exact absurd hkind (by decide : workRequested ≠ workCompleted)
  | reviewer => exact absurd hkind (by decide : reviewRequested ≠ workCompleted)
  | childBlocked => exact absurd hkind (by decide : workBlocked ≠ workCompleted)
  | parentBlocked => exact absurd hkind (by decide : workBlocked ≠ workCompleted)
  | revision => exact absurd hkind (by decide : revisionRequested ≠ workCompleted)

/-- An effect that reports a block comes from a review that exhausts the rounds. -/
theorem Planned.blocking {p : ProposedMessage} (h : Planned params configuration p)
    (hkind : p.kind = workBlocked) :
    ∃ review reviewRequest proposalMessageId root children requester,
      Reviewed params review reviewRequest proposalMessageId root children ∧
        review.decision = .revise ∧ configuration.maxRevisionRounds ≤ review.revision ∧
        (p = blockChild params requester review ∨
          p = blockParent params requester review root) := by
  cases h with
  | childBlocked _ hreviewed hdecision hlimit =>
    exact ⟨_, _, _, _, _, _, hreviewed, hdecision, hlimit, .inl rfl⟩
  | parentBlocked _ hreviewed hdecision hlimit =>
    exact ⟨_, _, _, _, _, _, hreviewed, hdecision, hlimit, .inr rfl⟩
  | coordinator => exact absurd hkind (by decide : workRequested ≠ workBlocked)
  | author => exact absurd hkind (by decide : workRequested ≠ workBlocked)
  | reviewer => exact absurd hkind (by decide : reviewRequested ≠ workBlocked)
  | childCompleted => exact absurd hkind (by decide : workCompleted ≠ workBlocked)
  | parentCompleted => exact absurd hkind (by decide : workCompleted ≠ workBlocked)
  | revision => exact absurd hkind (by decide : revisionRequested ≠ workBlocked)

/-- An effect that asks for a review goes to a selected reviewer. -/
theorem Planned.reviewing {p : ProposedMessage} (h : Planned params configuration p)
    (hkind : p.kind = reviewRequested) :
    ∃ reviewer requestId revision summary artifacts evidence,
      selectReviewer configuration params.input.senderId requestId = .ok reviewer ∧
        p = requestReview params reviewer requestId revision summary artifacts evidence := by
  cases h with
  | reviewer _ _ _ _ hselected => exact ⟨_, _, _, _, _, _, hselected, rfl⟩
  | coordinator => exact absurd hkind (by decide : workRequested ≠ reviewRequested)
  | author => exact absurd hkind (by decide : workRequested ≠ reviewRequested)
  | childCompleted => exact absurd hkind (by decide : workCompleted ≠ reviewRequested)
  | parentCompleted => exact absurd hkind (by decide : workCompleted ≠ reviewRequested)
  | childBlocked => exact absurd hkind (by decide : workBlocked ≠ reviewRequested)
  | parentBlocked => exact absurd hkind (by decide : workBlocked ≠ reviewRequested)
  | revision => exact absurd hkind (by decide : revisionRequested ≠ reviewRequested)

/-- An effect that asks for a revision comes from a review within the limit of rounds. -/
theorem Planned.revising {p : ProposedMessage} (h : Planned params configuration p)
    (hkind : p.kind = revisionRequested) :
    ∃ review reviewRequest proposalMessageId root children author,
      Reviewed params review reviewRequest proposalMessageId root children ∧
        review.decision = .revise ∧ review.revision < configuration.maxRevisionRounds ∧
        p = requestRevision params author review proposalMessageId := by
  cases h with
  | revision _ hreviewed hdecision hlimit =>
    exact ⟨_, _, _, _, _, _, hreviewed, hdecision, hlimit, rfl⟩
  | coordinator => exact absurd hkind (by decide : workRequested ≠ revisionRequested)
  | author => exact absurd hkind (by decide : workRequested ≠ revisionRequested)
  | reviewer => exact absurd hkind (by decide : reviewRequested ≠ revisionRequested)
  | childCompleted => exact absurd hkind (by decide : workCompleted ≠ revisionRequested)
  | parentCompleted => exact absurd hkind (by decide : workCompleted ≠ revisionRequested)
  | childBlocked => exact absurd hkind (by decide : workBlocked ≠ revisionRequested)
  | parentBlocked => exact absurd hkind (by decide : workBlocked ≠ revisionRequested)

/-- Kinds of effects that make an assignment. -/
abbrev isAssignment (kind : String) : Prop :=
  kind = workRequested ∨ kind = reviewRequested ∨ kind = revisionRequested

/-- What every effect of a plan has in common. -/
structure Effective (proposal : ProposedMessage) : Prop where
  kind : isAssignment proposal.kind ∨ proposal.kind = workCompleted ∨ proposal.kind = workBlocked
  keyed : proposal.payload.Keyed
  request : ∃ id, proposal.payload.get "request_id" = some (.string id)

/-- The request that an effect is about. -/
def ProposedMessage.requestId (proposal : ProposedMessage) : Option String :=
  proposal.payload.getStr "request_id"

theorem effective_assignCoordinator (request : ChangeRequest) :
    Effective (assignCoordinator configuration request) := by
  refine ⟨.inl (.inl rfl), ?_, request.requestId, rfl⟩
  simp [assignCoordinator, expectedOutput, Value.Keyed, Value.KeyedMembers, Value.KeyedMember,
    Value.nat, request.keyed]

theorem effective_assignAuthor (root : ChangeRequest) (requestId : String) (index : Nat)
    (child : ChildRequest) : Effective (assignAuthor configuration root requestId index child) := by
  refine ⟨.inl (.inl rfl), ?_, child.requestId, rfl⟩
  simp [assignAuthor, expectedOutput, RepositoryTarget.toValue, Value.Keyed, Value.KeyedMembers,
    Value.KeyedMember, Value.nat, child.keyed]

theorem effective_requestReview (reviewer requestId summary : String) (revision : Nat)
    (artifacts : List ArtifactReference) (evidence : List String) :
    Effective (requestReview params reviewer requestId revision summary artifacts evidence) := by
  refine ⟨.inl (.inr (.inl rfl)), ?_, requestId, rfl⟩
  simp [requestReview, expectedOutput, Value.Keyed, Value.KeyedMembers, Value.KeyedMember,
    Value.nat, keyed_strings, keyed_artifacts]

theorem effective_completeChild (requester proposalMessageId : String) (review : CompletedReview) :
    Effective (completeChild params requester review proposalMessageId) := by
  refine ⟨.inr (.inl rfl), ?_, review.requestId, rfl⟩
  simp [completeChild, Value.Keyed, Value.KeyedMembers, Value.KeyedMember, Value.nat]

theorem effective_completeParent (requester : String) (root : ChangeRequest)
    (children : List ChildRequest) :
    Effective (completeParent params requester root children) := by
  refine ⟨.inr (.inl rfl), ?_, params.workflowId, rfl⟩
  simp [completeParent, Value.Keyed, Value.KeyedMembers, Value.KeyedMember, Value.nat,
    keyed_strings]

theorem effective_blockChild (requester : String) (review : CompletedReview) :
    Effective (blockChild params requester review) := by
  refine ⟨.inr (.inr rfl), ?_, review.requestId, rfl⟩
  simp [blockChild, Value.Keyed, Value.KeyedMembers, Value.KeyedMember, Value.nat, keyed_strings]

theorem effective_blockParent (requester : String) (review : CompletedReview)
    (root : ChangeRequest) : Effective (blockParent params requester review root) := by
  refine ⟨.inr (.inr rfl), ?_, params.workflowId, rfl⟩
  simp [blockParent, Value.Keyed, Value.KeyedMembers, Value.KeyedMember, Value.nat]

theorem effective_requestRevision (author proposalMessageId : String) (review : CompletedReview) :
    Effective (requestRevision params author review proposalMessageId) := by
  refine ⟨.inl (.inr (.inr rfl)), ?_, review.requestId, rfl⟩
  simp [requestRevision, expectedOutput, Value.Keyed, Value.KeyedMembers, Value.KeyedMember,
    Value.nat, keyed_strings]

/-- Every effect of a plan is one that a repeat is recognised by. -/
theorem Planned.effective {p : ProposedMessage} (h : Planned params configuration p) :
    Effective p := by
  cases h with
  | coordinator => exact effective_assignCoordinator _
  | author => exact effective_assignAuthor _ _ _ _
  | reviewer => exact effective_requestReview _ _ _ _ _ _
  | childCompleted => exact effective_completeChild _ _ _
  | parentCompleted => exact effective_completeParent _ _ _
  | childBlocked => exact effective_blockChild _ _
  | parentBlocked => exact effective_blockParent _ _ _
  | revision => exact effective_requestRevision _ _ _

/-- The children of a decomposition that was checked are distinct. -/
theorem nodup_of_checked {requestId : String} {children : List ChildRequest}
    (h : ∃ ids, children.foldlM (checkChild requestId) [] = .ok ids) :
    (children.map ChildRequest.requestId).Nodup ∧
      ∀ child ∈ children, child.requestId ≠ requestId := by
  have hstep : ∀ seen (child : ChildRequest) after, checkChild requestId seen child = .ok after ↔
      (validateChildRequest child = .ok () ∧ child.requestId ≠ requestId) ∧
        child.requestId ∉ seen ∧ after = child.requestId :: seen := by
    intro seen child after
    simp only [checkChild, except_bind_ok, rejectIf_ok, except_pure_ok, not_or]
    constructor
    · rintro ⟨_, hvalid, _, ⟨hparent, hfresh⟩, hafter⟩
      exact ⟨⟨hvalid, hparent⟩, hfresh, hafter⟩
    · rintro ⟨⟨hvalid, hparent⟩, hfresh, hafter⟩
      exact ⟨(), hvalid, (), ⟨hparent, hfresh⟩, hafter⟩
  obtain ⟨hall, hnodup⟩ := (foldlM_fresh hstep).1 h
  exact ⟨hnodup, fun child hchild => (hall child hchild).1.2⟩

/-- A review that is about a child, not about the workflow itself. -/
def AboutChild (params : EvaluateParams) : Prop :=
  params.input.kind = reviewCompleted → ∀ review, completedReview params.input = some review →
    review.requestId ≠ params.workflowId

/-- No two effects of a plan are about the same request. -/
theorem Plans.distinct {planned : List ProposedMessage} (h : Plans params configuration planned)
    (habout : AboutChild params) : (planned.map ProposedMessage.requestId).Nodup := by
  cases h with
  | rootRequest => exact List.nodup_singleton _
  | @decomposition children root _ _ _ _ _ _ _ hchecked =>
    have hids : (children.mapIdx (assignAuthor configuration root params.workflowId)).map
        ProposedMessage.requestId = (children.map ChildRequest.requestId).map some := by
      apply List.ext_getElem?
      intro index
      simp only [List.getElem?_map, List.getElem?_mapIdx, Option.map_map]
      rfl
    rw [hids]
    exact (nodup_of_checked hchecked).1.map fun _ _ heq => Option.some.inj heq
  | change => exact List.nodup_singleton _
  | @approval review _ _ _ _ children hreviewed =>
    have hne := habout hreviewed.kind review hreviewed.payload
    split
    · rw [List.map_cons, List.map_singleton, List.nodup_cons, List.mem_singleton]
      refine ⟨?_, List.nodup_singleton _⟩
      intro heq
      exact hne (Option.some.inj heq)
    · exact List.nodup_singleton _
  | @blocking review _ _ _ _ _ hreviewed =>
    have hne := habout hreviewed.kind review hreviewed.payload
    rw [List.map_cons, List.map_singleton, List.nodup_cons, List.mem_singleton]
    refine ⟨?_, List.nodup_singleton _⟩
    intro heq
    exact hne (Option.some.inj heq)
  | revision => exact List.nodup_singleton _

/-! ## Published effects -/

/-- A published effect commits its proposal and does not diverge from it. -/
theorem Publishes.commits {proposal : ProposedMessage} {message : WorkflowMessage}
    (h : Publishes params proposal message) (heffective : Effective proposal) :
    params.commits proposal message = true ∧ divergesFrom message proposal = false := by
  obtain ⟨seq, id, createdAtMs, rfl⟩ := h
  have hfield : ∀ key, sameField key proposal.payload proposal.payload = true := fun key =>
    Serde.agreesOptional_refl fun v hv => keyed_get heffective.keyed hv
  constructor
  · rw [EvaluateParams.commits, sameLogicalEffect]
    simp only [publishedMessage, hfield, decide_true, Bool.true_and, Bool.and_true]
    split
    · rfl
    · rename_i hended
      simpa using heffective.kind.resolve_left hended
  · rw [divergesFrom]
    simp [publishedMessage, Value.agrees_refl _ (keyed_stable heffective.keyed)]

/-- A published effect does not commit a proposal about another request. -/
theorem Publishes.not_commits {proposal other : ProposedMessage} {message : WorkflowMessage}
    (h : Publishes params proposal message) (heffective : Effective proposal)
    (hother : Effective other) (hne : proposal.requestId ≠ other.requestId) :
    params.commits other message = false := by
  obtain ⟨seq, id, createdAtMs, rfl⟩ := h
  obtain ⟨a, ha⟩ := heffective.request
  obtain ⟨b, hb⟩ := hother.request
  have hfield : sameField "request_id" proposal.payload other.payload = false := by
    rw [sameField, ha, hb]
    rw [Bool.eq_false_iff]
    intro hsame
    have hab : Value.string a = Value.string b := Serde.agrees_string.1 hsame
    apply hne
    rw [ProposedMessage.requestId, ProposedMessage.requestId, Value.getStr, Value.getStr, ha, hb,
      hab]
  simp [EvaluateParams.commits, sameLogicalEffect, publishedMessage, hfield]

/-! ## Assignments are about children -/

/-- An assignment other than the coordinator's is not about the workflow itself. -/
def Grounded (workflowId : String) (payload : Value) : Prop :=
  ∀ identity, AssignmentIdentity.ofValue payload = some identity →
    identity.assignment ≠ "coordinator" → identity.requestId ≠ workflowId

/-- What identifies an assignment is read from its payload. -/
theorem identity_fields {members : List (String × Value)} {identity : AssignmentIdentity}
    (h : AssignmentIdentity.ofValue (.object members) = some identity) :
    (Value.object members).get "request_id" = some (.string identity.requestId) ∧
      (Value.object members).get "assignment" = some (.string identity.assignment) := by
  have hstr : ∀ {field : Option Value} {text : String},
      required Value.asStr field = some text → field = some (.string text) := by
    intro field text hfield
    obtain ⟨value, hvalue, htext⟩ := Option.bind_eq_some_iff.1 hfield
    cases value <;> simp_all [Value.asStr]
  simp only [AssignmentIdentity.ofValue, structFields, Bool.false_and, Bool.false_eq_true,
    if_false, List.map_cons, List.map_nil, Option.bind_eq_bind, Option.bind_eq_some_iff] at h
  obtain ⟨requestId, hrequest, _, -, assignment, hassignment, _, -, _, -, hidentity⟩ := h
  cases hidentity
  exact ⟨hstr hrequest, hstr hassignment⟩

/-- A revision that is written out is the one that is read. -/
theorem identity_revision {members : List (String × Value)} {identity : AssignmentIdentity}
    {revision : Nat} (h : AssignmentIdentity.ofValue (.object members) = some identity)
    (hget : (Value.object members).get "revision" = some (.nat revision)) :
    identity.revision = revision := by
  simp only [AssignmentIdentity.ofValue, structFields, Bool.false_and, Bool.false_eq_true,
    if_false, List.map_cons, List.map_nil, Option.bind_eq_bind, Option.bind_eq_some_iff, hget] at h
  obtain ⟨_, -, _, -, _, -, read, hread, _, -, hidentity⟩ := h
  cases hidentity
  rw [defaulted, asU32, Option.bind_eq_some_iff] at hread
  obtain ⟨n, hn, hbounded⟩ := hread
  have hvalue : n = revision := by
    rw [Value.nat, Value.asU64] at hn
    split at hn
    · exact (Option.some.inj hn).symm.trans (Int.toNat_natCast revision)
    · cases hn
  split at hbounded
  · exact (Option.some.inj hbounded).symm.trans hvalue
  · cases hbounded

/-- What is about another request than the workflow's is grounded. -/
theorem grounded_of_request {workflowId requestId : String} {members : List (String × Value)}
    (hget : (Value.object members).get "request_id" = some (.string requestId))
    (hne : requestId ≠ workflowId) : Grounded workflowId (.object members) := by
  intro identity hidentity _ heq
  have hsame := (identity_fields hidentity).1.symm.trans hget
  simp only [Option.some.injEq, Value.string.injEq] at hsame
  exact hne (hsame ▸ heq)

/-- What assigns nobody is grounded. -/
theorem grounded_of_unassigned {workflowId : String} {members : List (String × Value)}
    (hget : (Value.object members).get "assignment" = none) :
    Grounded workflowId (.object members) := by
  intro identity hidentity
  rw [(identity_fields hidentity).2] at hget
  cases hget

/-- The runner's messages in the history are grounded. -/
def GroundedHistory (params : EvaluateParams) : Prop :=
  ∀ m ∈ params.history, m.senderId = params.runnerAgentId → Grounded params.workflowId m.payload

/-- A grounded message that assigns somebody else than the coordinator is about a child. -/
theorem ne_of_assigns {workflowId requestId assignment : String} {revision : Nat}
    {message : WorkflowMessage} (hgrounded : Grounded workflowId message.payload)
    (h : assigns requestId assignment revision message = true)
    (hassignment : assignment ≠ "coordinator") : requestId ≠ workflowId := by
  obtain ⟨identity, hidentity, hmatches⟩ := (Option.any_eq_true _ _).1 h
  simp only [Bool.and_eq_true, decide_eq_true_eq] at hmatches
  have hne := hgrounded identity hidentity
  rw [hmatches.1.1, hmatches.1.2] at hne
  exact hne hassignment

/-- An assignment that is found is about a child. -/
theorem ne_of_findAssignment (hgrounded : GroundedHistory params)
    {kind requestId assignment : String} {revision : Nat} {message : WorkflowMessage}
    (h : findAssignment params.history params.runnerAgentId kind requestId assignment revision =
      some message) (hassignment : assignment ≠ "coordinator") : requestId ≠ params.workflowId := by
  have hmatches := List.find?_some h
  simp only [Bool.and_eq_true, decide_eq_true_eq] at hmatches
  exact ne_of_assigns (hgrounded message (List.mem_of_find?_eq_some h) hmatches.1.1) hmatches.2
    hassignment

/-- A review whose request is found is about a child. -/
theorem Reviewed.ne_workflow (hgrounded : GroundedHistory params) {review : CompletedReview}
    {reviewRequest : WorkflowMessage} {proposalMessageId : String} {root : ChangeRequest}
    {children : List ChildRequest}
    (h : Reviewed params review reviewRequest proposalMessageId root children) :
    review.requestId ≠ params.workflowId := by
  obtain ⟨causationId, -, hfound⟩ := Option.bind_eq_some_iff.1 h.request
  have hmatches := List.find?_some hfound
  simp only [Bool.and_eq_true, decide_eq_true_eq] at hmatches
  exact ne_of_assigns (hgrounded reviewRequest (List.mem_of_find?_eq_some hfound)
    hmatches.1.1.2) hmatches.2 (by decide)

/-- On a grounded history a reviewed input is about a child. -/
theorem Plans.aboutChild {planned : List ProposedMessage} (h : Plans params configuration planned)
    (hgrounded : GroundedHistory params) : AboutChild params := by
  intro hkind review hreview
  have hother : ∀ kind : String, params.input.kind = kind → kind ≠ reviewCompleted → False :=
    fun kind heq hne => hne (heq ▸ hkind)
  cases h with
  | rootRequest hroot => exact (hother _ hroot (by decide)).elim
  | decomposition hartifact => exact (hother _ hartifact (by decide)).elim
  | change hartifact => exact (hother _ hartifact (by decide)).elim
  | approval hreviewed =>
    rw [Option.some.inj (hreview.symm.trans hreviewed.payload)]
    exact hreviewed.ne_workflow hgrounded
  | blocking hreviewed =>
    rw [Option.some.inj (hreview.symm.trans hreviewed.payload)]
    exact hreviewed.ne_workflow hgrounded
  | revision hreviewed =>
    rw [Option.some.inj (hreview.symm.trans hreviewed.payload)]
    exact hreviewed.ne_workflow hgrounded

/-- On a grounded history every effect of a plan is grounded. -/
theorem Planned.grounded {p : ProposedMessage} (h : Planned params configuration p)
    (hgrounded : GroundedHistory params) : Grounded params.workflowId p.payload := by
  cases h with
  | coordinator =>
    intro identity hidentity hne
    have hcoordinator := (identity_fields hidentity).2
    have hsame : some (Value.string "coordinator") = some (.string identity.assignment) :=
      hcoordinator
    simp only [Option.some.injEq, Value.string.injEq] at hsame
    exact (hne hsame.symm).elim
  | author _ _ hchild hchecked =>
    exact grounded_of_request rfl ((nodup_of_checked hchecked).2 _ hchild)
  | reviewer _ _ _ hassigned =>
    exact grounded_of_request rfl (ne_of_findAssignment hgrounded hassigned (by decide))
  | childCompleted => exact grounded_of_unassigned rfl
  | parentCompleted => exact grounded_of_unassigned rfl
  | childBlocked => exact grounded_of_unassigned rfl
  | parentBlocked => exact grounded_of_unassigned rfl
  | revision _ hreviewed => exact grounded_of_request rfl (hreviewed.ne_workflow hgrounded)

end Fleetd.Workflow
