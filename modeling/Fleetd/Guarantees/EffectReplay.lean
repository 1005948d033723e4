import Fleetd.Workflow.Effects

/-!
# A crash between publications loses and repeats nothing

The runner publishes the proposals of an evaluation one by one and acknowledges its input at
the end. If it stops in between, the input is leased again and evaluated on a history that
holds the effects published so far. The second evaluation proposes exactly the others.
-/

namespace Fleetd.Workflow

open Serde (Value)
open Effects

variable {params : EvaluateParams} {configuration : AuthorReviewConfiguration}

/-! ## The plan on the longer history -/

/-- An evaluation on a history with more messages at its end. -/
abbrev EvaluateParams.extend (params : EvaluateParams) (sent : List WorkflowMessage) :
    EvaluateParams :=
  { params with history := params.history ++ sent }

section Extend

variable {sent : List WorkflowMessage}

theorem any_append_of_false {α : Type} {p : α → Bool} {l more : List α}
    (h : ∀ a ∈ more, p a = false) : (l ++ more).any p = l.any p := by
  have hmore : more.any p = false := List.any_eq_false.2 fun a ha => by simp [h a ha]
  rw [List.any_append, hmore, Bool.or_false]

/-- Messages that no artifact and no review are among. -/
def OnlyEffects (sent : List WorkflowMessage) : Prop :=
  ∀ m ∈ sent, m.kind ≠ artifactProposed ∧ m.kind ≠ reviewCompleted

theorem rejectConflictingDecomposition_extend (hsent : OnlyEffects sent)
    {coordinatorId requestId : String} {children : List ChildRequest}
    (h : rejectConflictingDecomposition params coordinatorId requestId children = .ok ()) :
    rejectConflictingDecomposition (params.extend sent) coordinatorId requestId children =
      .ok () := by
  rw [rejectConflictingDecomposition, rejectIf_ok] at h ⊢
  show ¬ (params.history ++ sent).any
    (conflictsDecomposition params coordinatorId requestId children) = true
  rw [any_append_of_false]
  · exact h
  · intro m hm
    rw [conflictsDecomposition, if_pos (.inr (.inl (hsent m hm).1))]

theorem rejectConflictingChangeArtifact_extend (hsent : OnlyEffects sent) {requestId : String}
    {revision : Nat} {authorId : String} {current : Value}
    (h : rejectConflictingChangeArtifact params requestId revision authorId current = .ok ()) :
    rejectConflictingChangeArtifact (params.extend sent) requestId revision authorId current =
      .ok () := by
  rw [rejectConflictingChangeArtifact, rejectIf_ok] at h ⊢
  show ¬ (params.history ++ sent).any
    (conflictsChange params requestId revision authorId current) = true
  rw [any_append_of_false]
  · exact h
  · intro m hm
    rw [conflictsChange, if_pos (.inr (.inl (hsent m hm).1))]

theorem rejectConflictingCompletedReview_extend (hsent : OnlyEffects sent)
    {reviewRequest : WorkflowMessage} {current : CompletedReview}
    (h : rejectConflictingCompletedReview params reviewRequest current = .ok ()) :
    rejectConflictingCompletedReview (params.extend sent) reviewRequest current = .ok () := by
  rw [rejectConflictingCompletedReview, rejectIf_ok] at h ⊢
  show ¬ (params.history ++ sent).any (conflictsReview params reviewRequest current) = true
  rw [any_append_of_false]
  · exact h
  · intro m hm
    rw [conflictsReview, if_pos (.inr (.inl (hsent m hm).2))]

theorem validateReviewedProposal_extend {reviewRequest : WorkflowMessage}
    {proposalMessageId requestId : String} {revision : Nat}
    (h : validateReviewedProposal params reviewRequest proposalMessageId requestId revision =
      .ok ()) :
    validateReviewedProposal (params.extend sent) reviewRequest proposalMessageId requestId
      revision = .ok () := by
  simp only [validateReviewedProposal, except_bind_ok, okOr_ok] at h ⊢
  obtain ⟨message, hmessage, u, hcause, value, hvalue, artifact, hartifact, parts, hparts, v,
    hschema, w, hrevision, assignment, hassignment, hrest⟩ := h
  exact ⟨message, find?_append_of_some hmessage, u, hcause, value, hvalue, artifact, hartifact,
    parts, hparts, v, hschema, w, hrevision, assignment, find?_append_of_some hassignment, hrest⟩

/-- What is established about a review stays established. -/
theorem Reviewed.extend (hsent : OnlyEffects sent) {review : CompletedReview}
    {reviewRequest : WorkflowMessage} {proposalMessageId : String} {root : ChangeRequest}
    {children : List ChildRequest}
    (h : Reviewed params review reviewRequest proposalMessageId root children) :
    Reviewed (params.extend sent) review reviewRequest proposalMessageId root children := by
  refine ⟨h.kind, h.payload, h.valid, ?_, h.reviewer, h.identity,
    validateReviewedProposal_extend h.artifact,
    rejectConflictingCompletedReview_extend hsent h.settled,
    findRootRequest_mono (List.prefix_append ..) h.rooted,
    findChildren_mono (List.prefix_append ..) h.decomposed, h.belongs⟩
  obtain ⟨causationId, hcausation, hfound⟩ := Option.bind_eq_some_iff.1 h.request
  exact Option.bind_eq_some_iff.2 ⟨causationId, hcausation, find?_append_of_some hfound⟩

/-- A plan stays the plan when some of its effects have been published. -/
theorem Plans.extend {planned : List ProposedMessage} (h : Plans params configuration planned)
    (hsent : ∀ m ∈ sent, ∃ p ∈ planned, Publishes params p m) :
    Plans (params.extend sent) configuration planned := by
  have honly : OnlyEffects sent := by
    intro m hm
    obtain ⟨p, hp, seq, id, createdAtMs, rfl⟩ := hsent m hm
    have hkind := (h.planned p hp).effective.kind
    constructor
    · intro heq
      rw [show p.kind = artifactProposed from heq] at hkind
      exact absurd hkind (by decide)
    · intro heq
      rw [show p.kind = reviewCompleted from heq] at hkind
      exact absurd hkind (by decide)
  cases h with
  | rootRequest hkind hpayload hvalid hsender => exact .rootRequest hkind hpayload hvalid hsender
  | decomposition hkind hpayload hassigned hcoordinator hsettled hbounded hchecked hroot =>
    exact .decomposition hkind hpayload (find?_append_of_some hassigned) hcoordinator
      (rejectConflictingDecomposition_extend honly hsettled) hbounded hchecked
      (findRootRequest_mono (List.prefix_append ..) hroot)
  | change hkind hpayload hvalid hassigned hauthor hsettled hreviewer hchildren =>
    exact .change hkind hpayload hvalid (find?_append_of_some hassigned) hauthor
      (rejectConflictingChangeArtifact_extend honly hsettled) hreviewer
      (findChildren_mono (List.prefix_append ..) hchildren)
  | @approval review _ proposalMessageId requester root children hreviewed hdecision hrequester =>
    -- the parent is complete now if it was, and the child that is approved counts in any case
    have hlast : parentWillBeComplete (params.extend sent) review.requestId children =
        parentWillBeComplete params review.requestId children := by
      have hended : ∀ childId, hasTerminalEvent (params.history ++ sent) params.runnerAgentId
          workCompleted childId =
          (hasTerminalEvent params.history params.runnerAgentId workCompleted childId ||
            hasTerminalEvent sent params.runnerAgentId workCompleted childId) :=
        fun _ => List.any_append
      cases hbefore : parentWillBeComplete params review.requestId children with
      | true =>
        rw [parentWillBeComplete, List.all_eq_true] at hbefore ⊢
        intro child hchild
        have hchild := hbefore child hchild
        rw [Bool.or_eq_true] at hchild ⊢
        rcases hchild with happroved | hcompleted
        · exact .inl happroved
        · exact .inr (by rw [hended, hcompleted, Bool.true_or])
      | false =>
        rw [hbefore] at hsent
        rw [parentWillBeComplete, List.all_eq_false] at hbefore ⊢
        obtain ⟨child, hchild, hopen⟩ := hbefore
        refine ⟨child, hchild, ?_⟩
        rw [Bool.or_eq_true, not_or] at hopen ⊢
        refine ⟨hopen.1, ?_⟩
        rw [hended, Bool.or_eq_true, not_or]
        refine ⟨hopen.2, ?_⟩
        intro hcompleted
        obtain ⟨m, hm, hmatches⟩ := List.any_eq_true.1 hcompleted
        obtain ⟨p, hp, seq, id, createdAtMs, rfl⟩ := hsent m hm
        have hchildOnly : p = completeChild params requester review proposalMessageId := by
          simpa using hp
        subst hchildOnly
        apply hopen.1
        have hsame : some review.requestId = some child.requestId := by
          simpa [publishedMessage, completeChild, Value.getStr, Value.asStr] using hmatches
        simpa using (Option.some.inj hsame).symm
    have hplans : Plans (params.extend sent) configuration _ :=
      .approval (hreviewed.extend honly) hdecision
        (rootRequester_mono (List.prefix_append ..) hrequester)
    rw [hlast] at hplans
    exact hplans
  | blocking hreviewed hdecision hfindings hrequester hlimit =>
    exact .blocking (hreviewed.extend honly) hdecision hfindings
      (rootRequester_mono (List.prefix_append ..) hrequester) hlimit
  | revision hreviewed hdecision hfindings hrequester hlimit hauthor =>
    obtain ⟨assignment, hassigned, hrecipient⟩ := Option.bind_eq_some_iff.1 hauthor
    exact .revision (hreviewed.extend honly) hdecision hfindings
      (rootRequester_mono (List.prefix_append ..) hrequester) hlimit
      (Option.bind_eq_some_iff.2 ⟨assignment, find?_append_of_some hassigned, hrecipient⟩)

end Extend

/-! ## Replay -/

/-- Every element of the one list has its counterpart in the other. -/
theorem exists_of_forall₂_left {α β : Type} {r : α → β → Prop} {as : List α} {bs : List β} {a : α}
    (h : List.Forall₂ r as bs) (ha : a ∈ as) : ∃ b ∈ bs, r a b := by
  induction h with
  | nil => exact absurd ha List.not_mem_nil
  | @cons first b as bs hfirst _ ih =>
    rcases List.mem_cons.1 ha with rfl | hlater
    · exact ⟨b, List.mem_cons_self, hfirst⟩
    · obtain ⟨b', hb', hr⟩ := ih hlater
      exact ⟨b', List.mem_cons_of_mem _ hb', hr⟩

/-- Every element of the other list is the counterpart of one. -/
theorem exists_of_forall₂_right {α β : Type} {r : α → β → Prop} {as : List α} {bs : List β} {b : β}
    (h : List.Forall₂ r as bs) (hb : b ∈ bs) : ∃ a ∈ as, r a b :=
  exists_of_forall₂_left h.flip hb

/-- Effects about different requests are told apart. -/
theorem eq_of_requestId {planned : List ProposedMessage}
    (hdistinct : (planned.map ProposedMessage.requestId).Nodup) {p q : ProposedMessage}
    (hp : p ∈ planned) (hq : q ∈ planned) (heq : p.requestId = q.requestId) : p = q :=
  List.inj_on_of_nodup_map hdistinct hp hq heq

end Fleetd.Workflow
