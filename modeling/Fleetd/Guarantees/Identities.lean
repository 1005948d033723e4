import Fleetd.Workflow.Effects

/-!
# A repeated request is recognised under its key

A send whose answer was lost is made again under the same key, which is made of the input and
the operation, after another evaluation on a history that may have grown meanwhile. What an
operation of an input proposes depends on lookups that keep finding what they found first, so
the second request is the first one again and the service does not see a conflict.
-/

namespace Fleetd.Workflow

open Serde (Value)
open Effects

variable {params : EvaluateParams} {configuration : AuthorReviewConfiguration}
  {longer : List WorkflowMessage} {members : List WorkflowMember}
  {proposals repeated : List ProposedMessage}

/-- The same input at a later time. -/
abbrev EvaluateParams.later (params : EvaluateParams) (longer : List WorkflowMessage)
    (members : List WorkflowMember) : EvaluateParams :=
  { params with history := longer, members := members }

/-- What is proposed is planned. -/
theorem EvaluateParams.Settles.subset {planned : List ProposedMessage}
    (h : params.Settles planned proposals) : proposals ⊆ planned := by
  intro p hp
  rw [h.2] at hp
  exact (List.mem_filter.1 hp).1

theorem EvaluateParams.Settles.eq_of_mem {p proposal : ProposedMessage}
    (h : params.Settles [proposal] proposals) (hp : p ∈ proposals) : p = proposal :=
  List.mem_singleton.1 (h.subset hp)

/-- The request that a review answers stays the same. -/
theorem findReviewRequest_later (hbegins : params.history <+: longer) {review : CompletedReview}
    {message : WorkflowMessage} (h : findReviewRequest params review = some message) :
    findReviewRequest (params.later longer members) review = some message := by
  obtain ⟨more, rfl⟩ := hbegins
  obtain ⟨causationId, hcausation, hfound⟩ := Option.bind_eq_some_iff.1 h
  exact Option.bind_eq_some_iff.2 ⟨causationId, hcausation, find?_append_of_some hfound⟩

/-- The place of a child in the decomposition is part of its operation. -/
theorem assignAuthor_operationId {root : ChangeRequest} {requestId : String} {i j : Nat}
    {first second : ChildRequest}
    (h : (assignAuthor configuration root requestId i first).operationId =
      (assignAuthor configuration root requestId j second).operationId) : i = j := by
  have hnames : "assign-author:" ++ i.repr = "assign-author:" ++ j.repr := h
  have hdigits : Nat.toDigits 10 i = Nat.toDigits 10 j := by
    rw [← Nat.toList_repr, ← Nat.toList_repr, (String.append_right_inj _).1 hnames]
  have hread := congrArg (fun digits => Nat.ofDigitChars 10 digits 0) hdigits
  simpa only [Nat.ofDigitChars_toDigits (by decide : 1 < 10) (by decide : 10 ≤ 10)] using hread

theorem evaluateArtifact_repeats (hbegins : params.history <+: longer)
    (hfirst : Proposes (evaluateArtifact params configuration) proposals)
    (hlater : Proposes (evaluateArtifact (params.later longer members) configuration) repeated) :
    ∀ p ∈ proposals, ∀ q ∈ repeated, p.operationId = q.operationId → p = q := by
  intro p hp q hq hoperation
  obtain ⟨artifact, hpayload, hfirst⟩ := evaluateArtifact_iff.1 hfirst
  obtain ⟨again, hagain, hlater⟩ := evaluateArtifact_iff.1 hlater
  obtain rfl : artifact = again := Option.some.inj (hpayload.symm.trans hagain)
  cases artifact with
  | decomposition schemaVersion requestId children =>
    obtain ⟨-, -, -, root, -, -, -, -, -, hroot, hsettles⟩ := evaluateDecomposition_iff.1 hfirst
    obtain ⟨-, -, -, rootAgain, -, -, -, -, -, hrootAgain, hsettlesAgain⟩ :=
      evaluateDecomposition_iff.1 hlater
    obtain rfl : root = rootAgain :=
      Except.ok.inj ((findRootRequest_mono hbegins hroot).symm.trans hrootAgain)
    obtain ⟨i, hi, rfl⟩ := List.mem_mapIdx.1 (hsettles.subset hp)
    obtain ⟨j, hj, rfl⟩ := List.mem_mapIdx.1 (hsettlesAgain.subset hq)
    obtain rfl := assignAuthor_operationId hoperation
    rfl
  | change schemaVersion requestId revision summary artifacts evidence =>
    obtain ⟨-, -, reviewer, -, -, -, -, -, hreviewer, -, hsettles⟩ :=
      evaluateChangeArtifact_iff.1 hfirst
    obtain ⟨-, -, reviewerAgain, -, -, -, -, -, hreviewerAgain, -, hsettlesAgain⟩ :=
      evaluateChangeArtifact_iff.1 hlater
    obtain rfl : reviewer = reviewerAgain := Except.ok.inj (hreviewer.symm.trans hreviewerAgain)
    rw [hsettles.eq_of_mem hp, hsettlesAgain.eq_of_mem hq]
    rfl

theorem evaluateReview_repeats (hkind : params.input.kind = reviewCompleted)
    (hbegins : params.history <+: longer)
    (hfirst : Proposes (evaluateReview params configuration) proposals)
    (hlater : Proposes (evaluateReview (params.later longer members) configuration) repeated) :
    ∀ p ∈ proposals, ∀ q ∈ repeated, p.operationId = q.operationId → p = q := by
  intro p hp q hq hoperation
  have hkindAgain : (params.later longer members).input.kind = reviewCompleted := hkind
  obtain ⟨review, request, proposalMessageId, root, children, hreviewed, hproposals⟩ :=
    (evaluateReview_iff hkind).1 hfirst
  obtain ⟨reviewAgain, requestAgain, proposalAgain, rootAgain, childrenAgain, hreviewedAgain,
    hrepeated⟩ := (evaluateReview_iff hkindAgain).1 hlater
  obtain rfl : review = reviewAgain :=
    Option.some.inj (hreviewed.payload.symm.trans hreviewedAgain.payload)
  obtain rfl : request = requestAgain :=
    Option.some.inj ((findReviewRequest_later hbegins hreviewed.request).symm.trans
      hreviewedAgain.request)
  obtain rfl : proposalMessageId = proposalAgain :=
    Option.some.inj (hreviewed.identity.symm.trans hreviewedAgain.identity)
  obtain rfl : root = rootAgain :=
    Except.ok.inj ((findRootRequest_mono hbegins hreviewed.rooted).symm.trans
      hreviewedAgain.rooted)
  obtain rfl : children = childrenAgain :=
    Except.ok.inj ((findChildren_mono hbegins hreviewed.decomposed).symm.trans
      hreviewedAgain.decomposed)
  cases hdecision : review.decision with
  | approve =>
    rw [proposalsOn, hdecision] at hproposals hrepeated
    obtain ⟨requester, hrequester, hsettles⟩ := approveReview_ok.1 hproposals
    obtain ⟨requesterAgain, hrequesterAgain, hsettlesAgain⟩ := approveReview_ok.1 hrepeated
    obtain rfl : requester = requesterAgain :=
      Except.ok.inj ((rootRequester_mono hbegins hrequester).symm.trans hrequesterAgain)
    have hreports : ∀ {complete : Bool} {x : ProposedMessage},
        x ∈ completeChild params requester review proposalMessageId ::
          (if complete then [completeParent params requester root children] else []) →
        x = completeChild params requester review proposalMessageId ∨
          x = completeParent params requester root children := by
      intro complete x hx
      rcases List.mem_cons.1 hx with hchild | hparent
      · exact .inl hchild
      · cases complete with
        | true => exact .inr (List.mem_singleton.1 hparent)
        | false => exact absurd hparent List.not_mem_nil
    rcases hreports (hsettles.subset hp) with rfl | rfl <;>
      rcases hreports (hsettlesAgain.subset hq) with rfl | rfl
    · rfl
    · exact absurd hoperation (by decide : "complete-child" ≠ "complete-parent")
    · exact absurd hoperation (by decide : "complete-parent" ≠ "complete-child")
    · rfl
  | revise =>
    rw [proposalsOn, hdecision] at hproposals hrepeated
    obtain ⟨-, requester, hrequester, hplan⟩ := reviseReview_ok.1 hproposals
    obtain ⟨-, requesterAgain, hrequesterAgain, hplanAgain⟩ := reviseReview_ok.1 hrepeated
    obtain rfl : requester = requesterAgain :=
      Except.ok.inj ((rootRequester_mono hbegins hrequester).symm.trans hrequesterAgain)
    rcases hplan with ⟨hlimit, hsettles⟩ | ⟨hlimit, author, hauthor, hsettles⟩
    · rcases hplanAgain with ⟨-, hsettlesAgain⟩ | ⟨hbelow, -⟩
      · have hreports : ∀ {x : ProposedMessage},
            x ∈ [blockChild params requester review, blockParent params requester review root] →
            x = blockChild params requester review ∨
              x = blockParent params requester review root := by
          intro x hx
          rcases List.mem_cons.1 hx with hchild | hparent
          · exact .inl hchild
          · exact .inr (List.mem_singleton.1 hparent)
        rcases hreports (hsettles.subset hp) with rfl | rfl <;>
          rcases hreports (hsettlesAgain.subset hq) with rfl | rfl
        · rfl
        · exact absurd hoperation (by decide : "block-child" ≠ "block-parent")
        · exact absurd hoperation (by decide : "block-parent" ≠ "block-child")
        · rfl
      · omega
    · rcases hplanAgain with ⟨hreached, -⟩ | ⟨-, authorAgain, hauthorAgain, hsettlesAgain⟩
      · omega
      · obtain rfl : author = authorAgain := by
          obtain ⟨assignment, hassignment, hrecipient⟩ := Option.bind_eq_some_iff.1 hauthor
          have hfound := findAssignment_mono hbegins hassignment
          have hsame : (findAssignment longer params.runnerAgentId workRequested review.requestId
              "author" 0).bind (·.recipientId) = some author := by
            rw [hfound]
            exact hrecipient
          exact Option.some.inj (hsame.symm.trans hauthorAgain)
        rw [hsettles.eq_of_mem hp, hsettlesAgain.eq_of_mem hq]
        rfl

/-- An operation of an input proposes the same message at every later time. -/
theorem evaluateInput_repeats (hbegins : params.history <+: longer)
    (hfirst : Proposes (evaluateInput params configuration) proposals)
    (hlater : Proposes (evaluateInput (params.later longer members) configuration) repeated) :
    ∀ p ∈ proposals, ∀ q ∈ repeated, p.operationId = q.operationId → p = q := by
  rcases kind_of_proposes hfirst with hkind | hkind | hkind
  · rw [evaluateInput, if_pos hkind] at hfirst hlater
    obtain ⟨request, hpayload, -, -, hsettles⟩ := evaluateRootRequest_iff.1 hfirst
    obtain ⟨again, hagain, -, -, hsettlesAgain⟩ := evaluateRootRequest_iff.1 hlater
    obtain rfl : request = again := Option.some.inj (hpayload.symm.trans hagain)
    intro p hp q hq _
    rw [hsettles.eq_of_mem hp, hsettlesAgain.eq_of_mem hq]
  · have hkindAgain : (params.later longer members).input.kind = artifactProposed := hkind
    rw [evaluateInput_artifact hkind] at hfirst
    rw [evaluateInput_artifact hkindAgain] at hlater
    exact evaluateArtifact_repeats hbegins hfirst hlater
  · have hkindAgain : (params.later longer members).input.kind = reviewCompleted := hkind
    rw [evaluateInput_review hkind] at hfirst
    rw [evaluateInput_review hkindAgain] at hlater
    exact evaluateReview_repeats hkind hbegins hfirst hlater

/-- What is sent for an input under a key is the same request whenever it is sent again: it is
recognised and not refused. -/
theorem evaluate_identities (hbegins : params.history <+: longer)
    (hfirst : Proposes (evaluate params) proposals)
    (hlater : Proposes (evaluate (params.later longer members)) repeated)
    (seq seqAgain createdAtMs createdAgain : Int) (id idAgain : String) :
    ∀ p ∈ proposals, ∀ q ∈ repeated,
      publicationKey params p = publicationKey (params.later longer members) q →
        sameRequest (publishedMessage params p seq id createdAtMs)
          (publishedMessage (params.later longer members) q seqAgain idAgain createdAgain) =
            true := by
  intro p hp q hq hkey
  obtain ⟨-, configuration, planned, hconfiguration, hplans, hsettles, -⟩ := evaluate_iff.1 hfirst
  obtain ⟨-, again, plannedAgain, hagain, hplansAgain, hsettlesAgain, -⟩ := evaluate_iff.1 hlater
  have hread := ofValue_of_validateConfiguration hconfiguration
  have hreadAgain := ofValue_of_validateConfiguration hagain
  obtain rfl : configuration = again := Option.some.inj (hread.symm.trans hreadAgain)
  have hoperation : p.operationId = q.operationId := by
    have hkeys : "workflow/" ++ params.input.id ++ "/" ++ p.operationId =
        "workflow/" ++ params.input.id ++ "/" ++ q.operationId := hkey
    exact (String.append_right_inj _).1 hkeys
  obtain rfl := evaluateInput_repeats hbegins (evaluateInput_iff.2 ⟨planned, hplans, hsettles⟩)
    (evaluateInput_iff.2 ⟨plannedAgain, hplansAgain, hsettlesAgain⟩) p hp q hq hoperation
  have hkeyed := (hplans.planned p (hsettles.subset hp)).effective.keyed
  simp [sameRequest, publishedMessage, Value.agrees_refl _ hkeyed]

/-- The sample after a note was posted. -/
def sampleLater : EvaluateParams :=
  sampleParams.later (sampleHistory ++ [sampleMessage 5 "m5" "u" "c" "note" .null]) sampleMembers

/-- The sample decomposition is evaluated again, and both authors are asked as before. -/
theorem evaluate_identities_sampleLater : ∃ proposals repeated,
    Proposes (evaluate sampleParams) proposals ∧ Proposes (evaluate sampleLater) repeated ∧
      proposals ≠ [] ∧ ∀ p ∈ proposals, ∀ q ∈ repeated,
        publicationKey sampleParams p = publicationKey sampleLater q →
          sameRequest (publishedMessage sampleParams p 6 "m6" 0)
            (publishedMessage sampleLater q 7 "m7" 0) = true := by
  have hfirst : (evaluate sampleParams).toOption.map (fun result => result.proposals.isEmpty) =
      some false := by decide +kernel
  have hlater : (evaluate sampleLater).isOk = true := by decide +kernel
  cases hresult : evaluate sampleParams with
  | error e =>
    rw [hresult] at hfirst
    cases hfirst
  | ok result =>
    cases hagain : evaluate sampleLater with
    | error e =>
      rw [hagain] at hlater
      cases hlater
    | ok again =>
      refine ⟨result.proposals, again.proposals, ⟨_, rfl⟩, ⟨_, rfl⟩, ?_, ?_⟩
      · intro hnone
        rw [hresult] at hfirst
        have hempty : some result.proposals.isEmpty = some false := hfirst
        rw [hnone] at hempty
        cases hempty
      · exact evaluate_identities (List.prefix_append ..) ⟨_, hresult⟩ ⟨_, hagain⟩ 6 7 0 0 "m6" "m7"

end Fleetd.Workflow
