import Mathlib.Data.List.Nodup
import Fleetd.Workflow.Plan

/-!
# When an evaluation succeeds

An evaluation succeeds on an input that is admitted, under a configuration that is valid, if
its plan is not disputed and what is missing of it may be offered to the runner.
-/

namespace Fleetd.Workflow

open Serde (Value)
open Effects

variable {params : EvaluateParams} {configuration : AuthorReviewConfiguration}

/-- The messages of one workflow in one channel, strictly ordered. -/
structure CorrelatedLog (channelId workflowId : String) (history : List WorkflowMessage) : Prop where
  place : ∀ m ∈ history, m.channelId = channelId ∧ m.correlationId = some workflowId
  positive : ∀ m ∈ history, 0 < m.seq
  ordered : history.Pairwise fun m n => m.seq < n.seq
  ids : (history.map WorkflowMessage.id).Nodup

/-- Going through the history checks that it is one ordered log. -/
theorem foldlM_checkHistoryMessage {history : List WorkflowMessage} {previous : Int × List String} :
    (∃ last, history.foldlM (checkHistoryMessage params) previous = .ok last) ↔
      (∀ m ∈ history, m.channelId = params.input.channelId ∧
        m.correlationId = some params.workflowId) ∧
      (∀ m ∈ history, previous.1 < m.seq) ∧ (∀ m ∈ history, m.id ∉ previous.2) ∧
      history.Pairwise (fun m n => m.seq < n.seq) ∧ (history.map WorkflowMessage.id).Nodup := by
  induction history generalizing previous with
  | nil => simp [except_pure_ok]
  | cons message history ih =>
    simp only [List.foldlM_cons, checkHistoryMessage, except_bind_ok, rejectIf_ok, except_pure_ok,
      List.forall_mem_cons, List.map_cons, List.nodup_cons, List.pairwise_cons, not_or, not_not,
      Int.not_le]
    constructor
    · rintro ⟨last, _, ⟨_, ⟨hchannel, hcorrelation, hseq, hid⟩, rfl⟩, hrest⟩
      obtain ⟨hplace, hafter, hnew, hordered, hids⟩ := ih.1 ⟨last, hrest⟩
      refine ⟨⟨⟨hchannel, hcorrelation⟩, hplace⟩, ⟨hseq, fun m hm => Int.lt_trans hseq (hafter m hm)⟩,
        ⟨hid, fun m hm hseen => hnew m hm (List.mem_cons_of_mem _ hseen)⟩, ⟨hafter, hordered⟩, ?_,
        hids⟩
      intro hmem
      obtain ⟨m, hm, heq⟩ := List.mem_map.1 hmem
      exact hnew m hm (heq ▸ List.mem_cons_self)
    · rintro ⟨⟨⟨hchannel, hcorrelation⟩, hplace⟩, ⟨hseq, -⟩, ⟨hid, hnew⟩, ⟨hafter, hordered⟩, hunused,
        hids⟩
      have hlater : ∀ m ∈ history, m.id ∉ message.id :: previous.2 := by
        intro m hm hmem
        rcases List.mem_cons.1 hmem with heq | hseen
        · exact hunused (heq ▸ List.mem_map_of_mem hm)
        · exact hnew m hm hseen
      obtain ⟨last, hlast⟩ := (@ih (message.seq, message.id :: previous.2)).2
        ⟨hplace, hafter, hlater, hordered, hids⟩
      exact ⟨last, _, ⟨(), ⟨hchannel, hcorrelation, hseq, hid⟩, rfl⟩, hlast⟩

/-- What an evaluation asks of the input, its history and the members. -/
structure Admitted (params : EvaluateParams) : Prop where
  runner : validateIdentifier "runner_agent_id" params.runnerAgentId = .ok ()
  workflow : validateIdentifier "workflow_id" params.workflowId = .ok ()
  bounded : params.history.length ≤ maxHistoryMessages
  members : params.members ≠ [] ∧ params.members.length ≤ maxMembers
  addressed : params.input.recipientId = some params.runnerAgentId
  present : params.runnerAgentId ∈ params.members.map WorkflowMember.agentId ∧
    params.input.senderId ∈ params.members.map WorkflowMember.agentId
  log : CorrelatedLog params.input.channelId params.workflowId params.history
  found : ∃ m ∈ params.history, m.id = params.input.id

/-- An input is admitted exactly if the evaluation is valid. -/
theorem validateEvaluation_iff : validateEvaluation params = .ok () ↔ Admitted params := by
  simp only [validateEvaluation, except_bind_ok, rejectIf_ok, not_or, not_not, Bool.not_eq_false,
    List.any_eq_true, decide_eq_true_eq]
  constructor
  · rintro ⟨_, hrunner, _, hworkflow, _, ⟨-, hbounded⟩, _, hmembers, _, haddressed, _, hpresent, last,
      hlast, hfound⟩
    obtain ⟨hplace, hafter, -, hordered, hids⟩ := foldlM_checkHistoryMessage.1 ⟨last, hlast⟩
    exact ⟨hrunner, hworkflow, Nat.not_lt.1 hbounded, ⟨hmembers.1, Nat.not_lt.1 hmembers.2⟩,
      haddressed, hpresent, ⟨hplace, hafter, hordered, hids⟩, hfound⟩
  · rintro ⟨hrunner, hworkflow, hbounded, hmembers, haddressed, hpresent, hlog, hfound⟩
    obtain ⟨last, hlast⟩ := (@foldlM_checkHistoryMessage params params.history (0, [])).2
      ⟨hlog.place, hlog.positive, fun _ _ => List.not_mem_nil, hlog.ordered, hlog.ids⟩
    obtain ⟨m, hm, -⟩ := id hfound
    exact ⟨(), hrunner, (), hworkflow, (), ⟨List.ne_nil_of_mem hm, Nat.not_lt.2 hbounded⟩, (),
      ⟨hmembers.1, Nat.not_lt.2 hmembers.2⟩, (), haddressed, (), hpresent, last, hlast, hfound⟩

/-- Proposals that may be handed to the runner. -/
structure Offered (proposals : List ProposedMessage) : Prop where
  bounded : proposals.length ≤ maxProposals
  named : ∀ p ∈ proposals, validateIdentifier "proposal operation_id" p.operationId = .ok ()
  declared : ∀ p ∈ proposals, p.kind ∈ eventKinds
  distinct : (proposals.map ProposedMessage.operationId).Nodup

/-- The proposals are checked one after the other. -/
theorem foldlM_checkProposal {proposals : List ProposedMessage} :
    (∃ ids, proposals.foldlM checkProposal [] = .ok ids) ↔
      (∀ p ∈ proposals, validateIdentifier "proposal operation_id" p.operationId = .ok () ∧
        p.kind ∈ eventKinds) ∧ (proposals.map ProposedMessage.operationId).Nodup := by
  have hstep : ∀ seen (p : ProposedMessage) after, checkProposal seen p = .ok after ↔
      (validateIdentifier "proposal operation_id" p.operationId = .ok () ∧ p.kind ∈ eventKinds) ∧
        p.operationId ∉ seen ∧ after = p.operationId :: seen := by
    intro seen p after
    simp only [checkProposal, except_bind_ok, rejectIf_ok, except_pure_ok, not_not]
    constructor
    · rintro ⟨_, hnamed, _, hfresh, _, hkind, hafter⟩
      exact ⟨⟨hnamed, hkind⟩, hfresh, hafter⟩
    · rintro ⟨⟨hnamed, hkind⟩, hfresh, hafter⟩
      exact ⟨(), hnamed, (), hfresh, (), hkind, hafter⟩
  rw [foldlM_fresh hstep]
  simp

/-- Fewer proposals may be offered as well. -/
theorem Offered.sublist {proposals fewer : List ProposedMessage} (h : Offered proposals)
    (hfewer : fewer.Sublist proposals) : Offered fewer where
  bounded := Nat.le_trans hfewer.length_le h.bounded
  named p hp := h.named p (hfewer.subset hp)
  declared p hp := h.declared p (hfewer.subset hp)
  distinct := h.distinct.sublist (hfewer.map _)

/-- An evaluation succeeds exactly on what is admitted, configured, planned and offered. -/
theorem evaluate_iff {proposals : List ProposedMessage} :
    Proposes (evaluate params) proposals ↔
      Admitted params ∧ ∃ configuration planned,
        validateConfiguration params = .ok configuration ∧ Plans params configuration planned ∧
        params.Settles planned proposals ∧ Offered proposals := by
  simp only [Proposes, evaluate, except_bind_ok, rejectIf_ok, except_pure_ok]
  constructor
  · rintro ⟨shown, _, hvalid, configuration, hconfiguration, result, hresult, _, hbounded, ids, hids,
      rfl⟩
    obtain ⟨planned, hplans, hsettles⟩ := evaluateInput_iff.1 ⟨shown, hresult⟩
    obtain ⟨hnamed, hdistinct⟩ := foldlM_checkProposal.1 ⟨ids, hids⟩
    exact ⟨validateEvaluation_iff.1 hvalid, configuration, planned, hconfiguration, hplans, hsettles,
      Nat.not_lt.1 hbounded, fun p hp => (hnamed p hp).1, fun p hp => (hnamed p hp).2, hdistinct⟩
  · rintro ⟨hadmitted, configuration, planned, hconfiguration, hplans, hsettles, hoffered⟩
    obtain ⟨shown, hresult⟩ := evaluateInput_iff.2 ⟨planned, hplans, hsettles⟩
    obtain ⟨ids, hids⟩ := foldlM_checkProposal.2
      ⟨fun p hp => ⟨hoffered.named p hp, hoffered.declared p hp⟩, hoffered.distinct⟩
    exact ⟨shown, (), validateEvaluation_iff.2 hadmitted, configuration, hconfiguration, _, hresult,
      (), Nat.not_lt.2 hoffered.bounded, ids, hids, rfl⟩

/-! ## A sample workflow -/

/-- The change that the samples are about. -/
def sampleRequest : ChangeRequest :=
  ⟨1, "w", "title", "objective", ⟨"/repository", "base"⟩, ["scope"], ["criterion"]⟩

/-- Two authors, a reviewer and one round of revision. -/
def sampleConfiguration : AuthorReviewConfiguration := ⟨1, "c", ["a", "b"], ["r"], 4, 1⟩

/-- The configuration as the runner holds it. -/
def sampleConfigurationValue : Value := .object [
  ("schema_version", .nat 1), ("coordinator_agent_id", .string "c"),
  ("author_agent_ids", strings ["a", "b"]), ("reviewer_agent_ids", strings ["r"]),
  ("max_children", .nat 4), ("max_revision_rounds", .nat 1)]

/-- A message of the sample workflow. -/
def sampleMessage (seq : Int) (id senderId recipientId kind : String) (payload : Value) :
    WorkflowMessage :=
  ⟨seq, id, "channel", senderId, some recipientId, kind, payload, some "w", none, seq⟩

/-- The members of the sample channel. -/
def sampleMembers : List WorkflowMember :=
  ["u", "runner", "c", "a", "b", "r"].map fun id => ⟨id, id, "inbox", 0⟩

/-- The request, the coordinator's assignment and its decomposition into two children. -/
def sampleHistory : List WorkflowMessage := [
  sampleMessage 1 "m1" "u" "runner" workRequested sampleRequest.toValue,
  sampleMessage 2 "m2" "runner" "c" workRequested
    (assignCoordinator sampleConfiguration sampleRequest).payload,
  sampleMessage 4 "m4" "c" "runner" artifactProposed
    (ProposedArtifact.decomposition 1 "w" [
      ⟨"k1", "first", "objective", ["scope"], ["criterion"]⟩,
      ⟨"k2", "second", "objective", ["scope"], ["criterion"]⟩]).toValue]

/-- The runner is about to answer the decomposition. -/
def sampleParams : EvaluateParams where
  configuration := sampleConfigurationValue
  runnerAgentId := "runner"
  workflowId := "w"
  input := sampleMessage 4 "m4" "c" "runner" artifactProposed
    (ProposedArtifact.decomposition 1 "w" [
      ⟨"k1", "first", "objective", ["scope"], ["criterion"]⟩,
      ⟨"k2", "second", "objective", ["scope"], ["criterion"]⟩]).toValue
  history := sampleHistory
  members := sampleMembers

end Fleetd.Workflow
