import Fleetd.Workflow.Effects

/-!
# Every effect is published at most once

However the runner is stopped and started again, whichever inputs it leases in which order and
whatever others post in the meantime, its agent never sends two messages with the same effect
in one workflow: the same kind for the same request and, for an assignment, the same role and
revision. What carries this is that a history which has been read through starts the log of its
workflow and holds all that the runner has published, and that assignments are never about the
workflow itself.
-/

namespace Fleetd.Workflow

open Serde (Value)
open Relational

variable {runner : Runner} {s : RunnerState} {messages : List WorkflowMessage}

/-- Two messages with the same effect. -/
structure SameEffect (m n : WorkflowMessage) : Prop where
  kind : m.kind = n.kind
  request : m.payload.get "request_id" = n.payload.get "request_id"
  assignment : isAssignment n.kind →
    m.payload.get "assignment" = n.payload.get "assignment" ∧
      m.payload.get "revision" = n.payload.get "revision"

/-- A message of the runner in one workflow. -/
structure Own (runner : Runner) (channelId workflowId : String) (m : WorkflowMessage) : Prop where
  sender : m.senderId = runner.agentId
  channel : m.channelId = channelId
  workflow : m.correlationId = some workflowId

/-- Neither of two messages of the runner in one workflow repeats the other. -/
def Unrepeated (runner : Runner) (m n : WorkflowMessage) : Prop :=
  m.senderId = runner.agentId → n.senderId = runner.agentId → m.channelId = n.channelId →
    m.correlationId = n.correlationId → ¬ SameEffect m n

/-- The messages of one workflow in one channel. -/
def workflowLog (messages : List WorkflowMessage) (channelId workflowId : String) :
    List WorkflowMessage :=
  messages.filter fun m => m.channelId = channelId && m.correlationId = some workflowId

/-- An evaluation of the runner on what it had read, and the effects that it called for. -/
structure Decided (runner : Runner) (messages : List WorkflowMessage) (params : EvaluateParams)
    (planned : List ProposedMessage) : Prop where
  agent : params.runnerAgentId = runner.agentId
  configured : params.configuration = runner.pluginConfiguration
  history : params.history <+: workflowLog messages params.input.channelId params.workflowId
  input : params.input ∈ messages
  admitted : Admitted params
  plans : ∃ configuration, validateConfiguration params = .ok configuration ∧
    Plans params configuration planned

/-- The runner sent a message for an effect of an evaluation on what was posted before. -/
def Sourced (runner : Runner) (messages : List WorkflowMessage) (m : WorkflowMessage) : Prop :=
  ∃ params planned, Decided runner messages params planned ∧
    (∀ x ∈ params.history, x.seq < m.seq) ∧ ∃ p ∈ planned, Publishes params p m

/-- What the runner holds while it works on an input. -/
def PhaseSound (runner : Runner) (messages : List WorkflowMessage) : RunnerPhase → Prop
  | .idle => True
  | .reading input workflowId cursor history =>
    input ∈ messages ∧ (cursor = 0 ∨ ∃ m ∈ messages, m.seq = cursor) ∧
      history = (workflowLog messages input.channelId workflowId).filter fun m => m.seq ≤ cursor
  | .gathered input workflowId history =>
    input ∈ messages ∧ history <+: workflowLog messages input.channelId workflowId ∧
      ∀ m ∈ messages, Own runner input.channelId workflowId m → m ∈ history
  | .publishing params remaining =>
    (∃ planned, Decided runner messages params planned ∧ remaining.Sublist planned) ∧
      ∀ p ∈ remaining, ∀ m ∈ messages, Own runner params.input.channelId params.workflowId m →
        params.commits p m = false

/-- What holds of the log and of the runner in every state that is reached. -/
structure EffectsOnce (runner : Runner) (s : RunnerState) : Prop where
  positive : ∀ m ∈ s.messages, 0 < m.seq
  ordered : s.messages.Pairwise fun m n => m.seq < n.seq
  distinct : s.messages.Pairwise fun m n => m.id ≠ n.id
  grounded : ∀ m ∈ s.messages, m.senderId = runner.agentId → ∀ workflowId,
    m.correlationId = some workflowId → Grounded workflowId m.payload
  sourced : ∀ m ∈ s.messages, m.senderId = runner.agentId → Sourced runner s.messages m
  once : s.messages.Pairwise (Unrepeated runner)
  phase : PhaseSound runner s.messages s.phase

theorem mem_workflowLog {channelId workflowId : String} {m : WorkflowMessage} :
    m ∈ workflowLog messages channelId workflowId ↔
      m ∈ messages ∧ m.channelId = channelId ∧ m.correlationId = some workflowId := by
  rw [workflowLog, List.mem_filter, Bool.and_eq_true, decide_eq_true_eq, decide_eq_true_eq]

/-- A later log of a workflow only adds to the end. -/
theorem workflowLog_append {channelId workflowId : String} (more : List WorkflowMessage) :
    workflowLog messages channelId workflowId <+:
      workflowLog (messages ++ more) channelId workflowId := by
  rw [workflowLog, workflowLog, List.filter_append]
  exact List.prefix_append ..

/-- What was decided stays decided when more is posted. -/
theorem Decided.append {params : EvaluateParams} {planned : List ProposedMessage}
    (h : Decided runner messages params planned) (more : List WorkflowMessage) :
    Decided runner (messages ++ more) params planned :=
  ⟨h.agent, h.configured, h.history.trans (workflowLog_append more),
    List.mem_append_left _ h.input, h.admitted, h.plans⟩

theorem Sourced.append {m : WorkflowMessage} (h : Sourced runner messages m)
    (more : List WorkflowMessage) : Sourced runner (messages ++ more) m := by
  obtain ⟨params, planned, hdecided, hbefore, hpublished⟩ := h
  exact ⟨params, planned, hdecided.append more, hbefore, hpublished⟩

/-- What was read of a workflow was posted to it. -/
theorem Decided.posted {params : EvaluateParams} {planned : List ProposedMessage}
    (h : Decided runner messages params planned) :
    ∀ m ∈ params.history, m ∈ messages ∧ m.channelId = params.input.channelId ∧
      m.correlationId = some params.workflowId :=
  fun _ hm => mem_workflowLog.1 (h.history.subset hm)

/-! ## Reading -/

/-- An ordered log is what is up to a place in it, and then what is past it. -/
theorem filter_le_append_filter_lt (h : messages.Pairwise fun m n => m.seq < n.seq)
    (cursor : Int) :
    (messages.filter fun m => m.seq ≤ cursor) ++ (messages.filter fun m => cursor < m.seq) =
      messages := by
  induction messages with
  | nil => rfl
  | cons m messages ih =>
    obtain ⟨hlater, hrest⟩ := List.pairwise_cons.1 h
    by_cases hm : m.seq ≤ cursor
    · rw [List.filter_cons_of_pos (by simpa using hm), List.filter_cons_of_neg (by simpa using hm),
        List.cons_append, ih hrest]
    · have hnone : (messages.filter fun m => m.seq ≤ cursor) = [] := by
        rw [List.filter_eq_nil_iff]
        intro n hn
        have hlt := hlater n hn
        simp only [decide_eq_true_eq]
        omega
      rw [hnone, List.nil_append] at ih
      rw [List.filter_cons_of_neg (by simpa using hm), hnone, List.nil_append,
        List.filter_cons_of_pos (by simpa using hm), ih hrest]

/-- What is up to the end of a page is what was up to its start and the page. -/
theorem filter_le_page (h : messages.Pairwise fun m n => m.seq < n.seq) {cursor last : Int}
    {page rest : List WorkflowMessage}
    (hpast : (messages.filter fun m => cursor < m.seq) = page ++ rest)
    (hstart : cursor ≤ last) (hpage : ∀ m ∈ page, m.seq ≤ last) (hrest : ∀ m ∈ rest, last < m.seq) :
    (messages.filter fun m => m.seq ≤ last) =
      (messages.filter fun m => m.seq ≤ cursor) ++ page := by
  conv_lhs => rw [← filter_le_append_filter_lt h cursor, hpast]
  rw [List.filter_append, List.filter_append, List.filter_filter]
  congr 1
  · apply List.filter_congr
    intro m _
    simp only [← Bool.decide_and, decide_eq_decide]
    omega
  · have hall : page.filter (fun m => m.seq ≤ last) = page :=
      List.filter_eq_self.2 fun m hm => decide_eq_true (hpage m hm)
    have hnone : rest.filter (fun m => m.seq ≤ last) = [] :=
      List.filter_eq_nil_iff.2 fun m hm => by simpa using hrest m hm
    rw [hall, hnone, List.append_nil]

/-- Reading a page on keeps the history what the workflow's log is up to the cursor; the last page
makes it the whole log. -/
theorem readPage_sound (hordered : messages.Pairwise fun m n => m.seq < n.seq)
    {input : WorkflowMessage} {workflowId : String} {cursor : Int}
    {history : List WorkflowMessage}
    (h : PhaseSound runner messages (.reading input workflowId cursor history)) :
    PhaseSound runner messages (readPage messages input workflowId cursor history) := by
  obtain ⟨hinput, -, rfl⟩ := h
  let posted := messages.filter fun m => m.channelId = input.channelId
  let past := posted.filter fun m => cursor < m.seq
  have hlog : ∀ list : List WorkflowMessage, workflowLog list input.channelId workflowId =
      correlated workflowId (list.filter fun m => m.channelId = input.channelId) := by
    intro list
    rw [workflowLog, correlated, List.filter_filter]
    exact List.filter_congr fun m _ => Bool.and_comm ..
  have hpage : historyPage messages input.channelId cursor = past.take historyPageSize := by
    rw [historyPage]
    show (messages.filter _).take _ = ((messages.filter _).filter _).take _
    rw [List.filter_filter]
    exact congrArg _ (List.filter_congr fun m _ => Bool.and_comm ..)
  have hposted : posted.Pairwise fun m n => m.seq < n.seq := hordered.sublist List.filter_sublist
  have hupto : ∀ place : Int, (workflowLog messages input.channelId workflowId).filter
      (fun m => m.seq ≤ place) = correlated workflowId (posted.filter fun m => m.seq ≤ place) := by
    intro place
    rw [hlog, correlated, correlated, List.filter_comm]
  have hsplit : past = past.take historyPageSize ++ past.drop historyPageSize :=
    (List.take_append_drop ..).symm
  rw [readPage, hpage, hupto]
  have hlonger : ∀ place : Int, (posted.filter fun m => m.seq ≤ place) =
      (posted.filter fun m => m.seq ≤ cursor) ++ past.take historyPageSize →
      correlated workflowId (posted.filter fun m => m.seq ≤ cursor) ++
          correlated workflowId (past.take historyPageSize) =
        correlated workflowId (posted.filter fun m => m.seq ≤ place) := by
    intro place hplace
    rw [hplace, correlated, correlated, correlated, List.filter_append]
  split
  · trivial
  · split
    · rename_i hlast
      have hall : past.take historyPageSize = past := by
        apply List.take_of_length_le
        rw [List.length_take] at hlast
        omega
      have hwhole : correlated workflowId (posted.filter fun m => m.seq ≤ cursor) ++
          correlated workflowId (past.take historyPageSize) =
            workflowLog messages input.channelId workflowId := by
        rw [hall, correlated, correlated, ← List.filter_append,
          filter_le_append_filter_lt hposted cursor, hlog, correlated]
      rw [hwhole]
      refine ⟨hinput, List.prefix_refl _, fun m hm hown => ?_⟩
      exact mem_workflowLog.2 ⟨hm, hown.channel, hown.workflow⟩
    · rename_i hfull
      have hsome : past.take historyPageSize ≠ [] := by
        intro hnil
        rw [hnil] at hfull
        exact hfull (by decide)
      rw [List.getLast?_eq_getLast_of_ne_nil hsome, Option.map_some, Option.getD_some]
      let last := (past.take historyPageSize).getLast hsome
      have hmem : last ∈ past.take historyPageSize := List.getLast_mem hsome
      have hpast : past.Pairwise fun m n => m.seq < n.seq := hposted.sublist List.filter_sublist
      have hstart : cursor < last.seq :=
        of_decide_eq_true (List.mem_filter.1 (List.mem_of_mem_take hmem)).2
      have hparts := hpast
      rw [hsplit] at hparts
      obtain ⟨htaken, -, hacross⟩ := List.pairwise_append.1 hparts
      have hup : ∀ m ∈ past.take historyPageSize, m.seq ≤ last.seq := by
        intro m hm
        rw [← List.dropLast_append_getLast hsome] at hm htaken
        rcases List.mem_append.1 hm with hinit | hend
        · exact Int.le_of_lt ((List.pairwise_append.1 htaken).2.2 m hinit last
            (List.mem_singleton_self _))
        · rw [List.mem_singleton.1 hend]
      have hstep := filter_le_page hposted hsplit (Int.le_of_lt hstart) hup
        fun m hm => hacross last hmem m hm
      refine ⟨hinput, .inr ⟨last, ?_, rfl⟩, ?_⟩
      · exact (List.mem_filter.1 (List.mem_filter.1 (List.mem_of_mem_take hmem)).1).1
      · rw [hupto]
        exact hlonger last.seq hstep

/-! ## Steps -/

/-- Another phase on the same log. -/
theorem EffectsOnce.enter (h : EffectsOnce runner s) {phase : RunnerPhase}
    (hphase : PhaseSound runner s.messages phase) :
    EffectsOnce runner { s with phase := phase } :=
  ⟨h.positive, h.ordered, h.distinct, h.grounded, h.sourced, h.once, hphase⟩

/-- A message more at the end of the log. -/
theorem EffectsOnce.append (h : EffectsOnce runner s) {m : WorkflowMessage} {key : Option String}
    {phase : RunnerPhase} (happend : Appendable s.messages m)
    (hgrounded : m.senderId = runner.agentId → ∀ workflowId,
      m.correlationId = some workflowId → Grounded workflowId m.payload)
    (hsourced : m.senderId = runner.agentId → Sourced runner s.messages m)
    (hnew : ∀ n ∈ s.messages, Unrepeated runner n m)
    (hphase : PhaseSound runner (s.messages ++ [m]) phase) :
    EffectsOnce runner ⟨s.log ++ [⟨m, key⟩], phase⟩ := by
  have hmessages : RunnerState.messages ⟨s.log ++ [⟨m, key⟩], phase⟩ = s.messages ++ [m] :=
    List.map_append
  constructor
  case positive =>
    rw [hmessages]
    intro n hn
    rcases List.mem_append.1 hn with hold | hlast
    · exact h.positive n hold
    · rw [List.mem_singleton.1 hlast]
      exact happend.1
  case ordered =>
    rw [hmessages]
    refine List.pairwise_append.2 ⟨h.ordered, List.pairwise_singleton _ _, ?_⟩
    intro n hn last hlast
    rw [List.mem_singleton.1 hlast]
    exact (happend.2 n hn).1
  case distinct =>
    rw [hmessages]
    refine List.pairwise_append.2 ⟨h.distinct, List.pairwise_singleton _ _, ?_⟩
    intro n hn last hlast
    rw [List.mem_singleton.1 hlast]
    exact (happend.2 n hn).2
  case grounded =>
    rw [hmessages]
    intro n hn hsender
    rcases List.mem_append.1 hn with hold | hlast
    · exact h.grounded n hold hsender
    · rw [List.mem_singleton.1 hlast] at hsender ⊢
      exact hgrounded hsender
  case sourced =>
    rw [hmessages]
    intro n hn hsender
    rcases List.mem_append.1 hn with hold | hlast
    · exact (h.sourced n hold hsender).append _
    · rw [List.mem_singleton.1 hlast] at hsender ⊢
      exact (hsourced hsender).append _
  case once =>
    rw [hmessages]
    refine List.pairwise_append.2 ⟨h.once, List.pairwise_singleton _ _, ?_⟩
    intro n hn last hlast
    rw [List.mem_singleton.1 hlast]
    exact hnew n hn
  case phase =>
    rw [hmessages]
    exact hphase

/-- A message of another agent changes nothing about what the runner holds. -/
theorem PhaseSound.post {phase : RunnerPhase} {m : WorkflowMessage}
    (h : PhaseSound runner messages phase) (hm : m.senderId ≠ runner.agentId)
    (happend : Appendable messages m) : PhaseSound runner (messages ++ [m]) phase := by
  have hown : ∀ {channelId workflowId : String} {n : WorkflowMessage}, n ∈ messages ++ [m] →
      Own runner channelId workflowId n → n ∈ messages := by
    intro channelId workflowId n hn hown
    rcases List.mem_append.1 hn with hold | hnew
    · exact hold
    · exact absurd hown.sender (List.mem_singleton.1 hnew ▸ hm)
  cases phase with
  | idle => trivial
  | reading input workflowId cursor history =>
    obtain ⟨hinput, hcursor, hhistory⟩ := h
    have hpast : cursor < m.seq := by
      rcases hcursor with rfl | ⟨last, hlast, rfl⟩
      · exact happend.1
      · exact (happend.2 last hlast).1
    refine ⟨List.mem_append_left _ hinput, ?_, ?_⟩
    · rcases hcursor with hstart | ⟨last, hlast, hseq⟩
      · exact .inl hstart
      · exact .inr ⟨last, List.mem_append_left _ hlast, hseq⟩
    · have hnone : (workflowLog [m] input.channelId workflowId).filter
          (fun n => n.seq ≤ cursor) = [] := by
        rw [List.filter_eq_nil_iff]
        intro n hn
        rw [List.mem_singleton.1 (List.mem_filter.1 hn).1]
        simpa using hpast
      rw [hhistory, workflowLog, workflowLog, List.filter_append, List.filter_append]
      rw [workflowLog] at hnone
      rw [hnone, List.append_nil]
  | gathered input workflowId history =>
    obtain ⟨hinput, hbegins, hall⟩ := h
    exact ⟨List.mem_append_left _ hinput, hbegins.trans (workflowLog_append _),
      fun n hn hown' => hall n (hown hn hown') hown'⟩
  | publishing params remaining =>
    obtain ⟨⟨planned, hdecided, hremaining⟩, hnew⟩ := h
    exact ⟨⟨planned, hdecided.append _, hremaining⟩,
      fun p hp n hn hown' => hnew p hp n (hown hn hown') hown'⟩

/-- What is taken up after an evaluation was called for and is not committed. -/
theorem evaluateGathered_sound {input : WorkflowMessage} {workflowId : String}
    {history : List WorkflowMessage} {members : List WorkflowMember}
    (h : PhaseSound runner messages (.gathered input workflowId history)) :
    PhaseSound runner messages (evaluateGathered runner input workflowId history members) := by
  obtain ⟨hinput, hbegins, hall⟩ := h
  rw [evaluateGathered]
  split
  · rename_i result hresult
    split
    · obtain ⟨hadmitted, configuration, planned, hconfiguration, hplans, ⟨-, hmissing⟩, -⟩ :=
        evaluate_iff.1 ⟨result.projection, hresult⟩
      refine ⟨⟨planned,
        ⟨rfl, rfl, hbegins, hinput, hadmitted, configuration, hconfiguration, hplans⟩,
        ?_⟩, ?_⟩
      · rw [hmissing]
        exact List.filter_sublist
      · intro p hp m hm hown
        rw [hmissing] at hp
        have hcommitted := (List.mem_filter.1 hp).2
        rw [Bool.not_eq_true', EvaluateParams.committed, List.any_eq_false] at hcommitted
        exact Bool.eq_false_iff.2 (hcommitted m (hall m hm hown))
    · trivial
  · trivial

/-- What the runner read of a grounded log is grounded. -/
theorem Decided.groundedHistory {params : EvaluateParams} {planned : List ProposedMessage}
    (h : Decided runner messages params planned)
    (hlog : ∀ m ∈ messages, m.senderId = runner.agentId → ∀ workflowId,
      m.correlationId = some workflowId → Grounded workflowId m.payload) :
    GroundedHistory params := by
  intro m hm hsender
  obtain ⟨hmem, -, hcorrelation⟩ := h.posted m hm
  exact hlog m hmem (hsender.trans h.agent) params.workflowId hcorrelation

/-- On a grounded log the effects of an evaluation are grounded and about different requests. -/
theorem Decided.effects {params : EvaluateParams} {planned : List ProposedMessage}
    (h : Decided runner messages params planned)
    (hlog : ∀ m ∈ messages, m.senderId = runner.agentId → ∀ workflowId,
      m.correlationId = some workflowId → Grounded workflowId m.payload) :
    (∀ p ∈ planned, Effective p ∧ Grounded params.workflowId p.payload) ∧
      (planned.map ProposedMessage.requestId).Nodup := by
  obtain ⟨configuration, -, hplans⟩ := h.plans
  have hgrounded := h.groundedHistory hlog
  exact ⟨fun p hp => ⟨(hplans.planned p hp).effective, (hplans.planned p hp).grounded hgrounded⟩,
    hplans.distinct (hplans.aboutChild hgrounded)⟩

/-- A published effect repeats nothing that does not commit its proposal. -/
theorem unrepeated_of_not_commits {params : EvaluateParams} {p : ProposedMessage}
    {m n : WorkflowMessage} (heffective : Effective p) (hn : Publishes params p n)
    (hm : params.commits p m = false) (hsender : m.senderId = params.runnerAgentId) :
    ¬ SameEffect m n := by
  intro hsame
  obtain ⟨seq, id, createdAtMs, rfl⟩ := hn
  have hfield : ∀ key, m.payload.get key = p.payload.get key →
      sameField key m.payload p.payload = true := by
    intro key heq
    rw [sameField, heq]
    exact Serde.agreesOptional_refl fun v hv => keyed_get heffective.keyed hv
  have hkind : m.kind = p.kind := hsame.kind
  rw [Bool.eq_false_iff] at hm
  apply hm
  rw [EvaluateParams.commits, sameLogicalEffect, hkind, hfield _ hsame.request, hsender]
  simp only [decide_true, Bool.true_and]
  split
  · rename_i hassign
    obtain ⟨hassignment, hrevision⟩ := hsame.assignment hassign
    rw [hfield _ hassignment, hfield _ hrevision]
    rfl
  · rename_i hended
    simpa using heffective.kind.resolve_left hended

/-- Publishing the next proposal keeps what holds. -/
theorem publishNext_sound {params : EvaluateParams} {p : ProposedMessage}
    {rest : List ProposedMessage} {seq createdAtMs : Int} {id : String}
    (h : EffectsOnce runner s) (hphase : s.phase = .publishing params (p :: rest)) :
    EffectsOnce runner (publishNext s params p rest seq id createdAtMs) := by
  have hsound := h.phase
  rw [hphase] at hsound
  obtain ⟨⟨planned, hdecided, hremaining⟩, hnew⟩ := hsound
  obtain ⟨heffects, hdistinct⟩ := hdecided.effects h.grounded
  have hp : p ∈ planned := hremaining.subset List.mem_cons_self
  have hrest : PhaseSound runner s.messages (.publishing params rest) :=
    ⟨⟨planned, hdecided, (List.sublist_cons_self p rest).trans hremaining⟩,
      fun q hq => hnew q (List.mem_cons_of_mem _ hq)⟩
  rw [publishNext]
  split
  · exact h.enter trivial
  · split
    · split
      · exact h.enter hrest
      · exact h.enter trivial
    · split
      · rename_i hnone happend
        have hpublishes : Publishes params p (publishedMessage params p seq id createdAtMs) :=
          ⟨seq, id, createdAtMs, rfl⟩
        apply h.append happend
        · intro _ workflowId hcorrelation
          obtain rfl : params.workflowId = workflowId := Option.some.inj hcorrelation
          exact (heffects p hp).2
        · intro _
          exact ⟨params, planned, hdecided,
            fun x hx => (happend.2 x (hdecided.posted x hx).1).1, p, hp, hpublishes⟩
        · intro n hn hsender _ hchannel hcorrelation
          exact unrepeated_of_not_commits (heffects p hp).1 hpublishes
            (hnew p List.mem_cons_self n hn ⟨hsender, hchannel, hcorrelation⟩)
            (hsender.trans hdecided.agent.symm)
        · refine ⟨⟨planned, hdecided.append _,
            (List.sublist_cons_self p rest).trans hremaining⟩, ?_⟩
          intro q hq n hn hown
          have hlater := (hremaining.map ProposedMessage.requestId).nodup hdistinct
          rcases List.mem_append.1 hn with hold | hlast
          · exact hnew q (List.mem_cons_of_mem _ hq) n hold hown
          · rw [List.mem_singleton.1 hlast]
            apply hpublishes.not_commits (heffects p hp).1
              (heffects q (hremaining.subset (List.mem_cons_of_mem _ hq))).1
            intro heq
            exact (List.nodup_cons.1 hlater).1 (heq ▸ List.mem_map_of_mem hq)
      · exact h

/-- Every step keeps what holds. -/
theorem EffectsOnce.step (h : EffectsOnce runner s) (action : RunnerAction) :
    EffectsOnce runner (runner.step action s) := by
  have hsound := h.phase
  unfold Runner.step
  split
  · rename_i posted
    split
    · rename_i hpost
      obtain ⟨hother, happend⟩ := hpost
      apply h.append happend
      · exact fun hsender => absurd hsender hother
      · exact fun hsender => absurd hsender hother
      · exact fun n hn _ hsender => absurd hsender hother
      · exact hsound.post hother happend
    · exact h
  · rename_i input hphase
    split
    · rename_i hinput
      split
      · rename_i workflowId hcorrelation
        apply h.enter
        refine ⟨hinput, .inl rfl, ?_⟩
        symm
        rw [List.filter_eq_nil_iff]
        intro m hm
        have hpositive := h.positive m (mem_workflowLog.1 hm).1
        simp only [decide_eq_true_eq]
        omega
      · exact h
    · exact h
  · rename_i input workflowId cursor history hphase
    rw [hphase] at hsound
    exact h.enter (readPage_sound h.ordered hsound)
  · rename_i members input workflowId history hphase
    rw [hphase] at hsound
    exact h.enter (evaluateGathered_sound hsound)
  · rename_i hphase
    exact publishNext_sound h hphase
  · exact h.enter trivial
  · exact h.enter trivial
  · exact h

/-- What holds of every run. -/
theorem effectsOnce_run (runner : Runner) (actions : List RunnerAction) :
    EffectsOnce runner (runner.run actions) := by
  apply runFrom_induction (EffectsOnce runner) (fun _ => True)
  · exact fun action s _ h => h.step action
  · constructor <;> simp [RunnerState.messages, RunnerState.init, PhaseSound]
  · exact fun _ _ => trivial

/-- In every run of the runner, whatever is posted, leased, stopped and repeated, no two messages
of its agent in one workflow have the same effect. -/
theorem run_effectsOnce (runner : Runner) (actions : List RunnerAction) :
    (runner.run actions).messages.Pairwise fun m n =>
      m.senderId = runner.agentId → n.senderId = runner.agentId → m.channelId = n.channelId →
        m.correlationId = n.correlationId → ¬ SameEffect m n :=
  (effectsOnce_run runner actions).once

end Fleetd.Workflow
