import Fleetd.System.Reachable

/-!
# What a command does to the directory

Agents, channels and memberships change through the directory calls only. A membership is added
with a cursor at the latest message of its channel, and later only its cursor moves.
-/

namespace Fleetd

open Relational Relational.Transaction

variable {Json : Type} {s t : Store}

/-- A step that leaves agents, channels and memberships alone. -/
structure SameDirectory (s t : Store) : Prop where
  agents : t.agents = s.agents
  channels : t.channels = s.channels
  members : t.channelMembers = s.channelMembers

/-- A step that leaves the registrations of triggers alone too. -/
structure SameRegistry (s t : Store) : Prop extends SameDirectory s t where
  triggers : t.triggers = s.triggers

theorem SameRegistry.refl (s : Store) : SameRegistry s s := ⟨⟨rfl, rfl, rfl⟩, rfl⟩

/-- A step that leaves the log alone as well. -/
structure SameRecords (s t : Store) : Prop extends SameRegistry s t where
  messages : t.messages = s.messages

theorem SameRecords.refl (s : Store) : SameRecords s s := ⟨.refl s, rfl⟩

/-- Every action, where it does not matter which ones are taken. -/
def Action.any (_ : Action) : Prop := True

/-- A transaction on the ledger alone, whatever its moves. -/
theorem Advances.records (h : Advances Action.any s t) : SameRecords s t := by
  rw [h.frame]
  exact ⟨⟨⟨rfl, rfl, rfl⟩, rfl⟩, rfl⟩

theorem Registers.directory (h : Registers s t) : SameDirectory s t := by
  rw [h.frame]
  exact ⟨rfl, rfl, rfl⟩

/-- Commands about triggers. -/
def Command.isRegistering : Command Json → Bool
  | .registerTrigger .. | .retireTrigger .. | .fireTrigger .. => true
  | _ => false

/-- Commands that change the directory. -/
def Command.isEnrolling : Command Json → Bool
  | .createAgent .. | .createChannel .. | .openDirectPair .. | .renameChannel .. => true
  | .archiveChannel .. | .addMember .. | .advanceReadCursor .. => true
  | _ => false

section Commands
variable [DecidableEq Json] [SerdeJson Json] [Sha256] {minted : List String}

/-- These change the directory only, and keep it well formed. -/
theorem Command.enrolls (hlog : LogConsistent s) {c : Command Json} {u : Unit}
    (hkind : c.isEnrolling = true) (h : c.exec s = .ok (u, t)) : Enrolls s t := by
  cases c with
  | createAgent id name now =>
    obtain ⟨_, h⟩ := discard_ok h
    exact createAgent_enrolls hlog h
  | createChannel id name memberIds members now =>
    obtain ⟨_, h⟩ := discard_ok h
    exact createChannel_enrolls hlog h
  | openDirectPair id name members now =>
    obtain ⟨_, h⟩ := discard_ok h
    exact openDirectPair_enrolls hlog h
  | renameChannel channelId name =>
    obtain ⟨_, h⟩ := discard_ok h
    exact renameChannel_enrolls hlog h
  | archiveChannel channelId now =>
    obtain ⟨_, h⟩ := discard_ok h
    exact archiveChannel_enrolls hlog h
  | addMember channelId agentId mode now => exact addMember_enrolls hlog h
  | advanceReadCursor channelId agentId throughSeq =>
    obtain ⟨_, h⟩ := discard_ok h
    exact advanceReadCursor_enrolls hlog h
  | _ => cases hkind

/-- Every command that concerns none of these leaves all of them alone. -/
theorem Command.records (hinv : Invariant minted s) {c : Command Json} {u : Unit}
    (hfresh : ∀ leaseToken ∈ c.leaseTokens, leaseToken ∉ minted) (hother : c.isEnrolling = false)
    (hinert : c.isRegistering = false) (hquiet : c.isPosting = false) (h : c.exec s = .ok (u, t)) :
    SameRecords s t := by
  have hc := hinv.ledger
  have hlog := hinv.log
  have hev := hinv.evidence
  have htok := hinv.tokens
  cases c with
  | recordPluginGeneration generation now =>
    obtain ⟨_, h⟩ := discard_ok h
    obtain ⟨_, rfl⟩ := recordPluginGeneration_ok h
    exact ⟨⟨⟨rfl, rfl, rfl⟩, rfl⟩, rfl⟩
  | heartbeatPluginGeneration generationId now =>
    rw [heartbeatPluginGeneration_ok h]
    exact ⟨⟨⟨rfl, rfl, rfl⟩, rfl⟩, rfl⟩
  | stopPluginGeneration generationId stop now =>
    obtain ⟨_, h⟩ := discard_ok h
    rw [stopPluginGeneration_ok h]
    exact ⟨⟨⟨rfl, rfl, rfl⟩, rfl⟩, rfl⟩
  | recordInvocationEvent generationId invocationId eventSeq observedAtMs classification raw now =>
    obtain ⟨o, _, _, _, _, _, _, _, _, ⟨rfl, _⟩ | ⟨_, _, rfl⟩⟩ := recordInvocationEvent_ok h
    · exact .refl _
    · exact ⟨⟨⟨rfl, rfl, rfl⟩, rfl⟩, rfl⟩
  | recordInvocationTerminal generationId terminal now =>
    obtain ⟨o, _, _, _, rfl | ⟨_, _, rfl⟩⟩ := recordInvocationTerminal_ok hev h
    · exact .refl _
    · exact ⟨⟨⟨rfl, rfl, rfl⟩, rfl⟩, rfl⟩
  | claimDeliveries agentId input now leaseToken =>
    obtain ⟨_, h⟩ := discard_ok h
    exact Advances.records (claimDeliveries_advances trivial trivial hc htok
      (hfresh _ (List.mem_singleton_self _)) h)
  | reserveInvocations agentId input now leaseToken mint =>
    obtain ⟨_, h⟩ := discard_ok h
    exact Advances.records (reserveInvocationsFiltered_advances trivial trivial hc htok
      (hfresh _ (List.mem_singleton_self _)) h)
  | reserveInvocationsByKind agentId input messageKinds now leaseToken mint =>
    obtain ⟨_, h⟩ := discard_ok h
    simp only [Fleetd.reserveInvocationsByKind, bind_ok, ensure_ok] at h
    obtain ⟨_, _, ⟨_, rfl⟩, h⟩ := h
    exact Advances.records (reserveInvocationsFiltered_advances trivial trivial hc htok
      (hfresh _ (List.mem_singleton_self _)) h)
  | armInvocation agentId invocationId input now =>
    obtain ⟨_, h⟩ := discard_ok h
    exact Advances.records (armInvocationTransaction_advances trivial hc h).1
  | armSessionInvocation agentId invocationId binding sessionRef generationId input now =>
    obtain ⟨_, h⟩ := discard_ok h
    have hany : Action.any .internal := trivial
    obtain ⟨_, _, mid, hadv, rfl⟩ := armSessionInvocation_ok hany hc h
    exact ⟨⟨⟨hadv.records.agents, hadv.records.channels, hadv.records.members⟩, hadv.records.triggers⟩,
      hadv.records.messages⟩
  | acknowledgeDelivery agentId messageId leaseToken now =>
    exact Advances.records (acknowledgeDelivery_advances trivial hc h)
  | retryDelivery agentId messageId input now =>
    exact Advances.records (retryDelivery_advances trivial hc h)
  | blockDelivery agentId messageId input now =>
    obtain ⟨_, h⟩ := discard_ok h
    exact Advances.records (blockDelivery_advances trivial hc h)
  | markSessionInvocationUncertain agentId invocationId binding reason now =>
    obtain ⟨_, h⟩ := discard_ok h
    exact Advances.records (markSessionInvocationUncertain_advances trivial hc h)
  | acquireSessionBinding agentId input now freshBindingId =>
    obtain ⟨_, h⟩ := discard_ok h
    exact Advances.records ((acquireSessionBinding_ok hc h).advances trivial trivial trivial)
  | recordSessionOpened agentId binding sessionRef now =>
    obtain ⟨_, h⟩ := discard_ok h
    exact Advances.records (recordSessionOpened_advances trivial h)
  | retireSessionBinding agentId binding reason now =>
    obtain ⟨_, h⟩ := discard_ok h
    exact Advances.records (retireSessionBinding_advances trivial h)
  | recoverAllExpiredInvocations earlier now =>
    obtain ⟨_, h⟩ := discard_ok h
    exact Advances.records (recoverAgents_advances trivial _ hc h)
  | resolveDeliveryBlock blockId input now =>
    exact Advances.records (resolveDeliveryBlock_advances (fun _ _ => trivial) trivial hc h)
  | appendMessage channelId input id now => cases hquiet
  | completeInvocation agentId invocationId input now resultId resultNow => cases hquiet
  | completeSessionInvocation agentId invocationId binding persistence input now resultId resultNow =>
    cases hquiet
  | registerTrigger id input now => cases hinert
  | retireTrigger triggerId reason now => cases hinert
  | fireTrigger triggerId occurrence messageId messageNow now => cases hinert
  | _ => cases hother

/-- Every command that concerns neither of the first two leaves them alone. -/
theorem Command.registry (hinv : Invariant minted s) {c : Command Json} {u : Unit}
    (hfresh : ∀ leaseToken ∈ c.leaseTokens, leaseToken ∉ minted) (hother : c.isEnrolling = false)
    (hinert : c.isRegistering = false) (h : c.exec s = .ok (u, t)) : SameRegistry s t := by
  cases hposting : c.isPosting with
  | false => exact (c.records hinv hfresh hother hinert hposting h).toSameRegistry
  | true =>
    have hc := hinv.ledger
    have hlog := hinv.log
    cases c with
    | appendMessage channelId input id now =>
      obtain ⟨_, h⟩ := discard_ok h
      rcases appendMessageInTransaction_ok h with ⟨_, rfl⟩ | ⟨_, hpost, rfl⟩
      · exact .refl _
      · exact ⟨⟨rfl, rfl, rfl⟩, rfl⟩
    | fireTrigger triggerId occurrence messageId messageNow now => cases hinert
    | completeInvocation agentId invocationId input now resultId resultNow =>
      obtain ⟨_, h⟩ := discard_ok h
      rcases completeInvocationTransaction_ok hc hlog h with
        ⟨_, _, _, _, rfl, _⟩ | ⟨i, d, origin, hpub, _, _⟩
      · exact .refl _
      · obtain ⟨_, _, rfl⟩ := hpub
        exact ⟨⟨rfl, rfl, rfl⟩, rfl⟩
    | completeSessionInvocation agentId invocationId binding persistence input now resultId resultNow =>
      obtain ⟨_, h⟩ := discard_ok h
      rcases completeSessionInvocation_ok hc hlog h with
        ⟨rfl, _⟩ | ⟨i, d, origin, mid, turn, row, hpub, _, _, _, _, _, _, _, _, _, rfl⟩
      · exact .refl _
      · obtain ⟨_, _, rfl⟩ := hpub
        exact ⟨⟨rfl, rfl, rfl⟩, rfl⟩
    | _ => cases hposting

/-- Every other command leaves the directory alone. -/
theorem Command.directory (hinv : Invariant minted s) {c : Command Json} {u : Unit}
    (hfresh : ∀ leaseToken ∈ c.leaseTokens, leaseToken ∉ minted) (hother : c.isEnrolling = false)
    (h : c.exec s = .ok (u, t)) : SameDirectory s t := by
  cases hkind : c.isRegistering with
  | false => exact (c.registry hinv hfresh hother hkind h).toSameDirectory
  | true =>
    cases c with
    | registerTrigger id input now =>
      obtain ⟨_, h⟩ := discard_ok h
      exact (registerTrigger_registers h).directory
    | retireTrigger triggerId reason now =>
      obtain ⟨_, h⟩ := discard_ok h
      exact (retireTrigger_registers h).directory
    | fireTrigger triggerId occurrence messageId messageNow now =>
      obtain ⟨_, h⟩ := discard_ok h
      obtain ⟨mid, hreg, rfl | ⟨m, hpost, hprinted, rfl⟩⟩ := fire_ok h
      · exact hreg.directory
      · rw [hreg.frame]
        exact ⟨rfl, rfl, rfl⟩
    | _ => cases hkind

/-- Every other command leaves the directory alone, whether it commits or not. -/
theorem Command.step_directory (hinv : Invariant minted s) {c : Command Json}
    (hfresh : ∀ leaseToken ∈ c.leaseTokens, leaseToken ∉ minted) (hother : c.isEnrolling = false) :
    SameDirectory s (c.step s) := by
  rcases c.step_cases s with ⟨_, hok⟩ | hsame
  · exact c.directory hinv hfresh hother hok
  · rw [hsame]
    exact (SameRegistry.refl s).toSameDirectory

end Commands

/-! ## Memberships -/

/-- What a step does to the memberships. -/
inductive Seats (s t : Store) : Prop
  | same (members : t.channelMembers = s.channelMembers)
  | joined (rows : List ChannelMember) (messages : t.messages = s.messages)
      (members : t.channelMembers = s.channelMembers ++ rows)
      (cursors : ∀ row ∈ rows, row.readThroughSeq = 0 ∨
        row.readThroughSeq = latestSeq row.channelId s.messages)
  | advanced (channelId agentId : String) (throughSeq : Nat) (messages : t.messages = s.messages)
      (committed : throughSeq = 0 ∨
        ∃ m ∈ s.messages, m.channelId = channelId ∧ m.seq = throughSeq)
      (members : t.channelMembers = updateWhere
        (fun m => m.channelId = channelId ∧ m.agentId = agentId ∧ m.readThroughSeq < throughSeq)
        (fun m => { m with readThroughSeq := throughSeq }) s.channelMembers)

theorem createChannel_seats {id name : String} {memberIds : List String}
    {members : List CreateChannelMember} {now : Int} {result : Channel}
    (h : createChannel id name memberIds members now s = .ok (result, t)) : Seats s t := by
  simp only [createChannel, createChannelWithMembers, bind_ok, check_ok, read_ok, ensure_ok, write_ok,
    pure_ok, Prod.mk.injEq] at h
  obtain ⟨_, _, ⟨_, rfl⟩, _, _, ⟨_, rfl⟩, _, _, ⟨_, rfl⟩, _, _, hagents, _, _, ⟨rfl, rfl⟩, _, _,
    ⟨_, rfl⟩, _, _, ⟨_, rfl⟩, _, rfl⟩ := h
  obtain rfl := ensureAgents_ok _ hagents
  refine .joined _ rfl rfl fun row hrow => ?_
  obtain ⟨_, _, rfl⟩ := List.mem_map.mp hrow
  exact .inl rfl

theorem openDirectPair_seats {id name : String} {members : List CreateChannelMember} {now : Int}
    {result : Channel × Bool} (h : openDirectPair id name members now s = .ok (result, t)) :
    Seats s t := by
  simp only [openDirectPair, bind_ok, check_ok, read_ok] at h
  obtain ⟨⟨first, second⟩, _, ⟨_, rfl⟩, _, _, hagents, existing, _, ⟨_, rfl⟩, h⟩ := h
  obtain rfl := ensureAgents_ok _ hagents
  cases existing with
  | some channel =>
    simp only [bind_ok, read_ok, ensure_ok, pure_ok] at h
    obtain ⟨_, _, ⟨_, rfl⟩, _, _, ⟨_, rfl⟩, _, rfl⟩ := h
    exact .same rfl
  | none =>
    simp only [bind_ok, read_ok, ensure_ok, write_ok, pure_ok, Prod.mk.injEq] at h
    obtain ⟨_, _, ⟨rfl, rfl⟩, _, _, ⟨_, rfl⟩, _, _, ⟨_, rfl⟩, _, rfl⟩ := h
    refine .joined _ rfl rfl fun row hrow => ?_
    obtain ⟨_, _, rfl⟩ := List.mem_map.mp hrow
    exact .inl rfl

theorem addMember_seats {channelId agentId : String} {mode : MembershipDeliveryMode} {now : Int}
    {u : Unit} (h : addMemberWithMode channelId agentId mode now s = .ok (u, t)) : Seats s t := by
  simp only [addMemberWithMode, bind_ok, check_ok, read_ok] at h
  obtain ⟨channel, _, hrow, _, _, ⟨_, rfl⟩, _, _, hagent, existing, _, ⟨_, rfl⟩, h⟩ := h
  obtain ⟨rfl, -⟩ := channelRow_ok hrow
  obtain rfl := ensureExists_ok hagent
  cases existing with
  | some member =>
    rw [ensure_ok] at h
    exact .same (by rw [h.2])
  | none =>
    simp only [bind_ok, read_ok, write_ok, Prod.mk.injEq] at h
    obtain ⟨_, _, ⟨rfl, rfl⟩, _, rfl⟩ := h
    refine .joined _ rfl rfl fun row hrow => ?_
    rw [List.mem_singleton.mp hrow]
    exact .inr rfl

theorem advanceReadCursor_seats {channelId agentId : String} {throughSeq : Int} {result : Nat}
    (h : advanceMemberReadCursor channelId agentId throughSeq s = .ok (result, t)) : Seats s t := by
  simp only [advanceMemberReadCursor, bind_ok, read_ok, ensure_ok, write_ok, require_ok, pure_ok,
    Prod.mk.injEq] at h
  obtain ⟨_, _, ⟨hpositive, rfl⟩, _, _, hchannel, _, _, hmember, _, _, ⟨rfl, rfl⟩, _, _, ⟨_, rfl⟩, _, _,
    ⟨hcommitted, rfl⟩, _, _, ⟨_, rfl⟩, _, _, ⟨_, rfl⟩, _, _, ⟨_, rfl⟩, _, rfl⟩ := h
  obtain rfl := ensureExists_ok hchannel
  obtain rfl := ensureMember_ok hmember
  refine .advanced channelId agentId throughSeq.toNat rfl ?_ rfl
  obtain hzero | ⟨m, hm, hmchannel, hseq⟩ := hcommitted
  · exact .inl (by omega)
  · exact .inr ⟨m, hm, hmchannel, by omega⟩

section Steps
variable [DecidableEq Json] [SerdeJson Json] [Sha256] {minted : List String}

/-- What a successful command does to the memberships. -/
theorem Command.seats (hinv : Invariant minted s) {c : Command Json} {u : Unit}
    (hfresh : ∀ leaseToken ∈ c.leaseTokens, leaseToken ∉ minted) (h : c.exec s = .ok (u, t)) :
    Seats s t := by
  cases hkind : c.isEnrolling with
  | false => exact .same (c.directory hinv hfresh hkind h).members
  | true =>
    cases c with
    | createAgent id name now =>
      obtain ⟨_, h⟩ := discard_ok h
      simp only [Fleetd.createAgent, bind_ok, check_ok, read_ok, ensure_ok, write_ok, pure_ok,
        Prod.mk.injEq] at h
      obtain ⟨_, _, ⟨_, rfl⟩, _, _, ⟨_, rfl⟩, _, _, ⟨_, rfl⟩, _, _, ⟨_, rfl⟩, _, rfl⟩ := h
      exact .same rfl
    | createChannel id name memberIds members now =>
      obtain ⟨_, h⟩ := discard_ok h
      exact createChannel_seats h
    | openDirectPair id name members now =>
      obtain ⟨_, h⟩ := discard_ok h
      exact openDirectPair_seats h
    | renameChannel channelId name =>
      obtain ⟨_, h⟩ := discard_ok h
      simp only [Fleetd.renameChannel, bind_ok, check_ok, read_ok, ensure_ok, write_ok, pure_ok,
        Prod.mk.injEq] at h
      obtain ⟨_, _, ⟨_, rfl⟩, _, _, hrow, _, _, ⟨_, rfl⟩, _, _, ⟨rfl, rfl⟩, _, _, ⟨_, rfl⟩, _, _,
        ⟨_, rfl⟩, _, rfl⟩ := h
      obtain ⟨rfl, _⟩ := channelRow_ok hrow
      exact .same rfl
    | archiveChannel channelId now =>
      obtain ⟨_, h⟩ := discard_ok h
      simp only [Fleetd.archiveChannel, bind_ok, ensure_ok] at h
      obtain ⟨channel, _, hrow, _, _, ⟨_, rfl⟩, h⟩ := h
      obtain ⟨rfl, _⟩ := channelRow_ok hrow
      split at h
      · simp only [bind_ok, write_ok, pure_ok, Prod.mk.injEq] at h
        obtain ⟨_, _, ⟨_, rfl⟩, _, rfl⟩ := h
        exact .same rfl
      · rw [pure_ok] at h
        exact .same (by rw [h.2])
    | addMember channelId agentId mode now => exact addMember_seats h
    | advanceReadCursor channelId agentId throughSeq =>
      obtain ⟨_, h⟩ := discard_ok h
      exact advanceReadCursor_seats h
    | _ => cases hkind

/-- What a step does to the memberships. -/
theorem Command.step_seats (hinv : Invariant minted s) {c : Command Json}
    (hfresh : ∀ leaseToken ∈ c.leaseTokens, leaseToken ∉ minted) : Seats s (c.step s) := by
  rcases c.step_cases s with ⟨_, hok⟩ | hsame
  · exact c.seats hinv hfresh hok
  · exact .same (by rw [hsame])

end Steps

/-! ## Channels -/

/-- The channel identifiers that a command mints. -/
def Command.channelIds : Command Json → List String
  | .createChannel id .. => [id]
  | .openDirectPair id .. => [id]
  | _ => []

/-- What a step that may mint some identifiers does to the channels. -/
inductive Rooms (minted : List String) (s t : Store) : Prop
  | same (channels : t.channels = s.channels)
  | opened (channel : Channel) (fresh : channel.id ∈ minted)
      (channels : t.channels = s.channels ++ [channel])
  | changed (channelId : String) (f : Channel → Channel) (keeps : ∀ channel, (f channel).id = channel.id)
      (channels : t.channels = updateWhere (fun c => c.id = channelId) f s.channels)

section Rooms
variable [DecidableEq Json] [SerdeJson Json] [Sha256] {minted : List String}

/-- What a successful command does to the channels. -/
theorem Command.rooms (hinv : Invariant minted s) {c : Command Json} {u : Unit}
    (hfresh : ∀ leaseToken ∈ c.leaseTokens, leaseToken ∉ minted) (h : c.exec s = .ok (u, t)) :
    Rooms c.channelIds s t := by
  cases hkind : c.isEnrolling with
  | false => exact .same (c.directory hinv hfresh hkind h).channels
  | true =>
    cases c with
    | createAgent id name now =>
      obtain ⟨_, h⟩ := discard_ok h
      simp only [Fleetd.createAgent, bind_ok, check_ok, read_ok, ensure_ok, write_ok, pure_ok,
        Prod.mk.injEq] at h
      obtain ⟨_, _, ⟨_, rfl⟩, _, _, ⟨_, rfl⟩, _, _, ⟨_, rfl⟩, _, _, ⟨_, rfl⟩, _, rfl⟩ := h
      exact .same rfl
    | createChannel id name memberIds members now =>
      obtain ⟨_, h⟩ := discard_ok h
      simp only [Fleetd.createChannel, createChannelWithMembers, bind_ok, check_ok, read_ok, ensure_ok,
        write_ok, pure_ok, Prod.mk.injEq] at h
      obtain ⟨_, _, ⟨_, rfl⟩, _, _, ⟨_, rfl⟩, _, _, ⟨_, rfl⟩, _, _, hagents, _, _, ⟨rfl, rfl⟩, _, _,
        ⟨_, rfl⟩, _, _, ⟨_, rfl⟩, _, rfl⟩ := h
      obtain rfl := ensureAgents_ok _ hagents
      exact .opened _ (List.mem_singleton_self _) rfl
    | openDirectPair id name members now =>
      obtain ⟨_, h⟩ := discard_ok h
      simp only [Fleetd.openDirectPair, bind_ok, check_ok, read_ok] at h
      obtain ⟨⟨first, second⟩, _, ⟨_, rfl⟩, _, _, hagents, existing, _, ⟨_, rfl⟩, h⟩ := h
      obtain rfl := ensureAgents_ok _ hagents
      cases existing with
      | some channel =>
        simp only [bind_ok, read_ok, ensure_ok, pure_ok] at h
        obtain ⟨_, _, ⟨_, rfl⟩, _, _, ⟨_, rfl⟩, _, rfl⟩ := h
        exact .same rfl
      | none =>
        simp only [bind_ok, read_ok, ensure_ok, write_ok, pure_ok, Prod.mk.injEq] at h
        obtain ⟨_, _, ⟨rfl, rfl⟩, _, _, ⟨_, rfl⟩, _, _, ⟨_, rfl⟩, _, rfl⟩ := h
        exact .opened _ (List.mem_singleton_self _) rfl
    | renameChannel channelId name =>
      obtain ⟨_, h⟩ := discard_ok h
      simp only [Fleetd.renameChannel, bind_ok, check_ok, read_ok, ensure_ok, write_ok, pure_ok,
        Prod.mk.injEq] at h
      obtain ⟨_, _, ⟨_, rfl⟩, _, _, hrow, _, _, ⟨_, rfl⟩, _, _, ⟨rfl, rfl⟩, _, _, ⟨_, rfl⟩, _, _,
        ⟨_, rfl⟩, _, rfl⟩ := h
      obtain ⟨rfl, _⟩ := channelRow_ok hrow
      refine .changed channelId (fun c => { c with name }) ?_ rfl
      intro channel
      rfl
    | archiveChannel channelId now =>
      obtain ⟨_, h⟩ := discard_ok h
      simp only [Fleetd.archiveChannel, bind_ok, ensure_ok] at h
      obtain ⟨channel, _, hrow, _, _, ⟨_, rfl⟩, h⟩ := h
      obtain ⟨rfl, _⟩ := channelRow_ok hrow
      split at h
      · simp only [bind_ok, write_ok, pure_ok, Prod.mk.injEq] at h
        obtain ⟨_, _, ⟨_, rfl⟩, _, rfl⟩ := h
        refine .changed channelId (fun c => { c with archivedAtMs := some now }) ?_ rfl
        intro channel
        rfl
      · rw [pure_ok] at h
        exact .same (by rw [h.2])
    | addMember channelId agentId mode now =>
      simp only [Command.exec, addMemberWithMode, bind_ok, check_ok, read_ok] at h
      obtain ⟨channel, _, hrow, _, _, ⟨_, rfl⟩, _, _, hagent, existing, _, ⟨_, rfl⟩, h⟩ := h
      obtain ⟨rfl, -⟩ := channelRow_ok hrow
      obtain rfl := ensureExists_ok hagent
      cases existing with
      | some member =>
        rw [ensure_ok] at h
        exact .same (by rw [h.2])
      | none =>
        simp only [bind_ok, read_ok, write_ok, Prod.mk.injEq] at h
        obtain ⟨_, _, ⟨rfl, rfl⟩, _, rfl⟩ := h
        exact .same rfl
    | advanceReadCursor channelId agentId throughSeq =>
      obtain ⟨_, h⟩ := discard_ok h
      simp only [advanceMemberReadCursor, bind_ok, read_ok, ensure_ok, write_ok, require_ok, pure_ok,
        Prod.mk.injEq] at h
      obtain ⟨_, _, ⟨_, rfl⟩, _, _, hchannel, _, _, hmember, _, _, ⟨rfl, rfl⟩, _, _, ⟨_, rfl⟩, _, _,
        ⟨_, rfl⟩, _, _, ⟨_, rfl⟩, _, _, ⟨_, rfl⟩, _, _, ⟨_, rfl⟩, _, rfl⟩ := h
      obtain rfl := ensureExists_ok hchannel
      obtain rfl := ensureMember_ok hmember
      exact .same rfl
    | _ => cases hkind

/-- What a step does to the channels. -/
theorem Command.step_rooms (hinv : Invariant minted s) {c : Command Json}
    (hfresh : ∀ leaseToken ∈ c.leaseTokens, leaseToken ∉ minted) :
    Rooms c.channelIds s (c.step s) := by
  rcases c.step_cases s with ⟨_, hok⟩ | hsame
  · exact c.rooms hinv hfresh hok
  · exact .same (by rw [hsame])

/-- Every channel was created under an identifier that the run has minted. -/
theorem run_channelIds {cs : List (Command Json)} (h : Fresh cs) :
    ∀ channel ∈ (run cs).channels, channel.id ∈ cs.flatMap Command.channelIds := by
  refine FreshAlong.induction (fun ds (s : Store) => ∀ channel ∈ s.channels,
    channel.id ∈ ds.flatMap Command.channelIds) (fun _ hc => by cases hc) (fun ds c hfresh hds => ?_) cs h
  have hrooms : Rooms c.channelIds (runFrom Command.step Store.empty ds)
      (c.step (runFrom Command.step Store.empty ds)) :=
    c.step_rooms (run_invariant hfresh.left) fun _ htok => hfresh.not_mem htok
  intro channel hchannel
  rw [List.flatMap_append, List.flatMap_singleton, List.mem_append]
  cases hrooms with
  | same channels =>
    rw [channels] at hchannel
    exact .inl (hds channel hchannel)
  | opened opened fresh channels =>
    rw [channels, List.mem_append, List.mem_singleton] at hchannel
    obtain hold | rfl := hchannel
    · exact .inl (hds channel hold)
    · exact .inr fresh
  | changed channelId f keeps channels =>
    rw [channels] at hchannel
    obtain ⟨before, hbefore, rfl⟩ := mem_updateWhere.mp hchannel
    refine .inl ?_
    split
    · rw [keeps]
      exact hds before hbefore
    · exact hds before hbefore

/-- One more command after a fresh run changes the memberships as it may. -/
theorem run_seats {cs : List (Command Json)} {c : Command Json} (h : Fresh (cs ++ [c])) :
    Seats (run cs) (run (cs ++ [c])) := by
  rw [run_snoc]
  exact c.step_seats (run_invariant h.left) fun _ htok => h.not_mem htok

end Rooms

end Fleetd
