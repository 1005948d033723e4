import Fleetd.Guarantees.Results
import Fleetd.System.Directory

/-!
# When a finished turn can publish

A completion posts its result at a moment long after its input was checked. By then the agent and
the sender of the input are still members of the channel, so that the result is refused in two cases
only: the channel was archived, or the agent has used the key of the result itself.
-/

namespace Fleetd

open Relational Relational.Transaction

variable {Json : Type} {s t : Store}

/-! ## Members -/

/-- Everybody who has sent a message or was to receive it is a member of its channel. -/
structure Seated (s : Store) : Prop where
  senders : ∀ m ∈ s.messages, (m.channelId, m.senderId) ∈ s.channelMembers.map ChannelMember.key
  recipients : ∀ d ∈ s.agentDeliveries, ∀ m ∈ s.messages, m.seq = d.messageSeq →
    (m.channelId, d.agentId) ∈ s.channelMembers.map ChannelMember.key

/-- A member passes the check. -/
theorem ensureMember_iff {channelId agentId : String} :
    ensureMember channelId agentId s = .ok ((), s) ↔
      (channelId, agentId) ∈ s.channelMembers.map ChannelMember.key := by
  simp only [ensureMember, bind_ok, read_ok, ensure_ok, List.mem_map, ChannelMember.key,
    Prod.mk.injEq]
  constructor
  · rintro ⟨_, _, ⟨rfl, rfl⟩, hmember, -⟩
    exact hmember
  · exact fun hmember => ⟨_, _, ⟨rfl, rfl⟩, hmember, rfl⟩

/-- What an insert has checked about its channel and its sender. -/
theorem insertMessage_admitted [SerdeJson Json] {channelId id : String} {input : CreateMessage Json}
    {createdAtMs : Int} {result : Message Json}
    (h : insertMessage channelId input id createdAtMs s = .ok (result, t)) :
    (∃ channel, s.channels.find? (fun c => c.id = channelId) = some channel ∧
      channel.archivedAtMs = none) ∧
    (channelId, input.senderId) ∈ s.channelMembers.map ChannelMember.key := by
  simp only [insertMessage, channelRow, bind_ok, read_ok, require_ok, ensure_ok] at h
  obtain ⟨channel, _, ⟨_, _, ⟨rfl, rfl⟩, hfind, rfl⟩, _, _, ⟨hopen, rfl⟩, _, _, hmember, -⟩ := h
  obtain rfl := ensureMember_ok hmember
  exact ⟨⟨channel, hfind, hopen⟩, ensureMember_iff.mp hmember⟩

/-- An insert that passes its checks posts its row. -/
theorem insertMessage_run [SerdeJson Json] {channelId id : String} {input : CreateMessage Json}
    {createdAtMs : Int} {channel : Channel}
    (hfind : s.channels.find? (fun c => c.id = channelId) = some channel)
    (hopen : channel.archivedAtMs = none)
    (hsender : (channelId, input.senderId) ∈ s.channelMembers.map ChannelMember.key)
    (hrecipient : ∀ recipientId, input.recipientId = some recipientId →
      (channelId, recipientId) ∈ s.channelMembers.map ChannelMember.key)
    (hid : ∀ m ∈ s.messages, m.id ≠ id)
    (hkey : input.idempotencyKey = none ∨ ∀ m ∈ s.messages,
      ¬ (m.senderId = input.senderId ∧ m.idempotencyKey = input.idempotencyKey)) :
    insertMessage channelId input id createdAtMs s =
      .ok (input.message channelId (s.messageSequence + 1) id createdAtMs,
        postedStore s (input.row channelId (s.messageSequence + 1) id createdAtMs)) := by
  have hrecipients : ensureRecipient channelId input.recipientId s = .ok ((), s) := by
    cases hto : input.recipientId with
    | none => rfl
    | some recipientId => exact ensureMember_iff.mpr (hrecipient recipientId hto)
  simp only [insertMessage, channelRow, bind_run, read_run, hfind, require_some_run, ensure_run, hopen,
    if_true, ensureMember_iff.mpr hsender, hrecipients, if_pos hid, if_pos hkey, write_run,
    insertDeliverySnapshot, pure_run]
  rfl

/-- An append is made by a member. -/
theorem appendMessageInTransaction_member [DecidableEq Json] [SerdeJson Json] {channelId id : String}
    {input : CreateMessage Json} {createdAtMs : Int} {result : AppendMessageResult Json}
    (h : appendMessageInTransaction channelId input id createdAtMs s = .ok (result, t)) :
    t = s ∨ ∃ m, t = postedStore s m ∧
      (m.channelId, m.senderId) ∈ s.channelMembers.map ChannelMember.key := by
  simp only [appendMessageInTransaction, bind_ok, ensure_ok, check_ok, read_ok] at h
  obtain ⟨_, _, ⟨_, rfl⟩, _, _, ⟨_, rfl⟩, existing, _, ⟨_, rfl⟩, h⟩ := h
  cases existing with
  | some row =>
    simp only [bind_ok, check_ok, ensure_ok, pure_ok] at h
    obtain ⟨_, _, ⟨_, rfl⟩, _, _, ⟨_, rfl⟩, -, rfl⟩ := h
    exact .inl rfl
  | none =>
    simp only [bind_ok, pure_ok] at h
    obtain ⟨_, _, hinsert, -, rfl⟩ := h
    exact .inr ⟨_, (insertMessage_ok hinsert).2.2, (insertMessage_admitted hinsert).2⟩

/-- A firing is an append of a member. -/
theorem fire_member [DecidableEq Json] [SerdeJson Json] [Sha256] {triggerId messageId : String}
    {occurrence : TriggerOccurrence Json} {messageNow now : Int} {result : TriggerFired}
    (h : fire triggerId occurrence messageId messageNow now s = .ok (result, t)) :
    t.messages = s.messages ∨ ∃ m, t.messages = s.messages ++ [m] ∧
      (m.channelId, m.senderId) ∈ s.channelMembers.map ChannelMember.key := by
  simp only [fire, bind_ok, check_ok, ensure_ok, pure_ok] at h
  obtain ⟨_, _, ⟨_, rfl⟩, trigger, _, htrigger, _, _, ⟨_, rfl⟩, _, _, ⟨_, rfl⟩, _, _, ⟨_, rfl⟩, _, mid,
    happend, _, last, hrecord, _, rfl⟩ := h
  obtain ⟨rfl, _⟩ := triggerInTransaction_ok htrigger
  rw [(recordCreated_registers hrecord).frame]
  obtain rfl | ⟨m, rfl, hmember⟩ := appendMessageInTransaction_member happend
  · exact .inl rfl
  · exact .inr ⟨m, rfl, hmember⟩

section Steps

/-- The attempt that completes belongs to a member. -/
theorem Completable.member (hseated : Seated s) {agentId invocationId leaseToken fenceToken : String}
    {i : InvocationRow} {d : AgentDelivery} {origin : MessageRow}
    (h : Completable s agentId invocationId leaseToken fenceToken i d origin) :
    (origin.channelId, agentId) ∈ s.channelMembers.map ChannelMember.key := by
  obtain ⟨hseq, hagent⟩ := Prod.mk.inj h.same
  have hmember := hseated.recipients d h.delivery origin h.message (h.seq.trans hseq.symm)
  rw [hagent, h.agent] at hmember
  exact hmember

variable [DecidableEq Json] [SerdeJson Json] [Sha256] {minted : List String}

/-- A command leaves the log alone, or posts for a member. -/
theorem Command.posts_member (hinv : Invariant minted s) (hseated : Seated s) {c : Command Json}
    {u : Unit} (hfresh : ∀ leaseToken ∈ c.leaseTokens, leaseToken ∉ minted)
    (h : c.exec s = .ok (u, t)) : t.messages = s.messages ∨ ∃ m, t.messages = s.messages ++ [m] ∧
      (m.channelId, m.senderId) ∈ s.channelMembers.map ChannelMember.key := by
  cases henrolling : c.isEnrolling with
  | true => exact .inl (by rw [(c.enrolls hinv.log henrolling h).frame])
  | false =>
    cases c with
    | appendMessage channelId input id now =>
      obtain ⟨_, h⟩ := discard_ok h
      obtain rfl | ⟨m, rfl, hmember⟩ := appendMessageInTransaction_member h
      · exact .inl rfl
      · exact .inr ⟨m, rfl, hmember⟩
    | registerTrigger id input now =>
      obtain ⟨_, h⟩ := discard_ok h
      exact .inl (by rw [(registerTrigger_registers h).frame])
    | retireTrigger triggerId reason now =>
      obtain ⟨_, h⟩ := discard_ok h
      exact .inl (by rw [(retireTrigger_registers h).frame])
    | fireTrigger triggerId occurrence messageId messageNow now =>
      obtain ⟨_, h⟩ := discard_ok h
      exact fire_member h
    | completeInvocation agentId invocationId input now resultId resultNow =>
      obtain ⟨_, h⟩ := discard_ok h
      obtain ⟨_, _, _, _, rfl, _⟩ | ⟨i, d, origin, hpub, -, -⟩ :=
        completeInvocationTransaction_ok hinv.ledger hinv.log h
      · exact .inl rfl
      · exact .inr ⟨_, by rw [hpub.store]; rfl, hpub.able.member hseated⟩
    | completeSessionInvocation agentId invocationId binding persistence input now resultId resultNow =>
      obtain ⟨_, h⟩ := discard_ok h
      obtain ⟨rfl, _⟩ | ⟨i, d, origin, mid, turn, row, hpub, -, -, -, -, -, -, -, -, -, rfl⟩ :=
        completeSessionInvocation_ok hinv.ledger hinv.log h
      · exact .inl rfl
      · exact .inr ⟨_, by rw [hpub.store]; rfl, hpub.able.member hseated⟩
    | _ => exact .inl (Command.records hinv hfresh henrolling rfl rfl h).messages

omit [DecidableEq Json] [SerdeJson Json] [Sha256] in
/-- Nobody leaves a channel. -/
theorem Seats.keys (h : Seats s t) :
    s.channelMembers.map ChannelMember.key ⊆ t.channelMembers.map ChannelMember.key := by
  cases h with
  | same members => rw [members]; exact List.Subset.refl _
  | joined rows messages members cursors =>
    rw [members, List.map_append]
    exact List.subset_append_left ..
  | advanced channelId agentId throughSeq messages committed members =>
    have hsame : t.channelMembers.map ChannelMember.key = s.channelMembers.map ChannelMember.key := by
      rw [members]
      exact map_updateWhere fun _ _ _ => rfl
    rw [hsame]
    exact List.Subset.refl _

omit [DecidableEq Json] [SerdeJson Json] [Sha256] in
/-- A delivery that a message brings is for a member of its channel. -/
theorem snapshot_member {m : MessageRow} {members : List ChannelMember} {d : AgentDelivery}
    (hd : d ∈ m.snapshot members) : (m.channelId, d.agentId) ∈ members.map ChannelMember.key := by
  obtain ⟨member, hmember, rfl⟩ := List.mem_map.mp hd
  unfold snapshotMembers at hmember
  cases hto : m.recipientId with
  | none =>
    rw [hto, List.mem_filter, decide_eq_true_eq] at hmember
    exact List.mem_map.mpr ⟨member, hmember.1, Prod.ext hmember.2.1 rfl⟩
  | some recipientId =>
    rw [hto, List.mem_filter, decide_eq_true_eq] at hmember
    exact List.mem_map.mpr ⟨member, hmember.1, Prod.ext hmember.2.1 rfl⟩

omit [DecidableEq Json] [SerdeJson Json] [Sha256] in
/-- Deliveries stay with the members while the log is quiet and when a message is posted. -/
theorem Seated.recipients_step (hseated : Seated s) (hlog : LogConsistent s)
    (hchange : Quiet s t ∨ ∃ n, Posts s t n) {d : AgentDelivery} (hd : d ∈ t.agentDeliveries)
    {m : MessageRow} (hm : m ∈ t.messages) (hseq : m.seq = d.messageSeq) :
    (m.channelId, d.agentId) ∈ s.channelMembers.map ChannelMember.key :=
  hlog.delivered_step
    (R := fun m agentId => (m.channelId, agentId) ∈ s.channelMembers.map ChannelMember.key)
    hseated.recipients (fun _ _ => snapshot_member) hchange hd hm hseq

/-- A step keeps senders and recipients seated. -/
theorem Seated.step (hseated : Seated s) (hinv : Invariant minted s) {c : Command Json}
    (hfresh : ∀ leaseToken ∈ c.leaseTokens, leaseToken ∉ minted) : Seated (c.step s) := by
  obtain ⟨u, hok⟩ | hsame := c.step_cases s
  · have hkeys := (c.step_seats hinv hfresh).keys
    have hchange : Quiet s (c.step s) ∨ ∃ n, Posts s (c.step s) n := by
      obtain hquiet | ⟨n, hposts, -⟩ := (c.step_effect hinv hfresh).log
      · exact .inl hquiet
      · exact .inr ⟨n, hposts⟩
    refine ⟨fun m hm => hkeys ?_, fun d hd m hm hseq =>
      hkeys (hseated.recipients_step hinv.log hchange hd hm hseq)⟩
    obtain hquiet | ⟨n, hposts, hmember⟩ := c.posts_member hinv hseated hfresh hok
    · exact hseated.senders m (hquiet ▸ hm)
    · rw [hposts, List.mem_append, List.mem_singleton] at hm
      obtain hm | rfl := hm
      · exact hseated.senders m hm
      · exact hmember
  · rw [hsame]
    exact hseated

/-- Senders and recipients of a run are seated. -/
theorem run_seated {cs : List (Command Json)} (h : Fresh cs) : Seated (run cs) := by
  refine FreshAlong.induction (fun _ s => Seated s) ⟨(fun _ hm => by cases hm), fun _ hd => by cases hd⟩
    (fun ds c hfresh hds => ?_) cs h
  exact hds.step (run_invariant hfresh.left) fun _ htok => hfresh.not_mem htok

end Steps

/-! ## One completion -/

/-- The channel of the input is open, and its agent has not used the key of the result. -/
structure ResultAdmitted (s : Store) (i : InvocationRow) : Prop where
  channel : ∃ origin ∈ s.messages, origin.seq = i.messageSeq ∧ ∃ channel,
    s.channels.find? (fun c => c.id = origin.channelId) = some channel ∧ channel.archivedAtMs = none
  key : ∀ m ∈ s.messages,
    ¬ (m.senderId = i.agentId ∧ m.idempotencyKey = some s!"invocation/{i.id}/result")

section Completion
variable [DecidableEq Json] [SerdeJson Json] [LawfulSerdeJson Json] {i : InvocationRow}
  {d : AgentDelivery} {origin : MessageRow} {input : CompleteInvocation Json} {now resultNow : Int}
  {resultId : String}

omit [DecidableEq Json] [SerdeJson Json] [LawfulSerdeJson Json] in
/-- The delivery of a completed attempt is acknowledged, also after the result was posted. -/
theorem Completable.acknowledge_run {agentId invocationId leaseToken fenceToken : String}
    (hable : Completable s agentId invocationId leaseToken fenceToken i d origin)
    (hc : Consistent s.toLedger) (hlive : now < i.leaseExpiresAtMs) {mid : Store}
    (hkeys : KeyUnique AgentDelivery.key mid.agentDeliveries) (hd : d ∈ mid.agentDeliveries) :
    acknowledgeInvocationDelivery ⟨i, d, origin⟩ agentId leaseToken now mid = .ok ((), { mid with
      agentDeliveries := replaceRow d (acknowledgedColumns leaseToken now d) mid.agentDeliveries }) := by
  have hheld := ((hc.leaseFits d hable.delivery i hable.invocation hable.same.symm).held
    (isTerminal_of_isArmed hable.armed)).1
  obtain ⟨hseq, hagent⟩ := Prod.mk.inj hable.same
  have hsel : LeasedRow.selects ⟨.seq i.messageSeq, agentId, leaseToken, .live, now⟩ mid.messages d =
      true := by
    rw [LeasedRow.selects_iff]
    exact ⟨decide_eq_true hseq, hagent.trans hable.agent, i.leaseExpiresAtMs, hable.lease ▸ hheld,
      by simpa [LeaseWindow.predicate] using hlive⟩
  have hack : acknowledgeLeasedSeq agentId i.messageSeq leaseToken now mid = _ :=
    LeasedRow.update_run (acknowledgedColumns leaseToken now) hkeys hd hsel
  simp only [acknowledgeInvocationDelivery, bind_run, hack, ensure_run, if_true]

omit [DecidableEq Json] [SerdeJson Json] [LawfulSerdeJson Json] in
/-- A completed attempt ends. -/
theorem Completable.mark_run {agentId invocationId leaseToken fenceToken : String}
    (hable : Completable s agentId invocationId leaseToken fenceToken i d origin)
    (hc : Consistent s.toLedger) (seq : Nat) {mid : Store} (hmid : mid.invocations = s.invocations) :
    markCompleted agentId invocationId seq now mid = .ok ((), { mid with
      invocations := updateWhere (openFor d.key)
        (terminalColumns now .outcomeKnown (.completed seq)) s.invocations }) := by
  have hone : s.invocations.countP (fun j : InvocationRow => decide (j.id = invocationId) &&
      decide (j.agentId = agentId) && j.state.isArmed) = 1 := by
    refine hc.invocationIds.countP_eq_one hable.invocation
      (by simp [hable.id, hable.agent, hable.armed]) fun j _ hj => ?_
    simp only [Bool.and_eq_true, decide_eq_true_eq] at hj
    exact hj.1.1.trans hable.id.symm
  simp only [markCompleted, bind_run, write_run, hmid, hone, ensure_run, if_true]
  rw [updateWhere_congr (fun j hj => hable.selects_eq hc hj) fun _ _ _ => rfl]

omit [DecidableEq Json] in
/-- A completion of a live attempt publishes if its result is admitted. -/
theorem publishCompletion_run (hc : Consistent s.toLedger) (hlog : LogConsistent s)
    (hseated : Seated s) (hprinted : ∀ m ∈ s.messages, m.Printed Json)
    (hable : Completable s i.agentId i.id input.leaseToken input.fenceToken i d origin)
    (hlive : now < i.leaseExpiresAtMs) (hid : ∀ m ∈ s.messages, m.id ≠ resultId)
    (hadmitted : ResultAdmitted s i) :
    ∃ result, publishCompletion i.agentId i.id input ⟨i, d, origin⟩ now resultId resultNow s =
      .ok (result, completedStore s (resultRow s i.agentId i.id origin input resultId resultNow) d
        input.leaseToken now) := by
  obtain ⟨⟨origin', horigin, hseq, channel, hfind, hopen⟩, hkey⟩ := hadmitted
  obtain rfl : origin' = origin := hlog.messageSeqs.eq horigin hable.message (hseq.trans hable.seq.symm)
  have hheld := ((hc.leaseFits d hable.delivery i hable.invocation hable.same.symm).held
    (isTerminal_of_isArmed hable.armed)).1
  have hlease : validateLiveLease ⟨i, d, origin'⟩ input.leaseToken now = .ok () := by
    refine if_neg ?_
    rw [hheld, hable.lease]
    simpa [DeliveryState.leaseExpiresAtMs, DeliveryState.leaseToken] using hlive
  have hinsert : insertMessage origin'.channelId (resultInput i.agentId i.id origin' input) resultId
      resultNow s = _ := insertMessage_run hfind hopen (hable.member hseated)
    (fun recipientId hto => Option.some.inj hto ▸ hseated.senders origin' horigin) hid (.inr hkey)
  have hpost : Postable s (resultRow s i.agentId i.id origin' input resultId resultNow) :=
    ⟨rfl, hid, .inr hkey⟩
  have hack := hable.acknowledge_run hc hlive (hc.move (hpost.move hlog)).deliveryKeys
    (List.mem_append_left _ hable.delivery)
  have hmark : markCompleted i.agentId i.id (s.messageSequence + 1) now
      { postedStore s (resultRow s i.agentId i.id origin' input resultId resultNow) with
        agentDeliveries := replaceRow d (acknowledgedColumns input.leaseToken now d)
          (postedStore s (resultRow s i.agentId i.id origin' input resultId resultNow)).agentDeliveries } =
      .ok ((), completedStore s (resultRow s i.agentId i.id origin' input resultId resultNow) d
        input.leaseToken now) := hable.mark_run hc (s.messageSequence + 1) rfl
  have hended : terminalColumns now .outcomeKnown (.completed (s.messageSequence + 1)) i ∈
      updateWhere (openFor d.key) (terminalColumns now .outcomeKnown
        (.completed (s.messageSequence + 1))) s.invocations :=
    mem_updateWhere_of_pos hable.invocation (by
      rw [openFor, hable.same, isTerminal_of_isArmed hable.armed]
      simp)
  have hread : ∃ invocation : Invocation Json, invocationById i.id (completedStore s
      (resultRow s i.agentId i.id origin' input resultId resultNow) d input.leaseToken now) =
      .ok (invocation, completedStore s
        (resultRow s i.agentId i.id origin' input resultId resultNow) d input.leaseToken now) :=
    invocationById_run (s := completedStore s
        (resultRow s i.agentId i.id origin' input resultId resultNow) d input.leaseToken now)
      (i := terminalColumns now .outcomeKnown (.completed (s.messageSequence + 1)) i)
      (hc.invocationIds.updateWhere fun _ _ _ => rfl) (hlog.posts hpost.posts).messageSeqs hended
      (List.mem_append_left _ horigin) hseq (hprinted origin' horigin)
  obtain ⟨invocation, hread⟩ := hread
  refine ⟨⟨invocation, (resultInput i.agentId i.id origin' input).message origin'.channelId
    (s.messageSequence + 1) resultId resultNow⟩, ?_⟩
  simp only [publishCompletion, bind_run, hlease, check_ok_run, ensureResultKeyUnused, read_run,
    ensure_run, if_pos hkey, hinsert]
  rw [show (resultInput i.agentId i.id origin' input).row origin'.channelId (s.messageSequence + 1)
    resultId resultNow = resultRow s i.agentId i.id origin' input resultId resultNow from rfl]
  simp only [hack, CreateMessage.message, hmark, hread, pure_run]

omit [DecidableEq Json] [LawfulSerdeJson Json] in
/-- A completion that published was admitted. -/
theorem publishCompletion_admitted {row : InvocationWithDelivery} {result : InvocationCompletion Json}
    (horigin : row.input ∈ s.messages) (hseq : row.input.seq = i.messageSeq)
    (h : publishCompletion i.agentId i.id input row now resultId resultNow s = .ok (result, t)) :
    ResultAdmitted s i := by
  simp only [publishCompletion, ensureResultKeyUnused, bind_ok, check_ok, read_ok, ensure_ok] at h
  obtain ⟨_, _, ⟨_, rfl⟩, _, _, ⟨_, _, ⟨rfl, rfl⟩, hkey, rfl⟩, _, _, hinsert, -⟩ := h
  obtain ⟨channel, hfind, hopen⟩ := (insertMessage_admitted hinsert).1
  exact ⟨⟨row.input, horigin, hseq, channel, hfind, hopen⟩, hkey⟩

/-- The state of an attempt that may complete: it is armed and its lease is live, and the caller
presents its tokens in a valid request. -/
structure Finished (s : Store) (i : InvocationRow) (input : CompleteInvocation Json) (now : Int) :
    Prop where
  mem : i ∈ s.invocations
  armed : i.state.isArmed = true
  live : now < i.leaseExpiresAtMs
  lease : input.leaseToken = i.leaseToken
  fence : input.fenceToken = i.fenceToken
  valid : validateCompletion i.id input = .ok ()

/-- A finished attempt completes exactly if its result is admitted. -/
theorem Finished.complete_iff (h : Finished s i input now) (hc : Consistent s.toLedger)
    (hlog : LogConsistent s) (hseated : Seated s) (hprinted : ∀ m ∈ s.messages, m.Printed Json)
    (hid : ∀ m ∈ s.messages, m.id ≠ resultId) {allow : Bool}
    (hallow : ensureSessionAllowsCompletion i.id allow s = .ok ((), s)) :
    (∃ result t, completeInvocationTransaction i.agentId i.id input now allow resultId resultNow s =
      .ok (result, t)) ↔ ResultAdmitted s i := by
  obtain ⟨d, hd, hkey⟩ := hc.exists_delivery h.mem
  obtain ⟨origin, horigin, hseq⟩ := List.mem_map.mp (hlog.deliveryMessage d hd)
  have hseq' : origin.seq = i.messageSeq := hseq.trans (congrArg Prod.fst hkey)
  obtain ⟨e, hread⟩ := invocationWithDelivery_run hc hlog h.mem horigin hseq'
  obtain ⟨-, -, -, -, he, hekey, -, -⟩ := invocationWithDelivery_ok hread
  have hheld := ((hc.leaseFits e he i h.mem hekey.symm).held (isTerminal_of_isArmed h.armed)).1
  have hable : Completable s i.agentId i.id input.leaseToken input.fenceToken i e origin :=
    ⟨h.mem, rfl, rfl, h.armed, h.lease.symm, h.fence.symm, he, hekey, by rw [hheld, h.lease]; rfl,
      horigin, hseq'⟩
  have hstatic : validateStaticFence ⟨i, e, origin⟩ input.leaseToken input.fenceToken = .ok () :=
    if_neg (by rw [h.lease, h.fence]; simp)
  have hrun : completeInvocationTransaction i.agentId i.id input now allow resultId resultNow s =
      (do
        let completion ← publishCompletion i.agentId i.id input ⟨i, e, origin⟩ now resultId resultNow
        pure (completion, true) : Tx _) s := by
    simp only [completeInvocationTransaction, bind_run, h.valid, check_ok_run, hallow, hread, hstatic]
    cases hstate : i.state with
    | dispatchArmed at_ => simp only [bind_run]
    | reserved =>
      have harmed := h.armed
      rw [hstate] at harmed
      cases harmed
    | terminal at_ ended certainty reason =>
      have harmed := h.armed
      rw [hstate] at harmed
      cases harmed
  rw [hrun]
  constructor
  · rintro ⟨result, t, hok⟩
    rw [bind_ok] at hok
    obtain ⟨_, _, hpublish, -⟩ := hok
    exact publishCompletion_admitted horigin hseq' hpublish
  · intro hadmitted
    obtain ⟨result, hpublish⟩ := publishCompletion_run hc hlog hseated hprinted hable h.live hid hadmitted
    exact ⟨(result, true), _, by rw [bind_run, hpublish]; rfl⟩

omit [DecidableEq Json] [SerdeJson Json] [LawfulSerdeJson Json] in
/-- The binding of a turn in flight. -/
theorem Consistent.bindingOf (hc : Consistent s.toLedger) {turn : SessionBindingTurn}
    (hturn : turn ∈ s.sessionBindingTurns) (hactive : turn.state = .active) (hi : i ∈ s.invocations)
    (hid : turn.invocationId = i.id) :
    ∃ row ∈ s.sessionBindings, row.key = turn.bindingKey ∧ row.agentId = i.agentId ∧
      row.ownerEpoch = turn.ownerEpoch ∧ row.state.isActiveOn i.id = true := by
  obtain ⟨row, hrow, hkey⟩ := List.mem_map.mp (hc.turnBinding turn hturn)
  have hbound := hc.turnBound turn hturn row hrow hkey
  rw [TurnBound, hactive, hid] at hbound
  obtain ⟨u, hu, huid, -, hepoch, -, -⟩ := hc.current row hrow i.id
    (SessionBindingState.activeInvocationId_of_isActiveOn hbound)
  rw [hc.turnIds.eq hu hturn (huid.trans hid.symm)] at hepoch
  exact ⟨row, hrow, hkey, (hc.turnAgent turn hturn i hi row hrow hid.symm hkey).symm, hepoch.symm,
    hbound⟩

/-- The binding that a turn in flight was armed under. -/
def SessionBindingTurn.binding (turn : SessionBindingTurn) : Binding :=
  ⟨turn.bindingId, turn.bindingGeneration, turn.ownerEpoch⟩

omit [DecidableEq Json] [SerdeJson Json] [LawfulSerdeJson Json] in
/-- A turn is found under its attempt. -/
theorem Consistent.turnOf_eq (hc : Consistent s.toLedger) {turn : SessionBindingTurn}
    (hturn : turn ∈ s.sessionBindingTurns) (hid : turn.invocationId = i.id) :
    turnOf i.id s.sessionBindingTurns = some turn :=
  hc.turnIds.find?_eq_some hturn (by simp [hid]) fun u _ hu => by rw [of_decide_eq_true hu, hid]

omit [DecidableEq Json] [SerdeJson Json] [LawfulSerdeJson Json] in
/-- The owner of a turn in flight is recognised. -/
theorem validateBoundTurn_run (hc : Consistent s.toLedger) {turn : SessionBindingTurn}
    (hturn : turn ∈ s.sessionBindingTurns) (hactive : turn.state = .active) (hi : i ∈ s.invocations)
    (hid : turn.invocationId = i.id) :
    validateBoundTurn i.agentId i.id turn.binding true s = .ok ((), s) := by
  obtain ⟨row, hrow, hkey, hagent, hepoch, hon⟩ := hc.bindingOf hturn hactive hi hid
  obtain ⟨hbinding, hgeneration⟩ : row.bindingId = turn.bindingId ∧
    row.bindingGeneration = turn.bindingGeneration := Prod.ext_iff.mp hkey
  have hvalid : validateBinding turn.binding = .ok () := hc.turnValid turn hturn
  obtain ⟨hgen, hgenMax, hep, hepMax⟩ := validateBinding_ok hvalid
  have hfence : validateTurnFence turn turn.binding = .ok () := by
    rw [validateTurnFence, asI64_eq hgen hgenMax, asI64_eq hep hepMax]
    exact if_neg (by simp [SessionBindingTurn.binding])
  have hfind : s.sessionBindings.find? (fun r => r.bindingId = turn.binding.bindingId ∧
      r.bindingGeneration = turn.binding.bindingGeneration ∧ r.agentId = i.agentId) = some row :=
    hc.bindingKeys.find?_eq_some hrow (by
      simp [SessionBindingTurn.binding, hbinding, hgeneration, hagent]) fun r _ hr => by
      rw [decide_eq_true_eq] at hr
      exact Prod.ext (hr.1.trans hbinding.symm) (hr.2.1.trans hgeneration.symm)
  have hexact : exactBindingRow i.agentId turn.binding s = .ok (row, s) := by
    simp only [exactBindingRow, bind_run, asI64_eq hgen hgenMax, check_ok_run, read_run, hfind,
      require_some_run]
  have howner : validateOwner row turn.binding = .ok () := by
    rw [validateOwner, asI64_eq hgen hgenMax, asI64_eq hep hepMax]
    exact if_neg (by simp [SessionBindingTurn.binding, hgeneration, hepoch])
  simp only [validateBoundTurn, boundTurnRow, bind_run, read_run, hc.turnOf_eq hturn hid,
    require_some_run, hfence, check_ok_run, hactive, hexact, howner, ensure_run,
    SessionBindingState.activeInvocationId_of_isActiveOn hon, if_true]

omit [DecidableEq Json] [SerdeJson Json] [LawfulSerdeJson Json] in
/-- A turn in flight is ended with its binding. -/
theorem settleQuiescentTurn_run (hc : Consistent s.toLedger) {turn : SessionBindingTurn}
    (hturn : turn ∈ s.sessionBindingTurns) (hactive : turn.state = .active) (hi : i ∈ s.invocations)
    (hid : turn.invocationId = i.id) (persistence : SessionPersistence) {mid : Store}
    (hturns : mid.sessionBindingTurns = s.sessionBindingTurns)
    (hbindings : mid.sessionBindings = s.sessionBindings) :
    ∃ t, settleQuiescentTurn i.agentId i.id turn.binding persistence now mid = .ok ((), t) := by
  obtain ⟨row, hrow, hkey, hagent, hepoch, hon⟩ := hc.bindingOf hturn hactive hi hid
  obtain ⟨hbinding, hgeneration⟩ : row.bindingId = turn.bindingId ∧
    row.bindingGeneration = turn.bindingGeneration := Prod.ext_iff.mp hkey
  have hfence : OwnerFence.new i.agentId turn.binding = .ok (.fromStored row) := by
    have hvalid : validateBinding turn.binding = .ok () := hc.turnValid turn hturn
    rw [ownerFence_new_eq hvalid, OwnerFence.fromStored, hbinding, hgeneration, hagent, hepoch]
    rfl
  obtain ⟨after, hupd, hafter⟩ : ∃ after, updateActiveTurn i.id (.quiescent now persistence)
      "session turn changed during completion" mid = .ok ((), after) ∧
      after.sessionBindings = s.sessionBindings := by
    rw [← hid]
    exact ⟨_, updateActiveTurn_run (.quiescent now persistence) _ (hturns ▸ hc.turnIds)
      (hturns ▸ hturn) hactive, hbindings⟩
  obtain ⟨t, hreturned⟩ : ∃ t, (OwnerFence.fromStored row).update (·.isActiveOn i.id)
      (quiescentColumns i.id persistence now) "session binding changed during completion" after =
      .ok ((), t) :=
    ⟨_, OwnerFence.update_run _ (hafter ▸ hc.bindingKeys) (hafter ▸ hrow) rfl hon⟩
  refine ⟨t, ?_⟩
  simp only [settleQuiescentTurn, boundTurnRow, bind_run, read_run, hturns, hc.turnOf_eq hturn hid,
    require_some_run, hactive, hupd, hfence, check_ok_run, hreturned]

/-- A finished attempt completes under its session exactly if its result is admitted. -/
theorem Finished.completeSession_iff (h : Finished s i input now) (hc : Consistent s.toLedger)
    (hlog : LogConsistent s) (hseated : Seated s) (hprinted : ∀ m ∈ s.messages, m.Printed Json)
    (hid : ∀ m ∈ s.messages, m.id ≠ resultId) {turn : SessionBindingTurn}
    (hturn : turn ∈ s.sessionBindingTurns) (hturnId : turn.invocationId = i.id)
    (hactive : turn.state = .active) (persistence : SessionPersistence) :
    (∃ result t, completeSessionInvocation i.agentId i.id turn.binding persistence input now resultId
      resultNow s = .ok (result, t)) ↔ ResultAdmitted s i := by
  have hbound := validateBoundTurn_run hc hturn hactive h.mem hturnId
  have hvalid : validateBinding turn.binding = .ok () := hc.turnValid turn hturn
  have hallow : ensureSessionAllowsCompletion i.id true s = .ok ((), s) := rfl
  rw [← h.complete_iff hc hlog hseated hprinted hid hallow]
  constructor
  · rintro ⟨result, t, hok⟩
    simp only [completeSessionInvocation, bind_run, hvalid, check_ok_run, hbound] at hok
    cases hcall : completeInvocationTransaction i.agentId i.id input now true resultId resultNow s with
    | error e =>
      rw [hcall] at hok
      cases hok
    | ok answer => exact ⟨answer.1, answer.2, rfl⟩
  · rintro ⟨result, mid, hok⟩
    have hsame : mid.sessionBindingTurns = s.sessionBindingTurns ∧
        mid.sessionBindings = s.sessionBindings := by
      obtain ⟨_, _, _, _, rfl, _⟩ | ⟨_, _, _, hpub, _⟩ := completeInvocationTransaction_ok hc hlog hok
      · exact ⟨rfl, rfl⟩
      · rw [hpub.store]
        exact ⟨rfl, rfl⟩
    obtain ⟨t, hsettle⟩ : ∃ t, settleQuiescentTurn i.agentId i.id turn.binding persistence now mid =
        .ok ((), t) :=
      settleQuiescentTurn_run hc hturn hactive h.mem hturnId persistence hsame.1 hsame.2
    refine ⟨result, t, ?_⟩
    simp only [completeSessionInvocation, bind_run, hvalid, check_ok_run, hbound, hok, hsettle,
      pure_run]

end Completion

/-! ## Every run -/

section Runs
variable [DecidableEq Json] [SerdeJson Json] [LawfulSerdeJson Json] [Sha256]
  {cs : List (Command Json)} {i : InvocationRow} {input : CompleteInvocation Json} {now : Int}

/-- After every run with fresh lease tokens a finished attempt can publish exactly if its channel is
open and its agent has not used the key of the result. -/
theorem run_publishes_iff (h : Fresh cs) (hfinished : Finished (run cs) i input now)
    {resultId : String} (hid : ∀ m ∈ (run cs).messages, m.id ≠ resultId) (resultNow : Int) :
    ((∀ turn ∈ (run cs).sessionBindingTurns, turn.invocationId ≠ i.id) →
      ((∃ result t, completeInvocation i.agentId i.id input now resultId resultNow (run cs) =
        .ok (result, t)) ↔ ResultAdmitted (run cs) i)) ∧
    ∀ turn ∈ (run cs).sessionBindingTurns, turn.invocationId = i.id → turn.state = .active →
      ∀ persistence, (∃ result t, completeSessionInvocation i.agentId i.id turn.binding persistence input
        now resultId resultNow (run cs) = .ok (result, t)) ↔ ResultAdmitted (run cs) i := by
  have hinv := run_invariant h
  refine ⟨fun hunbound => ?_, fun turn hturn hturnId hactive persistence =>
    hfinished.completeSession_iff hinv.ledger hinv.log (run_seated h) (run_printed h) hid hturn hturnId
      hactive persistence⟩
  refine hfinished.complete_iff hinv.ledger hinv.log (run_seated h) (run_printed h) hid ?_
  have hnone : turnOf i.id (run cs).sessionBindingTurns = none :=
    List.find?_eq_none.mpr fun turn hturn hsame => hunbound turn hturn (of_decide_eq_true hsame)
  simp only [ensureSessionAllowsCompletion, Bool.false_eq_true, if_false,
    ensureInvocationNotActiveOnSession, bind_run, read_run, hnone, Option.map_none, pure_run]

end Runs

/-- The result of the sample's attempt. -/
def sampleResult : CompleteInvocation Bool := ⟨"T", "f", "done", true⟩

set_option maxRecDepth 100000 in
/-- The sample's attempt is finished. -/
theorem sampleArmed_finished : Finished (run sampleArmed) sampleInvocation sampleResult 8 :=
  ⟨by decide +kernel, rfl, by decide, rfl, rfl, by decide⟩

set_option maxRecDepth 100000 in
/-- The sample's attempt can publish exactly if its channel is open and the key is free. -/
theorem run_publishes_iff_sampleArmed :
    ((∀ turn ∈ (run sampleArmed).sessionBindingTurns, turn.invocationId ≠ "i") →
      ((∃ result t, completeInvocation "b" "i" sampleResult 8 "r" 8 (run sampleArmed) =
        .ok (result, t)) ↔ ResultAdmitted (run sampleArmed) sampleInvocation)) ∧
    ∀ turn ∈ (run sampleArmed).sessionBindingTurns, turn.invocationId = "i" → turn.state = .active →
      ∀ persistence, (∃ result t, completeSessionInvocation "b" "i" turn.binding persistence
        sampleResult 8 "r" 8 (run sampleArmed) = .ok (result, t)) ↔
          ResultAdmitted (run sampleArmed) sampleInvocation :=
  run_publishes_iff (by decide) sampleArmed_finished (by decide +kernel) 8

/-- The channel is archived while the sample's turn runs. -/
def archivedRun : List (Command Bool) := sampleArmed ++ [.archiveChannel "c" 8]

/-- The agent sends a message under the key of its own result while the sample's turn runs. -/
def takenKeyRun : List (Command Bool) := sampleArmed ++ [
  .appendMessage "c" ⟨"b", some "invocation/i/result", some "a", "note", true, none, none⟩ "n" 8]

set_option maxRecDepth 100000 in
/-- A finished turn cannot publish into an archived channel, nor under a key that its agent has
used. -/
theorem completion_refused_archivedRun :
    (Fresh archivedRun ∧ Finished (run archivedRun) sampleInvocation sampleResult 9 ∧
      (∃ turn ∈ (run archivedRun).sessionBindingTurns, turn.invocationId = "i" ∧
        turn.state = .active ∧ turn.binding = ⟨"B", 1, 1⟩) ∧
      completeSessionInvocation "b" "i" ⟨"B", 1, 1⟩ .confirmed sampleResult 9 "r" 9 (run archivedRun) =
        .error (.conflict "channel is archived: c")) ∧
    Fresh takenKeyRun ∧ Finished (run takenKeyRun) sampleInvocation sampleResult 9 ∧
      (∃ turn ∈ (run takenKeyRun).sessionBindingTurns, turn.invocationId = "i" ∧
        turn.state = .active ∧ turn.binding = ⟨"B", 1, 1⟩) ∧
      completeSessionInvocation "b" "i" ⟨"B", 1, 1⟩ .confirmed sampleResult 9 "r" 9 (run takenKeyRun) =
        .error (.conflict "invocation result key was already used outside completion") := by
  refine ⟨⟨by decide, ⟨by decide +kernel, rfl, by decide, rfl, rfl, by decide⟩, by decide +kernel,
    by decide +kernel⟩, by decide, ⟨by decide +kernel, rfl, by decide, rfl, rfl, by decide⟩,
    by decide +kernel, by decide +kernel⟩

end Fleetd
