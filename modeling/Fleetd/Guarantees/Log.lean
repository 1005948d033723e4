import Fleetd.System.Reachable

/-!
# The message log is durable

Messages are only ever appended, each together with its deliveries, and a sender's
idempotency key names at most one of them. A request under a key that is taken is answered
from the stored message, whichever entry point stored it, and changes nothing.
-/

namespace Fleetd

open Relational Relational.Transaction

variable {Json : Type}

/-! ## The snapshot -/

/-- The agents a message is for: its recipient alone, or everyone but its sender. -/
def MessageRow.Addresses (m : MessageRow) (agentId : String) : Prop :=
  match m.recipientId with
  | some recipient => agentId = recipient
  | none => agentId ≠ m.senderId

/-- The snapshot selects the inbox members of the channel that the message is for. -/
theorem mem_snapshotMembers {m : MessageRow} {members : List ChannelMember}
    {member : ChannelMember} :
    member ∈ snapshotMembers m.channelId m.senderId m.recipientId members ↔
      member ∈ members ∧ member.channelId = m.channelId ∧ member.deliveryMode = .inbox ∧
        m.Addresses member.agentId := by
  unfold snapshotMembers MessageRow.Addresses
  cases m.recipientId with
  | none =>
    rw [List.mem_filter, decide_eq_true_eq]
    exact ⟨fun ⟨h, hc, ha, hi⟩ => ⟨h, hc, hi, ha⟩, fun ⟨h, hc, hi, ha⟩ => ⟨h, hc, ha, hi⟩⟩
  | some recipient =>
    rw [List.mem_filter, decide_eq_true_eq]
    exact ⟨fun ⟨h, hc, ha, hi⟩ => ⟨h, hc, hi, ha⟩, fun ⟨h, hc, hi, ha⟩ => ⟨h, hc, ha, hi⟩⟩

section Step

variable {s t : Store} {m : MessageRow}

/-- The deliveries of a message that was just appended are its snapshot. -/
theorem Posts.deliveries (hlog : LogConsistent s) (h : Posts s t m) (d : AgentDelivery) :
    d ∈ t.agentDeliveries ∧ d.messageSeq = m.seq ↔
      ∃ member ∈ s.channelMembers, member.channelId = m.channelId ∧
        member.deliveryMode = .inbox ∧ m.Addresses member.agentId ∧
        d = pendingDelivery m.seq member.agentId m.createdAtMs := by
  obtain ⟨kept, hkept, hkeys⟩ := h.snapshot
  constructor
  · rintro ⟨hd, hseq⟩
    rw [hkept] at hd
    rcases List.mem_append.mp hd with hd | hd
    · -- an older delivery is about an older message
      have hmem : d.key ∈ s.agentDeliveries.map AgentDelivery.key :=
        hkeys ▸ List.mem_map_of_mem hd
      obtain ⟨e, he, hek⟩ := List.mem_map.mp hmem
      have hle := hlog.delivery_le he
      have hsame : e.messageSeq = d.messageSeq := congrArg Prod.fst hek
      have hnext := h.postable.seq
      omega
    · obtain ⟨member, hmember, rfl⟩ := List.mem_map.mp hd
      obtain ⟨hin, hchannel, hmode, haddr⟩ := mem_snapshotMembers.mp hmember
      exact ⟨member, hin, hchannel, hmode, haddr, rfl⟩
  · rintro ⟨member, hin, hchannel, hmode, haddr, rfl⟩
    refine ⟨?_, rfl⟩
    rw [hkept]
    exact List.mem_append_right _
      (List.mem_map.mpr ⟨member, mem_snapshotMembers.mpr ⟨hin, hchannel, hmode, haddr⟩, rfl⟩)

variable [SerdeJson Json] {permits : Action → Prop}

/-- A step keeps the log and may add to it. -/
theorem Effect.messages (h : Effect Json permits s t) : s.messages <+: t.messages := by
  rcases h.log with hquiet | ⟨m, hposts, _⟩
  · exact hquiet.messages ▸ List.prefix_refl _
  · exact hposts.messages ▸ List.prefix_append _ _

/-- A step neither adds nor removes a delivery of a message that is there. -/
theorem Effect.deliveryKeys (h : Effect Json permits s t) (hlog : LogConsistent s)
    (hm : m ∈ s.messages) (agentId : String) :
    (m.seq, agentId) ∈ t.agentDeliveries.map AgentDelivery.key ↔
      (m.seq, agentId) ∈ s.agentDeliveries.map AgentDelivery.key := by
  rcases h.log with hquiet | ⟨n, hposts, _⟩
  · rw [hquiet.deliveries]
  · obtain ⟨kept, hkept, hkeys⟩ := hposts.snapshot
    rw [hkept, List.map_append, List.mem_append, hkeys, or_iff_left]
    intro hnew
    obtain ⟨d, hd, hkey⟩ := List.mem_map.mp hnew
    have hseq : d.messageSeq = m.seq := congrArg Prod.fst hkey
    have hnext := hposts.postable.seq
    have hbound := hlog.messageBound m hm
    rw [(mem_snapshot hd).2] at hseq
    omega

end Step

/-! ## A key that is taken -/

section Reuse

variable [DecidableEq Json] [SerdeJson Json] {s t : Store} {m : MessageRow} {channelId id : String}
  {input : CreateMessage Json} {now : Int} {message : Message Json}

/-- A stored message is found under its sender and key. -/
theorem LogConsistent.messageByKey (hlog : LogConsistent s) (hm : m ∈ s.messages)
    {key : String} (hkey : m.idempotencyKey = some key) :
    Fleetd.messageByKey m.senderId key s.messages = some m := by
  cases hfind : Fleetd.messageByKey m.senderId key s.messages with
  | none =>
    have hno := List.find?_eq_none.mp hfind m hm
    simp [hkey] at hno
  | some n =>
    have hn := List.find?_some hfind
    rw [decide_eq_true_eq] at hn
    rw [hlog.messageKeys n (List.mem_of_find?_eq_some hfind) m hm hn.1 (hn.2.trans hkey.symm)
      (by rw [hn.2]; rfl)]

/-- A request under a key that is taken is compared with the stored message. -/
theorem appendMessageInTransaction_reuse (hlog : LogConsistent s) (hm : m ∈ s.messages)
    (hdecode : messageFromRow m = .ok message) (hsender : m.senderId = input.senderId)
    (hkey : m.idempotencyKey = input.idempotencyKey) (hsome : input.idempotencyKey.isSome = true)
    (hkind : isBlank input.kind = false)
    (hvalid : validateIdempotencyKey input.idempotencyKey = .ok ()) :
    appendMessageInTransaction channelId input id now s =
      if messageMatchesInput message channelId input then .ok (⟨message, false⟩, s)
      else .error (.conflict "idempotency key was already used for a different message") := by
  obtain ⟨key, hinput⟩ := Option.isSome_iff_exists.mp hsome
  have hfind := hlog.messageByKey hm (hkey.trans hinput)
  rw [hsender] at hfind
  rw [hinput] at hvalid
  simp only [appendMessageInTransaction, bind_run, ensure_run, hkind, if_true, hinput, hvalid,
    check_ok_run, read_run, Option.bind_some, hfind, hdecode]
  by_cases hmatch : messageMatchesInput message channelId input = true
  · simp only [hmatch, if_true, pure_run]
  · simp only [if_neg hmatch]

/-- A successful request under a key leaves the message that answers it. -/
theorem appendMessageInTransaction_stored [LawfulSerdeJson Json]
    {result : AppendMessageResult Json} (hsome : input.idempotencyKey.isSome = true)
    (h : appendMessageInTransaction channelId input id now s = .ok (result, t)) :
    isBlank input.kind = false ∧ validateIdempotencyKey input.idempotencyKey = .ok () ∧
      messageMatchesInput result.message channelId input = true ∧
      ∃ m ∈ t.messages, m.senderId = input.senderId ∧ m.idempotencyKey = input.idempotencyKey ∧
        messageFromRow m = .ok result.message := by
  simp only [appendMessageInTransaction, bind_ok, ensure_ok, check_ok, read_ok] at h
  obtain ⟨_, _, ⟨hkind, rfl⟩, _, _, ⟨hvalid, rfl⟩, existing, _, ⟨hexisting, rfl⟩, h⟩ := h
  refine ⟨hkind, hvalid, ?_⟩
  cases existing with
  | some row =>
    simp only [bind_ok, check_ok, ensure_ok, pure_ok] at h
    obtain ⟨_, _, ⟨hdecode, rfl⟩, _, _, ⟨hmatch, rfl⟩, rfl, rfl⟩ := h
    obtain ⟨key, hinput⟩ := Option.isSome_iff_exists.mp hsome
    rw [hinput, Option.bind_some] at hexisting
    have hrow := List.find?_some hexisting
    rw [decide_eq_true_eq] at hrow
    exact ⟨hmatch, row, List.mem_of_find?_eq_some hexisting, hrow.1, hrow.2.trans hinput.symm, hdecode⟩
  | none =>
    simp only [bind_ok, pure_ok] at h
    obtain ⟨_, _, hinsert, rfl, rfl⟩ := h
    obtain ⟨rfl, _, rfl⟩ := insertMessage_ok hinsert
    exact ⟨by simp [messageMatchesInput, CreateMessage.message], _,
      List.mem_append_right _ (List.mem_singleton_self _), rfl, rfl, messageFromRow_row ..⟩

omit [SerdeJson Json] in
/-- A message answers at most one request of its sender and key. -/
theorem messageMatchesInput_unique {channelId' : String} {input' : CreateMessage Json}
    (h : messageMatchesInput message channelId input = true)
    (h' : messageMatchesInput message channelId' input' = true)
    (hkey : input'.idempotencyKey = input.idempotencyKey) :
    (channelId', input') = (channelId, input) := by
  rw [messageMatchesInput, decide_eq_true_eq] at h h'
  obtain ⟨rfl, hs, hr, hk, hp, hcor, hcau⟩ := h
  obtain ⟨rfl, hs', hr', hk', hp', hcor', hcau'⟩ := h'
  cases input
  cases input'
  simp only at *
  subst_vars
  rfl

end Reuse

/-! ## Firings under a taken key -/

section Firing

variable [DecidableEq Json] [SerdeJson Json] [Sha256] {s t : Store} {triggerId messageId : String}
  {occurrence : TriggerOccurrence Json} {messageNow now : Int}

/-- A successful firing passed the checks of its registration and left the message that
answers it. -/
theorem fire_stored [LawfulSerdeJson Json] {fired : TriggerFired}
    (h : fire triggerId occurrence messageId messageNow now s = .ok (fired, t)) :
    validateOccurrence occurrence = .ok () ∧
      ∃ trigger message, s.triggers.find? (fun x => x.id = triggerId) = some trigger ∧
        occurrence.kind ∈ trigger.acceptedKinds ∧ occurrence.recipientId ≠ trigger.senderId ∧
        isBlank occurrence.kind = false ∧
        validateIdempotencyKey (some (durableKey triggerId occurrence.occurrenceId)) = .ok () ∧
        messageMatchesInput message trigger.channelId (occurrenceInput trigger triggerId occurrence) =
          true ∧
        fired = ⟨triggerId, occurrence.occurrenceId, message.id, fired.created⟩ ∧
        ∃ m ∈ t.messages, m.senderId = trigger.senderId ∧
          m.idempotencyKey = some (durableKey triggerId occurrence.occurrenceId) ∧
          messageFromRow m = .ok message := by
  simp only [fire, bind_ok, check_ok, ensure_ok, pure_ok] at h
  obtain ⟨_, _, ⟨hoccurrence, rfl⟩, trigger, _, htrigger, _, _, ⟨_, rfl⟩, _, _, ⟨hkind, rfl⟩, _, _,
    ⟨hpeer, rfl⟩, appended, mid, happend, _, last, hrecord, rfl, rfl⟩ := h
  obtain ⟨rfl, hfind⟩ := triggerInTransaction_ok htrigger
  obtain ⟨hblank, hvalid, hmatch, m, hm, hsender, hkey, hdecode⟩ :=
    appendMessageInTransaction_stored rfl happend
  have hmessages : last.messages = mid.messages := by rw [(recordCreated_registers hrecord).frame]
  refine ⟨hoccurrence, trigger, appended.message, hfind, hkind, hpeer, hblank, hvalid, hmatch, rfl, m,
    ?_, hsender, hkey, hdecode⟩
  rw [hmessages]
  exact hm

/-- A firing of an active trigger under a taken key is compared with the stored message. -/
theorem fire_reuse (hlog : LogConsistent s) {trigger : Trigger} {m : MessageRow}
    {message : Message Json} (hfind : s.triggers.find? (fun x => x.id = triggerId) = some trigger)
    (hactive : trigger.state = .active) (hoccurrence : validateOccurrence occurrence = .ok ())
    (hkind : occurrence.kind ∈ trigger.acceptedKinds)
    (hpeer : occurrence.recipientId ≠ trigger.senderId)
    (hblank : isBlank occurrence.kind = false) (hm : m ∈ s.messages)
    (hdecode : messageFromRow m = .ok message) (hsender : m.senderId = trigger.senderId)
    (hkey : m.idempotencyKey = some (durableKey triggerId occurrence.occurrenceId))
    (hvalid : validateIdempotencyKey (some (durableKey triggerId occurrence.occurrenceId)) = .ok ()) :
    fire triggerId occurrence messageId messageNow now s =
      if messageMatchesInput message trigger.channelId
          (occurrenceInput trigger triggerId occurrence) then
        .ok (⟨triggerId, occurrence.occurrenceId, message.id, false⟩, s)
      else .error (.conflict "idempotency key was already used for a different message") := by
  have htrigger : triggerInTransaction triggerId s = .ok (trigger, s) := by
    simp only [triggerInTransaction, bind_run, read_run, hfind, require_some_run]
  have happend : appendMessageInTransaction trigger.channelId
      (occurrenceInput trigger triggerId occurrence) messageId messageNow s = _ :=
    appendMessageInTransaction_reuse hlog hm hdecode hsender hkey rfl hblank hvalid
  simp only [fire, bind_run, hoccurrence, check_ok_run, htrigger, ensure_run, hactive, if_true,
    if_pos hkind, if_pos hpeer, happend]
  by_cases hmatch : messageMatchesInput message trigger.channelId
      (occurrenceInput trigger triggerId occurrence) = true
  · simp only [if_pos hmatch, recordCreated, Bool.false_eq_true, if_false, pure_run]
  · simp only [if_neg hmatch]

omit [DecidableEq Json] [SerdeJson Json] in
/-- A firing asks for the same append as long as the registration declares the same. -/
theorem Trigger.Keeps.occurrenceInput {trigger trigger' : Trigger} (h : trigger.Keeps trigger') :
    Fleetd.occurrenceInput trigger' triggerId occurrence =
      Fleetd.occurrenceInput trigger triggerId occurrence := by
  unfold Fleetd.occurrenceInput
  rw [h.senderId]

end Firing

/-! ## Whole runs -/

section Runs

variable [DecidableEq Json] [SerdeJson Json] [Sha256] {cs later : List (Command Json)}

/-- A longer run keeps the log in place. -/
theorem run_messages (hle : cs <+: later) (h : Fresh later) :
    (run cs).messages <+: (run later).messages := by
  obtain ⟨ds, rfl⟩ := hle
  exact run_induction_from cs (fun _ (s : Store) => (run cs).messages <+: s.messages)
    (List.prefix_refl _) (fun _ _ _ heff hds => hds.trans heff.messages) h

/-- A longer run keeps the deliveries of the messages that are there. -/
theorem run_deliveryKeys (hle : cs <+: later) (h : Fresh later) {m : MessageRow}
    (hm : m ∈ (run cs).messages) (agentId : String) :
    (m.seq, agentId) ∈ (run later).agentDeliveries.map AgentDelivery.key ↔
      (m.seq, agentId) ∈ (run cs).agentDeliveries.map AgentDelivery.key := by
  obtain ⟨ds, rfl⟩ := hle
  refine run_induction_from cs (fun _ (s : Store) =>
    (m.seq, agentId) ∈ s.agentDeliveries.map AgentDelivery.key ↔
      (m.seq, agentId) ∈ (run cs).agentDeliveries.map AgentDelivery.key) Iff.rfl
    (fun ds _ hfresh heff hds => (heff.deliveryKeys (run_invariant hfresh.left).log ?_ agentId).trans
      hds) h
  exact (run_messages (List.prefix_append cs ds) hfresh.left).subset hm

/-- A message is delivered to agents only that it is for. -/
theorem run_addresses (h : Fresh cs) : ∀ d ∈ (run cs).agentDeliveries, ∀ m ∈ (run cs).messages,
    m.seq = d.messageSeq → m.Addresses d.agentId := by
  refine FreshAlong.induction (fun _ (s : Store) => ∀ d ∈ s.agentDeliveries, ∀ m ∈ s.messages,
    m.seq = d.messageSeq → m.Addresses d.agentId) (fun _ hd => by cases hd)
    (fun ds c hfresh hds d hd m hm hseq => ?_) cs h
  have hinv := run_invariant hfresh.left
  have hchange : Quiet (run ds) (c.step (run ds)) ∨ ∃ n, Posts (run ds) (c.step (run ds)) n := by
    obtain hquiet | ⟨n, hposts, -⟩ := (c.step_effect hinv fun _ htok => hfresh.not_mem htok).log
    · exact .inl hquiet
    · exact .inr ⟨n, hposts⟩
  refine hinv.log.delivered_step (R := MessageRow.Addresses) hds (fun n d hd => ?_) hchange hd hm hseq
  obtain ⟨member, hmember, rfl⟩ := List.mem_map.mp hd
  exact (mem_snapshotMembers.mp hmember).2.2.2

/-- A longer run keeps what the registrations declare. -/
theorem run_triggers (hle : cs <+: later) (h : Fresh later) :
    Extends Trigger.Keeps (run cs).triggers (run later).triggers := by
  obtain ⟨ds, rfl⟩ := hle
  refine run_induction_from cs (fun _ (s : Store) => Extends Trigger.Keeps (run cs).triggers s.triggers)
    (.refl Trigger.Keeps.refl _) (fun _ _ _ heff hds => hds.trans (fun x y z hxy hyz => ?_)
      heff.triggers) h
  exact ⟨hyz.id.trans hxy.id, hyz.channelId.trans hxy.channelId, hyz.senderId.trans hxy.senderId,
    hyz.acceptedKinds.trans hxy.acceptedKinds⟩

/-- What senders and readers can rely on after a run. -/
structure AppendsDurably (cs : List (Command Json)) : Prop where
  keys : ∀ m ∈ (run cs).messages, ∀ n ∈ (run cs).messages, m.senderId = n.senderId →
    m.idempotencyKey = n.idempotencyKey → m.idempotencyKey.isSome = true → m = n
  order : (run cs).messages.Pairwise fun m n => m.seq < n.seq
  immutable : ∀ later, cs <+: later → Fresh later → (run cs).messages <+: (run later).messages
  snapshot : ∀ c, Fresh (cs ++ [c]) → ∀ m ∈ (run (cs ++ [c])).messages, m ∉ (run cs).messages →
    ∀ d, d ∈ (run (cs ++ [c])).agentDeliveries ∧ d.messageSeq = m.seq ↔
      ∃ member ∈ (run cs).channelMembers, member.channelId = m.channelId ∧
        member.deliveryMode = .inbox ∧ m.Addresses member.agentId ∧
        d = pendingDelivery m.seq member.agentId m.createdAtMs
  members : KeyUnique ChannelMember.key (run cs).channelMembers
  single : KeyUnique AgentDelivery.key (run cs).agentDeliveries
  deliveries : ∀ m ∈ (run cs).messages, ∀ later, cs <+: later → Fresh later → ∀ agentId,
    (m.seq, agentId) ∈ (run later).agentDeliveries.map AgentDelivery.key ↔
      (m.seq, agentId) ∈ (run cs).agentDeliveries.map AgentDelivery.key
  repeated : ∀ channelId input id now result t, input.idempotencyKey.isSome = true →
    appendMessageIdempotent channelId input id now (run cs) = .ok (result, t) →
    ∀ later, cs ++ [.appendMessage channelId input id now] <+: later → Fresh later →
    (∀ id' now', appendMessageIdempotent channelId input id' now' (run later) =
      .ok (⟨result.message, false⟩, run later)) ∧
    ∀ channelId' (other : CreateMessage Json) id' now', other.senderId = input.senderId →
      other.idempotencyKey = input.idempotencyKey → (channelId', other) ≠ (channelId, input) →
      isBlank other.kind = false →
      appendMessageIdempotent channelId' other id' now' (run later) =
        .error (.conflict "idempotency key was already used for a different message")
  reused : ∀ m ∈ (run cs).messages, ∀ channelId (input : CreateMessage Json) id now,
    m.senderId = input.senderId → m.idempotencyKey = input.idempotencyKey →
    input.idempotencyKey.isSome = true → isBlank input.kind = false →
    validateIdempotencyKey input.idempotencyKey = .ok () →
    m ≠ input.row channelId m.seq m.id m.createdAtMs →
    appendMessageIdempotent channelId input id now (run cs) =
      .error (.conflict "idempotency key was already used for a different message")
  refired : ∀ triggerId (occurrence : TriggerOccurrence Json) messageId messageNow now fired t,
    fire triggerId occurrence messageId messageNow now (run cs) = .ok (fired, t) →
    ∀ later, cs ++ [.fireTrigger triggerId occurrence messageId messageNow now] <+: later →
    Fresh later → ∀ trigger,
    (run later).triggers.find? (fun x => x.id = triggerId) = some trigger →
    trigger.state = .active →
    (∀ messageId' messageNow' now',
      fire triggerId occurrence messageId' messageNow' now' (run later) =
        .ok ({ fired with created := false }, run later)) ∧
    ∀ (other : TriggerOccurrence Json) messageId' messageNow' now',
      other.occurrenceId = occurrence.occurrenceId → other ≠ occurrence →
      validateOccurrence other = .ok () → other.kind ∈ trigger.acceptedKinds →
      other.recipientId ≠ trigger.senderId → isBlank other.kind = false →
      fire triggerId other messageId' messageNow' now' (run later) =
        .error (.conflict "idempotency key was already used for a different message")

variable [LawfulSerdeJson Json]

omit [Sha256] [DecidableEq Json] in
/-- A message that was printed decodes to the request it is the row of. -/
theorem MessageRow.Printed.request {m : MessageRow} (h : m.Printed Json) :
    ∃ payload : Json, m = CreateMessage.row ⟨m.senderId, m.idempotencyKey, m.recipientId, m.kind,
      payload, m.correlationId, m.causationId⟩ m.channelId m.seq m.id m.createdAtMs := by
  obtain ⟨payload, hprinted⟩ := h
  refine ⟨payload, ?_⟩
  rw [CreateMessage.row, ← hprinted]

/-- A message under the key of a different request makes that request a conflict. -/
theorem appendMessageIdempotent_conflict (h : Fresh cs) {m : MessageRow}
    (hm : m ∈ (run cs).messages) {channelId id : String} {input : CreateMessage Json} {now : Int}
    (hsender : m.senderId = input.senderId) (hkey : m.idempotencyKey = input.idempotencyKey)
    (hsome : input.idempotencyKey.isSome = true) (hkind : isBlank input.kind = false)
    (hvalid : validateIdempotencyKey input.idempotencyKey = .ok ())
    (hne : m ≠ input.row channelId m.seq m.id m.createdAtMs) :
    appendMessageIdempotent channelId input id now (run cs) =
      .error (.conflict "idempotency key was already used for a different message") := by
  obtain ⟨payload, hrow⟩ := (run_printed h m hm).request
  have hdecode : messageFromRow m = .ok (CreateMessage.message ⟨m.senderId, m.idempotencyKey,
      m.recipientId, m.kind, payload, m.correlationId, m.causationId⟩ m.channelId m.seq m.id
      m.createdAtMs) := by
    rw [hrow]
    exact messageFromRow_row ..
  rw [appendMessageIdempotent,
    appendMessageInTransaction_reuse (run_invariant h).log hm hdecode hsender hkey hsome hkind hvalid]
  refine if_neg fun hmatch => hne ?_
  rw [messageMatchesInput, decide_eq_true_eq] at hmatch
  obtain ⟨rfl, _, hrecipient, hsameKind, hpayload, hcorrelation, hcausation⟩ := hmatch
  rw [hrow, CreateMessage.row, CreateMessage.row]
  simp only [CreateMessage.message] at *
  rw [hsender, hkey, hrecipient, hsameKind, hpayload, hcorrelation, hcausation]

/-- After every run with fresh lease tokens the log can be relied on. -/
theorem run_appendsDurably (h : Fresh cs) : AppendsDurably cs where
  keys := (run_invariant h).log.messageKeys
  order := (run_invariant h).log.messageOrder
  immutable _ hle hfresh := run_messages hle hfresh
  snapshot c hfresh m hm hnew := by
    rcases (run_effect hfresh).log with hquiet | ⟨n, hposts, _⟩
    · rw [hquiet.messages] at hm
      exact absurd hm hnew
    · rw [hposts.messages] at hm
      rcases List.mem_append.mp hm with hold | hm
      · exact absurd hold hnew
      · rw [List.mem_singleton.mp hm]
        exact hposts.deliveries (run_invariant h).log
  members := (run_invariant h).log.memberKeys
  single := (run_invariant h).ledger.deliveryKeys
  deliveries _ hm _ hle hfresh := run_deliveryKeys hle hfresh hm
  repeated channelId input id now result t hsome hok later hle hfresh := by
    obtain ⟨hkind, hvalid, hmatch, m, hm, hsender, hkey, hdecode⟩ :=
      appendMessageInTransaction_stored hsome hok
    have hstep : run (cs ++ [.appendMessage channelId input id now]) = t := by
      rw [run_snoc]
      exact commit_of_ok (discard_of_ok hok)
    have hlater : m ∈ (run later).messages := (run_messages hle hfresh).subset (hstep ▸ hm)
    have hlog := (run_invariant hfresh).log
    refine ⟨fun id' now' => ?_, fun channelId' other id' now' hs hk hne hblank => ?_⟩
    · rw [appendMessageIdempotent, appendMessageInTransaction_reuse hlog hlater hdecode hsender hkey
        hsome hkind hvalid]
      exact if_pos hmatch
    · rw [appendMessageIdempotent, appendMessageInTransaction_reuse hlog hlater hdecode
        (hsender.trans hs.symm) (hkey.trans hk.symm) (hk ▸ hsome) hblank (hk ▸ hvalid)]
      exact if_neg fun hother => hne (messageMatchesInput_unique hmatch hother hk)
  reused _ hm _ _ _ _ hsender hkey hsome hkind hvalid hne :=
    appendMessageIdempotent_conflict h hm hsender hkey hsome hkind hvalid hne
  refired triggerId occurrence messageId messageNow now fired t hok later hle hfresh trigger hfind
      hactive := by
    obtain ⟨hoccurrence, first, message, hfirst, hkind, hpeer, hblank, hvalid, hmatch, hfired, m, hm,
      hsender, hkey, hdecode⟩ := fire_stored hok
    have hstep : run (cs ++ [.fireTrigger triggerId occurrence messageId messageNow now]) = t := by
      rw [run_snoc]
      exact commit_of_ok (discard_of_ok hok)
    have hlater : m ∈ (run later).messages := (run_messages hle hfresh).subset (hstep ▸ hm)
    have hlog := (run_invariant hfresh).log
    -- the registration still declares what it declared at the first firing
    obtain ⟨found, hfound, hkeeps⟩ :=
      (run_triggers ((List.prefix_append cs _).trans hle) hfresh).find?
        (p := fun x => x.id = triggerId) (fun x y hxy => by rw [hxy.id]) hfirst
    obtain rfl : found = trigger := Option.some.inj (hfound.symm.trans hfind)
    rw [← hkeeps.senderId] at hsender
    refine ⟨fun _ _ _ => ?_, fun other _ _ _ hid hne ho hok hop hob => ?_⟩
    · rw [fire_reuse hlog hfind hactive hoccurrence (hkeeps.acceptedKinds ▸ hkind)
        (hkeeps.senderId ▸ hpeer) hblank hlater hdecode hsender hkey hvalid, hkeeps.occurrenceInput,
        hkeeps.channelId, if_pos hmatch, hfired]
    · rw [fire_reuse hlog hfind hactive ho hok hop hob hlater hdecode hsender (hid ▸ hkey)
        (hid ▸ hvalid), hkeeps.occurrenceInput, hkeeps.channelId]
      obtain ⟨occurrenceId, recipientId, kind, payload⟩ := occurrence
      refine if_neg fun hother => hne ?_
      have hsame := congrArg Prod.snd
        (messageMatchesInput_unique hmatch hother (by rw [occurrenceInput, hid]; rfl))
      have hrecipient : other.recipientId = recipientId :=
        Option.some.inj (congrArg CreateMessage.recipientId hsame)
      have hotherKind : other.kind = kind := congrArg CreateMessage.kind hsame
      have hpayload : other.payload = payload := congrArg CreateMessage.payload hsame
      have hotherId : other.occurrenceId = occurrenceId := hid
      rw [← hotherId, ← hrecipient, ← hotherKind, ← hpayload]

end Runs

/-- The log of the sample can be relied on. -/
theorem run_appendsDurably_sampleSetup : Fresh sampleSetup ∧ AppendsDurably sampleSetup :=
  ⟨by decide, run_appendsDurably (by decide)⟩

/-- A trigger fires once and is then retired. -/
def retiredTriggerRun : List (Command Bool) := sampleSetup ++ [
  .registerTrigger "t" ⟨"hook", "c", "a", ["work"]⟩ 4,
  .fireTrigger "t" ⟨"o", "b", "work", true⟩ "n" 5 5,
  .retireTrigger "t" "done" 6]

set_option maxRecDepth 100000 in
/-- A request that reuses a key with a blank kind is invalid and not a conflict, and a firing
that is repeated after its trigger was retired is not answered with the stored message. -/
theorem append_refused_retiredTriggerRun :
    Fresh retiredTriggerRun ∧
      (∃ m ∈ (run retiredTriggerRun).messages, m.senderId = "a" ∧ m.idempotencyKey = some "k" ∧
        m.kind ≠ " ") ∧
      appendMessageIdempotent "c" ⟨"a", some "k", some "b", " ", true, some "corr", none⟩ "x" 7
        (run retiredTriggerRun) = .error (.invalid "message kind must not be empty") ∧
      (∃ m ∈ (run retiredTriggerRun).messages,
        m.idempotencyKey = some (durableKey "t" "o") ∧ m.id = "n") ∧
      fire "t" ⟨"o", "b", "work", true⟩ "x" 7 7 (run retiredTriggerRun) =
        .error (.conflict "trigger t is retired and may not create work") := by
  refine ⟨by decide, ?_, ?_, ?_, ?_⟩ <;> decide +kernel

end Fleetd
