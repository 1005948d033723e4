import Fleetd.Refinement.Statements

/-!
# Appends are moves

The message log and the membership table behind it. An append adds one message and, in the
same step, one pending delivery for each member of the snapshot. The invariant of the log
is what makes those deliveries new rows: no delivery is about a message that does not exist
yet, and a channel names an agent at most once.
-/

namespace Fleetd

open Relational Relational.Transaction

variable {Json : Type} {s t : Store}

/-- The primary key of a membership. -/
def ChannelMember.key (m : ChannelMember) : String × String := (m.channelId, m.agentId)

/-- The log is ordered and every row that refers to it refers to something in it. -/
structure LogConsistent (s : Store) : Prop where
  memberKeys : KeyUnique ChannelMember.key s.channelMembers
  memberChannel : ∀ m ∈ s.channelMembers, m.channelId ∈ s.channels.map Channel.id
  messageOrder : s.messages.Pairwise fun m n => m.seq < n.seq
  messageBound : ∀ m ∈ s.messages, m.seq ≤ s.messageSequence
  messageIds : KeyUnique MessageRow.id s.messages
  messageKeys : ∀ m ∈ s.messages, ∀ n ∈ s.messages, m.senderId = n.senderId →
    m.idempotencyKey = n.idempotencyKey → m.idempotencyKey.isSome = true → m = n
  deliveryMessage : ∀ d ∈ s.agentDeliveries, d.messageSeq ∈ s.messages.map MessageRow.seq

/-- Sequence numbers identify messages. -/
theorem LogConsistent.messageSeqs (h : LogConsistent s) : KeyUnique MessageRow.seq s.messages := by
  rw [KeyUnique, List.nodup_iff_pairwise_ne, List.pairwise_map]
  exact h.messageOrder.imp fun hlt => Nat.ne_of_lt hlt

/-- No delivery is about a message that does not exist yet. -/
theorem LogConsistent.delivery_le (h : LogConsistent s) {d : AgentDelivery}
    (hd : d ∈ s.agentDeliveries) : d.messageSeq ≤ s.messageSequence := by
  obtain ⟨m, hm, hseq⟩ := List.mem_map.mp (h.deliveryMessage d hd)
  exact hseq ▸ h.messageBound m hm

/-! ## One append -/

/-- The stored row of a request. -/
def CreateMessage.row [SerdeJson Json] (input : CreateMessage Json) (channelId : String)
    (seq : Nat) (id : String) (createdAtMs : Int) : MessageRow where
  seq := seq
  id := id
  channelId := channelId
  senderId := input.senderId
  idempotencyKey := input.idempotencyKey
  recipientId := input.recipientId
  kind := input.kind
  payloadJson := SerdeJson.toString input.payload
  correlationId := input.correlationId
  causationId := input.causationId
  createdAtMs := createdAtMs

/-- The message a request returns. -/
def CreateMessage.message (input : CreateMessage Json) (channelId : String) (seq : Nat)
    (id : String) (createdAtMs : Int) : Message Json where
  seq := seq
  id := id
  channelId := channelId
  senderId := input.senderId
  recipientId := input.recipientId
  kind := input.kind
  payload := input.payload
  correlationId := input.correlationId
  causationId := input.causationId
  createdAtMs := createdAtMs

/-- The stored payload is the text that the library prints for some value. -/
def MessageRow.Printed (Json : Type) [SerdeJson Json] (m : MessageRow) : Prop :=
  ∃ payload : Json, m.payloadJson = SerdeJson.toString payload

/-- A stored message decodes. -/
theorem MessageRow.Printed.decode [SerdeJson Json] [LawfulSerdeJson Json] {m : MessageRow}
    (h : m.Printed Json) : ∃ message : Message Json, messageFromRow m = .ok message := by
  obtain ⟨payload, hpayload⟩ := h
  rw [messageFromRow, hpayload, LawfulSerdeJson.fromStr_toString]
  exact ⟨_, rfl⟩

/-- What is stored for a request decodes to what the request returned. -/
theorem messageFromRow_row [SerdeJson Json] [LawfulSerdeJson Json] (input : CreateMessage Json)
    (channelId : String) (seq : Nat) (id : String) (createdAtMs : Int) :
    messageFromRow (input.row channelId seq id createdAtMs) =
      .ok (input.message channelId seq id createdAtMs) := by
  rw [messageFromRow, CreateMessage.row, LawfulSerdeJson.fromStr_toString]
  rfl

/-- The deliveries of a new message. -/
def MessageRow.snapshot (m : MessageRow) (members : List ChannelMember) : List AgentDelivery :=
  (snapshotMembers m.channelId m.senderId m.recipientId members).map
    fun member => pendingDelivery m.seq member.agentId m.createdAtMs

/-- The database after one append. -/
def postedStore (s : Store) (m : MessageRow) : Store :=
  { s with
    messageSequence := s.messageSequence + 1
    messages := s.messages ++ [m]
    agentDeliveries := s.agentDeliveries ++ m.snapshot s.channelMembers }

/-- The log may take a row: it is the next one and repeats no identifier and no key. -/
structure Postable (s : Store) (m : MessageRow) : Prop where
  seq : m.seq = s.messageSequence + 1
  id : ∀ n ∈ s.messages, n.id ≠ m.id
  key : m.idempotencyKey = none ∨
    ∀ n ∈ s.messages, ¬ (n.senderId = m.senderId ∧ n.idempotencyKey = m.idempotencyKey)

theorem channelRow_ok {channelId : String} {channel : Channel}
    (h : channelRow channelId s = .ok (channel, t)) :
    s = t ∧ channel ∈ s.channels ∧ channel.id = channelId := by
  simp only [channelRow, bind_ok, read_ok, require_ok] at h
  obtain ⟨_, _, ⟨rfl, rfl⟩, hfind, rfl⟩ := h
  exact ⟨rfl, List.mem_of_find?_eq_some hfind, by simpa using List.find?_some hfind⟩

theorem ensureMember_ok {channelId agentId : String} {u : Unit}
    (h : ensureMember channelId agentId s = .ok (u, t)) : s = t := by
  simp only [ensureMember, bind_ok, read_ok, ensure_ok] at h
  obtain ⟨_, _, ⟨_, rfl⟩, _, rfl⟩ := h
  rfl

theorem ensureRecipient_ok {channelId : String} {recipientId : Option String} {u : Unit}
    (h : ensureRecipient channelId recipientId s = .ok (u, t)) : s = t := by
  cases recipientId with
  | none => exact (pure_ok.mp h).2
  | some recipient => exact ensureMember_ok h

/-- An insert appends the requested row with its snapshot. -/
theorem insertMessage_ok [SerdeJson Json] {channelId id : String} {input : CreateMessage Json}
    {createdAtMs : Int} {result : Message Json}
    (h : insertMessage channelId input id createdAtMs s = .ok (result, t)) :
    result = input.message channelId (s.messageSequence + 1) id createdAtMs ∧
      Postable s (input.row channelId (s.messageSequence + 1) id createdAtMs) ∧
      t = postedStore s (input.row channelId (s.messageSequence + 1) id createdAtMs) := by
  simp only [insertMessage, bind_ok, ensure_ok] at h
  obtain ⟨_, _, hchannel, _, _, ⟨_, rfl⟩, _, _, hmember, _, _, hrecipient, h⟩ := h
  obtain ⟨rfl, _⟩ := channelRow_ok hchannel
  obtain rfl := ensureMember_ok hmember
  obtain rfl := ensureRecipient_ok hrecipient
  simp only [read_ok, write_ok, pure_ok, insertDeliverySnapshot, Prod.mk.injEq] at h
  obtain ⟨_, _, ⟨rfl, rfl⟩, _, _, ⟨hid, rfl⟩, _, _, ⟨hkey, rfl⟩, _, _, ⟨rfl, rfl⟩, _, _,
    ⟨_, rfl⟩, rfl, rfl⟩ := h
  exact ⟨rfl, ⟨rfl, hid, hkey⟩, rfl⟩

/-- Repeating an append changes nothing; a new one posts its row. -/
theorem appendMessageInTransaction_ok [DecidableEq Json] [SerdeJson Json] {channelId id : String}
    {input : CreateMessage Json} {createdAtMs : Int} {result : AppendMessageResult Json}
    (h : appendMessageInTransaction channelId input id createdAtMs s = .ok (result, t)) :
    (result.created = false ∧ t = s) ∨
      (result.created = true ∧
        Postable s (input.row channelId (s.messageSequence + 1) id createdAtMs) ∧
        t = postedStore s (input.row channelId (s.messageSequence + 1) id createdAtMs)) := by
  simp only [appendMessageInTransaction, bind_ok, ensure_ok, check_ok, read_ok] at h
  obtain ⟨_, _, ⟨_, rfl⟩, _, _, ⟨_, rfl⟩, existing, _, ⟨_, rfl⟩, h⟩ := h
  cases existing with
  | some row =>
    simp only [bind_ok, check_ok, ensure_ok, pure_ok] at h
    obtain ⟨_, _, ⟨_, rfl⟩, _, _, ⟨_, rfl⟩, rfl, rfl⟩ := h
    exact .inl ⟨rfl, rfl⟩
  | none =>
    simp only [bind_ok, pure_ok] at h
    obtain ⟨_, _, hinsert, rfl, rfl⟩ := h
    obtain ⟨_, hpost, rfl⟩ := insertMessage_ok hinsert
    exact .inr ⟨rfl, hpost, rfl⟩

/-! ## The invariant of the log -/

/-- The snapshot has one row for each of its members. -/
theorem snapshot_keys (hc : LogConsistent s) (m : MessageRow) :
    KeyUnique AgentDelivery.key (m.snapshot s.channelMembers) := by
  have hchannel : ∀ x ∈ snapshotMembers m.channelId m.senderId m.recipientId s.channelMembers,
      x ∈ s.channelMembers ∧ x.channelId = m.channelId := by
    intro x hx
    unfold snapshotMembers at hx
    cases hr : m.recipientId <;> rw [hr] at hx <;>
      (rw [List.mem_filter, decide_eq_true_eq] at hx; exact ⟨hx.1, hx.2.1⟩)
  have hnodup : (snapshotMembers m.channelId m.senderId m.recipientId s.channelMembers).Nodup := by
    unfold snapshotMembers
    cases m.recipientId <;> exact (hc.memberKeys.of_map).filter _
  rw [KeyUnique, MessageRow.snapshot, List.map_map]
  refine List.Nodup.map_on (fun x hx y hy hxy => ?_) hnodup
  obtain ⟨hxm, hxc⟩ := hchannel x hx
  obtain ⟨hym, hyc⟩ := hchannel y hy
  exact hc.memberKeys.eq hxm hym (Prod.ext (hxc.trans hyc.symm) (Prod.ext_iff.mp hxy).2)

/-- Every row of a snapshot is a pending delivery of its message. -/
theorem mem_snapshot {m : MessageRow} {members : List ChannelMember} {d : AgentDelivery}
    (hd : d ∈ m.snapshot members) : d.state = .pending ∧ d.messageSeq = m.seq := by
  obtain ⟨x, _, rfl⟩ := List.mem_map.mp hd
  exact ⟨rfl, rfl⟩

/-- An append is a move of the ledger. -/
theorem Postable.move (hc : LogConsistent s) {m : MessageRow} (hm : Postable s m) :
    Move (.deliver m.seq) s.toLedger (postedStore s m).toLedger := by
  refine .deliver m.seq (m.snapshot s.channelMembers) (snapshot_keys hc m)
    (fun d hd => (mem_snapshot hd).1) (fun d hd => (mem_snapshot hd).2) fun e he => ?_
  have hle := hc.delivery_le he
  rw [hm.seq]
  omega

/-- What an append leaves in the log, whatever else its transaction does to the ledger. -/
structure Posts (s t : Store) (m : MessageRow) : Prop where
  postable : Postable s m
  messages : t.messages = s.messages ++ [m]
  sequence : t.messageSequence = s.messageSequence + 1
  members : t.channelMembers = s.channelMembers
  channels : t.channels = s.channels
  snapshot : ∃ kept, t.agentDeliveries = kept ++ m.snapshot s.channelMembers ∧
    kept.map AgentDelivery.key = s.agentDeliveries.map AgentDelivery.key

/-- A transaction that appends nothing and names no new delivery. -/
structure Quiet (s t : Store) : Prop where
  messages : t.messages = s.messages
  sequence : t.messageSequence = s.messageSequence
  deliveries : t.agentDeliveries.map AgentDelivery.key = s.agentDeliveries.map AgentDelivery.key

/-- A transaction that leaves the directory alone too. -/
structure Settles (s t : Store) : Prop extends Quiet s t where
  members : t.channelMembers = s.channelMembers
  channels : t.channels = s.channels

/-- The append by itself. -/
theorem Postable.posts {m : MessageRow} (hm : Postable s m) : Posts s (postedStore s m) m :=
  ⟨hm, rfl, rfl, rfl, rfl, s.agentDeliveries, rfl, rfl⟩

/-- The log after a transaction that appended nothing. -/
theorem LogConsistent.quiet (h : LogConsistent s) (hq : Quiet s t)
    (hkeys : KeyUnique ChannelMember.key t.channelMembers)
    (hchannel : ∀ m ∈ t.channelMembers, m.channelId ∈ t.channels.map Channel.id) :
    LogConsistent t where
  memberKeys := hkeys
  memberChannel := hchannel
  messageOrder := hq.messages ▸ h.messageOrder
  messageBound := by rw [hq.messages, hq.sequence]; exact h.messageBound
  messageIds := hq.messages ▸ h.messageIds
  messageKeys := by rw [hq.messages]; exact h.messageKeys
  deliveryMessage d hd := by
    have hk : d.key ∈ s.agentDeliveries.map AgentDelivery.key :=
      hq.deliveries ▸ List.mem_map_of_mem hd
    obtain ⟨e, he, hek⟩ := List.mem_map.mp hk
    rw [hq.messages, show d.messageSeq = e.messageSeq from (congrArg Prod.fst hek).symm]
    exact h.deliveryMessage e he

/-- The log after a transaction that left it and the directory alone. -/
theorem LogConsistent.settles (h : LogConsistent s) (hs : Settles s t) : LogConsistent t := by
  refine h.quiet hs.toQuiet (by rw [hs.members]; exact h.memberKeys) fun m hm => ?_
  rw [hs.members] at hm
  rw [hs.channels]
  exact h.memberChannel m hm

/-- The log after an append. -/
theorem LogConsistent.posts (h : LogConsistent s) {m : MessageRow} (hp : Posts s t m) :
    LogConsistent t where
  memberKeys := by rw [hp.members]; exact h.memberKeys
  memberChannel := by rw [hp.members, hp.channels]; exact h.memberChannel
  messageOrder := by
    rw [hp.messages, List.pairwise_append]
    refine ⟨h.messageOrder, List.pairwise_singleton _ _, fun n hn k hk => ?_⟩
    rw [List.mem_singleton.mp hk, hp.postable.seq]
    exact Nat.lt_succ_of_le (h.messageBound n hn)
  messageBound n hn := by
    rw [hp.messages] at hn
    rw [hp.sequence]
    rcases List.mem_append.mp hn with hn | hn
    · exact Nat.le_succ_of_le (h.messageBound n hn)
    · rw [List.mem_singleton.mp hn, hp.postable.seq]
  messageIds := by
    rw [hp.messages]
    refine h.messageIds.append (.singleton _ _) fun n hn k hk => ?_
    rw [List.mem_singleton.mp hk]
    exact hp.postable.id n hn
  messageKeys n hn k hk hsender hkey hsome := by
    rw [hp.messages] at hn hk
    -- the new row repeats no key, so two rows with one key are both old or both new
    have hnew : ∀ x ∈ s.messages, x.senderId = m.senderId →
        x.idempotencyKey = m.idempotencyKey → x.idempotencyKey.isSome = true → False := by
      intro x hx hxs hxk hxsome
      rcases hp.postable.key with hnone | hfresh
      · rw [hxk, hnone] at hxsome
        cases hxsome
      · exact hfresh x hx ⟨hxs, hxk⟩
    rcases List.mem_append.mp hn with hn | hn <;> rcases List.mem_append.mp hk with hk | hk
    · exact h.messageKeys n hn k hk hsender hkey hsome
    · rw [List.mem_singleton.mp hk] at hsender hkey
      exact (hnew n hn hsender hkey hsome).elim
    · rw [List.mem_singleton.mp hn] at hsender hkey hsome
      exact (hnew k hk hsender.symm hkey.symm (hkey ▸ hsome)).elim
    · rw [List.mem_singleton.mp hn, List.mem_singleton.mp hk]
  deliveryMessage d hd := by
    obtain ⟨kept, hkept, hkeys⟩ := hp.snapshot
    rw [hkept] at hd
    rw [hp.messages, List.map_append]
    rcases List.mem_append.mp hd with hd | hd
    · have hk : d.key ∈ s.agentDeliveries.map AgentDelivery.key :=
        hkeys ▸ List.mem_map_of_mem hd
      obtain ⟨e, he, hek⟩ := List.mem_map.mp hk
      rw [show d.messageSeq = e.messageSeq from (congrArg Prod.fst hek).symm]
      exact List.mem_append_left _ (h.deliveryMessage e he)
    · rw [(mem_snapshot hd).2]
      exact List.mem_append_right _ (List.mem_singleton_self _)

/-- What holds between every message and the agents it is delivered to stays true while the log is
quiet and when a message is posted for whose snapshot it holds. -/
theorem LogConsistent.delivered_step (hlog : LogConsistent s) {R : MessageRow → String → Prop}
    (hold : ∀ d ∈ s.agentDeliveries, ∀ m ∈ s.messages, m.seq = d.messageSeq → R m d.agentId)
    (hnew : ∀ n : MessageRow, ∀ d ∈ n.snapshot s.channelMembers, R n d.agentId)
    (hchange : Quiet s t ∨ ∃ n, Posts s t n) {d : AgentDelivery} (hd : d ∈ t.agentDeliveries)
    {m : MessageRow} (hm : m ∈ t.messages) (hseq : m.seq = d.messageSeq) : R m d.agentId := by
  have hkept : d.key ∈ s.agentDeliveries.map AgentDelivery.key → m ∈ s.messages → R m d.agentId := by
    intro hkey hm
    obtain ⟨e, he, hek⟩ := List.mem_map.mp hkey
    obtain ⟨heq, hagent⟩ := Prod.mk.inj hek
    rw [← hagent]
    exact hold e he m hm (hseq.trans heq.symm)
  obtain hquiet | ⟨n, hposts⟩ := hchange
  · rw [hquiet.messages] at hm
    exact hkept (hquiet.deliveries ▸ List.mem_map_of_mem hd) hm
  · obtain ⟨kept, hrows, hkeys⟩ := hposts.snapshot
    have hnext : n.seq = s.messageSequence + 1 := hposts.postable.seq
    rw [hposts.messages, List.mem_append, List.mem_singleton] at hm
    rw [hrows, List.mem_append] at hd
    obtain hd | hd := hd
    · have hkey : d.key ∈ s.agentDeliveries.map AgentDelivery.key := hkeys ▸ List.mem_map_of_mem hd
      obtain hm | rfl := hm
      · exact hkept hkey hm
      · -- an older delivery is not about the new message
        obtain ⟨e, he, hek⟩ := List.mem_map.mp hkey
        have hle := hlog.delivery_le he
        have heq : e.messageSeq = d.messageSeq := congrArg Prod.fst hek
        omega
    · have hdseq := (mem_snapshot hd).2
      obtain hm | rfl := hm
      · have hle := hlog.messageBound m hm
        omega
      · exact hnew m d hd

end Fleetd
