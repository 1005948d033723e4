import Fleetd.Client.Attention
import Fleetd.Conversation.Attention
import Fleetd.Guarantees.ChannelStream
import Fleetd.System.Directory

/-!
# Read cursors and attention

Every cursor stands at nothing or at a committed message of its channel, and only moves forward.
The attention of a participant has one row for each membership, which counts what is behind the
cursor, and the client accepts all of it.
-/

namespace Fleetd

open Relational Relational.Transaction
open Serde (Value)

variable {Json : Type} {s t : Store}

/-! ## Cursors -/

/-- A cursor at nothing, or at a committed message of its channel. -/
def CursorCommitted (messages : List MessageRow) (member : ChannelMember) : Prop :=
  member.readThroughSeq = 0 ∨
    ∃ m ∈ messages, m.channelId = member.channelId ∧ m.seq = member.readThroughSeq

/-- The end of a channel is nothing, or a committed message of it. -/
theorem latestSeq_committed (channelId : String) (messages : List MessageRow) :
    latestSeq channelId messages = 0 ∨
      ∃ m ∈ messages, m.channelId = channelId ∧ m.seq = latestSeq channelId messages := by
  have hfold : ∀ (seqs : List Nat) (first : Nat),
      seqs.foldl max first = first ∨ seqs.foldl max first ∈ seqs := by
    intro seqs
    induction seqs with
    | nil => exact fun _ => .inl rfl
    | cons seq seqs ih =>
      intro first
      rw [List.foldl_cons]
      obtain hsame | hmem := ih (max first seq)
      · obtain hmax | hmax := Nat.le_total first seq
        · rw [Nat.max_eq_right hmax] at hsame ⊢
          right
          rw [hsame]
          exact List.mem_cons_self
        · rw [Nat.max_eq_left hmax] at hsame ⊢
          exact .inl hsame
      · exact .inr (List.mem_cons_of_mem _ hmem)
  obtain hzero | hmem := hfold ((messages.filter fun m => m.channelId = channelId).map (·.seq)) 0
  · exact .inl hzero
  · obtain ⟨m, hm, hseq⟩ := List.mem_map.1 hmem
    rw [List.mem_filter, decide_eq_true_eq] at hm
    exact .inr ⟨m, hm.1, hm.2, hseq⟩

/-- A cursor stays at a committed message. -/
theorem CursorCommitted.mono {messages messages' : List MessageRow} {member : ChannelMember}
    (h : CursorCommitted messages member) (hle : messages ⊆ messages') :
    CursorCommitted messages' member := by
  obtain hzero | ⟨m, hm, hfacts⟩ := h
  · exact .inl hzero
  · exact .inr ⟨m, hle hm, hfacts⟩

/-- A committed cursor is not past the end of its channel. -/
theorem CursorCommitted.le_latest {messages : List MessageRow} {member : ChannelMember}
    (h : CursorCommitted messages member) :
    member.readThroughSeq ≤ latestSeq member.channelId messages := by
  obtain hzero | ⟨m, hm, hchannel, hseq⟩ := h
  · omega
  · rw [← hseq]
    exact latestSeq_le.mp le_rfl m hm hchannel

/-- A step keeps the cursors committed. -/
theorem Seats.committed (h : Seats s t) (hmessages : s.messages ⊆ t.messages)
    (hs : ∀ member ∈ s.channelMembers, CursorCommitted s.messages member) :
    ∀ member ∈ t.channelMembers, CursorCommitted t.messages member := by
  intro member hmember
  cases h with
  | same members =>
    rw [members] at hmember
    exact (hs member hmember).mono hmessages
  | joined rows messages members cursors =>
    rw [members, List.mem_append] at hmember
    obtain hold | hnew := hmember
    · exact (hs member hold).mono hmessages
    · refine CursorCommitted.mono ?_ hmessages
      obtain hzero | hlatest := cursors member hnew
      · exact .inl hzero
      · rw [CursorCommitted, hlatest]
        exact latestSeq_committed member.channelId s.messages
  | advanced channelId agentId throughSeq messages committed members =>
    rw [members] at hmember
    obtain ⟨before, hbefore, rfl⟩ := mem_updateWhere.mp hmember
    split
    · rename_i hselected
      rw [decide_eq_true_eq] at hselected
      refine CursorCommitted.mono ?_ hmessages
      obtain hzero | ⟨m, hm, hchannel, hseq⟩ := committed
      · exact .inl hzero
      · exact .inr ⟨m, hm, hchannel.trans hselected.1.symm, hseq⟩
    · exact (hs before hbefore).mono hmessages

/-- A step keeps every membership, and its cursor does not move back. -/
theorem Seats.forward (h : Seats s t) {member : ChannelMember} (hmember : member ∈ s.channelMembers) :
    ∃ later ∈ t.channelMembers, later.key = member.key ∧
      member.readThroughSeq ≤ later.readThroughSeq := by
  cases h with
  | same members => exact ⟨member, members ▸ hmember, rfl, Nat.le_refl _⟩
  | joined rows messages members cursors =>
    exact ⟨member, members ▸ List.mem_append_left _ hmember, rfl, Nat.le_refl _⟩
  | advanced channelId agentId throughSeq messages committed members =>
    rw [members]
    by_cases hselected : member.channelId = channelId ∧ member.agentId = agentId ∧
        member.readThroughSeq < throughSeq
    · exact ⟨_, mem_updateWhere_of_pos hmember (decide_eq_true hselected), rfl,
        Nat.le_of_lt hselected.2.2⟩
    · exact ⟨member, mem_updateWhere_of_neg hmember (decide_eq_false hselected), rfl, Nat.le_refl _⟩

section Runs
variable [DecidableEq Json] [SerdeJson Json] [Sha256] {cs ds : List (Command Json)}

/-- Every cursor of a run is committed. -/
theorem run_cursorCommitted (h : Fresh cs) :
    ∀ member ∈ (run cs).channelMembers, CursorCommitted (run cs).messages member := by
  refine run_induction (fun cs _ => ∀ member ∈ (run cs).channelMembers,
    CursorCommitted (run cs).messages member) (fun _ hm => by cases hm) (fun cs c hfresh heff hs => ?_) h
  rw [← run_snoc] at heff
  exact (run_seats hfresh).committed heff.messages.subset hs

/-- A membership is kept along a run, and its cursor does not move back. -/
theorem run_cursorForward (h : Fresh (cs ++ ds)) {member : ChannelMember}
    (hmember : member ∈ (run cs).channelMembers) :
    ∃ later ∈ (run (cs ++ ds)).channelMembers, later.key = member.key ∧
      member.readThroughSeq ≤ later.readThroughSeq := by
  refine run_induction_from cs (fun ds _ => ∃ later ∈ (run (cs ++ ds)).channelMembers,
    later.key = member.key ∧ member.readThroughSeq ≤ later.readThroughSeq)
    ⟨member, by rw [List.append_nil]; exact hmember, rfl, Nat.le_refl _⟩
    (fun ds c hfresh _ hds => ?_) h
  obtain ⟨later, hlater, hkey, hle⟩ := hds
  obtain ⟨last, hlast, hlastKey, hlastLe⟩ := (run_seats hfresh).forward hlater
  rw [← List.append_assoc]
  exact ⟨last, hlast, hlastKey.trans hkey, hle.trans hlastLe⟩

end Runs

/-! ## Rows -/

/-- The rows of the query are those of the selected memberships. -/
theorem attentionSelect_perm (keep : ChannelMember → Bool) (s : Store)
    (hunique : KeyUnique (fun cm : ChannelMember => (cm.channelId, cm.readThroughSeq))
      (s.channelMembers.filter keep)) :
    (attentionSelect keep s).Perm ((s.channelMembers.filter keep).map fun cm =>
      attentionRow ((cm.channelId, cm.readThroughSeq),
        joined (fun (cm : ChannelMember) (m : MessageRow) => decide (m.channelId = cm.channelId))
          s.messages cm)) := by
  rw [attentionSelect, filter_leftJoin]
  have hrows := (groupRows_leftJoin hunique (fun (cm : ChannelMember) (m : MessageRow) =>
    decide (m.channelId = cm.channelId)) s.messages).map attentionRow
  rw [List.map_map] at hrows
  exact hrows

/-- The messages that a condition selects, with their sequences. -/
theorem filterMap_seq (p : MessageRow → Bool) (messages : List MessageRow) :
    messages.filterMap (fun m => if p m = true then some m.seq else none) =
      (messages.filter p).map (·.seq) := by
  induction messages with
  | nil => rfl
  | cons m messages ih =>
    rw [List.filterMap_cons, List.filter_cons]
    split
    · rename_i hnone
      rw [if_neg (by simpa using hnone), ih]
    · rename_i seq hsome
      by_cases hp : p m = true
      · rw [if_pos hp] at hsome ⊢
        cases hsome
        rw [ih, List.map_cons]
      · rw [if_neg hp] at hsome
        cases hsome

/-- The row of a membership sums up what is visible to it. -/
theorem attentionRow_summarizes (messages : List MessageRow) (member : ChannelMember) :
    Summarizes messages member (attentionRow ((member.channelId, member.readThroughSeq),
      joined (fun (cm : ChannelMember) (m : MessageRow) => decide (m.channelId = cm.channelId))
        messages member)).2 := by
  have hmin : ∀ p : ChannelMember → MessageRow → Bool, IsFirst
      ((visibleMessages member messages).filter (p member)) (minSeq p (joined
        (fun (cm : ChannelMember) (m : MessageRow) => decide (m.channelId = cm.channelId))
        messages member)) := by
    intro p
    rw [minSeq, filterMap_joined_bind fun cm m => if p cm m = true then some m.seq else none,
      filterMap_seq]
    exact isFirst_min _
  have hmax : ((joined (fun (cm : ChannelMember) (m : MessageRow) => decide (m.channelId = cm.channelId))
      messages member).filterMap fun row => row.2.map (·.seq)) =
      (visibleMessages member messages).map (·.seq) := by
    rw [← List.map_filterMap, filterMap_joined, visibleMessages]
  have hcount : ∀ p : ChannelMember → MessageRow → Bool, (joined (fun (cm : ChannelMember)
      (m : MessageRow) => decide (m.channelId = cm.channelId)) messages member).countP (rowIs p) =
      ((visibleMessages member messages).filter (p member)).length := fun p => countP_joined p
  refine ⟨rfl, rfl, ?_, ?_, hmin isUnread, ?_, hmin isAddressedUnread⟩
  · rw [attentionRow, hmax]
    exact isLatest_max _
  · exact hcount isUnread
  · exact hcount isAddressedUnread

/-! ## What the client checks -/

/-- Messages between two sequences, in order, are no more than the numbers between them. -/
theorem length_le_of_between {messages : List MessageRow} {low high : Nat}
    (horder : messages.Pairwise fun m n => m.seq < n.seq)
    (hbetween : ∀ m ∈ messages, low < m.seq ∧ m.seq ≤ high) : messages.length ≤ high - low := by
  induction messages generalizing low with
  | nil => exact Nat.zero_le _
  | cons m messages ih =>
    rw [List.pairwise_cons] at horder
    have hm := hbetween m List.mem_cons_self
    have htail := ih horder.2 fun n hn =>
      ⟨horder.1 n hn, (hbetween n (List.mem_cons_of_mem m hn)).2⟩
    rw [List.length_cons]
    omega

section Client
open Client
variable {messages : List MessageRow} {member : ChannelMember} {row : ConversationAttention}

/-- The unread messages of a member stand between its cursor and the end of the channel. -/
theorem unread_between {latest : Nat} (hlatest : IsLatest (visibleMessages member messages) (some latest))
    {m : MessageRow} (hm : m ∈ (visibleMessages member messages).filter (isUnread member)) :
    member.readThroughSeq < m.seq ∧ m.seq ≤ latest := by
  rw [List.mem_filter, isUnread, Bool.and_eq_true, decide_eq_true_eq] at hm
  exact ⟨hm.2.1, hlatest.2 ⟨m, hm.1, rfl⟩⟩

/-- What is addressed to a member and unread is unread. -/
theorem addressed_sublist (member : ChannelMember) (messages : List MessageRow) :
    ((visibleMessages member messages).filter (isAddressedUnread member)).Sublist
      ((visibleMessages member messages).filter (isUnread member)) := by
  refine List.monotone_filter_right _ fun m hm => ?_
  rw [isAddressedUnread, Bool.and_eq_true] at hm
  exact hm.1

/-- A first sequence is there exactly if there is a message. -/
theorem isFirst_null_iff {selected : List MessageRow} {first : Option Nat} (h : IsFirst selected first) :
    selected.length = 0 ↔ optionalNat first = .null := by
  cases first with
  | none =>
    rw [IsFirst] at h
    simp [h, optionalNat]
  | some seq =>
    obtain ⟨⟨m, hm, -⟩, -⟩ := h
    simp [optionalNat, Value.nat, List.ne_nil_of_mem hm]

/-- The number of unread messages is a safe integer. -/
theorem unread_safe {latest : Option Nat} (hlatest : IsLatest (visibleMessages member messages) latest)
    (hsafe : ∀ seq, latest = some seq → seq ≤ Client.maxSafeInteger)
    (horder : messages.Pairwise fun m n => m.seq < n.seq) :
    ((visibleMessages member messages).filter (isUnread member)).length ≤ Client.maxSafeInteger := by
  cases latest with
  | none =>
    rw [IsLatest] at hlatest
    rw [hlatest]
    exact Nat.zero_le _
  | some last =>
    have hsorted := (horder.filter (fun m => decide (m.channelId = member.channelId))).filter
      (isUnread member)
    have hbound := length_le_of_between hsorted fun m hm => unread_between hlatest hm
    have hlast := hsafe last rfl
    rw [visibleMessages]
    omega

variable [NumberSyntax]

theorem safeInteger_nat {n : Nat} (h : n ≤ Client.maxSafeInteger) : safeInteger (.nat n) = some (n : Int) := by
  rw [Value.nat, safeInteger, if_pos (by simpa using h)]

/-- A first unread sequence passes. -/
theorem firstValid_of {latest : Option Nat} (hlatest : IsLatest (visibleMessages member messages) latest)
    (hsafe : ∀ seq, latest = some seq → seq ≤ Client.maxSafeInteger) {selected : List MessageRow}
    (hsub : selected ⊆ (visibleMessages member messages).filter (isUnread member)) {first : Option Nat}
    (hfirst : IsFirst selected first) :
    firstValid member.readThroughSeq (some (optionalNat latest)) (some (optionalNat first)) = true := by
  cases first with
  | none => simp [firstValid, optionalNat]
  | some seq =>
    obtain ⟨⟨m, hm, rfl⟩, -⟩ := hfirst
    have hunread := hsub hm
    cases latest with
    | none =>
      rw [IsLatest] at hlatest
      rw [hlatest] at hunread
      cases hunread
    | some last =>
      obtain ⟨hlow, hhigh⟩ := unread_between hlatest hunread
      have hlast := hsafe last rfl
      rw [firstValid, optionalNat, optionalNat, Option.bind_some, Option.bind_some,
        safeInteger_nat hlast, safeInteger_nat (hhigh.trans hlast)]
      simp [hlow, hhigh]

/-- The latest sequence passes. -/
theorem latestValid_of {latest : Option Nat} (hlatest : IsLatest (visibleMessages member messages) latest)
    (hsafe : ∀ seq, latest = some seq → seq ≤ Client.maxSafeInteger)
    (hcommitted : CursorCommitted messages member) :
    latestValid member.readThroughSeq (some (optionalNat latest)) = true := by
  cases latest with
  | none => simp [latestValid, optionalNat]
  | some last =>
    have hread : member.readThroughSeq ≤ last := by
      obtain hzero | ⟨m, hm, hchannel, hseq⟩ := hcommitted
      · omega
      · exact hlatest.2 ⟨m, List.mem_filter.2 ⟨hm, decide_eq_true hchannel⟩, hseq⟩
    rw [latestValid, optionalNat, Option.bind_some, safeInteger_nat (hsafe last rfl)]
    simp [hread]

/-- A row that sums up a membership passes every check, if its channel was not seen before. -/
theorem Summarizes.valid (h : Summarizes messages member row)
    (horder : messages.Pairwise fun m n => m.seq < n.seq)
    (hsafe : ∀ m ∈ messages, m.seq ≤ Client.maxSafeInteger) (hcommitted : CursorCommitted messages member)
    (hchannel : member.channelId ≠ "") {seen : List String} (hnew : member.channelId ∉ seen) :
    attentionValid seen row.toValue = true := by
  have hsafeLatest : ∀ seq, row.latestMessageSeq = some seq → seq ≤ Client.maxSafeInteger := by
    intro seq hseq
    have hlatest := h.latest
    rw [hseq] at hlatest
    obtain ⟨⟨m, hm, rfl⟩, -⟩ := hlatest
    exact hsafe m (List.mem_of_mem_filter hm)
  have hread : member.readThroughSeq ≤ Client.maxSafeInteger := by
    obtain hzero | ⟨m, hm, -, hseq⟩ := hcommitted
    · omega
    · exact hseq ▸ hsafe m hm
  have hunread := unread_safe h.latest hsafeLatest horder
  have hle := (addressed_sublist member messages).length_le
  have hlatest := latestValid_of h.latest hsafeLatest hcommitted
  have hfirst := firstValid_of h.latest hsafeLatest (List.Subset.refl _) h.first
  have hfirstAddressed := firstValid_of h.latest hsafeLatest (addressed_sublist member messages).subset
    h.firstAddressed
  have hnull := isFirst_null_iff h.first
  have hnullAddressed := isFirst_null_iff h.firstAddressed
  rw [← h.unread] at hunread hle hnull
  rw [← h.addressed] at hle hnullAddressed
  have hgets : row.toValue.getStr "channel_id" = some member.channelId ∧
      row.toValue.get "read_through_seq" = some (.nat member.readThroughSeq) ∧
      row.toValue.get "latest_message_seq" = some (optionalNat row.latestMessageSeq) ∧
      row.toValue.get "unread_count" = some (.nat row.unreadCount) ∧
      row.toValue.get "addressed_unread_count" = some (.nat row.addressedUnreadCount) ∧
      row.toValue.get "first_unread_seq" = some (optionalNat row.firstUnreadSeq) ∧
      row.toValue.get "first_addressed_unread_seq" =
        some (optionalNat row.firstAddressedUnreadSeq) := by
    simp [ConversationAttention.toValue, Value.getStr, Value.get, Value.asStr, h.channel, h.cursor]
  obtain ⟨g1, g2, g3, g4, g5, g6, g7⟩ := hgets
  unfold attentionValid
  simp only [g1, g2, g3, g4, g5, g6, g7, Option.bind_some, safeInteger_nat hread,
    safeInteger_nat hunread, safeInteger_nat (hle.trans hunread)]
  simp [hchannel, hnew, hlatest, hle, hfirst, hfirstAddressed, hnull, hnullAddressed]

end Client

/-! ## Every run -/

/-- The cursors of a state, the attention that the server computes from it, and what the client says
to that. -/
structure AttentionAgrees [Client.NumberSyntax] (s : Store) : Prop where
  cursors : ∀ member ∈ s.channelMembers, CursorCommitted s.messages member ∧
    member.readThroughSeq ≤ latestSeq member.channelId s.messages
  rows : ∀ agentId, ∃ members : List ChannelMember,
    members.Perm (s.channelMembers.filter fun member => member.agentId = agentId) ∧
      List.Forall₂ (Summarizes s.messages) members (attention agentId s)
  single : ∀ member ∈ s.channelMembers, ∃ row,
    attentionFor member.agentId member.channelId s = .ok row ∧ Summarizes s.messages member row
  accepted : (∀ m ∈ s.messages, m.seq < 2 ^ 53) → ∀ agentId,
    Client.checkedAttention ((attention agentId s).map ConversationAttention.toValue) =
      .ok ((attention agentId s).map ConversationAttention.toValue)
  acceptedSingle : (∀ m ∈ s.messages, m.seq < 2 ^ 53) → ∀ agentId channelId row,
    attentionFor agentId channelId s = .ok row →
      Client.checkedAttention [row.toValue] = .ok [row.toValue]

section Agreement
variable {keep : ChannelMember → Bool} {agentId : String}

/-- Among the memberships of one agent the channel identifies the row. -/
theorem LogConsistent.agentKeys (hlog : LogConsistent s)
    (hkeep : ∀ member, keep member = true → member.agentId = agentId) :
    ((s.channelMembers.filter keep).map (·.channelId)).Nodup := by
  have hsub : ((s.channelMembers.filter keep).map ChannelMember.key).Nodup :=
    hlog.memberKeys.sublist (List.filter_sublist.map _)
  have hpairs : (s.channelMembers.filter keep).map ChannelMember.key =
      ((s.channelMembers.filter keep).map (·.channelId)).map (·, agentId) := by
    rw [List.map_map]
    refine List.map_congr_left fun member hmember => ?_
    rw [ChannelMember.key, hkeep member (List.mem_filter.1 hmember).2, Function.comp_apply]
  rw [hpairs] at hsub
  exact hsub.of_map _

/-- The rows of the query sum up the selected memberships of one agent. -/
theorem LogConsistent.attentionSelect_rows (hlog : LogConsistent s)
    (hkeep : ∀ member, keep member = true → member.agentId = agentId) {rows : List ConversationAttention}
    (hrows : rows.Perm ((attentionSelect keep s).map (·.2))) :
    ∃ members : List ChannelMember, members.Perm (s.channelMembers.filter keep) ∧
      List.Forall₂ (Summarizes s.messages) members rows := by
  have hunique : KeyUnique (fun cm : ChannelMember => (cm.channelId, cm.readThroughSeq))
      (s.channelMembers.filter keep) := by
    have hchannels := hlog.agentKeys hkeep
    refine List.Nodup.of_map Prod.fst ?_
    rw [List.map_map]
    exact hchannels
  have hperm := hrows.trans ((attentionSelect_perm keep s hunique).map (·.2))
  rw [List.map_map] at hperm
  have hall : List.Forall₂ (fun row member => Summarizes s.messages member row)
      ((s.channelMembers.filter keep).map ((·.2) ∘ fun cm =>
        attentionRow ((cm.channelId, cm.readThroughSeq),
          joined (fun (cm : ChannelMember) (m : MessageRow) => decide (m.channelId = cm.channelId))
            s.messages cm)))
      (s.channelMembers.filter keep) := by
    rw [List.forall₂_map_left_iff, List.forall₂_same]
    exact fun member _ => attentionRow_summarizes s.messages member
  obtain ⟨members, hmembers, hsame⟩ := List.perm_comp_forall₂ hperm hall
  exact ⟨members, hsame, hmembers.flip⟩

/-- Two conditions on a membership select one membership. -/
theorem LogConsistent.filter_member (hlog : LogConsistent s) {member : ChannelMember}
    (hmember : member ∈ s.channelMembers) :
    s.channelMembers.filter (fun cm =>
      decide (cm.agentId = member.agentId) && decide (cm.channelId = member.channelId)) = [member] := by
  have hkey : ∀ cm : ChannelMember, (decide (cm.agentId = member.agentId) &&
      decide (cm.channelId = member.channelId)) = true ↔ cm.key = member.key := by
    intro cm
    rw [Bool.and_eq_true, decide_eq_true_eq, decide_eq_true_eq, ChannelMember.key,
      ChannelMember.key, Prod.mk.injEq, and_comm]
  exact hlog.memberKeys.filter_eq_singleton hmember ((hkey member).2 rfl) fun cm _ => (hkey cm).1

/-- The rows of one agent have distinct channels. -/
theorem LogConsistent.rows_nodup (hlog : LogConsistent s) {members : List ChannelMember}
    {rows : List ConversationAttention}
    (hmembers : members.Perm (s.channelMembers.filter fun member => member.agentId = agentId))
    (hrows : List.Forall₂ (Summarizes s.messages) members rows) :
    (rows.map (·.channelId)).Nodup := by
  have hchannels : rows.map (·.channelId) = members.map (·.channelId) := by
    rw [← List.forall₂_eq_eq_eq, List.forall₂_map_left_iff, List.forall₂_map_right_iff]
    exact hrows.flip.imp fun _ _ hrow => hrow.channel
  have hkeep : ∀ member : ChannelMember, decide (member.agentId = agentId) = true →
      member.agentId = agentId := fun _ h => of_decide_eq_true h
  rw [hchannels]
  exact (hmembers.map _).nodup_iff.2 (hlog.agentKeys hkeep)

/-- Each row sums up one of the memberships. -/
theorem summarizes_of_mem {messages : List MessageRow} {members : List ChannelMember}
    {rows : List ConversationAttention} (h : List.Forall₂ (Summarizes messages) members rows)
    {row : ConversationAttention} (hrow : row ∈ rows) :
    ∃ member ∈ members, Summarizes messages member row := by
  induction h with
  | nil => cases hrow
  | @cons member _ _ _ hhead _ ih =>
    obtain rfl | hrow := List.mem_cons.1 hrow
    · exact ⟨member, List.mem_cons_self, hhead⟩
    · obtain ⟨member', hmember', hsum⟩ := ih hrow
      exact ⟨member', List.mem_cons_of_mem _ hmember', hsum⟩

/-- The attention of one membership sums up a membership of the agent in the channel. -/
theorem LogConsistent.attentionFor_ok (hlog : LogConsistent s) {channelId : String}
    {row : ConversationAttention} (h : attentionFor agentId channelId s = .ok row) :
    ∃ member ∈ s.channelMembers, Summarizes s.messages member row := by
  have hkeep : ∀ cm : ChannelMember, (decide (cm.agentId = agentId) &&
      decide (cm.channelId = channelId)) = true → cm.agentId = agentId :=
    fun _ hkeep => of_decide_eq_true ((Bool.and_eq_true _ _ ▸ hkeep).1)
  obtain ⟨members, hmembers, hsum⟩ := hlog.attentionSelect_rows hkeep (List.Perm.refl _)
  rw [attentionFor] at h
  split at h
  · rename_i found rest hselect
    cases h
    rw [hselect] at hsum
    obtain ⟨member, hmember, hrow⟩ := summarizes_of_mem hsum (List.mem_map_of_mem List.mem_cons_self)
    exact ⟨member, List.mem_of_mem_filter (hmembers.subset hmember), hrow⟩
  · cases h

/-- The attention of a member in its channel is there, and sums it up. -/
theorem LogConsistent.attentionFor_member (hlog : LogConsistent s) {member : ChannelMember}
    (hmember : member ∈ s.channelMembers) :
    ∃ row, attentionFor member.agentId member.channelId s = .ok row ∧
      Summarizes s.messages member row := by
  have hkeep : ∀ cm : ChannelMember, (decide (cm.agentId = member.agentId) &&
      decide (cm.channelId = member.channelId)) = true → cm.agentId = member.agentId :=
    fun _ hkeep => of_decide_eq_true ((Bool.and_eq_true _ _ ▸ hkeep).1)
  obtain ⟨members, hmembers, hsum⟩ := hlog.attentionSelect_rows hkeep (List.Perm.refl _)
  rw [hlog.filter_member hmember] at hmembers
  rw [hmembers.eq_singleton] at hsum
  rw [attentionFor]
  generalize attentionSelect _ s = selected at *
  match selected, hsum with
  | [(joinedAtMs, row)], hsum =>
    cases hsum with
    | cons hrow _ => exact ⟨row, rfl, hrow⟩

/-- The client accepts rows that sum up distinct memberships. -/
theorem LogConsistent.accepted [Client.NumberSyntax] (hlog : LogConsistent s)
    (hcommitted : ∀ member ∈ s.channelMembers, CursorCommitted s.messages member)
    (hids : ∀ member ∈ s.channelMembers, member.channelId ≠ "")
    (hsafe : ∀ m ∈ s.messages, m.seq < 2 ^ 53) {members : List ChannelMember}
    {rows : List ConversationAttention} (hmembers : members ⊆ s.channelMembers)
    (hrows : List.Forall₂ (Summarizes s.messages) members rows)
    (hnodup : (rows.map (·.channelId)).Nodup) :
    Client.checkedAttention (rows.map ConversationAttention.toValue) =
      .ok (rows.map ConversationAttention.toValue) := by
  have hchecked : Client.checkAttention [] (rows.map ConversationAttention.toValue) = .ok () := by
    refine Client.checkAttention_ok (rows.map (·.channelId)) ?_ hnodup (fun _ _ h => by cases h) ?_
    · rw [List.map_map, List.map_map]
      exact List.map_congr_left fun row _ => rfl
    · intro value hvalue seen hnew
      obtain ⟨row, hrow, rfl⟩ := List.mem_map.1 hvalue
      obtain ⟨member, hmember, hsum⟩ := summarizes_of_mem hrows hrow
      have hseen : member.channelId ∉ seen := by
        rw [← hsum.channel]
        exact hnew row.channelId rfl
      exact hsum.valid hlog.messageOrder (fun m hm => Nat.le_of_lt_succ (hsafe m hm))
        (hcommitted member (hmembers hmember)) (hids member (hmembers hmember)) hseen
  rw [Client.checkedAttention, hchecked]
  rfl

end Agreement

section Runs
variable [DecidableEq Json] [SerdeJson Json] [Sha256] {cs ds : List (Command Json)}

/-- Channel identifiers of memberships are not empty if none that was opened is. -/
theorem run_member_channelId (h : Fresh cs) (hids : "" ∉ cs.flatMap Command.channelIds) :
    ∀ member ∈ (run cs).channelMembers, member.channelId ≠ "" := by
  intro member hmember hempty
  obtain ⟨channel, hchannel, hid⟩ :=
    List.mem_map.1 ((run_invariant h).log.memberChannel member hmember)
  exact hids ((hid.trans hempty) ▸ run_channelIds h channel hchannel)

variable [Client.NumberSyntax]

/-- The cursors of every run are committed and only move forward; the attention that the server
computes has one row for each membership, which counts what is behind its cursor, and the client
accepts it. -/
theorem run_attentionAgrees (h : Fresh (cs ++ ds)) (hids : "" ∉ cs.flatMap Command.channelIds) :
    AttentionAgrees (run cs) ∧ ∀ member ∈ (run cs).channelMembers,
      ∃ later ∈ (run (cs ++ ds)).channelMembers, later.key = member.key ∧
        member.readThroughSeq ≤ later.readThroughSeq := by
  refine ⟨?_, fun member hmember => run_cursorForward h hmember⟩
  have hfresh : Fresh cs := h.left
  have hlog := (run_invariant hfresh).log
  have hcommitted := run_cursorCommitted hfresh
  have hchannels := run_member_channelId hfresh hids
  have hrows : ∀ agentId, ∃ members : List ChannelMember,
      members.Perm ((run cs).channelMembers.filter fun member => member.agentId = agentId) ∧
        List.Forall₂ (Summarizes (run cs).messages) members (attention agentId (run cs)) :=
    fun agentId => hlog.attentionSelect_rows (fun _ hkeep => of_decide_eq_true hkeep)
      ((List.perm_insertionSort _ _).map _)
  exact {
    cursors := fun member hmember =>
      ⟨hcommitted member hmember, (hcommitted member hmember).le_latest⟩
    rows := hrows
    single := fun member hmember => hlog.attentionFor_member hmember
    accepted := fun hsafe agentId => by
      obtain ⟨members, hmembers, hsum⟩ := hrows agentId
      exact hlog.accepted hcommitted hchannels hsafe
        (fun _ hmember => List.mem_of_mem_filter (hmembers.subset hmember)) hsum (hlog.rows_nodup hmembers hsum)
    acceptedSingle := fun hsafe agentId channelId row hrow => by
      obtain ⟨member, hmember, hsum⟩ := hlog.attentionFor_ok hrow
      exact hlog.accepted hcommitted hchannels hsafe (List.cons_subset.2 ⟨hmember, List.nil_subset _⟩)
        (.cons hsum .nil) (List.nodup_singleton _) }

end Runs

/-- An engine that meets no floating-point literals. -/
abbrev sampleNumbers : Client.NumberSyntax := ⟨fun _ => none⟩

/-- In the sample the message is not read yet. -/
theorem run_attentionAgrees_sampleSetup :
    @AttentionAgrees sampleNumbers (run sampleSetup) ∧ ∀ member ∈ (run sampleSetup).channelMembers,
      ∃ later ∈ (run (sampleSetup ++ [.advanceReadCursor "c" "b" 1])).channelMembers,
        later.key = member.key ∧ member.readThroughSeq ≤ later.readThroughSeq :=
  @run_attentionAgrees Bool _ _ _ sampleSetup [.advanceReadCursor "c" "b" 1] sampleNumbers
    (by decide) (by decide)

example : (attention "b" (run sampleSetup)).map (fun row => (row.unreadCount, row.firstUnreadSeq)) =
    [(1, some 1)] := by decide +kernel

end Fleetd
