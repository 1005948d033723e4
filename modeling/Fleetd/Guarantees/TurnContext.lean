import Mathlib.Data.List.Perm.Subperm
import Fleetd.Guarantees.ChannelStream
import Fleetd.Guarantees.SeatSurvival
import Fleetd.Guarantees.StartFrame

/-!
# What a turn is shown of its channel

The members of the context are a selection of the members of the channel that is as large as its
bound allows and that leaves out nobody the turn is about. The history is the longest end of the
given messages that keeps to both of its bounds. Both say exactly when something was left out, and
with one message more read than is shown, the history says so of the whole channel.
-/

namespace Fleetd.Worker

open Serde (Value)
open Effects Effects.Routine Harness Relational Relational.Transaction

/-! ## Members -/

/-- The agents of members. -/
def agentIds (members : List ChannelMemberView) : List String := members.map (·.agentId)

/-- The members that a turn is about. -/
def IsRequired (invocation : Invocation Value) (member : ChannelMemberView) : Prop :=
  member.agentId = invocation.agentId ∨ member.agentId = invocation.message.senderId ∨
    invocation.message.recipientId = some member.agentId

theorem any_agentId_iff {bounded : List ChannelMemberView} {agentId : String} :
    bounded.any (fun other => other.agentId = agentId) = true ↔ agentId ∈ agentIds bounded := by
  simp [agentIds]

/-- A member is added at the end, or its agent is there. -/
theorem includeMember_cases (bounded : List ChannelMemberView) (member : ChannelMemberView) :
    (member.agentId ∈ agentIds bounded ∧ includeMember bounded member = bounded) ∨
      (member.agentId ∉ agentIds bounded ∧ includeMember bounded member = bounded ++ [member]) := by
  unfold includeMember
  by_cases hmem : member.agentId ∈ agentIds bounded
  · exact .inl ⟨hmem, if_pos (any_agentId_iff.2 hmem)⟩
  · exact .inr ⟨hmem, if_neg fun hany => hmem (any_agentId_iff.1 hany)⟩

/-- What adding members does: no agent comes twice, and nobody is removed or made up. -/
structure Adds (members bounded result : List ChannelMemberView) : Prop where
  nodup : (agentIds bounded).Nodup → (agentIds result).Nodup
  kept : bounded ⊆ result
  given : result ⊆ bounded ++ members

theorem Adds.refl (members bounded : List ChannelMemberView) : Adds members bounded bounded :=
  ⟨id, List.Subset.refl _, List.subset_append_left _ _⟩

theorem Adds.trans {members rest bounded middle result : List ChannelMemberView}
    (h : Adds members bounded middle) (hrest : Adds rest middle result) :
    Adds (members ++ rest) bounded result where
  nodup hbounded := hrest.nodup (h.nodup hbounded)
  kept := List.Subset.trans h.kept hrest.kept
  given member hmember := by
    rw [← List.append_assoc]
    rcases List.mem_append.1 (hrest.given hmember) with hmiddle | hmember
    · exact List.mem_append_left _ (h.given hmiddle)
    · exact List.mem_append_right _ hmember

theorem adds_includeMember (bounded : List ChannelMemberView) (member : ChannelMemberView) :
    Adds [member] bounded (includeMember bounded member) := by
  rcases includeMember_cases bounded member with ⟨-, heq⟩ | ⟨hnew, heq⟩
  · rw [heq]
    exact Adds.refl _ _
  · rw [heq]
    refine ⟨fun hnodup => ?_, List.subset_append_left _ _, List.Subset.refl _⟩
    rw [agentIds, List.map_append]
    refine List.nodup_append.2 ⟨hnodup, List.nodup_singleton _, ?_⟩
    intro id hid other hother heq
    rw [List.map_singleton, List.mem_singleton] at hother
    exact hnew (hother ▸ heq ▸ hid)

/-- The agent of a member that was added is there. -/
theorem agentId_mem_includeMember (bounded : List ChannelMemberView) (member : ChannelMemberView) :
    member.agentId ∈ agentIds (includeMember bounded member) := by
  rcases includeMember_cases bounded member with ⟨hmem, heq⟩ | ⟨-, heq⟩
  · rw [heq]
    exact hmem
  · rw [heq]
    exact List.mem_map_of_mem (List.mem_append_right _ List.mem_cons_self)

theorem Adds.agentIds_subset {members bounded result : List ChannelMemberView}
    (h : Adds members bounded result) : agentIds bounded ⊆ agentIds result :=
  List.map_subset _ h.kept

/-- The members a turn is about are added one after the other. -/
theorem foldl_includeMember (members bounded : List ChannelMemberView) :
    Adds members bounded (members.foldl includeMember bounded) ∧
      agentIds members ⊆ agentIds (members.foldl includeMember bounded) ∧
      (members.foldl includeMember bounded).length ≤ bounded.length + members.length := by
  induction members generalizing bounded with
  | nil => exact ⟨Adds.refl _ _, List.nil_subset _, Nat.le_refl _⟩
  | cons member rest ih =>
    obtain ⟨hadds, hids, hlength⟩ := ih (includeMember bounded member)
    have hone : (includeMember bounded member).length ≤ bounded.length + 1 := by
      rcases includeMember_cases bounded member with ⟨-, heq⟩ | ⟨-, heq⟩ <;> rw [heq] <;> simp
    refine ⟨(adds_includeMember bounded member).trans hadds, ?_, ?_⟩
    · exact List.cons_subset.2
        ⟨hadds.agentIds_subset (agentId_mem_includeMember bounded member), hids⟩
    · rw [List.foldl_cons, List.length_cons]
      omega

/-- Members are added while there is room, and all of them if there is room at the end. -/
theorem fillMembers_adds (bounded members : List ChannelMemberView) :
    Adds members bounded (fillMembers bounded members) ∧
      (bounded.length ≤ maxChannelContextMembers →
        (fillMembers bounded members).length ≤ maxChannelContextMembers) ∧
      ((fillMembers bounded members).length < maxChannelContextMembers →
        agentIds members ⊆ agentIds (fillMembers bounded members)) := by
  induction members generalizing bounded with
  | nil => exact ⟨Adds.refl _ _, id, fun _ => List.nil_subset _⟩
  | cons member rest ih =>
    rw [fillMembers]
    split
    case isTrue hfull =>
      refine ⟨?_, id, fun hroom => absurd hfull (Nat.ne_of_lt hroom)⟩
      exact ⟨id, List.Subset.refl _, List.subset_append_left _ _⟩
    case isFalse hroom =>
      obtain ⟨hadds, hbound, hids⟩ := ih (includeMember bounded member)
      refine ⟨(adds_includeMember bounded member).trans hadds, fun hlength => hbound ?_, ?_⟩
      · rcases includeMember_cases bounded member with ⟨-, heq⟩ | ⟨-, heq⟩ <;> rw [heq]
        · exact hlength
        · rw [List.length_append, List.length_singleton]
          omega
      · intro hless
        exact List.cons_subset.2
          ⟨hadds.agentIds_subset (agentId_mem_includeMember bounded member), hids hless⟩

/-- The members that a turn is about are members of the channel, and all of those it has. -/
theorem priorityMembers_selects (members : List ChannelMemberView) (invocation : Invocation Value) :
    (agentIds (priorityMembers members invocation)).Nodup ∧
      priorityMembers members invocation ⊆ members ∧
      (priorityMembers members invocation).length ≤ 3 ∧
      ∀ member ∈ members, IsRequired invocation member →
        member.agentId ∈ agentIds (priorityMembers members invocation) := by
  let ids := [some invocation.agentId, some invocation.message.senderId,
    invocation.message.recipientId].filterMap id
  let found := ids.filterMap fun id => members.find? fun member => member.agentId = id
  obtain ⟨hadds, hids, hlength⟩ := foldl_includeMember found []
  have hcount : found.length ≤ 3 :=
    (List.length_filterMap_le _ _).trans (List.length_filterMap_le _ _)
  refine ⟨hadds.nodup List.nodup_nil, fun member hmember => ?_, ?_, ?_⟩
  · have hfound : member ∈ found := by simpa using hadds.given hmember
    obtain ⟨id, -, hfind⟩ := List.mem_filterMap.1 hfound
    exact List.mem_of_find?_eq_some hfind
  · exact hlength.trans (by simpa using hcount)
  · intro member hmember hrequired
    have hid : member.agentId ∈ ids := by
      rw [List.mem_filterMap]
      rcases hrequired with hagent | hsender | hrecipient
      · exact ⟨some invocation.agentId, by simp, congrArg some hagent.symm⟩
      · exact ⟨some invocation.message.senderId, by simp, congrArg some hsender.symm⟩
      · exact ⟨invocation.message.recipientId, by simp, hrecipient⟩
    cases hfind : members.find? fun other => other.agentId = member.agentId with
    | none =>
      have hnone := List.find?_eq_none.1 hfind member hmember
      simp at hnone
    | some other =>
      have hother : other.agentId = member.agentId := by simpa using List.find?_some hfind
      rw [← hother]
      refine hids (List.mem_map_of_mem (List.mem_filterMap.2 ⟨member.agentId, hid, hfind⟩))

/-- A selection of the members of a channel that is as large as its bound allows. -/
structure SelectsMembers (members : List ChannelMemberView) (invocation : Invocation Value)
    (selected : List ChannelMemberView) (truncated : Bool) : Prop where
  nodup : selected.Nodup
  given : selected ⊆ members
  length : selected.length = min maxChannelContextMembers members.length
  required : ∀ member ∈ members, IsRequired invocation member → member ∈ selected
  truncated : truncated = true ↔ ∃ member ∈ members, member ∉ selected

/-- A member of a channel is in a selection if its agent is. -/
theorem mem_of_agentId_mem {members selected : List ChannelMemberView}
    (hids : (agentIds members).Nodup) (hsubset : selected ⊆ members) {member : ChannelMemberView}
    (hmember : member ∈ members) (hid : member.agentId ∈ agentIds selected) : member ∈ selected := by
  obtain ⟨other, hother, heq⟩ := List.mem_map.1 hid
  rwa [← List.inj_on_of_nodup_map hids (hsubset hother) hmember heq]

/-- The bounded members of a channel are a selection of them. -/
theorem boundedContextMembers_selects {members : List ChannelMemberView}
    (hids : (agentIds members).Nodup) (invocation : Invocation Value) :
    SelectsMembers members invocation (boundedContextMembers members invocation).1
      (boundedContextMembers members invocation).2 := by
  obtain ⟨hpriority, hpriorityMembers, hthree, hrequired⟩ := priorityMembers_selects members invocation
  obtain ⟨hadds, hbound, hfilled⟩ := fillMembers_adds (priorityMembers members invocation) members
  let selected := fillMembers (priorityMembers members invocation) members
  have hnodup : selected.Nodup := (hadds.nodup hpriority).of_map
  have hmembers : selected ⊆ members := fun member hmember =>
    (List.mem_append.1 (hadds.given hmember)).elim (fun h => hpriorityMembers h) id
  have hfew : selected.length ≤ members.length := (List.Nodup.subperm hnodup hmembers).length_le
  have hcap : selected.length ≤ maxChannelContextMembers := hbound (hthree.trans (by decide))
  have hall : selected.length < maxChannelContextMembers → members ⊆ selected := by
    intro hless member hmember
    exact mem_of_agentId_mem hids hmembers hmember (hfilled hless (List.mem_map_of_mem hmember))
  have hmissing : selected.length < members.length ↔ ∃ member ∈ members, member ∉ selected := by
    constructor
    · intro hless
      by_contra hnone
      push Not at hnone
      have hmany := (hids.of_map.subperm hnone).length_le
      omega
    · rintro ⟨member, hmember, hnot⟩
      have hrest : selected ⊆ members.erase member := fun other hother =>
        (List.mem_erase_of_ne fun heq : other = member => hnot (heq ▸ hother)).2 (hmembers hother)
      have hless := (List.Nodup.subperm hnodup hrest).length_le
      rw [List.length_erase_of_mem hmember] at hless
      have hpos := List.length_pos_of_mem hmember
      omega
  refine ⟨hnodup, hmembers, ?_, ?_, decide_eq_true_iff.trans hmissing⟩
  · show selected.length = _
    by_cases hless : selected.length < maxChannelContextMembers
    · have hmany := (hids.of_map.subperm (hall hless)).length_le
      omega
    · omega
  · intro member hmember hneeded
    exact mem_of_agentId_mem hids hmembers hmember
      (hadds.agentIds_subset (hrequired member hmember hneeded))

/-! ## History -/

/-- The encoded size of messages. -/
def encodedSize (messages : List (Message Value)) : Nat :=
  (messages.map fun message => (messageValue message).size).sum

/-- Messages that keep to both bounds of the history. -/
def FitsHistory (messages : List (Message Value)) : Prop :=
  messages.length ≤ maxChannelContextMessages ∧
    encodedSize messages ≤ maxChannelContextHistoryBytes

/-- From the latest message on, as many are retained as fit into the bytes. -/
theorem retainHistory_greatest (used : Nat) (messages : List (Message Value))
    (hused : used ≤ maxChannelContextHistoryBytes) :
    (retainHistory used messages).1 <+: messages ∧
      used + encodedSize (retainHistory used messages).1 ≤ maxChannelContextHistoryBytes ∧
      (∀ other, other <+: messages → used + encodedSize other ≤ maxChannelContextHistoryBytes →
        other.length ≤ (retainHistory used messages).1.length) ∧
      ((retainHistory used messages).2 = true ↔
        (retainHistory used messages).1.length < messages.length) := by
  induction messages generalizing used with
  | nil =>
    refine ⟨List.prefix_refl _, hused, fun other hother _ => ?_, ?_⟩
    · rw [List.prefix_nil.1 hother]
      exact Nat.le_refl _
    · simp [retainHistory]
  | cons message rest ih =>
    rw [retainHistory]
    split
    case isTrue hlarge =>
      refine ⟨List.nil_prefix, hused, fun other hother hfits => ?_, by simp⟩
      cases other with
      | nil => exact Nat.le_refl _
      | cons first others =>
        obtain ⟨rfl, -⟩ := List.cons_prefix_cons.1 hother
        simp only [encodedSize, List.map_cons, List.sum_cons] at hfits
        omega
    case isFalse hsmall =>
      obtain ⟨hleads, hfits, hgreatest, htruncated⟩ := ih _ (Nat.le_of_not_lt hsmall)
      refine ⟨List.cons_prefix_cons.2 ⟨rfl, hleads⟩, ?_, fun other hother hbound => ?_, ?_⟩
      · simp only [encodedSize, List.map_cons, List.sum_cons] at hfits ⊢
        omega
      · cases other with
        | nil => exact Nat.zero_le _
        | cons first others =>
          obtain ⟨rfl, hothers⟩ := List.cons_prefix_cons.1 hother
          refine Nat.succ_le_succ (hgreatest others hothers ?_)
          simp only [encodedSize, List.map_cons, List.sum_cons] at hbound ⊢
          omega
      · rw [List.length_cons, List.length_cons, Nat.succ_lt_succ_iff]
        exact htruncated

/-- The longest end of messages that keeps to both bounds. -/
structure LongestEnd (history bounded : List (Message Value)) (truncated : Bool) : Prop where
  ends : bounded <:+ history
  fits : FitsHistory bounded
  longest : ∀ other, other <:+ history → FitsHistory other → other.length ≤ bounded.length
  truncated : truncated = true ↔ bounded.length < history.length

theorem encodedSize_reverse (messages : List (Message Value)) :
    encodedSize messages.reverse = encodedSize messages := by
  rw [encodedSize, encodedSize, List.map_reverse, List.sum_reverse]

/-- The bounded history of a channel is the longest end of it that fits. -/
theorem boundedContextHistory_longest (history : List (Message Value)) :
    LongestEnd history (boundedContextHistory history).1 (boundedContextHistory history).2 := by
  let late := history.drop (history.length - maxChannelContextMessages)
  obtain ⟨hleads, hfits, hgreatest, htruncated⟩ :=
    retainHistory_greatest 0 late.reverse (Nat.zero_le _)
  let retained := (retainHistory 0 late.reverse).1
  have hlate : late.length = min history.length maxChannelContextMessages := by
    rw [List.length_drop]
    omega
  have hends : retained.reverse <:+ late := by
    rw [← List.reverse_prefix, List.reverse_reverse]
    exact hleads
  have hshort : retained.length ≤ late.length := by
    rw [← List.length_reverse]
    exact hends.length_le
  refine ⟨hends.trans (List.drop_suffix _ _), ⟨?_, ?_⟩, fun other hother hbound => ?_, ?_⟩
  · show retained.reverse.length ≤ _
    rw [List.length_reverse]
    omega
  · show encodedSize retained.reverse ≤ _
    rw [encodedSize_reverse, ← Nat.zero_add (encodedSize retained)]
    exact hfits
  · show _ ≤ retained.reverse.length
    rw [List.length_reverse, ← @List.length_reverse _ other]
    apply hgreatest
    · rw [List.reverse_prefix]
      refine List.suffix_of_suffix_length_le hother (List.drop_suffix _ _) ?_
      have hlength := hother.length_le
      have hmessages := hbound.1
      show other.length ≤ late.length
      omega
    · rw [encodedSize_reverse, Nat.zero_add]
      exact hbound.2
  · show (decide (maxChannelContextMessages < history.length) ||
      (retainHistory 0 late.reverse).2) = true ↔ retained.reverse.length < history.length
    rw [Bool.or_eq_true, decide_eq_true_iff, htruncated, List.length_reverse, List.length_reverse]
    show _ ∨ retained.length < late.length ↔ _
    omega

/-! ## The context of a turn -/

/-- The earlier messages of the channel of an invocation. -/
def earlierRows (invocation : Invocation Value) (messages : List MessageRow) : List MessageRow :=
  (channelMessages invocation.message.channelId messages).filter fun m =>
    (m.seq : Int) < invocation.message.seq

/-- The rows that are read are the latest of the earlier ones, and all of them if they are few. -/
theorem recentRowsBefore_reads (invocation : Invocation Value) (limit : Nat)
    {messages : List MessageRow} (hseqs : KeyUnique (·.seq) messages) :
    let rows := recentRowsBefore invocation.message.channelId invocation.message.seq limit messages
    rows ⊆ earlierRows invocation messages ∧ KeyUnique (·.seq) rows ∧
      rows.length = min limit (earlierRows invocation messages).length ∧
      ((earlierRows invocation messages).length ≤ limit → earlierRows invocation messages ⊆ rows) := by
  let sorted := (earlierRows invocation messages).insertionSort fun a b => b.seq ≤ a.seq
  have hperm : sorted.Perm (earlierRows invocation messages) := List.perm_insertionSort _ _
  have hearlier : KeyUnique (·.seq) (earlierRows invocation messages) :=
    hseqs.sublist (((List.filter_sublist).trans List.filter_sublist).map _)
  have hsorted : KeyUnique (·.seq) sorted := (hperm.map _).nodup_iff.2 hearlier
  show ((sorted.take limit).reverse ⊆ _ ∧ KeyUnique (·.seq) (sorted.take limit).reverse ∧
    (sorted.take limit).reverse.length = _ ∧ (_ → _ ⊆ (sorted.take limit).reverse))
  refine ⟨fun row hrow => ?_, ?_, ?_, fun hfew row hrow => ?_⟩
  · exact hperm.subset (List.mem_of_mem_take (List.mem_reverse.1 hrow))
  · rw [KeyUnique, List.map_reverse, List.nodup_reverse]
    exact hsorted.sublist ((List.take_sublist _ _).map _)
  · rw [List.length_reverse, List.length_take, hperm.length_eq]
  · rw [List.mem_reverse, List.take_of_length_le (hperm.length_eq.trans_le hfew)]
    exact hperm.symm.subset hrow

theorem listRecentMessagesBefore_ok {channelId : String} {before : Int} {limit : Nat} {s t : Store}
    {history : List (Message Value)}
    (h : listRecentMessagesBefore channelId before limit s = .ok (history, t)) :
    Decodes (recentRowsBefore channelId before (max 1 (min limit maxMessagePage)) s.messages)
      history := by
  simp only [listRecentMessagesBefore, ensureChannel, bind_ok, ensure_ok, read_ok, check_ok] at h
  obtain ⟨_, _, ⟨_, rfl⟩, _, _, ⟨_, _, ⟨rfl, rfl⟩, _, rfl⟩, rows, _, ⟨rfl, rfl⟩, hmessages, rfl⟩ := h
  exact decodes_of_mapM hmessages

/-- Decoded messages have the sequence numbers of their rows. -/
theorem Decodes.map_seq {rows : List MessageRow} {messages : List (Message Value)}
    (h : Decodes rows messages) : messages.map (·.seq) = rows.map (·.seq) := by
  induction h with
  | nil => rfl
  | cons hrow _ ih => rw [List.map_cons, List.map_cons, messageFromRow_seq hrow, ih]

/-- What is read says whether the history is all there is. -/
theorem boundedContextHistory_misses {invocation : Invocation Value} {s t : Store}
    {history : List (Message Value)} (hseqs : KeyUnique (·.seq) s.messages)
    (h : listRecentMessagesBefore invocation.message.channelId invocation.message.seq
      (maxChannelContextMessages + 1) s = .ok (history, t)) :
    (boundedContextHistory history).2 = true ↔ ∃ row ∈ earlierRows invocation s.messages,
      ∀ message ∈ (boundedContextHistory history).1, message.seq ≠ row.seq := by
  have hlongest := boundedContextHistory_longest history
  obtain ⟨hsubset, hunique, hlength, hall⟩ :=
    recentRowsBefore_reads invocation (maxChannelContextMessages + 1) hseqs
  have hdecodes := listRecentMessagesBefore_ok h
  have hlimit : max 1 (min (maxChannelContextMessages + 1) maxMessagePage) =
      maxChannelContextMessages + 1 := by decide
  rw [hlimit] at hdecodes
  have hmap := Decodes.map_seq hdecodes
  have hhistory := List.Forall₂.length_eq hdecodes
  generalize boundedContextHistory history = bounded at hlongest ⊢
  rw [hlongest.truncated]
  constructor
  · intro hshort
    obtain ⟨front, hfront⟩ := hlongest.ends
    cases front with
    | nil =>
      rw [← hfront, List.nil_append] at hshort
      exact absurd hshort (Nat.lt_irrefl _)
    | cons first rest =>
      have hfirst : first.seq ∈ history.map (·.seq) :=
        List.mem_map_of_mem (hfront ▸ List.mem_cons_self)
      rw [hmap] at hfirst
      obtain ⟨row, hrow, hseq⟩ := List.mem_map.1 hfirst
      refine ⟨row, hsubset hrow, fun message hmessage heq => ?_⟩
      have hnodup : (history.map (·.seq)).Nodup := hmap ▸ hunique
      rw [← hfront, List.cons_append, List.map_cons, List.nodup_cons] at hnodup
      refine hnodup.1 ?_
      rw [← hseq, ← heq]
      exact List.mem_map_of_mem (List.mem_append_right _ hmessage)
  · rintro ⟨row, hrow, hmissing⟩
    by_contra hfull
    have hwhole : bounded.1 = history :=
      hlongest.ends.eq_of_length (Nat.le_antisymm hlongest.ends.length_le (Nat.le_of_not_lt hfull))
    have hfew := hlongest.fits.1
    rw [hwhole] at hfew hmissing
    have hread := hall (by omega) hrow
    have hseq : row.seq ∈ history.map (·.seq) := by
      rw [hmap]
      exact List.mem_map_of_mem hread
    obtain ⟨message, hmessage, heq⟩ := List.mem_map.1 hseq
    exact hmissing message hmessage heq

section

variable (around : Surroundings) (invocation : Invocation Value)

/-- A query is answered from the store that is left. -/
theorem view_answers {α : Type} (query : Tx α) :
    Meets (fun _ => True) (view around query) (fun result place =>
      ∀ a, result = .ok a → ∃ t, query place.store = .ok (a, t)) (fun _ _ => True) := by
  refine .act fun place _ a ha => ?_
  dsimp only at ha ⊢
  split at ha
  · cases ha
  · cases hquery : query (place.after (around.interlude place.calls)).store with
    | error error =>
      rw [hquery] at ha
      cases ha
    | ok result =>
      rw [hquery] at ha
      cases ha
      exact ⟨_, rfl⟩

/-- The history of a context is bounded from what the store has when it is read. -/
theorem readChannelContext_bounds :
    Meets (fun _ => True) (readChannelContext around invocation) (fun result place =>
      ∀ context, result = .ok context → ∃ history t,
        listRecentMessagesBefore invocation.message.channelId invocation.message.seq
          (maxChannelContextMessages + 1) place.store = .ok (history, t) ∧
        context.recentHistory = (boundedContextHistory history).1 ∧
        context.recentHistoryTruncated = (boundedContextHistory history).2) (fun _ _ => True) := by
  refine (view_answers around _).bind fun members => ?_
  cases members with
  | error error => exact .pure fun _ _ _ hok => nomatch hok
  | ok members =>
    refine ((view_answers around _).weaken (fun _ _ => trivial) (fun _ _ h => h)
      fun _ _ _ => trivial).bind fun history => ?_
    cases history with
    | error error => exact .pure fun _ _ _ hok => nomatch hok
    | ok history =>
      refine .pure fun place hplace context hok => ?_
      obtain ⟨t, hlist⟩ := hplace history rfl
      cases hok
      exact ⟨history, t, hlist, rfl, rfl⟩

/-- The members of a context are a selection as large as its bound allows, with everybody the turn
is about; its history is the longest end of what was read that fits; and the context of a turn says
exactly whether an earlier message of the channel is missing from it. -/
theorem turnContext_exact :
    (∀ members : List ChannelMemberView, (agentIds members).Nodup →
      SelectsMembers members invocation (boundedContextMembers members invocation).1
        (boundedContextMembers members invocation).2) ∧
    (∀ history : List (Message Value),
      LongestEnd history (boundedContextHistory history).1 (boundedContextHistory history).2) ∧
    ∀ (place after : Workplace) (context : ChannelTurnContext),
      KeyUnique (·.seq) after.store.messages →
      readChannelContext around invocation place = (.ok (.ok context), after) →
      (context.recentHistoryTruncated = true ↔
        ∃ row ∈ earlierRows invocation after.store.messages,
          ∀ message ∈ context.recentHistory, message.seq ≠ row.seq) := by
  refine ⟨fun members hids => boundedContextMembers_selects hids invocation,
    boundedContextHistory_longest, fun place after context hseqs hread => ?_⟩
  obtain ⟨history, t, hlist, hrecent, htruncated⟩ :=
    (readChannelContext_bounds around invocation).of_ok trivial hread context rfl
  rw [hrecent, htruncated]
  exact boundedContextHistory_misses hseqs hlist

end

/-- Surroundings in which nothing happens. -/
def stillSurroundings : Surroundings where
  interlude := fun _ => ⟨[], 0, none⟩
  cancelled := fun _ => false
  leaseToken := "T"
  mint := fun _ => ("i", "f")
  freshBindingId := "B"
  opened := .ok "s"
  turn := lostHarness
  closed := .ok true

/-- A place with the channel of the sample. -/
def stillPlace : Workplace where
  store := run sampleSetup
  committed := []
  calls := 0
  sessions := []
  report := {}
  held := none

set_option maxRecDepth 100000 in
/-- The turn of a second message sees the first one, and knows that there is no other. -/
theorem turnContext_exact_longInvocation :
    SelectsMembers longContext.members longInvocation
        (boundedContextMembers longContext.members longInvocation).1
        (boundedContextMembers longContext.members longInvocation).2 ∧
      (longContext.recentHistoryTruncated = true ↔
        ∃ row ∈ earlierRows longInvocation (run sampleSetup).messages,
          ∀ message ∈ longContext.recentHistory, message.seq ≠ row.seq) := by
  have hexact := turnContext_exact stillSurroundings longInvocation
  have hanswer : (readChannelContext stillSurroundings longInvocation stillPlace).1 =
      .ok (.ok longContext) := by decide +kernel
  have hstore : (readChannelContext stillSurroundings longInvocation stillPlace).2.store =
      run sampleSetup := by decide +kernel
  have hseqs : ((run sampleSetup).messages.map (·.seq)).Nodup := by decide +kernel
  refine ⟨hexact.1 _ (by decide +kernel), ?_⟩
  have hmisses := hexact.2.2 stillPlace
    (readChannelContext stillSurroundings longInvocation stillPlace).2 longContext (hstore ▸ hseqs)
    (Prod.ext hanswer rfl)
  rwa [hstore] at hmisses

end Fleetd.Worker
