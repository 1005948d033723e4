import Fleetd.Refinement.Session
import Fleetd.Execution.Trigger

/-!
# Calls outside the ledger

Agents, channels, members, triggers and observations. None of these calls touches the
ledger, and only an append touches the log.
-/

namespace Fleetd

open Relational Relational.Transaction

variable {Json : Type} {s t : Store}

/-! ## Membership -/

/-- A call that changes the directory and keeps it well formed. -/
structure Enrolls (s t : Store) : Prop where
  frame : t = { s with
    agents := t.agents, channels := t.channels, channelMembers := t.channelMembers }
  keys : KeyUnique ChannelMember.key t.channelMembers
  channel : ∀ m ∈ t.channelMembers, m.channelId ∈ t.channels.map Channel.id

/-- A call that leaves members and channels alone. -/
theorem Enrolls.same (h : LogConsistent s)
    (hframe : t = { s with agents := t.agents, channels := t.channels })
    (hids : t.channels.map Channel.id = s.channels.map Channel.id) : Enrolls s t := by
  have hm : t.channelMembers = s.channelMembers := by rw [hframe]
  refine ⟨by rw [hm]; exact hframe, by rw [hm]; exact h.memberKeys, fun m hmem => ?_⟩
  rw [hm] at hmem
  rw [hids]
  exact h.memberChannel m hmem

/-- The log after a change of the directory. -/
theorem Enrolls.log (h : Enrolls s t) (hlog : LogConsistent s) : LogConsistent t := by
  refine hlog.quiet ⟨?_, ?_, ?_⟩ h.keys h.channel <;> rw [h.frame]

/-- A duplicate is found unless the members are distinct from each other and from those
already seen. -/
theorem duplicateMember_none (members : List CreateChannelMember) :
    ∀ seen, duplicateMember members seen = none →
      (members.map (·.agentId)).Nodup ∧ ∀ m ∈ members, m.agentId ∉ seen := by
  induction members with
  | nil => exact fun _ _ => ⟨List.nodup_nil, fun _ hm => by cases hm⟩
  | cons member rest ih =>
    intro seen h
    rw [duplicateMember] at h
    split at h
    · cases h
    · rename_i hnot
      obtain ⟨hnodup, hseen⟩ := ih _ h
      refine ⟨?_, fun m hm => ?_⟩
      · rw [List.map_cons, List.nodup_cons]
        refine ⟨fun hmem => ?_, hnodup⟩
        obtain ⟨m, hm, heq⟩ := List.mem_map.mp hmem
        exact hseen m hm (heq ▸ List.mem_cons_self ..)
      · rcases List.mem_cons.mp hm with rfl | hm
        · exact hnot
        · exact fun hmem => hseen m hm (List.mem_cons_of_mem _ hmem)

/-- A new channel with distinct members. -/
theorem Enrolls.channelCreated (h : LogConsistent s) {channel : Channel}
    {members : List CreateChannelMember} {now : Int}
    (hnew : ∀ c ∈ s.channels, c.id ≠ channel.id) (hnodup : (members.map (·.agentId)).Nodup) :
    Enrolls s { s with
      channels := s.channels ++ [channel]
      channelMembers := s.channelMembers ++ memberRows channel.id now members } := by
  have hrows : ∀ m ∈ memberRows channel.id now members, m.channelId = channel.id := by
    intro m hm
    obtain ⟨_, _, rfl⟩ := List.mem_map.mp hm
    rfl
  refine ⟨rfl, h.memberKeys.append ?_ fun x hx y hy heq => ?_, fun m hm => ?_⟩
  · rw [KeyUnique, memberRows, List.map_map]
    refine List.Nodup.of_map Prod.snd ?_
    rw [List.map_map]
    exact hnodup
  · obtain ⟨c, hc, hcid⟩ := List.mem_map.mp (h.memberChannel x hx)
    exact hnew c hc (hcid.trans ((congrArg Prod.fst heq).trans (hrows y hy)))
  · rw [List.map_append]
    rcases List.mem_append.mp hm with hm | hm
    · exact List.mem_append_left _ (h.memberChannel m hm)
    · rw [hrows m hm]
      exact List.mem_append_right _ (List.mem_singleton_self _)

theorem ensureExists_ok {ids : Store → List String} {entity id : String} {u : Unit}
    (h : ensureExists ids entity id s = .ok (u, t)) : s = t := by
  simp only [ensureExists, bind_ok, read_ok, ensure_ok] at h
  obtain ⟨_, _, ⟨_, rfl⟩, _, rfl⟩ := h
  rfl

theorem ensureAgents_ok (members : List CreateChannelMember) :
    ∀ {s : Store} {u : Unit}, ensureAgents members s = .ok (u, t) → s = t := by
  induction members with
  | nil => exact fun h => (pure_ok.mp h).2
  | cons member rest ih =>
    intro s u h
    simp only [ensureAgents, bind_ok] at h
    obtain ⟨_, _, hexists, hrest⟩ := h
    obtain rfl := ensureExists_ok hexists
    exact ih hrest

theorem validateMembers_ok {members : List CreateChannelMember}
    (h : validateMembers members = .ok ()) : (members.map (·.agentId)).Nodup := by
  unfold validateMembers at h
  split at h
  · cases h
  · rename_i hnone
    exact (duplicateMember_none members [] hnone).1

theorem createAgent_enrolls (hlog : LogConsistent s) {id name : String} {now : Int}
    {result : Agent} (h : createAgent id name now s = .ok (result, t)) : Enrolls s t := by
  simp only [createAgent, bind_ok, check_ok, read_ok, ensure_ok, write_ok, pure_ok,
    Prod.mk.injEq] at h
  obtain ⟨_, _, ⟨_, rfl⟩, _, _, ⟨_, rfl⟩, _, _, ⟨_, rfl⟩, _, _, ⟨_, rfl⟩, _, rfl⟩ := h
  exact .same hlog rfl rfl

theorem createChannel_enrolls (hlog : LogConsistent s) {id name : String} {memberIds : List String}
    {members : List CreateChannelMember} {now : Int} {result : Channel}
    (h : createChannel id name memberIds members now s = .ok (result, t)) : Enrolls s t := by
  simp only [createChannel, createChannelWithMembers, bind_ok, check_ok, read_ok, ensure_ok, write_ok,
    pure_ok, Prod.mk.injEq] at h
  obtain ⟨_, _, ⟨_, rfl⟩, _, _, ⟨_, rfl⟩, _, _, ⟨hmembers, rfl⟩, _, _, hagents, _, _, ⟨rfl, rfl⟩, _, _,
    ⟨hnew, rfl⟩, _, _, ⟨_, rfl⟩, _, rfl⟩ := h
  obtain rfl := ensureAgents_ok _ hagents
  exact .channelCreated hlog (fun c hc => (hnew c hc).1) (validateMembers_ok hmembers)

theorem validateDirectMembers_ok {members : List CreateChannelMember}
    {pair : CreateChannelMember × CreateChannelMember}
    (h : validateDirectMembers members = .ok pair) : pair.1.agentId ≠ pair.2.agentId := by
  unfold validateDirectMembers at h
  split at h
  · rename_i a b
    split at h
    · cases h
    · rename_i hne
      cases h
      split
      · exact Ne.symm hne
      · exact hne
  · cases h

theorem openDirectPair_enrolls (hlog : LogConsistent s) {id name : String}
    {members : List CreateChannelMember} {now : Int} {result : Channel × Bool}
    (h : openDirectPair id name members now s = .ok (result, t)) : Enrolls s t := by
  simp only [openDirectPair, bind_ok, check_ok, read_ok] at h
  obtain ⟨⟨first, second⟩, _, ⟨hpair, rfl⟩, _, _, hagents, existing, _, ⟨_, rfl⟩, h⟩ := h
  obtain rfl := ensureAgents_ok _ hagents
  cases existing with
  | some channel =>
    simp only [bind_ok, read_ok, ensure_ok, pure_ok] at h
    obtain ⟨_, _, ⟨_, rfl⟩, _, _, ⟨_, rfl⟩, _, rfl⟩ := h
    exact .same hlog rfl rfl
  | none =>
    simp only [bind_ok, read_ok, ensure_ok, write_ok, pure_ok, Prod.mk.injEq] at h
    obtain ⟨_, _, ⟨rfl, rfl⟩, _, _, ⟨hnew, rfl⟩, _, _, ⟨_, rfl⟩, _, rfl⟩ := h
    refine .channelCreated hlog (fun c hc => (hnew c hc).1) ?_
    simpa using validateDirectMembers_ok hpair

theorem renameChannel_enrolls (hlog : LogConsistent s) {channelId name : String} {result : Channel}
    (h : renameChannel channelId name s = .ok (result, t)) : Enrolls s t := by
  simp only [renameChannel, bind_ok, check_ok, read_ok, ensure_ok, write_ok, pure_ok,
    Prod.mk.injEq] at h
  obtain ⟨_, _, ⟨_, rfl⟩, _, _, hrow, _, _, ⟨_, rfl⟩, _, _, ⟨rfl, rfl⟩, _, _, ⟨_, rfl⟩, _, _, ⟨_, rfl⟩,
    _, rfl⟩ := h
  obtain ⟨rfl, _⟩ := channelRow_ok hrow
  exact .same hlog rfl (map_updateWhere fun _ _ _ => rfl)

theorem archiveChannel_enrolls (hlog : LogConsistent s) {channelId : String} {now : Int}
    {result : Channel} (h : archiveChannel channelId now s = .ok (result, t)) : Enrolls s t := by
  simp only [archiveChannel, bind_ok, ensure_ok] at h
  obtain ⟨channel, _, hrow, _, _, ⟨_, rfl⟩, h⟩ := h
  obtain ⟨rfl, _⟩ := channelRow_ok hrow
  split at h
  · simp only [bind_ok, write_ok, pure_ok, Prod.mk.injEq] at h
    obtain ⟨_, _, ⟨_, rfl⟩, _, rfl⟩ := h
    exact .same hlog rfl (map_updateWhere fun _ _ _ => rfl)
  · rw [pure_ok] at h
    exact h.2 ▸ .same hlog rfl rfl

theorem addMember_enrolls (hlog : LogConsistent s) {channelId agentId : String}
    {mode : MembershipDeliveryMode} {now : Int} {u : Unit}
    (h : addMemberWithMode channelId agentId mode now s = .ok (u, t)) : Enrolls s t := by
  simp only [addMemberWithMode, bind_ok, check_ok, read_ok] at h
  obtain ⟨channel, _, hrow, _, _, ⟨_, rfl⟩, _, _, hagent, existing, _, ⟨hexisting, rfl⟩, h⟩ := h
  obtain ⟨rfl, hchannel, hid⟩ := channelRow_ok hrow
  obtain rfl := ensureExists_ok hagent
  cases existing with
  | some member =>
    rw [ensure_ok] at h
    exact h.2 ▸ .same hlog rfl rfl
  | none =>
    simp only [bind_ok, read_ok, write_ok, Prod.mk.injEq] at h
    obtain ⟨_, _, ⟨_, rfl⟩, _, rfl⟩ := h
    refine ⟨rfl, hlog.memberKeys.append (.singleton _ _) fun x hx y hy heq => ?_, fun m hm => ?_⟩
    · rw [List.mem_singleton.mp hy] at heq
      obtain ⟨hc, ha⟩ := Prod.ext_iff.mp heq
      exact absurd (List.find?_eq_none.mp hexisting x hx) (by simpa using ⟨hc, ha⟩)
    · rcases List.mem_append.mp hm with hm | hm
      · exact hlog.memberChannel m hm
      · rw [List.mem_singleton.mp hm]
        exact List.mem_map.mpr ⟨channel, hchannel, hid⟩

theorem advanceReadCursor_enrolls (hlog : LogConsistent s) {channelId agentId : String}
    {throughSeq : Int} {result : Nat}
    (h : advanceMemberReadCursor channelId agentId throughSeq s = .ok (result, t)) :
    Enrolls s t := by
  simp only [advanceMemberReadCursor, bind_ok, read_ok, ensure_ok, write_ok, require_ok, pure_ok,
    Prod.mk.injEq] at h
  obtain ⟨_, _, ⟨_, rfl⟩, _, _, hchannel, _, _, hmember, _, _, ⟨_, rfl⟩, _, _, ⟨_, rfl⟩, _, _, ⟨_, rfl⟩,
    _, _, ⟨_, rfl⟩, _, _, ⟨_, rfl⟩, _, _, ⟨_, rfl⟩, _, rfl⟩ := h
  obtain rfl := ensureExists_ok hchannel
  obtain rfl := ensureMember_ok hmember
  refine ⟨rfl, hlog.memberKeys.updateWhere fun _ _ _ => rfl, fun m hm => ?_⟩
  obtain ⟨x, hx, rfl⟩ := mem_updateWhere.mp hm
  split
  · exact hlog.memberChannel x hx
  · exact hlog.memberChannel x hx

end Fleetd
