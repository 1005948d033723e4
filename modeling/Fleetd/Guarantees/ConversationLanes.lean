import Mathlib.Data.List.Induction
import Fleetd.Client.ConversationSession
import Fleetd.Relational.Trace

/-!
# What a lane holds

After every run of a conversation session each lane holds the newest of the messages that it took
in, in order, under exactly the indexes of these messages, and its cursor follows its stream alone.
If the streams deliver a channel in order from where they were opened, nothing that a lane has
passed is missing between the messages it holds.
-/

namespace Fleetd.Client

open Relational Replay
open Serde (Value)

variable {Json : Type}

/-! ## One lane -/

namespace ChannelLane

/-- The indexes of a lane hold exactly its messages. -/
structure Indexed (lane : ChannelLane Json) : Prop where
  bySequence : ∀ seq m, lane.bySequence seq = some m ↔ m ∈ lane.messages ∧ m.seq = seq
  byId : ∀ id m, lane.byId id = some m ↔ m ∈ lane.messages ∧ m.id = id

/-- What a lane holds of the messages it took in. -/
structure Kept (maxRetainedMessages : Nat) (lane : ChannelLane Json) : Prop extends Indexed lane where
  retains : Retains (·.seq) maxRetainedMessages lane.messages lane.taken
  channel : ∀ m ∈ lane.taken, m.channelId = lane.channelId

variable {lane other : ChannelLane Json} {message : Message Json} {bound : Nat}

/-- Messages of a lane with one identity are one message. -/
theorem Indexed.eq_of_id (h : lane.Indexed) {m m' : Message Json} (hm : m ∈ lane.messages)
    (hm' : m' ∈ lane.messages) (hid : m.id = m'.id) : m = m' := by
  have hfound := (h.byId m.id m).2 ⟨hm, rfl⟩
  rw [(h.byId m.id m').2 ⟨hm', hid.symm⟩] at hfound
  exact (Option.some.inj hfound).symm

theorem Indexed.eq_of_seq (h : lane.Indexed) {m m' : Message Json} (hm : m ∈ lane.messages)
    (hm' : m' ∈ lane.messages) (hseq : m.seq = m'.seq) : m = m' := by
  have hfound := (h.bySequence m.seq m).2 ⟨hm, rfl⟩
  rw [(h.bySequence m.seq m').2 ⟨hm', hseq.symm⟩] at hfound
  exact (Option.some.inj hfound).symm

/-- Taking a message off the low end takes it off the indexes. -/
theorem Indexed.expire {expired : Message Json} {rest : List (Message Json)} (h : lane.Indexed)
    (hmessages : lane.messages = expired :: rest) (hnodup : lane.messages.Nodup) :
    Indexed { lane with
      messages := rest
      bySequence := Function.update lane.bySequence expired.seq none
      byId := Function.update lane.byId expired.id none } := by
  have hexpired : expired ∈ lane.messages := hmessages ▸ List.mem_cons_self
  have hrest : ∀ m, m ∈ rest ↔ m ∈ lane.messages ∧ m ≠ expired := by
    intro m
    rw [hmessages] at hnodup ⊢
    rw [List.mem_cons]
    constructor
    · intro hm
      refine ⟨.inr hm, ?_⟩
      rintro rfl
      exact (List.nodup_cons.1 hnodup).1 hm
    · rintro ⟨rfl | hm, hne⟩
      · exact absurd rfl hne
      · exact hm
  constructor
  case bySequence =>
    intro seq m
    show Function.update lane.bySequence expired.seq none seq = some m ↔ m ∈ rest ∧ m.seq = seq
    rw [hrest]
    by_cases hseq : seq = expired.seq
    · rw [hseq, Function.update_self]
      constructor
      · intro hnone
        cases hnone
      · rintro ⟨⟨hm, hne⟩, heq⟩
        exact absurd (h.eq_of_seq hm hexpired heq) hne
    · rw [Function.update_of_ne hseq, h.bySequence]
      constructor
      · rintro ⟨hm, rfl⟩
        exact ⟨⟨hm, fun heq => hseq (congrArg Message.seq heq)⟩, rfl⟩
      · rintro ⟨⟨hm, _⟩, heq⟩
        exact ⟨hm, heq⟩
  case byId =>
    intro id m
    show Function.update lane.byId expired.id none id = some m ↔ m ∈ rest ∧ m.id = id
    rw [hrest]
    by_cases hid : id = expired.id
    · rw [hid, Function.update_self]
      constructor
      · intro hnone
        cases hnone
      · rintro ⟨⟨hm, hne⟩, heq⟩
        exact absurd (h.eq_of_id hm hexpired heq) hne
    · rw [Function.update_of_ne hid, h.byId]
      constructor
      · rintro ⟨hm, rfl⟩
        exact ⟨⟨hm, fun heq => hid (congrArg Message.id heq)⟩, rfl⟩
      · rintro ⟨⟨hm, _⟩, heq⟩
        exact ⟨hm, heq⟩

/-- The bound takes the lowest messages and nothing else. -/
theorem enforceMessageBound_spec {rounds : Nat} (hrounds : lane.messages.length ≤ rounds + bound)
    (h : lane.Indexed) (hnodup : lane.messages.Nodup) :
    (lane.enforceMessageBound bound rounds).Indexed ∧
      (lane.enforceMessageBound bound rounds).messages =
        lane.messages.drop (lane.messages.length - bound) := by
  induction rounds generalizing lane with
  | zero =>
    have hzero : lane.messages.length - bound = 0 := by omega
    rw [enforceMessageBound, hzero, List.drop_zero]
    exact ⟨h, rfl⟩
  | succ rounds ih =>
    rw [enforceMessageBound]
    split
    case isTrue hmany =>
      cases hmessages : lane.messages with
      | nil =>
        rw [hmessages] at hmany
        cases hmany
      | cons expired rest =>
        rw [hmessages] at hrounds hmany
        rw [List.length_cons] at hrounds hmany
        have hfewer : rest.length ≤ rounds + bound := by omega
        have hrest : rest.Nodup := (List.nodup_cons.1 (hmessages ▸ hnodup)).2
        obtain ⟨hindexed, hdrop⟩ :=
          @ih { lane with
            messages := rest
            bySequence := Function.update lane.bySequence expired.seq none
            byId := Function.update lane.byId expired.id none } hfewer
            (h.expire hmessages hnodup) hrest
        refine ⟨hindexed, ?_⟩
        have hone : (expired :: rest).length - bound = rest.length - bound + 1 := by
          rw [List.length_cons]
          omega
        rw [hdrop, hone, List.drop_succ_cons]
    case isFalse hfew =>
      have hzero : lane.messages.length - bound = 0 := by omega
      rw [hzero, List.drop_zero]
      exact ⟨h, rfl⟩

/-- The bound changes nothing else of the lane. -/
theorem enforceMessageBound_same (bound rounds : Nat) (lane : ChannelLane Json) :
    (lane.enforceMessageBound bound rounds).channelId = lane.channelId ∧
      (lane.enforceMessageBound bound rounds).cursor = lane.cursor ∧
      (lane.enforceMessageBound bound rounds).taken = lane.taken := by
  induction rounds generalizing lane with
  | zero => exact ⟨rfl, rfl, rfl⟩
  | succ rounds ih =>
    rw [enforceMessageBound]
    split
    · split
      · exact ⟨rfl, rfl, rfl⟩
      · exact ih _
    · exact ⟨rfl, rfl, rfl⟩

/-- Putting in a message is told by the history of the lane. -/
theorem insert_same (bound : Nat) (message : Message Json) (lane : ChannelLane Json) :
    (lane.insert bound message).channelId = lane.channelId ∧
      (lane.insert bound message).cursor = lane.cursor ∧
      (lane.insert bound message).taken = lane.taken ++ [message] :=
  enforceMessageBound_same bound _ _

/-- Putting in a message that neither index knows keeps the lane. -/
theorem Kept.insert (h : lane.Kept bound) (hchannel : message.channelId = lane.channelId)
    (hseq : lane.bySequence message.seq = none) (hid : lane.byId message.id = none) :
    (lane.insert bound message).Kept bound := by
  have hnew : ∀ m ∈ lane.messages, m.seq ≠ message.seq := by
    intro m hm heq
    rw [(h.bySequence message.seq m).2 ⟨hm, heq⟩] at hseq
    cases hseq
  have hnewId : ∀ m ∈ lane.messages, m.id ≠ message.id := by
    intro m hm heq
    rw [(h.byId message.id m).2 ⟨hm, heq⟩] at hid
    cases hid
  let placed : ChannelLane Json := { lane with
    bySequence := Function.update lane.bySequence message.seq (some message)
    byId := Function.update lane.byId message.id (some message)
    messages := insertSorted (·.seq) message lane.messages
    taken := lane.taken ++ [message] }
  have hplaced : placed.Indexed := by
    constructor
    case bySequence =>
      intro seq m
      show Function.update lane.bySequence message.seq (some message) seq = some m ↔
        m ∈ insertSorted (·.seq) message lane.messages ∧ m.seq = seq
      rw [mem_insertSorted]
      by_cases heq : seq = message.seq
      · rw [heq, Function.update_self, Option.some.injEq]
        constructor
        · rintro rfl
          exact ⟨.inl rfl, rfl⟩
        · rintro ⟨rfl | hm, hm'⟩
          · rfl
          · exact absurd hm' (hnew m hm)
      · rw [Function.update_of_ne heq, h.bySequence]
        constructor
        · rintro ⟨hm, hm'⟩
          exact ⟨.inr hm, hm'⟩
        · rintro ⟨rfl | hm, hm'⟩
          · exact absurd hm'.symm heq
          · exact ⟨hm, hm'⟩
    case byId =>
      intro id m
      show Function.update lane.byId message.id (some message) id = some m ↔
        m ∈ insertSorted (·.seq) message lane.messages ∧ m.id = id
      rw [mem_insertSorted]
      by_cases heq : id = message.id
      · rw [heq, Function.update_self, Option.some.injEq]
        constructor
        · rintro rfl
          exact ⟨.inl rfl, rfl⟩
        · rintro ⟨rfl | hm, hm'⟩
          · rfl
          · exact absurd hm' (hnewId m hm)
      · rw [Function.update_of_ne heq, h.byId]
        constructor
        · rintro ⟨hm, hm'⟩
          exact ⟨.inr hm, hm'⟩
        · rintro ⟨rfl | hm, hm'⟩
          · exact absurd hm'.symm heq
          · exact ⟨hm, hm'⟩
  have hascending := insertSorted_ascending h.retains.ascending hnew
  have hnodup : placed.messages.Nodup :=
    hascending.imp fun hlt heq => absurd (heq ▸ hlt) (Nat.lt_irrefl _)
  obtain ⟨hindexed, hmessages⟩ := enforceMessageBound_spec (Nat.le_add_right _ bound) hplaced hnodup
  obtain ⟨hchannelId, -, htaken⟩ := insert_same bound message lane
  have hretains := h.retains.insert hnew
  have hlength : (insertSorted (·.seq) message lane.messages).length = lane.messages.length + 1 :=
    length_insertSorted
  rw [← hlength] at hretains
  refine ⟨hindexed, ?_, ?_⟩
  · rw [htaken, ChannelLane.insert, hmessages]
    exact hretains
  · intro m hm
    rw [htaken] at hm
    rw [hchannelId]
    rcases List.mem_append.1 hm with hm | hm
    · exact h.channel m hm
    · rw [List.mem_singleton.1 hm]
      exact hchannel

/-- A message that contradicts nothing is held if an index knows it. -/
theorem Kept.held [DecidableEq Json] (h : lane.Kept bound) (hconflicts : lane.conflicts message = false)
    (hknown : ¬(lane.bySequence message.seq = none ∧ lane.byId message.id = none)) :
    message ∈ lane.messages := by
  simp only [conflicts, Bool.or_eq_false_iff] at hconflicts
  obtain ⟨⟨_, hbySequence⟩, hbyId⟩ := hconflicts
  cases hseq : lane.bySequence message.seq with
  | some held =>
    rw [hseq, Option.any_some, decide_eq_false_iff_not, not_not] at hbySequence
    rw [hbySequence] at hseq
    exact ((h.bySequence _ _).1 hseq).1
  | none =>
    cases hid : lane.byId message.id with
    | some held =>
      rw [hid, Option.any_some, decide_eq_false_iff_not, not_not] at hbyId
      rw [hbyId] at hid
      exact ((h.byId _ _).1 hid).1
    | none => exact absurd ⟨hseq, hid⟩ hknown

/-- What accepting a message does to the lane. -/
structure Accepted (bound : Nat) (message : Message Json) (fromStream : Bool)
    (lane next : ChannelLane Json) : Prop where
  kept : next.Kept bound
  channelId : next.channelId = lane.channelId
  cursor : next.cursor = if fromStream then max lane.cursor message.seq else lane.cursor
  taken : next.taken = lane.taken ∨ next.taken = lane.taken ++ [message]
  passed : message ∈ next.taken ∨ message.seq ≤ lane.cursor

theorem cursor_advance (fromStream : Bool) : (lane.advance message fromStream).cursor =
    if fromStream then max lane.cursor message.seq else lane.cursor := by
  rw [advance]
  cases fromStream with
  | false => rfl
  | true =>
    by_cases hlt : lane.cursor < message.seq
    · rw [if_pos ⟨rfl, hlt⟩]
      exact (Nat.max_eq_right (Nat.le_of_lt hlt)).symm
    · rw [if_neg fun hboth => hlt hboth.2]
      exact (Nat.max_eq_left (Nat.le_of_not_lt hlt)).symm

theorem advance_same (lane : ChannelLane Json) (message : Message Json) (fromStream : Bool)
    (bound : Nat) : (lane.advance message fromStream).channelId = lane.channelId ∧
      (lane.advance message fromStream).taken = lane.taken ∧
      (lane.Kept bound → (lane.advance message fromStream).Kept bound) := by
  rw [advance]
  split
  · exact ⟨rfl, rfl, fun h => ⟨⟨h.bySequence, h.byId⟩, h.retains, h.channel⟩⟩
  · exact ⟨rfl, rfl, id⟩

theorem accept_channelId (lane : ChannelLane Json) (bound : Nat) (message : Message Json)
    (fromStream : Bool) : (lane.accept bound message fromStream).channelId = lane.channelId := by
  rw [ChannelLane.accept, (advance_same _ message fromStream bound).1]
  split
  · exact (insert_same bound message lane).1
  · rfl

/-- A message that contradicts nothing is put in, or is held, or was passed. -/
theorem Kept.accept [DecidableEq Json] (h : lane.Kept bound)
    (hchannel : message.channelId = lane.channelId) (hconflicts : lane.conflicts message = false)
    (fromStream : Bool) :
    Accepted bound message fromStream lane (lane.accept bound message fromStream) := by
  rw [ChannelLane.accept]
  by_cases hnew : lane.bySequence message.seq = none ∧ lane.byId message.id = none ∧
      lane.cursor < message.seq
  · have hkept := h.insert hchannel hnew.1 hnew.2.1
    obtain ⟨hsame, hcursor, htaken⟩ := insert_same bound message lane
    rw [if_pos hnew]
    obtain ⟨hchannelId, htaken', hkept'⟩ :=
      advance_same (lane.insert bound message) message fromStream bound
    rw [htaken] at htaken'
    refine ⟨hkept' hkept, hchannelId.trans hsame, ?_, .inr htaken', .inl ?_⟩
    · rw [cursor_advance, hcursor]
    · rw [htaken']
      exact List.mem_append_right _ (List.mem_singleton_self _)
  · rw [if_neg hnew]
    obtain ⟨hchannelId, htaken, hkept⟩ :=
      advance_same lane message fromStream bound
    refine ⟨hkept h, hchannelId, cursor_advance fromStream, .inl htaken, ?_⟩
    by_cases hknown : lane.bySequence message.seq = none ∧ lane.byId message.id = none
    · exact .inr (Nat.le_of_not_lt fun hlt => hnew ⟨hknown.1, hknown.2, hlt⟩)
    · rw [htaken]
      exact .inl (h.retains.subset (h.held hconflicts hknown))

/-- Two states of a lane that differ at most in what is shown of its members and its stream. -/
structure Eased (lane next : ChannelLane Json) : Prop where
  channelId : next.channelId = lane.channelId
  messages : next.messages = lane.messages
  bySequence : next.bySequence = lane.bySequence
  byId : next.byId = lane.byId
  cursor : next.cursor = lane.cursor
  taken : next.taken = lane.taken

theorem Eased.refl (lane : ChannelLane Json) : Eased lane lane := ⟨rfl, rfl, rfl, rfl, rfl, rfl⟩

theorem Kept.eased (h : lane.Kept bound) (heased : Eased lane other) : other.Kept bound where
  bySequence := by
    rw [heased.bySequence, heased.messages]
    exact h.bySequence
  byId := by
    rw [heased.byId, heased.messages]
    exact h.byId
  retains := by
    rw [heased.messages, heased.taken]
    exact h.retains
  channel := by
    rw [heased.taken, heased.channelId]
    exact h.channel

end ChannelLane

/-! ## One step -/

namespace ConversationSession

/-- Two states of a session that differ at most in what is shown to listeners. -/
structure Shows (s next : ConversationSession Json) : Prop where
  participantId : next.participantId = s.participantId
  options : next.options = s.options
  lanes : next.lanes = s.lanes
  selectedChannelId : next.selectedChannelId = s.selectedChannelId
  selectionGeneration : next.selectionGeneration = s.selectionGeneration
  closed : next.closed = s.closed
  pendingSends : next.pendingSends = s.pendingSends
  sends : next.sends = s.sends
  opened : next.opened = s.opened

section Shows

variable {s t u : ConversationSession Json}

theorem Shows.refl (s : ConversationSession Json) : Shows s s :=
  ⟨rfl, rfl, rfl, rfl, rfl, rfl, rfl, rfl, rfl⟩

theorem Shows.trans (h : Shows s t) (h' : Shows t u) : Shows s u :=
  ⟨h'.1.trans h.1, h'.2.trans h.2, h'.3.trans h.3, h'.4.trans h.4, h'.5.trans h.5, h'.6.trans h.6,
    h'.7.trans h.7, h'.8.trans h.8, h'.9.trans h.9⟩

theorem shows_fail (code : ConversationSessionErrorCode) (message : String)
    (s : ConversationSession Json) : Shows s (s.fail code message) :=
  ⟨rfl, rfl, rfl, rfl, rfl, rfl, rfl, rfl, rfl⟩

theorem shows_failOnce (code : ConversationSessionErrorCode) (message : String)
    (s : ConversationSession Json) : Shows s (s.failOnce code message) := by
  rw [failOnce]
  split
  · exact shows_fail code message s
  · exact Shows.refl s

theorem shows_invalidState (message : String) (s : ConversationSession Json) :
    Shows s (s.invalidState message) :=
  ⟨rfl, rfl, rfl, rfl, rfl, rfl, rfl, rfl, rfl⟩

theorem shows_closeStream (lane : Option (ChannelLane Json)) (s : ConversationSession Json) :
    Shows s (s.closeStream lane) := by
  rw [closeStream]
  split
  · exact ⟨rfl, rfl, rfl, rfl, rfl, rfl, rfl, rfl, rfl⟩
  · exact Shows.refl s

theorem shows_publishLaneState (lane : ChannelLane Json) (s : ConversationSession Json) :
    Shows s (s.publishLaneState lane) := by
  rw [publishLaneState]
  split
  · exact ⟨rfl, rfl, rfl, rfl, rfl, rfl, rfl, rfl, rfl⟩
  · exact Shows.refl s

theorem shows_whileOpen {act : ConversationSession Json → ConversationSession Json}
    (h : Shows s (act s)) : Shows s (whileOpen act s) := by
  rw [whileOpen]
  split
  · exact shows_invalidState _ s
  · exact h

/-- Discovery changes what is shown and nothing else. -/
theorem shows_discovered [NumberSyntax] (failure : String) (found : Option (List String × List Value))
    {next : ConversationSession Json → ConversationSession Json} (hnext : ∀ t, Shows t (next t))
    (s : ConversationSession Json) : Shows s (s.discovered failure found next) := by
  cases found with
  | none => exact shows_fail _ _ s
  | some found =>
    obtain ⟨channels, attention⟩ := found
    have hchannels : Shows s { s with channels := channels } :=
      ⟨rfl, rfl, rfl, rfl, rfl, rfl, rfl, rfl, rfl⟩
    have hattention : ∀ attention, Shows s { s with channels := channels, attention := attention } :=
      fun _ => ⟨rfl, rfl, rfl, rfl, rfl, rfl, rfl, rfl, rfl⟩
    rw [discovered]
    split
    · exact hchannels.trans (shows_fail _ _ _)
    · exact (hattention _).trans (hnext _)

theorem shows_markReadAnswered [NumberSyntax] (channelId : String) (throughSeq : Int)
    (advanced : Option Value) (s : ConversationSession Json) :
    Shows s (s.markReadAnswered channelId throughSeq advanced) := by
  cases advanced with
  | none => exact Shows.refl s
  | some updated =>
    rw [markReadAnswered]
    split
    · exact Shows.refl s
    · split
      · exact ⟨rfl, rfl, rfl, rfl, rfl, rfl, rfl, rfl, rfl⟩
      · exact shows_invalidState _ s

end Shows

/-- A message that a step may put into the lane of a channel: of its current stream, or of a send. -/
inductive Takes (s : ConversationSession Json) (channelId : String) (message : Message Json) :
    SessionStep Json → Bool → Prop
  | stream {generation : Nat} (hcurrent : s.isCurrent channelId generation = true) :
    Takes s channelId message (.streamAccept channelId generation message) true
  | own {index : Nat} (hsend : s.sends[index]? = some channelId) :
    Takes s channelId message (.sendAnswered index (some message)) false

/-- What a step does to the lane of a channel. -/
def Changes [DecidableEq Json] (s : ConversationSession Json) (c : SessionStep Json)
    (next : ConversationSession Json) (channelId : String) : Prop :=
  ChannelLane.Eased (s.lane channelId) (next.lane channelId) ∨
    ∃ message fromStream, Takes s channelId message c fromStream ∧ message.channelId = channelId ∧
      (s.lane channelId).conflicts message = false ∧
      next.lane channelId =
        (s.lane channelId).accept s.options.maxRetainedMessages message fromStream

/-- What one step does to a session. -/
structure Moves [DecidableEq Json] (s : ConversationSession Json) (c : SessionStep Json)
    (next : ConversationSession Json) : Prop where
  options : next.options = s.options
  changes : ∀ channelId, Changes s c next channelId
  selection : next.selectedChannelId = s.selectedChannelId ∧
      next.selectionGeneration = s.selectionGeneration ∧ next.closed = s.closed ∧
      next.opened = s.opened ∨
    next.selectionGeneration = s.selectionGeneration + 1 ∧ ∀ channelId generation,
      next.isCurrent channelId generation = true → ∀ opened ∈ next.opened, opened ∈ s.opened ∨
        opened = ⟨generation, channelId, (s.lane channelId).cursor⟩
  opened : ∀ opened ∈ next.opened, opened ∈ s.opened ∨ opened.generation = next.selectionGeneration
  pendingSends : s.pendingSends = s.sends.length → next.pendingSends = next.sends.length

variable {s next : ConversationSession Json} {c : SessionStep Json} {channelId : String}

theorem Shows.lane (h : Shows s next) (channelId : String) :
    next.lane channelId = s.lane channelId := by
  rw [ConversationSession.lane, ConversationSession.lane, h.lanes]

theorem lane_setLane (lane : ChannelLane Json) (channelId : String) (s : ConversationSession Json) :
    (s.setLane lane).lane channelId =
      if channelId = lane.channelId then lane else s.lane channelId := by
  show (Function.update s.lanes lane.channelId (some lane) channelId).getD _ = _
  rw [Function.update_apply]
  split
  · rfl
  · rfl

variable [DecidableEq Json]

/-- What is only shown moves nothing. -/
theorem Shows.moves (h : Shows s next) : Moves s c next where
  options := h.options
  changes channelId := .inl (by rw [h.lane]; exact ChannelLane.Eased.refl _)
  selection := .inl ⟨h.selectedChannelId, h.selectionGeneration, h.closed, h.opened⟩
  opened opened hopened := .inl (h.opened ▸ hopened)
  pendingSends hpending := by rw [h.pendingSends, h.sends, hpending]

/-- A lane that is eased in place moves nothing else. -/
theorem moves_setLane (lane : ChannelLane Json) (hlane : lane.channelId = channelId)
    (heased : ChannelLane.Eased (s.lane channelId) lane) (h : Shows (s.setLane lane) next) :
    Moves s c next where
  options := h.options
  changes other := by
    left
    rw [h.lane, lane_setLane, hlane]
    split
    case isTrue hsame =>
      rw [hsame]
      exact heased
    case isFalse => exact ChannelLane.Eased.refl _
  selection := .inl ⟨h.selectedChannelId, h.selectionGeneration, h.closed, h.opened⟩
  opened opened hopened := .inl (h.opened ▸ hopened)
  pendingSends hpending := by
    rw [h.pendingSends, h.sends]
    exact hpending

/-- A message is accepted unless it contradicts the lane, and then nothing but a failure is shown. -/
theorem acceptMessage_cases (channelId : String) (message : Message Json) (fromStream : Bool)
    (s : ConversationSession Json) :
    (s.acceptMessage channelId message fromStream).2 = false ∧
        (message.channelId ≠ channelId ∨ (s.lane channelId).conflicts message = true) ∧
        Shows s (s.acceptMessage channelId message fromStream).1 ∨
      (s.acceptMessage channelId message fromStream).2 = true ∧ message.channelId = channelId ∧
        (s.lane channelId).conflicts message = false ∧
        Shows (s.setLane ((s.lane channelId).accept s.options.maxRetainedMessages message fromStream))
          (s.acceptMessage channelId message fromStream).1 := by
  rw [acceptMessage]
  split
  case isTrue hchannel => exact .inl ⟨rfl, .inl hchannel, shows_fail _ _ s⟩
  case isFalse hchannel =>
    split
    case isTrue hconflicts => exact .inl ⟨rfl, .inr hconflicts, shows_fail _ _ s⟩
    case isFalse hconflicts =>
      refine .inr ⟨rfl, not_not.1 hchannel, Bool.eq_false_of_not_eq_true hconflicts, ?_⟩
      dsimp only
      split
      · exact ⟨rfl, rfl, rfl, rfl, rfl, rfl, rfl, rfl, rfl⟩
      · exact Shows.refl _

/-- A lane has the identity of its channel. -/
def Keyed (s : ConversationSession Json) : Prop :=
  ∀ channelId, (s.lane channelId).channelId = channelId

/-- Accepting a message changes the lane of its channel. -/
theorem changes_accept {message : Message Json} {fromStream : Bool} (hkeyed : s.Keyed)
    (htakes : Takes s channelId message c fromStream) (hchannel : message.channelId = channelId)
    (hconflicts : (s.lane channelId).conflicts message = false)
    (hlanes : next.lanes = (s.setLane
      ((s.lane channelId).accept s.options.maxRetainedMessages message fromStream)).lanes)
    (other : String) : Changes s c next other := by
  have hlane : next.lane other = (s.setLane
      ((s.lane channelId).accept s.options.maxRetainedMessages message fromStream)).lane other := by
    rw [ConversationSession.lane, ConversationSession.lane, hlanes]
  rw [lane_setLane, ChannelLane.accept_channelId, hkeyed] at hlane
  by_cases hsame : other = channelId
  · rw [if_pos hsame, ← hsame] at hlane
    rw [← hsame] at htakes hconflicts hchannel
    exact .inr ⟨message, fromStream, htakes, hchannel, hconflicts, hlane⟩
  · rw [if_neg hsame] at hlane
    left
    rw [hlane]
    exact ChannelLane.Eased.refl _

theorem moves_streamAccept (hkeyed : s.Keyed) (generation : Nat) (message : Message Json) :
    Moves s (.streamAccept channelId generation message)
      (s.streamAccept channelId generation message) := by
  rw [streamAccept]
  split
  case isFalse => exact (Shows.refl s).moves
  case isTrue hcurrent =>
    rcases acceptMessage_cases channelId message true s with
      ⟨-, -, hshows⟩ | ⟨-, hchannel, hconflicts, hshows⟩
    · exact hshows.moves
    · exact
        { options := hshows.options
          changes := changes_accept hkeyed (.stream hcurrent) hchannel hconflicts hshows.lanes
          selection := .inl ⟨hshows.selectedChannelId, hshows.selectionGeneration, hshows.closed,
            hshows.opened⟩
          opened := fun opened hmem => .inl (hshows.opened ▸ hmem)
          pendingSends := fun hcount => by
            rw [hshows.pendingSends, hshows.sends]
            exact hcount }

theorem moves_statusChanged (hkeyed : s.Keyed) (generation : Nat)
    (status : ConversationConnectionState) :
    Moves s c (s.statusChanged channelId generation status) := by
  rw [statusChanged]
  split
  case isFalse => exact (Shows.refl s).moves
  case isTrue =>
    apply moves_setLane { s.lane channelId with connection := status } (hkeyed channelId)
      ⟨rfl, rfl, rfl, rfl, rfl, rfl⟩
    refine Shows.trans ?_ (shows_publishLaneState _ _)
    cases status with
    | connecting => exact Shows.refl _
    | reconnecting => exact Shows.refl _
    | live => exact ⟨rfl, rfl, rfl, rfl, rfl, rfl, rfl, rfl, rfl⟩
    | failed =>
      exact (shows_failOnce _ _ _).trans ⟨rfl, rfl, rfl, rfl, rfl, rfl, rfl, rfl, rfl⟩
    | closed =>
      exact (shows_failOnce _ _ _).trans ⟨rfl, rfl, rfl, rfl, rfl, rfl, rfl, rfl, rfl⟩

theorem moves_resumeSelection (hkeyed : s.Keyed) (generation : Nat) :
    Moves s c (s.resumeSelection channelId generation) := by
  have hrefuse : ∀ t : ConversationSession Json, Shows s t → Shows s
      (({ t with selection := none }.failOnce .membershipFailed
        "The selected Fleetd channel could not be opened").closeStream (some (s.lane channelId))) := by
    intro t ht
    refine Shows.trans ?_ (shows_closeStream _ _)
    refine Shows.trans ?_ (shows_failOnce _ _ _)
    exact Shows.trans ht ⟨rfl, rfl, rfl, rfl, rfl, rfl, rfl, rfl, rfl⟩
  rw [resumeSelection]
  split
  case isFalse => exact (Shows.refl s).moves
  case isTrue =>
    dsimp only
    split
    · split
      case isTrue =>
        rename_i members _ _
        apply moves_setLane { s.lane channelId with members := members, membersReady := true }
          (hkeyed channelId) ⟨rfl, rfl, rfl, rfl, rfl, rfl⟩
        refine Shows.trans ?_ (shows_publishLaneState _ _)
        exact ⟨rfl, rfl, rfl, rfl, rfl, rfl, rfl, rfl, rfl⟩
      case isFalse =>
        exact (hrefuse _ ((shows_closeStream _ _).trans (shows_fail _ _ _))).moves
    · exact (hrefuse s (Shows.refl s)).moves
    · exact (hrefuse s (Shows.refl s)).moves
    · exact (Shows.refl s).moves

/-- Leaving the selection, without entering another. -/
theorem moves_leave {left : ConversationSession Json} (hlanes : left.lanes = s.lanes)
    (hoptions : left.options = s.options)
    (hgeneration : left.selectionGeneration = s.selectionGeneration + 1)
    (hopened : left.opened = s.opened) (hpending : left.pendingSends = s.pendingSends)
    (hsends : left.sends = s.sends) (h : Shows left next) : Moves s c next where
  options := h.options.trans hoptions
  changes other := by
    left
    have hlane : left.lane other = s.lane other := by
      rw [ConversationSession.lane, hlanes]
      rfl
    rw [h.lane, hlane]
    exact ChannelLane.Eased.refl _
  selection := .inr ⟨h.selectionGeneration.trans hgeneration, fun _ _ _ opened hmem =>
    .inl ((h.opened.trans hopened) ▸ hmem)⟩
  opened opened hmem := .inl ((h.opened.trans hopened) ▸ hmem)
  pendingSends hcount := by rw [h.pendingSends, hpending, h.sends, hsends, hcount]

theorem moves_clearSelection : Moves s c s.clearSelection := by
  rw [clearSelection, whileOpen]
  split
  case isTrue => exact (shows_invalidState _ s).moves
  case isFalse =>
    let left : ConversationSession Json := { s with
      selection := none
      selectionGeneration := s.selectionGeneration + 1
      selectedChannelId := none }
    have hnext : Shows left
        { left.closeStream s.selectedLane with phase := .ready, error := none }.publish :=
      (shows_closeStream s.selectedLane left).trans ⟨rfl, rfl, rfl, rfl, rfl, rfl, rfl, rfl, rfl⟩
    refine moves_leave ?_ ?_ ?_ ?_ ?_ ?_ hnext <;> rfl

theorem moves_close : Moves s c s.close := by
  rw [close]
  split
  case isTrue => exact (Shows.refl s).moves
  case isFalse =>
    let left : ConversationSession Json := { s with
      closed := true
      selection := none
      selectionGeneration := s.selectionGeneration + 1 }
    have hnext : Shows left
        { left.closeStream s.selectedLane with phase := .closed, error := none }.publish :=
      (shows_closeStream s.selectedLane left).trans ⟨rfl, rfl, rfl, rfl, rfl, rfl, rfl, rfl, rfl⟩
    refine moves_leave ?_ ?_ ?_ ?_ ?_ ?_ hnext <;> rfl

/-- A selection eases the lane that it enters, and opens at most one stream, at its cursor. -/
theorem moves_enter {entered : ConversationSession Json} {lane : ChannelLane Json}
    (hlane : lane.channelId = channelId) (heased : ChannelLane.Eased (s.lane channelId) lane)
    (hlanes : entered.lanes = (s.setLane lane).lanes) (hoptions : entered.options = s.options)
    (hselected : entered.selectedChannelId = some channelId)
    (hgeneration : entered.selectionGeneration = s.selectionGeneration + 1)
    (hopened : entered.opened = s.opened ∨
      entered.opened = s.opened ++ [⟨s.selectionGeneration + 1, channelId, (s.lane channelId).cursor⟩])
    (hpending : entered.pendingSends = s.pendingSends) (hsends : entered.sends = s.sends)
    (h : Shows entered next) : Moves s c next where
  options := h.options.trans hoptions
  changes other := by
    left
    have hother : next.lane other = (s.setLane lane).lane other := by
      rw [h.lane, ConversationSession.lane, hlanes]
      rfl
    rw [hother, lane_setLane, hlane]
    split
    case isTrue hsame =>
      rw [hsame]
      exact heased
    case isFalse => exact ChannelLane.Eased.refl _
  selection := by
    refine .inr ⟨h.selectionGeneration.trans hgeneration, ?_⟩
    intro other generation hcurrent opened hmem
    rw [isCurrent, h.selectedChannelId, hselected, h.selectionGeneration, hgeneration] at hcurrent
    simp only [Bool.and_eq_true, decide_eq_true_eq, Option.some.injEq] at hcurrent
    obtain ⟨⟨_, rfl⟩, rfl⟩ := hcurrent
    rw [h.opened] at hmem
    rcases hopened with hopened | hopened
    · exact .inl (hopened ▸ hmem)
    · rw [hopened, List.mem_append, List.mem_singleton] at hmem
      exact hmem
  opened opened hmem := by
    rw [h.opened] at hmem
    rcases hopened with hopened | hopened
    · exact .inl (hopened ▸ hmem)
    · rw [hopened, List.mem_append, List.mem_singleton] at hmem
      rcases hmem with hmem | rfl
      · exact .inl hmem
      · exact .inr (h.selectionGeneration.trans hgeneration).symm
  pendingSends hcount := by rw [h.pendingSends, hpending, h.sends, hsends, hcount]

omit [DecidableEq Json] in
/-- Entering a channel resets what is shown of its lane. -/
theorem enterChannel_spec (channelId : String) (hkeyed : s.Keyed) :
    ∃ lane : ChannelLane Json, lane.channelId = channelId ∧ ChannelLane.Eased (s.lane channelId) lane ∧
      Shows ({ s with
        selectionGeneration := s.selectionGeneration + 1
        selectedChannelId := some channelId }.setLane lane) (s.enterChannel channelId) := by
  have hleft := shows_closeStream s.selectedLane
    { s with selectionGeneration := s.selectionGeneration + 1 }
  have hlane := hleft.lane channelId
  refine ⟨{ s.lane channelId with membersReady := false, connection := .connecting },
    hkeyed channelId, ⟨rfl, rfl, rfl, rfl, rfl, rfl⟩, ?_⟩
  constructor
  case lanes =>
    rw [enterChannel]
    dsimp only
    rw [hlane]
    show Function.update (ConversationSession.lanes _) _ _ = Function.update s.lanes _ _
    rw [hleft.lanes]
    rfl
  all_goals first
    | rfl
    | exact hleft.participantId
    | exact hleft.options
    | exact hleft.selectionGeneration
    | exact hleft.closed
    | exact hleft.pendingSends
    | exact hleft.sends
    | exact hleft.opened

theorem moves_selectChannel (hkeyed : s.Keyed) (opens : Bool) :
    Moves s c (s.selectChannel channelId opens) := by
  obtain ⟨lane, hlane, heased, hentered⟩ := enterChannel_spec channelId hkeyed
  have hfound : (s.enterChannel channelId).lane channelId = lane := by
    rw [hentered.lane, lane_setLane, if_pos hlane.symm]
  rw [selectChannel, whileOpen]
  split
  case isTrue => exact (shows_invalidState _ s).moves
  case isFalse =>
    split
    case isTrue => exact (shows_invalidState _ s).moves
    case isFalse =>
      dsimp only
      rw [hfound]
      cases opens with
      | true =>
        rw [if_pos rfl]
        let waiting : ChannelLane Json :=
          { lane with stream := some (s.enterChannel channelId).selectionGeneration }
        have hwaiting : ChannelLane.Eased (s.lane channelId) waiting :=
          ⟨heased.channelId, heased.messages, heased.bySequence, heased.byId, heased.cursor, heased.taken⟩
        have hlanes : Function.update (s.enterChannel channelId).lanes lane.channelId (some waiting) =
            Function.update s.lanes lane.channelId (some waiting) := by
          rw [hentered.lanes]
          exact Function.update_idem _ _ _
        have hopened : (s.enterChannel channelId).opened ++
            [⟨(s.enterChannel channelId).selectionGeneration, channelId, lane.cursor⟩] =
              s.opened ++ [⟨s.selectionGeneration + 1, channelId, (s.lane channelId).cursor⟩] := by
          rw [hentered.opened, hentered.selectionGeneration, heased.cursor]
          rfl
        have hwaitingId : waiting.channelId = channelId := hlane
        apply moves_enter hwaitingId hwaiting (h := Shows.refl _)
        case hlanes => exact hlanes
        case hoptions => exact hentered.options
        case hselected => exact hentered.selectedChannelId
        case hgeneration => exact hentered.selectionGeneration
        case hopened => exact .inr hopened
        case hpending => exact hentered.pendingSends
        case hsends => exact hentered.sends
      | false =>
        rw [if_neg (by decide)]
        exact moves_enter hlane heased hentered.lanes hentered.options hentered.selectedChannelId
          hentered.selectionGeneration (.inl hentered.opened) hentered.pendingSends hentered.sends
          ((shows_failOnce _ _ _).trans (shows_closeStream _ _))

/-- A send is counted until it ends. -/
theorem moves_sendCalled : Moves s c s.sendCalled := by
  rw [sendCalled, whileOpen]
  split
  case isTrue => exact (shows_invalidState _ s).moves
  case isFalse =>
    split
    · split
      case isTrue => exact (shows_invalidState _ s).moves
      case isFalse =>
        exact
          { options := rfl
            changes := fun _ => .inl (ChannelLane.Eased.refl _)
            selection := .inl ⟨rfl, rfl, rfl, rfl⟩
            opened := fun _ hmem => .inl hmem
            pendingSends := fun hcount => by
              show s.pendingSends + 1 = (s.sends ++ [_]).length
              rw [List.length_append, List.length_singleton, hcount] }
    · exact (shows_invalidState _ s).moves

/-- A send that ended is no longer counted, and its message may be in its lane. -/
theorem moves_sendAnswered (hkeyed : s.Keyed) (index : Nat) (result : Option (Message Json)) :
    Moves s (.sendAnswered index result) (s.sendAnswered index result) := by
  rw [sendAnswered]
  cases hsend : s.sends[index]? with
  | none => exact (Shows.refl s).moves
  | some sent =>
    let ended : ConversationSession Json := { s with sends := s.sends.eraseIdx index }
    obtain ⟨hindex, -⟩ := List.getElem?_eq_some_iff.1 hsend
    have hcount : ∀ answered : ConversationSession Json, answered.pendingSends = s.pendingSends →
        answered.sends = s.sends.eraseIdx index → s.pendingSends = s.sends.length →
          answered.pendingSends - 1 = answered.sends.length := by
      intro answered hpending hsends hcount
      rw [hpending, hsends, List.length_eraseIdx_of_lt hindex, hcount]
    have hquiet : ∀ answered : ConversationSession Json, Shows ended answered →
        Moves s (.sendAnswered index result)
          { answered with pendingSends := answered.pendingSends - 1 }.publish := by
      intro answered hshows
      exact
        { options := hshows.options
          changes := fun other => .inl (by
            have hlane : ended.lane other = s.lane other := rfl
            have hanswered := hshows.lane other
            rw [hlane] at hanswered
            show ChannelLane.Eased (s.lane other) (answered.lane other)
            rw [hanswered]
            exact ChannelLane.Eased.refl _)
          selection := .inl ⟨hshows.selectedChannelId, hshows.selectionGeneration, hshows.closed,
            hshows.opened⟩
          opened := fun opened hmem => .inl (hshows.opened ▸ hmem)
          pendingSends := hcount answered hshows.pendingSends hshows.sends }
    cases result with
    | none => exact hquiet _ (shows_failOnce _ _ _)
    | some message =>
      dsimp only
      split
      case isTrue => exact hquiet _ ((shows_fail _ _ _).trans (shows_failOnce _ _ _))
      case isFalse =>
        rcases acceptMessage_cases sent message false ended with
          ⟨hresult, -, hshows⟩ | ⟨hresult, hchannel, hconflicts, hshows⟩
        · split
          case h_1 heq =>
            rw [heq] at hresult
            cases hresult
          case h_2 heq =>
            rw [heq] at hshows
            exact hquiet _ (hshows.trans (shows_failOnce _ _ _))
        · split
          case h_2 heq =>
            rw [heq] at hresult
            cases hresult
          case h_1 heq =>
            rw [heq] at hshows
            exact
              { options := hshows.options
                changes := changes_accept hkeyed (.own hsend) hchannel hconflicts hshows.lanes
                selection := .inl ⟨hshows.selectedChannelId, hshows.selectionGeneration,
                  hshows.closed, hshows.opened⟩
                opened := fun opened hmem => .inl (hshows.opened ▸ hmem)
                pendingSends := hcount _ hshows.pendingSends hshows.sends }

/-- Every step moves a session. -/
theorem moves_step [NumberSyntax] (hkeyed : s.Keyed) (c : SessionStep Json) : Moves s c (step c s) := by
  cases c with
  | startCalled =>
    apply Shows.moves
    apply shows_whileOpen
    exact ⟨rfl, rfl, rfl, rfl, rfl, rfl, rfl, rfl, rfl⟩
  | startAnswered found =>
    have hnext : ∀ t : ConversationSession Json,
        Shows t (if t.closed then t else { t with phase := .ready }.publish) := by
      intro t
      split
      · exact Shows.refl t
      · exact ⟨rfl, rfl, rfl, rfl, rfl, rfl, rfl, rfl, rfl⟩
    exact (shows_discovered _ found hnext s).moves
  | refreshCalled => exact (shows_whileOpen (Shows.refl s)).moves
  | refreshAnswered found =>
    have hnext : ∀ t : ConversationSession Json, Shows t { t with error := none }.publish :=
      fun _ => ⟨rfl, rfl, rfl, rfl, rfl, rfl, rfl, rfl, rfl⟩
    exact (shows_discovered _ found hnext s).moves
  | attentionCalled => exact (shows_whileOpen (Shows.refl s)).moves
  | attentionAnswered found =>
    apply Shows.moves
    show Shows s (s.attentionAnswered found)
    rw [attentionAnswered]
    split
    · exact ⟨rfl, rfl, rfl, rfl, rfl, rfl, rfl, rfl, rfl⟩
    · exact Shows.refl s
  | markReadCalled throughSeq =>
    apply Shows.moves
    apply shows_whileOpen
    split
    · exact Shows.refl s
    · exact shows_invalidState _ s
  | markReadAnswered channelId throughSeq advanced =>
    exact (shows_markReadAnswered channelId throughSeq advanced s).moves
  | selectChannel channelId opens => exact moves_selectChannel hkeyed opens
  | streamAccept channelId generation message => exact moves_streamAccept hkeyed generation message
  | statusChanged channelId generation status => exact moves_statusChanged hkeyed generation status
  | streamSettled channelId generation resolved =>
    apply Shows.moves
    show Shows s (s.streamSettled channelId generation resolved)
    rw [streamSettled]
    split
    · exact shows_failOnce _ _ s
    · exact Shows.refl s
  | membersListed channelId generation members =>
    apply Shows.moves
    show Shows s (s.membersListed channelId generation members)
    rw [membersListed]
    split
    · exact ⟨rfl, rfl, rfl, rfl, rfl, rfl, rfl, rfl, rfl⟩
    · exact Shows.refl s
  | resumeSelection channelId generation => exact moves_resumeSelection hkeyed generation
  | clearSelection => exact moves_clearSelection
  | sendCalled => exact moves_sendCalled
  | sendAnswered index result => exact moves_sendAnswered hkeyed index result
  | close => exact moves_close

/-- A step leaves a lane as it is or accepts one message of its channel. -/
theorem Changes.lane (h : Changes s c next channelId) (hkeyed : s.Keyed) {bound : Nat}
    (hbound : s.options.maxRetainedMessages = bound) (hkept : (s.lane channelId).Kept bound) :
    ChannelLane.Eased (s.lane channelId) (next.lane channelId) ∨
      ∃ message fromStream, Takes s channelId message c fromStream ∧
        ChannelLane.Accepted bound message fromStream (s.lane channelId) (next.lane channelId) := by
  rcases h with heased | ⟨message, fromStream, htakes, hchannel, hconflicts, hlane⟩
  · exact .inl heased
  · right
    refine ⟨message, fromStream, htakes, ?_⟩
    rw [hlane, hbound]
    exact hkept.accept (hchannel.trans (hkeyed channelId).symm) hconflicts fromStream

/-! ## A run -/

section Run

variable [NumberSyntax] {participantId : String} {options : ConversationSessionOptions}
  {cs : List (SessionStep Json)} {log : List (Message Json)}

/-- The state after a run of a new session. -/
def after (participantId : String) (options : ConversationSessionOptions)
    (cs : List (SessionStep Json)) : ConversationSession Json :=
  runFrom step (new participantId options) cs

/-- What every state of a session has. -/
structure Sound (options : ConversationSessionOptions) (s : ConversationSession Json) : Prop where
  keyed : s.Keyed
  kept : ∀ channelId, (s.lane channelId).Kept options.maxRetainedMessages
  pendingSends : s.pendingSends = s.sends.length
  options : s.options = options

omit [DecidableEq Json] [NumberSyntax] in
theorem sound_new : Sound options (new participantId options : ConversationSession Json) where
  options := rfl
  keyed _ := rfl
  kept _ :=
    { bySequence := fun _ _ => iff_of_false (fun h => Option.some_ne_none _ h.symm) fun h => List.not_mem_nil h.1
      byId := fun _ _ => iff_of_false (fun h => Option.some_ne_none _ h.symm) fun h => List.not_mem_nil h.1
      retains := Retains.nil
      channel := fun _ h => absurd h List.not_mem_nil }
  pendingSends := rfl

theorem Sound.step (h : Sound options s) (c : SessionStep Json) : Sound options (step c s) := by
  have hmoves := moves_step h.keyed c
  have hbound : s.options.maxRetainedMessages = options.maxRetainedMessages := by rw [h.options]
  constructor
  case options => exact hmoves.options.trans h.options
  case keyed =>
    intro channelId
    rcases (hmoves.changes channelId).lane h.keyed hbound (h.kept channelId) with
      heased | ⟨message, fromStream, -, haccepted⟩
    · exact heased.channelId.trans (h.keyed channelId)
    · exact haccepted.channelId.trans (h.keyed channelId)
  case kept =>
    intro channelId
    rcases (hmoves.changes channelId).lane h.keyed hbound (h.kept channelId) with
      heased | ⟨message, fromStream, -, haccepted⟩
    · exact (h.kept channelId).eased heased
    · exact haccepted.kept
  case pendingSends => exact hmoves.pendingSends h.pendingSends

theorem sound_after (participantId : String) (options : ConversationSessionOptions)
    (cs : List (SessionStep Json)) : Sound options (after participantId options cs) :=
  runFrom_induction (Sound options) (fun _ => True) (fun c _ _ h => h.step c) sound_new
    fun _ _ => trivial

/-- The cursor of a lane moves forward, and only to a message of its current stream. -/
theorem Sound.cursor (h : Sound options s) (c : SessionStep Json) (channelId : String) :
    (s.lane channelId).cursor ≤ ((ConversationSession.step c s).lane channelId).cursor ∧
      (((ConversationSession.step c s).lane channelId).cursor = (s.lane channelId).cursor ∨
        ∃ generation message, c = .streamAccept channelId generation message ∧
          s.isCurrent channelId generation = true ∧
          ((ConversationSession.step c s).lane channelId).cursor = message.seq) := by
  have hmoves := moves_step h.keyed c
  have hbound : s.options.maxRetainedMessages = options.maxRetainedMessages := by rw [h.options]
  rcases (hmoves.changes channelId).lane h.keyed hbound (h.kept channelId) with
    heased | ⟨message, fromStream, htakes, haccepted⟩
  · exact ⟨Nat.le_of_eq heased.cursor.symm, .inl heased.cursor⟩
  · have hcursor := haccepted.cursor
    cases htakes with
    | stream hcurrent =>
      rename_i generation
      rw [if_pos rfl] at hcursor
      refine ⟨by omega, ?_⟩
      by_cases hbehind : message.seq ≤ (s.lane channelId).cursor
      · exact .inl (hcursor.trans (Nat.max_eq_left hbehind))
      · exact .inr ⟨generation, message, rfl, hcurrent,
          hcursor.trans (Nat.max_eq_right (Nat.le_of_not_le hbehind))⟩
    | own hsend =>
      rw [if_neg (by decide)] at hcursor
      exact ⟨Nat.le_of_eq hcursor.symm, .inl hcursor⟩

/-- The durable messages of a channel. -/
structure ChannelLog (channelId : String) (log : List (Message Json)) : Prop where
  channel : ∀ m ∈ log, m.channelId = channelId
  positive : ∀ m ∈ log, 0 < m.seq
  seq : ∀ m ∈ log, ∀ m' ∈ log, m.seq = m'.seq → m = m'
  id : ∀ m ∈ log, ∀ m' ∈ log, m.id = m'.id → m = m'

/-- A stream offers the log of its channel in order from where it was opened, and a send answers
with a message of the log. -/
def Offers (channelId : String) (log : List (Message Json)) (before : List (SessionStep Json))
    (s : ConversationSession Json) : SessionStep Json → Prop
  | .streamAccept other generation message => other = channelId → message ∈ log ∧
      ∃ opened ∈ s.opened, opened.generation = generation ∧ opened.channelId = channelId ∧
        ∀ m ∈ log, opened.after < m.seq → m.seq < message.seq →
          .streamAccept channelId generation m ∈ before
  | .sendAnswered index (some message) => s.sends[index]? = some channelId → message ∈ log
  | _ => True

/-- Every step of a run offers a channel as its log has it. -/
def OffersAlong (channelId : String) (log : List (Message Json)) (participantId : String)
    (options : ConversationSessionOptions) (cs : List (SessionStep Json)) : Prop :=
  ∀ before c, before ++ [c] <+: cs →
    Offers channelId log before (after participantId options before) c

/-- How a lane follows the log of its channel. -/
structure Follows (channelId : String) (log : List (Message Json)) (cs : List (SessionStep Json))
    (s : ConversationSession Json) : Prop where
  taken : (s.lane channelId).taken ⊆ log
  passed : ∀ m ∈ log, m.seq ≤ (s.lane channelId).cursor → m ∈ (s.lane channelId).taken
  opened : ∀ opened ∈ s.opened, opened.generation ≤ s.selectionGeneration
  offered : ∀ generation m, .streamAccept channelId generation m ∈ cs →
    generation ≤ s.selectionGeneration
  starts : ∀ generation, s.isCurrent channelId generation = true → ∀ opened ∈ s.opened,
    opened.generation = generation → opened.channelId = channelId →
      opened.after ≤ (s.lane channelId).cursor
  behind : ∀ generation, s.isCurrent channelId generation = true → ∀ m,
    .streamAccept channelId generation m ∈ cs → m.seq ≤ (s.lane channelId).cursor

omit [DecidableEq Json] [NumberSyntax] in
theorem isCurrent_iff {generation : Nat} : s.isCurrent channelId generation = true ↔
    s.closed = false ∧ s.selectedChannelId = some channelId ∧ s.selectionGeneration = generation := by
  rw [isCurrent, Bool.and_eq_true, Bool.and_eq_true, decide_eq_true_iff, decide_eq_true_iff,
    Bool.not_eq_true', and_assoc]

omit [DecidableEq Json] [NumberSyntax] in
theorem follows_new (hlog : ChannelLog channelId log) :
    Follows channelId log [] (new participantId options : ConversationSession Json) where
  taken := List.nil_subset log
  passed m hm hle := absurd hle (Nat.not_le_of_gt (hlog.positive m hm))
  opened _ h := absurd h List.not_mem_nil
  offered _ _ h := absurd h List.not_mem_nil
  starts _ _ _ h := absurd h List.not_mem_nil
  behind _ _ _ h := absurd h List.not_mem_nil

omit [NumberSyntax] in
/-- A message of the log contradicts nothing in a lane that follows the log. -/
theorem Follows.conflicts {bound : Nat} (h : Follows channelId log cs s)
    (hlog : ChannelLog channelId log) (hkept : (s.lane channelId).Kept bound) {message : Message Json}
    (hmessage : message ∈ log) : (s.lane channelId).conflicts message = false := by
  have hbySequence : ∀ held, (s.lane channelId).bySequence message.seq = some held → held = message := by
    intro held hheld
    obtain ⟨hmem, hseq⟩ := (hkept.bySequence _ _).1 hheld
    exact hlog.seq held (h.taken (hkept.retains.subset hmem)) message hmessage hseq
  have hbyId : ∀ held, (s.lane channelId).byId message.id = some held → held = message := by
    intro held hheld
    obtain ⟨hmem, hid⟩ := (hkept.byId _ _).1 hheld
    exact hlog.id held (h.taken (hkept.retains.subset hmem)) message hmessage hid
  rw [ChannelLane.conflicts]
  cases hseq : (s.lane channelId).bySequence message.seq with
  | none =>
    cases hid : (s.lane channelId).byId message.id with
    | none => rfl
    | some held => simp [hbyId held hid]
  | some held =>
    rw [hbySequence held hseq]
    cases hid : (s.lane channelId).byId message.id with
    | none => simp
    | some other => simp [hbyId other hid]

omit [NumberSyntax] in
/-- A message of the log that the current stream offers is accepted. -/
theorem Follows.lane_streamAccept {generation : Nat} {message : Message Json}
    (h : Follows channelId log cs s) (hlog : ChannelLog channelId log) (hsound : Sound options s)
    (hcurrent : s.isCurrent channelId generation = true) (hmessage : message ∈ log) :
    ((s.streamAccept channelId generation message).lane channelId).cursor =
      max (s.lane channelId).cursor message.seq := by
  have hconflicts := h.conflicts hlog (hsound.kept channelId) hmessage
  have hkept := hsound.kept channelId
  rw [← hsound.options] at hkept
  rw [streamAccept, if_pos hcurrent]
  rcases acceptMessage_cases channelId message true s with
    ⟨-, hrefused | hrefused, -⟩ | ⟨-, hchannel, -, hshows⟩
  · exact absurd (hlog.channel message hmessage) hrefused
  · rw [hconflicts] at hrefused
    cases hrefused
  · rw [hshows.lane, lane_setLane, ChannelLane.accept_channelId, hsound.keyed channelId, if_pos rfl]
    exact (hkept.accept (hchannel.trans (hsound.keyed channelId).symm) hconflicts true).cursor

omit [NumberSyntax] in
/-- What of the log a lane follows, a step keeps if it passes nothing that was not taken in. -/
theorem Follows.snoc (h : Follows channelId log cs s) (hmoves : Moves s c next)
    (hcursor : (s.lane channelId).cursor ≤ (next.lane channelId).cursor)
    (htaken : (next.lane channelId).taken ⊆ log)
    (hpassed : ∀ m ∈ log, m.seq ≤ (next.lane channelId).cursor → m ∈ (next.lane channelId).taken)
    (hoffered : ∀ generation m, c = .streamAccept channelId generation m →
      generation ≤ s.selectionGeneration ∧
        (s.isCurrent channelId generation = true → m.seq ≤ (next.lane channelId).cursor)) :
    Follows channelId log (cs ++ [c]) next := by
  have hgeneration : s.selectionGeneration ≤ next.selectionGeneration := by
    rcases hmoves.selection with ⟨-, hsame, -⟩ | ⟨hnext, -⟩
    · exact Nat.le_of_eq hsame.symm
    · omega
  constructor
  case taken => exact htaken
  case passed => exact hpassed
  case opened =>
    intro opened hopened
    rcases hmoves.opened opened hopened with hbefore | hnow
    · exact Nat.le_trans (h.opened opened hbefore) hgeneration
    · exact Nat.le_of_eq hnow
  case offered =>
    intro generation m hm
    rcases List.mem_append.1 hm with hm | hm
    · exact Nat.le_trans (h.offered generation m hm) hgeneration
    · exact Nat.le_trans (hoffered generation m (List.mem_singleton.1 hm).symm).1 hgeneration
  case starts =>
    intro generation hcurrent opened hopened hgen hchannel
    rcases hmoves.selection with ⟨hselected, hsame, hclosed, hstreams⟩ | ⟨hnext, hfresh⟩
    · have hbefore : s.isCurrent channelId generation = true := by
        rw [isCurrent_iff] at hcurrent ⊢
        rw [← hselected, ← hsame, ← hclosed]
        exact hcurrent
      exact Nat.le_trans (h.starts generation hbefore opened (hstreams ▸ hopened) hgen hchannel) hcursor
    · rcases hfresh channelId generation hcurrent opened hopened with hbefore | rfl
      · -- an earlier stream serves an earlier selection
        have hle := h.opened opened hbefore
        have heq := (isCurrent_iff.1 hcurrent).2.2
        omega
      · exact hcursor
  case behind =>
    intro generation hcurrent m hm
    rcases hmoves.selection with ⟨hselected, hsame, hclosed, hstreams⟩ | ⟨hnext, hfresh⟩
    · have hbefore : s.isCurrent channelId generation = true := by
        rw [isCurrent_iff] at hcurrent ⊢
        rw [← hselected, ← hsame, ← hclosed]
        exact hcurrent
      rcases List.mem_append.1 hm with hm | hm
      · exact Nat.le_trans (h.behind generation hbefore m hm) hcursor
      · exact (hoffered generation m (List.mem_singleton.1 hm).symm).2 hbefore
    · -- nothing was offered for the selection that was just made
      have heq := (isCurrent_iff.1 hcurrent).2.2
      rcases List.mem_append.1 hm with hm | hm
      · have hle := h.offered generation m hm
        omega
      · have hle := (hoffered generation m (List.mem_singleton.1 hm).symm).1
        omega

/-- A step that offers the log keeps a lane following it. -/
theorem Follows.step (h : Follows channelId log cs s) (hlog : ChannelLog channelId log)
    (hsound : Sound options s) (hoffers : Offers channelId log cs s c) :
    Follows channelId log (cs ++ [c]) (step c s) := by
  have hmoves := moves_step hsound.keyed c
  have hbound : s.options.maxRetainedMessages = options.maxRetainedMessages := by rw [hsound.options]
  have hoffered : ∀ generation m, c = .streamAccept channelId generation m →
      generation ≤ s.selectionGeneration ∧ (s.isCurrent channelId generation = true →
        m.seq ≤ ((ConversationSession.step c s).lane channelId).cursor) := by
    rintro generation m rfl
    obtain ⟨hm, opened, hopened, rfl, -, -⟩ := hoffers rfl
    refine ⟨h.opened opened hopened, ?_⟩
    intro hcurrent
    show m.seq ≤ ((s.streamAccept channelId opened.generation m).lane channelId).cursor
    rw [h.lane_streamAccept hlog hsound hcurrent hm]
    exact Nat.le_max_right _ _
  have hcursor := (hsound.cursor c channelId).1
  rcases (hmoves.changes channelId).lane hsound.keyed hbound (hsound.kept channelId) with
    heased | ⟨message, fromStream, htakes, haccepted⟩
  · apply h.snoc hmoves hcursor ?_ ?_ hoffered
    · rw [heased.taken]
      exact h.taken
    · rw [heased.taken, heased.cursor]
      exact h.passed
  · have hmessage : message ∈ log := by
      cases htakes with
      | stream hcurrent => exact (hoffers rfl).1
      | own hsend => exact hoffers hsend
    have hgrows : (s.lane channelId).taken ⊆ ((ConversationSession.step c s).lane channelId).taken := by
      rcases haccepted.taken with htaken | htaken
      · rw [htaken]
        exact List.Subset.refl _
      · rw [htaken]
        exact List.subset_append_left _ _
    apply h.snoc hmoves hcursor ?_ ?_ hoffered
    · intro m hm
      rcases haccepted.taken with htaken | htaken
      · exact h.taken (htaken ▸ hm)
      · rw [htaken] at hm
        rcases List.mem_append.1 hm with hm | hm
        · exact h.taken hm
        · exact (List.mem_singleton.1 hm) ▸ hmessage
    · intro m hm hle
      by_cases hbehind : m.seq ≤ (s.lane channelId).cursor
      · exact hgrows (h.passed m hm hbehind)
      · have hlane := haccepted.cursor
        cases htakes with
        | own hsend =>
          rw [if_neg (by decide)] at hlane
          omega
        | stream hcurrent =>
          rw [if_pos rfl] at hlane
          by_cases hsame : m.seq = message.seq
          · rw [hlog.seq m hm message hmessage hsame]
            rcases haccepted.passed with htaken | hpassed
            · exact htaken
            · omega
          · -- the stream offered this one before
            obtain ⟨-, opened, hopened, rfl, hchannel, hbefore⟩ := hoffers rfl
            have hstart := h.starts _ hcurrent opened hopened rfl hchannel
            have hpassed := h.behind _ hcurrent m (hbefore m hm (by omega) (by omega))
            omega

/-- A lane follows its log along every run that offers the log. -/
theorem follows_after (hlog : ChannelLog channelId log)
    (hoffers : OffersAlong channelId log participantId options cs) :
    Follows channelId log cs (after participantId options cs) := by
  induction cs using List.reverseRecOn with
  | nil => exact follows_new hlog
  | append_singleton cs c ih =>
    have hbefore := ih fun before d hearlier =>
      hoffers before d (hearlier.trans (List.prefix_append cs [c]))
    rw [after, runFrom_snoc]
    exact hbefore.step hlog (sound_after participantId options cs)
      (hoffers cs c (List.prefix_refl _))

/-- After every run each lane holds the newest messages that it took in, in order and under exactly
their indexes; its cursor moves forward and only with its current stream; and if its channel is
offered as its log has it, every message up to the cursor is held or is older than all that are. -/
theorem lanes_hold_newest (participantId : String) (options : ConversationSessionOptions)
    (cs : List (SessionStep Json)) (channelId : String) :
    let s := after participantId options cs
    let lane := s.lane channelId
    lane.Kept options.maxRetainedMessages ∧ s.pendingSends = s.sends.length ∧
      (∀ c, lane.cursor ≤ ((step c s).lane channelId).cursor ∧
        (((step c s).lane channelId).cursor = lane.cursor ∨
          ∃ generation message, c = .streamAccept channelId generation message ∧
            s.isCurrent channelId generation = true ∧
            ((step c s).lane channelId).cursor = message.seq)) ∧
      ∀ log, ChannelLog channelId log → OffersAlong channelId log participantId options cs →
        lane.messages ⊆ log ∧ ∀ m ∈ log, m.seq ≤ lane.cursor → m ∈ lane.messages ∨
          lane.messages.length = options.maxRetainedMessages ∧
            ∀ kept ∈ lane.messages, m.seq < kept.seq := by
  intro s lane
  have hsound : Sound options s := sound_after participantId options cs
  have hkept := hsound.kept channelId
  refine ⟨hkept, hsound.pendingSends, fun c => hsound.cursor c channelId, ?_⟩
  intro log hlog hoffers
  have hfollows : Follows channelId log cs s := follows_after hlog hoffers
  refine ⟨fun m hm => hfollows.taken (hkept.retains.subset hm), ?_⟩
  intro m hm hle
  by_cases hheld : m ∈ lane.messages
  · exact .inl hheld
  · exact .inr (hkept.retains.highest m (hfollows.passed m hm hle) hheld)

end Run

end ConversationSession

end Fleetd.Client
