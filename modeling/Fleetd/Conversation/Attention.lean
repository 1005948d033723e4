import Mathlib.Data.List.Sort
import Mathlib.Order.Bounds.Basic
import Fleetd.Kernel.Channel
import Fleetd.Relational.Query
import Fleetd.Serde.Value

/-!
# Attention

What a participant has not read yet, as one query over memberships and messages: every membership
is joined with the messages of its channel, the rows of one membership are grouped, and each group
is summed up in one row.
-/

namespace Fleetd

open Relational
open Serde (Value)

/-- Unread state of one conversation for one participant. -/
structure ConversationAttention where
  channelId : String
  readThroughSeq : Nat
  latestMessageSeq : Option Nat
  unreadCount : Nat
  addressedUnreadCount : Nat
  firstUnreadSeq : Option Nat
  firstAddressedUnreadSeq : Option Nat
  deriving DecidableEq, Repr

/-- A message behind the cursor of a member that somebody else has sent. -/
def isUnread (member : ChannelMember) (message : MessageRow) : Bool :=
  decide (member.readThroughSeq < message.seq) && decide (message.senderId ≠ member.agentId)

/-- An unread message that is addressed to the member. -/
def isAddressedUnread (member : ChannelMember) (message : MessageRow) : Bool :=
  isUnread member message && decide (message.recipientId = some member.agentId)

/-- A joined row whose message satisfies a condition; a row without a message satisfies none. -/
def rowIs (p : ChannelMember → MessageRow → Bool) (row : ChannelMember × Option MessageRow) : Bool :=
  row.2.any (p row.1)

/-- The least sequence of the rows that satisfy a condition. -/
def minSeq (p : ChannelMember → MessageRow → Bool) (rows : List (ChannelMember × Option MessageRow)) :
    Option Nat :=
  (rows.filterMap fun row => row.2.bind fun m => if p row.1 m = true then some m.seq else none).min?

/-- One row of the query, with the time the member joined. -/
def attentionRow (group : (String × Nat) × List (ChannelMember × Option MessageRow)) :
    Int × ConversationAttention :=
  ((group.2.head?.map (·.1.joinedAtMs)).getD 0, {
    channelId := group.1.1
    readThroughSeq := group.1.2
    latestMessageSeq := (group.2.filterMap fun row => row.2.map (·.seq)).max?
    unreadCount := group.2.countP (rowIs isUnread)
    addressedUnreadCount := group.2.countP (rowIs isAddressedUnread)
    firstUnreadSeq := minSeq isUnread group.2
    firstAddressedUnreadSeq := minSeq isAddressedUnread group.2 })

/-- The groups of the memberships that a condition selects. -/
def attentionSelect (keep : ChannelMember → Bool) (s : Store) : List (Int × ConversationAttention) :=
  (groupRows (fun row => (row.1.channelId, row.1.readThroughSeq))
    ((leftJoin (fun (cm : ChannelMember) (m : MessageRow) => decide (m.channelId = cm.channelId))
      s.channelMembers s.messages).filter fun row => keep row.1)).map attentionRow

/-- The order of the rows: by the time the member joined, and then by the channel. -/
def attentionOrder (a b : Int × ConversationAttention) : Prop :=
  a.1 < b.1 ∨ a.1 = b.1 ∧ ¬ b.2.channelId < a.2.channelId

instance : DecidableRel attentionOrder := fun _ _ => inferInstanceAs (Decidable (_ ∨ _))

/-- Unread state for every conversation the participant belongs to. -/
def attention (agentId : String) (s : Store) : List ConversationAttention :=
  ((attentionSelect (fun cm => decide (cm.agentId = agentId)) s).insertionSort attentionOrder).map (·.2)

/-- Unread state for one membership. -/
def attentionFor (agentId channelId : String) (s : Store) :
    Except FleetError ConversationAttention :=
  match attentionSelect
      (fun cm => decide (cm.agentId = agentId) && decide (cm.channelId = channelId)) s with
  | row :: _ => .ok row.2
  | [] => .error (.notMember agentId channelId)

/-- A number that may be missing, as a value. -/
def optionalNat : Option Nat → Value
  | some n => .nat n
  | none => .null

/-- The row as it is sent. -/
def ConversationAttention.toValue (row : ConversationAttention) : Value :=
  .object [
    ("channel_id", .string row.channelId),
    ("read_through_seq", .nat row.readThroughSeq),
    ("latest_message_seq", optionalNat row.latestMessageSeq),
    ("unread_count", .nat row.unreadCount),
    ("addressed_unread_count", .nat row.addressedUnreadCount),
    ("first_unread_seq", optionalNat row.firstUnreadSeq),
    ("first_addressed_unread_seq", optionalNat row.firstAddressedUnreadSeq)]

/-! ## What a row says -/

/-- The messages of the channel of a member. -/
def visibleMessages (member : ChannelMember) (messages : List MessageRow) : List MessageRow :=
  messages.filter fun m => decide (m.channelId = member.channelId)

/-- The least sequence of some messages, or nothing when there are none. -/
def IsFirst (messages : List MessageRow) : Option Nat → Prop
  | some seq => IsLeast { n | ∃ m ∈ messages, m.seq = n } seq
  | none => messages = []

/-- The greatest sequence of some messages, or nothing when there are none. -/
def IsLatest (messages : List MessageRow) : Option Nat → Prop
  | some seq => IsGreatest { n | ∃ m ∈ messages, m.seq = n } seq
  | none => messages = []

/-- A row that sums up the messages for a member. -/
structure Summarizes (messages : List MessageRow) (member : ChannelMember)
    (row : ConversationAttention) : Prop where
  channel : row.channelId = member.channelId
  cursor : row.readThroughSeq = member.readThroughSeq
  latest : IsLatest (visibleMessages member messages) row.latestMessageSeq
  unread : row.unreadCount = ((visibleMessages member messages).filter (isUnread member)).length
  first : IsFirst ((visibleMessages member messages).filter (isUnread member)) row.firstUnreadSeq
  addressed : row.addressedUnreadCount =
    ((visibleMessages member messages).filter (isAddressedUnread member)).length
  firstAddressed :
    IsFirst ((visibleMessages member messages).filter (isAddressedUnread member))
      row.firstAddressedUnreadSeq

/-- The least of the sequences of some messages. -/
theorem isFirst_min (messages : List MessageRow) : IsFirst messages (messages.map (·.seq)).min? := by
  cases hmin : (messages.map (·.seq)).min? with
  | none => exact List.map_eq_nil_iff.1 (List.min?_eq_none_iff.1 hmin)
  | some seq =>
    obtain ⟨hmem, hle⟩ := List.min?_eq_some_iff.1 hmin
    refine ⟨List.mem_map.1 hmem, ?_⟩
    rintro _ ⟨m, hm, rfl⟩
    exact hle _ (List.mem_map_of_mem hm)

/-- The greatest of the sequences of some messages. -/
theorem isLatest_max (messages : List MessageRow) : IsLatest messages (messages.map (·.seq)).max? := by
  cases hmax : (messages.map (·.seq)).max? with
  | none => exact List.map_eq_nil_iff.1 (List.max?_eq_none_iff.1 hmax)
  | some seq =>
    obtain ⟨hmem, hle⟩ := List.max?_eq_some_iff.1 hmax
    refine ⟨List.mem_map.1 hmem, ?_⟩
    rintro _ ⟨m, hm, rfl⟩
    exact hle _ (List.mem_map_of_mem hm)

end Fleetd
