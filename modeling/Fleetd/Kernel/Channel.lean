import Mathlib.Data.List.Sort
import Fleetd.Relational.Table
import Fleetd.Kernel.Text

/-!
# Agents, channels and membership

The directory operations of the kernel. Identifiers and clock readings that the code draws
from its environment are arguments, so a run can supply any of them.
-/

namespace Fleetd

open Relational Relational.Transaction

/-- Registers a new addressable agent. -/
def createAgent (id name : String) (now : Int) : Tx Agent := do
  check (validateName "agent" name)
  let agents ← read (·.agents)
  ensure (∀ a ∈ agents, a.id ≠ id ∧ a.name ≠ name) (.conflict "agent name already exists")
  let agent : Agent := { id, name, createdAtMs := now }
  write fun s => ((), { s with agents := s.agents ++ [agent] })
  pure agent

/-- The initial membership a channel is created with. -/
structure CreateChannelMember where
  agentId : String
  deliveryMode : MembershipDeliveryMode
  deriving DecidableEq, Repr

/-- The first member that repeats an earlier one. -/
def duplicateMember : List CreateChannelMember → List String → Option String
  | [], _ => none
  | member :: rest, seen =>
    if member.agentId ∈ seen then some member.agentId
    else duplicateMember rest (member.agentId :: seen)

/-- Initial members are pairwise distinct. -/
def validateMembers (members : List CreateChannelMember) : Except FleetError Unit :=
  match duplicateMember members [] with
  | some agentId => .error (.invalid s!"duplicate initial channel member: {agentId}")
  | none => .ok ()

/-- The membership rows of a new channel. -/
def memberRows (channelId : String) (now : Int) (members : List CreateChannelMember) :
    List ChannelMember :=
  members.map fun member =>
    { channelId, agentId := member.agentId, joinedAtMs := now,
      deliveryMode := member.deliveryMode, readThroughSeq := 0 }

/-- Every initial member must be a known agent. -/
def ensureAgents : List CreateChannelMember → Tx Unit
  | [] => pure ()
  | member :: rest => do
    ensureExists (fun s => s.agents.map (·.id)) "agent" member.agentId
    ensureAgents rest

/-- Creates a channel with exact immutable delivery modes for every initial membership. -/
def createChannelWithMembers (id name : String) (members : List CreateChannelMember)
    (now : Int) : Tx Channel := do
  check (validateName "channel" name)
  check (validateMembers members)
  ensureAgents members
  let channels ← read (·.channels)
  ensure (∀ c ∈ channels, c.id ≠ id ∧ c.name ≠ name) (.conflict "channel name already exists")
  let channel : Channel :=
    { id, name, kind := .shared, directPairKey := none, createdAtMs := now, archivedAtMs := none }
  write fun s => ((), { s with
    channels := s.channels ++ [channel]
    channelMembers := s.channelMembers ++ memberRows id now members })
  pure channel

/-- Creates a channel with an initial set of members, inbox members first. -/
def createChannel (id name : String) (memberIds : List String)
    (members : List CreateChannelMember) (now : Int) : Tx Channel := do
  let all := memberIds.map (⟨·, .inbox⟩) ++ members
  check (validateMembers all)
  createChannelWithMembers id name all now

/-- The row of one channel. -/
def channelRow (channelId : String) : Tx Channel := do
  let channels ← read (·.channels)
  require (channels.find? fun c => c.id = channelId) (.notFound "channel" channelId)

/-- Membership and name may only change on a shared channel that is not archived. -/
def requireMutableSharedChannel (channel : Channel) : Except FleetError Unit :=
  if channel.kind ≠ .shared then
    .error (.conflict "direct conversation membership and name are immutable")
  else if channel.archivedAtMs.isSome then
    .error (.conflict s!"channel is archived: {channel.id}")
  else .ok ()

/-- Renames an active shared channel. -/
def renameChannel (channelId name : String) : Tx Channel := do
  check (validateName "channel" name)
  let channel ← channelRow channelId
  check (requireMutableSharedChannel channel)
  let channels ← read (·.channels)
  ensure (∀ c ∈ channels, c.id = channelId ∨ c.name ≠ name) (.conflict "channel name already exists")
  write fun s => ((), { s with
    channels := updateWhere (fun c => c.id = channelId) (fun c => { c with name }) s.channels })
  pure { channel with name }

/-- Archives a shared channel without deleting its membership or history. -/
def archiveChannel (channelId : String) (now : Int) : Tx Channel := do
  let channel ← channelRow channelId
  ensure (channel.kind = .shared) (.conflict "direct conversations cannot be archived")
  if channel.archivedAtMs.isNone then
    write fun s => ((), { s with
      channels := updateWhere (fun c => c.id = channelId)
        (fun c => { c with archivedAtMs := some now }) s.channels })
    pure { channel with archivedAtMs := some now }
  else pure channel

/-- Members of a pair in the order of their identifiers; the pair must be two agents. -/
def validateDirectMembers (members : List CreateChannelMember) :
    Except FleetError (CreateChannelMember × CreateChannelMember) :=
  match members with
  | [a, b] =>
    if a.agentId = b.agentId then
      .error (.invalid "direct conversation participants must be distinct")
    else .ok (if b.agentId < a.agentId then (b, a) else (a, b))
  | _ => .error (.invalid "direct conversation requires exactly two participants")

/-- The key that identifies one exact pair. -/
def directPairKey (firstAgentId secondAgentId : String) : String :=
  s!"{firstAgentId}:{secondAgentId}"

/-- The stored members of a channel in the order of their identifiers. -/
def directModes (channelId : String) (rows : List ChannelMember) :
    List (String × MembershipDeliveryMode) :=
  ((rows.filter fun m => m.channelId = channelId).insertionSort
    (fun a b => ¬ b.agentId < a.agentId)).map fun m => (m.agentId, m.deliveryMode)

/-- Idempotently opens the channel for one exact participant pair. -/
def openDirectPair (id name : String) (members : List CreateChannelMember) (now : Int) :
    Tx (Channel × Bool) := do
  let (first, second) ← check (validateDirectMembers members)
  let pairKey := directPairKey first.agentId second.agentId
  ensureAgents [first, second]
  let existing : Option Channel ← read fun s =>
    s.channels.find? fun c => c.directPairKey = some pairKey
  match existing with
  | some channel =>
    let rows ← read (·.channelMembers)
    ensure (directModes channel.id rows =
        [(first.agentId, first.deliveryMode), (second.agentId, second.deliveryMode)])
      (.conflict "direct conversation participant delivery modes are immutable")
    pure (channel, false)
  | none =>
    let channels ← read (·.channels)
    ensure (∀ c ∈ channels, c.id ≠ id ∧ c.name ≠ name)
      (.database "UNIQUE constraint failed: channels")
    let channel : Channel :=
      { id, name, kind := .direct, directPairKey := some pairKey, createdAtMs := now,
        archivedAtMs := none }
    write fun s => ((), { s with
      channels := s.channels ++ [channel]
      channelMembers := s.channelMembers ++ memberRows id now [first, second] })
    pure (channel, true)

/-- The largest committed sequence of a channel, zero when it has no message. -/
def latestSeq (channelId : String) (messages : List MessageRow) : Nat :=
  ((messages.filter fun m => m.channelId = channelId).map (·.seq)).foldl max 0

/-- Adds one membership with an exact immutable delivery mode. -/
def addMemberWithMode (channelId agentId : String) (deliveryMode : MembershipDeliveryMode)
    (now : Int) : Tx Unit := do
  let channel ← channelRow channelId
  check (requireMutableSharedChannel channel)
  ensureExists (fun s => s.agents.map (·.id)) "agent" agentId
  let existing : Option ChannelMember ← read fun s =>
    s.channelMembers.find? fun m => m.channelId = channelId ∧ m.agentId = agentId
  match existing with
  | some member =>
    ensure (member.deliveryMode = deliveryMode)
      (.conflict s!"channel membership delivery mode is immutable: {channelId}/{agentId}")
  | none =>
    let messages ← read (·.messages)
    let member : ChannelMember :=
      { channelId, agentId, joinedAtMs := now, deliveryMode := deliveryMode,
        readThroughSeq := latestSeq channelId messages }
    write fun s => ((), { s with channelMembers := s.channelMembers ++ [member] })

/-- The agent must be a member of the channel. -/
def ensureMember (channelId agentId : String) : Tx Unit := do
  let members ← read (·.channelMembers)
  ensure (∃ m ∈ members, m.channelId = channelId ∧ m.agentId = agentId)
    (.notMember agentId channelId)

/-- Monotonically advances one member's durable channel read cursor. -/
def advanceMemberReadCursor (channelId agentId : String) (throughSeq : Int) : Tx Nat := do
  ensure (0 ≤ throughSeq) (.invalid "read cursor must be zero or a committed message sequence")
  ensureExists (fun s => s.channels.map (·.id)) "channel" channelId
  ensureMember channelId agentId
  let messages ← read (·.messages)
  ensure (throughSeq ≤ latestSeq channelId messages)
    (.invalid s!"read cursor {throughSeq} is beyond the latest message in channel {channelId}")
  ensure (throughSeq ≤ 0 ∨ ∃ m ∈ messages, m.channelId = channelId ∧ (m.seq : Int) = throughSeq)
    (.invalid s!"read cursor {throughSeq} is not a committed message in channel {channelId}")
  write fun s => ((), { s with
    channelMembers := updateWhere
      (fun m => m.channelId = channelId ∧ m.agentId = agentId ∧ m.readThroughSeq < throughSeq.toNat)
      (fun m => { m with readThroughSeq := throughSeq.toNat }) s.channelMembers })
  let members ← read (·.channelMembers)
  let member ← require (members.find? fun m => m.channelId = channelId ∧ m.agentId = agentId)
    (.database "no rows returned by a query that expected to return at least one row")
  pure member.readThroughSeq

end Fleetd
