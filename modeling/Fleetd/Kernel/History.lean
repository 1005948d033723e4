import Mathlib.Data.List.Sort
import Fleetd.Kernel.Message

/-!
# Reading a channel

The log of a channel is read in pages that follow a cursor. A page is bounded by the
caller's limit and by a limit of its own. The messages before a point and the members of a
channel are read for the context of a turn.
-/

namespace Fleetd

open Relational Relational.Transaction

variable {Json : Type}

def maxMessagePage : Nat := 500

/-- One page of a channel's log. -/
structure MessagePage (Json : Type) where
  messages : List (Message Json)
  nextCursor : Int
  deriving DecidableEq, Repr

/-- The rows of one channel. -/
def channelMessages (channelId : String) (messages : List MessageRow) : List MessageRow :=
  messages.filter fun m => m.channelId = channelId

/-- The rows a page is made of: those of the channel past the cursor, in order, bounded. -/
def messageRowsAfter (channelId : String) (after : Int) (limit : Nat) (messages : List MessageRow) :
    List MessageRow :=
  (((channelMessages channelId messages).filter fun m => after < (m.seq : Int)).insertionSort
    fun a b => a.seq ≤ b.seq).take limit

/-- A channel that exists. -/
def ensureChannel (channelId : String) : Tx Unit := do
  let channels ← read (·.channels)
  ensure (∃ channel ∈ channels, channel.id = channelId) (.notFound "channel" channelId)

/-- Reads a page of channel messages strictly after the supplied cursor. -/
def listMessages [SerdeJson Json] (channelId : String) (after : Int) (limit : Nat) :
    Tx (MessagePage Json) := do
  ensure (0 ≤ after) (.invalid "message cursor must not be negative")
  ensureChannel channelId
  let rows ← read fun s =>
    messageRowsAfter channelId after (max 1 (min limit maxMessagePage)) s.messages
  let messages ← check (rows.mapM messageFromRow)
  pure { messages, nextCursor := (messages.getLast?.map fun m => (m.seq : Int)).getD after }

/-- The rows before a point, the latest ones, in order. -/
def recentRowsBefore (channelId : String) (before : Int) (limit : Nat) (messages : List MessageRow) :
    List MessageRow :=
  ((((channelMessages channelId messages).filter fun m => (m.seq : Int) < before).insertionSort
    fun a b => b.seq ≤ a.seq).take limit).reverse

/-- Reads the latest messages of a channel before a sequence number. -/
def listRecentMessagesBefore [SerdeJson Json] (channelId : String) (before : Int) (limit : Nat) :
    Tx (List (Message Json)) := do
  ensure (0 < before) (.invalid "message boundary must be greater than zero")
  ensureChannel channelId
  let rows ← read fun s =>
    recentRowsBefore channelId before (max 1 (min limit maxMessagePage)) s.messages
  check (rows.mapM messageFromRow)

/-- A membership as it is shown to others, with the name of the agent. -/
structure ChannelMemberView where
  channelId : String
  agentId : String
  agentName : String
  joinedAtMs : Int
  deliveryMode : MembershipDeliveryMode
  deriving DecidableEq, Repr

/-- The membership rows of a channel joined with their agents. -/
def memberViews (channelId : String) (s : Store) : List ChannelMemberView :=
  s.channelMembers.flatMap fun member =>
    if member.channelId = channelId then
      (s.agents.filter fun agent => agent.id = member.agentId).map fun agent => {
        channelId := member.channelId
        agentId := member.agentId
        agentName := agent.name
        joinedAtMs := member.joinedAtMs
        deliveryMode := member.deliveryMode }
    else []

/-- Lists the members of a channel in the order in which they joined. -/
def listChannelMembers (channelId : String) : Tx (List ChannelMemberView) := do
  ensureChannel channelId
  read fun s => (memberViews channelId s).insertionSort fun a b =>
    a.joinedAtMs < b.joinedAtMs ∨ a.joinedAtMs = b.joinedAtMs ∧ a.agentId ≤ b.agentId

/-- Returns the durable sequence at the current end of one channel. -/
def latestChannelMessageSeq (channelId : String) : Tx Nat := do
  ensureChannel channelId
  read fun s => latestSeq channelId s.messages

end Fleetd
