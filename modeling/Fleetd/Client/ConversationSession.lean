import Mathlib.Logic.Function.Basic
import Fleetd.Client.Attention
import Fleetd.Kernel.Message
import Fleetd.Replay.Retention

/-!
# The conversation session

The projection of a participant's conversations that a presentation shows. Each channel that was
ever selected keeps a lane: its newest messages in order, indexed by sequence and by identity, and
the cursor of its stream. The selected lane is fed by one stream and by the results of sends.

A call of the session, a callback of the transport and the continuation of an await are one step
each. A callback of a selection that was left changes nothing. What a lane took in and the streams
that were opened are recorded beside the state.
-/

namespace Fleetd.Client

open Replay
open Serde (Value)

inductive ConversationSessionPhase
  | idle
  | loadingChannels
  | ready
  | connecting
  | live
  | reconnecting
  | failed
  | closed
  deriving DecidableEq, Repr

inductive ConversationConnectionState
  | connecting
  | live
  | reconnecting
  | failed
  | closed
  deriving DecidableEq, Repr

inductive ConversationSessionErrorCode
  | channelDiscoveryFailed
  | invalidState
  | membershipFailed
  | messageConflict
  | participantNotMember
  | sendFailed
  | streamFailed
  deriving DecidableEq, Repr

structure ConversationSessionFailure where
  code : ConversationSessionErrorCode
  message : String
  deriving DecidableEq, Repr

def defaultMaxRetainedMessages : Nat := 512

/-- The bound on the messages of a lane. -/
structure ConversationSessionOptions where
  maxRetainedMessages : Nat := defaultMaxRetainedMessages
  bounds : 16 ≤ maxRetainedMessages ∧ maxRetainedMessages ≤ 4096 := by decide

def ConversationSessionOptions.check (maxRetainedMessages : Nat) :
    Except String ConversationSessionOptions :=
  if h : 16 ≤ maxRetainedMessages ∧ maxRetainedMessages ≤ 4096 then .ok ⟨maxRetainedMessages, h⟩
  else .error "maxRetainedMessages must be between 16 and 4096"

/-- What is kept of one channel. `taken` is the history of the messages that were put in. -/
structure ChannelLane (Json : Type) where
  channelId : String
  members : List String
  membersReady : Bool
  messages : List (Message Json)
  bySequence : Nat → Option (Message Json)
  byId : String → Option (Message Json)
  cursor : Nat
  connection : ConversationConnectionState
  stream : Option Nat
  taken : List (Message Json)

/-- A stream that the transport was asked for: the selection it serves and where it starts. -/
structure OpenedStream where
  generation : Nat
  channelId : String
  after : Nat
  deriving DecidableEq, Repr

/-- What the current selection waits for: the members of its channel and a live stream. -/
structure PendingSelection where
  members : Option (Option (List String))
  live : Option Bool
  deriving DecidableEq, Repr

structure ConversationSession (Json : Type) where
  participantId : String
  options : ConversationSessionOptions
  lanes : String → Option (ChannelLane Json)
  revision : Nat
  phase : ConversationSessionPhase
  channels : List String
  attention : List Value
  selectedChannelId : Option String
  selectionGeneration : Nat
  selection : Option PendingSelection
  pendingSends : Nat
  error : Option ConversationSessionFailure
  closed : Bool
  sends : List String
  opened : List OpenedStream
  closedStreams : List Nat

variable {Json : Type}

namespace ConversationSession

def new (participantId : String) (options : ConversationSessionOptions) : ConversationSession Json where
  participantId := participantId
  options := options
  lanes := fun _ => none
  revision := 0
  phase := .idle
  channels := []
  attention := []
  selectedChannelId := none
  selectionGeneration := 0
  selection := none
  pendingSends := 0
  error := none
  closed := false
  sends := []
  opened := []
  closedStreams := []

/-! ## Publication and failures -/

def publish (s : ConversationSession Json) : ConversationSession Json :=
  { s with revision := s.revision + 1 }

def fail (code : ConversationSessionErrorCode) (message : String) (s : ConversationSession Json) :
    ConversationSession Json :=
  { s with phase := .failed, error := some ⟨code, message⟩ }.publish

/-- A failure that is only reported if none was before. -/
def failOnce (code : ConversationSessionErrorCode) (message : String) (s : ConversationSession Json) :
    ConversationSession Json :=
  if s.error = none then s.fail code message else s

def invalidState (message : String) (s : ConversationSession Json) : ConversationSession Json :=
  { s with error := some ⟨.invalidState, message⟩ }.publish

/-- Calls of a closed session are refused. -/
def whileOpen (act : ConversationSession Json → ConversationSession Json)
    (s : ConversationSession Json) : ConversationSession Json :=
  if s.closed then s.invalidState "conversation session is closed" else act s

/-! ## Lanes -/

def selectedLane (s : ConversationSession Json) : Option (ChannelLane Json) :=
  s.selectedChannelId.bind s.lanes

def setLane (lane : ChannelLane Json) (s : ConversationSession Json) : ConversationSession Json :=
  { s with lanes := Function.update s.lanes lane.channelId (some lane) }

def emptyLane (channelId : String) : ChannelLane Json where
  channelId := channelId
  members := []
  membersReady := false
  messages := []
  bySequence := fun _ => none
  byId := fun _ => none
  cursor := 0
  connection := .connecting
  stream := none
  taken := []

def lane (channelId : String) (s : ConversationSession Json) : ChannelLane Json :=
  (s.lanes channelId).getD (emptyLane channelId)

def isCurrent (channelId : String) (generation : Nat) (s : ConversationSession Json) : Bool :=
  !s.closed && s.selectedChannelId = some channelId && s.selectionGeneration = generation

def connectionPhase (lane : ChannelLane Json) : ConversationSessionPhase :=
  match lane.connection with
  | .live => if lane.membersReady then .live else .connecting
  | .reconnecting => .reconnecting
  | .failed => .failed
  | .closed => .closed
  | .connecting => .connecting

def publishLaneState (lane : ChannelLane Json) (s : ConversationSession Json) :
    ConversationSession Json :=
  if s.selectedChannelId = some lane.channelId then { s with phase := connectionPhase lane }.publish
  else s

/-- The stream of a lane is asked to close. -/
def closeStream (lane : Option (ChannelLane Json)) (s : ConversationSession Json) :
    ConversationSession Json :=
  match lane.bind (·.stream) with
  | some generation => { s with closedStreams := s.closedStreams ++ [generation] }
  | none => s

end ConversationSession

namespace ChannelLane

/-- The message contradicts one that the lane holds. -/
def conflicts [DecidableEq Json] (message : Message Json) (lane : ChannelLane Json) : Bool :=
  (lane.bySequence message.seq).any (fun held => held.id ≠ message.id) ||
    (lane.byId message.id).any (fun held => held.seq ≠ message.seq) ||
    (lane.bySequence message.seq).any (fun held => held ≠ message) ||
    (lane.byId message.id).any (fun held => held ≠ message)

/-- Takes messages from the low end until the bound is met; every round takes one. -/
def enforceMessageBound (maxRetainedMessages : Nat) : Nat → ChannelLane Json → ChannelLane Json
  | 0, lane => lane
  | rounds + 1, lane =>
    if lane.messages.length > maxRetainedMessages then
      match lane.messages with
      | [] => lane
      | expired :: rest =>
        enforceMessageBound maxRetainedMessages rounds
          { lane with
            messages := rest
            bySequence := Function.update lane.bySequence expired.seq none
            byId := Function.update lane.byId expired.id none }
    else lane

/-- Puts a message in its place. -/
def insert (maxRetainedMessages : Nat) (message : Message Json) (lane : ChannelLane Json) :
    ChannelLane Json :=
  let lane := { lane with
    bySequence := Function.update lane.bySequence message.seq (some message)
    byId := Function.update lane.byId message.id (some message)
    messages := insertSorted (·.seq) message lane.messages
    taken := lane.taken ++ [message] }
  lane.enforceMessageBound maxRetainedMessages lane.messages.length

/-- Only the stream moves the cursor. -/
def advance (message : Message Json) (fromStream : Bool) (lane : ChannelLane Json) : ChannelLane Json :=
  if fromStream = true ∧ lane.cursor < message.seq then { lane with cursor := message.seq } else lane

/-- Takes a message that contradicts nothing. -/
def accept (maxRetainedMessages : Nat) (message : Message Json) (fromStream : Bool)
    (lane : ChannelLane Json) : ChannelLane Json :=
  (if lane.bySequence message.seq = none ∧ lane.byId message.id = none ∧ lane.cursor < message.seq then
    lane.insert maxRetainedMessages message
  else lane).advance message fromStream

end ChannelLane

namespace ConversationSession

/-- Whether a message was accepted, or the call threw. -/
def acceptMessage [DecidableEq Json] (channelId : String) (message : Message Json) (fromStream : Bool)
    (s : ConversationSession Json) : ConversationSession Json × Bool :=
  let lane := s.lane channelId
  if message.channelId ≠ channelId then
    (s.fail .messageConflict "The conversation transport crossed channel boundaries", false)
  else if lane.conflicts message then
    (s.fail .messageConflict "Fleetd reused a stable message identity inconsistently", false)
  else
    let s := s.setLane (lane.accept s.options.maxRetainedMessages message fromStream)
    (if s.selectedChannelId = some channelId then s.publish else s, true)

/-! ## Discovery -/

def startCalled : ConversationSession Json → ConversationSession Json :=
  whileOpen fun s => { s with phase := .loadingChannels, error := none }.publish

/-- Channels are taken before the attention beside them is checked. -/
def discovered [NumberSyntax] (failure : String) (found : Option (List String × List Value))
    (next : ConversationSession Json → ConversationSession Json) (s : ConversationSession Json) :
    ConversationSession Json :=
  match found with
  | none => s.fail .channelDiscoveryFailed failure
  | some (channels, attention) =>
    let s := { s with channels := channels }
    match checkedAttention attention with
    | .error _ => s.fail .channelDiscoveryFailed failure
    | .ok attention => next { s with attention := attention }

def startAnswered [NumberSyntax] (found : Option (List String × List Value))
    (s : ConversationSession Json) : ConversationSession Json :=
  s.discovered "Fleetd conversation discovery failed" found fun s =>
    if s.closed then s else { s with phase := .ready }.publish

def refreshAnswered [NumberSyntax] (found : Option (List String × List Value)) (s : ConversationSession Json) :
    ConversationSession Json :=
  s.discovered "Fleetd channel discovery failed" found fun s => { s with error := none }.publish

def attentionAnswered [NumberSyntax] (found : Option (List Value)) (s : ConversationSession Json) :
    ConversationSession Json :=
  match found.map checkedAttention with
  | some (.ok attention) => { s with attention := attention }.publish
  | _ => s

/-- A cursor that is not a safe number of messages is refused. -/
def markReadCalled (throughSeq : Int) : ConversationSession Json → ConversationSession Json :=
  whileOpen fun s =>
    if 0 ≤ throughSeq ∧ throughSeq.natAbs ≤ maxSafeInteger then s
    else s.invalidState "read cursor must be a non-negative safe integer"

def markReadAnswered [NumberSyntax] (channelId : String) (throughSeq : Int) (advanced : Option Value)
    (s : ConversationSession Json) : ConversationSession Json :=
  match advanced with
  | none => s
  | some updated =>
    match checkedAttention [updated] with
    | .error _ => s
    | .ok _ =>
      if updated.getStr "channel_id" = some channelId ∧
          (((updated.get "read_through_seq").bind safeInteger).any fun read =>
            decide (throughSeq ≤ read)) = true then
        { s with
          attention := (s.attention.filter fun row : Value =>
            decide (row.getStr "channel_id" ≠ updated.getStr "channel_id")) ++ [updated] }.publish
      else
        s.invalidState "Fleetd returned attention outside the acknowledged participant lane"

/-! ## Selection -/

/-- Leaves the selected channel for another, whose lane waits for its stream. -/
def enterChannel (channelId : String) (s : ConversationSession Json) : ConversationSession Json :=
  let s := { s with selectionGeneration := s.selectionGeneration + 1 }.closeStream s.selectedLane
  { s with
    selectedChannelId := some channelId
    error := none
    phase := .connecting
    selection := none }.setLane
      { s.lane channelId with membersReady := false, connection := .connecting } |>.publish

/-- Selects a channel, up to the first await. The call of the transport may throw. -/
def selectChannel (channelId : String) (opens : Bool) :
    ConversationSession Json → ConversationSession Json :=
  whileOpen fun s =>
    if channelId ∉ s.channels then s.invalidState "the selected channel was not discovered"
    else
      let s := s.enterChannel channelId
      let lane := s.lane channelId
      if opens then
        { s.setLane { lane with stream := some s.selectionGeneration } with
          selection := some ⟨none, none⟩
          opened := s.opened ++ [⟨s.selectionGeneration, channelId, lane.cursor⟩] }
      else
        (s.failOnce .membershipFailed "The selected Fleetd channel could not be opened").closeStream
          (some lane)

/-- The stream of a selection reports its status. -/
def statusChanged (channelId : String) (generation : Nat) (status : ConversationConnectionState)
    (s : ConversationSession Json) : ConversationSession Json :=
  if s.isCurrent channelId generation then
    let lane := { s.lane channelId with connection := status }
    let s := s.setLane lane
    let settle (result : Bool) (s : ConversationSession Json) := { s with
      selection := s.selection.map fun pending => { pending with live := pending.live.or (some result) } }
    let s := match status with
      | .live => settle true s
      | .failed => settle false (s.failOnce .streamFailed "The selected Fleetd stream failed")
      | .closed => settle false (s.failOnce .streamFailed "The selected Fleetd stream closed")
      | .connecting | .reconnecting => s
    s.publishLaneState lane
  else s

/-- The promise of a stream settles. -/
def streamSettled (channelId : String) (generation : Nat) (resolved : Bool)
    (s : ConversationSession Json) : ConversationSession Json :=
  if s.isCurrent channelId generation then
    s.failOnce .streamFailed
      (if resolved then "The selected Fleetd stream closed" else "The selected Fleetd stream failed")
  else s

/-- The members of a selection are listed, or the request fails. -/
def membersListed (channelId : String) (generation : Nat) (members : Option (List String))
    (s : ConversationSession Json) : ConversationSession Json :=
  if s.isCurrent channelId generation then
    { s with selection := s.selection.map fun pending =>
      { pending with members := pending.members.or (some members) } }
  else s

/-- The current selection goes on once both of its parts are there or one of them failed. -/
def resumeSelection (channelId : String) (generation : Nat) (s : ConversationSession Json) :
    ConversationSession Json :=
  if s.isCurrent channelId generation then
    let lane := s.lane channelId
    let refuse (s : ConversationSession Json) :=
      ({ s with selection := none }.failOnce .membershipFailed
        "The selected Fleetd channel could not be opened").closeStream (some lane)
    match s.selection with
    | some ⟨some (some members), some true⟩ =>
      if s.participantId ∈ members then
        let lane := { lane with members := members, membersReady := true }
        ({ s with selection := none }.setLane lane).publishLaneState lane
      else
        refuse ((s.closeStream (some lane)).fail .participantNotMember
          "The human participant is not a member of the selected channel")
    | some ⟨some none, _⟩ => refuse s
    | some ⟨_, some false⟩ => refuse s
    | _ => s
  else s

def clearSelection : ConversationSession Json → ConversationSession Json :=
  whileOpen fun s =>
    let selected := s.selectedLane
    let s := { s with
      selection := none
      selectionGeneration := s.selectionGeneration + 1
      selectedChannelId := none }.closeStream selected
    { s with phase := .ready, error := none }.publish

def close (s : ConversationSession Json) : ConversationSession Json :=
  if s.closed then s
  else
    let s := { s with
      closed := true
      selection := none
      selectionGeneration := s.selectionGeneration + 1 }.closeStream s.selectedLane
    { s with phase := .closed, error := none }.publish

/-! ## Sends -/

/-- A message is handed to the transport for the selected channel. -/
def sendCalled : ConversationSession Json → ConversationSession Json :=
  whileOpen fun s =>
    match s.selectedLane with
    | some lane =>
      if s.phase = .failed then s.invalidState "a healthy selected channel is required"
      else { s with pendingSends := s.pendingSends + 1, sends := s.sends ++ [lane.channelId] }.publish
    | none => s.invalidState "a healthy selected channel is required"

/-- A send ends with the stored message or fails. -/
def sendAnswered [DecidableEq Json] (index : Nat) (result : Option (Message Json))
    (s : ConversationSession Json) : ConversationSession Json :=
  match s.sends[index]? with
  | none => s
  | some channelId =>
    let s := { s with sends := s.sends.eraseIdx index }
    let rejected (s : ConversationSession Json) :=
      s.failOnce .sendFailed "The Fleetd message send failed"
    let s := match result with
      | none => rejected s
      | some sent =>
        if sent.channelId ≠ channelId ∨ sent.senderId ≠ s.participantId then
          rejected (s.fail .messageConflict
            "Fleetd returned a message outside the selected participant lane")
        else
          match s.acceptMessage channelId sent false with
          | (s, true) => s
          | (s, false) => rejected s
    { s with pendingSends := s.pendingSends - 1 }.publish

/-- The stream of a selection offers a message. -/
def streamAccept [DecidableEq Json] (channelId : String) (generation : Nat) (message : Message Json)
    (s : ConversationSession Json) : ConversationSession Json :=
  if s.isCurrent channelId generation then (s.acceptMessage channelId message true).1 else s

end ConversationSession

/-! ## Runs -/

/-- A call of the session, a callback of the transport, or the end of an await. -/
inductive SessionStep (Json : Type)
  | startCalled
  | startAnswered (found : Option (List String × List Value))
  | refreshCalled
  | refreshAnswered (found : Option (List String × List Value))
  | attentionCalled
  | attentionAnswered (found : Option (List Value))
  | markReadCalled (throughSeq : Int)
  | markReadAnswered (channelId : String) (throughSeq : Int) (advanced : Option Value)
  | selectChannel (channelId : String) (opens : Bool)
  | streamAccept (channelId : String) (generation : Nat) (message : Message Json)
  | statusChanged (channelId : String) (generation : Nat) (status : ConversationConnectionState)
  | streamSettled (channelId : String) (generation : Nat) (resolved : Bool)
  | membersListed (channelId : String) (generation : Nat) (members : Option (List String))
  | resumeSelection (channelId : String) (generation : Nat)
  | clearSelection
  | sendCalled
  | sendAnswered (index : Nat) (result : Option (Message Json))
  | close

def ConversationSession.step [DecidableEq Json] [NumberSyntax] :
    SessionStep Json → ConversationSession Json → ConversationSession Json
  | .startCalled => startCalled
  | .startAnswered found => startAnswered found
  | .refreshCalled => whileOpen id
  | .refreshAnswered found => refreshAnswered found
  | .attentionCalled => whileOpen id
  | .attentionAnswered found => attentionAnswered found
  | .markReadCalled throughSeq => markReadCalled throughSeq
  | .markReadAnswered channelId throughSeq advanced => markReadAnswered channelId throughSeq advanced
  | .selectChannel channelId opens => selectChannel channelId opens
  | .streamAccept channelId generation message => streamAccept channelId generation message
  | .statusChanged channelId generation status => statusChanged channelId generation status
  | .streamSettled channelId generation resolved => streamSettled channelId generation resolved
  | .membersListed channelId generation members => membersListed channelId generation members
  | .resumeSelection channelId generation => resumeSelection channelId generation
  | .clearSelection => clearSelection
  | .sendCalled => sendCalled
  | .sendAnswered index result => sendAnswered index result
  | .close => close

end Fleetd.Client
