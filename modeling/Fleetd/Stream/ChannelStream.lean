import Fleetd.Kernel.History
import Fleetd.System.Command

/-!
# Replay followed by live continuation

One stream of one channel, run beside the writers of the database. The stream replays the
log from its cursor, page by page, and then waits for a reason to replay again: a wake from
the bus of commit hints, or the report that it lagged behind that bus. Hints carry no
authority: only what a page returns is ever sent.

The system is a step machine. Each step is one thing the environment or the stream does
between two awaits, together with everything it draws from its environment; a step that the
stream is not ready for changes nothing.
-/

namespace Fleetd

open Relational Relational.Transaction

def replayPageSize : Nat := 500

/-- One reason to reconcile durable messages. -/
inductive MessageCommitWake (Json : Type)
  | committed (message : Message Json)
  | external
  deriving DecidableEq, Repr

/-- The principal shape that may read one channel stream. -/
inductive AuthorizedStreamPrincipal
  | operator
  | agent (agentId : String)
  deriving DecidableEq, Repr

/-- Exact authority and replay position for one channel stream. -/
structure AuthorizedChannelStream where
  channelId : String
  after : Int
  credentialId : String
  principal : AuthorizedStreamPrincipal
  deriving DecidableEq, Repr

/-- The wire a stream is sent on. -/
inductive StreamWire
  | native
  | browser
  deriving DecidableEq, Repr

/-- Why a stream ends. -/
inductive StreamTermination
  | clientClosed
  | invalidClientMessage
  | grantRejected
  | internal
  deriving DecidableEq, Repr

/-- What the socket of a client yields. -/
inductive Incoming
  | ended
  | failed
  | close
  | ping
  | pong
  | text
  | binary
  deriving DecidableEq, Repr

/-- The answer of the credential check: current, revoked, or unavailable. -/
inductive Revalidation
  | current
  | revoked
  | failed
  deriving DecidableEq, Repr

/-- Checks the credential of a browser stream. -/
def StreamWire.revalidate : StreamWire → Revalidation → Except StreamTermination Unit
  | .native, _ => .ok ()
  | .browser, .current => .ok ()
  | .browser, .revoked => .error .grantRejected
  | .browser, .failed => .error .internal

/-- Sends one frame. -/
def StreamWire.sendSerialized (sent : Bool) : Except StreamTermination Unit :=
  if sent then .ok () else .error .clientClosed

/-- Announces the replay position to a browser. -/
def StreamWire.sendReady (wire : StreamWire) (after : Int) (sent : Bool) :
    Except StreamTermination Unit :=
  match wire with
  | .native => .ok ()
  | .browser => if after < 0 then .error .internal else sendSerialized sent

/-- Sends one message after the credential check. -/
def StreamWire.sendMessage (wire : StreamWire) (credential : Revalidation) (sent : Bool) :
    Except StreamTermination Unit := do
  wire.revalidate credential
  sendSerialized sent

/-- Handles what the client sent. -/
def StreamWire.acceptIncoming : StreamWire → Incoming → Except StreamTermination Unit
  | _, .ended => .error .clientClosed
  | _, .failed => .error .clientClosed
  | _, .close => .error .clientClosed
  | .native, _ => .ok ()
  | .browser, .ping => .ok ()
  | .browser, .pong => .ok ()
  | .browser, .text => .error .invalidClientMessage
  | .browser, .binary => .error .invalidClientMessage

/-- Where the stream stands between two awaits. -/
inductive StreamPhase (Json : Type)
  | opening
  | replaying
  | sending (message : Message Json) (pending : List (Message Json)) (count : Nat)
  | waiting
  | finished (termination : StreamTermination)
  deriving DecidableEq, Repr

/-- The database, the stream's receiver on the bus, and the stream itself. -/
structure StreamState (Json : Type) where
  store : Store
  wakes : List (MessageCommitWake Json)
  lagged : Bool
  phase : StreamPhase Json
  cursor : Int
  frames : List (Message Json)

/-- What can happen between two awaits. -/
inductive StreamStep (Json : Type)
  | commit (c : Command Json)
  | publish (wake : MessageCommitWake Json)
  | overflow (missed : Nat)
  | ready (sent : Bool)
  | readPage
  | send (credential : Revalidation) (sent : Bool)
  | receive
  | closed
  | incoming (frame : Incoming)
  | revalidate (credential : Revalidation)

section Step

variable {Json : Type} [DecidableEq Json] [SerdeJson Json] [Sha256]

/-- What follows the messages of a page that are still to be sent. -/
def afterPage (pageSize : Nat) (pending : List (Message Json)) (count : Nat) : StreamPhase Json :=
  match pending with
  | message :: rest => .sending message rest count
  | [] => if count < pageSize then .waiting else .replaying

/-- The phase after a result: the given one, or the end of the stream. -/
def StreamPhase.orFinish (result : Except StreamTermination Unit) (phase : StreamPhase Json) :
    StreamPhase Json :=
  match result with
  | .ok _ => phase
  | .error termination => .finished termination

/-- Whether a wake makes the stream replay. -/
def MessageCommitWake.calls (channelId : String) (cursor : Int) : MessageCommitWake Json → Bool
  | .committed message => decide (message.channelId = channelId) && decide (cursor < (message.seq : Int))
  | .external => true

/-- A receiver that is too slow loses its oldest wakes and is told so. -/
def StreamState.overflow (missed : Nat) (w : StreamState Json) : StreamState Json :=
  if 0 < missed ∧ missed ≤ w.wakes.length then
    { w with lagged := true, wakes := w.wakes.drop missed }
  else w

/-- The replay position is announced before the first page. -/
def StreamState.ready (stream : AuthorizedChannelStream) (wire : StreamWire) (sent : Bool)
    (w : StreamState Json) : StreamState Json :=
  match w.phase with
  | .opening => { w with phase := .orFinish (wire.sendReady stream.after sent) .replaying }
  | _ => w

/-- One page is read at the cursor, or the stream ends. -/
def StreamState.readPage (stream : AuthorizedChannelStream) (pageSize : Nat)
    (w : StreamState Json) : StreamState Json :=
  match w.phase with
  | .replaying =>
    match (listMessages stream.channelId w.cursor pageSize : Tx (MessagePage Json)) w.store with
    | .ok (page, _) => { w with phase := afterPage pageSize page.messages page.messages.length }
    | .error _ => { w with phase := .finished .internal }
  | _ => w

/-- The next message of the page is sent and the cursor moves to it, or the stream ends. -/
def StreamState.send (wire : StreamWire) (pageSize : Nat) (credential : Revalidation) (sent : Bool)
    (w : StreamState Json) : StreamState Json :=
  match w.phase with
  | .sending message pending count =>
    match wire.sendMessage credential sent with
    | .ok _ => { w with
        phase := afterPage pageSize pending count
        cursor := message.seq
        frames := w.frames ++ [message] }
    | .error termination => { w with phase := .finished termination }
  | _ => w

/-- The next wake is taken from the bus; a lag is reported before what is left. -/
def StreamState.receive (stream : AuthorizedChannelStream) (w : StreamState Json) :
    StreamState Json :=
  match w.phase with
  | .waiting =>
    if w.lagged then { w with lagged := false, phase := .replaying }
    else match w.wakes with
      | [] => w
      | wake :: wakes => { w with
          wakes := wakes
          phase := if wake.calls stream.channelId w.cursor then .replaying else .waiting }
  | _ => w

/-- The bus is gone and holds nothing more for this receiver. -/
def StreamState.closed (w : StreamState Json) : StreamState Json :=
  match w.phase with
  | .waiting =>
    if w.wakes = [] ∧ w.lagged = false then { w with phase := .finished .internal } else w
  | _ => w

/-- A waiting stream goes on waiting after a check, or ends. -/
def StreamState.check (result : Except StreamTermination Unit) (w : StreamState Json) :
    StreamState Json :=
  match w.phase with
  | .waiting => { w with phase := .orFinish result .waiting }
  | _ => w

/-- One step of the system. -/
def StreamStep.next (stream : AuthorizedChannelStream) (wire : StreamWire) (pageSize : Nat)
    (step : StreamStep Json) (w : StreamState Json) : StreamState Json :=
  match step with
  | .commit c => { w with store := c.step w.store }
  | .publish wake => { w with wakes := w.wakes ++ [wake] }
  | .overflow missed => w.overflow missed
  | .ready sent => w.ready stream wire sent
  | .readPage => w.readPage stream pageSize
  | .send credential sent => w.send wire pageSize credential sent
  | .receive => w.receive stream
  | .closed => w.closed
  | .incoming frame => w.check (wire.acceptIncoming frame)
  | .revalidate credential => w.check (wire.revalidate credential)

/-- The stream as it is opened on a database, with its receiver subscribed. -/
def StreamState.open (stream : AuthorizedChannelStream) (s : Store) : StreamState Json where
  store := s
  wakes := []
  lagged := false
  phase := .opening
  cursor := stream.after
  frames := []

/-- The system after some steps from the opening of the stream. -/
def streamRun (stream : AuthorizedChannelStream) (wire : StreamWire) (pageSize : Nat)
    (setup : List (Command Json)) (steps : List (StreamStep Json)) : StreamState Json :=
  runFrom (StreamStep.next stream wire pageSize) (.open stream (run setup)) steps

/-- The calls among the steps. -/
def StreamStep.commits {Json : Type} (steps : List (StreamStep Json)) : List (Command Json) :=
  steps.filterMap fun
    | .commit c => some c
    | _ => none

/-- What the replay loop does next by itself: it reads a page or sends a message. -/
def StreamState.replayStep (stream : AuthorizedChannelStream) (wire : StreamWire) (pageSize : Nat)
    (answer : Revalidation × Bool) (w : StreamState Json) : StreamState Json :=
  match w.phase with
  | .replaying => w.readPage stream pageSize
  | .sending _ _ _ => w.send wire pageSize answer.1 answer.2
  | _ => w

/-- The replay loop left alone for some steps, with the environment's answers to its sends. -/
def StreamState.replay (stream : AuthorizedChannelStream) (wire : StreamWire) (pageSize : Nat) :
    (ℕ → Revalidation × Bool) → ℕ → StreamState Json → StreamState Json
  | _, 0, w => w
  | answers, n + 1, w =>
    replay stream wire pageSize (fun i => answers (i + 1)) n
      (w.replayStep stream wire pageSize (answers 0))

end Step

end Fleetd
