import Mathlib.Data.List.AList
import Fleetd.Effects.Tasks
import Fleetd.Harness.Rpc
import Fleetd.Relational.Trace

/-!
# The peer of a plugin process

Calls to a plugin process that are under way at the same time, and the task that reads its output.
A call takes a number, puts the sending side of a one-shot channel under it into the pending table,
writes its frame and waits for the reply; the reader takes the sending side out for a response with
that number. A call or the reader that finds the process broken fails the peer: it empties the table
and tells everyone who was in it. Every task is split where it holds a lock, and any of them may be
the next one to go on; a call may be dropped by its caller wherever it waits.
-/

namespace Fleetd.Harness

open Serde (Value)
open Effects

/-! ## Frames of the process -/

/-- What a call gets in place of a result. -/
inductive ReplyError
  | remote (code : Int) (message : String)
  | protocol (message : String)
  deriving DecidableEq, Repr

abbrev Reply := Except ReplyError Value

structure PluginNotification where
  method : String
  params : Value
  deriving DecidableEq, Repr

/-- What a frame of the process is. -/
inductive Incoming
  | notification (notification : PluginNotification)
  | response (id : Nat) (reply : Reply)
  deriving DecidableEq, Repr

def parseRemoteError (value : Value) : Except String ReplyError :=
  match value with
  | .object _ =>
    match (value.get "code").bind Value.asI64 with
    | none => .error "plugin JSON-RPC error code is invalid"
    | some code =>
      match value.getStr "message" with
      | none => .error "plugin JSON-RPC error message is invalid"
      | some message => .ok (.remote code message)
  | _ => .error "plugin JSON-RPC error is not an object"

/-- The reply of a response. -/
def responseReply (value : Value) : Except String Reply :=
  match value.get "result", value.get "error" with
  | some result, none => .ok (.ok result)
  | none, some error => (parseRemoteError error).map Except.error
  | _, _ => .error "plugin response must contain exactly one result or error"

/-- The part of `handle_frame` that looks at the frame alone. -/
def incoming (value : Value) : Except String Incoming :=
  match value with
  | .object _ =>
    if value.getStr "jsonrpc" ≠ some "2.0" then
      .error "plugin frame has an unsupported JSON-RPC version"
    else
      match value.get "method" with
      | some method =>
        if (value.get "id").isSome = true then
          .error "plugin-initiated requests are unsupported in lifecycle v1"
        else
          match method.asStr with
          | none => .error "plugin notification method is not a string"
          | some method => .ok (.notification ⟨method, (value.get "params").getD .null⟩)
      | none =>
        match (value.get "id").bind Value.asU64 with
        | none => .error "plugin response has an invalid request id"
        | some id => (responseReply value).map (Incoming.response id)
  | _ => .error "plugin JSON-RPC frame is not an object"

/-- A line that the process put out. -/
inductive Line
  | parsed (value : Value)
  | malformed (error : String)
  | unreadable (error : String)
  deriving DecidableEq, Repr

/-- What a line is, or why it breaks the peer. -/
def Line.incoming : Line → Except String Incoming
  | .parsed value => Harness.incoming value
  | .malformed error => .error s!"plugin emitted malformed JSON: {error}"
  | .unreadable error => .error s!"invalid plugin frame: {error}"

/-- The identifier and the reply of a line that is a response. -/
def Line.response (line : Line) : Option (Nat × Reply) :=
  match line.incoming with
  | .ok (.response id reply) => some (id, reply)
  | _ => none

/-- How many notifications wait at most to be read. -/
def notificationBuffer : Nat := 256

/-! ## Tasks -/

variable {R : Type}

/-- How far a call has come. A call that fails the peer has the error that it ends with. -/
inductive CallStage (R : Type)
  | numbered
  | writing
  | waiting
  | failing (message : String) (error : PluginError)
  | draining (message : String) (senders : List Nat) (error : PluginError)
  | returned (result : Except PluginError R)
  | dropped
  deriving DecidableEq, Repr

/-- A call, with the value on its one-shot channel and how a result is decoded. -/
structure Call (R : Type) where
  id : Nat
  method : String
  params : Value
  deadline : String
  decode : Value → Except PluginError R
  slot : Option Reply
  stage : CallStage R

/-- Whether the receiving side of its channel is there. -/
def Call.listens (call : Call R) : Bool :=
  match call.stage with
  | .writing => true
  | .waiting => true
  | _ => false

/-- Puts a reply on the channel of a call, if there is still someone to take it. -/
def Call.give (reply : Reply) (call : Call R) : Call R :=
  if call.listens = true ∧ call.slot = none then { call with slot := some reply } else call

/-- What a call makes of its reply. -/
def Call.finish (reply : Reply) (call : Call R) : Except PluginError R :=
  match reply with
  | .ok value => call.decode value
  | .error (.remote code message) => .error (.remote call.method code message)
  | .error (.protocol message) => .error (.protocol message)

/-- The call fails the peer, and then ends with an error of the exchange. -/
def Call.broken (error : PluginError) (call : Call R) : Call R :=
  { call with
    stage := .failing s!"plugin transport failed during {call.method}: {error.display}" error }

/-- The call fails the peer, and then ends because of its deadline. -/
def Call.late (call : Call R) : Call R :=
  { call with
    stage := .failing s!"plugin call {call.method} exceeded its deadline"
      (.timeout call.method call.deadline) }

inductive ReaderStage
  | reading
  | delivering (call : Nat) (reply : Reply)
  | failing (message : String)
  | draining (message : String) (senders : List Nat)
  | finished
  deriving DecidableEq, Repr

/-- What is kept under the lock of a peer: the calls that wait for a reply, by their numbers, and
why the peer has failed. -/
structure RpcState where
  pending : AList fun _ : Nat => Nat
  failure : Option String

/-- A peer with its tasks, the frames that were written, and the notifications that wait to be
read. -/
structure Peer (R : Type) where
  nextId : Nat
  state : RpcState
  calls : List (Call R)
  reader : ReaderStage
  notifications : List PluginNotification
  sent : List Value

def Peer.start : Peer R := ⟨1, ⟨∅, none⟩, [], .reading, [], []⟩

/-! ## Steps -/

/-- What can happen next. -/
inductive PeerAction (R : Type)
  | call (method : String) (params : Value) (deadline : String)
      (decode : Value → Except PluginError R)
  | register (number : Nat)
  | write (number : Nat) (failure : Option String)
  | timeout (number : Nat)
  | receive (number : Nat)
  | closed (number : Nat)
  | failAll (number : Nat)
  | drain (number : Nat)
  | drop (number : Nat)
  | frame (line : Line)
  | eof
  | deliver
  | readerFail
  | readerDrain
  | takeNotification

namespace Peer

/-- Changes the entry of a call. -/
def setCall (number : Nat) (f : Call R → Call R) (peer : Peer R) : Peer R :=
  { peer with calls := peer.calls.modify number f }

def setStage (number : Nat) (stage : CallStage R) (peer : Peer R) : Peer R :=
  peer.setCall number fun call => { call with stage }

/-- Fails the peer under its lock. -/
def fail (message : String) (peer : Peer R) : Peer R :=
  { peer with state := ⟨∅, some message⟩ }

/-- The calls that wait for a reply. -/
def senders (peer : Peer R) : List Nat := peer.state.pending.entries.map (·.2)

/-- Tells a call that the peer has failed. -/
def tell (message : String) (number : Nat) (peer : Peer R) : Peer R :=
  peer.setCall number (Call.give (.error (.protocol message)))

/-- Whether a task may still put something on the channel of a call. -/
def holds (number : Nat) (peer : Peer R) : Bool :=
  peer.senders.contains number ||
    (match peer.reader with
      | .delivering call _ => decide (call = number)
      | .draining _ senders => senders.contains number
      | _ => false) ||
    peer.calls.any fun call =>
      match call.stage with
      | .draining _ senders _ => senders.contains number
      | _ => false

/-- A call takes its number and encodes its request. -/
def call (method : String) (params : Value) (deadline : String)
    (decode : Value → Except PluginError R) (peer : Peer R) : Peer R :=
  let id := peer.nextId
  let stage :=
    if id = u64Max then
      .returned (.error (.protocol "JSON-RPC request identifier space exhausted"))
    else if maxFrameLength < (requestFrame id method params).size then
      .returned (.error (.protocol s!"outbound JSON-RPC frame exceeds {maxFrameLength} bytes"))
    else .numbered
  { peer with
    nextId := (peer.nextId + 1) % (u64Max + 1)
    calls := peer.calls ++ [⟨id, method, params, deadline, decode, none, stage⟩] }

/-- A call enters the pending table, unless the peer has failed. -/
def register (number : Nat) (peer : Peer R) : Peer R :=
  match peer.calls[number]? with
  | some call =>
    match call.stage with
    | .numbered =>
      match peer.state.failure with
      | some failure => peer.setStage number (.returned (.error (.protocol failure)))
      | none => setStage number .writing { peer with
          state := { peer.state with pending := peer.state.pending.insert call.id number } }
    | _ => peer
  | none => peer

/-- A call has written its frame, or could not. -/
def write (number : Nat) (failure : Option String) (peer : Peer R) : Peer R :=
  match peer.calls[number]? with
  | some call =>
    match call.stage, failure with
    | .writing, none => setStage number .waiting { peer with
        sent := peer.sent ++ [requestFrame call.id call.method call.params] }
    | .writing, some message => peer.setCall number (Call.broken (.io message))
    | _, _ => peer
  | none => peer

/-- The deadline of a call has passed while it had no reply. -/
def timeout (number : Nat) (peer : Peer R) : Peer R :=
  peer.setCall number fun call =>
    match call.stage, call.slot with
    | .writing, _ => call.late
    | .waiting, none => call.late
    | _, _ => call

/-- A call takes its reply. -/
def receive (number : Nat) (peer : Peer R) : Peer R :=
  peer.setCall number fun call =>
    match call.stage, call.slot with
    | .waiting, some reply => { call with stage := .returned (call.finish reply) }
    | _, _ => call

/-- A call finds that no one can reply to it any more. -/
def closed (number : Nat) (peer : Peer R) : Peer R :=
  peer.setCall number fun call =>
    match call.stage, call.slot with
    | .waiting, none =>
      if peer.holds number = true then call
      else call.broken (.transport "plugin response stream closed")
    | _, _ => call

/-- A call fails the peer. -/
def failAll (number : Nat) (peer : Peer R) : Peer R :=
  match peer.calls[number]? with
  | some call =>
    match call.stage with
    | .failing message error =>
      setStage number (.draining message peer.senders error) (peer.fail message)
    | _ => peer
  | none => peer

/-- A call that has failed the peer tells the next one, or ends. -/
def drain (number : Nat) (peer : Peer R) : Peer R :=
  match peer.calls[number]? with
  | some call =>
    match call.stage with
    | .draining message (sender :: rest) error =>
      tell message sender (peer.setStage number (.draining message rest error))
    | .draining _ [] error => peer.setStage number (.returned (.error error))
    | _ => peer
  | none => peer

/-- The caller gives a call up where it waits. -/
def drop (number : Nat) (peer : Peer R) : Peer R :=
  peer.setCall number fun call =>
    match call.stage with
    | .numbered => { call with stage := .dropped }
    | .writing => { call with stage := .dropped }
    | .waiting => { call with stage := .dropped }
    | .failing _ _ => { call with stage := .dropped }
    | _ => call

/-- The reader handles a line. -/
def frame (line : Line) (peer : Peer R) : Peer R :=
  match peer.reader, line.incoming with
  | .reading, .error message => { peer with reader := .failing message }
  | .reading, .ok (.notification notification) =>
    if peer.notifications.length < notificationBuffer then
      { peer with notifications := peer.notifications ++ [notification] }
    else { peer with reader := .failing "plugin notification buffer exhausted" }
  | .reading, .ok (.response id reply) =>
    match peer.state.pending.lookup id with
    | some number => { peer with
        state := { peer.state with pending := peer.state.pending.erase id }
        reader := .delivering number reply }
    | none => { peer with reader := .failing s!"plugin responded with unknown request id {id}" }
  | _, _ => peer

def eof (peer : Peer R) : Peer R :=
  if peer.reader = .reading then { peer with reader := .failing "plugin stdout closed" } else peer

/-- The reader hands over a reply that it has taken in. -/
def deliver (peer : Peer R) : Peer R :=
  match peer.reader with
  | .delivering number reply =>
    setCall number (Call.give reply) { peer with reader := .reading }
  | _ => peer

def readerFail (peer : Peer R) : Peer R :=
  match peer.reader with
  | .failing message => { peer.fail message with reader := .draining message peer.senders }
  | _ => peer

def readerDrain (peer : Peer R) : Peer R :=
  match peer.reader with
  | .draining message (sender :: rest) =>
    tell message sender { peer with reader := .draining message rest }
  | .draining _ [] => { peer with reader := .finished }
  | _ => peer

def takeNotification (peer : Peer R) : Peer R :=
  { peer with notifications := peer.notifications.drop 1 }

/-- One step of the peer. What is not enabled changes nothing. -/
def step : PeerAction R → Peer R → Peer R
  | .call method params deadline decode => call method params deadline decode
  | .register number => register number
  | .write number failure => write number failure
  | .timeout number => timeout number
  | .receive number => receive number
  | .closed number => closed number
  | .failAll number => failAll number
  | .drain number => drain number
  | .drop number => drop number
  | .frame line => frame line
  | .eof => eof
  | .deliver => deliver
  | .readerFail => readerFail
  | .readerDrain => readerDrain
  | .takeNotification => takeNotification

/-- The peer after some steps. -/
def run (actions : List (PeerAction R)) : Peer R := Relational.runFrom step .start actions

end Peer

end Fleetd.Harness
