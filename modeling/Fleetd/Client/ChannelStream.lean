import Fleetd.Client.AcceptanceQueue
import Fleetd.Relational.Trace
import Fleetd.Replay.Consumer

/-!
# The stream clients

The browser and the native client of one channel stream: a loop of connection attempts, each
of which feeds one acceptance lane until its socket is gone and the lane is idle. The two
differ in how an attempt is authorised and in which frames they understand.

Every callback and every continuation of an await is one step. A step whose handler is not
attached, or whose await is not pending, changes nothing. The history of what the client did
is recorded beside its state.
-/

namespace Fleetd

open Relational Replay

def browserChannelStreamProtocol : String := "fleetd.channel-stream.browser.v1"

/-- The close code of a revoked authorization. -/
def policyViolation : Nat := 1008

inductive ClientDialect
  | browser
  | native
  deriving DecidableEq, Repr

inductive ChannelStreamErrorCode
  | consumerRejected
  | grantIssueFailed
  | grantLinkageMismatch
  | reconnectExhausted
  | serverProtocolError
  | socketOpenFailed
  | socketProtocolMismatch
  | upgradeRejected
  deriving DecidableEq, Repr

/-- The options of a client that its loop reads. -/
structure ChannelStreamOptions where
  dialect : ClientDialect
  channelId : String
  initialCursor : Nat
  reconnectDelaysMs : List Nat
  maxPendingMessages : Nat
  deriving DecidableEq, Repr

/-- A frame from the server: unreadable or of an unknown shape, the announcement of a browser
stream, or an envelope. -/
inductive ServerFrame (Json : Type)
  | malformed
  | ready (protocol channelId : String) (after : Int)
  | message (envelope : MessageEnvelope Json)
  deriving DecidableEq, Repr

/-- What a socket reports. -/
inductive SocketEvent (Json : Type)
  | opened (protocol : String) (sent : Bool)
  | frame (frame : ServerFrame Json)
  | failed
  | closed (code : Nat)
  | unexpectedResponse
  deriving DecidableEq, Repr

/-- One attempt: its socket handlers and its lane. `received` is the history of the messages
its handlers took. -/
structure SocketAttempt (Json : Type) where
  expectedAfter : Nat
  received : List (Message Json)
  opened : Bool
  ready : Bool
  disconnected : Bool
  terminalError : Option ChannelStreamErrorCode
  settled : Option (Except ChannelStreamErrorCode Unit)
  lane : MessageAcceptanceQueue Json

/-- Where the loop of attempts stands. -/
inductive ClientPhase (Json : Type)
  | starting
  | delaying
  | granting (attemptCursor : Nat)
  | attempting (attempt : SocketAttempt Json)
  | finished (outcome : Except ChannelStreamErrorCode Unit)

/-- The client and its history. -/
structure ClientStream (Json : Type) where
  cursor : Nat
  acceptedIdentities : AcceptedIdentityIndex
  stopRequested : Bool
  reconnectIndex : Nat
  phase : ClientPhase Json
  history : List (Event (Message Json))

/-- How the issue of a grant ends: with a grant and a socket or without one, in a way that may
be retried, or in one that may not. -/
inductive GrantResult
  | issued (created : Bool)
  | retryable
  | refused (code : ChannelStreamErrorCode)
  deriving DecidableEq, Repr

/-- What can happen to a client. -/
inductive ClientStep (Json : Type)
  | start (created : Bool)
  | delayElapsed (created : Bool)
  | grant (result : GrantResult)
  | grantAborted
  | timeout
  | socket (event : SocketEvent Json)
  | acceptResolved
  | acceptRejected
  | resume
  | close

variable {Json : Type}

/-! ## One attempt -/

/-- A fresh attempt from the cursor it was opened with. -/
def SocketAttempt.start (expectedAfter : Nat) : SocketAttempt Json where
  expectedAfter := expectedAfter
  received := []
  opened := false
  ready := false
  disconnected := false
  terminalError := none
  settled := none
  lane := .empty

/-- Whether the handlers of an attempt still act. -/
def SocketAttempt.live (attempt : SocketAttempt Json) : Bool :=
  attempt.settled.isNone && attempt.terminalError.isNone && !attempt.disconnected

/-- An attempt settles when its lane is not busy and it failed, or is disconnected with nothing
pending. -/
def SocketAttempt.settleIfPossible (attempt : SocketAttempt Json) : SocketAttempt Json :=
  if attempt.settled.isSome ∨ attempt.lane.busy = true then attempt
  else match attempt.terminalError with
    | some code => { attempt with settled := some (.error code) }
    | none =>
      if attempt.disconnected = true ∧ attempt.lane.pending = [] then
        { attempt with settled := some (.ok ()) }
      else attempt

/-- The first failure stops the lane. -/
def SocketAttempt.fail (code : ChannelStreamErrorCode) (attempt : SocketAttempt Json) :
    SocketAttempt Json :=
  if attempt.settled.isSome ∨ attempt.terminalError.isSome then attempt
  else SocketAttempt.settleIfPossible
    { attempt with terminalError := some code, lane := attempt.lane.stop }

/-- The transport is gone; the lane finishes what it holds. -/
def SocketAttempt.disconnect (attempt : SocketAttempt Json) : SocketAttempt Json :=
  if attempt.live then SocketAttempt.settleIfPossible { attempt with disconnected := true }
  else attempt

/-- The socket opened. A browser must have the exact protocol and redeems its grant. -/
def SocketAttempt.onOpen (dialect : ClientDialect) (protocol : String) (sent : Bool)
    (attempt : SocketAttempt Json) : SocketAttempt Json :=
  if attempt.live then
    match dialect with
    | .browser =>
      if attempt.opened = true ∨ protocol ≠ browserChannelStreamProtocol then
        attempt.fail .socketProtocolMismatch
      else if sent then { attempt with opened := true }
      else SocketAttempt.disconnect { attempt with opened := true }
    | .native =>
      if attempt.opened then attempt.fail .serverProtocolError
      else { attempt with opened := true }
  else attempt

/-- The socket closed. A stopped client drops what is queued, and a native client is told of a
revoked authorization. -/
def SocketAttempt.onClose (dialect : ClientDialect) (stopped : Bool) (code : Nat)
    (attempt : SocketAttempt Json) : SocketAttempt Json :=
  if attempt.settled.isSome then attempt
  else
    let gone := { attempt with
      disconnected := true
      lane := if stopped then attempt.lane.clear else attempt.lane }
    if dialect = .native ∧ attempt.opened = true ∧ code = policyViolation then
      gone.fail .upgradeRejected
    else gone.settleIfPossible

/-- Whether a frame announces exactly the linkage of the attempt. -/
def isReadyFrame (channelId : String) (expectedAfter : Nat) : ServerFrame Json → Bool
  | .ready protocol announced after =>
    decide (protocol = browserChannelStreamProtocol) && decide (announced = channelId) &&
      decide (after = (expectedAfter : Int))
  | _ => false

/-- The message of a frame, if it is one. -/
def decodeMessageFrame (channelId : String) : ServerFrame Json → Option (Message Json)
  | .message envelope => decodeChannelMessage envelope channelId
  | _ => none

/-! ## The loop of attempts -/

/-- The drain loop goes on from the lane's pending messages. -/
def ClientStream.drain (attempt : SocketAttempt Json) (w : ClientStream Json) : ClientStream Json :=
  if attempt.lane.terminal then { w with phase := .attempting attempt.settleIfPossible }
  else match drainPending w.cursor w.acceptedIdentities attempt.lane.pending with
    | .idle =>
      let drained := { attempt with lane := attempt.lane.clear }
      { w with phase := .attempting drained.settleIfPossible }
    | .offered message rest => { w with
        phase := .attempting { attempt with lane := ⟨rest, some message, false⟩ }
        history := w.history ++ [.delivered message] }
    | .conflict =>
      let stopped := { attempt with lane := attempt.lane.stop }
      { w with phase := .attempting (stopped.fail .serverProtocolError) }

/-- A message is offered to the lane; a full lane makes the transport replay instead. -/
def ClientStream.offer (options : ChannelStreamOptions) (message : Message Json)
    (attempt : SocketAttempt Json) (w : ClientStream Json) : ClientStream Json :=
  if attempt.lane.terminal then { w with phase := .attempting attempt }
  else if options.maxPendingMessages ≤ attempt.lane.pending.length then
    let cleared := { attempt with lane := attempt.lane.clear }
    { w with phase := .attempting cleared.disconnect }
  else
    let queued := { attempt with lane :=
      { attempt.lane with pending := attempt.lane.pending ++ [message] } }
    if attempt.lane.busy then { w with phase := .attempting queued } else w.drain queued

/-- A frame arrived. -/
def ClientStream.onMessage (options : ChannelStreamOptions) (frame : ServerFrame Json)
    (attempt : SocketAttempt Json) (w : ClientStream Json) : ClientStream Json :=
  if attempt.live = false then w
  else match options.dialect with
    | .browser =>
      if attempt.ready = false then
        if isReadyFrame options.channelId attempt.expectedAfter frame then
          { w with phase := .attempting { attempt with ready := true } }
        else { w with phase := .attempting (attempt.fail .serverProtocolError) }
      else match decodeMessageFrame options.channelId frame with
        | none => { w with phase := .attempting (attempt.fail .serverProtocolError) }
        | some message =>
          w.offer options message { attempt with received := attempt.received ++ [message] }
    | .native =>
      if attempt.opened = false then
        { w with phase := .attempting (attempt.fail .serverProtocolError) }
      else match decodeMessageFrame options.channelId frame with
        | none => { w with phase := .attempting (attempt.fail .serverProtocolError) }
        | some message =>
          w.offer options message { attempt with received := attempt.received ++ [message] }

/-- A socket event reaches its handler. -/
def ClientStream.onSocket (options : ChannelStreamOptions) (event : SocketEvent Json)
    (attempt : SocketAttempt Json) (w : ClientStream Json) : ClientStream Json :=
  match event with
  | .opened protocol sent =>
    { w with phase := .attempting (attempt.onOpen options.dialect protocol sent) }
  | .frame frame => w.onMessage options frame attempt
  | .failed => { w with phase := .attempting attempt.disconnect }
  | .closed code =>
    { w with phase := .attempting (attempt.onClose options.dialect w.stopRequested code) }
  | .unexpectedResponse =>
    match options.dialect with
    | .browser => w
    | .native => { w with phase := .attempting (attempt.fail .upgradeRejected) }

/-- The loop is left. -/
def ClientStream.finish (outcome : Except ChannelStreamErrorCode Unit) (w : ClientStream Json) :
    ClientStream Json :=
  { w with phase := .finished outcome, history := w.history ++ [.finished] }

/-- An attempt is given up before its socket exists, or after it settled. -/
def ClientStream.endAttempt (w : ClientStream Json) : ClientStream Json :=
  { w with history := w.history ++ [.ended] }

/-- The loop turns to its next attempt unless it was stopped. -/
def ClientStream.again (w : ClientStream Json) : ClientStream Json :=
  { w with
    phase := .starting
    reconnectIndex := if w.stopRequested then w.reconnectIndex else w.reconnectIndex + 1 }

/-- An attempt is opened at the cursor: a browser asks for a grant, a native client opens its
socket. -/
def ClientStream.openAttempt (options : ChannelStreamOptions) (created : Bool)
    (w : ClientStream Json) : ClientStream Json :=
  let opened : ClientStream Json := { w with history := w.history ++ [.opened w.cursor] }
  match options.dialect with
  | .browser => { opened with phase := .granting w.cursor }
  | .native =>
    if created then { opened with phase := .attempting (.start w.cursor) }
    else opened.endAttempt.finish (.error .socketOpenFailed)

/-- The head of the loop. -/
def ClientStream.start (options : ChannelStreamOptions) (created : Bool) (w : ClientStream Json) :
    ClientStream Json :=
  if w.stopRequested then w.finish (.ok ())
  else if 0 < w.reconnectIndex then
    match options.reconnectDelaysMs[w.reconnectIndex - 1]? with
    | none => w.finish (.error .reconnectExhausted)
    | some _ => { w with phase := .delaying }
  else w.openAttempt options created

/-- The issue of a grant is over. A stopped client leaves its loop whatever the result. -/
def ClientStream.granted (attemptCursor : Nat) (result : GrantResult) (w : ClientStream Json) :
    ClientStream Json :=
  if w.stopRequested then w.endAttempt.finish (.ok ())
  else match result with
    | .issued true => { w with phase := .attempting (.start attemptCursor) }
    | .issued false => w.endAttempt.finish (.error .grantLinkageMismatch)
    | .retryable => w.endAttempt.again
    | .refused code => w.endAttempt.finish (.error code)

/-- The issue of a grant was aborted by its timer or by the client's stop. -/
def ClientStream.grantAborted (w : ClientStream Json) : ClientStream Json :=
  if w.stopRequested then w.endAttempt.finish (.ok ()) else w.endAttempt.again

/-- The consumer accepted the message it has: the cursor moves, and the lane goes on. -/
def ClientStream.acceptResolved (attempt : SocketAttempt Json) (w : ClientStream Json) :
    ClientStream Json :=
  match attempt.lane.accepting with
  | none => w
  | some message => ClientStream.drain
      { attempt with lane := { attempt.lane with accepting := none } }
      { w with
        cursor := message.seq
        acceptedIdentities := rememberIdentity message w.acceptedIdentities
        history := w.history ++ [.accepted message] }

/-- The consumer rejected the message it has: the lane ends and the attempt fails. -/
def ClientStream.acceptRejected (attempt : SocketAttempt Json) (w : ClientStream Json) :
    ClientStream Json :=
  match attempt.lane.accepting with
  | none => w
  | some message =>
    let stopped := { attempt with lane := ⟨[], none, true⟩ }
    { w with
      phase := .attempting (stopped.fail .consumerRejected).settleIfPossible
      history := w.history ++ [.rejected message] }

/-- A settled attempt gives control back to the loop. -/
def ClientStream.resume (attempt : SocketAttempt Json) (w : ClientStream Json) : ClientStream Json :=
  match attempt.settled with
  | none => w
  | some (.ok _) => w.endAttempt.again
  | some (.error code) => w.endAttempt.finish (.error code)

/-- The consumer closes the stream: the attempt under way is aborted. -/
def ClientStream.close (w : ClientStream Json) : ClientStream Json :=
  if w.stopRequested then w
  else
    let stopped := { w with stopRequested := true, history := w.history ++ [.closeRequested] }
    match w.phase with
    | .attempting attempt => { stopped with phase := .attempting attempt.disconnect }
    | _ => stopped

/-- The timer of an attempt runs until the attempt is ready. -/
def ClientStream.timeout (options : ChannelStreamOptions) (attempt : SocketAttempt Json)
    (w : ClientStream Json) : ClientStream Json :=
  match options.dialect with
  | .browser =>
    if attempt.ready then w else { w with phase := .attempting attempt.disconnect }
  | .native =>
    if attempt.opened then w else { w with phase := .attempting attempt.disconnect }

/-- One step of a client. -/
def ClientStep.next (options : ChannelStreamOptions) (step : ClientStep Json)
    (w : ClientStream Json) : ClientStream Json :=
  match step, w.phase with
  | .close, _ => w.close
  | .start created, .starting => w.start options created
  | .delayElapsed created, .delaying =>
    if w.stopRequested then w.finish (.ok ()) else w.openAttempt options created
  | .grant result, .granting attemptCursor => w.granted attemptCursor result
  | .grantAborted, .granting _ => w.grantAborted
  | .timeout, .attempting attempt => w.timeout options attempt
  | .socket event, .attempting attempt => w.onSocket options event attempt
  | .acceptResolved, .attempting attempt => w.acceptResolved attempt
  | .acceptRejected, .attempting attempt => w.acceptRejected attempt
  | .resume, .attempting attempt => w.resume attempt
  | _, _ => w

/-- A client as it is opened. -/
def ClientStream.init (options : ChannelStreamOptions) : ClientStream Json where
  cursor := options.initialCursor
  acceptedIdentities := createAcceptedIdentityIndex
  stopRequested := false
  reconnectIndex := 0
  phase := .starting
  history := []

/-- A client after some steps. -/
def clientRun (options : ChannelStreamOptions) (steps : List (ClientStep Json)) : ClientStream Json :=
  runFrom (ClientStep.next options) (.init options) steps

end Fleetd
