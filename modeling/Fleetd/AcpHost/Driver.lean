import Fleetd.AcpHost.Session
import Fleetd.Effects.Mailbox
import Fleetd.Relational.Trace

/-!
# The driver as a whole

The command loop of the ACP driver beside the tasks it starts: the handlers of updates and
permission requests, the monitor of each turn, and the task of each replay. Every task is split
where it releases the lock, and any task may be the next one to go on. A notification that was
decided under the lock waits in the outbox until its task is scheduled again.

Clock readings matter for evidence only; a deadline may pass at any time. Turns, replays and
permission requests are numbered in the order they were accepted. A replay also records the
updates that arrived for its session while it was loading, which nothing reads.
-/

namespace Fleetd.AcpHost

open Serde (Value)
open Harness Effects

/-- What the driver was started for, and what its runtime can do. -/
structure DriverProfile where
  profileDigest : String
  adoption : AdoptionMethods
  deriving DecidableEq, Repr

/-! ## Tasks -/

/-- How far the monitor of a turn has come. -/
inductive MonitorStage
  | running
  | draining (reason : String)
  | decided (outcome : PromptOutcome)
  | withdrawing (held : Option PendingPermission) (taken : TakenTurn)
  | publishing
  | finished
  deriving DecidableEq, Repr

/-- The monitor of a turn, with the value on its cancellation channel. -/
structure Monitor where
  sessionRef : String
  fence : ExecutionFence
  cancellation : Option String
  stage : MonitorStage
  deriving DecidableEq, Repr

inductive Deadline
  | wall
  | idle
  deriving DecidableEq, Repr

def Deadline.reason : Deadline → String
  | .wall => "wall_deadline"
  | .idle => "idle_deadline"

/-- The channels that a monitor listens to. -/
inductive WatchChannel
  | activity
  | cancellation
  deriving DecidableEq, Repr

def WatchChannel.closedError : WatchChannel → String
  | .activity => "activity monitor closed"
  | .cancellation => "cancellation monitor closed"

/-- What wakes a monitor. -/
inductive MonitorEvent
  | answered (answer : PromptAnswer)
  | deadline (deadline : Deadline)
  | cancelled
  | closed (channel : WatchChannel)
  | drained (answer : Option PromptAnswer)
  deriving DecidableEq, Repr

/-- The next stage of a monitor, as long as its turn is not taken. `dropped` tells that the sending
side of its channels is gone. -/
def Monitor.wake (event : MonitorEvent) (dropped : Bool) (monitor : Monitor) : Monitor :=
  match monitor.stage, event with
  | .running, .answered answer => { monitor with stage := .decided answer.outcome }
  | .running, .deadline deadline => { monitor with stage := .draining deadline.reason }
  | .running, .cancelled =>
    match monitor.cancellation with
    | some reason => { monitor with stage := .draining reason }
    | none => monitor
  | .running, .closed channel =>
    if dropped = true then
      { monitor with
        stage := .decided (.unknown (.object [("error", .string channel.closedError)])) }
    else monitor
  | .draining reason, .drained answer =>
    { monitor with stage := .decided (drainedOutcome reason answer) }
  | _, _ => monitor

inductive RequestStage
  | publishing
  | waiting
  | deciding (outcome : PermissionOutcome)
  | responded (outcome : PermissionOutcome)
  deriving DecidableEq, Repr

/-- The handler of a permission request, with the value on its answer channel. -/
structure RequestHandler where
  permissionId : String
  answer : Option PermissionOutcome
  stage : RequestStage
  deriving DecidableEq, Repr

/-- A handler that still listens takes an answer. -/
def RequestHandler.receive (outcome : PermissionOutcome) (handler : RequestHandler) :
    RequestHandler :=
  match handler.stage with
  | .publishing => { handler with answer := some outcome }
  | .waiting => { handler with answer := some outcome }
  | _ => handler

/-- A handler whose request was sent waits for its answer. -/
def RequestHandler.published (handler : RequestHandler) : RequestHandler :=
  match handler.stage with
  | .publishing => { handler with stage := .waiting }
  | _ => handler

/-- A handler stops to wait, with the answer it has, or because of its deadline. -/
def RequestHandler.decide (handler : RequestHandler) : RequestHandler :=
  match handler.stage with
  | .waiting => { handler with stage := .deciding (handler.answer.getD .cancelled) }
  | _ => handler

inductive ReplayStage
  | loading
  | publishing
  | finished
  deriving DecidableEq, Repr

/-- The task of a replay, with the updates that arrived for its session while it was loading. -/
structure Replay where
  sessionRef : String
  stage : ReplayStage
  seen : List Value
  deriving DecidableEq, Repr

/-- Records an update that arrives for a replay. -/
def Replay.notice (raw : Value) (replay : Replay) : Replay :=
  match raw.getStr "sessionId", raw.get "update" with
  | some sessionRef, some update =>
    if replay.stage = .loading ∧ replay.sessionRef = sessionRef then
      { replay with seen := replay.seen ++ [update] }
    else replay
  | _, _ => replay

/-- The command that is served. -/
inductive Serving
  | idle
  | opening (request : OpenSession)
  | cancelling (request : CancelTurn) (sessionRef : String)
  | answering (request : CancelTurn) (sessionRef : String) (pending : List PendingPermission)
  | stopping (pending : List PendingPermission)
  | stopped
  deriving DecidableEq, Repr

structure Driver where
  shared : SharedState
  monitors : List Monitor
  replays : List Replay
  requests : List RequestHandler
  resolving : List (PermissionResolution × PendingPermission)
  serving : Serving
  mail : Mailbox Outbound

def Driver.start : Driver := ⟨.default, [], [], [], [], .idle, .empty⟩

/-! ## Steps -/

/-- What can happen next. -/
inductive Action
  | openRequested (request : OpenSession)
  | openAnswered (answer : Except String Value)
  | startTurn (request : StartTurn)
  | startTranscript (request : StartTranscript)
  | close (request : CloseSession)
  | cancel (request : CancelTurn)
  | cancelGoesOn
  | stop
  | stopGoesOn
  | resolve (resolution : PermissionResolution)
  | resolveGoesOn (index : Nat)
  | update (raw : Value) (now : Int)
  | permission (raw : Value) (permissionId : String) (now : Int)
  | permissionDecided (handler : Nat)
  | permissionRemoved (handler : Nat)
  | monitor (number : Nat) (event : MonitorEvent)
  | takeTurn (number : Nat)
  | withdraw (number : Nat)
  | loaded (number : Nat) (failure : Option String)
  | send (index : Nat)

namespace Driver

/-- Puts an answer on the channel of a handler. -/
def deliver (pending : PendingPermission) (outcome : PermissionOutcome) (d : Driver) : Driver :=
  { d with requests := d.requests.modify pending.response (RequestHandler.receive outcome) }

/-- Whether no session holds the channels of a monitor any more. -/
def dropped (number : Nat) (d : Driver) : Bool :=
  d.shared.sessions.entries.all fun entry => entry.2.active.all fun active =>
    Decidable.decide (active.watch ≠ number)

def setStage (number : Nat) (stage : MonitorStage) (d : Driver) : Driver :=
  { d with monitors := d.monitors.modify number fun monitor => { monitor with stage } }

/-- Puts a reason on the cancellation channel of a monitor. -/
def signal (number : Nat) (reason : String) (d : Driver) : Driver :=
  { d with monitors := d.monitors.modify number fun monitor =>
      { monitor with cancellation := some reason } }

def postAll (items : List Outbound) (d : Driver) : Driver :=
  { d with mail := items.foldl (fun mail item => mail.post item) d.mail }

section Commands
variable (profile : DriverProfile)

def startTurn (request : StartTurn) (d : Driver) : Driver :=
  match d.serving, AcpHost.startTurn request d.monitors.length d.shared with
  | .idle, .ok (_, shared) =>
    { d with
      shared
      monitors := d.monitors ++ [⟨request.sessionRef, request.fence, none, .running⟩] }
  | _, _ => d

def startTranscript (request : StartTranscript) (d : Driver) : Driver :=
  match d.serving, AcpHost.startTranscript profile.adoption request d.replays.length d.shared with
  | .idle, .ok shared =>
    { d with
      shared
      replays := d.replays ++ [⟨request.sessionRef, .loading, []⟩] }
  | _, _ => d

def close (request : CloseSession) (d : Driver) : Driver :=
  match d.serving, closeSession request d.shared with
  | .idle, .ok shared => { d with shared }
  | _, _ => d

def openRequested [HttpSyntax] (request : OpenSession) (d : Driver) : Driver :=
  match d.serving, prepareOpen profile.profileDigest profile.adoption request with
  | .idle, .ok _ => { d with serving := .opening request }
  | _, _ => d

def openAnswered (answer : Except String Value) (d : Driver) : Driver :=
  match d.serving with
  | .opening request =>
    match openSession request answer d.shared with
    | .ok (_, shared) => { d with shared, serving := .idle }
    | .error _ => { d with serving := .idle }
  | _ => d

def cancel (request : CancelTurn) (d : Driver) : Driver :=
  match d.serving, sessionOfFence request.fence d.shared with
  | .idle, .ok sessionRef => { d with serving := .cancelling request sessionRef }
  | _, _ => d

/-- Goes on with a cancellation: the permissions are taken out, each of them is answered, and the
monitor is told. -/
def cancelGoesOn (d : Driver) : Driver :=
  match d.serving with
  | .cancelling request sessionRef =>
    let (pending, shared) := takePermissions (permissionsOf request.fence d.shared) d.shared
    { d with shared, serving := .answering request sessionRef pending }
  | .answering request sessionRef (pending :: rest) =>
    deliver pending .cancelled { d with serving := .answering request sessionRef rest }
  | .answering request sessionRef [] =>
    match watchOfSession sessionRef d.shared with
    | .ok number => signal number request.reason { d with serving := .idle }
    | .error _ => { d with serving := .idle }
  | _ => d

/-- Takes out all permissions; no command is served after this one. -/
def stop (d : Driver) : Driver :=
  match d.serving with
  | .idle =>
    { d with
      shared := { d.shared with permissions := ∅ }
      serving := .stopping (d.shared.permissions.entries.map (·.2)) }
  | _ => d

/-- Goes on with a stop: each permission that was taken out is answered. -/
def stopGoesOn (d : Driver) : Driver :=
  match d.serving with
  | .stopping (pending :: rest) => deliver pending .cancelled { d with serving := .stopping rest }
  | .stopping [] => { d with serving := .stopped }
  | _ => d

end Commands

/-- Takes out the permission that a resolution is for. -/
def resolve (resolution : PermissionResolution) (d : Driver) : Driver :=
  match takePermission resolution.permissionId d.shared with
  | (some pending, shared) => { d with shared, resolving := d.resolving ++ [(resolution, pending)] }
  | (none, _) => d

/-- Answers the permission that a resolution took out, if the fence is right. -/
def resolveGoesOn (index : Nat) (d : Driver) : Driver :=
  match d.resolving[index]? with
  | some (resolution, pending) =>
    let d := { d with resolving := d.resolving.eraseIdx index }
    if pending.fence = resolution.fence then d.deliver pending resolution.outcome else d
  | none => d

def update [Sha256] (raw : Value) (now : Int) (d : Driver) : Driver :=
  let handled := handleSessionUpdate raw now d.shared
  let d := { d with shared := handled.shared, replays := d.replays.map (Replay.notice raw) }
  let d := d.postAll handled.posted.toList
  match handled.cancellation with
  | some (number, reason) => d.signal number reason
  | none => d

def permission (raw : Value) (permissionId : String) (now : Int) (d : Driver) : Driver :=
  match handlePermissionRequest raw permissionId d.requests.length now d.shared with
  | .ok asked =>
    postAll [⟨.turn asked.watch, .request d.requests.length, .permissionRequested asked.request⟩]
      { d with
        shared := asked.shared
        requests := d.requests ++ [⟨permissionId, none, .publishing⟩] }
  | .error _ => d

def permissionDecided (handler : Nat) (d : Driver) : Driver :=
  { d with requests := d.requests.modify handler RequestHandler.decide }

def permissionRemoved (handler : Nat) (d : Driver) : Driver :=
  match d.requests[handler]? with
  | some request =>
    match request.stage with
    | .deciding outcome =>
      { d with
        shared := (takePermission request.permissionId d.shared).2
        requests := d.requests.set handler { request with stage := .responded outcome } }
    | _ => d
  | none => d

def monitor (number : Nat) (event : MonitorEvent) (d : Driver) : Driver :=
  { d with monitors := d.monitors.modify number (Monitor.wake event (d.dropped number)) }

/-- The monitor takes the active turn of its session. -/
def takeTurn [Sha256] (number : Nat) (d : Driver) : Driver :=
  match d.monitors[number]? with
  | some monitor =>
    match monitor.stage with
    | .decided outcome =>
      match emitTerminal monitor.sessionRef outcome d.shared with
      | .ok (taken, shared) => setStage number (.withdrawing none taken) { d with shared }
      | .error _ => d.setStage number .finished
    | _ => d
  | none => d

/-- The monitor goes on to withdraw permissions, and then offers its terminal frame. -/
def withdraw (number : Nat) (d : Driver) : Driver :=
  match d.monitors[number]? with
  | some monitor =>
    match monitor.stage with
    | .withdrawing (some pending) taken =>
      deliver pending .cancelled (d.setStage number (.withdrawing none taken))
    | .withdrawing none ⟨watch, terminal, permissionId :: rest⟩ =>
      let (pending, shared) := takePermission permissionId d.shared
      setStage number (.withdrawing pending ⟨watch, terminal, rest⟩) { d with shared }
    | .withdrawing none ⟨watch, terminal, []⟩ =>
      postAll [⟨.turn watch, .monitor number, .turnTerminal terminal⟩]
        (d.setStage number .publishing)
    | _ => d
  | none => d

/-- The runtime has answered a replay, which takes its totals. -/
def loaded (number : Nat) (failure : Option String) (d : Driver) : Driver :=
  match d.replays[number]? with
  | some replay =>
    if replay.stage = .loading then
      let (complete, shared) := completeTranscript replay.sessionRef failure d.shared
      postAll [⟨.replay number, .replay number, .transcriptComplete complete⟩] { d with
        shared
        replays := d.replays.set number { replay with stage := .publishing } }
    else d
  | none => d

/-- The task whose notification was sent goes on. -/
def sent (sender : Sender) (d : Driver) : Driver :=
  match sender with
  | .update => d
  | .request handler =>
    { d with requests := d.requests.modify handler RequestHandler.published }
  | .monitor number => d.setStage number .finished
  | .replay number =>
    { d with replays := d.replays.modify number fun replay => { replay with stage := .finished } }

def send (index : Nat) (d : Driver) : Driver :=
  match d.mail.outbox[index]? with
  | some outbound => sent outbound.sender { d with mail := d.mail.send index }
  | none => d

end Driver

section
variable [Sha256] [HttpSyntax] (profile : DriverProfile)

/-- One step of the driver. What is refused or not enabled changes nothing. -/
def step : Action → Driver → Driver
  | .openRequested request => Driver.openRequested profile request
  | .openAnswered answer => Driver.openAnswered answer
  | .startTurn request => Driver.startTurn request
  | .startTranscript request => Driver.startTranscript profile request
  | .close request => Driver.close request
  | .cancel request => Driver.cancel request
  | .cancelGoesOn => Driver.cancelGoesOn
  | .stop => Driver.stop
  | .stopGoesOn => Driver.stopGoesOn
  | .resolve resolution => Driver.resolve resolution
  | .resolveGoesOn index => Driver.resolveGoesOn index
  | .update raw now => Driver.update raw now
  | .permission raw permissionId now => Driver.permission raw permissionId now
  | .permissionDecided handler => Driver.permissionDecided handler
  | .permissionRemoved handler => Driver.permissionRemoved handler
  | .monitor number event => Driver.monitor number event
  | .takeTurn number => Driver.takeTurn number
  | .withdraw number => Driver.withdraw number
  | .loaded number failure => Driver.loaded number failure
  | .send index => Driver.send index

/-- The driver after some steps. -/
def drive (actions : List Action) : Driver := Relational.runFrom (step profile) .start actions

end

end Fleetd.AcpHost
