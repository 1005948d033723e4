import Fleetd.Controller.DurableDrain

/-!
# Interrupted turns

The wait for the terminal frame of a turn, one await point after another. A stop that is ready
while the drain is not drops the drain where it stands: while it waits for a notification, while a
transaction is open, after the transaction was committed but before the drain went on, or while a
permission request is being resolved. The turn is then cancelled, and a second drain starts on the
same client; it is dropped at its deadline. The client and the store keep what the dropped drain
did to them, and a transaction that was not committed leaves nothing.

The frames that the client has let through and those whose recording was committed are kept
beside the wait. Trajectory copies are left out: a sink cannot change a turn.
-/

namespace Fleetd

open Serde (Value)
open Effects Harness Relational

/-- Where a drain waits. -/
inductive DrainPoint
  | waiting
  | recording (delivered : DeliveredFrame)
  | recorded (delivered : DeliveredFrame)
  | resolving (request : PermissionRequested)
  deriving DecidableEq, Repr

/-- How far the wait for a terminal frame is. A drain carries the reason for which the turn was
stopped before it, if there was one. -/
inductive AwaitPoint
  | draining (hostStopReason : Option HostStopReason) (point : DrainPoint)
  | cancelling (hostStopReason : HostStopReason)
  | terminal (evidence : TerminalWithStop)
  | blocked (reason : String)
  | settled (evidence : TerminalWithStop) (turn : ManagedTurn)
      (settlement : Script TurnEffect ManagedTurnError ManagedTurnOutcome)
  deriving DecidableEq, Repr

/-- The wait for a terminal frame, with the client and the store it works on. -/
structure AwaitTerminal where
  client : HarnessAcpClient
  store : Store
  queue : List DeliveredFrame
  point : AwaitPoint
  taken : List DeliveredFrame
  committed : List DeliveredFrame

/-- What happens next: a call goes on with its answer, a future that is not ready is dropped, or
the turn is settled. -/
inductive AwaitMove
  | nextNotification
  | transportLost (error : PluginError)
  | record
  | proceed
  | resolvePermission (answer : Except PluginError Bool)
  | stop (hostStopReason : HostStopReason)
  | cancelTurn (answer : Except PluginError Bool)
  | drainDeadline
  | settle (sink : Bool) (turn : ManagedTurn) (answers : TurnAnswers)

namespace AwaitTerminal

/-- A wait that has just begun. -/
def start (client : HarnessAcpClient) (store : Store) (queue : List DeliveredFrame) :
    AwaitTerminal where
  client := client
  store := store
  queue := queue
  point := .draining none .waiting
  taken := []
  committed := []

/-- The point at which a failed drain leaves the turn. -/
def drainFailed (hostStopReason : Option HostStopReason) (error : TurnDrainError) : AwaitPoint :=
  match hostStopReason with
  | none => .blocked (boundedReason ("turn evidence failed: " ++ error.display))
  | some _ => .blocked (boundedReason ("cancel drain failed: " ++ error.display))

section
variable [Sha256] (policy : PermissionPolicy) (generationId : String) (fence : ExecutionFence)

/-- What the drain does once the recording of a frame has returned. -/
def afterRecord (hostStopReason : Option HostStopReason) (frame : TurnFrame) : AwaitPoint :=
  match frame with
  | .event _ => .draining hostStopReason .waiting
  | .permission request => .draining hostStopReason (.resolving request)
  | .terminal terminal => .terminal ⟨terminal, hostStopReason⟩

/-- One move of the wait; a move that does not fit its point changes nothing. -/
def step (move : AwaitMove) (w : AwaitTerminal) : AwaitTerminal :=
  match w.point, move with
  | .draining stopped .waiting, .nextNotification =>
    match w.queue with
    | [] => w
    | delivered :: rest =>
      match w.client.nextNotification delivered.frame.notification with
      | .error error => { w with queue := rest, point := drainFailed stopped (.plugin error) }
      | .ok client =>
        { w with
          client := client
          queue := rest
          taken := w.taken ++ [delivered]
          point := .draining stopped (.recording delivered) }
  | .draining stopped .waiting, .transportLost error =>
    { w with point := drainFailed stopped (.plugin error) }
  | .draining stopped (.recording delivered), .record =>
    match recordFrame policy generationId fence.invocationId delivered w.store with
    | .error error => { w with point := drainFailed stopped (.evidence error) }
    | .ok ((), store) =>
      { w with
        store := store
        committed := w.committed ++ [delivered]
        point := .draining stopped (.recorded delivered) }
  | .draining stopped (.recorded delivered), .proceed =>
    { w with point := afterRecord stopped delivered.frame }
  | .draining stopped (.resolving request), .resolvePermission answer =>
    let resolution := ⟨fence, request.permissionId, (decidePermission policy request).outcome⟩
    match w.client.resolvePermission resolution answer with
    | .error error => { w with point := drainFailed stopped (.plugin error) }
    | .ok () => { w with point := .draining stopped .waiting }
  -- only the first drain is raced against a stop, and only the second one has a deadline
  | .draining none _, .stop reason => { w with point := .cancelling reason }
  | .draining (some _) _, .drainDeadline =>
    { w with point := .blocked (boundedReason "cancel drain deadline exceeded") }
  | .cancelling reason, .cancelTurn answer =>
    match w.client.cancelTurn reason.cancelReason answer with
    | .error error =>
      { w with point := .blocked (boundedReason
          ("host " ++ reason.cancelReason ++ " cancellation failed: " ++ error.display)) }
    | .ok () => { w with point := .draining (some reason) .waiting }
  | .terminal evidence, .settle sink turn answers =>
    { w with point := .settled evidence turn (settleTerminal sink turn answers evidence) }
  | _, _ => w

end

end AwaitTerminal

end Fleetd
