import Fleetd.Relational.Trace
import Fleetd.Controller.ManagedTurn
import Fleetd.Harness.Client

/-!
# The drain over the durable store

The frames of one turn as the client lets them through, and the drain of a turn whose recordings
are answered by the store. Each frame comes with the clock readings of the controller and of the
store; every resolution of a permission request is accepted.
-/

namespace Fleetd

open Serde (Value)
open Effects Harness Relational

/-- A frame of a turn. -/
inductive TurnFrame
  | event (event : TurnEvent)
  | permission (request : PermissionRequested)
  | terminal (terminal : Harness.TurnTerminal)
  deriving DecidableEq, Repr

def TurnFrame.notification : TurnFrame → Notification
  | .event observed => .turnEvent observed
  | .permission requested => .permissionRequested requested
  | .terminal summary => .turnTerminal summary

/-- A frame with the clock readings at which it is handled. -/
structure DeliveredFrame where
  frame : TurnFrame
  now : Int
  storeNow : Int
  deriving DecidableEq, Repr

/-- A client that lets frames through one after another. -/
def Harness.HarnessAcpClient.admits [Sha256] (client : HarnessAcpClient) (frames : List DeliveredFrame) :
    Except PluginError HarnessAcpClient :=
  (frames.map fun delivered => delivered.frame.notification).foldlM
    HarnessAcpClient.nextNotification client

/-- The fields of a terminal frame that are stored. -/
def Harness.TurnTerminal.summary (terminal : Harness.TurnTerminal) :
    Fleetd.TurnTerminal Value where
  invocationId := terminal.fence.invocationId
  lastEventSeq := terminal.lastEventSeq
  stopReason := terminal.stopReason
  runtimeStopReason := terminal.runtimeStopReason
  executionCertainty := terminal.executionCertainty
  sessionQuiescent := terminal.sessionQuiescent
  sessionPersistence := terminal.sessionPersistence
  usage := terminal.usage

section
variable [Sha256] (policy : PermissionPolicy) (generationId invocationId : String)

/-- What the drain asks the store to record for a frame. -/
def recordFrame (delivered : DeliveredFrame) : Tx Unit :=
  match delivered.frame with
  | .event event =>
    recordInvocationEvent generationId invocationId (eventRecord event).eventSeq
      (eventRecord event).observedAtMs (eventRecord event).classification (eventRecord event).raw
      delivered.storeNow
  | .permission request =>
    let record := permissionRecord request (decidePermission policy request) delivered.now
    recordInvocationEvent generationId invocationId record.eventSeq record.observedAtMs
      record.classification record.raw delivered.storeNow
  | .terminal terminal => recordInvocationTerminal generationId terminal.summary delivered.storeNow

/-- What the store answers to a frame. -/
def recordAnswer (delivered : DeliveredFrame) (s : Store) : Except FleetError Unit :=
  match recordFrame policy generationId invocationId delivered s with
  | .ok _ => .ok ()
  | .error error => .error error

/-- The arrivals of a drain whose recordings are answered by the store. -/
def durableArrivals : Store → List DeliveredFrame → List Arrival
  | _, [] => []
  | s, delivered :: rest =>
    { notification := .ok delivered.frame.notification
      now := delivered.now
      recorded := some (recordAnswer policy generationId invocationId delivered s)
      resolved := some (.ok ()) } ::
    durableArrivals
      (Transaction.commit (recordFrame policy generationId invocationId delivered) s) rest

/-- The store after the frames were recorded. -/
def recordAll (s : Store) (frames : List DeliveredFrame) : Store :=
  Relational.runFrom
    (fun delivered => Transaction.commit (recordFrame policy generationId invocationId delivered)) s
    frames

end

end Fleetd
