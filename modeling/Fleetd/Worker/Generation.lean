import Fleetd.Effects.Routine
import Fleetd.System.Command
import Fleetd.Worker.Envelope

/-!
# A generation of the worker

One plugin process serves the inbox of one agent, one reservation after the other: it reserves a
delivery of an accepted kind, prepares its turn, opens the session of its lane, and hands the turn
to the controller. A delivery that cannot be armed is released. Every call of the store is a
transaction of its own, and others commit between two of them.

What the database holds after a call is what the committed commands made of it; the list of them is
kept beside the database. The calls that the controller makes during a turn are among the commands
that are committed before the next call of the worker, and what they answered is given with the
turn.
-/

namespace Fleetd.Worker

open Serde (Value)
open Effects Effects.Routine Harness Relational

/-! ## The worker -/

/-- A worker whose configuration was accepted. -/
structure ContinuousHarnessWorker where
  config : ContinuousWorkerConfig
  adapter : EnvelopeTurnAdapter
  valid : validateConfig config = .ok ()

/-- A worker is created once its configuration has been checked. -/
def ContinuousHarnessWorker.new (config : ContinuousWorkerConfig) (adapter : EnvelopeTurnAdapter) :
    Except String ContinuousHarnessWorker :=
  match h : validateConfig config with
  | .ok () => .ok { config, adapter, valid := h }
  | .error message => .error message

/-- The lease of a reservation. -/
def ContinuousHarnessWorker.leaseDurationMs (worker : ContinuousHarnessWorker) : Nat :=
  (durationMs worker.config.leaseDuration).getD 0

/-- How long a released delivery rests. -/
def ContinuousHarnessWorker.preArmRetryDelayMs (worker : ContinuousHarnessWorker) : Nat :=
  (durationMs worker.config.preArmRetryDelay).getD 0

/-- What identifies the session of a turn among those of a generation. -/
structure LaneIdentity where
  policy : String
  key : String
  deriving DecidableEq, Repr

/-- What a process generation owns its sessions as. Its identifier is a fresh UUID. -/
structure GenerationIdentity where
  ownerInstanceId : String
  profileDigest : String
  compatibilityDigest : String
  ownerGiven : isBlank ownerInstanceId = false

/-- A failure that ends a worker. -/
inductive ContinuousWorkerError
  | invalidConfig (message : String)
  | adapter (message : String)
  | preArmSettlement (context : String) (source : FleetError)
  | operationalEvidence (context : String) (source : FleetError)
  deriving DecidableEq, Repr

/-- The text of a worker failure. -/
def ContinuousWorkerError.display : ContinuousWorkerError → String
  | .invalidConfig message => "continuous worker configuration is invalid: " ++ message
  | .adapter message => "turn adapter rejected a reserved message: " ++ message
  | .preArmSettlement context source =>
    "failed to safely release an unarmed reservation after " ++ context ++ ": " ++ source.display
  | .operationalEvidence context source =>
    "durable operational evidence failed during " ++ context ++ ": " ++ source.display

/-- How a generation ends. -/
inductive GenerationExit
  | stopped
  | restart (reason : String)
  | fatal (error : ContinuousWorkerError)
  deriving DecidableEq, Repr

/-- How a generation goes on after a turn. -/
inductive TurnControl
  | continue
  | forgetLane (lane : LaneIdentity)
  | exit (exit : GenerationExit)
  deriving DecidableEq, Repr

/-- Why a lane could not be opened. -/
inductive LaneOpenError
  | fleet (error : FleetError)
  | plugin (error : PluginError)
  deriving DecidableEq, Repr

def LaneOpenError.isPlugin : LaneOpenError → Bool
  | .plugin _ => true
  | .fleet _ => false

def LaneOpenError.display : LaneOpenError → String
  | .fleet error => error.display
  | .plugin error => error.display

/-- What a worker has done. -/
structure WorkerReport where
  reservations : Nat := 0
  completed : Nat := 0
  interrupted : Nat := 0
  blocked : Nat := 0
  preArmRetries : Nat := 0
  idlePolls : Nat := 0
  deriving DecidableEq, Repr

/-- One more, as far as an unsigned 64-bit integer goes. -/
def saturatingNext (n : Nat) : Nat := min (n + 1) u64Max

def WorkerReport.settledTurns (report : WorkerReport) : Nat :=
  min (min (report.completed + report.interrupted) u64Max + report.blocked) u64Max

/-- Whether a worker has settled as many turns as it was asked to. -/
def limitReached (report : WorkerReport) (limit : Option Nat) : Bool :=
  limit.any fun limit => decide (limit ≤ report.settledTurns)

/-! ## Calls of the store -/

/-- A database with what was committed to it, the sessions that a generation has open, its report,
and the invocation that it holds. -/
structure Workplace where
  store : Store
  committed : List (Command Value)
  calls : Nat
  sessions : List (LaneIdentity × OpenedSession)
  report : WorkerReport
  held : Option (Invocation Value)

/-- What happens outside a worker before one of its calls: what others commit, the clock, and
whether the database fails. -/
structure Interlude where
  others : List (Command Value)
  now : Int
  failure : Option FleetError

/-- What everything outside a worker answers while it serves one reservation. -/
structure Surroundings where
  interlude : Nat → Interlude
  cancelled : Nat → Bool
  leaseToken : String
  mint : Nat → String × String
  freshBindingId : String
  opened : Except PluginError String
  turn : TurnAnswers
  closed : Except PluginError Bool

/-- A command with the transaction whose result is looked at. -/
structure StoreCall (α : Type) where
  command : Command Value
  run : Tx α
  same : command.exec = discard run

/-- A computation of a worker. -/
abbrev Work (α : Type) : Type := Routine Workplace GenerationExit α

/-- Others have been at the database. -/
def Workplace.after (place : Workplace) (interlude : Interlude) : Workplace :=
  { place with
    store := runFrom Command.step place.store interlude.others
    committed := place.committed ++ interlude.others
    calls := place.calls + 1 }

section

variable (worker : ContinuousHarnessWorker) (identity : GenerationIdentity) (around : Surroundings)

/-- A call that only reads. -/
def view {α : Type} (query : Tx α) : Work (Except FleetError α) := act fun place =>
  let interlude := around.interlude place.calls
  let place := place.after interlude
  match interlude.failure with
  | some error => (.error error, place)
  | none => ((query place.store).map Prod.fst, place)

/-- A call that may write. -/
def call {α : Type} (storeCall : Int → StoreCall α) : Work (Except FleetError α) := act fun place =>
  let interlude := around.interlude place.calls
  let place := place.after interlude
  match interlude.failure with
  | some error => (.error error, place)
  | none =>
    let made := storeCall interlude.now
    ((made.run place.store).map Prod.fst, { place with
      store := made.command.step place.store
      committed := place.committed ++ [made.command] })

/-- Changes the report. -/
def tally (f : WorkerReport → WorkerReport) : Work Unit := act fun place =>
  ((), { place with report := f place.report })

def reserveCall (now : Int) : StoreCall (List (Invocation Value)) where
  command := .reserveInvocationsByKind worker.config.agentId ⟨1, worker.leaseDurationMs⟩
    worker.adapter.inboundAcceptance.messageKinds now around.leaseToken around.mint
  run := reserveInvocationsByKind worker.config.agentId ⟨1, worker.leaseDurationMs⟩
    worker.adapter.inboundAcceptance.messageKinds now around.leaseToken around.mint
  same := rfl

def retryCall (invocation : Invocation Value) (input : RetryDelivery) (now : Int) :
    StoreCall Unit where
  command := .retryDelivery invocation.agentId invocation.message.id input now
  run := retryDelivery invocation.agentId invocation.message.id input now
  same := by
    funext s
    simp only [Command.exec, discard, Transaction.bind_run]
    cases retryDelivery invocation.agentId invocation.message.id input now s with
    | error error => rfl
    | ok result => rfl

def acquireCall (agentId : String) (input : AcquireSessionBinding) (now : Int) :
    StoreCall SessionAcquisition where
  command := .acquireSessionBinding agentId input now around.freshBindingId
  run := acquireSessionBinding agentId input now around.freshBindingId
  same := rfl

def recordOpenedCall (agentId : String) (binding : Binding) (sessionRef : String) (now : Int) :
    StoreCall SessionBinding where
  command := .recordSessionOpened agentId binding sessionRef now
  run := recordSessionOpened agentId binding sessionRef now
  same := rfl

def retireCall (agentId : String) (binding : Binding) (reason : String) (now : Int) :
    StoreCall SessionBinding where
  command := .retireSessionBinding agentId binding reason now
  run := retireSessionBinding agentId binding reason now
  same := rfl

/-! ## Releases -/

/-- The request that releases a delivery which was not armed. -/
def releaseRequest (invocation : Invocation Value) (context : String) (retryAfterMs : Nat) :
    RetryDelivery where
  leaseToken := invocation.leaseToken
  retryAfterMs := retryAfterMs
  error := some (boundedReason context)

def retryUnarmed (invocation : Invocation Value) (context : String) (retryAfterMs : Nat) :
    Work (Except ContinuousWorkerError Unit) := do
  let released ← call around (retryCall invocation (releaseRequest invocation context retryAfterMs))
  pure (released.mapError (.preArmSettlement context))

/-- Releases a delivery, or ends the worker. -/
def releaseOrExit (invocation : Invocation Value) (reason : String) : Work Unit := do
  let released ← retryUnarmed around invocation reason worker.preArmRetryDelayMs
  match released with
  | .error error => leave (.fatal error)
  | .ok () => tally fun report => { report with preArmRetries := saturatingNext report.preArmRetries }

/-- Releases a delivery because the worker is to stop. -/
def stopUnarmed (invocation : Invocation Value) : Work GenerationExit := do
  let released ← retryUnarmed around invocation "worker cancelled before dispatch" 0
  match released with
  | .error error => pure (.fatal error)
  | .ok () =>
    tally fun report => { report with preArmRetries := saturatingNext report.preArmRetries }
    pure .stopped

/-! ## Preparation -/

/-- Reads the context of a turn in two calls. -/
def readChannelContext (invocation : Invocation Value) : Work (Except FleetError ChannelTurnContext) :=
  do
    let members ← view around (listChannelMembers invocation.message.channelId)
    match members with
    | .error error => pure (.error error)
    | .ok members =>
      let (members, membersTruncated) := boundedContextMembers members invocation
      let history ← view around (listRecentMessagesBefore invocation.message.channelId
        invocation.message.seq (maxChannelContextMessages + 1))
      match history with
      | .error error => pure (.error error)
      | .ok history =>
        let (recentHistory, recentHistoryTruncated) := boundedContextHistory history
        pure (.ok { members, membersTruncated, recentHistory, recentHistoryTruncated })

/-- Prepares the turn of a reserved delivery. The adapter does not refuse a message. -/
def prepareReserved (invocation : Invocation Value) : Work PreparedTurn := do
  let context ← readChannelContext around invocation
  match context with
  | .error error =>
    let reason := "channel context could not be read before arm: " ++ error.display
    releaseOrExit worker around invocation reason
    leave (.restart reason)
  | .ok context =>
    let prepared := prepareEnvelope worker.adapter invocation context
    match validatePreparedTurn prepared with
    | .error error =>
      releaseOrExit worker around invocation ("adapter output is invalid: " ++ error)
      leave (.fatal (.adapter error))
    | .ok () => pure prepared

/-! ## Lanes -/

/-- The acquisition of a lane. -/
def laneAcquisition (lane : LaneIdentity) : AcquireSessionBinding where
  lanePolicy := lane.policy
  laneKey := lane.key
  ownerInstanceId := identity.ownerInstanceId
  profileDigest := identity.profileDigest
  compatibilityDigest := identity.compatibilityDigest
  workingDirectory := worker.config.workingDirectory.path
  additionalDirectories := worker.config.additionalDirectories.map (·.path)

/-- Acquires the session of a lane and opens it natively. -/
def openLane (invocation : Invocation Value) (lane : LaneIdentity) :
    Work (Except LaneOpenError OpenedSession) := do
  let acquisition ← call around
    (acquireCall around invocation.agentId (laneAcquisition worker identity lane))
  match acquisition with
  | .error error => pure (.error (.fleet error))
  | .ok acquisition =>
    let binding := acquisition.session.binding
    match around.opened with
    | .error error => pure (.error (.plugin error))
    | .ok sessionRef =>
      let recorded ← call around (recordOpenedCall invocation.agentId binding sessionRef)
      match recorded with
      | .error error => pure (.error (.fleet error))
      | .ok _ => pure (.ok { binding, sessionRef })

/-- The session of a lane; a lane that cannot be opened is passed over. -/
def resolveLane (invocation : Invocation Value) (lane : LaneIdentity) :
    Work (Option OpenedSession) := do
  let sessions ← ask (·.sessions)
  match sessions.lookup lane with
  | some opened => pure (some opened)
  | none =>
    let opened ← openLane worker identity around invocation lane
    match opened with
    | .ok opened =>
      act fun place => ((), { place with sessions := (lane, opened) :: place.sessions })
      pure (some opened)
    | .error error =>
      let reason := "session acquisition failed before arm: " ++ error.display
      releaseOrExit worker around invocation reason
      if error.isPlugin then leave (.restart reason) else pure none

/-! ## Turns -/

/-- What becomes of a turn that the controller did not drive. -/
def managedError (invocation : Invocation Value) (error : ManagedTurnError) : Work GenerationExit := do
  match error with
  | .harnessBeforeArm error =>
    let reason := "harness failed before arm: " ++ error.display
    releaseOrExit worker around invocation reason
    pure (.restart reason)
  | .invalid error =>
    releaseOrExit worker around invocation ("managed turn input was invalid: " ++ error)
    pure (.fatal (.adapter error))
  | .fleet error =>
    pure (.restart ("managed turn persistence failed at an uncertain phase: " ++ error.display))

/-- Why a session is retired after a turn that a newer message interrupted. -/
def interruptedLaneReason : String := "newer channel message interrupted quiescent turn"

/-- Retires and closes the session of an interrupted turn. -/
def rotateInterruptedLane (lane : LaneIdentity) (session : OpenedSession) : Work TurnControl := do
  let retired ← call around
    (retireCall worker.config.agentId session.binding interruptedLaneReason)
  match retired with
  | .error source =>
    pure (.exit (.fatal (.operationalEvidence
      ("retire interrupted session binding " ++ session.binding.bindingId ++ " generation " ++
        toString session.binding.bindingGeneration) source)))
  | .ok _ =>
    match around.closed with
    | .ok true => pure (.forgetLane lane)
    | .ok false =>
      pure (.exit (.restart "harness did not retire the interrupted native session"))
    | .error error =>
      pure (.exit (.restart
        ("interrupted native session could not be closed: " ++ error.display)))

/-- What becomes of a turn that the controller settled, or did not. -/
def turnControl (invocation : Invocation Value) (lane : LaneIdentity) (session : OpenedSession)
    (result : Except ManagedTurnError ManagedTurnOutcome) : Work TurnControl := do
  match result with
  | .ok (.completed _) =>
    tally fun report => { report with completed := saturatingNext report.completed }
    pure .continue
  | .ok (.interrupted _ interruption) =>
    tally fun report => { report with interrupted := saturatingNext report.interrupted }
    match interruption with
    | .workerShutdown => pure .continue
    | .newerMessage _ => rotateInterruptedLane worker around lane session
  | .ok (.blocked blocked) =>
    tally fun report => { report with blocked := saturatingNext report.blocked }
    pure (.exit (.restart
      ("invocation " ++ invocation.id ++ " was conservatively blocked: " ++ blocked.reason)))
  | .error error =>
    let exit ← managedError worker around invocation error
    pure (.exit exit)

/-- Has the controller drive a prepared turn. -/
def executeTurn (invocation : Invocation Value) (prepared : PreparedTurn) (lane : LaneIdentity)
    (opened : OpenedSession) : Work TurnControl := do
  let interruptAfterSeq ← view around (latestChannelMessageSeq invocation.message.channelId)
  match interruptAfterSeq with
  | .error error =>
    let reason := "turn interruption baseline could not be read: " ++ error.display
    releaseOrExit worker around invocation reason
    pure (.exit (.restart reason))
  | .ok _ =>
    let turn := managedTurn worker.config identity.ownerInstanceId opened invocation prepared
    turnControl worker around invocation lane opened
      (runTurn worker.config.trajectorySink turn around.turn).result

/-! ## The loop -/

/-- Serves a reserved delivery. -/
def serveReserved (invocation : Invocation Value) : Work Unit := do
  tally fun report => { report with reservations := saturatingNext report.reservations }
  let prepared ← prepareReserved worker around invocation
  if around.cancelled 1 then
    let exit ← stopUnarmed around invocation
    leave exit
  else
    let lane : LaneIdentity := ⟨prepared.lanePolicy, prepared.laneKey⟩
    let opened ← resolveLane worker identity around invocation lane
    match opened with
    | none => pure ()
    | some opened =>
      if around.cancelled 2 then
        let exit ← stopUnarmed around invocation
        leave exit
      else
        let control ← executeTurn worker identity around invocation prepared lane opened
        match control with
        | .continue => pure ()
        | .forgetLane lane =>
          act fun place => ((), { place with
            sessions := place.sessions.filter fun session => session.1 ≠ lane })
        | .exit exit => leave exit

/-- One round of the loop that drives a generation. -/
def driveGeneration (maxSettledTurns : Option Nat) : Work Unit := do
  let report ← ask (·.report)
  if around.cancelled 0 || limitReached report maxSettledTurns then leave .stopped
  else
    let reservation ← call around (reserveCall worker around)
    match reservation with
    | .error error => leave (.restart ("invocation reservation failed: " ++ error.display))
    | .ok invocations =>
      match invocations.head? with
      | none =>
        tally fun report => { report with idlePolls := saturatingNext report.idlePolls }
        if around.cancelled 3 then leave .stopped else pure ()
      | some invocation =>
        act fun place => ((), { place with held := some invocation })
        serveReserved worker identity around invocation

end

end Fleetd.Worker
