import Fleetd.Effects.Routine
import Fleetd.Effects.Tasks
import Fleetd.Worker.Catalog

/-!
# The supervisor of workers

Brings what runs on a machine in line with what is desired of its agents, one poll after another.
Workers run as tasks and backends as processes, which are numbered in the order in which they were
started. The supervisor keeps every scene that its steps led through.
-/

namespace Fleetd.Worker

open Effects Effects.Routine Execution
open Serde (Value)
open Std (TreeMap TreeSet)

/-- Five seconds, in milliseconds. -/
def backendRestartBackoff : Nat := 5000

/-- A backend that was started, with the number of its process. -/
structure RunningBackend where
  client : Nat
  description : Value
  deriving DecidableEq, Repr

/-- A seat that was started, with the number of its task. -/
structure RunningSeat where
  revision : Nat
  inferenceBackend : Option String
  task : Nat
  deriving DecidableEq, Repr

/-- What a worker was started from. -/
structure WorkerStart (W : Type) where
  agentId : String
  profileId : String
  instructions : String
  revision : Nat
  inference : Option RunningBackend
  desired : W

/-- A task that runs a worker. -/
structure WorkerTask (W : Type) extends WorkerStart W where
  finished : Bool

/-- A process that serves a backend until it is stopped. -/
structure BackendProcess where
  backendId : String
  up : Bool
  deriving DecidableEq, Repr

/-- What runs on a machine, and what its supervisor knows of it. -/
structure Scene (W : Type) where
  running : TreeMap String RunningSeat
  runningBackends : TreeMap String RunningBackend
  tasks : List (WorkerTask W)
  processes : List BackendProcess

/-- A supervisor, with the scenes so far. -/
structure Supervisor (W : Type) extends Scene W where
  backendRetryAfter : TreeMap String Nat
  moments : List (Scene W)

/-- How a pass ends early. -/
inductive Exit
  | store (error : FleetError)
  | worker (error : String)
  | panicked (message : String)
  deriving DecidableEq, Repr

/-- What the outside answers during one pass: an error of the store, of the health of a backend,
the outcome of starting one, and the readings of the clock around both. -/
structure Outside where
  listing : Option FleetError
  health : String → Option String
  start : String → Except String Value
  failedAt : String → Nat
  checkedAt : String → Nat
  startFailedAt : String → Nat

variable {W : Type}

/-! ## Changes of the scene -/

namespace Scene

/-- `running.remove`. -/
def forget (agentId : String) (scene : Scene W) : Scene W :=
  { scene with running := scene.running.erase agentId }

/-- A task has come to its end. -/
def finish (task : Nat) (scene : Scene W) : Scene W :=
  { scene with tasks := scene.tasks.modify task fun worker => { worker with finished := true } }

/-- `running_backends.remove`. -/
def forgetBackend (backendId : String) (scene : Scene W) : Scene W :=
  { scene with runningBackends := scene.runningBackends.erase backendId }

/-- A process was shut down. -/
def shutdown (client : Nat) (scene : Scene W) : Scene W :=
  { scene with
    processes := scene.processes.modify client fun process => { process with up := false } }

/-- A backend was started. -/
def serve (backendId : String) (description : Value) (scene : Scene W) : Scene W :=
  { scene with
    processes := scene.processes ++ [⟨backendId, true⟩]
    runningBackends :=
      scene.runningBackends.insert backendId ⟨scene.processes.length, description⟩ }

/-- A worker was started. -/
def spawn (start : WorkerStart W) (inferenceBackend : Option String) (scene : Scene W) : Scene W :=
  { scene with
    tasks := scene.tasks ++ [⟨start, false⟩]
    running := scene.running.insert start.agentId
      ⟨start.revision, inferenceBackend, scene.tasks.length⟩ }

/-- The route to the backend of a profile, unless the profile has a backend that does not run. -/
def inference (scene : Scene W) : Option String → Option (Option RunningBackend)
  | none => some none
  | some backendId => scene.runningBackends[backendId]?.map some

/-- Whether a seat runs what is desired. -/
def currentMatches (scene : Scene W) (configuration : AgentSeatConfiguration)
    (profile : RuntimeProfileFile) : Bool :=
  match scene.running[configuration.agentId]? with
  | some seat =>
    seat.revision = configuration.revision ∧ seat.inferenceBackend = profile.inferenceBackend ∧
      TaskIs scene.tasks seat.task fun worker => worker.finished = false
  | none => false

end Scene

/-! ## Stopping -/

namespace Supervisor

/-- The next scene. -/
def becomes (supervisor : Supervisor W) (scene : Scene W) : Supervisor W :=
  { supervisor with toScene := scene, moments := supervisor.moments ++ [scene] }

/-- Cancels a seat and waits for its task. -/
def stopSeat (seat : RunningSeat) (supervisor : Supervisor W) : Supervisor W :=
  supervisor.becomes (supervisor.finish seat.task)

/-- Stops the seat of an agent, if it runs. -/
def retire (agentId : String) (supervisor : Supervisor W) : Supervisor W :=
  match supervisor.running[agentId]? with
  | some seat => (supervisor.becomes (supervisor.forget agentId)).stopSeat seat
  | none => supervisor

/-- Stops the seats of some agents, one after the other. -/
def retireAll (agentIds : List String) (supervisor : Supervisor W) : Supervisor W :=
  agentIds.foldl (fun supervisor agentId => supervisor.retire agentId) supervisor

def stopSeatsUsingBackend (backendId : String) (supervisor : Supervisor W) : Supervisor W :=
  let agentIds := (supervisor.running.toList.filter fun entry =>
    entry.2.inferenceBackend = some backendId).map (·.1)
  supervisor.retireAll agentIds

def stopUnconfiguredSeats (configurations : List AgentSeatConfiguration)
    (supervisor : Supervisor W) : Supervisor W :=
  let desiredIds := configurations.map (·.agentId)
  supervisor.retireAll (supervisor.running.keys.filter (· ∉ desiredIds))

/-- Shuts the process of a backend down. -/
def stopBackend (backend : RunningBackend) (supervisor : Supervisor W) : Supervisor W :=
  supervisor.becomes (supervisor.shutdown backend.client)

/-- Stops a backend, if it runs. -/
def retireBackend (backendId : String) (supervisor : Supervisor W) : Supervisor W :=
  match supervisor.runningBackends[backendId]? with
  | some backend =>
    (supervisor.becomes (supervisor.forgetBackend backendId)).stopBackend backend
  | none => supervisor

/-- Stops a backend that is not desired any more. -/
def stopUnusedBackend (supervisor : Supervisor W) (backendId : String) : Supervisor W :=
  let supervisor := supervisor.retireBackend backendId
  { supervisor with backendRetryAfter := supervisor.backendRetryAfter.erase backendId }

def stopUnusedBackends (desiredBackends : TreeSet String) (supervisor : Supervisor W) :
    Supervisor W :=
  let unused := supervisor.runningBackends.keys.filter (· ∉ desiredBackends)
  unused.foldl stopUnusedBackend supervisor

/-! ## Backends -/

/-- Replaces a desired backend that is not healthy. -/
def checkBackend (outside : Outside) (desiredBackends : TreeSet String)
    (supervisor : Supervisor W) (backendId : String) : Supervisor W :=
  if backendId ∉ desiredBackends then supervisor
  else if backendId ∉ supervisor.runningBackends then supervisor
  else
    match outside.health backendId with
    | none => supervisor
    | some _ =>
      let supervisor := (supervisor.stopSeatsUsingBackend backendId).retireBackend backendId
      { supervisor with
        backendRetryAfter := supervisor.backendRetryAfter.insert backendId
          (outside.failedAt backendId + backendRestartBackoff) }

def checkBackends (outside : Outside) (desiredBackends : TreeSet String)
    (supervisor : Supervisor W) : Supervisor W :=
  supervisor.runningBackends.keys.foldl (checkBackend outside desiredBackends) supervisor

/-- Whether a backend runs, or has failed too recently to be tried again. -/
def settled (outside : Outside) (backendId : String) (supervisor : Supervisor W) : Bool :=
  supervisor.runningBackends.contains backendId ||
    match supervisor.backendRetryAfter[backendId]? with
    | some retryAfter => outside.checkedAt backendId < retryAfter
    | none => false

/-- Starts a desired backend. -/
def startBackend (outside : Outside) (backendId : String) (supervisor : Supervisor W) :
    Supervisor W :=
  match outside.start backendId with
  | .ok description =>
    let supervisor := supervisor.becomes (supervisor.serve backendId description)
    { supervisor with backendRetryAfter := supervisor.backendRetryAfter.erase backendId }
  | .error _ =>
    { supervisor with
      backendRetryAfter := supervisor.backendRetryAfter.insert backendId
        (outside.startFailedAt backendId + backendRestartBackoff) }

end Supervisor

open Supervisor

variable (parseWorkerConfigValue : Value → Except String W) (catalog : ProfileCatalog)

def desiredBackendIds (configurations : List AgentSeatConfiguration) : TreeSet String :=
  TreeSet.ofList (((configurations.filter (·.desiredState = .running)).filterMap
    fun configuration => catalog.profiles[configuration.profileId]?).filterMap (·.inferenceBackend))

/-- Sees to one desired backend. -/
def ensureBackend (outside : Outside) (backendId : String) : Routine (Supervisor W) Exit Unit := do
  if ← ask (settled outside backendId) then pure ()
  else
    match catalog.inferenceBackends[backendId]? with
    | none => leave (.panicked "catalog validation resolved backend reference")
    | some _ => act fun supervisor => ((), startBackend outside backendId supervisor)

def reconcileBackends (outside : Outside) (desiredBackends : TreeSet String) :
    Routine (Supervisor W) Exit Unit := do
  act fun supervisor => ((), checkBackends outside desiredBackends supervisor)
  each (ensureBackend catalog outside) desiredBackends.toList

/-! ## Seats -/

/-- Starts the worker of a seat. -/
def startSeat (configuration : AgentSeatConfiguration) (profile : RuntimeProfileFile)
    (inference : Option RunningBackend) : Routine (Supervisor W) Exit Unit :=
  match instantiateProfile parseWorkerConfigValue profile configuration.agentId
      configuration.instructions (inference.map (·.description)) with
  | .error error => leave (.worker error)
  | .ok desired => act fun supervisor => ((), supervisor.becomes (supervisor.spawn
      { agentId := configuration.agentId
        profileId := configuration.profileId
        instructions := configuration.instructions
        revision := configuration.revision
        inference
        desired } profile.inferenceBackend))

/-- Sees to the seat of one agent. -/
def reconcileSeat (configuration : AgentSeatConfiguration) : Routine (Supervisor W) Exit Unit :=
  let retired : Routine (Supervisor W) Exit Unit :=
    act fun supervisor => ((), supervisor.retire configuration.agentId)
  if configuration.desiredState = .stopped then retired
  else
    match catalog.profiles[configuration.profileId]? with
    | none => retired
    | some profile => do
      match ← ask (fun supervisor => supervisor.inference profile.inferenceBackend) with
      | none => retired
      | some inference => do
        if ← ask (fun supervisor => supervisor.currentMatches configuration profile) then pure ()
        else do
          retired
          startSeat parseWorkerConfigValue configuration profile inference

def reconcileSeats (configurations : List AgentSeatConfiguration) :
    Routine (Supervisor W) Exit Unit := do
  act fun supervisor => ((), supervisor.stopUnconfiguredSeats configurations)
  each (reconcileSeat parseWorkerConfigValue catalog) configurations

/-- One pass: backends that fail or are missing, then the seats, then backends nobody desires. -/
def reconcile (outside : Outside) (table : SeatTable) : Routine (Supervisor W) Exit Unit :=
  match outside.listing, list table with
  | some error, _ => leave (.store error)
  | none, .error error => leave (.store error)
  | none, .ok configurations => do
    let desiredBackends := desiredBackendIds catalog configurations
    reconcileBackends catalog outside desiredBackends
    reconcileSeats parseWorkerConfigValue catalog configurations
    act fun supervisor => ((), supervisor.stopUnusedBackends desiredBackends)

/-- Stops everything that runs, seats first. -/
def stopAll (supervisor : Supervisor W) : Supervisor W :=
  let supervisor := supervisor.retireAll supervisor.running.keys
  supervisor.runningBackends.keys.foldl (fun supervisor backendId =>
    supervisor.retireBackend backendId) supervisor

/-! ## Supervision -/

/-- The desired execution of the agents, and the supervisor of the machine. -/
structure Supervision (W : Type) where
  table : SeatTable
  supervisor : Supervisor W
  outcome : Option (Except Exit Unit)

/-- What happens: an agent is registered, its desired execution changes, a task comes to its end,
the supervisor makes a pass, or it is asked to stop. -/
inductive Action
  | register (agentId : String)
  | configure (now : Int) (agentId : String) (requested : ConfigureAgentSeat)
  | restart (now : Int) (agentId : String)
  | exit (task : Nat)
  | poll (outside : Outside)
  | stop

/-- A pass that fails ends the process, with everything it runs. -/
def poll (outside : Outside) (supervision : Supervision W) : Supervision W :=
  match reconcile parseWorkerConfigValue catalog outside supervision.table
      supervision.supervisor with
  | (.ok _, supervisor) => { supervision with supervisor }
  | (.error exit, supervisor) => { supervision with supervisor, outcome := some (.error exit) }

/-- One step. -/
def supervise (action : Action) (supervision : Supervision W) : Supervision W :=
  match action with
  | .register agentId =>
    { supervision with
      table := { supervision.table with agents := agentId :: supervision.table.agents } }
  | .configure now agentId requested =>
    match configure now agentId requested supervision.table with
    | .ok (_, table) => { supervision with table }
    | .error _ => supervision
  | .restart now agentId =>
    match restart now agentId supervision.table with
    | .ok (_, table) => { supervision with table }
    | .error _ => supervision
  | .exit task =>
    if supervision.outcome.isSome then supervision
    else { supervision with
      supervisor := supervision.supervisor.becomes (supervision.supervisor.finish task) }
  | .poll outside =>
    if supervision.outcome.isSome then supervision
    else poll parseWorkerConfigValue catalog outside supervision
  | .stop =>
    if supervision.outcome.isSome then supervision
    else { supervision with
      supervisor := stopAll supervision.supervisor
      outcome := some (.ok ()) }

/-- A supervisor that has just come up. -/
def Supervision.started (table : SeatTable) : Supervision W where
  table
  supervisor := {
    running := ∅
    runningBackends := ∅
    tasks := []
    processes := []
    backendRetryAfter := ∅
    moments := [] }
  outcome := none

end Fleetd.Worker
