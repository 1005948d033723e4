import Fleetd.Execution.Operations

/-!
# Session lanes and their owners

A lane is an agent, a policy and a key. It has at most one binding generation that is not
retired, and every generation has an owner epoch that a new owner raises when it adopts a
ready session. A turn is armed, settled and fenced only under the exact generation and
epoch it was handed.
-/

namespace Fleetd

open Relational Relational.Transaction

variable {Json : Type}

/-- A request to acquire a lane for a controller process. -/
structure AcquireSessionBinding where
  lanePolicy : String
  laneKey : String
  ownerInstanceId : String
  profileDigest : String
  compatibilityDigest : String
  workingDirectory : String
  additionalDirectories : List String
  deriving DecidableEq, Repr

/-- Whether an acquired session has to be created or resumed. -/
inductive SessionAcquisitionMode
  | create
  | resume (sessionRef : String)
  deriving DecidableEq, Repr

/-- An acquired session. -/
structure SessionAcquisition where
  session : SessionBinding
  mode : SessionAcquisitionMode
  deriving DecidableEq, Repr

/-- An invocation armed atomically with exact session ownership. -/
structure BoundInvocation (Json : Type) where
  invocation : Invocation Json
  session : SessionBinding
  deriving DecidableEq, Repr

/-- `Path::is_absolute`. -/
def isAbsolute (path : String) : Bool := path.toList.head? = some '/'

/-- A bounded absolute path. -/
def validateAbsolutePath (label value : String) : Except FleetError Unit := do
  validateBounded label value maxPathBytes
  if isAbsolute value then pure () else .error (.invalid s!"{label} must be an absolute path")

/-- The bounds of an acquisition. -/
def validateAcquisition (agentId : String) (input : AcquireSessionBinding) :
    Except FleetError Unit := do
  validateBounded "agent ID" agentId maxIdBytes
  validateBounded "lane policy" input.lanePolicy maxIdBytes
  validateBounded "lane key" input.laneKey maxLaneKeyBytes
  validateBounded "owner instance ID" input.ownerInstanceId maxIdBytes
  validateBounded "profile digest" input.profileDigest maxIdBytes
  validateBounded "compatibility digest" input.compatibilityDigest maxIdBytes
  validateAbsolutePath "working directory" input.workingDirectory
  if input.additionalDirectories.length > maxAdditionalDirectories then
    .error (.invalid s!"additional directories must not exceed {maxAdditionalDirectories} entries")
  else
    let _ ← input.additionalDirectories.mapM (validateAbsolutePath "additional directory")
    pure ()

/-- Whether a binding has the configuration an acquisition asks for. -/
def configurationMatches (binding : SessionBinding) (input : AcquireSessionBinding) : Bool :=
  binding.profileDigest = input.profileDigest ∧
    binding.compatibilityDigest = input.compatibilityDigest ∧
    binding.workingDirectory = input.workingDirectory ∧
    binding.additionalDirectories = input.additionalDirectories

/-! ## Reading bindings and turns -/

/-- The generation of a lane that is not retired. -/
def currentBindingRow (lane : String × String × String) (rows : List SessionBinding) :
    Option SessionBinding :=
  rows.find? fun row => row.lane = lane ∧ ¬ row.state.isRetired

/-- The later of two generations. -/
def laterBinding (best row : SessionBinding) : SessionBinding :=
  if best.bindingGeneration < row.bindingGeneration then row else best

/-- The generation of a lane with the largest number. -/
def latestBindingRow (lane : String × String × String) (rows : List SessionBinding) :
    Option SessionBinding :=
  match rows.filter fun row => row.lane = lane with
  | [] => none
  | row :: rest => some (rest.foldl laterBinding row)

/-- The exact generation a caller presents, whatever its epoch. -/
def exactBindingRow (agentId : String) (binding : Binding) : Tx SessionBinding := do
  let _ ← check (asI64 "binding generation" binding.bindingGeneration)
  let rows ← read (·.sessionBindings)
  require (rows.find? fun row => row.bindingId = binding.bindingId ∧
      row.bindingGeneration = binding.bindingGeneration ∧ row.agentId = agentId)
    (.notFound "session binding" s!"{binding.bindingId}:{binding.bindingGeneration}")

/-- The generation a call returns. -/
def bindingByIdentity (agentId : String) (binding : Binding) : Tx SessionBinding :=
  exactBindingRow agentId binding

/-- The turn of an invocation. -/
def boundTurnRow (invocationId : String) : Tx SessionBindingTurn := do
  let turns ← read (·.sessionBindingTurns)
  require (turnOf invocationId turns) (.notFound "session binding turn" invocationId)

/-- The caller's epoch is the row's. -/
def validateOwner (row : SessionBinding) (binding : Binding) : Except FleetError Unit := do
  let bindingGeneration ← asI64 "binding generation" binding.bindingGeneration
  let ownerEpoch ← asI64 "owner epoch" binding.ownerEpoch
  if row.bindingGeneration ≠ bindingGeneration ∨ row.ownerEpoch ≠ ownerEpoch then
    .error (.leaseConflict "session binding owner fence is stale")
  else .ok ()

/-- The caller's binding is the one the turn was armed under. -/
def validateTurnFence (turn : SessionBindingTurn) (binding : Binding) : Except FleetError Unit := do
  let bindingGeneration ← asI64 "binding generation" binding.bindingGeneration
  let ownerEpoch ← asI64 "owner epoch" binding.ownerEpoch
  if turn.bindingId ≠ binding.bindingId ∨ turn.bindingGeneration ≠ bindingGeneration ∨
      turn.ownerEpoch ≠ ownerEpoch then
    .error (.leaseConflict "session turn fence does not match durable ownership")
  else .ok ()

/-- The native reference is the recorded one. -/
def validateSessionReference (row : SessionBinding) (sessionRef : String) :
    Except FleetError Unit :=
  if row.state.sessionRef ≠ some sessionRef then
    .error (.leaseConflict "native session reference does not match durable binding")
  else .ok ()

/-- A binding may be activated when it is ready, or already active on the same invocation. -/
def validateBindingActivation (row : SessionBinding) (invocationId : String) :
    Except FleetError Unit :=
  match row.state with
  | .ready .. => .ok ()
  | .active _ _ activeInvocationId =>
    if activeInvocationId = invocationId then .ok ()
    else .error (.conflict "session binding is not ready for this invocation")
  | _ => .error (.conflict "session binding is not ready for this invocation")

/-- The invocation owns the current turn of the binding the caller presents. -/
def validateBoundTurn (agentId invocationId : String) (binding : Binding)
    (allowQuiescentReplay : Bool) : Tx Unit := do
  let turn ← boundTurnRow invocationId
  check (validateTurnFence turn binding)
  match allowQuiescentReplay, turn.state with
  | true, .quiescent .. => pure ()
  | _, _ =>
    let row ← exactBindingRow agentId binding
    check (validateOwner row binding)
    ensure (row.state.activeInvocationId = some invocationId)
      (.conflict "invocation does not own the current session binding state")

/-! ## Acquisition -/

/-- Inserts one generation of a lane, opening under its first owner. -/
def insertBinding (bindingId : String) (generation : Nat) (agentId : String)
    (input : AcquireSessionBinding) (now : Int) : Tx SessionAcquisition := do
  let bindingGeneration ← check (asI64 "binding generation" generation)
  let row : SessionBinding := {
    bindingId := bindingId
    bindingGeneration := bindingGeneration
    agentId := agentId
    lanePolicy := input.lanePolicy
    laneKey := input.laneKey
    ownerEpoch := 1
    ownerInstanceId := input.ownerInstanceId
    profileDigest := input.profileDigest
    compatibilityDigest := input.compatibilityDigest
    workingDirectory := input.workingDirectory
    additionalDirectories := input.additionalDirectories
    state := .opening
    lastQuiescentInvocationId := none
    sessionPersistence := none
    createdAtMs := now
    updatedAtMs := now }
  let rows ← read (·.sessionBindings)
  ensure (∀ other ∈ rows, other.key ≠ row.key ∧
      ¬ (other.lane = row.lane ∧ other.bindingGeneration = row.bindingGeneration) ∧
      ¬ (other.lane = row.lane ∧ other.state.isRetired = false))
    (.database "UNIQUE constraint failed: session_bindings")
  write fun s => ((), { s with sessionBindings := s.sessionBindings ++ [row] })
  let session ← bindingByIdentity agentId ⟨bindingId, generation, 1⟩
  pure { session, mode := .create }

/-- The generation after a given one. -/
def nextGeneration (generation : Nat) : Except FleetError Nat :=
  if generation < 18446744073709551615 then .ok (generation + 1)
  else .error (.conflict "binding generation overflowed")

/-- Opens the first generation of a lane, or the one after its latest retired one. -/
def insertAfterLatestRetired (agentId : String) (input : AcquireSessionBinding) (now : Int)
    (freshBindingId : String) : Tx SessionAcquisition := do
  let latest : Option SessionBinding ← read fun s =>
    latestBindingRow (agentId, input.lanePolicy, input.laneKey) s.sessionBindings
  match latest with
  | none => insertBinding freshBindingId 1 agentId input now
  | some latest =>
    ensure (latest.state.isRetired = true)
      (.conflict "non-retired session binding was omitted from the current lane")
    let generation ← check (nextGeneration latest.bindingGeneration)
    insertBinding latest.bindingId generation agentId input now

/-- The binding a row presents. -/
def SessionBinding.binding (row : SessionBinding) : Binding :=
  ⟨row.bindingId, row.bindingGeneration, row.ownerEpoch⟩

/-- Whether a binding has no session or an idle one. -/
def SessionBindingState.isIdle : SessionBindingState → Bool
  | .opening => true
  | .ready .. => true
  | _ => false

/-- Whether a binding is ready. -/
def SessionBindingState.isReady : SessionBindingState → Bool
  | .ready .. => true
  | _ => false

/-- Retires an idle generation and opens the next one. -/
def rotateBinding (existing : SessionBinding) (agentId : String) (input : AcquireSessionBinding)
    (now : Int) (reason : String) : Tx SessionAcquisition := do
  let fence ← check (OwnerFence.new agentId existing.binding)
  let generation ← check (nextGeneration existing.bindingGeneration)
  fence.update (·.isIdle) (retiredColumns reason now) "session binding changed during rotation"
  insertBinding existing.bindingId generation agentId input now

/-- The epoch after a given one. -/
def nextEpoch (ownerEpoch : Nat) : Except FleetError Nat :=
  if ownerEpoch < 18446744073709551615 then .ok (ownerEpoch + 1)
  else .error (.conflict "owner epoch overflowed")

/-- The columns of an adopted session. -/
def adoptedColumns (ownerEpoch : Nat) (ownerInstanceId : String) (now : Int)
    (row : SessionBinding) : SessionBinding :=
  { row with ownerEpoch, ownerInstanceId, updatedAtMs := now }

/-- Takes over a ready session under the next owner epoch. -/
def adoptBinding (existing : SessionBinding) (ownerInstanceId : String) (now : Int) :
    Tx SessionAcquisition := do
  let fence ← check (OwnerFence.new existing.agentId existing.binding)
  let ownerEpoch ← check (nextEpoch existing.ownerEpoch)
  let ownerEpoch ← check (asI64 "owner epoch" ownerEpoch)
  fence.update (·.isReady) (adoptedColumns ownerEpoch ownerInstanceId now)
    "session binding changed during adoption"
  let session ← bindingByIdentity existing.agentId
    ⟨existing.bindingId, existing.bindingGeneration, ownerEpoch⟩
  let sessionRef ← require session.state.sessionRef
    (invalidStored "adopted ready binding omitted session reference")
  pure { session, mode := .resume sessionRef }

/-- What a repeated acquisition by the same owner returns. -/
def acquisitionForOwned (existing : SessionBinding) : Except FleetError SessionAcquisition :=
  match existing.state with
  | .opening => .ok { session := existing, mode := .create }
  | .ready sessionRef _ => .ok { session := existing, mode := .resume sessionRef }
  | .active .. => .error (.conflict "session binding already has an active invocation")
  | .uncertain .. => .error (.conflict "session binding is uncertain")
  | .retired .. => .error (.conflict "session binding is retired")

/-- Acquires a lane that has a current generation. -/
def acquireExisting (existing : SessionBinding) (agentId : String) (input : AcquireSessionBinding)
    (now : Int) : Tx SessionAcquisition := do
  if existing.ownerInstanceId = input.ownerInstanceId then
    ensure (configurationMatches existing input = true)
      (.conflict "session acquisition replay changed immutable configuration")
    check (acquisitionForOwned existing)
  else
    match existing.state with
    | .opening => rotateBinding existing agentId input now "opening_superseded_by_new_owner"
    | .ready .. =>
      if configurationMatches existing input then adoptBinding existing input.ownerInstanceId now
      else rotateBinding existing agentId input now "incompatible_profile_rotation"
    | .active .. => fail (.conflict "active session binding cannot be adopted")
    | .uncertain .. => fail (.conflict
        "uncertain session binding requires explicit reconciliation or retirement")
    | .retired .. => fail (.conflict "retired binding was selected as the current lane")

/-- Acquires one session lane for a fresh controller process instance. -/
def acquireSessionBinding (agentId : String) (input : AcquireSessionBinding) (now : Int)
    (freshBindingId : String) : Tx SessionAcquisition := do
  check (validateAcquisition agentId input)
  ensureAgent agentId
  let current : Option SessionBinding ← read fun s =>
    currentBindingRow (agentId, input.lanePolicy, input.laneKey) s.sessionBindings
  match current with
  | none => insertAfterLatestRetired agentId input now freshBindingId
  | some row => acquireExisting row agentId input now

/-! ## The life of a session -/

/-- Whether a binding is opening. -/
def SessionBindingState.isOpening : SessionBindingState → Bool
  | .opening => true
  | _ => false

/-- The columns of an opened session. -/
def openedColumns (sessionRef : String) (now : Int) (row : SessionBinding) : SessionBinding :=
  { row with state := .ready sessionRef now, updatedAtMs := now }

/-- Persists the opaque native session reference before any prompt is armed. -/
def recordSessionOpened (agentId : String) (binding : Binding) (sessionRef : String) (now : Int) :
    Tx SessionBinding := do
  check (validateBinding binding)
  check (validateBounded "session reference" sessionRef maxSessionRefBytes)
  let fence ← check (OwnerFence.new agentId binding)
  let row ← exactBindingRow agentId binding
  check (validateOwner row binding)
  match row.state with
  | .opening =>
    fence.update (·.isOpening) (openedColumns sessionRef now) "session binding changed while opening"
  | .ready storedRef _ =>
    ensure (storedRef = sessionRef)
      (.conflict "session opening was replayed with a different native reference")
  | state => fail (.conflict
      s!"session reference cannot be recorded while binding is {SessionBindingState.asStr state}")
  bindingByIdentity agentId binding

/-- `state = 'active', active_invocation_id = ?` on a ready row. -/
def SessionBindingState.toActive (invocationId : String) :
    SessionBindingState → SessionBindingState
  | .ready sessionRef openedAtMs => .active sessionRef openedAtMs invocationId
  | state => state

/-- The columns of an activated binding. -/
def activeColumns (invocationId : String) (now : Int) (row : SessionBinding) : SessionBinding :=
  { row with state := row.state.toActive invocationId, updatedAtMs := now }

/-- Binds an invocation to the session it is armed under. -/
def activateBindingTurn (agentId invocationId : String) (binding : Binding) (now : Int) :
    Tx Unit := do
  let fence ← check (OwnerFence.new agentId binding)
  let existing : Option SessionBindingTurn ← read fun s =>
    turnOf invocationId s.sessionBindingTurns
  match existing with
  | some turn =>
    ensure (turn.bindingId = fence.bindingId ∧ turn.bindingGeneration = fence.bindingGeneration ∧
        turn.ownerEpoch = fence.ownerEpoch ∧ turn.state = .active)
      (.conflict "invocation is already bound to different session ownership")
  | none =>
    let turn : SessionBindingTurn := {
      invocationId := invocationId
      bindingId := fence.bindingId
      bindingGeneration := fence.bindingGeneration
      ownerEpoch := fence.ownerEpoch
      state := .active
      startedAtMs := now }
    write fun s => ((), { s with sessionBindingTurns := s.sessionBindingTurns ++ [turn] })
    fence.update (·.isReady) (activeColumns invocationId now)
      "session binding changed while turn was armed"

/-- Atomically arms a reserved invocation and activates its exact session owner fence. -/
def armSessionInvocation [SerdeJson Json] (agentId invocationId : String) (binding : Binding)
    (sessionRef generationId : String) (input : ArmInvocation) (now : Int) :
    Tx (BoundInvocation Json) := do
  check (validateBinding binding)
  check (validateBounded "session reference" sessionRef maxSessionRefBytes)
  let row ← exactBindingRow agentId binding
  check (validateOwner row binding)
  check (validateSessionReference row sessionRef)
  check (validateBindingActivation row invocationId)
  let invocation ← armInvocationTransaction agentId invocationId input now
  activateBindingTurn agentId invocationId binding now
  beginInvocationObservation agentId invocationId generationId binding now
  let session ← bindingByIdentity agentId binding
  pure { invocation, session }

/-- `state = 'ready', active_invocation_id = NULL` on an active row. -/
def SessionBindingState.toReady : SessionBindingState → SessionBindingState
  | .active sessionRef openedAtMs _ => .ready sessionRef openedAtMs
  | state => state

/-- The columns of a binding whose turn ended quiescent. -/
def quiescentColumns (invocationId : String) (persistence : SessionPersistence) (now : Int)
    (row : SessionBinding) : SessionBinding :=
  { row with
    state := row.state.toReady
    lastQuiescentInvocationId := some invocationId
    sessionPersistence := some persistence
    updatedAtMs := now }

/-- Ends the turn of a completed invocation and returns its binding to ready. -/
def settleQuiescentTurn (agentId invocationId : String) (binding : Binding)
    (persistence : SessionPersistence) (now : Int) : Tx Unit := do
  let turn ← boundTurnRow invocationId
  match turn.state with
  | .quiescent _ stored =>
    ensure (stored = persistence)
      (.conflict "session completion replay changed persistence evidence")
  | .uncertain .. => fail (.conflict "non-active session turn cannot become quiescent")
  | .active =>
    updateActiveTurn invocationId (.quiescent now persistence)
      "session turn changed during completion"
    let fence ← check (OwnerFence.new agentId binding)
    fence.update (·.isActiveOn invocationId) (quiescentColumns invocationId persistence now)
      "session binding changed during completion"

/-- Atomically publishes a known result, acknowledges its input, and returns the session
binding to ready. -/
def completeSessionInvocation [DecidableEq Json] [SerdeJson Json] (agentId invocationId : String)
    (binding : Binding) (persistence : SessionPersistence) (input : CompleteInvocation Json)
    (now : Int) (resultId : String) (resultNow : Int) :
    Tx (InvocationCompletion Json × Bool) := do
  check (validateBinding binding)
  validateBoundTurn agentId invocationId binding true
  let completion ← completeInvocationTransaction agentId invocationId input now true resultId
    resultNow
  settleQuiescentTurn agentId invocationId binding persistence now
  pure completion

/-- Fences an active session as uncertain before its delivery is parked. -/
def markSessionInvocationUncertain (agentId invocationId : String) (binding : Binding)
    (reason : String) (now : Int) : Tx SessionBinding := do
  check (validateBinding binding)
  check (validateBounded "uncertain reason" reason maxReasonBytes)
  validateBoundTurn agentId invocationId binding false
  let row ← exactBindingRow agentId binding
  match row.state with
  | .uncertain _ _ _ storedReason =>
    ensure (storedReason = reason)
      (.conflict "session uncertainty was already recorded with different evidence")
  | .active .. => markTurnUncertain agentId invocationId binding reason now
  | state => fail (.conflict
      s!"session turn cannot become uncertain while binding is {SessionBindingState.asStr state}")
  bindingByIdentity agentId binding

/-- Retires a non-active binding generation under its exact owner fence. -/
def retireSessionBinding (agentId : String) (binding : Binding) (reason : String) (now : Int) :
    Tx SessionBinding := do
  check (validateBinding binding)
  check (validateBounded "retirement reason" reason maxReasonBytes)
  let fence ← check (OwnerFence.new agentId binding)
  let row ← exactBindingRow agentId binding
  check (validateOwner row binding)
  match row.state with
  | .active .. => fail (.conflict "active session binding must become uncertain before retirement")
  | .retired _ _ _ storedReason _ =>
    ensure (storedReason = reason)
      (.conflict "session binding was already retired for a different reason")
  | _ =>
    fence.update (fun state => !state.isActive && !state.isRetired) (retiredColumns reason now)
      "session binding changed during retirement"
  bindingByIdentity agentId binding

/-! ## Operator recovery of an uncertain session -/

/-- The stored name of a decision. -/
def resolutionName : BlockResolution → String
  | .requeue => "requeued"
  | .abandon => "abandoned"

/-- The retirement reason derived from a block and its resolution. -/
def operatorResolvedReason (blockId : Int) (resolution : BlockResolution) : String :=
  s!"operator_resolved_delivery_block_{blockId}_{resolutionName resolution}"

/-- The invocation, the turn and the binding of a blocked attempt that was bound to a
session. -/
def blockSession (blockId : Int) (s : Store) :
    Option (InvocationRow × SessionBindingTurn × SessionBinding) := do
  let block ← s.deliveryBlocks.find? fun b => (b.id : Int) = blockId
  let i ← s.invocations.find? fun i =>
    i.deliveryKey = block.deliveryKey ∧ i.leaseToken = block.leaseToken
  let turn ← turnOf i.id s.sessionBindingTurns
  let row ← s.sessionBindings.find? fun row => row.key = turn.bindingKey
  pure (i, turn, row)

/-- Whether an invocation ended without a known outcome. -/
def InvocationState.isOutcomeUnknown : InvocationState → Bool
  | .terminal _ _ .outcomeUnknown _ => true
  | _ => false

/-- Whether a turn was fenced as uncertain. -/
def TurnState.isUncertain : TurnState → Bool
  | .uncertain .. => true
  | _ => false

/-- Retires the exact uncertain session generation bound to a resolved block. -/
def retireUncertainSessionForDeliveryBlock (blockId : Int) (resolution : BlockResolution)
    (now : Int) : Tx Bool := do
  let found : Option (InvocationRow × SessionBindingTurn × SessionBinding) ←
    read (blockSession blockId)
  match found with
  | none => pure false
  | some (i, turn, row) =>
    let reason := operatorResolvedReason blockId resolution
    match row.state with
    | .retired _ _ _ retiredReason _ =>
      ensure (retiredReason = reason)
        (.conflict "delivery block session was already retired differently")
      pure true
    | state =>
      ensure (i.state.isOutcomeUnknown = true ∧ turn.state.isUncertain = true ∧
          state.isUncertainOn i.id = true)
        (.conflict "delivery block does not identify one recoverable uncertain session")
      (OwnerFence.fromStored row).update (·.isUncertainOn i.id) (retiredColumns reason now)
        "uncertain session changed during operator recovery"
      pure true

end Fleetd
