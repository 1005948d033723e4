import Fleetd.Kernel.Delivery

/-!
# The owner fence and the turns under it

A binding generation is addressed by four columns: its identifier, its generation, its
agent and its owner epoch. Every write to `session_bindings` matches all four through
`OwnerFence`, so a stale generation or a superseded epoch cannot change a row. The turn
primitives here are the ones that invocation settlement and expiry recovery call.
-/

namespace Fleetd

open Relational Relational.Transaction

/-- The identity of one binding generation under one owner, as a caller presents it. -/
structure Binding where
  bindingId : String
  bindingGeneration : Nat
  ownerEpoch : Nat
  deriving DecidableEq, Repr

def maxIdBytes : Nat := 256
def maxLaneKeyBytes : Nat := 4096
def maxPathBytes : Nat := 4096
def maxSessionRefBytes : Nat := 4096
def maxReasonBytes : Nat := 4096
def maxAdditionalDirectories : Nat := 64

/-- A text that is not blank and bounded in bytes. -/
def validateBounded (label value : String) (limit : Nat) : Except FleetError Unit :=
  if isBlank value then .error (.invalid s!"{label} must not be empty")
  else if byteLen value > limit then .error (.invalid s!"{label} must not exceed {limit} bytes")
  else .ok ()

/-- A positive value that fits a signed column. -/
def asI64 (label : String) (value : Nat) : Except FleetError Nat :=
  if value = 0 then .error (.invalid s!"{label} must be greater than zero")
  else if value ≤ i64Max then .ok value
  else .error (.invalid s!"{label} is too large")

/-- The error of a stored value that no operation writes. -/
def invalidStored (message : String) : FleetError := .invalid s!"stored {message}"

/-- A stored value that has to be positive. -/
def positiveU64 (label : String) (value : Nat) : Except FleetError Nat :=
  if 0 < value then .ok value else .error (invalidStored s!"{label} is not positive")

/-- The bounds of a presented binding. -/
def validateBinding (binding : Binding) : Except FleetError Unit := do
  validateBounded "binding ID" binding.bindingId maxIdBytes
  let _ ← asI64 "binding generation" binding.bindingGeneration
  let _ ← asI64 "owner epoch" binding.ownerEpoch
  pure ()

/-- The four columns that identify one binding generation under one owner. -/
structure OwnerFence where
  bindingId : String
  bindingGeneration : Nat
  agentId : String
  ownerEpoch : Nat
  deriving DecidableEq, Repr

/-- Reads the fence off the binding the caller was handed. -/
def OwnerFence.new (agentId : String) (binding : Binding) : Except FleetError OwnerFence := do
  let bindingGeneration ← asI64 "binding generation" binding.bindingGeneration
  let ownerEpoch ← asI64 "owner epoch" binding.ownerEpoch
  pure { bindingId := binding.bindingId, bindingGeneration, agentId, ownerEpoch }

/-- Builds a fence from values a query already returned. -/
def OwnerFence.fromStored (row : SessionBinding) : OwnerFence where
  bindingId := row.bindingId
  bindingGeneration := row.bindingGeneration
  agentId := row.agentId
  ownerEpoch := row.ownerEpoch

/-- Whether a stored row is the fenced one. -/
def OwnerFence.selects (fence : OwnerFence) (row : SessionBinding) : Bool :=
  decide (row.bindingId = fence.bindingId) &&
    decide (row.bindingGeneration = fence.bindingGeneration) &&
    decide (row.agentId = fence.agentId) && decide (row.ownerEpoch = fence.ownerEpoch)

/-- Rewrites the fenced row if it is in one of the wanted states; anything but one row is a
conflict. -/
def OwnerFence.update (fence : OwnerFence) (state : SessionBindingState → Bool)
    (set : SessionBinding → SessionBinding) (message : String) : Tx Unit := do
  let rows ← write fun s =>
    let selected := fun row : SessionBinding => fence.selects row && state row.state
    (s.sessionBindings.countP selected, { s with
      sessionBindings := updateWhere selected set s.sessionBindings })
  ensure (rows = 1) (.conflict message)

/-- Rewrites the active turn of one invocation; anything but one row is a conflict. -/
def updateActiveTurn (invocationId : String) (state : TurnState) (message : String) : Tx Unit := do
  let rows ← write fun s =>
    let selected := fun turn : SessionBindingTurn =>
      decide (turn.invocationId = invocationId) && decide (turn.state = .active)
    (s.sessionBindingTurns.countP selected, { s with
      sessionBindingTurns := updateWhere selected ({ · with state }) s.sessionBindingTurns })
  ensure (rows = 1) (.conflict message)

/-- Whether a binding is active on one invocation. -/
def SessionBindingState.isActiveOn (invocationId : String) : SessionBindingState → Bool
  | .active _ _ activeInvocationId => decide (activeInvocationId = invocationId)
  | _ => false

/-- Whether a binding is uncertain about one invocation. -/
def SessionBindingState.isUncertainOn (invocationId : String) : SessionBindingState → Bool
  | .uncertain _ _ activeInvocationId _ => decide (activeInvocationId = invocationId)
  | _ => false

/-- `state = 'uncertain', uncertain_reason = ?` on an active row. -/
def SessionBindingState.toUncertain (reason : String) : SessionBindingState → SessionBindingState
  | .active sessionRef openedAtMs activeInvocationId =>
    .uncertain sessionRef openedAtMs activeInvocationId reason
  | state => state

/-- The columns of an uncertain binding. -/
def uncertainColumns (reason : String) (now : Int) (row : SessionBinding) : SessionBinding :=
  { row with state := row.state.toUncertain reason, updatedAtMs := now }

/-- `state = 'retired', active_invocation_id = NULL, retired_reason = ?, retired_at_ms = ?`. -/
def retiredColumns (reason : String) (now : Int) (row : SessionBinding) : SessionBinding :=
  { row with
    state := .retired row.state.sessionRef row.state.openedAtMs row.state.uncertainReason reason now
    updatedAtMs := now }

/-- Fences the active turn of an invocation and its binding as uncertain. -/
def markTurnUncertain (agentId invocationId : String) (binding : Binding) (reason : String)
    (now : Int) : Tx Unit := do
  updateActiveTurn invocationId (.uncertain now reason)
    "session turn changed while fencing uncertainty"
  let fence ← check (OwnerFence.new agentId binding)
  fence.update (·.isActiveOn invocationId) (uncertainColumns reason now)
    "session binding changed while fencing uncertainty"

/-- The turn of one invocation. -/
def turnOf (invocationId : String) (turns : List SessionBindingTurn) : Option SessionBindingTurn :=
  turns.find? fun turn => turn.invocationId = invocationId

/-- A turn that is neither over nor quiescent must be settled through its binding. -/
def ensureInvocationNotActiveOnSession (invocationId : String) : Tx Unit := do
  let state : Option TurnState ← read fun s => (turnOf invocationId s.sessionBindingTurns).map (·.state)
  match state with
  | some .active | some (.uncertain ..) =>
    fail (.conflict "session-bound invocation must be settled through its binding fence")
  | _ => pure ()

/-- The invocations of one lease that have not ended. -/
def openInvocation (agentId messageId leaseToken : String) (messages : List MessageRow)
    (i : InvocationRow) : Bool :=
  decide (i.agentId = agentId) && decide (seqOfMessageId messages messageId = some i.messageSeq) &&
    decide (i.leaseToken = leaseToken) && !i.state.isTerminal

/-- The turn state of the open invocation of one lease. -/
def boundTurnState (agentId messageId leaseToken : String) (s : Store) : Option TurnState :=
  ((s.invocations.filter (openInvocation agentId messageId leaseToken s.messages)).filterMap
    fun i => turnOf i.id s.sessionBindingTurns).head?.map (·.state)

/-- A lease may be settled directly only when no turn in flight is bound to it; a block may
also settle an uncertain turn. -/
def ensureBoundTurnAllowsDeliverySettlement (agentId messageId leaseToken : String)
    (allowUncertainBlock : Bool) : Tx Unit := do
  let state ← read (boundTurnState agentId messageId leaseToken)
  match state with
  | none | some (.quiescent ..) => pure ()
  | some (.uncertain ..) =>
    ensure (allowUncertainBlock = true)
      (.conflict "session-bound invocation must be settled through its binding fence")
  | some .active =>
    fail (.conflict "session-bound invocation must be settled through its binding fence")

/-- Fences the turn of an expired invocation under the binding it ran on. A turn that is
already uncertain, together with its binding, stays as it is. -/
def fenceExpiredTurn (invocationId reason : String) (now : Int) (turn : SessionBindingTurn)
    (row : SessionBinding) : Tx Unit := do
  ensure (row.state.activeInvocationId = some invocationId)
    (.conflict "expired session turn is not the binding's active invocation")
  match turn.state, row.state with
  | .uncertain .., .uncertain .. => pure ()
  | .active, .active .. =>
    let bindingGeneration ← check (positiveU64 "binding generation" turn.bindingGeneration)
    let ownerEpoch ← check (positiveU64 "owner epoch" turn.ownerEpoch)
    markTurnUncertain row.agentId invocationId
      { bindingId := turn.bindingId, bindingGeneration, ownerEpoch } reason now
  | _, _ => fail (.conflict "expired invocation has inconsistent session binding state")

/-- Fences the session of an expired invocation, when it ran on one. -/
def markExpiredSessionTurnUncertain (invocationId reason : String) (now : Int) : Tx Unit := do
  let bound : Option (SessionBindingTurn × SessionBinding) ← read fun s =>
    (turnOf invocationId s.sessionBindingTurns).bind fun turn =>
      (s.sessionBindings.find? fun row => row.key = turn.bindingKey).map (turn, ·)
  match bound with
  | none => pure ()
  | some (turn, row) => fenceExpiredTurn invocationId reason now turn row

end Fleetd
