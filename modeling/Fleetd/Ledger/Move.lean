import Mathlib.Logic.Relation
import Fleetd.Execution.Settlement

/-!
# Moves of the ledger

What a committed transaction can do to deliveries, invocations, blocks, bindings and turns
is a sequence of the moves below. Each move states the rows it changes and the guard under
which the code makes it; the invariants are proved about moves, and the operations are
shown to consist of moves. An action labels the moves that a command has to be entitled to:
new deliveries need their message, a lease its token, a completion its result message, an
adoption a new owner, a resolution an operator, and a retirement says whether it leaves an
armed invocation behind.
-/

namespace Fleetd

open Relational

/-- What a change needs its command to carry. A change of the evidence tables is no move of
the ledger. -/
inductive Action
  | internal
  | observe
  | deliver (messageSeq : Nat)
  | lease (leaseToken : String)
  | publish (resultMessageSeq : Nat)
  | adopt
  | retire (stranding : Bool)
  | resolve (blockId : Nat) (resolution : BlockResolution)
  deriving DecidableEq

/-- No lease, invocation or block of the ledger mentions a token. -/
def Ledger.TokenUnused (l : Ledger) (leaseToken : String) : Prop :=
  (∀ d ∈ l.agentDeliveries, d.state.leaseToken ≠ some leaseToken) ∧
  (∀ i ∈ l.invocations, i.leaseToken ≠ leaseToken) ∧
  (∀ b ∈ l.deliveryBlocks, b.leaseToken ≠ leaseToken)

/-- Whether an invocation is an attempt at a delivery that has not ended. -/
def openFor (key : Nat × String) (i : InvocationRow) : Bool :=
  decide (i.deliveryKey = key) && !i.state.isTerminal

/-- The state a decision moves a blocked delivery to. -/
def BlockResolution.deliveryState : BlockResolution → DeliveryState
  | .requeue => .pending
  | .abandon => .dead

/-- Ending an invocation as completed publishes its result. -/
def TerminalReason.action : TerminalReason → Action
  | .completed resultMessageSeq => .publish resultMessageSeq
  | _ => .internal

/-- One indivisible change of the ledger. -/
inductive Move : Action → Ledger → Ledger → Prop
  | deliver {l : Ledger} (messageSeq : Nat) (new : List AgentDelivery)
      (keys : KeyUnique AgentDelivery.key new) (pending : ∀ d ∈ new, d.state = .pending)
      (seq : ∀ d ∈ new, d.messageSeq = messageSeq)
      (fresh : ∀ e ∈ l.agentDeliveries, e.messageSeq ≠ messageSeq) :
      Move (.deliver messageSeq) l { l with agentDeliveries := l.agentDeliveries ++ new }
  | lease {l : Ledger} (leaseToken : String) (leaseExpiresAtMs : Int)
      (selected : AgentDelivery → Bool)
      (claimable : ∀ d ∈ l.agentDeliveries, selected d = true →
        d.state = .pending ∨ d.state.leaseToken.isSome = true)
      (idle : ∀ d ∈ l.agentDeliveries, selected d = true →
        ∀ i ∈ l.invocations, i.deliveryKey = d.key → i.state.isTerminal = true)
      (unused : l.TokenUnused leaseToken) :
      Move (.lease leaseToken) l { l with
        agentDeliveries :=
          updateWhere selected (leasedColumns leaseToken leaseExpiresAtMs) l.agentDeliveries }
  | reserve {l : Ledger} (i : InvocationRow) (d : AgentDelivery) (delivery : d ∈ l.agentDeliveries)
      (key : i.deliveryKey = d.key) (leased : d.state = .leased i.leaseToken i.leaseExpiresAtMs)
      (attempt : i.deliveryAttempt = d.attempt) (reserved : i.state = .reserved)
      (new : ∀ j ∈ l.invocations, j.id ≠ i.id ∧
        ¬ (j.deliveryKey = i.deliveryKey ∧ j.deliveryAttempt = i.deliveryAttempt)) :
      Move .internal l { l with invocations := l.invocations ++ [i] }
  | arm {l : Ledger} (i : InvocationRow) (dispatchArmedAtMs : Int) (invocation : i ∈ l.invocations)
      (reserved : i.state = .reserved) :
      Move .internal l { l with
        invocations :=
          replaceRow i { i with state := .dispatchArmed dispatchArmedAtMs } l.invocations }
  | expire {l : Ledger} (selected : InvocationRow → Bool) (now : Int)
      (reserved : ∀ i ∈ l.invocations, selected i = true → i.state = .reserved) :
      Move .internal l { l with
        invocations := updateWhere selected
          (terminalColumns now .notStarted .reservationExpiredBeforeDispatch) l.invocations }
  | settle {l : Ledger} (d d' : AgentDelivery) (now : Int) (certainty : ExecutionCertainty)
      (reason : TerminalReason) (delivery : d ∈ l.agentDeliveries)
      (leased : d.state.leaseToken.isSome = true) (key : d'.key = d.key)
      (attempt : d'.attempt = d.attempt)
      (state : d'.state = .pending ∨ ∃ at_, d'.state = .acknowledged at_)
      (unarmed : d'.state = .pending →
        ∀ i ∈ l.invocations, i.deliveryKey = d.key → i.state.isArmed = false)
      (unbound : ∀ i ∈ l.invocations, openFor d.key i = true →
        ∀ t ∈ l.sessionBindingTurns, t.invocationId ≠ i.id) :
      Move reason.action l { l with
        agentDeliveries := replaceRow d d' l.agentDeliveries
        invocations := updateWhere (openFor d.key) (terminalColumns now certainty reason)
          l.invocations }
  | park {l : Ledger} (d d' : AgentDelivery) (b : DeliveryBlock) (now : Int)
      (reason : TerminalReason) (delivery : d ∈ l.agentDeliveries)
      (leased : d.state.leaseToken = some b.leaseToken) (key : d'.key = d.key)
      (attempt : d'.attempt = d.attempt) (blocked : d'.state = .blocked)
      (evidence : b.deliveryKey = d.key ∧ b.attempt = d.attempt ∧ b.resolved = none ∧
        b.id = l.deliveryBlockSequence + 1)
      (fenced : ∀ i ∈ l.invocations, openFor d.key i = true →
        ∀ t ∈ l.sessionBindingTurns, t.invocationId = i.id → t.state.isUncertain = true) :
      Move reason.action l { l with
        agentDeliveries := replaceRow d d' l.agentDeliveries
        deliveryBlocks := l.deliveryBlocks ++ [b]
        deliveryBlockSequence := l.deliveryBlockSequence + 1
        invocations := updateWhere (openFor d.key) (terminalColumns now .outcomeUnknown reason)
          l.invocations }
  | resolve {l : Ledger} (b : DeliveryBlock) (d d' : AgentDelivery) (input : ResolveDeliveryBlock)
      (now : Int) (block : b ∈ l.deliveryBlocks) (unresolved : b.resolved = none)
      (delivery : d ∈ l.agentDeliveries) (same : d.key = b.deliveryKey) (key : d'.key = d.key)
      (attempt : d'.attempt = d.attempt) (state : d'.state = input.resolution.deliveryState) :
      Move (.resolve b.id input.resolution) l { l with
        agentDeliveries := replaceRow d d' l.agentDeliveries
        deliveryBlocks := replaceRow b (b.resolve input now) l.deliveryBlocks }
  | found {l : Ledger} (row : SessionBinding) (opening : row.state = .opening)
      (epoch : row.ownerEpoch = 1)
      (generation : row.bindingGeneration =
        (l.sessionBindings.filter fun other => other.lane = row.lane).length + 1)
      (superseded : ∀ other ∈ l.sessionBindings, other.lane = row.lane →
        other.state.isRetired = true)
      (lane : ∀ other ∈ l.sessionBindings,
        other.lane = row.lane ↔ other.bindingId = row.bindingId) :
      Move .internal l { l with sessionBindings := l.sessionBindings ++ [row] }
  | adopt {l : Ledger} (row : SessionBinding) (ownerInstanceId : String) (now : Int)
      (binding : row ∈ l.sessionBindings) (ready : row.state.isReady = true) :
      Move .adopt l { l with
        sessionBindings := replaceRow row (adoptedColumns (row.ownerEpoch + 1) ownerInstanceId now row)
          l.sessionBindings }
  | opened {l : Ledger} (row : SessionBinding) (sessionRef : String) (now : Int)
      (binding : row ∈ l.sessionBindings) (opening : row.state = .opening) :
      Move .internal l { l with
        sessionBindings := replaceRow row (openedColumns sessionRef now row) l.sessionBindings }
  | activate {l : Ledger} (row : SessionBinding) (t : SessionBindingTurn) (i : InvocationRow)
      (now : Int) (binding : row ∈ l.sessionBindings) (ready : row.state.isReady = true)
      (turn : t.state = .active) (key : t.bindingKey = row.key) (epoch : t.ownerEpoch = row.ownerEpoch)
      (valid : validateBinding ⟨t.bindingId, t.bindingGeneration, t.ownerEpoch⟩ = .ok ())
      (invocation : i ∈ l.invocations) (id : i.id = t.invocationId)
      (armed : i.state.isArmed = true) (agent : i.agentId = row.agentId)
      (new : ∀ u ∈ l.sessionBindingTurns, u.invocationId ≠ t.invocationId) :
      Move .internal l { l with
        sessionBindingTurns := l.sessionBindingTurns ++ [t]
        sessionBindings := replaceRow row (activeColumns t.invocationId now row)
          l.sessionBindings }
  | fence {l : Ledger} (row : SessionBinding) (t : SessionBindingTurn) (reason : String) (now : Int)
      (binding : row ∈ l.sessionBindings) (turn : t ∈ l.sessionBindingTurns)
      (key : t.bindingKey = row.key) (active : row.state.isActiveOn t.invocationId = true)
      (running : t.state = .active) :
      Move .internal l { l with
        sessionBindingTurns :=
          replaceRow t { t with state := .uncertain now reason } l.sessionBindingTurns
        sessionBindings := replaceRow row (uncertainColumns reason now row) l.sessionBindings }
  | retire {l : Ledger} (row : SessionBinding) (reason : String) (now : Int) (stranding : Bool)
      (binding : row ∈ l.sessionBindings) (idle : row.state.isActive = false)
      (current : row.state.isRetired = false)
      (settled : stranding = false → ∀ i ∈ l.invocations,
        row.state.isUncertainOn i.id = true → i.state.isArmed = false) :
      Move (.retire stranding) l { l with
        sessionBindings := replaceRow row (retiredColumns reason now row) l.sessionBindings }
  | complete {l : Ledger} (d d' : AgentDelivery) (i : InvocationRow) (t : SessionBindingTurn)
      (row : SessionBinding) (now : Int) (resultMessageSeq : Nat)
      (persistence : SessionPersistence) (delivery : d ∈ l.agentDeliveries)
      (leased : d.state.leaseToken.isSome = true) (key : d'.key = d.key)
      (attempt : d'.attempt = d.attempt) (state : ∃ at_, d'.state = .acknowledged at_)
      (invocation : i ∈ l.invocations) (same : i.deliveryKey = d.key)
      (armed : i.state.isArmed = true) (turn : t ∈ l.sessionBindingTurns)
      (id : t.invocationId = i.id) (running : t.state = .active)
      (binding : row ∈ l.sessionBindings) (bound : t.bindingKey = row.key)
      (active : row.state.isActiveOn i.id = true) :
      Move (.publish resultMessageSeq) l { l with
        agentDeliveries := replaceRow d d' l.agentDeliveries
        invocations := updateWhere (openFor d.key)
          (terminalColumns now .outcomeKnown (.completed resultMessageSeq)) l.invocations
        sessionBindingTurns :=
          replaceRow t { t with state := .quiescent now persistence } l.sessionBindingTurns
        sessionBindings := replaceRow row (quiescentColumns i.id persistence now row)
          l.sessionBindings }

/-- Some moves in a row, all of them permitted. -/
def Moves (permits : Action → Prop) : Ledger → Ledger → Prop :=
  Relation.ReflTransGen fun l l' => ∃ a, permits a ∧ Move a l l'

/-- One permitted move. -/
theorem Moves.single {permits : Action → Prop} {a : Action} {l l' : Ledger} (ha : permits a)
    (h : Move a l l') : Moves permits l l' :=
  Relation.ReflTransGen.single ⟨a, ha, h⟩

/-- Moves followed by moves. -/
theorem Moves.trans {permits : Action → Prop} {l l' l'' : Ledger} (h : Moves permits l l')
    (h' : Moves permits l' l'') : Moves permits l l'' :=
  Relation.ReflTransGen.trans h h'

/-- What every permitted move preserves, moves in a row preserve. -/
theorem Moves.preserve {permits : Action → Prop} {P : Ledger → Prop}
    (step : ∀ a l l', permits a → Move a l l' → P l → P l') {l l' : Ledger}
    (h : Moves permits l l') (hP : P l) : P l' := by
  induction h with
  | refl => exact hP
  | tail _ hmove ih =>
    obtain ⟨a, ha, hm⟩ := hmove
    exact step a _ _ ha hm ih

end Fleetd
