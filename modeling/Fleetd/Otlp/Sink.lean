import Fleetd.Controller.ManagedTurn
import Fleetd.Otlp.Projection
import Fleetd.Relational.Trace
import Mathlib.Data.Finmap

/-!
# The sink of trajectories

What a turn offers goes into a bounded queue, and an offer that finds the queue full is dropped and
counted. A task drains the queue: it owns the turns in flight, and exports the spans of a turn when
its close arrives. Nothing is received while an export is under way.
-/

namespace Fleetd.Otlp

open Serde (Value)
open Harness

/-- What is sent to the drain task. A flush carries the name of its acknowledgement. -/
inductive Offer
  | open_ (turn : OwnedTurn)
  | update (update : OwnedUpdate)
  | close (close : OwnedClose)
  | flush (acknowledged : Nat)
  deriving DecidableEq, Repr

def Offer.isFlush : Offer → Bool
  | .flush _ => true
  | _ => false

/-- The state of the sink, its drain task and its counters. The task is awaiting an export when there
are spans of one. -/
structure TrajectoryEgress where
  offers : List Offer
  inFlight : Finmap (fun _ : String => InFlight)
  exporting : Option (List SpanData)
  acknowledged : List Nat
  accepted : Nat
  dropped : Nat
  exported : Nat
  failed : Nat
  warned : Bool

/-- A sink that was just started. -/
def TrajectoryEgress.start : TrajectoryEgress where
  offers := []
  inFlight := ∅
  exporting := none
  acknowledged := []
  accepted := 0
  dropped := 0
  exported := 0
  failed := 0
  warned := false

/-- Adds to a counter of 64 bits. -/
def fetchAdd (counter count : Nat) : Nat := (counter + count) % (u64Max + 1)

/-- What happens to a sink: an offer, the receipt of one by the drain task, the end of an export. -/
inductive EgressStep
  | offer (offer : Offer)
  | receive
  | exportEnds (ok : Bool)
  deriving DecidableEq, Repr

namespace TrajectoryEgress

/-- The queue takes one more offer. -/
def HasRoom (capacity : Nat) (egress : TrajectoryEgress) : Prop := egress.offers.length < capacity

instance (capacity : Nat) (egress : TrajectoryEgress) : Decidable (egress.HasRoom capacity) :=
  inferInstanceAs (Decidable (_ < _))

/-- Queues one offer, or counts the loss. -/
def enqueue (capacity : Nat) (offer : Offer) (egress : TrajectoryEgress) : TrajectoryEgress :=
  if egress.HasRoom capacity then
    { egress with
      offers := egress.offers ++ [offer]
      accepted := fetchAdd egress.accepted 1 }
  else
    { egress with
      dropped := fetchAdd egress.dropped 1
      warned := egress.warned || decide (egress.dropped = 0) }

/-- Asks for an acknowledgement, which is not counted. -/
def flush (capacity : Nat) (acknowledged : Nat) (egress : TrajectoryEgress) : TrajectoryEgress :=
  if egress.HasRoom capacity then
    { egress with offers := egress.offers ++ [.flush acknowledged] }
  else egress

section
variable [Sha256] (config : EgressConfig)

/-- What the drain task does with an offer. -/
def handle (egress : TrajectoryEgress) : Offer → TrajectoryEgress
  | .open_ turn =>
    { egress with inFlight := egress.inFlight.insert turn.invocationId (InFlight.open_ turn) }
  | .update update =>
    match egress.inFlight.lookup update.invocationId with
    | none => egress
    | some flight =>
      { egress with
        inFlight := egress.inFlight.insert update.invocationId (flight.observe config update) }
  | .close close =>
    match egress.inFlight.lookup close.invocationId with
    | none => egress
    | some flight =>
      { egress with
        inFlight := egress.inFlight.erase close.invocationId
        exporting := some (flight.close close) }
  | .flush acknowledged => { egress with acknowledged := egress.acknowledged ++ [acknowledged] }

/-- The drain task receives the next offer, unless it has none or awaits an export. -/
def receive (egress : TrajectoryEgress) : TrajectoryEgress :=
  match egress.exporting, egress.offers with
  | none, offer :: rest => { egress with offers := rest }.handle config offer
  | _, _ => egress

/-- An export has ended, and its spans are counted. -/
def exportEnds (ok : Bool) (egress : TrajectoryEgress) : TrajectoryEgress :=
  match egress.exporting with
  | none => egress
  | some spans =>
    if ok then
      { egress with exporting := none, exported := fetchAdd egress.exported spans.length }
    else
      { egress with exporting := none, failed := fetchAdd egress.failed spans.length }

/-- One step of a sink with a queue of some capacity. -/
def step (capacity : Nat) : EgressStep → TrajectoryEgress → TrajectoryEgress
  | .offer (.flush acknowledged), egress => egress.flush capacity acknowledged
  | .offer offer, egress => egress.enqueue capacity offer
  | .receive, egress => egress.receive config
  | .exportEnds ok, egress => egress.exportEnds ok

/-- The sink after some steps. -/
def run (capacity : Nat) (steps : List EgressStep) : TrajectoryEgress :=
  Relational.runFrom (step config capacity) start steps

end

end TrajectoryEgress

/-! ## The offers of a turn -/

/-- The close of a trajectory, as it is queued. -/
def OwnedClose.of (invocationId : String) (closedAtMs : Int) : TrajectoryClose → OwnedClose
  | .terminal terminal => {
      invocationId
      closedAtMs
      stopReason := some terminal.stopReason
      runtimeStopReason := terminal.runtimeStopReason
      certainty := some (certaintyStr terminal.executionCertainty)
      sessionQuiescent := some terminal.sessionQuiescent
      usage := some terminal.usage
      parkedReason := none }
  | .parked reason => {
      invocationId
      closedAtMs
      stopReason := none
      runtimeStopReason := none
      certainty := none
      sessionQuiescent := none
      usage := none
      parkedReason := some reason }

/-- What an effect of a managed turn offers to the sink at some time. -/
def offerOf (turn : ManagedTurn) (now : Int) : TurnEffect → Option Offer
  | .trajectoryOpened => some (.open_ {
      invocationId := turn.invocation.id
      agentId := turn.invocation.agentId
      channelId := turn.invocation.message.channelId
      sourceMessageId := turn.invocation.message.id
      generationId := turn.generationId
      bindingId := turn.binding.bindingId
      bindingGeneration := turn.binding.bindingGeneration
      ownerEpoch := turn.binding.ownerEpoch
      correlationId := turn.invocation.message.correlationId
      causationId := turn.invocation.message.causationId
      openedAtMs := now })
  | .trajectoryObserved record => some (.update {
      invocationId := turn.invocation.id
      eventSeq := record.eventSeq
      observedAtMs := record.observedAtMs
      classification := record.classification
      rawUpdate := record.raw })
  | .trajectoryClosed close => some (.close (.of turn.invocation.id now close))
  | _ => none

/-- The offers of a turn, where each effect has a time. -/
def turnOffers (turn : ManagedTurn) (clock : TurnEffect → Int) (effects : List TurnEffect) :
    List Offer :=
  effects.filterMap fun effect => offerOf turn (clock effect) effect

end Fleetd.Otlp
