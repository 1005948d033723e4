import Fleetd.Relational.Trace
import Fleetd.Kernel.Sha256
import Fleetd.Execution.Settlement
import Fleetd.Execution.Trigger

/-!
# Runs of the control plane

A command is one committed call of the store's write interface together with everything
the call draws from its environment: clock readings, fresh identifiers and fresh tokens. A
run is any list of commands from the empty database. Nothing orders the clock readings;
the one thing a run may be required to satisfy is that lease tokens are never repeated.
-/

namespace Fleetd

open Relational

/-- One call of the write interface. -/
inductive Command (Json : Type)
  | createAgent (id name : String) (now : Int)
  | createChannel (id name : String) (memberIds : List String) (members : List CreateChannelMember)
      (now : Int)
  | openDirectPair (id name : String) (members : List CreateChannelMember) (now : Int)
  | renameChannel (channelId name : String)
  | archiveChannel (channelId : String) (now : Int)
  | addMember (channelId agentId : String) (mode : MembershipDeliveryMode) (now : Int)
  | advanceReadCursor (channelId agentId : String) (throughSeq : Int)
  | appendMessage (channelId : String) (input : CreateMessage Json) (id : String) (now : Int)
  | registerTrigger (id : String) (input : RegisterTrigger) (now : Int)
  | retireTrigger (triggerId reason : String) (now : Int)
  | fireTrigger (triggerId : String) (occurrence : TriggerOccurrence Json) (messageId : String)
      (messageNow now : Int)
  | recordPluginGeneration (generation : NewPluginGeneration) (now : Int)
  | heartbeatPluginGeneration (generationId : String) (now : Int)
  | stopPluginGeneration (generationId : String) (stop : StopPluginGeneration) (now : Int)
  | recordInvocationEvent (generationId invocationId : String) (eventSeq : Nat)
      (observedAtMs : Int) (classification : String) (raw : Json) (now : Int)
  | recordInvocationTerminal (generationId : String) (terminal : TurnTerminal Json) (now : Int)
  | claimDeliveries (agentId : String) (input : ClaimDeliveries) (now : Int) (leaseToken : String)
  | reserveInvocations (agentId : String) (input : ClaimDeliveries) (now : Int)
      (leaseToken : String) (mint : Nat → String × String)
  | reserveInvocationsByKind (agentId : String) (input : ClaimDeliveries)
      (messageKinds : List String) (now : Int) (leaseToken : String)
      (mint : Nat → String × String)
  | armInvocation (agentId invocationId : String) (input : ArmInvocation) (now : Int)
  | armSessionInvocation (agentId invocationId : String) (binding : Binding)
      (sessionRef generationId : String) (input : ArmInvocation) (now : Int)
  | completeInvocation (agentId invocationId : String) (input : CompleteInvocation Json)
      (now : Int) (resultId : String) (resultNow : Int)
  | completeSessionInvocation (agentId invocationId : String) (binding : Binding)
      (persistence : SessionPersistence) (input : CompleteInvocation Json) (now : Int)
      (resultId : String) (resultNow : Int)
  | acknowledgeDelivery (agentId messageId leaseToken : String) (now : Int)
  | retryDelivery (agentId messageId : String) (input : RetryDelivery) (now : Int)
  | blockDelivery (agentId messageId : String) (input : BlockDelivery) (now : Int)
  | markSessionInvocationUncertain (agentId invocationId : String) (binding : Binding)
      (reason : String) (now : Int)
  | acquireSessionBinding (agentId : String) (input : AcquireSessionBinding) (now : Int)
      (freshBindingId : String)
  | recordSessionOpened (agentId : String) (binding : Binding) (sessionRef : String) (now : Int)
  | retireSessionBinding (agentId : String) (binding : Binding) (reason : String) (now : Int)
  | recoverAllExpiredInvocations (earlier : Store) (now : Int)
  | resolveDeliveryBlock (blockId : Int) (input : ResolveDeliveryBlock) (now : Int)

variable {Json : Type}

/-- The lease tokens a command mints. -/
def Command.leaseTokens : Command Json → List String
  | .claimDeliveries _ _ _ leaseToken => [leaseToken]
  | .reserveInvocations _ _ _ leaseToken _ => [leaseToken]
  | .reserveInvocationsByKind _ _ _ _ leaseToken _ => [leaseToken]
  | _ => []

/-- A call whose result is not looked at. -/
def discard {α : Type} (x : Tx α) : Tx Unit := do
  let _ ← x
  pure ()

/-- The transaction of a command. -/
def Command.exec [DecidableEq Json] [SerdeJson Json] [Sha256] : Command Json → Tx Unit
  | .createAgent id name now => discard (Fleetd.createAgent id name now)
  | .createChannel id name memberIds members now =>
    discard (Fleetd.createChannel id name memberIds members now)
  | .openDirectPair id name members now => discard (Fleetd.openDirectPair id name members now)
  | .renameChannel channelId name => discard (Fleetd.renameChannel channelId name)
  | .archiveChannel channelId now => discard (Fleetd.archiveChannel channelId now)
  | .addMember channelId agentId mode now => addMemberWithMode channelId agentId mode now
  | .advanceReadCursor channelId agentId throughSeq =>
    discard (advanceMemberReadCursor channelId agentId throughSeq)
  | .appendMessage channelId input id now =>
    discard (appendMessageIdempotent channelId input id now)
  | .registerTrigger id input now => discard (Fleetd.registerTrigger id input now)
  | .retireTrigger triggerId reason now => discard (Fleetd.retireTrigger triggerId reason now)
  | .fireTrigger triggerId occurrence messageId messageNow now =>
    discard (fire triggerId occurrence messageId messageNow now)
  | .recordPluginGeneration generation now =>
    discard (Fleetd.recordPluginGeneration generation now)
  | .heartbeatPluginGeneration generationId now =>
    Fleetd.heartbeatPluginGeneration generationId now
  | .stopPluginGeneration generationId stop now =>
    discard (Fleetd.stopPluginGeneration generationId stop now)
  | .recordInvocationEvent generationId invocationId eventSeq observedAtMs classification raw now =>
    Fleetd.recordInvocationEvent generationId invocationId eventSeq observedAtMs classification raw
      now
  | .recordInvocationTerminal generationId terminal now =>
    Fleetd.recordInvocationTerminal generationId terminal now
  | .claimDeliveries agentId input now leaseToken =>
    discard (Fleetd.claimDeliveries agentId input now leaseToken : Tx (ClaimBatch Json))
  | .reserveInvocations agentId input now leaseToken mint =>
    discard (Fleetd.reserveInvocations agentId input now leaseToken mint : Tx (List (Invocation Json)))
  | .reserveInvocationsByKind agentId input messageKinds now leaseToken mint =>
    discard (Fleetd.reserveInvocationsByKind agentId input messageKinds now leaseToken mint :
      Tx (List (Invocation Json)))
  | .armInvocation agentId invocationId input now =>
    discard (Fleetd.armInvocation agentId invocationId input now : Tx (Invocation Json))
  | .armSessionInvocation agentId invocationId binding sessionRef generationId input now =>
    discard (Fleetd.armSessionInvocation agentId invocationId binding sessionRef generationId input
      now : Tx (BoundInvocation Json))
  | .completeInvocation agentId invocationId input now resultId resultNow =>
    discard (Fleetd.completeInvocation agentId invocationId input now resultId resultNow)
  | .completeSessionInvocation agentId invocationId binding persistence input now resultId
      resultNow =>
    discard (Fleetd.completeSessionInvocation agentId invocationId binding persistence input now
      resultId resultNow)
  | .acknowledgeDelivery agentId messageId leaseToken now =>
    Fleetd.acknowledgeDelivery agentId messageId leaseToken now
  | .retryDelivery agentId messageId input now => Fleetd.retryDelivery agentId messageId input now
  | .blockDelivery agentId messageId input now =>
    discard (Fleetd.blockDelivery agentId messageId input now : Tx (BlockedDelivery Json × Bool))
  | .markSessionInvocationUncertain agentId invocationId binding reason now =>
    discard (Fleetd.markSessionInvocationUncertain agentId invocationId binding reason now)
  | .acquireSessionBinding agentId input now freshBindingId =>
    discard (Fleetd.acquireSessionBinding agentId input now freshBindingId)
  | .recordSessionOpened agentId binding sessionRef now =>
    discard (Fleetd.recordSessionOpened agentId binding sessionRef now)
  | .retireSessionBinding agentId binding reason now =>
    discard (Fleetd.retireSessionBinding agentId binding reason now)
  | .recoverAllExpiredInvocations earlier now =>
    discard (Fleetd.recoverAllExpiredInvocations earlier now)
  | .resolveDeliveryBlock blockId input now => Fleetd.resolveDeliveryBlock blockId input now

/-- One step of a run: the call commits, or it fails and leaves the database alone. -/
def Command.step [DecidableEq Json] [SerdeJson Json] [Sha256] (c : Command Json) (s : Store) :
    Store :=
  Transaction.commit c.exec s

/-- The database after a run of commands. -/
def run [DecidableEq Json] [SerdeJson Json] [Sha256] (cs : List (Command Json)) : Store :=
  runFrom Command.step Store.empty cs

/-- Lease tokens are never repeated along the run. -/
abbrev Fresh (cs : List (Command Json)) : Prop := FreshAlong Command.leaseTokens cs

/-! ## A sample run -/

/-- Two agents, a channel between them, one message from the first to the second, and a plugin
generation that serves the second. -/
def sampleSetup : List (Command Bool) := [
  .createAgent "a" "alice" 1,
  .createAgent "b" "bob" 1,
  .createChannel "c" "room" ["a", "b"] [] 1,
  .appendMessage "c" ⟨"a", some "k", some "b", "work", true, some "corr", none⟩ "m" 2,
  .recordPluginGeneration ⟨"g", "b", 1, "[]", "\x7b\x7d", "\x7b\x7d", "d", 1, 1, 1, 1⟩ 3]

/-- The lane the samples open. -/
def sampleLane (ownerInstanceId : String) : AcquireSessionBinding :=
  ⟨"policy", "key", ownerInstanceId, "profile", "compat", "/work", []⟩

/-- The message is reserved and its session is opened. -/
def sampleReserved : List (Command Bool) := sampleSetup ++ [
  .reserveInvocations "b" ⟨1, 10⟩ 5 "T" fun _ => ("i", "f"),
  .acquireSessionBinding "b" (sampleLane "o") 5 "B",
  .recordSessionOpened "b" ⟨"B", 1, 1⟩ "ref" 6]

/-- The reserved invocation is armed under its session. -/
def sampleArmed : List (Command Bool) := sampleReserved ++ [
  .armSessionInvocation "b" "i" ⟨"B", 1, 1⟩ "ref" "g" ⟨"T", "f"⟩ 7]

/-- The invocation that the sample arms. -/
def sampleInvocation : InvocationRow := ⟨"i", 1, "b", 1, "T", 15, "f", .dispatchArmed 7, 5⟩

end Fleetd
