import Fleetd.Kernel.Text
import Fleetd.Serde.Value

/-!
# The wire between the workflow runner and its plugin

The runner hands the plugin one leased input with the whole correlated history and the
members of the channel. The plugin answers with effects it proposes. Neither credentials
nor ids of messages that are still to be written cross this wire.
-/

namespace Fleetd.Workflow

open Serde (Value)

def maxHistoryMessages : Nat := 10000
def maxMembers : Nat := 256
def maxProposals : Nat := 32
def minRevisionRounds : Nat := 0
def maxRevisionRounds : Nat := 8

def workRequested : String := "work.requested"
def artifactProposed : String := "artifact.proposed"
def reviewRequested : String := "review.requested"
def reviewCompleted : String := "review.completed"
def revisionRequested : String := "revision.requested"
def workCompleted : String := "work.completed"
def workBlocked : String := "work.blocked"

/-- The kinds that the plugin declares. -/
def eventKinds : List String := [workRequested, artifactProposed, reviewRequested, reviewCompleted,
  revisionRequested, workCompleted, workBlocked]

/-- A message of the channel as the plugin sees it. -/
structure WorkflowMessage where
  seq : Int
  id : String
  channelId : String
  senderId : String
  recipientId : Option String
  kind : String
  payload : Value
  correlationId : Option String
  causationId : Option String
  createdAtMs : Int
  deriving DecidableEq, Repr

/-- A member of the channel as the plugin sees it. -/
structure WorkflowMember where
  agentId : String
  agentName : String
  deliveryMode : String
  joinedAtMs : Int
  deriving DecidableEq, Repr

/-- What one evaluation is given. -/
structure EvaluateParams where
  configuration : Value
  runnerAgentId : String
  workflowId : String
  input : WorkflowMessage
  history : List WorkflowMessage
  members : List WorkflowMember
  deriving Repr

/-- An effect that the runner is asked to publish. -/
structure ProposedMessage where
  operationId : String
  recipientId : String
  kind : String
  payload : Value
  deriving DecidableEq, Repr

/-- What one evaluation answers. -/
structure EvaluateResult where
  projection : Value
  proposals : List ProposedMessage
  deriving Repr

end Fleetd.Workflow
