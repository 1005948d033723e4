import Fleetd.Relational.Trace
import Fleetd.Serde.Size
import Fleetd.Workflow.Plugin

/-!
# The runner of the workflow

One process leases an input of its agent, reads the correlated history of the input page by
page, has the plugin evaluate it, and publishes the proposals one by one under keys that are
made of the input and the operation. It may stop at any point; whatever it leased is leased
again. Other agents post to the log at any time, to any workflow.
-/

namespace Fleetd.Workflow

open Serde (Value)

def historyPageSize : Nat := 500
def maxPayloadBytes : Nat := 256 * 1024
def maxOperationIdBytes : Nat := 180
def maxIdempotencyKeyBytes : Nat := 256

/-- A message of the log with the key it was sent under. -/
structure Posted where
  message : WorkflowMessage
  idempotencyKey : Option String
  deriving DecidableEq, Repr

/-- Where the runner is with the input that it leased. -/
inductive RunnerPhase
  | idle
  | reading (input : WorkflowMessage) (workflowId : String) (cursor : Int)
      (history : List WorkflowMessage)
  | gathered (input : WorkflowMessage) (workflowId : String) (history : List WorkflowMessage)
  | publishing (params : EvaluateParams) (remaining : List ProposedMessage)

/-- The log of the service and the process that reads it. -/
structure RunnerState where
  log : List Posted
  phase : RunnerPhase

/-- What the process was started with. -/
structure Runner where
  agentId : String
  pluginConfiguration : Value

/-- The messages of the log. -/
def RunnerState.messages (s : RunnerState) : List WorkflowMessage := s.log.map Posted.message

/-- A message that may be appended: it is later than all others and its id is new. -/
def Appendable (messages : List WorkflowMessage) (message : WorkflowMessage) : Prop :=
  0 < message.seq ∧ ∀ m ∈ messages, m.seq < message.seq ∧ m.id ≠ message.id

instance (messages : List WorkflowMessage) (message : WorkflowMessage) :
    Decidable (Appendable messages message) :=
  inferInstanceAs (Decidable (_ ∧ _))

/-! ## Reading the history -/

/-- One page of a channel past a cursor. -/
def historyPage (messages : List WorkflowMessage) (channelId : String) (cursor : Int) :
    List WorkflowMessage :=
  (messages.filter fun m => m.channelId = channelId && cursor < m.seq).take historyPageSize

/-- The messages of one workflow. -/
def correlated (workflowId : String) (messages : List WorkflowMessage) : List WorkflowMessage :=
  messages.filter fun m => m.correlationId = some workflowId

/-- The history is read on until a page is not full. -/
def readPage (messages : List WorkflowMessage) (input : WorkflowMessage) (workflowId : String)
    (cursor : Int) (history : List WorkflowMessage) : RunnerPhase :=
  let page := historyPage messages input.channelId cursor
  let longer := history ++ correlated workflowId page
  if longer.length > maxHistoryMessages then .idle
  else if page.length < historyPageSize then .gathered input workflowId longer
  else .reading input workflowId ((page.getLast?.map WorkflowMessage.seq).getD cursor) longer

/-! ## Publishing -/

/-- What the runner checks of the proposals before it publishes the first. -/
def validateProposals (params : EvaluateParams) (proposals : List ProposedMessage) : Bool :=
  proposals.length ≤ maxProposals &&
    proposals.all (fun p => isBlank p.operationId = false &&
      byteLen p.operationId ≤ maxOperationIdBytes &&
      p.recipientId ∈ params.members.map WorkflowMember.agentId && p.kind ∈ eventKinds &&
      p.payload.size ≤ maxPayloadBytes) &&
    decide (proposals.map ProposedMessage.operationId).Nodup

/-- The message that the runner sends for a proposal. -/
def publishedMessage (params : EvaluateParams) (proposal : ProposedMessage) (seq : Int)
    (id : String) (createdAtMs : Int) : WorkflowMessage where
  seq := seq
  id := id
  channelId := params.input.channelId
  senderId := params.runnerAgentId
  recipientId := some proposal.recipientId
  kind := proposal.kind
  payload := proposal.payload
  correlationId := some params.workflowId
  causationId := some params.input.id
  createdAtMs := createdAtMs

/-- The key that a proposal is sent under. -/
def publicationKey (params : EvaluateParams) (proposal : ProposedMessage) : String :=
  s!"workflow/{params.input.id}/{proposal.operationId}"

/-- Whether a message that was sent under the same key is the same message. -/
def sameRequest (stored message : WorkflowMessage) : Bool :=
  stored.channelId = message.channelId && stored.recipientId = message.recipientId &&
    stored.kind = message.kind && stored.payload.agrees message.payload &&
    stored.correlationId = message.correlationId && stored.causationId = message.causationId

/-- Sends one proposal: it is appended, or recognised under its key, or it conflicts. -/
def publishNext (s : RunnerState) (params : EvaluateParams) (proposal : ProposedMessage)
    (rest : List ProposedMessage) (seq : Int) (id : String) (createdAtMs : Int) : RunnerState :=
  let message := publishedMessage params proposal seq id createdAtMs
  let key := publicationKey params proposal
  if byteLen key > maxIdempotencyKeyBytes then { s with phase := .idle }
  else match s.log.find? fun posted => posted.message.senderId = params.runnerAgentId &&
      posted.idempotencyKey = some key with
    | some stored =>
      if sameRequest stored.message message then { s with phase := .publishing params rest }
      else { s with phase := .idle }
    | none =>
      if Appendable s.messages message then
        { log := s.log ++ [⟨message, some key⟩], phase := .publishing params rest }
      else s

/-! ## Runs -/

/-- What can happen next. -/
inductive RunnerAction
  | post (posted : Posted)
  | lease (input : WorkflowMessage)
  | read
  | evaluate (members : List WorkflowMember)
  | publish (seq : Int) (id : String) (createdAtMs : Int)
  | stop

/-- Evaluates what was gathered and takes up the proposals that are valid. -/
def evaluateGathered (runner : Runner) (input : WorkflowMessage) (workflowId : String)
    (history : List WorkflowMessage) (members : List WorkflowMember) : RunnerPhase :=
  let params : EvaluateParams := {
    configuration := runner.pluginConfiguration
    runnerAgentId := runner.agentId
    workflowId, input, history, members }
  match Workflow.evaluate params with
  | .ok result =>
    if validateProposals params result.proposals then .publishing params result.proposals else .idle
  | .error _ => .idle

/-- One step. An action that is not possible changes nothing. -/
def Runner.step (runner : Runner) (action : RunnerAction) (s : RunnerState) : RunnerState :=
  match action, s.phase with
  | .post posted, _ =>
    if posted.message.senderId ≠ runner.agentId ∧ Appendable s.messages posted.message then
      { s with log := s.log ++ [posted] }
    else s
  | .lease input, .idle =>
    if input ∈ s.messages then
      match input.correlationId with
      | some workflowId => { s with phase := .reading input workflowId 0 [] }
      | none => s
    else s
  | .read, .reading input workflowId cursor history =>
    { s with phase := readPage s.messages input workflowId cursor history }
  | .evaluate members, .gathered input workflowId history =>
    { s with phase := evaluateGathered runner input workflowId history members }
  | .publish seq id createdAtMs, .publishing params (proposal :: rest) =>
    publishNext s params proposal rest seq id createdAtMs
  | .publish .., .publishing _ [] => { s with phase := .idle }
  | .stop, _ => { s with phase := .idle }
  | _, _ => s

/-- Nothing was posted and nothing was leased. -/
def RunnerState.init : RunnerState := ⟨[], .idle⟩

/-- The state after some actions, in their order. -/
def Runner.run (runner : Runner) (actions : List RunnerAction) : RunnerState :=
  Relational.runFrom runner.step .init actions

end Fleetd.Workflow
