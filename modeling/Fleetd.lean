import Fleetd.Relational.Table
import Fleetd.Relational.Trace
import Fleetd.Guarantees.Consistency
import Fleetd.Guarantees.Redelivery
import Fleetd.Guarantees.Settlement
import Fleetd.Guarantees.Fencing
import Fleetd.Guarantees.Expiry
import Fleetd.Guarantees.Resolution
import Fleetd.Guarantees.Results
import Fleetd.Guarantees.EvidenceFold
import Fleetd.Guarantees.EvidencePages
import Fleetd.Guarantees.ChannelStream
import Fleetd.Guarantees.ClientStream
import Fleetd.Guarantees.GrantBroker
import Fleetd.Guarantees.MessageGrant
import Fleetd.Guarantees.ManagedTurn
import Fleetd.Guarantees.EvidenceAgreement
import Fleetd.Guarantees.TurnTerminal
import Fleetd.Guarantees.EventStream
import Fleetd.Guarantees.TranscriptReplay
import Fleetd.Guarantees.FrameSize
import Fleetd.Guarantees.ReadCursors
import Fleetd.Guarantees.TriggerOccurrences
import Fleetd.Guarantees.Publication
import Fleetd.Guarantees.Interruption
import Fleetd.Guarantees.StartFrame
import Fleetd.Guarantees.SeatLoss
import Fleetd.Guarantees.TranscriptTurns
import Fleetd.Guarantees.PromptAttribution
import Fleetd.Guarantees.Compatibility
import Fleetd.Guarantees.ArmReplay
import Fleetd.Guarantees.AssistantCapture
import Fleetd.Guarantees.PermissionFencing
import Fleetd.Guarantees.RpcCorrelation
import Fleetd.Guarantees.ContentLevel
import Fleetd.Guarantees.Supervision
import Fleetd.Guarantees.Endpoint
import Fleetd.Guarantees.SpanPartition
import Fleetd.Guarantees.TurnContext
import Fleetd.Guarantees.Trajectories
import Fleetd.Guarantees.PageWalk
import Fleetd.Guarantees.Sandbox
import Fleetd.Guarantees.ConversationLanes
import Fleetd.Guarantees.Retirement
import Fleetd.Guarantees.Bystanders
import Fleetd.Guarantees.EffectReplay
import Fleetd.Guarantees.EffectsOnce
import Fleetd.Guarantees.Completions
import Fleetd.Guarantees.Outcomes
import Fleetd.Guarantees.Identities
