import Fleetd.Guarantees.FrameSize
import Fleetd.Guarantees.ManagedTurn
import Fleetd.Guarantees.Publication
import Fleetd.Worker.Envelope

/-!
# The frame that starts a turn

The request that starts a turn quotes the whole envelope of its message, indented, as one string,
so that every quote and every line break of it is escaped twice. Nothing bounds the payload, the
ids and the names in it. Whether the request fits a frame is looked at when it is to be written,
after the invocation was armed: a message that is too large is parked as one whose outcome is not
known, although nothing was sent.
-/

namespace Fleetd.Worker

open Serde (Value stringSize memberSize escapedSize quotedSize embeddedMemberSize)
open Effects Harness AcpHost

/-! ## What is asked of a turn -/

/-- The request that starts a turn, as it would be written. -/
def startFrame (requestId : Nat) (turn : ManagedTurn) : Value :=
  requestFrame requestId startTurnMethod (startTurnRequest turn).toValue

/-- A turn that is armed has a request that can be written; so none is settled because its request
was refused before a byte of it was written. -/
structure StartsWithinFrame (requestId : Nat) (turn : ManagedTurn) : Prop where
  fits : ∀ sink answers, .armed ∈ (runTurn sink turn answers).effects →
    (startFrame requestId turn).size ≤ maxFrameLength
  unwritten : ∀ sink answers (client : HarnessAcpClient) (peer : RpcPeer) reply,
    peer.nextId = requestId →
    answers.start = (client.startTurnCall peer (startTurnRequest turn) reply).map (fun _ => ()) →
    maxFrameLength < (startFrame requestId turn).size →
    ∀ e ∈ (runTurn sink turn answers).effects, e.isSettlement = false

/-! ## What a frame takes -/

/-- What a text that may be missing takes inside a string. -/
def optionalQuotedSize : Option String → Nat
  | some text => quotedSize text
  | none => 4

/-- What the values of a message take, inside a string. -/
def messageFieldsSize (depth : Nat) (message : Message Value) : Nat :=
  (Value.nat message.seq).size + quotedSize message.id + quotedSize message.channelId +
    quotedSize message.senderId + optionalQuotedSize message.recipientId + quotedSize message.kind +
    message.payload.embeddedSize depth + optionalQuotedSize message.correlationId +
    optionalQuotedSize message.causationId + (Value.int message.createdAtMs).size

/-- What the values of a member take, inside a string. -/
def memberFieldsSize (member : ChannelMemberView) : Nat :=
  quotedSize member.channelId + quotedSize member.agentId + quotedSize member.agentName +
    (Value.int member.joinedAtMs).size + quotedSize (deliveryModeStr member.deliveryMode)

/-- What the lines of a list take, inside a string. -/
def linesSize (sizes : List Nat) : Nat :=
  (sizes.map (· + 9)).sum + if sizes = [] then 2 else 7

/-- What the envelope takes, inside a string. -/
def envelopeSize (invocation : Invocation Value) (context : ChannelTurnContext) : Nat :=
  464 + quotedSize invocation.id + (Value.nat invocation.deliveryAttempt).size +
    quotedSize invocation.message.channelId +
    linesSize (context.members.map fun member => memberFieldsSize member + 147) +
    (Value.bool context.membersTruncated).size +
    linesSize (context.recentHistory.map fun message => messageFieldsSize 4 message + 265) +
    (Value.bool context.recentHistoryTruncated).size + messageFieldsSize 2 invocation.message

/-- What the standing instructions take, inside a string. -/
def standingSize : Option String → Nat
  | some instructions => 61 + escapedSize instructions
  | none => 0

/-- What the request takes that starts the turn of a message. -/
def startFrameSize (requestId : Nat) (config : ContinuousWorkerConfig) (adapter : EnvelopeTurnAdapter)
    (opened : OpenedSession) (invocation : Invocation Value) (context : ChannelTurnContext) : Nat :=
  845 + (Value.nat requestId).size + stringSize opened.binding.bindingId +
    (Value.nat opened.binding.bindingGeneration).size + (Value.nat opened.binding.ownerEpoch).size +
    stringSize invocation.id + stringSize invocation.fenceToken + stringSize opened.sessionRef +
    stringSize invocation.agentId + stringSize invocation.message.id +
    stringSize invocation.message.channelId + stringSize invocation.message.senderId +
    (Value.optional invocation.message.correlationId).size +
    (Value.optional invocation.message.causationId).size + config.turnPolicy.toValue.size +
    standingSize adapter.standingInstructions + envelopeSize invocation context

/-! ## Sizes inside the prompt -/

theorem embeddedSize_optional (depth : Nat) (text : Option String) :
    (Value.optional text).embeddedSize depth = optionalQuotedSize text := by
  cases text with
  | some text => exact Serde.embeddedSize_string depth text
  | none => exact Serde.embeddedSize_null depth

theorem embeddedSize_bool_eq (depth : Nat) (value : Bool) :
    (Value.bool value).embeddedSize depth = (Value.bool value).size := by
  rw [Serde.embeddedSize_bool, Serde.size_bool]

theorem embeddedSize_messageValue (depth : Nat) (message : Message Value) :
    (messageValue message).embeddedSize depth =
      messageFieldsSize (depth + 1) message + (22 * depth + 199) := by
  have hseq : quotedSize "seq" = 7 := by decide
  have hid : quotedSize "id" = 6 := by decide
  have hchannel : quotedSize "channel_id" = 14 := by decide
  have hsender : quotedSize "sender_id" = 13 := by decide
  have hrecipient : quotedSize "recipient_id" = 16 := by decide
  have hkind : quotedSize "kind" = 8 := by decide
  have hpayload : quotedSize "payload" = 11 := by decide
  have hcorrelation : quotedSize "correlation_id" = 18 := by decide
  have hcausation : quotedSize "causation_id" = 16 := by decide
  have hcreated : quotedSize "created_at_ms" = 17 := by decide
  rw [messageValue, Serde.embeddedSize_object, if_neg (List.cons_ne_nil _ _), messageFieldsSize]
  simp only [List.map_cons, List.map_nil, List.sum_cons, List.sum_nil, embeddedMemberSize,
    Serde.embeddedSize_nat, Serde.embeddedSize_int, Serde.embeddedSize_string, embeddedSize_optional,
    hseq, hid, hchannel, hsender, hrecipient, hkind, hpayload, hcorrelation, hcausation, hcreated]
  omega

theorem embeddedSize_memberValue (depth : Nat) (member : ChannelMemberView) :
    (memberValue member).embeddedSize depth = memberFieldsSize member + (12 * depth + 111) := by
  have hchannel : quotedSize "channel_id" = 14 := by decide
  have hagent : quotedSize "agent_id" = 12 := by decide
  have hname : quotedSize "agent_name" = 14 := by decide
  have hjoined : quotedSize "joined_at_ms" = 16 := by decide
  have hmode : quotedSize "delivery_mode" = 17 := by decide
  rw [memberValue, Serde.embeddedSize_object, if_neg (List.cons_ne_nil _ _), memberFieldsSize]
  simp only [List.map_cons, List.map_nil, List.sum_cons, List.sum_nil, embeddedMemberSize,
    Serde.embeddedSize_int, Serde.embeddedSize_string, hchannel, hagent, hname, hjoined, hmode]
  omega

/-- An array at the depth of the context takes the lines of its items. -/
theorem embeddedSize_lines (items : List Value) :
    (Value.array items).embeddedSize 2 = linesSize (items.map fun item => item.embeddedSize 3) := by
  rw [Serde.embeddedSize_array, linesSize, List.map_map]
  simp only [List.map_eq_nil_iff]
  rfl

theorem embeddedSize_envelope (invocation : Invocation Value) (context : ChannelTurnContext) :
    (envelope invocation context).embeddedSize 0 = envelopeSize invocation context := by
  have hinvocation : quotedSize "invocation" = 14 := by decide
  have hid : quotedSize "id" = 6 := by decide
  have hattempt : quotedSize "delivery_attempt" = 20 := by decide
  have hchannel : quotedSize "channel" = 11 := by decide
  have hmembers : quotedSize "members" = 11 := by decide
  have hmembersTruncated : quotedSize "members_truncated" = 21 := by decide
  have hhistory : quotedSize "recent_history" = 18 := by decide
  have hhistoryTruncated : quotedSize "recent_history_truncated" = 28 := by decide
  have hmessage : quotedSize "message" = 11 := by decide
  rw [envelope, Serde.embeddedSize_object, if_neg (List.cons_ne_nil _ _), envelopeSize]
  simp only [List.map_cons, List.map_nil, List.sum_cons, List.sum_nil, embeddedMemberSize,
    Serde.embeddedSize_object, if_neg (List.cons_ne_nil _ _), embeddedSize_messageValue,
    embeddedSize_lines, List.map_map, Function.comp_def, embeddedSize_memberValue,
    Serde.embeddedSize_nat, Serde.embeddedSize_string, embeddedSize_bool_eq, hinvocation, hid,
    hattempt, hchannel, hmembers, hmembersTruncated, hhistory, hhistoryTruncated, hmessage,
    Nat.reduceAdd, Nat.reduceMul]
  omega

theorem escapedSize_standing (instructions : Option String) :
    escapedSize (standing instructions) = standingSize instructions := by
  have hintroduction : escapedSize standingIntroduction = 61 := by
    rw [escapedSize, standingIntroduction, Serde.toList_literal rfl]
    decide +kernel
  cases instructions with
  | none => rfl
  | some instructions => rw [standing, Serde.escapedSize_append, hintroduction, standingSize]

theorem stringSize_promptText (adapter : EnvelopeTurnAdapter) (invocation : Invocation Value)
    (context : ChannelTurnContext) :
    stringSize (promptText adapter invocation context) =
      526 + standingSize adapter.standingInstructions + envelopeSize invocation context := by
  have hintroduction : escapedSize promptIntroduction = 520 := by
    unfold promptIntroduction
    apply Eq.trans
    · iterate 7 apply Serde.escapedSize_append_of
      all_goals exact Serde.escapedSize_literal rfl (by decide +kernel)
    · rfl
  have hbreak : escapedSize "\n\n" = 4 := by decide
  have henvelope : escapedSize ((envelope invocation context).printPretty 0) =
      envelopeSize invocation context := embeddedSize_envelope invocation context
  rw [Serde.stringSize_eq_escapedSize, promptText, Serde.escapedSize_append, Serde.escapedSize_append,
    Serde.escapedSize_append, hintroduction, escapedSize_standing, hbreak, henvelope]
  omega

/-! ## The frame -/

theorem size_source (source : TurnSource) :
    source.toValue.size = 88 + stringSize source.agentId + stringSize source.messageId +
      stringSize source.channelId + stringSize source.senderId +
      (Value.optional source.correlationId).size + (Value.optional source.causationId).size := by
  have hagent : stringSize "agent_id" = 10 := by decide
  have hmessage : stringSize "message_id" = 12 := by decide
  have hchannel : stringSize "channel_id" = 12 := by decide
  have hsender : stringSize "sender_id" = 11 := by decide
  have hcorrelation : stringSize "correlation_id" = 16 := by decide
  have hcausation : stringSize "causation_id" = 14 := by decide
  rw [TurnSource.toValue, Serde.size_object, if_neg (List.cons_ne_nil _ _)]
  simp only [List.map_cons, List.map_nil, List.sum_cons, List.sum_nil, memberSize, Serde.size_string,
    hagent, hmessage, hchannel, hsender, hcorrelation, hcausation]
  omega

/-- A prompt of one text costs the brackets around it. -/
theorem size_prompt (text : String) :
    (Value.array ([PromptBlock.text text].map PromptBlock.toValue)).size = 25 + stringSize text := by
  have htype : stringSize "type" = 6 := by decide
  have htext : stringSize "text" = 6 := by decide
  simp only [List.map_cons, List.map_nil, Serde.size_array, if_neg (List.cons_ne_nil _ _),
    PromptBlock.toValue, Serde.size_object, List.sum_cons, List.sum_nil, memberSize,
    Serde.size_string, htype, htext]
  omega

theorem size_startTurn {request : StartTurn} {text : String} (h : request.prompt = [.text text]) :
    request.toValue.size = 80 + fenceSize request.fence + stringSize request.sessionRef +
      request.source.toValue.size + stringSize text + request.policy.toValue.size := by
  have hfence : stringSize "fence" = 7 := by decide
  have hsession : stringSize "session_ref" = 13 := by decide
  have hsource : stringSize "source" = 8 := by decide
  have hprompt : stringSize "prompt" = 8 := by decide
  have hpolicy : stringSize "policy" = 8 := by decide
  rw [StartTurn.toValue, h, Serde.size_object, if_neg (List.cons_ne_nil _ _)]
  simp only [List.map_cons, List.map_nil, List.sum_cons, List.sum_nil, memberSize, Serde.size_string,
    size_fence, hfence, hsession, hsource, hprompt, hpolicy]
  have hblocks := size_prompt text
  simp only [List.map_cons, List.map_nil] at hblocks
  omega

theorem size_requestFrame (id : Nat) (method : String) (params : Value) :
    (requestFrame id method params).size =
      43 + (Value.nat id).size + stringSize method + params.size := by
  have hversion : stringSize "jsonrpc" = 9 := by decide
  have htwo : stringSize "2.0" = 5 := by decide
  have hid : stringSize "id" = 4 := by decide
  have hmethod : stringSize "method" = 8 := by decide
  have hparams : stringSize "params" = 8 := by decide
  rw [requestFrame, Serde.size_object, if_neg (List.cons_ne_nil _ _)]
  simp only [List.map_cons, List.map_nil, List.sum_cons, List.sum_nil, memberSize, Serde.size_string,
    hversion, htwo, hid, hmethod, hparams]
  omega

/-- The request that starts the turn of a message, as a sum over everything in it. -/
theorem size_startFrame (requestId : Nat) (config : ContinuousWorkerConfig)
    (adapter : EnvelopeTurnAdapter) (generationId : String) (opened : OpenedSession)
    (invocation : Invocation Value) (context : ChannelTurnContext) :
    (startFrame requestId (managedTurn config generationId opened invocation
      (prepareEnvelope adapter invocation context))).size =
      startFrameSize requestId config adapter opened invocation context := by
  have hmethod : stringSize startTurnMethod = 24 := by decide
  have hprompt : (startTurnRequest (managedTurn config generationId opened invocation
      (prepareEnvelope adapter invocation context))).prompt =
        [.text (promptText adapter invocation context)] := rfl
  rw [startFrame, size_requestFrame, hmethod,
    size_startTurn hprompt, stringSize_promptText, size_source, startFrameSize]
  simp only [startTurnRequest, managedTurn, fenceSize]
  omega

/-! ## Turns -/

/-- A frame that is too long is refused before anything is written. -/
theorem call_tooLong {α : Type} {requestId : Nat} {turn : ManagedTurn} (hid : requestId ≠ u64Max)
    (h : maxFrameLength < (startFrame requestId turn).size) (reply : Except PluginError α) :
    (⟨requestId, none⟩ : RpcPeer).call startTurnMethod (startTurnRequest turn).toValue reply =
      ⟨.error (.protocol "outbound JSON-RPC frame exceeds 1048576 bytes"), none⟩ := by
  rw [startFrame] at h
  rw [RpcPeer.call, if_neg hid, if_pos h]
  rfl

/-- A turn without grants whose start fails is parked at once. -/
theorem runTurn_startFailed {turn : ManagedTurn} {answers : TurnAnswers} {error : PluginError}
    {delivery : BlockedDelivery Value} (hvalid : validateTurn turn = .ok ()) (hgrants : turn.grants = 0)
    (hdescribe : answers.describe = .ok ()) (harm : answers.arm = .ok ())
    (hmark : answers.markUncertain = .ok ()) (hblock : answers.block = .ok delivery)
    (hstart : answers.start = .error error) :
    (runTurn false turn answers).effects = [.armed, .startRequested (startTurnRequest turn),
      .markedUncertain (boundedReason ("turn start failed: " ++ error.display)),
      .deliveryBlocked (boundedReason ("turn start failed: " ++ error.display))] := by
  simp [runTurn, hvalid, hgrants, hdescribe, harm, hmark, hblock, hstart, activateFrom, revokeGrants,
    blockAfterArm, block, Except.mapError, offer]

/-- A harness and a store that let a turn be armed, and refuse everything after it. -/
def armingAnswers : TurnAnswers where
  describe := .ok ()
  arm := .ok ()
  activate _ := .ok ()
  start := .error (.protocol "unused")
  arrivals := []
  interruption := none
  cancel := .error (.protocol "unused")
  cancelArrivals := []
  markUncertain := .error (.conflict "unused")
  block := .error (.conflict "unused")
  complete := .error (.conflict "unused")

/-- Every valid turn can be armed. -/
theorem runTurn_armingAnswers {turn : ManagedTurn} (h : validateTurn turn = .ok ()) :
    .armed ∈ (runTurn false turn armingAnswers).effects :=
  (runTurn_armed_iff false turn armingAnswers).2 ⟨h, rfl, rfl⟩

/-- For every message, every context, every standing instruction and every seat: a turn that is
armed has a request that can be written exactly if the turn is refused before it is armed, or the
parts of its request take no more than a frame together. -/
theorem startsWithinFrame_iff (requestId : Nat) (config : ContinuousWorkerConfig)
    (adapter : EnvelopeTurnAdapter) (generationId : String) (opened : OpenedSession)
    (invocation : Invocation Value) (context : ChannelTurnContext) :
    StartsWithinFrame requestId (managedTurn config generationId opened invocation
        (prepareEnvelope adapter invocation context)) ↔
      validateTurn (managedTurn config generationId opened invocation
        (prepareEnvelope adapter invocation context)) ≠ .ok () ∨
      startFrameSize requestId config adapter opened invocation context ≤ maxFrameLength := by
  rw [← size_startFrame requestId config adapter generationId opened invocation context]
  constructor
  · intro h
    by_cases hvalid : validateTurn (managedTurn config generationId opened invocation
        (prepareEnvelope adapter invocation context)) = .ok ()
    · exact .inr (h.fits false armingAnswers (runTurn_armingAnswers hvalid))
    · exact .inl hvalid
  · intro h
    have hfits : ∀ sink answers, .armed ∈ (runTurn sink (managedTurn config generationId opened
        invocation (prepareEnvelope adapter invocation context)) answers).effects →
        (startFrame requestId (managedTurn config generationId opened invocation
          (prepareEnvelope adapter invocation context))).size ≤ maxFrameLength := by
      intro sink answers harmed
      obtain hinvalid | hfits := h
      · exact absurd ((runTurn_armed_iff sink _ answers).1 harmed).1 hinvalid
      · exact hfits
    refine ⟨hfits, fun sink answers client peer reply _ _ hlong e he => ?_⟩
    have hunarmed : .armed ∉ (runTurn sink (managedTurn config generationId opened
        invocation (prepareEnvelope adapter invocation context)) answers).effects :=
      fun harmed => absurd (hfits sink answers harmed) (Nat.not_le.2 hlong)
    rw [runTurn_unarmed hunarmed] at he
    cases he

/-! ## A message that is too large -/

/-- A seat for the agent of the sample. -/
def sampleSeat : ContinuousWorkerConfig where
  agentId := "b"
  sandboxProfileDigest := none
  workingDirectory := ⟨"/work", true, true⟩
  additionalDirectories := []
  mcpGrants := []
  turnGrants := 0
  compatibilityDigest := none
  leaseDuration := 600000 * 1000000
  pollInterval := 1000 * 1000000
  interruptPollInterval := 1000 * 1000000
  restartBackoff := 1000 * 1000000
  preArmRetryDelay := 0
  turnPolicy := ⟨60000, 300000, 10000, 1024, "controller", ⟨10, "observe_then_cancel"⟩, none⟩
  permissionPolicy := .deny
  trajectorySink := false

theorem byteLen_standing_none :
    ∀ text ∈ (none : Option String), byteLen text ≤ maxStandingInstructionsBytes := by
  intro text hnone
  cases hnone

/-- An adapter for the messages of the sample. -/
def sampleAdapter : EnvelopeTurnAdapter where
  resultKind := "result"
  inboundAcceptance := ⟨1, ["work"], by decide, by decide, by decide⟩
  standingInstructions := none
  resultKindGiven := by decide
  resultKindBounded := by decide
  standingBounded := byteLen_standing_none

/-- A message with a payload of one mebibyte. -/
def longMessage : Message Value where
  seq := 2
  id := "m2"
  channelId := "c"
  senderId := "a"
  recipientId := some "b"
  kind := "work"
  payload := .string (longText 1048576)
  correlationId := none
  causationId := none
  createdAtMs := 4

/-- The request that the message is appended by. -/
def longInput : CreateMessage Value :=
  ⟨"a", none, some "b", "work", .string (longText 1048576), none, none⟩

/-- The reserved delivery of the message. -/
def longInvocation : Invocation Value :=
  { sampleManagedTurn.invocation with message := longMessage }

/-- The context of the message in the sample's channel. -/
def longContext : ChannelTurnContext where
  members := [⟨"c", "b", "bob", 1, .inbox⟩, ⟨"c", "a", "alice", 1, .inbox⟩]
  membersTruncated := false
  recentHistory := [⟨1, "m", "c", "a", some "b", "work", .bool true, some "corr", none, 2⟩]
  recentHistoryTruncated := false

/-- The turn of the message. -/
def longTurn : ManagedTurn :=
  managedTurn sampleSeat "g" ⟨⟨"B", 1, 1⟩, "ref"⟩ longInvocation
    (prepareEnvelope sampleAdapter longInvocation longContext)

/-- A payload of a mebibyte does not fit. -/
theorem longTurn_long : maxFrameLength < (startFrame 7 longTurn).size := by
  have hquoted := Serde.le_quotedSize (longText 1048576)
  rw [utf8ByteSize_longText] at hquoted
  have hpayload : longMessage.payload.embeddedSize 2 = quotedSize (longText 1048576) :=
    Serde.embeddedSize_string 2 _
  have hmessage : longInvocation.message = longMessage := rfl
  rw [longTurn, size_startFrame, startFrameSize, envelopeSize, messageFieldsSize, hmessage, hpayload,
    maxFrameLength]
  omega

/-- The idle client checks nothing that the turn does not meet, and passes the answer on. -/
theorem startTurnCall_longTurn (reply : Except PluginError StartTurnResult) :
    (⟨none⟩ : HarnessAcpClient).startTurnCall ⟨7, none⟩ (startTurnRequest longTurn) reply =
      .error (.protocol "outbound JSON-RPC frame exceeds 1048576 bytes") := by
  have hfence : validateFence (startTurnRequest longTurn).fence = .ok () := by decide +kernel
  have hsession : validateSessionRef (startTurnRequest longTurn).sessionRef = .ok () := by
    decide +kernel
  have hsource : validateTurnSource (startTurnRequest longTurn).source = .ok () := by decide +kernel
  have hprompt : (startTurnRequest longTurn).prompt ≠ [] := List.cons_ne_nil _ _
  have hpolicy : validatePolicy (startTurnRequest longTurn).policy = .ok () := by decide +kernel
  rw [HarnessAcpClient.startTurnCall, call_tooLong (by decide) longTurn_long,
    HarnessAcpClient.startTurn, hfence, hsession, hsource, hpolicy, if_neg hprompt]
  rfl

set_option maxRecDepth 100000 in
/-- The store accepts the message, and the worker of a valid seat prepares its turn. Its request is
refused before a byte is written, after the invocation was armed, and the delivery is parked. -/
theorem unwritten_parked_longTurn :
    validateConfig sampleSeat = .ok () ∧
      EnvelopeTurnAdapter.new "result" ["work"] = .ok sampleAdapter ∧
      (∃ s, appendMessageIdempotent "c" longInput "m2" 4 (run sampleSetup) =
          .ok (⟨longMessage, true⟩, s) ∧
        (channelTurnContext longInvocation s).toOption.map Prod.fst = some longContext) ∧
      (∀ reply : Except PluginError StartTurnResult, ((⟨7, none⟩ : RpcPeer).call startTurnMethod
        (startTurnRequest longTurn).toValue reply).written = none) ∧
      (∀ reply, (runTurn false longTurn { lostHarness with
          start := ((⟨none⟩ : HarnessAcpClient).startTurnCall ⟨7, none⟩ (startTurnRequest longTurn)
            reply).map fun _ => () }).effects =
        [.armed, .startRequested (startTurnRequest longTurn),
          .markedUncertain (boundedReason "turn start failed: plugin protocol error: outbound JSON-RPC frame exceeds 1048576 bytes"),
          .deliveryBlocked (boundedReason "turn start failed: plugin protocol error: outbound JSON-RPC frame exceeds 1048576 bytes")]) ∧
      ¬ StartsWithinFrame 7 longTurn := by
  have hvalid : validateTurn longTurn = .ok () := by decide +kernel
  refine ⟨by decide +kernel, rfl, ⟨_, rfl, ?_⟩, fun reply => ?_, fun reply => ?_, fun h => ?_⟩
  · decide +kernel
  · rw [call_tooLong (by decide) longTurn_long]
  · rw [startTurnCall_longTurn reply]
    exact @runTurn_startFailed longTurn
      { lostHarness with start := .error (.protocol "outbound JSON-RPC frame exceeds 1048576 bytes") }
      _ _ hvalid rfl rfl rfl rfl rfl rfl
  · exact absurd (h.fits false armingAnswers (runTurn_armingAnswers hvalid))
      (Nat.not_le.2 longTurn_long)

end Fleetd.Worker
