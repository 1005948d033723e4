import Fleetd.AcpHost.Session
import Fleetd.Serde.Size

/-!
# Outbound frames

A notification leaves the driver as one JSON-RPC frame on a line of its own. The size of a frame is
the sum of the sizes of its parts and a constant for the kind of the notification.
-/

namespace Fleetd.AcpHost

open Serde (Value stringSize memberSize)
open Harness

/-! ## Writing -/

/-- The line that a frame is written as. -/
def writeFrame (value : Value) : Except DriverError String :=
  let frame := value.print
  if byteLen frame > maxFrameBytes then
    .error (.protocol s!"outbound frame exceeds {maxFrameBytes} bytes")
  else .ok (frame ++ "\n")

/-- The frame of a notification. -/
def notificationFrame (method : String) (params : Value) : Value :=
  .object [("jsonrpc", .string "2.0"), ("method", .string method), ("params", params)]

def writeNotification (notification : Notification) : Except DriverError String :=
  writeFrame (notificationFrame notification.method notification.params)

/-- The size of the frame of a notification. -/
def frameSize (notification : Notification) : Nat :=
  (notificationFrame notification.method notification.params).size

/-- A notification is written if its frame is not too long. -/
theorem writeNotification_isOk (notification : Notification) :
    (writeNotification notification).isOk = true ↔ frameSize notification ≤ maxFrameBytes := by
  have hsize : byteLen (notificationFrame notification.method notification.params).print =
      frameSize notification := rfl
  unfold writeNotification writeFrame
  dsimp only
  rw [hsize]
  split
  · exact iff_of_false Bool.false_ne_true (by omega)
  · exact iff_of_true rfl (by omega)

/-! ## Sizes -/

def fenceSize (fence : ExecutionFence) : Nat :=
  84 + stringSize fence.bindingId + (Value.nat fence.bindingGeneration).size +
    (Value.nat fence.ownerEpoch).size + stringSize fence.invocationId + stringSize fence.fenceToken

def messageSize (message : AssistantMessage) : Nat :=
  75 + (Value.optional message.messageId).size + (Value.array message.content).size +
    (Value.bool message.complete).size + (Value.nat message.firstEventSeq).size +
    (Value.nat message.lastEventSeq).size

/-- The bytes of a list whose items take the given bytes. -/
def listSize (sizes : List Nat) : Nat :=
  (sizes.map (· + 1)).sum + 2 - (if sizes = [] then 0 else 1)

theorem size_array_eq (items : List Value) : (Value.array items).size = listSize (items.map Value.size) := by
  rw [Serde.size_array, listSize, List.map_map]
  simp only [List.map_eq_nil_iff]
  rfl

theorem size_fence (fence : ExecutionFence) : fence.toValue.size = fenceSize fence := by
  have hbinding : stringSize "binding_id" = 12 := by decide
  have hgeneration : stringSize "binding_generation" = 20 := by decide
  have howner : stringSize "owner_epoch" = 13 := by decide
  have hinvocation : stringSize "invocation_id" = 15 := by decide
  have htoken : stringSize "fence_token" = 13 := by decide
  rw [ExecutionFence.toValue, Serde.size_object, if_neg (List.cons_ne_nil _ _), fenceSize]
  simp only [List.map_cons, List.map_nil, List.sum_cons, List.sum_nil, memberSize, Serde.size_string,
    hbinding, hgeneration, howner, hinvocation, htoken]
  omega

theorem size_message (message : AssistantMessage) : message.toValue.size = messageSize message := by
  have hid : stringSize "message_id" = 12 := by decide
  have hcontent : stringSize "content" = 9 := by decide
  have hcomplete : stringSize "complete" = 10 := by decide
  have hfirst : stringSize "first_event_seq" = 17 := by decide
  have hlast : stringSize "last_event_seq" = 16 := by decide
  rw [AssistantMessage.toValue, Serde.size_object, if_neg (List.cons_ne_nil _ _), messageSize]
  simp only [List.map_cons, List.map_nil, List.sum_cons, List.sum_nil, memberSize, hid, hcontent,
    hcomplete, hfirst, hlast]
  omega

/-- What a frame costs besides its parameters. -/
theorem frameSize_eq (notification : Notification) :
    frameSize notification = 37 + stringSize notification.method + notification.params.size := by
  have hversion : stringSize "jsonrpc" = 9 := by decide
  have htwo : stringSize "2.0" = 5 := by decide
  have hmethod : stringSize "method" = 8 := by decide
  have hparams : stringSize "params" = 8 := by decide
  rw [frameSize, notificationFrame, Serde.size_object, if_neg (List.cons_ne_nil _ _)]
  simp only [List.map_cons, List.map_nil, List.sum_cons, List.sum_nil, memberSize, Serde.size_string,
    hversion, htwo, hmethod, hparams]
  omega

theorem frameSize_turnEvent (event : TurnEvent) :
    frameSize (.turnEvent event) = 134 + fenceSize event.fence + (Value.nat event.eventSeq).size +
      (Value.int event.observedAtMs).size + stringSize event.classification + event.rawUpdate.size := by
  have hmethod : stringSize "harness.acp.turn.event" = 24 := by decide
  have hfence : stringSize "fence" = 7 := by decide
  have hseq : stringSize "event_seq" = 11 := by decide
  have hobserved : stringSize "observed_at_ms" = 16 := by decide
  have hclass : stringSize "classification" = 16 := by decide
  have hraw : stringSize "raw_update" = 12 := by decide
  rw [frameSize_eq, Notification.method, Notification.params, TurnEvent.toValue, Serde.size_object,
    if_neg (List.cons_ne_nil _ _), hmethod]
  simp only [List.map_cons, List.map_nil, List.sum_cons, List.sum_nil, memberSize, Serde.size_string,
    hfence, hseq, hobserved, hclass, hraw, size_fence]
  omega

theorem frameSize_permissionRequested (request : PermissionRequested) :
    frameSize (.permissionRequested request) = 152 + fenceSize request.fence +
      stringSize request.permissionId + (Value.nat request.eventSeq).size + request.toolCall.size +
      (Value.array request.options).size + (Value.int request.expiresAtMs).size := by
  have hmethod : stringSize "harness.acp.permission.requested" = 34 := by decide
  have hfence : stringSize "fence" = 7 := by decide
  have hid : stringSize "permission_id" = 15 := by decide
  have hseq : stringSize "event_seq" = 11 := by decide
  have hcall : stringSize "tool_call" = 11 := by decide
  have hoptions : stringSize "options" = 9 := by decide
  have hexpires : stringSize "expires_at_ms" = 15 := by decide
  rw [frameSize_eq, Notification.method, Notification.params, PermissionRequested.toValue,
    Serde.size_object, if_neg (List.cons_ne_nil _ _), hmethod]
  simp only [List.map_cons, List.map_nil, List.sum_cons, List.sum_nil, memberSize, Serde.size_string,
    hfence, hid, hseq, hcall, hoptions, hexpires, size_fence]
  omega

theorem frameSize_transcriptEntry (entry : TranscriptEntry) :
    frameSize (.transcriptEntry entry) = 154 + stringSize entry.sessionRef +
      (Value.nat entry.entrySeq).size + (Value.int entry.observedAtMs).size +
      stringSize entry.classification + entry.rawUpdate.size := by
  have hmethod : stringSize "harness.acp.session.transcript.entry" = 38 := by decide
  have hsession : stringSize "session_ref" = 13 := by decide
  have hseq : stringSize "entry_seq" = 11 := by decide
  have hobserved : stringSize "observed_at_ms" = 16 := by decide
  have hclass : stringSize "classification" = 16 := by decide
  have hraw : stringSize "raw_update" = 12 := by decide
  rw [frameSize_eq, Notification.method, Notification.params, TranscriptEntry.toValue,
    Serde.size_object, if_neg (List.cons_ne_nil _ _), hmethod]
  simp only [List.map_cons, List.map_nil, List.sum_cons, List.sum_nil, memberSize, Serde.size_string,
    hsession, hseq, hobserved, hclass, hraw]
  omega

/-- The bytes of a member that may be left out, with the comma in front of it. -/
def optionalSize (key : Nat) : Option String → Nat
  | some text => key + 2 + stringSize text
  | none => 0

theorem sum_optionalMember (key : String) (text : Option String) :
    ((optionalMember key text).map fun member => memberSize member + 1).sum =
      optionalSize (stringSize key) text := by
  cases text with
  | none => rfl
  | some text =>
    simp only [optionalMember, optionalSize, List.map_cons, List.map_nil, List.sum_cons, List.sum_nil,
      memberSize, Serde.size_string]
    omega

theorem frameSize_transcriptComplete (complete : TranscriptComplete) :
    frameSize (.transcriptComplete complete) = 148 + stringSize complete.sessionRef +
      (Value.nat complete.entryCount).size + (Value.nat complete.observedPayloadBytes).size +
      (Value.bool complete.truncated).size + optionalSize 9 complete.failure := by
  have hmethod : stringSize "harness.acp.session.transcript.complete" = 41 := by decide
  have hsession : stringSize "session_ref" = 13 := by decide
  have hcount : stringSize "entry_count" = 13 := by decide
  have hbytes : stringSize "observed_payload_bytes" = 24 := by decide
  have htruncated : stringSize "truncated" = 11 := by decide
  have hfailure : stringSize "failure" = 9 := by decide
  rw [frameSize_eq, Notification.method, Notification.params, TranscriptComplete.toValue,
    Serde.size_object, if_neg (List.append_ne_nil_of_left_ne_nil (List.cons_ne_nil _ _) _), hmethod,
    List.map_append, List.sum_append, sum_optionalMember, hfailure]
  simp only [List.map_cons, List.map_nil, List.sum_cons, List.sum_nil, memberSize, Serde.size_string,
    hsession, hcount, hbytes, htruncated]
  omega

theorem frameSize_turnTerminal (terminal : Harness.TurnTerminal) :
    frameSize (.turnTerminal terminal) = 228 + fenceSize terminal.fence +
      (Value.nat terminal.lastEventSeq).size + stringSize terminal.stopReason +
      optionalSize 21 terminal.runtimeStopReason +
      stringSize (certaintyStr terminal.executionCertainty) +
      (Value.bool terminal.sessionQuiescent).size +
      stringSize (persistenceStr terminal.sessionPersistence) +
      listSize (terminal.assistantMessages.map messageSize) + terminal.usage.size +
      terminal.rawPromptResponse.size := by
  have hmethod : stringSize "harness.acp.turn.terminal" = 27 := by decide
  have hfence : stringSize "fence" = 7 := by decide
  have hlast : stringSize "last_event_seq" = 16 := by decide
  have hstop : stringSize "stop_reason" = 13 := by decide
  have hruntime : stringSize "runtime_stop_reason" = 21 := by decide
  have hcertainty : stringSize "execution_certainty" = 21 := by decide
  have hquiescent : stringSize "session_quiescent" = 19 := by decide
  have hpersistence : stringSize "session_persistence" = 21 := by decide
  have hmessages : stringSize "assistant_messages" = 20 := by decide
  have husage : stringSize "usage" = 7 := by decide
  have hraw : stringSize "raw_prompt_response" = 21 := by decide
  have hsizes : (terminal.assistantMessages.map AssistantMessage.toValue).map Value.size =
      terminal.assistantMessages.map messageSize := by
    rw [List.map_map]
    exact List.map_congr_left fun message _ => size_message message
  rw [frameSize_eq, Notification.method, Notification.params, Harness.TurnTerminal.toValue,
    Serde.size_object, if_neg (by simp), hmethod, List.map_append, List.sum_append, List.map_append,
    List.sum_append, sum_optionalMember, hruntime]
  simp only [List.map_cons, List.map_nil, List.sum_cons, List.sum_nil, memberSize, Serde.size_string,
    size_array_eq, hsizes, hfence, hlast, hstop, hcertainty, hquiescent, hpersistence, hmessages,
    husage, hraw, size_fence]
  omega

/-! ## Bounds -/

/-- The bytes of a summary of a value that takes the given bytes. -/
def summarySize (size : Nat) : Nat := 119 + (Value.nat size).size

theorem length_utf8Bytes (text : String) : (utf8Bytes text).length = byteLen text := by
  simp [utf8Bytes, byteLen]

/-- The digits of a digest are printed as they are. -/
theorem stringSize_digest [Sha256] [LawfulSha256] (bytes : List UInt8) :
    stringSize ("sha256:" ++ Sha256.hexDigest bytes) = 73 := by
  have hdigits : ∀ c ∈ (Sha256.hexDigest bytes).toList, Serde.charSize c = 1 := by
    have hall : hexDigits.all (Serde.charSize · = 1) = true := by decide
    intro c hc
    exact of_decide_eq_true (List.all_eq_true.mp hall c (LawfulSha256.digits bytes c hc))
  have hleads : ("sha256:".toList.map Serde.charSize).sum = 7 := by decide
  rw [Serde.stringSize_eq, String.toList_append, List.map_append, List.sum_append, hleads,
    List.map_congr_left hdigits]
  simp [LawfulSha256.length]

/-- A value that was bounded takes its own bytes up to the limit, and those of a summary beyond. -/
theorem size_boundJson [Sha256] [LawfulSha256] (value : Value) (limit : Nat) :
    (boundJson value limit).size = if value.size ≤ limit then value.size else summarySize value.size := by
  have htruncated : stringSize "truncated" = 11 := by decide
  have hobserved : stringSize "observed_bytes" = 16 := by decide
  have hsha : stringSize "sha256" = 8 := by decide
  have hlength : (utf8Bytes value.print).length = value.size := length_utf8Bytes value.print
  unfold boundJson
  dsimp only
  rw [hlength]
  split
  · rfl
  · rw [Serde.size_object, if_neg (List.cons_ne_nil _ _), summarySize]
    simp only [List.map_cons, List.map_nil, List.sum_cons, List.sum_nil, memberSize,
      Serde.size_string, Serde.size_bool, htruncated, hobserved, hsha, stringSize_digest, if_true]
    omega

end Fleetd.AcpHost
