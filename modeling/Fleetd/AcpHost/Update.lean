import Mathlib.Data.List.AList
import Fleetd.Harness.Client

/-!
# Streamed session updates

What the lock of the ACP driver guards, and how an update of the inner runtime is folded into it.
An update that arrives during a replay becomes a transcript entry; otherwise it is numbered as the
next event of the active turn, and what the assistant says is captured up to the bound of the turn.

A turn holds the sending side of the channels its monitor listens to; `watch` is the number of that
monitor. Likewise `replay` is the number of the task that a capture belongs to.
-/

namespace Fleetd.AcpHost

open Serde (Value)
open Harness

def maxTranscriptEntries : Nat := 10000
def maxTranscriptBytes : Nat := 8 * 1024 * 1024

inductive DriverError
  | invalidConfig (message : String)
  | protocol (message : String)
  | runtime (message : String)
  | json (message : String)
  | io (message : String)
  deriving DecidableEq, Repr

/-- Bounds and running totals of one transcript replay. -/
structure TranscriptCapture where
  nextEntrySeq : Nat
  entryCount : Nat
  observedPayloadBytes : Nat
  truncated : Bool
  replay : Nat
  deriving DecidableEq, Repr

structure ActiveTurn where
  fence : ExecutionFence
  nextEventSeq : Nat
  policy : TurnPolicy
  capturedBytes : Nat
  assistantMessages : List AssistantMessage
  toolCalls : Nat
  usage : Value
  watch : Nat
  deriving DecidableEq, Repr

structure SessionState where
  binding : Binding
  cwd : String
  additionalDirectories : List String
  mcpGrants : List String
  active : Option ActiveTurn
  capturing : Option TranscriptCapture
  deriving DecidableEq, Repr

/-- A request that waits for an answer; `response` is the number of its handler. -/
structure PendingPermission where
  fence : ExecutionFence
  response : Nat
  deriving DecidableEq, Repr

structure SharedState where
  sessions : AList fun _ : String => SessionState
  permissions : AList fun _ : String => PendingPermission

def SharedState.default : SharedState := ⟨∅, ∅⟩

/-! ## Classification and bounds -/

def classifyUpdate (update : Value) : String :=
  match update.getStr "sessionUpdate" with
  | some "user_message_chunk" => "user_message_content"
  | some "agent_message_chunk" => "agent_message_content"
  | some "agent_thought_chunk" => "reasoning_content"
  | some "tool_call" => "tool_call"
  | some "tool_call_update" => "tool_call_update"
  | some "plan" => "plan_update"
  | some "usage_update" => "usage"
  | some "session_info_update" => "metadata"
  | some "available_commands_update" => "metadata"
  | some "current_mode_update" => "metadata"
  | some "config_option_update" => "metadata"
  | _ => "unknown"

/-- A value, or a summary of it if its text is longer than the limit. -/
def boundJson [Sha256] (value : Value) (limit : Nat) : Value :=
  let bytes := utf8Bytes value.print
  if bytes.length ≤ limit then value
  else .object [
    ("truncated", .bool true),
    ("observed_bytes", .nat bytes.length),
    ("sha256", .string ("sha256:" ++ Sha256.hexDigest bytes))]

/-! ## Assistant messages -/

/-- The identifier that a chunk of an agent message carries. -/
def chunkMessageId (update : Value) : Except DriverError (Option String) :=
  match update.get "messageId" with
  | none => .ok none
  | some .null => .ok none
  | some (.string id) => .ok (some id)
  | some _ => .error (.protocol "agent messageId must be a string or null")

/-- What is kept of a chunk, the bytes captured afterwards, and whether it is kept whole. -/
structure CapturedContent where
  kept : Option Value
  capturedBytes : Nat
  whole : Bool
  deriving DecidableEq, Repr

/-- What is kept of a chunk under the limit. -/
def captureContent (limit capturedBytes : Nat) (content : Value) :
    Except DriverError CapturedContent :=
  let remaining := limit - capturedBytes
  if content.getStr "type" = some "text" then
    match content.getStr "text" with
    | none => .error (.protocol "agent text chunk omitted text")
    | some text =>
      if byteLen text ≤ remaining then .ok ⟨some content, capturedBytes + byteLen text, true⟩
      else
        let kept := truncateUtf8 remaining text
        .ok ⟨if kept = "" then none else some (content.insert "text" (.string kept)), limit, false⟩
  else
    let encoded := byteLen content.print
    if encoded ≤ remaining then .ok ⟨some content, capturedBytes + encoded, true⟩
    else .ok ⟨none, limit, false⟩

/-- Changes the last message. -/
def modifyLast (f : AssistantMessage → AssistantMessage) (messages : List AssistantMessage) :
    List AssistantMessage :=
  messages.dropLast ++ messages.getLast?.toList.map f

/-- Whether a chunk starts a message of its own. -/
def startsNewMessage (messages : List AssistantMessage) (messageId : Option String) : Bool :=
  messages.getLast?.all fun message => decide (message.messageId ≠ messageId)

/-- Whether a chunk names an earlier message again. -/
def reappears (messages : List AssistantMessage) (messageId : Option String) : Bool :=
  messageId.isSome && messages.any fun message => decide (message.messageId = messageId)

/-- Captures a chunk for the message it belongs to, which is the last one. -/
def captureChunk (active : ActiveTurn) (eventSeq : Nat) (content : Value) :
    ActiveTurn × Except DriverError Unit :=
  let active := { active with
    assistantMessages := modifyLast (fun message => { message with lastEventSeq := eventSeq })
      active.assistantMessages }
  match captureContent active.policy.maxCapturedOutputBytes active.capturedBytes content with
  | .error error => (active, .error error)
  | .ok captured =>
    ({ active with
      capturedBytes := captured.capturedBytes
      assistantMessages := modifyLast (fun message => { message with
        content := message.content ++ captured.kept.toList
        complete := message.complete && captured.whole }) active.assistantMessages }, .ok ())

/-- Folds one update into the evidence of a turn. -/
def captureUpdate (active : ActiveTurn) (eventSeq : Nat) (update : Value) :
    ActiveTurn × Except DriverError Unit :=
  let kind := update.getStr "sessionUpdate"
  let active := if kind = some "usage_update" then { active with usage := update } else active
  if kind ≠ some "agent_message_chunk" then (active, .ok ())
  else
    match chunkMessageId update with
    | .error error => (active, .error error)
    | .ok messageId =>
      match update.get "content" with
      | none => (active, .error (.protocol "agent message chunk omitted content"))
      | some content =>
        if startsNewMessage active.assistantMessages messageId = true then
          if reappears active.assistantMessages messageId = true then
            (active, .error (.protocol
              ("agent messageId " ++ messageId.getD "" ++ " reappeared after a different message")))
          else
            captureChunk { active with
              assistantMessages := active.assistantMessages ++
                [⟨messageId, [], true, eventSeq, eventSeq⟩] } eventSeq content
        else captureChunk active eventSeq content

/-! ## Transcript entries -/

/-- Folds one replayed update into the capture, or refuses it past a bound. -/
def captureTranscriptEntry (capture : TranscriptCapture) (sessionRef : String) (update : Value)
    (now : Int) : TranscriptCapture × Option TranscriptEntry :=
  if capture.truncated = true then (capture, none)
  else
    let encoded := byteLen update.print
    if capture.entryCount ≥ maxTranscriptEntries ∨
        min (capture.observedPayloadBytes + encoded) u64Max > maxTranscriptBytes then
      ({ capture with truncated := true }, none)
    else
      ({ capture with
        nextEntrySeq := min (capture.nextEntrySeq + 1) u64Max
        entryCount := min (capture.entryCount + 1) u64Max
        observedPayloadBytes := min (capture.observedPayloadBytes + encoded) u64Max },
      some {
        sessionRef
        entrySeq := capture.nextEntrySeq
        observedAtMs := now
        classification := classifyUpdate update
        rawUpdate := update })

/-! ## Handling -/

/-- What a notification is about: a turn or a replay, by its number. -/
inductive Subject
  | turn (number : Nat)
  | replay (number : Nat)
  deriving DecidableEq, Repr

/-- The task that waits for a notification to be sent. -/
inductive Sender
  | update
  | request (handler : Nat)
  | monitor (number : Nat)
  | replay (number : Nat)
  deriving DecidableEq, Repr

/-- A notification on its way to the channel. -/
structure Outbound where
  subject : Subject
  sender : Sender
  notification : Notification
  deriving DecidableEq, Repr

/-- What the handler of an update leaves when it releases the lock: a notification to be sent, and
a reason that is put on the cancellation channel of a monitor. -/
structure UpdateHandled where
  shared : SharedState
  posted : Option Outbound
  cancellation : Option (Nat × String)
  result : Except DriverError Unit

/-- An update that changes nothing. -/
def UpdateHandled.unchanged (shared : SharedState) (result : Except DriverError Unit) :
    UpdateHandled :=
  ⟨shared, none, none, result⟩

section
variable [Sha256]

/-- Numbers an update and folds it into the active turn. -/
def foldUpdate (active : ActiveTurn) (update : Value) (now : Int) :
    ActiveTurn × Except DriverError TurnEvent :=
  if u64Max < active.nextEventSeq + 1 then (active, .error (.protocol "event sequence overflowed"))
  else
    let eventSeq := active.nextEventSeq
    match captureUpdate { active with nextEventSeq := active.nextEventSeq + 1 } eventSeq update with
    | (active, .error error) => (active, .error error)
    | (active, .ok ()) =>
      let classification := classifyUpdate update
      ({ active with
        toolCalls := if classification = "tool_call" then min (active.toolCalls + 1) u64Max
          else active.toolCalls },
      .ok {
        fence := active.fence
        eventSeq
        observedAtMs := now
        classification
        rawUpdate := boundJson update active.policy.maxCapturedOutputBytes })

/-- The part of a session update that is handled under the lock. -/
def handleSessionUpdate (raw : Value) (now : Int) (shared : SharedState) : UpdateHandled :=
  match raw.getStr "sessionId" with
  | none => .unchanged shared (.error (.protocol "session/update omitted sessionId"))
  | some sessionRef =>
    match raw.get "update" with
    | none => .unchanged shared (.error (.protocol "session/update omitted update"))
    | some update =>
      match shared.sessions.lookup sessionRef with
      | none => .unchanged shared (.ok ())
      | some session =>
        match session.capturing, session.active with
        | some capture, _ =>
          let (capture, entry) := captureTranscriptEntry capture sessionRef update now
          { shared := { shared with
              sessions := shared.sessions.insert sessionRef { session with capturing := some capture } }
            posted := entry.map fun entry =>
              ⟨.replay capture.replay, .update, .transcriptEntry entry⟩
            cancellation := none
            result := .ok () }
        | none, none => .unchanged shared (.ok ())
        | none, some active =>
          let (active, event) := foldUpdate active update now
          { shared := { shared with
              sessions := shared.sessions.insert sessionRef { session with active := some active } }
            posted := event.toOption.map fun event =>
              ⟨.turn active.watch, .update, .turnEvent event⟩
            cancellation := event.toOption.bind fun _ =>
              if active.toolCalls > active.policy.toolBudget.limit then
                some (active.watch, "tool_budget")
              else none
            result := event.map fun _ => () }

end

/-! ## What an update keeps -/

/-- Two records of one turn. -/
structure ActiveTurn.SameTurn (a b : ActiveTurn) : Prop where
  fence : a.fence = b.fence
  policy : a.policy = b.policy
  watch : a.watch = b.watch

/-- Messages whose events are numbered below a bound. -/
def MessagesWithin (bound : Nat) (messages : List AssistantMessage) : Prop :=
  ∀ message ∈ messages, 0 < message.firstEventSeq ∧
    message.firstEventSeq ≤ message.lastEventSeq ∧ message.lastEventSeq < bound

/-- A member of a list whose last member was changed. -/
theorem mem_modifyLast {f : AssistantMessage → AssistantMessage} {messages : List AssistantMessage}
    {message : AssistantMessage} (h : message ∈ modifyLast f messages) :
    message ∈ messages ∨ ∃ last ∈ messages, message = f last := by
  rw [modifyLast, List.mem_append, List.mem_map] at h
  obtain hmem | ⟨last, hlast, rfl⟩ := h
  · exact .inl (List.dropLast_subset _ hmem)
  · rw [Option.mem_toList] at hlast
    exact .inr ⟨last, List.mem_of_getLast? hlast, rfl⟩

theorem captureChunk_keeps (active : ActiveTurn) (eventSeq : Nat) (content : Value) :
    (captureChunk active eventSeq content).1.SameTurn active ∧
      (captureChunk active eventSeq content).1.nextEventSeq = active.nextEventSeq := by
  unfold captureChunk
  dsimp only
  split
  · exact ⟨⟨rfl, rfl, rfl⟩, rfl⟩
  · exact ⟨⟨rfl, rfl, rfl⟩, rfl⟩

/-- A chunk that is captured under the next number belongs to a message that ends there. -/
theorem captureChunk_within {active : ActiveTurn} {eventSeq : Nat} (content : Value)
    (h : ∀ message ∈ active.assistantMessages, 0 < message.firstEventSeq ∧
      message.firstEventSeq ≤ message.lastEventSeq ∧ message.lastEventSeq ≤ eventSeq) :
    MessagesWithin (eventSeq + 1) (captureChunk active eventSeq content).1.assistantMessages := by
  have hmoved : ∀ message ∈ modifyLast (fun message => { message with lastEventSeq := eventSeq })
      active.assistantMessages, 0 < message.firstEventSeq ∧
        message.firstEventSeq ≤ message.lastEventSeq ∧ message.lastEventSeq < eventSeq + 1 := by
    intro message hmem
    obtain hmem | ⟨last, hlast, rfl⟩ := mem_modifyLast hmem
    · have := h message hmem
      omega
    · have := h last hlast
      exact ⟨this.1, by dsimp only; omega, by dsimp only; omega⟩
  unfold captureChunk
  dsimp only
  split
  · exact hmoved
  · intro message hmem
    obtain hmem | ⟨last, hlast, rfl⟩ := mem_modifyLast hmem
    · exact hmoved message hmem
    · exact hmoved last hlast

theorem captureUpdate_keeps (active : ActiveTurn) (eventSeq : Nat) (update : Value) :
    (captureUpdate active eventSeq update).1.SameTurn active ∧
      (captureUpdate active eventSeq update).1.nextEventSeq = active.nextEventSeq := by
  have hused : ∀ used : ActiveTurn, used = (if update.getStr "sessionUpdate" = some "usage_update"
      then { active with usage := update } else active) →
      used.SameTurn active ∧ used.nextEventSeq = active.nextEventSeq := by
    intro used hused
    split at hused <;> rw [hused] <;> exact ⟨⟨rfl, rfl, rfl⟩, rfl⟩
  unfold captureUpdate
  dsimp only
  generalize hgen : (if update.getStr "sessionUpdate" = some "usage_update"
      then { active with usage := update } else active) = used
  obtain ⟨hsame, hnext⟩ := hused used hgen.symm
  split
  · exact ⟨hsame, hnext⟩
  · split
    · exact ⟨hsame, hnext⟩
    · split
      · exact ⟨hsame, hnext⟩
      · split
        · split
          · exact ⟨hsame, hnext⟩
          · obtain ⟨hchunk, hseq⟩ := captureChunk_keeps _ eventSeq _
            exact ⟨⟨hchunk.fence.trans hsame.fence, hchunk.policy.trans hsame.policy,
              hchunk.watch.trans hsame.watch⟩, hseq.trans hnext⟩
        · obtain ⟨hchunk, hseq⟩ := captureChunk_keeps used eventSeq _
          exact ⟨⟨hchunk.fence.trans hsame.fence, hchunk.policy.trans hsame.policy,
            hchunk.watch.trans hsame.watch⟩, hseq.trans hnext⟩

/-- An update that is no chunk of an agent message, or a well-formed one that does not name an
earlier message again. -/
def Capturable (active : ActiveTurn) (update : Value) : Prop :=
  update.getStr "sessionUpdate" = some "agent_message_chunk" →
    ∃ messageId content, chunkMessageId update = .ok messageId ∧ update.get "content" = some content ∧
      (content.getStr "type" = some "text" → content.getStr "text" ≠ none) ∧
      ¬ (startsNewMessage active.assistantMessages messageId = true ∧
        reappears active.assistantMessages messageId = true)

/-- A chunk is captured unless it is a text without a text. -/
theorem captureChunk_ok_iff (active : ActiveTurn) (eventSeq : Nat) (content : Value) :
    (captureChunk active eventSeq content).2 = .ok () ↔
      (content.getStr "type" = some "text" → content.getStr "text" ≠ none) := by
  unfold captureChunk captureContent
  dsimp only
  by_cases htype : content.getStr "type" = some "text"
  · cases htext : content.getStr "text" with
    | none => simp [htype]
    | some text =>
      simp only [htype, if_true]
      split
      · rename_i heq
        split at heq <;> cases heq
      · simp
  · simp only [htype, if_false]
    split
    · rename_i heq
      split at heq <;> cases heq
    · simp

/-- When an update is captured. -/
theorem captureUpdate_ok_iff (active : ActiveTurn) (eventSeq : Nat) (update : Value) :
    (captureUpdate active eventSeq update).2 = .ok () ↔ Capturable active update := by
  unfold captureUpdate Capturable
  by_cases hkind : update.getStr "sessionUpdate" = some "agent_message_chunk"
  · have husage : update.getStr "sessionUpdate" ≠ some "usage_update" := by
      rw [hkind]
      decide
    simp only [hkind, ne_eq, not_true_eq_false, if_false, true_imp_iff]
    cases hid : chunkMessageId update with
    | error error => simp
    | ok messageId =>
      cases hcontent : update.get "content" with
      | none => simp
      | some content =>
        by_cases hstarts : startsNewMessage active.assistantMessages messageId = true
        · by_cases hreappears : reappears active.assistantMessages messageId = true
          · simp [hstarts, hreappears]
          · simp [hstarts, hreappears, captureChunk_ok_iff]
        · simp [hstarts, captureChunk_ok_iff]
  · simp [hkind]

/-- The messages of a turn stay within its events. -/
theorem captureUpdate_within (active : ActiveTurn) {eventSeq : Nat} (hpos : 0 < eventSeq)
    (h : MessagesWithin eventSeq active.assistantMessages) (update : Value) :
    MessagesWithin (eventSeq + 1) (captureUpdate active eventSeq update).1.assistantMessages := by
  have hweaker : MessagesWithin (eventSeq + 1) active.assistantMessages := fun message hmem =>
    ⟨(h message hmem).1, (h message hmem).2.1, Nat.lt_succ_of_lt (h message hmem).2.2⟩
  have hused : ∀ used : ActiveTurn, used = (if update.getStr "sessionUpdate" = some "usage_update"
      then { active with usage := update } else active) →
      used.assistantMessages = active.assistantMessages := by
    intro used hused
    split at hused <;> rw [hused]
  unfold captureUpdate
  dsimp only
  generalize hgen : (if update.getStr "sessionUpdate" = some "usage_update"
      then { active with usage := update } else active) = used
  have hmessages := hused used hgen.symm
  rw [← hmessages] at h hweaker
  split
  · exact hweaker
  · split
    · exact hweaker
    · split
      · exact hweaker
      · split
        · split
          · exact hweaker
          · apply captureChunk_within
            intro message hmem
            obtain hmem | hmem := List.mem_append.1 hmem
            · have := h message hmem
              omega
            · rw [List.mem_singleton] at hmem
              subst hmem
              exact ⟨hpos, Nat.le_refl _, Nat.le_refl _⟩
        · apply captureChunk_within
          intro message hmem
          have := h message hmem
          omega

section
variable [Sha256]

/-- Folding an update keeps the identity of a turn. -/
theorem foldUpdate_same (turn : ActiveTurn) (update : Value) (now : Int) :
    (foldUpdate turn update now).1.SameTurn turn := by
  unfold foldUpdate
  split
  · exact ⟨rfl, rfl, rfl⟩
  · obtain ⟨hsame, -⟩ := captureUpdate_keeps { turn with nextEventSeq := turn.nextEventSeq + 1 }
      turn.nextEventSeq update
    dsimp only
    split
    · rename_i active error heq
      rw [heq] at hsame
      exact ⟨hsame.fence, hsame.policy, hsame.watch⟩
    · rename_i active heq
      rw [heq] at hsame
      exact ⟨hsame.fence, hsame.policy, hsame.watch⟩

/-- An update that is folded becomes the next event. -/
theorem foldUpdate_event {turn : ActiveTurn} {update : Value} (now : Int)
    (hnext : turn.nextEventSeq < u64Max) (h : Capturable turn update) :
    ∃ event, (foldUpdate turn update now).2 = .ok event ∧
      (foldUpdate turn update now).1.nextEventSeq = turn.nextEventSeq + 1 ∧
      event.fence = turn.fence ∧ event.eventSeq = turn.nextEventSeq ∧
      event.classification = classifyUpdate update ∧
      event.rawUpdate = boundJson update turn.policy.maxCapturedOutputBytes := by
  obtain ⟨hsame, hseq⟩ := captureUpdate_keeps { turn with nextEventSeq := turn.nextEventSeq + 1 }
    turn.nextEventSeq update
  have hok := (captureUpdate_ok_iff { turn with nextEventSeq := turn.nextEventSeq + 1 }
    turn.nextEventSeq update).2 h
  unfold foldUpdate
  rw [if_neg (by omega)]
  dsimp only
  split
  · rename_i active error heq
    rw [heq] at hok
    cases hok
  · rename_i active heq
    rw [heq] at hsame hseq
    exact ⟨_, rfl, hseq, hsame.fence, rfl, rfl, by rw [hsame.policy]⟩

/-- An update is refused when the numbers are used up, which changes nothing. -/
theorem foldUpdate_overflow {turn : ActiveTurn} (update : Value) (now : Int)
    (hnext : u64Max ≤ turn.nextEventSeq) :
    foldUpdate turn update now = (turn, .error (.protocol "event sequence overflowed")) := by
  rw [foldUpdate, if_pos (by omega)]

/-- The messages of a turn stay within its events when an update is folded. -/
theorem foldUpdate_within {turn : ActiveTurn} (hpos : 0 < turn.nextEventSeq)
    (h : MessagesWithin turn.nextEventSeq turn.assistantMessages) {update : Value} {now : Int}
    {event : TurnEvent} (hok : (foldUpdate turn update now).2 = .ok event) :
    MessagesWithin (turn.nextEventSeq + 1) (foldUpdate turn update now).1.assistantMessages := by
  have hwithin := captureUpdate_within { turn with nextEventSeq := turn.nextEventSeq + 1 }
    hpos h update
  unfold foldUpdate at hok ⊢
  split at hok
  · cases hok
  · rename_i hbound
    rw [if_neg hbound]
    dsimp only at hok ⊢
    split at hok
    · cases hok
    · rename_i active heq
      rw [heq] at hwithin
      exact hwithin

end

end Fleetd.AcpHost
