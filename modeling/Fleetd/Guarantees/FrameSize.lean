import Fleetd.AcpHost.Frame
import Fleetd.AcpHost.Moves
import Fleetd.Guarantees.TurnTerminal

/-!
# Frames that fit

Every notification of the driver is one frame of at most a text. Events always fit, since the
update they carry is bounded. Permission requests and transcript entries carry what the runtime
said as it is, and a terminal frame adds up parts that are bounded one by one, or not at all, and
before they are escaped.
-/

namespace Fleetd.AcpHost

open Serde (Value stringSize)
open Harness Effects Relational

/-! ## What is produced -/

/-- A terminal frame that a monitor has taken and not yet offered. -/
def HeldAt (d : Driver) (number : Nat) (notification : Notification) : Prop :=
  ∃ (turn : Turn) (watch : Nat) (terminal : Harness.TurnTerminal), d.turns[number]? = some turn ∧
    turn.phase = .taken watch terminal ∧ notification = .turnTerminal terminal

/-- A notification that the driver has decided on, sent or not. -/
def Produced (d : Driver) (notification : Notification) : Prop :=
  (∃ outbound ∈ d.mail.channel ++ d.mail.outbox, outbound.notification = notification) ∨
    ∃ number, HeldAt d number notification

/-- Everything that was produced can be written. -/
def FramesFit (d : Driver) : Prop :=
  ∀ notification, Produced d notification → (writeNotification notification).isOk = true

section Produced
variable {d d' : Driver} {notification : Notification}

theorem produced_congr (hturns : d'.turns = d.turns) (hmail : d'.mail = d.mail) :
    Produced d' notification ↔ Produced d notification := by
  simp only [Produced, HeldAt, hturns, hmail]

/-- What is posted is produced. -/
theorem produced_post {outbound : Outbound} (hturns : d'.turns = d.turns)
    (hmail : d'.mail = d.mail.post outbound) :
    Produced d' notification ↔ Produced d notification ∨ notification = outbound.notification := by
  simp only [Produced, HeldAt, hturns, hmail, Mailbox.post, List.mem_append, List.mem_singleton]
  constructor
  · rintro (⟨item, hitem | hitem | rfl, rfl⟩ | hheld)
    · exact .inl (.inl ⟨item, .inl hitem, rfl⟩)
    · exact .inl (.inl ⟨item, .inr hitem, rfl⟩)
    · exact .inr rfl
    · exact .inl (.inr hheld)
  · rintro ((⟨item, hitem | hitem, rfl⟩ | hheld) | rfl)
    · exact .inl ⟨item, .inl hitem, rfl⟩
    · exact .inl ⟨item, .inr (.inl hitem), rfl⟩
    · exact .inr hheld
    · exact .inl ⟨outbound, .inr (.inr rfl), rfl⟩

/-- A turn that starts holds nothing. -/
theorem heldAt_snoc {turn : Turn} (hlive : turn.phase = .live) (hturns : d'.turns = d.turns ++ [turn])
    (number : Nat) : HeldAt d' number notification ↔ HeldAt d number notification := by
  simp only [HeldAt, hturns, List.getElem?_append]
  split
  · rfl
  · rename_i hge
    constructor
    · rintro ⟨found, watch, terminal, hfound, hphase, -⟩
      obtain rfl := List.mem_singleton.1 (List.mem_of_getElem? hfound)
      rw [hlive] at hphase
      cases hphase
    · rintro ⟨found, watch, terminal, hfound, -⟩
      rw [List.getElem?_eq_none (by omega)] at hfound
      cases hfound

/-- What a turn holds after it has come further. -/
theorem heldAt_turnsAt {number : Nat} {turn : Turn} {phase : TurnPhase}
    (hturn : d.turns[number]? = some turn) (hturns : d'.turns = d.turnsAt number phase) (other : Nat) :
    HeldAt d' other notification ↔
      if number = other then ∃ watch terminal, phase = .taken watch terminal ∧
        notification = .turnTerminal terminal
      else HeldAt d other notification := by
  simp only [HeldAt, hturns, getElem?_turnsAt]
  split
  · rename_i heq
    subst heq
    simp [hturn]
  · rfl

/-- A turn that holds nothing comes further and holds nothing. -/
theorem exists_heldAt_turnsAt_none {number : Nat} {turn : Turn} {phase : TurnPhase}
    (hturn : d.turns[number]? = some turn) (hfree : ∀ watch terminal, turn.phase ≠ .taken watch terminal)
    (hphase : ∀ watch terminal, phase ≠ .taken watch terminal)
    (hturns : d'.turns = d.turnsAt number phase) :
    (∃ other, HeldAt d' other notification) ↔ ∃ other, HeldAt d other notification := by
  apply exists_congr
  intro other
  rw [heldAt_turnsAt hturn hturns]
  split
  · rename_i heq
    subst heq
    apply iff_of_false
    · rintro ⟨watch, terminal, hnow, -⟩
      exact hphase watch terminal hnow
    · rintro ⟨found, watch, terminal, hfound, hwas, -⟩
      rw [hturn] at hfound
      cases hfound
      exact hfree watch terminal hwas
  · rfl

/-- A turn that holds nothing takes its terminal frame. -/
theorem exists_heldAt_taken {number watch : Nat} {turn : Turn} {terminal : Harness.TurnTerminal}
    (hturn : d.turns[number]? = some turn) (hfree : ∀ watch terminal, turn.phase ≠ .taken watch terminal)
    (hturns : d'.turns = d.turnsAt number (.taken watch terminal)) :
    (∃ other, HeldAt d' other notification) ↔
      (∃ other, HeldAt d other notification) ∨ notification = .turnTerminal terminal := by
  have hnone : ¬ HeldAt d number notification := by
    rintro ⟨found, watch, terminal, hfound, hwas, -⟩
    rw [hturn] at hfound
    cases hfound
    exact hfree watch terminal hwas
  constructor
  · rintro ⟨other, hother⟩
    rw [heldAt_turnsAt hturn hturns] at hother
    split at hother
    · obtain ⟨_, _, heq, rfl⟩ := hother
      cases heq
      exact .inr rfl
    · exact .inl ⟨other, hother⟩
  · rintro (⟨other, hother⟩ | rfl)
    · refine ⟨other, ?_⟩
      rw [heldAt_turnsAt hturn hturns, if_neg]
      · exact hother
      · rintro rfl
        exact hnone hother
    · refine ⟨number, ?_⟩
      rw [heldAt_turnsAt hturn hturns, if_pos rfl]
      exact ⟨watch, terminal, rfl, rfl⟩

/-- A terminal frame that is offered was held before. -/
theorem produced_offered {number watch : Nat} {turn : Turn} {terminal : Harness.TurnTerminal}
    {outbound : Outbound} (hturn : d.turns[number]? = some turn)
    (hphase : turn.phase = .taken watch terminal) (hturns : d'.turns = d.turnsAt number .publishing)
    (hmail : d'.mail = d.mail.post outbound) (hitem : outbound.notification = .turnTerminal terminal) :
    Produced d' notification ↔ Produced d notification := by
  have hheld : ∀ other, HeldAt d' other notification ↔
      number ≠ other ∧ HeldAt d other notification := by
    intro other
    rw [heldAt_turnsAt hturn hturns]
    split
    · rename_i heq
      exact iff_of_false (by rintro ⟨_, _, h, -⟩; cases h) fun h => h.1 heq
    · rename_i hne
      exact ⟨fun h => ⟨hne, h⟩, And.right⟩
  simp only [Produced, hheld, hmail, Mailbox.post, List.mem_append, List.mem_singleton]
  constructor
  · rintro (⟨item, hitem | hitem | rfl, rfl⟩ | ⟨other, -, hother⟩)
    · exact .inl ⟨item, .inl hitem, rfl⟩
    · exact .inl ⟨item, .inr hitem, rfl⟩
    · exact .inr ⟨number, turn, watch, terminal, hturn, hphase, hitem⟩
    · exact .inr ⟨other, hother⟩
  · rintro (⟨item, hitem | hitem, rfl⟩ | ⟨other, hother⟩)
    · exact .inl ⟨item, .inl hitem, rfl⟩
    · exact .inl ⟨item, .inr (.inl hitem), rfl⟩
    · by_cases heq : number = other
      · subst heq
        obtain ⟨found, _, _, hfound, hfoundPhase, rfl⟩ := hother
        rw [hturn] at hfound
        cases hfound
        rw [hphase] at hfoundPhase
        cases hfoundPhase
        exact .inl ⟨outbound, .inr (.inr rfl), hitem⟩
      · exact .inr ⟨other, heq, hother⟩

end Produced

/-! ## What must be small -/

/-- What a part takes that is replaced by a summary beyond half a frame. -/
def boundedSize (value : Value) : Nat :=
  if value.size ≤ maxFrameBytes / 2 then value.size else summarySize value.size

/-- What the outcome of a prompt adds to the terminal frame. -/
def outcomeSize : PromptOutcome → Nat
  | .known response (some hostStop) =>
    stringSize hostStop + (23 + stringSize (runtimeStop response)) + 15 + 4 + 17 + boundedSize response
  | .known response none => stringSize (runtimeStop response) + 15 + 4 + 17 + boundedSize response
  | .unknown evidence => 17 + 17 + 5 + 9 + boundedSize evidence

/-- What the terminal frame of a turn takes. -/
def terminalSize (turn : ActiveTurn) (outcome : PromptOutcome) : Nat :=
  228 + fenceSize turn.fence + (Value.nat (turn.nextEventSeq - 1)).size + outcomeSize outcome +
    listSize (turn.assistantMessages.map messageSize) + turn.usage.size

/-- What a permission request takes. -/
def permissionSize (turn : ActiveTurn) (raw : Value) (permissionId : String) (now : Int) : Nat :=
  152 + fenceSize turn.fence + stringSize permissionId + (Value.nat turn.nextEventSeq).size +
    ((raw.get "toolCall").getD .null).size +
    (Value.array (((raw.get "options").bind Value.asArray).getD [])).size +
    (Value.int (min (now + min (min turn.policy.idleTimeoutMs turn.policy.wallTimeoutMs) i64Max)
      i64Max)).size

/-- What an entry of a transcript takes. -/
def entrySize (capture : TranscriptCapture) (sessionRef : String) (update : Value) (now : Int) : Nat :=
  154 + stringSize sessionRef + (Value.nat capture.nextEntrySeq).size + (Value.int now).size +
    stringSize (classifyUpdate update) + update.size

/-- A step whose evidence is small enough for a frame. An event needs no condition. -/
def EvidenceFits (action : Action) (d : Driver) : Prop :=
  match action with
  | .update raw now => ∀ sessionRef update capture, raw.getStr "sessionId" = some sessionRef →
      raw.get "update" = some update → d.captureOn sessionRef = some capture →
      capture.truncated = false → capture.entryCount < maxTranscriptEntries →
      capture.observedPayloadBytes + update.size ≤ maxTranscriptBytes →
      entrySize capture sessionRef update now ≤ maxFrameBytes
  | .permission raw permissionId now => ∀ sessionRef turn,
      raw.getStr "sessionId" = some sessionRef → d.activeOn sessionRef = some turn →
      permissionSize turn raw permissionId now ≤ maxFrameBytes
  | .takeTurn number => ∀ monitor outcome turn, d.monitors[number]? = some monitor →
      monitor.stage = .decided outcome → d.activeOn monitor.sessionRef = some turn →
      terminalSize turn outcome ≤ maxFrameBytes
  | _ => True

/-- What the host checks before it asks, and what fits the machine: lengths and clock readings. -/
def Admissible : Action → Prop
  | .startTurn request => validateFence request.fence = .ok () ∧
      request.fence.bindingGeneration ≤ u64Max ∧ request.fence.ownerEpoch ≤ u64Max
  | .startTranscript request => validateSessionRef request.sessionRef = .ok ()
  | .update raw now => raw.size ≤ u64Max ∧ now.natAbs ≤ u64Max
  | _ => True

/-! ## Sizes of notifications -/

section Sizes
variable [Sha256] [LawfulSha256]

theorem frameSize_terminalOf (turn : ActiveTurn) (outcome : PromptOutcome) :
    frameSize (.turnTerminal (terminalOf turn outcome)) = terminalSize turn outcome := by
  have hknown : stringSize "outcome_known" = 15 := by decide
  have hunknown : stringSize "outcome_unknown" = 17 := by decide
  have hclaimed : stringSize "runtime_claimed" = 17 := by decide
  have hlost : stringSize "unknown" = 9 := by decide
  rw [frameSize_turnTerminal, terminalSize]
  cases outcome with
  | known response host =>
    cases host with
    | none =>
      simp only [terminalOf, outcomeSize, certaintyStr, persistenceStr, optionalSize, boundedSize,
        Serde.size_bool, size_boundJson, hknown, hclaimed, if_true]
      omega
    | some hostStop =>
      simp only [terminalOf, outcomeSize, certaintyStr, persistenceStr, optionalSize, boundedSize,
        Serde.size_bool, size_boundJson, hknown, hclaimed, if_true]
      omega
  | unknown evidence =>
    simp only [terminalOf, outcomeSize, certaintyStr, persistenceStr, optionalSize, boundedSize,
      Serde.size_bool, size_boundJson, hunknown, hlost, Bool.false_eq_true, if_false]
    omega

end Sizes

/-! ## Bounds along a run -/

theorem byteLen_of_validateId {kind value : String} (h : validateId kind value = .ok ()) :
    byteLen value ≤ maxFleetIdBytes := by
  unfold validateId at h
  split at h
  · cases h
  · rename_i hvalid
    rw [not_or] at hvalid
    omega

/-- A fence that the host has checked is short. -/
theorem fenceSize_le {fence : ExecutionFence} (h : validateFence fence = .ok ())
    (hgeneration : fence.bindingGeneration ≤ u64Max) (howner : fence.ownerEpoch ≤ u64Max) :
    fenceSize fence ≤ 4738 := by
  unfold validateFence at h
  simp only [bind, Except.bind] at h
  split at h
  · cases h
  · rename_i hbinding
    split at h
    · cases h
    · split at h
      · cases h
      · split at h
        · cases h
        · rename_i hinvocation
          have h1 := byteLen_of_validateId hbinding
          have h2 := byteLen_of_validateId hinvocation
          have h3 := byteLen_of_validateId h
          have s1 := Serde.stringSize_le fence.bindingId
          have s2 := Serde.stringSize_le fence.invocationId
          have s3 := Serde.stringSize_le fence.fenceToken
          have n1 : (Value.nat fence.bindingGeneration).size ≤ 20 :=
            Serde.size_nat_le (Nat.lt_of_le_of_lt hgeneration (by decide)) (by decide)
          have n2 : (Value.nat fence.ownerEpoch).size ≤ 20 :=
            Serde.size_nat_le (Nat.lt_of_le_of_lt howner (by decide)) (by decide)
          unfold byteLen maxFleetIdBytes at h1 h2 h3
          unfold fenceSize
          omega

/-- The terminal frame of a turn is no longer held by its monitor. -/
def Offered (d : Driver) (number : Nat) : Prop :=
  ∃ turn : Turn, d.turns[number]? = some turn ∧ (turn.phase = .publishing ∨ turn.phase = .finished)

/-- What bounds the frames that need no condition. -/
structure WithinBounds (d : Driver) : Prop where
  active : ∀ sessionRef turn, d.activeOn sessionRef = some turn → fenceSize turn.fence ≤ 4738 ∧
    turn.policy.maxCapturedOutputBytes ≤ maxCaptureBytes ∧ turn.nextEventSeq ≤ u64Max
  capture : ∀ sessionRef capture, d.captureOn sessionRef = some capture →
    capture.entryCount ≤ maxTranscriptEntries ∧ capture.observedPayloadBytes ≤ maxTranscriptBytes
  replay : ∀ replay ∈ d.replays, byteLen replay.sessionRef ≤ Harness.maxSessionRefBytes
  posted : ∀ outbound ∈ d.mail.outbox, ∀ number, outbound.sender = .monitor number → Offered d number

theorem withinBounds_start : WithinBounds .start := by
  constructor
  · intro sessionRef turn hturn
    cases hturn
  · intro sessionRef capture hcapture
    cases hcapture
  · intro replay hreplay
    cases hreplay
  · intro outbound houtbound
    cases houtbound

/-- A part of a value takes less than the value. -/
theorem size_lt_of_get {key : String} {value member : Value} (h : value.get key = some member) :
    member.size < value.size := by
  cases value with
  | object members =>
    rw [Value.get, Option.map_eq_some_iff] at h
    obtain ⟨⟨found, content⟩, hfind, rfl⟩ := h
    exact Serde.size_lt_size_object (List.mem_of_find?_eq_some hfind)
  | _ => cases h

theorem stringSize_classifyUpdate (update : Value) : stringSize (classifyUpdate update) ≤ 23 := by
  unfold classifyUpdate
  split <;> decide

theorem truncateChars_le (limit : Nat) (text : List Char) :
    ((truncateChars limit text).map Char.utf8Size).sum ≤ limit := by
  induction text generalizing limit with
  | nil => exact Nat.zero_le limit
  | cons c text ih =>
    rw [truncateChars]
    split
    · rw [List.map_cons, List.sum_cons]
      have := ih (limit - c.utf8Size)
      omega
    · exact Nat.zero_le limit

theorem byteLen_truncateUtf8 (limit : Nat) (text : String) : byteLen (truncateUtf8 limit text) ≤ limit := by
  unfold truncateUtf8
  split
  · assumption
  · rw [byteLen, Serde.utf8ByteSize_ofList]
    exact truncateChars_le limit text.toList

/-- The event that an update becomes. -/
theorem foldUpdate_ok [Sha256] {turn : ActiveTurn} {update : Value} {now : Int} {event : TurnEvent}
    (h : (foldUpdate turn update now).2 = .ok event) : event = {
      fence := turn.fence
      eventSeq := turn.nextEventSeq
      observedAtMs := now
      classification := classifyUpdate update
      rawUpdate := boundJson update turn.policy.maxCapturedOutputBytes } := by
  obtain ⟨hsame, -⟩ := captureUpdate_keeps { turn with nextEventSeq := turn.nextEventSeq + 1 }
    turn.nextEventSeq update
  unfold foldUpdate at h
  split at h
  · cases h
  · dsimp only at h
    split at h
    · cases h
    · rename_i active heq
      rw [heq] at hsame
      cases h
      rw [hsame.fence, hsame.policy]

/-- An event fits, whatever the update. -/
theorem frameSize_event_le [Sha256] [LawfulSha256] {turn : ActiveTurn} {update : Value} {now : Int}
    {event : TurnEvent} (hevent : (foldUpdate turn update now).2 = .ok event)
    (hfence : fenceSize turn.fence ≤ 4738)
    (hlimit : turn.policy.maxCapturedOutputBytes ≤ maxCaptureBytes)
    (hnext : turn.nextEventSeq ≤ u64Max) (hupdate : update.size ≤ u64Max)
    (hnow : now.natAbs ≤ u64Max) : frameSize (.turnEvent event) ≤ maxFrameBytes := by
  have hseq : (Value.nat turn.nextEventSeq).size ≤ 20 :=
    Serde.size_nat_le (Nat.lt_of_le_of_lt hnext (by decide)) (by decide)
  have hclock : (Value.int now).size ≤ 21 :=
    Serde.size_int_le (Nat.lt_of_le_of_lt hnow (by decide)) (by decide)
  have hdigits : (Value.nat update.size).size ≤ 20 :=
    Serde.size_nat_le (Nat.lt_of_le_of_lt hupdate (by decide)) (by decide)
  have hclass := stringSize_classifyUpdate update
  have hbounded : (boundJson update turn.policy.maxCapturedOutputBytes).size ≤
      max maxCaptureBytes (summarySize update.size) := by
    rw [size_boundJson]
    split <;> omega
  rw [foldUpdate_ok hevent, frameSize_turnEvent]
  unfold summarySize maxCaptureBytes at hbounded
  unfold maxFrameBytes
  dsimp only
  omega

/-- The completion of a replay fits, whatever the failure. -/
theorem frameSize_complete_le {d : Driver} {replay : Replay} {failure : Option String}
    (h : WithinBounds d) (hreplay : replay ∈ d.replays) :
    frameSize (.transcriptComplete (completeTranscript replay.sessionRef failure d.shared).1) ≤
      maxFrameBytes := by
  have hsession := h.replay replay hreplay
  have hstring := Serde.stringSize_le replay.sessionRef
  have hfailure : optionalSize 9 (failure.map boundedReason) ≤ 6200 := by
    cases failure with
    | none => exact Nat.zero_le _
    | some reason =>
      have hreason := byteLen_truncateUtf8 1024 reason
      have hprinted := Serde.stringSize_le (boundedReason reason)
      rw [Option.map_some, optionalSize]
      unfold boundedReason byteLen at *
      omega
  have hdigits : ∀ count, count ≤ maxTranscriptBytes → (Value.nat count).size ≤ 20 := fun count hcount =>
    Serde.size_nat_le (Nat.lt_of_le_of_lt hcount (by decide)) (by decide)
  have hflag : ∀ truncated, (Value.bool truncated).size ≤ 5 := by decide
  have hentries : maxTranscriptEntries ≤ maxTranscriptBytes := by decide
  have hframe : ∀ complete : TranscriptComplete, complete.sessionRef = replay.sessionRef →
      complete.entryCount ≤ maxTranscriptBytes → complete.observedPayloadBytes ≤ maxTranscriptBytes →
      complete.failure = failure.map boundedReason →
      frameSize (.transcriptComplete complete) ≤ maxFrameBytes := by
    intro complete href hcount hbytes hreason
    have hcount := hdigits _ hcount
    have hbytes := hdigits _ hbytes
    have hflag := hflag complete.truncated
    rw [frameSize_transcriptComplete, href, hreason]
    unfold byteLen Harness.maxSessionRefBytes at hsession
    unfold maxFrameBytes
    omega
  unfold completeTranscript
  split
  · rename_i session hlookup
    split
    · rename_i capture hcapturing
      obtain ⟨hcount, hbytes⟩ := h.capture replay.sessionRef capture
        (by simp [Driver.captureOn, hlookup, hcapturing])
      exact hframe _ rfl (Nat.le_trans hcount hentries) hbytes rfl
    · exact hframe _ rfl (Nat.zero_le _) (Nat.zero_le _) rfl
  · exact hframe _ rfl (Nat.zero_le _) (Nat.zero_le _) rfl

/-- The request that is sent to the host. -/
theorem handlePermissionRequest_ok {d : Driver} {raw : Value} {permissionId sessionRef : String}
    {handler : Nat} {now : Int} {turn : ActiveTurn} {asked : PermissionAsked}
    (h : handlePermissionRequest raw permissionId handler now d.shared = .ok asked)
    (hsession : raw.getStr "sessionId" = some sessionRef) (hturn : d.activeOn sessionRef = some turn) :
    frameSize (.permissionRequested asked.request) = permissionSize turn raw permissionId now := by
  obtain ⟨session, hlookup, hactive⟩ := Option.bind_eq_some_iff.1 hturn
  simp only [handlePermissionRequest, hsession, hlookup, hactive] at h
  cases h
  rw [frameSize_permissionRequested, permissionSize]

/-- When an update of a replay is forwarded, and as what. -/
theorem captureTranscriptEntry_snd (capture : TranscriptCapture) (sessionRef : String) (update : Value)
    (now : Int) : (captureTranscriptEntry capture sessionRef update now).2 =
      if capture.truncated = false ∧ capture.entryCount < maxTranscriptEntries ∧
          capture.observedPayloadBytes + update.size ≤ maxTranscriptBytes then
        some ⟨sessionRef, capture.nextEntrySeq, now, classifyUpdate update, update⟩
      else none := by
  have hsize : byteLen update.print = update.size := rfl
  have hlarge : maxTranscriptBytes < u64Max := by decide
  unfold captureTranscriptEntry
  rw [hsize]
  by_cases htruncated : capture.truncated = true
  · simp [htruncated]
  · rw [if_neg htruncated]
    dsimp only
    by_cases hroom : capture.entryCount < maxTranscriptEntries ∧
        capture.observedPayloadBytes + update.size ≤ maxTranscriptBytes
    · rw [if_neg (by omega), if_pos ⟨by simpa using htruncated, hroom⟩]
    · rw [if_pos (by omega), if_neg (fun h => hroom h.2)]

/-- The totals of a replay stay bounded. -/
theorem captureTranscriptEntry_bounds {capture : TranscriptCapture}
    (h : capture.entryCount ≤ maxTranscriptEntries ∧ capture.observedPayloadBytes ≤ maxTranscriptBytes)
    (sessionRef : String) (update : Value) (now : Int) :
    (captureTranscriptEntry capture sessionRef update now).1.entryCount ≤ maxTranscriptEntries ∧
      (captureTranscriptEntry capture sessionRef update now).1.observedPayloadBytes ≤
        maxTranscriptBytes := by
  unfold captureTranscriptEntry
  split
  · exact h
  · dsimp only
    split
    · exact h
    · rename_i hroom
      rw [not_or] at hroom
      constructor
      · have := hroom.1
        dsimp only
        omega
      · have := hroom.2
        dsimp only
        omega

theorem foldUpdate_nextEventSeq [Sha256] {turn : ActiveTurn} (h : turn.nextEventSeq ≤ u64Max)
    (update : Value) (now : Int) : (foldUpdate turn update now).1.nextEventSeq ≤ u64Max := by
  obtain ⟨-, hseq⟩ := captureUpdate_keeps { turn with nextEventSeq := turn.nextEventSeq + 1 }
    turn.nextEventSeq update
  unfold foldUpdate
  split
  · exact h
  · dsimp only at hseq ⊢
    split
    · rename_i active error heq
      rw [heq] at hseq
      dsimp only at hseq ⊢
      omega
    · rename_i active heq
      rw [heq] at hseq
      dsimp only at hseq ⊢
      omega

section Offered
variable {d d' : Driver} {number : Nat}

theorem Offered.congr (h : Offered d number) (hturns : d'.turns = d.turns) : Offered d' number := by
  rw [Offered, hturns]
  exact h

/-- A frame that was offered stays so, unless a live turn takes the number. -/
theorem Offered.turnsAt (h : Offered d number) {other : Nat} {phase : TurnPhase}
    (hturns : d'.turns = d.turnsAt other phase)
    (hphase : other = number → phase = .publishing ∨ phase = .finished) : Offered d' number := by
  obtain ⟨turn, hturn, hoffered⟩ := h
  rw [Offered, hturns, getElem?_turnsAt]
  split
  · rename_i heq
    exact ⟨{ turn with phase }, by rw [hturn]; rfl, hphase heq⟩
  · exact ⟨turn, hturn, hoffered⟩

theorem offered_turnsAt {turn : Turn} {phase : TurnPhase} (hturn : d.turns[number]? = some turn)
    (hturns : d'.turns = d.turnsAt number phase) (hphase : phase = .publishing ∨ phase = .finished) :
    Offered d' number := by
  rw [Offered, hturns, getElem?_turnsAt, if_pos rfl, hturn]
  exact ⟨{ turn with phase }, rfl, hphase⟩

end Offered

theorem notice_sessionRef (raw : Value) (replay : Replay) :
    (Replay.notice raw replay).sessionRef = replay.sessionRef := by
  unfold Replay.notice
  split
  · split
    · rfl
    · rfl
  · rfl

section Next
variable {d d' : Driver}

theorem WithinBounds.turn_update (h : WithinBounds d) {sessionRef : String} {active : Option ActiveTurn}
    (hactive : d'.activeOn = Function.update d.activeOn sessionRef active)
    (hnew : ∀ turn, active = some turn → fenceSize turn.fence ≤ 4738 ∧
      turn.policy.maxCapturedOutputBytes ≤ maxCaptureBytes ∧ turn.nextEventSeq ≤ u64Max) :
    ∀ other turn, d'.activeOn other = some turn → fenceSize turn.fence ≤ 4738 ∧
      turn.policy.maxCapturedOutputBytes ≤ maxCaptureBytes ∧ turn.nextEventSeq ≤ u64Max := by
  intro other turn hturn
  rw [hactive, Function.update_apply] at hturn
  split at hturn
  · exact hnew turn hturn
  · exact h.active other turn hturn

theorem WithinBounds.capture_update (h : WithinBounds d) {sessionRef : String}
    {capture : Option TranscriptCapture}
    (hcapture : d'.captureOn = Function.update d.captureOn sessionRef capture)
    (hnew : ∀ taken, capture = some taken → taken.entryCount ≤ maxTranscriptEntries ∧
      taken.observedPayloadBytes ≤ maxTranscriptBytes) :
    ∀ other taken, d'.captureOn other = some taken → taken.entryCount ≤ maxTranscriptEntries ∧
      taken.observedPayloadBytes ≤ maxTranscriptBytes := by
  intro other taken htaken
  rw [hcapture, Function.update_apply] at htaken
  split at htaken
  · exact hnew taken htaken
  · exact h.capture other taken htaken

/-- Nothing is posted, and the turns are the same. -/
theorem WithinBounds.posted_congr (h : WithinBounds d) (hturns : d'.turns = d.turns)
    (hmail : d'.mail = d.mail) : ∀ outbound ∈ d'.mail.outbox, ∀ number,
      outbound.sender = .monitor number → Offered d' number := by
  intro outbound houtbound number hsender
  rw [hmail] at houtbound
  exact (h.posted outbound houtbound number hsender).congr hturns

/-- What a task other than a monitor posts. -/
theorem WithinBounds.posted_post (h : WithinBounds d) {item : Outbound} (hturns : d'.turns = d.turns)
    (hmail : d'.mail = d.mail.post item) (hother : ∀ number, item.sender ≠ .monitor number) :
    ∀ outbound ∈ d'.mail.outbox, ∀ number, outbound.sender = .monitor number → Offered d' number := by
  intro outbound houtbound number hsender
  rw [hmail, Mailbox.post, List.mem_append, List.mem_singleton] at houtbound
  obtain hold | rfl := houtbound
  · exact (h.posted outbound hold number hsender).congr hturns
  · exact absurd hsender (hother number)

theorem WithinBounds.replay_notice (h : WithinBounds d) {raw : Value}
    (hreplays : d'.replays = d.replays.map (Replay.notice raw)) :
    ∀ replay ∈ d'.replays, byteLen replay.sessionRef ≤ Harness.maxSessionRefBytes := by
  intro replay hreplay
  rw [hreplays, List.mem_map] at hreplay
  obtain ⟨before, hbefore, rfl⟩ := hreplay
  rw [notice_sessionRef]
  exact h.replay before hbefore

theorem WithinBounds.replay_modify (h : WithinBounds d) {number : Nat} {f : Replay → Replay}
    (hf : ∀ replay, (f replay).sessionRef = replay.sessionRef)
    (hreplays : d'.replays = d.replays.modify number f) :
    ∀ replay ∈ d'.replays, byteLen replay.sessionRef ≤ Harness.maxSessionRefBytes := by
  intro replay hreplay
  rw [hreplays] at hreplay
  obtain ⟨index, hindex⟩ := List.getElem?_of_mem hreplay
  rw [List.getElem?_modify] at hindex
  cases hbefore : d.replays[index]? with
  | none =>
    rw [hbefore] at hindex
    cases hindex
  | some before =>
    rw [hbefore] at hindex
    have hbound := h.replay before (List.mem_of_getElem? hbefore)
    simp only [Option.map_eq_map, Option.map_some, Option.some.injEq] at hindex
    subst hindex
    split
    · rw [hf]
      exact hbound
    · exact hbound

/-- One step keeps the bounds. -/
theorem WithinBounds.next [Sha256] (h : WithinBounds d) {action : Action} (ha : Admissible action)
    (hmove : Move d action d') : WithinBounds d' := by
  cases hmove with
  | quiet active capture turns replays mail =>
    exact ⟨active ▸ h.active, capture ▸ h.capture, replays ▸ h.replay, h.posted_congr turns mail⟩
  | opened serving opens active capture turns replays mail =>
    refine ⟨h.turn_update active ?_, h.capture_update capture ?_, replays ▸ h.replay,
      h.posted_congr turns mail⟩
    · intro turn hturn
      cases hturn
    · intro taken htaken
      cases htaken
  | closed closes inactive active capture turns replays mail =>
    refine ⟨active ▸ h.active, h.capture_update capture ?_, replays ▸ h.replay,
      h.posted_congr turns mail⟩
    intro taken htaken
    cases htaken
  | started starts inactive active capture turns replays mail =>
    refine ⟨h.turn_update active ?_, capture ▸ h.capture, replays ▸ h.replay, ?_⟩
    · intro turn hturn
      cases hturn
      obtain ⟨_, _, _, _, hlimit, _⟩ := startTurn_ok starts
      exact ⟨fenceSize_le ha.1 ha.2.1 ha.2.2, hlimit, (by decide : 1 ≤ u64Max)⟩
    · intro outbound houtbound number hsender
      rw [mail] at houtbound
      obtain ⟨turn, hturn, hoffered⟩ := h.posted outbound houtbound number hsender
      refine ⟨turn, ?_, hoffered⟩
      rw [turns, List.getElem?_append_left (List.getElem?_eq_some_iff.1 hturn).1]
      exact hturn
  | ignored ignores active capture turns replays mail =>
    exact ⟨active ▸ h.active, capture ▸ h.capture, h.replay_notice replays, h.posted_congr turns mail⟩
  | @folded raw now sessionRef update turn _ session carries free turned active capture turns replays mail =>
    have hsame := foldUpdate_same turn update now
    obtain ⟨hfence, hlimit, hnext⟩ := h.active sessionRef turn turned
    refine ⟨h.turn_update active ?_, capture ▸ h.capture, h.replay_notice replays, ?_⟩
    · intro folded hfolded
      cases hfolded
      rw [hsame.fence, hsame.policy]
      exact ⟨hfence, hlimit, foldUpdate_nextEventSeq hnext update now⟩
    · split at mail
      · exact h.posted_post turns mail fun number heq => by cases heq
      · exact h.posted_congr turns mail
  | @captured raw now sessionRef update taken _ session carries capturing active capture turns replays mail =>
    refine ⟨active ▸ h.active, h.capture_update capture ?_, h.replay_notice replays, ?_⟩
    · intro after hafter
      cases hafter
      exact captureTranscriptEntry_bounds (h.capture sessionRef taken capturing) sessionRef update now
    · split at mail
      · exact h.posted_post turns mail fun number heq => by cases heq
      · exact h.posted_congr turns mail
  | @asked raw permissionId now sessionRef turn asked _ session asks turned watch fence eventSeq identifier
      active capture turns replays mail =>
    obtain ⟨hfence, hlimit, hnext⟩ := h.active sessionRef turn turned
    refine ⟨h.turn_update active ?_, capture ▸ h.capture, replays ▸ h.replay,
      h.posted_post turns mail fun number heq => by cases heq⟩
    intro after hafter
    cases hafter
    exact ⟨hfence, hlimit, Nat.le_of_lt_succ (Nat.mod_lt _ (Nat.succ_pos _))⟩
  | @taken number monitor outcome turn _ monitored decided turned active capture turns replays mail =>
    refine ⟨h.turn_update active ?_, capture ▸ h.capture, replays ▸ h.replay, ?_⟩
    · intro after hafter
      cases hafter
    · intro outbound houtbound other hsender
      rw [mail] at houtbound
      have hoffered := h.posted outbound houtbound other hsender
      refine hoffered.turnsAt turns ?_
      rintro rfl
      obtain ⟨found, hfound, hphase⟩ := hoffered
      rw [getElem?_turns monitored] at hfound
      cases hfound
      simp [Monitor.turn, decided, MonitorStage.phase] at hphase
  | lost monitored decided inactive active capture turns replays mail =>
    refine ⟨active ▸ h.active, capture ▸ h.capture, replays ▸ h.replay, ?_⟩
    intro outbound houtbound other hsender
    rw [mail] at houtbound
    exact (h.posted outbound houtbound other hsender).turnsAt turns fun _ => .inr rfl
  | offered monitored phase active capture turns replays mail =>
    refine ⟨active ▸ h.active, capture ▸ h.capture, replays ▸ h.replay, ?_⟩
    intro outbound houtbound other hsender
    rw [mail, Mailbox.post, List.mem_append, List.mem_singleton] at houtbound
    obtain hold | rfl := houtbound
    · exact (h.posted outbound hold other hsender).turnsAt turns fun _ => .inl rfl
    · cases hsender
      exact offered_turnsAt monitored turns (.inl rfl)
  | replayed inactive free active capture turns replays mail =>
    refine ⟨active ▸ h.active, h.capture_update capture ?_, ?_, h.posted_congr turns mail⟩
    · intro taken htaken
      cases htaken
      exact ⟨Nat.zero_le _, Nat.zero_le _⟩
    · intro replay hreplay
      rw [replays, List.mem_append, List.mem_singleton] at hreplay
      obtain hold | rfl := hreplay
      · exact h.replay replay hold
      · unfold Admissible validateSessionRef at ha
        dsimp only at ha ⊢
        split at ha
        · cases ha
        · omega
  | @completed number failure replay _ replaying loading active capture turns replays mail =>
    refine ⟨active ▸ h.active, h.capture_update capture ?_, ?_,
      h.posted_post turns mail fun number heq => by cases heq⟩
    · intro taken htaken
      cases htaken
    · intro other hother
      rw [replays] at hother
      obtain hold | rfl := List.mem_or_eq_of_mem_set hother
      · exact h.replay other hold
      · exact h.replay replay (List.mem_of_getElem? replaying)
  | @sent index outbound _ waiting active capture turns replays mail =>
    refine ⟨active ▸ h.active, capture ▸ h.capture, ?_, ?_⟩
    · unfold replaysSent at replays
      split at replays
      · refine h.replay_modify ?_ replays
        intro replay
        rfl
      · exact replays ▸ h.replay
    · intro item hitem other hsender
      rw [mail] at hitem
      have hoffered := h.posted item (Mailbox.mem_outbox_of_send hitem) other hsender
      unfold turnsSent at turns
      split at turns
      · exact hoffered.turnsAt turns fun _ => .inr rfl
      · exact hoffered.congr turns

end Next

/-! ## Every step -/

section Steps
variable {d d' : Driver}

/-- Nothing is produced. -/
theorem framesFit_congr (h : ∀ notification, Produced d' notification ↔ Produced d notification)
    {fits : Prop} (hfits : fits) : FramesFit d' ↔ FramesFit d ∧ fits := by
  simp only [FramesFit, h, hfits, and_true]

/-- One notification is produced. -/
theorem framesFit_snoc (produced : Notification)
    (h : ∀ notification, Produced d' notification ↔ Produced d notification ∨ notification = produced)
    {fits : Prop} (hfits : frameSize produced ≤ maxFrameBytes ↔ fits) :
    FramesFit d' ↔ FramesFit d ∧ fits := by
  simp only [FramesFit, h, writeNotification_isOk, ← hfits]
  constructor
  · intro hall
    exact ⟨fun notification hold => hall notification (.inl hold), hall produced (.inr rfl)⟩
  · rintro ⟨hold, hnew⟩ notification (hnotification | rfl)
    · exact hold notification hnotification
    · exact hnew

theorem produced_of_held (hheld : ∀ notification, (∃ number, HeldAt d' number notification) ↔
      ∃ number, HeldAt d number notification) (hmail : d'.mail = d.mail) (notification : Notification) :
    Produced d' notification ↔ Produced d notification := by
  rw [Produced, Produced, hmail, hheld]

theorem produced_sent {index : Nat} {outbound : Outbound}
    (hposted : ∀ number, outbound.sender = .monitor number → Offered d number)
    (hturns : d'.turns = turnsSent outbound.sender d) (hmail : d'.mail = d.mail.send index)
    (notification : Notification) : Produced d' notification ↔ Produced d notification := by
  have hheld : (∃ number, HeldAt d' number notification) ↔ ∃ number, HeldAt d number notification := by
    unfold turnsSent at hturns
    split at hturns
    · rename_i number hsender
      obtain ⟨turn, hturn, hphase⟩ := hposted number hsender
      refine exists_heldAt_turnsAt_none hturn ?_ (fun watch terminal heq => by cases heq) hturns
      intro watch terminal heq
      rw [heq] at hphase
      obtain hphase | hphase := hphase <;> cases hphase
    · simp only [HeldAt, hturns]
  simp only [Produced, hheld, hmail, Mailbox.mem_send]

theorem post_ne (m : Mailbox Outbound) (outbound : Outbound) : m.post outbound ≠ m := by
  intro h
  have hlength := congrArg (fun mail : Mailbox Outbound => mail.outbox.length) h
  simp [Mailbox.post] at hlength

/-- A step that produces nothing needs no condition. -/
theorem evidenceFits_of_quiet [Sha256] [HttpSyntax] {profile : DriverProfile} {action : Action}
    (hturns : (step profile action d).turns = d.turns) (hmail : (step profile action d).mail = d.mail) :
    EvidenceFits action d := by
  cases action with
  | update raw now =>
    intro sessionRef update capture hsession hupdate hcapture htruncated hcount hbytes
    obtain ⟨session, hlookup, hcapturing⟩ := Option.bind_eq_some_iff.1 hcapture
    obtain ⟨-, -, -, hposted⟩ := update_fields d raw now
    simp only [handleSessionUpdate, hsession, hupdate, hlookup, hcapturing, captureTranscriptEntry_snd,
      htruncated, hcount, hbytes, and_self, if_true, Option.map_some] at hposted
    exact absurd (hposted.symm.trans hmail) (post_ne _ _)
  | permission raw permissionId now =>
    intro sessionRef turn hsession hturn
    obtain ⟨session, hlookup, hactive⟩ := Option.bind_eq_some_iff.1 hturn
    simp only [step, Driver.permission, handlePermissionRequest, hsession, hlookup, hactive] at hmail
    exact absurd hmail (post_ne _ _)
  | takeTurn number =>
    intro monitor outcome turn hmonitor hdecided hturn
    obtain ⟨session, hlookup, hactive⟩ := Option.bind_eq_some_iff.1 hturn
    simp only [step, Driver.takeTurn, hmonitor, hdecided, emitTerminal, hlookup, hactive,
      turns_setStage] at hturns
    have hphase := congrArg (fun turns : List Turn => turns[number]?.map (·.phase)) hturns
    simp [getElem?_turnsAt, Driver.turns, hmonitor, Monitor.turn, hdecided, MonitorStage.phase] at hphase
  | _ => trivial

/-- One step produces what fits exactly if its evidence does. -/
theorem framesFit_step [Sha256] [LawfulSha256] [HttpSyntax] (profile : DriverProfile)
    (h : WithinBounds d) {action : Action} (ha : Admissible action) :
    FramesFit (step profile action d) ↔ FramesFit d ∧ EvidenceFits action d := by
  have hmove := step_move profile action d
  cases hmove with
  | quiet active capture turns replays mail =>
    exact framesFit_congr (fun _ => produced_congr turns mail) (evidenceFits_of_quiet turns mail)
  | opened serving opens active capture turns replays mail =>
    exact framesFit_congr (fun _ => produced_congr turns mail) trivial
  | closed closes inactive active capture turns replays mail =>
    exact framesFit_congr (fun _ => produced_congr turns mail) trivial
  | started starts inactive active capture turns replays mail =>
    refine framesFit_congr ?_ trivial
    exact produced_of_held (fun _ => exists_congr (heldAt_snoc rfl turns)) mail
  | @ignored raw now _ ignores active capture turns replays mail =>
    refine framesFit_congr (fun _ => produced_congr turns mail) ?_
    intro sessionRef update taken hsession hupdate htaken
    obtain ⟨-, hnone⟩ := ignores sessionRef hsession (by rw [hupdate]; exact Option.some_ne_none _)
    rw [hnone] at htaken
    cases htaken
  | @folded raw now sessionRef update turn _ session carries free turned active capture turns replays mail =>
    have hnone : EvidenceFits (.update raw now) d := by
      intro other _ taken hother _ htaken
      rw [session] at hother
      cases hother
      rw [free] at htaken
      cases htaken
    split at mail
    · rename_i event hevent
      obtain ⟨hfence, hlimit, hnext⟩ := h.active sessionRef turn turned
      have hsize := size_lt_of_get carries
      refine framesFit_snoc _ (fun _ => produced_post turns mail) (iff_of_true ?_ hnone)
      exact frameSize_event_le hevent hfence hlimit hnext
        (Nat.le_trans (Nat.le_of_lt hsize) ha.1) ha.2
    · exact framesFit_congr (fun _ => produced_congr turns mail) hnone
  | @captured raw now sessionRef update taken _ session carries capturing active capture turns replays mail =>
    rw [captureTranscriptEntry_snd] at mail
    have hcondition : EvidenceFits (.update raw now) d ↔ (taken.truncated = false →
        taken.entryCount < maxTranscriptEntries →
        taken.observedPayloadBytes + update.size ≤ maxTranscriptBytes →
        entrySize taken sessionRef update now ≤ maxFrameBytes) := by
      constructor
      · intro hfits
        exact hfits sessionRef update taken session carries capturing
      · intro hfits other content found hother hcontent hfound
        rw [session] at hother
        cases hother
        rw [carries] at hcontent
        cases hcontent
        rw [capturing] at hfound
        cases hfound
        exact hfits
    rw [hcondition]
    split at mail
    · rename_i entry hentry
      split at hentry
      · rename_i hroom
        cases hentry
        refine framesFit_snoc _ (fun _ => produced_post turns mail) ?_
        rw [frameSize_transcriptEntry]
        exact ⟨fun hsize _ _ _ => hsize, fun hsize => hsize hroom.1 hroom.2.1 hroom.2.2⟩
      · cases hentry
    · rename_i hentry
      split at hentry
      · cases hentry
      · rename_i hroom
        exact framesFit_congr (fun _ => produced_congr turns mail)
          fun htruncated hcount hbytes => absurd ⟨htruncated, hcount, hbytes⟩ hroom
  | @asked raw permissionId now sessionRef turn asked _ session asks turned watch fence eventSeq identifier
      active capture turns replays mail =>
    refine framesFit_snoc _ (fun _ => produced_post turns mail) ?_
    rw [handlePermissionRequest_ok asks session turned]
    constructor
    · intro hsize other found hother hfound
      rw [session] at hother
      cases hother
      rw [turned] at hfound
      cases hfound
      exact hsize
    · intro hfits
      exact hfits sessionRef turn session turned
  | @taken number monitor outcome turn _ monitored decided turned active capture turns replays mail =>
    refine framesFit_snoc (.turnTerminal (terminalOf turn outcome)) ?_ ?_
    · intro notification
      rw [Produced, Produced, mail, exists_heldAt_taken (getElem?_turns monitored) ?_ turns, or_assoc]
      intro watch terminal heq
      simp [Monitor.turn, decided, MonitorStage.phase] at heq
    · rw [frameSize_terminalOf]
      constructor
      · intro hsize found foundOutcome foundTurn hfound hdecided hturned
        rw [monitored] at hfound
        cases hfound
        rw [decided] at hdecided
        cases hdecided
        rw [turned] at hturned
        cases hturned
        exact hsize
      · intro hfits
        exact hfits monitor outcome turn monitored decided turned
  | @lost number monitor outcome _ monitored decided inactive active capture turns replays mail =>
    refine framesFit_congr ?_ ?_
    · refine produced_of_held (fun _ => ?_) mail
      refine exists_heldAt_turnsAt_none (getElem?_turns monitored) ?_
        (fun watch terminal heq => by cases heq) turns
      intro watch terminal heq
      simp [Monitor.turn, decided, MonitorStage.phase] at heq
    · intro found foundOutcome turn hfound _ hturned
      rw [monitored] at hfound
      cases hfound
      rw [inactive] at hturned
      cases hturned
  | offered monitored phase active capture turns replays mail =>
    exact framesFit_congr (fun _ => produced_offered monitored phase turns mail rfl) trivial
  | replayed inactive free active capture turns replays mail =>
    exact framesFit_congr (fun _ => produced_congr turns mail) trivial
  | @completed number failure replay _ replaying loading active capture turns replays mail =>
    exact framesFit_snoc _ (fun _ => produced_post turns mail)
      (iff_of_true (frameSize_complete_le h (List.mem_of_getElem? replaying)) trivial)
  | @sent index outbound _ waiting active capture turns replays mail =>
    exact framesFit_congr (produced_sent (h.posted outbound (List.mem_of_getElem? waiting)) turns mail)
      trivial

end Steps

/-! ## Every run -/

theorem framesFit_start : FramesFit .start := by
  rintro notification (⟨outbound, houtbound, -⟩ | ⟨number, turn, watch, terminal, hturn, -⟩)
  · cases houtbound
  · cases hturn

section Runs
variable [Sha256] [HttpSyntax] (profile : DriverProfile) {actions : List Action}

theorem drive_withinBounds (h : ∀ action ∈ actions, Admissible action) :
    WithinBounds (drive profile actions) :=
  runFrom_induction WithinBounds Admissible
    (fun action d hadmissible hd => hd.next hadmissible (step_move profile action d))
    withinBounds_start h

/-- In every run of admissible steps, everything that was produced can be written exactly if every
step had evidence that is small enough. -/
theorem drive_framesFit_iff [LawfulSha256] (h : ∀ action ∈ actions, Admissible action) :
    FramesFit (drive profile actions) ↔ MeetAlong (step profile) EvidenceFits .start actions := by
  rw [drive, runFrom_iff_meetAlong WithinBounds FramesFit Admissible
    (fun action d hadmissible hd => hd.next hadmissible (step_move profile action d))
    (fun action d hadmissible hd => framesFit_step profile hd hadmissible) withinBounds_start h]
  exact and_iff_right framesFit_start

end Runs

/-- The steps of the sample are what the host asks for. -/
theorem admissible_sampleStarted : ∀ action ∈ sampleStarted, Admissible action := by
  intro action haction
  simp only [sampleStarted, List.mem_cons, List.not_mem_nil, or_false] at haction
  obtain rfl | rfl | rfl := haction
  · trivial
  · trivial
  · exact ⟨by decide +kernel, by decide, by decide⟩

set_option maxRecDepth 100000 in
/-- The sample turn ends in a frame that can be written. -/
theorem drive_framesFit_iff_endedRun : FramesFit (sampleDrive endedRun) := by
  refine (@drive_framesFit_iff _ sampleHttpSyntax sampleProfile endedRun _ ?_).2 ?_
  · intro action haction
    rw [endedRun, List.append_assoc, List.mem_append] at haction
    obtain hstarted | hended := haction
    · exact admissible_sampleStarted action hstarted
    · simp only [answeredTurn, List.cons_append, List.nil_append, List.mem_cons, List.not_mem_nil,
        or_false] at hended
      obtain rfl | rfl | rfl | rfl := hended <;> trivial
  · refine ⟨trivial, trivial, trivial, trivial, ?_, trivial, trivial, trivial⟩
    intro monitor outcome turn hmonitor hdecided hturn
    have hmonitors : (sampleDrive (sampleStarted ++ (answeredTurn 0).take 1)).monitors =
        [⟨"s", sampleFence "i", none, .decided (.known
          (.object [("stopReason", .string "end_turn")]) none)⟩] := by
      decide +kernel
    have hactive : (sampleDrive (sampleStarted ++ (answeredTurn 0).take 1)).activeOn "s" =
        some (.start (sampleTurn "i") 0) := by
      decide +kernel
    cases (congrArg (·[0]?) hmonitors).symm.trans hmonitor
    cases hdecided
    cases hactive.symm.trans hturn
    decide +kernel

/-! ## Evidence that is too large -/

/-- The turn of the sample asks for consent to a tool call of a given text. -/
def askedFor (text : String) : Value := .object [("sessionId", .string "s"), ("toolCall", .string text)]

def askedRun (text : String) : List Action := sampleStarted ++ [.permission (askedFor text) "q" 5]

/-- A text of as many bytes. -/
def longText (bytes : Nat) : String := String.ofList (List.replicate bytes 'a')

theorem utf8ByteSize_longText (bytes : Nat) : (longText bytes).utf8ByteSize = bytes := by
  have hletter : Char.utf8Size 'a' = 1 := by decide
  rw [longText, Serde.utf8ByteSize_ofList, List.map_replicate, List.sum_replicate, hletter]
  exact Nat.mul_one bytes

set_option maxRecDepth 100000 in
/-- A tool call of at least a frame is not written, whatever its text. -/
theorem permission_unwritable {text : String} (htext : maxFrameBytes ≤ text.utf8ByteSize) :
    ¬ FramesFit (sampleDrive (askedRun text)) := by
  have hactive : (sampleDrive sampleStarted).activeOn "s" = some (.start (sampleTurn "i") 0) := by
    decide +kernel
  have hbounds : WithinBounds (sampleDrive sampleStarted) :=
    @drive_withinBounds _ sampleHttpSyntax sampleProfile _ admissible_sampleStarted
  have hsnoc : sampleDrive (askedRun text) =
      @step _ sampleHttpSyntax sampleProfile (.permission (askedFor text) "q" 5)
        (sampleDrive sampleStarted) := runFrom_snoc _ _ _ _
  have hadmissible : Admissible (.permission (askedFor text) "q" 5) := trivial
  rw [hsnoc, @framesFit_step _ _ _ sampleHttpSyntax sampleProfile hbounds _ hadmissible]
  rintro ⟨-, hfits⟩
  have hsession : (askedFor text).getStr "sessionId" = some "s" := by
    simp [askedFor, Value.getStr, Value.get, Value.asStr]
  have hcall : ((askedFor text).get "toolCall").getD .null = .string text := by
    simp [askedFor, Value.get]
  have hsize := hfits "s" (.start (sampleTurn "i") 0) hsession hactive
  have hlong := Serde.le_stringSize text
  rw [permissionSize, hcall, Serde.size_string] at hsize
  omega

/-- A permission request is not written when its tool call is a mebibyte long. -/
theorem permission_unwritable_askedRun :
    ¬ FramesFit (sampleDrive (askedRun (longText 1048576))) :=
  permission_unwritable (Nat.le_of_eq (utf8ByteSize_longText 1048576).symm)

end Fleetd.AcpHost
