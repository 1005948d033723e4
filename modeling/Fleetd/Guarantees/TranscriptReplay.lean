import Mathlib.Algebra.GroupWithZero.Nat
import Fleetd.Guarantees.TurnTerminal

/-!
# Replays beside turns

A replay claims the updates of its session as long as it is in flight, and its totals account for
what it forwarded. Both rest on the replay being alone on its session: starting a turn does not
look for one, and neither does opening or closing the session.
-/

namespace Fleetd.AcpHost

open Serde (Value)
open Harness Effects Relational

/-! ## Entries and totals -/

/-- The entry that an item carries for a replay. -/
def entryFor (number : Nat) (outbound : Outbound) : Option TranscriptEntry :=
  match outbound.subject, outbound.notification with
  | .replay other, .transcriptEntry entry => if other = number then some entry else none
  | _, _ => none

/-- The entries that were forwarded for a replay, sent or not. -/
def forwarded (d : Driver) (number : Nat) : List TranscriptEntry :=
  (d.mail.channel ++ d.mail.outbox).filterMap (entryFor number)

/-- The encoded size of an entry. -/
def payloadBytes (entry : TranscriptEntry) : Nat := byteLen entry.rawUpdate.print

/-- The totals of a notification that completes a replay. -/
def completeOf : Notification → Option TranscriptComplete
  | .transcriptComplete complete => some complete
  | _ => none

/-- Whether an item completes a replay. -/
def isCompleteOf (number : Nat) (outbound : Outbound) : Bool :=
  decide (outbound.subject = .replay number) && (completeOf outbound.notification).isSome

/-- The notification that completes a replay as its task sends it. -/
def completeItem (number : Nat) (complete : TranscriptComplete) : Outbound :=
  ⟨.replay number, .replay number, .transcriptComplete complete⟩

/-- Totals that account for the entries of a replay among the updates that arrived for it. -/
structure Tallies (entries : List TranscriptEntry) (seen : List Value) (count bytes : Nat)
    (truncated : Bool) : Prop where
  counted : entries.length = count
  numbered : (entries.map (·.entrySeq)).Perm (List.range' 1 count)
  updates : (entries.map (·.rawUpdate)).Perm (seen.take count)
  sized : (entries.map payloadBytes).sum = bytes
  truncates : truncated = true ↔ count < seen.length

section Tallies
variable {entries entries' : List TranscriptEntry} {seen : List Value} {count bytes : Nat}
  {truncated : Bool}

theorem tallies_nil : Tallies [] [] 0 0 false :=
  ⟨rfl, List.Perm.refl _, List.Perm.refl _, rfl, by simp⟩

/-- No more entries than updates were forwarded. -/
theorem Tallies.count_le (h : Tallies entries seen count bytes truncated) : count ≤ seen.length := by
  have hlength := h.updates.length_eq
  rw [List.length_map, h.counted, List.length_take] at hlength
  omega

/-- The order in which entries are sent does not matter. -/
theorem Tallies.perm (h : Tallies entries seen count bytes truncated) (hperm : entries'.Perm entries) :
    Tallies entries' seen count bytes truncated :=
  ⟨hperm.length_eq.trans h.counted, (hperm.map _).trans h.numbered, (hperm.map _).trans h.updates,
    (hperm.map payloadBytes).sum_nat.trans h.sized, h.truncates⟩

/-- One more update is forwarded. -/
theorem Tallies.forward (h : Tallies entries seen count bytes false) {entry : TranscriptEntry}
    (hseq : entry.entrySeq = count + 1) {update : Value} (hraw : entry.rawUpdate = update) :
    Tallies (entries ++ [entry]) (seen ++ [update]) (count + 1) (bytes + byteLen update.print) false := by
  have hlength : count = seen.length := by
    have hle := h.count_le
    have hnot : ¬ count < seen.length := fun hlt => Bool.false_ne_true (h.truncates.2 hlt)
    omega
  refine ⟨?_, ?_, ?_, ?_, ?_⟩
  · rw [List.length_append, List.length_singleton, h.counted]
  · rw [List.map_append, List.map_singleton, hseq, List.range'_concat, Nat.one_mul, Nat.add_comm 1]
    exact h.numbered.append_right _
  · have htake : (seen ++ [update]).take (count + 1) = seen.take count ++ [update] := by
      rw [hlength, List.take_length, List.take_of_length_le (by simp)]
    rw [List.map_append, List.map_singleton, hraw, htake]
    exact h.updates.append_right _
  · rw [List.map_append, List.sum_append, h.sized, List.map_singleton, List.sum_singleton,
      payloadBytes, hraw]
  · simp [hlength]

/-- One more update is not forwarded. -/
theorem Tallies.refuse (h : Tallies entries seen count bytes truncated) (update : Value) :
    Tallies entries (seen ++ [update]) count bytes true := by
  have hle := h.count_le
  refine ⟨h.counted, h.numbered, ?_, h.sized, ?_⟩
  · rw [List.take_append_of_le_length hle]
    exact h.updates
  · rw [List.length_append, List.length_singleton]
    exact iff_of_true rfl (by omega)

end Tallies

/-- The running totals of a replay in flight. -/
structure CaptureFits (capture : TranscriptCapture) (entries : List TranscriptEntry)
    (seen : List Value) : Prop where
  tallies : Tallies entries seen capture.entryCount capture.observedPayloadBytes capture.truncated
  next : capture.nextEntrySeq = capture.entryCount + 1
  count : capture.entryCount ≤ maxTranscriptEntries
  bytes : capture.observedPayloadBytes ≤ maxTranscriptBytes

/-- An update of a replay is forwarded, or the replay is truncated. -/
theorem captureTranscriptEntry_cases {capture : TranscriptCapture}
    (hnext : capture.nextEntrySeq = capture.entryCount + 1)
    (sessionRef : String) (update : Value) (now : Int) :
    (capture.truncated = false ∧ capture.entryCount + 1 ≤ maxTranscriptEntries ∧
      capture.observedPayloadBytes + byteLen update.print ≤ maxTranscriptBytes ∧
      captureTranscriptEntry capture sessionRef update now =
        ({ capture with
          nextEntrySeq := capture.nextEntrySeq + 1
          entryCount := capture.entryCount + 1
          observedPayloadBytes := capture.observedPayloadBytes + byteLen update.print },
        some ⟨sessionRef, capture.nextEntrySeq, now, classifyUpdate update, update⟩)) ∨
    captureTranscriptEntry capture sessionRef update now = ({ capture with truncated := true }, none) := by
  unfold captureTranscriptEntry
  split
  · rename_i htruncated
    right
    rw [← htruncated]
  · rename_i hopen
    dsimp only
    split
    · exact .inr rfl
    · rename_i hroom
      rw [not_or] at hroom
      have hlarge : maxTranscriptBytes < u64Max := by decide
      have hentries : maxTranscriptEntries < u64Max := by decide
      have hbytes : capture.observedPayloadBytes + byteLen update.print ≤ maxTranscriptBytes := by
        omega
      refine .inl ⟨Bool.eq_false_iff.2 hopen, by omega, hbytes, ?_⟩
      rw [Nat.min_eq_left (by omega), Nat.min_eq_left (by omega), Nat.min_eq_left (by omega)]

/-! ## Replays -/

/-- A step that does not disturb a replay in flight: no turn starts on its session, and the session
is neither opened again nor closed. -/
def KeepsReplays (action : Action) (d : Driver) : Prop :=
  match action with
  | .startTurn request => ∀ result shared,
      AcpHost.startTurn request d.turns.length d.shared = .ok (result, shared) →
      d.captureOn request.sessionRef = none
  | .openAnswered answer => ∀ request sessionRef shared, d.serving = .opening request →
      openSession request answer d.shared = .ok (sessionRef, shared) → d.captureOn sessionRef = none
  | .close request => ∀ shared, closeSession request d.shared = .ok shared →
      d.captureOn request.sessionRef = none
  | _ => True

/-- The notification that completes a replay, by its stage. -/
def CompletePosted (d : Driver) (number : Nat) (replay : Replay) : Prop :=
  match replay.stage with
  | .loading => d.mail.Unposted (isCompleteOf number)
  | .publishing => ∃ complete, d.mail.Waiting (isCompleteOf number) (completeItem number complete) ∧
      Tallies (forwarded d number) replay.seen complete.entryCount complete.observedPayloadBytes
        complete.truncated
  | .finished => ∃ complete, d.mail.Sent (isCompleteOf number) (completeItem number complete) ∧
      Tallies (forwarded d number) replay.seen complete.entryCount complete.observedPayloadBytes
        complete.truncated

/-- Replays in flight are alone on their sessions, and account for what they forwarded. -/
structure ReplaysKept (d : Driver) : Prop where
  exclusive : ∀ sessionRef capture, d.captureOn sessionRef = some capture →
    d.activeOn sessionRef = none
  capture : ∀ sessionRef capture, d.captureOn sessionRef = some capture →
    ∃ replay : Replay, d.replays[capture.replay]? = some replay ∧ replay.sessionRef = sessionRef ∧
      replay.stage = .loading ∧ CaptureFits capture (forwarded d capture.replay) replay.seen
  loading : ∀ (number : Nat) (replay : Replay), d.replays[number]? = some replay →
    replay.stage = .loading →
    ∃ capture, d.captureOn replay.sessionRef = some capture ∧ capture.replay = number
  completes : ∀ (number : Nat) (replay : Replay), d.replays[number]? = some replay →
    CompletePosted d number replay
  unknown : ∀ number, d.replays.length ≤ number →
    d.mail.Unposted (isCompleteOf number) ∧ forwarded d number = []
  tasks : ∀ outbound ∈ d.mail.outbox, ∀ number, outbound.sender = .replay number ↔
    isCompleteOf number outbound = true

/-- What happens to the mail of other tasks. -/
structure OtherMail (d d' : Driver) : Prop where
  forwarded : ∀ number, (forwarded d' number).Perm (forwarded d number)
  completes : ∀ number, d.mail.Same (isCompleteOf number) d'.mail
  tasks : ∀ outbound ∈ d'.mail.outbox, outbound ∈ d.mail.outbox ∨
    ∀ number, outbound.sender ≠ .replay number ∧ isCompleteOf number outbound = false

section Steps
variable {d d' : Driver}

theorem OtherMail.of_same (hmail : d'.mail = d.mail) : OtherMail d d' := by
  refine ⟨?_, ?_, ?_⟩
  · intro number
    rw [AcpHost.forwarded, AcpHost.forwarded, hmail]
  · intro number
    rw [hmail]
    exact ⟨rfl, rfl⟩
  · intro outbound hmem
    rw [hmail] at hmem
    exact .inl hmem

/-- What is posted at the end is forwarded at the end. -/
theorem forwarded_post {outbound : Outbound} (hmail : d'.mail = d.mail.post outbound) (number : Nat) :
    forwarded d' number = forwarded d number ++ (entryFor number outbound).toList := by
  rw [forwarded, forwarded, hmail, Mailbox.post]
  cases hentry : entryFor number outbound <;> simp [hentry]

/-- The only waiting item that is new is the one that was posted. -/
theorem mem_outbox_post {outbound item : Outbound} (hmail : d'.mail = d.mail.post outbound)
    (hmem : item ∈ d'.mail.outbox) : item ∈ d.mail.outbox ∨ item = outbound := by
  rw [hmail] at hmem
  simpa [Mailbox.post] using hmem

theorem OtherMail.of_turn {outbound : Outbound} {number : Nat} (hmail : d'.mail = d.mail.post outbound)
    (hsubject : outbound.subject = .turn number) (hsender : ∀ number, outbound.sender ≠ .replay number) :
    OtherMail d d' := by
  have hcomplete : ∀ other, isCompleteOf other outbound = false := by
    intro other
    simp [isCompleteOf, hsubject]
  refine ⟨?_, ?_, ?_⟩
  · intro other
    have hentry : entryFor other outbound = none := by simp [entryFor, hsubject]
    rw [forwarded_post hmail, hentry, Option.toList_none, List.append_nil]
  · intro other
    rw [hmail]
    exact Mailbox.same_post (hcomplete other)
  · intro item hitem
    obtain hold | rfl := mem_outbox_post hmail hitem
    · exact .inl hold
    · exact .inr fun other => ⟨hsender other, hcomplete other⟩

/-- Sending keeps what was forwarded. -/
theorem forwarded_send {index : Nat} (hmail : d'.mail = d.mail.send index) (number : Nat) :
    (forwarded d' number).Perm (forwarded d number) := by
  rw [forwarded, forwarded, hmail]
  exact (Mailbox.all_send_perm index d.mail).filterMap _

theorem OtherMail.of_sent {index : Nat} {outbound : Outbound}
    (hwaiting : d.mail.outbox[index]? = some outbound)
    (hother : ∀ number, isCompleteOf number outbound = false)
    (hmail : d'.mail = d.mail.send index) : OtherMail d d' := by
  refine ⟨forwarded_send hmail, ?_, ?_⟩
  · intro number
    rw [hmail]
    exact Mailbox.same_send hwaiting (hother number)
  · intro item hitem
    rw [hmail] at hitem
    exact .inl (Mailbox.mem_outbox_of_send hitem)

theorem CaptureFits.perm {capture : TranscriptCapture} {entries entries' : List TranscriptEntry}
    {seen : List Value} (h : CaptureFits capture entries seen) (hperm : entries'.Perm entries) :
    CaptureFits capture entries' seen :=
  ⟨h.tallies.perm hperm, h.next, h.count, h.bytes⟩

/-- The completion of a replay does not depend on the mail of other tasks. -/
theorem CompletePosted.congr {number : Nat} {replay : Replay} (h : CompletePosted d number replay)
    (hforwarded : (forwarded d' number).Perm (forwarded d number))
    (hsame : d.mail.Same (isCompleteOf number) d'.mail) : CompletePosted d' number replay := by
  unfold CompletePosted at h ⊢
  split at h
  · exact h.same hsame
  · obtain ⟨complete, hwaiting, htallies⟩ := h
    exact ⟨complete, hwaiting.same hsame, htallies.perm hforwarded⟩
  · obtain ⟨complete, hsent, htallies⟩ := h
    exact ⟨complete, hsent.same hsame, htallies.perm hforwarded⟩

/-- A step that does not concern replays. -/
theorem ReplaysKept.of_other (h : ReplaysKept d) (hcapture : d'.captureOn = d.captureOn)
    (hactive : ∀ sessionRef capture, d.captureOn sessionRef = some capture →
      d'.activeOn sessionRef = none)
    (hreplays : d'.replays = d.replays) (hmail : OtherMail d d') : ReplaysKept d' := by
  refine ⟨?_, ?_, ?_, ?_, ?_, ?_⟩
  · rw [hcapture]
    exact hactive
  · rw [hcapture, hreplays]
    intro sessionRef capture hfound
    obtain ⟨replay, hreplay, hsession, hloading, hfits⟩ := h.capture sessionRef capture hfound
    exact ⟨replay, hreplay, hsession, hloading, hfits.perm (hmail.forwarded _)⟩
  · rw [hcapture, hreplays]
    exact h.loading
  · rw [hreplays]
    intro number replay hreplay
    exact (h.completes number replay hreplay).congr (hmail.forwarded _) (hmail.completes _)
  · rw [hreplays]
    intro number hnumber
    obtain ⟨hunposted, hnone⟩ := h.unknown number hnumber
    refine ⟨hunposted.same (hmail.completes _), ?_⟩
    have hperm := hmail.forwarded number
    rw [hnone] at hperm
    exact hperm.eq_nil
  · intro outbound hmem number
    obtain hold | hnew := hmail.tasks outbound hmem
    · exact h.tasks outbound hold number
    · exact iff_of_false (hnew number).1 (by rw [(hnew number).2]; exact Bool.false_ne_true)

/-- A step that touches nothing but turns. -/
theorem ReplaysKept.of_turn (h : ReplaysKept d) (hcapture : d'.captureOn = d.captureOn)
    {sessionRef : String} {active : Option ActiveTurn} (hfree : d.captureOn sessionRef = none)
    (hactive : d'.activeOn = Function.update d.activeOn sessionRef active)
    (hreplays : d'.replays = d.replays) (hmail : OtherMail d d') : ReplaysKept d' := by
  refine h.of_other hcapture ?_ hreplays hmail
  intro other capture hother
  rw [hactive, Function.update_of_ne]
  · exact h.exclusive other capture hother
  · rintro rfl
    rw [hfree] at hother
    cases hother

/-- A session with an active turn has no replay. -/
theorem ReplaysKept.free (h : ReplaysKept d) {sessionRef : String} {turn : ActiveTurn}
    (hturn : d.activeOn sessionRef = some turn) : d.captureOn sessionRef = none := by
  cases hcapture : d.captureOn sessionRef with
  | none => rfl
  | some capture =>
    rw [h.exclusive sessionRef capture hcapture] at hturn
    cases hturn

/-- An update of a session without a replay is noticed by none. -/
theorem ReplaysKept.notice (h : ReplaysKept d) {raw : Value}
    (hfree : ∀ sessionRef, raw.getStr "sessionId" = some sessionRef → raw.get "update" ≠ none →
      d.captureOn sessionRef = none) : d.replays.map (Replay.notice raw) = d.replays := by
  have hsame : ∀ replay ∈ d.replays, replay.notice raw = replay := by
    intro replay hmem
    obtain ⟨number, hnumber⟩ := List.mem_iff_getElem?.1 hmem
    unfold Replay.notice
    split
    · rename_i sessionRef update hsession hupdate
      split
      · rename_i hloading
        obtain ⟨capture, hcapture, -⟩ := h.loading number replay hnumber hloading.1
        rw [hloading.2, hfree sessionRef hsession (by rw [hupdate]; simp)] at hcapture
        cases hcapture
      · rfl
    · rfl
  calc d.replays.map (Replay.notice raw) = d.replays.map id := List.map_congr_left hsame
    _ = d.replays := List.map_id _

end Steps

section Moves
variable {d d' : Driver}

/-- An update arrives for the replay of its session. -/
theorem notice_eq {raw update : Value} {sessionRef : String}
    (hsession : raw.getStr "sessionId" = some sessionRef) (hupdate : raw.get "update" = some update)
    (replay : Replay) : replay.notice raw =
      if replay.stage = .loading ∧ replay.sessionRef = sessionRef then
        { replay with seen := replay.seen ++ [update] }
      else replay := by
  simp only [Replay.notice, hsession, hupdate]

/-- What an update of a replay does to the totals and the mail. -/
structure Captured (d d' : Driver) (number : Nat) (seen : List Value) (update : Value)
    (after : TranscriptCapture) : Prop where
  replay : after.replay = number
  fits : CaptureFits after (forwarded d' number) (seen ++ [update])
  others : ∀ other, other ≠ number → (forwarded d' other).Perm (forwarded d other)
  completes : ∀ other, d.mail.Same (isCompleteOf other) d'.mail
  tasks : ∀ outbound ∈ d'.mail.outbox, outbound ∈ d.mail.outbox ∨
    ∀ number, outbound.sender ≠ .replay number ∧ isCompleteOf number outbound = false

/-- The totals go on with the update, or the replay is truncated. -/
theorem CaptureFits.captured {before : TranscriptCapture} {seen : List Value} {sessionRef : String}
    {update : Value} {now : Int} (h : CaptureFits before (forwarded d before.replay) seen)
    (hmail : d'.mail = match (captureTranscriptEntry before sessionRef update now).2 with
      | some entry => d.mail.post ⟨.replay
          (captureTranscriptEntry before sessionRef update now).1.replay, .update,
          .transcriptEntry entry⟩
      | none => d.mail) :
    Captured d d' before.replay seen update
      (captureTranscriptEntry before sessionRef update now).1 := by
  obtain ⟨hopen, hcount, hbytes, hcapture⟩ | hcapture :=
    captureTranscriptEntry_cases h.next sessionRef update now
  · rw [hcapture] at hmail ⊢
    simp only at hmail
    have hcomplete : ∀ other, isCompleteOf other ⟨.replay before.replay, .update,
        .transcriptEntry ⟨sessionRef, before.nextEntrySeq, now, classifyUpdate update, update⟩⟩ =
        false := by
      intro other
      simp [isCompleteOf, completeOf]
    have htallies := h.tallies
    rw [hopen] at htallies
    refine ⟨rfl, ⟨?_, ?_, hcount, hbytes⟩, ?_, ?_, ?_⟩
    · rw [forwarded_post hmail]
      simp only [entryFor, if_true, Option.toList_some, hopen]
      exact htallies.forward h.next rfl
    · exact congrArg (· + 1) h.next
    · intro other hother
      rw [forwarded_post hmail]
      simp [entryFor, Ne.symm hother]
    · intro other
      rw [hmail]
      exact Mailbox.same_post (hcomplete other)
    · intro item hitem
      obtain hold | rfl := mem_outbox_post hmail hitem
      · exact .inl hold
      · exact .inr fun other => ⟨by simp, hcomplete other⟩
  · rw [hcapture] at hmail ⊢
    have hother := OtherMail.of_same hmail
    refine ⟨rfl, ⟨?_, h.next, h.count, h.bytes⟩, fun other _ => hother.forwarded other,
      hother.completes, hother.tasks⟩
    exact (h.tallies.perm (hother.forwarded _)).refuse update

/-- An update of a replay in flight. -/
theorem ReplaysKept.of_captured (h : ReplaysKept d) {raw update : Value} {sessionRef : String}
    {before after : TranscriptCapture} (hsession : raw.getStr "sessionId" = some sessionRef)
    (hupdate : raw.get "update" = some update) (hbefore : d.captureOn sessionRef = some before)
    (hactive : d'.activeOn = d.activeOn)
    (hcapture : d'.captureOn = Function.update d.captureOn sessionRef (some after))
    (hreplays : d'.replays = d.replays.map (Replay.notice raw)) {replay : Replay}
    (hreplay : d.replays[before.replay]? = some replay)
    (hcaptured : Captured d d' before.replay replay.seen update after) : ReplaysKept d' := by
  obtain ⟨found, hfound, hon, hloading, -⟩ := h.capture sessionRef before hbefore
  obtain rfl : replay = found := Option.some.inj (hreplay.symm.trans hfound)
  have hown : d'.replays[before.replay]? = some { replay with seen := replay.seen ++ [update] } := by
    rw [hreplays, List.getElem?_map, hreplay, Option.map_some, notice_eq hsession hupdate,
      if_pos ⟨hloading, hon⟩]
  -- no other replay is in flight on this session
  have hothers : ∀ number, number ≠ before.replay → d'.replays[number]? = d.replays[number]? := by
    intro number hne
    rw [hreplays, List.getElem?_map]
    cases hother : d.replays[number]? with
    | none => rfl
    | some other =>
      rw [Option.map_some, notice_eq hsession hupdate, if_neg]
      rintro ⟨hotherLoading, hotherSession⟩
      obtain ⟨capture, hother', hnumber⟩ := h.loading number other hother hotherLoading
      rw [hotherSession, hbefore] at hother'
      cases hother'
      exact hne hnumber.symm
  refine ⟨?_, ?_, ?_, ?_, ?_, ?_⟩
  · intro other capture hother
    rw [hactive]
    rw [hcapture] at hother
    by_cases hsame : other = sessionRef
    · rw [hsame]
      exact h.exclusive sessionRef before hbefore
    · rw [Function.update_of_ne hsame] at hother
      exact h.exclusive other capture hother
  · intro other capture hother
    rw [hcapture] at hother
    by_cases hsame : other = sessionRef
    · rw [hsame, Function.update_self] at hother
      cases hother
      rw [hcaptured.replay]
      exact ⟨_, hown, hon.trans hsame.symm, hloading, hcaptured.fits⟩
    · rw [Function.update_of_ne hsame] at hother
      obtain ⟨found, hfound', hfoundSession, hfoundLoading, hfits⟩ := h.capture other capture hother
      have hne : capture.replay ≠ before.replay := by
        intro heq
        rw [heq, hreplay] at hfound'
        cases hfound'
        exact hsame (hfoundSession.symm.trans hon)
      rw [hothers _ hne]
      exact ⟨found, hfound', hfoundSession, hfoundLoading, hfits.perm (hcaptured.others _ hne)⟩
  · intro number found hfound' hfoundLoading
    rw [hcapture]
    by_cases hne : number = before.replay
    · subst hne
      rw [hown] at hfound'
      cases hfound'
      exact ⟨after, by rw [hon, Function.update_self], hcaptured.replay⟩
    · rw [hothers number hne] at hfound'
      obtain ⟨capture, hother, hnumber⟩ := h.loading number found hfound' hfoundLoading
      refine ⟨capture, ?_, hnumber⟩
      rw [Function.update_of_ne]
      · exact hother
      · intro hsame
        rw [hsame, hbefore] at hother
        cases hother
        exact hne hnumber.symm
  · intro number found hfound'
    by_cases hne : number = before.replay
    · subst hne
      rw [hown] at hfound'
      cases hfound'
      have hposted := h.completes _ replay hreplay
      unfold CompletePosted at hposted ⊢
      rw [hloading] at hposted
      simp only [hloading]
      exact hposted.same (hcaptured.completes _)
    · rw [hothers number hne] at hfound'
      exact (h.completes number found hfound').congr (hcaptured.others number hne)
        (hcaptured.completes number)
  · intro number hnumber
    rw [hreplays, List.length_map] at hnumber
    have hne : number ≠ before.replay := by
      rintro rfl
      have hlength := (List.getElem?_eq_some_iff.1 hreplay).1
      omega
    obtain ⟨hunposted, hnone⟩ := h.unknown number hnumber
    refine ⟨hunposted.same (hcaptured.completes _), ?_⟩
    have hperm := hcaptured.others number hne
    rw [hnone] at hperm
    exact hperm.eq_nil
  · intro outbound hmem number
    obtain hold | hnew := hcaptured.tasks outbound hmem
    · exact h.tasks outbound hold number
    · exact iff_of_false (hnew number).1 (by rw [(hnew number).2]; exact Bool.false_ne_true)

/-- A replay starts alone on its session. -/
theorem ReplaysKept.of_replayed (h : ReplaysKept d) {sessionRef : String}
    (hinactive : d.activeOn sessionRef = none) (hfree : d.captureOn sessionRef = none)
    (hactive : d'.activeOn = d.activeOn)
    (hcapture : d'.captureOn = Function.update d.captureOn sessionRef
      (some (.start d.replays.length)))
    (hreplays : d'.replays = d.replays ++ [⟨sessionRef, .loading, []⟩]) (hmail : d'.mail = d.mail) :
    ReplaysKept d' := by
  have hforwarded : ∀ number, forwarded d' number = forwarded d number := by
    intro number
    rw [forwarded, forwarded, hmail]
  obtain ⟨hunposted, hnone⟩ := h.unknown d.replays.length (Nat.le_refl _)
  refine ⟨?_, ?_, ?_, ?_, ?_, ?_⟩
  · intro other capture hother
    rw [hactive]
    rw [hcapture] at hother
    by_cases hsame : other = sessionRef
    · rw [hsame]
      exact hinactive
    · rw [Function.update_of_ne hsame] at hother
      exact h.exclusive other capture hother
  · intro other capture hother
    rw [hcapture] at hother
    rw [hreplays, hforwarded]
    by_cases hsame : other = sessionRef
    · rw [hsame, Function.update_self] at hother
      cases hother
      refine ⟨_, List.getElem?_concat_length, hsame.symm, rfl, ?_⟩
      change CaptureFits _ (forwarded d d.replays.length) []
      rw [hnone]
      exact ⟨tallies_nil, rfl, Nat.zero_le _, Nat.zero_le _⟩
    · rw [Function.update_of_ne hsame] at hother
      obtain ⟨found, hfound, hrest⟩ := h.capture other capture hother
      rw [List.getElem?_append_left (List.getElem?_eq_some_iff.1 hfound).1]
      exact ⟨found, hfound, hrest⟩
  · intro number replay hreplay hloading
    rw [hreplays, List.getElem?_append] at hreplay
    rw [hcapture]
    split at hreplay
    · obtain ⟨capture, hother, hnumber⟩ := h.loading number replay hreplay hloading
      refine ⟨capture, ?_, hnumber⟩
      rw [Function.update_of_ne]
      · exact hother
      · intro hsame
        rw [hsame, hfree] at hother
        cases hother
    · rename_i hlength
      rw [List.getElem?_singleton] at hreplay
      split at hreplay
      · cases hreplay
        refine ⟨_, Function.update_self _ _ _, ?_⟩
        change d.replays.length = number
        omega
      · cases hreplay
  · intro number replay hreplay
    rw [hreplays, List.getElem?_append] at hreplay
    have hsame : d.mail.Same (isCompleteOf number) d'.mail := by
      rw [hmail]
      exact ⟨rfl, rfl⟩
    split at hreplay
    · exact (h.completes number replay hreplay).congr (by rw [hforwarded]) hsame
    · rename_i hlength
      rw [List.getElem?_singleton] at hreplay
      split at hreplay
      · cases hreplay
        exact (h.unknown number (Nat.le_of_not_lt hlength)).1.same hsame
      · cases hreplay
  · intro number hnumber
    rw [hreplays, List.length_append] at hnumber
    rw [hforwarded, hmail]
    exact h.unknown number (by omega)
  · rw [hmail]
    exact h.tasks

/-- The totals that a replay takes are the ones of its session. -/
theorem completeTranscript_of_capture {sessionRef : String} {capture : TranscriptCapture}
    (hcapture : d.captureOn sessionRef = some capture) (failure : Option String) :
    (completeTranscript sessionRef failure d.shared).1 =
      ⟨sessionRef, capture.entryCount, capture.observedPayloadBytes, capture.truncated,
        failure.map boundedReason⟩ := by
  unfold Driver.captureOn at hcapture
  rw [Option.bind_eq_some_iff] at hcapture
  obtain ⟨session, hlookup, hsession⟩ := hcapture
  simp [completeTranscript, hlookup, hsession]

/-- A replay is complete. -/
theorem ReplaysKept.of_completed (h : ReplaysKept d) {number : Nat} {replay : Replay}
    {failure : Option String} (hreplay : d.replays[number]? = some replay)
    (hloading : replay.stage = .loading) (hactive : d'.activeOn = d.activeOn)
    (hcapture : d'.captureOn = Function.update d.captureOn replay.sessionRef none)
    (hreplays : d'.replays = d.replays.set number { replay with stage := .publishing })
    (hmail : d'.mail = d.mail.post ⟨.replay number, .replay number,
      .transcriptComplete (completeTranscript replay.sessionRef failure d.shared).1⟩) :
    ReplaysKept d' := by
  obtain ⟨capture, hown, hnumber⟩ := h.loading number replay hreplay hloading
  obtain ⟨found, hfound, -, -, hfits⟩ := h.capture _ capture hown
  rw [hnumber] at hfound hfits
  obtain rfl : replay = found := Option.some.inj (hreplay.symm.trans hfound)
  have hcomplete := completeTranscript_of_capture hown failure
  generalize (completeTranscript replay.sessionRef failure d.shared).1 = complete at hmail hcomplete
  change d'.mail = d.mail.post (completeItem number complete) at hmail
  have hforwarded : ∀ other, forwarded d' other = forwarded d other := by
    intro other
    rw [forwarded_post hmail]
    simp [entryFor, completeItem]
  have hsame : ∀ other, other ≠ number → d.mail.Same (isCompleteOf other) d'.mail := by
    intro other hother
    rw [hmail]
    exact Mailbox.same_post (by simp [isCompleteOf, completeItem, Ne.symm hother])
  have hgetElem : ∀ other, d'.replays[other]? =
      if other = number then some { replay with stage := .publishing } else d.replays[other]? := by
    intro other
    rw [hreplays]
    by_cases hother : other = number
    · rw [if_pos hother, hother, List.getElem?_set_self (List.getElem?_eq_some_iff.1 hreplay).1]
    · rw [if_neg hother, List.getElem?_set_ne (Ne.symm hother)]
  refine ⟨?_, ?_, ?_, ?_, ?_, ?_⟩
  · intro other found hother
    rw [hactive]
    rw [hcapture] at hother
    by_cases hsession : other = replay.sessionRef
    · rw [hsession, Function.update_self] at hother
      cases hother
    · rw [Function.update_of_ne hsession] at hother
      exact h.exclusive other found hother
  · intro other found hother
    rw [hcapture] at hother
    by_cases hsession : other = replay.sessionRef
    · rw [hsession, Function.update_self] at hother
      cases hother
    · rw [Function.update_of_ne hsession] at hother
      obtain ⟨its, hits, hitsSession, hrest⟩ := h.capture other found hother
      rw [hgetElem, if_neg, hforwarded]
      · exact ⟨its, hits, hitsSession, hrest⟩
      · intro heq
        rw [heq, hreplay] at hits
        cases hits
        exact hsession hitsSession.symm
  · intro other its hits hitsLoading
    rw [hgetElem] at hits
    split at hits
    · cases hits
      cases hitsLoading
    · rename_i hne
      obtain ⟨found, hother, hfoundNumber⟩ := h.loading other its hits hitsLoading
      refine ⟨found, ?_, hfoundNumber⟩
      rw [hcapture, Function.update_of_ne]
      · exact hother
      · intro hsession
        rw [hsession, hown] at hother
        cases hother
        exact hne (hfoundNumber.symm.trans hnumber)
  · intro other its hits
    rw [hgetElem] at hits
    split at hits
    · rename_i heq
      subst heq
      cases hits
      have hposted := h.completes other replay hreplay
      unfold CompletePosted at hposted
      rw [hloading] at hposted
      refine ⟨complete, ?_, ?_⟩
      · rw [hmail]
        exact hposted.post (by simp [isCompleteOf, completeItem, completeOf])
      · rw [hforwarded, hcomplete]
        exact hfits.tallies
    · rename_i hne
      exact (h.completes other its hits).congr (by rw [hforwarded]) (hsame other hne)
  · intro other hother
    rw [hreplays, List.length_set] at hother
    have hne : other ≠ number := by
      rintro rfl
      have hlength := (List.getElem?_eq_some_iff.1 hreplay).1
      omega
    obtain ⟨hunposted, hnone⟩ := h.unknown other hother
    exact ⟨hunposted.same (hsame other hne), (hforwarded other).trans hnone⟩
  · intro outbound hmem other
    obtain hold | rfl := mem_outbox_post hmail hmem
    · exact h.tasks outbound hold other
    · simp [completeItem, isCompleteOf, completeOf]

/-- The completion of a replay is sent. -/
theorem ReplaysKept.of_sent (h : ReplaysKept d) {index : Nat} {outbound : Outbound}
    (hwaiting : d.mail.outbox[index]? = some outbound) {number : Nat}
    (hsender : outbound.sender = .replay number) (hactive : d'.activeOn = d.activeOn)
    (hcapture : d'.captureOn = d.captureOn)
    (hreplays : d'.replays = replaysSent (.replay number) d.replays)
    (hmail : d'.mail = d.mail.send index) : ReplaysKept d' := by
  have hmem := List.mem_of_getElem? hwaiting
  have hcomplete := (h.tasks outbound hmem number).1 hsender
  have hother : ∀ other, other ≠ number → isCompleteOf other outbound = false := by
    intro other hne
    rw [isCompleteOf, Bool.and_eq_true, decide_eq_true_eq] at hcomplete
    simp [isCompleteOf, hcomplete.1, Ne.symm hne]
  have hin : outbound ∈ d.mail.outbox.filter (isCompleteOf number) := List.mem_filter.2 ⟨hmem, hcomplete⟩
  have hforwarded := forwarded_send hmail
  have hsame : ∀ other, other ≠ number → d.mail.Same (isCompleteOf other) d'.mail := by
    intro other hne
    rw [hmail]
    exact Mailbox.same_send hwaiting (hother other hne)
  have hgetElem : ∀ other, d'.replays[other]? = if number = other then
      d.replays[other]?.map (fun replay => { replay with stage := .finished })
      else d.replays[other]? := by
    intro other
    rw [hreplays, replaysSent, List.getElem?_modify]
    split
    · rfl
    · simp
  refine ⟨?_, ?_, ?_, ?_, ?_, ?_⟩
  · rw [hactive, hcapture]
    exact h.exclusive
  · intro other found hfound
    rw [hcapture] at hfound
    obtain ⟨its, hits, hsession, hloading, hfits⟩ := h.capture other found hfound
    rw [hgetElem, if_neg]
    · exact ⟨its, hits, hsession, hloading, hfits.perm (hforwarded _)⟩
    · -- a replay in flight has not posted its completion
      intro heq
      rw [← heq] at hits
      have hposted := h.completes number its hits
      unfold CompletePosted at hposted
      rw [hloading] at hposted
      rw [hposted.outbox] at hin
      cases hin
  · intro other its hits hloading
    rw [hgetElem] at hits
    rw [hcapture]
    split at hits
    · rw [Option.map_eq_some_iff] at hits
      obtain ⟨before, _, rfl⟩ := hits
      cases hloading
    · exact h.loading other its hits hloading
  · intro other its hits
    rw [hgetElem] at hits
    split at hits
    · rename_i heq
      subst heq
      rw [Option.map_eq_some_iff] at hits
      obtain ⟨before, hbefore, rfl⟩ := hits
      have hposted := h.completes number before hbefore
      unfold CompletePosted at hposted
      split at hposted
      · rw [hposted.outbox] at hin
        cases hin
      · obtain ⟨complete, hposted, htallies⟩ := hposted
        obtain ⟨-, hsent⟩ := hposted.send hwaiting hcomplete
        rw [← hmail] at hsent
        exact ⟨complete, hsent, htallies.perm (hforwarded _)⟩
      · obtain ⟨complete, hposted, -⟩ := hposted
        rw [hposted.outbox] at hin
        cases hin
    · rename_i hne
      exact (h.completes other its hits).congr (hforwarded other) (hsame other (Ne.symm hne))
  · intro other hlength
    rw [hreplays, replaysSent, List.length_modify] at hlength
    obtain ⟨hunposted, hnone⟩ := h.unknown other hlength
    have hne : other ≠ number := by
      rintro rfl
      rw [hunposted.outbox] at hin
      cases hin
    refine ⟨hunposted.same (hsame other hne), ?_⟩
    have hperm := hforwarded other
    rw [hnone] at hperm
    exact hperm.eq_nil
  · intro item hitem other
    rw [hmail] at hitem
    exact h.tasks item (Mailbox.mem_outbox_of_send hitem) other

end Moves

theorem ReplaysKept.next [Sha256] {d d' : Driver} {action : Action} (h : ReplaysKept d)
    (hkeeps : KeepsReplays action d) (hmove : Move d action d') : ReplaysKept d' := by
  have hsame : d'.activeOn = d.activeOn → ∀ sessionRef capture,
      d.captureOn sessionRef = some capture → d'.activeOn sessionRef = none := by
    intro hactive sessionRef capture hcapture
    rw [hactive]
    exact h.exclusive sessionRef capture hcapture
  cases hmove with
  | quiet hactive hcapture _ hreplays hmail =>
    exact h.of_other hcapture (hsame hactive) hreplays (.of_same hmail)
  | opened hserving hopens hactive hcapture _ hreplays hmail =>
    have hfree := hkeeps _ _ _ hserving hopens
    rw [← hfree, Function.update_eq_self] at hcapture
    exact h.of_turn hcapture hfree hactive hreplays (.of_same hmail)
  | closed hcloses _ hactive hcapture _ hreplays hmail =>
    have hfree := hkeeps _ hcloses
    rw [← hfree, Function.update_eq_self] at hcapture
    exact h.of_other hcapture (hsame hactive) hreplays (.of_same hmail)
  | started hstarts _ hactive hcapture _ hreplays hmail =>
    exact h.of_turn hcapture (hkeeps _ _ hstarts) hactive hreplays (.of_same hmail)
  | ignored hignores hactive hcapture _ hreplays hmail =>
    rw [h.notice fun sessionRef hsession hupdate => (hignores sessionRef hsession hupdate).2]
      at hreplays
    exact h.of_other hcapture (hsame hactive) hreplays (.of_same hmail)
  | @folded raw now sessionRef update turn _ hsession _ hfree _ hactive hcapture _ hreplays hmail =>
    have hnotice : d.replays.map (Replay.notice raw) = d.replays := by
      refine h.notice ?_
      intro other hother _
      rw [hsession] at hother
      cases hother
      exact hfree
    rw [hnotice] at hreplays
    refine h.of_turn hcapture hfree hactive hreplays ?_
    cases hevent : (foldUpdate turn update now).2 with
    | error error =>
      rw [hevent] at hmail
      exact .of_same hmail
    | ok event =>
      rw [hevent] at hmail
      exact .of_turn hmail rfl (fun _ => by simp)
  | captured hsession hupdate hcapturing hactive hcapture _ hreplays hmail =>
    obtain ⟨replay, hreplay, -, -, hfits⟩ := h.capture _ _ hcapturing
    exact h.of_captured hsession hupdate hcapturing hactive hcapture hreplays hreplay
      (hfits.captured hmail)
  | asked _ _ hturned _ _ _ _ hactive hcapture _ hreplays hmail =>
    exact h.of_turn hcapture (h.free hturned) hactive hreplays
      (.of_turn hmail rfl (fun _ => by simp))
  | taken _ _ hturned hactive hcapture _ hreplays hmail =>
    exact h.of_turn hcapture (h.free hturned) hactive hreplays (.of_same hmail)
  | lost _ _ _ hactive hcapture _ hreplays hmail =>
    exact h.of_other hcapture (hsame hactive) hreplays (.of_same hmail)
  | offered _ _ hactive hcapture _ hreplays hmail =>
    exact h.of_other hcapture (hsame hactive) hreplays (.of_turn hmail rfl (fun _ => by simp))
  | replayed hinactive hfree hactive hcapture _ hreplays hmail =>
    exact h.of_replayed hinactive hfree hactive hcapture hreplays hmail
  | completed hreplaying hloading hactive hcapture _ hreplays hmail =>
    exact h.of_completed hreplaying hloading hactive hcapture hreplays hmail
  | @sent index outbound _ hwaiting hactive hcapture _ hreplays hmail =>
    have hmem := List.mem_of_getElem? hwaiting
    have hother : (∀ number, outbound.sender ≠ .replay number) →
        replaysSent outbound.sender d.replays = d.replays → ReplaysKept d' := by
      intro hsender hstay
      refine h.of_other hcapture (hsame hactive) (hreplays.trans hstay) (.of_sent hwaiting ?_ hmail)
      intro number
      rw [← Bool.not_eq_true, ← h.tasks outbound hmem number]
      exact hsender number
    cases hsender : outbound.sender with
    | replay number =>
      rw [hsender] at hreplays
      exact h.of_sent hwaiting hsender hactive hcapture hreplays hmail
    | update => exact hother (by simp [hsender]) (by rw [hsender]; rfl)
    | request handler => exact hother (by simp [hsender]) (by rw [hsender]; rfl)
    | monitor number => exact hother (by simp [hsender]) (by rw [hsender]; rfl)

theorem replaysKept_start : ReplaysKept .start := by
  refine ⟨?_, ?_, ?_, ?_, ?_, ?_⟩
  · intro sessionRef capture hcapture
    cases hcapture
  · intro sessionRef capture hcapture
    cases hcapture
  · intro number replay hreplay
    cases hreplay
  · intro number replay hreplay
    cases hreplay
  · intro number _
    exact ⟨⟨rfl, rfl⟩, rfl⟩
  · intro outbound hmem
    cases hmem

/-! ## Runs -/

/-- What is said about the replays of a driver. -/
structure ReplaysApart [Sha256] (d : Driver) : Prop where
  exclusive : ∀ sessionRef session, d.shared.sessions.lookup sessionRef = some session →
    session.active = none ∨ session.capturing = none
  folded : ∀ raw now sessionRef update turn, raw.getStr "sessionId" = some sessionRef →
    raw.get "update" = some update → d.activeOn sessionRef = some turn →
    Capturable turn update → turn.nextEventSeq < u64Max →
    ∃ event, (handleSessionUpdate raw now d.shared).posted =
        some ⟨.turn turn.watch, .update, .turnEvent event⟩ ∧
      event.fence = turn.fence ∧ event.eventSeq = turn.nextEventSeq ∧
      event.rawUpdate = boundJson update turn.policy.maxCapturedOutputBytes
  claimed : ∀ raw now sessionRef update (number : Nat) (replay : Replay),
    raw.getStr "sessionId" = some sessionRef → raw.get "update" = some update →
    d.replays[number]? = some replay → replay.stage = .loading → replay.sessionRef = sessionRef →
    (∃ entry, (handleSessionUpdate raw now d.shared).posted =
        some ⟨.replay number, .update, .transcriptEntry entry⟩ ∧ entry.rawUpdate = update) ∨
      (handleSessionUpdate raw now d.shared).posted = none ∧
        ∃ session capture, (handleSessionUpdate raw now d.shared).shared.sessions.lookup sessionRef =
          some session ∧ session.capturing = some capture ∧ capture.truncated = true
  unfinished : ∀ (number : Nat) (replay : Replay), d.replays[number]? = some replay →
    replay.stage ≠ .finished → d.mail.channel.filter (isCompleteOf number) = []
  finished : ∀ (number : Nat) (replay : Replay), d.replays[number]? = some replay →
    replay.stage = .finished → ∃ complete,
      d.mail.channel.filter (isCompleteOf number) = [completeItem number complete] ∧
      Tallies (forwarded d number) replay.seen complete.entryCount complete.observedPayloadBytes
        complete.truncated

/-- The record of a session that has an active turn or a replay. -/
theorem lookup_of_activeOn {d : Driver} {sessionRef : String} {turn : ActiveTurn}
    (h : d.activeOn sessionRef = some turn) :
    ∃ session, d.shared.sessions.lookup sessionRef = some session ∧ session.active = some turn :=
  Option.bind_eq_some_iff.1 h

theorem lookup_of_captureOn {d : Driver} {sessionRef : String} {capture : TranscriptCapture}
    (h : d.captureOn sessionRef = some capture) :
    ∃ session, d.shared.sessions.lookup sessionRef = some session ∧
      session.capturing = some capture :=
  Option.bind_eq_some_iff.1 h

theorem ReplaysKept.apart [Sha256] {d : Driver} (h : ReplaysKept d) : ReplaysApart d := by
  refine ⟨?_, ?_, ?_, ?_, ?_⟩
  · intro sessionRef session hlookup
    cases hcapturing : session.capturing with
    | none => exact .inr rfl
    | some capture =>
      have hinactive := h.exclusive sessionRef capture (by simp [Driver.captureOn, hlookup, hcapturing])
      left
      simpa [Driver.activeOn, hlookup] using hinactive
  · intro raw now sessionRef update turn hsession hupdate hturn hcapturable hroom
    have hfree := h.free hturn
    obtain ⟨session, hlookup, hactive⟩ := lookup_of_activeOn hturn
    have hcapturing : session.capturing = none := by
      simpa [Driver.captureOn, hlookup] using hfree
    obtain ⟨event, hevent, -, hfence, hseq, -, hraw⟩ := foldUpdate_event now hroom hcapturable
    refine ⟨event, ?_, hfence, hseq, hraw⟩
    simp only [handleSessionUpdate, hsession, hupdate, hlookup, hcapturing, hactive, hevent,
      Except.toOption, Option.map_some, (foldUpdate_same turn update now).watch]
  · intro raw now sessionRef update number replay hsession hupdate hreplay hloading hon
    obtain ⟨capture, hcapture, hnumber⟩ := h.loading number replay hreplay hloading
    rw [hon] at hcapture
    obtain ⟨found, -, -, -, hfits⟩ := h.capture sessionRef capture hcapture
    obtain ⟨session, hlookup, hcapturing⟩ := lookup_of_captureOn hcapture
    have hhandled : handleSessionUpdate raw now d.shared = {
        shared := { d.shared with
          sessions := d.shared.sessions.insert sessionRef { session with
            capturing := some (captureTranscriptEntry capture sessionRef update now).1 } }
        posted := (captureTranscriptEntry capture sessionRef update now).2.map fun entry =>
          ⟨.replay (captureTranscriptEntry capture sessionRef update now).1.replay, .update,
            .transcriptEntry entry⟩
        cancellation := none
        result := .ok () } := by
      simp only [handleSessionUpdate, hsession, hupdate, hlookup, hcapturing]
    rw [hhandled]
    obtain ⟨-, -, -, hentry⟩ | hentry := captureTranscriptEntry_cases hfits.next sessionRef update now
    · left
      rw [hentry]
      exact ⟨⟨sessionRef, capture.nextEntrySeq, now, classifyUpdate update, update⟩,
        by simp [hnumber], rfl⟩
    · right
      rw [hentry]
      exact ⟨rfl, _, _, AList.lookup_insert _, rfl, rfl⟩
  · intro number replay hreplay hstage
    have hposted := h.completes number replay hreplay
    unfold CompletePosted at hposted
    split at hposted
    · exact hposted.channel
    · obtain ⟨complete, hwaiting, -⟩ := hposted
      exact hwaiting.channel
    · rename_i hfinished
      exact absurd hfinished hstage
  · intro number replay hreplay hstage
    have hposted := h.completes number replay hreplay
    rw [CompletePosted, hstage] at hposted
    obtain ⟨complete, hsent, htallies⟩ := hposted
    exact ⟨complete, hsent.channel, htallies⟩

/-- In every run in which no turn starts on a session with a replay in flight, and no such session
is opened again or closed, turns and replays never mix and the totals of every replay are exact. -/
theorem drive_replaysApart [Sha256] [HttpSyntax] (profile : DriverProfile) {actions : List Action}
    (h : MeetAlong (step profile) KeepsReplays .start actions) :
    ReplaysApart (drive profile actions) := by
  have hkept : ReplaysKept (drive profile actions) :=
    h.induction ReplaysKept
      (fun action d hkeeps hd => hd.next hkeeps (step_move profile action d)) replaysKept_start
  exact hkept.apart

/-! ## A turn that starts during a replay -/

/-- The sample session is created, and its transcript is asked for. -/
def replayingRun : List Action := [
  .openRequested (sampleOpen .create),
  .openAnswered (.ok (.object [("sessionId", .string "s")])),
  .startTranscript ⟨⟨"B", 1, 1⟩, "s"⟩]

/-- A plan that the runtime reports. -/
def replayedPlan : Value :=
  .object [("sessionId", .string "s"), ("update", .object [("sessionUpdate", .string "plan")])]

/-- The sample transcript has one entry. -/
def replayedRun : List Action :=
  replayingRun ++ [.update replayedPlan 5, .send 0, .loaded 0 none, .send 0]

/-- The totals of the sample transcript are exact. -/
theorem drive_replaysApart_replayedRun : ReplaysApart (sampleDrive replayedRun) := by
  refine @drive_replaysApart _ sampleHttpSyntax sampleProfile replayedRun ?_
  refine ⟨trivial, ?_, trivial, trivial, trivial, trivial, trivial, trivial⟩
  intro request sessionRef shared hserving hopens
  rfl

/-- A turn starts during the replay, and the runtime reports a plan. -/
def mixedRun : List Action := replayingRun ++ [.startTurn (sampleTurn "i"), .update replayedPlan 5]

/-- The session is opened again during the replay. -/
def reopenedReplay : List Action := replayingRun ++ [
  .update replayedPlan 5, .send 0,
  .openRequested (sampleOpen (.resume "s")), .openAnswered (.ok (.object [])),
  .update replayedPlan 6, .loaded 0 none, .send 0]

set_option maxRecDepth 100000 in
/-- A turn that starts during a replay has its updates taken for entries, and a session that is
opened again loses the totals of its replay. -/
theorem replay_mixed_mixedRun :
    ((sampleDrive mixedRun).shared.sessions.lookup "s").map (fun session =>
      (session.active.isSome, session.capturing.isSome)) = some (true, true) ∧
    (sampleDrive mixedRun).mail.outbox.map (·.subject) = [.replay 0] ∧
    ¬ ReplaysApart (sampleDrive mixedRun) ∧
    (sampleDrive reopenedReplay).mail.channel.filterMap (fun outbound =>
      (completeOf outbound.notification).map fun complete =>
        (complete.entryCount, complete.truncated)) = [(0, false)] ∧
    (forwarded (sampleDrive reopenedReplay) 0).length = 1 ∧
    (sampleDrive reopenedReplay).replays.map (·.seen.length) = [2] := by
  have hmixed : ((sampleDrive mixedRun).shared.sessions.lookup "s").map (fun session =>
      (session.active.isSome, session.capturing.isSome)) = some (true, true) := by
    decide +kernel
  refine ⟨hmixed, by decide +kernel, ?_, by decide +kernel, by decide +kernel, by decide +kernel⟩
  intro h
  rw [Option.map_eq_some_iff] at hmixed
  obtain ⟨session, hlookup, hboth⟩ := hmixed
  rw [Prod.mk.injEq] at hboth
  obtain hnone | hnone := h.exclusive "s" session hlookup
  · rw [hnone] at hboth
    cases hboth.1
  · rw [hnone] at hboth
    cases hboth.2

end Fleetd.AcpHost
