import Mathlib.Logic.Relation
import Fleetd.Client.ChannelStream

/-!
# What the stream clients do in one step

Each callback of a client is a few elementary moves: an attempt is eased without taking
anything, a message is taken, delivered, accepted or rejected, an attempt is opened or left.
What holds after every move holds after every step.
-/

namespace Fleetd

open Relational Replay

variable {Json : Type}

/-! ## The lane -/

/-- The classification of a message that contradicts nothing goes by the cursor. -/
theorem classifyDuplicate_cases (message : Message Json) (cursor : Nat)
    (identities : AcceptedIdentityIndex) :
    (classifyDuplicate message cursor identities = .duplicate → message.seq ≤ cursor) ∧
      (classifyDuplicate message cursor identities = .new → cursor < message.seq) := by
  unfold classifyDuplicate
  split
  · exact ⟨nofun, nofun⟩
  · split
    · exact ⟨nofun, nofun⟩
    · split
      · exact ⟨fun _ => by assumption, nofun⟩
      · exact ⟨nofun, fun _ => Nat.lt_of_not_le (by assumption)⟩

/-- A message that is offered is above the cursor, and what stood before it is not. -/
theorem drainPending_offered {cursor : Nat} {identities : AcceptedIdentityIndex}
    {pending rest : List (Message Json)} {message : Message Json}
    (h : drainPending cursor identities pending = .offered message rest) :
    cursor < message.seq ∧ ∃ skipped, pending = skipped ++ message :: rest ∧
      ∀ m ∈ skipped, m.seq ≤ cursor := by
  induction pending with
  | nil => cases h
  | cons first pending ih =>
    rw [drainPending] at h
    cases hclass : classifyDuplicate first cursor identities with
    | conflict =>
      rw [hclass] at h
      cases h
    | duplicate =>
      rw [hclass] at h
      obtain ⟨hlt, skipped, rfl, hskipped⟩ := ih h
      refine ⟨hlt, first :: skipped, rfl, fun m hm => ?_⟩
      rcases List.mem_cons.mp hm with rfl | hm
      · exact (classifyDuplicate_cases m cursor identities).1 hclass
      · exact hskipped m hm
    | new =>
      rw [hclass] at h
      cases h
      exact ⟨(classifyDuplicate_cases message cursor identities).2 hclass, [], rfl,
        fun _ hm => (by cases hm)⟩

/-- A lane that is drained without an offer held nothing above the cursor. -/
theorem drainPending_idle {cursor : Nat} {identities : AcceptedIdentityIndex}
    {pending : List (Message Json)} (h : drainPending cursor identities pending = .idle) :
    ∀ m ∈ pending, m.seq ≤ cursor := by
  induction pending with
  | nil => exact fun _ hm => (by cases hm)
  | cons first pending ih =>
    rw [drainPending] at h
    cases hclass : classifyDuplicate first cursor identities with
    | duplicate =>
      rw [hclass] at h
      intro m hm
      rcases List.mem_cons.mp hm with rfl | hm
      · exact (classifyDuplicate_cases m cursor identities).1 hclass
      · exact ih h m hm
    | conflict | new =>
      rw [hclass] at h
      cases h

/-! ## One attempt -/

/-- The messages above a cursor. -/
def above (cursor : Nat) (messages : List (Message Json)) : List (Message Json) :=
  messages.filter fun m => decide (cursor < m.seq)

/-- What the handlers may do to an attempt besides taking a message: the message with the
consumer stays there, and what a live attempt holds above the cursor stays too. -/
structure SocketAttempt.Eases (cursor : Nat) (a b : SocketAttempt Json) : Prop where
  accepting : b.lane.accepting = a.lane.accepting
  expectedAfter : b.expectedAfter = a.expectedAfter
  received : b.received = a.received
  live : b.live = true → a.live = true
  terminal : b.live = true → b.lane.terminal = a.lane.terminal
  pending : above cursor b.lane.pending = above cursor a.lane.pending ∨
    above cursor b.lane.pending = [] ∧ b.live = false
  settled : ∀ result, a.settled = some result → b.settled = some result
  idle : b.settled.isSome = true → a.settled.isSome = true ∨ a.lane.accepting = none

section Eases

variable {cursor : Nat} {a b c : SocketAttempt Json}

theorem SocketAttempt.Eases.refl (a : SocketAttempt Json) : Eases cursor a a :=
  ⟨rfl, rfl, rfl, fun h => h, fun _ => rfl, .inl rfl, fun _ h => h, .inl⟩

theorem SocketAttempt.Eases.trans (h : Eases cursor a b) (h' : Eases cursor b c) :
    Eases cursor a c where
  accepting := h'.accepting.trans h.accepting
  expectedAfter := h'.expectedAfter.trans h.expectedAfter
  received := h'.received.trans h.received
  live hlive := h.live (h'.live hlive)
  terminal hlive := (h'.terminal hlive).trans (h.terminal (h'.live hlive))
  pending := by
    rcases h'.pending with hsame | hnil
    · rcases h.pending with hsame' | ⟨hnil, hdead⟩
      · exact .inl (hsame.trans hsame')
      · refine .inr ⟨hsame.trans hnil, Bool.eq_false_iff.mpr fun hlive => ?_⟩
        exact absurd (h'.live hlive) (Bool.eq_false_iff.mp hdead)
    · exact .inr hnil
  settled result hresult := h'.settled result (h.settled result hresult)
  idle hsettled := by
    rcases h'.idle hsettled with hold | hidle
    · exact h.idle hold
    · exact .inr (h.accepting ▸ hidle)

/-- Handlers that drop what is queued ease an attempt if they leave it dead. -/
theorem SocketAttempt.Eases.dropped (lane : MessageAcceptanceQueue Json)
    (hpending : lane.pending = []) (haccepting : lane.accepting = a.lane.accepting)
    (h : Eases cursor { a with lane := lane } b) (hdead : b.live = false) : Eases cursor a b where
  accepting := h.accepting.trans haccepting
  expectedAfter := h.expectedAfter
  received := h.received
  live hlive := h.live hlive
  terminal hlive := absurd hlive (Bool.eq_false_iff.mp hdead)
  pending := by
    refine .inr ⟨?_, hdead⟩
    rcases h.pending with hsame | ⟨hnil, _⟩
    · rw [hsame, hpending]
      rfl
    · exact hnil
  settled := h.settled
  idle hsettled := haccepting ▸ h.idle hsettled

theorem SocketAttempt.eases_settleIfPossible (a : SocketAttempt Json) :
    Eases cursor a a.settleIfPossible := by
  have hsettle : ∀ result, ¬ (a.settled.isSome = true ∨ a.lane.busy = true) →
      Eases cursor a { a with settled := some result } := by
    intro result hnot
    have hnone : a.settled = none := by simpa using fun h => hnot (.inl h)
    have hidle : a.lane.accepting = none := by
      simpa [MessageAcceptanceQueue.busy] using fun h => hnot (.inr h)
    refine ⟨rfl, rfl, rfl, fun h => ?_, fun _ => rfl, .inl rfl, fun r hr => ?_, fun _ => .inr hidle⟩
    · simp [live] at h
    · rw [hnone] at hr
      cases hr
  unfold settleIfPossible
  split
  · exact .refl a
  · rename_i hnot
    split
    · exact hsettle _ hnot
    · split
      · exact hsettle _ hnot
      · exact .refl a

/-- An attempt that settles does not come to life. -/
theorem SocketAttempt.live_settleIfPossible (h : a.live = false) :
    a.settleIfPossible.live = false := by
  have heases : Eases 0 a a.settleIfPossible := eases_settleIfPossible a
  exact Bool.eq_false_iff.mpr fun hlive => absurd (heases.live hlive) (Bool.eq_false_iff.mp h)

/-- A failed attempt no longer acts. -/
theorem SocketAttempt.live_fail (code : ChannelStreamErrorCode) (a : SocketAttempt Json) :
    (a.fail code).live = false := by
  unfold fail
  split
  · rename_i hdone
    rcases hdone with h | h <;> simp [live, Option.isNone_eq_false_iff.mpr h]
  · exact live_settleIfPossible (by simp [live])

/-- A disconnected attempt no longer acts. -/
theorem SocketAttempt.live_disconnect (a : SocketAttempt Json) : a.disconnect.live = false := by
  unfold disconnect
  split
  · exact live_settleIfPossible (by simp [live])
  · exact Bool.eq_false_iff.mpr ‹_›

theorem SocketAttempt.eases_fail (code : ChannelStreamErrorCode) (a : SocketAttempt Json) :
    Eases cursor a (a.fail code) := by
  unfold fail
  split
  · exact .refl a
  · have hstop : Eases cursor a { a with terminalError := some code, lane := a.lane.stop } :=
      ⟨rfl, rfl, rfl, fun h => (by simp [live] at h), fun h => (by simp [live] at h),
        .inr ⟨rfl, by simp [live]⟩, fun _ h => h, .inl⟩
    exact hstop.trans (eases_settleIfPossible _)

theorem SocketAttempt.eases_disconnect (a : SocketAttempt Json) : Eases cursor a a.disconnect := by
  unfold disconnect
  split
  · have hgone : Eases cursor a { a with disconnected := true } :=
      ⟨rfl, rfl, rfl, fun h => (by simp [live] at h), fun _ => rfl, .inl rfl, fun _ h => h, .inl⟩
    exact hgone.trans (eases_settleIfPossible _)
  · exact .refl a

theorem SocketAttempt.eases_opened (a : SocketAttempt Json) :
    Eases cursor a { a with opened := true } :=
  ⟨rfl, rfl, rfl, fun h => h, fun _ => rfl, .inl rfl, fun _ h => h, .inl⟩

theorem SocketAttempt.eases_ready (a : SocketAttempt Json) :
    Eases cursor a { a with ready := true } :=
  ⟨rfl, rfl, rfl, fun h => h, fun _ => rfl, .inl rfl, fun _ h => h, .inl⟩

theorem SocketAttempt.eases_onOpen (dialect : ClientDialect) (protocol : String) (sent : Bool)
    (a : SocketAttempt Json) : Eases cursor a (a.onOpen dialect protocol sent) := by
  unfold onOpen
  split
  · split
    · split
      · exact eases_fail _ a
      · split
        · exact eases_opened a
        · exact (eases_opened a).trans (eases_disconnect _)
    · split
      · exact eases_fail _ a
      · exact eases_opened a
  · exact .refl a

theorem SocketAttempt.eases_onClose (dialect : ClientDialect) (stopped : Bool) (code : Nat)
    (a : SocketAttempt Json) : Eases cursor a (a.onClose dialect stopped code) := by
  unfold onClose
  split
  · exact .refl a
  · have hgone : Eases cursor a { a with
        disconnected := true
        lane := if stopped then a.lane.clear else a.lane } := by
      cases stopped
      · exact ⟨rfl, rfl, rfl, fun h => (by simp [live] at h), fun _ => rfl, .inl rfl,
          fun _ h => h, .inl⟩
      · exact ⟨rfl, rfl, rfl, fun h => (by simp [live] at h), fun _ => rfl,
          .inr ⟨rfl, by simp [live]⟩, fun _ h => h, .inl⟩
    simp only
    split
    · exact hgone.trans (eases_fail _ _)
    · exact hgone.trans (eases_settleIfPossible _)

end Eases

/-! ## What a step is made of -/

/-- One thing that a client does. A message is taken only as promised. -/
inductive ClientMove (promised : SocketAttempt Json → Message Json → Prop) (w : ClientStream Json) :
    ClientStream Json → Prop
  | ease {a b : SocketAttempt Json} (phase : w.phase = .attempting a)
    (eases : SocketAttempt.Eases w.cursor a b) :
    ClientMove promised w { w with phase := .attempting b }
  | take {a : SocketAttempt Json} {message : Message Json} (phase : w.phase = .attempting a)
    (live : a.live = true) (keeps : promised a message) :
    ClientMove promised w { w with phase := .attempting { a with
      received := a.received ++ [message]
      lane := { a.lane with pending := a.lane.pending ++ [message] } } }
  | deliver {a : SocketAttempt Json} {message : Message Json} {skipped rest : List (Message Json)}
    (phase : w.phase = .attempting a) (settled : a.settled = none)
    (idle : a.lane.accepting = none) (pending : a.lane.pending = skipped ++ message :: rest)
    (stale : ∀ m ∈ skipped, m.seq ≤ w.cursor) (fresh : w.cursor < message.seq) :
    ClientMove promised w { w with
      phase := .attempting { a with lane := ⟨rest, some message, false⟩ }
      history := w.history ++ [.delivered message] }
  | accept {a : SocketAttempt Json} {message : Message Json} (identities : AcceptedIdentityIndex)
    (phase : w.phase = .attempting a) (offered : a.lane.accepting = some message) :
    ClientMove promised w { w with
      cursor := message.seq
      acceptedIdentities := identities
      phase := .attempting { a with lane := { a.lane with accepting := none } }
      history := w.history ++ [.accepted message] }
  | reject {a b : SocketAttempt Json} {message : Message Json} {code : ChannelStreamErrorCode}
    (phase : w.phase = .attempting a) (offered : a.lane.accepting = some message)
    (expectedAfter : b.expectedAfter = a.expectedAfter)
    (settled : b.settled = some (.error code)) (lane : b.lane = ⟨[], none, true⟩) :
    ClientMove promised w { w with
      phase := .attempting b
      history := w.history ++ [.rejected message] }
  | close {phase : ClientPhase Json} (running : w.stopRequested = false)
    (aborted : phase = w.phase ∧ (∀ a, w.phase ≠ .attempting a) ∨ ∃ a b, w.phase = .attempting a ∧
      phase = .attempting b ∧ SocketAttempt.Eases w.cursor a b ∧ b.live = false) :
    ClientMove promised w { w with
      stopRequested := true
      phase := phase
      history := w.history ++ [.closeRequested] }
  | delay (phase : w.phase = .starting) : ClientMove promised w { w with phase := .delaying }
  | opening {phase : ClientPhase Json} (ready : w.phase = .starting ∨ w.phase = .delaying)
    (running : w.stopRequested = false)
    (begins : phase = .granting w.cursor ∨ phase = .attempting (.start w.cursor)) :
    ClientMove promised w { w with phase := phase, history := w.history ++ [.opened w.cursor] }
  | grant {after : Nat} (phase : w.phase = .granting after) (running : w.stopRequested = false) :
    ClientMove promised w { w with phase := .attempting (.start after) }
  | leave (index : Nat) (ended : (∃ after, w.phase = .granting after) ∨
      ∃ a, w.phase = .attempting a ∧ a.settled = some (.ok ())) :
    ClientMove promised w { w with
      phase := .starting, reconnectIndex := index, history := w.history ++ [.ended] }
  | abandon {a : SocketAttempt Json} {code : ChannelStreamErrorCode}
    (phase : w.phase = .attempting a) (failed : a.settled = some (.error code)) :
    ClientMove promised w { w with
      phase := .finished (.error code), history := w.history ++ [.ended, .finished] }
  | finish (outcome : Except ChannelStreamErrorCode Unit)
    (ready : w.phase = .starting ∨ w.phase = .delaying) :
    ClientMove promised w { w with
      phase := .finished outcome, history := w.history ++ [.finished] }

section Moves

variable {promised : SocketAttempt Json → Message Json → Prop} {w w' : ClientStream Json}
  {a : SocketAttempt Json} {options : ChannelStreamOptions}

/-- Some moves one after the other. -/
abbrev ClientMoves (promised : SocketAttempt Json → Message Json → Prop) :
    ClientStream Json → ClientStream Json → Prop :=
  Relation.ReflTransGen (ClientMove promised)

/-- The drain loop drops what is stale and delivers at most one message. -/
theorem moves_drain (hphase : w.phase = .attempting a) (hsettled : a.settled = none)
    (hidle : a.lane.accepting = none) : ClientMoves promised w (w.drain a) := by
  unfold ClientStream.drain
  split
  · exact .single (.ease hphase (SocketAttempt.eases_settleIfPossible a))
  · split
    · rename_i hdrained
      have hclear : SocketAttempt.Eases w.cursor a { a with lane := a.lane.clear } := by
        refine ⟨rfl, rfl, rfl, fun h => h, fun _ => rfl, .inl ?_, fun _ h => h, .inl⟩
        have hstale := drainPending_idle hdrained
        refine (List.filter_eq_nil_iff.mpr fun m hm => ?_).symm
        simpa using hstale m hm
      exact .single (.ease hphase (hclear.trans (SocketAttempt.eases_settleIfPossible _)))
    · rename_i message rest hdrained
      obtain ⟨hfresh, skipped, hpending, hstale⟩ := drainPending_offered hdrained
      exact .single (.deliver hphase hsettled hidle hpending hstale hfresh)
    · exact .single (.ease hphase (.dropped a.lane.stop rfl rfl (SocketAttempt.eases_fail _ _)
        (SocketAttempt.live_fail _ _)))

/-- A message that a live attempt takes goes to the lane or makes the attempt disconnect. -/
theorem moves_offer (message : Message Json) (hphase : w.phase = .attempting a)
    (hlive : a.live = true) (hopen : a.lane.terminal = false) (hidle : a.settled = none)
    (hkeeps : promised a message) :
    ClientMoves promised w
      (w.offer options message { a with received := a.received ++ [message] }) := by
  have htake : ClientMove promised w _ := .take hphase hlive hkeeps
  unfold ClientStream.offer
  rw [if_neg (by simp [hopen])]
  split
  · have hcleared : SocketAttempt.Eases w.cursor { a with
        received := a.received ++ [message]
        lane := { a.lane with pending := a.lane.pending ++ [message] } }
        (SocketAttempt.disconnect { a with
          received := a.received ++ [message], lane := a.lane.clear }) :=
      .dropped a.lane.clear rfl rfl (SocketAttempt.eases_disconnect _)
        (SocketAttempt.live_disconnect _)
    exact .tail (.single htake) (.ease rfl hcleared)
  · simp only
    split
    · exact .single htake
    · rename_i hbusy
      refine .head htake (moves_drain rfl hidle ?_)
      simpa [MessageAcceptanceQueue.busy] using hbusy

/-- The lane leaves alone what the attempt received. -/
theorem offer_received (options : ChannelStreamOptions) (message : Message Json)
    (a : SocketAttempt Json) (w : ClientStream Json) :
    ∃ b, (w.offer options message a).phase = .attempting b ∧ b.received = a.received ∧
      b.expectedAfter = a.expectedAfter := by
  have heases : ∀ {b c : SocketAttempt Json}, SocketAttempt.Eases w.cursor b c →
      b.received = a.received → b.expectedAfter = a.expectedAfter →
      ∃ d, ClientPhase.attempting c = .attempting d ∧ d.received = a.received ∧
        d.expectedAfter = a.expectedAfter :=
    fun h hr he => ⟨_, rfl, h.received.trans hr, h.expectedAfter.trans he⟩
  unfold ClientStream.offer
  split
  · exact ⟨a, rfl, rfl, rfl⟩
  · split
    · exact heases (SocketAttempt.eases_disconnect _) rfl rfl
    · simp only
      split
      · exact ⟨_, rfl, rfl, rfl⟩
      · unfold ClientStream.drain
        split
        · exact heases (SocketAttempt.eases_settleIfPossible _) rfl rfl
        · split
          · exact heases (SocketAttempt.eases_settleIfPossible _) rfl rfl
          · exact ⟨_, rfl, rfl, rfl⟩
          · exact heases (SocketAttempt.eases_fail _ _) rfl rfl

/-- The messages that attempts take in one step of the client are promised. -/
def Promised (promised : SocketAttempt Json → Message Json → Prop) (w w' : ClientStream Json) :
    Prop :=
  ∀ a b message, w.phase = .attempting a → w'.phase = .attempting b →
    b.received = a.received ++ [message] → b.expectedAfter = a.expectedAfter → promised a message

/-- A message frame for a live attempt. -/
theorem moves_taken (message : Message Json) (hphase : w.phase = .attempting a)
    (hlive : a.live = true) (hopen : a.lane.terminal = false)
    (hkeeps : Promised promised w
      (w.offer options message { a with received := a.received ++ [message] })) :
    ClientMoves promised w
      (w.offer options message { a with received := a.received ++ [message] }) := by
  obtain ⟨b, hb, hreceived, hafter⟩ :=
    offer_received options message { a with received := a.received ++ [message] } w
  refine moves_offer message hphase hlive hopen ?_ (hkeeps a b message hphase hb hreceived hafter)
  simp only [SocketAttempt.live, Bool.and_eq_true, Option.isNone_iff_eq_none] at hlive
  exact hlive.1.1

/-- A frame is taken by a live attempt, or fails it, or is ignored. -/
theorem onMessage_cases (options : ChannelStreamOptions) (frame : ServerFrame Json)
    (a : SocketAttempt Json) (w : ClientStream Json) :
    w.onMessage options frame a = w ∨
      (∃ b, SocketAttempt.Eases w.cursor a b ∧
        w.onMessage options frame a = { w with phase := .attempting b }) ∨
      ∃ message, a.live = true ∧ w.onMessage options frame a =
        w.offer options message { a with received := a.received ++ [message] } := by
  unfold ClientStream.onMessage
  split
  · exact .inl rfl
  · rename_i hnot
    have hlive : a.live = true := by simpa using hnot
    split
    · split
      · split
        · exact .inr (.inl ⟨_, SocketAttempt.eases_ready a, rfl⟩)
        · exact .inr (.inl ⟨_, SocketAttempt.eases_fail _ a, rfl⟩)
      · split
        · exact .inr (.inl ⟨_, SocketAttempt.eases_fail _ a, rfl⟩)
        · exact .inr (.inr ⟨_, hlive, rfl⟩)
    · split
      · exact .inr (.inl ⟨_, SocketAttempt.eases_fail _ a, rfl⟩)
      · split
        · exact .inr (.inl ⟨_, SocketAttempt.eases_fail _ a, rfl⟩)
        · exact .inr (.inr ⟨_, hlive, rfl⟩)

/-- The moves of a socket event. -/
theorem moves_onSocket (event : SocketEvent Json) (hphase : w.phase = .attempting a)
    (hopen : a.live = true → a.lane.terminal = false)
    (hkeeps : Promised promised w (w.onSocket options event a)) :
    ClientMoves promised w (w.onSocket options event a) := by
  cases event with
  | opened protocol sent =>
    exact .single (.ease hphase (SocketAttempt.eases_onOpen _ protocol sent a))
  | frame frame =>
    simp only [ClientStream.onSocket] at hkeeps ⊢
    rcases onMessage_cases options frame a w with h | ⟨b, hb, h⟩ | ⟨message, hlive, h⟩
    · rw [h]
    · rw [h]
      exact .single (.ease hphase hb)
    · rw [h] at hkeeps ⊢
      exact moves_taken message hphase hlive (hopen hlive) hkeeps
  | failed => exact .single (.ease hphase (SocketAttempt.eases_disconnect a))
  | closed code => exact .single (.ease hphase (SocketAttempt.eases_onClose _ _ code a))
  | unexpectedResponse =>
    unfold ClientStream.onSocket
    simp only
    split
    · exact .refl
    · exact .single (.ease hphase (SocketAttempt.eases_fail _ a))

/-- The timer disconnects an attempt that is not ready. -/
theorem moves_timeout (hphase : w.phase = .attempting a) :
    ClientMoves promised w (w.timeout options a) := by
  have hdisconnect : ClientMoves promised w { w with phase := .attempting a.disconnect } :=
    .single (.ease hphase (SocketAttempt.eases_disconnect a))
  unfold ClientStream.timeout
  split
  all_goals
    split
    · exact .refl
    · exact hdisconnect

/-- An attempt with a message at the consumer is not settled. -/
theorem SocketAttempt.unsettled {message : Message Json}
    (hidle : a.settled.isSome = true → a.lane.accepting = none)
    (hmessage : a.lane.accepting = some message) : a.settled = none := by
  cases hsettled : a.settled with
  | none => rfl
  | some result =>
    have hnone := hidle (by rw [hsettled]; rfl)
    rw [hmessage] at hnone
    cases hnone

/-- A resolved consumer accepts its message, and the lane drains. -/
theorem moves_acceptResolved (hphase : w.phase = .attempting a)
    (hidle : a.settled.isSome = true → a.lane.accepting = none) :
    ClientMoves promised w (w.acceptResolved a) := by
  unfold ClientStream.acceptResolved
  split
  · exact .refl
  · rename_i message hmessage
    have hsettled := SocketAttempt.unsettled hidle hmessage
    exact .head (.accept (rememberIdentity message w.acceptedIdentities) hphase hmessage)
      (moves_drain rfl hsettled rfl)

/-- A failed attempt with an idle lane settles with an error. -/
theorem SocketAttempt.settled_fail (code : ChannelStreamErrorCode) {a : SocketAttempt Json}
    (hsettled : a.settled = none) (hidle : a.lane = ⟨[], none, true⟩) :
    (∃ error, (a.fail code).settleIfPossible.settled = some (.error error)) ∧
      (a.fail code).settleIfPossible.lane = ⟨[], none, true⟩ ∧
      (a.fail code).settleIfPossible.expectedAfter = a.expectedAfter := by
  cases herror : a.terminalError <;>
    simp [SocketAttempt.fail, SocketAttempt.settleIfPossible, hsettled, herror, hidle,
      MessageAcceptanceQueue.busy, MessageAcceptanceQueue.stop]

/-- A rejecting consumer settles the attempt with an error. -/
theorem moves_acceptRejected (hphase : w.phase = .attempting a)
    (hidle : a.settled.isSome = true → a.lane.accepting = none) :
    ClientMoves promised w (w.acceptRejected a) := by
  unfold ClientStream.acceptRejected
  split
  · exact .refl
  · rename_i message hmessage
    have hsettled := SocketAttempt.unsettled hidle hmessage
    have hfailed := SocketAttempt.settled_fail .consumerRejected
      (a := { a with lane := ⟨[], none, true⟩ }) hsettled rfl
    obtain ⟨⟨code, hcode⟩, hlane, hafter⟩ := hfailed
    exact .single (.reject hphase hmessage hafter hcode hlane)

/-- A settled attempt is left for the next one, or ends the stream. -/
theorem moves_resume (hphase : w.phase = .attempting a) :
    ClientMoves promised w (w.resume a) := by
  unfold ClientStream.resume
  split
  · exact .refl
  · exact .single (.leave _ (.inr ⟨a, hphase, by assumption⟩))
  · refine .single ?_
    simp only [ClientStream.endAttempt, ClientStream.finish, List.append_assoc]
    exact .abandon hphase (by assumption)

/-- Closing aborts the attempt under way. -/
theorem moves_close : ClientMoves promised w w.close := by
  unfold ClientStream.close
  split
  · exact .refl
  · rename_i hrunning
    have hfalse : w.stopRequested = false := by simpa using hrunning
    simp only
    split
    · rename_i a hphase
      exact .single (.close hfalse (.inr ⟨a, _, hphase, rfl, SocketAttempt.eases_disconnect a,
        SocketAttempt.live_disconnect a⟩))
    · rename_i hother
      exact .single (.close hfalse (.inl ⟨rfl, hother⟩))

/-- An attempt is opened at the cursor, or its socket cannot be created. -/
theorem moves_openAttempt (created : Bool) (hready : w.phase = .starting ∨ w.phase = .delaying)
    (hrunning : w.stopRequested = false) :
    ClientMoves promised w (w.openAttempt options created) := by
  unfold ClientStream.openAttempt
  simp only
  split
  · exact .single (.opening hready hrunning (.inl rfl))
  · split
    · exact .single (.opening hready hrunning (.inr rfl))
    · refine .head (.opening hready hrunning (.inl rfl)) ?_
      refine .head (.leave w.reconnectIndex (.inl ⟨_, rfl⟩)) ?_
      exact .single (.finish _ (.inl rfl))

/-- The head of the loop stops, fails, waits or opens. -/
theorem moves_start (created : Bool) (hphase : w.phase = .starting) :
    ClientMoves promised w (w.start options created) := by
  unfold ClientStream.start
  split
  · exact .single (.finish _ (.inl hphase))
  · rename_i hrunning
    split
    · split
      · exact .single (.finish _ (.inl hphase))
      · exact .single (.delay hphase)
    · exact moves_openAttempt created (.inl hphase) (by simpa using hrunning)

/-- A grant that is given up ends its attempt. -/
theorem moves_granting {after : Nat} (hphase : w.phase = .granting after) :
    (∀ outcome, ClientMoves promised w (w.endAttempt.finish outcome)) ∧
      ClientMoves promised w w.endAttempt.again := by
  refine ⟨fun outcome => ?_, .single (.leave _ (.inl ⟨after, hphase⟩))⟩
  exact .head (.leave w.reconnectIndex (.inl ⟨after, hphase⟩)) (.single (.finish _ (.inl rfl)))

/-- Every step of a client is made of moves. -/
theorem ClientStep.moves (step : ClientStep Json)
    (hattempt : ∀ a, w.phase = .attempting a → (a.live = true → a.lane.terminal = false) ∧
      (a.settled.isSome = true → a.lane.accepting = none))
    (hkeeps : Promised promised w (step.next options w)) :
    ClientMoves promised w (step.next options w) := by
  generalize hnext : step.next options w = w' at hkeeps ⊢
  unfold ClientStep.next at hnext
  split at hnext
  all_goals subst hnext
  · exact moves_close
  · exact moves_start _ (by assumption)
  · split
    · exact .single (.finish _ (.inr (by assumption)))
    · rename_i hrunning
      exact moves_openAttempt _ (.inr (by assumption)) (by simpa using hrunning)
  · rename_i hphase
    unfold ClientStream.granted
    split
    · exact (moves_granting hphase).1 _
    · rename_i hrunning
      split
      · exact .single (.grant hphase (by simpa using hrunning))
      · exact (moves_granting hphase).1 _
      · exact (moves_granting hphase).2
      · exact (moves_granting hphase).1 _
  · rename_i hphase
    unfold ClientStream.grantAborted
    split
    · exact (moves_granting hphase).1 _
    · exact (moves_granting hphase).2
  · exact moves_timeout (by assumption)
  · rename_i a hphase
    exact moves_onSocket _ hphase (hattempt a hphase).1 hkeeps
  · rename_i a hphase
    exact moves_acceptResolved hphase (hattempt a hphase).2
  · rename_i a hphase
    exact moves_acceptRejected hphase (hattempt a hphase).2
  · exact moves_resume (by assumption)
  · exact .refl

end Moves

end Fleetd
