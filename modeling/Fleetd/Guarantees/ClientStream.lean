import Mathlib.Data.List.Infix
import Fleetd.Client.Moves

/-!
# What the consumer of a stream client sees

The history of every client, browser or native, is one that the abstract consumer of a
replayable log can follow: attempts are opened one at a time and at the cursor, and only the
message that is with the consumer is accepted. If the server sends each attempt the channel
from the attempt's cursor on, what is accepted is the head of the channel.
-/

namespace Fleetd

open Relational Replay

variable {Json : Type}

/-! ## The abstract consumer follows the client -/

/-- An attempt fits the client around it. -/
structure SocketAttempt.Fits (cursor : Nat) (stopped : Bool) (a : SocketAttempt Json) : Prop where
  idle : a.settled.isSome = true → a.lane.accepting = none
  stopped : stopped = true → a.live = false
  listening : a.live = true → a.lane.terminal = false
  expectedAfter : a.expectedAfter ≤ cursor
  fresh : ∀ m ∈ a.lane.accepting, cursor < m.seq

/-- The abstract consumer stands where the phase of a client says. -/
def ClientPhase.Matches (cursor : Nat) (stopped : Bool) (c : Consumer (Message Json)) :
    ClientPhase Json → Prop
  | .starting => c.live = false ∧ c.offered = none ∧ c.ended = false
  | .delaying => c.live = false ∧ c.offered = none ∧ c.ended = false
  | .granting attemptCursor =>
    c.live = true ∧ c.offered = none ∧ c.ended = false ∧ attemptCursor = cursor
  | .attempting a => c.live = true ∧ c.offered = a.lane.accepting ∧
    (c.ended = true → ∃ code, a.settled = some (.error code)) ∧ a.Fits cursor stopped
  | .finished _ => c.live = false ∧ c.offered = none ∧ c.ended = true

/-- The abstract consumer stands where the client stands. -/
structure Mirrors (c : Consumer (Message Json)) (w : ClientStream Json) : Prop where
  cursor : c.cursor = w.cursor
  closed : c.closed = w.stopRequested
  phase : w.phase.Matches w.cursor w.stopRequested c

section Simulation

variable {promised : SocketAttempt Json → Message Json → Prop}
  {consumer : Consumer (Message Json)} {w w' : ClientStream Json} {a b : SocketAttempt Json}

/-- What a mirrored client with an attempt under way knows. -/
theorem Mirrors.attempting (h : Mirrors consumer w) (hphase : w.phase = .attempting a) :
    consumer.live = true ∧ consumer.offered = a.lane.accepting ∧
      (consumer.ended = true → ∃ code, a.settled = some (.error code)) ∧
      a.Fits w.cursor w.stopRequested := by
  have hmatch := h.phase
  rw [hphase] at hmatch
  exact hmatch

/-- A mirrored client between attempts has nothing live. -/
theorem Mirrors.ready (h : Mirrors consumer w) (hready : w.phase = .starting ∨ w.phase = .delaying) :
    consumer.live = false ∧ consumer.offered = none ∧ consumer.ended = false := by
  have hmatch := h.phase
  rcases hready with hphase | hphase
  all_goals
    rw [hphase] at hmatch
    exact hmatch

/-- An unsettled attempt of a mirrored client is not over. -/
theorem Mirrors.not_over (h : Mirrors consumer w) (hphase : w.phase = .attempting a)
    (hsettled : ∀ code, a.settled ≠ some (.error code)) : consumer.ended = false := by
  cases hover : consumer.ended with
  | false => rfl
  | true =>
    obtain ⟨code, hcode⟩ := (h.attempting hphase).2.2.1 hover
    exact absurd hcode (hsettled code)

/-- Handlers that take no message keep the attempt fitting. -/
theorem SocketAttempt.Fits.eases {cursor : Nat} {stopped : Bool} (h : a.Fits cursor stopped)
    (hab : Eases cursor a b) : b.Fits cursor stopped where
  idle hsettled := by
    rw [hab.accepting]
    rcases hab.idle hsettled with hold | hidle
    · exact h.idle hold
    · exact hidle
  stopped hstopped := by
    refine Bool.eq_false_iff.mpr fun hlive => ?_
    exact absurd (hab.live hlive) (Bool.eq_false_iff.mp (h.stopped hstopped))
  listening hlive := (hab.terminal hlive).trans (h.listening (hab.live hlive))
  expectedAfter := hab.expectedAfter ▸ h.expectedAfter
  fresh := hab.accepting ▸ h.fresh

/-- A fresh attempt fits a client that runs. -/
theorem SocketAttempt.fits_start (cursor : Nat) :
    (SocketAttempt.start cursor : SocketAttempt Json).Fits cursor false :=
  ⟨fun _ => rfl, nofun, fun _ => rfl, Nat.le_refl _, fun _ h => (by cases h)⟩

variable [DecidableEq Json]

/-- The history grows by events that the abstract consumer follows to where the client is. -/
def Followed (consumer : Consumer (Message Json)) (w w' : ClientStream Json) : Prop :=
  ∃ events next, w'.history = w.history ++ events ∧
    consumer.follow Message.seq events = some next ∧ Mirrors next w'

theorem Followed.refl (h : Mirrors consumer w) : Followed consumer w w :=
  ⟨[], consumer, (List.append_nil _).symm, rfl, h⟩

/-- What is followed on from where a history was followed to is followed with it. -/
theorem Followed.trans {v : ClientStream Json} (h : Followed consumer w w')
    (h' : ∀ next, Mirrors next w' → Followed next w' v) : Followed consumer w v := by
  obtain ⟨events, next, hhistory, hfollow, hmirrors⟩ := h
  obtain ⟨later, last, hlater, hlast, hmirrors'⟩ := h' next hmirrors
  refine ⟨events ++ later, last, ?_, ?_, hmirrors'⟩
  · rw [hlater, hhistory, List.append_assoc]
  · rw [Consumer.follow_append, hfollow]
    exact hlast

/-- Each move is followed. -/
theorem ClientMove.followed (h : Mirrors consumer w) (hmove : ClientMove promised w w') :
    Followed consumer w w' := by
  cases hmove with
  | ease hphase hab =>
    obtain ⟨hlive, hoffered, hover, hfits⟩ := h.attempting hphase
    refine ⟨[], consumer, (List.append_nil _).symm, rfl, h.cursor, h.closed, hlive,
      hab.accepting ▸ hoffered, fun ho => ?_, hfits.eases hab⟩
    obtain ⟨code, hcode⟩ := hover ho
    exact ⟨code, hab.settled _ hcode⟩
  | take hphase hlive _ =>
    obtain ⟨hconsumer, hoffered, hover, hfits⟩ := h.attempting hphase
    exact ⟨[], consumer, (List.append_nil _).symm, rfl, h.cursor, h.closed, hconsumer, hoffered,
      hover, hfits.idle, hfits.stopped, hfits.listening, hfits.expectedAfter, hfits.fresh⟩
  | @deliver a message skipped rest hphase hsettled hidle hpending hstale hfresh =>
    obtain ⟨hlive, hoffered, _, hfits⟩ := h.attempting hphase
    have hover : consumer.ended = false := h.not_over hphase fun code hcode => by
      rw [hsettled] at hcode
      cases hcode
    rw [hidle] at hoffered
    refine ⟨[.delivered message], { consumer with offered := some message }, rfl, ?_, h.cursor,
      h.closed, hlive, rfl, fun ho => ?_, ?_⟩
    · rw [Consumer.follow_singleton, Consumer.observe, h.cursor]
      exact if_pos ⟨hlive, hover, hoffered, hfresh⟩
    · rw [hover] at ho
      cases ho
    · refine ⟨fun hs => ?_, hfits.stopped, fun _ => rfl, hfits.expectedAfter, fun m hm => ?_⟩
      · rw [hsettled] at hs
        cases hs
      · cases hm
        exact hfresh
  | @accept a message identities hphase hmessage =>
    obtain ⟨hlive, hoffered, _, hfits⟩ := h.attempting hphase
    have hsettled := SocketAttempt.unsettled hfits.idle hmessage
    have hover : consumer.ended = false := h.not_over hphase fun code hcode => by
      rw [hsettled] at hcode
      cases hcode
    have hfresh := hfits.fresh message hmessage
    refine ⟨[.accepted message], { consumer with cursor := message.seq, offered := none }, rfl, ?_,
      rfl, h.closed, hlive, rfl, fun ho => ?_, ?_⟩
    · rw [Consumer.follow_singleton, Consumer.observe]
      exact if_pos ⟨hoffered.trans hmessage, hover⟩
    · rw [hover] at ho
      cases ho
    · exact ⟨fun _ => rfl, hfits.stopped, hfits.listening,
        hfits.expectedAfter.trans (Nat.le_of_lt hfresh), fun _ hm => (by cases hm)⟩
  | @reject a b message code hphase hmessage hafter hcode hlane =>
    obtain ⟨hlive, hoffered, _, hfits⟩ := h.attempting hphase
    have hsettled := SocketAttempt.unsettled hfits.idle hmessage
    have hover : consumer.ended = false := h.not_over hphase fun code hcode => by
      rw [hsettled] at hcode
      cases hcode
    have hdead : b.live = false := by simp [SocketAttempt.live, hcode]
    refine ⟨[.rejected message], { consumer with offered := none, ended := true }, rfl, ?_,
      h.cursor, h.closed, hlive, ?_, fun _ => ⟨code, hcode⟩, ?_⟩
    · rw [Consumer.follow_singleton, Consumer.observe]
      exact if_pos ⟨hoffered.trans hmessage, hover⟩
    · rw [hlane]
    · refine ⟨fun _ => by rw [hlane], fun _ => hdead, fun hl => ?_, hafter ▸ hfits.expectedAfter, ?_⟩
      · rw [hdead] at hl
        cases hl
      · rw [hlane]
        exact fun _ hm => (by cases hm)
  | @close phase hrunning haborted =>
    refine ⟨[.closeRequested], { consumer with closed := true }, rfl, rfl, h.cursor, rfl, ?_⟩
    rcases haborted with ⟨rfl, hother⟩ | ⟨a, b, hphase, rfl, hab, hdead⟩
    · have hmatch := h.phase
      cases hphase : w.phase with
      | attempting a => exact absurd hphase (hother a)
      | _ =>
        rw [hphase] at hmatch
        exact hmatch
    · obtain ⟨hlive, hoffered, hover, hfits⟩ := h.attempting hphase
      have hfits' := hfits.eases hab
      refine ⟨hlive, hab.accepting ▸ hoffered, fun ho => ?_, hfits'.idle, fun _ => hdead,
        hfits'.listening, hfits'.expectedAfter, hfits'.fresh⟩
      obtain ⟨code, hcode⟩ := hover ho
      exact ⟨code, hab.settled _ hcode⟩
  | delay hphase =>
    exact ⟨[], consumer, (List.append_nil _).symm, rfl, h.cursor, h.closed, h.ready (.inl hphase)⟩
  | opening hready hrunning hbegins =>
    obtain ⟨hlive, hoffered, hover⟩ := h.ready hready
    refine ⟨[.opened w.cursor], { consumer with live := true }, rfl, ?_, h.cursor, h.closed, ?_⟩
    · rw [Consumer.follow_singleton, Consumer.observe]
      exact if_pos ⟨hlive, h.closed.trans hrunning, hover, h.cursor.symm⟩
    · rcases hbegins with rfl | rfl
      · exact ⟨rfl, hoffered, hover, rfl⟩
      · refine ⟨rfl, hoffered, fun ho => ?_, ?_⟩
        · rw [hover] at ho
          cases ho
        · rw [hrunning]
          exact SocketAttempt.fits_start w.cursor
  | @grant after hphase hrunning =>
    have hmatch := h.phase
    rw [hphase] at hmatch
    obtain ⟨hlive, hoffered, hover, rfl⟩ := hmatch
    refine ⟨[], consumer, (List.append_nil _).symm, rfl, h.cursor, h.closed, hlive, hoffered,
      fun ho => ?_, ?_⟩
    · rw [hover] at ho
      cases ho
    · rw [hrunning]
      exact SocketAttempt.fits_start w.cursor
  | leave index hends =>
    have hidle : consumer.live = true ∧ consumer.offered = none ∧ consumer.ended = false := by
      rcases hends with ⟨after, hphase⟩ | ⟨a, hphase, hsettled⟩
      · have hmatch := h.phase
        rw [hphase] at hmatch
        exact ⟨hmatch.1, hmatch.2.1, hmatch.2.2.1⟩
      · obtain ⟨hlive, hoffered, _, hfits⟩ := h.attempting hphase
        have hnone := hfits.idle (by rw [hsettled]; rfl)
        refine ⟨hlive, hoffered.trans hnone, h.not_over hphase fun code hcode => ?_⟩
        rw [hsettled] at hcode
        cases hcode
    refine ⟨[.ended], { consumer with live := false }, rfl, ?_, h.cursor, h.closed, rfl, hidle.2⟩
    rw [Consumer.follow_singleton, Consumer.observe]
    exact if_pos ⟨hidle.1, hidle.2.1⟩
  | @abandon a code hphase hfailed =>
    obtain ⟨hlive, hoffered, _, hfits⟩ := h.attempting hphase
    have hnone := hoffered.trans (hfits.idle (by rw [hfailed]; rfl))
    refine ⟨[.ended, .finished], { consumer with live := false, ended := true }, rfl, ?_, h.cursor,
      h.closed, rfl, hnone, rfl⟩
    simp [Consumer.follow, Consumer.observe, hlive, hnone]
  | finish outcome hready =>
    obtain ⟨hlive, hoffered, hover⟩ := h.ready hready
    refine ⟨[.finished], { consumer with ended := true }, rfl, ?_, h.cursor, h.closed, hlive,
      hoffered, rfl⟩
    rw [Consumer.follow_singleton, Consumer.observe]
    exact if_pos hlive

/-- Moves are followed. -/
theorem ClientMoves.followed (h : Mirrors consumer w) (hmoves : ClientMoves promised w w') :
    Followed consumer w w' := by
  induction hmoves with
  | refl => exact .refl h
  | tail _ hmove ih => exact ih.trans fun _ hnext => hmove.followed hnext

/-- Each step is followed. -/
theorem ClientStep.followed (options : ChannelStreamOptions) (step : ClientStep Json)
    (h : Mirrors consumer w) : Followed consumer w (step.next options w) := by
  have hmoves : ClientMoves (fun _ _ => True) w (step.next options w) := by
    refine step.moves (fun a hphase => ?_) fun _ _ _ _ _ _ _ => trivial
    have hfits := (h.attempting hphase).2.2.2
    exact ⟨hfits.listening, hfits.idle⟩
  exact hmoves.followed h

/-- Every run is followed. -/
theorem runFrom_followed (options : ChannelStreamOptions) (steps : List (ClientStep Json))
    (h : Mirrors consumer w) : Followed consumer w (runFrom (ClientStep.next options) w steps) := by
  induction steps generalizing consumer w with
  | nil => exact .refl h
  | cons step steps ih => exact (step.followed options h).trans fun _ hnext => ih hnext

omit [DecidableEq Json] in
/-- A new client is mirrored by an idle consumer. -/
theorem mirrors_init (options : ChannelStreamOptions) :
    Mirrors (.idle options.initialCursor) (ClientStream.init options : ClientStream Json) :=
  ⟨rfl, rfl, rfl, rfl, rfl⟩

/-- The history of every run is lawful. -/
theorem run_followed (options : ChannelStreamOptions) (steps : List (ClientStep Json)) :
    ∃ consumer, (Consumer.idle options.initialCursor).follow Message.seq
        (clientRun options steps).history = some consumer ∧
      Mirrors consumer (clientRun options steps) := by
  obtain ⟨events, consumer, hhistory, hfollow, hmirrors⟩ :=
    runFrom_followed options steps (mirrors_init options)
  exact ⟨consumer, by rw [clientRun, hhistory]; exact hfollow, hmirrors⟩

end Simulation

/-! ## What is accepted is the head of the channel -/

section Exact

variable {channel l : List (Message Json)} {message : Message Json} {initial b c : Nat}
  {w w' : ClientStream Json} {a : SocketAttempt Json}

theorem above_append (c : Nat) (l l' : List (Message Json)) :
    above c (l ++ l') = above c l ++ above c l' :=
  List.filter_append ..

/-- Of two cursors the higher one counts. -/
theorem above_above (h : b ≤ c) : above c (above b l) = above c l := by
  rw [above, above, List.filter_filter]
  refine List.filter_congr fun m _ => ?_
  by_cases hm : c < m.seq
  · simp [hm, Nat.lt_of_le_of_lt h hm]
  · simp [hm]

theorem above_prefix {l' : List (Message Json)} (h : l <+: l') : above c l <+: above c l' :=
  h.filter _

/-- In an ascending channel, what is above its first message above a cursor is the rest. -/
theorem above_head (hsorted : channel.Pairwise fun m m' => m.seq < m'.seq)
    (h : above c channel = message :: l) : above message.seq channel = l := by
  have hlt : c < message.seq := by
    have hmem : message ∈ above c channel := by
      rw [h]
      exact List.mem_cons_self ..
    simpa using (List.mem_filter.mp hmem).2
  have hrest : (message :: l).Pairwise fun m m' => m.seq < m'.seq := h ▸ hsorted.filter _
  calc above message.seq channel
      = above message.seq (above c channel) := (above_above (Nat.le_of_lt hlt)).symm
    _ = above message.seq (message :: l) := by rw [h]
    _ = above message.seq l := by
        rw [above, List.filter_cons_of_neg (by simp)]
        rfl
    _ = l := List.filter_eq_self.mpr fun m hm => by
        simpa using List.rel_of_pairwise_cons hrest hm

/-- What an attempt holds: the message with the consumer and the queue behind it. -/
def SocketAttempt.held (a : SocketAttempt Json) : List (Message Json) :=
  a.lane.accepting.toList ++ a.lane.pending

/-- What an attempt received, with a message that comes next, is a head of the channel above
the cursor the attempt was opened with. -/
def InOrder (channel : List (Message Json)) (a : SocketAttempt Json) (message : Message Json) :
    Prop :=
  a.received ++ [message] <+: above a.expectedAfter channel

/-- What was accepted and what is above the cursor is the channel above the first cursor, and
what is held is a head of it. -/
structure Exact (channel : List (Message Json)) (initial : Nat) (w : ClientStream Json) : Prop where
  accepted : above initial channel = acceptedEntries w.history ++ above w.cursor channel
  held : ∀ a, w.phase = .attempting a → above w.cursor a.held <+: above w.cursor channel
  received : ∀ a, w.phase = .attempting a → a.live = true →
    above w.cursor a.received = above w.cursor a.held

/-- Moves that keep the cursor and record no acceptance keep what was accepted. -/
theorem Exact.keep (h : Exact channel initial w) (hcursor : w'.cursor = w.cursor)
    (haccepted : acceptedEntries w'.history = acceptedEntries w.history)
    (hheld : ∀ a, w'.phase = .attempting a → above w.cursor a.held <+: above w.cursor channel)
    (hreceived : ∀ a, w'.phase = .attempting a → a.live = true →
      above w.cursor a.received = above w.cursor a.held) : Exact channel initial w' where
  accepted := by rw [haccepted, hcursor, h.accepted]
  held := hcursor ▸ hheld
  received := hcursor ▸ hreceived

/-- A client without an attempt has nothing to keep exact but what it accepted. -/
theorem Exact.outside (h : Exact channel initial w) (hcursor : w'.cursor = w.cursor)
    (haccepted : acceptedEntries w'.history = acceptedEntries w.history)
    (hphase : ∀ a, w'.phase ≠ .attempting a) : Exact channel initial w' :=
  h.keep hcursor haccepted (fun a ha => absurd ha (hphase a)) fun a ha => absurd ha (hphase a)

/-- An attempt that is eased is as exact as before. -/
theorem Exact.eases {b : SocketAttempt Json} (h : Exact channel initial w)
    (hphase : w.phase = .attempting a) (hab : SocketAttempt.Eases w.cursor a b) :
    above w.cursor b.held <+: above w.cursor channel ∧
      (b.live = true → above w.cursor b.received = above w.cursor b.held) := by
  have hheld := h.held a hphase
  have hreceived := h.received a hphase
  rw [SocketAttempt.held, above_append] at hheld hreceived ⊢
  rw [hab.accepting, hab.received]
  rcases hab.pending with hsame | ⟨hnil, hdead⟩
  · rw [hsame]
    exact ⟨hheld, fun hlive => hreceived (hab.live hlive)⟩
  · rw [hnil, List.append_nil, hdead]
    exact ⟨(List.prefix_append _ _).trans hheld, nofun⟩

/-- An event that is no acceptance leaves the accepted messages. -/
theorem acceptedEntries_concat {history events : List (Event (Message Json))}
    (h : acceptedEntries events = []) :
    acceptedEntries (history ++ events) = acceptedEntries history := by
  rw [acceptedEntries, List.filterMap_append, ← acceptedEntries, ← acceptedEntries, h,
    List.append_nil]

/-- The accepted message is the first of the channel above the cursor. -/
theorem Exact.accept (hsorted : channel.Pairwise fun m m' => m.seq < m'.seq)
    (h : Exact channel initial w) (hphase : w.phase = .attempting a)
    (hmessage : a.lane.accepting = some message) (hfresh : w.cursor < message.seq) :
    above w.cursor channel = message :: above message.seq channel ∧
      above message.seq a.lane.pending <+: above message.seq channel ∧
      (a.live = true → above message.seq a.received = above message.seq a.lane.pending) := by
  have hheld : above w.cursor a.held = message :: above w.cursor a.lane.pending := by
    rw [SocketAttempt.held, hmessage, above_append]
    simp [above, hfresh]
  have hskip : above message.seq a.held = above message.seq a.lane.pending := by
    rw [SocketAttempt.held, hmessage, above_append]
    simp [above]
  obtain ⟨rest, hrest⟩ := h.held a hphase
  rw [hheld, List.cons_append] at hrest
  have htail := above_head hsorted hrest.symm
  refine ⟨by rw [← hrest, htail], ?_, fun hlive => ?_⟩
  · have := above_prefix (c := message.seq) (h.held a hphase)
    rwa [above_above (Nat.le_of_lt hfresh), above_above (Nat.le_of_lt hfresh), hskip] at this
  · have := congrArg (above message.seq) (h.received a hphase hlive)
    rwa [above_above (Nat.le_of_lt hfresh), above_above (Nat.le_of_lt hfresh), hskip] at this

/-- A move keeps a client exact if its messages are taken in order. -/
theorem ClientMove.exact (hsorted : channel.Pairwise fun m m' => m.seq < m'.seq)
    (hfits : ∀ a, w.phase = .attempting a → a.Fits w.cursor w.stopRequested)
    (h : Exact channel initial w) (hmove : ClientMove (InOrder channel) w w') :
    Exact channel initial w' := by
  have hstarted : ∀ after, above w.cursor (SocketAttempt.start after : SocketAttempt Json).held <+:
      above w.cursor channel := fun _ => List.nil_prefix
  cases hmove with
  | ease hphase hab =>
    refine h.keep rfl rfl (fun b hb => ?_) fun b hb => ?_
    · cases hb
      exact (h.eases hphase hab).1
    · cases hb
      exact (h.eases hphase hab).2
  | @take a message hphase hlive hkeeps =>
    have hleads := above_prefix (c := w.cursor) hkeeps
    rw [above_above (hfits a hphase).expectedAfter, above_append, h.received a hphase hlive,
      ← above_append] at hleads
    have hheld : a.held ++ [message] =
        a.lane.accepting.toList ++ (a.lane.pending ++ [message]) := List.append_assoc ..
    refine h.keep rfl rfl (fun b hb => ?_) fun b hb _ => ?_
    · cases hb
      rw [SocketAttempt.held, ← hheld]
      exact hleads
    · cases hb
      rw [SocketAttempt.held, ← hheld, above_append, above_append, h.received a hphase hlive]
  | @deliver a message skipped rest hphase hsettled hidle hpending hstale hfresh =>
    have hskipped : above w.cursor skipped = [] :=
      List.filter_eq_nil_iff.mpr fun m hm => by simpa using hstale m hm
    have hheld : above w.cursor a.held = above w.cursor (message :: rest) := by
      rw [SocketAttempt.held, hidle, hpending, Option.toList_none, List.nil_append, above_append,
        hskipped, List.nil_append]
    refine h.keep rfl (acceptedEntries_concat rfl) (fun b hb => ?_) fun b hb hlive => ?_
    · cases hb
      exact hheld ▸ h.held a hphase
    · cases hb
      exact (h.received a hphase hlive).trans hheld
  | @accept a message identities hphase hmessage =>
    obtain ⟨hchannel, hpending, hreceived⟩ :=
      h.accept hsorted hphase hmessage ((hfits a hphase).fresh message hmessage)
    refine ⟨?_, fun b hb => ?_, fun b hb => ?_⟩
    · rw [h.accepted, hchannel, acceptedEntries, acceptedEntries, List.filterMap_append,
        List.append_assoc]
      rfl
    · cases hb
      exact hpending
    · cases hb
      exact hreceived
  | @reject a b message code hphase hmessage hafter hcode hlane =>
    refine h.keep rfl (acceptedEntries_concat rfl) (fun c hc => ?_) fun c hc hlive => ?_
    · cases hc
      rw [SocketAttempt.held, hlane]
      exact List.nil_prefix
    · cases hc
      simp [SocketAttempt.live, hcode] at hlive
  | close hrunning haborted =>
    rcases haborted with ⟨rfl, _⟩ | ⟨a, b, hphase, rfl, hab, _⟩
    · exact h.keep rfl (acceptedEntries_concat rfl) h.held h.received
    · refine h.keep rfl (acceptedEntries_concat rfl) (fun c hc => ?_) fun c hc => ?_
      · cases hc
        exact (h.eases hphase hab).1
      · cases hc
        exact (h.eases hphase hab).2
  | delay hphase => exact h.outside rfl rfl fun a ha => by cases ha
  | opening hready hrunning hbegins =>
    rcases hbegins with rfl | rfl
    · exact h.outside rfl (acceptedEntries_concat rfl) fun a ha => by cases ha
    · refine h.keep rfl (acceptedEntries_concat rfl) (fun b hb => ?_) fun b hb _ => ?_
      · cases hb
        exact hstarted _
      · cases hb
        rfl
  | @grant after hphase hrunning =>
    refine h.keep rfl rfl (fun b hb => ?_) fun b hb _ => ?_
    · cases hb
      exact hstarted _
    · cases hb
      rfl
  | leave index hends => exact h.outside rfl (acceptedEntries_concat rfl) fun a ha => by cases ha
  | abandon hphase hfailed =>
    exact h.outside rfl (acceptedEntries_concat rfl) fun a ha => by cases ha
  | finish outcome hready =>
    exact h.outside rfl (acceptedEntries_concat rfl) fun a ha => by cases ha

end Exact

/-! ## Every run -/

/-- What an attempt received so far is a head of the channel above the cursor it was opened
with. -/
def ClientPhase.Serves (channel : List (Message Json)) : ClientPhase Json → Prop
  | .attempting a => a.received <+: above a.expectedAfter channel
  | _ => True

instance [DecidableEq Json] (channel : List (Message Json)) (phase : ClientPhase Json) :
    Decidable (phase.Serves channel) :=
  match phase with
  | .attempting a => inferInstanceAs (Decidable (a.received <+: above a.expectedAfter channel))
  | .starting | .delaying | .granting _ | .finished _ => .isTrue trivial

/-- The server sends each attempt the channel above the attempt's cursor, in order. -/
structure ServesInOrder (channel : List (Message Json)) (options : ChannelStreamOptions)
    (steps : List (ClientStep Json)) : Prop where
  ascending : channel.Pairwise fun m m' => m.seq < m'.seq
  received : ∀ before ∈ steps.inits, (clientRun options before).phase.Serves channel

/-- What holds of a client at every time. -/
structure AcceptsInOrder (options : ChannelStreamOptions) (w : ClientStream Json) : Prop where
  ascending : (acceptedEntries w.history).Pairwise fun m m' => m.seq < m'.seq
  above : ∀ m ∈ acceptedEntries w.history, options.initialCursor < m.seq
  cursor : w.cursor = positionAfter Message.seq options.initialCursor w.history
  opened : ∀ before after later, w.history = before ++ .opened after :: later →
    after = positionAfter Message.seq options.initialCursor before ∧
      openings before = endings before
  oneLive : ∀ before later, w.history = before ++ later → openings before ≤ endings before + 1
  rejected : ∀ before message later, w.history = before ++ .rejected message :: later →
    (∀ e ∈ later, e.isActive = false) ∧
      ((∃ a code, w.phase = .attempting a ∧ a.settled = some (.error code)) ∨
        ∃ outcome, w.phase = .finished outcome)
  closed : ∀ before later, w.history = before ++ .closeRequested :: later →
    ∀ e ∈ later, e.isOpening = false
  ignored : w.stopRequested = true → ∀ frame options,
    ClientStep.next options (.socket (.frame frame)) w = w
  finished : ∀ before later, w.history = before ++ .finished :: later →
    ∀ e ∈ later, e.isActive = false

section Runs

variable [DecidableEq Json] {options : ChannelStreamOptions} {steps : List (ClientStep Json)}
  {channel : List (Message Json)} {w : ClientStream Json} {consumer : Consumer (Message Json)}

omit [DecidableEq Json] in
/-- A client that is over has failed its attempt or has left its loop. -/
theorem Mirrors.ended (h : Mirrors consumer w) (hover : consumer.ended = true) :
    (∃ a code, w.phase = .attempting a ∧ a.settled = some (.error code)) ∨
      ∃ outcome, w.phase = .finished outcome := by
  have hmatch := h.phase
  cases hphase : w.phase with
  | attempting a =>
    obtain ⟨code, hcode⟩ := (h.attempting hphase).2.2.1 hover
    exact .inl ⟨a, code, rfl, hcode⟩
  | finished outcome => exact .inr ⟨outcome, rfl⟩
  | starting | delaying =>
    rw [hphase] at hmatch
    exact absurd hover (by simp [hmatch.2.2])
  | granting after =>
    rw [hphase] at hmatch
    exact absurd hover (by simp [hmatch.2.2.1])

omit [DecidableEq Json] in
/-- A closed client takes no frame. -/
theorem Mirrors.ignored (h : Mirrors consumer w) (hstopped : w.stopRequested = true)
    (frame : ServerFrame Json) (options : ChannelStreamOptions) :
    ClientStep.next options (.socket (.frame frame)) w = w := by
  cases hphase : w.phase with
  | attempting a =>
    have hdead := (h.attempting hphase).2.2.2.stopped hstopped
    simp only [ClientStep.next, hphase, ClientStream.onSocket, ClientStream.onMessage, hdead]
    exact if_pos trivial
  | starting | delaying | granting _ | finished _ => simp only [ClientStep.next, hphase]

/-- What a lawful history says. -/
theorem Mirrors.acceptsInOrder (h : Mirrors consumer w)
    (hfollow : (Consumer.idle options.initialCursor).follow Message.seq w.history = some consumer) :
    AcceptsInOrder options w where
  ascending := (Consumer.follow_accepted hfollow).2.2.2.2
  above m hm := ((Consumer.follow_accepted hfollow).2.2.1 m hm).1
  cursor := h.cursor.symm.trans (Consumer.follow_accepted hfollow).2.1
  opened before after later hhistory := by
    rw [hhistory] at hfollow
    obtain ⟨c, d, hc, hd, _⟩ := Consumer.follow_split hfollow
    simp only [Consumer.observe, Option.ite_none_right_eq_some] at hd
    obtain ⟨⟨hlive, _, _, hafter⟩, _⟩ := hd
    have hcount := Consumer.follow_live hc
    rw [hlive] at hcount
    exact ⟨hafter.trans (Consumer.follow_accepted hc).2.1, hcount⟩
  oneLive before later hhistory := by
    rw [hhistory, Consumer.follow_append, Option.bind_eq_some_iff] at hfollow
    obtain ⟨c, hc, _⟩ := hfollow
    have hcount := Consumer.follow_live hc
    split at hcount <;> omega
  rejected before message later hhistory := by
    rw [hhistory] at hfollow
    obtain ⟨c, d, _, hd, hlater⟩ := Consumer.follow_split hfollow
    simp only [Consumer.observe, Option.ite_none_right_eq_some, Option.some.injEq] at hd
    have hover := Consumer.follow_over (by rw [← hd.2]) hlater
    exact ⟨hover.2, h.ended hover.1⟩
  closed before later hhistory := by
    rw [hhistory] at hfollow
    obtain ⟨c, d, _, hd, hlater⟩ := Consumer.follow_split hfollow
    simp only [Consumer.observe, Option.some.injEq] at hd
    exact Consumer.follow_closed (by rw [← hd]) hlater
  ignored := h.ignored
  finished before later hhistory := by
    rw [hhistory] at hfollow
    obtain ⟨c, d, _, hd, hlater⟩ := Consumer.follow_split hfollow
    simp only [Consumer.observe, Option.ite_none_right_eq_some, Option.some.injEq] at hd
    exact (Consumer.follow_over (by rw [← hd.2]) hlater).2

/-- Moves that take messages in order keep a client exact. -/
theorem ClientMoves.exact {w' : ClientStream Json} (hsorted : channel.Pairwise fun m m' => m.seq < m'.seq)
    (hmirrors : Mirrors consumer w) (h : Exact channel options.initialCursor w)
    (hmoves : ClientMoves (InOrder channel) w w') : Exact channel options.initialCursor w' := by
  induction hmoves with
  | refl => exact h
  | tail hbefore hmove ih =>
    obtain ⟨_, next, _, _, hnext⟩ := ClientMoves.followed hmirrors hbefore
    exact hmove.exact hsorted (fun a hphase => (hnext.attempting hphase).2.2.2) ih

/-- If the server sends in order, every run is exact. -/
theorem run_exact (h : ServesInOrder channel options steps) :
    Exact channel options.initialCursor (clientRun options steps) := by
  obtain ⟨hsorted, hreceived⟩ := h
  induction steps using List.reverseRecOn with
  | nil => exact ⟨rfl, fun _ => nofun, fun _ => nofun⟩
  | append_singleton steps step ih =>
    have hbefore := ih fun before hmem => hreceived before
      ((List.mem_inits _ _).mpr (((List.mem_inits _ _).mp hmem).trans (List.prefix_append _ _)))
    obtain ⟨consumer, _, hmirrors⟩ := run_followed options steps
    have hlast := hreceived (steps ++ [step]) ((List.mem_inits _ _).mpr List.prefix_rfl)
    rw [clientRun, runFrom_snoc, ← clientRun] at hlast ⊢
    refine ClientMoves.exact hsorted hmirrors hbefore (step.moves (fun a hphase => ?_) ?_)
    · have hfits := (hmirrors.attempting hphase).2.2.2
      exact ⟨hfits.listening, hfits.idle⟩
    · intro a b message _ hb hmessage hafter
      rw [hb, ClientPhase.Serves, hmessage, hafter] at hlast
      exact hlast

end Runs

/-! ### Concrete runs -/

/-- A native client with one reconnect. -/
def nativeOptions : ChannelStreamOptions where
  dialect := .native
  channelId := "general"
  initialCursor := 0
  reconnectDelaysMs := [250]
  maxPendingMessages := 8

/-- An envelope of the channel. -/
def sentEnvelope (seq : Nat) (id : String) : MessageEnvelope Unit where
  seq := seq
  id := id
  channelId := "general"
  senderId := "alice"
  recipientId := none
  kind := "text"
  payload := ()
  correlationId := none
  causationId := none
  createdAtMs := 1

/-- The message of such an envelope. -/
def sentMessage (seq : Nat) (id : String) : Message Unit where
  seq := seq
  id := id
  channelId := "general"
  senderId := "alice"
  recipientId := none
  kind := "text"
  payload := ()
  correlationId := none
  causationId := none
  createdAtMs := 1

/-- The frame of a sent message. -/
def sentFrame (seq : Nat) (id : String) : ClientStep Unit :=
  .socket (.frame (.message (sentEnvelope seq id)))

/-- The socket is lost while the first message is with the consumer and the second is queued;
the second attempt starts after both. -/
def reconnectedSteps : List (ClientStep Unit) :=
  [.start true, .socket (.opened "" true), sentFrame 3 "a", sentFrame 5 "b", .socket .failed,
    .acceptResolved, .acceptResolved, .resume, .start true, .delayElapsed true,
    .socket (.opened "" true), sentFrame 8 "c", .acceptResolved]

/-- The channel that both attempts were sent. -/
def sentChannel : List (Message Unit) := [sentMessage 3 "a", sentMessage 5 "b", sentMessage 8 "c"]

/-- The consumer rejects the first message. -/
def rejectedSteps : List (ClientStep Unit) :=
  [.start true, .socket (.opened "" true), sentFrame 3 "a", .acceptRejected]

/-- The stream is closed with one message at the consumer and one queued. -/
def closedSteps : List (ClientStep Unit) :=
  [.start true, .socket (.opened "" true), sentFrame 3 "a", sentFrame 5 "b", .close,
    .acceptResolved, .acceptResolved]

end Fleetd
