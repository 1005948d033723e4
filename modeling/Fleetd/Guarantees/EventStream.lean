import Fleetd.Guarantees.EvidenceAgreement
import Fleetd.Guarantees.TurnTerminal

/-!
# The events of a turn on the channel

The events of a turn are numbered under the lock and sent after it. As long as the handlers of a
turn send in the order in which they held the lock, and no update is numbered and then refused, the
channel carries the events one by one, and then the terminal frame: what the client of the turn
lets through.
-/

namespace Fleetd.AcpHost

open Serde (Value)
open Harness Effects Relational

/-! ## Numbered events -/

/-- A notification that is the event of a turn under a number. -/
def EventOf (fence : ExecutionFence) (eventSeq : Nat) : Notification → Prop
  | .turnEvent event => event.fence = fence ∧ event.eventSeq = eventSeq ∧
      validateId "event classification" event.classification = .ok ()
  | .permissionRequested request => request.fence = fence ∧ request.eventSeq = eventSeq ∧
      validateId "permission_id" request.permissionId = .ok ()
  | _ => False

/-- The events of a turn without gap, after the first ones. -/
def Numbered (fence : ExecutionFence) (start : Nat) (items : List Outbound) : Prop :=
  ∀ (index : Nat) (item : Outbound), items[index]? = some item →
    EventOf fence (start + index + 1) item.notification

theorem numbered_nil (fence : ExecutionFence) (start : Nat) : Numbered fence start [] := by
  intro index item hitem
  cases hitem

/-- One more event keeps the numbering. -/
theorem Numbered.snoc {fence : ExecutionFence} {start : Nat} {items : List Outbound} {item : Outbound}
    (h : Numbered fence start items)
    (hitem : EventOf fence (start + items.length + 1) item.notification) :
    Numbered fence start (items ++ [item]) := by
  intro index found hfound
  rw [List.getElem?_append] at hfound
  split at hfound
  · exact h index found hfound
  · rename_i hlength
    rw [List.getElem?_singleton] at hfound
    split at hfound
    · cases hfound
      have hindex : index = items.length := by omega
      rw [hindex]
      exact hitem
    · cases hfound

/-- The first events are numbered alike. -/
theorem Numbered.of_earlier {fence : ExecutionFence} {start : Nat} {front items : List Outbound}
    (h : Numbered fence start items) (hleads : front <+: items) : Numbered fence start front := by
  obtain ⟨rest, rfl⟩ := hleads
  intro index item hitem
  apply h index item
  rw [List.getElem?_append_left (List.getElem?_eq_some_iff.1 hitem).1]
  exact hitem

/-- A frame that ends a turn at its last event, in the form that a client expects. -/
structure EndsTurn (terminal : Harness.TurnTerminal) : Prop where
  stopReason : validateId "terminal stop reason" terminal.stopReason = .ok ()
  started : terminal.executionCertainty ≠ .notStarted
  quiescent : ¬ (terminal.sessionQuiescent = true ∧ terminal.executionCertainty = .outcomeUnknown)
  messages : terminal.assistantMessages.any (HarnessAcpClient.invalidEventBounds terminal) = false

/-! ## What a client lets through -/

section Client
variable [Sha256] {fence : ExecutionFence} {client : HarnessAcpClient}

omit [Sha256] in
/-- The turn of a valid fence is found. -/
theorem validateActiveFence_active {active : Harness.ActiveTurn}
    (hvalid : validateFence active.fence = .ok ()) (hactive : client.activeTurn = some active) :
    client.validateActiveFence active.fence = .ok active := by
  simp [HarnessAcpClient.validateActiveFence, hvalid, hactive, bind, Except.bind]

/-- The next event is let through. -/
theorem admitEvent_next {active : Harness.ActiveTurn} (hvalid : validateFence active.fence = .ok ())
    (hactive : client.activeTurn = some active) (hseen : InSequence active)
    (hbound : active.lastEventSeq + 1 ≤ u64Max) (raw : Value) :
    ∃ client' active', client.admitEvent active.fence (active.lastEventSeq + 1) raw = .ok client' ∧
      client'.activeTurn = some active' ∧ InSequence active' ∧ active'.fence = active.fence ∧
      active'.lastEventSeq = active.lastEventSeq + 1 := by
  have hlookup : active.seen.lookup (active.lastEventSeq + 1) = none := by
    rw [← Option.not_isSome_iff_eq_none, hseen.seen]
    omega
  have hok : client.admitEvent active.fence (active.lastEventSeq + 1) raw = .ok
      { activeTurn := some { active with
        lastEventSeq := active.lastEventSeq + 1
        seen := (active.lastEventSeq + 1, Sha256.hexDigest (utf8Bytes raw.print)) :: active.seen } } := by
    simp [HarnessAcpClient.admitEvent, validateActiveFence_active hvalid hactive, validatePositive,
      hlookup, Nat.not_lt_of_le hbound, bind, Except.bind]
  obtain ⟨-, -, active', hactive', hseen', hfence, hseq⟩ := admitEvent_ok hactive hseen hok
  refine ⟨_, active', hok, hactive', hseen', hfence, ?_⟩
  obtain ⟨hle, -⟩ | ⟨-, hlast⟩ := hseq
  · omega
  · exact hlast

/-- A numbered event is let through. -/
theorem nextNotification_event {active : Harness.ActiveTurn} {notification : Notification}
    (hvalid : validateFence active.fence = .ok ()) (hactive : client.activeTurn = some active)
    (hseen : InSequence active) (hbound : active.lastEventSeq + 1 ≤ u64Max)
    (hevent : EventOf active.fence (active.lastEventSeq + 1) notification) :
    ∃ client' active', client.nextNotification notification = .ok client' ∧
      client'.activeTurn = some active' ∧ InSequence active' ∧ active'.fence = active.fence ∧
      active'.lastEventSeq = active.lastEventSeq + 1 := by
  cases notification with
  | turnEvent event =>
    obtain ⟨hfence, hseq, hclass⟩ := hevent
    simp only [HarnessAcpClient.nextNotification, hclass, bind, Except.bind, hfence, hseq]
    exact admitEvent_next hvalid hactive hseen hbound _
  | permissionRequested request =>
    obtain ⟨hfence, hseq, hid⟩ := hevent
    simp only [HarnessAcpClient.nextNotification, hid, bind, Except.bind, hfence, hseq]
    exact admitEvent_next hvalid hactive hseen hbound _
  | turnTerminal terminal => cases hevent
  | transcriptEntry entry => cases hevent
  | transcriptComplete complete => cases hevent

/-- The client lets through what the driver sends. -/
def Admits (client : HarnessAcpClient) (items : List Outbound) (client' : HarnessAcpClient) : Prop :=
  (items.map fun item => item.notification).foldlM HarnessAcpClient.nextNotification client =
    .ok client'

/-- Numbered events are let through one after another. -/
theorem admits_numbered {active : Harness.ActiveTurn} {items : List Outbound}
    (hvalid : validateFence active.fence = .ok ()) (hactive : client.activeTurn = some active)
    (hseen : InSequence active) (hbound : active.lastEventSeq + items.length ≤ u64Max)
    (h : Numbered active.fence active.lastEventSeq items) :
    ∃ client' active', Admits client items client' ∧ client'.activeTurn = some active' ∧
      active'.fence = active.fence ∧ active'.lastEventSeq = active.lastEventSeq + items.length := by
  induction items generalizing client active with
  | nil => exact ⟨client, active, rfl, hactive, rfl, rfl⟩
  | cons item rest ih =>
    rw [List.length_cons] at hbound
    obtain ⟨next, found, hnext, hfound, hsequence, hfence, hlast⟩ :=
      nextNotification_event hvalid hactive hseen (by omega) (h 0 item rfl)
    have hrest : Numbered found.fence found.lastEventSeq rest := by
      intro index other hother
      have hevent := h (index + 1) other hother
      rw [hfence, hlast]
      rwa [show active.lastEventSeq + 1 + index + 1 = active.lastEventSeq + (index + 1) + 1 by omega]
    obtain ⟨client', active', hadmits, hactive', hfence', hlast'⟩ :=
      ih (hfence.symm ▸ hvalid) hfound hsequence (by omega) hrest
    refine ⟨client', active', ?_, hactive', hfence'.trans hfence, ?_⟩
    · rw [Admits, List.map_cons, List.foldlM_cons, hnext]
      exact hadmits
    · rw [List.length_cons]
      omega

/-- The frame that ends the turn is let through after its events. -/
theorem admits_terminal {items : List Outbound} {client' : HarnessAcpClient}
    {active : Harness.ActiveTurn} (hadmits : Admits client items client')
    (hactive : client'.activeTurn = some active) (hvalid : validateFence active.fence = .ok ())
    {number : Nat} {terminal : Harness.TurnTerminal} (hfence : terminal.fence = active.fence)
    (hlast : terminal.lastEventSeq = active.lastEventSeq) (hends : EndsTurn terminal) :
    Admits client (items ++ [terminalItem number terminal]) ⟨none⟩ := by
  have hactiveFence : client'.validateActiveFence terminal.fence = .ok active := by
    rw [hfence]
    exact validateActiveFence_active hvalid hactive
  have hterminal : client'.validateTerminal terminal = .ok () := by
    have hmessages : ¬ terminal.assistantMessages.any
        (HarnessAcpClient.invalidEventBounds terminal) = true := by
      rw [hends.messages]
      exact Bool.false_ne_true
    simp only [HarnessAcpClient.validateTerminal, hactiveFence, bind, Except.bind]
    rw [if_neg (not_not.2 hlast), hends.stopReason]
    simp only
    rw [if_neg hends.started, if_neg hends.quiescent, if_neg hmessages]
  rw [Admits, List.map_append, List.foldlM_append, hadmits]
  simp only [terminalItem, HarnessAcpClient.nextNotification, hterminal, bind, Except.bind,
    List.map_cons, List.map_nil, List.foldlM_cons, List.foldlM_nil]
  rfl

end Client

/-! ## What the driver posts -/

/-- Whether an item is about a turn. -/
def isAbout (number : Nat) (outbound : Outbound) : Bool := decide (outbound.subject = .turn number)

/-- The reason that a terminal frame gives. -/
def PromptOutcome.stopReason : PromptOutcome → String
  | .known _ (some hostStop) => hostStop
  | .known response none => runtimeStop response
  | .unknown _ => "outcome_unknown"

/-- A step that keeps the events of every turn in order: no active turn is replaced, no numbered
update is refused, no number is used up, every turn ends for a reason, and the handlers of a turn
send in the order in which they were numbered. -/
def KeepsOrder (action : Action) (d : Driver) : Prop :=
  KeepsTurns action d ∧
  match action with
  | .update raw _ => ∀ sessionRef update turn, raw.getStr "sessionId" = some sessionRef →
      raw.get "update" = some update → d.captureOn sessionRef = none →
      d.activeOn sessionRef = some turn → Capturable turn update
  | .permission raw permissionId _ => validateId "permission_id" permissionId = .ok () ∧
      ∀ sessionRef turn, raw.getStr "sessionId" = some sessionRef →
        d.activeOn sessionRef = some turn → turn.nextEventSeq < u64Max
  | .takeTurn number => ∀ monitor outcome, d.monitors[number]? = some monitor →
      monitor.stage = .decided outcome →
      validateId "terminal stop reason" outcome.stopReason = .ok ()
  | .send index => ∀ outbound number, d.mail.outbox[index]? = some outbound →
      outbound.subject = .turn number → d.mail.InOrder (isAbout number) index
  | _ => True

/-- The counters of an active turn. -/
structure CountersFit (turn : ActiveTurn) : Prop where
  positive : 0 < turn.nextEventSeq
  bounded : turn.nextEventSeq ≤ u64Max
  messages : MessagesWithin turn.nextEventSeq turn.assistantMessages

/-- Everything posted about a turn, by its phase. -/
def StreamPosted (d : Driver) (number : Nat) (turn : Turn) : Prop :=
  match turn.phase with
  | .live => ∀ active, d.activeOn turn.sessionRef = some active → CountersFit active ∧
      Numbered turn.fence 0 (d.mail.about (isAbout number)) ∧
      (d.mail.about (isAbout number)).length + 1 = active.nextEventSeq
  | .taken _ terminal => Numbered turn.fence 0 (d.mail.about (isAbout number)) ∧
      terminal.lastEventSeq = (d.mail.about (isAbout number)).length ∧
      terminal.lastEventSeq < u64Max ∧ EndsTurn terminal
  | _ => ∃ items terminal, d.mail.about (isAbout number) = items ++ [terminalItem number terminal] ∧
      Numbered turn.fence 0 items ∧ terminal.fence = turn.fence ∧
      terminal.lastEventSeq = items.length ∧ terminal.lastEventSeq < u64Max ∧ EndsTurn terminal

structure StreamsPosted (d : Driver) : Prop where
  posted : ∀ (number : Nat) (turn : Turn), d.turns[number]? = some turn → StreamPosted d number turn
  unknown : ∀ number, d.turns.length ≤ number → d.mail.about (isAbout number) = []

/-! ## Steps -/

section Steps
variable {d d' : Driver}

/-- What does not concern a turn leaves its events alone. -/
theorem StreamPosted.congr {number : Nat} {turn : Turn} (h : StreamPosted d number turn)
    (hmail : d'.mail.about (isAbout number) = d.mail.about (isAbout number))
    (hactive : turn.phase = .live → d'.activeOn turn.sessionRef = d.activeOn turn.sessionRef) :
    StreamPosted d' number turn := by
  unfold StreamPosted at h ⊢
  split
  · rename_i hphase
    rw [hphase] at h
    rw [hmail, hactive hphase]
    exact h
  · rename_i hphase
    rw [hphase] at h
    rw [hmail]
    exact h
  · rename_i hlive htaken
    rw [hmail]
    split at h
    · rename_i hphase
      exact absurd hphase hlive
    · rename_i watch terminal hphase
      exact absurd hphase (htaken watch terminal)
    · exact h

/-- A step that concerns no turn. -/
theorem StreamsPosted.of_same (h : StreamsPosted d) (hturns : d'.turns = d.turns)
    (hactive : d'.activeOn = d.activeOn)
    (hmail : ∀ number, d'.mail.about (isAbout number) = d.mail.about (isAbout number)) :
    StreamsPosted d' := by
  constructor
  · rw [hturns]
    intro number turn hturn
    exact (h.posted number turn hturn).congr (hmail number) (fun _ => by rw [hactive])
  · rw [hturns]
    intro number hnumber
    rw [hmail]
    exact h.unknown number hnumber

/-- What is posted about something else. -/
theorem about_post_other {outbound : Outbound} (hmail : d'.mail = d.mail.post outbound) {number : Nat}
    (hother : outbound.subject ≠ .turn number) :
    d'.mail.about (isAbout number) = d.mail.about (isAbout number) := by
  rw [hmail]
  exact Mailbox.about_post_of_neg (by simp [isAbout, hother])

/-- What is posted about a turn. -/
theorem about_post_own {outbound : Outbound} (hmail : d'.mail = d.mail.post outbound) {number : Nat}
    (hown : outbound.subject = .turn number) :
    d'.mail.about (isAbout number) = d.mail.about (isAbout number) ++ [outbound] := by
  rw [hmail]
  exact Mailbox.about_post_of_pos (by simp [isAbout, hown])

/-- A turn starts without any event. -/
theorem StreamsPosted.of_started (h : StreamsPosted d) (howned : TurnsOwned d) {request : StartTurn}
    (hinactive : d.activeOn request.sessionRef = none)
    (hactive : d'.activeOn = Function.update d.activeOn request.sessionRef
      (some (.start request d.turns.length)))
    (hturns : d'.turns = d.turns ++ [⟨request.sessionRef, request.fence, .live⟩])
    (hmail : d'.mail = d.mail) : StreamsPosted d' := by
  constructor
  · intro number turn hturn
    rw [hturns, List.getElem?_append] at hturn
    split at hturn
    · refine (h.posted number turn hturn).congr (by rw [hmail]) ?_
      intro hlive
      obtain ⟨active, hown, -⟩ := howned.live number turn hturn hlive
      rw [hactive, Function.update_of_ne]
      intro hsession
      rw [hsession, hinactive] at hown
      cases hown
    · rename_i hlength
      rw [List.getElem?_singleton] at hturn
      split at hturn
      · cases hturn
        intro active hown
        rw [hactive, Function.update_self] at hown
        cases hown
        rw [hmail, h.unknown number (Nat.le_of_not_lt hlength)]
        refine ⟨⟨Nat.one_pos, (by decide : 1 ≤ u64Max), ?_⟩, numbered_nil _ _, rfl⟩
        intro message hmessage
        cases hmessage
      · cases hturn
  · intro number hnumber
    rw [hturns, List.length_append] at hnumber
    rw [hmail]
    exact h.unknown number (by omega)

/-- Another live turn is on another session. -/
theorem TurnsOwned.session_ne (howned : TurnsOwned d) {sessionRef : String} {active : ActiveTurn}
    (hactive : d.activeOn sessionRef = some active) {number : Nat} {turn : Turn}
    (hturn : d.turns[number]? = some turn) (hlive : turn.phase = .live)
    (hne : number ≠ active.watch) : turn.sessionRef ≠ sessionRef := by
  intro hsession
  obtain ⟨found, hfound, hwatch⟩ := howned.live number turn hturn hlive
  rw [hsession, hactive] at hfound
  cases hfound
  exact hne hwatch.symm

/-- The next event of an active turn is posted. -/
theorem StreamsPosted.of_event (h : StreamsPosted d) (howned : TurnsOwned d) {sessionRef : String}
    {before after : ActiveTurn} (hbefore : d.activeOn sessionRef = some before)
    (hactive : d'.activeOn = Function.update d.activeOn sessionRef (some after))
    (hturns : d'.turns = d.turns) {outbound : Outbound} (hmail : d'.mail = d.mail.post outbound)
    (hsubject : outbound.subject = .turn before.watch)
    (hevent : EventOf before.fence before.nextEventSeq outbound.notification)
    (hnext : after.nextEventSeq = before.nextEventSeq + 1) (hroom : before.nextEventSeq < u64Max)
    (hmessages : MessagesWithin before.nextEventSeq before.assistantMessages →
      0 < before.nextEventSeq → MessagesWithin after.nextEventSeq after.assistantMessages) :
    StreamsPosted d' := by
  have hown := howned.active _ _ hbefore
  constructor
  · rw [hturns]
    intro number turn hturn
    by_cases hnumber : number = before.watch
    · subst hnumber
      rw [hown] at hturn
      cases hturn
      intro active hfound
      rw [hactive, Function.update_self] at hfound
      cases hfound
      obtain ⟨hcounters, hnumbered, hlength⟩ := h.posted _ _ hown before hbefore
      rw [about_post_own hmail hsubject]
      refine ⟨⟨by omega, by omega, hmessages hcounters.messages hcounters.positive⟩, ?_, ?_⟩
      · apply hnumbered.snoc
        rw [Nat.zero_add, hlength]
        exact hevent
      · rw [List.length_append, List.length_singleton]
        omega
    · refine (h.posted number turn hturn).congr
        (about_post_other hmail (by rw [hsubject]; simpa using Ne.symm hnumber)) ?_
      intro hlive
      rw [hactive, Function.update_of_ne (howned.session_ne hbefore hturn hlive hnumber)]
  · rw [hturns]
    intro number hnumber
    rw [about_post_other hmail]
    · exact h.unknown number hnumber
    · rw [hsubject]
      rintro ⟨⟩
      have hlength := (List.getElem?_eq_some_iff.1 hown).1
      omega

/-- The last frame of a turn is what a client expects. -/
theorem endsTurn_terminalOf [Sha256] {turn : ActiveTurn} {outcome : PromptOutcome}
    (hcounters : CountersFit turn)
    (hreason : validateId "terminal stop reason" outcome.stopReason = .ok ()) :
    EndsTurn (terminalOf turn outcome) := by
  have hmessages : ∀ terminal : Harness.TurnTerminal,
      terminal.lastEventSeq = turn.nextEventSeq - 1 →
      terminal.assistantMessages = turn.assistantMessages →
      terminal.assistantMessages.any (HarnessAcpClient.invalidEventBounds terminal) = false := by
    intro terminal hlast hsame
    rw [List.any_eq_false]
    intro message hmessage
    rw [hsame] at hmessage
    obtain ⟨hpos, hle, hlt⟩ := hcounters.messages message hmessage
    simp only [HarnessAcpClient.invalidEventBounds, Bool.or_eq_true, decide_eq_true_eq]
    omega
  match outcome with
  | .known response (some reason) =>
    exact ⟨hreason, by simp [terminalOf], by simp [terminalOf], hmessages _ rfl rfl⟩
  | .known response none =>
    exact ⟨hreason, by simp [terminalOf], by simp [terminalOf], hmessages _ rfl rfl⟩
  | .unknown evidence =>
    exact ⟨hreason, by simp [terminalOf], by simp [terminalOf], hmessages _ rfl rfl⟩

/-- A turn is taken with its last number. -/
theorem StreamsPosted.of_taken [Sha256] (h : StreamsPosted d) (howned : TurnsOwned d) {number : Nat}
    {monitor : Monitor} {outcome : PromptOutcome} (hmonitor : d.monitors[number]? = some monitor)
    (hdecided : monitor.stage = .decided outcome) {turn : ActiveTurn}
    (hturned : d.activeOn monitor.sessionRef = some turn)
    (hactive : d'.activeOn = Function.update d.activeOn monitor.sessionRef none)
    (hturns : d'.turns = d.turnsAt number (.taken turn.watch (terminalOf turn outcome)))
    (hmail : d'.mail = d.mail)
    (hreason : validateId "terminal stop reason" outcome.stopReason = .ok ()) :
    StreamsPosted d' := by
  obtain ⟨hwatch, hfence⟩ := howned.taken_own hmonitor hdecided hturned
  have hlive := turns_of_decided hmonitor hdecided
  constructor
  · intro other found hfound
    rw [hturns, getElem?_turnsAt] at hfound
    split at hfound
    · rename_i heq
      subst heq
      rw [hlive] at hfound
      cases hfound
      obtain ⟨hcounters, hnumbered, hlength⟩ := h.posted _ _ hlive turn hturned
      have hlast := (terminalOf_fields turn outcome).2.1
      have hpos := hcounters.positive
      have hbound := hcounters.bounded
      change Numbered monitor.fence 0 (d'.mail.about (isAbout number)) ∧
        (terminalOf turn outcome).lastEventSeq = (d'.mail.about (isAbout number)).length ∧
        (terminalOf turn outcome).lastEventSeq < u64Max ∧ EndsTurn (terminalOf turn outcome)
      rw [hmail, hlast]
      exact ⟨hnumbered, by omega, by omega, endsTurn_terminalOf hcounters hreason⟩
    · rename_i hne
      refine (h.posted other found hfound).congr (by rw [hmail]) ?_
      intro hphase
      rw [hactive, Function.update_of_ne (howned.session_ne hturned hfound hphase
        (by rw [hwatch]; exact Ne.symm hne))]
  · intro other hother
    rw [hturns, length_turnsAt] at hother
    rw [hmail]
    exact h.unknown other hother

/-- The terminal frame is posted after the events. -/
theorem StreamsPosted.of_offered (h : StreamsPosted d) {number : Nat} {turn : Turn}
    {terminal : Harness.TurnTerminal} (hturn : d.turns[number]? = some turn)
    (hphase : turn.phase = .taken number terminal) (hfence : terminal.fence = turn.fence)
    (hactive : d'.activeOn = d.activeOn) (hturns : d'.turns = d.turnsAt number .publishing)
    (hmail : d'.mail = d.mail.post (terminalItem number terminal)) : StreamsPosted d' := by
  constructor
  · intro other found hfound
    rw [hturns, getElem?_turnsAt] at hfound
    split at hfound
    · rename_i heq
      subst heq
      rw [hturn] at hfound
      cases hfound
      have hposted := h.posted number turn hturn
      rw [StreamPosted, hphase] at hposted
      obtain ⟨hnumbered, hlast, hroom, hends⟩ := hposted
      exact ⟨_, terminal, about_post_own hmail rfl, hnumbered, hfence, hlast, hroom, hends⟩
    · rename_i hne
      refine (h.posted other found hfound).congr
        (about_post_other hmail (by simpa [terminalItem] using hne)) (fun _ => by rw [hactive])
  · intro other hother
    rw [hturns, length_turnsAt] at hother
    rw [about_post_other hmail]
    · exact h.unknown other hother
    · rintro ⟨⟩
      have hlength := (List.getElem?_eq_some_iff.1 hturn).1
      omega

/-- A turn whose terminal frame is sent stays as it was posted. -/
theorem StreamsPosted.of_finished (h : StreamsPosted d) {number : Nat}
    (hpublishing : ∀ turn : Turn, d.turns[number]? = some turn → turn.phase = .publishing)
    (hactive : d'.activeOn = d.activeOn) (hturns : d'.turns = d.turnsAt number .finished)
    (hmail : ∀ number, d'.mail.about (isAbout number) = d.mail.about (isAbout number)) :
    StreamsPosted d' := by
  constructor
  · intro other found hfound
    rw [hturns, getElem?_turnsAt] at hfound
    split at hfound
    · rw [Option.map_eq_some_iff] at hfound
      obtain ⟨turn, hturn, rfl⟩ := hfound
      rename_i heq
      subst heq
      have hposted := h.posted number turn hturn
      rw [StreamPosted, hpublishing turn hturn] at hposted
      change ∃ items terminal, d'.mail.about (isAbout number) =
        items ++ [terminalItem number terminal] ∧ _
      rw [hmail]
      exact hposted
    · exact (h.posted other found hfound).congr (hmail other) (fun _ => by rw [hactive])
  · intro other hother
    rw [hturns, length_turnsAt] at hother
    rw [hmail]
    exact h.unknown other hother

end Steps

/-- Every classification is a valid identifier. -/
theorem validateId_classifyUpdate (update : Value) :
    validateId "event classification" (classifyUpdate update) = .ok () := by
  unfold classifyUpdate
  split <;> decide +kernel

/-- The numbers of a turn fit as long as it is live. -/
theorem StreamsPosted.counters {d : Driver} (h : StreamsPosted d) (howned : TurnsOwned d)
    {sessionRef : String} {turn : ActiveTurn} (hturn : d.activeOn sessionRef = some turn) :
    CountersFit turn :=
  (h.posted _ _ (howned.active _ _ hturn) turn hturn).1

theorem StreamsPosted.next [Sha256] {d d' : Driver} {action : Action} (h : StreamsPosted d)
    (hinvariant : TurnsInvariant d) (hkeeps : KeepsOrder action d) (hmove : Move d action d') :
    StreamsPosted d' := by
  have howned := hinvariant.owned
  have hsame : d'.mail = d.mail →
      ∀ number, d'.mail.about (isAbout number) = d.mail.about (isAbout number) := by
    intro hmail number
    rw [hmail]
  cases hmove with
  | quiet hactive _ hturns _ hmail => exact h.of_same hturns hactive (hsame hmail)
  | opened hserving hopens hactive _ hturns _ hmail =>
    refine h.of_same hturns ?_ (hsame hmail)
    rw [hactive, ← hkeeps.1.opened hserving hopens, Function.update_eq_self]
  | closed _ _ hactive _ hturns _ hmail => exact h.of_same hturns hactive (hsame hmail)
  | started _ hinactive hactive _ hturns _ hmail =>
    exact h.of_started howned hinactive hactive hturns hmail
  | ignored _ hactive _ hturns _ hmail => exact h.of_same hturns hactive (hsame hmail)
  | @folded raw now sessionRef update turn _ hsession hupdate hfree hturned hactive _ hturns _ hmail =>
    have hcapturable := hkeeps.2 sessionRef update turn hsession hupdate hfree hturned
    have hcounters := h.counters howned hturned
    obtain hroom | hfull := Nat.lt_or_ge turn.nextEventSeq u64Max
    · obtain ⟨event, hevent, hnext, hfence, hseq, hclass, -⟩ :=
        foldUpdate_event now hroom hcapturable
      rw [hevent] at hmail
      refine h.of_event howned hturned hactive hturns hmail ?_ ?_ hnext hroom ?_
      · rw [(foldUpdate_same turn update now).watch]
      · exact ⟨hfence, hseq, hclass ▸ validateId_classifyUpdate update⟩
      · intro hmessages hpos
        rw [hnext]
        exact foldUpdate_within hpos hmessages hevent
    · rw [foldUpdate_overflow update now hfull] at hactive hmail
      refine h.of_same hturns ?_ (hsame hmail)
      rw [hactive, ← hturned, Function.update_eq_self]
  | @captured _ now sessionRef update taken _ _ _ _ hactive _ hturns _ hmail =>
    refine h.of_same hturns hactive ?_
    intro number
    cases hentry : (captureTranscriptEntry taken sessionRef update now).2 with
    | none =>
      rw [hentry] at hmail
      rw [hmail]
    | some entry =>
      rw [hentry] at hmail
      exact about_post_other hmail (by simp)
  | @asked _ _ _ sessionRef turn asked _ hsession _ hturned hwatch hfence hseq hid hactive _ hturns _
      hmail =>
    have hroom := hkeeps.2.2 sessionRef turn hsession hturned
    refine h.of_event howned hturned hactive hturns hmail (by rw [hwatch]) ?_
      (Nat.mod_eq_of_lt (by omega)) hroom ?_
    · exact ⟨hfence, hseq, hid ▸ hkeeps.2.1⟩
    · intro hmessages _ message hmessage
      obtain ⟨hpos, hle, hlt⟩ := hmessages message hmessage
      have hnext : (turn.nextEventSeq + 1) % (u64Max + 1) = turn.nextEventSeq + 1 :=
        Nat.mod_eq_of_lt (by omega)
      exact ⟨hpos, hle, by dsimp only; omega⟩
  | @taken number monitor outcome _ _ hmonitor hdecided hturned hactive _ hturns _ hmail =>
    exact h.of_taken howned hmonitor hdecided hturned hactive hturns hmail
      (hkeeps.2 monitor outcome hmonitor hdecided)
  | lost hmonitor hdecided hinactive =>
    obtain ⟨active, hown, -⟩ := howned.live _ _ (turns_of_decided hmonitor hdecided) rfl
    rw [hinactive] at hown
    cases hown
  | offered hmonitor hphase hactive _ hturns _ hmail =>
    obtain ⟨rfl, hfence⟩ := howned.taken _ _ _ _ hmonitor hphase
    exact h.of_offered hmonitor hphase hfence hactive hturns hmail
  | replayed _ _ hactive _ hturns _ hmail => exact h.of_same hturns hactive (hsame hmail)
  | completed _ _ hactive _ hturns _ hmail =>
    exact h.of_same hturns hactive (fun number => about_post_other hmail (by simp))
  | @sent index outbound _ hwaiting hactive _ hturns _ hmail =>
    have habout : ∀ number, d'.mail.about (isAbout number) = d.mail.about (isAbout number) := by
      intro number
      rw [hmail]
      apply Mailbox.about_send
      intro item hitem hsubject
      exact hkeeps.2 item number hitem (by simpa [isAbout] using hsubject) item hitem hsubject
    cases hsender : outbound.sender with
    | monitor number =>
      rw [hsender] at hturns
      refine h.of_finished ?_ hactive hturns habout
      intro turn hturn
      obtain ⟨found, hfound, hphase, -⟩ :=
        hinvariant.posted.publishing (List.mem_of_getElem? hwaiting) hsender
      rw [hturn] at hfound
      cases hfound
      exact hphase
    | update =>
      rw [hsender] at hturns
      exact h.of_same hturns hactive habout
    | request handler =>
      rw [hsender] at hturns
      exact h.of_same hturns hactive habout
    | replay number =>
      rw [hsender] at hturns
      exact h.of_same hturns hactive habout

/-! ## Runs -/

/-- What is said about the channel of one turn. -/
structure ArrivesInOrder [Sha256] (d : Driver) (number : Nat) (monitor : Monitor) : Prop where
  events : ∃ items, Numbered monitor.fence 0 items ∧
    if monitor.stage = .finished then
      ∃ terminal, d.mail.channel.filter (isAbout number) = items ++ [terminalItem number terminal] ∧
        terminal.fence = monitor.fence ∧ terminal.lastEventSeq = items.length
    else d.mail.channel.filter (isAbout number) = items
  admitted : ∀ client : HarnessAcpClient, client.activeTurn = some ⟨monitor.fence, 0, []⟩ →
    validateFence monitor.fence = .ok () →
    ∃ client', Admits client (d.mail.channel.filter (isAbout number)) client'

/-- The events and streams of a driver, with its turns. -/
structure StreamInvariant (d : Driver) : Prop where
  turns : TurnsInvariant d
  streams : StreamsPosted d

theorem streamInvariant_start : StreamInvariant .start := by
  refine ⟨turnsInvariant_start, ?_, ?_⟩
  · intro number turn hturn
    cases hturn
  · intro number _
    rfl

/-- A terminal frame is about its turn. -/
theorem isAbout_of_isTerminalOf {number : Nat} {outbound : Outbound}
    (h : isTerminalOf number outbound = true) : isAbout number outbound = true := by
  rw [isTerminalOf, Bool.and_eq_true] at h
  exact h.1

/-- What is on the channel of one turn is a first part of its events, or all of them with the
terminal frame. -/
theorem StreamInvariant.channel {d : Driver} (h : StreamInvariant d) {number : Nat}
    {monitor : Monitor} (hmonitor : d.monitors[number]? = some monitor) :
    ∃ items, Numbered monitor.fence 0 items ∧ items.length < u64Max ∧
      if monitor.stage = .finished then
        ∃ terminal, d.mail.channel.filter (isAbout number) = items ++ [terminalItem number terminal] ∧
          terminal.fence = monitor.fence ∧ terminal.lastEventSeq = items.length ∧ EndsTurn terminal
      else d.mail.channel.filter (isAbout number) = items := by
  have hturn := getElem?_turns hmonitor
  have hstream := h.streams.posted number _ hturn
  have hposted := h.turns.posted.posted number _ hturn
  have hself : ∀ terminal, isTerminalOf number (terminalItem number terminal) = true := by
    simp [isTerminalOf_terminalItem]
  have hleads : d.mail.channel.filter (isAbout number) <+: d.mail.about (isAbout number) :=
    List.prefix_append _ _
  unfold StreamPosted at hstream
  unfold TerminalPosted at hposted
  split at hstream
  · -- the turn is live, and nothing but events was posted
    rename_i hphase
    obtain ⟨active, hactive, -⟩ := h.turns.owned.live number _ hturn hphase
    obtain ⟨hcounters, hnumbered, hlength⟩ := hstream active hactive
    have hle := hleads.length_le
    have hbound := hcounters.bounded
    refine ⟨_, hnumbered.of_earlier hleads, by omega, ?_⟩
    rw [if_neg]
    intro hfinished
    rw [Monitor.turn, hfinished] at hphase
    cases hphase
  · rename_i watch terminal hphase
    obtain ⟨hnumbered, hlast, hroom, -⟩ := hstream
    have hle := hleads.length_le
    refine ⟨_, hnumbered.of_earlier hleads, by omega, ?_⟩
    rw [if_neg]
    intro hfinished
    rw [Monitor.turn, hfinished] at hphase
    cases hphase
  · rename_i hlive htaken
    obtain ⟨items, terminal, habout, hnumbered, hfence, hlast, hroom, hends⟩ := hstream
    rw [habout, List.prefix_concat_iff] at hleads
    by_cases hfinished : monitor.stage = .finished
    · have hphase : monitor.turn.phase = .finished := MonitorStage.phase_eq_finished.2 hfinished
      rw [hphase] at hposted
      refine ⟨items, hnumbered, hlast ▸ hroom, ?_⟩
      rw [if_pos hfinished]
      refine ⟨terminal, ?_, hfence, hlast, hends⟩
      obtain hwhole | ⟨rest, hrest⟩ := hleads
      · exact hwhole
      · -- the terminal frame would still wait
        have hmem : terminalItem number terminal ∈ d.mail.outbox.filter (isAbout number) := by
          rw [Mailbox.about, ← hrest, List.append_assoc] at habout
          rw [List.append_cancel_left habout]
          simp
        have hterminal : terminalItem number terminal ∈
            d.mail.outbox.filter (isTerminalOf number) :=
          List.mem_filter.2 ⟨(List.mem_filter.1 hmem).1, hself terminal⟩
        rw [hposted.1] at hterminal
        cases hterminal
    · have hnone : d.mail.channel.filter (isTerminalOf number) = [] := by
        split at hposted
        · exact hposted.1
        · rename_i hphase
          exact absurd (MonitorStage.phase_eq_finished.1 hphase) hfinished
        · exact hposted.1
      obtain hwhole | hfront := hleads
      · have hmem : terminalItem number terminal ∈ d.mail.channel.filter (isTerminalOf number) := by
          have hin : terminalItem number terminal ∈ d.mail.channel.filter (isAbout number) := by
            rw [hwhole]
            simp
          exact List.mem_filter.2 ⟨(List.mem_filter.1 hin).1, hself terminal⟩
        rw [hnone] at hmem
        cases hmem
      · have hle := hfront.length_le
        refine ⟨_, hnumbered.of_earlier hfront, by omega, ?_⟩
        rw [if_neg hfinished]

theorem StreamInvariant.arrivesInOrder [Sha256] {d : Driver} (h : StreamInvariant d) {number : Nat}
    {monitor : Monitor} (hmonitor : d.monitors[number]? = some monitor) :
    ArrivesInOrder d number monitor := by
  obtain ⟨items, hnumbered, hlength, hchannel⟩ := h.channel hmonitor
  constructor
  · refine ⟨items, hnumbered, ?_⟩
    split
    · rename_i hfinished
      rw [if_pos hfinished] at hchannel
      obtain ⟨terminal, hsent, hfence, hlast, -⟩ := hchannel
      exact ⟨terminal, hsent, hfence, hlast⟩
    · rename_i hunfinished
      rw [if_neg hunfinished] at hchannel
      exact hchannel
  · intro client hactive hvalid
    obtain ⟨client', active', hadmits, hactive', hfence', hlast'⟩ := admits_numbered hvalid
      hactive ⟨fun seq => by simp only [List.lookup_nil]; simp; omega⟩ (by simp; omega) hnumbered
    split at hchannel
    · obtain ⟨terminal, hsent, hfence, hlast, hends⟩ := hchannel
      rw [hsent]
      refine ⟨_, admits_terminal hadmits hactive' (by rw [hfence']; exact hvalid)
        (hfence.trans hfence'.symm) ?_ hends⟩
      rw [hlast, hlast']
      simp
    · rw [hchannel]
      exact ⟨client', hadmits⟩

/-- A chunk of an agent message without its content. -/
def malformedChunk : Value :=
  .object [("sessionId", .string "s"),
    ("update", .object [("sessionUpdate", .string "agent_message_chunk")])]

/-- A plan of the runtime. -/
def samplePlan : Value :=
  .object [("sessionId", .string "s"), ("update", .object [("sessionUpdate", .string "plan")])]

/-- Two events of the sample turn. -/
def plannedRun : List Action :=
  sampleStarted ++ [.update samplePlan 5, .update samplePlan 6, .send 0, .send 0]

/-- Two events of the sample turn, and its end. -/
def orderedRun : List Action := plannedRun ++ answeredTurn 0 ++ [.withdraw 0, .send 0]

/-- A malformed chunk comes before the plan. -/
def malformedRun : List Action :=
  sampleStarted ++ [.update malformedChunk 5, .update samplePlan 6, .send 0]

/-- The handler of the second plan sends before the handler of the first. -/
def overtakenRun : List Action :=
  sampleStarted ++ [.update samplePlan 5, .update samplePlan 6, .send 1, .send 0]

/-- The sequence numbers of what was sent. -/
def sentEventSeqs (d : Driver) : List (Option Nat) :=
  d.mail.channel.map fun outbound =>
    match outbound.notification with
    | .turnEvent event => some event.eventSeq
    | .permissionRequested request => some request.eventSeq
    | _ => none

/-- What the client of the sample turn makes of the channel. -/
def sampleAdmission (d : Driver) : Except PluginError HarnessAcpClient :=
  ((d.mail.channel.filter (isAbout 0)).map fun item => item.notification).foldlM
    HarnessAcpClient.nextNotification ⟨some ⟨sampleFence "i", 0, []⟩⟩

/-- The plan is no chunk, so that it can be captured. -/
theorem capturable_samplePlan (turn : ActiveTurn) :
    Capturable turn (.object [("sessionUpdate", .string "plan")]) := by
  intro hkind
  have hplan : (Value.object [("sessionUpdate", .string "plan")]).getStr "sessionUpdate" =
      some "plan" := by decide +kernel
  rw [hplan] at hkind
  exact absurd hkind (by decide)

end Fleetd.AcpHost
