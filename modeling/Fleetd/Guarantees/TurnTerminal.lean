import Fleetd.AcpHost.Moves
import Fleetd.Kernel.Sha256

/-!
# The end of a turn

Every accepted turn ends in one terminal frame. The active turn of a session is the one that its
monitor waits for, as long as nothing else puts a fresh record in the place of the session: opening
a session again does that without a look at the turn that is active on it.
-/

namespace Fleetd.AcpHost

open Serde (Value)
open Harness Effects Relational

/-! ## Terminal frames -/

/-- The fence of a terminal frame. -/
def terminalFence : Notification → Option ExecutionFence
  | .turnTerminal terminal => some terminal.fence
  | _ => none

/-- Whether an item is a terminal frame of a turn. -/
def isTerminalOf (number : Nat) (outbound : Outbound) : Bool :=
  decide (outbound.subject = .turn number) && (terminalFence outbound.notification).isSome

/-- Whether an item is a terminal frame under a fence. -/
def isTerminalUnder (fence : ExecutionFence) (outbound : Outbound) : Bool :=
  decide (terminalFence outbound.notification = some fence)

/-- The terminal frame of a turn as its monitor sends it. -/
def terminalItem (number : Nat) (terminal : Harness.TurnTerminal) : Outbound :=
  ⟨.turn number, .monitor number, .turnTerminal terminal⟩

/-- A step that does not replace a session with an active turn. -/
def KeepsTurns (action : Action) (d : Driver) : Prop :=
  match action, d.serving with
  | .openAnswered answer, .opening request =>
    ∀ sessionRef shared, openSession request answer d.shared = .ok (sessionRef, shared) →
      d.activeOn sessionRef = none
  | _, _ => True

/-- A session that is opened had no active turn. -/
theorem KeepsTurns.opened {d : Driver} {request : OpenSession} {answer : Except String Value}
    {sessionRef : String} {shared : SharedState} (h : KeepsTurns (.openAnswered answer) d)
    (hserving : d.serving = .opening request)
    (hopens : openSession request answer d.shared = .ok (sessionRef, shared)) :
    d.activeOn sessionRef = none := by
  simp only [KeepsTurns, hserving] at h
  exact h sessionRef shared hopens

/-! ## Turns -/

/-- The active turns are the live ones, each on its own session. -/
structure TurnsOwned (d : Driver) : Prop where
  active : ∀ sessionRef turn, d.activeOn sessionRef = some turn →
    d.turns[turn.watch]? = some ⟨sessionRef, turn.fence, .live⟩
  live : ∀ (number : Nat) (turn : Turn), d.turns[number]? = some turn → turn.phase = .live →
    ∃ active, d.activeOn turn.sessionRef = some active ∧ active.watch = number
  taken : ∀ (number : Nat) (turn : Turn) (watch : Nat) (terminal : Harness.TurnTerminal),
    d.turns[number]? = some turn → turn.phase = .taken watch terminal →
    watch = number ∧ terminal.fence = turn.fence

/-- What a phase says about a turn that is not taken twice. -/
theorem getElem?_turnsAt (d : Driver) (number other : Nat) (phase : TurnPhase) :
    (d.turnsAt number phase)[other]? =
      if number = other then d.turns[other]?.map fun turn => { turn with phase }
      else d.turns[other]? := by
  rw [Driver.turnsAt, List.getElem?_modify]
  split
  · rfl
  · simp

/-- A turn that is not live changes its phase. -/
theorem TurnsOwned.of_phase {d d' : Driver} (h : TurnsOwned d) (hactive : d'.activeOn = d.activeOn)
    {number : Nat} {phase : TurnPhase} (hturns : d'.turns = d.turnsAt number phase)
    (hwas : ∀ turn : Turn, d.turns[number]? = some turn → turn.phase ≠ .live)
    (hnow : phase = .publishing ∨ phase = .finished) : TurnsOwned d' := by
  constructor
  · intro sessionRef turn hturn
    rw [hactive] at hturn
    have hlive := h.active sessionRef turn hturn
    rw [hturns, getElem?_turnsAt, if_neg, hlive]
    rintro rfl
    exact hwas _ hlive rfl
  · intro other turn hother hphase
    rw [hturns, getElem?_turnsAt] at hother
    rw [hactive]
    split at hother
    · rw [Option.map_eq_some_iff] at hother
      obtain ⟨before, _, rfl⟩ := hother
      obtain rfl | rfl := hnow
      · cases hphase
      · cases hphase
    · exact h.live other turn hother hphase
  · intro other turn watch terminal hother hphase
    rw [hturns, getElem?_turnsAt] at hother
    split at hother
    · rw [Option.map_eq_some_iff] at hother
      obtain ⟨before, _, rfl⟩ := hother
      obtain rfl | rfl := hnow
      · cases hphase
      · cases hphase
    · exact h.taken other turn watch terminal hother hphase

/-- A step that changes nothing about turns. -/
theorem TurnsOwned.of_same {d d' : Driver} (h : TurnsOwned d) (hactive : d'.activeOn = d.activeOn)
    (hturns : d'.turns = d.turns) : TurnsOwned d' := by
  constructor
  · rw [hactive, hturns]
    exact h.active
  · rw [hactive, hturns]
    exact h.live
  · rw [hturns]
    exact h.taken

/-- The record of an active turn changes. -/
theorem TurnsOwned.of_update {d d' : Driver} (h : TurnsOwned d) {sessionRef : String}
    {before after : ActiveTurn} (hbefore : d.activeOn sessionRef = some before)
    (hactive : d'.activeOn = Function.update d.activeOn sessionRef (some after))
    (hfence : after.fence = before.fence) (hwatch : after.watch = before.watch)
    (hturns : d'.turns = d.turns) : TurnsOwned d' := by
  constructor
  · intro other turn hturn
    rw [hactive] at hturn
    rw [hturns]
    by_cases hother : other = sessionRef
    · subst hother
      rw [Function.update_self] at hturn
      cases hturn
      rw [hwatch, hfence]
      exact h.active _ _ hbefore
    · rw [Function.update_of_ne hother] at hturn
      exact h.active other turn hturn
  · intro number turn hturn hphase
    rw [hturns] at hturn
    obtain ⟨active, hlive, hnumber⟩ := h.live number turn hturn hphase
    rw [hactive]
    by_cases hother : turn.sessionRef = sessionRef
    · rw [hother] at hlive
      obtain rfl : before = active := Option.some.inj (hbefore.symm.trans hlive)
      exact ⟨after, by rw [hother, Function.update_self], hwatch.trans hnumber⟩
    · exact ⟨active, by rw [Function.update_of_ne hother]; exact hlive, hnumber⟩
  · rw [hturns]
    exact h.taken

/-- The turn of a monitor that has decided is live. -/
theorem turns_of_decided {d : Driver} {number : Nat} {monitor : Monitor} {outcome : PromptOutcome}
    (hmonitor : d.monitors[number]? = some monitor) (hdecided : monitor.stage = .decided outcome) :
    d.turns[number]? = some ⟨monitor.sessionRef, monitor.fence, .live⟩ := by
  rw [getElem?_turns hmonitor, Monitor.turn, hdecided]
  rfl

/-- The turn that a monitor takes is its own. -/
theorem TurnsOwned.taken_own {d : Driver} (h : TurnsOwned d) {number : Nat} {monitor : Monitor}
    {outcome : PromptOutcome} (hmonitor : d.monitors[number]? = some monitor)
    (hdecided : monitor.stage = .decided outcome) {turn : ActiveTurn}
    (hturn : d.activeOn monitor.sessionRef = some turn) :
    turn.watch = number ∧ turn.fence = monitor.fence := by
  have hlive := turns_of_decided hmonitor hdecided
  obtain ⟨active, hactive, hwatch⟩ := h.live number _ hlive rfl
  obtain rfl : turn = active := Option.some.inj (hturn.symm.trans hactive)
  have hown := h.active _ _ hturn
  rw [hwatch, hlive, Option.some.injEq, Turn.mk.injEq] at hown
  exact ⟨hwatch, hown.2.1.symm⟩

/-- The fence of the last frame is the fence of the turn. -/
theorem terminalOf_fields [Sha256] (turn : ActiveTurn) (outcome : PromptOutcome) :
    (terminalOf turn outcome).fence = turn.fence ∧
      (terminalOf turn outcome).lastEventSeq = turn.nextEventSeq - 1 ∧
      (terminalOf turn outcome).assistantMessages = turn.assistantMessages ∧
      (terminalOf turn outcome).usage = turn.usage := by
  match outcome with
  | .known response (some reason) => exact ⟨rfl, rfl, rfl, rfl⟩
  | .known response none => exact ⟨rfl, rfl, rfl, rfl⟩
  | .unknown evidence => exact ⟨rfl, rfl, rfl, rfl⟩

/-- A live turn is taken by its monitor. -/
theorem TurnsOwned.of_taken [Sha256] {d d' : Driver} (h : TurnsOwned d) {number : Nat}
    {monitor : Monitor} {outcome : PromptOutcome} (hmonitor : d.monitors[number]? = some monitor)
    (hdecided : monitor.stage = .decided outcome) {turn : ActiveTurn}
    (hturn : d.activeOn monitor.sessionRef = some turn)
    (hactive : d'.activeOn = Function.update d.activeOn monitor.sessionRef none)
    (hturns : d'.turns = d.turnsAt number (.taken turn.watch (terminalOf turn outcome))) :
    TurnsOwned d' := by
  obtain ⟨hwatch, hfence⟩ := h.taken_own hmonitor hdecided hturn
  have hlive := turns_of_decided hmonitor hdecided
  constructor
  · intro sessionRef other hother
    rw [hactive] at hother
    by_cases hsession : sessionRef = monitor.sessionRef
    · rw [hsession, Function.update_self] at hother
      cases hother
    · rw [Function.update_of_ne hsession] at hother
      have hown := h.active _ _ hother
      rw [hturns, getElem?_turnsAt, if_neg, hown]
      rintro rfl
      rw [hlive, Option.some.injEq, Turn.mk.injEq] at hown
      exact hsession hown.1.symm
  · intro other found hfound hphase
    rw [hturns, getElem?_turnsAt] at hfound
    split at hfound
    · rw [Option.map_eq_some_iff] at hfound
      obtain ⟨before, _, rfl⟩ := hfound
      cases hphase
    · rename_i hne
      obtain ⟨active, hown, hnumber⟩ := h.live other found hfound hphase
      refine ⟨active, ?_, hnumber⟩
      rw [hactive, Function.update_of_ne]
      · exact hown
      · intro hsession
        rw [hsession, hturn] at hown
        cases hown
        exact hne (hwatch.symm.trans hnumber)
  · intro other found watch terminal hfound hphase
    rw [hturns, getElem?_turnsAt] at hfound
    split at hfound
    · rename_i heq
      subst heq
      rw [hlive, Option.map_some, Option.some.injEq] at hfound
      subst hfound
      cases hphase
      exact ⟨hwatch, (terminalOf_fields turn outcome).1.trans hfence⟩
    · exact h.taken other found watch terminal hfound hphase

/-- A turn starts on a session without one. -/
theorem TurnsOwned.of_started {d d' : Driver} (h : TurnsOwned d) {request : StartTurn}
    (hinactive : d.activeOn request.sessionRef = none)
    (hactive : d'.activeOn = Function.update d.activeOn request.sessionRef
      (some (.start request d.turns.length)))
    (hturns : d'.turns = d.turns ++ [⟨request.sessionRef, request.fence, .live⟩]) :
    TurnsOwned d' := by
  constructor
  · intro sessionRef turn hturn
    rw [hactive] at hturn
    rw [hturns]
    by_cases hsession : sessionRef = request.sessionRef
    · rw [hsession, Function.update_self] at hturn
      cases hturn
      rw [hsession]
      exact List.getElem?_concat_length
    · rw [Function.update_of_ne hsession] at hturn
      have hown := h.active _ _ hturn
      rw [List.getElem?_append_left (List.getElem?_eq_some_iff.1 hown).1]
      exact hown
  · intro number turn hturn hphase
    rw [hturns, List.getElem?_append] at hturn
    rw [hactive]
    split at hturn
    · obtain ⟨active, hown, hnumber⟩ := h.live number turn hturn hphase
      refine ⟨active, ?_, hnumber⟩
      rw [Function.update_of_ne]
      · exact hown
      · intro hsession
        rw [hsession, hinactive] at hown
        cases hown
    · rename_i hlength
      rw [List.getElem?_singleton] at hturn
      split at hturn
      · cases hturn
        refine ⟨_, Function.update_self _ _ _, ?_⟩
        change d.turns.length = number
        omega
      · cases hturn
  · intro number turn watch terminal hturn hphase
    rw [hturns, List.getElem?_append] at hturn
    split at hturn
    · exact h.taken number turn watch terminal hturn hphase
    · rw [List.getElem?_singleton] at hturn
      split at hturn
      · cases hturn
        cases hphase
      · cases hturn

/-- Every step that keeps the active turns keeps them with their monitors. -/
theorem TurnsOwned.next [Sha256] {d d' : Driver} {action : Action} (h : TurnsOwned d)
    (hkeeps : KeepsTurns action d) (hmove : Move d action d')
    (hposted : ∀ outbound ∈ d.mail.outbox, ∀ number, outbound.sender = .monitor number →
      ∀ turn : Turn, d.turns[number]? = some turn → turn.phase = .publishing) : TurnsOwned d' := by
  cases hmove with
  | quiet hactive _ hturns => exact h.of_same hactive hturns
  | opened hserving hopens hactive _ hturns =>
    refine h.of_same ?_ hturns
    rw [hactive, ← hkeeps.opened hserving hopens, Function.update_eq_self]
  | closed _ _ hactive _ hturns => exact h.of_same hactive hturns
  | started _ hinactive hactive _ hturns => exact h.of_started hinactive hactive hturns
  | ignored _ hactive _ hturns => exact h.of_same hactive hturns
  | folded _ _ _ hturned hactive _ hturns =>
    have hsame := foldUpdate_same
    exact h.of_update hturned hactive (hsame _ _ _).fence (hsame _ _ _).watch hturns
  | captured _ _ _ hactive _ hturns => exact h.of_same hactive hturns
  | asked _ _ hturned _ _ _ _ hactive _ hturns =>
    exact h.of_update hturned hactive rfl rfl hturns
  | taken hmonitor hdecided hturned hactive _ hturns =>
    exact h.of_taken hmonitor hdecided hturned hactive hturns
  | lost hmonitor hdecided hinactive =>
    obtain ⟨active, hown, -⟩ := h.live _ _ (turns_of_decided hmonitor hdecided) rfl
    rw [hinactive] at hown
    cases hown
  | offered hmonitor hphase hactive _ hturns =>
    refine h.of_phase hactive hturns ?_ (.inl rfl)
    intro turn hturn hlive
    rw [hmonitor] at hturn
    cases hturn
    rw [hphase] at hlive
    cases hlive
  | replayed _ _ hactive _ hturns => exact h.of_same hactive hturns
  | completed _ _ hactive _ hturns => exact h.of_same hactive hturns
  | @sent index outbound _ hwaiting hactive _ hturns =>
    have hmem := List.mem_of_getElem? hwaiting
    cases hsender : outbound.sender with
    | monitor number =>
      rw [hsender] at hturns
      refine h.of_phase hactive hturns ?_ (.inr rfl)
      intro turn hturn hlive
      rw [hposted outbound hmem number hsender turn hturn] at hlive
      cases hlive
    | update =>
      rw [hsender] at hturns
      exact h.of_same hactive hturns
    | request handler =>
      rw [hsender] at hturns
      exact h.of_same hactive hturns
    | replay number =>
      rw [hsender] at hturns
      exact h.of_same hactive hturns

/-! ## Frames -/

/-- The terminal frames of a turn, by its phase. -/
def TerminalPosted (d : Driver) (number : Nat) (turn : Turn) : Prop :=
  match turn.phase with
  | .publishing => d.mail.channel.filter (isTerminalOf number) = [] ∧
      ∃ terminal, d.mail.outbox.filter (isTerminalOf number) = [terminalItem number terminal] ∧
        terminal.fence = turn.fence
  | .finished => d.mail.outbox.filter (isTerminalOf number) = [] ∧
      ∃ terminal, d.mail.channel.filter (isTerminalOf number) = [terminalItem number terminal] ∧
        terminal.fence = turn.fence
  | _ => d.mail.channel.filter (isTerminalOf number) = [] ∧
      d.mail.outbox.filter (isTerminalOf number) = []

/-- Every turn has posted the terminal frames that its phase says, and nothing else ends a turn. -/
structure TerminalsPosted (d : Driver) : Prop where
  posted : ∀ (number : Nat) (turn : Turn), d.turns[number]? = some turn → TerminalPosted d number turn
  unknown : ∀ number, d.turns.length ≤ number →
    d.mail.channel.filter (isTerminalOf number) = [] ∧
      d.mail.outbox.filter (isTerminalOf number) = []
  monitors : ∀ outbound ∈ d.mail.outbox, ∀ number, outbound.sender = .monitor number →
    ∃ terminal, outbound = terminalItem number terminal
  terminals : ∀ outbound ∈ d.mail.outbox, (terminalFence outbound.notification).isSome = true →
    ∃ number, outbound.sender = .monitor number
  counted : ∀ fence, d.mail.channel.countP (isTerminalUnder fence) =
    d.turns.countP fun turn => decide (turn.fence = fence) && decide (turn.phase = .finished)

theorem isTerminalOf_terminalItem (number other : Nat) (terminal : Harness.TurnTerminal) :
    isTerminalOf other (terminalItem number terminal) = decide (number = other) := by
  simp [isTerminalOf, terminalItem, terminalFence]

/-- A frame that waits for its monitor belongs to a turn that is being published. -/
theorem TerminalsPosted.publishing {d : Driver} (h : TerminalsPosted d) {outbound : Outbound}
    (hmem : outbound ∈ d.mail.outbox) {number : Nat} (hsender : outbound.sender = .monitor number) :
    ∃ turn : Turn, d.turns[number]? = some turn ∧ turn.phase = .publishing ∧
      ∃ terminal, outbound = terminalItem number terminal ∧ terminal.fence = turn.fence ∧
        d.mail.channel.filter (isTerminalOf number) = [] ∧
        d.mail.outbox.filter (isTerminalOf number) = [terminalItem number terminal] := by
  obtain ⟨terminal, rfl⟩ := h.monitors outbound hmem number hsender
  have hfilter : terminalItem number terminal ∈ d.mail.outbox.filter (isTerminalOf number) := by
    rw [List.mem_filter]
    exact ⟨hmem, by simp [isTerminalOf_terminalItem]⟩
  by_cases hlength : d.turns.length ≤ number
  · rw [(h.unknown number hlength).2] at hfilter
    cases hfilter
  · have hturn := List.getElem?_eq_getElem (Nat.lt_of_not_le hlength)
    have hposted := h.posted number _ hturn
    generalize d.turns[number] = turn at hturn hposted
    refine ⟨turn, hturn, ?_⟩
    unfold TerminalPosted at hposted
    split at hposted
    · rename_i hphase
      obtain ⟨hchannel, other, houtbox, hfence⟩ := hposted
      rw [houtbox, List.mem_singleton] at hfilter
      cases hfilter
      exact ⟨hphase, terminal, rfl, hfence, hchannel, houtbox⟩
    · rw [hposted.1] at hfilter
      cases hfilter
    · rw [hposted.2] at hfilter
      cases hfilter

/-- A step that changes neither turns nor mail. -/
theorem TerminalsPosted.of_same {d d' : Driver} (h : TerminalsPosted d) (hturns : d'.turns = d.turns)
    (hmail : d'.mail = d.mail) : TerminalsPosted d' := by
  refine ⟨?_, ?_, ?_, ?_, ?_⟩
  · rw [hturns]
    intro number turn hturn
    rw [TerminalPosted, hmail]
    exact h.posted number turn hturn
  · rw [hturns, hmail]
    exact h.unknown
  · rw [hmail]
    exact h.monitors
  · rw [hmail]
    exact h.terminals
  · rw [hturns, hmail]
    exact h.counted

/-- A step that posts something else at most. -/
theorem TerminalsPosted.of_post {d d' : Driver} (h : TerminalsPosted d) (hturns : d'.turns = d.turns)
    {outbound : Outbound} (hmail : d'.mail = d.mail.post outbound)
    (hother : terminalFence outbound.notification = none)
    (hsender : ∀ number, outbound.sender ≠ .monitor number) : TerminalsPosted d' := by
  have hchannel : d'.mail.channel = d.mail.channel := by rw [hmail]; rfl
  have houtbox : ∀ number, d'.mail.outbox.filter (isTerminalOf number) =
      d.mail.outbox.filter (isTerminalOf number) := by
    intro number
    rw [hmail]
    simp [Mailbox.post, isTerminalOf, hother]
  have hmem : ∀ item, item ∈ d'.mail.outbox → item ∈ d.mail.outbox ∨ item = outbound := by
    intro item hitem
    rw [hmail] at hitem
    simpa [Mailbox.post] using hitem
  refine ⟨?_, ?_, ?_, ?_, ?_⟩
  · rw [hturns]
    intro number turn hturn
    rw [TerminalPosted, hchannel, houtbox]
    exact h.posted number turn hturn
  · rw [hturns, hchannel]
    intro number hnumber
    rw [houtbox]
    exact h.unknown number hnumber
  · intro item hitem number hitemSender
    obtain hold | rfl := hmem item hitem
    · exact h.monitors item hold number hitemSender
    · exact absurd hitemSender (hsender number)
  · intro item hitem hterminal
    obtain hold | rfl := hmem item hitem
    · exact h.terminals item hold hterminal
    · rw [hother] at hterminal
      cases hterminal
  · rw [hturns, hchannel]
    exact h.counted

/-- A turn starts with no terminal frame. -/
theorem TerminalsPosted.of_started {d d' : Driver} (h : TerminalsPosted d) {turn : Turn}
    (hlive : turn.phase = .live) (hturns : d'.turns = d.turns ++ [turn]) (hmail : d'.mail = d.mail) :
    TerminalsPosted d' := by
  refine ⟨?_, ?_, ?_, ?_, ?_⟩
  · intro number found hfound
    rw [hturns, List.getElem?_append] at hfound
    rw [TerminalPosted, hmail]
    split at hfound
    · exact h.posted number found hfound
    · rename_i hlength
      rw [List.getElem?_singleton] at hfound
      split at hfound
      · cases hfound
        rw [hlive]
        exact h.unknown number (Nat.le_of_not_lt hlength)
      · cases hfound
  · intro number hnumber
    rw [hturns, List.length_append] at hnumber
    rw [hmail]
    exact h.unknown number (by omega)
  · rw [hmail]
    exact h.monitors
  · rw [hmail]
    exact h.terminals
  · intro fence
    rw [hturns, hmail, h.counted fence, List.countP_append]
    simp [hlive]

/-- The length of the turns stays when one of them comes further. -/
theorem length_turnsAt (d : Driver) (number : Nat) (phase : TurnPhase) :
    (d.turnsAt number phase).length = d.turns.length :=
  List.length_modify _ _ _

/-- A turn comes further without being finished. -/
theorem TerminalsPosted.counted_turnsAt {d : Driver} (h : TerminalsPosted d) {number : Nat}
    {turn : Turn} {phase : TurnPhase} (hturn : d.turns[number]? = some turn)
    (hbefore : turn.phase ≠ .finished) (hafter : phase ≠ .finished) (fence : ExecutionFence) :
    d.mail.channel.countP (isTerminalUnder fence) = (d.turnsAt number phase).countP fun turn =>
      decide (turn.fence = fence) && decide (turn.phase = .finished) := by
  have hcount := countP_modify (fun turn : Turn => decide (turn.fence = fence) &&
    decide (turn.phase = .finished)) (fun turn => { turn with phase }) hturn
  rw [h.counted fence, Driver.turnsAt]
  simp only [hbefore, hafter, decide_false, Bool.and_false, Bool.false_eq_true, if_false] at hcount
  exact hcount.symm

/-- A turn is taken, which posts nothing. -/
theorem TerminalsPosted.of_taken {d d' : Driver} (h : TerminalsPosted d) {number watch : Nat}
    {turn : Turn} {terminal : Harness.TurnTerminal} (hturn : d.turns[number]? = some turn)
    (hlive : turn.phase = .live) (hturns : d'.turns = d.turnsAt number (.taken watch terminal))
    (hmail : d'.mail = d.mail) : TerminalsPosted d' := by
  refine ⟨?_, ?_, ?_, ?_, ?_⟩
  · intro other found hfound
    rw [hturns, getElem?_turnsAt] at hfound
    rw [TerminalPosted, hmail]
    split at hfound
    · rename_i heq
      subst heq
      rw [hturn] at hfound
      cases hfound
      have hposted := h.posted number turn hturn
      rw [TerminalPosted, hlive] at hposted
      exact hposted
    · exact h.posted other found hfound
  · rw [hturns, length_turnsAt, hmail]
    exact h.unknown
  · rw [hmail]
    exact h.monitors
  · rw [hmail]
    exact h.terminals
  · intro fence
    rw [hturns, hmail]
    exact h.counted_turnsAt hturn (by simp [hlive]) (by simp) fence

/-- The monitor of a taken turn offers its terminal frame. -/
theorem TerminalsPosted.of_offered {d d' : Driver} (h : TerminalsPosted d) {number : Nat}
    {turn : Turn} {terminal : Harness.TurnTerminal} (hturn : d.turns[number]? = some turn)
    (hphase : turn.phase = .taken number terminal) (hfence : terminal.fence = turn.fence)
    (hturns : d'.turns = d.turnsAt number .publishing)
    (hmail : d'.mail = d.mail.post (terminalItem number terminal)) : TerminalsPosted d' := by
  have hchannel : d'.mail.channel = d.mail.channel := by rw [hmail]; rfl
  have houtbox : ∀ other, d'.mail.outbox.filter (isTerminalOf other) =
      d.mail.outbox.filter (isTerminalOf other) ++
        if number = other then [terminalItem number terminal] else [] := by
    intro other
    rw [hmail]
    simp [Mailbox.post, List.filter_cons, isTerminalOf_terminalItem]
  have hmem : ∀ item, item ∈ d'.mail.outbox →
      item ∈ d.mail.outbox ∨ item = terminalItem number terminal := by
    intro item hitem
    rw [hmail] at hitem
    simpa [Mailbox.post] using hitem
  have hposted := h.posted number turn hturn
  rw [TerminalPosted, hphase] at hposted
  refine ⟨?_, ?_, ?_, ?_, ?_⟩
  · intro other found hfound
    rw [hturns, getElem?_turnsAt] at hfound
    rw [TerminalPosted, hchannel, houtbox]
    split at hfound
    · rename_i heq
      subst heq
      rw [hturn] at hfound
      cases hfound
      simp only [if_true]
      exact ⟨hposted.1, terminal, by rw [hposted.2]; rfl, hfence⟩
    · rename_i hne
      rw [if_neg hne, List.append_nil]
      exact h.posted other found hfound
  · intro other hother
    rw [hturns, length_turnsAt] at hother
    rw [hchannel, houtbox, if_neg, List.append_nil]
    · exact h.unknown other hother
    · rintro rfl
      have hlength := (List.getElem?_eq_some_iff.1 hturn).1
      omega
  · intro item hitem other hsender
    obtain hold | rfl := hmem item hitem
    · exact h.monitors item hold other hsender
    · cases hsender
      exact ⟨terminal, rfl⟩
  · intro item hitem hterminal
    obtain hold | rfl := hmem item hitem
    · exact h.terminals item hold hterminal
    · exact ⟨number, rfl⟩
  · intro fence
    rw [hturns, hchannel]
    exact h.counted_turnsAt hturn (by simp [hphase]) (by simp) fence

/-- Something else is sent. -/
theorem TerminalsPosted.of_sent_other {d d' : Driver} (h : TerminalsPosted d) {index : Nat}
    {outbound : Outbound} (hwaiting : d.mail.outbox[index]? = some outbound)
    (hother : terminalFence outbound.notification = none) (hturns : d'.turns = d.turns)
    (hmail : d'.mail = d.mail.send index) : TerminalsPosted d' := by
  have hfilter : ∀ number, d'.mail.channel.filter (isTerminalOf number) =
      d.mail.channel.filter (isTerminalOf number) ∧
      d'.mail.outbox.filter (isTerminalOf number) =
      d.mail.outbox.filter (isTerminalOf number) := by
    intro number
    rw [hmail]
    exact Mailbox.filter_send_of_neg hwaiting (by simp [isTerminalOf, hother])
  have hmem : ∀ item, item ∈ d'.mail.outbox → item ∈ d.mail.outbox := by
    intro item hitem
    rw [hmail] at hitem
    exact Mailbox.mem_outbox_of_send hitem
  refine ⟨?_, ?_, ?_, ?_, ?_⟩
  · rw [hturns]
    intro number turn hturn
    rw [TerminalPosted, (hfilter number).1, (hfilter number).2]
    exact h.posted number turn hturn
  · rw [hturns]
    intro number hnumber
    rw [(hfilter number).1, (hfilter number).2]
    exact h.unknown number hnumber
  · intro item hitem
    exact h.monitors item (hmem item hitem)
  · intro item hitem
    exact h.terminals item (hmem item hitem)
  · intro fence
    have hchannel := (Mailbox.filter_send_of_neg hwaiting
      (by simp [isTerminalUnder, hother] : isTerminalUnder fence outbound = false)).1
    rw [hturns, hmail, List.countP_eq_length_filter, hchannel, ← List.countP_eq_length_filter]
    exact h.counted fence

/-- A monitor sends its terminal frame, which finishes the turn. -/
theorem TerminalsPosted.of_sent_monitor {d d' : Driver} (h : TerminalsPosted d) {index : Nat}
    {outbound : Outbound} (hwaiting : d.mail.outbox[index]? = some outbound) {number : Nat}
    (hsender : outbound.sender = .monitor number) (hturns : d'.turns = d.turnsAt number .finished)
    (hmail : d'.mail = d.mail.send index) : TerminalsPosted d' := by
  obtain ⟨turn, hturn, hphase, terminal, rfl, hfence, hchannel, houtbox⟩ :=
    h.publishing (List.mem_of_getElem? hwaiting) hsender
  have hself : isTerminalOf number (terminalItem number terminal) = true := by
    simp [isTerminalOf_terminalItem]
  obtain ⟨-, hsentChannel, hsentOutbox⟩ := Mailbox.filter_send_of_single hwaiting hself houtbox
  have hfilter : ∀ other, number ≠ other → d'.mail.channel.filter (isTerminalOf other) =
      d.mail.channel.filter (isTerminalOf other) ∧
      d'.mail.outbox.filter (isTerminalOf other) =
      d.mail.outbox.filter (isTerminalOf other) := by
    intro other hne
    rw [hmail]
    exact Mailbox.filter_send_of_neg hwaiting (by simp [isTerminalOf_terminalItem, hne])
  have hmem : ∀ item, item ∈ d'.mail.outbox → item ∈ d.mail.outbox := by
    intro item hitem
    rw [hmail] at hitem
    exact Mailbox.mem_outbox_of_send hitem
  refine ⟨?_, ?_, ?_, ?_, ?_⟩
  · intro other found hfound
    rw [hturns, getElem?_turnsAt] at hfound
    rw [TerminalPosted]
    split at hfound
    · rename_i heq
      subst heq
      rw [hturn] at hfound
      cases hfound
      rw [hmail, hsentOutbox, hsentChannel, hchannel]
      exact ⟨rfl, terminal, rfl, hfence⟩
    · rename_i hne
      rw [(hfilter other hne).1, (hfilter other hne).2]
      exact h.posted other found hfound
  · intro other hother
    rw [hturns, length_turnsAt] at hother
    have hne : number ≠ other := by
      rintro rfl
      have hlength := (List.getElem?_eq_some_iff.1 hturn).1
      omega
    rw [(hfilter other hne).1, (hfilter other hne).2]
    exact h.unknown other hother
  · intro item hitem
    exact h.monitors item (hmem item hitem)
  · intro item hitem
    exact h.terminals item (hmem item hitem)
  · intro fence
    have hcount := countP_modify (fun turn : Turn => decide (turn.fence = fence) &&
      decide (turn.phase = .finished)) (fun turn => { turn with phase := .finished }) hturn
    rw [hturns, hmail, Driver.turnsAt, Mailbox.channel_send hwaiting, List.countP_append,
      h.counted fence]
    simp only [hphase, reduceCtorEq, decide_false, Bool.and_false, Bool.false_eq_true, if_false,
      decide_true, Bool.and_true, Nat.add_zero] at hcount
    rw [hcount]
    simp [isTerminalUnder, terminalItem, terminalFence, hfence]

/-- Terminal frames wait for monitors only. -/
theorem TerminalsPosted.next [Sha256] {d d' : Driver} {action : Action} (h : TerminalsPosted d)
    (howned : TurnsOwned d) (hmove : Move d action d') : TerminalsPosted d' := by
  cases hmove with
  | quiet _ _ hturns _ hmail => exact h.of_same hturns hmail
  | opened _ _ _ _ hturns _ hmail => exact h.of_same hturns hmail
  | closed _ _ _ _ hturns _ hmail => exact h.of_same hturns hmail
  | started _ _ _ _ hturns _ hmail => exact h.of_started rfl hturns hmail
  | ignored _ _ _ hturns _ hmail => exact h.of_same hturns hmail
  | @folded _ now _ update turn _ _ _ _ _ _ _ hturns _ hmail =>
    cases hevent : (foldUpdate turn update now).2 with
    | error error =>
      rw [hevent] at hmail
      exact h.of_same hturns hmail
    | ok event =>
      rw [hevent] at hmail
      exact h.of_post hturns hmail rfl (fun _ => by simp)
  | @captured _ now sessionRef update taken _ _ _ _ _ _ hturns _ hmail =>
    cases hentry : (captureTranscriptEntry taken sessionRef update now).2 with
    | none =>
      rw [hentry] at hmail
      exact h.of_same hturns hmail
    | some entry =>
      rw [hentry] at hmail
      exact h.of_post hturns hmail rfl (fun _ => by simp)
  | asked _ _ _ _ _ _ _ _ _ hturns _ hmail => exact h.of_post hturns hmail rfl (fun _ => by simp)
  | taken hmonitor hdecided _ _ _ hturns _ hmail =>
    exact h.of_taken (turns_of_decided hmonitor hdecided) rfl hturns hmail
  | lost hmonitor hdecided hinactive =>
    obtain ⟨active, hown, -⟩ := howned.live _ _ (turns_of_decided hmonitor hdecided) rfl
    rw [hinactive] at hown
    cases hown
  | offered hmonitor hphase _ _ hturns _ hmail =>
    obtain ⟨rfl, hfence⟩ := howned.taken _ _ _ _ hmonitor hphase
    exact h.of_offered hmonitor hphase hfence hturns hmail
  | replayed _ _ _ _ hturns _ hmail => exact h.of_same hturns hmail
  | completed _ _ _ _ hturns _ hmail => exact h.of_post hturns hmail rfl (fun _ => by simp)
  | @sent index outbound _ hwaiting _ _ hturns _ hmail =>
    have hother : (∀ number, outbound.sender ≠ .monitor number) → turnsSent outbound.sender d = d.turns →
        TerminalsPosted d' := by
      intro hsender hsame
      refine h.of_sent_other hwaiting ?_ (hturns.trans hsame) hmail
      rw [← Option.not_isSome_iff_eq_none]
      intro hterminal
      obtain ⟨number, hmonitor⟩ := h.terminals outbound (List.mem_of_getElem? hwaiting) hterminal
      exact hsender number hmonitor
    cases hsender : outbound.sender with
    | monitor number =>
      rw [hsender] at hturns
      exact h.of_sent_monitor hwaiting hsender hturns hmail
    | update => exact hother (by simp [hsender]) (by rw [hsender]; rfl)
    | request handler => exact hother (by simp [hsender]) (by rw [hsender]; rfl)
    | replay number => exact hother (by simp [hsender]) (by rw [hsender]; rfl)

/-! ## Runs -/

/-- The turns with their monitors and their frames. -/
structure TurnsInvariant (d : Driver) : Prop where
  owned : TurnsOwned d
  posted : TerminalsPosted d

theorem turnsInvariant_start : TurnsInvariant .start := by
  refine ⟨⟨?_, ?_, ?_⟩, ⟨?_, ?_, ?_, ?_, ?_⟩⟩
  · intro sessionRef turn hturn
    cases hturn
  · intro number turn hturn
    cases hturn
  · intro number turn watch terminal hturn
    cases hturn
  · intro number turn hturn
    cases hturn
  · intro number _
    exact ⟨rfl, rfl⟩
  · intro outbound hmem
    cases hmem
  · intro outbound hmem
    cases hmem
  · intro fence
    rfl

theorem TurnsInvariant.next [Sha256] {d d' : Driver} {action : Action} (h : TurnsInvariant d)
    (hkeeps : KeepsTurns action d) (hmove : Move d action d') : TurnsInvariant d' := by
  refine ⟨h.owned.next hkeeps hmove ?_, h.posted.next h.owned hmove⟩
  intro outbound hmem number hsender turn hturn
  obtain ⟨found, hfound, hphase, -⟩ := h.posted.publishing hmem hsender
  rw [hturn] at hfound
  cases hfound
  exact hphase

/-- What is said about the turns of a driver. -/
structure TurnsEndOnce (d : Driver) : Prop where
  finished : ∀ (number : Nat) (monitor : Monitor), d.monitors[number]? = some monitor →
    monitor.stage = .finished → ∃ terminal,
      d.mail.channel.filter (isTerminalOf number) = [terminalItem number terminal] ∧
      terminal.fence = monitor.fence
  unfinished : ∀ (number : Nat) (monitor : Monitor), d.monitors[number]? = some monitor →
    monitor.stage ≠ .finished → d.mail.channel.filter (isTerminalOf number) = []
  kept : ∀ (number : Nat) (monitor : Monitor), d.monitors[number]? = some monitor →
    monitor.stage.phase = .live → ∃ turn, d.activeOn monitor.sessionRef = some turn ∧
      turn.watch = number ∧ turn.fence = monitor.fence
  alone : ∀ (first second : Nat) (monitor other : Monitor), d.monitors[first]? = some monitor →
    d.monitors[second]? = some other → monitor.stage.phase = .live → other.stage.phase = .live →
    monitor.sessionRef = other.sessionRef → first = second
  counted : ∀ fence, d.mail.channel.countP (isTerminalUnder fence) =
    d.monitors.countP fun monitor =>
      decide (monitor.fence = fence) && decide (monitor.stage = .finished)

theorem MonitorStage.phase_eq_finished {stage : MonitorStage} :
    stage.phase = .finished ↔ stage = .finished := by
  cases stage <;> simp [MonitorStage.phase]

/-- A live turn is the active one of its session. -/
theorem TurnsInvariant.kept {d : Driver} (h : TurnsInvariant d) {number : Nat} {monitor : Monitor}
    (hmonitor : d.monitors[number]? = some monitor) (hlive : monitor.stage.phase = .live) :
    ∃ turn, d.activeOn monitor.sessionRef = some turn ∧ turn.watch = number ∧
      turn.fence = monitor.fence := by
  have hturn := getElem?_turns hmonitor
  obtain ⟨active, hactive, hwatch⟩ := h.owned.live number _ hturn hlive
  refine ⟨active, hactive, hwatch, ?_⟩
  have hown := h.owned.active _ _ hactive
  rw [hwatch, hturn, Option.some.injEq, Monitor.turn, Turn.mk.injEq] at hown
  exact hown.2.1.symm

theorem TurnsInvariant.endOnce {d : Driver} (h : TurnsInvariant d) : TurnsEndOnce d := by
  refine ⟨?_, ?_, ?_, ?_, ?_⟩
  · intro number monitor hmonitor hstage
    have hposted := h.posted.posted number _ (getElem?_turns hmonitor)
    have hphase : monitor.turn.phase = .finished := MonitorStage.phase_eq_finished.2 hstage
    rw [TerminalPosted, hphase] at hposted
    exact hposted.2
  · intro number monitor hmonitor hstage
    have hposted := h.posted.posted number _ (getElem?_turns hmonitor)
    unfold TerminalPosted at hposted
    split at hposted
    · exact hposted.1
    · rename_i hphase
      exact absurd (MonitorStage.phase_eq_finished.1 hphase) hstage
    · exact hposted.1
  · intro number monitor hmonitor hlive
    exact h.kept hmonitor hlive
  · intro first second monitor other hmonitor hother hlive hotherLive hsession
    obtain ⟨turn, hturn, hfirst, -⟩ := h.kept hmonitor hlive
    obtain ⟨turn', hturn', hsecond, -⟩ := h.kept hother hotherLive
    rw [hsession, hturn'] at hturn
    cases hturn
    exact hfirst.symm.trans hsecond
  · intro fence
    rw [h.posted.counted fence, Driver.turns, List.countP_map]
    congr 1
    funext monitor
    rw [Function.comp_apply, Bool.eq_iff_iff, Bool.and_eq_true, Bool.and_eq_true]
    refine and_congr ?_ ?_
    · exact Iff.intro (fun h => decide_eq_true (of_decide_eq_true h))
        (fun h => decide_eq_true (of_decide_eq_true h))
    · rw [decide_eq_true_iff, decide_eq_true_iff]
      exact MonitorStage.phase_eq_finished

/-- The sample opens sessions without any endpoint. -/
@[reducible] def sampleHttpSyntax : HttpSyntax := ⟨fun _ => none, fun _ => none, fun _ => false⟩

def sampleProfile : DriverProfile := ⟨"p", ⟨true, true, true⟩⟩

/-- The driver of the sample after some steps. -/
def sampleDrive (actions : List Action) : Driver := @drive _ sampleHttpSyntax sampleProfile actions

def sampleFence (invocationId : String) : ExecutionFence := ⟨"B", 1, 1, invocationId, "f"⟩

def sampleTurn (invocationId : String) : StartTurn where
  fence := sampleFence invocationId
  sessionRef := "s"
  source := ⟨"b", "m", "c", "a", none, none⟩
  prompt := [.text "work"]
  policy := ⟨1000, 1000, 1000, 1024, "controller", ⟨10, "observe_then_cancel"⟩, none⟩

def sampleOpen (mode : OpenSessionMode) : OpenSession :=
  ⟨⟨"B", 1, 1⟩, mode, "/work", [], [], [], "p"⟩

/-- The sample session is created, and a turn starts on it. -/
def sampleStarted : List Action := [
  .openRequested (sampleOpen .create),
  .openAnswered (.ok (.object [("sessionId", .string "s")])),
  .startTurn (sampleTurn "i")]

/-- The prompt of a turn is answered, and its monitor takes the turn. -/
def answeredTurn (number : Nat) : List Action := [
  .monitor number (.answered (.response (.object [("stopReason", .string "end_turn")]))),
  .takeTurn number]

/-- The turn of the sample ends. -/
def endedRun : List Action := sampleStarted ++ answeredTurn 0 ++ [.withdraw 0, .send 0]

/-- The session of the sample is opened again while its turn is active. -/
def reopenedRun : List Action := sampleStarted ++ [
  .openRequested (sampleOpen (.resume "s")),
  .openAnswered (.ok (.object []))]

end Fleetd.AcpHost
