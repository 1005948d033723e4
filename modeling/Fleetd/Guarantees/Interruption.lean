import Fleetd.Controller.Interruption
import Fleetd.Guarantees.EvidenceAgreement
import Fleetd.Guarantees.ManagedTurn

/-!
# The evidence of an interrupted turn

The client hands a frame over before the store has it. Where a stop finds the drain between the
two, the frame is gone: the second drain starts after it, and the store refuses what follows. A
terminal frame moreover ends the turn of the client as it is handed over, so that a stop between
there and the end of the drain finds no turn to cancel, and the turn is parked although its end is
known. At every other point a drain may be dropped without a loss.
-/

namespace Fleetd

open Serde (Value)
open Effects Harness Relational Relational.Transaction

/-! ## What is kept -/

/-- The terminal frame that a frame is, if it is one. -/
def DeliveredFrame.terminal? (delivered : DeliveredFrame) : Option Harness.TurnTerminal :=
  match delivered.frame with
  | .terminal terminal => some terminal
  | _ => none

/-- The terminal frames of a list. -/
def terminals (frames : List DeliveredFrame) : List Harness.TurnTerminal :=
  frames.filterMap DeliveredFrame.terminal?

/-- The frame that a drain has taken and not recorded yet. -/
def AwaitPoint.inFlight : AwaitPoint → List DeliveredFrame
  | .draining _ (.recording delivered) => [delivered]
  | _ => []

/-- A terminal frame that does not tell a safe outcome. -/
def Harness.TurnTerminal.Unsafe (terminal : Harness.TurnTerminal) : Prop :=
  terminal.executionCertainty = .outcomeUnknown ∨ terminal.sessionQuiescent = false

instance (terminal : Harness.TurnTerminal) : Decidable terminal.Unsafe :=
  inferInstanceAs (Decidable (_ ∨ _))

/-- A settlement that follows from a terminal frame: the completion that the frame tells, or the
block of a delivery whose outcome the frame itself leaves open. -/
structure SettlesFrom (evidence : TerminalWithStop) (turn : ManagedTurn)
    (settlement : Script TurnEffect ManagedTurnError ManagedTurnOutcome) : Prop where
  settles : ∀ outcome, settlement.result = .ok outcome →
    ∃ e ∈ settlement.effects, e.isSettlement = true
  parks : evidence.terminal.Unsafe → ∀ e ∈ settlement.effects, e.isSettlement = true →
    ∀ kind payload, e ≠ .completed kind payload
  completes : ¬ evidence.terminal.Unsafe → ∀ e ∈ settlement.effects, e.isSettlement = true →
    e = .completed turn.resultKind (terminalPayload turn.invocation.id turn.resultCapture
      turn.resultContext evidence.terminal evidence.hostStopReason)

/-- A turn that is about to be settled from a terminal frame, or was settled from it. -/
def AwaitPoint.EndsIn (terminal : Harness.TurnTerminal) : AwaitPoint → Prop
  | .draining _ (.recording delivered) => delivered.terminal? = some terminal
  | .draining _ (.recorded delivered) => delivered.terminal? = some terminal
  | .terminal evidence => evidence.terminal = terminal
  | .settled evidence turn settlement =>
    evidence.terminal = terminal ∧ SettlesFrom evidence turn settlement
  | _ => False

/-- Nothing that the client let through is lost: each frame was recorded once, in the order of the
frames, but for the one that is being recorded, and a terminal frame decides the turn. -/
structure EvidenceKept (w : AwaitTerminal) : Prop where
  recorded : w.taken = w.committed ++ w.point.inFlight
  decided : ∀ terminal ∈ terminals w.taken, w.point.EndsIn terminal

/-- The last record of some frames. -/
def lastRecord (policy : PermissionPolicy) (frames : List DeliveredFrame) : Option EventRecord :=
  (frames.filterMap (DeliveredFrame.record? policy)).getLast?

/-- A move that loses nothing: a frame that is recorded is recordable, and a drain is not dropped
while its transaction is open, nor once it has taken the terminal frame. -/
def LosesNothing [Sha256] (policy : PermissionPolicy) (move : AwaitMove) (w : AwaitTerminal) :
    Prop :=
  match w.point, move with
  | .draining _ (.recording delivered), .record =>
    Recordable policy (lastRecord policy w.committed) [delivered]
  | .draining none (.recording _), .stop _ => False
  | .draining none (.recorded delivered), .stop _ => delivered.terminal? = none
  | .draining (some _) (.recording _), .drainDeadline => False
  | .draining (some _) (.recorded delivered), .drainDeadline => delivered.terminal? = none
  | _, _ => True

/-! ## Settlement -/

/-- A block that returns has marked the invocation, and no block completes anything. -/
theorem block_parks (sink : Bool) (answers : TurnAnswers) (reason : String) :
    (∀ blocked, (block sink answers reason).result = .ok blocked →
      ∃ e ∈ (block sink answers reason).effects, e.isSettlement = true) ∧
      ∀ e ∈ (block sink answers reason).effects, ∀ kind payload, e ≠ .completed kind payload := by
  match hmark : answers.markUncertain, hblock : answers.block with
  | .error error, _ => simp [block, hmark, Except.mapError]
  | .ok (), .error error => simp [block, hmark, hblock, Except.mapError]
  | .ok (), .ok blocked =>
    cases sink with
    | true => simp [block, hmark, hblock, Except.mapError, offer, TurnEffect.isSettlement]
    | false => simp [block, hmark, hblock, Except.mapError, offer, TurnEffect.isSettlement]

/-- A terminal frame is settled by what it tells. -/
theorem settleTerminal_settlesFrom (sink : Bool) (turn : ManagedTurn) (answers : TurnAnswers)
    (evidence : TerminalWithStop) :
    SettlesFrom evidence turn (settleTerminal sink turn answers evidence) := by
  by_cases hunsafe : evidence.terminal.Unsafe
  · have hsettle : ∃ reason, settleTerminal sink turn answers evidence =
        (block sink answers reason >>= fun blocked => pure (.blocked blocked)) :=
      ⟨_, if_pos hunsafe⟩
    obtain ⟨reason, hsettle⟩ := hsettle
    obtain ⟨hmarks, hparks⟩ := block_parks sink answers reason
    rw [hsettle]
    refine ⟨fun outcome houtcome => ?_, fun _ e he _ => ?_, fun hsafe => absurd hunsafe hsafe⟩
    · rw [Script.effects_bind_pure]
      match hresult : (block sink answers reason).result with
      | .ok blocked => exact hmarks blocked hresult
      | .error error =>
        have hfailed : (block sink answers reason >>= fun blocked =>
            (pure (.blocked blocked) : Script TurnEffect ManagedTurnError ManagedTurnOutcome)).result =
            .error error := by
          show (Script.andThen _ _).result = _
          simp only [Script.andThen, hresult]
        rw [hfailed] at houtcome
        cases houtcome
    · rw [Script.effects_bind_pure] at he
      exact hparks e he
  · have hsettle : settleTerminal sink turn answers evidence = _ := if_neg hunsafe
    rw [hsettle]
    match hcomplete : answers.complete with
    | .error error =>
      refine ⟨?_, fun h => absurd h hunsafe, ?_⟩
      · simp [Except.mapError]
      · simp [Except.mapError]
    | .ok completion =>
      refine ⟨fun _ _ => ⟨_, List.mem_cons_self, rfl⟩, fun h => absurd h hunsafe, fun _ e he hsettles => ?_⟩
      simp only [Except.mapError, Script.lift_ok_bind, Script.emit_bind, offer_bind,
        List.mem_cons, List.mem_append] at he
      obtain rfl | he | he := he
      · rfl
      · -- the offer of the trajectory settles nothing
        cases sink with
        | true =>
          obtain rfl := List.mem_singleton.1 he
          cases hsettles
        | false => cases he
      · split at he
        · cases he
        · cases he

/-! ## Frames -/

@[simp] theorem terminals_append (frames rest : List DeliveredFrame) :
    terminals (frames ++ rest) = terminals frames ++ terminals rest :=
  List.filterMap_append

/-- A frame is recorded as an event, or ends the turn. -/
theorem record?_or_terminal? (policy : PermissionPolicy) (delivered : DeliveredFrame) :
    (∃ record, delivered.record? policy = some record ∧ delivered.terminal? = none) ∨
      ∃ terminal, delivered.frame = .terminal terminal := by
  obtain ⟨frame, now, storeNow⟩ := delivered
  cases frame with
  | event event => exact .inl ⟨_, rfl, rfl⟩
  | permission request => exact .inl ⟨_, rfl, rfl⟩
  | terminal terminal => exact .inr ⟨terminal, rfl⟩

/-- The last record of some frames is that of the last frame that has one. -/
theorem lastRecord_snoc {policy : PermissionPolicy} {delivered : DeliveredFrame}
    {record : EventRecord} (h : delivered.record? policy = some record)
    (frames : List DeliveredFrame) : lastRecord policy (frames ++ [delivered]) = some record := by
  simp [lastRecord, List.filterMap_append, h]

/-! ## One move -/

section
variable [Sha256] (policy : PermissionPolicy) (generationId : String) (fence : ExecutionFence)

/-- More is to come of an open turn: the client and the store have seen the same events. -/
structure Waiting (client : HarnessAcpClient) (store : Store) (taken committed : List DeliveredFrame) :
    Prop where
  unfinished : terminals taken = []
  inStep : ∃ active o, client.activeTurn = some active ∧
    InStep generationId fence (lastRecord policy committed) active o store

/-- A frame is to be recorded: the client was in step before it let the frame through. -/
structure Taken (client : HarnessAcpClient) (store : Store) (committed : List DeliveredFrame)
    (delivered : DeliveredFrame) : Prop where
  unfinished : terminals committed = []
  inStep : ∃ (before : HarnessAcpClient) (active : ActiveTurn) (o : InvocationObservation),
    before.activeTurn = some active ∧
    InStep generationId fence (lastRecord policy committed) active o store ∧
    before.nextNotification delivered.frame.notification = .ok client

/-- The terminal frame of a turn was taken. -/
structure EndTaken (client : HarnessAcpClient) (taken : List DeliveredFrame)
    (terminal : Harness.TurnTerminal) : Prop where
  taken : terminals taken = [terminal]
  client : client.activeTurn = none

/-- What is known at each point of a wait that has lost nothing. -/
def PointKept (client : HarnessAcpClient) (store : Store) (taken committed : List DeliveredFrame) :
    AwaitPoint → Prop
  | .draining _ (.recording delivered) => Taken policy generationId fence client store committed delivered
  | .draining _ (.recorded delivered) =>
    (∀ terminal, delivered.terminal? = some terminal → EndTaken client taken terminal) ∧
      (delivered.terminal? = none → Waiting policy generationId fence client store taken committed)
  | .draining _ .waiting => Waiting policy generationId fence client store taken committed
  | .draining _ (.resolving _) => Waiting policy generationId fence client store taken committed
  | .cancelling _ => Waiting policy generationId fence client store taken committed
  | .blocked _ => terminals taken = []
  | .terminal evidence => EndTaken client taken evidence.terminal
  | .settled evidence turn settlement =>
    EndTaken client taken evidence.terminal ∧ SettlesFrom evidence turn settlement

/-- A wait that has lost nothing. -/
structure Kept (w : AwaitTerminal) : Prop where
  recorded : w.taken = w.committed ++ w.point.inFlight
  point : PointKept policy generationId fence w.client w.store w.taken w.committed w.point

/-- A wait that has lost a frame, or has left the terminal frame it took unsettled. -/
def Lost (w : AwaitTerminal) : Prop :=
  (w.committed ++ w.point.inFlight).length < w.taken.length ∨
    (w.client.activeTurn = none ∧ terminals w.taken ≠ [] ∧
      ((∃ reason, w.point = .cancelling reason) ∨ ∃ reason, w.point = .blocked reason))

variable {policy generationId fence} {w : AwaitTerminal}

/-- A wait that has lost nothing keeps its evidence. -/
theorem Kept.evidenceKept (h : Kept policy generationId fence w) : EvidenceKept w := by
  refine ⟨h.recorded, fun terminal hterminal => ?_⟩
  have hpoint := h.point
  match hp : w.point with
  | .draining _ (.recording delivered) =>
    rw [hp] at hpoint
    have htaken : Taken policy generationId fence w.client w.store w.committed delivered := hpoint
    rw [h.recorded, hp, terminals_append, htaken.unfinished, List.nil_append] at hterminal
    obtain ⟨d, hd, hend⟩ := List.mem_filterMap.1 hterminal
    obtain rfl := List.mem_singleton.1 hd
    exact hend
  | .draining _ (.recorded delivered) =>
    rw [hp] at hpoint
    cases hend : delivered.terminal? with
    | none => exact absurd hterminal ((hpoint.2 hend).unfinished ▸ List.not_mem_nil)
    | some found =>
      rw [(hpoint.1 found hend).taken, List.mem_singleton] at hterminal
      exact hterminal ▸ hend
  | .draining _ .waiting =>
    rw [hp] at hpoint
    exact absurd hterminal (Waiting.unfinished hpoint ▸ List.not_mem_nil)
  | .draining _ (.resolving _) =>
    rw [hp] at hpoint
    exact absurd hterminal (Waiting.unfinished hpoint ▸ List.not_mem_nil)
  | .cancelling _ =>
    rw [hp] at hpoint
    exact absurd hterminal (Waiting.unfinished hpoint ▸ List.not_mem_nil)
  | .blocked _ =>
    rw [hp] at hpoint
    have hunfinished : terminals w.taken = [] := hpoint
    exact absurd hterminal (hunfinished ▸ List.not_mem_nil)
  | .terminal evidence =>
    rw [hp] at hpoint
    rw [EndTaken.taken hpoint, List.mem_singleton] at hterminal
    exact hterminal.symm
  | .settled evidence turn settlement =>
    rw [hp] at hpoint
    rw [hpoint.1.taken, List.mem_singleton] at hterminal
    exact ⟨hterminal.symm, hpoint.2⟩

omit [Sha256] in
/-- A wait that has lost a frame, or its end, does not keep its evidence. -/
theorem Lost.not_evidenceKept (h : Lost w) : ¬ EvidenceKept w := by
  intro hkept
  obtain hless | ⟨-, hends, hpoint⟩ := h
  · rw [← hkept.recorded] at hless
    exact Nat.lt_irrefl _ hless
  · obtain ⟨terminal, hterminal⟩ := List.exists_mem_of_ne_nil _ hends
    have hdecided := hkept.decided terminal hterminal
    obtain ⟨reason, hp⟩ | ⟨reason, hp⟩ := hpoint
    · rw [hp] at hdecided
      exact hdecided
    · rw [hp] at hdecided
      exact hdecided

omit [Sha256] in
/-- While a drain runs, a loss is that of a frame. -/
theorem Lost.frame (h : Lost w) {stopped : Option HostStopReason} {point : DrainPoint}
    (hp : w.point = .draining stopped point) :
    w.committed.length + (AwaitPoint.inFlight (.draining stopped point)).length < w.taken.length := by
  obtain hless | ⟨-, -, ⟨reason, hcancelling⟩ | ⟨reason, hblocked⟩⟩ := h
  · rwa [hp, List.length_append] at hless
  · rw [hp] at hcancelling
    cases hcancelling
  · rw [hp] at hblocked
    cases hblocked

omit [Sha256] in
/-- A frame is lost if fewer are recorded or in flight than were taken. -/
theorem lost_of_lt (h : w.committed.length + w.point.inFlight.length < w.taken.length) : Lost w :=
  .inl (by rwa [List.length_append])

omit [Sha256] in
/-- A failed drain has nothing in flight. -/
theorem inFlight_drainFailed (stopped : Option HostStopReason) (error : TurnDrainError) :
    (AwaitTerminal.drainFailed stopped error).inFlight = [] := by
  cases stopped with
  | none => rfl
  | some reason => rfl

omit [Sha256] in
/-- A drain that goes on after a record has nothing in flight. -/
theorem inFlight_afterRecord (stopped : Option HostStopReason) (frame : TurnFrame) :
    (AwaitTerminal.afterRecord stopped frame).inFlight = [] := by
  cases frame with
  | event event => rfl
  | permission request => rfl
  | terminal terminal => rfl

/-- What is lost stays lost. -/
theorem Lost.step (h : Lost w) (move : AwaitMove) :
    Lost (w.step policy generationId fence move) := by
  fun_cases AwaitTerminal.step policy generationId fence move w
  case case1 => exact h
  case case2 stopped hp delivered rest hqueue error hnext =>
    have hless := h.frame hp
    exact lost_of_lt (by rw [inFlight_drainFailed]; simpa [AwaitPoint.inFlight] using hless)
  case case3 stopped hp delivered rest hqueue client hnext =>
    have hless := h.frame hp
    exact lost_of_lt (by simpa [AwaitPoint.inFlight] using hless)
  case case4 stopped error hp =>
    have hless := h.frame hp
    exact lost_of_lt (by rw [inFlight_drainFailed]; simpa [AwaitPoint.inFlight] using hless)
  case case5 stopped delivered hp error hrecord =>
    have hless := h.frame hp
    simp only [AwaitPoint.inFlight, List.length_singleton] at hless
    exact lost_of_lt (by rw [inFlight_drainFailed]; simp only [List.length_nil]; omega)
  case case6 stopped delivered hp store hrecord =>
    have hless := h.frame hp
    exact lost_of_lt (by simpa [AwaitPoint.inFlight] using hless)
  case case7 stopped delivered hp =>
    have hless := h.frame hp
    exact lost_of_lt (by rw [inFlight_afterRecord]; simpa [AwaitPoint.inFlight] using hless)
  case case8 stopped request answer hp resolution error hresolve =>
    have hless := h.frame hp
    exact lost_of_lt (by rw [inFlight_drainFailed]; simpa [AwaitPoint.inFlight] using hless)
  case case9 stopped request answer hp resolution hresolve =>
    have hless := h.frame hp
    exact lost_of_lt (by simpa [AwaitPoint.inFlight] using hless)
  case case10 point reason hp =>
    have hless := h.frame hp
    exact lost_of_lt (by simp only [AwaitPoint.inFlight, List.length_nil]; omega)
  case case11 reason point hp =>
    have hless := h.frame hp
    exact lost_of_lt (by simp only [AwaitPoint.inFlight, List.length_nil]; omega)
  case case12 reason answer hp error hcancel =>
    obtain hless | ⟨hclient, hends, -⟩ := h
    · exact .inl (by simpa [hp, AwaitPoint.inFlight] using hless)
    · exact .inr ⟨hclient, hends, .inr ⟨_, rfl⟩⟩
  case case13 reason answer hp hcancel =>
    obtain hless | ⟨hclient, hends, -⟩ := h
    · exact .inl (by simpa [hp, AwaitPoint.inFlight] using hless)
    · -- without an active turn there is nothing to cancel
      rw [HarnessAcpClient.cancelTurn, hclient] at hcancel
      cases hcancel
  case case14 evidence sink turn answers hp =>
    obtain hless | ⟨-, -, ⟨reason, hcancelling⟩ | ⟨reason, hblocked⟩⟩ := h
    · exact .inl (by simpa [hp, AwaitPoint.inFlight] using hless)
    · rw [hp] at hcancelling
      cases hcancelling
    · rw [hp] at hblocked
      cases hblocked
  case case15 => exact h

/-- A drain that fails before the end of its turn leaves nothing unsettled. -/
theorem pointKept_drainFailed {client : HarnessAcpClient} {store : Store}
    {taken committed : List DeliveredFrame} (h : terminals taken = [])
    (stopped : Option HostStopReason) (error : TurnDrainError) :
    PointKept policy generationId fence client store taken committed
      (AwaitTerminal.drainFailed stopped error) := by
  cases stopped with
  | none => exact h
  | some reason => exact h

/-- A frame that was taken is recorded exactly if it is recordable. -/
theorem Taken.record_iff {delivered : DeliveredFrame}
    (h : Taken policy generationId fence w.client w.store w.committed delivered) :
    (∃ store, recordFrame policy generationId fence.invocationId delivered w.store =
      .ok ((), store)) ↔ Recordable policy (lastRecord policy w.committed) [delivered] := by
  obtain ⟨-, before, active, o, hactive, hin, hnext⟩ := h
  obtain ⟨record, hrecord, -⟩ | ⟨terminal, hterminal⟩ := record?_or_terminal? policy delivered
  · obtain ⟨raw, hblank, hadmitted⟩ := hin.admitted hactive hrecord hnext
    rw [recordable_cons hrecord, recordFrame_eq hrecord,
      hin.record_iff hactive hblank hadmitted delivered.storeNow]
    simp [Recordable]
  · obtain ⟨frame, now, storeNow⟩ := delivered
    obtain rfl : frame = .terminal terminal := hterminal
    obtain ⟨hfence, hlast, -⟩ := nextNotification_terminal hactive hnext
    have hobserving : Observing generationId terminal.summary.invocationId o w.store := by
      have hobserving := hin.observing
      rw [← hin.fenced, hfence] at hobserving
      exact hobserving
    have hbounded := hin.bounded
    rw [show recordFrame policy generationId fence.invocationId ⟨.terminal terminal, now, storeNow⟩ =
      recordInvocationTerminal generationId terminal.summary storeNow from rfl,
      recordInvocationTerminal_iff terminal.summary hobserving storeNow]
    simp only [Recordable, and_true]
    constructor
    · rintro ⟨-, husage, -⟩
      exact husage
    · intro husage
      exact ⟨hlast.le.trans hbounded, husage, hin.lastEventSeq.trans hlast.symm⟩

/-- What a recorded frame leaves: its turn open and in step, or ended. -/
theorem Taken.recorded {delivered : DeliveredFrame} {store : Store}
    (h : Taken policy generationId fence w.client w.store w.committed delivered)
    (htaken : w.taken = w.committed ++ [delivered])
    (hrecord : recordFrame policy generationId fence.invocationId delivered w.store =
      .ok ((), store)) (stopped : Option HostStopReason) :
    Kept policy generationId fence { w with
      store := store
      committed := w.committed ++ [delivered]
      point := .draining stopped (.recorded delivered) } := by
  obtain ⟨hunfinished, before, active, o, hactive, hin, hnext⟩ := h
  refine ⟨by simpa [AwaitPoint.inFlight] using htaken, fun terminal hterminal => ?_, fun hnone => ?_⟩
  · obtain ⟨frame, now, storeNow⟩ := delivered
    cases frame with
    | event event => cases hterminal
    | permission request => cases hterminal
    | terminal found =>
      cases hterminal
      refine ⟨?_, (nextNotification_terminal hactive hnext).2.2⟩
      simp only [htaken, terminals_append, hunfinished]
      rfl
  · obtain ⟨record, hrecorded, -⟩ | ⟨terminal, hterminal⟩ := record?_or_terminal? policy delivered
    · obtain ⟨raw, hblank, hadmitted⟩ := hin.admitted hactive hrecorded hnext
      rw [recordFrame_eq hrecorded] at hrecord
      obtain ⟨active', o', hactive', hin'⟩ := hin.recorded hactive hblank hadmitted hrecord
      refine ⟨?_, active', o', hactive', ?_⟩
      · simp only [htaken, terminals_append, hunfinished]
        simp [terminals, hnone]
      · rw [lastRecord_snoc hrecorded]
        exact hin'
    · simp [DeliveredFrame.terminal?, hterminal] at hnone

/-- A move that loses nothing keeps what is known. -/
theorem Kept.step (h : Kept policy generationId fence w) {move : AwaitMove}
    (hmove : LosesNothing policy move w) :
    Kept policy generationId fence (w.step policy generationId fence move) := by
  obtain ⟨hrecorded, hpoint⟩ := h
  fun_cases AwaitTerminal.step policy generationId fence move w
  case case1 => exact ⟨hrecorded, hpoint⟩
  case case2 stopped hp delivered rest hqueue error hnext =>
    rw [hp] at hpoint hrecorded
    exact ⟨by rw [inFlight_drainFailed]; exact hrecorded,
      pointKept_drainFailed (Waiting.unfinished hpoint) stopped _⟩
  case case3 stopped hp delivered rest hqueue client hnext =>
    rw [hp] at hpoint hrecorded
    have htaken : w.taken = w.committed := by simpa [AwaitPoint.inFlight] using hrecorded
    obtain ⟨hunfinished, active, o, hactive, hin⟩ :
      Waiting policy generationId fence w.client w.store w.taken w.committed := hpoint
    exact ⟨by rw [htaken]; rfl, htaken ▸ hunfinished, w.client, active, o, hactive, hin, hnext⟩
  case case4 stopped error hp =>
    rw [hp] at hpoint hrecorded
    exact ⟨by rw [inFlight_drainFailed]; exact hrecorded,
      pointKept_drainFailed (Waiting.unfinished hpoint) stopped _⟩
  case case5 stopped delivered hp error hrecord =>
    rw [hp] at hpoint
    simp only [LosesNothing, hp] at hmove
    obtain ⟨store, hstore⟩ := (Taken.record_iff hpoint).2 hmove
    rw [hrecord] at hstore
    cases hstore
  case case6 stopped delivered hp store hrecord =>
    rw [hp] at hpoint hrecorded
    exact Taken.recorded hpoint hrecorded hrecord stopped
  case case7 stopped delivered hp =>
    rw [hp] at hpoint hrecorded
    refine ⟨by rw [inFlight_afterRecord]; exact hrecorded, ?_⟩
    obtain ⟨frame, now, storeNow⟩ := delivered
    cases frame with
    | event event => exact hpoint.2 rfl
    | permission request => exact hpoint.2 rfl
    | terminal terminal => exact hpoint.1 terminal rfl
  case case8 stopped request answer hp resolution error hresolve =>
    rw [hp] at hpoint hrecorded
    exact ⟨by rw [inFlight_drainFailed]; exact hrecorded,
      pointKept_drainFailed (Waiting.unfinished hpoint) stopped _⟩
  case case9 stopped request answer hp resolution hresolve =>
    rw [hp] at hpoint hrecorded
    exact ⟨hrecorded, hpoint⟩
  case case10 point reason hp =>
    rw [hp] at hpoint hrecorded
    simp only [LosesNothing, hp] at hmove
    cases point with
    | waiting => exact ⟨hrecorded, hpoint⟩
    | recording delivered => exact hmove.elim
    | recorded delivered => exact ⟨hrecorded, hpoint.2 hmove⟩
    | resolving request => exact ⟨hrecorded, hpoint⟩
  case case11 reason point hp =>
    rw [hp] at hpoint hrecorded
    simp only [LosesNothing, hp] at hmove
    cases point with
    | waiting => exact ⟨hrecorded, Waiting.unfinished hpoint⟩
    | recording delivered => exact hmove.elim
    | recorded delivered => exact ⟨hrecorded, (hpoint.2 hmove).unfinished⟩
    | resolving request => exact ⟨hrecorded, Waiting.unfinished hpoint⟩
  case case12 reason answer hp error hcancel =>
    rw [hp] at hpoint hrecorded
    exact ⟨hrecorded, Waiting.unfinished hpoint⟩
  case case13 reason answer hp hcancel =>
    rw [hp] at hpoint hrecorded
    exact ⟨hrecorded, hpoint⟩
  case case14 evidence sink turn answers hp =>
    rw [hp] at hpoint hrecorded
    exact ⟨hrecorded, hpoint, settleTerminal_settlesFrom sink turn answers evidence⟩
  case case15 => exact ⟨hrecorded, hpoint⟩
/-- A drain that is dropped with a frame in flight loses it. -/
theorem Kept.lost_inFlight (h : Kept policy generationId fence w)
    {stopped : Option HostStopReason} {delivered : DeliveredFrame}
    (hp : w.point = .draining stopped (.recording delivered)) {point : AwaitPoint}
    (hpoint : point.inFlight = []) : Lost { w with point := point } := by
  have hrecorded := h.recorded
  rw [hp] at hrecorded
  refine lost_of_lt ?_
  simp only [hrecorded, hpoint, List.length_append, List.length_nil]
  exact Nat.lt_succ_self w.committed.length

/-- A drain that is dropped after it has recorded the terminal frame loses the end of its turn. -/
theorem Kept.lost_terminal (h : Kept policy generationId fence w)
    {stopped : Option HostStopReason} {delivered : DeliveredFrame}
    (hp : w.point = .draining stopped (.recorded delivered)) (hend : delivered.terminal? ≠ none)
    {point : AwaitPoint}
    (hpoint : (∃ reason, point = .cancelling reason) ∨ ∃ reason, point = .blocked reason) :
    Lost { w with point := point } := by
  have hkept := h.point
  rw [hp] at hkept
  obtain ⟨terminal, hterminal⟩ := Option.ne_none_iff_exists'.1 hend
  obtain ⟨htaken, hclient⟩ := hkept.1 terminal hterminal
  exact .inr ⟨hclient, by simp only [htaken]; exact List.cons_ne_nil _ _, hpoint⟩

/-- Every other move loses something. -/
theorem Kept.lost (h : Kept policy generationId fence w) {move : AwaitMove}
    (hmove : ¬ LosesNothing policy move w) : Lost (w.step policy generationId fence move) := by
  revert hmove
  fun_cases LosesNothing policy move w
  case case1 stopped delivered hp =>
    intro hmove
    have hpoint := h.point
    rw [hp] at hpoint
    simp only [AwaitTerminal.step, hp]
    match hrecord : recordFrame policy generationId fence.invocationId delivered w.store with
    | .ok ((), store) => exact absurd ((Taken.record_iff hpoint).1 ⟨store, hrecord⟩) hmove
    | .error error => exact h.lost_inFlight hp (inFlight_drainFailed stopped _)
  case case2 delivered reason hp =>
    intro _
    simp only [AwaitTerminal.step, hp]
    exact h.lost_inFlight hp rfl
  case case3 delivered reason hp =>
    intro hmove
    simp only [AwaitTerminal.step, hp]
    exact h.lost_terminal hp hmove (.inl ⟨reason, rfl⟩)
  case case4 stopped delivered hp =>
    intro _
    simp only [AwaitTerminal.step, hp]
    exact h.lost_inFlight hp rfl
  case case5 stopped delivered hp =>
    intro hmove
    simp only [AwaitTerminal.step, hp]
    exact h.lost_terminal hp hmove (.inr ⟨_, rfl⟩)
  case case6 =>
    intro hmove
    exact absurd trivial hmove

/-- A wait that has just begun has lost nothing. -/
theorem kept_start {client : HarnessAcpClient} {store : Store} {active : ActiveTurn}
    {o : InvocationObservation} (hactive : client.activeTurn = some active)
    (hin : InStep generationId fence none active o store) (queue : List DeliveredFrame) :
    Kept policy generationId fence (AwaitTerminal.start client store queue) :=
  ⟨rfl, rfl, active, o, hactive, hin⟩

end

/-! ## Runs -/

section
variable {Json : Type} [DecidableEq Json] [SerdeJson Json] [Sha256]

/-- From every store in which a turn was armed and for every client that started it, whatever
frames arrive and whenever the wait is stopped: the run keeps the evidence of the turn exactly if
every move loses nothing. -/
theorem run_evidenceKept_iff {cs : List (Command Json)} (hfresh : Fresh cs)
    {agentId sessionRef generationId : String} {binding : Binding} {input : ArmInvocation} {now : Int}
    {bound : BoundInvocation Json} {s : Store} {request : StartTurn}
    (harm : armSessionInvocation agentId request.fence.invocationId binding sessionRef generationId
      input now (run cs) = .ok (bound, s))
    {client started : HarnessAcpClient} {answer : Except PluginError StartTurnResult}
    (hstart : client.startTurn request answer = .ok started)
    (policy : PermissionPolicy) (frames : List DeliveredFrame) (moves : List AwaitMove) :
    EvidenceKept (runFrom (AwaitTerminal.step policy generationId request.fence)
        (AwaitTerminal.start started s frames) moves) ↔
      MeetAlong (AwaitTerminal.step policy generationId request.fence) (LosesNothing policy)
        (AwaitTerminal.start started s frames) moves :=
  runFrom_iff_of_broken (Kept policy generationId request.fence) Lost EvidenceKept
    (fun _ _ hkept hmove => hkept.step hmove) (fun _ _ hkept hmove => hkept.lost hmove)
    (fun move _ hlost => hlost.step move) (fun _ hkept => hkept.evidenceKept)
    (fun _ hlost => hlost.not_evidenceKept)
    (kept_start (startTurn_ok hstart) (inStep_of_armed hfresh harm) frames) moves

end

/-! ## The sample turn -/

/-- One event of the sample turn, and its end. -/
def shortFrames : List DeliveredFrame := [sampleEvent 1, sampleEnd 1]

/-- The wait for the end of the sample turn. -/
def sampleAwait (frames : List DeliveredFrame) (moves : List AwaitMove) : AwaitTerminal :=
  runFrom (AwaitTerminal.step .deny "g" sampleFence)
    (AwaitTerminal.start sampleClient (run sampleArmed) frames) moves

/-- A newer message stops the drain after it has recorded the event. -/
def calmMoves : List AwaitMove :=
  [.nextNotification, .record, .stop (.newerMessage "m"), .cancelTurn (.ok true), .nextNotification,
    .record, .proceed]

/-- The worker stops the drain while the recording of the event is open. -/
def openMoves : List AwaitMove :=
  [.nextNotification, .stop .workerShutdown, .cancelTurn (.ok true), .nextNotification, .record]

/-- The worker stops the drain just after the terminal frame was recorded. -/
def lateMoves : List AwaitMove :=
  [.nextNotification, .record, .stop .workerShutdown, .cancelTurn (.ok true)]

set_option maxRecDepth 100000 in
/-- A stop between two frames loses nothing. -/
theorem run_evidenceKept_calmMoves :
    EvidenceKept (sampleAwait shortFrames calmMoves) ∧
      MeetAlong (AwaitTerminal.step .deny "g" sampleFence) (LosesNothing .deny)
        (AwaitTerminal.start sampleClient (run sampleArmed) shortFrames) calmMoves := by
  obtain ⟨bound, harm⟩ := armSessionInvocation_sampleArmed
  have hfresh : Fresh sampleReserved := by decide
  have htaken : (sampleAwait shortFrames calmMoves).taken = shortFrames := by decide +kernel
  have hcommitted : (sampleAwait shortFrames calmMoves).committed = shortFrames := by decide +kernel
  have hpoint : (sampleAwait shortFrames calmMoves).point =
      .terminal ⟨⟨sampleFence, 1, "end_turn", none, .outcomeKnown, true, .confirmed, [], .null, .null⟩,
        some (.newerMessage "m")⟩ := by decide +kernel
  have hkept : EvidenceKept (sampleAwait shortFrames calmMoves) := by
    refine ⟨by rw [htaken, hcommitted, hpoint]; rfl, fun terminal hterminal => ?_⟩
    rw [htaken] at hterminal
    rw [hpoint]
    exact (List.mem_singleton.1 hterminal).symm
  exact ⟨hkept, (run_evidenceKept_iff hfresh harm startTurn_sampleStart .deny shortFrames calmMoves).1
    hkept⟩

set_option maxRecDepth 100000 in
/-- The client lets every frame of the sample turn through, whose outcome is known and quiescent.
A stop while the event is being recorded loses it, so that the end of the turn is refused; a stop
after the end of the turn was recorded finds nothing to cancel. Both turns are parked. -/
theorem evidence_lost_openMoves :
    (sampleClient.admits shortFrames).toOption.isSome = true ∧
      (sampleAwait shortFrames openMoves).point = .blocked
        "cancel drain failed: durable invocation evidence failed: conflict: terminal event sequence does not match durable observations" ∧
      ¬ EvidenceKept (sampleAwait shortFrames openMoves) ∧
      (sampleClient.admits [sampleEnd 0]).toOption.isSome = true ∧
      (sampleAwait [sampleEnd 0] lateMoves).committed = [sampleEnd 0] ∧
      (sampleAwait [sampleEnd 0] lateMoves).point = .blocked
        "host worker_shutdown cancellation failed: plugin protocol error: no harness turn is active" ∧
      ¬ EvidenceKept (sampleAwait [sampleEnd 0] lateMoves) := by
  have htaken : (sampleAwait shortFrames openMoves).taken.length = 2 := by decide +kernel
  have hcommitted : (sampleAwait shortFrames openMoves).committed = [] := by decide +kernel
  have hopen : (sampleAwait shortFrames openMoves).point = .blocked
      "cancel drain failed: durable invocation evidence failed: conflict: terminal event sequence does not match durable observations" := by
    decide +kernel
  have hended : (sampleAwait [sampleEnd 0] lateMoves).taken = [sampleEnd 0] := by decide +kernel
  have hlate : (sampleAwait [sampleEnd 0] lateMoves).point = .blocked
      "host worker_shutdown cancellation failed: plugin protocol error: no harness turn is active" := by
    decide +kernel
  refine ⟨by decide +kernel, hopen, fun h => ?_, by decide +kernel, by decide +kernel, hlate, fun h => ?_⟩
  · have hlength := congrArg List.length h.recorded
    rw [htaken, hcommitted, hopen] at hlength
    cases hlength
  · have hdecided := h.decided
    rw [hended, hlate] at hdecided
    exact hdecided _ (List.mem_singleton.2 rfl)

end Fleetd
