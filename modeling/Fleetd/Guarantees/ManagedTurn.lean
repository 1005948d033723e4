import Fleetd.Controller.ManagedTurn

/-!
# Grants and the settlement of their turn

The grants of a turn are activated after its invocation was armed, the turn is started after all
of them were activated, and each one is revoked once. Settlement comes after the revocation on
every path but one: when the evidence of a started turn ends without a terminal frame, the wait
for it blocks the delivery itself, and the grants are revoked only afterwards.
-/

namespace Fleetd

open Serde (Value)
open Effects Harness

/-! ## Kinds of effects -/

/-- The settlement of an invocation: completion, mark of uncertainty, block of the delivery. -/
def TurnEffect.isSettlement : TurnEffect → Bool
  | .markedUncertain _ => true
  | .deliveryBlocked _ => true
  | .completed _ _ => true
  | _ => false

/-- The request that starts the turn. -/
def TurnEffect.isStart : TurnEffect → Bool
  | .startRequested _ => true
  | _ => false

def TurnEffect.isActivation : TurnEffect → Bool
  | .activated _ => true
  | _ => false

def TurnEffect.isDeactivation : TurnEffect → Bool
  | .deactivated _ => true
  | _ => false

/-- Evidence and offers, which neither grant nor settle anything. -/
def TurnEffect.isQuiet : TurnEffect → Bool
  | .trajectoryOpened => true
  | .eventRecorded _ => true
  | .trajectoryObserved _ => true
  | .permissionResolved _ => true
  | .terminalRecorded _ => true
  | .cancelRequested _ => true
  | .trajectoryClosed _ => true
  | _ => false

/-- What may happen once the grants are gone. -/
def TurnEffect.isClosing (e : TurnEffect) : Bool := e.isQuiet || e.isSettlement

/-- The grants of a turn do not outlive it. -/
structure GrantsWithinTurn (grants : Nat) (trace : List TurnEffect) : Prop where
  activatedAfterArm : EachAfter (· = .armed) (·.isActivation = true) trace
  startedAfterArm : EachAfter (· = .armed) (·.isStart = true) trace
  startedAfterActivation : ∀ g < grants, EachAfter (· = .activated g) (·.isStart = true) trace
  deactivatedOnce : ∀ g, .activated g ∈ trace → trace.count (.deactivated g) = 1
  settledAfterDeactivation : ∀ g, .activated g ∈ trace →
    EachAfter (· = .deactivated g) (·.isSettlement = true) trace

/-! ## What the answers lead to -/

/-- What one arrival does to the wait for evidence. -/
inductive Verdict
  | continues
  | terminal
  | failed
  | dropped
  deriving DecidableEq, Repr

/-- What an answer does to the wait, if a good answer lets it go on in some way. -/
def Verdict.ofAnswer {δ : Type} (good : Verdict) : Option (Except δ Unit) → Verdict
  | none => .dropped
  | some (.error _) => .failed
  | some (.ok ()) => good

def Arrival.verdict (arrival : Arrival) : Verdict :=
  match arrival.notification with
  | .error _ => .failed
  | .ok (.turnEvent _) => .ofAnswer .continues arrival.recorded
  | .ok (.permissionRequested _) =>
    .ofAnswer (.ofAnswer .continues arrival.resolved) arrival.recorded
  | .ok (.transcriptEntry _) => .failed
  | .ok (.transcriptComplete _) => .failed
  | .ok (.turnTerminal _) => .ofAnswer .terminal arrival.recorded

/-- The verdict of the first arrival that ends the wait. -/
def evidenceVerdict : List Arrival → Verdict
  | [] => .dropped
  | arrival :: rest =>
    match arrival.verdict with
    | .continues => evidenceVerdict rest
    | verdict => verdict

/-- The evidence of a turn leads to a terminal frame, at once or after a cancellation. -/
def TurnAnswers.concludes (answers : TurnAnswers) : Prop :=
  evidenceVerdict answers.arrivals = .terminal ∨
    evidenceVerdict answers.arrivals = .dropped ∧ answers.cancel = .ok () ∧
      evidenceVerdict answers.cancelArrivals = .terminal

/-- The turn gets as far as being started. -/
def TurnAnswers.starts (turn : ManagedTurn) (answers : TurnAnswers) : Prop :=
  validateTurn turn = .ok () ∧ answers.describe = .ok () ∧ answers.arm = .ok () ∧
    (∀ g < turn.grants, answers.activate g = .ok ()) ∧ answers.start = .ok ()

/-- The wait for evidence has no grant to outlive, is not reached, ends in a terminal frame, or is
refused the mark of uncertainty. -/
def TurnAnswers.settlesInOrder (turn : ManagedTurn) (answers : TurnAnswers) : Prop :=
  turn.grants = 0 ∨ ¬ answers.starts turn ∨ answers.concludes ∨ answers.markUncertain ≠ .ok ()

/-! ## Effects of the parts of a run -/

section
variable {sink : Bool} {turn : ManagedTurn} {answers : TurnAnswers}

/-- An offer is quiet if what is offered is. -/
theorem offer_quiet {δ : Type} {effect : TurnEffect} (h : effect.isQuiet = true) :
    ∀ e ∈ (offer sink effect : Script TurnEffect δ Unit).effects, e.isQuiet = true := by
  intro e he
  cases sink with
  | false => simp [offer, Script.emitAll] at he
  | true =>
    obtain rfl : e = effect := by simpa [offer, Script.emitAll] using he
    exact h

/-- Nothing depends on what comes of an offer. -/
@[simp] theorem offer_bind {δ α : Type} (effect : TurnEffect) (f : Unit → Script TurnEffect δ α) :
    (offer sink effect >>= f) =
      ⟨(offer sink effect : Script TurnEffect δ Unit).effects ++ (f ()).effects, (f ()).result⟩ :=
  rfl

/-- What a drain returns for a verdict. -/
def Verdict.Returned (verdict : Verdict) (result : Except TurnDrainError (Option Harness.TurnTerminal)) :
    Prop :=
  match verdict with
  | .terminal => ∃ terminal, result = .ok (some terminal)
  | .failed => ∃ error, result = .error error
  | .dropped => result = .ok none
  | .continues => False

/-- A drain records evidence and nothing else, and ends as its arrivals say. -/
theorem drainTurn_spec (sink : Bool) (policy : PermissionPolicy) (fence : ExecutionFence)
    (arrivals : List Arrival) :
    (∀ e ∈ (drainTurn sink policy fence arrivals).effects, e.isQuiet = true) ∧
      (evidenceVerdict arrivals).Returned (drainTurn sink policy fence arrivals).result := by
  induction arrivals with
  | nil => exact ⟨by simp [drainTurn], rfl⟩
  | cons arrival rest ih =>
    obtain ⟨notification, now, recorded, resolved⟩ := arrival
    match notification, recorded, resolved with
    | .error error, _, _ => exact ⟨by simp [drainTurn], .plugin error, rfl⟩
    | .ok (.turnEvent event), none, _ => exact ⟨by simp [drainTurn], rfl⟩
    | .ok (.turnEvent event), some (.error error), _ =>
      exact ⟨by simp [drainTurn], .evidence error, rfl⟩
    | .ok (.turnEvent event), some (.ok ()), _ =>
      refine ⟨?_, ih.2⟩
      simp only [drainTurn, Script.emit_bind, offer_bind, List.forall_mem_cons, List.forall_mem_append]
      exact ⟨rfl, offer_quiet rfl, ih.1⟩
    | .ok (.permissionRequested request), none, _ => exact ⟨by simp [drainTurn], rfl⟩
    | .ok (.permissionRequested request), some (.error error), _ =>
      exact ⟨by simp [drainTurn], .evidence error, rfl⟩
    | .ok (.permissionRequested request), some (.ok ()), none =>
      refine ⟨?_, rfl⟩
      simp only [drainTurn, Script.emit_bind, offer_bind, List.forall_mem_cons, List.forall_mem_append]
      exact ⟨rfl, offer_quiet rfl, rfl, by simp⟩
    | .ok (.permissionRequested request), some (.ok ()), some (.error error) =>
      refine ⟨?_, .plugin error, rfl⟩
      simp only [drainTurn, Script.emit_bind, offer_bind, List.forall_mem_cons, List.forall_mem_append]
      exact ⟨rfl, offer_quiet rfl, rfl, by simp⟩
    | .ok (.permissionRequested request), some (.ok ()), some (.ok ()) =>
      refine ⟨?_, ih.2⟩
      simp only [drainTurn, Script.emit_bind, offer_bind, List.forall_mem_cons, List.forall_mem_append]
      exact ⟨rfl, offer_quiet rfl, rfl, ih.1⟩
    | .ok (.transcriptEntry entry), _, _ => exact ⟨by simp [drainTurn], _, rfl⟩
    | .ok (.transcriptComplete complete), _, _ => exact ⟨by simp [drainTurn], _, rfl⟩
    | .ok (.turnTerminal terminal), none, _ => exact ⟨by simp [drainTurn], rfl⟩
    | .ok (.turnTerminal terminal), some (.error error), _ =>
      exact ⟨by simp [drainTurn], .evidence error, rfl⟩
    | .ok (.turnTerminal terminal), some (.ok ()), _ =>
      exact ⟨by simp [drainTurn, TurnEffect.isQuiet], terminal, rfl⟩

/-- The activations of some grants from one position on. -/
def activations (grant count : Nat) : List TurnEffect :=
  (List.range' grant count).map .activated

/-- The revocations of some grants, the last one first. -/
def deactivations (count : Nat) : List TurnEffect :=
  (List.range count).reverse.map .deactivated

/-- Grants are activated in order up to the first that fails. -/
theorem activateFrom_spec (answers : TurnAnswers) (grant count : Nat) :
    ((∀ g, grant ≤ g → g < grant + count → answers.activate g = .ok ()) ∧
      activateFrom answers grant count = ⟨activations grant count, .ok none⟩) ∨
    ∃ n error, n < count ∧ answers.activate (grant + n) ≠ .ok () ∧
      activateFrom answers grant count = ⟨activations grant n, .ok (some (grant + n, error))⟩ := by
  induction count generalizing grant with
  | zero => exact .inl ⟨by omega, rfl⟩
  | succ count ih =>
    match h : answers.activate grant with
    | .error error =>
      refine .inr ⟨0, error, by omega, by simp [h], ?_⟩
      simp [activateFrom, h, activations]
    | .ok () =>
      obtain ⟨hall, hrest⟩ | ⟨n, error, hn, hfail, hrest⟩ := ih (grant + 1)
      · refine .inl ⟨?_, ?_⟩
        · intro g hle hlt
          by_cases hg : g = grant
          · rw [hg, h]
          · exact hall g (by omega) (by omega)
        · simp [activateFrom, h, hrest, activations, List.range'_succ]
      · refine .inr ⟨n + 1, error, by omega, ?_, ?_⟩
        · rwa [show grant + (n + 1) = grant + 1 + n by omega]
        · simp [activateFrom, h, hrest, activations, List.range'_succ]
          omega

/-- A block that is refused its mark has no effect, and any other begins with the mark. -/
theorem block_spec (sink : Bool) (answers : TurnAnswers) (reason : String) :
    (∀ e ∈ (block sink answers reason).effects, e.isClosing = true) ∧
      (answers.markUncertain = .ok () →
        ∃ rest, (block sink answers reason).effects = .markedUncertain (boundedReason reason) :: rest) ∧
      (answers.markUncertain ≠ .ok () → (block sink answers reason).effects = []) := by
  match hmark : answers.markUncertain, hblock : answers.block with
  | .error error, _ => simp [block, hmark, Except.mapError]
  | .ok (), .error error =>
    refine ⟨?_, fun _ => ⟨[], ?_⟩, fun h => absurd rfl h⟩
    · simp [block, hmark, hblock, Except.mapError, TurnEffect.isClosing, TurnEffect.isSettlement]
    · simp [block, hmark, hblock, Except.mapError]
  | .ok (), .ok blocked =>
    have heffects : (block sink answers reason).effects =
        .markedUncertain (boundedReason reason) :: .deliveryBlocked (boundedReason reason) ::
          (offer sink (.trajectoryClosed (.parked (boundedReason reason))) :
            Script TurnEffect ManagedTurnError Unit).effects := by
      simp [block, hmark, hblock, Except.mapError]
    refine ⟨?_, fun _ => ⟨_, heffects⟩, fun h => absurd rfl h⟩
    simp only [heffects, List.forall_mem_cons]
    refine ⟨rfl, rfl, fun e he => ?_⟩
    simp [TurnEffect.isClosing, offer_quiet rfl e he]

/-- Returning the block of a drain adds no effect. -/
theorem blockedDrain_effects (reason : String) :
    (blockedDrain sink answers reason).effects = (block sink answers reason).effects :=
  Script.effects_bind_pure ..

/-- Returning the block of a turn adds no effect. -/
theorem blockAfterArm_effects (reason : String) :
    (blockAfterArm sink answers reason).effects = (block sink answers reason).effects :=
  Script.effects_bind_pure ..

/-- A wait that is good ends in a terminal frame, and one that is not ends in a block. -/
def EndsInTerminalIf (sink : Bool) (answers : TurnAnswers) (good : Prop)
    (await : Script TurnEffect ManagedTurnError TerminalDrain) : Prop :=
  (good ∧ (∀ e ∈ await.effects, e.isQuiet = true) ∧
    ∃ evidence, await.result = .ok (.terminal evidence)) ∨
  (¬ good ∧ ∃ before reason, (∀ e ∈ before, e.isQuiet = true) ∧
    await.effects = before ++ (block sink answers reason).effects ∧
    await.result = (blockedDrain sink answers reason).result)

/-- A wait that blocks after quiet effects. -/
theorem EndsInTerminalIf.blocked {good : Prop} (hgood : ¬ good) (before : List TurnEffect)
    (hbefore : ∀ e ∈ before, e.isQuiet = true) (reason : String) :
    EndsInTerminalIf sink answers good
      ⟨before ++ (blockedDrain sink answers reason).effects,
        (blockedDrain sink answers reason).result⟩ :=
  .inr ⟨hgood, before, reason, hbefore, by rw [blockedDrain_effects], rfl⟩

/-- After a stop, the wait is good if the cancellation is accepted and leads to a terminal frame. -/
theorem cancelAndDrain_spec (sink : Bool) (turn : ManagedTurn) (answers : TurnAnswers)
    (stop : HostStopReason) :
    EndsInTerminalIf sink answers
      (answers.cancel = .ok () ∧ evidenceVerdict answers.cancelArrivals = .terminal)
      (cancelAndDrain sink turn answers stop) := by
  match hcancel : answers.cancel with
  | .error error =>
    have hbad : ¬ ((.error error : Except PluginError Unit) = .ok () ∧
        evidenceVerdict answers.cancelArrivals = .terminal) := fun h => nomatch h.1
    simpa [cancelAndDrain, hcancel] using EndsInTerminalIf.blocked hbad
      [.cancelRequested stop.cancelReason] (by simp [TurnEffect.isQuiet])
      ("host " ++ stop.cancelReason ++ " cancellation failed: " ++ error.display)
  | .ok () =>
    obtain ⟨hquiet, hreturned⟩ := drainTurn_spec sink turn.permissionPolicy
      (startTurnRequest turn).fence answers.cancelArrivals
    have hbefore : ∀ e ∈ TurnEffect.cancelRequested stop.cancelReason ::
        (drainTurn sink turn.permissionPolicy (startTurnRequest turn).fence
          answers.cancelArrivals).effects, e.isQuiet = true :=
      List.forall_mem_cons.2 ⟨rfl, hquiet⟩
    match hverdict : evidenceVerdict answers.cancelArrivals with
    | .terminal =>
      rw [hverdict] at hreturned
      obtain ⟨terminal, hterminal⟩ := hreturned
      refine .inl ⟨⟨rfl, rfl⟩, ?_, ⟨terminal, some stop⟩, ?_⟩
      · simpa [cancelAndDrain, hcancel, hterminal] using hbefore
      · simp [cancelAndDrain, hcancel, hterminal]
    | .failed =>
      rw [hverdict] at hreturned
      obtain ⟨error, herror⟩ := hreturned
      have hblocked : EndsInTerminalIf sink answers
          ((.ok () : Except PluginError Unit) = .ok () ∧ Verdict.failed = .terminal) _ :=
        .blocked (fun h => nomatch h.2) _ hbefore ("cancel drain failed: " ++ error.display)
      simpa [cancelAndDrain, hcancel, herror] using hblocked
    | .dropped =>
      rw [hverdict] at hreturned
      have hnone : (drainTurn sink turn.permissionPolicy (startTurnRequest turn).fence
        answers.cancelArrivals).result = .ok none := hreturned
      have hblocked : EndsInTerminalIf sink answers
          ((.ok () : Except PluginError Unit) = .ok () ∧ Verdict.dropped = .terminal) _ :=
        .blocked (fun h => nomatch h.2) _ hbefore "cancel drain deadline exceeded"
      simpa [cancelAndDrain, hcancel, hnone] using hblocked
    | .continues =>
      rw [hverdict] at hreturned
      exact hreturned.elim

/-- The wait for a terminal frame ends in one if the answers lead to one. -/
theorem awaitTerminal_spec (sink : Bool) (turn : ManagedTurn) (answers : TurnAnswers) :
    EndsInTerminalIf sink answers answers.concludes (awaitTerminal sink turn answers) := by
  obtain ⟨hquiet, hreturned⟩ := drainTurn_spec sink turn.permissionPolicy
    (startTurnRequest turn).fence answers.arrivals
  match hverdict : evidenceVerdict answers.arrivals with
  | .terminal =>
    rw [hverdict] at hreturned
    obtain ⟨terminal, hterminal⟩ := hreturned
    refine .inl ⟨.inl hverdict, ?_, ⟨terminal, none⟩, ?_⟩
    · simpa [awaitTerminal, hterminal] using hquiet
    · simp [awaitTerminal, hterminal]
  | .failed =>
    rw [hverdict] at hreturned
    obtain ⟨error, herror⟩ := hreturned
    have hbad : ¬ answers.concludes := by simp [TurnAnswers.concludes, hverdict]
    have hblocked : EndsInTerminalIf sink answers answers.concludes _ :=
      .blocked hbad _ hquiet ("turn evidence failed: " ++ error.display)
    simpa [awaitTerminal, herror] using hblocked
  | .dropped =>
    rw [hverdict] at hreturned
    have hnone : (drainTurn sink turn.permissionPolicy (startTurnRequest turn).fence
      answers.arrivals).result = .ok none := hreturned
    have hiff : answers.concludes ↔
        answers.cancel = .ok () ∧ evidenceVerdict answers.cancelArrivals = .terminal := by
      simp [TurnAnswers.concludes, hverdict]
    have heffects : (awaitTerminal sink turn answers).effects =
        (drainTurn sink turn.permissionPolicy (startTurnRequest turn).fence answers.arrivals).effects ++
          (cancelAndDrain sink turn answers (hostStop turn answers)).effects := by
      simp [awaitTerminal, hnone]
    have hresult : (awaitTerminal sink turn answers).result =
        (cancelAndDrain sink turn answers (hostStop turn answers)).result := by
      simp [awaitTerminal, hnone]
    obtain ⟨hgood, hcancel, hterminal⟩ | ⟨hbad, before, reason, hbefore, hblock, hblocked⟩ :=
      cancelAndDrain_spec sink turn answers (hostStop turn answers)
    · refine .inl ⟨hiff.2 hgood, ?_, by rwa [hresult]⟩
      rw [heffects]
      exact List.forall_mem_append.2 ⟨hquiet, hcancel⟩
    · refine .inr ⟨fun h => hbad (hiff.1 h), _ ++ before, reason,
        List.forall_mem_append.2 ⟨hquiet, hbefore⟩, ?_, by rw [hresult, hblocked]⟩
      rw [heffects, hblock, List.append_assoc]
  | .continues =>
    rw [hverdict] at hreturned
    exact hreturned.elim

/-- Quiet effects may come at the end. -/
theorem isClosing_of_isQuiet {e : TurnEffect} (h : e.isQuiet = true) : e.isClosing = true := by
  simp [TurnEffect.isClosing, h]

/-- A failed step only closes the trajectory. -/
theorem closingOnError_closing {α : Type} (result : Except ManagedTurnError α) :
    ∀ e ∈ (closingOnError sink result).effects, e.isClosing = true := by
  cases result with
  | ok value => simp [closingOnError]
  | error error =>
    simp only [closingOnError, offer_bind, Script.fail_eq, List.append_nil]
    exact fun e he => isClosing_of_isQuiet (offer_quiet rfl e he)

/-- The settlement of a terminal frame settles and closes the trajectory. -/
theorem settleTerminal_closing (evidence : TerminalWithStop) :
    ∀ e ∈ (settleTerminal sink turn answers evidence).effects, e.isClosing = true := by
  rw [settleTerminal]
  split
  · rw [Script.effects_bind_pure]
    exact (block_spec sink answers _).1
  · match answers.complete with
    | .error error => simp [Except.mapError]
    | .ok completion =>
      simp only [Except.mapError, Script.lift_ok_bind, Script.emit_bind, offer_bind,
        List.forall_mem_cons, List.forall_mem_append]
      refine ⟨rfl, fun e he => isClosing_of_isQuiet (offer_quiet rfl e he), ?_⟩
      split <;> simp

/-- A started turn ends with the wait for its evidence, the revocation of its grants and its
settlement. -/
theorem finishTurn_effects (sink : Bool) (turn : ManagedTurn) (answers : TurnAnswers) :
    ∃ tail, (∀ e ∈ tail, e.isClosing = true) ∧
      (finishTurn sink turn answers).effects =
        (awaitTerminal sink turn answers).effects ++ deactivations turn.grants ++ tail := by
  have hshape : (finishTurn sink turn answers).effects =
      (awaitTerminal sink turn answers).effects ++ (deactivations turn.grants ++ _) := rfl
  refine ⟨_, ?_, by rw [hshape, List.append_assoc]⟩
  match (awaitTerminal sink turn answers).result with
  | .error error =>
    have hclosing : ∀ e ∈ (closingOnError sink
        (.error error : Except ManagedTurnError TerminalDrain)).effects, e.isClosing = true :=
      closingOnError_closing _
    simpa [closingOnError] using hclosing
  | .ok (.blocked blocked) => simp [closingOnError]
  | .ok (.terminal evidence) =>
    simp only [closingOnError, Script.pure_eq, Script.bind_ok, Script.attempt_bind,
      List.nil_append, List.forall_mem_append]
    exact ⟨settleTerminal_closing evidence, closingOnError_closing _⟩

end

/-! ## Traces in order -/

/-- Quiet effects are of no other kind. -/
theorem isQuiet_kinds {e : TurnEffect} (h : e.isQuiet = true) :
    e.isActivation = false ∧ e.isStart = false ∧ e.isDeactivation = false ∧ e.isSettlement = false := by
  cases e <;> simp_all [TurnEffect.isQuiet, TurnEffect.isActivation, TurnEffect.isStart,
    TurnEffect.isDeactivation, TurnEffect.isSettlement]

/-- Effects at the end neither activate, start nor revoke. -/
theorem isClosing_kinds {e : TurnEffect} (h : e.isClosing = true) :
    e.isActivation = false ∧ e.isStart = false ∧ e.isDeactivation = false := by
  cases e <;> simp_all [TurnEffect.isClosing, TurnEffect.isQuiet, TurnEffect.isActivation,
    TurnEffect.isStart, TurnEffect.isDeactivation, TurnEffect.isSettlement]

/-- The request that starts a turn is of no other kind. -/
theorem isStart_kinds {e : TurnEffect} (h : e.isStart = true) :
    e.isActivation = false ∧ e.isDeactivation = false ∧ e.isSettlement = false := by
  cases e <;> simp_all [TurnEffect.isActivation, TurnEffect.isStart, TurnEffect.isDeactivation,
    TurnEffect.isSettlement]

theorem mem_activations {e : TurnEffect} {n : Nat} :
    e ∈ activations 0 n ↔ ∃ g < n, e = .activated g := by
  simp [activations, List.mem_range'_1, eq_comm]

theorem mem_deactivations {e : TurnEffect} {n : Nat} :
    e ∈ deactivations n ↔ ∃ g < n, e = .deactivated g := by
  simp [deactivations, eq_comm]

/-- Each grant is revoked once. -/
theorem count_deactivations {g n : Nat} (h : g < n) :
    (deactivations n).count (.deactivated g) = 1 := by
  have hnodup : (deactivations n).Nodup := by
    refine List.Nodup.map (fun a b hab => by cases hab; rfl) ?_
    exact List.nodup_reverse.2 List.nodup_range
  exact List.count_eq_one_of_mem hnodup (mem_deactivations.2 ⟨g, h, rfl⟩)

/-- Everything after the arming comes after it. -/
theorem eachAfter_armed {later : TurnEffect → Prop} {rest : List TurnEffect} (h : ¬ later .armed) :
    EachAfter (· = .armed) later (.armed :: rest) := by
  have hfirst : EachAfter (· = TurnEffect.armed) later [.armed] :=
    eachAfter_of_forall_not fun e he => by rwa [List.mem_singleton.1 he]
  exact hfirst.append_of_exists ⟨.armed, List.mem_singleton_self _, rfl⟩

section
variable {grants n : Nat} {opened middle tail : List TurnEffect}
  (hopened : ∀ e ∈ opened, e.isQuiet = true)
  (hmiddle : ∀ e ∈ middle, e.isQuiet = true ∨ e.isStart = true ∧ n = grants)
  (htail : ∀ e ∈ tail, e.isClosing = true)
include hopened hmiddle htail

/-- The grants that such a trace activates. -/
theorem activated_mem_shape {g : Nat} :
    .activated g ∈ .armed :: opened ++ activations 0 n ++ middle ++ deactivations n ++ tail ↔ g < n := by
  constructor
  · intro h
    simp only [List.cons_append, List.mem_cons, List.mem_append, mem_activations, mem_deactivations,
      reduceCtorEq, false_or, and_false, exists_false, or_false] at h
    rcases h with (((h | ⟨k, hk, hg⟩) | h) | h)
    · exact absurd (isQuiet_kinds (hopened _ h)).1 (by simp [TurnEffect.isActivation])
    · cases hg
      exact hk
    · rcases hmiddle _ h with h | h
      · exact absurd (isQuiet_kinds h).1 (by simp [TurnEffect.isActivation])
      · exact absurd (isStart_kinds h.1).1 (by simp [TurnEffect.isActivation])
    · exact absurd (isClosing_kinds (htail _ h)).1 (by simp [TurnEffect.isActivation])
  · intro h
    simp [mem_activations, h]

omit hmiddle htail in
/-- Before anything needs the grants, nothing is started. -/
theorem not_isStart_of_mem_activating {e : TurnEffect}
    (he : e ∈ .armed :: opened ++ activations 0 n) : ¬ e.isStart = true := by
  simp only [List.cons_append, List.mem_cons, List.mem_append, mem_activations] at he
  rcases he with rfl | he | ⟨g, -, rfl⟩
  · simp [TurnEffect.isStart]
  · simp [(isQuiet_kinds (hopened e he)).2.1]
  · simp [TurnEffect.isStart]

omit htail in
/-- Up to the revocation of the grants, nothing is settled. -/
theorem not_isSettlement_of_mem_granted {e : TurnEffect}
    (he : e ∈ .armed :: opened ++ activations 0 n ++ middle ++ deactivations n) :
    ¬ e.isSettlement = true := by
  simp only [List.cons_append, List.mem_cons, List.mem_append, mem_activations,
    mem_deactivations] at he
  rcases he with rfl | ((he | ⟨g, -, rfl⟩) | he) | ⟨g, -, rfl⟩
  · simp [TurnEffect.isSettlement]
  · simp [(isQuiet_kinds (hopened e he)).2.2.2]
  · simp [TurnEffect.isSettlement]
  · rcases hmiddle e he with h | h
    · simp [(isQuiet_kinds h).2.2.2]
    · simp [(isStart_kinds h.1).2.2]
  · simp [TurnEffect.isSettlement]

/-- The revocations of one grant in such a trace. -/
theorem count_deactivated_shape {g : Nat} (hg : g < n) :
    (.armed :: opened ++ activations 0 n ++ middle ++ deactivations n ++ tail).count
      (.deactivated g) = 1 := by
  have hbefore : .deactivated g ∉ .armed :: opened ++ activations 0 n ++ middle := by
    simp only [List.cons_append, List.mem_cons, List.mem_append, mem_activations, reduceCtorEq,
      false_or, and_false, exists_false, or_false, not_or]
    refine ⟨fun h => ?_, fun h => ?_⟩
    · exact absurd (isQuiet_kinds (hopened _ h)).2.2.1 (by simp [TurnEffect.isDeactivation])
    · rcases hmiddle _ h with h | h
      · exact absurd (isQuiet_kinds h).2.2.1 (by simp [TurnEffect.isDeactivation])
      · exact absurd (isStart_kinds h.1).2.1 (by simp [TurnEffect.isDeactivation])
  have hafter : .deactivated g ∉ tail := fun h =>
    absurd (isClosing_kinds (htail _ h)).2.2 (by simp [TurnEffect.isDeactivation])
  rw [List.count_append, List.count_append, List.count_eq_zero_of_not_mem hbefore,
    count_deactivations hg, List.count_eq_zero_of_not_mem hafter]

/-- A trace that arms, activates some grants, does what needs them, revokes them and closes keeps
the grants within the turn. -/
theorem grantsWithinTurn_of_shape :
    GrantsWithinTurn grants
      (.armed :: opened ++ activations 0 n ++ middle ++ deactivations n ++ tail) where
  activatedAfterArm := eachAfter_armed (by simp [TurnEffect.isActivation])
  startedAfterArm := eachAfter_armed (by simp [TurnEffect.isStart])
  startedAfterActivation := by
    intro g hg
    by_cases hn : n = grants
    · simp only [List.append_assoc (_ ++ activations 0 n)]
      refine EachAfter.append_of_exists
        (eachAfter_of_forall_not fun e he => not_isStart_of_mem_activating hopened he) ?_
      exact ⟨.activated g, by simp [mem_activations, hn, hg], rfl⟩
    · refine eachAfter_of_forall_not fun e he => ?_
      rw [List.mem_append, List.mem_append, List.mem_append] at he
      rcases he with ((he | he) | he) | he
      · exact not_isStart_of_mem_activating hopened he
      · rcases hmiddle e he with h | h
        · simp [(isQuiet_kinds h).2.1]
        · exact absurd h.2 hn
      · obtain ⟨k, -, rfl⟩ := mem_deactivations.1 he
        simp [TurnEffect.isStart]
      · simp [(isClosing_kinds (htail e he)).2.1]
  deactivatedOnce := by
    intro g hg
    rw [activated_mem_shape hopened hmiddle htail] at hg
    exact count_deactivated_shape hopened hmiddle htail hg
  settledAfterDeactivation := by
    intro g hg
    rw [activated_mem_shape hopened hmiddle htail] at hg
    refine EachAfter.append_of_exists (eachAfter_of_forall_not fun e he =>
      not_isSettlement_of_mem_granted hopened hmiddle he) ?_
    exact ⟨.deactivated g, by simp [mem_deactivations, hg], rfl⟩

end

/-! ## Runs -/

/-- A run without any effect keeps its grants within the turn. -/
theorem grantsWithinTurn_nil (grants : Nat) : GrantsWithinTurn grants [] where
  activatedAfterArm := eachAfter_of_forall_not (by simp)
  startedAfterArm := eachAfter_of_forall_not (by simp)
  startedAfterActivation := fun _ _ => eachAfter_of_forall_not (by simp)
  deactivatedOnce := by simp
  settledAfterDeactivation := by simp

/-- What a run did, by how far it got. -/
inductive RunTrace (sink : Bool) (turn : ManagedTurn) (answers : TurnAnswers) (trace : List TurnEffect) :
    Prop
  | unarmed (starts : ¬ answers.starts turn) (effects : trace = [])
  | unstarted (starts : ¬ answers.starts turn) (n : Nat) (opened middle tail : List TurnEffect)
      (hopened : ∀ e ∈ opened, e.isQuiet = true)
      (hmiddle : ∀ e ∈ middle, e.isQuiet = true ∨ e.isStart = true ∧ n = turn.grants)
      (htail : ∀ e ∈ tail, e.isClosing = true)
      (effects : trace =
        .armed :: opened ++ activations 0 n ++ middle ++ deactivations n ++ tail)
  | started (starts : answers.starts turn) (opened tail : List TurnEffect)
      (hopened : ∀ e ∈ opened, e.isQuiet = true)
      (htail : ∀ e ∈ tail, e.isClosing = true)
      (effects : trace = .armed :: opened ++ activations 0 turn.grants ++
        (.startRequested (startTurnRequest turn) :: (awaitTerminal sink turn answers).effects) ++
        deactivations turn.grants ++ tail)

/-- Every run is of one of these kinds. -/
theorem runTurn_trace (sink : Bool) (turn : ManagedTurn) (answers : TurnAnswers) :
    RunTrace sink turn answers (runTurn sink turn answers).effects := by
  match hvalid : validateTurn turn, hdescribe : answers.describe, harm : answers.arm with
  | .error error, _, _ =>
    exact .unarmed (by simp [TurnAnswers.starts, hvalid]) (by simp [runTurn, hvalid])
  | .ok (), .error error, _ =>
    exact .unarmed (by simp [TurnAnswers.starts, hdescribe])
      (by simp [runTurn, hvalid, hdescribe, Except.mapError])
  | .ok (), .ok (), .error error =>
    exact .unarmed (by simp [TurnAnswers.starts, harm])
      (by simp [runTurn, hvalid, hdescribe, harm, Except.mapError])
  | .ok (), .ok (), .ok () =>
    have hopened : ∀ e ∈ (offer sink .trajectoryOpened :
        Script TurnEffect ManagedTurnError Unit).effects, e.isQuiet = true := offer_quiet rfl
    obtain ⟨hactive, hactivate⟩ | ⟨n, error, hn, hfail, hactivate⟩ :=
      activateFrom_spec answers 0 turn.grants
    · match hstart : answers.start with
      | .error error =>
        refine .unstarted (by simp [TurnAnswers.starts, hstart]) turn.grants _
          [.startRequested (startTurnRequest turn)] _ hopened (by simp [TurnEffect.isStart])
          (block_spec sink answers ("turn start failed: " ++ error.display)).1 ?_
        simp [runTurn, hvalid, hdescribe, harm, hactivate, hstart, Except.mapError, revokeGrants,
          blockAfterArm_effects, deactivations]
      | .ok () =>
        obtain ⟨tail, htail, hfinish⟩ :=
          finishTurn_effects sink turn answers
        refine .started ⟨hvalid, hdescribe, harm, fun g hg => hactive g (by omega) (by omega), hstart⟩
          _ tail hopened htail ?_
        simp [runTurn, hvalid, hdescribe, harm, hactivate, hstart, Except.mapError, hfinish]
    · refine .unstarted (fun h => hfail (h.2.2.2.1 _ (by omega))) n _ [] _ hopened (by simp)
        (block_spec sink answers ("invocation grant activation failed: " ++ error)).1 ?_
      simp [runTurn, hvalid, hdescribe, harm, hactivate, Except.mapError, revokeGrants,
        blockAfterArm_effects, deactivations]

/-- A run arms its invocation exactly if the turn is valid, the harness answers and the store arms
it. -/
theorem runTurn_armed_iff (sink : Bool) (turn : ManagedTurn) (answers : TurnAnswers) :
    .armed ∈ (runTurn sink turn answers).effects ↔
      validateTurn turn = .ok () ∧ answers.describe = .ok () ∧ answers.arm = .ok () := by
  match hvalid : validateTurn turn, hdescribe : answers.describe, harm : answers.arm with
  | .error error, _, _ => simp [runTurn, hvalid]
  | .ok (), .error error, _ => simp [runTurn, hvalid, hdescribe, Except.mapError]
  | .ok (), .ok (), .error error => simp [runTurn, hvalid, hdescribe, harm, Except.mapError]
  | .ok (), .ok (), .ok () => simp [runTurn, hvalid, hdescribe, harm, Except.mapError]

/-- A run that does not arm does nothing. -/
theorem runTurn_unarmed {sink : Bool} {turn : ManagedTurn} {answers : TurnAnswers}
    (h : .armed ∉ (runTurn sink turn answers).effects) :
    (runTurn sink turn answers).effects = [] := by
  cases runTurn_trace sink turn answers with
  | unarmed starts effects => exact effects
  | unstarted starts n opened middle tail hopened hmiddle htail effects =>
    rw [effects] at h
    exact absurd (by simp) h
  | started starts opened tail hopened htail effects =>
    rw [effects] at h
    exact absurd (by simp) h

/-! ## Refusals -/

/-- Whether an error says that the turn itself was refused. -/
def ManagedTurnError.isInvalid : ManagedTurnError → Bool
  | .invalid _ => true
  | _ => false

/-- The script does not refuse its turn. -/
abbrev NeverInvalid {α : Type} (x : Script TurnEffect ManagedTurnError α) : Prop :=
  x.FailsOnly fun error => error.isInvalid = false

section
variable (sink : Bool) (turn : ManagedTurn) (answers : TurnAnswers)

theorem neverInvalid_offer (effect : TurnEffect) : NeverInvalid (offer sink effect) :=
  .emitAll _

/-- What the store answers is no refusal of the turn. -/
theorem neverInvalid_lift {α : Type} (answer : Except FleetError α) :
    NeverInvalid (.lift (answer.mapError .fleet)) := by
  intro error h
  cases answer with
  | ok value => cases h
  | error source =>
    cases h
    rfl

theorem neverInvalid_block (reason : String) : NeverInvalid (block sink answers reason) :=
  (neverInvalid_lift _).bind fun _ => (Script.FailsOnly.emit _).bind fun _ =>
    (neverInvalid_lift _).bind fun _ => (Script.FailsOnly.emit _).bind fun _ =>
    (neverInvalid_offer sink _).bind fun _ => .pure _

theorem neverInvalid_blockAfterArm (reason : String) :
    NeverInvalid (blockAfterArm sink answers reason) :=
  (neverInvalid_block sink answers reason).bind fun _ => .pure _

theorem neverInvalid_blockedDrain (reason : String) :
    NeverInvalid (blockedDrain sink answers reason) :=
  (neverInvalid_block sink answers reason).bind fun _ => .pure _

theorem neverInvalid_cancelAndDrain (reason : HostStopReason) :
    NeverInvalid (cancelAndDrain sink turn answers reason) := by
  refine (Script.FailsOnly.emit _).bind fun _ => ?_
  split
  · exact neverInvalid_blockedDrain sink answers _
  · refine Script.FailsOnly.attempt_bind (fun _ _ => trivial) fun drained _ => ?_
    split
    · exact .pure _
    · exact neverInvalid_blockedDrain sink answers _
    · exact neverInvalid_blockedDrain sink answers _

theorem neverInvalid_awaitTerminal : NeverInvalid (awaitTerminal sink turn answers) := by
  refine Script.FailsOnly.attempt_bind (fun _ _ => trivial) fun initial _ => ?_
  split
  · exact .pure _
  · exact neverInvalid_blockedDrain sink answers _
  · exact neverInvalid_cancelAndDrain sink turn answers _

/-- Closing a trajectory keeps the failure. -/
theorem neverInvalid_closingOnError {α : Type} {result : Except ManagedTurnError α}
    (h : ∀ error, result = .error error → error.isInvalid = false) :
    NeverInvalid (closingOnError sink result) := by
  cases result with
  | ok value => exact .pure _
  | error error =>
    refine (neverInvalid_offer sink _).bind fun _ => ?_
    exact fun other hother => h other (hother ▸ rfl)

theorem neverInvalid_settleTerminal (evidence : TerminalWithStop) :
    NeverInvalid (settleTerminal sink turn answers evidence) := by
  unfold settleTerminal
  simp only
  split
  · exact (neverInvalid_block sink answers _).bind fun _ => .pure _
  · refine (neverInvalid_lift _).bind fun _ => (Script.FailsOnly.emit _).bind fun _ =>
      (neverInvalid_offer sink _).bind fun _ => ?_
    split
    · exact .pure _
    · exact .pure _

theorem neverInvalid_finishTurn : NeverInvalid (finishTurn sink turn answers) := by
  refine Script.FailsOnly.attempt_bind (neverInvalid_awaitTerminal sink turn answers)
    fun terminalResult hresult => (Script.FailsOnly.emitAll _).bind fun _ =>
    (neverInvalid_closingOnError sink hresult).bind fun drained => ?_
  split
  · exact .pure _
  · exact Script.FailsOnly.attempt_bind (neverInvalid_settleTerminal sink turn answers _)
      fun settled hsettled => neverInvalid_closingOnError sink hsettled

/-- Activating grants does not fail as such. -/
theorem neverInvalid_activateFrom (grant count : Nat) :
    NeverInvalid (activateFrom answers grant count) := by
  induction count generalizing grant with
  | zero => exact .pure _
  | succ count ih =>
    rw [activateFrom]
    split
    · exact .pure _
    · exact (Script.FailsOnly.emit _).bind fun _ => ih (grant + 1)

/-- A turn is refused by its own checks, or not at all. -/
theorem runTurn_invalid {message : String}
    (h : (runTurn sink turn answers).result = .error (.invalid message)) :
    validateTurn turn = .error (.invalid message) := by
  cases hvalid : validateTurn turn with
  | error error =>
    rw [runTurn, hvalid, Script.lift_error_bind] at h
    exact congrArg Except.error (Except.error.inj h)
  | ok _ =>
    have hnever : NeverInvalid (runTurn sink turn answers) := by
      rw [runTurn, hvalid]
      refine Script.FailsOnly.bind (fun _ hnone => nomatch hnone) fun _ => ?_
      refine Script.FailsOnly.bind ?_ fun _ => (neverInvalid_lift _).bind fun _ =>
        (Script.FailsOnly.emit _).bind fun _ => (neverInvalid_offer sink _).bind fun _ =>
        (neverInvalid_activateFrom answers 0 turn.grants).bind fun failed => ?_
      · intro error herror
        cases hdescribe : answers.describe with
        | ok value =>
          rw [hdescribe] at herror
          cases herror
        | error source =>
          rw [hdescribe] at herror
          cases herror
          rfl
      · split
        · exact (Script.FailsOnly.emitAll _).bind fun _ => neverInvalid_blockAfterArm sink answers _
        · refine (Script.FailsOnly.emit _).bind fun _ => ?_
          split
          · exact (Script.FailsOnly.emitAll _).bind fun _ => neverInvalid_blockAfterArm sink answers _
          · exact neverInvalid_finishTurn sink turn answers
    exact absurd (hnever _ h) (by simp [ManagedTurnError.isInvalid])

end

/-- A block that comes out of the wait settles before the grants are revoked. -/
theorem not_grantsWithinTurn_of_block {grants : Nat} {opened before rest : List TurnEffect}
    {request : StartTurn} {reason : String} (hgrants : 0 < grants)
    (hopened : ∀ e ∈ opened, e.isQuiet = true) (hbefore : ∀ e ∈ before, e.isQuiet = true) :
    ¬ GrantsWithinTurn grants (.armed :: opened ++ activations 0 grants ++
      (.startRequested request :: before) ++ .markedUncertain reason :: rest) := by
  intro h
  have hactivated : .activated 0 ∈ .armed :: opened ++ activations 0 grants ++
      (.startRequested request :: before) ++ .markedUncertain reason :: rest := by
    simp [mem_activations, hgrants]
  have hsettled := h.settledAfterDeactivation 0 hactivated
  refine not_eachAfter (fun x hx hdeactivated => ?_) ?_ hsettled
  case refine_2 => rfl
  subst hdeactivated
  simp only [List.cons_append, List.mem_cons, List.mem_append, mem_activations, reduceCtorEq,
    false_or, and_false, exists_false, or_false] at hx
  rcases hx with hx | hx
  · exact absurd (isQuiet_kinds (hopened _ hx)).2.2.1 (by simp [TurnEffect.isDeactivation])
  · exact absurd (isQuiet_kinds (hbefore _ hx)).2.2.1 (by simp [TurnEffect.isDeactivation])

/-- The grants of a turn stay within it exactly if its settlement does not come out of the wait for
its evidence. -/
theorem runTurn_grantsWithinTurn_iff (sink : Bool) (turn : ManagedTurn) (answers : TurnAnswers) :
    GrantsWithinTurn turn.grants (runTurn sink turn answers).effects ↔
      answers.settlesInOrder turn := by
  cases runTurn_trace sink turn answers with
  | unarmed starts effects =>
    rw [effects]
    exact iff_of_true (grantsWithinTurn_nil _) (.inr (.inl starts))
  | unstarted starts n opened middle tail hopened hmiddle htail effects =>
    rw [effects]
    exact iff_of_true (grantsWithinTurn_of_shape hopened hmiddle htail) (.inr (.inl starts))
  | started starts opened tail hopened htail effects =>
    rw [effects]
    obtain ⟨hgood, hquiet, -⟩ | ⟨hbad, before, reason, hbefore, hblock, -⟩ :=
      awaitTerminal_spec sink turn answers
    · refine iff_of_true (grantsWithinTurn_of_shape hopened ?_ htail) (.inr (.inr (.inl hgood)))
      exact List.forall_mem_cons.2 ⟨.inr ⟨rfl, rfl⟩, fun e he => .inl (hquiet e he)⟩
    · have hmiddle : ∀ e ∈ .startRequested (startTurnRequest turn) :: before,
          e.isQuiet = true ∨ e.isStart = true ∧ turn.grants = turn.grants :=
        List.forall_mem_cons.2 ⟨.inr ⟨rfl, rfl⟩, fun e he => .inl (hbefore e he)⟩
      rw [hblock]
      by_cases hmark : answers.markUncertain = .ok ()
      · by_cases hgrants : turn.grants = 0
        · -- nothing was granted, so that the block may as well stand at the end
          have hclosing : ∀ e ∈ (block sink answers reason).effects ++ tail, e.isClosing = true :=
            List.forall_mem_append.2 ⟨(block_spec sink answers reason).1, htail⟩
          have hshape := grantsWithinTurn_of_shape hopened hmiddle hclosing
          refine iff_of_true ?_ (.inl hgrants)
          simpa [hgrants, deactivations, activations] using hshape
        · obtain ⟨rest, hrest⟩ := (block_spec sink answers reason).2.1 hmark
          refine iff_of_false ?_ ?_
          · simpa [hrest] using not_grantsWithinTurn_of_block (Nat.pos_of_ne_zero hgrants) hopened
              hbefore
          · simp [TurnAnswers.settlesInOrder, hgrants, starts, hbad, hmark]
      · rw [(block_spec sink answers reason).2.2 hmark, List.append_nil]
        exact iff_of_true (grantsWithinTurn_of_shape hopened hmiddle htail) (.inr (.inr (.inr hmark)))

/-! ## A harness that is lost -/

/-- The message of the sample, as the worker reads it. -/
def sampleManagedMessage : Message Value where
  id := "m"
  seq := 1
  channelId := "c"
  senderId := "a"
  recipientId := some "b"
  kind := "work"
  payload := .bool true
  correlationId := some "corr"
  causationId := none
  createdAtMs := 2

/-- The turn of the sample, with one grant. -/
def sampleManagedTurn : ManagedTurn where
  invocation := {
    id := "i"
    agentId := "b"
    message := sampleManagedMessage
    deliveryAttempt := 1
    leaseToken := "T"
    leaseExpiresAtMs := 15
    fenceToken := "f"
    state := .reserved
    reservedAtMs := 5
    resultMessageId := none }
  generationId := "g"
  binding := ⟨"B", 1, 1⟩
  sessionRef := "ref"
  prompt := [.text "work"]
  policy := ⟨1000, 1000, 1000, 1024, "controller", ⟨10, "observe_then_cancel"⟩, none⟩
  grants := 1
  resultKind := "result"
  resultCapture := .transcript
  resultContext := .null
  permissionPolicy := .deny
  interruptible := false

/-- The harness accepts the turn and its process exits before it sends anything. -/
def lostHarness : TurnAnswers where
  describe := .ok ()
  arm := .ok ()
  activate _ := .ok ()
  start := .ok ()
  arrivals := [⟨.error (.protocol "plugin stdout closed"), 8, none, none⟩]
  interruption := none
  cancel := .ok ()
  cancelArrivals := []
  markUncertain := .ok ()
  block := .ok ⟨1, "b", sampleManagedMessage, 1, "turn evidence failed", 9⟩
  complete := .error (.conflict "unused")

/-- The delivery of a lost harness is blocked while its grant is still active. -/
theorem grant_outlives_lostHarness :
    ¬ GrantsWithinTurn sampleManagedTurn.grants (runTurn false sampleManagedTurn lostHarness).effects := by
  have htrace : (runTurn false sampleManagedTurn lostHarness).effects =
      .armed :: [] ++ activations 0 1 ++ [.startRequested (startTurnRequest sampleManagedTurn)] ++
        .markedUncertain
          "turn evidence failed: harness protocol failed: plugin protocol error: plugin stdout closed" ::
        [.deliveryBlocked
          "turn evidence failed: harness protocol failed: plugin protocol error: plugin stdout closed",
          .deactivated 0] := by
    decide +kernel
  rw [htrace]
  exact not_grantsWithinTurn_of_block (by decide) (by simp) (by simp)

end Fleetd
