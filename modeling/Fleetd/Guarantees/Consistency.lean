import Fleetd.System.Reachable

/-!
# The tables agree in every reachable state

What the ledger's invariant says about the five tables, row by row, in the terms a reader of
the database would use.
-/

namespace Fleetd

open Relational

variable {Json : Type}

/-- An invocation that has not ended holds the lease of its delivery. -/
def HoldsItsLease (l : Ledger) (i : InvocationRow) : Prop :=
  ∃ d, l.agentDeliveries.filter (fun d => d.key = i.deliveryKey) = [d] ∧
    d.state = .leased i.leaseToken i.leaseExpiresAtMs ∧ d.attempt = i.deliveryAttempt

/-- The unresolved blocks of a delivery. -/
def unresolvedBlocks (l : Ledger) (key : Nat × String) : List DeliveryBlock :=
  l.deliveryBlocks.filter fun b => b.deliveryKey = key ∧ b.resolved = none

/-- The turns in flight of a binding generation. -/
def activeTurns (l : Ledger) (key : String × Nat) : List SessionBindingTurn :=
  l.sessionBindingTurns.filter fun t => t.bindingKey = key ∧ t.state = .active

/-- The five tables agree. -/
structure TablesAgree (l : Ledger) : Prop where
  open_leased : ∀ i ∈ l.invocations, i.state.isTerminal = false → HoldsItsLease l i
  open_unique : ∀ i ∈ l.invocations, ∀ j ∈ l.invocations, i.deliveryKey = j.deliveryKey →
    i.state.isTerminal = false → j.state.isTerminal = false → i = j
  blocked_iff : ∀ d ∈ l.agentDeliveries,
    d.state = .blocked ↔ ∃ b, unresolvedBlocks l d.key = [b] ∧ b.attempt = d.attempt
  not_blocked : ∀ d ∈ l.agentDeliveries, d.state ≠ .blocked → unresolvedBlocks l d.key = []
  active_iff : ∀ row ∈ l.sessionBindings, row.state.isActive = true ↔
    ∃ t, activeTurns l row.key = [t] ∧ row.state.activeInvocationId = some t.invocationId ∧
      t.ownerEpoch = row.ownerEpoch ∧
      ∃ i ∈ l.invocations, i.id = t.invocationId ∧ i.state.isArmed = true
  uncertain : ∀ row ∈ l.sessionBindings, row.state.isUncertain = true →
    ∃ t ∈ l.sessionBindingTurns, row.state.activeInvocationId = some t.invocationId ∧
      t.bindingKey = row.key ∧ t.state.isUncertain = true ∧
      ∃ i ∈ l.invocations, i.id = t.invocationId ∧
        (i.state.isArmed = true ∨ i.state.isOutcomeUnknown = true)
  quiescent : ∀ t ∈ l.sessionBindingTurns, ∀ at_ persistence,
    t.state = .quiescent at_ persistence →
    ∃ i ∈ l.invocations, i.id = t.invocationId ∧ ∃ armedAt terminalAt resultSeq,
      i.state = .terminal armedAt terminalAt .outcomeKnown (.completed resultSeq)

section Ledger

variable {l : Ledger}

/-- The row of a delivery is found by its key. -/
theorem LeasesConsistent.filter_delivery (h : LeasesConsistent l) {d : AgentDelivery}
    (hd : d ∈ l.agentDeliveries) {key : Nat × String} (hk : d.key = key) :
    l.agentDeliveries.filter (fun e => e.key = key) = [d] :=
  h.deliveryKeys.filter_eq_singleton hd (by simp [hk]) fun e _ he => by
    rw [of_decide_eq_true he, hk]

/-- A parked delivery has one unresolved block, about its current attempt. -/
theorem LeasesConsistent.unresolved_of_blocked (h : LeasesConsistent l) {d : AgentDelivery}
    (hd : d ∈ l.agentDeliveries) (hs : d.state = .blocked) :
    ∃ b, unresolvedBlocks l d.key = [b] ∧ b.attempt = d.attempt := by
  obtain ⟨b, hb, hk, hn⟩ := h.blocked d hd hs
  refine ⟨b, ?_, ((h.blockFits d hd b hb hk).parked hn).2.symm⟩
  refine h.blockIds.filter_eq_singleton hb (by simp [hk, hn]) fun c hcb hc => ?_
  rw [decide_eq_true_eq] at hc
  rw [h.openBlocks c hcb b hb (hc.1.trans hk.symm) hc.2 hn]

/-- An unresolved block is about a parked delivery. -/
theorem LeasesConsistent.blocked_of_unresolved (h : LeasesConsistent l) {d : AgentDelivery}
    (hd : d ∈ l.agentDeliveries) {b : DeliveryBlock} (hb : b ∈ unresolvedBlocks l d.key) :
    d.state = .blocked := by
  rw [unresolvedBlocks, List.mem_filter, decide_eq_true_eq] at hb
  exact ((h.blockFits d hd b hb.1 hb.2.1).parked hb.2.2).1

/-- An active binding has one turn in flight, the one it names. -/
theorem Consistent.activeTurns_of_isActive (h : Consistent l) {row : SessionBinding}
    (hrow : row ∈ l.sessionBindings) (hactive : row.state.isActive = true) :
    ∃ t, activeTurns l row.key = [t] ∧ row.state.activeInvocationId = some t.invocationId ∧
      t.ownerEpoch = row.ownerEpoch ∧
      ∃ i ∈ l.invocations, i.id = t.invocationId ∧ i.state.isArmed = true := by
  obtain ⟨ref, opened, inv, hstate⟩ : ∃ ref opened inv, row.state = .active ref opened inv := by
    cases hs : row.state <;> rw [hs] at hactive <;> first | cases hactive | skip
    exact ⟨_, _, _, rfl⟩
  have hnames : row.state.activeInvocationId = some inv := by rw [hstate]; rfl
  obtain ⟨t, ht, hid, hkey, hepoch, hrun, _⟩ := h.current row hrow inv hnames
  have hon : row.state.isActiveOn t.invocationId = true := by
    rw [hstate, hid]
    simp [SessionBindingState.isActiveOn]
  refine ⟨t, ?_, by rw [hid]; exact hnames, hepoch, ?_⟩
  · refine h.turnIds.filter_eq_singleton ht (by simp [hkey, hrun hactive]) fun u hu hsel => ?_
    rw [decide_eq_true_eq] at hsel
    rw [h.turn_eq hrow ht hu hon hsel.1.symm hsel.2]
  · obtain ⟨i, hi, hii⟩ := List.mem_map.mp (h.turnInvocation t ht)
    have hfit := h.turnFits t ht i hi hii
    rw [hrun hactive] at hfit
    exact ⟨i, hi, hii, hfit⟩

/-- A binding with a turn in flight is active. -/
theorem Consistent.isActive_of_activeTurn (h : Consistent l) {row : SessionBinding}
    (hrow : row ∈ l.sessionBindings) {t : SessionBindingTurn} (ht : t ∈ activeTurns l row.key) :
    row.state.isActive = true := by
  rw [activeTurns, List.mem_filter, decide_eq_true_eq] at ht
  have hbound := h.turnBound t ht.1 row hrow ht.2.1.symm
  unfold TurnBound at hbound
  rw [ht.2.2] at hbound
  exact SessionBindingState.isActive_of_isActiveOn hbound

/-- A consistent ledger's tables agree. -/
theorem Consistent.tablesAgree (h : Consistent l) : TablesAgree l where
  open_leased i hi ho := by
    obtain ⟨d, hd, hk⟩ := h.exists_delivery hi
    obtain ⟨hs, ha⟩ := (h.leaseFits d hd i hi hk.symm).held ho
    exact ⟨d, h.filter_delivery hd hk, hs, ha⟩
  open_unique i hi j hj hk hio hjo := h.open_unique hi hj hk hio hjo
  blocked_iff d hd := by
    refine ⟨h.unresolved_of_blocked hd, ?_⟩
    rintro ⟨b, hb, _⟩
    exact h.blocked_of_unresolved hd (b := b) (by rw [hb]; exact List.mem_singleton_self b)
  not_blocked d hd hs := by
    refine List.eq_nil_iff_forall_not_mem.mpr fun b hb => hs ?_
    exact h.blocked_of_unresolved hd hb
  active_iff row hrow := by
    refine ⟨h.activeTurns_of_isActive hrow, ?_⟩
    rintro ⟨t, ht, _⟩
    exact h.isActive_of_activeTurn hrow (t := t) (by rw [ht]; exact List.mem_singleton_self t)
  uncertain row hrow hunc := by
    obtain ⟨inv, hnames⟩ : ∃ inv, row.state.activeInvocationId = some inv := by
      cases hs : row.state <;> rw [hs] at hunc <;> first | cases hunc | skip
      exact ⟨_, rfl⟩
    obtain ⟨t, ht, hid, hkey, _, _, hturn⟩ := h.current row hrow inv hnames
    obtain ⟨i, hi, hii⟩ := List.mem_map.mp (h.turnInvocation t ht)
    refine ⟨t, ht, by rw [hid]; exact hnames, hkey, hturn hunc, i, hi, hii, ?_⟩
    have hfit := h.turnFits t ht i hi hii
    have htu := hturn hunc
    cases hs : t.state with
    | active => rw [hs] at htu; cases htu
    | quiescent => rw [hs] at htu; cases htu
    | uncertain => rw [hs] at hfit; exact hfit
  quiescent t ht at_ persistence hs := by
    obtain ⟨i, hi, hii⟩ := List.mem_map.mp (h.turnInvocation t ht)
    have hfit := h.turnFits t ht i hi hii
    rw [hs] at hfit
    refine ⟨i, hi, hii, ?_⟩
    cases hstate : i.state with
    | reserved => rw [hstate] at hfit; cases hfit
    | dispatchArmed => rw [hstate] at hfit; cases hfit
    | terminal armedAt terminalAt certainty reason =>
      rw [hstate] at hfit
      cases certainty with
      | outcomeKnown =>
        cases reason with
        | completed seq => exact ⟨armedAt, terminalAt, seq, rfl⟩
        | _ => cases hfit
      | _ => cases hfit

end Ledger

/-- In every state that a run with fresh lease tokens reaches, the five tables agree. -/
theorem run_tablesAgree [DecidableEq Json] [SerdeJson Json] [Sha256] {cs : List (Command Json)}
    (h : Fresh cs) : TablesAgree (run cs).toLedger :=
  (run_invariant h).ledger.tablesAgree

/-- The sample run with an invocation armed under its session. -/
theorem run_tablesAgree_sampleArmed : Fresh sampleArmed ∧ TablesAgree (run sampleArmed).toLedger :=
  ⟨by decide, run_tablesAgree (by decide)⟩

end Fleetd
