import Fleetd.Ledger.Leases

/-!
# Turns, bindings and invocations agree

The part of the ledger's invariant that is about sessions. A turn in flight belongs to the
binding that names it and to an armed invocation; a quiescent turn belongs to a completed
invocation; an uncertain turn belongs to an invocation whose outcome is not known, and its
binding still names it or has been retired.
-/

namespace Fleetd

open Relational

/-- Whether an invocation ended with a known outcome, its result. -/
def InvocationState.isCompleted : InvocationState → Bool
  | .terminal _ _ .outcomeKnown (.completed _) => true
  | _ => false

/-- How a turn fits the invocation it runs. -/
def TurnFits : TurnState → InvocationState → Prop
  | .active, state => state.isArmed = true
  | .quiescent .., state => state.isCompleted = true
  | .uncertain .., state => state.isArmed = true ∨ state.isOutcomeUnknown = true

/-- How a turn fits the binding it runs under. -/
def TurnBound (t : SessionBindingTurn) (row : SessionBinding) : Prop :=
  match t.state with
  | .active => row.state.isActiveOn t.invocationId = true
  | .quiescent .. => True
  | .uncertain .. => row.state.isUncertainOn t.invocationId = true ∨ row.state.isRetired = true

/-- Turns, bindings and invocations agree. -/
structure SessionsConsistent (l : Ledger) : Prop where
  bindingKeys : KeyUnique SessionBinding.key l.sessionBindings
  turnIds : KeyUnique SessionBindingTurn.invocationId l.sessionBindingTurns
  turnInvocation : ∀ t ∈ l.sessionBindingTurns, t.invocationId ∈ l.invocations.map InvocationRow.id
  turnBinding : ∀ t ∈ l.sessionBindingTurns, t.bindingKey ∈ l.sessionBindings.map SessionBinding.key
  turnFits : ∀ t ∈ l.sessionBindingTurns, ∀ i ∈ l.invocations, i.id = t.invocationId →
    TurnFits t.state i.state
  turnBound : ∀ t ∈ l.sessionBindingTurns, ∀ row ∈ l.sessionBindings, row.key = t.bindingKey →
    TurnBound t row
  turnAgent : ∀ t ∈ l.sessionBindingTurns, ∀ i ∈ l.invocations, ∀ row ∈ l.sessionBindings,
    i.id = t.invocationId → row.key = t.bindingKey → i.agentId = row.agentId
  turnValid : ∀ t ∈ l.sessionBindingTurns,
    validateBinding ⟨t.bindingId, t.bindingGeneration, t.ownerEpoch⟩ = .ok ()
  current : ∀ row ∈ l.sessionBindings, ∀ invocationId,
    row.state.activeInvocationId = some invocationId →
    ∃ t ∈ l.sessionBindingTurns, t.invocationId = invocationId ∧ t.bindingKey = row.key ∧
      t.ownerEpoch = row.ownerEpoch ∧ (row.state.isActive = true → t.state = .active) ∧
      (row.state.isUncertain = true → t.state.isUncertain = true)

/-! ## Readings of the state columns -/

section States

variable {state : SessionBindingState} {invocationId other : String}

theorem SessionBindingState.isActive_of_isActiveOn (h : state.isActiveOn invocationId = true) :
    state.isActive = true := by
  cases state <;> first | rfl | cases h

theorem SessionBindingState.activeInvocationId_of_isActiveOn
    (h : state.isActiveOn invocationId = true) : state.activeInvocationId = some invocationId := by
  cases state <;> simp_all [isActiveOn, activeInvocationId]

theorem SessionBindingState.activeInvocationId_of_isUncertainOn
    (h : state.isUncertainOn invocationId = true) :
    state.activeInvocationId = some invocationId := by
  cases state <;> simp_all [isUncertainOn, activeInvocationId]

theorem SessionBindingState.eq_of_isActiveOn (h : state.isActiveOn invocationId = true)
    (h' : state.isActiveOn other = true) : invocationId = other := by
  have h₁ := activeInvocationId_of_isActiveOn h
  have h₂ := activeInvocationId_of_isActiveOn h'
  exact Option.some.inj (h₁.symm.trans h₂)

theorem SessionBindingState.not_isActiveOn_of_isReady (h : state.isReady = true) :
    state.isActiveOn invocationId = false := by
  cases state <;> first | rfl | cases h

theorem SessionBindingState.not_isUncertainOn_of_isReady (h : state.isReady = true) :
    state.isUncertainOn invocationId = false := by
  cases state <;> first | rfl | cases h

theorem SessionBindingState.not_isRetired_of_isReady (h : state.isReady = true) :
    state.isRetired = false := by
  cases state <;> first | rfl | cases h

theorem SessionBindingState.activeInvocationId_of_isReady (h : state.isReady = true) :
    state.activeInvocationId = none := by
  cases state <;> first | rfl | cases h

theorem SessionBindingState.activeInvocationId_of_isRetired (h : state.isRetired = true) :
    state.activeInvocationId = none := by
  cases state <;> first | rfl | cases h

theorem SessionBindingState.isRetired_of_retiredReason {reason : String}
    (h : state.retiredReason = some reason) : state.isRetired = true := by
  cases state <;> first | rfl | cases h

theorem SessionBindingState.not_isUncertainOn_of_isActive (h : state.isActive = true) :
    state.isUncertainOn invocationId = false := by
  cases state <;> first | rfl | cases h

theorem SessionBindingState.not_isRetired_of_isActive (h : state.isActive = true) :
    state.isRetired = false := by
  cases state <;> first | rfl | cases h

theorem SessionBindingState.sessionRef_toActive (invocationId : String)
    (state : SessionBindingState) :
    (state.toActive invocationId).sessionRef = state.sessionRef := by
  cases state <;> rfl

theorem SessionBindingState.sessionRef_toUncertain (reason : String)
    (state : SessionBindingState) : (state.toUncertain reason).sessionRef = state.sessionRef := by
  cases state <;> rfl

theorem SessionBindingState.sessionRef_toReady (state : SessionBindingState) :
    state.toReady.sessionRef = state.sessionRef := by
  cases state <;> rfl

end States

/-- A turn fits nothing that was merely reserved. -/
theorem not_turnFits_reserved (state : TurnState) : ¬ TurnFits state .reserved := by
  cases state <;> simp [TurnFits, InvocationState.isArmed, InvocationState.isCompleted,
    InvocationState.resultMessageSeq, InvocationState.isOutcomeUnknown]

/-- A quiescent turn fits nothing that is still armed. -/
theorem not_turnFits_quiescent {at_ : Int} {persistence : SessionPersistence}
    {state : InvocationState} (h : state.isArmed = true) :
    ¬ TurnFits (.quiescent at_ persistence) state := by
  intro hfit
  cases state with
  | reserved => cases h
  | dispatchArmed => cases hfit
  | terminal => cases h

/-- Only a quiescent turn may lie under a binding that is idle and current. -/
theorem TurnBound.quiescent {t : SessionBindingTurn} {row row' : SessionBinding}
    (h : TurnBound t row) (hactive : row.state.isActive = false)
    (huncertain : row.state.isUncertain = false) (hretired : row.state.isRetired = false) :
    TurnBound t row' := by
  unfold TurnBound at h ⊢
  cases hs : t.state with
  | active =>
    rw [hs] at h
    rw [SessionBindingState.isActive_of_isActiveOn h] at hactive
    cases hactive
  | quiescent => trivial
  | uncertain =>
    rw [hs] at h
    rcases h with h | h
    · cases hrow : row.state <;> rw [hrow] at h huncertain <;> first | cases h | cases huncertain
    · rw [h] at hretired
      cases hretired

/-! ## What each kind of move preserves -/

section Preservation

variable {l l' : Ledger}

/-- Rows of a binding table in which one row was rewritten under its own key. -/
theorem SessionsConsistent.mem_replaced (h : SessionsConsistent l) {row row' x : SessionBinding}
    (hrow : row ∈ l.sessionBindings) (hx : x ∈ replaceRow row row' l.sessionBindings) :
    x = row' ∨ (x ∈ l.sessionBindings ∧ x.key ≠ row.key) := by
  rcases mem_replaceRow.mp hx with ⟨rfl, _⟩ | ⟨hx, hne⟩
  · exact .inl rfl
  · exact .inr ⟨hx, fun hk => hne (h.bindingKeys.eq hx hrow hk)⟩

/-- Rows of a turn table in which one row was rewritten. -/
theorem SessionsConsistent.mem_turn_replaced (h : SessionsConsistent l)
    {t t' u : SessionBindingTurn} (ht : t ∈ l.sessionBindingTurns)
    (hu : u ∈ replaceRow t t' l.sessionBindingTurns) :
    u = t' ∨ (u ∈ l.sessionBindingTurns ∧ u.invocationId ≠ t.invocationId) := by
  rcases mem_replaceRow.mp hu with ⟨rfl, _⟩ | ⟨hu, hne⟩
  · exact .inl rfl
  · exact .inr ⟨hu, fun hk => hne (h.turnIds.eq hu ht hk)⟩

/-- The turn a binding names is the only turn in flight under it. -/
theorem SessionsConsistent.turn_eq (h : SessionsConsistent l) {row : SessionBinding}
    {t u : SessionBindingTurn} (hrow : row ∈ l.sessionBindings) (ht : t ∈ l.sessionBindingTurns)
    (hu : u ∈ l.sessionBindingTurns) (hactive : row.state.isActiveOn t.invocationId = true)
    (hk : row.key = u.bindingKey) (hrunning : u.state = .active) : u = t := by
  have hbound := h.turnBound u hu row hrow hk
  unfold TurnBound at hbound
  rw [hrunning] at hbound
  exact h.turnIds.eq hu ht (SessionBindingState.eq_of_isActiveOn hbound hactive)

/-- Moves that touch neither sessions nor attempts. -/
theorem SessionsConsistent.congr (h : SessionsConsistent l) (hI : l'.invocations = l.invocations)
    (hS : l'.sessionBindings = l.sessionBindings)
    (hT : l'.sessionBindingTurns = l.sessionBindingTurns) : SessionsConsistent l' := by
  constructor <;> (first | rw [hI] | skip) <;> (first | rw [hS] | skip) <;>
    (first | rw [hT] | skip)
  exacts [h.bindingKeys, h.turnIds, h.turnInvocation, h.turnBinding, h.turnFits, h.turnBound,
    h.turnAgent, h.turnValid, h.current]

/-- Changes of the attempts that keep identifiers and keep every bound turn fitting. -/
theorem SessionsConsistent.invocations (h : SessionsConsistent l) {rows : List InvocationRow}
    (ids : ∀ id ∈ l.invocations.map InvocationRow.id, id ∈ rows.map InvocationRow.id)
    (fits : ∀ j ∈ rows, ∀ t ∈ l.sessionBindingTurns, t.invocationId = j.id →
      ∃ i ∈ l.invocations, i.id = j.id ∧ i.agentId = j.agentId ∧
        (TurnFits t.state i.state → TurnFits t.state j.state)) :
    SessionsConsistent { l with invocations := rows } where
  bindingKeys := h.bindingKeys
  turnIds := h.turnIds
  turnInvocation t ht := ids _ (h.turnInvocation t ht)
  turnBinding := h.turnBinding
  turnFits t ht j hj hid := by
    obtain ⟨i, hi, hij, _, hfit⟩ := fits j hj t ht hid.symm
    exact hfit (h.turnFits t ht i hi (hij.trans hid))
  turnBound := h.turnBound
  turnAgent t ht j hj row hrow hid hk := by
    obtain ⟨i, hi, hij, hagent, _⟩ := fits j hj t ht hid.symm
    exact hagent.symm.trans (h.turnAgent t ht i hi row hrow (hij.trans hid) hk)
  turnValid := h.turnValid
  current := h.current

/-- An update of attempts that keeps what identifies them. -/
theorem SessionsConsistent.updateInvocations (h : SessionsConsistent l)
    {selected : InvocationRow → Bool} {set : InvocationRow → InvocationRow}
    (static : ∀ i, (set i).id = i.id ∧ (set i).agentId = i.agentId)
    (fits : ∀ i ∈ l.invocations, selected i = true → ∀ t ∈ l.sessionBindingTurns,
      t.invocationId = i.id → TurnFits t.state i.state → TurnFits t.state (set i).state) :
    SessionsConsistent { l with invocations := updateWhere selected set l.invocations } := by
  refine h.invocations (fun id hid => ?_) (fun j hj t ht hid => ?_)
  · rw [map_updateWhere fun i _ _ => (static i).1]
    exact hid
  · obtain ⟨i, hi, rfl⟩ := mem_updateWhere.mp hj
    by_cases hs : selected i = true
    · rw [if_pos hs] at hid ⊢
      exact ⟨i, hi, (static i).1.symm, (static i).2.symm,
        fits i hi hs t ht (hid.trans (static i).1)⟩
    · rw [if_neg hs]
      exact ⟨i, hi, rfl, rfl, id⟩

/-- Ending an attempt keeps its identifier and its agent. -/
theorem terminalColumns_static (now : Int) (certainty : ExecutionCertainty)
    (reason : TerminalReason) (i : InvocationRow) :
    (terminalColumns now certainty reason i).id = i.id ∧
      (terminalColumns now certainty reason i).agentId = i.agentId :=
  ⟨rfl, rfl⟩

/-- A rewritten binding that names no invocation afterwards. -/
theorem SessionsConsistent.idleBinding (h : SessionsConsistent l) {row row' : SessionBinding}
    (hrow : row ∈ l.sessionBindings) (hk : row'.key = row.key) (hagent : row'.agentId = row.agentId)
    (hnone : row'.state.activeInvocationId = none)
    (hbound : ∀ t ∈ l.sessionBindingTurns, row.key = t.bindingKey → TurnBound t row →
      TurnBound t row') :
    SessionsConsistent { l with sessionBindings := replaceRow row row' l.sessionBindings } where
  bindingKeys := h.bindingKeys.replaceRow hk
  turnIds := h.turnIds
  turnInvocation := h.turnInvocation
  turnBinding t ht := by
    rw [replaceRow, map_updateWhere fun x _ hx => by rw [of_decide_eq_true hx, hk]]
    exact h.turnBinding t ht
  turnFits := h.turnFits
  turnBound t ht x hx hxk := by
    rcases h.mem_replaced hrow hx with rfl | ⟨hx, _⟩
    · exact hbound t ht (hk.symm.trans hxk) (h.turnBound t ht row hrow (hk.symm.trans hxk))
    · exact h.turnBound t ht x hx hxk
  turnAgent t ht i hi x hx hid hxk := by
    rcases h.mem_replaced hrow hx with rfl | ⟨hx, _⟩
    · rw [hagent]
      exact h.turnAgent t ht i hi row hrow hid (hk.symm.trans hxk)
    · exact h.turnAgent t ht i hi x hx hid hxk
  turnValid := h.turnValid
  current x hx inv hinv := by
    rcases h.mem_replaced hrow hx with rfl | ⟨hx, _⟩
    · rw [hnone] at hinv
      cases hinv
    · exact h.current x hx inv hinv

/-- A new generation. -/
theorem SessionsConsistent.found (h : SessionsConsistent l) {row : SessionBinding}
    (hopening : row.state = .opening) (hnew : ∀ other ∈ l.sessionBindings, other.key ≠ row.key) :
    SessionsConsistent { l with sessionBindings := l.sessionBindings ++ [row] } := by
  have hfree : ∀ t ∈ l.sessionBindingTurns, row.key ≠ t.bindingKey := by
    intro t ht heq
    obtain ⟨other, hother, hok⟩ := List.mem_map.mp (h.turnBinding t ht)
    exact hnew other hother (hok.trans heq.symm)
  refine
    { bindingKeys := h.bindingKeys.append (.singleton _ _) fun x hx y hy => by
        rw [List.mem_singleton.mp hy]
        exact hnew x hx
      turnIds := h.turnIds
      turnInvocation := h.turnInvocation
      turnBinding := fun t ht => by
        rw [List.map_append]
        exact List.mem_append_left _ (h.turnBinding t ht)
      turnFits := h.turnFits
      turnBound := fun t ht x hx hxk => ?_
      turnAgent := fun t ht i hi x hx hid hxk => ?_
      turnValid := h.turnValid
      current := fun x hx inv hinv => ?_ }
  · rcases List.mem_append.mp hx with hx | hx
    · exact h.turnBound t ht x hx hxk
    · rw [List.mem_singleton.mp hx] at hxk
      exact absurd hxk (hfree t ht)
  · rcases List.mem_append.mp hx with hx | hx
    · exact h.turnAgent t ht i hi x hx hid hxk
    · rw [List.mem_singleton.mp hx] at hxk
      exact absurd hxk (hfree t ht)
  · rcases List.mem_append.mp hx with hx | hx
    · exact h.current x hx inv hinv
    · rw [List.mem_singleton.mp hx, hopening] at hinv
      cases hinv

/-- A turn that starts under a ready binding, for an armed invocation. -/
theorem SessionsConsistent.activate (h : SessionsConsistent l) (hl : LeasesConsistent l)
    {row : SessionBinding} {t : SessionBindingTurn} {i : InvocationRow} {now : Int}
    (hrow : row ∈ l.sessionBindings) (hready : row.state.isReady = true)
    (hactive : t.state = .active) (hk : t.bindingKey = row.key)
    (hepoch : t.ownerEpoch = row.ownerEpoch)
    (hvalid : validateBinding ⟨t.bindingId, t.bindingGeneration, t.ownerEpoch⟩ = .ok ())
    (hi : i ∈ l.invocations) (hid : i.id = t.invocationId) (harmed : i.state.isArmed = true)
    (hagent : i.agentId = row.agentId)
    (hnew : ∀ u ∈ l.sessionBindingTurns, u.invocationId ≠ t.invocationId) :
    SessionsConsistent { l with
      sessionBindingTurns := l.sessionBindingTurns ++ [t]
      sessionBindings := replaceRow row (activeColumns t.invocationId now row)
        l.sessionBindings } := by
  obtain ⟨ref, opened, hstate⟩ : ∃ ref opened, row.state = .ready ref opened := by
    cases hs : row.state <;> rw [hs] at hready <;> first | exact ⟨_, _, rfl⟩ | cases hready
  have hstate' : (activeColumns t.invocationId now row).state = .active ref opened t.invocationId := by
    rw [activeColumns, hstate]
    rfl
  have honly : ∀ j ∈ l.invocations, j.id = t.invocationId → j = i := fun j hj hjt =>
    hl.invocationIds.eq hj hi (hjt.trans hid.symm)
  refine
    { bindingKeys := h.bindingKeys.replaceRow rfl
      turnIds := h.turnIds.append (.singleton _ _) fun u hu v hv => by
        rw [List.mem_singleton.mp hv]
        exact hnew u hu
      turnInvocation := fun u hu => ?_
      turnBinding := fun u hu => ?_
      turnFits := fun u hu j hj hju => ?_
      turnBound := fun u hu x hx hxk => ?_
      turnAgent := fun u hu j hj x hx hju hxk => ?_
      turnValid := fun u hu => ?_
      current := fun x hx inv hinv => ?_ }
  · rcases List.mem_append.mp hu with hu | hu
    · exact h.turnInvocation u hu
    · rw [List.mem_singleton.mp hu, ← hid]
      exact List.mem_map_of_mem hi
  · rw [replaceRow, map_updateWhere fun x _ hx => by rw [of_decide_eq_true hx]; rfl]
    rcases List.mem_append.mp hu with hu | hu
    · exact h.turnBinding u hu
    · rw [List.mem_singleton.mp hu, hk]
      exact List.mem_map_of_mem hrow
  · rcases List.mem_append.mp hu with hu | hu
    · exact h.turnFits u hu j hj hju
    · rw [List.mem_singleton.mp hu] at hju ⊢
      rw [honly j hj hju, hactive]
      exact harmed
  · rcases h.mem_replaced hrow hx with rfl | ⟨hx, hne⟩
    · rcases List.mem_append.mp hu with hu | hu
      · exact (h.turnBound u hu row hrow hxk).quiescent (by rw [hstate]; rfl) (by rw [hstate]; rfl)
          (by rw [hstate]; rfl)
      · rw [List.mem_singleton.mp hu]
        unfold TurnBound
        rw [hactive, hstate']
        exact decide_eq_true rfl
    · rcases List.mem_append.mp hu with hu | hu
      · exact h.turnBound u hu x hx hxk
      · rw [List.mem_singleton.mp hu, hk] at hxk
        exact absurd hxk hne
  · rcases List.mem_append.mp hu with hu | hu
    · rcases h.mem_replaced hrow hx with rfl | ⟨hx, _⟩
      · exact h.turnAgent u hu j hj row hrow hju hxk
      · exact h.turnAgent u hu j hj x hx hju hxk
    · rw [List.mem_singleton.mp hu] at hju hxk
      rw [honly j hj hju]
      rcases h.mem_replaced hrow hx with rfl | ⟨hx, hne⟩
      · exact hagent
      · exact absurd (hxk.trans hk) hne
  · rcases List.mem_append.mp hu with hu | hu
    · exact h.turnValid u hu
    · rw [List.mem_singleton.mp hu]
      exact hvalid
  · rcases h.mem_replaced hrow hx with rfl | ⟨hx, _⟩
    · rw [hstate'] at hinv ⊢
      exact ⟨t, by simp, Option.some.inj hinv, hk, hepoch, fun _ => hactive, fun hu => by cases hu⟩
    · obtain ⟨u, hu, hrest⟩ := h.current x hx inv hinv
      exact ⟨u, List.mem_append_left _ hu, hrest⟩

/-- A turn in flight that ends, together with its binding and possibly its attempt. -/
theorem SessionsConsistent.endTurn (h : SessionsConsistent l) {row row' : SessionBinding}
    {t : SessionBindingTurn} {state : TurnState} {rows : List InvocationRow}
    (hrow : row ∈ l.sessionBindings) (ht : t ∈ l.sessionBindingTurns) (hk : t.bindingKey = row.key)
    (hactive : row.state.isActiveOn t.invocationId = true) (hkey : row'.key = row.key)
    (hagent : row'.agentId = row.agentId) (hepoch : row'.ownerEpoch = row.ownerEpoch)
    (hbound : TurnBound { t with state } row')
    (hcurrent : ∀ inv, row'.state.activeInvocationId = some inv → inv = t.invocationId ∧
      row'.state.isActive = false ∧ state.isUncertain = true)
    (ids : ∀ id ∈ l.invocations.map InvocationRow.id, id ∈ rows.map InvocationRow.id)
    (fits : ∀ j ∈ rows, ∀ u ∈ l.sessionBindingTurns, u.invocationId = j.id →
      ∃ i ∈ l.invocations, i.id = j.id ∧ i.agentId = j.agentId ∧
        (u.invocationId ≠ t.invocationId → TurnFits u.state i.state → TurnFits u.state j.state) ∧
        (u.invocationId = t.invocationId → TurnFits t.state i.state → TurnFits state j.state)) :
    SessionsConsistent { l with
      invocations := rows
      sessionBindingTurns := replaceRow t { t with state } l.sessionBindingTurns
      sessionBindings := replaceRow row row' l.sessionBindings } := by
  have hturns : ∀ u ∈ replaceRow t { t with state } l.sessionBindingTurns,
      ∃ v ∈ l.sessionBindingTurns, u = { v with state := u.state } := by
    intro u hu
    rcases h.mem_turn_replaced ht hu with rfl | ⟨hu, _⟩
    · exact ⟨t, ht, rfl⟩
    · exact ⟨u, hu, rfl⟩
  refine
    { bindingKeys := h.bindingKeys.replaceRow hkey
      turnIds := h.turnIds.replaceRow rfl
      turnInvocation := fun u hu => ?_
      turnBinding := fun u hu => ?_
      turnFits := fun u hu j hj hju => ?_
      turnBound := fun u hu x hx hxk => ?_
      turnAgent := fun u hu j hj x hx hju hxk => ?_
      turnValid := fun u hu => ?_
      current := fun x hx inv hinv => ?_ }
  · obtain ⟨v, hv, huv⟩ := hturns u hu
    rw [huv]
    exact ids _ (h.turnInvocation v hv)
  · obtain ⟨v, hv, huv⟩ := hturns u hu
    rw [replaceRow, map_updateWhere fun x _ hx => by rw [of_decide_eq_true hx, hkey], huv]
    exact h.turnBinding v hv
  · rcases h.mem_turn_replaced ht hu with rfl | ⟨hu, hne⟩
    · obtain ⟨i, hi, hij, _, _, hfit⟩ := fits j hj t ht hju.symm
      exact hfit rfl (h.turnFits t ht i hi (hij.trans hju))
    · obtain ⟨i, hi, hij, _, hfit, _⟩ := fits j hj u hu hju.symm
      exact hfit hne (h.turnFits u hu i hi (hij.trans hju))
  · rcases h.mem_replaced hrow hx with rfl | ⟨hx, hne⟩
    · rcases h.mem_turn_replaced ht hu with rfl | ⟨hu, hne⟩
      · exact hbound
      · -- another turn under the same binding is over
        have hur := h.turnBound u hu row hrow (hkey.symm.trans hxk)
        unfold TurnBound at hur ⊢
        cases hs : u.state with
        | active =>
          rw [hs] at hur
          exact absurd (SessionBindingState.eq_of_isActiveOn hur hactive) hne
        | quiescent => trivial
        | uncertain =>
          have hact := SessionBindingState.isActive_of_isActiveOn hactive
          rw [hs] at hur
          rcases hur with hur | hur
          · rw [SessionBindingState.not_isUncertainOn_of_isActive hact] at hur
            cases hur
          · rw [SessionBindingState.not_isRetired_of_isActive hact] at hur
            cases hur
    · rcases h.mem_turn_replaced ht hu with rfl | ⟨hu, _⟩
      · exact absurd (hxk.trans hk) hne
      · exact h.turnBound u hu x hx hxk
  · obtain ⟨v, hv, huv⟩ := hturns u hu
    rw [huv] at hju hxk
    obtain ⟨i, hi, hij, hia, _⟩ := fits j hj v hv hju.symm
    rw [← hia]
    rcases h.mem_replaced hrow hx with rfl | ⟨hx, _⟩
    · rw [hagent]
      exact h.turnAgent v hv i hi row hrow (hij.trans hju) (hkey.symm.trans hxk)
    · exact h.turnAgent v hv i hi x hx (hij.trans hju) hxk
  · obtain ⟨v, hv, huv⟩ := hturns u hu
    rw [huv]
    exact h.turnValid v hv
  · rcases h.mem_replaced hrow hx with rfl | ⟨hx, hne⟩
    · obtain ⟨rfl, hidle, hunc⟩ := hcurrent inv hinv
      refine ⟨{ t with state }, mem_replaceRow.mpr (.inl ⟨rfl, ht⟩), rfl, hk.trans hkey.symm, ?_,
        fun ha => absurd (hidle.symm.trans ha) (by decide), fun _ => hunc⟩
      -- the turn that was in flight carried the epoch of its binding
      obtain ⟨v, hv, hvt, _, hve, _⟩ := h.current row hrow t.invocationId
        (SessionBindingState.activeInvocationId_of_isActiveOn hactive)
      rw [h.turnIds.eq hv ht hvt] at hve
      exact hve.trans hepoch.symm
    · obtain ⟨u, hu, hui, huk, hrest⟩ := h.current x hx inv hinv
      have hut : u ≠ t := fun hut => hne (by rw [← huk, hut, hk])
      exact ⟨u, mem_replaceRow.mpr (.inr ⟨hu, hut⟩), hui, huk, hrest⟩

end Preservation

end Fleetd
