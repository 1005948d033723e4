import Fleetd.Refinement.Statements

/-!
# Settlements are moves

Acknowledging, releasing and blocking a delivery. Each call either finds its leased row,
and then settles it together with the open attempt, or leaves the database as it was.
-/

namespace Fleetd

open Relational Relational.Transaction

variable {Json : Type} {s t : Store}

/-- The open attempt of a lease is the open attempt at its delivery. -/
theorem openInvocation_eq_openFor (hc : Consistent s.toLedger) {d : AgentDelivery}
    {agentId messageId leaseToken : String} {leaseExpiresAtMs : Int}
    (hd : d ∈ s.agentDeliveries) (hseq : seqOfMessageId s.messages messageId = some d.messageSeq)
    (hagent : d.agentId = agentId) (hleased : d.state = .leased leaseToken leaseExpiresAtMs)
    {i : InvocationRow} (hi : i ∈ s.invocations) :
    openInvocation agentId messageId leaseToken s.messages i = openFor d.key i := by
  rw [Bool.eq_iff_iff]
  simp only [openInvocation, openFor, Bool.and_eq_true, decide_eq_true_eq, Bool.not_eq_true']
  constructor
  · rintro ⟨⟨⟨ha, hs⟩, _⟩, ho⟩
    exact ⟨Prod.ext (Option.some.inj (hs.symm.trans hseq)) (ha.trans hagent.symm), ho⟩
  · rintro ⟨hk, ho⟩
    obtain ⟨hks, hka⟩ : i.messageSeq = d.messageSeq ∧ i.agentId = d.agentId := Prod.ext_iff.mp hk
    have hheld := ((hc.leaseFits d hd i hi hk).held ho).1
    rw [hleased, DeliveryState.leased.injEq] at hheld
    exact ⟨⟨⟨hka.trans hagent, by rw [hseq, hks]⟩, hheld.1.symm⟩, ho⟩

section Turns

variable {l : Ledger} (hc : Consistent l) (hI : s.invocations = l.invocations)
  (hT : s.sessionBindingTurns = l.sessionBindingTurns)
  {agentId messageId leaseToken : String}

include hc hI hT

/-- The turn of an open attempt is the one that settlement looks at. -/
theorem boundTurnState_of_turn {i : InvocationRow} (hi : i ∈ s.invocations)
    (ho : openInvocation agentId messageId leaseToken s.messages i = true)
    {turn : SessionBindingTurn} (hturn : turn ∈ s.sessionBindingTurns)
    (hid : turn.invocationId = i.id) :
    boundTurnState agentId messageId leaseToken s = some turn.state := by
  have hfind : turnOf i.id s.sessionBindingTurns = some turn :=
    (hT ▸ hc.turnIds).find?_eq_some hturn (by simp [hid]) fun u _ hu => by
      rw [decide_eq_true_eq] at hu
      rw [hu, hid]
  have hall : ∀ j ∈ s.invocations.filter (openInvocation agentId messageId leaseToken s.messages),
      j = i := by
    intro j hj
    obtain ⟨hj, hjo⟩ := List.mem_filter.mp hj
    simp only [openInvocation, Bool.and_eq_true, decide_eq_true_eq, Bool.not_eq_true'] at hjo ho
    refine hc.open_unique (hI ▸ hj) (hI ▸ hi) (Prod.ext ?_ (hjo.1.1.1.trans ho.1.1.1.symm)) hjo.2
      ho.2
    exact Option.some.inj (hjo.1.1.2.symm.trans ho.1.1.2)
  have hmem : i ∈ s.invocations.filter (openInvocation agentId messageId leaseToken s.messages) :=
    List.mem_filter.mpr ⟨hi, ho⟩
  unfold boundTurnState
  cases hl : s.invocations.filter (openInvocation agentId messageId leaseToken s.messages) with
  | nil => rw [hl] at hmem; cases hmem
  | cons j rest =>
    rw [hl] at hall
    rw [hall j (List.mem_cons_self ..)]
    simp [hfind]

/-- A lease may be settled when no turn in flight, and no uncertain one unless allowed, is
bound to its open attempt. -/
theorem ensureBoundTurn_ok {allow : Bool} {u : Unit}
    (h : ensureBoundTurnAllowsDeliverySettlement agentId messageId leaseToken allow s = .ok (u, t)) :
    s = t ∧ ∀ i ∈ s.invocations, openInvocation agentId messageId leaseToken s.messages i = true →
      ∀ turn ∈ s.sessionBindingTurns, turn.invocationId = i.id →
        turn.state.isUncertain = true ∧ allow = true := by
  simp only [ensureBoundTurnAllowsDeliverySettlement, bind_ok, read_ok] at h
  obtain ⟨state, _, ⟨hstate, rfl⟩, h⟩ := h
  have hbound := @boundTurnState_of_turn s l hc hI hT agentId messageId leaseToken
  -- a quiescent turn belongs to a completed attempt, which is not open
  have hquiet : ∀ i ∈ s.invocations, openInvocation agentId messageId leaseToken s.messages i = true →
      ∀ turn ∈ s.sessionBindingTurns, turn.invocationId = i.id → ∀ at_ persistence,
        turn.state ≠ .quiescent at_ persistence := by
    intro i hi ho turn hturn hid at_ persistence hq
    have hfit := hc.turnFits turn (hT ▸ hturn) i (hI ▸ hi) hid.symm
    rw [hq] at hfit
    simp only [openInvocation, Bool.and_eq_true, Bool.not_eq_true'] at ho
    cases hst : i.state <;> rw [hst] at hfit ho <;> first | cases hfit | cases ho.2
  cases state with
  | none =>
    rw [pure_ok] at h
    refine ⟨h.2, fun i hi ho turn hturn hid => ?_⟩
    rw [hbound hi ho hturn hid] at hstate
    cases hstate
  | some state =>
    cases state with
    | active => simp only [fail_ok] at h
    | quiescent at_ persistence =>
      rw [pure_ok] at h
      refine ⟨h.2, fun i hi ho turn hturn hid => ?_⟩
      rw [hbound hi ho hturn hid] at hstate
      exact absurd (Option.some.inj hstate) (hquiet i hi ho turn hturn hid _ _)
    | uncertain at_ reason =>
      rw [ensure_ok] at h
      refine ⟨h.2, fun i hi ho turn hturn hid => ?_⟩
      rw [hbound hi ho hturn hid] at hstate
      exact ⟨by rw [Option.some.inj hstate]; rfl, h.1⟩

/-- Ending the open attempt of a lease. -/
theorem terminalizeInvocation_ok {certainty : ExecutionCertainty} {reason : TerminalReason}
    {now : Int} {u : Unit}
    (h : terminalizeInvocation agentId messageId leaseToken certainty reason now s = .ok (u, t)) :
    (t = { s with
      invocations := updateWhere (openInvocation agentId messageId leaseToken s.messages)
        (terminalColumns now certainty reason) s.invocations }) ∧
    ∀ i ∈ s.invocations, openInvocation agentId messageId leaseToken s.messages i = true →
      ∀ turn ∈ s.sessionBindingTurns, turn.invocationId = i.id →
        turn.state.isUncertain = true ∧ certainty = .outcomeUnknown ∧ reason = .blocked := by
  simp only [terminalizeInvocation, bind_ok, write_ok, Prod.mk.injEq] at h
  obtain ⟨_, _, hens, _, rfl⟩ := h
  obtain ⟨rfl, hturns⟩ := ensureBoundTurn_ok hc hI hT hens
  refine ⟨rfl, fun i hi ho turn hturn hid => ?_⟩
  obtain ⟨hunc, hallow⟩ := hturns i hi ho turn hturn hid
  rw [Bool.and_eq_true, decide_eq_true_eq, decide_eq_true_eq] at hallow
  exact ⟨hunc, hallow⟩

end Turns

/-- A delivery that a caller's token currently leases. -/
structure HoldsLease (s : Store) (agentId messageId leaseToken : String) (d : AgentDelivery) :
    Prop where
  row : d ∈ s.agentDeliveries
  message : seqOfMessageId s.messages messageId = some d.messageSeq
  agent : d.agentId = agentId
  token : d.state.leaseToken = some leaseToken

/-- A row selected by message identifier is a lease the caller holds. -/
theorem holdsLease_of_selects {agentId messageId leaseToken : String} {window : LeaseWindow}
    {now : Int} {d : AgentDelivery} (hd : d ∈ s.agentDeliveries)
    (h : LeasedRow.selects ⟨.messageId messageId, agentId, leaseToken, window, now⟩ s.messages d =
      true) : HoldsLease s agentId messageId leaseToken d := by
  obtain ⟨hk, ha, expiry, hs, _⟩ := LeasedRow.selects_iff.mp h
  simp only [DeliveryKey.predicate, decide_eq_true_eq] at hk
  exact ⟨hd, hk, ha, by rw [hs]; rfl⟩

/-- The attempts that a settlement of a held lease ends are the open ones at its delivery. -/
theorem HoldsLease.openInvocation_eq (hc : Consistent s.toLedger)
    {agentId messageId leaseToken : String} {d : AgentDelivery}
    (hd : HoldsLease s agentId messageId leaseToken d) {i : InvocationRow}
    (hi : i ∈ s.invocations) :
    openInvocation agentId messageId leaseToken s.messages i = openFor d.key i := by
  obtain ⟨expiry, hs⟩ : ∃ expiry, d.state = .leased leaseToken expiry := by
    have htok := hd.token
    cases hs : d.state <;> rw [hs] at htok <;> cases htok
    exact ⟨_, rfl⟩
  exact openInvocation_eq_openFor hc hd.row hd.message hd.agent hs hi

/-- The database after a held lease was settled with its open attempt. -/
def settledStore (s : Store) (d d' : AgentDelivery) (now : Int) (certainty : ExecutionCertainty)
    (reason : TerminalReason) : Store :=
  { s with
    agentDeliveries := replaceRow d d' s.agentDeliveries
    invocations := updateWhere (openFor d.key) (terminalColumns now certainty reason)
      s.invocations }

/-- Ending the open attempt of a held lease, whatever was already written to the rows of its
delivery and its blocks. -/
theorem terminalize_after_update (hc : Consistent s.toLedger) {mid : Store}
    {agentId messageId leaseToken : String} {d : AgentDelivery} {certainty : ExecutionCertainty}
    {reason : TerminalReason} {now : Int} {u : Unit}
    (h : terminalizeInvocation agentId messageId leaseToken certainty reason now mid = .ok (u, t))
    (hd : HoldsLease s agentId messageId leaseToken d) (hI : mid.invocations = s.invocations)
    (hM : mid.messages = s.messages) (hT : mid.sessionBindingTurns = s.sessionBindingTurns) :
    (t = { mid with
      invocations := updateWhere (openFor d.key) (terminalColumns now certainty reason)
        s.invocations }) ∧
      ∀ i ∈ s.invocations, openFor d.key i = true → ∀ turn ∈ s.sessionBindingTurns,
        turn.invocationId = i.id →
        turn.state.isUncertain = true ∧ certainty = .outcomeUnknown ∧ reason = .blocked := by
  obtain ⟨rfl, hturns⟩ := terminalizeInvocation_ok hc hI hT h
  have hsel : updateWhere (openInvocation agentId messageId leaseToken s.messages)
      (terminalColumns now certainty reason) s.invocations =
      updateWhere (openFor d.key) (terminalColumns now certainty reason) s.invocations :=
    updateWhere_congr (fun i hi => hd.openInvocation_eq hc hi) fun _ _ _ => rfl
  rw [hI, hM, hT] at hturns
  refine ⟨?_, fun i hi ho => hturns i hi ((hd.openInvocation_eq hc hi).trans ho)⟩
  rw [hI, hM, ← hsel]

/-! ## Acknowledgement -/

/-- An acknowledgement leaves the database alone or settles the lease the caller holds. -/
theorem acknowledgeDelivery_ok (hc : Consistent s.toLedger) {agentId messageId leaseToken : String}
    {now : Int} {u : Unit}
    (h : acknowledgeDelivery agentId messageId leaseToken now s = .ok (u, t)) :
    t = s ∨ ∃ d, HoldsLease s agentId messageId leaseToken d ∧
      (∀ i ∈ s.invocations, openFor d.key i = true →
        ∀ turn ∈ s.sessionBindingTurns, turn.invocationId ≠ i.id) ∧
      t = settledStore s d (acknowledgedColumns leaseToken now d) now .outcomeKnown
        .acknowledged := by
  simp only [acknowledgeDelivery, bind_ok, check_ok, read_ok] at h
  obtain ⟨_, _, ⟨_, rfl⟩, _, _, ⟨rfl, rfl⟩, moved, s₁, hmark, h⟩ := h
  cases moved with
  | false =>
    simp only [Bool.false_eq_true, if_false, bind_ok, rollback_ok] at h
    obtain ⟨_, _, rfl, hmiss⟩ := h
    exact .inl (settleMiss_ok hmiss).symm
  | true =>
    rw [if_pos rfl] at h
    obtain ⟨d, hd, hsel, rfl⟩ := LeasedRow.update_true hmark
    have hholds := holdsLease_of_selects hd hsel
    obtain ⟨rfl, hturns⟩ := terminalize_after_update hc h hholds rfl rfl rfl
    refine .inr ⟨d, hholds, fun i hi ho turn hturn hid => ?_, rfl⟩
    have hcontra := (hturns i hi ho turn hturn hid).2.1
    cases hcontra

/-! ## Release -/

/-- A safe retry finds no armed attempt under the lease. -/
theorem ensureRetryIsSafe_ok (hc : Consistent s.toLedger) {agentId messageId leaseToken : String}
    {u : Unit} (h : ensureRetryIsSafe agentId messageId leaseToken s = .ok (u, t)) :
    s = t ∧ ∀ i ∈ s.invocations,
      openInvocation agentId messageId leaseToken s.messages i = true → i.state.isArmed = false := by
  simp only [ensureRetryIsSafe, bind_ok, read_ok] at h
  obtain ⟨state, _, ⟨hstate, rfl⟩, h⟩ := h
  -- the open attempt of a lease is unique, so the lookup finds it
  have hfind : ∀ i ∈ s.invocations,
      openInvocation agentId messageId leaseToken s.messages i = true → state = some i.state := by
    intro i hi ho
    rw [← hstate, hc.invocationIds.find?_eq_some hi ho fun j hj hjo => ?_]
    · rfl
    · simp only [openInvocation, Bool.and_eq_true, decide_eq_true_eq, Bool.not_eq_true'] at hjo ho
      have hseq := Option.some.inj (hjo.1.1.2.symm.trans ho.1.1.2)
      rw [hc.open_unique hj hi (Prod.ext hseq (hjo.1.1.1.trans ho.1.1.1.symm)) hjo.2 ho.2]
  cases state with
  | none =>
    rw [pure_ok] at h
    exact ⟨h.2, fun i hi ho => by cases hfind i hi ho⟩
  | some state =>
    cases state with
    | dispatchArmed at_ => simp only [fail_ok] at h
    | reserved =>
      rw [pure_ok] at h
      exact ⟨h.2, fun i hi ho => by rw [← Option.some.inj (hfind i hi ho)]; rfl⟩
    | terminal =>
      rw [pure_ok] at h
      exact ⟨h.2, fun i hi ho => by rw [← Option.some.inj (hfind i hi ho)]; rfl⟩

/-- An armed attempt is an open one. -/
theorem isTerminal_of_isArmed {state : InvocationState} (h : state.isArmed = true) :
    state.isTerminal = false := by
  cases state <;> first | rfl | cases h

/-- A release leaves the database alone or settles the lease the caller holds, whose attempt
was never armed. -/
theorem retryDelivery_ok (hc : Consistent s.toLedger) {agentId messageId : String}
    {input : RetryDelivery} {now : Int} {u : Unit}
    (h : retryDelivery agentId messageId input now s = .ok (u, t)) :
    t = s ∨ ∃ d availableAtMs, HoldsLease s agentId messageId input.leaseToken d ∧
      (∀ i ∈ s.invocations, i.deliveryKey = d.key → i.state.isArmed = false) ∧
      (∀ i ∈ s.invocations, openFor d.key i = true →
        ∀ turn ∈ s.sessionBindingTurns, turn.invocationId ≠ i.id) ∧
      t = settledStore s d (retryColumns input availableAtMs d) now .notStarted .retry := by
  simp only [retryDelivery, bind_ok, check_ok, read_ok] at h
  obtain ⟨_, _, ⟨_, rfl⟩, _, _, ⟨_, rfl⟩, availableAtMs, _, ⟨_, rfl⟩, _, _, ⟨rfl, rfl⟩, _, _,
    hens, moved, s₁, hmark, h⟩ := h
  obtain ⟨rfl, hsafe⟩ := ensureRetryIsSafe_ok hc hens
  cases moved with
  | false =>
    simp only [Bool.false_eq_true, if_false, bind_ok, rollback_ok] at h
    obtain ⟨_, _, rfl, hmiss⟩ := h
    exact .inl (settleMiss_ok hmiss).symm
  | true =>
    rw [if_pos rfl] at h
    obtain ⟨d, hd, hsel, rfl⟩ := LeasedRow.update_true hmark
    have hholds := holdsLease_of_selects hd hsel
    obtain ⟨rfl, hturns⟩ := terminalize_after_update hc h hholds rfl rfl rfl
    refine .inr ⟨d, availableAtMs, hholds, fun i hi hk => ?_, fun i hi ho turn hturn hid => ?_, rfl⟩
    · by_contra harmed
      rw [Bool.not_eq_false] at harmed
      have ho : openFor d.key i = true := by simp [openFor, hk, isTerminal_of_isArmed harmed]
      rw [hsafe i hi ((hholds.openInvocation_eq hc hi).trans ho)] at harmed
      cases harmed
    · have hcontra := (hturns i hi ho turn hturn hid).2.1
      cases hcontra

/-! ## Blocking -/

/-- The database after a delivery was parked with its evidence and its open attempt. -/
def parkedStore (s : Store) (d d' : AgentDelivery) (b : DeliveryBlock) (now : Int)
    (reason : TerminalReason) : Store :=
  { s with
    agentDeliveries := replaceRow d d' s.agentDeliveries
    deliveryBlocks := s.deliveryBlocks ++ [b]
    deliveryBlockSequence := s.deliveryBlockSequence + 1
    invocations := updateWhere (openFor d.key) (terminalColumns now .outcomeUnknown reason)
      s.invocations }

/-- The evidence recorded for a parked delivery. -/
def blockEvidence (s : Store) (d : AgentDelivery) (leaseToken reason : String) (now : Int) :
    DeliveryBlock where
  id := s.deliveryBlockSequence + 1
  messageSeq := d.messageSeq
  agentId := d.agentId
  attempt := d.attempt
  leaseToken := leaseToken
  reason := reason
  blockedAtMs := now
  resolved := none

/-- Evidence is recorded about the row that was just parked. -/
theorem insertBlockRecord_ok (hc : Consistent s.toLedger) {agentId messageId : String}
    {input : BlockDelivery} {now : Int} {d d' : AgentDelivery} {blockId : Nat}
    (h : insertBlockRecord agentId messageId input now
      { s with agentDeliveries := replaceRow d d' s.agentDeliveries } = .ok (blockId, t))
    (hd : HoldsLease s agentId messageId input.leaseToken d) (hk : d'.key = d.key)
    (ha : d'.attempt = d.attempt) :
    t = { s with
      agentDeliveries := replaceRow d d' s.agentDeliveries
      deliveryBlockSequence := s.deliveryBlockSequence + 1
      deliveryBlocks :=
        s.deliveryBlocks ++ [blockEvidence s d input.leaseToken input.reason now] } := by
  simp only [insertBlockRecord, bind_ok, read_ok] at h
  obtain ⟨rows, _, ⟨hrows, rfl⟩, h⟩ := h
  rcases rows with _ | ⟨e, _ | _⟩
  · simp only [fail_ok] at h
  · have he : e ∈ [e] := List.mem_singleton_self e
    rw [← hrows, List.mem_filter, decide_eq_true_eq] at he
    obtain ⟨he, hea, hes, _⟩ := he
    have hek : e.key = d.key :=
      Prod.ext (Option.some.inj (hes.symm.trans hd.message)) (hea.trans hd.agent.symm)
    have hed : e = d' := by
      rcases mem_replaceRow.mp he with ⟨rfl, _⟩ | ⟨he, hne⟩
      · rfl
      · exact absurd (hc.delivery_eq he hd.row hek) hne
    rw [recordBlock_ok h, hed]
    obtain ⟨hks, hka⟩ : d'.messageSeq = d.messageSeq ∧ d'.agentId = d.agentId := Prod.ext_iff.mp hk
    rw [hks, hka, ha, blockEvidence]
  · simp only [fail_ok] at h

/-- A block leaves the database alone or parks the lease the caller holds. -/
theorem blockDelivery_ok [SerdeJson Json] (hc : Consistent s.toLedger) {agentId messageId : String}
    {input : BlockDelivery} {now : Int} {result : BlockedDelivery Json × Bool}
    (h : blockDelivery agentId messageId input now s = .ok (result, t)) :
    t = s ∨ ∃ d, HoldsLease s agentId messageId input.leaseToken d ∧
      (∀ i ∈ s.invocations, openFor d.key i = true → ∀ turn ∈ s.sessionBindingTurns,
        turn.invocationId = i.id → turn.state.isUncertain = true) ∧
      t = parkedStore s d (blockedColumns input.leaseToken input.reason d)
        (blockEvidence s d input.leaseToken input.reason now) now .blocked := by
  simp only [blockDelivery, bind_ok, check_ok, read_ok] at h
  obtain ⟨_, _, ⟨_, rfl⟩, _, _, ⟨rfl, rfl⟩, moved, s₁, hmark, h⟩ := h
  cases moved with
  | false =>
    simp only [Bool.false_eq_true, if_false, bind_ok] at h
    obtain ⟨hs₁, _⟩ := LeasedRow.update_false hc.deliveryKeys hmark
    obtain ⟨existing, _, hexisting, h⟩ := h
    obtain rfl := blockedDeliveryByLease_ok hexisting
    cases existing with
    | none =>
      simp only [bind_ok, fail_ok] at h
      obtain ⟨_, _, _, _, _, _, hfalse⟩ := h
      exact hfalse.elim
    | some pair =>
      simp only [bind_ok, ensure_ok, pure_ok] at h
      obtain ⟨_, _, ⟨_, rfl⟩, _, rfl⟩ := h
      exact .inl hs₁
  | true =>
    simp only [if_pos, bind_ok, pure_ok] at h
    obtain ⟨d, hd, hsel, rfl⟩ := LeasedRow.update_true hmark
    have hholds := holdsLease_of_selects hd hsel
    obtain ⟨_, _, hinsert, _, _, hterm, _, _, hread, _, rfl⟩ := h
    obtain rfl := insertBlockRecord_ok hc hinsert hholds rfl rfl
    obtain rfl := blockedDeliveryById_ok hread
    obtain ⟨rfl, hturns⟩ := terminalize_after_update hc hterm hholds rfl rfl rfl
    exact .inr ⟨d, hholds, fun i hi ho turn hturn hid => (hturns i hi ho turn hturn hid).1, rfl⟩

/-! ## Operator resolution -/

/-- The database after a block was resolved. -/
def resolvedStore (s : Store) (b : DeliveryBlock) (d : AgentDelivery)
    (input : ResolveDeliveryBlock) (availableAtMs now : Int) : Store :=
  { s with
    agentDeliveries := replaceRow d (resolvedColumns input availableAtMs d) s.agentDeliveries
    deliveryBlocks := replaceRow b (b.resolve input now) s.deliveryBlocks }

/-- A decision about a delivery moves it where it says. -/
theorem resolvedColumns_state (input : ResolveDeliveryBlock) (availableAtMs : Int)
    (d : AgentDelivery) :
    (resolvedColumns input availableAtMs d).state = input.resolution.deliveryState := by
  unfold resolvedColumns
  cases input.resolution <;> rfl

/-- A decision keeps the identity and the attempt of its delivery. -/
theorem resolvedColumns_static (input : ResolveDeliveryBlock) (availableAtMs : Int)
    (d : AgentDelivery) : (resolvedColumns input availableAtMs d).key = d.key ∧
      (resolvedColumns input availableAtMs d).attempt = d.attempt := by
  unfold resolvedColumns
  cases input.resolution <;> exact ⟨rfl, rfl⟩

/-- The block a resolution is about, with its delivery. -/
theorem resolutionRow_ok {blockId : Int} {result : DeliveryBlock × DeliveryState}
    (h : resolutionRow blockId s = .ok (result, t)) :
    s = t ∧ result.1 ∈ s.deliveryBlocks ∧ (result.1.id : Int) = blockId ∧
      ∃ d ∈ s.agentDeliveries, d.key = result.1.deliveryKey ∧ d.state = result.2 := by
  simp only [resolutionRow, bind_ok, read_ok, require_ok, pure_ok] at h
  obtain ⟨_, _, ⟨rfl, rfl⟩, b, _, ⟨hb, rfl⟩, d, _, ⟨hd, rfl⟩, rfl, rfl⟩ := h
  exact ⟨rfl, List.mem_of_find?_eq_some hb, by simpa using List.find?_some hb, d,
    List.mem_of_find?_eq_some hd, by simpa using List.find?_some hd, rfl⟩

/-- A recorded decision equals the one that is repeated. -/
def ResolvedBlock.matches (stored : ResolvedBlock) (input : ResolveDeliveryBlock) : Prop :=
  stored.resolution = input.resolution ∧ stored.resolutionNote = input.note ∧
    stored.retryAfterMs = input.retryAfterMs

/-- A resolution repeats a recorded decision or resolves an open block. -/
theorem resolveDeliveryBlockTransaction_ok {blockId : Int} {input : ResolveDeliveryBlock}
    {now : Int} {u : Unit} (hc : Consistent s.toLedger)
    (h : resolveDeliveryBlockTransaction blockId input now s = .ok (u, t)) :
    ∃ b ∈ s.deliveryBlocks, (b.id : Int) = blockId ∧
      ((t = s ∧ ∃ stored, b.resolved = some stored ∧ stored.matches input) ∨
        b.resolved = none ∧ ∃ d ∈ s.agentDeliveries, ∃ availableAtMs,
          d.key = b.deliveryKey ∧ t = resolvedStore s b d input availableAtMs now) := by
  simp only [resolveDeliveryBlockTransaction, bind_ok, check_ok] at h
  obtain ⟨_, _, ⟨_, rfl⟩, _, _, ⟨_, rfl⟩, ⟨b, state⟩, _, hrow, replay, _, ⟨hreplay, rfl⟩, h⟩ := h
  obtain ⟨rfl, hb, hid, d, hd, hk, hstate⟩ := resolutionRow_ok hrow
  refine ⟨b, hb, hid, ?_⟩
  cases hres : b.resolved with
  | some stored =>
    simp only [resolutionIsReplay, hres] at hreplay
    split at hreplay
    · rename_i hsame
      cases hreplay
      simp only [if_pos, pure_ok] at h
      exact .inl ⟨h.2.symm, stored, rfl, hsame⟩
    · cases hreplay
  | none =>
    simp only [resolutionIsReplay, hres, Except.ok.injEq] at hreplay
    subst hreplay
    simp only [Bool.false_eq_true, if_false, bind_ok, ensure_ok, write_ok, Prod.mk.injEq,
      resolveDeliveryRow, check_ok] at h
    obtain ⟨_, _, ⟨hblocked, rfl⟩, _, _, ⟨availableAtMs, _, ⟨_, rfl⟩, _, _, ⟨rfl, rfl⟩, hone, rfl⟩,
      _, _, ⟨rfl, rfl⟩, hone', rfl⟩ := h
    obtain ⟨e, he, hep, hupd⟩ := exists_replaceRow_of_countP hone (resolvedColumns input availableAtMs)
    rw [Bool.and_eq_true, decide_eq_true_eq] at hep
    obtain rfl := hc.delivery_eq he hd (hep.1.trans hk.symm)
    obtain ⟨c, hcmem, hcp, hupd'⟩ := exists_replaceRow_of_countP hone' (·.resolve input now)
    rw [Bool.and_eq_true, decide_eq_true_eq] at hcp
    obtain rfl := hc.blockIds.eq hcmem hb (Int.ofNat_inj.mp (hcp.1.trans hid.symm))
    refine .inr ⟨rfl, e, he, availableAtMs, hk, ?_⟩
    rw [hupd, hupd', resolvedStore]

/-- The session of a blocked attempt, found through its lease. -/
theorem blockSession_some {blockId : Int} {i : InvocationRow} {turn : SessionBindingTurn}
    {row : SessionBinding} (h : blockSession blockId s = some (i, turn, row)) :
    (∃ b ∈ s.deliveryBlocks, (b.id : Int) = blockId ∧ i.deliveryKey = b.deliveryKey ∧
      i.leaseToken = b.leaseToken) ∧
    i ∈ s.invocations ∧ turn ∈ s.sessionBindingTurns ∧ turn.invocationId = i.id ∧
      row ∈ s.sessionBindings ∧ row.key = turn.bindingKey := by
  simp only [blockSession, Option.bind_eq_bind, Option.bind_eq_some_iff, Option.pure_def,
    Option.some.injEq, Prod.mk.injEq] at h
  obtain ⟨b, hb, j, hj, v, hv, w, hw, rfl, rfl, rfl⟩ := h
  have hjb := List.find?_some hj
  rw [decide_eq_true_eq] at hjb
  exact ⟨⟨b, List.mem_of_find?_eq_some hb, by simpa using List.find?_some hb, hjb⟩,
    List.mem_of_find?_eq_some hj, List.mem_of_find?_eq_some hv,
    by simpa using List.find?_some hv, List.mem_of_find?_eq_some hw,
    by simpa using List.find?_some hw⟩

/-- What a resolution does to the session of the blocked attempt. -/
inductive ReleasesSession (s t : Store) (blockId : Int) (reason : String) (now : Int) : Prop
  | unbound (none : blockSession blockId s = none) (store : t = s)
  | retired (i : InvocationRow) (turn : SessionBindingTurn) (row : SessionBinding)
      (bound : blockSession blockId s = some (i, turn, row))
      (same : row.state.retiredReason = some reason) (store : t = s)
  | uncertain (i : InvocationRow) (turn : SessionBindingTurn) (row : SessionBinding)
      (bound : blockSession blockId s = some (i, turn, row))
      (unknown : i.state.isOutcomeUnknown = true) (fenced : row.state.isUncertainOn i.id = true)
      (store : t = { s with
        sessionBindings := replaceRow row (retiredColumns reason now row) s.sessionBindings })

/-- Retiring the session of a blocked attempt changes nothing or retires the uncertain
generation. -/
theorem retireUncertainSession_ok {blockId : Int} {resolution : BlockResolution} {now : Int}
    {result : Bool} (hc : SessionsConsistent s.toLedger)
    (h : retireUncertainSessionForDeliveryBlock blockId resolution now s = .ok (result, t)) :
    ReleasesSession s t blockId (operatorResolvedReason blockId resolution) now := by
  simp only [retireUncertainSessionForDeliveryBlock, bind_ok, read_ok] at h
  obtain ⟨found, _, ⟨hfound, rfl⟩, h⟩ := h
  rcases found with _ | ⟨i, turn, row⟩
  · rw [pure_ok] at h
    exact .unbound hfound h.2.symm
  · obtain ⟨_, _, _, _, hrow, _⟩ := blockSession_some hfound
    cases hstate : row.state with
    | retired =>
      simp only [hstate, bind_ok, ensure_ok, pure_ok] at h
      obtain ⟨_, _, ⟨hreason, rfl⟩, _, rfl⟩ := h
      exact .retired i turn row hfound (by rw [hstate, ← hreason]; rfl) rfl
    | _ =>
      simp only [hstate, bind_ok, ensure_ok, pure_ok] at h
      obtain ⟨_, _, ⟨⟨hunknown, _, huncertain⟩, rfl⟩, _, _, hupd, _, rfl⟩ := h
      obtain ⟨row', hrow', hkey, _, _, _, rfl⟩ := OwnerFence.update_ok hupd
      obtain rfl := hc.bindingKeys.eq hrow' hrow hkey
      exact .uncertain i turn row' hfound hunknown (by rw [hstate]; exact huncertain) rfl

/-! ## The moves of a settlement -/

section Moves

variable {permits : Action → Prop} {agentId messageId : String} {now : Int}

/-- Settling a held lease is a move. -/
theorem HoldsLease.settle {leaseToken : String} {d : AgentDelivery}
    (hd : HoldsLease s agentId messageId leaseToken d) (d' : AgentDelivery)
    (certainty : ExecutionCertainty) (reason : TerminalReason) (hk : d'.key = d.key)
    (ha : d'.attempt = d.attempt) (hs : d'.state = .pending ∨ ∃ at_, d'.state = .acknowledged at_)
    (hunarmed : d'.state = .pending →
      ∀ i ∈ s.invocations, i.deliveryKey = d.key → i.state.isArmed = false)
    (hunbound : ∀ i ∈ s.invocations, openFor d.key i = true →
      ∀ turn ∈ s.sessionBindingTurns, turn.invocationId ≠ i.id) :
    Move reason.action s.toLedger (settledStore s d d' now certainty reason).toLedger :=
  .settle d d' now certainty reason hd.row (by rw [hd.token]; rfl) hk ha hs hunarmed hunbound

/-- An acknowledgement consists of moves. -/
theorem acknowledgeDelivery_advances {leaseToken : String} {u : Unit} (hp : permits .internal)
    (hc : Consistent s.toLedger)
    (h : acknowledgeDelivery agentId messageId leaseToken now s = .ok (u, t)) :
    Advances permits s t := by
  rcases acknowledgeDelivery_ok hc h with rfl | ⟨d, hd, hunbound, rfl⟩
  · exact .refl _
  · refine .single hp (hd.settle _ _ .acknowledged rfl rfl (.inr ⟨now, rfl⟩)
      (fun hpend => ?_) hunbound)
    cases hpend

/-- A release consists of moves. -/
theorem retryDelivery_advances {input : RetryDelivery} {u : Unit} (hp : permits .internal)
    (hc : Consistent s.toLedger) (h : retryDelivery agentId messageId input now s = .ok (u, t)) :
    Advances permits s t := by
  rcases retryDelivery_ok hc h with rfl | ⟨d, availableAtMs, hd, hunarmed, hunbound, rfl⟩
  · exact .refl _
  · exact .single hp (hd.settle _ _ .retry rfl rfl (.inl rfl) (fun _ => hunarmed) hunbound)

/-- Parking a delivery is a move. -/
theorem park_move {d : AgentDelivery} {leaseToken evidence : String} (d' : AgentDelivery)
    (reason : TerminalReason) (hd : d ∈ s.agentDeliveries) (hl : d.state.leaseToken = some leaseToken) (hk : d'.key = d.key)
    (ha : d'.attempt = d.attempt) (hb : d'.state = .blocked)
    (hfenced : ∀ i ∈ s.invocations, openFor d.key i = true → ∀ turn ∈ s.sessionBindingTurns,
      turn.invocationId = i.id → turn.state.isUncertain = true) :
    Move reason.action s.toLedger
      (parkedStore s d d' (blockEvidence s d leaseToken evidence now) now reason).toLedger :=
  .park d d' (blockEvidence s d leaseToken evidence now) now reason hd hl hk ha hb
    ⟨rfl, rfl, rfl, rfl⟩ hfenced

/-- A block consists of moves. -/
theorem blockDelivery_advances [SerdeJson Json] {input : BlockDelivery}
    {result : BlockedDelivery Json × Bool} (hp : permits .internal) (hc : Consistent s.toLedger)
    (h : blockDelivery agentId messageId input now s = .ok (result, t)) :
    Advances permits s t := by
  rcases blockDelivery_ok hc h with rfl | ⟨d, hd, hfenced, rfl⟩
  · exact .refl _
  · exact .single hp (park_move _ .blocked hd.row hd.token rfl rfl rfl hfenced)

/-- Resolving an open block is a move. -/
theorem resolve_move {b : DeliveryBlock} {d : AgentDelivery} (input : ResolveDeliveryBlock)
    (availableAtMs : Int) (hb : b ∈ s.deliveryBlocks) (hopen : b.resolved = none)
    (hd : d ∈ s.agentDeliveries) (hk : d.key = b.deliveryKey) :
    Move (.resolve b.id input.resolution) s.toLedger
      (resolvedStore s b d input availableAtMs now).toLedger :=
  .resolve b d (resolvedColumns input availableAtMs d) input now hb hopen hd hk
    (resolvedColumns_static input availableAtMs d).1
    (resolvedColumns_static input availableAtMs d).2 (resolvedColumns_state input availableAtMs d)

/-- A resolution repeats a recorded decision or resolves an open block, and then leaves the
sessions alone or retires the uncertain generation of the attempt. -/
theorem resolveDeliveryBlock_ok {blockId : Int} {input : ResolveDeliveryBlock} {u : Unit}
    (hc : Consistent s.toLedger) (h : resolveDeliveryBlock blockId input now s = .ok (u, t)) :
    ∃ b ∈ s.deliveryBlocks, (b.id : Int) = blockId ∧ ∃ mid, Consistent mid.toLedger ∧
      ((mid = s ∧ ∃ stored, b.resolved = some stored ∧ stored.matches input) ∨
        b.resolved = none ∧ ∃ d ∈ s.agentDeliveries, ∃ availableAtMs,
          d.key = b.deliveryKey ∧ mid = resolvedStore s b d input availableAtMs now) ∧
      ReleasesSession mid t blockId (operatorResolvedReason blockId input.resolution) now := by
  simp only [resolveDeliveryBlock, bind_ok, pure_ok] at h
  obtain ⟨_, mid, hresolve, _, _, hretire, _, rfl⟩ := h
  obtain ⟨b, hb, hid, hcase⟩ := resolveDeliveryBlockTransaction_ok hc hresolve
  have hmid : Consistent mid.toLedger := by
    rcases hcase with ⟨rfl, _⟩ | ⟨hopen, d, hd, availableAtMs, hk, rfl⟩
    · exact hc
    · exact hc.move (resolve_move input availableAtMs hb hopen hd hk)
  exact ⟨b, hb, hid, mid, hmid, hcase, retireUncertainSession_ok hmid.toSessionsConsistent hretire⟩

/-- A resolution consists of moves. -/
theorem resolveDeliveryBlock_advances {blockId : Int} {input : ResolveDeliveryBlock} {u : Unit}
    (hp : ∀ id : Nat, (id : Int) = blockId → permits (.resolve id input.resolution))
    (hp' : permits (.retire false)) (hc : Consistent s.toLedger)
    (h : resolveDeliveryBlock blockId input now s = .ok (u, t)) :
    Advances permits s t := by
  obtain ⟨b, hb, hid, mid, hmid, hcase, hretired⟩ := resolveDeliveryBlock_ok hc h
  have hfirst : Advances permits s mid := by
    rcases hcase with ⟨rfl, _⟩ | ⟨hopen, d, hd, availableAtMs, hk, rfl⟩
    · exact .refl _
    · exact .single (hp b.id hid) (resolve_move input availableAtMs hb hopen hd hk)
  refine hfirst.trans ?_
  cases hretired with
  | unbound _ store => exact store ▸ .refl _
  | retired _ _ _ _ _ store => exact store ▸ .refl _
  | uncertain i turn row hfound hunknown huncertain store =>
    rw [store]
    obtain ⟨_, hi, _, _, hrow, _⟩ := blockSession_some hfound
    refine .single hp' (.retire row _ now false hrow ?_ ?_ fun _ j hj hju => ?_)
    · cases hs : row.state <;> rw [hs] at huncertain <;> first | rfl | cases huncertain
    · cases hs : row.state <;> rw [hs] at huncertain <;> first | rfl | cases huncertain
    · have hji := (SessionBindingState.activeInvocationId_of_isUncertainOn hju).symm.trans
        (SessionBindingState.activeInvocationId_of_isUncertainOn huncertain)
      rw [hmid.invocationIds.eq hj hi (Option.some.inj hji)]
      cases hs : i.state <;> rw [hs] at hunknown <;> first | rfl | cases hunknown

end Moves

end Fleetd
