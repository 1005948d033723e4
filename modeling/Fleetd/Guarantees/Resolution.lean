import Fleetd.System.Reachable

/-!
# Parked deliveries can be resolved

An operator resolves a parked delivery together with the session generation its attempt ran
on. The resolution goes through unless that generation was retired for another reason
before, and a repeat of it goes through in every later state without changing anything.
-/

namespace Fleetd

open Relational Relational.Transaction

variable {Json : Type}

/-- The attempt behind a block ran on a session generation. -/
def BoundTo (l : Ledger) (b : DeliveryBlock) (row : SessionBinding) : Prop :=
  ∃ i ∈ l.invocations, i.deliveryKey = b.deliveryKey ∧ i.leaseToken = b.leaseToken ∧
    ∃ turn ∈ l.sessionBindingTurns, turn.invocationId = i.id ∧
      row ∈ l.sessionBindings ∧ row.key = turn.bindingKey

section Lookup

variable {s : Store} {b : DeliveryBlock} {row : SessionBinding}

/-- The session of a block is found. -/
theorem BoundTo.find (hc : Consistent s.toLedger) (hb : b ∈ s.deliveryBlocks)
    (h : BoundTo s.toLedger b row) :
    ∃ i turn, blockSession b.id s = some (i, turn, row) := by
  obtain ⟨i, hi, hkey, htok, turn, hturn, hid, hrow, hbind⟩ := h
  have hblock : s.deliveryBlocks.find? (fun c => (c.id : Int) = b.id) = some b :=
    hc.blockIds.find?_eq_some hb (by simp) fun c _ h => Int.ofNat_inj.mp (of_decide_eq_true h)
  have hinv : s.invocations.find? (fun j => j.deliveryKey = b.deliveryKey ∧
      j.leaseToken = b.leaseToken) = some i := by
    refine hc.tokenKeys.find?_eq_some hi (by simp [hkey, htok]) fun j _ h => ?_
    rw [decide_eq_true_eq] at h
    exact Prod.ext (h.1.trans hkey.symm) (h.2.trans htok.symm)
  have hturnOf : turnOf i.id s.sessionBindingTurns = some turn :=
    hc.turnIds.find?_eq_some hturn (by simp [hid]) fun u _ h => by
      rw [of_decide_eq_true h, hid]
  have hbinding : s.sessionBindings.find? (fun r => r.key = turn.bindingKey) = some row :=
    hc.bindingKeys.find?_eq_some hrow (by simp [hbind]) fun r _ h => by
      rw [of_decide_eq_true h, hbind]
  refine ⟨i, turn, ?_⟩
  rw [blockSession, hblock]
  simp only [Option.bind_eq_bind, Option.bind_some, hinv, hturnOf, hbinding, Option.pure_def]

/-- A session that is found is the one of the block. -/
theorem boundTo_of_blockSession (hc : Consistent s.toLedger) (hb : b ∈ s.deliveryBlocks)
    {i : InvocationRow} {turn : SessionBindingTurn}
    (h : blockSession b.id s = some (i, turn, row)) : BoundTo s.toLedger b row := by
  obtain ⟨⟨c, hc', hid, hkey, htok⟩, hi, hturn, htid, hrow, hbind⟩ := blockSession_some h
  obtain rfl := hc.blockIds.eq hc' hb (Int.ofNat_inj.mp hid)
  exact ⟨i, hi, hkey, htok, turn, hturn, htid, hrow, hbind⟩

/-- A block has at most one session. -/
theorem BoundTo.unique (hc : Consistent s.toLedger) (hb : b ∈ s.deliveryBlocks)
    {other : SessionBinding} (h : BoundTo s.toLedger b row) (h' : BoundTo s.toLedger b other) :
    row = other := by
  obtain ⟨i, turn, hfind⟩ := h.find hc hb
  obtain ⟨j, turn', hfind'⟩ := h'.find hc hb
  rw [hfind] at hfind'
  exact (Prod.ext_iff.mp (Prod.ext_iff.mp (Option.some.inj hfind')).2).2

/-- The session of a block is retired, or uncertain about an attempt without a known outcome. -/
theorem Consistent.blockSession_cases (hc : Consistent s.toLedger) (hb : b ∈ s.deliveryBlocks)
    {i : InvocationRow} {turn : SessionBindingTurn}
    (h : blockSession b.id s = some (i, turn, row)) :
    row.state.isRetired = true ∨ i.state.isOutcomeUnknown = true ∧
      turn.state.isUncertain = true ∧ row.state.isUncertainOn i.id = true := by
  obtain ⟨⟨c, hc', hid, hkey, htok⟩, hi, hturn, htid, hrow, hbind⟩ := blockSession_some h
  obtain rfl := hc.blockIds.eq hc' hb (Int.ofNat_inj.mp hid)
  have houtcome := hc.blockOutcome c hb i hi hkey htok
  have hfit := hc.turnFits turn hturn i hi htid.symm
  have hbound := hc.turnBound turn hturn row hrow hbind
  unfold TurnBound at hbound
  have hnot : i.state.isArmed = false ∧ i.state.isCompleted = false := by
    cases hst : i.state with
    | reserved => exact ⟨rfl, rfl⟩
    | dispatchArmed => rw [hst] at houtcome; rcases houtcome with h | h <;> cases h
    | terminal armedAt terminalAt certainty reason =>
      rw [hst] at houtcome
      refine ⟨rfl, ?_⟩
      cases certainty with
      | outcomeKnown => rcases houtcome with h | h <;> cases h
      | notStarted => rfl
      | outcomeUnknown => rfl
  cases hs : turn.state with
  | active =>
    rw [hs, TurnFits, hnot.1] at hfit
    cases hfit
  | quiescent at_ persistence =>
    rw [hs, TurnFits, hnot.2] at hfit
    cases hfit
  | uncertain at_ why =>
    rw [hs, TurnFits, hnot.1] at hfit
    rw [hs] at hbound
    rcases hbound with hon | hret
    · refine .inr ⟨?_, rfl, htid ▸ hon⟩
      rcases hfit with hfalse | hunknown
      · cases hfalse
      · exact hunknown
    · exact .inl hret

end Lookup

/-! ## A resolution goes through -/

section Resolve

variable {s : Store} {b : DeliveryBlock} {input : ResolveDeliveryBlock} {now : Int}

/-- A valid resolution has a delay that fits its column. -/
theorem validateResolution_delay {blockId : Int} (h : validateResolution blockId input = .ok ()) :
    tryFromU64 input.retryAfterMs "retry delay is too large" = .ok (input.retryAfterMs : Int) := by
  unfold validateResolution at h
  split at h
  · cases h
  split at h
  · cases h
  rename_i hle
  have hbound : input.retryAfterMs ≤ i64Max := by
    simp only [maxRetryDelayMs, i64Max] at hle ⊢
    omega
  rw [tryFromU64, if_pos hbound]

/-- The block under review and its delivery are found. -/
theorem resolutionRow_run (hc : Consistent s.toLedger) (hb : b ∈ s.deliveryBlocks)
    {d : AgentDelivery} (hd : d ∈ s.agentDeliveries) (hk : d.key = b.deliveryKey) :
    resolutionRow b.id s = .ok ((b, d.state), s) := by
  have hblock : s.deliveryBlocks.find? (fun c => (c.id : Int) = b.id) = some b :=
    hc.blockIds.find?_eq_some hb (by simp) fun c _ h => Int.ofNat_inj.mp (of_decide_eq_true h)
  have hdelivery : s.agentDeliveries.find? (fun e => e.key = b.deliveryKey) = some d :=
    hc.deliveryKeys.find?_eq_some hd (by simp [hk]) fun e _ h => by
      rw [of_decide_eq_true h, hk]
  simp only [resolutionRow, bind_run, read_run, id, hblock, require_some_run, hdelivery, pure_run]

/-- The decision about an open block is recorded. -/
theorem resolveTransaction_run (hc : Consistent s.toLedger) (hb : b ∈ s.deliveryBlocks)
    (hopen : b.resolved = none) (hvalid : validateResolution b.id input = .ok ())
    {availableAtMs : Int} (havail : resolvedAvailability input now = .ok availableAtMs) :
    ∃ d ∈ s.agentDeliveries, d.key = b.deliveryKey ∧
      resolveDeliveryBlockTransaction b.id input now s =
        .ok ((), resolvedStore s b d input availableAtMs now) := by
  obtain ⟨d, hd, hk⟩ := hc.exists_block_delivery hb
  have hblocked := ((hc.blockFits d hd b hb hk.symm).parked hopen).1
  refine ⟨d, hd, hk, ?_⟩
  have hdel : ∀ x ∈ s.agentDeliveries,
      (decide (x.key = b.deliveryKey) && decide (x.state = .blocked)) = true ↔ x = d := by
    intro x hx
    rw [Bool.and_eq_true, decide_eq_true_eq, decide_eq_true_eq]
    exact ⟨fun h => hc.delivery_eq hx hd (h.1.trans hk.symm), fun h => by rw [h]; exact ⟨hk, hblocked⟩⟩
  have hblk : ∀ x ∈ s.deliveryBlocks,
      (decide ((x.id : Int) = b.id) && x.resolved.isNone) = true ↔ x = b := by
    intro x hx
    rw [Bool.and_eq_true, decide_eq_true_eq]
    exact ⟨fun h => hc.blockIds.eq hx hb (Int.ofNat_inj.mp h.1), fun h => by rw [h, hopen]; exact ⟨rfl, rfl⟩⟩
  have hdone := hc.deliveryKeys.countP_eq_one hd ((hdel d hd).mpr rfl) fun x hx h => by
    rw [(hdel x hx).mp h]
  have hbone := hc.blockIds.countP_eq_one hb ((hblk b hb).mpr rfl) fun x hx h => by
    rw [(hblk x hx).mp h]
  simp only [resolveDeliveryBlockTransaction, hvalid, validateResolution_delay hvalid,
    resolutionRow_run hc hb hd hk, resolutionIsReplay, hopen, bind_run, check_ok_run, hblocked,
    ensure_run, if_true, Bool.false_eq_true, if_false, resolveDeliveryRow, havail, write_run, hdone,
    hbone, updateWhere_eq_replaceRow hdel, updateWhere_eq_replaceRow hblk]
  rfl

/-- The session of a block whose generation is not retired can be released. -/
theorem retireUncertainSession_run (hc : Consistent s.toLedger) (hb : b ∈ s.deliveryBlocks)
    (hcurrent : ∀ row, BoundTo s.toLedger b row → row.state.isRetired = false)
    (resolution : BlockResolution) (now : Int) :
    ∃ result t, retireUncertainSessionForDeliveryBlock b.id resolution now s = .ok (result, t) := by
  cases hfound : blockSession b.id s with
  | none =>
    exact ⟨false, s, by
      simp only [retireUncertainSessionForDeliveryBlock, bind_run, read_run, hfound, pure_run]⟩
  | some found =>
    obtain ⟨i, turn, row⟩ := found
    have hnot := hcurrent row (boundTo_of_blockSession hc hb hfound)
    rcases hc.blockSession_cases hb hfound with hret | ⟨hunknown, hturn, hon⟩
    · rw [hnot] at hret
      cases hret
    · obtain ⟨_, _, _, _, hrow, _⟩ := blockSession_some hfound
      have hupd : (OwnerFence.fromStored row).update (·.isUncertainOn i.id)
          (retiredColumns (operatorResolvedReason b.id resolution) now)
          "uncertain session changed during operator recovery" s = _ :=
        OwnerFence.update_run _ hc.bindingKeys hrow rfl hon
      refine ⟨true, { s with
        sessionBindings := replaceRow row
          (retiredColumns (operatorResolvedReason b.id resolution) now row) s.sessionBindings }, ?_⟩
      simp only [retireUncertainSessionForDeliveryBlock, bind_run, read_run, hfound]
      cases hs : row.state with
      | retired => rw [hs] at hnot; cases hnot
      | uncertain ref opened active why =>
        rw [hs] at hon
        simp only [bind_run, ensure_run, hunknown, hturn, hon, and_self, if_true, hupd, pure_run]
      | _ => rw [hs] at hon; cases hon

/-- A session that was retired for another reason is not released. -/
theorem retireUncertainSession_conflict (hc : Consistent s.toLedger) (hb : b ∈ s.deliveryBlocks)
    {row : SessionBinding} (hbound : BoundTo s.toLedger b row) {reason : String}
    (hret : row.state.retiredReason = some reason) {resolution : BlockResolution}
    (hne : reason ≠ operatorResolvedReason b.id resolution) (now : Int) :
    retireUncertainSessionForDeliveryBlock b.id resolution now s =
      .error (.conflict "delivery block session was already retired differently") := by
  obtain ⟨i, turn, hfound⟩ := hbound.find hc hb
  simp only [retireUncertainSessionForDeliveryBlock, bind_run, read_run, hfound]
  cases hs : row.state with
  | retired ref opened why stored at_ =>
    rw [hs] at hret
    rw [← Option.some.inj hret] at hne
    simp only [bind_run, ensure_run, if_neg hne]
  | _ => rw [hs] at hret; cases hret

/-- The session of a block is the same before and after its decision was recorded. -/
theorem boundTo_resolvedStore {d : AgentDelivery} {availableAtMs : Int} {row : SessionBinding} :
    BoundTo (resolvedStore s b d input availableAtMs now).toLedger (b.resolve input now) row ↔
      BoundTo s.toLedger b row :=
  Iff.rfl

/-- What a resolution of an open block leaves behind. -/
structure Resolves (s t : Store) (b : DeliveryBlock) (input : ResolveDeliveryBlock) (now : Int) :
    Prop where
  delivery : ∃ d ∈ t.agentDeliveries, d.key = b.deliveryKey ∧
    d.state = input.resolution.deliveryState
  block : b.resolve input now ∈ t.deliveryBlocks
  lane : ∀ row, BoundTo s.toLedger b row → ∀ other ∈ t.sessionBindings,
    other.lane = row.lane → other.state.isUncertain = false

/-- A lane whose current generation was retired has no uncertain generation. -/
theorem LanesConsistent.not_uncertain {l : Ledger} (h : Consistent l) {row other : SessionBinding}
    {reason : String} {now : Int} (hrow : row ∈ l.sessionBindings)
    (hcurrent : row.state.isRetired = false)
    (hother : other ∈ replaceRow row (retiredColumns reason now row) l.sessionBindings)
    (hlane : other.lane = row.lane) : other.state.isUncertain = false := by
  rcases mem_replaceRow.mp hother with ⟨rfl, _⟩ | ⟨hother, hne⟩
  · rfl
  · rw [← Bool.not_eq_true]
    intro hunc
    refine hne (h.toLanesConsistent.current_unique h.bindingKeys hother hrow hlane ?_ hcurrent)
    cases hs : other.state <;> rw [hs] at hunc <;> first | rfl | cases hunc

/-- A resolution of an open block whose session is not retired goes through. -/
theorem resolveDeliveryBlock_run (hc : Consistent s.toLedger) (hb : b ∈ s.deliveryBlocks)
    (hopen : b.resolved = none) (hvalid : validateResolution b.id input = .ok ())
    {availableAtMs : Int} (havail : resolvedAvailability input now = .ok availableAtMs)
    (hcurrent : ∀ row, BoundTo s.toLedger b row → row.state.isRetired = false) :
    ∃ t, resolveDeliveryBlock b.id input now s = .ok ((), t) ∧ Resolves s t b input now := by
  obtain ⟨d, hd, hk, hfirst⟩ := resolveTransaction_run hc hb hopen hvalid havail
  have hmid : Consistent (resolvedStore s b d input availableAtMs now).toLedger :=
    hc.move (resolve_move input availableAtMs hb hopen hd hk)
  have hbmid : b.resolve input now ∈ (resolvedStore s b d input availableAtMs now).deliveryBlocks :=
    mem_replaceRow.mpr (.inl ⟨rfl, hb⟩)
  obtain ⟨result, t, hsecond⟩ :=
    retireUncertainSession_run hmid hbmid hcurrent input.resolution now
  have hrel := retireUncertainSession_ok hmid.toSessionsConsistent hsecond
  refine ⟨t, ?_, ?_⟩
  · have hsecond' : retireUncertainSessionForDeliveryBlock b.id input.resolution now
        (resolvedStore s b d input availableAtMs now) = .ok (result, t) := hsecond
    simp only [resolveDeliveryBlock, bind_run, hfirst, hsecond', pure_run]
  · have hdelivery : resolvedColumns input availableAtMs d ∈
        (resolvedStore s b d input availableAtMs now).agentDeliveries :=
      mem_replaceRow.mpr (.inl ⟨rfl, hd⟩)
    have hkey := (resolvedColumns_static input availableAtMs d).1.trans hk
    have hstate := resolvedColumns_state input availableAtMs d
    cases hrel with
    | unbound hnone store =>
      rw [store]
      refine ⟨⟨_, hdelivery, hkey, hstate⟩, hbmid, fun row hbound => ?_⟩
      obtain ⟨i, turn, hfind⟩ := BoundTo.find hmid hbmid (boundTo_resolvedStore.mpr hbound)
      rw [hnone] at hfind
      cases hfind
    | retired i turn row hfound hreason store =>
      -- the generation that was found is not retired
      have hnot := hcurrent row (boundTo_resolvedStore.mp (boundTo_of_blockSession hmid hbmid hfound))
      rw [SessionBindingState.isRetired_of_retiredReason hreason] at hnot
      cases hnot
    | uncertain i turn row hfound _ hon store =>
      rw [store]
      have hbound := boundTo_of_blockSession hmid hbmid hfound
      obtain ⟨_, _, _, _, hrow, _⟩ := blockSession_some hfound
      refine ⟨⟨_, hdelivery, hkey, hstate⟩, hbmid, fun other hother r hr hlane => ?_⟩
      rw [hbound.unique hmid hbmid (boundTo_resolvedStore.mpr hother)] at hrow hr
      exact LanesConsistent.not_uncertain hmid hrow
        (hcurrent other hother) hr hlane

/-- A resolution whose session was retired for another reason is refused. -/
theorem resolveDeliveryBlock_conflict (hc : Consistent s.toLedger) (hb : b ∈ s.deliveryBlocks)
    (hopen : b.resolved = none) (hvalid : validateResolution b.id input = .ok ())
    {availableAtMs : Int} (havail : resolvedAvailability input now = .ok availableAtMs)
    {row : SessionBinding} (hbound : BoundTo s.toLedger b row) {reason : String}
    (hret : row.state.retiredReason = some reason)
    (hne : reason ≠ operatorResolvedReason b.id input.resolution) :
    resolveDeliveryBlock b.id input now s =
      .error (.conflict "delivery block session was already retired differently") := by
  obtain ⟨d, hd, hk, hfirst⟩ := resolveTransaction_run hc hb hopen hvalid havail
  have hmid : Consistent (resolvedStore s b d input availableAtMs now).toLedger :=
    hc.move (resolve_move input availableAtMs hb hopen hd hk)
  have hbmid : b.resolve input now ∈ (resolvedStore s b d input availableAtMs now).deliveryBlocks :=
    mem_replaceRow.mpr (.inl ⟨rfl, hb⟩)
  have hsecond : retireUncertainSessionForDeliveryBlock b.id input.resolution now
      (resolvedStore s b d input availableAtMs now) = _ :=
    retireUncertainSession_conflict hmid hbmid (boundTo_resolvedStore.mpr hbound) hret hne now
  simp only [resolveDeliveryBlock, bind_run, hfirst, hsecond]

end Resolve

/-! ## A repeated resolution -/

/-- The session of a block is retired with a given reason, if there is one. -/
def ReleasedAs (l : Ledger) (b : DeliveryBlock) (reason : String) : Prop :=
  ∀ row, BoundTo l b row → row.state.retiredReason = some reason

section Moves

variable {l l' : Ledger} {a : Action} {b b' : DeliveryBlock} {reason : String}

/-- Every attempt was there before under the same lease, or was just reserved. -/
theorem Move.invocation_origin (hm : Move a l l') {i' : InvocationRow} (hi : i' ∈ l'.invocations) :
    i'.state = .reserved ∨ ∃ i ∈ l.invocations, i.id = i'.id ∧ i.deliveryKey = i'.deliveryKey ∧
      i.leaseToken = i'.leaseToken := by
  have hclosed : ∀ {p : InvocationRow → Bool} {now : Int} {certainty : ExecutionCertainty}
      {why : TerminalReason}, i' ∈ updateWhere p (terminalColumns now certainty why) l.invocations →
      ∃ i ∈ l.invocations, i.id = i'.id ∧ i.deliveryKey = i'.deliveryKey ∧
        i.leaseToken = i'.leaseToken := by
    intro p now certainty why hmem
    obtain ⟨i, hmem', rfl⟩ := mem_updateWhere.mp hmem
    refine ⟨i, hmem', ?_⟩
    by_cases hp : p i = true
    · rw [if_pos hp]
      exact ⟨rfl, rfl, rfl⟩
    · rw [if_neg hp]
      exact ⟨rfl, rfl, rfl⟩
  cases hm with
  | reserve i d _ _ _ _ hr _ =>
    rcases List.mem_append.mp hi with hi | hi
    · exact .inr ⟨i', hi, rfl, rfl, rfl⟩
    · rw [List.mem_singleton.mp hi]
      exact .inl hr
  | arm i at_ hmem _ =>
    rcases mem_replaceRow.mp hi with ⟨rfl, _⟩ | ⟨hi, _⟩
    · exact .inr ⟨i, hmem, rfl, rfl, rfl⟩
    · exact .inr ⟨i', hi, rfl, rfl, rfl⟩
  | expire selected now _ => exact .inr (hclosed hi)
  | settle d d' now certainty why _ _ _ _ _ _ _ => exact .inr (hclosed hi)
  | park d d' c now why _ _ _ _ _ _ _ => exact .inr (hclosed hi)
  | complete d d' i t row now seq persistence _ _ _ _ _ _ _ _ _ _ _ _ _ _ =>
    exact .inr (hclosed hi)
  | _ => exact .inr ⟨i', hi, rfl, rfl, rfl⟩

/-- Every turn was there before under the same binding, or was just started. -/
theorem Move.turn_origin (hm : Move a l l') {u : SessionBindingTurn}
    (hu : u ∈ l'.sessionBindingTurns) :
    u.state = .active ∨ ∃ old ∈ l.sessionBindingTurns, old.invocationId = u.invocationId ∧
      old.bindingKey = u.bindingKey := by
  cases hm with
  | activate row t i now _ _ hact _ _ _ _ _ _ _ _ =>
    rcases List.mem_append.mp hu with hu | hu
    · exact .inr ⟨u, hu, rfl, rfl⟩
    · rw [List.mem_singleton.mp hu]
      exact .inl hact
  | fence row t why now _ ht _ _ _ =>
    rcases mem_replaceRow.mp hu with ⟨rfl, _⟩ | ⟨hu, _⟩
    · exact .inr ⟨t, ht, rfl, rfl⟩
    · exact .inr ⟨u, hu, rfl, rfl⟩
  | complete d d' i t row now seq persistence _ _ _ _ _ _ _ _ ht _ _ _ _ _ =>
    rcases mem_replaceRow.mp hu with ⟨rfl, _⟩ | ⟨hu, _⟩
    · exact .inr ⟨t, ht, rfl, rfl⟩
    · exact .inr ⟨u, hu, rfl, rfl⟩
  | _ => exact .inr ⟨u, hu, rfl, rfl⟩

/-- A session that was released stays released as it was. -/
theorem Consistent.releasedAs_move (h : Consistent l) (hm : Move a l l')
    (hb : b ∈ l'.deliveryBlocks) (hrel : ReleasedAs l b reason) : ReleasedAs l' b reason := by
  have h' := h.move hm
  rintro row ⟨i', hi', hkey, htok, u, hu, huid, hrow, hbind⟩
  have houtcome := h'.blockOutcome b hb i' hi' hkey htok
  have hnot : i'.state ≠ .reserved ∧ i'.state.isArmed = false := by
    cases hs : i'.state with
    | terminal => exact ⟨fun heq => (by cases heq), rfl⟩
    | _ => rw [hs] at houtcome; rcases houtcome with hf | hf <;> cases hf
  obtain hres | ⟨i, hi, hid, hik, hit⟩ := hm.invocation_origin hi'
  · exact absurd hres hnot.1
  obtain hact | ⟨old, hold, holdid, holdkey⟩ := hm.turn_origin hu
  · -- a turn in flight belongs to an armed attempt
    have hfit := h'.turnFits u hu i' hi' huid.symm
    rw [hact, TurnFits, hnot.2] at hfit
    cases hfit
  · obtain ⟨r, hr, hrkey⟩ := List.mem_map.mp (h.turnBinding old hold)
    have hreason := hrel r ⟨i, hi, hik.trans hkey, hit.trans htok, old, hold,
      holdid.trans (huid.trans hid.symm), hr, hrkey⟩
    obtain ⟨r', hr', hev⟩ := (h.evolves hm).sessionBindings.mem hr
    have hsame := hev.retired (SessionBindingState.isRetired_of_retiredReason hreason)
    rw [h'.bindingKeys.eq hrow hr' (hbind.trans (holdkey.symm.trans (hrkey.symm.trans hev.key.symm))),
      hsame]
    exact hreason

/-- A block whose decision is recorded and whose session was released accordingly. -/
structure Decided (l : Ledger) (b : DeliveryBlock) (input : ResolveDeliveryBlock) : Prop where
  block : b ∈ l.deliveryBlocks
  stored : ∃ stored, b.resolved = some stored ∧ stored.matches input
  released : ReleasedAs l b (operatorResolvedReason b.id input.resolution)

/-- A decided block stays decided. -/
theorem Consistent.decided_moves {permits : Action → Prop} (h : Consistent l)
    (hm : Moves permits l l') {input : ResolveDeliveryBlock} (hd : Decided l b input) :
    Decided l' b input := by
  have hboth : Decided l' b input ∧ Consistent l' :=
    hm.preserve (P := fun x => Decided x b input ∧ Consistent x)
      (fun a x y _ hmove hx => by
        refine ⟨?_, hx.2.move hmove⟩
        obtain ⟨stored, hstored, hmatch⟩ := hx.1.stored
        obtain ⟨c, hc, hev⟩ := (hx.2.evolves hmove).deliveryBlocks.mem hx.1.block
        obtain rfl := hev.resolved (by rw [hstored]; rfl)
        exact ⟨hc, ⟨stored, hstored, hmatch⟩, hx.2.releasedAs_move hmove hc hx.1.released⟩)
      ⟨hd, h⟩
  exact hboth.1

end Moves

section Replay

variable {s t : Store} {b : DeliveryBlock} {input : ResolveDeliveryBlock} {now : Int}

/-- After a resolution its block is decided. -/
theorem resolveDeliveryBlock_decided (hc : Consistent s.toLedger) {blockId : Int} {u : Unit}
    (h : resolveDeliveryBlock blockId input now s = .ok (u, t)) :
    validateResolution blockId input = .ok () ∧
      ∃ b, (b.id : Int) = blockId ∧ Decided t.toLedger b input := by
  have hvalid : validateResolution blockId input = .ok () := by
    simp only [resolveDeliveryBlock, resolveDeliveryBlockTransaction, bind_ok, check_ok] at h
    obtain ⟨_, _, ⟨_, _, ⟨hvalid, _⟩, _⟩, _⟩ := h
    exact hvalid
  refine ⟨hvalid, ?_⟩
  obtain ⟨b, hb, rfl, mid, hmid, hcase, hrel⟩ := resolveDeliveryBlock_ok hc h
  obtain ⟨c, hcmem, hcid, hstored⟩ : ∃ c ∈ mid.deliveryBlocks, c.id = b.id ∧
      ∃ stored, c.resolved = some stored ∧ stored.matches input := by
    rcases hcase with ⟨rfl, hstored⟩ | ⟨_, d, _, availableAtMs, _, rfl⟩
    · exact ⟨b, hb, rfl, hstored⟩
    · exact ⟨b.resolve input now, mem_replaceRow.mpr (.inl ⟨rfl, hb⟩), rfl, _, rfl, rfl, rfl, rfl⟩
  refine ⟨c, by rw [hcid], ?_⟩
  rw [← hcid] at hrel
  cases hrel with
  | unbound hnone store =>
    refine ⟨store ▸ hcmem, hstored, fun row hbound => ?_⟩
    rw [store] at hbound
    obtain ⟨i, turn, hfind⟩ := hbound.find hmid hcmem
    rw [hnone] at hfind
    cases hfind
  | retired i turn row hfound hreason store =>
    refine ⟨store ▸ hcmem, hstored, fun r hbound => ?_⟩
    rw [store] at hbound
    rw [hbound.unique hmid hcmem (boundTo_of_blockSession hmid hcmem hfound)]
    exact hreason
  | uncertain i turn row hfound _ _ store =>
    rw [store]
    refine ⟨hcmem, hstored, ?_⟩
    rintro r ⟨j, hj, hkey, htok, v, hv, hid, hr, hbind⟩
    rcases mem_replaceRow.mp hr with ⟨rfl, _⟩ | ⟨hr, hne⟩
    · rfl
    · refine absurd ?_ hne
      exact BoundTo.unique hmid hcmem ⟨j, hj, hkey, htok, v, hv, hid, hr, hbind⟩
        (boundTo_of_blockSession hmid hcmem hfound)

/-- A repeat of a recorded decision changes nothing. -/
theorem Decided.replay (hc : Consistent s.toLedger) (hd : Decided s.toLedger b input)
    (hvalid : validateResolution b.id input = .ok ()) :
    resolveDeliveryBlock b.id input now s = .ok ((), s) := by
  obtain ⟨stored, hstored, hmatch⟩ := hd.stored
  obtain ⟨d, hmem, hk⟩ := hc.exists_block_delivery hd.block
  have hreplay : resolutionIsReplay b input = .ok true := by
    rw [resolutionIsReplay, hstored]
    exact if_pos hmatch
  have hfirst : resolveDeliveryBlockTransaction b.id input now s = .ok ((), s) := by
    simp only [resolveDeliveryBlockTransaction, hvalid, validateResolution_delay hvalid,
      resolutionRow_run hc hd.block hmem hk, hreplay, bind_run, check_ok_run, if_true, pure_run]
  have hsecond : ∃ result,
      retireUncertainSessionForDeliveryBlock b.id input.resolution now s = .ok (result, s) := by
    cases hfound : blockSession b.id s with
    | none =>
      exact ⟨false, by
        simp only [retireUncertainSessionForDeliveryBlock, bind_run, read_run, hfound, pure_run]⟩
    | some found =>
      obtain ⟨i, turn, row⟩ := found
      have hreason := hd.released row (boundTo_of_blockSession hc hd.block hfound)
      refine ⟨true, ?_⟩
      simp only [retireUncertainSessionForDeliveryBlock, bind_run, read_run, hfound]
      cases hs : row.state with
      | retired ref opened why storedReason at_ =>
        rw [hs] at hreason
        simp only [bind_run, ensure_run, if_pos (Option.some.inj hreason), pure_run]
      | _ => rw [hs] at hreason; cases hreason
  obtain ⟨result, hsecond⟩ := hsecond
  simp only [resolveDeliveryBlock, bind_run, hfirst, hsecond, pure_run]

end Replay

/-! ## Whole runs -/

section Runs

variable [DecidableEq Json] [SerdeJson Json] [Sha256]

/-- What an operator can rely on after a run. -/
structure Resolvable (cs : List (Command Json)) : Prop where
  succeeds : ∀ b ∈ (run cs).deliveryBlocks, b.resolved = none → ∀ input now availableAtMs,
    validateResolution b.id input = .ok () → resolvedAvailability input now = .ok availableAtMs →
    (∀ row, BoundTo (run cs).toLedger b row → row.state.isRetired = false) →
    ∃ t, resolveDeliveryBlock b.id input now (run cs) = .ok ((), t) ∧
      Resolves (run cs) t b input now
  refused : ∀ b ∈ (run cs).deliveryBlocks, b.resolved = none → ∀ input now availableAtMs,
    validateResolution b.id input = .ok () → resolvedAvailability input now = .ok availableAtMs →
    ∀ row reason, BoundTo (run cs).toLedger b row → row.state.retiredReason = some reason →
    reason ≠ operatorResolvedReason b.id input.resolution →
    resolveDeliveryBlock b.id input now (run cs) =
      .error (.conflict "delivery block session was already retired differently")
  repeated : ∀ blockId input now t, resolveDeliveryBlock blockId input now (run cs) = .ok ((), t) →
    ∀ (later : List (Command Json)) now',
    cs ++ [.resolveDeliveryBlock blockId input now] <+: later → Fresh later →
    resolveDeliveryBlock blockId input now' (run later) = .ok ((), run later)

/-- After every run with fresh lease tokens, an open block whose session is not retired can be
resolved, and every resolution can be repeated in every later state. -/
theorem run_resolvable {cs : List (Command Json)} (h : Fresh cs) : Resolvable cs where
  succeeds _ hb hopen _ _ _ hvalid havail hcurrent :=
    resolveDeliveryBlock_run (run_invariant h).ledger hb hopen hvalid havail hcurrent
  refused _ hb hopen _ _ _ hvalid havail _ _ hbound hret hne :=
    resolveDeliveryBlock_conflict (run_invariant h).ledger hb hopen hvalid havail hbound hret hne
  repeated blockId input now t hok later now' hleads hfresh := by
    obtain ⟨ds, rfl⟩ := hleads
    obtain ⟨hvalid, b, rfl, hdecided⟩ := resolveDeliveryBlock_decided (run_invariant h).ledger hok
    have hstep : run (cs ++ [.resolveDeliveryBlock b.id input now]) = t := by
      rw [run_snoc]
      exact commit_of_ok hok
    have hlater : Decided (run (cs ++ [.resolveDeliveryBlock b.id input now] ++ ds)).toLedger
        b input :=
      run_induction_from (cs ++ [.resolveDeliveryBlock b.id input now])
        (fun _ (s : Store) => Decided s.toLedger b input) (hstep ▸ hdecided)
        (fun _ _ hds heff hd => (run_invariant hds.left).ledger.decided_moves heff.moves hd) hfresh
    exact hlater.replay (run_invariant hfresh).ledger hvalid

end Runs

/-- The sample's attempt is fenced and parked. -/
def parkedRun : List (Command Bool) := sampleArmed ++ [
  .markSessionInvocationUncertain "b" "i" ⟨"B", 1, 1⟩ "lost" 8,
  .blockDelivery "b" "m" ⟨"T", "lost"⟩ 9]

/-- The parked sample can be resolved. -/
theorem run_resolvable_parkedRun : Fresh parkedRun ∧ Resolvable parkedRun :=
  ⟨by decide, run_resolvable (by decide)⟩

set_option maxRecDepth 100000 in
/-- The parked sample's session is retired for another reason, and then its block cannot be
resolved any more. -/
theorem resolution_conflict_parkedRun :
    let cs := parkedRun ++ [.retireSessionBinding "b" ⟨"B", 1, 1⟩ "replaced" 10]
    Fresh cs ∧ (∃ b ∈ (run cs).deliveryBlocks, b.id = 1 ∧ b.resolved = none) ∧
      validateResolution 1 ⟨.requeue, none, 0⟩ = .ok () ∧
      resolvedAvailability ⟨.requeue, none, 0⟩ 11 = .ok 11 ∧
      resolveDeliveryBlock 1 ⟨.requeue, none, 0⟩ 11 (run cs) =
        .error (.conflict "delivery block session was already retired differently") := by
  refine ⟨by decide, ?_, ?_, ?_, ?_⟩ <;> decide +kernel

end Fleetd
