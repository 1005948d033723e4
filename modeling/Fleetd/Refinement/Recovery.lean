import Fleetd.Refinement.Settlement

/-!
# Expiry recovery is a sequence of moves

Recovery ends the expired reservations of an agent and parks its expired armed attempts one
after the other. On a consistent ledger every conflict check of a parking succeeds but one:
a turn that was fenced as uncertain and whose binding has been retired while the attempt
was still armed. Such an attempt is stranded, and recovery stops at it.
-/

namespace Fleetd

open Effects Relational Relational.Transaction

variable {s t : Store} {permits : Action → Prop}

/-- An armed attempt whose session generation was retired under it. -/
def Stranded (l : Ledger) (i : InvocationRow) : Prop :=
  ∃ turn ∈ l.sessionBindingTurns, turn.invocationId = i.id ∧
    ∃ row ∈ l.sessionBindings, row.key = turn.bindingKey ∧ row.state.isRetired = true

/-! ## Fencing the session of an expired attempt -/

/-- What fencing leaves of turns and bindings. -/
structure Fenced (l : Ledger) (turns : List SessionBindingTurn) (bindings : List SessionBinding)
    (invocationId : String) : Prop where
  uncertain : ∀ turn ∈ turns, turn.invocationId = invocationId → turn.state.isUncertain = true
  turns : ∀ turn ∈ turns, ∃ old ∈ l.sessionBindingTurns,
    old.invocationId = turn.invocationId ∧ old.bindingKey = turn.bindingKey
  bindings : ∀ row ∈ bindings, ∃ old ∈ l.sessionBindings,
    old.key = row.key ∧ (row.state.isRetired = true → old.state.isRetired = true)

/-- Nothing has to be fenced. -/
theorem Fenced.refl {l : Ledger} {invocationId : String}
    (h : ∀ turn ∈ l.sessionBindingTurns, turn.invocationId = invocationId →
      turn.state.isUncertain = true) :
    Fenced l l.sessionBindingTurns l.sessionBindings invocationId :=
  ⟨h, fun turn ht => ⟨turn, ht, rfl, rfl⟩, fun row hr => ⟨row, hr, rfl, id⟩⟩

/-- The turn in flight of an invocation is fenced with its binding. -/
theorem Fenced.fence {l : Ledger} (hc : Consistent l) {turn : SessionBindingTurn}
    {row : SessionBinding} (hrow : row ∈ l.sessionBindings) (hturn : turn ∈ l.sessionBindingTurns)
    (hact : row.state.isActiveOn turn.invocationId = true) (now : Int) (reason : String) :
    Fenced l (replaceRow turn { turn with state := .uncertain now reason } l.sessionBindingTurns)
      (replaceRow row (uncertainColumns reason now row) l.sessionBindings) turn.invocationId where
  uncertain u hu hid := by
    rcases mem_replaceRow.mp hu with ⟨rfl, _⟩ | ⟨hu, hne⟩
    · rfl
    · exact absurd (hc.turnIds.eq hu hturn hid) hne
  turns u hu := by
    rcases mem_replaceRow.mp hu with ⟨rfl, _⟩ | ⟨hu, _⟩
    · exact ⟨turn, hturn, rfl, rfl⟩
    · exact ⟨u, hu, rfl, rfl⟩
  bindings r hr := by
    rcases mem_replaceRow.mp hr with ⟨rfl, _⟩ | ⟨hr, _⟩
    · refine ⟨row, hrow, rfl, fun hret => ?_⟩
      cases hs : row.state <;> rw [hs] at hact <;> first | cases hact | skip
      simp [uncertainColumns, hs, SessionBindingState.toUncertain,
        SessionBindingState.isRetired] at hret
    · exact ⟨r, hr, rfl, id⟩

/-- The bounds that the presented binding of a turn passes. -/
theorem validateBinding_ok {binding : Binding} (h : validateBinding binding = .ok ()) :
    0 < binding.bindingGeneration ∧ binding.bindingGeneration ≤ i64Max ∧
      0 < binding.ownerEpoch ∧ binding.ownerEpoch ≤ i64Max := by
  rw [validateBinding, except_bind_ok] at h
  obtain ⟨_, _, h⟩ := h
  rw [except_bind_ok] at h
  obtain ⟨_, hgen, h⟩ := h
  rw [except_bind_ok] at h
  obtain ⟨_, hepoch, _⟩ := h
  exact ⟨(asI64_ok hgen).2.1, (asI64_ok hgen).2.2, (asI64_ok hepoch).2.1, (asI64_ok hepoch).2.2⟩

/-- A valid binding has a fence. -/
theorem ownerFence_new_eq {agentId : String} {binding : Binding}
    (h : validateBinding binding = .ok ()) :
    OwnerFence.new agentId binding =
      .ok ⟨binding.bindingId, binding.bindingGeneration, agentId, binding.ownerEpoch⟩ := by
  obtain ⟨hg, hg', he, he'⟩ := validateBinding_ok h
  simp only [OwnerFence.new, asI64_eq hg hg', asI64_eq he he']
  rfl

/-- Fencing the turn in flight of a binding succeeds. -/
theorem markTurnUncertain_run {l : Ledger} (hc : Consistent l) {mid : Store}
    (hT : mid.sessionBindingTurns = l.sessionBindingTurns)
    (hS : mid.sessionBindings = l.sessionBindings) {turn : SessionBindingTurn}
    {row : SessionBinding} (hturn : turn ∈ l.sessionBindingTurns) (hrow : row ∈ l.sessionBindings)
    (hkey : row.key = turn.bindingKey) (hepoch : turn.ownerEpoch = row.ownerEpoch)
    (hactive : turn.state = .active) (hact : row.state.isActiveOn turn.invocationId = true)
    (reason : String) (now : Int) :
    markTurnUncertain row.agentId turn.invocationId
        ⟨turn.bindingId, turn.bindingGeneration, turn.ownerEpoch⟩ reason now mid =
      .ok ((), { mid with
        sessionBindingTurns :=
          replaceRow turn { turn with state := .uncertain now reason } l.sessionBindingTurns
        sessionBindings :=
          replaceRow row (uncertainColumns reason now row) l.sessionBindings }) := by
  have hvalid := hc.turnValid turn hturn
  have hfence : (⟨turn.bindingId, turn.bindingGeneration, row.agentId, turn.ownerEpoch⟩ :
      OwnerFence) = .fromStored row := by
    obtain ⟨hb, hg⟩ : row.bindingId = turn.bindingId ∧
        row.bindingGeneration = turn.bindingGeneration := Prod.ext_iff.mp hkey
    rw [OwnerFence.fromStored, hb, hg, hepoch]
  have hupd := updateActiveTurn_run (s := mid) (.uncertain now reason)
    "session turn changed while fencing uncertainty" (hT ▸ hc.turnIds) (hT ▸ hturn) hactive
  simp only [markTurnUncertain, bind_run, hupd, ownerFence_new_eq hvalid, check_ok_run, hT]
  rw [OwnerFence.update_run (uncertainColumns reason now) (by rw [hS]; exact hc.bindingKeys)
    (by rw [hS]; exact hrow) hfence hact, hS]

/-- Fencing the session of an armed attempt fails only when the attempt is stranded. -/
theorem markExpired_run {l : Ledger} (hc : Consistent l) (mid : Store)
    (hT : mid.sessionBindingTurns = l.sessionBindingTurns)
    (hS : mid.sessionBindings = l.sessionBindings) {i : InvocationRow} (hi : i ∈ l.invocations)
    (harmed : i.state.isArmed = true) (hp : permits .internal) (reason : String) (now : Int) :
    (Stranded l i ∧ ∃ e, markExpiredSessionTurnUncertain i.id reason now mid = .error e) ∨
      ∃ turns bindings,
        markExpiredSessionTurnUncertain i.id reason now mid =
          .ok ((), { mid with sessionBindingTurns := turns, sessionBindings := bindings }) ∧
        Moves permits l { l with sessionBindingTurns := turns, sessionBindings := bindings } ∧
        Fenced l turns bindings i.id := by
  cases hfind : turnOf i.id l.sessionBindingTurns with
  | none =>
    have hnone : ∀ turn ∈ l.sessionBindingTurns, turn.invocationId ≠ i.id := by
      intro turn hturn hid
      exact absurd (List.find?_eq_none.mp hfind turn hturn) (by simp [hid])
    refine .inr ⟨l.sessionBindingTurns, l.sessionBindings, ?_, .refl, .refl fun turn hturn hid =>
      absurd hid (hnone turn hturn)⟩
    simp only [markExpiredSessionTurnUncertain, bind_run, read_run, hT, hfind, Option.bind_none,
      pure_run]
    rw [← hS, ← hT]
  | some turn =>
    have hturn : turn ∈ l.sessionBindingTurns := List.mem_of_find?_eq_some hfind
    have hid : turn.invocationId = i.id := by simpa using List.find?_some hfind
    obtain ⟨row, hrow, hkey⟩ := List.mem_map.mp (hc.turnBinding turn hturn)
    have hrowfind : l.sessionBindings.find? (fun r => decide (r.key = turn.bindingKey)) = some row :=
      hc.bindingKeys.find?_eq_some hrow (by simp [hkey]) fun r _ hr => by
        rw [of_decide_eq_true hr, hkey]
    have hfit := hc.turnFits turn hturn i hi hid.symm
    have hbound := hc.turnBound turn hturn row hrow hkey
    have hread : markExpiredSessionTurnUncertain i.id reason now mid =
        fenceExpiredTurn i.id reason now turn row mid := by
      simp only [markExpiredSessionTurnUncertain, bind_run, read_run, hT, hfind, Option.bind_some, hS,
        hrowfind, Option.map_some]
    unfold TurnBound at hbound
    cases hstate : turn.state with
    | quiescent at_ persistence =>
      rw [hstate] at hfit
      exact absurd hfit (not_turnFits_quiescent harmed)
    | active =>
      rw [hstate] at hbound
      obtain ⟨ref, opened, active, hrs⟩ : ∃ ref opened active, row.state = .active ref opened active := by
        cases hs : row.state <;> rw [hs] at hbound <;> first | cases hbound | skip
        exact ⟨_, _, _, rfl⟩
      have hcur := SessionBindingState.activeInvocationId_of_isActiveOn hbound
      obtain ⟨u, hu, huid, _, hepoch, _⟩ := hc.current row hrow _ hcur
      obtain rfl := hc.turnIds.eq hu hturn huid
      obtain ⟨hgen, _, hown, _⟩ : 0 < u.bindingGeneration ∧ u.bindingGeneration ≤ i64Max ∧
        0 < u.ownerEpoch ∧ u.ownerEpoch ≤ i64Max := validateBinding_ok (hc.turnValid u hu)
      refine .inr ⟨_, _, ?_, .single hp (.fence row u reason now hrow hu hkey.symm hbound hstate),
        hid ▸ Fenced.fence hc hrow hu hbound now reason⟩
      have hmark := markTurnUncertain_run hc hT hS hu hrow hkey hepoch hstate hbound reason now
      rw [hread, ← hid, fenceExpiredTurn, bind_run, ensure_run, if_pos hcur]
      simp only [hstate, hrs, bind_run, positiveU64, if_pos hgen, if_pos hown, check_ok_run, hmark]
    | uncertain at_ why =>
      rw [hstate] at hbound
      rcases hbound with hbound | hretired
      · have hcur := SessionBindingState.activeInvocationId_of_isUncertainOn hbound
        obtain ⟨ref, opened, active, r, hrs⟩ : ∃ ref opened active r,
            row.state = .uncertain ref opened active r := by
          cases hs : row.state <;> rw [hs] at hbound <;> first | cases hbound | skip
          exact ⟨_, _, _, _, rfl⟩
        refine .inr ⟨l.sessionBindingTurns, l.sessionBindings, ?_, .refl, .refl fun u hu huid => ?_⟩
        · rw [hid] at hcur
          rw [hread, fenceExpiredTurn, bind_run, ensure_run, if_pos hcur]
          simp only [hstate, hrs, pure_run]
          rw [← hS, ← hT]
        · rw [hc.turnIds.eq hu hturn (huid.trans hid.symm), hstate]
          rfl
      · refine .inl ⟨⟨turn, hturn, hid, row, hrow, hkey, hretired⟩, ?_⟩
        have hnone : row.state.activeInvocationId ≠ some i.id := by
          rw [SessionBindingState.activeInvocationId_of_isRetired hretired]
          exact nofun
        rw [hread, fenceExpiredTurn, bind_run, ensure_run, if_neg hnone]
        exact ⟨_, rfl⟩

/-! ## Parking -/

/-- An armed attempt of an agent whose lease has expired. -/
structure Parkable (l : Ledger) (agentId : String) (now : Int) (i : InvocationRow) : Prop where
  row : i ∈ l.invocations
  armed : i.state.isArmed = true
  agent : i.agentId = agentId
  expired : i.leaseExpiresAtMs ≤ now

/-- The attempt after its lease expired. -/
def expiredColumns (now : Int) (i : InvocationRow) : InvocationRow :=
  terminalColumns now .outcomeUnknown .leaseExpiredAfterDispatchArmed i

/-- What is durably known about a parked attempt. -/
structure Parked (l : Ledger) (now : Int) (i : InvocationRow) : Prop where
  invocation : expiredColumns now i ∈ l.invocations
  delivery : ∃ d ∈ l.agentDeliveries, d.key = i.deliveryKey ∧ d.state = .blocked
  block : ∃ b ∈ l.deliveryBlocks, b.deliveryKey = i.deliveryKey ∧ b.attempt = i.deliveryAttempt ∧
    b.leaseToken = i.leaseToken ∧ b.reason = expiredReason i.id ∧ b.resolved = none

/-- The delivery of an expired armed attempt, as its parking selects it. -/
theorem Parkable.exists_delivery {l : Ledger} (hc : Consistent l) {agentId : String} {now : Int}
    {i : InvocationRow} (hi : Parkable l agentId now i) :
    ∃ d ∈ l.agentDeliveries, d.key = i.deliveryKey ∧ d.attempt = i.deliveryAttempt ∧
      d.state = .leased i.leaseToken i.leaseExpiresAtMs := by
  obtain ⟨d, hd, hk⟩ := hc.exists_delivery hi.row
  obtain ⟨hs, ha⟩ := (hc.leaseFits d hd i hi.row hk.symm).held (isTerminal_of_isArmed hi.armed)
  exact ⟨d, hd, hk, ha, hs⟩

/-- The armed attempt is the only open one at its delivery. -/
theorem Parkable.openFor_eq {l : Ledger} (hc : Consistent l) {agentId : String} {now : Int}
    {i : InvocationRow} (hi : Parkable l agentId now i) {j : InvocationRow}
    (hj : j ∈ l.invocations) : openFor i.deliveryKey j = decide (j.id = i.id) := by
  rw [Bool.eq_iff_iff, openFor, Bool.and_eq_true, decide_eq_true_eq, Bool.not_eq_true',
    decide_eq_true_eq]
  constructor
  · rintro ⟨hk, ho⟩
    rw [hc.open_unique hj hi.row hk ho (isTerminal_of_isArmed hi.armed)]
  · intro hid
    rw [hc.invocationIds.eq hj hi.row hid]
    exact ⟨rfl, isTerminal_of_isArmed hi.armed⟩

/-- The database after one parking, before its session is fenced. -/
def expiredStore (s : Store) (i : InvocationRow) (d : AgentDelivery) (now : Int) : Store :=
  parkedStore s d (blockedColumns i.leaseToken (expiredReason i.id) d)
    (blockEvidence s d i.leaseToken (expiredReason i.id) now) now .leaseExpiredAfterDispatchArmed

/-- The rows of a parking are all there. -/
theorem parkExpired_run (hc : Consistent s.toLedger) {agentId : String} {now : Int}
    {i : InvocationRow} (hi : Parkable s.toLedger agentId now i) {d : AgentDelivery}
    (hd : d ∈ s.agentDeliveries) (hk : d.key = i.deliveryKey) (ha : d.attempt = i.deliveryAttempt)
    (hs : d.state = .leased i.leaseToken i.leaseExpiresAtMs) :
    parkExpiredArmedInvocation i i.deliveryAttempt agentId now s =
      markExpiredSessionTurnUncertain i.id (expiredReason i.id) now (expiredStore s i d now) := by
  obtain ⟨hks, hka⟩ : d.messageSeq = i.messageSeq ∧ d.agentId = i.agentId := Prod.ext_iff.mp hk
  have hsel : LeasedRow.selects ⟨.seq i.messageSeq, agentId, i.leaseToken, .expired, now⟩ s.messages
      d = true := by
    rw [LeasedRow.selects_iff]
    exact ⟨by simp [DeliveryKey.predicate, hks], hka.trans hi.agent, i.leaseExpiresAtMs, hs,
      by simpa [LeaseWindow.predicate] using hi.expired⟩
  have hblock : blockExpiredLease agentId i.messageSeq i.leaseToken (expiredReason i.id) now s = _ :=
    LeasedRow.update_run (blockedColumns i.leaseToken (expiredReason i.id)) hc.deliveryKeys hd hsel
  have hpos : 0 < i.deliveryAttempt := ha ▸ hc.leasedAttempt d hd (by rw [hs]; rfl)
  have hnew : ∀ b ∈ s.deliveryBlocks,
      ¬ (b.deliveryKey = (i.messageSeq, agentId) ∧ b.leaseToken = i.leaseToken) := by
    rintro b hb ⟨hbk, hbt⟩
    refine hc.no_block hd hb ?_ (by rw [hs]; rfl) hbt
    rw [hbk, ← hi.agent, hk]
    rfl
  have hsame : ∀ j ∈ s.invocations,
      (decide (j.id = i.id) && j.state.isArmed) = openFor d.key j := by
    intro j hj
    rw [hk, hi.openFor_eq hc hj]
    by_cases hid : j.id = i.id
    · rw [hc.invocationIds.eq hj hi.row hid, hi.armed]
      simp
    · simp [hid]
  have hone : s.invocations.countP (fun j => decide (j.id = i.id) && j.state.isArmed) = 1 := by
    refine hc.invocationIds.countP_eq_one hi.row (by simp [hi.armed]) fun j _ hj => ?_
    rw [Bool.and_eq_true, decide_eq_true_eq] at hj
    exact hj.1
  simp only [parkExpiredArmedInvocation, bind_run, hblock, ensure_run, if_true, recordBlock, read_run,
    if_pos hpos, if_pos hnew, write_run, hone]
  rw [updateWhere_congr hsame fun _ _ _ => rfl, expiredStore, parkedStore, blockEvidence, hks, hka,
    ha, hi.agent]

/-- What parking a list of attempts does, and what it leaves alone. -/
structure Parks (l l' : Ledger) (now : Int) (rows : List InvocationRow) : Prop where
  invocations : l'.invocations =
    updateWhere (fun j => decide (j.id ∈ rows.map (·.id))) (expiredColumns now) l.invocations
  blocked : ∀ e ∈ l.agentDeliveries, e.state = .blocked → e ∈ l'.agentDeliveries
  blocks : ∀ b ∈ l.deliveryBlocks, b ∈ l'.deliveryBlocks
  stranded : ∀ j, Stranded l' j → Stranded l j
  parked : ∀ i ∈ rows, Parked l' now i

/-- Nothing to park. -/
theorem Parks.nil (l : Ledger) (now : Int) : Parks l l now [] where
  invocations := (updateWhere_eq_self fun _ _ => rfl).symm
  blocked _ he _ := he
  blocks _ hb := hb
  stranded _ hj := hj
  parked _ hi := by cases hi

/-- An attempt that was parked stays parked while others are. -/
theorem Parked.parks {l l' : Ledger} {now : Int} {rows : List InvocationRow} {i : InvocationRow}
    (hi : Parked l now i) (h : Parks l l' now rows) (hne : i.id ∉ rows.map (·.id)) :
    Parked l' now i where
  invocation := by
    rw [h.invocations]
    exact mem_updateWhere_of_neg hi.invocation (by simpa [expiredColumns, terminalColumns] using hne)
  delivery := by
    obtain ⟨d, hd, hk, hs⟩ := hi.delivery
    exact ⟨d, h.blocked d hd hs, hk, hs⟩
  block := by
    obtain ⟨b, hb, hrest⟩ := hi.block
    exact ⟨b, h.blocks b hb, hrest⟩

/-- One parking after the other. -/
theorem Parks.cons {l l' l'' : Ledger} {now : Int} {i : InvocationRow} {rows : List InvocationRow}
    (h : Parks l l' now [i]) (h' : Parks l' l'' now rows) (hne : i.id ∉ rows.map (·.id)) :
    Parks l l'' now (i :: rows) where
  invocations := by
    rw [h'.invocations, h.invocations, updateWhere_updateWhere fun x _ hx => ?_]
    · refine updateWhere_congr (fun x _ => ?_) fun _ _ _ => rfl
      simp
    · rw [decide_eq_true_eq, List.map_singleton, List.mem_singleton] at hx
      rw [decide_eq_false_iff_not]
      exact fun hmem => hne (hx ▸ hmem)
  blocked e he hs := h'.blocked e (h.blocked e he hs) hs
  blocks b hb := h'.blocks b (h.blocks b hb)
  stranded j hj := h.stranded j (h'.stranded j hj)
  parked j hj := by
    rcases List.mem_cons.mp hj with rfl | hj
    · exact (h.parked j (List.mem_singleton_self j)).parks h' hne
    · exact h'.parked j hj

/-- Parking one expired armed attempt succeeds unless the attempt is stranded. -/
theorem parkExpired_spec (hc : Consistent s.toLedger) (hp : permits .internal) {agentId : String}
    {now : Int} {i : InvocationRow} (hi : Parkable s.toLedger agentId now i) :
    (Stranded s.toLedger i ∧
      ∃ e, parkExpiredArmedInvocation i i.deliveryAttempt agentId now s = .error e) ∨
    ∃ t, parkExpiredArmedInvocation i i.deliveryAttempt agentId now s = .ok ((), t) ∧
      Advances permits s t ∧ Parks s.toLedger t.toLedger now [i] := by
  obtain ⟨d, hd, hk, ha, hs⟩ := hi.exists_delivery hc
  rw [parkExpired_run hc hi hd hk ha hs]
  obtain ⟨hstranded, herror⟩ | ⟨turns, bindings, hok, hfence, hfenced⟩ :=
    markExpired_run hc (expiredStore s i d now) rfl rfl hi.row hi.armed hp
      (expiredReason i.id) now
  · exact .inl ⟨hstranded, herror⟩
  refine .inr ⟨_, hok, ⟨rfl, ?_⟩, ?_⟩
  · -- the rows of the session and those of the delivery are different tables
    have hmid := hc.moves hfence
    refine Moves.trans hfence (.single hp ?_)
    refine .park d (blockedColumns i.leaseToken (expiredReason i.id) d)
      (blockEvidence s d i.leaseToken (expiredReason i.id) now) now .leaseExpiredAfterDispatchArmed
      hd (by rw [hs]; rfl) rfl rfl rfl ⟨rfl, rfl, rfl, rfl⟩ fun j hj hopen turn hturn hid => ?_
    rw [hk, hi.openFor_eq hc hj, decide_eq_true_eq] at hopen
    exact hfenced.uncertain turn hturn (hid.trans hopen)
  · have hinv : updateWhere (openFor d.key)
        (terminalColumns now .outcomeUnknown .leaseExpiredAfterDispatchArmed) s.invocations =
        updateWhere (fun j => decide (j.id ∈ [i].map (·.id))) (expiredColumns now) s.invocations := by
      refine updateWhere_congr (fun j hj => ?_) fun _ _ _ => rfl
      rw [hk, hi.openFor_eq hc hj]
      simp
    refine ⟨hinv, fun e he hb => ?_, fun b hb => List.mem_append_left _ hb, fun j hj => ?_,
      fun j hj => ?_⟩
    · refine mem_replaceRow.mpr (.inr ⟨he, fun heq => ?_⟩)
      rw [heq, hs] at hb
      cases hb
    · obtain ⟨turn, hturn, hid, row, hrow, hkey, hretired⟩ := hj
      obtain ⟨old, hold, holdid, holdkey⟩ := hfenced.turns turn hturn
      obtain ⟨was, hwas, hwaskey, hwasretired⟩ := hfenced.bindings row hrow
      exact ⟨old, hold, holdid.trans hid, was, hwas, hwaskey.trans (hkey.trans holdkey.symm),
        hwasretired hretired⟩
    · obtain rfl := List.mem_singleton.mp hj
      refine ⟨?_, ⟨_, mem_replaceRow.mpr (.inl ⟨rfl, hd⟩), hk, rfl⟩, ?_⟩
      · have hmem : expiredColumns now j ∈ updateWhere (openFor d.key)
            (terminalColumns now .outcomeUnknown .leaseExpiredAfterDispatchArmed) s.invocations := by
          rw [hinv]
          exact mem_updateWhere_of_pos hi.row (by simp)
        exact hmem
      · exact ⟨_, List.mem_append_right _ (List.mem_singleton_self _), hk, ha, rfl, rfl, rfl⟩

/-- Parking a list of expired armed attempts stops only at a stranded one. -/
theorem parkAll_spec (hp : permits .internal) {agentId : String} {now : Int}
    (rows : List InvocationRow) :
    ∀ {s : Store}, Consistent s.toLedger → (∀ i ∈ rows, Parkable s.toLedger agentId now i) →
    (rows.map (·.id)).Nodup →
    ((∃ i ∈ rows, Stranded s.toLedger i) ∧
      ∃ e, parkAll agentId now (rows.map fun i => (i, i.deliveryAttempt)) s = .error e) ∨
    ∃ t, parkAll agentId now (rows.map fun i => (i, i.deliveryAttempt)) s = .ok (rows.length, t) ∧
      Advances permits s t ∧ Parks s.toLedger t.toLedger now rows := by
  induction rows with
  | nil => exact fun {s} _ _ _ => .inr ⟨s, rfl, .refl s, .nil _ _⟩
  | cons i rest ih =>
    intro s hc hrows hnodup
    rw [List.map_cons, List.nodup_cons] at hnodup
    simp only [List.map_cons, parkAll, bind_run]
    rcases parkExpired_spec hc hp (hrows i (List.mem_cons_self ..)) with
      ⟨hstranded, e, herror⟩ | ⟨mid, hok, hadv, hparks⟩
    · exact .inl ⟨⟨i, List.mem_cons_self .., hstranded⟩, e, by rw [herror]⟩
    -- the remaining attempts are still armed, because parking one touches no other
    have hrest : ∀ j ∈ rest, Parkable mid.toLedger agentId now j := by
      intro j hj
      have hjs := hrows j (List.mem_cons_of_mem _ hj)
      refine ⟨?_, hjs.armed, hjs.agent, hjs.expired⟩
      rw [hparks.invocations]
      refine mem_updateWhere_of_neg hjs.row ?_
      rw [decide_eq_false_iff_not, List.map_singleton, List.mem_singleton]
      exact fun heq => hnodup.1 (heq ▸ List.mem_map_of_mem hj)
    rcases ih (hadv.consistent hc) hrest hnodup.2 with
      ⟨⟨j, hj, hstranded⟩, e, herror⟩ | ⟨t, hok', hadv', hparks'⟩
    · refine .inl ⟨⟨j, List.mem_cons_of_mem _ hj, hparks.stranded j hstranded⟩, e, ?_⟩
      simp only [hok, herror]
    · refine .inr ⟨t, ?_, hadv.trans hadv', hparks.cons hparks' hnodup.1⟩
      simp only [hok, hok', pure_run, List.length_cons]

/-! ## Recovery of one agent -/

/-- What recovery does to one attempt. -/
def recoveredRow (agentId : String) (now : Int) (i : InvocationRow) : InvocationRow :=
  if i.agentId = agentId ∧ i.leaseExpiresAtMs ≤ now then
    match i.state with
    | .reserved => terminalColumns now .notStarted .reservationExpiredBeforeDispatch i
    | .dispatchArmed _ => expiredColumns now i
    | .terminal .. => i
  else i

/-- What recovery of one agent does. -/
structure Recovers (l l' : Ledger) (agentId : String) (now : Int) : Prop where
  invocations : l'.invocations = l.invocations.map (recoveredRow agentId now)
  parked : ∀ i, Parkable l agentId now i → Parked l' now i

/-- The delivery of an open attempt still holds its lease. -/
theorem holdsExpiredLease_iff {l : Ledger} (hc : Consistent l) {i : InvocationRow}
    (hi : i ∈ l.invocations) (ho : i.state.isTerminal = false) {now : Int} {d : AgentDelivery}
    (hd : d ∈ l.agentDeliveries) :
    holdsExpiredLease i now d = true ↔ d.key = i.deliveryKey ∧ i.leaseExpiresAtMs ≤ now := by
  unfold holdsExpiredLease
  rw [Bool.and_eq_true, decide_eq_true_eq]
  refine and_congr_right fun hk => ?_
  rw [((hc.leaseFits d hd i hi hk.symm).held ho).1]
  simp

/-- The delivery of an expired open attempt is found by its lease. -/
theorem find_holdsExpiredLease {l : Ledger} (hc : Consistent l) {i : InvocationRow}
    (hi : i ∈ l.invocations) (ho : i.state.isTerminal = false) {now : Int}
    (hexp : i.leaseExpiresAtMs ≤ now) :
    ∃ d, l.agentDeliveries.find? (holdsExpiredLease i now) = some d ∧
      d.attempt = i.deliveryAttempt := by
  obtain ⟨d, hd, hk⟩ := hc.exists_delivery hi
  refine ⟨d, ?_, ((hc.leaseFits d hd i hi hk.symm).held ho).2⟩
  refine hc.deliveryKeys.find?_eq_some hd ((holdsExpiredLease_iff hc hi ho hd).mpr ⟨hk, hexp⟩)
    fun e he hes => ?_
  rw [((holdsExpiredLease_iff hc hi ho he).mp hes).1, hk]

/-- The expired armed attempts of an agent, oldest reservation first. -/
def expiredArmed (agentId : String) (now : Int) (l : Ledger) : List InvocationRow :=
  (l.invocations.filter fun i =>
      i.agentId = agentId ∧ i.state.isArmed ∧ i.leaseExpiresAtMs ≤ now).insertionSort
    (fun a b => a.reservedAtMs < b.reservedAtMs ∨
      (a.reservedAtMs = b.reservedAtMs ∧ ¬ b.id < a.id))

theorem mem_expiredArmed {agentId : String} {now : Int} {l : Ledger} {i : InvocationRow} :
    i ∈ expiredArmed agentId now l ↔ Parkable l agentId now i := by
  rw [expiredArmed, List.mem_insertionSort, List.mem_filter, decide_eq_true_eq]
  exact ⟨fun h => ⟨h.1, h.2.2.1, h.2.1, h.2.2.2⟩, fun h => ⟨h.row, h.agent, h.armed, h.expired⟩⟩

/-- Recovery reads exactly the expired armed attempts, each with its own attempt number. -/
theorem expiredArmedInvocations_eq (hc : Consistent s.toLedger) (agentId : String) (now : Int) :
    expiredArmedInvocations agentId now s =
      (expiredArmed agentId now s.toLedger).map fun i => (i, i.deliveryAttempt) := by
  rw [expiredArmedInvocations, ← List.filterMap_eq_map]
  refine List.filterMap_congr fun i hi => ?_
  have hpark := mem_expiredArmed.mp hi
  obtain ⟨d, hd, ha⟩ := find_holdsExpiredLease hc hpark.row (isTerminal_of_isArmed hpark.armed)
    hpark.expired
  rw [hd, Option.map_some, ha]
  rfl

/-- Whether recovery ends an attempt as never started. -/
def reservationExpired (agentId : String) (now : Int) (i : InvocationRow) : Bool :=
  decide (i.agentId = agentId) && decide (i.state = .reserved) && decide (i.leaseExpiresAtMs ≤ now)

/-- The database after the expired reservations of an agent were ended. -/
def withoutReservations (s : Store) (agentId : String) (now : Int) : Store :=
  { s with
    invocations := updateWhere (reservationExpired agentId now)
      (terminalColumns now .notStarted .reservationExpiredBeforeDispatch) s.invocations }

/-- Ending the expired reservations always succeeds. -/
theorem terminalizeExpiredReservations_run (hc : Consistent s.toLedger) (agentId : String)
    (now : Int) :
    ∃ n, terminalizeExpiredReservations agentId now s =
      .ok (n, withoutReservations s agentId now) := by
  have hsame : updateWhere (fun i : InvocationRow => decide (i.agentId = agentId) &&
        decide (i.state = .reserved) && decide (i.leaseExpiresAtMs ≤ now) &&
        s.agentDeliveries.any (holdsExpiredLease i now))
        (terminalColumns now .notStarted .reservationExpiredBeforeDispatch) s.invocations =
      updateWhere (reservationExpired agentId now)
        (terminalColumns now .notStarted .reservationExpiredBeforeDispatch) s.invocations := by
    refine updateWhere_congr (fun i hi => ?_) fun _ _ _ => rfl
    rw [Bool.eq_iff_iff, Bool.and_eq_true]
    refine ⟨And.left, fun h => ⟨h, ?_⟩⟩
    simp only [reservationExpired, Bool.and_eq_true, decide_eq_true_eq] at h
    obtain ⟨d, hd, _⟩ := find_holdsExpiredLease hc hi (by rw [h.1.2]; rfl) h.2
    exact List.any_eq_true.mpr ⟨d, List.mem_of_find?_eq_some hd, List.find?_some hd⟩
  rw [withoutReservations, ← hsame]
  exact ⟨_, rfl⟩

/-- Ending the expired reservations is a move. -/
theorem withoutReservations_advances (hp : permits .internal) (agentId : String) (now : Int) :
    Advances permits s (withoutReservations s agentId now) := by
  refine .single hp (.expire (reservationExpired agentId now) now fun i _ hsel => ?_)
  simp only [reservationExpired, Bool.and_eq_true, decide_eq_true_eq] at hsel
  exact hsel.1.2

/-- An armed attempt is not a reservation. -/
theorem reservationExpired_of_isArmed {agentId : String} {now : Int} {i : InvocationRow}
    (ha : i.state.isArmed = true) : reservationExpired agentId now i = false := by
  rw [Bool.eq_false_iff]
  intro hsel
  simp only [reservationExpired, Bool.and_eq_true, decide_eq_true_eq] at hsel
  rw [hsel.1.2] at ha
  cases ha

/-- The expired armed attempts are the same before and after the reservations were ended. -/
theorem parkable_withoutReservations {agentId : String} {now : Int} {i : InvocationRow} :
    Parkable (withoutReservations s agentId now).toLedger agentId now i ↔
      Parkable s.toLedger agentId now i := by
  constructor
  · rintro ⟨hi, ha, hagent, hexp⟩
    refine ⟨?_, ha, hagent, hexp⟩
    obtain ⟨j, hj, rfl⟩ := mem_updateWhere.mp hi
    by_cases hsel : reservationExpired agentId now j = true
    · rw [if_pos hsel] at ha
      cases ha
    · rwa [if_neg hsel]
  · rintro ⟨hi, ha, hagent, hexp⟩
    exact ⟨mem_updateWhere_of_neg hi (reservationExpired_of_isArmed ha), ha, hagent, hexp⟩

/-- Both parts of recovery together, seen on one attempt. -/
theorem recoveredRow_eq {agentId : String} {now : Int} {l : Ledger} {i : InvocationRow}
    (hi : i ∈ l.invocations) {ids : List String}
    (hids : i.id ∈ ids ↔ Parkable l agentId now i) :
    (if i.id ∈ ids then expiredColumns now i
    else if reservationExpired agentId now i then
      terminalColumns now .notStarted .reservationExpiredBeforeDispatch i
    else i) = recoveredRow agentId now i := by
  unfold recoveredRow
  by_cases hexp : i.agentId = agentId ∧ i.leaseExpiresAtMs ≤ now
  · rw [if_pos hexp]
    cases hs : i.state with
    | dispatchArmed at_ => rw [if_pos (hids.mpr ⟨hi, by rw [hs]; rfl, hexp.1, hexp.2⟩)]
    | reserved =>
      have hnot : i.id ∉ ids := fun h => by
        have harmed := (hids.mp h).armed
        rw [hs] at harmed
        cases harmed
      rw [if_neg hnot, if_pos (by simp [reservationExpired, hs, hexp.1, hexp.2])]
    | terminal =>
      have hnot : i.id ∉ ids := fun h => by
        have harmed := (hids.mp h).armed
        rw [hs] at harmed
        cases harmed
      rw [if_neg hnot, if_neg (by simp [reservationExpired, hs])]
  · rw [if_neg hexp, if_neg fun h => hexp ⟨(hids.mp h).agent, (hids.mp h).expired⟩, if_neg]
    intro h
    simp only [reservationExpired, Bool.and_eq_true, decide_eq_true_eq] at h
    exact hexp ⟨h.1.1, h.2⟩

/-- The expired armed attempts have distinct identifiers. -/
theorem expiredArmed_nodup {l : Ledger} (hc : Consistent l) (agentId : String) (now : Int) :
    ((expiredArmed agentId now l).map (·.id)).Nodup := by
  have hperm := (List.perm_insertionSort (fun a b : InvocationRow =>
    a.reservedAtMs < b.reservedAtMs ∨ (a.reservedAtMs = b.reservedAtMs ∧ ¬ b.id < a.id))
    (l.invocations.filter fun i =>
      i.agentId = agentId ∧ i.state.isArmed ∧ i.leaseExpiresAtMs ≤ now)).map InvocationRow.id
  exact hperm.nodup_iff.mpr (hc.invocationIds.sublist (List.filter_sublist.map _))

/-- Parking after ending the reservations recovers every attempt of the agent. -/
theorem Parks.recovers (hc : Consistent s.toLedger) {agentId : String} {now : Int}
    (h : Parks (withoutReservations s agentId now).toLedger t.toLedger now
      (expiredArmed agentId now (withoutReservations s agentId now).toLedger)) :
    Recovers s.toLedger t.toLedger agentId now where
  invocations := by
    rw [h.invocations]
    generalize hrows : expiredArmed agentId now (withoutReservations s agentId now).toLedger = rows
    have hids : ∀ i ∈ s.invocations,
        i.id ∈ rows.map (·.id) ↔ Parkable s.toLedger agentId now i := by
      intro i hi
      rw [← hrows, List.mem_map]
      constructor
      · rintro ⟨j, hj, hid⟩
        have hpark := parkable_withoutReservations.mp (mem_expiredArmed.mp hj)
        rwa [← hc.invocationIds.eq hpark.row hi hid]
      · exact fun hpark => ⟨i, mem_expiredArmed.mpr (parkable_withoutReservations.mpr hpark), rfl⟩
    rw [withoutReservations, updateWhere, updateWhere, List.map_map]
    refine List.map_congr_left fun i hi => ?_
    rw [← recoveredRow_eq hi (hids i hi), Function.comp_apply]
    by_cases hsel : reservationExpired agentId now i = true
    · have hnot : i.id ∉ rows.map (·.id) := fun hmem => by
        rw [reservationExpired_of_isArmed ((hids i hi).mp hmem).armed] at hsel
        cases hsel
      rw [if_neg hnot, if_pos hsel, if_neg]
      rw [decide_eq_true_eq]
      exact hnot
    · simp only [if_neg hsel, decide_eq_true_eq]
  parked i hi :=
    h.parked i (mem_expiredArmed.mpr (parkable_withoutReservations.mpr hi))

/-- Recovery of one agent succeeds unless one of its expired armed attempts is stranded. -/
theorem recover_spec (hc : Consistent s.toLedger) (hp : permits .internal) (agentId : String)
    (now : Int) :
    ((∃ i, Parkable s.toLedger agentId now i ∧ Stranded s.toLedger i) ∧
      ∃ e, recoverExpiredInvocationsTransaction agentId now s = .error e) ∨
    ∃ n t, recoverExpiredInvocationsTransaction agentId now s = .ok (n, t) ∧
      Advances permits s t ∧ Recovers s.toLedger t.toLedger agentId now := by
  obtain ⟨n, hres⟩ := terminalizeExpiredReservations_run hc agentId now
  have hexpire := withoutReservations_advances (s := s) hp agentId now
  have hcm := hexpire.consistent hc
  rcases parkAll_spec hp (expiredArmed agentId now (withoutReservations s agentId now).toLedger) hcm
    (fun i hi => mem_expiredArmed.mp hi) (expiredArmed_nodup hcm agentId now) with
    ⟨⟨i, hi, hstranded⟩, e, herror⟩ | ⟨t, hok, hadv, hparks⟩
  · refine .inl ⟨⟨i, parkable_withoutReservations.mp (mem_expiredArmed.mp hi), hstranded⟩, e, ?_⟩
    simp only [recoverExpiredInvocationsTransaction, bind_run, hres, read_run,
      expiredArmedInvocations_eq hcm, herror]
  · refine .inr ⟨n + (expiredArmed agentId now (withoutReservations s agentId now).toLedger).length,
      t, ?_, hexpire.trans hadv, hparks.recovers hc⟩
    simp only [recoverExpiredInvocationsTransaction, bind_run, hres, read_run,
      expiredArmedInvocations_eq hcm, hok, pure_run]

/-- A successful recovery is a sequence of moves after which no expired attempt is open. -/
theorem recover_ok (hc : Consistent s.toLedger) (hp : permits .internal) {agentId : String}
    {now : Int} {n : Nat}
    (h : recoverExpiredInvocationsTransaction agentId now s = .ok (n, t)) :
    Advances permits s t ∧ Recovers s.toLedger t.toLedger agentId now := by
  rcases recover_spec hc hp agentId now with ⟨_, e, herror⟩ | ⟨_, _, hok, hadv, hrec⟩
  · rw [herror] at h
    cases h
  · rw [hok] at h
    cases h
    exact ⟨hadv, hrec⟩

/-- After recovery every attempt of the agent whose lease has expired is over. -/
theorem Recovers.terminal {l l' : Ledger} {agentId : String} {now : Int}
    (h : Recovers l l' agentId now) {i : InvocationRow} (hi : i ∈ l'.invocations)
    (hagent : i.agentId = agentId) (hexp : i.leaseExpiresAtMs ≤ now) :
    i.state.isTerminal = true := by
  rw [h.invocations] at hi
  obtain ⟨j, _, rfl⟩ := List.mem_map.mp hi
  unfold recoveredRow at hagent hexp ⊢
  by_cases hj : j.agentId = agentId ∧ j.leaseExpiresAtMs ≤ now
  · rw [if_pos hj]
    cases hs : j.state <;> simp only <;> first | rfl | (rw [hs]; rfl)
  · rw [if_neg hj] at hagent hexp
    exact absurd ⟨hagent, hexp⟩ hj

/-! ## Recovery of all agents -/

/-- Recovering agents one after the other is a sequence of moves. -/
theorem recoverAgents_advances (hp : permits .internal) {now : Int} (agents : List String) :
    ∀ {s : Store} {n : Nat}, Consistent s.toLedger →
      recoverAgents now agents s = .ok (n, t) → Advances permits s t := by
  induction agents with
  | nil =>
    intro s n _ h
    rw [recoverAgents, pure_ok] at h
    exact h.2 ▸ .refl s
  | cons agentId rest ih =>
    intro s n hc h
    simp only [recoverAgents, bind_ok, pure_ok] at h
    obtain ⟨_, mid, hrec, _, _, hrest, _, rfl⟩ := h
    have hadv := (recover_ok hc hp hrec).1
    exact hadv.trans (ih (hadv.consistent hc) hrest)

end Fleetd
