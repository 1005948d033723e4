import Fleetd.Effects.Fallible
import Fleetd.Ledger.Consistent

/-!
# What single statements do

One lemma for each read and each guarded update: what a successful call found and which
rows it rewrote. The operations are inverted by chaining these.
-/

namespace Fleetd

open Effects Relational Relational.Transaction

variable {Json : Type} {s t : Store}

/-! ## Checks -/

theorem asI64_ok {label : String} {value result : Nat} (h : asI64 label value = .ok result) :
    result = value ∧ 0 < value ∧ value ≤ i64Max := by
  unfold asI64 at h
  split at h
  · cases h
  · split at h
    · cases h
      exact ⟨rfl, by omega, by assumption⟩
    · cases h

theorem asI64_eq {label : String} {value : Nat} (hpos : 0 < value) (hle : value ≤ i64Max) :
    asI64 label value = .ok value := by
  rw [asI64, if_neg (by omega), if_pos hle]

theorem ownerFence_new_ok {agentId : String} {binding : Binding} {fence : OwnerFence}
    (h : OwnerFence.new agentId binding = .ok fence) :
    fence = ⟨binding.bindingId, binding.bindingGeneration, agentId, binding.ownerEpoch⟩ := by
  rw [OwnerFence.new, except_bind_ok] at h
  obtain ⟨generation, hgen, h⟩ := h
  rw [except_bind_ok] at h
  obtain ⟨epoch, hepoch, h⟩ := h
  cases h
  rw [(asI64_ok hgen).1, (asI64_ok hepoch).1]

theorem validateOwner_ok {row : SessionBinding} {binding : Binding}
    (h : validateOwner row binding = .ok ()) :
    row.bindingGeneration = binding.bindingGeneration ∧ row.ownerEpoch = binding.ownerEpoch := by
  rw [validateOwner, except_bind_ok] at h
  obtain ⟨generation, hgen, h⟩ := h
  rw [except_bind_ok] at h
  obtain ⟨epoch, hepoch, h⟩ := h
  rw [(asI64_ok hgen).1, (asI64_ok hepoch).1] at h
  split at h
  · cases h
  · rename_i hne
    rw [not_or, not_not, not_not] at hne
    exact hne

theorem validateTurnFence_ok {turn : SessionBindingTurn} {binding : Binding}
    (h : validateTurnFence turn binding = .ok ()) :
    turn.bindingId = binding.bindingId ∧ turn.bindingGeneration = binding.bindingGeneration ∧
      turn.ownerEpoch = binding.ownerEpoch := by
  rw [validateTurnFence, except_bind_ok] at h
  obtain ⟨generation, hgen, h⟩ := h
  rw [except_bind_ok] at h
  obtain ⟨epoch, hepoch, h⟩ := h
  rw [(asI64_ok hgen).1, (asI64_ok hepoch).1] at h
  split at h
  · cases h
  · rename_i hne
    simpa only [not_or, not_not] using hne

/-! ## Reads -/

theorem exactBindingRow_ok {agentId : String} {binding : Binding} {row : SessionBinding}
    (h : exactBindingRow agentId binding s = .ok (row, t)) :
    s = t ∧ row ∈ s.sessionBindings ∧ row.key = (binding.bindingId, binding.bindingGeneration) ∧
      row.agentId = agentId := by
  simp only [exactBindingRow, bind_ok, check_ok, read_ok, require_ok] at h
  obtain ⟨_, _, ⟨_, rfl⟩, _, _, ⟨rfl, rfl⟩, hfind, rfl⟩ := h
  have hp := List.find?_some hfind
  rw [decide_eq_true_eq] at hp
  exact ⟨rfl, List.mem_of_find?_eq_some hfind, Prod.ext hp.1 hp.2.1, hp.2.2⟩

theorem boundTurnRow_ok {invocationId : String} {turn : SessionBindingTurn}
    (h : boundTurnRow invocationId s = .ok (turn, t)) :
    s = t ∧ turn ∈ s.sessionBindingTurns ∧ turn.invocationId = invocationId := by
  simp only [boundTurnRow, bind_ok, read_ok, require_ok] at h
  obtain ⟨_, _, ⟨rfl, rfl⟩, hfind, rfl⟩ := h
  exact ⟨rfl, List.mem_of_find?_eq_some hfind, by simpa using List.find?_some hfind⟩

/-- A bound turn is presented under the fence it was armed with, and unless a quiescent one may
be replayed its binding still names it under the same owner. -/
theorem validateBoundTurn_ok {agentId invocationId : String} {binding : Binding} {allow : Bool}
    {u : Unit} (h : validateBoundTurn agentId invocationId binding allow s = .ok (u, t)) :
    s = t ∧ ∃ turn ∈ s.sessionBindingTurns, turn.invocationId = invocationId ∧
      turn.bindingKey = (binding.bindingId, binding.bindingGeneration) ∧
      turn.ownerEpoch = binding.ownerEpoch ∧
      ((allow = true ∧ ∃ at_ persistence, turn.state = .quiescent at_ persistence) ∨
        ∃ row ∈ s.sessionBindings, row.key = (binding.bindingId, binding.bindingGeneration) ∧
          row.agentId = agentId ∧ row.ownerEpoch = binding.ownerEpoch ∧
          row.state.activeInvocationId = some invocationId) := by
  simp only [validateBoundTurn, bind_ok, check_ok] at h
  obtain ⟨turn, _, hturn, _, _, ⟨hfence, rfl⟩, h⟩ := h
  obtain ⟨rfl, hmem, hid⟩ := boundTurnRow_ok hturn
  obtain ⟨hb, hg, he⟩ := validateTurnFence_ok hfence
  have hown : ∀ (x : Unit), (do
      let row ← exactBindingRow agentId binding
      check (validateOwner row binding)
      ensure (row.state.activeInvocationId = some invocationId)
        (.conflict "invocation does not own the current session binding state") : Tx Unit) s =
        .ok (x, t) → s = t ∧ ∃ row ∈ s.sessionBindings,
          row.key = (binding.bindingId, binding.bindingGeneration) ∧ row.agentId = agentId ∧
          row.ownerEpoch = binding.ownerEpoch ∧
          row.state.activeInvocationId = some invocationId := by
    intro x hx
    simp only [bind_ok, check_ok, ensure_ok] at hx
    obtain ⟨row, _, hrow, _, _, ⟨howner, rfl⟩, hactive, rfl⟩ := hx
    obtain ⟨rfl, hr, hkey, hagent⟩ := exactBindingRow_ok hrow
    exact ⟨rfl, row, hr, hkey, hagent, (validateOwner_ok howner).2, hactive⟩
  cases allow with
  | false =>
    obtain ⟨hs, hrow⟩ := hown u h
    exact ⟨hs, turn, hmem, hid, Prod.ext hb hg, he, .inr hrow⟩
  | true =>
    cases hstate : turn.state with
    | quiescent at_ persistence =>
      simp only [hstate, pure_ok] at h
      exact ⟨h.2, turn, hmem, hid, Prod.ext hb hg, he, .inl ⟨rfl, at_, persistence, hstate⟩⟩
    | active =>
      simp only [hstate] at h
      obtain ⟨hs, hrow⟩ := hown u h
      exact ⟨hs, turn, hmem, hid, Prod.ext hb hg, he, .inr hrow⟩
    | uncertain =>
      simp only [hstate] at h
      obtain ⟨hs, hrow⟩ := hown u h
      exact ⟨hs, turn, hmem, hid, Prod.ext hb hg, he, .inr hrow⟩

theorem invocationWithDelivery_ok {agentId invocationId : String} {row : InvocationWithDelivery}
    (h : invocationWithDelivery agentId invocationId s = .ok (row, t)) :
    s = t ∧ row.invocation ∈ s.invocations ∧ row.invocation.id = invocationId ∧
      row.invocation.agentId = agentId ∧ row.delivery ∈ s.agentDeliveries ∧
      row.delivery.key = row.invocation.deliveryKey ∧ row.input ∈ s.messages ∧
      row.input.seq = row.invocation.messageSeq := by
  simp only [invocationWithDelivery, bind_ok, read_ok, require_ok, pure_ok] at h
  obtain ⟨_, _, ⟨rfl, rfl⟩, i, _, ⟨hi, rfl⟩, d, _, ⟨hd, rfl⟩, m, _, ⟨hm, rfl⟩, rfl, rfl⟩ := h
  have hpi := List.find?_some hi
  have hpd := List.find?_some hd
  have hpm := List.find?_some hm
  rw [decide_eq_true_eq] at hpi hpd hpm
  exact ⟨rfl, List.mem_of_find?_eq_some hi, hpi.1, hpi.2, List.mem_of_find?_eq_some hd, hpd,
    List.mem_of_find?_eq_some hm, hpm⟩

theorem invocationById_ok [SerdeJson Json] {invocationId : String} {result : Invocation Json}
    (h : invocationById invocationId s = .ok (result, t)) : s = t := by
  simp only [invocationById, bind_ok, read_ok, require_ok, check_ok] at h
  obtain ⟨_, _, ⟨rfl, rfl⟩, _, _, ⟨_, rfl⟩, _, _, ⟨_, rfl⟩, _, rfl⟩ := h
  rfl

theorem blockedDeliveryById_ok [SerdeJson Json] {blockId : Nat} {result : BlockedDelivery Json}
    (h : blockedDeliveryById blockId s = .ok (result, t)) : s = t := by
  simp only [blockedDeliveryById, bind_ok, read_ok, require_ok, check_ok] at h
  obtain ⟨_, _, ⟨rfl, rfl⟩, _, _, ⟨_, rfl⟩, _, _, ⟨_, rfl⟩, _, rfl⟩ := h
  rfl

theorem blockedDeliveryByLease_ok [SerdeJson Json] {agentId messageId leaseToken : String}
    {result : Option (BlockedDelivery Json × String)}
    (h : blockedDeliveryByLease agentId messageId leaseToken s = .ok (result, t)) : s = t := by
  simp only [blockedDeliveryByLease, bind_ok, read_ok] at h
  obtain ⟨found, _, ⟨_, rfl⟩, h⟩ := h
  cases found with
  | none =>
    rw [pure_ok] at h
    exact h.2
  | some pair =>
    simp only [bind_ok, check_ok, pure_ok] at h
    obtain ⟨_, _, ⟨_, rfl⟩, _, rfl⟩ := h
    rfl

theorem settleMiss_ok {agentId messageId leaseToken : String} {settlement : Settlement} {u : Unit}
    (h : settleMiss agentId messageId leaseToken settlement s = .ok (u, t)) : s = t := by
  simp only [settleMiss, bind_ok, read_ok, require_ok, ensure_ok] at h
  obtain ⟨_, _, ⟨rfl, rfl⟩, _, _, ⟨_, rfl⟩, _, rfl⟩ := h
  rfl

/-! ## Guarded updates -/

/-- A settlement that moved found exactly its leased row. -/
theorem LeasedRow.update_true {row : LeasedRow} {set : AgentDelivery → AgentDelivery}
    (h : row.update set s = .ok (true, t)) :
    ∃ d ∈ s.agentDeliveries, row.selects s.messages d = true ∧
      t = { s with agentDeliveries := replaceRow d (set d) s.agentDeliveries } := by
  rw [LeasedRow.update, write_ok, Prod.mk.injEq, decide_eq_true_eq] at h
  obtain ⟨hone, rfl⟩ := h
  obtain ⟨d, hd, hp, hupd⟩ := exists_replaceRow_of_countP hone set
  exact ⟨d, hd, hp, by rw [hupd]⟩

/-- What a selected row looks like. -/
theorem LeasedRow.selects_iff {row : LeasedRow} {messages : List MessageRow} {d : AgentDelivery} :
    row.selects messages d = true ↔ row.key.predicate messages d.messageSeq = true ∧
      d.agentId = row.agentId ∧ ∃ leaseExpiresAtMs,
        d.state = .leased row.leaseToken leaseExpiresAtMs ∧
        row.window.predicate leaseExpiresAtMs row.now = true := by
  unfold LeasedRow.selects
  cases hs : d.state with
  | leased leaseToken leaseExpiresAtMs =>
    simp only [Bool.and_eq_true, decide_eq_true_eq, DeliveryState.leased.injEq]
    constructor
    · rintro ⟨⟨hk, ha⟩, rfl, hw⟩
      exact ⟨hk, ha, leaseExpiresAtMs, ⟨rfl, rfl⟩, hw⟩
    · rintro ⟨hk, ha, expiry, ⟨rfl, rfl⟩, hw⟩
      exact ⟨⟨hk, ha⟩, rfl, hw⟩
  | _ => simp

/-- A settlement addressed by the message identifier or the sequence can only find one row. -/
theorem LeasedRow.selects_key {row : LeasedRow} {messages : List MessageRow} {d e : AgentDelivery}
    (hd : row.selects messages d = true) (he : row.selects messages e = true) : d.key = e.key := by
  obtain ⟨hdk, hda, _⟩ := LeasedRow.selects_iff.mp hd
  obtain ⟨hek, hea, _⟩ := LeasedRow.selects_iff.mp he
  refine Prod.ext ?_ (hda.trans hea.symm)
  cases hkey : row.key with
  | messageId id =>
    simp only [hkey, DeliveryKey.predicate, decide_eq_true_eq] at hdk hek
    exact Option.some.inj (hdk.symm.trans hek)
  | seq messageSeq =>
    simp only [hkey, DeliveryKey.predicate, decide_eq_true_eq] at hdk hek
    exact hdk.trans hek.symm

/-- A settlement that did not move found no row and changed nothing. -/
theorem LeasedRow.update_false {row : LeasedRow} {set : AgentDelivery → AgentDelivery}
    (hu : KeyUnique AgentDelivery.key s.agentDeliveries)
    (h : row.update set s = .ok (false, t)) :
    t = s ∧ ∀ d ∈ s.agentDeliveries, row.selects s.messages d = false := by
  rw [LeasedRow.update, write_ok, Prod.mk.injEq, decide_eq_false_iff_not] at h
  obtain ⟨hcount, rfl⟩ := h
  have hnone : ∀ d ∈ s.agentDeliveries, row.selects s.messages d = false := by
    intro d hd
    by_contra hsel
    rw [Bool.not_eq_false] at hsel
    exact hcount (hu.countP_eq_one hd hsel fun e _ hes => LeasedRow.selects_key hes hsel)
  exact ⟨by rw [updateWhere_eq_self hnone], hnone⟩

/-- A settlement that finds its row moves it. -/
theorem LeasedRow.update_run {row : LeasedRow} (set : AgentDelivery → AgentDelivery)
    (hu : KeyUnique AgentDelivery.key s.agentDeliveries) {d : AgentDelivery}
    (hd : d ∈ s.agentDeliveries) (hsel : row.selects s.messages d = true) :
    row.update set s =
      .ok (true, { s with agentDeliveries := replaceRow d (set d) s.agentDeliveries }) := by
  have hone := hu.countP_eq_one hd hsel fun e _ hes => LeasedRow.selects_key hes hsel
  have hupd : updateWhere (row.selects s.messages) set s.agentDeliveries =
      replaceRow d (set d) s.agentDeliveries :=
    updateWhere_eq_replaceRow fun e he =>
      ⟨fun hes => hu.eq he hd (LeasedRow.selects_key hes hsel), fun heq => heq ▸ hsel⟩
  rw [LeasedRow.update, write_run, hone, hupd]
  rfl

/-- A fenced update rewrote exactly the fenced row. -/
theorem OwnerFence.update_ok {fence : OwnerFence} {state : SessionBindingState → Bool}
    {set : SessionBinding → SessionBinding} {message : String} {u : Unit}
    (h : fence.update state set message s = .ok (u, t)) :
    ∃ row ∈ s.sessionBindings, row.key = (fence.bindingId, fence.bindingGeneration) ∧
      row.agentId = fence.agentId ∧ row.ownerEpoch = fence.ownerEpoch ∧ state row.state = true ∧
      t = { s with sessionBindings := replaceRow row (set row) s.sessionBindings } := by
  simp only [OwnerFence.update, bind_ok, write_ok, ensure_ok, Prod.mk.injEq] at h
  obtain ⟨_, _, ⟨rfl, rfl⟩, hone, rfl⟩ := h
  obtain ⟨row, hr, hp, hupd⟩ := exists_replaceRow_of_countP hone set
  simp only [OwnerFence.selects, Bool.and_eq_true, decide_eq_true_eq] at hp
  exact ⟨row, hr, Prod.ext hp.1.1.1.1 hp.1.1.1.2, hp.1.1.2, hp.1.2, hp.2, by rw [hupd]⟩

/-- A fenced update finds the row that is in the wanted state under the fence. -/
theorem OwnerFence.update_run {fence : OwnerFence} {state : SessionBindingState → Bool}
    (set : SessionBinding → SessionBinding) {message : String}
    (hu : KeyUnique SessionBinding.key s.sessionBindings) {row : SessionBinding}
    (hrow : row ∈ s.sessionBindings) (hfence : fence = .fromStored row)
    (hstate : state row.state = true) :
    fence.update state set message s =
      .ok ((), { s with sessionBindings := replaceRow row (set row) s.sessionBindings }) := by
  have hkey : ∀ x : SessionBinding, (fence.selects x && state x.state) = true → x.key = row.key := by
    intro x hx
    simp only [OwnerFence.selects, Bool.and_eq_true, decide_eq_true_eq] at hx
    rw [hfence] at hx
    exact Prod.ext hx.1.1.1.1 hx.1.1.1.2
  have hsel : (fence.selects row && state row.state) = true := by
    simp [hfence, OwnerFence.selects, OwnerFence.fromStored, hstate]
  have hone := hu.countP_eq_one (p := fun x => fence.selects x && state x.state) hrow hsel
    fun x _ hx => hkey x hx
  have hupd : updateWhere (fun x => fence.selects x && state x.state) set s.sessionBindings =
      replaceRow row (set row) s.sessionBindings :=
    updateWhere_eq_replaceRow fun x hx =>
      ⟨fun hxs => hu.eq hx hrow (hkey x hxs), fun heq => heq ▸ hsel⟩
  simp only [OwnerFence.update, bind_run, write_run, hone, hupd, ensure_run, if_true]

/-- Ending a turn rewrote exactly the turn in flight of the invocation. -/
theorem updateActiveTurn_ok {invocationId : String} {state : TurnState} {message : String}
    {u : Unit} (h : updateActiveTurn invocationId state message s = .ok (u, t)) :
    ∃ turn ∈ s.sessionBindingTurns, turn.invocationId = invocationId ∧ turn.state = .active ∧
      t = { s with
        sessionBindingTurns := replaceRow turn { turn with state } s.sessionBindingTurns } := by
  simp only [updateActiveTurn, bind_ok, write_ok, ensure_ok, Prod.mk.injEq] at h
  obtain ⟨_, _, ⟨rfl, rfl⟩, hone, rfl⟩ := h
  obtain ⟨turn, ht, hp, hupd⟩ := exists_replaceRow_of_countP hone ({ · with state })
  simp only [Bool.and_eq_true, decide_eq_true_eq] at hp
  exact ⟨turn, ht, hp.1, hp.2, by rw [hupd]⟩

/-- Ending a turn finds the turn in flight. -/
theorem updateActiveTurn_run (state : TurnState) (message : String)
    (hu : KeyUnique SessionBindingTurn.invocationId s.sessionBindingTurns)
    {turn : SessionBindingTurn} (hturn : turn ∈ s.sessionBindingTurns)
    (hactive : turn.state = .active) :
    updateActiveTurn turn.invocationId state message s = .ok ((), { s with
      sessionBindingTurns := replaceRow turn { turn with state } s.sessionBindingTurns }) := by
  have hsel : (decide (turn.invocationId = turn.invocationId) && decide (turn.state = .active)) =
      true := by simp [hactive]
  have hone := hu.countP_eq_one (p := fun x => decide (x.invocationId = turn.invocationId) &&
    decide (x.state = .active)) hturn hsel fun x _ hx => by
      rw [Bool.and_eq_true, decide_eq_true_eq] at hx
      exact hx.1
  have hupd : updateWhere (fun x => decide (x.invocationId = turn.invocationId) &&
      decide (x.state = .active)) ({ · with state }) s.sessionBindingTurns =
      replaceRow turn { turn with state } s.sessionBindingTurns := by
    refine updateWhere_eq_replaceRow fun x hx => ⟨fun hxs => ?_, fun heq => heq ▸ hsel⟩
    rw [Bool.and_eq_true, decide_eq_true_eq] at hxs
    exact hu.eq hx hturn hxs.1
  simp only [updateActiveTurn, bind_run, write_run, hone, hupd, ensure_run, if_true]

/-- A recorded block is new, positive in its attempt and unresolved. -/
theorem recordBlock_ok {messageSeq attempt : Nat} {agentId leaseToken reason : String}
    {blockedAtMs : Int} {blockId : Nat}
    (h : recordBlock messageSeq agentId attempt leaseToken reason blockedAtMs s = .ok (blockId, t)) :
    t = { s with
      deliveryBlockSequence := s.deliveryBlockSequence + 1
      deliveryBlocks := s.deliveryBlocks ++ [{
        id := s.deliveryBlockSequence + 1
        messageSeq := messageSeq
        agentId := agentId
        attempt := attempt
        leaseToken := leaseToken
        reason := reason
        blockedAtMs := blockedAtMs
        resolved := none }] } := by
  simp only [recordBlock, bind_ok, read_ok, ensure_ok, write_ok] at h
  obtain ⟨_, _, ⟨rfl, rfl⟩, _, _, ⟨_, rfl⟩, _, _, ⟨_, rfl⟩, h⟩ := h
  exact (Prod.ext_iff.mp h).2.symm

/-! ## Transactions on the ledger -/

/-- A transaction that changes the ledger by permitted moves and no other table. -/
structure Advances (permits : Action → Prop) (s t : Store) : Prop where
  frame : t = { s with toLedger := t.toLedger }
  moves : Moves permits s.toLedger t.toLedger

section Advances

variable {permits : Action → Prop}

/-- A transaction that changes nothing. -/
theorem Advances.refl (s : Store) : Advances permits s s := ⟨rfl, .refl⟩

/-- One permitted move. -/
theorem Advances.single {a : Action} {l : Ledger} (ha : permits a) (h : Move a s.toLedger l) :
    Advances permits s { s with toLedger := l } := ⟨rfl, .single ha h⟩

/-- One part of a transaction after another. -/
theorem Advances.trans {mid : Store} (h : Advances permits s mid) (h' : Advances permits mid t) :
    Advances permits s t := by
  refine ⟨?_, h.moves.trans h'.moves⟩
  rw [h'.frame, h.frame]

/-- The ledger stays consistent. -/
theorem Advances.consistent (h : Advances permits s t) (hc : Consistent s.toLedger) :
    Consistent t.toLedger :=
  hc.moves h.moves

end Advances

end Fleetd
