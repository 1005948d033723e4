import Fleetd.Refinement.Invocation

/-!
# A completion is one step

A completion posts its result, acknowledges its input, ends its attempt and, for a bound
turn, returns the session to ready, or it does none of this. A repeat of a completion that
was already recorded finds the attempt ended and changes nothing.
-/

namespace Fleetd

open Relational Relational.Transaction

variable {Json : Type} {s t : Store} {permits : Action → Prop}

/-- The stored result of a completion. -/
def resultRow [SerdeJson Json] (s : Store) (agentId invocationId : String) (origin : MessageRow)
    (input : CompleteInvocation Json) (resultId : String) (resultNow : Int) : MessageRow :=
  (resultInput agentId invocationId origin input).row origin.channelId (s.messageSequence + 1)
    resultId resultNow

/-- The database after a result was posted, its input acknowledged and its attempt ended. -/
def completedStore (s : Store) (m : MessageRow) (d : AgentDelivery) (leaseToken : String)
    (now : Int) : Store :=
  { postedStore s m with
    agentDeliveries := replaceRow d (acknowledgedColumns leaseToken now d)
      (s.agentDeliveries ++ m.snapshot s.channelMembers)
    invocations := updateWhere (openFor d.key)
      (terminalColumns now .outcomeKnown (.completed m.seq)) s.invocations }

/-- What a completion finds: the caller's armed attempt, its leased delivery and its input. -/
structure Completable (s : Store) (agentId invocationId leaseToken fenceToken : String)
    (i : InvocationRow) (d : AgentDelivery) (origin : MessageRow) : Prop where
  invocation : i ∈ s.invocations
  id : i.id = invocationId
  agent : i.agentId = agentId
  armed : i.state.isArmed = true
  lease : i.leaseToken = leaseToken
  fence : i.fenceToken = fenceToken
  delivery : d ∈ s.agentDeliveries
  same : d.key = i.deliveryKey
  token : d.state.leaseToken = some leaseToken
  message : origin ∈ s.messages
  seq : origin.seq = i.messageSeq

section Publishing

variable {agentId invocationId leaseToken fenceToken : String} {i : InvocationRow}
  {d : AgentDelivery} {origin : MessageRow}

/-- The completed attempt is the only open one at its delivery. -/
theorem Completable.selects_eq (hc : Consistent s.toLedger)
    (h : Completable s agentId invocationId leaseToken fenceToken i d origin) {j : InvocationRow}
    (hj : j ∈ s.invocations) :
    (decide (j.id = invocationId) && decide (j.agentId = agentId) && j.state.isArmed) =
      openFor d.key j := by
  rw [Bool.eq_iff_iff]
  simp only [openFor, Bool.and_eq_true, decide_eq_true_eq, Bool.not_eq_true']
  have hopen := isTerminal_of_isArmed h.armed
  constructor
  · rintro ⟨⟨hid, _⟩, _⟩
    rw [hc.invocationIds.eq hj h.invocation (hid.trans h.id.symm)]
    exact ⟨h.same.symm, hopen⟩
  · rintro ⟨hk, ho⟩
    rw [hc.open_unique hj h.invocation (hk.trans h.same) ho hopen]
    exact ⟨⟨h.id, h.agent⟩, h.armed⟩

/-- Publishing posts the result and settles input and attempt. -/
theorem publishCompletion_ok [SerdeJson Json] (hc : Consistent s.toLedger) (hlog : LogConsistent s)
    {input : CompleteInvocation Json} {row : InvocationWithDelivery} {now resultNow : Int}
    {resultId : String} {result : InvocationCompletion Json}
    (hi : row.invocation ∈ s.invocations ∧ row.invocation.id = invocationId ∧
      row.invocation.agentId = agentId ∧ row.delivery ∈ s.agentDeliveries ∧
      row.delivery.key = row.invocation.deliveryKey ∧ row.input ∈ s.messages ∧
      row.input.seq = row.invocation.messageSeq)
    (hfence : row.invocation.leaseToken = input.leaseToken ∧
      row.invocation.fenceToken = input.fenceToken)
    (harmed : row.invocation.state.isArmed = true)
    (h : publishCompletion agentId invocationId input row now resultId resultNow s =
      .ok (result, t)) :
    Completable s agentId invocationId input.leaseToken input.fenceToken row.invocation row.delivery
        row.input ∧
      Postable s (resultRow s agentId invocationId row.input input resultId resultNow) ∧
      t = completedStore s (resultRow s agentId invocationId row.input input resultId resultNow)
        row.delivery input.leaseToken now ∧
      result.result = (resultInput agentId invocationId row.input input).message
        row.input.channelId (s.messageSequence + 1) resultId resultNow := by
  simp only [publishCompletion, ensureResultKeyUnused, acknowledgeInvocationDelivery, bind_ok,
    check_ok, read_ok, ensure_ok, pure_ok] at h
  obtain ⟨_, _, ⟨hlive, rfl⟩, _, _, ⟨_, _, ⟨_, rfl⟩, _, rfl⟩, _, _, hinsert, _, s₂,
    ⟨moved, s₁, hack, hmoved, rfl⟩, _, s₃, hmark, _, _, hread, rfl, rfl⟩ := h
  obtain ⟨rfl, hpost, rfl⟩ := insertMessage_ok hinsert
  obtain rfl := invocationById_ok hread
  obtain ⟨hinv, hid, hagent, hd, hkey, horigin, hseq⟩ := hi
  have hable : Completable s agentId invocationId input.leaseToken input.fenceToken row.invocation
      row.delivery row.input :=
    ⟨hinv, hid, hagent, harmed, hfence.1, hfence.2, hd, hkey, (validateLiveLease_ok hlive).2, horigin,
      hseq⟩
  refine ⟨hable, hpost, ?_, rfl⟩
  subst hmoved
  have hposted : Consistent (postedStore s (resultRow s agentId invocationId row.input input resultId
      resultNow)).toLedger := hc.move (hpost.move hlog)
  obtain ⟨e, he, hsel, rfl⟩ := LeasedRow.update_true hack
  obtain ⟨hek, hea, _⟩ := LeasedRow.selects_iff.mp hsel
  have hed : e = row.delivery := by
    refine hposted.delivery_eq he (List.mem_append_left _ hd) ?_
    rw [hkey]
    exact Prod.ext (of_decide_eq_true hek) (hea.trans hagent.symm)
  simp only [markCompleted, bind_ok, write_ok, ensure_ok, Prod.mk.injEq] at hmark
  obtain ⟨_, _, ⟨rfl, rfl⟩, _, rfl⟩ := hmark
  have hsame : updateWhere (fun j : InvocationRow => decide (j.id = invocationId) &&
        decide (j.agentId = agentId) && j.state.isArmed)
        (terminalColumns now .outcomeKnown (.completed (s.messageSequence + 1))) s.invocations =
      updateWhere (openFor row.delivery.key)
        (terminalColumns now .outcomeKnown (.completed (s.messageSequence + 1))) s.invocations :=
    updateWhere_congr (fun j hj => hable.selects_eq hc hj) fun _ _ _ => rfl
  rw [hed, completedStore]
  exact congrArg (fun rows => ({ postedStore s _ with
    agentDeliveries := replaceRow row.delivery (acknowledgedColumns input.leaseToken now row.delivery)
      (s.agentDeliveries ++ _)
    invocations := rows } : Store)) hsame

/-- The deliveries after a completion: the acknowledged input and the snapshot of the result. -/
theorem completedStore_deliveries (hd : d.state.leaseToken.isSome = true) (m : MessageRow)
    (now : Int) :
    (completedStore s m d leaseToken now).agentDeliveries =
      replaceRow d (acknowledgedColumns leaseToken now d) s.agentDeliveries ++
        m.snapshot s.channelMembers := by
  refine replaceRow_append fun hmem => ?_
  rw [(mem_snapshot hmem).1] at hd
  cases hd

/-- A completion posts its result. -/
theorem Completable.posts (h : Completable s agentId invocationId leaseToken fenceToken i d origin)
    {m : MessageRow} (hm : Postable s m) (now : Int) :
    Posts s (completedStore s m d leaseToken now) m := by
  refine ⟨hm, rfl, rfl, rfl, rfl, _, completedStore_deliveries (by rw [h.token]; rfl) m now, ?_⟩
  exact map_updateWhere fun x _ hx => by rw [of_decide_eq_true hx]; rfl

/-- The moves of a completion that no session is bound to. -/
theorem Completable.settle (h : Completable s agentId invocationId leaseToken fenceToken i d origin)
    (hc : Consistent s.toLedger) (hlog : LogConsistent s) {m : MessageRow} (hm : Postable s m)
    (now : Int) (hp : permits (.deliver m.seq)) (hp' : permits (.publish m.seq))
    (hunbound : ∀ turn ∈ s.sessionBindingTurns, turn.invocationId ≠ i.id) :
    Moves permits s.toLedger (completedStore s m d leaseToken now).toLedger := by
  refine Moves.trans (.single hp (hm.move hlog)) (.single hp' ?_)
  refine .settle d (acknowledgedColumns leaseToken now d) now .outcomeKnown (.completed m.seq)
    (List.mem_append_left _ h.delivery) (by rw [h.token]; rfl) rfl rfl (.inr ⟨now, rfl⟩)
    (fun hpend => by cases hpend) fun j hj hopen turn hturn => ?_
  rw [← h.selects_eq hc hj, Bool.and_eq_true, Bool.and_eq_true, decide_eq_true_eq] at hopen
  rw [hopen.1.1, ← h.id]
  exact hunbound turn hturn

/-- The database after a bound turn completed. -/
def quiescentStore (s : Store) (invocationId : String) (turn : SessionBindingTurn)
    (row : SessionBinding) (persistence : SessionPersistence) (now : Int) : Store :=
  { s with
    sessionBindingTurns :=
      replaceRow turn { turn with state := .quiescent now persistence } s.sessionBindingTurns
    sessionBindings := replaceRow row (quiescentColumns invocationId persistence now row)
      s.sessionBindings }

/-- The moves of a completion under the session it was armed on. -/
theorem Completable.complete (h : Completable s agentId invocationId leaseToken fenceToken i d origin)
    (hlog : LogConsistent s) {m : MessageRow} (hm : Postable s m) (now : Int)
    (persistence : SessionPersistence) {turn : SessionBindingTurn} {row : SessionBinding}
    (hp : permits (.deliver m.seq)) (hp' : permits (.publish m.seq))
    (hturn : turn ∈ s.sessionBindingTurns) (hid : turn.invocationId = i.id)
    (hrunning : turn.state = .active) (hrow : row ∈ s.sessionBindings)
    (hbound : turn.bindingKey = row.key) (hactive : row.state.isActiveOn i.id = true) :
    Moves permits s.toLedger
      (quiescentStore (completedStore s m d leaseToken now) i.id turn row persistence now).toLedger :=
  Moves.trans (.single hp (hm.move hlog)) (.single hp'
    (.complete d (acknowledgedColumns leaseToken now d) i turn row now m.seq persistence
      (List.mem_append_left _ h.delivery) (by rw [h.token]; rfl) rfl rfl ⟨now, rfl⟩ h.invocation
      h.same.symm h.armed hturn hid hrunning hrow hbound hactive))

end Publishing

/-! ## The calls -/

section Calls

variable [DecidableEq Json] [SerdeJson Json] {agentId invocationId resultId : String}
  {input : CompleteInvocation Json} {now resultNow : Int}
  {result : InvocationCompletion Json × Bool}

/-- A completion that published. -/
structure Published (s t : Store) (agentId invocationId : String)
    (input : CompleteInvocation Json) (now : Int) (resultId : String) (resultNow : Int)
    (i : InvocationRow) (d : AgentDelivery) (origin : MessageRow) : Prop where
  able : Completable s agentId invocationId input.leaseToken input.fenceToken i d origin
  postable : Postable s (resultRow s agentId invocationId origin input resultId resultNow)
  store : t = completedStore s (resultRow s agentId invocationId origin input resultId resultNow) d
    input.leaseToken now

theorem ensureInvocationNotActiveOnSession_ok {u : Unit}
    (h : ensureInvocationNotActiveOnSession invocationId s = .ok (u, t)) :
    s = t ∧ ∀ turn, turnOf invocationId s.sessionBindingTurns = some turn →
      ∃ at_ persistence, turn.state = .quiescent at_ persistence := by
  simp only [ensureInvocationNotActiveOnSession, bind_ok, read_ok] at h
  obtain ⟨state, _, ⟨hstate, rfl⟩, h⟩ := h
  cases state with
  | none =>
    rw [pure_ok] at h
    refine ⟨h.2, fun turn hturn => ?_⟩
    rw [hturn] at hstate
    cases hstate
  | some state =>
    cases state with
    | active => simp only [fail_ok] at h
    | uncertain => simp only [fail_ok] at h
    | quiescent at_ persistence =>
      rw [pure_ok] at h
      refine ⟨h.2, fun turn hturn => ⟨at_, persistence, ?_⟩⟩
      rw [hturn] at hstate
      exact Option.some.inj hstate

theorem messageBySeq_ok {messageSeq : Nat} {m : Message Json}
    (h : messageBySeq messageSeq s = .ok (m, t)) :
    s = t ∧ ∃ row ∈ s.messages, row.seq = messageSeq ∧ messageFromRow row = .ok m := by
  simp only [messageBySeq, bind_ok, read_ok, require_ok, check_ok] at h
  obtain ⟨_, _, ⟨rfl, rfl⟩, row, _, ⟨hfind, rfl⟩, hdecode, rfl⟩ := h
  exact ⟨rfl, row, List.mem_of_find?_eq_some hfind, by simpa using List.find?_some hfind, hdecode⟩

/-- An attempt outside its session has at most a quiescent turn. -/
theorem ensureSessionAllowsCompletion_ok {allow : Bool} {u : Unit}
    (h : ensureSessionAllowsCompletion invocationId allow s = .ok (u, t)) :
    s = t ∧ (allow = false → ∀ turn, turnOf invocationId s.sessionBindingTurns = some turn →
      ∃ at_ persistence, turn.state = .quiescent at_ persistence) := by
  unfold ensureSessionAllowsCompletion at h
  cases allow with
  | true =>
    rw [if_pos rfl, pure_ok] at h
    exact ⟨h.2, fun hfalse => by cases hfalse⟩
  | false =>
    obtain ⟨hs, hquiet⟩ := ensureInvocationNotActiveOnSession_ok h
    exact ⟨hs, fun _ => hquiet⟩

/-- A completion repeats a recorded one or publishes. -/
theorem completeInvocationTransaction_ok (hc : Consistent s.toLedger) (hlog : LogConsistent s)
    {allow : Bool}
    (h : completeInvocationTransaction agentId invocationId input now allow resultId resultNow s =
      .ok (result, t)) :
    (∃ i ∈ s.invocations, i.id = invocationId ∧ i.state.isTerminal = true ∧ t = s ∧
      result.2 = false) ∨
    ∃ i d origin, Published s t agentId invocationId input now resultId resultNow i d origin ∧
      result.2 = true ∧
      (allow = false → ∀ turn ∈ s.sessionBindingTurns, turn.invocationId ≠ i.id) := by
  simp only [completeInvocationTransaction, bind_ok, check_ok] at h
  obtain ⟨_, _, ⟨_, rfl⟩, _, _, hens, row, _, hrow, _, _, ⟨hfence, rfl⟩, h⟩ := h
  obtain ⟨rfl, hquiet⟩ := ensureSessionAllowsCompletion_ok hens
  obtain ⟨rfl, hfound⟩ := invocationWithDelivery_ok hrow
  cases hs : row.invocation.state with
  | reserved => simp only [hs, fail_ok] at h
  | terminal =>
    simp only [hs, completedReplay, bind_ok, require_ok, ensure_ok, pure_ok] at h
    obtain ⟨_, _, ⟨_, _, ⟨_, rfl⟩, _, _, hresult, _, _, ⟨_, rfl⟩, _, _, hread, _, rfl⟩, rfl, rfl⟩ := h
    obtain ⟨rfl, _⟩ := messageBySeq_ok hresult
    obtain rfl := invocationById_ok hread
    exact .inl ⟨row.invocation, hfound.1, hfound.2.1, by rw [hs]; rfl, rfl, rfl⟩
  | dispatchArmed at_ =>
    simp only [hs, bind_ok, pure_ok] at h
    obtain ⟨_, _, hpublish, rfl, rfl⟩ := h
    have harmed : row.invocation.state.isArmed = true := by rw [hs]; rfl
    obtain ⟨hable, hpost, hstore, _⟩ :=
      publishCompletion_ok hc hlog hfound (validateStaticFence_ok hfence) harmed hpublish
    refine .inr ⟨row.invocation, row.delivery, row.input, ⟨hable, hpost, hstore⟩, rfl,
      fun hallow turn hturn hid => ?_⟩
    -- a quiescent turn would belong to a completed attempt
    have hfind : turnOf invocationId s.sessionBindingTurns = some turn :=
      hc.turnIds.find?_eq_some hturn (by simp [hid, hable.id]) fun u _ hu => by
        rw [of_decide_eq_true hu, hid, hable.id]
    obtain ⟨_, _, hstate⟩ := hquiet hallow turn hfind
    have hfit := hc.turnFits turn hturn row.invocation hable.invocation hid.symm
    rw [hstate] at hfit
    exact not_turnFits_quiescent harmed hfit

/-- Ending a turn finds it already quiescent or returns its binding to ready. -/
theorem settleQuiescentTurn_ok {binding : Binding} {persistence : SessionPersistence} {u : Unit}
    (h : settleQuiescentTurn agentId invocationId binding persistence now s = .ok (u, t)) :
    ∃ turn ∈ s.sessionBindingTurns, turn.invocationId = invocationId ∧
      ((∃ at_, turn.state = .quiescent at_ persistence ∧ t = s) ∨
        ∃ turn' ∈ s.sessionBindingTurns, ∃ row ∈ s.sessionBindings,
          turn'.invocationId = invocationId ∧ turn'.state = .active ∧
          row.key = (binding.bindingId, binding.bindingGeneration) ∧ row.agentId = agentId ∧
          row.ownerEpoch = binding.ownerEpoch ∧ row.state.isActiveOn invocationId = true ∧
          t = quiescentStore s invocationId turn' row persistence now) := by
  simp only [settleQuiescentTurn, bind_ok] at h
  obtain ⟨turn, _, hturn, h⟩ := h
  obtain ⟨rfl, hmem, hid⟩ := boundTurnRow_ok hturn
  refine ⟨turn, hmem, hid, ?_⟩
  cases hstate : turn.state with
  | quiescent at_ stored =>
    simp only [hstate, ensure_ok] at h
    exact .inl ⟨at_, by rw [h.1], h.2.symm⟩
  | uncertain => simp only [hstate, fail_ok] at h
  | active =>
    simp only [hstate, bind_ok, check_ok] at h
    obtain ⟨_, _, hupd, fence, _, ⟨hfence, rfl⟩, hrow⟩ := h
    obtain ⟨turn', hturn', hid', hactive, rfl⟩ := updateActiveTurn_ok hupd
    obtain rfl := ownerFence_new_ok hfence
    obtain ⟨row, hr, hkey, hagent, hepoch, hon, rfl⟩ := OwnerFence.update_ok hrow
    exact .inr ⟨turn', hturn', row, hr, hid', hactive, hkey, hagent, hepoch, hon, rfl⟩

/-- A completion under a session changes nothing or publishes and ends the turn in flight. -/
theorem completeSessionInvocation_ok (hc : Consistent s.toLedger) (hlog : LogConsistent s)
    {binding : Binding} {persistence : SessionPersistence}
    (h : completeSessionInvocation agentId invocationId binding persistence input now resultId
      resultNow s = .ok (result, t)) :
    (t = s ∧ result.2 = false) ∨
    ∃ i d origin mid turn row,
      Published s mid agentId invocationId input now resultId resultNow i d origin ∧
      result.2 = true ∧ turn ∈ s.sessionBindingTurns ∧ turn.invocationId = i.id ∧
      turn.state = .active ∧ row ∈ s.sessionBindings ∧
      row.key = (binding.bindingId, binding.bindingGeneration) ∧
      row.ownerEpoch = binding.ownerEpoch ∧ turn.bindingKey = row.key ∧
      row.state.isActiveOn i.id = true ∧
      t = quiescentStore mid i.id turn row persistence now := by
  simp only [completeSessionInvocation, bind_ok, check_ok, pure_ok] at h
  obtain ⟨_, _, ⟨_, rfl⟩, _, _, hvalid, _, mid, hcomplete, _, _, hsettle, rfl, rfl⟩ := h
  obtain ⟨rfl, turn, hturn, hid, hkey, _, _⟩ := validateBoundTurn_ok hvalid
  obtain ⟨turn', hturn', hid', hcase⟩ := settleQuiescentTurn_ok hsettle
  rcases completeInvocationTransaction_ok hc hlog hcomplete with
    ⟨i, hi, hiid, hterm, rfl, hrepeat⟩ | ⟨i, d, origin, hpub, hcreated, _⟩
  · rcases hcase with ⟨_, _, rfl⟩ | ⟨u, hu, _, _, huid, hactive, _⟩
    · exact .inl ⟨rfl, hrepeat⟩
    · -- an ended attempt has no turn in flight
      have hfit := hc.turnFits u hu i hi (hiid.trans huid.symm)
      rw [hactive] at hfit
      rw [isTerminal_of_isArmed hfit] at hterm
      cases hterm
  · rw [hpub.store] at hturn' hcase
    rcases hcase with ⟨at_, hquiet, _⟩ | ⟨u, hu, row, hrow, huid, hactive, hrkey, _, hepoch, hon, rfl⟩
    · have hfit := hc.turnFits turn' hturn' i hpub.able.invocation (hpub.able.id.trans hid'.symm)
      rw [hquiet] at hfit
      exact absurd hfit (not_turnFits_quiescent hpub.able.armed)
    · have hut : u = turn := hc.turnIds.eq hu hturn (huid.trans hid.symm)
      refine .inr ⟨i, d, origin, mid, u, row, hpub, hcreated, hu, huid.trans hpub.able.id.symm,
        hactive, hrow, hrkey, hepoch, ?_, ?_, ?_⟩
      · rw [hut, hkey, hrkey]
      · rw [hpub.able.id]
        exact hon
      · rw [hpub.able.id, hpub.store]

end Calls

end Fleetd
