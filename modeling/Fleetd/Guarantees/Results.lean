import Fleetd.Guarantees.Log

/-!
# A result is published exactly once

A completion posts its result, acknowledges its input, ends its attempt and returns its
session in one step. After it every repeat of the call is answered with the stored result,
whatever happened to the lease and the session meanwhile, and changes nothing.
-/

namespace Fleetd

open Relational Relational.Transaction

variable {Json : Type}

/-! ## Only a publication completes an attempt -/

section Moves

variable {l l' : Ledger} {a : Action}

/-- An attempt that names a result after the open ones were ended was not open, unless they
were ended with that result. -/
theorem mem_of_resultMessageSeq {p : InvocationRow → Bool} {now : Int}
    {certainty : ExecutionCertainty} {reason : TerminalReason} {rows : List InvocationRow}
    {i : InvocationRow} (hreason : ∀ seq, reason ≠ .completed seq)
    (hi : i ∈ updateWhere p (terminalColumns now certainty reason) rows)
    (hresult : i.state.resultMessageSeq.isSome = true) : i ∈ rows := by
  obtain ⟨j, hj, rfl⟩ := mem_updateWhere.mp hi
  by_cases hp : p j = true
  · rw [if_pos hp] at hresult
    cases reason with
    | completed seq => exact absurd rfl (hreason seq)
    | _ => cases hresult
  · rw [if_neg hp]
    exact hj

/-- A reason whose move publishes nothing is not a completion. -/
theorem TerminalReason.not_completed {reason : TerminalReason}
    (h : ∀ seq, reason.action ≠ .publish seq) (seq : Nat) : reason ≠ .completed seq := by
  rintro rfl
  exact h seq rfl

/-- A move that publishes nothing completes no attempt. -/
theorem Move.results (hm : Move a l l') (ha : ∀ seq, a ≠ .publish seq) :
    ∀ i ∈ l'.invocations, i.state.resultMessageSeq.isSome = true → i ∈ l.invocations := by
  intro i hi hresult
  cases hm with
  | reserve j d _ _ _ _ hr _ =>
    rcases List.mem_append.mp hi with hi | hi
    · exact hi
    · rw [List.mem_singleton.mp hi, hr] at hresult
      cases hresult
  | arm j at_ hmem _ =>
    rcases mem_replaceRow.mp hi with ⟨rfl, _⟩ | ⟨hi, _⟩
    · cases hresult
    · exact hi
  | expire selected now _ =>
    exact mem_of_resultMessageSeq (fun seq heq => by cases heq) hi hresult
  | settle d d' now certainty reason _ _ _ _ _ _ _ =>
    exact mem_of_resultMessageSeq (TerminalReason.not_completed ha) hi hresult
  | park d d' b now reason _ _ _ _ _ _ _ =>
    exact mem_of_resultMessageSeq (TerminalReason.not_completed ha) hi hresult
  | complete d d' i t row now seq persistence _ _ _ _ _ _ _ _ _ _ _ _ _ _ => exact absurd rfl (ha seq)
  | _ => exact hi

/-- Whether a turn has come to rest. -/
def TurnState.isQuiescent : TurnState → Bool
  | .quiescent .. => true
  | _ => false

/-- A move that publishes nothing brings no turn to rest. -/
theorem Move.quiescent (hm : Move a l l') (ha : ∀ seq, a ≠ .publish seq) :
    ∀ u ∈ l'.sessionBindingTurns, u.state.isQuiescent = true → u ∈ l.sessionBindingTurns := by
  intro u hu hquiet
  cases hm with
  | activate row t i now _ _ hact _ _ _ _ _ _ _ _ =>
    rcases List.mem_append.mp hu with hu | hu
    · exact hu
    · rw [List.mem_singleton.mp hu, hact] at hquiet
      cases hquiet
  | fence row t why now _ _ _ _ _ =>
    rcases mem_replaceRow.mp hu with ⟨rfl, _⟩ | ⟨hu, _⟩
    · cases hquiet
    · exact hu
  | complete d d' i t row now seq persistence _ _ _ _ _ _ _ _ _ _ _ _ _ _ => exact absurd rfl (ha seq)
  | _ => exact hu

/-- Moves that publish nothing complete no attempt and bring no turn to rest. -/
theorem Moves.results {permits : Action → Prop} (hm : Moves permits l l')
    (hp : ∀ seq, ¬ permits (.publish seq)) :
    (∀ i ∈ l'.invocations, i.state.resultMessageSeq.isSome = true → i ∈ l.invocations) ∧
      ∀ u ∈ l'.sessionBindingTurns, u.state.isQuiescent = true → u ∈ l.sessionBindingTurns := by
  refine hm.preserve (P := fun x =>
    (∀ i ∈ x.invocations, i.state.resultMessageSeq.isSome = true → i ∈ l.invocations) ∧
      ∀ u ∈ x.sessionBindingTurns, u.state.isQuiescent = true → u ∈ l.sessionBindingTurns)
    (fun a x y ha hmove hx => ?_) ⟨fun _ hi _ => hi, fun _ hu _ => hu⟩
  have hne : ∀ seq, a ≠ .publish seq := fun seq heq => hp seq (heq ▸ ha)
  exact ⟨fun i hi hr => hx.1 i (hmove.results hne i hi hr) hr,
    fun u hu hq => hx.2 u (hmove.quiescent hne u hu hq) hq⟩

end Moves

/-! ## One publication -/

/-- A message of the log is the result of an attempt: from its agent back to the sender of
the input, in the conversation of the input. -/
structure ResultOf (s : Store) (i : InvocationRow) (m : MessageRow) : Prop where
  message : m ∈ s.messages
  sender : m.senderId = i.agentId
  key : m.idempotencyKey = some s!"invocation/{i.id}/result"
  answers : ∃ origin ∈ s.messages, origin.seq = i.messageSeq ∧ m.channelId = origin.channelId ∧
    m.recipientId = some origin.senderId ∧ m.correlationId = origin.correlationId ∧
    m.causationId = some origin.id

/-- What a completion does to the session of its attempt: nothing when there is none, and
otherwise the turn in flight comes to rest and its binding is ready again. -/
def ReturnsSession (s : Store) (i : InvocationRow) (now : Int) (turns : List SessionBindingTurn)
    (bindings : List SessionBinding) : Prop :=
  ((∀ u ∈ s.sessionBindingTurns, u.invocationId ≠ i.id) ∧ turns = s.sessionBindingTurns ∧
    bindings = s.sessionBindings) ∨
  ∃ u ∈ s.sessionBindingTurns, u.invocationId = i.id ∧ u.state = .active ∧
    ∃ row ∈ s.sessionBindings, row.key = u.bindingKey ∧ row.state.isActiveOn i.id = true ∧
    ∃ persistence,
      turns = replaceRow u { u with state := .quiescent now persistence } s.sessionBindingTurns ∧
      bindings = replaceRow row (quiescentColumns i.id persistence now row) s.sessionBindings

/-- The one step that publishes the result of an attempt. -/
structure Completes (s t : Store) (i : InvocationRow) (m : MessageRow) (now : Int) : Prop where
  invocation : i ∈ s.invocations
  armed : i.state.isArmed = true
  unused : m ∉ s.messages
  posted : t.messages = s.messages ++ [m]
  result : ResultOf t i m
  input : ∃ d ∈ s.agentDeliveries, d.key = i.deliveryKey ∧
    d.state.leaseToken = some i.leaseToken ∧
    acknowledgedColumns i.leaseToken now d ∈ t.agentDeliveries
  ended : t.invocations =
    replaceRow i (terminalColumns now .outcomeKnown (.completed m.seq) i) s.invocations
  session : ReturnsSession s i now t.sessionBindingTurns t.sessionBindings

section Publication

variable {s t : Store}

/-- A result stays the result while the log grows. -/
theorem ResultOf.mono {i : InvocationRow} {m : MessageRow} (h : ResultOf s i m)
    (hle : s.messages ⊆ t.messages) : ResultOf t i m := by
  obtain ⟨origin, horigin, hanswers⟩ := h.answers
  exact ⟨hle h.message, h.sender, h.key, origin, hle horigin, hanswers⟩

/-- An attempt has at most one result. -/
theorem ResultOf.unique (hlog : LogConsistent s) {i : InvocationRow} {m n : MessageRow}
    (h : ResultOf s i m) (h' : ResultOf s i n) : m = n :=
  hlog.messageKeys m h.message n h'.message (h.sender.trans h'.sender.symm) (h.key.trans h'.key.symm)
    (by rw [h.key]; rfl)

variable [SerdeJson Json] {agentId invocationId resultId : String} {input : CompleteInvocation Json}
  {now resultNow : Int} {i : InvocationRow} {d : AgentDelivery} {origin : MessageRow}

/-- Ending the open attempts at a delivery ends the one that is completed. -/
theorem Completable.ended (hc : Consistent s.toLedger) {leaseToken fenceToken : String}
    (h : Completable s agentId invocationId leaseToken fenceToken i d origin)
    (f : InvocationRow → InvocationRow) :
    updateWhere (openFor d.key) f s.invocations = replaceRow i (f i) s.invocations := by
  refine updateWhere_eq_replaceRow fun j hj => ?_
  have hopen := isTerminal_of_isArmed h.armed
  simp only [openFor, Bool.and_eq_true, decide_eq_true_eq, Bool.not_eq_true']
  constructor
  · rintro ⟨hk, ho⟩
    exact hc.open_unique hj h.invocation (hk.trans h.same) ho hopen
  · rintro rfl
    exact ⟨h.same.symm, hopen⟩

/-- Publishing completes the attempt, whatever is then done to the session. -/
theorem Published.completes (hc : Consistent s.toLedger)
    (h : Published s t agentId invocationId input now resultId resultNow i d origin)
    {turns : List SessionBindingTurn} {bindings : List SessionBinding}
    (hsession : ReturnsSession s i now turns bindings) :
    Completes s { t with sessionBindingTurns := turns, sessionBindings := bindings } i
      (resultRow s agentId invocationId origin input resultId resultNow) now := by
  obtain ⟨hable, hpost, rfl⟩ := h
  refine ⟨hable.invocation, hable.armed, fun hmem => hpost.id _ hmem rfl, rfl, ?_, ?_, ?_, hsession⟩
  · refine ⟨List.mem_append_right _ (List.mem_singleton_self _), hable.agent.symm, ?_, origin,
      List.mem_append_left _ hable.message, hable.seq, rfl, rfl, rfl, rfl⟩
    rw [hable.id]
    rfl
  · refine ⟨d, hable.delivery, hable.same, by rw [hable.token, hable.lease], ?_⟩
    rw [hable.lease]
    change _ ∈ (completedStore s _ d input.leaseToken now).agentDeliveries
    rw [completedStore_deliveries (by rw [hable.token]; rfl)]
    exact List.mem_append_left _ (mem_replaceRow.mpr (.inl ⟨rfl, hable.delivery⟩))
  · exact hable.ended hc _

end Publication

/-! ## The attempts that name a result -/

/-- Every attempt that names a result ended with a known outcome and its result is in the log. -/
def ResultsStored (s : Store) : Prop :=
  ∀ i ∈ s.invocations, ∀ seq, i.state.resultMessageSeq = some seq →
    i.state.isCompleted = true ∧ ∃ m, m.seq = seq ∧ ResultOf s i m

section Commands

variable {s t : Store}

/-- A publication stores the result of its attempt and keeps the others. -/
theorem Completes.resultsStored {i : InvocationRow} {m : MessageRow} {now : Int}
    (h : Completes s t i m now) (hs : ResultsStored s) : ResultsStored t := by
  intro j hj seq hseq
  rw [h.ended] at hj
  rcases mem_replaceRow.mp hj with ⟨rfl, _⟩ | ⟨hj, _⟩
  · obtain ⟨hmem, hsender, hkey, hanswers⟩ := h.result
    exact ⟨rfl, m, Option.some.inj hseq, hmem, hsender, hkey, hanswers⟩
  · obtain ⟨hdone, n, hn, hresult⟩ := hs j hj seq hseq
    refine ⟨hdone, n, hn, hresult.mono ?_⟩
    rw [h.posted]
    exact List.subset_append_left _ _

/-- An attempt that newly names a result is the one that was published. -/
theorem Completes.new_result {i j : InvocationRow} {m : MessageRow} {now : Int}
    (h : Completes s t i m now) (hj : j ∈ t.invocations) (hnew : j ∉ s.invocations) :
    j.id = i.id := by
  rw [h.ended] at hj
  rcases mem_replaceRow.mp hj with ⟨rfl, _⟩ | ⟨hj, _⟩
  · rfl
  · exact absurd hj hnew

/-- A turn that newly came to rest is the one of the attempt that was published. -/
theorem Completes.new_quiescent {i : InvocationRow} {m : MessageRow} {now : Int}
    (h : Completes s t i m now) {u : SessionBindingTurn} (hu : u ∈ t.sessionBindingTurns)
    (hnew : u ∉ s.sessionBindingTurns) : u.invocationId = i.id := by
  rcases h.session with ⟨_, hturns, _⟩ | ⟨v, _, hid, _, row, _, _, _, persistence, hturns, _⟩
  · rw [hturns] at hu
    exact absurd hu hnew
  · rw [hturns] at hu
    rcases mem_replaceRow.mp hu with ⟨rfl, _⟩ | ⟨hu, _⟩
    · exact hid
    · exact absurd hu hnew

variable [DecidableEq Json] [SerdeJson Json] [Sha256] {minted : List String}

/-- A completion changes nothing or publishes. -/
theorem Command.completes (hinv : Invariant minted s) {c : Command Json} {u : Unit}
    (hc : c.isCompletion = true) (h : c.exec s = .ok (u, t)) :
    t = s ∨ ∃ i m now, Completes s t i m now := by
  cases c with
  | completeInvocation agentId invocationId input now resultId resultNow =>
    obtain ⟨_, h⟩ := discard_ok h
    rcases completeInvocationTransaction_ok hinv.ledger hinv.log h with
      ⟨_, _, _, _, hsame, _⟩ | ⟨i, d, origin, hpub, _, hunbound⟩
    · exact .inl hsame
    · refine .inr ⟨i, _, now, hpub.completes hinv.ledger (.inl ⟨hunbound rfl, ?_, ?_⟩)⟩
      · rw [hpub.store]
        rfl
      · rw [hpub.store]
        rfl
  | completeSessionInvocation agentId invocationId binding persistence input now resultId resultNow =>
    obtain ⟨_, h⟩ := discard_ok h
    rcases completeSessionInvocation_ok hinv.ledger hinv.log h with
      ⟨hsame, _⟩ | ⟨i, d, origin, mid, turn, row, hpub, _, hturn, hid, hrun, hrow, _, _, hkey, hon, rfl⟩
    · exact .inl hsame
    · refine .inr ⟨i, _, now, hpub.completes hinv.ledger
        (.inr ⟨turn, hturn, hid, hrun, row, hrow, hkey.symm, hon, persistence, ?_, ?_⟩)⟩
      · rw [hpub.store]
        rfl
      · rw [hpub.store]
        rfl
  | _ => cases hc

/-- A step publishes one result or completes no attempt and brings no turn to rest. -/
theorem Command.step_results (hinv : Invariant minted s) {c : Command Json}
    (hfresh : ∀ leaseToken ∈ c.leaseTokens, leaseToken ∉ minted) :
    (∃ i m now, Completes s (c.step s) i m now) ∨
      (∀ i ∈ (c.step s).invocations, i.state.resultMessageSeq.isSome = true → i ∈ s.invocations) ∧
        ∀ u ∈ (c.step s).sessionBindingTurns, u.state.isQuiescent = true →
          u ∈ s.sessionBindingTurns := by
  rcases c.step_cases s with ⟨_, hok⟩ | hsame
  · by_cases hcompletion : c.isCompletion = true
    · rcases c.completes hinv hcompletion hok with hsame | hpublished
      · rw [hsame]
        exact .inr ⟨fun _ hi _ => hi, fun _ hu _ => hu⟩
      · exact .inl hpublished
    · exact .inr ((c.effect hinv hfresh hok).moves.results fun _ hp => hcompletion hp)
  · rw [hsame]
    exact .inr ⟨fun _ hi _ => hi, fun _ hu _ => hu⟩

/-- A step keeps the results stored. -/
theorem ResultsStored.step (hs : ResultsStored s) (hinv : Invariant minted s) {c : Command Json}
    (hfresh : ∀ leaseToken ∈ c.leaseTokens, leaseToken ∉ minted) : ResultsStored (c.step s) := by
  rcases c.step_results hinv hfresh with ⟨i, m, now, hpublished⟩ | ⟨hold, _⟩
  · exact hpublished.resultsStored hs
  · intro j hj seq hseq
    obtain ⟨hdone, m, hm, hresult⟩ := hs j (hold j hj (by rw [hseq]; rfl)) seq hseq
    exact ⟨hdone, m, hm, hresult.mono (c.step_effect hinv hfresh).messages.subset⟩

end Commands

/-! ## Repeats of a completion -/

/-- A completion was recorded: the attempt it names ended with the result it asks for. -/
structure Recorded [DecidableEq Json] [SerdeJson Json] (s : Store) (agentId invocationId : String)
    (input : CompleteInvocation Json) (message : Message Json) : Prop where
  valid : validateCompletion invocationId input = .ok ()
  attempt : ∃ i ∈ s.invocations, i.id = invocationId ∧ i.agentId = agentId ∧
    i.leaseToken = input.leaseToken ∧ i.fenceToken = input.fenceToken ∧
    ∃ m ∈ s.messages, i.state.resultMessageSeq = some m.seq ∧ messageFromRow m = .ok message ∧
    ∃ origin ∈ s.messages, origin.seq = i.messageSeq ∧
      messageMatchesResult message origin.channelId
        (resultInput agentId invocationId origin input) = true

/-- The turn of a completion came to rest under a binding. -/
def Rested (s : Store) (invocationId : String) (binding : Binding)
    (persistence : SessionPersistence) : Prop :=
  validateBinding binding = .ok () ∧ ∃ turn ∈ s.sessionBindingTurns,
    turn.invocationId = invocationId ∧
    turn.bindingKey = (binding.bindingId, binding.bindingGeneration) ∧
    turn.ownerEpoch = binding.ownerEpoch ∧ ∃ at_, turn.state = .quiescent at_ persistence

/-- An attempt that names a result has ended. -/
theorem isTerminal_of_resultMessageSeq {state : InvocationState} {seq : Nat}
    (h : state.resultMessageSeq = some seq) : state.isTerminal = true := by
  cases state with
  | terminal => rfl
  | _ => cases h

section Recording

variable [DecidableEq Json] [SerdeJson Json] {s t : Store} {agentId invocationId resultId : String}
  {input : CompleteInvocation Json} {now resultNow : Int} {message : Message Json}

/-- A successful completion was recorded. -/
theorem completeInvocationTransaction_recorded [LawfulSerdeJson Json] (hc : Consistent s.toLedger)
    (hlog : LogConsistent s) {allow : Bool} {result : InvocationCompletion Json × Bool}
    (h : completeInvocationTransaction agentId invocationId input now allow resultId resultNow s =
      .ok (result, t)) : Recorded t agentId invocationId input result.1.result := by
  simp only [completeInvocationTransaction, bind_ok, check_ok] at h
  obtain ⟨_, _, ⟨hvalid, rfl⟩, _, _, hens, row, _, hrow, _, _, ⟨hfence, rfl⟩, h⟩ := h
  obtain ⟨rfl, _⟩ := ensureSessionAllowsCompletion_ok hens
  obtain ⟨rfl, hfound⟩ := invocationWithDelivery_ok hrow
  have htokens := validateStaticFence_ok hfence
  refine ⟨hvalid, ?_⟩
  cases hs : row.invocation.state with
  | reserved => simp only [hs, fail_ok] at h
  | terminal =>
    simp only [hs, completedReplay, bind_ok, require_ok, ensure_ok, pure_ok] at h
    obtain ⟨_, _, ⟨seq, _, ⟨hseq, rfl⟩, _, _, hresult, _, _, ⟨hmatch, rfl⟩, _, _, hread, rfl, rfl⟩, rfl,
      rfl⟩ := h
    obtain ⟨rfl, m, hm, rfl, hdecode⟩ := messageBySeq_ok hresult
    obtain rfl := invocationById_ok hread
    obtain ⟨hi, hid, hagent, _, _, horigin, horiginSeq⟩ := hfound
    exact ⟨row.invocation, hi, hid, hagent, htokens.1, htokens.2, m, hm, hs ▸ hseq, hdecode, row.input,
      horigin, horiginSeq, hmatch⟩
  | dispatchArmed at_ =>
    simp only [hs, bind_ok, pure_ok] at h
    obtain ⟨_, _, hpublish, rfl, rfl⟩ := h
    obtain ⟨hable, _, rfl, hresult⟩ :=
      publishCompletion_ok hc hlog hfound htokens (by rw [hs]; rfl) hpublish
    refine ⟨terminalColumns now .outcomeKnown (.completed (s.messageSequence + 1)) row.invocation, ?_,
      hable.id, hable.agent, hable.lease, hable.fence,
      resultRow s agentId invocationId row.input input resultId resultNow,
      List.mem_append_right _ (List.mem_singleton_self _), rfl, ?_, row.input,
      List.mem_append_left _ hable.message, hable.seq, ?_⟩
    · change _ ∈ updateWhere (openFor row.delivery.key) _ s.invocations
      rw [hable.ended hc]
      exact mem_replaceRow.mpr (.inl ⟨rfl, hable.invocation⟩)
    · rw [hresult]
      exact messageFromRow_row ..
    · rw [hresult]
      simp [messageMatchesResult, CreateMessage.message]

/-- A successful completion under a session was recorded and brought its turn to rest. -/
theorem completeSessionInvocation_recorded [LawfulSerdeJson Json] (hc : Consistent s.toLedger)
    (hlog : LogConsistent s) {binding : Binding} {persistence : SessionPersistence}
    {result : InvocationCompletion Json × Bool}
    (h : completeSessionInvocation agentId invocationId binding persistence input now resultId
      resultNow s = .ok (result, t)) :
    Recorded t agentId invocationId input result.1.result ∧
      Rested t invocationId binding persistence := by
  simp only [completeSessionInvocation, bind_ok, check_ok, pure_ok] at h
  obtain ⟨_, _, ⟨hbinding, rfl⟩, _, _, hvalid, _, mid, hcomplete, _, _, hsettle, rfl, rfl⟩ := h
  obtain ⟨rfl, turn, hturn, hid, hkey, hepoch, _⟩ := validateBoundTurn_ok hvalid
  have hrecorded := completeInvocationTransaction_recorded hc hlog hcomplete
  have hturns : mid.sessionBindingTurns = s.sessionBindingTurns := by
    rcases completeInvocationTransaction_ok hc hlog hcomplete with
      ⟨_, _, _, _, rfl, _⟩ | ⟨_, _, _, hpub, _, _⟩
    · rfl
    · rw [hpub.store]
      rfl
  obtain ⟨turn', hturn', hid', hcase⟩ := settleQuiescentTurn_ok hsettle
  rw [hturns] at hturn' hcase
  rcases hcase with ⟨at_, hquiet, rfl⟩ | ⟨u, hu, row, _, huid, _, _, _, _, _, rfl⟩
  · obtain rfl := hc.turnIds.eq hturn' hturn (hid'.trans hid.symm)
    exact ⟨hrecorded, hbinding, turn', hturns ▸ hturn', hid, hkey, hepoch, at_, hquiet⟩
  · obtain rfl := hc.turnIds.eq hu hturn (huid.trans hid.symm)
    refine ⟨⟨hrecorded.valid, hrecorded.attempt⟩, hbinding, { u with state := .quiescent now persistence }, ?_, hid, hkey, hepoch,
      now, rfl⟩
    change _ ∈ replaceRow u _ mid.sessionBindingTurns
    rw [hturns]
    exact mem_replaceRow.mpr (.inl ⟨rfl, hu⟩)

variable {permits : Action → Prop}

/-- A recorded completion stays recorded. -/
theorem Recorded.effect (h : Recorded s agentId invocationId input message)
    (hc : Consistent s.toLedger) (heff : Effect Json permits s t) :
    Recorded t agentId invocationId input message := by
  obtain ⟨i, hi, hid, hagent, hlease, hfence, m, hm, hseq, hdecode, origin, horigin, horiginSeq, hmatch⟩ :=
    h.attempt
  obtain ⟨i', hi', hev⟩ := (hc.evolves_moves heff.moves).invocations.mem hi
  obtain rfl := hev.terminal (isTerminal_of_resultMessageSeq hseq)
  have hle := heff.messages.subset
  exact ⟨h.valid, i', hi', hid, hagent, hlease, hfence, m, hle hm, hseq, hdecode, origin, hle horigin,
    horiginSeq, hmatch⟩

omit [DecidableEq Json] in
/-- A turn that came to rest stays at rest. -/
theorem Rested.effect {binding : Binding} {persistence : SessionPersistence}
    (h : Rested s invocationId binding persistence) (hc : Consistent s.toLedger)
    (heff : Effect Json permits s t) : Rested t invocationId binding persistence := by
  obtain ⟨hvalid, turn, hturn, hid, hkey, hepoch, at_, hstate⟩ := h
  obtain ⟨turn', hturn', hev⟩ := (hc.evolves_moves heff.moves).sessionBindingTurns.mem hturn
  obtain rfl := hev.ended (by rw [hstate]; exact fun heq => by cases heq)
  exact ⟨hvalid, turn', hturn', hid, hkey, hepoch, at_, hstate⟩

end Recording

section Replay

variable [DecidableEq Json] [SerdeJson Json] {s : Store} {agentId invocationId : String}
  {input other : CompleteInvocation Json} {message : Message Json}

/-- An attempt is found with its delivery and its input. -/
theorem invocationWithDelivery_run (hc : Consistent s.toLedger) (hlog : LogConsistent s)
    {i : InvocationRow} (hi : i ∈ s.invocations) {origin : MessageRow} (ho : origin ∈ s.messages)
    (hseq : origin.seq = i.messageSeq) :
    ∃ d, invocationWithDelivery i.agentId i.id s = .ok (⟨i, d, origin⟩, s) := by
  obtain ⟨d, hd, hk⟩ := hc.exists_delivery hi
  have hfind : s.invocations.find? (fun j => j.id = i.id ∧ j.agentId = i.agentId) = some i :=
    hc.invocationIds.find?_eq_some hi (by simp) fun j _ h => (of_decide_eq_true h).1
  have hdelivery : s.agentDeliveries.find? (fun e => e.key = i.deliveryKey) = some d :=
    hc.deliveryKeys.find?_eq_some hd (by simp [hk]) fun e _ h => by rw [of_decide_eq_true h, hk]
  have hmessage : s.messages.find? (fun m => m.seq = i.messageSeq) = some origin :=
    hlog.messageSeqs.find?_eq_some ho (by simp [hseq]) fun m _ h => by rw [of_decide_eq_true h, hseq]
  exact ⟨d, by simp only [invocationWithDelivery, bind_run, read_run, id, hfind, require_some_run,
    hdelivery, hmessage, pure_run]⟩

omit [DecidableEq Json] in
/-- An attempt can be read back. -/
theorem invocationById_run [LawfulSerdeJson Json] (hids : KeyUnique InvocationRow.id s.invocations)
    (hseqs : KeyUnique MessageRow.seq s.messages) {i : InvocationRow} (hi : i ∈ s.invocations)
    {origin : MessageRow}
    (ho : origin ∈ s.messages) (hseq : origin.seq = i.messageSeq) (hprinted : origin.Printed Json) :
    ∃ invocation : Invocation Json, invocationById i.id s = .ok (invocation, s) := by
  have hfind : s.invocations.find? (fun j => j.id = i.id) = some i :=
    hids.find?_eq_some hi (by simp) fun j _ h => of_decide_eq_true h
  have hmessage : s.messages.find? (fun m => m.seq = i.messageSeq) = some origin :=
    hseqs.find?_eq_some ho (by simp [hseq]) fun m _ h => by rw [of_decide_eq_true h, hseq]
  obtain ⟨decoded, hdecoded⟩ := hprinted.decode
  have hrow : ∃ invocation : Invocation Json,
      invocationFromRow s.messages i origin = .ok invocation := by
    rw [invocationFromRow, hdecoded]
    exact ⟨_, rfl⟩
  obtain ⟨invocation, hrow⟩ := hrow
  exact ⟨invocation, by simp only [invocationById, bind_run, read_run, id, hfind, require_some_run,
    hmessage, hrow, check_ok_run]⟩

omit [DecidableEq Json] in
/-- The stored message of a sequence number is read back. -/
theorem messageBySeq_run (hlog : LogConsistent s) {m : MessageRow} (hm : m ∈ s.messages)
    (hdecode : messageFromRow m = .ok message) :
    messageBySeq m.seq s = .ok (message, s) := by
  have hfind : s.messages.find? (fun n => n.seq = m.seq) = some m :=
    hlog.messageSeqs.find?_eq_some hm (by simp) fun n _ h => of_decide_eq_true h
  simp only [messageBySeq, bind_run, read_run, hfind, require_some_run, hdecode, check_ok_run]

/-- An attempt with a known outcome may be completed again outside its session. -/
theorem ensureSessionAllowsCompletion_run (hc : Consistent s.toLedger) {i : InvocationRow}
    (hi : i ∈ s.invocations) (hdone : i.state.isCompleted = true) (allow : Bool) :
    ensureSessionAllowsCompletion i.id allow s = .ok ((), s) := by
  cases allow with
  | true => rfl
  | false =>
    simp only [ensureSessionAllowsCompletion, Bool.false_eq_true, if_false,
      ensureInvocationNotActiveOnSession, bind_run, read_run]
    cases hturn : turnOf i.id s.sessionBindingTurns with
    | none => rfl
    | some turn =>
      have hmem := List.mem_of_find?_eq_some hturn
      have hid : turn.invocationId = i.id := by simpa using List.find?_some hturn
      have hfit := hc.turnFits turn hmem i hi hid.symm
      have hnot : i.state.isArmed = false ∧ i.state.isOutcomeUnknown = false := by
        cases hs : i.state with
        | terminal armedAt terminalAt certainty reason =>
          rw [hs] at hdone
          cases certainty with
          | outcomeKnown => exact ⟨rfl, rfl⟩
          | _ => cases hdone
        | _ => rw [hs] at hdone; cases hdone
      rw [Option.map_some]
      cases hstate : turn.state with
      | active =>
        rw [hstate, TurnFits, hnot.1] at hfit
        cases hfit
      | uncertain at_ why =>
        rw [hstate, TurnFits, hnot.1, hnot.2] at hfit
        rcases hfit with hf | hf <;> cases hf
      | quiescent at_ persistence => rfl

omit [SerdeJson Json] in
/-- A recorded result is the one asked for exactly when kind and payload are the same. -/
theorem messageMatchesResult_iff {channelId : String} {origin : MessageRow}
    (h : messageMatchesResult message channelId (resultInput agentId invocationId origin input) = true) :
    messageMatchesResult message channelId (resultInput agentId invocationId origin other) = true ↔
      other.kind = input.kind ∧ other.payload = input.payload := by
  rw [messageMatchesResult, decide_eq_true_eq] at h ⊢
  obtain ⟨hchannel, hsender, hrecipient, hkind, hpayload, hcorrelation, hcausation⟩ := h
  constructor
  · rintro ⟨_, _, _, hkind', hpayload', _, _⟩
    exact ⟨hkind'.symm.trans hkind, hpayload'.symm.trans hpayload⟩
  · rintro ⟨hk, hp⟩
    exact ⟨hchannel, hsender, hrecipient, hkind.trans hk.symm, hpayload.trans hp.symm, hcorrelation,
      hcausation⟩

/-- A call under the tokens of a recorded completion is answered with the stored result when
it asks for it and is a conflict otherwise. -/
theorem Recorded.completeInvocationTransaction_run [LawfulSerdeJson Json]
    (h : Recorded s agentId invocationId input message) (hc : Consistent s.toLedger)
    (hlog : LogConsistent s) (hprinted : ∀ m ∈ s.messages, m.Printed Json) (hstored : ResultsStored s)
    (hlease : other.leaseToken = input.leaseToken) (hfence : other.fenceToken = input.fenceToken)
    (hvalid : validateCompletion invocationId other = .ok ()) (now : Int) (allow : Bool)
    (resultId : String) (resultNow : Int) :
    ∃ invocation, completeInvocationTransaction agentId invocationId other now allow resultId resultNow
        s =
      if other.kind = input.kind ∧ other.payload = input.payload then
        .ok ((⟨invocation, message⟩, false), s)
      else .error (.conflict "invocation was already completed with a different result") := by
  obtain ⟨i, hi, rfl, rfl, hilease, hifence, m, hm, hseq, hdecode, origin, horigin, horiginSeq,
    hmatch⟩ := h.attempt
  obtain ⟨d, hread⟩ := invocationWithDelivery_run hc hlog hi horigin horiginSeq
  obtain ⟨invocation, hinvocation⟩ :=
    invocationById_run hc.invocationIds hlog.messageSeqs hi horigin horiginSeq (hprinted origin horigin)
  have hens := ensureSessionAllowsCompletion_run hc hi (hstored i hi m.seq hseq).1 allow
  have hstatic : validateStaticFence ⟨i, d, origin⟩ other.leaseToken other.fenceToken = .ok () :=
    if_neg (by rw [hlease, hfence, hilease, hifence]; simp)
  have hresult := messageBySeq_run hlog hm hdecode
  refine ⟨invocation, ?_⟩
  simp only [completeInvocationTransaction, bind_run, hvalid, check_ok_run, hens, hread, hstatic]
  cases hs : i.state with
  | terminal armedAt terminalAt certainty reason =>
    simp only [bind_run, completedReplay, hseq, require_some_run, hresult, ensure_run,
      messageMatchesResult_iff hmatch]
    by_cases hsame : other.kind = input.kind ∧ other.payload = input.payload
    · simp only [if_pos hsame, hinvocation, pure_run]
    · simp only [if_neg hsame]
  | _ => rw [hs] at hseq; cases hseq

/-- A turn at rest is found under its binding. -/
theorem Rested.boundTurnRow_run (hc : Consistent s.toLedger) {binding : Binding}
    {persistence : SessionPersistence} (h : Rested s invocationId binding persistence) :
    ∃ turn at_, boundTurnRow invocationId s = .ok (turn, s) ∧
      validateTurnFence turn binding = .ok () ∧ turn.state = .quiescent at_ persistence := by
  obtain ⟨hvalid, turn, hturn, hid, hkey, hepoch, at_, hstate⟩ := h
  have hfind : turnOf invocationId s.sessionBindingTurns = some turn :=
    hc.turnIds.find?_eq_some hturn (by simp [hid]) fun u _ hu => by rw [of_decide_eq_true hu, hid]
  obtain ⟨hgen, hgenMax, hep, hepMax⟩ := validateBinding_ok hvalid
  refine ⟨turn, at_, ?_, ?_, hstate⟩
  · simp only [boundTurnRow, bind_run, read_run, hfind, require_some_run]
  · obtain ⟨hb, hg⟩ : turn.bindingId = binding.bindingId ∧
        turn.bindingGeneration = binding.bindingGeneration := Prod.ext_iff.mp hkey
    rw [validateTurnFence, asI64_eq hgen hgenMax, asI64_eq hep hepMax]
    exact if_neg (by rw [hb, hg, hepoch]; simp)

/-- A repeat under a session is answered like a repeat outside of it. -/
theorem Rested.completeSessionInvocation_run (hc : Consistent s.toLedger) {binding : Binding}
    {persistence : SessionPersistence} (h : Rested s invocationId binding persistence) {now : Int}
    {resultId : String} {resultNow : Int}
    {result : Except FleetError ((InvocationCompletion Json × Bool) × Store)}
    (hcall : completeInvocationTransaction agentId invocationId other now true resultId resultNow s =
      result) (hsame : ∀ answer t, result = .ok (answer, t) → t = s) :
    completeSessionInvocation agentId invocationId binding persistence other now resultId resultNow s =
      result := by
  obtain ⟨turn, at_, hturn, hfence, hstate⟩ := h.boundTurnRow_run hc
  have hbound : validateBoundTurn agentId invocationId binding true s = .ok ((), s) := by
    simp only [validateBoundTurn, bind_run, hturn, hfence, check_ok_run, hstate, pure_run]
  have hsettle : settleQuiescentTurn agentId invocationId binding persistence now s = .ok ((), s) := by
    simp only [settleQuiescentTurn, bind_run, hturn, hstate, ensure_run, if_true]
  simp only [completeSessionInvocation, bind_run, h.1, check_ok_run, hbound, hcall]
  cases result with
  | error e => rfl
  | ok answer =>
    obtain ⟨completion, t⟩ := answer
    obtain rfl := hsame completion t rfl
    simp only [hsettle, pure_run]

omit [DecidableEq Json] [SerdeJson Json] in
/-- A completion request is valid when it differs from a valid one in kind and payload only. -/
theorem validateCompletion_other (h : validateCompletion invocationId input = .ok ())
    (hlease : other.leaseToken = input.leaseToken) (hfence : other.fenceToken = input.fenceToken)
    (hkind : isBlank other.kind = false) : validateCompletion invocationId other = .ok () := by
  simp only [validateCompletion, validatePresent, hlease, hfence] at h ⊢
  split at h
  · cases h
  split at h
  · cases h
  split at h
  · cases h
  simp [*]

end Replay

/-! ## Whole runs -/

section Runs

variable [DecidableEq Json] [SerdeJson Json] [Sha256] {cs later : List (Command Json)}

/-- A run stores the results that its attempts name. -/
theorem run_resultsStored (h : Fresh cs) : ResultsStored (run cs) := by
  refine FreshAlong.induction (fun _ (s : Store) => ResultsStored s) (fun _ hi => by cases hi)
    (fun ds c hfresh hs => ?_) cs h
  exact ResultsStored.step hs (run_invariant hfresh.left) fun _ ht => hfresh.not_mem ht

/-- From some run on, a completion is answered with one message: the same call succeeds
without creating anything, a call that asks for another result is a conflict, and neither
changes the database. -/
def Replays (call : CompleteInvocation Json → Int → String → Int → Tx (InvocationCompletion Json × Bool))
    (input : CompleteInvocation Json) (message : Message Json) (cs : List (Command Json)) : Prop :=
  ∀ later, cs <+: later → Fresh later → ∀ now resultId resultNow,
    (∃ invocation,
      call input now resultId resultNow (run later) = .ok ((⟨invocation, message⟩, false), run later)) ∧
    ∀ other : CompleteInvocation Json, other.leaseToken = input.leaseToken →
      other.fenceToken = input.fenceToken →
      (other.kind ≠ input.kind ∨ other.payload ≠ input.payload) → isBlank other.kind = false →
      call other now resultId resultNow (run later) =
        .error (.conflict "invocation was already completed with a different result")

/-- What workers can rely on about results after a run. -/
structure PublishesOnce (cs : List (Command Json)) : Prop where
  result : ∀ i ∈ (run cs).invocations, ∀ seq, i.state.resultMessageSeq = some seq →
    ∃ m, m.seq = seq ∧ ResultOf (run cs) i m
  unique : ∀ i ∈ (run cs).invocations, ∀ m n, ResultOf (run cs) i m → ResultOf (run cs) i n → m = n
  kept : ∀ i ∈ (run cs).invocations, i.state.resultMessageSeq.isSome = true →
    ∀ later, cs <+: later → Fresh later → i ∈ (run later).invocations
  atomic : ∀ c, Fresh (cs ++ [c]) → c.isCompletion = true →
    run (cs ++ [c]) = run cs ∨ ∃ i m now, Completes (run cs) (run (cs ++ [c])) i m now
  completed : ∀ c, Fresh (cs ++ [c]) → ∀ j ∈ (run (cs ++ [c])).invocations,
    j.state.resultMessageSeq.isSome = true → j ∉ (run cs).invocations →
    ∃ i m now, j.id = i.id ∧ Completes (run cs) (run (cs ++ [c])) i m now
  rested : ∀ c, Fresh (cs ++ [c]) → ∀ u ∈ (run (cs ++ [c])).sessionBindingTurns,
    u.state.isQuiescent = true → u ∉ (run cs).sessionBindingTurns →
    ∃ i m now, u.invocationId = i.id ∧ Completes (run cs) (run (cs ++ [c])) i m now
  replayed : ∀ agentId invocationId input now resultId resultNow result t,
    completeInvocation agentId invocationId input now resultId resultNow (run cs) = .ok (result, t) →
    Replays (completeInvocation agentId invocationId) input result.1.result
      (cs ++ [.completeInvocation agentId invocationId input now resultId resultNow])
  replayedSession : ∀ agentId invocationId binding persistence input now resultId resultNow result t,
    completeSessionInvocation agentId invocationId binding persistence input now resultId resultNow
      (run cs) = .ok (result, t) →
    Replays (completeSessionInvocation agentId invocationId binding persistence) input result.1.result
      (cs ++ [.completeSessionInvocation agentId invocationId binding persistence input now resultId
        resultNow]) ∧
    Replays (completeInvocation agentId invocationId) input result.1.result
      (cs ++ [.completeSessionInvocation agentId invocationId binding persistence input now resultId
        resultNow])

variable [LawfulSerdeJson Json]

/-- A recorded completion is answered in every later state. -/
theorem Recorded.replays {agentId invocationId : String} {input : CompleteInvocation Json}
    {message : Message Json} {allow : Bool}
    (h : Recorded (run cs) agentId invocationId input message) :
    Replays (fun other now => completeInvocationTransaction agentId invocationId other now allow)
      input message cs := by
  rintro _ ⟨ds, rfl⟩ hfresh now resultId resultNow
  have hlater : Recorded (run (cs ++ ds)) agentId invocationId input message :=
    run_induction_from cs (fun _ (s : Store) => Recorded s agentId invocationId input message) h
      (fun _ _ hds heff hs => hs.effect (run_invariant hds.left).ledger heff) hfresh
  have hcall : ∀ other : CompleteInvocation Json, other.leaseToken = input.leaseToken →
      other.fenceToken = input.fenceToken → validateCompletion invocationId other = .ok () → _ :=
    fun other hlease hfence hvalid => hlater.completeInvocationTransaction_run
      (run_invariant hfresh).ledger (run_invariant hfresh).log (run_printed hfresh)
      (run_resultsStored hfresh) hlease hfence hvalid now allow resultId resultNow
  constructor
  · obtain ⟨invocation, hok⟩ := hcall input rfl rfl h.valid
    exact ⟨invocation, hok.trans (if_pos ⟨rfl, rfl⟩)⟩
  · intro other hlease hfence hother hkind
    obtain ⟨_, hconflict⟩ :=
      hcall other hlease hfence (validateCompletion_other h.valid hlease hfence hkind)
    refine hconflict.trans (if_neg fun hsame => ?_)
    rcases hother with hne | hne
    · exact hne hsame.1
    · exact hne hsame.2

/-- A recorded completion whose turn came to rest is answered under its session too. -/
theorem Recorded.replaysSession {agentId invocationId : String} {input : CompleteInvocation Json}
    {message : Message Json} {binding : Binding} {persistence : SessionPersistence}
    (h : Recorded (run cs) agentId invocationId input message)
    (hrest : Rested (run cs) invocationId binding persistence) :
    Replays (completeSessionInvocation agentId invocationId binding persistence) input message cs := by
  intro later hle hfresh now resultId resultNow
  have hplain : Replays (fun other now => completeInvocationTransaction agentId invocationId other now
      true) input message cs := h.replays
  obtain ⟨⟨invocation, hok⟩, hconflict⟩ := hplain later hle hfresh now resultId resultNow
  obtain ⟨ds, rfl⟩ := hle
  have hlater : Rested (run (cs ++ ds)) invocationId binding persistence :=
    run_induction_from cs (fun _ (s : Store) => Rested s invocationId binding persistence) hrest
      (fun _ _ hds heff hs => hs.effect (run_invariant hds.left).ledger heff) hfresh
  have hc := (run_invariant hfresh).ledger
  refine ⟨⟨invocation, hlater.completeSessionInvocation_run hc hok fun answer t heq => ?_⟩,
    fun other hlease hfence hother hkind => hlater.completeSessionInvocation_run hc
      (hconflict other hlease hfence hother hkind) fun answer t heq => ?_⟩
  · cases heq
    rfl
  · cases heq

/-- After every run with fresh lease tokens, results are published exactly once. -/
theorem run_publishesOnce (h : Fresh cs) : PublishesOnce cs where
  result i hi seq hseq := (run_resultsStored h i hi seq hseq).2
  unique _ _ _ _ hm hn := hm.unique (run_invariant h).log hn
  kept i hi hresult later hle hfresh := by
    obtain ⟨ds, rfl⟩ := hle
    obtain ⟨seq, hseq⟩ := Option.isSome_iff_exists.mp hresult
    refine run_induction_from cs (fun _ (s : Store) => i ∈ s.invocations) hi
      (fun ds c hds heff hs => ?_) hfresh
    obtain ⟨j, hj, hev⟩ := ((run_invariant hds.left).ledger.evolves_moves heff.moves).invocations.mem hs
    exact hev.terminal (isTerminal_of_resultMessageSeq hseq) ▸ hj
  atomic c hfresh hc := by
    rw [run_snoc]
    rcases c.step_cases (run cs) with ⟨_, hok⟩ | hsame
    · exact c.completes (run_invariant h) hc hok
    · exact .inl hsame
  completed c hfresh j hj hresult hnew := by
    rw [run_snoc] at hj ⊢
    rcases c.step_results (run_invariant h) fun _ ht => hfresh.not_mem ht with
      ⟨i, m, now, hpub⟩ | ⟨hold, _⟩
    · exact ⟨i, m, now, hpub.new_result hj hnew, hpub⟩
    · exact absurd (hold j hj hresult) hnew
  rested c hfresh u hu hquiet hnew := by
    rw [run_snoc] at hu ⊢
    rcases c.step_results (run_invariant h) fun _ ht => hfresh.not_mem ht with
      ⟨i, m, now, hpub⟩ | ⟨_, hold⟩
    · exact ⟨i, m, now, hpub.new_quiescent hu hnew, hpub⟩
    · exact absurd (hold u hu hquiet) hnew
  replayed agentId invocationId input now resultId resultNow result t hok := by
    have hrecorded : Recorded t agentId invocationId input result.1.result :=
      completeInvocationTransaction_recorded (run_invariant h).ledger (run_invariant h).log hok
    have hstep : run (cs ++ [.completeInvocation agentId invocationId input now resultId resultNow]) =
        t := by
      rw [run_snoc]
      exact commit_of_ok (discard_of_ok hok)
    exact Recorded.replays (hstep ▸ hrecorded)
  replayedSession agentId invocationId binding persistence input now resultId resultNow result t hok := by
    obtain ⟨hrecorded, hrest⟩ :=
      completeSessionInvocation_recorded (run_invariant h).ledger (run_invariant h).log hok
    have hstep : run (cs ++ [.completeSessionInvocation agentId invocationId binding persistence input
        now resultId resultNow]) = t := by
      rw [run_snoc]
      exact commit_of_ok (discard_of_ok hok)
    rw [← hstep] at hrecorded hrest
    exact ⟨hrecorded.replaysSession hrest, hrecorded.replays⟩

end Runs

/-- The sample's attempt is completed under its session. -/
def completedRun : List (Command Bool) := sampleArmed ++ [
  .completeSessionInvocation "b" "i" ⟨"B", 1, 1⟩ .confirmed ⟨"T", "f", "done", true⟩ 8 "r" 8]

/-- The results of the completed sample are published exactly once. -/
theorem run_publishesOnce_completedRun : Fresh completedRun ∧ PublishesOnce completedRun :=
  ⟨by decide, run_publishesOnce (by decide)⟩

set_option maxRecDepth 100000 in
/-- The sample was completed, and a call that differs in a blank kind is invalid and not a
conflict. -/
theorem completion_invalid_completedRun :
    Fresh completedRun ∧
      (∃ i ∈ (run completedRun).invocations, i.id = "i" ∧ i.state.resultMessageSeq = some 2) ∧
      completeSessionInvocation "b" "i" ⟨"B", 1, 1⟩ .confirmed ⟨"T", "f", " ", true⟩ 9 "x" 9
        (run completedRun) = .error (.invalid "result kind must not be empty") := by
  refine ⟨by decide, ?_, ?_⟩ <;> decide +kernel

end Fleetd
