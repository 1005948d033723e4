import Fleetd.Guarantees.Consistency

/-!
# When expiry recovery succeeds

Recovery of an expired armed attempt fences the session that the attempt runs on, and
demands that the session still names the attempt. A retirement of an uncertain session whose
attempt is still armed breaks this demand for good. In every run without such a retirement,
recovery succeeds for every agent at every clock reading, and so do the claims and
reservations that begin with it.
-/

namespace Fleetd

open Effects Relational Relational.Transaction

variable {Json : Type}

/-! ## No armed attempt is stranded -/

/-- No armed attempt runs on a retired session. -/
def Unstranded (l : Ledger) : Prop :=
  ∀ i ∈ l.invocations, i.state.isArmed = true → ¬ Stranded l i

section Moves

variable {l l' : Ledger} {a : Action} {i : InvocationRow}

/-- An attempt that is stranded by rows that were there before was stranded before. -/
theorem Stranded.of_rows (h : Stranded l' i)
    (hturns : ∀ turn ∈ l'.sessionBindingTurns, turn.invocationId = i.id →
      ∃ old ∈ l.sessionBindingTurns, old.invocationId = i.id ∧ old.bindingKey = turn.bindingKey)
    (hrows : ∀ row ∈ l'.sessionBindings, row.state.isRetired = true →
      ∃ old ∈ l.sessionBindings, old.key = row.key ∧ old.state.isRetired = true) :
    Stranded l i := by
  obtain ⟨turn, hturn, hid, row, hrow, hkey, hret⟩ := h
  obtain ⟨u, hu, huid, hukey⟩ := hturns turn hturn hid
  obtain ⟨old, hold, holdkey, holdret⟩ := hrows row hrow hret
  exact ⟨u, hu, huid, old, hold, holdkey.trans (hkey.trans hukey.symm), holdret⟩

/-- A rewritten binding that is not retired strands nothing. -/
theorem retired_of_replaceRow {row row' x : SessionBinding}
    (hx : x ∈ replaceRow row row' l.sessionBindings) (hcurrent : row'.state.isRetired = false)
    (hret : x.state.isRetired = true) :
    ∃ old ∈ l.sessionBindings, old.key = x.key ∧ old.state.isRetired = true := by
  rcases mem_replaceRow.mp hx with ⟨rfl, _⟩ | ⟨hx, _⟩
  · rw [hcurrent] at hret
    cases hret
  · exact ⟨x, hx, rfl, hret⟩

/-- A rewritten turn belongs to the same attempt and the same binding. -/
theorem turn_of_replaceRow {t u : SessionBindingTurn} {state : TurnState} {invocationId : String}
    (ht : t ∈ l.sessionBindingTurns)
    (hu : u ∈ replaceRow t { t with state } l.sessionBindingTurns)
    (hid : u.invocationId = invocationId) :
    ∃ old ∈ l.sessionBindingTurns, old.invocationId = invocationId ∧
      old.bindingKey = u.bindingKey := by
  rcases mem_replaceRow.mp hu with ⟨rfl, _⟩ | ⟨hu, _⟩
  · exact ⟨t, ht, hid, rfl⟩
  · exact ⟨u, hu, hid, rfl⟩

/-- Attempts that were ended are not armed. -/
theorem armed_of_updateWhere {selected : InvocationRow → Bool} {now : Int}
    {certainty : ExecutionCertainty} {reason : TerminalReason}
    (hi : i ∈ updateWhere selected (terminalColumns now certainty reason) l.invocations)
    (harmed : i.state.isArmed = true) : i ∈ l.invocations := by
  obtain ⟨j, hj, rfl⟩ := mem_updateWhere.mp hi
  by_cases hs : selected j = true
  · rw [if_pos hs] at harmed
    cases harmed
  · rw [if_neg hs]
    exact hj

/-- A retirement that leaves no armed attempt behind strands nothing. -/
theorem Consistent.unstranded_retire (h : Consistent l) (hu : Unstranded l) {row : SessionBinding}
    {reason : String} {now : Int} (hrow : row ∈ l.sessionBindings)
    (hidle : row.state.isActive = false) (hcurrent : row.state.isRetired = false)
    (hsettled : ∀ i ∈ l.invocations, row.state.isUncertainOn i.id = true →
      i.state.isArmed = false) :
    Unstranded { l with
      sessionBindings := replaceRow row (retiredColumns reason now row) l.sessionBindings } := by
  rintro i hi harmed ⟨turn, hturn, hid, x, hx, hkey, hret⟩
  rcases mem_replaceRow.mp hx with ⟨rfl, _⟩ | ⟨hx, _⟩
  · -- the retired session cannot be the one of an armed attempt
    have hfit := h.turnFits turn hturn i hi hid.symm
    have hbound := h.turnBound turn hturn row hrow hkey
    unfold TurnBound at hbound
    cases hs : turn.state with
    | active =>
      rw [hs] at hbound
      rw [SessionBindingState.isActive_of_isActiveOn hbound] at hidle
      cases hidle
    | quiescent at_ persistence =>
      rw [hs] at hfit
      exact not_turnFits_quiescent harmed hfit
    | uncertain at_ why =>
      rw [hs] at hbound
      rcases hbound with hon | hr
      · rw [hsettled i hi (hid ▸ hon)] at harmed
        cases harmed
      · rw [hcurrent] at hr
        cases hr
  · exact hu i hi harmed ⟨turn, hturn, hid, x, hx, hkey, hret⟩

/-- Every move but a stranding retirement strands nothing. -/
theorem Consistent.unstranded_move (h : Consistent l) (hm : Move a l l') (ha : a ≠ .retire true)
    (hu : Unstranded l) : Unstranded l' := by
  cases hm with
  | deliver seq new _ _ _ _ => exact hu
  | lease tok expiry selected _ _ _ => exact hu
  | resolve b d d' input now _ _ _ _ _ _ _ => exact hu
  | reserve j d _ _ _ _ hr _ =>
    intro i hi harmed
    rcases List.mem_append.mp hi with hi | hi
    · exact hu i hi harmed
    · rw [List.mem_singleton.mp hi, hr] at harmed
      cases harmed
  | arm j at_ hj hr =>
    intro i hi harmed hstranded
    rcases mem_replaceRow.mp hi with ⟨rfl, _⟩ | ⟨hi, _⟩
    · -- no turn belongs to an attempt that was only reserved
      obtain ⟨turn, hturn, hid, _⟩ := hstranded
      have hfit := h.turnFits turn hturn j hj hid.symm
      rw [hr] at hfit
      exact not_turnFits_reserved _ hfit
    · exact hu i hi harmed hstranded
  | expire selected now _ => exact fun i hi harmed => hu i (armed_of_updateWhere hi harmed) harmed
  | settle d d' now certainty reason _ _ _ _ _ _ _ =>
    exact fun i hi harmed => hu i (armed_of_updateWhere hi harmed) harmed
  | park d d' b now reason _ _ _ _ _ _ _ =>
    exact fun i hi harmed => hu i (armed_of_updateWhere hi harmed) harmed
  | found row hopening _ _ _ _ =>
    intro i hi harmed hstranded
    refine hu i hi harmed (hstranded.of_rows (fun turn ht hid => ⟨turn, ht, hid, rfl⟩)
      fun x hx hret => ?_)
    rcases List.mem_append.mp hx with hx | hx
    · exact ⟨x, hx, rfl, hret⟩
    · rw [List.mem_singleton.mp hx, hopening] at hret
      cases hret
  | adopt row owner now hrow hready =>
    intro i hi harmed hstranded
    exact hu i hi harmed (hstranded.of_rows (fun turn ht hid => ⟨turn, ht, hid, rfl⟩)
      fun x hx hret => retired_of_replaceRow hx
        (SessionBindingState.not_isRetired_of_isReady hready) hret)
  | opened row ref now hrow _ =>
    intro i hi harmed hstranded
    exact hu i hi harmed (hstranded.of_rows (fun turn ht hid => ⟨turn, ht, hid, rfl⟩)
      fun x hx hret => retired_of_replaceRow hx rfl hret)
  | activate row t j now hrow hready hact hkey hepoch _ hj hid _ _ hnew =>
    have hactive : (activeColumns t.invocationId now row).state.isRetired = false := by
      cases hs : row.state <;> rw [hs] at hready <;> first | cases hready | skip
      simp [activeColumns, hs, SessionBindingState.toActive, SessionBindingState.isRetired]
    rintro i hi harmed ⟨turn, hturn, htid, x, hx, hxkey, hret⟩
    rcases List.mem_append.mp hturn with hturn | hturn
    · obtain ⟨old, hold, holdkey, holdret⟩ := retired_of_replaceRow hx hactive hret
      exact hu i hi harmed ⟨turn, hturn, htid, old, hold, holdkey.trans hxkey, holdret⟩
    · -- the new turn runs on the binding that was just activated
      rw [List.mem_singleton.mp hturn, hkey] at hxkey
      rcases h.toSessionsConsistent.mem_replaced hrow hx with rfl | ⟨_, hne⟩
      · rw [hactive] at hret
        cases hret
      · exact hne hxkey
  | fence row t reason now hrow ht hkey hact hrun =>
    have hstate : (uncertainColumns reason now row).state.isRetired = false := by
      cases hs : row.state <;> rw [hs] at hact <;> first | cases hact | skip
      simp [uncertainColumns, hs, SessionBindingState.toUncertain, SessionBindingState.isRetired]
    intro i hi harmed hstranded
    exact hu i hi harmed (hstranded.of_rows (fun u hu' hid => turn_of_replaceRow ht hu' hid)
      fun x hx hret => retired_of_replaceRow hx hstate hret)
  | retire row reason now stranding hrow hidle hcurrent hsettled =>
    refine h.unstranded_retire hu hrow hidle hcurrent (hsettled ?_)
    cases stranding with
    | false => rfl
    | true => exact absurd rfl ha
  | complete d d' j t row now seq persistence _ _ _ _ _ hj _ _ ht hid _ hrow _ hact =>
    have hstate : (quiescentColumns j.id persistence now row).state.isRetired = false := by
      cases hs : row.state <;> rw [hs] at hact <;> first | cases hact | skip
      simp [quiescentColumns, hs, SessionBindingState.toReady, SessionBindingState.isRetired]
    intro i hi harmed hstranded
    exact hu i (armed_of_updateWhere hi harmed) harmed (hstranded.of_rows
      (fun u hu' hid => turn_of_replaceRow ht hu' hid)
      fun x hx hret => retired_of_replaceRow hx hstate hret)

/-- Moves in a row without a stranding retirement strand nothing. -/
theorem Consistent.unstranded_moves {permits : Action → Prop} (h : Consistent l)
    (hm : Moves permits l l') (hp : ¬ permits (.retire true)) (hu : Unstranded l) :
    Unstranded l' := by
  have hboth : Unstranded l' ∧ Consistent l' :=
    hm.preserve (P := fun x => Unstranded x ∧ Consistent x)
      (fun a x _ ha hmove hx =>
        ⟨hx.2.unstranded_move hmove (fun heq => hp (heq ▸ ha)) hx.1, hx.2.move hmove⟩)
      ⟨hu, h⟩
  exact hboth.1

end Moves

/-! ## Runs without a stranding retirement -/

/-- A retirement under its exact fence of an uncertain session whose attempt is still armed. -/
def Command.Strands (s : Store) : Command Json → Prop
  | .retireSessionBinding agentId binding _ _ =>
    ∃ row, Presents s agentId binding row ∧
      ∃ i ∈ s.invocations, row.state.isUncertainOn i.id = true ∧ i.state.isArmed = true
  | _ => False

section Runs

variable [DecidableEq Json] [SerdeJson Json] [Sha256] {s : Store}

/-- No command of a run is a stranding retirement in the state it acts on. -/
def NeverStrands (cs : List (Command Json)) : Prop :=
  ∀ before c after, cs = before ++ c :: after → ¬ c.Strands (run before)

/-- A command that is not a stranding retirement strands nothing. -/
theorem Command.step_unstranded {minted : List String} (hinv : Invariant minted s)
    {c : Command Json} (heff : Effect Json c.permits s (c.step s)) (hc : ¬ c.Strands s)
    (hu : Unstranded s.toLedger) : Unstranded (c.step s).toLedger := by
  cases hret : c.isRetirement with
  | false =>
    refine hinv.ledger.unstranded_moves heff.moves (fun hp => ?_) hu
    have hfalse := hp rfl
    rw [hret] at hfalse
    cases hfalse
  | true =>
    obtain ⟨agentId, binding, reason, now, rfl⟩ : ∃ agentId binding reason now,
        c = .retireSessionBinding agentId binding reason now := by
      cases c <;> first | exact ⟨_, _, _, _, rfl⟩ | cases hret
    rcases Command.step_cases (.retireSessionBinding agentId binding reason now : Command Json) s with
      ⟨_, hok⟩ | hsame
    · obtain ⟨_, h⟩ := discard_ok hok
      rcases retireSessionBinding_ok h with hsame | ⟨row, hpres, hidle, hcurrent, hstore⟩
      · rw [hsame]
        exact hu
      · rw [hstore]
        refine hinv.ledger.unstranded_retire hu hpres.mem hidle hcurrent fun i hi hon => ?_
        rw [← Bool.not_eq_true]
        exact fun harmed => hc ⟨row, hpres, i, hi, hon, harmed⟩
    · rw [hsame]
      exact hu

/-- No armed attempt is stranded after a run without stranding retirements. -/
theorem run_unstranded {cs : List (Command Json)} (h : Fresh cs) (hs : NeverStrands cs) :
    Unstranded (run cs).toLedger := by
  refine run_induction (fun ds (s : Store) => NeverStrands ds → Unstranded s.toLedger)
    (fun _ i hi => by cases hi) (fun ds c hfresh heff ih hds => ?_) h hs
  refine Command.step_unstranded (run_invariant hfresh.left) heff (hds ds c [] rfl) (ih ?_)
  rintro before d after rfl
  exact hds before d (after ++ [c]) (by simp)

end Runs

/-! ## Recovery succeeds -/

section Recovery

variable {s : Store}

/-- Recovery of one agent succeeds, and what it does. -/
theorem Unstranded.recover_run (hc : Consistent s.toLedger) (hu : Unstranded s.toLedger)
    (agentId : String) (now : Int) :
    ∃ n t, recoverExpiredInvocationsTransaction agentId now s = .ok (n, t) ∧
      Advances (Action.internal = ·) s t ∧ Recovers s.toLedger t.toLedger agentId now := by
  rcases recover_spec hc rfl agentId now with ⟨⟨i, hpark, hstranded⟩, _⟩ | hok
  · exact absurd hstranded (hu i hpark.row hpark.armed)
  · exact hok

/-- Recovery of any agents, one after the other, succeeds. -/
theorem Unstranded.recoverAgents_run (now : Int) (agents : List String) :
    ∀ {s : Store}, Consistent s.toLedger → Unstranded s.toLedger →
      ∃ n t, recoverAgents now agents s = .ok (n, t) := by
  induction agents with
  | nil => exact fun {s} _ _ => ⟨0, s, rfl⟩
  | cons agentId rest ih =>
    intro s hc hu
    obtain ⟨n, mid, hok, hadv, _⟩ := hu.recover_run hc agentId now
    have humid := hc.unstranded_moves hadv.moves (fun hp => by cases hp) hu
    obtain ⟨m, t, hrest⟩ := ih (hadv.consistent hc) humid
    refine ⟨n + m, t, ?_⟩
    simp only [recoverAgents, bind_run, hok, hrest, pure_run]

/-- The messages of leased rows are messages of the log. -/
theorem message_mem_of_leasedRows {agentId leaseToken : String} {row : AgentDelivery × MessageRow}
    (h : row ∈ leasedRows agentId leaseToken s) : row.2 ∈ s.messages := by
  rw [leasedRows, List.mem_filterMap] at h
  obtain ⟨d, _, hrow⟩ := h
  obtain ⟨m, hm, rfl⟩ := Option.map_eq_some_iff.mp hrow
  exact List.mem_of_find?_eq_some hm

/-- Reading a leased batch succeeds. -/
theorem leasedBatch_run [SerdeJson Json] [LawfulSerdeJson Json]
    (hprinted : ∀ m ∈ s.messages, m.Printed Json) (agentId leaseToken : String) :
    ∃ batch, (leasedBatch agentId leaseToken : Tx (List (Delivery Json))) s = .ok (batch, s) := by
  have hrows : ∀ row ∈ leasedRows agentId leaseToken s,
      ∃ delivery : Delivery Json, deliveryFromRow row = .ok delivery := by
    intro row hrow
    obtain ⟨message, hmessage⟩ := (hprinted _ (message_mem_of_leasedRows hrow)).decode
    have htok := (mem_leasedRows hrow).2.2.2
    obtain ⟨expiry, hs⟩ : ∃ expiry, row.1.state.leaseExpiresAtMs = some expiry := by
      cases hs : row.1.state <;> rw [hs] at htok <;> first | cases htok | skip
      exact ⟨_, rfl⟩
    exact ⟨_, by simp only [deliveryFromRow, hmessage, hs]; rfl⟩
  obtain ⟨batch, hbatch⟩ := except_mapM_ok hrows
  exact ⟨batch, by simp only [leasedBatch, bind_run, read_run, hbatch, check_ok_run]⟩

/-- A claim with valid bounds by a registered agent succeeds. -/
theorem Unstranded.claimDeliveries_run [SerdeJson Json] [LawfulSerdeJson Json]
    (hc : Consistent s.toLedger) (hu : Unstranded s.toLedger)
    (hprinted : ∀ m ∈ s.messages, m.Printed Json) {agentId leaseToken : String}
    {input : ClaimDeliveries} {now leaseExpiresAtMs : Int}
    (hvalid : validateClaim input = .ok ()) (hexpiry : leaseExpiry now input = .ok leaseExpiresAtMs)
    (hagent : agentId ∈ s.agents.map (·.id)) :
    ∃ result : ClaimBatch Json × Store, claimDeliveries agentId input now leaseToken s = .ok result := by
  obtain ⟨n, mid, hok, hadv, _⟩ := hu.recover_run hc agentId now
  have hmessages : mid.messages = s.messages := by rw [hadv.frame]
  obtain ⟨t, hlease, htm⟩ : ∃ t, leaseClaimable agentId leaseToken leaseExpiresAtMs now input.limit
      none mid = .ok ((), t) ∧ t.messages = mid.messages := ⟨_, rfl, rfl⟩
  have hprinted' : ∀ m ∈ t.messages, m.Printed Json := by
    rw [htm, hmessages]
    exact hprinted
  obtain ⟨batch, hbatch⟩ := leasedBatch_run hprinted' agentId leaseToken
  refine ⟨(⟨leaseToken, leaseExpiresAtMs, batch⟩, t), ?_⟩
  simp only [claimDeliveries, hvalid, hexpiry, bind_run, check_ok_run, ensureAgent, ensureExists,
    read_run, ensure_run, if_pos hagent, hok, hlease, hbatch, pure_run]

/-! ## Reservations -/

/-- Fresh names of reservations: no two draws share an identifier or a fence token. -/
def MintsFresh (mint : Nat → String × String) (l : Ledger) : Prop :=
  (∀ m n, (mint m).1 = (mint n).1 ∨ (mint m).2 = (mint n).2 → m = n) ∧
    ∀ i ∈ l.invocations, ∀ n, i.id ≠ (mint n).1 ∧ i.fenceToken ≠ (mint n).2

/-- The messages of a leased batch are different messages. -/
theorem leasedRows_nodup (hc : Consistent s.toLedger) (agentId leaseToken : String) :
    ((leasedRows agentId leaseToken s).map (·.2.seq)).Nodup := by
  have hkeys : ((s.agentDeliveries.filter fun d =>
      d.agentId = agentId ∧ d.state.leaseToken = some leaseToken).insertionSort
        (fun a b => a.messageSeq ≤ b.messageSeq)).Pairwise
      fun d e => d.agentId = agentId → e.agentId = agentId → d.messageSeq ≠ e.messageSeq := by
    refine ((List.perm_insertionSort _ _).pairwise_iff ?_).mpr ?_
    · exact fun h hd he heq => h he hd heq.symm
    · have hne : s.agentDeliveries.Pairwise fun d e => d.key ≠ e.key := by
        have hnodup := hc.deliveryKeys
        rwa [KeyUnique, List.nodup_iff_pairwise_ne, List.pairwise_map] at hnodup
      exact (hne.filter _).imp fun hne hd he heq => hne (Prod.ext heq (hd.trans he.symm))
  rw [List.nodup_iff_pairwise_ne, List.pairwise_map, leasedRows, List.pairwise_filterMap]
  refine hkeys.imp_of_mem fun {d e} hd he hne row hrow row' hrow' => ?_
  rw [List.mem_insertionSort, List.mem_filter, decide_eq_true_eq] at hd he
  obtain ⟨m, hm, rfl⟩ := Option.map_eq_some_iff.mp hrow
  obtain ⟨m', hm', rfl⟩ := Option.map_eq_some_iff.mp hrow'
  have hseq : m.seq = d.messageSeq := by simpa using List.find?_some hm
  have hseq' : m'.seq = e.messageSeq := by simpa using List.find?_some hm'
  rw [hseq, hseq']
  exact hne hd.2.1 he.2.1

/-- The attempt that a reservation records. -/
def reservation (row : AgentDelivery × MessageRow) (agentId leaseToken : String)
    (leaseExpiresAtMs now : Int) (names : String × String) : InvocationRow where
  id := names.1
  messageSeq := row.2.seq
  agentId := agentId
  deliveryAttempt := row.1.attempt
  leaseToken := leaseToken
  leaseExpiresAtMs := leaseExpiresAtMs
  fenceToken := names.2
  state := .reserved
  reservedAtMs := now

section Reservation

variable [SerdeJson Json] [LawfulSerdeJson Json] {agentId leaseToken : String}
  {leaseExpiresAtMs now : Int}

/-- Recording one attempt under fresh names succeeds. -/
theorem reserveRow_run {row : AgentDelivery × MessageRow} {names : String × String}
    (hprinted : row.2.Printed Json) (hpos : 0 < row.1.attempt)
    (hunique : ∀ j ∈ s.invocations, j.id ≠ names.1 ∧ j.fenceToken ≠ names.2 ∧
      ¬ (j.deliveryKey = (row.2.seq, agentId) ∧ j.deliveryAttempt = row.1.attempt)) :
    ∃ invocation : Invocation Json,
      reserveRow row agentId leaseToken leaseExpiresAtMs now names.1 names.2 s =
        .ok (invocation, { s with
          invocations :=
            s.invocations ++ [reservation row agentId leaseToken leaseExpiresAtMs now names] }) := by
  obtain ⟨message, hmessage⟩ := hprinted.decode
  obtain ⟨invocation, hinvocation⟩ : ∃ invocation : Invocation Json, invocationFromRow []
      (reservation row agentId leaseToken leaseExpiresAtMs now names) row.2 = .ok invocation := by
    rw [invocationFromRow, hmessage]
    exact ⟨_, rfl⟩
  refine ⟨invocation, ?_⟩
  simp only [reserveRow, bind_ok, read_ok, ensure_ok, write_ok, check_ok]
  exact ⟨_, s, ⟨rfl, rfl⟩, (), s, ⟨hpos, rfl⟩, (), s, ⟨hunique, rfl⟩, (), _, rfl, hinvocation, rfl⟩

/-- Recording the attempts of a leased batch under fresh names succeeds. -/
theorem reserveRows_run {mint : Nat → String × String}
    (hmint : ∀ m n, (mint m).1 = (mint n).1 ∨ (mint m).2 = (mint n).2 → m = n)
    (rows : List (AgentDelivery × MessageRow)) :
    ∀ {s : Store} {n : Nat}, (rows.map (·.2.seq)).Nodup →
      (∀ row ∈ rows, row.2.Printed Json ∧ 0 < row.1.attempt ∧ ∀ j ∈ s.invocations,
        ¬ (j.deliveryKey = (row.2.seq, agentId) ∧ j.deliveryAttempt = row.1.attempt)) →
      (∀ j ∈ s.invocations, ∀ k, n ≤ k → j.id ≠ (mint k).1 ∧ j.fenceToken ≠ (mint k).2) →
      ∃ result : List (Invocation Json) × Store,
        reserveRows agentId leaseToken leaseExpiresAtMs now mint n rows s = .ok result := by
  induction rows with
  | nil => exact fun {s} _ _ _ _ => ⟨([], s), rfl⟩
  | cons row rest ih =>
    intro s n hnodup hrows hnew
    rw [List.map_cons, List.nodup_cons] at hnodup
    obtain ⟨hprinted, hpos, hfree⟩ := hrows row (List.mem_cons_self ..)
    obtain ⟨invocation, hfirst⟩ : ∃ invocation : Invocation Json,
        reserveRow row agentId leaseToken leaseExpiresAtMs now (mint n).1 (mint n).2 s = _ :=
      reserveRow_run hprinted hpos fun j hj =>
        ⟨(hnew j hj n le_rfl).1, (hnew j hj n le_rfl).2, hfree j hj⟩
    have hrest := @ih { s with
      invocations :=
        s.invocations ++ [reservation row agentId leaseToken leaseExpiresAtMs now (mint n)] }
      (n + 1) hnodup.2 (fun r hr => ?_) (fun j hj k hk => ?_)
    · obtain ⟨⟨others, t⟩, hrest⟩ := hrest
      exact ⟨(invocation :: others, t), by simp only [reserveRows, bind_run, hfirst, hrest, pure_run]⟩
    · obtain ⟨hp, ha, hf⟩ := hrows r (List.mem_cons_of_mem _ hr)
      refine ⟨hp, ha, fun j hj => ?_⟩
      rcases List.mem_append.mp hj with hj | hj
      · exact hf j hj
      · -- the attempt just recorded is about another message
        rw [List.mem_singleton.mp hj]
        rintro ⟨hkey, _⟩
        exact hnodup.1 (List.mem_map.mpr ⟨r, hr, (congrArg Prod.fst hkey).symm⟩)
    · rcases List.mem_append.mp hj with hj | hj
      · exact hnew j hj k (by omega)
      · rw [List.mem_singleton.mp hj]
        exact ⟨fun heq => absurd (hmint n k (.inl heq)) (by omega),
          fun heq => absurd (hmint n k (.inr heq)) (by omega)⟩

end Reservation

/-- A reservation with valid bounds by a registered agent under fresh names succeeds. -/
theorem Unstranded.reserve_run [SerdeJson Json] [LawfulSerdeJson Json]
    (hc : Consistent s.toLedger) (hu : Unstranded s.toLedger)
    (hprinted : ∀ m ∈ s.messages, m.Printed Json) {agentId leaseToken : String}
    {input : ClaimDeliveries} {kinds : Option (List String)} {now leaseExpiresAtMs : Int}
    {mint : Nat → String × String} (hvalid : validateClaim input = .ok ())
    (hexpiry : leaseExpiry now input = .ok leaseExpiresAtMs)
    (hagent : agentId ∈ s.agents.map (·.id)) {minted : List String}
    (htok : TokensIn minted s.toLedger) (hnew : leaseToken ∉ minted)
    (hmint : MintsFresh mint s.toLedger) :
    ∃ result : List (Invocation Json) × Store,
      reserveInvocationsFiltered agentId input kinds now leaseToken mint s = .ok result := by
  obtain ⟨n, mid, hok, hadv, hrec⟩ := hu.recover_run hc agentId now
  have hcm := hadv.consistent hc
  have hmessages : mid.messages = s.messages := by rw [hadv.frame]
  have hunused := (htok.moves hadv.moves fun _ ha => nomatch ha).unused hnew
  obtain ⟨t, hlease⟩ : ∃ t, leaseClaimable agentId leaseToken leaseExpiresAtMs now input.limit
      kinds mid = .ok ((), t) := ⟨_, rfl⟩
  have hct : Consistent t.toLedger := by
    have hadv' : Advances (Action.lease leaseToken = ·) mid t :=
      (leaseClaimable_advances hcm rfl hunused (fun i hi => hrec.terminal hi) hlease).1
    exact hadv'.consistent hcm
  have hstore := hlease
  rw [leaseClaimable, write_ok, Prod.mk.injEq] at hstore
  have hids : ∀ j ∈ t.invocations, ∀ k, 0 ≤ k → j.id ≠ (mint k).1 ∧ j.fenceToken ≠ (mint k).2 := by
    intro j hj k _
    rw [← hstore.2, hrec.invocations] at hj
    obtain ⟨i, hi, rfl⟩ := List.mem_map.mp hj
    have hstatic : (recoveredRow agentId now i).id = i.id ∧
        (recoveredRow agentId now i).fenceToken = i.fenceToken := by
      unfold recoveredRow
      split
      · cases i.state <;> exact ⟨rfl, rfl⟩
      · exact ⟨rfl, rfl⟩
    rw [hstatic.1, hstatic.2]
    exact hmint.2 i hi k
  have hreserve : ∃ result : List (Invocation Json) × Store,
      reserveRows agentId leaseToken leaseExpiresAtMs now mint 0 (leasedRows agentId leaseToken t) t =
        .ok result := by
    refine reserveRows_run hmint.1 (leasedRows agentId leaseToken t)
      (leasedRows_nodup hct agentId leaseToken) (fun row hrow => ?_) hids
    obtain ⟨hd, hdagent, hseq, htoken⟩ := mem_leasedRows hrow
    refine ⟨?_, hct.leasedAttempt row.1 hd (by rw [htoken]; rfl), fun j hj => ?_⟩
    · have hm := message_mem_of_leasedRows hrow
      rw [← hstore.2, hmessages] at hm
      exact hprinted _ hm
    · -- the attempt number was just raised above every recorded attempt
      rw [← hstore.2] at hd hj
      obtain ⟨e, he, hrowe⟩ := mem_updateWhere.mp hd
      by_cases hsel : decide (e ∈ claimSelection agentId now input.limit kinds mid) = true
      · rw [if_pos hsel] at hrowe
        rintro ⟨hkey, hattempt⟩
        have hek : j.deliveryKey = e.key := by
          rw [hkey, hseq, ← hdagent, hrowe]
          rfl
        have hle := (hcm.leaseFits e he j hj hek).attempt
        rw [hattempt, hrowe] at hle
        exact absurd hle (Nat.not_succ_le_self e.attempt)
      · rw [if_neg hsel] at hrowe
        rw [hrowe] at htoken
        exact absurd htoken (hunused.1 e he)
  obtain ⟨result, hresult⟩ := hreserve
  refine ⟨result, ?_⟩
  simp only [reserveInvocationsFiltered, hvalid, hexpiry, bind_run, check_ok_run, ensureAgent,
    ensureExists, read_run, ensure_run, if_pos hagent, hok, hlease, hresult]

end Recovery

/-! ## Whole runs -/

section Runs

variable [DecidableEq Json] [SerdeJson Json] [Sha256]

/-- Recovery, and the calls that begin with it, succeed after a run. -/
structure RecoverySucceeds (cs : List (Command Json)) : Prop where
  agent : ∀ agentId now, ∃ n t, recoverExpiredInvocationsTransaction agentId now (run cs) =
      .ok (n, t) ∧ Recovers (run cs).toLedger t.toLedger agentId now ∧
    ∀ i, Parkable (run cs).toLedger agentId now i →
      ∃ b, unresolvedBlocks t.toLedger i.deliveryKey = [b]
  all : ∀ earlier now, ∃ result, recoverAllExpiredInvocations earlier now (run cs) = .ok result
  claim : ∀ agentId input now leaseToken leaseExpiresAtMs, validateClaim input = .ok () →
    leaseExpiry now input = .ok leaseExpiresAtMs → agentId ∈ (run cs).agents.map (·.id) →
    ∃ result : ClaimBatch Json × Store, claimDeliveries agentId input now leaseToken (run cs) =
      .ok result
  reserve : ∀ agentId input kinds now leaseToken mint leaseExpiresAtMs,
    validateClaim input = .ok () → leaseExpiry now input = .ok leaseExpiresAtMs →
    agentId ∈ (run cs).agents.map (·.id) → leaseToken ∉ cs.flatMap Command.leaseTokens →
    MintsFresh mint (run cs).toLedger →
    ∃ result : List (Invocation Json) × Store,
      reserveInvocationsFiltered agentId input kinds now leaseToken mint (run cs) = .ok result

/-- After every run with fresh lease tokens in which no uncertain session was retired under an
armed attempt, recovery succeeds for every agent and every clock reading. -/
theorem run_recoverySucceeds [LawfulSerdeJson Json] {cs : List (Command Json)} (h : Fresh cs)
    (hs : NeverStrands cs) : RecoverySucceeds cs := by
  have hinv := run_invariant h
  have hu := run_unstranded h hs
  refine ⟨fun agentId now => ?_, fun earlier now => ?_, fun agentId input now tok expiry hv he ha =>
    hu.claimDeliveries_run hinv.ledger (run_printed h) hv he ha,
    fun agentId input kinds now tok mint expiry hv he ha hnew hmint =>
    hu.reserve_run hinv.ledger (run_printed h) hv he ha hinv.tokens hnew hmint⟩
  · obtain ⟨n, t, hok, hadv, hrec⟩ := hu.recover_run hinv.ledger agentId now
    refine ⟨n, t, hok, hrec, fun i hi => ?_⟩
    obtain ⟨d, hd, hk, hblocked⟩ := (hrec.parked i hi).delivery
    have hct : LeasesConsistent t.toLedger := (hadv.consistent hinv.ledger).toLeasesConsistent
    obtain ⟨b, hb, _⟩ := hct.unresolved_of_blocked hd hblocked
    exact ⟨b, hk ▸ hb⟩
  · obtain ⟨n, t, hok⟩ := Unstranded.recoverAgents_run now (expiredAgents now earlier) hinv.ledger hu
    exact ⟨(n, t), hok⟩

/-- A run without retirements strands nothing. -/
theorem neverStrands_of_forall {cs : List (Command Json)}
    (h : ∀ c ∈ cs, c.isRetirement = false) : NeverStrands cs := by
  rintro before c after rfl hstrands
  have hc := h c (by simp)
  cases c <;> first | exact hstrands | cases hc

end Runs

/-- The sample's session is fenced, and then recovery parks the attempt. -/
theorem run_recoverySucceeds_uncertain :
    let cs := sampleArmed ++ [.markSessionInvocationUncertain "b" "i" ⟨"B", 1, 1⟩ "lost" 8]
    (Fresh cs ∧ NeverStrands cs) ∧ RecoverySucceeds cs :=
  ⟨⟨by decide, neverStrands_of_forall (by decide)⟩,
    run_recoverySucceeds (by decide) (neverStrands_of_forall (by decide))⟩

/-- The sample's session is fenced and then retired while its attempt is still armed. -/
def strandingRun : List (Command Bool) := sampleArmed ++ [
  .markSessionInvocationUncertain "b" "i" ⟨"B", 1, 1⟩ "lost" 8,
  .retireSessionBinding "b" ⟨"B", 1, 1⟩ "replaced" 9]

set_option maxRecDepth 100000 in
/-- After the stranding retirement, recovery fails once the lease has expired, and with it
every claim and reservation of the agent and the recovery of all agents. -/
theorem recovery_conflict_strandingRun :
    let stuck := FleetError.conflict "expired session turn is not the binding's active invocation"
    Fresh strandingRun ∧
      recoverExpiredInvocationsTransaction "b" 100 (run strandingRun) = .error stuck ∧
      recoverAllExpiredInvocations (run strandingRun) 100 (run strandingRun) = .error stuck ∧
      (claimDeliveries "b" ⟨1, 10⟩ 100 "U" : Tx (ClaimBatch Bool)) (run strandingRun) =
        .error stuck ∧
      (reserveInvocations "b" ⟨1, 10⟩ 100 "U" fun _ => ("j", "g") : Tx (List (Invocation Bool)))
        (run strandingRun) = .error stuck := by
  refine ⟨by decide, ?_, ?_, ?_, ?_⟩ <;> decide +kernel

end Fleetd
