import Fleetd.Refinement.Message
import Fleetd.Refinement.Recovery

/-!
# Reserving, arming and completing are moves

A reservation leases idle deliveries under a token nobody has used and records one attempt
for each of them. Arming rewrites one reserved attempt. A completion posts its result,
acknowledges its input and ends its attempt.
-/

namespace Fleetd

open Relational Relational.Transaction

variable {Json : Type} {s t : Store} {permits : Action → Prop}

/-! ## Leasing -/

/-- Leasing after recovery takes only idle deliveries. -/
theorem leaseClaimable_advances (hc : Consistent s.toLedger) {agentId leaseToken : String}
    {leaseExpiresAtMs now : Int} {limit : Nat} {kinds : Option (List String)} {u : Unit}
    (hp : permits (.lease leaseToken)) (hunused : s.TokenUnused leaseToken)
    (hdone : ∀ i ∈ s.invocations, i.agentId = agentId → i.leaseExpiresAtMs ≤ now →
      i.state.isTerminal = true)
    (h : leaseClaimable agentId leaseToken leaseExpiresAtMs now limit kinds s = .ok (u, t)) :
    Advances permits s t ∧ ∀ d ∈ t.agentDeliveries, d.state.leaseToken = some leaseToken →
      d.state = .leased leaseToken leaseExpiresAtMs := by
  rw [leaseClaimable, write_ok, Prod.mk.injEq] at h
  obtain ⟨_, rfl⟩ := h
  have hclaim : ∀ d, d ∈ claimSelection agentId now limit kinds s →
      d.agentId = agentId ∧ d.state.isClaimable now = true := by
    intro d hd
    have hmem := List.mem_of_mem_take hd
    rw [List.mem_insertionSort, List.mem_filter, claimable] at hmem
    simp only [Bool.and_eq_true, decide_eq_true_eq] at hmem
    exact ⟨hmem.2.1.1.1, hmem.2.1.2⟩
  refine ⟨.single hp (.lease leaseToken leaseExpiresAtMs _ (fun d _ hsel => ?_)
    (fun d hd hsel i hi hk => ?_) hunused), fun d hd htok => ?_⟩
  · obtain ⟨_, hstate⟩ := hclaim d (of_decide_eq_true hsel)
    cases hs : d.state <;> rw [hs] at hstate <;> first | cases hstate | skip
    · exact .inl rfl
    · exact .inr rfl
  · obtain ⟨hagent, hstate⟩ := hclaim d (of_decide_eq_true hsel)
    by_contra hopen
    rw [Bool.not_eq_true] at hopen
    -- the lease of an open attempt is live, so its delivery is not claimable
    have hheld := ((hc.leaseFits d hd i hi hk).held hopen).1
    rw [hheld] at hstate
    have hiagent : i.agentId = agentId := (congrArg Prod.snd hk).trans hagent
    rw [hdone i hi hiagent (of_decide_eq_true hstate)] at hopen
    cases hopen
  · obtain ⟨e, he, rfl⟩ := mem_updateWhere.mp hd
    by_cases hsel : decide (e ∈ claimSelection agentId now limit kinds s) = true
    · rw [if_pos hsel]
      rfl
    · rw [if_neg hsel] at htok
      exact absurd htok (hunused.1 e he)

/-! ## Reservation -/

/-- Recording one attempt of a leased delivery is a move. -/
theorem reserveRow_ok [SerdeJson Json] {row : AgentDelivery × MessageRow}
    {agentId leaseToken id fenceToken : String} {leaseExpiresAtMs reservedAtMs : Int}
    {result : Invocation Json} (hp : permits .internal) (hd : row.1 ∈ s.agentDeliveries)
    (hagent : row.1.agentId = agentId) (hseq : row.2.seq = row.1.messageSeq)
    (hleased : row.1.state = .leased leaseToken leaseExpiresAtMs)
    (h : reserveRow row agentId leaseToken leaseExpiresAtMs reservedAtMs id fenceToken s =
      .ok (result, t)) :
    Advances permits s t ∧ t.agentDeliveries = s.agentDeliveries := by
  simp only [reserveRow, bind_ok, read_ok, ensure_ok, write_ok, check_ok, Prod.mk.injEq] at h
  obtain ⟨_, _, ⟨rfl, rfl⟩, _, _, ⟨_, rfl⟩, _, _, ⟨hnew, rfl⟩, _, _, ⟨_, rfl⟩, _, rfl⟩ := h
  refine ⟨.single hp (.reserve _ row.1 hd (Prod.ext hseq hagent.symm) hleased rfl rfl
    fun j hj => ?_), rfl⟩
  exact ⟨(hnew j hj).1, (hnew j hj).2.2⟩

/-- Recording the attempts of a leased batch is a sequence of moves. -/
theorem reserveRows_advances [SerdeJson Json] {agentId leaseToken : String}
    {leaseExpiresAtMs reservedAtMs : Int} {mint : Nat → String × String} (hp : permits .internal)
    (rows : List (AgentDelivery × MessageRow)) :
    ∀ {s : Store} {n : Nat} {result : List (Invocation Json)},
      (∀ row ∈ rows, row.1 ∈ s.agentDeliveries ∧ row.1.agentId = agentId ∧
        row.2.seq = row.1.messageSeq ∧ row.1.state = .leased leaseToken leaseExpiresAtMs) →
      reserveRows agentId leaseToken leaseExpiresAtMs reservedAtMs mint n rows s = .ok (result, t) →
      Advances permits s t := by
  induction rows with
  | nil =>
    intro s n result _ h
    rw [reserveRows, pure_ok] at h
    exact h.2 ▸ .refl s
  | cons row rest ih =>
    intro s n result hrows h
    simp only [reserveRows, bind_ok, pure_ok] at h
    obtain ⟨_, mid, hrow, _, _, hrest, _, rfl⟩ := h
    obtain ⟨hd, hagent, hseq, hleased⟩ := hrows row (List.mem_cons_self ..)
    obtain ⟨hadv, hsame⟩ := reserveRow_ok hp hd hagent hseq hleased hrow
    refine hadv.trans (ih (fun r hr => ?_) hrest)
    rw [hsame]
    exact hrows r (List.mem_cons_of_mem _ hr)

/-- The rows held under a token are deliveries of the agent with their messages. -/
theorem mem_leasedRows {agentId leaseToken : String} {row : AgentDelivery × MessageRow}
    (h : row ∈ leasedRows agentId leaseToken s) :
    row.1 ∈ s.agentDeliveries ∧ row.1.agentId = agentId ∧ row.2.seq = row.1.messageSeq ∧
      row.1.state.leaseToken = some leaseToken := by
  rw [leasedRows, List.mem_filterMap] at h
  obtain ⟨d, hd, hrow⟩ := h
  rw [List.mem_insertionSort, List.mem_filter, decide_eq_true_eq] at hd
  obtain ⟨m, hm, rfl⟩ := Option.map_eq_some_iff.mp hrow
  exact ⟨hd.1, hd.2.1, by simpa using List.find?_some hm, hd.2.2⟩

/-- The message of a row held under a token is in the log. -/
theorem mem_leasedRows_message {agentId leaseToken : String} {row : AgentDelivery × MessageRow}
    (h : row ∈ leasedRows agentId leaseToken s) : row.2 ∈ s.messages := by
  rw [leasedRows, List.mem_filterMap] at h
  obtain ⟨d, -, hrow⟩ := h
  obtain ⟨m, hm, rfl⟩ := Option.map_eq_some_iff.mp hrow
  exact List.mem_of_find?_eq_some hm

theorem ensureAgent_ok {agentId : String} {u : Unit} (h : ensureAgent agentId s = .ok (u, t)) :
    s = t := by
  simp only [ensureAgent, ensureExists, bind_ok, read_ok, ensure_ok] at h
  obtain ⟨_, _, ⟨_, rfl⟩, _, rfl⟩ := h
  rfl

/-- Recovery and leasing together, under a token that was not minted before. -/
theorem recoverAndLease_advances (hp : permits .internal) {agentId leaseToken : String}
    (hp' : permits (.lease leaseToken)) (hc : Consistent s.toLedger) {minted : List String}
    (htok : TokensIn minted s.toLedger) (hnew : leaseToken ∉ minted) {mid : Store}
    {leaseExpiresAtMs now : Int} {limit n : Nat} {kinds : Option (List String)} {u : Unit}
    (hrec : recoverExpiredInvocationsTransaction agentId now s = .ok (n, mid))
    (h : leaseClaimable agentId leaseToken leaseExpiresAtMs now limit kinds mid = .ok (u, t)) :
    Advances permits s t ∧ ∀ d ∈ t.agentDeliveries, d.state.leaseToken = some leaseToken →
      d.state = .leased leaseToken leaseExpiresAtMs := by
  obtain ⟨hadv, hrecovers⟩ := recover_ok hc hp hrec
  -- recovery leases nothing, so the token is still unused after it
  have hquiet : Advances (Action.internal = ·) s mid := (recover_ok hc rfl hrec).1
  have hunused := (htok.moves hquiet.moves fun _ ha => nomatch ha).unused hnew
  obtain ⟨hadv', hheld⟩ := leaseClaimable_advances (hadv.consistent hc) hp' hunused
    (fun i hi => hrecovers.terminal hi) h
  exact ⟨hadv.trans hadv', hheld⟩

/-- A claim is a sequence of moves. -/
theorem claimDeliveries_advances [SerdeJson Json] {agentId leaseToken : String}
    {input : ClaimDeliveries} {now : Int} {result : ClaimBatch Json} {minted : List String}
    (hp : permits .internal) (hp' : permits (.lease leaseToken)) (hc : Consistent s.toLedger)
    (htok : TokensIn minted s.toLedger) (hnew : leaseToken ∉ minted)
    (h : claimDeliveries agentId input now leaseToken s = .ok (result, t)) :
    Advances permits s t := by
  simp only [claimDeliveries, leasedBatch, bind_ok, check_ok, read_ok, pure_ok] at h
  obtain ⟨_, _, ⟨_, rfl⟩, _, _, ⟨_, rfl⟩, _, _, hagent, _, mid, hrec, _, _, hlease, _, _,
    ⟨_, _, ⟨_, rfl⟩, _, rfl⟩, _, rfl⟩ := h
  obtain rfl := ensureAgent_ok hagent
  exact (recoverAndLease_advances hp hp' hc htok hnew hrec hlease).1

/-- A reservation is a sequence of moves. -/
theorem reserveInvocationsFiltered_advances [SerdeJson Json] {agentId leaseToken : String}
    {input : ClaimDeliveries} {kinds : Option (List String)} {now : Int}
    {mint : Nat → String × String} {result : List (Invocation Json)} {minted : List String}
    (hp : permits .internal) (hp' : permits (.lease leaseToken)) (hc : Consistent s.toLedger)
    (htok : TokensIn minted s.toLedger) (hnew : leaseToken ∉ minted)
    (h : reserveInvocationsFiltered agentId input kinds now leaseToken mint s = .ok (result, t)) :
    Advances permits s t := by
  simp only [reserveInvocationsFiltered, bind_ok, check_ok, read_ok] at h
  obtain ⟨_, _, ⟨_, rfl⟩, _, _, hagent, _, _, ⟨_, rfl⟩, _, mid, hrec, _, _, hlease, _, _,
    ⟨rfl, rfl⟩, hreserve⟩ := h
  obtain rfl := ensureAgent_ok hagent
  obtain ⟨hadv, hheld⟩ := recoverAndLease_advances hp hp' hc htok hnew hrec hlease
  refine hadv.trans (reserveRows_advances hp _ (fun row hrow => ?_) hreserve)
  obtain ⟨hd, hagent, hseq, htok⟩ := mem_leasedRows hrow
  exact ⟨hd, hagent, hseq, hheld row.1 hd htok⟩

/-! ## Arming -/

theorem validateStaticFence_ok {row : InvocationWithDelivery} {leaseToken fenceToken : String}
    (h : validateStaticFence row leaseToken fenceToken = .ok ()) :
    row.invocation.leaseToken = leaseToken ∧ row.invocation.fenceToken = fenceToken := by
  unfold validateStaticFence at h
  split at h
  · cases h
  · rename_i hne
    simpa only [not_or, not_not] using hne

theorem validateLiveLease_ok {row : InvocationWithDelivery} {leaseToken : String} {now : Int}
    (h : validateLiveLease row leaseToken now = .ok ()) :
    now < row.invocation.leaseExpiresAtMs ∧ row.delivery.state.leaseToken = some leaseToken := by
  unfold validateLiveLease at h
  split at h
  · cases h
  · rename_i hne
    simp only [not_or, not_not, not_le] at hne
    exact ⟨hne.1, hne.2.2⟩

/-- Arming rewrites the reserved attempt of the caller, or finds it armed. -/
theorem armInvocationTransaction_ok [SerdeJson Json] (hc : Consistent s.toLedger)
    {agentId invocationId : String} {input : ArmInvocation} {now : Int} {result : Invocation Json}
    (h : armInvocationTransaction agentId invocationId input now s = .ok (result, t)) :
    ∃ i ∈ s.invocations, i.id = invocationId ∧ i.agentId = agentId ∧
      ((i.state = .reserved ∧ t = { s with
        invocations := replaceRow i { i with state := .dispatchArmed now } s.invocations }) ∨
      (i.state.isArmed = true ∧ t = s)) := by
  simp only [armInvocationTransaction, bind_ok, check_ok] at h
  obtain ⟨_, _, ⟨_, rfl⟩, row, _, hrow, _, _, ⟨_, rfl⟩, h⟩ := h
  obtain ⟨rfl, hi, hid, hagent, _⟩ := invocationWithDelivery_ok hrow
  refine ⟨row.invocation, hi, hid, hagent, ?_⟩
  cases hs : row.invocation.state with
  | reserved =>
    simp only [hs, bind_ok, write_ok, ensure_ok, Prod.mk.injEq] at h
    obtain ⟨_, _, ⟨rfl, rfl⟩, _, _, ⟨hone, rfl⟩, hread⟩ := h
    obtain rfl := invocationById_ok hread
    obtain ⟨j, hj, hjp, hupd⟩ :=
      exists_replaceRow_of_countP hone ({ · with state := .dispatchArmed now })
    simp only [Bool.and_eq_true, decide_eq_true_eq] at hjp
    obtain rfl := hc.invocationIds.eq hj hi (hjp.1.1.trans hid.symm)
    exact .inl ⟨rfl, by rw [hupd]⟩
  | dispatchArmed at_ =>
    simp only [hs] at h
    exact .inr ⟨rfl, (invocationById_ok h).symm⟩
  | terminal =>
    simp only [hs, bind_ok, fail_ok] at h
    obtain ⟨_, _, hfalse, _⟩ := h
    exact hfalse.elim

/-- Arming is a move, after which the attempt is armed. -/
theorem armInvocationTransaction_advances [SerdeJson Json] (hp : permits .internal)
    (hc : Consistent s.toLedger) {agentId invocationId : String} {input : ArmInvocation}
    {now : Int} {result : Invocation Json}
    (h : armInvocationTransaction agentId invocationId input now s = .ok (result, t)) :
    Advances permits s t ∧ t.sessionBindings = s.sessionBindings ∧
      t.sessionBindingTurns = s.sessionBindingTurns ∧
      ∃ i ∈ t.invocations, i.id = invocationId ∧ i.agentId = agentId ∧ i.state.isArmed = true := by
  obtain ⟨i, hi, hid, hagent, ⟨hres, rfl⟩ | ⟨harmed, rfl⟩⟩ := armInvocationTransaction_ok hc h
  · exact ⟨.single hp (.arm i now hi hres), rfl, rfl, _, mem_replaceRow.mpr (.inl ⟨rfl, hi⟩), hid,
      hagent, rfl⟩
  · exact ⟨.refl _, rfl, rfl, i, hi, hid, hagent, harmed⟩

/-- What a reservation hands out: an invocation of the agent for a delivery of its message. -/
structure Reserves (s : Store) (agentId : String) (invocation : Invocation Json) : Prop where
  state : invocation.state = .reserved
  agent : invocation.agentId = agentId
  delivery : ∃ d ∈ s.agentDeliveries, ∃ m ∈ s.messages, d.agentId = agentId ∧
    m.seq = d.messageSeq ∧ m.channelId = invocation.message.channelId ∧
    m.senderId = invocation.message.senderId ∧ m.recipientId = invocation.message.recipientId

/-- A decoded message has the columns of its row. -/
theorem messageFromRow_columns [SerdeJson Json] {m : MessageRow} {message : Message Json}
    (h : messageFromRow m = .ok message) : m.channelId = message.channelId ∧
      m.senderId = message.senderId ∧ m.recipientId = message.recipientId := by
  rw [messageFromRow] at h
  split at h
  · cases h
    exact ⟨rfl, rfl, rfl⟩
  · cases h

/-- The batch of a reservation is made of leased rows. -/
theorem reserveRows_reserves [SerdeJson Json] {agentId leaseToken : String}
    {leaseExpiresAtMs reservedAtMs : Int} {mint : Nat → String × String}
    (rows : List (AgentDelivery × MessageRow)) :
    ∀ {s : Store} {n : Nat} {result : List (Invocation Json)},
      (∀ row ∈ rows, row.1 ∈ s.agentDeliveries ∧ row.2 ∈ s.messages ∧ row.1.agentId = agentId ∧
        row.2.seq = row.1.messageSeq) →
      reserveRows agentId leaseToken leaseExpiresAtMs reservedAtMs mint n rows s = .ok (result, t) →
      (t.agentDeliveries = s.agentDeliveries ∧ t.messages = s.messages) ∧
        ∀ invocation ∈ result, Reserves s agentId invocation := by
  induction rows with
  | nil =>
    intro s n result _ h
    rw [reserveRows, pure_ok] at h
    obtain ⟨rfl, rfl⟩ := h
    exact ⟨⟨rfl, rfl⟩, fun _ hmem => absurd hmem List.not_mem_nil⟩
  | cons row rest ih =>
    intro s n result hrows h
    simp only [reserveRows, reserveRow, bind_ok, read_ok, ensure_ok, write_ok, check_ok, pure_ok,
      Prod.mk.injEq] at h
    obtain ⟨first, _, ⟨_, _, ⟨rfl, rfl⟩, _, _, ⟨_, rfl⟩, _, _, ⟨_, rfl⟩, _, _, ⟨_, rfl⟩, hdecode, rfl⟩,
      others, _, hrest, rfl, rfl⟩ := h
    have hkept := ih ?_ hrest
    swap
    · exact fun r hr => hrows r (List.mem_cons_of_mem _ hr)
    obtain ⟨hsame, hothers⟩ := hkept
    refine ⟨hsame, fun invocation hmem => ?_⟩
    obtain rfl | hmem := List.mem_cons.mp hmem
    · obtain ⟨hd, hm, hagent, hseq⟩ := hrows row List.mem_cons_self
      unfold invocationFromRow at hdecode
      cases hmessage : (messageFromRow row.2 : Except FleetError (Message Json)) with
      | error error =>
        rw [hmessage] at hdecode
        cases hdecode
      | ok message =>
        rw [hmessage] at hdecode
        cases hdecode
        obtain ⟨hchannel, hsender, hrecipient⟩ := messageFromRow_columns hmessage
        exact ⟨rfl, rfl, row.1, hd, row.2, hm, hagent, hseq, hchannel, hsender, hrecipient⟩
    · obtain ⟨hstate, hagent, hdelivery⟩ := hothers invocation hmem
      exact ⟨hstate, hagent, hdelivery⟩

/-- What a reservation by kind hands out is in the database that it leaves. -/
theorem reserveInvocationsByKind_reserves [SerdeJson Json] {agentId leaseToken : String}
    {input : ClaimDeliveries} {kinds : List String} {now : Int} {mint : Nat → String × String}
    {result : List (Invocation Json)}
    (h : reserveInvocationsByKind agentId input kinds now leaseToken mint s = .ok (result, t)) :
    ∀ invocation ∈ result, Reserves t agentId invocation := by
  simp only [reserveInvocationsByKind, reserveInvocationsFiltered, bind_ok, ensure_ok, check_ok,
    read_ok] at h
  obtain ⟨_, _, ⟨_, rfl⟩, _, _, ⟨_, rfl⟩, _, _, hagent, _, _, ⟨_, rfl⟩, _, mid, hrec, _, leased, hlease,
    rows, _, ⟨rfl, rfl⟩, hrows⟩ := h
  obtain ⟨⟨hdeliveries, hmessages⟩, hall⟩ := reserveRows_reserves _ (fun row hrow => by
    obtain ⟨hd, hagent, hseq, -⟩ := mem_leasedRows hrow
    exact ⟨hd, mem_leasedRows_message hrow, hagent, hseq⟩) hrows
  intro invocation hmem
  obtain ⟨hstate, hagent, hdelivery⟩ := hall invocation hmem
  rw [← hdeliveries, ← hmessages] at hdelivery
  exact ⟨hstate, hagent, hdelivery⟩

end Fleetd
