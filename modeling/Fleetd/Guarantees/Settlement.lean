import Fleetd.System.Reachable

/-!
# One settlement per lease

A lease token is minted once, so a delivery that has left a lease never returns to it. A
settlement that presents any other token than the row's current one is recognised as a
replay or refused, and changes nothing either way.
-/

namespace Fleetd

open Relational Relational.Transaction

variable {Json : Type}

/-- A delivery is leased under a token. -/
def HeldUnder (l : Ledger) (key : Nat × String) (leaseToken : String) : Prop :=
  ∃ d ∈ l.agentDeliveries, d.key = key ∧ d.state.leaseToken = some leaseToken

/-! ## A lease that was left is not entered again -/

section Moves

variable {l l' : Ledger} {a : Action} {key : Nat × String} {leaseToken : String}

/-- A row that was rewritten to a state without a lease holds none. -/
theorem heldUnder_of_replaceRow {d d' : AgentDelivery} (hnone : d'.state.leaseToken = none)
    (hD : l'.agentDeliveries = replaceRow d d' l.agentDeliveries)
    (h : HeldUnder l' key leaseToken) : HeldUnder l key leaseToken := by
  obtain ⟨x, hx, hk, ht⟩ := h
  rw [hD] at hx
  rcases mem_replaceRow.mp hx with ⟨rfl, _⟩ | ⟨hx, _⟩
  · rw [hnone] at ht
    cases ht
  · exact ⟨x, hx, hk, ht⟩

/-- Only the move that leases under a token puts a delivery under it. -/
theorem Move.heldUnder (hm : Move a l l') (h : HeldUnder l' key leaseToken) :
    HeldUnder l key leaseToken ∨ a = .lease leaseToken := by
  cases hm with
  | deliver seq new _ hpending _ _ =>
    obtain ⟨d, hd, hk, ht⟩ := h
    rcases List.mem_append.mp hd with hd | hd
    · exact .inl ⟨d, hd, hk, ht⟩
    · rw [hpending d hd] at ht
      cases ht
  | lease tok expiry selected _ _ _ =>
    obtain ⟨x, hx, hk, ht⟩ := h
    obtain ⟨d, hd, rfl⟩ := mem_updateWhere.mp hx
    by_cases hs : selected d = true
    · rw [if_pos hs] at ht
      rw [← Option.some.inj ht]
      exact .inr rfl
    · rw [if_neg hs] at hk ht
      exact .inl ⟨d, hd, hk, ht⟩
  | settle d d' now certainty reason _ _ _ _ hs _ _ =>
    refine .inl (heldUnder_of_replaceRow ?_ rfl h)
    rcases hs with hs | ⟨at_, hs⟩ <;> rw [hs] <;> rfl
  | park d d' b now reason _ _ _ _ hs _ _ =>
    exact .inl (heldUnder_of_replaceRow (by rw [hs]; rfl) rfl h)
  | resolve b d d' input now _ _ _ _ _ _ hs =>
    refine .inl (heldUnder_of_replaceRow ?_ rfl h)
    rw [hs]
    cases input.resolution <;> rfl
  | complete d d' i t row now seq persistence _ _ _ _ hs _ _ _ _ _ _ _ _ _ =>
    obtain ⟨at_, hs⟩ := hs
    exact .inl (heldUnder_of_replaceRow (by rw [hs]; rfl) rfl h)
  | _ => exact .inl h

/-- Moves that are not entitled to a token put nothing under it. -/
theorem Moves.not_heldUnder {permits : Action → Prop} (hm : Moves permits l l')
    (hp : ¬ permits (.lease leaseToken)) (h : ¬ HeldUnder l key leaseToken) :
    ¬ HeldUnder l' key leaseToken :=
  hm.preserve (P := fun x => ¬ HeldUnder x key leaseToken)
    (fun a _ _ ha hmove hx hheld => by
      rcases hmove.heldUnder hheld with hbefore | rfl
      · exact hx hbefore
      · exact hp ha) h

end Moves

section Runs

variable [DecidableEq Json] [SerdeJson Json] [Sha256]

/-- A delivery that is not under a minted token is never under it again. -/
theorem run_not_heldUnder {cs ds : List (Command Json)} (h : Fresh (cs ++ ds))
    {key : Nat × String} {leaseToken : String} (hmint : leaseToken ∈ cs.flatMap Command.leaseTokens)
    (hleft : ¬ HeldUnder (run cs).toLedger key leaseToken) :
    ¬ HeldUnder (run (cs ++ ds)).toLedger key leaseToken := by
  refine FreshAlong.induction_from cs (fun _ (s : Store) => ¬ HeldUnder s.toLedger key leaseToken)
    hleft (fun ds c hfresh hds => ?_) ds h
  have heff := c.step_effect (run_invariant hfresh.left) fun _ ht => hfresh.not_mem ht
  refine heff.moves.not_heldUnder (fun hp => hfresh.not_mem hp ?_) hds
  rw [List.flatMap_append]
  exact List.mem_append_left _ hmint

/-- The command at position `n` moves a delivery out of a lease. -/
def MovesOut (cs : List (Command Json)) (key : Nat × String) (leaseToken : String) (n : Nat) :
    Prop :=
  HeldUnder (run (cs.take n)).toLedger key leaseToken ∧
    ¬ HeldUnder (run (cs.take (n + 1))).toLedger key leaseToken

/-- A lease is not left again after it was left. -/
theorem MovesOut.not_lt {cs : List (Command Json)} (h : Fresh cs) {key : Nat × String}
    {leaseToken : String} {m n : Nat} (hm : MovesOut cs key leaseToken m)
    (hn : MovesOut cs key leaseToken n) : ¬ m < n := by
  intro hlt
  have hfresh : ∀ k, Fresh (cs.take k) := fun k =>
    have hsplit : Fresh (cs.take k ++ cs.drop k) := by rw [List.take_append_drop]; exact h
    hsplit.left
  obtain ⟨d, hd, _, ht⟩ := hm.1
  have hmint : leaseToken ∈ (cs.take (m + 1)).flatMap Command.leaseTokens := by
    have hbefore := (run_invariant (hfresh m)).tokens.agentDeliveries d hd _ ht
    obtain ⟨c, hc, htok⟩ := List.mem_flatMap.mp hbefore
    exact List.mem_flatMap.mpr ⟨c, (List.take_subset_take_left cs (Nat.le_succ m)) hc, htok⟩
  have hsplit : cs.take n = cs.take (m + 1) ++ (cs.take n).drop (m + 1) := by
    conv_lhs => rw [← List.take_append_drop (m + 1) (cs.take n)]
    rw [List.take_take, Nat.min_eq_left hlt]
  have hlater : Fresh (cs.take (m + 1) ++ (cs.take n).drop (m + 1)) := by
    rw [← hsplit]
    exact hfresh n
  refine run_not_heldUnder hlater hmint hm.2 ?_
  rw [← hsplit]
  exact hn.1

/-! ## Stale settlements -/

/-- The delivery and the lease token that a settlement presents. The delivery is the one the
database knows under the message or the invocation that the call names, if there is one. -/
def Command.settlement (s : Store) : Command Json → Option (Option (Nat × String) × String)
  | .acknowledgeDelivery agentId messageId leaseToken _ =>
    some ((seqOfMessageId s.messages messageId).map (·, agentId), leaseToken)
  | .retryDelivery agentId messageId input _ =>
    some ((seqOfMessageId s.messages messageId).map (·, agentId), input.leaseToken)
  | .blockDelivery agentId messageId input _ =>
    some ((seqOfMessageId s.messages messageId).map (·, agentId), input.leaseToken)
  | .completeInvocation _ invocationId input _ _ _ =>
    some ((s.invocations.find? (·.id = invocationId)).map (·.deliveryKey), input.leaseToken)
  | .completeSessionInvocation _ invocationId _ _ input _ _ _ =>
    some ((s.invocations.find? (·.id = invocationId)).map (·.deliveryKey), input.leaseToken)
  | _ => none

/-- A settlement whose token is not the current lease token of its delivery. -/
def Command.IsStale (s : Store) (c : Command Json) : Prop :=
  ∃ delivery leaseToken, c.settlement s = some (delivery, leaseToken) ∧
    ∀ key, delivery = some key → ¬ HeldUnder s.toLedger key leaseToken

variable {s : Store}

/-- A lease that is held by message identifier is the current lease of its delivery. -/
theorem HoldsLease.heldUnder {agentId messageId leaseToken : String} {d : AgentDelivery}
    (h : HoldsLease s agentId messageId leaseToken d) :
    ∃ key, (seqOfMessageId s.messages messageId).map (·, agentId) = some key ∧
      HeldUnder s.toLedger key leaseToken :=
  ⟨d.key, by rw [h.message, ← h.agent]; rfl, d, h.row, rfl, h.token⟩

/-- An attempt that can be completed holds the current lease of its delivery. -/
theorem Completable.heldUnder (hc : Consistent s.toLedger)
    {agentId invocationId leaseToken fenceToken : String} {i : InvocationRow} {d : AgentDelivery}
    {origin : MessageRow}
    (h : Completable s agentId invocationId leaseToken fenceToken i d origin) :
    ∃ key, (s.invocations.find? (·.id = invocationId)).map (·.deliveryKey) = some key ∧
      HeldUnder s.toLedger key leaseToken := by
  have hfind : s.invocations.find? (·.id = invocationId) = some i :=
    hc.invocationIds.find?_eq_some h.invocation (by simp [h.id]) fun j _ hj => by
      rw [of_decide_eq_true hj, h.id]
  exact ⟨i.deliveryKey, by rw [hfind]; rfl, d, h.delivery, h.same, h.token⟩

/-- A settlement that succeeds presents the current token or changes nothing. -/
theorem Command.settlement_ok {minted : List String} (hinv : Invariant minted s)
    {c : Command Json} {delivery : Option (Nat × String)} {leaseToken : String}
    (hset : c.settlement s = some (delivery, leaseToken)) {u : Unit} {t : Store}
    (h : c.exec s = .ok (u, t)) :
    t = s ∨ ∃ key, delivery = some key ∧ HeldUnder s.toLedger key leaseToken := by
  have hc := hinv.ledger
  cases c with
  | acknowledgeDelivery agentId messageId token now =>
    obtain ⟨rfl, rfl⟩ := Prod.ext_iff.mp (Option.some.inj hset)
    rcases acknowledgeDelivery_ok hc h with hsame | ⟨d, hd, _⟩
    · exact .inl hsame
    · exact .inr hd.heldUnder
  | retryDelivery agentId messageId input now =>
    obtain ⟨rfl, rfl⟩ := Prod.ext_iff.mp (Option.some.inj hset)
    rcases retryDelivery_ok hc h with hsame | ⟨d, _, hd, _⟩
    · exact .inl hsame
    · exact .inr hd.heldUnder
  | blockDelivery agentId messageId input now =>
    obtain ⟨rfl, rfl⟩ := Prod.ext_iff.mp (Option.some.inj hset)
    obtain ⟨_, h⟩ := discard_ok h
    rcases blockDelivery_ok hc h with hsame | ⟨d, hd, _⟩
    · exact .inl hsame
    · exact .inr hd.heldUnder
  | completeInvocation agentId invocationId input now resultId resultNow =>
    obtain ⟨rfl, rfl⟩ := Prod.ext_iff.mp (Option.some.inj hset)
    obtain ⟨_, h⟩ := discard_ok h
    rcases completeInvocationTransaction_ok hc hinv.log h with
      ⟨_, _, _, _, hsame, _⟩ | ⟨_, _, _, hpub, _⟩
    · exact .inl hsame
    · exact .inr (hpub.able.heldUnder hc)
  | completeSessionInvocation agentId invocationId binding persistence input now resultId resultNow =>
    obtain ⟨rfl, rfl⟩ := Prod.ext_iff.mp (Option.some.inj hset)
    obtain ⟨_, h⟩ := discard_ok h
    rcases completeSessionInvocation_ok hc hinv.log h with
      ⟨hsame, _⟩ | ⟨_, _, _, _, _, _, hpub, _⟩
    · exact .inl hsame
    · exact .inr (hpub.able.heldUnder hc)
  | _ => cases hset

/-- A stale settlement changes nothing, whatever it returns. -/
theorem Command.IsStale.step_eq {minted : List String} (hinv : Invariant minted s)
    {c : Command Json} (hstale : c.IsStale s) : c.step s = s := by
  obtain ⟨delivery, leaseToken, hset, hnot⟩ := hstale
  rcases c.step_cases s with ⟨_, hok⟩ | hsame
  · rcases c.settlement_ok hinv hset hok with hsame | ⟨key, hkey, hheld⟩
    · exact hsame
    · exact absurd hheld (hnot key hkey)
  · exact hsame

/-- Leases are left once, stale settlements change nothing, and a delivery that was
acknowledged or abandoned keeps its row. -/
structure SettledOnce (cs : List (Command Json)) : Prop where
  once : ∀ key leaseToken m n, MovesOut cs key leaseToken m → MovesOut cs key leaseToken n → m = n
  stale : ∀ c : Command Json, c.IsStale (run cs) → c.step (run cs) = run cs
  absorbing : ∀ ds, Fresh (cs ++ ds) → ∀ d ∈ (run cs).agentDeliveries,
    (∃ at_, d.state = .acknowledged at_) ∨ d.state = .dead → d ∈ (run (cs ++ ds)).agentDeliveries

/-- A settled delivery keeps its row along every continuation. -/
theorem run_settled_mem {cs ds : List (Command Json)} (h : Fresh (cs ++ ds)) {d : AgentDelivery}
    (hd : d ∈ (run cs).agentDeliveries)
    (hs : (∃ at_, d.state = .acknowledged at_) ∨ d.state = .dead) :
    d ∈ (run (cs ++ ds)).agentDeliveries := by
  refine FreshAlong.induction_from cs (fun _ (s : Store) => d ∈ s.agentDeliveries) hd
    (fun ds c hfresh hds => ?_) ds h
  have hinv := run_invariant hfresh.left
  have heff := c.step_effect hinv fun _ ht => hfresh.not_mem ht
  obtain ⟨e, he, hev⟩ := (hinv.ledger.evolves_moves heff.moves).agentDeliveries.mem hds
  rcases hs with ⟨at_, hack⟩ | hdead
  · rw [← hev.acknowledged at_ hack]
    exact he
  · rw [← hev.dead hdead]
    exact he

/-- In every run with fresh lease tokens, each lease of each delivery is settled at most once,
stale callers change nothing, and acknowledged and dead deliveries stay so. -/
theorem run_settledOnce {cs : List (Command Json)} (h : Fresh cs) : SettledOnce cs where
  once key leaseToken m n hm hn := by
    have hmn := MovesOut.not_lt h hm hn
    have hnm := MovesOut.not_lt h hn hm
    omega
  stale c hstale := hstale.step_eq (run_invariant h)
  absorbing ds hfresh d hd hs := run_settled_mem hfresh hd hs

end Runs

/-- The sample's run with its lease settled twice, the second time in vain. -/
theorem run_settledOnce_sampleReserved :
    let cs : List (Command Bool) := sampleReserved ++
      [.acknowledgeDelivery "b" "m" "T" 6, .retryDelivery "b" "m" ⟨"T", 0, none⟩ 6]
    Fresh cs ∧ SettledOnce cs :=
  ⟨by decide, run_settledOnce (by decide)⟩

end Fleetd
