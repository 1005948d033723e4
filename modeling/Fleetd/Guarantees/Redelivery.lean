import Fleetd.System.Reachable

/-!
# No silent re-execution

Once an attempt at a delivery has been armed, its effect may have happened. From then on
the delivery is held under that attempt's lease, parked with evidence about that attempt, or
settled for good, until an operator requeues the parked attempt.
-/

namespace Fleetd

open Relational Relational.Transaction

variable {Json : Type}

/-! ## What an armed attempt leaves behind -/

/-- What a delivery can be in after the attempt `i` was armed. -/
inductive Guarded (l : Ledger) (i : InvocationRow) (d : AgentDelivery) : Prop
  | armed (leaseToken : d.state.leaseToken = some i.leaseToken)
      (attempt : d.attempt = i.deliveryAttempt)
      (running : ∃ j ∈ l.invocations, j.deliveryKey = d.key ∧ j.state.isArmed = true)
  | parked (blocked : d.state = .blocked) (attempt : d.attempt = i.deliveryAttempt)
  | acknowledged (at_ : Int) (state : d.state = .acknowledged at_)
  | dead (state : d.state = .dead)

/-- The delivery of an armed attempt is guarded. -/
def GuardedIn (i : InvocationRow) (l : Ledger) : Prop :=
  ∃ d ∈ l.agentDeliveries, d.key = i.deliveryKey ∧ Guarded l i d

/-- A move that requeues the attempt `i`. -/
def Requeues (i : InvocationRow) (l : Ledger) (a : Action) : Prop :=
  ∃ b ∈ l.deliveryBlocks, a = .resolve b.id .requeue ∧ b.resolved = none ∧
    b.deliveryKey = i.deliveryKey ∧ b.attempt = i.deliveryAttempt

section Moves

variable {l l' : Ledger} {a : Action} {i : InvocationRow} {d : AgentDelivery}

/-- A delivery of an attempt that is armed now is guarded. -/
theorem LeasesConsistent.guardedIn (h : LeasesConsistent l) (hi : i ∈ l.invocations)
    (harmed : i.state.isArmed = true) : GuardedIn i l := by
  obtain ⟨d, hd, hk⟩ := h.exists_delivery hi
  obtain ⟨hs, ha⟩ := (h.leaseFits d hd i hi hk.symm).held (isTerminal_of_isArmed harmed)
  exact ⟨d, hd, hk, .armed (by rw [hs]; rfl) ha ⟨i, hi, hk.symm, harmed⟩⟩

/-- A guarded delivery stays guarded while the armed attempt at it keeps running. -/
theorem Guarded.keep (hg : Guarded l i d)
    (hrun : ∀ j ∈ l.invocations, j.deliveryKey = d.key → j.state.isArmed = true →
      j ∈ l'.invocations) : Guarded l' i d := by
  cases hg with
  | armed ht ha hj =>
    obtain ⟨j, hj, hjk, hja⟩ := hj
    exact .armed ht ha ⟨j, hrun j hj hjk hja, hjk, hja⟩
  | parked hb ha => exact .parked hb ha
  | acknowledged at_ hs => exact .acknowledged at_ hs
  | dead hs => exact .dead hs

/-- Only a guarded delivery whose attempt is armed is held under a lease. -/
theorem Guarded.running (hg : Guarded l i d) (hl : d.state.leaseToken.isSome = true) :
    d.attempt = i.deliveryAttempt ∧
      ∃ j ∈ l.invocations, j.deliveryKey = d.key ∧ j.state.isArmed = true := by
  cases hg with
  | armed _ ha hj => exact ⟨ha, hj⟩
  | parked hb _ => rw [hb] at hl; cases hl
  | acknowledged at_ hs => rw [hs] at hl; cases hl
  | dead hs => rw [hs] at hl; cases hl

/-- An armed attempt at another delivery keeps running when a delivery is settled. -/
theorem mem_closed_of_ne {key : Nat × String} {now : Int} {certainty : ExecutionCertainty}
    {reason : TerminalReason} {j : InvocationRow} (hj : j ∈ l.invocations)
    (hk : j.deliveryKey ≠ key) :
    j ∈ updateWhere (openFor key) (terminalColumns now certainty reason) l.invocations :=
  mem_updateWhere_of_neg hj (by simp [openFor, hk])

/-- A guarded delivery when a leased row `e` is rewritten to `e'` and its attempts are ended. -/
theorem LeasesConsistent.guarded_settled (h : LeasesConsistent l) (hd : d ∈ l.agentDeliveries)
    (hk : d.key = i.deliveryKey) (hg : Guarded l i d) {e e' : AgentDelivery}
    (he : e ∈ l.agentDeliveries) (hl : e.state.leaseToken.isSome = true) (hek : e'.key = e.key)
    {now : Int} {certainty : ExecutionCertainty} {reason : TerminalReason}
    (hD : l'.agentDeliveries = replaceRow e e' l.agentDeliveries)
    (hI : l'.invocations = updateWhere (openFor e.key) (terminalColumns now certainty reason)
      l.invocations)
    (hend : e.attempt = i.deliveryAttempt →
      (∃ j ∈ l.invocations, j.deliveryKey = e.key ∧ j.state.isArmed = true) → Guarded l' i e') :
    GuardedIn i l' := by
  by_cases hde : d = e
  · subst hde
    obtain ⟨ha, hj⟩ := hg.running hl
    refine ⟨e', ?_, hek.trans hk, hend ha hj⟩
    rw [hD]
    exact mem_replaceRow.mpr (.inl ⟨rfl, he⟩)
  · refine ⟨d, ?_, hk, hg.keep fun j hj hjk _ => ?_⟩
    · rw [hD]
      exact mem_replaceRow.mpr (.inr ⟨hd, hde⟩)
    · rw [hI]
      refine mem_closed_of_ne hj fun hje => hde ?_
      exact h.delivery_eq hd he (hjk.symm.trans hje)

/-- Every move but the requeue of its attempt keeps a delivery guarded. -/
theorem LeasesConsistent.guarded_move (h : LeasesConsistent l) (hm : Move a l l')
    (ha : ¬ Requeues i l a) (hg : GuardedIn i l) : GuardedIn i l' := by
  obtain ⟨d, hd, hk, hg⟩ := hg
  cases hm with
  | deliver seq new _ _ _ _ =>
    exact ⟨d, List.mem_append_left _ hd, hk, hg.keep fun j hj _ _ => hj⟩
  | lease tok expiry selected hclaim hidle _ =>
    have hunselected : selected d = false := by
      by_contra hs
      rw [Bool.not_eq_false] at hs
      cases hg with
      | armed _ _ hj =>
        obtain ⟨j, hj, hjk, hja⟩ := hj
        have hterm := hidle d hd hs j hj hjk
        rw [isTerminal_of_isArmed hja] at hterm
        cases hterm
      | parked hb _ => rcases hclaim d hd hs with hc | hc <;> rw [hb] at hc <;> cases hc
      | acknowledged at_ hst => rcases hclaim d hd hs with hc | hc <;> rw [hst] at hc <;> cases hc
      | dead hst => rcases hclaim d hd hs with hc | hc <;> rw [hst] at hc <;> cases hc
    exact ⟨d, mem_updateWhere_of_neg hd hunselected, hk, hg.keep fun j hj _ _ => hj⟩
  | reserve k e _ _ _ _ _ _ =>
    exact ⟨d, hd, hk, hg.keep fun j hj _ _ => List.mem_append_left _ hj⟩
  | arm k at_ _ hr =>
    refine ⟨d, hd, hk, hg.keep fun j hj _ hja => mem_replaceRow.mpr (.inr ⟨hj, ?_⟩)⟩
    rintro rfl
    rw [hr] at hja
    cases hja
  | expire selected now hr =>
    refine ⟨d, hd, hk, hg.keep fun j hj _ hja => mem_updateWhere_of_neg hj ?_⟩
    by_contra hs
    rw [hr j hj (Bool.not_eq_false _ ▸ hs)] at hja
    cases hja
  | settle e e' now certainty reason he hl hek _ hstate hunarmed _ =>
    refine h.guarded_settled hd hk hg he hl hek rfl rfl fun _ hj => ?_
    rcases hstate with hpending | ⟨at_, hack⟩
    · obtain ⟨j, hj, hjk, hja⟩ := hj
      rw [hunarmed hpending j hj hjk] at hja
      cases hja
    · exact .acknowledged at_ hack
  | park e e' b now reason he hl hek hatt hblocked _ _ =>
    refine h.guarded_settled hd hk hg he (by rw [hl]; rfl) hek rfl rfl fun hea _ => ?_
    exact .parked hblocked (hatt.trans hea)
  | complete e e' j t row now seq persistence he hl hek _ hstate _ _ _ _ _ _ _ _ _ =>
    refine h.guarded_settled hd hk hg he hl hek rfl rfl fun _ _ => ?_
    obtain ⟨at_, hack⟩ := hstate
    exact .acknowledged at_ hack
  | resolve b e e' input now hb hopen he hbe hek hatt hstate =>
    by_cases hde : d = e
    · subst hde
      obtain ⟨hblocked, hba⟩ := (h.blockFits d hd b hb hbe.symm).parked hopen
      have hda : d.attempt = i.deliveryAttempt := by
        cases hg with
        | armed ht _ _ => rw [hblocked] at ht; cases ht
        | parked _ hia => exact hia
        | acknowledged at_ hs => rw [hblocked] at hs; cases hs
        | dead hs => rw [hblocked] at hs; cases hs
      refine ⟨e', mem_replaceRow.mpr (.inl ⟨rfl, he⟩), hek.trans hk, ?_⟩
      cases hres : input.resolution with
      | requeue =>
        refine absurd ⟨b, hb, by rw [hres], hopen, hbe.symm.trans hk, ?_⟩ ha
        exact hba.symm.trans hda
      | abandon => exact .dead (by rw [hstate, hres]; rfl)
    · exact ⟨d, mem_replaceRow.mpr (.inr ⟨hd, hde⟩), hk, hg.keep fun j hj _ _ => hj⟩
  | found row _ _ _ _ _ => exact ⟨d, hd, hk, hg.keep fun j hj _ _ => hj⟩
  | adopt row owner now _ _ => exact ⟨d, hd, hk, hg.keep fun j hj _ _ => hj⟩
  | opened row ref now _ _ => exact ⟨d, hd, hk, hg.keep fun j hj _ _ => hj⟩
  | activate row t j now _ _ _ _ _ _ _ _ _ _ _ => exact ⟨d, hd, hk, hg.keep fun j hj _ _ => hj⟩
  | fence row t reason now _ _ _ _ _ => exact ⟨d, hd, hk, hg.keep fun j hj _ _ => hj⟩
  | retire row reason now stranding _ _ _ _ => exact ⟨d, hd, hk, hg.keep fun j hj _ _ => hj⟩

/-- Moves of a command that requeues nothing keep a delivery guarded. -/
theorem Consistent.guarded_moves {permits : Action → Prop} (h : Consistent l)
    (hm : Moves permits l l') (hp : ∀ id, ¬ permits (.resolve id .requeue)) (hg : GuardedIn i l) :
    GuardedIn i l' := by
  have hboth : GuardedIn i l' ∧ Consistent l' :=
    hm.preserve (P := fun x => GuardedIn i x ∧ Consistent x)
      (fun a x _ ha hmove hx => by
        refine ⟨hx.2.toLeasesConsistent.guarded_move hmove ?_ hx.1, hx.2.move hmove⟩
        rintro ⟨b, _, rfl, _⟩
        exact hp b.id ha)
      ⟨hg, h⟩
  exact hboth.1

end Moves

/-! ## Whole runs -/

section Runs

variable [DecidableEq Json] [SerdeJson Json] [Sha256]

/-- An operator's requeue of the attempt `i` is committed by the command `c`. -/
def RequeuesAttempt (i : InvocationRow) (s : Store) (c : Command Json) : Prop :=
  ∃ blockId input now, c = .resolveDeliveryBlock blockId input now ∧ input.resolution = .requeue ∧
    (∃ result, c.exec s = .ok result) ∧
    ∃ b ∈ s.deliveryBlocks, (b.id : Int) = blockId ∧ b.resolved = none ∧
      b.deliveryKey = i.deliveryKey ∧ b.attempt = i.deliveryAttempt

/-- An operator's requeue of the attempt `i` is committed somewhere in `ds`, after `cs`. -/
def RequeuedAfter (cs ds : List (Command Json)) (i : InvocationRow) : Prop :=
  ∃ before c after, ds = before ++ c :: after ∧ RequeuesAttempt i (run (cs ++ before)) c

/-- A resolution keeps a delivery guarded or requeues its attempt. -/
theorem resolve_guarded {s t : Store} (hc : Consistent s.toLedger) {i : InvocationRow}
    {blockId : Int} {input : ResolveDeliveryBlock} {now : Int} {u : Unit}
    (h : resolveDeliveryBlock blockId input now s = .ok (u, t)) (hg : GuardedIn i s.toLedger) :
    RequeuesAttempt i s (.resolveDeliveryBlock blockId input now : Command Json) ∨
      GuardedIn i t.toLedger := by
  obtain ⟨b, hb, hid, mid, hmidc, hcase, hretired⟩ := resolveDeliveryBlock_ok hc h
  by_cases hrequeues : RequeuesAttempt i s (.resolveDeliveryBlock blockId input now : Command Json)
  · exact .inl hrequeues
  · have hmid : GuardedIn i mid.toLedger := by
      rcases hcase with ⟨rfl, _⟩ | ⟨hopen, d, hd, availableAtMs, hk, rfl⟩
      · exact hg
      · refine hc.toLeasesConsistent.guarded_move
          (resolve_move input availableAtMs hb hopen hd hk) ?_ hg
        rintro ⟨c, hcb, heq, hcopen, hck, hca⟩
        rw [Action.resolve.injEq] at heq
        refine hrequeues ⟨blockId, input, now, rfl, heq.2, ⟨_, h⟩, c, hcb, ?_, hcopen, hck, hca⟩
        rw [← heq.1]
        exact hid
    refine .inr ?_
    cases hretired with
    | unbound _ store => exact store ▸ hmid
    | retired _ _ _ _ _ store => exact store ▸ hmid
    | uncertain _ _ _ _ _ _ store =>
      obtain ⟨d, hd, hk, hgd⟩ := hmid
      rw [store]
      exact ⟨d, hd, hk, hgd.keep fun j hj _ _ => hj⟩

/-- A command keeps a delivery guarded or requeues its attempt. -/
theorem Command.step_guarded {minted : List String} {s : Store} (hinv : Invariant minted s)
    {c : Command Json} (hfresh : ∀ leaseToken ∈ c.leaseTokens, leaseToken ∉ minted)
    {i : InvocationRow} (hg : GuardedIn i s.toLedger) :
    RequeuesAttempt i s c ∨ GuardedIn i (c.step s).toLedger := by
  cases hdec : c.decides with
  | none =>
    refine .inr (hinv.ledger.guarded_moves (c.step_effect hinv hfresh).moves (fun id hp => ?_) hg)
    rw [Command.permits, hdec] at hp
    cases hp
  | some decision =>
    obtain ⟨blockId, input, now, rfl⟩ : ∃ blockId input now,
        c = .resolveDeliveryBlock blockId input now := by
      cases c <;> first | exact ⟨_, _, _, rfl⟩ | cases hdec
    rcases Command.step_cases (.resolveDeliveryBlock blockId input now : Command Json) s with
      ⟨_, hok⟩ | hsame
    · exact resolve_guarded hinv.ledger hok hg
    · rw [hsame]
      exact .inr hg

/-- Once an attempt was armed, its delivery is never pending again and never again leased under
another token, unless an operator's requeue of that attempt is committed after the arming. -/
theorem run_not_redelivered {cs ds : List (Command Json)} (h : Fresh (cs ++ ds))
    {i : InvocationRow} (hi : i ∈ (run cs).invocations) (harmed : i.state.isArmed = true) :
    RequeuedAfter cs ds i ∨
      ∃ d ∈ (run (cs ++ ds)).agentDeliveries, d.key = i.deliveryKey ∧ d.state ≠ .pending ∧
        ∀ leaseToken, d.state.leaseToken = some leaseToken → leaseToken = i.leaseToken := by
  have hguard : RequeuedAfter cs ds i ∨ GuardedIn i (run (cs ++ ds)).toLedger := by
    refine FreshAlong.induction_from cs
      (fun ds (s : Store) => RequeuedAfter cs ds i ∨ GuardedIn i s.toLedger) ?_
      (fun ds c hfresh hds => ?_) ds h
    · exact .inr ((run_invariant h.left).ledger.toLeasesConsistent.guardedIn hi harmed)
    · rcases hds with ⟨before, d, after, rfl, hreq⟩ | hg
      · exact .inl ⟨before, d, after ++ [c], by simp, hreq⟩
      · rcases Command.step_guarded (run_invariant hfresh.left) (fun _ ht => hfresh.not_mem ht) hg with
          hreq | hg'
        · exact .inl ⟨ds, c, [], rfl, hreq⟩
        · exact .inr hg'
  refine hguard.imp id fun ⟨d, hd, hk, hg⟩ => ⟨d, hd, hk, ?_, fun tok htok => ?_⟩
  · intro hpending
    cases hg with
    | armed ht _ _ => rw [hpending] at ht; cases ht
    | parked hb _ => rw [hpending] at hb; cases hb
    | acknowledged at_ hs => rw [hpending] at hs; cases hs
    | dead hs => rw [hpending] at hs; cases hs
  · cases hg with
    | armed ht _ _ => exact Option.some.inj (htok.symm.trans ht)
    | parked hb _ => rw [hb] at htok; cases htok
    | acknowledged at_ hs => rw [hs] at htok; cases htok
    | dead hs => rw [hs] at htok; cases htok

end Runs

set_option maxRecDepth 100000 in
/-- The lease of the sample's armed invocation expires, and a later claim finds nothing. -/
theorem run_not_redelivered_sampleArmed :
    let ds : List (Command Bool) := [.claimDeliveries "b" ⟨1, 10⟩ 100 "U"]
    Fresh (sampleArmed ++ ds) ∧ sampleInvocation ∈ (run sampleArmed).invocations ∧
      (RequeuedAfter sampleArmed ds sampleInvocation ∨
        ∃ d ∈ (run (sampleArmed ++ ds)).agentDeliveries, d.key = (1, "b") ∧ d.state ≠ .pending ∧
          ∀ leaseToken, d.state.leaseToken = some leaseToken → leaseToken = "T") :=
  ⟨by decide +kernel, by decide +kernel, run_not_redelivered (by decide +kernel)
    (i := sampleInvocation) (by decide +kernel) rfl⟩

end Fleetd
