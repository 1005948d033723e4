import Fleetd.Ledger.Move

/-!
# Leases, attempts and blocks agree

The part of the ledger's invariant that is about deliveries, invocations and blocks. Rows
of different tables are compared only when they belong to the same delivery, so each
clause is a relation between two rows: an attempt that has not ended holds exactly the
lease of its delivery, and an unresolved block is about a delivery parked at that attempt.
-/

namespace Fleetd

open Relational

/-- Whether an invocation ended before anything was dispatched. -/
def InvocationState.isNotStarted : InvocationState → Bool
  | .terminal _ _ .notStarted _ => true
  | _ => false

/-- How an attempt fits the delivery it attempts. -/
structure LeaseFits (d : AgentDelivery) (i : InvocationRow) : Prop where
  attempt : i.deliveryAttempt ≤ d.attempt
  held : i.state.isTerminal = false →
    d.state = .leased i.leaseToken i.leaseExpiresAtMs ∧ d.attempt = i.deliveryAttempt
  lapsed : d.state.leaseToken = some i.leaseToken →
    d.attempt = i.deliveryAttempt ∧ (i.state.isTerminal = true → i.state.isNotStarted = true)

/-- How a block fits the delivery it is about. -/
structure BlockFits (d : AgentDelivery) (b : DeliveryBlock) : Prop where
  released : d.state.leaseToken ≠ some b.leaseToken
  parked : b.resolved = none → d.state = .blocked ∧ d.attempt = b.attempt

/-- Deliveries, invocations and blocks agree. -/
structure LeasesConsistent (l : Ledger) : Prop where
  deliveryKeys : KeyUnique AgentDelivery.key l.agentDeliveries
  invocationIds : KeyUnique InvocationRow.id l.invocations
  attemptKeys : KeyUnique (fun i => (i.deliveryKey, i.deliveryAttempt)) l.invocations
  tokenKeys : KeyUnique (fun i => (i.deliveryKey, i.leaseToken)) l.invocations
  blockIds : KeyUnique DeliveryBlock.id l.deliveryBlocks
  blockSequence : ∀ b ∈ l.deliveryBlocks, 0 < b.id ∧ b.id ≤ l.deliveryBlockSequence
  invocationDelivery : ∀ i ∈ l.invocations, i.deliveryKey ∈ l.agentDeliveries.map AgentDelivery.key
  blockDelivery : ∀ b ∈ l.deliveryBlocks, b.deliveryKey ∈ l.agentDeliveries.map AgentDelivery.key
  leaseFits : ∀ d ∈ l.agentDeliveries, ∀ i ∈ l.invocations, i.deliveryKey = d.key → LeaseFits d i
  blockFits : ∀ d ∈ l.agentDeliveries, ∀ b ∈ l.deliveryBlocks, b.deliveryKey = d.key → BlockFits d b
  blockOutcome : ∀ b ∈ l.deliveryBlocks, ∀ i ∈ l.invocations, i.deliveryKey = b.deliveryKey →
    i.leaseToken = b.leaseToken → i.state.isOutcomeUnknown = true ∨ i.state.isNotStarted = true
  blocked : ∀ d ∈ l.agentDeliveries, d.state = .blocked →
    ∃ b ∈ l.deliveryBlocks, b.deliveryKey = d.key ∧ b.resolved = none
  openBlocks : ∀ b ∈ l.deliveryBlocks, ∀ b' ∈ l.deliveryBlocks, b.deliveryKey = b'.deliveryKey →
    b.resolved = none → b'.resolved = none → b = b'
  leasedAttempt : ∀ d ∈ l.agentDeliveries, d.state.leaseToken.isSome = true → 0 < d.attempt

/-! ## Consequences -/

section Consequences

variable {l : Ledger}

/-- Two rows of the same delivery are one row. -/
theorem LeasesConsistent.delivery_eq (h : LeasesConsistent l) {d d' : AgentDelivery}
    (hd : d ∈ l.agentDeliveries) (hd' : d' ∈ l.agentDeliveries) (hk : d.key = d'.key) : d = d' :=
  h.deliveryKeys.eq hd hd' hk

/-- The delivery of an invocation. -/
theorem LeasesConsistent.exists_delivery (h : LeasesConsistent l) {i : InvocationRow}
    (hi : i ∈ l.invocations) : ∃ d ∈ l.agentDeliveries, d.key = i.deliveryKey :=
  List.mem_map.mp (h.invocationDelivery i hi)

/-- The delivery of a block. -/
theorem LeasesConsistent.exists_block_delivery (h : LeasesConsistent l) {b : DeliveryBlock}
    (hb : b ∈ l.deliveryBlocks) : ∃ d ∈ l.agentDeliveries, d.key = b.deliveryKey :=
  List.mem_map.mp (h.blockDelivery b hb)

/-- At most one attempt at a delivery is open. -/
theorem LeasesConsistent.open_unique (h : LeasesConsistent l) {i j : InvocationRow}
    (hi : i ∈ l.invocations) (hj : j ∈ l.invocations) (hk : i.deliveryKey = j.deliveryKey)
    (hio : i.state.isTerminal = false) (hjo : j.state.isTerminal = false) : i = j := by
  obtain ⟨d, hd, hdk⟩ := h.exists_delivery hi
  have hfi := ((h.leaseFits d hd i hi hdk.symm).held hio).2
  have hfj := ((h.leaseFits d hd j hj (hk.symm.trans hdk.symm)).held hjo).2
  exact h.attemptKeys.eq hi hj (by rw [hk, ← hfi, ← hfj])

/-- A block's delivery does not carry the block's lease any more. -/
theorem LeasesConsistent.no_block (h : LeasesConsistent l) {d : AgentDelivery}
    (hd : d ∈ l.agentDeliveries) {b : DeliveryBlock} (hb : b ∈ l.deliveryBlocks)
    (hk : b.deliveryKey = d.key) {leaseToken : String}
    (ht : d.state.leaseToken = some leaseToken) : b.leaseToken ≠ leaseToken := by
  intro heq
  exact (h.blockFits d hd b hb hk).released (by rw [ht, heq])

/-- A delivery that carries a lease has no unresolved block. -/
theorem LeasesConsistent.no_open_block (h : LeasesConsistent l) {d : AgentDelivery}
    (hd : d ∈ l.agentDeliveries) (hleased : d.state.leaseToken.isSome = true) {b : DeliveryBlock}
    (hb : b ∈ l.deliveryBlocks) (hk : b.deliveryKey = d.key) : b.resolved ≠ none := by
  intro hnone
  have hblocked := ((h.blockFits d hd b hb hk).parked hnone).1
  rw [hblocked] at hleased
  cases hleased

end Consequences

/-! ## What each kind of move preserves -/

section Preservation

variable {l l' : Ledger}

/-- Moves that touch neither deliveries nor attempts nor blocks. -/
theorem LeasesConsistent.congr (h : LeasesConsistent l)
    (hD : l'.agentDeliveries = l.agentDeliveries) (hI : l'.invocations = l.invocations)
    (hB : l'.deliveryBlocks = l.deliveryBlocks)
    (hseq : l'.deliveryBlockSequence = l.deliveryBlockSequence) : LeasesConsistent l' := by
  constructor <;> (first | rw [hD] | skip) <;> (first | rw [hI] | skip) <;>
    (first | rw [hB] | skip) <;> (first | rw [hseq] | skip)
  exacts [h.deliveryKeys, h.invocationIds, h.attemptKeys, h.tokenKeys, h.blockIds,
    h.blockSequence, h.invocationDelivery, h.blockDelivery, h.leaseFits, h.blockFits,
    h.blockOutcome, h.blocked, h.openBlocks, h.leasedAttempt]

/-- New pending deliveries. -/
theorem LeasesConsistent.deliver (h : LeasesConsistent l) {new : List AgentDelivery}
    (keys : KeyUnique AgentDelivery.key new) (pending : ∀ d ∈ new, d.state = .pending)
    (fresh : ∀ e ∈ l.agentDeliveries, ∀ d ∈ new, e.key ≠ d.key) :
    LeasesConsistent { l with agentDeliveries := l.agentDeliveries ++ new } where
  deliveryKeys := h.deliveryKeys.append keys fresh
  invocationIds := h.invocationIds
  attemptKeys := h.attemptKeys
  tokenKeys := h.tokenKeys
  blockIds := h.blockIds
  blockSequence := h.blockSequence
  invocationDelivery i hi := by
    rw [List.map_append]
    exact List.mem_append_left _ (h.invocationDelivery i hi)
  blockDelivery b hb := by
    rw [List.map_append]
    exact List.mem_append_left _ (h.blockDelivery b hb)
  leaseFits d hd i hi hk := by
    rcases List.mem_append.mp hd with hd | hd
    · exact h.leaseFits d hd i hi hk
    · obtain ⟨e, he, hek⟩ := h.exists_delivery hi
      exact absurd (hek.trans hk) (fresh e he d hd)
  blockFits d hd b hb hk := by
    rcases List.mem_append.mp hd with hd | hd
    · exact h.blockFits d hd b hb hk
    · obtain ⟨e, he, hek⟩ := h.exists_block_delivery hb
      exact absurd (hek.trans hk) (fresh e he d hd)
  blockOutcome := h.blockOutcome
  blocked d hd hs := by
    rcases List.mem_append.mp hd with hd | hd
    · exact h.blocked d hd hs
    · rw [pending d hd] at hs
      cases hs
  openBlocks := h.openBlocks
  leasedAttempt d hd hs := by
    rcases List.mem_append.mp hd with hd | hd
    · exact h.leasedAttempt d hd hs
    · rw [pending d hd] at hs
      cases hs

/-- A batch leased under an unused token, taken only from idle deliveries. -/
theorem LeasesConsistent.lease (h : LeasesConsistent l) {leaseToken : String}
    {leaseExpiresAtMs : Int} {selected : AgentDelivery → Bool}
    (claimable : ∀ d ∈ l.agentDeliveries, selected d = true →
      d.state = .pending ∨ d.state.leaseToken.isSome = true)
    (idle : ∀ d ∈ l.agentDeliveries, selected d = true →
      ∀ i ∈ l.invocations, i.deliveryKey = d.key → i.state.isTerminal = true)
    (unused : l.TokenUnused leaseToken) :
    LeasesConsistent { l with
      agentDeliveries :=
        updateWhere selected (leasedColumns leaseToken leaseExpiresAtMs) l.agentDeliveries } := by
  have hkeys : (updateWhere selected (leasedColumns leaseToken leaseExpiresAtMs)
      l.agentDeliveries).map AgentDelivery.key = l.agentDeliveries.map AgentDelivery.key :=
    map_updateWhere fun _ _ _ => rfl
  -- a selected delivery is not parked
  have hfree : ∀ d ∈ l.agentDeliveries, selected d = true → d.state ≠ .blocked := by
    intro d hd hs hb
    rcases claimable d hd hs with hc | hc <;> rw [hb] at hc <;> cases hc
  refine
    { deliveryKeys := h.deliveryKeys.updateWhere fun _ _ _ => rfl
      invocationIds := h.invocationIds
      attemptKeys := h.attemptKeys
      tokenKeys := h.tokenKeys
      blockIds := h.blockIds
      blockSequence := h.blockSequence
      invocationDelivery := fun i hi => hkeys ▸ h.invocationDelivery i hi
      blockDelivery := fun b hb => hkeys ▸ h.blockDelivery b hb
      leaseFits := ?_
      blockFits := ?_
      blockOutcome := h.blockOutcome
      blocked := ?_
      openBlocks := h.openBlocks
      leasedAttempt := ?_ }
  · intro d hd i hi hk
    obtain ⟨e, he, rfl⟩ := mem_updateWhere.mp hd
    by_cases hs : selected e = true
    · rw [if_pos hs] at hk ⊢
      have hterm := idle e he hs i hi hk
      have hfit := h.leaseFits e he i hi hk
      exact
        { attempt := Nat.le_succ_of_le hfit.attempt
          held := fun hopen => by rw [hterm] at hopen; cases hopen
          lapsed := fun ht => absurd (Option.some.inj ht).symm (unused.2.1 i hi) }
    · rw [if_neg hs] at hk ⊢
      exact h.leaseFits e he i hi hk
  · intro d hd b hb hk
    obtain ⟨e, he, rfl⟩ := mem_updateWhere.mp hd
    by_cases hs : selected e = true
    · rw [if_pos hs] at hk ⊢
      exact
        { released := fun ht => unused.2.2 b hb (Option.some.inj ht).symm
          parked := fun hn => absurd ((h.blockFits e he b hb hk).parked hn).1 (hfree e he hs) }
    · rw [if_neg hs] at hk ⊢
      exact h.blockFits e he b hb hk
  · intro d hd hb
    obtain ⟨e, he, rfl⟩ := mem_updateWhere.mp hd
    by_cases hs : selected e = true
    · rw [if_pos hs] at hb
      cases hb
    · rw [if_neg hs] at hb ⊢
      exact h.blocked e he hb
  · intro d hd hl
    obtain ⟨e, he, rfl⟩ := mem_updateWhere.mp hd
    by_cases hs : selected e = true
    · rw [if_pos hs]
      exact Nat.succ_pos _
    · rw [if_neg hs] at hl ⊢
      exact h.leasedAttempt e he hl

/-- A reservation of the delivery that was just leased. -/
theorem LeasesConsistent.reserve (h : LeasesConsistent l) {i : InvocationRow} {d : AgentDelivery}
    (hd : d ∈ l.agentDeliveries) (hk : i.deliveryKey = d.key)
    (hl : d.state = .leased i.leaseToken i.leaseExpiresAtMs)
    (ha : i.deliveryAttempt = d.attempt) (hr : i.state = .reserved)
    (hnew : ∀ j ∈ l.invocations, j.id ≠ i.id ∧
      ¬ (j.deliveryKey = i.deliveryKey ∧ j.deliveryAttempt = i.deliveryAttempt)) :
    LeasesConsistent { l with invocations := l.invocations ++ [i] } where
  deliveryKeys := h.deliveryKeys
  invocationIds := h.invocationIds.append (.singleton _ _) fun j hj k hk => by
    rw [List.mem_singleton.mp hk]
    exact (hnew j hj).1
  attemptKeys := h.attemptKeys.append (.singleton _ _) fun j hj k hk => by
    rw [List.mem_singleton.mp hk]
    intro heq
    exact (hnew j hj).2 (Prod.ext_iff.mp heq)
  tokenKeys := h.tokenKeys.append (.singleton _ _) fun j hj k hjk => by
    rw [List.mem_singleton.mp hjk]
    intro heq
    obtain ⟨hkey, htok⟩ : j.deliveryKey = i.deliveryKey ∧ j.leaseToken = i.leaseToken :=
      Prod.ext_iff.mp heq
    have hlapsed := (h.leaseFits d hd j hj (hkey.trans hk)).lapsed (by rw [hl, htok]; rfl)
    exact (hnew j hj).2 ⟨hkey, by rw [ha, hlapsed.1]⟩
  blockIds := h.blockIds
  blockSequence := h.blockSequence
  invocationDelivery j hj := by
    rcases List.mem_append.mp hj with hj | hj
    · exact h.invocationDelivery j hj
    · rw [List.mem_singleton.mp hj, hk]
      exact List.mem_map_of_mem hd
  blockDelivery := h.blockDelivery
  leaseFits e he j hj hjk := by
    rcases List.mem_append.mp hj with hj | hj
    · exact h.leaseFits e he j hj hjk
    · rw [List.mem_singleton.mp hj] at hjk ⊢
      obtain rfl := h.delivery_eq hd he (hk.symm.trans hjk)
      exact
        { attempt := ha.le
          held := fun _ => ⟨hl, ha.symm⟩
          lapsed := fun _ => ⟨ha.symm, fun ht => by rw [hr] at ht; cases ht⟩ }
  blockFits := h.blockFits
  blockOutcome b hb j hj hjk ht := by
    rcases List.mem_append.mp hj with hj | hj
    · exact h.blockOutcome b hb j hj hjk ht
    · rw [List.mem_singleton.mp hj] at hjk ht
      exact absurd ht.symm (h.no_block hd hb (hjk.symm.trans hk) (by rw [hl]; rfl))
  blocked := h.blocked
  openBlocks := h.openBlocks
  leasedAttempt := h.leasedAttempt

/-- Reserved invocations that are armed, or ended before anything was dispatched. -/
theorem LeasesConsistent.advance (h : LeasesConsistent l) {selected : InvocationRow → Bool}
    {set : InvocationRow → InvocationRow}
    (static : ∀ i ∈ l.invocations, selected i = true → set i = { i with state := (set i).state })
    (reserved : ∀ i ∈ l.invocations, selected i = true → i.state = .reserved)
    (harmless : ∀ i ∈ l.invocations, selected i = true → (set i).state.isTerminal = true →
      (set i).state.isNotStarted = true) :
    LeasesConsistent { l with invocations := updateWhere selected set l.invocations } where
  deliveryKeys := h.deliveryKeys
  invocationIds := h.invocationIds.updateWhere fun i hi hs => by rw [static i hi hs]
  attemptKeys := h.attemptKeys.updateWhere fun i hi hs => by rw [static i hi hs]; rfl
  tokenKeys := h.tokenKeys.updateWhere fun i hi hs => by rw [static i hi hs]; rfl
  blockIds := h.blockIds
  blockSequence := h.blockSequence
  invocationDelivery j hj := by
    obtain ⟨i, hi, rfl⟩ := mem_updateWhere.mp hj
    by_cases hs : selected i = true
    · rw [if_pos hs, static i hi hs]
      exact h.invocationDelivery i hi
    · rw [if_neg hs]
      exact h.invocationDelivery i hi
  blockDelivery := h.blockDelivery
  leaseFits d hd j hj hk := by
    obtain ⟨i, hi, rfl⟩ := mem_updateWhere.mp hj
    by_cases hs : selected i = true
    · rw [if_pos hs] at hk ⊢
      rw [static i hi hs] at hk
      have hfit := h.leaseFits d hd i hi hk
      have hheld := hfit.held (by rw [reserved i hi hs]; rfl)
      have hharmless := harmless i hi hs
      rw [static i hi hs] at hharmless ⊢
      exact { attempt := hfit.attempt, held := fun _ => hheld,
              lapsed := fun _ => ⟨hheld.2, hharmless⟩ }
    · rw [if_neg hs] at hk ⊢
      exact h.leaseFits d hd i hi hk
  blockFits := h.blockFits
  blockOutcome b hb j hj hk ht := by
    obtain ⟨i, hi, rfl⟩ := mem_updateWhere.mp hj
    by_cases hs : selected i = true
    · rw [if_pos hs, static i hi hs] at hk ht
      have hout := h.blockOutcome b hb i hi hk ht
      rw [reserved i hi hs] at hout
      rcases hout with hout | hout <;> cases hout
    · rw [if_neg hs] at hk ht ⊢
      exact h.blockOutcome b hb i hi hk ht
  blocked := h.blocked
  openBlocks := h.openBlocks
  leasedAttempt := h.leasedAttempt

/-- Rows of a delivery table in which one row was rewritten under its own key. -/
theorem LeasesConsistent.mem_replaced (h : LeasesConsistent l) {d d' x : AgentDelivery}
    (hd : d ∈ l.agentDeliveries) (hx : x ∈ replaceRow d d' l.agentDeliveries) :
    x = d' ∨ (x ∈ l.agentDeliveries ∧ x.key ≠ d.key) := by
  rcases mem_replaceRow.mp hx with ⟨rfl, _⟩ | ⟨hx, hne⟩
  · exact .inl rfl
  · exact .inr ⟨hx, fun hk => hne (h.delivery_eq hx hd hk)⟩

/-- Ending the open attempts at a delivery keeps what identifies them. -/
theorem closed_static (key : Nat × String) (now : Int) (certainty : ExecutionCertainty)
    (reason : TerminalReason) (i : InvocationRow) :
    (if openFor key i then terminalColumns now certainty reason i else i) =
      { i with state := (if openFor key i then terminalColumns now certainty reason i else i).state } := by
  by_cases ho : openFor key i = true
  · simp [ho, terminalColumns]
  · simp [ho]

/-- A delivery that leaves its lease ends every open attempt at it. -/
theorem LeasesConsistent.closed_fits (h : LeasesConsistent l) {d d' x : AgentDelivery}
    {j : InvocationRow} {now : Int} {certainty : ExecutionCertainty} {reason : TerminalReason}
    (hd : d ∈ l.agentDeliveries) (hk : d'.key = d.key) (ha : d'.attempt = d.attempt)
    (hl : d'.state.leaseToken = none) (hx : x ∈ replaceRow d d' l.agentDeliveries)
    (hj : j ∈ updateWhere (openFor d.key) (terminalColumns now certainty reason) l.invocations)
    (hjx : j.deliveryKey = x.key) : LeaseFits x j := by
  obtain ⟨i, hi, rfl⟩ := mem_updateWhere.mp hj
  rw [closed_static] at hjx
  replace hjx : i.deliveryKey = x.key := hjx
  rcases h.mem_replaced hd hx with rfl | ⟨hx, hne⟩
  · have hik : i.deliveryKey = d.key := hjx.trans hk
    have hfit := h.leaseFits d hd i hi hik
    have hterm : (if openFor d.key i then terminalColumns now certainty reason i else i).state.isTerminal
        = true := by
      by_cases ho : openFor d.key i = true
      · rw [if_pos ho]
        rfl
      · rw [if_neg ho]
        simpa [openFor, hik] using ho
    rw [closed_static]
    exact
      { attempt := ha ▸ hfit.attempt
        held := fun hopen => absurd (hterm.symm.trans hopen) (by decide)
        lapsed := fun ht => by rw [hl] at ht; cases ht }
  · have ho : openFor d.key i = false := by
      rw [openFor, Bool.and_eq_false_iff]
      exact .inl (decide_eq_false fun hik => hne (hjx.symm.trans hik))
    rw [if_neg (by simp [ho])]
    exact h.leaseFits x hx i hi hjx

/-- Ended attempts keep their keys. -/
theorem closed_keyUnique {κ : Type} {key : InvocationRow → κ} {rows : List InvocationRow}
    (hstatic : ∀ i state, key { i with state } = key i) (hu : KeyUnique key rows)
    (k : Nat × String) (now : Int) (certainty : ExecutionCertainty) (reason : TerminalReason) :
    KeyUnique key (updateWhere (openFor k) (terminalColumns now certainty reason) rows) :=
  hu.updateWhere fun i _ _ => hstatic i _

/-- The delivery of an attempt survives a rewrite of some delivery under its own key. -/
theorem LeasesConsistent.closed_delivery (h : LeasesConsistent l) {d d' : AgentDelivery}
    (hk : d'.key = d.key) {now : Int} {certainty : ExecutionCertainty} {reason : TerminalReason}
    {j : InvocationRow}
    (hj : j ∈ updateWhere (openFor d.key) (terminalColumns now certainty reason) l.invocations) :
    j.deliveryKey ∈ (replaceRow d d' l.agentDeliveries).map AgentDelivery.key := by
  obtain ⟨i, hi, rfl⟩ := mem_updateWhere.mp hj
  rw [closed_static, replaceRow, map_updateWhere fun x _ hx => by rw [of_decide_eq_true hx, hk]]
  exact h.invocationDelivery i hi

/-- A settled delivery: acknowledged or released, with its attempt ended. -/
theorem LeasesConsistent.settle (h : LeasesConsistent l) {d d' : AgentDelivery} {now : Int}
    {certainty : ExecutionCertainty} {reason : TerminalReason} (hd : d ∈ l.agentDeliveries)
    (hleased : d.state.leaseToken.isSome = true) (hk : d'.key = d.key)
    (ha : d'.attempt = d.attempt) (hl : d'.state.leaseToken = none) (hb : d'.state ≠ .blocked) :
    LeasesConsistent { l with
      agentDeliveries := replaceRow d d' l.agentDeliveries
      invocations := updateWhere (openFor d.key) (terminalColumns now certainty reason)
        l.invocations } where
  deliveryKeys := h.deliveryKeys.replaceRow hk
  invocationIds := closed_keyUnique (fun _ _ => rfl) h.invocationIds _ _ _ _
  attemptKeys := closed_keyUnique (fun _ _ => rfl) h.attemptKeys _ _ _ _
  tokenKeys := closed_keyUnique (fun _ _ => rfl) h.tokenKeys _ _ _ _
  blockIds := h.blockIds
  blockSequence := h.blockSequence
  invocationDelivery j hj := h.closed_delivery hk hj
  blockDelivery b hb := by
    rw [replaceRow, map_updateWhere fun x _ hx => by rw [of_decide_eq_true hx, hk]]
    exact h.blockDelivery b hb
  leaseFits x hx j hj hjx := h.closed_fits hd hk ha hl hx hj hjx
  blockFits x hx b hb hbx := by
    rcases h.mem_replaced hd hx with rfl | ⟨hx, _⟩
    · exact
        { released := fun ht => by rw [hl] at ht; cases ht
          parked := fun hn => absurd hn (h.no_open_block hd hleased hb (hbx.trans hk)) }
    · exact h.blockFits x hx b hb hbx
  blockOutcome b hb j hj hjb ht := by
    obtain ⟨i, hi, rfl⟩ := mem_updateWhere.mp hj
    rw [closed_static] at hjb ht
    have hout := h.blockOutcome b hb i hi hjb ht
    by_cases ho : openFor d.key i = true
    · have hterm : i.state.isTerminal = false := by simpa [openFor] using (Bool.and_eq_true_iff.mp ho).2
      rcases hout with hout | hout <;> cases hst : i.state <;> rw [hst] at hout hterm <;>
        first | cases hout | cases hterm
    · rw [if_neg ho]
      exact hout
  blocked x hx hs := by
    rcases h.mem_replaced hd hx with rfl | ⟨hx, _⟩
    · exact absurd hs hb
    · exact h.blocked x hx hs
  openBlocks := h.openBlocks
  leasedAttempt x hx hs := by
    rcases h.mem_replaced hd hx with rfl | ⟨hx, _⟩
    · rw [hl] at hs
      cases hs
    · exact h.leasedAttempt x hx hs

/-- A parked delivery, with one new block and its attempt ended as unknown. -/
theorem LeasesConsistent.park (h : LeasesConsistent l) {d d' : AgentDelivery} {b : DeliveryBlock}
    {now : Int} {reason : TerminalReason} (hd : d ∈ l.agentDeliveries)
    (hleased : d.state.leaseToken = some b.leaseToken) (hk : d'.key = d.key)
    (ha : d'.attempt = d.attempt) (hblocked : d'.state = .blocked) (hbk : b.deliveryKey = d.key)
    (hba : b.attempt = d.attempt) (hopen : b.resolved = none)
    (hid : b.id = l.deliveryBlockSequence + 1) :
    LeasesConsistent { l with
      agentDeliveries := replaceRow d d' l.agentDeliveries
      deliveryBlocks := l.deliveryBlocks ++ [b]
      deliveryBlockSequence := l.deliveryBlockSequence + 1
      invocations := updateWhere (openFor d.key) (terminalColumns now .outcomeUnknown reason)
        l.invocations } where
  deliveryKeys := h.deliveryKeys.replaceRow hk
  invocationIds := closed_keyUnique (fun _ _ => rfl) h.invocationIds _ _ _ _
  attemptKeys := closed_keyUnique (fun _ _ => rfl) h.attemptKeys _ _ _ _
  tokenKeys := closed_keyUnique (fun _ _ => rfl) h.tokenKeys _ _ _ _
  blockIds := h.blockIds.append (.singleton _ _) fun c hc e he => by
    have hle := (h.blockSequence c hc).2
    rw [List.mem_singleton.mp he]
    omega
  blockSequence c hc := by
    rcases List.mem_append.mp hc with hc | hc
    · have hseq := h.blockSequence c hc
      exact ⟨hseq.1, Nat.le_succ_of_le hseq.2⟩
    · rw [List.mem_singleton.mp hc, hid]
      exact ⟨Nat.succ_pos _, le_rfl⟩
  invocationDelivery j hj := h.closed_delivery hk hj
  blockDelivery c hc := by
    rw [replaceRow, map_updateWhere fun x _ hx => by rw [of_decide_eq_true hx, hk]]
    rcases List.mem_append.mp hc with hc | hc
    · exact h.blockDelivery c hc
    · rw [List.mem_singleton.mp hc, hbk]
      exact List.mem_map_of_mem hd
  leaseFits x hx j hj hjx := h.closed_fits hd hk ha (by rw [hblocked]; rfl) hx hj hjx
  blockFits x hx c hc hcx := by
    have hnone : d'.state.leaseToken = none := by rw [hblocked]; rfl
    rcases h.mem_replaced hd hx with rfl | ⟨hx, hne⟩
    · rcases List.mem_append.mp hc with hc | hc
      · exact
          { released := fun ht => by rw [hnone] at ht; cases ht
            parked := fun hn => absurd hn
              (h.no_open_block hd (by rw [hleased]; rfl) hc (hcx.trans hk)) }
      · rw [List.mem_singleton.mp hc]
        exact
          { released := fun ht => by rw [hnone] at ht; cases ht
            parked := fun _ => ⟨hblocked, ha.trans hba.symm⟩ }
    · rcases List.mem_append.mp hc with hc | hc
      · exact h.blockFits x hx c hc hcx
      · rw [List.mem_singleton.mp hc, hbk] at hcx
        exact absurd hcx.symm hne
  blockOutcome c hc j hj hjc ht := by
    obtain ⟨i, hi, rfl⟩ := mem_updateWhere.mp hj
    rw [closed_static] at hjc ht
    replace hjc : i.deliveryKey = c.deliveryKey := hjc
    replace ht : i.leaseToken = c.leaseToken := ht
    by_cases ho : openFor d.key i = true
    · rw [if_pos ho]
      exact .inl rfl
    · rw [if_neg ho]
      rcases List.mem_append.mp hc with hc | hc
      · exact h.blockOutcome c hc i hi hjc ht
      · -- an attempt of the parked lease that had ended before was never dispatched
        rw [List.mem_singleton.mp hc] at hjc ht
        have hik := hjc.trans hbk
        have hlapsed := (h.leaseFits d hd i hi hik).lapsed (by rw [hleased, ht])
        exact .inr (hlapsed.2 (by simpa [openFor, hik] using ho))
  blocked x hx hs := by
    rcases h.mem_replaced hd hx with rfl | ⟨hx, _⟩
    · exact ⟨b, by simp, hbk.trans hk.symm, hopen⟩
    · obtain ⟨c, hc, hcx, hcn⟩ := h.blocked x hx hs
      exact ⟨c, List.mem_append_left _ hc, hcx, hcn⟩
  openBlocks c hc e he hce hcn hen := by
    have hfree : ∀ c ∈ l.deliveryBlocks, c.deliveryKey = d.key → c.resolved ≠ none :=
      fun c hc hck => h.no_open_block hd (by rw [hleased]; rfl) hc hck
    rcases List.mem_append.mp hc with hc | hc <;> rcases List.mem_append.mp he with he | he
    · exact h.openBlocks c hc e he hce hcn hen
    · rw [List.mem_singleton.mp he, hbk] at hce
      exact absurd hcn (hfree c hc hce)
    · rw [List.mem_singleton.mp hc, hbk] at hce
      exact absurd hen (hfree e he hce.symm)
    · rw [List.mem_singleton.mp hc, List.mem_singleton.mp he]
  leasedAttempt x hx hs := by
    rcases h.mem_replaced hd hx with rfl | ⟨hx, _⟩
    · rw [hblocked] at hs
      cases hs
    · exact h.leasedAttempt x hx hs

/-- A resolved block, with its delivery released or abandoned. -/
theorem LeasesConsistent.resolve (h : LeasesConsistent l) {b : DeliveryBlock} {d d' : AgentDelivery}
    {input : ResolveDeliveryBlock} {now : Int} (hb : b ∈ l.deliveryBlocks)
    (hopen : b.resolved = none) (hd : d ∈ l.agentDeliveries) (hdb : d.key = b.deliveryKey)
    (hk : d'.key = d.key) (ha : d'.attempt = d.attempt)
    (hstate : d'.state = input.resolution.deliveryState) :
    LeasesConsistent { l with
      agentDeliveries := replaceRow d d' l.agentDeliveries
      deliveryBlocks := replaceRow b (b.resolve input now) l.deliveryBlocks } := by
  have hparked := ((h.blockFits d hd b hb hdb.symm).parked hopen).1
  have hnone : d'.state.leaseToken = none := by
    rw [hstate]
    cases input.resolution <;> rfl
  have hfree : d'.state ≠ .blocked := by
    rw [hstate]
    cases input.resolution <;> simp [BlockResolution.deliveryState]
  have hdkeys : (replaceRow d d' l.agentDeliveries).map AgentDelivery.key =
      l.agentDeliveries.map AgentDelivery.key := by
    rw [replaceRow, map_updateWhere fun x _ hx => by rw [of_decide_eq_true hx, hk]]
  -- rows of the block table: the resolved one, or an untouched one
  have hrows : ∀ c ∈ replaceRow b (b.resolve input now) l.deliveryBlocks,
      c = b.resolve input now ∨ (c ∈ l.deliveryBlocks ∧ c ≠ b) := by
    intro c hc
    rcases mem_replaceRow.mp hc with ⟨rfl, _⟩ | hc
    · exact .inl rfl
    · exact .inr hc
  refine
    { deliveryKeys := h.deliveryKeys.replaceRow hk
      invocationIds := h.invocationIds
      attemptKeys := h.attemptKeys
      tokenKeys := h.tokenKeys
      blockIds := h.blockIds.replaceRow rfl
      blockSequence := ?_
      invocationDelivery := fun i hi => hdkeys ▸ h.invocationDelivery i hi
      blockDelivery := ?_
      leaseFits := ?_
      blockFits := ?_
      blockOutcome := ?_
      blocked := ?_
      openBlocks := ?_
      leasedAttempt := ?_ }
  · intro c hc
    rcases hrows c hc with rfl | ⟨hc, _⟩
    · exact h.blockSequence b hb
    · exact h.blockSequence c hc
  · intro c hc
    rw [hdkeys]
    rcases hrows c hc with rfl | ⟨hc, _⟩
    · exact h.blockDelivery b hb
    · exact h.blockDelivery c hc
  · intro x hx i hi hix
    rcases h.mem_replaced hd hx with rfl | ⟨hx, _⟩
    · have hfit := h.leaseFits d hd i hi (hix.trans hk)
      exact
        { attempt := ha ▸ hfit.attempt
          held := fun ho => by
            have hheld := (hfit.held ho).1
            rw [hparked] at hheld
            cases hheld
          lapsed := fun ht => by rw [hnone] at ht; cases ht }
    · exact h.leaseFits x hx i hi hix
  · intro x hx c hc hcx
    rcases h.mem_replaced hd hx with rfl | ⟨hx, hne⟩
    · refine ⟨fun ht => ?_, fun hn => ?_⟩
      · rw [hnone] at ht
        cases ht
      rcases hrows c hc with rfl | ⟨hc, hcb⟩
      · cases hn
      · exact absurd (h.openBlocks c hc b hb ((hcx.trans hk).trans hdb) hn hopen) hcb
    · rcases hrows c hc with rfl | ⟨hc, _⟩
      · exact absurd (hcx.symm.trans hdb.symm) hne
      · exact h.blockFits x hx c hc hcx
  · intro c hc i hi hic ht
    rcases hrows c hc with rfl | ⟨hc, _⟩
    · exact h.blockOutcome b hb i hi hic ht
    · exact h.blockOutcome c hc i hi hic ht
  · intro x hx hs
    rcases h.mem_replaced hd hx with rfl | ⟨hx, hne⟩
    · exact absurd hs hfree
    · obtain ⟨c, hc, hcx, hcn⟩ := h.blocked x hx hs
      have hcb : c ≠ b := fun hcb => hne (by rw [← hcx, hcb, hdb])
      exact ⟨c, mem_replaceRow.mpr (.inr ⟨hc, hcb⟩), hcx, hcn⟩
  · intro c hc e he hce hcn hen
    rcases hrows c hc with rfl | ⟨hc, _⟩
    · cases hcn
    · rcases hrows e he with rfl | ⟨he, _⟩
      · cases hen
      · exact h.openBlocks c hc e he hce hcn hen
  · intro x hx hs
    rcases h.mem_replaced hd hx with rfl | ⟨hx, _⟩
    · rw [hnone] at hs
      cases hs
    · exact h.leasedAttempt x hx hs

/-- Every move keeps deliveries, invocations and blocks in agreement. -/
theorem LeasesConsistent.move (h : LeasesConsistent l) {a : Action} (hm : Move a l l') :
    LeasesConsistent l' := by
  cases hm with
  | deliver seq new keys pending hseq fresh =>
    refine h.deliver keys pending fun e he d hd hk => fresh e he ?_
    rw [← hseq d hd]
    exact congrArg Prod.fst hk
  | lease tok expiry selected claimable idle unused => exact h.lease claimable idle unused
  | reserve i d hd hk hl ha hr hnew => exact h.reserve hd hk hl ha hr hnew
  | arm i at_ hi hr =>
    refine h.advance (fun j _ hj => ?_) (fun j _ hj => ?_) (fun j _ _ ht => ?_)
    · rw [of_decide_eq_true hj]
    · rw [of_decide_eq_true hj, hr]
    · cases ht
  | expire selected now hr => exact h.advance (fun _ _ _ => rfl) hr (fun _ _ _ _ => rfl)
  | settle d d' now certainty reason hd hl hk ha hs _ _ =>
    refine h.settle hd hl hk ha ?_ ?_ <;> rcases hs with hs | ⟨at_, hs⟩ <;> rw [hs] <;>
      first | rfl | simp
  | park d d' b now reason hd hl hk ha hb he _ =>
    exact h.park hd hl hk ha hb he.1 he.2.1 he.2.2.1 he.2.2.2
  | resolve b d d' input now hb hopen hd hdb hk ha hs => exact h.resolve hb hopen hd hdb hk ha hs
  | found row _ _ _ _ _ => exact h.congr rfl rfl rfl rfl
  | adopt row owner now _ _ => exact h.congr rfl rfl rfl rfl
  | opened row ref now _ _ => exact h.congr rfl rfl rfl rfl
  | activate row t i now _ _ _ _ _ _ _ _ _ _ _ => exact h.congr rfl rfl rfl rfl
  | fence row t reason now _ _ _ _ _ => exact h.congr rfl rfl rfl rfl
  | retire row reason now stranding _ _ _ _ => exact h.congr rfl rfl rfl rfl
  | complete d d' i t row now seq persistence hd hl hk ha hs _ _ _ _ _ _ _ _ _ =>
    obtain ⟨at_, hs⟩ := hs
    exact (h.settle hd hl hk ha (by rw [hs]; rfl) (by rw [hs]; simp)).congr rfl rfl rfl rfl

end Preservation

end Fleetd
