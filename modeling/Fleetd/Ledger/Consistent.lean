import Fleetd.Ledger.Lanes

/-!
# The invariant of the ledger

The three agreements together, and what is true of the ledger over time: rows are never
removed or renamed, an ended invocation, a resolved block, a finished turn and a retired
binding never change again, and an acknowledged or dead delivery stays what it is.
-/

namespace Fleetd

open Relational

/-- The ledger's invariant. -/
structure Consistent (l : Ledger) : Prop extends
  LeasesConsistent l, SessionsConsistent l, LanesConsistent l

section Invariant

variable {l l' : Ledger} {a : Action}

/-- Every move keeps sessions in agreement. -/
theorem Consistent.moveSessions (h : Consistent l) (hm : Move a l l') : SessionsConsistent l' := by
  have hs := h.toSessionsConsistent
  cases hm with
  | deliver seq new _ _ _ _ => exact hs.congr rfl rfl rfl
  | lease tok expiry selected _ _ _ => exact hs.congr rfl rfl rfl
  | resolve b d d' input now _ _ _ _ _ _ _ => exact hs.congr rfl rfl rfl
  | reserve i d _ _ _ _ _ hnew =>
    refine hs.invocations (fun id hid => ?_) (fun j hj t ht hid => ?_)
    · rw [List.map_append]
      exact List.mem_append_left _ hid
    · rcases List.mem_append.mp hj with hj | hj
      · exact ⟨j, hj, rfl, rfl, id⟩
      · -- no turn can belong to an identifier that was not in use
        rw [List.mem_singleton.mp hj] at hid
        obtain ⟨k, hk, hkt⟩ := List.mem_map.mp (hs.turnInvocation t ht)
        exact absurd (hkt.trans hid) (hnew k hk).1
  | arm i at_ hi hr =>
    refine hs.invocations (fun id hid => ?_) (fun j hj t ht hid => ?_)
    · rw [replaceRow, map_updateWhere fun x _ hx => by rw [of_decide_eq_true hx]]
      exact hid
    · rcases mem_replaceRow.mp hj with ⟨rfl, _⟩ | ⟨hj, _⟩
      · exact ⟨i, hi, rfl, rfl, fun hfit => absurd (hr ▸ hfit) (not_turnFits_reserved _)⟩
      · exact ⟨j, hj, rfl, rfl, id⟩
  | expire selected now hr =>
    refine hs.updateInvocations (fun _ => ⟨rfl, rfl⟩) fun i hi hsel t _ _ hfit => ?_
    rw [hr i hi hsel] at hfit
    exact absurd hfit (not_turnFits_reserved _)
  | settle d d' now certainty reason _ _ _ _ _ _ hunbound =>
    exact (hs.updateInvocations (terminalColumns_static now certainty reason)
      fun i hi hsel t ht hid _ => absurd hid (hunbound i hi hsel t ht)).congr rfl rfl rfl
  | park d d' b now reason _ _ _ _ _ _ hfenced =>
    refine (hs.updateInvocations (terminalColumns_static now .outcomeUnknown reason)
      fun i hi hsel t ht hid _ => ?_).congr rfl rfl rfl
    have hunc := hfenced i hi hsel t ht hid
    cases hstate : t.state <;> rw [hstate] at hunc <;> first | exact .inr rfl | cases hunc
  | found row hopening _ hgen _ hlane =>
    exact hs.found hopening (h.toLanesConsistent.key_new hgen hlane)
  | adopt row owner now hrow hready =>
    exact hs.idleBinding hrow rfl rfl (SessionBindingState.activeInvocationId_of_isReady hready)
      fun _ _ _ hbound => hbound
  | opened row ref now hrow hopening =>
    refine hs.idleBinding hrow rfl rfl rfl fun t _ _ hbound => ?_
    exact hbound.quiescent (by rw [hopening]; rfl) (by rw [hopening]; rfl) (by rw [hopening]; rfl)
  | retire row reason now stranding hrow hidle _ _ =>
    refine hs.idleBinding hrow rfl rfl rfl fun t _ _ hbound => ?_
    unfold TurnBound at hbound ⊢
    cases hstate : t.state with
    | active =>
      rw [hstate] at hbound
      rw [SessionBindingState.isActive_of_isActiveOn hbound] at hidle
      cases hidle
    | quiescent => trivial
    | uncertain => exact .inr rfl
  | activate row t i now hrow hready hact hk he hv hi hid harmed hag hnew =>
    exact hs.activate h.toLeasesConsistent hrow hready hact hk he hv hi hid harmed hag hnew
  | fence row t reason now hrow ht hk hact hrun =>
    obtain ⟨ref, opened, hstate⟩ : ∃ ref opened, row.state = .active ref opened t.invocationId := by
      cases hs : row.state <;> rw [hs] at hact <;> first | cases hact | skip
      exact ⟨_, _, by rw [of_decide_eq_true hact]⟩
    refine hs.endTurn hrow ht hk hact rfl rfl rfl (.inl ?_) (fun inv hinv => ?_) (fun _ hid => hid)
      (fun j hj u _ _ => ⟨j, hj, rfl, rfl, fun _ hfit => hfit, fun _ hfit => ?_⟩)
    · simp [uncertainColumns, hstate, SessionBindingState.toUncertain,
        SessionBindingState.isUncertainOn]
    · simp only [uncertainColumns, hstate, SessionBindingState.toUncertain] at hinv ⊢
      exact ⟨(Option.some.inj hinv).symm, rfl, rfl⟩
    · rw [hrun] at hfit
      exact .inl hfit
  | complete d d' i t row now seq persistence _ _ _ _ _ hi hik harmed ht hid hrun hrow hbk hact =>
    obtain ⟨ref, opened, hstate⟩ : ∃ ref opened, row.state = .active ref opened i.id := by
      cases hs : row.state <;> rw [hs] at hact <;> first | cases hact | skip
      exact ⟨_, _, by rw [of_decide_eq_true hact]⟩
    rw [← hid] at hact
    have hopen : i.state.isTerminal = false := by
      cases hst : i.state <;> rw [hst] at harmed <;> first | rfl | cases harmed
    have hids : (updateWhere (openFor d.key) (terminalColumns now .outcomeKnown (.completed seq))
        l.invocations).map InvocationRow.id = l.invocations.map InvocationRow.id :=
      map_updateWhere fun _ _ _ => rfl
    have hend : SessionsConsistent { l with
        invocations := updateWhere (openFor d.key)
          (terminalColumns now .outcomeKnown (.completed seq)) l.invocations
        sessionBindingTurns :=
          replaceRow t { t with state := .quiescent now persistence } l.sessionBindingTurns
        sessionBindings := replaceRow row (quiescentColumns i.id persistence now row)
          l.sessionBindings } := by
      refine hs.endTurn hrow ht hbk hact rfl rfl rfl trivial (fun inv hinv => ?_)
        (fun id' hid' => hids ▸ hid') (fun j hj u hu huj => ?_)
      · simp [quiescentColumns, hstate, SessionBindingState.toReady,
          SessionBindingState.activeInvocationId] at hinv
      · obtain ⟨k, hk, rfl⟩ := mem_updateWhere.mp hj
        rw [closed_static] at huj ⊢
        refine ⟨k, hk, rfl, rfl, fun hne hfit => ?_, fun heq _ => ?_⟩
        · -- the only open attempt at the delivery is the one that completes
          have hko : openFor d.key k = false := by
            by_contra hko
            rw [Bool.not_eq_false, openFor, Bool.and_eq_true_iff, decide_eq_true_eq,
              Bool.not_eq_true'] at hko
            have hki := h.open_unique hk hi (hko.1.trans hik.symm) hko.2 hopen
            exact hne (huj.trans (hki ▸ hid.symm))
          simpa [hko] using hfit
        · have hki := h.invocationIds.eq hk hi (huj.symm.trans (heq.trans hid))
          have hko : openFor d.key k = true := by simp [openFor, hki, hik, hopen]
          rw [if_pos hko]
          rfl
    exact hend.congr rfl rfl rfl

/-- Every move keeps the generations of a lane in order. -/
theorem Consistent.moveLanes (h : Consistent l) (hm : Move a l l') : LanesConsistent l' := by
  have hl := h.toLanesConsistent
  cases hm with
  | deliver seq new _ _ _ _ => exact hl.congr rfl
  | lease tok expiry selected _ _ _ => exact hl.congr rfl
  | reserve i d _ _ _ _ _ _ => exact hl.congr rfl
  | arm i at_ _ _ => exact hl.congr rfl
  | expire selected now _ => exact hl.congr rfl
  | settle d d' now certainty reason _ _ _ _ _ _ _ => exact hl.congr rfl
  | park d d' b now reason _ _ _ _ _ _ _ => exact hl.congr rfl
  | resolve b d d' input now _ _ _ _ _ _ _ => exact hl.congr rfl
  | found row _ hepoch hgen hretired hlane => exact hl.found hepoch hgen hretired hlane
  | adopt row owner now hrow _ => exact hl.rewrite rfl hrow rfl rfl rfl id (Nat.succ_pos _)
  | opened row ref now hrow hopening =>
    refine hl.rewrite rfl hrow rfl rfl rfl (fun hr => ?_) (hl.epoch row hrow)
    rw [hopening] at hr
    cases hr
  | activate row t i now hrow hready _ _ _ _ _ _ _ _ _ =>
    refine hl.rewrite rfl hrow rfl rfl rfl (fun hr => ?_) (hl.epoch row hrow)
    rw [SessionBindingState.not_isRetired_of_isReady hready] at hr
    cases hr
  | fence row t reason now hrow _ _ hact _ =>
    refine hl.rewrite rfl hrow rfl rfl rfl (fun hr => ?_) (hl.epoch row hrow)
    rw [SessionBindingState.not_isRetired_of_isActive
      (SessionBindingState.isActive_of_isActiveOn hact)] at hr
    cases hr
  | retire row reason now stranding hrow _ _ _ =>
    exact hl.rewrite rfl hrow rfl rfl rfl (fun _ => rfl) (hl.epoch row hrow)
  | complete d d' i t row now seq persistence _ _ _ _ _ _ _ _ _ _ _ hrow _ hact =>
    refine hl.rewrite rfl hrow rfl rfl rfl (fun hr => ?_) (hl.epoch row hrow)
    rw [SessionBindingState.not_isRetired_of_isActive
      (SessionBindingState.isActive_of_isActiveOn hact)] at hr
    cases hr

/-- Every move keeps the invariant. -/
theorem Consistent.move (h : Consistent l) (hm : Move a l l') : Consistent l' :=
  { h.toLeasesConsistent.move hm, h.moveSessions hm, h.moveLanes hm with }

/-- Moves in a row keep the invariant. -/
theorem Consistent.moves {permits : Action → Prop} (h : Consistent l) (hm : Moves permits l l') :
    Consistent l' :=
  hm.preserve (fun _ _ _ _ hmove hc => hc.move hmove) h

end Invariant

/-! ## The ledger over time -/

/-- How a delivery may change. -/
structure AgentDelivery.Evolves (d d' : AgentDelivery) : Prop where
  key : d'.key = d.key
  attempt : d.attempt ≤ d'.attempt
  acknowledged : ∀ at_, d.state = .acknowledged at_ → d' = d
  dead : d.state = .dead → d' = d

/-- How an invocation may change. -/
structure InvocationRow.Evolves (i i' : InvocationRow) : Prop where
  static : i' = { i with state := i'.state }
  terminal : i.state.isTerminal = true → i' = i

/-- How a block may change. -/
structure DeliveryBlock.Evolves (b b' : DeliveryBlock) : Prop where
  static : b' = { b with resolved := b'.resolved }
  resolved : b.resolved.isSome = true → b' = b

/-- How a binding may change. -/
structure SessionBinding.Evolves (row row' : SessionBinding) : Prop where
  key : row'.key = row.key
  lane : row'.lane = row.lane
  epoch : row.ownerEpoch ≤ row'.ownerEpoch
  sessionRef : row.state.sessionRef.isSome = true → row'.state.sessionRef = row.state.sessionRef
  retired : row.state.isRetired = true → row' = row

/-- How a turn may change. -/
structure SessionBindingTurn.Evolves (t t' : SessionBindingTurn) : Prop where
  static : t' = { t with state := t'.state }
  ended : t.state ≠ .active → t' = t

/-- How the ledger may change. -/
structure Ledger.Evolves (l l' : Ledger) : Prop where
  agentDeliveries : Extends AgentDelivery.Evolves l.agentDeliveries l'.agentDeliveries
  invocations : Extends InvocationRow.Evolves l.invocations l'.invocations
  deliveryBlocks : Extends DeliveryBlock.Evolves l.deliveryBlocks l'.deliveryBlocks
  sessionBindings : Extends SessionBinding.Evolves l.sessionBindings l'.sessionBindings
  sessionBindingTurns :
    Extends SessionBindingTurn.Evolves l.sessionBindingTurns l'.sessionBindingTurns

section Evolution

theorem AgentDelivery.Evolves.refl (d : AgentDelivery) : d.Evolves d :=
  ⟨rfl, le_rfl, fun _ _ => rfl, fun _ => rfl⟩

theorem AgentDelivery.Evolves.trans (d e f : AgentDelivery) (h : d.Evolves e) (h' : e.Evolves f) :
    d.Evolves f where
  key := h'.key.trans h.key
  attempt := h.attempt.trans h'.attempt
  acknowledged at_ hs := by
    have hed := h.acknowledged at_ hs
    exact (h'.acknowledged at_ (hed ▸ hs)).trans hed
  dead hs := by
    have hed := h.dead hs
    exact (h'.dead (hed ▸ hs)).trans hed

theorem InvocationRow.Evolves.refl (i : InvocationRow) : i.Evolves i := ⟨rfl, fun _ => rfl⟩

theorem InvocationRow.Evolves.trans (i j k : InvocationRow) (h : i.Evolves j) (h' : j.Evolves k) :
    i.Evolves k where
  static := by rw [h'.static, h.static]
  terminal hs := by
    have hji := h.terminal hs
    exact (h'.terminal (hji ▸ hs)).trans hji

theorem DeliveryBlock.Evolves.refl (b : DeliveryBlock) : b.Evolves b := ⟨rfl, fun _ => rfl⟩

theorem DeliveryBlock.Evolves.trans (b c e : DeliveryBlock) (h : b.Evolves c) (h' : c.Evolves e) :
    b.Evolves e where
  static := by rw [h'.static, h.static]
  resolved hs := by
    have hcb := h.resolved hs
    exact (h'.resolved (hcb ▸ hs)).trans hcb

theorem SessionBinding.Evolves.refl (row : SessionBinding) : row.Evolves row :=
  ⟨rfl, rfl, le_rfl, fun _ => rfl, fun _ => rfl⟩

theorem SessionBinding.Evolves.trans (x y z : SessionBinding) (h : x.Evolves y)
    (h' : y.Evolves z) : x.Evolves z where
  key := h'.key.trans h.key
  lane := h'.lane.trans h.lane
  epoch := h.epoch.trans h'.epoch
  sessionRef hs := (h'.sessionRef (by rw [h.sessionRef hs]; exact hs)).trans (h.sessionRef hs)
  retired hs := by
    have hyx := h.retired hs
    exact (h'.retired (hyx ▸ hs)).trans hyx

theorem SessionBindingTurn.Evolves.refl (t : SessionBindingTurn) : t.Evolves t :=
  ⟨rfl, fun _ => rfl⟩

theorem SessionBindingTurn.Evolves.trans (t u v : SessionBindingTurn) (h : t.Evolves u)
    (h' : u.Evolves v) : t.Evolves v where
  static := by rw [h'.static, h.static]
  ended hs := by
    have hut := h.ended hs
    exact (h'.ended (hut ▸ hs)).trans hut

theorem Ledger.Evolves.refl (l : Ledger) : l.Evolves l where
  agentDeliveries := .refl AgentDelivery.Evolves.refl _
  invocations := .refl InvocationRow.Evolves.refl _
  deliveryBlocks := .refl DeliveryBlock.Evolves.refl _
  sessionBindings := .refl SessionBinding.Evolves.refl _
  sessionBindingTurns := .refl SessionBindingTurn.Evolves.refl _

theorem Ledger.Evolves.trans {l l' l'' : Ledger} (h : l.Evolves l') (h' : l'.Evolves l'') :
    l.Evolves l'' where
  agentDeliveries := h.agentDeliveries.trans AgentDelivery.Evolves.trans h'.agentDeliveries
  invocations := h.invocations.trans InvocationRow.Evolves.trans h'.invocations
  deliveryBlocks := h.deliveryBlocks.trans DeliveryBlock.Evolves.trans h'.deliveryBlocks
  sessionBindings := h.sessionBindings.trans SessionBinding.Evolves.trans h'.sessionBindings
  sessionBindingTurns :=
    h.sessionBindingTurns.trans SessionBindingTurn.Evolves.trans h'.sessionBindingTurns

/-- A delivery that is pending, leased or parked may change as long as it keeps its key. -/
theorem AgentDelivery.Evolves.of_live {d d' : AgentDelivery} (hk : d'.key = d.key)
    (ha : d.attempt ≤ d'.attempt)
    (hs : d.state = .pending ∨ d.state.leaseToken.isSome = true ∨ d.state = .blocked) :
    d.Evolves d' := by
  refine ⟨hk, ha, fun at_ hack => ?_, fun hdead => ?_⟩
  · rw [hack] at hs
    rcases hs with hs | hs | hs <;> cases hs
  · rw [hdead] at hs
    rcases hs with hs | hs | hs <;> cases hs

/-- Ending the open attempts at a delivery. -/
theorem closed_evolves (key : Nat × String) (now : Int) (certainty : ExecutionCertainty)
    (reason : TerminalReason) (rows : List InvocationRow) :
    Extends InvocationRow.Evolves rows
      (updateWhere (openFor key) (terminalColumns now certainty reason) rows) := by
  refine Extends.updateWhere InvocationRow.Evolves.refl fun i _ ho => ⟨rfl, fun ht => ?_⟩
  rw [openFor, ht] at ho
  simp at ho

/-- A binding that is not retired may change its state as long as it keeps its session. -/
theorem SessionBinding.Evolves.of_current {row row' : SessionBinding} (hk : row'.key = row.key)
    (hl : row'.lane = row.lane) (he : row.ownerEpoch ≤ row'.ownerEpoch)
    (hs : row.state.sessionRef.isSome = true → row'.state.sessionRef = row.state.sessionRef)
    (hr : row.state.isRetired = false) : row.Evolves row' :=
  ⟨hk, hl, he, hs, fun h => by rw [hr] at h; cases h⟩

/-- A turn in flight may change its state. -/
theorem SessionBindingTurn.Evolves.of_active {t : SessionBindingTurn} (state : TurnState)
    (h : t.state = .active) : t.Evolves { t with state } :=
  ⟨rfl, fun hne => absurd h hne⟩

variable {l l' : Ledger} {a : Action}

/-- Only the deliveries of a new message are new rows. -/
theorem Move.deliveryKeys (hm : Move a l l') (ha : ∀ seq, a ≠ .deliver seq) :
    l'.agentDeliveries.map AgentDelivery.key = l.agentDeliveries.map AgentDelivery.key := by
  have hreplace : ∀ {d d' : AgentDelivery}, d'.key = d.key →
      (replaceRow d d' l.agentDeliveries).map AgentDelivery.key =
        l.agentDeliveries.map AgentDelivery.key := fun hk =>
    map_updateWhere fun x _ hx => by rw [of_decide_eq_true hx, hk]
  cases hm with
  | deliver seq new _ _ _ _ => exact absurd rfl (ha seq)
  | lease tok expiry selected _ _ _ => exact map_updateWhere fun _ _ _ => rfl
  | settle d d' now certainty reason _ _ hk _ _ _ _ => exact hreplace hk
  | park d d' b now reason _ _ hk _ _ _ _ => exact hreplace hk
  | resolve b d d' input now _ _ _ _ hk _ _ => exact hreplace hk
  | complete d d' i t row now seq persistence _ _ hk _ _ _ _ _ _ _ _ _ _ _ => exact hreplace hk
  | _ => rfl

/-- Moves in a row that deliver nothing add no delivery. -/
theorem Moves.deliveryKeys {permits : Action → Prop} (hm : Moves permits l l')
    (hp : ∀ seq, ¬ permits (.deliver seq)) :
    l'.agentDeliveries.map AgentDelivery.key = l.agentDeliveries.map AgentDelivery.key :=
  hm.preserve (P := fun x => x.agentDeliveries.map AgentDelivery.key =
      l.agentDeliveries.map AgentDelivery.key)
    (fun _ _ _ ha hmove hx => (hmove.deliveryKeys fun seq heq => hp seq (heq ▸ ha)).trans hx) rfl

/-- Every move is an evolution of the ledger. -/
theorem Consistent.evolves (h : Consistent l) (hm : Move a l l') : l.Evolves l' := by
  have hrefl := Ledger.Evolves.refl l
  cases hm with
  | deliver seq new _ _ _ _ =>
    exact { hrefl with agentDeliveries := .append AgentDelivery.Evolves.refl _ _ }
  | lease tok expiry selected hclaim _ _ =>
    refine { hrefl with
      agentDeliveries := .updateWhere AgentDelivery.Evolves.refl fun d hd hs => ?_ }
    refine .of_live rfl (Nat.le_succ _) ?_
    rcases hclaim d hd hs with hc | hc
    · exact .inl hc
    · exact .inr (.inl hc)
  | reserve i d _ _ _ _ _ _ =>
    exact { hrefl with invocations := .append InvocationRow.Evolves.refl _ _ }
  | arm i at_ _ hr =>
    refine { hrefl with
      invocations := .replaceRow InvocationRow.Evolves.refl ⟨rfl, fun ht => ?_⟩ }
    rw [hr] at ht
    cases ht
  | expire selected now hr =>
    refine { hrefl with
      invocations := .updateWhere InvocationRow.Evolves.refl fun i hi hs => ⟨rfl, fun ht => ?_⟩ }
    rw [hr i hi hs] at ht
    cases ht
  | settle d d' now certainty reason _ hl hk ha _ _ _ =>
    exact { hrefl with
      agentDeliveries := .replaceRow AgentDelivery.Evolves.refl
        (.of_live hk ha.ge (.inr (.inl hl)))
      invocations := closed_evolves _ _ _ _ _ }
  | park d d' b now reason _ hl hk ha _ _ _ =>
    exact { hrefl with
      agentDeliveries := .replaceRow AgentDelivery.Evolves.refl
        (.of_live hk ha.ge (.inr (.inl (by rw [hl]; rfl))))
      invocations := closed_evolves _ _ _ _ _
      deliveryBlocks := .append DeliveryBlock.Evolves.refl _ _ }
  | resolve b d d' input now hb hopen hd hdb hk ha _ =>
    have hparked := ((h.blockFits d hd b hb hdb.symm).parked hopen).1
    exact { hrefl with
      agentDeliveries := .replaceRow AgentDelivery.Evolves.refl
        (.of_live hk ha.ge (.inr (.inr hparked)))
      deliveryBlocks := .replaceRow DeliveryBlock.Evolves.refl
        ⟨rfl, fun hr => by rw [hopen] at hr; cases hr⟩ }
  | found row _ _ _ _ _ =>
    exact { hrefl with sessionBindings := .append SessionBinding.Evolves.refl _ _ }
  | adopt row owner now _ hready =>
    exact { hrefl with
      sessionBindings := .replaceRow SessionBinding.Evolves.refl
        (.of_current rfl rfl (Nat.le_succ _) (fun _ => rfl)
          (SessionBindingState.not_isRetired_of_isReady hready)) }
  | opened row ref now _ hopening =>
    refine { hrefl with
      sessionBindings := .replaceRow SessionBinding.Evolves.refl
        (.of_current rfl rfl le_rfl (fun hr => ?_) (by rw [hopening]; rfl)) }
    rw [hopening] at hr
    cases hr
  | activate row t i now _ hready _ _ _ _ _ _ _ _ _ =>
    refine { hrefl with
      sessionBindings := .replaceRow SessionBinding.Evolves.refl
        (.of_current rfl rfl le_rfl (fun _ => ?_)
          (SessionBindingState.not_isRetired_of_isReady hready))
      sessionBindingTurns := .append SessionBindingTurn.Evolves.refl _ _ }
    exact SessionBindingState.sessionRef_toActive _ _
  | fence row t reason now _ _ _ hact hrun =>
    have hactive := SessionBindingState.isActive_of_isActiveOn hact
    refine { hrefl with
      sessionBindings := .replaceRow SessionBinding.Evolves.refl
        (.of_current rfl rfl le_rfl (fun _ => ?_)
          (SessionBindingState.not_isRetired_of_isActive hactive))
      sessionBindingTurns := .replaceRow SessionBindingTurn.Evolves.refl (.of_active _ hrun) }
    exact SessionBindingState.sessionRef_toUncertain _ _
  | retire row reason now stranding _ _ hcurrent _ =>
    exact { hrefl with
      sessionBindings := .replaceRow SessionBinding.Evolves.refl
        (.of_current rfl rfl le_rfl (fun _ => rfl) hcurrent) }
  | complete d d' i t row now seq persistence _ hl hk ha _ _ _ _ _ _ hrun _ _ hact =>
    have hactive := SessionBindingState.isActive_of_isActiveOn hact
    refine { hrefl with
      agentDeliveries := .replaceRow AgentDelivery.Evolves.refl
        (.of_live hk ha.ge (.inr (.inl hl)))
      invocations := closed_evolves _ _ _ _ _
      sessionBindings := .replaceRow SessionBinding.Evolves.refl
        (.of_current rfl rfl le_rfl (fun _ => ?_)
          (SessionBindingState.not_isRetired_of_isActive hactive))
      sessionBindingTurns := .replaceRow SessionBindingTurn.Evolves.refl (.of_active _ hrun) }
    exact SessionBindingState.sessionRef_toReady _

/-- Moves in a row are an evolution of the ledger. -/
theorem Consistent.evolves_moves {permits : Action → Prop} (h : Consistent l)
    (hm : Moves permits l l') : l.Evolves l' := by
  have hboth : l.Evolves l' ∧ Consistent l' :=
    hm.preserve (P := fun x => l.Evolves x ∧ Consistent x)
      (fun _ _ _ _ hmove hx => ⟨hx.1.trans (hx.2.evolves hmove), hx.2.move hmove⟩)
      ⟨.refl l, h⟩
  exact hboth.1

end Evolution

/-! ## Lease tokens -/

/-- Every token the ledger mentions is one of the tokens minted so far. -/
structure TokensIn (minted : List String) (l : Ledger) : Prop where
  agentDeliveries : ∀ d ∈ l.agentDeliveries, ∀ leaseToken,
    d.state.leaseToken = some leaseToken → leaseToken ∈ minted
  invocations : ∀ i ∈ l.invocations, i.leaseToken ∈ minted
  deliveryBlocks : ∀ b ∈ l.deliveryBlocks, b.leaseToken ∈ minted

section Tokens

variable {minted : List String} {l l' : Ledger} {a : Action}

/-- A token that was not minted is not mentioned. -/
theorem TokensIn.unused (h : TokensIn minted l) {leaseToken : String} (hn : leaseToken ∉ minted) :
    l.TokenUnused leaseToken :=
  ⟨fun d hd ht => hn (h.agentDeliveries d hd _ ht), fun i hi ht => hn (ht ▸ h.invocations i hi),
    fun b hb ht => hn (ht ▸ h.deliveryBlocks b hb)⟩

/-- Minting more tokens loses none. -/
theorem TokensIn.mono {more : List String} (h : TokensIn minted l) (hsub : minted ⊆ more) :
    TokensIn more l :=
  ⟨fun d hd tok ht => hsub (h.agentDeliveries d hd tok ht), fun i hi => hsub (h.invocations i hi),
    fun b hb => hsub (h.deliveryBlocks b hb)⟩

/-- Attempts that keep their tokens. -/
theorem TokensIn.updateInvocations (h : TokensIn minted l) {selected : InvocationRow → Bool}
    {set : InvocationRow → InvocationRow} (hset : ∀ i, (set i).leaseToken = i.leaseToken) :
    ∀ j ∈ updateWhere selected set l.invocations, j.leaseToken ∈ minted := by
  intro j hj
  obtain ⟨i, hi, rfl⟩ := mem_updateWhere.mp hj
  by_cases hs : selected i = true
  · rw [if_pos hs, hset]
    exact h.invocations i hi
  · rw [if_neg hs]
    exact h.invocations i hi

/-- A delivery that leaves its lease mentions no token. -/
theorem TokensIn.replaceDelivery (h : TokensIn minted l) {d d' : AgentDelivery}
    (hnone : d'.state.leaseToken = none) :
    ∀ x ∈ replaceRow d d' l.agentDeliveries, ∀ leaseToken,
      x.state.leaseToken = some leaseToken → leaseToken ∈ minted := by
  intro x hx tok ht
  rcases mem_replaceRow.mp hx with ⟨rfl, _⟩ | ⟨hx, _⟩
  · rw [hnone] at ht
    cases ht
  · exact h.agentDeliveries x hx tok ht

/-- A move mentions no token but the one it is entitled to. -/
theorem TokensIn.move (h : TokensIn minted l) (hm : Move a l l')
    (hlease : ∀ leaseToken, a = .lease leaseToken → leaseToken ∈ minted) : TokensIn minted l' := by
  cases hm with
  | deliver seq new _ hpending _ _ =>
    refine { h with agentDeliveries := fun d hd tok ht => ?_ }
    rcases List.mem_append.mp hd with hd | hd
    · exact h.agentDeliveries d hd tok ht
    · rw [hpending d hd] at ht
      cases ht
  | lease tok expiry selected _ _ _ =>
    refine { h with agentDeliveries := fun d hd tok' ht => ?_ }
    obtain ⟨e, he, rfl⟩ := mem_updateWhere.mp hd
    by_cases hs : selected e = true
    · rw [if_pos hs] at ht
      rw [← Option.some.inj ht]
      exact hlease tok rfl
    · rw [if_neg hs] at ht
      exact h.agentDeliveries e he tok' ht
  | reserve i d hd _ hl _ _ _ =>
    refine { h with invocations := fun j hj => ?_ }
    rcases List.mem_append.mp hj with hj | hj
    · exact h.invocations j hj
    · rw [List.mem_singleton.mp hj]
      exact h.agentDeliveries d hd _ (by rw [hl]; rfl)
  | arm i at_ hi _ =>
    refine { h with invocations := fun j hj => ?_ }
    rcases mem_replaceRow.mp hj with ⟨rfl, _⟩ | ⟨hj, _⟩
    · exact h.invocations i hi
    · exact h.invocations j hj
  | expire selected now _ =>
    exact { h with invocations := h.updateInvocations fun _ => rfl }
  | settle d d' now certainty reason _ _ _ _ hs _ _ =>
    have hnone : d'.state.leaseToken = none := by
      rcases hs with hs | ⟨at_, hs⟩ <;> rw [hs] <;> rfl
    exact ⟨h.replaceDelivery hnone, h.updateInvocations fun _ => rfl, h.deliveryBlocks⟩
  | park d d' b now reason hd hl _ _ hblocked _ _ =>
    refine ⟨h.replaceDelivery (by rw [hblocked]; rfl), h.updateInvocations fun _ => rfl,
      fun c hc => ?_⟩
    rcases List.mem_append.mp hc with hc | hc
    · exact h.deliveryBlocks c hc
    · rw [List.mem_singleton.mp hc]
      exact h.agentDeliveries d hd _ hl
  | resolve b d d' input now hb _ _ _ _ _ hs =>
    have hnone : d'.state.leaseToken = none := by
      rw [hs]
      cases input.resolution <;> rfl
    refine ⟨h.replaceDelivery hnone, h.invocations, fun c hc => ?_⟩
    rcases mem_replaceRow.mp hc with ⟨rfl, _⟩ | ⟨hc, _⟩
    · exact h.deliveryBlocks b hb
    · exact h.deliveryBlocks c hc
  | found row _ _ _ _ _ => exact ⟨h.agentDeliveries, h.invocations, h.deliveryBlocks⟩
  | adopt row owner now _ _ => exact ⟨h.agentDeliveries, h.invocations, h.deliveryBlocks⟩
  | opened row ref now _ _ => exact ⟨h.agentDeliveries, h.invocations, h.deliveryBlocks⟩
  | activate row t i now _ _ _ _ _ _ _ _ _ _ _ =>
    exact ⟨h.agentDeliveries, h.invocations, h.deliveryBlocks⟩
  | fence row t reason now _ _ _ _ _ => exact ⟨h.agentDeliveries, h.invocations, h.deliveryBlocks⟩
  | retire row reason now stranding _ _ _ _ =>
    exact ⟨h.agentDeliveries, h.invocations, h.deliveryBlocks⟩
  | complete d d' i t row now seq persistence _ _ _ _ hs _ _ _ _ _ _ _ _ _ =>
    obtain ⟨at_, hs⟩ := hs
    exact ⟨h.replaceDelivery (by rw [hs]; rfl), h.updateInvocations fun _ => rfl, h.deliveryBlocks⟩

/-- Moves in a row mention no token but those they are entitled to. -/
theorem TokensIn.moves {permits : Action → Prop} (h : TokensIn minted l) (hm : Moves permits l l')
    (hlease : ∀ leaseToken, permits (.lease leaseToken) → leaseToken ∈ minted) :
    TokensIn minted l' :=
  hm.preserve (fun _ _ _ ha hmove ht => ht.move hmove fun tok he => hlease tok (he ▸ ha)) h

end Tokens

end Fleetd
