import Fleetd.Guarantees.EvidenceAgreement
import Fleetd.Guarantees.Results
import Fleetd.System.Observation

/-!
# A session turn cannot be armed twice

Arming a session turn begins its observation, and the observation is unique for the attempt
and never removed. So the same call repeated at any later time is refused: the cases that the
activation and the arming keep for a repeat of the call are never reached through it.
-/

namespace Fleetd

open Effects Relational Relational.Transaction

/-- Whether an attempt has an observation. -/
def Observed (invocationId : String) (s : Store) : Prop :=
  ∃ o ∈ s.invocationObservations, o.invocationId = invocationId

/-! ## Observations are kept -/

section Kept
variable {Json : Type} [DecidableEq Json] [SerdeJson Json] [Sha256] {s t : Store} {minted : List String} {invocationId : String} {c : Command Json}

omit [DecidableEq Json] [SerdeJson Json] [Sha256] in
/-- The observed attempts are read off the observations. -/
theorem Observed.congr (h : Observed invocationId s)
    (hrows : t.invocationObservations = s.invocationObservations) : Observed invocationId t := by
  rw [Observed, hrows]
  exact h

omit [DecidableEq Json] [SerdeJson Json] [Sha256] in
/-- Rewriting an observation under its own name keeps the observed attempts. -/
theorem Observed.replaceRow (h : Observed invocationId s) {o o' : InvocationObservation}
    (hrows : t.invocationObservations = Relational.replaceRow o o' s.invocationObservations)
    (hname : o'.invocationId = o.invocationId) : Observed invocationId t := by
  obtain ⟨x, hx, hid⟩ := h
  by_cases hxo : x = o
  · exact ⟨o', hrows ▸ mem_replaceRow.mpr (.inl ⟨rfl, hxo ▸ hx⟩), hname.trans (hxo ▸ hid)⟩
  · exact ⟨x, hrows ▸ mem_replaceRow.mpr (.inr ⟨hx, hxo⟩), hid⟩

/-- No step takes an observation away. -/
theorem Command.step_observed (hinv : Invariant minted s)
    (hfresh : ∀ leaseToken ∈ c.leaseTokens, leaseToken ∉ minted) (h : Observed invocationId s) :
    Observed invocationId (c.step s) := by
  rcases c.step_cases s with ⟨_, hok⟩ | hsame
  · cases c.observationChange hinv hfresh hok with
    | same _ rows => exact h.congr rows
    | begun _ _ _ _ _ _ _ _ _ rows =>
      obtain ⟨x, hx, hid⟩ := h
      exact ⟨x, rows ▸ List.mem_append_left _ hx, hid⟩
    | repeated _ _ _ _ _ _ _ _ _ _ _ rows => exact h.congr rows
    | folded _ _ _ _ _ _ _ _ _ _ _ _ _ rows => exact h.replaceRow rows rfl
    | ended _ _ _ _ _ _ _ _ rows => exact h.replaceRow rows rfl
  · rw [hsame]
    exact h

end Kept

/-! ## What an armed turn leaves behind -/

/-- What a successful arming leaves in the database for good: the session, the turn and the
attempt it was called for, and an observation of the attempt. -/
structure ArmedUnder (agentId invocationId : String) (binding : Binding) (sessionRef : String)
    (input : ArmInvocation) (s : Store) : Prop where
  session : ∃ row ∈ s.sessionBindings, row.key = (binding.bindingId, binding.bindingGeneration) ∧
    row.agentId = agentId ∧ row.state.sessionRef = some sessionRef
  turn : ∃ turn ∈ s.sessionBindingTurns, turn.invocationId = invocationId ∧
    turn.bindingKey = (binding.bindingId, binding.bindingGeneration) ∧
    turn.ownerEpoch = binding.ownerEpoch
  attempt : ∃ i ∈ s.invocations, i.id = invocationId ∧ i.agentId = agentId ∧
    i.leaseToken = input.leaseToken ∧ i.fenceToken = input.fenceToken
  observed : Observed invocationId s

/-- What the caller of a repeated arming relies on: its lease is live, the turn it armed is
active and so is the plugin generation. -/
structure StillArmed (agentId invocationId generationId : String) (input : ArmInvocation)
    (now : Int) (s : Store) : Prop where
  lease : ∃ row, invocationWithDelivery agentId invocationId s = .ok (row, s) ∧
    validateLiveLease row input.leaseToken now = .ok ()
  turn : ∃ turn ∈ s.sessionBindingTurns, turn.invocationId = invocationId ∧ turn.state = .active
  generation : ∃ g ∈ s.pluginGenerations, g.id = generationId ∧ g.agentId = agentId ∧
    g.stopped = none

section Armed
variable {Json : Type} [DecidableEq Json] [SerdeJson Json] [Sha256] {s t : Store}
  {permits : Action → Prop} {agentId invocationId sessionRef generationId : String}
  {binding : Binding} {input : ArmInvocation} {now : Int} {bound : BoundInvocation Json}

omit [DecidableEq Json] [Sha256] in
/-- What an arming left behind stays, as long as the observation does. -/
theorem ArmedUnder.effect (h : ArmedUnder agentId invocationId binding sessionRef input s)
    (hc : Consistent s.toLedger) (heff : Effect Json permits s t)
    (hobserved : Observed invocationId t) :
    ArmedUnder agentId invocationId binding sessionRef input t := by
  have hevolves := hc.evolves_moves heff.moves
  refine ⟨?_, ?_, ?_, hobserved⟩
  · obtain ⟨row, hrow, hkey, hagent, href⟩ := h.session
    obtain ⟨row', hrow', hev⟩ := hevolves.sessionBindings.mem hrow
    have hagent' : row'.agentId = row.agentId := congrArg Prod.fst hev.lane
    exact ⟨row', hrow', hev.key.trans hkey, hagent'.trans hagent,
      (hev.sessionRef (by rw [href]; rfl)).trans href⟩
  · obtain ⟨turn, hturn, hid, hkey, hepoch⟩ := h.turn
    obtain ⟨turn', hturn', hev⟩ := hevolves.sessionBindingTurns.mem hturn
    refine ⟨turn', hturn', ?_, ?_, ?_⟩ <;> rw [hev.static]
    · exact hid
    · exact hkey
    · exact hepoch
  · obtain ⟨i, hi, hid, hagent, hlease, hfence⟩ := h.attempt
    obtain ⟨i', hi', hev⟩ := hevolves.invocations.mem hi
    refine ⟨i', hi', ?_, ?_, ?_, ?_⟩ <;> rw [hev.static]
    · exact hid
    · exact hagent
    · exact hlease
    · exact hfence

omit [DecidableEq Json] [SerdeJson Json] [Sha256] in
/-- After an activation the attempt has a turn under the presented session. -/
theorem activateBindingTurn_turn {u : Unit}
    (h : activateBindingTurn agentId invocationId binding now s = .ok (u, t)) :
    ∃ turn ∈ t.sessionBindingTurns, turn.invocationId = invocationId ∧
      turn.bindingKey = (binding.bindingId, binding.bindingGeneration) ∧
      turn.ownerEpoch = binding.ownerEpoch := by
  simp only [activateBindingTurn, bind_ok, check_ok, read_ok] at h
  obtain ⟨fence, _, ⟨hfence, rfl⟩, existing, _, ⟨hexisting, rfl⟩, h⟩ := h
  cases existing with
  | some turn =>
    obtain rfl := ownerFence_new_ok hfence
    simp only [ensure_ok] at h
    obtain ⟨⟨hbinding, hgeneration, hepoch, _⟩, rfl⟩ := h
    have hid : turn.invocationId = invocationId := by simpa using List.find?_some hexisting
    exact ⟨turn, List.mem_of_find?_eq_some hexisting, hid, Prod.ext hbinding hgeneration, hepoch⟩
  | none =>
    simp only [bind_ok, write_ok, Prod.mk.injEq] at h
    obtain ⟨_, _, ⟨_, rfl⟩, hupd⟩ := h
    obtain ⟨row, _, _, rfl⟩ := ownerFence_update_presents hfence hupd
    obtain rfl := ownerFence_new_ok hfence
    exact ⟨newTurn invocationId binding now, by simp [newTurn], rfl, rfl, rfl⟩

omit [DecidableEq Json] [Sha256] in
/-- A successful arming leaves its session, its turn, its attempt and their observation. -/
theorem armSessionInvocation_armedUnder (hc : Consistent s.toLedger)
    (h : armSessionInvocation agentId invocationId binding sessionRef generationId input now s =
      .ok (bound, t)) :
    ArmedUnder agentId invocationId binding sessionRef input t := by
  have hparts := h
  simp only [armSessionInvocation, bindingByIdentity, bind_ok, check_ok, pure_ok] at hparts
  obtain ⟨_, _, ⟨_, rfl⟩, _, _, ⟨_, rfl⟩, row, _, hrow, _, _, ⟨_, rfl⟩, _, _, ⟨href, rfl⟩, _, _,
    ⟨_, rfl⟩, _, armed, harm, _, mid, hactivate, _, _, hbegin, _, _, hread, _, rfl⟩ := hparts
  obtain ⟨rfl, hr, hkey, hagent⟩ := exactBindingRow_ok hrow
  obtain ⟨rfl, _⟩ := exactBindingRow_ok hread
  obtain ⟨_, hrows⟩ := beginInvocationObservation_ok hbegin
  obtain ⟨_, _, mid', hadv, hmid⟩ := 
    @armSessionInvocation_ok Json s _ (fun _ => True) _ _ _ _ _ trivial hc _ _ _ _ h
  have hevolves := hc.evolves_moves hadv.moves
  refine ⟨?_, ?_, ?_, ?_⟩
  · obtain ⟨row', hrow', hev⟩ := hevolves.sessionBindings.mem hr
    have hstored : row.state.sessionRef = some sessionRef := by
      by_contra hne
      rw [validateSessionReference, if_pos hne] at href
      cases href
    have hagent' : row'.agentId = row.agentId := congrArg Prod.fst hev.lane
    exact ⟨row', hmid ▸ hrow', hev.key.trans hkey, hagent'.trans hagent,
      (hev.sessionRef (by rw [hstored]; rfl)).trans hstored⟩
  · obtain ⟨turn, hturn, hfence⟩ := activateBindingTurn_turn hactivate
    exact ⟨turn, hrows ▸ hturn, hfence⟩
  · simp only [armInvocationTransaction, bind_ok, check_ok] at harm
    obtain ⟨_, _, ⟨_, rfl⟩, found, _, hfound, _, _, ⟨hfence, rfl⟩, _⟩ := harm
    obtain ⟨rfl, hi, hid, hiagent, _⟩ := invocationWithDelivery_ok hfound
    obtain ⟨i', hi', hev⟩ := hevolves.invocations.mem hi
    rw [validateInvocationFence, except_bind_ok] at hfence
    obtain ⟨_, hstatic, _⟩ := hfence
    have htokens : found.invocation.leaseToken = input.leaseToken ∧
        found.invocation.fenceToken = input.fenceToken := by
      by_contra hne
      rw [validateStaticFence, if_pos (by tauto)] at hstatic
      cases hstatic
    refine ⟨i', hmid ▸ hi', ?_, ?_, ?_, ?_⟩ <;> rw [hev.static]
    · exact hid
    · exact hiagent
    · exact htokens.1
    · exact htokens.2
  · refine ⟨newObservation invocationId generationId binding now, ?_, rfl⟩
    rw [hrows]
    exact List.mem_append_right _ (List.mem_singleton.mpr rfl)

omit [DecidableEq Json] [Sha256] in
/-- A successful arming was called with a valid request. -/
theorem armSessionInvocation_valid
    (h : armSessionInvocation agentId invocationId binding sessionRef generationId input now s =
      .ok (bound, t)) :
    validateBinding binding = .ok () ∧
      validateBounded "session reference" sessionRef maxSessionRefBytes = .ok () ∧
      validateArm invocationId input = .ok () := by
  simp only [armSessionInvocation, armInvocationTransaction, bind_ok, check_ok] at h
  obtain ⟨_, _, ⟨hvalid, rfl⟩, _, _, ⟨href, rfl⟩, _, _, _, _, _, _, _, _, _, _, _, _, _, _,
    ⟨_, _, ⟨harm, _⟩, _⟩, _⟩ := h
  exact ⟨hvalid, href, harm⟩

omit [DecidableEq Json] [Sha256] in
/-- A caller that repeats its arming while it is still armed is told that the observation of the
turn exists. -/
theorem ArmedUnder.repeat_run [LawfulSerdeJson Json]
    (h : ArmedUnder agentId invocationId binding sessionRef input s) (hc : Consistent s.toLedger)
    (hlog : LogConsistent s) (hprinted : ∀ m ∈ s.messages, m.Printed Json)
    (hvalid : validateBinding binding = .ok ())
    (href : validateBounded "session reference" sessionRef maxSessionRefBytes = .ok ())
    (harm : validateArm invocationId input = .ok ())
    (hstill : StillArmed agentId invocationId generationId input now s) :
    (armSessionInvocation agentId invocationId binding sessionRef generationId input now :
        Tx (BoundInvocation Json)) s =
      .error (.conflict s!"invocation observation already exists: {invocationId}") := by
  obtain ⟨row, hrow, hkey, hagent, hstored⟩ := h.session
  obtain ⟨turn, hturn, hid, hturnKey, hepoch⟩ := h.turn
  obtain ⟨i, hi, hiid, hiagent, hlease, hfence⟩ := h.attempt
  obtain ⟨hgen, hgenMax, hep, hepMax⟩ := validateBinding_ok hvalid
  obtain ⟨hbindingId, hgeneration⟩ : row.bindingId = binding.bindingId ∧
    row.bindingGeneration = binding.bindingGeneration := Prod.ext_iff.mp hkey
  obtain ⟨hturnBinding, hturnGeneration⟩ : turn.bindingId = binding.bindingId ∧
    turn.bindingGeneration = binding.bindingGeneration := Prod.ext_iff.mp hturnKey
  -- the turn is active, so its session names it and its attempt is armed
  have hactive : turn.state = .active := by
    obtain ⟨turn', hturn', hid', hstate⟩ := hstill.turn
    obtain rfl := hc.turnIds.eq hturn' hturn (hid'.trans hid.symm)
    exact hstate
  have hon : row.state.isActiveOn invocationId = true := by
    have hbound := hc.turnBound turn hturn row hrow (hkey.trans hturnKey.symm)
    rw [TurnBound, hactive, hid] at hbound
    exact hbound
  have harmed : i.state.isArmed = true := by
    have hfits := hc.turnFits turn hturn i hi (hiid.trans hid.symm)
    rw [hactive] at hfits
    exact hfits
  have hrowEpoch : row.ownerEpoch = binding.ownerEpoch := by
    obtain ⟨turn', hturn', hid', _, hepoch', _⟩ :=
      hc.current row hrow invocationId (SessionBindingState.activeInvocationId_of_isActiveOn hon)
    obtain rfl := hc.turnIds.eq hturn' hturn (hid'.trans hid.symm)
    exact hepoch'.symm.trans hepoch
  -- each check of the session passes
  have hfindRow : exactBindingRow agentId binding s = .ok (row, s) := by
    have hfind : s.sessionBindings.find? (fun row => row.bindingId = binding.bindingId ∧
        row.bindingGeneration = binding.bindingGeneration ∧ row.agentId = agentId) = some row :=
      hc.bindingKeys.find?_eq_some hrow (by simp [hbindingId, hgeneration, hagent]) fun x _ hx => by
        obtain ⟨hxid, hxgen, _⟩ := of_decide_eq_true hx
        rw [hkey, SessionBinding.key, hxid, hxgen]
    simp only [exactBindingRow, asI64_eq hgen hgenMax, bind_run, check_ok_run, read_run, hfind,
      require_some_run]
  have howner : validateOwner row binding = .ok () := by
    rw [validateOwner, asI64_eq hgen hgenMax, asI64_eq hep hepMax]
    exact if_neg (by simp [hgeneration, hrowEpoch])
  have hreference : validateSessionReference row sessionRef = .ok () := if_neg (by simp [hstored])
  have hactivation : validateBindingActivation row invocationId = .ok () := by
    unfold validateBindingActivation
    cases hs : row.state <;> rw [hs] at hon <;> first | cases hon | skip
    exact if_pos (of_decide_eq_true hon)
  -- the attempt is armed already, and the turn is the one it was armed for
  have hattempt : ∃ invocation : Invocation Json,
      armInvocationTransaction agentId invocationId input now s = .ok (invocation, s) := by
    obtain ⟨found, hfound, hlive⟩ := hstill.lease
    obtain ⟨_, hmem, hfoundId, _, _, _, hinput, hinputSeq⟩ := invocationWithDelivery_ok hfound
    obtain rfl := hc.invocationIds.eq hmem hi (hfoundId.trans hiid.symm)
    obtain ⟨invocation, hread⟩ := invocationById_run hc.invocationIds hlog.messageSeqs hi hinput
      hinputSeq (hprinted _ hinput)
    rw [hiid] at hread
    have hstatic : validateStaticFence found input.leaseToken input.fenceToken = .ok () :=
      if_neg (by simp [hlease, hfence])
    have hpresented : validateInvocationFence found input now = .ok () := by
      rw [validateInvocationFence, hstatic]
      exact hlive
    refine ⟨invocation, ?_⟩
    simp only [armInvocationTransaction, harm, bind_run, check_ok_run, hfound, hpresented]
    cases hs : found.invocation.state with
    | dispatchArmed armedAt => simp only [hread]
    | _ => rw [hs] at harmed; cases harmed
  obtain ⟨invocation, hattempt⟩ := hattempt
  have hactivate : activateBindingTurn agentId invocationId binding now s = .ok ((), s) := by
    have hfind : turnOf invocationId s.sessionBindingTurns = some turn :=
      hc.turnIds.find?_eq_some hturn (by simp [hid]) fun u _ hu => by rw [of_decide_eq_true hu, hid]
    have hnew : OwnerFence.new agentId binding =
        .ok ⟨binding.bindingId, binding.bindingGeneration, agentId, binding.ownerEpoch⟩ := by
      rw [OwnerFence.new, asI64_eq hgen hgenMax, asI64_eq hep hepMax]
      rfl
    simp only [activateBindingTurn, hnew, bind_run, check_ok_run, read_run, hfind, ensure_run]
    exact if_pos ⟨hturnBinding, hturnGeneration, hepoch, hactive⟩
  -- only the observation is in the way
  have hbegin : beginInvocationObservation agentId invocationId generationId binding now s =
      .error (.conflict s!"invocation observation already exists: {invocationId}") := by
    obtain ⟨o, ho, hoid⟩ := h.observed
    have hexists : ¬ ∀ o ∈ s.invocationObservations, o.invocationId ≠ invocationId :=
      fun hnone => hnone o ho hoid
    simp only [beginInvocationObservation, tryFromU64, if_pos hgenMax, if_pos hepMax, bind_run,
      check_ok_run, read_run, id, ensure_run, if_pos hstill.generation, if_neg hexists]
  simp only [armSessionInvocation, hvalid, href, bind_run, check_ok_run, hfindRow, howner, hreference,
    hactivation, hattempt, hactivate, hbegin]

/-- No run takes back what an arming left behind. -/
theorem run_armedUnder {cs ds : List (Command Json)} (hfresh : Fresh (cs ++ ds))
    (h : ArmedUnder agentId invocationId binding sessionRef input (run cs)) :
    ArmedUnder agentId invocationId binding sessionRef input (run (cs ++ ds)) :=
  FreshAlong.induction_from cs
    (fun _ s => ArmedUnder agentId invocationId binding sessionRef input s) h
    (fun _ c hds hs => hs.effect (run_invariant hds.left).ledger
      (c.step_effect (run_invariant hds.left) fun _ ht => hds.not_mem ht)
      (Command.step_observed (run_invariant hds.left) (fun _ ht => hds.not_mem ht) hs.observed))
    ds hfresh

end Armed

/-! ## The repeated call -/

section Repeated
variable {Json : Type} [DecidableEq Json] [SerdeJson Json] [Sha256]

omit [DecidableEq Json] [Sha256] in
/-- A turn whose attempt is observed cannot be armed. -/
theorem Observed.armSessionInvocation_fails {s : Store} {agentId invocationId : String}
    (h : Observed invocationId s) (hc : Consistent s.toLedger) (binding : Binding)
    (sessionRef generationId : String) (input : ArmInvocation) (now : Int) :
    ∃ error, (armSessionInvocation agentId invocationId binding sessionRef generationId input now :
      Tx (BoundInvocation Json)) s = .error error := by
  cases harm : (armSessionInvocation agentId invocationId binding sessionRef generationId input now :
      Tx (BoundInvocation Json)) s with
  | error error => exact ⟨error, rfl⟩
  | ok result =>
    obtain ⟨o, ho, hid⟩ := h
    have hparts := @armSessionInvocation_ok Json s _ (fun _ => True) _ _ _ _ _ trivial hc _ _ _ _ harm
    exact absurd hid (hparts.2.1 o ho)

/-- After a turn was armed, the identical call fails at every later time of every run; and while
the caller's lease, its turn and its generation are live, it fails because the observation of the
turn exists. -/
theorem armSessionInvocation_not_repeatable [LawfulSerdeJson Json] {cs ds : List (Command Json)}
    {agentId invocationId sessionRef generationId : String} {binding : Binding}
    {input : ArmInvocation} {now : Int}
    (hfresh : Fresh (cs ++ [.armSessionInvocation agentId invocationId binding sessionRef generationId
      input now] ++ ds)) {bound : BoundInvocation Json} {s : Store}
    (harm : armSessionInvocation agentId invocationId binding sessionRef generationId input now
      (run cs) = .ok (bound, s)) {t : Store}
    (ht : t = run (cs ++ [.armSessionInvocation agentId invocationId binding sessionRef generationId
      input now] ++ ds)) (later : Int) :
    (∃ error, (armSessionInvocation agentId invocationId binding sessionRef generationId input later :
      Tx (BoundInvocation Json)) t = .error error) ∧
    (StillArmed agentId invocationId generationId input later t →
      (armSessionInvocation agentId invocationId binding sessionRef generationId input later :
        Tx (BoundInvocation Json)) t =
        .error (.conflict s!"invocation observation already exists: {invocationId}")) := by
  have harmed : ArmedUnder agentId invocationId binding sessionRef input t := by
    rw [ht]
    refine run_armedUnder hfresh ?_
    rw [run_snoc]
    have hstep : Command.step (.armSessionInvocation agentId invocationId binding sessionRef
        generationId input now) (run cs) = s := commit_of_ok (discard_of_ok harm)
    rw [hstep]
    exact armSessionInvocation_armedUnder (run_invariant hfresh.left.left).ledger harm
  have hinv := run_invariant hfresh
  have hprinted := run_printed hfresh
  rw [← ht] at hinv hprinted
  obtain ⟨hvalid, href, hrequest⟩ := armSessionInvocation_valid harm
  exact ⟨harmed.observed.armSessionInvocation_fails hinv.ledger binding sessionRef generationId input
    later, harmed.repeat_run hinv.ledger hinv.log hprinted hvalid href hrequest⟩

end Repeated

/-- The caller of the sample arming is still armed one tick later. -/
theorem stillArmed_sampleArmed : StillArmed "b" "i" "g" ⟨"T", "f"⟩ 8 (run sampleArmed) where
  lease :=
    ⟨⟨sampleInvocation, ⟨1, "b", .leased "T" 15, 1, 2, none, none, none, 2⟩,
      ⟨1, "m", "c", "a", some "k", some "b", "work", "true", some "corr", none, 2⟩⟩,
      by decide +kernel, by decide +kernel⟩
  turn := by decide +kernel
  generation := by decide +kernel

set_option maxRecDepth 100000 in
/-- The sample turn cannot be armed again one tick later, although its caller is still armed. -/
theorem armSessionInvocation_not_repeatable_sampleArmed :
    (armSessionInvocation "b" "i" ⟨"B", 1, 1⟩ "ref" "g" ⟨"T", "f"⟩ 8 : Tx (BoundInvocation Bool))
      (run sampleArmed) = .error (.conflict "invocation observation already exists: i") := by
  obtain ⟨bound, harm⟩ := armSessionInvocation_sampleArmed
  have hfresh : Fresh sampleArmed := by decide
  have hrun : run sampleArmed = run (sampleReserved ++
      [.armSessionInvocation "b" "i" ⟨"B", 1, 1⟩ "ref" "g" ⟨"T", "f"⟩ 7] ++ []) := by
    rw [List.append_nil, sampleArmed]
  have hfresh' : Fresh (sampleReserved ++
      [.armSessionInvocation "b" "i" ⟨"B", 1, 1⟩ "ref" "g" ⟨"T", "f"⟩ 7] ++ []) := by
    rw [List.append_nil]
    exact hfresh
  exact (armSessionInvocation_not_repeatable hfresh' harm hrun 8).2 stillArmed_sampleArmed

set_option maxRecDepth 100000 in
/-- The sample turn was armed, its caller is still armed, and the identical call is refused. -/
theorem armSessionInvocation_sampleArmed_refused :
    (∃ bound : BoundInvocation Bool, armSessionInvocation "b" "i" ⟨"B", 1, 1⟩ "ref" "g" ⟨"T", "f"⟩ 7
      (run sampleReserved) = .ok (bound, run sampleArmed)) ∧
    StillArmed "b" "i" "g" ⟨"T", "f"⟩ 8 (run sampleArmed) ∧
    ¬ ∃ bound : BoundInvocation Bool, armSessionInvocation "b" "i" ⟨"B", 1, 1⟩ "ref" "g" ⟨"T", "f"⟩ 8
      (run sampleArmed) = .ok (bound, run sampleArmed) := by
  refine ⟨armSessionInvocation_sampleArmed, stillArmed_sampleArmed, ?_⟩
  rintro ⟨bound, hok⟩
  have hobserved : Observed "i" (run sampleArmed) := by
    rw [Observed]
    decide +kernel
  have hfresh : Fresh sampleArmed := by decide
  obtain ⟨error, herror⟩ := @Observed.armSessionInvocation_fails Bool _ _ _ _ hobserved
    (run_invariant hfresh).ledger ⟨"B", 1, 1⟩ "ref" "g" ⟨"T", "f"⟩ 8
  rw [herror] at hok
  cases hok

end Fleetd
