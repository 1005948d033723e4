import Fleetd.Guarantees.ContentLevel
import Fleetd.Guarantees.ManagedTurn
import Fleetd.Kernel.Sha256
import Fleetd.Otlp.Sink

/-!
# Trajectories that are released

A turn whose trajectory was opened closes it on every path on which it can be settled or blocked.
The one exception is a turn that fails between its arming and its start, and whose block is then
refused: nothing closes it. The sink keeps a turn in flight until it receives its close, so that a
close that finds the queue full leaves the turn there for good.
-/

namespace Fleetd.Otlp

open Effects Relational Harness
open Serde (Value)

/-! ## Opened and closed -/

/-- The offer opens the trajectory of an invocation. -/
def Offer.Opens (id : String) : Offer → Prop
  | .open_ turn => turn.invocationId = id
  | _ => False

/-- The offer closes the trajectory of an invocation. -/
def Offer.Closes (id : String) : Offer → Prop
  | .close owned => owned.invocationId = id
  | _ => False

/-- Each offer that opens an invocation is followed by one that closes it. -/
def Released (id : String) : List Offer → Prop
  | [] => True
  | offer :: rest => (offer.Opens id → ∃ close ∈ rest, close.Closes id) ∧ Released id rest

/-- Whether an invocation is open after an offer. -/
def tracked (id : String) (isOpen : Prop) : Offer → Prop
  | .open_ turn => isOpen ∨ turn.invocationId = id
  | .close owned => isOpen ∧ owned.invocationId ≠ id
  | .update _ => isOpen
  | .flush _ => isOpen

/-- An invocation is closed after some offers if each one that opens it is followed by one that
closes it, and what was open before is closed as well. -/
theorem not_foldl_tracked (id : String) (isOpen : Prop) (offers : List Offer) :
    ¬offers.foldl (tracked id) isOpen ↔
      Released id offers ∧ (isOpen → ∃ close ∈ offers, close.Closes id) := by
  induction offers generalizing isOpen with
  | nil => simp [Released]
  | cons offer rest ih =>
    rw [List.foldl_cons, ih, Released, List.exists_mem_cons_iff]
    cases offer with
    | open_ turn =>
      simp only [tracked, Offer.Opens, Offer.Closes]
      tauto
    | update update =>
      simp only [tracked, Offer.Opens, Offer.Closes]
      tauto
    | close close =>
      simp only [tracked, Offer.Opens, Offer.Closes]
      tauto
    | flush acknowledged =>
      simp only [tracked, Offer.Opens, Offer.Closes]
      tauto

/-- An invocation is released if it is not open at the end. -/
theorem released_iff {id : String} {offers : List Offer} :
    Released id offers ↔ ¬offers.foldl (tracked id) False := by
  rw [not_foldl_tracked]
  exact (and_iff_left False.elim).symm

/-- Nothing has to be closed where nothing is opened. -/
theorem released_of_forall_not_opens {id : String} {offers : List Offer}
    (h : ∀ offer ∈ offers, ¬offer.Opens id) : Released id offers := by
  induction offers with
  | nil => trivial
  | cons offer rest ih =>
    obtain ⟨hoffer, hrest⟩ := List.forall_mem_cons.1 h
    exact ⟨fun hopens => absurd hopens hoffer, ih hrest⟩

/-! ## The sink -/

/-- What was offered along some steps. -/
def offered (steps : List EgressStep) : List Offer :=
  steps.filterMap fun
    | .offer offer => some offer
    | _ => none

/-- How many offers of a run are counted. -/
def countedOffers (steps : List EgressStep) : Nat :=
  ((offered steps).filter fun offer => !offer.isFlush).length

/-- The drain task acts on its own. -/
def EgressStep.isDrain : EgressStep → Bool
  | .offer _ => false
  | _ => true

namespace TrajectoryEgress

/-- An invocation will be in flight once everything queued is received. -/
def Retains (id : String) (egress : TrajectoryEgress) : Prop :=
  egress.offers.foldl (tracked id) (id ∈ egress.inFlight)

/-- A close is offered to a queue that has room for it, unless it closes nothing. -/
def TakesClose (capacity : Nat) : EgressStep → TrajectoryEgress → Prop
  | .offer (.close close), egress =>
    egress.HasRoom capacity ∨ ¬egress.Retains close.invocationId
  | _, _ => True

section
variable {egress : TrajectoryEgress} {capacity : Nat}

/-- An empty queue leaves what is in flight. -/
theorem retains_of_empty (h : egress.offers = []) (id : String) :
    egress.Retains id ↔ id ∈ egress.inFlight := by
  rw [Retains, h, List.foldl_nil]

/-- An offer that is taken is received after everything before it. -/
theorem retains_concat {later : TrajectoryEgress} {offer : Offer}
    (hoffers : later.offers = egress.offers ++ [offer]) (hflight : later.inFlight = egress.inFlight)
    (id : String) : later.Retains id ↔ tracked id (egress.Retains id) offer := by
  rw [Retains, hoffers, hflight, List.foldl_concat]
  rfl

/-- The queue and the turns in flight decide what is retained. -/
theorem retains_congr {later : TrajectoryEgress} (hoffers : later.offers = egress.offers)
    (hflight : later.inFlight = egress.inFlight) (id : String) :
    later.Retains id ↔ egress.Retains id := by
  rw [Retains, Retains, hoffers, hflight]

end

section
variable [Sha256] {config : EgressConfig} {capacity : Nat} {egress : TrajectoryEgress}

/-- What is received decides what is in flight. -/
theorem mem_inFlight_handle (egress : TrajectoryEgress) (offer : Offer) (id : String) :
    id ∈ (egress.handle config offer).inFlight ↔ tracked id (id ∈ egress.inFlight) offer := by
  cases offer with
  | open_ turn =>
    simp only [handle, tracked, Finmap.mem_insert]
    tauto
  | update update =>
    rw [handle, tracked]
    cases hflight : egress.inFlight.lookup update.invocationId with
    | none => exact Iff.rfl
    | some flight =>
      have hmem : update.invocationId ∈ egress.inFlight :=
        Finmap.mem_iff.2 ⟨flight, hflight⟩
      simp only [Finmap.mem_insert, or_iff_right_iff_imp]
      rintro rfl
      exact hmem
  | close close =>
    rw [handle, tracked]
    cases hflight : egress.inFlight.lookup close.invocationId with
    | none =>
      have hmem : close.invocationId ∉ egress.inFlight := Finmap.lookup_eq_none.1 hflight
      refine (and_iff_left_of_imp ?_).symm
      rintro hid rfl
      exact hmem hid
    | some flight =>
      simp only [Finmap.mem_erase]
      tauto
  | flush acknowledged => exact Iff.rfl

/-- Receiving an offer leaves the rest queued. -/
theorem offers_handle (egress : TrajectoryEgress) (offer : Offer) :
    (egress.handle config offer).offers = egress.offers := by
  cases offer with
  | open_ turn => rfl
  | update update =>
    rw [handle]
    split <;> rfl
  | close close =>
    rw [handle]
    split <;> rfl
  | flush acknowledged => rfl

/-- A step of the drain task does not change what will be in flight. -/
theorem retains_drain {step : EgressStep} (hdrain : step.isDrain = true) (id : String) :
    (TrajectoryEgress.step config capacity step egress).Retains id ↔ egress.Retains id := by
  cases step with
  | offer offer => cases hdrain
  | receive =>
    rw [TrajectoryEgress.step, receive]
    split
    · rename_i offer rest _ hoffers
      rw [Retains, Retains, offers_handle, mem_inFlight_handle, hoffers]
      exact Iff.rfl
    · exact Iff.rfl
  | exportEnds ok =>
    rw [TrajectoryEgress.step, exportEnds]
    split
    · exact Iff.rfl
    · split <;> exact Iff.rfl

/-- An offer is taken by a queue that has room for it, and otherwise changes counters only. -/
theorem offer_spec (config : EgressConfig) (capacity : Nat) (egress : TrajectoryEgress)
    (offer : Offer) :
    (TrajectoryEgress.step config capacity (.offer offer) egress).offers =
        (if egress.HasRoom capacity then egress.offers ++ [offer] else egress.offers) ∧
      (TrajectoryEgress.step config capacity (.offer offer) egress).inFlight = egress.inFlight := by
  have henqueue : (egress.enqueue capacity offer).offers =
        (if egress.HasRoom capacity then egress.offers ++ [offer] else egress.offers) ∧
      (egress.enqueue capacity offer).inFlight = egress.inFlight := by
    rw [enqueue]
    split <;> exact ⟨rfl, rfl⟩
  cases offer with
  | open_ turn => exact henqueue
  | update update => exact henqueue
  | close close => exact henqueue
  | flush acknowledged =>
    rw [TrajectoryEgress.step, flush]
    split <;> exact ⟨rfl, rfl⟩

/-- An offer that is taken counts for what will be in flight. -/
theorem retains_offer_of_room {offer : Offer} (hroom : egress.HasRoom capacity) (id : String) :
    (TrajectoryEgress.step config capacity (.offer offer) egress).Retains id ↔
      tracked id (egress.Retains id) offer := by
  obtain ⟨hoffers, hflight⟩ := offer_spec config capacity egress offer
  rw [if_pos hroom] at hoffers
  exact retains_concat hoffers hflight id

/-- An offer that is dropped does not. -/
theorem retains_offer_of_full {offer : Offer} (hfull : ¬egress.HasRoom capacity) (id : String) :
    (TrajectoryEgress.step config capacity (.offer offer) egress).Retains id ↔ egress.Retains id := by
  obtain ⟨hoffers, hflight⟩ := offer_spec config capacity egress offer
  rw [if_neg hfull] at hoffers
  exact retains_congr hoffers hflight id

end

end TrajectoryEgress

/-! ## Runs of the sink -/

/-- The last step may offer something. -/
theorem offered_snoc (steps : List EgressStep) (step : EgressStep) :
    offered (steps ++ [step]) = offered steps ++ offered [step] :=
  List.filterMap_append

/-- The drain task offers nothing. -/
theorem offered_drain {step : EgressStep} (h : step.isDrain = true) : offered [step] = [] := by
  cases step with
  | offer offer => cases h
  | receive => rfl
  | exportEnds ok => rfl

/-- An invocation that was opened and not closed since is open after another offer if that offer does
not close it. -/
theorem not_released_concat {id : String} {offers : List Offer} {offer : Offer} :
    ¬Released id (offers ++ [offer]) ↔ tracked id (¬Released id offers) offer := by
  rw [released_iff, released_iff, not_not, not_not, List.foldl_concat]

section
variable [Sha256] (config : EgressConfig) (capacity : Nat)

open TrajectoryEgress

/-- The counters of a sink count the offers that were taken and those that were dropped. -/
def Counts (steps : List EgressStep) (egress : TrajectoryEgress) : Prop :=
  ∃ accepted dropped, accepted + dropped = countedOffers steps ∧
    egress.accepted = accepted % (u64Max + 1) ∧ egress.dropped = dropped % (u64Max + 1)

/-- Nothing is in flight, once nothing is queued, that was closed as often as it was opened. -/
def ReleasesAll (steps : List EgressStep) : Prop :=
  ∀ earlier, earlier <+: steps → ∀ idle : List EgressStep, (∀ step ∈ idle, step.isDrain = true) →
    (run config capacity (earlier ++ idle)).offers = [] →
      ∀ id, Released id (offered earlier) → id ∉ (run config capacity (earlier ++ idle)).inFlight

variable {config capacity}

/-- A step counts its offer once. -/
theorem Counts.step {steps : List EgressStep} {egress : TrajectoryEgress}
    (h : Counts steps egress) (next : EgressStep) :
    Counts (steps ++ [next]) (TrajectoryEgress.step config capacity next egress) := by
  obtain ⟨accepted, dropped, hsum, haccepted, hdropped⟩ := h
  have hcount : countedOffers (steps ++ [next]) = countedOffers steps + countedOffers [next] := by
    rw [countedOffers, offered_snoc, List.filter_append, List.length_append]
    rfl
  have henqueue : ∀ offer, countedOffers [next] = 1 →
      Counts (steps ++ [next]) (egress.enqueue capacity offer) := by
    intro offer hone
    rw [enqueue]
    split
    · refine ⟨accepted + 1, dropped, by omega, ?_, hdropped⟩
      rw [fetchAdd, haccepted, Nat.mod_add_mod]
    · refine ⟨accepted, dropped + 1, by omega, haccepted, ?_⟩
      rw [fetchAdd, hdropped, Nat.mod_add_mod]
  have hsame : ∀ later : TrajectoryEgress, countedOffers [next] = 0 →
      later.accepted = egress.accepted → later.dropped = egress.dropped →
        Counts (steps ++ [next]) later := by
    intro later hzero hlater hlater'
    exact ⟨accepted, dropped, by omega, hlater.trans haccepted, hlater'.trans hdropped⟩
  cases next with
  | offer offer =>
    cases offer with
    | open_ turn => exact henqueue _ rfl
    | update update => exact henqueue _ rfl
    | close close => exact henqueue _ rfl
    | flush acknowledged =>
      rw [TrajectoryEgress.step, flush]
      split <;> exact hsame _ rfl rfl rfl
  | receive =>
    rw [TrajectoryEgress.step, receive]
    split
    · rename_i offer rest _ _
      refine hsame _ rfl ?_ ?_
      · cases offer with
        | open_ turn => rfl
        | update update => rw [handle]; split <;> rfl
        | close close => rw [handle]; split <;> rfl
        | flush acknowledged => rfl
      · cases offer with
        | open_ turn => rfl
        | update update => rw [handle]; split <;> rfl
        | close close => rw [handle]; split <;> rfl
        | flush acknowledged => rfl
    · exact hsame _ rfl rfl rfl
  | exportEnds ok =>
    rw [TrajectoryEgress.step, exportEnds]
    split
    · exact hsame _ rfl rfl rfl
    · split <;> exact hsame _ rfl rfl rfl

/-- The counters of every run count its offers. -/
theorem counts_run (steps : List EgressStep) : Counts steps (run config capacity steps) := by
  induction steps using List.reverseRecOn with
  | nil => exact ⟨0, 0, rfl, rfl, rfl⟩
  | append_singleton steps next ih =>
    rw [run, runFrom_snoc]
    exact ih.step next

/-- Where each close of a turn that will be in flight is taken, everything that will be in flight is
still to be closed. -/
theorem retains_of_takesClose {steps : List EgressStep}
    (htakes : MeetAlong (TrajectoryEgress.step config capacity) (TakesClose capacity) start steps)
    (id : String) : (run config capacity steps).Retains id → ¬Released id (offered steps) := by
  refine htakes.induction_along
    (fun steps egress => egress.Retains id → ¬Released id (offered steps)) ?_ ?_
  · intro hretains
    exact absurd ((retains_of_empty rfl id).1 hretains) Finmap.notMem_empty
  · intro steps next hnext ih
    cases next with
    | receive =>
      rw [offered_snoc, offered_drain rfl, List.append_nil, retains_drain rfl]
      exact ih
    | exportEnds ok =>
      rw [offered_snoc, offered_drain rfl, List.append_nil, retains_drain rfl]
      exact ih
    | offer offer =>
      have hconcat : offered (steps ++ [.offer offer]) = offered steps ++ [offer] :=
        offered_snoc steps (.offer offer)
      rw [hconcat, not_released_concat]
      by_cases hroom :
          (runFrom (TrajectoryEgress.step config capacity) start steps).HasRoom capacity
      · rw [retains_offer_of_room hroom]
        cases offer with
        | open_ turn => exact Or.imp_left ih
        | update update => exact ih
        | close close => exact And.imp_left ih
        | flush acknowledged => exact ih
      · rw [retains_offer_of_full hroom]
        cases offer with
        | open_ turn => exact fun hretains => .inl (ih hretains)
        | update update => exact ih
        | close close =>
          intro hretains
          refine ⟨ih hretains, ?_⟩
          rintro rfl
          exact (hnext.resolve_left hroom) hretains
        | flush acknowledged => exact ih

/-- Steps of the drain task do not change what will be in flight. -/
theorem retains_idle {idle : List EgressStep} (hdrain : ∀ step ∈ idle, step.isDrain = true)
    (egress : TrajectoryEgress) (id : String) :
    (runFrom (TrajectoryEgress.step config capacity) egress idle).Retains id ↔ egress.Retains id := by
  induction idle generalizing egress with
  | nil => exact Iff.rfl
  | cons step rest ih =>
    obtain ⟨hstep, hrest⟩ := List.forall_mem_cons.1 hdrain
    calc (runFrom _ (TrajectoryEgress.step config capacity step egress) rest).Retains id
      _ ↔ (TrajectoryEgress.step config capacity step egress).Retains id := ih hrest _
      _ ↔ egress.Retains id := retains_drain hstep id

variable (config capacity) in
/-- The drain task can receive everything that is queued. -/
theorem exists_idle (egress : TrajectoryEgress) :
    ∃ idle : List EgressStep, (∀ step ∈ idle, step.isDrain = true) ∧
      (runFrom (TrajectoryEgress.step config capacity) egress idle).offers = [] := by
  induction hoffers : egress.offers generalizing egress with
  | nil => exact ⟨[], List.forall_mem_nil _, hoffers⟩
  | cons offer rest ih =>
    let ready := egress.exportEnds true
    have hready : ready.exporting = none ∧ ready.offers = offer :: rest := by
      dsimp only [ready]
      rw [exportEnds]
      split
      · rename_i hnone
        exact ⟨hnone, hoffers⟩
      · exact ⟨rfl, hoffers⟩
    have hreceived : (ready.receive config).offers = rest := by
      rw [receive, hready.1, hready.2]
      exact offers_handle ..
    obtain ⟨idle, hdrain, hempty⟩ := ih (ready.receive config) hreceived
    refine ⟨.exportEnds true :: .receive :: idle, ?_, hempty⟩
    exact List.forall_mem_cons.2 ⟨rfl, List.forall_mem_cons.2 ⟨rfl, hdrain⟩⟩

/-- A run that ends in steps of the drain task retains what it retained before. -/
theorem retains_run_idle (steps : List EgressStep) {idle : List EgressStep}
    (hdrain : ∀ step ∈ idle, step.isDrain = true) (id : String) :
    (run config capacity (steps ++ idle)).Retains id ↔ (run config capacity steps).Retains id := by
  rw [run, runFrom_append]
  exact retains_idle hdrain _ id

/-- Once nothing is queued, every invocation that was released has left the turns in flight, exactly
if each close of a turn that will be in flight is taken. -/
theorem releasesAll_iff (steps : List EgressStep) :
    ReleasesAll config capacity steps ↔
      MeetAlong (TrajectoryEgress.step config capacity) (TakesClose capacity) start steps := by
  constructor
  · intro hreleases
    induction steps using List.reverseRecOn with
    | nil => trivial
    | append_singleton steps next ih =>
      refine meetAlong_append.2 ⟨ih fun earlier hearlier =>
        hreleases earlier (hearlier.trans (List.prefix_append steps [next])), ?_, trivial⟩
      cases next with
      | receive => trivial
      | exportEnds ok => trivial
      | offer offer =>
        cases offer with
        | open_ turn => trivial
        | update update => trivial
        | flush acknowledged => trivial
        | close close =>
          by_contra hlost
          obtain ⟨hfull, hretains⟩ := not_or.1 hlost
          rw [not_not] at hretains
          let lost := steps ++ [EgressStep.offer (.close close)]
          have hlater : (run config capacity lost).Retains close.invocationId := by
            dsimp only [lost]
            rw [run, runFrom_snoc]
            exact (retains_offer_of_full hfull _).2 hretains
          have hreleased : Released close.invocationId (offered lost) := by
            have hconcat : offered lost = offered steps ++ [.close close] :=
              offered_snoc steps (.offer (.close close))
            rw [hconcat]
            exact not_not.1 fun h => (not_released_concat.1 h).2 rfl
          obtain ⟨idle, hdrain, hempty⟩ := exists_idle config capacity (run config capacity lost)
          have hrun : run config capacity (lost ++ idle) =
              runFrom (TrajectoryEgress.step config capacity) (run config capacity lost) idle :=
            runFrom_append ..
          rw [← hrun] at hempty
          refine hreleases lost List.prefix_rfl idle hdrain hempty _ hreleased ?_
          exact (retains_of_empty hempty _).1 ((retains_run_idle lost hdrain _).2 hlater)
  · intro htakes earlier hearlier idle hdrain hempty id hreleased hmem
    obtain ⟨later, rfl⟩ := hearlier
    have hretains := (retains_run_idle earlier hdrain id).1 ((retains_of_empty hempty id).2 hmem)
    exact retains_of_takesClose (meetAlong_append.1 htakes).1 id hretains hreleased

end

/-! ## The controller -/

/-- A turn that fails between its arming and its start is blocked. -/
def BlocksUnstarted (turn : ManagedTurn) (answers : TurnAnswers) : Prop :=
  validateTurn turn = .ok () → answers.describe = .ok () → answers.arm = .ok () →
    (∀ g < turn.grants, answers.activate g = .ok ()) ∧ answers.start = .ok () ∨
      answers.markUncertain = .ok () ∧ ∃ blocked, answers.block = .ok blocked

/-- The script does not open a trajectory. -/
abbrev NeverOpens {δ α : Type} (x : Script TurnEffect δ α) : Prop :=
  x.EmitsOnly (· ≠ .trajectoryOpened)

/-- The effects close the trajectory. -/
def Closes (effects : List TurnEffect) : Prop := ∃ close, .trajectoryClosed close ∈ effects

section
variable (turn : ManagedTurn) (answers : TurnAnswers)

theorem neverOpens_offer {δ : Type} {effect : TurnEffect} (h : effect ≠ .trajectoryOpened) :
    NeverOpens (offer true effect : Script TurnEffect δ Unit) :=
  .emitAll (List.forall_mem_singleton.2 h)

/-- A drain observes and settles nothing. -/
theorem neverOpens_drainTurn (policy : PermissionPolicy) (fence : ExecutionFence)
    (arrivals : List Arrival) : NeverOpens (drainTurn true policy fence arrivals) := by
  induction arrivals with
  | nil => exact .pure _
  | cons arrival rest ih =>
    have hobserved : ∀ record, NeverOpens (offer true (.trajectoryObserved record) :
        Script TurnEffect TurnDrainError Unit) := fun record => neverOpens_offer (by simp)
    rw [drainTurn]
    split
    · exact .fail _
    · split
      · exact .pure _
      · exact .fail _
      · exact (Script.EmitsOnly.emit (by simp)).bind fun _ => (hobserved _).bind fun _ => ih
    · dsimp only
      split
      · exact .pure _
      · exact .fail _
      · refine (Script.EmitsOnly.emit (by simp)).bind fun _ => (hobserved _).bind fun _ =>
          (Script.EmitsOnly.emit (by simp)).bind fun _ => ?_
        split
        · exact .pure _
        · exact .fail _
        · exact ih
    · exact .fail _
    · exact .fail _
    · split
      · exact .pure _
      · exact .fail _
      · exact (Script.EmitsOnly.emit (by simp)).bind fun _ => .pure _

theorem neverOpens_block (reason : String) : NeverOpens (block true answers reason) :=
  (Script.EmitsOnly.lift _).bind fun _ => (Script.EmitsOnly.emit (by simp)).bind fun _ =>
    (Script.EmitsOnly.lift _).bind fun _ => (Script.EmitsOnly.emit (by simp)).bind fun _ =>
    (neverOpens_offer (by simp)).bind fun _ => .pure _

theorem neverOpens_blockedDrain (reason : String) :
    NeverOpens (blockedDrain true answers reason) :=
  (neverOpens_block answers reason).bind fun _ => .pure _

theorem neverOpens_cancelAndDrain (reason : HostStopReason) :
    NeverOpens (cancelAndDrain true turn answers reason) := by
  refine (Script.EmitsOnly.emit (by simp)).bind fun _ => ?_
  split
  · exact neverOpens_blockedDrain answers _
  · refine (neverOpens_drainTurn _ _ _).attempt_bind fun drained => ?_
    split
    · exact .pure _
    · exact neverOpens_blockedDrain answers _
    · exact neverOpens_blockedDrain answers _

theorem neverOpens_awaitTerminal : NeverOpens (awaitTerminal true turn answers) := by
  refine (neverOpens_drainTurn _ _ _).attempt_bind fun initial => ?_
  split
  · exact .pure _
  · exact neverOpens_blockedDrain answers _
  · exact neverOpens_cancelAndDrain turn answers _

theorem neverOpens_closingOnError {α : Type} (result : Except ManagedTurnError α) :
    NeverOpens (closingOnError true result) := by
  cases result with
  | ok value => exact .pure _
  | error error => exact (neverOpens_offer (by simp)).bind fun _ => .fail _

theorem neverOpens_settleTerminal (evidence : TerminalWithStop) :
    NeverOpens (settleTerminal true turn answers evidence) := by
  rw [settleTerminal]
  split
  · exact (neverOpens_block answers _).bind fun _ => .pure _
  · refine (Script.EmitsOnly.lift _).bind fun _ => (Script.EmitsOnly.emit (by simp)).bind fun _ =>
      (neverOpens_offer (by simp)).bind fun _ => ?_
    split
    · exact .pure _
    · exact .pure _

theorem neverOpens_revokeGrants (count : Nat) : NeverOpens (revokeGrants count) := by
  refine .emitAll fun effect heffect => ?_
  obtain ⟨g, -, rfl⟩ := List.mem_map.1 heffect
  simp

theorem neverOpens_finishTurn : NeverOpens (finishTurn true turn answers) := by
  refine (neverOpens_awaitTerminal turn answers).attempt_bind fun terminalResult =>
    (neverOpens_revokeGrants turn.grants).bind fun _ =>
    (neverOpens_closingOnError terminalResult).bind fun drained => ?_
  split
  · exact .pure _
  · exact (neverOpens_settleTerminal turn answers _).attempt_bind fun settled =>
      neverOpens_closingOnError settled

theorem neverOpens_activateFrom (grant count : Nat) :
    NeverOpens (activateFrom answers grant count) := by
  induction count generalizing grant with
  | zero => exact .pure _
  | succ count ih =>
    rw [activateFrom]
    split
    · exact .pure _
    · exact (Script.EmitsOnly.emit (by simp)).bind fun _ => ih (grant + 1)

/-! ### Closing -/

theorem Closes.append_right {effects : List TurnEffect} (h : Closes effects)
    (before : List TurnEffect) : Closes (before ++ effects) := by
  obtain ⟨close, hclose⟩ := h
  exact ⟨close, List.mem_append_right before hclose⟩

theorem Closes.append_left {effects : List TurnEffect} (h : Closes effects)
    (after : List TurnEffect) : Closes (effects ++ after) := by
  obtain ⟨close, hclose⟩ := h
  exact ⟨close, List.mem_append_left after hclose⟩

/-- A block closes if it is made. -/
theorem block_closes {reason : String} {blocked : BlockedDelivery Value}
    (h : (block true answers reason).result = .ok blocked) :
    Closes (block true answers reason).effects := by
  match hmark : answers.markUncertain, hblock : answers.block with
  | .error error, _ => simp [block, hmark, Except.mapError] at h
  | .ok (), .error error => simp [block, hmark, hblock, Except.mapError] at h
  | .ok (), .ok blocked =>
    refine ⟨.parked (boundedReason reason), ?_⟩
    simp [block, hmark, hblock, Except.mapError, offer, Script.emitAll]

/-- A block is made exactly if both of its calls succeed, and has no close otherwise. -/
theorem block_closes_iff (reason : String) :
    Closes (block true answers reason).effects ↔
      answers.markUncertain = .ok () ∧ ∃ blocked, answers.block = .ok blocked := by
  match hmark : answers.markUncertain, hblock : answers.block with
  | .error error, _ => simp [block, hmark, Except.mapError, Closes]
  | .ok (), .error error => simp [block, hmark, hblock, Except.mapError, Closes]
  | .ok (), .ok blocked =>
    have hmade : (block true answers reason).result = .ok blocked := by
      simp [block, hmark, hblock, Except.mapError]
    exact iff_of_true (block_closes answers hmade) ⟨rfl, blocked, rfl⟩

/-- A failure after the arming closes. -/
theorem closingOnError_closes {α : Type} (error : ManagedTurnError) :
    Closes (closingOnError true (.error error : Except ManagedTurnError α)).effects :=
  ⟨_, List.mem_cons_self⟩

/-- A settlement closes unless it fails. -/
theorem settleTerminal_closes {evidence : TerminalWithStop} {outcome : ManagedTurnOutcome}
    (h : (settleTerminal true turn answers evidence).result = .ok outcome) :
    Closes (settleTerminal true turn answers evidence).effects := by
  rw [settleTerminal] at h ⊢
  by_cases hunsafe : evidence.terminal.executionCertainty = .outcomeUnknown ∨
      evidence.terminal.sessionQuiescent = false
  · rw [if_pos hunsafe] at h ⊢
    rw [Script.effects_bind_pure]
    obtain ⟨blocked, hblocked⟩ := Script.exists_of_bind_pure_ok h
    exact block_closes answers hblocked
  · rw [if_neg hunsafe] at h ⊢
    cases hcomplete : answers.complete with
    | error error =>
      rw [hcomplete] at h
      cases h
    | ok completion => exact ⟨.terminal evidence.terminal, List.mem_cons_of_mem _ List.mem_cons_self⟩

/-- A turn that was started closes, however it ends. -/
theorem finishTurn_closes : Closes (finishTurn true turn answers).effects := by
  rcases hresult : (awaitTerminal true turn answers).result with error | evidence | blocked
  case error =>
    refine ⟨.parked ("managed turn failed after arming: " ++ error.display), ?_⟩
    simp [finishTurn, hresult, closingOnError, revokeGrants, offer, Script.emitAll]
  case ok.blocked =>
    have heffects : (finishTurn true turn answers).effects =
        (awaitTerminal true turn answers).effects ++ deactivations turn.grants := by
      simp [finishTurn, hresult, closingOnError, revokeGrants, deactivations]
    rw [heffects]
    refine Closes.append_left ?_ _
    obtain ⟨-, -, evidence, hterminal⟩ | ⟨-, before, reason, -, hblock, hblocked⟩ :=
      awaitTerminal_spec true turn answers
    · rw [hresult] at hterminal
      cases hterminal
    · rw [hblock]
      obtain ⟨made, hmade⟩ := Script.exists_of_bind_pure_ok (hblocked.symm.trans hresult)
      exact (block_closes answers hmade).append_right before
  case ok.terminal =>
    have heffects : (finishTurn true turn answers).effects =
        (awaitTerminal true turn answers).effects ++ deactivations turn.grants ++
          ((settleTerminal true turn answers evidence).effects ++
            (closingOnError true (settleTerminal true turn answers evidence).result).effects) := by
      simp [finishTurn, hresult, closingOnError, revokeGrants, deactivations]
    rw [heffects]
    refine Closes.append_right ?_ _
    cases hsettled : (settleTerminal true turn answers evidence).result with
    | error error => exact (closingOnError_closes error).append_right _
    | ok outcome => exact (settleTerminal_closes turn answers hsettled).append_left _

/-! ### Turns -/

variable {turn} {answers}

/-- The offers of a turn come from its effects. -/
theorem mem_turnOffers {clock : TurnEffect → Int} {effects : List TurnEffect} {offer : Offer} :
    offer ∈ turnOffers turn clock effects ↔
      ∃ effect ∈ effects, offerOf turn (clock effect) effect = some offer :=
  List.mem_filterMap

/-- A turn that is armed releases its trajectory exactly if one of its effects closes it. -/
theorem released_turnOffers_iff {clock : TurnEffect → Int} {rest : List TurnEffect}
    (hrest : ∀ effect ∈ rest, effect ≠ .trajectoryOpened) :
    Released turn.invocation.id (turnOffers turn clock (.armed :: .trajectoryOpened :: rest)) ↔
      Closes rest := by
  have hopens : ∀ offer ∈ turnOffers turn clock rest, ¬offer.Opens turn.invocation.id := by
    intro offer hoffer hopens
    obtain ⟨effect, heffect, hoffered⟩ := mem_turnOffers.1 hoffer
    refine hrest effect heffect ?_
    cases effect <;> cases hoffered <;> first | rfl | exact hopens.elim
  have hcloses : (∃ close ∈ turnOffers turn clock rest, close.Closes turn.invocation.id) ↔
      Closes rest := by
    constructor
    · rintro ⟨offer, hoffer, hcloses⟩
      obtain ⟨effect, heffect, hoffered⟩ := mem_turnOffers.1 hoffer
      cases effect with
      | trajectoryClosed close => exact ⟨close, heffect⟩
      | _ => cases hoffered <;> exact hcloses.elim
    · rintro ⟨close, hclose⟩
      refine ⟨.close (.of turn.invocation.id (clock (.trajectoryClosed close)) close),
        mem_turnOffers.2 ⟨_, hclose, rfl⟩, ?_⟩
      cases close <;> rfl
  calc Released turn.invocation.id (turnOffers turn clock (.armed :: .trajectoryOpened :: rest))
    _ ↔ (∃ close ∈ turnOffers turn clock rest, close.Closes turn.invocation.id) ∧
        Released turn.invocation.id (turnOffers turn clock rest) :=
      and_congr_left' (forall_prop_of_true rfl)
    _ ↔ ∃ close ∈ turnOffers turn clock rest, close.Closes turn.invocation.id :=
      and_iff_left (released_of_forall_not_opens hopens)
    _ ↔ Closes rest := hcloses

/-- Activations and revocations close nothing. -/
theorem not_closes_grants (activated revoked : Nat) (requests : List StartTurn) :
    ¬Closes (activations 0 activated ++ requests.map .startRequested ++ deactivations revoked) := by
  rintro ⟨close, hclose⟩
  simp [mem_activations, mem_deactivations] at hclose

theorem closes_append {effects after : List TurnEffect} (h : ¬Closes effects) :
    Closes (effects ++ after) ↔ Closes after := by
  constructor
  · rintro ⟨close, hclose⟩
    exact ⟨close, (List.mem_append.1 hclose).resolve_left fun hmem => h ⟨close, hmem⟩⟩
  · exact fun hafter => hafter.append_right effects

/-- What a turn does once it is armed. -/
def afterArm (turn : ManagedTurn) (answers : TurnAnswers) :
    Script TurnEffect ManagedTurnError ManagedTurnOutcome := do
  let failed ← activateFrom answers 0 turn.grants
  match failed with
  | some (activated, error) =>
    revokeGrants activated
    blockAfterArm true answers ("invocation grant activation failed: " ++ error)
  | none =>
    .emit (.startRequested (startTurnRequest turn))
    match answers.start with
    | .error error =>
      revokeGrants turn.grants
      blockAfterArm true answers ("turn start failed: " ++ error.display)
    | .ok () => finishTurn true turn answers

/-- A turn that is armed closes exactly if it is started or its block is made. -/
theorem afterArm_closes_iff :
    Closes (afterArm turn answers).effects ↔
      (∀ g < turn.grants, answers.activate g = .ok ()) ∧ answers.start = .ok () ∨
        answers.markUncertain = .ok () ∧ ∃ blocked, answers.block = .ok blocked := by
  obtain ⟨hall, hactivate⟩ | ⟨n, error, hn, hfail, hactivate⟩ :=
    activateFrom_spec answers 0 turn.grants
  · match hstart : answers.start with
    | .error error =>
      have heffects : (afterArm turn answers).effects =
          activations 0 turn.grants ++ [startTurnRequest turn].map .startRequested ++
            deactivations turn.grants ++
            (block true answers ("turn start failed: " ++ error.display)).effects := by
        simp [afterArm, hactivate, hstart, revokeGrants, deactivations, blockAfterArm_effects]
      rw [heffects, closes_append (not_closes_grants _ _ _), block_closes_iff]
      exact (or_iff_right fun h => by cases h.2).symm
    | .ok () =>
      have heffects : (afterArm turn answers).effects =
          activations 0 turn.grants ++ .startRequested (startTurnRequest turn) ::
            (finishTurn true turn answers).effects := by
        simp [afterArm, hactivate, hstart]
      have hcloses : Closes (afterArm turn answers).effects := by
        rw [heffects]
        exact Closes.append_right ((finishTurn_closes turn answers).append_right [_]) _
      exact iff_of_true hcloses (.inl ⟨fun g hg => hall g (Nat.zero_le g) (by omega), rfl⟩)
  · have heffects : (afterArm turn answers).effects =
        activations 0 n ++ ([] : List StartTurn).map .startRequested ++ deactivations (0 + n) ++
          (block true answers ("invocation grant activation failed: " ++ error)).effects := by
      simp [afterArm, hactivate, revokeGrants, deactivations, blockAfterArm_effects]
    rw [heffects, closes_append (not_closes_grants _ _ _), block_closes_iff]
    refine (or_iff_right fun h => hfail (h.1 _ ?_)).symm
    omega

variable (turn answers) in
theorem neverOpens_afterArm : NeverOpens (afterArm turn answers) := by
  refine (neverOpens_activateFrom answers 0 turn.grants).bind fun failed => ?_
  split
  · exact (neverOpens_revokeGrants _).bind fun _ => (neverOpens_block answers _).bind fun _ => .pure _
  · refine (Script.EmitsOnly.emit (by simp)).bind fun _ => ?_
    split
    · exact (neverOpens_revokeGrants _).bind fun _ => (neverOpens_block answers _).bind fun _ => .pure _
    · exact neverOpens_finishTurn turn answers

/-- A turn releases its trajectory exactly if it is blocked when it fails before its start. -/
theorem runTurn_released_iff (clock : TurnEffect → Int) :
    Released turn.invocation.id (turnOffers turn clock (runTurn true turn answers).effects) ↔
      BlocksUnstarted turn answers := by
  match hvalid : validateTurn turn, hdescribe : answers.describe, harm : answers.arm with
  | .error error, _, _ =>
    have heffects : (runTurn true turn answers).effects = [] := by simp [runTurn, hvalid]
    rw [heffects]
    refine iff_of_true trivial fun h => ?_
    rw [hvalid] at h
    cases h
  | .ok (), .error error, _ =>
    have heffects : (runTurn true turn answers).effects = [] := by
      simp [runTurn, hvalid, hdescribe, Except.mapError]
    rw [heffects]
    refine iff_of_true trivial fun _ h => ?_
    rw [hdescribe] at h
    cases h
  | .ok (), .ok (), .error error =>
    have heffects : (runTurn true turn answers).effects = [] := by
      simp [runTurn, hvalid, hdescribe, harm, Except.mapError]
    rw [heffects]
    refine iff_of_true trivial fun _ _ h => ?_
    rw [harm] at h
    cases h
  | .ok (), .ok (), .ok () =>
    have heffects : (runTurn true turn answers).effects =
        .armed :: .trajectoryOpened :: (afterArm turn answers).effects := by
      simp only [runTurn, hvalid, hdescribe, harm, Except.mapError, Script.lift_ok_bind,
        Script.emit_bind, offer_bind]
      rfl
    rw [heffects, released_turnOffers_iff (neverOpens_afterArm turn answers), afterArm_closes_iff,
      BlocksUnstarted, forall_prop_of_true hvalid, forall_prop_of_true hdescribe,
      forall_prop_of_true harm]

end

/-! ## Both halves -/

/-- A turn releases its trajectory exactly if it is blocked when it fails between its arming and its
start. The counters of the sink count its offers; it releases what was released exactly if each close
of a turn that will be in flight is taken, and nothing is then left in flight once every turn was
released and nothing is queued. -/
theorem trajectories_released [Sha256] (turn : ManagedTurn) (answers : TurnAnswers)
    (clock : TurnEffect → Int) (config : EgressConfig) (capacity : Nat) (steps : List EgressStep) :
    (Released turn.invocation.id (turnOffers turn clock (runTurn true turn answers).effects) ↔
      BlocksUnstarted turn answers) ∧
    Counts steps (TrajectoryEgress.run config capacity steps) ∧
    (ReleasesAll config capacity steps ↔
      MeetAlong (TrajectoryEgress.step config capacity) (TrajectoryEgress.TakesClose capacity)
        .start steps) ∧
    (MeetAlong (TrajectoryEgress.step config capacity) (TrajectoryEgress.TakesClose capacity)
        .start steps →
      (TrajectoryEgress.run config capacity steps).offers = [] →
        (∀ id, Released id (offered steps)) →
          (TrajectoryEgress.run config capacity steps).inFlight = ∅) := by
  refine ⟨runTurn_released_iff clock, counts_run steps, releasesAll_iff steps,
    fun htakes hempty hreleased => ?_⟩
  apply Finmap.ext_lookup
  intro id
  rw [Finmap.lookup_empty, Finmap.lookup_eq_none]
  intro hmem
  have hretains := (TrajectoryEgress.retains_of_empty hempty id).2 hmem
  exact retains_of_takesClose htakes id hretains (hreleased id)

/-- The turn cannot be started, and the store does not answer when it is to be marked. -/
def refusedStart : TurnAnswers :=
  { lostHarness with
    start := .error (.protocol "plugin stdout closed")
    markUncertain := .error (.database "disk I/O error") }

/-- A queue of one offer is still full of the update when the turn is closed. -/
def fullQueue : List EgressStep :=
  [.offer (.open_ sampleOwnedTurn), .receive, .offer (.update (sampleToolUpdate "t")),
    .offer (.close sampleOwnedClose), .receive]

/-- A turn whose block is refused is never closed, and a turn whose close is dropped stays in flight
although it was closed and nothing is queued. -/
theorem trajectory_retained :
    ¬Released sampleManagedTurn.invocation.id (turnOffers sampleManagedTurn (fun _ => 0)
      (runTurn true sampleManagedTurn refusedStart).effects) ∧
    (TrajectoryEgress.run sampleEgress 1 fullQueue).offers = [] ∧
    (∀ id, Released id (offered fullQueue)) ∧
    sampleOwnedTurn.invocationId ∈ (TrajectoryEgress.run sampleEgress 1 fullQueue).inFlight := by
  refine ⟨?_, rfl, ?_, ?_⟩
  · rw [runTurn_released_iff]
    intro h
    obtain ⟨-, hstart⟩ | ⟨hmark, -⟩ := h (by decide) rfl rfl
    · cases hstart
    · cases hmark
  · intro id
    simp [fullQueue, offered, Released, Offer.Opens, Offer.Closes, sampleOwnedTurn, sampleOwnedClose]
  · have hflight : (TrajectoryEgress.run sampleEgress 1 fullQueue).inFlight =
        ((∅ : Finmap fun _ : String => InFlight).insert "i" (InFlight.open_ sampleOwnedTurn)).insert
          "i" ((InFlight.open_ sampleOwnedTurn).observe sampleEgress (sampleToolUpdate "t")) := rfl
    rw [hflight, Finmap.mem_insert]
    exact .inl rfl

end Fleetd.Otlp
