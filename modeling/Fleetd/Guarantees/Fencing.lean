import Fleetd.System.Reachable

/-!
# Session ownership

Controllers race for the lanes of an agent. Each lane has one current generation at a time,
generations are numbered in order, and the owner of a generation changes only by adopting a
ready session under the next epoch. A call that presents an older generation or an older
epoch changes nothing.
-/

namespace Fleetd

open Relational Relational.Transaction

variable {Json : Type}

/-! ## Owners change by adoption only -/

/-- A binding whose owner did not change. -/
structure SameOwner (row row' : SessionBinding) : Prop where
  epoch : row'.ownerEpoch = row.ownerEpoch
  instanceId : row'.ownerInstanceId = row.ownerInstanceId

/-- A ready session that was taken over with its native reference. -/
structure Adopted (row row' : SessionBinding) : Prop where
  ready : row.state.isReady = true
  epoch : row'.ownerEpoch = row.ownerEpoch + 1
  sessionRef : row'.state.sessionRef = row.state.sessionRef
  state : row'.state = row.state

/-- Every generation is new under its first epoch, or kept its owner. -/
def KeepsOwners (l l' : Ledger) : Prop :=
  ∀ row' ∈ l'.sessionBindings,
    (row'.ownerEpoch = 1 ∧ row'.key ∉ l.sessionBindings.map SessionBinding.key) ∨
      ∃ row ∈ l.sessionBindings, row'.key = row.key ∧ SameOwner row row'

section Owners

variable {l l' l'' : Ledger} {a : Action}

theorem KeepsOwners.of_eq (h : l'.sessionBindings = l.sessionBindings) : KeepsOwners l l' :=
  fun row hrow => .inr ⟨row, h ▸ hrow, rfl, rfl, rfl⟩

/-- A rewritten binding that keeps its owner. -/
theorem KeepsOwners.of_replaceRow {row row' : SessionBinding} (hrow : row ∈ l.sessionBindings)
    (h : l'.sessionBindings = replaceRow row row' l.sessionBindings) (hkey : row'.key = row.key)
    (hown : SameOwner row row') : KeepsOwners l l' := by
  intro x hx
  rw [h] at hx
  rcases mem_replaceRow.mp hx with ⟨rfl, _⟩ | ⟨hx, _⟩
  · exact .inr ⟨row, hrow, hkey, hown⟩
  · exact .inr ⟨x, hx, rfl, rfl, rfl⟩

/-- One change of the bindings after another. -/
theorem KeepsOwners.trans (h : KeepsOwners l l') (hev : l.Evolves l') (h' : KeepsOwners l' l'') :
    KeepsOwners l l'' := by
  intro z hz
  rcases h' z hz with ⟨hone, hnew⟩ | ⟨y, hy, hzy, hown⟩
  · refine .inl ⟨hone, fun hmem => hnew ?_⟩
    exact hev.sessionBindings.mem_map (fun _ _ hxy => hxy.key) hmem
  · rcases h y hy with ⟨hone, hnew⟩ | ⟨x, hx, hyx, hown'⟩
    · exact .inl ⟨hown.epoch.trans hone, by rw [hzy]; exact hnew⟩
    · exact .inr ⟨x, hx, hzy.trans hyx, hown.epoch.trans hown'.epoch,
        hown.instanceId.trans hown'.instanceId⟩

/-- Every move but an adoption keeps the owners. -/
theorem Consistent.keepsOwners_move (h : Consistent l) (hm : Move a l l') (ha : a ≠ .adopt) :
    KeepsOwners l l' := by
  cases hm with
  | found row _ hepoch hgen _ hlane =>
    intro x hx
    rcases List.mem_append.mp hx with hx | hx
    · exact .inr ⟨x, hx, rfl, rfl, rfl⟩
    · rw [List.mem_singleton.mp hx]
      refine .inl ⟨hepoch, fun hmem => ?_⟩
      obtain ⟨other, hother, hkey⟩ := List.mem_map.mp hmem
      exact h.toLanesConsistent.key_new hgen hlane other hother hkey
  | adopt row owner now _ _ => exact absurd rfl ha
  | opened row ref now hrow _ => exact .of_replaceRow hrow rfl rfl ⟨rfl, rfl⟩
  | activate row t i now hrow _ _ _ _ _ _ _ _ _ _ => exact .of_replaceRow hrow rfl rfl ⟨rfl, rfl⟩
  | fence row t reason now hrow _ _ _ _ => exact .of_replaceRow hrow rfl rfl ⟨rfl, rfl⟩
  | retire row reason now stranding hrow _ _ _ => exact .of_replaceRow hrow rfl rfl ⟨rfl, rfl⟩
  | complete d d' i t row now seq persistence _ _ _ _ _ _ _ _ _ _ _ hrow _ _ =>
    exact .of_replaceRow hrow rfl rfl ⟨rfl, rfl⟩
  | _ => exact .of_eq rfl

/-- Moves in a row that adopt nothing keep the owners. -/
theorem Consistent.keepsOwners_moves {permits : Action → Prop} (h : Consistent l)
    (hm : Moves permits l l') (hp : ¬ permits .adopt) : KeepsOwners l l' := by
  have hall : KeepsOwners l l' ∧ l.Evolves l' ∧ Consistent l' :=
    hm.preserve (P := fun x => KeepsOwners l x ∧ l.Evolves x ∧ Consistent x)
      (fun a x y ha hmove ⟨hk, hev, hc⟩ =>
        ⟨hk.trans hev (hc.keepsOwners_move hmove fun heq => hp (heq ▸ ha)),
          hev.trans (hc.evolves hmove), hc.move hmove⟩)
      ⟨.of_eq rfl, .refl l, h⟩
  exact hall.1

end Owners

/-- What one command does to the owner of a generation. -/
structure OwnerStep (c : Command Json) (row row' : SessionBinding) : Prop where
  key : row'.key = row.key
  owner : SameOwner row row' ∨ c.isAcquisition = true ∧ Adopted row row'

section Commands

variable [DecidableEq Json] [SerdeJson Json] [Sha256] {minted : List String} {s : Store}

/-- An acquisition adopts one ready session, or adopts nothing. -/
theorem Acquires.owners {t : Store} (hc : Consistent s.toLedger) (h : Acquires s t) :
    KeepsOwners s.toLedger t.toLedger ∨
      ∃ row ∈ s.sessionBindings, ∃ row', row'.key = row.key ∧ Adopted row row' ∧
        t.sessionBindings = replaceRow row row' s.sessionBindings := by
  cases h with
  | kept store => exact .inl (.of_eq (by rw [store]))
  | founded row founds =>
    have hadv : Advances (· = Action.internal) s t := founds.advances rfl
    exact .inl (hc.keepsOwners_moves hadv.moves fun hf => by cases hf)
  | rotated old row reason now mid hold hidle hmid founds =>
    have hadv : Advances (· ≠ Action.adopt) mid t := founds.advances fun hf => by cases hf
    have hretire : Advances (· ≠ Action.adopt) s mid := by
      rw [hmid]
      exact .single (fun hf => by cases hf) (retire_idle_move hold hidle reason now)
    exact .inl (hc.keepsOwners_moves (hretire.trans hadv).moves fun hf => hf rfl)
  | adopted row owner now hrow hready store =>
    exact .inr ⟨row, hrow, adoptedColumns (row.ownerEpoch + 1) owner now row, rfl,
      ⟨hready, rfl, rfl, rfl⟩, by rw [store]⟩

/-- Every generation after a command is new under its first epoch or comes from one before. -/
theorem Command.step_owners (hinv : Invariant minted s) {c : Command Json}
    (hfresh : ∀ leaseToken ∈ c.leaseTokens, leaseToken ∉ minted) :
    ∀ row' ∈ (c.step s).sessionBindings,
      (row'.ownerEpoch = 1 ∧ row'.key ∉ s.sessionBindings.map SessionBinding.key) ∨
        ∃ row ∈ s.sessionBindings, OwnerStep c row row' := by
  intro row' hrow'
  have hkept : KeepsOwners s.toLedger (c.step s).toLedger →
      (row'.ownerEpoch = 1 ∧ row'.key ∉ s.sessionBindings.map SessionBinding.key) ∨
        ∃ row ∈ s.sessionBindings, OwnerStep c row row' := fun h =>
    (h row' hrow').imp id fun ⟨row, hrow, hkey, hown⟩ => ⟨row, hrow, hkey, .inl hown⟩
  cases hacq : c.isAcquisition with
  | false =>
    refine hkept (hinv.ledger.keepsOwners_moves (c.step_effect hinv hfresh).moves fun hp => ?_)
    rw [Command.permits, hacq] at hp
    cases hp
  | true =>
    rcases c.step_cases s with ⟨u, hok⟩ | hsame
    · obtain ⟨_, _, _, _, rfl⟩ : ∃ agentId input now freshBindingId,
          c = .acquireSessionBinding agentId input now freshBindingId := by
        cases c <;> first | exact ⟨_, _, _, _, rfl⟩ | cases hacq
      obtain ⟨_, h⟩ := discard_ok hok
      rcases (acquireSessionBinding_ok hinv.ledger h).owners hinv.ledger with
        hkeep | ⟨row, hrow, new, hkey, hadopt, hstore⟩
      · exact hkept hkeep
      · rw [hstore] at hrow'
        rcases mem_replaceRow.mp hrow' with ⟨rfl, _⟩ | ⟨hold, _⟩
        · exact .inr ⟨row, hrow, hkey, .inr ⟨rfl, hadopt⟩⟩
        · exact .inr ⟨row', hold, rfl, .inl ⟨rfl, rfl⟩⟩
    · exact hkept (.of_eq (by rw [hsame]))

/-- Every generation before a command has its successor after it. -/
theorem Command.step_owner (hinv : Invariant minted s) {c : Command Json}
    (hfresh : ∀ leaseToken ∈ c.leaseTokens, leaseToken ∉ minted) {row : SessionBinding}
    (hrow : row ∈ s.sessionBindings) :
    ∃ row' ∈ (c.step s).sessionBindings, OwnerStep c row row' := by
  have hmoves := (c.step_effect hinv hfresh).moves
  obtain ⟨row', hrow', hev⟩ := (hinv.ledger.evolves_moves hmoves).sessionBindings.mem hrow
  refine ⟨row', hrow', ?_⟩
  rcases Command.step_owners hinv hfresh row' hrow' with ⟨_, hnew⟩ | ⟨other, hother, hstep⟩
  · exact absurd (List.mem_map.mpr ⟨row, hrow, hev.key.symm⟩) hnew
  · rw [hinv.ledger.bindingKeys.eq hrow hother (hev.key.symm.trans hstep.key)]
    exact hstep

/-! ## Stale callers -/

/-- The session fence that a call presents. -/
def Command.presented : Command Json → Option Binding
  | .recordSessionOpened _ binding _ _ => some binding
  | .armSessionInvocation _ _ binding _ _ _ _ => some binding
  | .completeSessionInvocation _ _ binding _ _ _ _ _ => some binding
  | .markSessionInvocationUncertain _ _ binding _ _ => some binding
  | .retireSessionBinding _ binding _ _ => some binding
  | _ => none

/-- A fence names the current generation of its lane under its current epoch. A generation
with a later one in its lane is retired, so it is not current. -/
def IsCurrent (s : Store) (binding : Binding) : Prop :=
  ∃ row ∈ s.sessionBindings, row.key = (binding.bindingId, binding.bindingGeneration) ∧
    row.ownerEpoch = binding.ownerEpoch ∧ row.state.isRetired = false

/-- A call that succeeds presents a current fence or changes nothing. -/
theorem Command.presented_ok (hinv : Invariant minted s) {c : Command Json} {binding : Binding}
    (hpres : c.presented = some binding) {u : Unit} {t : Store} (h : c.exec s = .ok (u, t)) :
    t = s ∨ IsCurrent s binding := by
  have hc := hinv.ledger
  cases c with
  | recordSessionOpened agentId b sessionRef now =>
    obtain rfl := Option.some.inj hpres
    obtain ⟨_, h⟩ := discard_ok h
    rcases recordSessionOpened_ok h with hsame | ⟨row, hrow, hopening, _⟩
    · exact .inl hsame
    · exact .inr ⟨row, hrow.mem, hrow.key, hrow.epoch, by rw [hopening]; rfl⟩
  | armSessionInvocation agentId invocationId b sessionRef generationId input now =>
    obtain rfl := Option.some.inj hpres
    obtain ⟨_, h⟩ := discard_ok h
    have hany : ∀ permits : Action → Prop, permits .internal → ∃ row,
        Presents s agentId b row ∧ row.state.isRetired = false := fun permits hp =>
      (armSessionInvocation_ok hp hc h).1
    obtain ⟨row, hrow, hcurrent⟩ := hany (fun _ => True) trivial
    exact .inr ⟨row, hrow.mem, hrow.key, hrow.epoch, hcurrent⟩
  | completeSessionInvocation agentId invocationId b persistence input now resultId resultNow =>
    obtain rfl := Option.some.inj hpres
    obtain ⟨_, h⟩ := discard_ok h
    rcases completeSessionInvocation_ok hc hinv.log h with
      ⟨hsame, _⟩ | ⟨i, _, _, _, _, row, _, _, _, _, _, hrow, hkey, hepoch, _, hon, _⟩
    · exact .inl hsame
    · exact .inr ⟨row, hrow, hkey, hepoch, SessionBindingState.not_isRetired_of_isActive
        (SessionBindingState.isActive_of_isActiveOn hon)⟩
  | markSessionInvocationUncertain agentId invocationId b reason now =>
    obtain rfl := Option.some.inj hpres
    obtain ⟨_, h⟩ := discard_ok h
    rcases markSessionInvocationUncertain_ok hc h with
      hsame | ⟨_, _, row, hrow, _, _, _, hon, _⟩
    · exact .inl hsame
    · exact .inr ⟨row, hrow.mem, hrow.key, hrow.epoch,
        SessionBindingState.not_isRetired_of_isActive
          (SessionBindingState.isActive_of_isActiveOn hon)⟩
  | retireSessionBinding agentId b reason now =>
    obtain rfl := Option.some.inj hpres
    obtain ⟨_, h⟩ := discard_ok h
    rcases retireSessionBinding_ok h with hsame | ⟨row, hrow, _, hcurrent, _⟩
    · exact .inl hsame
    · exact .inr ⟨row, hrow.mem, hrow.key, hrow.epoch, hcurrent⟩
  | _ => cases hpres

/-- A call that presents a stale fence changes nothing, whatever it returns. -/
theorem Command.stale_step_eq (hinv : Invariant minted s) {c : Command Json} {binding : Binding}
    (hpres : c.presented = some binding) (hstale : ¬ IsCurrent s binding) : c.step s = s := by
  rcases c.step_cases s with ⟨_, hok⟩ | hsame
  · rcases c.presented_ok hinv hpres hok with hsame | hcurrent
    · exact hsame
    · exact absurd hcurrent hstale
  · exact hsame

/-! ## Whole runs -/

/-- What holds of the sessions after a run, and of every command that comes next. -/
structure OwnershipFenced (cs : List (Command Json)) : Prop where
  current : ∀ row ∈ (run cs).sessionBindings, ∀ other ∈ (run cs).sessionBindings,
    row.lane = other.lane → row.state.isRetired = false → other.state.isRetired = false →
    row = other
  identity : ∀ row ∈ (run cs).sessionBindings, ∀ other ∈ (run cs).sessionBindings,
    row.lane = other.lane ↔ row.bindingId = other.bindingId
  generations : ∀ lane, (laneRows lane (run cs).sessionBindings).map (·.bindingGeneration) =
    List.range' 1 (laneRows lane (run cs).sessionBindings).length
  superseded : ∀ row ∈ (run cs).sessionBindings, ∀ other ∈ (run cs).sessionBindings,
    row.lane = other.lane → row.bindingGeneration < other.bindingGeneration →
    row.state.isRetired = true
  born : ∀ c : Command Json, Fresh (cs ++ [c]) → ∀ row ∈ (run (cs ++ [c])).sessionBindings,
    row.key ∉ (run cs).sessionBindings.map SessionBinding.key → row.ownerEpoch = 1
  owner : ∀ c : Command Json, Fresh (cs ++ [c]) → ∀ row ∈ (run cs).sessionBindings,
    ∃ row' ∈ (run (cs ++ [c])).sessionBindings, OwnerStep c row row'
  stale : ∀ (c : Command Json) binding, c.presented = some binding →
    ¬ IsCurrent (run cs) binding → c.step (run cs) = run cs

/-- After every run with fresh lease tokens, sessions are fenced by generation and epoch. -/
theorem run_ownershipFenced {cs : List (Command Json)} (h : Fresh cs) : OwnershipFenced cs where
  current row hrow other hother hlane hr ho :=
    have hc := (run_invariant h).ledger
    hc.toLanesConsistent.current_unique hc.bindingKeys hrow hother hlane hr ho
  identity := (run_invariant h).ledger.binding
  generations := (run_invariant h).ledger.generations
  superseded := (run_invariant h).ledger.superseded
  born c hc row hrow hnew := by
    rw [run_snoc] at hrow
    rcases Command.step_owners (run_invariant h) (fun _ ht => hc.not_mem ht) row hrow with
      ⟨hone, _⟩ | ⟨old, hold, hstep⟩
    · exact hone
    · exact absurd (List.mem_map.mpr ⟨old, hold, hstep.key.symm⟩) hnew
  owner c hc row hrow := by
    rw [run_snoc]
    exact Command.step_owner (run_invariant h) (fun _ ht => hc.not_mem ht) hrow
  stale c binding hpres hstale := Command.stale_step_eq (run_invariant h) hpres hstale

end Commands

/-- The sample's session is adopted by a second controller. -/
theorem run_ownershipFenced_sampleReserved :
    let cs : List (Command Bool) :=
      sampleReserved ++ [.acquireSessionBinding "b" (sampleLane "o2") 8 "B2"]
    Fresh cs ∧ OwnershipFenced cs :=
  ⟨by decide, run_ownershipFenced (by decide)⟩

end Fleetd
