import Fleetd.Refinement.Completion

/-!
# Session calls are moves

Acquiring a lane keeps its current generation, founds the next one, or adopts a ready one;
a rotation retires an idle generation and founds its successor in the same step. Opening,
arming, fencing and retiring rewrite the one generation the caller presents.
-/

namespace Fleetd

open Relational Relational.Transaction

variable {Json : Type} {s t : Store} {permits : Action → Prop}

/-! ## Founding a generation -/

/-- A lane gets its next generation. -/
structure Founds (s t : Store) (row : SessionBinding) : Prop where
  store : t = { s with sessionBindings := s.sessionBindings ++ [row] }
  opening : row.state = .opening
  epoch : row.ownerEpoch = 1
  generation : row.bindingGeneration = (laneRows row.lane s.sessionBindings).length + 1
  superseded : ∀ other ∈ s.sessionBindings, other.lane = row.lane → other.state.isRetired = true
  lane : ∀ other ∈ s.sessionBindings, other.lane = row.lane ↔ other.bindingId = row.bindingId

/-- Founding a generation is a move. -/
theorem Founds.advances {row : SessionBinding} (h : Founds s t row) (hp : permits .internal) :
    Advances permits s t := by
  rw [h.store]
  exact .single hp (.found row h.opening h.epoch h.generation h.superseded h.lane)

/-- The row of a new generation. -/
def AcquireSessionBinding.row (input : AcquireSessionBinding) (bindingId : String)
    (generation : Nat) (agentId : String) (now : Int) : SessionBinding where
  bindingId := bindingId
  bindingGeneration := generation
  agentId := agentId
  lanePolicy := input.lanePolicy
  laneKey := input.laneKey
  ownerEpoch := 1
  ownerInstanceId := input.ownerInstanceId
  profileDigest := input.profileDigest
  compatibilityDigest := input.compatibilityDigest
  workingDirectory := input.workingDirectory
  additionalDirectories := input.additionalDirectories
  state := .opening
  lastQuiescentInvocationId := none
  sessionPersistence := none
  createdAtMs := now
  updatedAtMs := now

section Found

variable {agentId bindingId : String} {generation : Nat} {input : AcquireSessionBinding} {now : Int}
  {result : SessionAcquisition}

/-- An insert adds its row, whose key is new and whose lane has no current generation. -/
theorem insertBinding_ok
    (h : insertBinding bindingId generation agentId input now s = .ok (result, t)) :
    (t = { s with
      sessionBindings := s.sessionBindings ++ [input.row bindingId generation agentId now] }) ∧
    ∀ other ∈ s.sessionBindings, other.key ≠ (bindingId, generation) ∧
      (other.lane = (agentId, input.lanePolicy, input.laneKey) →
        other.state.isRetired = true) := by
  simp only [insertBinding, bindingByIdentity, bind_ok, check_ok, read_ok, ensure_ok, write_ok,
    pure_ok, Prod.mk.injEq] at h
  obtain ⟨gen, _, ⟨hgen, rfl⟩, _, _, ⟨rfl, rfl⟩, _, _, ⟨hnew, rfl⟩, _, _, ⟨_, rfl⟩, _, _, hread, _,
    rfl⟩ := h
  obtain ⟨rfl, _⟩ := exactBindingRow_ok hread
  obtain ⟨rfl, _⟩ := asI64_ok hgen
  refine ⟨rfl, fun other hother => ⟨(hnew other hother).1, fun hlane => ?_⟩⟩
  by_contra hcurrent
  rw [Bool.not_eq_true] at hcurrent
  exact (hnew other hother).2.2 ⟨hlane, hcurrent⟩

/-- The first generation of a lane. -/
theorem Founds.first (hc : Consistent s.toLedger)
    (hlane : ∀ other ∈ s.sessionBindings, other.lane ≠ (agentId, input.lanePolicy, input.laneKey))
    (h : insertBinding bindingId 1 agentId input now s = .ok (result, t)) :
    Founds s t (input.row bindingId 1 agentId now) := by
  obtain ⟨hstore, hnew⟩ := insertBinding_ok h
  refine ⟨hstore, rfl, rfl, ?_, fun other hother hl => absurd hl (hlane other hother),
    fun other hother => ⟨fun hl => absurd hl (hlane other hother), fun hid => ?_⟩⟩
  · have hnone : laneRows (input.row bindingId 1 agentId now).lane s.sessionBindings = [] :=
      List.filter_eq_nil_iff.mpr fun other hother hl =>
        hlane other hother (of_decide_eq_true hl)
    rw [hnone]
    rfl
  · -- a lane under this identifier would have its own first generation
    obtain ⟨hpos, hle⟩ := hc.generation_mem hother
    obtain ⟨first, hfirst, hfl, hfg⟩ := hc.exists_generation le_rfl (hpos.trans hle)
    have hfid : first.bindingId = bindingId :=
      ((hc.binding first hfirst other hother).mp hfl).trans hid
    exact absurd (Prod.ext hfid hfg) (hnew first hfirst).1

/-- The generation after the last one of a lane. -/
theorem Founds.next (hc : Consistent s.toLedger) {last : SessionBinding}
    (hlast : last ∈ s.sessionBindings)
    (hlane : last.lane = (agentId, input.lanePolicy, input.laneKey))
    (hgen : last.bindingGeneration = (laneRows last.lane s.sessionBindings).length)
    (h : insertBinding last.bindingId (last.bindingGeneration + 1) agentId input now s =
      .ok (result, t)) :
    Founds s t (input.row last.bindingId (last.bindingGeneration + 1) agentId now) := by
  obtain ⟨hstore, hnew⟩ := insertBinding_ok h
  refine ⟨hstore, rfl, rfl, ?_, fun other hother => (hnew other hother).2, fun other hother => ?_⟩
  · rw [show (input.row last.bindingId (last.bindingGeneration + 1) agentId now).lane = last.lane from
      hlane.symm, ← hgen]
    rfl
  · rw [show (input.row last.bindingId (last.bindingGeneration + 1) agentId now).lane = last.lane from
      hlane.symm]
    exact hc.binding other hother last hlast

/-- The later of two generations is one of them and not before either. -/
theorem foldl_laterBinding (rows : List SessionBinding) (best : SessionBinding) :
    rows.foldl laterBinding best ∈ best :: rows ∧
      ∀ row ∈ best :: rows, row.bindingGeneration ≤ (rows.foldl laterBinding best).bindingGeneration := by
  induction rows generalizing best with
  | nil => exact ⟨List.mem_cons_self .., fun row hrow => by rw [List.mem_singleton.mp hrow]; rfl⟩
  | cons row rest ih =>
    obtain ⟨hmem, hle⟩ := ih (laterBinding best row)
    have hlater : laterBinding best row = best ∨ laterBinding best row = row := by
      unfold laterBinding
      split
      · exact .inr rfl
      · exact .inl rfl
    have hbest : best.bindingGeneration ≤ (laterBinding best row).bindingGeneration ∧
        row.bindingGeneration ≤ (laterBinding best row).bindingGeneration := by
      unfold laterBinding
      split <;> constructor <;> omega
    have hacc := hle _ (List.mem_cons_self ..)
    rw [List.foldl_cons]
    refine ⟨?_, fun x hx => ?_⟩
    · rcases List.mem_cons.mp hmem with hm | hm
      · rw [hm]
        rcases hlater with hl | hl <;> rw [hl] <;> simp
      · exact List.mem_cons_of_mem _ (List.mem_cons_of_mem _ hm)
    · rcases List.mem_cons.mp hx with rfl | hx
      · exact hbest.1.trans hacc
      · rcases List.mem_cons.mp hx with rfl | hx
        · exact hbest.2.trans hacc
        · exact hle x (List.mem_cons_of_mem _ hx)

/-- The latest generation of a lane carries the number of its generations. -/
theorem latestBindingRow_some {l : Ledger} (hc : Consistent l) {lane : String × String × String}
    {row : SessionBinding} (h : latestBindingRow lane l.sessionBindings = some row) :
    row ∈ l.sessionBindings ∧ row.lane = lane ∧
      row.bindingGeneration = (laneRows lane l.sessionBindings).length := by
  unfold latestBindingRow at h
  split at h
  · cases h
  · rename_i first rest hrows
    cases h
    obtain ⟨hmem, hle⟩ := foldl_laterBinding rest first
    have hlr : laneRows lane l.sessionBindings = first :: rest := hrows
    rw [← hlr] at hmem hle
    obtain ⟨hrow, hlane⟩ := mem_laneRows.mp hmem
    refine ⟨hrow, hlane, ?_⟩
    obtain ⟨hpos, hbound⟩ := hc.generation_mem hrow
    rw [hlane] at hbound
    obtain ⟨top, htop, htl, htg⟩ := hc.exists_generation (hpos.trans hbound)
      (Nat.le_refl (laneRows lane l.sessionBindings).length)
    have := hle top (mem_laneRows.mpr ⟨htop, htl⟩)
    omega

theorem nextGeneration_ok {next : Nat} (h : nextGeneration generation = .ok next) :
    next = generation + 1 := by
  unfold nextGeneration at h
  split at h <;> cases h
  rfl

theorem nextEpoch_ok {epoch next : Nat} (h : nextEpoch epoch = .ok next) : next = epoch + 1 := by
  unfold nextEpoch at h
  split at h <;> cases h
  rfl

/-- A lane with no current generation gets its next one. -/
theorem insertAfterLatestRetired_ok (hc : Consistent s.toLedger)
    (h : insertAfterLatestRetired agentId input now bindingId s = .ok (result, t)) :
    ∃ row, Founds s t row := by
  simp only [insertAfterLatestRetired, bind_ok, read_ok] at h
  obtain ⟨latest, _, ⟨hlatest, rfl⟩, h⟩ := h
  cases latest with
  | none =>
    refine ⟨_, Founds.first hc (fun other hother hlane => ?_) h⟩
    unfold latestBindingRow at hlatest
    split at hlatest
    · rename_i hrows
      exact absurd (List.filter_eq_nil_iff.mp hrows other hother) (by simpa using hlane)
    · cases hlatest
  | some latest =>
    simp only [bind_ok, ensure_ok, check_ok] at h
    obtain ⟨_, _, ⟨_, rfl⟩, _, _, ⟨hgen, rfl⟩, h⟩ := h
    obtain ⟨hrow, hlane, hcount⟩ := latestBindingRow_some hc hlatest
    rw [nextGeneration_ok hgen] at h
    exact ⟨_, Founds.next hc hrow hlane (by rw [hlane]; exact hcount) h⟩

end Found

/-! ## Acquisition -/

/-- What acquiring a lane does. -/
inductive Acquires (s t : Store) : Prop
  | kept (store : t = s)
  | founded (row : SessionBinding) (founds : Founds s t row)
  | rotated (old row : SessionBinding) (reason : String) (now : Int) (mid : Store)
      (binding : old ∈ s.sessionBindings) (idle : old.state.isIdle = true)
      (retired : mid = { s with
        sessionBindings := replaceRow old (retiredColumns reason now old) s.sessionBindings })
      (founds : Founds mid t row)
  | adopted (row : SessionBinding) (ownerInstanceId : String) (now : Int)
      (binding : row ∈ s.sessionBindings) (ready : row.state.isReady = true)
      (store : t = { s with
        sessionBindings := replaceRow row
          (adoptedColumns (row.ownerEpoch + 1) ownerInstanceId now row) s.sessionBindings })

/-- An idle generation may be retired, and no invocation is left behind. -/
theorem retire_idle_move {l : Ledger} {row : SessionBinding} (hrow : row ∈ l.sessionBindings)
    (hidle : row.state.isIdle = true) (reason : String) (now : Int) :
    Move (.retire false) l { l with
      sessionBindings := replaceRow row (retiredColumns reason now row) l.sessionBindings } := by
  obtain ⟨hactive, hretired, huncertain⟩ : row.state.isActive = false ∧
      row.state.isRetired = false ∧ ∀ id, row.state.isUncertainOn id = false := by
    cases hs : row.state <;> rw [hs] at hidle <;>
      first | exact ⟨rfl, rfl, fun _ => rfl⟩ | cases hidle
  refine .retire row reason now false hrow hactive hretired fun _ i _ hu => ?_
  rw [huncertain] at hu
  cases hu

/-- An acquisition is a sequence of moves. -/
theorem Acquires.advances (h : Acquires s t) (hp : permits .internal) (hp' : permits .adopt)
    (hp'' : permits (.retire false)) : Advances permits s t := by
  cases h with
  | kept store =>
    rw [store]
    exact .refl s
  | founded row founds => exact founds.advances hp
  | rotated old row reason now mid hold hidle hmid founds =>
    refine Advances.trans ?_ (founds.advances hp)
    rw [hmid]
    exact .single hp'' (retire_idle_move hold hidle reason now)
  | adopted row owner now hrow hready store =>
    rw [store]
    exact .single hp' (.adopt row owner now hrow hready)

section Acquire

variable {agentId freshBindingId : String} {input : AcquireSessionBinding} {now : Int}
  {result : SessionAcquisition} {existing : SessionBinding}

/-- A rotation retires the current generation and founds the next one. -/
theorem rotateBinding_ok (hc : Consistent s.toLedger) (hmem : existing ∈ s.sessionBindings)
    (hlane : existing.lane = (agentId, input.lanePolicy, input.laneKey))
    (hcurrent : existing.state.isRetired = false) {reason : String}
    (h : rotateBinding existing agentId input now reason s = .ok (result, t)) : Acquires s t := by
  simp only [rotateBinding, bind_ok, check_ok] at h
  obtain ⟨fence, _, ⟨hfence, rfl⟩, _, _, ⟨hgen, rfl⟩, _, mid, hupd, hinsert⟩ := h
  obtain rfl := ownerFence_new_ok hfence
  obtain ⟨row, hrow, hkey, _, _, hidle, hmid⟩ := OwnerFence.update_ok hupd
  obtain rfl : row = existing := hc.bindingKeys.eq hrow hmem hkey
  rw [nextGeneration_ok hgen] at hinsert
  have hmove := retire_idle_move (l := s.toLedger) hrow hidle reason now
  have hcm : Consistent mid.toLedger := by
    rw [hmid]
    exact hc.move hmove
  -- the retired row has the identity of the current one
  have hold : retiredColumns reason now row ∈ mid.sessionBindings := by
    rw [hmid]
    exact mem_replaceRow.mpr (.inl ⟨rfl, hrow⟩)
  have hcount : (retiredColumns reason now row).bindingGeneration =
      (laneRows (retiredColumns reason now row).lane mid.sessionBindings).length := by
    have hlen : (laneRows row.lane mid.sessionBindings).length =
        (laneRows row.lane s.sessionBindings).length := by
      have hlanes : mid.sessionBindings.map SessionBinding.lane =
          s.sessionBindings.map SessionBinding.lane := by
        rw [hmid]
        exact map_updateWhere fun x _ hx => by rw [of_decide_eq_true hx]; rfl
      have hcountP : ∀ rows : List SessionBinding, (laneRows row.lane rows).length =
          (rows.map SessionBinding.lane).countP fun lane => decide (lane = row.lane) := fun rows => by
        rw [List.countP_map, laneRows, ← List.countP_eq_length_filter]
        rfl
      rw [hcountP, hcountP, hlanes]
    exact (hc.generation_of_current hrow hcurrent).trans hlen.symm
  exact .rotated row _ reason now mid hrow hidle hmid (Founds.next hcm hold hlane hcount hinsert)

/-- An adoption takes over a ready generation under the next epoch. -/
theorem adoptBinding_ok (hc : Consistent s.toLedger) (hmem : existing ∈ s.sessionBindings)
    {ownerInstanceId : String}
    (h : adoptBinding existing ownerInstanceId now s = .ok (result, t)) : Acquires s t := by
  simp only [adoptBinding, bindingByIdentity, bind_ok, check_ok, require_ok, pure_ok] at h
  obtain ⟨fence, _, ⟨hfence, rfl⟩, _, _, ⟨hepoch, rfl⟩, _, _, ⟨hepoch', rfl⟩, _, _, hupd, _, _, hread,
    _, _, ⟨_, rfl⟩, _, rfl⟩ := h
  obtain rfl := ownerFence_new_ok hfence
  obtain ⟨row, hrow, hkey, _, _, hready, rfl⟩ := OwnerFence.update_ok hupd
  obtain rfl : row = existing := hc.bindingKeys.eq hrow hmem hkey
  obtain ⟨rfl, _⟩ := exactBindingRow_ok hread
  obtain ⟨rfl, _⟩ := asI64_ok hepoch'
  refine .adopted row ownerInstanceId now hrow hready ?_
  rw [nextEpoch_ok hepoch]

/-- Acquiring a lane keeps, founds, rotates or adopts. -/
theorem acquireSessionBinding_ok (hc : Consistent s.toLedger)
    (h : acquireSessionBinding agentId input now freshBindingId s = .ok (result, t)) :
    Acquires s t := by
  simp only [acquireSessionBinding, bind_ok, check_ok, read_ok] at h
  obtain ⟨_, _, ⟨_, rfl⟩, _, _, hagent, current, _, ⟨hcurrent, rfl⟩, h⟩ := h
  obtain rfl := ensureAgent_ok hagent
  cases current with
  | none =>
    obtain ⟨row, hfounds⟩ := insertAfterLatestRetired_ok hc h
    exact .founded row hfounds
  | some existing =>
    have hmem : existing ∈ s.sessionBindings := List.mem_of_find?_eq_some hcurrent
    have hfind := List.find?_some hcurrent
    simp only [decide_eq_true_eq, Bool.not_eq_true] at hfind
    obtain ⟨hlane, hnot⟩ := hfind
    by_cases hown : existing.ownerInstanceId = input.ownerInstanceId
    · simp only [acquireExisting, if_pos hown, bind_ok, ensure_ok, check_ok] at h
      obtain ⟨_, _, ⟨_, rfl⟩, _, rfl⟩ := h
      exact .kept rfl
    · simp only [acquireExisting, if_neg hown] at h
      cases hs : existing.state with
      | opening =>
        simp only [hs] at h
        exact rotateBinding_ok hc hmem hlane hnot h
      | ready ref opened =>
        simp only [hs] at h
        split at h
        · exact adoptBinding_ok hc hmem h
        · exact rotateBinding_ok hc hmem hlane hnot h
      | active => simp only [hs, fail_ok] at h
      | uncertain => simp only [hs, fail_ok] at h
      | retired => simp only [hs, fail_ok] at h

end Acquire

/-! ## The life of a generation -/

section Life

variable {agentId invocationId : String} {binding : Binding} {now : Int}

/-- The generation a caller presents, current in its epoch. -/
structure Presents (s : Store) (agentId : String) (binding : Binding) (row : SessionBinding) :
    Prop where
  mem : row ∈ s.sessionBindings
  key : row.key = (binding.bindingId, binding.bindingGeneration)
  agent : row.agentId = agentId
  epoch : row.ownerEpoch = binding.ownerEpoch

/-- Two generations presented by one binding are the same row. -/
theorem Presents.eq (hc : SessionsConsistent s.toLedger) {row row' : SessionBinding}
    (h : Presents s agentId binding row) (h' : Presents s agentId binding row') : row = row' :=
  hc.bindingKeys.eq h.mem h'.mem (h.key.trans h'.key.symm)

/-- A fenced update rewrites the generation its fence presents. -/
theorem ownerFence_update_presents {fence : OwnerFence} {state : SessionBindingState → Bool}
    {set : SessionBinding → SessionBinding} {message : String} {u : Unit}
    (hfence : OwnerFence.new agentId binding = .ok fence)
    (h : fence.update state set message s = .ok (u, t)) :
    ∃ row, Presents s agentId binding row ∧ state row.state = true ∧
      t = { s with sessionBindings := replaceRow row (set row) s.sessionBindings } := by
  obtain rfl := ownerFence_new_ok hfence
  obtain ⟨row, hrow, hkey, hagent, hepoch, hstate, hstore⟩ := OwnerFence.update_ok h
  exact ⟨row, ⟨hrow, hkey, hagent, hepoch⟩, hstate, hstore⟩

/-- Recording the native reference opens the presented generation or finds it recorded. -/
theorem recordSessionOpened_ok {sessionRef : String} {result : SessionBinding}
    (h : recordSessionOpened agentId binding sessionRef now s = .ok (result, t)) :
    t = s ∨ ∃ row, Presents s agentId binding row ∧ row.state = .opening ∧
      t = { s with
        sessionBindings := replaceRow row (openedColumns sessionRef now row) s.sessionBindings } := by
  simp only [recordSessionOpened, bindingByIdentity, bind_ok, check_ok] at h
  obtain ⟨_, _, ⟨_, rfl⟩, _, _, ⟨_, rfl⟩, fence, _, ⟨hfence, rfl⟩, row, _, hrow, _, _, ⟨_, rfl⟩, h⟩ := h
  obtain ⟨rfl, _⟩ := exactBindingRow_ok hrow
  cases hs : row.state with
  | opening =>
    simp only [hs, bind_ok] at h
    obtain ⟨_, _, hupd, hread⟩ := h
    obtain ⟨rfl, _⟩ := exactBindingRow_ok hread
    obtain ⟨row', hpres, hstate, hstore⟩ := ownerFence_update_presents hfence hupd
    refine .inr ⟨row', hpres, ?_, hstore⟩
    cases hs' : row'.state <;> rw [hs'] at hstate <;> first | rfl | cases hstate
  | ready ref opened =>
    simp only [hs, bind_ok, ensure_ok] at h
    obtain ⟨_, _, ⟨_, rfl⟩, hread⟩ := h
    exact .inl (exactBindingRow_ok hread).1.symm
  | active =>
    simp only [hs, bind_ok, fail_ok] at h
    obtain ⟨_, _, hfalse, _⟩ := h
    exact hfalse.elim
  | uncertain =>
    simp only [hs, bind_ok, fail_ok] at h
    obtain ⟨_, _, hfalse, _⟩ := h
    exact hfalse.elim
  | retired =>
    simp only [hs, bind_ok, fail_ok] at h
    obtain ⟨_, _, hfalse, _⟩ := h
    exact hfalse.elim

/-- Recording the native reference is a move. -/
theorem recordSessionOpened_advances {sessionRef : String} {result : SessionBinding}
    (hp : permits .internal)
    (h : recordSessionOpened agentId binding sessionRef now s = .ok (result, t)) :
    Advances permits s t := by
  rcases recordSessionOpened_ok h with rfl | ⟨row, hpres, hopening, rfl⟩
  · exact .refl _
  · exact .single hp (.opened row sessionRef now hpres.mem hopening)

/-- Fencing a turn rewrites the turn in flight and the presented generation. -/
theorem markTurnUncertain_ok {reason : String} {u : Unit}
    (h : markTurnUncertain agentId invocationId binding reason now s = .ok (u, t)) :
    ∃ turn ∈ s.sessionBindingTurns, ∃ row, Presents s agentId binding row ∧
      turn.invocationId = invocationId ∧ turn.state = .active ∧
      row.state.isActiveOn invocationId = true ∧
      t = { s with
        sessionBindingTurns :=
          replaceRow turn { turn with state := .uncertain now reason } s.sessionBindingTurns
        sessionBindings := replaceRow row (uncertainColumns reason now row) s.sessionBindings } := by
  simp only [markTurnUncertain, bind_ok, check_ok] at h
  obtain ⟨_, _, hupd, fence, _, ⟨hfence, rfl⟩, hrow⟩ := h
  obtain ⟨turn, hturn, hid, hactive, rfl⟩ := updateActiveTurn_ok hupd
  obtain ⟨row, hpres, hon, rfl⟩ := ownerFence_update_presents hfence hrow
  exact ⟨turn, hturn, row, ⟨hpres.mem, hpres.key, hpres.agent, hpres.epoch⟩, hid, hactive, hon, rfl⟩

/-- Fencing an invocation finds it fenced or fences it under the presented generation. -/
theorem markSessionInvocationUncertain_ok (hc : Consistent s.toLedger) {reason : String}
    {result : SessionBinding}
    (h : markSessionInvocationUncertain agentId invocationId binding reason now s =
      .ok (result, t)) :
    t = s ∨ ∃ turn ∈ s.sessionBindingTurns, ∃ row, Presents s agentId binding row ∧
      turn.invocationId = invocationId ∧ turn.bindingKey = row.key ∧ turn.state = .active ∧
      row.state.isActiveOn invocationId = true ∧
      t = { s with
        sessionBindingTurns :=
          replaceRow turn { turn with state := .uncertain now reason } s.sessionBindingTurns
        sessionBindings := replaceRow row (uncertainColumns reason now row) s.sessionBindings } := by
  simp only [markSessionInvocationUncertain, bindingByIdentity, bind_ok, check_ok] at h
  obtain ⟨_, _, ⟨_, rfl⟩, _, _, ⟨_, rfl⟩, _, _, hvalid, row, _, hrow, h⟩ := h
  obtain ⟨rfl, turn, hturn, hid, hkey, _⟩ := validateBoundTurn_ok hvalid
  obtain ⟨rfl, _⟩ := exactBindingRow_ok hrow
  cases hs : row.state with
  | uncertain ref opened active why =>
    simp only [hs, bind_ok, ensure_ok] at h
    obtain ⟨_, _, ⟨_, rfl⟩, hread⟩ := h
    exact .inl (exactBindingRow_ok hread).1.symm
  | active ref opened active =>
    simp only [hs, bind_ok] at h
    obtain ⟨_, _, hmark, hread⟩ := h
    obtain ⟨rfl, _⟩ := exactBindingRow_ok hread
    obtain ⟨turn', hturn', row', hpres, hid', hactive, hon, hstore⟩ := markTurnUncertain_ok hmark
    obtain rfl := hc.turnIds.eq hturn' hturn (hid'.trans hid.symm)
    exact .inr ⟨turn', hturn', row', hpres, hid', hkey.trans hpres.key.symm, hactive, hon, hstore⟩
  | opening =>
    simp only [hs, bind_ok, fail_ok] at h
    obtain ⟨_, _, hfalse, _⟩ := h
    exact hfalse.elim
  | ready =>
    simp only [hs, bind_ok, fail_ok] at h
    obtain ⟨_, _, hfalse, _⟩ := h
    exact hfalse.elim
  | retired =>
    simp only [hs, bind_ok, fail_ok] at h
    obtain ⟨_, _, hfalse, _⟩ := h
    exact hfalse.elim

/-- Fencing an invocation is a move. -/
theorem markSessionInvocationUncertain_advances (hp : permits .internal)
    (hc : Consistent s.toLedger) {reason : String} {result : SessionBinding}
    (h : markSessionInvocationUncertain agentId invocationId binding reason now s =
      .ok (result, t)) : Advances permits s t := by
  rcases markSessionInvocationUncertain_ok hc h with
    rfl | ⟨turn, hturn, row, hpres, hid, hkey, hactive, hon, rfl⟩
  · exact .refl _
  · exact .single hp (.fence row turn reason now hpres.mem hturn hkey (by rw [hid]; exact hon) hactive)

/-- Retiring finds the generation retired or retires the presented one. -/
theorem retireSessionBinding_ok {reason : String} {result : SessionBinding}
    (h : retireSessionBinding agentId binding reason now s = .ok (result, t)) :
    t = s ∨ ∃ row, Presents s agentId binding row ∧ row.state.isActive = false ∧
      row.state.isRetired = false ∧
      t = { s with
        sessionBindings := replaceRow row (retiredColumns reason now row) s.sessionBindings } := by
  simp only [retireSessionBinding, bindingByIdentity, bind_ok, check_ok] at h
  obtain ⟨_, _, ⟨_, rfl⟩, _, _, ⟨_, rfl⟩, fence, _, ⟨hfence, rfl⟩, row, _, hrow, _, _, ⟨_, rfl⟩, h⟩ := h
  obtain ⟨rfl, _⟩ := exactBindingRow_ok hrow
  cases hs : row.state with
  | active =>
    simp only [hs, bind_ok, fail_ok] at h
    obtain ⟨_, _, hfalse, _⟩ := h
    exact hfalse.elim
  | retired ref opened why stored at_ =>
    simp only [hs, bind_ok, ensure_ok] at h
    obtain ⟨_, _, ⟨_, rfl⟩, hread⟩ := h
    exact .inl (exactBindingRow_ok hread).1.symm
  | _ =>
    simp only [hs, bind_ok] at h
    obtain ⟨_, _, hupd, hread⟩ := h
    obtain ⟨rfl, _⟩ := exactBindingRow_ok hread
    obtain ⟨row', hpres, hstate, hstore⟩ := ownerFence_update_presents hfence hupd
    rw [Bool.and_eq_true, Bool.not_eq_true', Bool.not_eq_true'] at hstate
    exact .inr ⟨row', hpres, hstate.1, hstate.2, hstore⟩

/-- Retiring is a move, which may leave an armed invocation behind. -/
theorem retireSessionBinding_advances {reason : String} {result : SessionBinding}
    (hp : permits (.retire true)) (h : retireSessionBinding agentId binding reason now s =
      .ok (result, t)) : Advances permits s t := by
  rcases retireSessionBinding_ok h with rfl | ⟨row, hpres, hidle, hcurrent, rfl⟩
  · exact .refl _
  · exact .single hp (.retire row reason now true hpres.mem hidle hcurrent fun hfalse => by
      cases hfalse)

/-! ## Arming under a session -/

/-- A turn as it is started. -/
def newTurn (invocationId : String) (binding : Binding) (now : Int) : SessionBindingTurn where
  invocationId := invocationId
  bindingId := binding.bindingId
  bindingGeneration := binding.bindingGeneration
  ownerEpoch := binding.ownerEpoch
  state := .active
  startedAtMs := now

/-- Activating finds the turn in flight under the same fence or starts one on a ready
generation. -/
theorem activateBindingTurn_ok {u : Unit}
    (h : activateBindingTurn agentId invocationId binding now s = .ok (u, t)) :
    t = s ∨ ∃ row, Presents s agentId binding row ∧ row.state.isReady = true ∧
      (∀ other ∈ s.sessionBindingTurns, other.invocationId ≠ invocationId) ∧
      t = { s with
        sessionBindingTurns := s.sessionBindingTurns ++ [newTurn invocationId binding now]
        sessionBindings := replaceRow row (activeColumns invocationId now row) s.sessionBindings } := by
  simp only [activateBindingTurn, bind_ok, check_ok, read_ok] at h
  obtain ⟨fence, _, ⟨hfence, rfl⟩, existing, _, ⟨hexisting, rfl⟩, h⟩ := h
  cases existing with
  | some turn =>
    simp only [ensure_ok] at h
    exact .inl h.2.symm
  | none =>
    simp only [bind_ok, write_ok, Prod.mk.injEq] at h
    obtain ⟨_, _, ⟨_, rfl⟩, hupd⟩ := h
    obtain ⟨row, hpres, hready, rfl⟩ := ownerFence_update_presents hfence hupd
    obtain rfl := ownerFence_new_ok hfence
    refine .inr ⟨row, ⟨hpres.mem, hpres.key, hpres.agent, hpres.epoch⟩, hready,
      fun other hother hid => ?_, rfl⟩
    exact absurd (List.find?_eq_none.mp hexisting other hother) (by simp [hid])

/-- A new observation of a turn. -/
def newObservation (invocationId generationId : String) (binding : Binding) (now : Int) :
    InvocationObservation where
  invocationId := invocationId
  generationId := generationId
  bindingId := binding.bindingId
  bindingGeneration := binding.bindingGeneration
  ownerEpoch := binding.ownerEpoch
  startedAtMs := now
  updatedAtMs := now
  firstEventAtMs := none
  lastEventAtMs := none
  eventCount := 0
  observedPayloadBytes := 0
  lastEventSeq := 0
  lastEventDigest := none
  eventChainDigest := none
  counts := {}
  terminal := none

/-- Beginning an observation adds its row. -/
theorem beginInvocationObservation_ok {generationId : String} {u : Unit}
    (h : beginInvocationObservation agentId invocationId generationId binding now s = .ok (u, t)) :
    (∀ o ∈ s.invocationObservations, o.invocationId ≠ invocationId) ∧
      t = { s with
        invocationObservations :=
          s.invocationObservations ++ [newObservation invocationId generationId binding now] } := by
  simp only [beginInvocationObservation, bind_ok, check_ok, read_ok, ensure_ok, write_ok,
    Prod.mk.injEq] at h
  obtain ⟨_, _, ⟨_, rfl⟩, _, _, ⟨_, rfl⟩, _, _, ⟨rfl, rfl⟩, _, _, ⟨_, rfl⟩, _, _, ⟨hnew, rfl⟩, _,
    rfl⟩ := h
  exact ⟨hnew, rfl⟩

/-- Arming under a session arms the attempt, activates the presented generation and begins
the observation. -/
theorem armSessionInvocation_ok [SerdeJson Json] (hp : permits .internal)
    (hc : Consistent s.toLedger) {sessionRef generationId : String} {input : ArmInvocation}
    {result : BoundInvocation Json}
    (h : armSessionInvocation agentId invocationId binding sessionRef generationId input now s =
      .ok (result, t)) :
    (∃ row, Presents s agentId binding row ∧ row.state.isRetired = false) ∧
    (∀ o ∈ s.invocationObservations, o.invocationId ≠ invocationId) ∧
    ∃ mid, Advances permits s mid ∧
      t = { mid with
        invocationObservations :=
          s.invocationObservations ++ [newObservation invocationId generationId binding now] } := by
  simp only [armSessionInvocation, bindingByIdentity, bind_ok, check_ok, pure_ok] at h
  obtain ⟨_, _, ⟨hvalid, rfl⟩, _, _, ⟨_, rfl⟩, row, _, hrow, _, _, ⟨howner, rfl⟩, _, _, ⟨_, rfl⟩, _, _,
    ⟨hactivation, rfl⟩, _, armed, harm, _, mid, hactivate, _, _, hbegin, _, _, hread, _, rfl⟩ := h
  obtain ⟨rfl, hr, hkey, hagent⟩ := exactBindingRow_ok hrow
  obtain ⟨rfl, _⟩ := exactBindingRow_ok hread
  have hadv : Advances permits s mid := by
    obtain ⟨hadv, _, _, i, hi, hid, hia, harmed⟩ := armInvocationTransaction_advances hp hc harm
    refine hadv.trans ?_
    rcases activateBindingTurn_ok hactivate with
      rfl | ⟨row', hpres, hready, hnew, rfl⟩
    · exact .refl _
    · exact .single hp (.activate row' (newTurn invocationId binding now) i now hpres.mem hready rfl hpres.key.symm hpres.epoch.symm
        hvalid hi hid harmed (hia.trans hpres.agent.symm) hnew)
  obtain ⟨hnew, rfl⟩ := beginInvocationObservation_ok hbegin
  have hobs : mid.invocationObservations = s.invocationObservations := by rw [hadv.frame]
  rw [hobs] at hnew ⊢
  refine ⟨⟨row, ⟨hr, hkey, hagent, (validateOwner_ok howner).2⟩, ?_⟩, hnew, mid, hadv, rfl⟩
  unfold validateBindingActivation at hactivation
  cases hs : row.state <;> rw [hs] at hactivation <;> first | rfl | cases hactivation

end Life

end Fleetd
