import Fleetd.System.Reachable

/-!
# What a command can do to the evidence tables

One inversion for each of the two tables. A row that is not settled may be rewritten by the
commands that report about it; a settled row is never written again, and the command that
settles a row gives it its clock.
-/

namespace Fleetd

open Relational Relational.Transaction

variable {Json : Type} [DecidableEq Json] [SerdeJson Json] [Sha256]

/-- What a successful command does to the observations. -/
inductive ObservationChange (c : Command Json) (s t : Store) : Prop
  | same (silent : ∀ generationId invocationId eventSeq observedAtMs classification raw now,
        c ≠ .recordInvocationEvent generationId invocationId eventSeq observedAtMs classification raw
          now)
      (rows : t.invocationObservations = s.invocationObservations)
  | begun (agentId invocationId generationId : String) (binding : Binding) (sessionRef : String)
      (input : ArmInvocation) (now : Int)
      (command : c = .armSessionInvocation agentId invocationId binding sessionRef generationId input
        now)
      (new : ∀ o ∈ s.invocationObservations, o.invocationId ≠ invocationId)
      (rows : t.invocationObservations =
        s.invocationObservations ++ [newObservation invocationId generationId binding now])
  | repeated (o : InvocationObservation) (eventSeq : Nat) (observedAtMs : Int)
      (classification : String) (raw : Json) (now : Int)
      (command : c = .recordInvocationEvent o.generationId o.invocationId eventSeq observedAtMs
        classification raw now)
      (row : o ∈ s.invocationObservations) (isOpen : o.terminal = none)
      (last : eventSeq = o.lastEventSeq) (positive : 0 < eventSeq)
      (rows : t.invocationObservations = s.invocationObservations)
  | folded (o : InvocationObservation) (eventSeq : Nat) (observedAtMs : Int)
      (classification : String) (raw : Json) (now : Int)
      (command : c = .recordInvocationEvent o.generationId o.invocationId eventSeq observedAtMs
        classification raw now)
      (row : o ∈ s.invocationObservations) (isOpen : o.terminal = none)
      (next : eventSeq = nextSeq o.lastEventSeq) (moved : eventSeq ≠ o.lastEventSeq)
      (fits : eventSeq ≤ i64Max) (positive : 0 < observedAtMs)
      (rows : t.invocationObservations = replaceRow o
        ((foldOf o eventSeq observedAtMs classification raw).columns now o) s.invocationObservations)
  | ended (o : InvocationObservation) (terminal : TurnTerminal Json) (evidence : TerminalEvidence)
      (now : Int) (command : c = .recordInvocationTerminal o.generationId terminal now)
      (named : o.invocationId = terminal.invocationId)
      (row : o ∈ s.invocationObservations) (isOpen : o.terminal = none)
      (rows : t.invocationObservations =
        replaceRow o { o with updatedAtMs := now, terminal := some evidence } s.invocationObservations)

/-- What a successful command does to the generations. -/
inductive GenerationChange (c : Command Json) (s t : Store) : Prop
  | same (rows : t.pluginGenerations = s.pluginGenerations)
  | recorded (g : PluginGeneration) (active : g.stopped = none)
      (rows : t.pluginGenerations = s.pluginGenerations ++ [g])
  | touched (generationId : String) (now : Int)
      (rows : t.pluginGenerations = Fleetd.touched generationId now s.pluginGenerations)
  | stopped (generationId : String) (stop : StopPluginGeneration) (now : Int)
      (command : c = .stopPluginGeneration generationId stop now)
      (rows : t.pluginGenerations = stoppedRows generationId stop now s.pluginGenerations)

variable {s t : Store} {minted : List String}

/-- Every successful command changes the observations in one of these ways. -/
theorem Command.observationChange (hinv : Invariant minted s) {c : Command Json} {u : Unit}
    (hfresh : ∀ leaseToken ∈ c.leaseTokens, leaseToken ∉ minted)
    (h : c.exec s = .ok (u, t)) : ObservationChange c s t := by
  have hsame := (c.effect hinv hfresh h).observed
  have hinternal : c.permits .internal := trivial
  cases c with
  | recordInvocationEvent generationId invocationId eventSeq observedAtMs classification raw now =>
    obtain ⟨o, ho, rfl, rfl, hopen, hpos, hle, hat, _, ⟨rfl, hlast⟩ | ⟨hnext, hne, rfl⟩⟩ :=
      recordInvocationEvent_ok h
    · exact .repeated o eventSeq observedAtMs classification raw now rfl ho hopen hlast hpos rfl
    · exact .folded o eventSeq observedAtMs classification raw now rfl ho hopen hnext hne hle hat rfl
  | recordInvocationTerminal generationId terminal now =>
    obtain ⟨o, ho, hid, rfl, rfl | ⟨hopen, evidence, rfl⟩⟩ :=
      recordInvocationTerminal_ok hinv.evidence h
    · exact .same (fun _ _ _ _ _ _ _ heq => by cases heq) rfl
    · exact .ended o terminal evidence now rfl hid ho hopen rfl
  | armSessionInvocation agentId invocationId binding sessionRef generationId input now =>
    obtain ⟨_, h⟩ := discard_ok h
    obtain ⟨_, hnew, mid, _, rfl⟩ := armSessionInvocation_ok hinternal hinv.ledger h
    exact .begun agentId invocationId generationId binding sessionRef input now rfl hnew rfl
  | recordPluginGeneration generation now =>
    obtain ⟨_, h⟩ := discard_ok h
    obtain ⟨_, rfl⟩ := recordPluginGeneration_ok h
    exact .same (fun _ _ _ _ _ _ _ heq => by cases heq) rfl
  | heartbeatPluginGeneration generationId now =>
    rw [heartbeatPluginGeneration_ok h]
    exact .same (fun _ _ _ _ _ _ _ heq => by cases heq) rfl
  | stopPluginGeneration generationId stop now =>
    obtain ⟨_, h⟩ := discard_ok h
    rw [stopPluginGeneration_ok h]
    exact .same (fun _ _ _ _ _ _ _ heq => by cases heq) rfl
  | _ =>
    rcases hsame with hobserves | hsame
    · cases hobserves
    · exact .same (fun _ _ _ _ _ _ _ heq => by cases heq) hsame.1

/-- Every successful command changes the generations in one of these ways. -/
theorem Command.generationChange (hinv : Invariant minted s) {c : Command Json} {u : Unit}
    (hfresh : ∀ leaseToken ∈ c.leaseTokens, leaseToken ∉ minted)
    (h : c.exec s = .ok (u, t)) : GenerationChange c s t := by
  have hsame := (c.effect hinv hfresh h).observed
  have hinternal : c.permits .internal := trivial
  cases c with
  | recordInvocationEvent generationId invocationId eventSeq observedAtMs classification raw now =>
    obtain ⟨o, _, _, _, _, _, _, _, _, ⟨rfl, _⟩ | ⟨_, _, rfl⟩⟩ := recordInvocationEvent_ok h
    · exact .same rfl
    · exact .touched generationId now rfl
  | recordInvocationTerminal generationId terminal now =>
    obtain ⟨o, _, _, _, rfl | ⟨_, _, rfl⟩⟩ := recordInvocationTerminal_ok hinv.evidence h
    · exact .same rfl
    · exact .touched generationId now rfl
  | armSessionInvocation agentId invocationId binding sessionRef generationId input now =>
    obtain ⟨_, h⟩ := discard_ok h
    obtain ⟨_, _, mid, hadv, rfl⟩ := armSessionInvocation_ok hinternal hinv.ledger h
    refine .same ?_
    rw [hadv.frame]
  | recordPluginGeneration generation now =>
    obtain ⟨_, h⟩ := discard_ok h
    obtain ⟨_, rfl⟩ := recordPluginGeneration_ok h
    exact .recorded _ rfl rfl
  | heartbeatPluginGeneration generationId now =>
    rw [heartbeatPluginGeneration_ok h]
    exact .touched generationId now rfl
  | stopPluginGeneration generationId stop now =>
    obtain ⟨_, h⟩ := discard_ok h
    rw [stopPluginGeneration_ok h]
    exact .stopped generationId stop now rfl rfl
  | _ =>
    rcases hsame with hobserves | hsame
    · cases hobserves
    · exact .same hsame.2

/-! ## Settled rows -/

variable {c : Command Json}

/-- A settled observation is never written again. -/
theorem Command.step_observation_kept (hinv : Invariant minted s)
    (hfresh : ∀ leaseToken ∈ c.leaseTokens, leaseToken ∉ minted) {o : InvocationObservation}
    (ho : o ∈ s.invocationObservations) (hterm : o.terminal.isSome = true) :
    o ∈ (c.step s).invocationObservations := by
  have hother : ∀ x : InvocationObservation, x.terminal = none → o ≠ x := by
    rintro x hx rfl
    rw [hx] at hterm
    cases hterm
  rcases c.step_cases s with ⟨_, hok⟩ | hsame
  · cases c.observationChange hinv hfresh hok with
    | same silent rows => exact rows ▸ ho
    | begun agentId invocationId generationId binding sessionRef input now command new rows =>
      exact rows ▸ List.mem_append_left _ ho
    | repeated x eventSeq observedAtMs classification raw now command row isOpen last positive rows =>
      exact rows ▸ ho
    | folded x eventSeq observedAtMs classification raw now command row isOpen next moved fits positive
        rows => exact rows ▸ mem_replaceRow.mpr (.inr ⟨ho, hother x isOpen⟩)
    | ended x terminal evidence now command named row isOpen rows =>
      exact rows ▸ mem_replaceRow.mpr (.inr ⟨ho, hother x isOpen⟩)
  · rw [hsame]
    exact ho

/-- An observation that a call settles was open, and has the clock reading of the call. -/
theorem Command.observation_new (hinv : Invariant minted s)
    (hfresh : ∀ leaseToken ∈ c.leaseTokens, leaseToken ∉ minted) {u : Unit}
    (h : c.exec s = .ok (u, t)) {r : InvocationObservation} (hr : r ∈ t.invocationObservations)
    (hterm : r.terminal.isSome = true) :
    r ∈ s.invocationObservations ∨ ∃ o ∈ s.invocationObservations, o.terminal = none ∧
      o.invocationId = r.invocationId ∧ ∃ terminal, terminal.invocationId = r.invocationId ∧
        c = .recordInvocationTerminal r.generationId terminal r.updatedAtMs := by
  have hopened : ∀ x : InvocationObservation, x.terminal = none → r ≠ x := by
    rintro x hx rfl
    rw [hx] at hterm
    cases hterm
  cases c.observationChange hinv hfresh h with
  | same silent rows => exact .inl (rows ▸ hr)
  | begun agentId invocationId generationId binding sessionRef input now command new rows =>
    rw [rows] at hr
    refine .inl ((List.mem_append.mp hr).resolve_right fun hnew => ?_)
    exact hopened _ rfl (List.mem_singleton.mp hnew)
  | repeated x eventSeq observedAtMs classification raw now command row isOpen last positive rows =>
    exact .inl (rows ▸ hr)
  | folded x eventSeq observedAtMs classification raw now command row isOpen next moved fits positive
      rows =>
    rw [rows] at hr
    rcases mem_replaceRow.mp hr with ⟨hnew, _⟩ | ⟨hold, _⟩
    · exact absurd hnew (hopened _ isOpen)
    · exact .inl hold
  | ended x terminal evidence now command named row isOpen rows =>
    rw [rows] at hr
    rcases mem_replaceRow.mp hr with ⟨rfl, _⟩ | ⟨hold, _⟩
    · exact .inr ⟨x, row, isOpen, rfl, terminal, named.symm, command⟩
    · exact .inl hold

/-- A stopped generation is never written again. -/
theorem Command.step_generation_kept (hinv : Invariant minted s)
    (hfresh : ∀ leaseToken ∈ c.leaseTokens, leaseToken ∉ minted) {g : PluginGeneration}
    (hg : g ∈ s.pluginGenerations) (hstopped : g.stopped.isSome = true) :
    g ∈ (c.step s).pluginGenerations := by
  have hinactive : ∀ generationId, activeGeneration generationId g = false := by
    intro generationId
    rw [activeGeneration, Option.isNone_eq_false_iff.mpr hstopped, Bool.and_false]
  rcases c.step_cases s with ⟨_, hok⟩ | hsame
  · cases c.generationChange hinv hfresh hok with
    | same rows => exact rows ▸ hg
    | recorded x active rows => exact rows ▸ List.mem_append_left _ hg
    | touched generationId now rows => exact rows ▸ mem_updateWhere_of_neg hg (hinactive generationId)
    | stopped generationId stop now command rows =>
      exact rows ▸ mem_updateWhere_of_neg hg (hinactive generationId)
  · rw [hsame]
    exact hg

/-- A generation that a call stops was active, and has the clock reading of the call. -/
theorem Command.generation_new (hinv : Invariant minted s)
    (hfresh : ∀ leaseToken ∈ c.leaseTokens, leaseToken ∉ minted) {u : Unit}
    (h : c.exec s = .ok (u, t)) {r : PluginGeneration} (hr : r ∈ t.pluginGenerations)
    (hstopped : r.stopped.isSome = true) :
    r ∈ s.pluginGenerations ∨ ∃ g ∈ s.pluginGenerations, g.stopped = none ∧ g.id = r.id ∧
      ∃ stop, c = .stopPluginGeneration r.id stop r.lastHeartbeatAtMs := by
  cases c.generationChange hinv hfresh h with
  | same rows => exact .inl (rows ▸ hr)
  | recorded x active rows =>
    rw [rows] at hr
    refine .inl ((List.mem_append.mp hr).resolve_right fun hnew => ?_)
    rw [List.mem_singleton.mp hnew, active] at hstopped
    cases hstopped
  | touched generationId now rows =>
    rw [rows] at hr
    obtain ⟨g, hg, rfl⟩ := mem_updateWhere.mp hr
    by_cases hactive : activeGeneration generationId g = true
    · rw [if_pos hactive] at hstopped
      have hnone : g.stopped = none := (activeGeneration_iff.mp hactive).2
      rw [hnone] at hstopped
      cases hstopped
    · simp only [if_neg hactive]
      exact .inl hg
  | stopped generationId stop now command rows =>
    rw [rows] at hr
    obtain ⟨g, hg, rfl⟩ := mem_updateWhere.mp hr
    by_cases hactive : activeGeneration generationId g = true
    · simp only [if_pos hactive]
      obtain ⟨hid, hnone⟩ := activeGeneration_iff.mp hactive
      exact .inr ⟨g, hg, hnone, rfl, stop, hid ▸ command⟩
    · simp only [if_neg hactive]
      exact .inl hg

end Fleetd
