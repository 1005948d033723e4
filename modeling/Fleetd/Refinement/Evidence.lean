import Fleetd.Refinement.Session
import Fleetd.Execution.Trigger

/-!
# Observations and generations

What each call does to the two evidence tables. A stopped generation and a terminal
observation keep their clock for ever; an active one moves its clock with every change.
-/

namespace Fleetd

open Relational Relational.Transaction

variable {Json : Type} {s t : Store}

/-- Evidence rows are identified by their identifiers. -/
structure EvidenceConsistent (s : Store) : Prop where
  observationIds : KeyUnique InvocationObservation.invocationId s.invocationObservations
  generationIds : KeyUnique PluginGeneration.id s.pluginGenerations

/-- A call that changes evidence only. -/
def Observes (s t : Store) : Prop :=
  t = { s with
    pluginGenerations := t.pluginGenerations
    invocationObservations := t.invocationObservations }

/-! ## Generations -/

/-- The generations after a heartbeat of one of them. -/
def touched (generationId : String) (now : Int) (rows : List PluginGeneration) :
    List PluginGeneration :=
  updateWhere (activeGeneration generationId) ({ · with lastHeartbeatAtMs := now }) rows

/-- The generations after one of them stopped. -/
def stoppedRows (generationId : String) (stop : StopPluginGeneration) (now : Int)
    (rows : List PluginGeneration) : List PluginGeneration :=
  updateWhere (activeGeneration generationId)
    ({ · with lastHeartbeatAtMs := now, stopped := some (stop.evidence now) }) rows

theorem activeGeneration_iff {generationId : String} {g : PluginGeneration} :
    activeGeneration generationId g = true ↔ g.id = generationId ∧ g.stopped = none := by
  rw [activeGeneration, Bool.and_eq_true, decide_eq_true_eq, Option.isNone_iff_eq_none]

theorem touchGeneration_ok {generationId : String} {now : Int} {n : Nat}
    (h : touchGeneration generationId now s = .ok (n, t)) :
    t = { s with pluginGenerations := touched generationId now s.pluginGenerations } := by
  rw [touchGeneration, write_ok, Prod.mk.injEq] at h
  exact h.2.symm

theorem pluginGeneration_ok {generationId : String} {g : PluginGeneration}
    (h : pluginGeneration generationId s = .ok (g, t)) : s = t := by
  simp only [pluginGeneration, bind_ok, read_ok, require_ok] at h
  obtain ⟨_, _, ⟨_, rfl⟩, _, rfl⟩ := h
  rfl

/-- A recorded generation is new and active. -/
theorem recordPluginGeneration_ok {generation : NewPluginGeneration} {now : Int}
    {result : PluginGeneration} (h : recordPluginGeneration generation now s = .ok (result, t)) :
    (∀ g ∈ s.pluginGenerations, g.id ≠ generation.id) ∧
      t = { s with
        pluginGenerations := s.pluginGenerations ++ [{
          id := generation.id
          agentId := generation.agentId
          startedAtMs := now
          lastHeartbeatAtMs := now
          stopped := none }] } := by
  simp only [recordPluginGeneration, bind_ok, check_ok, read_ok, ensure_ok, write_ok,
    Prod.mk.injEq] at h
  obtain ⟨_, _, ⟨_, rfl⟩, _, _, ⟨_, rfl⟩, _, _, ⟨_, rfl⟩, _, _, ⟨_, rfl⟩, _, _, ⟨_, rfl⟩, _, _,
    ⟨_, rfl⟩, _, _, ⟨_, rfl⟩, _, _, ⟨rfl, rfl⟩, _, _, ⟨hnew, rfl⟩, _, _, hagent, _, _, ⟨_, rfl⟩,
    hread⟩ := h
  obtain rfl := ensureAgent_ok hagent
  obtain rfl := pluginGeneration_ok hread
  exact ⟨hnew, rfl⟩

theorem heartbeatPluginGeneration_ok {generationId : String} {now : Int} {u : Unit}
    (h : heartbeatPluginGeneration generationId now s = .ok (u, t)) :
    t = { s with pluginGenerations := touched generationId now s.pluginGenerations } := by
  simp only [heartbeatPluginGeneration, bind_ok, ensure_ok] at h
  obtain ⟨_, _, htouch, _, rfl⟩ := h
  exact touchGeneration_ok htouch

theorem stopPluginGeneration_ok {generationId : String} {stop : StopPluginGeneration} {now : Int}
    {result : PluginGeneration}
    (h : stopPluginGeneration generationId stop now s = .ok (result, t)) :
    t = { s with
      pluginGenerations := stoppedRows generationId stop now s.pluginGenerations } := by
  simp only [stopPluginGeneration, bind_ok, check_ok, write_ok, Prod.mk.injEq] at h
  obtain ⟨_, _, ⟨_, rfl⟩, rows, _, ⟨_, rfl⟩, h⟩ := h
  split at h
  · simp only [bind_ok, ensure_ok, pure_ok] at h
    obtain ⟨_, _, hread, _, _, ⟨_, rfl⟩, _, rfl⟩ := h
    obtain rfl := pluginGeneration_ok hread
    rfl
  · obtain rfl := pluginGeneration_ok h
    rfl

/-! ## Events -/

/-- The fold of one presented event into a row. -/
def foldOf [SerdeJson Json] [Sha256] (o : InvocationObservation) (eventSeq : Nat)
    (observedAtMs : Int) (classification : String) (raw : Json) : EventFold :=
  let rawBytes := utf8Bytes (SerdeJson.toString raw)
  let digest := eventDigest eventSeq observedAtMs classification rawBytes
  { generationId := o.generationId
    invocationId := o.invocationId
    previousSeq := o.lastEventSeq
    eventSeq := eventSeq
    observedAtMs := observedAtMs
    payloadBytes := rawBytes.length
    eventDigest := digest
    chainDigest := chainDigest o.eventChainDigest digest
    counts := eventIncrements classification }

/-- The observation a call addresses. -/
theorem observationOf_some {invocationId generationId : String} {o : InvocationObservation}
    (h : observationOf invocationId generationId s = some o) :
    o ∈ s.invocationObservations ∧ o.invocationId = invocationId ∧
      o.generationId = generationId := by
  have hp := List.find?_some h
  rw [decide_eq_true_eq] at hp
  exact ⟨List.mem_of_find?_eq_some h, hp⟩

/-- An accepted event is the next one and is folded into its row; a repeat of the last one
changes nothing. -/
theorem recordInvocationEvent_ok [SerdeJson Json] [Sha256] {generationId invocationId : String}
    {eventSeq : Nat} {observedAtMs now : Int} {classification : String} {raw : Json} {u : Unit}
    (h : recordInvocationEvent generationId invocationId eventSeq observedAtMs classification raw now
      s = .ok (u, t)) :
    ∃ o ∈ s.invocationObservations, o.invocationId = invocationId ∧
      o.generationId = generationId ∧ o.terminal = none ∧ 0 < eventSeq ∧ eventSeq ≤ i64Max ∧
      0 < observedAtMs ∧ isBlank classification = false ∧
      ((t = s ∧ eventSeq = o.lastEventSeq) ∨
        (eventSeq = nextSeq o.lastEventSeq ∧ eventSeq ≠ o.lastEventSeq ∧
        t = { s with
          invocationObservations := replaceRow o
            ((foldOf o eventSeq observedAtMs classification raw).columns now o)
            s.invocationObservations
          pluginGenerations := touched generationId now s.pluginGenerations })) := by
  simp only [recordInvocationEvent, bind_ok, check_ok, read_ok, ensure_ok, require_ok] at h
  obtain ⟨_, _, ⟨hvalid, rfl⟩, _, _, ⟨hseq, rfl⟩, _, _, ⟨_, rfl⟩, _, _, ⟨rfl, rfl⟩, o, _, ⟨ho, rfl⟩, _,
    _, ⟨_, rfl⟩, _, _, ⟨_, rfl⟩, _, _, ⟨hterm, rfl⟩, h⟩ := h
  obtain ⟨hmem, hid, hgen⟩ := observationOf_some ho
  simp only [not_or, not_le, Bool.not_eq_true] at hvalid
  have hle : eventSeq ≤ i64Max := by
    unfold tryFromU64 at hseq
    split at hseq
    · assumption
    · cases hseq
  refine ⟨o, hmem, hid, hgen, hterm, Nat.pos_of_ne_zero hvalid.1, hle, hvalid.2.1, hvalid.2.2, ?_⟩
  split at h
  · rename_i hsame
    rw [ensure_ok] at h
    exact .inl ⟨h.2.symm, hsame⟩
  · rename_i hne
    simp only [bind_ok, ensure_ok, applyEventFold, write_ok, pure_ok, Prod.mk.injEq] at h
    obtain ⟨_, _, ⟨hnext, rfl⟩, _, _, ⟨rfl, rfl⟩, _, _, ⟨hone, rfl⟩, _, _, htouch, _, rfl⟩ := h
    obtain rfl := touchGeneration_ok htouch
    obtain ⟨x, _, _, hall⟩ := exists_of_countP_eq_one hone
    have hox : o = x := (hall o hmem).mp (by simp [hid, hgen])
    refine .inr ⟨hnext, hne, ?_⟩
    rw [updateWhere_eq_replaceRow hall, ← hox, foldOf, hid, hgen]

/-- A recorded terminal ends its row; a repeat changes nothing. -/
theorem recordInvocationTerminal_ok [SerdeJson Json] (hev : EvidenceConsistent s)
    {generationId : String} {terminal : TurnTerminal Json} {now : Int} {u : Unit}
    (h : recordInvocationTerminal generationId terminal now s = .ok (u, t)) :
    ∃ o ∈ s.invocationObservations, o.invocationId = terminal.invocationId ∧
      o.generationId = generationId ∧
      (t = s ∨ (o.terminal = none ∧ ∃ evidence, t = { s with
        invocationObservations := replaceRow o { o with updatedAtMs := now, terminal := some evidence }
          s.invocationObservations
        pluginGenerations := touched generationId now s.pluginGenerations })) := by
  simp only [recordInvocationTerminal, bind_ok, check_ok, read_ok, ensure_ok, require_ok] at h
  obtain ⟨_, _, ⟨_, rfl⟩, usageJson, _, ⟨_, rfl⟩, _, _, ⟨rfl, rfl⟩, o, _, ⟨ho, rfl⟩, _, _, ⟨_, rfl⟩,
    h⟩ := h
  obtain ⟨hmem, hid, hgen⟩ := observationOf_some ho
  refine ⟨o, hmem, hid, hgen, ?_⟩
  cases hterm : o.terminal with
  | some stored =>
    simp only [hterm, ensure_ok] at h
    exact .inl h.2.symm
  | none =>
    simp only [hterm, bind_ok, write_ok, pure_ok, Prod.mk.injEq] at h
    obtain ⟨_, _, ⟨_, rfl⟩, _, _, htouch, _, rfl⟩ := h
    obtain rfl := touchGeneration_ok htouch
    refine .inr ⟨rfl, terminal.evidence usageJson now, ?_⟩
    rw [updateWhere_eq_replaceRow fun x hx => ⟨fun hsel => ?_, fun heq => ?_⟩]
    · simp only [Bool.and_eq_true, decide_eq_true_eq] at hsel
      exact hev.observationIds.eq hx hmem (hsel.1.1.trans hid.symm)
    · rw [heq, hid, hgen, hterm]
      simp

/-! ## Triggers -/

/-- What a registration declares never changes. -/
structure Trigger.Keeps (trigger trigger' : Trigger) : Prop where
  id : trigger'.id = trigger.id
  channelId : trigger'.channelId = trigger.channelId
  senderId : trigger'.senderId = trigger.senderId
  acceptedKinds : trigger'.acceptedKinds = trigger.acceptedKinds

/-- A registration keeps itself. -/
theorem Trigger.Keeps.refl (trigger : Trigger) : trigger.Keeps trigger := ⟨rfl, rfl, rfl, rfl⟩

/-- A call that changes registrations only, and no declaration of them. -/
structure Registers (s t : Store) : Prop where
  frame : t = { s with triggers := t.triggers }
  kept : Extends Trigger.Keeps s.triggers t.triggers

theorem registerTrigger_registers {id : String} {input : RegisterTrigger} {now : Int}
    {result : Trigger} (h : registerTrigger id input now s = .ok (result, t)) : Registers s t := by
  simp only [registerTrigger, bind_ok, check_ok, read_ok, ensure_ok, write_ok, pure_ok,
    Prod.mk.injEq] at h
  obtain ⟨_, _, ⟨_, rfl⟩, _, _, ⟨_, rfl⟩, _, _, ⟨_, rfl⟩, _, _, ⟨_, rfl⟩, _, _, ⟨_, rfl⟩, _, rfl⟩ := h
  exact ⟨rfl, .append Trigger.Keeps.refl _ _⟩

theorem triggerInTransaction_ok {triggerId : String} {trigger : Trigger}
    (h : triggerInTransaction triggerId s = .ok (trigger, t)) :
    s = t ∧ s.triggers.find? (fun x => x.id = triggerId) = some trigger := by
  simp only [triggerInTransaction, bind_ok, read_ok, require_ok] at h
  obtain ⟨_, _, ⟨rfl, rfl⟩, hfind, rfl⟩ := h
  exact ⟨rfl, hfind⟩

theorem retireTrigger_registers {triggerId reason : String} {now : Int} {result : Trigger}
    (h : retireTrigger triggerId reason now s = .ok (result, t)) : Registers s t := by
  simp only [retireTrigger, retireTriggerRow, bind_ok, ensure_ok, write_ok, Prod.mk.injEq] at h
  obtain ⟨_, _, ⟨_, rfl⟩, _, _, ⟨_, rfl⟩, hread⟩ := h
  obtain ⟨rfl, _⟩ := triggerInTransaction_ok hread
  exact ⟨rfl, .updateWhere Trigger.Keeps.refl fun _ _ _ => ⟨rfl, rfl, rfl, rfl⟩⟩

theorem recordCreated_registers {triggerId occurrenceId : String} {created : Bool} {now : Int}
    {u : Unit} (h : recordCreated triggerId occurrenceId created now s = .ok (u, t)) :
    Registers s t := by
  unfold recordCreated at h
  split at h
  · simp only [recordTriggerOccurrence, bind_ok, write_ok, ensure_ok, Prod.mk.injEq] at h
    obtain ⟨_, _, ⟨_, rfl⟩, _, rfl⟩ := h
    exact ⟨rfl, .updateWhere Trigger.Keeps.refl fun _ _ _ => ⟨rfl, rfl, rfl, rfl⟩⟩
  · rw [pure_ok] at h
    exact h.2 ▸ ⟨rfl, .refl Trigger.Keeps.refl _⟩

/-- A firing appends nothing or posts one message under its registration. -/
theorem fire_ok [DecidableEq Json] [SerdeJson Json] [Sha256] {triggerId messageId : String}
    {occurrence : TriggerOccurrence Json} {messageNow now : Int} {result : TriggerFired}
    (h : fire triggerId occurrence messageId messageNow now s = .ok (result, t)) :
    ∃ mid, Registers mid t ∧
      (mid = s ∨ ∃ m, Postable s m ∧ m.Printed Json ∧ mid = postedStore s m) := by
  simp only [fire, bind_ok, check_ok, ensure_ok, pure_ok] at h
  obtain ⟨_, _, ⟨_, rfl⟩, trigger, _, htrigger, _, _, ⟨_, rfl⟩, _, _, ⟨_, rfl⟩, _, _, ⟨_, rfl⟩, _, mid,
    happend, _, _, hrecord, _, rfl⟩ := h
  obtain ⟨rfl, _⟩ := triggerInTransaction_ok htrigger
  refine ⟨mid, recordCreated_registers hrecord, ?_⟩
  rcases appendMessageInTransaction_ok happend with ⟨_, rfl⟩ | ⟨_, hpost, rfl⟩
  · exact .inl rfl
  · exact .inr ⟨_, hpost, ⟨occurrence.payload, rfl⟩, rfl⟩

end Fleetd
