import Fleetd.System.Directory

/-!
# What a command does to the triggers

A registration is added active and unfired, is retired once, and counts a firing in the same step
that appends its message.
-/

namespace Fleetd

open Relational Relational.Transaction

variable {Json : Type} {s t : Store}

/-- A message that a firing has created. -/
structure Firing where
  triggerId : String
  occurrenceId : String
  message : MessageRow
  deriving DecidableEq, Repr

/-- What identifies a firing. -/
def Firing.occurrence (firing : Firing) : String × String :=
  (firing.triggerId, firing.occurrenceId)

/-- A message that a registration allows a firing to create. -/
structure Trigger.Creates [Sha256] (trigger : Trigger) (firing : Firing) : Prop where
  id : trigger.id = firing.triggerId
  channelId : firing.message.channelId = trigger.channelId
  senderId : firing.message.senderId = trigger.senderId
  kind : firing.message.kind ∈ trigger.acceptedKinds
  key : firing.message.idempotencyKey = some (durableKey firing.triggerId firing.occurrenceId)

/-- The messages that a command creates as a firing: those that the log has after it only. -/
def Command.firings [DecidableEq Json] [SerdeJson Json] [Sha256] (c : Command Json) (s : Store) :
    List Firing :=
  match c with
  | .fireTrigger triggerId occurrence _ _ _ =>
    ((c.step s).messages.drop s.messages.length).map (⟨triggerId, occurrence.occurrenceId, ·⟩)
  | _ => []

/-- The registrations that one update concerns. -/
def activeTrigger (triggerId : String) (trigger : Trigger) : Bool :=
  decide (trigger.id = triggerId) && decide (trigger.state = .active)

/-- What a step does to the triggers, beside the messages it creates as a firing. -/
inductive Hooks [Sha256] (s t : Store) : List Firing → Prop
  | same (triggers : t.triggers = s.triggers) : Hooks s t []
  | registered (trigger : Trigger) (new : trigger.id ∉ s.triggers.map Trigger.id)
      (active : trigger.state = .active) (unfired : trigger.acceptedOccurrences = 0)
      (messages : t.messages = s.messages) (triggers : t.triggers = s.triggers ++ [trigger]) :
      Hooks s t []
  | retired (triggerId reason : String) (now : Int) (messages : t.messages = s.messages)
      (triggers : t.triggers = updateWhere (activeTrigger triggerId)
        ({ · with state := .retired now reason, updatedAtMs := now }) s.triggers) : Hooks s t []
  | fired (firing : Firing) (trigger : Trigger) (now : Int) (mem : trigger ∈ s.triggers)
      (active : trigger.state = .active) (creates : trigger.Creates firing)
      (messages : t.messages = s.messages ++ [firing.message])
      (triggers : t.triggers = updateWhere (activeTrigger firing.triggerId)
        (fun x => { x with
          lastFired := some (firing.occurrenceId, now)
          updatedAtMs := now
          acceptedOccurrences := x.acceptedOccurrences + 1 }) s.triggers) : Hooks s t [firing]

section Calls

theorem newTrigger_ok {id : String} {input : RegisterTrigger} {now : Int} {trigger : Trigger}
    (h : newTrigger id input now = .ok trigger) :
    trigger.id = id ∧ trigger.state = .active ∧ trigger.acceptedOccurrences = 0 := by
  unfold newTrigger at h
  cases hname : validateName "trigger" input.name with
  | error e =>
    rw [hname] at h
    cases h
  | ok u =>
    cases hkinds : normalizeKinds input.acceptedKinds with
    | error e =>
      rw [hname, hkinds] at h
      cases h
    | ok kinds =>
      rw [hname, hkinds] at h
      cases h
      exact ⟨rfl, rfl, rfl⟩

theorem registerTrigger_hooks [Sha256] {id : String} {input : RegisterTrigger} {now : Int}
    {result : Trigger} (h : registerTrigger id input now s = .ok (result, t)) : Hooks s t [] := by
  simp only [registerTrigger, bind_ok, check_ok, read_ok, ensure_ok, write_ok, pure_ok,
    Prod.mk.injEq] at h
  obtain ⟨trigger, _, ⟨hnew, rfl⟩, _, _, ⟨rfl, rfl⟩, _, _, ⟨hunique, rfl⟩, _, _, ⟨_, rfl⟩, _, _,
    ⟨_, rfl⟩, _, rfl⟩ := h
  obtain ⟨-, hactive, hunfired⟩ := newTrigger_ok hnew
  refine .registered trigger (fun hmem => ?_) hactive hunfired rfl rfl
  obtain ⟨other, hother, hid⟩ := List.mem_map.mp hmem
  exact (hunique other hother).1 hid

theorem retireTrigger_hooks [Sha256] {triggerId reason : String} {now : Int} {result : Trigger}
    (h : retireTrigger triggerId reason now s = .ok (result, t)) : Hooks s t [] := by
  simp only [retireTrigger, retireTriggerRow, bind_ok, ensure_ok, write_ok, Prod.mk.injEq] at h
  obtain ⟨_, _, ⟨_, rfl⟩, _, _, ⟨_, rfl⟩, hread⟩ := h
  obtain ⟨rfl, _⟩ := triggerInTransaction_ok hread
  exact .retired triggerId reason now rfl rfl

variable [DecidableEq Json] [SerdeJson Json] [Sha256]

omit [Sha256] in
/-- A new message has the identifier that was minted for it. -/
theorem appendMessageInTransaction_id {channelId id : String} {input : CreateMessage Json}
    {createdAtMs : Int} {result : AppendMessageResult Json}
    (h : appendMessageInTransaction channelId input id createdAtMs s = .ok (result, t))
    (hcreated : result.created = true) : result.message.id = id := by
  simp only [appendMessageInTransaction, bind_ok, ensure_ok, check_ok, read_ok] at h
  obtain ⟨_, _, ⟨_, rfl⟩, _, _, ⟨_, rfl⟩, existing, _, ⟨_, rfl⟩, h⟩ := h
  cases existing with
  | some row =>
    simp only [bind_ok, check_ok, ensure_ok, pure_ok] at h
    obtain ⟨_, _, ⟨_, rfl⟩, _, _, ⟨_, rfl⟩, rfl, rfl⟩ := h
    cases hcreated
  | none =>
    simp only [bind_ok, pure_ok] at h
    obtain ⟨_, _, hinsert, rfl, rfl⟩ := h
    rw [(insertMessage_ok hinsert).1]
    rfl

/-- A firing creates nothing and leaves the database alone, or creates one message of its
registration and counts it. -/
theorem fire_hooks {triggerId messageId : String} {occurrence : TriggerOccurrence Json}
    {messageNow now : Int} {result : TriggerFired}
    (h : fire triggerId occurrence messageId messageNow now s = .ok (result, t)) :
    result.created = false ∧ t = s ∨ ∃ firing : Firing, result.created = true ∧
      firing.occurrence = (triggerId, occurrence.occurrenceId) ∧ firing.message.id = result.messageId ∧
        t.messages = s.messages ++ [firing.message] ∧ Hooks s t [firing] := by
  simp only [fire, bind_ok, check_ok, ensure_ok, pure_ok] at h
  obtain ⟨_, _, ⟨_, rfl⟩, trigger, _, htrigger, _, _, ⟨hactive, rfl⟩, _, _, ⟨hkind, rfl⟩, _, _,
    ⟨_, rfl⟩, appended, mid, happend, _, _, hrecord, rfl, rfl⟩ := h
  obtain ⟨rfl, hfind⟩ := triggerInTransaction_ok htrigger
  have hmem := List.mem_of_find?_eq_some hfind
  have hid : trigger.id = triggerId := by simpa using List.find?_some hfind
  obtain ⟨hcreated, rfl⟩ | ⟨hcreated, hpost, rfl⟩ := appendMessageInTransaction_ok happend
  · rw [recordCreated, hcreated, if_neg Bool.false_ne_true, pure_ok] at hrecord
    exact .inl ⟨hcreated, hrecord.2.symm⟩
  · rw [recordCreated, hcreated, if_pos rfl] at hrecord
    simp only [recordTriggerOccurrence, bind_ok, write_ok, ensure_ok, Prod.mk.injEq] at hrecord
    obtain ⟨_, _, ⟨_, rfl⟩, _, rfl⟩ := hrecord
    refine .inr ⟨⟨triggerId, occurrence.occurrenceId, _⟩, hcreated, rfl,
      (appendMessageInTransaction_id happend hcreated).symm, rfl, ?_⟩
    exact .fired _ trigger now hmem hactive ⟨hid, rfl, rfl, hkind, rfl⟩ rfl rfl

variable {minted : List String}

/-- What a step does to the triggers. -/
theorem Command.step_hooks (hinv : Invariant minted s) {c : Command Json}
    (hfresh : ∀ leaseToken ∈ c.leaseTokens, leaseToken ∉ minted) :
    Hooks s (c.step s) (c.firings s) := by
  have hnone : c.isRegistering = false → c.firings s = [] := by
    intro hkind
    cases c with
    | fireTrigger triggerId occurrence messageId messageNow now => cases hkind
    | _ => rfl
  obtain ⟨u, hok⟩ | hsame := c.step_cases s
  · cases hkind : c.isRegistering with
    | false =>
      rw [hnone hkind]
      cases henrolling : c.isEnrolling with
      | true => exact .same (by rw [(c.enrolls hinv.log henrolling hok).frame])
      | false => exact .same (c.registry hinv hfresh henrolling hkind hok).triggers
    | true =>
      generalize hstep : c.step s = t at *
      cases c with
      | registerTrigger id input now =>
        obtain ⟨_, h⟩ := discard_ok hok
        exact registerTrigger_hooks h
      | retireTrigger triggerId reason now =>
        obtain ⟨_, h⟩ := discard_ok hok
        exact retireTrigger_hooks h
      | fireTrigger triggerId occurrence messageId messageNow now =>
        obtain ⟨_, h⟩ := discard_ok hok
        rw [Command.firings, hstep]
        obtain ⟨-, rfl⟩ | ⟨firing, -, hocc, -, hmessages, hhooks⟩ := fire_hooks h
        · rw [List.drop_length]
          exact .same rfl
        · obtain ⟨htrigger, hoccurrence⟩ := Prod.mk.inj hocc
          rw [hmessages, List.drop_left, List.map_singleton, ← htrigger, ← hoccurrence]
          exact hhooks
      | _ => cases hkind
  · have hempty : c.firings s = [] := by
      cases c with
      | fireTrigger triggerId occurrence messageId messageNow now =>
        rw [Command.firings, hsame, List.drop_length]
        rfl
      | _ => rfl
    rw [hempty]
    exact .same (by rw [hsame])

/-- The firings of a run that created a message, in commit order. -/
def runFirings (cs : List (Command Json)) : List Firing :=
  outputsFrom Command.step Command.firings Store.empty cs

/-- One more command after a fresh run changes the triggers as it may. -/
theorem run_hooks {cs : List (Command Json)} {c : Command Json} (h : Fresh (cs ++ [c])) :
    ∃ firings, runFirings (cs ++ [c]) = runFirings cs ++ firings ∧
      Hooks (run cs) (run (cs ++ [c])) firings := by
  refine ⟨c.firings (run cs), outputsFrom_snoc .., ?_⟩
  rw [run_snoc]
  exact c.step_hooks (run_invariant h.left) fun _ htok => h.not_mem htok

end Calls

end Fleetd
