import Fleetd.Guarantees.Log
import Fleetd.System.Triggers

/-!
# Trigger occurrences

A trigger counts exactly the messages that its firings have created. Each occurrence creates one
message at most, as its registration declares, and none is created after the trigger was retired.
-/

namespace Fleetd

open Relational Relational.Transaction

variable {Json : Type} {s t : Store}

/-! ## One step -/

/-- Firings that agree with the log and with the registrations. -/
structure FiringsRecorded [Sha256] (firings : List Firing) (s : Store) : Prop where
  ids : KeyUnique Trigger.id s.triggers
  messages : (firings.map Firing.message).Sublist s.messages
  declared : ∀ firing ∈ firings, ∃ trigger ∈ s.triggers, trigger.Creates firing
  counted : ∀ trigger ∈ s.triggers, trigger.acceptedOccurrences =
    (firings.filter fun firing => firing.triggerId = trigger.id).length

section Steps
variable [Sha256] {firings new : List Firing}

/-- What a registration declares may still be created after an update of it. -/
theorem Trigger.Keeps.creates {trigger trigger' : Trigger} {firing : Firing}
    (h : trigger.Keeps trigger') (hcreates : trigger.Creates firing) : trigger'.Creates firing where
  id := h.id.trans hcreates.id
  channelId := hcreates.channelId.trans h.channelId.symm
  senderId := hcreates.senderId.trans h.senderId.symm
  kind := h.acceptedKinds ▸ hcreates.kind
  key := hcreates.key

/-- A table that keeps its registrations keeps what they declare. -/
theorem declared_of_extends (h : Extends Trigger.Keeps s.triggers t.triggers) {firing : Firing}
    (hdeclared : ∃ trigger ∈ s.triggers, trigger.Creates firing) :
    ∃ trigger ∈ t.triggers, trigger.Creates firing := by
  obtain ⟨trigger, htrigger, hcreates⟩ := hdeclared
  obtain ⟨trigger', htrigger', hkeeps⟩ := h.mem htrigger
  exact ⟨trigger', htrigger', hkeeps.creates hcreates⟩

/-- A step keeps firings recorded. -/
theorem FiringsRecorded.step (h : FiringsRecorded firings s) (hhooks : Hooks s t new)
    (hmessages : s.messages <+: t.messages) (hkept : Extends Trigger.Keeps s.triggers t.triggers) :
    FiringsRecorded (firings ++ new) t := by
  have hsub : (firings.map Firing.message).Sublist t.messages := h.messages.trans hmessages.sublist
  have hdeclared : ∀ firing ∈ firings, ∃ trigger ∈ t.triggers, trigger.Creates firing :=
    fun firing hfiring => declared_of_extends hkept (h.declared firing hfiring)
  cases hhooks with
  | same triggers =>
    rw [List.append_nil]
    exact ⟨triggers ▸ h.ids, hsub, hdeclared, triggers ▸ h.counted⟩
  | registered trigger hnew active unfired messages triggers =>
    rw [List.append_nil]
    refine ⟨?_, hsub, hdeclared, ?_⟩
    · rw [triggers]
      refine h.ids.append (.singleton _ _) fun x hx y hy heq => hnew ?_
      rw [← List.mem_singleton.mp hy, ← heq]
      exact List.mem_map_of_mem hx
    · intro x hx
      rw [triggers, List.mem_append, List.mem_singleton] at hx
      obtain hold | rfl := hx
      · exact h.counted x hold
      · rw [unfired, eq_comm, List.length_eq_zero_iff, List.filter_eq_nil_iff]
        intro firing hfiring hid
        obtain ⟨other, hother, hcreates⟩ := h.declared firing hfiring
        rw [← of_decide_eq_true hid, ← hcreates.id] at hnew
        exact hnew (List.mem_map_of_mem hother)
  | retired triggerId reason now messages triggers =>
    rw [List.append_nil]
    refine ⟨?_, hsub, hdeclared, ?_⟩
    · rw [triggers]
      exact h.ids.updateWhere fun _ _ _ => rfl
    · intro x hx
      rw [triggers] at hx
      obtain ⟨before, hbefore, rfl⟩ := mem_updateWhere.mp hx
      split
      · exact h.counted before hbefore
      · exact h.counted before hbefore
  | fired firing trigger now mem active creates messages triggers =>
    refine ⟨?_, ?_, ?_, ?_⟩
    · rw [triggers]
      exact h.ids.updateWhere fun _ _ _ => rfl
    · rw [List.map_append, messages]
      exact h.messages.append (List.Sublist.refl _)
    · intro f hf
      rw [List.mem_append, List.mem_singleton] at hf
      obtain hold | rfl := hf
      · exact hdeclared f hold
      · exact declared_of_extends hkept ⟨trigger, mem, creates⟩
    · intro x hx
      rw [triggers] at hx
      obtain ⟨before, hbefore, rfl⟩ := mem_updateWhere.mp hx
      rw [List.filter_append, List.length_append]
      -- only the registration that fired is updated, and it is the active one of its id
      by_cases hid : before.id = firing.triggerId
      · have hsame : before = trigger := h.ids.eq hbefore mem (hid.trans creates.id.symm)
        have hactive : activeTrigger firing.triggerId before = true := by
          rw [activeTrigger, hid, hsame, active]
          simp
        rw [if_pos hactive, List.filter_cons_of_pos (by simp [hid]), h.counted before hbefore]
        rfl
      · have hother : activeTrigger firing.triggerId before = false := by
          rw [activeTrigger, decide_eq_false hid, Bool.false_and]
        rw [if_neg (by simp [hother]), List.filter_cons_of_neg (by simpa using Ne.symm hid),
          h.counted before hbefore]
        rfl

/-- Recorded firings are distinct occurrences. -/
theorem FiringsRecorded.once (h : FiringsRecorded firings s) (hlog : LogConsistent s) :
    (firings.map Firing.occurrence).Nodup := by
  have hmessages : (firings.map Firing.message).Nodup := hlog.messageIds.of_map.sublist h.messages
  have hfirings : firings.Nodup := hmessages.of_map
  refine List.Nodup.map_on (fun f hf g hg hsame => ?_) hfirings
  obtain ⟨htrigger, hoccurrence⟩ := Prod.mk.inj hsame
  obtain ⟨x, hx, hf'⟩ := h.declared f hf
  obtain ⟨y, hy, hg'⟩ := h.declared g hg
  have hxy : x = y := h.ids.eq hx hy (hf'.id.trans (htrigger.trans hg'.id.symm))
  -- one registration and one occurrence make one idempotency key of one sender
  have hkey : f.message.idempotencyKey = g.message.idempotencyKey := by
    rw [hf'.key, hg'.key, htrigger, hoccurrence]
  have hmessage : f.message = g.message := by
    refine hlog.messageKeys _ (h.messages.subset (List.mem_map_of_mem hf)) _
      (h.messages.subset (List.mem_map_of_mem hg)) ?_ hkey ?_
    · rw [hf'.senderId, hg'.senderId, hxy]
    · rw [hf'.key]
      rfl
  exact List.inj_on_of_nodup_map hmessages hf hg hmessage

/-- A step leaves a retired registration as it is, and nothing is created under it. -/
theorem Hooks.retired_kept (h : Hooks s t new) (hids : KeyUnique Trigger.id s.triggers)
    {trigger : Trigger} (htrigger : trigger ∈ s.triggers) (hretired : trigger.state ≠ .active) :
    trigger ∈ t.triggers ∧ (new.filter fun firing => firing.triggerId = trigger.id) = [] := by
  have hinert : ∀ triggerId, activeTrigger triggerId trigger = false := by
    intro triggerId
    rw [activeTrigger, decide_eq_false hretired, Bool.and_false]
  cases h with
  | same triggers => exact ⟨triggers ▸ htrigger, rfl⟩
  | registered other hnew active unfired messages triggers =>
    exact ⟨triggers ▸ List.mem_append_left _ htrigger, rfl⟩
  | retired triggerId reason now messages triggers =>
    exact ⟨triggers ▸ mem_updateWhere_of_neg htrigger (hinert triggerId), rfl⟩
  | fired firing other now mem active creates messages triggers =>
    refine ⟨triggers ▸ mem_updateWhere_of_neg htrigger (hinert firing.triggerId), ?_⟩
    refine List.filter_cons_of_neg ?_
    rw [decide_eq_true_eq]
    intro hid
    exact hretired (hids.eq mem htrigger (creates.id.trans hid) ▸ active)

end Steps

/-! ## Every run -/

section Runs
variable [DecidableEq Json] [SerdeJson Json] [Sha256] {cs later : List (Command Json)}

/-- The firings of a run agree with its log and its registrations. -/
theorem run_firingsRecorded (h : Fresh cs) : FiringsRecorded (runFirings cs) (run cs) := by
  refine run_induction (fun cs (s : Store) => FiringsRecorded (runFirings cs) s)
    ⟨List.nodup_nil, List.Sublist.refl _, (fun _ hf => by cases hf), (fun _ ht => by cases ht)⟩
    (fun cs c hfresh heff hcs => ?_) h
  obtain ⟨new, hfirings, hhooks⟩ := run_hooks hfresh
  rw [run_snoc] at hhooks
  rw [hfirings]
  exact hcs.step hhooks heff.messages heff.triggers

/-- A retired registration stays as it is, and nothing more is created under it. -/
theorem run_retired (hle : cs <+: later) (h : Fresh later) {trigger : Trigger}
    (htrigger : trigger ∈ (run cs).triggers) (hretired : trigger.state ≠ .active) :
    trigger ∈ (run later).triggers ∧
      ((runFirings later).filter fun firing => firing.triggerId = trigger.id) =
        (runFirings cs).filter fun firing => firing.triggerId = trigger.id := by
  obtain ⟨ds, rfl⟩ := hle
  refine run_induction_from cs (fun ds (s : Store) => trigger ∈ s.triggers ∧
    ((runFirings (cs ++ ds)).filter fun firing => firing.triggerId = trigger.id) =
      (runFirings cs).filter fun firing => firing.triggerId = trigger.id)
    (by rw [List.append_nil]; exact ⟨htrigger, rfl⟩) (fun ds c hfresh _ hds => ?_) h
  obtain ⟨new, hfirings, hhooks⟩ := run_hooks hfresh
  rw [run_snoc] at hhooks
  obtain ⟨hkept, hnone⟩ := hhooks.retired_kept (run_firingsRecorded hfresh.left).ids hds.1 hretired
  refine ⟨hkept, ?_⟩
  rw [← List.append_assoc, hfirings, List.filter_append, hnone, List.append_nil]
  exact hds.2

/-- What the owner of a trigger can rely on after a run. -/
structure FiresOnce (cs : List (Command Json)) : Prop where
  counted : ∀ trigger ∈ (run cs).triggers, trigger.acceptedOccurrences =
    ((runFirings cs).filter fun firing => firing.triggerId = trigger.id).length
  messages : ((runFirings cs).map Firing.message).Sublist (run cs).messages
  once : ((runFirings cs).map Firing.occurrence).Nodup
  declared : ∀ firing ∈ runFirings cs, ∃ trigger ∈ (run cs).triggers, trigger.Creates firing
  retired : ∀ trigger ∈ (run cs).triggers, trigger.state ≠ .active → ∀ later, cs <+: later →
    Fresh later → trigger ∈ (run later).triggers ∧
      ((runFirings later).filter fun firing => firing.triggerId = trigger.id) =
        (runFirings cs).filter fun firing => firing.triggerId = trigger.id
  created : ∀ triggerId (occurrence : TriggerOccurrence Json) messageId messageNow now fired t,
    fire triggerId occurrence messageId messageNow now (run cs) = .ok (fired, t) →
    fired.created = false ∧ t = run cs ∨ fired.created = true ∧ ∃ firing : Firing,
      firing.occurrence = (triggerId, occurrence.occurrenceId) ∧
        firing.message.id = fired.messageId ∧ t.messages = (run cs).messages ++ [firing.message] ∧
        runFirings (cs ++ [.fireTrigger triggerId occurrence messageId messageNow now]) =
          runFirings cs ++ [firing]
  repeated : ∀ triggerId (occurrence : TriggerOccurrence Json) messageId messageNow now fired t,
    fire triggerId occurrence messageId messageNow now (run cs) = .ok (fired, t) →
    ∀ later, cs ++ [.fireTrigger triggerId occurrence messageId messageNow now] <+: later →
    Fresh later → ∀ trigger,
    (run later).triggers.find? (fun x => x.id = triggerId) = some trigger →
    ∀ messageId' messageNow' now',
      fire triggerId occurrence messageId' messageNow' now' (run later) =
        if trigger.state = .active then .ok ({ fired with created := false }, run later)
        else .error (.conflict s!"trigger {triggerId} is retired and may not create work")
  refused : ∀ triggerId (occurrence : TriggerOccurrence Json) messageId messageNow now e,
    fire triggerId occurrence messageId messageNow now (run cs) = .error e →
    run (cs ++ [.fireTrigger triggerId occurrence messageId messageNow now]) = run cs

/-- A firing of a retired trigger is refused. -/
theorem fire_of_retired {triggerId messageId : String} {occurrence : TriggerOccurrence Json}
    {messageNow now : Int} {trigger : Trigger}
    (hfind : s.triggers.find? (fun x => x.id = triggerId) = some trigger)
    (hretired : trigger.state ≠ .active) (hoccurrence : validateOccurrence occurrence = .ok ()) :
    fire triggerId occurrence messageId messageNow now s =
      .error (.conflict s!"trigger {triggerId} is retired and may not create work") := by
  have htrigger : triggerInTransaction triggerId s = .ok (trigger, s) := by
    simp only [triggerInTransaction, bind_run, read_run, hfind, require_some_run]
  simp only [fire, bind_run, hoccurrence, check_ok_run, htrigger, ensure_run, if_neg hretired]

variable [LawfulSerdeJson Json]

/-- After every run with fresh lease tokens each trigger has fired at most once for an occurrence,
and inside its declaration. -/
theorem run_firesOnce (h : Fresh cs) : FiresOnce cs where
  counted := (run_firingsRecorded h).counted
  messages := (run_firingsRecorded h).messages
  once := (run_firingsRecorded h).once (run_invariant h).log
  declared := (run_firingsRecorded h).declared
  retired _ htrigger hretired _ hle hfresh := run_retired hle hfresh htrigger hretired
  created triggerId occurrence messageId messageNow now fired t hok := by
    have hstep : (Command.fireTrigger triggerId occurrence messageId messageNow now).step (run cs) = t :=
      commit_of_ok (discard_of_ok hok)
    obtain hsame | ⟨firing, hcreated, hoccurrence, hid, hmessages, -⟩ := fire_hooks hok
    · exact .inl hsame
    · refine .inr ⟨hcreated, firing, hoccurrence, hid, hmessages, ?_⟩
      obtain ⟨htrigger, hocc⟩ := Prod.mk.inj hoccurrence
      have hout : (Command.fireTrigger triggerId occurrence messageId messageNow now).firings (run cs) =
          [firing] := by
        rw [Command.firings, hstep, hmessages, List.drop_left, List.map_singleton, ← htrigger, ← hocc]
      rw [runFirings, outputsFrom_snoc]
      exact congrArg (_ ++ ·) hout
  repeated triggerId occurrence messageId messageNow now fired t hok later hle hfresh trigger hfind
      messageId' messageNow' now' := by
    split
    · rename_i hactive
      exact ((run_appendsDurably h).refired triggerId occurrence messageId messageNow now fired t hok
        later hle hfresh trigger hfind hactive).1 messageId' messageNow' now'
    · rename_i hretired
      exact fire_of_retired hfind hretired (fire_stored hok).1
  refused triggerId occurrence messageId messageNow now e herror := by
    rw [run_snoc]
    refine commit_of_error (e := e) ?_
    simp only [Command.exec, discard, bind_run, herror]

end Runs

/-- In the sample the occurrence has created one message before its trigger was retired. -/
theorem run_firesOnce_retiredTriggerRun : Fresh retiredTriggerRun ∧ FiresOnce retiredTriggerRun :=
  ⟨by decide, run_firesOnce (by decide)⟩

/-- The sample up to the firing. -/
def registeredTriggerRun : List (Command Bool) := retiredTriggerRun.take 6

set_option maxRecDepth 100000 in
/-- A repeat of an occurrence is not answered with its message once the trigger is retired. -/
theorem fire_unanswered_retiredTriggerRun :
    ¬ ∀ (cs later : List (Command Bool)) triggerId occurrence messageId messageNow now fired t,
      fire triggerId occurrence messageId messageNow now (run cs) = .ok (fired, t) →
      cs ++ [.fireTrigger triggerId occurrence messageId messageNow now] <+: later → Fresh later →
      ∃ again, fire triggerId occurrence messageId messageNow now (run later) =
        .ok (again, run later) ∧ again.messageId = fired.messageId := by
  intro hall
  have hfires : (fire "t" ⟨"o", "b", "work", true⟩ "n" 5 5 (run registeredTriggerRun)).toBool = true := by
    decide +kernel
  have hrefused : (fire "t" ⟨"o", "b", "work", true⟩ "n" 5 5 (run retiredTriggerRun)).toBool = false := by
    decide +kernel
  obtain ⟨e, hfire⟩ | ⟨⟨fired, t⟩, hfire⟩ :
      (∃ e, fire "t" ⟨"o", "b", "work", true⟩ "n" 5 5 (run registeredTriggerRun) = .error e) ∨
      ∃ r, fire "t" ⟨"o", "b", "work", true⟩ "n" 5 5 (run registeredTriggerRun) = .ok r := by
    cases fire "t" ⟨"o", "b", "work", true⟩ "n" 5 5 (run registeredTriggerRun) with
    | error e => exact .inl ⟨e, rfl⟩
    | ok r => exact .inr ⟨r, rfl⟩
  · rw [hfire] at hfires
    cases hfires
  · obtain ⟨again, hagain, -⟩ := hall registeredTriggerRun retiredTriggerRun "t"
      ⟨"o", "b", "work", true⟩ "n" 5 5 fired t hfire ⟨[.retireTrigger "t" "done" 6], rfl⟩ (by decide)
    rw [hagain] at hrefused
    cases hrefused

end Fleetd
