import Fleetd.System.Command
import Fleetd.Refinement.Directory
import Fleetd.Refinement.Evidence

/-!
# What a command can do, and what holds after every run

Every committed command changes the ledger by moves it is entitled to and the log by at
most one append. From this the invariants hold in every state that a run with fresh lease
tokens reaches.
-/

namespace Fleetd

open Relational Relational.Transaction

variable {Json : Type} {s t : Store}

/-! ## Entitlements -/

/-- Commands that may append a message. -/
def Command.isPosting : Command Json → Bool
  | .appendMessage .. | .fireTrigger .. => true
  | .completeInvocation .. | .completeSessionInvocation .. => true
  | _ => false

/-- Commands that may publish a result. -/
def Command.isCompletion : Command Json → Bool
  | .completeInvocation .. | .completeSessionInvocation .. => true
  | _ => false

/-- Commands that may adopt a session. -/
def Command.isAcquisition : Command Json → Bool
  | .acquireSessionBinding .. => true
  | _ => false

/-- Commands that may retire a session under an armed invocation. -/
def Command.isRetirement : Command Json → Bool
  | .retireSessionBinding .. => true
  | _ => false

/-- Commands that may change the evidence tables. -/
def Command.isObserving : Command Json → Bool
  | .recordPluginGeneration .. | .heartbeatPluginGeneration .. | .stopPluginGeneration .. => true
  | .recordInvocationEvent .. | .recordInvocationTerminal .. | .armSessionInvocation .. => true
  | _ => false

/-- The decision an operator's command carries. -/
def Command.decides : Command Json → Option (Int × BlockResolution)
  | .resolveDeliveryBlock blockId input _ => some (blockId, input.resolution)
  | _ => none

/-- The moves a command is entitled to. -/
def Command.permits (c : Command Json) : Action → Prop
  | .internal => True
  | .observe => c.isObserving = true
  | .deliver _ => c.isPosting = true
  | .lease leaseToken => leaseToken ∈ c.leaseTokens
  | .publish _ => c.isCompletion = true
  | .adopt => c.isAcquisition = true
  | .retire stranding => stranding = true → c.isRetirement = true
  | .resolve blockId resolution => c.decides = some ((blockId : Int), resolution)

/-! ## The effect of one command -/

/-- What a successful command does. -/
structure Effect (Json : Type) [SerdeJson Json] (permits : Action → Prop) (s t : Store) :
    Prop where
  moves : Moves permits s.toLedger t.toLedger
  log : Quiet s t ∨ ∃ m, Posts s t m ∧ m.Printed Json
  logConsistent : LogConsistent t
  evidence : EvidenceConsistent t
  observed : permits .observe ∨ t.invocationObservations = s.invocationObservations ∧
    t.pluginGenerations = s.pluginGenerations
  triggers : Extends Trigger.Keeps s.triggers t.triggers

section Effects

variable [SerdeJson Json] {permits : Action → Prop}

/-- A transaction on the ledger alone. -/
theorem Advances.effect (h : Advances permits s t) (hp : ∀ seq, ¬ permits (.deliver seq))
    (hlog : LogConsistent s) (hev : EvidenceConsistent s) : Effect Json permits s t := by
  have hsettles : Settles s t :=
    ⟨⟨by rw [h.frame], by rw [h.frame], h.moves.deliveryKeys hp⟩, by rw [h.frame], by rw [h.frame]⟩
  refine ⟨h.moves, .inl hsettles.toQuiet, hlog.settles hsettles, ⟨?_, ?_⟩, .inr ⟨?_, ?_⟩, ?_⟩
  · rw [h.frame]
    exact hev.observationIds
  · rw [h.frame]
    exact hev.generationIds
  · rw [h.frame]
  · rw [h.frame]
  · rw [h.frame]
    exact .refl Trigger.Keeps.refl _

/-- A change of the directory. -/
theorem Enrolls.effect (h : Enrolls s t) (hlog : LogConsistent s) (hev : EvidenceConsistent s) :
    Effect Json permits s t := by
  have hl : t.toLedger = s.toLedger := by rw [h.frame]
  refine ⟨by rw [hl]; exact .refl, .inl ⟨?_, ?_, ?_⟩, h.log hlog, ⟨?_, ?_⟩, .inr ⟨?_, ?_⟩, ?_⟩
  · rw [h.frame]
  · rw [h.frame]
  · rw [h.frame]
  · rw [h.frame]
    exact hev.observationIds
  · rw [h.frame]
    exact hev.generationIds
  · rw [h.frame]
  · rw [h.frame]
  · rw [h.frame]
    exact .refl Trigger.Keeps.refl _

/-- A change of the evidence tables. -/
theorem Observes.effect (h : Observes s t) (hp : permits .observe) (hlog : LogConsistent s)
    (hev : EvidenceConsistent t) : Effect Json permits s t := by
  have hl : t.toLedger = s.toLedger := by rw [h]
  have hsettles : Settles s t := ⟨⟨by rw [h], by rw [h], by rw [h]⟩, by rw [h], by rw [h]⟩
  refine ⟨by rw [hl]; exact .refl, .inl hsettles.toQuiet, hlog.settles hsettles, hev, .inl hp, ?_⟩
  rw [h]
  exact .refl Trigger.Keeps.refl _

/-- A change of registrations. -/
theorem Registers.effect (h : Registers s t) (hlog : LogConsistent s)
    (hev : EvidenceConsistent s) : Effect Json permits s t := by
  have hl : t.toLedger = s.toLedger := by rw [h.frame]
  have hsettles : Settles s t :=
    ⟨⟨by rw [h.frame], by rw [h.frame], by rw [h.frame]⟩, by rw [h.frame], by rw [h.frame]⟩
  refine ⟨by rw [hl]; exact .refl, .inl hsettles.toQuiet, hlog.settles hsettles, ⟨?_, ?_⟩,
    .inr ⟨?_, ?_⟩, h.kept⟩
  · rw [h.frame]
    exact hev.observationIds
  · rw [h.frame]
    exact hev.generationIds
  · rw [h.frame]
  · rw [h.frame]

/-- A change of the generations' clocks keeps their identifiers. -/
theorem EvidenceConsistent.generations (h : EvidenceConsistent s)
    {p : PluginGeneration → Bool} {f : PluginGeneration → PluginGeneration}
    (hobs : t.invocationObservations = s.invocationObservations)
    (hgen : t.pluginGenerations = updateWhere p f s.pluginGenerations) (hf : ∀ g, (f g).id = g.id) :
    EvidenceConsistent t :=
  ⟨by rw [hobs]; exact h.observationIds,
    by rw [hgen]; exact h.generationIds.updateWhere fun g _ _ => hf g⟩

/-- A change of one observation that keeps its identifier. -/
theorem EvidenceConsistent.observation (h : EvidenceConsistent s) {o o' : InvocationObservation}
    {generationId : String} {now : Int}
    (hobs : t.invocationObservations = replaceRow o o' s.invocationObservations)
    (hgen : t.pluginGenerations = touched generationId now s.pluginGenerations)
    (ho : o'.invocationId = o.invocationId) :
    EvidenceConsistent t :=
  ⟨by rw [hobs]; exact h.observationIds.replaceRow ho,
    by rw [hgen]; exact h.generationIds.updateWhere fun _ _ _ => rfl⟩

/-- An append with whatever its transaction does to the ledger. -/
theorem Posts.effect {m : MessageRow} (h : Posts s t m) (hm : m.Printed Json) (hlog : LogConsistent s)
    (hmoves : Moves permits s.toLedger t.toLedger)
    (hobs : t.invocationObservations = s.invocationObservations)
    (hgen : t.pluginGenerations = s.pluginGenerations)
    (htrig : Extends Trigger.Keeps s.triggers t.triggers) (hev : EvidenceConsistent s) :
    Effect Json permits s t :=
  ⟨hmoves, .inr ⟨m, h, hm⟩, hlog.posts h, ⟨by rw [hobs]; exact hev.observationIds,
    by rw [hgen]; exact hev.generationIds⟩, .inr ⟨hobs, hgen⟩, htrig⟩

/-- Nothing happened. -/
theorem Effect.refl (hlog : LogConsistent s) (hev : EvidenceConsistent s) : Effect Json permits s s :=
  ⟨.refl, .inl ⟨rfl, rfl, rfl⟩, hlog, hev, .inr ⟨rfl, rfl⟩, .refl Trigger.Keeps.refl _⟩

/-- An append by itself. -/
theorem Postable.effect {m : MessageRow} (h : Postable s m) (hm : m.Printed Json)
    (hp : permits (.deliver m.seq))
    (hlog : LogConsistent s) (hev : EvidenceConsistent s) : Effect Json permits s (postedStore s m) :=
  h.posts.effect hm hlog (.single hp (h.move hlog)) rfl rfl (.refl Trigger.Keeps.refl _) hev

end Effects

theorem discard_ok {α : Type} {x : Tx α} {u : Unit} (h : discard x s = .ok (u, t)) :
    ∃ a, x s = .ok (a, t) := by
  simp only [discard, bind_ok, pure_ok] at h
  obtain ⟨a, _, hx, _, rfl⟩ := h
  exact ⟨a, hx⟩

theorem discard_of_ok {α : Type} {x : Tx α} {a : α} (h : x s = .ok (a, t)) :
    discard x s = .ok ((), t) := by
  simp only [discard, bind_run, h, pure_run]

/-- The invariant of every reachable state, relative to the tokens minted so far. -/
structure Invariant (minted : List String) (s : Store) : Prop where
  ledger : Consistent s.toLedger
  log : LogConsistent s
  evidence : EvidenceConsistent s
  tokens : TokensIn minted s.toLedger

section Commands

variable [DecidableEq Json] [SerdeJson Json] [Sha256] {minted : List String}

/-- A successful completion outside a session. -/
theorem completeInvocation_effect (hinv : Invariant minted s) {agentId invocationId : String}
    {input : CompleteInvocation Json} {now resultNow : Int} {resultId : String}
    {result : InvocationCompletion Json × Bool} {permits : Action → Prop}
    (hp : ∀ seq, permits (.deliver seq)) (hp' : ∀ seq, permits (.publish seq))
    (h : completeInvocation agentId invocationId input now resultId resultNow s = .ok (result, t)) :
    Effect Json permits s t := by
  rcases completeInvocationTransaction_ok hinv.ledger hinv.log h with
    ⟨_, _, _, _, rfl, _⟩ | ⟨i, d, origin, hpub, _, hunbound⟩
  · exact .refl hinv.log hinv.evidence
  · obtain ⟨hable, hpost, rfl⟩ := hpub
    exact (hable.posts hpost now).effect ⟨input.payload, rfl⟩ hinv.log
      (hable.settle hinv.ledger hinv.log hpost now (hp _) (hp' _) (hunbound rfl)) rfl rfl
      (.refl Trigger.Keeps.refl _) hinv.evidence

/-- A successful completion under a session. -/
theorem completeSessionInvocation_effect (hinv : Invariant minted s)
    {agentId invocationId : String} {binding : Binding} {persistence : SessionPersistence}
    {input : CompleteInvocation Json} {now resultNow : Int} {resultId : String}
    {result : InvocationCompletion Json × Bool} {permits : Action → Prop}
    (hp : ∀ seq, permits (.deliver seq)) (hp' : ∀ seq, permits (.publish seq))
    (h : completeSessionInvocation agentId invocationId binding persistence input now resultId
      resultNow s = .ok (result, t)) : Effect Json permits s t := by
  rcases completeSessionInvocation_ok hinv.ledger hinv.log h with
    ⟨rfl, _⟩ | ⟨i, d, origin, mid, turn, row, hpub, _, hturn, hid, hrun, hrow, _, _, hkey, hon, rfl⟩
  · exact .refl hinv.log hinv.evidence
  · obtain ⟨hable, hpost, rfl⟩ := hpub
    have hposts := hable.posts hpost now
    exact Posts.effect
      ⟨hpost, hposts.messages, hposts.sequence, hposts.members, hposts.channels, hposts.snapshot⟩
      ⟨input.payload, rfl⟩ hinv.log
      (hable.complete hinv.log hpost now persistence (hp _) (hp' _) hturn hid hrun hrow hkey hon)
      rfl rfl (.refl Trigger.Keeps.refl _) hinv.evidence

/-- A successful arming under a session. -/
theorem armSessionInvocation_effect (hinv : Invariant minted s) {agentId invocationId : String}
    {binding : Binding} {sessionRef generationId : String} {input : ArmInvocation} {now : Int}
    {result : BoundInvocation Json} {permits : Action → Prop} (hp : permits .internal)
    (ho : permits .observe) (hq : ∀ seq, ¬ permits (.deliver seq))
    (h : armSessionInvocation agentId invocationId binding sessionRef generationId input now s =
      .ok (result, t)) : Effect Json permits s t := by
  obtain ⟨_, hnew, mid, hadv, rfl⟩ := armSessionInvocation_ok hp hinv.ledger h
  have heff : Effect Json permits s mid := hadv.effect hq hinv.log hinv.evidence
  have hmessages : mid.messages = s.messages ∧ mid.messageSequence = s.messageSequence := by
    rw [hadv.frame]
    exact ⟨rfl, rfl⟩
  refine ⟨hadv.moves, .inl ⟨hmessages.1, hmessages.2, hadv.moves.deliveryKeys hq⟩,
    heff.logConsistent.settles ⟨⟨rfl, rfl, rfl⟩, rfl, rfl⟩, ⟨?_, heff.evidence.generationIds⟩,
    .inl ho, heff.triggers⟩
  refine hinv.evidence.observationIds.append (.singleton _ _) fun x hx y hy heq => ?_
  rw [List.mem_singleton.mp hy] at heq
  exact hnew x hx heq

/-- Every successful command has an effect it is entitled to. -/
theorem Command.effect (hinv : Invariant minted s) {c : Command Json} {u : Unit}
    (hfresh : ∀ leaseToken ∈ c.leaseTokens, leaseToken ∉ minted)
    (h : c.exec s = .ok (u, t)) : Effect Json c.permits s t := by
  have hc := hinv.ledger
  have hlog := hinv.log
  have hev := hinv.evidence
  have htok := hinv.tokens
  cases c with
  | createAgent id name now =>
    obtain ⟨_, h⟩ := discard_ok h
    exact (createAgent_enrolls hlog h).effect hlog hev
  | createChannel id name memberIds members now =>
    obtain ⟨_, h⟩ := discard_ok h
    exact (createChannel_enrolls hlog h).effect hlog hev
  | openDirectPair id name members now =>
    obtain ⟨_, h⟩ := discard_ok h
    exact (openDirectPair_enrolls hlog h).effect hlog hev
  | renameChannel channelId name =>
    obtain ⟨_, h⟩ := discard_ok h
    exact (renameChannel_enrolls hlog h).effect hlog hev
  | archiveChannel channelId now =>
    obtain ⟨_, h⟩ := discard_ok h
    exact (archiveChannel_enrolls hlog h).effect hlog hev
  | addMember channelId agentId mode now => exact (addMember_enrolls hlog h).effect hlog hev
  | advanceReadCursor channelId agentId throughSeq =>
    obtain ⟨_, h⟩ := discard_ok h
    exact (advanceReadCursor_enrolls hlog h).effect hlog hev
  | appendMessage channelId input id now =>
    obtain ⟨_, h⟩ := discard_ok h
    rcases appendMessageInTransaction_ok h with ⟨_, rfl⟩ | ⟨_, hpost, rfl⟩
    · exact .refl hlog hev
    · exact hpost.effect ⟨input.payload, rfl⟩ rfl hlog hev
  | registerTrigger id input now =>
    obtain ⟨_, h⟩ := discard_ok h
    exact (registerTrigger_registers h).effect hlog hev
  | retireTrigger triggerId reason now =>
    obtain ⟨_, h⟩ := discard_ok h
    exact (retireTrigger_registers h).effect hlog hev
  | fireTrigger triggerId occurrence messageId messageNow now =>
    obtain ⟨_, h⟩ := discard_ok h
    obtain ⟨mid, hreg, rfl | ⟨m, hpost, hprinted, rfl⟩⟩ := fire_ok h
    · exact hreg.effect hlog hev
    · have hkept : Extends Trigger.Keeps s.triggers t.triggers := hreg.kept
      rw [hreg.frame]
      exact Posts.effect ⟨hpost, rfl, rfl, rfl, rfl, s.agentDeliveries, rfl, rfl⟩ hprinted hlog
        (.single (a := .deliver m.seq) rfl (hpost.move hlog)) rfl rfl hkept hev
  | recordPluginGeneration generation now =>
    obtain ⟨_, h⟩ := discard_ok h
    obtain ⟨hnew, rfl⟩ := recordPluginGeneration_ok h
    refine Observes.effect rfl rfl hlog ⟨hev.observationIds,
      hev.generationIds.append (.singleton _ _) fun g hg y hy heq => ?_⟩
    rw [List.mem_singleton.mp hy] at heq
    exact hnew g hg heq
  | heartbeatPluginGeneration generationId now =>
    rw [heartbeatPluginGeneration_ok h]
    exact Observes.effect rfl rfl hlog (hev.generations rfl rfl fun _ => rfl)
  | stopPluginGeneration generationId stop now =>
    obtain ⟨_, h⟩ := discard_ok h
    rw [stopPluginGeneration_ok h]
    exact Observes.effect rfl rfl hlog (hev.generations rfl rfl fun _ => rfl)
  | recordInvocationEvent generationId invocationId eventSeq observedAtMs classification raw now =>
    obtain ⟨o, _, _, _, _, _, _, _, _, ⟨rfl, _⟩ | ⟨_, _, rfl⟩⟩ := recordInvocationEvent_ok h
    · exact .refl hlog hev
    · exact Observes.effect rfl rfl hlog (hev.observation rfl rfl rfl)
  | recordInvocationTerminal generationId terminal now =>
    obtain ⟨o, _, _, _, rfl | ⟨_, _, rfl⟩⟩ := recordInvocationTerminal_ok hev h
    · exact .refl hlog hev
    · exact Observes.effect rfl rfl hlog (hev.observation rfl rfl rfl)
  | claimDeliveries agentId input now leaseToken =>
    obtain ⟨_, h⟩ := discard_ok h
    have hmem : leaseToken ∈ [leaseToken] := List.mem_singleton_self _
    exact (claimDeliveries_advances trivial hmem hc htok (hfresh _ hmem) h).effect
      (fun _ hp => by cases hp) hlog hev
  | reserveInvocations agentId input now leaseToken mint =>
    obtain ⟨_, h⟩ := discard_ok h
    have hmem : leaseToken ∈ [leaseToken] := List.mem_singleton_self _
    exact (reserveInvocationsFiltered_advances trivial hmem hc htok (hfresh _ hmem) h).effect
      (fun _ hp => by cases hp) hlog hev
  | reserveInvocationsByKind agentId input messageKinds now leaseToken mint =>
    obtain ⟨_, h⟩ := discard_ok h
    simp only [Fleetd.reserveInvocationsByKind, bind_ok, ensure_ok] at h
    obtain ⟨_, _, ⟨_, rfl⟩, h⟩ := h
    have hmem : leaseToken ∈ [leaseToken] := List.mem_singleton_self _
    exact (reserveInvocationsFiltered_advances trivial hmem hc htok (hfresh _ hmem) h).effect
      (fun _ hp => by cases hp) hlog hev
  | armInvocation agentId invocationId input now =>
    obtain ⟨_, h⟩ := discard_ok h
    exact (armInvocationTransaction_advances trivial hc h).1.effect (fun _ hp => by cases hp) hlog hev
  | armSessionInvocation agentId invocationId binding sessionRef generationId input now =>
    obtain ⟨_, h⟩ := discard_ok h
    exact armSessionInvocation_effect hinv trivial rfl (fun _ hp => by cases hp) h
  | completeInvocation agentId invocationId input now resultId resultNow =>
    obtain ⟨_, h⟩ := discard_ok h
    exact completeInvocation_effect hinv (fun _ => rfl) (fun _ => rfl) h
  | completeSessionInvocation agentId invocationId binding persistence input now resultId resultNow =>
    obtain ⟨_, h⟩ := discard_ok h
    exact completeSessionInvocation_effect hinv (fun _ => rfl) (fun _ => rfl) h
  | acknowledgeDelivery agentId messageId leaseToken now =>
    exact (acknowledgeDelivery_advances trivial hc h).effect (fun _ hp => by cases hp) hlog hev
  | retryDelivery agentId messageId input now =>
    exact (retryDelivery_advances trivial hc h).effect (fun _ hp => by cases hp) hlog hev
  | blockDelivery agentId messageId input now =>
    obtain ⟨_, h⟩ := discard_ok h
    exact (blockDelivery_advances trivial hc h).effect (fun _ hp => by cases hp) hlog hev
  | markSessionInvocationUncertain agentId invocationId binding reason now =>
    obtain ⟨_, h⟩ := discard_ok h
    exact (markSessionInvocationUncertain_advances trivial hc h).effect (fun _ hp => by cases hp) hlog
      hev
  | acquireSessionBinding agentId input now freshBindingId =>
    obtain ⟨_, h⟩ := discard_ok h
    refine Advances.effect ((acquireSessionBinding_ok hc h).advances ?_ ?_ ?_)
      (fun _ hp => by cases hp) hlog hev
    · exact trivial
    · rfl
    · exact fun hf => by cases hf
  | recordSessionOpened agentId binding sessionRef now =>
    obtain ⟨_, h⟩ := discard_ok h
    exact (recordSessionOpened_advances trivial h).effect (fun _ hp => by cases hp) hlog hev
  | retireSessionBinding agentId binding reason now =>
    obtain ⟨_, h⟩ := discard_ok h
    exact (retireSessionBinding_advances (fun _ => rfl) h).effect (fun _ hp => by cases hp) hlog hev
  | recoverAllExpiredInvocations earlier now =>
    obtain ⟨_, h⟩ := discard_ok h
    exact (recoverAgents_advances trivial _ hc h).effect (fun _ hp => by cases hp) hlog hev
  | resolveDeliveryBlock blockId input now =>
    refine (resolveDeliveryBlock_advances (fun id hid => ?_) (fun hf => by cases hf) hc h).effect
      (fun _ hp => by cases hp) hlog hev
    exact congrArg (fun x => some (x, input.resolution)) hid.symm

/-- A step commits an effect of its command or changes nothing. -/
theorem Command.step_cases (c : Command Json) (s : Store) :
    (∃ u, c.exec s = .ok (u, c.step s)) ∨ c.step s = s := by
  rcases commit_cases c.exec s with hok | ⟨_, herror⟩
  · exact .inl hok
  · exact .inr herror

/-- Every step has an effect. -/
theorem Command.step_effect (hinv : Invariant minted s) {c : Command Json}
    (hfresh : ∀ leaseToken ∈ c.leaseTokens, leaseToken ∉ minted) :
    Effect Json c.permits s (c.step s) := by
  rcases c.step_cases s with ⟨_, hok⟩ | hsame
  · exact c.effect hinv hfresh hok
  · rw [hsame]
    exact .refl hinv.log hinv.evidence

/-- A step keeps the invariant and mints its tokens. -/
theorem Invariant.step (hinv : Invariant minted s) {c : Command Json}
    (hfresh : ∀ leaseToken ∈ c.leaseTokens, leaseToken ∉ minted) :
    Invariant (minted ++ c.leaseTokens) (c.step s) := by
  have heff := c.step_effect hinv hfresh
  refine ⟨hinv.ledger.moves heff.moves, heff.logConsistent, heff.evidence, ?_⟩
  refine (hinv.tokens.mono (List.subset_append_left ..)).moves heff.moves fun tok hp => ?_
  exact List.mem_append_right _ hp

/-- The empty database satisfies the invariant. -/
theorem invariant_empty : Invariant [] Store.empty where
  ledger :=
    { (by constructor <;> simp [Store.empty, KeyUnique] : LeasesConsistent Store.empty.toLedger),
      (by constructor <;> simp [Store.empty, KeyUnique] : SessionsConsistent Store.empty.toLedger),
      (by constructor <;> simp [Store.empty, laneRows] : LanesConsistent Store.empty.toLedger) with }
  log := by constructor <;> simp [Store.empty, KeyUnique]
  evidence := by constructor <;> simp [Store.empty, KeyUnique]
  tokens := by constructor <;> simp [Store.empty]

/-- The invariant holds after every run with fresh lease tokens. -/
theorem run_invariant {cs : List (Command Json)} (h : Fresh cs) :
    Invariant (cs.flatMap Command.leaseTokens) (run cs) := by
  refine FreshAlong.induction (fun ds s => Invariant (ds.flatMap Command.leaseTokens) s)
    invariant_empty (fun ds c hfresh hinv => ?_) cs h
  rw [List.flatMap_append, List.flatMap_singleton]
  exact hinv.step fun _ htok => hfresh.not_mem htok

/-- The last command acts on the state the earlier ones reached. -/
theorem run_snoc (cs : List (Command Json)) (c : Command Json) :
    run (cs ++ [c]) = c.step (run cs) :=
  runFrom_snoc _ _ _ _

/-- One more command after a fresh run has an effect. -/
theorem run_effect {cs : List (Command Json)} {c : Command Json} (h : Fresh (cs ++ [c])) :
    Effect Json c.permits (run cs) (run (cs ++ [c])) := by
  rw [run_snoc]
  exact c.step_effect (run_invariant h.left) fun _ htok => h.not_mem htok

/-- A property of runs that holds at the start and that every effect keeps holds of every run. -/
theorem run_induction (P : List (Command Json) → Store → Prop) (init : P [] Store.empty)
    (next : ∀ cs c, Fresh (cs ++ [c]) → Effect Json c.permits (run cs) (c.step (run cs)) →
      P cs (run cs) → P (cs ++ [c]) (c.step (run cs)))
    {cs : List (Command Json)} (h : Fresh cs) : P cs (run cs) :=
  FreshAlong.induction P init (fun ds c hfresh hds => next ds c hfresh
    (c.step_effect (run_invariant hfresh.left) fun _ ht => hfresh.not_mem ht) hds) cs h

/-- A property that holds after a run and that every effect keeps holds of every continuation. -/
theorem run_induction_from (cs : List (Command Json)) (P : List (Command Json) → Store → Prop)
    (init : P [] (run cs))
    (next : ∀ ds c, Fresh (cs ++ ds ++ [c]) →
      Effect Json c.permits (run (cs ++ ds)) (c.step (run (cs ++ ds))) → P ds (run (cs ++ ds)) →
      P (ds ++ [c]) (c.step (run (cs ++ ds))))
    {ds : List (Command Json)} (h : Fresh (cs ++ ds)) : P ds (run (cs ++ ds)) :=
  FreshAlong.induction_from cs P init (fun ds c hfresh hds => next ds c hfresh
    (c.step_effect (run_invariant hfresh.left) fun _ ht => hfresh.not_mem ht) hds) ds h

/-- An append adds a message with a printed payload. -/
theorem Effect.printed {permits : Action → Prop} (h : Effect Json permits s t)
    (hs : ∀ m ∈ s.messages, m.Printed Json) : ∀ m ∈ t.messages, m.Printed Json := by
  intro m hm
  rcases h.log with hquiet | ⟨n, hposts, hn⟩
  · rw [hquiet.messages] at hm
    exact hs m hm
  · rw [hposts.messages] at hm
    rcases List.mem_append.mp hm with hm | hm
    · exact hs m hm
    · rw [List.mem_singleton.mp hm]
      exact hn

/-- Every message of the log has a payload that was printed. -/
theorem run_printed {cs : List (Command Json)} (h : Fresh cs) :
    ∀ m ∈ (run cs).messages, m.Printed Json :=
  run_induction (fun _ (s : Store) => ∀ m ∈ s.messages, m.Printed Json)
    (fun _ hm => by cases hm) (fun _ _ _ heff hs => heff.printed hs) h

end Commands

end Fleetd
