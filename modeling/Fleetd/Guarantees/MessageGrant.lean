import Fleetd.Controller.MessageGrant
import Fleetd.Guarantees.Log

/-!
# What a message grant lets an agent publish

The budget, the fence and the idempotency key of a grant live in different places: the first two
in the armed grant behind the lock, the last one in the log. The lock is held through the append,
so every message that is created under a grant carries the identity of its invocation, there are at
most eight of them, and none comes after the grant was disarmed. The log answers a repeat.
-/

namespace Fleetd

open Relational Relational.Transaction

variable {Json : Type}

/-! ## Events -/

/-- The activation that an event is about. -/
def MessageGrantEvent.activation : MessageGrantEvent Json → Option Nat
  | .activated n _ => some n
  | .deactivated n => some n
  | .published n _ _ _ _ _ => some n
  | .refused _ => none
  | .panicked => none

/-- Whether an event creates a message. -/
def MessageGrantEvent.isCreation : MessageGrantEvent Json → Bool
  | .published _ _ _ _ result _ => result.created
  | _ => false

/-- Whether an event creates a message under an activation. -/
def MessageGrantEvent.creates (n : Nat) (e : MessageGrantEvent Json) : Bool :=
  decide (e.activation = some n) && e.isCreation

/-- A publish repeats an operation of its invocation. -/
def MessageGrantEvent.RepeatedBy (e e' : MessageGrantEvent Json) : Prop :=
  ∃ n d g i r o n' d' g' i' r' o', e = .published n d g i r o ∧ e' = .published n' d' g' i' r' o' ∧
    g.invocationId = g'.invocationId ∧ g.senderId = g'.senderId ∧ i.operationId = i'.operationId

/-- A grant carries the identity of an invocation. -/
structure ActiveMessageGrant.IsFor (invocation : Invocation Json) (grant : ActiveMessageGrant) :
    Prop where
  invocationId : grant.invocationId = invocation.id
  senderId : grant.senderId = invocation.agentId
  channelId : grant.channelId = invocation.message.channelId
  sourceMessageId : grant.sourceMessageId = invocation.message.id
  correlationId : grant.correlationId =
    invocation.message.correlationId.getD invocation.message.id

/-! ## The armed grant -/

section Active

variable {history : List (MessageGrantEvent Json)} {activations n : Nat} {g : ActiveMessageGrant}
  {e : MessageGrantEvent Json}

/-- The armed grant, against the history. -/
structure ActiveInvariant (activations : Nat) (history : List (MessageGrantEvent Json)) (n : Nat)
    (g : ActiveMessageGrant) : Prop where
  below : n < activations
  armed : ∃ invocation, .activated n invocation ∈ history ∧ g.IsFor invocation
  running : .deactivated n ∉ history
  count : g.publishedMessages = history.countP (·.creates n)
  operations : ∀ op, op ∈ g.operations ↔
    ∃ d g' i r o, .published n d g' i r o ∈ history ∧ i.operationId = op

/-- One more event may be one more creation. -/
theorem countP_creates_concat (history : List (MessageGrantEvent Json)) (e : MessageGrantEvent Json)
    (n : Nat) : (history ++ [e]).countP (·.creates n) =
      history.countP (·.creates n) + if e.creates n then 1 else 0 := by
  rw [List.countP_append, List.countP_singleton]

/-- An event that is not about the armed grant leaves it as it is. -/
theorem ActiveInvariant.concat {activations' : Nat} (h : ActiveInvariant activations history n g)
    (hgrows : activations ≤ activations') (he : e.activation ≠ some n) :
    ActiveInvariant activations' (history ++ [e]) n g where
  below := Nat.lt_of_lt_of_le h.below hgrows
  armed := by
    obtain ⟨invocation, hactivated, hfor⟩ := h.armed
    exact ⟨invocation, List.mem_append_left _ hactivated, hfor⟩
  running hmem := by
    rcases List.mem_append.mp hmem with hmem | hmem
    · exact h.running hmem
    · exact he ((List.mem_singleton.mp hmem) ▸ rfl)
  count := by
    rw [countP_creates_concat, h.count, if_neg (by simp [MessageGrantEvent.creates, he]), Nat.add_zero]
  operations op := by
    rw [h.operations op]
    constructor
    · rintro ⟨d, g', i, r, o, hmem, hop⟩
      exact ⟨d, g', i, r, o, List.mem_append_left _ hmem, hop⟩
    · rintro ⟨d, g', i, r, o, hmem, hop⟩
      rcases List.mem_append.mp hmem with hmem | hmem
      · exact ⟨d, g', i, r, o, hmem, hop⟩
      · exact absurd ((List.mem_singleton.mp hmem) ▸ rfl) he

/-- A publish is recorded in the armed grant. -/
theorem ActiveInvariant.record {d : Option Nat} {i : PublishMessageInput Json}
    {r : AppendMessageResult Json} {o : PublishMessageOutput}
    (h : ActiveInvariant activations history n g) :
    ActiveInvariant activations (history ++ [.published n d g i r o]) n
      (g.record i.operationId r.created) where
  below := h.below
  armed := by
    obtain ⟨invocation, hactivated, hfor⟩ := h.armed
    exact ⟨invocation, List.mem_append_left _ hactivated, hfor.1, hfor.2, hfor.3, hfor.4, hfor.5⟩
  running hmem := by
    rcases List.mem_append.mp hmem with hmem | hmem
    · exact h.running hmem
    · cases List.mem_singleton.mp hmem
  count := by
    rw [countP_creates_concat, ActiveMessageGrant.record, h.count]
    cases hcreated : r.created <;> simp [MessageGrantEvent.creates, MessageGrantEvent.activation,
      MessageGrantEvent.isCreation, hcreated]
  operations op := by
    have hmem : op ∈ (g.record i.operationId r.created).operations ↔
        op ∈ g.operations ∨ i.operationId = op := by
      rw [ActiveMessageGrant.record]
      by_cases hknown : i.operationId ∈ g.operations
      · simp only [if_pos hknown, iff_self_or]
        exact fun heq => heq ▸ hknown
      · simp only [if_neg hknown, List.mem_append, List.mem_singleton, eq_comm]
    rw [hmem, h.operations op]
    constructor
    · rintro (⟨d', g', i', r', o', hold, hop⟩ | hop)
      · exact ⟨d', g', i', r', o', List.mem_append_left _ hold, hop⟩
      · exact ⟨d, g, i, r, o, List.mem_append_right _ (List.mem_singleton_self _), hop⟩
    · rintro ⟨d', g', i', r', o', hnew, hop⟩
      rcases List.mem_append.mp hnew with hold | hnew
      · exact .inl ⟨d', g', i', r', o', hold, hop⟩
      · cases List.mem_singleton.mp hnew
        exact .inr hop

end Active

/-! ## The log behind a publish -/

section Log

variable [DecidableEq Json] [SerdeJson Json] [Sha256]

/-- The log answers an operation of a grant with a message. -/
structure Answers (s : Store) (g : ActiveMessageGrant) (i : PublishMessageInput Json)
    (message : Message Json) : Prop where
  kind : isBlank i.kind = false
  key : validateIdempotencyKey (g.message i).idempotencyKey = .ok ()
  matched : messageMatchesInput message g.channelId (g.message i) = true
  row : ∃ m ∈ s.messages, m.senderId = g.senderId ∧
    m.idempotencyKey = (g.message i).idempotencyKey ∧ messageFromRow m = .ok message

variable {s t : Store} {g g' : ActiveMessageGrant} {i i' : PublishMessageInput Json}
  {message : Message Json} {id : String} {now : Int} {cs : List (Command Json)}

/-- The log only grows, so it keeps its answers. -/
theorem Answers.mono (h : Answers s g i message) (hle : s.messages <+: t.messages) :
    Answers t g i message := by
  obtain ⟨m, hm, hrow⟩ := h.row
  exact ⟨h.kind, h.key, h.matched, m, hle.subset hm, hrow⟩

/-- A successful append leaves its answer in the log. -/
theorem answers_of_append [LawfulSerdeJson Json] {result : AppendMessageResult Json}
    (h : appendMessageIdempotent g.channelId (g.message i) id now s = .ok (result, t)) :
    Answers t g i result.message := by
  obtain ⟨hkind, hkey, hmatch, m, hm, hrow⟩ := appendMessageInTransaction_stored rfl h
  exact ⟨hkind, hkey, hmatch, m, hm, hrow⟩

/-- An operation that the log answers is compared with the answer and creates nothing. -/
theorem Answers.append (h : Answers s g i message) (hlog : LogConsistent s)
    (hkind : isBlank i'.kind = false) (hinvocation : g.invocationId = g'.invocationId)
    (hsender : g.senderId = g'.senderId) (hoperation : i.operationId = i'.operationId) :
    appendMessageIdempotent g'.channelId (g'.message i') id now s =
      if messageMatchesInput message g'.channelId (g'.message i') then .ok (⟨message, false⟩, s)
      else .error (.conflict "idempotency key was already used for a different message") := by
  obtain ⟨m, hm, hs, hk, hdecode⟩ := h.row
  have hsame : (g.message i).idempotencyKey = (g'.message i').idempotencyKey := by
    rw [ActiveMessageGrant.message, ActiveMessageGrant.message, hinvocation, hoperation]
  exact appendMessageInTransaction_reuse hlog hm hdecode (hs.trans hsender) (hk.trans hsame) rfl hkind
    (hsame ▸ h.key)

/-- The message that a publish is answered with carries the identity of its grant. -/
theorem Answers.identity (h : Answers s g i message) :
    message.senderId = g.senderId ∧ message.channelId = g.channelId ∧
      message.causationId = some g.sourceMessageId ∧ message.correlationId = some g.correlationId := by
  have hmatch := h.matched
  rw [messageMatchesInput, decide_eq_true_eq] at hmatch
  exact ⟨hmatch.2.1, hmatch.1, hmatch.2.2.2.2.2.2, hmatch.2.2.2.2.2.1⟩

/-- An append that fails leaves the database alone. -/
theorem run_append_error {e : FleetError}
    (h : appendMessageIdempotent g.channelId (g.message i) id now (run cs) = .error e) :
    run (cs ++ [.appendMessage g.channelId (g.message i) id now]) = run cs := by
  rw [run_snoc]
  refine commit_of_error (e := e) ?_
  change discard _ (run cs) = _
  rw [discard, bind_run, h]

/-- An append that succeeds adds one row, or repeats and adds none. -/
theorem run_append_ok [LawfulSerdeJson Json] {result : AppendMessageResult Json}
    (h : appendMessageIdempotent g.channelId (g.message i) id now (run cs) = .ok (result, t)) :
    run (cs ++ [.appendMessage g.channelId (g.message i) id now]) = t ∧
      (result.created = false ∧ t.messages = (run cs).messages ∨
        result.created = true ∧ ∃ m, t.messages = (run cs).messages ++ [m] ∧
          messageFromRow m = .ok result.message) := by
  refine ⟨by rw [run_snoc]; exact commit_of_ok (discard_of_ok h), ?_⟩
  rcases appendMessageInTransaction_ok h with ⟨hcreated, rfl⟩ | ⟨hcreated, hpost, rfl⟩
  · exact .inl ⟨hcreated, rfl⟩
  · refine .inr ⟨hcreated, _, rfl, ?_⟩
    obtain ⟨m, hm, hsender, hkey, hdecode⟩ := (answers_of_append h).row
    rcases List.mem_append.mp hm with hold | hnew
    · -- the key was free, so the answer is not an old row
      rcases hpost.key with hnone | hfree
      · cases hnone
      · exact absurd ⟨hsender, hkey⟩ (hfree m hold)
    · rw [← List.mem_singleton.mp hnew]
      exact hdecode

end Log

/-! ## The invariant -/

section Invariant

variable [DecidableEq Json] [SerdeJson Json] [Sha256]

/-- A publish in the history: what it was allowed to do and what the log says. -/
structure PublishedWell (history : List (MessageGrantEvent Json)) (s : Store) (n : Nat)
    (during : Option Nat) (g : ActiveMessageGrant) (i : PublishMessageInput Json)
    (result : AppendMessageResult Json) (output : PublishMessageOutput) : Prop where
  armed : ∃ invocation, .activated n invocation ∈ history ∧ g.IsFor invocation
  peer : i.recipientId ≠ g.senderId
  valid : validatePublishInput i = .ok ()
  answers : Answers s g i result.message
  output : publishOutput result = some output
  turn : ∀ d, during = some d → d = n

/-- The history of a service. -/
structure HistoryInvariant (activations : Nat) (s : Store)
    (history : List (MessageGrantEvent Json)) : Prop where
  below : ∀ e ∈ history, ∀ n, e.activation = some n → n < activations
  armedOnce : ∀ n invocation invocation', .activated n invocation ∈ history →
    .activated n invocation' ∈ history → invocation = invocation'
  published : ∀ n d g i r o, .published n d g i r o ∈ history → PublishedWell history s n d g i r o
  budget : ∀ n, history.countP (·.creates n) ≤ maxMessagesPerInvocation
  fenced : history.Pairwise fun e e' => ∀ n, e = .deactivated n → e'.creates n = false
  once : history.Pairwise fun e e' => e.RepeatedBy e' → e'.isCreation = false
  calm : .panicked ∉ history

/-- A publish that holds the lock passed its checks under the armed grant. -/
structure HeldInvariant (n : Nat) (g : ActiveMessageGrant) (call : HeldPublish Json) : Prop where
  valid : validatePublishInput call.input = .ok ()
  peer : call.input.recipientId ≠ g.senderId
  budget : call.input.operationId ∈ g.operations ∨ g.publishedMessages < maxMessagesPerInvocation
  turn : ∀ d, call.during = some d → d = n

/-- The calls that wait for the lock. -/
def WaitingInvariant (active : Option (Nat × ActiveMessageGrant)) (waiting : List (WaitingCall Json)) :
    Prop :=
  ∀ before c after, waiting = before ++ c :: after →
    (∀ i, c.request = .publish i → validatePublishInput i = .ok ()) ∧
    ∀ d, c.during = some d →
      before.all (fun b => b.request.isPublish) = true ∧ active.map Prod.fst = some d

/-- The invariant of the service. -/
structure GrantInvariant (w : MessageGrantService Json) : Prop where
  fresh : Fresh w.commands
  history : HistoryInvariant w.activations w.database w.history
  active : ∀ n g, w.active = some (n, g) → ActiveInvariant w.activations w.history n g
  held : ∀ call, w.held = some call → ∃ n g, w.active = some (n, g) ∧ HeldInvariant n g call
  waiting : WaitingInvariant w.active w.waiting

variable {w : MessageGrantService Json} {activations : Nat} {s t : Store}
  {history : List (MessageGrantEvent Json)} {e : MessageGrantEvent Json}

/-- What the log answers it keeps answering. -/
theorem HistoryInvariant.mono (h : HistoryInvariant activations s history)
    (hle : s.messages <+: t.messages) : HistoryInvariant activations t history :=
  { h with published := fun n d g i r o hmem =>
      let well := h.published n d g i r o hmem
      { well with answers := well.answers.mono hle } }

/-- One more event. -/
theorem HistoryInvariant.concat {activations' : Nat} (h : HistoryInvariant activations s history)
    (hgrows : activations ≤ activations') (hbelow : ∀ n, e.activation = some n → n < activations')
    (harmed : ∀ n invocation, e = .activated n invocation → activations ≤ n)
    (hpublished : ∀ n d g i r o, e = .published n d g i r o → PublishedWell history s n d g i r o)
    (hbudget : ∀ n, e.creates n = true → history.countP (·.creates n) < maxMessagesPerInvocation)
    (hfenced : ∀ n, .deactivated n ∈ history → e.creates n = false)
    (honce : ∀ e' ∈ history, e'.RepeatedBy e → e.isCreation = false) (hcalm : e ≠ .panicked) :
    HistoryInvariant activations' s (history ++ [e]) where
  below x hx n hn := by
    rcases List.mem_append.mp hx with hx | hx
    · exact Nat.lt_of_lt_of_le (h.below x hx n hn) hgrows
    · rw [List.mem_singleton.mp hx] at hn
      exact hbelow n hn
  armedOnce n a b ha hb := by
    have hold : ∀ c, .activated n c ∈ history → n < activations :=
      fun c hc => h.below _ hc n rfl
    rcases List.mem_append.mp ha with ha | ha <;> rcases List.mem_append.mp hb with hb | hb
    · exact h.armedOnce n a b ha hb
    · exact absurd (hold a ha) (Nat.not_lt.mpr (harmed n b (List.mem_singleton.mp hb).symm))
    · exact absurd (hold b hb) (Nat.not_lt.mpr (harmed n a (List.mem_singleton.mp ha).symm))
    · have heq := (List.mem_singleton.mp ha).trans (List.mem_singleton.mp hb).symm
      cases heq
      rfl
  published n d g i r o hmem := by
    have hwell : PublishedWell history s n d g i r o := by
      rcases List.mem_append.mp hmem with hmem | hmem
      · exact h.published n d g i r o hmem
      · exact hpublished n d g i r o (List.mem_singleton.mp hmem).symm
    obtain ⟨invocation, hactivated, hfor⟩ := hwell.armed
    exact { hwell with armed := ⟨invocation, List.mem_append_left _ hactivated, hfor⟩ }
  budget n := by
    rw [countP_creates_concat]
    split
    · exact hbudget n (by assumption)
    · exact h.budget n
  fenced := by
    refine List.pairwise_append.mpr ⟨h.fenced, List.pairwise_singleton _ _, fun x hx y hy n hn => ?_⟩
    rw [List.mem_singleton.mp hy]
    exact hfenced n (hn ▸ hx)
  once := by
    refine List.pairwise_append.mpr ⟨h.once, List.pairwise_singleton _ _, fun x hx y hy hrep => ?_⟩
    rw [List.mem_singleton.mp hy] at hrep ⊢
    exact honce x hx hrep
  calm hmem := by
    rcases List.mem_append.mp hmem with hmem | hmem
    · exact h.calm hmem
    · exact hcalm (List.mem_singleton.mp hmem).symm

/-- A refusal is recorded. -/
theorem HistoryInvariant.refused (h : HistoryInvariant activations s history) (reason : String) :
    HistoryInvariant activations s (history ++ [.refused reason]) :=
  h.concat (Nat.le_refl _) (fun _ => nofun) (fun _ _ => nofun) (fun _ _ _ _ _ _ => nofun)
    (fun _ => nofun) (fun _ _ => rfl) (fun _ _ _ => rfl) nofun

/-! ## Each step -/

omit [DecidableEq Json] [Sha256] in
/-- The calls behind the first one. -/
theorem WaitingInvariant.tail {active : Option (Nat × ActiveMessageGrant)} {c : WaitingCall Json}
    {rest : List (WaitingCall Json)} (h : WaitingInvariant active (c :: rest)) :
    WaitingInvariant active rest := by
  intro before x after hsplit
  obtain ⟨hvalid, hturn⟩ := h (c :: before) x after (by rw [hsplit]; rfl)
  refine ⟨hvalid, fun d hd => ?_⟩
  obtain ⟨hall, hactive⟩ := hturn d hd
  rw [List.all_cons, Bool.and_eq_true] at hall
  exact ⟨hall.2, hactive⟩

omit [DecidableEq Json] [Sha256] in
/-- Behind a call that arms or disarms no call is bound to a grant. -/
theorem WaitingInvariant.behind {active : Option (Nat × ActiveMessageGrant)} {c : WaitingCall Json}
    {rest : List (WaitingCall Json)} (h : WaitingInvariant active (c :: rest))
    (hc : c.request.isPublish = false) (active' : Option (Nat × ActiveMessageGrant)) :
    WaitingInvariant active' rest := by
  intro before x after hsplit
  obtain ⟨hvalid, hturn⟩ := h (c :: before) x after (by rw [hsplit]; rfl)
  refine ⟨hvalid, fun d hd => ?_⟩
  have hall := (hturn d hd).1
  rw [List.all_cons, hc] at hall
  cases hall

omit [DecidableEq Json] [Sha256] in
/-- A call that queues is bound to the armed grant if nothing ahead of it disarms that. -/
theorem WaitingInvariant.concat {active : Option (Nat × ActiveMessageGrant)}
    {waiting : List (WaitingCall Json)} {c : WaitingCall Json} (h : WaitingInvariant active waiting)
    (hvalid : ∀ i, c.request = .publish i → validatePublishInput i = .ok ())
    (hturn : ∀ d, c.during = some d →
      waiting.all (fun b => b.request.isPublish) = true ∧ active.map Prod.fst = some d) :
    WaitingInvariant active (waiting ++ [c]) := by
  intro before x after hsplit
  rcases List.append_eq_append_iff.mp hsplit with ⟨mid, hbefore, hmid⟩ | ⟨mid, hwaiting, hmid⟩
  · rcases mid with _ | ⟨y, mid⟩
    · cases hmid
      rw [List.append_nil] at hbefore
      exact ⟨hvalid, hbefore ▸ hturn⟩
    · simp at hmid
  · cases mid with
    | nil =>
      cases hmid
      rw [List.append_nil] at hwaiting
      exact ⟨hvalid, hwaiting ▸ hturn⟩
    | cons y mid =>
      cases hmid
      exact h before x mid hwaiting

theorem GrantInvariant.refuse (h : GrantInvariant w) (reason : String) :
    GrantInvariant (w.refuse reason) where
  fresh := h.fresh
  history := h.history.refused reason
  active n g hactive := (h.active n g hactive).concat (Nat.le_refl _) nofun
  held := h.held
  waiting := h.waiting

theorem GrantInvariant.enqueue (h : GrantInvariant w) {request : GrantRequest Json}
    (hvalid : ∀ i, request = .publish i → validatePublishInput i = .ok ()) :
    GrantInvariant (w.enqueue request) := by
  refine ⟨h.fresh, h.history, h.active, h.held, h.waiting.concat hvalid fun d hd => ?_⟩
  simp only at hd
  split at hd
  · exact ⟨by assumption, hd⟩
  · cases hd

theorem GrantInvariant.call (h : GrantInvariant w) (request : GrantRequest Json) (now : Int) :
    GrantInvariant (w.call request now) := by
  unfold MessageGrantService.call
  cases request with
  | activate invocation =>
    simp only
    split
    · exact h.refuse _
    · exact h.enqueue fun _ => nofun
  | deactivate invocationId => exact h.enqueue fun _ => nofun
  | publish input =>
    simp only
    split
    · exact h.refuse _
    · rename_i hok
      refine h.enqueue fun i hi => ?_
      cases hi
      exact hok

/-- An activation takes a number that no event is about. -/
theorem GrantInvariant.activate {c : WaitingCall Json} {rest : List (WaitingCall Json)}
    (h : GrantInvariant w) (hheld : w.held = none) (hwaiting : w.waiting = c :: rest)
    (hc : c.request.isPublish = false) (invocation : Invocation Json) :
    GrantInvariant (MessageGrantService.activate invocation { w with waiting := rest }) := by
  have hbehind := (hwaiting ▸ h.waiting).behind hc
  have hrest : GrantInvariant { w with waiting := rest } :=
    ⟨h.fresh, h.history, h.active, h.held, hbehind _⟩
  unfold MessageGrantService.activate
  split
  · exact hrest.refuse _
  · have hnone : ∀ e ∈ w.history, e.activation ≠ some w.activations :=
      fun e he hn => absurd (h.history.below e he _ hn) (Nat.lt_irrefl _)
    refine ⟨h.fresh, ?_, fun n g hactive => ?_, fun call hcall => ?_, hbehind _⟩
    · refine h.history.concat (Nat.le_succ _) (fun n hn => ?_) (fun n _ hn => ?_)
        (fun _ _ _ _ _ _ => nofun) (fun n hn => ?_) (fun n _ => ?_) (fun _ _ _ => rfl) nofun
      · cases hn
        exact Nat.lt_succ_self _
      · cases hn
        exact Nat.le_refl _
      · simp [MessageGrantEvent.creates, MessageGrantEvent.isCreation] at hn
      · simp [MessageGrantEvent.creates, MessageGrantEvent.isCreation]
    · cases hactive
      refine ⟨Nat.lt_succ_self _, ⟨invocation, List.mem_append_right _ (List.mem_singleton_self _),
        rfl, rfl, rfl, rfl, rfl⟩, fun hmem => ?_, ?_, fun op => ?_⟩
      · rcases List.mem_append.mp hmem with hmem | hmem
        · exact hnone _ hmem rfl
        · cases List.mem_singleton.mp hmem
      · rw [countP_creates_concat, List.countP_eq_zero.mpr]
        · simp [MessageGrantEvent.creates, MessageGrantEvent.isCreation, ActiveMessageGrant.arm]
        · intro e he hcreates
          simp only [MessageGrantEvent.creates, Bool.and_eq_true, decide_eq_true_eq] at hcreates
          exact hnone e he hcreates.1
      · refine ⟨nofun, fun ⟨d, g, i, r, o, hmem, _⟩ => ?_⟩
        rcases List.mem_append.mp hmem with hmem | hmem
        · exact absurd rfl (hnone _ hmem)
        · cases List.mem_singleton.mp hmem
    · simp only [hheld] at hcall
      cases hcall

/-- A deactivation fences its grant. -/
theorem GrantInvariant.deactivate {c : WaitingCall Json} {rest : List (WaitingCall Json)}
    (h : GrantInvariant w) (hheld : w.held = none) (hwaiting : w.waiting = c :: rest)
    (hc : c.request.isPublish = false) (invocationId : String) :
    GrantInvariant (MessageGrantService.deactivate invocationId { w with waiting := rest }) := by
  have hbehind := (hwaiting ▸ h.waiting).behind hc
  have hrest : GrantInvariant { w with waiting := rest } :=
    ⟨h.fresh, h.history, h.active, h.held, hbehind _⟩
  unfold MessageGrantService.deactivate
  split
  · rename_i n g hactive
    split
    · refine ⟨h.fresh, ?_, fun _ _ => nofun, fun call hcall => ?_, hbehind _⟩
      · refine h.history.concat (Nat.le_refl _) (fun m hm => ?_) (fun _ _ => nofun)
          (fun _ _ _ _ _ _ => nofun) (fun m hm => ?_) (fun m _ => ?_) (fun _ _ _ => rfl) nofun
        · cases hm
          exact (h.active n g hactive).below
        · simp [MessageGrantEvent.creates, MessageGrantEvent.isCreation] at hm
        · simp [MessageGrantEvent.creates, MessageGrantEvent.isCreation]
      · simp only [hheld] at hcall
        cases hcall
    · exact hrest
  · exact hrest

omit [DecidableEq Json] [SerdeJson Json] [Sha256] in
/-- What the checks under the lock say. -/
theorem admit_ok {g : ActiveMessageGrant} {now : Int} {i : PublishMessageInput Json} {u : Unit}
    (h : g.admit now i = .ok u) : now < g.expiresAtMs ∧ i.recipientId ≠ g.senderId ∧
      (i.operationId ∈ g.operations ∨ g.publishedMessages < maxMessagesPerInvocation) := by
  unfold ActiveMessageGrant.admit at h
  split at h
  · cases h
  · rename_i hexpired
    split at h
    · cases h
    · rename_i hpeer
      split at h
      · cases h
      · rename_i hbudget
        refine ⟨by omega, hpeer, ?_⟩
        by_cases hknown : i.operationId ∈ g.operations
        · exact .inl hknown
        · exact .inr (Nat.lt_of_not_le fun hfull => hbudget ⟨hknown, hfull⟩)

/-- A publish that passes its checks holds the lock under the grant it was called under. -/
theorem GrantInvariant.admit {i : PublishMessageInput Json} {during : Option Nat}
    {rest : List (WaitingCall Json)} (h : GrantInvariant w)
    (hwaiting : w.waiting = ⟨.publish i, during⟩ :: rest) (now : Int) :
    GrantInvariant ( MessageGrantService.admit i during now { w with waiting := rest }) := by
  have hrest : GrantInvariant { w with waiting := rest } :=
    ⟨h.fresh, h.history, h.active, h.held, (hwaiting ▸ h.waiting).tail⟩
  obtain ⟨hvalid, hturn⟩ := h.waiting [] _ rest hwaiting
  unfold MessageGrantService.admit
  split
  · exact hrest.refuse _
  · rename_i n g hactive
    split
    · exact hrest.refuse _
    · rename_i hok
      obtain ⟨_, hpeer, hbudget⟩ := admit_ok hok
      refine ⟨h.fresh, h.history, h.active, fun call hcall => ?_, hrest.waiting⟩
      cases hcall
      refine ⟨n, g, hactive, hvalid i rfl, hpeer, hbudget, fun d hd => ?_⟩
      have hnumber := (hturn d hd).2
      rw [hactive] at hnumber
      exact (Option.some.inj hnumber).symm

theorem GrantInvariant.acquire (h : GrantInvariant w) (now : Int) :
    GrantInvariant (w.acquire now) := by
  unfold MessageGrantService.acquire
  split
  · rename_i request during rest hheld hwaiting
    cases request with
    | activate invocation => exact h.activate hheld hwaiting rfl invocation
    | deactivate invocationId => exact h.deactivate hheld hwaiting rfl invocationId
    | publish i => exact h.admit hwaiting now
  · exact h

/-- A call of the store by anyone else keeps the log. -/
theorem GrantInvariant.store (h : GrantInvariant w) {command : Command Json}
    (hfresh : Fresh (w.commands ++ [command])) :
    GrantInvariant { w with commands := w.commands ++ [command] } :=
  ⟨hfresh, h.history.mono (run_messages (List.prefix_append _ _) hfresh), h.active, h.held, h.waiting⟩

variable [LawfulSerdeJson Json]

omit [DecidableEq Json] [Sha256] [LawfulSerdeJson Json] in
/-- A publish within its bounds has a kind. -/
theorem kind_of_validatePublishInput {i : PublishMessageInput Json}
    (h : validatePublishInput i = .ok ()) : isBlank i.kind = false := by
  unfold validatePublishInput at h
  cases hoperation : validateBoundedText "operation_id" i.operationId maxOperationIdBytes with
  | error reason =>
    rw [hoperation] at h
    cases h
  | ok _ =>
    cases hrecipient : validateBoundedText "recipient_id" i.recipientId maxAgentIdBytes with
    | error reason =>
      rw [hoperation, hrecipient] at h
      cases h
    | ok _ =>
      cases hkind : validateBoundedText "kind" i.kind maxMessageKindBytes with
      | error reason =>
        rw [hoperation, hrecipient, hkind] at h
        cases h
      | ok _ =>
        unfold validateBoundedText at hkind
        split at hkind
        · cases hkind
        · rename_i hbounds
          exact Bool.eq_false_iff.mpr fun hblank => hbounds (.inl hblank)

omit [Sha256] [DecidableEq Json] [LawfulSerdeJson Json] [SerdeJson Json] in
/-- A message with linkage has an output. -/
theorem publishOutput_some {result : AppendMessageResult Json} {a b : String}
    (hcorrelation : result.message.correlationId = some a)
    (hcausation : result.message.causationId = some b) :
    ∃ output, publishOutput result = some output := by
  rw [publishOutput, hcorrelation, hcausation]
  exact ⟨_, rfl⟩

omit [LawfulSerdeJson Json] in
/-- A publish creates nothing if its operation was published before. -/
theorem GrantInvariant.not_created {n : Nat} {g : ActiveMessageGrant} {call : HeldPublish Json}
    {id : String} {now : Int} {result : AppendMessageResult Json} {t : Store}
    (h : GrantInvariant w) (hheld : HeldInvariant n g call)
    (hok : appendMessageIdempotent g.channelId (g.message call.input) id now w.database =
      .ok (result, t)) {e : MessageGrantEvent Json} (he : e ∈ w.history) {n' : Nat} {d : Option Nat}
    {o : PublishMessageOutput} (hrep : e.RepeatedBy (.published n' d g call.input result o)) :
    result.created = false := by
  obtain ⟨_, _, g', i', r', _, _, _, _, _, _, _, rfl, heq, hinvocation, hsender, hoperation⟩ := hrep
  cases heq
  have hanswers := (h.history.published _ _ _ _ _ _ he).answers
  rw [hanswers.append (run_invariant h.fresh).log (kind_of_validatePublishInput hheld.valid)
    hinvocation hsender hoperation] at hok
  split at hok
  · cases hok
    rfl
  · cases hok

omit [LawfulSerdeJson Json] in
/-- A publish creates a message only while the budget has room: a known operation is in the log. -/
theorem GrantInvariant.room {n : Nat} {g : ActiveMessageGrant} {call : HeldPublish Json}
    {id : String} {now : Int} {result : AppendMessageResult Json} {t : Store}
    (h : GrantInvariant w) (hactive : w.active = some (n, g)) (hheld : HeldInvariant n g call)
    (hok : appendMessageIdempotent g.channelId (g.message call.input) id now w.database =
      .ok (result, t)) (hcreated : result.created = true) :
    w.history.countP (·.creates n) < maxMessagesPerInvocation := by
  have hgrant := h.active n g hactive
  rcases hheld.budget with hknown | hroom
  · obtain ⟨d, g', i', r', o', hmem, hoperation⟩ := (hgrant.operations _).mp hknown
    obtain ⟨invocation, harmed, hfor⟩ := hgrant.armed
    obtain ⟨invocation', harmed', hfor'⟩ := (h.history.published _ _ _ _ _ _ hmem).armed
    cases h.history.armedOnce n invocation invocation' harmed harmed'
    have hrep : MessageGrantEvent.RepeatedBy (.published n d g' i' r' o')
        (.published n none g call.input result o') :=
      ⟨n, d, g', i', r', o', n, none, g, call.input, result, o', rfl, rfl,
        hfor'.invocationId.trans hfor.invocationId.symm, hfor'.senderId.trans hfor.senderId.symm,
        hoperation⟩
    have hfalse := h.not_created hheld hok hmem hrep
    rw [hcreated] at hfalse
    cases hfalse
  · exact hgrant.count ▸ hroom

omit [DecidableEq Json] [SerdeJson Json] [Sha256] [LawfulSerdeJson Json] in
/-- A publish creates a message under its own activation only. -/
theorem creates_published {n m : Nat} {d : Option Nat} {g : ActiveMessageGrant}
    {i : PublishMessageInput Json} {r : AppendMessageResult Json} {o : PublishMessageOutput}
    (h : (MessageGrantEvent.published n d g i r o).creates m = true) : n = m ∧ r.created = true := by
  simpa [MessageGrantEvent.creates, MessageGrantEvent.activation, MessageGrantEvent.isCreation] using h

theorem GrantInvariant.append (h : GrantInvariant w) (messageId : String) (createdAtMs : Int) :
    GrantInvariant (w.append messageId createdAtMs) := by
  unfold MessageGrantService.append
  split
  · rename_i i during n g hcall hactive
    obtain ⟨n', g', hactive', hheld⟩ := h.held _ hcall
    cases Option.some.inj (hactive'.symm.trans hactive)
    have hfresh : Fresh (w.commands ++
        [.appendMessage g.channelId (g.message i) messageId createdAtMs]) := by
      have hcommands := h.fresh
      rw [Fresh, FreshAlong] at hcommands ⊢
      simpa [Command.leaseTokens] using hcommands
    have hlater := h.history.mono (run_messages (List.prefix_append _ _) hfresh)
    simp only
    split
    · refine ⟨hfresh, hlater.refused _, fun m g' hm => ?_, fun c hc => ?_, h.waiting⟩
      · exact (h.active m g' hm).concat (Nat.le_refl _) fun hn => by cases hn
      · cases hc
    · rename_i result t hok
      obtain ⟨hrun, _⟩ := run_append_ok hok
      have hanswers := answers_of_append hok
      obtain ⟨_, _, hcausation, hcorrelation⟩ := hanswers.identity
      obtain ⟨output, houtput⟩ := publishOutput_some hcorrelation hcausation
      simp only [houtput]
      have hactiveNow := h.active n g hactive
      refine ⟨hfresh, ?_, fun m g' hm => ?_, fun c hc => ?_, fun before c after hsplit => ?_⟩
      · refine hlater.concat (Nat.le_refl _) (fun m hm => ?_)
          (fun m i' hm => ?_)
          (fun m d g' i' r' o' heq => ?_) (fun m hm => ?_) (fun m hm => ?_)
          (fun e he hrep => h.not_created hheld hok he hrep) fun hcalm => ?_
        · cases hm
          exact hactiveNow.below
        · cases hm
        · cases heq
          exact ⟨hactiveNow.armed, hheld.peer, hheld.valid, hrun ▸ hanswers, houtput, hheld.turn⟩
        · obtain ⟨rfl, hcreated⟩ := creates_published hm
          exact h.room hactive hheld hok hcreated
        · refine Bool.eq_false_iff.mpr fun hcreates => ?_
          obtain ⟨rfl, _⟩ := creates_published hcreates
          exact hactiveNow.running hm
        · cases hcalm
      · cases hm
        exact hactiveNow.record
      · cases hc
      · have hwaits := h.waiting before c after hsplit
        rw [hactive] at hwaits
        exact hwaits
  · exact h

end Invariant

/-! ## Every run -/

section Runs

variable [DecidableEq Json] [SerdeJson Json] [Sha256] {w : MessageGrantService Json}

omit [DecidableEq Json] [Sha256] in
theorem commands_call (request : GrantRequest Json) (now : Int) (w : MessageGrantService Json) :
    (w.call request now).commands = w.commands := by
  cases request with
  | activate invocation =>
    simp only [MessageGrantService.call]
    split <;> rfl
  | deactivate invocationId => rfl
  | publish input =>
    simp only [MessageGrantService.call]
    split <;> rfl

omit [DecidableEq Json] [SerdeJson Json] [Sha256] in
theorem commands_acquire (now : Int) (w : MessageGrantService Json) :
    (w.acquire now).commands = w.commands := by
  unfold MessageGrantService.acquire
  split
  · rename_i request during rest hheld hwaiting
    cases request with
    | activate invocation =>
      simp only [MessageGrantService.activate]
      split <;> rfl
    | deactivate invocationId =>
      simp only [MessageGrantService.deactivate]
      split
      · split <;> rfl
      · rfl
    | publish input =>
      simp only [ MessageGrantService.admit]
      split
      · rfl
      · split <;> rfl
  · rfl

/-- The append of a held publish, with what became of it. -/
theorem append_held {i : PublishMessageInput Json} {d : Option Nat} {n : Nat}
    {g : ActiveMessageGrant} (id : String) (now : Int) (hheld : w.held = some ⟨i, d⟩)
    (hactive : w.active = some (n, g)) :
    (w.append id now).commands =
        w.commands ++ [.appendMessage g.channelId (g.message i) id now] ∧
      ((∃ e, appendMessageIdempotent g.channelId (g.message i) id now w.database = .error e ∧
          (w.append id now).history = w.history ++ [.refused (publicFleetError e)] ∧
          (w.append id now).active = w.active) ∨
        ∃ result t, appendMessageIdempotent g.channelId (g.message i) id now w.database =
            .ok (result, t) ∧
          (w.append id now).active = some (n, g.record i.operationId result.created) ∧
          ∀ output, publishOutput result = some output →
            (w.append id now).history = w.history ++ [.published n d g i result output]) := by
  unfold MessageGrantService.append
  simp only [hheld, hactive]
  cases hresult : appendMessageIdempotent g.channelId (g.message i) id now w.database with
  | error e =>
    simp only
    exact ⟨rfl, .inl ⟨e, rfl, rfl, rfl⟩⟩
  | ok p =>
    obtain ⟨result, t⟩ := p
    simp only
    cases houtput : publishOutput result with
    | none =>
      refine ⟨rfl, .inr ⟨result, t, rfl, rfl, fun o ho => ?_⟩⟩
      rw [houtput] at ho
      cases ho
    | some output =>
      refine ⟨rfl, .inr ⟨result, t, rfl, rfl, fun o ho => ?_⟩⟩
      rw [houtput] at ho
      cases ho
      rfl

/-- The lease tokens that the store has seen are those that the steps minted. -/
theorem commands_leaseTokens (step : MessageGrantStep Json) (w : MessageGrantService Json) :
    (step.next w).commands.flatMap Command.leaseTokens =
      w.commands.flatMap Command.leaseTokens ++ step.leaseTokens := by
  cases step with
  | call request now => simp [MessageGrantStep.next, commands_call, MessageGrantStep.leaseTokens]
  | acquire now => simp [MessageGrantStep.next, commands_acquire, MessageGrantStep.leaseTokens]
  | append id now =>
    simp only [MessageGrantStep.next, MessageGrantStep.leaseTokens, List.append_nil]
    cases hheld : w.held with
    | none => simp [MessageGrantService.append, hheld]
    | some call =>
      obtain ⟨i, d⟩ := call
      cases hactive : w.active with
      | none => simp [MessageGrantService.append, hheld, hactive]
      | some p =>
        rw [(append_held id now hheld hactive).1]
        simp [Command.leaseTokens]
  | store command => simp [MessageGrantStep.next, MessageGrantStep.leaseTokens]

/-- What a service promises at every time. -/
structure GrantPromises (w : MessageGrantService Json) : Prop where
  budget : ∀ n, w.history.countP (·.creates n) ≤ maxMessagesPerInvocation
  armedOnce : ∀ n invocation invocation', .activated n invocation ∈ w.history →
    .activated n invocation' ∈ w.history → invocation = invocation'
  identity : ∀ n d g i r o, .published n d g i r o ∈ w.history → r.created = true →
    ∃ invocation, .activated n invocation ∈ w.history ∧ r.message.senderId = invocation.agentId ∧
      r.message.channelId = invocation.message.channelId ∧
      r.message.causationId = some invocation.message.id ∧
      r.message.correlationId = some (invocation.message.correlationId.getD invocation.message.id) ∧
      ∃ m ∈ w.database.messages, messageFromRow m = .ok r.message
  turn : ∀ n d g i r o, .published n (some d) g i r o ∈ w.history → d = n
  fence : ∀ before n later, w.history = before ++ .deactivated n :: later →
    ∀ e ∈ later, e.creates n = false
  repeated : ∀ before e later, w.history = before ++ e :: later →
    ∀ e' ∈ later, e.RepeatedBy e' → e'.isCreation = false
  admitted : ∀ n d g i r o, .published n d g i r o ∈ w.history → ∀ g', w.active = some (n, g') →
    ∀ now d' rest, w.held = none → w.waiting = ⟨.publish i, d'⟩ :: rest → now < g'.expiresAtMs →
    (w.acquire now).held = some ⟨i, d'⟩
  replayed : ∀ n d g i r o, .published n d g i r o ∈ w.history → ∀ g', w.active = some (n, g') →
    ∀ d', w.held = some ⟨i, d'⟩ → ∀ id now, ∃ output g'',
      (w.append id now).history =
        w.history ++ [.published n d' g' i ⟨r.message, false⟩ output] ∧
      (w.append id now).database.messages = w.database.messages ∧
      (w.append id now).active = some (n, g'') ∧ g''.publishedMessages = g'.publishedMessages
  created : ∀ step, (∀ command, step ≠ .store command) →
    (MessageGrantStep.next step w).database.messages = w.database.messages ∨
      ∃ n d g i r o m, r.created = true ∧
        (step.next w).history = w.history ++ [.published n d g i r o] ∧
        (step.next w).database.messages = w.database.messages ++ [m] ∧
        messageFromRow m = .ok r.message

omit [DecidableEq Json] [SerdeJson Json] in
/-- Grants of one invocation say the same. -/
theorem ActiveMessageGrant.IsFor.message_eq {g g' : ActiveMessageGrant} {invocation : Invocation Json}
    (h : g.IsFor invocation) (h' : g'.IsFor invocation) (i : PublishMessageInput Json) :
    g.channelId = g'.channelId ∧ g.message i = g'.message i := by
  refine ⟨h.channelId.trans h'.channelId.symm, ?_⟩
  rw [ActiveMessageGrant.message, ActiveMessageGrant.message, h.senderId, h.invocationId,
    h.correlationId, h.sourceMessageId, h'.senderId, h'.invocationId, h'.correlationId,
    h'.sourceMessageId]

/-- The armed grant and an earlier publish under it are for the same invocation. -/
theorem GrantInvariant.sameInvocation {n : Nat} {d : Option Nat} {g g' : ActiveMessageGrant}
    {i : PublishMessageInput Json} {r : AppendMessageResult Json} {o : PublishMessageOutput}
    (h : GrantInvariant w) (hmem : .published n d g i r o ∈ w.history)
    (hactive : w.active = some (n, g')) :
    ∃ invocation : Invocation Json, g.IsFor invocation ∧ g'.IsFor invocation := by
  obtain ⟨invocation, harmed, hfor⟩ := (h.history.published _ _ _ _ _ _ hmem).armed
  obtain ⟨invocation', harmed', hfor'⟩ := (h.active n g' hactive).armed
  cases h.history.armedOnce n invocation invocation' harmed harmed'
  exact ⟨invocation, hfor, hfor'⟩

/-- A repeat under an unexpired grant passes the checks. -/
theorem GrantInvariant.admitted {n : Nat} {d d' : Option Nat} {g g' : ActiveMessageGrant}
    {i : PublishMessageInput Json} {r : AppendMessageResult Json} {o : PublishMessageOutput}
    {now : Int} {rest : List (WaitingCall Json)} (h : GrantInvariant w)
    (hmem : .published n d g i r o ∈ w.history) (hactive : w.active = some (n, g'))
    (hheld : w.held = none) (hwaiting : w.waiting = ⟨.publish i, d'⟩ :: rest)
    (hnow : now < g'.expiresAtMs) : (w.acquire now).held = some ⟨i, d'⟩ := by
  obtain ⟨invocation, hfor, hfor'⟩ := h.sameInvocation hmem hactive
  have hpeer : i.recipientId ≠ g'.senderId := by
    rw [hfor'.senderId, ← hfor.senderId]
    exact (h.history.published _ _ _ _ _ _ hmem).peer
  have hknown : i.operationId ∈ g'.operations :=
    ((h.active n g' hactive).operations _).mpr ⟨d, g, i, r, o, hmem, rfl⟩
  have hadmitted : g'.admit now i = .ok () := by
    rw [ ActiveMessageGrant.admit, if_neg (by omega), if_neg hpeer, if_neg (fun hno => hno.1 hknown)]
  simp only [MessageGrantService.acquire, hheld, hwaiting, MessageGrantService.admit, hactive, hadmitted]

variable [LawfulSerdeJson Json]

/-- A repeat that holds the lock is answered with the stored message. -/
theorem GrantInvariant.replayed {n : Nat} {d d' : Option Nat} {g g' : ActiveMessageGrant}
    {i : PublishMessageInput Json} {r : AppendMessageResult Json} {o : PublishMessageOutput}
    (h : GrantInvariant w) (hmem : .published n d g i r o ∈ w.history)
    (hactive : w.active = some (n, g')) (hheld : w.held = some ⟨i, d'⟩) (id : String) (now : Int) :
    ∃ output g'', (w.append id now).history =
        w.history ++ [.published n d' g' i ⟨r.message, false⟩ output] ∧
      (w.append id now).database.messages = w.database.messages ∧
      (w.append id now).active = some (n, g'') ∧ g''.publishedMessages = g'.publishedMessages := by
  obtain ⟨invocation, hfor, hfor'⟩ := h.sameInvocation hmem hactive
  obtain ⟨hchannel, hmessage⟩ := hfor.message_eq hfor' i
  have hanswers := (h.history.published _ _ _ _ _ _ hmem).answers
  have hresult : appendMessageIdempotent g'.channelId (g'.message i) id now w.database =
      .ok (⟨r.message, false⟩, w.database) := by
    rw [hanswers.append (run_invariant h.fresh).log hanswers.kind
      (hfor.invocationId.trans hfor'.invocationId.symm) (hfor.senderId.trans hfor'.senderId.symm) rfl]
    exact if_pos (hchannel ▸ hmessage ▸ hanswers.matched)
  obtain ⟨_, _, hcausation, hcorrelation⟩ := hanswers.identity
  have houtput : ∃ output, publishOutput (⟨r.message, false⟩ : AppendMessageResult Json) = some output :=
    publishOutput_some hcorrelation hcausation
  obtain ⟨output, houtput⟩ := houtput
  obtain ⟨hcommands, ⟨e, herror, _⟩ | ⟨result, t, hok, hnext, hhistory⟩⟩ :=
    append_held id now hheld hactive
  · rw [hresult] at herror
    cases herror
  · rw [hresult] at hok
    cases hok
    refine ⟨output, _, hhistory output houtput, ?_, hnext, rfl⟩
    rw [MessageGrantService.database, hcommands, (run_append_ok hresult).1]

/-- A step of the service changes the log only by a message that it records as created. -/
theorem GrantInvariant.created (h : GrantInvariant w) (step : MessageGrantStep Json)
    (hstep : ∀ command, step ≠ .store command) :
    (step.next w).database.messages = w.database.messages ∨
      ∃ n d g i r o m, r.created = true ∧
        (step.next w).history = w.history ++ [.published n d g i r o] ∧
        (step.next w).database.messages = w.database.messages ++ [m] ∧
        messageFromRow m = .ok r.message := by
  cases step with
  | call request now =>
    exact .inl (by rw [MessageGrantStep.next, MessageGrantService.database, commands_call]; rfl)
  | acquire now =>
    exact .inl (by rw [MessageGrantStep.next, MessageGrantService.database, commands_acquire]; rfl)
  | store command => exact absurd rfl (hstep command)
  | append id now =>
    simp only [MessageGrantStep.next]
    cases hheld : w.held with
    | none => exact .inl (by simp [MessageGrantService.append, hheld])
    | some call =>
      obtain ⟨i, d⟩ := call
      obtain ⟨n, g, hactive, hchecked⟩ := h.held _ hheld
      obtain ⟨hcommands, ⟨e, herror, _⟩ | ⟨result, t, hok, _, hhistory⟩⟩ :=
        append_held id now hheld hactive
      · left
        rw [MessageGrantService.database, hcommands, run_append_error herror]
        rfl
      · obtain ⟨hrun, ⟨_, hsame⟩ | ⟨hcreated, m, hmessages, hrow⟩⟩ := run_append_ok hok
        · left
          rw [MessageGrantService.database, hcommands, hrun, hsame]
          rfl
        · obtain ⟨_, _, hcausation, hcorrelation⟩ := (answers_of_append hok).identity
          obtain ⟨output, houtput⟩ := publishOutput_some hcorrelation hcausation
          refine .inr ⟨n, d, g, i, result, output, m, hcreated, hhistory output houtput, ?_, hrow⟩
          rw [MessageGrantService.database, hcommands, hrun, hmessages]
          rfl

/-- The invariant gives the promises. -/
theorem GrantInvariant.promises (h : GrantInvariant w) : GrantPromises w where
  budget := h.history.budget
  armedOnce := h.history.armedOnce
  identity n d g i r o hmem _ := by
    have hwell := h.history.published n d g i r o hmem
    obtain ⟨invocation, harmed, hfor⟩ := hwell.armed
    obtain ⟨hsender, hchannel, hcausation, hcorrelation⟩ := hwell.answers.identity
    obtain ⟨m, hm, _, _, hrow⟩ := hwell.answers.row
    exact ⟨invocation, harmed, hsender.trans hfor.senderId, hchannel.trans hfor.channelId,
      hcausation.trans (congrArg some hfor.sourceMessageId),
      hcorrelation.trans (congrArg some hfor.correlationId), m, hm, hrow⟩
  turn n d g i r o hmem := (h.history.published _ _ g i r o hmem).turn d rfl
  fence before n later hsplit e he := by
    have hpairs := hsplit ▸ h.history.fenced
    exact List.rel_of_pairwise_cons (List.pairwise_append.mp hpairs).2.1 he n rfl
  repeated before e later hsplit e' he' := by
    have hpairs := hsplit ▸ h.history.once
    exact List.rel_of_pairwise_cons (List.pairwise_append.mp hpairs).2.1 he'
  admitted n d g i r o hmem g' hactive now d' rest hheld hwaiting hnow :=
    h.admitted hmem hactive hheld hwaiting hnow
  replayed n d g i r o hmem g' hactive d' hheld id now := h.replayed hmem hactive hheld id now
  created := h.created

omit [LawfulSerdeJson Json] in
theorem grantInvariant_init : GrantInvariant (MessageGrantService.init : MessageGrantService Json) where
  fresh := List.nodup_nil
  history := ⟨fun _ h => (by cases h), fun _ _ _ h => (by cases h), fun _ _ _ _ _ _ h => (by cases h),
    fun _ => Nat.zero_le _, .nil, .nil, fun h => (by cases h)⟩
  active _ _ h := (by cases h)
  held _ h := (by cases h)
  waiting before c after hsplit := by simp [MessageGrantService.init] at hsplit

/-- Every step keeps the invariant if its lease tokens are new. -/
theorem MessageGrantStep.invariant (step : MessageGrantStep Json) (h : GrantInvariant w)
    (hfresh : (w.commands.flatMap Command.leaseTokens ++ step.leaseTokens).Nodup) :
    GrantInvariant (step.next w) := by
  cases step with
  | call request now => exact h.call request now
  | acquire now => exact h.acquire now
  | append id now => exact h.append id now
  | store command =>
    refine h.store ?_
    rw [Fresh, FreshAlong, List.flatMap_append]
    simpa [MessageGrantStep.leaseTokens] using hfresh

end Runs

/-! ### Concrete runs -/

/-- The invocation of bob that the sample message leads to. -/
def sampleTurn : Invocation Bool where
  id := "i"
  agentId := "b"
  message := ⟨1, "m", "c", "a", some "b", "work", true, some "corr", none, 2⟩
  deliveryAttempt := 1
  leaseToken := "T"
  leaseExpiresAtMs := 100
  fenceToken := "f"
  state := .dispatchArmed 7
  reservedAtMs := 5
  resultMessageId := none

/-- What bob publishes. -/
def samplePublish : PublishMessageInput Bool := ⟨"op", "a", "text", true⟩

/-- The sample database and a grant that is armed for the turn and used once. -/
def publishedSteps : List (MessageGrantStep Bool) :=
  sampleSetup.map .store ++ [.call (.activate sampleTurn) 7, .acquire 7,
    .call (.publish samplePublish) 8, .acquire 8, .append "x" 8]

/-- A repeat before the lease expired, and one after it, when the grant is still armed. -/
def repeatedSteps (now : Int) : List (MessageGrantStep Bool) :=
  publishedSteps ++ [.call (.publish samplePublish) now, .acquire now, .append "y" now]

/-- The grant that the publish found. -/
def sampleGrant : ActiveMessageGrant := .arm sampleTurn

/-- The message that was created. -/
def sampleAnswer : Message Bool := ⟨2, "x", "c", "b", some "a", "text", true, some "corr", some "m", 8⟩

end Fleetd
