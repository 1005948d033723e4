import Mathlib.Algebra.GroupWithZero.Nat
import Fleetd.Refinement.Digest
import Fleetd.System.Observation

/-!
# An observation is the fold of its events

The events that an observation accepted are the first successful call under each sequence
number. Its counters, its clocks and its chain digest are the fold of exactly these, in
order, and the chain digest identifies them.
-/

namespace Fleetd

open Relational Relational.Transaction Evidence

variable {Json : Type}

/-! ## The events of a run -/

section Accepting

variable [DecidableEq Json] [SerdeJson Json] [Sha256]

/-- The event a command reports, with the invocation it is about. -/
def Command.event : Command Json → Option (String × ObservedEvent)
  | .recordInvocationEvent _ invocationId eventSeq observedAtMs classification raw _ =>
    some (invocationId, ⟨eventSeq, observedAtMs, classification, utf8Bytes (SerdeJson.toString raw)⟩)
  | _ => none

/-- The accepted events of one invocation after one more command: a successful report under a
sequence number that was not reported before is accepted. -/
def acceptNext (invocationId : String) (c : Command Json) (s : Store) (es : List ObservedEvent) :
    List ObservedEvent :=
  match c.event, c.exec s with
  | some (id, e), .ok _ =>
    if id = invocationId ∧ e.seq ∉ es.map ObservedEvent.seq then es ++ [e] else es
  | _, _ => es

/-- The events of one invocation that were accepted along a run. -/
def acceptedEvents (invocationId : String) (cs : List (Command Json)) : List ObservedEvent :=
  (cs.foldl (fun p c => (c.step p.1, acceptNext invocationId c p.1 p.2)) (Store.empty, [])).2

/-- The run behind the accepted events. -/
theorem foldl_accept_fst (invocationId : String) (cs : List (Command Json)) (p : Store × List ObservedEvent) :
    (cs.foldl (fun p c => (c.step p.1, acceptNext invocationId c p.1 p.2)) p).1 =
      runFrom Command.step p.1 cs := by
  induction cs generalizing p with
  | nil => rfl
  | cons c cs ih => exact ih _

/-- One more command adds at most its own event. -/
theorem acceptedEvents_snoc (invocationId : String) (cs : List (Command Json)) (c : Command Json) :
    acceptedEvents invocationId (cs ++ [c]) =
      acceptNext invocationId c (run cs) (acceptedEvents invocationId cs) := by
  rw [acceptedEvents, List.foldl_append, List.foldl_cons, List.foldl_nil, foldl_accept_fst]
  rfl

end Accepting

/-! ## The fold -/

/-- The counter of one class. -/
def EventCounts.of (counts : EventCounts) : EventClass → Nat
  | .prompt => counts.prompt
  | .assistant => counts.assistant
  | .reasoning => counts.reasoning
  | .tool => counts.tool
  | .plan => counts.plan
  | .usage => counts.usage
  | .metadata => counts.metadata
  | .permission => counts.permission
  | .unknown => counts.unknown

/-- The sum of all counters. -/
def EventCounts.total (counts : EventCounts) : Nat :=
  counts.prompt + counts.assistant + counts.reasoning + counts.tool + counts.plan + counts.usage +
    counts.metadata + counts.permission + counts.unknown

/-- The class of an event. -/
def ObservedEvent.eventClass (e : ObservedEvent) : EventClass := EventClass.parse e.classification

/-- A row is the fold of a list of events. -/
structure FoldOf [Sha256] (o : InvocationObservation) (es : List ObservedEvent) : Prop where
  sequence : es.map ObservedEvent.seq = List.range' 1 es.length
  lastEventSeq : o.lastEventSeq = es.length
  eventCount : o.eventCount = es.length
  counts : ∀ kind, o.counts.of kind = es.countP fun e => e.eventClass = kind
  total : o.counts.total = o.eventCount
  observedPayloadBytes : o.observedPayloadBytes = (es.map fun e => e.payload.length).sum
  firstEventAtMs : o.firstEventAtMs = es.head?.map ObservedEvent.observedAtMs
  lastEventAtMs : o.lastEventAtMs = es.getLast?.map ObservedEvent.observedAtMs
  lastEventDigest : o.lastEventDigest = es.getLast?.map ObservedEvent.digest
  eventChainDigest : o.eventChainDigest = chain chainDigest ObservedEvent.digest es
  bounded : ∀ e ∈ es, e.seq ≤ i64Max ∧ 0 < e.observedAtMs

/-- Advancing the counters by one event advances the counter of its class. -/
theorem EventCounts.of_add (counts : EventCounts) (classification : String) (kind : EventClass) :
    (counts.add (eventIncrements classification)).of kind =
      counts.of kind + if EventClass.parse classification = kind then 1 else 0 := by
  unfold eventIncrements
  cases EventClass.parse classification <;> cases kind <;> rfl

/-- Advancing the counters by one event advances their sum by one. -/
theorem EventCounts.total_add (counts : EventCounts) (classification : String) :
    (counts.add (eventIncrements classification)).total = counts.total + 1 := by
  unfold eventIncrements
  cases EventClass.parse classification <;> simp only [EventCounts.add, EventCounts.total] <;> omega

section Fold

variable [SerdeJson Json] [Sha256] {o : InvocationObservation} {es : List ObservedEvent}

/-- The next event extends the fold. -/
theorem FoldOf.concat (h : FoldOf o es) {eventSeq : Nat} {observedAtMs now : Int}
    {classification : String} {raw : Json} (hseq : eventSeq = es.length + 1) (hle : eventSeq ≤ i64Max)
    (hat : 0 < observedAtMs) :
    FoldOf ((foldOf o eventSeq observedAtMs classification raw).columns now o)
      (es ++ [⟨eventSeq, observedAtMs, classification, utf8Bytes (SerdeJson.toString raw)⟩]) where
  sequence := by
    rw [List.map_append, h.sequence, List.length_append, List.length_singleton, List.range'_concat,
      hseq, Nat.one_mul, Nat.add_comm 1]
    rfl
  lastEventSeq := by
    rw [List.length_append, List.length_singleton]
    exact hseq
  eventCount := by
    rw [List.length_append, List.length_singleton, ← h.eventCount]
    rfl
  counts kind := by
    rw [List.countP_append, ← h.counts kind]
    refine (EventCounts.of_add o.counts classification kind).trans ?_
    by_cases hkind : EventClass.parse classification = kind
    · simp [ObservedEvent.eventClass, hkind]
    · simp [ObservedEvent.eventClass, hkind]
  total := (EventCounts.total_add o.counts classification).trans (congrArg (· + 1) h.total)
  observedPayloadBytes := by
    rw [List.map_append, List.sum_append, ← h.observedPayloadBytes]
    rfl
  firstEventAtMs := by
    cases es with
    | nil =>
      have hnone : o.firstEventAtMs = none := h.firstEventAtMs
      simp only [EventFold.columns, hnone]
      rfl
    | cons e rest =>
      have hsome : o.firstEventAtMs = some e.observedAtMs := h.firstEventAtMs
      simp only [EventFold.columns, hsome]
      rfl
  lastEventAtMs := by
    rw [List.getLast?_concat]
    rfl
  lastEventDigest := by
    rw [List.getLast?_concat]
    rfl
  eventChainDigest := by
    rw [chain_concat, ← h.eventChainDigest]
    rfl
  bounded e he := by
    rcases List.mem_append.mp he with he | he
    · exact h.bounded e he
    · rw [List.mem_singleton.mp he]
      exact ⟨hle, hat⟩

omit [SerdeJson Json] in
/-- The fold does not look at the terminal columns or at the change clock. -/
theorem FoldOf.settled (h : FoldOf o es) (now : Int) (evidence : TerminalEvidence) :
    FoldOf { o with updatedAtMs := now, terminal := some evidence } es :=
  ⟨h.sequence, h.lastEventSeq, h.eventCount, h.counts, h.total, h.observedPayloadBytes,
    h.firstEventAtMs, h.lastEventAtMs, h.lastEventDigest, h.eventChainDigest, h.bounded⟩

omit [SerdeJson Json] in
/-- An observation that begins has folded nothing. -/
theorem FoldOf.begun (invocationId generationId : String) (binding : Binding) (now : Int) :
    FoldOf (newObservation invocationId generationId binding now) [] where
  sequence := rfl
  lastEventSeq := rfl
  eventCount := rfl
  counts kind := by cases kind <;> rfl
  total := rfl
  observedPayloadBytes := rfl
  firstEventAtMs := rfl
  lastEventAtMs := rfl
  lastEventDigest := rfl
  eventChainDigest := rfl
  bounded _ he := by cases he

omit [SerdeJson Json] in
/-- The sequence numbers of the folded events. -/
theorem FoldOf.mem_sequence (h : FoldOf o es) {seq : Nat} :
    seq ∈ es.map ObservedEvent.seq ↔ 0 < seq ∧ seq ≤ o.lastEventSeq := by
  rw [h.sequence, List.mem_range'_1, h.lastEventSeq]
  omega

omit [SerdeJson Json] in
/-- The last sequence number fits its column. -/
theorem FoldOf.lastEventSeq_le (h : FoldOf o es) : o.lastEventSeq ≤ i64Max := by
  by_cases hpos : 0 < o.lastEventSeq
  · obtain ⟨e, he, hseq⟩ := List.mem_map.mp (h.mem_sequence.mpr ⟨hpos, le_refl _⟩)
    exact hseq ▸ (h.bounded e he).1
  · omega

omit [SerdeJson Json] in
/-- The next sequence number is one more than the number of folded events. -/
theorem FoldOf.next (h : FoldOf o es) {eventSeq : Nat} (hnext : eventSeq = nextSeq o.lastEventSeq)
    (hmoved : eventSeq ≠ o.lastEventSeq) : eventSeq = es.length + 1 := by
  have hle := h.lastEventSeq_le
  have hlen := h.lastEventSeq
  unfold nextSeq at hnext
  omega

end Fold

/-! ## One step -/

/-- Rewriting a row under its identifier names nothing new. -/
theorem not_named_of_replaceRow {o o' : InvocationObservation} {rows : List InvocationObservation}
    {id : String} (h : ∀ x ∈ replaceRow o o' rows, x.invocationId ≠ id)
    (hsame : o'.invocationId = o.invocationId) : ∀ x ∈ rows, x.invocationId ≠ id := by
  intro x hx heq
  by_cases hxo : x = o
  · subst hxo
    exact h o' (mem_replaceRow.mpr (.inl ⟨rfl, hx⟩)) (hsame.trans heq)
  · exact h x (mem_replaceRow.mpr (.inr ⟨hx, hxo⟩)) heq

/-- The observations are the folds of the accepted events. -/
structure Folded [Sha256] (s : Store) (accepted : String → List ObservedEvent) : Prop where
  rows : ∀ o ∈ s.invocationObservations, FoldOf o (accepted o.invocationId)
  absent : ∀ id, (∀ o ∈ s.invocationObservations, o.invocationId ≠ id) → accepted id = []

section Step

variable [DecidableEq Json] [SerdeJson Json] [Sha256] {s : Store} {minted : List String}
  {c : Command Json} {id : String} {es : List ObservedEvent}

/-- A command that reports no event accepts none. -/
theorem acceptNext_silent (h : c.event = none) : acceptNext id c s es = es := by
  unfold acceptNext
  rw [h]

/-- A command that fails accepts no event. -/
theorem acceptNext_error {e : FleetError} (h : c.exec s = .error e) : acceptNext id c s es = es := by
  unfold acceptNext
  rw [h]
  cases c.event <;> rfl

/-- A successful report is accepted by its own invocation, once for each sequence number. -/
theorem acceptNext_ok {invocationId : String} {e : ObservedEvent} {result : Unit × Store}
    (hevent : c.event = some (invocationId, e)) (h : c.exec s = .ok result) :
    acceptNext id c s es =
      if invocationId = id ∧ e.seq ∉ es.map ObservedEvent.seq then es ++ [e] else es := by
  unfold acceptNext
  rw [hevent, h]

/-- Every command extends the fold by the event it accepts. -/
theorem Folded.step {accepted : String → List ObservedEvent} (hf : Folded s accepted)
    (hinv : Invariant minted s)
    (hfresh : ∀ leaseToken ∈ c.leaseTokens, leaseToken ∉ minted) :
    Folded (c.step s) fun id => acceptNext id c s (accepted id) := by
  cases hexec : c.exec s with
  | error e =>
    rw [show c.step s = s from commit_of_error hexec]
    simp only [acceptNext_error hexec]
    exact hf
  | ok result =>
    obtain ⟨u, t⟩ := result
    rw [show c.step s = t from commit_of_ok hexec]
    have hids := hinv.evidence.observationIds
    cases c.observationChange hinv hfresh hexec with
    | same silent rows =>
      have hevent : c.event = none := by
        cases c <;> first | rfl | exact absurd rfl (silent _ _ _ _ _ _ _)
      refine ⟨fun o ho => ?_, fun id hid => ?_⟩
      · rw [acceptNext_silent hevent]
        exact hf.rows o (rows ▸ ho)
      · rw [acceptNext_silent hevent]
        exact hf.absent id (rows ▸ hid)
    | begun agentId invocationId generationId binding sessionRef input now command new rows =>
      have hevent : c.event = none := by rw [command]; rfl
      refine ⟨fun o ho => ?_, fun id hid => ?_⟩
      · rw [acceptNext_silent hevent]
        rw [rows] at ho
        rcases List.mem_append.mp ho with ho | ho
        · exact hf.rows o ho
        · rw [List.mem_singleton.mp ho]
          change FoldOf _ (accepted invocationId)
          rw [hf.absent invocationId new]
          exact .begun invocationId generationId binding now
      · rw [acceptNext_silent hevent]
        rw [rows] at hid
        exact hf.absent id fun o ho => hid o (List.mem_append_left _ ho)
    | repeated o eventSeq observedAtMs classification raw now command row isOpen last positive rows =>
      -- the number was accepted before
      have hold : ∀ id, acceptNext id c s (accepted id) = accepted id := by
        intro id
        rw [acceptNext_ok (by rw [command]; rfl) hexec]
        refine if_neg ?_
        rintro ⟨rfl, hnew⟩
        exact hnew ((hf.rows o row).mem_sequence.mpr ⟨positive, last.le⟩)
      refine ⟨fun x hx => ?_, fun id hid => ?_⟩
      · rw [hold]
        exact hf.rows x (rows ▸ hx)
      · rw [hold]
        exact hf.absent id (rows ▸ hid)
    | folded o eventSeq observedAtMs classification raw now command row isOpen next moved fits positive
        rows =>
      have hnext := (hf.rows o row).next next moved
      have haccept : ∀ id, acceptNext id c s (accepted id) = _ :=
        fun id => acceptNext_ok (by rw [command]; rfl) hexec
      refine ⟨fun x hx => ?_, fun id hid => ?_⟩
      · rw [haccept]
        rw [rows] at hx
        rcases mem_replaceRow.mp hx with ⟨rfl, _⟩ | ⟨hx, hne⟩
        · rw [if_pos]
          · exact (hf.rows o row).concat hnext fits positive
          · refine ⟨rfl, fun hmem => ?_⟩
            have hle := ((hf.rows o row).mem_sequence.mp hmem).2
            have hlen := (hf.rows o row).lastEventSeq
            simp only at hle
            omega
        · rw [if_neg fun hsame => hne (hids.eq hx row hsame.1.symm)]
          exact hf.rows x hx
      · rw [rows] at hid
        have habsent := not_named_of_replaceRow hid rfl
        rw [haccept, if_neg fun hsame => habsent o row hsame.1]
        exact hf.absent id habsent
    | ended o terminal evidence now command named row isOpen rows =>
      have hevent : c.event = none := by rw [command]; rfl
      refine ⟨fun x hx => ?_, fun id hid => ?_⟩
      · rw [acceptNext_silent hevent]
        rw [rows] at hx
        rcases mem_replaceRow.mp hx with ⟨rfl, _⟩ | ⟨hx, _⟩
        · exact (hf.rows o row).settled now evidence
        · exact hf.rows x hx
      · rw [acceptNext_silent hevent]
        rw [rows] at hid
        exact hf.absent id (not_named_of_replaceRow hid rfl)

/-- A report about a settled observation is refused. -/
theorem Command.event_refused (hinv : Invariant minted s)
    (hfresh : ∀ leaseToken ∈ c.leaseTokens, leaseToken ∉ minted) {o : InvocationObservation}
    (ho : o ∈ s.invocationObservations) (hterm : o.terminal.isSome = true) {e : ObservedEvent}
    (hevent : c.event = some (o.invocationId, e)) : ∃ refusal, c.exec s = .error refusal := by
  cases hexec : c.exec s with
  | error refusal => exact ⟨refusal, rfl⟩
  | ok result =>
    have hids := hinv.evidence.observationIds
    have hother : ∀ x ∈ s.invocationObservations, x.terminal = none →
        x.invocationId ≠ o.invocationId := by
      intro x hx hopen heq
      rw [← hids.eq hx ho heq, hopen] at hterm
      cases hterm
    have hnamed : ∀ x : InvocationObservation, ∀ eventSeq observedAtMs classification raw now,
        c = .recordInvocationEvent x.generationId x.invocationId eventSeq observedAtMs classification
          raw now → x.invocationId = o.invocationId := by
      rintro x _ _ _ _ _ rfl
      exact congrArg Prod.fst (Option.some.inj hevent)
    cases c.observationChange hinv hfresh hexec with
    | same silent rows =>
      cases c <;> first | exact absurd rfl (silent _ _ _ _ _ _ _) | cases hevent
    | begun agentId invocationId generationId binding sessionRef input now command new rows =>
      rw [command] at hevent
      cases hevent
    | repeated x eventSeq observedAtMs classification raw now command row isOpen last positive rows =>
      exact absurd (hnamed x _ _ _ _ _ command) (hother x row isOpen)
    | folded x eventSeq observedAtMs classification raw now command row isOpen next moved fits positive
        rows => exact absurd (hnamed x _ _ _ _ _ command) (hother x row isOpen)
    | ended x terminal evidence now command named row isOpen rows =>
      rw [command] at hevent
      cases hevent

end Step

/-! ## Whole runs -/

section Runs

variable [DecidableEq Json] [SerdeJson Json] [Sha256] {cs : List (Command Json)}

/-- What an auditor can rely on about the observations after a run. -/
structure FoldsEvidence (cs : List (Command Json)) : Prop where
  fold : ∀ o ∈ (run cs).invocationObservations, FoldOf o (acceptedEvents o.invocationId cs)
  rejected : ∀ c refusal, c.exec (run cs) = .error refusal →
    run (cs ++ [c]) = run cs ∧ ∀ id, acceptedEvents id (cs ++ [c]) = acceptedEvents id cs
  closed : ∀ o ∈ (run cs).invocationObservations, o.terminal.isSome = true →
    ∀ later, cs <+: later → Fresh later → o ∈ (run later).invocationObservations ∧
      acceptedEvents o.invocationId later = acceptedEvents o.invocationId cs
  identified : ∀ ds : List (Command Json), Fresh ds → ∀ o ∈ (run cs).invocationObservations,
    ∀ o' ∈ (run ds).invocationObservations,
    (∀ e ∈ acceptedEvents o.invocationId cs ++ acceptedEvents o'.invocationId ds,
      e.observedAtMs ≤ i64Max ∧ '\x00' ∉ e.classification.toList) →
    CollisionFree Sha256.hexDigest (hashed (acceptedEvents o.invocationId cs) ++
      hashed (acceptedEvents o'.invocationId ds)) →
    o.eventChainDigest = o'.eventChainDigest →
    acceptedEvents o.invocationId cs = acceptedEvents o'.invocationId ds

/-- The observations after a run are the folds of the events it accepted. -/
theorem run_folded (h : Fresh cs) : Folded (run cs) fun id => acceptedEvents id cs := by
  refine FreshAlong.induction (fun ds (s : Store) => Folded s fun id => acceptedEvents id ds)
    ⟨fun _ ho => (by cases ho), fun _ _ => rfl⟩ (fun ds c hfresh hs => ?_) cs h
  simp only [acceptedEvents_snoc]
  exact hs.step (run_invariant hfresh.left) fun _ ht => hfresh.not_mem ht

end Runs

/-- The sample's attempt reports two events, one of them twice, and ends. -/
def observedRun : List (Command Bool) := sampleArmed ++ [
  .recordInvocationEvent "g" "i" 1 8 "plan_update" true 8,
  .recordInvocationEvent "g" "i" 1 8 "plan_update" true 9,
  .recordInvocationEvent "g" "i" 2 9 "tool_call" false 10,
  .recordInvocationTerminal "g" ⟨"i", 2, "end_turn", none, .outcomeKnown, true, .confirmed, true⟩ 11]

end Fleetd
