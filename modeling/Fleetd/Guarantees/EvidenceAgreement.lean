import Fleetd.Controller.DurableDrain
import Fleetd.System.Reachable

/-!
# The client and the store on the evidence of a turn

Two checks see the frames of a turn one after the other. The client remembers every event it has
seen and lets an exact repeat of any of them through; the store remembers the last one only, with
the clock reading it was recorded under. What the client lets through is recorded exactly if no
frame goes back behind the last one, a repeat of the last one is stamped alike, and the values fit
their columns.
-/

namespace Fleetd

open Serde (Value)
open Effects Harness Relational Relational.Transaction

/-! ## What the store accepts -/

/-- The digest that the store keeps of a record. -/
def EventRecord.digest [Sha256] (record : EventRecord) : String :=
  eventDigest record.eventSeq record.observedAtMs record.classification (utf8Bytes record.raw.print)

/-- A record whose values fit their columns. -/
structure EventRecord.Fits (record : EventRecord) : Prop where
  observedAtMs : 0 < record.observedAtMs
  eventSeq : record.eventSeq ≤ i64Max
  raw : (utf8Bytes record.raw.print).length ≤ i64Max

/-- A record that is newer than the one before it, or repeats it under the same digest. -/
def EventRecord.Follows [Sha256] (record : EventRecord) : Option EventRecord → Prop
  | none => True
  | some last => last.eventSeq < record.eventSeq ∨
      last.eventSeq = record.eventSeq ∧ last.digest = record.digest

/-- The frames that the store records one after another, after the last record so far. -/
def Recordable [Sha256] (policy : PermissionPolicy) : Option EventRecord → List DeliveredFrame → Prop
  | _, [] => True
  | last, delivered :: rest =>
    match delivered.frame with
    | .event event =>
      (eventRecord event).Fits ∧ (eventRecord event).Follows last ∧
        Recordable policy (some (eventRecord event)) rest
    | .permission request =>
      let record := permissionRecord request (decidePermission policy request) delivered.now
      record.Fits ∧ record.Follows last ∧ Recordable policy (some record) rest
    | .terminal terminal =>
      byteLen terminal.usage.print ≤ maxEvidenceJsonBytes ∧ Recordable policy last rest

/-- What is recorded of a frame that does not end the turn. -/
def DeliveredFrame.record? (policy : PermissionPolicy) (delivered : DeliveredFrame) :
    Option EventRecord :=
  match delivered.frame with
  | .event event => some (eventRecord event)
  | .permission request =>
    some (permissionRecord request (decidePermission policy request) delivered.now)
  | .terminal _ => none

/-- A frame with a record is recorded as an event. -/
theorem recordFrame_eq [Sha256] {policy : PermissionPolicy} {delivered : DeliveredFrame}
    {record : EventRecord} (h : delivered.record? policy = some record)
    (generationId invocationId : String) :
    recordFrame policy generationId invocationId delivered =
      recordInvocationEvent generationId invocationId record.eventSeq record.observedAtMs
        record.classification record.raw delivered.storeNow := by
  obtain ⟨frame, now, storeNow⟩ := delivered
  cases frame with
  | event event =>
    cases h
    rfl
  | permission request =>
    cases h
    rfl
  | terminal terminal => cases h

/-- A frame with a record is recordable before the rest if the record fits and follows. -/
theorem recordable_cons [Sha256] {policy : PermissionPolicy} {delivered : DeliveredFrame}
    {record : EventRecord} (h : delivered.record? policy = some record) (last : Option EventRecord)
    (rest : List DeliveredFrame) :
    Recordable policy last (delivered :: rest) ↔
      record.Fits ∧ record.Follows last ∧ Recordable policy (some record) rest := by
  obtain ⟨frame, now, storeNow⟩ := delivered
  cases frame with
  | event event =>
    cases h
    rfl
  | permission request =>
    cases h
    rfl
  | terminal terminal => cases h

/-- An observation that is open for the events of its turn. -/
structure Observing (generationId invocationId : String) (o : InvocationObservation) (s : Store) :
    Prop where
  consistent : EvidenceConsistent s
  observed : observationOf invocationId generationId s = some o
  unfinished : o.terminal = none
  active : ∃ g ∈ s.pluginGenerations, g.id = generationId ∧ g.stopped = none

section Recording
variable {generationId invocationId : String} {o : InvocationObservation} {s : Store}

/-- The generation of an open observation is found, and is active. -/
theorem Observing.generation (h : Observing generationId invocationId o s) :
    ∃ g, s.pluginGenerations.find? (fun g => decide (g.id = generationId)) = some g ∧
      g.stopped = none := by
  obtain ⟨g, hg, hid, hactive⟩ := h.active
  refine ⟨g, h.consistent.generationIds.find?_eq_some hg (by simp [hid]) ?_, hactive⟩
  intro x _ hx
  rw [hid]
  exact of_decide_eq_true hx

/-- The row of an open observation is the only one under its invocation. -/
theorem Observing.countP_eq_one (h : Observing generationId invocationId o s) :
    s.invocationObservations.countP (fun row => decide (row.invocationId = invocationId) &&
      decide (row.generationId = generationId) && decide (row.lastEventSeq = o.lastEventSeq)) = 1 := by
  obtain ⟨hmem, hid, hgen⟩ := observationOf_some h.observed
  refine h.consistent.observationIds.countP_eq_one hmem (by simp [hid, hgen]) ?_
  intro x _ hx
  simp only [Bool.and_eq_true, decide_eq_true_eq] at hx
  rw [hx.1.1, hid]

/-- A conversion that succeeds was in range. -/
theorem tryFromU64_ok {value : Nat} {message : String} {n : Int}
    (h : tryFromU64 value message = .ok n) : value ≤ i64Max := by
  unfold tryFromU64 at h
  split at h
  · assumption
  · cases h

/-- When the store records an event for an open observation. -/
theorem recordInvocationEvent_iff [Sha256] (h : Observing generationId invocationId o s)
    (record : EventRecord) (now : Int) :
    (∃ t, recordInvocationEvent generationId invocationId record.eventSeq record.observedAtMs
        record.classification record.raw now s = .ok ((), t)) ↔
      0 < record.eventSeq ∧ isBlank record.classification = false ∧ record.Fits ∧
        (record.eventSeq = o.lastEventSeq ∧ o.lastEventDigest = some record.digest ∨
          record.eventSeq ≠ o.lastEventSeq ∧ record.eventSeq = nextSeq o.lastEventSeq) := by
  obtain ⟨g, hg, hactive⟩ := h.generation
  constructor
  · rintro ⟨t, ht⟩
    simp only [recordInvocationEvent, bind_ok, check_ok, read_ok, ensure_ok, require_ok] at ht
    obtain ⟨_, _, ⟨hvalid, rfl⟩, _, _, ⟨hseq, rfl⟩, _, _, ⟨hraw, rfl⟩, _, _, ⟨rfl, rfl⟩, o', _, ⟨ho, rfl⟩,
      _, _, ⟨_, rfl⟩, _, _, ⟨_, rfl⟩, _, _, ⟨_, rfl⟩, ht⟩ := ht
    obtain rfl : o = o' := Option.some.inj (h.observed.symm.trans ho)
    simp only [not_or, not_le, Bool.not_eq_true] at hvalid
    refine ⟨Nat.pos_of_ne_zero hvalid.1, hvalid.2.2, ⟨hvalid.2.1, tryFromU64_ok hseq,
      tryFromU64_ok hraw⟩, ?_⟩
    split at ht
    · rename_i hsame
      rw [ensure_ok] at ht
      exact .inl ⟨hsame, ht.1⟩
    · rename_i hne
      simp only [bind_ok, ensure_ok] at ht
      obtain ⟨_, _, ⟨hnext, rfl⟩, _⟩ := ht
      exact .inr ⟨hne, hnext⟩
  · rintro ⟨hpos, hblank, hfits, hseq⟩
    have hvalid : ¬ (record.eventSeq = 0 ∨ record.observedAtMs ≤ 0 ∨
        isBlank record.classification = true) := by
      simp [hblank, hfits.observedAtMs, Nat.ne_of_gt hpos]
    have hlen : (utf8Bytes (SerdeJson.toString record.raw)).length ≤ i64Max := hfits.raw
    obtain ⟨hsame, hdigest⟩ | ⟨hne, hnext⟩ := hseq
    · refine ⟨s, ?_⟩
      simp only [recordInvocationEvent, bind_run, ensure_run, if_pos hvalid, tryFromU64,
        if_pos hfits.eventSeq, if_pos hlen, check_ok_run, read_run, id_eq, h.observed,
        require_some_run, hg, hactive, h.unfinished, if_true, if_pos hsame]
      exact if_pos hdigest
    · simp only [recordInvocationEvent, bind_run, ensure_run, if_pos hvalid, tryFromU64,
        if_pos hfits.eventSeq, if_pos hlen, check_ok_run, read_run, id_eq, h.observed,
        require_some_run, hg, hactive, h.unfinished, if_true, if_neg hne, if_pos hnext,
        applyEventFold, write_run, h.countP_eq_one, touchGeneration, pure_run]
      exact ⟨_, rfl⟩

/-- A heartbeat leaves the active generations active. -/
theorem mem_touched_active {now : Int} {rows : List PluginGeneration}
    (h : ∃ g ∈ rows, g.id = generationId ∧ g.stopped = none) :
    ∃ g ∈ touched generationId now rows, g.id = generationId ∧ g.stopped = none := by
  obtain ⟨g, hg, hid, hactive⟩ := h
  exact ⟨{ g with lastHeartbeatAtMs := now },
    mem_updateWhere_of_pos hg (activeGeneration_iff.2 ⟨hid, hactive⟩), hid, hactive⟩

/-- A row that is replaced under its identifier, with a heartbeat beside it, is found again. -/
theorem Observing.replaced (h : Observing generationId invocationId o s) (o' : InvocationObservation)
    (hid : o'.invocationId = o.invocationId) (hgen : o'.generationId = o.generationId) (now : Int) :
    let t : Store := { s with
      invocationObservations := replaceRow o o' s.invocationObservations
      pluginGenerations := touched generationId now s.pluginGenerations }
    EvidenceConsistent t ∧ observationOf invocationId generationId t = some o' := by
  obtain ⟨hmem, hoid, hogen⟩ := observationOf_some h.observed
  have hunique := h.consistent.observationIds.replaceRow hid
  refine ⟨⟨hunique, h.consistent.generationIds.updateWhere fun _ _ _ => rfl⟩, ?_⟩
  refine hunique.find?_eq_some (mem_replaceRow.2 (.inl ⟨rfl, hmem⟩)) ?_ ?_
  · simp [hid, hgen, hoid, hogen]
  · intro x _ hx
    rw [hid, hoid]
    exact (of_decide_eq_true hx).1

/-- After a record, the observation is open and ends in that record. -/
theorem Observing.recorded [Sha256] (h : Observing generationId invocationId o s) {t : Store}
    {record : EventRecord} {now : Int}
    (hok : recordInvocationEvent generationId invocationId record.eventSeq record.observedAtMs
      record.classification record.raw now s = .ok ((), t)) :
    ∃ o', Observing generationId invocationId o' t ∧ o'.lastEventSeq = record.eventSeq ∧
      o'.lastEventDigest = some record.digest := by
  obtain ⟨hmem, hid, hgen⟩ := observationOf_some h.observed
  obtain ⟨-, -, -, hseq⟩ := (recordInvocationEvent_iff h record now).1 ⟨t, hok⟩
  obtain ⟨x, hx, hxid, hxgen, -, -, -, -, -, hchange⟩ := recordInvocationEvent_ok hok
  obtain rfl : x = o := h.consistent.observationIds.eq hx hmem (hxid.trans hid.symm)
  obtain ⟨rfl, hsame⟩ | ⟨hnext, hne, rfl⟩ := hchange
  · obtain ⟨-, hdigest⟩ | ⟨hne, -⟩ := hseq
    · exact ⟨x, h, hsame.symm, hdigest⟩
    · exact absurd hsame hne
  · obtain ⟨hconsistent, hfound⟩ := h.replaced
      ((foldOf x record.eventSeq record.observedAtMs record.classification record.raw).columns now x)
      rfl rfl now
    exact ⟨_, ⟨hconsistent, hfound, h.unfinished, mem_touched_active h.active⟩, rfl, rfl⟩

/-- When the store records the end of an open observation. -/
theorem recordInvocationTerminal_iff (terminal : TurnTerminal Value)
    (h : Observing generationId terminal.invocationId o s) (now : Int) :
    (∃ t, recordInvocationTerminal generationId terminal now s = .ok ((), t)) ↔
      terminal.lastEventSeq ≤ i64Max ∧ byteLen terminal.usage.print ≤ maxEvidenceJsonBytes ∧
        o.lastEventSeq = terminal.lastEventSeq := by
  constructor
  · rintro ⟨t, ht⟩
    simp only [recordInvocationTerminal, bind_ok, check_ok, read_ok, ensure_ok, require_ok] at ht
    obtain ⟨_, _, ⟨hseq, rfl⟩, _, _, ⟨husage, rfl⟩, _, _, ⟨rfl, rfl⟩, o', _, ⟨ho, rfl⟩, _, _,
      ⟨hlast, rfl⟩, _⟩ := ht
    obtain rfl : o = o' := Option.some.inj (h.observed.symm.trans ho)
    refine ⟨tryFromU64_ok hseq, ?_, hlast⟩
    by_contra hlarge
    have hgt : byteLen (SerdeJson.toString terminal.usage) > maxEvidenceJsonBytes :=
      Nat.lt_of_not_le hlarge
    rw [boundedJson, if_pos hgt] at husage
    cases husage
  · rintro ⟨hseq, husage, hlast⟩
    have hbounded : boundedJson (SerdeJson.toString terminal.usage) "terminal usage" =
        .ok (SerdeJson.toString terminal.usage) := if_neg (Nat.not_lt_of_le husage)
    simp only [recordInvocationTerminal, bind_run, ensure_run, tryFromU64, if_pos hseq,
      check_ok_run, hbounded, read_run, id_eq, h.observed, require_some_run, if_pos hlast,
      h.unfinished, write_run, touchGeneration, pure_run]
    exact ⟨_, rfl⟩

/-- A recorded end leaves the last event of its observation. -/
theorem Observing.ended {terminal : TurnTerminal Value}
    (h : Observing generationId terminal.invocationId o s) {t : Store} {now : Int}
    (hok : recordInvocationTerminal generationId terminal now s = .ok ((), t)) :
    ∃ o', observationOf terminal.invocationId generationId t = some o' ∧
      o'.lastEventSeq = terminal.lastEventSeq := by
  obtain ⟨hmem, hid, hgen⟩ := observationOf_some h.observed
  obtain ⟨-, -, hlast⟩ := (recordInvocationTerminal_iff terminal h now).1 ⟨t, hok⟩
  obtain ⟨x, hx, hxid, hxgen, hchange⟩ := recordInvocationTerminal_ok h.consistent hok
  obtain rfl : x = o := h.consistent.observationIds.eq hx hmem (hxid.trans hid.symm)
  obtain rfl | ⟨-, evidence, rfl⟩ := hchange
  · exact ⟨x, h.observed, hlast⟩
  · obtain ⟨-, hfound⟩ := h.replaced
      { x with updatedAtMs := now, terminal := some evidence } rfl rfl now
    exact ⟨_, hfound, hlast⟩

end Recording

/-! ## What the client lets through -/

section Admission
variable {fence : ExecutionFence} {client client' : HarnessAcpClient}

/-- The sequence numbers that a client has seen are the ones up to the last. -/
structure InSequence (active : ActiveTurn) : Prop where
  seen : ∀ seq, (active.seen.lookup seq).isSome = true ↔ 0 < seq ∧ seq ≤ active.lastEventSeq

/-- A checked identifier is not blank. -/
theorem validateId_ok {kind value : String} {u : Unit} (h : validateId kind value = .ok u) :
    isBlank value = false := by
  unfold validateId at h
  split at h
  · cases h
  · rename_i hvalid
    rw [not_or] at hvalid
    exact Bool.eq_false_iff.2 hvalid.1

/-- The turn that a checked fence belongs to. -/
theorem validateActiveFence_ok {active : ActiveTurn}
    (h : client.validateActiveFence fence = .ok active) :
    client.activeTurn = some active ∧ active.fence = fence := by
  rw [HarnessAcpClient.validateActiveFence, except_bind_ok] at h
  obtain ⟨_, _, h⟩ := h
  match hactive : client.activeTurn with
  | none =>
    rw [hactive] at h
    cases h
  | some found =>
    rw [hactive] at h
    simp only at h
    split at h
    · rename_i hfence
      cases h
      exact ⟨rfl, hfence⟩
    · cases h

/-- An event that is let through is one of the seen ones, or the next. -/
theorem admitEvent_ok [Sha256] {eventSeq : Nat} {raw : Value} {active : ActiveTurn}
    (hactive : client.activeTurn = some active) (hseen : InSequence active)
    (h : client.admitEvent fence eventSeq raw = .ok client') :
    active.fence = fence ∧ 0 < eventSeq ∧ ∃ active', client'.activeTurn = some active' ∧
      InSequence active' ∧ active'.fence = fence ∧
      (eventSeq ≤ active.lastEventSeq ∧ active'.lastEventSeq = active.lastEventSeq ∨
        eventSeq = active.lastEventSeq + 1 ∧ active'.lastEventSeq = eventSeq) := by
  simp only [HarnessAcpClient.admitEvent, except_bind_ok] at h
  obtain ⟨found, hfound, _, hpositive, h⟩ := h
  obtain ⟨hsame, hfence⟩ := validateActiveFence_ok hfound
  obtain rfl : active = found := Option.some.inj (hactive.symm.trans hsame)
  have hpos : 0 < eventSeq := by
    by_contra hzero
    simp [validatePositive, Nat.eq_zero_of_not_pos hzero] at hpositive
  refine ⟨hfence, hpos, ?_⟩
  match hlookup : active.seen.lookup eventSeq with
  | some previous =>
    have hle := ((hseen.seen eventSeq).1 (by simp [hlookup])).2
    simp only [hlookup] at h
    split at h
    · cases h
      exact ⟨active, hactive, hseen, hfence, .inl ⟨hle, rfl⟩⟩
    · cases h
  | none =>
    simp only [hlookup] at h
    split at h
    · cases h
    · split at h
      · cases h
      · rename_i _ hnext
        cases h
        have hnext : eventSeq = active.lastEventSeq + 1 := not_not.1 hnext
        refine ⟨_, rfl, ⟨fun seq => ?_⟩, hfence, .inr ⟨hnext, rfl⟩⟩
        rw [List.lookup_cons]
        by_cases heq : seq = eventSeq
        · simp [heq, hpos]
        · have hbeq : (seq == eventSeq) = false := beq_false_of_ne heq
          simp only [hbeq, hseen.seen seq]
          omega

/-- A terminal frame that is let through ends the turn at its last event. -/
theorem validateTerminal_ok {terminal : Harness.TurnTerminal}
    (h : client.validateTerminal terminal = .ok ()) :
    ∃ active, client.activeTurn = some active ∧ active.fence = terminal.fence ∧
      terminal.lastEventSeq = active.lastEventSeq := by
  simp only [HarnessAcpClient.validateTerminal, except_bind_ok] at h
  obtain ⟨active, hfound, h⟩ := h
  obtain ⟨hactive, hfence⟩ := validateActiveFence_ok hfound
  split at h
  · cases h
  · rename_i hlast
    exact ⟨active, hactive, hfence, not_not.1 hlast⟩

end Admission

/-- The classification of permission requests is not blank. -/
theorem isBlank_permissionRequest : isBlank "permission_request" = false := by decide +kernel

/-! ## Both together -/

section Agreement
variable [Sha256] {policy : PermissionPolicy} {generationId : String} {fence : ExecutionFence}
  {client client' : HarnessAcpClient} {last : Option EventRecord} {s t : Store}

/-- The client and the store have seen the same events. -/
structure InStep (generationId : String) (fence : ExecutionFence) (last : Option EventRecord)
    (active : ActiveTurn) (o : InvocationObservation) (s : Store) : Prop where
  sequence : InSequence active
  fenced : active.fence = fence
  observing : Observing generationId fence.invocationId o s
  lastEventSeq : o.lastEventSeq = active.lastEventSeq
  lastRecord : active.lastEventSeq = (last.map EventRecord.eventSeq).getD 0
  lastDigest : ∀ record, last = some record → o.lastEventDigest = some record.digest
  bounded : active.lastEventSeq ≤ i64Max

/-- An event that the client lets through is recorded if it fits and follows the last record. -/
theorem InStep.record_iff {active : ActiveTurn} {o : InvocationObservation}
    (h : InStep generationId fence last active o s) (hactive : client.activeTurn = some active)
    {record : EventRecord} {raw : Value} (hblank : isBlank record.classification = false)
    (hadmitted : client.admitEvent fence record.eventSeq raw = .ok client') (now : Int) :
    (∃ t, recordInvocationEvent generationId fence.invocationId record.eventSeq
      record.observedAtMs record.classification record.raw now s = .ok ((), t)) ↔
      record.Fits ∧ record.Follows last := by
  obtain ⟨-, hpos, active', -, -, -, hseq⟩ := admitEvent_ok hactive h.sequence hadmitted
  rw [recordInvocationEvent_iff h.observing, h.lastEventSeq]
  have hbounded := h.bounded
  have hrecord := h.lastRecord
  obtain ⟨hle, -⟩ | ⟨hnext, -⟩ := hseq
  · -- the sequence number was seen before, so that there is a last record
    match last, hrecord, h.lastDigest with
    | none, hrecord, _ =>
      simp only [Option.map_none, Option.getD_none] at hrecord
      omega
    | some previous, hrecord, hdigest =>
      simp only [Option.map_some, Option.getD_some] at hrecord
      rw [hdigest previous rfl]
      simp only [EventRecord.Follows, nextSeq, Option.some.injEq]
      constructor
      · rintro ⟨-, -, hfits, ⟨hsame, hd⟩ | ⟨hne, hmin⟩⟩
        · exact ⟨hfits, .inr ⟨by omega, hd⟩⟩
        · omega
      · rintro ⟨hfits, hnewer | ⟨hsame, hd⟩⟩
        · omega
        · exact ⟨hpos, hblank, hfits, .inl ⟨by omega, hd⟩⟩
  · have hfollows : record.Follows last := by
      match last, hrecord with
      | none, _ => trivial
      | some previous, hrecord =>
        simp only [Option.map_some, Option.getD_some] at hrecord
        exact .inl (by omega)
    constructor
    · rintro ⟨-, -, hfits, -⟩
      exact ⟨hfits, hfollows⟩
    · rintro ⟨hfits, -⟩
      have hle := hfits.eventSeq
      exact ⟨hpos, hblank, hfits, .inr ⟨by omega, by simp only [nextSeq]; omega⟩⟩

/-- After a record, the client and the store have seen the same events again. -/
theorem InStep.recorded {active : ActiveTurn} {o : InvocationObservation}
    (h : InStep generationId fence last active o s) (hactive : client.activeTurn = some active)
    {record : EventRecord} {raw : Value} (hblank : isBlank record.classification = false)
    (hadmitted : client.admitEvent fence record.eventSeq raw = .ok client') {now : Int}
    (hok : recordInvocationEvent generationId fence.invocationId record.eventSeq
      record.observedAtMs record.classification record.raw now s = .ok ((), t)) :
    ∃ active' o', client'.activeTurn = some active' ∧
      InStep generationId fence (some record) active' o' t := by
  obtain ⟨hfits, hfollows⟩ := (h.record_iff hactive hblank hadmitted now).1 ⟨t, hok⟩
  obtain ⟨-, hpos, active', hactive', hsequence, hfence, hseq⟩ :=
    admitEvent_ok hactive h.sequence hadmitted
  obtain ⟨o', hobserving, hlast, hdigest⟩ := h.observing.recorded hok
  have heq : active'.lastEventSeq = record.eventSeq := by
    obtain ⟨hle, hsame⟩ | ⟨-, hnew⟩ := hseq
    · have hrecord := h.lastRecord
      match last, hrecord, hfollows with
      | none, hrecord, _ =>
        simp only [Option.map_none, Option.getD_none] at hrecord
        omega
      | some previous, hrecord, hfollows =>
        simp only [Option.map_some, Option.getD_some] at hrecord
        rcases hfollows with hnewer | ⟨hsame', -⟩
        · omega
        · omega
    · exact hnew
  have hle := hfits.eventSeq
  exact ⟨active', o', hactive', hsequence, hfence, hobserving, by omega, heq,
    fun r hr => by cases hr; exact hdigest, by omega⟩

/-- A frame with a record is let through as an event of the turn. -/
theorem InStep.admitted {active : ActiveTurn} {o : InvocationObservation}
    (h : InStep generationId fence last active o s) (hactive : client.activeTurn = some active)
    {delivered : DeliveredFrame} {record : EventRecord}
    (hrecord : delivered.record? policy = some record)
    (hnext : client.nextNotification delivered.frame.notification = .ok client') :
    ∃ raw, isBlank record.classification = false ∧
      client.admitEvent fence record.eventSeq raw = .ok client' := by
  obtain ⟨frame, now, storeNow⟩ := delivered
  cases frame with
  | event event =>
    cases hrecord
    simp only [TurnFrame.notification, HarnessAcpClient.nextNotification, except_bind_ok] at hnext
    obtain ⟨_, hclass, hadmitted⟩ := hnext
    have hfence := (admitEvent_ok hactive h.sequence hadmitted).1.symm.trans h.fenced
    rw [hfence] at hadmitted
    exact ⟨event.toValue, validateId_ok hclass, hadmitted⟩
  | permission request =>
    cases hrecord
    simp only [TurnFrame.notification, HarnessAcpClient.nextNotification, except_bind_ok] at hnext
    obtain ⟨_, _, hadmitted⟩ := hnext
    have hfence := (admitEvent_ok hactive h.sequence hadmitted).1.symm.trans h.fenced
    rw [hfence] at hadmitted
    exact ⟨request.toValue, isBlank_permissionRequest, hadmitted⟩
  | terminal terminal => cases hrecord

/-- A terminal frame is let through for the active turn and its last event, and ends the turn. -/
theorem nextNotification_terminal {active : ActiveTurn} (hactive : client.activeTurn = some active)
    {terminal : Harness.TurnTerminal}
    (hnext : client.nextNotification (.turnTerminal terminal) = .ok client') :
    active.fence = terminal.fence ∧ terminal.lastEventSeq = active.lastEventSeq ∧
      client'.activeTurn = none := by
  simp only [HarnessAcpClient.nextNotification, except_bind_ok] at hnext
  obtain ⟨_, hvalid, hnext⟩ := hnext
  obtain ⟨found, hfound, hfence, hlast⟩ := validateTerminal_ok hvalid
  obtain rfl : active = found := Option.some.inj (hactive.symm.trans hfound)
  cases hnext
  exact ⟨hfence, hlast, rfl⟩

/-- One more frame is let through before the rest. -/
theorem admits_cons {delivered : DeliveredFrame} {rest : List DeliveredFrame} :
    client.admits (delivered :: rest) = .ok client' ↔
      ∃ next, client.nextNotification delivered.frame.notification = .ok next ∧
        next.admits rest = .ok client' := by
  rw [HarnessAcpClient.admits, List.map_cons, List.foldlM_cons, except_bind_ok]
  rfl

/-- Nothing is let through without an active turn. -/
theorem admits_of_inactive {frames : List DeliveredFrame} (hnone : client.activeTurn = none)
    (h : client.admits frames = .ok client') : frames = [] := by
  cases frames with
  | nil => rfl
  | cons delivered rest =>
    obtain ⟨next, hnext, -⟩ := admits_cons.1 h
    obtain ⟨frame, now, storeNow⟩ := delivered
    have hinactive : ∀ fence active, client.validateActiveFence fence ≠ .ok active := by
      intro fence active hactive
      have hsome := (validateActiveFence_ok hactive).1
      rw [hnone] at hsome
      cases hsome
    cases frame with
    | event event =>
      simp only [TurnFrame.notification, HarnessAcpClient.nextNotification,
        HarnessAcpClient.admitEvent, except_bind_ok] at hnext
      obtain ⟨_, _, active, hactive, _⟩ := hnext
      exact absurd hactive (hinactive _ _)
    | permission request =>
      simp only [TurnFrame.notification, HarnessAcpClient.nextNotification,
        HarnessAcpClient.admitEvent, except_bind_ok] at hnext
      obtain ⟨_, _, active, hactive, _⟩ := hnext
      exact absurd hactive (hinactive _ _)
    | terminal terminal =>
      simp only [TurnFrame.notification, HarnessAcpClient.nextNotification,
        HarnessAcpClient.validateTerminal, except_bind_ok] at hnext
      obtain ⟨_, ⟨active, hactive, _⟩, _⟩ := hnext
      exact absurd hactive (hinactive _ _)

/-- The outcome of a drain over the store. -/
structure RecordsAdmitted (sink : Bool) (policy : PermissionPolicy) (generationId : String)
    (fence : ExecutionFence) (s : Store) (frames : List DeliveredFrame) : Prop where
  recorded : ∀ error, (drainTurn sink policy fence
    (durableArrivals policy generationId fence.invocationId s frames)).result ≠ .error error
  terminal : ∀ terminal, (drainTurn sink policy fence
      (durableArrivals policy generationId fence.invocationId s frames)).result = .ok (some terminal) →
    ∃ o, observationOf fence.invocationId generationId
        (recordAll policy generationId fence.invocationId s frames) = some o ∧
      o.lastEventSeq = terminal.lastEventSeq

/-- A frame that does not end the turn is recorded before the rest. -/
theorem recordsAdmitted_cons {sink : Bool} {delivered : DeliveredFrame} {rest : List DeliveredFrame}
    (hframe : ∀ terminal, delivered.frame ≠ .terminal terminal) :
    RecordsAdmitted sink policy generationId fence s (delivered :: rest) ↔
      ∃ t, recordFrame policy generationId fence.invocationId delivered s = .ok ((), t) ∧
        RecordsAdmitted sink policy generationId fence t rest := by
  have hresult : (drainTurn sink policy fence
      (durableArrivals policy generationId fence.invocationId s (delivered :: rest))).result =
      match recordFrame policy generationId fence.invocationId delivered s with
      | .ok (_, t) => (drainTurn sink policy fence
          (durableArrivals policy generationId fence.invocationId t rest)).result
      | .error error => .error (.evidence error) := by
    obtain ⟨frame, now, storeNow⟩ := delivered
    cases hrecord : recordFrame policy generationId fence.invocationId ⟨frame, now, storeNow⟩ s with
    | error error =>
      cases frame with
      | event event => simp [durableArrivals, drainTurn, TurnFrame.notification, recordAnswer, hrecord]
      | permission request =>
        simp [durableArrivals, drainTurn, TurnFrame.notification, recordAnswer, hrecord]
      | terminal terminal => exact absurd rfl (hframe terminal)
    | ok result =>
      cases frame with
      | event event =>
        simp [durableArrivals, drainTurn, TurnFrame.notification, recordAnswer, hrecord, commit, offer]
      | permission request =>
        simp [durableArrivals, drainTurn, TurnFrame.notification, recordAnswer, hrecord, commit, offer]
      | terminal terminal => exact absurd rfl (hframe terminal)
  have hall : recordAll policy generationId fence.invocationId s (delivered :: rest) =
      recordAll policy generationId fence.invocationId
        (commit (recordFrame policy generationId fence.invocationId delivered) s) rest := rfl
  cases hrecord : recordFrame policy generationId fence.invocationId delivered s with
  | error error =>
    rw [hrecord] at hresult
    refine iff_of_false (fun h => h.recorded _ hresult) ?_
    rintro ⟨t, ht, -⟩
    cases ht
  | ok result =>
    obtain ⟨⟨⟩, t⟩ := result
    rw [hrecord] at hresult
    rw [commit_of_ok hrecord] at hall
    constructor
    · intro h
      refine ⟨t, rfl, fun error herror => h.recorded error (hresult.trans herror), fun terminal hterminal => ?_⟩
      rw [← hall]
      exact h.terminal terminal (hresult.trans hterminal)
    · rintro ⟨t', ht', h⟩
      cases ht'
      refine ⟨fun error herror => h.recorded error (hresult.symm.trans herror), fun terminal hterminal => ?_⟩
      rw [hall]
      exact h.terminal terminal (hresult.symm.trans hterminal)

/-- The end of an observed turn is recorded if its usage fits. -/
theorem recordsAdmitted_terminal {sink : Bool} {terminal : Harness.TurnTerminal} {now storeNow : Int}
    {o : InvocationObservation} (hfence : terminal.fence = fence)
    (h : Observing generationId fence.invocationId o s) (hlast : o.lastEventSeq = terminal.lastEventSeq)
    (hbounded : o.lastEventSeq ≤ i64Max) :
    RecordsAdmitted sink policy generationId fence s [⟨.terminal terminal, now, storeNow⟩] ↔
      byteLen terminal.usage.print ≤ maxEvidenceJsonBytes := by
  subst hfence
  have hobserving : Observing generationId terminal.summary.invocationId o s := h
  have hiff := recordInvocationTerminal_iff terminal.summary hobserving storeNow
  cases hrecord : recordInvocationTerminal generationId terminal.summary storeNow s with
  | error error =>
    have hresult : (drainTurn sink policy terminal.fence (durableArrivals policy generationId
        terminal.fence.invocationId s [⟨.terminal terminal, now, storeNow⟩])).result =
        .error (.evidence error) := by
      simp [durableArrivals, drainTurn, TurnFrame.notification, recordAnswer, recordFrame, hrecord]
    refine iff_of_false (fun hr => hr.recorded _ hresult) fun husage => ?_
    obtain ⟨t, ht⟩ := hiff.2 ⟨hlast.symm.le.trans hbounded, husage, hlast⟩
    rw [hrecord] at ht
    cases ht
  | ok result =>
    obtain ⟨⟨⟩, t⟩ := result
    have hresult : (drainTurn sink policy terminal.fence (durableArrivals policy generationId
        terminal.fence.invocationId s [⟨.terminal terminal, now, storeNow⟩])).result =
        .ok (some terminal) := by
      simp [durableArrivals, drainTurn, TurnFrame.notification, recordAnswer, recordFrame, hrecord]
    have hall : recordAll policy generationId terminal.fence.invocationId s
        [⟨.terminal terminal, now, storeNow⟩] = t := commit_of_ok hrecord
    refine iff_of_true ⟨fun error herror => ?_, fun found hfound => ?_⟩
      (hiff.1 ⟨t, hrecord⟩).2.1
    · rw [hresult] at herror
      cases herror
    · rw [hresult] at hfound
      cases hfound
      rw [hall]
      exact hobserving.ended hrecord

/-- The frames that a client lets through are recorded exactly if they are recordable. -/
theorem InStep.recordsAdmitted_iff (sink : Bool) {active : ActiveTurn} {o : InvocationObservation}
    (h : InStep generationId fence last active o s) (hactive : client.activeTurn = some active)
    {frames : List DeliveredFrame} (hadmits : client.admits frames = .ok client') :
    RecordsAdmitted sink policy generationId fence s frames ↔ Recordable policy last frames := by
  induction frames generalizing client last active o s with
  | nil =>
    refine iff_of_true ⟨fun error herror => ?_, fun terminal hterminal => ?_⟩ trivial
    · cases herror
    · cases hterminal
  | cons delivered rest ih =>
    obtain ⟨next, hnext, hrest⟩ := admits_cons.1 hadmits
    cases hrecord : delivered.record? policy with
    | some record =>
      obtain ⟨raw, hblank, hallowed⟩ := h.admitted hactive hrecord hnext
      have hframe : ∀ terminal, delivered.frame ≠ .terminal terminal := by
        intro terminal hterminal
        simp [DeliveredFrame.record?, hterminal] at hrecord
      rw [recordsAdmitted_cons hframe, recordable_cons hrecord, ← and_assoc,
        ← h.record_iff hactive hblank hallowed delivered.storeNow, recordFrame_eq hrecord]
      constructor
      · rintro ⟨t, ht, hadmitted⟩
        obtain ⟨active', o', hactive', hin⟩ := h.recorded hactive hblank hallowed ht
        exact ⟨⟨t, ht⟩, (ih hin hactive' hrest).1 hadmitted⟩
      · rintro ⟨⟨t, ht⟩, hrecordable⟩
        obtain ⟨active', o', hactive', hin⟩ := h.recorded hactive hblank hallowed ht
        exact ⟨t, ht, (ih hin hactive' hrest).2 hrecordable⟩
    | none =>
      obtain ⟨frame, now, storeNow⟩ := delivered
      cases frame with
      | event event => cases hrecord
      | permission request => cases hrecord
      | terminal terminal =>
        obtain ⟨hfence, hlast, hinactive⟩ := nextNotification_terminal hactive hnext
        obtain rfl := admits_of_inactive hinactive hrest
        rw [recordsAdmitted_terminal (hfence.symm.trans h.fenced) h.observing
          (h.lastEventSeq.trans hlast.symm) (h.lastEventSeq ▸ h.bounded)]
        simp [Recordable]

end Agreement

/-! ## Armed turns -/

section Armed
variable {Json : Type} [DecidableEq Json] [SerdeJson Json] [Sha256]

omit [DecidableEq Json] [Sha256] in
/-- Arming begins an observation under an active generation. -/
theorem armSessionInvocation_begins {agentId invocationId sessionRef generationId : String}
    {binding : Binding} {input : ArmInvocation} {now : Int} {bound : BoundInvocation Json}
    {s t : Store} (h : armSessionInvocation agentId invocationId binding sessionRef generationId input
      now s = .ok (bound, t)) :
    newObservation invocationId generationId binding now ∈ t.invocationObservations ∧
      ∃ g ∈ t.pluginGenerations, g.id = generationId ∧ g.stopped = none := by
  simp only [armSessionInvocation, bindingByIdentity, bind_ok, check_ok, pure_ok] at h
  obtain ⟨_, _, ⟨_, rfl⟩, _, _, ⟨_, rfl⟩, _, _, _, _, _, ⟨_, rfl⟩, _, _, ⟨_, rfl⟩, _, _, ⟨_, rfl⟩, _, _,
    _, _, mid, _, _, _, hbegin, _, _, hread, _, rfl⟩ := h
  obtain ⟨rfl, _⟩ := exactBindingRow_ok hread
  obtain ⟨-, hrows⟩ := beginInvocationObservation_ok hbegin
  simp only [beginInvocationObservation, bind_ok, check_ok, read_ok, ensure_ok] at hbegin
  obtain ⟨_, _, ⟨_, rfl⟩, _, _, ⟨_, rfl⟩, _, _, ⟨rfl, rfl⟩, _, _, ⟨⟨g, hg, hid, -, hactive⟩, rfl⟩, _⟩ :=
    hbegin
  rw [hrows]
  exact ⟨by simp, g, hg, hid, hactive⟩

/-- Arming opens the observation of its turn. -/
theorem armSessionInvocation_observing {cs : List (Command Json)} (hfresh : Fresh cs)
    {agentId invocationId sessionRef generationId : String} {binding : Binding} {input : ArmInvocation}
    {now : Int} {bound : BoundInvocation Json} {s : Store}
    (harm : armSessionInvocation agentId invocationId binding sessionRef generationId input now
      (run cs) = .ok (bound, s)) :
    Observing generationId invocationId (newObservation invocationId generationId binding now) s := by
  obtain ⟨hmem, hactive⟩ := armSessionInvocation_begins harm
  have hstep : run (cs ++ [.armSessionInvocation agentId invocationId binding sessionRef generationId
      input now]) = s := by
    rw [run_snoc]
    exact commit_of_ok (discard_of_ok harm)
  have hconsistent : EvidenceConsistent s := by
    rw [← hstep]
    refine (run_invariant ?_).evidence
    rw [Fresh, FreshAlong, List.flatMap_append, List.flatMap_singleton]
    simp only [Command.leaseTokens, List.append_nil]
    exact hfresh
  refine ⟨hconsistent, ?_, rfl, hactive⟩
  refine hconsistent.observationIds.find?_eq_some hmem (by simp [newObservation]) ?_
  intro x _ hx
  exact (of_decide_eq_true hx).1

omit [DecidableEq Json] [SerdeJson Json] [Sha256] in
/-- A started turn has seen nothing yet. -/
theorem startTurn_ok {client started : HarnessAcpClient} {request : StartTurn}
    {answer : Except PluginError StartTurnResult}
    (h : client.startTurn request answer = .ok started) :
    started.activeTurn = some ⟨request.fence, 0, []⟩ := by
  rw [HarnessAcpClient.startTurn] at h
  split at h
  · cases h
  · simp only [except_bind_ok] at h
    obtain ⟨_, _, _, _, _, _, h⟩ := h
    split at h
    · cases h
    · simp only [except_bind_ok] at h
      obtain ⟨_, _, _, _, h⟩ := h
      split at h
      · cases h
      · simp only [except_bind_ok] at h
        obtain ⟨_, _, h⟩ := h
        cases h
        rfl

/-- A turn that was armed is in step with a client that has seen nothing yet. -/
theorem inStep_of_armed {cs : List (Command Json)} (hfresh : Fresh cs)
    {agentId sessionRef generationId : String} {binding : Binding} {input : ArmInvocation} {now : Int}
    {bound : BoundInvocation Json} {s : Store} {fence : ExecutionFence}
    (harm : armSessionInvocation agentId fence.invocationId binding sessionRef generationId
      input now (run cs) = .ok (bound, s)) :
    InStep generationId fence none ⟨fence, 0, []⟩
      (newObservation fence.invocationId generationId binding now) s where
  sequence := ⟨fun seq => by simp only [List.lookup_nil]; simp; omega⟩
  fenced := rfl
  observing := armSessionInvocation_observing hfresh harm
  lastEventSeq := rfl
  lastRecord := rfl
  lastDigest := fun _ hrecord => by cases hrecord
  bounded := Nat.zero_le _

/-- From every store in which a turn was armed and for every client that started it, the frames
that the client lets through are recorded without an error exactly if they are recordable. -/
theorem run_recordsAdmitted_iff {cs : List (Command Json)} (hfresh : Fresh cs)
    {agentId sessionRef generationId : String} {binding : Binding} {input : ArmInvocation} {now : Int}
    {bound : BoundInvocation Json} {s : Store} {request : StartTurn}
    (harm : armSessionInvocation agentId request.fence.invocationId binding sessionRef generationId
      input now (run cs) = .ok (bound, s))
    {client started client' : HarnessAcpClient} {answer : Except PluginError StartTurnResult}
    (hstart : client.startTurn request answer = .ok started)
    {frames : List DeliveredFrame} (hadmits : started.admits frames = .ok client')
    (sink : Bool) (policy : PermissionPolicy) :
    RecordsAdmitted sink policy generationId request.fence s frames ↔
      Recordable policy none frames := by
  exact (inStep_of_armed hfresh harm).recordsAdmitted_iff sink (startTurn_ok hstart) hadmits

end Armed

/-! ## The sample turn -/

/-- The fence of the sample turn. -/
def sampleFence : ExecutionFence := ⟨"B", 1, 1, "i", "f"⟩

/-- The request that starts the sample turn. -/
def sampleStart : StartTurn where
  fence := sampleFence
  sessionRef := "ref"
  source := ⟨"b", "m", "c", "a", some "corr", none⟩
  prompt := [.text "work"]
  policy := ⟨1000, 1000, 1000, 1024, "controller", ⟨10, "observe_then_cancel"⟩, none⟩

/-- What the driver answers to it. -/
def sampleStarted : StartTurnResult :=
  ⟨true, ⟨"hard", "hard", "hard", "hard", "observe_then_cancel", "unavailable"⟩⟩

/-- An event of the sample turn. -/
def sampleEvent (eventSeq : Nat) : DeliveredFrame :=
  ⟨.event ⟨sampleFence, eventSeq, 8, "plan_update", .null⟩, 9, 9⟩

/-- A permission request of the sample turn, at a clock reading of the controller. -/
def samplePermission (eventSeq : Nat) (now : Int) : DeliveredFrame :=
  ⟨.permission ⟨sampleFence, "p", eventSeq, .null, [], 100⟩, now, now⟩

/-- The end of the sample turn. -/
def sampleEnd (lastEventSeq : Nat) : DeliveredFrame :=
  ⟨.terminal ⟨sampleFence, lastEventSeq, "end_turn", none, .outcomeKnown, true, .confirmed, [], .null,
    .null⟩, 10, 10⟩

/-- The latest event is sent twice, then a permission request, and the turn ends. -/
def repeatedFrames : List DeliveredFrame :=
  [sampleEvent 1, sampleEvent 1, samplePermission 2 9, sampleEnd 2]

/-- The client with the sample turn. -/
def sampleClient : HarnessAcpClient := ⟨some ⟨sampleFence, 0, []⟩⟩

set_option maxRecDepth 100000 in
/-- The driver starts the sample turn. -/
theorem startTurn_sampleStart :
    (HarnessAcpClient.mk none).startTurn sampleStart (.ok sampleStarted) = .ok sampleClient := by
  decide +kernel

set_option maxRecDepth 100000 in
/-- The sample turn is armed by the last command of its run. -/
theorem armSessionInvocation_sampleArmed :
    ∃ bound : BoundInvocation Bool, armSessionInvocation "b" sampleStart.fence.invocationId
      ⟨"B", 1, 1⟩ "ref" "g" ⟨"T", "f"⟩ 7 (run sampleReserved) = .ok (bound, run sampleArmed) := by
  have harmed : ((armSessionInvocation "b" "i" ⟨"B", 1, 1⟩ "ref" "g" ⟨"T", "f"⟩ 7 :
      Tx (BoundInvocation Bool)) (run sampleReserved)).toOption.isSome = true := by
    decide +kernel
  cases harm : (armSessionInvocation "b" "i" ⟨"B", 1, 1⟩ "ref" "g" ⟨"T", "f"⟩ 7 :
      Tx (BoundInvocation Bool)) (run sampleReserved) with
  | error error =>
    rw [harm] at harmed
    cases harmed
  | ok result =>
    have hrun : run sampleArmed = result.2 := by
      rw [sampleArmed, run_snoc]
      exact commit_of_ok (discard_of_ok harm)
    exact ⟨result.1, hrun ▸ harm⟩

/-- Every frame of the sample is newer than the one before it, or repeats it. -/
theorem recordable_repeatedFrames : Recordable .deny none repeatedFrames := by
  have hevent : (eventRecord ⟨sampleFence, 1, 8, "plan_update", .null⟩).Fits :=
    ⟨by decide +kernel, by decide +kernel, by decide +kernel⟩
  refine ⟨hevent, trivial, hevent, .inr ⟨rfl, rfl⟩, ⟨?_, ?_, ?_⟩, .inl (by decide), ?_, trivial⟩
  all_goals decide +kernel

set_option maxRecDepth 100000 in
/-- The sample client lets a repeat of the latest event through, and the store records it all. -/
theorem run_recordsAdmitted_repeatedFrames :
    (∃ client', sampleClient.admits repeatedFrames = .ok client') ∧
      RecordsAdmitted true .deny "g" sampleStart.fence (run sampleArmed) repeatedFrames := by
  obtain ⟨bound, harm⟩ := armSessionInvocation_sampleArmed
  have hfresh : Fresh sampleReserved := by decide
  have hadmitted : (sampleClient.admits repeatedFrames).toOption.isSome = true := by decide +kernel
  cases hadmits : sampleClient.admits repeatedFrames with
  | error error =>
    rw [hadmits] at hadmitted
    cases hadmitted
  | ok client' =>
    exact ⟨⟨client', rfl⟩, (run_recordsAdmitted_iff hfresh harm startTurn_sampleStart hadmits
      true .deny).2 recordable_repeatedFrames⟩

/-- An event is sent again after the next one. -/
def staleFrames : List DeliveredFrame := [sampleEvent 1, sampleEvent 2, sampleEvent 1]

/-- A permission request is sent again, and handled a moment later. -/
def restampedFrames : List DeliveredFrame := [samplePermission 1 8, samplePermission 1 9]

set_option maxRecDepth 100000 in
/-- The client of the armed turn lets both repeats through, and the store refuses them. -/
theorem repeats_refused_staleFrames :
    (HarnessAcpClient.mk none).startTurn sampleStart (.ok sampleStarted) = .ok sampleClient ∧
      (sampleClient.admits staleFrames).toOption.isSome = true ∧
      ¬ RecordsAdmitted true .deny "g" sampleStart.fence (run sampleArmed) staleFrames ∧
      (sampleClient.admits restampedFrames).toOption.isSome = true ∧
      ¬ RecordsAdmitted true .deny "g" sampleStart.fence (run sampleArmed) restampedFrames := by
  have hstale : (drainTurn true .deny sampleFence
      (durableArrivals .deny "g" "i" (run sampleArmed) staleFrames)).result =
      .error (.evidence (.conflict "event sequence is not contiguous: expected 3, received 1")) := by
    decide +kernel
  have hrestamped : (drainTurn true .deny sampleFence
      (durableArrivals .deny "g" "i" (run sampleArmed) restampedFrames)).result =
      .error (.evidence (.conflict "event sequence was reused with different evidence")) := by
    decide +kernel
  refine ⟨startTurn_sampleStart, by decide +kernel, fun h => h.recorded _ hstale,
    by decide +kernel, fun h => h.recorded _ hrestamped⟩

end Fleetd
