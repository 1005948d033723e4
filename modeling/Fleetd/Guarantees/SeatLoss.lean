import Fleetd.Guarantees.FrameSize
import Fleetd.Guarantees.Publication
import Fleetd.Guarantees.SeatSurvival
import Fleetd.Guarantees.StartFrame

/-!
# A message that takes its seat down

A run in which an agent sends itself a message: the kernel stores it and delivers it, its seat
reserves it and opens a session for it, and the worker ends for good. Together with the explanation
of such ends this settles which messages can take a seat down.
-/

namespace Fleetd.Worker

open Serde (Value)
open Effects Relational

section

open Transaction

variable (worker : ContinuousHarnessWorker) (input : CreateMessage Value)

/-- An agent that is registered, alone in a channel, and sends a message. -/
def selfSetup : List (Command Value) := [
  .createAgent worker.config.agentId "seat" 0,
  .createChannel "c" "room" [worker.config.agentId] [] 0,
  .appendMessage "c" input "m" 0]

/-- The database in which the agent is alone in its channel. -/
def aloneStore : Store := { Store.empty with
  agents := [⟨worker.config.agentId, "seat", 0⟩]
  channels := [⟨"c", "room", .shared, none, 0, none⟩]
  channelMembers := [⟨"c", worker.config.agentId, 0, .inbox, 0⟩] }

/-- The database in which the message waits. -/
def selfSetupStore : Store := { aloneStore worker with
  messages := [input.row "c" 1 "m" 0]
  messageSequence := 1
  agentDeliveries := [pendingDelivery 1 worker.config.agentId 0] }

/-- The invocation that the seat reserves. -/
def selfInvocation : Invocation Value where
  id := "i"
  agentId := worker.config.agentId
  message := input.message "c" 1 "m" 0
  deliveryAttempt := 1
  leaseToken := "T"
  leaseExpiresAtMs := worker.leaseDurationMs
  fenceToken := "f"
  state := .reserved
  reservedAtMs := 0
  resultMessageId := none

/-- The database in which the message is reserved. -/
def selfReservedStore : Store := { selfSetupStore worker input with
  agentDeliveries :=
    [leasedColumns "T" worker.leaseDurationMs (pendingDelivery 1 worker.config.agentId 0)]
  invocations := [⟨"i", 1, worker.config.agentId, 1, "T", worker.leaseDurationMs, "f", .reserved, 0⟩] }

variable {worker input}

/-- The agent is registered. -/
theorem createAgent_empty :
    (Command.createAgent worker.config.agentId "seat" 0 : Command Value).step Store.empty =
      { Store.empty with agents := [⟨worker.config.agentId, "seat", 0⟩] } := by
  have hname : validateName "agent" "seat" = .ok () := by decide
  refine commit_of_ok (a := ()) ?_
  simp only [Command.exec, discard, Fleetd.createAgent, hname, bind_run, check_ok_run, read_run,
    ensure_run, write_run, pure_run, Store.empty, List.not_mem_nil, false_imp_iff, implies_true,
    if_true, List.nil_append]

/-- The channel is created. -/
theorem createChannel_alone :
    (Command.createChannel "c" "room" [worker.config.agentId] [] 0 : Command Value).step
        { Store.empty with agents := [⟨worker.config.agentId, "seat", 0⟩] } = aloneStore worker := by
  have hname : validateName "channel" "room" = .ok () := by decide
  refine commit_of_ok (a := ()) ?_
  simp [Command.exec, discard, Fleetd.createChannel, createChannelWithMembers, validateMembers,
    duplicateMember, hname, bind_run, ensureAgents, ensureExists, memberRows, Store.empty, aloneStore,
    -bind_pure_comp]

/-- The message is stored and delivered. -/
theorem appendMessage_self (hkind : isBlank input.kind = false)
    (hkey : validateIdempotencyKey input.idempotencyKey = .ok ())
    (hsender : input.senderId = worker.config.agentId)
    (hrecipient : input.recipientId = some worker.config.agentId) :
    run (selfSetup worker input) = selfSetupStore worker input := by
  have hsteps : run (selfSetup worker input) =
      (Command.appendMessage "c" input "m" 0).step (aloneStore worker) := by
    rw [← createChannel_alone, ← createAgent_empty]
    rfl
  have hnone : input.idempotencyKey.bind (messageByKey input.senderId · (aloneStore worker).messages) =
      none := by
    cases input.idempotencyKey <;> rfl
  have hinsert : insertMessage "c" input "m" 0 (aloneStore worker) =
      .ok (input.message "c" 1 "m" 0, postedStore (aloneStore worker) (input.row "c" 1 "m" 0)) :=
    insertMessage_run rfl rfl (by simp [aloneStore, hsender, ChannelMember.key])
      (by simp [aloneStore, hrecipient, ChannelMember.key]) (by simp [aloneStore, Store.empty])
      (by simp [aloneStore, Store.empty])
  rw [hsteps]
  refine commit_of_ok (a := ()) (discard_of_ok (a := ⟨input.message "c" 1 "m" 0, true⟩) ?_)
  simp only [appendMessageIdempotent, appendMessageInTransaction, bind_run, ensure_run, hkind, if_true,
    hkey, check_ok_run, read_run, hnone, pure_run, hinsert]
  simp [postedStore, selfSetupStore, aloneStore, MessageRow.snapshot, snapshotMembers,
    CreateMessage.row, hrecipient, Store.empty]

/-! ## The bounds of a seat -/

/-- What the configuration of a worker was checked for, as far as a reservation needs it. -/
structure SeatBounds (worker : ContinuousHarnessWorker) : Prop where
  agent : isBlank worker.config.agentId = false ∧ byteLen worker.config.agentId ≤ 256
  lease : 0 < worker.leaseDurationMs ∧ worker.leaseDurationMs ≤ maxLeaseDurationMs
  retry : worker.preArmRetryDelayMs ≤ maxRetryDelayMs

theorem seatBounds (worker : ContinuousHarnessWorker) : SeatBounds worker := by
  have hvalid := worker.valid
  simp only [validateConfig, except_bind_ok, require_ok, requireMs_ok] at hvalid
  obtain ⟨_, hagent, _, -, _, -, _, -, _, -, _, -, _, -, _, -, _, -, _, -, _, -, _, -, _, -, leaseMs, hleaseMs,
    retryMs, hretryMs, _, hlease, _, hretry, -⟩ := hvalid
  have hleaseDuration : worker.leaseDurationMs = leaseMs := by
    rw [ContinuousHarnessWorker.leaseDurationMs, hleaseMs]
    rfl
  have hretryDelay : worker.preArmRetryDelayMs = retryMs := by
    rw [ContinuousHarnessWorker.preArmRetryDelayMs, hretryMs]
    rfl
  exact ⟨hagent, hleaseDuration ▸ hlease, hretryDelay ▸ hretry⟩

/-! ## The round -/

/-- The message is reserved. -/
theorem reserve_self (hkind : input.kind ∈ worker.adapter.inboundAcceptance.messageKinds)
    (hpayload : SerdeJson.fromStr (SerdeJson.toString input.payload) = some input.payload) :
    reserveInvocationsByKind worker.config.agentId ⟨1, worker.leaseDurationMs⟩
        worker.adapter.inboundAcceptance.messageKinds 0 "T" (fun _ => ("i", "f"))
        (selfSetupStore worker input) =
      .ok ([selfInvocation worker input], selfReservedStore worker input) := by
  obtain ⟨hpos, hmax⟩ := (seatBounds worker).lease
  have hexpiry : leaseExpiry 0 ⟨1, worker.leaseDurationMs⟩ = .ok (worker.leaseDurationMs : Int) := by
    have hfits : worker.leaseDurationMs ≤ i64Max := hmax.trans (by decide)
    have hsum : checkedAdd 0 worker.leaseDurationMs "lease expiry overflowed" =
        .ok (worker.leaseDurationMs : Int) := by
      rw [checkedAdd, Int.zero_add, if_pos]
      omega
    rw [leaseExpiry, tryFromU64, if_pos hfits]
    exact hsum
  have hclaim : validateClaim ⟨1, worker.leaseDurationMs⟩ = .ok () := by
    rw [validateClaim, if_neg (by simp [maxClaimLimit]), if_neg]
    simp only [not_or]
    exact ⟨Nat.pos_iff_ne_zero.mp hpos, Nat.not_lt.mpr hmax⟩
  have hnonempty := worker.adapter.inboundAcceptance.nonempty
  simp [reserveInvocationsByKind, reserveInvocationsFiltered, bind_run, hclaim, hexpiry, hnonempty,
    selfSetupStore, aloneStore, ensureAgent, ensureExists, recoverExpiredInvocationsTransaction,
    terminalizeExpiredReservations, expiredArmedInvocations, parkAll, leaseClaimable, leasedRows,
    claimSelection, claimable, pendingDelivery, DeliveryState.isClaimable, hkind, CreateMessage.row,
    updateWhere, leasedColumns, DeliveryState.leaseToken, reserveRows, reserveRow, Store.empty,
    invocationFromRow, messageFromRow, hpayload, selfReservedStore, selfInvocation,
    CreateMessage.message, -bind_pure_comp]
  rfl

/-- A channel that is there passes the check. -/
theorem ensureChannel_run {channelId : String} {s : Store}
    (h : ∃ channel ∈ s.channels, channel.id = channelId) : ensureChannel channelId s = .ok ((), s) := by
  simp only [ensureChannel, bind_run, read_run]
  rw [ensure_run, if_pos h]

theorem channel_self : ∃ channel ∈ (selfReservedStore worker input).channels, channel.id = "c" :=
  ⟨_, List.mem_cons_self, rfl⟩

/-- The context of the message is read. -/
theorem listChannelMembers_self : ∃ views, listChannelMembers "c" (selfReservedStore worker input) =
    .ok (views, selfReservedStore worker input) := by
  simp only [listChannelMembers, bind_run, ensureChannel_run channel_self]
  exact ⟨_, rfl⟩

theorem listRecentMessages_self : listRecentMessagesBefore "c" 1 (maxChannelContextMessages + 1)
    (selfReservedStore worker input) =
      .ok (([] : List (Message Value)), selfReservedStore worker input) := by
  simp only [listRecentMessagesBefore, bind_run]
  rfl

/-- The generation that serves the seat. -/
def selfGeneration : GenerationIdentity where
  ownerInstanceId := "g"
  profileDigest := "p"
  compatibilityDigest := "d"
  ownerGiven := by decide

/-- The session that is acquired for the message. -/
def selfBinding (worker : ContinuousHarnessWorker) : SessionBinding where
  bindingId := "B"
  bindingGeneration := 1
  agentId := worker.config.agentId
  lanePolicy := "per-channel"
  laneKey := "c"
  ownerEpoch := 1
  ownerInstanceId := "g"
  profileDigest := "p"
  compatibilityDigest := "d"
  workingDirectory := worker.config.workingDirectory.path
  additionalDirectories := worker.config.additionalDirectories.map (·.path)
  state := .opening
  lastQuiescentInvocationId := none
  sessionPersistence := none
  createdAtMs := 0
  updatedAtMs := 0

/-- The database in which the session is acquired, and then open. -/
def selfAcquiredStore (worker : ContinuousHarnessWorker) (input : CreateMessage Value)
    (state : SessionBindingState) : Store :=
  { selfReservedStore worker input with sessionBindings := [{ selfBinding worker with state := state }] }

/-- The session of the channel is acquired. -/
theorem acquire_self (hopens : worker.OpensLanes) :
    acquireSessionBinding worker.config.agentId (laneAcquisition worker selfGeneration ⟨"per-channel", "c"⟩)
        0 "B" (selfReservedStore worker input) =
      .ok (⟨selfBinding worker, .create⟩, selfAcquiredStore worker input .opening) := by
  obtain ⟨hworking, hcount, hadditional⟩ := hopens
  obtain ⟨hgiven, hbounded⟩ := (seatBounds worker).agent
  have hagent : validateBounded "agent ID" worker.config.agentId maxIdBytes = .ok () := by
    rw [validateBounded, hgiven]
    exact if_neg (Nat.not_lt.mpr hbounded)
  have hvalid : validateAcquisition worker.config.agentId
      (laneAcquisition worker selfGeneration ⟨"per-channel", "c"⟩) = .ok () := by
    obtain ⟨paths, hpaths⟩ := except_mapM_ok (f := validateAbsolutePath "additional directory")
      (l := worker.config.additionalDirectories.map (·.path)) (by
        intro path hpath
        obtain ⟨directory, hdirectory, rfl⟩ := List.mem_map.mp hpath
        exact ⟨(), hadditional directory hdirectory⟩)
    have hpolicy : validateBounded "lane policy" "per-channel" maxIdBytes = .ok () := by decide
    have hkey : validateBounded "lane key" "c" maxLaneKeyBytes = .ok () := by decide
    have howner : validateBounded "owner instance ID" "g" maxIdBytes = .ok () := by decide
    have hprofile : validateBounded "profile digest" "p" maxIdBytes = .ok () := by decide
    have hcompatibility : validateBounded "compatibility digest" "d" maxIdBytes = .ok () := by decide
    simp only [validateAcquisition, laneAcquisition, selfGeneration, hagent, hpolicy, hkey, howner,
      hprofile, hcompatibility, hworking, List.length_map, gt_iff_lt, if_neg (Nat.not_lt.mpr hcount),
      hpaths]
    rfl
  simp only [acquireSessionBinding, bind_run, hvalid, check_ok_run]
  simp [bind_run, ensureAgent, ensureExists, currentBindingRow,
    insertAfterLatestRetired, latestBindingRow, insertBinding, asI64, i64Max, selfReservedStore,
    selfSetupStore, aloneStore, Store.empty, laneAcquisition, selfGeneration, selfBinding,
    selfAcquiredStore, bindingByIdentity, exactBindingRow, -bind_pure_comp]

/-- The native session is recorded. -/
theorem recordOpened_self :
    recordSessionOpened worker.config.agentId ⟨"B", 1, 1⟩ "s" 0 (selfAcquiredStore worker input .opening) =
      .ok ({ selfBinding worker with state := .ready "s" 0 },
        selfAcquiredStore worker input (.ready "s" 0)) := by
  have hbinding : validateBinding ⟨"B", 1, 1⟩ = .ok () := by decide
  have hreference : validateBounded "session reference" "s" maxSessionRefBytes = .ok () := by decide
  have hfence : OwnerFence.new worker.config.agentId ⟨"B", 1, 1⟩ =
      .ok ⟨"B", 1, worker.config.agentId, 1⟩ := rfl
  have hrow : ∀ state, exactBindingRow worker.config.agentId ⟨"B", 1, 1⟩
      (selfAcquiredStore worker input state) =
        .ok ({ selfBinding worker with state := state }, selfAcquiredStore worker input state) := by
    simp [exactBindingRow, bind_run, asI64, i64Max, selfAcquiredStore, selfBinding]
  have howner : validateOwner { selfBinding worker with state := .opening } ⟨"B", 1, 1⟩ = .ok () := rfl
  have hupdate : OwnerFence.update ⟨"B", 1, worker.config.agentId, 1⟩ (·.isOpening)
      (openedColumns "s" 0) "session binding changed while opening"
      (selfAcquiredStore worker input .opening) =
        .ok ((), selfAcquiredStore worker input (.ready "s" 0)) := by
    simp [OwnerFence.update, bind_run, OwnerFence.selects, selfAcquiredStore, selfBinding, updateWhere,
      SessionBindingState.isOpening, openedColumns]
  simp only [recordSessionOpened, bind_run, hbinding, hreference, hfence, check_ok_run, hrow,
    howner, hupdate, bindingByIdentity]

/-- The end of the channel is read. -/
theorem latestSeq_self {state : SessionBindingState} : ∃ seq, latestChannelMessageSeq "c"
    (selfAcquiredStore worker input state) = .ok (seq, selfAcquiredStore worker input state) := by
  have hchannel : ∃ channel ∈ (selfAcquiredStore worker input state).channels, channel.id = "c" :=
    ⟨_, List.mem_cons_self, rfl⟩
  simp only [latestChannelMessageSeq, bind_run, ensureChannel_run hchannel]
  exact ⟨_, rfl⟩

/-- What a worker releases a delivery with is within its bounds, whatever the reason says. -/
theorem validateRetry_releaseRequest {invocation : Invocation Value} {context : String} {delayMs : Nat}
    (htoken : isBlank invocation.leaseToken = false) (hdelay : delayMs ≤ Fleetd.maxRetryDelayMs) :
    validateRetry (releaseRequest invocation context delayMs) = .ok () := by
  have herror : ¬ (some (boundedReason context)).any (byteLen · > maxErrorLength) = true := by
    rw [Option.any_some, decide_eq_true_eq]
    exact Nat.not_lt.mpr (AcpHost.byteLen_truncateUtf8 4096 context)
  have hchecked : validateToken invocation.leaseToken = .ok () := by
    rw [validateToken, htoken]
    rfl
  simp only [validateRetry, releaseRequest, hchecked, if_neg (Nat.not_lt.mpr hdelay), if_neg herror,
    gt_iff_lt]
  rfl

/-- The delivery is released. -/
theorem retry_self {context : String} {state : SessionBindingState} : ∃ released,
    retryDelivery worker.config.agentId "m"
      (releaseRequest (selfInvocation worker input) context worker.preArmRetryDelayMs) 0
      (selfAcquiredStore worker input state) = .ok ((), released) := by
  have hretry := (seatBounds worker).retry
  have hpos := (seatBounds worker).lease.1
  have hvalid := @validateRetry_releaseRequest (selfInvocation worker input) context
    worker.preArmRetryDelayMs (show isBlank "T" = false by decide) hretry
  have hdelay : tryFromU64 worker.preArmRetryDelayMs "retry delay is too large" =
      .ok (worker.preArmRetryDelayMs : Int) :=
    if_pos (hretry.trans (by decide))
  have havailable : checkedAdd 0 worker.preArmRetryDelayMs "retry time overflowed" =
      .ok (worker.preArmRetryDelayMs : Int) := by
    have hfits : worker.preArmRetryDelayMs ≤ i64Max := hretry.trans (by decide)
    rw [checkedAdd, Int.zero_add, if_pos]
    omega
  have hrequest : (releaseRequest (selfInvocation worker input) context
      worker.preArmRetryDelayMs).retryAfterMs = worker.preArmRetryDelayMs := rfl
  simp only [retryDelivery, bind_run, hvalid, hrequest, hdelay, havailable, check_ok_run, read_run]
  simp [ensureRetryIsSafe, bind_run, openInvocation, selfAcquiredStore, selfReservedStore,
    selfSetupStore, aloneStore, Store.empty, CreateMessage.row, seqOfMessageId, releaseRequest,
    selfInvocation, markRetry, LeasedRow.update, LeasedRow.selects, DeliveryKey.predicate,
    leasedColumns, pendingDelivery, LeaseWindow.predicate, hpos, terminalizeInvocation,
    ensureBoundTurnAllowsDeliverySettlement, boundTurnState, turnOf, InvocationState.isTerminal]

end

/-! ## The round -/

section

open Effects.Routine

variable (worker : ContinuousHarnessWorker) (input : CreateMessage Value)

/-- A harness that answers nothing; no turn is driven. -/
def silentTurn : TurnAnswers where
  describe := .ok ()
  arm := .error (.database "")
  activate := fun _ => .ok ()
  start := .ok ()
  arrivals := []
  interruption := none
  cancel := .ok ()
  cancelArrivals := []
  markUncertain := .ok ()
  block := .error (.database "")
  complete := .error (.database "")

/-- The message is sent before the first call of the worker, and nothing happens after that. -/
def selfSurroundings : Surroundings where
  interlude := fun call => ⟨if call = 0 then selfSetup worker input else [], 0, none⟩
  cancelled := fun _ => false
  leaseToken := "T"
  mint := fun _ => ("i", "f")
  freshBindingId := "B"
  opened := .ok "s"
  turn := silentTurn
  closed := .ok true

/-- A place in the middle of the round. -/
structure Midway (sessions : List (LaneIdentity × OpenedSession)) (store : Store)
    (committed : List (Command Value)) (place : Workplace) : Prop where
  sessions : place.sessions = sessions
  store : place.store = store
  committed : place.committed = committed
  calls : place.calls ≠ 0
  held : place.held = some (selfInvocation worker input)

variable {worker input}
variable {ls : List (LaneIdentity × OpenedSession)} {store t : Store} {cs : List (Command Value)} {α : Type} {a : α}
  {E : GenerationExit → Workplace → Prop}

theorem view_midway {query : Tx α} (h : query store = .ok (a, t)) :
    Meets (Midway worker input ls store cs) (view (selfSurroundings worker input) query)
      (fun result place => result = .ok a ∧ Midway worker input ls store cs place) E := by
  intro place hplace
  have hinterlude : (selfSurroundings worker input).interlude place.calls = ⟨[], 0, none⟩ := by
    simp only [selfSurroundings, if_neg hplace.calls]
  simp only [view, act_run, hinterlude, Workplace.after, runFrom, List.foldl_nil, List.append_nil,
    hplace.store, h]
  exact ⟨rfl, hplace.sessions, rfl, hplace.committed, Nat.succ_ne_zero _, hplace.held⟩

theorem call_midway {storeCall : Int → StoreCall α} (h : (storeCall 0).run store = .ok (a, t)) :
    Meets (Midway worker input ls store cs) (call (selfSurroundings worker input) storeCall)
      (fun result place => result = .ok a ∧
        Midway worker input ls t (cs ++ [(storeCall 0).command]) place) E := by
  intro place hplace
  have hinterlude : (selfSurroundings worker input).interlude place.calls = ⟨[], 0, none⟩ := by
    simp only [selfSurroundings, if_neg hplace.calls]
  have hstep : (storeCall 0).command.step store = t := by
    rw [Command.step, (storeCall 0).same]
    exact Transaction.commit_of_ok (discard_of_ok h)
  simp only [call, act_run, hinterlude, Workplace.after, runFrom, List.foldl_nil, List.append_nil,
    hplace.store, h, hstep]
  exact ⟨rfl, hplace.sessions, rfl, congrArg (· ++ _) hplace.committed, Nat.succ_ne_zero _,
    hplace.held⟩

theorem tally_midway {f : WorkerReport → WorkerReport} : Meets (Midway worker input ls store cs) (tally f)
    (fun _ => Midway worker input ls store cs) E :=
  .act fun _ hplace => ⟨hplace.sessions, hplace.store, hplace.committed, hplace.calls, hplace.held⟩

/-- The context is read. -/
theorem readChannelContext_midway : ∃ context, ∀ ls cs E,
    Meets (Midway worker input ls (selfReservedStore worker input) cs)
      (readChannelContext (selfSurroundings worker input) (selfInvocation worker input))
      (fun result place => result = .ok context ∧
        Midway worker input ls (selfReservedStore worker input) cs place) E := by
  obtain ⟨views, hviews⟩ := @listChannelMembers_self worker input
  exact ⟨_, fun ls cs E => Meets.bind_eq (view_midway hviews)
    (Meets.bind_eq (view_midway listRecentMessages_self) (.pure fun place hplace => ⟨rfl, hplace⟩))⟩

/-- The turn is prepared. -/
theorem prepareReserved_midway : ∃ context, ∀ ls cs E,
    Meets (Midway worker input ls (selfReservedStore worker input) cs)
      (prepareReserved worker (selfSurroundings worker input) (selfInvocation worker input))
      (fun prepared place =>
        prepared = prepareEnvelope worker.adapter (selfInvocation worker input) context ∧
        Midway worker input ls (selfReservedStore worker input) cs place) E := by
  obtain ⟨context, hcontext⟩ := @readChannelContext_midway worker input
  refine ⟨context, fun ls cs E => Meets.bind_eq (hcontext ls cs E) ?_⟩
  dsimp only
  rw [validatePreparedTurn_prepareEnvelope _ (show isBlank "c" = false by decide)]
  exact .pure fun place hplace => ⟨rfl, hplace⟩

/-- The session is opened. -/
theorem openLane_midway (hopens : worker.OpensLanes) :
    Meets (Midway worker input ls (selfReservedStore worker input) cs)
      (openLane worker selfGeneration (selfSurroundings worker input) (selfInvocation worker input)
        ⟨"per-channel", "c"⟩)
      (fun opened place => opened = .ok ⟨⟨"B", 1, 1⟩, "s"⟩ ∧
        Midway worker input ls (selfAcquiredStore worker input (.ready "s" 0)) (cs ++ [
          (acquireCall (selfSurroundings worker input) worker.config.agentId
            (laneAcquisition worker selfGeneration ⟨"per-channel", "c"⟩) 0).command] ++ [
          (recordOpenedCall worker.config.agentId ⟨"B", 1, 1⟩ "s" 0).command]) place) E := by
  refine Meets.bind_eq (call_midway (acquire_self hopens)) ?_
  exact Meets.bind_eq (call_midway recordOpened_self) (.pure fun place hplace => ⟨rfl, hplace⟩)

/-- What is committed when the turn is refused. -/
def selfRefused (worker : ContinuousHarnessWorker) (input : CreateMessage Value) :
    List (Command Value) := selfSetup worker input ++
  [(reserveCall worker (selfSurroundings worker input) 0).command] ++
  [(acquireCall (selfSurroundings worker input) worker.config.agentId
    (laneAcquisition worker selfGeneration ⟨"per-channel", "c"⟩) 0).command] ++
  [(recordOpenedCall worker.config.agentId ⟨"B", 1, 1⟩ "s" 0).command]

/-- The session of the channel is resolved. -/
theorem resolveLane_midway (hopens : worker.OpensLanes) :
    Meets (Midway worker input [] (selfReservedStore worker input) (selfSetup worker input ++
        [(reserveCall worker (selfSurroundings worker input) 0).command]))
      (resolveLane worker selfGeneration (selfSurroundings worker input) (selfInvocation worker input)
        ⟨"per-channel", "c"⟩)
      (fun opened place => opened = some ⟨⟨"B", 1, 1⟩, "s"⟩ ∧
        Midway worker input [(⟨"per-channel", "c"⟩, ⟨⟨"B", 1, 1⟩, "s"⟩)]
          (selfAcquiredStore worker input (.ready "s" 0)) (selfRefused worker input) place) E := by
  refine Meets.bind_eq (a := []) (.ask fun place hplace => ⟨hplace.sessions, hplace⟩) ?_
  refine Meets.bind_eq (openLane_midway hopens) (Meets.bind (Q := fun _ => Midway worker input
    [(⟨"per-channel", "c"⟩, ⟨⟨"B", 1, 1⟩, "s"⟩)] (selfAcquiredStore worker input (.ready "s" 0))
    (selfRefused worker input)) (.act fun place hplace => ?_) fun _ => .pure fun place hplace => ⟨rfl, hplace⟩)
  refine ⟨?_, hplace.store, hplace.committed, hplace.calls, hplace.held⟩
  simp only [hplace.sessions]

/-- What the adapter is blamed for. -/
def selfRefusal : String := "managed invocation cannot answer its own source message"

/-- The request that releases the refused delivery. -/
def selfRelease (worker : ContinuousHarnessWorker) (input : CreateMessage Value) : Command Value :=
  (retryCall (selfInvocation worker input) (releaseRequest (selfInvocation worker input)
    ("managed turn input was invalid: " ++ selfRefusal) worker.preArmRetryDelayMs) 0).command

/-- The controller refuses the turn, and the delivery is released. -/
theorem executeTurn_midway {lane : LaneIdentity} {opened : OpenedSession} {context : ChannelTurnContext}
    (hsender : input.senderId = worker.config.agentId) :
    Meets (Midway worker input ls (selfAcquiredStore worker input (.ready "s" 0)) cs)
      (executeTurn worker selfGeneration (selfSurroundings worker input) (selfInvocation worker input)
        (prepareEnvelope worker.adapter (selfInvocation worker input) context) lane opened)
      (fun control place => control = .exit (.fatal (.adapter selfRefusal)) ∧
        place.held = some (selfInvocation worker input) ∧
        place.committed = cs ++ [selfRelease worker input]) E := by
  obtain ⟨seq, hseq⟩ := @latestSeq_self worker input (.ready "s" 0)
  obtain ⟨released, hreleased⟩ := @retry_self worker input
    ("managed turn input was invalid: " ++ selfRefusal) (.ready "s" 0)
  have hrefused : validateTurn (managedTurn worker.config "g" opened (selfInvocation worker input)
      (prepareEnvelope worker.adapter (selfInvocation worker input) context)) =
      .error (.invalid selfRefusal) := by
    have hgiven : ¬ isBlank (managedTurn worker.config "g" opened (selfInvocation worker input)
        (prepareEnvelope worker.adapter (selfInvocation worker input) context)).generationId = true :=
      show ¬ isBlank "g" = true by decide
    rw [validateTurn, if_neg (by simp [managedTurn, selfInvocation]), if_neg hgiven, if_pos]
    · rfl
    · exact hsender.symm
  have hrun : (runTurn worker.config.trajectorySink (managedTurn worker.config
      selfGeneration.ownerInstanceId opened (selfInvocation worker input)
      (prepareEnvelope worker.adapter (selfInvocation worker input) context))
      (selfSurroundings worker input).turn).result = .error (.invalid selfRefusal) := by
    rw [runTurn, show selfGeneration.ownerInstanceId = "g" from rfl, hrefused]
    rfl
  refine Meets.bind_eq (view_midway hseq) ?_
  dsimp only
  rw [hrun]
  refine Meets.bind_eq (a := .fatal (.adapter selfRefusal)) (S := fun place =>
    place.held = some (selfInvocation worker input) ∧ place.committed = cs ++ [selfRelease worker input])
    ?_ (.pure fun place hplace => ⟨rfl, hplace⟩)
  refine Meets.bind (Q := fun _ => Midway worker input ls released (cs ++ [selfRelease worker input]))
    (Meets.bind_eq (a := .ok ()) (Meets.bind_eq (call_midway hreleased)
      (.pure fun place hplace => ⟨rfl, hplace⟩)) tally_midway) fun _ => ?_
  exact .pure fun place hplace => ⟨rfl, hplace.held, hplace.committed⟩

/-- The round in which a seat serves a message of its own agent to itself ends the worker. -/
theorem driveGeneration_self (hopens : worker.OpensLanes)
    (haccepted : isBlank input.kind = false ∧ validateIdempotencyKey input.idempotencyKey = .ok ())
    (hkind : input.kind ∈ worker.adapter.inboundAcceptance.messageKinds)
    (hpayload : SerdeJson.fromStr (SerdeJson.toString input.payload) = some input.payload)
    (hsender : input.senderId = worker.config.agentId)
    (hrecipient : input.recipientId = some worker.config.agentId) :
    Meets (fun place => place = ⟨Store.empty, [], 0, [], {}, none⟩)
      (driveGeneration worker selfGeneration (selfSurroundings worker input) none) (fun _ _ => False)
      (fun exit place => exit = .fatal (.adapter selfRefusal) ∧
        place.held = some (selfInvocation worker input) ∧
        place.committed = selfRefused worker input ++ [selfRelease worker input]) := by
  have hreserve := reserve_self hkind hpayload
  have hsetup := appendMessage_self haccepted.1 haccepted.2 hsender hrecipient
  have hstep : (reserveCall worker (selfSurroundings worker input) 0).command.step
      (selfSetupStore worker input) = selfReservedStore worker input := by
    rw [Command.step, (reserveCall worker (selfSurroundings worker input) 0).same]
    exact Transaction.commit_of_ok (discard_of_ok hreserve)
  obtain ⟨context, hprepared⟩ := @prepareReserved_midway worker input
  refine Meets.bind (Q := fun _ place => place = ⟨Store.empty, [], 0, [], {}, none⟩)
    (.ask fun _ hplace => hplace) fun report => ?_
  rw [if_neg (by simp [selfSurroundings, limitReached])]
  refine Meets.bind_eq (a := .ok [selfInvocation worker input]) (S := fun place => place = ⟨
    selfReservedStore worker input, selfSetup worker input ++
      [(reserveCall worker (selfSurroundings worker input) 0).command], 1, [], {}, none⟩) ?_ ?_
  · refine .act fun place hplace => ?_
    subst hplace
    have hrun : runFrom Command.step Store.empty (selfSetup worker input) = selfSetupStore worker input :=
      hsetup
    have hcall : (reserveCall worker (selfSurroundings worker input) 0).run (selfSetupStore worker input) =
        .ok ([selfInvocation worker input], selfReservedStore worker input) := hreserve
    simp only [selfSurroundings, if_true, Workplace.after, hrun] at hstep hcall ⊢
    simp only [hstep, hcall]
    exact ⟨rfl, rfl⟩
  · refine Meets.bind (Q := fun _ => Midway worker input [] (selfReservedStore worker input)
      (selfSetup worker input ++ [(reserveCall worker (selfSurroundings worker input) 0).command]))
      (.act fun place hplace => ?_) fun _ => tally_midway.bind fun _ => ?_
    · subst hplace
      exact ⟨rfl, rfl, rfl, Nat.one_ne_zero, rfl⟩
    · refine Meets.bind_eq (hprepared _ _ _) (Meets.bind_eq (resolveLane_midway hopens)
        (Meets.bind_eq (executeTurn_midway hsender) (.leave fun place hplace => ⟨rfl, hplace⟩)))

end

/-! ## Which messages take a seat down -/

section

variable {worker : ContinuousHarnessWorker} {input : CreateMessage Value}

/-- A message that append stores names its kind, and its key is within bounds. -/
theorem appended_valid {channelId id : String} {now : Int} {s : Store}
    {result : AppendMessageResult Value × Store}
    (h : appendMessageInTransaction channelId input id now s = .ok result) :
    isBlank input.kind = false ∧ validateIdempotencyKey input.idempotencyKey = .ok () := by
  obtain ⟨result, t⟩ := result
  simp only [appendMessageInTransaction, Transaction.bind_ok, Transaction.ensure_ok,
    Transaction.check_ok] at h
  obtain ⟨_, _, ⟨hkind, -⟩, _, _, ⟨hkey, -⟩, -⟩ := h
  exact ⟨hkind, hkey⟩

/-- The invocation of the round is for the message of the request. -/
theorem ofRequest_self : ofRequest input (selfInvocation worker input) = true := by
  simp [ofRequest, messageMatchesInput, selfInvocation, CreateMessage.message]

/-- A request that an invocation is for has the sender and the recipient of its message. -/
theorem ofRequest_addressing {invocation : Invocation Value} (h : ofRequest input invocation = true) :
    invocation.message.senderId = input.senderId ∧
      invocation.message.recipientId = input.recipientId := by
  simp only [ofRequest, messageMatchesInput, decide_eq_true_eq] at h
  exact ⟨h.2.1, h.2.2.1⟩

/-- A message that its own agent addresses to itself takes its seat down. -/
theorem not_survives_self (hopens : worker.OpensLanes)
    (haccepted : isBlank input.kind = false ∧ validateIdempotencyKey input.idempotencyKey = .ok ())
    (hkind : input.kind ∈ worker.adapter.inboundAcceptance.messageKinds)
    (hpayload : SerdeJson.fromStr (SerdeJson.toString input.payload) = some input.payload)
    (hsender : input.senderId = worker.config.agentId)
    (hrecipient : input.recipientId = some worker.config.agentId) : ¬ worker.Survives input := by
  intro hsurvives
  have hmeets := driveGeneration_self hopens haccepted hkind hpayload hsender hrecipient _ rfl
  have hlife := hsurvives none selfGeneration [⟨selfSurroundings worker input, selfGeneration⟩]
  simp only [runFrom, List.foldl_cons, List.foldl_nil, ContinuousHarnessWorker.round,
    SeatLife.start] at hlife
  split at hmeets
  · exact hmeets
  · rename_i exit place heq
    obtain ⟨rfl, hheld, hcommitted⟩ := hmeets
    have hfresh : Fresh (selfRefused worker input ++ [selfRelease worker input]) := by
      simp [Fresh, FreshAlong, selfRefused, selfSetup, Command.leaseTokens, reserveCall, acquireCall,
        recordOpenedCall, selfRelease, retryCall]
    have hnamed : ChannelsNamed (selfRefused worker input ++ [selfRelease worker input]) := by
      intro id hid
      have hc : id = "c" := by
        simpa [selfRefused, selfSetup, Command.channelIds, reserveCall, acquireCall, recordOpenedCall,
          selfRelease, retryCall] using hid
      rw [hc]
      decide
    simp only [heq, hcommitted, List.nil_append, List.mem_singleton, forall_eq, hheld,
      Option.any_some, ofRequest_self, GenerationExit.blamesMessage, forall_const] at hlife
    exact absurd (hlife hfresh hnamed) (by decide)

/-- No other message takes its seat down. -/
theorem survives_of_not_self (h : ¬ (worker.OpensLanes ∧ input.senderId = worker.config.agentId ∧
    input.recipientId = some worker.config.agentId)) : worker.Survives input := by
  intro limit identity rounds life hfresh hnamed exit hexit hrequest
  by_contra hblame
  obtain ⟨invocation, hheld, hopens, hsender, hrecipient⟩ :=
    (run_explained limit identity rounds).exits exit hexit (by simpa using hblame) hfresh hnamed
  rw [hheld, Option.any_some] at hrequest
  obtain ⟨hsame, hto⟩ := ofRequest_addressing hrequest
  exact h ⟨hopens, hsame ▸ hsender, hto ▸ hrecipient⟩

/-- A message that append stores and that its seat accepts takes the seat down exactly if its own agent
has addressed it to itself, at a seat that opens sessions. -/
theorem survives_iff (worker : ContinuousHarnessWorker) (input : CreateMessage Value)
    {channelId id : String} {now : Int} {s : Store} {result : AppendMessageResult Value × Store}
    (happended : appendMessageInTransaction channelId input id now s = .ok result)
    (hkind : input.kind ∈ worker.adapter.inboundAcceptance.messageKinds)
    (hpayload : Serde.parse input.payload.print = some input.payload) :
    worker.Survives input ↔ ¬ (worker.OpensLanes ∧ input.senderId = worker.config.agentId ∧
      input.recipientId = some worker.config.agentId) :=
  ⟨fun hsurvives ⟨hopens, hsender, hrecipient⟩ => not_survives_self hopens (appended_valid happended)
    hkind hpayload hsender hrecipient hsurvives, survives_of_not_self⟩

end

/-! ## A note to oneself -/

/-- A worker for the sample seat. -/
def sampleWorker : ContinuousHarnessWorker := ⟨sampleSeat, sampleAdapter, by decide +kernel⟩

/-- A note that the agent of the seat addresses to itself. -/
def selfNote : CreateMessage Value := ⟨"b", none, some "b", "work", .null, none, none⟩

theorem sampleWorker_opensLanes : sampleWorker.OpensLanes := by
  refine ⟨by decide +kernel, by decide +kernel, fun directory hmem => ?_⟩
  exact absurd hmem List.not_mem_nil

/-- The note is appended. -/
theorem append_selfNote : ∃ result,
    appendMessageInTransaction "c" selfNote "m" 0 (aloneStore sampleWorker) = .ok result :=
  ⟨_, rfl⟩

theorem survives_iff_selfNote : sampleWorker.Survives selfNote ↔ ¬ (sampleWorker.OpensLanes ∧
    selfNote.senderId = sampleWorker.config.agentId ∧
    selfNote.recipientId = some sampleWorker.config.agentId) := by
  obtain ⟨result, happended⟩ := append_selfNote
  exact survives_iff sampleWorker selfNote happended (by decide) (by decide +kernel)

/-- The surroundings of a second generation, in which nothing but the worker does anything. -/
def secondSurroundings : Surroundings :=
  { selfSurroundings sampleWorker selfNote with
    interlude := fun _ => ⟨[], 1, none⟩
    leaseToken := "T2"
    mint := fun _ => ("i2", "f2") }

/-- The next generation of the seat. -/
def secondGeneration : GenerationIdentity := ⟨"g2", "p", "d", by decide⟩

set_option maxRecDepth 100000 in
/-- The note is stored, its seat accepts it, and it takes down each worker that is started for the
seat. -/
theorem seat_lost_selfNote :
    (∃ result, appendMessageInTransaction "c" selfNote "m" 0 (aloneStore sampleWorker) = .ok result) ∧
      selfNote.kind ∈ sampleWorker.adapter.inboundAcceptance.messageKinds ∧
      ¬ sampleWorker.Survives selfNote ∧
      (runFrom (sampleWorker.round none) (SeatLife.start selfGeneration)
        [⟨selfSurroundings sampleWorker selfNote, secondGeneration⟩,
          ⟨secondSurroundings, selfGeneration⟩]).exits.map Prod.snd =
        [.fatal (.adapter selfRefusal), .fatal (.adapter selfRefusal)] :=
  ⟨append_selfNote, by decide, not_survives_self sampleWorker_opensLanes (by decide +kernel) (by decide)
    (by decide +kernel) rfl rfl, by decide +kernel⟩

end Fleetd.Worker
