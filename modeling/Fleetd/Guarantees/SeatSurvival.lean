import Fleetd.Guarantees.Log
import Fleetd.Guarantees.ManagedTurn
import Fleetd.System.Directory
import Fleetd.Worker.Generation

/-!
# What takes a seat down

A worker ends for good when an adapter failed or when a release failed. A message that its own agent
has addressed to itself is admitted, delivered and reserved like any other, but the controller
refuses to drive its turn, and the worker ends as if its adapter had failed: the delivery is pending
again, and the next worker ends the same way. No other message can bring that about.
-/

namespace Fleetd.Worker

open Serde (Value)
open Effects Effects.Routine Relational

/-! ## Lives of a seat -/

/-- A seat over its whole life: the place of its work, its generation, and how its generations have
ended, each with the invocation it held. -/
structure SeatLife where
  place : Workplace
  identity : GenerationIdentity
  exits : List (Option (Invocation Value) × GenerationExit)

/-- A seat before anything happened. -/
def SeatLife.start (identity : GenerationIdentity) : SeatLife where
  place := ⟨Store.empty, [], 0, [], {}, none⟩
  identity := identity
  exits := []

/-- One round of the loop, with the generation that comes next if this one ends in it. -/
structure Round where
  around : Surroundings
  successor : GenerationIdentity

/-- A worker goes on in its generation, or the next generation begins without any session. -/
def ContinuousHarnessWorker.round (worker : ContinuousHarnessWorker) (limit : Option Nat)
    (round : Round) (life : SeatLife) : SeatLife :=
  match driveGeneration worker life.identity round.around limit
      { life.place with calls := 0, held := none } with
  | (.ok (), place) => { life with place }
  | (.error exit, place) => {
      place := { place with sessions := [] }
      identity := round.successor
      exits := life.exits ++ [(place.held, exit)] }

/-- Channels are created under identifiers that are not blank. -/
def ChannelsNamed (cs : List (Command Value)) : Prop :=
  ∀ id ∈ cs.flatMap Command.channelIds, isBlank id = false

/-- An exit for which the adapter, and so the message it was given, is blamed. -/
def GenerationExit.blamesMessage : GenerationExit → Bool
  | .fatal (.adapter _) => true
  | _ => false

/-- Whether an invocation is for a message that was sent by a request. -/
def ofRequest (input : CreateMessage Value) (invocation : Invocation Value) : Bool :=
  messageMatchesInput invocation.message invocation.message.channelId input

/-- A message that cannot take a seat down, whatever its seat's life is. -/
def ContinuousHarnessWorker.Survives (worker : ContinuousHarnessWorker)
    (input : CreateMessage Value) : Prop :=
  ∀ limit identity rounds,
    let life := runFrom (worker.round limit) (SeatLife.start identity) rounds
    Fresh life.place.committed → ChannelsNamed life.place.committed →
    ∀ exit ∈ life.exits, exit.1.any (ofRequest input) = true → exit.2.blamesMessage = false

/-- The directories of a seat are ones under which sessions are acquired. -/
def ContinuousHarnessWorker.OpensLanes (worker : ContinuousHarnessWorker) : Prop :=
  validateAbsolutePath "working directory" worker.config.workingDirectory.path = .ok () ∧
    worker.config.additionalDirectories.length ≤ maxAdditionalDirectories ∧
    ∀ directory ∈ worker.config.additionalDirectories,
      validateAbsolutePath "additional directory" directory.path = .ok ()

/-! ## Calls -/

section

variable {worker : ContinuousHarnessWorker} {identity : GenerationIdentity} {around : Surroundings}

/-- A place whose database is what its commands made of it. -/
def Workplace.Traced (place : Workplace) : Prop := place.store = run place.committed

/-- A place after some more commands. -/
def Workplace.extend (place : Workplace) (cs : List (Command Value)) (calls : Nat) : Workplace :=
  { place with
    store := run (place.committed ++ cs)
    committed := place.committed ++ cs
    calls := calls }

theorem Workplace.Traced.after {place : Workplace} (h : place.Traced) (interlude : Interlude) :
    place.after interlude = place.extend interlude.others (place.calls + 1) := by
  rw [Workplace.Traced] at h
  rw [Workplace.after, Workplace.extend, h, run, run, runFrom_append]

/-- A call that reads leaves the place as others have made it, and answers from there. -/
theorem view_run {α : Type} {query : Tx α} {place : Workplace} (h : place.Traced) :
    ∃ result cs calls, view around query place = (.ok result, place.extend cs calls) ∧
      ∀ a, result = .ok a → ∃ t, query (run (place.committed ++ cs)) = .ok (a, t) := by
  simp only [view, act_run, h.after]
  cases (around.interlude place.calls).failure with
  | some error =>
    exact ⟨_, _, _, rfl, fun a ha => by cases ha⟩
  | none =>
    refine ⟨_, _, _, rfl, fun a ha => ?_⟩
    cases hquery : query (run (place.committed ++ (around.interlude place.calls).others)) with
    | error error =>
      simp only [Workplace.extend, hquery] at ha
      cases ha
    | ok result =>
      simp only [Workplace.extend, hquery] at ha
      cases ha
      exact ⟨_, rfl⟩

/-- A call that may write adds its command to those of others, and answers from in between. -/
theorem call_run {α : Type} {storeCall : Int → StoreCall α} {place : Workplace} (h : place.Traced) :
    ∃ result cs calls, call around storeCall place = (.ok result, place.extend cs calls) ∧
      ∀ a, result = .ok a → ∃ now ds,
        (storeCall now).run (run (place.committed ++ ds)) = .ok (a, run (place.committed ++ cs)) := by
  simp only [call, act_run, h.after]
  cases (around.interlude place.calls).failure with
  | some error => exact ⟨_, _, _, rfl, fun a ha => by cases ha⟩
  | none =>
    let others := (around.interlude place.calls).others
    let made := storeCall (around.interlude place.calls).now
    have hstep : made.command.step (run (place.committed ++ others)) =
        run (place.committed ++ (others ++ [made.command])) := by
      rw [← List.append_assoc, run_snoc]
    refine ⟨(made.run (run (place.committed ++ others))).map Prod.fst, others ++ [made.command],
      place.calls + 1, ?_, fun a ha => ⟨(around.interlude place.calls).now, others, ?_⟩⟩
    · simp only [Workplace.extend, ← hstep, List.append_assoc, others, made]
    · rw [← hstep, Command.step, made.same]
      cases hmade : made.run (run (place.committed ++ others)) with
      | error error =>
        rw [hmade] at ha
        cases ha
      | ok result =>
        rw [hmade] at ha
        cases ha
        rw [Transaction.commit_of_ok (discard_of_ok hmade)]

/-! ## What calls keep -/

/-- A fact about a traced place that commits and reports do not change. -/
structure Lasting (I : Workplace → Prop) : Prop where
  traced : ∀ place, I place → place.Traced
  extend : ∀ place cs calls, I place → I (place.extend cs calls)
  report : ∀ place report, I place → I { place with report := report }

section Lasting

variable {I : Workplace → Prop} {invocation : Invocation Value}

theorem Lasting.and {J : Workplace → Prop} (hI : Lasting I)
    (hextend : ∀ place cs calls, J place → J (place.extend cs calls))
    (hreport : ∀ place report, J place → J { place with report := report }) :
    Lasting fun place => I place ∧ J place where
  traced place h := hI.traced place h.1
  extend place cs calls h := ⟨hI.extend place cs calls h.1, hextend place cs calls h.2⟩
  report place report h := ⟨hI.report place report h.1, hreport place report h.2⟩

theorem view_meets (hI : Lasting I) {α : Type} {query : Tx α} {E : GenerationExit → Workplace → Prop} :
    Meets I (view around query) (fun result place => I place ∧
      ∀ a, result = .ok a → ∃ t, query place.store = .ok (a, t)) E := by
  intro place hplace
  obtain ⟨result, cs, calls, hview, hresult⟩ := view_run (hI.traced place hplace)
  rw [hview]
  exact ⟨hI.extend place cs calls hplace, hresult⟩

theorem call_meets (hI : Lasting I) {α : Type} {storeCall : Int → StoreCall α}
    {E : GenerationExit → Workplace → Prop} :
    Meets I (call around storeCall) (fun result place => I place ∧
      ∀ a, result = .ok a → ∃ now s, (storeCall now).run s = .ok (a, place.store)) E := by
  intro place hplace
  obtain ⟨result, cs, calls, hcall, hresult⟩ := call_run (hI.traced place hplace)
  rw [hcall]
  refine ⟨hI.extend place cs calls hplace, fun a ha => ?_⟩
  obtain ⟨now, ds, hrun⟩ := hresult a ha
  exact ⟨now, _, hrun⟩

theorem tally_meets (hI : Lasting I) {f : WorkerReport → WorkerReport}
    {E : GenerationExit → Workplace → Prop} : Meets I (tally f) (fun _ => I) E :=
  .act fun place hplace => hI.report place _ hplace

/-- A failed release blames nobody. -/
theorem retryUnarmed_meets (hI : Lasting I) {context : String} {retryAfterMs : Nat}
    {E : GenerationExit → Workplace → Prop} :
    Meets I (retryUnarmed around invocation context retryAfterMs) (fun released place => I place ∧
      ∀ error, released = .error error → (GenerationExit.fatal error).blamesMessage = false) E := by
  refine (call_meets hI).bind fun released => .pure fun place hplace => ⟨hplace.1, fun error herror => ?_⟩
  cases released with
  | ok value => cases herror
  | error source =>
    cases herror
    rfl

theorem releaseOrExit_meets (hI : Lasting I) {reason : String} :
    Meets I (releaseOrExit worker around invocation reason) (fun _ => I)
      fun exit place => I place ∧ exit.blamesMessage = false := by
  refine (retryUnarmed_meets hI).bind fun released => ?_
  cases released with
  | error error => exact .leave fun place hplace => ⟨hplace.1, hplace.2 error rfl⟩
  | ok _ => exact (tally_meets hI).weaken (fun _ h => h.1) (fun _ _ h => h) fun _ _ h => h

theorem stopUnarmed_meets (hI : Lasting I) {E : GenerationExit → Workplace → Prop} :
    Meets I (stopUnarmed around invocation)
      (fun exit place => I place ∧ exit.blamesMessage = false) E := by
  refine (retryUnarmed_meets hI).bind fun released => ?_
  cases released with
  | error error => exact .pure fun place hplace => ⟨hplace.1, hplace.2 error rfl⟩
  | ok _ =>
    refine ((tally_meets hI).weaken (fun _ h => h.1) (fun _ _ h => h) fun _ _ h => h).bind fun _ => ?_
    exact .pure fun place hplace => ⟨hplace, rfl⟩

end Lasting

/-! ## A reserved delivery -/

/-- A place whose sessions were acquired under the directories of the seat. -/
structure Attended (worker : ContinuousHarnessWorker) (earlier : List (Command Value))
    (place : Workplace) : Prop where
  since : earlier <+: place.committed
  traced : place.Traced
  lanes : place.sessions ≠ [] → worker.OpensLanes

/-- A place at which an invocation of the seat is held. -/
structure Serving (worker : ContinuousHarnessWorker) (earlier : List (Command Value))
    (invocation : Invocation Value) (place : Workplace) : Prop extends Attended worker earlier place where
  held : place.held = some invocation
  state : invocation.state = .reserved
  agent : invocation.agentId = worker.config.agentId
  addressed : Fresh place.committed → invocation.message.senderId = worker.config.agentId →
    invocation.message.recipientId = some worker.config.agentId

/-- The channel of a message is not blank where channels are named. -/
def Named (invocation : Invocation Value) (place : Workplace) : Prop :=
  Fresh place.committed → ChannelsNamed place.committed →
    isBlank invocation.message.channelId = false

/-- A message that its own agent has addressed to itself, at a seat that opens sessions. -/
def SelfAddressed (worker : ContinuousHarnessWorker) (message : Message Value) : Prop :=
  worker.OpensLanes ∧ message.senderId = worker.config.agentId ∧
    message.recipientId = some worker.config.agentId

/-- An exit that blames the adapter comes of a message that its own agent has addressed to itself. -/
structure Leaves (worker : ContinuousHarnessWorker) (earlier : List (Command Value))
    (invocation : Invocation Value) (exit : GenerationExit) (place : Workplace) : Prop where
  serving : Serving worker earlier invocation place
  blame : exit.blamesMessage = true → Fresh place.committed → ChannelsNamed place.committed →
    SelfAddressed worker invocation.message

variable {earlier : List (Command Value)} {invocation : Invocation Value}

theorem lasting_attended : Lasting (Attended worker earlier) where
  traced _ h := h.traced
  extend _ _ _ h := ⟨h.since.trans (List.prefix_append _ _), rfl, h.lanes⟩
  report _ _ h := ⟨h.since, h.traced, h.lanes⟩

theorem lasting_serving : Lasting (Serving worker earlier invocation) where
  traced _ h := h.traced
  extend place cs calls h := ⟨lasting_attended.extend place cs calls h.toAttended, h.held, h.state, h.agent, fun hfresh => h.addressed hfresh.left⟩
  report _ _ h := ⟨⟨h.since, h.traced, h.lanes⟩, h.held, h.state, h.agent, h.addressed⟩

theorem ChannelsNamed.left {cs ds : List (Command Value)} (h : ChannelsNamed (cs ++ ds)) :
    ChannelsNamed cs := by
  intro id hid
  refine h id ?_
  rw [List.flatMap_append]
  exact List.mem_append_left _ hid

theorem lasting_named : Lasting fun place => Serving worker earlier invocation place ∧ Named invocation place :=
  lasting_serving.and (fun _ _ _ h hfresh hnamed => h hfresh.left hnamed.left) fun _ _ h => h

/-- Where nobody is blamed, nothing has to be shown. -/
theorem Leaves.of_blameless {exit : GenerationExit} {place : Workplace}
    (h : Serving worker earlier invocation place) (hexit : exit.blamesMessage = false) :
    Leaves worker earlier invocation exit place :=
  ⟨h, fun hblame => absurd hblame (by rw [hexit]; exact Bool.false_ne_true)⟩

/-- A channel that is there was created under a name that is not blank. -/
theorem named_of_ensureChannel {place : Workplace} {u : Unit} {t : Store} (h : place.Traced)
    (hchannel : ensureChannel invocation.message.channelId place.store = .ok (u, t)) :
    Named invocation place := by
  intro hfresh hnamed
  simp only [ensureChannel, Transaction.bind_ok, Transaction.read_ok, Transaction.ensure_ok] at hchannel
  obtain ⟨channels, _, ⟨rfl, rfl⟩, ⟨channel, hmem, hid⟩, -⟩ := hchannel
  rw [h] at hmem
  rw [← hid]
  exact hnamed _ (run_channelIds hfresh channel hmem)

theorem readChannelContext_meets {E : GenerationExit → Workplace → Prop} :
    Meets (Serving worker earlier invocation) (readChannelContext around invocation)
      (fun result place => Serving worker earlier invocation place ∧
        ∀ context, result = .ok context → Named invocation place) E := by
  refine (view_meets lasting_serving).bind fun members => ?_
  cases members with
  | error error => exact .pure fun place hplace => ⟨hplace.1, fun _ hok => nomatch hok⟩
  | ok members =>
    refine Meets.bind (Q := fun _ place => Serving worker earlier invocation place ∧ Named invocation place)
      ((view_meets lasting_named).weaken (fun place hplace => ⟨hplace.1, ?_⟩) (fun _ _ h => h.1)
        fun _ _ h => h) fun history => ?_
    · obtain ⟨t, hlist⟩ := hplace.2 members rfl
      simp only [listChannelMembers, Transaction.bind_ok] at hlist
      obtain ⟨_, _, hchannel, -⟩ := hlist
      exact named_of_ensureChannel hplace.1.traced hchannel
    · cases history with
      | error error => exact .pure fun place hplace => ⟨hplace.1, fun _ hok => nomatch hok⟩
      | ok history => exact .pure fun place hplace => ⟨hplace.1, fun _ _ => hplace.2⟩

/-- A prepared turn is refused for its channel alone. -/
theorem validatePreparedTurn_prepareEnvelope (context : ChannelTurnContext)
    (h : isBlank invocation.message.channelId = false) :
    validatePreparedTurn (prepareEnvelope worker.adapter invocation context) = .ok () := by
  have hpolicy : isBlank "per-channel" = false := by decide
  rw [validatePreparedTurn, if_neg]
  simp only [prepareEnvelope, h, hpolicy, worker.adapter.resultKindGiven, Bool.false_eq_true, false_or,
    List.cons_ne_nil, not_false_eq_true]

theorem prepareReserved_meets :
    Meets (Serving worker earlier invocation) (prepareReserved worker around invocation)
      (fun prepared place => Serving worker earlier invocation place ∧
        ∃ context, prepared = prepareEnvelope worker.adapter invocation context)
      (Leaves worker earlier invocation) := by
  refine readChannelContext_meets.bind fun result => ?_
  cases result with
  | error error =>
    refine Meets.bind ((releaseOrExit_meets lasting_serving).weaken (fun _ h => h.1) (fun _ _ h => h)
      fun _ _ h => .of_blameless h.1 h.2) fun _ => ?_
    exact .leave fun place hplace => .of_blameless hplace rfl
  | ok context =>
    cases hvalid : validatePreparedTurn (prepareEnvelope worker.adapter invocation context) with
    | ok _ =>
      simp only [hvalid]
      exact .pure fun place hplace => ⟨hplace.1, context, rfl⟩
    | error error =>
      simp only [hvalid]
      refine Meets.bind ((releaseOrExit_meets lasting_named).weaken
        (fun _ h => ⟨h.1, h.2 context rfl⟩) (fun _ _ h => h) fun _ _ h => .of_blameless h.1.1 h.2)
        fun _ => ?_
      refine .leave fun place hplace => ⟨hplace.1, fun _ hfresh hnamed => ?_⟩
      rw [validatePreparedTurn_prepareEnvelope context (hplace.2 hfresh hnamed)] at hvalid
      cases hvalid

/-- An acquisition that succeeds was one for directories that are accepted. -/
theorem opensLanes_of_acquired {lane : LaneIdentity} {agentId freshBindingId : String} {now : Int}
    {s t : Store} {acquisition : SessionAcquisition}
    (h : acquireSessionBinding agentId (laneAcquisition worker identity lane) now freshBindingId s =
      .ok (acquisition, t)) : worker.OpensLanes := by
  simp only [acquireSessionBinding, Transaction.bind_ok, Transaction.check_ok] at h
  obtain ⟨_, _, ⟨hvalid, -⟩, -⟩ := h
  simp only [validateAcquisition, laneAcquisition, List.length_map, List.mapM_map] at hvalid
  obtain ⟨_, -, hvalid⟩ := except_bind_ok.mp hvalid
  obtain ⟨_, -, hvalid⟩ := except_bind_ok.mp hvalid
  obtain ⟨_, -, hvalid⟩ := except_bind_ok.mp hvalid
  obtain ⟨_, -, hvalid⟩ := except_bind_ok.mp hvalid
  obtain ⟨_, -, hvalid⟩ := except_bind_ok.mp hvalid
  obtain ⟨_, -, hvalid⟩ := except_bind_ok.mp hvalid
  obtain ⟨_, hworking, hvalid⟩ := except_bind_ok.mp hvalid
  split at hvalid
  · cases hvalid
  · rename_i hcount
    obtain ⟨_, hadditional, -⟩ := except_bind_ok.mp hvalid
    refine ⟨hworking, Nat.le_of_not_lt hcount, fun directory hmem => ?_⟩
    obtain ⟨_, -, hdirectory⟩ := (mem_of_except_mapM hadditional).1 directory hmem
    exact hdirectory

theorem openLane_meets {lane : LaneIdentity} {E : GenerationExit → Workplace → Prop} :
    Meets (Serving worker earlier invocation) (openLane worker identity around invocation lane)
      (fun result place => Serving worker earlier invocation place ∧
        ∀ opened, result = .ok opened → worker.OpensLanes) E := by
  refine (call_meets lasting_serving).bind fun acquisition => ?_
  cases acquisition with
  | error error => exact .pure fun place hplace => ⟨hplace.1, fun _ hok => nomatch hok⟩
  | ok acquisition =>
    refine Meets.weaken (P := fun place => worker.OpensLanes ∧ Serving worker earlier invocation place)
      (Meets.assume fun hopens => ?_) (fun place hplace => ⟨?_, hplace.1⟩) (fun _ _ h => h)
      fun _ _ h => h
    · cases hopened : around.opened with
      | error error => exact .pure fun place hplace => ⟨hplace, fun _ _ => hopens⟩
      | ok sessionRef =>
        refine (call_meets lasting_serving).bind fun recorded => ?_
        cases recorded with
        | error error => exact .pure fun place hplace => ⟨hplace.1, fun _ _ => hopens⟩
        | ok row => exact .pure fun place hplace => ⟨hplace.1, fun _ _ => hopens⟩
    · obtain ⟨now, s, hacquired⟩ := hplace.2 acquisition rfl
      exact opensLanes_of_acquired hacquired

theorem resolveLane_meets {lane : LaneIdentity} :
    Meets (Serving worker earlier invocation) (resolveLane worker identity around invocation lane)
      (fun opened place => Serving worker earlier invocation place ∧ (opened.isSome = true → worker.OpensLanes))
      (Leaves worker earlier invocation) := by
  refine Meets.bind (Q := fun sessions place => Serving worker earlier invocation place ∧
    (sessions ≠ [] → worker.OpensLanes)) (.ask fun place hplace => ⟨hplace, hplace.lanes⟩)
    fun sessions => ?_
  cases hlookup : sessions.lookup lane with
  | some opened =>
    have hsome : sessions ≠ [] := by
      rintro rfl
      cases hlookup
    exact .pure fun place hplace => ⟨hplace.1, fun _ => hplace.2 hsome⟩
  | none =>
    refine Meets.bind (openLane_meets.weaken (fun _ h => h.1) (fun _ _ h => h) fun _ _ h => h)
      fun opened => ?_
    cases opened with
    | ok opened =>
      refine Meets.bind (Q := fun _ place => Serving worker earlier invocation place ∧ worker.OpensLanes)
        (.act fun place hplace => ?_) fun _ => .pure fun place hplace => ⟨hplace.1, fun _ => hplace.2⟩
      obtain ⟨hserving, hopens⟩ := hplace
      exact ⟨⟨⟨hserving.since, hserving.traced, fun _ => hopens opened rfl⟩, hserving.held, hserving.state,
        hserving.agent, hserving.addressed⟩, hopens opened rfl⟩
    | error error =>
      refine Meets.bind ((releaseOrExit_meets lasting_serving).weaken (fun _ h => h.1) (fun _ _ h => h)
        fun _ _ h => .of_blameless h.1 h.2) fun _ => ?_
      split
      · exact .leave fun place hplace => .of_blameless hplace rfl
      · exact .pure fun place hplace => ⟨hplace, fun hsome => nomatch hsome⟩

/-! ## A turn -/

/-- A turn that is refused would answer its own source message. -/
theorem senderId_of_refused {place : Workplace} {opened : OpenedSession} {context : ChannelTurnContext}
    {message : String} (h : Serving worker earlier invocation place)
    (hrefused : validateTurn (managedTurn worker.config identity.ownerInstanceId opened invocation
      (prepareEnvelope worker.adapter invocation context)) = .error (.invalid message)) :
    invocation.message.senderId = worker.config.agentId := by
  simp only [validateTurn, managedTurn, prepareEnvelope, h.state, identity.ownerGiven,
    worker.adapter.resultKindGiven, ne_eq, not_true_eq_false, if_false, Bool.false_eq_true,
    List.cons_ne_nil, or_self] at hrefused
  split at hrefused
  · rename_i hself
    exact hself.symm.trans h.agent
  · cases hrefused

/-- How a generation may go on after the turn of an invocation. -/
structure Controls (worker : ContinuousHarnessWorker) (earlier : List (Command Value))
    (invocation : Invocation Value) (control : TurnControl) (place : Workplace) : Prop where
  serving : Serving worker earlier invocation place
  exit : ∀ exit, control = .exit exit → Leaves worker earlier invocation exit place

theorem rotateInterruptedLane_meets {lane : LaneIdentity} {session : OpenedSession}
    {E : GenerationExit → Workplace → Prop} :
    Meets (Serving worker earlier invocation) (rotateInterruptedLane worker around lane session)
      (Controls worker earlier invocation) E := by
  refine (call_meets lasting_serving).bind fun retired => ?_
  cases retired with
  | error source =>
    refine .pure fun place hplace => ⟨hplace.1, fun exit hexit => ?_⟩
    cases hexit
    exact .of_blameless hplace.1 rfl
  | ok row =>
    match around.closed with
    | .ok true => exact .pure fun place hplace => ⟨hplace.1, fun _ hexit => nomatch hexit⟩
    | .ok false =>
      refine .pure fun place hplace => ⟨hplace.1, fun exit hexit => ?_⟩
      cases hexit
      exact .of_blameless hplace.1 rfl
    | .error error =>
      refine .pure fun place hplace => ⟨hplace.1, fun exit hexit => ?_⟩
      cases hexit
      exact .of_blameless hplace.1 rfl

/-- What becomes of a turn that was not driven blames the adapter for a refusal only. -/
theorem managedError_meets {error : ManagedTurnError} :
    Meets (Serving worker earlier invocation) (managedError worker around invocation error)
      (fun exit place => Serving worker earlier invocation place ∧
        (exit.blamesMessage = true → ∃ message, error = .invalid message))
      (Leaves worker earlier invocation) := by
  cases error with
  | harnessBeforeArm error =>
    refine Meets.bind ((releaseOrExit_meets lasting_serving).weaken (fun _ h => h) (fun _ _ h => h)
      fun _ _ h => .of_blameless h.1 h.2) fun _ => ?_
    exact .pure fun place hplace => ⟨hplace, fun hblame => nomatch hblame⟩
  | invalid error =>
    refine Meets.bind ((releaseOrExit_meets lasting_serving).weaken (fun _ h => h) (fun _ _ h => h)
      fun _ _ h => .of_blameless h.1 h.2) fun _ => ?_
    exact .pure fun place hplace => ⟨hplace, fun _ => ⟨error, rfl⟩⟩
  | fleet error => exact .pure fun place hplace => ⟨hplace, fun hblame => nomatch hblame⟩

theorem turnControl_meets {lane : LaneIdentity} {session : OpenedSession}
    {result : Except ManagedTurnError ManagedTurnOutcome}
    (hresult : ∀ message place, result = .error (.invalid message) → Serving worker earlier invocation place →
      Fresh place.committed → SelfAddressed worker invocation.message) :
    Meets (Serving worker earlier invocation) (turnControl worker around invocation lane session result)
      (Controls worker earlier invocation) (Leaves worker earlier invocation) := by
  cases result with
  | error error =>
    refine managedError_meets.bind fun exit => .pure fun place hplace => ⟨hplace.1, fun _ hexit => ?_⟩
    cases hexit
    refine ⟨hplace.1, fun hblame hfresh _ => ?_⟩
    obtain ⟨message, rfl⟩ := hplace.2 hblame
    exact hresult message place rfl hplace.1 hfresh
  | ok outcome =>
    cases outcome with
    | completed completion =>
      exact (tally_meets lasting_serving).bind fun _ =>
        .pure fun place hplace => ⟨hplace, fun _ hexit => nomatch hexit⟩
    | interrupted completion interruption =>
      refine (tally_meets lasting_serving).bind fun _ => ?_
      cases interruption with
      | workerShutdown => exact .pure fun place hplace => ⟨hplace, fun _ hexit => nomatch hexit⟩
      | newerMessage messageId => exact rotateInterruptedLane_meets
    | blocked delivery =>
      refine (tally_meets lasting_serving).bind fun _ => .pure fun place hplace => ⟨hplace, ?_⟩
      intro exit hexit
      cases hexit
      exact .of_blameless hplace rfl

theorem executeTurn_meets {lane : LaneIdentity} {opened : OpenedSession} {context : ChannelTurnContext}
    (hopens : worker.OpensLanes) :
    Meets (Serving worker earlier invocation) (executeTurn worker identity around invocation
      (prepareEnvelope worker.adapter invocation context) lane opened)
      (Controls worker earlier invocation) (Leaves worker earlier invocation) := by
  refine (view_meets lasting_serving).bind fun baseline => ?_
  cases baseline with
  | error error =>
    refine Meets.bind ((releaseOrExit_meets lasting_serving).weaken (fun _ h => h.1) (fun _ _ h => h)
      fun _ _ h => .of_blameless h.1 h.2) fun _ => .pure fun place hplace => ⟨hplace, ?_⟩
    intro exit hexit
    cases hexit
    exact .of_blameless hplace rfl
  | ok baseline =>
    refine (turnControl_meets fun message place hinvalid hserving hfresh => ?_).weaken (fun _ h => h.1)
      (fun _ _ h => h) fun _ _ h => h
    have hsender := senderId_of_refused hserving (runTurn_invalid _ _ _ hinvalid)
    exact ⟨hopens, hsender, hserving.addressed hfresh hsender⟩

/-! ## A round -/

theorem serveReserved_meets :
    Meets (Serving worker earlier invocation) (serveReserved worker identity around invocation)
      (fun _ => Serving worker earlier invocation) (Leaves worker earlier invocation) := by
  refine (tally_meets lasting_serving).bind fun _ => prepareReserved_meets.bind fun prepared => ?_
  refine Meets.weaken (P := fun place =>
    (∃ context, prepared = prepareEnvelope worker.adapter invocation context) ∧
      Serving worker earlier invocation place) (Meets.assume fun ⟨context, hprepared⟩ => ?_)
    (fun _ h => ⟨h.2, h.1⟩) (fun _ _ h => h) fun _ _ h => h
  subst hprepared
  have hstop : Meets (Serving worker earlier invocation) (do
      let exit ← stopUnarmed around invocation
      leave exit : Work Unit) (fun _ => Serving worker earlier invocation) (Leaves worker earlier invocation) :=
    (stopUnarmed_meets lasting_serving).bind fun exit =>
      .leave fun place hplace => .of_blameless hplace.1 hplace.2
  split
  · exact hstop
  · refine resolveLane_meets.bind fun opened => ?_
    cases opened with
    | none => exact .pure fun place hplace => hplace.1
    | some opened =>
      refine Meets.weaken (P := fun place => worker.OpensLanes ∧ Serving worker earlier invocation place)
        (Meets.assume fun hopens => ?_) (fun _ h => ⟨h.2 rfl, h.1⟩) (fun _ _ h => h) fun _ _ h => h
      dsimp only
      split
      · exact hstop
      · refine (executeTurn_meets hopens).bind fun control => ?_
        cases control with
        | «continue» => exact .pure fun place hplace => hplace.serving
        | forgetLane lane =>
          refine .act fun place hplace => ?_
          obtain ⟨hserving, -⟩ := hplace
          refine ⟨⟨hserving.since, hserving.traced, fun hsome => hserving.lanes fun hnone => hsome ?_⟩, hserving.held,
            hserving.state, hserving.agent, hserving.addressed⟩
          simp only [hnone, List.filter_nil]
        | exit exit => exact .leave fun place hplace => hplace.exit exit rfl

/-- How a round may end a generation. -/
structure Ends (worker : ContinuousHarnessWorker) (earlier : List (Command Value))
    (exit : GenerationExit) (place : Workplace) : Prop extends Attended worker earlier place where
  blame : exit.blamesMessage = true → ∃ invocation, Leaves worker earlier invocation exit place

theorem Ends.of_blameless {exit : GenerationExit} {place : Workplace}
    (h : Attended worker earlier place) (hexit : exit.blamesMessage = false) :
    Ends worker earlier exit place :=
  ⟨h, fun hblame => absurd hblame (by rw [hexit]; exact Bool.false_ne_true)⟩

/-- What a reservation hands out is served. -/
theorem serving_of_reserves {place : Workplace} (h : Attended worker earlier place)
    (hreserved : Reserves place.store worker.config.agentId invocation) :
    Serving worker earlier invocation { place with held := some invocation } := by
  refine ⟨⟨h.since, h.traced, h.lanes⟩, rfl, hreserved.state, hreserved.agent, fun hfresh hself => ?_⟩
  obtain ⟨d, hd, m, hm, hagent, hseq, -, hsender, hrecipient⟩ := hreserved.delivery
  rw [h.traced] at hd hm
  have haddresses := run_addresses hfresh d hd m hm hseq
  unfold MessageRow.Addresses at haddresses
  rw [← hrecipient]
  split at haddresses
  · rename_i recipient heq
    rw [heq, ← haddresses, hagent]
  · exact absurd (hagent.trans (hself.symm.trans hsender.symm)) haddresses

theorem driveGeneration_meets {limit : Option Nat} :
    Meets (Attended worker earlier) (driveGeneration worker identity around limit)
      (fun _ => Attended worker earlier) (Ends worker earlier) := by
  refine Meets.bind (Q := fun _ => Attended worker earlier) (.ask fun _ hplace => hplace) fun report => ?_
  split
  · exact .leave fun place hplace => .of_blameless hplace rfl
  · refine (call_meets lasting_attended).bind fun reservation => ?_
    cases reservation with
    | error error => exact .leave fun place hplace => .of_blameless hplace.1 rfl
    | ok invocations =>
      dsimp only
      split
      · refine Meets.bind ((tally_meets lasting_attended).weaken (fun _ h => h.1) (fun _ _ h => h)
          fun _ _ h => h) fun _ => ?_
        split
        · exact .leave fun place hplace => .of_blameless hplace rfl
        · exact .pure fun place hplace => hplace
      · rename_i invocation hhead
        refine Meets.bind (Q := fun _ => Serving worker earlier invocation) (.act fun place hplace => ?_)
          fun _ => serveReserved_meets.weaken (fun _ h => h) (fun _ _ h => h.toAttended)
            fun _ _ h => ⟨h.serving.toAttended, fun _ => ⟨invocation, h⟩⟩
        obtain ⟨now, s, hreserve⟩ := hplace.2 invocations rfl
        exact serving_of_reserves hplace.1 (reserveInvocationsByKind_reserves hreserve invocation
          (List.mem_of_mem_head? hhead))

end

/-! ## Whole lives -/

section

variable {worker : ContinuousHarnessWorker}

/-- Every exit so far that blames the adapter comes of a message that its own agent has addressed
to itself. -/
structure SeatLife.Explained (worker : ContinuousHarnessWorker) (life : SeatLife) : Prop where
  attended : Attended worker [] life.place
  exits : ∀ exit ∈ life.exits, exit.2.blamesMessage = true → Fresh life.place.committed →
    ChannelsNamed life.place.committed → ∃ invocation, exit.1 = some invocation ∧
      SelfAddressed worker invocation.message

/-- What was shown of a shorter history holds of a longer one. -/
theorem ChannelsNamed.of_earlier {cs later : List (Command Value)} (hle : cs <+: later)
    (h : ChannelsNamed later) : ChannelsNamed cs := by
  obtain ⟨ds, rfl⟩ := hle
  exact h.left

/-- A round keeps every exit explained. -/
theorem SeatLife.Explained.round {life : SeatLife} (h : life.Explained worker) (limit : Option Nat)
    (round : Round) : (worker.round limit round life).Explained worker := by
  have hstart : Attended worker life.place.committed { life.place with calls := 0, held := none } :=
    ⟨List.prefix_refl _, h.attended.traced, h.attended.lanes⟩
  have hmeets := @driveGeneration_meets worker life.identity round.around life.place.committed limit _
    hstart
  rw [ContinuousHarnessWorker.round]
  split
  · rename_i place heq
    rw [heq] at hmeets
    refine ⟨⟨List.nil_prefix, hmeets.traced, hmeets.lanes⟩, fun exit hexit hblame hfresh hnamed => ?_⟩
    exact h.exits exit hexit hblame (.of_earlier hmeets.since hfresh) (.of_earlier hmeets.since hnamed)
  · rename_i exit place heq
    rw [heq] at hmeets
    refine ⟨⟨List.nil_prefix, hmeets.traced, fun hsome => absurd rfl hsome⟩, ?_⟩
    intro other hother hblame hfresh hnamed
    obtain hother | hother := List.mem_append.mp hother
    · exact h.exits other hother hblame (.of_earlier hmeets.since hfresh)
        (.of_earlier hmeets.since hnamed)
    · obtain rfl := List.mem_singleton.mp hother
      obtain ⟨invocation, hleaves⟩ := hmeets.blame hblame
      exact ⟨invocation, hleaves.serving.held, hleaves.blame hblame hfresh hnamed⟩

/-- In every life of a seat, an exit that blames the adapter comes of a message that its own agent
has addressed to itself. -/
theorem run_explained (limit : Option Nat) (identity : GenerationIdentity) (rounds : List Round) :
    (runFrom (worker.round limit) (SeatLife.start identity) rounds).Explained worker := by
  refine runFrom_induction (fun life : SeatLife => life.Explained worker) (fun _ => True)
    (fun round life _ hlife => hlife.round limit round) ⟨⟨List.prefix_refl _, ?_, ?_⟩, ?_⟩
    fun _ _ => trivial
  · exact Eq.refl Store.empty
  · exact fun hsome => absurd rfl hsome
  · exact fun exit hexit => absurd hexit List.not_mem_nil

end

end Fleetd.Worker
