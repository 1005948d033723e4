import Mathlib.Logic.Function.Basic
import Fleetd.AcpHost.Driver

/-!
# What a step of the driver can do

The driver seen from its notifications: the active turn and the capture of every session, how far
the monitor of each turn has come, the replays, and the mail. Every step is one of a few moves of
this view. Most steps are none at all: permissions, cancellations, deadlines and the answers of the
runtime only prepare what a later move does.
-/

namespace Fleetd.AcpHost

open Serde (Value)
open Harness Effects

/-! ## The view -/

/-- How far a turn has come. -/
inductive TurnPhase
  | live
  | taken (watch : Nat) (terminal : Harness.TurnTerminal)
  | publishing
  | finished
  deriving DecidableEq, Repr

def MonitorStage.phase : MonitorStage → TurnPhase
  | .running => .live
  | .draining _ => .live
  | .decided _ => .live
  | .withdrawing _ taken => .taken taken.watch taken.terminal
  | .publishing => .publishing
  | .finished => .finished

/-- A turn as it was accepted, and how far it has come. -/
structure Turn where
  sessionRef : String
  fence : ExecutionFence
  phase : TurnPhase
  deriving DecidableEq, Repr

def Monitor.turn (monitor : Monitor) : Turn :=
  ⟨monitor.sessionRef, monitor.fence, monitor.stage.phase⟩

namespace Driver

def activeOn (d : Driver) (sessionRef : String) : Option ActiveTurn :=
  (d.shared.sessions.lookup sessionRef).bind (·.active)

def captureOn (d : Driver) (sessionRef : String) : Option TranscriptCapture :=
  (d.shared.sessions.lookup sessionRef).bind (·.capturing)

def turns (d : Driver) : List Turn := d.monitors.map Monitor.turn

/-- The turns after one of them has come further. -/
def turnsAt (d : Driver) (number : Nat) (phase : TurnPhase) : List Turn :=
  d.turns.modify number fun turn => { turn with phase }

end Driver

/-- The turns after a notification was sent. -/
def turnsSent (sender : Sender) (d : Driver) : List Turn :=
  match sender with
  | .monitor number => d.turnsAt number .finished
  | _ => d.turns

/-- The replays after a notification was sent. -/
def replaysSent (sender : Sender) (replays : List Replay) : List Replay :=
  match sender with
  | .replay number => replays.modify number fun replay => { replay with stage := .finished }
  | _ => replays

/-- The moves of the view. -/
inductive Move [Sha256] (d : Driver) : Action → Driver → Prop
  | quiet {action d'} (active : d'.activeOn = d.activeOn) (capture : d'.captureOn = d.captureOn)
      (turns : d'.turns = d.turns) (replays : d'.replays = d.replays) (mail : d'.mail = d.mail) :
      Move d action d'
  | opened {request answer sessionRef d'} (serving : d.serving = .opening request)
      (opens : openSession request answer d.shared = .ok (sessionRef, d'.shared))
      (active : d'.activeOn = Function.update d.activeOn sessionRef none)
      (capture : d'.captureOn = Function.update d.captureOn sessionRef none)
      (turns : d'.turns = d.turns) (replays : d'.replays = d.replays) (mail : d'.mail = d.mail) :
      Move d (.openAnswered answer) d'
  | closed {request d'} (closes : closeSession request d.shared = .ok d'.shared)
      (inactive : d.activeOn request.sessionRef = none)
      (active : d'.activeOn = d.activeOn)
      (capture : d'.captureOn = Function.update d.captureOn request.sessionRef none)
      (turns : d'.turns = d.turns) (replays : d'.replays = d.replays) (mail : d'.mail = d.mail) :
      Move d (.close request) d'
  | started {request result d'}
      (starts : AcpHost.startTurn request d.turns.length d.shared = .ok (result, d'.shared))
      (inactive : d.activeOn request.sessionRef = none)
      (active : d'.activeOn = Function.update d.activeOn request.sessionRef
        (some (.start request d.turns.length)))
      (capture : d'.captureOn = d.captureOn)
      (turns : d'.turns = d.turns ++ [⟨request.sessionRef, request.fence, .live⟩])
      (replays : d'.replays = d.replays) (mail : d'.mail = d.mail) :
      Move d (.startTurn request) d'
  | ignored {raw now d'}
      (ignores : ∀ sessionRef, raw.getStr "sessionId" = some sessionRef →
        raw.get "update" ≠ none → d.activeOn sessionRef = none ∧ d.captureOn sessionRef = none)
      (active : d'.activeOn = d.activeOn) (capture : d'.captureOn = d.captureOn)
      (turns : d'.turns = d.turns) (replays : d'.replays = d.replays.map (Replay.notice raw))
      (mail : d'.mail = d.mail) :
      Move d (.update raw now) d'
  | folded {raw now sessionRef update turn d'} (session : raw.getStr "sessionId" = some sessionRef)
      (carries : raw.get "update" = some update) (free : d.captureOn sessionRef = none)
      (turned : d.activeOn sessionRef = some turn)
      (active : d'.activeOn =
        Function.update d.activeOn sessionRef (some (foldUpdate turn update now).1))
      (capture : d'.captureOn = d.captureOn) (turns : d'.turns = d.turns)
      (replays : d'.replays = d.replays.map (Replay.notice raw))
      (mail : d'.mail = match (foldUpdate turn update now).2 with
        | .ok event =>
          d.mail.post ⟨.turn (foldUpdate turn update now).1.watch, .update, .turnEvent event⟩
        | .error _ => d.mail) :
      Move d (.update raw now) d'
  | captured {raw now sessionRef update taken d'} (session : raw.getStr "sessionId" = some sessionRef)
      (carries : raw.get "update" = some update) (capturing : d.captureOn sessionRef = some taken)
      (active : d'.activeOn = d.activeOn)
      (capture : d'.captureOn = Function.update d.captureOn sessionRef
        (some (captureTranscriptEntry taken sessionRef update now).1))
      (turns : d'.turns = d.turns) (replays : d'.replays = d.replays.map (Replay.notice raw))
      (mail : d'.mail = match (captureTranscriptEntry taken sessionRef update now).2 with
        | some entry => d.mail.post ⟨.replay
            (captureTranscriptEntry taken sessionRef update now).1.replay, .update,
            .transcriptEntry entry⟩
        | none => d.mail) :
      Move d (.update raw now) d'
  | asked {raw permissionId now sessionRef turn asked d'}
      (session : raw.getStr "sessionId" = some sessionRef)
      (asks : handlePermissionRequest raw permissionId d.requests.length now d.shared = .ok asked)
      (turned : d.activeOn sessionRef = some turn) (watch : asked.watch = turn.watch)
      (fence : asked.request.fence = turn.fence)
      (eventSeq : asked.request.eventSeq = turn.nextEventSeq)
      (identifier : asked.request.permissionId = permissionId)
      (active : d'.activeOn = Function.update d.activeOn sessionRef
        (some { turn with nextEventSeq := (turn.nextEventSeq + 1) % (u64Max + 1) }))
      (capture : d'.captureOn = d.captureOn) (turns : d'.turns = d.turns)
      (replays : d'.replays = d.replays)
      (mail : d'.mail = d.mail.post ⟨.turn asked.watch, .request d.requests.length,
        .permissionRequested asked.request⟩) :
      Move d (.permission raw permissionId now) d'
  | taken {number monitor outcome turn d'} (monitored : d.monitors[number]? = some monitor)
      (decided : monitor.stage = .decided outcome)
      (turned : d.activeOn monitor.sessionRef = some turn)
      (active : d'.activeOn = Function.update d.activeOn monitor.sessionRef none)
      (capture : d'.captureOn = d.captureOn)
      (turns : d'.turns = d.turnsAt number (.taken turn.watch (terminalOf turn outcome)))
      (replays : d'.replays = d.replays) (mail : d'.mail = d.mail) :
      Move d (.takeTurn number) d'
  | lost {number monitor outcome d'} (monitored : d.monitors[number]? = some monitor)
      (decided : monitor.stage = .decided outcome)
      (inactive : d.activeOn monitor.sessionRef = none)
      (active : d'.activeOn = d.activeOn) (capture : d'.captureOn = d.captureOn)
      (turns : d'.turns = d.turnsAt number .finished)
      (replays : d'.replays = d.replays) (mail : d'.mail = d.mail) :
      Move d (.takeTurn number) d'
  | offered {number turn watch terminal d'} (monitored : d.turns[number]? = some turn)
      (phase : turn.phase = .taken watch terminal)
      (active : d'.activeOn = d.activeOn) (capture : d'.captureOn = d.captureOn)
      (turns : d'.turns = d.turnsAt number .publishing)
      (replays : d'.replays = d.replays)
      (mail : d'.mail = d.mail.post ⟨.turn watch, .monitor number, .turnTerminal terminal⟩) :
      Move d (.withdraw number) d'
  | replayed {request d'} (inactive : d.activeOn request.sessionRef = none)
      (free : d.captureOn request.sessionRef = none)
      (active : d'.activeOn = d.activeOn)
      (capture : d'.captureOn = Function.update d.captureOn request.sessionRef
        (some (.start d.replays.length)))
      (turns : d'.turns = d.turns)
      (replays : d'.replays = d.replays ++ [⟨request.sessionRef, .loading, []⟩])
      (mail : d'.mail = d.mail) :
      Move d (.startTranscript request) d'
  | completed {number failure replay d'} (replaying : d.replays[number]? = some replay)
      (loading : replay.stage = .loading)
      (active : d'.activeOn = d.activeOn)
      (capture : d'.captureOn = Function.update d.captureOn replay.sessionRef none)
      (turns : d'.turns = d.turns)
      (replays : d'.replays = d.replays.set number { replay with stage := .publishing })
      (mail : d'.mail = d.mail.post ⟨.replay number, .replay number,
        .transcriptComplete (completeTranscript replay.sessionRef failure d.shared).1⟩) :
      Move d (.loaded number failure) d'
  | sent {index outbound d'} (waiting : d.mail.outbox[index]? = some outbound)
      (active : d'.activeOn = d.activeOn) (capture : d'.captureOn = d.captureOn)
      (turns : d'.turns = turnsSent outbound.sender d)
      (replays : d'.replays = replaysSent outbound.sender d.replays)
      (mail : d'.mail = d.mail.send index) :
      Move d (.send index) d'

/-! ## Steps are moves -/

section Views
variable {d d' : Driver} {sessionRef : String}

theorem activeOn_of_insert {session : SessionState} {active : Option ActiveTurn}
    (h : d'.shared.sessions = d.shared.sessions.insert sessionRef session)
    (hactive : session.active = active) :
    d'.activeOn = Function.update d.activeOn sessionRef active := by
  subst hactive
  funext other
  by_cases hother : other = sessionRef
  · subst hother
    simp [Driver.activeOn, h]
  · simp [Driver.activeOn, h, Function.update_of_ne hother, AList.lookup_insert_ne hother]

theorem captureOn_of_insert {session : SessionState} {capture : Option TranscriptCapture}
    (h : d'.shared.sessions = d.shared.sessions.insert sessionRef session)
    (hcapture : session.capturing = capture) :
    d'.captureOn = Function.update d.captureOn sessionRef capture := by
  subst hcapture
  funext other
  by_cases hother : other = sessionRef
  · subst hother
    simp [Driver.captureOn, h]
  · simp [Driver.captureOn, h, Function.update_of_ne hother, AList.lookup_insert_ne hother]

/-- The active turn of a session that stays as it was. -/
theorem activeOn_of_insert_same {session before : SessionState}
    (h : d'.shared.sessions = d.shared.sessions.insert sessionRef session)
    (hbefore : d.shared.sessions.lookup sessionRef = some before)
    (hsame : session.active = before.active) : d'.activeOn = d.activeOn := by
  have hactive : d.activeOn sessionRef = session.active := by simp [Driver.activeOn, hbefore, hsame]
  rw [activeOn_of_insert h rfl, ← hactive, Function.update_eq_self]

/-- The capture of a session that stays as it was. -/
theorem captureOn_of_insert_same {session before : SessionState}
    (h : d'.shared.sessions = d.shared.sessions.insert sessionRef session)
    (hbefore : d.shared.sessions.lookup sessionRef = some before)
    (hsame : session.capturing = before.capturing) : d'.captureOn = d.captureOn := by
  have hcapture : d.captureOn sessionRef = session.capturing := by
    simp [Driver.captureOn, hbefore, hsame]
  rw [captureOn_of_insert h rfl, ← hcapture, Function.update_eq_self]

theorem activeOn_congr (h : d'.shared.sessions = d.shared.sessions) : d'.activeOn = d.activeOn := by
  funext other
  simp [Driver.activeOn, h]

theorem captureOn_congr (h : d'.shared.sessions = d.shared.sessions) :
    d'.captureOn = d.captureOn := by
  funext other
  simp [Driver.captureOn, h]

/-- A step that leaves the sessions, the turns, the replays and the mail alone. -/
theorem Move.of_same [Sha256] {action : Action} (sessions : d'.shared.sessions = d.shared.sessions)
    (turns : d'.turns = d.turns) (replays : d'.replays = d.replays) (mail : d'.mail = d.mail) :
    Move d action d' :=
  .quiet (activeOn_congr sessions) (captureOn_congr sessions) turns replays mail

/-- A change of one element, seen through a map. -/
theorem map_modify {α β : Type} {f : α → β} {g : α → α} (g' : β → β)
    (h : ∀ a, f (g a) = g' (f a)) (l : List α) (n : Nat) : (l.modify n g).map f = (l.map f).modify n g' := by
  induction l generalizing n with
  | nil => simp
  | cons a l ih =>
    cases n with
    | zero => simp [h]
    | succ n => simp [ih]

/-- A change that a map does not see. -/
theorem map_modify_same {α β : Type} {f : α → β} {g : α → α} (h : ∀ a, f (g a) = f a)
    (l : List α) (n : Nat) : (l.modify n g).map f = l.map f := by
  rw [map_modify id h]
  exact List.modify_id n (l.map f)

/-- A change of one element, counted. -/
theorem countP_modify {α : Type} (p : α → Bool) (g : α → α) {l : List α} {n : Nat} {a : α}
    (h : l[n]? = some a) :
    (l.modify n g).countP p + (if p a then 1 else 0) = l.countP p + (if p (g a) then 1 else 0) := by
  induction l generalizing n with
  | nil => cases h
  | cons b l ih =>
    cases n with
    | zero =>
      cases h
      simp only [List.modify_zero_cons, List.countP_cons]
      omega
    | succ n =>
      have htail := ih h
      simp only [List.modify_succ_cons, List.countP_cons]
      omega

theorem turns_setStage (d : Driver) (number : Nat) (stage : MonitorStage) :
    (d.setStage number stage).turns = d.turnsAt number stage.phase := by
  apply map_modify
  intro monitor
  rfl

theorem turns_signal (d : Driver) (number : Nat) (reason : String) :
    (d.signal number reason).turns = d.turns := by
  apply map_modify_same
  intro monitor
  rfl

/-- Whatever wakes a monitor, its turn stays the same. -/
theorem Monitor.wake_turn (event : MonitorEvent) (dropped : Bool) (monitor : Monitor) :
    (monitor.wake event dropped).turn = monitor.turn := by
  obtain ⟨sessionRef, fence, cancellation, stage⟩ := monitor
  cases stage with
  | running =>
    cases event with
    | answered answer => rfl
    | deadline deadline => rfl
    | cancelled => cases cancellation <;> rfl
    | closed channel => cases dropped <;> rfl
    | drained answer => rfl
  | draining reason => cases event <;> rfl
  | _ => rfl

theorem length_turns (d : Driver) : d.turns.length = d.monitors.length := by
  simp [Driver.turns]

theorem getElem?_turns {number : Nat} {monitor : Monitor}
    (h : d.monitors[number]? = some monitor) : d.turns[number]? = some monitor.turn := by
  simp [Driver.turns, h]

end Views

section Steps
variable (d : Driver)

theorem move_openRequested [Sha256] [HttpSyntax] (profile : DriverProfile) (request : OpenSession) :
    Move d (.openRequested request) (d.openRequested profile request) := by
  unfold Driver.openRequested
  split
  · exact .of_same rfl rfl rfl rfl
  · exact .of_same rfl rfl rfl rfl

/-- An opened session has a fresh record. -/
theorem openSession_ok {request : OpenSession} {answer : Except String Value} {shared : SharedState}
    {sessionRef : String} {shared' : SharedState}
    (h : openSession request answer shared = .ok (sessionRef, shared')) :
    shared'.sessions = shared.sessions.insert sessionRef (.opened request) := by
  unfold openSession at h
  split at h
  · cases h
  · rename_i response
    cases hopened : openedSessionRef request response with
    | error error =>
      rw [hopened] at h
      cases h
    | ok opened =>
      simp only [hopened, bind, Except.bind] at h
      split at h
      · split at h
        · cases h
          rfl
        · cases h
      · cases h
        rfl

theorem move_openAnswered [Sha256] (answer : Except String Value) :
    Move d (.openAnswered answer) (d.openAnswered answer) := by
  unfold Driver.openAnswered
  split
  · rename_i request hserving
    split
    · rename_i sessionRef shared hopen
      have hsessions := openSession_ok hopen
      exact .opened hserving hopen (activeOn_of_insert hsessions rfl)
        (captureOn_of_insert hsessions rfl) rfl rfl rfl
    · exact .of_same rfl rfl rfl rfl
  · exact .of_same rfl rfl rfl rfl

/-- A turn starts on a session without one. -/
theorem startTurn_ok {request : StartTurn} {watch : Nat} {shared shared' : SharedState}
    {result : StartTurnResult} (h : AcpHost.startTurn request watch shared = .ok (result, shared')) :
    ∃ session, shared.sessions.lookup request.sessionRef = some session ∧ session.active = none ∧
      0 < request.policy.maxCapturedOutputBytes ∧
      request.policy.maxCapturedOutputBytes ≤ maxCaptureBytes ∧
      shared'.sessions = shared.sessions.insert request.sessionRef
        { session with active := some (.start request watch) } := by
  unfold AcpHost.startTurn at h
  split at h
  · cases h
  · rename_i hbounds
    split at h
    · cases h
    · split at h
      · cases h
      · rename_i session hlookup
        split at h
        · cases h
        · rename_i hactive
          split at h
          · cases h
          · cases h
            rw [not_or] at hbounds
            exact ⟨session, hlookup, by simpa using hactive, Nat.pos_of_ne_zero hbounds.1,
              Nat.le_of_not_lt hbounds.2, rfl⟩

theorem move_startTurn [Sha256] (request : StartTurn) :
    Move d (.startTurn request) (d.startTurn request) := by
  unfold Driver.startTurn
  split
  · rename_i result shared _ hstart
    obtain ⟨session, hlookup, hinactive, _, _, hsessions⟩ := startTurn_ok hstart
    rw [← length_turns] at hstart hsessions
    refine .started hstart (by simp [Driver.activeOn, hlookup, hinactive])
      (activeOn_of_insert hsessions rfl) (captureOn_of_insert_same hsessions hlookup rfl) ?_ rfl rfl
    simp [Driver.turns, Monitor.turn, MonitorStage.phase]
  · exact .of_same rfl rfl rfl rfl

/-- A replay starts on a session without a turn and without a replay. -/
theorem startTranscript_ok {adoption : AdoptionMethods} {request : StartTranscript} {replay : Nat}
    {shared shared' : SharedState}
    (h : AcpHost.startTranscript adoption request replay shared = .ok shared') :
    ∃ session, shared.sessions.lookup request.sessionRef = some session ∧ session.active = none ∧
      session.capturing = none ∧
      shared'.sessions = shared.sessions.insert request.sessionRef
        { session with capturing := some (.start replay) } := by
  unfold AcpHost.startTranscript at h
  split at h
  · cases h
  · split at h
    · cases h
    · rename_i session hlookup
      split at h
      · cases h
      · split at h
        · cases h
        · rename_i hactive
          split at h
          · cases h
          · rename_i hcapturing
            cases h
            exact ⟨session, hlookup, by simpa using hactive, by simpa using hcapturing, rfl⟩

theorem move_startTranscript [Sha256] (profile : DriverProfile) (request : StartTranscript) :
    Move d (.startTranscript request) (d.startTranscript profile request) := by
  unfold Driver.startTranscript
  split
  · rename_i shared _ hstart
    obtain ⟨session, hlookup, hinactive, hfree, hsessions⟩ := startTranscript_ok hstart
    exact .replayed (by simp [Driver.activeOn, hlookup, hinactive])
      (by simp [Driver.captureOn, hlookup, hfree]) (activeOn_of_insert_same hsessions hlookup rfl)
      (captureOn_of_insert hsessions rfl) rfl rfl rfl
  · exact .of_same rfl rfl rfl rfl

/-- A session without a turn is closed. -/
theorem closeSession_ok {request : CloseSession} {shared shared' : SharedState}
    (h : closeSession request shared = .ok shared') :
    ∃ session, shared.sessions.lookup request.sessionRef = some session ∧ session.active = none ∧
      shared'.sessions = shared.sessions.erase request.sessionRef := by
  unfold closeSession at h
  split at h
  · cases h
  · rename_i session hlookup
    split at h
    · cases h
    · rename_i hactive
      split at h
      · cases h
      · cases h
        exact ⟨session, hlookup, by simpa using hactive, rfl⟩

theorem move_close [Sha256] (request : CloseSession) : Move d (.close request) (d.close request) := by
  unfold Driver.close
  split
  · rename_i shared _ hclose
    obtain ⟨session, hlookup, hinactive, hsessions⟩ := closeSession_ok hclose
    have hnone : d.activeOn request.sessionRef = none := by
      simp [Driver.activeOn, hlookup, hinactive]
    refine .closed hclose hnone ?_ ?_ rfl rfl rfl
    · funext other
      by_cases hother : other = request.sessionRef
      · rw [hother, hnone]
        simp [Driver.activeOn, hsessions]
      · simp [Driver.activeOn, hsessions, AList.lookup_erase_ne hother]
    · funext other
      by_cases hother : other = request.sessionRef
      · rw [hother, Function.update_self]
        simp [Driver.captureOn, hsessions]
      · simp [Driver.captureOn, hsessions, Function.update_of_ne hother,
          AList.lookup_erase_ne hother]
  · exact .of_same rfl rfl rfl rfl

theorem move_cancel [Sha256] (request : CancelTurn) :
    Move d (.cancel request) (d.cancel request) := by
  unfold Driver.cancel
  split
  · exact .of_same rfl rfl rfl rfl
  · exact .of_same rfl rfl rfl rfl

/-- Permissions are apart from sessions. -/
theorem takePermissions_sessions (permissionIds : List String) (shared : SharedState) :
    (takePermissions permissionIds shared).2.sessions = shared.sessions := by
  unfold takePermissions
  generalize ([] : List PendingPermission) = taken
  induction permissionIds generalizing taken shared with
  | nil => rfl
  | cons permissionId rest ih =>
    rw [List.foldl_cons]
    exact (ih _ _).trans rfl

theorem move_cancelGoesOn [Sha256] : Move d .cancelGoesOn d.cancelGoesOn := by
  unfold Driver.cancelGoesOn
  split
  · exact .of_same (takePermissions_sessions _ _) rfl rfl rfl
  · exact .of_same rfl rfl rfl rfl
  · split
    · exact .of_same rfl (turns_signal _ _ _) rfl rfl
    · exact .of_same rfl rfl rfl rfl
  · exact .of_same rfl rfl rfl rfl

theorem move_stop [Sha256] : Move d .stop d.stop := by
  unfold Driver.stop
  split
  · exact .of_same rfl rfl rfl rfl
  · exact .of_same rfl rfl rfl rfl

theorem move_stopGoesOn [Sha256] : Move d .stopGoesOn d.stopGoesOn := by
  unfold Driver.stopGoesOn
  split
  · exact .of_same rfl rfl rfl rfl
  · exact .of_same rfl rfl rfl rfl
  · exact .of_same rfl rfl rfl rfl

theorem move_resolve [Sha256] (resolution : PermissionResolution) :
    Move d (.resolve resolution) (d.resolve resolution) := by
  unfold Driver.resolve
  split
  · rename_i pending shared htake
    have hshared : shared = (takePermission resolution.permissionId d.shared).2 := by rw [htake]
    exact .of_same (by rw [hshared]; rfl) rfl rfl rfl
  · exact .of_same rfl rfl rfl rfl

theorem move_resolveGoesOn [Sha256] (index : Nat) :
    Move d (.resolveGoesOn index) (d.resolveGoesOn index) := by
  unfold Driver.resolveGoesOn
  split
  · dsimp only
    split
    · exact .of_same rfl rfl rfl rfl
    · exact .of_same rfl rfl rfl rfl
  · exact .of_same rfl rfl rfl rfl

/-- What an update changes beside the sessions. -/
theorem update_fields [Sha256] (raw : Value) (now : Int) :
    (d.update raw now).shared = (handleSessionUpdate raw now d.shared).shared ∧
      (d.update raw now).turns = d.turns ∧
      (d.update raw now).replays = d.replays.map (Replay.notice raw) ∧
      (d.update raw now).mail = match (handleSessionUpdate raw now d.shared).posted with
        | some outbound => d.mail.post outbound
        | none => d.mail := by
  unfold Driver.update
  generalize handleSessionUpdate raw now d.shared = handled
  obtain ⟨shared, posted, cancellation, result⟩ := handled
  cases cancellation with
  | none => cases posted <;> exact ⟨rfl, rfl, rfl, rfl⟩
  | some told => cases posted <;> exact ⟨rfl, turns_signal _ _ _, rfl, rfl⟩

/-- An update that is not about any session, or about one that expects none. -/
theorem move_update_unchanged [Sha256] {raw : Value} {now : Int} {result : Except DriverError Unit}
    (h : handleSessionUpdate raw now d.shared = .unchanged d.shared result)
    (hignores : ∀ sessionRef, raw.getStr "sessionId" = some sessionRef →
      raw.get "update" ≠ none → d.activeOn sessionRef = none ∧ d.captureOn sessionRef = none) :
    Move d (.update raw now) (d.update raw now) := by
  unfold Driver.update
  rw [h]
  exact .ignored hignores rfl rfl rfl rfl rfl

theorem move_update [Sha256] (raw : Value) (now : Int) :
    Move d (.update raw now) (d.update raw now) := by
  cases hsession : raw.getStr "sessionId" with
  | none =>
    refine move_update_unchanged d (by simp [handleSessionUpdate, hsession]; rfl) ?_
    intro sessionRef hsome
    rw [hsession] at hsome
    cases hsome
  | some sessionRef =>
    cases hupdate : raw.get "update" with
    | none =>
      refine move_update_unchanged d (by simp [handleSessionUpdate, hsession, hupdate]; rfl) ?_
      intro _ _ hsome
      exact absurd hupdate hsome
    | some update =>
      cases hlookup : d.shared.sessions.lookup sessionRef with
      | none =>
        refine move_update_unchanged d
          (by simp [handleSessionUpdate, hsession, hupdate, hlookup]; rfl) ?_
        intro other hother _
        rw [hsession] at hother
        cases hother
        simp [Driver.activeOn, Driver.captureOn, hlookup]
      | some session =>
        cases hcapturing : session.capturing with
        | some capture =>
          obtain ⟨hshared, hturns, hreplays, hmail⟩ := update_fields d raw now
          simp only [handleSessionUpdate, hsession, hupdate, hlookup, hcapturing] at hshared hmail
          have hsessions := congrArg SharedState.sessions hshared
          refine .captured hsession hupdate (by simp [Driver.captureOn, hlookup, hcapturing])
            (activeOn_of_insert_same hsessions hlookup rfl) (captureOn_of_insert hsessions rfl)
            hturns hreplays ?_
          rw [hmail]
          cases (captureTranscriptEntry capture sessionRef update now).2 with
          | none => rfl
          | some entry => rfl
        | none =>
          cases hactive : session.active with
          | none =>
            refine move_update_unchanged d
              (by simp [handleSessionUpdate, hsession, hupdate, hlookup, hcapturing, hactive]; rfl) ?_
            intro other hother _
            rw [hsession] at hother
            cases hother
            simp [Driver.activeOn, Driver.captureOn, hlookup, hcapturing, hactive]
          | some turn =>
            obtain ⟨hshared, hturns, hreplays, hmail⟩ := update_fields d raw now
            simp only [handleSessionUpdate, hsession, hupdate, hlookup, hcapturing, hactive]
              at hshared hmail
            have hsessions := congrArg SharedState.sessions hshared
            refine .folded hsession hupdate (by simp [Driver.captureOn, hlookup, hcapturing])
              (by simp [Driver.activeOn, hlookup, hactive]) (activeOn_of_insert hsessions rfl)
              (captureOn_of_insert_same hsessions hlookup hcapturing.symm) hturns hreplays ?_
            rw [hmail]
            cases (foldUpdate turn update now).2 with
            | error error => rfl
            | ok event => rfl

theorem move_permission [Sha256] (raw : Value) (permissionId : String) (now : Int) :
    Move d (.permission raw permissionId now) (d.permission raw permissionId now) := by
  unfold Driver.permission
  split
  · rename_i asked hasked
    have hok := hasked
    unfold handlePermissionRequest at hok
    split at hok
    · cases hok
    · rename_i sessionRef hsession
      split at hok
      · cases hok
      · rename_i session hlookup
        split at hok
        · cases hok
        · rename_i turn hactive
          cases hok
          have hsessions : (d.shared.sessions.insert sessionRef { session with
              active := some { turn with nextEventSeq := (turn.nextEventSeq + 1) % (u64Max + 1) } }) =
              d.shared.sessions.insert sessionRef _ := rfl
          exact .asked hsession hasked (by simp [Driver.activeOn, hlookup, hactive]) rfl rfl rfl rfl
            (activeOn_of_insert hsessions rfl) (captureOn_of_insert_same hsessions hlookup rfl)
            rfl rfl rfl
  · exact .of_same rfl rfl rfl rfl

theorem move_permissionDecided [Sha256] (handler : Nat) :
    Move d (.permissionDecided handler) (d.permissionDecided handler) :=
  .of_same rfl rfl rfl rfl

theorem move_permissionRemoved [Sha256] (handler : Nat) :
    Move d (.permissionRemoved handler) (d.permissionRemoved handler) := by
  unfold Driver.permissionRemoved
  split
  · split
    · exact .of_same rfl rfl rfl rfl
    · exact .of_same rfl rfl rfl rfl
  · exact .of_same rfl rfl rfl rfl

theorem move_monitor [Sha256] (number : Nat) (event : MonitorEvent) :
    Move d (.monitor number event) (d.monitor number event) :=
  .of_same rfl (map_modify_same (Monitor.wake_turn event _) _ _) rfl rfl

theorem move_takeTurn [Sha256] (number : Nat) :
    Move d (.takeTurn number) (d.takeTurn number) := by
  unfold Driver.takeTurn
  split
  · rename_i monitor hmonitor
    split
    · rename_i outcome hdecided
      split
      · rename_i taken shared hemit
        unfold emitTerminal at hemit
        split at hemit
        · cases hemit
        · rename_i session hlookup
          split at hemit
          · cases hemit
          · rename_i turn hactive
            cases hemit
            have hsessions : d.shared.sessions.insert monitor.sessionRef
                { session with active := none } = d.shared.sessions.insert monitor.sessionRef _ := rfl
            exact .taken hmonitor hdecided (by simp [Driver.activeOn, hlookup, hactive])
              (activeOn_of_insert hsessions rfl) (captureOn_of_insert_same hsessions hlookup rfl)
              (turns_setStage _ _ _) rfl rfl
      · rename_i error hemit
        have hnone : d.activeOn monitor.sessionRef = none := by
          unfold emitTerminal at hemit
          split at hemit
          · rename_i hlookup
            simp [Driver.activeOn, hlookup]
          · rename_i session hlookup
            split at hemit
            · rename_i hactive
              simp [Driver.activeOn, hlookup, hactive]
            · cases hemit
        exact .lost hmonitor hdecided hnone rfl rfl (turns_setStage _ _ _) rfl rfl
    · exact .of_same rfl rfl rfl rfl
  · exact .of_same rfl rfl rfl rfl

/-- A turn that is set to the phase it is in. -/
theorem turnsAt_same {number : Nat} {turn : Turn} {phase : TurnPhase}
    (h : d.turns[number]? = some turn) (hphase : turn.phase = phase) :
    d.turnsAt number phase = d.turns := by
  subst hphase
  apply List.ext_getElem?
  intro other
  unfold Driver.turnsAt
  by_cases hother : number = other
  · subst hother
    simp [h]
  · simp [hother]

theorem move_withdraw [Sha256] (number : Nat) :
    Move d (.withdraw number) (d.withdraw number) := by
  unfold Driver.withdraw
  split
  · rename_i monitor hmonitor
    have hturn := getElem?_turns hmonitor
    split
    · rename_i pending taken hstage
      refine .of_same rfl ?_ rfl rfl
      have hphase : monitor.turn.phase = .taken taken.watch taken.terminal := by
        simp [Monitor.turn, hstage, MonitorStage.phase]
      exact (turns_setStage d number (.withdrawing none taken)).trans (turnsAt_same d hturn hphase)
    · rename_i watch terminal permissionId rest hstage
      refine .of_same rfl ?_ rfl rfl
      have hphase : monitor.turn.phase = .taken watch terminal := by
        simp [Monitor.turn, hstage, MonitorStage.phase]
      exact (turns_setStage _ number (.withdrawing _ ⟨watch, terminal, rest⟩)).trans
        (turnsAt_same d hturn hphase)
    · rename_i watch terminal hstage
      have hphase : monitor.turn.phase = .taken watch terminal := by
        simp [Monitor.turn, hstage, MonitorStage.phase]
      exact .offered hturn hphase rfl rfl (turns_setStage d number .publishing) rfl rfl
    · exact .of_same rfl rfl rfl rfl
  · exact .of_same rfl rfl rfl rfl

/-- The totals of a replay are taken from the session. -/
theorem completeTranscript_sessions (sessionRef : String) (failure : Option String) (d' : Driver)
    (h : d'.shared = (completeTranscript sessionRef failure d.shared).2) :
    d'.activeOn = d.activeOn ∧ d'.captureOn = Function.update d.captureOn sessionRef none := by
  unfold completeTranscript at h
  split at h
  · rename_i session hlookup
    split at h
    · have hsessions := congrArg SharedState.sessions h
      exact ⟨activeOn_of_insert_same hsessions hlookup rfl, captureOn_of_insert hsessions rfl⟩
    · rename_i hcapturing
      have hsessions := congrArg SharedState.sessions h
      have hnone : d.captureOn sessionRef = none := by simp [Driver.captureOn, hlookup, hcapturing]
      refine ⟨activeOn_congr hsessions, ?_⟩
      rw [captureOn_congr hsessions, ← hnone, Function.update_eq_self]
  · rename_i hlookup
    have hsessions := congrArg SharedState.sessions h
    have hnone : d.captureOn sessionRef = none := by simp [Driver.captureOn, hlookup]
    refine ⟨activeOn_congr hsessions, ?_⟩
    rw [captureOn_congr hsessions, ← hnone, Function.update_eq_self]

theorem move_loaded [Sha256] (number : Nat) (failure : Option String) :
    Move d (.loaded number failure) (d.loaded number failure) := by
  unfold Driver.loaded
  split
  · rename_i replay hreplay
    split
    · rename_i hloading
      obtain ⟨hactive, hcapture⟩ := completeTranscript_sessions d replay.sessionRef failure
        { d with shared := (completeTranscript replay.sessionRef failure d.shared).2 } rfl
      exact .completed hreplay hloading hactive hcapture rfl rfl rfl
    · exact .of_same rfl rfl rfl rfl
  · exact .of_same rfl rfl rfl rfl

theorem move_send [Sha256] (index : Nat) : Move d (.send index) (d.send index) := by
  unfold Driver.send
  split
  · rename_i outbound hwaiting
    obtain ⟨subject, sender, notification⟩ := outbound
    cases sender with
    | update => exact .sent hwaiting rfl rfl rfl rfl rfl
    | request handler => exact .sent hwaiting rfl rfl rfl rfl rfl
    | monitor number => exact .sent hwaiting rfl rfl (turns_setStage _ _ _) rfl rfl
    | replay number => exact .sent hwaiting rfl rfl rfl rfl rfl
  · exact .of_same rfl rfl rfl rfl

end Steps

/-- Every step of the driver is a move. -/
theorem step_move [Sha256] [HttpSyntax] (profile : DriverProfile) (action : Action) (d : Driver) :
    Move d action (step profile action d) := by
  cases action with
  | openRequested request => exact move_openRequested d profile request
  | openAnswered answer => exact move_openAnswered d answer
  | startTurn request => exact move_startTurn d request
  | startTranscript request => exact move_startTranscript d profile request
  | close request => exact move_close d request
  | cancel request => exact move_cancel d request
  | cancelGoesOn => exact move_cancelGoesOn d
  | stop => exact move_stop d
  | stopGoesOn => exact move_stopGoesOn d
  | resolve resolution => exact move_resolve d resolution
  | resolveGoesOn index => exact move_resolveGoesOn d index
  | update raw now => exact move_update d raw now
  | permission raw permissionId now => exact move_permission d raw permissionId now
  | permissionDecided handler => exact move_permissionDecided d handler
  | permissionRemoved handler => exact move_permissionRemoved d handler
  | monitor number event => exact move_monitor d number event
  | takeTurn number => exact move_takeTurn d number
  | withdraw number => exact move_withdraw d number
  | loaded number failure => exact move_loaded d number failure
  | send index => exact move_send d index

end Fleetd.AcpHost
