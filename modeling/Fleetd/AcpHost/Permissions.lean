import Fleetd.AcpHost.Driver

/-!
# What a step of the driver does to permissions

The driver seen from its permission requests: the table of pending permissions, the handlers that
wait for an answer, the resolutions that took a permission out, and the fences whose permissions are
being withdrawn. Every step is one of a few moves of this view.
-/

namespace Fleetd.AcpHost

open Harness Effects

/-! ## The view -/

/-- The permission that is pending under an identifier. -/
def Driver.pendingAt (d : Driver) (permissionId : String) : Option PendingPermission :=
  d.shared.permissions.lookup permissionId

/-- A fence whose permissions are withdrawn by a cancellation that has taken them out, or by the end
of a turn, with the identifiers that are still to be taken out. -/
inductive Withdraws (d : Driver) : ExecutionFence → List String → Prop
  | cancelled {request : CancelTurn} {sessionRef : String} {pending : List PendingPermission}
      (serving : d.serving = .answering request sessionRef pending) : Withdraws d request.fence []
  | taken {number : Nat} {monitor : Monitor} {held : Option PendingPermission} {taken : TakenTurn}
      (monitored : d.monitors[number]? = some monitor) (stage : monitor.stage = .withdrawing held taken) :
      Withdraws d taken.terminal.fence taken.permissionIds
  | posted {outbound : Outbound} {terminal : Harness.TurnTerminal}
      (waits : outbound ∈ d.mail.outbox) (last : outbound.notification = .turnTerminal terminal) :
      Withdraws d terminal.fence []

/-- A request whose notification waits in the outbox. -/
def RequestPosted (d : Driver) (handler : Nat) : Prop :=
  ∃ outbound ∈ d.mail.outbox, outbound.sender = .request handler

/-- What most steps leave alone: the resolutions under way, the fences whose permissions are
withdrawn, and the requests that wait to be sent. -/
structure PermissionFrame (d d' : Driver) : Prop where
  resolving : d'.resolving = d.resolving
  withdraws : ∀ fence permissionIds, Withdraws d' fence permissionIds → Withdraws d fence permissionIds
  posted : ∀ handler, RequestPosted d handler → RequestPosted d' handler

/-- The moves of the view. -/
inductive PermissionMove (d : Driver) : Action → Driver → Prop
  | quiet {action d'} (frame : PermissionFrame d d') (table : d'.pendingAt = d.pendingAt)
      (requests : d'.requests = d.requests) : PermissionMove d action d'
  | asked {raw permissionId now asked d'} (frame : PermissionFrame d d')
      (asks : handlePermissionRequest raw permissionId d.requests.length now d.shared = .ok asked)
      (table : d'.pendingAt = Function.update d.pendingAt permissionId
        (some ⟨asked.request.fence, d.requests.length⟩))
      (requests : d'.requests = d.requests ++ [⟨permissionId, none, .publishing⟩])
      (posted : RequestPosted d' d.requests.length) :
      PermissionMove d (.permission raw permissionId now) d'
  | presented {resolution pending d'} (found : d.pendingAt resolution.permissionId = some pending)
      (resolving : d'.resolving = d.resolving ++ [(resolution, pending)])
      (withdraws : ∀ fence permissionIds,
        Withdraws d' fence permissionIds → Withdraws d fence permissionIds)
      (mail : d'.mail = d.mail)
      (table : d'.pendingAt = Function.update d.pendingAt resolution.permissionId none)
      (requests : d'.requests = d.requests) : PermissionMove d (.resolve resolution) d'
  | resolved {index resolution pending d'} (goesOn : d.resolving[index]? = some (resolution, pending))
      (resolving : d'.resolving = d.resolving.eraseIdx index)
      (withdraws : ∀ fence permissionIds,
        Withdraws d' fence permissionIds → Withdraws d fence permissionIds)
      (mail : d'.mail = d.mail) (table : d'.pendingAt = d.pendingAt)
      (requests : d'.requests = if pending.fence = resolution.fence then
        d.requests.modify pending.response (RequestHandler.receive resolution.outcome)
        else d.requests) : PermissionMove d (.resolveGoesOn index) d'
  | withdrawn {action d'} (resolving : d'.resolving = d.resolving)
      (withdraws : ∀ fence permissionIds, Withdraws d' fence permissionIds →
        Withdraws d fence permissionIds ∨
        (∀ permissionId pending, d'.pendingAt permissionId = some pending → pending.fence = fence →
          permissionId ∈ permissionIds) ∨
        ∃ permissionId, Withdraws d fence (permissionId :: permissionIds) ∧
          d'.pendingAt permissionId = none)
      (posted : ∀ handler, RequestPosted d handler → RequestPosted d' handler)
      (table : ∀ permissionId pending, d'.pendingAt permissionId = some pending →
        d.pendingAt permissionId = some pending)
      (requests : d'.requests = d.requests) : PermissionMove d action d'
  | cancelled {action handler d'} (frame : PermissionFrame d d') (table : d'.pendingAt = d.pendingAt)
      (requests : d'.requests = d.requests.modify handler (RequestHandler.receive .cancelled)) :
      PermissionMove d action d'
  | decided {handler d'} (frame : PermissionFrame d d') (table : d'.pendingAt = d.pendingAt)
      (requests : d'.requests = d.requests.modify handler RequestHandler.decide) :
      PermissionMove d (.permissionDecided handler) d'
  | answered {handler request outcome d'} (frame : PermissionFrame d d')
      (found : d.requests[handler]? = some request) (stage : request.stage = .deciding outcome)
      (table : d'.pendingAt = Function.update d.pendingAt request.permissionId none)
      (requests : d'.requests = d.requests.set handler { request with stage := .responded outcome }) :
      PermissionMove d (.permissionRemoved handler) d'
  | published {index outbound handler d'} (waiting : d.mail.outbox[index]? = some outbound)
      (sender : outbound.sender = .request handler) (resolving : d'.resolving = d.resolving)
      (withdraws : ∀ fence permissionIds,
        Withdraws d' fence permissionIds → Withdraws d fence permissionIds)
      (posted : ∀ other, other ≠ handler → RequestPosted d other → RequestPosted d' other)
      (table : d'.pendingAt = d.pendingAt)
      (requests : d'.requests = d.requests.modify handler RequestHandler.published) :
      PermissionMove d (.send index) d'

/-! ## Frames -/

section Frames
variable {d d' : Driver}

/-- Fences whose permissions were withdrawn before, read off the parts of the driver. -/
theorem Withdraws.of_parts {fence : ExecutionFence} {permissionIds : List String}
    (h : Withdraws d' fence permissionIds)
    (serving : ∀ request sessionRef pending, d'.serving = .answering request sessionRef pending →
      ∃ before, d.serving = .answering request sessionRef before)
    (monitors : ∀ (number : Nat) (monitor : Monitor) held taken, d'.monitors[number]? = some monitor →
      monitor.stage = .withdrawing held taken → ∃ (before : Monitor) (held' : _),
        d.monitors[number]? = some before ∧ before.stage = .withdrawing held' taken)
    (terminals : ∀ outbound ∈ d'.mail.outbox, ∀ terminal,
      outbound.notification = .turnTerminal terminal → outbound ∈ d.mail.outbox) :
    Withdraws d fence permissionIds := by
  cases h with
  | cancelled hserving =>
    obtain ⟨before, hbefore⟩ := serving _ _ _ hserving
    exact .cancelled hbefore
  | taken hmonitored hstage =>
    obtain ⟨before, held', hbefore, hheld⟩ := monitors _ _ _ _ hmonitored hstage
    exact .taken hbefore hheld
  | posted hwaits hlast => exact .posted (terminals _ hwaits _ hlast) hlast

/-- A step that leaves serving, monitors and mail alone. -/
theorem Withdraws.congr {fence : ExecutionFence} {permissionIds : List String}
    (h : Withdraws d' fence permissionIds) (serving : d'.serving = d.serving)
    (monitors : d'.monitors = d.monitors) (mail : d'.mail = d.mail) :
    Withdraws d fence permissionIds := by
  refine h.of_parts (fun request sessionRef pending hserving => ⟨pending, serving ▸ hserving⟩) ?_ ?_
  · intro number monitor held taken hmonitor hstage
    exact ⟨monitor, held, monitors ▸ hmonitor, hstage⟩
  · intro outbound hmem terminal _
    exact mail ▸ hmem

theorem permissionFrame_congr (resolving : d'.resolving = d.resolving)
    (serving : d'.serving = d.serving) (monitors : d'.monitors = d.monitors)
    (mail : d'.mail = d.mail) : PermissionFrame d d' :=
  ⟨resolving, fun _ _ h => h.congr serving monitors mail, fun handler hposted => by
    rw [RequestPosted, mail]
    exact hposted⟩

theorem PermissionFrame.refl (d : Driver) : PermissionFrame d d := permissionFrame_congr rfl rfl rfl rfl

/-- A step that serves a command without a cancellation. -/
theorem permissionFrame_serving (resolving : d'.resolving = d.resolving)
    (serving : ∀ request sessionRef pending, d'.serving ≠ .answering request sessionRef pending)
    (monitors : d'.monitors = d.monitors) (mail : d'.mail = d.mail) : PermissionFrame d d' := by
  refine ⟨resolving, fun fence permissionIds h => ?_, fun handler hposted => ?_⟩
  · refine h.of_parts (fun request sessionRef pending hserving => absurd hserving (serving _ _ _)) ?_ ?_
    · intro number monitor held taken hmonitor hstage
      exact ⟨monitor, held, monitors ▸ hmonitor, hstage⟩
    · intro outbound hmem terminal _
      exact mail ▸ hmem
  · rw [RequestPosted, mail]
    exact hposted

/-- A step that posts something that is not the end of a turn. -/
theorem permissionFrame_post {outbound : Outbound} (resolving : d'.resolving = d.resolving)
    (serving : d'.serving = d.serving) (monitors : d'.monitors = d.monitors)
    (mail : d'.mail = d.mail.post outbound)
    (open_ : ∀ terminal, outbound.notification ≠ .turnTerminal terminal) : PermissionFrame d d' := by
  have houtbox : d'.mail.outbox = d.mail.outbox ++ [outbound] := by
    rw [mail]
    rfl
  refine ⟨resolving, fun fence permissionIds h => ?_, fun handler hposted => ?_⟩
  · refine h.of_parts (fun request sessionRef pending hserving => ⟨pending, serving ▸ hserving⟩) ?_ ?_
    · intro number monitor held taken hmonitor hstage
      exact ⟨monitor, held, monitors ▸ hmonitor, hstage⟩
    · intro other hmem terminal hterminal
      rw [houtbox] at hmem
      obtain hmem | hmem := List.mem_append.1 hmem
      · exact hmem
      · rw [List.mem_singleton.1 hmem] at hterminal
        exact absurd hterminal (open_ terminal)
  · obtain ⟨other, hmem, hsender⟩ := hposted
    exact ⟨other, houtbox ▸ List.mem_append_left _ hmem, hsender⟩

/-- A step that moves one monitor to a stage in which it withdraws nothing. -/
theorem permissionFrame_monitor {number : Nat} {f : Monitor → Monitor}
    (resolving : d'.resolving = d.resolving)
    (serving : ∀ request sessionRef pending, d'.serving = .answering request sessionRef pending →
      ∃ before, d.serving = .answering request sessionRef before)
    (monitors : d'.monitors = d.monitors.modify number f) (mail : d'.mail = d.mail)
    (stage : ∀ monitor held taken, d.monitors[number]? = some monitor →
      (f monitor).stage = .withdrawing held taken →
      ∃ held', monitor.stage = .withdrawing held' taken) : PermissionFrame d d' := by
  refine ⟨resolving, fun fence permissionIds h => ?_, fun handler hposted => ?_⟩
  · refine h.of_parts serving ?_ ?_
    · intro other monitor held taken hmonitor hstage
      rw [monitors, List.getElem?_modify] at hmonitor
      by_cases hother : number = other
      · subst hother
        obtain ⟨before, hbefore, rfl⟩ := Option.map_eq_some_iff.1 hmonitor
        rw [if_pos rfl] at hstage
        obtain ⟨held', hheld⟩ := stage before held taken hbefore hstage
        exact ⟨before, held', hbefore, hheld⟩
      · obtain ⟨before, hbefore, rfl⟩ := Option.map_eq_some_iff.1 hmonitor
        rw [if_neg hother] at hstage
        exact ⟨before, held, hbefore, hstage⟩
    · intro outbound hmem terminal _
      exact mail ▸ hmem
  · rw [RequestPosted, mail]
    exact hposted

/-- A step that goes on after another. -/
theorem PermissionFrame.trans {d'' : Driver} (h : PermissionFrame d d') (h' : PermissionFrame d' d'') :
    PermissionFrame d d'' :=
  ⟨h'.resolving.trans h.resolving, fun _ _ hw => h.withdraws _ _ (h'.withdraws _ _ hw),
    fun _ hposted => h'.posted _ (h.posted _ hposted)⟩

/-- What a monitor withdraws that was set to a stage. -/
theorem Withdraws.of_setStage {number : Nat} {stage : MonitorStage} {fence : ExecutionFence}
    {permissionIds : List String} (h : Withdraws (d.setStage number stage) fence permissionIds) :
    Withdraws d fence permissionIds ∨ ∃ held taken, stage = .withdrawing held taken ∧
      fence = taken.terminal.fence ∧ permissionIds = taken.permissionIds := by
  cases h with
  | cancelled hserving => exact .inl (.cancelled hserving)
  | posted hwaits hlast => exact .inl (.posted hwaits hlast)
  | taken hmonitored hstage =>
    rename_i other monitor held taken
    rw [Driver.setStage, List.getElem?_modify] at hmonitored
    obtain ⟨before, hbefore, rfl⟩ := Option.map_eq_some_iff.1 hmonitored
    by_cases hother : number = other
    · rw [if_pos hother] at hstage
      exact .inr ⟨held, taken, hstage, rfl, rfl⟩
    · rw [if_neg hother] at hstage
      exact .inl (.taken hbefore hstage)

/-- A sent notification is no longer in the outbox, and the others still are. -/
theorem mem_outbox_send {mail : Mailbox Outbound} {index : Nat} {outbound other : Outbound}
    (h : mail.outbox[index]? = some outbound) :
    (other ∈ (mail.send index).outbox → other ∈ mail.outbox) ∧
      (other ∈ mail.outbox → other ≠ outbound → other ∈ (mail.send index).outbox) := by
  obtain ⟨before, after, houtbox, -, hsend⟩ := Mailbox.send_of_some h
  rw [hsend, houtbox]
  simp only [List.mem_append, List.mem_cons]
  constructor
  · rintro (hmem | hmem)
    · exact .inl hmem
    · exact .inr (.inr hmem)
  · rintro (hmem | rfl | hmem) hne
    · exact .inl hmem
    · exact absurd rfl hne
    · exact .inr hmem

end Frames

/-! ## Operations on sessions keep the table -/

section Tables
variable {shared shared' : SharedState}

theorem openSession_permissions {request : OpenSession} {answer : Except String Serde.Value}
    {sessionRef : String} (h : openSession request answer shared = .ok (sessionRef, shared')) :
    shared'.permissions = shared.permissions := by
  unfold openSession at h
  split at h
  · cases h
  · rename_i response
    cases hopened : openedSessionRef request response with
    | error error =>
      rw [hopened] at h
      cases h
    | ok opened =>
      rw [hopened] at h
      simp only [bind, Except.bind] at h
      split at h
      · split at h
        · cases h
          rfl
        · cases h
      · cases h
        rfl

theorem startTurn_permissions {request : StartTurn} {watch : Nat} {result : StartTurnResult}
    (h : AcpHost.startTurn request watch shared = .ok (result, shared')) :
    shared'.permissions = shared.permissions := by
  unfold AcpHost.startTurn at h
  split at h
  · cases h
  · split at h
    · cases h
    · split at h
      · cases h
      · split at h
        · cases h
        · split at h
          · cases h
          · cases h
            rfl

theorem startTranscript_permissions {adoption : AdoptionMethods} {request : StartTranscript}
    {replay : Nat} (h : AcpHost.startTranscript adoption request replay shared = .ok shared') :
    shared'.permissions = shared.permissions := by
  unfold AcpHost.startTranscript at h
  split at h
  · cases h
  · split at h
    · cases h
    · split at h
      · cases h
      · split at h
        · cases h
        · split at h
          · cases h
          · cases h
            rfl

theorem closeSession_permissions {request : CloseSession}
    (h : closeSession request shared = .ok shared') : shared'.permissions = shared.permissions := by
  unfold closeSession at h
  split at h
  · cases h
  · split at h
    · cases h
    · split at h
      · cases h
      · cases h
        rfl

theorem completeTranscript_permissions (sessionRef : String) (failure : Option String)
    (shared : SharedState) :
    (completeTranscript sessionRef failure shared).2.permissions = shared.permissions := by
  unfold completeTranscript
  split
  · split <;> rfl
  · rfl

/-- An update changes no permission, and posts no end of a turn. -/
theorem handleSessionUpdate_permissions [Sha256] (raw : Serde.Value) (now : Int) (shared : SharedState) :
    (handleSessionUpdate raw now shared).shared.permissions = shared.permissions ∧
      ∀ outbound, (handleSessionUpdate raw now shared).posted = some outbound →
        ∀ terminal, outbound.notification ≠ .turnTerminal terminal := by
  unfold handleSessionUpdate UpdateHandled.unchanged
  split
  · exact ⟨rfl, fun _ h => by cases h⟩
  · split
    · exact ⟨rfl, fun _ h => by cases h⟩
    · split
      · exact ⟨rfl, fun _ h => by cases h⟩
      · split
        · refine ⟨rfl, fun outbound h terminal => ?_⟩
          obtain ⟨entry, _, rfl⟩ := Option.map_eq_some_iff.1 h
          exact fun heq => by cases heq
        · exact ⟨rfl, fun _ h => by cases h⟩
        · refine ⟨rfl, fun outbound h terminal => ?_⟩
          obtain ⟨event, _, rfl⟩ := Option.map_eq_some_iff.1 h
          exact fun heq => by cases heq

/-- Taking permissions out leaves those under other identifiers. -/
theorem lookup_takePermissions (permissionIds : List String) (shared : SharedState) (permissionId : String) :
    (takePermissions permissionIds shared).2.permissions.lookup permissionId =
      if permissionId ∈ permissionIds then none else shared.permissions.lookup permissionId := by
  unfold takePermissions
  generalize ([] : List PendingPermission) = taken
  induction permissionIds generalizing taken shared with
  | nil => rfl
  | cons first rest ih =>
    rw [List.foldl_cons]
    refine (ih _ _).trans ?_
    simp only [List.mem_cons]
    by_cases hrest : permissionId ∈ rest
    · simp [hrest]
    · by_cases hfirst : permissionId = first
      · subst hfirst
        simp [hrest]
      · simp [hrest, hfirst, AList.lookup_erase_ne hfirst]

/-- The identifiers of the permissions under a fence. -/
theorem mem_permissionsOf {fence : ExecutionFence} {permissionId : String} {pending : PendingPermission}
    (h : shared.permissions.lookup permissionId = some pending) (hfence : pending.fence = fence) :
    permissionId ∈ permissionsOf fence shared := by
  rw [permissionsOf, List.mem_map]
  refine ⟨⟨permissionId, pending⟩, List.mem_filter.2 ⟨?_, decide_eq_true hfence⟩, rfl⟩
  exact AList.mem_lookup_iff.1 h

end Tables

/-! ## Steps are moves -/

section Steps
variable (d : Driver)

theorem pendingAt_congr {d d' : Driver} (h : d'.shared.permissions = d.shared.permissions) :
    d'.pendingAt = d.pendingAt := by
  funext permissionId
  rw [Driver.pendingAt, Driver.pendingAt, h]

/-- A step that takes one permission out. -/
theorem pendingAt_erase {d d' : Driver} {permissionId : String}
    (h : d'.shared.permissions = d.shared.permissions.erase permissionId) :
    d'.pendingAt = Function.update d.pendingAt permissionId none := by
  funext other
  by_cases hother : other = permissionId
  · subst hother
    rw [Function.update_self, Driver.pendingAt, h, AList.lookup_erase]
  · rw [Function.update_of_ne hother, Driver.pendingAt, h, AList.lookup_erase_ne hother]
    rfl

/-- A step that changes none of it. -/
theorem PermissionMove.refl (action : Action) : PermissionMove d action d :=
  .quiet (.refl d) rfl rfl

theorem permissionMove_openRequested [HttpSyntax] (profile : DriverProfile) (request : OpenSession) :
    PermissionMove d (.openRequested request) (d.openRequested profile request) := by
  unfold Driver.openRequested
  split
  · exact .quiet (permissionFrame_serving rfl (fun _ _ _ h => by cases h) rfl rfl) rfl rfl
  · exact .refl d _

theorem permissionMove_openAnswered (answer : Except String Serde.Value) :
    PermissionMove d (.openAnswered answer) (d.openAnswered answer) := by
  unfold Driver.openAnswered
  split
  · split
    · rename_i shared hopen
      exact .quiet (permissionFrame_serving rfl (fun _ _ _ h => by cases h) rfl rfl)
        (pendingAt_congr (openSession_permissions hopen)) rfl
    · exact .quiet (permissionFrame_serving rfl (fun _ _ _ h => by cases h) rfl rfl) rfl rfl
  · exact .refl d _

theorem permissionMove_startTurn (request : StartTurn) :
    PermissionMove d (.startTurn request) (d.startTurn request) := by
  unfold Driver.startTurn
  split
  · rename_i result shared hserving hstart
    refine .quiet ⟨rfl, fun fence permissionIds h => ?_, fun handler hposted => hposted⟩
      (pendingAt_congr (startTurn_permissions hstart)) rfl
    refine h.of_parts (fun _ _ pending hserving => ⟨pending, hserving⟩) ?_ (fun _ hmem _ _ => hmem)
    intro number monitor held taken hmonitor hstage
    dsimp only at hmonitor
    rw [List.getElem?_append] at hmonitor
    split at hmonitor
    · exact ⟨monitor, held, hmonitor, hstage⟩
    · rw [List.getElem?_singleton] at hmonitor
      split at hmonitor
      · cases hmonitor
        cases hstage
      · cases hmonitor
  · exact .refl d _

theorem permissionMove_startTranscript (profile : DriverProfile) (request : StartTranscript) :
    PermissionMove d (.startTranscript request) (d.startTranscript profile request) := by
  unfold Driver.startTranscript
  split
  · rename_i shared hserving hstart
    exact .quiet (permissionFrame_congr rfl rfl rfl rfl)
      (pendingAt_congr (startTranscript_permissions hstart)) rfl
  · exact .refl d _

theorem permissionMove_close (request : CloseSession) :
    PermissionMove d (.close request) (d.close request) := by
  unfold Driver.close
  split
  · rename_i shared hserving hclose
    exact .quiet (permissionFrame_congr rfl rfl rfl rfl)
      (pendingAt_congr (closeSession_permissions hclose)) rfl
  · exact .refl d _

theorem permissionMove_cancel (request : CancelTurn) :
    PermissionMove d (.cancel request) (d.cancel request) := by
  unfold Driver.cancel
  split
  · exact .quiet (permissionFrame_serving rfl (fun _ _ _ h => by cases h) rfl rfl) rfl rfl
  · exact .refl d _

theorem permissionMove_cancelGoesOn : PermissionMove d .cancelGoesOn d.cancelGoesOn := by
  unfold Driver.cancelGoesOn
  split
  · rename_i request sessionRef hserving
    have hlookup := lookup_takePermissions (permissionsOf request.fence d.shared) d.shared
    refine .withdrawn rfl (fun fence permissionIds h => ?_) (fun handler hposted => hposted)
      (fun permissionId pending hpending => ?_) rfl
    · cases h with
      | cancelled hanswering =>
        cases hanswering
        refine .inr (.inl fun permissionId pending hpending hfence => ?_)
        have htaken := (hlookup permissionId).symm.trans hpending
        split at htaken
        · cases htaken
        · rename_i hmem
          exact absurd (mem_permissionsOf htaken hfence) hmem
      | taken hmonitored hstage => exact .inl (.taken hmonitored hstage)
      | posted hwaits hlast => exact .inl (.posted hwaits hlast)
    · have htaken := (hlookup permissionId).symm.trans hpending
      split at htaken
      · cases htaken
      · exact htaken
  · rename_i request sessionRef pending rest hserving
    refine @PermissionMove.cancelled _ _ pending.response _
      ⟨rfl, fun fence permissionIds h => ?_, fun handler hposted => hposted⟩ rfl rfl
    exact h.of_parts (fun other otherRef _ heq => by cases heq; exact ⟨_, hserving⟩)
      (fun number monitor held taken hmonitor hstage => ⟨monitor, held, hmonitor, hstage⟩)
      (fun _ hmem _ _ => hmem)
  · split
    · exact .quiet (permissionFrame_monitor rfl (fun _ _ _ h => by cases h) rfl rfl
        fun monitor held taken _ hstage => ⟨held, hstage⟩) rfl rfl
    · exact .quiet (permissionFrame_serving rfl (fun _ _ _ h => by cases h) rfl rfl) rfl rfl
  · exact .refl d _

theorem permissionMove_stop : PermissionMove d .stop d.stop := by
  unfold Driver.stop
  split
  · have hframe : PermissionFrame d { d with
        shared := { d.shared with permissions := ∅ }
        serving := .stopping (d.shared.permissions.entries.map (·.2)) } :=
      permissionFrame_serving rfl (fun _ _ _ h => by cases h) rfl rfl
    refine .withdrawn rfl (fun fence permissionIds h => .inl (hframe.withdraws _ _ h))
      (fun handler hposted => hposted) (fun permissionId pending hpending => ?_) rfl
    rw [Driver.pendingAt, AList.lookup_empty] at hpending
    cases hpending
  · exact .refl d _

theorem permissionMove_stopGoesOn : PermissionMove d .stopGoesOn d.stopGoesOn := by
  unfold Driver.stopGoesOn
  split
  · rename_i pending rest hserving
    exact @PermissionMove.cancelled _ _ pending.response _
      (permissionFrame_serving rfl (fun _ _ _ h => by cases h) rfl rfl) rfl rfl
  · exact .quiet (permissionFrame_serving rfl (fun _ _ _ h => by cases h) rfl rfl) rfl rfl
  · exact .refl d _

theorem permissionMove_resolve (resolution : PermissionResolution) :
    PermissionMove d (.resolve resolution) (d.resolve resolution) := by
  unfold Driver.resolve
  cases hfound : d.shared.permissions.lookup resolution.permissionId with
  | none =>
    rw [takePermission, hfound]
    exact .refl d _
  | some pending =>
    rw [takePermission, hfound]
    exact .presented hfound rfl (fun _ _ h => h.congr rfl rfl rfl) rfl (pendingAt_erase rfl) rfl

theorem permissionMove_resolveGoesOn (index : Nat) :
    PermissionMove d (.resolveGoesOn index) (d.resolveGoesOn index) := by
  unfold Driver.resolveGoesOn
  split
  · rename_i resolution pending hgoes
    dsimp only
    split
    · rename_i hfence
      exact .resolved hgoes rfl (fun _ _ h => h.congr rfl rfl rfl) rfl rfl (if_pos hfence).symm
    · rename_i hfence
      exact .resolved hgoes rfl (fun _ _ h => h.congr rfl rfl rfl) rfl rfl (if_neg hfence).symm
  · exact .refl d _

theorem permissionMove_update [Sha256] (raw : Serde.Value) (now : Int) :
    PermissionMove d (.update raw now) (d.update raw now) := by
  obtain ⟨htable, hopen⟩ := handleSessionUpdate_permissions raw now d.shared
  unfold Driver.update
  generalize handleSessionUpdate raw now d.shared = handled at htable hopen
  obtain ⟨shared, posted, cancellation, result⟩ := handled
  have hposted : PermissionFrame d (Driver.postAll posted.toList
      { d with shared, replays := d.replays.map (Replay.notice raw) }) := by
    cases posted with
    | none => exact permissionFrame_congr rfl rfl rfl rfl
    | some outbound => exact permissionFrame_post rfl rfl rfl rfl (hopen outbound rfl)
  cases cancellation with
  | none => exact .quiet hposted (pendingAt_congr htable) rfl
  | some told =>
    refine .quiet (hposted.trans (permissionFrame_monitor rfl (fun _ _ pending h => ⟨pending, h⟩) rfl
      rfl ?_)) (pendingAt_congr htable) rfl
    exact fun monitor held taken _ hstage => ⟨held, hstage⟩

theorem permissionMove_permission (raw : Serde.Value) (permissionId : String) (now : Int) :
    PermissionMove d (.permission raw permissionId now) (d.permission raw permissionId now) := by
  unfold Driver.permission
  split
  · rename_i asked hasked
    refine .asked (permissionFrame_post rfl rfl rfl rfl (fun _ h => by cases h)) hasked ?_ rfl
      ⟨_, List.mem_append_right _ List.mem_cons_self, rfl⟩
    unfold handlePermissionRequest at hasked
    split at hasked
    · cases hasked
    · split at hasked
      · cases hasked
      · split at hasked
        · cases hasked
        · cases hasked
          funext other
          by_cases hother : other = permissionId
          · subst hother
            rw [Function.update_self]
            exact AList.lookup_insert _
          · rw [Function.update_of_ne hother]
            exact AList.lookup_insert_ne hother
  · exact .refl d _

theorem permissionMove_permissionDecided (handler : Nat) :
    PermissionMove d (.permissionDecided handler) (d.permissionDecided handler) :=
  .decided (permissionFrame_congr rfl rfl rfl rfl) rfl rfl

theorem permissionMove_permissionRemoved (handler : Nat) :
    PermissionMove d (.permissionRemoved handler) (d.permissionRemoved handler) := by
  unfold Driver.permissionRemoved
  split
  · rename_i request hrequest
    split
    · rename_i outcome hstage
      exact .answered (permissionFrame_congr rfl rfl rfl rfl) hrequest hstage (pendingAt_erase rfl) rfl
    · exact .refl d _
  · exact .refl d _

theorem permissionMove_monitor (number : Nat) (event : MonitorEvent) :
    PermissionMove d (.monitor number event) (d.monitor number event) := by
  refine .quiet (permissionFrame_monitor rfl (fun _ _ pending h => ⟨pending, h⟩) rfl rfl ?_) rfl rfl
  intro monitor held taken _ hstage
  unfold Monitor.wake at hstage
  split at hstage
  · cases hstage
  · cases hstage
  · split at hstage
    · cases hstage
    · exact ⟨held, hstage⟩
  · split at hstage
    · cases hstage
    · exact ⟨held, hstage⟩
  · cases hstage
  · exact ⟨held, hstage⟩

theorem permissionMove_takeTurn [Sha256] (number : Nat) :
    PermissionMove d (.takeTurn number) (d.takeTurn number) := by
  unfold Driver.takeTurn
  split
  · rename_i monitor hmonitor
    split
    · rename_i outcome hdecided
      split
      · rename_i taken shared hemit
        unfold emitTerminal at hemit
        split at hemit
        · cases hemit
        · split at hemit
          · cases hemit
          · rename_i active hactive
            cases hemit
            refine .withdrawn rfl (fun fence permissionIds h => ?_) (fun handler hposted => hposted)
              (fun permissionId pending hpending => hpending) rfl
            obtain hbefore | ⟨held, taken, hstage, rfl, rfl⟩ := h.of_setStage
            · exact .inl (hbefore.congr rfl rfl rfl)
            · cases hstage
              exact .inr (.inl fun permissionId pending hpending hfence =>
                mem_permissionsOf hpending hfence)
      · exact .quiet (permissionFrame_monitor rfl (fun _ _ pending h => ⟨pending, h⟩) rfl rfl
          fun _ _ _ _ hstage => by cases hstage) rfl rfl
    · exact .refl d _
  · exact .refl d _

theorem permissionMove_withdraw (number : Nat) :
    PermissionMove d (.withdraw number) (d.withdraw number) := by
  unfold Driver.withdraw
  split
  · rename_i monitor hmonitor
    split
    · rename_i pending taken hstage
      refine @PermissionMove.cancelled _ _ pending.response _ (permissionFrame_monitor rfl
        (fun _ _ pending h => ⟨pending, h⟩) rfl rfl ?_) rfl rfl
      intro other held taken' hother hset
      rw [hmonitor] at hother
      cases hother
      cases hset
      exact ⟨some pending, hstage⟩
    · rename_i watch terminal permissionId rest hstage
      refine .withdrawn rfl (fun fence permissionIds h => ?_) (fun handler hposted => hposted)
        (fun other pending hpending => ?_) rfl
      · obtain hbefore | ⟨held, taken, hset, rfl, rfl⟩ := h.of_setStage
        · exact .inl (hbefore.congr rfl rfl rfl)
        · cases hset
          exact .inr (.inr ⟨permissionId, .taken hmonitor hstage, AList.lookup_erase _ _⟩)
      · by_cases hother : other = permissionId
        · subst hother
          have hnone := (AList.lookup_erase other d.shared.permissions).symm.trans hpending
          cases hnone
        · exact (AList.lookup_erase_ne hother).symm.trans hpending
    · rename_i watch terminal hstage
      refine .quiet ⟨rfl, fun fence permissionIds h => ?_, fun handler hposted => ?_⟩ rfl rfl
      · cases h with
        | cancelled hserving => exact .cancelled hserving
        | taken hmonitored hset =>
          obtain hbefore | ⟨_, _, hset', _, _⟩ :=
            (Withdraws.taken (d := d.setStage number .publishing) hmonitored hset).of_setStage
          · exact hbefore
          · cases hset'
        | posted hwaits hlast =>
          obtain hmem | hmem := List.mem_append.1 hwaits
          · exact .posted hmem hlast
          · rw [List.mem_singleton.1 hmem] at hlast
            cases hlast
            exact .taken hmonitor hstage
      · obtain ⟨outbound, hmem, hsender⟩ := hposted
        exact ⟨outbound, List.mem_append_left _ hmem, hsender⟩
    · exact .refl d _
  · exact .refl d _

theorem permissionMove_loaded (number : Nat) (failure : Option String) :
    PermissionMove d (.loaded number failure) (d.loaded number failure) := by
  unfold Driver.loaded
  split
  · rename_i replay hreplay
    split
    · exact .quiet (permissionFrame_post rfl rfl rfl rfl (fun _ h => by cases h))
        (pendingAt_congr (completeTranscript_permissions replay.sessionRef failure d.shared)) rfl
    · exact .refl d _
  · exact .refl d _

theorem permissionMove_send (index : Nat) : PermissionMove d (.send index) (d.send index) := by
  unfold Driver.send
  split
  · rename_i outbound hwaiting
    have hkept : ∀ d' : Driver, d'.resolving = d.resolving → d'.serving = d.serving →
        d'.mail = d.mail.send index →
        (∀ (number : Nat) (monitor : Monitor) held taken, d'.monitors[number]? = some monitor →
          monitor.stage = .withdrawing held taken → ∃ (before : Monitor) (held' : _),
            d.monitors[number]? = some before ∧ before.stage = .withdrawing held' taken) →
        (∀ fence permissionIds, Withdraws d' fence permissionIds → Withdraws d fence permissionIds) ∧
        ∀ handler, outbound.sender ≠ .request handler → RequestPosted d handler →
          RequestPosted d' handler := by
      intro d' _ hserving hmail hmonitors
      refine ⟨fun fence permissionIds h => ?_, fun handler hother hposted => ?_⟩
      · refine h.of_parts (fun _ _ pending h => ⟨pending, hserving ▸ h⟩) hmonitors ?_
        intro other hmem _ _
        rw [hmail] at hmem
        exact (mem_outbox_send hwaiting).1 hmem
      · obtain ⟨other, hmem, hsender⟩ := hposted
        refine ⟨other, ?_, hsender⟩
        rw [hmail]
        refine (mem_outbox_send hwaiting).2 hmem ?_
        rintro rfl
        exact hother hsender
    have hsame : ∀ (number : Nat) (monitor : Monitor) held taken, d.monitors[number]? = some monitor →
        monitor.stage = .withdrawing held taken → ∃ (before : Monitor) (held' : _),
          d.monitors[number]? = some before ∧ before.stage = .withdrawing held' taken :=
      fun _ monitor held _ hmonitor hstage => ⟨monitor, held, hmonitor, hstage⟩
    obtain ⟨subject, sender, notification⟩ := outbound
    cases sender with
    | update =>
      obtain ⟨hwithdraws, hposted⟩ := hkept { d with mail := d.mail.send index } rfl rfl rfl hsame
      exact .quiet ⟨rfl, hwithdraws, fun handler => hposted handler (fun h => by cases h)⟩ rfl rfl
    | request handler =>
      obtain ⟨hwithdraws, hposted⟩ := hkept { d with
        requests := d.requests.modify handler RequestHandler.published
        mail := d.mail.send index } rfl rfl rfl hsame
      refine .published hwaiting rfl rfl hwithdraws (fun other hother => hposted other ?_) rfl rfl
      intro heq
      injection heq with heq
      exact hother heq.symm
    | monitor number =>
      have hfinished : ∀ (other : Nat) (monitor : Monitor) held taken,
          (Driver.setStage number .finished d).monitors[other]? = some monitor →
          monitor.stage = .withdrawing held taken → ∃ (before : Monitor) (held' : _),
            d.monitors[other]? = some before ∧ before.stage = .withdrawing held' taken := by
        intro other monitor held taken hmonitor hstage
        rw [Driver.setStage, List.getElem?_modify] at hmonitor
        obtain ⟨before, hbefore, rfl⟩ := Option.map_eq_some_iff.1 hmonitor
        split at hstage
        · cases hstage
        · exact ⟨before, held, hbefore, hstage⟩
      obtain ⟨hwithdraws, hposted⟩ := hkept
        (Driver.setStage number .finished { d with mail := d.mail.send index }) rfl rfl rfl hfinished
      exact .quiet ⟨rfl, hwithdraws, fun handler => hposted handler (fun h => by cases h)⟩ rfl rfl
    | replay number =>
      obtain ⟨hwithdraws, hposted⟩ := hkept { d with
        replays := d.replays.modify number fun replay => { replay with stage := .finished }
        mail := d.mail.send index } rfl rfl rfl hsame
      exact .quiet ⟨rfl, hwithdraws, fun handler => hposted handler (fun h => by cases h)⟩ rfl rfl
  · exact .refl d _

end Steps

/-- Every step of the driver is a move of permissions. -/
theorem step_permissionMove [Sha256] [HttpSyntax] (profile : DriverProfile) (action : Action) (d : Driver) :
    PermissionMove d action (step profile action d) := by
  cases action with
  | openRequested request => exact permissionMove_openRequested d profile request
  | openAnswered answer => exact permissionMove_openAnswered d answer
  | startTurn request => exact permissionMove_startTurn d request
  | startTranscript request => exact permissionMove_startTranscript d profile request
  | close request => exact permissionMove_close d request
  | cancel request => exact permissionMove_cancel d request
  | cancelGoesOn => exact permissionMove_cancelGoesOn d
  | stop => exact permissionMove_stop d
  | stopGoesOn => exact permissionMove_stopGoesOn d
  | resolve resolution => exact permissionMove_resolve d resolution
  | resolveGoesOn index => exact permissionMove_resolveGoesOn d index
  | update raw now => exact permissionMove_update d raw now
  | permission raw permissionId now => exact permissionMove_permission d raw permissionId now
  | permissionDecided handler => exact permissionMove_permissionDecided d handler
  | permissionRemoved handler => exact permissionMove_permissionRemoved d handler
  | monitor number event => exact permissionMove_monitor d number event
  | takeTurn number => exact permissionMove_takeTurn d number
  | withdraw number => exact permissionMove_withdraw d number
  | loaded number failure => exact permissionMove_loaded d number failure
  | send index => exact permissionMove_send d index

end Fleetd.AcpHost
