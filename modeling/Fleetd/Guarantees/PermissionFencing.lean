import Fleetd.AcpHost.Permissions
import Fleetd.Effects.Tasks
import Fleetd.Guarantees.TurnTerminal

/-!
# Permission resolution

A permission request is answered with a selection only if a resolution arrived for it under its
fence while it was pending, and it is answered once. The end of a turn and a cancellation withdraw
what is pending under their fence. A resolution takes the pending permission out before it looks at
the fence, so one with a wrong fence loses it; and a request that is handled after a fence was
withdrawn, and before its end is known outside, is pending when it should not be.
-/

namespace Fleetd.AcpHost

open Serde (Value)
open Harness Effects Relational

/-! ## What goes in and out -/

/-- The resolutions that arrive for a pending permission, with the permission. -/
def presentedBy : Action → Driver → List (PermissionResolution × PendingPermission)
  | .resolve resolution, d =>
    ((d.pendingAt resolution.permissionId).map fun pending => (resolution, pending)).toList
  | _, _ => []

/-- The answers to permission requests that the runtime gets, by the handler of the request. -/
def answeredBy : Action → Driver → List (Nat × PermissionOutcome)
  | .permissionRemoved handler, d =>
    match d.requests[handler]? with
    | some request =>
      match request.stage with
      | .deciding outcome => [(handler, outcome)]
      | _ => []
    | none => []
  | _, _ => []

/-- A step after which a cancellation has returned, or the terminal frame of a turn is sent. -/
inductive EndsFence (d : Driver) : Action → ExecutionFence → Prop
  | cancelled {request : CancelTurn} {sessionRef : String}
      (serving : d.serving = .answering request sessionRef []) : EndsFence d .cancelGoesOn request.fence
  | sent {index : Nat} {outbound : Outbound} {terminal : Harness.TurnTerminal}
      (waiting : d.mail.outbox[index]? = some outbound)
      (last : outbound.notification = .turnTerminal terminal) : EndsFence d (.send index) terminal.fence

/-- A step that does not go wrong: a resolution for a pending permission has its fence, and no
request is handled under a fence whose permissions are being withdrawn. -/
def OrderlyPermissions : Action → Driver → Prop
  | .resolve resolution, d =>
    ∀ pending, d.pendingAt resolution.permissionId = some pending → pending.fence = resolution.fence
  | .permission raw permissionId now, d =>
    ∀ asked, handlePermissionRequest raw permissionId d.requests.length now d.shared = .ok asked →
      ∀ permissionIds, ¬ Withdraws d asked.request.fence permissionIds
  | _, _ => True

section
variable [Sha256] [HttpSyntax] (profile : DriverProfile)

/-- The resolutions that arrived for a pending permission along a run. -/
def presented (actions : List Action) : List (PermissionResolution × PendingPermission) :=
  outputsFrom (step profile) presentedBy .start actions

/-- The answers that the runtime got along a run. -/
def answers (actions : List Action) : List (Nat × PermissionOutcome) :=
  outputsFrom (step profile) answeredBy .start actions

/-- Permissions are resolved under their fence, and none is lost. -/
structure PermissionsFenced (actions : List Action) : Prop where
  /-- A selection answers a request only if a resolution with its identifier and its fence arrived
  while it was pending. -/
  selected : ∀ handler optionId, (handler, .selected optionId) ∈ answers profile actions →
    ∃ resolution, (resolution, ⟨resolution.fence, handler⟩) ∈ presented profile actions ∧
      resolution.outcome = .selected optionId ∧
      ((drive profile actions).requests.map (·.permissionId))[handler]? = some resolution.permissionId
  /-- No request is answered twice. -/
  once : ((answers profile actions).map (·.1)).Nodup
  /-- The handler of a request always comes to an answer by its own steps: its notification is sent,
  it stops to wait, and it removes what is left of the request. -/
  answerable : ∀ handler < (drive profile actions).requests.length, ∃ index,
    handler ∈ (answers profile (actions ++
      [.send index, .permissionDecided handler, .permissionRemoved handler])).map (·.1)
  /-- What is pending under a fence when its end is sent, or when its cancellation returns, is never
  answered with a selection. -/
  ended : ∀ before action after fence, actions = before ++ action :: after →
    EndsFence (drive profile before) action fence → ∀ permissionId pending,
    (drive profile before).pendingAt permissionId = some pending → pending.fence = fence →
    ∀ optionId, (pending.response, .selected optionId) ∉ answers profile actions
  /-- A resolution that is refused, for an unknown identifier or a wrong fence, leaves every pending
  permission pending. -/
  kept : ∀ before resolution after, actions = before ++ .resolve resolution :: after →
    (∀ pending, (drive profile before).pendingAt resolution.permissionId = some pending →
      pending.fence ≠ resolution.fence) →
    (drive profile (before ++ [.resolve resolution])).pendingAt = (drive profile before).pendingAt

end

/-! ## Handlers -/

section Handlers
variable {outcome other : PermissionOutcome} {request : RequestHandler}

/-- A handler has an outcome: on its channel, decided, or given to the runtime. -/
def RequestHandler.Holds (outcome : PermissionOutcome) (request : RequestHandler) : Prop :=
  request.answer = some outcome ∨ request.stage = .deciding outcome ∨
    request.stage = .responded outcome

@[simp] theorem RequestHandler.receive_permissionId :
    (request.receive outcome).permissionId = request.permissionId := by
  unfold RequestHandler.receive
  split <;> rfl

@[simp] theorem RequestHandler.published_permissionId :
    request.published.permissionId = request.permissionId := by
  unfold RequestHandler.published
  split <;> rfl

@[simp] theorem RequestHandler.decide_permissionId :
    request.decide.permissionId = request.permissionId := by
  unfold RequestHandler.decide
  split <;> rfl

/-- An answer on its channel does not move a handler. -/
@[simp] theorem RequestHandler.receive_stage : (request.receive outcome).stage = request.stage := by
  unfold RequestHandler.receive
  split <;> rfl

/-- Only a handler whose request is sent moves when its request is sent. -/
theorem RequestHandler.published_stage :
    request.published.stage = if request.stage = .publishing then .waiting else request.stage := by
  unfold RequestHandler.published
  split
  · rename_i hstage
    rw [if_pos hstage]
  · rename_i hstage
    rw [if_neg hstage]

theorem RequestHandler.Holds.of_receive (h : (request.receive outcome).Holds other) :
    request.Holds other ∨ other = outcome := by
  rw [RequestHandler.Holds, RequestHandler.receive_stage] at h
  obtain hanswer | hstage := h
  · unfold RequestHandler.receive at hanswer
    split at hanswer
    · exact .inr (Option.some.inj hanswer).symm
    · exact .inr (Option.some.inj hanswer).symm
    · exact .inl (.inl hanswer)
  · exact .inl (.inr hstage)

theorem RequestHandler.Holds.of_published (h : request.published.Holds other) : request.Holds other := by
  unfold RequestHandler.published at h
  split at h
  · obtain hanswer | hstage | hstage := h
    · exact .inl hanswer
    · cases hstage
    · cases hstage
  · exact h

theorem RequestHandler.Holds.of_decide (h : request.decide.Holds other) :
    request.Holds other ∨ other = .cancelled := by
  unfold RequestHandler.decide at h
  split at h
  · obtain hanswer | hstage | hstage := h
    · exact .inl (.inl hanswer)
    · injection hstage with hstage
      cases hanswer : request.answer with
      | none => exact .inr (by rw [← hstage, hanswer, Option.getD_none])
      | some answer =>
        rw [hanswer, Option.getD_some] at hstage
        exact .inl (.inl (hanswer.trans (congrArg some hstage)))
    · cases hstage
  · exact .inl h

/-- A handler that gives its outcome to the runtime holds no other than before. -/
theorem RequestHandler.Holds.of_responded (hstage : request.stage = .deciding outcome)
    (h : RequestHandler.Holds other { request with stage := .responded outcome }) :
    request.Holds other := by
  obtain hanswer | hother | hother := h
  · exact .inl hanswer
  · cases hother
  · injection hother with hother
    exact .inr (.inl (hother ▸ hstage))

end Handlers

/-! ## What moves do to handlers -/

/-- The identifiers of the requests, by their handlers. -/
def Driver.requestIds (d : Driver) : List String := d.requests.map (·.permissionId)

section Moves
variable {d d' : Driver} {action : Action} {handler : Nat}

/-- Requests keep their handlers. -/
theorem PermissionMove.requestIds (h : PermissionMove d action d') : d.requestIds <+: d'.requestIds := by
  have hsame : d'.requestIds = d.requestIds → d.requestIds <+: d'.requestIds :=
    fun heq => heq ▸ List.prefix_rfl
  cases h with
  | quiet _ _ hrequests => exact hsame (congrArg (List.map _) hrequests)
  | withdrawn _ _ _ _ hrequests => exact hsame (congrArg (List.map _) hrequests)
  | presented _ _ _ _ _ hrequests => exact hsame (congrArg (List.map _) hrequests)
  | asked _ _ _ hrequests =>
    rw [Driver.requestIds, Driver.requestIds, hrequests, List.map_append]
    exact List.prefix_append _ _
  | resolved _ _ _ _ _ hrequests =>
    apply hsame
    rw [Driver.requestIds, hrequests]
    split
    · exact tasks_map_modify fun _ => RequestHandler.receive_permissionId
    · rfl
  | cancelled _ _ hrequests =>
    apply hsame
    rw [Driver.requestIds, hrequests]
    exact tasks_map_modify fun _ => RequestHandler.receive_permissionId
  | decided _ _ hrequests =>
    apply hsame
    rw [Driver.requestIds, hrequests]
    exact tasks_map_modify fun _ => RequestHandler.decide_permissionId
  | published _ _ _ _ _ _ hrequests =>
    apply hsame
    rw [Driver.requestIds, hrequests]
    exact tasks_map_modify fun _ => RequestHandler.published_permissionId
  | answered _ hfound _ _ hrequests =>
    apply hsame
    rw [Driver.requestIds, hrequests]
    exact tasks_map_set hfound rfl

/-- What a handler holds was held before, or comes from a resolution with the right fence. -/
theorem PermissionMove.holds (h : PermissionMove d action d') {optionId : String}
    (hholds : TaskIs d'.requests handler (RequestHandler.Holds (.selected optionId))) :
    TaskIs d.requests handler (RequestHandler.Holds (.selected optionId)) ∨
      ∃ entry ∈ d.resolving, entry.2 = ⟨entry.1.fence, handler⟩ ∧
        entry.1.outcome = .selected optionId := by
  cases h with
  | quiet _ _ hrequests => exact .inl (hrequests ▸ hholds)
  | withdrawn _ _ _ _ hrequests => exact .inl (hrequests ▸ hholds)
  | presented _ _ _ _ _ hrequests => exact .inl (hrequests ▸ hholds)
  | asked _ _ _ hrequests =>
    rw [hrequests, taskIs_append] at hholds
    obtain hholds | ⟨-, hanswer | hstage | hstage⟩ := hholds
    · exact .inl hholds
    · cases hanswer
    · cases hstage
    · cases hstage
  | @resolved index resolution pending _ hgoes _ _ _ _ hrequests =>
    rw [hrequests] at hholds
    split at hholds
    · rename_i hfence
      obtain ⟨rfl, request, hrequest, hreceived⟩ | ⟨-, hholds⟩ := taskIs_modify.1 hholds
      · obtain hbefore | houtcome := hreceived.of_receive
        · exact .inl ⟨request, hrequest, hbefore⟩
        · exact .inr ⟨_, List.mem_of_getElem? hgoes, hfence ▸ rfl, houtcome.symm⟩
      · exact .inl hholds
    · exact .inl hholds
  | cancelled _ _ hrequests =>
    rw [hrequests] at hholds
    obtain ⟨-, request, hrequest, hreceived⟩ | ⟨-, hholds⟩ := taskIs_modify.1 hholds
    · obtain hbefore | houtcome := hreceived.of_receive
      · exact .inl ⟨request, hrequest, hbefore⟩
      · cases houtcome
    · exact .inl hholds
  | decided _ _ hrequests =>
    rw [hrequests] at hholds
    obtain ⟨-, request, hrequest, hdecided⟩ | ⟨-, hholds⟩ := taskIs_modify.1 hholds
    · obtain hbefore | houtcome := hdecided.of_decide
      · exact .inl ⟨request, hrequest, hbefore⟩
      · cases houtcome
    · exact .inl hholds
  | published _ _ _ _ _ _ hrequests =>
    rw [hrequests] at hholds
    obtain ⟨-, request, hrequest, hpublished⟩ | ⟨-, hholds⟩ := taskIs_modify.1 hholds
    · exact .inl ⟨request, hrequest, hpublished.of_published⟩
    · exact .inl hholds
  | @answered number request outcome _ _ hfound hstage _ hrequests =>
    rw [hrequests, taskIs_set hfound] at hholds
    obtain ⟨rfl, hholds⟩ | ⟨-, hholds⟩ := hholds
    · exact .inl ⟨request, hfound, hholds.of_responded hstage⟩
    · exact .inl hholds

/-- A handler that has answered the runtime did so before, or in this step. -/
theorem PermissionMove.responded (h : PermissionMove d action d') {outcome : PermissionOutcome}
    (silent : (∀ other result, TaskIs d.requests other (·.stage = .deciding result) →
      TaskIs d'.requests other (·.stage = .deciding result)) → answeredBy action d = []) :
    TaskIs d'.requests handler (·.stage = .responded outcome) ↔
      TaskIs d.requests handler (·.stage = .responded outcome) ∨
        (handler, outcome) ∈ answeredBy action d := by
  have hquiet : answeredBy action d = [] →
      (TaskIs d'.requests handler (·.stage = .responded outcome) ↔
        TaskIs d.requests handler (·.stage = .responded outcome)) →
      (TaskIs d'.requests handler (·.stage = .responded outcome) ↔
        TaskIs d.requests handler (·.stage = .responded outcome) ∨
          (handler, outcome) ∈ answeredBy action d) := by
    intro hnil hsame
    rw [hnil, hsame]
    exact (or_iff_left List.not_mem_nil).symm
  cases h with
  | quiet _ _ hrequests => exact hquiet (silent (hrequests ▸ fun _ _ => id)) (hrequests ▸ Iff.rfl)
  | withdrawn _ _ _ _ hrequests =>
    exact hquiet (silent (hrequests ▸ fun _ _ => id)) (hrequests ▸ Iff.rfl)
  | presented _ _ _ _ _ hrequests => exact hquiet rfl (hrequests ▸ Iff.rfl)
  | asked _ _ _ hrequests =>
    apply hquiet rfl
    rw [hrequests, taskIs_append]
    refine or_iff_left ?_
    rintro ⟨-, hstage⟩
    cases hstage
  | resolved _ _ _ _ _ hrequests =>
    apply hquiet rfl
    rw [hrequests]
    split
    · exact taskIs_modify_iff fun request => by rw [RequestHandler.receive_stage]
    · exact Iff.rfl
  | cancelled _ _ hrequests =>
    rw [hrequests] at silent
    apply hquiet
    · exact silent fun other result => (taskIs_modify_iff fun request => by
        rw [RequestHandler.receive_stage]).2
    · rw [hrequests]
      exact taskIs_modify_iff fun request => by rw [RequestHandler.receive_stage]
  | decided _ _ hrequests =>
    apply hquiet rfl
    rw [hrequests]
    refine taskIs_modify_iff fun request => ?_
    unfold RequestHandler.decide
    split
    · rename_i hwaiting
      rw [hwaiting]
      simp
    · exact Iff.rfl
  | published _ _ _ _ _ _ hrequests =>
    apply hquiet rfl
    rw [hrequests]
    refine taskIs_modify_iff fun request => ?_
    rw [RequestHandler.published_stage]
    split
    · rename_i hpublishing
      rw [hpublishing]
      simp
    · exact Iff.rfl
  | @answered number request result _ _ hfound hstage _ hrequests =>
    have hanswers : answeredBy (.permissionRemoved number) d = [(number, result)] := by
      simp only [answeredBy, hfound, hstage]
    rw [hrequests, taskIs_set hfound, hanswers, List.mem_singleton, Prod.mk.injEq,
      RequestStage.responded.injEq]
    by_cases hnumber : handler = number
    · subst hnumber
      have hnot : ¬ TaskIs d.requests handler (·.stage = .responded outcome) := by
        rintro ⟨other, hother, hresponded⟩
        rw [hfound] at hother
        cases hother
        rw [hstage] at hresponded
        cases hresponded
      simp [hnot, eq_comm]
    · simp [hnumber]

/-- The request of a handler that has not sent it is waiting to be sent. -/
theorem PermissionMove.publishing (h : PermissionMove d action d')
    (before : TaskIs d.requests handler (·.stage = .publishing) → RequestPosted d handler)
    (hpublishing : TaskIs d'.requests handler (·.stage = .publishing)) :
    RequestPosted d' handler := by
  cases h with
  | quiet hframe _ hrequests => exact hframe.posted _ (before (hrequests ▸ hpublishing))
  | withdrawn _ _ hposted _ hrequests => exact hposted _ (before (hrequests ▸ hpublishing))
  | presented _ _ _ hmail _ hrequests =>
    rw [RequestPosted, hmail]
    exact before (hrequests ▸ hpublishing)
  | asked hframe _ _ hrequests hposted =>
    rw [hrequests, taskIs_append] at hpublishing
    obtain hold | ⟨rfl, -⟩ := hpublishing
    · exact hframe.posted _ (before hold)
    · exact hposted
  | resolved _ _ _ hmail _ hrequests =>
    rw [RequestPosted, hmail]
    apply before
    rw [hrequests] at hpublishing
    split at hpublishing
    · exact (taskIs_modify_iff fun request => by rw [RequestHandler.receive_stage]).1 hpublishing
    · exact hpublishing
  | cancelled hframe _ hrequests =>
    apply hframe.posted
    apply before
    rw [hrequests] at hpublishing
    exact (taskIs_modify_iff fun request => by rw [RequestHandler.receive_stage]).1 hpublishing
  | decided hframe _ hrequests =>
    apply hframe.posted
    apply before
    rw [hrequests] at hpublishing
    refine (taskIs_modify_iff fun request => ?_).1 hpublishing
    unfold RequestHandler.decide
    split
    · rename_i hwaiting
      rw [hwaiting]
      simp
    · exact Iff.rfl
  | published _ _ _ _ hposted _ hrequests =>
    rw [hrequests] at hpublishing
    obtain ⟨-, request, -, hstage⟩ | ⟨hother, hpublishing⟩ := taskIs_modify.1 hpublishing
    · rw [RequestHandler.published_stage] at hstage
      split at hstage
      · cases hstage
      · rename_i hnot
        exact absurd hstage hnot
    · exact hposted _ (Ne.symm hother) (before hpublishing)
  | answered hframe hfound _ _ hrequests =>
    rw [hrequests, taskIs_set hfound] at hpublishing
    obtain ⟨-, hstage⟩ | ⟨-, hpublishing⟩ := hpublishing
    · cases hstage
    · exact hframe.posted _ (before hpublishing)

/-- What is pending after a move was pending before, or belongs to the request that was asked. -/
theorem PermissionMove.entries (h : PermissionMove d action d') {permissionId : String}
    {pending : PendingPermission} (hpending : d'.pendingAt permissionId = some pending) :
    d.pendingAt permissionId = some pending ∨ d'.requestIds[pending.response]? = some permissionId := by
  have herased : ∀ taken, d'.pendingAt = Function.update d.pendingAt taken none →
      d.pendingAt permissionId = some pending := by
    intro taken htable
    rw [htable] at hpending
    by_cases htaken : permissionId = taken
    · rw [htaken, Function.update_self] at hpending
      cases hpending
    · rwa [Function.update_of_ne htaken] at hpending
  cases h with
  | quiet _ htable _ => exact .inl (htable ▸ hpending)
  | withdrawn _ _ _ htable _ => exact .inl (htable _ _ hpending)
  | presented _ _ _ _ htable _ => exact .inl (herased _ htable)
  | resolved _ _ _ _ htable _ => exact .inl (htable ▸ hpending)
  | cancelled _ htable _ => exact .inl (htable ▸ hpending)
  | decided _ htable _ => exact .inl (htable ▸ hpending)
  | published _ _ _ _ _ htable _ => exact .inl (htable ▸ hpending)
  | answered _ _ _ htable _ => exact .inl (herased _ htable)
  | @asked raw asking now asked _ _ _ htable hrequests _ =>
    rw [htable] at hpending
    by_cases hasking : permissionId = asking
    · subst hasking
      rw [Function.update_self] at hpending
      cases hpending
      refine .inr ?_
      rw [Driver.requestIds, hrequests, List.map_append, List.getElem?_append_right]
      · simp
      · simp
    · rw [Function.update_of_ne hasking] at hpending
      exact .inl hpending

/-- What is pending under a fence that is withdrawn stays about to be taken out, as long as no
request is handled under such a fence. -/
theorem PermissionMove.withdrawn_entries (h : PermissionMove d action d')
    (horderly : OrderlyPermissions action d)
    (before : ∀ fence permissionIds, Withdraws d fence permissionIds → ∀ permissionId pending,
      d.pendingAt permissionId = some pending → pending.fence = fence → permissionId ∈ permissionIds)
    {fence : ExecutionFence} {permissionIds : List String} (hwithdraws : Withdraws d' fence permissionIds)
    {permissionId : String} {pending : PendingPermission}
    (hpending : d'.pendingAt permissionId = some pending) (hfence : pending.fence = fence) :
    permissionId ∈ permissionIds := by
  have hframed : PermissionFrame d d' → d'.pendingAt = d.pendingAt → permissionId ∈ permissionIds :=
    fun hframe htable => before _ _ (hframe.withdraws _ _ hwithdraws) _ _ (htable ▸ hpending) hfence
  have herased : ∀ taken, Withdraws d fence permissionIds →
      d'.pendingAt = Function.update d.pendingAt taken none → permissionId ∈ permissionIds := by
    intro taken hbefore htable
    rw [htable] at hpending
    by_cases htaken : permissionId = taken
    · rw [htaken, Function.update_self] at hpending
      cases hpending
    · rw [Function.update_of_ne htaken] at hpending
      exact before _ _ hbefore _ _ hpending hfence
  cases h with
  | quiet hframe htable _ => exact hframed hframe htable
  | cancelled hframe htable _ => exact hframed hframe htable
  | decided hframe htable _ => exact hframed hframe htable
  | presented _ _ hkept _ htable _ => exact herased _ (hkept _ _ hwithdraws) htable
  | answered hframe _ _ htable _ => exact herased _ (hframe.withdraws _ _ hwithdraws) htable
  | resolved _ _ hkept _ htable _ =>
    exact before _ _ (hkept _ _ hwithdraws) _ _ (htable ▸ hpending) hfence
  | published _ _ _ hkept _ htable _ =>
    exact before _ _ (hkept _ _ hwithdraws) _ _ (htable ▸ hpending) hfence
  | withdrawn _ hkept _ htable _ =>
    obtain hbefore | htaken | ⟨taken, hbefore, hgone⟩ := hkept _ _ hwithdraws
    · exact before _ _ hbefore _ _ (htable _ _ hpending) hfence
    · exact htaken _ _ hpending hfence
    · obtain rfl | hmem := List.mem_cons.1 (before _ _ hbefore _ _ (htable _ _ hpending) hfence)
      · rw [hgone] at hpending
        cases hpending
      · exact hmem
  | @asked raw asking now asked _ hframe hasks htable _ _ =>
    have hbefore := hframe.withdraws _ _ hwithdraws
    rw [htable] at hpending
    by_cases hasking : permissionId = asking
    · rw [hasking, Function.update_self] at hpending
      cases hpending
      exact absurd hbefore (hfence ▸ horderly asked hasks permissionIds)
    · rw [Function.update_of_ne hasking] at hpending
      exact before _ _ hbefore _ _ hpending hfence

end Moves

/-! ## The invariant -/

/-- What the driver, the resolutions presented and the answers given have to do with each other. -/
structure PermissionsHeld (d : Driver) (seen : List (PermissionResolution × PendingPermission))
    (replies : List (Nat × PermissionOutcome)) : Prop where
  /-- A pending permission is answered by the handler of its request. -/
  entries : ∀ permissionId pending, d.pendingAt permissionId = some pending →
    d.requestIds[pending.response]? = some permissionId
  /-- So is one that a resolution was presented for. -/
  presented : ∀ entry ∈ seen, d.requestIds[entry.2.response]? = some entry.1.permissionId
  resolving : ∀ entry ∈ d.resolving, entry ∈ seen
  selected : ∀ handler optionId,
    TaskIs d.requests handler (RequestHandler.Holds (.selected optionId)) →
    ∃ resolution : PermissionResolution, (resolution, ⟨resolution.fence, handler⟩) ∈ seen ∧
      resolution.outcome = .selected optionId
  responded : ∀ handler outcome, (handler, outcome) ∈ replies ↔
    TaskIs d.requests handler (·.stage = .responded outcome)
  once : (replies.map (·.1)).Nodup
  publishing : ∀ handler, TaskIs d.requests handler (·.stage = .publishing) →
    RequestPosted d handler
  /-- What is pending under a fence that is withdrawn is about to be taken out. -/
  withdrawn : ∀ fence permissionIds, Withdraws d fence permissionIds → ∀ permissionId pending,
    d.pendingAt permissionId = some pending → pending.fence = fence → permissionId ∈ permissionIds

section Steps
variable {d d' : Driver} {action : Action}

/-- The runtime gets at most one answer in a step, from a handler that has just decided it. -/
theorem answeredBy_cases (action : Action) (d : Driver) : answeredBy action d = [] ∨
    ∃ handler outcome, answeredBy action d = [(handler, outcome)] ∧
      action = .permissionRemoved handler ∧
      TaskIs d.requests handler (·.stage = .deciding outcome) := by
  cases action with
  | permissionRemoved handler =>
    simp only [answeredBy]
    split
    · rename_i request hrequest
      split
      · rename_i outcome hstage
        exact .inr ⟨handler, outcome, rfl, rfl, request, hrequest, hstage⟩
      · exact .inl rfl
    · exact .inl rfl
  | _ => exact .inl rfl

/-- What a step adds to the resolutions under way was presented in it. -/
theorem PermissionMove.resolving (h : PermissionMove d action d') :
    ∀ entry ∈ d'.resolving, entry ∈ d.resolving ∨ entry ∈ presentedBy action d := by
  intro entry hentry
  cases h with
  | quiet hframe _ _ => exact .inl (hframe.resolving ▸ hentry)
  | asked hframe _ _ _ _ => exact .inl (hframe.resolving ▸ hentry)
  | cancelled hframe _ _ => exact .inl (hframe.resolving ▸ hentry)
  | decided hframe _ _ => exact .inl (hframe.resolving ▸ hentry)
  | answered hframe _ _ _ _ => exact .inl (hframe.resolving ▸ hentry)
  | withdrawn hresolving _ _ _ _ => exact .inl (hresolving ▸ hentry)
  | published _ _ hresolving _ _ _ _ => exact .inl (hresolving ▸ hentry)
  | resolved _ hresolving _ _ _ _ =>
    rw [hresolving] at hentry
    exact .inl (List.mem_of_mem_eraseIdx hentry)
  | presented hfound hresolving _ _ _ _ =>
    rw [hresolving] at hentry
    obtain hold | hnew := List.mem_append.1 hentry
    · exact .inl hold
    · rw [presentedBy, hfound]
      exact .inr hnew

/-- A resolution is presented for what is pending under its identifier. -/
theorem pendingAt_of_mem_presentedBy {entry : PermissionResolution × PendingPermission}
    (h : entry ∈ presentedBy action d) : d.pendingAt entry.1.permissionId = some entry.2 := by
  cases action with
  | resolve resolution =>
    rw [presentedBy, Option.mem_toList, Option.map_eq_some_iff] at h
    obtain ⟨pending, hpending, rfl⟩ := h
    exact hpending
  | _ => cases h

/-- A move keeps the invariant, as long as no request is handled under a fence that is withdrawn. -/
theorem PermissionsHeld.next {seen : List (PermissionResolution × PendingPermission)}
    {replies : List (Nat × PermissionOutcome)} (h : PermissionsHeld d seen replies)
    (hmove : PermissionMove d action d') (horderly : OrderlyPermissions action d)
    (silent : (∀ other result, TaskIs d.requests other (·.stage = .deciding result) →
      TaskIs d'.requests other (·.stage = .deciding result)) → answeredBy action d = []) :
    PermissionsHeld d' (seen ++ presentedBy action d) (replies ++ answeredBy action d) := by
  constructor
  case entries =>
    intro permissionId pending hpending
    obtain hbefore | hnew := hmove.entries hpending
    · exact getElem?_of_earlier hmove.requestIds (h.entries _ _ hbefore)
    · exact hnew
  case presented =>
    intro entry hentry
    apply getElem?_of_earlier hmove.requestIds
    obtain hold | hnew := List.mem_append.1 hentry
    · exact h.presented entry hold
    · exact h.entries _ _ (pendingAt_of_mem_presentedBy hnew)
  case resolving =>
    intro entry hentry
    obtain hold | hnew := hmove.resolving entry hentry
    · exact List.mem_append_left _ (h.resolving entry hold)
    · exact List.mem_append_right _ hnew
  case selected =>
    intro handler optionId hholds
    obtain hbefore | ⟨⟨resolution, pending⟩, hentry, hpending, houtcome⟩ := hmove.holds hholds
    · obtain ⟨resolution, hseen, houtcome⟩ := h.selected handler optionId hbefore
      exact ⟨resolution, List.mem_append_left _ hseen, houtcome⟩
    · exact ⟨resolution, List.mem_append_left _ (hpending ▸ h.resolving _ hentry), houtcome⟩
  case responded =>
    intro handler outcome
    rw [List.mem_append, h.responded, hmove.responded silent]
  case once =>
    obtain hnil | ⟨handler, outcome, hsome, -, hdeciding⟩ := answeredBy_cases action d
    · rw [hnil, List.append_nil]
      exact h.once
    · rw [hsome, List.map_append, List.nodup_append]
      refine ⟨h.once, List.nodup_singleton _, ?_⟩
      rintro other hother _ hhandler rfl
      rw [List.map_singleton, List.mem_singleton] at hhandler
      obtain ⟨⟨number, before⟩, hbefore, rfl⟩ := List.mem_map.1 hother
      obtain rfl : number = handler := hhandler
      obtain ⟨request, hrequest, hresponded⟩ := (h.responded _ _).1 hbefore
      obtain ⟨same, hsame, hstage⟩ := hdeciding
      rw [hrequest] at hsame
      cases hsame
      rw [hresponded] at hstage
      cases hstage
  case publishing =>
    intro handler hpublishing
    exact hmove.publishing (h.publishing handler) hpublishing
  case withdrawn =>
    intro fence permissionIds hwithdraws permissionId pending hpending hfence
    exact hmove.withdrawn_entries horderly h.withdrawn hwithdraws hpending hfence

/-- Nothing is pending at first. -/
theorem permissionsHeld_start : PermissionsHeld .start [] [] := by
  have hnone : ∀ handler P, ¬ TaskIs Driver.start.requests handler P := by
    rintro handler P ⟨request, hrequest, -⟩
    cases hrequest
  constructor
  case entries =>
    intro _ _ h
    cases h
  case presented =>
    intro _ h
    cases h
  case resolving =>
    intro _ h
    cases h
  case selected =>
    intro _ _ h
    exact absurd h (hnone _ _)
  case responded =>
    intro handler outcome
    exact ⟨fun h => (by cases h), fun h => absurd h (hnone _ _)⟩
  case once => exact List.nodup_nil
  case publishing =>
    intro _ h
    exact absurd h (hnone _ _)
  case withdrawn =>
    intro _ _ _ _ _ h
    cases h

end Steps

/-! ## Runs -/

/-- A step that ends a fence comes after its permissions were withdrawn. -/
theorem EndsFence.withdraws {d : Driver} {action : Action} {fence : ExecutionFence}
    (h : EndsFence d action fence) : Withdraws d fence [] := by
  cases h with
  | cancelled hserving => exact .cancelled hserving
  | sent hwaiting hlast => exact .posted (List.mem_of_getElem? hwaiting) hlast

section Runs
variable [Sha256] [HttpSyntax] (profile : DriverProfile)

/-- A handler that answers the runtime has no decision any more. -/
theorem step_silent (action : Action) (d : Driver)
    (h : ∀ other result, TaskIs d.requests other (·.stage = .deciding result) →
      TaskIs (step profile action d).requests other (·.stage = .deciding result)) :
    answeredBy action d = [] := by
  obtain hnil | ⟨handler, outcome, -, rfl, hdeciding⟩ := answeredBy_cases action d
  · exact hnil
  · obtain ⟨request, hrequest, hstage⟩ := hdeciding
    obtain ⟨after, hafter, hstays⟩ := h handler outcome ⟨request, hrequest, hstage⟩
    obtain ⟨hlt, -⟩ := List.getElem?_eq_some_iff.1 hrequest
    simp only [step, Driver.permissionRemoved, hrequest, hstage, List.getElem?_set_self hlt] at hafter
    cases hafter
    cases hstays

/-- The invariant holds along a run without a request that is handled too late. -/
theorem permissionsHeld_drive {actions : List Action}
    (h : MeetAlong (step profile) OrderlyPermissions .start actions) :
    PermissionsHeld (drive profile actions) (presented profile actions) (answers profile actions) := by
  refine h.induction_along (fun actions d =>
    PermissionsHeld d (presented profile actions) (answers profile actions)) permissionsHeld_start ?_
  intro before action horderly hbefore
  rw [presented, answers, outputsFrom_snoc, outputsFrom_snoc]
  exact hbefore.next (step_permissionMove profile action _) horderly (step_silent profile action _)

/-- A handler comes to an answer by its own steps. -/
theorem answeredBy_ownSteps {d : Driver} {handler : Nat} {request : RequestHandler}
    (hrequest : d.requests[handler]? = some request)
    (hposted : request.stage = .publishing → RequestPosted d handler)
    (hresponded : ∀ outcome, request.stage ≠ .responded outcome) : ∃ index outcome,
      (handler, outcome) ∈ outputsFrom (step profile) answeredBy d
        [.send index, .permissionDecided handler, .permissionRemoved handler] := by
  have hremoves : ∀ index, (∃ outcome, TaskIs
      (Driver.permissionDecided handler (Driver.send index d)).requests handler
        (·.stage = .deciding outcome)) → ∃ outcome,
      (handler, outcome) ∈ outputsFrom (step profile) answeredBy d
        [.send index, .permissionDecided handler, .permissionRemoved handler] := by
    rintro index ⟨outcome, after, hafter, hstage⟩
    refine ⟨outcome, ?_⟩
    simp only [outputsFrom, answeredBy, step, hafter, hstage, List.nil_append, List.append_nil,
      List.mem_singleton]
  have hdecides : ∀ (index : Nat) (after : RequestHandler),
      (Driver.send index d).requests[handler]? = some after →
      after.stage = .waiting ∨ (∃ outcome, after.stage = .deciding outcome) →
      ∃ outcome, TaskIs (Driver.permissionDecided handler (Driver.send index d)).requests handler
        (·.stage = .deciding outcome) := by
    intro index after hafter hstage
    obtain hwaiting | ⟨outcome, hdeciding⟩ := hstage
    · refine ⟨after.answer.getD .cancelled, taskIs_modify.2 (.inl ⟨rfl, after, hafter, ?_⟩)⟩
      simp only [RequestHandler.decide, hwaiting]
    · refine ⟨outcome, taskIs_modify.2 (.inl ⟨rfl, after, hafter, ?_⟩)⟩
      simp only [RequestHandler.decide, hdeciding]
  have hidle : Driver.send d.mail.outbox.length d = d := by
    rw [Driver.send, List.getElem?_eq_none (Nat.le_refl _)]
  cases hstage : request.stage with
  | publishing =>
    obtain ⟨outbound, hmem, hsender⟩ := hposted hstage
    obtain ⟨index, hindex⟩ := List.mem_iff_getElem?.1 hmem
    refine ⟨index, hremoves index (hdecides index request.published ?_ (.inl ?_))⟩
    · simp only [Driver.send, hindex, Driver.sent, hsender, List.getElem?_modify, hrequest]
      simp
    · rw [RequestHandler.published_stage, if_pos hstage]
  | waiting =>
    refine ⟨d.mail.outbox.length, hremoves _ (hdecides _ request ?_ (.inl hstage))⟩
    rwa [hidle]
  | deciding outcome =>
    refine ⟨d.mail.outbox.length, hremoves _ (hdecides _ request ?_ (.inr ⟨outcome, hstage⟩))⟩
    rwa [hidle]
  | responded outcome => exact absurd hstage (hresponded outcome)

end Runs

/-! ## A permission that is lost, and one that comes too late -/

/-- The runtime asks for a permission in the sample session. -/
def samplePermission : Action := .permission (.object [("sessionId", .string "s")]) "p" 0

/-- A resolution of the permission of the sample. -/
def sampleResolution (fence : ExecutionFence) : PermissionResolution := ⟨fence, "p", .selected "allow"⟩

/-- The request of the sample is sent, resolved and answered. -/
def resolvedPermission : List Action := [
  .send 0, .resolve (sampleResolution (sampleFence "i")), .resolveGoesOn 0, .permissionDecided 0,
  .permissionRemoved 0]

/-- The permission of the sample is resolved while its turn goes on. -/
def resolvedRun : List Action := sampleStarted ++ [samplePermission] ++ resolvedPermission

/-- Nothing is withdrawn while no command is served, all turns go on and nothing waits to be sent. -/
theorem not_withdraws_of_running {d : Driver} (serving : d.serving = .idle)
    (monitors : ∀ monitor ∈ d.monitors, monitor.stage = .running) (outbox : d.mail.outbox = [])
    (fence : ExecutionFence) (permissionIds : List String) : ¬ Withdraws d fence permissionIds := by
  intro h
  cases h with
  | cancelled hserving =>
    rw [serving] at hserving
    cases hserving
  | taken hmonitored hstage =>
    rw [monitors _ (List.mem_of_getElem? hmonitored)] at hstage
    cases hstage
  | posted hwaits _ =>
    rw [outbox] at hwaits
    cases hwaits

/-- A resolution under another fence comes first. -/
def wrongFenceRun : List Action :=
  sampleStarted ++ [samplePermission] ++ [.resolve (sampleResolution (sampleFence "j"))]

/-- The permission is asked for while the cancellation of its turn has not returned. -/
def lateRequest : List Action :=
  sampleStarted ++ [.cancel ⟨sampleFence "i", "user"⟩, .cancelGoesOn, samplePermission]

/-- The cancellation returns, and the permission is resolved. -/
def lateRun : List Action := lateRequest ++ .cancelGoesOn :: resolvedPermission

end Fleetd.AcpHost
