import Fleetd.Worker.Supervisor

/-!
# What the steps of the supervisor keep

Between two steps the seats, the tasks and the backends fit together. Each change of the scene has
one lemma that says under which condition it keeps them so. While a seat or a backend is being
stopped a weaker property holds, which is all that the workers need.
-/

namespace Fleetd.Worker

open Effects
open Serde (Value)
open Std (TreeMap)

variable {W : Type} {scene : Scene W}

namespace Scene

/-- A backend is known under an id, and its process is up. -/
def Serves (scene : Scene W) (backendId : String) (backend : RunningBackend) : Prop :=
  scene.runningBackends[backendId]? = some backend ∧
    TaskIs scene.processes backend.client fun process =>
      process.backendId = backendId ∧ process.up = true

/-- A task runs a worker and has not come to its end. -/
def Live (scene : Scene W) (task : Nat) (worker : WorkerTask W) : Prop :=
  scene.tasks[task]? = some worker ∧ worker.finished = false

/-- Every seat has its worker, every live worker its seat, and every backend its process. -/
structure Kept (scene : Scene W) : Prop where
  seat : ∀ (agentId : String) (seat : RunningSeat), scene.running[agentId]? = some seat →
    TaskIs scene.tasks seat.task fun worker => worker.agentId = agentId ∧
      worker.revision = seat.revision ∧
      scene.inference seat.inferenceBackend = some worker.inference
  owned : ∀ (task : Nat) (worker : WorkerTask W), scene.Live task worker →
    ∃ seat : RunningSeat, scene.running[worker.agentId]? = some seat ∧ seat.task = task
  backend : ∀ (backendId : String) (backend : RunningBackend),
    scene.runningBackends[backendId]? = some backend → scene.Serves backendId backend

/-- No agent has two live workers, and what a live worker or a seat uses is up and current. -/
structure Sound (scene : Scene W) : Prop where
  oneWorker : ∀ (task other : Nat) (worker same : WorkerTask W), scene.Live task worker →
    scene.Live other same → worker.agentId = same.agentId → task = other
  served : ∀ (task : Nat) (worker : WorkerTask W), scene.Live task worker →
    ∀ backend, worker.inference = some backend → ∃ backendId, scene.Serves backendId backend
  held : ∀ (agentId : String) (seat : RunningSeat), scene.running[agentId]? = some seat →
    ∀ backendId, seat.inferenceBackend = some backendId → ∃ backend,
      scene.Serves backendId backend ∧
        TaskIs scene.tasks seat.task fun worker => worker.inference = some backend

/-! ## Reading a changed scene -/

@[simp] theorem getElem?_running_forget {agentId other : String} :
    (scene.forget agentId).running[other]? =
      if agentId = other then none else scene.running[other]? := by
  rw [forget, TreeMap.getElem?_erase]
  simp only [Std.compare_eq_iff_eq]

@[simp] theorem getElem?_backends_forgetBackend {backendId other : String} :
    (scene.forgetBackend backendId).runningBackends[other]? =
      if backendId = other then none else scene.runningBackends[other]? := by
  rw [forgetBackend, TreeMap.getElem?_erase]
  simp only [Std.compare_eq_iff_eq]

@[simp] theorem getElem?_backends_serve {backendId other : String} {description : Value} :
    (scene.serve backendId description).runningBackends[other]? =
      if backendId = other then some ⟨scene.processes.length, description⟩
      else scene.runningBackends[other]? := by
  rw [serve, TreeMap.getElem?_insert]
  simp only [Std.compare_eq_iff_eq]

@[simp] theorem getElem?_running_spawn {start : WorkerStart W} {inferenceBackend : Option String}
    {other : String} :
    (scene.spawn start inferenceBackend).running[other]? =
      if start.agentId = other then some ⟨start.revision, inferenceBackend, scene.tasks.length⟩
      else scene.running[other]? := by
  rw [spawn, TreeMap.getElem?_insert]
  simp only [Std.compare_eq_iff_eq]

/-- A worker that is still live after a task came to its end runs as another task. -/
theorem live_of_finish {task other : Nat} {worker : WorkerTask W}
    (hlive : (scene.finish task).Live other worker) : task ≠ other ∧ scene.Live other worker := by
  obtain ⟨h, hlive⟩ := hlive
  rw [finish, List.getElem?_modify, Option.map_eq_map, Option.map_eq_some_iff] at h
  obtain ⟨before, hbefore, h⟩ := h
  by_cases hother : task = other
  · rw [if_pos hother] at h
    subst h
    cases hlive
  · rw [if_neg hother] at h
    subst h
    exact ⟨hother, hbefore, hlive⟩

/-- What a task was started from outlives its end. -/
theorem taskIs_finish {task number : Nat} {P : WorkerTask W → Prop}
    (hstart : ∀ worker, P { worker with finished := true } ↔ P worker) :
    TaskIs (scene.finish task).tasks number P ↔ TaskIs scene.tasks number P :=
  taskIs_modify_iff hstart

/-- The route to a backend that runs. -/
theorem inference_eq_some {backendId : String} {inference : Option RunningBackend} :
    scene.inference (some backendId) = some inference ↔
      ∃ backend, scene.runningBackends[backendId]? = some backend ∧ inference = some backend := by
  rw [Scene.inference, Option.map_eq_some_iff]
  constructor
  · rintro ⟨backend, hfound, rfl⟩
    exact ⟨backend, hfound, rfl⟩
  · rintro ⟨backend, hfound, rfl⟩
    exact ⟨backend, hfound, rfl⟩

/-- A profile that has a route to a backend has the backend that the route leads to. -/
theorem backend_of_inference {inferenceBackend : Option String} {backend : RunningBackend}
    (h : scene.inference inferenceBackend = some (some backend)) :
    ∃ backendId, inferenceBackend = some backendId ∧
      scene.runningBackends[backendId]? = some backend := by
  cases inferenceBackend with
  | none => cases h
  | some backendId =>
    obtain ⟨found, hfound, heq⟩ := inference_eq_some.1 h
    cases heq
    exact ⟨backendId, rfl, hfound⟩

/-- The route of a profile depends on its own backend only. -/
theorem inference_congr {other : Scene W} {inferenceBackend : Option String}
    (h : ∀ backendId, inferenceBackend = some backendId →
      other.runningBackends[backendId]? = scene.runningBackends[backendId]?) :
    other.inference inferenceBackend = scene.inference inferenceBackend := by
  cases inferenceBackend with
  | none => rfl
  | some backendId => rw [Scene.inference, Scene.inference, h backendId rfl]

/-! ## At rest -/

/-- At rest, what the workers need holds. -/
theorem Kept.sound (h : scene.Kept) : scene.Sound where
  oneWorker task other worker same hlive hsame hagent := by
    obtain ⟨seat, hseat, rfl⟩ := h.owned task worker hlive
    obtain ⟨seat', hseat', rfl⟩ := h.owned other same hsame
    rw [hagent, hseat'] at hseat
    cases hseat
    rfl
  served task worker hlive backend hbackend := by
    obtain ⟨seat, hseat, rfl⟩ := h.owned task worker hlive
    obtain ⟨found, hfound, -, -, hroute⟩ := h.seat worker.agentId seat hseat
    obtain rfl : worker = found := Option.some.inj (hlive.1.symm.trans hfound)
    rw [hbackend] at hroute
    obtain ⟨backendId, -, hserved⟩ := backend_of_inference hroute
    exact ⟨backendId, h.backend backendId backend hserved⟩
  held agentId seat hseat backendId hbackend := by
    obtain ⟨worker, hworker, -, -, hroute⟩ := h.seat agentId seat hseat
    rw [hbackend] at hroute
    obtain ⟨backend, hfound, hinference⟩ := inference_eq_some.1 hroute
    exact ⟨backend, h.backend backendId backend hfound, worker, hworker, hinference⟩

/-- While a seat is being stopped, its worker keeps what it uses. -/
theorem Sound.forget (h : scene.Sound) (agentId : String) : (scene.forget agentId).Sound where
  oneWorker := h.oneWorker
  served := h.served
  held other seat hseat := by
    rw [getElem?_running_forget] at hseat
    split at hseat
    · cases hseat
    · exact h.held other seat hseat

/-- A task that comes to its end leaves the rest as it is. -/
theorem Kept.finish (h : scene.Kept) (task : Nat) : (scene.finish task).Kept where
  seat agentId seat hseat :=
    (taskIs_finish fun _ => Iff.rfl).2 (h.seat agentId seat hseat)
  owned other worker hlive := h.owned other worker (live_of_finish hlive).2
  backend := h.backend

/-- A seat whose task has come to its end is gone. -/
theorem Kept.retire (h : scene.Kept) {agentId : String} {seat : RunningSeat}
    (hseat : scene.running[agentId]? = some seat) :
    ((scene.forget agentId).finish seat.task).Kept where
  seat other kept hkept := by
    refine (taskIs_finish fun _ => Iff.rfl).2 ?_
    change (scene.forget agentId).running[other]? = some kept at hkept
    rw [getElem?_running_forget] at hkept
    split at hkept
    · cases hkept
    · exact h.seat other kept hkept
  owned task worker hlive := by
    obtain ⟨hother, hlive⟩ := live_of_finish hlive
    obtain ⟨own, hown, rfl⟩ := h.owned task worker hlive
    refine ⟨own, ?_, rfl⟩
    change (scene.forget agentId).running[worker.agentId]? = some own
    rw [getElem?_running_forget, if_neg, hown]
    rintro rfl
    rw [hseat] at hown
    cases hown
    exact hother rfl
  backend := h.backend

/-- A backend that no seat uses may be forgotten. -/
theorem Kept.forgetBackend (h : scene.Kept) {backendId : String}
    (hunused : ∀ (agentId : String) (seat : RunningSeat), scene.running[agentId]? = some seat →
      seat.inferenceBackend ≠ some backendId) : (scene.forgetBackend backendId).Kept where
  seat agentId seat hseat := by
    obtain ⟨worker, hworker, hagent, hrevision, hroute⟩ := h.seat agentId seat hseat
    refine ⟨worker, hworker, hagent, hrevision, ?_⟩
    rw [← hroute]
    refine inference_congr fun other hother => ?_
    rw [getElem?_backends_forgetBackend, if_neg]
    rintro rfl
    exact hunused agentId seat hseat hother
  owned := h.owned
  backend other backend hbackend := by
    refine ⟨hbackend, ?_⟩
    rw [getElem?_backends_forgetBackend] at hbackend
    split at hbackend
    · cases hbackend
    · exact (h.backend other backend hbackend).2

/-- A process that serves no known backend may be shut down. -/
theorem Kept.shutdown (h : scene.Kept) {client : Nat}
    (hunknown : ∀ (backendId : String) (backend : RunningBackend), scene.runningBackends[backendId]? = some backend →
      backend.client ≠ client) : (scene.shutdown client).Kept where
  seat := h.seat
  owned := h.owned
  backend backendId backend hbackend :=
    ⟨hbackend, taskIs_modify.2 (.inr
      ⟨(hunknown backendId backend hbackend).symm, (h.backend backendId backend hbackend).2⟩)⟩

/-- A backend that does not run may be started. -/
theorem Kept.serve (h : scene.Kept) {backendId : String}
    (hnew : scene.runningBackends[backendId]? = none) (description : Value) :
    (scene.serve backendId description).Kept where
  seat agentId seat hseat := by
    obtain ⟨worker, hworker, hagent, hrevision, hroute⟩ := h.seat agentId seat hseat
    refine ⟨worker, hworker, hagent, hrevision, ?_⟩
    rw [← hroute]
    refine inference_congr fun other hother => ?_
    rw [getElem?_backends_serve, if_neg]
    rintro rfl
    rw [hother] at hroute
    obtain ⟨backend, hfound, -⟩ := inference_eq_some.1 hroute
    rw [hnew] at hfound
    cases hfound
  owned := h.owned
  backend other backend hbackend := by
    refine ⟨hbackend, ?_⟩
    rw [getElem?_backends_serve] at hbackend
    split at hbackend
    · rename_i hsame
      cases hbackend
      exact ⟨⟨backendId, true⟩, by simp [Scene.serve], hsame, rfl⟩
    · obtain ⟨process, hprocess, hserves⟩ := (h.backend other backend hbackend).2
      exact ⟨process, getElem?_of_earlier (List.prefix_append _ _) hprocess, hserves⟩

/-- A worker may be started for an agent without a seat. -/
theorem Kept.spawn (h : scene.Kept) (start : WorkerStart W) {inferenceBackend : Option String}
    (hnew : scene.running[start.agentId]? = none)
    (hroute : scene.inference inferenceBackend = some start.inference) :
    (scene.spawn start inferenceBackend).Kept where
  seat agentId seat hseat := by
    rw [getElem?_running_spawn] at hseat
    split at hseat
    · rename_i hsame
      cases hseat
      exact ⟨⟨start, false⟩, by simp [Scene.spawn], hsame, rfl, hroute⟩
    · obtain ⟨worker, hworker, hkept⟩ := h.seat agentId seat hseat
      exact ⟨worker, getElem?_of_earlier (List.prefix_append _ _) hworker, hkept⟩
  owned task worker hlive := by
    obtain ⟨hworker, hlive⟩ := hlive
    change (scene.tasks ++ [_])[task]? = some worker at hworker
    rw [List.getElem?_append] at hworker
    split at hworker
    · obtain ⟨seat, hseat, rfl⟩ := h.owned task worker ⟨hworker, hlive⟩
      refine ⟨seat, ?_, rfl⟩
      rw [getElem?_running_spawn, if_neg, hseat]
      intro hsame
      rw [hsame, hseat] at hnew
      cases hnew
    · rename_i hlate
      obtain ⟨hindex, hworker⟩ := List.getElem?_eq_some_iff.1 hworker
      have htask : task = scene.tasks.length := by
        simp only [List.length_singleton] at hindex
        omega
      subst htask
      simp only [Nat.sub_self, List.getElem_cons_zero] at hworker
      subst hworker
      exact ⟨_, by rw [getElem?_running_spawn, if_pos rfl], rfl⟩
  backend := h.backend

/-- What the workers of a scene were started from. -/
def starts (scene : Scene W) : List (WorkerStart W) := scene.tasks.map (·.toWorkerStart)

@[simp] theorem starts_finish {task : Nat} : (scene.finish task).starts = scene.starts :=
  tasks_map_modify fun _ => rfl

@[simp] theorem starts_spawn {start : WorkerStart W} {inferenceBackend : Option String} :
    (scene.spawn start inferenceBackend).starts = scene.starts ++ [start] := by
  simp [starts, spawn]

/-- What stays when only the seat of one agent changes. -/
structure SameBut (agentId : String) (before after : Scene W) : Prop where
  runningBackends : after.runningBackends = before.runningBackends
  running : ∀ other, other ≠ agentId → after.running[other]? = before.running[other]?
  tasks : ∀ (task : Nat) (worker : WorkerTask W), before.tasks[task]? = some worker →
    worker.agentId ≠ agentId → after.tasks[task]? = some worker

theorem SameBut.rfl' (agentId : String) (scene : Scene W) : SameBut agentId scene scene :=
  ⟨rfl, fun _ _ => rfl, fun _ _ htask _ => htask⟩

theorem SameBut.trans {agentId : String} {before between after : Scene W}
    (h : SameBut agentId before between) (h' : SameBut agentId between after) :
    SameBut agentId before after where
  runningBackends := h'.runningBackends.trans h.runningBackends
  running other hother := (h'.running other hother).trans (h.running other hother)
  tasks task worker htask hother :=
    h'.tasks task worker (h.tasks task worker htask hother) hother

end Scene

/-! ## Stopping seats -/

namespace Supervisor

variable {P : WorkerStart W → Prop} {supervisor : Supervisor W}

/-- What is at rest is kept, what was on the way was sound, and the workers were started as they
should be. -/
structure Safe (P : WorkerStart W → Prop) (supervisor : Supervisor W) : Prop where
  kept : supervisor.toScene.Kept
  sound : ∀ moment ∈ supervisor.moments, Scene.Sound moment
  started : ∀ start ∈ supervisor.starts, P start

/-- A step that leads to a scene at rest. -/
theorem Safe.becomes (h : supervisor.Safe P) {scene : Scene W} (hkept : scene.Kept)
    (hstarted : ∀ start ∈ scene.starts, P start) : (supervisor.becomes scene).Safe P where
  kept := hkept
  sound moment hmoment := by
    obtain hmoment | hmoment := List.mem_append.1 hmoment
    · exact h.sound moment hmoment
    · obtain rfl := List.mem_singleton.1 hmoment
      exact hkept.sound
  started := hstarted

/-- Two steps of which only the second leads to a scene at rest. -/
theorem Safe.through (h : supervisor.Safe P) {between after : Scene W} (hbetween : between.Sound)
    (hafter : after.Kept) (hstarted : ∀ start ∈ after.starts, P start) :
    ((supervisor.becomes between).becomes after).Safe P where
  kept := hafter
  sound moment hmoment := by
    obtain hmoment | hmoment := List.mem_append.1 hmoment
    · obtain hmoment | hmoment := List.mem_append.1 hmoment
      · exact h.sound moment hmoment
      · obtain rfl := List.mem_singleton.1 hmoment
        exact hbetween
    · obtain rfl := List.mem_singleton.1 hmoment
      exact hafter.sound
  started := hstarted

/-- When a backend may be tried again does not matter to what runs. -/
theorem Safe.retryAfter (h : supervisor.Safe P) (backendRetryAfter : TreeMap String Nat) :
    Safe P { supervisor with backendRetryAfter } :=
  ⟨h.kept, h.sound, h.started⟩

theorem Safe.retire (h : supervisor.Safe P) (agentId : String) :
    (supervisor.retire agentId).Safe P := by
  rw [Supervisor.retire]
  cases hseat : supervisor.running[agentId]? with
  | none => exact h
  | some seat =>
    refine h.through (h.kept.sound.forget agentId) (h.kept.retire hseat) ?_
    rw [Scene.starts_finish]
    exact h.started

/-- Stopping the seat of an agent leaves everything else as it is. -/
theorem Safe.retire_sameBut (h : supervisor.Safe P) (agentId : String) :
    Scene.SameBut agentId supervisor.toScene (supervisor.retire agentId).toScene := by
  rw [Supervisor.retire]
  cases hseat : supervisor.running[agentId]? with
  | none => exact .rfl' agentId _
  | some seat =>
    refine ⟨rfl, fun other hother => ?_, fun task worker htask hother => ?_⟩
    · exact Scene.getElem?_running_forget.trans (if_neg (Ne.symm hother))
    · obtain ⟨own, hown, hagent, -⟩ := h.kept.seat agentId seat hseat
      have hne : seat.task ≠ task := by
        rintro rfl
        rw [htask] at hown
        cases hown
        exact hother hagent
      change (supervisor.tasks.modify seat.task _)[task]? = some worker
      rw [List.getElem?_modify, htask]
      simp [hne]

/-- An agent whose seat was stopped has none. -/
theorem retire_running (agentId : String) :
    (supervisor.retire agentId).running[agentId]? = none := by
  rw [Supervisor.retire]
  cases hseat : supervisor.running[agentId]? with
  | none => exact hseat
  | some seat => exact Scene.getElem?_running_forget.trans (if_pos rfl)

/-- Stopping the seats of some agents leaves the others and the backends as they are. -/
theorem Safe.retireAll (h : supervisor.Safe P) (agentIds : List String) :
    (supervisor.retireAll agentIds).Safe P ∧
      (supervisor.retireAll agentIds).runningBackends = supervisor.runningBackends ∧
      ∀ other, (supervisor.retireAll agentIds).running[other]? =
        if other ∈ agentIds then none else supervisor.running[other]? := by
  induction agentIds generalizing supervisor with
  | nil => exact ⟨h, rfl, fun other => (if_neg List.not_mem_nil).symm⟩
  | cons agentId rest ih =>
    have hsame := h.retire_sameBut agentId
    obtain ⟨hsafe, hbackends, hrunning⟩ := ih (h.retire agentId)
    refine ⟨hsafe, hbackends.trans hsame.runningBackends, fun other => ?_⟩
    rw [Supervisor.retireAll, List.foldl_cons, ← Supervisor.retireAll, hrunning other]
    by_cases hother : other = agentId
    · subst hother
      simp [retire_running]
    · simp [hother, hsame.running other hother]

/-- The seats that are left after those of one backend were stopped. -/
theorem Safe.stopSeatsUsingBackend (h : supervisor.Safe P) (backendId : String) :
    (supervisor.stopSeatsUsingBackend backendId).Safe P ∧
      (supervisor.stopSeatsUsingBackend backendId).runningBackends =
        supervisor.runningBackends ∧
      ∀ (agentId : String) (seat : RunningSeat),
        (supervisor.stopSeatsUsingBackend backendId).running[agentId]? = some seat →
          seat.inferenceBackend ≠ some backendId := by
  obtain ⟨hsafe, hbackends, hrunning⟩ := h.retireAll ((supervisor.running.toList.filter fun entry =>
    entry.2.inferenceBackend = some backendId).map (·.1))
  refine ⟨hsafe, hbackends, fun agentId seat hseat huses => ?_⟩
  rw [Supervisor.stopSeatsUsingBackend, hrunning agentId] at hseat
  split at hseat
  · cases hseat
  · rename_i hkept
    refine hkept (List.mem_map.2 ⟨(agentId, seat), List.mem_filter.2 ⟨?_, ?_⟩, rfl⟩)
    · exact TreeMap.mem_toList_iff_getElem?_eq_some.2 hseat
    · exact decide_eq_true huses

/-- The seats that are left after those of agents without a configuration were stopped. -/
theorem Safe.stopUnconfiguredSeats (h : supervisor.Safe P)
    (configurations : List Execution.AgentSeatConfiguration) :
    (supervisor.stopUnconfiguredSeats configurations).Safe P ∧
      ∀ agentId seat,
        (supervisor.stopUnconfiguredSeats configurations).running[agentId]? = some seat →
          agentId ∈ configurations.map (·.agentId) := by
  obtain ⟨hsafe, -, hrunning⟩ := h.retireAll
    (supervisor.running.keys.filter (· ∉ configurations.map (·.agentId)))
  refine ⟨hsafe, fun agentId seat hseat => ?_⟩
  rw [Supervisor.stopUnconfiguredSeats, hrunning agentId] at hseat
  split at hseat
  · cases hseat
  · rename_i hkept
    by_contra hunlisted
    refine hkept (List.mem_filter.2 ⟨TreeMap.mem_keys.2 ?_, decide_eq_true hunlisted⟩)
    exact TreeMap.mem_iff_isSome_getElem?.2 (by rw [hseat]; rfl)

/-! ## Stopping and starting backends -/

/-- Stopping a backend that no seat uses leaves the seats and the other backends as they are. -/
theorem Safe.retireBackend (h : supervisor.Safe P) {backendId : String}
    (hunused : ∀ (agentId : String) (seat : RunningSeat),
      supervisor.running[agentId]? = some seat → seat.inferenceBackend ≠ some backendId) :
    (supervisor.retireBackend backendId).Safe P := by
  rw [Supervisor.retireBackend]
  cases hbackend : supervisor.runningBackends[backendId]? with
  | none => exact h
  | some backend =>
    have hforgotten := h.kept.forgetBackend hunused
    refine h.through hforgotten.sound (hforgotten.shutdown fun other same hsame hclient => ?_)
      h.started
    rw [Scene.getElem?_backends_forgetBackend] at hsame
    split at hsame
    · cases hsame
    · rename_i hother
      obtain ⟨-, process, hprocess, rfl, -⟩ := h.kept.backend backendId backend hbackend
      obtain ⟨-, found, hfound, rfl, -⟩ := h.kept.backend other same hsame
      rw [hclient, hprocess] at hfound
      cases hfound
      exact hother rfl

theorem retireBackend_running (backendId : String) :
    (supervisor.retireBackend backendId).running = supervisor.running := by
  rw [Supervisor.retireBackend]
  cases supervisor.runningBackends[backendId]? <;> rfl

theorem retireBackend_tasks (backendId : String) :
    (supervisor.retireBackend backendId).tasks = supervisor.tasks := by
  rw [Supervisor.retireBackend]
  cases supervisor.runningBackends[backendId]? <;> rfl

/-- The backends that are left after one was stopped. -/
theorem retireBackend_runningBackends (backendId other : String) :
    (supervisor.retireBackend backendId).runningBackends[other]? =
      if backendId = other then none else supervisor.runningBackends[other]? := by
  rw [Supervisor.retireBackend]
  cases hbackend : supervisor.runningBackends[backendId]? with
  | none =>
    change supervisor.runningBackends[other]? = _
    split
    · rename_i hsame
      rw [← hsame, hbackend]
    · rfl
  | some backend => exact Scene.getElem?_backends_forgetBackend

/-- A backend that fails takes the seats that use it with it. -/
theorem Safe.checkBackend (h : supervisor.Safe P) (outside : Outside)
    (desiredBackends : Std.TreeSet String) (backendId : String) :
    (checkBackend outside desiredBackends supervisor backendId).Safe P := by
  rw [Supervisor.checkBackend]
  split
  · exact h
  · split
    · exact h
    · cases outside.health backendId with
      | none => exact h
      | some error =>
        obtain ⟨hsafe, -, hunused⟩ := h.stopSeatsUsingBackend backendId
        exact (hsafe.retireBackend hunused).retryAfter _

theorem Safe.checkBackends (h : supervisor.Safe P) (outside : Outside)
    (desiredBackends : Std.TreeSet String) :
    (checkBackends outside desiredBackends supervisor).Safe P := by
  rw [Supervisor.checkBackends]
  generalize supervisor.runningBackends.keys = backendIds
  induction backendIds generalizing supervisor with
  | nil => exact h
  | cons backendId rest ih => exact ih (h.checkBackend outside desiredBackends backendId)

/-- Stopping backends that no seat uses leaves the seats and the other backends as they are. -/
theorem Safe.stopUnusedBackends (h : supervisor.Safe P) (desiredBackends : Std.TreeSet String)
    (hused : ∀ (agentId : String) (seat : RunningSeat),
      supervisor.running[agentId]? = some seat → ∀ backendId,
        seat.inferenceBackend = some backendId → backendId ∈ desiredBackends) :
    (supervisor.stopUnusedBackends desiredBackends).Safe P ∧
      (supervisor.stopUnusedBackends desiredBackends).running = supervisor.running ∧
      (supervisor.stopUnusedBackends desiredBackends).tasks = supervisor.tasks ∧
      ∀ backendId ∈ desiredBackends,
        (supervisor.stopUnusedBackends desiredBackends).runningBackends[backendId]? =
          supervisor.runningBackends[backendId]? := by
  have hunused : ∀ backendId ∈ supervisor.runningBackends.keys.filter (· ∉ desiredBackends),
      backendId ∉ desiredBackends := by simp
  rw [Supervisor.stopUnusedBackends]
  generalize supervisor.runningBackends.keys.filter (· ∉ desiredBackends) = unused at hunused
  induction unused generalizing supervisor with
  | nil => exact ⟨h, rfl, rfl, fun _ _ => rfl⟩
  | cons backendId rest ih =>
    have hstopped := (h.retireBackend fun agentId seat hseat huses =>
      hunused backendId List.mem_cons_self (hused agentId seat hseat backendId huses)).retryAfter
        ((supervisor.retireBackend backendId).backendRetryAfter.erase backendId)
    have hrunning : (supervisor.retireBackend backendId).running = supervisor.running :=
      retireBackend_running backendId
    obtain ⟨hsafe, hrest, htasks, hbackends⟩ := ih hstopped
      (fun agentId seat hseat => hused agentId seat (by rwa [← hrunning]))
      (fun other hother => hunused other (List.mem_cons_of_mem _ hother))
    refine ⟨hsafe, hrest.trans hrunning, htasks.trans (retireBackend_tasks backendId),
      fun other hother => (hbackends other hother).trans ?_⟩
    refine (retireBackend_runningBackends backendId other).trans (if_neg ?_)
    rintro rfl
    exact hunused backendId List.mem_cons_self hother

/-- Once the seats are stopped, the backends may be. -/
theorem Safe.stopAll (h : supervisor.Safe P) : (stopAll supervisor).Safe P := by
  obtain ⟨hsafe, -, hrunning⟩ := h.retireAll supervisor.running.keys
  have hnone : ∀ agentId : String, (supervisor.retireAll supervisor.running.keys).running[agentId]? =
      none := by
    intro agentId
    rw [hrunning agentId]
    split
    · rfl
    · rename_i hkey
      exact TreeMap.getElem?_eq_none fun hmem => hkey (TreeMap.mem_keys.2 hmem)
  rw [Worker.stopAll]
  generalize supervisor.retireAll supervisor.running.keys = stopped at hsafe hnone
  generalize stopped.runningBackends.keys = backendIds
  induction backendIds generalizing stopped with
  | nil => exact hsafe
  | cons backendId rest ih =>
    refine ih _ (hsafe.retireBackend fun agentId seat hseat => ?_) fun agentId => ?_
    · rw [hnone agentId] at hseat
      cases hseat
    · rw [retireBackend_running, hnone agentId]

/-- A backend that does not run may be started. -/
theorem Safe.startBackend (h : supervisor.Safe P) (outside : Outside) {backendId : String}
    (hnew : supervisor.runningBackends[backendId]? = none) :
    (startBackend outside backendId supervisor).Safe P := by
  rw [Supervisor.startBackend]
  cases outside.start backendId with
  | error error => exact h.retryAfter _
  | ok description =>
    exact (h.becomes (h.kept.serve hnew description) h.started).retryAfter _

end Supervisor

end Fleetd.Worker
