import Fleetd.Relational.Trace
import Fleetd.Worker.Upkeep

/-!
# Workers run as their configurations say

After a pass that succeeds, the seats are exactly the agents that are to run, can be run, and have
their backend; each runs what its listed configuration says. At every moment an agent has at most
one live worker, and what a worker or a seat uses is up and current.
-/

namespace Fleetd.Worker

open Effects Effects.Routine Execution Relational Supervisor
open Serde (Value)
open Std (TreeMap TreeSet)

variable {W : Type} (parseWorkerConfigValue : Value → Except String W) (catalog : ProfileCatalog)

/-! ## What a pass is to reach -/

/-- Whether an agent is to have a seat. -/
def Wanted (scene : Scene W) (configuration : AgentSeatConfiguration) : Prop :=
  configuration.desiredState = .running ∧ ∃ profile : RuntimeProfileFile,
    catalog.profiles[configuration.profileId]? = some profile ∧
      ∀ backendId, profile.inferenceBackend = some backendId → backendId ∈ scene.runningBackends

/-- Whether a seat runs what a configuration says: the revision and the backend of the profile, by
a live worker that was started from the profile, the instructions and the running backend. -/
def Runs (scene : Scene W) (configuration : AgentSeatConfiguration) (seat : RunningSeat) : Prop :=
  seat.revision = configuration.revision ∧ ∃ profile : RuntimeProfileFile,
    catalog.profiles[configuration.profileId]? = some profile ∧
      seat.inferenceBackend = profile.inferenceBackend ∧
      TaskIs scene.tasks seat.task fun worker =>
        worker.finished = false ∧ worker.agentId = configuration.agentId ∧
          worker.profileId = configuration.profileId ∧
          worker.instructions = configuration.instructions ∧
          scene.inference profile.inferenceBackend = some worker.inference ∧
          instantiateProfile parseWorkerConfigValue profile configuration.agentId
            configuration.instructions (worker.inference.map (·.description)) = .ok worker.desired

/-- Whether the seats are exactly what some configurations ask for. -/
structure Exact (configurations : List AgentSeatConfiguration) (scene : Scene W) : Prop where
  seats : ∀ agentId, agentId ∈ scene.running ↔
    ∃ configuration ∈ configurations, configuration.agentId = agentId ∧
      Wanted catalog scene configuration
  runs : ∀ configuration ∈ configurations, ∀ seat,
    scene.running[configuration.agentId]? = some seat →
      Runs parseWorkerConfigValue catalog scene configuration seat

/-- Every row is as it was, or has a later revision. -/
def Revised (before after : SeatTable) : Prop :=
  ∀ (agentId : String) (row : SeatRow), before.rows[agentId]? = some row →
    ∃ row' : SeatRow, after.rows[agentId]? = some row' ∧
      (row' = row ∨ row.revision < row'.revision)

/-- What the answer to an operator says about the revision. -/
structure RevisesEveryChange (table : SeatTable) : Prop where
  created : ∀ {now agentId requested configured table'},
    configure now agentId requested table = .ok (configured, table') →
      table.rows[agentId]? = none → configured.revision = 1
  replayed : ∀ {now agentId requested configured table'} {row : SeatRow},
    configure now agentId requested table = .ok (configured, table') →
      table.rows[agentId]? = some row → row.agrees requested = true →
        configured.revision = row.revision ∧
          ∀ other : String, table'.rows[other]? = table.rows[other]?
  changed : ∀ {now agentId requested configured table'} {row : SeatRow},
    configure now agentId requested table = .ok (configured, table') →
      table.rows[agentId]? = some row → row.agrees requested = false →
        row.revision < configured.revision
  restarted : ∀ {now agentId configured table'} {row : SeatRow},
    restart now agentId table = .ok (configured, table') →
      table.rows[agentId]? = some row → row.revision < configured.revision

/-- A machine after some actions. -/
def supervised (table : SeatTable) (actions : List Action) : Supervision W :=
  runFrom (supervise parseWorkerConfigValue catalog) (.started table) actions

/-- What supervision promises of every run. -/
structure Reconciles (table : SeatTable) : Prop where
  exact : ∀ actions outside supervisor,
    reconcile parseWorkerConfigValue catalog outside
      (supervised parseWorkerConfigValue catalog table actions).table
      (supervised parseWorkerConfigValue catalog table actions).supervisor =
        (.ok (), supervisor) →
    ∃ configurations,
      list (supervised parseWorkerConfigValue catalog table actions).table = .ok configurations ∧
        Exact parseWorkerConfigValue catalog configurations supervisor.toScene
  revised : ∀ actions action,
    Revised (supervised parseWorkerConfigValue catalog table actions).table
      (supervised parseWorkerConfigValue catalog table (actions ++ [action])).table
  revisesEveryChange : ∀ actions,
    RevisesEveryChange (supervised parseWorkerConfigValue catalog table actions).table
  moments : ∀ actions,
    ∀ moment ∈ (supervised parseWorkerConfigValue catalog table actions).supervisor.moments,
      Scene.Sound moment
  unpanicked : ∀ actions message,
    (supervised parseWorkerConfigValue catalog table actions).outcome ≠
      some (.error (.panicked message))

/-! ## Revisions -/

theorem Revised.refl (table : SeatTable) : Revised table table :=
  fun _ row hrow => ⟨row, hrow, .inl rfl⟩

/-- Writing a row with a later revision revises the table. -/
theorem revised_insert {table : SeatTable} {agentId : String} {row : SeatRow}
    (h : ∀ before, table.rows[agentId]? = some before →
      row = before ∨ before.revision < row.revision) :
    Revised table { table with rows := table.rows.insert agentId row } := by
  intro other before hbefore
  by_cases hother : agentId = other
  · subst hother
    exact ⟨row, by rw [getElem?_insert_row, if_pos rfl], h before hbefore⟩
  · exact ⟨before, by rw [getElem?_insert_row, if_neg hother, hbefore], .inl rfl⟩

/-- The statement keeps a row that already says what is asked for. -/
theorem upsert_of_agrees {now : Int} {requested : ConfigureAgentSeat} {row : SeatRow}
    (h : row.agrees requested = true) : upsert now requested (some row) = row := by
  rw [upsert, if_pos h]

/-- The statement advances a row that says something else. -/
theorem upsert_revision {now : Int} {requested : ConfigureAgentSeat} {row : SeatRow}
    (h : row.agrees requested = false) :
    (upsert now requested (some row)).revision = row.revision + 1 := by
  rw [upsert, if_neg (by rw [h]; exact Bool.false_ne_true)]

theorem configure_revised {now : Int} {agentId : String} {requested : ConfigureAgentSeat}
    {table table' : SeatTable} {configured : AgentSeatConfiguration}
    (h : configure now agentId requested table = .ok (configured, table')) :
    Revised table table' := by
  obtain ⟨-, rfl⟩ := configure_ok h
  refine revised_insert fun before hbefore => ?_
  rw [hbefore]
  cases hagrees : before.agrees requested with
  | true => exact .inl (upsert_of_agrees hagrees)
  | false =>
    refine .inr ?_
    rw [upsert_revision hagrees]
    exact Nat.lt_succ_self _

theorem restart_revised {now : Int} {agentId : String} {table table' : SeatTable}
    {configured : AgentSeatConfiguration}
    (h : restart now agentId table = .ok (configured, table')) : Revised table table' := by
  obtain ⟨row, hrow, -, rfl⟩ := restart_ok h
  refine revised_insert fun before hbefore => ?_
  rw [hrow] at hbefore
  cases hbefore
  exact .inr (Nat.lt_succ_self _)

theorem revisesEveryChange (table : SeatTable) : RevisesEveryChange table where
  created h hnone := by
    obtain ⟨hrow, -⟩ := configure_ok h
    obtain ⟨-, -, -, -, hrevision⟩ := fromRow_ok hrow
    rw [hrevision, hnone]
    rfl
  replayed := by
    intro now agentId requested configured table' row h hfound hagrees
    obtain ⟨hrow, rfl⟩ := configure_ok h
    obtain ⟨-, -, -, -, hrevision⟩ := fromRow_ok hrow
    rw [hfound, upsert_of_agrees hagrees] at hrevision ⊢
    refine ⟨hrevision, fun other => ?_⟩
    rw [getElem?_insert_row]
    split
    · rename_i hother
      rw [← hother, hfound]
    · rfl
  changed h hfound hagrees := by
    obtain ⟨hrow, -⟩ := configure_ok h
    obtain ⟨-, -, -, -, hrevision⟩ := fromRow_ok hrow
    rw [hrevision, hfound, upsert_revision hagrees]
    exact Nat.lt_succ_self _
  restarted h hfound := by
    obtain ⟨row, hrow, hdecoded, -⟩ := restart_ok h
    obtain ⟨-, -, -, -, hrevision⟩ := fromRow_ok hdecoded
    rw [hrow] at hfound
    cases hfound
    rw [hrevision]
    exact Nat.lt_succ_self _

/-! ## Workers and their rows -/

variable {parseWorkerConfigValue : Value → Except String W} {catalog : ProfileCatalog}

/-- Whether a worker was started from a profile and from what its row said at a revision that the
row still has or has passed. -/
def Launched (parseWorkerConfigValue : Value → Except String W) (catalog : ProfileCatalog)
    (table : SeatTable) (start : WorkerStart W) : Prop :=
  (∃ profile : RuntimeProfileFile, catalog.profiles[start.profileId]? = some profile ∧
    instantiateProfile parseWorkerConfigValue profile start.agentId start.instructions
      (start.inference.map (·.description)) = .ok start.desired) ∧
  ∃ row : SeatRow, table.rows[start.agentId]? = some row ∧ start.revision ≤ row.revision ∧
    (start.revision = row.revision →
      start.profileId = row.profileId ∧ start.instructions = row.instructions)

/-- A later revision leaves the workers of earlier ones behind. -/
theorem Launched.revised {table table' : SeatTable} {start : WorkerStart W}
    (h : Launched parseWorkerConfigValue catalog table start) (hrevised : Revised table table') :
    Launched parseWorkerConfigValue catalog table' start := by
  obtain ⟨hprofile, row, hrow, hle, hsame⟩ := h
  obtain ⟨row', hrow', rfl | hlt⟩ := hrevised start.agentId row hrow
  · exact ⟨hprofile, row', hrow', hle, hsame⟩
  · exact ⟨hprofile, row', hrow', by omega, fun heq => absurd heq (by omega)⟩

/-! ## One seat -/

/-- Whether the seat of an agent is as its configuration asks. -/
def Follows (parseWorkerConfigValue : Value → Except String W) (catalog : ProfileCatalog)
    (scene : Scene W) (configuration : AgentSeatConfiguration) : Prop :=
  (configuration.agentId ∈ scene.running ↔ Wanted catalog scene configuration) ∧
    ∀ seat, scene.running[configuration.agentId]? = some seat →
      Runs parseWorkerConfigValue catalog scene configuration seat

/-- An agent without a seat is as its configuration asks if it is not to have one. -/
theorem follows_of_none {scene : Scene W} {configuration : AgentSeatConfiguration}
    (hnone : scene.running[configuration.agentId]? = none)
    (hunwanted : ¬ Wanted catalog scene configuration) :
    Follows parseWorkerConfigValue catalog scene configuration := by
  refine ⟨iff_of_false (fun hmem => ?_) hunwanted, fun seat hseat => ?_⟩
  · rw [TreeMap.mem_iff_isSome_getElem?, hnone] at hmem
    cases hmem
  · rw [hnone] at hseat
    cases hseat

/-- A seat that runs what its configuration says is wanted. -/
theorem follows_of_runs {scene : Scene W} {configuration : AgentSeatConfiguration}
    {seat : RunningSeat} (hstate : configuration.desiredState = .running)
    (hseat : scene.running[configuration.agentId]? = some seat)
    (hruns : Runs parseWorkerConfigValue catalog scene configuration seat) :
    Follows parseWorkerConfigValue catalog scene configuration := by
  constructor
  · refine iff_of_true (TreeMap.mem_iff_isSome_getElem?.2 (by rw [hseat]; rfl)) ⟨hstate, ?_⟩
    obtain ⟨-, profile, hprofile, -, worker, -, -, -, -, -, hroute, -⟩ := hruns
    refine ⟨profile, hprofile, fun backendId hbackend => ?_⟩
    rw [hbackend] at hroute
    obtain ⟨backend, hfound, -⟩ := Scene.inference_eq_some.1 hroute
    exact TreeMap.mem_iff_isSome_getElem?.2 (by rw [hfound]; rfl)
  · intro found hfound
    rw [hseat] at hfound
    cases hfound
    exact hruns

/-- What follows its configuration still does after the seat of another agent changed. -/
theorem Follows.sameBut {before after : Scene W} {agentId : String}
    {configuration : AgentSeatConfiguration}
    (h : Follows parseWorkerConfigValue catalog before configuration)
    (hsame : Scene.SameBut agentId before after) (hother : configuration.agentId ≠ agentId) :
    Follows parseWorkerConfigValue catalog after configuration := by
  have hrunning := hsame.running configuration.agentId hother
  constructor
  · rw [TreeMap.mem_iff_isSome_getElem?, hrunning, ← TreeMap.mem_iff_isSome_getElem?, h.1, Wanted,
      Wanted, hsame.runningBackends]
  · intro seat hseat
    obtain ⟨hrevision, profile, hprofile, hbackend, worker, hworker, hlive, hagent, hrest⟩ :=
      h.2 seat (hrunning ▸ hseat)
    have hroute : after.inference profile.inferenceBackend =
        before.inference profile.inferenceBackend :=
      Scene.inference_congr fun backendId _ => by rw [hsame.runningBackends]
    refine ⟨hrevision, profile, hprofile, hbackend, worker,
      hsame.tasks seat.task worker hworker (hagent ▸ hother), hlive, hagent, ?_⟩
    rw [hroute]
    exact hrest

/-- A seat that matches its configuration runs what the configuration says. -/
theorem runs_of_currentMatches {table : SeatTable} {scene : Scene W}
    {configuration : AgentSeatConfiguration} {profile : RuntimeProfileFile} {row : SeatRow}
    (hkept : scene.Kept)
    (hstarted : ∀ start ∈ scene.starts, Launched parseWorkerConfigValue catalog table start)
    (hrow : table.rows[configuration.agentId]? = some row)
    (hdecoded : fromRow configuration.agentId row = .ok configuration)
    (hprofile : catalog.profiles[configuration.profileId]? = some profile)
    (hmatches : scene.currentMatches configuration profile = true) :
    ∃ seat, scene.running[configuration.agentId]? = some seat ∧
      Runs parseWorkerConfigValue catalog scene configuration seat := by
  rw [Scene.currentMatches] at hmatches
  cases hseat : scene.running[configuration.agentId]? with
  | none => simp [hseat] at hmatches
  | some seat =>
    simp only [hseat, decide_eq_true_eq] at hmatches
    obtain ⟨hrevision, hbackend, worker, hworker, hlive⟩ := hmatches
    obtain ⟨own, hown, hagent, hown_revision, hroute⟩ :=
      hkept.seat configuration.agentId seat hseat
    obtain rfl : worker = own := Option.some.inj (hworker.symm.trans hown)
    obtain ⟨⟨launched, hlaunched, hdesired⟩, row', hrow', -, hsame⟩ :=
      hstarted worker.toWorkerStart (List.mem_map.2 ⟨worker, List.mem_of_getElem? hworker, rfl⟩)
    obtain ⟨-, hprofileId, hinstructions, -, hrow_revision⟩ := fromRow_ok hdecoded
    rw [hagent, hrow] at hrow'
    cases hrow'
    obtain ⟨hworkerProfile, hworkerInstructions⟩ := hsame (by omega)
    rw [hworkerProfile, ← hprofileId, hprofile] at hlaunched
    cases hlaunched
    refine ⟨seat, rfl, hrevision, profile, hprofile, hbackend, worker, hworker, hlive, hagent,
      hworkerProfile.trans hprofileId.symm, hworkerInstructions.trans hinstructions.symm, ?_, ?_⟩
    · rw [← hbackend, hroute]
    · rw [← hagent, hinstructions, ← hworkerInstructions, hdesired]

/-- How a pass may end early. -/
def Unpanicked (P : WorkerStart W → Prop) (exit : Exit) (supervisor : Supervisor W) : Prop :=
  supervisor.Safe P ∧ ∀ message, exit ≠ .panicked message

/-- A question about a known state has a known answer. -/
theorem meets_ask {σ ε α : Type} (q : σ → α) (s : σ) (E : ε → σ → Prop) :
    Meets (fun t => t = s) (ask q) (fun a t => a = q s ∧ t = s) E :=
  Meets.ask fun t ht => ⟨by rw [ht], ht⟩

/-- What seeing to the seat of one agent reaches. -/
def SeatDone (parseWorkerConfigValue : Value → Except String W) (catalog : ProfileCatalog)
    (P : WorkerStart W → Prop) (configuration : AgentSeatConfiguration)
    (before after : Supervisor W) : Prop :=
  after.Safe P ∧ Scene.SameBut configuration.agentId before.toScene after.toScene ∧
    Follows parseWorkerConfigValue catalog after.toScene configuration

/-- An agent that is not to have a seat loses it. -/
theorem retire_meets {P : WorkerStart W → Prop} {configuration : AgentSeatConfiguration}
    {supervisor : Supervisor W} (hsafe : supervisor.Safe P)
    (hunwanted : ¬ Wanted catalog supervisor.toScene configuration) :
    Meets (fun s => s = supervisor)
      (act fun supervisor => ((), supervisor.retire configuration.agentId))
      (fun _ after =>
        SeatDone parseWorkerConfigValue catalog P configuration supervisor after)
      (Unpanicked P) := by
  refine Meets.act ?_
  rintro _ rfl
  have hsame := hsafe.retire_sameBut configuration.agentId
  refine ⟨hsafe.retire configuration.agentId, hsame, follows_of_none (retire_running _) ?_⟩
  rw [Wanted, hsame.runningBackends]
  exact hunwanted

/-- An agent without a seat gets one that runs what its configuration says. -/
theorem startSeat_meets {table : SeatTable} {configuration : AgentSeatConfiguration}
    {profile : RuntimeProfileFile} {inference : Option RunningBackend} {row : SeatRow}
    {supervisor : Supervisor W}
    (hsafe : supervisor.Safe (Launched parseWorkerConfigValue catalog table))
    (hrow : table.rows[configuration.agentId]? = some row)
    (hdecoded : fromRow configuration.agentId row = .ok configuration)
    (hstate : configuration.desiredState = .running)
    (hprofile : catalog.profiles[configuration.profileId]? = some profile)
    (hroute : supervisor.inference profile.inferenceBackend = some inference)
    (hnone : supervisor.running[configuration.agentId]? = none) :
    Meets (fun s => s = supervisor)
      (startSeat parseWorkerConfigValue configuration profile inference)
      (fun _ after => SeatDone parseWorkerConfigValue catalog
        (Launched parseWorkerConfigValue catalog table) configuration supervisor after)
      (Unpanicked (Launched parseWorkerConfigValue catalog table)) := by
  rw [startSeat]
  cases hdesired : instantiateProfile parseWorkerConfigValue profile configuration.agentId
      configuration.instructions (inference.map (·.description)) with
  | error error =>
    refine Meets.leave ?_
    rintro _ rfl
    exact ⟨hsafe, fun message h => by cases h⟩
  | ok desired =>
    refine Meets.act ?_
    rintro _ rfl
    obtain ⟨-, hprofileId, hinstructions, -, hrevision⟩ := fromRow_ok hdecoded
    have hkept := hsafe.kept.spawn ⟨configuration.agentId, configuration.profileId,
      configuration.instructions, configuration.revision, inference, desired⟩ hnone hroute
    refine ⟨hsafe.becomes hkept ?_, ⟨rfl, fun other hother => ?_, fun task worker hworker _ => ?_⟩,
      ?_⟩
    · intro start hstart
      rw [Scene.starts_spawn] at hstart
      obtain hstart | hstart := List.mem_append.1 hstart
      · exact hsafe.started start hstart
      · obtain rfl := List.mem_singleton.1 hstart
        exact ⟨⟨profile, hprofile, hdesired⟩, row, hrow, Nat.le_of_eq hrevision,
          fun _ => ⟨hprofileId, hinstructions⟩⟩
    · exact Scene.getElem?_running_spawn.trans (if_neg (Ne.symm hother))
    · exact getElem?_of_earlier (List.prefix_append _ _) hworker
    · refine follows_of_runs hstate (Scene.getElem?_running_spawn.trans (if_pos rfl)) ?_
      exact ⟨rfl, profile, hprofile, rfl, _, List.getElem?_concat_length, rfl, rfl, rfl, rfl,
        hroute, hdesired⟩

/-- Seeing to the seat of a listed agent makes it follow its configuration. -/
theorem reconcileSeat_meets {table : SeatTable} {configuration : AgentSeatConfiguration}
    {row : SeatRow} {supervisor : Supervisor W}
    (hsafe : supervisor.Safe (Launched parseWorkerConfigValue catalog table))
    (hrow : table.rows[configuration.agentId]? = some row)
    (hdecoded : fromRow configuration.agentId row = .ok configuration) :
    Meets (fun s => s = supervisor)
      (reconcileSeat parseWorkerConfigValue catalog configuration)
      (fun _ after => SeatDone parseWorkerConfigValue catalog
        (Launched parseWorkerConfigValue catalog table) configuration supervisor after)
      (Unpanicked (Launched parseWorkerConfigValue catalog table)) := by
  rw [reconcileSeat]
  split
  · rename_i hstopped
    exact retire_meets hsafe fun hwanted => by rw [hwanted.1] at hstopped; cases hstopped
  · rename_i hrunning
    have hstate : configuration.desiredState = .running := by
      cases hstate : configuration.desiredState with
      | running => rfl
      | stopped => exact absurd hstate hrunning
    cases hprofile : catalog.profiles[configuration.profileId]? with
    | none =>
      refine retire_meets hsafe fun hwanted => ?_
      obtain ⟨-, profile, hfound, -⟩ := hwanted
      rw [hprofile] at hfound
      cases hfound
    | some profile =>
      refine (meets_ask _ supervisor _).bind_eq ?_
      cases hroute : supervisor.inference profile.inferenceBackend with
      | none =>
        refine retire_meets hsafe fun hwanted => ?_
        obtain ⟨-, found, hfound, hbackend⟩ := hwanted
        rw [hprofile] at hfound
        cases hfound
        rw [Scene.inference.eq_def] at hroute
        split at hroute
        · cases hroute
        · rename_i backendId heq
          have hmem := hbackend backendId heq
          rw [TreeMap.mem_iff_isSome_getElem?, Option.map_eq_none_iff.1 hroute] at hmem
          cases hmem
      | some inference =>
        refine (meets_ask _ supervisor _).bind_eq ?_
        split
        · rename_i hmatches
          refine Meets.pure ?_
          rintro _ rfl
          obtain ⟨seat, hseat, hruns⟩ := runs_of_currentMatches hsafe.kept hsafe.started hrow
            hdecoded hprofile hmatches
          exact ⟨hsafe, .rfl' _ _, follows_of_runs hstate hseat hruns⟩
        · have hretired := hsafe.retire configuration.agentId
          have hsame := hsafe.retire_sameBut configuration.agentId
          refine Meets.bind (Q := fun _ s => s = supervisor.retire configuration.agentId)
            (Meets.act ?_) fun _ => ?_
          · rintro _ rfl
            rfl
          · refine (startSeat_meets hretired hrow hdecoded hstate hprofile ?_
              (retire_running _)).weaken (fun _ hs => hs) (fun _ after hdone => ?_)
              fun _ _ hexit => hexit
            · rw [← hroute]
              exact Scene.inference_congr fun backendId _ => by rw [hsame.runningBackends]
            · exact ⟨hdone.1, hsame.trans hdone.2.1, hdone.2.2⟩

/-! ## The passes -/

/-- The listed agents that were seen to follow their configurations. -/
def FollowSoFar (parseWorkerConfigValue : Value → Except String W) (catalog : ProfileCatalog)
    (configurations seen : List AgentSeatConfiguration) (scene : Scene W) : Prop :=
  (∀ agentId, agentId ∈ scene.running → agentId ∈ configurations.map (·.agentId)) ∧
    ∀ configuration ∈ seen, Follows parseWorkerConfigValue catalog scene configuration

/-- After all of them, the seats are exactly what the configurations ask for. -/
theorem exact_of_followSoFar {configurations : List AgentSeatConfiguration} {scene : Scene W}
    (h : FollowSoFar parseWorkerConfigValue catalog configurations configurations scene) :
    Exact parseWorkerConfigValue catalog configurations scene where
  seats agentId := by
    constructor
    · intro hmem
      obtain ⟨configuration, hlisted, rfl⟩ := List.mem_map.1 (h.1 agentId hmem)
      exact ⟨configuration, hlisted, rfl, (h.2 configuration hlisted).1.1 hmem⟩
    · rintro ⟨configuration, hlisted, rfl, hwanted⟩
      exact (h.2 configuration hlisted).1.2 hwanted
  runs configuration hlisted := (h.2 configuration hlisted).2

/-- The seats are brought in line with the listed configurations. -/
theorem reconcileSeats_meets {table : SeatTable} {configurations : List AgentSeatConfiguration}
    (hlist : list table = .ok configurations) :
    Meets (fun supervisor => supervisor.Safe (Launched parseWorkerConfigValue catalog table))
      (reconcileSeats parseWorkerConfigValue catalog configurations)
      (fun _ after => after.Safe (Launched parseWorkerConfigValue catalog table) ∧
        FollowSoFar parseWorkerConfigValue catalog configurations configurations after.toScene)
      (Unpanicked (Launched parseWorkerConfigValue catalog table)) := by
  let I : List AgentSeatConfiguration → Supervisor W → Prop := fun seen supervisor =>
    supervisor.Safe (Launched parseWorkerConfigValue catalog table) ∧
      FollowSoFar parseWorkerConfigValue catalog configurations seen supervisor.toScene
  refine Meets.bind (Q := fun _ => I []) (Meets.act fun supervisor hsafe => ?_) fun _ => ?_
  · obtain ⟨hstopped, hlisted⟩ := hsafe.stopUnconfiguredSeats configurations
    refine ⟨hstopped, fun agentId hmem => ?_, fun _ h => absurd h List.not_mem_nil⟩
    obtain ⟨seat, hseat⟩ := Option.isSome_iff_exists.1 (TreeMap.mem_iff_isSome_getElem?.1 hmem)
    exact hlisted agentId seat hseat
  · refine Meets.each (I := I) fun seen configuration rest hsplit => ?_
    have hmem : configuration ∈ configurations := by simp [hsplit]
    obtain ⟨row, hrow, hdecoded⟩ := row_of_list hlist hmem
    rintro supervisor ⟨hsafe, hknown, hfollow⟩
    refine (reconcileSeat_meets hsafe hrow hdecoded).weaken (fun _ hs => hs)
      (fun _ after hdone => ?_) (fun _ _ h => h) supervisor rfl
    obtain ⟨hafter, hsame, hdoneFollows⟩ := hdone
    refine ⟨hafter, fun agentId hagent => ?_, fun other hother => ?_⟩
    · by_cases heq : agentId = configuration.agentId
      · exact heq ▸ List.mem_map_of_mem hmem
      · rw [TreeMap.mem_iff_isSome_getElem?, hsame.running agentId heq,
          ← TreeMap.mem_iff_isSome_getElem?] at hagent
        exact hknown agentId hagent
    · obtain hother | hother := List.mem_append.1 hother
      · refine (hfollow other hother).sameBut hsame fun heq => ?_
        have hnodup := nodup_of_list hlist
        rw [hsplit, List.map_append, List.map_cons, List.nodup_append] at hnodup
        exact hnodup.2.2 other.agentId (List.mem_map_of_mem hother) _ List.mem_cons_self heq
      · obtain rfl := List.mem_singleton.1 hother
        exact hdoneFollows

/-- The backends that some listed agent is to use. -/
theorem mem_desiredBackendIds {configurations : List AgentSeatConfiguration} {backendId : String} :
    backendId ∈ desiredBackendIds catalog configurations ↔
      ∃ configuration ∈ configurations, configuration.desiredState = .running ∧
        ∃ profile : RuntimeProfileFile,
          catalog.profiles[configuration.profileId]? = some profile ∧
            profile.inferenceBackend = some backendId := by
  rw [desiredBackendIds, TreeSet.mem_ofList, List.contains_iff_mem]
  simp only [List.mem_filterMap, List.mem_filter, decide_eq_true_eq]
  constructor
  · rintro ⟨profile, ⟨configuration, ⟨hlisted, hstate⟩, hprofile⟩, hbackend⟩
    exact ⟨configuration, hlisted, hstate, profile, hprofile, hbackend⟩
  · rintro ⟨configuration, hlisted, hstate, profile, hprofile, hbackend⟩
    exact ⟨profile, ⟨configuration, ⟨hlisted, hstate⟩, hprofile⟩, hbackend⟩

/-- A desired backend is declared, so it can be started. -/
theorem ensureBackend_meets {P : WorkerStart W → Prop}
    {configurations : List AgentSeatConfiguration} (outside : Outside) {backendId : String}
    (hdesired : backendId ∈ desiredBackendIds catalog configurations) :
    Meets (fun supervisor : Supervisor W => supervisor.Safe P)
      (ensureBackend catalog outside backendId) (fun _ after => after.Safe P) (Unpanicked P) := by
  intro supervisor hsafe
  refine Meets.bind_eq (meets_ask _ supervisor (Unpanicked P)) ?_ supervisor rfl
  split
  · exact Meets.pure fun _ hs => hs ▸ hsafe
  · rename_i hsettled
    cases hdeclared : catalog.inferenceBackends[backendId]? with
    | none =>
      obtain ⟨configuration, -, -, profile, hprofile, hbackend⟩ := mem_desiredBackendIds.1 hdesired
      have hmem := catalog.resolved _ profile hprofile backendId hbackend
      rw [TreeMap.mem_iff_isSome_getElem?, hdeclared] at hmem
      cases hmem
    | some backend =>
      refine Meets.act ?_
      rintro _ rfl
      refine hsafe.startBackend outside ?_
      rw [settled, Bool.or_eq_true, not_or] at hsettled
      exact TreeMap.getElem?_eq_none hsettled.1

theorem reconcileBackends_meets {P : WorkerStart W → Prop}
    (configurations : List AgentSeatConfiguration) (outside : Outside) :
    Meets (fun supervisor : Supervisor W => supervisor.Safe P)
      (reconcileBackends catalog outside (desiredBackendIds catalog configurations))
      (fun _ after => after.Safe P) (Unpanicked P) := by
  refine Meets.bind (Q := fun _ after => after.Safe P)
    (Meets.act fun supervisor hsafe => hsafe.checkBackends outside _) fun _ => ?_
  refine Meets.each (I := fun _ (after : Supervisor W) => after.Safe P) fun seen backendId rest hsplit => ?_
  have hmem : backendId ∈ (desiredBackendIds catalog configurations).toList := by simp [hsplit]
  exact ensureBackend_meets outside (TreeSet.mem_toList.1 hmem)

/-- What follows its configuration still does after other backends were stopped. -/
theorem Follows.sameBackend {before after : Scene W} {configuration : AgentSeatConfiguration}
    (h : Follows parseWorkerConfigValue catalog before configuration)
    (hrunning : after.running = before.running) (htasks : after.tasks = before.tasks)
    (hbackends : configuration.desiredState = .running → ∀ (profile : RuntimeProfileFile) backendId,
      catalog.profiles[configuration.profileId]? = some profile →
        profile.inferenceBackend = some backendId →
          after.runningBackends[backendId]? = before.runningBackends[backendId]?) :
    Follows parseWorkerConfigValue catalog after configuration := by
  have hwanted : Wanted catalog after configuration ↔ Wanted catalog before configuration := by
    refine and_congr_right fun hstate => exists_congr fun profile =>
      and_congr_right fun hprofile => forall₂_congr fun backendId hbackend => ?_
    rw [TreeMap.mem_iff_isSome_getElem?, TreeMap.mem_iff_isSome_getElem?,
      hbackends hstate profile backendId hprofile hbackend]
  refine ⟨by rw [hrunning, hwanted, h.1], fun seat hseat => ?_⟩
  rw [hrunning] at hseat
  have hstate := (h.1.1 (TreeMap.mem_iff_isSome_getElem?.2 (by rw [hseat]; rfl))).1
  obtain ⟨hrevision, profile, hprofile, hsame, worker, hworker, hrest⟩ := h.2 seat hseat
  refine ⟨hrevision, profile, hprofile, hsame, worker, htasks ▸ hworker, ?_⟩
  have hroute : after.inference profile.inferenceBackend =
      before.inference profile.inferenceBackend :=
    Scene.inference_congr fun backendId => hbackends hstate profile backendId hprofile
  rw [hroute]
  exact hrest

/-- Stopping backends that no listed agent is to use leaves every seat as it is. -/
theorem followSoFar_stopUnusedBackends {P : WorkerStart W → Prop} {supervisor : Supervisor W}
    {configurations : List AgentSeatConfiguration} (hsafe : supervisor.Safe P)
    (hfollow : FollowSoFar parseWorkerConfigValue catalog configurations configurations
      supervisor.toScene) :
    (supervisor.stopUnusedBackends (desiredBackendIds catalog configurations)).Safe P ∧
      FollowSoFar parseWorkerConfigValue catalog configurations configurations
        (supervisor.stopUnusedBackends (desiredBackendIds catalog configurations)).toScene := by
  obtain ⟨hstopped, hrunning, htasks, hbackends⟩ := hsafe.stopUnusedBackends
    (desiredBackendIds catalog configurations)
    (fun agentId seat hseat backendId hbackend => by
      have hmem : agentId ∈ supervisor.running :=
        TreeMap.mem_iff_isSome_getElem?.2 (by rw [hseat]; rfl)
      obtain ⟨configuration, hlisted, rfl⟩ := List.mem_map.1 (hfollow.1 agentId hmem)
      obtain ⟨hwanted, hruns⟩ := hfollow.2 configuration hlisted
      obtain ⟨-, profile, hprofile, hsame, -⟩ := hruns seat hseat
      exact mem_desiredBackendIds.2
        ⟨configuration, hlisted, (hwanted.1 hmem).1, profile, hprofile, hsame ▸ hbackend⟩)
  refine ⟨hstopped, fun agentId hmem => hfollow.1 agentId (hrunning ▸ hmem),
    fun configuration hlisted => (hfollow.2 configuration hlisted).sameBackend hrunning htasks
      fun hstate profile backendId hprofile hbackend => hbackends backendId ?_⟩
  exact mem_desiredBackendIds.2
    ⟨configuration, hlisted, hstate, profile, hprofile, hbackend⟩

/-- What a pass keeps, and what it reaches if it succeeds. -/
theorem reconcile_meets (parseWorkerConfigValue : Value → Except String W)
    (catalog : ProfileCatalog) (outside : Outside) (table : SeatTable) :
    Meets (fun supervisor : Supervisor W =>
        supervisor.Safe (Launched parseWorkerConfigValue catalog table))
      (reconcile parseWorkerConfigValue catalog outside table)
      (fun _ after => after.Safe (Launched parseWorkerConfigValue catalog table) ∧
        ∃ configurations, list table = .ok configurations ∧
          Exact parseWorkerConfigValue catalog configurations after.toScene)
      (Unpanicked (Launched parseWorkerConfigValue catalog table)) := by
  rw [reconcile]
  cases houtside : outside.listing with
  | some error => exact Meets.leave fun supervisor hsafe => ⟨hsafe, fun message h => by cases h⟩
  | none =>
    cases hlist : list table with
    | error error =>
      exact Meets.leave fun supervisor hsafe => ⟨hsafe, fun message h => by cases h⟩
    | ok configurations =>
      refine (reconcileBackends_meets configurations outside).bind fun _ => ?_
      refine (reconcileSeats_meets hlist).bind fun _ => Meets.act fun supervisor hdone => ?_
      obtain ⟨hsafe, hfollow⟩ := followSoFar_stopUnusedBackends hdone.1 hdone.2
      exact ⟨hsafe, configurations, rfl, exact_of_followSoFar hfollow⟩

/-! ## Runs -/

/-- What every run keeps. -/
structure Upheld (parseWorkerConfigValue : Value → Except String W) (catalog : ProfileCatalog)
    (supervision : Supervision W) : Prop where
  safe : supervision.supervisor.Safe (Launched parseWorkerConfigValue catalog supervision.table)
  unpanicked : ∀ message, supervision.outcome ≠ some (.error (.panicked message))

/-- Workers that were started before a revision were started from rows of before it. -/
theorem safe_revised {table table' : SeatTable} {supervisor : Supervisor W}
    (h : supervisor.Safe (Launched parseWorkerConfigValue catalog table))
    (hrevised : Revised table table') :
    supervisor.Safe (Launched parseWorkerConfigValue catalog table') :=
  ⟨h.kept, h.sound, fun start hstart => (h.started start hstart).revised hrevised⟩

/-- Only operators revise rows. -/
theorem supervise_revised (parseWorkerConfigValue : Value → Except String W)
    (catalog : ProfileCatalog) (action : Action) (supervision : Supervision W) :
    Revised supervision.table
      (supervise parseWorkerConfigValue catalog action supervision).table := by
  cases action with
  | register agentId => exact fun _ row hrow => ⟨row, hrow, .inl rfl⟩
  | configure now agentId requested =>
    rw [supervise]
    cases hconfigured : configure now agentId requested supervision.table with
    | error error => exact .refl _
    | ok configured => exact configure_revised hconfigured
  | restart now agentId =>
    rw [supervise]
    cases hrestarted : restart now agentId supervision.table with
    | error error => exact .refl _
    | ok configured => exact restart_revised hrestarted
  | exit task =>
    rw [supervise]
    split <;> exact .refl _
  | poll outside =>
    rw [supervise]
    split
    · exact .refl _
    · rw [poll]
      split <;> exact .refl _
  | stop =>
    rw [supervise]
    split <;> exact .refl _

/-- One step keeps what runs keep. -/
theorem supervise_upheld (action : Action) {supervision : Supervision W}
    (h : Upheld parseWorkerConfigValue catalog supervision) :
    Upheld parseWorkerConfigValue catalog
      (supervise parseWorkerConfigValue catalog action supervision) := by
  have hrevised := supervise_revised parseWorkerConfigValue catalog action supervision
  cases action with
  | register agentId => exact ⟨safe_revised h.safe hrevised, h.unpanicked⟩
  | configure now agentId requested =>
    rw [supervise] at hrevised ⊢
    cases hconfigured : configure now agentId requested supervision.table with
    | error error => exact h
    | ok configured =>
      rw [hconfigured] at hrevised
      exact ⟨safe_revised h.safe hrevised, h.unpanicked⟩
  | restart now agentId =>
    rw [supervise] at hrevised ⊢
    cases hrestarted : restart now agentId supervision.table with
    | error error => exact h
    | ok configured =>
      rw [hrestarted] at hrevised
      exact ⟨safe_revised h.safe hrevised, h.unpanicked⟩
  | exit task =>
    rw [supervise]
    split
    · exact h
    · refine ⟨h.safe.becomes (h.safe.kept.finish task) ?_, h.unpanicked⟩
      rw [Scene.starts_finish]
      exact h.safe.started
  | poll outside =>
    rw [supervise]
    split
    · exact h
    · have hmeets := reconcile_meets parseWorkerConfigValue catalog outside supervision.table
      rw [poll]
      split
      · rename_i supervisor hpass
        exact ⟨(hmeets.of_ok h.safe hpass).1, h.unpanicked⟩
      · rename_i exit supervisor hpass
        obtain ⟨hsafe, hexit⟩ := hmeets.of_error h.safe hpass
        refine ⟨hsafe, fun message heq => ?_⟩
        cases heq
        exact hexit message rfl
  | stop =>
    rw [supervise]
    split
    · exact h
    · exact ⟨h.safe.stopAll, fun message heq => by cases heq⟩

/-- A machine on which nothing runs yet. -/
theorem started_upheld (table : SeatTable) :
    Upheld parseWorkerConfigValue catalog (.started table : Supervision W) where
  safe := {
    kept := {
      seat := fun _ _ h => by simp [Supervision.started] at h
      owned := fun _ _ h => by simp [Supervision.started, Scene.Live] at h
      backend := fun _ _ h => by simp [Supervision.started] at h }
    sound := fun _ h => absurd h List.not_mem_nil
    started := fun _ h => absurd h List.not_mem_nil }
  unpanicked := fun _ h => by cases h

theorem supervised_upheld (table : SeatTable) (actions : List Action) :
    Upheld parseWorkerConfigValue catalog
      (supervised parseWorkerConfigValue catalog table actions) := by
  induction actions using List.reverseRecOn with
  | nil => exact started_upheld table
  | append_singleton actions action ih =>
    rw [supervised, runFrom_snoc]
    exact supervise_upheld action ih

end Fleetd.Worker
