import Fleetd.Execution.Operations
import Fleetd.Relational.Select

/-!
# The statements of the evidence pages

A page of evidence is read by a statement whose filters, comparison and order are put together from
the request, and whose parameters are bound in the order of its question marks. The statement is
built as a value; its text is the one that is sent.
-/

namespace Fleetd

open Relational

/-- The names of the columns that a page of one table is addressed by. -/
structure ColumnNames where
  agent : String
  changed : String
  id : String
  settled : Term
  deriving DecidableEq, Repr

def generationColumnNames : ColumnNames where
  agent := "agent_id"
  changed := "last_heartbeat_at_ms"
  id := "id"
  settled := .equalsText "state" "stopped"

def observationColumnNames : ColumnNames where
  agent := "i.agent_id"
  changed := "o.updated_at_ms"
  id := "o.invocation_id"
  settled := .isNotNull "o.terminal_at_ms"

/-- The columns and the source of the generations. -/
def generationSelect : String :=
  "
    SELECT id, agent_id, plugin_id, plugin_name, plugin_version,
           interfaces_json, process_id, driver_version, acp_sdk_version,
           acp_protocol_version, runtime_name, runtime_version,
           runtime_executable_digest, agent_capabilities_json,
           max_concurrent_turns, max_frame_bytes, profile_digest,
           compatibility_digest, raw_initialize_result_json,
           heartbeat_interval_ms, state, started_at_ms, last_heartbeat_at_ms,
           stopped_at_ms, stop_disposition, stop_reason, shutdown_outcome,
           shutdown_exit_code
    FROM plugin_generations
    "

/-- The columns and the source of the observations. -/
def observationSelect : String :=
  "
    SELECT o.invocation_id, i.agent_id, source.id AS source_message_id,
           result.id AS result_message_id, o.generation_id, o.binding_id,
           o.binding_generation, o.owner_epoch, o.started_at_ms, o.updated_at_ms,
           o.first_event_at_ms, o.last_event_at_ms, o.event_count,
           o.observed_payload_bytes, o.last_event_seq, o.event_chain_digest,
           o.prompt_event_count,
           o.assistant_event_count, o.reasoning_event_count, o.tool_event_count,
           o.plan_event_count, o.usage_event_count, o.metadata_event_count,
           o.permission_event_count, o.unknown_event_count, o.terminal_at_ms,
           o.stop_reason, o.runtime_stop_reason, o.execution_certainty,
           o.session_quiescent, o.session_persistence, o.usage_json
    FROM invocation_observations o
    JOIN invocations i ON i.id = o.invocation_id
    JOIN messages source ON source.seq = i.message_seq
    LEFT JOIN messages result ON result.seq = i.result_message_seq
    "

def EvidenceOrder.direction : EvidenceOrder → Direction
  | .newest => .desc
  | .oldest => .asc

/-- The text of one evidence page. -/
def evidenceSql (select : String) (columns : ColumnNames) (page : EvidencePage) : String :=
  let comparison := page.order.direction.comparison
  let direction := page.order.direction.keyword
  select ++ " WHERE 1 = 1" ++
    (if page.agentId.isSome then " AND " ++ columns.agent ++ " = ?" else "") ++
    (if page.settled then " AND " ++ columns.settled.toSql else "") ++
    (if page.after.isSome then
      " AND (" ++ columns.changed ++ ", " ++ columns.id ++ ") " ++ comparison ++ " (?, ?)" else "") ++
    " ORDER BY " ++ columns.changed ++ " " ++ direction ++ ", " ++ columns.id ++ " " ++ direction ++
    " LIMIT ?"

/-- The parameters of a page, in the order of the question marks. -/
def bindEvidencePage (page : EvidencePage) (limit : Nat) : List SqlValue :=
  page.agentId.toList.map .text ++
    page.after.toList.flatMap (fun after => [.integer after.changedAtMs, .text after.id]) ++
    [.integer limit]

/-- The statement of one evidence page. -/
def evidenceSelect (select : String) (columns : ColumnNames) (page : EvidencePage) : Select where
  source := select
  terms := .always :: (page.agentId.toList.map (fun _ => .equals columns.agent) ++
    (if page.settled then [columns.settled] else []) ++
    page.after.toList.map fun _ => .past page.order.direction columns.changed columns.id)
  order := [(columns.changed, page.order.direction), (columns.id, page.order.direction)]

/-- The statement has the text that is sent. -/
theorem evidenceSelect_toSql (select : String) (columns : ColumnNames) (page : EvidencePage) :
    (evidenceSelect select columns page).toSql = evidenceSql select columns page := by
  have hwhere : ∀ rest, " WHERE " ++ ("1 = 1" ++ rest) = " WHERE 1 = 1" ++ rest := fun rest =>
    (String.append_assoc ..).symm
  have hand : ∀ rest, " AND " ++ ("(" ++ rest) = " AND (" ++ rest := fun rest =>
    (String.append_assoc ..).symm
  obtain ⟨agentId, after, limit, settled, order⟩ := page
  cases agentId <;> cases after <;> cases settled <;>
    simp [evidenceSelect, Select.toSql, evidenceSql, Term.toSql, joinWith, String.append_assoc, hwhere,
      hand, -String.reduceAppend]

/-! ## Tables -/

/-- One table of evidence, with the columns that its pages are addressed by. -/
structure EvidenceTable (α : Type) where
  select : String
  names : ColumnNames
  columns : EvidenceColumns α
  cells : α → Cells
  rows : List α
  agent_cell : ∀ row, cells row names.agent = (columns.agent row).map .text
  changed_cell : ∀ row, cells row names.changed = some (.integer (columns.changed row))
  id_cell : ∀ row, cells row names.id = some (.text (columns.id row))
  settled_term : ∀ parameters, ∃ keeps, names.settled.bind parameters = some (keeps, parameters) ∧
    ∀ row, keeps (cells row) = columns.settled row

/-- The columns of a generation that its statement reads. -/
def PluginGeneration.cells (g : PluginGeneration) : Cells
  | "agent_id" => some (.text g.agentId)
  | "last_heartbeat_at_ms" => some (.integer g.lastHeartbeatAtMs)
  | "id" => some (.text g.id)
  | "state" => some (.text (if g.stopped.isSome then "stopped" else "active"))
  | _ => none

/-- The columns of an observation, joined to its invocation, that its statement reads. -/
def InvocationObservation.cells (invocations : List InvocationRow) (o : InvocationObservation) : Cells
  | "i.agent_id" =>
    (invocations.find? fun i => i.id = o.invocationId).map fun i => .text i.agentId
  | "o.updated_at_ms" => some (.integer o.updatedAtMs)
  | "o.invocation_id" => some (.text o.invocationId)
  | "o.terminal_at_ms" => o.terminal.map fun terminal => .integer terminal.terminalAtMs
  | _ => none

/-- The table of plugin generations. -/
def generationTable (s : Store) : EvidenceTable PluginGeneration where
  select := generationSelect
  names := generationColumnNames
  columns := generationColumns
  cells := PluginGeneration.cells
  rows := s.pluginGenerations
  agent_cell _ := rfl
  changed_cell _ := rfl
  id_cell _ := rfl
  settled_term parameters := by
    refine ⟨_, rfl, fun g => ?_⟩
    have hstate : g.cells "state" = some (.text (if g.stopped.isSome then "stopped" else "active")) :=
      rfl
    rw [hstate]
    show _ = g.stopped.isSome
    cases g.stopped <;> rfl

/-- The table of invocation observations. -/
def observationTable (s : Store) : EvidenceTable InvocationObservation where
  select := observationSelect
  names := observationColumnNames
  columns := observationColumns s.invocations
  cells := InvocationObservation.cells s.invocations
  rows := s.invocationObservations
  agent_cell o := by
    show (s.invocations.find? fun i => i.id = o.invocationId).map _ = _
    rw [observationColumns, Option.map_map]
    rfl
  changed_cell _ := rfl
  id_cell _ := rfl
  settled_term parameters := by
    refine ⟨_, rfl, fun o => ?_⟩
    have hterminal : InvocationObservation.cells s.invocations o "o.terminal_at_ms" =
        o.terminal.map fun terminal => .integer terminal.terminalAtMs := rfl
    rw [hterminal, Option.isSome_map]
    rfl

namespace EvidenceTable

variable {α : Type} (table : EvidenceTable α)

/-- The rows of a page, as its statement reads them. -/
def fetch (page : EvidencePage) (limit : Nat) : Except FleetError (List α) :=
  match (evidenceSelect table.select table.names page).rows table.cells (bindEvidencePage page limit)
      table.rows with
  | some rows => .ok rows
  | none => .error (.database "wrong number of parameters")

/-- One page of the table, after the check of its cursor. -/
def list (page : EvidencePage) : Except FleetError (List α) :=
  page.validate.bind (table.fetch page)

end EvidenceTable

end Fleetd
