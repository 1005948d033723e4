import Fleetd.Effects.Fallible
import Fleetd.Kernel.Text

/-!
# Desired execution of agents

What an operator wants to run for an agent: a profile, standing instructions, and whether the
agent runs at all. The profile is only a name; a supervisor resolves it against its own catalog.
The revision tells a supervisor when what runs has to be replaced.
-/

namespace Fleetd.Execution

open Effects
open Std (TreeMap)

/-- Whether an agent is to run. -/
inductive AgentSeatDesiredState
  | running
  | stopped
  deriving DecidableEq, Repr

/-- Desired execution of one agent. -/
structure AgentSeatConfiguration where
  agentId : String
  profileId : String
  instructions : String
  desiredState : AgentSeatDesiredState
  revision : Nat
  createdAtMs : Int
  updatedAtMs : Int
  deriving DecidableEq, Repr

/-- What an operator asks for. -/
structure ConfigureAgentSeat where
  profileId : String
  instructions : String
  desiredState : AgentSeatDesiredState
  deriving DecidableEq, Repr

/-- The columns of `agent_seat_configurations` beside its primary key. -/
structure SeatRow where
  profileId : String
  instructions : String
  desiredState : AgentSeatDesiredState
  revision : Nat
  createdAtMs : Int
  updatedAtMs : Int
  deriving DecidableEq, Repr

/-- The agents that exist, and their desired execution by `agent_id`. -/
structure SeatTable where
  agents : List String
  rows : TreeMap String SeatRow

def maxProfileIdBytes : Nat := 128
def maxInstructionsBytes : Nat := 32 * 1024

/-- ASCII letters, digits, dots, underscores and dashes. -/
def isProfileIdChar (c : Char) : Bool := c.isAlphanum || c == '.' || c == '_' || c == '-'

/-- The bounds of a request. -/
def validate (requested : ConfigureAgentSeat) : Except FleetError Unit :=
  if isBlank requested.profileId = true ∨ maxProfileIdBytes < byteLen requested.profileId ∨
      requested.profileId.toList.all isProfileIdChar = false then
    .error (.invalid (s!"profile_id must contain 1 to {maxProfileIdBytes} ASCII letters, digits, " ++
      "dots, dashes, or underscores"))
  else if maxInstructionsBytes < byteLen requested.instructions then
    .error (.invalid s!"instructions must not exceed {maxInstructionsBytes} bytes")
  else .ok ()

/-- Decodes a row. A revision past the signed 64-bit integers has become a floating-point number,
which does not decode. -/
def fromRow (agentId : String) (row : SeatRow) : Except FleetError AgentSeatConfiguration :=
  if row.revision ≤ i64Max then
    .ok {
      agentId
      profileId := row.profileId
      instructions := row.instructions
      desiredState := row.desiredState
      revision := row.revision
      createdAtMs := row.createdAtMs
      updatedAtMs := row.updatedAtMs }
  else
    .error (.database ("error occurred while decoding column \"revision\": mismatched types; Rust " ++
      "type `i64` (as SQL type `INTEGER`) is not compatible with SQL type `REAL`"))

/-- Every configured seat, in the order of the agents. -/
def list (table : SeatTable) : Except FleetError (List AgentSeatConfiguration) :=
  table.rows.toList.mapM fun entry => fromRow entry.1 entry.2

/-- Whether a row already says what is asked for. -/
def SeatRow.agrees (row : SeatRow) (requested : ConfigureAgentSeat) : Bool :=
  row.profileId = requested.profileId ∧ row.instructions = requested.instructions ∧
    row.desiredState = requested.desiredState

/-- The row after `INSERT … ON CONFLICT(agent_id) DO UPDATE`. -/
def upsert (now : Int) (requested : ConfigureAgentSeat) : Option SeatRow → SeatRow
  | none => {
      profileId := requested.profileId
      instructions := requested.instructions
      desiredState := requested.desiredState
      revision := 1
      createdAtMs := now
      updatedAtMs := now }
  | some row =>
    if row.agrees requested then row
    else { row with
      profileId := requested.profileId
      instructions := requested.instructions
      desiredState := requested.desiredState
      revision := row.revision + 1
      updatedAtMs := now }

/-- Creates or changes what an agent is to run. A request that fails changes nothing. -/
def configure (now : Int) (agentId : String) (requested : ConfigureAgentSeat) (table : SeatTable) :
    Except FleetError (AgentSeatConfiguration × SeatTable) := do
  validate requested
  if agentId ∉ table.agents then .error (.notFound "agent" agentId)
  else
    let row := upsert now requested table.rows[agentId]?
    let configured ← fromRow agentId row
    .ok (configured, { table with rows := table.rows.insert agentId row })

/-- A row whose revision has advanced. -/
def SeatRow.advanced (now : Int) (row : SeatRow) : SeatRow :=
  { row with revision := row.revision + 1, updatedAtMs := now }

/-- Advances the revision of a running seat, so that its supervisor replaces it. -/
def restart (now : Int) (agentId : String) (table : SeatTable) :
    Except FleetError (AgentSeatConfiguration × SeatTable) :=
  match table.rows[agentId]? with
  | none => .error (.notFound "agent seat configuration" agentId)
  | some row =>
    if row.desiredState = .stopped then
      .error (.conflict s!"agent seat {agentId} is stopped; start it before restarting")
    else do
      let configured ← fromRow agentId (row.advanced now)
      .ok (configured, { table with rows := table.rows.insert agentId (row.advanced now) })

/-! ## What the operations do to a row -/

/-- The row of one agent after the row of another was written. -/
theorem getElem?_insert_row {rows : TreeMap String SeatRow} {agentId other : String}
    {row : SeatRow} :
    (rows.insert agentId row)[other]? = if agentId = other then some row else rows[other]? := by
  rw [TreeMap.getElem?_insert]
  simp only [Std.compare_eq_iff_eq]

/-- What decoding a row gives. -/
theorem fromRow_ok {agentId : String} {row : SeatRow} {configured : AgentSeatConfiguration}
    (h : fromRow agentId row = .ok configured) :
    configured.agentId = agentId ∧ configured.profileId = row.profileId ∧
      configured.instructions = row.instructions ∧ configured.desiredState = row.desiredState ∧
      configured.revision = row.revision := by
  rw [fromRow] at h
  split at h
  · cases h
    exact ⟨rfl, rfl, rfl, rfl, rfl⟩
  · cases h

/-- A request that was accepted wrote the row that the statement gives. -/
theorem configure_ok {now : Int} {agentId : String} {requested : ConfigureAgentSeat}
    {table table' : SeatTable} {configured : AgentSeatConfiguration}
    (h : configure now agentId requested table = .ok (configured, table')) :
    fromRow agentId (upsert now requested table.rows[agentId]?) = .ok configured ∧
      table' = { table with
        rows := table.rows.insert agentId (upsert now requested table.rows[agentId]?) } := by
  rw [configure, except_bind_ok] at h
  obtain ⟨-, -, h⟩ := h
  split at h
  · cases h
  · obtain ⟨decoded, hrow, h⟩ := except_bind_ok.1 h
    cases h
    exact ⟨hrow, rfl⟩

/-- A restart that was accepted advanced the revision of a running seat. -/
theorem restart_ok {now : Int} {agentId : String} {table table' : SeatTable}
    {configured : AgentSeatConfiguration}
    (h : restart now agentId table = .ok (configured, table')) :
    ∃ row, table.rows[agentId]? = some row ∧
      fromRow agentId (row.advanced now) = .ok configured ∧
      table' = { table with rows := table.rows.insert agentId (row.advanced now) } := by
  rw [restart] at h
  cases hfound : table.rows[agentId]? with
  | none =>
    rw [hfound] at h
    cases h
  | some row =>
    simp only [hfound] at h
    split at h
    · cases h
    · obtain ⟨decoded, hrow, h⟩ := except_bind_ok.1 h
      cases h
      exact ⟨row, rfl, hrow, rfl⟩

/-- What is listed is what the rows say. -/
theorem row_of_list {table : SeatTable} {configurations : List AgentSeatConfiguration}
    (h : list table = .ok configurations) {configuration : AgentSeatConfiguration}
    (hmem : configuration ∈ configurations) :
    ∃ row, table.rows[configuration.agentId]? = some row ∧
      fromRow configuration.agentId row = .ok configuration := by
  obtain ⟨⟨agentId, row⟩, hentry, hrow⟩ := (mem_of_except_mapM h).2 configuration hmem
  obtain rfl : configuration.agentId = agentId := (fromRow_ok hrow).1
  exact ⟨row, TreeMap.mem_toList_iff_getElem?_eq_some.1 hentry, hrow⟩

/-- An agent is listed at most once. -/
theorem nodup_of_list {table : SeatTable} {configurations : List AgentSeatConfiguration}
    (h : list table = .ok configurations) : (configurations.map (·.agentId)).Nodup := by
  have hids : configurations.map (·.agentId) = table.rows.toList.map Prod.fst := by
    have hforall := forall₂_of_except_mapM h
    generalize table.rows.toList = entries at hforall
    clear h
    induction hforall with
    | nil => rfl
    | cons hrow _ ih => rw [List.map_cons, List.map_cons, ih, (fromRow_ok hrow).1]
  rw [hids, TreeMap.map_fst_toList_eq_keys]
  exact TreeMap.nodup_keys

end Fleetd.Execution
