import Fleetd.Execution.EvidenceSql
import Fleetd.Guarantees.EvidencePages

/-!
# Walks over the pages of evidence

The statement of a page reads the rows that satisfy its filters and lie past its cursor, in the
direction of the walk. Handing the position of the last row back as the next cursor therefore goes
through every row once, whatever the filters and the size of a page, and the two directions are each
other's reverse.
-/

namespace Fleetd

open Relational Relational.Transaction Keyset

/-! ## Statements -/

theorem integer_eq (a b : Int) : decide (SqlValue.integer a = .integer b) = decide (a = b) := by
  rw [decide_eq_decide, SqlValue.integer.injEq]

theorem integer_cell_eq (a b : Int) :
    decide (some (SqlValue.integer a) = some (.integer b)) = decide (a = b) := by
  rw [← integer_eq, decide_eq_decide, Option.some.injEq]

/-- A row lies past a cursor if its position follows it. -/
theorem rowPast_cursor (order : EvidenceOrder) (a b : EvidenceCursor) :
    rowPast order.direction (some (.integer a.changedAtMs)) (some (.text a.id)) (.integer b.changedAtMs)
      (.text b.id) = order.follows a b := by
  cases order with
  | newest =>
    simp only [rowPast, EvidenceOrder.direction, Direction.past, EvidenceOrder.follows,
      EvidenceCursor.before, SqlValue.less, integer_eq, Option.any_some]
  | oldest =>
    simp only [rowPast, EvidenceOrder.direction, Direction.past, EvidenceOrder.follows,
      EvidenceCursor.before, SqlValue.less, integer_eq, Option.any_some]
    rw [decide_eq_decide.2 eq_comm]

namespace EvidenceTable

variable {α : Type} (table : EvidenceTable α)

/-- The order of a statement is that of the positions. -/
theorem ordered_cells (order : EvidenceOrder) (a b : α) :
    ordered [(table.names.changed, order.direction), (table.names.id, order.direction)] (table.cells b)
      (table.cells a) = order.follows (table.columns.cursor a) (table.columns.cursor b) := by
  have hordered : ordered [(table.names.changed, order.direction), (table.names.id, order.direction)]
      (table.cells b) (table.cells a) =
        (order.direction.before (some (.integer (table.columns.changed b)))
            (some (.integer (table.columns.changed a))) ||
          (decide (table.columns.changed b = table.columns.changed a) &&
            order.direction.before (some (.text (table.columns.id b)))
              (some (.text (table.columns.id a))))) := by
    rw [ordered, ordered, ordered, table.changed_cell, table.changed_cell, table.id_cell, table.id_cell,
      integer_cell_eq, Bool.and_false, Bool.or_false]
  rw [hordered]
  cases order with
  | newest =>
    rw [decide_eq_decide.2 (@eq_comm _ (table.columns.changed b) (table.columns.changed a))]
    rfl
  | oldest => rfl

/-- The filter by agent takes the agent, if there is one. -/
theorem binds_agent (agentId : Option String) (rest : List SqlValue) :
    Binds table.cells (agentId.toList.map fun _ => .equals table.names.agent)
      (agentId.toList.map .text ++ rest) rest fun row =>
        match agentId with
        | some agentId => decide (table.columns.agent row = some agentId)
        | none => true := by
  cases agentId with
  | none => exact .nil
  | some agentId =>
    refine .singleton rfl fun row => ?_
    rw [table.agent_cell, decide_eq_decide]
    cases table.columns.agent row <;> simp

/-- The filter of settled rows takes nothing. -/
theorem binds_settled (settled : Bool) (rest : List SqlValue) :
    Binds table.cells (if settled then [table.names.settled] else []) rest rest fun row =>
      !settled || table.columns.settled row := by
  cases settled with
  | false => exact .nil
  | true =>
    obtain ⟨keeps, hkeeps, hsettled⟩ := table.settled_term rest
    exact .singleton hkeeps hsettled

/-- The comparison takes the two parts of a cursor, if there is one. -/
theorem binds_after (order : EvidenceOrder) (after : Option EvidenceCursor) (rest : List SqlValue) :
    Binds table.cells (after.toList.map fun _ => .past order.direction table.names.changed table.names.id)
      (after.toList.flatMap (fun after => [.integer after.changedAtMs, .text after.id]) ++ rest) rest
      fun row =>
        match after with
        | some after => order.follows (table.columns.cursor row) after
        | none => true := by
  cases after with
  | none => exact .nil
  | some after =>
    refine .singleton rfl fun row => ?_
    rw [table.changed_cell, table.id_cell]
    exact rowPast_cursor order (table.columns.cursor row) after

/-- The statement of a page reads the rows of the page. -/
theorem fetch_eq (page : EvidencePage) (limit : Nat) :
    table.fetch page limit = .ok (evidenceRows table.columns page limit table.rows) := by
  have halways : ∀ rest, Binds table.cells [.always] rest rest fun _ => true := fun rest =>
    .singleton rfl fun _ => rfl
  have hbinds := (halways _).append (((table.binds_agent page.agentId _).append
    (table.binds_settled page.settled _)).append (table.binds_after page.order page.after
      [.integer limit]))
  have hparameters : bindEvidencePage page limit = page.agentId.toList.map .text ++
      (page.after.toList.flatMap (fun after => [.integer after.changedAtMs, .text after.id]) ++
        [.integer limit]) := List.append_assoc ..
  rw [← hparameters] at hbinds
  have hrows : (evidenceSelect table.select table.names page).rows table.cells
      (bindEvidencePage page limit) table.rows = _ := hbinds.rows_eq
  have horder : ∀ a b, (¬ordered (evidenceSelect table.select table.names page).order (table.cells b)
      (table.cells a) = true) ↔
        ¬page.order.follows (table.columns.cursor a) (table.columns.cursor b) = true := by
    intro a b
    rw [evidenceSelect, table.ordered_cells]
  rw [fetch, hrows, evidenceRows]
  simp only [horder]
  rfl

/-! ## Pages -/

/-- The rows that satisfy the filters of a page. -/
def satisfying (agentId : Option String) (settled : Bool) : List α :=
  table.rows.filter fun row =>
    agentId.all (fun agentId => decide (table.columns.agent row = some agentId)) &&
      (!settled || table.columns.settled row)

variable {table} (hids : KeyUnique table.columns.id table.rows) (agentId : Option String)
  (settled : Bool) (requested limit : Nat)
include hids

/-- A page of the oldest rows is the first of those past its cursor. -/
theorem isPage_oldest (after : Option EvidenceCursor) :
    IsPage table.columns.cursor after limit (table.satisfying agentId settled)
      (evidenceRows table.columns ⟨agentId, after, requested, settled, .oldest⟩ limit table.rows) := by
  refine isPage_sort (fun a b => ?_) ?_ fun row => ?_
  · rw [← not_lt, ← EvidenceCursor.before_iff]
    rfl
  · exact (List.filter_sublist.map _).nodup (EvidenceColumns.nodup_cursor hids)
  · have hpast : ∀ held ∈ after, EvidenceOrder.oldest.follows (table.columns.cursor row) held = true ↔
        held < table.columns.cursor row := fun held _ => EvidenceCursor.before_iff
    cases agentId <;> cases after <;> simp [satisfying, hpast, and_assoc]

/-- A page of the newest rows is the first of those past its cursor, the other way round. -/
theorem isPage_newest (after : Option EvidenceCursor) :
    IsPage (fun row => OrderDual.toDual (table.columns.cursor row)) (after.map OrderDual.toDual) limit
      (table.satisfying agentId settled)
      (evidenceRows table.columns ⟨agentId, after, requested, settled, .newest⟩ limit table.rows) := by
  refine isPage_sort (fun a b => ?_) ?_ fun row => ?_
  · rw [OrderDual.toDual_le_toDual, ← not_lt, ← EvidenceCursor.before_iff]
    rfl
  · exact (List.filter_sublist.map _).nodup (EvidenceColumns.nodup_cursor hids)
  · have hpast : ∀ held ∈ after, EvidenceOrder.newest.follows (table.columns.cursor row) held = true ↔
        table.columns.cursor row < held := fun held _ => EvidenceCursor.before_iff
    cases agentId <;> cases after <;> simp [satisfying, hpast, and_assoc]

/-- The rows that satisfy the filters, in the order of their positions. -/
theorem exists_sorted : ∃ oldest : List α, oldest.Perm (table.satisfying agentId settled) ∧
    oldest.Pairwise fun a b => table.columns.cursor a < table.columns.cursor b := by
  let rows := table.satisfying agentId settled
  let oldest := rows.insertionSort fun a b => table.columns.cursor a ≤ table.columns.cursor b
  have hperm : oldest.Perm rows := List.perm_insertionSort _ rows
  have hdistinct : (oldest.map table.columns.cursor).Nodup := by
    have hrows : (rows.map table.columns.cursor).Nodup :=
      (List.filter_sublist.map _).nodup (EvidenceColumns.nodup_cursor hids)
    exact (hperm.map _).nodup_iff.2 hrows
  have htotal : Std.Total fun a b : α => table.columns.cursor a ≤ table.columns.cursor b :=
    ⟨fun a b => le_total _ _⟩
  have htrans : IsTrans α fun a b => table.columns.cursor a ≤ table.columns.cursor b :=
    ⟨fun a b c => le_trans⟩
  refine ⟨oldest, hperm, ?_⟩
  refine ((List.pairwise_insertionSort _ rows).and (List.pairwise_map.1 hdistinct)).imp ?_
  exact fun hab => lt_of_le_of_ne hab.1 hab.2

end EvidenceTable

/-! ## Walks -/

/-- Walks in both directions go through the rows that satisfy the filters, each one once, and are each
other's reverse. -/
def Tiles {α : Type} (table : EvidenceTable α) (read : EvidencePage → Except FleetError (List α))
    (agentId : Option String) (settled : Bool) (limit : Nat) : Prop :=
  ∃ oldest : List α, oldest.Perm (table.satisfying agentId settled) ∧
    ∀ reads, table.rows.length < reads →
      walk (fun after => read ⟨agentId, after, limit, settled, .oldest⟩) table.columns.cursor reads none =
        .ok (some oldest) ∧
      walk (fun after => read ⟨agentId, after, limit, settled, .newest⟩) table.columns.cursor reads none =
        .ok (some oldest.reverse)

/-- Pages that hold what the statement reads, wherever a walk stands, tile the table. -/
theorem EvidenceTable.tiles {α : Type} {table : EvidenceTable α}
    (hids : KeyUnique table.columns.id table.rows)
    {read : EvidencePage → Except FleetError (List α)} {limit : Nat}
    (hread : ∀ page, page.limit = limit →
      (∀ held ∈ page.after, ∃ row ∈ table.rows, table.columns.cursor row = held) →
      read page = .ok (evidenceRows table.columns page (max 1 (min limit maxEvidencePage)) table.rows))
    (agentId : Option String) (settled : Bool) : Tiles table read agentId settled limit := by
  obtain ⟨oldest, hperm, hsorted⟩ := exists_sorted hids agentId settled
  have hlimit : 0 < max 1 (min limit maxEvidencePage) := by omega
  have hrows : ∀ r ∈ table.satisfying agentId settled, r ∈ table.rows := fun r hr =>
    List.mem_of_mem_filter hr
  refine ⟨oldest, hperm, fun reads hreads => ?_⟩
  have hlength : (table.satisfying agentId settled).length < reads :=
    (List.length_filter_le _ _).trans_lt hreads
  constructor
  · refine walk_eq hlimit (fun after hafter => ?_) hsorted (fun r => hperm.mem_iff) hlength
    refine ⟨_, hread _ rfl fun held hheld => ?_, isPage_oldest hids agentId settled limit _ after⟩
    obtain ⟨row, hrow, hcursor⟩ := hafter held hheld
    exact ⟨row, hrows row hrow, hcursor⟩
  · have hreversed : oldest.reverse.Pairwise fun a b =>
        OrderDual.toDual (table.columns.cursor a) < OrderDual.toDual (table.columns.cursor b) :=
      List.pairwise_reverse.2 hsorted
    refine walk_eq (κ := EvidenceCursorᵒᵈ) hlimit (fun after hafter => ?_) hreversed
      (fun r => List.mem_reverse.trans hperm.mem_iff) hlength
    refine ⟨_, hread _ rfl fun held hheld => ?_, ?_⟩
    · obtain ⟨row, hrow, hcursor⟩ := hafter held hheld
      exact ⟨row, hrows row hrow, hcursor⟩
    · have hpage := isPage_newest hids agentId settled limit (max 1 (min limit maxEvidencePage)) after
      cases after with
      | none => exact hpage
      | some held => exact hpage

/-- A page whose cursor is the position of a row passes its check where no clock reading is
negative. -/
theorem EvidencePage.validate_of_cursor {α : Type} {columns : EvidenceColumns α} {rows : List α}
    (hclock : ∀ row ∈ rows, 0 ≤ columns.changed row) {page : EvidencePage}
    (hafter : ∀ held ∈ page.after, ∃ row ∈ rows, columns.cursor row = held) :
    page.validate = .ok (max 1 (min page.limit maxEvidencePage)) := by
  rw [EvidencePage.validate, if_neg]
  rw [Option.any_eq_true]
  rintro ⟨held, hheld, hnegative⟩
  obtain ⟨row, hrow, rfl⟩ := hafter held hheld
  have hchanged := hclock row hrow
  rw [decide_eq_true_eq] at hnegative
  exact absurd hnegative (not_lt.2 hchanged)

end Fleetd
