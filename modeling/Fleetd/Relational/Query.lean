import Mathlib.Data.List.Dedup
import Mathlib.Data.List.Perm.Basic
import Fleetd.Relational.Table

/-!
# Joins and groups

A left join pairs every row with its partners, or with nothing when it has none. Grouping puts the
rows of each key together. When the key identifies the rows on the left, every one of them is a
group of its own, made of its partners.
-/

namespace Fleetd.Relational

variable {α β γ κ : Type}

/-- One row with its partners. -/
def joined (on : α → β → Bool) (others : List β) (a : α) : List (α × Option β) :=
  match others.filter (on a) with
  | [] => [(a, none)]
  | partners => partners.map fun b => (a, some b)

/-- Every row with its partners. -/
def leftJoin (on : α → β → Bool) (rows : List α) (others : List β) : List (α × Option β) :=
  rows.flatMap (joined on others)

/-- The rows of each key, once for every key. -/
def groupRows [DecidableEq κ] (key : γ → κ) (rows : List γ) : List (κ × List γ) :=
  (rows.map key).dedup.map fun k => (k, rows.filter fun row => decide (key row = k))

section Joined
variable {on : α → β → Bool} {others : List β} {a : α}

theorem fst_of_mem_joined {row : α × Option β} (h : row ∈ joined on others a) : row.1 = a := by
  unfold joined at h
  split at h
  · rw [List.mem_singleton.1 h]
  · obtain ⟨b, -, rfl⟩ := List.mem_map.1 h
    rfl

theorem joined_ne_nil : joined on others a ≠ [] := by
  unfold joined
  split
  · exact List.cons_ne_nil _ _
  · rename_i hne
    simpa using hne

/-- The partners of a row, read off the join. -/
theorem filterMap_joined : (joined on others a).filterMap (·.2) = others.filter (on a) := by
  unfold joined
  split
  · rename_i hnil
    simp [hnil]
  · rw [List.filterMap_map]
    exact List.filterMap_some

/-- The partners that satisfy a condition, counted on the join. -/
theorem countP_joined (p : α → β → Bool) :
    (joined on others a).countP (fun row => row.2.any (p row.1)) =
      ((others.filter (on a)).filter (p a)).length := by
  rw [← List.countP_eq_length_filter]
  unfold joined
  split
  · rename_i hnil
    simp [hnil]
  · rw [List.countP_map]
    rfl

/-- A function of the partners, mapped on the join. -/
theorem filterMap_joined_bind {δ : Type} (f : α → β → Option δ) :
    (joined on others a).filterMap (fun row => row.2.bind (f row.1)) =
      (others.filter (on a)).filterMap (f a) := by
  rw [← filterMap_joined, List.filterMap_filterMap]
  exact List.filterMap_congr fun row hrow => by rw [fst_of_mem_joined hrow]

end Joined

section LeftJoin
variable {on : α → β → Bool} {rows : List α} {others : List β}

/-- A condition on the left side may be applied before the join. -/
theorem filter_leftJoin (p : α → Bool) :
    (leftJoin on rows others).filter (fun row => p row.1) = leftJoin on (rows.filter p) others := by
  induction rows with
  | nil => rfl
  | cons a rows ih =>
    have hhead : (joined on others a).filter (fun row => p row.1) =
        if p a = true then joined on others a else [] := by
      split
      · rename_i hp
        exact List.filter_eq_self.2 fun row hrow => by rw [fst_of_mem_joined hrow, hp]
      · rename_i hp
        exact List.filter_eq_nil_iff.2 fun row hrow => by rw [fst_of_mem_joined hrow]; exact hp
    rw [leftJoin, List.flatMap_cons, List.filter_append, hhead, ← leftJoin, ih, List.filter_cons]
    split
    · rw [leftJoin, leftJoin, List.flatMap_cons]
    · rfl

/-- The rows of one key on the left are the partners of one row. -/
theorem filter_leftJoin_key [DecidableEq κ] {key : α → κ} (hunique : KeyUnique key rows) {a : α}
    (ha : a ∈ rows) :
    (leftJoin on rows others).filter (fun row => decide (key row.1 = key a)) = joined on others a := by
  have hsingle : rows.filter (fun b => decide (key b = key a)) = [a] := by
    induction rows with
    | nil => cases ha
    | cons b rows ih =>
      rw [KeyUnique, List.map_cons, List.nodup_cons] at hunique
      obtain ⟨hnew, hrest⟩ := hunique
      obtain rfl | hmem := List.mem_cons.1 ha
      · rw [List.filter_cons_of_pos (by simp)]
        have hnone : rows.filter (fun b => decide (key b = key a)) = [] := by
          refine List.filter_eq_nil_iff.2 fun c hc => ?_
          rw [decide_eq_true_eq]
          exact fun heq => hnew (heq ▸ List.mem_map_of_mem hc)
        rw [hnone]
      · rw [List.filter_cons_of_neg, ih hrest hmem]
        rw [decide_eq_true_eq]
        exact fun heq => hnew (heq ▸ List.mem_map_of_mem hmem)
  rw [filter_leftJoin (fun b => decide (key b = key a)), hsingle, leftJoin, List.flatMap_cons,
    List.flatMap_nil, List.append_nil]

/-- Grouped by a key of the left side, every row is a group of its own. -/
theorem groupRows_leftJoin [DecidableEq κ] {key : α → κ} (hunique : KeyUnique key rows)
    (on : α → β → Bool) (others : List β) :
    (groupRows (fun row => key row.1) (leftJoin on rows others)).Perm
      (rows.map fun a => (key a, joined on others a)) := by
  have hkeys : ((leftJoin on rows others).map fun row => key row.1).dedup.Perm (rows.map key) := by
    rw [List.perm_ext_iff_of_nodup (List.nodup_dedup _) hunique]
    intro k
    rw [List.mem_dedup, List.mem_map, List.mem_map]
    constructor
    · rintro ⟨row, hrow, rfl⟩
      obtain ⟨a, ha, hjoined⟩ := List.mem_flatMap.1 hrow
      exact ⟨a, ha, by rw [fst_of_mem_joined hjoined]⟩
    · rintro ⟨a, ha, rfl⟩
      obtain ⟨row, hrow⟩ := List.exists_mem_of_ne_nil (joined on others a) joined_ne_nil
      exact ⟨row, List.mem_flatMap.2 ⟨a, ha, hrow⟩, by rw [fst_of_mem_joined hrow]⟩
  have hgroups : rows.map (fun a => (key a, joined on others a)) =
      (rows.map key).map fun k =>
        (k, (leftJoin on rows others).filter fun row => decide (key row.1 = k)) := by
    rw [List.map_map]
    refine List.map_congr_left fun a ha => ?_
    rw [Function.comp_apply, filter_leftJoin_key hunique ha]
  rw [groupRows, hgroups]
  exact hkeys.map _

end LeftJoin

end Fleetd.Relational
