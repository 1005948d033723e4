import Fleetd.Relational.Table

/-!
# Rows that are live in a slot

Rows occupy slots, and a row is live until it is ended. Ending every live row of a slot before a new
one is put in keeps at most one live row in each slot, whatever the other slots hold.
-/

namespace Fleetd.Relational

variable {α κ : Type*} [DecidableEq κ] (slot : α → κ) (live : α → Bool) (stop : α → α)

/-- The live rows of a slot. -/
def liveIn (k : κ) (row : α) : Bool := live row && decide (slot row = k)

/-- No slot holds two live rows. -/
def OneLive (rows : List α) : Prop := ∀ k, rows.countP (liveIn slot live k) ≤ 1

/-- Ends every live row of a slot. -/
def endLive (k : κ) (rows : List α) : List α := updateWhere (liveIn slot live k) stop rows

/-- Ending a row leaves it in its slot, and it is live no more. -/
structure Ends : Prop where
  dead : ∀ row, live (stop row) = false
  slot : ∀ row, slot (stop row) = slot row

variable {slot live stop} {rows : List α} {row : α} {k other : κ}

theorem liveIn_iff : liveIn slot live k row = true ↔ live row = true ∧ slot row = k := by
  rw [liveIn, Bool.and_eq_true, decide_eq_true_iff]

/-- Two live rows of one slot are one row of the table. -/
theorem OneLive.eq (h : OneLive slot live rows) (hnodup : rows.Nodup) {x y : α} (hx : x ∈ rows)
    (hy : y ∈ rows) (hlive : live x = true) (hlive' : live y = true) (hslot : slot x = slot y) :
    x = y := by
  by_contra hne
  have hpair : [x, y].Subperm (rows.filter (liveIn slot live (slot y))) := by
    apply List.subperm_of_subset
    · exact List.nodup_cons.2 ⟨by simpa using hne, List.nodup_singleton y⟩
    · intro z hz
      rw [List.mem_cons, List.mem_singleton] at hz
      rcases hz with rfl | rfl
      · exact List.mem_filter.2 ⟨hx, liveIn_iff.2 ⟨hlive, hslot⟩⟩
      · exact List.mem_filter.2 ⟨hy, liveIn_iff.2 ⟨hlive', rfl⟩⟩
  have hle := hpair.length_le
  have hone := h (slot y)
  rw [List.countP_eq_length_filter] at hone
  rw [List.length_cons, List.length_singleton] at hle
  omega

theorem OneLive.nil : OneLive slot live ([] : List α) := fun _ => Nat.zero_le 1

/-- A row after its slot was ended is not live. -/
theorem not_live_of_mem_endLive (hends : Ends slot live stop) (h : row ∈ endLive slot live stop k rows)
    (hslot : slot row = k) : live row = false := by
  obtain ⟨before, -, rfl⟩ := mem_updateWhere.1 h
  by_cases hlive : liveIn slot live k before = true
  · rw [if_pos hlive]
    exact hends.dead before
  · rw [if_neg hlive] at hslot ⊢
    exact Bool.eq_false_iff.2 fun h => hlive (liveIn_iff.2 ⟨h, hslot⟩)

/-- Ending a slot leaves the live rows of the others alone. -/
theorem countP_endLive (hends : Ends slot live stop) (hother : other ≠ k) :
    (endLive slot live stop k rows).countP (liveIn slot live other) =
      rows.countP (liveIn slot live other) := by
  rw [endLive, updateWhere, List.countP_map]
  apply List.countP_congr
  intro x _
  show liveIn slot live other (if liveIn slot live k x then stop x else x) = true ↔ _
  by_cases hlive : liveIn slot live k x = true
  · have hslot := (liveIn_iff.1 hlive).2
    rw [if_pos hlive, liveIn_iff, liveIn_iff, hends.slot, hslot]
    exact iff_of_false (fun h => hother h.2.symm) (fun h => hother h.2.symm)
  · rw [if_neg hlive]

theorem countP_endLive_self (hends : Ends slot live stop) :
    (endLive slot live stop k rows).countP (liveIn slot live k) = 0 := by
  apply List.countP_eq_zero.2
  intro row hrow hlive
  obtain ⟨hlive, hslot⟩ := liveIn_iff.1 hlive
  rw [not_live_of_mem_endLive hends hrow hslot] at hlive
  cases hlive

theorem OneLive.endLive (h : OneLive slot live rows) (hends : Ends slot live stop) (k : κ) :
    OneLive slot live (Relational.endLive slot live stop k rows) := by
  intro other
  by_cases hother : other = k
  · rw [hother, countP_endLive_self hends]
    exact Nat.zero_le 1
  · rw [countP_endLive hends hother]
    exact h other

/-- A row may be put into a slot without live rows. -/
theorem OneLive.append (h : OneLive slot live rows)
    (hempty : rows.countP (liveIn slot live (slot row)) = 0) : OneLive slot live (rows ++ [row]) := by
  intro k
  rw [List.countP_append]
  by_cases hslot : slot row = k
  · have hone := List.countP_le_length (p := liveIn slot live k) (l := [row])
    rw [← hslot, hempty, Nat.zero_add]
    rw [hslot]
    exact hone
  · have hzero : [row].countP (liveIn slot live k) = 0 := by
      apply List.countP_eq_zero.2
      intro x hx hlive
      rw [List.mem_singleton.1 hx] at hlive
      exact hslot (liveIn_iff.1 hlive).2
    rw [hzero, Nat.add_zero]
    exact h k

/-- Ending a slot makes room for a new row. -/
theorem OneLive.replace (h : OneLive slot live rows) (hends : Ends slot live stop) (row : α) :
    OneLive slot live (Relational.endLive slot live stop (slot row) rows ++ [row]) :=
  (h.endLive hends (slot row)).append (countP_endLive_self hends)

end Fleetd.Relational
