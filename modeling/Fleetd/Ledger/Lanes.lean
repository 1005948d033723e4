import Fleetd.Ledger.Sessions

/-!
# Lanes and their generations

The part of the ledger's invariant that is about the generations of a lane. The rows of a
lane, in the order they were inserted, carry the generation numbers 1, 2, 3 and so on under
one binding identifier, and every generation but the last is retired.
-/

namespace Fleetd

open Relational

/-- The generations of a lane in insertion order. -/
def laneRows (lane : String × String × String) (rows : List SessionBinding) :
    List SessionBinding :=
  rows.filter fun row => decide (row.lane = lane)

/-- The generations of every lane are numbered in order and all but the last are retired. -/
structure LanesConsistent (l : Ledger) : Prop where
  binding : ∀ row ∈ l.sessionBindings, ∀ other ∈ l.sessionBindings,
    row.lane = other.lane ↔ row.bindingId = other.bindingId
  generations : ∀ lane, (laneRows lane l.sessionBindings).map (·.bindingGeneration) =
    List.range' 1 (laneRows lane l.sessionBindings).length
  superseded : ∀ row ∈ l.sessionBindings, ∀ other ∈ l.sessionBindings, row.lane = other.lane →
    row.bindingGeneration < other.bindingGeneration → row.state.isRetired = true
  epoch : ∀ row ∈ l.sessionBindings, 0 < row.ownerEpoch

section Consequences

variable {l : Ledger}

theorem mem_laneRows {lane : String × String × String} {rows : List SessionBinding}
    {row : SessionBinding} : row ∈ laneRows lane rows ↔ row ∈ rows ∧ row.lane = lane := by
  simp [laneRows]

/-- Generation numbers of a lane lie between one and the number of its generations. -/
theorem LanesConsistent.generation_mem (h : LanesConsistent l) {row : SessionBinding}
    (hrow : row ∈ l.sessionBindings) :
    1 ≤ row.bindingGeneration ∧
      row.bindingGeneration ≤ (laneRows row.lane l.sessionBindings).length := by
  have hmem : row.bindingGeneration ∈
      (laneRows row.lane l.sessionBindings).map (·.bindingGeneration) :=
    List.mem_map.mpr ⟨row, mem_laneRows.mpr ⟨hrow, rfl⟩, rfl⟩
  rw [h.generations, List.mem_range'_1] at hmem
  omega

/-- Every number up to the number of generations of a lane is taken. -/
theorem LanesConsistent.exists_generation (h : LanesConsistent l) {lane : String × String × String}
    {generation : Nat} (hpos : 1 ≤ generation)
    (hle : generation ≤ (laneRows lane l.sessionBindings).length) :
    ∃ row ∈ l.sessionBindings, row.lane = lane ∧ row.bindingGeneration = generation := by
  have hmem : generation ∈ (laneRows lane l.sessionBindings).map (·.bindingGeneration) := by
    rw [h.generations, List.mem_range'_1]
    omega
  obtain ⟨row, hrow, hgen⟩ := List.mem_map.mp hmem
  obtain ⟨hrow, hlane⟩ := mem_laneRows.mp hrow
  exact ⟨row, hrow, hlane, hgen⟩

/-- A lane and a generation number identify one row. -/
theorem LanesConsistent.eq_of_generation (h : LanesConsistent l)
    (hkeys : KeyUnique SessionBinding.key l.sessionBindings) {row other : SessionBinding}
    (hrow : row ∈ l.sessionBindings) (hother : other ∈ l.sessionBindings)
    (hlane : row.lane = other.lane) (hgen : row.bindingGeneration = other.bindingGeneration) :
    row = other :=
  hkeys.eq hrow hother (Prod.ext ((h.binding row hrow other hother).mp hlane) hgen)

/-- A lane has at most one generation that is not retired. -/
theorem LanesConsistent.current_unique (h : LanesConsistent l)
    (hkeys : KeyUnique SessionBinding.key l.sessionBindings) {row other : SessionBinding}
    (hrow : row ∈ l.sessionBindings) (hother : other ∈ l.sessionBindings)
    (hlane : row.lane = other.lane) (hr : row.state.isRetired = false)
    (ho : other.state.isRetired = false) : row = other := by
  rcases Nat.lt_trichotomy row.bindingGeneration other.bindingGeneration with hlt | heq | hgt
  · rw [h.superseded row hrow other hother hlane hlt] at hr
    cases hr
  · exact h.eq_of_generation hkeys hrow hother hlane heq
  · rw [h.superseded other hother row hrow hlane.symm hgt] at ho
    cases ho

/-- The generation that is not retired is the last one. -/
theorem LanesConsistent.generation_of_current (h : LanesConsistent l) {row : SessionBinding}
    (hrow : row ∈ l.sessionBindings) (hcurrent : row.state.isRetired = false) :
    row.bindingGeneration = (laneRows row.lane l.sessionBindings).length := by
  have hbounds := h.generation_mem hrow
  by_contra hne
  have hlt : row.bindingGeneration + 1 ≤ (laneRows row.lane l.sessionBindings).length := by omega
  obtain ⟨other, hother, hlane, hgen⟩ := h.exists_generation (Nat.succ_pos _) hlt
  rw [h.superseded row hrow other hother hlane.symm (by omega)] at hcurrent
  cases hcurrent

/-- A generation numbered past the end of its lane has a new key. -/
theorem LanesConsistent.key_new (h : LanesConsistent l) {row : SessionBinding}
    (hgen : row.bindingGeneration =
      (l.sessionBindings.filter fun other => other.lane = row.lane).length + 1)
    (hlane : ∀ other ∈ l.sessionBindings,
      other.lane = row.lane ↔ other.bindingId = row.bindingId) :
    ∀ other ∈ l.sessionBindings, other.key ≠ row.key := by
  intro other hother hkey
  obtain ⟨hid, hg⟩ : other.bindingId = row.bindingId ∧
      other.bindingGeneration = row.bindingGeneration := Prod.ext_iff.mp hkey
  have hl := (hlane other hother).mpr hid
  have hbound := (h.generation_mem hother).2
  rw [hl] at hbound
  have hsame : laneRows row.lane l.sessionBindings =
      l.sessionBindings.filter fun other => other.lane = row.lane := rfl
  rw [hsame] at hbound
  omega

end Consequences

section Preservation

variable {l l' : Ledger}

/-- Moves that do not touch bindings. -/
theorem LanesConsistent.congr (h : LanesConsistent l)
    (hS : l'.sessionBindings = l.sessionBindings) : LanesConsistent l' := by
  constructor <;> rw [hS]
  exacts [h.binding, h.generations, h.superseded, h.epoch]

/-- A rewritten row with the same identity that does not return from retirement. -/
theorem LanesConsistent.rewrite (h : LanesConsistent l) {row row' : SessionBinding}
    (hS : l'.sessionBindings = replaceRow row row' l.sessionBindings)
    (hrow : row ∈ l.sessionBindings) (hid : row'.bindingId = row.bindingId)
    (hgen : row'.bindingGeneration = row.bindingGeneration) (hlane : row'.lane = row.lane)
    (hretired : row.state.isRetired = true → row'.state.isRetired = true)
    (hepoch : 0 < row'.ownerEpoch) : LanesConsistent l' := by
  -- every row has an old row with the same identity
  have hold : ∀ x ∈ replaceRow row row' l.sessionBindings, ∃ y ∈ l.sessionBindings,
      x.bindingId = y.bindingId ∧ x.bindingGeneration = y.bindingGeneration ∧ x.lane = y.lane ∧
        (y.state.isRetired = true → x.state.isRetired = true) := by
    intro x hx
    rcases mem_replaceRow.mp hx with ⟨rfl, _⟩ | ⟨hx, _⟩
    · exact ⟨row, hrow, hid, hgen, hlane, hretired⟩
    · exact ⟨x, hx, rfl, rfl, rfl, id⟩
  have hsel : ∀ x : SessionBinding, (if decide (x = row) = true then row' else x).lane = x.lane := by
    intro x
    by_cases hx : x = row <;> simp [hx, hlane]
  have hlanes : ∀ lane, laneRows lane (replaceRow row row' l.sessionBindings) =
      replaceRow row row' (laneRows lane l.sessionBindings) := by
    intro lane
    simp only [laneRows, replaceRow, updateWhere, List.filter_map]
    congr 1
    refine List.filter_congr fun x _ => ?_
    simp only [Function.comp_apply, hsel x]
  constructor <;> rw [hS]
  · intro x hx y hy
    obtain ⟨x', hx', hxi, _, hxl, _⟩ := hold x hx
    obtain ⟨y', hy', hyi, _, hyl, _⟩ := hold y hy
    rw [hxi, hyi, hxl, hyl]
    exact h.binding x' hx' y' hy'
  · intro lane
    have hmap : (replaceRow row row' (laneRows lane l.sessionBindings)).map (·.bindingGeneration) =
        (laneRows lane l.sessionBindings).map (·.bindingGeneration) :=
      map_updateWhere fun x _ hx => by rw [of_decide_eq_true hx, hgen]
    have hlen : (replaceRow row row' (laneRows lane l.sessionBindings)).length =
        (laneRows lane l.sessionBindings).length := by
      simp [replaceRow, updateWhere]
    rw [hlanes, hmap, hlen]
    exact h.generations lane
  · intro x hx y hy hxy hlt
    obtain ⟨x', hx', _, hxg, hxl, hxr⟩ := hold x hx
    obtain ⟨y', hy', _, hyg, hyl, _⟩ := hold y hy
    exact hxr (h.superseded x' hx' y' hy' (by rw [← hxl, hxy, hyl]) (by omega))
  · intro x hx
    rcases mem_replaceRow.mp hx with ⟨rfl, _⟩ | ⟨hx, _⟩
    · exact hepoch
    · exact h.epoch x hx

/-- A new generation at the end of its lane. -/
theorem LanesConsistent.found (h : LanesConsistent l) {row : SessionBinding}
    (hepoch : row.ownerEpoch = 1)
    (hgen : row.bindingGeneration =
      (l.sessionBindings.filter fun other => other.lane = row.lane).length + 1)
    (hretired : ∀ other ∈ l.sessionBindings, other.lane = row.lane → other.state.isRetired = true)
    (hlane : ∀ other ∈ l.sessionBindings,
      other.lane = row.lane ↔ other.bindingId = row.bindingId) :
    LanesConsistent { l with sessionBindings := l.sessionBindings ++ [row] } where
  binding x hx y hy := by
    rcases List.mem_append.mp hx with hx | hx <;> rcases List.mem_append.mp hy with hy | hy
    · exact h.binding x hx y hy
    · rw [List.mem_singleton.mp hy]
      exact hlane x hx
    · rw [List.mem_singleton.mp hx]
      exact ⟨fun he => ((hlane y hy).mp he.symm).symm, fun he => ((hlane y hy).mpr he.symm).symm⟩
    · rw [List.mem_singleton.mp hx, List.mem_singleton.mp hy]
      exact ⟨fun _ => rfl, fun _ => rfl⟩
  generations lane := by
    have hsplit : laneRows lane (l.sessionBindings ++ [row]) =
        laneRows lane l.sessionBindings ++ laneRows lane [row] := List.filter_append ..
    rw [hsplit]
    by_cases hl : row.lane = lane
    · have hone : laneRows lane [row] = [row] := by simp [laneRows, hl]
      subst hl
      rw [hone, List.map_append, h.generations, List.length_append, List.length_singleton,
        List.range'_1_concat, List.map_singleton, hgen, Nat.add_comm 1]
      rfl
    · have hnone : laneRows lane [row] = [] := by simp [laneRows, hl]
      rw [hnone, List.append_nil]
      exact h.generations lane
  superseded x hx y hy hxy hlt := by
    rcases List.mem_append.mp hx with hx | hx <;> rcases List.mem_append.mp hy with hy | hy
    · exact h.superseded x hx y hy hxy hlt
    · rw [List.mem_singleton.mp hy] at hxy
      exact hretired x hx hxy
    · rw [List.mem_singleton.mp hx] at hxy hlt
      have hbound := (h.generation_mem hy).2
      rw [← hxy] at hbound
      have hsame : laneRows row.lane l.sessionBindings =
          l.sessionBindings.filter fun other => other.lane = row.lane := rfl
      rw [hsame] at hbound
      omega
    · rw [List.mem_singleton.mp hx, List.mem_singleton.mp hy] at hlt
      exact absurd hlt (lt_irrefl _)
  epoch x hx := by
    rcases List.mem_append.mp hx with hx | hx
    · exact h.epoch x hx
    · rw [List.mem_singleton.mp hx, hepoch]
      exact Nat.one_pos

end Preservation

end Fleetd
