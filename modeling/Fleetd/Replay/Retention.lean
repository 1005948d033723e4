import Mathlib.Data.List.Sort
import Mathlib.Data.List.Nodup

/-!
# Bounded retention

A list that is kept in the order of a numeric key and holds at most a bounded number of items. An
item is put in its place, and what is then too much is taken from the low end. What is retained of
all the items that ever came in are those with the highest keys.
-/

namespace Fleetd.Replay

variable {α : Type} (key : α → Nat)

/-- Puts an item behind those of lower or equal keys. -/
def insertSorted (item : α) (items : List α) : List α :=
  (items ++ [item]).mergeSort fun left right => decide (key left ≤ key right)

/-- The items that are retained of those that came in: in order, and the highest of them. -/
structure Retains (bound : Nat) (items taken : List α) : Prop where
  ascending : items.Pairwise fun left right => key left < key right
  subset : items ⊆ taken
  length_le : items.length ≤ bound
  highest : ∀ item ∈ taken, item ∉ items →
    items.length = bound ∧ ∀ kept ∈ items, key item < key kept

variable {key} {bound : Nat} {items taken : List α} {item : α}

theorem Retains.nil : Retains key bound ([] : List α) [] where
  ascending := List.Pairwise.nil
  subset := List.Subset.refl _
  length_le := Nat.zero_le _
  highest _ hitem := absurd hitem List.not_mem_nil

theorem insertSorted_perm : (insertSorted key item items).Perm (item :: items) :=
  (List.mergeSort_perm _ _).trans (List.perm_append_singleton item items)

theorem mem_insertSorted {other : α} :
    other ∈ insertSorted key item items ↔ other = item ∨ other ∈ items :=
  insertSorted_perm.mem_iff.trans List.mem_cons

theorem length_insertSorted : (insertSorted key item items).length = items.length + 1 :=
  insertSorted_perm.length_eq

/-- An item with a new key keeps the order strict. -/
theorem insertSorted_ascending (h : items.Pairwise fun left right => key left < key right)
    (hnew : ∀ other ∈ items, key other ≠ key item) :
    (insertSorted key item items).Pairwise fun left right => key left < key right := by
  have hsorted : (insertSorted key item items).Pairwise fun left right => key left ≤ key right := by
    have htrans : ∀ a b c : α, decide (key a ≤ key b) = true → decide (key b ≤ key c) = true →
        decide (key a ≤ key c) = true := by
      intro a b c hab hbc
      exact decide_eq_true (Nat.le_trans (of_decide_eq_true hab) (of_decide_eq_true hbc))
    have htotal : ∀ a b : α, (decide (key a ≤ key b) || decide (key b ≤ key a)) = true := by
      intro a b
      rw [Bool.or_eq_true, decide_eq_true_iff, decide_eq_true_iff]
      exact Nat.le_total _ _
    exact (List.pairwise_mergeSort htrans htotal (items ++ [item])).imp of_decide_eq_true
  have hdistinct : (insertSorted key item items).Pairwise fun left right => key left ≠ key right := by
    rw [insertSorted_perm.pairwise_iff fun h => Ne.symm h]
    exact List.pairwise_cons.2 ⟨fun other hother heq => hnew other hother heq.symm,
      h.imp fun hlt => Nat.ne_of_lt hlt⟩
  exact (hsorted.and hdistinct).imp fun hboth => Nat.lt_of_le_of_ne hboth.1 hboth.2

/-- Putting in an item and expiring what is too much retains the highest again. -/
theorem Retains.insert (h : Retains key bound items taken)
    (hnew : ∀ other ∈ items, key other ≠ key item) :
    Retains key bound ((insertSorted key item items).drop (items.length + 1 - bound))
      (taken ++ [item]) := by
  have hascending := insertSorted_ascending h.ascending hnew
  have hlength : (insertSorted key item items).length = items.length + 1 := length_insertSorted
  have hle := h.length_le
  constructor
  case ascending => exact hascending.sublist (List.drop_sublist _ _)
  case subset =>
    intro other hother
    rcases mem_insertSorted.1 (List.mem_of_mem_drop hother) with rfl | hmem
    · exact List.mem_append_right _ (List.mem_singleton_self _)
    · exact List.mem_append_left _ (h.subset hmem)
  case length_le =>
    rw [List.length_drop, hlength]
    omega
  case highest =>
    intro other hother hout
    by_cases hroom : items.length + 1 ≤ bound
    · -- nothing expires, and nothing expired before
      rw [Nat.sub_eq_zero_of_le hroom, List.drop_zero, mem_insertSorted, not_or] at hout
      rcases List.mem_append.1 hother with hother | hother
      · have hfull := (h.highest other hother hout.2).1
        omega
      · exact absurd (List.mem_singleton.1 hother) hout.1
    · -- the lowest item expires
      have hone : items.length + 1 - bound = 1 := by omega
      rw [hone] at hout ⊢
      cases hsorted : insertSorted key item items with
      | nil =>
        rw [hsorted] at hlength
        cases hlength
      | cons lowest rest =>
        rw [hsorted] at hout hascending hlength
        rw [List.drop_one, List.tail_cons] at hout ⊢
        obtain ⟨hlowest, -⟩ := List.pairwise_cons.1 hascending
        rw [List.length_cons] at hlength
        refine ⟨by omega, ?_⟩
        by_cases heq : other = lowest
        · rw [heq]
          exact hlowest
        · have hinside : other ∉ insertSorted key item items := by
            rw [hsorted, List.mem_cons, not_or]
            exact ⟨heq, hout⟩
          rw [mem_insertSorted, not_or] at hinside
          have hbelow : ∀ kept ∈ items, key other < key kept := by
            rcases List.mem_append.1 hother with hother | hother
            · exact (h.highest other hother hinside.2).2
            · exact absurd (List.mem_singleton.1 hother) hinside.1
          intro kept hkept
          have hmem : kept ∈ insertSorted key item items := by
            rw [hsorted]
            exact List.mem_cons_of_mem _ hkept
          rcases mem_insertSorted.1 hmem with rfl | hkept'
          · have hlow : lowest ∈ insertSorted key kept items := by
              rw [hsorted]
              exact List.mem_cons_self
            rcases mem_insertSorted.1 hlow with rfl | hlow
            · exact absurd (hlowest _ hkept) (Nat.lt_irrefl _)
            · exact Nat.lt_trans (hbelow lowest hlow) (hlowest kept hkept)
          · exact hbelow kept hkept'

end Fleetd.Replay
