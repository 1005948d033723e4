import Mathlib.Data.List.AList
import Mathlib.Data.List.Count

/-!
# Counters kept beside a collection

A map of counters, one for each key that occurs in some collection, which is adjusted when an
item comes or goes and never computed from the collection. A counter of zero is not kept. The
map tallies a list of keys when it says how often each one occurs; both adjustments keep it a
tally, and the one that goes down finds its counter.
-/

namespace Fleetd.Tally

variable {κ : Type*} [DecidableEq κ]

/-- Counters by key. -/
abbrev Counts (κ : Type*) := AList fun _ : κ => ℕ

/-- One more of a key. -/
def increment (counts : Counts κ) (key : κ) : Counts κ :=
  counts.insert key ((counts.lookup key).getD 0 + 1)

/-- One less of a key. There is no counter to adjust, or it is zero, when the result is `none`. -/
def decrement (counts : Counts κ) (key : κ) : Option (Counts κ) :=
  match counts.lookup key with
  | none | some 0 => none
  | some (n + 1) => if n = 0 then some (counts.erase key) else some (counts.insert key n)

/-- The counters say how often each key occurs. -/
def Tallies (counts : Counts κ) (keys : List κ) : Prop :=
  ∀ key, counts.lookup key = if keys.count key = 0 then none else some (keys.count key)

variable {counts : Counts κ} {keys keys' : List κ} {key : κ}

theorem tallies_nil : Tallies (∅ : Counts κ) [] := fun key => by simp

/-- A tally does not depend on an order. -/
theorem Tallies.perm (h : Tallies counts keys) (hperm : keys.Perm keys') : Tallies counts keys' :=
  fun key => by rw [h key, hperm.count_eq]

/-- The number that a counter stands for. -/
theorem Tallies.getD (h : Tallies counts keys) (key : κ) :
    (counts.lookup key).getD 0 = keys.count key := by
  rw [h key]
  split
  · rename_i hzero
    exact hzero.symm
  · rfl

/-- A tally of nothing is empty. -/
theorem Tallies.empty (h : Tallies counts []) : counts = ∅ := by
  refine AList.ext ?_
  cases hentries : counts.entries with
  | nil => rfl
  | cons entry rest =>
    have hlookup : counts.lookup entry.1 = some entry.2 :=
      AList.mem_lookup_iff.mpr (hentries ▸ List.mem_cons_self ..)
    rw [h entry.1] at hlookup
    simp at hlookup

theorem Tallies.increment (h : Tallies counts keys) (key : κ) :
    Tallies (increment counts key) (key :: keys) := by
  intro other
  rw [Tally.increment, h.getD]
  by_cases hother : other = key
  · subst hother
    simp
  · rw [AList.lookup_insert_ne hother, h other, List.count_cons_of_ne (Ne.symm hother)]

/-- Going down by a key that occurs finds its counter. -/
theorem Tallies.decrement (h : Tallies counts (key :: keys)) :
    ∃ next, decrement counts key = some next ∧ Tallies next keys := by
  have hlookup : counts.lookup key = some (keys.count key + 1) := by
    rw [h key, List.count_cons_self]
    exact if_neg (Nat.succ_ne_zero _)
  have hother : ∀ other, other ≠ key →
      counts.lookup other = if keys.count other = 0 then none else some (keys.count other) := by
    intro other hne
    rw [h other, List.count_cons_of_ne (Ne.symm hne)]
  rw [Tally.decrement, hlookup]
  simp only
  split
  · rename_i hzero
    refine ⟨_, rfl, fun other => ?_⟩
    by_cases hne : other = key
    · subst hne
      rw [AList.lookup_erase, if_pos hzero]
    · rw [AList.lookup_erase_ne hne, hother other hne]
  · rename_i hpos
    refine ⟨_, rfl, fun other => ?_⟩
    by_cases hne : other = key
    · subst hne
      rw [AList.lookup_insert, if_neg hpos]
    · rw [AList.lookup_insert_ne hne, hother other hne]

/-- Taking an entry out of a map leaves the others. -/
theorem entries_perm_erase {β : Type*} {map : AList fun _ : κ => β} {value : β}
    (h : map.lookup key = some value) : map.entries.Perm (⟨key, value⟩ :: (map.erase key).entries) := by
  have hmem : key ∈ map.entries.keys :=
    AList.mem_keys.mp (AList.lookup_isSome.mp (by rw [h]; rfl))
  obtain ⟨value', before, after, hbefore, hentries, herase⟩ := List.exists_of_kerase hmem
  have hvalue : map.lookup key = some value' :=
    AList.mem_lookup_iff.mpr (by rw [hentries]; exact List.mem_append_right _ (List.mem_cons_self ..))
  cases Option.some.inj (h.symm.trans hvalue)
  change List.Perm map.entries (_ :: map.entries.kerase key)
  rw [herase, hentries]
  exact List.perm_middle

/-- Taking an entry out of a map keeps the entries with other keys. -/
theorem entries_erase {β : Type*} (map : AList fun _ : κ => β) (key : κ) :
    (map.erase key).entries = map.entries.filter fun entry => decide (entry.1 ≠ key) := by
  obtain ⟨entries, hnodup⟩ := map
  change entries.kerase key = _
  induction entries with
  | nil => rfl
  | cons entry entries ih =>
    obtain ⟨hnot, hrest⟩ := List.nodupKeys_cons.mp hnodup
    by_cases hkey : key = entry.1
    · rw [List.kerase_cons_eq hkey, List.filter_cons_of_neg (by simp [hkey])]
      refine (List.filter_eq_self.mpr fun other hother => ?_).symm
      have hne : other.1 ≠ entry.1 := fun heq => hnot (heq ▸ List.mem_map_of_mem hother)
      simpa [hkey] using hne
    · rw [List.kerase_cons_ne hkey, List.filter_cons_of_pos (by simpa using Ne.symm hkey), ih hrest]

end Fleetd.Tally
